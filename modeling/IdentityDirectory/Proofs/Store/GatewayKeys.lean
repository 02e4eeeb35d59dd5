import IdentityDirectory.Proofs.Store.Calls
/-!
The key of a gateway. Look-up, removal and replacement are meant to follow one key, the identifier if it
is not zero and the socket address otherwise. Rows are kept under the identifier alone, so a gateway
without one is replaced by its key only where both lead to the same row.
-/
namespace IdentityDirectory

def Gateway.HasKey (g : Gateway) : Prop := g.id.isZero = false ∨ g.endpoint ≠ none

namespace GatewayStore

def after (s : GatewayStore) (c : GatewayChange) : GatewayStore := (s.change c).toOption.getD s

def afterAll (s : GatewayStore) (changes : List GatewayChange) : GatewayStore := changes.foldl after s

def named? (s : GatewayStore) (key : Gateway) : Option Gateway :=
  if !key.id.isZero then Rows.find? Gateway.key key.key s.rows
  else if key.endpoint.isNone then none
  else s.rows.find? fun g => g.endpoint = key.endpoint

def HasReplaced (s t : GatewayStore) (old new : Gateway) : Prop :=
  t.size = s.size ∧ ∀ g, g ∈ t.rows ↔ g = new ∨ g ∈ s.rows ∧ g ≠ old

def HasGained (s t : GatewayStore) (new : Gateway) : Prop :=
  t.size = s.size + 1 ∧ ∀ g, g ∈ t.rows ↔ g = new ∨ g ∈ s.rows

def HasLost (s t : GatewayStore) (old : Gateway) : Prop :=
  old ∈ s.rows ∧ t.size + 1 = s.size ∧ ∀ g, g ∈ t.rows ↔ g ∈ s.rows ∧ g ≠ old

/-- The rule of the key, for a gateway that is put into one store and so makes another: it takes the place
of what its key names, and its key names it from then on. -/
structure KeyRule (s t : GatewayStore) (g : Gateway) : Prop where
  replaced : ∀ old, s.get g = .ok old → s.HasReplaced t old g
  gained : ∀ cause, s.get g = .error cause → s.HasGained t g
  found : t.get g = .ok g
  removed : ∃ u, t.remove g = .ok u ∧ t.HasLost u g

structure Governed (s : GatewayStore) : Prop where
  memory : s.backing = .memory
  sorted : Rows.IsAscending Gateway.key s.rows

variable {s t : GatewayStore} {g key : Gateway}

theorem Governed.withRows (h : s.Governed) {rows : List Gateway}
    (sorted : Rows.IsAscending Gateway.key rows) : (s.withRows rows).Governed where
  memory := by
    unfold GatewayStore.withRows
    rw [h.memory]
    rfl
  sorted := sorted

theorem Governed.after (h : s.Governed) (c : GatewayChange) : (s.after c).Governed := by
  unfold GatewayStore.after
  cases c with
  | put g =>
    cases outcome : s.change (.put g) with
    | error cause => exact h
    | ok t =>
      obtain rfl := put_eq_ok outcome
      exact h.withRows (Rows.isAscending_insert Gateway.key g h.sorted)
  | remove key =>
    cases outcome : s.change (.remove key) with
    | error cause => exact h
    | ok t =>
      obtain ⟨g, -, rfl⟩ := remove_eq_ok outcome
      exact h.withRows (Rows.isAscending_erase g.key h.sorted)

theorem Governed.afterAll (h : s.Governed) (changes : List GatewayChange) :
    (s.afterAll changes).Governed := by
  induction changes generalizing s with
  | nil => exact h
  | cons c changes ih => exact ih (h.after c)

theorem governed_make : (make .memory).Governed := ⟨rfl, List.Pairwise.nil⟩

theorem Governed.size_eq (h : s.Governed) : s.size = s.rows.length := by
  rw [size, h.memory]
  rfl

theorem named?_byId (s : GatewayStore) (g : Gateway) :
    s.named? ⟨g.id, none⟩ =
      if g.id.isZero = true then none else Rows.find? Gateway.key g.key s.rows := by
  unfold named?
  cases g.id.isZero <;> rfl

theorem named?_byEndpoint (s : GatewayStore) (e : Option Endpoint) :
    s.named? ⟨⟨0⟩, e⟩ = if e = none then none else s.rows.find? fun g => g.endpoint = e := by
  cases e <;> rfl

theorem find_eq (s : GatewayStore) (key : Gateway) :
    s.find key = match s.named? key with
      | some g => .ok g
      | none => .error .notFound := rfl

theorem find_eq_ok_iff : s.find key = .ok g ↔ s.named? key = some g := by
  rw [find_eq]
  cases s.named? key <;> simp

theorem Governed.get_eq (h : s.Governed) (key : Gateway) :
    s.get key = match s.named? key with
      | some g => .ok g
      | none => .error .notFound := by
  rw [get, h.memory]
  exact find_eq s key

theorem Governed.get_eq_ok (h : s.Governed) : s.get key = .ok g ↔ s.named? key = some g := by
  rw [h.get_eq]
  cases s.named? key <;> simp

theorem Governed.put_eq (h : s.Governed) (g : Gateway) :
    s.put g = .ok (s.withRows (Rows.insert Gateway.key g s.rows)) := by
  rw [put, h.memory]
  rfl

theorem Governed.remove_eq (h : s.Governed) (named : s.named? key = some g) :
    s.remove key = .ok (s.withRows (Rows.erase Gateway.key g.key s.rows)) := by
  rw [remove, h.memory, find_eq_ok_iff.mpr named]
  rfl

theorem Governed.eq_of_key (h : s.Governed) {f g : Gateway} (first : f ∈ s.rows) (second : g ∈ s.rows)
    (same : f.key = g.key) : f = g := by
  have here := (Rows.find?_eq_some_iff h.sorted).mpr ⟨first, same⟩
  have there := (Rows.find?_eq_some_iff h.sorted).mpr ⟨second, rfl⟩
  exact Option.some.inj (here.symm.trans there)

/-- A gateway that is stored is named by its key. Without an identifier it has the lowest of all, so no
other row with its address comes before it. -/
theorem Governed.named?_of_mem (h : s.Governed) (stored : g ∈ s.rows) (keyed : g.HasKey) :
    s.named? g = some g := by
  unfold named?
  cases zero : g.id.isZero with
  | false =>
    rw [if_pos (by rfl)]
    exact (Rows.find?_eq_some_iff h.sorted).mpr ⟨stored, rfl⟩
  | true =>
    have addressed : g.endpoint ≠ none := keyed.resolve_left (by rw [zero]; decide)
    have lowest : g.key = 0 := congrArg UInt64.toNat (of_decide_eq_true zero)
    rw [if_neg (by decide), if_neg (by simpa using addressed)]
    cases first : s.rows.find? fun f => f.endpoint = g.endpoint with
    | none => simpa using List.find?_eq_none.mp first g stored
    | some f =>
      have below := Rows.key_le_of_find? h.sorted first stored (decide_eq_true rfl)
      have same : f.key = g.key := by omega
      rw [h.eq_of_key (List.mem_of_find?_eq_some first) stored same]

theorem hasKey_of_named? (named : s.named? key = some g) : key.HasKey := by
  unfold named? at named
  split at named
  · rename_i set
    exact Or.inl (by simpa using set)
  · split at named
    · contradiction
    · rename_i addressed
      exact Or.inr (by simpa using addressed)

theorem mem_of_named? (named : s.named? key = some g) : g ∈ s.rows := by
  unfold named? at named
  split at named
  · exact (Rows.mem_of_find? named).1
  · split at named
    · contradiction
    · exact List.mem_of_find?_eq_some named

theorem Governed.hasLost_of_remove (h : s.Governed) (stored : g ∈ s.rows) (named : s.named? key = some g) :
    ∃ u, s.remove key = .ok u ∧ s.HasLost u g := by
  have left := h.withRows (Rows.isAscending_erase g.key h.sorted)
  obtain ⟨before, behind, split, erased⟩ := Rows.erase_of_mem h.sorted stored
  refine ⟨_, h.remove_eq named, stored, ?_, ?_⟩
  · have shorter : (Rows.erase Gateway.key g.key s.rows).length + 1 = s.rows.length := by
      rw [erased, split]
      simp only [List.length_append, List.length_cons]
      omega
    rw [left.size_eq, h.size_eq]
    exact shorter
  · intro f
    have kept : f ∈ Rows.erase Gateway.key g.key s.rows ↔ f ∈ s.rows ∧ f.key ≠ g.key := by
      simp [Rows.erase]
    refine kept.trans (and_congr_right fun member => not_congr ⟨h.eq_of_key member stored, ?_⟩)
    rintro rfl
    rfl

theorem Governed.presentable_iff (h : s.Governed) (stored : g ∈ s.rows) :
    (s.get g = .ok g ∧ ∃ u, s.remove g = .ok u ∧ s.HasLost u g) ↔ g.HasKey := by
  constructor
  · rintro ⟨found, -⟩
    exact hasKey_of_named? (h.get_eq_ok.mp found)
  · intro keyed
    have named := h.named?_of_mem stored keyed
    exact ⟨h.get_eq_ok.mpr named, h.hasLost_of_remove stored named⟩

section Put
variable (h : s.Governed) (g : Gateway)

include h in
theorem Governed.afterPut : (s.withRows (Rows.insert Gateway.key g s.rows)).Governed :=
  h.withRows (Rows.isAscending_insert Gateway.key g h.sorted)

include h in
theorem Governed.mem_afterPut (f : Gateway) :
    f ∈ (s.withRows (Rows.insert Gateway.key g s.rows)).rows ↔ f = g ∨ f ∈ s.rows ∧ f.key ≠ g.key :=
  Rows.mem_insert_iff h.sorted

include h in
theorem Governed.size_afterPut :
    (s.withRows (Rows.insert Gateway.key g s.rows)).size =
      if (Rows.find? Gateway.key g.key s.rows).isSome then s.size else s.size + 1 := by
  rw [(h.afterPut g).size_eq, h.size_eq]
  exact Rows.length_insert h.sorted

include h in
theorem Governed.keyRule_of_keyed (keyed : g.HasKey)
    (oneRow : s.named? g = Rows.find? Gateway.key g.key s.rows) :
    s.KeyRule (s.withRows (Rows.insert Gateway.key g s.rows)) g where
  replaced := by
    intro old found
    have here := oneRow.symm.trans (h.get_eq_ok.mp found)
    obtain ⟨stored, same⟩ := Rows.mem_of_find? here
    refine ⟨by rw [h.size_afterPut, here]; rfl, fun f => ?_⟩
    rw [h.mem_afterPut]
    refine or_congr_right (and_congr_right fun member => not_congr ⟨?_, ?_⟩)
    · intro key
      exact h.eq_of_key member stored (key.trans same.symm)
    · rintro rfl
      exact same
  gained := by
    intro cause missed
    have unnamed : s.named? g = none := by
      cases named : s.named? g with
      | none => rfl
      | some f =>
        rw [h.get_eq_ok.mpr named] at missed
        contradiction
    have free := oneRow.symm.trans unnamed
    refine ⟨by rw [h.size_afterPut, free]; rfl, fun f => ?_⟩
    rw [h.mem_afterPut]
    refine or_congr_right (and_iff_left_of_imp fun member key => ?_)
    rw [(Rows.find?_eq_some_iff h.sorted).mpr ⟨member, key⟩] at free
    contradiction
  found := by
    have stored := (h.mem_afterPut g g).mpr (Or.inl rfl)
    exact (h.afterPut g).get_eq_ok.mpr ((h.afterPut g).named?_of_mem stored keyed)
  removed := by
    have stored := (h.mem_afterPut g g).mpr (Or.inl rfl)
    exact (h.afterPut g).hasLost_of_remove stored ((h.afterPut g).named?_of_mem stored keyed)

include h in
/-- A record that the key names under another identifier would stay, and one that it does not name would
make room without a gain. -/
theorem Governed.keyed_of_keyRule
    (rule : s.KeyRule (s.withRows (Rows.insert Gateway.key g s.rows)) g) :
    g.HasKey ∧ s.named? g = Rows.find? Gateway.key g.key s.rows := by
  refine ⟨hasKey_of_named? ((h.afterPut g).get_eq_ok.mp rule.found), ?_⟩
  cases named : s.named? g with
  | some old =>
    have stored := mem_of_named? named
    by_cases same : old.key = g.key
    · exact ((Rows.find?_eq_some_iff h.sorted).mpr ⟨stored, same⟩).symm
    · have stays := (h.mem_afterPut g old).mpr (Or.inr ⟨stored, same⟩)
      rcases ((rule.replaced old (h.get_eq_ok.mpr named)).2 old).mp stays with rfl | ⟨-, away⟩
      · exact absurd rfl same
      · exact absurd rfl away
  | none =>
    have missed : s.get g = .error .notFound := by rw [h.get_eq, named]
    have grown := (rule.gained _ missed).1
    rw [h.size_afterPut] at grown
    cases here : Rows.find? Gateway.key g.key s.rows with
    | none => rfl
    | some f =>
      rw [here] at grown
      simp at grown

end Put

/-- The rule of the key holds for exactly those gateways whose key leads to the row with their identifier,
and so for all that have one. Everything that is listed can be presented again, but for a record with
neither identifier nor address. -/
theorem key_rule_iff_one_row (changes : List GatewayChange) (g : Gateway) :
    let s := (make .memory).afterAll changes
    ∃ t, s.put g = .ok t ∧
      (s.KeyRule t g ↔
        g.HasKey ∧ (s.get g).toOption = Rows.find? Gateway.key g.key s.rows) ∧
      (g.id.isZero = false → s.KeyRule t g) ∧
      ∀ offset limit items, s.list offset limit = .ok items → ∀ f ∈ items,
        ((s.get f = .ok f ∧ ∃ u, s.remove f = .ok u ∧ s.HasLost u f) ↔ f.HasKey) := by
  intro s
  have h : s.Governed := governed_make.afterAll changes
  have found : (s.get g).toOption = s.named? g := by
    rw [h.get_eq]
    cases s.named? g <;> rfl
  refine ⟨_, h.put_eq g, ?_, ?_, ?_⟩
  · rw [found]
    exact ⟨h.keyed_of_keyRule g, fun ⟨keyed, oneRow⟩ => h.keyRule_of_keyed g keyed oneRow⟩
  · intro set
    refine h.keyRule_of_keyed g (Or.inl set) ?_
    rw [named?, set]
    rfl
  · intro offset limit items listed f member
    exact h.presentable_iff (subset_of_list listed member)

theorem shared_address_keeps_rule :
    let a : Endpoint := .v4 (.ofBytes 4 [192, 0, 2, 10]) 1700
    let s := (make .memory).afterAll [.put ⟨⟨5⟩, some a⟩]
    (∃ t, s.put ⟨⟨6⟩, some a⟩ = .ok t ∧ s.KeyRule t ⟨⟨6⟩, some a⟩) ∧
      s.list 0 10 = .ok [⟨⟨5⟩, some a⟩] ∧ ∃ u, s.remove ⟨⟨5⟩, some a⟩ = .ok u ∧ s.HasLost u ⟨⟨5⟩, some a⟩ := by
  intro a s
  obtain ⟨t, stored, -, rule, presented⟩ :=
    key_rule_iff_one_row [.put ⟨⟨5⟩, some a⟩] ⟨⟨6⟩, some a⟩
  have listed : s.list 0 10 = .ok [⟨⟨5⟩, some a⟩] := rfl
  have removable := (presented 0 10 _ listed _ List.mem_cons_self).mpr (Or.inl (by decide))
  exact ⟨⟨t, stored, rule (by decide)⟩, listed, removable.2⟩

/-- A gateway without identifier that is found by its address is not replaced but joined by another. -/
theorem nameless_gateway_not_replaced :
    let a : Endpoint := .v4 (.ofBytes 4 [192, 0, 2, 10]) 1700
    let s := (make .memory).afterAll [.put ⟨⟨5⟩, some a⟩]
    s.get ⟨⟨0⟩, some a⟩ = .ok ⟨⟨5⟩, some a⟩ ∧ s.size = 1 ∧
      ∃ t, s.put ⟨⟨0⟩, some a⟩ = .ok t ∧ t.size = 2 ∧ ¬ s.KeyRule t ⟨⟨0⟩, some a⟩ := by
  intro a s
  refine ⟨rfl, rfl, _, rfl, rfl, fun rule => ?_⟩
  have same := (rule.replaced ⟨⟨5⟩, some a⟩ rfl).1
  exact absurd same (by decide)

end GatewayStore
end IdentityDirectory
