import Mathlib.Data.List.Sort
import IdentityDirectory.Proofs.Store.Policy
/-!
Changes of the device store that do not meddle with each other. What a change does to the rows is told apart
from what it asks of them before: at different addresses two changes do the same in either order, and each is
answered as it would be alone, unless one of them puts in a device to join with an EUI that the other gives or
takes away. A change that comes a second time has nothing left to do.
-/
namespace IdentityDirectory

theorem Backing.cause?_answer {α : Type} (b : Backing) (x : Except StoreError α) :
    cause? (b.answer x) = b.fault?.or (cause? x) := by
  unfold answer
  cases b.fault? <;> rfl

theorem Backing.fault?_touch (b : Backing) : b.touch.fault? = b.fault? := by cases b <;> rfl

theorem Backing.touch_touch (b : Backing) : b.touch.touch = b.touch := by cases b <;> rfl

namespace Rows
variable {α : Type} {key : α → Nat}

theorem eq_of_find? {xs ys : List α} (first : IsAscending key xs) (second : IsAscending key ys)
    (same : ∀ k, find? key k xs = find? key k ys) : xs = ys := by
  have members (x : α) : x ∈ xs ↔ x ∈ ys := by
    have here := find?_eq_some_iff (k := key x) (x := x) first
    have there := find?_eq_some_iff (k := key x) (x := x) second
    rw [and_iff_left rfl] at here there
    rw [← here, ← there, same]
  have shuffled : xs.Perm ys :=
    (List.perm_ext_iff_of_nodup (nodup_keys first).of_map (nodup_keys second).of_map).mpr members
  refine shuffled.eq_of_pairwise ?_ first second
  intro x y _ _ below above
  exact absurd below (Nat.lt_asymm above)

end Rows

namespace IdentityChange

def addr : IdentityChange → DevAddr
  | put i => i.addr
  | remove addr => addr

def row? : IdentityChange → Option Identity
  | put i => some i
  | remove _ => none

def edit (rows : List Identity) : IdentityChange → List Identity
  | put i => Rows.insert Identity.key i rows
  | remove addr => Rows.erase Identity.key addr.value.toNat rows

variable {rows : List Identity}

theorem isAscending_edit (sorted : Rows.IsAscending Identity.key rows) (c : IdentityChange) :
    Rows.IsAscending Identity.key (c.edit rows) := by
  cases c with
  | put i => exact Rows.isAscending_insert Identity.key i sorted
  | remove addr => exact Rows.isAscending_erase _ sorted

theorem find?_edit (c : IdentityChange) (k : Nat) :
    Rows.find? Identity.key k (c.edit rows) =
      if c.addr.value.toNat = k then c.row? else Rows.find? Identity.key k rows := by
  cases c with
  | put i => exact Rows.find?_insert Identity.key k i rows
  | remove addr =>
    rw [edit, Rows.find?_erase]
    simp only [IdentityChange.addr, row?, eq_comm]

theorem mem_edit_iff (sorted : Rows.IsAscending Identity.key rows) (c : IdentityChange) {j : Identity} :
    j ∈ c.edit rows ↔ c = put j ∨ j ∈ rows ∧ j.addr ≠ c.addr := by
  have apart (a : DevAddr) : j.key ≠ a.value.toNat ↔ j.addr ≠ a := not_congr DevAddr.toNat_inj
  cases c with
  | put i =>
    rw [edit, Rows.mem_insert_iff sorted, put.injEq, eq_comm (a := j)]
    exact or_congr_right (and_congr_right fun _ => apart i.addr)
  | remove addr =>
    rw [edit, Rows.erase, List.mem_filter, decide_eq_true_eq]
    simp only [reduceCtorEq, false_or, IdentityChange.addr, apart]

theorem edit_comm (sorted : Rows.IsAscending Identity.key rows) {c d : IdentityChange}
    (apart : c.addr ≠ d.addr) : d.edit (c.edit rows) = c.edit (d.edit rows) := by
  apply Rows.eq_of_find? (isAscending_edit (isAscending_edit sorted c) d)
    (isAscending_edit (isAscending_edit sorted d) c)
  intro k
  simp only [find?_edit]
  by_cases here : d.addr.value.toNat = k
  · have other : c.addr.value.toNat ≠ k := fun same => apart (DevAddr.toNat_inj.mp (same.trans here.symm))
    simp only [here, other, ↓reduceIte]
  · simp only [here, ↓reduceIte]

theorem edit_edit (sorted : Rows.IsAscending Identity.key rows) (c : IdentityChange) :
    c.edit (c.edit rows) = c.edit rows := by
  apply Rows.eq_of_find? (isAscending_edit (isAscending_edit sorted c) c) (isAscending_edit sorted c)
  intro k
  simp only [find?_edit]
  split <;> rfl

/-- What a change asks of the rows: whether the EUI to join with is taken, or whether there is a row to take
out. -/
def asks (rows : List Identity) : IdentityChange → Bool
  | put i => i.device.activation = .otaa && !i.device.devEui.isZero &&
      rows.any fun j => j.addr ≠ i.addr && j.device.devEui = i.device.devEui
  | remove addr => (Rows.find? Identity.key addr.value.toNat rows).isSome

def JoinsWith (c : IdentityChange) (eui : Eui) : Prop :=
  ∃ i, c = put i ∧ i.device.activation = .otaa ∧ i.device.devEui = eui

/-- A change has no say in another if it neither brings in the EUI that the other joins with, nor works on a
row that has it. -/
def Spares (rows : List Identity) (d c : IdentityChange) : Prop :=
  ∀ eui : Eui, eui.isZero = false → c.JoinsWith eui →
    (∀ j, d = put j → j.device.devEui ≠ eui) ∧
    ∀ j ∈ rows, j.addr = d.addr → j.device.devEui ≠ eui

theorem asks_put {i : Identity} : (put i).asks rows = true ↔
    (i.device.activation = .otaa ∧ i.device.devEui.isZero = false) ∧
      ∃ j ∈ rows, j.addr ≠ i.addr ∧ j.device.devEui = i.device.devEui := by
  simp only [asks, Bool.and_eq_true, Bool.not_eq_true', List.any_eq_true, decide_eq_true_eq]

/-- An edit changes the answer to a put only if it gives the EUI to another address or takes it from there. -/
theorem asks_put_edit (sorted : Rows.IsAscending Identity.key rows) {i : Identity} {d : IdentityChange}
    (fresh : (put i).JoinsWith i.device.devEui → i.device.devEui.isZero = false →
      ∀ j, d = put j → j.addr ≠ i.addr → j.device.devEui ≠ i.device.devEui)
    (kept : (put i).JoinsWith i.device.devEui → i.device.devEui.isZero = false →
      ∀ j ∈ rows, j.addr = d.addr → j.addr ≠ i.addr → j.device.devEui ≠ i.device.devEui) :
    (put i).asks (d.edit rows) = (put i).asks rows := by
  rw [Bool.eq_iff_iff, asks_put, asks_put]
  refine and_congr_right ?_
  rintro ⟨otaa, set⟩
  have joins : (put i).JoinsWith i.device.devEui := ⟨i, rfl, otaa, rfl⟩
  refine exists_congr fun j => ?_
  rw [mem_edit_iff sorted]
  constructor
  · rintro ⟨new | ⟨stored, -⟩, away, same⟩
    · exact absurd same (fresh joins set j new away)
    · exact ⟨stored, away, same⟩
  · rintro ⟨stored, away, same⟩
    exact ⟨Or.inr ⟨stored, fun here => kept joins set j stored here away same⟩, away, same⟩

theorem asks_edit (sorted : Rows.IsAscending Identity.key rows) {c d : IdentityChange}
    (apart : c.addr ≠ d.addr) (spares : d.Spares rows c) : c.asks (d.edit rows) = c.asks rows := by
  cases c with
  | put i =>
    exact asks_put_edit sorted (fun joins set j new _ => (spares _ set joins).1 j new)
      (fun joins set j stored here _ => (spares _ set joins).2 j stored here)
  | remove addr =>
    have other : d.addr.value.toNat ≠ addr.value.toNat := fun same =>
      apart (DevAddr.toNat_inj.mp same).symm
    simp only [asks, find?_edit, other, ↓reduceIte]

theorem asks_edit_put (sorted : Rows.IsAscending Identity.key rows) (i : Identity) :
    (put i).asks ((put i).edit rows) = (put i).asks rows := by
  apply asks_put_edit sorted
  · intro _ _ j new away
    exact absurd (congrArg Identity.addr (put.inj new).symm) away
  · intro _ _ j _ here away
    exact absurd here away

end IdentityChange

namespace IdentityStore

def refusal? (s : IdentityStore) (c : IdentityChange) : Option StoreError := cause? (s.change c)

def perform (s : IdentityStore) (c : IdentityChange) : IdentityStore := (s.change c).toOption.getD s

variable {s : IdentityStore} {c d : IdentityChange}

theorem refusal?_put (s : IdentityStore) (i : Identity) :
    s.refusal? (.put i) = s.backing.fault?.or ((cause? (s.checkRange i.addr)).or
      (if (IdentityChange.put i).asks s.rows then some (.duplicate i.device.devEui.toText) else none)) := by
  have taken : s.isTaken i = (IdentityChange.put i).asks s.rows := rfl
  rw [refusal?, change, IdentityStore.put, Backing.cause?_answer, cause?_map, accept, taken]
  cases s.checkRange i.addr with
  | error cause => rfl
  | ok done => cases (IdentityChange.put i).asks s.rows <;> rfl

theorem refusal?_remove (s : IdentityStore) (addr : DevAddr) :
    s.refusal? (.remove addr) = s.backing.fault?.or
      (if (IdentityChange.remove addr).asks s.rows then none else some .notFound) := by
  rw [refusal?, change, IdentityStore.remove, Backing.cause?_answer, cause?_map, find,
    IdentityChange.asks]
  cases Rows.find? Identity.key addr.value.toNat s.rows <;> rfl

theorem perform_of_refused {cause : StoreError} (refused : s.refusal? c = some cause) :
    s.perform c = s := by
  unfold refusal? at refused
  unfold perform
  cases outcome : s.change c with
  | error cause => rfl
  | ok t =>
    rw [outcome] at refused
    cases refused

theorem perform_of_accepted (accepted : s.refusal? c = none) :
    s.perform c = s.withRows (c.edit s.rows) := by
  unfold refusal? at accepted
  unfold perform
  cases outcome : s.change c with
  | error cause =>
    rw [outcome] at accepted
    cases accepted
  | ok t =>
    cases c with
    | put i => exact (put_eq_ok outcome).2
    | remove addr =>
      obtain ⟨i, -, rfl, same⟩ := remove_eq_ok outcome
      exact same

theorem withRows_withRows (s : IdentityStore) (before rows : List Identity) :
    (s.withRows before).withRows rows = s.withRows rows := by
  simp only [withRows, Backing.touch_touch]

/-- All that a store takes from its rows to answer a change is what the change asks of them. -/
theorem refusal?_withRows {rows : List Identity} (same : c.asks rows = c.asks s.rows) :
    (s.withRows rows).refusal? c = s.refusal? c := by
  have fault : (s.withRows rows).backing.fault? = s.backing.fault? := s.backing.fault?_touch
  have range (addr : DevAddr) : (s.withRows rows).checkRange addr = s.checkRange addr := rfl
  have held : (s.withRows rows).rows = rows := rfl
  cases c with
  | put i => rw [refusal?_put, refusal?_put, fault, range, held, same]
  | remove addr => rw [refusal?_remove, refusal?_remove, fault, held, same]

theorem refusal?_perform (sorted : Rows.IsAscending Identity.key s.rows) (apart : c.addr ≠ d.addr)
    (spares : d.Spares s.rows c) : (s.perform d).refusal? c = s.refusal? c := by
  cases outcome : s.refusal? d with
  | some cause => rw [perform_of_refused outcome]
  | none =>
    rw [perform_of_accepted outcome]
    exact refusal?_withRows (IdentityChange.asks_edit sorted apart spares)

theorem perform_comm (sorted : Rows.IsAscending Identity.key s.rows) (apart : c.addr ≠ d.addr)
    (forth : d.Spares s.rows c) (back : c.Spares s.rows d) :
    (s.perform c).perform d = (s.perform d).perform c := by
  have first := refusal?_perform sorted apart forth
  have second := refusal?_perform sorted apart.symm back
  cases mine : s.refusal? c with
  | some cause =>
    rw [perform_of_refused mine, perform_of_refused (first.trans mine)]
  | none =>
    cases other : s.refusal? d with
    | some cause => rw [perform_of_refused (second.trans other), perform_of_refused other]
    | none =>
      rw [perform_of_accepted (second.trans other), perform_of_accepted (first.trans mine),
        perform_of_accepted mine, perform_of_accepted other, withRows_withRows, withRows_withRows]
      exact congrArg s.withRows (IdentityChange.edit_comm sorted apart)

theorem perform_perform (sorted : Rows.IsAscending Identity.key s.rows) (c : IdentityChange) :
    (s.perform c).perform c = s.perform c := by
  cases first : s.refusal? c with
  | some cause => rw [perform_of_refused first, perform_of_refused first]
  | none =>
    cases again : (s.perform c).refusal? c with
    | some cause => exact perform_of_refused again
    | none =>
      rw [perform_of_accepted again, perform_of_accepted first, withRows_withRows]
      exact congrArg s.withRows (IdentityChange.edit_edit sorted c)

theorem refusal?_put_again (sorted : Rows.IsAscending Identity.key s.rows) (i : Identity) :
    (s.perform (.put i)).refusal? (.put i) = s.refusal? (.put i) := by
  cases first : s.refusal? (.put i) with
  | some cause => rw [perform_of_refused first, first]
  | none =>
    rw [perform_of_accepted first, ← first]
    exact refusal?_withRows (IdentityChange.asks_edit_put sorted i)

theorem refusal?_remove_again (s : IdentityStore) (addr : DevAddr) :
    (s.perform (.remove addr)).refusal? (.remove addr) = s.backing.fault?.or (some .notFound) := by
  have first := refusal?_remove s addr
  cases fault : s.backing.fault? with
  | some cause =>
    rw [fault, Option.some_or] at first
    rw [perform_of_refused first, first, Option.some_or]
  | none =>
    rw [fault, Option.none_or] at first
    rw [Option.none_or]
    cases there : (IdentityChange.remove addr).asks s.rows with
    | false =>
      rw [there] at first
      rw [perform_of_refused first, first]
      rfl
    | true =>
      have gone : (IdentityChange.remove addr).asks ((IdentityChange.remove addr).edit s.rows) = false := by
        simp [IdentityChange.asks, IdentityChange.find?_edit, IdentityChange.addr, IdentityChange.row?]
      rw [there] at first
      rw [perform_of_accepted first, refusal?_remove]
      simp only [withRows, Backing.fault?_touch, fault, gone]
      rfl

/-- The stores that calls and loads lead to from an empty one, whatever it is kept in. -/
inductive Arises (backing : Backing) (network : Option NetId) : IdentityStore → Prop where
  | empty : Arises backing network (make backing network)
  | called {s : IdentityStore} (before : Arises backing network s) (call : StoreCall) :
      Arises backing network (s.after call)
  | loaded {s : IdentityStore} (before : Arises backing network s) (items : List Identity) :
      Arises backing network (s.load items)

theorem Arises.sorted {backing : Backing} {network : Option NetId} (h : s.Arises backing network) :
    Rows.IsAscending Identity.key s.rows := by
  induction h with
  | empty => exact List.Pairwise.nil
  | @called s before call ih =>
    rcases after_cases s call with same | ⟨i, -, same⟩ | ⟨a, same⟩ <;> rw [same]
    · exact ih
    · exact Rows.isAscending_insert Identity.key i ih
    · exact Rows.isAscending_erase a ih
  | loaded before items ih => exact Rows.isAscending_ofList items

/-- Changes in other orders and changes that come twice. Two changes at different addresses, of which neither
puts in a device to join with an EUI that the other brings in or works on, lead to the same store in either
order, and each is answered as it would be alone. A change that comes a second time leaves the store as it is
behind the first; a put is answered as it was the first time, and a removal finds nothing. -/
theorem independent_changes_commute {backing : Backing} {network : Option NetId}
    (reached : s.Arises backing network) :
    (∀ c d : IdentityChange, c.addr ≠ d.addr → c.Spares s.rows d → d.Spares s.rows c →
      (s.perform c).perform d = (s.perform d).perform c ∧
      (s.perform d).refusal? c = s.refusal? c ∧ (s.perform c).refusal? d = s.refusal? d) ∧
    (∀ c, (s.perform c).perform c = s.perform c) ∧
    (∀ i, (s.perform (.put i)).refusal? (.put i) = s.refusal? (.put i)) ∧
    ∀ addr, (s.perform (.remove addr)).refusal? (.remove addr) =
      s.backing.fault?.or (some .notFound) := by
  have sorted := reached.sorted
  refine ⟨?_, perform_perform sorted, refusal?_put_again sorted, refusal?_remove_again s⟩
  intro c d apart back forth
  exact ⟨perform_comm sorted apart forth back, refusal?_perform sorted apart forth,
    refusal?_perform sorted apart.symm back⟩

def named (activation : Activation) (addr : UInt32) (eui : UInt64) : Identity :=
  ⟨⟨addr⟩, { (default : Device) with activation := activation, devEui := ⟨eui⟩ }⟩

def home : NetId := ⟨UInt24.ofNat 0⟩

def pair : IdentityStore := (make .memory (some home)).load [named .abp 5 70, named .otaa 6 80]

theorem rejoin_commutes_with_removal :
    pair.Arises .memory (some home) ∧
      (pair.perform (.put (named .otaa 5 90))).perform (.remove ⟨6⟩) =
        (pair.perform (.remove ⟨6⟩)).perform (.put (named .otaa 5 90)) ∧
      (pair.perform (.remove ⟨6⟩)).refusal? (.put (named .otaa 5 90)) = none := by
  have reached : pair.Arises .memory (some home) := .loaded .empty _
  have forth : (IdentityChange.put (named .otaa 5 90)).Spares pair.rows (.remove ⟨6⟩) := by
    rintro eui - ⟨i, same, -⟩
    cases same
  have back : (IdentityChange.remove ⟨6⟩).Spares pair.rows (.put (named .otaa 5 90)) := by
    rintro eui - ⟨i, same, -, rfl⟩
    obtain rfl := IdentityChange.put.inj same
    exact ⟨nofun, by decide⟩
  obtain ⟨store, first, -⟩ :=
    (independent_changes_commute reached).1 (.put (named .otaa 5 90)) (.remove ⟨6⟩) (by decide) forth back
  exact ⟨reached, store, first.trans (by decide)⟩

/-- Who joins with the EUI of a device that goes must wait for it. -/
example : pair.refusal? (.put (named .otaa 5 80)) ≠ none ∧
    (pair.perform (.remove ⟨6⟩)).refusal? (.put (named .otaa 5 80)) = none := by decide

end IdentityStore
end IdentityDirectory
