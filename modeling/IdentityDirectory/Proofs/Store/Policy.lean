import Mathlib.Data.List.Induction
import Mathlib.Data.List.Nodup
import IdentityDirectory.Proofs.Store.Calls
/-!
The rules of the device store. Calls in any order keep the rows in order, the addresses within the network
and a device EUI with one device at most that joins over the air. A load asks for none of this but the
order; what it has put in against the rules stays alone, because calls add nothing of the kind.
-/
namespace IdentityDirectory

inductive StoreCall where
  | put (i : Identity)
  | remove (addr : DevAddr)
  | getByAddr (addr : DevAddr)
  | getByEui (eui : Eui)
  | list (offset limit : Nat)
  | size
  deriving DecidableEq, Repr

namespace Rows
variable {α : Type} {key : α → Nat}

theorem ofList_append_singleton (xs : List α) (x : α) :
    ofList key (xs ++ [x]) = insert key x (ofList key xs) := by
  rw [ofList, List.foldl_append, List.foldl_cons, List.foldl_nil, ofList]

/-- Of rows with one key the last stays. The induction takes rows from the end, as the last one wins. -/
theorem mem_ofList_iff {xs : List α} {z : α} :
    z ∈ ofList key xs ↔ ∃ front back, xs = front ++ z :: back ∧ ∀ y ∈ back, key y ≠ key z := by
  induction xs using List.reverseRecOn with
  | nil => simp [ofList]
  | append_singleton xs x ih =>
    rw [ofList_append_singleton, mem_insert_iff (isAscending_ofList xs), ih]
    constructor
    · rintro (rfl | ⟨⟨front, back, rfl, others⟩, away⟩)
      · exact ⟨xs, [], rfl, by simp⟩
      · refine ⟨front, back ++ [x], by simp, ?_⟩
        intro y behind
        rcases List.mem_append.mp behind with before | last
        · exact others y before
        · rw [List.mem_singleton.mp last]
          exact away.symm
    · rintro ⟨front, back, split, others⟩
      rcases List.eq_nil_or_concat back with rfl | ⟨before, last, rfl⟩
      · obtain ⟨-, ends⟩ := List.append_inj' split rfl
        exact Or.inl (List.head_eq_of_cons_eq ends).symm
      · have same : xs ++ [x] = (front ++ z :: before) ++ [last] := by simpa using split
        obtain ⟨rfl, ends⟩ := List.append_inj' same rfl
        obtain rfl := List.head_eq_of_cons_eq ends
        refine Or.inr ⟨⟨front, before, rfl, ?_⟩, ?_⟩
        · intro y behind
          exact others y (by simp [behind])
        · exact (others x (by simp)).symm

end Rows

namespace IdentityStore

def after (s : IdentityStore) : StoreCall → IdentityStore
  | .put i => (s.put i).toOption.getD s
  | .remove addr => (s.remove addr).toOption.getD s
  | .getByAddr _ | .getByEui _ | .list _ _ | .size => s

def afterAll (s : IdentityStore) (calls : List StoreCall) : IdentityStore := calls.foldl after s

def joiners (s : IdentityStore) (eui : Eui) : List Identity :=
  s.rows.filter fun i => i.device.activation = .otaa ∧ i.device.devEui = eui

structure Orderly (s : IdentityStore) : Prop where
  listed : s.list 0 s.size = .ok s.rows
  found : ∀ addr device, s.getByAddr addr = .ok device ↔ ⟨addr, device⟩ ∈ s.rows
  ascending : s.rows.Pairwise fun i j => i.addr.value < j.addr.value
  once : (s.rows.map Identity.addr).Nodup

/-- No address lies outside the network, and no device EUI but zero has two devices that join with it. -/
structure Lawful (network : Option NetId) (s : IdentityStore) : Prop where
  inRange : ∀ n, network = some n → ∀ i ∈ s.rows, n.contains i.addr = true
  single : ∀ eui : Eui, eui.isZero = false → (s.joiners eui).length ≤ 1

structure Governed (network : Option NetId) (s : IdentityStore) : Prop where
  memory : s.backing = .memory
  policy : s.network = network
  sorted : Rows.IsAscending Identity.key s.rows

theorem accept_eq_ok {s : IdentityStore} {i : Identity} (h : s.accept i = .ok ()) :
    s.checkRange i.addr = .ok () ∧ s.isTaken i = false := by
  simp only [accept, bind, Except.bind] at h
  split at h
  · contradiction
  · rename_i range
    refine ⟨range, ?_⟩
    split at h
    · contradiction
    · rename_i free
      exact Bool.eq_false_iff.mpr free

theorem contains_of_checkRange {s : IdentityStore} {addr : DevAddr} {n : NetId}
    (policy : s.network = some n) (h : s.checkRange addr = .ok ()) : n.contains addr = true := by
  simp only [checkRange, policy] at h
  split at h
  · assumption
  · contradiction

theorem devEui_ne_of_not_isTaken {s : IdentityStore} {i j : Identity} (h : s.isTaken i = false)
    (joins : i.device.activation = .otaa) (set : i.device.devEui.isZero = false) (stored : j ∈ s.rows)
    (other : j.addr ≠ i.addr) : j.device.devEui ≠ i.device.devEui := by
  simp only [isTaken, joins, set, decide_true, Bool.not_false, Bool.and_self, Bool.true_and,
    List.any_eq_false, Bool.and_eq_true, decide_eq_true_eq, not_and] at h
  exact h j stored other

theorem after_cases (s : IdentityStore) (call : StoreCall) :
    s.after call = s ∨
      (∃ i, s.accept i = .ok () ∧
        s.after call = s.withRows (Rows.insert Identity.key i s.rows)) ∨
      ∃ a, s.after call = s.withRows (Rows.erase Identity.key a s.rows) := by
  cases call with
  | put i =>
    cases outcome : s.put i with
    | error cause => exact Or.inl (by rw [after, outcome]; rfl)
    | ok t =>
      obtain ⟨accepted, rfl⟩ := put_eq_ok outcome
      exact Or.inr (Or.inl ⟨i, accepted, by rw [after, outcome]; rfl⟩)
  | remove addr =>
    cases outcome : s.remove addr with
    | error cause => exact Or.inl (by rw [after, outcome]; rfl)
    | ok t =>
      obtain ⟨i, -, -, rfl⟩ := remove_eq_ok outcome
      exact Or.inr (Or.inr ⟨i.key, by rw [after, outcome]; rfl⟩)
  | getByAddr addr | getByEui eui | list offset limit | size => exact Or.inl rfl

variable {network : Option NetId} {s : IdentityStore}

theorem Governed.withRows (h : s.Governed network) {rows : List Identity}
    (sorted : Rows.IsAscending Identity.key rows) : (s.withRows rows).Governed network where
  memory := by
    unfold IdentityStore.withRows
    rw [h.memory]
    rfl
  policy := h.policy
  sorted := sorted

theorem Governed.after (h : s.Governed network) (call : StoreCall) :
    (s.after call).Governed network := by
  rcases after_cases s call with same | ⟨i, -, same⟩ | ⟨a, same⟩
  · rwa [same]
  · rw [same]
    exact h.withRows (Rows.isAscending_insert Identity.key i h.sorted)
  · rw [same]
    exact h.withRows (Rows.isAscending_erase a h.sorted)

theorem Governed.afterAll (h : s.Governed network) (calls : List StoreCall) :
    (s.afterAll calls).Governed network := by
  induction calls generalizing s with
  | nil => exact h
  | cons call calls ih => exact ih (h.after call)

theorem Governed.load (h : s.Governed network) (items : List Identity) :
    (s.load items).Governed network where
  memory := h.memory
  policy := h.policy
  sorted := Rows.isAscending_ofList items

theorem Governed.orderly (h : s.Governed network) : s.Orderly where
  listed := by
    simp only [list, size, h.memory, Backing.fault?, Backing.answer, Rows.page, List.drop_zero,
      List.take_length]
  found := by
    intro addr device
    have row := Rows.find?_eq_some_iff (k := addr.value.toNat) (x := ⟨addr, device⟩) h.sorted
    have here : Identity.key ⟨addr, device⟩ = addr.value.toNat := rfl
    rw [here, and_iff_left rfl] at row
    rw [← row]
    simp only [getByAddr, h.memory, Backing.fault?, Backing.answer, find]
    cases found : Rows.find? Identity.key addr.value.toNat s.rows with
    | none => simp [Except.map]
    | some i =>
      obtain ⟨-, key⟩ := Rows.mem_of_find? found
      obtain rfl := DevAddr.toNat_inj.mp key
      obtain ⟨_, device'⟩ := i
      simp [Except.map]
  ascending := h.sorted
  once := by
    have keys := Rows.nodup_keys h.sorted
    have shape : s.rows.map Identity.key = (s.rows.map Identity.addr).map fun a => a.value.toNat := by
      rw [List.map_map]
      rfl
    rw [shape] at keys
    exact keys.of_map _

theorem mem_joiners {eui : Eui} {i : Identity} : i ∈ s.joiners eui ↔
    i ∈ s.rows ∧ i.device.activation = .otaa ∧ i.device.devEui = eui := by
  simp only [joiners, List.mem_filter, decide_eq_true_eq]

theorem Governed.nodup_joiners (h : s.Governed network) (eui : Eui) : (s.joiners eui).Nodup :=
  (h.orderly.once.of_map _).filter _

theorem Governed.inRange_after (h : s.Governed network) (call : StoreCall) {n : NetId}
    (policy : network = some n) {i : Identity} (stored : i ∈ (s.after call).rows) :
    n.contains i.addr = true ∨ i ∈ s.rows := by
  rcases after_cases s call with same | ⟨j, accepted, same⟩ | ⟨a, same⟩ <;> rw [same] at stored
  · exact Or.inr stored
  · rcases Rows.mem_insert Identity.key stored with rfl | before
    · exact Or.inl (contains_of_checkRange (h.policy.trans policy) (accept_eq_ok accepted).1)
    · exact Or.inr before
  · exact Or.inr (List.mem_filter.mp stored).1

/-- A call never makes two devices join with one device EUI, nor more than there were. A device that is
put in to join leaves no other with its EUI; any other record that is put in does not count. -/
theorem Governed.joiners_after (h : s.Governed network) (call : StoreCall) {eui : Eui}
    (set : eui.isZero = false) :
    ((s.after call).joiners eui).length ≤ max 1 (s.joiners eui).length := by
  have once := (h.after call).nodup_joiners eui
  have fewer (sub : (s.after call).joiners eui ⊆ s.joiners eui) :
      ((s.after call).joiners eui).length ≤ max 1 (s.joiners eui).length :=
    Nat.le_trans (once.length_le_of_subset sub) (Nat.le_max_right _ _)
  rcases after_cases s call with same | ⟨i, accepted, same⟩ | ⟨a, same⟩
  · exact fewer (by rw [same]; exact List.Subset.refl _)
  · have rows : (s.after call).rows = Rows.insert Identity.key i s.rows := congrArg rows same
    by_cases joins : i.device.activation = .otaa ∧ i.device.devEui = eui
    · have alone : (s.after call).joiners eui ⊆ [i] := by
        intro j member
        obtain ⟨stored, -, named⟩ := mem_joiners.mp member
        rw [rows, Rows.mem_insert_iff h.sorted] at stored
        rcases stored with rfl | ⟨before, away⟩
        · exact List.mem_singleton_self j
        · have free := devEui_ne_of_not_isTaken (accept_eq_ok accepted).2 joins.1
            (by rwa [joins.2]) before fun eq => away (congrArg (fun a => a.value.toNat) eq)
          exact absurd (named.trans joins.2.symm) free
      exact Nat.le_trans (once.length_le_of_subset alone) (Nat.le_max_left _ _)
    · apply fewer
      intro j member
      obtain ⟨stored, counted⟩ := mem_joiners.mp member
      rw [rows] at stored
      rcases Rows.mem_insert Identity.key stored with rfl | before
      · exact absurd counted joins
      · exact mem_joiners.mpr ⟨before, counted⟩
  · apply fewer
    intro j member
    obtain ⟨stored, counted⟩ := mem_joiners.mp member
    rw [same] at stored
    exact mem_joiners.mpr ⟨(List.mem_filter.mp stored).1, counted⟩

theorem Governed.lawful_after (h : s.Governed network) (lawful : s.Lawful network)
    (call : StoreCall) : (s.after call).Lawful network where
  inRange := by
    intro n policy i stored
    rcases h.inRange_after call policy stored with inside | before
    · exact inside
    · exact lawful.inRange n policy i before
  single := by
    intro eui set
    have bound := h.joiners_after call set
    rwa [Nat.max_eq_left (lawful.single eui set)] at bound

theorem Governed.lawful_afterAll (h : s.Governed network) (lawful : s.Lawful network)
    (calls : List StoreCall) : (s.afterAll calls).Lawful network := by
  induction calls generalizing s with
  | nil => exact lawful
  | cons call calls ih => exact ih (h.after call) (h.lawful_after lawful call)

theorem governed_make (network : Option NetId) : (make .memory network).Governed network :=
  ⟨rfl, rfl, List.Pairwise.nil⟩

theorem lawful_make (network : Option NetId) : (make .memory network).Lawful network :=
  ⟨fun _ _ _ stored => absurd stored (List.not_mem_nil), fun _ _ => Nat.zero_le 1⟩

end IdentityStore
end IdentityDirectory
