import IdentityDirectory.Proofs.Results
import IdentityDirectory.Proofs.Store.Rows
import IdentityDirectory.Store.Gateways
import IdentityDirectory.Store.Identities
/-!
Calls of the stores, told from their outcomes: what a store looks like after a call that succeeded.
-/
namespace IdentityDirectory

theorem Backing.ok_of_answer {α : Type} {b : Backing} {outcome : Except StoreError α} {x : α}
    (h : b.answer outcome = .ok x) : outcome = .ok x := by
  unfold Backing.answer at h
  split at h
  · contradiction
  · exact h

theorem DevAddr.toNat_inj {a b : DevAddr} : a.value.toNat = b.value.toNat ↔ a = b := by
  constructor
  · intro same
    exact congrArg DevAddr.mk (UInt32.toNat_inj.mp same)
  · rintro rfl
    rfl

theorem Eui.toNat_inj {a b : Eui} : a.value.toNat = b.value.toNat ↔ a = b := by
  constructor
  · intro same
    exact congrArg Eui.mk (UInt64.toNat_inj.mp same)
  · rintro rfl
    rfl

inductive IdentityChange where
  | put (i : Identity)
  | remove (addr : DevAddr)
  deriving DecidableEq, Repr

inductive GatewayChange where
  | put (g : Gateway)
  | remove (key : Gateway)
  deriving DecidableEq, Repr

namespace IdentityStore

def change (s : IdentityStore) : IdentityChange → Except StoreError IdentityStore
  | .put i => s.put i
  | .remove addr => s.remove addr

theorem put_eq_ok {s t : IdentityStore} {i : Identity} (h : s.put i = .ok t) :
    s.accept i = .ok () ∧ t = s.withRows (Rows.insert Identity.key i s.rows) := by
  obtain ⟨done, accepted, same⟩ := ok_of_map (Backing.ok_of_answer h)
  exact ⟨accepted, same.symm⟩

theorem find_eq_ok {s : IdentityStore} {addr : DevAddr} {i : Identity} (h : s.find addr = .ok i) :
    i ∈ s.rows ∧ i.addr = addr := by
  unfold find at h
  split at h
  · rename_i found
    obtain rfl := Except.ok.inj h
    obtain ⟨member, same⟩ := Rows.mem_of_find? found
    exact ⟨member, DevAddr.toNat_inj.mp same⟩
  · contradiction

theorem mem_of_getByAddr {s : IdentityStore} {addr : DevAddr} {device : Device}
    (h : s.getByAddr addr = .ok device) : ⟨addr, device⟩ ∈ s.rows := by
  obtain ⟨i, found, rfl⟩ := ok_of_map (Backing.ok_of_answer h)
  obtain ⟨member, rfl⟩ := find_eq_ok found
  exact member

theorem mem_of_getByEui {s : IdentityStore} {eui : Eui} {i : Identity}
    (h : s.getByEui eui = .ok i) : i ∈ s.rows := by
  have outcome := Backing.ok_of_answer h
  split at outcome
  · rename_i found
    obtain rfl := Except.ok.inj outcome
    exact List.mem_of_find?_eq_some found
  · contradiction

theorem remove_eq_ok {s t : IdentityStore} {addr : DevAddr} (h : s.remove addr = .ok t) :
    ∃ i, i ∈ s.rows ∧ i.addr = addr ∧ t = s.withRows (Rows.erase Identity.key i.key s.rows) := by
  obtain ⟨i, found, same⟩ := ok_of_map (Backing.ok_of_answer h)
  obtain ⟨member, rfl⟩ := find_eq_ok found
  exact ⟨i, member, rfl, same.symm⟩

theorem change_eq_ok {s t : IdentityStore} {c : IdentityChange} (h : s.change c = .ok t) :
    ∃ rows, t = s.withRows rows := by
  cases c with
  | put i => exact ⟨_, (put_eq_ok h).2⟩
  | remove addr =>
    obtain ⟨i, -, -, same⟩ := remove_eq_ok h
    exact ⟨_, same⟩

theorem length_of_list {s : IdentityStore} {offset limit : Nat} {items : List Identity}
    (h : s.list offset limit = .ok items) : items.length ≤ limit := by
  rw [← Except.ok.inj (Backing.ok_of_answer h)]
  exact Rows.length_page_le offset limit s.rows

theorem subset_of_list {s : IdentityStore} {offset limit : Nat} {items : List Identity}
    (h : s.list offset limit = .ok items) : items ⊆ s.rows := by
  rw [← Except.ok.inj (Backing.ok_of_answer h)]
  exact Rows.page_subset offset limit s.rows

theorem init_eq_ok {s t : IdentityStore} {disk : Disk} (h : s.init disk = .ok t) :
    t = s ∨ ∃ items, t = s.load items := by
  obtain ⟨found, -, same⟩ := ok_of_map h
  cases found with
  | none => exact Or.inl same.symm
  | some items => exact Or.inr ⟨items, same.symm⟩

end IdentityStore

namespace GatewayStore

def change (s : GatewayStore) : GatewayChange → Except StoreError GatewayStore
  | .put g => s.put g
  | .remove key => s.remove key

theorem put_eq_ok {s t : GatewayStore} {g : Gateway} (h : s.put g = .ok t) :
    t = s.withRows (Rows.insert Gateway.key g s.rows) :=
  (Except.ok.inj (Backing.ok_of_answer h)).symm

/-- A key names a gateway by its identifier, or by the socket address if it has no identifier. -/
theorem find_eq_ok {s : GatewayStore} {key g : Gateway} (h : s.find key = .ok g) :
    g ∈ s.rows ∧ (g.id = key.id ∨ key.id.isZero = true ∧ g.endpoint = key.endpoint) := by
  unfold find at h
  simp only at h
  split at h
  · rename_i _ found
    obtain rfl := Except.ok.inj h
    split at found
    · obtain ⟨member, same⟩ := Rows.mem_of_find? found
      exact ⟨member, Or.inl (Eui.toNat_inj.mp same)⟩
    · rename_i zero
      split at found
      · contradiction
      · have same := List.find?_some found
        simp only [decide_eq_true_eq] at same
        exact ⟨List.mem_of_find?_eq_some found, Or.inr ⟨by simpa using zero, same⟩⟩
  · contradiction

theorem remove_eq_ok {s t : GatewayStore} {key : Gateway} (h : s.remove key = .ok t) :
    ∃ g, s.find key = .ok g ∧ t = s.withRows (Rows.erase Gateway.key g.key s.rows) := by
  obtain ⟨g, found, same⟩ := ok_of_map (Backing.ok_of_answer h)
  exact ⟨g, found, same.symm⟩

theorem change_eq_ok {s t : GatewayStore} {c : GatewayChange} (h : s.change c = .ok t) :
    ∃ rows, t = s.withRows rows := by
  cases c with
  | put g => exact ⟨_, put_eq_ok h⟩
  | remove key =>
    obtain ⟨g, -, same⟩ := remove_eq_ok h
    exact ⟨_, same⟩

theorem length_of_list {s : GatewayStore} {offset limit : Nat} {items : List Gateway}
    (h : s.list offset limit = .ok items) : items.length ≤ limit := by
  rw [← Except.ok.inj (Backing.ok_of_answer h)]
  exact Rows.length_page_le offset limit s.rows

theorem subset_of_list {s : GatewayStore} {offset limit : Nat} {items : List Gateway}
    (h : s.list offset limit = .ok items) : items ⊆ s.rows := by
  rw [← Except.ok.inj (Backing.ok_of_answer h)]
  exact Rows.page_subset offset limit s.rows

theorem init_eq_ok {s t : GatewayStore} {disk : Disk} (h : s.init disk = .ok t) :
    t = s ∨ ∃ items, t = s.load items := by
  obtain ⟨found, -, same⟩ := ok_of_map h
  cases found with
  | none => exact Or.inl same.symm
  | some items => exact Or.inr ⟨items, same.symm⟩

end GatewayStore
end IdentityDirectory
