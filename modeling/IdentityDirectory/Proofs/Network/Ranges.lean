import Mathlib.Algebra.Group.Nat.Defs
import Mathlib.Data.Set.BooleanAlgebra
import Mathlib.Order.CompletePartialOrder
import IdentityDirectory.Network.NetId
/-!
The ranges of the networks. For each type the widths fill the bits behind the leading ones, so that the
addresses from one lead to the next are told apart by two numbers, and the types together take all addresses
with fewer than eight leading ones. A network owns the addresses of one type and one number: an interval, which
it shares with the networks that have the same type and the same low bits, and which meets no other.
-/
namespace IdentityDirectory

namespace Network

structure Fits (kind nwkId nwkAddr : Nat) : Prop where
  small : kind ≤ 7
  network : nwkId < 2 ^ (widths kind).nwkId
  device : nwkAddr < 2 ^ (widths kind).nwkAddr

theorem lead_eq (kind : Nat) : lead kind = 2 ^ 32 - 2 ^ (32 - kind) := by
  have size : 2 ^ 32 = 0x100000000 := by decide
  rw [lead, Nat.one_shiftLeft, size]

theorem lead_mono {a b : Nat} (up : a ≤ b) : lead a ≤ lead b := by
  have fewer : 2 ^ (32 - b) ≤ 2 ^ (32 - a) := Nat.pow_le_pow_right (by decide) (by omega)
  rw [lead_eq, lead_eq]
  omega

theorem nwkId_width_le (kind : Nat) : (widths kind).nwkId ≤ 17 := by
  unfold widths
  split <;> decide

theorem lead_eq_mul {kind : Nat} (h : kind ≤ 7) : lead kind =
    ((2 ^ kind - 1) * 2 * 2 ^ (widths kind).nwkId) * 2 ^ (widths kind).nwkAddr := by
  have fill := widths_fill kind h
  have behind : 32 - kind = (widths kind).nwkAddr + ((widths kind).nwkId + 1) := by omega
  have whole : 2 ^ 32 = 2 ^ kind * 2 ^ (32 - kind) := by
    rw [← Nat.pow_add]
    congr 1
    omega
  rw [lead_eq, whole, ← Nat.sub_one_mul, behind, Nat.pow_add, Nat.pow_succ]
  ac_rfl

/-- The addresses of a type reach as far as its two parts can count. -/
theorem lead_succ {kind : Nat} (h : kind ≤ 7) : lead (kind + 1) =
    lead kind + 2 ^ (widths kind).nwkId * 2 ^ (widths kind).nwkAddr := by
  have fill := widths_fill kind h
  have behind : 32 - kind = 32 - (kind + 1) + 1 := by omega
  have parts : 32 - (kind + 1) = (widths kind).nwkId + (widths kind).nwkAddr := by omega
  have room : 2 ^ (32 - kind) ≤ 2 ^ 32 := Nat.pow_le_pow_right (by decide) (by omega)
  rw [lead_eq, lead_eq, ← Nat.pow_add, ← parts]
  rw [behind, Nat.pow_succ] at room ⊢
  omega

theorem kindOf_eq_some_iff {v kind : Nat} :
    kindOf v = some kind ↔ kind ≤ 7 ∧ lead kind ≤ v ∧ v < lead (kind + 1) := by
  simp only [kindOf, List.find?_range_eq_some, decide_eq_true_eq, List.mem_range, Bool.not_eq_true',
    decide_eq_false_iff_not, Nat.not_lt]
  constructor
  · rintro ⟨below, small, above⟩
    refine ⟨by omega, ?_, below⟩
    cases kind with
    | zero => exact Nat.zero_le v
    | succ kind => exact above kind (Nat.lt_succ_self kind)
  · rintro ⟨small, above, below⟩
    exact ⟨below, by omega, fun j before => Nat.le_trans (lead_mono before) above⟩

theorem kindOf_eq_none_iff {v : Nat} : kindOf v = none ↔ 0xFF000000 ≤ v := by
  have last : lead 8 = 0xFF000000 := rfl
  simp only [kindOf, List.find?_range_eq_none, Bool.not_eq_true', decide_eq_false_iff_not, Nat.not_lt]
  rw [← last]
  constructor
  · intro above
    exact above 7 (by decide)
  · intro above i small
    exact Nat.le_trans (lead_mono small) above

variable {kind nwkId nwkAddr : Nat}

theorem compose_eq (kind nwkId nwkAddr : Nat) : compose kind nwkId nwkAddr =
    lead kind + (nwkId * 2 ^ (widths kind).nwkAddr + nwkAddr) := by
  rw [compose, Nat.shiftLeft_eq, Nat.add_assoc]

theorem Fits.compose_lt (fits : Fits kind nwkId nwkAddr) :
    compose kind nwkId nwkAddr < lead (kind + 1) := by
  have next : (nwkId + 1) * 2 ^ (widths kind).nwkAddr ≤
      2 ^ (widths kind).nwkId * 2 ^ (widths kind).nwkAddr := Nat.mul_le_mul_right _ fits.network
  have last := fits.device
  rw [Nat.succ_mul] at next
  rw [compose_eq, lead_succ fits.small]
  omega

theorem Fits.kindOf_compose (fits : Fits kind nwkId nwkAddr) :
    kindOf (compose kind nwkId nwkAddr) = some kind := by
  refine kindOf_eq_some_iff.mpr ⟨fits.small, ?_, fits.compose_lt⟩
  rw [compose_eq]
  exact Nat.le_add_right _ _

theorem Fits.compose_lt_size (fits : Fits kind nwkId nwkAddr) :
    compose kind nwkId nwkAddr < 2 ^ 32 := by
  have most : lead (kind + 1) ≤ 2 ^ 32 := by
    rw [lead_eq]
    exact Nat.sub_le _ _
  exact Nat.lt_of_lt_of_le fits.compose_lt most

theorem Fits.compose_parts (fits : Fits kind nwkId nwkAddr) :
    (compose kind nwkId nwkAddr >>> (widths kind).nwkAddr) % 1 <<< (widths kind).nwkId = nwkId ∧
      compose kind nwkId nwkAddr % 1 <<< (widths kind).nwkAddr = nwkAddr := by
  have positive : 0 < 2 ^ (widths kind).nwkAddr := Nat.two_pow_pos _
  rw [compose_eq, lead_eq_mul fits.small, ← Nat.add_assoc, ← Nat.add_mul, Nat.shiftRight_eq_div_pow,
    Nat.one_shiftLeft, Nat.one_shiftLeft]
  constructor
  · rw [Nat.add_comm, Nat.add_mul_div_right _ _ positive, Nat.div_eq_of_lt fits.device, Nat.zero_add,
      Nat.mul_add_mod_of_lt fits.network]
  · exact Nat.mul_add_mod_of_lt fits.device

theorem exists_compose {v : Nat} (read : kindOf v = some kind) :
    ∃ nwkId nwkAddr, Fits kind nwkId nwkAddr ∧ compose kind nwkId nwkAddr = v := by
  obtain ⟨small, above, below⟩ := kindOf_eq_some_iff.mp read
  obtain ⟨x, rfl⟩ := Nat.exists_eq_add_of_le above
  rw [lead_succ small] at below
  have positive : 0 < 2 ^ (widths kind).nwkAddr := Nat.two_pow_pos _
  refine ⟨x / 2 ^ (widths kind).nwkAddr, x % 2 ^ (widths kind).nwkAddr, ⟨small, ?_, ?_⟩, ?_⟩
  · exact (Nat.div_lt_iff_lt_mul positive).mpr (Nat.lt_of_add_lt_add_left below)
  · exact Nat.mod_lt _ positive
  · rw [compose_eq, Nat.mul_comm, Nat.div_add_mod]

end Network

open Network

namespace DevAddr

theorem make_eq_ok_iff {kind nwkId nwkAddr : Nat} {a : DevAddr} : make kind nwkId nwkAddr = .ok a ↔
    Fits kind nwkId nwkAddr ∧ a.value.toNat = compose kind nwkId nwkAddr := by
  have value (fits : Fits kind nwkId nwkAddr) :
      (UInt32.ofNat (compose kind nwkId nwkAddr)).toNat = compose kind nwkId nwkAddr :=
    UInt32.toNat_ofNat_of_lt' fits.compose_lt_size
  unfold make
  split
  · rename_i beyond
    exact ⟨nofun, fun made => absurd made.1.small (by omega)⟩
  · rename_i within
    rw [Nat.one_shiftLeft, Nat.one_shiftLeft]
    split
    · rename_i wide
      refine ⟨nofun, fun made => ?_⟩
      have network := made.1.network
      have device := made.1.device
      omega
    · rename_i narrow
      have fits : Fits kind nwkId nwkAddr := ⟨by omega, by omega, by omega⟩
      rw [Except.ok.injEq, and_iff_right fits]
      constructor
      · rintro rfl
        exact value fits
      · intro same
        exact congrArg DevAddr.mk (UInt32.toNat_inj.mp ((value fits).trans same.symm))

theorem read_iff {kind nwkId nwkAddr : Nat} {a : DevAddr} :
    a.kind = some kind ∧ a.nwkId = some nwkId ∧ a.nwkAddr = some nwkAddr ↔
      Fits kind nwkId nwkAddr ∧ a.value.toNat = compose kind nwkId nwkAddr := by
  constructor
  · rintro ⟨known, first, second⟩
    obtain ⟨i, d, fits, value⟩ := exists_compose known
    obtain ⟨before, behind⟩ := fits.compose_parts
    simp only [DevAddr.nwkId, DevAddr.nwkAddr, known, Option.map_some, Option.some.injEq] at first second
    rw [← value, before] at first
    rw [← value, behind] at second
    subst first second
    exact ⟨fits, value.symm⟩
  · rintro ⟨fits, value⟩
    obtain ⟨before, behind⟩ := fits.compose_parts
    have known : a.kind = some kind := by rw [DevAddr.kind, value, fits.kindOf_compose]
    simp only [DevAddr.nwkId, DevAddr.nwkAddr, known, value, before, behind, Option.map_some, and_self]

theorem make_eq_ok_iff_read {kind nwkId nwkAddr : Nat} {a : DevAddr} : make kind nwkId nwkAddr = .ok a ↔
    a.kind = some kind ∧ a.nwkId = some nwkId ∧ a.nwkAddr = some nwkAddr :=
  make_eq_ok_iff.trans read_iff.symm

theorem exists_make_iff {kind nwkId nwkAddr : Nat} :
    (∃ a, make kind nwkId nwkAddr = .ok a) ↔ Fits kind nwkId nwkAddr := by
  constructor
  · rintro ⟨a, made⟩
    exact (make_eq_ok_iff.mp made).1
  · intro fits
    exact ⟨_, make_eq_ok_iff.mpr ⟨fits, UInt32.toNat_ofNat_of_lt' fits.compose_lt_size⟩⟩

theorem kind_eq_none_iff {a : DevAddr} : a.kind = none ↔ 0xFF000000 ≤ a.value := by
  rw [DevAddr.kind, kindOf_eq_none_iff, UInt32.le_iff_toNat_le]
  rfl

theorem exists_kind_iff {a : DevAddr} : a.value < 0xFF000000 ↔ ∃ kind, a.kind = some kind := by
  rw [← Option.ne_none_iff_exists', ne_eq, kind_eq_none_iff, UInt32.not_le]

theorem existsUnique_parts_iff {a : DevAddr} : a.value < 0xFF000000 ↔
    ∃! parts : Nat × Nat × Nat, make parts.1 parts.2.1 parts.2.2 = .ok a := by
  rw [exists_kind_iff]
  constructor
  · rintro ⟨kind, known⟩
    obtain ⟨number, device, fits, value⟩ := exists_compose known
    refine ⟨(kind, number, device), make_eq_ok_iff.mpr ⟨fits, value.symm⟩, ?_⟩
    intro parts made
    obtain ⟨first, second, third⟩ := make_eq_ok_iff_read.mp made
    obtain ⟨-, network, last⟩ := read_iff.mpr ⟨fits, value.symm⟩
    have types : parts.1 = kind := Option.some.inj (first.symm.trans known)
    have numbers : parts.2.1 = number := Option.some.inj (second.symm.trans network)
    have devices : parts.2.2 = device := Option.some.inj (third.symm.trans last)
    exact Prod.ext types (Prod.ext numbers devices)
  · rintro ⟨parts, made, -⟩
    exact ⟨parts.1, (make_eq_ok_iff_read.mp made).1⟩

end DevAddr

namespace NetId

def range (n : NetId) : Set DevAddr := {a | n.minAddr.value ≤ a.value ∧ a.value ≤ n.maxAddr.value}

theorem fits_zero (n : NetId) : Fits n.kind n.nwkId 0 where
  small := by
    have size := n.value.isLt
    rw [NetId.kind, Nat.shiftRight_eq_div_pow]
    omega
  network := by
    rw [NetId.nwkId, Nat.one_shiftLeft]
    exact Nat.mod_lt _ (Nat.two_pow_pos _)
  device := Nat.two_pow_pos _

theorem fits_last (n : NetId) : Fits n.kind n.nwkId (2 ^ (widths n.kind).nwkAddr - 1) where
  small := n.fits_zero.small
  network := n.fits_zero.network
  device := Nat.sub_lt (Nat.two_pow_pos _) (by decide)

theorem mem_range_iff {n : NetId} {a : DevAddr} : a ∈ n.range ↔
    compose n.kind n.nwkId 0 ≤ a.value.toNat ∧
      a.value.toNat ≤ compose n.kind n.nwkId (2 ^ (widths n.kind).nwkAddr - 1) := by
  have low : n.minAddr.value.toNat = compose n.kind n.nwkId 0 :=
    UInt32.toNat_ofNat_of_lt' n.fits_zero.compose_lt_size
  have high : n.maxAddr.value.toNat = compose n.kind n.nwkId (2 ^ (widths n.kind).nwkAddr - 1) := by
    rw [maxAddr, Nat.one_shiftLeft]
    exact UInt32.toNat_ofNat_of_lt' n.fits_last.compose_lt_size
  have bounds : a ∈ n.range ↔ n.minAddr.value ≤ a.value ∧ a.value ≤ n.maxAddr.value := Iff.rfl
  rw [bounds, UInt32.le_iff_toNat_le, UInt32.le_iff_toNat_le, low, high]

/-- A network contains an address if it has the network's type and number, and these are the addresses
between its first and its last. -/
theorem contains_iff {n : NetId} {a : DevAddr} : n.contains a = true ↔ a ∈ n.range := by
  rw [mem_range_iff, contains, decide_eq_true_eq, compose_eq, compose_eq]
  constructor
  · rintro ⟨known, number⟩
    obtain ⟨device, last⟩ : ∃ device, a.nwkAddr = some device := by
      rw [DevAddr.nwkAddr, known]
      exact ⟨_, rfl⟩
    obtain ⟨fits, value⟩ := DevAddr.read_iff.mp ⟨known, number, last⟩
    have most := fits.device
    rw [value, compose_eq]
    omega
  · rintro ⟨above, below⟩
    obtain ⟨device, value⟩ := Nat.exists_eq_add_of_le above
    have positive : 0 < 2 ^ (widths n.kind).nwkAddr := Nat.two_pow_pos _
    have fits : Fits n.kind n.nwkId device := ⟨n.fits_zero.small, n.fits_zero.network, by omega⟩
    obtain ⟨known, number, -⟩ := DevAddr.read_iff.mpr ⟨fits, by rw [value, compose_eq]; omega⟩
    exact ⟨known, number⟩

theorem minAddr_mem_range (n : NetId) : n.minAddr ∈ n.range := by
  rw [← contains_iff, contains, decide_eq_true_eq]
  have value : n.minAddr.value.toNat = compose n.kind n.nwkId 0 :=
    UInt32.toNat_ofNat_of_lt' n.fits_zero.compose_lt_size
  obtain ⟨known, number, -⟩ := DevAddr.read_iff.mpr ⟨n.fits_zero, value⟩
  exact ⟨known, number⟩

theorem same_of_mem {m n : NetId} {a : DevAddr} (first : a ∈ m.range) (second : a ∈ n.range) :
    m.kind = n.kind ∧ m.nwkId = n.nwkId := by
  rw [← contains_iff, contains, decide_eq_true_eq] at first second
  exact ⟨Option.some.inj (first.1.symm.trans second.1), Option.some.inj (first.2.symm.trans second.2)⟩

theorem range_eq_iff {m n : NetId} : m.range = n.range ↔ m.kind = n.kind ∧ m.nwkId = n.nwkId := by
  constructor
  · intro same
    exact same_of_mem m.minAddr_mem_range (same ▸ m.minAddr_mem_range)
  · rintro ⟨kind, number⟩
    ext a
    rw [mem_range_iff, mem_range_iff, kind, number]

theorem range_eq_or_disjoint (m n : NetId) : m.range = n.range ∨ Disjoint m.range n.range := by
  by_cases same : m.kind = n.kind ∧ m.nwkId = n.nwkId
  · exact Or.inl (range_eq_iff.mpr same)
  · exact Or.inr (Set.disjoint_left.mpr fun a first second => same (same_of_mem first second))

theorem exists_of_fits {kind nwkId nwkAddr : Nat} (fits : Fits kind nwkId nwkAddr) :
    ∃ n : NetId, n.kind = kind ∧ n.nwkId = nwkId := by
  have narrow := nwkId_width_le kind
  have number : nwkId < 2 ^ 17 :=
    Nat.lt_of_lt_of_le fits.network (Nat.pow_le_pow_right (by decide) narrow)
  have value : (ofNat (kind <<< 21 + nwkId)).value.val = kind * 2 ^ 21 + nwkId := by
    rw [value_ofNat fits.small (by omega)]
    rfl
  have known : (ofNat (kind <<< 21 + nwkId)).kind = kind := by
    rw [NetId.kind, value, Nat.shiftRight_eq_div_pow]
    omega
  refine ⟨ofNat (kind <<< 21 + nwkId), known, ?_⟩
  have shifted : 2 ^ 21 = 2 ^ (21 - (widths kind).nwkId) * 2 ^ (widths kind).nwkId := by
    rw [← Nat.pow_add, Nat.sub_add_cancel (by omega)]
  rw [NetId.nwkId, known, value, Nat.one_shiftLeft, shifted, ← Nat.mul_assoc,
    Nat.mul_add_mod_of_lt fits.network]

theorem exists_mem_range_iff {a : DevAddr} : a.value < 0xFF000000 ↔ ∃ n : NetId, a ∈ n.range := by
  rw [DevAddr.exists_kind_iff]
  constructor
  · rintro ⟨kind, known⟩
    obtain ⟨number, device, fits, value⟩ := exists_compose known
    obtain ⟨n, rfl, rfl⟩ := exists_of_fits fits
    obtain ⟨-, read, -⟩ := DevAddr.read_iff.mpr ⟨fits, value.symm⟩
    refine ⟨n, contains_iff.mp ?_⟩
    rw [contains, decide_eq_true_eq]
    exact ⟨known, read⟩
  · rintro ⟨n, member⟩
    rw [← contains_iff, contains, decide_eq_true_eq] at member
    exact ⟨n.kind, member.1⟩

theorem existsUnique_range_iff {a : DevAddr} :
    a.value < 0xFF000000 ↔ ∃! r : Set DevAddr, r ∈ Set.range NetId.range ∧ a ∈ r := by
  rw [exists_mem_range_iff]
  constructor
  · rintro ⟨n, member⟩
    refine ⟨n.range, ⟨⟨n, rfl⟩, member⟩, ?_⟩
    rintro _ ⟨⟨m, rfl⟩, shared⟩
    exact range_eq_iff.mpr (same_of_mem shared member)
  · rintro ⟨_, ⟨⟨n, rfl⟩, member⟩, -⟩
    exact ⟨n, member⟩

end NetId

/-- The ranges of the networks tile the addresses below FF000000. A network contains the addresses from its
first to its last. An address is made of a type and two numbers exactly if these keep to the widths of the type,
and then they are what is read of it; each address below FF000000 is made of one such triple, and those above
have no type. Two networks with the same type and number have the same range, any others have no address in
common, and each address below FF000000 lies in one range, those above in none. -/
theorem address_ranges_tile :
    (∀ (n : NetId) (a : DevAddr), n.contains a = true ↔
      n.minAddr.value ≤ a.value ∧ a.value ≤ n.maxAddr.value) ∧
    (∀ kind nwkId nwkAddr, (∃ a, DevAddr.make kind nwkId nwkAddr = .ok a) ↔
      kind ≤ 7 ∧ nwkId < 2 ^ (widths kind).nwkId ∧ nwkAddr < 2 ^ (widths kind).nwkAddr) ∧
    (∀ kind nwkId nwkAddr (a : DevAddr), DevAddr.make kind nwkId nwkAddr = .ok a ↔
      a.kind = some kind ∧ a.nwkId = some nwkId ∧ a.nwkAddr = some nwkAddr) ∧
    (∀ a : DevAddr, a.value < 0xFF000000 ↔
      ∃! parts : Nat × Nat × Nat, DevAddr.make parts.1 parts.2.1 parts.2.2 = .ok a) ∧
    (∀ a : DevAddr, a.kind = none ↔ 0xFF000000 ≤ a.value) ∧
    (∀ m n : NetId, (m.range = n.range ↔ m.kind = n.kind ∧ m.nwkId = n.nwkId) ∧
      (m.range = n.range ∨ Disjoint m.range n.range)) ∧
    ∀ a : DevAddr, a.value < 0xFF000000 ↔ ∃! r : Set DevAddr, r ∈ Set.range NetId.range ∧ a ∈ r := by
  refine ⟨fun n a => NetId.contains_iff, ?_, ?_, ?_, ?_, ?_, ?_⟩
  · intro kind nwkId nwkAddr
    rw [DevAddr.exists_make_iff]
    exact ⟨fun fits => ⟨fits.small, fits.network, fits.device⟩, fun ⟨t, i, d⟩ => ⟨t, i, d⟩⟩
  · exact fun kind nwkId nwkAddr a => DevAddr.make_eq_ok_iff_read
  · exact fun a => DevAddr.existsUnique_parts_iff
  · exact fun a => DevAddr.kind_eq_none_iff
  · exact fun m n => ⟨NetId.range_eq_iff, NetId.range_eq_or_disjoint m n⟩
  · exact fun a => NetId.existsUnique_range_iff

end IdentityDirectory
