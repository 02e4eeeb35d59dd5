import Mathlib.Algebra.Group.Nat.Defs
import Mathlib.Logic.Function.Iterate
import IdentityDirectory.Checksum
import IdentityDirectory.Text.Utf8
/-!
Short bursts of errors. A step of the register is linear in exclusive or, and an odd state leaves a one at
the top that takes sixteen steps to move out. So a difference that goes in does not vanish, and the
difference of one byte is too large, eight bits on, for the next byte to undo.
-/
namespace IdentityDirectory.Checksum

theorem half_xor (s t : UInt16) : (s ^^^ t) / 2 = s / 2 ^^^ t / 2 := by
  apply UInt16.toNat_inj.mp
  simp [Nat.xor_div_two]

theorem odd_iff (s : UInt16) : s % 2 = 1 ↔ s.toNat % 2 = 1 := by
  rw [← UInt16.toNat_inj]
  rfl

theorem odd_xor (s t : UInt16) : (s ^^^ t) % 2 = 1 ↔ ¬(s % 2 = 1 ↔ t % 2 = 1) := by
  rw [odd_iff, odd_iff, odd_iff, UInt16.toNat_xor, Nat.xor_mod_two_eq_one]

theorem step_xor (s t : UInt16) : step (s ^^^ t) = step s ^^^ step t := by
  simp only [step, odd_xor, half_xor]
  by_cases hs : s % 2 = 1 <;> by_cases ht : t % 2 = 1
  · -- the two polynomials cancel out
    have twice : s / 2 ^^^ 0xA001 ^^^ (t / 2 ^^^ 0xA001) = s / 2 ^^^ t / 2 ^^^ (0xA001 ^^^ 0xA001) := by
      ac_rfl
    simp [hs, ht, twice]
  · simp only [hs, ht, iff_false, not_true_eq_false, not_false_eq_true, if_true, if_false]
    ac_rfl
  · simp only [hs, ht, iff_true, not_false_eq_true, if_true, if_false]
    ac_rfl
  · simp [hs, ht]

theorem steps_xor (n : Nat) (s t : UInt16) : step^[n] (s ^^^ t) = step^[n] s ^^^ step^[n] t := by
  induction n generalizing s t with
  | zero => rfl
  | succ n ih => simp only [Function.iterate_succ_apply, step_xor, ih]

theorem le_step_of_odd {s : UInt16} (odd : s % 2 = 1) : 2 ^ 15 ≤ (step s).toNat := by
  have half : (s.toNat / 2).testBit 15 = false := by
    apply Nat.testBit_lt_two_pow
    have := s.toNat_lt
    omega
  have top : Nat.testBit 0xA001 15 = true := by decide
  apply Nat.ge_two_pow_of_testBit
  simp [step, odd, half, top]

theorem toNat_of_step_lt {s : UInt16} (small : (step s).toNat < 2 ^ 15) :
    s.toNat = 2 * (step s).toNat := by
  have even : ¬s % 2 = 1 := fun odd => Nat.not_le.mpr small (le_step_of_odd odd)
  have half : (step s).toNat = s.toNat / 2 := by simp [step, even]
  rw [odd_iff] at even
  omega

/-- Steps that end in a small state met no odd one, and only moved what was there. -/
theorem toNat_of_steps_lt {n : Nat} (few : n ≤ 16) {s : UInt16}
    (small : (step^[n] s).toNat < 2 ^ (16 - n)) : s.toNat = 2 ^ n * (step^[n] s).toNat := by
  induction n generalizing s with
  | zero => simp
  | succ n ih =>
    rw [Function.iterate_succ_apply] at small ⊢
    have room : 2 ^ (16 - (n + 1)) ≤ 2 ^ (16 - n) := Nat.pow_le_pow_right (by decide) (by omega)
    have behind := ih (by omega) (Nat.lt_of_lt_of_le small room)
    have top : (step s).toNat < 2 ^ 15 := by
      calc (step s).toNat = 2 ^ n * (step^[n] (step s)).toNat := behind
        _ < 2 ^ n * 2 ^ (16 - (n + 1)) := Nat.mul_lt_mul_of_pos_left small (Nat.two_pow_pos n)
        _ = 2 ^ 15 := by rw [← Nat.pow_add]; congr 1; omega
    rw [toNat_of_step_lt top, behind, Nat.pow_succ', Nat.mul_assoc]

theorem eq_zero_of_steps {s : UInt16} (gone : step^[8] s = 0) : s = 0 := by
  have moved : s.toNat = 2 ^ 8 * (step^[8] s).toNat :=
    toNat_of_steps_lt (by omega) (by rw [gone]; decide)
  rw [gone] at moved
  exact UInt16.toNat_inj.mp moved

theorem eq_zero_of_steps_byte {z w : UInt8} (small : step^[8] z.toUInt16 = w.toUInt16) : z = 0 := by
  have byte : (step^[8] z.toUInt16).toNat < 2 ^ 8 := by
    rw [small]
    exact w.toNat_lt
  have moved : z.toNat = 2 ^ 8 * (step^[8] z.toUInt16).toNat := toNat_of_steps_lt (by omega) byte
  have room := z.toNat_lt
  apply UInt8.toNat_inj.mp
  show z.toNat = 0
  omega

theorem absorb_xor (s t : UInt16) (x y : UInt8) :
    absorb s x ^^^ absorb t y = step^[8] (s ^^^ t ^^^ (x ^^^ y).toUInt16) := by
  have mixed : s ^^^ t ^^^ (x ^^^ y).toUInt16 = s ^^^ x.toUInt16 ^^^ (t ^^^ y.toUInt16) := by
    rw [UInt8.toUInt16_xor]
    ac_rfl
  rw [mixed, steps_xor]
  simp only [absorb, Function.comp_apply, Function.iterate_succ_apply, Function.iterate_zero_apply]

theorem absorb_injective {s t : UInt16} {x : UInt8} (same : absorb s x = absorb t x) : s = t := by
  have gone := absorb_xor s t x x
  rw [same, UInt16.xor_self, UInt8.xor_self] at gone
  have zero : s ^^^ t ^^^ 0 = 0 := eq_zero_of_steps gone.symm
  exact UInt16.xor_eq_zero_iff.mp (UInt16.xor_zero.symm.trans zero)

theorem foldl_absorb_injective {b : Bytes} {s t : UInt16}
    (same : b.foldl absorb s = b.foldl absorb t) : s = t := by
  induction b generalizing s t with
  | nil => exact same
  | cons x b ih =>
    rw [List.foldl_cons, List.foldl_cons] at same
    exact absorb_injective (ih same)

theorem eq_of_absorb {s : UInt16} {x y : UInt8} (same : absorb s x = absorb s y) : x = y := by
  have gone := absorb_xor s s x y
  rw [same, UInt16.xor_self, UInt16.xor_self, UInt16.zero_xor] at gone
  have zero : (x ^^^ y).toUInt16 = UInt8.toUInt16 0 := eq_zero_of_steps gone.symm
  exact UInt8.xor_eq_zero_iff.mp (UInt8.toUInt16_inj.mp zero)

theorem eq_of_absorb_absorb {s : UInt16} {x₁ x₂ y₁ y₂ : UInt8}
    (same : absorb (absorb s x₁) x₂ = absorb (absorb s y₁) y₂) : x₁ = y₁ ∧ x₂ = y₂ := by
  have first : x₁ = y₁ := by
    -- the second bytes would have to make up for what the first ones left behind
    have gone := absorb_xor (absorb s x₁) (absorb s y₁) x₂ y₂
    rw [same, UInt16.xor_self] at gone
    have left := UInt16.xor_eq_zero_iff.mp (eq_zero_of_steps gone.symm)
    rw [absorb_xor, UInt16.xor_self, UInt16.zero_xor] at left
    exact UInt8.xor_eq_zero_iff.mp (eq_zero_of_steps_byte left)
  subst first
  exact ⟨rfl, eq_of_absorb same⟩

/-- At most two bytes are told apart by the state behind them, whatever the state in front. -/
theorem eq_of_foldl_absorb {s : UInt16} {x y : Bytes} (size : x.length = y.length)
    (short : x.length ≤ 2) : x.foldl absorb s = y.foldl absorb s → x = y := by
  match x, y, size, short with
  | [], [], _, _ =>
    intro _
    rfl
  | [x], [y], _, _ =>
    intro same
    rw [List.foldl_cons, List.foldl_nil, List.foldl_cons, List.foldl_nil] at same
    rw [eq_of_absorb same]
  | [x₁, x₂], [y₁, y₂], _, _ =>
    intro same
    simp only [List.foldl_cons, List.foldl_nil] at same
    obtain ⟨rfl, rfl⟩ := eq_of_absorb_absorb same
    rfl

theorem crc16_burst_ne (p s : Bytes) {x y : Bytes} (size : x.length = y.length)
    (short : x.length ≤ 2) (differ : x ≠ y) : crc16 (p ++ x ++ s) ≠ crc16 (p ++ y ++ s) := by
  intro same
  simp only [crc16, List.foldl_append] at same
  exact differ (eq_of_foldl_absorb size short (foldl_absorb_injective same))

theorem take_drop_of_agree {b d : Bytes} {i : Nat}
    (agree : ∀ j, j ≠ i → j ≠ i + 1 → b[j]? = d[j]?) :
    b.take i = d.take i ∧ b.drop (i + 2) = d.drop (i + 2) := by
  constructor
  · apply List.ext_getElem?
    intro j
    rw [List.getElem?_take, List.getElem?_take]
    split
    · exact agree j (by omega) (by omega)
    · rfl
  · apply List.ext_getElem?
    intro j
    rw [List.getElem?_drop, List.getElem?_drop]
    exact agree _ (by omega) (by omega)

theorem cut_at (b : Bytes) (i : Nat) : b = b.take i ++ (b.drop i).take 2 ++ b.drop (i + 2) := by
  rw [List.append_assoc, ← List.drop_drop, List.take_append_drop, List.take_append_drop]

/-- Two texts with different bursts of the same size, of at most two bytes, in the same place have different
checksums. So a text never keeps its checksum when one byte of it changes, or two in a row. -/
theorem short_bursts_detected :
    (∀ p s x y : Bytes, x.length = y.length → x.length ≤ 2 → x ≠ y →
      crc16 (p ++ x ++ s) ≠ crc16 (p ++ y ++ s)) ∧
    ∀ (b d : Bytes) (i : Nat), b.length = d.length → (∀ j, j ≠ i → j ≠ i + 1 → b[j]? = d[j]?) →
      b ≠ d → crc16 b ≠ crc16 d := by
  refine ⟨fun p s x y size short differ => crc16_burst_ne p s size short differ, ?_⟩
  intro b d i size agree differ
  obtain ⟨front, rest⟩ := take_drop_of_agree agree
  have burst : (b.drop i).take 2 ≠ (d.drop i).take 2 := by
    intro same
    apply differ
    rw [cut_at b i, cut_at d i, front, same, rest]
  have equal : ((b.drop i).take 2).length = ((d.drop i).take 2).length := by simp [size]
  have found := crc16_burst_ne (d.take i) (d.drop (i + 2)) equal (List.length_take_le _ _) burst
  rwa [← front, ← rest, ← cut_at b i, front, rest, ← cut_at d i] at found

theorem swapped_digits_detected :
    let front : Bytes := Text.utf8 "LW:D0:0000000000000000:00000000000000".toList
    let rest : Bytes := Text.utf8 ":00000000".toList
    let x : Bytes := [0x42, 0x39]
    let y : Bytes := [0x39, 0x42]
    x.length = y.length ∧ x.length ≤ 2 ∧ x ≠ y ∧
      crc16 (front ++ x ++ rest) ≠ crc16 (front ++ y ++ rest) :=
  ⟨rfl, by decide, by decide, short_bursts_detected.1 _ _ _ _ rfl (by decide) (by decide)⟩

end IdentityDirectory.Checksum
