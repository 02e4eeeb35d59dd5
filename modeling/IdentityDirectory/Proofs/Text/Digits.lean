import Mathlib.Algebra.Group.Nat.Defs
import Mathlib.Data.List.Basic
import IdentityDirectory.Proofs.Text.Ends
import IdentityDirectory.Text.Hex
/-!
Digits that are written are read back: hexadecimal ones of a fixed width, in capital or small letters, and
decimal ones. A digit is none of the characters that texts are cut at.
-/
namespace IdentityDirectory.Text

theorem trim_of_unblank {s : List Char} (plain : ∀ c ∈ s, isBlank c = false) : trim s = s := by
  refine trim_eq_iff.mpr ⟨[], [], (List.append_nil s).symm, List.forall_mem_nil _,
    List.forall_mem_nil _, ?_, ?_⟩
  · exact fun c first => plain c (List.mem_of_mem_head? first)
  · exact fun c last => plain c (List.mem_of_mem_getLast? last)

theorem trim_ne_nil {c : Char} {s : List Char} (plain : isBlank c = false) : trim (c :: s) ≠ [] := by
  intro empty
  obtain ⟨front, behind, whole, blanks, ends, -⟩ := trim_eq_iff.mp empty
  rw [List.append_nil] at whole
  have there : c ∈ front ++ behind := whole ▸ List.mem_cons_self
  have blank : isBlank c = true := (List.mem_append.mp there).elim (blanks c) (ends c)
  rw [plain] at blank
  contradiction

theorem utf8Size_of_ascii_char {c : Char} (small : c.toNat < 128) : c.utf8Size = 1 := by
  rw [Char.utf8Size_eq_one_iff, UInt32.le_iff_toNat_le]
  exact Nat.le_of_lt_succ small

theorem utf8_of_ascii {s : List Char} (small : ∀ c ∈ s, c.toNat < 128) :
    utf8 s = s.map fun c => UInt8.ofNat c.toNat := by
  induction s with
  | nil => rfl
  | cons c s ih =>
    have first : String.utf8EncodeChar c = [UInt8.ofNat c.toNat] := by
      have code : c.val.toNat ≤ 127 := Nat.le_of_lt_succ (small c List.mem_cons_self)
      simp only [String.utf8EncodeChar, code, ↓reduceIte]
      rfl
    have rest := ih fun d member => small d (List.mem_cons_of_mem c member)
    rw [utf8] at rest ⊢
    rw [List.flatMap_cons, first, rest]
    rfl

theorem utf8Size_of_ascii {s : List Char} (small : ∀ c ∈ s, c.toNat < 128) :
    utf8Size s = s.length := by
  have fold (n : Nat) : s.foldl (fun size c => size + c.utf8Size) n = n + s.length := by
    induction s generalizing n with
    | nil => rfl
    | cons c s ih =>
      have one := utf8Size_of_ascii_char (small c List.mem_cons_self)
      rw [List.foldl_cons, one, ih fun d member => small d (List.mem_cons_of_mem c member),
        List.length_cons]
      omega
  rw [utf8Size, fold, Nat.zero_add]

/-! The characters that count as digits. -/

def IsNumeral (radix : Nat) (s : List Char) : Prop := ∀ c ∈ s, (digitOf radix c).isSome

theorem isNumeral_cons {radix : Nat} {c : Char} {s : List Char} :
    IsNumeral radix (c :: s) ↔ (digitOf radix c).isSome ∧ IsNumeral radix s :=
  List.forall_mem_cons

theorem code_of_digit {radix : Nat} {c : Char} (digit : (digitOf radix c).isSome) :
    48 ≤ c.toNat ∧ c.toNat ≤ 57 ∨ 65 ≤ c.toNat ∧ c.toNat ≤ 90 ∨
      97 ≤ c.toNat ∧ c.toNat ≤ 122 := by
  have order (a b : Char) : a ≤ b ↔ a.toNat ≤ b.toNat := Iff.rfl
  simp only [digitOf, digitValue, order, Char.reduceToNat] at digit
  split at digit
  · rename_i within
    exact Or.inl within
  · split at digit
    · rename_i within
      exact Or.inr (Or.inr within)
    · split at digit
      · rename_i within
        exact Or.inr (Or.inl within)
      · simp at digit

theorem digit_ne {radix : Nat} {c x : Char} (digit : (digitOf radix c).isSome)
    (foreign : digitOf radix x = none) : c ≠ x := by
  rintro rfl
  rw [foreign] at digit
  contradiction

theorem ascii_of_digit {radix : Nat} {c : Char} (digit : (digitOf radix c).isSome) :
    c.toNat < 128 := by
  have code := code_of_digit digit
  omega

theorem unblank_of_digit {radix : Nat} {c : Char} (digit : (digitOf radix c).isSome) :
    isBlank c = false := by
  have code := code_of_digit digit
  simp only [isBlank, blankRanges, List.any_cons, List.any_nil, Bool.or_false, Bool.or_eq_false_iff,
    Bool.and_eq_false_iff, decide_eq_false_iff_not]
  omega

theorem trim_numeral {radix : Nat} {s : List Char} (digits : IsNumeral radix s) : trim s = s :=
  trim_of_unblank fun c member => unblank_of_digit (digits c member)

theorem trim_of_ends {c : Char} {s digits : List Char} {radix : Nat} (first : isBlank c = false)
    (numeral : IsNumeral radix digits) (some_digit : digits ≠ []) :
    trim (c :: s ++ digits) = c :: s ++ digits := by
  refine trim_eq_iff.mpr ⟨[], [], (List.append_nil _).symm, List.forall_mem_nil _,
    List.forall_mem_nil _, ?_, ?_⟩
  · rintro _ ⟨⟩
    exact first
  · intro d last
    rw [List.getLast?_append_of_ne_nil _ some_digit] at last
    exact unblank_of_digit (numeral d (List.mem_of_mem_getLast? last))

theorem utf8Size_numeral {radix : Nat} {s : List Char} (digits : IsNumeral radix s) :
    utf8Size s = s.length :=
  utf8Size_of_ascii fun c member => ascii_of_digit (digits c member)

theorem dropLead_numeral {radix : Nat} {s : List Char} (digits : IsNumeral radix s) (a : Char) {b : Char}
    (foreign : digitOf radix b = none) : dropLead a b s = s := by
  apply dropLead_of_free
  rintro ⟨rest, rfl⟩
  have inside := digits b (by simp)
  rw [foreign] at inside
  contradiction

/-! The number that digits stand for. -/

/-- The number that digits stand for behind the digits of another number. -/
def valueOf (radix v : Nat) (s : List Char) : Nat :=
  s.foldl (fun v c => v * radix + (digitOf radix c).getD 0) v

@[simp] theorem valueOf_nil (radix v : Nat) : valueOf radix v [] = v := rfl

@[simp] theorem valueOf_cons (radix v : Nat) (c : Char) (s : List Char) :
    valueOf radix v (c :: s) = valueOf radix (v * radix + (digitOf radix c).getD 0) s := rfl

theorem le_valueOf {radix : Nat} (positive : 0 < radix) (v : Nat) (s : List Char) :
    v ≤ valueOf radix v s := by
  induction s generalizing v with
  | nil => exact Nat.le_refl v
  | cons c s ih =>
    have grown := Nat.le_mul_of_pos_right v positive
    have rest := ih (v * radix + (digitOf radix c).getD 0)
    rw [valueOf_cons]
    omega

theorem digit_lt {radix d : Nat} {c : Char} (digit : digitOf radix c = some d) : d < radix := by
  have small := Option.filter_eq_some_iff.mp digit
  exact of_decide_eq_true small.2

theorem valueOf_lt {radix : Nat} {s : List Char} (digits : IsNumeral radix s) (v : Nat) :
    valueOf radix v s < (v + 1) * radix ^ s.length := by
  induction s generalizing v with
  | nil => simp
  | cons c s ih =>
    obtain ⟨first, rest⟩ := isNumeral_cons.mp digits
    obtain ⟨d, digit⟩ := Option.isSome_iff_exists.mp first
    have small := digit_lt digit
    have bound := ih rest (v * radix + d)
    have next : v * radix + d + 1 ≤ (v + 1) * radix := by
      rw [Nat.succ_mul]
      omega
    rw [valueOf_cons, digit, Option.getD_some, List.length_cons, Nat.pow_succ', ← Nat.mul_assoc]
    exact Nat.lt_of_lt_of_le bound (Nat.mul_le_mul_right _ next)

theorem readDigits_numeral {radix limit v : Nat} {s : List Char} (positive : 0 < radix)
    (excess : NumberError) (digits : IsNumeral radix s) (fits : valueOf radix v s ≤ limit) :
    readDigits radix limit excess v s = .ok (valueOf radix v s) := by
  induction s generalizing v with
  | nil => rfl
  | cons c s ih =>
    obtain ⟨first, rest⟩ := isNumeral_cons.mp digits
    obtain ⟨d, digit⟩ := Option.isSome_iff_exists.mp first
    rw [valueOf_cons, digit, Option.getD_some] at fits ⊢
    have within := Nat.le_trans (le_valueOf positive _ s) fits
    simp only [readDigits, digit, within, ↓reduceIte, ih rest fits]

theorem digitOf_plus (radix : Nat) : digitOf radix '+' = none := rfl

theorem readUnsigned_digits {radix limit : Nat} {s : List Char} (digits : IsNumeral radix s)
    (some_digit : s ≠ []) : readUnsigned radix limit s = readDigits radix limit .tooLarge 0 s := by
  cases s with
  | nil => contradiction
  | cons c s =>
    have plain : c ≠ '+' := digit_ne (isNumeral_cons.mp digits).1 (digitOf_plus radix)
    unfold readUnsigned
    split <;> simp_all

theorem readUnsigned_numeral {radix limit : Nat} {s : List Char} (positive : 0 < radix)
    (digits : IsNumeral radix s) (some_digit : s ≠ []) (fits : valueOf radix 0 s ≤ limit) :
    readUnsigned radix limit s = .ok (valueOf radix 0 s) := by
  rw [readUnsigned_digits digits some_digit, readDigits_numeral positive .tooLarge digits fits]

theorem readDigits_eq_ok {radix limit v w : Nat} {excess : NumberError} {s : List Char}
    (start : v ≤ limit) (read : readDigits radix limit excess v s = .ok w) :
    IsNumeral radix s ∧ valueOf radix v s = w ∧ w ≤ limit := by
  induction s generalizing v with
  | nil =>
    obtain rfl := Except.ok.inj read
    have digits : IsNumeral radix [] := List.forall_mem_nil _
    exact ⟨digits, rfl, start⟩
  | cons c s ih =>
    rw [readDigits] at read
    cases digit : digitOf radix c with
    | none =>
      rw [digit] at read
      contradiction
    | some d =>
      simp only [digit] at read
      split at read
      · rename_i within
        obtain ⟨rest, value, fits⟩ := ih within read
        refine ⟨isNumeral_cons.mpr ⟨digit ▸ rfl, rest⟩, ?_, fits⟩
        rw [valueOf_cons, digit, Option.getD_some, value]
      · contradiction

/-- A text stands for a number: digits of that value, at least one, with at most one plus sign in front. -/
def Denotes (radix : Nat) (s : List Char) (v : Nat) : Prop :=
  ∃ digits, (s = digits ∨ s = '+' :: digits) ∧ digits ≠ [] ∧ IsNumeral radix digits ∧
    valueOf radix 0 digits = v

theorem Denotes.ascii {radix v : Nat} {s : List Char} (denotes : Denotes radix s v) :
    ∀ c ∈ s, c.toNat < 128 := by
  obtain ⟨digits, rfl | rfl, -, numeral, -⟩ := denotes
  · exact fun c member => ascii_of_digit (numeral c member)
  · exact List.forall_mem_cons.mpr ⟨by decide, fun c member => ascii_of_digit (numeral c member)⟩

theorem Denotes.lt {radix v : Nat} {s : List Char} (positive : 0 < radix) (denotes : Denotes radix s v) :
    v < radix ^ s.length := by
  obtain ⟨digits, shape, -, numeral, rfl⟩ := denotes
  have short : digits.length ≤ s.length := by
    rcases shape with rfl | rfl
    · exact Nat.le_refl _
    · exact Nat.le_succ _
  have bound := valueOf_lt numeral 0
  rw [Nat.zero_add, Nat.one_mul] at bound
  exact Nat.lt_of_lt_of_le bound (Nat.pow_le_pow_right positive short)

theorem readUnsigned_eq_ok_iff {radix limit v : Nat} {s : List Char} (positive : 0 < radix) :
    readUnsigned radix limit s = .ok v ↔ Denotes radix s v ∧ v ≤ limit := by
  constructor
  · intro read
    unfold readUnsigned at read
    split at read
    · contradiction
    · contradiction
    · rename_i digits some_digit
      obtain ⟨numeral, value, fits⟩ := readDigits_eq_ok (Nat.zero_le limit) read
      have present : digits ≠ [] := fun empty => some_digit (empty ▸ rfl)
      exact ⟨⟨digits, .inr rfl, present, numeral, value⟩, fits⟩
    · rename_i some_char _ _
      obtain ⟨numeral, value, fits⟩ := readDigits_eq_ok (Nat.zero_le limit) read
      exact ⟨⟨_, .inl rfl, some_char, numeral, value⟩, fits⟩
  · rintro ⟨⟨digits, plain | signed, some_digit, numeral, rfl⟩, fits⟩
    · rw [plain, readUnsigned_numeral positive numeral some_digit fits]
    · obtain ⟨c, rest, rfl⟩ := List.exists_cons_of_ne_nil some_digit
      rw [signed, readUnsigned, readDigits_numeral positive .tooLarge numeral fits]
      rintro ⟨⟩

/-! Hexadecimal digits. -/

theorem digitOf_hexDigit : ∀ v < 16, digitOf 16 (hexDigit v) = some v := by decide

theorem digitOf_lower_hexDigit : ∀ v < 16, digitOf 16 (hexDigit v).toLower = some v := by decide

/-- The digits that are read are those that are written, and their small letters. -/
theorem digitOf_hex_eq_some_iff {c : Char} {d : Nat} :
    digitOf 16 c = some d ↔ d < 16 ∧ (c = hexDigit d ∨ c = (hexDigit d).toLower) := by
  constructor
  · intro digit
    have table : ∀ n < 128, ∀ d ∈ digitOf 16 (Char.ofNat n),
        Char.ofNat n = hexDigit d ∨ Char.ofNat n = (hexDigit d).toLower := by decide
    have small := ascii_of_digit (Option.isSome_of_eq_some digit)
    have written := table c.toNat small d
    rw [Char.ofNat_toNat] at written
    exact ⟨digit_lt digit, written digit⟩
  · rintro ⟨small, rfl | rfl⟩
    · exact digitOf_hexDigit d small
    · exact digitOf_lower_hexDigit d small

@[simp] theorem length_hexFixed (width v : Nat) : (hexFixed width v).length = width := by
  induction width with
  | zero => rfl
  | succ width ih => rw [hexFixed, List.length_cons, ih]

theorem mem_hexFixed {width v : Nat} {c : Char} (member : c ∈ hexFixed width v) :
    ∃ d < 16, c = hexDigit d := by
  induction width with
  | zero => contradiction
  | succ width ih =>
    rcases List.mem_cons.mp member with rfl | behind
    · exact ⟨_, Nat.mod_lt _ (by decide), rfl⟩
    · exact ih behind

theorem isNumeral_hexFixed (width v : Nat) : IsNumeral 16 (hexFixed width v) := by
  intro c member
  obtain ⟨d, small, rfl⟩ := mem_hexFixed member
  rw [digitOf_hexDigit d small]
  rfl

theorem isNumeral_lower_hexFixed (width v : Nat) : IsNumeral 16 (lower (hexFixed width v)) := by
  intro c member
  obtain ⟨_, written, rfl⟩ := List.mem_map.mp member
  obtain ⟨d, small, rfl⟩ := mem_hexFixed written
  rw [digitOf_lower_hexDigit d small]
  rfl

theorem shiftRight_digits (v n : Nat) : v >>> (4 * n) = v / 16 ^ n := by
  rw [Nat.shiftRight_eq_div_pow, Nat.pow_mul]

theorem valueOf_hexFixed (width u v : Nat) :
    valueOf 16 u (hexFixed width v) = u * 16 ^ width + v % 16 ^ width := by
  induction width generalizing u with
  | zero => simp [hexFixed, Nat.mod_one]
  | succ width ih =>
    have digit := digitOf_hexDigit (v / 16 ^ width % 16) (Nat.mod_lt _ (by decide))
    rw [hexFixed, shiftRight_digits, valueOf_cons, digit, Option.getD_some, ih, Nat.pow_succ,
      Nat.mod_mul, Nat.add_mul, Nat.mul_assoc, Nat.mul_comm 16, Nat.add_assoc, Nat.mul_comm (_ % 16),
      Nat.add_comm (_ % _)]

theorem valueOf_lower_hexFixed (width u v : Nat) :
    valueOf 16 u (lower (hexFixed width v)) = u * 16 ^ width + v % 16 ^ width := by
  rw [← valueOf_hexFixed]
  induction width generalizing u with
  | zero => rfl
  | succ width ih =>
    have small := Nat.mod_lt (v >>> (4 * width)) (show 16 > 0 by decide)
    have capital := digitOf_hexDigit _ small
    have little := digitOf_lower_hexDigit _ small
    rw [hexFixed, valueOf_cons, capital, ← ih]
    simp only [lower, List.map_cons, valueOf_cons, little]

theorem lt_hexShort (v : Nat) : v < 16 ^ (v.log2 / 4 + 1) := by
  have bits : v < 2 ^ (v.log2 + 1) := Nat.lt_log2_self
  have room : 2 ^ (v.log2 + 1) ≤ 2 ^ (4 * (v.log2 / 4 + 1)) :=
    Nat.pow_le_pow_right (by decide) (by omega)
  rw [Nat.pow_mul] at room
  exact Nat.lt_of_lt_of_le bits room

theorem valueOf_hexShort (v : Nat) : valueOf 16 0 (lower (hexShort v)) = v := by
  rw [hexShort, valueOf_lower_hexFixed, Nat.zero_mul, Nat.zero_add, Nat.mod_eq_of_lt (lt_hexShort v)]

theorem readUnsigned_hexFixed {width limit v : Nat} (positive : 0 < width) (small : v < 16 ^ width)
    (fits : v ≤ limit) : readUnsigned 16 limit (hexFixed width v) = .ok v := by
  have some_digit : hexFixed width v ≠ [] := by
    rw [← List.length_pos_iff, length_hexFixed]
    exact positive
  have value : valueOf 16 0 (hexFixed width v) = v := by
    rw [valueOf_hexFixed, Nat.zero_mul, Nat.zero_add, Nat.mod_eq_of_lt small]
  rw [readUnsigned_numeral (by decide) (isNumeral_hexFixed width v) some_digit (by rwa [value]), value]

theorem readUnsigned_hexShort {limit v : Nat} (fits : v ≤ limit) :
    readUnsigned 16 limit (hexShort v) = .ok v :=
  readUnsigned_hexFixed (Nat.succ_pos _) (lt_hexShort v) fits

theorem isNumeral_hexShort (v : Nat) : IsNumeral 16 (lower (hexShort v)) :=
  isNumeral_lower_hexFixed _ v

theorem length_hexShort_pos (v : Nat) : 0 < (lower (hexShort v)).length := by
  simp [lower, hexShort]

theorem length_hexShort_le {v width : Nat} (positive : 0 < width) (small : v < 16 ^ width) :
    (lower (hexShort v)).length ≤ width := by
  have bits : v = 0 ∨ v.log2 < 4 * width := by
    by_cases zero : v = 0
    · exact Or.inl zero
    · right
      rw [Nat.log2_lt zero, Nat.pow_mul]
      exact small
  simp only [lower, hexShort, List.length_map, length_hexFixed]
  rcases bits with rfl | bits
  · have none : Nat.log2 0 = 0 := by decide
    omega
  · omega

/-! Decimal digits. -/

theorem digitOf_of_isDigit {c : Char} (digit : c.isDigit = true) :
    digitOf 10 c = some (c.toNat - 48) := by
  have within : '0' ≤ c ∧ c ≤ '9' := by
    simp only [Char.isDigit, Bool.and_eq_true, decide_eq_true_eq] at digit
    exact digit
  have last : c.toNat ≤ 57 := within.2
  have small : c.toNat - 48 < 10 := by omega
  simp only [digitOf, digitValue, within, and_self, ↓reduceIte, Option.filter_some, small, decide_true]

theorem isDigit_decimal {v : Nat} {c : Char} (member : c ∈ decimal v) : c.isDigit = true :=
  Nat.isDigit_of_mem_toDigits (by decide) (by decide) member

theorem isNumeral_decimal (v : Nat) : IsNumeral 10 (decimal v) := by
  intro c member
  rw [digitOf_of_isDigit (isDigit_decimal member)]
  rfl

theorem valueOf_decimal (v : Nat) : valueOf 10 0 (decimal v) = v := by
  have fold (s : List Char) (digits : ∀ c ∈ s, c.isDigit = true) (u : Nat) :
      valueOf 10 u s = Nat.ofDigitChars 10 s u := by
    induction s generalizing u with
    | nil => rfl
    | cons c s ih =>
      have digit := digitOf_of_isDigit (digits c List.mem_cons_self)
      rw [valueOf_cons, digit, Option.getD_some, Nat.ofDigitChars_cons,
        ih fun d member => digits d (List.mem_cons_of_mem c member), Nat.mul_comm]
      rfl
  rw [fold _ fun c member => isDigit_decimal member]
  exact Nat.ofDigitChars_ten_toDigits

theorem decimal_ne_nil (v : Nat) : decimal v ≠ [] := Nat.toDigits_ne_nil

theorem length_decimal_le {v width : Nat} (positive : 0 < width) (small : v < 10 ^ width) :
    (decimal v).length ≤ width :=
  (Nat.length_toDigits_le_iff (by decide) positive).mpr small

theorem decimal_head (v : Nat) :
    ∃ c s, decimal v = c :: s ∧ (digitOf 10 c).isSome ∧ IsNumeral 10 s := by
  have digits := isNumeral_decimal v
  cases shape : decimal v with
  | nil => exact absurd shape (decimal_ne_nil v)
  | cons c s =>
    rw [shape, isNumeral_cons] at digits
    exact ⟨c, s, rfl, digits⟩

theorem decimal_zero {v : Nat} {s : List Char} (zero : decimal v = '0' :: s) : v = 0 ∧ s = [] := by
  have digits := isNumeral_decimal v
  have value := valueOf_decimal v
  have digit : digitOf 10 '0' = some 0 := rfl
  rw [zero, isNumeral_cons] at digits
  rw [zero, valueOf_cons, digit, Option.getD_some] at value
  have bound := valueOf_lt digits.2 0
  rw [value, Nat.zero_add, Nat.one_mul] at bound
  match s with
  | [] => exact ⟨value.symm, rfl⟩
  | c :: s =>
    have short := length_decimal_le (Nat.succ_pos s.length) bound
    rw [zero, List.length_cons, List.length_cons] at short
    omega

def sign (v : Int) : List Char := if v < 0 then ['-'] else []

theorem toList_toString_int (v : Int) : (toString v).toList = sign v ++ decimal v.natAbs := by
  match v with
  | .ofNat n =>
    have positive : ¬ Int.ofNat n < 0 := by simp
    rw [sign, if_neg positive]
    exact Nat.toList_repr
  | .negSucc n => simp [sign, toString, Int.repr, decimal, Int.negSucc_lt_zero]

end IdentityDirectory.Text
