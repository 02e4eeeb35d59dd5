import IdentityDirectory.Proofs.Results
import IdentityDirectory.Proofs.Toml.Quoted
import IdentityDirectory.Toml.Reader
import IdentityDirectory.Toml.Writer
/-!
Scalars are read back at the end of a line. A whole number is taken for no other kind of value: nothing
but digits stands between its sign and the end of the line, so no date, time or fraction is found in it.
-/
namespace IdentityDirectory.Toml
open Text

/-! Digits up to the end of a line. -/

theorem natOf_eq_valueOf (radix : Nat) (ds : List Char) : natOf radix ds = valueOf radix 0 ds := by
  unfold natOf valueOf
  congr 1
  funext v c
  rw [Nat.mul_comm]

theorem moreDigits_numeral {radix : Nat} {ds : List Char} (digits : IsNumeral radix ds) (rest : List Char) :
    moreDigits radix (ds ++ '\n' :: rest) = some (ds, '\n' :: rest) := by
  induction ds with
  | nil =>
    have stop : digitOf radix '\n' = none := rfl
    simp [moreDigits, isDigit, stop]
  | cons c ds ih =>
    obtain ⟨first, others⟩ := isNumeral_cons.mp digits
    simp only [List.cons_append, moreDigits, isDigit, first, ih others, ↓reduceIte]
    rfl

theorem scanWhole_decimal (v : Nat) (rest : List Char) :
    scanWhole (decimal v ++ '\n' :: rest) = some (decimal v, '\n' :: rest) := by
  obtain ⟨c, ds, shape, digit, digits⟩ := decimal_head v
  rw [shape, List.cons_append]
  unfold scanWhole
  split
  · rename_i same
    obtain ⟨rfl, rfl⟩ := List.cons.inj same
    rw [(decimal_zero shape).2]
    rfl
  · simp only [someDigits, isDigit, digit, moreDigits_numeral digits, ↓reduceIte, Option.map_some]

/-! Whole numbers. -/

theorem scanSign_decimal (v : Int) (rest : List Char) :
    scanSign (sign v ++ decimal v.natAbs ++ '\n' :: rest) =
      (decide (v < 0), decimal v.natAbs ++ '\n' :: rest) := by
  obtain ⟨c, ds, shape, digit, -⟩ := decimal_head v.natAbs
  have notMinus : c ≠ '-' := digit_ne digit rfl
  have notPlus : c ≠ '+' := digit_ne digit rfl
  unfold sign
  split_ifs with negative
  · simp [scanSign, negative]
  · simp [scanSign, negative, shape, notMinus, notPlus]

theorem scanFractional_decimal (v : Int) (rest : List Char) :
    scanFractional (sign v ++ decimal v.natAbs ++ '\n' :: rest) = none := by
  have special : scanSpecial (decimal v.natAbs ++ '\n' :: rest) = none := by
    obtain ⟨c, ds, shape, digit, -⟩ := decimal_head v.natAbs
    have notInf : 'i' ≠ c := Ne.symm (digit_ne digit rfl)
    have notNan : 'n' ≠ c := Ne.symm (digit_ne digit rfl)
    simp [scanSpecial, behind, shape, notInf, notNan]
  -- the digits are there, but neither a fraction nor an exponent follows them
  simp only [scanFractional, scanSign_decimal, special, scanWhole_decimal, scanFraction, bind, Option.bind]
  rfl

theorem scanDecimal_decimal {v : Int} (inRange : isInRange v = true) (rest : List Char) :
    scanDecimal (sign v ++ decimal v.natAbs ++ '\n' :: rest) = some (v, '\n' :: rest) := by
  have value : (if decide (v < 0) = true then -(v.natAbs : Int) else (v.natAbs : Int)) = v := by
    by_cases negative : v < 0
    · rw [if_pos (decide_eq_true negative)]
      omega
    · rw [if_neg (by simpa using negative)]
      omega
  simp only [scanDecimal, scanSign_decimal, scanWhole_decimal, natOf_eq_valueOf, valueOf_decimal, bind,
    Option.bind, value, ranged, inRange, ↓reduceIte]

theorem scanInteger_decimal {v : Int} (inRange : isInRange v = true) (rest : List Char) :
    scanInteger (sign v ++ decimal v.natAbs ++ '\n' :: rest) = some (v, '\n' :: rest) := by
  have unmarked {mark : Char} (other : mark ≠ '\n') (t : List Char) :
      sign v ++ decimal v.natAbs ++ '\n' :: rest ≠ '0' :: mark :: t := by
    unfold sign
    split_ifs with negative
    · nofun
    · intro same
      obtain ⟨c, ds, shape, -⟩ := decimal_head v.natAbs
      rw [shape, List.nil_append, List.cons_append] at same
      obtain ⟨rfl, behind⟩ := List.cons.inj same
      rw [(decimal_zero shape).2] at behind
      exact other (List.cons.inj behind).1.symm
  rw [← scanDecimal_decimal inRange rest]
  unfold scanInteger
  split
  · rename_i same
    exact absurd same (unmarked (by decide) _)
  · rename_i same
    exact absurd same (unmarked (by decide) _)
  · rename_i same
    exact absurd same (unmarked (by decide) _)
  · rfl

/-! A date or a time has marks between its digits. -/

/-- No mark follows digits that were counted off in front of the end of a line. -/
theorem behind_of_scanCount {t rest s : List Char} {count low high n : Nat} {mark : Char}
    (positive : 0 < count) (absent : mark ∉ t.tail) (inline : '\n' ≠ mark)
    (read : scanCount count low high (t ++ '\n' :: rest) = some (n, s)) : behind [mark] s = none := by
  have short : count ≤ t.length := by
    by_contra long
    have there : '\n' ∈ (t ++ '\n' :: rest).take count := by
      rw [List.take_append, List.mem_append]
      obtain ⟨more, size⟩ : ∃ more, count - t.length = more + 1 := ⟨count - t.length - 1, by omega⟩
      rw [size, List.take_succ_cons]
      exact .inr List.mem_cons_self
    have none := mapM_eq_none_of_mem (g := digitOf 10) there rfl
    simp [scanCount, none] at read
  have shape : s = t.drop count ++ '\n' :: rest := by
    cases digits : ((t ++ '\n' :: rest).take count).mapM (digitOf 10) with
    | none => simp [scanCount, digits] at read
    | some values =>
      simp only [scanCount, digits, bind, Option.bind] at read
      rw [← List.drop_append_of_le_length short]
      exact (Prod.mk.inj (Option.some.inj (Option.ite_none_right_eq_some.mp read).2)).2.symm
  rw [shape]
  cases left : t.drop count with
  | nil => simp [behind, inline.symm]
  | cons c u =>
    have member : c ∈ t.tail := by
      obtain ⟨more, rfl⟩ : ∃ more, count = more + 1 := ⟨count - 1, by omega⟩
      rw [← List.drop_tail] at left
      exact List.mem_of_mem_drop (left ▸ List.mem_cons_self)
    have other : mark ≠ c := fun same => absent (same ▸ member)
    simp [behind, other]

theorem mark_free_tail (v : Int) (mark : Char) (foreign : digitOf 10 mark = none) :
    mark ∉ (sign v ++ decimal v.natAbs).tail := by
  have free : mark ∉ decimal v.natAbs :=
    fun member => digit_ne (isNumeral_decimal _ _ member) foreign rfl
  unfold sign
  split_ifs
  · exact free
  · exact fun member => free (List.mem_of_mem_tail member)

theorem scanMoment_decimal (v : Int) (rest : List Char) :
    scanMoment (sign v ++ decimal v.natAbs ++ '\n' :: rest) = none := by
  have date : scanDate (sign v ++ decimal v.natAbs ++ '\n' :: rest) = none := by
    cases read : scanCount 4 0 9999 (sign v ++ decimal v.natAbs ++ '\n' :: rest) with
    | none => simp only [scanDate, read, bind, Option.bind]
    | some r =>
      have stop := behind_of_scanCount (by decide) (mark_free_tail v '-' rfl) (by decide) read
      simp only [scanDate, read, stop, bind, Option.bind]
  have time : scanTime (sign v ++ decimal v.natAbs ++ '\n' :: rest) = none := by
    cases read : scanCount 2 0 23 (sign v ++ decimal v.natAbs ++ '\n' :: rest) with
    | none => simp only [scanTime, read, bind, Option.bind]
    | some r =>
      have stop := behind_of_scanCount (by decide) (mark_free_tail v ':' rfl) (by decide) read
      simp only [scanTime, read, stop, bind, Option.bind]
  rw [scanMoment, date, time]

/-! All scalars. -/

theorem int_head (v : Int) :
    ∃ c u, sign v ++ decimal v.natAbs = c :: u ∧ (c = '-' ∨ (digitOf 10 c).isSome) := by
  unfold sign
  split_ifs
  · exact ⟨_, _, rfl, .inl rfl⟩
  · obtain ⟨c, ds, shape, digit, -⟩ := decimal_head v.natAbs
    exact ⟨c, ds, shape, .inr digit⟩

theorem scanString_int (v : Int) (rest : List Char) :
    scanString (sign v ++ decimal v.natAbs ++ '\n' :: rest) = none := by
  obtain ⟨c, u, shape, first⟩ := int_head v
  have notDouble : c ≠ '\x22' := by
    rintro rfl
    rcases first <;> contradiction
  have notSingle : c ≠ '\x27' := by
    rintro rfl
    rcases first <;> contradiction
  rw [shape, List.cons_append]
  unfold scanString
  split <;> simp_all

theorem scanScalar_text? {v : Scalar} {t : List Char} (written : v.text? = some t) (rest : List Char) :
    scanScalar (t ++ '\n' :: rest) = some (.scalar v, '\n' :: rest) := by
  cases v with
  | string s =>
    obtain rfl := Option.some.inj written
    have whole : String.ofList s.toList = s := String.ofList_toList
    simp only [scanScalar, scanString_quote, whole]
  | integer v =>
    obtain ⟨inRange, text⟩ := Option.ite_none_right_eq_some.mp written
    rw [← Option.some.inj text, toList_toString_int]
    simp only [scanScalar, scanString_int, scanMoment_decimal, scanNumber, scanFractional_decimal,
      scanInteger_decimal inRange, Option.map_some, Option.some_or]
  | boolean b =>
    obtain rfl := Option.some.inj written
    cases b <;> rfl

def isMark (c : Char) : Bool := c ∈ [' ', '\t', '[', '\x7b']

theorem text?_head {v : Scalar} {t : List Char} (written : v.text? = some t) :
    ∃ c u, t = c :: u ∧ isMark c = false := by
  cases v with
  | string s =>
    obtain rfl := Option.some.inj written
    obtain ⟨u, double | single⟩ := quote_head s.toList
    · exact ⟨_, u, double, rfl⟩
    · exact ⟨_, u, single, rfl⟩
  | integer v =>
    obtain ⟨-, text⟩ := Option.ite_none_right_eq_some.mp written
    obtain ⟨c, u, shape, first⟩ := int_head v
    refine ⟨c, u, by rw [← Option.some.inj text, toList_toString_int, shape], ?_⟩
    rcases first with rfl | digit
    · rfl
    · simp only [isMark, List.mem_cons, List.not_mem_nil, or_false, decide_eq_false_iff_not]
      rintro (rfl | rfl | rfl | rfl) <;> contradiction
  | boolean b =>
    obtain rfl := Option.some.inj written
    cases b <;> exact ⟨_, _, rfl, rfl⟩

theorem return_free_text? {v : Scalar} {t : List Char} (written : v.text? = some t) : '\r' ∉ t := by
  cases v with
  | string s =>
    obtain rfl := Option.some.inj written
    exact return_free_quote s.toList
  | integer v =>
    obtain ⟨-, text⟩ := Option.ite_none_right_eq_some.mp written
    have digits : '\r' ∉ decimal v.natAbs := fun member => digit_ne (isNumeral_decimal _ _ member) rfl rfl
    have front : '\r' ∉ sign v := by
      unfold sign
      split_ifs <;> decide
    rw [← Option.some.inj text, toList_toString_int]
    simp [digits, front]
  | boolean b =>
    obtain rfl := Option.some.inj written
    cases b <;> decide

theorem readValue_text? {v : Scalar} {t : List Char} (written : v.text? = some t) (fuel depth : Nat)
    (rest : List Char) :
    readValue (fuel + 1) depth (t ++ '\n' :: rest) = some (.scalar v, '\n' :: rest) := by
  have read := scanScalar_text? written rest
  obtain ⟨c, u, rfl, unmarked⟩ := text?_head written
  have notArray : c ≠ '[' := by
    rintro rfl
    contradiction
  have notTable : c ≠ '\x7b' := by
    rintro rfl
    contradiction
  rw [List.cons_append] at read ⊢
  rw [← read, readValue.eq_def]
  split <;> simp_all

end IdentityDirectory.Toml
