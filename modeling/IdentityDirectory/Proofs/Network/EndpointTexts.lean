import Mathlib.Data.List.TakeDrop
import IdentityDirectory.Network.Endpoint
import IdentityDirectory.Proofs.Text.Digits
import IdentityDirectory.Proofs.Wire.Slices
/-!
Socket addresses are read back from their texts, all but the flow label, which is not written. A reader of
digits stops at what is no digit; so each part of a text is read whole, and the colons, dots and brackets
between the parts tell which kind of part comes next.
-/
namespace IdentityDirectory.Endpoint
open Text

def Stops (radix : Nat) (s : List Char) : Prop := ∀ c ∈ s.head?, digitOf radix c = none

theorem stops_nil (radix : Nat) : Stops radix [] := by
  intro c member
  contradiction

theorem stops_cons {radix : Nat} {c : Char} (foreign : digitOf radix c = none) (s : List Char) :
    Stops radix (c :: s) := by
  intro d same
  obtain rfl := Option.some.inj same
  exact foreign

theorem span_numeral {radix : Nat} {digits rest : List Char} (numeral : IsNumeral radix digits)
    (stops : Stops radix rest) : span radix (digits ++ rest) = (digits, rest) := by
  have boundary : ∀ c ∈ rest.head?, (digitOf radix c).isSome = false := by
    intro c first
    rw [stops c first]
    rfl
  exact span_of_boundary numeral boundary

theorem number_numeral {radix count limit : Nat} {digits rest : List Char} (positive : 0 < radix)
    (numeral : IsNumeral radix digits) (some_digit : digits ≠ []) (short : digits.length ≤ count)
    (fits : valueOf radix 0 digits ≤ limit) (stops : Stops radix rest) :
    number radix count limit (digits ++ rest) = some (valueOf radix 0 digits, rest) := by
  have long : 0 < digits.length := List.length_pos_iff.mpr some_digit
  have room : ¬ (digits.length = 0 ∨ count < digits.length) := by omega
  simp only [number, span_numeral numeral stops, if_neg room,
    readUnsigned_numeral positive numeral some_digit fits]

theorem number_of_stops {radix : Nat} {s : List Char} (stops : Stops radix s) (count limit : Nat) :
    number radix count limit s = none := by
  have none : span radix ([] ++ s) = ([], s) := span_numeral (List.forall_mem_nil _) stops
  rw [List.nil_append] at none
  simp only [number, none, List.length_nil, true_or, ↓reduceIte]

theorem number_decimal {count limit v : Nat} {rest : List Char} (short : (decimal v).length ≤ count)
    (fits : v ≤ limit) (stops : Stops 10 rest) :
    number 10 count limit (decimal v ++ rest) = some (v, rest) := by
  have value : valueOf 10 0 (decimal v) ≤ limit := by rwa [valueOf_decimal]
  have read := number_numeral (by decide) (isNumeral_decimal v) (decimal_ne_nil v) short value stops
  rwa [valueOf_decimal] at read

theorem field_decimal {limit v : Nat} {rest : List Char} (fits : v ≤ limit) (stops : Stops 10 rest) :
    field limit (decimal v ++ rest) = some (v, rest) :=
  number_decimal (by simp) fits stops

/-! Dotted form. -/

theorem octet_decimal {v : Nat} {rest : List Char} (byte : v < 256) (stops : Stops 10 rest) :
    octet (decimal v ++ rest) = some (v, rest) := by
  have short : (decimal v).length ≤ 3 := length_decimal_le (by decide) (by omega)
  have read : number 10 3 255 (decimal v ++ rest) = some (v, rest) :=
    number_decimal short (by omega) stops
  by_cases zero : v = 0
  · subst zero
    have shape : decimal 0 ++ rest = '0' :: rest := rfl
    rw [shape] at read ⊢
    cases rest with
    | nil => exact read
    | cons c rest =>
      have foreign : digitOf 10 c = none := stops c rfl
      simp only [octet, foreign, Option.isSome_none, Bool.false_eq_true, ↓reduceIte]
      exact read
  · obtain ⟨c, s, shape, -⟩ := decimal_head v
    have other : c ≠ '0' := by
      rintro rfl
      exact zero (decimal_zero shape).1
    rw [shape, List.cons_append] at read ⊢
    unfold octet
    split
    · rename_i same
      exact absurd (List.cons.inj same).1 other
    · exact read

theorem expect_self (c : Char) (s : List Char) : expect c (c :: s) = some s := by
  rw [expect, if_pos rfl]

theorem quad_dotted {b : Bytes} (size : b.length = 4) {rest : List Char} (stops : Stops 10 rest) :
    quad (dotted b ++ rest) = some (b.map UInt8.toNat, rest) := by
  match b, size with
  | [w, x, y, z], _ =>
    have shape : dotted [w, x, y, z] ++ rest = decimal w.toNat ++ '.' :: (decimal x.toNat ++
        '.' :: (decimal y.toNat ++ '.' :: (decimal z.toNat ++ rest))) := by
      simp [dotted, join]
    have dot (s : List Char) : Stops 10 ('.' :: s) := stops_cons rfl s
    simp only [shape, quad, octet_decimal w.toNat_lt (dot _), octet_decimal x.toNat_lt (dot _),
      octet_decimal y.toNat_lt (dot _), octet_decimal z.toNat_lt stops, expect_self, bind,
      Option.bind, pure, List.map_cons, List.map_nil]

theorem readPort_decimal (port : UInt16) : readPort (':' :: decimal port.toNat) = some port := by
  have bound : port.toNat ≤ 65535 := Nat.le_of_lt_succ port.toNat_lt
  have read := field_decimal bound (stops_nil 10)
  rw [List.append_nil] at read
  simp only [readPort, expect_self, read, bind, Option.bind, List.isEmpty_nil, ↓reduceIte,
    UInt16.ofNat_toNat]

theorem map_ofNat_toNat (b : Bytes) : (b.map UInt8.toNat).map UInt8.ofNat = b := by
  rw [List.map_map]
  exact (List.map_congr_left fun x _ => UInt8.ofNat_toNat).trans (List.map_id b)

theorem readV4_text (ip : Octets 4) (port : UInt16) :
    readV4 (dotted ip.bytes ++ ':' :: decimal port.toNat) = some (v4 ip port) := by
  have colon : Stops 10 (':' :: decimal port.toNat) := stops_cons rfl _
  have read := quad_dotted ip.length_eq colon
  simp only [readV4, read, readPort_decimal, bind, Option.bind, pure, map_ofNat_toNat,
    Octets.ofBytes_bytes]

/-! Groups. -/

theorem ofGroups_groups {b : Bytes} {count : Nat} (even : b.length = 2 * count) :
    ofGroups (groups b) = b := by
  induction count generalizing b with
  | zero => rw [List.length_eq_zero_iff.mp even]; rfl
  | succ count ih =>
    match b, even with
    | x :: y :: b, even =>
      have rest : ofGroups (groups b) = b := ih (by simp only [List.length_cons] at even; omega)
      have both : Bytes.bigEndian 2 (256 * x.toNat + y.toNat) = [x, y] := by
        have word := Bytes.bigEndian_toNat [x, y]
        simpa [Bytes.toNat] using word
      rw [groups, ofGroups, List.flatMap_cons, both]
      exact congrArg ([x, y] ++ ·) rest

theorem length_groups {b : Bytes} {count : Nat} (even : b.length = 2 * count) :
    (groups b).length = count := by
  induction count generalizing b with
  | zero => rw [List.length_eq_zero_iff.mp even]; rfl
  | succ count ih =>
    match b, even with
    | x :: y :: b, even =>
      rw [groups, List.length_cons, ih (by simp only [List.length_cons] at even; omega)]

theorem groups_lt {b : Bytes} {g : Nat} (member : g ∈ groups b) : g < 65536 := by
  induction b using groups.induct with
  | case1 x y b ih =>
    rcases List.mem_cons.mp member with rfl | behind
    · have high := x.toNat_lt
      have low := y.toNat_lt
      omega
    · exact ih behind
  | case2 b short =>
    unfold groups at member
    split at member <;> simp_all

theorem drop_groups (count : Nat) (b : Bytes) : groups (b.drop (2 * count)) = (groups b).drop count := by
  induction count generalizing b with
  | zero => rfl
  | succ count ih =>
    match b with
    | x :: y :: b =>
      have behind : (x :: y :: b).drop (2 * (count + 1)) = b.drop (2 * count) := by
        rw [Nat.mul_succ]
        rfl
      rw [behind, groups, List.drop_succ_cons, ih b]
    | [] => simp [groups]
    | [x] =>
      have nothing : [x].drop (2 * (count + 1)) = [] := List.drop_eq_nil_of_le (by simp; omega)
      rw [nothing]
      simp [groups]

/-! A group is read whole in front of what is neither a digit nor a dot. -/

/-- What may stand behind a group: neither a digit nor a dot. -/
def Breaks (s : List Char) : Prop := ∀ c ∈ s.head?, digitOf 16 c = none ∧ c ≠ '.'

theorem breaks_cons {c : Char} (foreign : digitOf 16 c = none) (plain : c ≠ '.') (s : List Char) :
    Breaks (c :: s) := by
  intro d same
  obtain rfl := Option.some.inj same
  exact ⟨foreign, plain⟩

theorem digitOf_ten_of_sixteen {c : Char} (foreign : digitOf 16 c = none) : digitOf 10 c = none := by
  cases digit : digitOf 10 c with
  | none => rfl
  | some v =>
    have small := digit_lt digit
    obtain ⟨value, -⟩ := Option.filter_eq_some_iff.mp digit
    rw [digitOf, value, Option.filter_some, if_pos (decide_eq_true (by omega))] at foreign
    contradiction

theorem Breaks.stops {s : List Char} (breaks : Breaks s) : Stops 16 s ∧ Stops 10 s :=
  ⟨fun c first => (breaks c first).1, fun c first => digitOf_ten_of_sixteen (breaks c first).1⟩

theorem rest_of_octet {s rest : List Char} {v : Nat} (read : octet s = some (v, rest)) :
    rest = s.dropWhile fun c => (digitOf 10 c).isSome := by
  have number_rest (h : number 10 3 255 s = some (v, rest)) :
      rest = s.dropWhile fun c => (digitOf 10 c).isSome := by
    simp only [number, span, List.span_eq_takeWhile_dropWhile] at h
    split at h
    · contradiction
    · split at h
      · exact (Prod.mk.inj (Option.some.inj h)).2.symm
      · contradiction
  unfold octet at read
  split at read
  · split at read
    · contradiction
    · exact number_rest read
  · exact number_rest read

theorem quad_numeral {digits rest : List Char} (numeral : IsNumeral 16 digits)
    (breaks : Breaks rest) : quad (digits ++ rest) = none := by
  have behind : ∀ c ∈ ((digits ++ rest).dropWhile fun c => (digitOf 10 c).isSome).head?, c ≠ '.' := by
    intro c first
    have kept : rest.dropWhile (fun c => (digitOf 10 c).isSome) = rest := by
      cases rest with
      | nil => rfl
      | cons d rest => simp [breaks.stops.2 d rfl]
    rw [List.dropWhile_append, kept] at first
    split at first
    · exact (breaks c first).2
    · rename_i some_left
      cases left : digits.dropWhile fun c => (digitOf 10 c).isSome with
      | nil => simp [left] at some_left
      | cons d left' =>
        rw [left] at first
        obtain rfl := Option.some.inj first
        have member : d ∈ digits := (List.dropWhile_suffix _).mem (left ▸ List.mem_cons_self)
        exact digit_ne (numeral d member) (x := '.') rfl
  cases read : octet (digits ++ rest) with
  | none => simp only [quad, read, bind, Option.bind]
  | some out =>
    obtain ⟨v, left⟩ := out
    have no_dot : expect '.' left = none := by
      rw [rest_of_octet read]
      cases shape : (digits ++ rest).dropWhile fun c => (digitOf 10 c).isSome with
      | nil => rfl
      | cons c left =>
        rw [shape] at behind
        rw [expect, if_neg (behind c rfl)]
    simp only [quad, read, no_dot, bind, Option.bind]

theorem quad_of_breaks {s : List Char} (breaks : Breaks s) : quad s = none := by
  have none : quad ([] ++ s) = none := quad_numeral (List.forall_mem_nil _) breaks
  rwa [List.nil_append] at none

def hex (g : Nat) : List Char := lower (hexShort g)

theorem number_hex {g : Nat} (word : g < 65536) {rest : List Char} (breaks : Breaks rest) :
    number 16 4 65535 (hex g ++ rest) = some (g, rest) := by
  have some_digit : hex g ≠ [] := List.length_pos_iff.mp (length_hexShort_pos g)
  have short : (hex g).length ≤ 4 := length_hexShort_le (by decide) word
  have value : valueOf 16 0 (hex g) = g := valueOf_hexShort g
  have fits : valueOf 16 0 (hex g) ≤ 65535 := by omega
  have numeral : IsNumeral 16 (hex g) := isNumeral_hexShort g
  have read := number_numeral (by decide) numeral some_digit short fits breaks.stops.1
  rwa [value] at read

/-- The reader of groups takes nothing. -/
def Halts (isFirst : Bool) (s : List Char) : Prop :=
  ∀ count, readGroups count isFirst s = ([], false, s)

theorem halts_first {s : List Char} (breaks : Breaks s) : Halts true s := by
  intro count
  have no_quad := quad_of_breaks breaks
  have no_number := number_of_stops breaks.stops.1 4 65535
  cases count with
  | zero => rfl
  | succ count => simp [readGroups, no_quad, no_number]

theorem halts_next {s : List Char} (plain : s.head? ≠ some ':') : Halts false s := by
  intro count
  have no_start : expect ':' s = none := by
    cases s with
    | nil => rfl
    | cons c s =>
      have other : c ≠ ':' := by
        rintro rfl
        exact plain rfl
      rw [expect, if_neg other]
  cases count with
  | zero => rfl
  | succ count => simp [readGroups, no_start]

theorem halts_double (s : List Char) : Halts false (':' :: ':' :: s) := by
  intro count
  have breaks : Breaks (':' :: s) := breaks_cons rfl (by decide) s
  have no_quad := quad_of_breaks breaks
  have no_number := number_of_stops breaks.stops.1 4 65535
  cases count with
  | zero => rfl
  | succ count => simp [readGroups, expect_self, no_quad, no_number]

theorem readGroups_hex {g : Nat} (word : g < 65536) (count : Nat) {isFirst : Bool}
    {s rest : List Char} (start : (if isFirst then some s else expect ':' s) = some (hex g ++ rest))
    (breaks : Breaks rest) :
    readGroups (count + 1) isFirst s =
      (g :: (readGroups count false rest).1, (readGroups count false rest).2) := by
  have no_quad : quad (hex g ++ rest) = none := quad_numeral (isNumeral_hexShort g) breaks
  have read := number_hex word breaks
  rw [readGroups]
  simp only [start, Option.bind_some, no_quad, ite_self, read]

def colonGroups (gs : List Nat) : List Char := gs.flatMap fun g => ':' :: hex g

theorem colons_cons (g : Nat) (gs : List Nat) : colons (g :: gs) = hex g ++ colonGroups gs := by
  induction gs generalizing g with
  | nil => simp [colons, join, hex, colonGroups]
  | cons h gs ih =>
    have rest := ih h
    simp only [colons, List.map_cons] at rest ⊢
    rw [join, rest]
    · simp [hex, colonGroups]
    · exact List.cons_ne_nil _ _

theorem breaks_colonGroups (gs : List Nat) {rest : List Char} (breaks : Breaks rest) :
    Breaks (colonGroups gs ++ rest) := by
  cases gs with
  | nil => exact breaks
  | cons g gs => exact breaks_cons rfl (by decide) _

theorem readGroups_colonGroups {gs : List Nat} (words : ∀ g ∈ gs, g < 65536) {count : Nat}
    (room : gs.length ≤ count) {rest : List Char} (breaks : Breaks rest) (halts : Halts false rest) :
    readGroups count false (colonGroups gs ++ rest) = (gs, false, rest) := by
  induction gs generalizing count with
  | nil => exact halts count
  | cons g gs ih =>
    obtain ⟨count, rfl⟩ := Nat.exists_eq_succ_of_ne_zero (Nat.ne_zero_of_lt room)
    have shape : colonGroups (g :: gs) ++ rest = ':' :: (hex g ++ (colonGroups gs ++ rest)) := by
      simp [colonGroups]
    have fewer : gs.length ≤ count := Nat.le_of_succ_le_succ room
    have tail := ih (fun h member => words h (List.mem_cons_of_mem g member)) fewer
    have start : (if false = true then some (colonGroups (g :: gs) ++ rest)
        else expect ':' (colonGroups (g :: gs) ++ rest)) =
          some (hex g ++ (colonGroups gs ++ rest)) := by
      rw [shape, if_neg Bool.false_ne_true, expect_self]
    rw [readGroups_hex (words g List.mem_cons_self) count start (breaks_colonGroups gs breaks), tail]

theorem readGroups_colons {gs : List Nat} (words : ∀ g ∈ gs, g < 65536) {count : Nat}
    (room : gs.length ≤ count) {rest : List Char} (breaks : Breaks rest)
    (halts : Halts false rest) :
    readGroups count true (colons gs ++ rest) = (gs, false, rest) := by
  cases gs with
  | nil => exact halts_first breaks count
  | cons g gs =>
    obtain ⟨count, rfl⟩ := Nat.exists_eq_succ_of_ne_zero (Nat.ne_zero_of_lt room)
    have fewer : gs.length ≤ count := Nat.le_of_succ_le_succ room
    have tail := readGroups_colonGroups (fun h member => words h (List.mem_cons_of_mem g member)) fewer
      breaks halts
    rw [colons_cons, List.append_assoc, readGroups_hex (words g List.mem_cons_self) count rfl
      (breaks_colonGroups gs breaks), tail]

/-! The double colon. -/

theorem longestRun_spec (i : Nat) (gs : List Nat) (long : 0 < (longestRun i gs).2) :
    ∃ before after, gs = before ++ List.replicate (longestRun i gs).2 0 ++ after ∧
      (longestRun i gs).1 = i + before.length := by
  induction gs generalizing i with
  | nil => contradiction
  | cons g gs ih =>
    by_cases here : (longestRun (i + 1) gs).2 ≤ zeroRun (g :: gs)
    · have zeros : (g :: gs).takeWhile (· = 0) = List.replicate (zeroRun (g :: gs)) 0 := by
        refine List.eq_replicate_iff.mpr ⟨rfl, ?_⟩
        intro z member
        have zero := List.mem_takeWhile_imp member
        exact of_decide_eq_true zero
      have whole := List.takeWhile_append_dropWhile (p := (· = 0)) (l := g :: gs)
      rw [zeros] at whole
      refine ⟨[], (g :: gs).dropWhile (· = 0), ?_, ?_⟩
      · simp only [longestRun, here, ↓reduceIte, List.nil_append]
        exact whole.symm
      · simp only [longestRun, here, ↓reduceIte, List.length_nil, Nat.add_zero]
    · have later : longestRun i (g :: gs) = longestRun (i + 1) gs := by
        simp only [longestRun, here, ↓reduceIte]
      rw [later] at long ⊢
      obtain ⟨before, after, shape, place⟩ := ih (i + 1) long
      refine ⟨g :: before, after, congrArg (g :: ·) shape, ?_⟩
      rw [place, List.length_cons]
      omega

theorem readGroups_dotted {d : Bytes} (size : d.length = 4) {rest : List Char} (stops : Stops 10 rest)
    (count : Nat) :
    readGroups (count + 2) false (':' :: (dotted d ++ rest)) = (groups d, true, rest) := by
  have read := quad_dotted size stops
  rw [readGroups]
  simp only [Nat.add_eq_zero_iff, Nat.reduceEqDiff, and_false, Bool.false_eq_true, ↓reduceIte,
    expect_self, Option.bind_some, read, map_ofNat_toNat]

theorem readIpv6_mapped {b : Bytes} (size : b.length = 16) {rest : List Char} (stops : Stops 10 rest)
    (mapped : (groups b).take 6 = [0, 0, 0, 0, 0, 65535]) :
    readIpv6 ("::ffff:".toList ++ dotted (b.drop 12) ++ rest) = some (b, rest) := by
  have four : (b.drop 12).length = 4 := by rw [List.length_drop, size]
  have text : "::ffff:".toList ++ dotted (b.drop 12) ++ rest =
      ':' :: ':' :: (hex 65535 ++ ':' :: (dotted (b.drop 12) ++ rest)) := by
    have lead : "::ffff:".toList = ':' :: ':' :: (hex 65535 ++ [':']) := by decide
    rw [lead]
    simp
  have breaks (s : List Char) : Breaks (':' :: s) := breaks_cons rfl (by decide) s
  have head := halts_first (breaks (':' :: (hex 65535 ++ ':' :: (dotted (b.drop 12) ++ rest)))) 8
  have start : (if true = true then some (hex 65535 ++ ':' :: (dotted (b.drop 12) ++ rest))
      else expect ':' (hex 65535 ++ ':' :: (dotted (b.drop 12) ++ rest))) =
        some (hex 65535 ++ ':' :: (dotted (b.drop 12) ++ rest)) := if_pos rfl
  have tail := readGroups_hex (by decide) 6 start (breaks (dotted (b.drop 12) ++ rest))
  rw [readGroups_dotted four stops 4] at tail
  have two : (groups (b.drop 12)).length = 2 := length_groups four
  have whole : [0, 0, 0, 0, 0, 65535] ++ groups (b.drop 12) = groups b := by
    rw [← mapped, drop_groups 6, List.take_append_drop]
  have sixteen : b.length = 2 * 8 := size
  have back := ofGroups_groups sixteen
  have zeros : [] ++ List.replicate (8 - 0 - (2 + 1)) 0 ++ 65535 :: groups (b.drop 12) = groups b :=
    whole
  have few : ¬ 0 = 8 := by decide
  rw [text]
  simp only [readIpv6, head, tail, List.length_nil, List.length_cons, two, zeros, back, if_neg few,
    Bool.false_eq_true, ↓reduceIte]

/-- The eight groups of an address in its short form are read back, whether they are written out, end in
dotted form, or stand around a double colon. -/
theorem readIpv6_text {b : Bytes} (size : b.length = 16) {rest : List Char} (breaks : Breaks rest)
    (plain : rest.head? ≠ some ':') : readIpv6 (ipv6 b ++ rest) = some (b, rest) := by
  have words : ∀ g ∈ groups b, g < 65536 := fun g member => groups_lt member
  have eight : (groups b).length = 8 := length_groups size
  have sixteen : b.length = 2 * 8 := size
  have back := ofGroups_groups sixteen
  have halts := halts_next plain
  unfold ipv6
  simp only
  split
  · rename_i mapped
    exact readIpv6_mapped size breaks.stops.2 mapped
  · split
    · rename_i short
      have read := readGroups_colons words (Nat.le_of_eq eight) breaks halts
      simp only [readIpv6, read, eight, back, ↓reduceIte]
    · rename_i long
      obtain ⟨before, after, shape, place⟩ := longestRun_spec 0 (groups b) (by omega)
      generalize (longestRun 0 (groups b)).2 = zeros at long shape place ⊢
      rw [Nat.zero_add] at place
      rw [place]
      have front : (groups b).take before.length = before := by
        rw [shape, List.append_assoc, List.take_left]
      have behind : (groups b).drop (before.length + zeros) = after := by
        rw [shape]
        exact List.drop_left' (by simp)
      have total : before.length + zeros + after.length = 8 := by
        rw [← eight, shape, List.length_append, List.length_append, List.length_replicate]
      have beforeWords : ∀ g ∈ before, g < 65536 := fun g member =>
        words g (by simp [shape, member])
      have afterWords : ∀ g ∈ after, g < 65536 := fun g member => words g (by simp [shape, member])
      have room : before.length ≤ 8 := by omega
      have room' : after.length ≤ 7 - before.length := by omega
      have head := readGroups_colons beforeWords room
        (breaks_cons rfl (by decide) (':' :: (colons after ++ rest))) (halts_double _)
      have tail := readGroups_colons afterWords room' breaks halts
      have missing : 8 - before.length - after.length = zeros := by omega
      have few : ¬ before.length = 8 := by omega
      rw [front, behind, List.append_assoc, List.append_assoc, List.cons_append, List.cons_append,
        List.nil_append]
      simp only [readIpv6, head, tail, if_neg few, missing, Bool.false_eq_true, ↓reduceIte, ← shape,
        back]

theorem readScope_text (scope : UInt32) (rest : List Char) :
    readScope ((if scope = 0 then [] else '%' :: decimal scope.toNat) ++ ']' :: rest) =
      some (scope.toNat, ']' :: rest) := by
  by_cases zero : scope = 0
  · subst zero
    rfl
  · have bound : scope.toNat ≤ 0xFFFFFFFF := Nat.le_of_lt_succ scope.toNat_lt
    rw [if_neg zero, List.cons_append, readScope, field_decimal bound (stops_cons rfl rest)]

theorem readV6_text (ip : Octets 16) (port : UInt16) (scope : UInt32) :
    readV6 ('[' :: ipv6 ip.bytes ++ (if scope = 0 then [] else '%' :: decimal scope.toNat)
      ++ [']', ':'] ++ decimal port.toNat) = some (v6 ip port 0 scope) := by
  have text : '[' :: ipv6 ip.bytes ++ (if scope = 0 then [] else '%' :: decimal scope.toNat)
      ++ [']', ':'] ++ decimal port.toNat = '[' :: (ipv6 ip.bytes ++
        ((if scope = 0 then [] else '%' :: decimal scope.toNat) ++
          ']' :: (':' :: decimal port.toNat))) := by simp
  have head : Breaks ((if scope = 0 then [] else '%' :: decimal scope.toNat) ++
      ']' :: (':' :: decimal port.toNat)) ∧ ((if scope = 0 then [] else '%' :: decimal scope.toNat) ++
      ']' :: (':' :: decimal port.toNat)).head? ≠ some ':' := by
    split
    · exact ⟨breaks_cons rfl (by decide) _, by simp⟩
    · exact ⟨breaks_cons rfl (by decide) _, by simp⟩
  rw [text]
  simp only [readV6, expect_self, readIpv6_text ip.length_eq head.1 head.2, readScope_text,
    readPort_decimal, bind, Option.bind, pure, Octets.ofBytes_bytes, UInt32.ofNat_toNat]

theorem readV4_bracket (s : List Char) : readV4 ('[' :: s) = none := by
  have stops : Stops 10 ('[' :: s) := stops_cons rfl s
  have none : octet ('[' :: s) = none := number_of_stops stops 3 255
  simp only [readV4, quad, none, bind, Option.bind]

def unlabelled : Endpoint → Endpoint
  | v4 ip port => v4 ip port
  | v6 ip port _ scope => v6 ip port 0 scope

/-- What a text gives back: everything but the flow label. -/
theorem ofText?_toText (e : Endpoint) : ofText? e.toText = some e.unlabelled := by
  cases e with
  | v4 ip port =>
    rw [ofText?, toText, String.toList_ofList, readV4_text, Option.some_or]
    rfl
  | v6 ip port flow scope =>
    have first : '[' :: ipv6 ip.bytes ++ (if scope = 0 then [] else '%' :: decimal scope.toNat)
        ++ [']', ':'] ++ decimal port.toNat = '[' :: (ipv6 ip.bytes ++
          (if scope = 0 then [] else '%' :: decimal scope.toNat) ++ [']', ':'] ++
          decimal port.toNat) := by simp
    have other := readV4_bracket (ipv6 ip.bytes ++
      (if scope = 0 then [] else '%' :: decimal scope.toNat) ++ [']', ':'] ++ decimal port.toNat)
    rw [← first] at other
    simp only [ofText?, toText, String.toList_ofList, other, readV6_text, Option.none_or]
    rfl

end IdentityDirectory.Endpoint
