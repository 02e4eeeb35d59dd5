import IdentityDirectory.Network.NetId
import IdentityDirectory.Proofs.Text.Digits
import IdentityDirectory.Proofs.Text.Pieces
import IdentityDirectory.Proofs.Text.Utf8
import IdentityDirectory.Proofs.Wire.Records
import IdentityDirectory.Record.Field
/-!
Fields in their text forms. Each field is read back from the text it is written as, a version if its parts
keep to their limits and a name as far as its bytes are text.
-/
namespace IdentityDirectory
open Text

namespace Octets

theorem ext {n : Nat} {a b : Octets n} (same : a.bytes = b.bytes) : a = b := by
  cases a
  cases b
  simpa using same

theorem bytes_ofBytes_short {n : Nat} {b : Bytes} (short : b.length ≤ n) :
    (ofBytes n b).bytes = b ++ List.replicate (n - b.length) 0 := by
  have all : n - (n - b.length) = b.length := by omega
  simp [ofBytes, List.take_append, List.take_of_length_le short, List.take_replicate]

end Octets

theorem HexField.width_pos (field : HexField) : 0 < field.width := by cases field <;> decide

theorem HexField.width_le (field : HexField) : field.width ≤ 16 := by cases field <;> decide

theorem HexField.body_numeral {s : List Char} (digits : IsNumeral 16 s) : body s = s := by
  have small := dropLead_numeral digits '0' (b := 'x') rfl
  have capital := dropLead_numeral digits '0' (b := 'X') rfl
  have dashless : s.filter (· ≠ '-') = s := by
    rw [List.filter_eq_self]
    intro c member
    exact decide_eq_true (digit_ne (digits c member) (x := '-') rfl)
  rw [body, trim_numeral digits, small, capital, dashless]

theorem HexField.read_numeral {field : HexField} {s : List Char} (digits : IsNumeral 16 s)
    (some_digit : s ≠ []) (short : s.length ≤ field.width) :
    field.read (String.ofList s) = .ok (valueOf 16 0 s) := by
  have size := utf8Size_numeral digits
  have long : 0 < s.length := List.length_pos_iff.mpr some_digit
  have fits : ¬ (s.length = 0 ∨ field.width < s.length) := by omega
  have value : valueOf 16 0 s ≤ 0xFFFFFFFFFFFFFFFF := by
    have bound := valueOf_lt digits 0
    have most := Nat.pow_le_pow_right (show 16 > 0 by decide) (Nat.le_trans short field.width_le)
    omega
  simp only [read, String.toList_ofList, body_numeral digits, size, if_neg fits,
    readUnsigned_numeral (by decide) digits some_digit value]

theorem HexField.read_written {α : Type} {field : HexField} {width v : Nat} {make : Nat → α}
    (fills : field.width = width) (small : v < 16 ^ width) :
    (field.read (String.ofList (hexFixed width v))).map make = .ok (make v) := by
  subst fills
  have some_digit : hexFixed field.width v ≠ [] := by
    rw [← List.length_pos_iff, length_hexFixed]
    exact field.width_pos
  have short : (hexFixed field.width v).length ≤ field.width := Nat.le_of_eq (length_hexFixed _ _)
  rw [read_numeral (isNumeral_hexFixed _ _) some_digit short, valueOf_hexFixed, Nat.zero_mul,
    Nat.zero_add, Nat.mod_eq_of_lt small, Except.map]

theorem DevAddr.ofText_toText (a : DevAddr) : ofText a.toText = .ok a := by
  have small : a.value.toNat < 16 ^ 8 := a.value.toNat_lt
  rw [ofText, toText, HexField.read_written (by decide) small, UInt32.ofNat_toNat]

theorem Eui.ofText_toText (e : Eui) : ofText e.toText = .ok e := by
  have small : e.value.toNat < 16 ^ 16 := e.value.toNat_lt
  rw [ofText, toText, HexField.read_written (by decide) small, UInt64.ofNat_toNat]

theorem DevNonce.ofText_toText (n : DevNonce) : ofText n.toText = .ok n := by
  have small : n.value.toNat < 16 ^ 4 := n.value.toNat_lt
  rw [ofText, toText, HexField.read_written (by decide) small, UInt16.ofNat_toNat]

theorem JoinNonce.ofText_toText (n : JoinNonce) : ofText n.toText = .ok n := by
  have small : n.value.val < 16 ^ 6 := n.value.isLt
  rw [ofText, toText, HexField.read_written (by decide) small]
  simp [ofNat, UInt24.ofNat]

theorem nibble_hexDigit {v : Nat} (small : v < 16) (position : Nat) :
    nibble (UInt8.ofNat (hexDigit v).toNat) position = .ok v := by
  have digit := digitOf_hexDigit v small
  have ascii : (hexDigit v).toNat < 256 := by
    have some_digit : (digitOf 16 (hexDigit v)).isSome := by
      rw [digit]
      rfl
    have small := ascii_of_digit some_digit
    omega
  rw [nibble, UInt8.toNat_ofNat_of_lt' ascii, Char.ofNat_toNat, digit]

theorem isNumeral_hexOfBytes (b : Bytes) : IsNumeral 16 (hexOfBytes b) := by
  intro c member
  obtain ⟨x, -, digit⟩ := List.mem_flatMap.mp member
  exact isNumeral_hexFixed 2 x.toNat c digit

theorem readPairs_hexOfBytes (b : Bytes) (position : Nat) :
    readPairs position ((hexOfBytes b).map fun c => UInt8.ofNat c.toNat) = .ok b := by
  induction b generalizing position with
  | nil => rfl
  | cons x b ih =>
    have high : x.toNat >>> (4 * 1) % 16 < 16 := Nat.mod_lt _ (by decide)
    have low : x.toNat >>> (4 * 0) % 16 < 16 := Nat.mod_lt _ (by decide)
    have both : 16 * (x.toNat >>> (4 * 1) % 16) + x.toNat >>> (4 * 0) % 16 = x.toNat := by
      have byte := x.toNat_lt
      rw [shiftRight_digits, shiftRight_digits]
      omega
    have shape : hexOfBytes (x :: b) = hexDigit (x.toNat >>> (4 * 1) % 16) ::
        hexDigit (x.toNat >>> (4 * 0) % 16) :: hexOfBytes b := rfl
    simp only [shape, List.map_cons, readPairs, nibble_hexDigit high, nibble_hexDigit low,
      ih (position + 2), bind, Except.bind, both, UInt8.ofNat_toNat]
    rfl

theorem length_hexOfBytes (b : Bytes) : (hexOfBytes b).length = 2 * b.length := by
  induction b with
  | nil => rfl
  | cons x b ih =>
    rw [hexOfBytes] at ih ⊢
    rw [List.flatMap_cons, List.length_append, ih, length_hexFixed, List.length_cons]
    omega

theorem bytesOfHex_hexOfBytes (b : Bytes) : bytesOfHex (hexOfBytes b) = .ok b := by
  have ascii : ∀ c ∈ hexOfBytes b, c.toNat < 128 := fun c member =>
    ascii_of_digit (isNumeral_hexOfBytes b c member)
  have even : ¬ (2 * b.length) % 2 = 1 := by omega
  simp only [bytesOfHex, utf8_of_ascii ascii, List.length_map, length_hexOfBytes, if_neg even,
    readPairs_hexOfBytes]

theorem Key.ofText_toText (k : Key) : ofText k.toText = .ok k := by
  have size : k.octets.bytes.length = 16 := k.octets.length_eq
  simp only [ofText, toText, String.toList_ofList, trim_numeral (isNumeral_hexOfBytes _),
    bytesOfHex_hexOfBytes, size, ↓reduceDIte]

theorem Activation.ofText_toText (a : Activation) : ofText a.toText = .ok a := by
  cases a <;> decide

theorem DeviceClass.ofText_toText (k : DeviceClass) : ofText k.toText = .ok k := by
  cases k <;> decide

namespace Version

/-- Whether the parts keep to what a written version may say. -/
def IsWritable (v : Version) : Prop := v.major ≤ 3 ∧ v.minor ≤ 3 ∧ v.release ≤ 15

instance (v : Version) : Decidable v.IsWritable := inferInstanceAs (Decidable (_ ∧ _))

theorem isWritable_make (major minor release : UInt8) : (make major minor release).IsWritable := by
  simp only [IsWritable, make, UInt8.le_iff_toNat_le, UInt8.toNat_mod, UInt8.reduceToNat]
  omega

theorem make_of_isWritable {v : Version} (writable : v.IsWritable) :
    make v.major v.minor v.release = v := by
  obtain ⟨major, minor, release⟩ := v
  simp only [IsWritable, UInt8.le_iff_toNat_le, UInt8.reduceToNat] at writable
  simp only [make, mk.injEq, ← UInt8.toNat_inj, UInt8.toNat_mod, UInt8.reduceToNat]
  omega

theorem readPart_decimal (limit : Nat) (part : UInt8) :
    readPart limit (decimal part.toNat) = if part.toNat ≤ limit then some part else none := by
  have byte : valueOf 10 0 (decimal part.toNat) ≤ 255 := by
    have := part.toNat_lt
    rw [valueOf_decimal]
    omega
  rw [readPart, readUnsigned_numeral (by decide) (isNumeral_decimal _) (decimal_ne_nil _) byte,
    valueOf_decimal]
  simp only [UInt8.ofNat_toNat]

theorem ofText_toText (v : Version) :
    ofText v.toText = if v.IsWritable then .ok v else .error (.version v.toText) := by
  have free : ∀ piece ∈ [decimal v.major.toNat, decimal v.minor.toNat, decimal v.release.toNat],
      '.' ∉ piece := by
    intro piece member dot
    simp only [List.mem_cons, List.not_mem_nil, or_false] at member
    rcases member with rfl | rfl | rfl <;> exact absurd (isNumeral_decimal _ _ dot) (by decide)
  have plain : trim (join ['.'] [decimal v.major.toNat, decimal v.minor.toNat,
      decimal v.release.toNat]) = join ['.'] [decimal v.major.toNat, decimal v.minor.toNat,
      decimal v.release.toNat] := by
    apply trim_of_unblank
    intro c member
    rcases mem_join member with rfl | ⟨piece, there, digit⟩
    · decide
    · simp only [List.mem_cons, List.not_mem_nil, or_false] at there
      rcases there with rfl | rfl | rfl <;> exact unblank_of_digit (isNumeral_decimal _ _ digit)
  have limits : v.IsWritable ↔
      v.major.toNat ≤ 3 ∧ v.minor.toNat ≤ 3 ∧ v.release.toNat ≤ 15 := Iff.rfl
  have parts : readParts [3, 3, 15] [decimal v.major.toNat, decimal v.minor.toNat,
      decimal v.release.toNat] =
      if v.IsWritable then some [v.major, v.minor, v.release] else none := by
    simp only [readParts, readPart_decimal, limits]
    by_cases major : v.major.toNat ≤ 3 <;> by_cases minor : v.minor.toNat ≤ 3 <;>
      by_cases release : v.release.toNat ≤ 15 <;> simp [major, minor, release]
  have text : v.toText.toList = join ['.'] [decimal v.major.toNat, decimal v.minor.toNat,
      decimal v.release.toNat] := String.toList_ofList
  rw [ofText, text, plain, splitOn_join (List.cons_ne_nil _ _) free, parts]
  by_cases writable : v.IsWritable
  · simp only [if_pos writable, make_of_isWritable writable]
  · simp only [if_neg writable]

end Version

namespace DeviceName

def readable (n : DeviceName) : DeviceName := ofText n.toText

/-- The bytes of the name are text without NUL, and NUL behind that. -/
def IsText (n : DeviceName) : Prop :=
  ∃ s : List Char, Char.ofNat 0 ∉ s ∧
    n.octets.bytes = utf8 s ++ List.replicate (8 - (utf8 s).length) 0

theorem readable_of_isText {n : DeviceName} (text : n.IsText) : n.readable = n := by
  obtain ⟨s, free, bytes⟩ := text
  have nonzero : ∀ x ∈ utf8 s, decide (x ≠ 0) = true := fun x member =>
    decide_eq_true fun zero => zero_not_mem_utf8 free (zero ▸ member)
  have front : n.octets.bytes.takeWhile (· ≠ 0) = utf8 s := by
    rw [bytes, List.takeWhile_append_of_pos nonzero, List.takeWhile_replicate]
    simp
  have short : (utf8 s).length ≤ 8 := by
    have size := n.octets.length_eq
    rw [bytes, List.length_append] at size
    omega
  have same : Octets.ofBytes 8 (utf8 s) = n.octets := by
    apply Octets.ext
    rw [Octets.bytes_ofBytes_short short, bytes]
  rw [readable, ofText, toText, String.toList_ofList, front, lossy_utf8, same]

/-- Names of which all eight bytes are broken text may come back by chance; names that travel end in NUL. -/
theorem isText_of_readable {n : DeviceName} (travels : n.wire = n) (same : n.readable = n) :
    n.IsText := by
  have clear : 0 ∉ n.octets.bytes.takeWhile (· ≠ 0) := by
    intro zero
    have kept := List.mem_takeWhile_imp zero
    contradiction
  have free := nul_not_mem_lossy clear
  have bytes : n.octets.bytes =
      (Octets.ofBytes 8 (utf8 (lossy (n.octets.bytes.takeWhile (· ≠ 0))))).bytes := by
    have whole := congrArg (fun m : DeviceName => m.octets.bytes) same
    rw [readable, ofText, toText, String.toList_ofList] at whole
    exact whole.symm
  generalize lossy (n.octets.bytes.takeWhile (· ≠ 0)) = s at free bytes
  refine ⟨s, free, ?_⟩
  by_cases short : (utf8 s).length ≤ 8
  · rw [bytes, Octets.bytes_ofBytes_short short]
  · have cut : (Octets.ofBytes 8 (utf8 s)).bytes = (utf8 s).take 8 :=
      List.take_append_of_le_length (by omega)
    have six : (n.octets.bytes.take 6).length = 6 := by simp
    have last : 0 ∈ n.octets.bytes := by
      rw [← travels, wire, Octets.bytes_ofBytes_short (by omega), six]
      exact List.mem_append_right _ (by decide)
    rw [bytes, cut] at last
    exact absurd (List.mem_of_mem_take last) (zero_not_mem_utf8 free)

end DeviceName
end IdentityDirectory
