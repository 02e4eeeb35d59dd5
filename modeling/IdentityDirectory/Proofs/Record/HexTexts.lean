import IdentityDirectory.Network.NetId
import IdentityDirectory.Proofs.Record.FieldTexts
import IdentityDirectory.Proofs.Results
/-!
The texts of hexadecimal fields. A field is read from the texts that stand for a number in as many bytes as the
field has digits, from no others, and as that number. A network is read from such a text as well, or from its
type and its identifier around a colon. What a field is written as is one of its texts.
-/
namespace IdentityDirectory
open Text Network

/-- What stays of a text: the blanks around it go first, then every 0x in front, then every 0X in front of
what is left, then the dashes wherever they are. -/
def HexField.IsBody (s body : List Char) : Prop :=
  ∃ core small rest, Trims s core ∧ Sheds '0' 'x' core small ∧ Sheds '0' 'X' small rest ∧
    body = rest.filter (· ≠ '-')

/-- A text that stands for a number: its body has one byte or more, no more than the width, and is digits with
at most one plus sign in front. -/
def HexText (width : Nat) (s : List Char) (v : Nat) : Prop :=
  ∃ body, HexField.IsBody s body ∧ 1 ≤ (utf8 body).length ∧ (utf8 body).length ≤ width ∧ Denotes 16 body v

theorem HexText.lt {width v : Nat} {s : List Char} (hex : HexText width s v) : v < 16 ^ width := by
  obtain ⟨body, -, -, short, denotes⟩ := hex
  rw [utf8_of_ascii denotes.ascii, List.length_map] at short
  exact Nat.lt_of_lt_of_le (denotes.lt (by decide)) (Nat.pow_le_pow_right (by decide) short)

namespace HexField

theorem body_eq_iff {s t : List Char} : body s = t ↔ IsBody s t := by
  constructor
  · rintro rfl
    exact ⟨_, _, _, trim_eq_iff.mp rfl, dropLead_eq_iff.mp rfl, dropLead_eq_iff.mp rfl, rfl⟩
  · rintro ⟨core, small, rest, core_of, small_of, rest_of, rfl⟩
    rw [body, trim_eq_iff.mpr core_of, dropLead_eq_iff.mpr small_of, dropLead_eq_iff.mpr rest_of]

theorem read_eq_ok_iff (field : HexField) {text : String} {v : Nat} :
    field.read text = .ok v ↔ HexText field.width text.toList v := by
  constructor
  · intro read
    simp only [HexField.read] at read
    split at read
    · contradiction
    · rename_i size
      rw [← length_utf8] at size
      split at read
      · rename_i number
        obtain rfl := Except.ok.inj read
        obtain ⟨denotes, -⟩ := (readUnsigned_eq_ok_iff (by decide)).mp number
        exact ⟨_, body_eq_iff.mp rfl, by omega, by omega, denotes⟩
      · contradiction
  · intro hex
    have bound := Nat.lt_of_lt_of_le hex.lt (Nat.pow_le_pow_right (by decide) field.width_le)
    obtain ⟨t, left, long, short, denotes⟩ := hex
    have size : ¬ (utf8Size t = 0 ∨ field.width < utf8Size t) := by
      rw [← length_utf8]
      omega
    have number := (readUnsigned_eq_ok_iff (by decide)).mpr ⟨denotes, Nat.le_of_lt_succ bound⟩
    simp only [HexField.read, body_eq_iff.mpr left, if_neg size, number]

theorem read_number_iff {α : Type} {field : HexField} {make : Nat → α} {number : α → Nat}
    (kept : ∀ v < 16 ^ field.width, number (make v) = v) (text : String) (v : Nat) :
    ((field.read text).map make).map number = .ok v ↔ HexText field.width text.toList v := by
  rw [← field.read_eq_ok_iff]
  cases read : field.read text with
  | error cause => exact ⟨nofun, nofun⟩
  | ok w =>
    have small := (field.read_eq_ok_iff.mp read).lt
    rw [Except.map, Except.map, kept w small]

end HexField

namespace NetId

theorem halves_of_free {s : List Char} (free : ':' ∉ s) : halves s = none := by
  have gone : s.dropWhile (· ≠ ':') = [] := by
    rw [List.dropWhile_eq_nil_iff]
    exact fun c member => decide_eq_true fun colon => free (colon ▸ member)
  simp only [halves, gone]

theorem halves_append {front : List Char} (free : ':' ∉ front) (behind : List Char) :
    halves (front ++ ':' :: behind) = some (front, behind) := by
  have inside : ∀ c ∈ front, decide (c ≠ ':') = true :=
    fun c member => decide_eq_true fun colon => free (colon ▸ member)
  have boundary : ∀ c ∈ (':' :: behind).head?, decide (c ≠ ':') = false := by
    rintro _ ⟨⟩
    decide
  simp only [halves, dropWhile_of_boundary inside boundary, takeWhile_of_boundary inside boundary]

theorem ofText_of_free {text : String} (free : ':' ∉ text.toList) :
    ofText text = (HexField.netId.read text).map ofNat := by
  rw [ofText, halves_of_free free]

theorem ofText_toText (n : NetId) : ofText n.toText = .ok n := by
  have free : ':' ∉ n.toText.toList := by
    rw [toText, String.toList_ofList]
    exact fun colon => absurd (isNumeral_hexFixed 6 n.value _ colon) (by decide)
  have small : n.value.val < 16 ^ 6 := n.value.isLt
  rw [ofText_of_free free, toText, HexField.read_written (by decide) small]
  simp [ofNat, UInt24.ofNat]

theorem ofText_append {front : String} (free : ':' ∉ front.toList) (behind : String) :
    ofText (front ++ ":" ++ behind) =
      HexField.netIdType.read front >>= fun kind => HexField.netId.read behind >>= make kind := by
  have whole : (front ++ ":" ++ behind).toList = front.toList ++ ':' :: behind.toList := by simp
  rw [ofText, whole, halves_append free]
  simp only [String.ofList_toList]

theorem identifier_width_le (kind : Nat) : (widths kind).identifier ≤ 21 := by
  unfold widths
  split <;> decide

theorem make_number_iff {kind id v : Nat} : (make kind id).map (·.value.val) = .ok v ↔
    kind ≤ 7 ∧ id < 2 ^ (widths kind).identifier ∧ v = kind * 2 ^ 21 + id := by
  have narrow : 2 ^ (widths kind).identifier ≤ 2 ^ 21 :=
    Nat.pow_le_pow_right (by decide) (identifier_width_le kind)
  unfold make
  rw [Nat.one_shiftLeft]
  split
  · rename_i large
    exact ⟨nofun, fun fits => absurd fits.1 (Nat.not_le_of_lt large)⟩
  · split
    · rename_i wide
      exact ⟨nofun, fun fits => absurd fits.2.1 (Nat.not_lt_of_le wide)⟩
    · rename_i known fits
      rw [Except.map, value_ofNat (by omega) (by omega), Except.ok.injEq]
      omega

theorem number_append_iff {front : String} (free : ':' ∉ front.toList) (behind : String) (v : Nat) :
    (ofText (front ++ ":" ++ behind)).map (·.value.val) = .ok v ↔
      ∃ kind id, HexText 1 front.toList kind ∧ HexText 6 behind.toList id ∧ kind ≤ 7 ∧
        id < 2 ^ (widths kind).identifier ∧ v = kind * 2 ^ 21 + id := by
  have type_iff (kind : Nat) : HexText 1 front.toList kind ↔ HexField.netIdType.read front = .ok kind :=
    HexField.netIdType.read_eq_ok_iff.symm
  have id_iff (id : Nat) : HexText 6 behind.toList id ↔ HexField.netId.read behind = .ok id :=
    HexField.netId.read_eq_ok_iff.symm
  simp only [type_iff, id_iff, ← make_number_iff, ofText_append free]
  cases HexField.netIdType.read front with
  | error cause => simp [bind, Except.bind, Except.map]
  | ok kind =>
    cases HexField.netId.read behind with
    | error cause => simp [bind, Except.bind, Except.map]
    | ok id => simp [bind, Except.bind]

end NetId

structure HasHexTexts {α : Type} (width : Nat) (number : α → Nat) (toText : α → String)
    (ofText : String → Except FieldError α) : Prop where
  read : ∀ text v, (ofText text).map number = .ok v ↔ HexText width text.toList v
  kept : ∀ a, ofText (toText a) = .ok a

/-- The texts of the hexadecimal fields. Addresses, identifiers of 64 bits and the two nonces are read from the
texts of their width. So is a network from a text without a colon; around the first colon it is read from the
texts of a type and of an identifier that fits the type. The number of a text keeps to its width, so it is the
whole of the value. Digits are those that are written, in either case. Networks and keys are read back too. -/
theorem hex_texts_follow_grammar :
    HasHexTexts 8 (fun a : DevAddr => a.value.toNat) DevAddr.toText DevAddr.ofText ∧
    HasHexTexts 16 (fun e : Eui => e.value.toNat) Eui.toText Eui.ofText ∧
    HasHexTexts 4 (fun n : DevNonce => n.value.toNat) DevNonce.toText DevNonce.ofText ∧
    HasHexTexts 6 (fun n : JoinNonce => n.value.val) JoinNonce.toText JoinNonce.ofText ∧
    (∀ (text : String) (v : Nat), ':' ∉ text.toList →
      ((NetId.ofText text).map (·.value.val) = .ok v ↔ HexText 6 text.toList v)) ∧
    (∀ (front behind : String) (v : Nat), ':' ∉ front.toList →
      ((NetId.ofText (front ++ ":" ++ behind)).map (·.value.val) = .ok v ↔
        ∃ kind id, HexText 1 front.toList kind ∧ HexText 6 behind.toList id ∧ kind ≤ 7 ∧
          id < 2 ^ (widths kind).identifier ∧ v = kind * 2 ^ 21 + id)) ∧
    (∀ n : NetId, NetId.ofText n.toText = .ok n) ∧
    (∀ k : Key, Key.ofText k.toText = .ok k) ∧
    (∀ width s v, HexText width s v → v < 16 ^ width) ∧
    ∀ c d, digitOf 16 c = some d ↔ d < 16 ∧ (c = hexDigit d ∨ c = (hexDigit d).toLower) := by
  refine ⟨⟨?_, DevAddr.ofText_toText⟩, ⟨?_, Eui.ofText_toText⟩, ⟨?_, DevNonce.ofText_toText⟩,
    ⟨?_, JoinNonce.ofText_toText⟩, ?_, ?_, NetId.ofText_toText, Key.ofText_toText, ?_, ?_⟩
  · exact HexField.read_number_iff fun v small => UInt32.toNat_ofNat_of_lt' small
  · exact HexField.read_number_iff fun v small => UInt64.toNat_ofNat_of_lt' small
  · exact HexField.read_number_iff fun v small => UInt16.toNat_ofNat_of_lt' small
  · exact HexField.read_number_iff fun v small => Nat.mod_eq_of_lt small
  · intro text v free
    rw [NetId.ofText_of_free free]
    exact HexField.read_number_iff (fun v small => Nat.mod_eq_of_lt small) text v
  · exact fun front behind v free => NetId.number_append_iff free behind v
  · exact fun width s v hex => hex.lt
  · exact fun c d => digitOf_hex_eq_some_iff

theorem padded_networks_read :
    ':' ∉ "\u3000 0x0x0X+A-bC-d\t".toList ∧
      (NetId.ofText "\u3000 0x0x0X+A-bC-d\t").map (·.value.val) = .ok 0xABCD ∧
    ':' ∉ " 0x6".toList ∧
      (NetId.ofText (" 0x6" ++ ":" ++ "1a-BCDE")).map (·.value.val) = .ok 0xDABCDE := by
  have number : HexText 6 "\u3000 0x0x0X+A-bC-d\t".toList 0xABCD :=
    HexField.netId.read_eq_ok_iff.mp (by decide)
  have kind : HexText 1 " 0x6".toList 6 := HexField.netIdType.read_eq_ok_iff.mp (by decide)
  have id : HexText 6 "1a-BCDE".toList 0x1ABCDE := HexField.netId.read_eq_ok_iff.mp (by decide)
  obtain ⟨-, -, -, -, whole, parts, -⟩ := hex_texts_follow_grammar
  refine ⟨by decide, (whole _ _ (by decide)).mpr number, by decide, ?_⟩
  exact (parts _ _ _ (by decide)).mpr ⟨6, 0x1ABCDE, kind, id, by decide, by decide, rfl⟩

end IdentityDirectory
