import IdentityDirectory.Proofs.Urn.Checksum
/-!
URN texts that are read back. The text of a URN is its fields with colons in between; where its owner and its
serial number can stand in such a text, it is cut into the same fields again and each is read as it was meant.
-/
namespace IdentityDirectory

namespace Text

theorem upper_of_capital {s : List Char} (capital : ∀ c ∈ s, c.isLower = false) : upper s = s := by
  have stays (c : Char) (member : c ∈ s) : c.toUpper = id c := by
    have small : (decide ('a'.val ≤ c.val) && decide (c.val ≤ 'z'.val)) = false := capital c member
    simp only [Bool.and_eq_false_iff, decide_eq_false_iff_not] at small
    unfold Char.toUpper
    rw [dif_neg]
    · rfl
    · rintro ⟨above, below⟩
      exact small.elim (fun under => under above) (fun beyond => beyond below)
  rw [upper, List.map_congr_left stays, List.map_id]

end Text

namespace Urn

/-- A character that no text is cut at and that has no capital letter. -/
def IsSettled (c : Char) : Prop := c ≠ ':' ∧ c.isLower = false

instance (c : Char) : Decidable (IsSettled c) := inferInstanceAs (Decidable (_ ∧ _))

theorem settled_hexFixed {width v : Nat} {c : Char} (member : c ∈ Text.hexFixed width v) :
    IsSettled c := by
  have digit : ∀ v < 16, IsSettled (Text.hexDigit v) := by decide
  induction width with
  | zero => cases member
  | succ width ih =>
    rcases List.mem_cons.mp member with rfl | later
    · exact digit _ (Nat.mod_lt _ (by decide))
    · exact ih later

theorem settled_decimal {v : Nat} {c : Char} (member : c ∈ Text.decimal v) : IsSettled c := by
  have digit := Text.isDigit_decimal member
  simp only [Char.isDigit, Bool.and_eq_true, decide_eq_true_eq] at digit
  have last : c.val ≤ '9'.val := digit.2
  constructor
  · rintro rfl
    exact absurd last (by decide)
  · have before : ¬ 'a'.val ≤ c.val := fun above => absurd (UInt32.le_trans above last) (by decide)
    have small : (decide ('a'.val ≤ c.val) && decide (c.val ≤ 'z'.val)) = false := by
      simp only [before, decide_false, Bool.false_and]
    exact small

theorem settled_version {v : Version} {c : Char} (member : c ∈ v.toText.toList) : IsSettled c := by
  rw [Version.toText, String.toList_ofList] at member
  rcases Text.mem_join member with rfl | ⟨piece, there, within⟩
  · decide
  · simp only [List.mem_cons, List.not_mem_nil, or_false] at there
    rcases there with rfl | rfl | rfl <;> exact settled_decimal within

theorem settled_key {k : Key} {c : Char} (member : c ∈ k.toText.toList) : IsSettled c := by
  rw [Key.toText, String.toList_ofList] at member
  obtain ⟨x, -, digit⟩ := List.mem_flatMap.mp member
  exact settled_hexFixed digit

theorem settled_ownField {letter : Char} {value : String} (kind : IsSettled letter)
    (settled : ∀ c ∈ value.toList, IsSettled c) : ∀ c ∈ ownField letter value, IsSettled c := by
  have mark : IsSettled 'P' := by decide
  exact List.forall_mem_cons.mpr ⟨mark, List.forall_mem_cons.mpr ⟨kind, settled⟩⟩

theorem settled_deviceFields (i : Identity) : ∀ f ∈ deviceFields i, ∀ c ∈ f, IsSettled c := by
  have number (width v : Nat) : ∀ c ∈ (String.ofList (Text.hexFixed width v)).toList, IsSettled c := by
    rw [String.toList_ofList]
    exact fun c => settled_hexFixed
  have names : ∀ c ∈ ['A', 'B', 'C', 'O', 'P', 'T'], IsSettled c := by simp [IsSettled]
  have activation (a : Activation) : ∀ c ∈ a.toText.toList, IsSettled c := by
    have letters : a.toText.toList ⊆ ['A', 'B', 'C', 'O', 'P', 'T'] := by
      cases a <;> simp [Activation.toText]
    exact fun c member => names c (letters member)
  have deviceClass (k : DeviceClass) : ∀ c ∈ k.toText.toList, IsSettled c := by
    have letters : k.toText.toList ⊆ ['A', 'B', 'C', 'O', 'P', 'T'] := by
      cases k <;> simp [DeviceClass.toText]
    exact fun c member => names c (letters member)
  simp only [deviceFields, List.forall_mem_cons, List.not_mem_nil, false_implies, implies_true, and_true]
  exact ⟨settled_ownField (by decide) (number _ _), settled_ownField (by decide) (activation _),
    settled_ownField (by decide) (deviceClass _), settled_ownField (by decide) fun c => settled_key,
    settled_ownField (by decide) fun c => settled_key,
    settled_ownField (by decide) fun c => settled_version,
    settled_ownField (by decide) fun c => settled_key, settled_ownField (by decide) fun c => settled_key,
    settled_ownField (by decide) (number _ _), settled_ownField (by decide) (number _ _)⟩

theorem settled_leadFields (u : Urn) : ∀ f ∈ u.leadFields, ∀ c ∈ f, IsSettled c := by
  have number (width v : Nat) : ∀ c ∈ (String.ofList (Text.hexFixed width v)).toList, IsSettled c := by
    rw [String.toList_ofList]
    exact fun c => settled_hexFixed
  simp only [leadFields, List.forall_mem_cons, List.not_mem_nil, false_implies, implies_true, and_true]
  exact ⟨by decide, by decide, number _ _, number _ _, fun c => settled_hexFixed⟩

theorem forall_tokenFields {P : Char → Prop} {u : Urn} (marks : P 'O' ∧ P 'S')
    (owner : ∀ c ∈ u.owner.toList, P c) (serial : ∀ c ∈ u.serial.toList, P c) :
    ∀ f ∈ u.tokenFields, ∀ c ∈ f, P c := by
  intro f member
  rcases List.mem_append.mp member with first | second
  · split at first
    · cases first
    · rw [List.mem_singleton.mp first]
      exact List.forall_mem_cons.mpr ⟨marks.1, owner⟩
  · split at second
    · cases second
    · rw [List.mem_singleton.mp second]
      exact List.forall_mem_cons.mpr ⟨marks.2, serial⟩

/-- What a URN needs for its text to tell all of it: a version in its limits, the name that its profile
gives, and tokens that no colon is in; without a command the text is put in capitals, so then the tokens
must be, and there is no place for an offset and a size. -/
structure IsTellable (u : Urn) : Prop where
  version : u.identity.device.version.IsWritable
  name : u.identity.device.name.octets.bytes =
    if u.profileId = 0 then List.replicate 8 0
    else (Text.hexFixed 8 u.profileId.toNat).map fun c => UInt8.ofNat c.toNat
  owner : ':' ∉ u.owner.toList
  serial : ':' ∉ u.serial.toList
  capital : u.command = none → ∀ c ∈ u.owner.toList ++ u.serial.toList, c.isLower = false
  command : u.HasFitCommand

variable {u : Urn}

theorem fields_true (u : Urn) :
    u.fields true = u.leadFields ++ u.tokenFields ++ (deviceFields u.identity ++ u.commandFields) := rfl

theorem free_commandFields (fit : u.HasFitCommand) : ∀ f ∈ u.commandFields, ':' ∉ f := by
  unfold HasFitCommand at fit
  unfold commandFields
  cases command : u.command with
  | none => exact fun f member => by cases member
  | some c =>
    rw [command] at fit
    have digits (v : Nat) : ':' ∉ Text.hexShort v := fun member => (settled_hexFixed member).1 rfl
    have letter : ':' ≠ c := Ne.symm fit
    simp [digits, letter]

theorem free_fields (h : u.IsTellable) : ∀ f ∈ u.fields true, ':' ∉ f := by
  intro f member colon
  have tokens := forall_tokenFields (P := (· ≠ ':')) (by decide)
    (fun c there same => h.owner (same ▸ there)) (fun c there same => h.serial (same ▸ there))
  simp only [fields_true, List.mem_append] at member
  rcases member with (lead | token) | device | command
  · exact (settled_leadFields u f lead ':' colon).1 rfl
  · exact tokens f token ':' colon rfl
  · exact (settled_deviceFields u.identity f device ':' colon).1 rfl
  · exact free_commandFields h.command f command colon

theorem capital_fields (h : u.IsTellable) (plain : u.command = none) :
    ∀ f ∈ u.fields true, ∀ c ∈ f, c.isLower = false := by
  intro f member
  have capital := h.capital plain
  have tokens := forall_tokenFields (P := fun c => c.isLower = false) (by decide)
    (fun c there => capital c (List.mem_append_left _ there))
    (fun c there => capital c (List.mem_append_right _ there))
  simp only [fields_true, commandFields, plain, List.append_nil, List.mem_append] at member
  rcases member with (lead | token) | device
  · exact fun c there => (settled_leadFields u f lead c there).2
  · exact tokens f token
  · exact fun c there => (settled_deviceFields u.identity f device c there).2

theorem toText_eq (h : u.IsTellable) (isSigned : Bool) :
    u.toText true isSigned =
      String.ofList (if isSigned then signed (Text.join [':'] (u.fields true))
        else Text.join [':'] (u.fields true)) := by
  unfold toText
  cases command : u.command with
  | some c => rfl
  | none =>
    have body : ∀ c ∈ Text.join [':'] (u.fields true), c.isLower = false := by
      intro c member
      rcases Text.mem_join member with rfl | ⟨f, there, within⟩
      · decide
      · exact capital_fields h command f there c within
    have whole : ∀ c ∈ signed (Text.join [':'] (u.fields true)), c.isLower = false := by
      intro c member
      rcases List.mem_append.mp member with front | behind
      · exact body c front
      · simp only [List.mem_cons] at behind
        rcases behind with rfl | rfl | digit
        · decide
        · decide
        · exact (settled_hexFixed digit).2
    cases isSigned
    · exact congrArg String.ofList (Text.upper_of_capital body)
    · exact congrArg String.ofList (Text.upper_of_capital whole)

theorem profileName_eq (h : u.IsTellable) : profileName u.profileId = u.identity.device.name := by
  have same : (profileName u.profileId).octets.bytes = u.identity.device.name.octets.bytes := by
    rw [h.name, profileName]
    split
    · rfl
    · have ascii : Text.utf8 (Text.hexFixed 8 u.profileId.toNat) =
          (Text.hexFixed 8 u.profileId.toNat).map fun c => UInt8.ofNat c.toNat :=
        Text.utf8_of_ascii fun c member => Text.ascii_of_digit (Text.isNumeral_hexFixed _ _ c member)
      have size : (Text.utf8 (Text.hexFixed 8 u.profileId.toNat)).length = 8 := by
        rw [ascii, List.length_map, Text.length_hexFixed]
      rw [DeviceName.ofText, String.toList_ofList, profileText,
        Octets.bytes_ofBytes_short (Nat.le_of_eq size), size, ascii]
      exact List.append_nil _
  exact congrArg DeviceName.mk (Octets.ext same)

theorem body_ends (u : Urn) :
    ∃ s digits, Text.join [':'] (u.fields true) = 'L' :: s ++ digits ∧
      Text.IsNumeral 16 digits ∧ digits ≠ [] := by
  have ends (rest : List (List Char)) (tag digits : List Char)
      (shape : u.fields true = ['L', 'W'] :: (rest ++ [tag ++ digits])) :
      Text.join [':'] (u.fields true) =
        'L' :: ('W' :: rest.flatMap (':' :: ·) ++ ':' :: tag) ++ digits := by
    rw [shape, Text.join_cons, List.flatMap_append]
    simp
  have some_digit {width v : Nat} (positive : 0 < width) : Text.hexFixed width v ≠ [] := by
    rw [← List.length_pos_iff, Text.length_hexFixed]
    exact positive
  cases command : u.command with
  | none =>
    refine ⟨_, _, ends (u.leadFields.tail ++ u.tokenFields ++ (deviceFields u.identity).dropLast)
      ['P', 'J'] (Text.hexFixed 6 u.identity.device.joinNonce.value) ?_, Text.isNumeral_hexFixed _ _,
      some_digit (by decide)⟩
    simp [fields_true, leadFields, deviceFields, commandFields, command, ownField, JoinNonce.toText]
  | some c =>
    refine ⟨_, _, ends (u.leadFields.tail ++ u.tokenFields ++ deviceFields u.identity ++
      [['P', 'X', c], 'P' :: 'F' :: Text.hexShort u.offset.toNat]) ['P', 'Z']
      (Text.hexShort u.size.toNat) ?_, Text.isNumeral_hexFixed _ _, some_digit (Nat.succ_pos _)⟩
    simp [fields_true, leadFields, commandFields, command]

theorem trim_body (u : Urn) :
    Text.trim (Text.join [':'] (u.fields true)) = Text.join [':'] (u.fields true) := by
  obtain ⟨s, digits, ends, numeral, some_digit⟩ := body_ends u
  rw [ends, Text.trim_of_ends (by decide) numeral some_digit]

theorem ofText_unsigned (h : u.IsTellable) :
    ofText (String.ofList (Text.join [':'] (u.fields true))) =
      .ok { u with checksum := none, checksumValid := none } := by
  have some_field : u.fields true ≠ [] := List.cons_ne_nil _ _
  have pieces : Text.splitOn ':' (Text.trim
      (String.ofList (Text.join [':'] (u.fields true))).toList) =
        u.leadFields ++ (u.tokenFields ++ (deviceFields u.identity ++ u.commandFields)) := by
    rw [String.toList_ofList, trim_body, Text.splitOn_join some_field (free_fields h), fields_true,
      List.append_assoc]
  refine ofText_eq_ok_iff.mpr ⟨['L', 'W'], ['D', '0'], _, _, _,
    u.tokenFields ++ (deviceFields u.identity ++ u.commandFields), _, pieces, by decide,
    readLead_toText _ _ _, ?_⟩
  -- group by group; the text in front plays no part without a checksum
  rw [readFields_append (readFields_tokenFields _ _ u rfl rfl),
    readFields_append (readFields_deviceFields _ _ h.version),
    readFields_commandFields _ _ h.command rfl rfl rfl, profileName_eq h]
  rfl

theorem ofText_signed (h : u.IsTellable) :
    ofText (String.ofList (signed (Text.join [':'] (u.fields true)))) =
      .ok { u with
        checksum := some (sign (Text.join [':'] (u.fields true)))
        checksumValid := some true } := by
  have back := ofText_append_checksum (ofText_unsigned h)
  rwa [String.toList_ofList, trim_body] at back

/-- The text of a URN, with a checksum or without, is read back as the URN it was made from. What comes back
beside that is the checksum of the text in front of it, which is found to be right. -/
theorem text_read_back (h : u.IsTellable) :
    let body := u.toText true false
    let crc := Checksum.crc16 (Text.utf8 (Text.upper body.toList))
    u.toText true true = body ++ ":C" ++ String.ofList (Text.hexFixed 4 crc.toNat) ∧
    ofText (u.toText true true) = .ok { u with checksum := some crc, checksumValid := some true } ∧
    ofText body = .ok { u with checksum := none, checksumValid := none } := by
  intro body crc
  have unsigned : body = String.ofList (Text.join [':'] (u.fields true)) := toText_eq h false
  have signedText : u.toText true true = String.ofList (signed (Text.join [':'] (u.fields true))) :=
    toText_eq h true
  have letters : body.toList = Text.join [':'] (u.fields true) := by
    rw [unsigned, String.toList_ofList]
  have sum : crc = sign (Text.join [':'] (u.fields true)) := by rw [← letters]; rfl
  refine ⟨?_, ?_, ?_⟩
  · rw [signedText, sum, signed, ← letters, ← String.toList_inj]
    simp
  · rw [signedText, sum]
    exact ofText_signed h
  · rw [unsigned]
    exact ofText_unsigned h

theorem listing_read_back :
    let device := { (default : Device) with
      devEui := ⟨0xBB⟩
      name := ⟨Octets.ofBytes 8 [0x30, 0x30, 0x30, 0x30, 0x41, 0x42, 0x43, 0x44]⟩ }
    let u := { (default : Urn) with
      identity := ⟨⟨7⟩, device⟩
      profileId := 0xABCD
      owner := "aunt Ö"
      serial := "n 1"
      command := some 'l'
      offset := 10
      size := 3 }
    u.IsTellable ∧ ∃ crc, ofText (u.toText true true) =
      .ok { u with checksum := some crc, checksumValid := some true } := by
  intro device u
  have tellable : u.IsTellable :=
    { version := by decide
      name := by decide
      owner := by decide
      serial := by decide
      capital := fun plain => by cases plain
      command := by
        have letter : 'l' ≠ ':' := by decide
        exact letter }
  exact ⟨tellable, _, (text_read_back tellable).2.1⟩

end Urn
end IdentityDirectory
