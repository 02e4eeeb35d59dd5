import IdentityDirectory.Proofs.Record.FieldTexts
import IdentityDirectory.Urn.Basic
/-!
The fields of a URN, read one by one. A field that is written for a value puts that value into its place and
leaves everything else; of the text in front of it only the checksum takes notice.
-/
namespace IdentityDirectory

namespace Urn

theorem readFields_append {before : List Char} {u v : Urn} {fs : List (List Char)}
    (first : readFields before u fs = .ok v) (gs : List (List Char)) :
    readFields before u (fs ++ gs) = readFields (before ++ fs.flatMap (':' :: ·)) v gs := by
  induction fs generalizing before u with
  | nil =>
    obtain rfl := Except.ok.inj first
    rw [List.nil_append, List.flatMap_nil, List.append_nil]
  | cons f fs ih =>
    rw [readFields] at first
    cases read : readField before u f with
    | error cause =>
      rw [read] at first
      cases first
    | ok w =>
      rw [read] at first
      have rest := ih first
      rw [List.append_assoc, List.cons_append, ← List.cons_append, ← List.flatMap_cons] at rest
      rw [List.cons_append, readFields, read]
      exact rest

section
variable (before : List Char) (u : Urn)

theorem readField_owner (owner : String) :
    readField before u ('O' :: owner.toList) = .ok { u with owner := owner } := by
  simp [readField]

theorem readField_serial (serial : String) :
    readField before u ('S' :: serial.toList) = .ok { u with serial := serial } := by
  simp [readField]

theorem readField_own (letter : Char) (value : String) :
    readField before u (ownField letter value) = readOwn u letter value.toList := rfl

theorem readFields_tokenFields (w : Urn) (noOwner : u.owner = "") (noSerial : u.serial = "") :
    readFields before u w.tokenFields = .ok { u with owner := w.owner, serial := w.serial } := by
  obtain ⟨identity, profileId, _, _, command, offset, size, checksum, checksumValid⟩ := u
  obtain rfl := noOwner
  obtain rfl := noSerial
  by_cases owner : w.owner = "" <;> by_cases serial : w.serial = ""
  · simp [tokenFields, owner, serial, readFields]
  · simp [tokenFields, owner, serial, readFields, readField_serial, bind, Except.bind]
  · simp [tokenFields, owner, serial, readFields, readField_owner, bind, Except.bind]
  · simp [tokenFields, owner, serial, readFields, readField_serial, readField_owner, bind, Except.bind]

theorem readFields_deviceFields {i : Identity} (writable : i.device.version.IsWritable) :
    readFields before u (deviceFields i) =
      .ok { u with
        identity :=
          ⟨i.addr, { i.device with
            appEui := u.identity.device.appEui
            devEui := u.identity.device.devEui
            name := u.identity.device.name }⟩ } := by
  have version : Version.ofText i.device.version.toText = .ok i.device.version := by
    rw [Version.ofText_toText, if_pos writable]
  simp [deviceFields, readFields, readField_own, readOwn, DevAddr.ofText_toText, Activation.ofText_toText,
    DeviceClass.ofText_toText, Key.ofText_toText, version, DevNonce.ofText_toText, JoinNonce.ofText_toText,
    Except.mapError, Except.map, bind, Except.bind]

/-- Whether a command can be told in a field. Without one there is no place for an offset or a size. -/
def HasFitCommand (w : Urn) : Prop :=
  match w.command with
  | none => w.offset = 0 ∧ w.size = 0
  | some c => c ≠ ':'

theorem readFields_commandFields {w : Urn} (fit : w.HasFitCommand) (fresh : u.command = none)
    (start : u.offset = 0) (none_yet : u.size = 0) :
    readFields before u w.commandFields =
      .ok { u with command := w.command, offset := w.offset, size := w.size } := by
  unfold HasFitCommand at fit
  unfold commandFields
  obtain ⟨identity, profileId, owner, serial, _, _, _, checksum, checksumValid⟩ := u
  obtain rfl := fresh
  obtain rfl := start
  obtain rfl := none_yet
  cases command : w.command with
  | none =>
    rw [command] at fit
    rw [fit.1, fit.2, readFields]
  | some c =>
    have offset : Text.readUnsigned 16 0xFFFFFFFF (Text.hexShort w.offset.toNat) = .ok w.offset.toNat :=
      Text.readUnsigned_hexShort (Nat.le_of_lt_succ w.offset.toNat_lt)
    have byte : w.size.toNat ≤ 255 := Nat.le_of_lt_succ w.size.toNat_lt
    have size : Text.readUnsigned 16 0xFFFFFFFF (Text.hexShort w.size.toNat) = .ok w.size.toNat :=
      Text.readUnsigned_hexShort (Nat.le_trans byte (by decide))
    simp [readFields, readField, readOwn, offset, size, Nat.min_eq_left byte, bind, Except.bind]

theorem readField_checksum :
    readField before u ('C' :: Text.hexFixed 4 (sign before).toNat) =
      .ok { u with checksum := some (sign before), checksumValid := some true } := by
  have small := (sign before).toNat_lt
  have read : Text.readUnsigned 16 0xFFFF (Text.hexFixed 4 (sign before).toNat) =
      .ok (sign before).toNat :=
    Text.readUnsigned_hexFixed (by decide) small (Nat.le_of_lt_succ small)
  simp [readField, read]

end

def profileName (profile : UInt32) : DeviceName :=
  if profile = 0 then default else DeviceName.ofText (String.ofList (profileText profile))

theorem readLead_toText (appEui devEui : Eui) (profile : UInt32) :
    readLead appEui.toText.toList devEui.toText.toList (profileText profile) =
      .ok { (default : Urn) with
        identity :=
          ⟨default, { (default : Device) with
            appEui := appEui
            devEui := devEui
            name := profileName profile }⟩
        profileId := profile } := by
  have small := profile.toNat_lt
  have read : Text.readUnsigned 16 0xFFFFFFFF (profileText profile) = .ok profile.toNat :=
    Text.readUnsigned_hexFixed (by decide) small (Nat.le_of_lt_succ small)
  simp [readLead, Eui.ofText_toText, read, Except.mapError, bind, Except.bind, profileName]
  rfl

end Urn
end IdentityDirectory
