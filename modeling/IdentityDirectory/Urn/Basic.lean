import IdentityDirectory.Checksum
import IdentityDirectory.Error
import IdentityDirectory.Message.Request
/-!
Identity URNs, the text form of a device that is handed over on paper or in a picture code:

  LW:D0:application EUI:device EUI:profile[:Oowner][:Sserial][:Pletter value]…[:Cchecksum]

The P fields carry the rest of the device and, with the letters X, F and Z, a request. The checksum is
taken of everything before its colon, in capital letters.
-/
namespace IdentityDirectory

structure Urn where
  identity : Identity
  profileId : UInt32
  owner : String
  serial : String
  command : Option Char
  offset : UInt32
  size : UInt8
  checksum : Option UInt16
  checksumValid : Option Bool
  deriving DecidableEq, Repr, Inhabited

namespace Urn

def profileOf (name : DeviceName) : UInt32 :=
  match Text.readUnsigned 16 0xFFFFFFFF (Text.trim name.toText.toList) with
  | .ok v => UInt32.ofNat v
  | .error _ => 0

def ofIdentity (i : Identity) : Urn :=
  { (default : Urn) with identity := i, profileId := profileOf i.device.name }

def sign (s : List Char) : UInt16 := Checksum.crc16 (Text.utf8 (Text.upper s))

def profileText (profile : UInt32) : List Char := Text.hexFixed 8 profile.toNat

def leadFields (u : Urn) : List (List Char) :=
  [['L', 'W'], ['D', '0'], u.identity.device.appEui.toText.toList,
   u.identity.device.devEui.toText.toList, profileText u.profileId]

def tokenFields (u : Urn) : List (List Char) :=
  (if u.owner.isEmpty then [] else ['O' :: u.owner.toList])
    ++ (if u.serial.isEmpty then [] else ['S' :: u.serial.toList])

def ownField (letter : Char) (value : String) : List Char := 'P' :: letter :: value.toList

def deviceFields (i : Identity) : List (List Char) :=
  [ownField 'D' i.addr.toText,
   ownField 'T' i.device.activation.toText,
   ownField 'C' i.device.deviceClass.toText,
   ownField 'W' i.device.nwkSKey.toText,
   ownField 'S' i.device.appSKey.toText,
   ownField 'V' i.device.version.toText,
   ownField 'A' i.device.appKey.toText,
   ownField 'N' i.device.nwkKey.toText,
   ownField 'O' i.device.devNonce.toText,
   ownField 'J' i.device.joinNonce.toText]

def commandFields (u : Urn) : List (List Char) :=
  match u.command with
  | none => []
  | some c =>
    [['P', 'X', c], 'P' :: 'F' :: Text.hexShort u.offset.toNat,
     'P' :: 'Z' :: Text.hexShort u.size.toNat]

def fields (isFull : Bool) (u : Urn) : List (List Char) :=
  u.leadFields ++ u.tokenFields
    ++ (if isFull then deviceFields u.identity ++ u.commandFields else [])

def signed (body : List Char) : List Char := body ++ ':' :: 'C' :: Text.hexFixed 4 (sign body).toNat

/-- The text of a URN. It is in capital letters unless it holds a command, whose case matters. -/
def toText (isFull isSigned : Bool) (u : Urn) : String :=
  let body := Text.join [':'] (u.fields isFull)
  let text := if isSigned then signed body else body
  String.ofList (if u.command.isSome && isFull then text else Text.upper text)

def readOwn (u : Urn) (letter : Char) (value : List Char) : Except Error Urn :=
  let text := String.ofList value
  let device := u.identity.device
  let withDevice (d : Device) : Urn := { u with identity := { u.identity with device := d } }
  let field {α : Type} (read : Except FieldError α) (put : α → Urn) : Except Error Urn :=
    (read.mapError Error.field).map put
  let number (fault : String → Text.NumberError → UrnError) (put : Nat → Urn) : Except Error Urn :=
    match Text.readUnsigned 16 0xFFFFFFFF value with
    | .ok v => .ok (put v)
    | .error cause => .error (.urn (fault text cause))
  match letter.toUpper with
  | 'D' => field (DevAddr.ofText text) fun a => { u with identity := { u.identity with addr := a } }
  | 'T' => field (Activation.ofText text) fun a => withDevice { device with activation := a }
  | 'C' => field (DeviceClass.ofText text) fun v => withDevice { device with deviceClass := v }
  | 'W' => field (Key.ofText text) fun k => withDevice { device with nwkSKey := k }
  | 'S' => field (Key.ofText text) fun k => withDevice { device with appSKey := k }
  | 'V' => field (Version.ofText text) fun v => withDevice { device with version := v }
  | 'A' => field (Key.ofText text) fun k => withDevice { device with appKey := k }
  | 'N' => field (Key.ofText text) fun k => withDevice { device with nwkKey := k }
  | 'O' => field (DevNonce.ofText text) fun n => withDevice { device with devNonce := n }
  | 'J' => field (JoinNonce.ofText text) fun n => withDevice { device with joinNonce := n }
  | 'X' => .ok { u with command := value.head? }
  | 'F' => number .offset fun v => { u with offset := UInt32.ofNat v }
  | 'Z' => number .size fun v => { u with size := UInt8.ofNat (min v 255) }
  | _ => .ok u

/-- Reads a field behind the fifth, with the text that stands before its colon. -/
def readField (before : List Char) (u : Urn) : List Char → Except Error Urn
  | [] => .ok u
  | kind :: value =>
    match kind.toUpper with
    | 'C' =>
      match Text.readUnsigned 16 0xFFFF value with
      | .error cause => .error (.urn (.checksum (String.ofList (kind :: value)) cause))
      | .ok v =>
        let crc := UInt16.ofNat v
        .ok { u with checksum := some crc, checksumValid := some (sign before = crc) }
    | 'O' => .ok { u with owner := String.ofList value }
    | 'S' => .ok { u with serial := String.ofList value }
    | 'P' =>
      match value with
      | [] => .ok u
      | letter :: value => readOwn u letter value
    | _ => .ok u

def readFields (before : List Char) (u : Urn) : List (List Char) → Except Error Urn
  | [] => .ok u
  | f :: fs => do
    let u ← readField before u f
    readFields (before ++ ':' :: f) u fs

def readLead (appEui devEui profile : List Char) : Except Error Urn := do
  let appEui ← (Eui.ofText (String.ofList appEui)).mapError Error.field
  let devEui ← (Eui.ofText (String.ofList devEui)).mapError Error.field
  let profileId ← (Text.readUnsigned 16 0xFFFFFFFF profile).mapError fun cause =>
    Error.urn (.profileId (String.ofList profile) cause)
  let profileId := UInt32.ofNat profileId
  let name := if profileId = 0 then default
    else DeviceName.ofText (String.ofList (profileText profileId))
  let device : Device := { (default : Device) with appEui := appEui, devEui := devEui, name := name }
  return { (default : Urn) with identity := ⟨default, device⟩, profileId := profileId }

def ofText (text : String) : Except Error Urn :=
  let tokens := Text.splitOn ':' (Text.trim text.toList)
  match tokens with
  | lead :: form :: appEui :: devEui :: profile :: rest => do
    if Text.upper lead ≠ ['L', 'W'] ∨ Text.upper form ≠ ['D', '0'] then throw (.urn .lead)
    let u ← readLead appEui devEui profile
    readFields (Text.join [':'] [lead, form, appEui, devEui, profile]) u rest
  | _ => .error (.urn (.fieldCount tokens.length))

/-- Reads fields with the places where they start. Nothing comes out if the text cannot be cut in front of
one of them. -/
def readAt (t : List Char) (u : Urn) : List (Nat × List Char) → Option (Except Error Urn)
  | [] => some (.ok u)
  | (0, _) :: _ => none
  | (place + 1, f) :: rest =>
    match Text.frontTo? place t with
    | none => none
    | some before =>
      match readField before u f with
      | .error cause => some (.error cause)
      | .ok v => readAt t v rest

/-- The reader with the places of the fields, where the text in front of a field is cut off the whole text. -/
def ofTextAt (text : String) : Option (Except Error Urn) :=
  let t := Text.trim text.toList
  let tokens := Text.splitOn ':' t
  match tokens with
  | lead :: form :: appEui :: devEui :: profile :: _ =>
    if Text.upper lead ≠ ['L', 'W'] ∨ Text.upper form ≠ ['D', '0'] then some (.error (.urn .lead))
    else
      match readLead appEui devEui profile with
      | .error cause => some (.error cause)
      | .ok u => readAt t u (((Text.starts 0 tokens).drop 5).zip (tokens.drop 5))
  | _ => some (.error (.urn (.fieldCount tokens.length)))

def toRequest (u : Urn) (code : Int32) (accessCode : UInt64) : Except Error Request :=
  match u.command with
  | none => .error (.urn .noCommand)
  | some c =>
    if 256 ≤ c.toNat then .error (.urn (.command c))
    else
      let byte := UInt8.ofNat c.toNat
      match Tag.ofByte? byte with
      | none => .error (.unknownTag byte)
      | some tag =>
        .ok <| match tag with
          | .addrLookup => Request.addrLookup code accessCode u.identity.device.devEui
          | .euiLookup => Request.euiLookup code accessCode u.identity.addr
          | .assign => Request.assign code accessCode u.identity
          | .remove => Request.remove code accessCode u.identity.addr
          | .gatewayAddrLookup | .gatewayIdLookup | .gatewayAssign | .gatewayRemove =>
            Request.gateway tag code accessCode ⟨u.identity.device.devEui, none⟩
          | .list | .count | .forceSave | .close
          | .gatewayList | .gatewayCount | .gatewayForceSave | .gatewayClose =>
            Request.operation tag code accessCode u.offset u.size

end Urn
end IdentityDirectory
