import IdentityDirectory.Text.Blank
import IdentityDirectory.Text.Hex
/-!
What can be wrong with one field of a record, in its text form or in its bytes.
-/
namespace IdentityDirectory

inductive HexField where
  | netIdType
  | netId
  | deviceAddress
  | eui
  | deviceNonce
  | joinNonce
  deriving DecidableEq, Repr

namespace HexField

def label : HexField → String
  | netIdType => "NetID type"
  | netId => "NetID"
  | deviceAddress => "device address"
  | eui => "EUI"
  | deviceNonce => "device nonce"
  | joinNonce => "join nonce"

def width : HexField → Nat
  | netIdType => 1
  | netId => 6
  | deviceAddress => 8
  | eui => 16
  | deviceNonce => 4
  | joinNonce => 6

end HexField

inductive FieldError where
  | hexLength (field : HexField) (text : String)
  | hexNumber (field : HexField) (text : String) (cause : Text.NumberError)
  | networkType (kind : Nat)
  | identifierWidth (id bits kind : Nat)
  | addressWidth (nwkId nwkAddr kind : Nat)
  | keyText (text : String) (cause : Text.HexError)
  | keyLength (text : String)
  | activation (text : String)
  | deviceClass (text : String)
  | version (text : String)
  | tag (letter : Char)
  | activationByte
  | classByte
  | familyByte
  deriving DecidableEq, Repr

def FieldError.hex (v : Nat) : String := "0x" ++ String.ofList (Text.lower (Text.hexShort v))

def FieldError.message : FieldError → String
  | hexLength field text =>
    let what := field.label
    let most := field.width
    s!"{what}: expected 1..{most} hex digits, got '{text}'"
  | hexNumber field text cause =>
    let what := field.label
    let why := cause.message
    s!"{what}: '{text}': {why}"
  | networkType kind => s!"NetID type {kind} out of range 0..7"
  | identifierWidth id bits kind =>
    let shown := hex id
    s!"NetID identifier {shown} does not fit {bits} bits of type {kind}"
  | addressWidth nwkId nwkAddr kind =>
    let id := hex nwkId
    let addr := hex nwkAddr
    s!"NwkID {id} / NwkAddr {addr} do not fit type {kind}"
  | keyText text cause =>
    let why := cause.message
    s!"key '{text}': {why}"
  | keyLength text => s!"key '{text}': expected 32 hex digits"
  | activation text => s!"activation '{text}'"
  | deviceClass text => s!"device class '{text}'"
  | version text => s!"LoRaWAN version '{text}'"
  | tag letter => s!"tag '{letter}'"
  | activationByte => "Invalid activation type"
  | classByte => "Invalid device class"
  | familyByte => "Invalid address family"

namespace HexField

/-- What is left of a text once blanks around it, leading 0x and 0X, and dashes are gone. -/
def body (s : List Char) : List Char :=
  (Text.dropLead '0' 'X' (Text.dropLead '0' 'x' (Text.trim s))).filter (· ≠ '-')

def read (field : HexField) (text : String) : Except FieldError Nat :=
  let digits := body text.toList
  let size := Text.utf8Size digits
  if size = 0 ∨ field.width < size then .error (.hexLength field text)
  else match Text.readUnsigned 16 0xFFFFFFFFFFFFFFFF digits with
    | .ok v => .ok v
    | .error cause => .error (.hexNumber field text cause)

end HexField
end IdentityDirectory
