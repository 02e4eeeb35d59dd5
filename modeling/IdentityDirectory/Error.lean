import IdentityDirectory.Message.Response
import IdentityDirectory.Settings.Error
import IdentityDirectory.Store.Error
import IdentityDirectory.Urn.Error
/-!
The errors of the directory: those of its decoders, its client, its stores and its settings.
-/
namespace IdentityDirectory

inductive Mismatch where
  | tag (expected received : Tag)
  | body (received : ResponseBody)
  deriving DecidableEq, Repr

inductive Error where
  | emptyPacket
  | unknownTag (byte : UInt8)
  | truncated (tag : Tag) (needed actual : Nat)
  | field (cause : FieldError)
  | urn (cause : UrnError)
  | bufferTooSmall (needed capacity : Nat)
  | mismatch (cause : Mismatch)
  | closed
  | timeout
  | rejected (code : Int32)
  | config (cause : ConfigError)
  | store (cause : StoreError)
  | json
  | io
  deriving DecidableEq, Repr

/-! How a record is shown in an error: types and fields by name, keys hidden. -/

namespace Describe

def record (name : String) (fields : List (String × String)) : String :=
  name ++ " \x7b " ++ ", ".intercalate (fields.map fun f => f.1 ++ ": " ++ f.2) ++ " \x7d"

def wrapped (name : String) (value : String) : String := name ++ "(" ++ value ++ ")"

def items (xs : List String) : String := "[" ++ ", ".intercalate xs ++ "]"

def key (_ : Key) : String := "Key128(..)"

def eui (e : Eui) : String := wrapped "DevEui" (toString e.value.toNat)

def activation : Activation → String
  | .abp => "Abp"
  | .otaa => "Otaa"

def version (v : Version) : String :=
  record "LorawanVersion" [("major", toString v.major.toNat), ("minor", toString v.minor.toNat),
    ("release", toString v.release.toNat)]

def device (d : Device) : String :=
  record "DeviceIdentity"
    [("activation", activation d.activation),
     ("device_class", d.deviceClass.toText),
     ("dev_eui", eui d.devEui),
     ("nwk_s_key", key d.nwkSKey),
     ("app_s_key", key d.appSKey),
     ("version", version d.version),
     ("app_eui", eui d.appEui),
     ("app_key", key d.appKey),
     ("nwk_key", key d.nwkKey),
     ("dev_nonce", wrapped "DevNonce" (toString d.devNonce.value.toNat)),
     ("join_nonce", wrapped "JoinNonce" (toString d.joinNonce.value.val)),
     ("name", wrapped "DeviceName" (items (d.name.octets.bytes.map fun b => toString b.toNat)))]

def identity (i : Identity) : String :=
  record "NetworkIdentity"
    [("addr", wrapped "DevAddr" (toString i.addr.value.toNat)), ("device", device i.device)]

def gateway (g : Gateway) : String :=
  record "GatewayIdentity"
    [("gateway_id", eui g.id),
     ("addr", match g.endpoint with
       | none => "None"
       | some e => wrapped "Some" e.toText)]

def body : ResponseBody → String
  | .identity i => wrapped "Identity" (identity i)
  | .gateway g => wrapped "Gateway" (gateway g)
  | .operation offset size result =>
    record "Operation" [("offset", toString offset.toNat), ("size", toString size.toNat),
      ("result", toString result.toInt)]
  | .identityList offset xs =>
    record "IdentityList" [("offset", toString offset.toNat), ("items", items (xs.map identity))]
  | .gatewayList offset xs =>
    record "GatewayList" [("offset", toString offset.toNat), ("items", items (xs.map gateway))]

end Describe

def Mismatch.message : Mismatch → String
  | tag expected received =>
    let want := expected.letter
    let got := received.letter
    s!"expected '{want}' reply, got '{got}'"
  | body received => Describe.body received

def Error.message : Error → String
  | emptyPacket => "Empty packet"
  | unknownTag byte =>
    "Unknown tag: 0x" ++ String.ofList (Text.lower (Text.hexFixed 2 byte.toNat))
  | truncated tag needed actual =>
    let letter := tag.letter
    s!"Truncated '{letter}' message: {actual} bytes, need {needed}"
  | field cause => "Invalid field: " ++ cause.message
  | urn cause => "Invalid URN: " ++ cause.message
  | bufferTooSmall needed capacity => s!"Buffer too small: need {needed} bytes, capacity {capacity}"
  | mismatch cause => "Unexpected message: " ++ cause.message
  | closed => "Transport error: service already closed"
  | timeout => "Timeout occurred"
  | rejected code =>
    let shown := code.toInt
    s!"Request rejected with result code {shown}"
  | config cause => "Configuration error: " ++ cause.message
  | store cause => "Storage error: " ++ cause.message
  | json => "JSON error"
  | io => "I/O error"

end IdentityDirectory
