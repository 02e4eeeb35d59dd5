import IdentityDirectory.Json.Reader
import IdentityDirectory.Json.Writer
import IdentityDirectory.Record.Gateway
import IdentityDirectory.Record.Identity
/-!
Records as JSON. Every field is a string in the text form of its type. A missing field of a device gets
its default, members with other keys are skipped, and a known key stands at most once. A gateway may
also be an array of its identifier and its address.
-/
namespace IdentityDirectory

namespace Json

/-- The value under a key: none if the key is repeated, none inside if it is missing. -/
def member (key : String) (ms : List (String × Json)) : Option (Option Json) :=
  match ms.filter fun m => m.1 = key with
  | [] => some none
  | [m] => some (some m.2)
  | _ => none

def asText {α : Type} (ofText : String → Except FieldError α) : Json → Option α
  | string t => (ofText t).toOption
  | _ => none

def textOr {α : Type} (ms : List (String × Json)) (key : String)
    (ofText : String → Except FieldError α) (default : α) : Option α := do
  match ← member key ms with
  | none => return default
  | some v => asText ofText v

def intOr (ms : List (String × Json)) (key : String) (low high default : Int) : Option Int := do
  match ← member key ms with
  | none => return default
  | some v =>
    let n ← v.int?
    if low ≤ n ∧ n ≤ high then return n else none

/-- The field under a key; null counts as missing. -/
def textOrNull {α : Type} (ms : List (String × Json)) (key : String) (read : Json → Option α) :
    Option (Option α) := do
  match ← member key ms with
  | none => return none
  | some null => return none
  | some v => return some (← read v)

def asEndpoint : Json → Option Endpoint
  | string t => Endpoint.ofText? t
  | _ => none

end Json

namespace Identity

def members (i : Identity) : List (String × Json) :=
  [("addr", .string i.addr.toText),
   ("activation", .string i.device.activation.toText),
   ("class", .string i.device.deviceClass.toText),
   ("deveui", .string i.device.devEui.toText),
   ("nwkSKey", .string i.device.nwkSKey.toText),
   ("appSKey", .string i.device.appSKey.toText),
   ("version", .string i.device.version.toText),
   ("appeui", .string i.device.appEui.toText),
   ("appKey", .string i.device.appKey.toText),
   ("nwkKey", .string i.device.nwkKey.toText),
   ("devNonce", .string i.device.devNonce.toText),
   ("joinNonce", .string i.device.joinNonce.toText),
   ("name", .string i.device.name.toText)]

def toJson (i : Identity) : Json := .object i.members

def ofMembers? (ms : List (String × Json)) : Option Identity := do
  let addr ← Json.textOr ms "addr" DevAddr.ofText default
  let activation ← Json.textOr ms "activation" Activation.ofText default
  let deviceClass ← Json.textOr ms "class" DeviceClass.ofText default
  let devEui ← Json.textOr ms "deveui" Eui.ofText default
  let nwkSKey ← Json.textOr ms "nwkSKey" Key.ofText default
  let appSKey ← Json.textOr ms "appSKey" Key.ofText default
  let version ← Json.textOr ms "version" Version.ofText default
  let appEui ← Json.textOr ms "appeui" Eui.ofText default
  let appKey ← Json.textOr ms "appKey" Key.ofText default
  let nwkKey ← Json.textOr ms "nwkKey" Key.ofText default
  let devNonce ← Json.textOr ms "devNonce" DevNonce.ofText default
  let joinNonce ← Json.textOr ms "joinNonce" JoinNonce.ofText default
  let name ← Json.textOr ms "name" (fun t => .ok (DeviceName.ofText t)) default
  return ⟨addr, ⟨activation, deviceClass, devEui, nwkSKey, appSKey, version, appEui, appKey, nwkKey,
    devNonce, joinNonce, name⟩⟩

def ofJson? : Json → Option Identity
  | .object ms => ofMembers? ms
  | _ => none

def ofJsonText? (text : String) : Option Identity := do
  let v ← Json.ofText? text
  if v.isSound then ofJson? v else none

def listOfJsonText? (text : String) : Option (List Identity) := do
  match ← Json.ofText? text with
  | .array items => if (Json.array items).isSound then items.mapM ofJson? else none
  | _ => none

end Identity

namespace Gateway

def members (g : Gateway) : List (String × Json) :=
  [("gwid", .string g.id.toText),
   ("addr", match g.endpoint with
     | none => .null
     | some e => .string e.toText)]

def toJson (g : Gateway) : Json := .object g.members

def endpointOfJson? : Json → Option (Option Endpoint)
  | .null => some none
  | v => (Json.asEndpoint v).map some

/-- Members with other keys are skipped without a look at their values. -/
def ofJson? : Json → Option Gateway
  | .object ms => do
    let id ← Json.asText Eui.ofText (← (← Json.member "gwid" ms))
    let endpoint ← Json.textOrNull ms "addr" Json.asEndpoint
    return ⟨id, endpoint⟩
  | .array [id] => do return ⟨← Json.asText Eui.ofText id, none⟩
  | .array [id, addr] => do return ⟨← Json.asText Eui.ofText id, ← endpointOfJson? addr⟩
  | _ => none

def ofJsonText? (text : String) : Option Gateway := do ofJson? (← Json.ofText? text)

def listOfJsonText? (text : String) : Option (List Gateway) := do
  match ← Json.ofText? text with
  | .array items => items.mapM ofJson?
  | _ => none

end Gateway
end IdentityDirectory
