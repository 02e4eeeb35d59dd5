import IdentityDirectory.Error
import IdentityDirectory.Json.Record
import IdentityDirectory.Message.Request
/-!
Requests and replies as JSON. A request is an object with the tag, the codes, and the fields of every
layout side by side; all known fields are read whatever the tag is. A reply is the data asked for, a
plain number for a count, and an object with the code for everything else.
-/
namespace IdentityDirectory

structure TextRequest where
  tag : Char
  code : Int32
  accessCode : UInt64
  eui : Option Eui
  offset : UInt32
  size : UInt8
  gatewayId : Option Eui
  endpoint : Option Endpoint
  identity : Identity
  deriving DecidableEq, Repr

namespace TextRequest

def defaultPageSize : Int := 10

def asLetter : Json → Option Char
  | .string t =>
    match t.toList with
    | [c] => some c
    | _ => none
  | _ => none

def ofMembers? (ms : List (String × Json)) : Option TextRequest := do
  let tag ← asLetter (← (← Json.member "tag" ms))
  let code ← Json.intOr ms "code" (-0x80000000) 0x7FFFFFFF 0
  let accessCode ← Json.intOr ms "accessCode" 0 0xFFFFFFFFFFFFFFFF 0
  let eui ← Json.textOrNull ms "eui" (Json.asText Eui.ofText)
  let offset ← Json.intOr ms "offset" 0 0xFFFFFFFF 0
  let size ← Json.intOr ms "size" 0 255 defaultPageSize
  let gatewayId ← Json.textOrNull ms "gwid" (Json.asText Eui.ofText)
  let endpoint ← Json.textOrNull ms "gwaddr" Json.asEndpoint
  let identity ← Identity.ofMembers? ms
  return ⟨tag, Int32.ofInt code, UInt64.ofNat accessCode.toNat, eui, UInt32.ofNat offset.toNat,
    UInt8.ofNat size.toNat, gatewayId, endpoint, identity⟩

def ofText? (text : String) : Option TextRequest := do
  match ← Json.ofText? text with
  | .object ms => if (Json.object ms).isSound then ofMembers? ms else none
  | _ => none

/-- The request that the fields make with the tag. A lookup by EUI takes the device's if none is given. -/
def toRequest (t : TextRequest) : Except Error Request :=
  if 256 ≤ t.tag.toNat then .error (.field (.tag t.tag))
  else
    let byte := UInt8.ofNat t.tag.toNat
    match Tag.ofByte? byte with
    | none => .error (.unknownTag byte)
    | some tag =>
      let gateway : Gateway := ⟨t.gatewayId.getD default, t.endpoint⟩
      .ok <| match tag with
        | .addrLookup =>
          Request.addrLookup t.code t.accessCode (t.eui.getD t.identity.device.devEui)
        | .euiLookup => Request.euiLookup t.code t.accessCode t.identity.addr
        | .assign => Request.assign t.code t.accessCode t.identity
        | .remove => Request.remove t.code t.accessCode t.identity.addr
        | .list | .count | .forceSave | .close
        | .gatewayList | .gatewayCount | .gatewayForceSave | .gatewayClose =>
          Request.operation tag t.code t.accessCode t.offset t.size
        | .gatewayAddrLookup | .gatewayIdLookup | .gatewayAssign | .gatewayRemove =>
          Request.gateway tag t.code t.accessCode gateway

end TextRequest

def Request.ofJsonText (text : String) : Except Error Request :=
  match TextRequest.ofText? text with
  | none => .error .json
  | some t => t.toRequest

namespace Response

def codeJson (code : Int32) : Json := .object [("code", Json.ofInt code.toInt)]

def identityJson (i : Identity) : Json := .object (Json.sortMembers i.members)

def gatewayJson (g : Gateway) : Json := .object (Json.sortMembers g.members)

def isCount (tag : Tag) : Bool := tag = .count ∨ tag = .gatewayCount

def toJson (r : Response) : Json :=
  match r.body with
  | .operation _ _ result =>
    if isCount r.header.tag ∧ 0 ≤ result then Json.ofInt result.toInt else codeJson result
  | .identity i =>
    if r.header.code = ResultCode.ok.toInt32 then identityJson i else codeJson r.header.code
  | .gateway g =>
    if r.header.code = ResultCode.ok.toInt32 then gatewayJson g else codeJson r.header.code
  | .identityList _ items =>
    if r.header.code = ResultCode.ok.toInt32 then .array (items.map identityJson)
    else codeJson r.header.code
  | .gatewayList _ items =>
    if r.header.code = ResultCode.ok.toInt32 then .array (items.map gatewayJson)
    else codeJson r.header.code

def toJsonText (r : Response) : String := r.toJson.toText

end Response
end IdentityDirectory
