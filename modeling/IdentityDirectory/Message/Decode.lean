import IdentityDirectory.Error
import IdentityDirectory.Message.Request
/-!
Reading messages. The first byte decides the shortest message that is accepted; bytes behind what a
message needs are ignored. A response tells its body by tag, length and code: a lookup reply too short
for a record, and a list reply that is nothing but the access-denied code, are operation responses.
-/
namespace IdentityDirectory

def Tag.decode (b : Bytes) : Except Error Tag :=
  match b with
  | [] => .error .emptyPacket
  | first :: _ =>
    match Tag.ofByte? first with
    | none => .error (.unknownTag first)
    | some tag => .ok tag

def Header.decode (b : Bytes) : Except Error Header := do
  let tag ← Tag.decode b
  if b.length < Header.size then .error (.truncated tag Header.size b.length)
  else .ok (Header.ofBytes tag b)

def readRecord {α : Type} (size : Nat) (decode : Bytes → Except FieldError α) (b : Bytes) :
    Except Error α :=
  if b.length < size then .error (.bufferTooSmall size b.length)
  else (decode b).mapError Error.field

def Identity.read (b : Bytes) : Except Error Identity := readRecord Identity.size Identity.decode b

def Gateway.read (b : Bytes) : Except Error Gateway := readRecord Gateway.size Gateway.decode b

namespace Request

def decodeBody (tag : Tag) (b : Bytes) : Except Error RequestBody :=
  match tag with
  | .addrLookup => .ok (.eui ⟨UInt64.ofNat (b.number 0 8)⟩)
  | .euiLookup => .ok (.addr ⟨UInt32.ofNat (b.number 0 4)⟩)
  | .assign => (Identity.read b).map .identity
  | .remove => .ok (.identity (Identity.ofAddr ⟨UInt32.ofNat (b.number 0 4)⟩))
  | .list | .count | .forceSave | .close
  | .gatewayList | .gatewayCount | .gatewayForceSave | .gatewayClose =>
    .ok (.operation (UInt32.ofNat (b.number 0 4)) (b.byte 4))
  | .gatewayAddrLookup | .gatewayIdLookup | .gatewayAssign | .gatewayRemove =>
    (Gateway.read b).map .gateway

def decode (b : Bytes) : Except Error Request := do
  let tag ← Tag.decode b
  if b.length < tag.minRequestSize then .error (.truncated tag tag.minRequestSize b.length)
  else
    let body ← decodeBody tag (b.drop Header.size)
    return ⟨Header.ofBytes tag b, body⟩

end Request

namespace Response

def readItems {α : Type} (width : Nat) (read : Bytes → Except Error α) :
    Nat → Bytes → Except Error (List α)
  | 0, _ => .ok []
  | count + 1, b => do
    let item ← read b
    let rest ← readItems width read count (b.drop width)
    return item :: rest

/-- The records behind a list head; any fault among them counts as a message that is too short. -/
def decodeItems {α : Type} (tag : Tag) (width : Nat) (read : Bytes → Except Error α) (b : Bytes) :
    Except Error (List α) :=
  let count := b.number (Header.size + 5) 4
  let needed := operationSize + count * width
  if b.length < needed then .error (.truncated tag needed b.length)
  else match readItems width read count (b.drop operationSize) with
    | .ok items => .ok items
    | .error _ => .error (.truncated tag needed b.length)

def decodeOperation (b : Bytes) : ResponseBody :=
  .operation (UInt32.ofNat (b.number Header.size 4)) (b.byte (Header.size + 4))
    (UInt32.ofNat (b.number (Header.size + 5) 4)).toInt32

def decodeBody (header : Header) (b : Bytes) : Except Error ResponseBody :=
  let offset := UInt32.ofNat (b.number Header.size 4)
  let isDenied := header.code = ResultCode.accessDenied.toInt32 ∧ b.length = operationSize
  match header.tag with
  | .addrLookup | .euiLookup =>
    if b.length < Header.size + Identity.size then .ok (decodeOperation b)
    else (Identity.read (b.drop Header.size)).map .identity
  | .gatewayAddrLookup | .gatewayIdLookup =>
    if b.length < Header.size + Gateway.size then .ok (decodeOperation b)
    else (Gateway.read (b.drop Header.size)).map .gateway
  | .list =>
    if isDenied then .ok (decodeOperation b)
    else (decodeItems header.tag Identity.size Identity.read b).map (.identityList offset)
  | .gatewayList =>
    if isDenied then .ok (decodeOperation b)
    else (decodeItems header.tag Gateway.size Gateway.read b).map (.gatewayList offset)
  | _ => .ok (decodeOperation b)

def decode (b : Bytes) : Except Error Response := do
  let tag ← Tag.decode b
  if b.length < operationSize then .error (.truncated tag operationSize b.length)
  else
    let header := Header.ofBytes tag b
    let body ← decodeBody header b
    return ⟨header, body⟩

end Response

/-- Writes bytes over the front of a buffer, if the announced size fits it. -/
def fillBuffer (size : Nat) (b buffer : Bytes) : Except Error (Nat × Bytes) :=
  if buffer.length < size then .error (.bufferTooSmall size buffer.length)
  else .ok (size, b ++ buffer.drop b.length)

def Request.encodeInto (q : Request) (buffer : Bytes) : Except Error (Nat × Bytes) :=
  fillBuffer q.encodedSize q.encode buffer

def Response.encodeInto (r : Response) (buffer : Bytes) : Except Error (Nat × Bytes) :=
  fillBuffer r.encodedSize r.encode buffer

end IdentityDirectory
