import IdentityDirectory.Message.Header
import IdentityDirectory.Message.Record
import IdentityDirectory.Message.ResultCode
/-!
Responses: a header and a body, with the bytes they are sent as. A list carries the number of its
records twice, once capped to a byte.
-/
namespace IdentityDirectory

inductive ResponseBody where
  | identity (identity : Identity)
  | gateway (gateway : Gateway)
  | operation (offset : UInt32) (size : UInt8) (result : Int32)
  | identityList (offset : UInt32) (items : List Identity)
  | gatewayList (offset : UInt32) (items : List Gateway)
  deriving DecidableEq, Repr

structure Response where
  header : Header
  body : ResponseBody
  deriving DecidableEq, Repr

namespace Response

def operationSize : Nat := Header.size + 9

def operation (header : Header) (offset : UInt32) (size : UInt8) (result : ResultCode) : Response :=
  ⟨header, .operation offset size result.toInt32⟩

/-- A count travels as the result, capped to what a signed number holds; the header says OK. -/
def count (header : Header) (offset : UInt32) (size : UInt8) (count : Nat) : Response :=
  ⟨{ header with code := ResultCode.ok.toInt32 },
    .operation offset size (Int32.ofNat (min count 0x7FFFFFFF))⟩

def accessDenied (tag : Tag) : Response :=
  operation ⟨tag, ResultCode.accessDenied.toInt32, 0⟩ 0 0 .accessDenied

def result (r : Response) : Int32 :=
  match r.body with
  | .operation _ _ result => result
  | _ => r.header.code

def encodedSize (r : Response) : Nat :=
  match r.body with
  | .identity _ => Header.size + Identity.size
  | .gateway _ => Header.size + Gateway.size
  | .operation _ _ _ => operationSize
  | .identityList _ items => operationSize + items.length * Identity.size
  | .gatewayList _ items => operationSize + items.length * Gateway.size

def encodeListHead (offset : UInt32) (count : Nat) : Bytes :=
  Bytes.bigEndian 4 offset.toNat ++ [UInt8.ofNat (min count 255)] ++ Bytes.bigEndian 4 count

def encodeBody : ResponseBody → Bytes
  | .identity i => i.encode
  | .gateway g => g.encode
  | .operation offset size result =>
    Bytes.bigEndian 4 offset.toNat ++ [size] ++ Bytes.bigEndian 4 result.toUInt32.toNat
  | .identityList offset items =>
    encodeListHead offset items.length ++ items.flatMap Identity.encode
  | .gatewayList offset items =>
    encodeListHead offset items.length ++ items.flatMap Gateway.encode

def encode (r : Response) : Bytes := r.header.encode ++ encodeBody r.body

end Response

inductive Fitted where
  | whole (response : Response)
  | shortened (response : Response)
  | dropped
  deriving DecidableEq, Repr

def Fitted.response? : Fitted → Option Response
  | whole r => some r
  | shortened r => some r
  | dropped => none

namespace Response

def recordRoom (capacity width : Nat) : Option Nat :=
  if capacity < operationSize then none else some ((capacity - operationSize) / width)

/-- Drops records from the end of a list until it fits; any other response fits whole or not at all. -/
def fit (capacity : Nat) (r : Response) : Fitted :=
  if r.encodedSize ≤ capacity then .whole r
  else match r.body with
    | .identityList offset items =>
      match recordRoom capacity Identity.size with
      | some keep => .shortened ⟨r.header, .identityList offset (items.take keep)⟩
      | none => .dropped
    | .gatewayList offset items =>
      match recordRoom capacity Gateway.size with
      | some keep => .shortened ⟨r.header, .gatewayList offset (items.take keep)⟩
      | none => .dropped
    | _ => .dropped

end Response
end IdentityDirectory
