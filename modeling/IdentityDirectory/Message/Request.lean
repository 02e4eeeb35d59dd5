import IdentityDirectory.Message.Header
import IdentityDirectory.Message.Record
/-!
Requests: a header and a body in one of five layouts, with the bytes they are sent as.
-/
namespace IdentityDirectory

inductive RequestBody where
  | eui (eui : Eui)
  | addr (addr : DevAddr)
  | identity (identity : Identity)
  | operation (offset : UInt32) (size : UInt8)
  | gateway (gateway : Gateway)
  deriving DecidableEq, Repr

namespace RequestBody

def layout : RequestBody → Tag.Layout
  | eui _ => .eui
  | addr _ => .addr
  | identity _ => .identity
  | operation _ _ => .operation
  | gateway _ => .gateway

def encode : RequestBody → Bytes
  | eui e => Bytes.bigEndian 8 e.value.toNat
  | addr a => Bytes.bigEndian 4 a.value.toNat
  | identity i => i.encode
  | operation offset size => Bytes.bigEndian 4 offset.toNat ++ [size]
  | gateway g => g.encode

end RequestBody

def Tag.Layout.size : Tag.Layout → Nat
  | .eui => 8
  | .addr => 4
  | .identity => Identity.size
  | .operation => 5
  | .gateway => Gateway.size

/-- The shortest request with a tag. A removal needs its address alone, padded to the size of an EUI. -/
def Tag.minRequestSize : Tag → Nat
  | .remove => Header.size + Layout.size .eui
  | t => Header.size + t.layout.size

structure Request where
  header : Header
  body : RequestBody
  deriving DecidableEq, Repr

namespace Request

def addrLookup (code : Int32) (accessCode : UInt64) (eui : Eui) : Request :=
  ⟨⟨.addrLookup, code, accessCode⟩, .eui eui⟩

def euiLookup (code : Int32) (accessCode : UInt64) (addr : DevAddr) : Request :=
  ⟨⟨.euiLookup, code, accessCode⟩, .addr addr⟩

def assign (code : Int32) (accessCode : UInt64) (identity : Identity) : Request :=
  ⟨⟨.assign, code, accessCode⟩, .identity identity⟩

def remove (code : Int32) (accessCode : UInt64) (addr : DevAddr) : Request :=
  ⟨⟨.remove, code, accessCode⟩, .identity (Identity.ofAddr addr)⟩

def operation (tag : Tag) (code : Int32) (accessCode : UInt64) (offset : UInt32) (size : UInt8) :
    Request :=
  ⟨⟨tag, code, accessCode⟩, .operation offset size⟩

def list (code : Int32) (accessCode : UInt64) (offset : UInt32) (size : UInt8) : Request :=
  operation .list code accessCode offset size

def gateway (tag : Tag) (code : Int32) (accessCode : UInt64) (gateway : Gateway) : Request :=
  ⟨⟨tag, code, accessCode⟩, .gateway gateway⟩

def IsProper (q : Request) : Prop := q.body.layout = q.header.tag.layout

instance (q : Request) : Decidable q.IsProper := inferInstanceAs (Decidable (_ = _))

def encodedSize (q : Request) : Nat := Header.size + q.body.layout.size

def encode (q : Request) : Bytes := q.header.encode ++ q.body.encode

/-- A removal sent with its address but not with a full record. -/
def isShortRemove (b : Bytes) : Bool :=
  b.head? = some Tag.remove.toByte ∧ Tag.remove.minRequestSize ≤ b.length ∧
    b.length < Tag.assign.minRequestSize

end Request
end IdentityDirectory
