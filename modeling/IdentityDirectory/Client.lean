import IdentityDirectory.Directory
/-!
The calls of a client: each is one request and a reading of the reply. A reply with another tag answers
nothing, and one with a result other than OK is a rejection. A count travels as the result itself.
-/
namespace IdentityDirectory

structure Client where
  code : Int32
  accessCode : UInt64
  deriving DecidableEq, Repr

/-- A request to send, and what to make of the response. -/
structure Call (α : Type) where
  request : Request
  read : Response → Except Error α

namespace Call

def receive {α : Type} (c : Call α) (reply : Option Bytes) : Except Error α :=
  match reply with
  | none => .error .timeout
  | some b => do
    let r ← Response.decode b
    if r.header.tag ≠ c.request.header.tag then
      throw (.mismatch (.tag c.request.header.tag r.header.tag))
    c.read r

/-- A call on a directory that is one lossless exchange away. -/
def run {α : Type} (c : Call α) (d : Directory) (capacity : Nat) : Directory × Except Error α :=
  let (d, reply) := d.dispatch c.request.encode capacity
  (d, c.receive reply)

end Call

def accepted {α : Type} (read : ResponseBody → Except Error α) (r : Response) : Except Error α :=
  if r.result = ResultCode.ok.toInt32 then read r.body else .error (.rejected r.result)

def unexpected {α : Type} (body : ResponseBody) : Except Error α := .error (.mismatch (.body body))

def wantIdentity : ResponseBody → Except Error Identity
  | .identity i => .ok i
  | body => unexpected body

def wantGateway : ResponseBody → Except Error Gateway
  | .gateway g => .ok g
  | body => unexpected body

def wantIdentities : ResponseBody → Except Error (List Identity)
  | .identityList _ items => .ok items
  | body => unexpected body

def wantGateways : ResponseBody → Except Error (List Gateway)
  | .gatewayList _ items => .ok items
  | body => unexpected body

def wantNothing (_ : ResponseBody) : Except Error Unit := .ok ()

/-- A count that is not negative; a refusal shows in the header. -/
def wantCount (r : Response) : Except Error Nat :=
  if r.header.code = ResultCode.accessDenied.toInt32 then .error (.rejected r.header.code)
  else match r.body with
    | .operation _ _ result =>
      if 0 ≤ result then .ok result.toInt.toNat else .error (.rejected result)
    | body => unexpected body

namespace Client

def request (q : Request) : Call Response := ⟨q, .ok⟩

def getByEui (c : Client) (eui : Eui) : Call Identity :=
  ⟨Request.addrLookup c.code c.accessCode eui, accepted wantIdentity⟩

def getByAddr (c : Client) (addr : DevAddr) : Call Identity :=
  ⟨Request.euiLookup c.code c.accessCode addr, accepted wantIdentity⟩

def assign (c : Client) (i : Identity) : Call Unit :=
  ⟨Request.assign c.code c.accessCode i, accepted wantNothing⟩

def remove (c : Client) (addr : DevAddr) : Call Unit :=
  ⟨Request.remove c.code c.accessCode addr, accepted wantNothing⟩

def list (c : Client) (offset : UInt32) (size : UInt8) : Call (List Identity) :=
  ⟨Request.list c.code c.accessCode offset size, accepted wantIdentities⟩

def count (c : Client) : Call Nat :=
  ⟨Request.operation .count c.code c.accessCode 0 0, wantCount⟩

def forceSave (c : Client) : Call Unit :=
  ⟨Request.operation .forceSave c.code c.accessCode 0 0, accepted wantNothing⟩

def gatewayAddr (c : Client) (id : Eui) : Call Gateway :=
  ⟨Request.gateway .gatewayAddrLookup c.code c.accessCode ⟨id, none⟩, accepted wantGateway⟩

def gatewayId (c : Client) (endpoint : Endpoint) : Call Gateway :=
  ⟨Request.gateway .gatewayIdLookup c.code c.accessCode ⟨⟨0⟩, some endpoint⟩, accepted wantGateway⟩

def assignGateway (c : Client) (g : Gateway) : Call Unit :=
  ⟨Request.gateway .gatewayAssign c.code c.accessCode g, accepted wantNothing⟩

def removeGateway (c : Client) (g : Gateway) : Call Unit :=
  ⟨Request.gateway .gatewayRemove c.code c.accessCode g, accepted wantNothing⟩

def listGateways (c : Client) (offset : UInt32) (size : UInt8) : Call (List Gateway) :=
  ⟨Request.operation .gatewayList c.code c.accessCode offset size, accepted wantGateways⟩

def countGateways (c : Client) : Call Nat :=
  ⟨Request.operation .gatewayCount c.code c.accessCode 0 0, wantCount⟩

end Client
end IdentityDirectory
