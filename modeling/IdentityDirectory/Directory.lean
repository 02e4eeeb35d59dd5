import IdentityDirectory.Counters
import IdentityDirectory.Json.TextRequest
import IdentityDirectory.Message.Decode
import IdentityDirectory.Store.Gateways
import IdentityDirectory.Store.Identities
import IdentityDirectory.Urn.Basic
/-!
The directory: two stores behind a pair of codes. A request is answered from the stores if its header
holds both codes, and denied otherwise. A raw request that cannot be decoded gets no reply, nor does one
whose reply cannot be made to fit; a list reply is cut to what fits.
-/
namespace IdentityDirectory

structure Directory where
  identities : IdentityStore
  gateways : GatewayStore
  code : Int32
  accessCode : UInt64
  disk : Disk
  counters : Counters
  deriving Repr

namespace Directory

def count (d : Directory) (f : Counters → Counters) : Directory := { d with counters := f d.counters }

def isAuthorized (d : Directory) (h : Header) : Bool :=
  h.code = d.code && h.accessCode = d.accessCode

/-- Counts a call that a store refused or failed, unless it only found nothing. -/
def noteError (d : Directory) (cause : StoreError) : Directory :=
  if cause = .notFound then d else d.count .backendError

def replyHeader (h : Header) (code : ResultCode) : Header := { h with code := code.toInt32 }

def lookup (d : Directory) (h : Header) (key : Identity) (found : Except StoreError Identity) :
    Directory × Response :=
  match found with
  | .ok i => (d, ⟨replyHeader h .ok, .identity i⟩)
  | .error cause => (d.noteError cause, ⟨replyHeader h cause.code, .identity key⟩)

def gatewayLookup (d : Directory) (h : Header) (key : Gateway) : Directory × Response :=
  match d.gateways.get key with
  | .ok g => (d, ⟨replyHeader h .ok, .gateway g⟩)
  | .error cause => (d.noteError cause, ⟨replyHeader h cause.code, .gateway key⟩)

/-- Takes over the changed store, or keeps everything and tells why. -/
def mutation {α : Type} (d : Directory) (h : Header) (update : α → Directory)
    (outcome : Except StoreError α) : Directory × Response :=
  match outcome with
  | .ok s => (update s, Response.operation h 0 1 .ok)
  | .error cause => (d.noteError cause, Response.operation h 0 0 cause.code)

def withIdentities (d : Directory) (s : IdentityStore) : Directory := { d with identities := s }

def withGateways (d : Directory) (s : GatewayStore) : Directory := { d with gateways := s }

def listed {α : Type} (d : Directory) (h : Header) (body : List α → ResponseBody)
    (outcome : Except StoreError (List α)) : Directory × Response :=
  match outcome with
  | .ok items => (d, ⟨replyHeader h .ok, body items⟩)
  | .error cause => (d.noteError cause, ⟨replyHeader h cause.code, body []⟩)

def saved (d : Directory) (h : Header) (offset : UInt32) (size : UInt8)
    (outcome : Except StoreError Unit) : Directory × Response :=
  match outcome with
  | .ok _ => (d, Response.operation h offset size .ok)
  | .error cause => (d.noteError cause, Response.operation h offset size cause.code)

def flushIdentities (d : Directory) : Directory × Except StoreError Unit :=
  let (s, disk, outcome) := d.identities.flush d.disk
  ({ d with identities := s, disk := disk }, outcome)

def flushGateways (d : Directory) : Directory × Except StoreError Unit :=
  let (s, disk, outcome) := d.gateways.flush d.disk
  ({ d with gateways := s, disk := disk }, outcome)

/-- Answers an authorized request; none for a body in a layout that the tag does not take. -/
def execute (d : Directory) (h : Header) (body : RequestBody) : Option (Directory × Response) :=
  match h.tag, body with
  | .addrLookup, .eui e => some (d.lookup h (Identity.ofEui e) (d.identities.getByEui e))
  | .euiLookup, .addr a =>
    some (d.lookup h (Identity.ofAddr a) ((d.identities.getByAddr a).map fun device => ⟨a, device⟩))
  | .assign, .identity i => some (d.mutation h d.withIdentities (d.identities.put i))
  | .remove, .identity i => some (d.mutation h d.withIdentities (d.identities.remove i.addr))
  | .list, .operation offset size =>
    some (d.listed h (.identityList offset) (d.identities.list offset.toNat size.toNat))
  | .count, .operation offset size =>
    some (d, Response.count h offset size d.identities.size)
  | .forceSave, .operation offset size =>
    let (d, outcome) := d.flushIdentities
    some (d.saved h offset size outcome)
  | .gatewayAddrLookup, .gateway g => some (d.gatewayLookup h ⟨g.id, none⟩)
  | .gatewayIdLookup, .gateway g => some (d.gatewayLookup h ⟨⟨0⟩, g.endpoint⟩)
  | .gatewayAssign, .gateway g => some (d.mutation h d.withGateways (d.gateways.put g))
  | .gatewayRemove, .gateway g => some (d.mutation h d.withGateways (d.gateways.remove g))
  | .gatewayList, .operation offset size =>
    some (d.listed h (.gatewayList offset) (d.gateways.list offset.toNat size.toNat))
  | .gatewayCount, .operation offset size =>
    some (d, Response.count h offset size d.gateways.size)
  | .gatewayForceSave, .operation offset size =>
    let (d, outcome) := d.flushGateways
    some (d.saved h offset size outcome)
  | .close, .operation offset size => some (d, Response.operation h offset size .ok)
  | .gatewayClose, .operation offset size => some (d, Response.operation h offset size .ok)
  | _, _ => none

def handle (d : Directory) (q : Request) : Directory × Option Response :=
  let d := d.count .request
  if !d.isAuthorized q.header then (d.count .denied, some (Response.accessDenied q.header.tag))
  else match d.execute q.header q.body with
    | some (d, r) => (d, some r)
    | none => (d.count .malformed, none)

def fit (d : Directory) (capacity : Nat) (r : Response) : Directory × Option Response :=
  match r.fit capacity with
  | .whole r => (d, some r)
  | .shortened r => (d.count .listTruncated, some r)
  | .dropped => (d.count .responseDropped, none)

def respond (d : Directory) (b : Bytes) (capacity : Nat) : Directory × Option Response :=
  let d := d.count (.bytesIn (UInt64.ofNat b.length))
  match Request.decode b with
  | .error _ => (d.count .malformed, none)
  | .ok q =>
    match d.handle q with
    | (d, none) => (d, none)
    | (d, some r) => d.fit capacity r

def dispatch (d : Directory) (b : Bytes) (capacity : Nat) : Directory × Option Bytes :=
  match d.respond b capacity with
  | (d, none) => (d, none)
  | (d, some r) => (d.count (.bytesOut (UInt64.ofNat r.encode.length)), some r.encode)

def query (d : Directory) (b buffer : Bytes) : Directory × Nat × Bytes :=
  match d.respond b buffer.length with
  | (d, none) => (d, 0, buffer)
  | (d, some r) =>
    match r.encodeInto buffer with
    | .ok (written, buffer) => (d.count (.bytesOut (UInt64.ofNat written)), written, buffer)
    | .error _ => (d, 0, buffer)

def answerJson (d : Directory) (text : String) : Directory × Option String :=
  match Request.ofJsonText text with
  | .error _ => (d.count .malformed, none)
  | .ok q =>
    match d.handle q with
    | (d, none) => (d, none)
    | (d, some r) => (d, some r.toJsonText)

def answerUrn (d : Directory) (text : String) : Directory × Except Error (Option Response) :=
  match (Urn.ofText text).bind fun u => u.toRequest d.code d.accessCode with
  | .error cause => (d, .error cause)
  | .ok q =>
    let (d, r) := d.handle q
    (d, .ok r)

def describe (d : Directory) : String :=
  let identities := d.identities.name
  let gateways := d.gateways.name
  let code := d.code.toInt
  s!"Dispatcher \x7b identities: \"{identities}\", gateways: \"{gateways}\", code: {code}, .. \x7d"

end Directory
end IdentityDirectory
