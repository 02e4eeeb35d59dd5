import IdentityDirectory.Json.Record
import IdentityDirectory.Store.Backing
import IdentityDirectory.Store.Rows
/-!
The store of devices, in ascending order of their addresses. With a network configured, addresses
outside its range are refused; a device that joins over the air may not take a device EUI, other than
zero, that stands under another address.
-/
namespace IdentityDirectory

def Identity.key (i : Identity) : Nat := i.addr.value.toNat

structure IdentityStore where
  backing : Backing
  network : Option NetId
  rows : List Identity
  deriving Repr

namespace IdentityStore

def make (backing : Backing) (network : Option NetId) : IdentityStore := ⟨backing, network, []⟩

def name (s : IdentityStore) : String := s.backing.name

def find (s : IdentityStore) (addr : DevAddr) : Except StoreError Identity :=
  match Rows.find? Identity.key addr.value.toNat s.rows with
  | some i => .ok i
  | none => .error .notFound

def getByAddr (s : IdentityStore) (addr : DevAddr) : Except StoreError Device :=
  s.backing.answer ((s.find addr).map Identity.device)

/-- The device with the lowest address among those with a device EUI. -/
def getByEui (s : IdentityStore) (eui : Eui) : Except StoreError Identity :=
  s.backing.answer <| match s.rows.find? fun i => i.device.devEui = eui with
    | some i => .ok i
    | none => .error .notFound

def checkRange (s : IdentityStore) (addr : DevAddr) : Except StoreError Unit :=
  match s.network with
  | none => .ok ()
  | some n => if n.contains addr then .ok () else .error (.addressOutOfRange addr.toText n.toText)

def isTaken (s : IdentityStore) (i : Identity) : Bool :=
  i.device.activation = .otaa && !i.device.devEui.isZero &&
    s.rows.any fun j => j.addr ≠ i.addr && j.device.devEui = i.device.devEui

def accept (s : IdentityStore) (i : Identity) : Except StoreError Unit := do
  s.checkRange i.addr
  if s.isTaken i then throw (.duplicate i.device.devEui.toText)

def withRows (s : IdentityStore) (rows : List Identity) : IdentityStore :=
  { s with rows := rows, backing := s.backing.touch }

def put (s : IdentityStore) (i : Identity) : Except StoreError IdentityStore :=
  s.backing.answer ((s.accept i).map fun _ => s.withRows (Rows.insert Identity.key i s.rows))

def remove (s : IdentityStore) (addr : DevAddr) : Except StoreError IdentityStore :=
  s.backing.answer ((s.find addr).map fun _ =>
    s.withRows (Rows.erase Identity.key addr.value.toNat s.rows))

def list (s : IdentityStore) (offset limit : Nat) : Except StoreError (List Identity) :=
  s.backing.answer (.ok (Rows.page offset limit s.rows))

def size (s : IdentityStore) : Nat :=
  match s.backing.fault? with
  | some _ => 0
  | none => s.rows.length

/-- Replaces all rows without a look at the rules; of records with one address the last stays. -/
def load (s : IdentityStore) (items : List Identity) : IdentityStore :=
  { s with rows := Rows.ofList Identity.key items }

def fileText (rows : List Identity) : String := (Json.array (rows.map Identity.toJson)).toPrettyText

def init (s : IdentityStore) (disk : Disk) : Except StoreError IdentityStore :=
  (s.backing.init Identity.listOfJsonText? disk).map fun
    | none => s
    | some items => s.load items

def flush (s : IdentityStore) (disk : Disk) : IdentityStore × Disk × Except StoreError Unit :=
  let (backing, disk, outcome) := s.backing.flush (fileText s.rows) disk
  ({ s with backing := backing }, disk, outcome)

end IdentityStore
end IdentityDirectory
