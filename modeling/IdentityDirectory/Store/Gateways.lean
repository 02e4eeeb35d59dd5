import IdentityDirectory.Json.Record
import IdentityDirectory.Store.Backing
import IdentityDirectory.Store.Rows
/-!
The store of gateways, in ascending order of their identifiers. A key names a gateway by its identifier
if that is not zero, and else by its socket address, which the gateway with the lowest identifier
answers to.
-/
namespace IdentityDirectory

def Gateway.key (g : Gateway) : Nat := g.id.value.toNat

structure GatewayStore where
  backing : Backing
  rows : List Gateway
  deriving Repr

namespace GatewayStore

def make (backing : Backing) : GatewayStore := ⟨backing, []⟩

def name (s : GatewayStore) : String := s.backing.name

def find (s : GatewayStore) (key : Gateway) : Except StoreError Gateway :=
  let found :=
    if !key.id.isZero then Rows.find? Gateway.key key.key s.rows
    else if key.endpoint.isNone then none
    else s.rows.find? fun g => g.endpoint = key.endpoint
  match found with
  | some g => .ok g
  | none => .error .notFound

def get (s : GatewayStore) (key : Gateway) : Except StoreError Gateway :=
  s.backing.answer (s.find key)

def withRows (s : GatewayStore) (rows : List Gateway) : GatewayStore :=
  { s with rows := rows, backing := s.backing.touch }

def put (s : GatewayStore) (g : Gateway) : Except StoreError GatewayStore :=
  s.backing.answer (.ok (s.withRows (Rows.insert Gateway.key g s.rows)))

def remove (s : GatewayStore) (key : Gateway) : Except StoreError GatewayStore :=
  s.backing.answer ((s.find key).map fun g => s.withRows (Rows.erase Gateway.key g.key s.rows))

def list (s : GatewayStore) (offset limit : Nat) : Except StoreError (List Gateway) :=
  s.backing.answer (.ok (Rows.page offset limit s.rows))

def size (s : GatewayStore) : Nat :=
  match s.backing.fault? with
  | some _ => 0
  | none => s.rows.length

/-- Replaces all rows; of records with one identifier the last stays. -/
def load (s : GatewayStore) (items : List Gateway) : GatewayStore :=
  { s with rows := Rows.ofList Gateway.key items }

def fileText (rows : List Gateway) : String := (Json.array (rows.map Gateway.toJson)).toPrettyText

def init (s : GatewayStore) (disk : Disk) : Except StoreError GatewayStore :=
  (s.backing.init Gateway.listOfJsonText? disk).map fun
    | none => s
    | some items => s.load items

def flush (s : GatewayStore) (disk : Disk) : GatewayStore × Disk × Except StoreError Unit :=
  let (backing, disk, outcome) := s.backing.flush (fileText s.rows) disk
  ({ s with backing := backing }, disk, outcome)

end GatewayStore
end IdentityDirectory
