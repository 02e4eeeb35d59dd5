import IdentityDirectory.Bytes
import IdentityDirectory.Network.DevAddr
/-!
Network identifiers: 24 bits, three of them the network type. Each network owns one range of device
addresses.
-/
namespace IdentityDirectory

structure NetId where
  value : UInt24
  deriving DecidableEq, Repr, Inhabited

namespace NetId
open Network

def ofNat (v : Nat) : NetId := ⟨UInt24.ofNat v⟩

def make (kind id : Nat) : Except FieldError NetId :=
  if 7 < kind then .error (.networkType kind)
  else if 1 <<< (widths kind).identifier ≤ id then
    .error (.identifierWidth id (widths kind).identifier kind)
  else .ok (ofNat (kind <<< 21 + id))

theorem value_ofNat {kind id : Nat} (known : kind ≤ 7) (fits : id < 0x200000) :
    (ofNat (kind <<< 21 + id)).value.val = kind * 0x200000 + id := by
  have shifted : kind <<< 21 = kind * 0x200000 := Nat.shiftLeft_eq kind 21
  rw [← shifted]
  refine Nat.mod_eq_of_lt ?_
  omega

def kind (n : NetId) : Nat := n.value.val >>> 21

def id (n : NetId) : Nat := n.value.val % 1 <<< (widths n.kind).identifier

def reservedBits (n : NetId) : Nat := 21 - (widths n.kind).identifier

def nwkId (n : NetId) : Nat := n.value.val % 1 <<< (widths n.kind).nwkId

def toBytes (n : NetId) : Bytes := Bytes.bigEndian 3 n.value

def ofBytes (b : Bytes) : NetId := ofNat b.toNat

def minAddr (n : NetId) : DevAddr := ⟨UInt32.ofNat (compose n.kind n.nwkId 0)⟩

def maxAddr (n : NetId) : DevAddr :=
  ⟨UInt32.ofNat (compose n.kind n.nwkId (1 <<< (widths n.kind).nwkAddr - 1))⟩

def contains (n : NetId) (a : DevAddr) : Bool := a.kind = some n.kind ∧ a.nwkId = some n.nwkId

def toText (n : NetId) : String := String.ofList (Text.hexFixed 6 n.value)

def halves (s : List Char) : Option (List Char × List Char) :=
  match s.dropWhile (· ≠ ':') with
  | [] => none
  | _ :: rest => some (s.takeWhile (· ≠ ':'), rest)

/-- Takes a plain hexadecimal number, or the type and the id around a colon. -/
def ofText (text : String) : Except FieldError NetId :=
  match halves text.toList with
  | none => (HexField.netId.read text).map ofNat
  | some (kind, id) => do
    let kind ← HexField.netIdType.read (String.ofList kind)
    let id ← HexField.netId.read (String.ofList id)
    make kind id

end NetId
end IdentityDirectory
