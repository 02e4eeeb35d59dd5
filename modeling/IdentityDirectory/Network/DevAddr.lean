import IdentityDirectory.FieldError
import IdentityDirectory.Network.Plan
/-!
Device addresses: 32 bits that carry the network type as leading ones, then the network's part and
the device's part.
-/
namespace IdentityDirectory

structure DevAddr where
  value : UInt32
  deriving DecidableEq, Repr, Inhabited

namespace DevAddr
open Network

def make (kind nwkId nwkAddr : Nat) : Except FieldError DevAddr :=
  if 7 < kind then .error (.networkType kind)
  else if 1 <<< (widths kind).nwkId ≤ nwkId ∨ 1 <<< (widths kind).nwkAddr ≤ nwkAddr then
    .error (.addressWidth nwkId nwkAddr kind)
  else .ok ⟨UInt32.ofNat (compose kind nwkId nwkAddr)⟩

/-- The network type; addresses with eight leading ones or more have none. -/
def kind (a : DevAddr) : Option Nat := kindOf a.value.toNat

def nwkId (a : DevAddr) : Option Nat :=
  a.kind.map fun t => (a.value.toNat >>> (widths t).nwkAddr) % 1 <<< (widths t).nwkId

def nwkAddr (a : DevAddr) : Option Nat :=
  a.kind.map fun t => a.value.toNat % 1 <<< (widths t).nwkAddr

def isZero (a : DevAddr) : Bool := a.value = 0

def toText (a : DevAddr) : String := String.ofList (Text.hexFixed 8 a.value.toNat)

def ofText (text : String) : Except FieldError DevAddr :=
  (HexField.deviceAddress.read text).map fun v => ⟨UInt32.ofNat v⟩

end DevAddr
end IdentityDirectory
