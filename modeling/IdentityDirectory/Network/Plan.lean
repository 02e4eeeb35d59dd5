/-!
The address plan of a network: for each of the eight network types, how the 24 bits of a network
identifier and the 32 bits of a device address are divided.

  identifier  [type 3][reserved][id]
  address     [type ones and a zero][NwkID][NwkAddr]
-/
namespace IdentityDirectory.Network

structure Widths where
  nwkId : Nat
  nwkAddr : Nat
  identifier : Nat
  deriving DecidableEq, Repr

def widths : Nat → Widths
  | 0 => ⟨6, 25, 6⟩
  | 1 => ⟨6, 24, 6⟩
  | 2 => ⟨9, 20, 9⟩
  | 3 => ⟨11, 17, 21⟩
  | 4 => ⟨12, 15, 21⟩
  | 5 => ⟨13, 13, 21⟩
  | 6 => ⟨15, 10, 21⟩
  | _ => ⟨17, 7, 21⟩

/-- The address whose first kind bits are ones and whose other bits are zeros. -/
def lead (kind : Nat) : Nat := 0x100000000 - 1 <<< (32 - kind)

def kindOf (address : Nat) : Option Nat := (List.range 8).find? fun kind => address < lead (kind + 1)

def compose (kind nwkId nwkAddr : Nat) : Nat :=
  lead kind + nwkId <<< (widths kind).nwkAddr + nwkAddr

theorem widths_fill (kind : Nat) (h : kind ≤ 7) :
    kind + 1 + (widths kind).nwkId + (widths kind).nwkAddr = 32 := by
  match kind, h with
  | 0, _ | 1, _ | 2, _ | 3, _ | 4, _ | 5, _ | 6, _ | 7, _ => rfl

end IdentityDirectory.Network
