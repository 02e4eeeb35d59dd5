import IdentityDirectory.Text.Basic
import IdentityDirectory.Text.Number
import IdentityDirectory.Text.Utf8
/-!
Byte strings in hexadecimal, two digits a byte. The reader works on the bytes of the text, and asks
for an even number of them before it looks at any.
-/
namespace IdentityDirectory.Text

inductive HexError where
  | oddLength
  | badDigit (byte : UInt8) (position : Nat)
  deriving DecidableEq, Repr

/-- Format and blank characters of the first 256 that are shown by their number. -/
def isHidden (c : Char) : Bool :=
  c.toNat < 0x20 || (0x7F ≤ c.toNat && c.toNat ≤ 0xA0) || c.toNat == 0xAD

def quoted (c : Char) : List Char :=
  let q := '\x27'
  let inner : List Char :=
    if c.toNat = 0 then ['\\', '0']
    else if c = '\t' then ['\\', 't']
    else if c = '\n' then ['\\', 'n']
    else if c = '\r' then ['\\', 'r']
    else if c = q ∨ c = '\\' then ['\\', c]
    else if isHidden c then ['\\', 'u', '{'] ++ lower (hexShort c.toNat) ++ ['}']
    else [c]
  q :: inner ++ [q]

def HexError.message : HexError → String
  | .oddLength => "Odd number of digits"
  | .badDigit byte position =>
    let c := String.ofList (quoted (Char.ofNat byte.toNat))
    s!"Invalid character {c} at position {position}"

def hexOfBytes (b : Bytes) : List Char := b.flatMap fun x => hexFixed 2 x.toNat

def nibble (b : UInt8) (position : Nat) : Except HexError Nat :=
  match digitOf 16 (Char.ofNat b.toNat) with
  | some d => .ok d
  | none => .error (.badDigit b position)

def readPairs (position : Nat) : Bytes → Except HexError Bytes
  | [] => .ok []
  | [_] => .error .oddLength
  | x :: y :: b => do
    let high ← nibble x position
    let low ← nibble y (position + 1)
    let rest ← readPairs (position + 2) b
    return UInt8.ofNat (16 * high + low) :: rest

def bytesOfHex (s : List Char) : Except HexError Bytes :=
  let b := utf8 s
  if b.length % 2 = 1 then .error .oddLength else readPairs 0 b

end IdentityDirectory.Text
