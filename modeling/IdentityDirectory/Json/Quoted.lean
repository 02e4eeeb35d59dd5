import IdentityDirectory.Text.Number
/-!
Quoted strings. Written, the quote, the backslash and the control characters below a blank are escaped.
Read, a string is a row of characters and of sixteen-bit units from escapes with a number; the units
stand for characters alone or as a surrogate pair.
-/
namespace IdentityDirectory.Json

inductive Piece where
  | char (c : Char)
  | unit (code : Nat)
  deriving DecidableEq, Repr

def isHigh (u : Nat) : Bool := 0xD800 ≤ u && u ≤ 0xDBFF

def isLow (u : Nat) : Bool := 0xDC00 ≤ u && u ≤ 0xDFFF

def pair (high low : Nat) : Char := Char.ofNat (0x10000 + (high - 0xD800) * 1024 + (low - 0xDC00))

/-- The text of the pieces; none if half of a pair stands alone. -/
def joinPieces : List Piece → Option (List Char)
  | [] => some []
  | .char c :: ps => (joinPieces ps).map (c :: ·)
  | .unit u :: .unit v :: ps =>
    if isHigh u then (if isLow v then (joinPieces ps).map (pair u v :: ·) else none)
    else if isLow u then none
    else (joinPieces (.unit v :: ps)).map (Char.ofNat u :: ·)
  | .unit u :: ps => if isHigh u || isLow u then none else (joinPieces ps).map (Char.ofNat u :: ·)

def unescape : Char → Option Char
  | '\x22' => some '\x22'
  | '\\' => some '\\'
  | '/' => some '/'
  | 'b' => some '\x08'
  | 'f' => some '\x0c'
  | 'n' => some '\n'
  | 'r' => some '\r'
  | 't' => some '\t'
  | _ => none

def hex4 (a b c d : Char) : Option Nat := do
  let a ← Text.digitOf 16 a
  let b ← Text.digitOf 16 b
  let c ← Text.digitOf 16 c
  let d ← Text.digitOf 16 d
  return ((a * 16 + b) * 16 + c) * 16 + d

def scanPieces : List Char → Option (List Piece × List Char)
  | [] => none
  | '\x22' :: s => some ([], s)
  | '\\' :: 'u' :: a :: b :: c :: d :: s => do
    let u ← hex4 a b c d
    let (ps, rest) ← scanPieces s
    return (.unit u :: ps, rest)
  | '\\' :: e :: s => do
    let c ← unescape e
    let (ps, rest) ← scanPieces s
    return (.char c :: ps, rest)
  | c :: s =>
    if c.toNat < 0x20 then none
    else do
      let (ps, rest) ← scanPieces s
      return (.char c :: ps, rest)

def escape (c : Char) : List Char :=
  if c = '\x22' then ['\\', '\x22']
  else if c = '\\' then ['\\', '\\']
  else if c = '\x08' then ['\\', 'b']
  else if c = '\x0c' then ['\\', 'f']
  else if c = '\n' then ['\\', 'n']
  else if c = '\r' then ['\\', 'r']
  else if c = '\t' then ['\\', 't']
  else if c.toNat < 0x20 then
    '\\' :: 'u' :: (Text.hexFixed 4 c.toNat).map Char.toLower
  else [c]

def quote (s : List Char) : List Char := '\x22' :: s.flatMap escape ++ ['\x22']

end IdentityDirectory.Json
