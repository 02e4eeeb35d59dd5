import IdentityDirectory.Text.Basic
import IdentityDirectory.Text.Number
/-!
TOML numbers: whole ones within 64 bits, in four radixes, and fractional ones, of which only the form
and the finite size are looked at. A low line may stand between two digits.
-/
namespace IdentityDirectory.Toml

def isDigit (radix : Nat) (c : Char) : Bool := (Text.digitOf radix c).isSome

/-- The digits that follow a digit, without the low lines; a low line that no digit follows is an
error. -/
def moreDigits (radix : Nat) : List Char → Option (List Char × List Char)
  | [] => some ([], [])
  | c :: s =>
    if isDigit radix c then (moreDigits radix s).map fun r => (c :: r.1, r.2)
    else if c = '_' then (if (s.head?.map (isDigit radix)).getD false then moreDigits radix s else none)
    else some ([], c :: s)

def someDigits (radix : Nat) : List Char → Option (List Char × List Char)
  | [] => none
  | c :: s =>
    if isDigit radix c then (moreDigits radix s).map fun r => (c :: r.1, r.2) else none

def natOf (radix : Nat) (ds : List Char) : Nat :=
  ds.foldl (fun v c => radix * v + (Text.digitOf radix c).getD 0) 0

def scanSign : List Char → Bool × List Char
  | '-' :: s => (true, s)
  | '+' :: s => (false, s)
  | s => (false, s)

def scanWhole : List Char → Option (List Char × List Char)
  | '0' :: s => some (['0'], s)
  | s => someDigits 10 s

def isInRange (v : Int) : Bool := -0x8000000000000000 ≤ v && v ≤ 0x7FFFFFFFFFFFFFFF

def ranged (v : Int) (rest : List Char) : Option (Int × List Char) :=
  if isInRange v then some (v, rest) else none

def scanMarked (radix : Nat) (s : List Char) : Option (Int × List Char) := do
  let (ds, rest) ← someDigits radix s
  ranged (natOf radix ds) rest

def scanDecimal (s : List Char) : Option (Int × List Char) := do
  let (isNegative, s) := scanSign s
  let (ds, rest) ← scanWhole s
  let v := natOf 10 ds
  ranged (if isNegative then -(v : Int) else v) rest

def scanInteger : List Char → Option (Int × List Char)
  | '0' :: 'x' :: s => scanMarked 16 s
  | '0' :: 'o' :: s => scanMarked 8 s
  | '0' :: 'b' :: s => scanMarked 2 s
  | s => scanDecimal s

/-- Whether digits times a power of ten are beyond the doubles. -/
def isTooLarge (ds : List Char) (exponent : Int) : Bool :=
  let v := natOf 10 ds
  let size : Int := (Text.decimal v).length + exponent
  if v = 0 ∨ size < 300 then false
  else if 320 < size then true
  else if 0 ≤ exponent then Text.doubleBound ≤ v * Nat.pow 10 exponent.toNat
  else Text.doubleBound * Nat.pow 10 (-exponent).toNat ≤ v

def scanExponent : List Char → Option (Option Int × List Char)
  | c :: s =>
    if c = 'e' ∨ c = 'E' then do
      let (isNegative, s) := scanSign s
      let (ds, rest) ← someDigits 10 s
      let v := natOf 10 ds
      return (some (if isNegative then -(v : Int) else v), rest)
    else some (none, c :: s)
  | [] => some (none, [])

def scanFraction : List Char → Option (Option (List Char) × List Char)
  | '.' :: s => (someDigits 10 s).map fun r => (some r.1, r.2)
  | s => some (none, s)

def scanSpecial (s : List Char) : Option (List Char) :=
  (Text.behind "inf".toList s).or (Text.behind "nan".toList s)

def scanFractional (s : List Char) : Option (List Char) :=
  let (isNegative, s) := scanSign s
  match scanSpecial s with
  | some rest => some rest
  | none => do
    let (whole, s) ← scanWhole s
    let (fraction, s) ← scanFraction s
    let (exponent, rest) ← scanExponent s
    let ds := fraction.getD []
    if fraction.isNone ∧ exponent.isNone then none
    else if !isNegative ∧ isTooLarge (whole ++ ds) (exponent.getD 0 - ds.length) then none
    else some rest

end IdentityDirectory.Toml
