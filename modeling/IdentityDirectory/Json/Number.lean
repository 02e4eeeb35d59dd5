import IdentityDirectory.Text.Number
/-!
Number literals: their form, the whole numbers among them, and the ones too large for a double. A
literal is read as the product of its first digits, as many as 64 bits hold, and a power of ten, each
rounded to the nearest double; it is too large when the product is.
-/
namespace IdentityDirectory.Json

structure Literal where
  isNegative : Bool
  whole : List Char
  fraction : Option (List Char)
  exponent : Option (List Char × List Char)
  deriving DecidableEq, Repr

namespace Literal

def text (l : Literal) : List Char :=
  (if l.isNegative then ['-'] else []) ++ l.whole
    ++ (match l.fraction with
      | none => []
      | some ds => '.' :: ds)
    ++ (match l.exponent with
      | none => []
      | some (mark, ds) => mark ++ ds)

def scanWhole : List Char → Option (List Char × List Char)
  | '0' :: s => some (['0'], s)
  | s => let (ds, rest) := s.span Char.isDigit
    if ds.isEmpty then none else some (ds, rest)

def scanFraction : List Char → Option (Option (List Char) × List Char)
  | '.' :: s => let (ds, rest) := s.span Char.isDigit
    if ds.isEmpty then none else some (some ds, rest)
  | s => some (none, s)

def scanSign : List Char → List Char × List Char
  | '+' :: s => (['+'], s)
  | '-' :: s => (['-'], s)
  | s => ([], s)

def scanExponent : List Char → Option (Option (List Char × List Char) × List Char)
  | e :: s =>
    if e = 'e' ∨ e = 'E' then
      let (sign, s) := scanSign s
      let (ds, rest) := s.span Char.isDigit
      if ds.isEmpty then none else some (some (e :: sign, ds), rest)
    else some (none, e :: s)
  | [] => some (none, [])

def scan (s : List Char) : Option (Literal × List Char) := do
  let (isNegative, s) := match s with
    | '-' :: s => (true, s)
    | s => (false, s)
  let (whole, s) ← scanWhole s
  let (fraction, s) ← scanFraction s
  let (exponent, s) ← scanExponent s
  return (⟨isNegative, whole, fraction, exponent⟩, s)

def digit (c : Char) : Nat := c.toNat - 48

def natOf (ds : List Char) : Nat := ds.foldl (fun v c => 10 * v + digit c) 0

def int? (l : Literal) : Option Int :=
  match l.fraction, l.exponent with
  | none, none =>
    let v := natOf l.whole
    if l.isNegative then (if v = 0 then none else some (-(v : Int))) else some v
  | _, _ => none

/-- Adds digits while 64 bits hold the number, and counts the digits from the first that they do not. -/
def significand : Nat → Nat → List Char → Nat × Nat
  | v, left, [] => (v, left)
  | v, left, c :: ds =>
    if left = 0 ∧ 10 * v + digit c ≤ 0xFFFFFFFFFFFFFFFF then significand (10 * v + digit c) 0 ds
    else significand v (left + 1) ds

/-- The nearest number with 53 significant bits, the even one of two. -/
def roundTo53 (v : Nat) : Nat :=
  let shift := v.log2 - 52
  let unit := 1 <<< shift
  let low := v / unit
  let rest := v % unit
  if 2 * rest < unit ∨ (2 * rest = unit ∧ low % 2 = 0) then low * unit else (low + 1) * unit

def scale (l : Literal) : Nat × Int :=
  let (v, left) := significand 0 0 l.whole
  let ds := l.fraction.getD []
  let (w, unused) := significand v 0 ds
  let written : Int := match l.exponent with
    | none => 0
    | some (mark, es) => if mark.contains '-' then -(natOf es : Int) else natOf es
  (w, written + left - (ds.length - unused))

def isTooLarge (l : Literal) : Bool :=
  let (v, e) := l.scale
  if v = 0 ∨ e < 0 then false
  else if 308 < e then true
  else Text.doubleBound ≤ roundTo53 v * roundTo53 (Nat.pow 10 e.toNat)

end Literal
end IdentityDirectory.Json
