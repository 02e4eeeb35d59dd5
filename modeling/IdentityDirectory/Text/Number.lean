/-!
Numbers in text. A reader takes one leading plus sign, a signed one a minus sign as well; the first
fault from the left decides which error is given. Hexadecimal is written with capital letters.
-/
namespace IdentityDirectory.Text

inductive NumberError where
  | empty
  | invalidDigit
  | tooLarge
  | tooSmall
  deriving DecidableEq, Repr

def NumberError.message : NumberError → String
  | .empty => "cannot parse integer from empty string"
  | .invalidDigit => "invalid digit found in string"
  | .tooLarge => "number too large to fit in target type"
  | .tooSmall => "number too small to fit in target type"

def digitValue (c : Char) : Option Nat :=
  if '0' ≤ c ∧ c ≤ '9' then some (c.toNat - 48)
  else if 'a' ≤ c ∧ c ≤ 'z' then some (c.toNat - 87)
  else if 'A' ≤ c ∧ c ≤ 'Z' then some (c.toNat - 55)
  else none

def digitOf (radix : Nat) (c : Char) : Option Nat := (digitValue c).filter (· < radix)

def readDigits (radix limit : Nat) (excess : NumberError) : Nat → List Char → Except NumberError Nat
  | v, [] => .ok v
  | v, c :: s =>
    match digitOf radix c with
    | none => .error .invalidDigit
    | some d =>
      if v * radix + d ≤ limit then readDigits radix limit excess (v * radix + d) s
      else .error excess

def readUnsigned (radix limit : Nat) : List Char → Except NumberError Nat
  | [] => .error .empty
  | ['+'] => .error .invalidDigit
  | '+' :: s => readDigits radix limit .tooLarge 0 s
  | s => readDigits radix limit .tooLarge 0 s

def readSigned (radix low high : Nat) : List Char → Except NumberError Int
  | ['-'] => .error .invalidDigit
  | '-' :: s => (readDigits radix low .tooSmall 0 s).map fun v => -(v : Int)
  | s => (readUnsigned radix high s).map Int.ofNat

def hexDigit (v : Nat) : Char := Char.ofNat (if v < 10 then 48 + v else 55 + v)

def hexFixed : Nat → Nat → List Char
  | 0, _ => []
  | width + 1, v => hexDigit ((v >>> (4 * width)) % 16) :: hexFixed width v

/-- As many hexadecimal digits as v needs, at least one. -/
def hexShort (v : Nat) : List Char := hexFixed (v.log2 / 4 + 1) v

def decimal (v : Nat) : List Char := Nat.toDigits 10 v

/-- The least number that rounds beyond the doubles: 54 ones and 970 zeros. -/
def doubleBound : Nat := 0x3FFFFFFFFFFFFF <<< 970

end IdentityDirectory.Text
