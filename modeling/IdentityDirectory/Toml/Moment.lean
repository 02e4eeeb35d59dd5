import IdentityDirectory.Text.Basic
import IdentityDirectory.Text.Number
/-!
TOML dates and times: a date of the calendar, a time of day, or a date and a time with or without an
offset. Nothing is kept of them; the readers here give what follows.
-/
namespace IdentityDirectory.Toml

def scanCount (count low high : Nat) (s : List Char) : Option (Nat × List Char) := do
  let digits ← (s.take count).mapM (Text.digitOf 10)
  let v := digits.foldl (fun v d => 10 * v + d) 0
  if digits.length = count ∧ low ≤ v ∧ v ≤ high then some (v, s.drop count) else none

def isLeapYear (year : Nat) : Bool := year % 4 = 0 && (year % 100 ≠ 0 || year % 400 = 0)

def daysIn (year month : Nat) : Nat :=
  if month = 2 then (if isLeapYear year then 29 else 28)
  else if month ∈ [4, 6, 9, 11] then 30
  else 31

def scanDate (s : List Char) : Option (List Char) := do
  let (year, s) ← scanCount 4 0 9999 s
  let s ← Text.behind ['-'] s
  let (month, s) ← scanCount 2 1 12 s
  let s ← Text.behind ['-'] s
  let (_, s) ← scanCount 2 1 (daysIn year month) s
  return s

def skipFraction : List Char → List Char
  | '.' :: c :: s => if c.isDigit then s.dropWhile Char.isDigit else '.' :: c :: s
  | s => s

/-- A time of day; a minute may have a leap second. -/
def scanTime (s : List Char) : Option (List Char) := do
  let (_, s) ← scanCount 2 0 23 s
  let s ← Text.behind [':'] s
  let (_, s) ← scanCount 2 0 59 s
  let s ← Text.behind [':'] s
  let (_, s) ← scanCount 2 0 60 s
  return skipFraction s

def scanClock (s : List Char) : Option (List Char) := do
  let (_, s) ← scanCount 2 0 23 s
  let s ← Text.behind [':'] s
  let (_, s) ← scanCount 2 0 59 s
  return s

def skipOffset : List Char → List Char
  | c :: s =>
    if c = 'Z' ∨ c = 'z' then s
    else if c = '+' ∨ c = '-' then (scanClock s).getD (c :: s)
    else c :: s
  | [] => []

def isTimeMark (c : Char) : Bool := c = 'T' || c = 't' || c = ' '

def scanMoment (s : List Char) : Option (List Char) :=
  match scanDate s with
  | none => scanTime s
  | some [] => some []
  | some (c :: rest) =>
    match if isTimeMark c then scanTime rest else none with
    | some later => some (skipOffset later)
    | none => some (c :: rest)

end IdentityDirectory.Toml
