import IdentityDirectory.Text.Utf8
/-!
Lines in a stream of bytes. A line feed ends a line, and a carriage return in front of it is dropped. A
line that is too long, or no UTF-8, spoils everything from there on.
-/
namespace IdentityDirectory.Lines

def limit : Nat := 8192

def lineFeed : UInt8 := 10

def carriageReturn : UInt8 := 13

def dropReturn (b : Bytes) : Bytes := if b.getLast? = some carriageReturn then b.dropLast else b

def text? (b : Bytes) : Option String :=
  if limit < b.length then none else (Text.ofUtf8? (dropReturn b)).map String.ofList

def cut : Bytes → List Bytes × Bytes
  | [] => ([], [])
  | x :: b =>
    let (lines, rest) := cut b
    if x = lineFeed then ([] :: lines, rest)
    else match lines with
      | [] => ([], x :: rest)
      | line :: lines => ((x :: line) :: lines, rest)

def takeSound : List Bytes → List String × Bool
  | [] => ([], false)
  | b :: rest =>
    match text? b with
    | none => ([], true)
    | some t =>
      let (ts, isSpoiled) := takeSound rest
      (t :: ts, isSpoiled)

/-- The lines of a stream that has ended; its last line need not be ended by a line feed. -/
def read (b : Bytes) : List String × Bool :=
  let (lines, rest) := cut b
  takeSound (if rest = [] ∨ rest = [carriageReturn] then lines else lines ++ [rest])

end IdentityDirectory.Lines
