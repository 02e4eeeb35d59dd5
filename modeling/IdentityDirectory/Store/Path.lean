import IdentityDirectory.Text.Basic
import IdentityDirectory.Text.Utf8
/-!
Paths as text: which texts are paths, the folder a path lies in, and when two paths have the same parts.
-/
namespace IdentityDirectory.Path

def isAbsolute (path : List Char) : Bool := path.head? = some '/'

/-- Paths have at least one byte and fewer than 4096, none of them NUL. No other text leads anywhere. -/
def isPath (path : List Char) : Bool :=
  !path.isEmpty && !path.contains (Char.ofNat 0) && Text.utf8Size path < 4096

def isName (part : String) : Bool := Text.utf8Size part.toList ≤ 255

def isIdle (part : List Char) : Bool := part = [] ∨ part = ['.']

/-- What a path starts with, and its parts behind that: the root, a dot, or nothing. -/
def split (path : List Char) : List (List Char) × List (List Char) :=
  match Text.splitOn '/' path with
  | [[]] => ([], [])
  | [] :: parts => ([[]], parts)
  | ['.'] :: parts => ([['.']], parts)
  | parts => ([], parts)

def parent? (path : String) : Option String :=
  let (start, parts) := split path.toList
  match parts.reverse.dropWhile isIdle with
  | [] => if start = [['.']] then some "" else none
  | _ :: rest =>
    let kept := start ++ (rest.dropWhile isIdle).reverse
    some (String.ofList (if kept = [[]] then ['/'] else Text.join ['/'] kept))

def folder? (path : String) : Option String := (parent? path).filter (· ≠ "")

def leads (path : String) : List String :=
  let parts := Text.splitOn '/' path.toList
  (List.range parts.length).map fun n => String.ofList (Text.join ['/'] (parts.take (n + 1)))

def parts (path : String) : List (List Char) × List (List Char) :=
  let (start, parts) := split path.toList
  (start, parts.filter fun p => !isIdle p)

def IsSame (p q : String) : Prop := parts p = parts q

instance (p q : String) : Decidable (IsSame p q) := inferInstanceAs (Decidable (_ = _))

end IdentityDirectory.Path
