import IdentityDirectory.Json.Number
import IdentityDirectory.Json.Quoted
import IdentityDirectory.Json.Value
import IdentityDirectory.Text.Basic
/-!
Reading JSON text: one value with nothing but blanks around it. The fuel bounds the number of nested
calls and never runs out, because each pair of calls takes a character.
-/
namespace IdentityDirectory.Json

def isBlank (c : Char) : Bool := c = ' ' || c = '\t' || c = '\n' || c = '\r'

def skip (s : List Char) : List Char := s.dropWhile isBlank

def readWord (s : List Char) : Option (Json × List Char) :=
  match Text.behind "null".toList s with
  | some rest => some (null, rest)
  | none =>
    match Text.behind "true".toList s with
    | some rest => some (bool true, rest)
    | none => (Text.behind "false".toList s).map fun rest => (bool false, rest)

def readScalar (s : List Char) : Option (Json × List Char) :=
  match s with
  | '\x22' :: s => do
    let (ps, rest) ← scanPieces s
    match joinPieces ps with
    | some t => return (string (String.ofList t), rest)
    | none => return (broken, rest)
  | s =>
    match Literal.scan s with
    | some (l, rest) => some (number l.text, rest)
    | none => readWord s

/-- The key of a member, none inside for a broken one. -/
def readKey (s : List Char) : Option (Option String × List Char) :=
  match readScalar (skip s) with
  | some (string key, rest) => some (some key, rest)
  | some (broken, rest) => some (none, rest)
  | _ => none

def ofMembers (ms : List (Option String × Json)) : Json :=
  match ms.mapM fun m => m.1.map fun key => (key, m.2) with
  | some ms => object ms
  | none => broken

mutual
def readValue : Nat → List Char → Option (Json × List Char)
  | 0, _ => none
  | fuel + 1, s =>
    match skip s with
    | '[' :: s =>
      match skip s with
      | ']' :: rest => some (array [], rest)
      | s => (readItems fuel s).map fun r => (array r.1, r.2)
    | '{' :: s =>
      match skip s with
      | '}' :: rest => some (object [], rest)
      | s => (readMembers fuel s).map fun r => (ofMembers r.1, r.2)
    | s => readScalar s

def readItems : Nat → List Char → Option (List Json × List Char)
  | 0, _ => none
  | fuel + 1, s =>
    match readValue fuel s with
    | none => none
    | some (v, s) =>
      match skip s with
      | ',' :: s => (readItems fuel s).map fun r => (v :: r.1, r.2)
      | ']' :: rest => some ([v], rest)
      | _ => none

def readMembers : Nat → List Char → Option (List (Option String × Json) × List Char)
  | 0, _ => none
  | fuel + 1, s =>
    match readKey s with
    | none => none
    | some (key, s) =>
      match skip s with
      | ':' :: s =>
        match readValue fuel s with
        | none => none
        | some (v, s) =>
          match skip s with
          | ',' :: s => (readMembers fuel s).map fun r => ((key, v) :: r.1, r.2)
          | '}' :: rest => some ([(key, v)], rest)
          | _ => none
      | _ => none
end

def ofText? (text : String) : Option Json :=
  let s := text.toList
  match readValue (2 * s.length + 2) s with
  | some (v, rest) => if (skip rest).isEmpty then some v else none
  | none => none

/-- Arrays and objects may be nested this deep in a value that is taken as a whole. -/
def maxDepth : Nat := 127

def isSoundScalar : Json → Bool
  | broken => false
  | number s =>
    match Literal.scan s with
    | some (l, _) => !l.isTooLarge
    | none => false
  | _ => true

def isSound (v : Json) : Bool := v.all isSoundScalar && v.depth ≤ maxDepth

def int? : Json → Option Int
  | number s => (Literal.scan s).bind fun r => r.1.int?
  | _ => none

end IdentityDirectory.Json
