import IdentityDirectory.Toml.Document
import IdentityDirectory.Toml.Moment
import IdentityDirectory.Toml.Number
import IdentityDirectory.Toml.Quoted
/-!
Reading TOML text. A line break is a line feed with or without a carriage return in front of it, and a
carriage return stands nowhere else. The fuel bounds the number of nested calls and never runs out,
because each pair of calls takes a character.
-/
namespace IdentityDirectory.Toml

def unifyBreaks : List Char → List Char
  | '\r' :: '\n' :: s => '\n' :: unifyBreaks s
  | c :: s => c :: unifyBreaks s
  | [] => []

def skip (s : List Char) : List Char := s.dropWhile isSpace

def skipLines : Bool → List Char → List Char
  | _, [] => []
  | false, c :: s =>
    if isSpace c || c = '\n' then skipLines false s
    else if c = '#' then skipLines true s
    else c :: s
  | true, c :: s =>
    if c = '\n' then skipLines false s
    else if isPlain c then skipLines true s
    else c :: s

def endLine (s : List Char) : Option (List Char) :=
  let rest := match skip s with
    | '#' :: s => s.dropWhile isPlain
    | s => s
  match rest with
  | [] => some []
  | '\n' :: s => some s
  | _ => none

def isBare (c : Char) : Bool := c.isAlphanum || c = '-' || c = '_'

def scanPart : List Char → Option (String × List Char)
  | '\x22' :: s => (scanBasic s).map fun r => (String.ofList r.1, r.2)
  | '\x27' :: s => (scanLiteral s).map fun r => (String.ofList r.1, r.2)
  | s =>
    let (name, rest) := s.span isBare
    if name.isEmpty then none else some (String.ofList name, rest)

def scanParts : Nat → List Char → Option (List String × List Char)
  | 0, _ => none
  | count + 1, s => do
    let (part, s) ← scanPart (skip s)
    match skip s with
    | '.' :: s => (scanParts count s).map fun r => (part :: r.1, r.2)
    | s => return ([part], s)

/-- Keys have fewer parts than this, and values are nested less deep. -/
def nestingLimit : Nat := 80

def scanKey (s : List Char) : Option (List String × String × List Char) := do
  let (parts, rest) ← scanParts (nestingLimit - 1) s
  let key ← parts.getLast?
  return (parts.dropLast, key, rest)

def scanWord (s : List Char) : Option (Value × List Char) :=
  match Text.behind "true".toList s with
  | some rest => some (.scalar (.boolean true), rest)
  | none => (Text.behind "false".toList s).map fun rest => (.scalar (.boolean false), rest)

def scanNumber (s : List Char) : Option (Value × List Char) :=
  match scanFractional s with
  | some rest => some (.fractional, rest)
  | none => (scanInteger s).map fun r => (.scalar (.integer r.1), r.2)

def scanScalar (s : List Char) : Option (Value × List Char) :=
  match scanString s with
  | some r => some (.scalar (.string (String.ofList r.1)), r.2)
  | none =>
    match scanMoment s with
    | some rest => some (.moment, rest)
    | none => (scanNumber s).or (scanWord s)

mutual
def readValue : Nat → Nat → List Char → Option (Value × List Char)
  | 0, _, _ => none
  | _ + 1, 0, '[' :: _ => none
  | _ + 1, 0, '{' :: _ => none
  | fuel + 1, depth + 1, '[' :: s =>
    match skipLines false s with
    | ']' :: rest => some (.array [], rest)
    | s => (readItems fuel depth s).map fun r => (.array r.1, r.2)
  | fuel + 1, depth + 1, '{' :: s =>
    match skip s with
    | '}' :: rest => some (.table .braces [], rest)
    | s =>
      match readPairs fuel depth s with
      | none => none
      | some (pairs, rest) => (ofPairs? pairs).map fun ms => (.table .braces ms, rest)
  | _ + 1, _, s => scanScalar s

/-- The items up to the closing bracket; a comma may stand behind the last one. -/
def readItems : Nat → Nat → List Char → Option (List Value × List Char)
  | 0, _, _ => none
  | fuel + 1, depth, s =>
    match readValue fuel depth s with
    | none => none
    | some (v, s) =>
      match skipLines false s with
      | ']' :: rest => some ([v], rest)
      | ',' :: s =>
        match skipLines false s with
        | ']' :: rest => some ([v], rest)
        | s => (readItems fuel depth s).map fun r => (v :: r.1, r.2)
      | _ => none

def readPairs : Nat → Nat → List Char → Option (List (List String × String × Value) × List Char)
  | 0, _, _ => none
  | fuel + 1, depth, s =>
    match scanKey s with
    | some (path, key, '=' :: s) =>
      match readValue fuel depth (skip s) with
      | none => none
      | some (v, s) =>
        match skip s with
        | '}' :: rest => some ([(path, key, v)], rest)
        | ',' :: s => (readPairs fuel depth s).map fun r => ((path, key, v) :: r.1, r.2)
        | _ => none
    | _ => none
end

def readStatement : List Char → Option (Statement × List Char)
  | '[' :: '[' :: s => do
    let (path, key, s) ← scanKey s
    let rest ← Text.behind [']', ']'] s
    return (.rowHeader path key, rest)
  | '[' :: s => do
    let (path, key, s) ← scanKey s
    let rest ← Text.behind [']'] s
    return (.header path key, rest)
  | s => do
    let (path, key, s) ← scanKey s
    let s ← Text.behind ['='] s
    let (v, rest) ← readValue (2 * s.length + 2) (nestingLimit - 1) (skip s)
    return (.pair path key v, rest)

def readStatements : Nat → List Char → Option (List Statement)
  | 0, _ => none
  | fuel + 1, s =>
    if s.isEmpty then some []
    else match endLine s with
      | some rest => readStatements fuel rest
      | none => do
        let (statement, s) ← readStatement (skip s)
        let rest ← endLine s
        return statement :: (← readStatements fuel rest)

def dropMark : List Char → List Char
  | '\ufeff' :: s => s
  | s => s

def ofText? (text : String) : Option Members := do
  let s := unifyBreaks (dropMark text.toList)
  ofStatements? (← readStatements (s.length + 1) s)

end IdentityDirectory.Toml
