import IdentityDirectory.Toml.Value
/-!
What the statements of a TOML document make. A key is defined once; a table has one header at most, and
none if a dotted key or braces made it; a dotted key goes through tables of dotted keys alone.
-/
namespace IdentityDirectory.Toml

inductive Statement where
  | pair (path : List String) (key : String) (value : Value)
  | header (path : List String) (key : String)
  | rowHeader (path : List String) (key : String)

namespace Members

/-- Puts a value under a key behind a path of keys. A table that a path ends at has to be open: it is
the one the statement stands in, or made by a dotted key. -/
def define (key : String) (v : Value) (isOpen : Bool) : List String → Members → Option Members
  | [], ms => if isOpen && (find? key ms).isNone then some (add key v ms) else none
  | part :: path, ms =>
    match find? part ms with
    | none =>
      (define key v true path []).map fun inner => add part (.table .dotted inner) ms
    | some (.table .implied inner) =>
      (define key v false path inner).map fun inner =>
        replace part (.table .implied inner) ms
    | some (.table .dotted inner) =>
      (define key v true path inner).map fun inner =>
        replace part (.table .dotted inner) ms
    | some (.rows tables) =>
      match tables.getLast? with
      | none => none
      | some last =>
        (define key v false path last).map fun last =>
          replace part (.rows (tables.dropLast ++ [last])) ms
    | some _ => none

def within (change : Members → Option Members) : List String → Members → Option Members
  | [], ms => change ms
  | part :: path, ms =>
    match find? part ms with
    | none => (within change path []).map fun inner => add part (.table .implied inner) ms
    | some (.table .braces _) => none
    | some (.table origin inner) =>
      (within change path inner).map fun inner => replace part (.table origin inner) ms
    | some (.rows tables) =>
      match tables.getLast? with
      | none => none
      | some last =>
        (within change path last).map fun last =>
          replace part (.rows (tables.dropLast ++ [last])) ms
    | some _ => none

def openTable (key : String) (ms : Members) : Option Members :=
  match find? key ms with
  | none => some (add key (.table .header []) ms)
  | some (.table .implied inner) => some (add key (.table .header inner) (erase key ms))
  | some _ => none

def openRow (key : String) (ms : Members) : Option Members :=
  match find? key ms with
  | none => some (add key (.rows [[]]) ms)
  | some (.rows tables) => some (replace key (.rows (tables ++ [[]])) ms)
  | some _ => none

end Members

structure Draft where
  members : Members
  path : List String

namespace Draft

def apply (d : Draft) : Statement → Option Draft
  | .pair path key v =>
    (Members.within (Members.define key v true path) d.path d.members).map fun ms =>
      { d with members := ms }
  | .header path key =>
    (Members.within (Members.openTable key) path d.members).map fun ms => ⟨ms, path ++ [key]⟩
  | .rowHeader path key =>
    (Members.within (Members.openRow key) path d.members).map fun ms => ⟨ms, path ++ [key]⟩

def applyAll (d : Draft) : List Statement → Option Draft
  | [] => some d
  | s :: rest => (d.apply s).bind fun d => d.applyAll rest

end Draft

def ofStatements? (statements : List Statement) : Option Members :=
  (Draft.applyAll ⟨[], []⟩ statements).map Draft.members

def ofPairs? (pairs : List (List String × String × Value)) : Option Members :=
  pairs.foldlM (fun ms p => Members.define p.2.1 p.2.2 true p.1 ms) []

end IdentityDirectory.Toml
