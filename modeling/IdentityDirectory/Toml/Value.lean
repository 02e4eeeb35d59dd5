/-!
TOML values. A table remembers how it came to be, because that decides who may add to it. Of a
fractional number and of a moment in time no more is kept than that they were there.
-/
namespace IdentityDirectory.Toml

inductive Scalar where
  | string (text : String)
  | integer (value : Int)
  | boolean (value : Bool)
  deriving DecidableEq, Repr

/-- How a table was made: by a header of its own, on the way to a header, on the way of a dotted key, or
by braces. -/
inductive Origin where
  | header
  | implied
  | dotted
  | braces
  deriving DecidableEq, Repr

inductive Value where
  | scalar (value : Scalar)
  | fractional
  | moment
  | array (items : List Value)
  | table (origin : Origin) (members : List (String × Value))
  | rows (tables : List (List (String × Value)))
  deriving Inhabited

abbrev Members := List (String × Value)

namespace Members

def find? (key : String) (ms : Members) : Option Value :=
  (List.find? (fun m => m.1 = key) ms).map (·.2)

def replace (key : String) (v : Value) (ms : Members) : Members :=
  ms.map fun m => if m.1 = key then (key, v) else m

def erase (key : String) (ms : Members) : Members := ms.filter fun m => m.1 ≠ key

def add (key : String) (v : Value) (ms : Members) : Members := ms ++ [(key, v)]

end Members
end IdentityDirectory.Toml
