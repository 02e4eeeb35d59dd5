/-!
JSON values. A number keeps the characters it was written with. A token that has the right form but
stands for nothing, half of a surrogate pair or an object with such a key, is kept as broken: whoever
skips a value may skip that too, whoever takes a value must refuse it.
-/
namespace IdentityDirectory

inductive Json where
  | null
  | bool (value : Bool)
  | number (literal : List Char)
  | string (text : String)
  | broken
  | array (items : List Json)
  | object (members : List (String × Json))
  deriving Inhabited

namespace Json

/-! How deep arrays and objects are nested, the outermost one counted. -/

mutual
def depth : Json → Nat
  | array items => 1 + depthItems items
  | object members => 1 + depthMembers members
  | null => 0
  | bool _ => 0
  | number _ => 0
  | string _ => 0
  | broken => 0

def depthItems : List Json → Nat
  | [] => 0
  | v :: vs => max (depth v) (depthItems vs)

def depthMembers : List (String × Json) → Nat
  | [] => 0
  | m :: ms => max (depth m.2) (depthMembers ms)
end

/-! Whether every part of a value, numbers apart, stands for something. -/

mutual
def all (p : Json → Bool) : Json → Bool
  | array items => allItems p items
  | object members => allMembers p members
  | null => p null
  | bool b => p (bool b)
  | number l => p (number l)
  | string t => p (string t)
  | broken => p broken

def allItems (p : Json → Bool) : List Json → Bool
  | [] => true
  | v :: vs => all p v && allItems p vs

def allMembers (p : Json → Bool) : List (String × Json) → Bool
  | [] => true
  | m :: ms => all p m.2 && allMembers p ms
end

end Json
end IdentityDirectory
