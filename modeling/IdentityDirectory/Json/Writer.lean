import IdentityDirectory.Json.Quoted
import IdentityDirectory.Json.Value
/-!
Writing JSON text, on one line without blanks or indented by two blanks a level.
-/
namespace IdentityDirectory.Json

def nullText : List Char := "null".toList

def boolText (b : Bool) : List Char := if b then "true".toList else "false".toList

mutual
def compact : Json → List Char
  | null => nullText
  | bool b => boolText b
  | number l => l
  | string t => quote t.toList
  | broken => nullText
  | array items => '[' :: compactItems items ++ [']']
  | object members => '{' :: compactMembers members ++ ['}']

def compactItems : List Json → List Char
  | [] => []
  | [v] => compact v
  | v :: w :: vs => compact v ++ ',' :: compactItems (w :: vs)

def compactMembers : List (String × Json) → List Char
  | [] => []
  | [m] => quote m.1.toList ++ ':' :: compact m.2
  | m :: n :: ms => quote m.1.toList ++ ':' :: compact m.2 ++ ',' :: compactMembers (n :: ms)
end

def newLine (level : Nat) : List Char := '\n' :: List.replicate (2 * level) ' '

mutual
def pretty (level : Nat) : Json → List Char
  | null => nullText
  | bool b => boolText b
  | number l => l
  | string t => quote t.toList
  | broken => nullText
  | array [] => ['[', ']']
  | array (v :: vs) => '[' :: prettyItems (level + 1) (v :: vs) ++ newLine level ++ [']']
  | object [] => ['{', '}']
  | object (m :: ms) => '{' :: prettyMembers (level + 1) (m :: ms) ++ newLine level ++ ['}']

def prettyItems (level : Nat) : List Json → List Char
  | [] => []
  | [v] => newLine level ++ pretty level v
  | v :: w :: vs => newLine level ++ pretty level v ++ ',' :: prettyItems level (w :: vs)

def prettyMembers (level : Nat) : List (String × Json) → List Char
  | [] => []
  | [m] => newLine level ++ quote m.1.toList ++ ':' :: ' ' :: pretty level m.2
  | m :: n :: ms =>
    newLine level ++ quote m.1.toList ++ ':' :: ' ' :: pretty level m.2
      ++ ',' :: prettyMembers level (n :: ms)
end

def toText (v : Json) : String := String.ofList (compact v)

def toPrettyText (v : Json) : String := String.ofList (pretty 0 v)

def ofInt (v : Int) : Json := number (toString v).toList

def insertMember (m : String × Json) : List (String × Json) → List (String × Json)
  | [] => [m]
  | n :: ms => if m.1 < n.1 then m :: n :: ms else n :: insertMember m ms

def sortMembers : List (String × Json) → List (String × Json)
  | [] => []
  | m :: ms => insertMember m (sortMembers ms)

end IdentityDirectory.Json
