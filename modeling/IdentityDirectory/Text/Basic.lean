/-!
Texts as lists of characters: letter case, leads, words in front, and cutting at a separator.
-/
namespace IdentityDirectory.Text

def upper (s : List Char) : List Char := s.map Char.toUpper

def lower (s : List Char) : List Char := s.map Char.toLower

def dropLead (a b : Char) : List Char → List Char
  | x :: y :: s => if x = a ∧ y = b then dropLead a b s else x :: y :: s
  | s => s

/-- The pieces between the separators, one more than there are separators. -/
def splitOn (sep : Char) : List Char → List (List Char)
  | [] => [[]]
  | c :: s =>
    if c = sep then [] :: splitOn sep s
    else match splitOn sep s with
      | [] => [[c]]
      | piece :: rest => (c :: piece) :: rest

def join (sep : List Char) : List (List Char) → List Char
  | [] => []
  | [piece] => piece
  | piece :: rest => piece ++ sep ++ join sep rest

def behind : List Char → List Char → Option (List Char)
  | [], s => some s
  | _ :: _, [] => none
  | w :: ws, c :: s => if w = c then behind ws s else none

end IdentityDirectory.Text
