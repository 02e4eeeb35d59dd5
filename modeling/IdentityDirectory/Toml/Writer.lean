import IdentityDirectory.Text.Basic
import IdentityDirectory.Toml.Number
import IdentityDirectory.Toml.Quoted
import IdentityDirectory.Toml.Value
/-!
Writing TOML text: sections of plain pairs, a line a pair, with an empty line between the sections.
-/
namespace IdentityDirectory.Toml

structure Section where
  name : String
  pairs : List (String × Scalar)
  deriving DecidableEq, Repr

def Scalar.text? : Scalar → Option (List Char)
  | .string t => some (quote t.toList)
  | .integer v => if isInRange v then some (toString v).toList else none
  | .boolean b => some (if b then "true".toList else "false".toList)

def pairText? (p : String × Scalar) : Option (List Char) :=
  p.2.text?.map fun v => p.1.toList ++ [' ', '=', ' '] ++ v ++ ['\n']

def Section.text? (s : Section) : Option (List Char) :=
  (s.pairs.mapM pairText?).map fun lines =>
    '[' :: s.name.toList ++ [']', '\n'] ++ lines.flatten

def toText? (sections : List Section) : Option String :=
  (sections.mapM Section.text?).map fun texts => String.ofList (Text.join ['\n'] texts)

end IdentityDirectory.Toml
