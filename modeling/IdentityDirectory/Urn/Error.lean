import IdentityDirectory.Text.Number
/-!
What can be wrong with an identity URN as a whole. A fault inside one field is a field error.
-/
namespace IdentityDirectory

inductive UrnError where
  | fieldCount (found : Nat)
  | lead
  | profileId (text : String) (cause : Text.NumberError)
  | offset (text : String) (cause : Text.NumberError)
  | size (text : String) (cause : Text.NumberError)
  | checksum (field : String) (cause : Text.NumberError)
  | noCommand
  | command (letter : Char)
  deriving DecidableEq, Repr

namespace UrnError

def number (what text : String) (cause : Text.NumberError) : String :=
  let why := cause.message
  s!"{what} '{text}': {why}"

def message : UrnError → String
  | fieldCount found => s!"expected at least 5 fields, got {found}"
  | lead => "expected 'LW:D0:' prefix"
  | profileId text cause => number "profile id" text cause
  | offset text cause => number "offset" text cause
  | size text cause => number "size" text cause
  | checksum field cause => number "checksum" field cause
  | noCommand => "no command"
  | command letter => s!"command '{letter}'"

end UrnError
end IdentityDirectory
