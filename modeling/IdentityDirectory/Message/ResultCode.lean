/-!
Result codes: how a request ended, as a signed number that travels in responses.
-/
namespace IdentityDirectory

inductive ResultCode where
  | ok
  | notFound
  | duplicate
  | unavailable
  | accessDenied
  | addressOutOfRange
  | storageError
  deriving DecidableEq, Repr

namespace ResultCode

def toInt32 : ResultCode → Int32
  | ok => 0
  | notFound => -2
  | duplicate => -3
  | unavailable => -4
  | accessDenied => -5
  | addressOutOfRange => -6
  | storageError => -7

def all : List ResultCode :=
  [ok, notFound, duplicate, unavailable, accessDenied, addressOutOfRange, storageError]

def ofInt32? (v : Int32) : Option ResultCode := all.find? fun c => c.toInt32 = v

def isOk (c : ResultCode) : Bool := c = ok

end ResultCode
end IdentityDirectory
