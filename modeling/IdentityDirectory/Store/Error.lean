import IdentityDirectory.Message.ResultCode
/-!
Why a store refused or failed a call, and the result code that tells a requester so.
-/
namespace IdentityDirectory

inductive StoreError where
  | notFound
  | duplicate (key : String)
  | addressOutOfRange (addr network : String)
  | unavailable (reason : String)
  | io
  | serialization
  deriving DecidableEq, Repr

namespace StoreError

def code : StoreError → ResultCode
  | notFound => .notFound
  | duplicate _ => .duplicate
  | addressOutOfRange _ _ => .addressOutOfRange
  | unavailable _ => .unavailable
  | io => .storageError
  | serialization => .storageError

def message : StoreError → String
  | notFound => "Record not found"
  | duplicate key => s!"Duplicate key: {key}"
  | addressOutOfRange addr network => s!"Address {addr} is outside the range of network {network}"
  | unavailable reason => s!"Storage unavailable: {reason}"
  | io => "Storage I/O error"
  | serialization => "Storage serialization error"

end StoreError
end IdentityDirectory
