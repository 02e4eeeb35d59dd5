import IdentityDirectory.Network.Endpoint
import IdentityDirectory.Record.Field
/-!
A gateway: its identifier and the socket address it was last seen at.
-/
namespace IdentityDirectory

structure Gateway where
  id : Eui
  endpoint : Option Endpoint
  deriving DecidableEq, Repr, Inhabited

end IdentityDirectory
