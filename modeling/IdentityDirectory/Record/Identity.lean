import IdentityDirectory.Network.NetId
import IdentityDirectory.Record.Field
/-!
A device as the directory knows it: its keys and parameters, and the address it goes by.
-/
namespace IdentityDirectory

structure Device where
  activation : Activation
  deviceClass : DeviceClass
  devEui : Eui
  nwkSKey : Key
  appSKey : Key
  version : Version
  appEui : Eui
  appKey : Key
  nwkKey : Key
  devNonce : DevNonce
  joinNonce : JoinNonce
  name : DeviceName
  deriving DecidableEq, Repr, Inhabited

structure Identity where
  addr : DevAddr
  device : Device
  deriving DecidableEq, Repr, Inhabited

namespace Identity

def ofAddr (a : DevAddr) : Identity := ⟨a, default⟩

def ofEui (e : Eui) : Identity := ⟨default, { (default : Device) with devEui := e }⟩

end Identity
end IdentityDirectory
