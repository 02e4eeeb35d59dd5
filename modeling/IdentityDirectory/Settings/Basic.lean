import IdentityDirectory.Error
import IdentityDirectory.Network.NetId
import IdentityDirectory.Settings.Choice
/-!
The settings of a service: where it listens, the codes it asks for, where it keeps its records, and what
it logs. A setting that is not given has the value that stands with it here.
-/
namespace IdentityDirectory

structure Duration where
  seconds : UInt64
  nanos : Fin 1000000000
  deriving DecidableEq, Repr

namespace Duration

def ofMillis (v : UInt64) : Duration := ⟨v / 1000, Fin.ofNat _ (v.toNat % 1000 * 1000000)⟩

def millis (d : Duration) : Nat := 1000 * d.seconds.toNat + d.nanos.val / 1000000

end Duration

structure ServerSettings where
  address : String := "0.0.0.0:4244"
  mode : ListenerMode := .eventLoop
  tcpEnabled : Bool := true
  jsonAddress : Option String := none
  responseCapacity : UInt64 := 4096
  pollInterval : Duration := .ofMillis 200
  deriving DecidableEq, Repr

structure AuthSettings where
  code : Int32 := 42
  accessCode : UInt64 := 42
  deriving DecidableEq, Repr

structure StorageSettings where
  backend : BackendKind := .memory
  identityPath : String := "identity.json"
  gatewayPath : String := "gateway.json"
  netId : Option NetId := none
  deriving DecidableEq, Repr

structure LoggingSettings where
  appName : String := "lorawan-storage"
  level : LogLevel := .info
  toConsole : Bool := true
  toFile : Bool := false
  filePath : Option String := none
  jsonFormat : Bool := false
  deriving DecidableEq, Repr

structure Settings where
  server : ServerSettings := {}
  auth : AuthSettings := {}
  storage : StorageSettings := {}
  logging : LoggingSettings := {}
  deriving DecidableEq, Repr

instance : Inhabited Settings := ⟨{}⟩

namespace ServerSettings

/-- The poll interval as it is written: the last 64 bits of its milliseconds. -/
def pollMillis (s : ServerSettings) : UInt64 := UInt64.ofNat s.pollInterval.millis

def endpoint (s : ServerSettings) : Except ConfigError Endpoint :=
  match Endpoint.ofText? s.address with
  | some e => .ok e
  | none => .error (.serverAddress s.address)

def jsonEndpoint (s : ServerSettings) : Except ConfigError (Option Endpoint) :=
  match s.jsonAddress with
  | none => .ok none
  | some text =>
    match Endpoint.ofText? text with
    | some e => .ok (some e)
    | none => .error (.jsonAddress text)

end ServerSettings
end IdentityDirectory
