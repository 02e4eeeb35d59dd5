import IdentityDirectory.Directory
import IdentityDirectory.Settings.Check
/-!
A running directory: opened from settings, flushed on demand, and closed once. Opening checks the
settings and reads the store files; closing writes what has changed.
-/
namespace IdentityDirectory

structure Service where
  settings : Settings
  directory : Directory
  isClosed : Bool
  deriving Repr

namespace Service

def identityBacking (s : StorageSettings) : Backing :=
  match s.backend with
  | .memory => .memory
  | .json => .file s.identityPath false

def gatewayBacking (s : StorageSettings) : Backing :=
  match s.backend with
  | .memory => .memory
  | .json => .file s.gatewayPath false

def start (settings : Settings) (disk : Disk) (counters : Counters) : Except Error Service := do
  (settings.check disk).mapError Error.config
  let storage := settings.storage
  let identities ←
    ((IdentityStore.make (identityBacking storage) storage.netId).init disk).mapError Error.store
  let gateways ← ((GatewayStore.make (gatewayBacking storage)).init disk).mapError Error.store
  return {
    settings := settings
    directory := {
      identities := identities
      gateways := gateways
      code := settings.auth.code
      accessCode := settings.auth.accessCode
      disk := disk
      counters := counters }
    isClosed := false }

def flush (s : Service) : Service × Except Error Unit :=
  match s.directory.flushIdentities with
  | (d, .error cause) => ({ s with directory := d }, .error (.store cause))
  | (d, .ok _) =>
    let (d, outcome) := d.flushGateways
    ({ s with directory := d }, outcome.mapError Error.store)

/-- Writes both stores, whatever comes of the first. A second call does nothing. -/
def close (s : Service) : Service × Except Error Unit :=
  if s.isClosed then (s, .ok ())
  else
    let (d, first) := s.directory.flushIdentities
    let (d, second) := d.flushGateways
    let outcome := match first with
      | .error cause => .error (Error.store cause)
      | .ok _ => second.mapError Error.store
    ({ s with directory := d, isClosed := true }, outcome)

def endpoints (s : Service) : Except Error (Endpoint × Option Endpoint) := do
  if s.isClosed then throw .closed
  let binary ← s.settings.server.endpoint.mapError Error.config
  let json ← s.settings.server.jsonEndpoint.mapError Error.config
  return (binary, json)

end Service
end IdentityDirectory
