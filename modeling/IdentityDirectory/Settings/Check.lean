import IdentityDirectory.Settings.Basic
import IdentityDirectory.Store.Disk
/-!
What a service asks of its settings. All violations are collected, in the order of the settings; the
folders that files are to be put into have to exist.
-/
namespace IdentityDirectory

def Violation.when (condition : Bool) (v : Violation) : List Violation := if condition then [v] else []

namespace ServerSettings
open Violation

def addressViolations (s : ServerSettings) : List Violation :=
  if s.address.isEmpty then [addressEmpty]
  else when (Endpoint.ofText? s.address).isNone (addressFormat s.address)

/-- The JSON listener may have the address of the binary listeners if these do not take connections. -/
def jsonViolations (s : ServerSettings) : List Violation :=
  match s.jsonAddress with
  | none => []
  | some text =>
    match Endpoint.ofText? text with
    | none => [jsonAddressFormat text]
    | some e => when (s.tcpEnabled && some e = Endpoint.ofText? s.address) sharedAddress

def capacityViolations (s : ServerSettings) : List Violation :=
  let capacity := s.responseCapacity.toNat
  if capacity < 22 then [capacityTooSmall capacity]
  else when (65507 < capacity) (capacityTooLarge capacity)

/-- The lower bound counts milliseconds, the upper one whole seconds. -/
def pollViolations (s : ServerSettings) : List Violation :=
  if s.pollInterval.millis < 10 then [pollTooShort]
  else when (10 < s.pollInterval.seconds) pollTooLong

def violations (s : ServerSettings) : List Violation :=
  s.addressViolations ++ s.jsonViolations ++ s.capacityViolations ++ s.pollViolations

end ServerSettings

namespace StorageSettings
open Violation

def pathViolations (disk : Disk) (file : StoreFile) (path : String) : List Violation :=
  if path.isEmpty then [pathEmpty file]
  else match Path.folder? path with
    | none => []
    | some folder => when (!disk.has folder) (storeFolderMissing folder)

def violations (disk : Disk) (s : StorageSettings) : List Violation :=
  match s.backend with
  | .memory => []
  | .json =>
    pathViolations disk .identity s.identityPath ++ pathViolations disk .gateway s.gatewayPath
      ++ when (Path.IsSame s.identityPath s.gatewayPath) samePath

end StorageSettings

namespace LoggingSettings
open Violation

def nameViolations (s : LoggingSettings) : List Violation :=
  let size := Text.utf8Size s.appName.toList
  if size = 0 then [appNameEmpty] else when (64 < size) (appNameTooLong size)

def fileViolations (disk : Disk) (s : LoggingSettings) : List Violation :=
  if !s.toFile then []
  else match s.filePath with
    | none => [logPathMissing]
    | some path =>
      match Path.folder? path with
      | none => []
      | some folder => when (!disk.has folder) (logFolderMissing folder)

def violations (disk : Disk) (s : LoggingSettings) : List Violation :=
  s.nameViolations ++ s.fileViolations disk ++ when (!s.toConsole && !s.toFile) noOutput

end LoggingSettings

namespace Settings

def violations (disk : Disk) (s : Settings) : List Violation :=
  s.server.violations ++ s.storage.violations disk ++ s.logging.violations disk

def check (disk : Disk) (s : Settings) : Except ConfigError Unit :=
  match s.violations disk with
  | [] => .ok ()
  | vs => .error (.invalid vs)

end Settings
end IdentityDirectory
