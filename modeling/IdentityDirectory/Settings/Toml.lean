import IdentityDirectory.Settings.Basic
import IdentityDirectory.Toml.Reader
import IdentityDirectory.Toml.Writer
/-!
Settings as TOML. Sections and settings that are not there keep their standard values, unknown ones are
skipped. A section may also be an array of its settings in order, or a moment, which sets none; a choice
may also be a table with the chosen name for its one key and nothing under it.
-/
namespace IdentityDirectory
open Toml

namespace Settings

def readOr {α : Type} (ms : Members) (key : String) (read : Value → Option α) (standard : α) :
    Option α :=
  match ms.find? key with
  | none => some standard
  | some v => read v

def asText : Value → Option String
  | .scalar (.string t) => some t
  | _ => none

def asFlag : Value → Option Bool
  | .scalar (.boolean b) => some b
  | _ => none

def asInt (low high : Int) : Value → Option Int
  | .scalar (.integer v) => if low ≤ v ∧ v ≤ high then some v else none
  | _ => none

def asCount (v : Value) : Option UInt64 :=
  (asInt 0 0xFFFFFFFFFFFFFFFF v).map fun n => UInt64.ofNat n.toNat

def isHollow : Value → Bool
  | .array items => items.isEmpty
  | .table _ ms => ms.isEmpty
  | .rows tables => tables.isEmpty
  | _ => false

def asChoice : Value → Option String
  | .scalar (.string t) => some t
  | .table _ [(name, v)] => if isHollow v then some name else none
  | _ => none

def sectionMembers (names : List String) : Value → Option Members
  | .table _ ms => some ms
  | .array items => some (names.zip items)
  | .rows tables => some (names.zip (tables.map (Value.table .header)))
  | .moment => some []
  | _ => none

def serverNames : List String :=
  ["address", "mode", "tcp_enabled", "json_address", "response_capacity", "poll_interval"]

def readServer (v : Value) : Option ServerSettings := do
  let standard : ServerSettings := {}
  let ms ← sectionMembers serverNames v
  return {
    address := ← readOr ms "address" asText standard.address
    mode := ← readOr ms "mode" (fun v => (asChoice v).bind ListenerMode.ofName?) standard.mode
    tcpEnabled := ← readOr ms "tcp_enabled" asFlag standard.tcpEnabled
    jsonAddress := ← readOr ms "json_address" (fun v => (asText v).map some) standard.jsonAddress
    responseCapacity := ← readOr ms "response_capacity" asCount standard.responseCapacity
    pollInterval :=
      ← readOr ms "poll_interval" (fun v => (asCount v).map Duration.ofMillis) standard.pollInterval }

def asAccessCode (v : Value) : Option UInt64 :=
  (asText v).bind fun t => (AccessCode.ofText t).toOption

def readAuth (v : Value) : Option AuthSettings := do
  let standard : AuthSettings := {}
  let ms ← sectionMembers ["code", "access_code"] v
  return {
    code := ← readOr ms "code" (fun v => (asInt (-0x80000000) 0x7FFFFFFF v).map Int32.ofInt) standard.code
    accessCode := ← readOr ms "access_code" asAccessCode standard.accessCode }

def asNetId (v : Value) : Option NetId := (asText v).bind fun t => (NetId.ofText t).toOption

def readStorage (v : Value) : Option StorageSettings := do
  let standard : StorageSettings := {}
  let ms ← sectionMembers ["backend", "identity_path", "gateway_path", "net_id"] v
  return {
    backend := ← readOr ms "backend" (fun v => (asChoice v).bind BackendKind.ofName?) standard.backend
    identityPath := ← readOr ms "identity_path" asText standard.identityPath
    gatewayPath := ← readOr ms "gateway_path" asText standard.gatewayPath
    netId := ← readOr ms "net_id" (fun v => (asNetId v).map some) standard.netId }

def loggingNames : List String :=
  ["app_name", "log_level", "log_to_console", "log_to_file", "log_file_path", "json_format"]

def readLogging (v : Value) : Option LoggingSettings := do
  let standard : LoggingSettings := {}
  let ms ← sectionMembers loggingNames v
  return {
    appName := ← readOr ms "app_name" asText standard.appName
    level := ← readOr ms "log_level" (fun v => (asText v).bind LogLevel.ofText?) standard.level
    toConsole := ← readOr ms "log_to_console" asFlag standard.toConsole
    toFile := ← readOr ms "log_to_file" asFlag standard.toFile
    filePath := ← readOr ms "log_file_path" (fun v => (asText v).map some) standard.filePath
    jsonFormat := ← readOr ms "json_format" asFlag standard.jsonFormat }

def ofMembers? (ms : Members) : Option Settings := do
  return {
    server := ← readOr ms "server" readServer {}
    auth := ← readOr ms "auth" readAuth {}
    storage := ← readOr ms "storage" readStorage {}
    logging := ← readOr ms "logging" readLogging {} }

def ofToml (text : String) : Except ConfigError Settings :=
  match (Toml.ofText? text).bind ofMembers? with
  | some s => .ok s
  | none => .error .parse

def optional {α : Type} (key : String) (f : α → Scalar) : Option α → List (String × Scalar)
  | none => []
  | some v => [(key, f v)]

def serverSection (s : ServerSettings) : Section where
  name := "server"
  pairs :=
    [("address", .string s.address), ("mode", .string s.mode.name),
     ("tcp_enabled", .boolean s.tcpEnabled)]
      ++ optional "json_address" .string s.jsonAddress
      ++ [("response_capacity", .integer s.responseCapacity.toNat),
          ("poll_interval", .integer s.pollMillis.toNat)]

def authSection (s : AuthSettings) : Section where
  name := "auth"
  pairs := [("code", .integer s.code.toInt), ("access_code", .string (AccessCode.toText s.accessCode))]

def storageSection (s : StorageSettings) : Section where
  name := "storage"
  pairs :=
    [("backend", .string s.backend.name), ("identity_path", .string s.identityPath),
     ("gateway_path", .string s.gatewayPath)]
      ++ optional "net_id" (fun n => .string n.toText) s.netId

def loggingSection (s : LoggingSettings) : Section where
  name := "logging"
  pairs :=
    [("app_name", .string s.appName), ("log_level", .string s.level.name),
     ("log_to_console", .boolean s.toConsole), ("log_to_file", .boolean s.toFile)]
      ++ optional "log_file_path" .string s.filePath
      ++ [("json_format", .boolean s.jsonFormat)]

def sections (s : Settings) : List Section :=
  [serverSection s.server, authSection s.auth, storageSection s.storage, loggingSection s.logging]

/-- The text, unless a number is too large for it. -/
def toToml? (s : Settings) : Option String := toText? s.sections

end Settings
end IdentityDirectory
