import IdentityDirectory.Settings.Basic
/-!
Settings from variables of the environment. Each variable that is set replaces one setting; the first
one in the order here that cannot be read decides the error.
-/
namespace IdentityDirectory.Settings

def variableLead : String := "LORAWAN_STORAGE_"

def variableNames : List String :=
  ["ADDRESS", "MODE", "JSON_ADDRESS", "RESPONSE_CAPACITY", "CODE", "ACCESS_CODE", "BACKEND", "DB",
   "GATEWAY_DB", "NET_ID", "LOG_LEVEL"].map fun name => variableLead ++ name

def withVariable {α : Type} (env : String → Option String) (name : String)
    (read : String → Except Error α) (put : α → Settings) (s : Settings) : Except Error Settings :=
  match env (variableLead ++ name) with
  | none => .ok s
  | some text => (read text).map put

def readConfig {α : Type} (read : String → Except ConfigError α) (text : String) : Except Error α :=
  (read text).mapError Error.config

def readCapacity (text : String) : Except ConfigError UInt64 :=
  ((Text.readUnsigned 10 0xFFFFFFFFFFFFFFFF text.toList).map UInt64.ofNat).mapError .capacityVariable

def readCode (text : String) : Except ConfigError Int32 :=
  ((Text.readSigned 10 0x80000000 0x7FFFFFFF text.toList).map Int32.ofInt).mapError .codeVariable

def readLevel (text : String) : Except ConfigError LogLevel :=
  match LogLevel.ofText? text with
  | some l => .ok l
  | none => .error (.logLevel text)

def withEnvironment (env : String → Option String) (s : Settings) : Except Error Settings := do
  let s ← withVariable env "ADDRESS" .ok (fun v => { s with server.address := v }) s
  let s ← withVariable env "MODE" (readConfig ListenerMode.ofText)
    (fun v => { s with server.mode := v }) s
  let s ← withVariable env "JSON_ADDRESS" .ok (fun v => { s with server.jsonAddress := some v }) s
  let s ← withVariable env "RESPONSE_CAPACITY" (readConfig readCapacity)
    (fun v => { s with server.responseCapacity := v }) s
  let s ← withVariable env "CODE" (readConfig readCode) (fun v => { s with auth.code := v }) s
  let s ← withVariable env "ACCESS_CODE" (readConfig AccessCode.ofText)
    (fun v => { s with auth.accessCode := v }) s
  let s ← withVariable env "BACKEND" (readConfig BackendKind.ofText)
    (fun v => { s with storage.backend := v }) s
  let s ← withVariable env "DB" .ok (fun v => { s with storage.identityPath := v }) s
  let s ← withVariable env "GATEWAY_DB" .ok (fun v => { s with storage.gatewayPath := v }) s
  let s ← withVariable env "NET_ID" (fun text => (NetId.ofText text).mapError Error.field)
    (fun v => { s with storage.netId := some v }) s
  withVariable env "LOG_LEVEL" (readConfig readLevel) (fun v => { s with logging.level := v }) s

end IdentityDirectory.Settings
