import IdentityDirectory.Network.Endpoint
/-!
What can be wrong with settings: single violations that a check collects, and the errors of reading,
writing and applying them.
-/
namespace IdentityDirectory

inductive StoreFile where
  | identity
  | gateway
  deriving DecidableEq, Repr

def StoreFile.label : StoreFile → String
  | identity => "identity_path"
  | gateway => "gateway_path"

inductive Violation where
  | addressEmpty
  | addressFormat (text : String)
  | jsonAddressFormat (text : String)
  | sharedAddress
  | capacityTooSmall (capacity : Nat)
  | capacityTooLarge (capacity : Nat)
  | pollTooShort
  | pollTooLong
  | pathEmpty (file : StoreFile)
  | storeFolderMissing (folder : String)
  | samePath
  | appNameEmpty
  | appNameTooLong (bytes : Nat)
  | logFolderMissing (folder : String)
  | logPathMissing
  | noOutput
  deriving DecidableEq, Repr

def Violation.message : Violation → String
  | addressEmpty => "Server address cannot be empty"
  | addressFormat text =>
    s!"Invalid server address format: '{text}' (expected format: '0.0.0.0:4244')"
  | jsonAddressFormat text =>
    s!"Invalid JSON listener address format: '{text}' (expected format: '0.0.0.0:4246')"
  | sharedAddress => "JSON listener cannot share the binary TCP address"
  | capacityTooSmall capacity => s!"Response capacity too small: {capacity} (minimum: 22)"
  | capacityTooLarge capacity => s!"Response capacity too large: {capacity} (maximum: 65507)"
  | pollTooShort => "Poll interval too short (minimum: 10ms)"
  | pollTooLong => "Poll interval too long (maximum: 10s)"
  | pathEmpty file =>
    let name := file.label
    s!"{name} must be set for the json backend"
  | storeFolderMissing folder => s!"Storage directory does not exist: {folder}"
  | samePath => "identity_path and gateway_path must differ"
  | appNameEmpty => "Application name cannot be empty"
  | appNameTooLong bytes => s!"Application name too long: {bytes} characters (maximum: 64)"
  | logFolderMissing folder => s!"Log file directory does not exist: {folder}"
  | logPathMissing => "log_file_path must be specified when log_to_file is true"
  | noOutput => "At least one logging output (console or file) must be enabled"

inductive ConfigError where
  | parse
  | render
  | serialize
  | openFile
  | readFile
  | writeFile
  | serverAddress (text : String)
  | jsonAddress (text : String)
  | capacityVariable (cause : Text.NumberError)
  | codeVariable (cause : Text.NumberError)
  | accessCode (text : String) (cause : Text.NumberError)
  | listenerMode (text : String)
  | backend (text : String)
  | logLevel (text : String)
  | logPath
  | invalid (violations : List Violation)
  deriving DecidableEq, Repr

/-- The wording; what the file system or the TOML reader would add is left out. -/
def ConfigError.message : ConfigError → String
  | parse => "Failed to parse TOML"
  | render => "Failed to render config"
  | serialize => "Failed to serialize config"
  | openFile => "Failed to open config file"
  | readFile => "Failed to read config file"
  | writeFile => "Failed to write config file"
  | serverAddress text =>
    let why := Endpoint.syntaxMessage
    s!"Invalid server address '{text}': {why}"
  | jsonAddress text =>
    let why := Endpoint.syntaxMessage
    s!"Invalid JSON address '{text}': {why}"
  | capacityVariable cause =>
    let why := cause.message
    s!"LORAWAN_STORAGE_RESPONSE_CAPACITY: {why}"
  | codeVariable cause =>
    let why := cause.message
    s!"LORAWAN_STORAGE_CODE: {why}"
  | accessCode text cause =>
    let why := cause.message
    s!"Invalid access code '{text}': {why}"
  | listenerMode text =>
    s!"Unknown listener mode '{text}' (expected 'blocking' or 'event-loop')"
  | backend text => s!"Unknown storage backend '{text}' (expected 'memory' or 'json')"
  | logLevel text => s!"Invalid log level: {text}"
  | logPath => "log_file_path must be set to log to a file"
  | invalid violations =>
    "Configuration validation failed:\n  - "
      ++ "\n  - ".intercalate (violations.map Violation.message)

end IdentityDirectory
