import IdentityDirectory.CommandLine.Arguments
import IdentityDirectory.Service
import IdentityDirectory.Settings.File
/-!
A run of the program, up to where it serves. Settings come from the file that is named, then from the
environment, then from the arguments; they are printed, or the log is set up and the service opened.
-/
namespace IdentityDirectory

inductive Run where
  | ended (status : UInt8) (output errors : String)
  | serving (service : Service)

namespace CommandLine

def programName : String := "lorawan-storage"

def versionText : String := "lorawan-storage 0.9.0\n"

def usageText : String := "Usage: lorawan-storage [OPTIONS]\n"

def helpLines : List String :=
  ["LoRaWAN device and gateway identity directory served over a fixed-layout binary protocol.",
   "",
   "Usage: lorawan-storage [OPTIONS]",
   "",
   "Options:",
   "  -c, --config <CONFIG>            TOML configuration file",
   "  -l, --listen <LISTEN>            UDP/TCP listen address, e.g. 0.0.0.0:4244",
   "  -m, --mode <MODE>                Listener model: blocking or event-loop",
   "      --json-listen <JSON_LISTEN>  Enable the JSON listener on this address",
   "      --code <CODE>                Authorization code",
   "      --access-code <ACCESS_CODE>  Access code, hexadecimal",
   "  -b, --backend <BACKEND>          Storage backend: memory or json",
   "      --db <DB>                    Identity file for the json backend",
   "      --gateway-db <GATEWAY_DB>    Gateway file for the json backend",
   "      --print-config               Print the effective configuration as TOML and exit",
   "  -v, --verbose...                 More output (-v debug, -vv trace)",
   "  -h, --help                       Print help",
   "  -V, --version                    Print version"]

def helpText : String := String.join (helpLines.map fun l => l ++ "\n")

def misuseText : String := "error: invalid arguments\n\n" ++ usageText

def fileSettings (a : Arguments) (disk : Disk) : Except ConfigError Settings :=
  match a.config with
  | none => .ok {}
  | some path => Settings.load disk path

def settings (a : Arguments) (env : String → Option String) (disk : Disk) : Except Error Settings := do
  let s ← (fileSettings a disk).mapError Error.config
  let s ← s.withEnvironment env
  (a.apply s).mapError Error.config

def logNotice : String := "Logging initialized\n"

def noticeAt (level : LogLevel) : Bytes :=
  match level with
  | .error | .warn => []
  | .info | .debug | .trace => Text.utf8 logNotice.toList

def openLog (s : LoggingSettings) (disk : Disk) : Except Error Disk :=
  if !s.toFile then .ok disk
  else match s.filePath with
    | none => .error (.config .logPath)
    | some path =>
      match disk.write path ((disk.read path).getD [] ++ noticeAt s.level) with
      | none => .error .io
      | some disk => .ok disk

def render (s : Settings) : Except Error String :=
  match s.toToml? with
  | none => .error (.config .render)
  | some text => .ok text

def execute (a : Arguments) (env : String → Option String) (disk : Disk) : Except Error Run := do
  let s ← settings a env disk
  if a.printConfig then return .ended 0 ((← render s) ++ "\n") ""
  let disk ← openLog s.logging disk
  return .serving (← Service.start s disk default)

def failed (e : Error) : Run := .ended 1 "" (programName ++ ": " ++ e.message ++ "\n")

def run (args : List String) (env : String → Option String) (disk : Disk) : Run :=
  match Arguments.read args with
  | .help => .ended 0 helpText ""
  | .version => .ended 0 versionText ""
  | .misuse => .ended 2 "" misuseText
  | .run a =>
    match execute a env disk with
    | .ok r => r
    | .error e => failed e

end CommandLine
end IdentityDirectory
