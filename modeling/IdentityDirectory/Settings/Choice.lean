import IdentityDirectory.Settings.Error
import IdentityDirectory.Text.Blank
import IdentityDirectory.Text.Number
/-!
The settings that are a choice among names, and the access code, which is a number in hexadecimal.
-/
namespace IdentityDirectory

inductive ListenerMode where
  | blocking
  | eventLoop
  deriving DecidableEq, Repr

namespace ListenerMode

def name : ListenerMode → String
  | blocking => "blocking"
  | eventLoop => "event-loop"

def ofName? (s : String) : Option ListenerMode := [blocking, eventLoop].find? fun m => m.name = s

def ofText (text : String) : Except ConfigError ListenerMode :=
  let s := String.ofList (Text.lower (Text.trim text.toList))
  if s ∈ ["blocking", "sync"] then .ok blocking
  else if s ∈ ["event-loop", "event_loop", "async"] then .ok eventLoop
  else .error (.listenerMode s)

end ListenerMode

inductive BackendKind where
  | memory
  | json
  deriving DecidableEq, Repr

namespace BackendKind

def name : BackendKind → String
  | memory => "memory"
  | json => "json"

def ofName? (s : String) : Option BackendKind := [memory, json].find? fun b => b.name = s

def ofText (text : String) : Except ConfigError BackendKind :=
  let s := String.ofList (Text.lower (Text.trim text.toList))
  if s ∈ ["memory", "mem"] then .ok memory
  else if s = "json" then .ok json
  else .error (.backend s)

end BackendKind

inductive LogLevel where
  | error
  | warn
  | info
  | debug
  | trace
  deriving DecidableEq, Repr

namespace LogLevel

def all : List LogLevel := [error, warn, info, debug, trace]

def name : LogLevel → String
  | error => "error"
  | warn => "warn"
  | info => "info"
  | debug => "debug"
  | trace => "trace"

/-- Takes a name in any case, or the place of the level among all, counted from one. -/
def ofText? (text : String) : Option LogLevel :=
  let named := all.find? fun l => l.name.toList = Text.lower text.toList
  match Text.readUnsigned 10 0xFFFFFFFFFFFFFFFF text.toList with
  | .ok v => if v = 0 then none else all[v - 1]?
  | .error _ => named

end LogLevel

namespace AccessCode

def ofText (text : String) : Except ConfigError UInt64 :=
  let digits := Text.dropLead '0' 'X' (Text.dropLead '0' 'x' (Text.trim text.toList))
  match Text.readUnsigned 16 0xFFFFFFFFFFFFFFFF digits with
  | .ok v => .ok (UInt64.ofNat v)
  | .error cause => .error (.accessCode text cause)

def toText (code : UInt64) : String := String.ofList (Text.hexShort code.toNat)

end AccessCode
end IdentityDirectory
