import IdentityDirectory.Settings.Environment
/-!
The arguments of the program, read from left to right. Every option but the count of v stands at most
once; nothing but options is taken. A request for help or for the version ends the reading.
-/
namespace IdentityDirectory

inductive ValueOption where
  | config
  | listen
  | mode
  | jsonListen
  | code
  | accessCode
  | backend
  | db
  | gatewayDb
  deriving DecidableEq, Repr

namespace ValueOption

def all : List ValueOption :=
  [config, listen, mode, jsonListen, code, accessCode, backend, db, gatewayDb]

def name : ValueOption → String
  | config => "config"
  | listen => "listen"
  | mode => "mode"
  | jsonListen => "json-listen"
  | code => "code"
  | accessCode => "access-code"
  | backend => "backend"
  | db => "db"
  | gatewayDb => "gateway-db"

def letter? : ValueOption → Option Char
  | config => some 'c'
  | listen => some 'l'
  | mode => some 'm'
  | backend => some 'b'
  | _ => none

def ofName? (s : String) : Option ValueOption := all.find? fun o => o.name = s

def ofLetter? (c : Char) : Option ValueOption := all.find? fun o => o.letter? = some c

end ValueOption

structure Arguments where
  config : Option String := none
  listen : Option String := none
  mode : Option ListenerMode := none
  jsonListen : Option String := none
  code : Option Int32 := none
  accessCode : Option String := none
  backend : Option BackendKind := none
  db : Option String := none
  gatewayDb : Option String := none
  printConfig : Bool := false
  verbosity : Nat := 0
  deriving DecidableEq, Repr

inductive Invocation where
  | run (arguments : Arguments)
  | help
  | version
  | misuse
  deriving DecidableEq, Repr

namespace Arguments

def readPath (text : String) : Option String := if text.isEmpty then none else some text

def readCode (text : String) : Option Int32 := (Settings.readCode text).toOption

def fill {α : Type} (old : Option α) (read : String → Option α) (text : String) : Option (Option α) :=
  if old.isSome then none else (read text).map some

def put (o : ValueOption) (text : String) (a : Arguments) : Option Arguments :=
  match o with
  | .config => (fill a.config readPath text).map fun v => { a with config := v }
  | .listen => (fill a.listen some text).map fun v => { a with listen := v }
  | .mode =>
    (fill a.mode (fun t => (ListenerMode.ofText t).toOption) text).map fun v => { a with mode := v }
  | .jsonListen => (fill a.jsonListen some text).map fun v => { a with jsonListen := v }
  | .code => (fill a.code readCode text).map fun v => { a with code := v }
  | .accessCode => (fill a.accessCode some text).map fun v => { a with accessCode := v }
  | .backend =>
    (fill a.backend (fun t => (BackendKind.ofText t).toOption) text).map fun v =>
      { a with backend := v }
  | .db => (fill a.db readPath text).map fun v => { a with db := v }
  | .gatewayDb => (fill a.gatewayDb readPath text).map fun v => { a with gatewayDb := v }

inductive Step where
  | next (arguments : Arguments)
  | wants (option : ValueOption) (arguments : Arguments)
  | finish (invocation : Invocation)

def Step.ofPut : Option Arguments → Step
  | some a => .next a
  | none => .finish .misuse

def halves (s : List Char) : String × Option String :=
  let name := String.ofList (s.takeWhile (· ≠ '='))
  match s.dropWhile (· ≠ '=') with
  | [] => (name, none)
  | _ :: v => (name, some (String.ofList v))

def takeLong (a : Arguments) (s : List Char) : Step :=
  match halves s with
  | ("help", none) => .finish .help
  | ("version", none) => .finish .version
  | ("verbose", none) => .next { a with verbosity := a.verbosity + 1 }
  | ("print-config", none) =>
    if a.printConfig then .finish .misuse else .next { a with printConfig := true }
  | (name, value?) =>
    match ValueOption.ofName? name, value? with
    | none, _ => .finish .misuse
    | some o, none => .wants o a
    | some o, some v => Step.ofPut (put o v a)

def takeShort (a : Arguments) : List Char → Step
  | [] => .next a
  | c :: s =>
    if c = 'h' then .finish .help
    else if c = 'V' then .finish .version
    else if c = 'v' then takeShort { a with verbosity := a.verbosity + 1 } s
    else match ValueOption.ofLetter? c, s with
      | none, _ => .finish .misuse
      | some o, [] => .wants o a
      | some o, '=' :: v => Step.ofPut (put o (String.ofList v) a)
      | some o, v => Step.ofPut (put o (String.ofList v) a)

/-- Whether a text may be the value of an option that it follows. A dash in front is for negative codes. -/
def isValue (o : ValueOption) (text : String) : Bool :=
  match text.toList with
  | '-' :: _ :: _ => o = .code
  | _ => true

/-- Reads the arguments. Two dashes end the options, and nothing may come after them. -/
def scan (a : Arguments) : List String → Invocation
  | [] => .run a
  | arg :: rest =>
    let step : Step := match arg.toList with
      | ['-', '-'] => if rest.isEmpty then .next a else .finish .misuse
      | '-' :: '-' :: s => takeLong a s
      | '-' :: c :: s => takeShort a (c :: s)
      | _ => .finish .misuse
    match step with
    | .finish i => i
    | .next a => scan a rest
    | .wants o a =>
      match rest with
      | [] => .misuse
      | text :: rest =>
        match if isValue o text then put o text a else none with
        | some a => scan a rest
        | none => .misuse

def read (args : List String) : Invocation := scan {} args

def override {α : Type} (v? : Option α) (put : α → Settings → Settings) (s : Settings) : Settings :=
  match v? with
  | some v => put v s
  | none => s

def level? (a : Arguments) : Option LogLevel :=
  match a.verbosity with
  | 0 => none
  | 1 => some .debug
  | _ => some .trace

def apply (a : Arguments) (s : Settings) : Except ConfigError Settings := do
  let s := override a.listen (fun v s => { s with server.address := v }) s
  let s := override a.mode (fun v s => { s with server.mode := v }) s
  let s := override a.jsonListen (fun v s => { s with server.jsonAddress := some v }) s
  let s := override a.code (fun v s => { s with auth.code := v }) s
  let accessCode ← a.accessCode.mapM AccessCode.ofText
  let s := override accessCode (fun v s => { s with auth.accessCode := v }) s
  let s := override a.backend (fun v s => { s with storage.backend := v }) s
  let s := override a.db (fun v s => { s with storage.identityPath := v }) s
  let s := override a.gatewayDb (fun v s => { s with storage.gatewayPath := v }) s
  return override a.level? (fun v s => { s with logging.level := v }) s

end Arguments
end IdentityDirectory
