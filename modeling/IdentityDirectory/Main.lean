import IdentityDirectory.CommandLine.Run
import IdentityDirectory.Connection.Json
/-!
The program. It prints what it is asked for, or serves the JSON requests that come on standard input
until that ends. The file system is read before a run, as far as paths of the settings lead into it, and
written back after it.
-/
namespace IdentityDirectory.Main

def attempt {α : Type} (action : IO α) : IO (Option α) := do
  match ← action.toBaseIO with
  | .ok v => return some v
  | .error _ => return none

def entryAt (path : String) : IO (Option Entry) := do
  match ← attempt (IO.FS.readBinFile path) with
  | some content => return some (.file content.toList)
  | none => return (← attempt (IO.FS.Handle.mk path .read)).map fun _ => .folder

def addPath (disk : Disk) (path : String) : IO Disk := do
  let mut disk := disk
  for lead in Path.leads path do
    match disk.locate lead with
    | none => pure ()
    | some l =>
      match ← entryAt (if lead.isEmpty then "/" else lead) with
      | none => pure ()
      | some e => disk := disk.set l e
  return disk

def addPaths (disk : Disk) (paths : List String) : IO Disk := paths.foldlM addPath disk

def homeDisk : IO Disk := do
  let home := (Disk.steps (toString (← IO.currentDir))).filter fun part => !part.isEmpty
  let folders := (List.range home.length).map fun n => (home.take (n + 1), Entry.folder)
  return ⟨folders, home⟩

def environment : IO (String → Option String) := do
  let mut known : List (String × String) := []
  for name in Settings.variableNames do
    match ← IO.getEnv name with
    | some v => known := (name, v) :: known
    | none => pure ()
  let vars := known
  return fun name => (vars.find? fun v => v.1 = name).map (·.2)

/-- The paths that a run may look at: the settings file first, for it names the others. -/
def loadDisk (args : List String) (env : String → Option String) : IO Disk := do
  let disk ← homeDisk
  match Arguments.read args with
  | .run a =>
    let disk ← addPaths disk a.config.toList
    match CommandLine.settings a env disk with
    | .ok s =>
      let stores := [s.storage.identityPath, s.storage.gatewayPath]
      addPaths disk (stores ++ stores.map Disk.draft ++ s.logging.filePath.toList)
    | .error _ => return disk
  | _ => return disk

def writeBack (old new : Disk) : IO Unit := do
  for (l, e) in new.entries.reverse do
    let path := "/" ++ "/".intercalate l
    if old.entry? l = some e then pure ()
    else match e with
      | .folder => IO.FS.createDirAll path
      | .file content => IO.FS.writeBinFile path content.toByteArray

partial def serve (input output : IO.FS.Stream) (d : Directory) : IO Directory := do
  let line ← input.getLine
  if line.isEmpty then return d
  let (d, reply) := d.answerLine (String.ofList (Text.trim line.toList))
  match reply with
  | some r =>
    output.putStr (r ++ "\n")
    output.flush
  | none => pure ()
  serve input output d

def serveInput (old : Disk) (s : Service) : IO UInt32 := do
  let d ← serve (← IO.getStdin) (← IO.getStdout) s.directory
  let (s, outcome) := Service.close { s with directory := d }
  writeBack old s.directory.disk
  match outcome with
  | .ok _ => return 0
  | .error e =>
    IO.eprintln (CommandLine.programName ++ ": " ++ e.message)
    return 1

end IdentityDirectory.Main

open IdentityDirectory in
def main (args : List String) : IO UInt32 := do
  let env ← Main.environment
  let disk ← Main.loadDisk args env
  match CommandLine.run args env disk with
  | .serving s => Main.serveInput disk s
  | .ended status output errors =>
    IO.print output
    IO.eprint errors
    return status.toUInt32
