import IdentityDirectory.Store.Disk
import IdentityDirectory.Store.Error
import IdentityDirectory.Text.Blank
import IdentityDirectory.Text.Utf8
/-!
What keeps the rows of a store: memory alone, a file that is read once and written anew when rows have
changed, or nothing at all. A store whose backing fails answers every call with one error.
-/
namespace IdentityDirectory

inductive Backing where
  | memory
  | file (path : String) (isDirty : Bool)
  | failing (cause : StoreError)
  deriving DecidableEq, Repr

namespace Backing

def name : Backing → String
  | memory => "memory"
  | file _ _ => "json"
  | failing _ => "failing"

def fault? : Backing → Option StoreError
  | failing cause => some cause
  | _ => none

def answer {α : Type} (b : Backing) (outcome : Except StoreError α) : Except StoreError α :=
  match b.fault? with
  | some cause => .error cause
  | none => outcome

def touch : Backing → Backing
  | file path _ => file path true
  | b => b

/-- The text of a store file. A file that is not there, or holds blanks only, has none. -/
def loadText (disk : Disk) (path : String) : Except StoreError (Option String) :=
  if !disk.has path then .ok none
  else match (disk.read path).bind Text.ofUtf8? with
    | none => .error .io
    | some t => if (Text.trim t).isEmpty then .ok none else .ok (some (String.ofList t))

def init {α : Type} (b : Backing) (read : String → Option (List α)) (disk : Disk) :
    Except StoreError (Option (List α)) :=
  match b with
  | file path _ =>
    match loadText disk path with
    | .error cause => .error cause
    | .ok none => .ok (some [])
    | .ok (some text) =>
      match read text with
      | none => .error .serialization
      | some rows => .ok (some rows)
  | _ => .ok none

def flush (b : Backing) (text : String) (disk : Disk) : Backing × Disk × Except StoreError Unit :=
  match b with
  | memory => (b, disk, .ok ())
  | failing cause => (b, disk, .error cause)
  | file path isDirty =>
    if isDirty then
      let (disk, isDone) := disk.replace path (Text.utf8 text.toList)
      (file path !isDone, disk, if isDone then .ok () else .error .io)
    else (b, disk, .ok ())

end Backing
end IdentityDirectory
