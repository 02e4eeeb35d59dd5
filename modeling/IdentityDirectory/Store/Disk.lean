import IdentityDirectory.Bytes
import IdentityDirectory.Store.Path
/-!
A file system: folders and files by the names that lead to them from the root. Paths are followed from
the root or from the working folder, and every part but the last has to be a folder. An operation that
cannot be done gives nothing.
-/
namespace IdentityDirectory

abbrev Location := List String

inductive Entry where
  | folder
  | file (content : Bytes)
  deriving DecidableEq, Repr

structure Disk where
  entries : List (Location × Entry)
  home : Location
  deriving Repr

namespace Disk

def entry? (d : Disk) (l : Location) : Option Entry :=
  if l = [] then some .folder else (d.entries.find? fun e => e.1 = l).map (·.2)

def erase (d : Disk) (l : Location) : Disk :=
  { d with entries := d.entries.filter fun e => e.1 ≠ l }

def set (d : Disk) (l : Location) (e : Entry) : Disk :=
  { d with entries := (l, e) :: (d.erase l).entries }

def isFolder (d : Disk) (l : Location) : Bool := d.entry? l = some .folder

def walk (d : Disk) : Location → List String → Option Location
  | l, [] => some l
  | l, part :: rest =>
    if !d.isFolder l then none
    else if part = "" ∨ part = "." then d.walk l rest
    else if part = ".." then d.walk l.dropLast rest
    else if !Path.isName part then none
    else d.walk (l ++ [part]) rest

def steps (path : String) : List String := (Text.splitOn '/' path.toList).map String.ofList

def start (d : Disk) (path : String) : Location := if Path.isAbsolute path.toList then [] else d.home

def locate (d : Disk) (path : String) : Option Location :=
  if Path.isPath path.toList then d.walk (d.start path) (steps path) else none

/-- Where a path leads that a folder is made or removed at. Slashes behind the name of the folder do not
count; the root and dots are no names. -/
def locateFolder (d : Disk) (path : String) : Option Location :=
  match (steps path).reverse.dropWhile (· = "") with
  | [] => none
  | name :: rest =>
    if !Path.isPath path.toList || name = "." || name = ".." then none
    else d.walk (d.start path) (rest.reverse ++ [name])

def lookup (d : Disk) (path : String) : Option Entry := (d.locate path).bind d.entry?

def has (d : Disk) (path : String) : Bool := (d.lookup path).isSome

def read (d : Disk) (path : String) : Option Bytes :=
  match d.lookup path with
  | some (.file content) => some content
  | _ => none

def putFile (d : Disk) (l : Location) (content : Bytes) : Option Disk :=
  if d.isFolder l then none else some (d.set l (.file content))

def write (d : Disk) (path : String) (content : Bytes) : Option Disk := do
  d.putFile (← d.locate path) content

def rename (d : Disk) (source target : String) : Option Disk := do
  let content ← d.read source
  let s ← d.locate source
  let t ← d.locate target
  if s = t then some d else (d.erase s).putFile t content

def makeFolder (d : Disk) (path : String) : Option Disk := do
  let l ← d.locateFolder path
  if (d.entry? l).isSome then none else some (d.set l .folder)

def removeFolder (d : Disk) (path : String) : Option Disk := do
  let l ← d.locateFolder path
  if d.isFolder l ∧ ¬ d.entries.any (fun e => e.1.dropLast = l) then some (d.erase l) else none

/-- Follows the parts of a path and makes the folders that are missing, up to one that cannot be made.
The flag tells whether the whole path leads through folders then. -/
def makeAll (d : Disk) : Location → List String → Disk × Bool
  | l, [] => (d, d.isFolder l)
  | l, part :: rest =>
    if !d.isFolder l then (d, false)
    else if part = "" ∨ part = "." then d.makeAll l rest
    else if part = ".." then d.makeAll l.dropLast rest
    else if !Path.isName part then (d, false)
    else if (d.entry? (l ++ [part])).isNone then
      (d.set (l ++ [part]) .folder).makeAll (l ++ [part]) rest
    else d.makeAll (l ++ [part]) rest

def makeFolders (d : Disk) (path : String) : Disk × Bool :=
  if Path.isPath path.toList then d.makeAll (d.start path) (steps path) else (d, false)

def namesIn (d : Disk) (l : Location) : List String :=
  d.entries.filterMap fun e => if e.1 ≠ [] ∧ e.1.dropLast = l then e.1.getLast? else none

def draft (path : String) : String := path ++ ".tmp"

def prepare (d : Disk) (path : String) : Disk × Bool :=
  match Path.folder? path with
  | none => (d, true)
  | some folder => d.makeFolders folder

/-- Replaces a file by way of its draft. What was made before a step fails stays: folders, and a draft
that cannot be moved. -/
def replace (d : Disk) (path : String) (content : Bytes) : Disk × Bool :=
  match d.prepare path with
  | (d, false) => (d, false)
  | (d, true) =>
    match d.write (draft path) content with
    | none => (d, false)
    | some d =>
      match d.rename (draft path) path with
      | none => (d, false)
      | some d => (d, true)

end Disk
end IdentityDirectory
