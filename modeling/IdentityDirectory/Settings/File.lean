import IdentityDirectory.Settings.Toml
import IdentityDirectory.Store.Disk
import IdentityDirectory.Text.Utf8
/-!
Settings in a file.
-/
namespace IdentityDirectory.Settings

def load (disk : Disk) (path : String) : Except ConfigError Settings :=
  match disk.lookup path with
  | none => .error .openFile
  -- a folder can be opened but not read
  | some .folder => .error .readFile
  | some (.file content) =>
    match Text.ofUtf8? content with
    | none => .error .readFile
    | some text => ofToml (String.ofList text)

def save (s : Settings) (disk : Disk) (path : String) : Except ConfigError Disk :=
  match s.toToml? with
  | none => .error .serialize
  | some text =>
    match disk.write path (Text.utf8 text.toList) with
    | none => .error .writeFile
    | some disk => .ok disk

end IdentityDirectory.Settings
