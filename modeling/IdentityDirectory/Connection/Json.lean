import IdentityDirectory.Connection.Lines
import IdentityDirectory.Directory
/-!
The JSON listener: a request on every line that is not blank, a reply on a line of its own to every
request that can be read. A spoiled line ends the connection, and so does the peer once it has sent all.
-/
namespace IdentityDirectory.Directory

def answerLine (d : Directory) (line : String) : Directory × Option String :=
  if (Text.trim line.toList).isEmpty then (d, none)
  else
    let d := d.count (.bytesIn (UInt64.ofNat (Text.utf8Size line.toList)))
    match d.answerJson line with
    | (d, none) => (d, none)
    | (d, some reply) =>
      (d.count (.bytesOut (UInt64.ofNat (Text.utf8Size reply.toList + 1))), some reply)

def answerLines (d : Directory) : List String → Directory × List String
  | [] => (d, [])
  | line :: rest =>
    let (d, reply) := d.answerLine line
    let (d, replies) := d.answerLines rest
    (d, reply.toList ++ replies)

def replyText (replies : List String) : String := String.join (replies.map fun r => r ++ "\n")

def serveLines (d : Directory) (b : Bytes) : Directory × String :=
  let (lines, isSpoiled) := Lines.read b
  let (d, replies) := (d.count .connectionOpened).answerLines lines
  let d := if isSpoiled then d.count .transportError else d
  (d.count .connectionClosed, replyText replies)

end IdentityDirectory.Directory
