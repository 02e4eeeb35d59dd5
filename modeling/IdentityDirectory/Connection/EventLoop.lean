import IdentityDirectory.Connection.Stream
/-!
The listener that serves many connections at once. Each connection goes through phases on its own; a
step moves one connection by one phase, and any order of steps is a run.
-/
namespace IdentityDirectory

inductive Phase where
  | accepted
  | readable
  | writePending
  | closed
  | gone
  deriving DecidableEq, Repr

/-- A connection: the chunks still to be read, the buffer for its replies with the number of bytes in
it that are still to be written, and all that was written. -/
structure Connection where
  phase : Phase
  chunks : List Bytes
  buffer : Bytes
  pending : Nat
  written : Bytes
  deriving DecidableEq, Repr

namespace Connection

def ofChunks (chunks : List Bytes) : Connection := ⟨.accepted, chunks, [], 0, []⟩

def step (capacity : Nat) (d : Directory) (c : Connection) : Directory × Connection :=
  match c.phase with
  | .accepted =>
    (d.count .connectionOpened, { c with phase := .readable, buffer := List.replicate capacity 0 })
  | .readable =>
    match c.chunks with
    | [] => (d, { c with phase := .closed })
    | b :: rest =>
      let (d, pending, buffer) := d.query b c.buffer
      let next := if 0 < pending then Phase.writePending else .readable
      (d, { c with phase := next, chunks := rest, buffer := buffer, pending := pending })
  | .writePending =>
    (d, { c with phase := .readable, written := c.written ++ c.buffer.take c.pending })
  | .closed => (d.count .connectionClosed, { c with phase := .gone })
  | .gone => (d, c)

def stepBound (c : Connection) : Nat := 2 * c.chunks.length + 4

def runFor (capacity : Nat) : Nat → Directory → Connection → Directory × Connection
  | 0, d, c => (d, c)
  | n + 1, d, c =>
    let (d, c) := c.step capacity d
    runFor capacity n d c

def run (capacity : Nat) (d : Directory) (c : Connection) : Directory × Connection :=
  runFor capacity c.stepBound d c

end Connection

structure EventLoop where
  directory : Directory
  connections : List Connection
  deriving Repr

namespace EventLoop

def ofDirectory (d : Directory) (peers : List (List Bytes)) : EventLoop :=
  ⟨d, peers.map Connection.ofChunks⟩

def step (capacity : Nat) (l : EventLoop) (place : Nat) : EventLoop :=
  match l.connections[place]? with
  | none => l
  | some c =>
    let (d, c) := c.step capacity l.directory
    ⟨d, l.connections.set place c⟩

def run (capacity : Nat) (l : EventLoop) (places : List Nat) : EventLoop :=
  places.foldl (step capacity) l

end EventLoop
end IdentityDirectory
