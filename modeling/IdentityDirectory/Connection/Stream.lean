import IdentityDirectory.Directory
/-!
Binary listeners that serve one peer at a time: a datagram is one request, and so is every chunk that a
read of a connection returns. The replies of a connection go through one buffer, which keeps what is not
written over.
-/
namespace IdentityDirectory.Directory

def exchange (capacity : Nat) (d : Directory) (b : Bytes) : Directory × Bytes :=
  let (d, written, buffer) := d.query b (List.replicate capacity 0)
  (d, buffer.take written)

def exchangeAll (buffer : Bytes) (d : Directory) : List Bytes → Directory × Bytes × List Bytes
  | [] => (d, buffer, [])
  | b :: rest =>
    let (d, written, buffer) := d.query b buffer
    let reply := buffer.take written
    let (d, buffer, replies) := exchangeAll buffer d rest
    (d, buffer, reply :: replies)

def serveChunks (buffer : Bytes) (d : Directory) (chunks : List Bytes) :
    Directory × Bytes × List Bytes :=
  let (d, buffer, replies) := (d.count .connectionOpened).exchangeAll buffer chunks
  (d.count .connectionClosed, buffer, replies)

def serveStream (capacity : Nat) (d : Directory) (chunks : List Bytes) : Directory × List Bytes :=
  let (d, _, replies) := d.serveChunks (List.replicate capacity 0) chunks
  (d, replies)

end IdentityDirectory.Directory
