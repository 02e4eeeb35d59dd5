import IdentityDirectory.Proofs.Directory.RawReplies
import IdentityDirectory.Proofs.Store.RowMap
/-!
What a directory in memory knows, told from the outside: a finite map from addresses to the bytes of
records, put together from nothing but the requests of a run and their replies. The store always holds
the records that the map holds.
-/
namespace IdentityDirectory
open Bytes

abbrev ByteMap := Finmap fun _ : Nat => Bytes

namespace ByteMap

/-- The map after a request: an assignment that was done sets a record, a removal deletes one. -/
def after (code : Int32) (accessCode : UInt64) (m : ByteMap) (x : Exchange) : ByteMap :=
  let b := x.packet.bytes
  if x.packet.IsAuthorized code accessCode ∧ x.isDone then
    if byte b 0 = Tag.assign.toByte then m.insert (number b 13 4) (slice b 13 95)
    else if byte b 0 = Tag.remove.toByte then m.erase (number b 13 4)
    else m
  else m

def ofLog (code : Int32) (accessCode : UInt64) (log : List Exchange) : ByteMap :=
  log.foldl (after code accessCode) ∅

/-- The map holds the records of a store in memory, as bytes. -/
structure Mirrors (network : Option NetId) (m : ByteMap) (s : IdentityStore) : Prop where
  memory : s.backing = .memory
  policy : s.network = network
  sorted : Rows.IsAscending Identity.key s.rows
  entries : ∀ a, m.lookup a = (Rows.find? Identity.key a s.rows).map Identity.encode

theorem mirrors_empty (network : Option NetId) :
    Mirrors network ∅ (.make .memory network) where
  memory := rfl
  policy := rfl
  sorted := List.Pairwise.nil
  entries := fun a => by rw [Finmap.lookup_empty]; rfl

theorem Mirrors.shown {network : Option NetId} {m : ByteMap} {s : IdentityStore}
    (h : Mirrors network m s) : Rows.Shown Identity.key Identity.encode m s.rows :=
  ⟨h.sorted, h.entries⟩

theorem Mirrors.withRows {network : Option NetId} {m n : ByteMap} {s : IdentityStore}
    {rows : List Identity} (h : Mirrors network m s)
    (shown : Rows.Shown Identity.key Identity.encode n rows) : Mirrors network n (s.withRows rows) where
  memory := by
    unfold IdentityStore.withRows
    rw [h.memory]
    rfl
  policy := h.policy
  sorted := shown.sorted
  entries := shown.entries

theorem Mirrors.insert {network : Option NetId} {m : ByteMap} {s : IdentityStore}
    (h : Mirrors network m s) (i : Identity) :
    Mirrors network (m.insert i.key i.encode)
      (s.withRows (Rows.insert Identity.key i s.rows)) :=
  h.withRows (h.shown.insert i)

theorem Mirrors.erase {network : Option NetId} {m : ByteMap} {s : IdentityStore}
    (h : Mirrors network m s) (a : Nat) :
    Mirrors network (m.erase a) (s.withRows (Rows.erase Identity.key a s.rows)) :=
  h.withRows (h.shown.erase a)

theorem Mirrors.flush {network : Option NetId} {m : ByteMap} {s : IdentityStore}
    (h : Mirrors network m s) (disk : Disk) : Mirrors network m (s.flush disk).1 where
  memory := by
    unfold IdentityStore.flush
    rw [h.memory]
    rfl
  policy := h.policy
  sorted := h.sorted
  entries := h.entries

theorem after_of_not_done (code : Int32) (accessCode : UInt64) (m : ByteMap) {x : Exchange}
    (undone : x.isDone = false) : m.after code accessCode x = m := by
  simp [after, undone]

theorem after_of_unauthorized {code : Int32} {accessCode : UInt64} (m : ByteMap) {x : Exchange}
    (foreign : ¬ x.packet.IsAuthorized code accessCode) : m.after code accessCode x = m := by
  simp [after, foreign]

theorem after_of_tag (code : Int32) (accessCode : UInt64) (m : ByteMap) {x : Exchange} {t : Tag}
    (tag : byte x.packet.bytes 0 = t.toByte) (other : t ≠ .assign ∧ t ≠ .remove) :
    m.after code accessCode x = m := by
  have assign : ¬ t.toByte = Tag.assign.toByte := fun same => other.1 (Tag.toByte_injective same)
  have remove : ¬ t.toByte = Tag.remove.toByte := fun same => other.2 (Tag.toByte_injective same)
  simp [after, tag, assign, remove]

theorem after_of_assigned {code : Int32} {accessCode : UInt64} (m : ByteMap) {x : Exchange}
    (known : x.packet.IsAuthorized code accessCode) (done : x.isDone = true)
    (tag : byte x.packet.bytes 0 = Tag.assign.toByte) :
    m.after code accessCode x =
      m.insert (number x.packet.bytes 13 4) (slice x.packet.bytes 13 95) := by
  simp [after, known, done, tag]

theorem after_of_removed {code : Int32} {accessCode : UInt64} (m : ByteMap) {x : Exchange}
    (known : x.packet.IsAuthorized code accessCode) (done : x.isDone = true)
    (tag : byte x.packet.bytes 0 = Tag.remove.toByte) :
    m.after code accessCode x = m.erase (number x.packet.bytes 13 4) := by
  have other : ¬ Tag.remove.toByte = Tag.assign.toByte := by decide
  simp [after, known, done, tag, other]

theorem Mirrors.outcome {network : Option NetId} {code : Int32} {accessCode : UInt64} {m : ByteMap}
    {d e : Directory} {q : Request} {r : Response} (h : Mirrors network m d.identities)
    (outcome : Directory.Outcome d q e r) {p : Packet} {reply : Option Bytes}
    (read : q.ReadFrom p.bytes) (known : p.IsAuthorized code accessCode) (room : 22 ≤ p.capacity)
    (sent : reply = if r.leastSize ≤ p.capacity then some (r.cut p.capacity).encode else none) :
    Mirrors network (m.after code accessCode ⟨p, reply⟩) e.identities := by
  have other {t : Tag} (tag : q.header.tag = t) (other : t ≠ .assign ∧ t ≠ .remove) :
      m.after code accessCode ⟨p, reply⟩ = m :=
    after_of_tag code accessCode m (read.tag.trans (by rw [tag])) other
  cases outcome with
  | read r quiet unsaved =>
    have calm : q.header.tag ≠ .assign ∧ q.header.tag ≠ .remove := by
      constructor <;> intro tag <;> rw [tag] at quiet <;> contradiction
    rw [other rfl calm]
    exact h
  | refused cause mutation =>
    have undone := Exchange.isDone_of_operation sent room
    rw [decide_eq_false cause.code_ne_zero] at undone
    rw [after_of_not_done _ _ _ undone]
    exact h
  | @assigned header i s tag stored =>
    have done := Exchange.isDone_of_operation sent room
    have address : number p.bytes 13 4 = i.key := (read.assigned tag).symm
    obtain ⟨-, rfl⟩ := IdentityStore.put_eq_ok stored
    rw [after_of_assigned m known done (read.tag.trans (congrArg Tag.toByte tag)), address,
      ← read.encode_assigned tag]
    exact h.insert i
  | @removed header i s tag erased =>
    have done := Exchange.isDone_of_operation sent room
    obtain ⟨j, -, same, rfl⟩ := IdentityStore.remove_eq_ok erased
    have address : number p.bytes 13 4 = j.key := by
      rw [← read.removed tag, ← same]
      rfl
    rw [after_of_removed m known done (read.tag.trans (congrArg Tag.toByte tag)), address]
    exact h.erase j.key
  | gatewayAssigned tag stored =>
    rw [other tag (by decide)]
    exact h
  | gatewayRemoved tag erased =>
    rw [other tag (by decide)]
    exact h
  | saved r tag =>
    rw [other tag (by decide)]
    exact h.flush d.disk
  | gatewaySaved r tag =>
    rw [other tag (by decide)]
    exact h

theorem keepsUp (network : Option NetId) (code : Int32) (accessCode : UInt64) :
    Directory.KeepsUp code accessCode (after code accessCode) fun m h =>
      Mirrors network m h.identities where
  undone := fun m _ => after_of_not_done code accessCode m
  foreign := fun m _ => after_of_unauthorized m
  outcome := fun mirror outcome read => mirror.outcome outcome (Request.readFrom_of_decode read)

end ByteMap
end IdentityDirectory
