import IdentityDirectory.Connection.EventLoop
import IdentityDirectory.Proofs.Connection.Serial
/-!
The machine of one connection. A step reads at most one chunk; what it does to the directory is to dispatch
that chunk and to count the connection, and what it does to the connection depends on nothing else.
-/
namespace IdentityDirectory.Connection

def next? (c : Connection) : Option Bytes :=
  match c.phase, c.chunks with
  | .readable, b :: _ => some b
  | _, _ => none

def isOpened (c : Connection) : Bool := c.phase ≠ .accepted

def isActive (c : Connection) : Bool := c.isOpened && c.phase ≠ .gone

def tally (c : Connection) : Counters :=
  .ofConnections (Counters.tick c.isOpened) (Counters.tick c.isActive)

def staged (c : Connection) : Bytes := if c.phase = .writePending then c.buffer.take c.pending else []

/-- How a connection stands whose peer sends some chunks, when a number of them have been read and each of
those has its reply, which may be empty. -/
structure Follows (capacity : Nat) (chunks read replies : List Bytes) (c : Connection) : Prop where
  unread : read ++ c.chunks = chunks
  sent : c.written ++ c.staged = replies.flatten
  room : c.phase ≠ .accepted → c.buffer.length = capacity
  ended : c.phase = .closed ∨ c.phase = .gone → c.chunks = []

variable {capacity : Nat} {chunks read replies : List Bytes} {c : Connection}

theorem follows_ofChunks (capacity : Nat) (chunks : List Bytes) :
    (ofChunks chunks).Follows capacity chunks [] [] where
  unread := rfl
  sent := rfl
  room := fun moved => absurd rfl moved
  ended := fun late => late.elim nofun nofun

theorem step_idle (h : c.Follows capacity chunks read replies) (idle : c.next? = none) (d : Directory) :
    (c.step capacity (d.credit c.tally)).1 = d.credit (c.step capacity (d.credit c.tally)).2.tally ∧
      (c.step capacity (d.credit c.tally)).2.Follows capacity chunks read replies := by
  obtain ⟨phase, unread, buffer, pending, written⟩ := c
  obtain ⟨same, sent, room, ended⟩ := h
  cases phase with
  | accepted =>
    refine ⟨?_, same, sent, fun _ => List.length_replicate, fun late => late.elim nofun nofun⟩
    simp only [step, Directory.count_connectionOpened, Directory.credit_credit, tally,
      Counters.ofConnections_plus]
    rfl
  | readable =>
    cases unread with
    | nil => exact ⟨rfl, same, sent, fun _ => room nofun, fun _ => rfl⟩
    | cons b rest => cases idle
  | writePending =>
    refine ⟨rfl, same, ?_, fun _ => room nofun, fun late => late.elim nofun nofun⟩
    rw [← sent]
    exact List.append_nil _
  | closed =>
    refine ⟨?_, same, sent, fun _ => room nofun, fun _ => ended (Or.inl rfl)⟩
    have active : tally ⟨.closed, unread, buffer, pending, written⟩ = .ofConnections 1 1 := rfl
    have stopped : tally ⟨.gone, unread, buffer, pending, written⟩ = .ofConnections 1 0 := rfl
    have back : (1 : UInt64) + -1 = 0 := rfl
    simp only [step, Directory.count_connectionClosed, active, stopped, Directory.credit_credit,
      Counters.ofConnections_plus, UInt64.add_zero, back]
  | gone => exact ⟨rfl, same, sent, room, ended⟩

theorem eq_of_next {b : Bytes} (next : c.next? = some b) :
    ∃ rest buffer pending written, c = ⟨.readable, b :: rest, buffer, pending, written⟩ := by
  obtain ⟨phase, unread, buffer, pending, written⟩ := c
  unfold next? at next
  split at next
  · rename_i first rest readable chunk
    obtain rfl : phase = .readable := readable
    obtain rfl : unread = first :: rest := chunk
    obtain rfl := Option.some.inj next
    exact ⟨rest, buffer, pending, written, rfl⟩
  · contradiction

theorem step_read (h : c.Follows capacity chunks read replies) {b : Bytes} (next : c.next? = some b)
    (d : Directory) :
    (c.step capacity (d.credit c.tally)).1 =
        (d.dispatch b capacity).1.credit (c.step capacity (d.credit c.tally)).2.tally ∧
      (c.step capacity (d.credit c.tally)).2.Follows capacity chunks (read ++ [b])
        (replies ++ [(d.dispatch b capacity).2.getD []]) := by
  obtain ⟨rest, buffer, pending, written, rfl⟩ := eq_of_next next
  obtain ⟨same, sent, room, ended⟩ := h
  obtain rfl : buffer.length = capacity := room nofun
  have active (phase : Phase) (chunks : List Bytes) (buffer : Bytes) (pending : Nat)
      (moving : phase = .readable ∨ phase = .writePending) :
      tally ⟨phase, chunks, buffer, pending, written⟩ = .ofConnections 1 1 := by
    rcases moving with rfl | rfl <;> rfl
  rw [active _ _ _ _ (Or.inl rfl)]
  obtain ⟨size, reply⟩ := Directory.query_buffer (d.credit (.ofConnections 1 1)) b buffer
  have stores := Directory.query_directory (d.credit (.ofConnections 1 1)) b buffer
  simp only [Directory.dispatch_credit] at reply stores
  simp only [step]
  -- an older reply may still stand in the buffer; all that is known of it is its length
  generalize (d.credit (.ofConnections 1 1)).query b buffer = outcome at size reply stores ⊢
  obtain ⟨e, pending, buffer'⟩ := outcome
  obtain rfl : e = _ := stores
  have before : written = replies.flatten := (List.append_nil written).symm.trans sent
  have moving : (if 0 < pending then Phase.writePending else .readable) = .readable ∨
      (if 0 < pending then Phase.writePending else .readable) = .writePending := by
    split <;> simp
  refine ⟨?_, ?_, ?_, fun _ => size, fun late => ?_⟩
  · rw [active _ _ _ _ moving]
  · rw [List.append_assoc]
    exact same
  · rw [List.flatten_append, List.flatten_singleton, ← reply, before]
    by_cases some : 0 < pending
    · simp only [if_pos some, staged, ↓reduceIte]
    · obtain rfl : pending = 0 := by omega
      rfl
  · rcases moving with stays | writes
    · rw [stays] at late
      exact late.elim nofun nofun
    · rw [writes] at late
      exact late.elim nofun nofun

theorem step_follows (h : c.Follows capacity chunks read replies) (place : Nat) (d : Directory) :
    let parcels := c.next?.toList.map (Parcel.mk place)
    let serial := d.dispatchAll capacity parcels
    let after := c.step capacity (d.credit c.tally)
    after.1 = serial.1.credit after.2.tally ∧
      after.2.Follows capacity chunks (read ++ Parcel.own place parcels)
        (replies ++ Parcel.own place serial.2) := by
  cases next : c.next? with
  | none =>
    simp only [Option.toList_none, List.map_nil, Directory.dispatchAll, Parcel.own, List.filter_nil,
      List.append_nil]
    exact step_idle h next d
  | some b =>
    simp only [Option.toList_some, List.map_cons, List.map_nil, Directory.dispatchAll,
      Parcel.own_single]
    exact step_read h next d

def stepsLeft (c : Connection) : Nat :=
  match c.phase with
  | .accepted => 2 * c.chunks.length + 3
  | .readable => 2 * c.chunks.length + 2
  | .writePending => 2 * c.chunks.length + 3
  | .closed => 1
  | .gone => 0

theorem stepsLeft_step (capacity : Nat) (d : Directory) (c : Connection) :
    (c.step capacity d).2.stepsLeft ≤ c.stepsLeft - 1 := by
  obtain ⟨phase, unread, buffer, pending, written⟩ := c
  cases phase with
  | readable =>
    cases unread with
    | nil => exact Nat.le_refl 1
    | cons b rest =>
      simp only [step]
      split <;> simp only [stepsLeft, List.length_cons] <;> omega
  | accepted | writePending | closed | gone => simp [step, stepsLeft]

theorem gone_of_stepsLeft (stopped : c.stepsLeft = 0) : c.phase = .gone := by
  unfold stepsLeft at stopped
  split at stopped
  · omega
  · omega
  · omega
  · omega
  · assumption

end IdentityDirectory.Connection
