import IdentityDirectory.Proofs.Connection.Machine
/-!
Many connections over one directory. In whatever order they take their steps, the directory evolves as if the
chunks had been dispatched in the order they were read, and every peer gets the replies to its own chunks.
-/
namespace IdentityDirectory
namespace EventLoop

def reading (l : EventLoop) (place : Nat) : List Parcel :=
  match l.connections[place]? with
  | none => []
  | some c => c.next?.toList.map (Parcel.mk place)

def readings (capacity : Nat) (l : EventLoop) : List Nat → List Parcel
  | [] => []
  | place :: places => l.reading place ++ (l.step capacity place).readings capacity places

def tally : List Connection → Counters
  | [] => .ofConnections 0 0
  | c :: rest => (tally rest).plus c.tally

def IsOver (l : EventLoop) : Prop := ∀ c ∈ l.connections, c.phase = .gone

/-- How a loop stands when a number of chunks have been read. -/
structure Serves (capacity : Nat) (d : Directory) (peers : List (List Bytes)) (read : List Parcel)
    (l : EventLoop) : Prop where
  directory : l.directory = (d.dispatchAll capacity read).1.credit (tally l.connections)
  places : l.connections.length = peers.length
  follows : ∀ place (c : Connection) chunks, l.connections[place]? = some c → peers[place]? = some chunks →
    c.Follows capacity chunks (Parcel.own place read)
      (Parcel.own place (d.dispatchAll capacity read).2)

theorem tally_split {cs : List Connection} {place : Nat} {c : Connection}
    (here : cs[place]? = some c) :
    ∃ rest : Counters, tally cs = rest.plus c.tally ∧
      ∀ other, tally (cs.set place other) = rest.plus other.tally := by
  induction cs generalizing place with
  | nil => cases here
  | cons first cs ih =>
    cases place with
    | zero =>
      obtain rfl : first = c := Option.some.inj here
      exact ⟨tally cs, rfl, fun other => rfl⟩
    | succ place =>
      obtain ⟨rest, now, later⟩ := ih here
      have swap (s t : Counters) : (rest.plus s).plus t = (rest.plus t).plus s := by
        rw [Counters.plus_assoc, Counters.plus_comm s, Counters.plus_assoc]
      refine ⟨rest.plus first.tally, ?_, fun other => ?_⟩
      · rw [tally, now, swap]
      · rw [List.set_cons_succ, tally, later, swap]

theorem tally_ofChunks (peers : List (List Bytes)) :
    tally (peers.map Connection.ofChunks) = .ofConnections 0 0 := by
  induction peers with
  | nil => rfl
  | cons chunks peers ih =>
    rw [List.map_cons, tally, ih]
    exact Counters.plus_nothing _

theorem serves_ofDirectory (capacity : Nat) (d : Directory) (peers : List (List Bytes)) :
    Serves capacity d peers [] (ofDirectory d peers) where
  directory := by
    have nothing : (fun c : Counters => c.plus (.ofConnections 0 0)) = id :=
      funext Counters.plus_nothing
    simp only [ofDirectory, tally_ofChunks, Directory.credit, nothing]
    rfl
  places := List.length_map _
  follows := fun place c chunks here peer => by
    simp only [ofDirectory, List.getElem?_map, peer, Option.map_some] at here
    obtain rfl := Option.some.inj here
    exact Connection.follows_ofChunks capacity chunks

theorem place_of_reading {l : EventLoop} {place : Nat} : ∀ x ∈ l.reading place, x.place = place := by
  intro x here
  unfold reading at here
  split at here
  · cases here
  · obtain ⟨b, -, rfl⟩ := List.mem_map.mp here
    rfl

variable {capacity : Nat} {d : Directory} {peers : List (List Bytes)} {read : List Parcel}
  {l : EventLoop}

theorem step_at {place : Nat} {c : Connection} (here : l.connections[place]? = some c) :
    l.step capacity place =
      ⟨(c.step capacity l.directory).1, l.connections.set place (c.step capacity l.directory).2⟩ := by
  simp only [EventLoop.step, here]

theorem Serves.step (h : Serves capacity d peers read l) (place : Nat) :
    Serves capacity d peers (read ++ l.reading place) (l.step capacity place) := by
  obtain ⟨directory, places, follows⟩ := h
  cases here : l.connections[place]? with
  | none =>
    have nothing : l.reading place = [] := by simp only [reading, here]
    have still : l.step capacity place = l := by simp only [EventLoop.step, here]
    rw [nothing, still, List.append_nil]
    exact ⟨directory, places, follows⟩
  | some c =>
    obtain ⟨rest, now, later⟩ := tally_split here
    have inside : place < l.connections.length := (List.getElem?_eq_some_iff.mp here).1
    obtain ⟨sent, peer⟩ : ∃ sent, peers[place]? = some sent :=
      ⟨_, List.getElem?_eq_getElem (places ▸ inside)⟩
    have reads : l.reading place = c.next?.toList.map (Parcel.mk place) := by
      simp only [reading, here]
    have before : l.directory = ((d.dispatchAll capacity read).1.credit rest).credit c.tally := by
      rw [directory, now, Directory.credit_credit]
    obtain ⟨stores, moved⟩ := Connection.step_follows (follows place c _ here peer) place
      ((d.dispatchAll capacity read).1.credit rest)
    rw [← before, ← reads, Directory.dispatchAll_credit] at stores moved
    rw [step_at here]
    refine ⟨?_, ?_, fun other c' chunks there sender => ?_⟩
    · rw [later, Directory.dispatchAll_append, stores, Directory.credit_credit]
    · rw [List.length_set, places]
    · rw [Directory.dispatchAll_append, Parcel.own_append, Parcel.own_append]
      -- nobody else has read anything or been sent anything
      by_cases same : other = place
      · subst same
        rw [List.getElem?_set_self inside] at there
        obtain rfl := Option.some.inj there
        obtain rfl := Option.some.inj (peer.symm.trans sender)
        exact moved
      · rw [List.getElem?_set_ne (Ne.symm same)] at there
        rw [Parcel.own_of_place (Ne.symm same) place_of_reading,
          Parcel.own_of_place (Ne.symm same) (Directory.place_of_dispatchAll place_of_reading), List.append_nil,
          List.append_nil]
        exact follows other c' chunks there sender

theorem Serves.run (h : Serves capacity d peers read l) (places : List Nat) :
    Serves capacity d peers (read ++ l.readings capacity places) (l.run capacity places) := by
  induction places generalizing read l with
  | nil =>
    rw [readings, List.append_nil]
    exact h
  | cons place places ih =>
    rw [readings, ← List.append_assoc]
    exact ih (h.step place)

theorem tally_eq (cs : List Connection) :
    tally cs = .ofConnections (UInt64.ofNat (cs.countP Connection.isOpened))
      (UInt64.ofNat (cs.countP Connection.isActive)) := by
  have counted (fact : Connection → Bool) (c : Connection) (cs : List Connection) :
      UInt64.ofNat (cs.countP fact) + Counters.tick (fact c) =
        UInt64.ofNat ((c :: cs).countP fact) := by
    rw [List.countP_cons, UInt64.ofNat_add]
    cases fact c <;> rfl
  induction cs with
  | nil => rfl
  | cons c cs ih => rw [tally, ih, Connection.tally, Counters.ofConnections_plus, counted, counted]

theorem Serves.counts (h : Serves capacity d peers read l) :
    (l.directory.counters.since d.counters).connectionsTotal =
        UInt64.ofNat (l.connections.countP Connection.isOpened) ∧
      (l.directory.counters.since d.counters).connectionsActive =
        UInt64.ofNat (l.connections.countP Connection.isActive) := by
  obtain ⟨total, active⟩ := Directory.connections_dispatchAll capacity d read
  have back (a b : UInt64) : a + b - a = b := by grind
  simp only [h.directory, tally_eq, Directory.credit, Directory.count, Counters.plus,
    Counters.ofConnections, Counters.since, total, active, back, and_self]

theorem Serves.finished (h : Serves capacity d peers read l) (stopped : l.IsOver) {place : Nat}
    {c : Connection} {chunks : List Bytes} (here : l.connections[place]? = some c)
    (peer : peers[place]? = some chunks) :
    Parcel.own place read = chunks ∧
      c.written = (Parcel.own place (d.dispatchAll capacity read).2).flatten := by
  obtain ⟨unread, sent, -, ended⟩ := h.follows place c chunks here peer
  have gone : c.phase = .gone := stopped c (List.mem_of_getElem? here)
  have nothing : c.staged = [] := by rw [Connection.staged, gone]; rfl
  rw [ended (Or.inr gone), List.append_nil] at unread
  rw [nothing, List.append_nil] at sent
  exact ⟨unread, sent⟩

theorem counts_of_isOver (stopped : l.IsOver) :
    l.connections.countP Connection.isOpened = l.connections.length ∧
      l.connections.countP Connection.isActive = 0 := by
  constructor
  · rw [List.countP_eq_length]
    intro c here
    rw [Connection.isOpened, stopped c here]
    rfl
  · rw [List.countP_eq_zero]
    intro c here
    simp [Connection.isActive, stopped c here]

theorem stepsLeft_run {place : Nat} {c : Connection} (here : l.connections[place]? = some c)
    (places : List Nat) :
    ∃ c', (l.run capacity places).connections[place]? = some c' ∧
      c'.stepsLeft ≤ c.stepsLeft - places.count place := by
  induction places generalizing l c with
  | nil => exact ⟨c, here, Nat.le_refl _⟩
  | cons other places ih =>
    obtain ⟨c₁, there, fewer⟩ : ∃ c₁, (l.step capacity other).connections[place]? = some c₁ ∧
        c₁.stepsLeft ≤ c.stepsLeft - (if other = place then 1 else 0) := by
      by_cases same : other = place
      · subst same
        have inside := (List.getElem?_eq_some_iff.mp here).1
        rw [step_at here, List.getElem?_set_self inside, if_pos rfl]
        exact ⟨_, rfl, Connection.stepsLeft_step capacity l.directory c⟩
      · refine ⟨c, ?_, by rw [if_neg same]; exact Nat.le_refl _⟩
        rw [← here]
        unfold EventLoop.step
        split
        · rfl
        · exact List.getElem?_set_ne same
    obtain ⟨c', last, fewest⟩ := ih there
    refine ⟨c', last, ?_⟩
    rw [List.count_cons]
    simp only [beq_iff_eq]
    omega

theorem isOver_of_turns (capacity : Nat) (d : Directory) {peers : List (List Bytes)}
    {places : List Nat}
    (turns : ∀ place chunks, peers[place]? = some chunks →
      (Connection.ofChunks chunks).stepBound ≤ places.count place) :
    ((ofDirectory d peers).run capacity places).IsOver := by
  have served := (serves_ofDirectory capacity d peers).run places
  intro c here
  obtain ⟨place, found⟩ := List.mem_iff_getElem?.mp here
  have inside : place < peers.length :=
    served.places ▸ (List.getElem?_eq_some_iff.mp found).1
  obtain ⟨chunks, peer⟩ : ∃ chunks, peers[place]? = some chunks :=
    ⟨_, List.getElem?_eq_getElem inside⟩
  have start : (ofDirectory d peers).connections[place]? = some (Connection.ofChunks chunks) := by
    simp only [ofDirectory, List.getElem?_map, peer, Option.map_some]
  obtain ⟨c', last, few⟩ := @stepsLeft_run capacity _ _ _ start places
  obtain rfl := Option.some.inj (found.symm.trans last)
  have enough := turns place chunks peer
  have first : (Connection.ofChunks chunks).stepsLeft = 2 * chunks.length + 3 := rfl
  have bound : (Connection.ofChunks chunks).stepBound = 2 * chunks.length + 4 := rfl
  exact Connection.gone_of_stepsLeft (by omega)

theorem place_of_readings {places : List Nat} (h : Serves capacity d peers read l) :
    ∀ x ∈ l.readings capacity places, x.place < peers.length := by
  induction places generalizing read l with
  | nil => exact fun x here => by cases here
  | cons place places ih =>
    intro x here
    rcases List.mem_append.mp here with now | later
    · rw [place_of_reading x now, ← h.places]
      unfold reading at now
      split at now
      · cases now
      · rename_i c there
        exact (List.getElem?_eq_some_iff.mp there).1
    · exact ih (h.step place) x later

/-- A loop with a single connection does what a listener does that serves it alone, by way of a buffer that
may hold anything from before. -/
theorem serves_alone {chunks : List Bytes} (h : Serves capacity d [chunks] read l) (stopped : l.IsOver)
    (placed : ∀ x ∈ read, x.place < 1) {buffer : Bytes} (size : buffer.length = capacity) :
    l.directory = (d.serveChunks buffer chunks).1 ∧
      l.connections.map Connection.written = [(d.serveChunks buffer chunks).2.2.flatten] := by
  obtain ⟨c, only⟩ : ∃ c, l.connections = [c] := List.length_eq_one_iff.mp h.places
  have here : l.connections[0]? = some c := by rw [only]; rfl
  obtain ⟨reads, writes⟩ : Parcel.own 0 read = chunks ∧
      c.written = (Parcel.own 0 (d.dispatchAll capacity read).2).flatten :=
    h.finished stopped here rfl
  have zero : ∀ x ∈ read, x.place = 0 := fun x inside => Nat.lt_one_iff.mp (placed x inside)
  have whole : chunks.map (Parcel.mk 0) = read := by rw [← reads, (Parcel.map_own zero).2]
  obtain ⟨last, replies⟩ := Directory.serveChunks_eq_dispatchAll 0 d buffer chunks
  rw [size, whole] at last replies
  obtain ⟨opened, active⟩ := counts_of_isOver stopped
  have tallied : tally l.connections = .ofConnections 1 0 := by
    rw [tally_eq, opened, active, only]
    rfl
  refine ⟨?_, ?_⟩
  · rw [h.directory, tallied, last]
  · rw [only, List.map_singleton, writes, (Parcel.map_own (Directory.place_of_dispatchAll zero)).1, replies]

theorem run_single (capacity n : Nat) (d : Directory) (c : Connection) :
    run capacity ⟨d, [c]⟩ (List.replicate n 0) =
      ⟨(c.runFor capacity n d).1, [(c.runFor capacity n d).2]⟩ := by
  induction n generalizing d c with
  | zero => rfl
  | succ n ih =>
    rw [List.replicate_succ]
    exact ih (c.step capacity d).1 (c.step capacity d).2

theorem run_eq_serveStream (capacity : Nat) (d : Directory) (chunks : List Bytes) :
    let alone := (Connection.ofChunks chunks).run capacity d
    let stream := d.serveStream capacity chunks
    alone.1 = stream.1 ∧ alone.2.written = stream.2.flatten := by
  intro alone stream
  have single := run_single capacity (Connection.ofChunks chunks).stepBound d (.ofChunks chunks)
  have stopped : (run capacity (ofDirectory d [chunks])
      (List.replicate (Connection.ofChunks chunks).stepBound 0)).IsOver := by
    refine isOver_of_turns capacity d fun place sent peer => ?_
    cases place with
    | zero =>
      obtain rfl : chunks = sent := Option.some.inj peer
      exact Nat.le_of_eq List.count_replicate_self.symm
    | succ place => cases peer
  have start := serves_ofDirectory capacity d [chunks]
  obtain ⟨last, written⟩ := serves_alone (start.run _) stopped (place_of_readings start)
    List.length_replicate
  have same : ofDirectory d [chunks] = ⟨d, [.ofChunks chunks]⟩ := rfl
  rw [same, single] at last written
  exact ⟨last, List.singleton_inj.mp written⟩

/-- Any number of connections, in any order of their steps. The stores evolve as if what was read had been
dispatched in order; what was sent to a peer, with what is staged for it, are the replies to its own chunks;
the connections that were opened and those that are not closed yet are counted. Every connection that gets
its turns comes to its end, with all its chunks answered, and a single one ends as if it had been served by
the listener that serves one at a time. -/
theorem connections_isolated (capacity : Nat) (d : Directory) (peers : List (List Bytes))
    (places : List Nat) :
    let start := ofDirectory d peers
    let l := start.run capacity places
    let read := start.readings capacity places
    let serial := d.dispatchAll capacity read
    let change := l.directory.counters.since d.counters
    l.directory.holdings = serial.1.holdings ∧
    l.connections.length = peers.length ∧
    (∀ (place : Nat) (c : Connection) (chunks : List Bytes),
      l.connections[place]? = some c → peers[place]? = some chunks →
        Parcel.own place read ++ c.chunks = chunks ∧
          c.written ++ c.staged = (Parcel.own place serial.2).flatten) ∧
    change.connectionsTotal = UInt64.ofNat (l.connections.countP Connection.isOpened) ∧
    change.connectionsActive = UInt64.ofNat (l.connections.countP Connection.isActive) ∧
    ((∀ place chunks, peers[place]? = some chunks →
      (Connection.ofChunks chunks).stepBound ≤ places.count place) → l.IsOver) ∧
    (l.IsOver →
      (∀ (place : Nat) (c : Connection) (chunks : List Bytes),
        l.connections[place]? = some c → peers[place]? = some chunks →
          Parcel.own place read = chunks ∧ c.written = (Parcel.own place serial.2).flatten) ∧
      change.connectionsTotal = UInt64.ofNat peers.length ∧
      change.connectionsActive = 0) ∧
    (l.IsOver → ∀ chunks, peers = [chunks] → ∀ buffer : Bytes, buffer.length = capacity →
      l.directory = (d.serveChunks buffer chunks).1 ∧
        l.connections.map Connection.written = [(d.serveChunks buffer chunks).2.2.flatten]) := by
  intro start l read serial change
  have first := serves_ofDirectory capacity d peers
  have served : Serves capacity d peers read l := first.run places
  obtain ⟨total, active⟩ := served.counts
  have stores : l.directory.holdings = serial.1.holdings := by rw [served.directory]; rfl
  have own (place : Nat) (c : Connection) (chunks : List Bytes)
      (here : l.connections[place]? = some c) (peer : peers[place]? = some chunks) :
      Parcel.own place read ++ c.chunks = chunks ∧
        c.written ++ c.staged = (Parcel.own place serial.2).flatten :=
    have follows := served.follows place c chunks here peer
    ⟨follows.unread, follows.sent⟩
  refine ⟨stores, served.places, own, total, active, isOver_of_turns capacity d, fun stopped => ?_,
    fun stopped chunks single buffer size => ?_⟩
  · obtain ⟨opened, closed⟩ := counts_of_isOver stopped
    rw [opened, served.places] at total
    rw [closed] at active
    exact ⟨fun _ _ _ here peer => served.finished stopped here peer, total, active⟩
  · subst single
    exact serves_alone served stopped (place_of_readings first) size

/-- What one peer assigns the other finds. A request that is cut short gets no reply, and the connection goes
on. -/
example :
    let device : Identity := ⟨⟨9⟩, { (default : Device) with devEui := ⟨0xD009⟩ }⟩
    let assign := (Request.assign 42 42 device).encode
    let lookup := (Request.euiLookup 42 42 ⟨9⟩).encode
    let count := (Request.operation .count 42 42 0 0).encode
    let peers := [[assign, lookup.take 3, count], [lookup]]
    let l := (ofDirectory (Directory.inMemory none 42 42 ⟨[], []⟩ default) peers).run 512
      [0, 0, 0, 1, 0, 1, 1, 0, 1, 0, 0, 1, 0]
    l.connections.map Connection.phase = [.gone, .gone] ∧
      l.connections.map Connection.written =
        [(Response.operation ⟨.assign, 42, 42⟩ 0 1 .ok).encode ++
            (Response.count ⟨.count, 42, 42⟩ 0 0 1).encode,
          (Response.mk ⟨.euiLookup, 0, 42⟩ (.identity device)).encode] := by
  decide +kernel

end EventLoop
end IdentityDirectory
