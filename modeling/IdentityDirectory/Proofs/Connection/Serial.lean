import IdentityDirectory.Connection.Stream
import IdentityDirectory.Proofs.Directory.Ledger
/-!
Chunks that are dispatched one at a time. Neither what a buffer still holds nor what is counted meanwhile
makes a difference to the replies, so a stream is served as if its chunks had been dispatched.
-/
namespace IdentityDirectory

structure Parcel where
  place : Nat
  bytes : Bytes
  deriving DecidableEq, Repr

namespace Parcel

def own (place : Nat) (parcels : List Parcel) : List Bytes :=
  (parcels.filter fun x => x.place = place).map bytes

theorem own_append (place : Nat) (xs ys : List Parcel) :
    own place (xs ++ ys) = own place xs ++ own place ys := by
  simp only [own, List.filter_append, List.map_append]

theorem own_single (place : Nat) (b : Bytes) : own place [⟨place, b⟩] = [b] := by
  simp [own]

theorem map_own {place : Nat} {parcels : List Parcel} (placed : ∀ x ∈ parcels, x.place = place) :
    own place parcels = parcels.map bytes ∧
      (own place parcels).map (mk place) = parcels := by
  have all : parcels.filter (fun x => x.place = place) = parcels := by
    rw [List.filter_eq_self]
    intro x here
    simp [placed x here]
  have back : parcels.map (mk place ∘ bytes) = parcels := by
    have same : parcels.map (mk place ∘ bytes) = parcels.map id :=
      List.map_congr_left fun x here => by rw [← placed x here]; rfl
    rw [same, List.map_id]
  rw [own, all, List.map_map]
  exact ⟨rfl, back⟩

theorem own_of_place {place other : Nat} (elsewhere : other ≠ place) {parcels : List Parcel}
    (placed : ∀ x ∈ parcels, x.place = other) : own place parcels = [] := by
  have none : parcels.filter (fun x => x.place = place) = [] := by
    rw [List.filter_eq_nil_iff]
    intro x here
    simp [placed x here, elsewhere]
  rw [own, none, List.map_nil]

end Parcel

namespace Counters

theorem plus_assoc (c s t : Counters) : (c.plus s).plus t = c.plus (s.plus t) := by
  simp only [plus, UInt64.add_assoc]

theorem plus_comm (s t : Counters) : s.plus t = t.plus s := by
  simp only [plus, UInt64.add_comm]

def ofConnections (total active : UInt64) : Counters where
  requestsTotal := 0
  requestsMalformed := 0
  accessDenied := 0
  backendErrors := 0
  listsTruncated := 0
  responsesDropped := 0
  bytesSent := 0
  bytesReceived := 0
  connectionsTotal := total
  connectionsActive := active
  transportErrors := 0

theorem plus_nothing (c : Counters) : c.plus (ofConnections 0 0) = c := by
  simp only [plus, ofConnections, UInt64.add_zero]

theorem ofConnections_plus (n m k l : UInt64) :
    (ofConnections n m).plus (ofConnections k l) = ofConnections (n + k) (m + l) := by
  simp only [plus, ofConnections, UInt64.add_zero]

end Counters

namespace Directory

def credit (d : Directory) (t : Counters) : Directory := d.count fun c => c.plus t

theorem credit_credit (d : Directory) (s t : Counters) : (d.credit s).credit t = d.credit (s.plus t) := by
  simp only [credit, count, Counters.plus_assoc]

theorem count_connectionOpened (d : Directory) :
    d.count .connectionOpened = d.credit (.ofConnections 1 1) := by
  simp only [count, credit, Counters.connectionOpened, Counters.plus, Counters.ofConnections,
    UInt64.add_zero]

theorem count_connectionClosed (d : Directory) :
    d.count .connectionClosed = d.credit (.ofConnections 0 (-1)) := by
  simp only [count, credit, Counters.connectionClosed, Counters.plus, Counters.ofConnections,
    UInt64.add_zero, UInt64.sub_eq_add_neg]

theorem eq_of_uncounted {d e : Directory} (same : d.uncounted = e.uncounted)
    (counted : d.counters = e.counters) : d = e := by
  have whole : d = d.uncounted.count fun _ => d.counters := rfl
  rw [whole, same, counted]
  rfl

theorem account_congr {d e : Directory} (same : d.uncounted = e.uncounted) (p : Packet) :
    (d.moment p).account = (e.moment p).account := by
  have reply : (d.moment p).reply = (e.moment p).reply :=
    (Prod.mk.inj (dispatch_congr same p.bytes p.capacity)).2
  have codes := codes_of_uncounted same
  have denied : (d.moment p).isDenied = (e.moment p).isDenied :=
    congrFun (refuses_congr codes.1 codes.2) p.bytes
  have known (h : Header) : d.isAuthorized h = e.isAuthorized h := by
    simp only [isAuthorized, codes.1, codes.2]
  have failure (q : Request) : d.storeFailure q = e.storeFailure q := by
    have stores := congrArg (fun d : Directory => d.storeFailure q) same
    exact stores
  have found (q : Request) : d.returned q = e.returned q := by
    have stores := congrArg (fun d : Directory => d.returned q) same
    exact stores
  have failed : (d.moment p).isFailed = (e.moment p).isFailed := by
    simp only [Moment.isFailed, moment, known, failure]
  have short : (d.moment p).isShortened = (e.moment p).isShortened := by
    rw [moment_reply, moment_reply] at reply
    simp only [Moment.isShortened, moment, known, found, reply]
    rfl
  simp only [Moment.account, reply, denied, failed, short]
  rfl

theorem dispatch_credit (d : Directory) (t : Counters) (b : Bytes) (capacity : Nat) :
    (d.credit t).dispatch b capacity =
      ((d.dispatch b capacity).1.credit t, (d.dispatch b capacity).2) := by
  have same : (d.credit t).uncounted = d.uncounted := rfl
  obtain ⟨stores, reply⟩ := Prod.mk.inj (dispatch_congr same b capacity)
  have counted : ((d.credit t).dispatch b capacity).1.counters =
      ((d.dispatch b capacity).1.credit t).counters := by
    have crediting := counters_step (d.credit t) ⟨b, capacity⟩
    have plain := counters_step d ⟨b, capacity⟩
    rw [account_congr same] at crediting
    -- the account is the same, so it may be added first
    calc ((d.credit t).dispatch b capacity).1.counters
        = (d.counters.plus t).plus (d.moment ⟨b, capacity⟩).account := crediting
      _ = (d.counters.plus (d.moment ⟨b, capacity⟩).account).plus t := by
        rw [Counters.plus_assoc, Counters.plus_comm t, ← Counters.plus_assoc]
      _ = (d.dispatch b capacity).1.counters.plus t := congrArg (Counters.plus · t) plain.symm
  exact Prod.ext (eq_of_uncounted stores counted) reply

/-- Dispatches chunks one at a time. The replies keep the places; where there is none, nothing is sent. -/
def dispatchAll (capacity : Nat) (d : Directory) : List Parcel → Directory × List Parcel
  | [] => (d, [])
  | x :: rest =>
    let (d, reply) := d.dispatch x.bytes capacity
    let (d, replies) := d.dispatchAll capacity rest
    (d, ⟨x.place, reply.getD []⟩ :: replies)

theorem dispatchAll_append (capacity : Nat) (d : Directory) (xs ys : List Parcel) :
    d.dispatchAll capacity (xs ++ ys) =
      (((d.dispatchAll capacity xs).1.dispatchAll capacity ys).1,
        (d.dispatchAll capacity xs).2 ++ ((d.dispatchAll capacity xs).1.dispatchAll capacity ys).2) := by
  induction xs generalizing d with
  | nil => rfl
  | cons x xs ih => simp only [List.cons_append, dispatchAll, ih]

theorem place_of_dispatchAll {capacity place : Nat} {d : Directory} {parcels : List Parcel}
    (placed : ∀ x ∈ parcels, x.place = place) :
    ∀ x ∈ (d.dispatchAll capacity parcels).2, x.place = place := by
  induction parcels generalizing d with
  | nil => exact fun x here => by cases here
  | cons y parcels ih =>
    intro x here
    rcases List.mem_cons.mp here with rfl | later
    · exact placed y List.mem_cons_self
    · exact ih (fun z there => placed z (List.mem_cons_of_mem y there)) x later

theorem dispatchAll_credit (capacity : Nat) (d : Directory) (t : Counters) (xs : List Parcel) :
    (d.credit t).dispatchAll capacity xs =
      ((d.dispatchAll capacity xs).1.credit t, (d.dispatchAll capacity xs).2) := by
  induction xs generalizing d with
  | nil => rfl
  | cons x xs ih => simp only [dispatchAll, dispatch_credit, ih]

theorem connections_dispatchAll (capacity : Nat) (d : Directory) (xs : List Parcel) :
    (d.dispatchAll capacity xs).1.counters.connectionsTotal = d.counters.connectionsTotal ∧
      (d.dispatchAll capacity xs).1.counters.connectionsActive = d.counters.connectionsActive := by
  induction xs generalizing d with
  | nil => exact ⟨rfl, rfl⟩
  | cons x xs ih =>
    have first := counters_step d ⟨x.bytes, capacity⟩
    have total := congrArg Counters.connectionsTotal first
    have active := congrArg Counters.connectionsActive first
    obtain ⟨later, laterActive⟩ := ih (d.dispatch x.bytes capacity).1
    exact ⟨later.trans (total.trans (UInt64.add_zero _)),
      laterActive.trans (active.trans (UInt64.add_zero _))⟩

theorem query_buffer (d : Directory) (b buffer : Bytes) :
    (d.query b buffer).2.2.length = buffer.length ∧
      (d.query b buffer).2.2.take (d.query b buffer).2.1 =
        (d.dispatch b buffer.length).2.getD [] := by
  rw [query_eq_dispatch]
  cases sent : (d.dispatch b buffer.length).2 with
  | none => exact ⟨rfl, List.take_zero⟩
  | some reply =>
    have room := (length_of_dispatch sent).2
    refine ⟨?_, List.take_left⟩
    simp only [List.length_append, List.length_drop]
    omega

theorem query_directory (d : Directory) (b buffer : Bytes) :
    (d.query b buffer).1 = (d.dispatch b buffer.length).1 := by
  rw [query_eq_dispatch]

/-- A stream through one buffer. The induction is on the chunks, for any state the buffer is in. -/
theorem exchangeAll_eq_dispatchAll (place : Nat) (d : Directory) (buffer : Bytes)
    (chunks : List Bytes) :
    (d.exchangeAll buffer chunks).1 =
        (d.dispatchAll buffer.length (chunks.map (Parcel.mk place))).1 ∧
      (d.exchangeAll buffer chunks).2.2 =
        (d.dispatchAll buffer.length (chunks.map (Parcel.mk place))).2.map Parcel.bytes := by
  induction chunks generalizing d buffer with
  | nil => exact ⟨rfl, rfl⟩
  | cons b rest ih =>
    obtain ⟨size, reply⟩ := query_buffer d b buffer
    obtain ⟨last, replies⟩ := ih (d.query b buffer).1 (d.query b buffer).2.2
    rw [size, query_directory] at last replies
    simp only [exchangeAll, List.map_cons, dispatchAll, query_directory, reply, last, replies,
      and_self]

theorem serveChunks_eq_dispatchAll (place : Nat) (d : Directory) (buffer : Bytes)
    (chunks : List Bytes) :
    let serial := d.dispatchAll buffer.length (chunks.map (Parcel.mk place))
    (d.serveChunks buffer chunks).1 = serial.1.credit (.ofConnections 1 0) ∧
      (d.serveChunks buffer chunks).2.2 = serial.2.map Parcel.bytes := by
  intro serial
  obtain ⟨last, replies⟩ :=
    exchangeAll_eq_dispatchAll place (d.count .connectionOpened) buffer chunks
  rw [count_connectionOpened, dispatchAll_credit] at last replies
  have active : (1 : UInt64) + -1 = 0 := rfl
  simp only [serveChunks, count_connectionOpened, count_connectionClosed, last, replies, credit_credit,
    Counters.ofConnections_plus, active, UInt64.add_zero]
  exact ⟨rfl, rfl⟩

/-- A device is assigned and looked up on one connection. -/
example :
    let device : Identity := ⟨⟨4⟩, { (default : Device) with devEui := ⟨0xD004⟩ }⟩
    let chunks := [(Request.assign 42 42 device).encode, (Request.euiLookup 42 42 ⟨4⟩).encode]
    let replies := ((inMemory none 42 42 ⟨[], []⟩ default).serveStream 512 chunks).2
    replies.map (fun b => (Response.decode b).toOption.map Response.body) =
      [some (.operation 0 1 0), some (.identity device)] := by
  decide +kernel

end Directory
end IdentityDirectory
