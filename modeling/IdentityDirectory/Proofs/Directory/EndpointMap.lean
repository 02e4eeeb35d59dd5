import IdentityDirectory.Proofs.Directory.RawReplies
import IdentityDirectory.Proofs.Store.GatewayKeys
import IdentityDirectory.Proofs.Store.RowMap
import IdentityDirectory.Proofs.Wire.RequestCodec
/-!
What a directory in memory knows of gateways, told from the outside: a finite map from identifiers to the
nineteen bytes of an endpoint, put together from the requests of a run and their replies. Requests that
differ in bytes that their family has no use for spell one endpoint.
-/
namespace IdentityDirectory
open Bytes

/-- The endpoint in a raw request. What its family has no use for is cleared. -/
def endpointAt (b : Bytes) : Bytes :=
  if byte b 21 = 0 then List.replicate 19 0
  else if byte b 21 = 4 then slice b 21 7 ++ List.replicate 12 0
  else slice b 21 19

structure Gateway.StandsIn (b : Bytes) (g : Gateway) : Prop where
  key : g.key = number b 13 8
  id : slice b 13 8 = bigEndian 8 g.id.value.toNat
  endpoint : endpointAt b = Gateway.encodeEndpoint g.endpoint
  absent : g.endpoint = none ↔ byte b 21 = 0
  wire : g.wire = g

theorem Gateway.standsIn_of_decode {b : Bytes} {h : Header} {g : Gateway}
    (read : Request.decode b = .ok ⟨h, .gateway g⟩) : g.StandsIn b := by
  have carries := Request.carries_of_decode read
  have layout : h.tag.layout = .gateway := carries.proper.symm
  have room := Request.room_of_gateway (Request.whole_of_decode read) layout
  obtain ⟨id, endpoint⟩ := carries.gateway g rfl
  constructor
  · exact id
  · rw [id, bigEndian_number (by omega)]
  · rw [Request.encodeEndpoint_of_carries room endpoint]
    unfold endpointAt
    split
    · rename_i family
      rw [slice_one (by omega), family]
      rfl
    · rfl
  · rcases found : g.endpoint with _ | ⟨ip, port⟩ | ⟨ip, port, flow, scope⟩ <;> rw [found] at endpoint
    · exact iff_of_true rfl endpoint
    · refine iff_of_false (by simp) ?_
      rw [endpoint.1]
      decide
    · refine iff_of_false (by simp) ?_
      rw [endpoint.1]
      decide
  · have still := congrArg Request.body (Request.wire_of_decode read)
    exact RequestBody.gateway.inj still

theorem Gateway.StandsIn.isZero_iff {b : Bytes} {g : Gateway} (spelled : g.StandsIn b) :
    g.id.isZero = true ↔ number b 13 8 = 0 := by
  rw [← spelled.key, Eui.isZero, decide_eq_true_eq]
  exact UInt64.toNat_inj.symm

theorem Gateway.encodeEndpoint_inj {e f : Option Endpoint} (first : e.map Endpoint.wire = e)
    (second : f.map Endpoint.wire = f) : encodeEndpoint e = encodeEndpoint f ↔ e = f := by
  constructor
  · intro same
    have here := decodeEndpoint_encodeEndpoint e []
    have there := decodeEndpoint_encodeEndpoint f []
    rw [same, there, first, second] at here
    exact (Except.ok.inj here).symm
  · rintro rfl
    rfl

theorem Gateway.endpoint_wire {g : Gateway} (wire : g.wire = g) :
    g.endpoint.map Endpoint.wire = g.endpoint :=
  congrArg Gateway.endpoint wire

abbrev EndpointMap := Finmap fun _ : Nat => Bytes

namespace EndpointMap

def lowest? (m : EndpointMap) (endpoint : Bytes) : Option Nat :=
  (m.keys.sort fun a c => a ≤ c).find? fun k => m.lookup k = some endpoint

/-- The identifier that a raw request names: its own, or if that is zero the lowest one with its endpoint. -/
def named? (m : EndpointMap) (b : Bytes) : Option Nat :=
  if number b 13 8 ≠ 0 then if number b 13 8 ∈ m then some (number b 13 8) else none
  else if byte b 21 = 0 then none
  else m.lowest? (endpointAt b)

/-- The map after a request: an assignment that was done sets an endpoint, a removal deletes what it names. -/
def after (code : Int32) (accessCode : UInt64) (m : EndpointMap) (x : Exchange) : EndpointMap :=
  let b := x.packet.bytes
  if x.packet.IsAuthorized code accessCode ∧ x.isDone then
    if byte b 0 = Tag.gatewayAssign.toByte then m.insert (number b 13 8) (endpointAt b)
    else if byte b 0 = Tag.gatewayRemove.toByte then
      match m.named? b with
      | some k => m.erase k
      | none => m
    else m
  else m

def ofLog (code : Int32) (accessCode : UInt64) (log : List Exchange) : EndpointMap :=
  log.foldl (after code accessCode) ∅

theorem lookup_of_lowest? {m : EndpointMap} {endpoint : Bytes} {k : Nat}
    (first : m.lowest? endpoint = some k) : m.lookup k = some endpoint := by
  have like := List.find?_some first
  exact of_decide_eq_true like

theorem lowest?_eq_some_iff {m : EndpointMap} {endpoint : Bytes} {k : Nat} :
    m.lowest? endpoint = some k ↔
      m.lookup k = some endpoint ∧ ∀ j, m.lookup j = some endpoint → k ≤ j := by
  have ascending : Rows.IsAscending id (m.keys.sort fun a c => a ≤ c) := m.keys.sortedLT_sort.pairwise
  have listed {j : Nat} (found : m.lookup j = some endpoint) : j ∈ m.keys.sort fun a c => a ≤ c :=
    (Finset.mem_sort _).mpr (Finmap.mem_keys.mpr (Finmap.mem_of_lookup_eq_some found))
  constructor
  · intro first
    refine ⟨lookup_of_lowest? first, ?_⟩
    intro j found
    exact Rows.key_le_of_find? ascending first (listed found) (decide_eq_true found)
  · rintro ⟨found, lowest⟩
    cases first : m.lowest? endpoint with
    | none =>
      have unlike := List.find?_eq_none.mp first k (listed found)
      simp [found] at unlike
    | some j =>
      have below := Rows.key_le_of_find? ascending first (listed found) (decide_eq_true found)
      have above := lowest j (lookup_of_lowest? first)
      exact congrArg some (Nat.le_antisymm below above)

theorem lowest?_eq_none_iff {m : EndpointMap} {endpoint : Bytes} :
    m.lowest? endpoint = none ↔ ∀ k, m.lookup k ≠ some endpoint := by
  unfold lowest?
  rw [List.find?_eq_none]
  constructor
  · intro unlike k found
    have listed := (Finset.mem_sort (fun a c => a ≤ c)).mpr
      (Finmap.mem_keys.mpr (Finmap.mem_of_lookup_eq_some found))
    exact unlike k listed (decide_eq_true found)
  · intro unlike k _ found
    exact unlike k (of_decide_eq_true found)

theorem named?_eq_some_iff {m : EndpointMap} {b : Bytes} {k : Nat} :
    m.named? b = some k ↔
      (number b 13 8 ≠ 0 ∧ k = number b 13 8 ∧ k ∈ m) ∨
        number b 13 8 = 0 ∧ byte b 21 ≠ 0 ∧ m.lookup k = some (endpointAt b) ∧
          ∀ j, m.lookup j = some (endpointAt b) → k ≤ j := by
  unfold named?
  by_cases set : number b 13 8 ≠ 0
  · by_cases member : number b 13 8 ∈ m
    · constructor
      · intro named
        rw [if_pos set, if_pos member] at named
        obtain rfl := Option.some.inj named
        exact Or.inl ⟨set, rfl, member⟩
      · rintro (⟨-, rfl, -⟩ | ⟨zero, -⟩)
        · rw [if_pos set, if_pos member]
        · exact absurd zero set
    · constructor
      · intro named
        rw [if_pos set, if_neg member] at named
        contradiction
      · rintro (⟨-, rfl, there⟩ | ⟨zero, -⟩)
        · exact absurd there member
        · exact absurd zero set
  · rw [if_neg set]
    have zero : number b 13 8 = 0 := not_not.mp set
    by_cases family : byte b 21 = 0
    · simp [family, set]
    · rw [if_neg family, lowest?_eq_some_iff]
      simp [zero, family]

structure Mirrors (m : EndpointMap) (s : GatewayStore) : Prop where
  memory : s.backing = .memory
  shown : Rows.Shown Gateway.key (fun g => Gateway.encodeEndpoint g.endpoint) m s.rows
  wire : ∀ g ∈ s.rows, g.wire = g

theorem mirrors_empty : Mirrors ∅ (.make .memory) where
  memory := rfl
  shown := Rows.shown_empty
  wire := fun g member => by contradiction

variable {m n : EndpointMap} {s : GatewayStore} {g : Gateway} {b : Bytes}

theorem Mirrors.governed (mirror : Mirrors m s) : s.Governed := ⟨mirror.memory, mirror.shown.sorted⟩

theorem Mirrors.withRows (mirror : Mirrors m s) {rows : List Gateway}
    (shown : Rows.Shown Gateway.key (fun g => Gateway.encodeEndpoint g.endpoint) n rows)
    (wire : ∀ g ∈ rows, g.wire = g) : Mirrors n (s.withRows rows) where
  memory := (mirror.governed.withRows shown.sorted).memory
  shown := shown
  wire := wire

theorem Mirrors.insert (mirror : Mirrors m s) (spelled : g.StandsIn b) :
    Mirrors (m.insert (number b 13 8) (endpointAt b))
      (s.withRows (Rows.insert Gateway.key g s.rows)) := by
  rw [← spelled.key, spelled.endpoint]
  apply mirror.withRows (mirror.shown.insert g)
  intro f member
  rcases Rows.mem_insert Gateway.key member with rfl | old
  · exact spelled.wire
  · exact mirror.wire f old

theorem Mirrors.erase (mirror : Mirrors m s) (k : Nat) :
    Mirrors (m.erase k) (s.withRows (Rows.erase Gateway.key k s.rows)) := by
  apply mirror.withRows (mirror.shown.erase k)
  intro f member
  exact mirror.wire f (List.mem_filter.mp member).1

theorem Mirrors.flush (mirror : Mirrors m s) (disk : Disk) : Mirrors m (s.flush disk).1 where
  memory := by
    unfold GatewayStore.flush
    rw [mirror.memory]
    rfl
  shown := mirror.shown
  wire := mirror.wire

theorem Mirrors.lowest?_eq (mirror : Mirrors m s) (spelled : g.StandsIn b) :
    m.lowest? (endpointAt b) = (s.rows.find? fun f => f.endpoint = g.endpoint).map Gateway.key := by
  unfold lowest?
  rw [mirror.shown.find?_sort_keys, spelled.endpoint]
  apply congrArg (Option.map Gateway.key)
  apply List.find?_congr
  intro f member
  rw [decide_eq_decide]
  exact Gateway.encodeEndpoint_inj (Gateway.endpoint_wire (mirror.wire f member))
    (Gateway.endpoint_wire spelled.wire)

theorem Mirrors.named?_eq (mirror : Mirrors m s) (spelled : g.StandsIn b) :
    m.named? b = (s.named? g).map Gateway.key := by
  have set := spelled.isZero_iff
  unfold named? GatewayStore.named?
  by_cases zero : number b 13 8 = 0
  · have unset : ¬ (!g.id.isZero) = true := by simp [set.mpr zero]
    rw [if_neg (not_not.mpr zero), if_neg unset, mirror.lowest?_eq spelled]
    by_cases family : byte b 21 = 0
    · have absent : g.endpoint.isNone = true := Option.isNone_iff_eq_none.mpr (spelled.absent.mpr family)
      rw [if_pos family, if_pos absent]
      rfl
    · have addressed : ¬ g.endpoint.isNone = true := fun absent =>
        family (spelled.absent.mp (Option.isNone_iff_eq_none.mp absent))
      rw [if_neg family, if_neg addressed]
  · have named : (!g.id.isZero) = true := by simp [mt set.mp zero]
    have entry := mirror.shown.entries (number b 13 8)
    rw [if_pos zero, if_pos named, spelled.key]
    cases found : Rows.find? Gateway.key (number b 13 8) s.rows with
    | none =>
      rw [found] at entry
      rw [if_neg (Finmap.lookup_eq_none.mp entry)]
      rfl
    | some f =>
      rw [found] at entry
      rw [if_pos (Finmap.mem_of_lookup_eq_some entry), ← (Rows.mem_of_find? found).2]
      rfl

theorem after_of_not_done (code : Int32) (accessCode : UInt64) (m : EndpointMap) {x : Exchange}
    (undone : x.isDone = false) : m.after code accessCode x = m := by
  simp [after, undone]

theorem after_of_unauthorized {code : Int32} {accessCode : UInt64} (m : EndpointMap) {x : Exchange}
    (foreign : ¬ x.packet.IsAuthorized code accessCode) : m.after code accessCode x = m := by
  simp [after, foreign]

theorem after_of_tag (code : Int32) (accessCode : UInt64) (m : EndpointMap) {x : Exchange} {t : Tag}
    (tag : byte x.packet.bytes 0 = t.toByte) (other : t ≠ .gatewayAssign ∧ t ≠ .gatewayRemove) :
    m.after code accessCode x = m := by
  have assign : ¬ t.toByte = Tag.gatewayAssign.toByte := fun same => other.1 (Tag.toByte_injective same)
  have remove : ¬ t.toByte = Tag.gatewayRemove.toByte := fun same => other.2 (Tag.toByte_injective same)
  simp [after, tag, assign, remove]

theorem after_of_assigned {code : Int32} {accessCode : UInt64} (m : EndpointMap) {x : Exchange}
    (known : x.packet.IsAuthorized code accessCode) (done : x.isDone = true)
    (tag : byte x.packet.bytes 0 = Tag.gatewayAssign.toByte) :
    m.after code accessCode x = m.insert (number x.packet.bytes 13 8) (endpointAt x.packet.bytes) := by
  simp [after, known, done, tag]

theorem after_of_removed {code : Int32} {accessCode : UInt64} {m : EndpointMap} {x : Exchange} {k : Nat}
    (known : x.packet.IsAuthorized code accessCode) (done : x.isDone = true)
    (tag : byte x.packet.bytes 0 = Tag.gatewayRemove.toByte)
    (named : m.named? x.packet.bytes = some k) : m.after code accessCode x = m.erase k := by
  have other : ¬ Tag.gatewayRemove.toByte = Tag.gatewayAssign.toByte := by decide
  simp [after, known, done, tag, other, named]

theorem Mirrors.outcome {code : Int32} {accessCode : UInt64} {d e : Directory} {q : Request}
    {r : Response} (mirror : Mirrors m d.gateways) (outcome : Directory.Outcome d q e r) {p : Packet}
    {reply : Option Bytes} (read : Request.decode p.bytes = .ok q)
    (known : p.IsAuthorized code accessCode) (room : 22 ≤ p.capacity)
    (sent : reply = if r.leastSize ≤ p.capacity then some (r.cut p.capacity).encode else none) :
    Mirrors (m.after code accessCode ⟨p, reply⟩) e.gateways := by
  have parts := Request.readFrom_of_decode read
  have other {t : Tag} (tag : q.header.tag = t) (other : t ≠ .gatewayAssign ∧ t ≠ .gatewayRemove) :
      m.after code accessCode ⟨p, reply⟩ = m :=
    after_of_tag code accessCode m (parts.tag.trans (by rw [tag])) other
  cases outcome with
  | read r quiet unsaved =>
    have calm : q.header.tag ≠ .gatewayAssign ∧ q.header.tag ≠ .gatewayRemove := by
      constructor <;> intro tag <;> rw [tag] at quiet <;> contradiction
    rw [other rfl calm]
    exact mirror
  | refused cause mutation =>
    have undone := Exchange.isDone_of_operation sent room
    rw [decide_eq_false cause.code_ne_zero] at undone
    rw [after_of_not_done _ _ _ undone]
    exact mirror
  | assigned tag stored =>
    rw [other tag (by decide)]
    exact mirror
  | removed tag erased =>
    rw [other tag (by decide)]
    exact mirror
  | @gatewayAssigned header g s tag stored =>
    have done := Exchange.isDone_of_operation sent room
    obtain rfl := GatewayStore.put_eq_ok stored
    rw [after_of_assigned m known done (parts.tag.trans (congrArg Tag.toByte tag))]
    exact mirror.insert (Gateway.standsIn_of_decode read)
  | @gatewayRemoved header g s tag erased =>
    have done := Exchange.isDone_of_operation sent room
    obtain ⟨f, found, rfl⟩ := GatewayStore.remove_eq_ok erased
    have named : m.named? p.bytes = some f.key := by
      rw [mirror.named?_eq (Gateway.standsIn_of_decode read), GatewayStore.find_eq_ok_iff.mp found]
      rfl
    rw [after_of_removed known done (parts.tag.trans (congrArg Tag.toByte tag)) named]
    exact mirror.erase f.key
  | saved r tag =>
    rw [other tag (by decide)]
    exact mirror
  | gatewaySaved r tag =>
    rw [other tag (by decide)]
    exact mirror.flush d.disk

theorem keepsUp (code : Int32) (accessCode : UInt64) :
    Directory.KeepsUp code accessCode (after code accessCode) fun m h => Mirrors m h.gateways where
  undone := fun m _ => after_of_not_done code accessCode m
  foreign := fun m _ => after_of_unauthorized m
  outcome := fun mirror outcome => Mirrors.outcome mirror outcome

end EndpointMap
end IdentityDirectory
