import IdentityDirectory.Proofs.Directory.EndpointMap
/-!
Replies about gateways, told by a map of endpoints. Every request of a run that carries the codes is
answered as the map of the run so far says, byte by byte.
-/
namespace IdentityDirectory
open Bytes

namespace EndpointMap

def page (m : EndpointMap) (offset count : Nat) : List Bytes :=
  ((m.keys.sort fun a c => a ≤ c).drop offset |>.take count).map fun k =>
    bigEndian 8 k ++ (m.lookup k).getD []

/-- What the map says about raw bytes, within a capacity. -/
structure Says (m : EndpointMap) (b : Bytes) (capacity : Nat) (reply : Bytes) : Prop where
  foundById : byte b 0 = Tag.gatewayAddrLookup.toByte → number b 13 8 ≠ 0 →
    ∀ endpoint, m.lookup (number b 13 8) = some endpoint →
      reply = replyHead b (signedBytes 0) ++ (slice b 13 8 ++ endpoint)
  missedById : byte b 0 = Tag.gatewayAddrLookup.toByte → number b 13 8 = 0 ∨ number b 13 8 ∉ m →
    reply = replyHead b (signedBytes (-2)) ++ (slice b 13 8 ++ List.replicate 19 0)
  foundByEndpoint : byte b 0 = Tag.gatewayIdLookup.toByte → byte b 21 ≠ 0 →
    ∀ k, m.lookup k = some (endpointAt b) → (∀ j, m.lookup j = some (endpointAt b) → k ≤ j) →
      reply = replyHead b (signedBytes 0) ++ (bigEndian 8 k ++ endpointAt b)
  missedByEndpoint : byte b 0 = Tag.gatewayIdLookup.toByte →
    byte b 21 = 0 ∨ (∀ k, m.lookup k ≠ some (endpointAt b)) →
      reply = replyHead b (signedBytes (-2)) ++ (List.replicate 8 0 ++ endpointAt b)
  assigned : byte b 0 = Tag.gatewayAssign.toByte → reply = changeReply b 1 0
  removed : byte b 0 = Tag.gatewayRemove.toByte → ∀ k, m.named? b = some k → reply = changeReply b 1 0
  missing : byte b 0 = Tag.gatewayRemove.toByte → m.named? b = none → reply = changeReply b 0 (-2)
  counted : byte b 0 = Tag.gatewayCount.toByte →
    reply = replyHead b (signedBytes 0) ++ slice b 13 5 ++
      bigEndian 4 (min m.keys.card (2 ^ 31 - 1))
  listed : byte b 0 = Tag.gatewayList.toByte →
    ∃ n, n = min (min (byte b 17).toNat (m.keys.card - number b 13 4)) ((capacity - 22) / 27) ∧
      reply = replyHead b (signedBytes 0) ++ slice b 13 4 ++ [UInt8.ofNat n] ++ bigEndian 4 n ++
        (m.page (number b 13 4) n).flatten
  saved : byte b 0 = Tag.gatewayForceSave.toByte ∨ byte b 0 = Tag.gatewayClose.toByte →
    reply = replyHead b (slice b 1 4) ++ slice b 13 5 ++ signedBytes 0

section Kinds
variable {m : EndpointMap} {d : Directory} {b : Bytes} {capacity : Nat} {q : Request} {g : Gateway}

def lookupReply (b : Bytes) (key : Gateway) : Option Gateway → Bytes
  | some g => replyHead b (signedBytes 0) ++ g.encode
  | none => replyHead b (signedBytes (-2)) ++ key.encode

theorem reply_of_lookup (mirror : Mirrors m d.gateways) (read : Request.decode b = .ok q)
    (known : d.isAuthorized q.header = true) (room : 40 ≤ capacity) {key : Gateway}
    (run : d.execute q.header q.body = some (d.gatewayLookup q.header key)) :
    (d.dispatch b capacity).2 = some (lookupReply b key (d.gateways.named? key)) := by
  have parts := Request.readFrom_of_decode read
  rw [Directory.gatewayLookup, mirror.governed.get_eq] at run
  cases named : d.gateways.named? key with
  | some g =>
    rw [named] at run
    rw [Directory.dispatch_of_execute read known run room]
    exact congrArg (fun h => some (h ++ g.encode)) (parts.encode_replyHeader .ok)
  | none =>
    rw [named] at run
    rw [Directory.dispatch_of_execute read known run room]
    exact congrArg (fun h => some (h ++ key.encode)) (parts.encode_replyHeader .notFound)

theorem standsIn_of_tag (read : Request.decode b = .ok q) (layout : q.header.tag.layout = .gateway) :
    ∃ g, q.body = .gateway g ∧ g.StandsIn b := by
  have proper : q.body.layout = q.header.tag.layout := Request.isProper_of_decode read
  obtain ⟨h, body⟩ := q
  rw [layout] at proper
  cases body with
  | gateway g => exact ⟨g, rfl, Gateway.standsIn_of_decode read⟩
  | identity | eui | addr | operation => contradiction

theorem reply_byId (mirror : Mirrors m d.gateways) (read : Request.decode b = .ok q)
    (known : d.isAuthorized q.header = true) (room : 40 ≤ capacity)
    (tag : q.header.tag = .gatewayAddrLookup) :
    (d.dispatch b capacity).2 =
      some (match if number b 13 8 = 0 then none else m.lookup (number b 13 8) with
        | some endpoint => replyHead b (signedBytes 0) ++ (slice b 13 8 ++ endpoint)
        | none => replyHead b (signedBytes (-2)) ++ (slice b 13 8 ++ List.replicate 19 0)) := by
  obtain ⟨g, body, spelled⟩ := standsIn_of_tag read (by rw [tag]; rfl)
  have run : d.execute q.header q.body = some (d.gatewayLookup q.header ⟨g.id, none⟩) := by
    rw [body]
    simp only [Directory.execute, tag]
  rw [reply_of_lookup mirror read known room run, GatewayStore.named?_byId, spelled.id]
  by_cases zero : number b 13 8 = 0
  · rw [if_pos zero, if_pos (spelled.isZero_iff.mpr zero)]
    rfl
  · rw [if_neg zero, if_neg (mt spelled.isZero_iff.mp zero), mirror.shown.entries, ← spelled.key]
    cases found : Rows.find? Gateway.key g.key d.gateways.rows with
    | none => rfl
    | some f =>
      have same : f.id = g.id := Eui.toNat_inj.mp (Rows.mem_of_find? found).2
      rw [← same]
      rfl

theorem reply_byEndpoint (mirror : Mirrors m d.gateways) (read : Request.decode b = .ok q)
    (known : d.isAuthorized q.header = true) (room : 40 ≤ capacity)
    (tag : q.header.tag = .gatewayIdLookup) :
    (d.dispatch b capacity).2 =
      some (match if byte b 21 = 0 then none else m.lowest? (endpointAt b) with
        | some k => replyHead b (signedBytes 0) ++ (bigEndian 8 k ++ endpointAt b)
        | none => replyHead b (signedBytes (-2)) ++ (List.replicate 8 0 ++ endpointAt b)) := by
  obtain ⟨g, body, spelled⟩ := standsIn_of_tag read (by rw [tag]; rfl)
  have run : d.execute q.header q.body = some (d.gatewayLookup q.header ⟨⟨0⟩, g.endpoint⟩) := by
    rw [body]
    simp only [Directory.execute, tag]
  have unset : bigEndian 8 0 = List.replicate 8 0 := by decide
  rw [reply_of_lookup mirror read known room run, GatewayStore.named?_byEndpoint, spelled.endpoint,
    ← unset]
  by_cases family : byte b 21 = 0
  · rw [if_pos family, if_pos (spelled.absent.mpr family)]
    rfl
  · rw [if_neg family, if_neg (mt spelled.absent.mp family), ← spelled.endpoint,
      mirror.lowest?_eq spelled, spelled.endpoint]
    cases found : d.gateways.rows.find? fun f => f.endpoint = g.endpoint with
    | none => rfl
    | some f =>
      have like := List.find?_some found
      rw [← of_decide_eq_true like]
      rfl

theorem reply_of_assign (mirror : Mirrors m d.gateways) (read : Request.decode b = .ok q)
    (known : d.isAuthorized q.header = true) (room : 40 ≤ capacity)
    (tag : q.header.tag = .gatewayAssign) :
    (d.dispatch b capacity).2 = some (changeReply b 1 0) := by
  obtain ⟨g, body, spelled⟩ := standsIn_of_tag read (by rw [tag]; rfl)
  have run : d.execute q.header q.body =
      some (d.mutation q.header d.withGateways (d.gateways.put g)) := by
    rw [body]
    simp only [Directory.execute, tag]
  rw [Directory.reply_of_mutation read known run (by omega), mirror.governed.put_eq]
  rfl

theorem reply_of_remove (mirror : Mirrors m d.gateways) (read : Request.decode b = .ok q)
    (known : d.isAuthorized q.header = true) (room : 40 ≤ capacity)
    (tag : q.header.tag = .gatewayRemove) :
    (d.dispatch b capacity).2 =
      some (match m.named? b with
        | some _ => changeReply b 1 0
        | none => changeReply b 0 (-2)) := by
  obtain ⟨g, body, spelled⟩ := standsIn_of_tag read (by rw [tag]; rfl)
  have run : d.execute q.header q.body =
      some (d.mutation q.header d.withGateways (d.gateways.remove g)) := by
    rw [body]
    simp only [Directory.execute, tag]
  rw [Directory.reply_of_mutation read known run (by omega), GatewayStore.remove, mirror.memory,
    GatewayStore.find_eq, mirror.named?_eq spelled]
  cases d.gateways.named? g with
  | some f => rfl
  | none => rfl

theorem reply_of_count (mirror : Mirrors m d.gateways) (read : Request.decode b = .ok q)
    (known : d.isAuthorized q.header = true) (room : 40 ≤ capacity)
    (tag : q.header.tag = .gatewayCount) :
    (d.dispatch b capacity).2 = some (replyHead b (signedBytes 0) ++ slice b 13 5 ++
      bigEndian 4 (min m.keys.card (2 ^ 31 - 1))) := by
  have parts := Request.readFrom_of_decode read
  have long : 18 ≤ b.length := parts.room_of tag
  have run : d.execute q.header q.body =
      some (d, Response.count q.header (UInt32.ofNat (number b 13 4)) (byte b 17)
        d.gateways.size) := by
    rw [parts.operation (by rw [tag]; rfl)]
    simp only [Directory.execute, tag]
  rw [Directory.reply_of_size read known run long (by omega), mirror.governed.size_eq,
    mirror.shown.card_keys]

theorem reply_of_saved (mirror : Mirrors m d.gateways) (read : Request.decode b = .ok q)
    (known : d.isAuthorized q.header = true) (room : 40 ≤ capacity)
    (tag : q.header.tag = .gatewayForceSave ∨ q.header.tag = .gatewayClose) :
    (d.dispatch b capacity).2 =
      some (replyHead b (slice b 1 4) ++ slice b 13 5 ++ signedBytes 0) := by
  have parts := Request.readFrom_of_decode read
  rcases tag with tag | tag
  · have long : 18 ≤ b.length := parts.room_of tag
    have flushed := Directory.flushGateways_of_memory mirror.memory
    refine Directory.reply_of_echo (e := d) read known ?_ long (by omega)
    rw [parts.operation (by rw [tag]; rfl)]
    simp only [Directory.execute, tag, flushed]
    rfl
  · have long : 18 ≤ b.length := parts.room_of tag
    refine Directory.reply_of_echo (e := d) read known ?_ long (by omega)
    rw [parts.operation (by rw [tag]; rfl)]
    simp only [Directory.execute, tag]

theorem page_of_mirrors {s : GatewayStore} (mirror : Mirrors m s) (offset count : Nat) :
    m.page offset count = ((s.rows.drop offset).take count).map Gateway.encode := by
  apply mirror.shown.page (fun k => bigEndian 8 k ++ (m.lookup k).getD []) Gateway.encode
  intro f found
  rw [found]
  rfl

theorem reply_of_list (mirror : Mirrors m d.gateways) (read : Request.decode b = .ok q)
    (known : d.isAuthorized q.header = true) (room : 40 ≤ capacity)
    (tag : q.header.tag = .gatewayList) {n : Nat}
    (count : n = min (min (byte b 17).toNat (m.keys.card - number b 13 4)) ((capacity - 22) / 27)) :
    (d.dispatch b capacity).2 = some (replyHead b (signedBytes 0) ++ slice b 13 4 ++
      [UInt8.ofNat n] ++ bigEndian 4 n ++ (m.page (number b 13 4) n).flatten) := by
  have parts := Request.readFrom_of_decode read
  have offset : (UInt32.ofNat (number b 13 4)).toNat = number b 13 4 :=
    UInt32.toNat_ofNat_of_lt' (number_lt b 13 4)
  have listed : d.gateways.list (number b 13 4) (byte b 17).toNat =
      .ok (Rows.page (number b 13 4) (byte b 17).toNat d.gateways.rows) := by
    unfold GatewayStore.list
    rw [mirror.memory]
    rfl
  have run : d.execute q.header q.body =
      some (d, ⟨Directory.replyHeader q.header .ok, .gatewayList (UInt32.ofNat (number b 13 4))
        (Rows.page (number b 13 4) (byte b 17).toNat d.gateways.rows)⟩) := by
    rw [parts.operation (by rw [tag]; rfl)]
    simp only [Directory.execute, tag, offset, listed]
    rfl
  have least : Response.operationSize ≤ capacity := Nat.le_trans (by decide) room
  rw [mirror.shown.card_keys] at count
  rw [page_of_mirrors mirror]
  exact Directory.reply_of_page read known run least (parts.room_of tag) count rfl

end Kinds

theorem says_of_mirrors {m : EndpointMap} {d : Directory} {b : Bytes} {capacity : Nat} {q : Request}
    (mirror : Mirrors m d.gateways) (read : Request.decode b = .ok q)
    (known : d.isAuthorized q.header = true) (room : 40 ≤ capacity)
    (gateway : q.header.tag.isGateway = true) :
    ∃ reply, (d.dispatch b capacity).2 = some reply ∧ m.Says b capacity reply := by
  have named {t : Tag} := (Request.readFrom_of_decode read).tag_of_byte (t := t)
  obtain ⟨reply, sent⟩ : ∃ reply, (d.dispatch b capacity).2 = some reply := by
    apply Directory.exists_reply read known
    intro r answers
    -- only look-ups of devices take more room than there is
    rcases answers.leastSize with size | ⟨tag, -⟩ | ⟨-, size⟩
    · omega
    · rcases tag with tag | tag <;> rw [tag] at gateway <;> contradiction
    · omega
  have told {said : Bytes} (answer : (d.dispatch b capacity).2 = some said) : reply = said :=
    Option.some.inj (sent.symm.trans answer)
  refine ⟨reply, sent, ?_⟩
  constructor
  case foundById =>
    intro tag set endpoint found
    have reply := reply_byId mirror read known room (named tag)
    rw [if_neg set, found] at reply
    exact told reply
  case missedById =>
    intro tag missed
    have reply := reply_byId mirror read known room (named tag)
    by_cases zero : number b 13 8 = 0
    · rw [if_pos zero] at reply
      exact told reply
    · rw [if_neg zero, Finmap.lookup_eq_none.mpr (missed.resolve_left zero)] at reply
      exact told reply
  case foundByEndpoint =>
    intro tag family k found lowest
    have reply := reply_byEndpoint mirror read known room (named tag)
    rw [if_neg family, lowest?_eq_some_iff.mpr ⟨found, lowest⟩] at reply
    exact told reply
  case missedByEndpoint =>
    intro tag missed
    have reply := reply_byEndpoint mirror read known room (named tag)
    by_cases family : byte b 21 = 0
    · rw [if_pos family] at reply
      exact told reply
    · rw [if_neg family, lowest?_eq_none_iff.mpr (missed.resolve_left family)] at reply
      exact told reply
  case assigned =>
    intro tag
    exact told (reply_of_assign mirror read known room (named tag))
  case removed =>
    intro tag k there
    have reply := reply_of_remove mirror read known room (named tag)
    rw [there] at reply
    exact told reply
  case missing =>
    intro tag missed
    have reply := reply_of_remove mirror read known room (named tag)
    rw [missed] at reply
    exact told reply
  case counted =>
    intro tag
    exact told (reply_of_count mirror read known room (named tag))
  case listed =>
    intro tag
    exact ⟨_, rfl, told (reply_of_list mirror read known room (named tag) rfl)⟩
  case saved =>
    intro tag
    exact told (reply_of_saved mirror read known room (tag.imp named named))

/-- For gateways a directory in memory is a map of endpoints. In a run from empty stores every decodable
request about gateways that carries the codes is answered, and answered as the map says that the requests
and replies before it tell. -/
theorem memory_directory_is_endpoint_map (network : Option NetId) (code : Int32) (accessCode : UInt64)
    (disk : Disk) (counters : Counters) (packets : List Packet)
    (room : ∀ p ∈ packets, 40 ≤ p.capacity) (before rest : List Exchange) (x : Exchange)
    (split : ((Directory.inMemory network code accessCode disk counters).run packets).2 =
      before ++ x :: rest)
    (q : Request) (read : Request.decode x.packet.bytes = .ok q)
    (known : x.packet.IsAuthorized code accessCode) (gateway : q.header.tag.isGateway = true) :
    ∃ reply, x.reply = some reply ∧
      (ofLog code accessCode before).Says x.packet.bytes x.packet.capacity reply := by
  have start : Mirrors ∅ (Directory.inMemory network code accessCode disk counters).holdings.gateways :=
    mirrors_empty
  obtain ⟨d, ⟨mirror, codes⟩, member, answered⟩ :=
    (keepsUp code accessCode).run start ⟨rfl, rfl⟩
      (fun p member => Nat.le_trans (by decide) (room p member)) split
  have allowed : d.isAuthorized q.header = true := by
    rw [Packet.isAuthorized_iff (Request.readFrom_of_decode read), codes.1, codes.2]
    exact known
  rw [answered]
  exact says_of_mirrors mirror read allowed (room x.packet member) gateway

theorem shared_address_answered_lowest :
    let sent (tag : UInt8) (id last : UInt8) : Bytes :=
      [tag, 0, 0, 0, 42, 0, 0, 0, 0, 0, 0, 0, 42, 0, 0, 0, 0, 0, 0, 0, id, 4, 6, 164, 192, 0, 2, 10] ++
        List.replicate 11 0 ++ [last]
    let endpoint : Bytes := [4, 6, 164, 192, 0, 2, 10] ++ List.replicate 12 0
    let done (packet : Packet) : Exchange :=
      ⟨packet, some [0x50, 0, 0, 0, 42, 0, 0, 0, 0, 0, 0, 0, 42, 0, 0, 0, 0, 1, 0, 0, 0, 0]⟩
    let first : Packet := ⟨sent 0x50 9 7, 40⟩
    let second : Packet := ⟨sent 0x50 5 8, 40⟩
    let ask : Packet := ⟨sent 0x49 3 9, 40⟩
    let told : Exchange := ⟨ask, some ([0x49, 0, 0, 0, 0, 0, 0, 0, 0, 0, 0, 0, 42, 0, 0, 0, 0, 0, 0, 0, 5] ++
      endpoint)⟩
    ((Directory.inMemory none 42 42 ⟨[], []⟩ default).run [first, second, ask]).2 =
        [done first, done second, told] ∧
      told.reply = some (replyHead ask.bytes (signedBytes 0) ++ (bigEndian 8 5 ++ endpoint)) := by
  intro sent endpoint done first second ask told
  have log : ((Directory.inMemory none 42 42 ⟨[], []⟩ default).run [first, second, ask]).2 =
      [done first, done second] ++ told :: [] := by decide +kernel
  obtain ⟨q, read, gateway⟩ : ∃ q, Request.decode ask.bytes = .ok q ∧ q.header.tag.isGateway = true :=
    ⟨_, rfl, rfl⟩
  obtain ⟨reply, answered, said⟩ := memory_directory_is_endpoint_map none 42 42 ⟨[], []⟩ default
    [first, second, ask] (by decide) [done first, done second] [] told log q read (by decide) gateway
  have found : (ofLog 42 42 [done first, done second]).lookup 5 = some endpoint := by decide +kernel
  have free : ∀ j < 5, (ofLog 42 42 [done first, done second]).lookup j ≠ some endpoint := by
    decide +kernel
  have same := said.foundByEndpoint (by decide) (by decide) 5 found fun j stands =>
    Nat.not_lt.mp fun below => free j below stands
  exact ⟨log, by rw [answered, same]; rfl⟩

end EndpointMap
end IdentityDirectory
