import IdentityDirectory.Proofs.Directory.ByteMap
/-!
Replies told by a map of bytes. Every request of a run that carries the codes is answered as the map of
the run so far says, byte by byte.
-/
namespace IdentityDirectory
open Bytes

/-- A record that says nothing but an address and a device EUI; a version is always there. -/
def blankRecord (addr eui : Bytes) : Bytes :=
  addr ++ [0, 0] ++ eui ++ List.replicate 32 0 ++ [1] ++ List.replicate 48 0

namespace ByteMap

def IsOutside (network : Option NetId) (addr : Nat) : Prop :=
  ∃ n, network = some n ∧ n.contains ⟨UInt32.ofNat addr⟩ = false

/-- Whether a record of a device that joins over the air has a device EUI, other than zero, that stands
under another address. -/
def IsTaken (m : ByteMap) (record : Bytes) : Prop :=
  byte record 4 = 1 ∧ slice record 6 8 ≠ List.replicate 8 0 ∧
    ∃ a other, m.lookup a = some other ∧ a ≠ number record 0 4 ∧
      slice other 6 8 = slice record 6 8

def page (m : ByteMap) (offset count : Nat) : List Bytes :=
  ((m.keys.sort fun a c => a ≤ c).drop offset |>.take count).map fun a => (m.lookup a).getD []

/-- What the map says about raw bytes, within a capacity. -/
structure Says (network : Option NetId) (m : ByteMap) (b : Bytes) (capacity : Nat)
    (reply : Bytes) : Prop where
  foundByAddr : byte b 0 = Tag.euiLookup.toByte →
    ∀ record, m.lookup (number b 13 4) = some record → reply = replyHead b (signedBytes 0) ++ record
  missedByAddr : byte b 0 = Tag.euiLookup.toByte → number b 13 4 ∉ m →
    reply = replyHead b (signedBytes (-2)) ++ blankRecord (slice b 13 4) (List.replicate 8 0)
  foundByEui : byte b 0 = Tag.addrLookup.toByte →
    ∀ a record, m.lookup a = some record → slice record 6 8 = slice b 13 8 →
      (∀ c other, m.lookup c = some other → slice other 6 8 = slice b 13 8 → a ≤ c) →
        reply = replyHead b (signedBytes 0) ++ record
  missedByEui : byte b 0 = Tag.addrLookup.toByte →
    (∀ a record, m.lookup a = some record → slice record 6 8 ≠ slice b 13 8) →
      reply = replyHead b (signedBytes (-2)) ++ blankRecord (List.replicate 4 0) (slice b 13 8)
  counted : byte b 0 = Tag.count.toByte →
    reply = replyHead b (signedBytes 0) ++ slice b 13 5 ++
      bigEndian 4 (min m.keys.card (2 ^ 31 - 1))
  listed : byte b 0 = Tag.list.toByte →
    ∃ n, n = min (min (byte b 17).toNat (m.keys.card - number b 13 4)) ((capacity - 22) / 95) ∧
      reply = replyHead b (signedBytes 0) ++ slice b 13 4 ++ [UInt8.ofNat n] ++ bigEndian 4 n ++
        (m.page (number b 13 4) n).flatten
  outside : byte b 0 = Tag.assign.toByte → IsOutside network (number b 13 4) →
    reply = changeReply b 0 (-6)
  taken : byte b 0 = Tag.assign.toByte → ¬ IsOutside network (number b 13 4) →
    m.IsTaken (slice b 13 95) → reply = changeReply b 0 (-3)
  assigned : byte b 0 = Tag.assign.toByte → ¬ IsOutside network (number b 13 4) →
    ¬ m.IsTaken (slice b 13 95) → reply = changeReply b 1 0
  removed : byte b 0 = Tag.remove.toByte → number b 13 4 ∈ m → reply = changeReply b 1 0
  missing : byte b 0 = Tag.remove.toByte → number b 13 4 ∉ m → reply = changeReply b 0 (-2)
  saved : byte b 0 = Tag.forceSave.toByte ∨ byte b 0 = Tag.close.toByte →
    reply = replyHead b (slice b 1 4) ++ slice b 13 5 ++ signedBytes 0

end ByteMap

theorem encode_blank (a : DevAddr) (e : Eui) :
    Identity.encode ⟨a, { (default : Device) with devEui := e }⟩ =
      blankRecord (bigEndian 4 a.value.toNat) (bigEndian 8 e.value.toNat) := by
  simp only [Identity.encode, blankRecord, List.append_assoc]
  rfl

theorem encode_ofAddr (a : DevAddr) :
    (Identity.ofAddr a).encode = blankRecord (bigEndian 4 a.value.toNat) (List.replicate 8 0) :=
  encode_blank a ⟨0⟩

theorem encode_ofEui (e : Eui) :
    (Identity.ofEui e).encode = blankRecord (List.replicate 4 0) (bigEndian 8 e.value.toNat) :=
  encode_blank ⟨0⟩ e

namespace ByteMap

def lookupReply (b : Bytes) (key : Identity) : Except StoreError Identity → Bytes
  | .ok i => replyHead b (signedBytes 0) ++ i.encode
  | .error cause => replyHead b (signedBytes cause.code.toInt32) ++ key.encode

section Kinds
variable {network : Option NetId} {m : ByteMap} {d : Directory} {b : Bytes} {capacity : Nat}
  {q : Request}

theorem reply_of_lookup (read : Request.decode b = .ok q) (known : d.isAuthorized q.header = true)
    (room : 108 ≤ capacity) {key : Identity} {found : Except StoreError Identity}
    (run : d.execute q.header q.body = some (d.lookup q.header key found)) :
    (d.dispatch b capacity).2 = some (lookupReply b key found) := by
  have parts := Request.readFrom_of_decode read
  cases found with
  | ok i =>
    rw [Directory.dispatch_of_execute read known run room]
    exact congrArg (fun h => some (h ++ i.encode)) (parts.encode_replyHeader .ok)
  | error cause =>
    rw [Directory.dispatch_of_execute read known run room]
    exact congrArg (fun h => some (h ++ key.encode)) (parts.encode_replyHeader cause.code)

theorem Mirrors.found (mirror : Mirrors network m d.identities) (a : DevAddr) :
    (d.identities.getByAddr a).map (fun device => (⟨a, device⟩ : Identity)) =
      match Rows.find? Identity.key a.value.toNat d.identities.rows with
      | some i => .ok i
      | none => .error .notFound := by
  rw [IdentityStore.getByAddr, mirror.memory, IdentityStore.find]
  cases found : Rows.find? Identity.key a.value.toNat d.identities.rows with
  | none => rfl
  | some i =>
    obtain ⟨-, same⟩ := Rows.mem_of_find? found
    obtain rfl := DevAddr.toNat_inj.mp same
    rfl

theorem reply_byAddr (mirror : Mirrors network m d.identities) (read : Request.decode b = .ok q)
    (known : d.isAuthorized q.header = true) (room : 108 ≤ capacity)
    (tag : q.header.tag = .euiLookup) :
    (d.dispatch b capacity).2 = some (match m.lookup (number b 13 4) with
      | some record => replyHead b (signedBytes 0) ++ record
      | none => replyHead b (signedBytes (-2)) ++
          blankRecord (slice b 13 4) (List.replicate 8 0)) := by
  have parts := Request.readFrom_of_decode read
  have long : 17 ≤ b.length := parts.room_of tag
  have address : (UInt32.ofNat (number b 13 4)).toNat = number b 13 4 :=
    UInt32.toNat_ofNat_of_lt' (number_lt b 13 4)
  have place : slice b 13 4 = bigEndian 4 (UInt32.ofNat (number b 13 4)).toNat :=
    slice_eq_uint32 (by omega)
  have run : d.execute q.header q.body =
      some (d.lookup q.header (Identity.ofAddr ⟨UInt32.ofNat (number b 13 4)⟩)
        ((d.identities.getByAddr ⟨UInt32.ofNat (number b 13 4)⟩).map
          fun device => ⟨⟨UInt32.ofNat (number b 13 4)⟩, device⟩)) := by
    rw [parts.addr tag]
    simp only [Directory.execute, tag]
  rw [reply_of_lookup read known room run, mirror.found, mirror.entries, address]
  cases Rows.find? Identity.key (number b 13 4) d.identities.rows with
  | some i => rfl
  | none =>
    rw [place, ← encode_ofAddr]
    rfl

theorem reply_byEui (mirror : Mirrors network m d.identities) (read : Request.decode b = .ok q)
    (known : d.isAuthorized q.header = true) (room : 108 ≤ capacity)
    (tag : q.header.tag = .addrLookup) :
    (d.dispatch b capacity).2 =
      some (match d.identities.rows.find? fun i => slice i.encode 6 8 = slice b 13 8 with
        | some i => replyHead b (signedBytes 0) ++ i.encode
        | none => replyHead b (signedBytes (-2)) ++
            blankRecord (List.replicate 4 0) (slice b 13 8)) := by
  have parts := Request.readFrom_of_decode read
  have long : 21 ≤ b.length := parts.room_of tag
  have place : slice b 13 8 = bigEndian 8 (UInt64.ofNat (number b 13 8)).toNat :=
    slice_eq_uint64 (by omega)
  have run : d.execute q.header q.body =
      some (d.lookup q.header (Identity.ofEui ⟨UInt64.ofNat (number b 13 8)⟩)
        (d.identities.getByEui ⟨UInt64.ofNat (number b 13 8)⟩)) := by
    rw [parts.eui tag]
    simp only [Directory.execute, tag]
  have same : (fun i : Identity => decide (slice i.encode 6 8 = slice b 13 8)) =
      fun i => decide (i.device.devEui = ⟨UInt64.ofNat (number b 13 8)⟩) := by
    funext i
    rw [decide_eq_decide, (Identity.spelled_self i).devEui, place,
      bigEndian_inj i.device.devEui.value.toNat_lt (UInt64.toNat_lt _)]
    exact Eui.toNat_inj
  have asked : d.identities.getByEui ⟨UInt64.ofNat (number b 13 8)⟩ =
      match d.identities.rows.find? fun i => i.device.devEui = ⟨UInt64.ofNat (number b 13 8)⟩ with
      | some i => .ok i
      | none => .error .notFound := by
    unfold IdentityStore.getByEui
    rw [mirror.memory]
    rfl
  rw [reply_of_lookup read known room run, asked, same]
  cases d.identities.rows.find? fun i => i.device.devEui = ⟨UInt64.ofNat (number b 13 8)⟩ with
  | some i => rfl
  | none =>
    rw [place, ← encode_ofEui]
    rfl

theorem size_of_mirrors (mirror : Mirrors network m d.identities) :
    d.identities.size = m.keys.card := by
  rw [IdentityStore.size, mirror.memory, mirror.shown.card_keys]
  rfl

theorem reply_of_count (mirror : Mirrors network m d.identities) (read : Request.decode b = .ok q)
    (known : d.isAuthorized q.header = true) (room : 108 ≤ capacity)
    (tag : q.header.tag = .count) :
    (d.dispatch b capacity).2 = some (replyHead b (signedBytes 0) ++ slice b 13 5 ++
      bigEndian 4 (min m.keys.card (2 ^ 31 - 1))) := by
  have parts := Request.readFrom_of_decode read
  have long : 18 ≤ b.length := parts.room_of tag
  have run : d.execute q.header q.body =
      some (d, Response.count q.header (UInt32.ofNat (number b 13 4)) (byte b 17)
        d.identities.size) := by
    rw [parts.operation (by rw [tag]; rfl)]
    simp only [Directory.execute, tag]
  rw [Directory.reply_of_size read known run long (by omega), size_of_mirrors mirror]

theorem reply_of_saved (mirror : Mirrors network m d.identities)
    (read : Request.decode b = .ok q) (known : d.isAuthorized q.header = true)
    (room : 108 ≤ capacity) (tag : q.header.tag = .forceSave ∨ q.header.tag = .close) :
    (d.dispatch b capacity).2 =
      some (replyHead b (slice b 1 4) ++ slice b 13 5 ++ signedBytes 0) := by
  have parts := Request.readFrom_of_decode read
  rcases tag with tag | tag
  · have long : 18 ≤ b.length := parts.room_of tag
    have flushed := Directory.flushIdentities_of_memory mirror.memory
    refine Directory.reply_of_echo (e := d) read known ?_ long (by omega)
    rw [parts.operation (by rw [tag]; rfl)]
    simp only [Directory.execute, tag, flushed]
    rfl
  · have long : 18 ≤ b.length := parts.room_of tag
    refine Directory.reply_of_echo (e := d) read known ?_ long (by omega)
    rw [parts.operation (by rw [tag]; rfl)]
    simp only [Directory.execute, tag]

theorem reply_of_remove (mirror : Mirrors network m d.identities)
    (read : Request.decode b = .ok q) (known : d.isAuthorized q.header = true)
    (room : 108 ≤ capacity) (tag : q.header.tag = .remove) :
    (d.dispatch b capacity).2 =
      some (match m.lookup (number b 13 4) with
        | some _ => changeReply b 1 0
        | none => changeReply b 0 (-2)) := by
  have parts := Request.readFrom_of_decode read
  obtain ⟨i, body⟩ := parts.identity (by rw [tag]; rfl)
  have address : i.addr.value.toNat = number b 13 4 := by
    obtain ⟨h, body'⟩ := q
    obtain rfl : body' = .identity i := body
    exact parts.removed tag
  have run : d.execute q.header q.body =
      some (d.mutation q.header d.withIdentities (d.identities.remove i.addr)) := by
    rw [body]
    simp only [Directory.execute, tag]
  rw [Directory.reply_of_mutation read known run (by omega), IdentityStore.remove, mirror.memory,
    IdentityStore.find, address, mirror.entries]
  cases Rows.find? Identity.key (number b 13 4) d.identities.rows with
  | some j => rfl
  | none => rfl

theorem page_of_mirrors {s : IdentityStore} (mirror : Mirrors network m s) (offset count : Nat) :
    m.page offset count = ((s.rows.drop offset).take count).map Identity.encode := by
  refine mirror.shown.page (fun a => (m.lookup a).getD []) Identity.encode ?_ offset count
  intro i found
  rw [found]
  rfl

theorem reply_of_list (mirror : Mirrors network m d.identities) (read : Request.decode b = .ok q)
    (known : d.isAuthorized q.header = true) (room : 108 ≤ capacity) (tag : q.header.tag = .list)
    {n : Nat}
    (count : n = min (min (byte b 17).toNat (m.keys.card - number b 13 4)) ((capacity - 22) / 95)) :
    (d.dispatch b capacity).2 = some (replyHead b (signedBytes 0) ++ slice b 13 4 ++
      [UInt8.ofNat n] ++ bigEndian 4 n ++ (m.page (number b 13 4) n).flatten) := by
  have parts := Request.readFrom_of_decode read
  have address : (UInt32.ofNat (number b 13 4)).toNat = number b 13 4 :=
    UInt32.toNat_ofNat_of_lt' (number_lt b 13 4)
  have listed : d.identities.list (number b 13 4) (byte b 17).toNat =
      .ok (Rows.page (number b 13 4) (byte b 17).toNat d.identities.rows) := by
    unfold IdentityStore.list
    rw [mirror.memory]
    rfl
  have run : d.execute q.header q.body =
      some (d, ⟨Directory.replyHeader q.header .ok, .identityList (UInt32.ofNat (number b 13 4))
        (Rows.page (number b 13 4) (byte b 17).toNat d.identities.rows)⟩) := by
    rw [parts.operation (by rw [tag]; rfl)]
    simp only [Directory.execute, tag, address, listed]
    rfl
  have least : Response.operationSize ≤ capacity := Nat.le_trans (by decide) room
  rw [mirror.shown.card_keys] at count
  rw [page_of_mirrors mirror]
  exact Directory.reply_of_page read known run least (parts.room_of tag) count rfl

theorem isTaken_iff {s : IdentityStore} (mirror : Mirrors network m s) (i : Identity) :
    s.isTaken i = true ↔ m.IsTaken i.encode := by
  have spelled := Identity.spelled_self i
  have zero : List.replicate 8 (0 : UInt8) = bigEndian 8 0 := by decide
  have otaa : byte i.encode 4 = 1 ↔ i.device.activation = .otaa := by
    rw [spelled.activation]
    cases i.device.activation <;> decide
  have unset : slice i.encode 6 8 = List.replicate 8 0 ↔ i.device.devEui.isZero = true := by
    rw [spelled.devEui, zero, bigEndian_inj i.device.devEui.value.toNat_lt (by decide), Eui.isZero,
      decide_eq_true_eq, ← UInt64.toNat_inj]
    rfl
  have key : number i.encode 0 4 = i.key := number_of_slice spelled.addr i.addr.value.toNat_lt
  have other : (∃ a record, m.lookup a = some record ∧ a ≠ number i.encode 0 4 ∧
      slice record 6 8 = slice i.encode 6 8) ↔
      ∃ j ∈ s.rows, j.addr ≠ i.addr ∧ j.device.devEui = i.device.devEui := by
    rw [key, spelled.devEui]
    constructor
    · rintro ⟨a, record, found, away, same⟩
      obtain ⟨j, member, rfl, rfl⟩ := mirror.shown.lookup_eq_some.mp found
      rw [(Identity.spelled_self j).devEui,
        bigEndian_inj j.device.devEui.value.toNat_lt i.device.devEui.value.toNat_lt] at same
      exact ⟨j, member, fun eq => away (DevAddr.toNat_inj.mpr eq), Eui.toNat_inj.mp same⟩
    · rintro ⟨j, member, away, same⟩
      refine ⟨j.key, j.encode, mirror.shown.lookup_eq_some.mpr ⟨j, member, rfl, rfl⟩, ?_, ?_⟩
      · exact fun eq => away (DevAddr.toNat_inj.mp eq)
      · rw [(Identity.spelled_self j).devEui, same]
  unfold IsTaken
  rw [otaa, ne_eq, unset, other]
  simp [IdentityStore.isTaken, and_assoc]

theorem checkRange_outside {s : IdentityStore} (mirror : Mirrors network m s) {addr : DevAddr}
    {n : Nat} (address : addr = ⟨UInt32.ofNat n⟩) (outside : IsOutside network n) :
    ∃ cause, s.checkRange addr = .error cause ∧ cause.code = .addressOutOfRange := by
  obtain ⟨net, policy, away⟩ := outside
  subst address
  unfold IdentityStore.checkRange
  rw [mirror.policy, policy]
  simp only [away, Bool.false_eq_true, ↓reduceIte]
  exact ⟨_, rfl, rfl⟩

theorem checkRange_inside {s : IdentityStore} (mirror : Mirrors network m s) {addr : DevAddr}
    {n : Nat} (address : addr = ⟨UInt32.ofNat n⟩) (inside : ¬ IsOutside network n) :
    s.checkRange addr = .ok () := by
  subst address
  unfold IdentityStore.checkRange
  rw [mirror.policy]
  cases network with
  | none => rfl
  | some net =>
    have within : net.contains ⟨UInt32.ofNat n⟩ = true := by
      by_contra away
      exact inside ⟨net, rfl, Bool.eq_false_iff.mpr away⟩
    simp only [within, ↓reduceIte]

theorem reply_of_assign (mirror : Mirrors network m d.identities)
    (read : Request.decode b = .ok q) (known : d.isAuthorized q.header = true)
    (room : 108 ≤ capacity) (tag : q.header.tag = .assign) :
    (IsOutside network (number b 13 4) →
        (d.dispatch b capacity).2 = some (changeReply b 0 (-6))) ∧
      (¬ IsOutside network (number b 13 4) → m.IsTaken (slice b 13 95) →
        (d.dispatch b capacity).2 = some (changeReply b 0 (-3))) ∧
      (¬ IsOutside network (number b 13 4) → ¬ m.IsTaken (slice b 13 95) →
        (d.dispatch b capacity).2 = some (changeReply b 1 0)) := by
  have parts := Request.readFrom_of_decode read
  obtain ⟨h, body⟩ := q
  obtain ⟨i, rfl⟩ : ∃ i, body = .identity i := parts.identity (by rw [tag]; rfl)
  have address : i.addr = ⟨UInt32.ofNat (number b 13 4)⟩ := by
    rw [← parts.assigned tag, UInt32.ofNat_toNat]
  have run : d.execute h (.identity i) =
      some (d.mutation h d.withIdentities (d.identities.put i)) := by
    simp only at tag
    simp only [Directory.execute, tag]
  rw [Directory.reply_of_mutation read known run (by omega), IdentityStore.put, mirror.memory,
    ← parts.encode_assigned tag, ← isTaken_iff mirror i]
  refine ⟨?_, ?_, ?_⟩
  · intro outside
    obtain ⟨cause, refused, code⟩ := checkRange_outside mirror address outside
    have accepted : d.identities.accept i = .error cause := by
      simp only [IdentityStore.accept, refused, bind, Except.bind]
    rw [accepted]
    simp only [Except.map, Backing.answer, Backing.fault?, outcomeReply, code]
    rfl
  · intro inside taken
    have accepted : d.identities.accept i = .error (.duplicate i.device.devEui.toText) := by
      simp only [IdentityStore.accept, checkRange_inside mirror address inside, bind, Except.bind,
        taken, ↓reduceIte]
      rfl
    rw [accepted]
    rfl
  · intro inside free
    have accepted : d.identities.accept i = .ok () := by
      simp only [IdentityStore.accept, checkRange_inside mirror address inside, bind, Except.bind,
        free]
      rfl
    rw [accepted]
    rfl

end Kinds

theorem find?_of_lowest {network : Option NetId} {m : ByteMap} {s : IdentityStore}
    (mirror : Mirrors network m s) {a : Nat} {record eui : Bytes}
    (found : m.lookup a = some record) (like : slice record 6 8 = eui)
    (lowest : ∀ c other, m.lookup c = some other → slice other 6 8 = eui → a ≤ c) :
    ∃ i, (s.rows.find? fun i => slice i.encode 6 8 = eui) = some i ∧ i.encode = record := by
  obtain ⟨i, member, rfl, rfl⟩ := mirror.shown.lookup_eq_some.mp found
  cases first : s.rows.find? fun i => slice i.encode 6 8 = eui with
  | none =>
    have unlike := List.find?_eq_none.mp first i member
    simp [like] at unlike
  | some j =>
    have stored := List.mem_of_find?_eq_some first
    have alike := List.find?_some first
    simp only [decide_eq_true_eq] at alike
    have below := Rows.key_le_of_find? mirror.sorted first member (decide_eq_true like)
    have above := lowest j.key j.encode (mirror.shown.lookup_eq_some.mpr ⟨j, stored, rfl, rfl⟩) alike
    have here := (Rows.find?_eq_some_iff mirror.sorted).mpr ⟨stored, rfl⟩
    have there := (Rows.find?_eq_some_iff mirror.sorted).mpr ⟨member, rfl⟩
    rw [Nat.le_antisymm below above, there] at here
    exact ⟨j, rfl, by rw [Option.some.inj here]⟩

theorem says_of_mirrors {network : Option NetId} {m : ByteMap} {d : Directory} {b : Bytes}
    {capacity : Nat} {q : Request} (mirror : Mirrors network m d.identities)
    (read : Request.decode b = .ok q) (known : d.isAuthorized q.header = true)
    (room : 108 ≤ capacity) :
    ∃ reply, (d.dispatch b capacity).2 = some reply ∧ m.Says network b capacity reply := by
  have named {t : Tag} := (Request.readFrom_of_decode read).tag_of_byte (t := t)
  obtain ⟨reply, sent⟩ : ∃ reply, (d.dispatch b capacity).2 = some reply := by
    apply Directory.exists_reply read known
    intro r answers
    rcases answers.leastSize with size | ⟨-, size⟩ | ⟨-, size⟩ <;> omega
  have told {said : Bytes} (answer : (d.dispatch b capacity).2 = some said) : reply = said :=
    Option.some.inj (sent.symm.trans answer)
  refine ⟨reply, sent, ?_⟩
  constructor
  case foundByAddr =>
    intro tag record found
    have reply := reply_byAddr mirror read known room (named tag)
    rw [found] at reply
    exact told reply
  case missedByAddr =>
    intro tag missed
    have reply := reply_byAddr mirror read known room (named tag)
    rw [Finmap.lookup_eq_none.mpr missed] at reply
    exact told reply
  case foundByEui =>
    intro tag a record found like lowest
    have reply := reply_byEui mirror read known room (named tag)
    obtain ⟨i, first, rfl⟩ := find?_of_lowest mirror found like lowest
    rw [first] at reply
    exact told reply
  case missedByEui =>
    intro tag unlike
    have reply := reply_byEui mirror read known room (named tag)
    have none : (d.identities.rows.find? fun i => slice i.encode 6 8 = slice b 13 8) = none := by
      rw [List.find?_eq_none]
      intro i member
      have other := unlike i.key i.encode (mirror.shown.lookup_eq_some.mpr ⟨i, member, rfl, rfl⟩)
      simpa using other
    rw [none] at reply
    exact told reply
  case counted =>
    intro tag
    exact told (reply_of_count mirror read known room (named tag))
  case listed =>
    intro tag
    exact ⟨_, rfl, told (reply_of_list mirror read known room (named tag) rfl)⟩
  case outside =>
    intro tag outside
    exact told ((reply_of_assign mirror read known room (named tag)).1 outside)
  case taken =>
    intro tag inside taken
    exact told ((reply_of_assign mirror read known room (named tag)).2.1 inside taken)
  case assigned =>
    intro tag inside free
    exact told ((reply_of_assign mirror read known room (named tag)).2.2 inside free)
  case removed =>
    intro tag member
    have reply := reply_of_remove mirror read known room (named tag)
    obtain ⟨record, found⟩ := Finmap.mem_iff.mp member
    rw [found] at reply
    exact told reply
  case missing =>
    intro tag missed
    have reply := reply_of_remove mirror read known room (named tag)
    rw [Finmap.lookup_eq_none.mpr missed] at reply
    exact told reply
  case saved =>
    intro tag
    exact told (reply_of_saved mirror read known room (tag.imp named named))

/-- A directory in memory is a map of bytes. In a run from empty stores, with or without a network,
every decodable request that carries the codes is answered, and answered as the map says that the
requests and replies before it tell. -/
theorem memory_directory_is_byte_map (network : Option NetId) (code : Int32) (accessCode : UInt64)
    (disk : Disk) (counters : Counters) (packets : List Packet)
    (room : ∀ p ∈ packets, 108 ≤ p.capacity) (before rest : List Exchange) (x : Exchange)
    (split : ((Directory.inMemory network code accessCode disk counters).run packets).2 =
      before ++ x :: rest)
    (q : Request) (read : Request.decode x.packet.bytes = .ok q)
    (known : x.packet.IsAuthorized code accessCode) :
    ∃ reply, x.reply = some reply ∧
      (ofLog code accessCode before).Says network x.packet.bytes x.packet.capacity reply := by
  have start : Mirrors network ∅
      (Directory.inMemory network code accessCode disk counters).holdings.identities :=
    mirrors_empty network
  obtain ⟨d, ⟨mirror, codes⟩, member, answered⟩ :=
    (keepsUp network code accessCode).run start ⟨rfl, rfl⟩
      (fun p member => Nat.le_trans (by decide) (room p member)) split
  have allowed : d.isAuthorized q.header = true := by
    rw [Packet.isAuthorized_iff (Request.readFrom_of_decode read), codes.1, codes.2]
    exact known
  rw [answered]
  exact says_of_mirrors mirror read allowed (room x.packet member)

theorem assigned_record_returned :
    let record := (Identity.ofAddr ⟨5⟩).encode
    let known : Bytes := [0, 0, 0, 0, 0, 0, 0, 42]
    let put : Packet := ⟨(Request.assign 42 42 (Identity.ofAddr ⟨5⟩)).encode, 108⟩
    let ask : Packet := ⟨(Request.euiLookup 42 42 ⟨5⟩).encode, 108⟩
    let done : Exchange := ⟨put, some ([0x70, 0, 0, 0, 42] ++ known ++ [0, 0, 0, 0, 1, 0, 0, 0, 0])⟩
    let told : Exchange := ⟨ask, some ([0x69, 0, 0, 0, 0] ++ known ++ record)⟩
    ((Directory.inMemory none 42 42 ⟨[], []⟩ default).run [put, ask]).2 = [done, told] ∧
      ask.IsAuthorized 42 42 ∧ (ofLog 42 42 [done]).lookup 5 = some record ∧
      told.reply = some (replyHead ask.bytes (signedBytes 0) ++ record) := by
  intro record known put ask done told
  have log : ((Directory.inMemory none 42 42 ⟨[], []⟩ default).run [put, ask]).2 =
      [done] ++ told :: [] := by decide +kernel
  have authorized : ask.IsAuthorized 42 42 := by decide
  have read : Request.decode ask.bytes = .ok (Request.euiLookup 42 42 ⟨5⟩) := rfl
  have stored : (ofLog 42 42 [done]).lookup 5 = some record := by decide +kernel
  obtain ⟨reply, sent, said⟩ := memory_directory_is_byte_map none 42 42 ⟨[], []⟩ default [put, ask]
    (by decide) [done] [] told log _ read authorized
  have same := said.foundByAddr (by decide) record stored
  exact ⟨log, authorized, stored, by rw [sent, same]⟩

end ByteMap
end IdentityDirectory
