import IdentityDirectory.Proofs.Directory.Replies
/-!
Raw requests and their replies, as an onlooker sees them: whether bytes carry the codes, what the bytes of
a reply are that the bytes of the request decide, and how what is put together from a log keeps up with the
directory that answers.
-/
namespace IdentityDirectory
open Bytes

def Packet.IsAuthorized (p : Packet) (code : Int32) (accessCode : UInt64) : Prop :=
  number p.bytes 1 4 = code.toUInt32.toNat ∧ number p.bytes 5 8 = accessCode.toNat

instance (p : Packet) (code : Int32) (accessCode : UInt64) :
    Decidable (p.IsAuthorized code accessCode) :=
  inferInstanceAs (Decidable (_ ∧ _))

def Exchange.isDone (x : Exchange) : Bool :=
  match x.reply with
  | some reply => number reply 18 4 = 0
  | none => false

def replyHead (b code : Bytes) : Bytes := byte b 0 :: code ++ slice b 5 8

def signedBytes (v : Int32) : Bytes := bigEndian 4 v.toUInt32.toNat

def changeReply (b : Bytes) (size : UInt8) (result : Int32) : Bytes :=
  replyHead b (slice b 1 4) ++ List.replicate 4 0 ++ [size] ++ signedBytes result

def outcomeReply {α : Type} (b : Bytes) : Except StoreError α → Bytes
  | .ok _ => changeReply b 1 0
  | .error cause => changeReply b 0 cause.code.toInt32

theorem Packet.isAuthorized_iff {d : Directory} {p : Packet} {q : Request}
    (read : q.ReadFrom p.bytes) :
    d.isAuthorized q.header = true ↔ p.IsAuthorized d.code d.accessCode := by
  have code : (UInt32.ofNat (number p.bytes 1 4)).toInt32 = d.code ↔
      number p.bytes 1 4 = d.code.toUInt32.toNat := by
    constructor
    · intro same
      rw [← same, UInt32.toUInt32_toInt32]
      exact (UInt32.toNat_ofNat_of_lt' (number_lt p.bytes 1 4)).symm
    · intro same
      rw [same, UInt32.ofNat_toNat, Int32.toInt32_toUInt32]
  have access : UInt64.ofNat (number p.bytes 5 8) = d.accessCode ↔
      number p.bytes 5 8 = d.accessCode.toNat := by
    constructor
    · intro same
      rw [← same]
      exact (UInt64.toNat_ofNat_of_lt' (number_lt p.bytes 5 8)).symm
    · intro same
      rw [same, UInt64.ofNat_toNat]
  rw [read.header]
  simp only [Directory.isAuthorized, Header.ofBytes, Packet.IsAuthorized, Bool.and_eq_true,
    decide_eq_true_eq, code, access]

theorem Exchange.isDone_of_reply {p : Packet} {reply : Option Bytes} {r : Response}
    (sent : reply = if r.leastSize ≤ p.capacity then some (r.cut p.capacity).encode else none)
    (room : r.leastSize ≤ p.capacity) :
    Exchange.isDone ⟨p, reply⟩ = decide (number (r.cut p.capacity).encode 18 4 = 0) := by
  rw [sent, if_pos room]
  rfl

theorem Exchange.isDone_of_operation {p : Packet} {reply : Option Bytes} {h : Header} {size : UInt8}
    {result : ResultCode}
    (sent : reply = if (Response.operation h 0 size result).leastSize ≤ p.capacity
      then some ((Response.operation h 0 size result).cut p.capacity).encode else none)
    (room : 22 ≤ p.capacity) :
    Exchange.isDone ⟨p, reply⟩ = decide (result.toInt32.toUInt32.toNat = 0) := by
  have told : number ((Response.operation h 0 size result).cut p.capacity).encode 18 4 =
      result.toInt32.toUInt32.toNat := Response.number_operation h 0 size result.toInt32
  rw [isDone_of_reply sent room, told]

namespace Request.ReadFrom

variable {b : Bytes} {q : Request}

theorem tag_of_byte (read : ReadFrom b q) {t : Tag} (first : byte b 0 = t.toByte) : q.header.tag = t :=
  Tag.toByte_injective (read.tag.symm.trans first)

theorem encode_header (read : ReadFrom b q) : q.header.encode = replyHead b (slice b 1 4) := by
  have room := read.header_room
  have code : slice b 1 4 = bigEndian 4 (UInt32.ofNat (number b 1 4)).toNat :=
    slice_eq_uint32 (by omega)
  have access : slice b 5 8 = bigEndian 8 (UInt64.ofNat (number b 5 8)).toNat :=
    slice_eq_uint64 (by omega)
  rw [read.header, Header.encode, replyHead, read.tag, code, access]
  simp [Header.ofBytes]

theorem encode_replyHeader (read : ReadFrom b q) (code : ResultCode) :
    (Directory.replyHeader q.header code).encode = replyHead b (signedBytes code.toInt32) := by
  have room := read.header_room
  have access : slice b 5 8 = bigEndian 8 (UInt64.ofNat (number b 5 8)).toNat :=
    slice_eq_uint64 (by omega)
  rw [read.header, Header.encode, replyHead, read.tag, access]
  rfl

end Request.ReadFrom

namespace Directory

/-- What keeps up with every exchange keeps up with a run: at every place of its log there is the directory
that answers there, and it goes with what was put together so far. The induction is on the run, for any
state that goes with its start. -/
theorem exists_at_exchange {State : Type} {after : State → Exchange → State}
    {P : State → Directory → Prop} {fits : Packet → Prop}
    (step : ∀ m d p, fits p → P m d →
      P (after m ⟨p, (d.dispatch p.bytes p.capacity).2⟩) (d.dispatch p.bytes p.capacity).1)
    {m : State} {d : Directory} (start : P m d) {packets : List Packet}
    (room : ∀ p ∈ packets, fits p) {before rest : List Exchange} {x : Exchange}
    (split : (d.run packets).2 = before ++ x :: rest) :
    ∃ e : Directory, P (before.foldl after m) e ∧ x.packet ∈ packets ∧
      x.reply = (e.dispatch x.packet.bytes x.packet.capacity).2 := by
  induction packets generalizing m d before with
  | nil =>
    have empty : ([] : List Exchange) = before ++ x :: rest := split
    simp at empty
  | cons p packets ih =>
    rw [run_cons] at split
    cases before with
    | nil =>
      obtain ⟨rfl, -⟩ := List.cons.inj split
      exact ⟨d, start, List.mem_cons_self, rfl⟩
    | cons y before =>
      obtain ⟨rfl, later⟩ := List.cons.inj split
      have next := step m d p (room p List.mem_cons_self) start
      obtain ⟨e, holds, member, reply⟩ :=
        ih next (fun p member => room p (List.mem_cons_of_mem _ member)) later
      exact ⟨e, holds, List.mem_cons_of_mem _ member, reply⟩

/-- What is put together from a log takes notice of nothing but changes that were done for a pair of codes,
and keeps up with what an authorized request does to the directory. -/
structure KeepsUp {State : Type} (code : Int32) (accessCode : UInt64)
    (after : State → Exchange → State) (P : State → Holdings → Prop) : Prop where
  undone : ∀ m x, x.isDone = false → after m x = m
  foreign : ∀ m x, ¬ x.packet.IsAuthorized code accessCode → after m x = m
  outcome : ∀ {m d e q r p reply}, P m d.holdings → Outcome d q e r →
    Request.decode p.bytes = .ok q → p.IsAuthorized code accessCode → 22 ≤ p.capacity →
    (reply = if r.leastSize ≤ p.capacity then some (r.cut p.capacity).encode else none) →
    P (after m ⟨p, reply⟩) e.holdings

section KeepsUp
variable {State : Type} {code : Int32} {accessCode : UInt64} {after : State → Exchange → State}
  {P : State → Holdings → Prop} {m : State} {d : Directory}

theorem KeepsUp.step (keeps : KeepsUp code accessCode after P) (start : P m d.holdings)
    (codes : d.code = code ∧ d.accessCode = accessCode) {p : Packet} (room : 22 ≤ p.capacity) :
    P (after m ⟨p, (d.dispatch p.bytes p.capacity).2⟩)
      (d.dispatch p.bytes p.capacity).1.holdings := by
  cases read : Request.decode p.bytes with
  | error cause =>
    have step := plain_dispatch d p.bytes p.capacity
    rw [plain_respond, read] at step
    obtain ⟨stores, reply⟩ := Prod.mk.inj step
    have undone : Exchange.isDone ⟨p, (d.dispatch p.bytes p.capacity).2⟩ = false := by
      rw [reply]
      rfl
    rw [keeps.undone _ _ undone, holdings_of_uncounted (e := d) stores]
    exact start
  | ok q =>
    have parts := Request.readFrom_of_decode read
    rcases handle_cases d (Request.isProper_of_decode read) with
      ⟨foreign, handled⟩ | ⟨known, e, r, outcome, handled⟩
    · obtain ⟨stores, -⟩ := Prod.mk.inj (dispatch_of_handle read handled p.capacity)
      have denied : ¬ p.IsAuthorized code accessCode := by
        rw [← codes.1, ← codes.2, ← Packet.isAuthorized_iff parts, foreign]
        exact Bool.false_ne_true
      rw [keeps.foreign m ⟨p, _⟩ denied, holdings_of_uncounted stores]
      exact start
    · obtain ⟨stores, reply⟩ := Prod.mk.inj (dispatch_of_handle read handled p.capacity)
      have allowed := (Packet.isAuthorized_iff parts).mp known
      rw [codes.1, codes.2] at allowed
      rw [holdings_of_uncounted stores]
      exact keeps.outcome start outcome read allowed room reply

theorem KeepsUp.run (keeps : KeepsUp code accessCode after P) (start : P m d.holdings)
    (codes : d.code = code ∧ d.accessCode = accessCode) {packets : List Packet}
    (room : ∀ p ∈ packets, 22 ≤ p.capacity) {before rest : List Exchange} {x : Exchange}
    (split : (d.run packets).2 = before ++ x :: rest) :
    ∃ e : Directory, (P (before.foldl after m) e.holdings ∧ e.code = code ∧ e.accessCode = accessCode) ∧
      x.packet ∈ packets ∧ x.reply = (e.dispatch x.packet.bytes x.packet.capacity).2 := by
  refine exists_at_exchange (P := fun m e => P m e.holdings ∧ e.code = code ∧ e.accessCode = accessCode)
    ?_ ⟨start, codes⟩ room split
  rintro m e p fits ⟨holds, same⟩
  obtain ⟨code', access'⟩ := codes_dispatch e p.bytes p.capacity
  exact ⟨keeps.step holds same fits, code'.trans same.1, access'.trans same.2⟩

end KeepsUp

variable {d : Directory} {b : Bytes} {capacity : Nat} {q : Request}
variable (read : Request.decode b = .ok q) (known : d.isAuthorized q.header = true)

include read known in
theorem dispatch_of_execute {p : Directory × Response}
    (run : d.execute q.header q.body = some p) (fits : p.2.leastSize ≤ capacity) :
    (d.dispatch b capacity).2 = some (p.2.cut capacity).encode := by
  have step := handle_authorized known
  rw [run] at step
  obtain ⟨-, reply⟩ := Prod.mk.inj (dispatch_of_handle read step capacity)
  rw [reply, if_pos fits]

include read known in
theorem exists_reply (room : ∀ r : Response, r.Answers q.header.tag → r.leastSize ≤ capacity) :
    ∃ reply, (d.dispatch b capacity).2 = some reply := by
  obtain ⟨e, r, run⟩ := execute_of_isProper d (Request.isProper_of_decode read)
  exact ⟨_, dispatch_of_execute read known run (room r (execute_answers run))⟩

include read known in
theorem reply_of_mutation {α : Type} {update : α → Directory} {outcome : Except StoreError α}
    (run : d.execute q.header q.body = some (d.mutation q.header update outcome))
    (room : 22 ≤ capacity) :
    (d.dispatch b capacity).2 = some (outcomeReply b outcome) := by
  have parts := Request.readFrom_of_decode read
  have encoded (n : UInt8) (code : ResultCode) :
      (Response.operation q.header 0 n code).encode = changeReply b n code.toInt32 := by
    rw [Response.operation, Response.encode, Response.encodeBody, parts.encode_header, changeReply]
    simp only [List.append_assoc]
    rfl
  cases outcome with
  | ok s =>
    rw [dispatch_of_execute read known run room]
    exact congrArg some (encoded 1 .ok)
  | error cause =>
    rw [dispatch_of_execute read known run room]
    exact congrArg some (encoded 0 cause.code)

include read known in
theorem reply_of_operation {e : Directory} {h : Header} {result : Int32}
    (run : d.execute q.header q.body =
      some (e, ⟨h, .operation (UInt32.ofNat (number b 13 4)) (byte b 17) result⟩))
    (long : 18 ≤ b.length) (room : 22 ≤ capacity) :
    (d.dispatch b capacity).2 =
      some (h.encode ++ slice b 13 5 ++ bigEndian 4 result.toUInt32.toNat) := by
  have offset : slice b 13 4 = bigEndian 4 (UInt32.ofNat (number b 13 4)).toNat :=
    slice_eq_uint32 (by omega)
  have place : slice b 13 5 = slice b 13 4 ++ [byte b 17] := by
    rw [← slice_one (by omega), slice_join rfl]
  rw [dispatch_of_execute read known run room, place, offset]
  simp [Response.cut, Response.encode, Response.encodeBody]

include read known in
theorem reply_of_echo {e : Directory}
    (run : d.execute q.header q.body =
      some (e, Response.operation q.header (UInt32.ofNat (number b 13 4)) (byte b 17) .ok))
    (long : 18 ≤ b.length) (room : 22 ≤ capacity) :
    (d.dispatch b capacity).2 =
      some (replyHead b (slice b 1 4) ++ slice b 13 5 ++ signedBytes 0) := by
  have parts := Request.readFrom_of_decode read
  rw [reply_of_operation read known run long room, parts.encode_header]
  rfl

include read known in
theorem reply_of_size {size : Nat}
    (run : d.execute q.header q.body =
      some (d, Response.count q.header (UInt32.ofNat (number b 13 4)) (byte b 17) size))
    (long : 18 ≤ b.length) (room : 22 ≤ capacity) :
    (d.dispatch b capacity).2 = some (replyHead b (signedBytes 0) ++ slice b 13 5 ++
      bigEndian 4 (min size (2 ^ 31 - 1))) := by
  have parts := Request.readFrom_of_decode read
  have small : min size (2 ^ 31 - 1) < 2 ^ 32 := by omega
  have result : (Int32.ofNat (min size (2 ^ 31 - 1))).toUInt32.toNat = min size (2 ^ 31 - 1) := by
    rw [Int32.toUInt32_ofNat', UInt32.toNat_ofNat_of_lt' small]
  rw [reply_of_operation (h := replyHeader q.header .ok) read known run long room,
    parts.encode_replyHeader]
  exact congrArg (fun v => some (_ ++ bigEndian 4 v)) result

theorem take_page {α : Type} (offset size keep : Nat) (xs : List α) :
    (Rows.page offset size xs).take keep =
      (xs.drop offset).take (min (min size (xs.length - offset)) keep) := by
  unfold Rows.page
  rw [List.take_take, List.take_eq_take_iff, List.length_drop]
  omega

include read known in
/-- A page is answered with as many of its records as there is room for, and twice with their number. -/
theorem reply_of_page {α : Type} {encode : α → Bytes} {keep n : Nat} {r : Response} {rows : List α}
    (run : d.execute q.header q.body = some (d, r)) (fits : r.leastSize ≤ capacity)
    (long : 18 ≤ b.length)
    (count : n = min (min (byte b 17).toNat (rows.length - number b 13 4)) keep)
    (shape : let kept := (Rows.page (number b 13 4) (byte b 17).toNat rows).take keep
      (r.cut capacity).encode = (replyHeader q.header .ok).encode ++
        (Response.encodeListHead (UInt32.ofNat (number b 13 4)) kept.length ++ kept.flatMap encode)) :
    (d.dispatch b capacity).2 = some (replyHead b (signedBytes 0) ++ slice b 13 4 ++
      [UInt8.ofNat n] ++ bigEndian 4 n ++
        (((rows.drop (number b 13 4)).take n).map encode).flatten) := by
  have parts := Request.readFrom_of_decode read
  have place : slice b 13 4 = bigEndian 4 (UInt32.ofNat (number b 13 4)).toNat :=
    slice_eq_uint32 (by omega)
  have kept := take_page (number b 13 4) (byte b 17).toNat keep rows
  rw [← count] at kept
  have size : ((rows.drop (number b 13 4)).take n).length = n := by
    rw [List.length_take, List.length_drop]
    omega
  have small : min n 255 = n := by
    have byte := (byte b 17).toNat_lt
    omega
  simp only [kept] at shape
  rw [dispatch_of_execute read known run fits, shape, parts.encode_replyHeader, place]
  simp only [Response.encodeListHead, size, small, List.flatMap_def, List.append_assoc]
  rfl

end Directory
end IdentityDirectory
