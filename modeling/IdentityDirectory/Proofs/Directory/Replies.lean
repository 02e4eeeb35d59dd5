import IdentityDirectory.Proofs.Directory.Denial
import IdentityDirectory.Proofs.Store.Calls
/-!
Replies of a directory. Every response that is computed for a request is clear, cutting it to a capacity
keeps it clear, and what is sent is therefore read as what was meant.
-/
namespace IdentityDirectory
open Bytes

theorem ResultCode.toInt32_ne_accessDenied {c : ResultCode} (h : c ≠ .accessDenied) :
    c.toInt32 ≠ ResultCode.accessDenied.toInt32 := by
  revert h
  cases c <;> decide

theorem StoreError.code_ne_accessDenied (cause : StoreError) :
    cause.code.toInt32 ≠ ResultCode.accessDenied.toInt32 := by
  apply ResultCode.toInt32_ne_accessDenied
  cases cause <;> simp [code]

theorem StoreError.code_ne_zero (cause : StoreError) : cause.code.toInt32.toUInt32.toNat ≠ 0 := by
  have failed : ∀ c : ResultCode, c ≠ .ok → c.toInt32.toUInt32.toNat ≠ 0 := by
    intro c
    cases c <;> decide
  apply failed
  cases cause <;> simp [code]

theorem Response.number_operation (h : Header) (offset : UInt32) (size : UInt8) (result : Int32) :
    number (encode ⟨h, .operation offset size result⟩) 18 4 = result.toUInt32.toNat := by
  obtain ⟨-, -, third⟩ := head_fields offset size result.toUInt32.toNat_lt []
  have place := h.number_behind (encodeBody (.operation offset size result)) 5 4
  rw [List.append_nil] at third
  exact place.trans third

namespace Response

def IsShort (r : Response) : Prop :=
  match r.body with
  | .identityList _ items => items.length ≤ 255
  | .gatewayList _ items => items.length ≤ 255
  | _ => True

/-- What holds of every response to a request with the given tag. -/
structure Answers (r : Response) (tag : Tag) : Prop where
  tag_eq : r.header.tag = tag
  clear : r.IsClear
  short : r.IsShort

theorem Answers.leastSize {r : Response} {tag : Tag} (h : r.Answers tag) :
    r.leastSize = 22 ∨ (tag = .addrLookup ∨ tag = .euiLookup) ∧ r.leastSize = 108 ∨
      (tag = .gatewayAddrLookup ∨ tag = .gatewayIdLookup) ∧ r.leastSize = 40 := by
  obtain ⟨header, body⟩ := r
  obtain ⟨rfl, clear, -⟩ := h
  cases body with
  | identity i => exact Or.inr (Or.inl ⟨clear, rfl⟩)
  | gateway g => exact Or.inr (Or.inr ⟨clear, rfl⟩)
  | operation offset size result => exact Or.inl rfl
  | identityList offset items => exact Or.inl rfl
  | gatewayList offset items => exact Or.inl rfl

theorem accessDenied_answers (tag : Tag) : (accessDenied tag).Answers tag :=
  ⟨rfl, fun _ => rfl, trivial⟩

theorem operation_answers {h : Header} (offset : UInt32) (size : UInt8) (result : Int32)
    (single : h.tag ≠ .list ∧ h.tag ≠ .gatewayList) :
    Answers ⟨h, .operation offset size result⟩ h.tag := by
  refine ⟨rfl, ?_, trivial⟩
  intro listed
  rcases listed with tag | tag
  · exact absurd tag single.1
  · exact absurd tag single.2

theorem Answers.cut {r : Response} {tag : Tag} (h : r.Answers tag) (capacity : Nat) :
    (r.cut capacity).Answers tag := by
  refine ⟨?_, isClear_cut h.clear capacity, ?_⟩
  · rw [header_cut]
    exact h.tag_eq
  obtain ⟨header, body⟩ := r
  have short := h.short
  cases body with
  | identityList offset items => exact Nat.le_trans (List.length_take_le' _ _) short
  | gatewayList offset items => exact Nat.le_trans (List.length_take_le' _ _) short
  | identity i => trivial
  | gateway g => trivial
  | operation offset size result => trivial

end Response

/-- Bytes that announce a number of records, once in a byte and once in four, and hold just as many. -/
structure Bytes.Announces (b : Bytes) (width count : Nat) : Prop where
  capped : (byte b 17).toNat = count
  counted : number b 18 4 = count
  size : b.length = 22 + count * width

namespace Response

theorem announces_list {α : Type} {encode : α → Bytes} {width : Nat}
    (size : ∀ x, (encode x).length = width) (h : Header) (offset : UInt32) {items : List α}
    (short : items.length ≤ 255) :
    Announces (h.encode ++ (encodeListHead offset items.length ++ items.flatMap encode)) width
      items.length := by
  obtain ⟨-, capped, counted⟩ := head_fields offset (UInt8.ofNat (min items.length 255))
    (v := items.length) (by omega) (items.flatMap encode)
  constructor
  · have place := h.byte_behind (encodeListHead offset items.length ++ items.flatMap encode) 4
    have small : min items.length 255 < 256 := by omega
    rw [show (17 : Nat) = Header.size + 4 from rfl, place, encodeListHead, capped,
      UInt8.toNat_ofNat_of_lt' small, Nat.min_eq_left short]
  · rw [show (18 : Nat) = Header.size + 5 from rfl, Header.number_behind]
    exact counted
  · simp [encodeListHead, length_flatMap_of_const size, Header.size]
    omega

end Response

namespace Directory

theorem lookup_answers (d : Directory) {h : Header} (key : Identity)
    (found : Except StoreError Identity) (tag : h.tag = .addrLookup ∨ h.tag = .euiLookup) :
    (d.lookup h key found).2.Answers h.tag := by
  cases found with
  | ok i => exact ⟨rfl, tag, trivial⟩
  | error cause => exact ⟨rfl, tag, trivial⟩

theorem gatewayLookup_answers (d : Directory) {h : Header} (key : Gateway)
    (tag : h.tag = .gatewayAddrLookup ∨ h.tag = .gatewayIdLookup) :
    (d.gatewayLookup h key).2.Answers h.tag := by
  unfold gatewayLookup
  split
  · exact ⟨rfl, tag, trivial⟩
  · exact ⟨rfl, tag, trivial⟩

theorem mutation_answers {α : Type} (d : Directory) {h : Header} (update : α → Directory)
    (outcome : Except StoreError α) (single : h.tag ≠ .list ∧ h.tag ≠ .gatewayList) :
    (d.mutation h update outcome).2.Answers h.tag := by
  cases outcome with
  | ok s => exact Response.operation_answers 0 1 _ single
  | error cause => exact Response.operation_answers 0 0 _ single

theorem saved_answers (d : Directory) {h : Header} (offset : UInt32) (size : UInt8)
    (outcome : Except StoreError Unit) (single : h.tag ≠ .list ∧ h.tag ≠ .gatewayList) :
    (d.saved h offset size outcome).2.Answers h.tag := by
  cases outcome with
  | ok done => exact Response.operation_answers offset size _ single
  | error cause => exact Response.operation_answers offset size _ single

theorem count_answers {h : Header} (offset : UInt32) (size : UInt8) (count : Nat)
    (single : h.tag ≠ .list ∧ h.tag ≠ .gatewayList) :
    (Response.count h offset size count).Answers h.tag := by
  unfold Response.count
  exact Response.operation_answers (h := { h with code := ResultCode.ok.toInt32 }) offset size _
    single

theorem listed_answers {α : Type} (d : Directory) {h : Header} {body : List α → ResponseBody}
    {outcome : Except StoreError (List α)}
    (clear : ∀ code items, code ≠ ResultCode.accessDenied.toInt32 → items.length ≤ 255 →
      Response.Answers ⟨{ h with code := code }, body items⟩ h.tag)
    (page : ∀ items, outcome = .ok items → items.length ≤ 255) :
    (d.listed h body outcome).2.Answers h.tag := by
  cases outcome with
  | ok items => exact clear _ items (by decide) (page items rfl)
  | error cause => exact clear _ [] cause.code_ne_accessDenied (Nat.zero_le 255)

theorem identityList_answers {h : Header} (offset : UInt32) (tag : h.tag = .list) (code : Int32)
    (items : List Identity) (fine : code ≠ ResultCode.accessDenied.toInt32)
    (short : items.length ≤ 255) :
    Response.Answers ⟨{ h with code := code }, .identityList offset items⟩ h.tag :=
  ⟨rfl, ⟨tag, fine, by omega⟩, short⟩

theorem gatewayList_answers {h : Header} (offset : UInt32) (tag : h.tag = .gatewayList)
    (code : Int32) (items : List Gateway) (fine : code ≠ ResultCode.accessDenied.toInt32)
    (short : items.length ≤ 255) :
    Response.Answers ⟨{ h with code := code }, .gatewayList offset items⟩ h.tag :=
  ⟨rfl, ⟨tag, fine, by omega⟩, short⟩

theorem answers_of_run {e : Directory} {p : Directory × Response} {r : Response} {tag : Tag}
    (run : some p = some (e, r)) (answers : p.2.Answers tag) : r.Answers tag := by
  rw [Option.some.inj run] at answers
  exact answers

theorem execute_answers {d e : Directory} {h : Header} {body : RequestBody} {r : Response}
    (run : d.execute h body = some (e, r)) : r.Answers h.tag := by
  have byte (n : UInt8) : n.toNat ≤ 255 := Nat.le_of_lt_succ n.toNat_lt
  unfold execute at run
  split at run <;> rename_i tag
  · exact answers_of_run run (lookup_answers d _ _ (Or.inl tag))
  · exact answers_of_run run (lookup_answers d _ _ (Or.inr tag))
  · exact answers_of_run run (mutation_answers d _ _ (by simp [tag]))
  · exact answers_of_run run (mutation_answers d _ _ (by simp [tag]))
  · refine answers_of_run run (listed_answers d (identityList_answers _ tag) ?_)
    intro items page
    exact Nat.le_trans (IdentityStore.length_of_list page) (byte _)
  · exact answers_of_run run (count_answers _ _ _ (by simp [tag]))
  · exact answers_of_run run (saved_answers _ _ _ _ (by simp [tag]))
  · exact answers_of_run run (gatewayLookup_answers d _ (Or.inl tag))
  · exact answers_of_run run (gatewayLookup_answers d _ (Or.inr tag))
  · exact answers_of_run run (mutation_answers d _ _ (by simp [tag]))
  · exact answers_of_run run (mutation_answers d _ _ (by simp [tag]))
  · refine answers_of_run run (listed_answers d (gatewayList_answers _ tag) ?_)
    intro items page
    exact Nat.le_trans (GatewayStore.length_of_list page) (byte _)
  · exact answers_of_run run (count_answers _ _ _ (by simp [tag]))
  · exact answers_of_run run (saved_answers _ _ _ _ (by simp [tag]))
  · exact answers_of_run run (Response.operation_answers _ _ _ (by simp [tag]))
  · exact answers_of_run run (Response.operation_answers _ _ _ (by simp [tag]))
  · cases run

theorem handle_answers {d : Directory} {q : Request} {r : Response} (proper : q.IsProper)
    (answer : (d.handle q).2 = some r) : r.Answers q.header.tag := by
  cases known : d.isAuthorized q.header with
  | false =>
    have denied := (Prod.mk.inj (handle_denied known)).2
    obtain rfl := Option.some.inj (answer.symm.trans denied)
    exact Response.accessDenied_answers q.header.tag
  | true =>
    obtain ⟨e, other, run⟩ := execute_of_isProper d proper
    have step := handle_authorized known
    rw [run] at step
    obtain rfl := Option.some.inj (answer.symm.trans (Prod.mk.inj step).2)
    exact execute_answers run

theorem dispatch_eq_some {d : Directory} {b reply : Bytes} {capacity : Nat}
    (sent : (d.dispatch b capacity).2 = some reply) :
    ∃ q r, Request.decode b = .ok q ∧ (d.handle q).2 = some r ∧ r.leastSize ≤ capacity ∧
      reply = (r.cut capacity).encode := by
  have step := plain_dispatch d b capacity
  rw [plain_respond] at step
  have answer := (Prod.mk.inj step).2
  cases read : Request.decode b with
  | error cause => simp [read, sent] at answer
  | ok q =>
    cases handled : (d.handle q).2 with
    | none => simp [read, handled, sent] at answer
    | some r =>
      by_cases room : r.leastSize ≤ capacity
      · refine ⟨q, r, rfl, handled, room, ?_⟩
        simpa [read, handled, sent, Response.fit_response?, room] using answer
      · simp [read, handled, sent, Response.fit_response?, room] at answer

theorem cut_listed {α : Type} (d : Directory) (h : Header) {body : List α → ResponseBody}
    (outcome : Except StoreError (List α)) {capacity : Nat}
    (cuts : ∀ header items, ∃ n,
      Response.cut capacity ⟨header, body items⟩ = ⟨header, body (items.take n)⟩) :
    (∃ items, ((d.listed h body outcome).2.cut capacity).body = body items) ∧
      ∀ cause, outcome = .error cause →
        (d.listed h body outcome).2.cut capacity = ⟨replyHeader h cause.code, body []⟩ := by
  cases outcome with
  | ok items =>
    obtain ⟨n, kept⟩ := cuts (replyHeader h .ok) items
    refine ⟨⟨items.take n, congrArg Response.body kept⟩, ?_⟩
    intro cause failed
    contradiction
  | error cause =>
    obtain ⟨n, kept⟩ := cuts (replyHeader h cause.code) []
    rw [List.take_nil] at kept
    refine ⟨⟨[], congrArg Response.body kept⟩, ?_⟩
    intro other failed
    obtain rfl := Except.error.inj failed
    exact kept

theorem cut_list {d : Directory} {h : Header} {offset : UInt32} {size : UInt8} {r : Response}
    (known : d.isAuthorized h = true) (tag : h.tag = .list)
    (answer : (d.handle ⟨h, .operation offset size⟩).2 = some r) (capacity : Nat) :
    (∃ items, (r.cut capacity).body = .identityList offset items) ∧
      ∀ cause, d.identities.list offset.toNat size.toNat = .error cause →
        r.cut capacity = ⟨replyHeader h cause.code, .identityList offset []⟩ := by
  have step := handle_authorized (q := ⟨h, .operation offset size⟩) known
  simp only [execute, tag] at step
  obtain rfl := Option.some.inj (answer.symm.trans (Prod.mk.inj step).2)
  exact cut_listed d h _ fun header items => ⟨_, rfl⟩

theorem cut_gatewayList {d : Directory} {h : Header} {offset : UInt32} {size : UInt8} {r : Response}
    (known : d.isAuthorized h = true) (tag : h.tag = .gatewayList)
    (answer : (d.handle ⟨h, .operation offset size⟩).2 = some r) (capacity : Nat) :
    (∃ items, (r.cut capacity).body = .gatewayList offset items) ∧
      ∀ cause, d.gateways.list offset.toNat size.toNat = .error cause →
        r.cut capacity = ⟨replyHeader h cause.code, .gatewayList offset []⟩ := by
  have step := handle_authorized (q := ⟨h, .operation offset size⟩) known
  simp only [execute, tag] at step
  obtain rfl := Option.some.inj (answer.symm.trans (Prod.mk.inj step).2)
  exact cut_listed d h _ fun header items => ⟨_, rfl⟩

/-- Every reply fits, and is read as what was computed and cut, in its wire form. A denial is read as a
denial, a list as a list even where it has lost all records or tells an error, and the two numbers in
front of a list are the number of the records behind them. -/
theorem replies_fit_and_decode_as_meant {d : Directory} {b reply : Bytes} {capacity : Nat}
    (sent : (d.dispatch b capacity).2 = some reply) :
    reply.length ≤ capacity ∧
      ∃ q r kept, Request.decode b = .ok q ∧ (d.handle q).2 = some r ∧
        (r.fit capacity).response? = some kept ∧ kept.header = r.header ∧
        Tag.decode b = .ok kept.header.tag ∧ Response.decode reply = .ok kept.wire ∧
        (d.isAuthorized q.header = false → kept.wire = Response.accessDenied q.header.tag) ∧
        (∀ offset size, q.body = .operation offset size → d.isAuthorized q.header = true →
          (q.header.tag = .list →
            (∃ items, kept.body = .identityList offset items) ∧
              ∀ cause, d.identities.list offset.toNat size.toNat = .error cause →
                kept = ⟨replyHeader q.header cause.code, .identityList offset []⟩) ∧
          (q.header.tag = .gatewayList →
            (∃ items, kept.body = .gatewayList offset items) ∧
              ∀ cause, d.gateways.list offset.toNat size.toNat = .error cause →
                kept = ⟨replyHeader q.header cause.code, .gatewayList offset []⟩)) ∧
        (∀ offset items, kept.body = .identityList offset items →
          reply.Announces 95 items.length) ∧
        ∀ offset items, kept.body = .gatewayList offset items →
          reply.Announces 27 items.length := by
  obtain ⟨q, r, read, answer, room, rfl⟩ := dispatch_eq_some sent
  have answers := (handle_answers (Request.isProper_of_decode read) answer).cut capacity
  obtain ⟨tag, body, known, -, -, shape⟩ := Request.decode_eq_ok read
  have fitted : (r.fit capacity).response? = some (r.cut capacity) := by
    rw [Response.fit_response?, if_pos room]
  have size : (r.cut capacity).encode.length ≤ capacity := by
    rw [Response.length_encode]
    exact Response.encodedSize_cut room
  have same : (r.cut capacity).header.tag = tag := by
    rw [answers.tag_eq, shape]
    rfl
  refine ⟨size, q, r, r.cut capacity, read, answer, fitted, Response.header_cut capacity r,
    by rw [same, known], Response.decode_encode answers.clear, ?_, ?_, ?_, ?_⟩
  · intro foreign
    have denied := (Prod.mk.inj (handle_denied foreign)).2
    obtain rfl := Option.some.inj (answer.symm.trans denied)
    rfl
  · intro offset count operation allowed
    have split : q = ⟨q.header, .operation offset count⟩ := by rw [← operation]
    rw [split] at answer
    exact ⟨fun list => cut_list allowed list answer capacity,
      fun list => cut_gatewayList allowed list answer capacity⟩
  · intro offset items list
    have short := answers.short
    unfold Response.IsShort at short
    rw [list] at short
    rw [Response.encode, list]
    exact Response.announces_list Identity.length_encode _ offset short
  · intro offset items list
    have short := answers.short
    unfold Response.IsShort at short
    rw [list] at short
    rw [Response.encode, list]
    exact Response.announces_list Gateway.length_encode _ offset short

theorem cramped_list_conveyed :
    let d := (inMemory none 42 42 ⟨[], []⟩ default).withIdentities
      ⟨.memory, none, [Identity.ofAddr ⟨5⟩]⟩
    let reply : Bytes := 0x6C :: List.replicate 11 0 ++ 42 :: List.replicate 9 0
    (d.dispatch (Request.list 42 42 0 10).encode 100).2 = some reply ∧ reply.length ≤ 100 ∧
      ∃ kept, Response.decode reply = .ok (Response.wire kept) ∧
        kept.body = .identityList 0 [] := by
  intro d reply
  have sent : (d.dispatch (Request.list 42 42 0 10).encode 100).2 = some reply := by decide
  obtain ⟨size, q, r, kept, read, -, -, -, -, meant, -, listing, devices, -⟩ :=
    replies_fit_and_decode_as_meant sent
  have request : Request.decode (Request.list 42 42 0 10).encode = .ok (Request.list 42 42 0 10) :=
    rfl
  obtain rfl := Except.ok.inj (request.symm.trans read)
  obtain ⟨⟨items, list⟩, -⟩ := (listing 0 10 rfl (by decide)).1 rfl
  have room := (devices 0 items list).size
  have long : reply.length = 22 := rfl
  have empty : items = [] := List.length_eq_zero_iff.mp (by omega)
  rw [empty] at list
  exact ⟨sent, size, kept, meant, list⟩

end Directory
end IdentityDirectory
