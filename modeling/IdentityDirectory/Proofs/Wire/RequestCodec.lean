import IdentityDirectory.Proofs.Wire.Grammar
import IdentityDirectory.Proofs.Wire.Responses
/-!
The two directions of the request codec. A request that is sent arrives in its wire form, whatever follows it;
bytes that are accepted are sent again as they came, without the bytes that nothing reads.
-/
namespace IdentityDirectory
open Bytes

/-- What of a body arrives under a tag. A removal names a device by its address alone. -/
def RequestBody.wire (tag : Tag) : RequestBody → RequestBody
  | identity i => identity (if tag = .remove then Identity.ofAddr i.addr else i.wire)
  | gateway g => gateway g.wire
  | body => body

def Request.wire (q : Request) : Request := { q with body := q.body.wire q.header.tag }

theorem Version.wire_wire (v : Version) : v.wire.wire = v.wire := by
  simp only [wire, make, Version.mk.injEq, ← UInt8.toNat_inj, UInt8.toNat_mod, Nat.mod_mod, and_self]

theorem DeviceName.wire_wire (n : DeviceName) : n.wire.wire = n.wire := by
  have front : (Octets.ofBytes 8 (n.octets.bytes.take 6)).bytes.take 6 = n.octets.bytes.take 6 := by
    simp [Octets.ofBytes, List.take_append, List.take_take]
  simp only [wire, front]

theorem Identity.wire_wire (i : Identity) : i.wire.wire = i.wire := by
  simp only [wire, Version.wire_wire, DeviceName.wire_wire]

theorem Endpoint.wire_wire (e : Endpoint) : e.wire.wire = e.wire := by
  cases e <;> rfl

theorem Gateway.wire_wire (g : Gateway) : g.wire.wire = g.wire := by
  obtain ⟨id, endpoint⟩ := g
  cases endpoint with
  | none => rfl
  | some e => simp only [wire, Option.map_some, Endpoint.wire_wire]

namespace RequestBody

@[simp] theorem layout_wire (tag : Tag) (body : RequestBody) : (body.wire tag).layout = body.layout := by
  cases body <;> rfl

theorem wire_wire (tag : Tag) (body : RequestBody) : (body.wire tag).wire tag = body.wire tag := by
  cases body with
  | identity i =>
    by_cases removal : tag = .remove
    · simp only [wire, if_pos removal, Identity.ofAddr]
    · simp only [wire, if_neg removal, Identity.wire_wire]
  | gateway g => simp only [wire, Gateway.wire_wire]
  | eui | addr | operation => rfl

theorem length_encode (body : RequestBody) : body.encode.length = body.layout.size := by
  cases body <;> simp [encode, layout, Tag.Layout.size]

end RequestBody

namespace Request

theorem wire_wire (q : Request) : q.wire.wire = q.wire := by
  simp only [wire, RequestBody.wire_wire]

theorem isProper_wire {q : Request} (proper : q.IsProper) : q.wire.IsProper := by
  rw [IsProper, wire, RequestBody.layout_wire]
  exact proper

theorem minRequestSize_le_encode {q : Request} (proper : q.IsProper) (t : Bytes) :
    q.header.tag.minRequestSize ≤ (q.encode ++ t).length := by
  have size : (q.encode ++ t).length = Header.size + q.header.tag.layout.size + t.length := by
    rw [encode, List.length_append, List.length_append, Header.length_encode,
      RequestBody.length_encode, proper]
  rw [size]
  cases q.header.tag <;> simp only [Tag.minRequestSize, Tag.layout, Tag.Layout.size, Identity.size] <;>
    omega

theorem decodeBody_encode {q : Request} (proper : q.IsProper) (t : Bytes) :
    decodeBody q.header.tag (q.body.encode ++ t) = .ok (q.body.wire q.header.tag) := by
  obtain ⟨⟨tag, code, access⟩, body⟩ := q
  have layout : body.layout = tag.layout := proper
  cases body with
  | eui e =>
    cases tag <;> first | contradiction | skip
    have place : slice (bigEndian 8 e.value.toNat ++ t) 0 8 = bigEndian 8 e.value.toNat := by
      rw [slice_append_left (by simp), slice_whole (by simp)]
    simp only [decodeBody, RequestBody.encode, number_of_slice place e.value.toNat_lt,
      UInt64.ofNat_toNat, RequestBody.wire]
  | addr a =>
    cases tag <;> first | contradiction | skip
    have place : slice (bigEndian 4 a.value.toNat ++ t) 0 4 = bigEndian 4 a.value.toNat := by
      rw [slice_append_left (by simp), slice_whole (by simp)]
    simp only [decodeBody, RequestBody.encode, number_of_slice place a.value.toNat_lt,
      UInt32.ofNat_toNat, RequestBody.wire]
  | identity i =>
    cases tag <;> first | contradiction | skip
    · simp only [decodeBody, RequestBody.encode, Identity.read_encode]
      rfl
    · have place := number_of_slice (Identity.spelled_encode i t).addr i.addr.value.toNat_lt
      simp only [decodeBody, RequestBody.encode, place, UInt32.ofNat_toNat, RequestBody.wire,
        ↓reduceIte]
  | operation offset size =>
    have place : slice (bigEndian 4 offset.toNat ++ [size] ++ t) 0 4 = bigEndian 4 offset.toNat := by
      rw [List.append_assoc, slice_append_left (by simp), slice_whole (by simp)]
    have last : byte (bigEndian 4 offset.toNat ++ [size] ++ t) 4 = size := by
      rw [byte_append_left (by simp), byte_append_right (by simp), length_bigEndian]
      rfl
    have read : RequestBody.operation
        (UInt32.ofNat (number (bigEndian 4 offset.toNat ++ [size] ++ t) 0 4))
        (byte (bigEndian 4 offset.toNat ++ [size] ++ t) 4) = .operation offset size := by
      rw [number_of_slice place offset.toNat_lt, UInt32.ofNat_toNat, last]
    cases tag <;> first
      | contradiction
      | simp only [decodeBody, RequestBody.encode, read, RequestBody.wire]
  | gateway g =>
    rw [decodeBody_gateway layout.symm, RequestBody.encode, Gateway.read_encode]
    rfl

theorem decode_encode {q : Request} (proper : q.IsProper) (t : Bytes) :
    decode (q.encode ++ t) = .ok q.wire := by
  have known : Tag.decode (q.encode ++ t) = .ok q.header.tag := by
    rw [encode, List.append_assoc, Tag.decode_encode]
  have header : Header.ofBytes q.header.tag (q.encode ++ t) = q.header := by
    rw [encode, List.append_assoc, Header.ofBytes_encode]
  have rest : (q.encode ++ t).drop Header.size = q.body.encode ++ t := by
    rw [encode, List.append_assoc]
    exact q.header.drop_behind _ 0
  rw [decode_of_room known (minRequestSize_le_encode proper t), header, rest,
    decodeBody_encode proper]
  rfl

/-- Decoding undoes encoding. A request arrives in its wire form, with any bytes behind it; the wire form
keeps the header and is a fixed point, so a request in wire form arrives as it is; and requests that are
sent as the same bytes have the same wire form. -/
theorem decode_undoes_encode {q : Request} (proper : q.IsProper) :
    (∀ t, decode (q.encode ++ t) = .ok q.wire) ∧
      q.wire.header = q.header ∧ q.wire.IsProper ∧ q.wire.wire = q.wire ∧
      (q.wire = q → ∀ t, decode (q.encode ++ t) = .ok q) ∧
      ∀ r : Request, r.IsProper → r.encode = q.encode → r.wire = q.wire := by
  refine ⟨decode_encode proper, rfl, isProper_wire proper, wire_wire q, ?_, ?_⟩
  · intro still t
    rw [decode_encode proper, still]
  · intro r proper' same
    have first := decode_encode proper' []
    rw [same, decode_encode proper []] at first
    exact (Except.ok.inj first).symm

theorem scoped_gateway_arrives_bare :
    ∃ q : Request, q.IsProper ∧ q.wire ≠ q ∧ decode (q.encode ++ [7]) = .ok q.wire := by
  refine ⟨gateway .gatewayAssign 3 4 ⟨⟨1⟩, some (.v6 (Octets.zero 16) 1700 0 5)⟩, by decide,
    by decide, ?_⟩
  exact (decode_undoes_encode (by decide)).1 [7]

def blankDevice : Bytes := List.replicate 42 0 ++ [1] ++ List.replicate 48 0

theorem encode_ofAddr (a : DevAddr) :
    (Identity.ofAddr a).encode = bigEndian 4 a.value.toNat ++ blankDevice := by
  simp only [Identity.encode, Identity.ofAddr, List.append_assoc, List.append_cancel_left_eq]
  decide

/-- What is sent again of bytes that were accepted. Of a gateway the bytes that its family has no use for are
cleared, of a removal all behind the address. -/
def resent (t : Tag) (b : Bytes) : Bytes :=
  match t with
  | .remove => b.take 17 ++ blankDevice
  | .gatewayAddrLookup | .gatewayIdLookup | .gatewayAssign | .gatewayRemove =>
    if byte b 21 = 0 then b.take 22 ++ List.replicate 18 0
    else if byte b 21 = 4 then b.take 28 ++ List.replicate 12 0
    else b.take 40
  | _ => b.take t.leastSize

theorem take_eq_slice (b : Bytes) (n : Nat) : b.take n = slice b 0 n := by
  rw [slice, List.drop_zero]

theorem encode_header {b : Bytes} {q : Request} (h : decode b = .ok q) : q.header.encode = b.take 13 := by
  have read := readFrom_of_decode h
  have carries := carries_of_decode h
  have long := read.header_room
  have first : [q.header.tag.toByte] = slice b 0 1 := by rw [slice_one (by omega), read.tag]
  have shape : q.header.encode = [q.header.tag.toByte] ++
      bigEndian 4 q.header.code.toUInt32.toNat ++ bigEndian 8 q.header.accessCode.toNat := rfl
  rw [shape, first, carries.code, carries.accessCode, bigEndian_number (by omega),
    bigEndian_number (by omega), take_eq_slice]
  simp (disch := rfl) only [slice_join, Nat.reduceAdd]

theorem encodeEndpoint_of_carries {b : Bytes} {e : Option Endpoint} (room : 40 ≤ b.length)
    (h : CarriesEndpoint b e) :
    Gateway.encodeEndpoint e =
      if byte b 21 = 0 then slice b 21 1 ++ List.replicate 18 0
      else if byte b 21 = 4 then slice b 21 7 ++ List.replicate 12 0
      else slice b 21 19 := by
  have first : slice b 21 1 = [byte b 21] := slice_one (by omega)
  have port : bigEndian 2 (number b 22 2) = slice b 22 2 := bigEndian_number (by omega)
  rcases e with _ | ⟨ip, place⟩ | ⟨ip, place, flow, scope⟩
  · have family : byte b 21 = 0 := h
    rw [if_pos family, first, family]
    rfl
  · obtain ⟨family, same, address⟩ := h
    have other : ¬ byte b 21 = 0 := by rw [family]; decide
    have joined : slice b 21 7 = slice b 21 1 ++ slice b 22 2 ++ slice b 24 4 := by
      simp (disch := rfl) only [slice_join, Nat.reduceAdd]
    rw [if_neg other, if_pos family, joined, first, family, Gateway.encodeEndpoint, same, port, address]
    rfl
  · obtain ⟨family, same, address, -, -⟩ := h
    have other : ¬ byte b 21 = 0 := by rw [family]; decide
    have another : ¬ byte b 21 = 4 := by rw [family]; decide
    have joined : slice b 21 19 = slice b 21 1 ++ slice b 22 2 ++ slice b 24 16 := by
      simp (disch := rfl) only [slice_join, Nat.reduceAdd]
    rw [if_neg other, if_neg another, joined, first, family, Gateway.encodeEndpoint, same, port,
      address]
    rfl

theorem resent_gateway {t : Tag} (layout : t.layout = .gateway) (b : Bytes) :
    resent t b =
      if byte b 21 = 0 then b.take 22 ++ List.replicate 18 0
      else if byte b 21 = 4 then b.take 28 ++ List.replicate 12 0
      else b.take 40 := by
  cases t <;> first | contradiction | rfl

theorem encode_identity_of_spelled {b : Bytes} {i : Identity} (long : 108 ≤ b.length)
    (spelled : Identity.Spelled (b.drop 13) i) : b.take 13 ++ i.encode = b.take 108 := by
  have size : Identity.size ≤ (b.drop 13).length := by
    rw [List.length_drop, Identity.size]
    omega
  rw [← Identity.slice_of_spelled spelled size, slice_drop, take_eq_slice, slice_join rfl,
    ← take_eq_slice]
  rfl

theorem encode_operation_of_carries {b : Bytes} {offset : UInt32} {size : UInt8}
    (long : 18 ≤ b.length) (first : offset.toNat = number b 13 4) (second : size = byte b 17) :
    b.take 13 ++ (RequestBody.operation offset size).encode = b.take 18 := by
  rw [RequestBody.encode, first, second, ← slice_one (by omega), bigEndian_number (by omega),
    take_eq_slice, slice_join rfl, slice_join rfl, take_eq_slice]

theorem encode_gateway_of_carries {b : Bytes} {t : Tag} {g : Gateway} (layout : t.layout = .gateway)
    (long : 40 ≤ b.length) (id : g.id.value.toNat = number b 13 8)
    (endpoint : CarriesEndpoint b g.endpoint) : b.take 13 ++ g.encode = resent t b := by
  rw [Gateway.encode, id, bigEndian_number (by omega), encodeEndpoint_of_carries long endpoint,
    resent_gateway layout, ← List.append_assoc]
  simp only [take_eq_slice]
  split
  · rw [slice_join rfl, ← List.append_assoc, slice_join rfl]
  · split
    · rw [slice_join rfl, ← List.append_assoc, slice_join rfl]
    · rw [slice_join rfl, slice_join rfl]

theorem encode_of_decode {b : Bytes} {q : Request} (h : decode b = .ok q) :
    q.encode = resent q.header.tag b := by
  have carries := carries_of_decode h
  have whole := whole_of_decode h
  have proper : q.body.layout = q.header.tag.layout := carries.proper
  rw [encode, encode_header h]
  have room := whole.room
  cases body : q.body with
  | eui e =>
    rw [body] at proper
    rw [RequestBody.encode, carries.eui e body]
    cases tag : q.header.tag <;> rw [tag] at proper room <;> first | contradiction | skip
    have long : 21 ≤ b.length := room
    rw [bigEndian_number (by omega), take_eq_slice, slice_join rfl, ← take_eq_slice]
    rfl
  | addr a =>
    rw [body] at proper
    rw [RequestBody.encode, carries.addr a body]
    cases tag : q.header.tag <;> rw [tag] at proper room <;> first | contradiction | skip
    have long : 17 ≤ b.length := room
    rw [bigEndian_number (by omega), take_eq_slice, slice_join rfl, ← take_eq_slice]
    rfl
  | identity i =>
    rw [body] at proper
    rw [RequestBody.encode]
    cases tag : q.header.tag <;> rw [tag] at proper room <;> first | contradiction | skip
    · exact encode_identity_of_spelled room (carries.assigned i tag body).1
    · have long : 21 ≤ b.length := room
      obtain ⟨addr, alone⟩ := carries.removed i tag body
      rw [alone, encode_ofAddr, addr, bigEndian_number (by omega), ← List.append_assoc, take_eq_slice,
        slice_join rfl, ← take_eq_slice]
      rfl
  | operation offset size =>
    rw [body] at proper
    obtain ⟨first, second⟩ := carries.operation offset size body
    have long : 18 ≤ b.length := by
      cases tag : q.header.tag <;> rw [tag] at proper room <;> first | contradiction | exact room
    rw [encode_operation_of_carries long first second]
    cases tag : q.header.tag <;> rw [tag] at proper <;> first | contradiction | rfl
  | gateway g =>
    rw [body] at proper
    obtain ⟨id, endpoint⟩ := carries.gateway g body
    exact encode_gateway_of_carries proper.symm (room_of_gateway whole proper.symm) id endpoint

theorem wire_of_decode {b : Bytes} {q : Request} (h : decode b = .ok q) : q.wire = q := by
  have carries := carries_of_decode h
  have proper : q.body.layout = q.header.tag.layout := carries.proper
  obtain ⟨⟨tag, code, access⟩, body⟩ := q
  cases body with
  | identity i =>
    cases tag <;> first | contradiction | skip
    · obtain ⟨-, still⟩ := carries.assigned i rfl rfl
      simp only [wire, RequestBody.wire, reduceCtorEq, ↓reduceIte, still]
    · obtain ⟨-, alone⟩ := carries.removed i rfl rfl
      simp only [wire, RequestBody.wire, ↓reduceIte, ← alone]
  | gateway g =>
    obtain ⟨-, endpoint⟩ := carries.gateway g rfl
    obtain ⟨id, e⟩ := g
    rcases e with _ | ⟨ip, port⟩ | ⟨ip, port, flow, scope⟩
    · rfl
    · rfl
    · obtain ⟨-, -, -, rfl, rfl⟩ := endpoint
      rfl
  | eui | addr | operation => rfl

theorem eq_remove_of_decode {b : Bytes} {q : Request} (h : decode b = .ok q)
    (removal : q.header.tag = .remove) :
    q = remove q.header.code q.header.accessCode ⟨UInt32.ofNat (number b 13 4)⟩ := by
  have carries := carries_of_decode h
  obtain ⟨i, body⟩ := (readFrom_of_decode h).identity (by rw [removal]; rfl)
  obtain ⟨addr, alone⟩ := carries.removed i removal body
  obtain ⟨⟨tag, code, access⟩, body'⟩ := q
  have same : body' = .identity (Identity.ofAddr ⟨UInt32.ofNat (number b 13 4)⟩) := by
    rw [← addr, UInt32.ofNat_toNat, ← alone]
    exact body
  have letter : tag = .remove := removal
  rw [same, letter]
  rfl

theorem removal_of_front {b c : Bytes} {q r : Request} (h : decode b = .ok q) (h' : decode c = .ok r)
    (removal : q.header.tag = .remove) (same : c.take 17 = b.take 17) : r = q := by
  have first := (readFrom_of_decode h).tag
  have second := (readFrom_of_decode h').tag
  have letter : r.header.tag = q.header.tag := by
    apply Tag.toByte_injective
    rw [← first, ← second, byte_congr same (by decide)]
  have header : r.header = q.header := by
    rw [(readFrom_of_decode h').header, (readFrom_of_decode h).header, letter]
    exact header_congr same (by decide) _
  have removal' : r.header.tag = .remove := letter.trans removal
  rw [eq_remove_of_decode h removal, eq_remove_of_decode h' removal', header,
    number_congr same (by decide)]

/-- Encoding undoes decoding. What was accepted is sent again as it came, apart from the bytes that nothing
reads, and is then read as the same request; a removal is told by its first seventeen bytes alone. -/
theorem encode_undoes_decode {b : Bytes} {q : Request} (h : decode b = .ok q) :
    q.encode = resent q.header.tag b ∧ decode q.encode = .ok q ∧
      (q.header.tag = .remove →
        q = remove q.header.code q.header.accessCode ⟨UInt32.ofNat (number b 13 4)⟩ ∧
          ∀ c r, decode c = .ok r → c.take 17 = b.take 17 → r = q) := by
  refine ⟨encode_of_decode h, ?_, ?_⟩
  · have again := decode_encode (isProper_of_decode h) []
    rwa [List.append_nil, wire_of_decode h] at again
  · intro removal
    exact ⟨eq_remove_of_decode h removal, fun c r h' same => removal_of_front h h' removal same⟩

theorem padded_removal_resent :
    ∃ q, decode (Tag.remove.toByte :: List.replicate 20 9) = .ok q ∧
      q.encode = Tag.remove.toByte :: List.replicate 16 9 ++ blankDevice := by
  have told : decode (Tag.remove.toByte :: List.replicate 20 9) =
      .ok (remove 0x09090909 0x0909090909090909 ⟨0x09090909⟩) := rfl
  exact ⟨_, told, (encode_undoes_decode told).1⟩

end Request
end IdentityDirectory
