import IdentityDirectory.Message.Decode
import IdentityDirectory.Proofs.Results
import IdentityDirectory.Proofs.Wire.Records
/-!
Requests on the wire: what bytes that are read as a request look like.
-/
namespace IdentityDirectory
open Bytes

namespace Request

theorem layout_of_decodeBody {tag : Tag} {b : Bytes} {body : RequestBody}
    (h : decodeBody tag b = .ok body) : body.layout = tag.layout := by
  cases tag <;> simp only [decodeBody] at h
  case assign | gatewayAddrLookup | gatewayIdLookup | gatewayAssign | gatewayRemove =>
    obtain ⟨record, -, rfl⟩ := ok_of_map h
    rfl
  all_goals
    rw [← Except.ok.inj h]
    rfl

theorem decode_eq_ok {b : Bytes} {q : Request} (h : decode b = .ok q) :
    ∃ tag body, Tag.decode b = .ok tag ∧ tag.minRequestSize ≤ b.length ∧
      decodeBody tag (b.drop Header.size) = .ok body ∧ q = ⟨Header.ofBytes tag b, body⟩ := by
  simp only [decode, bind, Except.bind] at h
  split at h
  · contradiction
  · rename_i tag known
    split at h
    · contradiction
    · rename_i room
      split at h
      · contradiction
      · rename_i body read
        exact ⟨tag, body, known, by omega, read, (Except.ok.inj h).symm⟩

theorem decode_of_foreign {b : Bytes} {cause : Error} (foreign : Tag.decode b = .error cause) :
    decode b = .error cause := by
  rw [decode, foreign]
  rfl

theorem decode_of_short {b : Bytes} {tag : Tag} (known : Tag.decode b = .ok tag)
    (short : b.length < tag.minRequestSize) :
    decode b = .error (.truncated tag tag.minRequestSize b.length) := by
  simp only [decode, known, bind, Except.bind, if_pos short]

theorem decode_of_room {b : Bytes} {tag : Tag} (known : Tag.decode b = .ok tag)
    (room : tag.minRequestSize ≤ b.length) :
    decode b = (decodeBody tag (b.drop Header.size)).map fun body => ⟨Header.ofBytes tag b, body⟩ := by
  simp only [decode, known, bind, Except.bind, if_neg (Nat.not_lt.mpr room)]
  cases decodeBody tag (b.drop Header.size) <;> rfl

theorem isProper_of_decode {b : Bytes} {q : Request} (h : decode b = .ok q) : q.IsProper := by
  obtain ⟨tag, body, -, -, read, rfl⟩ := decode_eq_ok h
  exact layout_of_decodeBody read

end Request

theorem Tag.toByte_injective {s t : Tag} (same : s.toByte = t.toByte) : s = t := by
  have h := congrArg Tag.ofByte? same
  rw [Tag.ofByte?_toByte, Tag.ofByte?_toByte] at h
  exact Option.some.inj h

theorem Tag.header_le_minRequestSize (t : Tag) : Header.size ≤ t.minRequestSize := by
  cases t <;> exact Nat.le_add_right _ _

theorem Tag.toByte_of_decode {b : Bytes} {tag : Tag} (h : Tag.decode b = .ok tag) :
    byte b 0 = tag.toByte := by
  unfold Tag.decode at h
  split at h
  · contradiction
  · split at h
    · contradiction
    · rename_i known
      rw [← Except.ok.inj h, Tag.toByte_of_ofByte? known]
      rfl

namespace Request

/-- The parts of a request that has been read, by its tag. -/
structure ReadFrom (b : Bytes) (q : Request) : Prop where
  tag : byte b 0 = q.header.tag.toByte
  room : q.header.tag.minRequestSize ≤ b.length
  header : q.header = Header.ofBytes q.header.tag b
  body : decodeBody q.header.tag (b.drop Header.size) = .ok q.body

theorem readFrom_of_decode {b : Bytes} {q : Request} (h : decode b = .ok q) : ReadFrom b q := by
  obtain ⟨tag, body, known, room, read, rfl⟩ := decode_eq_ok h
  exact ⟨Tag.toByte_of_decode known, room, rfl, read⟩

theorem ReadFrom.header_room {b : Bytes} {q : Request} (h : ReadFrom b q) : 13 ≤ b.length :=
  Nat.le_trans (Tag.header_le_minRequestSize q.header.tag) h.room

theorem ReadFrom.room_of {b : Bytes} {q : Request} {t : Tag} (read : ReadFrom b q)
    (tag : q.header.tag = t) : t.minRequestSize ≤ b.length := by
  rw [← tag]
  exact read.room

theorem ReadFrom.addr {b : Bytes} {q : Request} (read : ReadFrom b q)
    (tag : q.header.tag = .euiLookup) : q.body = .addr ⟨UInt32.ofNat (number b 13 4)⟩ := by
  have body := read.body
  simp only [tag, decodeBody, number_drop] at body
  exact (Except.ok.inj body).symm

theorem ReadFrom.eui {b : Bytes} {q : Request} (read : ReadFrom b q)
    (tag : q.header.tag = .addrLookup) : q.body = .eui ⟨UInt64.ofNat (number b 13 8)⟩ := by
  have body := read.body
  simp only [tag, decodeBody, number_drop] at body
  exact (Except.ok.inj body).symm

theorem ReadFrom.operation {b : Bytes} {q : Request} (read : ReadFrom b q)
    (layout : q.header.tag.layout = .operation) :
    q.body = .operation (UInt32.ofNat (number b 13 4)) (byte b 17) := by
  have body := read.body
  cases tag : q.header.tag <;> rw [tag] at layout <;> first
    | contradiction
    | simp only [tag, decodeBody, number_drop, byte_drop] at body
      exact (Except.ok.inj body).symm

theorem ReadFrom.identity {b : Bytes} {q : Request} (read : ReadFrom b q)
    (layout : q.header.tag.layout = .identity) : ∃ i, q.body = .identity i := by
  have same := layout_of_decodeBody read.body
  rw [layout] at same
  cases body : q.body <;> rw [body] at same <;> first
    | contradiction
    | exact ⟨_, rfl⟩

theorem ReadFrom.encode_assigned {b : Bytes} {h : Header} {i : Identity}
    (read : ReadFrom b ⟨h, .identity i⟩) (tag : h.tag = .assign) :
    i.encode = slice b 13 95 := by
  have room : Header.size + Identity.size ≤ b.length := read.room_of tag
  have body := read.body
  simp only [tag, decodeBody, Identity.read, readRecord] at body
  have long : Identity.size ≤ (b.drop Header.size).length := by
    rw [List.length_drop]
    omega
  obtain ⟨j, record, same⟩ := ok_of_map body
  obtain rfl := RequestBody.identity.inj same
  rw [if_neg (Nat.not_lt.mpr long)] at record
  rw [Identity.encode_of_decode long (ok_of_mapError record), slice_drop]
  rfl

theorem ReadFrom.assigned {b : Bytes} {h : Header} {i : Identity}
    (read : ReadFrom b ⟨h, .identity i⟩) (tag : h.tag = .assign) :
    i.addr.value.toNat = number b 13 4 := by
  have place : slice (slice b 13 95) 0 4 = slice b 13 4 := slice_slice (by decide)
  rw [← read.encode_assigned tag, (Identity.spelled_self i).addr] at place
  exact (number_of_slice place.symm i.addr.value.toNat_lt).symm

theorem ReadFrom.removed {b : Bytes} {h : Header} {i : Identity}
    (read : ReadFrom b ⟨h, .identity i⟩) (tag : h.tag = .remove) :
    i.addr.value.toNat = number b 13 4 := by
  have body := read.body
  simp only [tag, decodeBody, Except.ok.injEq, RequestBody.identity.injEq, number_drop] at body
  rw [← body]
  exact UInt32.toNat_ofNat_of_lt' (number_lt b 13 4)

end Request
end IdentityDirectory
