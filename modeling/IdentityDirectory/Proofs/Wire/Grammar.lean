import IdentityDirectory.Proofs.Wire.Cursor
/-!
The grammar of requests: what is told about bytes, one rule for each error and one for what is accepted, with
letters, sizes and places written out. The decoder tells exactly what the rules allow.
-/
namespace IdentityDirectory
open Bytes

def requestLetters : Bytes := "aiprlcseAIPRLCSE".toList.map fun c => UInt8.ofNat c.toNat

namespace Tag

def leastSize : Tag → Nat
  | addrLookup | remove => 21
  | euiLookup => 17
  | assign => 108
  | list | count | forceSave | close => 18
  | gatewayAddrLookup | gatewayIdLookup | gatewayAssign | gatewayRemove => 40
  | gatewayList | gatewayCount | gatewayForceSave | gatewayClose => 18

theorem minRequestSize_eq (t : Tag) : t.minRequestSize = t.leastSize := by cases t <;> rfl

theorem requestLetters_eq : requestLetters = all.map toByte := by decide

theorem mem_requestLetters (t : Tag) : t.toByte ∈ requestLetters := by
  rw [requestLetters_eq]
  exact List.mem_map_of_mem (mem_all t)

theorem decode_of_head {b : Bytes} {t : Tag} (first : b.head? = some t.toByte) :
    decode b = .ok t := by
  cases b with
  | nil => contradiction
  | cons x rest =>
    obtain rfl := Option.some.inj first
    simp only [decode, ofByte?_toByte]

theorem decode_error_iff {b : Bytes} {cause : Error} :
    decode b = .error cause ↔
      b = [] ∧ cause = .emptyPacket ∨
        ∃ x, b.head? = some x ∧ x ∉ requestLetters ∧ cause = .unknownTag x := by
  cases b with
  | nil => simp [decode, eq_comm]
  | cons x rest =>
    cases known : ofByte? x with
    | none =>
      have foreign : x ∉ requestLetters := by
        intro member
        rw [requestLetters_eq, List.mem_map] at member
        obtain ⟨t, -, rfl⟩ := member
        rw [ofByte?_toByte] at known
        contradiction
      simp [decode, known, foreign, eq_comm]
    | some t =>
      have member : x ∈ requestLetters := by
        rw [← toByte_of_ofByte? known]
        exact mem_requestLetters t
      simp [decode, known, member]

theorem head_of_decode {b : Bytes} {t : Tag} (known : decode b = .ok t) :
    b.head? = some t.toByte := by
  cases b with
  | nil => contradiction
  | cons x rest => exact congrArg some (toByte_of_decode known)

end Tag

theorem Activation.ofByte?_eq_none_iff {x : UInt8} : ofByte? x = none ↔ 1 < x := by
  unfold ofByte?
  split
  · decide
  · decide
  · rename_i zero one
    simp only [true_iff, UInt8.lt_iff_toNat_lt]
    simp only [← UInt8.toNat_inj, imp_false] at zero one
    simp only [UInt8.reduceToNat] at zero one ⊢
    omega

theorem DeviceClass.ofByte?_eq_none_iff {x : UInt8} : ofByte? x = none ↔ 2 < x := by
  unfold ofByte?
  split
  · decide
  · decide
  · decide
  · rename_i zero one two
    simp only [true_iff, UInt8.lt_iff_toNat_lt]
    simp only [← UInt8.toNat_inj, imp_false] at zero one two
    simp only [UInt8.reduceToNat] at zero one two ⊢
    omega

namespace Request

structure IsWhole (b : Bytes) (t : Tag) : Prop where
  first : b.head? = some t.toByte
  room : t.leastSize ≤ b.length

/-- The endpoint of a gateway that is sent: its family, its port and as much of the address as the family
has, and neither flow label nor scope. -/
def CarriesEndpoint (b : Bytes) : Option Endpoint → Prop
  | none => byte b 21 = 0
  | some (.v4 ip port) => byte b 21 = 4 ∧ port.toNat = number b 22 2 ∧ ip.bytes = slice b 24 4
  | some (.v6 ip port flow scope) =>
    byte b 21 = 6 ∧ port.toNat = number b 22 2 ∧ ip.bytes = slice b 24 16 ∧ flow = 0 ∧ scope = 0

/-- The fields of a request stand in the bytes, each at its place, numbers with the highest byte first. -/
structure Carries (b : Bytes) (q : Request) : Prop where
  code : q.header.code.toUInt32.toNat = number b 1 4
  accessCode : q.header.accessCode.toNat = number b 5 8
  proper : q.IsProper
  eui : ∀ e, q.body = .eui e → e.value.toNat = number b 13 8
  addr : ∀ a, q.body = .addr a → a.value.toNat = number b 13 4
  assigned : ∀ i, q.header.tag = .assign → q.body = .identity i →
    Identity.Spelled (b.drop 13) i ∧ i.wire = i
  removed : ∀ i, q.header.tag = .remove → q.body = .identity i →
    i.addr.value.toNat = number b 13 4 ∧ i = Identity.ofAddr i.addr
  operation : ∀ offset size, q.body = .operation offset size →
    offset.toNat = number b 13 4 ∧ size = byte b 17
  gateway : ∀ g, q.body = .gateway g → g.id.value.toNat = number b 13 8 ∧ CarriesEndpoint b g.endpoint

/-- What may be told about bytes. -/
inductive Verdict (b : Bytes) : Except Error Request → Prop where
  | empty (nothing : b = []) : Verdict b (.error .emptyPacket)
  | unknown {x : UInt8} (first : b.head? = some x) (foreign : x ∉ requestLetters) :
      Verdict b (.error (.unknownTag x))
  | truncated {t : Tag} (first : b.head? = some t.toByte) (short : b.length < t.leastSize) :
      Verdict b (.error (.truncated t t.leastSize b.length))
  | activation (whole : IsWhole b .assign) (bad : 1 < byte b 17) :
      Verdict b (.error (.field .activationByte))
  | deviceClass (whole : IsWhole b .assign) (good : byte b 17 ≤ 1) (bad : 2 < byte b 18) :
      Verdict b (.error (.field .classByte))
  | family {t : Tag} (gateway : t.layout = .gateway) (whole : IsWhole b t)
      (bad : byte b 21 ∉ [0, 4, 6]) : Verdict b (.error (.field .familyByte))
  | accepted {q : Request} (whole : IsWhole b q.header.tag)
      (record : q.header.tag = .assign → byte b 17 ≤ 1 ∧ byte b 18 ≤ 2)
      (family : q.header.tag.layout = .gateway → byte b 21 ∈ [0, 4, 6]) (carries : Carries b q) :
      Verdict b (.ok q)

theorem decode_of_whole {b : Bytes} {t : Tag} (whole : IsWhole b t) :
    decode b = (decodeBody t (b.drop Header.size)).map fun body => ⟨Header.ofBytes t b, body⟩ := by
  apply decode_of_room (Tag.decode_of_head whole.first)
  rw [Tag.minRequestSize_eq]
  exact whole.room

theorem whole_of_decode {b : Bytes} {q : Request} (h : decode b = .ok q) :
    IsWhole b q.header.tag := by
  obtain ⟨tag, body, known, room, -, rfl⟩ := decode_eq_ok h
  refine ⟨Tag.head_of_decode known, ?_⟩
  rw [← Tag.minRequestSize_eq]
  exact room

theorem header_of_carries {b : Bytes} {q : Request} (carries : Carries b q) :
    q.header = Header.ofBytes q.header.tag b := by
  rw [Header.ofBytes, ← carries.code, ← carries.accessCode, UInt32.ofNat_toNat, UInt64.ofNat_toNat,
    Int32.toInt32_toUInt32]

theorem read_identity {b : Bytes} (whole : IsWhole b .assign) :
    Identity.read (b.drop Header.size) =
      (Identity.decode (b.drop Header.size)).mapError Error.field := by
  have room : 108 ≤ b.length := whole.room
  have long : Identity.size ≤ (b.drop Header.size).length := by
    rw [List.length_drop, Header.size, Identity.size]
    omega
  rw [Identity.read, readRecord_of_room long]

theorem read_gateway {b : Bytes} (room : 40 ≤ b.length) :
    Gateway.read (b.drop Header.size) =
      (Gateway.decode (b.drop Header.size)).mapError Error.field := by
  have long : Gateway.size ≤ (b.drop Header.size).length := by
    rw [List.length_drop, Header.size, Gateway.size]
    omega
  rw [Gateway.read, readRecord_of_room long]

theorem decodeEndpoint_at (b : Bytes) :
    Gateway.decodeEndpoint (b.drop 21) =
      match byte b 21 with
      | 0 => .ok none
      | 4 => .ok (some (.v4 (Octets.ofBytes 4 (slice b 24 4)) (UInt16.ofNat (number b 22 2))))
      | 6 => .ok (some (.v6 (Octets.ofBytes 16 (slice b 24 16)) (UInt16.ofNat (number b 22 2)) 0 0))
      | _ => .error .familyByte := by
  have family : byte b 21 = byte (b.drop 21) 0 := (byte_drop b 21 0).symm
  have port : number b 22 2 = number (b.drop 21) 1 2 := (number_drop b 21 1 2).symm
  have short : slice b 24 4 = slice (b.drop 21) 3 4 := (slice_drop b 21 3 4).symm
  have long : slice b 24 16 = slice (b.drop 21) 3 16 := (slice_drop b 21 3 16).symm
  rw [family, port, short, long]
  rfl

theorem carriesEndpoint_of_decode {b : Bytes} {e : Option Endpoint} (room : 40 ≤ b.length)
    (h : Gateway.decodeEndpoint (b.drop 21) = .ok e) : CarriesEndpoint b e := by
  have port : (UInt16.ofNat (number b 22 2)).toNat = number b 22 2 :=
    UInt16.toNat_ofNat_of_lt' (number_lt b 22 2)
  rw [decodeEndpoint_at] at h
  split at h
  · rename_i family
    rw [← Except.ok.inj h]
    exact family
  · rename_i family
    rw [← Except.ok.inj h]
    exact ⟨family, port, Octets.bytes_ofBytes (length_slice (by omega))⟩
  · rename_i family
    rw [← Except.ok.inj h]
    exact ⟨family, port, Octets.bytes_ofBytes (length_slice (by omega)), rfl, rfl⟩
  · contradiction

theorem decodeEndpoint_of_carries {b : Bytes} {e : Option Endpoint} (h : CarriesEndpoint b e) :
    Gateway.decodeEndpoint (b.drop 21) = .ok e := by
  rw [decodeEndpoint_at]
  rcases e with _ | ⟨ip, port⟩ | ⟨ip, port, flow, scope⟩
  · have family : byte b 21 = 0 := h
    simp only [family]
  · obtain ⟨family, place, address⟩ := h
    simp only [family, ← place, ← address, Octets.ofBytes_bytes, UInt16.ofNat_toNat]
  · obtain ⟨family, place, address, rfl, rfl⟩ := h
    simp only [family, ← place, ← address, Octets.ofBytes_bytes, UInt16.ofNat_toNat]

theorem family_of_carries {b : Bytes} {e : Option Endpoint} (h : CarriesEndpoint b e) :
    byte b 21 ∈ [0, 4, 6] := by
  rcases e with _ | ⟨ip, port⟩ | ⟨ip, port, flow, scope⟩
  · have family : byte b 21 = 0 := h
    simp [family]
  · simp [h.1]
  · simp [h.1]

theorem decodeEndpoint_error_iff {b : Bytes} {cause : FieldError} :
    Gateway.decodeEndpoint (b.drop 21) = .error cause ↔
      cause = .familyByte ∧ byte b 21 ∉ [0, 4, 6] := by
  rw [decodeEndpoint_at]
  split <;> simp_all [eq_comm]

theorem decodeGateway_at {b : Bytes} (room : 40 ≤ b.length) :
    Gateway.read (b.drop Header.size) =
      ((Gateway.decodeEndpoint (b.drop 21)).map fun e =>
        Gateway.mk ⟨UInt64.ofNat (number b 13 8)⟩ e).mapError Error.field := by
  rw [read_gateway room, Gateway.decode, Header.size, List.drop_drop, number_drop]

theorem room_of_gateway {b : Bytes} {t : Tag} (whole : IsWhole b t) (layout : t.layout = .gateway) :
    40 ≤ b.length := by
  have room := whole.room
  cases t <;> first | contradiction | exact room

theorem decodeBody_gateway {t : Tag} (layout : t.layout = .gateway) (b : Bytes) :
    decodeBody t b = (Gateway.read b).map .gateway := by
  cases t <;> first | contradiction | rfl

theorem decodeBody_of_carries {b : Bytes} {q : Request} (whole : IsWhole b q.header.tag)
    (carries : Carries b q) : decodeBody q.header.tag (b.drop Header.size) = .ok q.body := by
  obtain ⟨⟨tag, code, access⟩, body⟩ := q
  have proper : body.layout = tag.layout := carries.proper
  cases body with
  | eui e =>
    cases tag <;> first | contradiction | skip
    simp only [decodeBody, Header.size, number_drop, Nat.add_zero, ← carries.eui e rfl,
      UInt64.ofNat_toNat]
  | addr a =>
    cases tag <;> first | contradiction | skip
    simp only [decodeBody, Header.size, number_drop, Nat.add_zero, ← carries.addr a rfl,
      UInt32.ofNat_toNat]
  | identity i =>
    cases tag <;> first | contradiction | skip
    · obtain ⟨spelled, wire⟩ := carries.assigned i rfl rfl
      rw [decodeBody, read_identity whole, Header.size, Identity.decode_of_spelled spelled, wire]
      rfl
    · obtain ⟨addr, alone⟩ := carries.removed i rfl rfl
      rw [alone]
      simp only [decodeBody, Header.size, number_drop, Nat.add_zero, ← addr, UInt32.ofNat_toNat]
  | operation offset size =>
    obtain ⟨first, rfl⟩ := carries.operation offset size rfl
    have body : RequestBody.operation (UInt32.ofNat (number b 13 4)) (byte b 17) =
        .operation offset (byte b 17) := by rw [← first, UInt32.ofNat_toNat]
    cases tag <;> first
      | contradiction
      | simp only [decodeBody, Header.size, number_drop, byte_drop, Nat.add_zero, Nat.reduceAdd, body]
  | gateway g =>
    obtain ⟨id, endpoint⟩ := carries.gateway g rfl
    have layout : tag.layout = .gateway := proper.symm
    rw [decodeBody_gateway layout, decodeGateway_at (room_of_gateway whole layout),
      decodeEndpoint_of_carries endpoint, ← id, UInt64.ofNat_toNat]
    rfl

theorem spelled_of_decodeBody {b : Bytes} {i : Identity} (whole : IsWhole b .assign)
    (record : decodeBody .assign (b.drop Header.size) = .ok (.identity i)) :
    Identity.Spelled (b.drop 13) i ∧ i.wire = i := by
  rw [decodeBody, read_identity whole] at record
  obtain ⟨j, read, same⟩ := ok_of_map record
  obtain rfl := RequestBody.identity.inj same
  have room : 108 ≤ b.length := whole.room
  have long : Identity.size ≤ (b.drop 13).length := by
    rw [List.length_drop, Identity.size]
    omega
  have told := ok_of_mapError read
  exact ⟨Identity.spelled_of_decode long told, Identity.wire_of_decode long told⟩

theorem carries_of_decode {b : Bytes} {q : Request} (h : decode b = .ok q) : Carries b q := by
  have read := readFrom_of_decode h
  have whole := whole_of_decode h
  have code : q.header.code.toUInt32.toNat = number b 1 4 := by
    rw [read.header, Header.ofBytes, UInt32.toUInt32_toInt32]
    exact UInt32.toNat_ofNat_of_lt' (number_lt b 1 4)
  have access : q.header.accessCode.toNat = number b 5 8 := by
    rw [read.header, Header.ofBytes]
    exact UInt64.toNat_ofNat_of_lt' (number_lt b 5 8)
  have proper : q.IsProper := isProper_of_decode h
  obtain ⟨⟨tag, code', access'⟩, body⟩ := q
  have layout : body.layout = tag.layout := proper
  refine ⟨code, access, proper, ?_, ?_, ?_, ?_, ?_, ?_⟩
  · rintro e rfl
    cases tag <;> first | contradiction | skip
    rw [RequestBody.eui.inj (read.eui rfl)]
    exact UInt64.toNat_ofNat_of_lt' (number_lt b 13 8)
  · rintro a rfl
    cases tag <;> first | contradiction | skip
    rw [RequestBody.addr.inj (read.addr rfl)]
    exact UInt32.toNat_ofNat_of_lt' (number_lt b 13 4)
  · rintro i rfl rfl
    exact spelled_of_decodeBody whole read.body
  · rintro i rfl rfl
    refine ⟨read.removed rfl, ?_⟩
    have record := read.body
    rw [decodeBody] at record
    rw [← RequestBody.identity.inj (Except.ok.inj record)]
    rfl
  · rintro offset size rfl
    have same := read.operation layout.symm
    obtain ⟨rfl, rfl⟩ := RequestBody.operation.inj same
    exact ⟨UInt32.toNat_ofNat_of_lt' (number_lt b 13 4), rfl⟩
  · rintro g rfl
    have room := room_of_gateway whole layout.symm
    have record := read.body
    rw [decodeBody_gateway layout.symm, decodeGateway_at room] at record
    obtain ⟨g', read', same⟩ := ok_of_map record
    obtain rfl := RequestBody.gateway.inj same
    obtain ⟨e, endpoint, rfl⟩ := ok_of_map (ok_of_mapError read')
    exact ⟨UInt64.toNat_ofNat_of_lt' (number_lt b 13 8), carriesEndpoint_of_decode room endpoint⟩

theorem decode_assign {b : Bytes} (whole : IsWhole b .assign) :
    decode b = ((Identity.decode (b.drop 13)).mapError Error.field).map fun i =>
      ⟨Header.ofBytes .assign b, .identity i⟩ := by
  rw [decode_of_whole whole, decodeBody, read_identity whole, Header.size]
  cases Identity.decode (b.drop 13) <;> rfl

theorem identityDecode_at (b : Bytes) :
    Identity.decode (b.drop 13) =
      match Activation.ofByte? (byte b 17), DeviceClass.ofByte? (byte b 18) with
      | none, _ => .error .activationByte
      | some _, none => .error .classByte
      | some activation, some deviceClass =>
        .ok (Identity.ofBytes (b.drop 13) activation deviceClass) := by
  have activation : byte b 17 = byte (b.drop 13) 4 := (byte_drop b 13 4).symm
  have deviceClass : byte b 18 = byte (b.drop 13) 5 := (byte_drop b 13 5).symm
  rw [activation, deviceClass]
  rfl

theorem decode_gateway {b : Bytes} {t : Tag} (layout : t.layout = .gateway) (whole : IsWhole b t) :
    decode b = ((Gateway.decodeEndpoint (b.drop 21)).mapError Error.field).map fun e =>
      ⟨Header.ofBytes t b, .gateway ⟨⟨UInt64.ofNat (number b 13 8)⟩, e⟩⟩ := by
  rw [decode_of_whole whole, decodeBody_gateway layout,
    decodeGateway_at (room_of_gateway whole layout)]
  cases Gateway.decodeEndpoint (b.drop 21) <;> rfl

theorem decode_of_verdict {b : Bytes} {r : Except Error Request} (verdict : Verdict b r) :
    decode b = r := by
  cases verdict with
  | empty nothing =>
    rw [nothing]
    rfl
  | @unknown x first foreign =>
    exact decode_of_foreign (Tag.decode_error_iff.mpr (Or.inr ⟨x, first, foreign, rfl⟩))
  | truncated first short =>
    rw [← Tag.minRequestSize_eq] at short ⊢
    exact decode_of_short (Tag.decode_of_head first) short
  | activation whole bad =>
    rw [decode_assign whole, identityDecode_at, Activation.ofByte?_eq_none_iff.mpr bad]
    rfl
  | deviceClass whole good bad =>
    rw [decode_assign whole, identityDecode_at, DeviceClass.ofByte?_eq_none_iff.mpr bad]
    cases known : Activation.ofByte? (byte b 17) with
    | none =>
      have beyond := Activation.ofByte?_eq_none_iff.mp known
      exact absurd good (UInt8.not_le.mpr beyond)
    | some activation => rfl
  | family gateway whole bad =>
    rw [decode_gateway gateway whole, decodeEndpoint_error_iff.mpr ⟨rfl, bad⟩]
    rfl
  | @accepted q whole record family carries =>
    rw [decode_of_whole whole, decodeBody_of_carries whole carries]
    have header := header_of_carries carries
    exact congrArg (fun h => Except.ok (Request.mk h q.body)) header.symm

theorem accepted_of_decode {b : Bytes} {q : Request} (h : decode b = .ok q) : Verdict b (.ok q) := by
  have carries := carries_of_decode h
  refine .accepted (whole_of_decode h) ?_ ?_ carries
  · intro tag
    obtain ⟨i, body⟩ := (readFrom_of_decode h).identity (by rw [tag]; rfl)
    obtain ⟨spelled, -⟩ := carries.assigned i tag body
    have activation := spelled.activation
    have deviceClass := spelled.deviceClass
    rw [byte_drop] at activation deviceClass
    rw [activation, deviceClass]
    constructor
    · cases i.device.activation <;> decide
    · cases i.device.deviceClass <;> decide
  · intro layout
    have proper := carries.proper
    rw [IsProper, layout] at proper
    cases body : q.body <;> rw [body] at proper <;> first | contradiction | skip
    exact family_of_carries (carries.gateway _ body).2

theorem verdict_of_foreign {b : Bytes} {cause : Error} (foreign : Tag.decode b = .error cause) :
    Verdict b (.error cause) := by
  rcases Tag.decode_error_iff.mp foreign with ⟨nothing, rfl⟩ | ⟨x, first, unknown, rfl⟩
  · exact .empty nothing
  · exact .unknown first unknown

theorem verdict_of_assign {b : Bytes} (whole : IsWhole b .assign) : Verdict b (decode b) := by
  by_cases bad : 1 < byte b 17
  · have verdict := Verdict.activation whole bad
    rwa [decode_of_verdict verdict]
  · have good : byte b 17 ≤ 1 := UInt8.not_lt.mp bad
    by_cases worse : 2 < byte b 18
    · have verdict := Verdict.deviceClass whole good worse
      rwa [decode_of_verdict verdict]
    · cases known : Activation.ofByte? (byte b 17) with
      | none => exact absurd (Activation.ofByte?_eq_none_iff.mp known) bad
      | some activation =>
        cases known' : DeviceClass.ofByte? (byte b 18) with
        | none => exact absurd (DeviceClass.ofByte?_eq_none_iff.mp known') worse
        | some deviceClass =>
          have told : decode b = .ok ⟨Header.ofBytes .assign b,
              .identity (Identity.ofBytes (b.drop 13) activation deviceClass)⟩ := by
            rw [decode_assign whole, identityDecode_at, known, known']
            rfl
          rw [told]
          exact accepted_of_decode told

theorem verdict_of_gateway {b : Bytes} {t : Tag} (layout : t.layout = .gateway)
    (whole : IsWhole b t) : Verdict b (decode b) := by
  cases endpoint : Gateway.decodeEndpoint (b.drop 21) with
  | error cause =>
    have bad := (decodeEndpoint_error_iff.mp endpoint).2
    have verdict := Verdict.family layout whole bad
    rwa [decode_of_verdict verdict]
  | ok e =>
    have told := decode_gateway layout whole
    rw [endpoint] at told
    rw [told]
    exact accepted_of_decode told

theorem verdict_of_plain {b : Bytes} {t : Tag} (whole : IsWhole b t) (record : t ≠ .assign)
    (gateway : t.layout ≠ .gateway) : Verdict b (decode b) := by
  have body : ∃ body, decodeBody t (b.drop Header.size) = .ok body := by
    cases t <;> first | contradiction | exact ⟨_, rfl⟩
  obtain ⟨body, read⟩ := body
  have told := decode_of_whole whole
  rw [read] at told
  rw [told]
  exact accepted_of_decode told

theorem verdict_decode (b : Bytes) : Verdict b (decode b) := by
  cases known : Tag.decode b with
  | error cause =>
    rw [decode_of_foreign known]
    exact verdict_of_foreign known
  | ok t =>
    have first := Tag.head_of_decode known
    by_cases short : b.length < t.leastSize
    · have verdict := Verdict.truncated first short
      rwa [decode_of_verdict verdict]
    · have whole : IsWhole b t := ⟨first, Nat.not_lt.mp short⟩
      by_cases gateway : t.layout = .gateway
      · exact verdict_of_gateway gateway whole
      · by_cases record : t = .assign
        · rw [record] at whole
          exact verdict_of_assign whole
        · exact verdict_of_plain whole record gateway

theorem header_congr {b c : Bytes} {n : Nat} (same : b.take n = c.take n) (room : 13 ≤ n) (t : Tag) :
    Header.ofBytes t b = Header.ofBytes t c := by
  have code : number b 1 4 = number c 1 4 := number_congr same (by omega)
  have access : number b 5 8 = number c 5 8 := number_congr same (by omega)
  rw [Header.ofBytes, code, access, Header.ofBytes]

theorem decodeIdentity_congr {b c : Bytes} (same : b.take 108 = c.take 108) :
    Identity.decode (b.drop 13) = Identity.decode (c.drop 13) := by
  simp (disch := decide) only [Identity.decode, Identity.ofBytes, number_drop, slice_drop, byte_drop,
    Nat.reduceAdd, number_congr same, slice_congr same, byte_congr same]

theorem decodeGateway_congr {b c : Bytes} (same : b.take 40 = c.take 40) :
    Gateway.decode (b.drop 13) = Gateway.decode (c.drop 13) := by
  simp (disch := decide) only [Gateway.decode, Gateway.decodeEndpoint, List.drop_drop, number_drop,
    slice_drop, byte_drop, Nat.reduceAdd, number_congr same, slice_congr same, byte_congr same]

theorem decodeBody_congr {b c : Bytes} {t : Tag} (first : IsWhole b t) (second : IsWhole c t)
    (same : b.take t.leastSize = c.take t.leastSize) :
    decodeBody t (b.drop Header.size) = decodeBody t (c.drop Header.size) := by
  by_cases gateway : t.layout = .gateway
  · have forty : t.leastSize = 40 := by
      cases t <;> first | contradiction | rfl
    rw [forty] at same
    rw [decodeBody_gateway gateway, decodeBody_gateway gateway,
      read_gateway (room_of_gateway first gateway), read_gateway (room_of_gateway second gateway),
      Header.size, decodeGateway_congr same]
  · by_cases record : t = .assign
    · subst record
      rw [decodeBody, decodeBody, read_identity first, read_identity second, Header.size,
        decodeIdentity_congr same]
    · cases t <;> first
        | contradiction
        | simp (disch := decide) only [decodeBody, Header.size, number_drop, byte_drop, Nat.add_zero,
            Nat.reduceAdd, number_congr same, byte_congr same]

/-- The requests that are read are those of the grammar. Of all bytes exactly that is told which a rule
allows; no read, once the size has been looked at, goes past the end or past the least size of the tag;
and bytes behind that size change nothing. -/
theorem decode_follows_grammar (b : Bytes) :
    (∀ r, decode b = r ↔ Verdict b r) ∧
      (∃ next, next ≤ b.length ∧ (∀ t, IsWhole b t → next ≤ t.leastSize) ∧
        scan.run b 0 = some (decode b, next)) ∧
      ∀ t c, IsWhole b t → IsWhole c t → b.take t.leastSize = c.take t.leastSize →
        decode b = decode c := by
  refine ⟨?_, ?_, ?_⟩
  · intro r
    constructor
    · rintro rfl
      exact verdict_decode b
    · exact decode_of_verdict
  · obtain ⟨next, within, least, told⟩ := run_scan b
    refine ⟨next, within, ?_, told⟩
    intro t whole
    rw [← Tag.minRequestSize_eq]
    exact least t (Tag.decode_of_head whole.first)
  · intro t c first second same
    have thirteen : 13 ≤ t.leastSize := by
      rw [← Tag.minRequestSize_eq]
      exact t.header_le_minRequestSize
    rw [decode_of_whole first, decode_of_whole second, header_congr same thirteen,
      decodeBody_congr first second same]

end Request
end IdentityDirectory
