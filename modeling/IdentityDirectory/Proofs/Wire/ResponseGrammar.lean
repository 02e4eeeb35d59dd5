import IdentityDirectory.Proofs.Wire.RecordLists
import IdentityDirectory.Proofs.Wire.ResponseCursor
/-!
The grammar of responses: what is told about bytes, one rule for each error and one for each kind of body,
with letters, sizes and places written out. The decoder tells exactly what the rules allow. It never takes a
piece of a list for the list, and bytes behind a list do not disturb it.
-/
namespace IdentityDirectory
open Bytes

namespace Response

structure Opens (b : Bytes) (h : Header) : Prop where
  first : b.head? = some h.tag.toByte
  code : h.code.toUInt32.toNat = number b 1 4
  accessCode : h.accessCode.toNat = number b 5 8
  room : 22 ≤ b.length

inductive Kind where
  | identity
  | gateway
  | operation
  | identityList
  | gatewayList

/-- What tag, code and length together say about the body. A record without room and a list that is nothing
but the code that denies are operations. -/
def kindOf (h : Header) (length : Nat) : Kind :=
  match h.tag with
  | .addrLookup | .euiLookup => if 108 ≤ length then .identity else .operation
  | .gatewayAddrLookup | .gatewayIdLookup => if 40 ≤ length then .gateway else .operation
  | .list => if length = 22 ∧ h.code = -5 then .operation else .identityList
  | .gatewayList => if length = 22 ∧ h.code = -5 then .operation else .gatewayList
  | _ => .operation

/-- What may be told about bytes. -/
inductive Verdict (b : Bytes) : Except Error Response → Prop where
  | empty (nothing : b = []) : Verdict b (.error .emptyPacket)
  | unknown {x : UInt8} (first : b.head? = some x) (foreign : x ∉ requestLetters) :
      Verdict b (.error (.unknownTag x))
  | truncated {t : Tag} (first : b.head? = some t.toByte) (short : b.length < 22) :
      Verdict b (.error (.truncated t 22 b.length))
  | activation {h : Header} (opens : Opens b h) (kind : kindOf h b.length = .identity)
      (bad : 1 < byte b 17) : Verdict b (.error (.field .activationByte))
  | deviceClass {h : Header} (opens : Opens b h) (kind : kindOf h b.length = .identity)
      (good : byte b 17 ≤ 1) (bad : 2 < byte b 18) : Verdict b (.error (.field .classByte))
  | identity {h : Header} {i : Identity} (opens : Opens b h) (kind : kindOf h b.length = .identity)
      (fit : byte b 17 ≤ 1 ∧ byte b 18 ≤ 2) (record : Identity.LiesIn (b.drop 13) i) :
      Verdict b (.ok ⟨h, .identity i⟩)
  | family {h : Header} (opens : Opens b h) (kind : kindOf h b.length = .gateway)
      (bad : byte b 21 ∉ [0, 4, 6]) : Verdict b (.error (.field .familyByte))
  | gateway {h : Header} {g : Gateway} (opens : Opens b h) (kind : kindOf h b.length = .gateway)
      (fit : byte b 21 ∈ [0, 4, 6]) (record : Gateway.LiesIn (b.drop 13) g) :
      Verdict b (.ok ⟨h, .gateway g⟩)
  | brokenIdentities {h : Header} (opens : Opens b h) (kind : kindOf h b.length = .identityList)
      (broken : ¬ IsComplete b 95 Identity.IsFit) :
      Verdict b (.error (.truncated h.tag (22 + number b 18 4 * 95) b.length))
  | identityList {h : Header} {offset : UInt32} {items : List Identity} (opens : Opens b h)
      (kind : kindOf h b.length = .identityList) (complete : IsComplete b 95 Identity.IsFit)
      (start : offset.toNat = number b 13 4) (records : ListLies b 95 Identity.LiesIn items) :
      Verdict b (.ok ⟨h, .identityList offset items⟩)
  | brokenGateways {h : Header} (opens : Opens b h) (kind : kindOf h b.length = .gatewayList)
      (broken : ¬ IsComplete b 27 Gateway.IsFit) :
      Verdict b (.error (.truncated h.tag (22 + number b 18 4 * 27) b.length))
  | gatewayList {h : Header} {offset : UInt32} {items : List Gateway} (opens : Opens b h)
      (kind : kindOf h b.length = .gatewayList) (complete : IsComplete b 27 Gateway.IsFit)
      (start : offset.toNat = number b 13 4) (records : ListLies b 27 Gateway.LiesIn items) :
      Verdict b (.ok ⟨h, .gatewayList offset items⟩)
  | operation {h : Header} {offset : UInt32} {result : Int32} (opens : Opens b h)
      (kind : kindOf h b.length = .operation) (start : offset.toNat = number b 13 4)
      (outcome : result.toUInt32.toNat = number b 18 4) :
      Verdict b (.ok ⟨h, .operation offset (byte b 17) result⟩)

theorem header_of_opens {b : Bytes} {h : Header} (opens : Opens b h) : Header.ofBytes h.tag b = h := by
  rw [Header.ofBytes, ← opens.code, ← opens.accessCode, UInt32.ofNat_toNat, UInt64.ofNat_toNat,
    Int32.toInt32_toUInt32]

theorem decode_of_opens {b : Bytes} {h : Header} (opens : Opens b h) :
    decode b = (decodeBody h b).map fun body => ⟨h, body⟩ := by
  rw [decode_of_room (Tag.decode_of_head opens.first) opens.room, header_of_opens opens]

theorem opens_of_room {b : Bytes} {t : Tag} (first : b.head? = some t.toByte) (room : 22 ≤ b.length) :
    Opens b (Header.ofBytes t b) where
  first := first
  code := by
    rw [Header.ofBytes, UInt32.toUInt32_toInt32]
    exact UInt32.toNat_ofNat_of_lt' (number_lt b 1 4)
  accessCode := UInt64.toNat_ofNat_of_lt' (number_lt b 5 8)
  room := room

def readAs (b : Bytes) (t : Tag) : Kind → Except Error ResponseBody
  | .identity => (Identity.read (b.drop 13)).map .identity
  | .gateway => (Gateway.read (b.drop 13)).map .gateway
  | .operation => .ok (decodeOperation b)
  | .identityList =>
    (decodeItems t 95 Identity.read b).map (.identityList (UInt32.ofNat (number b 13 4)))
  | .gatewayList =>
    (decodeItems t 27 Gateway.read b).map (.gatewayList (UInt32.ofNat (number b 13 4)))

theorem decodeBody_eq (h : Header) (b : Bytes) :
    decodeBody h b = readAs b h.tag (kindOf h b.length) := by
  cases tag : h.tag
  case addrLookup | euiLookup =>
    simp only [decodeBody, kindOf, tag]
    by_cases room : 108 ≤ b.length
    · have enough : ¬ b.length < Header.size + Identity.size := Nat.not_lt.mpr room
      rw [if_pos room, if_neg enough, readAs, Header.size]
    · have short : b.length < Header.size + Identity.size := Nat.not_le.mp room
      rw [if_neg room, if_pos short, readAs]
  case gatewayAddrLookup | gatewayIdLookup =>
    simp only [decodeBody, kindOf, tag]
    by_cases room : 40 ≤ b.length
    · have enough : ¬ b.length < Header.size + Gateway.size := Nat.not_lt.mpr room
      rw [if_pos room, if_neg enough, readAs, Header.size]
    · have short : b.length < Header.size + Gateway.size := Nat.not_le.mp room
      rw [if_neg room, if_pos short, readAs]
  case list | gatewayList =>
    simp only [decodeBody, kindOf, tag]
    by_cases denied : b.length = 22 ∧ h.code = -5
    · have turned : h.code = ResultCode.accessDenied.toInt32 ∧ b.length = operationSize := denied.symm
      rw [if_pos denied, if_pos turned, readAs]
    · have granted : ¬ (h.code = ResultCode.accessDenied.toInt32 ∧ b.length = operationSize) :=
        fun turned => denied turned.symm
      rw [if_neg denied, if_neg granted]
      rfl
  all_goals simp only [decodeBody, kindOf, tag, readAs]

theorem decode_of_kind {b : Bytes} {h : Header} {kind : Kind} (opens : Opens b h)
    (same : kindOf h b.length = kind) :
    decode b = (readAs b h.tag kind).map fun body => ⟨h, body⟩ := by
  rw [decode_of_opens opens, decodeBody_eq, same]

theorem room_of_kind (h : Header) (length : Nat) :
    (kindOf h length = .identity → 108 ≤ length) ∧ (kindOf h length = .gateway → 40 ≤ length) := by
  cases tag : h.tag <;> simp only [kindOf, tag]
  case addrLookup | euiLookup => by_cases room : 108 ≤ length <;> simp [room]
  case gatewayAddrLookup | gatewayIdLookup => by_cases room : 40 ≤ length <;> simp [room]
  case list | gatewayList => by_cases denied : length = 22 ∧ h.code = -5 <;> simp [denied]
  all_goals simp

theorem identity_room {b : Bytes} {h : Header} (kind : kindOf h b.length = .identity) :
    Identity.size ≤ (b.drop 13).length := by
  have room := (room_of_kind h b.length).1 kind
  rw [List.length_drop, Identity.size]
  omega

theorem gateway_room {b : Bytes} {h : Header} (kind : kindOf h b.length = .gateway) :
    Gateway.size ≤ (b.drop 13).length := by
  have room := (room_of_kind h b.length).2 kind
  rw [List.length_drop, Gateway.size]
  omega

theorem decode_of_verdict {b : Bytes} {out : Except Error Response} (verdict : Verdict b out) :
    decode b = out := by
  cases verdict with
  | empty nothing =>
    rw [nothing]
    rfl
  | @unknown x first foreign =>
    exact decode_of_foreign (Tag.decode_error_iff.mpr (Or.inr ⟨x, first, foreign, rfl⟩))
  | truncated first short => exact decode_of_short (Tag.decode_of_head first) short
  | activation opens kind bad =>
    have bad : 1 < byte (b.drop 13) 4 := by rwa [byte_drop]
    rw [decode_of_kind opens kind, readAs, Identity.read_of_activation (identity_room kind) bad]
    rfl
  | deviceClass opens kind good bad =>
    have good : byte (b.drop 13) 4 ≤ 1 := by rwa [byte_drop]
    have bad : 2 < byte (b.drop 13) 5 := by rwa [byte_drop]
    rw [decode_of_kind opens kind, readAs,
      Identity.read_of_deviceClass (identity_room kind) good bad]
    rfl
  | identity opens kind fit record =>
    have told := (Identity.isRecord.read_eq_ok_iff (identity_room kind)).mpr record
    rw [decode_of_kind opens kind, readAs, told]
    rfl
  | family opens kind bad =>
    have bad : ¬ Gateway.IsFit (b.drop 13) := by rwa [Gateway.IsFit, byte_drop]
    rw [decode_of_kind opens kind, readAs, Gateway.read_of_family (gateway_room kind) bad]
    rfl
  | gateway opens kind fit record =>
    have told := (Gateway.isRecord.read_eq_ok_iff (gateway_room kind)).mpr record
    rw [decode_of_kind opens kind, readAs, told]
    rfl
  | @brokenIdentities h opens kind broken =>
    have told : decodeItems h.tag 95 Identity.read b = _ :=
      decodeItems_of_broken Identity.isRecord h.tag broken
    rw [decode_of_kind opens kind, readAs, told]
    rfl
  | @identityList h offset items opens kind complete start records =>
    have told : decodeItems h.tag 95 Identity.read b = .ok items :=
      (decodeItems_eq_ok_iff Identity.isRecord h.tag).mpr records
    rw [decode_of_kind opens kind, readAs, told, ← start, UInt32.ofNat_toNat]
    rfl
  | @brokenGateways h opens kind broken =>
    have told : decodeItems h.tag 27 Gateway.read b = _ :=
      decodeItems_of_broken Gateway.isRecord h.tag broken
    rw [decode_of_kind opens kind, readAs, told]
    rfl
  | @gatewayList h offset items opens kind complete start records =>
    have told : decodeItems h.tag 27 Gateway.read b = .ok items :=
      (decodeItems_eq_ok_iff Gateway.isRecord h.tag).mpr records
    rw [decode_of_kind opens kind, readAs, told, ← start, UInt32.ofNat_toNat]
    rfl
  | operation opens kind start outcome =>
    rw [decode_of_kind opens kind, readAs, decodeOperation, Header.size, ← start, ← outcome,
      UInt32.ofNat_toNat, UInt32.ofNat_toNat, Int32.toInt32_toUInt32]
    rfl

section
variable {b : Bytes} {h : Header}

theorem exists_verdict_of_identity (opens : Opens b h) (kind : kindOf h b.length = .identity) :
    ∃ out, Verdict b out := by
  have room := identity_room kind
  by_cases bad : 1 < byte b 17
  · exact ⟨_, .activation opens kind bad⟩
  · have good : byte b 17 ≤ 1 := UInt8.not_lt.mp bad
    by_cases worse : 2 < byte b 18
    · exact ⟨_, .deviceClass opens kind good worse⟩
    · have fine : byte b 18 ≤ 2 := UInt8.not_lt.mp worse
      have fit : Identity.IsFit (b.drop 13) := by
        rw [Identity.IsFit, byte_drop, byte_drop]
        exact ⟨good, fine⟩
      obtain ⟨i, told⟩ := Identity.read_of_fit room fit
      exact ⟨_, .identity opens kind ⟨good, fine⟩ ((Identity.isRecord.read_eq_ok_iff room).mp told)⟩

theorem exists_verdict_of_gateway (opens : Opens b h) (kind : kindOf h b.length = .gateway) :
    ∃ out, Verdict b out := by
  have room := gateway_room kind
  by_cases fit : byte b 21 ∈ [0, 4, 6]
  · have behind : Gateway.IsFit (b.drop 13) := by rwa [Gateway.IsFit, byte_drop]
    obtain ⟨g, told⟩ := Gateway.read_of_fit room behind
    exact ⟨_, .gateway opens kind fit ((Gateway.isRecord.read_eq_ok_iff room).mp told)⟩
  · exact ⟨_, .family opens kind fit⟩

theorem exists_verdict_of_kind (opens : Opens b h) {kind : Kind} (same : kindOf h b.length = kind) :
    ∃ out, Verdict b out := by
  have start : (UInt32.ofNat (number b 13 4)).toNat = number b 13 4 :=
    UInt32.toNat_ofNat_of_lt' (number_lt b 13 4)
  cases kind with
  | identity => exact exists_verdict_of_identity opens same
  | gateway => exact exists_verdict_of_gateway opens same
  | operation =>
    have outcome : (UInt32.ofNat (number b 18 4)).toInt32.toUInt32.toNat = number b 18 4 := by
      rw [UInt32.toUInt32_toInt32]
      exact UInt32.toNat_ofNat_of_lt' (number_lt b 18 4)
    exact ⟨_, .operation opens same start outcome⟩
  | identityList =>
    by_cases complete : IsComplete b 95 Identity.IsFit
    · obtain ⟨items, told⟩ := exists_decodeItems Identity.isRecord h.tag complete
      have records := (decodeItems_eq_ok_iff Identity.isRecord h.tag).mp told
      exact ⟨_, .identityList opens same complete start records⟩
    · exact ⟨_, .brokenIdentities opens same complete⟩
  | gatewayList =>
    by_cases complete : IsComplete b 27 Gateway.IsFit
    · obtain ⟨items, told⟩ := exists_decodeItems Gateway.isRecord h.tag complete
      have records := (decodeItems_eq_ok_iff Gateway.isRecord h.tag).mp told
      exact ⟨_, .gatewayList opens same complete start records⟩
    · exact ⟨_, .brokenGateways opens same complete⟩

end

theorem exists_verdict (b : Bytes) : ∃ out, Verdict b out := by
  cases known : Tag.decode b with
  | error cause =>
    rcases Tag.decode_error_iff.mp known with ⟨nothing, rfl⟩ | ⟨x, first, foreign, rfl⟩
    · exact ⟨_, .empty nothing⟩
    · exact ⟨_, .unknown first foreign⟩
  | ok t =>
    have first := Tag.head_of_decode known
    by_cases short : b.length < 22
    · exact ⟨_, .truncated first short⟩
    · exact exists_verdict_of_kind (opens_of_room first (Nat.not_lt.mp short)) rfl

theorem verdict_decode (b : Bytes) : Verdict b (decode b) := by
  obtain ⟨out, verdict⟩ := exists_verdict b
  rwa [decode_of_verdict verdict]

theorem opens_encode (r : Response) (t : Bytes) : Opens (r.encode ++ t) r.header := by
  have room : 22 ≤ (r.encode ++ t).length := by
    rw [List.length_append, length_encode]
    exact Nat.le_trans r.operationSize_le_encodedSize (Nat.le_add_right _ _)
  have opens : Opens (r.encode ++ t) (Header.ofBytes r.header.tag (r.encode ++ t)) :=
    opens_of_room rfl room
  have header : Header.ofBytes r.header.tag (r.encode ++ t) = r.header := by
    rw [encode, List.append_assoc, Header.ofBytes_encode]
  rwa [header] at opens

theorem Opens.take {b : Bytes} {h : Header} {k : Nat} (opens : Opens b h) (enough : 22 ≤ k) :
    Opens (b.take k) h := by
  have same : (b.take k).take 22 = b.take 22 := by rw [List.take_take, Nat.min_eq_left enough]
  have room := opens.room
  constructor
  · rw [List.head?_take, if_neg (by omega)]
    exact opens.first
  · rw [number_congr same (by omega)]
    exact opens.code
  · rw [number_congr same (by omega)]
    exact opens.accessCode
  · rw [List.length_take]
    omega

theorem decode_listing {r : Response} (listing : r.IsListing) (t : Bytes) :
    decode (r.encode ++ t) = .ok r.wire := by
  rw [decode_of_opens (opens_encode r t), decodeBody_listing listing]
  rfl

/-- What is told about the first k bytes of a list that has more of them. -/
def shortfall (r : Response) (k : Nat) : Error :=
  if k = 0 then .emptyPacket
  else .truncated r.header.tag (if k < 22 then 22 else r.encode.length) k

theorem count_take (h : Header) (offset : UInt32) {n k : Nat} (bound : n < 2 ^ 32) (enough : 22 ≤ k)
    (rest : Bytes) :
    number ((h.encode ++ (encodeListHead offset n ++ rest)).take k) 18 4 = n := by
  have same : ((h.encode ++ (encodeListHead offset n ++ rest)).take k).take k =
      (h.encode ++ (encodeListHead offset n ++ rest)).take k := by
    rw [List.take_take, Nat.min_self]
  rw [number_congr same (by omega)]
  exact count_encode h offset bound rest

theorem decode_take_listing {r : Response} (listing : r.IsListing) {k : Nat}
    (short : k < r.encode.length) : decode (r.encode.take k) = .error (r.shortfall k) := by
  have size : (r.encode.take k).length = k := by
    rw [List.length_take, Nat.min_eq_left (Nat.le_of_lt short)]
  have whole := opens_encode r []
  rw [List.append_nil] at whole
  rw [shortfall]
  by_cases nothing : k = 0
  · rw [if_pos nothing, nothing]
    rfl
  rw [if_neg nothing]
  by_cases cut : k < 22
  · have first : (r.encode.take k).head? = some r.header.tag.toByte := by
      rw [List.head?_take, if_neg nothing]
      exact whole.first
    have verdict := Verdict.truncated first (by omega)
    rw [if_pos cut, decode_of_verdict verdict, size]
  · have enough : 22 ≤ k := Nat.not_lt.mp cut
    have opens := whole.take enough
    rw [if_neg cut]
    obtain ⟨h, body⟩ := r
    obtain ⟨code, list⟩ := listing
    have long := length_encode ⟨h, body⟩
    cases body with
    | identity i | gateway g | operation offset count result => contradiction
    | identityList offset items =>
      obtain ⟨tag, bound⟩ := list
      have kind : kindOf h ((encode ⟨h, .identityList offset items⟩).take k).length = .identityList := by
        simp only at tag
        simp only [kindOf, tag, if_neg fun denied : _ ∧ h.code = -5 => code denied.2]
      have count : number ((encode ⟨h, .identityList offset items⟩).take k) 18 4 = items.length :=
        count_take h offset bound enough (items.flatMap Identity.encode)
      have missing : ((encode ⟨h, .identityList offset items⟩).take k).length <
          22 + number ((encode ⟨h, .identityList offset items⟩).take k) 18 4 * 95 := by
        rw [size, count]
        exact Nat.lt_of_lt_of_eq short long
      rw [decode_of_kind opens kind, readAs, decodeItems_of_short h.tag missing, size, count, long]
      rfl
    | gatewayList offset items =>
      obtain ⟨tag, bound⟩ := list
      have kind : kindOf h ((encode ⟨h, .gatewayList offset items⟩).take k).length = .gatewayList := by
        simp only at tag
        simp only [kindOf, tag, if_neg fun denied : _ ∧ h.code = -5 => code denied.2]
      have count : number ((encode ⟨h, .gatewayList offset items⟩).take k) 18 4 = items.length :=
        count_take h offset bound enough (items.flatMap Gateway.encode)
      have missing : ((encode ⟨h, .gatewayList offset items⟩).take k).length <
          22 + number ((encode ⟨h, .gatewayList offset items⟩).take k) 18 4 * 27 := by
        rw [size, count]
        exact Nat.lt_of_lt_of_eq short long
      rw [decode_of_kind opens kind, readAs, decodeItems_of_short h.tag missing, size, count, long]
      rfl

/-- The responses that are read are those of the grammar. Of all bytes exactly that is told which a rule
allows, and no read goes past the end. A list that is granted is read whole when anything follows it and is
an error when anything of it is missing. -/
theorem responses_follow_grammar (b : Bytes) :
    (∀ out, decode b = out ↔ Verdict b out) ∧
      (∃ next, next ≤ b.length ∧ scan.run b 0 = some (decode b, next)) ∧
      ∀ r : Response, r.IsListing →
        decode (r.encode ++ b) = .ok r.wire ∧
          ∀ k, k < r.encode.length → decode (r.encode.take k) = .error (r.shortfall k) := by
  refine ⟨?_, run_scan b, ?_⟩
  · intro out
    constructor
    · rintro rfl
      exact verdict_decode b
    · exact decode_of_verdict
  · intro r listing
    exact ⟨decode_listing listing b, fun k short => decode_take_listing listing short⟩

/-- One byte behind a denial makes an empty list of it. -/
example :
    (decode ([108, 255, 255, 255, 251] ++ List.replicate 17 0)).map Response.body =
        .ok (.operation 0 0 0) ∧
      (decode ([108, 255, 255, 255, 251] ++ List.replicate 18 0)).map Response.body =
        .ok (.identityList 0 []) := by
  constructor <;> rfl

end Response
end IdentityDirectory
