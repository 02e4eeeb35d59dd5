import IdentityDirectory.Message.Decode
import IdentityDirectory.Proofs.Wire.Records
/-!
Responses on the wire. The kind of a body is not written down: it is told from the tag, the length and
the code. The responses for which this works are called clear, and a clear response is read as its wire
form.
-/
namespace IdentityDirectory
open Bytes

namespace Header

@[simp] theorem length_encode (h : Header) : h.encode.length = size := by
  simp [encode, size]

theorem ofBytes_encode (h : Header) (t : Bytes) : ofBytes h.tag (h.encode ++ t) = h := by
  have shape : h.encode ++ t = [h.tag.toByte] ++ bigEndian 4 h.code.toUInt32.toNat ++
      (bigEndian 8 h.accessCode.toNat ++ t) := by simp [encode]
  have code : number (h.encode ++ t) 1 4 = h.code.toUInt32.toNat := by
    rw [shape]
    exact number_of_slice (slice_field rfl (by simp)) h.code.toUInt32.toNat_lt
  have access : number (h.encode ++ t) 5 8 = h.accessCode.toNat := by
    apply number_of_slice _ h.accessCode.toNat_lt
    rw [encode]
    exact slice_field (by simp) (by simp)
  simp [ofBytes, code, access]

theorem number_behind (h : Header) (t : Bytes) (start count : Nat) :
    number (h.encode ++ t) (size + start) count = number t start count := by
  rw [number, slice_append_right (by simp), length_encode, Nat.add_sub_cancel_left, number]

theorem byte_behind (h : Header) (t : Bytes) (i : Nat) :
    byte (h.encode ++ t) (size + i) = byte t i := by
  rw [byte_append_right (by simp), length_encode, Nat.add_sub_cancel_left]

theorem drop_behind (h : Header) (t : Bytes) (k : Nat) :
    (h.encode ++ t).drop (size + k) = t.drop k := by
  rw [List.drop_append, length_encode, Nat.add_sub_cancel_left, List.drop_eq_nil_of_le (by simp),
    List.nil_append]

end Header

theorem Tag.decode_encode (h : Header) (t : Bytes) : Tag.decode (h.encode ++ t) = .ok h.tag := by
  simp only [Header.encode, List.cons_append, Tag.decode, Tag.ofByte?_toByte]

theorem Identity.read_encode (i : Identity) (t : Bytes) :
    Identity.read (i.encode ++ t) = .ok i.wire := by
  have room : Identity.size ≤ (i.encode ++ t).length := by simp
  rw [Identity.read, readRecord_of_room room, Identity.decode_encode]
  rfl

theorem Gateway.read_encode (g : Gateway) (t : Bytes) :
    Gateway.read (g.encode ++ t) = .ok g.wire := by
  have room : Gateway.size ≤ (g.encode ++ t).length := by simp
  rw [Gateway.read, readRecord_of_room room, Gateway.decode_encode]
  rfl

def ResponseBody.wire : ResponseBody → ResponseBody
  | identity i => identity i.wire
  | gateway g => gateway g.wire
  | operation offset size result => operation offset size result
  | identityList offset items => identityList offset (items.map Identity.wire)
  | gatewayList offset items => gatewayList offset (items.map Gateway.wire)

namespace Response

def wire (r : Response) : Response := { r with body := r.body.wire }

/-- The body fits the tag, and a list does not look like a denial nor an operation like a list. -/
def IsClear (r : Response) : Prop :=
  match r.body with
  | .identity _ => r.header.tag = .addrLookup ∨ r.header.tag = .euiLookup
  | .gateway _ => r.header.tag = .gatewayAddrLookup ∨ r.header.tag = .gatewayIdLookup
  | .operation _ _ _ =>
    r.header.tag = .list ∨ r.header.tag = .gatewayList →
      r.header.code = ResultCode.accessDenied.toInt32
  | .identityList _ items =>
    r.header.tag = .list ∧ r.header.code ≠ ResultCode.accessDenied.toInt32 ∧
      items.length < 2 ^ 32
  | .gatewayList _ items =>
    r.header.tag = .gatewayList ∧ r.header.code ≠ ResultCode.accessDenied.toInt32 ∧
      items.length < 2 ^ 32

/-- A list under its own tag and without the code that denies, of no more records than a list head can count. -/
def IsListing (r : Response) : Prop :=
  r.header.code ≠ -5 ∧
    match r.body with
    | .identityList _ items => r.header.tag = .list ∧ items.length < 2 ^ 32
    | .gatewayList _ items => r.header.tag = .gatewayList ∧ items.length < 2 ^ 32
    | _ => False

theorem length_flatMap_of_const {α : Type} {encode : α → Bytes} {width : Nat}
    (h : ∀ x, (encode x).length = width) (xs : List α) :
    (xs.flatMap encode).length = xs.length * width := by
  induction xs with
  | nil => simp
  | cons x xs ih => simp [h, ih, Nat.succ_mul, Nat.add_comm]

theorem length_encode (r : Response) : r.encode.length = r.encodedSize := by
  obtain ⟨h, body⟩ := r
  cases body with
  | identity i => simp [encode, encodeBody, encodedSize]
  | gateway g => simp [encode, encodeBody, encodedSize]
  | operation offset size result => simp [encode, encodeBody, encodedSize, operationSize]
  | identityList offset items =>
    simp [encode, encodeBody, encodedSize, operationSize, encodeListHead,
      length_flatMap_of_const Identity.length_encode]
    omega
  | gatewayList offset items =>
    simp [encode, encodeBody, encodedSize, operationSize, encodeListHead,
      length_flatMap_of_const Gateway.length_encode]
    omega

theorem operationSize_le_encodedSize (r : Response) : operationSize ≤ r.encodedSize := by
  obtain ⟨h, body⟩ := r
  cases body with
  | identity i | gateway g => exact Nat.add_le_add_left (by decide) Header.size
  | operation offset size result => exact Nat.le_refl _
  | identityList offset items | gatewayList offset items => exact Nat.le_add_right _ _

theorem readItems_flatMap {α : Type} {width : Nat} {encode : α → Bytes}
    {read : Bytes → Except Error α} {wire : α → α} (size : ∀ x, (encode x).length = width)
    (reads : ∀ x t, read (encode x ++ t) = .ok (wire x)) (xs : List α) (t : Bytes) :
    readItems width read xs.length (xs.flatMap encode ++ t) = .ok (xs.map wire) := by
  induction xs with
  | nil => rfl
  | cons x xs ih =>
    have rest : (encode x ++ (xs.flatMap encode ++ t)).drop width = xs.flatMap encode ++ t := by
      rw [← size x, List.drop_left]
    simp only [List.flatMap_cons, List.length_cons, List.append_assoc, readItems, reads, rest, ih]
    rfl

theorem head_fields (offset : UInt32) (size : UInt8) {v : Nat} (bound : v < 2 ^ 32) (t : Bytes) :
    number (bigEndian 4 offset.toNat ++ [size] ++ bigEndian 4 v ++ t) 0 4 = offset.toNat ∧
      byte (bigEndian 4 offset.toNat ++ [size] ++ bigEndian 4 v ++ t) 4 = size ∧
      number (bigEndian 4 offset.toNat ++ [size] ++ bigEndian 4 v ++ t) 5 4 = v := by
  refine ⟨number_of_slice ?_ offset.toNat_lt, ?_, number_of_slice ?_ bound⟩
  · rw [List.append_assoc, List.append_assoc, slice_append_left (by simp), slice_whole (by simp)]
  · rw [List.append_assoc, byte_append_left (by simp), byte_append_right (by simp)]
    simp [byte]
  · exact slice_field (by simp) (by simp)

theorem decodeOperation_encode (h : Header) (offset : UInt32) (size : UInt8) (result : Int32)
    (t : Bytes) :
    decodeOperation (h.encode ++ (encodeBody (.operation offset size result) ++ t)) =
      .operation offset size result := by
  obtain ⟨first, second, third⟩ := head_fields offset size result.toUInt32.toNat_lt t
  have front := h.number_behind (encodeBody (.operation offset size result) ++ t) 0 4
  rw [Nat.add_zero] at front
  rw [decodeOperation, front, Header.number_behind, Header.byte_behind]
  simp only [encodeBody, first, second, third]
  simp

theorem offset_encode (h : Header) (offset : UInt32) {count : Nat} (bound : count < 2 ^ 32)
    (t : Bytes) :
    UInt32.ofNat (number (h.encode ++ (encodeListHead offset count ++ t)) Header.size 4) =
      offset := by
  obtain ⟨first, -, -⟩ := head_fields offset (UInt8.ofNat (min count 255)) bound t
  have front := h.number_behind (encodeListHead offset count ++ t) 0 4
  rw [Nat.add_zero] at front
  rw [front, encodeListHead, first, UInt32.ofNat_toNat]

theorem count_encode (h : Header) (offset : UInt32) {count : Nat} (bound : count < 2 ^ 32) (t : Bytes) :
    number (h.encode ++ (encodeListHead offset count ++ t)) (Header.size + 5) 4 = count := by
  obtain ⟨-, -, third⟩ := head_fields offset (UInt8.ofNat (min count 255)) bound t
  rw [Header.number_behind]
  exact third

theorem decodeItems_encode {α : Type} {width : Nat} {encode : α → Bytes}
    {read : Bytes → Except Error α} {wire : α → α} (size : ∀ x, (encode x).length = width)
    (reads : ∀ x t, read (encode x ++ t) = .ok (wire x)) (h : Header) (offset : UInt32)
    {xs : List α} (bound : xs.length < 2 ^ 32) (t : Bytes) :
    decodeItems h.tag width read
        (h.encode ++ (encodeListHead offset xs.length ++ (xs.flatMap encode ++ t))) =
      .ok (xs.map wire) := by
  have count := count_encode h offset bound (xs.flatMap encode ++ t)
  have room : ¬ (h.encode ++ (encodeListHead offset xs.length ++ (xs.flatMap encode ++ t))).length <
      operationSize + xs.length * width := by
    simp [encodeListHead, length_flatMap_of_const size, operationSize]
    omega
  have rest : (h.encode ++ (encodeListHead offset xs.length ++ (xs.flatMap encode ++ t))).drop
      operationSize = xs.flatMap encode ++ t := by
    rw [operationSize, Header.drop_behind]
    exact List.drop_left' (by simp [encodeListHead])
  simp only [decodeItems, count, if_neg room, rest, readItems_flatMap size reads xs t]

theorem decodeBody_listing {h : Header} {body : ResponseBody} (listing : IsListing ⟨h, body⟩)
    (t : Bytes) : decodeBody h (encode ⟨h, body⟩ ++ t) = .ok body.wire := by
  obtain ⟨code, list⟩ := listing
  have granted : ¬ h.code = ResultCode.accessDenied.toInt32 := code
  cases body with
  | identity i | gateway g | operation offset count result => contradiction
  | identityList offset items =>
    obtain ⟨tag, bound⟩ := list
    have read := decodeItems_encode Identity.length_encode Identity.read_encode h offset bound t
    have start := offset_encode h offset bound (items.flatMap Identity.encode ++ t)
    simp only at tag
    rw [tag] at read
    simp only [encode, encodeBody, List.append_assoc, decodeBody, tag, granted, false_and, ↓reduceIte,
      read, start]
    rfl
  | gatewayList offset items =>
    obtain ⟨tag, bound⟩ := list
    have read := decodeItems_encode Gateway.length_encode Gateway.read_encode h offset bound t
    have start := offset_encode h offset bound (items.flatMap Gateway.encode ++ t)
    simp only at tag
    rw [tag] at read
    simp only [encode, encodeBody, List.append_assoc, decodeBody, tag, granted, false_and, ↓reduceIte,
      read, start]
    rfl

/-- Bytes as short as an operation are read as one, unless they are a list that is not denied. -/
theorem decodeBody_short {h : Header} {b : Bytes} (size : b.length = operationSize)
    (denied : h.tag = .list ∨ h.tag = .gatewayList →
      h.code = ResultCode.accessDenied.toInt32) :
    decodeBody h b = .ok (decodeOperation b) := by
  have identity : b.length < Header.size + Identity.size := by rw [size]; decide
  have gateway : b.length < Header.size + Gateway.size := by rw [size]; decide
  cases tag : h.tag <;> simp_all [decodeBody]

theorem decodeBody_encode {h : Header} {body : ResponseBody} (clear : IsClear ⟨h, body⟩) :
    decodeBody h (encode ⟨h, body⟩) = .ok body.wire := by
  have size := length_encode ⟨h, body⟩
  cases body with
  | identity i =>
    have room : ¬ (encode ⟨h, .identity i⟩).length < Header.size + Identity.size := by
      rw [size, encodedSize]
      exact Nat.lt_irrefl _
    have record : Identity.read ((encode ⟨h, .identity i⟩).drop Header.size) = .ok i.wire := by
      have rest := h.drop_behind i.encode 0
      rw [Nat.add_zero, List.drop_zero] at rest
      rw [encode, encodeBody, rest, ← List.append_nil i.encode, Identity.read_encode]
    rcases clear with tag | tag <;> simp only at tag <;>
      simp only [decodeBody, tag, if_neg room, record] <;> rfl
  | gateway g =>
    have room : ¬ (encode ⟨h, .gateway g⟩).length < Header.size + Gateway.size := by
      rw [size, encodedSize]
      exact Nat.lt_irrefl _
    have record : Gateway.read ((encode ⟨h, .gateway g⟩).drop Header.size) = .ok g.wire := by
      have rest := h.drop_behind g.encode 0
      rw [Nat.add_zero, List.drop_zero] at rest
      rw [encode, encodeBody, rest, ← List.append_nil g.encode, Gateway.read_encode]
    rcases clear with tag | tag <;> simp only at tag <;>
      simp only [decodeBody, tag, if_neg room, record] <;> rfl
  | operation offset count result =>
    have body := decodeOperation_encode h offset count result []
    rw [List.append_nil] at body
    rw [decodeBody_short size clear, encode, body]
    rfl
  | identityList offset items | gatewayList offset items =>
    obtain ⟨tag, code, bound⟩ := clear
    have read := decodeBody_listing ⟨code, tag, bound⟩ []
    rwa [List.append_nil] at read

theorem decode_of_foreign {b : Bytes} {cause : Error} (foreign : Tag.decode b = .error cause) :
    decode b = .error cause := by
  rw [decode, foreign]
  rfl

theorem decode_of_short {b : Bytes} {tag : Tag} (known : Tag.decode b = .ok tag)
    (short : b.length < operationSize) :
    decode b = .error (.truncated tag operationSize b.length) := by
  simp only [decode, known, bind, Except.bind, if_pos short]

theorem decode_of_room {b : Bytes} {tag : Tag} (known : Tag.decode b = .ok tag)
    (room : operationSize ≤ b.length) :
    decode b =
      (decodeBody (Header.ofBytes tag b) b).map fun body => ⟨Header.ofBytes tag b, body⟩ := by
  simp only [decode, known, bind, Except.bind, if_neg (Nat.not_lt.mpr room)]
  cases decodeBody (Header.ofBytes tag b) b <;> rfl

theorem decode_encode {r : Response} (clear : r.IsClear) : decode r.encode = .ok r.wire := by
  obtain ⟨h, body⟩ := r
  have tag : Tag.decode (encode ⟨h, body⟩) = .ok h.tag := Tag.decode_encode h _
  have header : Header.ofBytes h.tag (encode ⟨h, body⟩) = h := Header.ofBytes_encode h _
  have room : operationSize ≤ (encode ⟨h, body⟩).length := by
    rw [length_encode]
    exact operationSize_le_encodedSize ⟨h, body⟩
  rw [decode_of_room tag room, header, decodeBody_encode clear]
  rfl

end Response
end IdentityDirectory
