import IdentityDirectory.Proofs.Wire.Grammar
import IdentityDirectory.Proofs.Wire.Responses
/-!
Records one behind the other. For each kind of record it is said what stands in its bytes and which bytes are
refused; a list is read if all records that its head announces are there and none is refused.
-/
namespace IdentityDirectory
open Bytes

/-- A way to read records of one width: bytes that are long enough give the record that lies in them, unless
they are unfit. -/
structure IsRecord {α : Type} (width : Nat) (read : Bytes → Except Error α)
    (LiesIn : Bytes → α → Prop) (IsFit : Bytes → Prop) : Prop where
  read_eq_ok_iff : ∀ {b x}, width ≤ b.length → (read b = .ok x ↔ LiesIn b x)
  exists_read_iff : ∀ {b}, width ≤ b.length → ((∃ x, read b = .ok x) ↔ IsFit b)

namespace Identity

def IsFit (b : Bytes) : Prop := byte b 4 ≤ 1 ∧ byte b 5 ≤ 2

structure LiesIn (b : Bytes) (i : Identity) : Prop where
  spelled : Spelled b i
  wire : i.wire = i

theorem read_of_activation {b : Bytes} (room : size ≤ b.length) (bad : 1 < byte b 4) :
    read b = .error (.field .activationByte) := by
  rw [read, readRecord_of_room room, decode, Activation.ofByte?_eq_none_iff.mpr bad]
  rfl

theorem read_of_deviceClass {b : Bytes} (room : size ≤ b.length) (good : byte b 4 ≤ 1)
    (bad : 2 < byte b 5) : read b = .error (.field .classByte) := by
  rw [read, readRecord_of_room room, decode, DeviceClass.ofByte?_eq_none_iff.mpr bad]
  cases known : Activation.ofByte? (byte b 4) with
  | none => exact absurd good (UInt8.not_le.mpr (Activation.ofByte?_eq_none_iff.mp known))
  | some activation => rfl

theorem read_of_fit {b : Bytes} (room : size ≤ b.length) (fit : IsFit b) : ∃ i, read b = .ok i := by
  obtain ⟨good, fine⟩ := fit
  rw [read, readRecord_of_room room, decode]
  cases known : Activation.ofByte? (byte b 4) with
  | none => exact absurd good (UInt8.not_le.mpr (Activation.ofByte?_eq_none_iff.mp known))
  | some activation =>
    cases known' : DeviceClass.ofByte? (byte b 5) with
    | none => exact absurd fine (UInt8.not_le.mpr (DeviceClass.ofByte?_eq_none_iff.mp known'))
    | some deviceClass => exact ⟨ofBytes b activation deviceClass, rfl⟩

theorem fit_of_read {b : Bytes} {i : Identity} (room : size ≤ b.length) (told : read b = .ok i) :
    IsFit b := by
  by_cases bad : 1 < byte b 4
  · rw [read_of_activation room bad] at told
    contradiction
  · have good : byte b 4 ≤ 1 := UInt8.not_lt.mp bad
    by_cases worse : 2 < byte b 5
    · rw [read_of_deviceClass room good worse] at told
      contradiction
    · exact ⟨good, UInt8.not_lt.mp worse⟩

theorem isRecord : IsRecord size read LiesIn IsFit where
  read_eq_ok_iff := by
    intro b i room
    rw [read, readRecord_of_room room]
    constructor
    · intro told
      have told := ok_of_mapError told
      exact ⟨spelled_of_decode room told, wire_of_decode room told⟩
    · rintro ⟨spelled, wire⟩
      rw [decode_of_spelled spelled, wire]
      rfl
  exists_read_iff := by
    intro b room
    constructor
    · rintro ⟨i, told⟩
      exact fit_of_read room told
    · exact read_of_fit room

end Identity

namespace Gateway

def IsFit (b : Bytes) : Prop := byte b 8 ∈ [0, 4, 6]

def LiesIn (b : Bytes) (g : Gateway) : Prop :=
  g.id.value.toNat = number b 0 8 ∧
    match g.endpoint with
    | none => byte b 8 = 0
    | some (.v4 ip port) => byte b 8 = 4 ∧ port.toNat = number b 9 2 ∧ ip.bytes = slice b 11 4
    | some (.v6 ip port flow scope) =>
      byte b 8 = 6 ∧ port.toNat = number b 9 2 ∧ ip.bytes = slice b 11 16 ∧ flow = 0 ∧ scope = 0

theorem liesIn_drop {c : Bytes} {g : Gateway} :
    LiesIn (c.drop 13) g ↔
      g.id.value.toNat = number c 13 8 ∧ Request.CarriesEndpoint c g.endpoint := by
  obtain ⟨id, e⟩ := g
  rcases e with _ | ⟨ip, port⟩ | ⟨ip, port, flow, scope⟩ <;>
    simp only [LiesIn, Request.CarriesEndpoint, number_drop, slice_drop, byte_drop, Nat.reduceAdd,
      Nat.add_zero]

theorem exists_behind_header {b : Bytes} (room : size ≤ b.length) :
    ∃ c : Bytes, c.drop 13 = b ∧ 40 ≤ c.length := by
  have long : 27 ≤ b.length := room
  refine ⟨List.replicate 13 0 ++ b, List.drop_left' (by simp), ?_⟩
  rw [List.length_append, List.length_replicate]
  omega

theorem read_of_family {b : Bytes} (room : size ≤ b.length) (bad : ¬ IsFit b) :
    read b = .error (.field .familyByte) := by
  obtain ⟨c, rfl, long⟩ := exists_behind_header room
  rw [IsFit, byte_drop] at bad
  have told := Request.decodeGateway_at long
  rw [Request.decodeEndpoint_error_iff.mpr ⟨rfl, bad⟩] at told
  exact told

theorem read_of_fit {b : Bytes} (room : size ≤ b.length) (fit : IsFit b) : ∃ g, read b = .ok g := by
  obtain ⟨c, rfl, long⟩ := exists_behind_header room
  rw [IsFit, byte_drop] at fit
  have told := Request.decodeGateway_at long
  cases endpoint : Gateway.decodeEndpoint (c.drop 21) with
  | error cause => exact absurd fit (Request.decodeEndpoint_error_iff.mp endpoint).2
  | ok e =>
    rw [endpoint] at told
    exact ⟨_, told⟩

theorem isRecord : IsRecord size read LiesIn IsFit where
  read_eq_ok_iff := by
    intro b g room
    obtain ⟨c, rfl, long⟩ := exists_behind_header room
    have at_header := Request.decodeGateway_at long
    rw [Header.size] at at_header
    rw [liesIn_drop, at_header]
    constructor
    · intro told
      obtain ⟨e, endpoint, rfl⟩ := ok_of_map (ok_of_mapError told)
      exact ⟨UInt64.toNat_ofNat_of_lt' (number_lt c 13 8),
        Request.carriesEndpoint_of_decode long endpoint⟩
    · rintro ⟨id, endpoint⟩
      rw [Request.decodeEndpoint_of_carries endpoint, ← id, UInt64.ofNat_toNat]
      rfl
  exists_read_iff := by
    intro b room
    constructor
    · rintro ⟨g, told⟩
      by_cases fit : IsFit b
      · exact fit
      · rw [read_of_family room fit] at told
        contradiction
    · exact read_of_fit room

end Gateway

namespace Response
variable {α : Type} {width : Nat} {read : Bytes → Except Error α}

theorem readItems_succ_eq_ok {count : Nat} {b : Bytes} {items : List α} :
    readItems width read (count + 1) b = .ok items ↔
      ∃ x rest, items = x :: rest ∧ read b = .ok x ∧
        readItems width read count (b.drop width) = .ok rest := by
  rw [readItems]
  cases first : read b with
  | error cause => simp [bind, Except.bind]
  | ok x =>
    cases others : readItems width read count (b.drop width) with
    | error cause => simp [bind, Except.bind]
    | ok rest => simp [bind, Except.bind, pure, Except.pure, eq_comm]

theorem readItems_eq_ok_iff {count : Nat} {b : Bytes} {items : List α} :
    readItems width read count b = .ok items ↔
      items.length = count ∧
        ∀ k x, items[k]? = some x → read (b.drop (k * width)) = .ok x := by
  induction count generalizing b items with
  | zero =>
    rw [readItems, Except.ok.injEq, List.length_eq_zero_iff]
    constructor
    · rintro rfl
      simp
    · rintro ⟨rfl, -⟩
      rfl
  | succ count ih =>
    rw [readItems_succ_eq_ok]
    constructor
    · rintro ⟨x, rest, rfl, first, others⟩
      obtain ⟨size, each⟩ := ih.mp others
      refine ⟨congrArg (· + 1) size, ?_⟩
      intro k y place
      cases k with
      | zero =>
        rw [List.getElem?_cons_zero, Option.some.injEq] at place
        rwa [Nat.zero_mul, List.drop_zero, ← place]
      | succ k =>
        rw [List.getElem?_cons_succ] at place
        rw [Nat.succ_mul, Nat.add_comm, ← List.drop_drop]
        exact each k y place
    · rintro ⟨size, each⟩
      cases items with
      | nil => contradiction
      | cons x rest =>
        have first := each 0 x rfl
        rw [Nat.zero_mul, List.drop_zero] at first
        refine ⟨x, rest, rfl, first, ih.mpr ⟨Nat.succ.inj size, ?_⟩⟩
        intro k y place
        have other := each (k + 1) y place
        rwa [Nat.succ_mul, Nat.add_comm, ← List.drop_drop] at other

theorem exists_readItems_iff {count : Nat} {b : Bytes} :
    (∃ items, readItems width read count b = .ok items) ↔
      ∀ k < count, ∃ x, read (b.drop (k * width)) = .ok x := by
  constructor
  · rintro ⟨items, told⟩ k below
    obtain ⟨rfl, each⟩ := readItems_eq_ok_iff.mp told
    exact ⟨items[k], each k items[k] (List.getElem?_eq_getElem below)⟩
  · intro each
    induction count generalizing b with
    | zero => exact ⟨[], rfl⟩
    | succ count ih =>
      obtain ⟨x, first⟩ := each 0 (Nat.succ_pos count)
      rw [Nat.zero_mul, List.drop_zero] at first
      have behind : ∀ k < count, ∃ x, read ((b.drop width).drop (k * width)) = .ok x := by
        intro k below
        rw [List.drop_drop, Nat.add_comm, ← Nat.succ_mul]
        exact each (k + 1) (Nat.succ_lt_succ below)
      obtain ⟨rest, others⟩ := ih behind
      exact ⟨x :: rest, readItems_succ_eq_ok.mpr ⟨x, rest, rfl, first, others⟩⟩

structure ListLies (b : Bytes) (width : Nat) (LiesIn : Bytes → α → Prop) (items : List α) : Prop where
  count : items.length = number b 18 4
  room : 22 + number b 18 4 * width ≤ b.length
  each : ∀ k x, items[k]? = some x → LiesIn (b.drop (22 + k * width)) x

/-- There is room for all records that the head announces, and none of them is refused. -/
structure IsComplete (b : Bytes) (width : Nat) (IsFit : Bytes → Prop) : Prop where
  room : 22 + number b 18 4 * width ≤ b.length
  fit : ∀ k < number b 18 4, IsFit (b.drop (22 + k * width))

theorem record_room {b : Bytes} {k n : Nat} (room : 22 + n * width ≤ b.length) (below : k < n) :
    width ≤ (b.drop (22 + k * width)).length := by
  have next := Nat.mul_le_mul_right width (Nat.succ_le_of_lt below)
  rw [Nat.succ_mul] at next
  rw [List.length_drop]
  omega

variable {LiesIn : Bytes → α → Prop} {IsFit : Bytes → Prop}

theorem decodeItems_of_room {b : Bytes} (tag : Tag) (room : 22 + number b 18 4 * width ≤ b.length) :
    decodeItems tag width read b =
      (readItems width read (number b 18 4) (b.drop 22)).mapError fun _ =>
        .truncated tag (22 + number b 18 4 * width) b.length := by
  have enough : ¬ b.length < operationSize + number b (Header.size + 5) 4 * width := Nat.not_lt.mpr room
  simp only [decodeItems, if_neg enough]
  rw [show number b (Header.size + 5) 4 = number b 18 4 from rfl, show operationSize = 22 from rfl]
  cases readItems width read (number b 18 4) (b.drop 22) <;> rfl

theorem decodeItems_of_short {b : Bytes} (tag : Tag) (short : b.length < 22 + number b 18 4 * width) :
    decodeItems tag width read b = .error (.truncated tag (22 + number b 18 4 * width) b.length) :=
  if_pos short

theorem decodeItems_of_broken (record : IsRecord width read LiesIn IsFit) {b : Bytes} (tag : Tag)
    (broken : ¬ IsComplete b width IsFit) :
    decodeItems tag width read b = .error (.truncated tag (22 + number b 18 4 * width) b.length) := by
  by_cases room : 22 + number b 18 4 * width ≤ b.length
  · rw [decodeItems_of_room tag room]
    cases told : readItems width read (number b 18 4) (b.drop 22) with
    | error cause => rfl
    | ok items =>
      refine absurd ⟨room, ?_⟩ broken
      intro k below
      obtain ⟨x, read⟩ := exists_readItems_iff.mp ⟨items, told⟩ k below
      rw [List.drop_drop] at read
      exact (record.exists_read_iff (record_room room below)).mp ⟨x, read⟩
  · exact decodeItems_of_short tag (Nat.not_le.mp room)

theorem exists_decodeItems (record : IsRecord width read LiesIn IsFit) {b : Bytes} (tag : Tag)
    (complete : IsComplete b width IsFit) : ∃ items, decodeItems tag width read b = .ok items := by
  have each : ∀ k < number b 18 4, ∃ x, read ((b.drop 22).drop (k * width)) = .ok x := by
    intro k below
    rw [List.drop_drop]
    exact (record.exists_read_iff (record_room complete.room below)).mpr (complete.fit k below)
  obtain ⟨items, told⟩ := exists_readItems_iff.mpr each
  refine ⟨items, ?_⟩
  rw [decodeItems_of_room tag complete.room, told]
  rfl

theorem decodeItems_eq_ok_iff (record : IsRecord width read LiesIn IsFit) {b : Bytes} (tag : Tag)
    {items : List α} : decodeItems tag width read b = .ok items ↔ ListLies b width LiesIn items := by
  constructor
  · intro told
    have room : 22 + number b 18 4 * width ≤ b.length := by
      apply Nat.not_lt.mp
      intro short
      rw [decodeItems_of_short tag short] at told
      contradiction
    rw [decodeItems_of_room tag room] at told
    obtain ⟨count, each⟩ := readItems_eq_ok_iff.mp (ok_of_mapError told)
    refine ⟨count, room, ?_⟩
    intro k x place
    have below : k < number b 18 4 := by
      rw [← count]
      exact (List.getElem?_eq_some_iff.mp place).1
    have read := each k x place
    rw [List.drop_drop] at read
    exact (record.read_eq_ok_iff (record_room room below)).mp read
  · rintro ⟨count, room, each⟩
    have told : readItems width read (number b 18 4) (b.drop 22) = .ok items := by
      refine readItems_eq_ok_iff.mpr ⟨count, ?_⟩
      intro k x place
      have below : k < number b 18 4 := by
        rw [← count]
        exact (List.getElem?_eq_some_iff.mp place).1
      rw [List.drop_drop]
      exact (record.read_eq_ok_iff (record_room room below)).mpr (each k x place)
    rw [decodeItems_of_room tag room, told]
    rfl

end Response
end IdentityDirectory
