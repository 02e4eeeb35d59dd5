import IdentityDirectory.Proofs.Wire.RequestCodec
/-!
Writing with a cursor. A write puts bytes over a buffer from a position on and moves the position behind them;
a write past the window that was set aside for it is a fault of the program. A message, written field by field
with such writes, needs the window that its size announces and no less, leaves no gap in it and touches nothing
else.
-/
namespace IdentityDirectory
open Bytes

namespace Bytes

def overwrite (buffer : Bytes) (place : Nat) (x : Bytes) : Bytes :=
  buffer.take place ++ x ++ buffer.drop (place + x.length)

theorem length_overwrite {buffer x : Bytes} {place : Nat} (room : place + x.length ≤ buffer.length) :
    (buffer.overwrite place x).length = buffer.length := by
  simp only [overwrite, List.length_append, List.length_take, List.length_drop]
  omega

@[simp] theorem overwrite_nil (buffer : Bytes) (place : Nat) : buffer.overwrite place [] = buffer := by
  simp [overwrite]

theorem overwrite_overwrite {buffer x : Bytes} {place : Nat} (room : place + x.length ≤ buffer.length)
    (y : Bytes) :
    (buffer.overwrite place x).overwrite (place + x.length) y = buffer.overwrite place (x ++ y) := by
  have front : (buffer.take place ++ x).length = place + x.length := by
    simp only [List.length_append, List.length_take]
    omega
  have kept : (buffer.overwrite place x).take (place + x.length) = buffer.take place ++ x :=
    List.take_left' front
  have rest : (buffer.overwrite place x).drop (place + x.length + y.length) =
      buffer.drop (place + x.length + y.length) := by
    rw [overwrite, ← List.drop_drop, List.drop_left' front, List.drop_drop]
  rw [overwrite, kept, rest, overwrite, List.length_append, Nat.add_assoc, List.append_assoc _ x y]

end Bytes

/-- Writes a buffer from a position on, up to the end of a window; none stands for a write past it. -/
abbrev Pen := ReaderT Nat (StateT (Nat × Bytes) Option)

namespace Pen
variable {α : Type}

def run (m : Pen α) (window place : Nat) (buffer : Bytes) : Option (α × Nat × Bytes) :=
  m window (place, buffer)

def put (x : Bytes) : Pen Unit := fun window (place, buffer) =>
  if window < place + x.length then none
  else some ((), place + x.length, buffer.overwrite place x)

def number (count v : Nat) : Pen Unit := put (bigEndian count v)

def byte (x : UInt8) : Pen Unit := put [x]

def fill (m : Pen Unit) (size : Nat) (buffer : Bytes) : Option (Except Error Nat × Bytes) :=
  if buffer.length < size then some (.error (.bufferTooSmall size buffer.length), buffer)
  else (m.run size 0 buffer).map fun out => (.ok size, out.2.2)

end Pen

def Header.write (h : Header) : Pen Unit := do
  Pen.byte h.tag.toByte
  Pen.number 4 h.code.toUInt32.toNat
  Pen.number 8 h.accessCode.toNat

def Identity.write (i : Identity) : Pen Unit := do
  Pen.number 4 i.addr.value.toNat
  Pen.byte i.device.activation.toByte
  Pen.byte i.device.deviceClass.toByte
  Pen.number 8 i.device.devEui.value.toNat
  Pen.put i.device.nwkSKey.octets.bytes
  Pen.put i.device.appSKey.octets.bytes
  Pen.byte i.device.version.toByte
  Pen.number 8 i.device.appEui.value.toNat
  Pen.put i.device.appKey.octets.bytes
  Pen.put i.device.nwkKey.octets.bytes
  Pen.number 2 i.device.devNonce.value.toNat
  Pen.put (i.device.name.octets.bytes.take 6)

def Gateway.writeEndpoint : Option Endpoint → Pen Unit
  | none => do
    Pen.byte 0
    Pen.number 2 0
    Pen.put (List.replicate 16 0)
  | some (.v4 ip port) => do
    Pen.byte 4
    Pen.number 2 port.toNat
    Pen.put (ip.bytes ++ List.replicate 12 0)
  | some (.v6 ip port _ _) => do
    Pen.byte 6
    Pen.number 2 port.toNat
    Pen.put ip.bytes

def Gateway.write (g : Gateway) : Pen Unit := do
  Pen.number 8 g.id.value.toNat
  writeEndpoint g.endpoint

def RequestBody.write : RequestBody → Pen Unit
  | eui e => Pen.number 8 e.value.toNat
  | addr a => Pen.number 4 a.value.toNat
  | identity i => i.write
  | operation offset size => do
    Pen.number 4 offset.toNat
    Pen.byte size
  | gateway g => g.write

def Request.write (q : Request) : Pen Unit := do
  q.header.write
  q.body.write

namespace Response

def writeListHead (offset : UInt32) (count : Nat) : Pen Unit := do
  Pen.number 4 offset.toNat
  Pen.byte (UInt8.ofNat (min count 255))
  Pen.number 4 count

def writeBody : ResponseBody → Pen Unit
  | .identity i => i.write
  | .gateway g => g.write
  | .operation offset size result => do
    Pen.number 4 offset.toNat
    Pen.byte size
    Pen.number 4 result.toUInt32.toNat
  | .identityList offset items => do
    writeListHead offset items.length
    items.forM Identity.write
  | .gatewayList offset items => do
    writeListHead offset items.length
    items.forM Gateway.write

def write (r : Response) : Pen Unit := do
  r.header.write
  writeBody r.body

end Response

namespace Pen
variable {α : Type}

theorem run_bind (m n : Pen Unit) (window place : Nat) (buffer : Bytes) :
    (m >>= fun _ => n).run window place buffer =
      (m.run window place buffer).bind fun out => n.run window out.2.1 out.2.2 := rfl

/-- In any window that it fits, the writing puts exactly these bytes; in any other it goes past the end. -/
def Writes (m : Pen Unit) (x : Bytes) : Prop :=
  ∀ window place buffer, place ≤ window → window ≤ buffer.length →
    m.run window place buffer =
      if window < place + x.length then none
      else some ((), place + x.length, buffer.overwrite place x)

theorem Writes.of_eq {m : Pen Unit} {x y : Bytes} (writes : m.Writes x) (same : x = y) :
    m.Writes y := same ▸ writes

theorem writes_put (x : Bytes) : (put x).Writes x := fun _ _ _ _ _ => rfl

theorem writes_number (count v : Nat) : (number count v).Writes (bigEndian count v) := writes_put _

theorem writes_byte (x : UInt8) : (byte x).Writes [x] := writes_put _

theorem writes_nothing : (pure () : Pen Unit).Writes [] := by
  intro window place buffer start _
  rw [if_neg (by simpa using start), overwrite_nil]
  rfl

theorem Writes.seq {m n : Pen Unit} {x y : Bytes} (first : m.Writes x) (second : n.Writes y) :
    (m >>= fun _ => n).Writes (x ++ y) := by
  intro window place buffer start inside
  rw [run_bind, first window place buffer start inside, List.length_append]
  by_cases full : window < place + x.length
  · have beyond : window < place + (x.length + y.length) := by omega
    rw [if_pos full, if_pos beyond]
    rfl
  · have room : place + x.length ≤ buffer.length := by omega
    have size := length_overwrite room
    rw [if_neg full, Option.bind_some,
      second window _ _ (Nat.not_lt.mp full) (by rw [size]; exact inside), overwrite_overwrite room,
      Nat.add_assoc]

theorem writes_forM {write : α → Pen Unit} {encode : α → Bytes}
    (each : ∀ x, (write x).Writes (encode x)) (xs : List α) :
    (xs.forM write).Writes (xs.flatMap encode) := by
  induction xs with
  | nil => exact writes_nothing
  | cons x xs ih => exact (each x).seq ih

end Pen

open Pen

theorem Header.writes (h : Header) : h.write.Writes h.encode :=
  (writes_byte _).seq ((writes_number 4 _).seq (writes_number 8 _))

theorem Identity.writes (i : Identity) : i.write.Writes i.encode := by
  refine Writes.of_eq ((writes_number _ _).seq <| (writes_byte _).seq <| (writes_byte _).seq <|
    (writes_number _ _).seq <| (writes_put _).seq <| (writes_put _).seq <| (writes_byte _).seq <|
    (writes_number _ _).seq <| (writes_put _).seq <| (writes_put _).seq <|
    (writes_number _ _).seq <| writes_put _) ?_
  simp only [encode, List.append_assoc, List.cons_append, List.nil_append]

theorem Gateway.writesEndpoint (e : Option Endpoint) : (writeEndpoint e).Writes (encodeEndpoint e) := by
  rcases e with _ | ⟨ip, port⟩ | ⟨ip, port, flow, scope⟩
  · exact (writes_byte 0).seq ((writes_number 2 0).seq (writes_put _))
  · refine Writes.of_eq ((writes_byte 4).seq ((writes_number 2 _).seq (writes_put _))) ?_
    simp [encodeEndpoint]
  · exact (writes_byte 6).seq ((writes_number 2 _).seq (writes_put _))

theorem Gateway.writes (g : Gateway) : g.write.Writes g.encode :=
  (writes_number 8 _).seq (writesEndpoint g.endpoint)

theorem Request.writes (q : Request) : q.write.Writes q.encode := by
  apply q.header.writes.seq
  cases q.body with
  | eui e => exact writes_number 8 _
  | addr a => exact writes_number 4 _
  | identity i => exact i.writes
  | operation offset size => exact (writes_number 4 _).seq (writes_byte _)
  | gateway g => exact g.writes

theorem Response.writesListHead (offset : UInt32) (count : Nat) :
    (writeListHead offset count).Writes (encodeListHead offset count) :=
  ((writes_number 4 _).seq ((writes_byte _).seq (writes_number 4 _))).of_eq
    (List.append_assoc _ _ _).symm

theorem Response.writes (r : Response) : r.write.Writes r.encode := by
  apply r.header.writes.seq
  cases r.body with
  | identity i => exact i.writes
  | gateway g => exact g.writes
  | operation offset size result =>
    exact ((writes_number 4 _).seq ((writes_byte _).seq (writes_number 4 _))).of_eq
      (List.append_assoc _ _ _).symm
  | identityList offset items =>
    exact (writesListHead offset items.length).seq (writes_forM Identity.writes items)
  | gatewayList offset items =>
    exact (writesListHead offset items.length).seq (writes_forM Gateway.writes items)

theorem Request.length_encode (q : Request) : q.encode.length = q.encodedSize := by
  rw [encode, List.length_append, Header.length_encode, RequestBody.length_encode, encodedSize]

/-- What the size that is announced for a message says about writing it, alone and into a buffer. -/
structure IsExact (size : Nat) (x : Bytes) (m : Pen Unit)
    (into : Bytes → Except Error (Nat × Bytes)) : Prop where
  length : x.length = size
  written : ∀ buffer window, window ≤ buffer.length →
    m.run window 0 buffer = if window < size then none else some ((), size, x ++ buffer.drop size)
  narrow : ∀ buffer : Bytes, buffer.length < size →
    m.fill size buffer = some (.error (.bufferTooSmall size buffer.length), buffer) ∧
      into buffer = .error (.bufferTooSmall size buffer.length)
  wide : ∀ buffer : Bytes, size ≤ buffer.length →
    ∃ after, m.fill size buffer = some (.ok size, after) ∧ into buffer = .ok (size, after) ∧
      after.take size = x ∧ after.drop size = buffer.drop size

theorem isExact_of_writes {size : Nat} {x : Bytes} {m : Pen Unit} (writes : m.Writes x)
    (length : x.length = size) : IsExact size x m (fillBuffer size x) := by
  have written (buffer : Bytes) (window : Nat) (inside : window ≤ buffer.length) :
      m.run window 0 buffer =
        if window < size then none else some ((), size, x ++ buffer.drop size) := by
    have run := writes window 0 buffer (Nat.zero_le _) inside
    rw [Nat.zero_add, overwrite, length, Nat.zero_add] at run
    exact run
  refine ⟨length, written, ?_, ?_⟩
  · intro buffer short
    constructor
    · rw [fill, if_pos short]
    · rw [fillBuffer, if_pos short]
  · intro buffer room
    have enough : ¬ buffer.length < size := Nat.not_lt.mpr room
    refine ⟨x ++ buffer.drop size, ?_, ?_, List.take_left' length, List.drop_left' length⟩
    · rw [fill, if_neg enough, written buffer size room, if_neg (Nat.lt_irrefl _)]
      rfl
    · rw [fillBuffer, if_neg enough, length]

/-- Encoding is all or nothing. Of every message, whatever its tag and body, exactly the announced number of
bytes is written, without a gap and never past a window of that size; a shorter buffer is refused and left as
it was, and of any other buffer the front becomes the message and the rest stays. -/
theorem messages_written_whole_or_not_at_all :
    (∀ q : Request, IsExact q.encodedSize q.encode q.write q.encodeInto) ∧
      ∀ r : Response, IsExact r.encodedSize r.encode r.write r.encodeInto := by
  constructor
  · intro q
    exact isExact_of_writes q.writes q.length_encode
  · intro r
    exact isExact_of_writes r.writes r.length_encode

/-- A removal is read from 21 bytes but sent as 108, so a buffer of 107 is refused. -/
example :
    (Request.remove 42 42 ⟨7⟩).encodeInto (List.replicate 107 0xFF) =
      .error (.bufferTooSmall 108 107) := by
  rfl

end IdentityDirectory
