import IdentityDirectory.Proofs.Wire.Requests
/-!
Reading with a cursor. A read takes the bytes from a position on and moves the position behind them; a read
past the end of the buffer is a fault of the program, told apart from an error about the bytes. The
decoders of requests, written with such reads, have no faults and tell what the total decoders tell.
-/
namespace IdentityDirectory
open Bytes

/-- Reads a buffer from a position on; none stands for a read past its end. -/
abbrev Scan := ExceptT Error (ReaderT Bytes (StateT Nat Option))

namespace Scan
variable {α β : Type}

def run (m : Scan α) (b : Bytes) (place : Nat) : Option (Except Error α × Nat) := m b place

def take (count : Nat) : Scan Bytes := fun b place =>
  if b.length < place + count then none else some (.ok (slice b place count), place + count)

def number (count : Nat) : Scan Nat := return toNat (← take count)

def byte : Scan UInt8 := return Bytes.byte (← take 1) 0

def remaining : Scan Nat := fun b place => some (.ok (b.length - place), place)

def ensure (needed : Nat) : Scan Unit := do
  let left ← remaining
  if left < needed then throw (.bufferTooSmall needed left)

def orFail (found : Option α) (cause : Error) : Scan α :=
  match found with
  | some a => pure a
  | none => throw cause

end Scan

def Header.scan : Scan Header := do
  if (← Scan.remaining) = 0 then throw .emptyPacket
  let first ← Scan.byte
  let tag ← Scan.orFail (Tag.ofByte? first) (.unknownTag first)
  let left ← Scan.remaining
  if left < size - 1 then throw (.truncated tag size (left + 1))
  let code ← Scan.number 4
  let accessCode ← Scan.number 8
  return ⟨tag, (UInt32.ofNat code).toInt32, UInt64.ofNat accessCode⟩

def Identity.scan : Scan Identity := do
  Scan.ensure size
  let addr ← Scan.number 4
  let activation ← Scan.orFail (Activation.ofByte? (← Scan.byte)) (.field .activationByte)
  let deviceClass ← Scan.orFail (DeviceClass.ofByte? (← Scan.byte)) (.field .classByte)
  let devEui ← Scan.number 8
  let nwkSKey ← Scan.take 16
  let appSKey ← Scan.take 16
  let version ← Scan.byte
  let appEui ← Scan.number 8
  let appKey ← Scan.take 16
  let nwkKey ← Scan.take 16
  let devNonce ← Scan.number 2
  let name ← Scan.take 6
  return ⟨⟨UInt32.ofNat addr⟩, {
    activation := activation
    deviceClass := deviceClass
    devEui := ⟨UInt64.ofNat devEui⟩
    nwkSKey := ⟨Octets.ofBytes 16 nwkSKey⟩
    appSKey := ⟨Octets.ofBytes 16 appSKey⟩
    version := Version.ofByte version
    appEui := ⟨UInt64.ofNat appEui⟩
    appKey := ⟨Octets.ofBytes 16 appKey⟩
    nwkKey := ⟨Octets.ofBytes 16 nwkKey⟩
    devNonce := ⟨UInt16.ofNat devNonce⟩
    joinNonce := JoinNonce.ofNat 0
    name := ⟨Octets.ofBytes 8 name⟩ }⟩

def Gateway.scan : Scan Gateway := do
  Scan.ensure size
  let id ← Scan.number 8
  let family ← Scan.byte
  let port ← Scan.number 2
  let address ← Scan.take 16
  let endpoint ← match family with
    | 0 => pure none
    | 4 => pure (some (.v4 (Octets.ofBytes 4 (slice address 0 4)) (UInt16.ofNat port)))
    | 6 => pure (some (.v6 (Octets.ofBytes 16 address) (UInt16.ofNat port) 0 0))
    | _ => throw (.field .familyByte)
  return ⟨⟨UInt64.ofNat id⟩, endpoint⟩

def RequestBody.scan (tag : Tag) : Scan RequestBody :=
  match tag with
  | .addrLookup => return .eui ⟨UInt64.ofNat (← Scan.number 8)⟩
  | .euiLookup => return .addr ⟨UInt32.ofNat (← Scan.number 4)⟩
  | .assign => return .identity (← Identity.scan)
  | .remove => return .identity (Identity.ofAddr ⟨UInt32.ofNat (← Scan.number 4)⟩)
  | .list | .count | .forceSave | .close
  | .gatewayList | .gatewayCount | .gatewayForceSave | .gatewayClose => do
    let offset ← Scan.number 4
    let size ← Scan.byte
    return .operation (UInt32.ofNat offset) size
  | .gatewayAddrLookup | .gatewayIdLookup | .gatewayAssign | .gatewayRemove =>
    return .gateway (← Gateway.scan)

/-- The size is checked once, by the tag; none of the reads behind that is checked on its own. -/
def Request.scan : Scan Request := do
  let b ← read
  match Tag.decode b with
  | .error cause => throw cause
  | .ok tag =>
    if b.length < tag.minRequestSize then throw (.truncated tag tag.minRequestSize b.length)
    let header ← Header.scan
    let body ← RequestBody.scan tag
    return ⟨header, body⟩

namespace Scan
variable {α β : Type}

theorem run_pure (a : α) (b : Bytes) (place : Nat) :
    (pure a : Scan α).run b place = some (.ok a, place) := rfl

theorem run_throw (cause : Error) (b : Bytes) (place : Nat) :
    (throw cause : Scan α).run b place = some (.error cause, place) := rfl

theorem run_read (b : Bytes) (place : Nat) : (read : Scan Bytes).run b place = some (.ok b, place) :=
  rfl

theorem run_bind (m : Scan α) (f : α → Scan β) (b : Bytes) (place : Nat) :
    (m >>= f).run b place =
      match m.run b place with
      | some (.ok a, next) => (f a).run b next
      | some (.error cause, next) => some (.error cause, next)
      | none => none := by
  simp only [run, bind, ExceptT.bind, ExceptT.mk, ReaderT.bind, StateT.bind]
  cases m b place with
  | none => rfl
  | some out =>
    obtain ⟨result, next⟩ := out
    cases result <;> rfl

theorem run_take {b : Bytes} {place count : Nat} (room : place + count ≤ b.length) :
    (take count).run b place = some (.ok (slice b place count), place + count) := by
  rw [run, take, if_neg (Nat.not_lt.mpr room)]

theorem run_number {b : Bytes} {place count : Nat} (room : place + count ≤ b.length) :
    (number count).run b place = some (.ok (b.number place count), place + count) := by
  rw [number, run_bind, run_take room]
  rfl

theorem run_byte {b : Bytes} {place : Nat} (room : place + 1 ≤ b.length) :
    byte.run b place = some (.ok (b.byte place), place + 1) := by
  rw [byte, run_bind, run_take room]
  simp only [slice_one room]
  rfl

theorem run_remaining (b : Bytes) (place : Nat) :
    remaining.run b place = some (.ok (b.length - place), place) := rfl

theorem run_ensure {b : Bytes} {place needed : Nat} (room : place + needed ≤ b.length) :
    (ensure needed).run b place = some (.ok (), place) := by
  have enough : ¬ b.length - place < needed := by omega
  simp only [ensure, run_bind, run_remaining, enough, ↓reduceIte, run_pure]

theorem run_orFail (found : Option α) (cause : Error) (b : Bytes) (place : Nat) :
    (orFail found cause).run b place =
      some (match found with
        | some a => .ok a
        | none => .error cause, place) := by
  cases found <;> rfl

def Tells (m : Scan α) (b : Bytes) (place width : Nat) (told : Except Error α) : Prop :=
  ∃ next, next ≤ place + width ∧ (∀ a, told = .ok a → next = place + width) ∧
    m.run b place = some (told, next)

end Scan

theorem Header.run_scan {b : Bytes} {tag : Tag} (room : size ≤ b.length)
    (first : Tag.ofByte? (byte b 0) = some tag) :
    scan.run b 0 = some (.ok (ofBytes tag b), size) := by
  have long : 13 ≤ b.length := room
  have some_left : ¬ b.length - 0 = 0 := by omega
  have enough : ¬ b.length - (0 + 1) < size - 1 := by rw [size]; omega
  simp (disch := omega) only [scan, Scan.run_bind, Scan.run_remaining, Scan.run_byte, Scan.run_number,
    Scan.run_orFail, Scan.run_pure, some_left, enough, first, ↓reduceIte]
  rfl

theorem Identity.run_scan {b : Bytes} {place : Nat} (room : place + size ≤ b.length) :
    scan.Tells b place size (read (b.drop place)) := by
  have long : place + 95 ≤ b.length := room
  have whole : size ≤ (b.drop place).length := by rw [List.length_drop, size]; omega
  simp (disch := omega) only [Scan.Tells, scan, Scan.run_bind, Scan.run_ensure, Scan.run_byte, Scan.run_number,
    Scan.run_orFail, read, readRecord_of_room whole, decode, byte_drop, Nat.add_assoc, Nat.reduceAdd]
  cases first : Activation.ofByte? (byte b (place + 4)) with
  | none =>
    refine ⟨place + 5, by rw [size]; omega, ?_, rfl⟩
    intro i told
    have failed : (.error (.field .activationByte) : Except Error Identity) = .ok i := told
    contradiction
  | some activation =>
    cases second : DeviceClass.ofByte? (byte b (place + 5)) with
    | none =>
      refine ⟨place + 6, by rw [size]; omega, ?_, ?_⟩
      · intro i told
        have failed : (.error (.field .classByte) : Except Error Identity) = .ok i := told
        contradiction
      · simp (disch := omega) only [Scan.run_byte, Nat.add_assoc, Nat.reduceAdd, second]
        rfl
    | some deviceClass =>
      refine ⟨place + size, Nat.le_refl _, fun _ _ => rfl, ?_⟩
      simp (disch := omega) only [Scan.run_byte, Scan.run_number, Scan.run_take, Scan.run_pure,
        second, ofBytes, number_drop, slice_drop, byte_drop, Nat.add_assoc, Nat.reduceAdd]
      rfl

theorem Gateway.run_scan {b : Bytes} {place : Nat} (room : place + size ≤ b.length) :
    scan.Tells b place size (read (b.drop place)) := by
  have long : place + 27 ≤ b.length := room
  have whole : size ≤ (b.drop place).length := by rw [List.length_drop, size]; omega
  have front : slice (slice b (place + 11) 16) 0 4 = slice b (place + 11) 4 := slice_slice (by omega)
  refine ⟨place + size, Nat.le_refl _, fun _ _ => rfl, ?_⟩
  simp (disch := omega) only [scan, Scan.run_bind, Scan.run_ensure, Scan.run_take, Scan.run_byte,
    Scan.run_number, read, readRecord_of_room whole, decode, decodeEndpoint, byte_drop, number_drop,
    slice_drop, Nat.add_assoc, Nat.reduceAdd, Nat.add_zero, front]
  split <;> simp_all <;> rfl

theorem RequestBody.run_scan {b : Bytes} {tag : Tag} (room : tag.minRequestSize ≤ b.length) :
    ∃ next, next ≤ tag.minRequestSize ∧
      (scan tag).run b Header.size = some (Request.decodeBody tag (b.drop Header.size), next) := by
  cases tag
  case assign =>
    obtain ⟨next, within, -, told⟩ := Identity.run_scan room
    refine ⟨next, within, ?_⟩
    rw [scan, Scan.run_bind, told, Request.decodeBody]
    cases Identity.read (b.drop Header.size) <;> rfl
  case gatewayAddrLookup | gatewayIdLookup | gatewayAssign | gatewayRemove =>
    obtain ⟨next, within, -, told⟩ := Gateway.run_scan room
    refine ⟨next, within, ?_⟩
    rw [scan, Scan.run_bind, told, Request.decodeBody]
    cases Gateway.read (b.drop Header.size) <;> rfl
  all_goals
    simp only [Tag.minRequestSize, Header.size, Tag.layout, Tag.Layout.size] at room ⊢
    simp (disch := omega) only [scan, Scan.run_bind, Scan.run_number, Scan.run_byte, Scan.run_pure,
      Request.decodeBody, number_drop, byte_drop, Nat.add_zero, Nat.reduceAdd, Option.some.injEq,
      Prod.mk.injEq, true_and]
    exact ⟨_, by omega, rfl⟩

namespace Request

/-- No read goes past the end, whatever the bytes are, nor past the size that the tag asks for. -/
theorem run_scan (b : Bytes) :
    ∃ next, next ≤ b.length ∧ (∀ tag, Tag.decode b = .ok tag → next ≤ tag.minRequestSize) ∧
      scan.run b 0 = some (decode b, next) := by
  simp only [scan, Scan.run_bind, Scan.run_read]
  cases known : Tag.decode b with
  | error cause =>
    exact ⟨0, Nat.zero_le _, fun _ _ => Nat.zero_le _, by rw [decode_of_foreign known]; rfl⟩
  | ok tag =>
    by_cases short : b.length < tag.minRequestSize
    · refine ⟨0, Nat.zero_le _, fun _ _ => Nat.zero_le _, ?_⟩
      simp only [if_pos short, Scan.run_bind, Scan.run_throw, decode_of_short known short]
    · have room : tag.minRequestSize ≤ b.length := Nat.not_lt.mp short
      have header : Header.size ≤ b.length := Nat.le_trans tag.header_le_minRequestSize room
      have first : Tag.ofByte? (byte b 0) = some tag := by
        rw [Tag.toByte_of_decode known, Tag.ofByte?_toByte]
      obtain ⟨next, within, told⟩ := RequestBody.run_scan room
      refine ⟨next, Nat.le_trans within room, fun _ same => Except.ok.inj same ▸ within, ?_⟩
      rw [decode_of_room known room]
      simp only [if_neg short, Scan.run_pure, Scan.run_bind, Header.run_scan header first, told]
      cases decodeBody tag (b.drop Header.size) <;> rfl

end Request
end IdentityDirectory
