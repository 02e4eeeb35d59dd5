import IdentityDirectory.Proofs.Wire.Cursor
import IdentityDirectory.Proofs.Wire.Responses
/-!
Reading responses with a cursor. How many records a list has is told by the buffer itself, so the room for all
of them is looked at before the first is read; no read goes past the end, whatever number stands there, and no
size in between outgrows 64 bits.
-/
namespace IdentityDirectory
open Bytes

namespace Scan
variable {α : Type}

def recover (m other : Scan α) : Scan α := tryCatch m fun _ => other

/-- A size in 64 bits. One that needs more is a fault of the program. -/
def sized (n : Nat) : Scan Nat := fun _ place => if n < 2 ^ 64 then some (.ok n, place) else none

def repeated (m : Scan α) : Nat → Scan (List α)
  | 0 => pure []
  | count + 1 => do
    let item ← m
    let rest ← repeated m count
    return item :: rest

/-- The records behind a list head. Any error among them is told as a message that is too short. -/
def records (tag : Tag) (width total count : Nat) (m : Scan α) : Scan (List α) :=
  recover
    (do
      if 2 ^ 64 ≤ count * width then throw (.bufferTooSmall (2 ^ 64 - 1) total)
      ensure (count * width)
      repeated m count)
    (do
      let needed ← sized (Response.operationSize + count * width)
      throw (.truncated tag needed total))

end Scan

namespace Response

def scanOperation : Scan ResponseBody := do
  let offset ← Scan.number 4
  let size ← Scan.byte
  let result ← Scan.number 4
  return .operation (UInt32.ofNat offset) size (UInt32.ofNat result).toInt32

def scanList {α : Type} (tag : Tag) (width total : Nat) (m : Scan α)
    (body : UInt32 → List α → ResponseBody) : Scan ResponseBody := do
  let offset ← Scan.number 4
  let _ ← Scan.byte
  let count ← Scan.number 4
  let items ← Scan.records tag width total count m
  return body (UInt32.ofNat offset) items

def scanBody (h : Header) (total : Nat) : Scan ResponseBody :=
  let isDenied := h.code = ResultCode.accessDenied.toInt32 ∧ total = operationSize
  match h.tag with
  | .addrLookup | .euiLookup =>
    if total < Header.size + Identity.size then scanOperation
    else return .identity (← Identity.scan)
  | .gatewayAddrLookup | .gatewayIdLookup =>
    if total < Header.size + Gateway.size then scanOperation
    else return .gateway (← Gateway.scan)
  | .list =>
    if isDenied then scanOperation
    else scanList .list Identity.size total Identity.scan .identityList
  | .gatewayList =>
    if isDenied then scanOperation
    else scanList .gatewayList Gateway.size total Gateway.scan .gatewayList
  | _ => scanOperation

/-- The size is checked for an operation, the shortest response; a record looks at its own room. -/
def scan : Scan Response := do
  let b ← read
  match Tag.decode b with
  | .error cause => throw cause
  | .ok tag =>
    if b.length < operationSize then throw (.truncated tag operationSize b.length)
    let header ← Header.scan
    let body ← scanBody header b.length
    return ⟨header, body⟩

end Response

namespace Scan
variable {α : Type}

theorem run_recover (m other : Scan α) (b : Bytes) (place : Nat) :
    (recover m other).run b place =
      match m.run b place with
      | some (.ok a, next) => some (.ok a, next)
      | some (.error _, next) => other.run b next
      | none => none := by
  simp only [recover, run, tryCatch, tryCatchThe, MonadExceptOf.tryCatch, ExceptT.tryCatch, ExceptT.mk,
    bind, ReaderT.bind, StateT.bind]
  cases m b place with
  | none => rfl
  | some out =>
    obtain ⟨result, next⟩ := out
    cases result <;> rfl

theorem run_sized {n : Nat} (bound : n < 2 ^ 64) (b : Bytes) (place : Nat) :
    (sized n).run b place = some (.ok n, place) := by
  rw [run, sized, if_pos bound]

theorem run_repeated {m : Scan α} {b : Bytes} {width : Nat} {read : Bytes → Except Error α}
    (tells : ∀ place, place + width ≤ b.length → m.Tells b place width (read (b.drop place)))
    (count : Nat) {place : Nat} (room : place + count * width ≤ b.length) :
    (repeated m count).Tells b place (count * width)
      (Response.readItems width read count (b.drop place)) := by
  induction count generalizing place with
  | zero => exact ⟨place, Nat.le_add_right _ _, fun _ _ => by simp, rfl⟩
  | succ count ih =>
    rw [Nat.succ_mul] at room ⊢
    obtain ⟨next, within, all, told⟩ := tells place (by omega)
    simp only [Tells, repeated, run_bind, told, Response.readItems, List.drop_drop]
    cases first : read (b.drop place) with
    | error cause =>
      refine ⟨next, by omega, ?_, rfl⟩
      intro items same
      contradiction
    | ok item =>
      obtain rfl := all item first
      have behind : place + width + count * width ≤ b.length := by omega
      obtain ⟨last, within', all', told'⟩ := ih behind
      simp only [told']
      cases others : Response.readItems width read count (b.drop (place + width)) with
      | error cause =>
        refine ⟨last, by omega, ?_, rfl⟩
        intro items same
        contradiction
      | ok rest =>
        have ends := all' rest others
        exact ⟨last, by omega, fun _ _ => by omega, rfl⟩

theorem run_records {m : Scan α} {b : Bytes} {width : Nat} {read : Bytes → Except Error α} (tag : Tag)
    (start : Response.operationSize ≤ b.length)
    (small : Response.operationSize + b.number (Header.size + 5) 4 * width < 2 ^ 64)
    (tells : ∀ place, place + width ≤ b.length → m.Tells b place width (read (b.drop place))) :
    ∃ next, next ≤ b.length ∧
      (records tag width b.length (b.number (Header.size + 5) 4) m).run b Response.operationSize =
        some (Response.decodeItems tag width read b, next) := by
  have bounded : ¬ 2 ^ 64 ≤ b.number (Header.size + 5) 4 * width := by omega
  simp only [records, run_recover, run_bind, run_sized small, run_throw, if_neg bounded,
    Response.decodeItems]
  by_cases short : b.length < Response.operationSize + b.number (Header.size + 5) 4 * width
  · have missing : b.length - Response.operationSize < b.number (Header.size + 5) 4 * width := by omega
    refine ⟨Response.operationSize, start, ?_⟩
    simp only [ensure, run_bind, run_remaining, if_pos missing, run_throw, if_pos short]
  · have room := Nat.not_lt.mp short
    obtain ⟨next, within, -, told⟩ := run_repeated tells _ room
    refine ⟨next, by omega, ?_⟩
    simp only [run_ensure room, told, if_neg short]
    cases Response.readItems width read _ (b.drop Response.operationSize) <;> rfl

end Scan

namespace Response

theorem run_scanOperation {b : Bytes} (room : operationSize ≤ b.length) :
    scanOperation.run b Header.size = some (.ok (decodeOperation b), operationSize) := by
  have long : 22 ≤ b.length := room
  simp (disch := simp only [Header.size]; omega) only [scanOperation, Scan.run_bind, Scan.run_number,
    Scan.run_byte, Scan.run_pure, decodeOperation, Nat.add_assoc, Nat.reduceAdd]
  rfl

theorem listSize_lt (b : Bytes) {width : Nat} (narrow : width ≤ 95) :
    operationSize + number b (Header.size + 5) 4 * width < 2 ^ 64 := by
  have count : number b (Header.size + 5) 4 < 2 ^ 32 := number_lt b _ 4
  have bound := Nat.mul_le_mul (Nat.le_of_lt count) narrow
  rw [operationSize, Header.size] at *
  omega

theorem run_scanList {α : Type} {b : Bytes} {width : Nat} {m : Scan α} {read : Bytes → Except Error α}
    (tag : Tag) (room : operationSize ≤ b.length) (narrow : width ≤ 95)
    (tells : ∀ place, place + width ≤ b.length → m.Tells b place width (read (b.drop place)))
    (body : UInt32 → List α → ResponseBody) :
    ∃ next, next ≤ b.length ∧
      (scanList tag width b.length m body).run b Header.size =
        some ((decodeItems tag width read b).map
          (body (UInt32.ofNat (number b Header.size 4))), next) := by
  have long : 22 ≤ b.length := room
  obtain ⟨next, within, told⟩ := Scan.run_records tag room (listSize_lt b narrow) tells
  refine ⟨next, within, ?_⟩
  simp (disch := simp only [Header.size]; omega) only [scanList, Scan.run_bind, Scan.run_number,
    Scan.run_byte, Scan.run_pure, Nat.add_assoc, Nat.reduceAdd]
  rw [show Header.size + 9 = operationSize from rfl, told]
  cases decodeItems tag width read b <;> rfl

theorem run_scanBody {b : Bytes} (h : Header) (room : operationSize ≤ b.length) :
    ∃ next, next ≤ b.length ∧
      (scanBody h b.length).run b Header.size = some (decodeBody h b, next) := by
  have operation := run_scanOperation room
  cases tag : h.tag <;> simp only [scanBody, decodeBody, tag]
  case addrLookup | euiLookup =>
    split
    · exact ⟨operationSize, room, operation⟩
    · rename_i wide
      obtain ⟨next, within, -, told⟩ := Identity.run_scan (Nat.not_lt.mp wide)
      refine ⟨next, by omega, ?_⟩
      rw [Scan.run_bind, told]
      cases Identity.read (b.drop Header.size) <;> rfl
  case gatewayAddrLookup | gatewayIdLookup =>
    split
    · exact ⟨operationSize, room, operation⟩
    · rename_i wide
      obtain ⟨next, within, -, told⟩ := Gateway.run_scan (Nat.not_lt.mp wide)
      refine ⟨next, by omega, ?_⟩
      rw [Scan.run_bind, told]
      cases Gateway.read (b.drop Header.size) <;> rfl
  case list =>
    split
    · exact ⟨operationSize, room, operation⟩
    · exact run_scanList .list room (by decide) (fun _ => Identity.run_scan) .identityList
  case gatewayList =>
    split
    · exact ⟨operationSize, room, operation⟩
    · exact run_scanList .gatewayList room (by decide) (fun _ => Gateway.run_scan) .gatewayList
  all_goals exact ⟨operationSize, room, operation⟩

theorem run_scan (b : Bytes) :
    ∃ next, next ≤ b.length ∧ scan.run b 0 = some (decode b, next) := by
  simp only [scan, Scan.run_bind, Scan.run_read]
  cases known : Tag.decode b with
  | error cause => exact ⟨0, Nat.zero_le _, by rw [decode_of_foreign known]; rfl⟩
  | ok tag =>
    by_cases short : b.length < operationSize
    · refine ⟨0, Nat.zero_le _, ?_⟩
      simp only [if_pos short, Scan.run_bind, Scan.run_throw, decode_of_short known short]
    · have room : operationSize ≤ b.length := Nat.not_lt.mp short
      have header : Header.size ≤ b.length := Nat.le_trans (Nat.le_add_right _ _) room
      have first : Tag.ofByte? (byte b 0) = some tag := by
        rw [Tag.toByte_of_decode known, Tag.ofByte?_toByte]
      obtain ⟨next, within, told⟩ := run_scanBody (Header.ofBytes tag b) room
      refine ⟨next, within, ?_⟩
      rw [decode_of_room known room]
      simp only [if_neg short, Scan.run_pure, Scan.run_bind, Header.run_scan header first, told]
      cases decodeBody (Header.ofBytes tag b) b <;> rfl

end Response
end IdentityDirectory
