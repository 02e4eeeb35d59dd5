import IdentityDirectory.Bytes
/-!
UTF-8. A text is written character by character. Reading goes through the bytes in chunks, each a
character or a longest start of one that breaks off; the lenient reader puts the replacement
character for the broken chunks, the strict one refuses them.
-/
namespace IdentityDirectory.Text

def utf8 (s : List Char) : Bytes := s.flatMap String.utf8EncodeChar

def utf8Size (s : List Char) : Nat := s.foldl (fun size c => size + c.utf8Size) 0

def followers (lead : UInt8) : Option (List (UInt8 × UInt8)) :=
  let tail := ((0x80 : UInt8), (0xBF : UInt8))
  if lead < 0x80 then some []
  else if lead < 0xC2 then none
  else if lead < 0xE0 then some [tail]
  else if lead = 0xE0 then some [(0xA0, 0xBF), tail]
  else if lead = 0xED then some [(0x80, 0x9F), tail]
  else if lead < 0xF0 then some [tail, tail]
  else if lead = 0xF0 then some [(0x90, 0xBF), tail, tail]
  else if lead < 0xF4 then some [tail, tail, tail]
  else if lead = 0xF4 then some [(0x80, 0x8F), tail, tail]
  else none

def leadBits (lead : UInt8) : Nat → Nat
  | 0 => lead.toNat
  | 1 => lead.toNat % 32
  | 2 => lead.toNat % 16
  | _ => lead.toNat % 8

def follow : List (UInt8 × UInt8) → Nat → Bytes → Option Char × Bytes
  | [], v, b => (some (Char.ofNat v), b)
  | _ :: _, _, [] => (none, [])
  | r :: rs, v, x :: b =>
    if r.1 ≤ x ∧ x ≤ r.2 then follow rs (64 * v + x.toNat % 64) b else (none, x :: b)

theorem length_follow (rs : List (UInt8 × UInt8)) (v : Nat) (b : Bytes) :
    (follow rs v b).2.length ≤ b.length := by
  induction rs generalizing v b with
  | nil => simp [follow]
  | cons r rs ih =>
    cases b with
    | nil => simp [follow]
    | cons x b =>
      simp only [follow]
      split
      · exact Nat.le_succ_of_le (ih _ _)
      · simp

def chunk (lead : UInt8) (b : Bytes) : Option Char × Bytes :=
  match followers lead with
  | none => (none, b)
  | some rs => follow rs (leadBits lead rs.length) b

theorem length_chunk (lead : UInt8) (b : Bytes) : (chunk lead b).2.length ≤ b.length := by
  unfold chunk
  split
  · simp
  · exact length_follow _ _ _

def chunks : Bytes → List (Option Char)
  | [] => []
  | lead :: b => (chunk lead b).1 :: chunks (chunk lead b).2
termination_by b => b.length
decreasing_by
  have h := length_chunk lead b
  simp only [List.length_cons]
  omega

def lossy (b : Bytes) : List Char := (chunks b).map fun c => c.getD (Char.ofNat 0xFFFD)

def ofUtf8? (b : Bytes) : Option (List Char) := (chunks b).mapM id

/-! Places in a text are counted in bytes. -/

/-- What stands in front of a place, if the text reaches to there and no character stands across it. -/
def frontTo? (place : Nat) (s : List Char) : Option (List Char) :=
  if place ≤ (utf8 s).length then ofUtf8? ((utf8 s).take place) else none

/-- The places where pieces start, the first at the given one, with a byte between one piece and the next. -/
def starts (place : Nat) : List (List Char) → List Nat
  | [] => []
  | piece :: rest => place :: starts (place + utf8Size piece + 1) rest

end IdentityDirectory.Text
