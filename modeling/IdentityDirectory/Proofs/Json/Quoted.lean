import IdentityDirectory.Json.Quoted
import IdentityDirectory.Proofs.Text.Digits
/-!
Quoted strings are read back. Each character gives one piece, a unit if it was written by its number.
-/
namespace IdentityDirectory.Json
open Text

/-- What a written character is read as, before the pieces are joined. -/
def piece (c : Char) : Piece :=
  if c.toNat < 0x20 ∧ c ∉ ['\x08', '\x0c', '\n', '\r', '\t'] then .unit c.toNat else .char c

theorem hex4_lower {v : Nat} (word : v < 65536) :
    ∃ a b c d, lower (hexFixed 4 v) = [a, b, c, d] ∧ hex4 a b c d = some v := by
  have digit (n : Nat) : digitOf 16 (hexDigit (n % 16)).toLower = some (n % 16) :=
    digitOf_lower_hexDigit _ (Nat.mod_lt _ (by decide))
  refine ⟨_, _, _, _, rfl, ?_⟩
  simp only [hex4, digit, shiftRight_digits, bind, Option.bind, pure]
  congr 1
  omega

theorem scanPieces_escape (c : Char) (s : List Char) :
    scanPieces (escape c ++ s) = (scanPieces s).map fun r => (piece c :: r.1, r.2) := by
  unfold escape
  split_ifs with quote backslash b f n r t control
  · subst quote
    cases rest : scanPieces s <;> simp [scanPieces, unescape, rest, piece]
  · subst backslash
    cases rest : scanPieces s <;> simp [scanPieces, unescape, rest, piece]
  · subst b
    cases rest : scanPieces s <;> simp [scanPieces, unescape, rest, piece]
  · subst f
    cases rest : scanPieces s <;> simp [scanPieces, unescape, rest, piece]
  · subst n
    cases rest : scanPieces s <;> simp [scanPieces, unescape, rest, piece]
  · subst r
    cases rest : scanPieces s <;> simp [scanPieces, unescape, rest, piece]
  · subst t
    cases rest : scanPieces s <;> simp [scanPieces, unescape, rest, piece]
  · obtain ⟨w, x, y, z, shape, read⟩ := hex4_lower (v := c.toNat) (by omega)
    have unit : piece c = .unit c.toNat := by
      have free : c ∉ ['\x08', '\x0c', '\n', '\r', '\t'] := by simp [b, f, n, r, t]
      rw [piece, if_pos ⟨control, free⟩]
    have digits : (hexFixed 4 c.toNat).map Char.toLower = [w, x, y, z] := shape
    rw [digits, unit]
    cases rest : scanPieces s <;> simp [scanPieces, read, rest]
  · have char : piece c = .char c := by rw [piece, if_neg fun h => control h.1]
    rw [char, List.cons_append, List.nil_append, scanPieces.eq_def]
    split
    · simp_all
    · simp_all
    · simp_all
    · simp_all
    · rename_i same
      obtain ⟨rfl, rfl⟩ := List.cons.inj same
      rw [if_neg control]
      cases scanPieces s <;> rfl

theorem scanPieces_quoted (s rest : List Char) :
    scanPieces (s.flatMap escape ++ '\x22' :: rest) = some (s.map piece, rest) := by
  induction s with
  | nil => rfl
  | cons c s ih =>
    rw [List.flatMap_cons, List.append_assoc, scanPieces_escape, ih]
    rfl

theorem joinPieces_unit {u : Nat} (small : u < 0x20) (ps : List Piece) :
    joinPieces (.unit u :: ps) = (joinPieces ps).map (Char.ofNat u :: ·) := by
  have low : isLow u = false := by
    simp only [isLow, Bool.and_eq_false_iff, decide_eq_false_iff_not]
    omega
  have high : isHigh u = false := by
    simp only [isHigh, Bool.and_eq_false_iff, decide_eq_false_iff_not]
    omega
  cases ps with
  | nil => simp [joinPieces, low, high]
  | cons p ps => cases p <;> simp [joinPieces, low, high]

theorem joinPieces_map_piece (s : List Char) : joinPieces (s.map piece) = some s := by
  induction s with
  | nil => rfl
  | cons c s ih =>
    rw [List.map_cons, piece]
    split
    · rename_i numbered
      rw [joinPieces_unit numbered.1, ih, Option.map_some, Char.ofNat_toNat]
    · rw [joinPieces, ih]
      rfl

end IdentityDirectory.Json
