import Mathlib.Data.List.Basic
import IdentityDirectory.Proofs.Text.Pieces
import IdentityDirectory.Proofs.Text.Utf8
/-!
Places in a text, counted in bytes. A text can be cut at a place between two characters and at its ends. The
pieces between separators start behind such places, one byte for the separator.
-/
namespace IdentityDirectory.Text

theorem frontTo?_eq_some_iff {place : Nat} {s front : List Char} :
    frontTo? place s = some front ↔ ∃ behind, s = front ++ behind ∧ utf8Size front = place := by
  unfold frontTo?
  constructor
  · intro cut
    split at cut
    · rename_i within
      have bytes : (utf8 s).take place = utf8 front := ofUtf8?_eq_some_iff.mp cut
      -- the chunks of all the bytes are characters, and those of the front come first
      have chunked : s.map some = front.map some ++ chunks ((utf8 s).drop place) := by
        rw [← chunks_utf8_append, ← bytes, List.take_append_drop, chunks_utf8]
      obtain ⟨first, behind, whole, same, -⟩ := List.map_eq_append_iff.mp chunked
      obtain rfl : first = front := (List.map_injective_iff.mpr fun _ _ => Option.some.inj) same
      refine ⟨behind, whole, ?_⟩
      rw [← length_utf8, ← bytes, List.length_take, Nat.min_eq_left within]
    · contradiction
  · rintro ⟨behind, rfl, rfl⟩
    rw [← length_utf8, utf8_append, List.length_append, if_pos (Nat.le_add_right _ _), List.take_left,
      ofUtf8?_utf8]

theorem length_starts (place : Nat) (pieces : List (List Char)) :
    (starts place pieces).length = pieces.length := by
  induction pieces generalizing place with
  | nil => rfl
  | cons piece rest ih => rw [starts, List.length_cons, ih, List.length_cons]

theorem utf8Size_append (s t : List Char) : utf8Size (s ++ t) = utf8Size s + utf8Size t := by
  rw [← length_utf8, utf8_append, List.length_append, length_utf8, length_utf8]

section
variable {sep : Char} (narrow : sep.utf8Size = 1)
include narrow

theorem starts_cons (before piece : List Char) (rest : List (List Char)) :
    starts (utf8Size before + 1) (piece :: rest) =
      (utf8Size before + 1) :: starts (utf8Size (before ++ sep :: piece) + 1) rest := by
  have one : utf8Size [sep] = 1 := by rw [utf8Size, List.foldl_cons, List.foldl_nil, narrow]
  have next : utf8Size (before ++ sep :: piece) = utf8Size before + 1 + utf8Size piece := by
    rw [← List.singleton_append, utf8Size_append, utf8Size_append, one, Nat.add_assoc]
  rw [starts, next]

theorem drop_starts (before : List Char) (front rest : List (List Char)) :
    (starts (utf8Size before + 1) (front ++ rest)).drop front.length =
      starts (utf8Size (before ++ front.flatMap (sep :: ·)) + 1) rest := by
  induction front generalizing before with
  | nil => rw [List.flatMap_nil, List.append_nil]; rfl
  | cons piece front ih =>
    rw [List.cons_append, starts_cons narrow, List.length_cons, List.drop_succ_cons, ih,
      List.flatMap_cons, List.append_assoc]

theorem drop_starts_zero {front : List (List Char)} (some_piece : front ≠ []) (rest : List (List Char)) :
    (starts 0 (front ++ rest)).drop front.length = starts (utf8Size (join [sep] front) + 1) rest := by
  cases front with
  | nil => contradiction
  | cons piece front =>
    rw [List.cons_append, starts, List.length_cons, List.drop_succ_cons, Nat.zero_add,
      drop_starts narrow, join_cons]

/-- Every piece but the first starts one byte behind a place where the text can be cut, and what stands in
front of that place is the pieces in front. -/
theorem frontTo?_start {pieces : List (List Char)} {i start : Nat} (later : 0 < i)
    (known : (starts 0 pieces)[i]? = some start) :
    ∃ place, start = place + 1 ∧
      frontTo? place (join [sep] pieces) = some (join [sep] (pieces.take i)) := by
  have within : i < pieces.length := by
    have inside := (List.getElem?_eq_some_iff.mp known).1
    rwa [length_starts] at inside
  have size : (pieces.take i).length = i := List.length_take_of_le (Nat.le_of_lt within)
  have some_piece : pieces.take i ≠ [] := by
    rw [← List.length_pos_iff, size]
    exact later
  have behind := drop_starts_zero narrow some_piece (pieces.drop i)
  rw [List.take_append_drop, size, List.drop_eq_getElem_cons within, starts] at behind
  have first : start = utf8Size (join [sep] (pieces.take i)) + 1 := by
    have head := congrArg (·[0]?) behind
    simp only [List.getElem?_drop, Nat.add_zero, List.getElem?_cons_zero, known] at head
    exact Option.some.inj head
  refine ⟨_, first, frontTo?_eq_some_iff.mpr ⟨(pieces.drop i).flatMap (sep :: ·), ?_, rfl⟩⟩
  rw [← join_append sep some_piece, List.take_append_drop]

end

end IdentityDirectory.Text
