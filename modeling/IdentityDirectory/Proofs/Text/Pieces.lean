import IdentityDirectory.Text.Basic
/-!
Cutting a text at a separator and joining the pieces again.
-/
namespace IdentityDirectory.Text

theorem splitOn_ne_nil (sep : Char) (s : List Char) : splitOn sep s ≠ [] := by
  cases s with
  | nil => exact List.cons_ne_nil _ _
  | cons c s =>
    unfold splitOn
    split
    · exact List.cons_ne_nil _ _
    · split <;> exact List.cons_ne_nil _ _

theorem splitOn_cons_of_ne {sep c : Char} (other : c ≠ sep) (s : List Char) :
    ∃ piece rest, splitOn sep s = piece :: rest ∧ splitOn sep (c :: s) = (c :: piece) :: rest := by
  cases pieces : splitOn sep s with
  | nil => exact absurd pieces (splitOn_ne_nil sep s)
  | cons piece rest => exact ⟨piece, rest, rfl, by rw [splitOn, if_neg other, pieces]⟩

theorem splitOn_of_free {sep : Char} {s : List Char} (free : sep ∉ s) : splitOn sep s = [s] := by
  induction s with
  | nil => rfl
  | cons c s ih =>
    have other : c ≠ sep := fun same => free (same ▸ List.mem_cons_self)
    obtain ⟨piece, rest, tail, whole⟩ := splitOn_cons_of_ne other s
    rw [ih fun member => free (List.mem_cons_of_mem c member)] at tail
    obtain ⟨rfl, rfl⟩ := List.cons.inj tail
    exact whole

theorem splitOn_append_sep (sep : Char) (a b : List Char) :
    splitOn sep (a ++ sep :: b) = splitOn sep a ++ splitOn sep b := by
  induction a with
  | nil =>
    have first : splitOn sep (sep :: b) = [] :: splitOn sep b := by rw [splitOn, if_pos rfl]
    exact first
  | cons c a ih =>
    by_cases here : c = sep
    · rw [List.cons_append, splitOn, if_pos here, ih, splitOn, if_pos here, List.cons_append]
    · obtain ⟨piece, rest, tail, whole⟩ := splitOn_cons_of_ne here a
      rw [List.cons_append, splitOn, if_neg here, ih, tail, whole, List.cons_append, List.cons_append]

theorem splitOn_append {sep : Char} {a : List Char} (free : sep ∉ a) (b : List Char) :
    splitOn sep (a ++ sep :: b) = a :: splitOn sep b := by
  rw [splitOn_append_sep, splitOn_of_free free, List.singleton_append]

/-- What is put behind a text, if it has no separator in it, goes to the last piece. -/
theorem splitOn_append_last {sep : Char} (s : List Char) {t : List Char} (free : sep ∉ t) :
    ∃ front last, splitOn sep s = front ++ [last] ∧ splitOn sep (s ++ t) = front ++ [last ++ t] := by
  induction s with
  | nil => exact ⟨[], [], rfl, splitOn_of_free free⟩
  | cons c s ih =>
    obtain ⟨front, last, before, behind⟩ := ih
    rw [List.cons_append, splitOn, splitOn]
    by_cases here : c = sep
    · rw [if_pos here, if_pos here, before, behind]
      exact ⟨[] :: front, last, rfl, rfl⟩
    · rw [if_neg here, if_neg here, before, behind]
      cases front with
      | nil => exact ⟨[], c :: last, rfl, rfl⟩
      | cons piece front => exact ⟨(c :: piece) :: front, last, rfl, rfl⟩

theorem join_cons_cons (sep : Char) (piece next : List Char) (pieces : List (List Char)) :
    join [sep] (piece :: next :: pieces) = piece ++ sep :: join [sep] (next :: pieces) := by
  rw [join, List.append_assoc, List.singleton_append]
  exact List.cons_ne_nil _ _

theorem join_cons (sep : Char) (piece : List Char) (pieces : List (List Char)) :
    join [sep] (piece :: pieces) = piece ++ pieces.flatMap (sep :: ·) := by
  induction pieces generalizing piece with
  | nil => simp [join]
  | cons next pieces ih =>
    rw [join_cons_cons, ih, List.flatMap_cons, List.cons_append]

theorem join_append (sep : Char) {front : List (List Char)} (some_piece : front ≠ [])
    (rest : List (List Char)) :
    join [sep] (front ++ rest) = join [sep] front ++ rest.flatMap (sep :: ·) := by
  cases front with
  | nil => contradiction
  | cons piece front =>
    rw [List.cons_append, join_cons, join_cons, List.flatMap_append, List.append_assoc]

theorem join_splitOn (sep : Char) (s : List Char) : join [sep] (splitOn sep s) = s := by
  induction s with
  | nil => rfl
  | cons c s ih =>
    by_cases here : c = sep
    · cases pieces : splitOn sep s with
      | nil => exact absurd pieces (splitOn_ne_nil sep s)
      | cons piece rest =>
        rw [splitOn, if_pos here, pieces, join_cons_cons, ← pieces, ih, List.nil_append, here]
    · obtain ⟨piece, rest, tail, whole⟩ := splitOn_cons_of_ne here s
      rw [tail, join_cons] at ih
      rw [whole, join_cons, List.cons_append, ih]

theorem splitOn_join {sep : Char} {pieces : List (List Char)} (some_piece : pieces ≠ [])
    (free : ∀ piece ∈ pieces, sep ∉ piece) : splitOn sep (join [sep] pieces) = pieces := by
  induction pieces with
  | nil => contradiction
  | cons piece rest ih =>
    have first := free piece List.mem_cons_self
    cases rest with
    | nil => exact splitOn_of_free first
    | cons next rest =>
      have tail := ih (List.cons_ne_nil _ _) fun p member => free p (List.mem_cons_of_mem piece member)
      rw [join_cons_cons, splitOn_append first, tail]

theorem mem_join {sep c : Char} {pieces : List (List Char)} (member : c ∈ join [sep] pieces) :
    c = sep ∨ ∃ piece ∈ pieces, c ∈ piece := by
  induction pieces with
  | nil => contradiction
  | cons piece rest ih =>
    cases rest with
    | nil => exact Or.inr ⟨piece, List.mem_cons_self, member⟩
    | cons next rest =>
      have parts : c ∈ piece ++ [sep] ++ join [sep] (next :: rest) := member
      simp only [List.mem_append, List.mem_singleton] at parts
      rcases parts with (here | same) | behind
      · exact Or.inr ⟨piece, List.mem_cons_self, here⟩
      · exact Or.inl same
      · rcases ih behind with same | ⟨p, there, within⟩
        · exact Or.inl same
        · exact Or.inr ⟨p, List.mem_cons_of_mem piece there, within⟩

end IdentityDirectory.Text
