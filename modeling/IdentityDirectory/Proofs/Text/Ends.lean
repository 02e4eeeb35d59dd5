import Mathlib.Data.List.TakeDrop
import Mathlib.Data.List.TakeWhile
import IdentityDirectory.Text.Basic
import IdentityDirectory.Text.Blank
/-!
What is left of a text when its ends are cut off: the front as far as a class of characters goes, blanks on
both sides, or a lead as often as it stands in front. Each is said by what was cut off and by what the rest no
longer starts or ends with.
-/
namespace IdentityDirectory.Text

section
variable {p : Char → Bool} {front rest : List Char} (inside : ∀ c ∈ front, p c = true)
  (boundary : ∀ c ∈ rest.head?, p c = false)
include inside boundary

theorem takeWhile_of_boundary : (front ++ rest).takeWhile p = front := by
  rw [List.takeWhile_append_of_pos inside]
  cases rest with
  | nil => exact List.append_nil front
  | cons c rest =>
    have stop := boundary c rfl
    rw [List.takeWhile_cons_of_neg (by simp [stop]), List.append_nil]

theorem dropWhile_of_boundary : (front ++ rest).dropWhile p = rest := by
  rw [List.dropWhile_append_of_pos inside]
  cases rest with
  | nil => rfl
  | cons c rest =>
    have stop := boundary c rfl
    exact List.dropWhile_cons_of_neg (by simp [stop])

theorem span_of_boundary : (front ++ rest).span p = (front, rest) := by
  rw [List.span_eq_takeWhile_dropWhile, takeWhile_of_boundary inside boundary,
    dropWhile_of_boundary inside boundary]

end

theorem dropWhile_eq_iff {p : Char → Bool} {s t : List Char} :
    s.dropWhile p = t ↔
      ∃ front, s = front ++ t ∧ (∀ c ∈ front, p c = true) ∧ ∀ c ∈ t.head?, p c = false := by
  constructor
  · rintro rfl
    refine ⟨s.takeWhile p, List.takeWhile_append_dropWhile.symm, fun c => List.mem_takeWhile_imp, ?_⟩
    intro c first
    have stop := List.head?_dropWhile_not p s
    rw [Option.mem_def.mp first] at stop
    simpa using stop
  · rintro ⟨front, rfl, inside, boundary⟩
    exact dropWhile_of_boundary inside boundary

theorem trimEnd_eq_iff {s t : List Char} :
    trimEnd s = t ↔ ∃ behind, s = t ++ behind ∧ (∀ c ∈ behind, isBlank c = true) ∧
      ∀ c ∈ t.getLast?, isBlank c = false := by
  rw [trimEnd, List.reverse_eq_iff, dropWhile_eq_iff, List.head?_reverse]
  constructor
  · rintro ⟨front, whole, blanks, last⟩
    refine ⟨front.reverse, ?_, fun c member => blanks c (List.mem_reverse.mp member), last⟩
    rw [List.reverse_eq_iff.mp whole, List.reverse_append, List.reverse_reverse]
  · rintro ⟨behind, rfl, blanks, last⟩
    exact ⟨behind.reverse, List.reverse_append, fun c member => blanks c (List.mem_reverse.mp member),
      last⟩

def Trims (s t : List Char) : Prop :=
  ∃ front behind, s = front ++ t ++ behind ∧ (∀ c ∈ front, isBlank c = true) ∧
    (∀ c ∈ behind, isBlank c = true) ∧ (∀ c ∈ t.head?, isBlank c = false) ∧
    ∀ c ∈ t.getLast?, isBlank c = false

theorem trim_eq_iff {s t : List Char} : trim s = t ↔ Trims s t := by
  constructor
  · intro cut
    obtain ⟨front, whole, blanks, first⟩ := dropWhile_eq_iff.mp (rfl : s.dropWhile isBlank = _)
    obtain ⟨behind, rest, ends, last⟩ := trimEnd_eq_iff.mp cut
    rw [rest] at whole first
    refine ⟨front, behind, ?_, blanks, ends, ?_, last⟩
    · rw [whole, List.append_assoc]
    · intro c head
      apply first
      rw [List.head?_append, Option.mem_def.mp head]
      rfl
  · rintro ⟨front, behind, rfl, blanks, ends, first, last⟩
    rw [trim, List.append_assoc, List.dropWhile_append_of_pos blanks]
    cases t with
    | nil =>
      rw [List.nil_append, List.dropWhile_eq_nil_iff.mpr ends]
      rfl
    | cons c t =>
      have solid := first c rfl
      rw [List.cons_append, List.dropWhile_cons_of_neg (by simp [solid]), ← List.cons_append]
      exact trimEnd_eq_iff.mpr ⟨behind, rfl, ends, last⟩

/-- The second text is the first one without the leads in front of it, however many there are. -/
def Sheds (a b : Char) (s t : List Char) : Prop :=
  ∃ count, s = (List.replicate count [a, b]).flatten ++ t ∧ ¬ [a, b] <+: t

theorem dropLead_lead (a b : Char) (s : List Char) : dropLead a b ([a, b] ++ s) = dropLead a b s := by
  rw [List.cons_append, List.singleton_append, dropLead, if_pos ⟨rfl, rfl⟩]

theorem dropLead_of_free {a b : Char} {s : List Char} (free : ¬ [a, b] <+: s) : dropLead a b s = s := by
  unfold dropLead
  split
  · rename_i x y rest
    rw [if_neg]
    rintro ⟨rfl, rfl⟩
    exact free ⟨rest, rfl⟩
  · rfl

theorem sheds_dropLead (a b : Char) (s : List Char) : Sheds a b s (dropLead a b s) := by
  fun_induction dropLead a b s with
  | case1 s x y here ih =>
    obtain ⟨rfl, rfl⟩ := here
    obtain ⟨count, whole, free⟩ := ih
    refine ⟨count + 1, ?_, free⟩
    rw [List.replicate_succ, List.flatten_cons, List.append_assoc, ← whole]
    rfl
  | case2 s x y other =>
    refine ⟨0, rfl, ?_⟩
    rintro ⟨rest, same⟩
    obtain ⟨rfl, tail⟩ := List.cons.inj same
    obtain ⟨rfl, -⟩ := List.cons.inj tail
    exact other ⟨rfl, rfl⟩
  | case3 s short =>
    refine ⟨0, rfl, ?_⟩
    rintro ⟨rest, rfl⟩
    exact short a b rest rfl

theorem dropLead_eq_iff {a b : Char} {s t : List Char} : dropLead a b s = t ↔ Sheds a b s t := by
  constructor
  · rintro rfl
    exact sheds_dropLead a b s
  · rintro ⟨count, rfl, free⟩
    induction count with
    | zero => exact dropLead_of_free free
    | succ count ih => rwa [List.replicate_succ, List.flatten_cons, List.append_assoc, dropLead_lead]

end IdentityDirectory.Text
