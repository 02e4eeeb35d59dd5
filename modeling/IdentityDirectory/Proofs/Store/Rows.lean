import IdentityDirectory.Store.Rows
/-!
Rows in ascending order. They hold at most one row for a key, so what is found under a key says all there
is to say about them.
-/
namespace IdentityDirectory.Rows

variable {α : Type} (key : α → Nat)

theorem length_page_le (offset limit : Nat) (xs : List α) :
    (page offset limit xs).length ≤ limit := by
  unfold page
  exact List.length_take_le _ _

theorem page_subset (offset limit : Nat) (xs : List α) : page offset limit xs ⊆ xs :=
  List.Subset.trans (List.take_subset limit _) (List.drop_subset offset xs)

@[simp] theorem find?_nil (k : Nat) : find? key k [] = none := rfl

theorem find?_cons (k : Nat) (x : α) (xs : List α) :
    find? key k (x :: xs) = if key x = k then some x else find? key k xs := by
  by_cases here : key x = k <;> simp [find?, here]

theorem erase_cons (k : Nat) (x : α) (xs : List α) :
    erase key k (x :: xs) = if key x = k then erase key k xs else x :: erase key k xs := by
  by_cases here : key x = k <;> simp [erase, here]

theorem find?_insert (k : Nat) (x : α) (ys : List α) :
    find? key k (insert key x ys) = if key x = k then some x else find? key k ys := by
  induction ys with
  | nil => simp only [insert, find?_cons]
  | cons y ys ih =>
    unfold insert
    split
    · rw [find?_cons]
    · split
      · rename_i same
        rw [find?_cons, find?_cons, ← same]
        split <;> rfl
      · rename_i other
        rw [find?_cons, find?_cons, ih]
        by_cases here : key y = k
        · have away : ¬ key x = k := by omega
          simp only [here, away, ↓reduceIte]
        · simp only [here, ↓reduceIte]

theorem find?_erase (k gone : Nat) (xs : List α) :
    find? key k (erase key gone xs) = if k = gone then none else find? key k xs := by
  induction xs with
  | nil => simp [erase]
  | cons x xs ih =>
    rw [erase_cons, find?_cons]
    by_cases away : key x = gone
    · rw [if_pos away, ih]
      by_cases same : k = gone
      · simp only [same, ↓reduceIte]
      · have other : ¬ key x = k := by omega
        simp only [same, other, ↓reduceIte]
    · rw [if_neg away, find?_cons, ih]
      by_cases here : key x = k
      · have kept : ¬ k = gone := by omega
        simp only [here, kept, ↓reduceIte]
      · simp only [here, ↓reduceIte]

variable {key}

theorem mem_of_find? {k : Nat} {x : α} {xs : List α} (h : find? key k xs = some x) :
    x ∈ xs ∧ key x = k := by
  have there := List.find?_some h
  exact ⟨List.mem_of_find?_eq_some h, of_decide_eq_true there⟩

theorem find?_eq_some_iff {k : Nat} {x : α} {xs : List α} (h : IsAscending key xs) :
    find? key k xs = some x ↔ x ∈ xs ∧ key x = k := by
  constructor
  · exact mem_of_find?
  · rintro ⟨member, rfl⟩
    induction xs with
    | nil => contradiction
    | cons y ys ih =>
      obtain ⟨below, rest⟩ := List.pairwise_cons.mp h
      rcases List.mem_cons.mp member with rfl | behind
      · rw [find?_cons, if_pos rfl]
      · have lower := below x behind
        have other : ¬ key y = key x := by omega
        rw [find?_cons, if_neg other, ih rest behind]

theorem key_le_of_find? {p : α → Bool} {x y : α} {xs : List α} (h : IsAscending key xs)
    (found : xs.find? p = some x) (member : y ∈ xs) (like : p y = true) : key x ≤ key y := by
  obtain ⟨-, before, after, rfl, skipped⟩ := List.find?_eq_some_iff_append.mp found
  rcases List.mem_append.mp member with ahead | rest
  · have unlike := skipped y ahead
    simp [like] at unlike
  · obtain ⟨-, ordered, -⟩ := List.pairwise_append.mp h
    rcases List.mem_cons.mp rest with rfl | behind
    · exact Nat.le_refl _
    · exact Nat.le_of_lt ((List.pairwise_cons.mp ordered).1 y behind)

theorem nodup_keys {xs : List α} (h : IsAscending key xs) : (xs.map key).Nodup := by
  refine List.Pairwise.map key ?_ h
  intro x y below
  exact Nat.ne_of_lt below

theorem pairwise_keys {xs : List α} (h : IsAscending key xs) :
    (xs.map key).Pairwise (fun a c => a ≤ c) := by
  refine List.Pairwise.map key ?_ h
  intro x y below
  exact Nat.le_of_lt below

/-- An inserted row takes the place of the one with its key, and all others stay. -/
theorem mem_insert_iff {x z : α} {ys : List α} (h : IsAscending key ys) :
    z ∈ insert key x ys ↔ z = x ∨ z ∈ ys ∧ key z ≠ key x := by
  have here := find?_eq_some_iff (k := key z) (x := z) (isAscending_insert key x h)
  have there := find?_eq_some_iff (k := key z) (x := z) h
  rw [find?_insert] at here
  by_cases same : key x = key z
  · simp only [same, ↓reduceIte, Option.some.injEq, and_true] at here
    simp [← here, same, eq_comm]
  · have other : ¬ key z = key x := fun eq => same eq.symm
    have distinct : z ≠ x := fun eq => other (congrArg key eq)
    simp only [same, ↓reduceIte, and_true] at here there
    simp [← here, there, other, distinct]

theorem find?_eq_none_of_lt {k : Nat} {y : α} {ys : List α} (h : IsAscending key (y :: ys))
    (below : k < key y) : find? key k (y :: ys) = none := by
  rw [find?, List.find?_eq_none]
  intro z member
  have above : key y ≤ key z := by
    rcases List.mem_cons.mp member with rfl | behind
    · exact Nat.le_refl _
    · exact Nat.le_of_lt ((List.pairwise_cons.mp h).1 z behind)
  simp only [decide_eq_true_eq]
  omega

theorem length_insert {x : α} {ys : List α} (h : IsAscending key ys) :
    (insert key x ys).length =
      if (find? key (key x) ys).isSome then ys.length else ys.length + 1 := by
  induction ys with
  | nil => rfl
  | cons y ys ih =>
    unfold insert
    split
    · rename_i below
      rw [find?_eq_none_of_lt h below]
      rfl
    · split
      · rename_i same
        rw [find?_cons, if_pos same.symm]
        rfl
      · rename_i other
        have away : ¬ key y = key x := fun eq => other eq.symm
        rw [find?_cons, if_neg away, List.length_cons, ih (List.pairwise_cons.mp h).2]
        split <;> rfl

theorem isAscending_erase (k : Nat) {xs : List α} (h : IsAscending key xs) :
    IsAscending key (erase key k xs) :=
  List.Pairwise.filter _ h

theorem isAscending_ofList (xs : List α) : IsAscending key (ofList key xs) := by
  have fold (ys : List α) (h : IsAscending key ys) :
      IsAscending key (xs.foldl (fun rows x => insert key x rows) ys) := by
    induction xs generalizing ys with
    | nil => exact h
    | cons x xs ih => exact ih (insert key x ys) (isAscending_insert key x h)
  exact fold [] List.Pairwise.nil

theorem erase_of_mem {x : α} {xs : List α} (h : IsAscending key xs) (member : x ∈ xs) :
    ∃ before after, xs = before ++ x :: after ∧ erase key (key x) xs = before ++ after := by
  obtain ⟨before, after, rfl⟩ := List.append_of_mem member
  obtain ⟨-, behind, across⟩ := List.pairwise_append.mp h
  refine ⟨before, after, rfl, ?_⟩
  have front : erase key (key x) before = before := by
    apply List.filter_eq_self.mpr
    intro y hy
    have lower := across y hy x List.mem_cons_self
    exact decide_eq_true (by omega)
  have back : erase key (key x) after = after := by
    apply List.filter_eq_self.mpr
    intro y hy
    have lower := (List.pairwise_cons.mp behind).1 y hy
    exact decide_eq_true (by omega)
  have middle : erase key (key x) (x :: after) = erase key (key x) after := by
    rw [erase_cons, if_pos rfl]
  unfold erase at front back middle ⊢
  rw [List.filter_append, middle, front, back]

end IdentityDirectory.Rows
