import IdentityDirectory.Proofs.Store.Rows
import Mathlib.Data.Finmap
import Mathlib.Data.Finset.Sort
import Mathlib.Data.List.Find
/-!
Rows seen as a finite map. Rows in order and the map that has the value of each row under its key tell the
same: what is found, how many there are, which come first, and what a page of them holds.
-/
namespace IdentityDirectory.Rows

variable {α β : Type} {key : α → Nat} {value : α → β} {m : Finmap fun _ : Nat => β} {xs : List α}

/-- The map has the value of each row under its key, and nothing else. -/
structure Shown (key : α → Nat) (value : α → β) (m : Finmap fun _ : Nat => β) (xs : List α) : Prop where
  sorted : IsAscending key xs
  entries : ∀ k, m.lookup k = (find? key k xs).map value

theorem shown_empty : Shown key value ∅ [] where
  sorted := List.Pairwise.nil
  entries := fun k => by rw [Finmap.lookup_empty]; rfl

theorem Shown.insert (h : Shown key value m xs) (x : α) :
    Shown key value (m.insert (key x) (value x)) (insert key x xs) where
  sorted := isAscending_insert key x h.sorted
  entries := by
    intro k
    rw [find?_insert]
    by_cases same : key x = k
    · rw [if_pos same, ← same, Finmap.lookup_insert]
      rfl
    · have other : k ≠ key x := fun eq => same eq.symm
      rw [if_neg same, Finmap.lookup_insert_of_ne _ other, h.entries]

theorem Shown.erase (h : Shown key value m xs) (gone : Nat) :
    Shown key value (m.erase gone) (erase key gone xs) where
  sorted := isAscending_erase gone h.sorted
  entries := by
    intro k
    rw [find?_erase]
    by_cases same : k = gone
    · rw [if_pos same, same, Finmap.lookup_erase]
      rfl
    · rw [if_neg same, Finmap.lookup_erase_ne same, h.entries]

theorem Shown.lookup_eq_some (h : Shown key value m xs) {k : Nat} {v : β} :
    m.lookup k = some v ↔ ∃ x ∈ xs, key x = k ∧ value x = v := by
  rw [h.entries, Option.map_eq_some_iff]
  constructor
  · rintro ⟨x, found, same⟩
    obtain ⟨member, here⟩ := mem_of_find? found
    exact ⟨x, member, here, same⟩
  · rintro ⟨x, member, here, same⟩
    exact ⟨x, (find?_eq_some_iff h.sorted).mpr ⟨member, here⟩, same⟩

theorem Shown.lookup_of_mem (h : Shown key value m xs) {x : α} (member : x ∈ xs) :
    m.lookup (key x) = some (value x) :=
  h.lookup_eq_some.mpr ⟨x, member, rfl, rfl⟩

theorem Shown.keys (h : Shown key value m xs) : m.keys = (xs.map key).toFinset := by
  ext k
  rw [Finmap.mem_keys, Finmap.mem_iff, List.mem_toFinset, List.mem_map]
  constructor
  · rintro ⟨v, found⟩
    obtain ⟨x, member, here, -⟩ := h.lookup_eq_some.mp found
    exact ⟨x, member, here⟩
  · rintro ⟨x, member, rfl⟩
    exact ⟨value x, h.lookup_of_mem member⟩

theorem Shown.sort_keys (h : Shown key value m xs) : m.keys.sort (fun a c => a ≤ c) = xs.map key := by
  rw [h.keys]
  exact (List.toFinset_sort _ (nodup_keys h.sorted)).mpr (pairwise_keys h.sorted)

theorem Shown.card_keys (h : Shown key value m xs) : m.keys.card = xs.length := by
  rw [h.keys, List.toFinset_card_of_nodup (nodup_keys h.sorted), List.length_map]

theorem Shown.find?_sort_keys [DecidableEq β] (h : Shown key value m xs) (v : β) :
    ((m.keys.sort fun a c => a ≤ c).find? fun k => m.lookup k = some v) =
      (xs.find? fun x => value x = v).map key := by
  rw [h.sort_keys, List.find?_map]
  apply congrArg (Option.map key)
  apply List.find?_congr
  intro x member
  rw [Function.comp_apply, h.lookup_of_mem member]
  simp only [Option.some.injEq]

theorem Shown.page {γ : Type} (h : Shown key value m xs) (read : Nat → γ) (say : α → γ)
    (same : ∀ x, m.lookup (key x) = some (value x) → read (key x) = say x) (offset count : Nat) :
    (((m.keys.sort fun a c => a ≤ c).drop offset).take count).map read =
      ((xs.drop offset).take count).map say := by
  rw [h.sort_keys, ← List.map_drop, ← List.map_take, List.map_map]
  apply List.map_congr_left
  intro x member
  exact same x (h.lookup_of_mem (List.mem_of_mem_drop (List.mem_of_mem_take member)))

end IdentityDirectory.Rows
