/-!
Rows in ascending order of a key, each key once.
-/
namespace IdentityDirectory.Rows

variable {α : Type} (key : α → Nat)

def insert (x : α) : List α → List α
  | [] => [x]
  | y :: ys =>
    if key x < key y then x :: y :: ys
    else if key x = key y then x :: ys
    else y :: insert x ys

def erase (k : Nat) (xs : List α) : List α := xs.filter fun x => key x ≠ k

def find? (k : Nat) (xs : List α) : Option α := xs.find? fun x => key x = k

/-- All rows of a list; of rows with one key the last stays. -/
def ofList (xs : List α) : List α := xs.foldl (fun rows x => insert key x rows) []

def page (offset limit : Nat) (xs : List α) : List α := (xs.drop offset).take limit

def IsAscending (xs : List α) : Prop := xs.Pairwise fun x y => key x < key y

theorem mem_insert {x z : α} {ys : List α} (h : z ∈ insert key x ys) : z = x ∨ z ∈ ys := by
  induction ys with
  | nil => simpa [insert] using h
  | cons y ys ih =>
    simp only [insert] at h
    split at h
    · simpa using h
    · split at h
      · rcases List.mem_cons.mp h with rfl | h
        · exact Or.inl rfl
        · exact Or.inr (List.mem_cons_of_mem _ h)
      · rcases List.mem_cons.mp h with rfl | h
        · exact Or.inr List.mem_cons_self
        · exact (ih h).imp id (List.mem_cons_of_mem _)

theorem isAscending_insert (x : α) {ys : List α} (h : IsAscending key ys) :
    IsAscending key (insert key x ys) := by
  induction ys with
  | nil => simp [insert, IsAscending]
  | cons y ys ih =>
    obtain ⟨below, rest⟩ := List.pairwise_cons.mp h
    simp only [insert]
    split
    · rename_i lt
      refine List.pairwise_cons.mpr ⟨?_, h⟩
      intro z hz
      rcases List.mem_cons.mp hz with rfl | hz
      · exact lt
      · exact Nat.lt_trans lt (below z hz)
    · split
      · rename_i eq
        exact List.pairwise_cons.mpr ⟨fun z hz => eq ▸ below z hz, rest⟩
      · rename_i ge ne
        refine List.pairwise_cons.mpr ⟨?_, ih rest⟩
        intro z hz
        rcases mem_insert key hz with rfl | hz
        · omega
        · exact below z hz

end IdentityDirectory.Rows
