/-!
Outcomes of calls that can fail: what a result says about the calls it came from, be it one or a list of them.
-/
namespace IdentityDirectory

variable {ε α β : Type}

theorem ok_of_map {f : α → β} {x : Except ε α} {y : β} (h : x.map f = .ok y) :
    ∃ a, x = .ok a ∧ f a = y := by
  cases x with
  | error cause => contradiction
  | ok a => exact ⟨a, rfl, Except.ok.inj h⟩

theorem ok_of_mapError {ε' : Type} {f : ε → ε'} {x : Except ε α} {a : α}
    (h : x.mapError f = .ok a) : x = .ok a := by
  cases x with
  | error cause => contradiction
  | ok b => rw [Except.ok.inj h]

theorem ok_of_toOption {x : Except ε α} {a : α} (h : x.toOption = some a) : x = .ok a := by
  cases x with
  | error cause => contradiction
  | ok b => rw [Option.some.inj h]

def cause? : Except ε α → Option ε
  | .ok _ => none
  | .error cause => some cause

theorem cause?_map (f : α → β) (x : Except ε α) : cause? (x.map f) = cause? x := by
  cases x <;> rfl

theorem mapM_map {γ : Type} {f : α → β} {g : β → Option γ} {h : α → γ} {xs : List α}
    (each : ∀ x ∈ xs, g (f x) = some (h x)) : (xs.map f).mapM g = some (xs.map h) := by
  induction xs with
  | nil => rfl
  | cons x xs ih =>
    have first := each x List.mem_cons_self
    have others := ih fun y inside => each y (List.mem_cons_of_mem x inside)
    simp only [List.map_cons, List.mapM_cons, first, others, Option.bind_eq_bind, Option.bind_some,
      Option.pure_def]

theorem mapM_cons_eq_some {g : α → Option β} {x : α} {xs : List α} {ys : List β} :
    (x :: xs).mapM g = some ys ↔ ∃ y zs, g x = some y ∧ xs.mapM g = some zs ∧ ys = y :: zs := by
  rw [List.mapM_cons]
  cases g x with
  | none => simp
  | some y => cases xs.mapM g <;> simp [eq_comm]

theorem exists_of_mem_mapM {g : α → Option β} {xs : List α} {ys : List β} (read : xs.mapM g = some ys)
    {y : β} (there : y ∈ ys) : ∃ x ∈ xs, g x = some y := by
  induction xs generalizing ys with
  | nil =>
    obtain rfl := Option.some.inj read
    contradiction
  | cons x xs ih =>
    obtain ⟨z, zs, first, others, rfl⟩ := mapM_cons_eq_some.mp read
    rcases List.mem_cons.mp there with rfl | behind
    · exact ⟨x, List.mem_cons_self, first⟩
    · obtain ⟨w, inside, same⟩ := ih others behind
      exact ⟨w, List.mem_cons_of_mem x inside, same⟩

theorem exists_mapM {g : α → Option β} {xs : List α} (each : ∀ x ∈ xs, ∃ y, g x = some y) :
    ∃ ys, xs.mapM g = some ys := by
  induction xs with
  | nil => exact ⟨[], rfl⟩
  | cons x xs ih =>
    obtain ⟨first, others⟩ := List.forall_mem_cons.mp each
    obtain ⟨y, taken⟩ := first
    obtain ⟨ys, rest⟩ := ih others
    exact ⟨y :: ys, mapM_cons_eq_some.mpr ⟨y, ys, taken, rest, rfl⟩⟩

theorem mapM_eq_none_of_mem {g : α → Option β} {xs : List α} {x : α} (there : x ∈ xs)
    (refused : g x = none) : xs.mapM g = none := by
  induction xs with
  | nil => contradiction
  | cons y ys ih =>
    rw [List.mapM_cons]
    rcases List.mem_cons.mp there with rfl | behind
    · rw [refused]
      rfl
    · rw [ih behind]
      cases g y <;> rfl

end IdentityDirectory
