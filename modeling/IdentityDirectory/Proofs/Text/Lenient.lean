import IdentityDirectory.Proofs.Text.Utf8
/-!
Lenient reading of bytes that are not text throughout. Where no character begins, the longest start of a
character that stands there is broken, or a byte alone if it starts none, and becomes the replacement
character. All bytes have one lenient reading, the one that the reader by chunks gives.
-/
namespace IdentityDirectory.Text

def Begins (b : Bytes) : Prop := ∃ v tail, Spells v (b ++ tail)

/-- A part is broken in front of a rest: no character begins there, and the part is the longest start of one
or a byte alone. -/
structure Broken (part rest : Bytes) : Prop where
  present : part ≠ []
  unspelled : ∀ v b, Spells v b → ¬ b <+: part ++ rest
  start : Begins part ∨ part.length = 1
  longest : ∀ longer, longer <+: part ++ rest → part.length < longer.length → ¬ Begins longer

inductive Lenient : Bytes → List Char → Prop where
  | nil : Lenient [] []
  | char {v : Nat} {b rest : Bytes} {s : List Char} (spelled : Spells v b) (behind : Lenient rest s) :
      Lenient (b ++ rest) (Char.ofNat v :: s)
  | broken {part rest : Bytes} {s : List Char} (broken : Broken part rest) (behind : Lenient rest s) :
      Lenient (part ++ rest) (Char.ofNat 0xFFFD :: s)

/-! The table of followers says what a character begins with. -/

def Keep : List (UInt8 × UInt8) → Bytes → Prop
  | _, [] => True
  | [], _ :: _ => False
  | r :: rs, x :: b => (r.1 ≤ x ∧ x ≤ r.2) ∧ Keep rs b

theorem keep_of_append {rs : List (UInt8 × UInt8)} {b c : Bytes} (keep : Keep rs (b ++ c)) : Keep rs b := by
  induction b generalizing rs with
  | nil => cases rs <;> trivial
  | cons x b ih =>
    cases rs with
    | nil => exact keep.elim
    | cons r rs => exact ⟨keep.1, ih keep.2⟩

theorem exists_keep {rs : List (UInt8 × UInt8)} {b : Bytes} (proper : ∀ r ∈ rs, r.1 ≤ r.2)
    (keep : Keep rs b) : ∃ tail, Keep rs (b ++ tail) ∧ (b ++ tail).length = rs.length := by
  induction rs generalizing b with
  | nil =>
    cases b with
    | nil => exact ⟨[], keep, rfl⟩
    | cons x b => exact keep.elim
  | cons r rs ih =>
    obtain ⟨first, others⟩ := List.forall_mem_cons.mp proper
    cases b with
    | nil =>
      obtain ⟨tail, kept, size⟩ := ih (b := []) others (by cases rs <;> trivial)
      exact ⟨r.1 :: tail, ⟨⟨UInt8.le_refl _, first⟩, kept⟩, congrArg (· + 1) size⟩
    | cons x b =>
      obtain ⟨tail, kept, size⟩ := ih others keep.2
      exact ⟨tail, ⟨keep.1, kept⟩, congrArg (· + 1) size⟩

theorem follow_whole_iff {rs : List (UInt8 × UInt8)} {v : Nat} {b : Bytes} :
    (∃ c, follow rs v b = (some c, [])) ↔ Keep rs b ∧ b.length = rs.length := by
  induction rs generalizing v b with
  | nil => cases b <;> simp [follow, Keep]
  | cons r rs ih =>
    cases b with
    | nil => simp [follow]
    | cons x b =>
      by_cases within : r.1 ≤ x ∧ x ≤ r.2
      · rw [List.length_cons, List.length_cons, Nat.add_right_cancel_iff]
        simp only [follow, if_pos within]
        exact ih.trans (and_congr_left fun _ => (and_iff_right within).symm)
      · simp [follow, Keep, within]

theorem follow_eq_none {rs : List (UInt8 × UInt8)} {v : Nat} {b rest : Bytes}
    (stopped : follow rs v b = (none, rest)) :
    ∃ taken, b = taken ++ rest ∧ Keep rs taken ∧
      ∀ longer, longer <+: b → taken.length < longer.length → ¬ Keep rs longer := by
  induction rs generalizing v b with
  | nil => simp [follow] at stopped
  | cons r rs ih =>
    cases b with
    | nil =>
      simp only [follow, Prod.mk.injEq, true_and] at stopped
      refine ⟨[], stopped, trivial, fun longer front more => ?_⟩
      rw [List.prefix_nil.mp front] at more
      contradiction
    | cons x b =>
      simp only [follow] at stopped
      split at stopped
      · rename_i within
        obtain ⟨taken, rfl, keep, most⟩ := ih stopped
        refine ⟨x :: taken, rfl, ⟨within, keep⟩, fun longer front more kept => ?_⟩
        cases longer with
        | nil => contradiction
        | cons y longer =>
          exact most longer (List.cons_prefix_cons.mp front).2 (Nat.lt_of_succ_lt_succ more) kept.2
      · rename_i outside
        simp only [Prod.mk.injEq, true_and] at stopped
        refine ⟨[], stopped, trivial, fun longer front more kept => ?_⟩
        cases longer with
        | nil => contradiction
        | cons y longer =>
          obtain ⟨rfl, -⟩ := List.cons_prefix_cons.mp front
          exact outside kept.1

theorem followers_proper (lead : UInt8) : ∀ rs ∈ followers lead, ∀ r ∈ rs, r.1 ≤ r.2 := by
  have row {rs : List (UInt8 × UInt8)} (proper : rs.all (fun r => r.1 ≤ r.2) = true) :
      ∀ qs ∈ some rs, ∀ r ∈ qs, r.1 ≤ r.2 := by
    intro qs same r member
    obtain rfl := Option.mem_some_iff.mp same
    exact of_decide_eq_true (List.all_eq_true.mp proper r member)
  have refused : ∀ qs ∈ (none : Option (List (UInt8 × UInt8))), ∀ r ∈ qs, r.1 ≤ r.2 := nofun
  have either {c : Prop} [Decidable c] {a b : Option (List (UInt8 × UInt8))}
      (first : ∀ qs ∈ a, ∀ r ∈ qs, r.1 ≤ r.2) (second : ∀ qs ∈ b, ∀ r ∈ qs, r.1 ≤ r.2) :
      ∀ qs ∈ (if c then a else b), ∀ r ∈ qs, r.1 ≤ r.2 := by
    split
    · exact first
    · exact second
  -- the rows of the table, from the top
  exact either (row rfl) (either refused (either (row rfl) (either (row rfl) (either (row rfl)
    (either (row rfl) (either (row rfl) (either (row rfl) (either (row rfl) refused))))))))

theorem spells_iff {lead : UInt8} {tail : Bytes} :
    (∃ v, Spells v (lead :: tail)) ↔
      ∃ rs, followers lead = some rs ∧ Keep rs tail ∧ tail.length = rs.length := by
  constructor
  · rintro ⟨v, spelled⟩
    have read := chunk_of_spells spelled []
    rw [List.append_nil, chunk] at read
    cases known : followers lead with
    | none => simp [known] at read
    | some rs =>
      simp only [known] at read
      exact ⟨rs, rfl, follow_whole_iff.mp ⟨_, read⟩⟩
  · rintro ⟨rs, known, whole⟩
    obtain ⟨c, read⟩ := follow_whole_iff (v := leadBits lead rs.length) |>.mpr whole
    have chunked : chunk lead tail = (some c, []) := by rw [chunk, known, ← read]
    have bytes := chunk_eq_some chunked
    rw [List.append_nil] at bytes
    exact ⟨_, bytes ▸ spells_encodeChar c⟩

theorem begins_cons_iff {lead : UInt8} {part : Bytes} :
    Begins (lead :: part) ↔ ∃ rs, followers lead = some rs ∧ Keep rs part := by
  constructor
  · rintro ⟨v, tail, spelled⟩
    obtain ⟨rs, known, keep, -⟩ := spells_iff.mp ⟨v, spelled⟩
    exact ⟨rs, known, keep_of_append keep⟩
  · rintro ⟨rs, known, keep⟩
    obtain ⟨tail, kept, size⟩ := exists_keep (followers_proper lead rs known) keep
    obtain ⟨v, spelled⟩ := spells_iff.mpr ⟨rs, known, kept, size⟩
    exact ⟨v, tail, spelled⟩

/-! The broken chunks are the broken parts. -/

theorem unspelled_of_chunk {lead : UInt8} {b rest : Bytes} (stopped : chunk lead b = (none, rest)) {v : Nat}
    {s : Bytes} (spelled : Spells v s) : ¬ s <+: lead :: b := by
  rintro ⟨behind, whole⟩
  cases s with
  | nil => exact spelled.ne_nil rfl
  | cons x tail =>
    rw [List.cons_append] at whole
    obtain ⟨rfl, rfl⟩ := List.cons.inj whole
    rw [chunk_of_spells spelled] at stopped
    cases stopped

theorem broken_of_chunk {lead : UInt8} {b rest : Bytes} (stopped : chunk lead b = (none, rest)) :
    ∃ part, lead :: b = part ++ rest ∧ Broken part rest := by
  have unspelled {v : Nat} {s : Bytes} := @unspelled_of_chunk lead b rest stopped v s
  rw [chunk] at stopped
  cases known : followers lead with
  | none =>
    simp only [known, Prod.mk.injEq, true_and] at stopped
    obtain rfl := stopped
    refine ⟨[lead], rfl, List.cons_ne_nil _ _, fun v s => unspelled, .inr rfl, ?_⟩
    intro longer front more begins
    cases longer with
    | nil => contradiction
    | cons x longer =>
      obtain ⟨rfl, -⟩ := List.cons_prefix_cons.mp front
      obtain ⟨rs, there, -⟩ := begins_cons_iff.mp begins
      rw [known] at there
      contradiction
  | some rs =>
    simp only [known] at stopped
    obtain ⟨taken, rfl, keep, most⟩ := follow_eq_none stopped
    refine ⟨lead :: taken, rfl, List.cons_ne_nil _ _, fun v s => unspelled,
      .inl (begins_cons_iff.mpr ⟨rs, known, keep⟩), ?_⟩
    intro longer front more begins
    cases longer with
    | nil => contradiction
    | cons x longer =>
      obtain ⟨rfl, shorter⟩ := List.cons_prefix_cons.mp front
      obtain ⟨_, there, kept⟩ := begins_cons_iff.mp begins
      obtain rfl := Option.some.inj (known.symm.trans there)
      exact most longer shorter (Nat.lt_of_succ_lt_succ more) kept

theorem Broken.length_le {part rest other behind : Bytes} (broken : Broken part rest)
    (second : Broken other behind) (whole : part ++ rest = other ++ behind) :
    other.length ≤ part.length := by
  have some_byte := List.length_pos_iff.mpr broken.present
  rcases second.start with begins | alone
  · refine Nat.le_of_not_lt fun more => ?_
    exact broken.longest other ⟨behind, whole.symm⟩ more begins
  · omega

theorem Broken.unique {part rest other behind : Bytes} (broken : Broken part rest)
    (second : Broken other behind) (whole : part ++ rest = other ++ behind) :
    part = other ∧ rest = behind :=
  List.append_inj whole
    (Nat.le_antisymm (second.length_le broken whole.symm) (broken.length_le second whole))

theorem lossy_cons (lead : UInt8) (b : Bytes) :
    lossy (lead :: b) = (chunk lead b).1.getD (Char.ofNat 0xFFFD) :: lossy (chunk lead b).2 := by
  rw [lossy, chunks, List.map_cons]
  rfl

theorem lenient_lossy (b : Bytes) : Lenient b (lossy b) := by
  induction b using chunks.induct with
  | case1 =>
    rw [lossy, chunks]
    exact .nil
  | case2 lead b ih =>
    rw [lossy_cons]
    cases read : chunk lead b with
    | mk found rest =>
      rw [read] at ih
      cases found with
      | some c =>
        have first := Lenient.char (spells_encodeChar c) ih
        rwa [Char.ofNat_toNat, ← chunk_eq_some read] at first
      | none =>
        obtain ⟨part, whole, broken⟩ := broken_of_chunk read
        rw [whole]
        exact .broken broken ih

theorem Lenient.eq_lossy {b : Bytes} {s : List Char} (read : Lenient b s) : s = lossy b := by
  induction read with
  | nil => rw [lossy, chunks]; rfl
  | @char v b rest s spelled behind ih =>
    cases b with
    | nil => exact absurd rfl spelled.ne_nil
    | cons lead tail => rw [List.cons_append, lossy_cons, chunk_of_spells spelled, ih]; rfl
  | @broken part rest s broken behind ih =>
    cases part with
    | nil => exact absurd rfl broken.present
    | cons lead tail =>
      rw [List.cons_append, lossy_cons]
      cases read : chunk lead (tail ++ rest) with
      | mk found after =>
        cases found with
        | some c =>
          exact absurd ⟨after, (chunk_eq_some read).symm⟩ (broken.unspelled _ _ (spells_encodeChar c))
        | none =>
          obtain ⟨part, whole, second⟩ := broken_of_chunk read
          obtain ⟨-, rfl⟩ := broken.unique second whole
          rw [ih]
          rfl

/-- The reader by chunks gives the lenient reading, the only one there is. -/
theorem lenient_iff {b : Bytes} {s : List Char} : Lenient b s ↔ s = lossy b :=
  ⟨Lenient.eq_lossy, fun same => same ▸ lenient_lossy b⟩

end IdentityDirectory.Text
