import IdentityDirectory.Proofs.Wire.Fitting
/-!
Truncation as a loop. As long as a response is larger than its capacity, the last of its records is dropped;
with no record left to drop, nothing is sent. The loop ends in the largest front of the response that fits, and
one division by the width of a record finds the same.
-/
namespace IdentityDirectory.Response

def recordWidth (r : Response) : Nat :=
  match r.body with
  | .identityList _ _ => Identity.size
  | .gatewayList _ _ => Gateway.size
  | _ => 0

def offset? (r : Response) : Option UInt32 :=
  match r.body with
  | .operation offset _ _ => some offset
  | .identityList offset _ => some offset
  | .gatewayList offset _ => some offset
  | _ => none

def keep (k : Nat) (r : Response) : Response :=
  match r.body with
  | .identityList offset items => ⟨r.header, .identityList offset (items.take k)⟩
  | .gatewayList offset items => ⟨r.header, .gatewayList offset (items.take k)⟩
  | _ => r

/-- A response differs from another at most by records that are missing at its end. -/
def IsFront (s r : Response) : Prop := ∃ k, s = r.keep k

@[simp] theorem header_keep (k : Nat) (r : Response) : (r.keep k).header = r.header := by
  obtain ⟨h, body⟩ := r
  cases body <;> rfl

@[simp] theorem offset?_keep (k : Nat) (r : Response) : (r.keep k).offset? = r.offset? := by
  obtain ⟨h, body⟩ := r
  cases body <;> rfl

@[simp] theorem leastSize_keep (k : Nat) (r : Response) : (r.keep k).leastSize = r.leastSize := by
  obtain ⟨h, body⟩ := r
  cases body <;> rfl

@[simp] theorem recordWidth_keep (k : Nat) (r : Response) :
    (r.keep k).recordWidth = r.recordWidth := by
  obtain ⟨h, body⟩ := r
  cases body <;> rfl

@[simp] theorem recordCount_keep (k : Nat) (r : Response) :
    (r.keep k).recordCount = min k r.recordCount := by
  obtain ⟨h, body⟩ := r
  cases body with
  | identityList offset items | gatewayList offset items => exact List.length_take
  | identity i | gateway g | operation offset size result => exact (Nat.min_zero k).symm

theorem keep_keep (j k : Nat) (r : Response) : (r.keep j).keep k = r.keep (min k j) := by
  obtain ⟨h, body⟩ := r
  cases body with
  | identityList offset items | gatewayList offset items => simp only [keep, List.take_take]
  | identity i | gateway g | operation offset size result => rfl

theorem keep_of_le {r : Response} {k : Nat} (enough : r.recordCount ≤ k) : r.keep k = r := by
  obtain ⟨h, body⟩ := r
  cases body with
  | identityList offset items | gatewayList offset items =>
    simp only [keep, List.take_of_length_le enough]
  | identity i | gateway g | operation offset size result => rfl

theorem encodedSize_eq (r : Response) :
    r.encodedSize = r.leastSize + r.recordCount * r.recordWidth := by
  obtain ⟨h, body⟩ := r
  cases body <;> rfl

theorem recordCount_eq_zero {r : Response} (single : r.recordWidth = 0) : r.recordCount = 0 := by
  obtain ⟨h, body⟩ := r
  cases body with
  | identityList offset items | gatewayList offset items => contradiction
  | identity i | gateway g | operation offset size result => rfl

theorem cut_eq_keep (capacity : Nat) (r : Response) :
    r.cut capacity = r.keep ((capacity - r.leastSize) / r.recordWidth) := by
  obtain ⟨h, body⟩ := r
  cases body <;> rfl

/-- The division finds out how many records fit. -/
theorem keep_fits_iff {r : Response} {capacity k : Nat} (room : r.leastSize ≤ capacity)
    (there : k ≤ r.recordCount) :
    (r.keep k).encodedSize ≤ capacity ↔ k ≤ (capacity - r.leastSize) / r.recordWidth := by
  rw [encodedSize_eq, leastSize_keep, recordCount_keep, recordWidth_keep, Nat.min_eq_left there]
  by_cases single : r.recordWidth = 0
  · have none : k = 0 := Nat.le_zero.mp (recordCount_eq_zero single ▸ there)
    simp [none, room]
  · rw [Nat.le_div_iff_mul_le (Nat.pos_of_ne_zero single)]
    omega

theorem recordCount_le_of_fits {r : Response} {capacity : Nat} (fits : r.encodedSize ≤ capacity) :
    r.recordCount ≤ (capacity - r.leastSize) / r.recordWidth := by
  have room : r.leastSize ≤ capacity := by
    rw [encodedSize_eq] at fits
    omega
  rw [← keep_fits_iff room (Nat.le_refl _), keep_of_le (Nat.le_refl _)]
  exact fits

theorem recordCount_keep_lt {r : Response} (some_left : ¬ r.recordCount = 0) :
    (r.keep (r.recordCount - 1)).recordCount < r.recordCount := by
  rw [recordCount_keep]
  omega

def shed (capacity : Nat) (r : Response) : Option Response :=
  if r.encodedSize ≤ capacity then some r
  else if r.recordCount = 0 then none
  else shed capacity (r.keep (r.recordCount - 1))
termination_by r.recordCount
decreasing_by exact recordCount_keep_lt ‹_›

theorem shed_eq (capacity : Nat) (r : Response) :
    r.shed capacity = if r.leastSize ≤ capacity then some (r.cut capacity) else none := by
  induction r using shed.induct capacity with
  | case1 r fits =>
    have room : r.leastSize ≤ capacity := by
      rw [encodedSize_eq] at fits
      omega
    rw [shed, if_pos fits, if_pos room, cut_eq_keep, keep_of_le (recordCount_le_of_fits fits)]
  | case2 r wide none_left =>
    have narrow : ¬ r.leastSize ≤ capacity := by
      rw [encodedSize_eq, none_left] at wide
      omega
    rw [shed, if_neg wide, if_pos none_left, if_neg narrow]
  | case3 r wide some_left ih =>
    rw [shed, if_neg wide, if_neg some_left, ih, leastSize_keep]
    by_cases room : r.leastSize ≤ capacity
    · -- Not all records fit, so dropping the last one does not change how many are kept.
      have fewer : (capacity - r.leastSize) / r.recordWidth ≤ r.recordCount - 1 := by
        have all := keep_fits_iff room (Nat.le_refl r.recordCount)
        rw [keep_of_le (Nat.le_refl _)] at all
        omega
      rw [if_pos room, if_pos room, cut_eq_keep, cut_eq_keep, leastSize_keep, recordWidth_keep,
        keep_keep, Nat.min_eq_left fewer]
    · rw [if_neg room, if_neg room]

theorem fit_eq_shed (r : Response) (capacity : Nat) :
    (r.fit capacity).response? = r.shed capacity := by
  rw [fit_response?, shed_eq]

theorem fit_of_fits {capacity : Nat} {r : Response} (fits : r.encodedSize ≤ capacity) :
    r.fit capacity = .whole r := by
  rw [fit, if_pos fits]

theorem IsFront.recordCount_le {s r : Response} (front : s.IsFront r) :
    s.recordCount ≤ r.recordCount := by
  obtain ⟨k, rfl⟩ := front
  rw [recordCount_keep]
  exact Nat.min_le_right _ _

theorem IsFront.header {s r : Response} (front : s.IsFront r) : s.header = r.header := by
  obtain ⟨k, rfl⟩ := front
  exact header_keep k r

theorem IsFront.offset? {s r : Response} (front : s.IsFront r) : s.offset? = r.offset? := by
  obtain ⟨k, rfl⟩ := front
  exact offset?_keep k r

theorem IsFront.antisymm {s t : Response} (front : s.IsFront t) (back : t.IsFront s) : s = t := by
  have count := Nat.le_antisymm front.recordCount_le back.recordCount_le
  obtain ⟨k, rfl⟩ := front
  apply keep_of_le
  rw [recordCount_keep] at count
  omega

/-- A front that fits, and that every other front that fits is a front of. -/
structure IsLargestFit (capacity : Nat) (r s : Response) : Prop where
  front : s.IsFront r
  fits : s.encodedSize ≤ capacity
  largest : ∀ t : Response, t.IsFront r → t.encodedSize ≤ capacity → t.IsFront s

theorem isLargestFit_cut {r : Response} {capacity : Nat} (room : r.leastSize ≤ capacity) :
    IsLargestFit capacity r (r.cut capacity) := by
  refine ⟨⟨_, cut_eq_keep capacity r⟩, encodedSize_cut room, ?_⟩
  rintro t ⟨k, rfl⟩ fits
  have there : r.keep k = r.keep (min k r.recordCount) := by
    rw [← keep_keep, keep_of_le (Nat.le_refl _)]
  rw [there] at fits ⊢
  have bound := (keep_fits_iff room (Nat.min_le_right _ _)).mp fits
  refine ⟨min k r.recordCount, ?_⟩
  rw [cut_eq_keep, keep_keep, Nat.min_eq_left bound]

theorem shed_eq_some_iff {r s : Response} {capacity : Nat} :
    r.shed capacity = some s ↔ IsLargestFit capacity r s := by
  rw [shed_eq]
  constructor
  · intro found
    split at found
    · rename_i room
      rw [← Option.some.inj found]
      exact isLargestFit_cut room
    · contradiction
  · intro best
    have room : r.leastSize ≤ capacity := by
      obtain ⟨k, same⟩ := best.front
      have fits := best.fits
      rw [encodedSize_eq, same, leastSize_keep] at fits
      omega
    have other := isLargestFit_cut room
    have same := (other.largest s best.front best.fits).antisymm
      (best.largest _ other.front other.fits)
    rw [if_pos room, same]

theorem shed_eq_none_iff {r : Response} {capacity : Nat} :
    r.shed capacity = none ↔ ∀ t : Response, t.IsFront r → capacity < t.encodedSize := by
  constructor
  · rintro nothing t ⟨k, rfl⟩
    rw [shed_eq] at nothing
    split at nothing
    · contradiction
    · rw [encodedSize_eq, leastSize_keep]
      omega
  · intro wide
    cases found : r.shed capacity with
    | none => rfl
    | some s =>
      have best := shed_eq_some_iff.mp found
      exact absurd best.fits (Nat.not_le.mpr (wide s best.front))

theorem shed_mono {r s : Response} {capacity larger : Nat} (le : capacity ≤ larger)
    (found : r.shed capacity = some s) : ∃ t, r.shed larger = some t ∧ s.IsFront t := by
  have best := shed_eq_some_iff.mp found
  have fits := Nat.le_trans best.fits le
  cases other : r.shed larger with
  | none => exact absurd fits (Nat.not_le.mpr (shed_eq_none_iff.mp other s best.front))
  | some t => exact ⟨t, rfl, (shed_eq_some_iff.mp other).largest s best.front fits⟩

theorem shed_shed (r : Response) (first second : Nat) :
    (r.shed first).bind (shed second) = r.shed (min first second) := by
  by_cases room : r.leastSize ≤ first
  · rw [shed_eq first, if_pos room, Option.bind_some, shed_eq, shed_eq, cut_eq_keep first,
      leastSize_keep]
    by_cases room' : r.leastSize ≤ second
    · have both : r.leastSize ≤ min first second := Nat.le_min.mpr ⟨room, room'⟩
      have narrower : (min first second - r.leastSize) / r.recordWidth =
          min ((second - r.leastSize) / r.recordWidth) ((first - r.leastSize) / r.recordWidth) := by
        rcases Nat.le_total first second with le | le
        · rw [Nat.min_eq_left le, Nat.min_eq_right (Nat.div_le_div_right (by omega))]
        · rw [Nat.min_eq_right le, Nat.min_eq_left (Nat.div_le_div_right (by omega))]
      rw [if_pos room', if_pos both, cut_eq_keep, cut_eq_keep, leastSize_keep, recordWidth_keep,
        keep_keep, narrower]
    · have missing : ¬ r.leastSize ≤ min first second := fun both => room' (Nat.le_min.mp both).2
      rw [if_neg room', if_neg missing]
  · have missing : ¬ r.leastSize ≤ min first second := fun both => room (Nat.le_min.mp both).1
    rw [shed_eq first, if_neg room, Option.bind_none, shed_eq, if_neg missing]

end IdentityDirectory.Response
