import IdentityDirectory.Proofs.Wire.Responses
/-!
Fitting a response into a capacity. A list can always be cut down to its head; any other response fits
whole or is dropped.
-/
namespace IdentityDirectory
namespace Response

def leastSize (r : Response) : Nat :=
  match r.body with
  | .identityList _ _ | .gatewayList _ _ => operationSize
  | _ => r.encodedSize

def recordCount (r : Response) : Nat :=
  match r.body with
  | .identityList _ items => items.length
  | .gatewayList _ items => items.length
  | _ => 0

/-- The response with as many of its records as a capacity has room for. -/
def cut (capacity : Nat) (r : Response) : Response :=
  match r.body with
  | .identityList offset items =>
    ⟨r.header, .identityList offset (items.take ((capacity - operationSize) / Identity.size))⟩
  | .gatewayList offset items =>
    ⟨r.header, .gatewayList offset (items.take ((capacity - operationSize) / Gateway.size))⟩
  | _ => r

theorem take_room_of_fits {α : Type} {items : List α} {capacity width : Nat} (positive : 0 < width)
    (whole : operationSize + items.length * width ≤ capacity) :
    items.take ((capacity - operationSize) / width) = items := by
  apply List.take_of_length_le
  rw [Nat.le_div_iff_mul_le positive]
  omega

theorem size_take_room {α : Type} (items : List α) {capacity : Nat} (width : Nat)
    (room : operationSize ≤ capacity) :
    operationSize + (items.take ((capacity - operationSize) / width)).length * width ≤ capacity := by
  have short : (items.take ((capacity - operationSize) / width)).length ≤
      (capacity - operationSize) / width := by
    rw [List.length_take]
    exact Nat.min_le_left _ _
  have scaled := Nat.mul_le_mul_right width short
  have bound := Nat.div_mul_le_self (capacity - operationSize) width
  omega

theorem fitted_list {α : Type} (items : List α) (capacity : Nat) {width : Nat} (positive : 0 < width)
    (make : List α → Response) :
    (if operationSize + items.length * width ≤ capacity then Fitted.whole (make items)
      else match recordRoom capacity width with
        | some keep => .shortened (make (items.take keep))
        | none => .dropped).response? =
      if operationSize ≤ capacity then
        some (make (items.take ((capacity - operationSize) / width)))
      else none := by
  by_cases room : operationSize ≤ capacity
  · have wide : ¬ capacity < operationSize := by omega
    by_cases whole : operationSize + items.length * width ≤ capacity
    · have all := take_room_of_fits positive whole
      simp only [whole, room, all, ↓reduceIte, Fitted.response?]
    · simp only [whole, room, wide, recordRoom, ↓reduceIte, Fitted.response?]
  · have narrow : capacity < operationSize := by omega
    have broken : ¬ operationSize + items.length * width ≤ capacity := by omega
    simp only [broken, room, narrow, recordRoom, ↓reduceIte, Fitted.response?]

theorem fit_response? (r : Response) (capacity : Nat) :
    (r.fit capacity).response? =
      if r.leastSize ≤ capacity then some (r.cut capacity) else none := by
  obtain ⟨h, body⟩ := r
  cases body with
  | identityList offset items =>
    exact fitted_list items capacity (by decide) fun kept => ⟨h, .identityList offset kept⟩
  | gatewayList offset items =>
    exact fitted_list items capacity (by decide) fun kept => ⟨h, .gatewayList offset kept⟩
  | identity i =>
    by_cases room : encodedSize ⟨h, .identity i⟩ ≤ capacity <;>
      simp only [fit, leastSize, cut, room, ↓reduceIte, Fitted.response?]
  | gateway g =>
    by_cases room : encodedSize ⟨h, .gateway g⟩ ≤ capacity <;>
      simp only [fit, leastSize, cut, room, ↓reduceIte, Fitted.response?]
  | operation offset size result =>
    by_cases room : encodedSize ⟨h, .operation offset size result⟩ ≤ capacity <;>
      simp only [fit, leastSize, cut, room, ↓reduceIte, Fitted.response?]

theorem encodedSize_cut {r : Response} {capacity : Nat} (room : r.leastSize ≤ capacity) :
    (r.cut capacity).encodedSize ≤ capacity := by
  obtain ⟨h, body⟩ := r
  cases body with
  | identityList offset items => exact size_take_room items Identity.size room
  | gatewayList offset items => exact size_take_room items Gateway.size room
  | identity i => exact room
  | gateway g => exact room
  | operation offset size result => exact room

@[simp] theorem header_cut (capacity : Nat) (r : Response) : (r.cut capacity).header = r.header := by
  obtain ⟨h, body⟩ := r
  cases body <;> rfl

theorem isClear_cut {r : Response} (clear : r.IsClear) (capacity : Nat) :
    (r.cut capacity).IsClear := by
  obtain ⟨h, body⟩ := r
  cases body with
  | identityList offset items =>
    obtain ⟨tag, code, bound⟩ := clear
    exact ⟨tag, code, Nat.lt_of_le_of_lt (List.length_take_le' _ _) bound⟩
  | gatewayList offset items =>
    obtain ⟨tag, code, bound⟩ := clear
    exact ⟨tag, code, Nat.lt_of_le_of_lt (List.length_take_le' _ _) bound⟩
  | identity i => exact clear
  | gateway g => exact clear
  | operation offset size result => exact clear

end Response
end IdentityDirectory
