import IdentityDirectory.Proofs.Json.Records
import IdentityDirectory.Proofs.Store.Calls
import IdentityDirectory.Proofs.Store.Disk
/-!
Stores that are kept in a file. As long as rows have not changed since they were written, the file gives back
the rows of the store, as far as they can be read from their text.
-/
namespace IdentityDirectory

namespace Rows
variable {α : Type} {key : α → Nat}

theorem insert_last {x : α} {ys : List α} (h : IsAscending key (ys ++ [x])) :
    insert key x ys = ys ++ [x] := by
  induction ys with
  | nil => rfl
  | cons y ys ih =>
    obtain ⟨below, rest⟩ := List.pairwise_cons.mp h
    have lower : key y < key x := below x (by simp)
    rw [insert, if_neg (by omega), if_neg (by omega), ih rest]
    rfl

theorem foldl_insert {xs ys : List α} (h : IsAscending key (ys ++ xs)) :
    xs.foldl (fun rows x => insert key x rows) ys = ys ++ xs := by
  induction xs generalizing ys with
  | nil => simp
  | cons x xs ih =>
    have split : ys ++ x :: xs = ys ++ [x] ++ xs := by simp
    rw [split] at h ⊢
    rw [List.foldl_cons, insert_last (List.pairwise_append.mp h).1]
    exact ih h

theorem ofList_of_isAscending {xs : List α} (h : IsAscending key xs) : ofList key xs = xs :=
  @foldl_insert α key xs [] h

theorem isAscending_map {f : α → α} (same : ∀ x, key (f x) = key x) {xs : List α}
    (h : IsAscending key xs) : IsAscending key (xs.map f) := by
  refine List.Pairwise.map f ?_ h
  intro x y below
  rw [same, same]
  exact below

end Rows

namespace Backing

theorem loadText_congr {d e : Disk} {path : String} (same : e.lookup path = d.lookup path) :
    loadText e path = loadText d path := by
  have has : e.has path = d.has path := by rw [Disk.has, Disk.has, same]
  have read : e.read path = d.read path := by rw [Disk.read, Disk.read, same]
  rw [loadText, loadText, has, read]

theorem loadText_of_lookup {disk : Disk} {path text : String} (solid : Text.trim text.toList ≠ [])
    (held : disk.lookup path = some (.file (Text.utf8 text.toList))) :
    loadText disk path = .ok (some text) := by
  have filled : (Text.trim text.toList).isEmpty = false := by
    rw [List.isEmpty_eq_false_iff]
    exact solid
  simp only [loadText, Disk.has, Disk.read, held, Option.isSome_some, Bool.not_true,
    Bool.false_eq_true, ↓reduceIte, Option.bind_some, Text.ofUtf8?_utf8, filled, String.ofList_toList]

variable {α : Type} {b : Backing} {path text : String} {read : String → Option (List α)}
  {d e : Disk} {items : List α}

/-- The store is kept in the file, which gives these items unless it has to be written anew. -/
structure Tracks (b : Backing) (path : String) (read : String → Option (List α)) (disk : Disk)
    (items : List α) : Prop where
  file : ∃ isDirty, b = .file path isDirty
  settled : b = .file path false → b.init read disk = .ok (some items)

theorem Tracks.touch (h : b.Tracks path read d items) (others : List α) :
    b.touch.Tracks path read d others := by
  obtain ⟨isDirty, rfl⟩ := h.file
  exact ⟨⟨true, rfl⟩, nofun⟩

theorem Tracks.congr (h : b.Tracks path read d items) (same : e.lookup path = d.lookup path) :
    b.Tracks path read e items := by
  refine ⟨h.file, fun clean => ?_⟩
  have before := h.settled clean
  subst clean
  unfold init at before ⊢
  dsimp only at before ⊢
  rw [loadText_congr same]
  exact before

theorem Tracks.replaced (h : b.Tracks path read d items) (text : String) (ready : d.IsReady path)
    (apart : d.Apart path (Disk.draft path)) :
    ∃ isDone, d.Replaced path (Text.utf8 text.toList) (b.flush text d).2.1 isDone := by
  obtain ⟨isDirty, rfl⟩ := h.file
  cases isDirty with
  | false => exact ⟨false, .untouched d path _⟩
  | true => exact ⟨_, Disk.replaced_replace ready apart _⟩

theorem Tracks.flush (h : b.Tracks path read d items) (back : read text = some items)
    (solid : Text.trim text.toList ≠ []) (ready : d.IsReady path)
    (apart : d.Apart path (Disk.draft path)) :
    (b.flush text d).1.Tracks path read (b.flush text d).2.1 items := by
  obtain ⟨isDirty, rfl⟩ := h.file
  cases isDirty with
  | false => exact h
  | true =>
    have replaced := Disk.replaced_replace ready apart (Text.utf8 text.toList)
    simp only [Backing.flush, ↓reduceIte]
    refine ⟨⟨_, rfl⟩, fun clean => ?_⟩
    have isDone : (d.replace path (Text.utf8 text.toList)).2 = true := by simpa using clean
    rw [isDone] at replaced
    unfold init
    dsimp only
    rw [loadText_of_lookup solid replaced.lookup_done]
    simp only [back]

theorem Tracks.clean_of_flush (h : b.Tracks path read d items)
    (done : (b.flush text d).2.2 = .ok ()) : (b.flush text d).1 = .file path false := by
  obtain ⟨isDirty, rfl⟩ := h.file
  cases isDirty with
  | false => rfl
  | true =>
    simp only [Backing.flush, ↓reduceIte] at done ⊢
    cases replaced : (d.replace path (Text.utf8 text.toList)).2 with
    | true => rfl
    | false =>
      rw [replaced] at done
      contradiction

end Backing

theorem trim_toPrettyText (vs : List Json) :
    Text.trim (Json.array vs).toPrettyText.toList ≠ [] := by
  have solid : Text.isBlank '[' = false := by decide
  cases vs with
  | nil => exact Text.trim_ne_nil solid
  | cons v vs =>
    rw [Json.toPrettyText, String.toList_ofList, Json.pretty]
    exact Text.trim_ne_nil solid

namespace IdentityStore

theorem init_of_tracks {disk : Disk} {path : String} {network : Option NetId} {rows : List Identity}
    (ascending : Rows.IsAscending Identity.key rows)
    (h : (Backing.file path false).init Identity.listOfJsonText? disk =
      .ok (some (rows.map Identity.readable))) :
    (make (.file path false) network).init disk =
      .ok ⟨.file path false, network, rows.map Identity.readable⟩ := by
  have kept := Rows.ofList_of_isAscending (Rows.isAscending_map (f := Identity.readable)
    (fun _ => rfl) ascending)
  simp only [init, make, h, Except.map, load, kept]

end IdentityStore

namespace GatewayStore

theorem init_of_tracks {disk : Disk} {path : String} {rows : List Gateway}
    (ascending : Rows.IsAscending Gateway.key rows)
    (h : (Backing.file path false).init Gateway.listOfJsonText? disk = .ok (some rows)) :
    (make (.file path false)).init disk = .ok ⟨.file path false, rows⟩ := by
  simp only [init, make, h, Except.map, load, Rows.ofList_of_isAscending ascending]

end GatewayStore
end IdentityDirectory
