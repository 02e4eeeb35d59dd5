import IdentityDirectory.Proofs.Store.Disk
import IdentityDirectory.Proofs.Text.Pieces
/-!
Where paths lead. The draft of a file never lies where the file does; and without parts that lead back, paths
with one start and different parts lead to different places.
-/
namespace IdentityDirectory.Path

theorem split_of_root (rest : List Char) : split ('/' :: rest) = ([[]], Text.splitOn '/' rest) := by
  obtain ⟨piece, more, pieces⟩ := List.exists_cons_of_ne_nil (Text.splitOn_ne_nil '/' rest)
  rw [split, Text.splitOn, if_pos rfl, pieces]

theorem split_of_other {c : Char} (other : c ≠ '/') (rest : List Char) :
    split (c :: rest) = ([], Text.splitOn '/' (c :: rest)) ∨
      ∃ parts, Text.splitOn '/' (c :: rest) = ['.'] :: parts ∧ split (c :: rest) = ([['.']], parts) := by
  obtain ⟨piece, more, -, pieces⟩ := Text.splitOn_cons_of_ne other rest
  rw [split, pieces]
  by_cases dot : c = '.' ∧ piece = []
  · obtain ⟨rfl, rfl⟩ := dot
    exact Or.inr ⟨more, rfl, rfl⟩
  · refine Or.inl ?_
    split <;> simp_all

theorem filter_split (path : List Char) :
    ((split path).2.filter fun p => !isIdle p) =
      (Text.splitOn '/' path).filter fun p => !isIdle p := by
  cases path with
  | nil => rfl
  | cons c rest =>
    by_cases slash : c = '/'
    · rw [slash, split_of_root, Text.splitOn, if_pos rfl]
      rfl
    · rcases split_of_other slash rest with cut | ⟨parts, pieces, cut⟩
      · rw [cut]
      · rw [cut, pieces]
        rfl

theorem isAbsolute_eq (path : List Char) : isAbsolute path = decide ((split path).1 = [[]]) := by
  cases path with
  | nil => rfl
  | cons c rest =>
    by_cases slash : c = '/'
    · rw [slash, split_of_root]
      rfl
    · have relative : isAbsolute (c :: rest) = false := by simp [isAbsolute, slash]
      rw [relative]
      rcases split_of_other slash rest with cut | ⟨parts, -, cut⟩
      · rw [cut]
        rfl
      · rw [cut]
        rfl

end IdentityDirectory.Path

namespace IdentityDirectory.Disk

theorem walk_append (d : Disk) (l : Location) (front back : List String) :
    d.walk l (front ++ back) = (d.walk l front).bind fun m => d.walk m back := by
  induction front generalizing l with
  | nil => rfl
  | cons part front ih =>
    simp only [List.cons_append, walk]
    split
    · rfl
    · split
      · exact ih l
      · split
        · exact ih l.dropLast
        · split
          · rfl
          · exact ih (l ++ [part])

theorem walk_last {d : Disk} {l m : Location} {part : String} (leads : d.walk l [part] = some m) :
    m = l ∨ m = l.dropLast ∨ m = l ++ [part] := by
  unfold walk at leads
  split at leads
  · contradiction
  · split at leads
    · exact Or.inl (Option.some.inj leads).symm
    · split at leads
      · exact Or.inr (Or.inl (Option.some.inj leads).symm)
      · split at leads
        · contradiction
        · exact Or.inr (Or.inr (Option.some.inj leads).symm)

theorem walk_last_of_long {d : Disk} {l m : Location} {part : String} (long : 2 < part.length)
    (leads : d.walk l [part] = some m) : m = l ++ [part] := by
  have named : ¬ (part = "" ∨ part = ".") ∧ part ≠ ".." := by
    refine ⟨?_, ?_⟩
    · rintro (rfl | rfl) <;> contradiction
    · rintro rfl
      contradiction
  unfold walk at leads
  rw [if_neg named.1, if_neg named.2] at leads
  split at leads
  · contradiction
  · split at leads
    · contradiction
    · exact (Option.some.inj leads).symm

theorem steps_draft (path : String) :
    ∃ front last, steps path = front ++ [last] ∧ steps (draft path) = front ++ [last ++ ".tmp"] := by
  have free : '/' ∉ ".tmp".toList := by decide
  obtain ⟨front, last, before, behind⟩ := Text.splitOn_append_last path.toList free
  refine ⟨front.map String.ofList, String.ofList last, ?_, ?_⟩
  · rw [steps, before, List.map_append]
    rfl
  · rw [steps, draft, String.toList_append, behind, List.map_append, List.map_singleton,
      String.ofList_append, String.ofList_toList]

theorem start_draft {d : Disk} {path : String} (proper : Path.isPath path.toList = true) :
    d.start (draft path) = d.start path := by
  have absolute : Path.isAbsolute (draft path).toList = Path.isAbsolute path.toList := by
    rw [draft, String.toList_append]
    cases chars : path.toList with
    | nil =>
      rw [chars] at proper
      contradiction
    | cons c rest => rfl
  rw [start, start, absolute]

theorem walk_of_locate {d : Disk} {path : String} {l : Location} (leads : d.locate path = some l) :
    Path.isPath path.toList = true ∧ d.walk (d.start path) (steps path) = some l := by
  unfold locate at leads
  split at leads
  · rename_i proper
    exact ⟨proper, leads⟩
  · contradiction

/-- The draft of a file lies one step below the folder that the last part of the path is looked up in, under
a name of its own. The file lies there under another name, or it is that folder, or one above. -/
theorem apart_draft (d : Disk) (path : String) : d.Apart path (draft path) := by
  intro same
  cases leads : d.locate path with
  | none => rfl
  | some l =>
    obtain ⟨proper, walked⟩ := walk_of_locate leads
    obtain ⟨-, drafted⟩ := walk_of_locate (same.symm.trans leads)
    obtain ⟨front, last, parts, draftParts⟩ := steps_draft path
    rw [parts, walk_append, Option.bind_eq_some_iff] at walked
    rw [draftParts, start_draft proper, walk_append, Option.bind_eq_some_iff] at drafted
    obtain ⟨m, above, below⟩ := walked
    obtain ⟨n, again, beside⟩ := drafted
    obtain rfl := Option.some.inj (above.symm.trans again)
    have long : 2 < (last ++ ".tmp").length := by
      rw [String.length_append]
      exact Nat.lt_of_lt_of_le (by decide) (Nat.le_add_left 4 _)
    have deep := walk_last_of_long long beside
    have size : l.length = m.length + 1 := by rw [deep, List.length_append, List.length_singleton]
    rcases walk_last below with here | up | down
    · rw [here] at size
      omega
    · rw [up, List.length_dropLast] at size
      omega
    · have name := List.append_cancel_left (down.symm.trans deep)
      have shorter := congrArg String.length (List.head_eq_of_cons_eq name)
      rw [String.length_append] at shorter
      have four : ".tmp".length = 4 := rfl
      omega

theorem lookup_of_replace {d : Disk} {path : String} {content : Bytes}
    (done : (d.replace path content).2 = true) :
    (d.replace path content).1.lookup path = some (.file content) ∧
      (d.replace path content).1.lookup (draft path) = none := by
  rcases prepared : d.prepare path with ⟨e, isReady⟩
  cases isReady with
  | false =>
    rw [replace, prepared] at done
    contradiction
  | true =>
    have apart := apart_draft e path
    rcases replace_cases prepared apart content with
      failed | ⟨s, -, -, drafted⟩ | ⟨s, t, leads, target, plain, free, moved⟩
    · rw [failed] at done
      contradiction
    · rw [drafted] at done
      contradiction
    · rw [moved]
      have replaced := Replaced.moved apart leads target plain free content
      have away : ¬ s = t := fun same => apart.ne target (same ▸ leads)
      refine ⟨replaced.lookup_done, ?_⟩
      rw [lookup_of_locate ((replaced.folders.locate (draft path)).trans leads), entry?_set,
        if_neg (ne_root_of_file plain), if_neg away, entry?_erase, if_neg (ne_root_of_file plain),
        if_pos rfl]

/-- Different paths lead to different places, as where a file system is a map from paths to texts. -/
def TellsApart (d : Disk) (paths : List String) : Prop :=
  ∀ p ∈ paths, ∀ q ∈ paths, ¬ Path.IsSame p q → d.Apart p q

def leadsOn (part : String) : Bool := !Path.isIdle part.toList

theorem leadsOn_iff {part : String} : leadsOn part = true ↔ ¬ (part = "" ∨ part = ".") := by
  have empty : part = "" ↔ part.toList = [] := by rw [← String.toList_inj]; rfl
  have dot : part = "." ↔ part.toList = ['.'] := by rw [← String.toList_inj]; rfl
  rw [empty, dot]
  simp [leadsOn, Path.isIdle]

theorem walk_of_plain {d : Disk} {parts : List String} (plain : ".." ∉ parts) {l m : Location}
    (leads : d.walk l parts = some m) : m = l ++ parts.filter leadsOn := by
  induction parts generalizing l with
  | nil =>
    obtain rfl := Option.some.inj leads
    exact (List.append_nil l).symm
  | cons part rest ih =>
    have onward : ".." ∉ rest := fun member => plain (List.mem_cons_of_mem part member)
    have ahead : part ≠ ".." := fun back => plain (back ▸ List.mem_cons_self)
    unfold walk at leads
    split at leads
    · contradiction
    · by_cases idle : part = "" ∨ part = "."
      · have skipped : ¬ leadsOn part = true := fun on => leadsOn_iff.mp on idle
        rw [if_pos idle] at leads
        rw [ih onward leads, List.filter_cons_of_neg skipped]
      · rw [if_neg idle] at leads
        split at leads
        · contradiction
        · rw [ih onward leads, List.filter_cons_of_pos (leadsOn_iff.mpr idle), List.append_assoc]
          rfl

theorem apart_of_plain {d : Disk} {p q : String} (first : ".." ∉ steps p) (second : ".." ∉ steps q)
    (together : (Path.parts p).1 = (Path.parts q).1) (other : ¬ Path.IsSame p q) : d.Apart p q := by
  intro same
  cases leads : d.locate p with
  | none => rfl
  | some l =>
    have here := walk_of_plain first (walk_of_locate leads).2
    have there := walk_of_plain second (walk_of_locate (same.symm.trans leads)).2
    have start : d.start p = d.start q := by
      rw [Disk.start, Disk.start, Path.isAbsolute_eq, Path.isAbsolute_eq]
      exact congrArg (fun s => if decide (s = [[]]) = true then [] else d.home) together
    rw [here, start, List.append_cancel_left_eq] at there
    have steps_eq (path : String) :
        (steps path).filter leadsOn = (Path.parts path).2.map String.ofList := by
      have same : leadsOn ∘ String.ofList = fun p => !Path.isIdle p := by
        funext p
        rw [Function.comp_apply, leadsOn, String.toList_ofList]
      rw [steps, List.filter_map, same]
      exact congrArg (List.map String.ofList) (Path.filter_split path.toList).symm
    rw [steps_eq, steps_eq] at there
    have parts := List.map_inj_right (fun a b same => String.ofList_injective same) |>.mp there
    exact absurd (Prod.ext together parts) other

theorem tellsApart_of_plain {d : Disk} {paths : List String} (plain : ∀ p ∈ paths, ".." ∉ steps p)
    (together : ∀ p ∈ paths, ∀ q ∈ paths, (Path.parts p).1 = (Path.parts q).1) : d.TellsApart paths :=
  fun p first q second other => apart_of_plain (plain p first) (plain q second)
    (together p first q second) other

end IdentityDirectory.Disk
