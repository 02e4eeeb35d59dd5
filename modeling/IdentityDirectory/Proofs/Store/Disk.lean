import IdentityDirectory.Store.Disk
/-!
Files that are replaced. As long as no folder comes or goes every path leads to where it led before, and a
file that is replaced by way of its draft leaves everything alone but those two.
-/
namespace IdentityDirectory.Disk

theorem entry?_root (d : Disk) : d.entry? [] = some .folder := rfl

theorem entry?_erase (d : Disk) (l m : Location) :
    Disk.entry? (d.erase l) m = if m = [] then some .folder else if m = l then none else d.entry? m := by
  by_cases root : m = []
  · simp [root, Disk.entry?]
  · by_cases same : m = l
    · subst same
      have gone : (d.entries.filter fun e => e.1 ≠ m).find? (fun e => e.1 = m) = none := by
        simp [List.find?_eq_none]
      simp only [erase, Disk.entry?, root, ↓reduceIte, gone, Option.map_none]
    · have kept : (d.entries.filter fun e => e.1 ≠ l).find? (fun e => e.1 = m) =
          d.entries.find? fun e => e.1 = m := by
        rw [List.find?_filter]
        congr 1
        funext e
        by_cases here : e.1 = m
        · simp [here, same]
        · simp [here]
      simp only [erase, Disk.entry?, root, ↓reduceIte, kept, same]

theorem entry?_set (d : Disk) (l m : Location) (e : Entry) :
    Disk.entry? (d.set l e) m = if m = [] then some .folder else if m = l then some e else d.entry? m := by
  by_cases root : m = []
  · simp [root, Disk.entry?]
  · by_cases same : m = l
    · simp [set, Disk.entry?, same]
    · have other : ¬ l = m := fun eq => same eq.symm
      have rest := entry?_erase d l m
      simp only [root, same, ↓reduceIte] at rest ⊢
      rw [← rest]
      simp [set, Disk.entry?, root, other]

def SameFolders (d e : Disk) : Prop := e.home = d.home ∧ ∀ l, e.isFolder l = d.isFolder l

theorem SameFolders.refl (d : Disk) : d.SameFolders d := ⟨rfl, fun _ => rfl⟩

theorem SameFolders.trans {d e f : Disk} (first : d.SameFolders e) (second : e.SameFolders f) :
    d.SameFolders f :=
  ⟨second.1.trans first.1, fun l => (second.2 l).trans (first.2 l)⟩

theorem SameFolders.walk {d e : Disk} (same : d.SameFolders e) (l : Location) (parts : List String) :
    e.walk l parts = d.walk l parts := by
  induction parts generalizing l with
  | nil => rfl
  | cons part rest ih => simp only [Disk.walk, same.2 l, ih]

theorem SameFolders.locate {d e : Disk} (same : d.SameFolders e) (path : String) :
    e.locate path = d.locate path := by
  have start : e.start path = d.start path := by rw [start, start, same.1]
  rw [Disk.locate, Disk.locate, start, same.walk]

theorem ne_root_of_file {d : Disk} {l : Location} (plain : d.isFolder l = false) : l ≠ [] := by
  rintro rfl
  rw [isFolder, entry?_root] at plain
  contradiction

theorem sameFolders_set {d : Disk} {l : Location} (plain : d.isFolder l = false) (content : Bytes) :
    d.SameFolders (d.set l (.file content)) := by
  refine ⟨rfl, fun m => ?_⟩
  have root := ne_root_of_file plain
  by_cases same : m = l
  · subst same
    rw [plain]
    simp [isFolder, entry?_set, root]
  · rw [isFolder, entry?_set, isFolder]
    by_cases top : m = []
    · simp [top, entry?_root]
    · simp [top, same]

theorem sameFolders_erase {d : Disk} {l : Location} (plain : d.isFolder l = false) :
    d.SameFolders (d.erase l) := by
  refine ⟨rfl, fun m => ?_⟩
  have root := ne_root_of_file plain
  by_cases same : m = l
  · subst same
    rw [plain]
    simp [isFolder, entry?_erase, root]
  · rw [isFolder, entry?_erase, isFolder]
    by_cases top : m = []
    · simp [top, entry?_root]
    · simp [top, same]

/-! Folders that a path leads through are there, so none has to be made for it. -/

theorem entry?_of_isFolder {d : Disk} {l : Location} (folder : d.isFolder l = true) :
    (d.entry? l).isSome = true := by
  rw [of_decide_eq_true folder]
  rfl

theorem entry?_of_walk {d : Disk} {l m : Location} {parts : List String}
    (leads : d.walk l parts = some m) (there : (d.entry? m).isSome = true) :
    (d.entry? l).isSome = true := by
  cases parts with
  | nil =>
    obtain rfl := Option.some.inj leads
    exact there
  | cons part rest =>
    cases folder : d.isFolder l with
    | true => exact entry?_of_isFolder folder
    | false => simp [walk, folder] at leads

theorem makeAll_of_walk {d : Disk} {l m : Location} {parts : List String}
    (leads : d.walk l parts = some m) (there : (d.entry? m).isSome = true) :
    d.makeAll l parts = (d, d.isFolder m) := by
  induction parts generalizing l with
  | nil =>
    obtain rfl := Option.some.inj leads
    rfl
  | cons part rest ih =>
    rw [walk] at leads
    rw [makeAll]
    by_cases folder : (!d.isFolder l) = true
    · rw [if_pos folder] at leads
      contradiction
    · rw [if_neg folder] at leads ⊢
      by_cases idle : part = "" ∨ part = "."
      · rw [if_pos idle] at leads ⊢
        exact ih leads
      · rw [if_neg idle] at leads ⊢
        by_cases up : part = ".."
        · rw [if_pos up] at leads ⊢
          exact ih leads
        · rw [if_neg up] at leads ⊢
          by_cases long : (!Path.isName part) = true
          · rw [if_pos long] at leads
            contradiction
          · rw [if_neg long] at leads ⊢
            have next := entry?_of_walk leads there
            rw [if_neg (by simp [Option.isSome_iff_ne_none.mp next])]
            exact ih leads

theorem lookup_of_locate {d : Disk} {path : String} {l : Location} (leads : d.locate path = some l) :
    d.lookup path = d.entry? l := by
  rw [lookup, leads, Option.bind_some]

theorem locate_of_has {d : Disk} {path : String} (there : d.has path = true) :
    ∃ l, d.locate path = some l ∧ (d.entry? l).isSome = true := by
  rw [has, lookup] at there
  cases leads : d.locate path with
  | none =>
    rw [leads] at there
    contradiction
  | some l =>
    rw [leads] at there
    exact ⟨l, rfl, there⟩

theorem makeFolders_of_has {d : Disk} {path : String} (there : d.has path = true) :
    ∃ isDone, d.makeFolders path = (d, isDone) := by
  obtain ⟨l, leads, entry⟩ := locate_of_has there
  rw [locate] at leads
  split at leads
  · rename_i proper
    exact ⟨_, by rw [makeFolders, if_pos proper, makeAll_of_walk leads entry]⟩
  · contradiction

def IsReady (d : Disk) (path : String) : Prop :=
  ∀ folder, Path.folder? path = some folder → d.has folder = true

theorem prepare_of_isReady {d : Disk} {path : String} (ready : d.IsReady path) :
    ∃ isDone, d.prepare path = (d, isDone) := by
  unfold prepare
  cases named : Path.folder? path with
  | none => exact ⟨true, rfl⟩
  | some folder => exact makeFolders_of_has (ready folder named)

def Apart (d : Disk) (p q : String) : Prop := d.locate p = d.locate q → d.locate p = none

instance (d : Disk) (p q : String) : Decidable (d.Apart p q) := inferInstanceAs (Decidable (_ → _))

theorem Apart.ne {d : Disk} {p q : String} (apart : d.Apart p q) {l : Location}
    (leads : d.locate p = some l) : d.locate q ≠ some l := by
  intro other
  rw [apart (leads.trans other.symm)] at leads
  contradiction

theorem Apart.symm {d : Disk} {p q : String} (apart : d.Apart p q) : d.Apart q p :=
  fun same => same.trans (apart same.symm)

theorem SameFolders.apart {d e : Disk} (same : d.SameFolders e) {p q : String} (apart : d.Apart p q) :
    e.Apart p q := by
  rw [Apart, same.locate, same.locate]
  exact apart

/-- Writing a file's draft does not take a path away: the path leads elsewhere, or to a folder. -/
def IsSpared (d : Disk) (q path : String) : Prop :=
  d.Apart q (draft path) ∨ d.lookup q = some .folder

instance (d : Disk) (q path : String) : Decidable (d.IsSpared q path) :=
  inferInstanceAs (Decidable (_ ∨ _))

theorem SameFolders.isSpared {d e : Disk} (same : d.SameFolders e) {q path : String}
    (spared : d.IsSpared q path) : e.IsSpared q path := by
  refine spared.imp same.apart fun folder => ?_
  rw [lookup, Option.bind_eq_some_iff] at folder ⊢
  obtain ⟨l, leads, entry⟩ := folder
  have kept : e.isFolder l = true := (same.2 l).trans (decide_eq_true entry)
  exact ⟨l, (same.locate q).trans leads, of_decide_eq_true kept⟩

/-- What is left of a disk after a file has been replaced, or after the attempt. -/
structure Replaced (d : Disk) (path : String) (content : Bytes) (e : Disk) (isDone : Bool) : Prop where
  folders : d.SameFolders e
  elsewhere : ∀ l, d.locate path ≠ some l → d.locate (draft path) ≠ some l → e.entry? l = d.entry? l
  target : ∀ l, d.locate path = some l →
    e.entry? l = if isDone then some (.file content) else d.entry? l
  found : isDone = true → ∃ l, d.locate path = some l

theorem Replaced.untouched (d : Disk) (path : String) (content : Bytes) :
    d.Replaced path content d false :=
  ⟨.refl d, fun _ _ _ => rfl, fun _ _ => rfl, nofun⟩

theorem Replaced.drafted {d : Disk} {path : String} {s : Location} (apart : d.Apart path (draft path))
    (leads : d.locate (draft path) = some s) (plain : d.isFolder s = false) (content : Bytes) :
    d.Replaced path content (d.set s (.file content)) false := by
  have root := ne_root_of_file plain
  refine ⟨sameFolders_set plain content, ?_, ?_, nofun⟩
  · intro l _ other
    have away : ¬ l = s := fun same => other (same ▸ leads)
    rw [entry?_set, if_neg away]
    split
    · rename_i top
      rw [top, entry?_root]
    · rfl
  · intro l target
    have away : ¬ l = s := fun same => apart.ne target (same ▸ leads)
    rw [entry?_set, if_neg away]
    split
    · rename_i top
      rw [top, entry?_root]
      rfl
    · rfl

theorem Replaced.moved {d : Disk} {path : String} {s t : Location} (apart : d.Apart path (draft path))
    (leads : d.locate (draft path) = some s) (target : d.locate path = some t)
    (plain : d.isFolder s = false) (free : d.isFolder t = false) (content : Bytes) :
    d.Replaced path content (((d.set s (.file content)).erase s).set t (.file content)) true := by
  have wrote := sameFolders_set plain content
  have plainly : (d.set s (.file content)).isFolder s = false := (wrote.2 s).trans plain
  have erased := wrote.trans (sameFolders_erase plainly)
  have freely : ((d.set s (.file content)).erase s).isFolder t = false := (erased.2 t).trans free
  have away : ¬ t = s := fun same => apart.ne target (same ▸ leads)
  refine ⟨erased.trans (sameFolders_set freely content), ?_, ?_, fun _ => ⟨t, target⟩⟩
  · intro l first second
    have here : ¬ l = t := fun same => first (same ▸ target)
    have there : ¬ l = s := fun same => second (same ▸ leads)
    rw [entry?_set, entry?_erase, entry?_set, if_neg here, if_neg there, if_neg there]
    by_cases top : l = []
    · simp only [top, ↓reduceIte, entry?_root]
    · simp only [top, ↓reduceIte]
  · intro l same
    obtain rfl := Option.some.inj (same.symm.trans target)
    rw [entry?_set, if_neg (ne_root_of_file free), if_pos rfl, if_pos rfl]

theorem putFile_cases (d : Disk) (l : Location) (content : Bytes) :
    d.putFile l content = none ∨
      d.isFolder l = false ∧ d.putFile l content = some (d.set l (.file content)) := by
  unfold putFile
  cases d.isFolder l with
  | true => exact Or.inl rfl
  | false => exact Or.inr ⟨rfl, rfl⟩

theorem write_cases (d : Disk) (path : String) (content : Bytes) :
    d.write path content = none ∨ ∃ l, d.locate path = some l ∧ d.isFolder l = false ∧
      d.write path content = some (d.set l (.file content)) := by
  unfold write
  cases leads : d.locate path with
  | none => exact Or.inl rfl
  | some l =>
    rcases putFile_cases d l content with failed | ⟨plain, done⟩
    · exact Or.inl failed
    · exact Or.inr ⟨l, rfl, plain, done⟩

theorem lookup_of_write {d e : Disk} {path : String} {content : Bytes}
    (written : d.write path content = some e) : e.lookup path = some (.file content) := by
  rcases write_cases d path content with failed | ⟨l, leads, plain, done⟩
  · rw [failed] at written
    contradiction
  · obtain rfl := Option.some.inj (done.symm.trans written)
    have still := (sameFolders_set plain content).locate path
    rw [lookup_of_locate (still.trans leads), entry?_set, if_neg (ne_root_of_file plain), if_pos rfl]

theorem rename_cases {d : Disk} {source path : String} {s : Location} {content : Bytes}
    (apart : d.Apart path source) (leads : d.locate source = some s)
    (held : d.entry? s = some (.file content)) :
    d.rename source path = none ∨ ∃ t, d.locate path = some t ∧ (d.erase s).isFolder t = false ∧
      d.rename source path = some ((d.erase s).set t (.file content)) := by
  have read : d.read source = some content := by rw [Disk.read, lookup_of_locate leads, held]
  unfold rename
  rw [read, leads]
  cases target : d.locate path with
  | none => exact Or.inl rfl
  | some t =>
    have away : ¬ s = t := fun same => apart.ne target (same ▸ leads)
    simp only [Option.bind_eq_bind, Option.bind_some, if_neg away]
    rcases putFile_cases (d.erase s) t content with failed | ⟨free, done⟩
    · exact Or.inl failed
    · exact Or.inr ⟨t, rfl, free, done⟩

/-- All that a replacement can come to once its folders are there: nothing was written, the draft was but not
moved, or it was moved. -/
theorem replace_cases {d e : Disk} {path : String} (prepared : d.prepare path = (e, true))
    (apart : e.Apart path (draft path)) (content : Bytes) :
    d.replace path content = (e, false) ∨
      (∃ s, e.locate (draft path) = some s ∧ e.isFolder s = false ∧
        d.replace path content = (e.set s (.file content), false)) ∨
      ∃ s t, e.locate (draft path) = some s ∧ e.locate path = some t ∧ e.isFolder s = false ∧
        e.isFolder t = false ∧
        d.replace path content = (((e.set s (.file content)).erase s).set t (.file content), true) := by
  unfold replace
  rw [prepared]
  rcases write_cases e (draft path) content with failed | ⟨s, leads, plain, wrote⟩
  · simp only [failed]
    exact Or.inl trivial
  · have same := sameFolders_set plain content
    have held : Disk.entry? (e.set s (.file content)) s = some (.file content) := by
      rw [entry?_set, if_neg (ne_root_of_file plain), if_pos rfl]
    simp only [wrote]
    rcases rename_cases (same.apart apart) ((same.locate _).trans leads) held with
      failed | ⟨t, target, free, moved⟩
    · simp only [failed]
      exact Or.inr (Or.inl ⟨s, leads, plain, rfl⟩)
    · simp only [moved]
      have plainly : (e.set s (.file content)).isFolder s = false := (same.2 s).trans plain
      rw [same.locate] at target
      rw [(sameFolders_erase plainly).2, same.2] at free
      exact Or.inr (Or.inr ⟨s, t, leads, target, plain, free, rfl⟩)

theorem replaced_replace {d : Disk} {path : String} (ready : d.IsReady path)
    (apart : d.Apart path (draft path)) (content : Bytes) :
    d.Replaced path content (d.replace path content).1 (d.replace path content).2 := by
  obtain ⟨isDone, prepared⟩ := prepare_of_isReady ready
  cases isDone with
  | false =>
    have failed : d.replace path content = (d, false) := by rw [replace, prepared]
    rw [failed]
    exact .untouched d path content
  | true =>
    rcases replace_cases prepared apart content with
      failed | ⟨s, leads, plain, drafted⟩ | ⟨s, t, leads, target, plain, free, moved⟩
    · rw [failed]
      exact .untouched d path content
    · rw [drafted]
      exact .drafted apart leads plain content
    · rw [moved]
      exact .moved apart leads target plain free content

section Replaced
variable {d e : Disk} {path : String} {content : Bytes}

theorem Replaced.lookup_done (h : d.Replaced path content e true) :
    e.lookup path = some (.file content) := by
  obtain ⟨l, leads⟩ := h.found rfl
  rw [lookup_of_locate ((h.folders.locate path).trans leads), h.target l leads, if_pos rfl]

theorem Replaced.lookup_other {isDone : Bool} (h : d.Replaced path content e isDone) {q : String}
    (apart : d.Apart q path) (aside : d.Apart q (draft path)) : e.lookup q = d.lookup q := by
  rw [lookup, lookup, h.folders.locate]
  cases leads : d.locate q with
  | none => rfl
  | some l => exact h.elsewhere l (apart.ne leads) (aside.ne leads)

/-- What is there stays there, unless it is a file that the draft is written over. -/
theorem Replaced.has {isDone : Bool} (h : d.Replaced path content e isDone) {q : String}
    (there : d.has q = true) (spared : d.IsSpared q path) : e.has q = true := by
  obtain ⟨l, leads, entry⟩ := locate_of_has there
  have after := lookup_of_locate ((h.folders.locate q).trans leads)
  rw [Disk.has, after]
  rcases spared with aside | folder
  · by_cases target : d.locate path = some l
    · rw [h.target l target]
      cases isDone with
      | true => rfl
      | false => exact entry
    · rw [h.elsewhere l target (aside.ne leads)]
      exact entry
  · rw [lookup_of_locate leads] at folder
    have kept : e.isFolder l = true := (h.folders.2 l).trans (decide_eq_true folder)
    exact entry?_of_isFolder kept

end Replaced

end IdentityDirectory.Disk
