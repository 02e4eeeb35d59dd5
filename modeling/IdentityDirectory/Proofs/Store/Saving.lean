import IdentityDirectory.Proofs.Store.Calls
import IdentityDirectory.Proofs.Store.Paths
/-!
Stores and their files, over whole runs. A store in a file knows whether it has something to write. As long as
nobody else writes the file, a store that has nothing to write has its rows in the file, or has taken them from
there and not changed them since.
-/
namespace IdentityDirectory

/-- A kind of store, as far as its file has to do with it. Calls other than a flush leave the file alone, a
change makes the backing note that there is something to write, and a flush is that of the backing. -/
structure Filing (σ ρ κ : Type) where
  backing : σ → Backing
  backed : σ → Backing → σ
  rows : σ → List ρ
  text : List ρ → String
  init : σ → Disk → Except StoreError σ
  change : σ → κ → Except StoreError σ
  flush : σ → Disk → σ × Disk × Except StoreError Unit
  backed_backing : ∀ s, backed s (backing s) = s
  backing_backed : ∀ s b, backing (backed s b) = b
  rows_backed : ∀ s b, rows (backed s b) = rows s
  backing_of_init : ∀ {s t disk}, init s disk = .ok t → backing t = backing s
  backing_of_change : ∀ {s t c}, change s c = .ok t → backing t = (backing s).touch
  flush_eq : ∀ s disk, flush s disk =
    (backed s ((backing s).flush (text (rows s)) disk).1, ((backing s).flush (text (rows s)) disk).2)

def IdentityStore.filing : Filing IdentityStore Identity IdentityChange where
  backing := IdentityStore.backing
  backed := fun s b => { s with backing := b }
  rows := IdentityStore.rows
  text := IdentityStore.fileText
  init := IdentityStore.init
  change := IdentityStore.change
  flush := IdentityStore.flush
  backed_backing := fun _ => rfl
  backing_backed := fun _ _ => rfl
  rows_backed := fun _ _ => rfl
  backing_of_init := fun read => by
    rcases init_eq_ok read with rfl | ⟨items, rfl⟩ <;> rfl
  backing_of_change := fun done => by
    obtain ⟨rows, rfl⟩ := change_eq_ok done
    rfl
  flush_eq := fun _ _ => rfl

def GatewayStore.filing : Filing GatewayStore Gateway GatewayChange where
  backing := GatewayStore.backing
  backed := fun s b => { s with backing := b }
  rows := GatewayStore.rows
  text := GatewayStore.fileText
  init := GatewayStore.init
  change := GatewayStore.change
  flush := GatewayStore.flush
  backed_backing := fun _ => rfl
  backing_backed := fun _ _ => rfl
  rows_backed := fun _ _ => rfl
  backing_of_init := fun read => by
    rcases init_eq_ok read with rfl | ⟨items, rfl⟩ <;> rfl
  backing_of_change := fun done => by
    obtain ⟨rows, rfl⟩ := change_eq_ok done
    rfl
  flush_eq := fun _ _ => rfl

inductive FileCall (κ : Type) where
  | init
  | change (c : κ)
  | flush
  | close
  deriving DecidableEq, Repr

def FileCall.Saves {κ : Type} : FileCall κ → Prop
  | flush | close => True
  | init | change _ => False

/-- A store and the disk that its file lies on, with what was found at the path of the file when it was last
read, and whether a change has been made since. -/
structure Watched (σ : Type) where
  store : σ
  disk : Disk
  loaded : Option Entry
  isChanged : Bool

namespace Filing

variable {σ ρ κ : Type} (F : Filing σ ρ κ) (path : String)

def step (w : Watched σ) : FileCall κ → Watched σ × Except StoreError Unit
  | .init =>
    match F.init w.store w.disk with
    | .ok t => (⟨t, w.disk, w.disk.lookup path, false⟩, .ok ())
    | .error cause => (w, .error cause)
  | .change c =>
    match F.change w.store c with
    | .ok t => ({ w with store := t, isChanged := true }, .ok ())
    | .error cause => (w, .error cause)
  | .flush | .close =>
    ({ w with store := (F.flush w.store w.disk).1, disk := (F.flush w.store w.disk).2.1 },
      (F.flush w.store w.disk).2.2)

inductive Leads (may : FileCall κ → Prop) (v : Watched σ) : Watched σ → Prop where
  | here : Leads may v v
  | call {w : Watched σ} (before : Leads may v w) (c : FileCall κ) (allowed : may c) :
      Leads may v (F.step path w c).1
  | meanwhile {w : Watched σ} (before : Leads may v w) (disk : Disk)
      (quiet : disk.lookup path = w.disk.lookup path) : Leads may v { w with disk := disk }

def Reached (w : Watched σ) : Prop :=
  ∃ s t disk, (∃ isDirty, F.backing s = .file path isDirty) ∧ F.init s disk = .ok t ∧
    F.Leads path (fun _ => True) ⟨t, disk, disk.lookup path, false⟩ w

def IsDirty (s : σ) : Prop := F.backing s = .file path true

def IsClean (s : σ) : Prop := F.backing s = .file path false

def IsUnchanged (w : Watched σ) : Prop := w.disk.lookup path = w.loaded ∧ w.isChanged = false

def IsWritten (w : Watched σ) : Prop :=
  w.disk.lookup path = some (.file (Text.utf8 (F.text (F.rows w.store)).toList))

/-- A store that has nothing to write has its rows in the file, unless it has an excuse. -/
structure Settled (excuse : Watched σ → Prop) (w : Watched σ) : Prop where
  file : ∃ isDirty, F.backing w.store = .file path isDirty
  clean : F.IsClean path w.store → excuse w ∨ F.IsWritten path w

variable {F path} {s : σ} {v w : Watched σ} {excuse : Watched σ → Prop} {may : FileCall κ → Prop}

theorem isDirty_or_isClean (file : ∃ isDirty, F.backing s = .file path isDirty) :
    F.IsDirty path s ∨ F.IsClean path s := by
  obtain ⟨isDirty, file⟩ := file
  cases isDirty with
  | true => exact Or.inl file
  | false => exact Or.inr file

theorem not_isClean (dirty : F.IsDirty path s) : ¬ F.IsClean path s := by
  intro clean
  have same := Backing.file.inj (dirty.symm.trans clean)
  exact Bool.noConfusion same.2

theorem backed_of_backing {b : Backing} (same : F.backing s = b) : F.backed s b = s := by
  rw [← same, F.backed_backing]

theorem flush_of_isClean (clean : F.IsClean path s) (disk : Disk) :
    F.flush s disk = (s, disk, .ok ()) := by
  rw [F.flush_eq, show F.backing s = .file path false from clean]
  exact congrArg (Prod.mk · _) (backed_of_backing clean)

theorem flush_of_isDirty (dirty : F.IsDirty path s) (disk : Disk) :
    F.flush s disk =
      let (disk, isDone) := disk.replace path (Text.utf8 (F.text (F.rows s)).toList)
      (F.backed s (.file path !isDone), disk, if isDone then .ok () else .error .io) := by
  rw [F.flush_eq, show F.backing s = .file path true from dirty]
  rfl

/-- All that a flush can come to: there was nothing to write, the rows were written, or they were not and there
is as much to write as before. -/
theorem flush_cases (file : ∃ isDirty, F.backing s = .file path isDirty) (disk : Disk) :
    (F.IsClean path s ∧ F.flush s disk = (s, disk, .ok ())) ∨
      (F.IsDirty path s ∧ ∃ after,
        after.lookup path = some (.file (Text.utf8 (F.text (F.rows s)).toList)) ∧
          F.flush s disk = (F.backed s (.file path false), after, .ok ())) ∨
      (F.IsDirty path s ∧ ∃ after, F.flush s disk = (s, after, .error .io)) := by
  rcases isDirty_or_isClean file with dirty | clean
  · have outcome := flush_of_isDirty dirty disk
    rcases replaced : disk.replace path (Text.utf8 (F.text (F.rows s)).toList) with ⟨after, isDone⟩
    rw [replaced] at outcome
    cases isDone with
    | true =>
      have written := (Disk.lookup_of_replace (congrArg Prod.snd replaced)).1
      rw [replaced] at written
      exact Or.inr (Or.inl ⟨dirty, after, written, outcome⟩)
    | false =>
      have still := backed_of_backing dirty
      exact Or.inr (Or.inr ⟨dirty, after, outcome.trans (congrArg (Prod.mk · _) still)⟩)
  · exact Or.inl ⟨clean, flush_of_isClean clean disk⟩

theorem step_of_saves {c : FileCall κ} (saves : c.Saves) (w : Watched σ) :
    F.step path w c =
      ({ w with store := (F.flush w.store w.disk).1, disk := (F.flush w.store w.disk).2.1 },
        (F.flush w.store w.disk).2.2) := by
  cases c with
  | flush | close => rfl
  | init | change k => contradiction

theorem step_of_refused {k : κ} {cause : StoreError}
    (refused : (F.step path w (.change k)).2 = .error cause) : (F.step path w (.change k)).1 = w := by
  cases outcome : F.change w.store k with
  | error other => simp only [step, outcome]
  | ok t =>
    simp only [step, outcome] at refused
    contradiction

theorem step_of_unread {cause : StoreError} (unread : (F.step path w .init).2 = .error cause) :
    (F.step path w .init).1 = w := by
  cases outcome : F.init w.store w.disk with
  | error other => simp only [step, outcome]
  | ok t =>
    simp only [step, outcome] at unread
    contradiction

theorem Settled.of_dirty (dirty : F.IsDirty path w.store) : F.Settled path excuse w :=
  ⟨⟨true, dirty⟩, fun clean => absurd clean (not_isClean dirty)⟩

theorem Settled.save (h : F.Settled path excuse w) {c : FileCall κ} (saves : c.Saves) :
    F.Settled path excuse (F.step path w c).1 := by
  rw [step_of_saves saves]
  rcases flush_cases h.file w.disk with
    ⟨-, idle⟩ | ⟨-, after, written, done⟩ | ⟨dirty, after, failed⟩
  · rw [idle]
    exact h
  · rw [done]
    refine ⟨⟨false, F.backing_backed _ _⟩, fun _ => Or.inr ?_⟩
    unfold IsWritten
    rw [F.rows_backed]
    exact written
  · rw [failed]
    exact .of_dirty dirty

theorem Settled.change (h : F.Settled path excuse w) (k : κ) :
    F.Settled path excuse (F.step path w (.change k)).1 := by
  cases outcome : F.change w.store k with
  | error cause =>
    simp only [step, outcome]
    exact h
  | ok t =>
    obtain ⟨isDirty, file⟩ := h.file
    have dirty : F.IsDirty path t := by
      unfold IsDirty
      rw [F.backing_of_change outcome, file]
      rfl
    simp only [step, outcome]
    exact .of_dirty dirty

theorem Settled.call (h : F.Settled path excuse w) {c : FileCall κ} (other : c ≠ .init) :
    F.Settled path excuse (F.step path w c).1 := by
  cases c with
  | init => exact absurd rfl other
  | change k => exact h.change k
  | flush => exact h.save trivial
  | close => exact h.save trivial

theorem settled_of_init {t : σ} {disk : Disk} (file : ∃ isDirty, F.backing s = .file path isDirty)
    (read : F.init s disk = .ok t) :
    F.Settled path (IsUnchanged path) ⟨t, disk, disk.lookup path, false⟩ := by
  refine ⟨?_, fun _ => Or.inl ⟨rfl, rfl⟩⟩
  obtain ⟨isDirty, file⟩ := file
  exact ⟨isDirty, (F.backing_of_init read).trans file⟩

theorem Settled.init (h : F.Settled path (IsUnchanged path) w) :
    F.Settled path (IsUnchanged path) (F.step path w .init).1 := by
  cases outcome : F.init w.store w.disk with
  | error cause =>
    simp only [step, outcome]
    exact h
  | ok t =>
    simp only [step, outcome]
    exact settled_of_init h.file outcome

theorem Settled.meanwhile (h : F.Settled path excuse w) {disk : Disk}
    (quiet : disk.lookup path = w.disk.lookup path)
    (stable : excuse w → excuse { w with disk := disk }) :
    F.Settled path excuse { w with disk := disk } := by
  refine ⟨h.file, fun clean => ?_⟩
  rcases h.clean clean with excused | written
  · exact Or.inl (stable excused)
  · exact Or.inr (quiet.trans written)

theorem Leads.settled (leads : F.Leads path may v w) (start : F.Settled path excuse v)
    (calls : ∀ w c, may c → F.Settled path excuse w → F.Settled path excuse (F.step path w c).1)
    (stable : ∀ (w : Watched σ) (disk : Disk), disk.lookup path = w.disk.lookup path →
      excuse w → excuse { w with disk := disk }) : F.Settled path excuse w := by
  induction leads with
  | here => exact start
  | call before c allowed ih => exact calls _ c allowed ih
  | meanwhile before disk quiet ih => exact ih.meanwhile quiet (stable _ disk quiet)

theorem Reached.settled (reached : F.Reached path w) : F.Settled path (IsUnchanged path) w := by
  obtain ⟨s, t, disk, file, read, leads⟩ := reached
  apply leads.settled (settled_of_init file read)
  · intro w c _ h
    by_cases reading : c = .init
    · rw [reading]
      exact h.init
    · exact h.call reading
  · rintro w disk quiet ⟨same, unchanged⟩
    exact ⟨quiet.trans same, unchanged⟩

theorem step_saves (h : F.Settled path excuse w) {c : FileCall κ} (saves : c.Saves) :
    F.rows (F.step path w c).1.store = F.rows w.store ∧
      ((F.step path w c).2 = .ok () ∧ F.IsClean path (F.step path w c).1.store ∨
        (F.step path w c).2 = .error .io ∧ F.IsDirty path (F.step path w c).1.store) := by
  rw [step_of_saves saves]
  rcases flush_cases h.file w.disk with
    ⟨clean, idle⟩ | ⟨-, after, -, done⟩ | ⟨dirty, after, failed⟩
  · rw [idle]
    exact ⟨rfl, Or.inl ⟨rfl, clean⟩⟩
  · rw [done]
    exact ⟨F.rows_backed _ _, Or.inl ⟨rfl, F.backing_backed _ _⟩⟩
  · rw [failed]
    exact ⟨rfl, Or.inr ⟨rfl, dirty⟩⟩

theorem Leads.written (leads : F.Leads path (· ≠ .init) v w) (dirty : F.IsDirty path v.store) :
    F.Settled path (fun _ => False) w := by
  apply leads.settled (.of_dirty dirty)
  · intro w c other h
    exact h.call other
  · intro w disk _ impossible
    exact impossible

variable (F path)

/-- No change that was acknowledged is forgotten. A store that has nothing to write is unchanged or written.
Once a save has failed, the next one that is done, before the file is read again, writes all there is. -/
structure Remembers : Prop where
  clean : ∀ w, F.Reached path w → F.IsClean path w.store → IsUnchanged path w ∨ F.IsWritten path w
  saved : ∀ w c, F.Reached path w → c.Saves → (F.step path w c).2 = .ok () →
    F.IsClean path (F.step path w c).1.store
  failed : ∀ w c cause, F.Reached path w → c.Saves → (F.step path w c).2 = .error cause →
    F.rows (F.step path w c).1.store = F.rows w.store ∧ F.IsDirty path (F.step path w c).1.store
  resumed : ∀ w c cause v again, F.Reached path w → c.Saves → (F.step path w c).2 = .error cause →
    F.Leads path (· ≠ .init) (F.step path w c).1 v → again.Saves →
    (F.step path v again).2 = .ok () → F.IsWritten path (F.step path v again).1
  idle : ∀ w c, F.IsClean path w.store → c.Saves → F.step path w c = (w, .ok ())
  refused : ∀ w k cause, (F.step path w (.change k)).2 = .error cause →
    (F.step path w (.change k)).1 = w
  unread : ∀ w cause, (F.step path w .init).2 = .error cause → (F.step path w .init).1 = w

theorem remembers : F.Remembers path where
  clean := fun w reached clean => reached.settled.clean clean
  saved := by
    intro w c reached saves done
    rcases (step_saves reached.settled saves).2 with ⟨-, clean⟩ | ⟨failed, -⟩
    · exact clean
    · rw [failed] at done
      contradiction
  failed := by
    intro w c cause reached saves failed
    obtain ⟨rows, outcome⟩ := step_saves reached.settled saves
    rcases outcome with ⟨done, -⟩ | ⟨-, dirty⟩
    · rw [done] at failed
      contradiction
    · exact ⟨rows, dirty⟩
  resumed := by
    intro w c cause v again reached saves failed leads savesAgain done
    rcases (step_saves reached.settled saves).2 with ⟨well, -⟩ | ⟨-, dirty⟩
    · rw [well] at failed
      contradiction
    · have settled := leads.written dirty
      rcases (step_saves settled savesAgain).2 with ⟨-, clean⟩ | ⟨bad, -⟩
      · exact ((settled.save savesAgain).clean clean).resolve_left id
      · rw [bad] at done
        contradiction
  idle := by
    intro w c clean saves
    rw [step_of_saves saves, flush_of_isClean clean]
  refused := fun _ _ _ refused => step_of_refused refused
  unread := fun _ _ unread => step_of_unread unread

end Filing

/-- Neither kind of store in a file forgets a change. -/
theorem acknowledged_changes_kept (path : String) :
    IdentityStore.filing.Remembers path ∧ GatewayStore.filing.Remembers path :=
  ⟨IdentityStore.filing.remembers path, GatewayStore.filing.remembers path⟩

theorem failed_save_made_up :
    let blocked : Disk := ⟨[(["g.json.tmp"], .folder)], []⟩
    let opened : Watched GatewayStore := ⟨.make (.file "g.json" false), blocked, none, false⟩
    let changed := (GatewayStore.filing.step "g.json" opened (.change (.put ⟨⟨5⟩, none⟩))).1
    let tried := GatewayStore.filing.step "g.json" changed .flush
    let saved := GatewayStore.filing.step "g.json" { tried.1 with disk := ⟨[], []⟩ } .close
    GatewayStore.filing.Reached "g.json" changed ∧ tried.2 = .error .io ∧ saved.2 = .ok () ∧
      GatewayStore.filing.IsWritten "g.json" saved.1 := by
  intro blocked opened changed tried saved
  have read : GatewayStore.filing.init opened.store blocked = .ok opened.store := by rfl
  have reached : GatewayStore.filing.Reached "g.json" changed :=
    ⟨opened.store, opened.store, blocked, ⟨false, rfl⟩, read, .call .here _ trivial⟩
  have failed : tried.2 = .error .io := by rfl
  have done : saved.2 = .ok () := by rfl
  have quiet : (⟨[], []⟩ : Disk).lookup "g.json" = tried.1.disk.lookup "g.json" := by rfl
  have written := (acknowledged_changes_kept "g.json").2.resumed changed .flush .io
    { tried.1 with disk := ⟨[], []⟩ } .close reached trivial failed (.meanwhile .here _ quiet) trivial done
  exact ⟨reached, failed, done, written⟩

end IdentityDirectory
