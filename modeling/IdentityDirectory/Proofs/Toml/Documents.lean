import Mathlib.Data.List.Nodup
import IdentityDirectory.Proofs.Text.Pieces
import IdentityDirectory.Proofs.Toml.Scalars
/-!
Documents are read back. Each line of a section gives one statement, the statements of a section fill the
table of its header, and the tables stand in the order of their sections.
-/
namespace IdentityDirectory.Toml
open Text

/-! Bare names. -/

def IsBareName (name : String) : Prop := name.toList ≠ [] ∧ name.toList.all isBare = true

instance (name : String) : Decidable (IsBareName name) := inferInstanceAs (Decidable (_ ∧ _))

theorem IsBareName.each {name : String} (bare : IsBareName name) : ∀ c ∈ name.toList, isBare c = true :=
  List.all_eq_true.mp bare.2

theorem bare_ne {c x : Char} (bare : isBare c = true) (foreign : isBare x = false) : c ≠ x := by
  rintro rfl
  rw [foreign] at bare
  contradiction

theorem bare_head {name : String} (bare : IsBareName name) :
    ∃ c t, name.toList = c :: t ∧ isBare c = true := by
  cases shape : name.toList with
  | nil => exact absurd shape bare.1
  | cons c t => exact ⟨c, t, rfl, bare.each c (shape ▸ List.mem_cons_self)⟩

theorem bare_ne_cons {name : String} (bare : IsBareName name) {x : Char} (foreign : isBare x = false)
    (s t : List Char) : name.toList ++ s ≠ x :: t := by
  obtain ⟨c, u, shape, first⟩ := bare_head bare
  rw [shape]
  exact fun same => bare_ne first foreign (List.cons.inj same).1

theorem skip_solid {c : Char} (solid : isSpace c = false) (s : List Char) : skip (c :: s) = c :: s :=
  List.dropWhile_cons_of_neg (by simp [solid])

theorem skip_bare {name : String} (bare : IsBareName name) (s : List Char) :
    skip (name.toList ++ s) = name.toList ++ s := by
  obtain ⟨c, t, shape, first⟩ := bare_head bare
  have notBlank : c ≠ ' ' := bare_ne first rfl
  have notTab : c ≠ '\t' := bare_ne first rfl
  rw [shape, List.cons_append, skip_solid (by simp [isSpace, notBlank, notTab])]

/-- What ends a bare name: neither does it belong to the name, nor does it make the name a path. -/
def Stops : List Char → Prop
  | [] => True
  | c :: s => isBare c = false ∧ ∀ t, skip (c :: s) ≠ '.' :: t

theorem scanPart_bare {name : String} (bare : IsBareName name) {s : List Char} (stops : Stops s) :
    scanPart (name.toList ++ s) = some (name, s) := by
  have boundary : ∀ c ∈ s.head?, isBare c = false := by
    cases s with
    | nil => nofun
    | cons c t =>
      rintro _ ⟨⟩
      exact stops.1
  have whole : (name.toList ++ s).span isBare = (name.toList, s) := span_of_boundary bare.each boundary
  have filled : name.toList.isEmpty = false := List.isEmpty_eq_false_iff.mpr bare.1
  rw [scanPart]
  · simp only [whole, filled, Bool.false_eq_true, ↓reduceIte, String.ofList_toList]
  · exact fun t => bare_ne_cons bare rfl s t
  · exact fun t => bare_ne_cons bare rfl s t

theorem scanKey_bare {name : String} (bare : IsBareName name) {s : List Char} (stops : Stops s) :
    scanKey (name.toList ++ s) = some ([], name, skip s) := by
  have parts : scanParts (nestingLimit - 1) (name.toList ++ s) = some ([name], skip s) := by
    rw [nestingLimit, scanParts, skip_bare bare, scanPart_bare bare stops]
    simp only [Option.bind_eq_bind, Option.bind_some]
    cases s with
    | nil => rfl
    | cons c t =>
      split
      · rename_i same
        exact absurd same (stops.2 _)
      · rfl
  simp only [scanKey, parts, Option.bind_eq_bind, Option.bind_some]
  rfl

/-! Lines. -/

/-- A text that is read as statements, with more fuel than it has characters. -/
def Reads (s : List Char) (statements : List Statement) : Prop :=
  ∀ fuel, s.length < fuel → readStatements fuel s = some statements

theorem reads_nil : Reads [] [] := by
  intro fuel enough
  obtain ⟨fuel, rfl⟩ := Nat.exists_eq_add_one_of_ne_zero (Nat.ne_zero_of_lt enough)
  rfl

theorem reads_blank {s : List Char} {statements : List Statement} (rest : Reads s statements) :
    Reads ('\n' :: s) statements := by
  intro fuel enough
  obtain ⟨fuel, rfl⟩ := Nat.exists_eq_add_one_of_ne_zero (Nat.ne_zero_of_lt enough)
  exact rest fuel (Nat.lt_of_succ_lt_succ enough)

theorem reads_line {line s : List Char} {statement : Statement} {statements : List Statement}
    (solid : endLine (line ++ '\n' :: s) = none)
    (read : readStatement (skip (line ++ '\n' :: s)) = some (statement, '\n' :: s))
    (rest : Reads s statements) : Reads (line ++ '\n' :: s) (statement :: statements) := by
  intro fuel enough
  obtain ⟨fuel, rfl⟩ := Nat.exists_eq_add_one_of_ne_zero (Nat.ne_zero_of_lt enough)
  have room : s.length < fuel := by
    rw [List.length_append, List.length_cons] at enough
    omega
  have present : (line ++ '\n' :: s).isEmpty = false := by simp
  have ended : endLine ('\n' :: s) = some s := rfl
  simp only [readStatements, present, solid, read, ended, rest fuel room, bind, Option.bind, pure]
  rfl

theorem endLine_bare {name : String} (bare : IsBareName name) (s : List Char) :
    endLine (name.toList ++ s) = none := by
  obtain ⟨c, t, shape, first⟩ := bare_head bare
  have notComment : c ≠ '#' := bare_ne first rfl
  have notBreak : c ≠ '\n' := bare_ne first rfl
  rw [endLine, skip_bare bare, shape]
  simp [notComment, notBreak]

theorem skip_text? {v : Scalar} {t : List Char} (written : v.text? = some t) (s : List Char) :
    skip (' ' :: (t ++ s)) = t ++ s := by
  obtain ⟨c, u, rfl, unmarked⟩ := text?_head written
  simp only [isMark, List.mem_cons, decide_eq_false_iff_not, not_or] at unmarked
  have solid : isSpace c = false := by simp [isSpace, unmarked.1, unmarked.2.1]
  exact skip_solid solid _

theorem reads_pair {key : String} (bare : IsBareName key) {v : Scalar} {t s : List Char}
    {statements : List Statement} (written : v.text? = some t) (rest : Reads s statements) :
    Reads (key.toList ++ [' ', '=', ' '] ++ t ++ '\n' :: s) (.pair [] key (.scalar v) :: statements) := by
  have shape : key.toList ++ [' ', '=', ' '] ++ t ++ '\n' :: s =
      key.toList ++ ' ' :: '=' :: ' ' :: (t ++ '\n' :: s) := by simp
  have stops : Stops (' ' :: '=' :: ' ' :: (t ++ '\n' :: s)) := ⟨rfl, nofun⟩
  have equals : skip (' ' :: '=' :: ' ' :: (t ++ '\n' :: s)) = '=' :: ' ' :: (t ++ '\n' :: s) := rfl
  apply reads_line _ _ rest
  · rw [shape, endLine_bare bare]
  · rw [shape, skip_bare bare, readStatement, scanKey_bare bare stops, equals]
    · simp only [behind, Option.bind_eq_bind, Option.bind_some, skip_text? written,
        readValue_text? written, ↓reduceIte, Option.pure_def]
    · exact fun u => bare_ne_cons bare rfl _ _
    · exact fun u => bare_ne_cons bare rfl _ _

theorem reads_header {name : String} (bare : IsBareName name) {s : List Char}
    {statements : List Statement} (rest : Reads s statements) :
    Reads ('[' :: name.toList ++ [']'] ++ '\n' :: s) (.header [] name :: statements) := by
  have shape : '[' :: name.toList ++ [']'] ++ '\n' :: s = '[' :: (name.toList ++ ']' :: '\n' :: s) := by
    simp
  have stops : Stops (']' :: '\n' :: s) := ⟨rfl, nofun⟩
  apply reads_line _ _ rest
  · rw [shape]
    rfl
  · rw [shape, skip_solid rfl, readStatement, scanKey_bare bare stops]
    · rfl
    · exact fun u => bare_ne_cons bare rfl _ _

/-! Sections. -/

namespace Section

def statements (s : Section) : List Statement :=
  .header [] s.name :: s.pairs.map fun p => .pair [] p.1 (.scalar p.2)

def keys (s : Section) : List String := s.pairs.map Prod.fst

def member (s : Section) : String × Value :=
  (s.name, .table .header (s.pairs.map fun p => (p.1, .scalar p.2)))

structure IsPlain (s : Section) : Prop where
  name : IsBareName s.name
  keys : ∀ key ∈ s.keys, IsBareName key
  apart : s.keys.Nodup

theorem IsPlain.pairs {s : Section} (plain : s.IsPlain) : ∀ p ∈ s.pairs, IsBareName p.1 :=
  fun p member => plain.keys p.1 (List.mem_map_of_mem member)

theorem isPlain_of_sublist {s : Section} {names : List String} (name : IsBareName s.name)
    (listed : s.keys.Sublist names) (bare : ∀ key ∈ names, IsBareName key) (apart : names.Nodup) :
    s.IsPlain :=
  ⟨name, fun key member => bare key (listed.subset member), listed.nodup apart⟩

end Section

theorem reads_pairs {pairs : List (String × Scalar)} (bare : ∀ p ∈ pairs, IsBareName p.1)
    {lines : List (List Char)} (written : pairs.mapM pairText? = some lines) {s : List Char}
    {statements : List Statement} (rest : Reads s statements) :
    Reads (lines.flatten ++ s) ((pairs.map fun p => .pair [] p.1 (.scalar p.2)) ++ statements) := by
  induction pairs generalizing lines with
  | nil =>
    obtain rfl := Option.some.inj written
    exact rest
  | cons p pairs ih =>
    obtain ⟨first, others⟩ := List.forall_mem_cons.mp bare
    obtain ⟨line, lines, front, behind, rfl⟩ := mapM_cons_eq_some.mp written
    obtain ⟨t, value, rfl⟩ := Option.map_eq_some_iff.mp front
    have read := reads_pair first value (ih others behind)
    simpa using read

theorem reads_section {c : Section} (plain : c.IsPlain) {text : List Char} (written : c.text? = some text)
    {s : List Char} {statements : List Statement} (rest : Reads s statements) :
    Reads (text ++ s) (c.statements ++ statements) := by
  obtain ⟨lines, pairs, rfl⟩ := Option.map_eq_some_iff.mp written
  have read := reads_header plain.name (reads_pairs plain.pairs pairs rest)
  simpa [Section.statements] using read

theorem reads_further {sections : List Section} (plain : ∀ c ∈ sections, c.IsPlain)
    {texts : List (List Char)} (written : sections.mapM Section.text? = some texts) :
    Reads (texts.flatMap ('\n' :: ·)) (sections.flatMap Section.statements) := by
  induction sections generalizing texts with
  | nil =>
    obtain rfl := Option.some.inj written
    exact reads_nil
  | cons c sections ih =>
    obtain ⟨first, others⟩ := List.forall_mem_cons.mp plain
    obtain ⟨text, texts, front, behind, rfl⟩ := mapM_cons_eq_some.mp written
    exact reads_blank (reads_section first front (ih others behind))

theorem reads_sections {sections : List Section} (plain : ∀ c ∈ sections, c.IsPlain)
    {texts : List (List Char)} (written : sections.mapM Section.text? = some texts) :
    Reads (join ['\n'] texts) (sections.flatMap Section.statements) := by
  cases sections with
  | nil =>
    obtain rfl := Option.some.inj written
    exact reads_nil
  | cons c sections =>
    obtain ⟨first, others⟩ := List.forall_mem_cons.mp plain
    obtain ⟨text, texts, front, behind, rfl⟩ := mapM_cons_eq_some.mp written
    rw [join_cons]
    exact reads_section first front (reads_further others behind)

/-- Sections can be written unless a number is too large. -/
theorem exists_toText? {sections : List Section}
    (fit : ∀ c ∈ sections, ∀ p ∈ c.pairs, ∀ v, p.2 = .integer v → isInRange v = true) :
    ∃ text, toText? sections = some text := by
  have value (v : Scalar) (inRange : ∀ n, v = .integer n → isInRange n = true) :
      ∃ t, v.text? = some t := by
    cases v with
    | string t => exact ⟨_, rfl⟩
    | integer n => exact ⟨_, if_pos (inRange n rfl)⟩
    | boolean b => exact ⟨_, rfl⟩
  have pair (c : Section) (there : c ∈ sections) : ∃ lines, c.pairs.mapM pairText? = some lines := by
    apply exists_mapM
    intro p member
    obtain ⟨t, written⟩ := value p.2 (fit c there p member)
    exact ⟨_, congrArg (Option.map _) written⟩
  have section_ (c : Section) (there : c ∈ sections) : ∃ text, c.text? = some text := by
    obtain ⟨lines, written⟩ := pair c there
    exact ⟨_, congrArg (Option.map _) written⟩
  obtain ⟨texts, written⟩ := exists_mapM section_
  exact ⟨_, congrArg (Option.map _) written⟩

/-! The tables that statements make. -/

namespace Members

variable {key : String} {ms : Members}

theorem find?_none (fresh : key ∉ ms.map Prod.fst) : find? key ms = none := by
  rw [find?, Option.map_eq_none_iff, List.find?_eq_none]
  intro m member
  have other : m.1 ≠ key := fun same => fresh (same ▸ List.mem_map_of_mem member)
  simpa using other

theorem find?_last (fresh : key ∉ ms.map Prod.fst) (v : Value) :
    find? key (ms ++ [(key, v)]) = some v := by
  have none := Option.map_eq_none_iff.mp (find?_none fresh)
  rw [find?, List.find?_append, none]
  simp

theorem replace_last (fresh : key ∉ ms.map Prod.fst) (v w : Value) :
    replace key w (ms ++ [(key, v)]) = ms ++ [(key, w)] := by
  have still : ms.map (fun m => if m.1 = key then (key, w) else m) = ms.map id := by
    apply List.map_congr_left
    intro m member
    have other : m.1 ≠ key := fun same => fresh (same ▸ List.mem_map_of_mem member)
    exact if_neg other
  rw [replace, List.map_append, still, List.map_id]
  simp

theorem within_last (change : Members → Option Members) {done made : Members}
    (fresh : key ∉ ms.map Prod.fst) (changed : change done = some made) :
    within change [key] (ms ++ [(key, .table .header done)]) =
      some (ms ++ [(key, .table .header made)]) := by
  rw [within, find?_last fresh]
  simp only [within, changed, Option.map_some, replace_last fresh]

end Members

namespace Draft

theorem applyAll_append (d : Draft) (front rest : List Statement) :
    d.applyAll (front ++ rest) = (d.applyAll front).bind fun d => d.applyAll rest := by
  induction front generalizing d with
  | nil => rfl
  | cons s front ih =>
    simp only [List.cons_append, Draft.applyAll]
    cases d.apply s with
    | none => rfl
    | some e => exact ih e

/-- Pairs go into the table of the last header, as long as their names are new. -/
theorem applyAll_pairs {ms : Members} {name : String} (fresh : name ∉ ms.map Prod.fst)
    {pairs : List (String × Scalar)} {done : Members}
    (apart : (done.map Prod.fst ++ pairs.map Prod.fst).Nodup) :
    applyAll ⟨ms ++ [(name, .table .header done)], [name]⟩
        (pairs.map fun p => .pair [] p.1 (.scalar p.2)) =
      some ⟨ms ++ [(name, .table .header (done ++ pairs.map fun p => (p.1, .scalar p.2)))], [name]⟩ := by
  induction pairs generalizing done with
  | nil => simp [applyAll]
  | cons p pairs ih =>
    have absent : p.1 ∉ done.map Prod.fst := fun member =>
      (List.nodup_cons.mp (List.nodup_middle.mp apart)).1 (List.mem_append_left _ member)
    have defined : Members.define p.1 (.scalar p.2) true [] done = some (done ++ [(p.1, .scalar p.2)]) := by
      rw [Members.define, Members.find?_none absent]
      rfl
    have further : ((done ++ [(p.1, Value.scalar p.2)]).map Prod.fst ++ pairs.map Prod.fst).Nodup := by
      rw [List.map_append, List.append_assoc]
      exact apart
    have step := Members.within_last _ fresh defined
    simp only [List.map_cons, applyAll, apply, step, Option.map_some, Option.bind_some, ih further,
      List.append_assoc, List.singleton_append]

theorem applyAll_section {c : Section} (plain : c.IsPlain) {ms : Members}
    (fresh : c.name ∉ ms.map Prod.fst) (path : List String) :
    applyAll ⟨ms, path⟩ c.statements = some ⟨ms ++ [c.member], [c.name]⟩ := by
  have opened : Members.openTable c.name ms = some (ms ++ [(c.name, .table .header [])]) := by
    rw [Members.openTable, Members.find?_none fresh]
    rfl
  have apart : (([] : Members).map Prod.fst ++ c.pairs.map Prod.fst).Nodup := plain.apart
  have filled := applyAll_pairs fresh apart
  simp only [Section.statements, applyAll, apply, Members.within, opened, Option.map_some,
    Option.bind_some, List.nil_append, filled, Section.member]

theorem applyAll_sections {sections : List Section} (plain : ∀ c ∈ sections, c.IsPlain) {ms : Members}
    (apart : (ms.map Prod.fst ++ sections.map Section.name).Nodup) (path : List String) :
    (applyAll ⟨ms, path⟩ (sections.flatMap Section.statements)).map Draft.members =
      some (ms ++ sections.map Section.member) := by
  induction sections generalizing ms path with
  | nil => simp [applyAll]
  | cons c sections ih =>
    obtain ⟨first, others⟩ := List.forall_mem_cons.mp plain
    have fresh : c.name ∉ ms.map Prod.fst := fun member =>
      (List.nodup_cons.mp (List.nodup_middle.mp apart)).1 (List.mem_append_left _ member)
    have further : ((ms ++ [c.member]).map Prod.fst ++ sections.map Section.name).Nodup := by
      rw [List.map_append, List.append_assoc]
      exact apart
    rw [List.flatMap_cons, applyAll_append, applyAll_section first fresh, Option.bind_some,
      ih others further, List.append_assoc, List.singleton_append, List.map_cons]

end Draft

/-! Whole documents. -/

theorem unifyBreaks_of_free {s : List Char} (free : '\r' ∉ s) : unifyBreaks s = s := by
  induction s with
  | nil => rfl
  | cons c s ih =>
    have other : c ≠ '\r' := fun same => free (same ▸ List.mem_cons_self)
    have behind := ih fun member => free (List.mem_cons_of_mem c member)
    rw [unifyBreaks, behind]
    exact fun t same => absurd same other

theorem return_free_bare {name : String} (bare : IsBareName name) : '\r' ∉ name.toList :=
  fun member => absurd (bare.each _ member) (by decide)

theorem return_free_section {c : Section} (plain : c.IsPlain) {text : List Char}
    (written : c.text? = some text) : '\r' ∉ text := by
  obtain ⟨lines, pairs, rfl⟩ := Option.map_eq_some_iff.mp written
  have free : '\r' ∉ lines.flatten := by
    intro member
    obtain ⟨line, there, inside⟩ := List.mem_flatten.mp member
    obtain ⟨p, within, front⟩ := exists_of_mem_mapM pairs there
    obtain ⟨t, value, rfl⟩ := Option.map_eq_some_iff.mp front
    simp [return_free_bare (plain.pairs p within), return_free_text? value] at inside
  simp [return_free_bare plain.name, free]

theorem ofText?_toText? {sections : List Section} (plain : ∀ c ∈ sections, c.IsPlain)
    (apart : (sections.map Section.name).Nodup) {text : String} (written : toText? sections = some text) :
    ofText? text = some (sections.map Section.member) := by
  obtain ⟨texts, each, rfl⟩ := Option.map_eq_some_iff.mp written
  have free : '\r' ∉ join ['\n'] texts := by
    intro member
    obtain same | ⟨t, there, inside⟩ := mem_join member
    · contradiction
    · obtain ⟨c, within, front⟩ := exists_of_mem_mapM each there
      exact return_free_section (plain c within) front inside
  have unmarked : dropMark (join ['\n'] texts) = join ['\n'] texts := by
    cases texts with
    | nil => rfl
    | cons t texts =>
      obtain ⟨c, -, front⟩ := exists_of_mem_mapM each List.mem_cons_self
      obtain ⟨lines, -, rfl⟩ := Option.map_eq_some_iff.mp front
      rw [join_cons]
      rfl
  have read := reads_sections plain each _ (Nat.lt_succ_self _)
  have names : (([] : Members).map Prod.fst ++ sections.map Section.name).Nodup := apart
  have made := Draft.applyAll_sections plain names []
  simp only [ofText?, String.toList_ofList, unmarked, unifyBreaks_of_free free, read, bind, Option.bind]
  exact made

end IdentityDirectory.Toml
