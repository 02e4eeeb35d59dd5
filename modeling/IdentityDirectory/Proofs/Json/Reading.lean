import Mathlib.Data.List.DropRight
import IdentityDirectory.Json.Reader
import IdentityDirectory.Json.Writer
import IdentityDirectory.Proofs.Json.Quoted
import IdentityDirectory.Proofs.Results
/-!
Texts of JSON values. Blanks may stand in a text wherever the grammar lets them; what is written on one line
or indented is such a text, and each text is read as the value that it is written for.
-/
namespace IdentityDirectory.Json

def AllBlank (s : List Char) : Prop := ∀ c ∈ s, isBlank c = true

mutual
/-- Texts of a value that holds no numbers and nothing broken. -/
inductive Written : Json → List Char → Prop where
  | null : Written .null nullText
  | bool (b : Bool) : Written (.bool b) (boolText b)
  | string (t : String) : Written (.string t) (quote t.toList)
  | emptyArray : Written (.array []) ['[', ']']
  | array {vs : List Json} {s blanks : List Char} (items : WrittenItems vs s)
      (blank : AllBlank blanks) : Written (.array vs) ('[' :: s ++ blanks ++ [']'])
  | emptyObject : Written (.object []) ['\x7b', '\x7d']
  | object {ms : List (String × Json)} {s blanks : List Char} (members : WrittenMembers ms s)
      (blank : AllBlank blanks) : Written (.object ms) ('\x7b' :: s ++ blanks ++ ['\x7d'])

inductive WrittenItems : List Json → List Char → Prop where
  | last {v : Json} {s blanks : List Char} (blank : AllBlank blanks) (item : Written v s) :
      WrittenItems [v] (blanks ++ s)
  | more {v : Json} {vs : List Json} {s t blanks : List Char} (blank : AllBlank blanks)
      (item : Written v s) (items : WrittenItems vs t) :
      WrittenItems (v :: vs) (blanks ++ s ++ ',' :: t)

inductive WrittenMembers : List (String × Json) → List Char → Prop where
  | last {key : String} {v : Json} {s blanks between : List Char} (blank : AllBlank blanks)
      (gap : AllBlank between) (item : Written v s) :
      WrittenMembers [(key, v)] (blanks ++ quote key.toList ++ ':' :: (between ++ s))
  | more {key : String} {v : Json} {ms : List (String × Json)} {s t blanks between : List Char}
      (blank : AllBlank blanks) (gap : AllBlank between) (item : Written v s)
      (members : WrittenMembers ms t) :
      WrittenMembers ((key, v) :: ms) (blanks ++ quote key.toList ++ ':' :: (between ++ s) ++ ',' :: t)
end

theorem skip_append {blanks : List Char} (blank : AllBlank blanks) (s : List Char) :
    skip (blanks ++ s) = skip s :=
  List.dropWhile_append_of_pos blank

theorem skip_cons {c : Char} (solid : isBlank c = false) (s : List Char) : skip (c :: s) = c :: s := by
  rw [skip, List.dropWhile_cons_of_neg (by simp [solid])]

theorem skip_skip (s : List Char) : skip (skip s) = skip s := List.dropWhile_idempotent isBlank s

theorem readValue_skip (fuel : Nat) (s : List Char) : readValue fuel (skip s) = readValue fuel s := by
  cases fuel with
  | zero => rfl
  | succ fuel => rw [readValue, readValue, skip_skip]

theorem readItems_skip (fuel : Nat) (s : List Char) : readItems fuel (skip s) = readItems fuel s := by
  cases fuel with
  | zero => rfl
  | succ fuel => rw [readItems, readItems, readValue_skip]

theorem readMembers_skip (fuel : Nat) (s : List Char) :
    readMembers fuel (skip s) = readMembers fuel s := by
  cases fuel with
  | zero => rfl
  | succ fuel => rw [readMembers, readMembers, readKey, readKey, skip_skip]

theorem Written.head {v : Json} {s : List Char} (written : Written v s) :
    ∃ c t, s = c :: t ∧ isBlank c = false ∧ c ≠ ']' := by
  cases written with
  | null => exact ⟨_, _, rfl, rfl, by decide⟩
  | bool b => cases b <;> exact ⟨_, _, rfl, rfl, by decide⟩
  | string t => exact ⟨_, _, rfl, rfl, by decide⟩
  | emptyArray => exact ⟨_, _, rfl, rfl, by decide⟩
  | array items blank => exact ⟨_, _, rfl, rfl, by decide⟩
  | emptyObject => exact ⟨_, _, rfl, rfl, by decide⟩
  | object members blank => exact ⟨_, _, rfl, rfl, by decide⟩

theorem WrittenItems.head {vs : List Json} {s : List Char} (written : WrittenItems vs s)
    (rest : List Char) : ∃ c t, skip (s ++ rest) = c :: t ∧ c ≠ ']' := by
  cases written with
  | last blank item =>
    obtain ⟨c, t, rfl, solid, other⟩ := item.head
    refine ⟨c, t ++ rest, ?_, other⟩
    rw [List.append_assoc, skip_append blank, List.cons_append, skip_cons solid]
  | @more _ _ _ tail _ blank item items =>
    obtain ⟨c, t, rfl, solid, other⟩ := item.head
    refine ⟨c, t ++ (',' :: tail ++ rest), ?_, other⟩
    rw [List.append_assoc, List.append_assoc, skip_append blank, List.cons_append, skip_cons solid]

theorem WrittenMembers.head {ms : List (String × Json)} {s : List Char} (written : WrittenMembers ms s)
    (rest : List Char) : ∃ t, skip (s ++ rest) = '\x22' :: t := by
  cases written with
  | last blank gap item =>
    simp only [List.append_assoc, skip_append blank, quote, List.cons_append]
    exact ⟨_, skip_cons (by decide) _⟩
  | more blank gap item members =>
    simp only [List.append_assoc, skip_append blank, quote, List.cons_append]
    exact ⟨_, skip_cons (by decide) _⟩

theorem readScalar_quote (t : String) (rest : List Char) :
    readScalar (quote t.toList ++ rest) = some (.string t, rest) := by
  have text : quote t.toList ++ rest = '\x22' :: (t.toList.flatMap escape ++ '\x22' :: rest) := by
    simp [quote]
  rw [text, readScalar]
  simp only [scanPieces_quoted, joinPieces_map_piece, bind, Option.bind, pure, String.ofList_toList]

theorem readKey_quote {blanks : List Char} (blank : AllBlank blanks) (key : String)
    (rest : List Char) : readKey (blanks ++ (quote key.toList ++ rest)) = some (some key, rest) := by
  have solid : skip (quote key.toList ++ rest) = quote key.toList ++ rest := skip_cons (by decide) _
  rw [readKey, skip_append blank, solid, readScalar_quote]

theorem ofMembers_some (ms : List (String × Json)) :
    ofMembers (ms.map fun m => (some m.1, m.2)) = .object ms := by
  have read : (ms.map fun m => (some m.1, m.2)).mapM
      (fun m : Option String × Json => m.1.map fun key => (key, m.2)) = some (ms.map id) :=
    mapM_map fun m _ => rfl
  rw [ofMembers, read, List.map_id]

theorem readValue_quote {fuel : Nat} (t : String) (rest : List Char) :
    readValue (fuel + 1) (quote t.toList ++ rest) = some (.string t, rest) := by
  have solid : skip (quote t.toList ++ rest) = quote t.toList ++ rest := skip_cons (by decide) _
  have read := readScalar_quote t rest
  rw [readValue, solid]
  rw [quote, List.cons_append, List.cons_append] at read ⊢
  exact read

theorem readValue_array {fuel : Nat} {vs : List Json} {s blanks rest : List Char}
    (items : WrittenItems vs s)
    (read : readItems fuel (s ++ (blanks ++ ']' :: rest)) = some (vs, rest)) :
    readValue (fuel + 1) ('[' :: s ++ blanks ++ [']'] ++ rest) = some (.array vs, rest) := by
  have text : '[' :: s ++ blanks ++ [']'] ++ rest = '[' :: (s ++ (blanks ++ ']' :: rest)) := by simp
  obtain ⟨c, t, first, other⟩ := items.head (blanks ++ ']' :: rest)
  rw [← readItems_skip, first] at read
  rw [text, readValue, skip_cons (by decide)]
  simp only [first]
  split
  · rename_i same
    exact absurd (List.cons.inj same).1 other
  · rw [read]
    rfl

theorem readValue_object {fuel : Nat} {ms : List (String × Json)} {s blanks rest : List Char}
    (members : WrittenMembers ms s)
    (read : readMembers fuel (s ++ (blanks ++ '\x7d' :: rest)) =
      some (ms.map fun m => (some m.1, m.2), rest)) :
    readValue (fuel + 1) ('\x7b' :: s ++ blanks ++ ['\x7d'] ++ rest) = some (.object ms, rest) := by
  have text : '\x7b' :: s ++ blanks ++ ['\x7d'] ++ rest =
      '\x7b' :: (s ++ (blanks ++ '\x7d' :: rest)) := by simp
  obtain ⟨t, first⟩ := members.head (blanks ++ '\x7d' :: rest)
  rw [← readMembers_skip, first] at read
  rw [text, readValue, skip_cons (by decide)]
  simp only [first]
  split
  · rename_i same
    exact absurd (List.cons.inj same).1 (by decide)
  · rw [read]
    simp only [Option.map_some, ofMembers_some]

/-! Behind an item stands a comma or a closing bracket, and behind a member too. -/

theorem readItems_comma {fuel : Nat} {v : Json} {vs : List Json} {s t rest : List Char}
    (first : readValue fuel s = some (v, ',' :: t)) (others : readItems fuel t = some (vs, rest)) :
    readItems (fuel + 1) s = some (v :: vs, rest) := by
  rw [readItems, first]
  simp only [skip_cons (by decide : isBlank ',' = false), others, Option.map_some]

theorem readItems_closed {fuel : Nat} {v : Json} {s blanks rest : List Char} (blank : AllBlank blanks)
    (first : readValue fuel s = some (v, blanks ++ ']' :: rest)) :
    readItems (fuel + 1) s = some ([v], rest) := by
  rw [readItems, first]
  simp only [skip_append blank, skip_cons (by decide : isBlank ']' = false)]

theorem readMembers_comma {fuel : Nat} {key : Option String} {v : Json}
    {ms : List (Option String × Json)} {s inner t rest : List Char}
    (name : readKey s = some (key, ':' :: inner)) (first : readValue fuel inner = some (v, ',' :: t))
    (others : readMembers fuel t = some (ms, rest)) :
    readMembers (fuel + 1) s = some ((key, v) :: ms, rest) := by
  rw [readMembers, name]
  simp only [skip_cons (by decide : isBlank ':' = false), first,
    skip_cons (by decide : isBlank ',' = false), others, Option.map_some]

theorem readMembers_closed {fuel : Nat} {key : Option String} {v : Json} {s inner blanks rest : List Char}
    (blank : AllBlank blanks) (name : readKey s = some (key, ':' :: inner))
    (first : readValue fuel inner = some (v, blanks ++ '\x7d' :: rest)) :
    readMembers (fuel + 1) s = some ([(key, v)], rest) := by
  rw [readMembers, name]
  simp only [skip_cons (by decide : isBlank ':' = false), first, skip_append blank,
    skip_cons (by decide : isBlank '\x7d' = false)]

theorem readValue_blank {fuel : Nat} {blanks : List Char} (blank : AllBlank blanks) (s : List Char) :
    readValue fuel (blanks ++ s) = readValue fuel s := by
  rw [← readValue_skip, skip_append blank, readValue_skip]

mutual
/-- A text is read as its value if there is fuel for each of its characters. -/
theorem readValue_written {v : Json} {s : List Char} (written : Written v s) {fuel : Nat}
    (rest : List Char) (enough : s.length < fuel) : readValue fuel (s ++ rest) = some (v, rest) := by
  obtain ⟨fuel, rfl⟩ := Nat.exists_eq_succ_of_ne_zero (Nat.ne_zero_of_lt enough)
  cases written with
  | null => rfl
  | bool b => cases b <;> rfl
  | string t => exact readValue_quote t rest
  | emptyArray => rfl
  | array items blank =>
    apply readValue_array items
    apply readItems_written items rest blank
    simp at enough
    omega
  | emptyObject => rfl
  | object members blank =>
    apply readValue_object members
    apply readMembers_written members rest blank
    simp at enough
    omega

theorem readItems_written {vs : List Json} {s : List Char} (written : WrittenItems vs s) {fuel : Nat}
    {blanks : List Char} (rest : List Char) (behind : AllBlank blanks) (enough : s.length + 1 < fuel) :
    readItems fuel (s ++ (blanks ++ ']' :: rest)) = some (vs, rest) := by
  obtain ⟨fuel, rfl⟩ := Nat.exists_eq_succ_of_ne_zero (Nat.ne_zero_of_lt enough)
  cases written with
  | last blank item =>
    apply readItems_closed behind
    rw [List.append_assoc, readValue_blank blank]
    apply readValue_written item
    simp at enough
    omega
  | @more v vs s t _ blank item items =>
    simp at enough
    apply readItems_comma
    · rw [List.append_assoc, List.append_assoc, readValue_blank blank]
      exact readValue_written item _ (by omega)
    · exact readItems_written items rest behind (by omega)

theorem readMembers_written {ms : List (String × Json)} {s : List Char} (written : WrittenMembers ms s)
    {fuel : Nat} {blanks : List Char} (rest : List Char) (behind : AllBlank blanks)
    (enough : s.length + 1 < fuel) :
    readMembers fuel (s ++ (blanks ++ '\x7d' :: rest)) =
      some (ms.map fun m => (some m.1, m.2), rest) := by
  obtain ⟨fuel, rfl⟩ := Nat.exists_eq_succ_of_ne_zero (Nat.ne_zero_of_lt enough)
  cases written with
  | @last key v s before between blank gap item =>
    have text : before ++ quote key.toList ++ ':' :: (between ++ s) ++ (blanks ++ '\x7d' :: rest) =
        before ++ (quote key.toList ++ ':' :: (between ++ (s ++ (blanks ++ '\x7d' :: rest)))) := by simp
    simp at enough
    rw [text]
    apply readMembers_closed behind (readKey_quote blank key _)
    rw [readValue_blank gap]
    exact readValue_written item _ (by omega)
  | @more key v ms s t before between blank gap item members =>
    have text : before ++ quote key.toList ++ ':' :: (between ++ s) ++ ',' :: t
          ++ (blanks ++ '\x7d' :: rest) =
        before ++ (quote key.toList ++ ':' :: (between ++ (s ++ ',' :: (t ++ (blanks ++ '\x7d' :: rest))))) :=
      by simp
    simp at enough
    rw [text]
    apply readMembers_comma (readKey_quote blank key _)
    · rw [readValue_blank gap]
      exact readValue_written item _ (by omega)
    · exact readMembers_written members rest behind (by omega)
end

/-- A value that is read back from what is written for it: without numbers, whose digits it would have to
answer for, and with nothing broken. -/
def isPlainScalar : Json → Bool
  | number _ => false
  | broken => false
  | _ => true

theorem allBlank_newLine (level : Nat) : AllBlank (newLine level) := by
  intro c inside
  rcases List.mem_cons.mp inside with rfl | inside
  · rfl
  · rw [(List.mem_replicate.mp inside).2]
    rfl

mutual
theorem written_pretty (level : Nat) (v : Json) (plain : v.all isPlainScalar = true) :
    Written v (pretty level v) := by
  match v with
  | null => exact .null
  | bool b => exact .bool b
  | number l => simp [all, isPlainScalar] at plain
  | string t => exact .string t
  | broken => simp [all, isPlainScalar] at plain
  | array [] => exact .emptyArray
  | array (w :: vs) =>
    rw [pretty]
    exact .array (written_prettyItems (level + 1) (w :: vs) nofun plain) (allBlank_newLine level)
  | object [] => exact .emptyObject
  | object (m :: ms) =>
    rw [pretty]
    exact .object (written_prettyMembers (level + 1) (m :: ms) nofun plain) (allBlank_newLine level)

theorem written_prettyItems (level : Nat) (vs : List Json) (filled : vs ≠ [])
    (plain : allItems isPlainScalar vs = true) : WrittenItems vs (prettyItems level vs) := by
  match vs with
  | [v] =>
    rw [allItems, Bool.and_eq_true] at plain
    rw [prettyItems]
    exact .last (allBlank_newLine level) (written_pretty level v plain.1)
  | v :: w :: vs =>
    rw [allItems, Bool.and_eq_true] at plain
    rw [prettyItems]
    exact .more (allBlank_newLine level) (written_pretty level v plain.1)
      (written_prettyItems level (w :: vs) nofun plain.2)

theorem written_prettyMembers (level : Nat) (ms : List (String × Json)) (filled : ms ≠ [])
    (plain : allMembers isPlainScalar ms = true) : WrittenMembers ms (prettyMembers level ms) := by
  have gap : AllBlank [' '] := by simp [AllBlank, isBlank]
  match ms with
  | [(key, v)] =>
    rw [allMembers, Bool.and_eq_true] at plain
    rw [prettyMembers]
    exact .last (allBlank_newLine level) gap (written_pretty level v plain.1)
  | (key, v) :: n :: ms =>
    rw [allMembers, Bool.and_eq_true] at plain
    rw [prettyMembers]
    exact .more (allBlank_newLine level) gap (written_pretty level v plain.1)
      (written_prettyMembers level (n :: ms) nofun plain.2)
end

theorem allBlank_nil : AllBlank [] := List.forall_mem_nil _

mutual
theorem written_compact (v : Json) (plain : v.all isPlainScalar = true) : Written v (compact v) := by
  match v with
  | null => exact .null
  | bool b => exact .bool b
  | number l => simp [all, isPlainScalar] at plain
  | string t => exact .string t
  | broken => simp [all, isPlainScalar] at plain
  | array [] => exact .emptyArray
  | array (w :: vs) =>
    have text := Written.array (written_compactItems (w :: vs) nofun plain) allBlank_nil
    rwa [List.append_nil] at text
  | object [] => exact .emptyObject
  | object (m :: ms) =>
    have text := Written.object (written_compactMembers (m :: ms) nofun plain) allBlank_nil
    rwa [List.append_nil] at text

theorem written_compactItems (vs : List Json) (filled : vs ≠ [])
    (plain : allItems isPlainScalar vs = true) : WrittenItems vs (compactItems vs) := by
  match vs with
  | [v] =>
    rw [allItems, Bool.and_eq_true] at plain
    have item := written_compact v plain.1
    exact WrittenItems.last allBlank_nil item
  | v :: w :: vs =>
    rw [allItems, Bool.and_eq_true] at plain
    have item := written_compact v plain.1
    have items := written_compactItems (w :: vs) nofun plain.2
    exact WrittenItems.more allBlank_nil item items

theorem written_compactMembers (ms : List (String × Json)) (filled : ms ≠ [])
    (plain : allMembers isPlainScalar ms = true) : WrittenMembers ms (compactMembers ms) := by
  match ms with
  | [(key, v)] =>
    rw [allMembers, Bool.and_eq_true] at plain
    have item := written_compact v plain.1
    exact WrittenMembers.last allBlank_nil allBlank_nil item
  | (key, v) :: n :: ms =>
    rw [allMembers, Bool.and_eq_true] at plain
    rw [compactMembers]
    have item := written_compact v plain.1
    have members := written_compactMembers (n :: ms) nofun plain.2
    exact WrittenMembers.more allBlank_nil allBlank_nil item members
end

theorem ofText?_written {v : Json} {s : List Char} (written : Written v s) :
    ofText? (String.ofList s) = some v := by
  have read := readValue_written written (@List.nil Char) (Nat.lt_of_lt_of_le (Nat.lt_succ_self _)
    (by omega : s.length + 1 ≤ 2 * s.length + 2))
  rw [List.append_nil] at read
  simp only [ofText?, String.toList_ofList, read]
  rfl

theorem ofText?_toText (v : Json) (plain : v.all isPlainScalar = true) : ofText? v.toText = some v :=
  ofText?_written (written_compact v plain)

theorem ofText?_toPrettyText (v : Json) (plain : v.all isPlainScalar = true) :
    ofText? v.toPrettyText = some v :=
  ofText?_written (written_pretty 0 v plain)

end IdentityDirectory.Json
