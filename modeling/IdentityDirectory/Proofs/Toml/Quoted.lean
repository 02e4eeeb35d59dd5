import IdentityDirectory.Proofs.Text.Digits
import IdentityDirectory.Toml.Quoted
/-!
Strings are read back, in whichever of the four forms they are written. Behind the closing quotes the line
ends.
-/
namespace IdentityDirectory.Toml
open Text

/-! Escapes. -/

theorem charOfDigits_hexFixed (c : Char) (short : c.toNat < 65536) :
    charOfDigits (hexFixed 4 c.toNat) = some c := by
  have digit (n : Nat) : digitOf 16 (hexDigit (n % 16)) = some (n % 16) :=
    digitOf_hexDigit _ (Nat.mod_lt _ (by decide))
  have value : 16 * (16 * (16 * (16 * 0 + c.toNat / 16 ^ 3 % 16) + c.toNat / 16 ^ 2 % 16)
      + c.toNat / 16 ^ 1 % 16) + c.toNat / 16 ^ 0 % 16 = c.toNat := by omega
  simp only [charOfDigits, hexFixed, List.mapM_cons, List.mapM_nil, digit, shiftRight_digits, bind,
    Option.bind, pure, List.foldl_cons, List.foldl_nil, value]
  have valid : c.toNat.isValidChar := c.valid
  rw [if_pos valid, Char.ofNat_toNat]

theorem isPlain_of_visible {c : Char} (visible : isControl c = false) : isPlain c = true := by
  simp only [isControl, Bool.or_eq_false_iff, decide_eq_false_iff_not] at visible
  simp only [isPlain, Bool.or_eq_true, Bool.and_eq_true, decide_eq_true_eq]
  omega

theorem isPlain_of_shown {c : Char} (shown : isHidden c = false) : c = '\n' ∨ isPlain c = true := by
  cases visible : isControl c with
  | false => exact .inr (isPlain_of_visible visible)
  | true =>
    by_cases break_ : c = '\n'
    · exact .inl break_
    · have tab : c = '\t' := by simpa [isHidden, visible, break_] using shown
      exact .inr (tab ▸ rfl)

inductive Escaped (c : Char) : List Char → Prop
  | letter {e : Char} (known : unescape e = some c) : Escaped c ['\\', e]
  | digits {w x y z : Char} (known : charOfDigits [w, x, y, z] = some c) : Escaped c ['\\', 'u', w, x, y, z]
  | plain (plain : isPlain c = true) (notQuote : c ≠ '\x22') (notEscape : c ≠ '\\') : Escaped c [c]

theorem escaped_escape (c : Char) : Escaped c (escape c) := by
  unfold escape
  split_ifs with quote backslash b t n f r control
  · subst quote
    exact .letter rfl
  · subst backslash
    exact .letter rfl
  · subst b
    exact .letter rfl
  · subst t
    exact .letter rfl
  · subst n
    exact .letter rfl
  · subst f
    exact .letter rfl
  · subst r
    exact .letter rfl
  · apply Escaped.digits
    apply charOfDigits_hexFixed
    simp only [isControl, Bool.or_eq_true, decide_eq_true_eq] at control
    omega
  · exact .plain (isPlain_of_visible (Bool.eq_false_iff.mpr control)) quote backslash

theorem unescape_ne {c e : Char} (known : unescape e = some c) :
    e ≠ 'u' ∧ e ≠ 'U' ∧ e ≠ '\n' ∧ e ≠ ' ' ∧ e ≠ '\t' := by
  refine ⟨?_, ?_, ?_, ?_, ?_⟩ <;> rintro rfl <;> contradiction

theorem scanBasic_escape (c : Char) (s : List Char) :
    scanBasic (escape c ++ s) = (scanBasic s).map (consFirst c) := by
  have written := escaped_escape c
  generalize escape c = text at written
  cases written with
  | letter known =>
    obtain ⟨notShort, notLong, -⟩ := unescape_ne known
    cases rest : scanBasic s <;> simp [scanBasic, known, notShort, notLong, rest]
  | digits known => cases rest : scanBasic s <;> simp [scanBasic, known, rest]
  | plain plain notQuote notEscape => simp [scanBasic, plain, notEscape]

theorem scanBasic_body (s rest : List Char) :
    scanBasic (s.flatMap escape ++ '\x22' :: rest) = some (s, rest) := by
  induction s with
  | nil => rfl
  | cons c s ih =>
    rw [List.flatMap_cons, List.append_assoc, scanBasic_escape, ih]
    rfl

theorem scanLiteral_body {s : List Char} (free : '\x27' ∉ s) (plain : ∀ c ∈ s, isPlain c = true)
    (rest : List Char) : scanLiteral (s ++ '\x27' :: rest) = some (s, rest) := by
  induction s with
  | nil => rfl
  | cons c s ih =>
    have notQuote : c ≠ '\x27' := fun same => free (same ▸ List.mem_cons_self)
    have behind := ih (fun member => free (List.mem_cons_of_mem c member))
      fun d member => plain d (List.mem_cons_of_mem c member)
    simp only [List.cons_append, scanLiteral, plain c List.mem_cons_self, behind, ↓reduceIte]
    rfl

/-! Between three quotes. Up to two quotes may stand behind each other, in front of the closing ones too. -/

theorem scanLiteralLines_cons {c : Char} {s : List Char} (shown : isHidden c = false)
    (few : c = '\x27' → ∀ t, s ≠ '\x27' :: '\x27' :: t) :
    scanLiteralLines (c :: s) = (scanLiteralLines s).map (consFirst c) := by
  have taken : c = '\n' ∨ isPlain c = true := isPlain_of_shown shown
  rw [scanLiteralLines.eq_def]
  split
  · simp_all
  · simp_all
  · simp_all
  · simp_all
  · rename_i same
    obtain ⟨rfl, rfl⟩ := List.cons.inj same
    rw [if_pos (by simpa using taken)]

theorem hasTriple_cons {q c : Char} {s : List Char} (few : hasTriple q (c :: s) = false) :
    hasTriple q s = false ∧ (c = q → ∀ t, s ≠ q :: q :: t) := by
  match s with
  | [] | [_] => simp [hasTriple]
  | d :: e :: s => simp_all [hasTriple]

theorem scanLiteralLines_body {s : List Char} (few : hasTriple '\x27' s = false)
    (shown : ∀ c ∈ s, isHidden c = false) (rest : List Char) :
    scanLiteralLines (s ++ '\x27' :: '\x27' :: '\x27' :: '\n' :: rest) = some (s, '\n' :: rest) := by
  induction s with
  | nil => rfl
  | cons c s ih =>
    obtain ⟨first, others⟩ := List.forall_mem_cons.mp shown
    obtain ⟨fewer, apart⟩ := hasTriple_cons few
    -- quotes at the very end are part of the text although the closing ones follow
    by_cases closing : c = '\x27' ∧ (s = [] ∨ s = ['\x27'])
    · obtain ⟨rfl, rfl | rfl⟩ := closing <;> rfl
    · have inside (quote : c = '\x27') (t : List Char) :
          s ++ '\x27' :: '\x27' :: '\x27' :: '\n' :: rest ≠ '\x27' :: '\x27' :: t := by
        intro same
        match s with
        | [] => exact closing ⟨quote, .inl rfl⟩
        | [d] => exact closing ⟨quote, .inr (congrArg (· :: []) (List.cons.inj same).1)⟩
        | d :: e :: s =>
          obtain ⟨rfl, behind⟩ := List.cons.inj same
          obtain ⟨rfl, -⟩ := List.cons.inj behind
          exact apart quote s rfl
      rw [List.cons_append, scanLiteralLines_cons first inside, ih fewer others]
      rfl

theorem scanBasicLines_escape (c : Char) (s : List Char) :
    scanBasicLines .text (escape c ++ s) = (scanBasicLines .text s).map (consFirst c) := by
  have written := escaped_escape c
  generalize escape c = text at written
  cases written with
  | letter known =>
    obtain ⟨notShort, notLong, notBreak, notBlank, notTab⟩ := unescape_ne known
    cases rest : scanBasicLines .text s <;> simp_all [scanBasicLines]
  | digits known => cases rest : scanBasicLines .text s <;> simp [scanBasicLines, known, rest]
  | plain plain notQuote notEscape => simp [scanBasicLines, plain, notEscape, notQuote]

theorem scanBasicLines_quote {s : List Char} (few : ∀ t, s ≠ '\x22' :: '\x22' :: t) :
    scanBasicLines .text ('\x22' :: s) = (scanBasicLines .text s).map (consFirst '\x22') := by
  have plain : isPlain '\x22' = true := rfl
  simp_all [scanBasicLines]

/-- Quotes that something else follows are text, as long as there are no more than two. -/
theorem scanBasicLines_quotes {n : Nat} (few : n ≤ 2) {c : Char} (other : c ≠ '\x22') (s : List Char) :
    scanBasicLines .text (List.replicate n '\x22' ++ c :: s) =
      (scanBasicLines .text (c :: s)).map fun r => (List.replicate n '\x22' ++ r.1, r.2) := by
  have one (t : List Char) : c :: s ≠ '\x22' :: '\x22' :: t := fun same => other (List.cons.inj same).1
  have two (t : List Char) : '\x22' :: c :: s ≠ '\x22' :: '\x22' :: t :=
    fun same => other (List.cons.inj (List.cons.inj same).2).1
  match n with
  | 0 => exact Option.map_id'.symm
  | 1 => exact scanBasicLines_quote one
  | 2 =>
    have first := scanBasicLines_quote two
    rw [scanBasicLines_quote one, Option.map_map] at first
    exact first

theorem escape_head (c : Char) : ∃ d t, escape c = d :: t ∧ d ≠ '\x22' ∧ d ≠ '\n' := by
  have written := escaped_escape c
  generalize escape c = text at written ⊢
  cases written with
  | letter known => exact ⟨_, _, rfl, by decide, by decide⟩
  | digits known => exact ⟨_, _, rfl, by decide, by decide⟩
  | plain plain notQuote notEscape =>
    have inline : c ≠ '\n' := by
      rintro rfl
      contradiction
    exact ⟨_, _, rfl, notQuote, inline⟩

/-- Quotes in front are carried along until something else or the end shows what they are. -/
theorem scanBasicLines_body {n : Nat} (few : n ≤ 2) (s rest : List Char) :
    scanBasicLines .text (List.replicate n '\x22' ++ (escapeLines n s ++
      '\x22' :: '\x22' :: '\x22' :: '\n' :: rest)) =
      some (List.replicate n '\x22' ++ s, '\n' :: rest) := by
  induction s generalizing n with
  | nil =>
    match n with
    | 0 | 1 | 2 => rfl
  | cons c s ih =>
    have next := ih (Nat.zero_le 2)
    rw [List.replicate_zero, List.nil_append, List.nil_append] at next
    rw [escapeLines]
    split_ifs with break_ quote
    · have step (t : List Char) : scanBasicLines .text ('\n' :: t) =
          (scanBasicLines .text t).map (consFirst '\n') := by
        simp [scanBasicLines]
      rw [List.cons_append, scanBasicLines_quotes few (by decide), step, next, break_]
      rfl
    -- a quote that is written as it is joins those in front
    · obtain ⟨rfl, room⟩ := quote
      have more := ih room
      rw [List.replicate_succ', List.append_assoc, List.append_assoc] at more
      exact more
    · obtain ⟨d, t, written, other, -⟩ := escape_head c
      have step := scanBasicLines_escape c (escapeLines 0 s ++ '\x22' :: '\x22' :: '\x22' :: '\n' :: rest)
      rw [written, next] at step
      rw [written, List.append_assoc, List.cons_append, scanBasicLines_quotes few other]
      rw [List.cons_append] at step
      rw [step]
      rfl

/-! The four forms. -/

theorem scanString_basic (s rest : List Char) :
    scanString (basic s ++ '\n' :: rest) = some (s, '\n' :: rest) := by
  have body := scanBasic_body s ('\n' :: rest)
  have whole : basic s ++ '\n' :: rest = '\x22' :: (s.flatMap escape ++ '\x22' :: '\n' :: rest) := by
    simp [basic]
  rw [whole]
  cases s with
  | nil => rfl
  | cons c s =>
    obtain ⟨d, t, written, other, -⟩ := escape_head c
    rw [List.flatMap_cons, written] at body ⊢
    simp only [List.cons_append] at body ⊢
    rw [scanString, body]
    intro u same
    exact other (List.cons.inj same).1

theorem scanString_literal {s : List Char} (free : '\x27' ∉ s) (plain : ∀ c ∈ s, isPlain c = true)
    (rest : List Char) : scanString (literal s ++ '\n' :: rest) = some (s, '\n' :: rest) := by
  have body := scanLiteral_body free plain ('\n' :: rest)
  have whole : literal s ++ '\n' :: rest = '\x27' :: (s ++ '\x27' :: '\n' :: rest) := by
    simp [literal]
  rw [whole]
  cases s with
  | nil => rfl
  | cons c s =>
    have other : c ≠ '\x27' := fun same => free (same ▸ List.mem_cons_self)
    simp only [List.cons_append] at body ⊢
    rw [scanString, body]
    intro u same
    exact other (List.cons.inj same).1

theorem dropBreak_body {s body : List Char} (inline : '\n' ∉ s → ∀ t, body ≠ '\n' :: t) :
    dropBreak ((if s.contains '\n' then ['\n'] else []) ++ body) = body := by
  split_ifs with lines
  · rfl
  · rw [List.contains_iff_mem] at lines
    have first := inline lines
    rw [List.nil_append]
    unfold dropBreak
    split
    · exact absurd rfl (first _)
    · rfl

theorem scanString_basicLines (s rest : List Char) :
    scanString (basicLines s ++ '\n' :: rest) = some (s, '\n' :: rest) := by
  have body := scanBasicLines_body (Nat.zero_le 2) s rest
  rw [List.replicate_zero, List.nil_append, List.nil_append] at body
  have inline (single : '\n' ∉ s) (t : List Char) :
      escapeLines 0 s ++ '\x22' :: '\x22' :: '\x22' :: '\n' :: rest ≠ '\n' :: t := by
    cases s with
    | nil => nofun
    | cons c s =>
      have notBreak : c ≠ '\n' := fun same => single (same ▸ List.mem_cons_self)
      obtain ⟨d, u, written, -, other⟩ := escape_head c
      rw [escapeLines, if_neg notBreak, written]
      split
      · nofun
      · exact fun same => other (List.cons.inj same).1
  have whole : basicLines s ++ '\n' :: rest = '\x22' :: '\x22' :: '\x22' ::
      ((if s.contains '\n' then ['\n'] else []) ++
        (escapeLines 0 s ++ '\x22' :: '\x22' :: '\x22' :: '\n' :: rest)) := by
    simp [basicLines, between, List.replicate]
  rw [whole, scanString, dropBreak_body inline, body]

theorem scanString_literalLines {s : List Char} (few : hasTriple '\x27' s = false)
    (shown : ∀ c ∈ s, isHidden c = false) (rest : List Char) :
    scanString (literalLines s ++ '\n' :: rest) = some (s, '\n' :: rest) := by
  have inline (single : '\n' ∉ s) (t : List Char) :
      s ++ '\x27' :: '\x27' :: '\x27' :: '\n' :: rest ≠ '\n' :: t := by
    cases s with
    | nil => nofun
    | cons c s => exact fun same => single ((List.cons.inj same).1 ▸ List.mem_cons_self)
  have whole : literalLines s ++ '\n' :: rest = '\x27' :: '\x27' :: '\x27' ::
      ((if s.contains '\n' then ['\n'] else []) ++ (s ++ '\x27' :: '\x27' :: '\x27' :: '\n' :: rest)) := by
    simp [literalLines, between, List.replicate]
  rw [whole, scanString, dropBreak_body inline, scanLiteralLines_body few shown]

/-- Any string is written with escapes or fit for one of the forms without. -/
theorem quote_forms (s : List Char) :
    quote s = basic s ∨ quote s = basicLines s ∨
      (∀ c ∈ s, isHidden c = false) ∧
        (quote s = literal s ∧ '\x27' ∉ s ∧ '\n' ∉ s ∨
          quote s = literalLines s ∧ hasTriple '\x27' s = false) := by
  have shown (clean : (!s.any isHidden) = true) : ∀ c ∈ s, isHidden c = false := by
    simpa [List.any_eq_false] using clean
  have free {c : Char} (none : (!s.contains c) = true) : c ∉ s := by
    simpa using none
  simp only [quote]
  split_ifs with plainly literally lines literalLines hasLines
  · exact .inl rfl
  · simp only [Bool.and_eq_true] at literally
    obtain ⟨⟨clean, single⟩, apart⟩ := literally
    exact .inr (.inr ⟨shown clean, .inl ⟨rfl, free apart, free single⟩⟩)
  · exact .inr (.inl rfl)
  · simp only [Bool.and_eq_true, Bool.not_eq_true'] at literalLines
    exact .inr (.inr ⟨shown (by simpa using literalLines.1), .inr ⟨rfl, literalLines.2⟩⟩)
  · exact .inr (.inl rfl)
  · exact .inl rfl

theorem scanString_quote (s rest : List Char) :
    scanString (quote s ++ '\n' :: rest) = some (s, '\n' :: rest) := by
  obtain basic | lines | ⟨shown, ⟨literal, apart, single⟩ | ⟨literalLines, few⟩⟩ := quote_forms s
  · rw [basic, scanString_basic]
  · rw [lines, scanString_basicLines]
  · have plain (c : Char) (member : c ∈ s) : isPlain c = true :=
      (isPlain_of_shown (shown c member)).resolve_left fun same => single (same ▸ member)
    rw [literal, scanString_literal apart plain]
  · rw [literalLines, scanString_literalLines few shown]

/-! No string is written with a carriage return, and all begin with a quote. -/

theorem return_free_escape (c : Char) : '\r' ∉ escape c := by
  unfold escape
  split_ifs with quote backslash b t n f r control
  iterate 7 decide
  · have digits := isNumeral_hexFixed 4 c.toNat
    have free : '\r' ∉ hexFixed 4 c.toNat := fun member => digit_ne (digits _ member) rfl rfl
    simp [free]
  · simpa using Ne.symm r

theorem return_free_escapeLines (n : Nat) (s : List Char) : '\r' ∉ escapeLines n s := by
  induction s generalizing n with
  | nil => nofun
  | cons c s ih =>
    rw [escapeLines]
    split_ifs with break_ quote
    · simp [ih 0]
    · simp [ih (n + 1)]
    · simp [ih 0, return_free_escape c]

theorem return_free_quote (s : List Char) : '\r' ∉ quote s := by
  have free (shown : ∀ c ∈ s, isHidden c = false) : '\r' ∉ s := fun member => by
    have hidden := shown _ member
    contradiction
  obtain basic | lines | ⟨shown, ⟨literal, -, -⟩ | ⟨literalLines, -⟩⟩ := quote_forms s
  · rw [basic, Toml.basic]
    simp [return_free_escape]
  · rw [lines, basicLines, between]
    split <;> simp [return_free_escapeLines]
  · rw [literal, Toml.literal]
    simp [free shown]
  · rw [literalLines, Toml.literalLines, between]
    split <;> simp [free shown]

theorem quote_head (s : List Char) : ∃ t, quote s = '\x22' :: t ∨ quote s = '\x27' :: t := by
  obtain basic | lines | ⟨-, ⟨literal, -, -⟩ | ⟨literalLines, -⟩⟩ := quote_forms s
  · exact ⟨_, .inl basic⟩
  · exact ⟨_, .inl lines⟩
  · exact ⟨_, .inr literal⟩
  · exact ⟨_, .inr literalLines⟩

end IdentityDirectory.Toml
