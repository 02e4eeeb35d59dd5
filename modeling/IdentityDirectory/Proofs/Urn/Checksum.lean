import IdentityDirectory.Proofs.Text.Places
import IdentityDirectory.Proofs.Urn.Fields
/-!
The checksum of a URN and the text it is taken of. Fields behind the fifth that begin with a C give a checksum
and the last of them counts, for the text in front of its colon; that text can be cut off by the sizes of the
fields. A checksum of the whole text, put behind it, is found to be right.
-/
namespace IdentityDirectory

namespace Text

theorem eq_or_of_toUpper {c d : Char} (capital : c.toUpper = d) : c = d ∨ c.toNat = d.toNat + 32 := by
  unfold Char.toUpper at capital
  split at capital
  · rename_i small
    have above : 97 ≤ c.val.toNat := small.1
    have below : c.val.toNat ≤ 122 := small.2
    have shifted : d.toNat = (c.val + ('A'.val - 'a'.val)).toNat := by
      rw [← capital]
      rfl
    have shift : ('A'.val - 'a'.val).toNat = 2 ^ 32 - 32 := rfl
    have same : c.toNat = c.val.toNat := rfl
    rw [UInt32.toNat_add] at shifted
    omega
  · exact .inl capital

end Text

namespace Urn

def GivesChecksum (f : List Char) : Prop := f.head? = some 'C' ∨ f.head? = some 'c'

instance (f : List Char) : Decidable (GivesChecksum f) := inferInstanceAs (Decidable (_ ∨ _))

theorem givesChecksum_cons {kind : Char} {value : List Char} :
    GivesChecksum (kind :: value) ↔ kind.toUpper = 'C' := by
  simp only [GivesChecksum, List.head?_cons, Option.some.injEq]
  constructor
  · rintro (rfl | rfl) <;> rfl
  · intro capital
    rcases Text.eq_or_of_toUpper capital with same | small
    · exact .inl same
    · exact .inr (Char.toNat_inj.mp small)

def KeepsChecksum (u v : Urn) : Prop := v.checksum = u.checksum ∧ v.checksumValid = u.checksumValid

variable {before : List Char} {u v : Urn}

theorem keeps_of_ok {w : Urn} (done : (.ok w : Except Error Urn) = .ok v) (keeps : KeepsChecksum u w) :
    KeepsChecksum u v := by
  obtain rfl := Except.ok.inj done
  exact keeps

theorem keeps_of_map {ε α : Type} {read : Except ε α} {put : α → Urn}
    (done : read.map put = .ok v) (keeps : ∀ a, KeepsChecksum u (put a)) : KeepsChecksum u v := by
  cases read with
  | error cause => contradiction
  | ok a =>
    obtain rfl := Except.ok.inj done
    exact keeps a

theorem readOwn_keeps {letter : Char} {value : List Char} (read : readOwn u letter value = .ok v) :
    KeepsChecksum u v := by
  unfold readOwn at read
  dsimp only at read
  split at read
  -- the command, and letters that are not known
  case h_11 | h_14 => exact keeps_of_ok read ⟨rfl, rfl⟩
  -- the offset and the size
  case h_12 | h_13 =>
    split at read
    · exact keeps_of_ok read ⟨rfl, rfl⟩
    · cases read
  all_goals exact keeps_of_map read fun _ => ⟨rfl, rfl⟩

theorem readField_keeps {f : List Char} (plain : ¬ GivesChecksum f) (read : readField before u f = .ok v) :
    KeepsChecksum u v := by
  cases f with
  | nil => exact keeps_of_ok read ⟨rfl, rfl⟩
  | cons kind value =>
    unfold readField at read
    dsimp only at read
    split at read
    · rename_i capital
      exact absurd (givesChecksum_cons.mpr capital) plain
    · exact keeps_of_ok read ⟨rfl, rfl⟩
    · exact keeps_of_ok read ⟨rfl, rfl⟩
    · split at read
      · exact keeps_of_ok read ⟨rfl, rfl⟩
      · exact readOwn_keeps read
    · exact keeps_of_ok read ⟨rfl, rfl⟩

/-- A field gives a checksum of the text in front of it: its digits are the checksum, which is compared
with the one of that text. -/
def Gives (before f : List Char) (v : Urn) : Prop :=
  ∃ mark value crc, f = mark :: value ∧ GivesChecksum f ∧ Text.Denotes 16 value crc.toNat ∧
    v.checksum = some crc ∧
    v.checksumValid = some (decide (crc = Checksum.crc16 (Text.utf8 (Text.upper before))))

theorem readField_gives {f : List Char} (checks : GivesChecksum f) (read : readField before u f = .ok v) :
    Gives before f v := by
  cases f with
  | nil => simp [GivesChecksum] at checks
  | cons mark value =>
    unfold readField at read
    simp only [givesChecksum_cons.mp checks] at read
    split at read
    · contradiction
    · rename_i n number
      obtain ⟨denotes, small⟩ := (Text.readUnsigned_eq_ok_iff (by decide)).mp number
      have back : (UInt16.ofNat n).toNat = n := UInt16.toNat_ofNat_of_lt' (Nat.lt_succ_of_le small)
      obtain rfl := Except.ok.inj read
      refine ⟨mark, value, UInt16.ofNat n, rfl, checks, back.symm ▸ denotes, rfl, ?_⟩
      exact congrArg some (decide_eq_decide.mpr eq_comm)

/-- After any fields the checksum is the one that the last field of its kind has given, or the one from
before if there is none. -/
theorem readFields_checksum {fs : List (List Char)} (read : readFields before u fs = .ok v) :
    (∀ f ∈ fs, ¬ GivesChecksum f) ∧ KeepsChecksum u v ∨
      ∃ front f back, fs = front ++ f :: back ∧ (∀ g ∈ back, ¬ GivesChecksum g) ∧
        Gives (before ++ front.flatMap (':' :: ·)) f v := by
  induction fs generalizing before u with
  | nil => exact .inl ⟨List.forall_mem_nil _, keeps_of_ok read ⟨rfl, rfl⟩⟩
  | cons f fs ih =>
    rw [readFields] at read
    cases first : readField before u f with
    | error cause =>
      rw [first] at read
      contradiction
    | ok w =>
      rw [first] at read
      rcases ih read with ⟨plain, same⟩ | ⟨front, g, back, rfl, last, gives⟩
      · by_cases checks : GivesChecksum f
        · obtain ⟨mark, value, crc, shape, kind, digits, given, valid⟩ := readField_gives checks first
          refine .inr ⟨[], f, fs, rfl, plain, mark, value, crc, shape, kind, digits, ?_, ?_⟩
          · rw [same.1, given]
          · rw [same.2, valid, List.flatMap_nil, List.append_nil]
        · have kept := readField_keeps checks first
          exact .inl ⟨List.forall_mem_cons.mpr ⟨checks, plain⟩, same.1.trans kept.1, same.2.trans kept.2⟩
      · refine .inr ⟨f :: front, g, back, rfl, last, ?_⟩
        rwa [List.flatMap_cons, ← List.append_assoc]

theorem readLead_checksum {appEui devEui profile : List Char}
    (read : readLead appEui devEui profile = .ok v) : v.checksum = none ∧ v.checksumValid = none := by
  simp only [readLead, bind, Except.bind] at read
  split at read
  · cases read
  · split at read
    · cases read
    · split at read
      · cases read
      · exact Except.ok.inj read ▸ ⟨rfl, rfl⟩

variable {text : String}

theorem ofText_eq_ok_iff :
    ofText text = .ok u ↔
      ∃ lead form appEui devEui profile rest start,
        Text.splitOn ':' (Text.trim text.toList) = lead :: form :: appEui :: devEui :: profile :: rest ∧
        (Text.upper lead = ['L', 'W'] ∧ Text.upper form = ['D', '0']) ∧
        readLead appEui devEui profile = .ok start ∧
        readFields (Text.join [':'] [lead, form, appEui, devEui, profile]) start rest = .ok u := by
  constructor
  · intro read
    unfold ofText at read
    dsimp only at read
    split at read
    · rename_i lead form appEui devEui profile rest shape
      split at read
      · contradiction
      · rename_i names
        cases started : readLead appEui devEui profile with
        | error cause =>
          rw [started] at read
          contradiction
        | ok start =>
          rw [started] at read
          rw [not_or, not_not, not_not] at names
          exact ⟨lead, form, appEui, devEui, profile, rest, start, shape, names, started, read⟩
    · contradiction
  · rintro ⟨lead, form, appEui, devEui, profile, rest, start, shape, names, started, done⟩
    have named : ¬ (Text.upper lead ≠ ['L', 'W'] ∨ Text.upper form ≠ ['D', '0']) := by
      rw [names.1, names.2]
      decide
    simp only [ofText, shape, if_neg named, started, bind, Except.bind, done]

theorem unblank_of_letter {c : Char} (capital : c.toUpper = 'L') : Text.isBlank c = false := by
  rcases Text.eq_or_of_toUpper capital with rfl | small
  · rfl
  · rw [Char.toNat_inj (d := 'l') |>.mp small]
    rfl

theorem ofText_append_checksum (read : ofText text = .ok u) :
    ofText (String.ofList (signed (Text.trim text.toList))) =
      .ok { u with checksum := some (sign (Text.trim text.toList)), checksumValid := some true } := by
  obtain ⟨lead, form, appEui, devEui, profile, rest, start, shape, names, started, done⟩ :=
    ofText_eq_ok_iff.mp read
  generalize Text.trim text.toList = t at shape ⊢
  have whole : t = Text.join [':'] [lead, form, appEui, devEui, profile] ++ rest.flatMap (':' :: ·) := by
    rw [← Text.join_splitOn ':' t, shape, Text.join_cons, Text.join_cons]
    simp
  have numeral := Text.isNumeral_hexFixed 4 (sign t).toNat
  have free : ':' ∉ 'C' :: Text.hexFixed 4 (sign t).toNat := by
    intro colon
    rcases List.mem_cons.mp colon with same | digit
    · exact absurd same (by decide)
    · exact Text.digit_ne (numeral _ digit) rfl rfl
  have pieces : Text.splitOn ':' (signed t) = lead :: form :: appEui :: devEui :: profile ::
      (rest ++ ['C' :: Text.hexFixed 4 (sign t).toNat]) := by
    rw [signed, Text.splitOn_append_sep, Text.splitOn_of_free free, shape]
    rfl
  obtain ⟨first, letters, begins, capital, -⟩ := List.map_eq_cons_iff.mp names.1
  have plain : Text.isBlank first = false := unblank_of_letter capital
  have trimmed : Text.trim (signed t) = signed t := by
    have ends : signed t = first :: (letters ++ [form, appEui, devEui, profile].flatMap (':' :: ·) ++
        rest.flatMap (':' :: ·) ++ [':', 'C']) ++ Text.hexFixed 4 (sign t).toNat := by
      rw [signed]
      conv => lhs; lhs; rw [whole, Text.join_cons, begins]
      simp
    rw [ends, Text.trim_of_ends plain numeral (List.cons_ne_nil _ _)]
  refine ofText_eq_ok_iff.mpr ⟨lead, form, appEui, devEui, profile,
    rest ++ ['C' :: Text.hexFixed 4 (sign t).toNat], start, ?_, names, started, ?_⟩
  · rw [String.toList_ofList, trimmed, pieces]
  · rw [readFields_append done, ← whole, readFields, readField_checksum]
    rfl

/-! What the reader with places cuts off is what the other one has gathered. -/

theorem utf8Size_colon : (':').utf8Size = 1 := by decide

theorem readAt_starts {t : List Char} {fs : List (List Char)}
    (whole : t = before ++ fs.flatMap (':' :: ·)) :
    readAt t u ((Text.starts (Text.utf8Size before + 1) fs).zip fs) = some (readFields before u fs) := by
  induction fs generalizing before u with
  | nil => rfl
  | cons f fs ih =>
    have cut : Text.frontTo? (Text.utf8Size before) t = some before :=
      Text.frontTo?_eq_some_iff.mpr ⟨_, whole, rfl⟩
    have next : t = (before ++ ':' :: f) ++ fs.flatMap (':' :: ·) := by
      rw [whole, List.flatMap_cons, List.append_assoc]
    rw [Text.starts_cons utf8Size_colon, List.zip_cons_cons, readAt, readFields]
    simp only [cut]
    cases readField before u f with
    | error cause => rfl
    | ok v => exact ih next

theorem ofTextAt_eq (text : String) : ofTextAt text = some (ofText text) := by
  unfold ofTextAt ofText
  dsimp only
  generalize Text.trim text.toList = t
  generalize pieces : Text.splitOn ':' t = tokens
  match tokens, pieces with
  | [], _ | [_], _ | [_, _], _ | [_, _, _], _ | [_, _, _, _], _ => rfl
  | lead :: form :: appEui :: devEui :: profile :: rest, pieces =>
    by_cases foreign : Text.upper lead ≠ ['L', 'W'] ∨ Text.upper form ≠ ['D', '0']
    · simp only [if_pos foreign]
      rfl
    · simp only [if_neg foreign]
      cases started : readLead appEui devEui profile with
      | error cause => rfl
      | ok start =>
        have whole : t = Text.join [':'] [lead, form, appEui, devEui, profile] ++
            rest.flatMap (':' :: ·) := by
          rw [← Text.join_append ':' (List.cons_ne_nil _ _), ← Text.join_splitOn ':' t, pieces]
          rfl
        have places := Text.drop_starts_zero utf8Size_colon
          (List.cons_ne_nil lead [form, appEui, devEui, profile]) rest
        have read := readAt_starts (u := start) whole
        rw [← places] at read
        exact read

/-- The checksum of an accepted text and what it is taken of. The last field behind the fifth that begins
with a C gives the checksum, and it is right exactly if it is the one of the fields in front, in capitals and
joined as they stand in the text; each of them starts behind a place where the text can be cut. The text with
its own checksum behind it is accepted as the same URN, with a checksum that is right. -/
theorem checksum_of_front (read : ofText text = .ok u) :
    let t := Text.trim text.toList
    let fields := Text.splitOn ':' t
    let crc := Checksum.crc16 (Text.utf8 (Text.upper t))
    ((∀ f ∈ fields.drop 5, ¬ GivesChecksum f) ∧ u.checksum = none ∧ u.checksumValid = none ∨
      ∃ front f back, fields = front ++ f :: back ∧ 5 ≤ front.length ∧
        (∀ g ∈ back, ¬ GivesChecksum g) ∧ Gives (Text.join [':'] front) f u) ∧
    (∀ i start, 5 ≤ i → (Text.starts 0 fields)[i]? = some start →
      ∃ place, start = place + 1 ∧
        Text.frontTo? place t = some (Text.join [':'] (fields.take i))) ∧
    ofTextAt text = some (ofText text) ∧
    ofText (String.ofList (t ++ ':' :: 'C' :: Text.hexFixed 4 crc.toNat)) =
      .ok { u with checksum := some crc, checksumValid := some true } := by
  intro t fields crc
  refine ⟨?_, ?_, ofTextAt_eq text, ofText_append_checksum read⟩
  · obtain ⟨lead, form, appEui, devEui, profile, rest, start, shape, -, started, done⟩ :=
      ofText_eq_ok_iff.mp read
    have shape : fields = [lead, form, appEui, devEui, profile] ++ rest := shape
    rw [shape]
    rcases readFields_checksum done with ⟨plain, same⟩ | ⟨front, f, back, rfl, last, gives⟩
    · have none_yet := readLead_checksum started
      exact .inl ⟨plain, same.1.trans none_yet.1, same.2.trans none_yet.2⟩
    · refine .inr ⟨[lead, form, appEui, devEui, profile] ++ front, f, back, ?_, ?_, last, ?_⟩
      · rw [List.append_assoc]
      · rw [List.length_append]
        exact Nat.le_add_right _ _
      · rwa [Text.join_append ':' (List.cons_ne_nil _ _)]
  · intro i start behind known
    have cut := Text.frontTo?_start utf8Size_colon (Nat.lt_of_lt_of_le (by decide) behind) known
    rwa [Text.join_splitOn] at cut

theorem wrong_checksum_superseded :
    let text := " lw:d0:1:2:ABCD:OÄC:C1:PCB:c+0 "
    ∃ u, ofText text = .ok u ∧ u.checksum = some 0 ∧ u.checksumValid = some false ∧
      ∃ crc, ofText (String.ofList (Text.trim text.toList ++ ':' :: 'C' :: Text.hexFixed 4 crc)) =
        .ok { u with checksum := some (UInt16.ofNat crc), checksumValid := some true } := by
  intro text
  have told : (ofText text).toOption.map (fun u => (u.checksum, u.checksumValid)) =
      some (some 0, some false) := by decide +kernel
  cases read : ofText text with
  | error cause =>
    rw [read] at told
    cases told
  | ok u =>
    rw [read] at told
    obtain ⟨sum, wrong⟩ := Prod.mk.inj (Option.some.inj told)
    have again := (checksum_of_front read).2.2.2
    exact ⟨u, rfl, sum, wrong, _, by rwa [UInt16.ofNat_toNat]⟩

end Urn
end IdentityDirectory
