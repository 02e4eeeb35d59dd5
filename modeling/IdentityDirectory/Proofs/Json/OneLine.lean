import IdentityDirectory.Proofs.Json.Records
import IdentityDirectory.Proofs.Json.Replies
/-!
Replies stand on one line. Strings are written with every control character escaped, and whatever else is
written is printable, so no reply holds the end of a line, whatever bytes the names of devices have.
-/
namespace IdentityDirectory

namespace Json
open Text

def IsOneLine (s : List Char) : Prop := ∀ c ∈ s, 0x20 ≤ c.toNat

theorem IsOneLine.append {s t : List Char} (front : IsOneLine s) (rest : IsOneLine t) :
    IsOneLine (s ++ t) := by
  intro c member
  rcases List.mem_append.mp member with here | behind
  · exact front c here
  · exact rest c behind

theorem IsOneLine.cons {c : Char} {s : List Char} (printable : 0x20 ≤ c.toNat) (rest : IsOneLine s) :
    IsOneLine (c :: s) :=
  List.forall_mem_cons.mpr ⟨printable, rest⟩

theorem IsOneLine.not_mem {s : List Char} (oneLine : IsOneLine s) {c : Char} (control : c.toNat < 0x20) :
    c ∉ s :=
  fun member => Nat.not_le.mpr control (oneLine c member)

theorem isOneLine_numeral {radix : Nat} {s : List Char} (digits : IsNumeral radix s) : IsOneLine s := by
  intro c member
  have code := code_of_digit (digits c member)
  omega

theorem isOneLine_of_all {s : List Char} (printable : (s.all fun c => 0x20 ≤ c.toNat) = true) :
    IsOneLine s :=
  fun c member => of_decide_eq_true (List.all_eq_true.mp printable c member)

theorem isOneLine_escape (c : Char) : IsOneLine (escape c) := by
  unfold escape
  split_ifs with quote backslash b f n r t control
  iterate 7 exact isOneLine_of_all (by decide)
  · have digits : IsNumeral 16 ((hexFixed 4 c.toNat).map Char.toLower) :=
      isNumeral_lower_hexFixed 4 c.toNat
    exact (isOneLine_of_all (s := ['\\', 'u']) (by decide)).append (isOneLine_numeral digits)
  · intro d member
    rw [List.mem_singleton.mp member]
    omega

theorem isOneLine_quote (s : List Char) : IsOneLine (quote s) := by
  have mark : IsOneLine ['\x22'] := .cons (by decide) nofun
  have body : IsOneLine (s.flatMap escape) := by
    intro c member
    obtain ⟨d, -, written⟩ := List.mem_flatMap.mp member
    exact isOneLine_escape d c written
  exact .cons (by decide) (body.append mark)

/-- Numbers are kept as they were written, so only of these has to be asked how. -/
def isTidy : Json → Bool
  | number l => l.all fun c => 0x20 ≤ c.toNat
  | _ => true

mutual
theorem isOneLine_compact (v : Json) (tidy : v.all isTidy = true) : IsOneLine (compact v) := by
  match v with
  | null | broken => exact isOneLine_of_all (by decide)
  | bool true | bool false => exact isOneLine_of_all (by decide)
  | number l =>
    rw [compact]
    exact isOneLine_of_all tidy
  | string t => exact isOneLine_quote t.toList
  | array items =>
    have close : IsOneLine [']'] := .cons (by decide) nofun
    rw [compact]
    exact (IsOneLine.cons (by decide) (isOneLine_compactItems items tidy)).append close
  | object members =>
    have close : IsOneLine ['}'] := .cons (by decide) nofun
    rw [compact]
    exact (IsOneLine.cons (by decide) (isOneLine_compactMembers members tidy)).append close

theorem isOneLine_compactItems (vs : List Json) (tidy : allItems isTidy vs = true) :
    IsOneLine (compactItems vs) := by
  match vs with
  | [] => exact nofun
  | [v] => exact isOneLine_compact v (Bool.and_eq_true_iff.mp tidy).1
  | v :: w :: vs =>
    obtain ⟨first, others⟩ := Bool.and_eq_true_iff.mp tidy
    rw [compactItems]
    exact (isOneLine_compact v first).append (.cons (by decide) (isOneLine_compactItems (w :: vs) others))

theorem isOneLine_compactMembers (ms : List (String × Json)) (tidy : allMembers isTidy ms = true) :
    IsOneLine (compactMembers ms) := by
  match ms with
  | [] => exact nofun
  | [(key, v)] =>
    have value := isOneLine_compact v (Bool.and_eq_true_iff.mp tidy).1
    rw [compactMembers]
    exact (isOneLine_quote key.toList).append (.cons (by decide) value)
  | (key, v) :: m :: ms =>
    obtain ⟨first, others⟩ := Bool.and_eq_true_iff.mp tidy
    have value := isOneLine_compact v first
    rw [compactMembers]
    exact ((isOneLine_quote key.toList).append (.cons (by decide) value)).append
      (.cons (by decide) (isOneLine_compactMembers (m :: ms) others))
end

theorem allMembers_iff {p : Json → Bool} {ms : List (String × Json)} :
    allMembers p ms = true ↔ ∀ m ∈ ms, m.2.all p = true := by
  induction ms with
  | nil => simp [allMembers]
  | cons m ms ih => rw [allMembers, Bool.and_eq_true_iff, ih, List.forall_mem_cons]

theorem allMembers_sortMembers {p : Json → Bool} {ms : List (String × Json)}
    (holds : allMembers p ms = true) : allMembers p (sortMembers ms) = true :=
  allMembers_iff.mpr fun m member => allMembers_iff.mp holds m (mem_sortMembers member)

theorem isTidy_of_plain {v : Json} (plain : isPlainScalar v = true) : isTidy v = true := by
  cases v <;> first | rfl | contradiction

theorem tidy_ofInt (v : Int) : (ofInt v).all isTidy = true := by
  have front : IsOneLine (sign v) := by
    unfold sign
    split_ifs <;> exact isOneLine_of_all (by decide)
  have digits : IsOneLine (decimal v.natAbs) := isOneLine_numeral (isNumeral_decimal v.natAbs)
  rw [ofInt, all, isTidy, List.all_eq_true, toList_toString_int]
  exact fun c member => decide_eq_true (front.append digits c member)

end Json

namespace Response
open Json

theorem tidy_identityJson (i : Identity) : (identityJson i).all isTidy = true := by
  have members : allMembers isTidy i.members = true :=
    allMembers_mono (fun _ => isTidy_of_plain) i.members i.plain_toJson
  rw [identityJson, all]
  exact allMembers_sortMembers members

theorem tidy_gatewayJson (g : Gateway) : (gatewayJson g).all isTidy = true := by
  have members : allMembers isTidy g.members = true :=
    allMembers_mono (fun _ => isTidy_of_plain) g.members g.plain_toJson
  rw [gatewayJson, all]
  exact allMembers_sortMembers members

theorem tidy_codeJson (code : Int32) : (codeJson code).all isTidy = true := by
  rw [codeJson, all, allMembers, tidy_ofInt]
  rfl

theorem tidy_of_if {success : Prop} [Decidable success] {data : Json} (tidy : data.all isTidy = true)
    (code : Int32) : (if success then data else codeJson code).all isTidy = true := by
  split
  · exact tidy
  · exact tidy_codeJson code

theorem tidy_toJson (r : Response) : r.toJson.all isTidy = true := by
  obtain ⟨h, body⟩ := r
  rw [toJson]
  cases body with
  | operation offset size result => exact tidy_of_if (tidy_ofInt _) _
  | identity i => exact tidy_of_if (tidy_identityJson i) _
  | gateway g => exact tidy_of_if (tidy_gatewayJson g) _
  | identityList offset items =>
    have whole : (array (items.map identityJson)).all isTidy = true := allItems_map tidy_identityJson items
    exact tidy_of_if whole _
  | gatewayList offset items =>
    have whole : (array (items.map gatewayJson)).all isTidy = true := allItems_map tidy_gatewayJson items
    exact tidy_of_if whole _

theorem isOneLine_toJsonText (r : Response) : IsOneLine r.toJsonText.toList := by
  rw [toJsonText, toText, String.toList_ofList]
  exact isOneLine_compact r.toJson (tidy_toJson r)

end Response
end IdentityDirectory
