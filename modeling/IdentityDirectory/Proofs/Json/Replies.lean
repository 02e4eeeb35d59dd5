import IdentityDirectory.Json.TextRequest
import IdentityDirectory.Proofs.Json.Quoted
import Std.Data.String.ToInt
/-!
Replies as JSON text. A refusal is the object with its code; no record, page or count is written like one.
-/
namespace IdentityDirectory

namespace Json

theorem quote_append_inj {a b s t : List Char} (same : quote a ++ s = quote b ++ t) : a = b := by
  have shape (c u : List Char) : quote c ++ u = '\x22' :: (c.flatMap escape ++ '\x22' :: u) := by
    simp [quote]
  rw [shape, shape] at same
  have pieces := congrArg scanPieces (List.tail_eq_of_cons_eq same)
  rw [scanPieces_quoted, scanPieces_quoted, Option.some_inj] at pieces
  have joined := congrArg joinPieces (Prod.mk.inj pieces).1
  rwa [joinPieces_map_piece, joinPieces_map_piece, Option.some_inj] at joined

theorem mem_insertMember {m x : String × Json} {ms : List (String × Json)}
    (h : x ∈ insertMember m ms) : x = m ∨ x ∈ ms := by
  induction ms with
  | nil => exact Or.inl (List.mem_singleton.mp h)
  | cons n ms ih =>
    simp only [insertMember] at h
    split at h
    · exact List.mem_cons.mp h
    · rcases List.mem_cons.mp h with rfl | behind
      · exact Or.inr List.mem_cons_self
      · exact (ih behind).imp id (List.mem_cons_of_mem n)

theorem mem_sortMembers {x : String × Json} {ms : List (String × Json)} (h : x ∈ sortMembers ms) :
    x ∈ ms := by
  induction ms with
  | nil => exact h
  | cons m ms ih =>
    rcases mem_insertMember h with rfl | behind
    · exact List.mem_cons_self
    · exact List.mem_cons_of_mem m (ih behind)

theorem compact_object (m : String × Json) (ms : List (String × Json)) :
    ∃ rest, compact (.object (m :: ms)) = '{' :: (quote m.1.toList ++ rest) := by
  cases ms with
  | nil => exact ⟨':' :: compact m.2 ++ ['}'], by simp [compact, compactMembers]⟩
  | cons n ms =>
    exact ⟨':' :: compact m.2 ++ ',' :: compactMembers (n :: ms) ++ ['}'],
      by simp [compact, compactMembers]⟩

def objectText (members : List (String × Json)) : String := (object members).toText

/-- The text of a request that carries 42 as both codes. -/
def requestText (tag : String) (fields : List (String × Json)) : String :=
  objectText ([("tag", string tag), ("code", ofInt 42), ("accessCode", ofInt 42)] ++ fields)

end Json

namespace Response
open Json

def codeText (code : Int32) : String := "\x7b\"code\":" ++ toString code.toInt ++ "\x7d"

theorem quote_code : quote ['c', 'o', 'd', 'e'] = ['\x22', 'c', 'o', 'd', 'e', '\x22'] := by decide

theorem toText_codeJson (code : Int32) : (codeJson code).toText = codeText code := by
  rw [← String.toList_inj]
  simp [codeJson, codeText, toText, compact, compactMembers, ofInt, quote_code]

theorem codeText_inj {m n : Int32} (same : codeText m = codeText n) : m = n := by
  have digits : (toString m.toInt).toList = (toString n.toInt).toList := by
    have letters := congrArg String.toList same
    simpa [codeText] using letters
  exact Int32.toInt_inj.mp (Int.repr_injective (String.toList_inj.mp digits))

theorem codeText_front (n : Int32) :
    ∃ rest, (codeText n).toList = '{' :: (quote "code".toList ++ rest) :=
  ⟨':' :: (toString n.toInt).toList ++ ['}'], by simp [codeText, quote_code]⟩

/-- An object whose members have other keys is not written like one with a code, in whatever order they
stand. -/
theorem object_text_ne {ms : List (String × Json)} (keys : "code" ∉ ms.map Prod.fst) (n : Int32) :
    (Json.object (sortMembers ms)).toText ≠ codeText n := by
  intro same
  obtain ⟨others, code⟩ := codeText_front n
  rw [← same, toText, String.toList_ofList] at code
  cases sorted : sortMembers ms with
  | nil =>
    rw [sorted, compact] at code
    simp [quote, compactMembers] at code
  | cons m rest =>
    obtain ⟨behind, text⟩ := compact_object m rest
    rw [sorted, text] at code
    -- texts that agree behind the brace have one first key
    have key : m.1 = "code" := String.toList_inj.mp (quote_append_inj (List.tail_eq_of_cons_eq code))
    have first : m ∈ sortMembers ms := by
      rw [sorted]
      exact List.mem_cons_self
    exact keys (key ▸ List.mem_map_of_mem (mem_sortMembers first))

theorem identity_text_ne (i : Identity) (n : Int32) : (identityJson i).toText ≠ codeText n :=
  object_text_ne (by simp [Identity.members]) n

theorem gateway_text_ne (g : Gateway) (n : Int32) : (gatewayJson g).toText ≠ codeText n :=
  object_text_ne (by simp [Gateway.members]) n

theorem array_text_ne (items : List Json) (n : Int32) : (Json.array items).toText ≠ codeText n := by
  intro same
  obtain ⟨others, code⟩ := codeText_front n
  rw [← same, toText, String.toList_ofList, compact] at code
  simp at code

theorem count_text_ne {count : Int} (positive : 0 ≤ count) (n : Int32) :
    (ofInt count).toText ≠ codeText n := by
  intro same
  obtain ⟨others, code⟩ := codeText_front n
  obtain ⟨k, rfl⟩ := Int.eq_ofNat_of_zero_le positive
  have shown : (toString (k : Int)).toList = Nat.toDigits 10 k := Nat.toList_repr
  have digits : (ofInt k).toText.toList = Nat.toDigits 10 k := by
    rw [toText, String.toList_ofList, ofInt, compact, shown]
  have brace : '{' ∈ Nat.toDigits 10 k := by
    rw [← digits, same, code]
    exact List.mem_cons_self
  have digit := Nat.isDigit_of_mem_toDigits (by decide) (by decide) brace
  exact absurd digit (by decide)

/-- Whether a reply tells its result as a code, or is data after a success. -/
def TellsOrShows (r : Response) : Prop :=
  r.toJsonText = codeText r.result ∨ 0 ≤ r.result ∧ ∀ n, r.toJsonText ≠ codeText n

theorem tellsOrShows_of_if {r : Response} {success : Prop} [Decidable success] {data : Json}
    (shape : r.toJson = if success then data else codeJson r.result)
    (away : success → 0 ≤ r.result ∧ ∀ n, data.toText ≠ codeText n) : r.TellsOrShows := by
  by_cases done : success
  · refine Or.inr ?_
    rw [toJsonText, shape, if_pos done]
    exact away done
  · refine Or.inl ?_
    rw [toJsonText, shape, if_neg done, toText_codeJson]

theorem tellsOrShows (r : Response) : r.TellsOrShows := by
  obtain ⟨h, body⟩ := r
  have fine (ok : h.code = ResultCode.ok.toInt32) : 0 ≤ h.code := by
    rw [ok]
    decide
  cases body with
  | operation offset size result =>
    refine tellsOrShows_of_if rfl ?_
    intro counts
    exact ⟨counts.2, count_text_ne (Int32.le_iff_toInt_le.mp counts.2)⟩
  | identity i => exact tellsOrShows_of_if rfl fun ok => ⟨fine ok, identity_text_ne i⟩
  | gateway g => exact tellsOrShows_of_if rfl fun ok => ⟨fine ok, gateway_text_ne g⟩
  | identityList offset items => exact tellsOrShows_of_if rfl fun ok => ⟨fine ok, array_text_ne _⟩
  | gatewayList offset items => exact tellsOrShows_of_if rfl fun ok => ⟨fine ok, array_text_ne _⟩

theorem toJsonText_eq_codeText_iff (r : Response) {n : Int32} (negative : n < 0) :
    r.toJsonText = codeText n ↔ r.result = n := by
  constructor
  · intro same
    rcases tellsOrShows r with code | ⟨-, data⟩
    · exact codeText_inj (code.symm.trans same)
    · exact absurd same (data n)
  · rintro rfl
    rcases tellsOrShows r with code | ⟨positive, -⟩
    · exact code
    · exact absurd negative (Int32.not_lt.mpr positive)

end Response
end IdentityDirectory
