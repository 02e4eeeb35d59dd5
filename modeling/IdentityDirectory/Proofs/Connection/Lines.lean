import IdentityDirectory.Connection.Json
import IdentityDirectory.Proofs.Directory.Executable
import IdentityDirectory.Proofs.Json.OneLine
/-!
Lines in and lines out. A connection in JSON answers the lines that are not blank, each on a line of its
own if it is a request and not at all if it is none; as no reply holds the end of a line, the lines that
are sent are the replies.
-/
namespace IdentityDirectory

namespace Lines

theorem cut_line {line : Bytes} (free : lineFeed ∉ line) (b : Bytes) :
    cut (line ++ lineFeed :: b) = (line :: (cut b).1, (cut b).2) := by
  induction line with
  | nil => rfl
  | cons x line ih =>
    have other : x ≠ lineFeed := fun same => free (same ▸ List.mem_cons_self)
    have behind := ih fun member => free (List.mem_cons_of_mem x member)
    simp only [List.cons_append, cut, behind, if_neg other]

theorem cut_lines {lines : List Bytes} (free : ∀ line ∈ lines, lineFeed ∉ line) :
    cut (lines.flatMap fun line => line ++ [lineFeed]) = (lines, []) := by
  induction lines with
  | nil => rfl
  | cons line lines ih =>
    obtain ⟨first, others⟩ := List.forall_mem_cons.mp free
    rw [List.flatMap_cons, List.append_assoc, List.singleton_append, cut_line first, ih others]

end Lines

namespace Directory

def isFilled (line : String) : Bool := !(Text.trim line.toList).isEmpty

def isRequest (text : String) : Bool := (Request.ofJsonText text).isOk

def answerTexts (d : Directory) : List String → Directory × List (Option String)
  | [] => (d, [])
  | text :: rest =>
    let (e, reply) := d.answerJson text
    let (last, replies) := e.answerTexts rest
    (last, reply :: replies)

/-- How many requests were counted, the malformed ones among them. -/
def heard (d : Directory) : UInt64 := d.counters.requestsTotal + d.counters.requestsMalformed

theorem answerJson_of_error {text : String} {cause : Error}
    (refused : Request.ofJsonText text = .error cause) (d : Directory) :
    d.answerJson text = (d.count .malformed, none) := by
  simp only [answerJson, refused]

theorem answerJson_of_not_isRequest {text : String} (garbled : isRequest text = false) (d : Directory) :
    d.answerJson text = (d.count .malformed, none) := by
  unfold isRequest at garbled
  cases read : Request.ofJsonText text with
  | error cause => exact answerJson_of_error read d
  | ok q =>
    rw [read] at garbled
    contradiction

theorem answerJson_of_ok {text : String} {q : Request} (read : Request.ofJsonText text = .ok q)
    (d : Directory) : ∃ r : Response, d.answerJson text = ((d.handle q).1, some r.toJsonText) := by
  obtain ⟨r, answer⟩ := d.exists_answer (Request.isProper_of_ofJsonText read)
  refine ⟨r, ?_⟩
  cases handled : d.handle q with
  | mk e reply =>
    rw [handled] at answer
    obtain rfl : reply = some r := answer
    simp only [answerJson, read, handled]

theorem answerJson_spec (d : Directory) (text : String) :
    (d.answerJson text).2.isSome = isRequest text ∧
      (∀ reply, (d.answerJson text).2 = some reply → Json.IsOneLine reply.toList) ∧
      (isRequest text = false → (d.answerJson text).1.holdings = d.holdings) := by
  unfold isRequest
  cases read : Request.ofJsonText text with
  | error cause =>
    rw [answerJson_of_error read]
    exact ⟨rfl, nofun, fun _ => rfl⟩
  | ok q =>
    obtain ⟨r, answer⟩ := answerJson_of_ok read d
    rw [answer]
    refine ⟨rfl, ?_, nofun⟩
    intro reply told
    rw [← Option.some.inj told]
    exact r.isOneLine_toJsonText

theorem answerJson_congr {d e : Directory} (same : d.uncounted = e.uncounted) (text : String) :
    plain (d.answerJson text) = plain (e.answerJson text) := by
  cases read : Request.ofJsonText text with
  | error cause =>
    rw [answerJson_of_error read, answerJson_of_error read]
    exact congrArg (Prod.mk · none) same
  | ok q =>
    have handled : plain (d.handle q) = plain (e.handle q) := by
      rw [← handle_uncounted d, same, handle_uncounted e]
    obtain ⟨r, answer⟩ := e.exists_answer (Request.isProper_of_ofJsonText read)
    have other : plain (e.handle q) = ((e.handle q).1.uncounted, some r) := congrArg (Prod.mk _) answer
    rw [answerJson_of_handle read other, answerJson_of_handle read (handled.trans other)]

theorem heard_answerJson (d : Directory) (text : String) : (d.answerJson text).1.heard = d.heard + 1 := by
  have next (a b : UInt64) : a + (b + 1) = a + b + 1 := (UInt64.add_assoc a b 1).symm
  have swap (a b : UInt64) : a + 1 + b = a + b + 1 := by
    rw [UInt64.add_assoc, UInt64.add_comm 1, ← UInt64.add_assoc]
  cases read : Request.ofJsonText text with
  | error cause =>
    rw [answerJson_of_error read]
    exact next _ _
  | ok q =>
    obtain ⟨r, answer⟩ := answerJson_of_ok read d
    rw [answer, heard, counters_handle d (Request.isProper_of_ofJsonText read), judged, Counters.noted_eq]
    split <;> exact swap _ _

/-! Lines, one after the other. -/

theorem answerLine_blank {line : String} (blank : isFilled line = false) (d : Directory) :
    d.answerLine line = (d, none) := by
  have empty : (Text.trim line.toList).isEmpty = true := by simpa [isFilled] using blank
  rw [answerLine, if_pos empty]

theorem answerLine_filled {line : String} (filled : isFilled line = true) (d : Directory) :
    plain (d.answerLine line) = plain (d.answerJson line) ∧
      (d.answerLine line).1.heard = d.heard + 1 := by
  have solid : ¬ (Text.trim line.toList).isEmpty = true := by simpa [isFilled] using filled
  let e := d.count (.bytesIn (UInt64.ofNat (Text.utf8Size line.toList)))
  have counted : (e.answerJson line).1.heard = d.heard + 1 := heard_answerJson e line
  have same : plain (e.answerJson line) = plain (d.answerJson line) :=
    answerJson_congr (d := e) (e := d) rfl line
  rw [answerLine, if_neg solid]
  dsimp only
  split <;> rename_i step <;> rw [step] at counted same <;> exact ⟨same, counted⟩

theorem answerTexts_congr {d e : Directory} (same : d.uncounted = e.uncounted) (texts : List String) :
    plain (d.answerTexts texts) = plain (e.answerTexts texts) := by
  induction texts generalizing d e with
  | nil => exact congrArg (Prod.mk · []) same
  | cons text texts ih =>
    obtain ⟨stores, answer⟩ := Prod.mk.inj (answerJson_congr same text)
    obtain ⟨last, replies⟩ := Prod.mk.inj (ih stores)
    simp only [answerTexts, plain, last, replies, answer]

/-- Lines are answered as the texts on them are, the blank ones left out. -/
theorem answerLines_eq (d : Directory) (lines : List String) :
    (d.answerLines lines).1.uncounted = (d.answerTexts (lines.filter isFilled)).1.uncounted ∧
      (d.answerLines lines).2 = (d.answerTexts (lines.filter isFilled)).2.filterMap id ∧
      (d.answerLines lines).1.heard = d.heard + UInt64.ofNat (lines.filter isFilled).length := by
  induction lines generalizing d with
  | nil => exact ⟨rfl, rfl, (UInt64.add_zero _).symm⟩
  | cons line lines ih =>
    cases filled : isFilled line with
    | false =>
      have skipped : d.answerLines (line :: lines) = d.answerLines lines := by
        simp only [answerLines, answerLine_blank filled, Option.toList_none, List.nil_append]
      rw [skipped, List.filter_cons_of_neg (by simp [filled])]
      exact ih d
    | true =>
      obtain ⟨step, counted⟩ := answerLine_filled filled d
      obtain ⟨stores, answer⟩ := Prod.mk.inj step
      obtain ⟨last, replies, total⟩ := ih (d.answerLine line).1
      obtain ⟨ends, told⟩ := Prod.mk.inj (answerTexts_congr stores (lines.filter isFilled))
      have more : d.heard + 1 + UInt64.ofNat (lines.filter isFilled).length =
          d.heard + UInt64.ofNat ((lines.filter isFilled).length + 1) := by
        rw [UInt64.ofNat_add, UInt64.add_assoc, UInt64.add_comm 1]
        rfl
      rw [List.filter_cons_of_pos filled, List.length_cons, ← more, ← counted]
      refine ⟨last.trans ends, ?_, total⟩
      simp only [answerLines, answerTexts, replies, told, answer]
      cases (d.answerJson line).2 <;> rfl

theorem isSome_answerTexts (d : Directory) (texts : List String) :
    (d.answerTexts texts).2.map Option.isSome = texts.map isRequest := by
  induction texts generalizing d with
  | nil => rfl
  | cons text texts ih =>
    simp only [answerTexts, List.map_cons, (d.answerJson_spec text).1, ih]

theorem isOneLine_of_mem {d : Directory} {texts : List String} {reply : String}
    (told : some reply ∈ (d.answerTexts texts).2) : Json.IsOneLine reply.toList := by
  induction texts generalizing d with
  | nil => contradiction
  | cons text texts ih =>
    rcases List.mem_cons.mp told with here | behind
    · exact (d.answerJson_spec text).2.1 reply here.symm
    · exact ih behind

theorem utf8_replyText (replies : List String) :
    Text.utf8 (replyText replies).toList =
      (replies.map fun reply => Text.utf8 reply.toList).flatMap fun line => line ++ [Lines.lineFeed] := by
  induction replies with
  | nil => rfl
  | cons reply replies ih =>
    have joined : replyText (reply :: replies) = reply ++ "\n" ++ replyText replies := by
      simp [replyText]
    have feed : Text.utf8 "\n".toList = [Lines.lineFeed] := by decide
    rw [joined, String.toList_append, String.toList_append, Text.utf8_append, Text.utf8_append, ih, feed]
    rfl

theorem cut_replyText {replies : List String} (oneLine : ∀ reply ∈ replies, Json.IsOneLine reply.toList) :
    Lines.cut (Text.utf8 (replyText replies).toList) =
      (replies.map fun reply => Text.utf8 reply.toList, []) := by
  rw [utf8_replyText]
  apply Lines.cut_lines
  intro line member
  obtain ⟨reply, told, rfl⟩ := List.mem_map.mp member
  exact Text.not_mem_utf8 (c := '\n') (by decide) ((oneLine reply told).not_mem (by decide))

theorem closed_as_was (d : Directory) (isSpoiled : Bool) :
    let e := (if isSpoiled then d.count .transportError else d).count .connectionClosed
    e.holdings = d.holdings ∧ e.heard = d.heard := by
  cases isSpoiled <;> exact ⟨rfl, rfl⟩

theorem serveLines_spec (d : Directory) (b : Bytes) :
    (d.serveLines b).2 = replyText (d.answerLines (Lines.read b).1).2 ∧
      (d.serveLines b).1.holdings = (d.answerLines (Lines.read b).1).1.holdings ∧
      (d.serveLines b).1.heard = (d.answerLines (Lines.read b).1).1.heard := by
  let opened := d.count .connectionOpened
  obtain ⟨stores, replies, counted⟩ := opened.answerLines_eq (Lines.read b).1
  obtain ⟨stores', replies', counted'⟩ := d.answerLines_eq (Lines.read b).1
  have same : opened.uncounted = d.uncounted := rfl
  obtain ⟨ends, told⟩ := Prod.mk.inj (answerTexts_congr same ((Lines.read b).1.filter isFilled))
  obtain ⟨held, heard⟩ := closed_as_was (opened.answerLines (Lines.read b).1).1 (Lines.read b).2
  have answers : (opened.answerLines (Lines.read b).1).2 = (d.answerLines (Lines.read b).1).2 := by
    rw [replies, replies', told]
  refine ⟨congrArg replyText answers, held.trans ?_, heard.trans (counted.trans counted'.symm)⟩
  exact holdings_of_uncounted ((stores.trans ends).trans stores'.symm)

/-- A connection answers each line that is a request with one line, and sends nothing else: cut at line
feeds, what it sends are the replies to the lines that are not blank, in order. Lines that are no requests
get no reply and change nothing that is held, no reply holds the end of a line, and each line that is not
blank is counted once. -/
theorem one_reply_line_per_request (d : Directory) :
    (∀ lines : List String,
      let texts := lines.filter isFilled
      Lines.cut (Text.utf8 (replyText (d.answerLines lines).2).toList) =
          (((d.answerTexts texts).2.filterMap id).map fun reply => Text.utf8 reply.toList, []) ∧
        (d.answerTexts texts).2.map Option.isSome = texts.map isRequest ∧
        (d.answerLines lines).1.holdings = (d.answerTexts texts).1.holdings ∧
        (d.answerLines lines).1.heard = d.heard + UInt64.ofNat texts.length) ∧
    (∀ text, isRequest text = false →
      (d.answerJson text).2 = none ∧ (d.answerJson text).1.holdings = d.holdings) ∧
    (∀ text reply, (d.answerJson text).2 = some reply → '\n' ∉ reply.toList ∧ '\r' ∉ reply.toList) ∧
    ∀ b : Bytes,
      (d.serveLines b).2 = replyText (d.answerLines (Lines.read b).1).2 ∧
        (d.serveLines b).1.holdings = (d.answerLines (Lines.read b).1).1.holdings ∧
        (d.serveLines b).1.heard = (d.answerLines (Lines.read b).1).1.heard := by
  refine ⟨?_, ?_, ?_, ?_⟩
  · intro lines texts
    obtain ⟨stores, replies, counted⟩ := d.answerLines_eq lines
    refine ⟨?_, d.isSome_answerTexts texts, holdings_of_uncounted stores, counted⟩
    rw [replies]
    apply cut_replyText
    intro reply told
    obtain ⟨answer, there, same⟩ := List.mem_filterMap.mp told
    obtain rfl : answer = some reply := same
    exact isOneLine_of_mem there
  · intro text none
    obtain ⟨answered, -, still⟩ := d.answerJson_spec text
    rw [none, Option.isSome_eq_false_iff, Option.isNone_iff_eq_none] at answered
    exact ⟨answered, still none⟩
  · intro text reply told
    have oneLine := (d.answerJson_spec text).2.1 reply told
    exact ⟨oneLine.not_mem (by decide), oneLine.not_mem (by decide)⟩
  · exact d.serveLines_spec

theorem broken_name_told_on_one_line :
    let name : DeviceName := ⟨⟨[0x61, 0x0A, 0x0D, 0x22, 0xFF, 0, 0x0A, 0], rfl⟩⟩
    let d := (inMemory none 42 42 ⟨[], []⟩ default).withIdentities
      ⟨.memory, none, [⟨⟨5⟩, { (default : Device) with name := name }⟩]⟩
    let lookup := Json.requestText "a" [("eui", .string "0000000000000000")]
    ∃ reply : String,
      (d.answerJson lookup).2 = some reply ∧ '\n' ∉ reply.toList ∧ '\r' ∉ reply.toList ∧
        Lines.cut (Text.utf8 (replyText (d.answerLines [" ", "not json", lookup]).2).toList) =
          ([Text.utf8 reply.toList], []) ∧
        isRequest "not json" = false ∧ (d.answerJson "not json").2 = none := by
  intro name d lookup
  have filled : [" ", "not json", lookup].filter isFilled = ["not json", lookup] := by decide +kernel
  have garbled : isRequest "not json" = false := by decide +kernel
  have answered : (d.answerJson lookup).2.isSome = true := by decide +kernel
  have after : (d.answerTexts ["not json", lookup]).2 = [none, (d.answerJson lookup).2] := by
    have same : (d.count .malformed).uncounted = d.uncounted := rfl
    have reply := (Prod.mk.inj (answerJson_congr same lookup)).2
    simp only [answerTexts, answerJson_of_not_isRequest garbled, reply]
  obtain ⟨reply, told⟩ := Option.isSome_iff_exists.mp answered
  obtain ⟨lines, silent, free, -⟩ := one_reply_line_per_request d
  have sent := (lines [" ", "not json", lookup]).1
  rw [filled, after, told] at sent
  exact ⟨reply, told, (free _ _ told).1, (free _ _ told).2, sent, garbled, (silent _ garbled).1⟩

/-- A device is assigned and counted in JSON, with a line in between that is no request. -/
example :
    let assign := Json.requestText "p" [("addr", .string "26000001"), ("deveui", .string "AA")]
    let d := inMemory none 42 42 ⟨[], []⟩ default
    (d.answerLines [assign, "garbage", Json.requestText "c" []]).2 = [Response.codeText 0, "1"] := by
  decide +kernel

end Directory
end IdentityDirectory
