import IdentityDirectory.Proofs.Directory.WireForm
import IdentityDirectory.Proofs.Json.Replies
/-!
Requests in JSON and requests in bytes. Both come in by an entrance of their own, are handled alike, and leave
by different writers; what comes out is the same response.
-/
namespace IdentityDirectory

namespace Request

theorem isProper_of_toRequest {t : TextRequest} {q : Request} (h : t.toRequest = .ok q) : q.IsProper := by
  unfold TextRequest.toRequest at h
  split at h
  · contradiction
  · simp only at h
    split at h
    · contradiction
    · rename_i tag known
      rw [← Except.ok.inj h]
      cases tag <;> rfl

theorem isProper_of_ofJsonText {text : String} {q : Request} (h : ofJsonText text = .ok q) :
    q.IsProper := by
  unfold ofJsonText at h
  split at h
  · contradiction
  · exact isProper_of_toRequest h

end Request

namespace Directory

/-- The two entrances agree. A request that is read from a text leaves the same holdings behind as the same
request in bytes; both are answered, the text of the answer is that of the response which the bytes of the
other are read as, and it is the object with a negative code exactly if that is the result. -/
theorem text_and_raw_requests_agree {d : Directory} {text : String} {q : Request} {capacity : Nat}
    (wired : d.IsWired) (read : Request.ofJsonText text = .ok q) (still : q.wire = q)
    (room : 24247 ≤ capacity) :
    (d.answerJson text).1.holdings = (d.dispatch q.encode capacity).1.holdings ∧
      ∃ reply r, (d.dispatch q.encode capacity).2 = some reply ∧ Response.decode reply = .ok r ∧
        (d.answerJson text).2 = some r.toJsonText ∧
        ∀ n : Int32, n < 0 →
          ((d.answerJson text).2 = some (Response.codeText n) ↔ r.result = n) := by
  have proper := Request.isProper_of_ofJsonText read
  have handled : ∃ (e : Directory) (r : Response), plain (d.handle q) = (e.uncounted, some r) := by
    rcases handle_cases d proper with ⟨-, step⟩ | ⟨-, e, r, -, step⟩
    · exact ⟨d, _, step⟩
    · exact ⟨e, r, step⟩
  obtain ⟨e, r, step⟩ := handled
  have answer := (Prod.mk.inj step).2
  obtain ⟨wide, whole⟩ := answer_arrives proper wired still answer room
  obtain ⟨jsonStores, json⟩ := Prod.mk.inj (answerJson_of_handle read step)
  -- the same step, for the request as it is read from its bytes
  rw [← still] at step
  obtain ⟨rawStores, raw⟩ := Prod.mk.inj (dispatch_encode proper step capacity)
  rw [if_pos wide] at raw
  have meant := decode_reply proper answer capacity
  rw [whole] at meant
  refine ⟨holdings_of_uncounted (jsonStores.trans rawStores.symm), (r.cut capacity).encode, r, raw,
    meant, json, ?_⟩
  intro n negative
  rw [json, Option.some_inj]
  exact Response.toJsonText_eq_codeText_iff r negative

theorem missing_device_told_alike :
    let d := (inMemory none 42 42 ⟨[], []⟩ default).withIdentities
      ⟨.memory, none, [Identity.ofAddr ⟨5⟩]⟩
    let text := Json.requestText "a" [("eui", .string "00000000000000BB")]
    ∃ reply r, (d.dispatch (Request.addrLookup 42 42 ⟨0xBB⟩).encode 24247).2 = some reply ∧
      Response.decode reply = .ok r ∧ r.result = -2 ∧
      (d.answerJson text).2 = some (Response.codeText (-2)) := by
  intro d text
  have wired : d.IsWired := by decide
  have read : Request.ofJsonText text = .ok (Request.addrLookup 42 42 ⟨0xBB⟩) :=
    ok_of_toOption (by decide +kernel)
  have answer : (d.answerJson text).2 = some (Response.codeText (-2)) := by decide +kernel
  obtain ⟨-, reply, r, raw, meant, -, told⟩ :=
    text_and_raw_requests_agree wired read rfl (Nat.le_refl _)
  exact ⟨reply, r, raw, meant, (told (-2) (by decide)).mp answer, answer⟩

end Directory
end IdentityDirectory
