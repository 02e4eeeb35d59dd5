import IdentityDirectory.Proofs.Directory.Ledger
import IdentityDirectory.Proofs.Directory.TextRequests
/-!
Requests that can be executed. A request is read from bytes, from a text in JSON or from a URN; whichever it is,
its body is one that its tag takes, so no directory is ever left without an answer to it.
-/
namespace IdentityDirectory

theorem Urn.isProper_of_toRequest {u : Urn} {code : Int32} {accessCode : UInt64} {q : Request}
    (made : u.toRequest code accessCode = .ok q) : q.IsProper := by
  unfold Urn.toRequest at made
  split at made
  · contradiction
  · split at made
    · contradiction
    · simp only at made
      split at made
      · contradiction
      · rename_i tag known
        rw [← Except.ok.inj made]
        cases tag <;> rfl

namespace Request

inductive IsRead : Request → Prop where
  | bytes {b : Bytes} {q : Request} (read : decode b = .ok q) : IsRead q
  | json {text : String} {q : Request} (read : ofJsonText text = .ok q) : IsRead q
  | urn {text : String} {u : Urn} {code : Int32} {accessCode : UInt64} {q : Request}
      (read : Urn.ofText text = .ok u) (made : u.toRequest code accessCode = .ok q) : IsRead q

theorem IsRead.isProper {q : Request} (read : q.IsRead) : q.IsProper := by
  cases read with
  | bytes read => exact isProper_of_decode read
  | json read => exact isProper_of_ofJsonText read
  | urn _ made => exact Urn.isProper_of_toRequest made

theorem IsProper.answered {q : Request} (proper : q.IsProper) (d : Directory) :
    (d.execute q.header q.body).isSome ∧ ∃ r, (d.handle q).2 = some r ∧ r.header.tag = q.header.tag := by
  obtain ⟨e, r, run⟩ := Directory.execute_of_isProper d proper
  obtain ⟨answer, handled⟩ := d.exists_answer proper
  exact ⟨by rw [run]; rfl, answer, handled, (Directory.handle_answers proper handled).tag_eq⟩

theorem IsProper.malformed_handle {q : Request} (proper : q.IsProper) (d : Directory) :
    (d.handle q).1.counters.requestsMalformed = d.counters.requestsMalformed := by
  rw [Directory.counters_handle d proper, Directory.judged, Counters.noted_eq]
  split <;> rfl

/-- Every request that is read from bytes, from a text in JSON or from a URN has a body that its tag takes.
Every directory executes it and answers it under its tag, and sent as bytes it is read with the same header
and a body in the same layout. -/
theorem read_requests_executable {q : Request} (read : q.IsRead) :
    q.body.layout = q.header.tag.layout ∧
    (∀ d : Directory,
      (d.execute q.header q.body).isSome ∧
      (d.handle q).1.counters.requestsMalformed = d.counters.requestsMalformed ∧
      ∃ r, (d.handle q).2 = some r ∧ r.header.tag = q.header.tag) ∧
    ∃ q', decode q.encode = .ok q' ∧ q'.header = q.header ∧ q'.body.layout = q.body.layout := by
  have proper := read.isProper
  have again : decode q.encode = .ok q.wire := by
    have whole := decode_encode proper []
    rwa [List.append_nil] at whole
  refine ⟨proper, fun d => ?_, q.wire, again, rfl, RequestBody.layout_wire _ _⟩
  obtain ⟨executed, answered⟩ := proper.answered d
  exact ⟨executed, proper.malformed_handle d, answered⟩

theorem urn_removal_executable :
    let q := Request.remove 42 42 ⟨0xBB⟩
    q.IsRead ∧ q.body.layout = .identity ∧
      ∀ d : Directory, ∃ r, (d.handle q).2 = some r ∧ r.header.tag = .remove := by
  intro q
  have made : (Urn.ofText "LW:D0:0000000000000000:0000000000000000:00000000:PD000000BB:PXr").bind
      (fun u => u.toRequest 42 42) = .ok q := ok_of_toOption (by decide +kernel)
  have read : q.IsRead := by
    cases parsed : Urn.ofText "LW:D0:0000000000000000:0000000000000000:00000000:PD000000BB:PXr" with
    | error cause =>
      rw [parsed] at made
      cases made
    | ok u =>
      rw [parsed] at made
      exact .urn parsed made
  obtain ⟨layout, answered, -⟩ := read_requests_executable read
  exact ⟨read, layout, fun d => (answered d).2.2⟩

end Request
end IdentityDirectory
