import IdentityDirectory.Client
import IdentityDirectory.Proofs.Directory.WireForm
/-!
One exchange of a client with a directory: what a call returns, told from what the directory computes.
-/
namespace IdentityDirectory

namespace Directory

theorem isAuthorized_of_codes {d : Directory} {h : Header} (code : h.code = d.code)
    (access : h.accessCode = d.accessCode) : d.isAuthorized h = true := by
  simp only [isAuthorized, code, access, decide_true, Bool.and_self]

end Directory

namespace Call
open Directory

variable {α : Type} {c : Call α} {d e : Directory} {r : Response}

theorem plain_run (proper : c.request.IsProper)
    (step : plain (d.handle c.request.wire) = (e.uncounted, some r)) (capacity : Nat) :
    plain (c.run d capacity) = (e.uncounted,
      if r.leastSize ≤ capacity then c.read (r.cut capacity).wire else .error .timeout) := by
  have answer := (Prod.mk.inj step).2
  have read := decode_reply (Request.isProper_wire proper) answer capacity
  have tag : (r.cut capacity).wire.header.tag = c.request.header.tag := by
    have same := (handle_answers (Request.isProper_wire proper) answer).tag_eq
    rw [Response.wire, Response.header_cut]
    exact same
  obtain ⟨stores, reply⟩ := Prod.mk.inj (dispatch_encode proper step capacity)
  refine Prod.ext stores ?_
  have received : (c.run d capacity).2 = c.receive (d.dispatch c.request.encode capacity).2 := rfl
  rw [plain, received, reply]
  split
  · simp only [receive, read, bind, Except.bind, tag, ne_eq, not_true_eq_false, ↓reduceIte]
  · rfl

theorem run_of_execute (proper : c.request.IsProper)
    (known : d.isAuthorized c.request.header = true)
    (run : d.execute c.request.header c.request.wire.body = some (e, r)) {capacity : Nat}
    (room : r.leastSize ≤ capacity) :
    plain (c.run d capacity) = (e.uncounted, c.read (r.cut capacity).wire) := by
  have authorized : d.isAuthorized c.request.wire.header = true := known
  have step := handle_authorized authorized
  have computed : d.execute c.request.wire.header c.request.wire.body = some (e, r) := run
  rw [computed] at step
  rw [plain_run proper step, if_pos room]

end Call
end IdentityDirectory
