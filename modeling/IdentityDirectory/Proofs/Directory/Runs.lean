import IdentityDirectory.Proofs.Directory.Steps
import IdentityDirectory.Proofs.Wire.Fitting
/-!
Runs of raw requests. Every request of a run is answered by the directory that the requests before it
have left, and the log keeps each request with its reply. The codes of a directory never change.
-/
namespace IdentityDirectory

structure Packet where
  bytes : Bytes
  capacity : Nat
  deriving DecidableEq, Repr

structure Exchange where
  packet : Packet
  reply : Option Bytes
  deriving DecidableEq, Repr

namespace Directory

def inMemory (network : Option NetId) (code : Int32) (accessCode : UInt64) (disk : Disk)
    (counters : Counters) : Directory where
  identities := .make .memory network
  gateways := .make .memory
  code := code
  accessCode := accessCode
  disk := disk
  counters := counters

def run (d : Directory) : List Packet → Directory × List Exchange
  | [] => (d, [])
  | p :: packets =>
    let (e, reply) := d.dispatch p.bytes p.capacity
    let (last, log) := e.run packets
    (last, ⟨p, reply⟩ :: log)

theorem run_cons (d : Directory) (p : Packet) (packets : List Packet) :
    d.run (p :: packets) =
      (((d.dispatch p.bytes p.capacity).1.run packets).1,
        ⟨p, (d.dispatch p.bytes p.capacity).2⟩ ::
          ((d.dispatch p.bytes p.capacity).1.run packets).2) := rfl

theorem handle_cases (d : Directory) {q : Request} (proper : q.IsProper) :
    (d.isAuthorized q.header = false ∧
        plain (d.handle q) = (d.uncounted, some (Response.accessDenied q.header.tag))) ∨
      (d.isAuthorized q.header = true ∧
        ∃ e r, Outcome d q e r ∧ plain (d.handle q) = (e.uncounted, some r)) := by
  cases known : d.isAuthorized q.header with
  | false => exact Or.inl ⟨rfl, handle_denied known⟩
  | true =>
    obtain ⟨e, r, run⟩ := execute_of_isProper d proper
    obtain ⟨e', outcome, same⟩ := execute_outcome run
    have step := handle_authorized known
    rw [run] at step
    exact Or.inr ⟨rfl, e', r, outcome, by rw [step, same]⟩

theorem exists_answer (d : Directory) {q : Request} (proper : q.IsProper) :
    ∃ r, (d.handle q).2 = some r := by
  rcases d.handle_cases proper with ⟨-, step⟩ | ⟨-, e, r, -, step⟩
  · exact ⟨_, (Prod.mk.inj step).2⟩
  · exact ⟨r, (Prod.mk.inj step).2⟩

/-- All that becomes of a decoded request, given what becomes of it before its answer is cut. -/
theorem dispatch_of_handle {d e : Directory} {b : Bytes} {q : Request} {r : Response}
    (read : Request.decode b = .ok q) (step : plain (d.handle q) = (e.uncounted, some r))
    (capacity : Nat) :
    plain (d.dispatch b capacity) =
      (e.uncounted, if r.leastSize ≤ capacity then some (r.cut capacity).encode else none) := by
  obtain ⟨stores, answer⟩ := Prod.mk.inj step
  rw [plain_dispatch, plain_respond, read]
  simp only [stores, answer, Option.bind_some, Response.fit_response?]
  split <;> rfl

theorem answerJson_of_handle {d e : Directory} {text : String} {q : Request} {r : Response}
    (read : Request.ofJsonText text = .ok q) (step : plain (d.handle q) = (e.uncounted, some r)) :
    plain (d.answerJson text) = (e.uncounted, some r.toJsonText) := by
  obtain ⟨stores, answer⟩ := Prod.mk.inj step
  cases handled : d.handle q with
  | mk f reply =>
    rw [handled] at stores answer
    obtain rfl : reply = some r := answer
    simp only [answerJson, read, handled, plain]
    exact congrArg (Prod.mk · _) stores

theorem Outcome.codes {d e : Directory} {q : Request} {r : Response} (h : Outcome d q e r) :
    e.code = d.code ∧ e.accessCode = d.accessCode := by
  cases h <;> exact ⟨rfl, rfl⟩

theorem codes_of_uncounted {d e : Directory} (same : d.uncounted = e.uncounted) :
    d.code = e.code ∧ d.accessCode = e.accessCode := by
  have code := congrArg Directory.code same
  have access := congrArg Directory.accessCode same
  exact ⟨code, access⟩

theorem codes_dispatch (d : Directory) (b : Bytes) (capacity : Nat) :
    (d.dispatch b capacity).1.code = d.code ∧
      (d.dispatch b capacity).1.accessCode = d.accessCode := by
  have step := plain_dispatch d b capacity
  rw [plain_respond] at step
  cases read : Request.decode b with
  | error cause =>
    rw [read] at step
    exact codes_of_uncounted (e := d) (Prod.mk.inj step).1
  | ok q =>
    rw [read] at step
    have handled := codes_of_uncounted (e := (d.handle q).1) (Prod.mk.inj step).1
    rw [handled.1, handled.2]
    rcases handle_cases d (Request.isProper_of_decode read) with ⟨-, h⟩ | ⟨-, e, r, outcome, h⟩
    · exact codes_of_uncounted (e := d) (Prod.mk.inj h).1
    · have same := codes_of_uncounted (e := e) (Prod.mk.inj h).1
      exact ⟨same.1.trans outcome.codes.1, same.2.trans outcome.codes.2⟩

theorem dispatch_congr {d e : Directory} (same : d.uncounted = e.uncounted) (b : Bytes)
    (capacity : Nat) : plain (d.dispatch b capacity) = plain (e.dispatch b capacity) := by
  have handled (q : Request) : plain (d.handle q) = plain (e.handle q) := by
    rw [← handle_uncounted d, same, handle_uncounted e]
  rw [plain_dispatch, plain_dispatch, plain_respond, plain_respond]
  cases Request.decode b with
  | error cause => simp [same]
  | ok q =>
    obtain ⟨stores, answer⟩ := Prod.mk.inj (handled q)
    simp only [stores, answer]

end Directory
end IdentityDirectory
