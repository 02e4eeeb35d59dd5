import Mathlib.Algebra.GroupWithZero.Nat
import IdentityDirectory.Proofs.Directory.Accounts
import IdentityDirectory.Proofs.Directory.Denial
/-!
The ledger of a run. Raw requests come in one after the other, by either entrance; over the whole run every
counter has grown by what the requests, their replies and the store calls in between add up to.
-/
namespace IdentityDirectory

/-- A raw request in a run: the directory it came to, its reply, and the directory it left behind. -/
structure Moment where
  before : Directory
  packet : Packet
  reply : Option Bytes
  after : Directory

namespace Moment

def isDecoded (m : Moment) : Bool := (Request.decode m.packet.bytes).isOk

def isDenied (m : Moment) : Bool := m.before.refuses m.packet.bytes

def isFailed (m : Moment) : Bool :=
  match Request.decode m.packet.bytes with
  | .ok q => m.before.isAuthorized q.header && (m.before.storeFailure q).any (· ≠ .notFound)
  | .error _ => false

def isShortened (m : Moment) : Bool :=
  match Request.decode m.packet.bytes, m.reply with
  | .ok q, some reply => m.before.isAuthorized q.header && decide (carried reply < m.before.returned q)
  | _, _ => false

/-- What a request adds to the counters. -/
def account (m : Moment) : Counters where
  requestsTotal := Counters.tick m.isDecoded
  requestsMalformed := Counters.tick !m.isDecoded
  accessDenied := Counters.tick m.isDenied
  backendErrors := Counters.tick m.isFailed
  listsTruncated := Counters.tick m.isShortened
  responsesDropped := Counters.tick (m.isDecoded && m.reply.isNone)
  bytesSent := UInt64.ofNat (m.reply.getD []).length
  bytesReceived := UInt64.ofNat m.packet.bytes.length
  connectionsTotal := 0
  connectionsActive := 0
  transportErrors := 0

end Moment

namespace Counters

@[simp] theorem tick_true : tick true = 1 := rfl

@[simp] theorem tick_false : tick false = 0 := rfl

theorem noted_eq (c : Counters) (failure : Option StoreError) :
    c.noted failure =
      { c with backendErrors := c.backendErrors + tick (failure.any (· ≠ .notFound)) } := by
  cases failure with
  | none => simp [noted]
  | some cause =>
    simp only [noted, Option.any_some]
    split <;> rename_i missing <;> simp [missing, backendError]

theorem fitted_eq (c : Counters) (f : Fitted) {shortened dropped : Bool}
    (short : shortened = true ↔ ∃ s, f = .shortened s) (drop : dropped = f.response?.isNone) :
    c.fitted f =
      { c with
        listsTruncated := c.listsTruncated + tick shortened
        responsesDropped := c.responsesDropped + tick dropped } := by
  subst drop
  cases f with
  | whole s =>
    obtain rfl : shortened = false := by simpa using short
    simp [fitted, Fitted.response?]
  | shortened s =>
    obtain rfl : shortened = true := by simpa using short
    simp [fitted, Fitted.response?, listTruncated]
  | dropped =>
    obtain rfl : shortened = false := by simpa using short
    simp [fitted, Fitted.response?, responseDropped]

end Counters

namespace Directory

def moment (d : Directory) (p : Packet) : Moment :=
  ⟨d, p, (d.dispatch p.bytes p.capacity).2, (d.dispatch p.bytes p.capacity).1⟩

@[simp] theorem moment_packet (d : Directory) (p : Packet) : (d.moment p).packet = p := rfl

@[simp] theorem moment_reply (d : Directory) (p : Packet) :
    (d.moment p).reply = (d.dispatch p.bytes p.capacity).2 := rfl

def momentOf (d : Directory) (x : Inquiry) : Moment := ⟨d, x.packet, (d.answer x).2, (d.answer x).1⟩

def trail (d : Directory) : List Inquiry → List Moment
  | [] => []
  | x :: xs => d.momentOf x :: (d.answer x).1.trail xs

def answerAll (d : Directory) (xs : List Inquiry) : Directory := xs.foldl (fun d x => (d.answer x).1) d

def judged (d : Directory) (q : Request) (c : Counters) : Counters :=
  if d.isAuthorized q.header then c.request.noted (d.storeFailure q) else c.request.denied

theorem counters_handle (d : Directory) {q : Request} (proper : q.IsProper) :
    (d.handle q).1.counters = d.judged q d.counters := by
  have same : (d.count .request).isAuthorized q.header = d.isAuthorized q.header := rfl
  have failure : (d.count .request).storeFailure q = d.storeFailure q := rfl
  simp only [handle, judged, same]
  cases known : d.isAuthorized q.header with
  | false => rfl
  | true =>
    obtain ⟨e, r, run⟩ := execute_of_isProper (d.count .request) proper
    have counted := counters_execute run
    simp only [run]
    exact counted.trans (congrArg _ failure)

theorem dispatch_of_decode (d : Directory) {b : Bytes} {q : Request} (read : Request.decode b = .ok q)
    (capacity : Nat) :
    ∃ r, (d.handle q).2 = some r ∧
      (d.dispatch b capacity).2 = (r.fit capacity).response?.map Response.encode ∧
      (d.dispatch b capacity).1.counters =
        ((d.judged q (d.counters.bytesIn (UInt64.ofNat b.length))).fitted (r.fit capacity)).bytesOut
          (UInt64.ofNat ((d.dispatch b capacity).2.getD []).length) := by
  have proper := Request.isProper_of_decode read
  have counted := counters_handle (d.count (.bytesIn (UInt64.ofNat b.length))) proper
  have answer := (Prod.mk.inj (handle_count d (.bytesIn (UInt64.ofNat b.length)) q)).2
  obtain ⟨r, handled⟩ := d.exists_answer proper
  refine ⟨r, handled, ?_⟩
  cases step : (d.count (.bytesIn (UInt64.ofNat b.length))).handle q with
  | mk e reply =>
    rw [step] at counted answer
    obtain rfl : reply = some r := answer.trans handled
    have before : e.counters = d.judged q (d.counters.bytesIn (UInt64.ofNat b.length)) := counted
    have none (c : Counters) : c.bytesOut (UInt64.ofNat 0) = c := by
      simp [Counters.bytesOut]
    simp only [dispatch, respond, read, step, fit]
    cases fitted : r.fit capacity with
    | whole s => exact ⟨rfl, by rw [← before]; rfl⟩
    | shortened s => exact ⟨rfl, by rw [← before]; rfl⟩
    | dropped => exact ⟨rfl, by rw [← before, Option.getD_none, List.length_nil, none]; rfl⟩

theorem isClear_of_fit {r s : Response} {tag : Tag} {capacity : Nat} (answers : r.Answers tag)
    (fitted : (r.fit capacity).response? = some s) : s.IsClear := by
  rw [Response.fit_response?] at fitted
  split at fitted
  · rw [← Option.some.inj fitted]
    exact (answers.cut capacity).clear
  · contradiction

theorem isShortened_of_decode {d : Directory} {p : Packet} {q : Request} {r : Response}
    (read : Request.decode p.bytes = .ok q) (handled : (d.handle q).2 = some r)
    (replied : (d.dispatch p.bytes p.capacity).2 =
      (r.fit p.capacity).response?.map Response.encode) :
    (d.moment p).isShortened = true ↔ ∃ s, r.fit p.capacity = .shortened s := by
  have proper := Request.isProper_of_decode read
  have answers := handle_answers proper handled
  simp only [Moment.isShortened, moment, read, replied]
  cases known : d.isAuthorized q.header with
  | false =>
    have denied := (Prod.mk.inj (handle_denied known)).2
    obtain rfl := Option.some.inj (handled.symm.trans denied)
    have empty : (Response.accessDenied q.header.tag).recordCount = 0 := rfl
    rcases Response.fit_cases (Response.accessDenied q.header.tag) p.capacity with
      whole | ⟨s, -, fewer⟩ | dropped
    · simp [known, whole, Fitted.response?]
    · omega
    · simp [dropped, Fitted.response?]
  | true =>
    have count : r.recordCount = d.returned q := by
      obtain ⟨e, other, run⟩ := execute_of_isProper d proper
      have step := handle_authorized known
      rw [run] at step
      obtain rfl := Option.some.inj (handled.symm.trans (Prod.mk.inj step).2)
      exact recordCount_execute run
    rcases Response.fit_cases r p.capacity with whole | ⟨s, short, fewer⟩ | dropped
    · simp [whole, Fitted.response?, Response.carried_encode answers.clear, count]
    · have clear : s.IsClear := isClear_of_fit answers (by rw [short]; rfl)
      simp [known, short, Fitted.response?, Response.carried_encode clear, ← count, fewer]
    · simp [dropped, Fitted.response?]

/-- One raw request adds its account to the counters. -/
theorem counters_step (d : Directory) (p : Packet) :
    (d.moment p).after.counters = d.counters.plus (d.moment p).account := by
  cases read : Request.decode p.bytes with
  | error cause =>
    have malformed : d.dispatch p.bytes p.capacity =
        ((d.count (.bytesIn (UInt64.ofNat p.bytes.length))).count .malformed, none) := by
      simp only [dispatch, respond, read]
    simp [moment, malformed, Moment.account, Moment.isDecoded, Moment.isDenied, Moment.isFailed,
      Moment.isShortened, refuses, read, Counters.plus, Counters.tick, count, Counters.bytesIn,
      Counters.malformed, Except.isOk, Except.toBool]
  | ok q =>
    obtain ⟨r, handled, replied, counted⟩ := dispatch_of_decode d read p.capacity
    have short := isShortened_of_decode read handled replied
    have drop : (d.moment p).reply.isNone = (r.fit p.capacity).response?.isNone := by
      simp [moment, replied]
    -- counted before the answer, with the answer, and when it is fitted
    have judged : d.judged q (d.counters.bytesIn (UInt64.ofNat p.bytes.length)) =
        { d.counters with
          bytesReceived := d.counters.bytesReceived + UInt64.ofNat p.bytes.length
          requestsTotal := d.counters.requestsTotal + 1
          accessDenied := d.counters.accessDenied + Counters.tick (d.moment p).isDenied
          backendErrors := d.counters.backendErrors + Counters.tick (d.moment p).isFailed } := by
      simp only [Directory.judged, Moment.isDenied, Moment.isFailed, moment, refuses, read]
      cases known : d.isAuthorized q.header with
      | false =>
        have foreign := isForeign_iff.mpr known
        simp [foreign, Counters.bytesIn, Counters.request, Counters.denied]
      | true =>
        have native : ¬ d.IsForeign q.header := by simp [isForeign_iff, known]
        simp [native, Counters.noted_eq, Counters.bytesIn, Counters.request]
    rw [judged, Counters.fitted_eq _ _ short drop] at counted
    have decoded : (d.moment p).isDecoded = true := by
      simp [Moment.isDecoded, moment, read, Except.isOk, Except.toBool]
    refine counted.trans ?_
    simp [Counters.plus, Moment.account, decoded, Counters.bytesOut]

theorem momentOf_eq (d : Directory) (x : Inquiry) : d.momentOf x = d.moment x.packet := by
  rw [momentOf, moment, answer_eq_dispatch]

theorem exists_moment_of_mem {d : Directory} {xs : List Inquiry} {m : Moment} (here : m ∈ d.trail xs) :
    ∃ e p, m = moment e p := by
  induction xs generalizing d with
  | nil => cases here
  | cons x xs ih =>
    rcases List.mem_cons.mp here with first | later
    · exact ⟨d, x.packet, first.trans (momentOf_eq d x)⟩
    · exact ih later

theorem map_packet_trail {α : Type} (f : Packet → α) (d : Directory) (xs : List Inquiry) :
    (d.trail xs).map (fun m => f m.packet) = xs.map fun x => f x.packet := by
  induction xs generalizing d with
  | nil => rfl
  | cons x xs ih =>
    rw [trail, List.map_cons, List.map_cons, ih]
    rfl

theorem length_trail (d : Directory) (xs : List Inquiry) : (d.trail xs).length = xs.length := by
  induction xs generalizing d with
  | nil => rfl
  | cons x xs ih => rw [trail, List.length_cons, List.length_cons, ih]

theorem counters_answerAll (d : Directory) (xs : List Inquiry) :
    (d.answerAll xs).counters = (d.trail xs).foldl (fun c m => c.plus m.account) d.counters := by
  induction xs generalizing d with
  | nil => rfl
  | cons x xs ih =>
    have first : (d.answer x).1.counters = d.counters.plus (d.momentOf x).account := by
      rw [momentOf_eq, ← counters_step, answer_eq_dispatch]
      rfl
    rw [trail, List.foldl_cons, ← first]
    exact ih (d.answer x).1

end Directory

namespace Counters

theorem since_plus (c t : Counters) : (c.plus t).since c = t := by
  have back (a b : UInt64) : a + b - a = b := by grind
  simp only [since, plus, back]

theorem growth_of_accounts {amount : Counters → UInt64} {share : Moment → Nat}
    (additive : ∀ c t, amount (c.plus t) = amount c + amount t) {ms : List Moment}
    (shared : ∀ m ∈ ms, amount m.account = UInt64.ofNat (share m)) (c : Counters) :
    amount (ms.foldl (fun c m => c.plus m.account) c) - amount c = UInt64.ofNat (ms.map share).sum := by
  induction ms generalizing c with
  | nil => simp
  | cons m ms ih =>
    have rest := ih (fun x later => shared x (List.mem_cons_of_mem m later)) (c.plus m.account)
    have first := shared m List.mem_cons_self
    rw [additive, first] at rest
    rw [List.foldl_cons, List.map_cons, List.sum_cons, UInt64.ofNat_add, ← rest]
    grind

end Counters

namespace Moment

/-- A request is replied to, or it is malformed, or its response is dropped, and only one of these. -/
def HasOneOutcome (m : Moment) : Prop :=
  let change := m.after.counters.since m.before.counters
  (m.reply.isSome ∧ change.requestsMalformed = 0 ∧ change.responsesDropped = 0) ∨
    (m.reply = none ∧ change.requestsMalformed = 1 ∧ change.responsesDropped = 0) ∨
      (m.reply = none ∧ change.requestsMalformed = 0 ∧ change.responsesDropped = 1)

theorem isDecoded_of_reply {d : Directory} {p : Packet} (sent : (d.moment p).reply.isSome) :
    (d.moment p).isDecoded = true := by
  cases read : Request.decode p.bytes with
  | ok q => simp [isDecoded, read, Except.isOk, Except.toBool]
  | error cause => simp [Directory.dispatch, Directory.respond, read] at sent

theorem hasOneOutcome (d : Directory) (p : Packet) : (d.moment p).HasOneOutcome := by
  have counted := Directory.counters_step d p
  have change : (d.moment p).after.counters.since (d.moment p).before.counters =
      (d.moment p).account := by
    rw [counted]
    exact Counters.since_plus d.counters _
  simp only [HasOneOutcome, change, account]
  cases reply : (d.moment p).reply with
  | some b =>
    have decoded : (d.moment p).isDecoded = true := isDecoded_of_reply (by rw [reply]; rfl)
    simp [decoded]
  | none => cases (d.moment p).isDecoded <;> simp

end Moment

theorem Moment.account_call (m : Moment) :
    m.account.requestsTotal + m.account.requestsMalformed = Counters.tick true := by
  simp only [Moment.account]
  cases m.isDecoded <;> rfl

theorem Moment.account_outcome (d : Directory) (p : Packet) :
    (d.moment p).account.requestsTotal - (d.moment p).account.responsesDropped =
      Counters.tick (d.moment p).reply.isSome := by
  simp only [Moment.account]
  cases reply : (d.moment p).reply with
  | some b =>
    rw [Moment.isDecoded_of_reply (by rw [reply]; rfl)]
    simp
  | none => cases (d.moment p).isDecoded <;> rfl

theorem sum_toNat {α : Type} (fact : α → Bool) (xs : List α) :
    (xs.map fun x => (fact x).toNat).sum = xs.countP fact := by
  induction xs with
  | nil => rfl
  | cons x xs ih =>
    rw [List.map_cons, List.sum_cons, ih, List.countP_cons, Nat.add_comm]
    cases fact x <;> rfl

namespace Directory
variable (d : Directory) (xs : List Inquiry)

theorem growth (amount : Counters → UInt64) (share : Moment → Nat)
    (additive : ∀ c t, amount (c.plus t) = amount c + amount t)
    (shared : ∀ m ∈ d.trail xs, amount m.account = UInt64.ofNat (share m)) :
    amount (d.answerAll xs).counters - amount d.counters =
      UInt64.ofNat ((d.trail xs).map share).sum := by
  rw [counters_answerAll]
  exact Counters.growth_of_accounts additive shared d.counters

theorem growth_of_ticks (amount : Counters → UInt64) (fact : Moment → Bool)
    (additive : ∀ c t, amount (c.plus t) = amount c + amount t)
    (shared : ∀ m ∈ d.trail xs, amount m.account = Counters.tick (fact m)) :
    amount (d.answerAll xs).counters - amount d.counters =
      UInt64.ofNat ((d.trail xs).countP fact) := by
  rw [← sum_toNat]
  exact d.growth xs amount _ additive shared

theorem calls_counted :
    let change := (d.answerAll xs).counters.since d.counters
    change.requestsTotal + change.requestsMalformed = UInt64.ofNat xs.length := by
  have each := d.growth_of_ticks xs (fun c => c.requestsTotal + c.requestsMalformed) (fun _ => true)
    (by simp only [Counters.plus]; grind) (fun m _ => m.account_call)
  rw [List.countP_true, length_trail] at each
  rw [← each]
  simp only [Counters.since]
  grind

theorem outcomes_counted :
    let change := (d.answerAll xs).counters.since d.counters
    change.requestsTotal =
      UInt64.ofNat ((d.trail xs).countP fun m => m.reply.isSome) + change.responsesDropped := by
  have each := d.growth_of_ticks xs (fun c => c.requestsTotal - c.responsesDropped)
    (fun m => m.reply.isSome) (by simp only [Counters.plus]; grind)
    (fun m here => by
      obtain ⟨e, p, rfl⟩ := exists_moment_of_mem here
      exact Moment.account_outcome e p)
  rw [← each]
  simp only [Counters.since]
  grind

/-- Over any run of raw requests, by either entrance and with any room for the replies, the counters grow by
what was received and sent, by the requests that were read and those that could not be, and by those that
were denied, failed in a store, came up short of records or got no reply; each request ends in one way. -/
theorem ledger_balances :
    let trail := d.trail xs
    let change := (d.answerAll xs).counters.since d.counters
    change.bytesReceived = UInt64.ofNat (xs.map fun x => x.packet.bytes.length).sum ∧
    change.bytesSent = UInt64.ofNat (trail.map fun m => (m.reply.getD []).length).sum ∧
    change.requestsTotal + change.requestsMalformed = UInt64.ofNat xs.length ∧
    change.requestsTotal =
      UInt64.ofNat (trail.countP fun m => m.reply.isSome) + change.responsesDropped ∧
    (∀ m ∈ trail, m.HasOneOutcome) ∧
    change.accessDenied = UInt64.ofNat (trail.countP Moment.isDenied) ∧
    change.backendErrors = UInt64.ofNat (trail.countP Moment.isFailed) ∧
    change.listsTruncated = UInt64.ofNat (trail.countP Moment.isShortened) := by
  intro trail change
  have received : change.bytesReceived =
      UInt64.ofNat (xs.map fun x => x.packet.bytes.length).sum := by
    rw [← map_packet_trail (fun p => p.bytes.length) d xs]
    exact d.growth xs Counters.bytesReceived _ (fun _ _ => rfl) (fun _ _ => rfl)
  have ends (m : Moment) (here : m ∈ trail) : m.HasOneOutcome := by
    obtain ⟨e, p, rfl⟩ := exists_moment_of_mem here
    exact Moment.hasOneOutcome e p
  exact ⟨received, d.growth xs Counters.bytesSent _ (fun _ _ => rfl) (fun _ _ => rfl),
    d.calls_counted xs, d.outcomes_counted xs, ends,
    d.growth_of_ticks xs Counters.accessDenied _ (fun _ _ => rfl) (fun _ _ => rfl),
    d.growth_of_ticks xs Counters.backendErrors _ (fun _ _ => rfl) (fun _ _ => rfl),
    d.growth_of_ticks xs Counters.listsTruncated _ (fun _ _ => rfl) (fun _ _ => rfl)⟩

end Directory
end IdentityDirectory
