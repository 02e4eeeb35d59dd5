import IdentityDirectory.Proofs.Directory.Runs
import IdentityDirectory.Proofs.Json.Replies
/-!
Requests with foreign codes. They are answered before any store is asked, so they change nothing, and
their answer tells nothing but the tag that the requester sent.
-/
namespace IdentityDirectory
namespace Directory

def IsForeign (d : Directory) (h : Header) : Prop := h.code ≠ d.code ∨ h.accessCode ≠ d.accessCode

instance (d : Directory) (h : Header) : Decidable (d.IsForeign h) :=
  inferInstanceAs (Decidable (_ ∨ _))

def refuses (d : Directory) (b : Bytes) : Bool :=
  match Request.decode b with
  | .ok q => d.IsForeign q.header
  | .error _ => false

/-- The denial of a request, byte by byte: the tag, the code -5, no access code, no offset, no size, and
the result -5. -/
def denial (tag : Tag) : Bytes :=
  [tag.toByte, 0xFF, 0xFF, 0xFF, 0xFB, 0, 0, 0, 0, 0, 0, 0, 0, 0, 0, 0, 0, 0, 0xFF, 0xFF, 0xFF, 0xFB]

theorem isForeign_iff {d : Directory} {h : Header} : d.IsForeign h ↔ d.isAuthorized h = false := by
  unfold IsForeign isAuthorized
  by_cases code : h.code = d.code <;> simp [code]

theorem encode_accessDenied (tag : Tag) : (Response.accessDenied tag).encode = denial tag := by
  cases tag <;> decide

theorem json_accessDenied (tag : Tag) :
    (Response.accessDenied tag).toJsonText = Response.codeText (-5) :=
  (Response.toJsonText_eq_codeText_iff _ (by decide)).mpr rfl

theorem codeText_denied : Response.codeText (-5) = "\x7b\"code\":-5\x7d" := by decide

theorem dispatch_foreign {d : Directory} {b : Bytes} {q : Request} (read : Request.decode b = .ok q)
    (foreign : d.IsForeign q.header) (capacity : Nat) :
    plain (d.dispatch b capacity) =
      (d.uncounted, if 22 ≤ capacity then some (denial q.header.tag) else none) := by
  have step := dispatch_of_handle read (handle_denied (isForeign_iff.mp foreign)) capacity
  have whole : (Response.accessDenied q.header.tag).cut capacity =
      Response.accessDenied q.header.tag := rfl
  rw [step, whole, encode_accessDenied]
  rfl

theorem refuses_congr {d e : Directory} (code : d.code = e.code)
    (access : d.accessCode = e.accessCode) : d.refuses = e.refuses := by
  funext b
  cases read : Request.decode b with
  | error cause => simp only [refuses, read]
  | ok q =>
    simp only [refuses, read]
    exact decide_eq_decide.mpr (by simp only [IsForeign, code, access])

theorem run_filter_refuses {d e : Directory} (same : e.uncounted = d.uncounted)
    (packets : List Packet) :
    (e.run (packets.filter fun p => !d.refuses p.bytes)).1.uncounted =
        (d.run packets).1.uncounted ∧
      (e.run (packets.filter fun p => !d.refuses p.bytes)).2 =
        (d.run packets).2.filter fun x => !d.refuses x.packet.bytes := by
  -- on the way the directory of the shorter run may differ in its counters
  induction packets generalizing d e with
  | nil => exact ⟨same, rfl⟩
  | cons p packets ih =>
    obtain ⟨code, access⟩ := codes_dispatch d p.bytes p.capacity
    have blind := refuses_congr code access
    cases refused : d.refuses p.bytes with
    | true =>
      have quiet : (d.dispatch p.bytes p.capacity).1.uncounted = d.uncounted := by
        unfold refuses at refused
        split at refused
        · rename_i q read
          exact (Prod.mk.inj (dispatch_foreign read (of_decide_eq_true refused) p.capacity)).1
        · contradiction
      obtain ⟨stores, log⟩ := ih (same.trans quiet.symm)
      rw [blind] at stores log
      simp only [run_cons, List.filter_cons, refused, Bool.not_true, Bool.false_eq_true, ↓reduceIte]
      exact ⟨stores, log⟩
    | false =>
      obtain ⟨after, reply⟩ := Prod.mk.inj (dispatch_congr same p.bytes p.capacity)
      obtain ⟨stores, log⟩ := ih after
      rw [blind] at stores log
      simp only [run_cons, List.filter_cons, refused, Bool.not_false, ↓reduceIte, log, reply]
      exact ⟨stores, trivial⟩

theorem answerJson_foreign {d : Directory} {text : String} {q : Request}
    (read : Request.ofJsonText text = .ok q) (foreign : d.IsForeign q.header) :
    plain (d.answerJson text) = (d.uncounted, some (Response.codeText (-5))) := by
  rw [answerJson_of_handle read (handle_denied (isForeign_iff.mp foreign)), json_accessDenied]

/-- Requests with foreign codes are inert and blind. Left out of a run they change neither what is held
at the end nor any other reply. Each of them is told its tag and nothing else, whatever the directory
holds and whatever its codes are. -/
theorem foreign_requests_inert_and_blind :
    (∀ (d : Directory) (packets : List Packet),
      (d.run (packets.filter fun p => !d.refuses p.bytes)).1.holdings =
          (d.run packets).1.holdings ∧
        (d.run (packets.filter fun p => !d.refuses p.bytes)).2 =
          (d.run packets).2.filter fun x => !d.refuses x.packet.bytes) ∧
      (∀ (d e : Directory) (b : Bytes) (q : Request) (capacity : Nat),
        Request.decode b = .ok q → d.IsForeign q.header → e.IsForeign q.header →
          (d.dispatch b capacity).2 = (e.dispatch b capacity).2 ∧
            (d.dispatch b capacity).2 =
              (if 22 ≤ capacity then some (denial q.header.tag) else none) ∧
            (d.dispatch b capacity).1.holdings = d.holdings) ∧
      ∀ (d : Directory) (text : String) (q : Request),
        Request.ofJsonText text = .ok q → d.IsForeign q.header →
          (d.answerJson text).2 = some "\x7b\"code\":-5\x7d" ∧
            (d.answerJson text).1.holdings = d.holdings := by
  refine ⟨?_, ?_, ?_⟩
  · intro d packets
    obtain ⟨stores, log⟩ := run_filter_refuses (d := d) rfl packets
    exact ⟨holdings_of_uncounted stores, log⟩
  · intro d e b q capacity read foreign foreign'
    obtain ⟨stores, reply⟩ := Prod.mk.inj (dispatch_foreign read foreign capacity)
    obtain ⟨-, reply'⟩ := Prod.mk.inj (dispatch_foreign read foreign' capacity)
    exact ⟨reply.trans reply'.symm, reply, holdings_of_uncounted stores⟩
  · intro d text q read foreign
    obtain ⟨stores, reply⟩ := Prod.mk.inj (answerJson_foreign read foreign)
    exact ⟨reply.trans (congrArg some codeText_denied), holdings_of_uncounted stores⟩

theorem foreign_list_denied :
    let text := Json.objectText [("tag", .string "l"), ("code", .ofInt 1)]
    Request.decode (Request.list 1 42 0 10).encode = .ok (Request.list 1 42 0 10) ∧
      ((inMemory none 42 42 ⟨[], []⟩ default).dispatch (Request.list 1 42 0 10).encode 22).2 =
        some (denial .list) ∧
      Request.ofJsonText text = .ok (Request.list 1 0 0 10) ∧
      ((inMemory none 42 42 ⟨[], []⟩ default).answerJson text).2 = some (Response.codeText (-5)) := by
  intro text
  have raw : Request.decode (Request.list 1 42 0 10).encode = .ok (Request.list 1 42 0 10) := rfl
  have json : Request.ofJsonText text = .ok (Request.list 1 0 0 10) :=
    ok_of_toOption (by decide +kernel)
  obtain ⟨-, blind, line⟩ := foreign_requests_inert_and_blind
  have denied := blind (inMemory none 42 42 ⟨[], []⟩ default) (inMemory none 7 42 ⟨[], []⟩ default)
    _ _ 22 raw (by decide) (by decide)
  have told := line (inMemory none 42 42 ⟨[], []⟩ default) _ _ json (by decide)
  exact ⟨raw, denied.2.1, json, told.1.trans (congrArg some codeText_denied.symm)⟩

end Directory
end IdentityDirectory
