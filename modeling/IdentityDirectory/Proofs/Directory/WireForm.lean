import IdentityDirectory.Proofs.Directory.Replies
import IdentityDirectory.Proofs.Wire.RequestCodec
/-!
What arrives. A request is handled in its wire form, and a reply is read as the wire form of what was computed
and cut. A directory with records in wire form answers a request in wire form in wire form, so that a reply
with room for the longest page arrives as it was computed.
-/
namespace IdentityDirectory

def Response.fullPageSize : Nat := operationSize + 255 * Identity.size

namespace Directory

/-- The records of both stores are what arrives of them when they are sent. -/
structure IsWired (d : Directory) : Prop where
  identities : ∀ i ∈ d.identities.rows, i.wire = i
  gateways : ∀ g ∈ d.gateways.rows, g.wire = g

instance (d : Directory) : Decidable d.IsWired :=
  decidable_of_iff ((∀ i ∈ d.identities.rows, i.wire = i) ∧ ∀ g ∈ d.gateways.rows, g.wire = g)
    ⟨fun h => ⟨h.1, h.2⟩, fun h => ⟨h.identities, h.gateways⟩⟩

theorem lookup_wire (d : Directory) (h : Header) {key : Identity} {found : Except StoreError Identity}
    (blank : key.wire = key) (still : ∀ i, found = .ok i → i.wire = i) :
    (d.lookup h key found).2.wire = (d.lookup h key found).2 := by
  cases found with
  | ok i => simp only [lookup, Response.wire, ResponseBody.wire, still i rfl]
  | error cause => simp only [lookup, Response.wire, ResponseBody.wire, blank]

theorem gatewayLookup_wire {d : Directory} (wired : d.IsWired) (h : Header) {key : Gateway}
    (bare : key.wire = key) : (d.gatewayLookup h key).2.wire = (d.gatewayLookup h key).2 := by
  unfold gatewayLookup
  split
  · rename_i g found
    have still := wired.gateways g (GatewayStore.find_eq_ok (Backing.ok_of_answer found)).1
    simp only [Response.wire, ResponseBody.wire, still]
  · simp only [Response.wire, ResponseBody.wire, bare]

theorem mutation_wire {α : Type} (d : Directory) (h : Header) (update : α → Directory)
    (outcome : Except StoreError α) :
    (d.mutation h update outcome).2.wire = (d.mutation h update outcome).2 := by
  cases outcome <;> rfl

theorem saved_wire (d : Directory) (h : Header) (offset : UInt32) (size : UInt8)
    (outcome : Except StoreError Unit) :
    (d.saved h offset size outcome).2.wire = (d.saved h offset size outcome).2 := by
  cases outcome <;> rfl

theorem map_eq_self {α : Type} {f : α → α} {xs : List α} (still : ∀ x ∈ xs, f x = x) :
    xs.map f = xs := by
  rw [List.map_congr_left still, List.map_id']

theorem listed_wire {α : Type} (d : Directory) (h : Header) {body : List α → ResponseBody}
    {wire : α → α} {outcome : Except StoreError (List α)}
    (sent : ∀ items, (body items).wire = body (items.map wire))
    (still : ∀ items, outcome = .ok items → ∀ x ∈ items, wire x = x) :
    (d.listed h body outcome).2.wire = (d.listed h body outcome).2 := by
  cases outcome with
  | ok items => simp only [listed, Response.wire, sent, map_eq_self (still items rfl)]
  | error cause => simp only [listed, Response.wire, sent, List.map_nil]

theorem wire_of_run {e : Directory} {p : Directory × Response} {r : Response}
    (run : some p = some (e, r)) (same : p.2.wire = p.2) : r.wire = r := by
  rw [Option.some.inj run] at same
  exact same

theorem execute_wire {d e : Directory} {h : Header} {body : RequestBody} {r : Response}
    (wired : d.IsWired) (still : body.wire h.tag = body) (run : d.execute h body = some (e, r)) :
    r.wire = r := by
  unfold execute at run
  split at run
  · refine wire_of_run run (lookup_wire d h rfl ?_)
    intro i found
    exact wired.identities i (IdentityStore.mem_of_getByEui found)
  · refine wire_of_run run (lookup_wire d h rfl ?_)
    intro i found
    obtain ⟨device, known, rfl⟩ := ok_of_map found
    exact wired.identities _ (IdentityStore.mem_of_getByAddr known)
  · exact wire_of_run run (mutation_wire d h _ _)
  · exact wire_of_run run (mutation_wire d h _ _)
  · refine wire_of_run run (listed_wire d h (fun items => rfl) ?_)
    intro items page i member
    exact wired.identities i (IdentityStore.subset_of_list page member)
  · exact wire_of_run run rfl
  · exact wire_of_run run (saved_wire _ h _ _ _)
  · exact wire_of_run run (gatewayLookup_wire wired h rfl)
  · rename_i g tag
    refine wire_of_run run (gatewayLookup_wire wired h ?_)
    -- the key is made of the endpoint alone, which has arrived without flow label and scope
    have bare : g.wire.endpoint = g.endpoint := congrArg Gateway.endpoint (RequestBody.gateway.inj still)
    exact congrArg (Gateway.mk ⟨0⟩) bare
  · exact wire_of_run run (mutation_wire d h _ _)
  · exact wire_of_run run (mutation_wire d h _ _)
  · refine wire_of_run run (listed_wire d h (fun items => rfl) ?_)
    intro items page g member
    exact wired.gateways g (GatewayStore.subset_of_list page member)
  · exact wire_of_run run rfl
  · exact wire_of_run run (saved_wire _ h _ _ _)
  · exact wire_of_run run rfl
  · exact wire_of_run run rfl
  · contradiction

theorem handle_wire {d : Directory} {q : Request} {r : Response} (wired : d.IsWired)
    (still : q.wire = q) (answer : (d.handle q).2 = some r) : r.wire = r := by
  cases known : d.isAuthorized q.header with
  | false =>
    have denied := (Prod.mk.inj (handle_denied known)).2
    obtain rfl := Option.some.inj (answer.symm.trans denied)
    rfl
  | true =>
    have step := handle_authorized known
    cases run : d.execute q.header q.body with
    | none =>
      rw [run] at step
      exact absurd (answer.symm.trans (Prod.mk.inj step).2) (Option.some_ne_none r)
    | some p =>
      rw [run] at step
      obtain rfl := Option.some.inj (answer.symm.trans (Prod.mk.inj step).2)
      exact execute_wire wired (congrArg Request.body still) run

end Directory

namespace Response

theorem cut_of_fullPage {r : Response} {capacity : Nat} (short : r.IsShort)
    (room : fullPageSize ≤ capacity) : r.cut capacity = r := by
  obtain ⟨h, body⟩ := r
  have wide : 22 + 255 * 95 ≤ capacity := room
  cases body with
  | identityList offset items =>
    have few : items.length ≤ 255 := short
    have whole : operationSize + items.length * Identity.size ≤ capacity := by
      simp only [operationSize, Header.size, Identity.size]
      omega
    simp only [cut, take_room_of_fits (by decide) whole]
  | gatewayList offset items =>
    have few : items.length ≤ 255 := short
    have whole : operationSize + items.length * Gateway.size ≤ capacity := by
      simp only [operationSize, Header.size, Gateway.size]
      omega
    simp only [cut, take_room_of_fits (by decide) whole]
  | identity i => rfl
  | gateway g => rfl
  | operation offset size result => rfl

theorem Answers.room {r : Response} {tag : Tag} {capacity : Nat} (h : r.Answers tag)
    (room : fullPageSize ≤ capacity) : r.leastSize ≤ capacity := by
  have wide : 22 + 255 * 95 ≤ capacity := room
  have least := h.leastSize
  omega

end Response

namespace Directory

theorem dispatch_encode {d e : Directory} {q : Request} {r : Response} (proper : q.IsProper)
    (step : plain (d.handle q.wire) = (e.uncounted, some r)) (capacity : Nat) :
    plain (d.dispatch q.encode capacity) =
      (e.uncounted, if r.leastSize ≤ capacity then some (r.cut capacity).encode else none) := by
  have read := Request.decode_encode proper []
  rw [List.append_nil] at read
  exact dispatch_of_handle read step capacity

theorem decode_reply {d : Directory} {q : Request} {r : Response} (proper : q.IsProper)
    (answer : (d.handle q).2 = some r) (capacity : Nat) :
    Response.decode (r.cut capacity).encode = .ok (r.cut capacity).wire :=
  Response.decode_encode ((handle_answers proper answer).cut capacity).clear

/-- With room for a full page, an answer in wire form is sent as a whole and read as it was computed. -/
theorem answer_arrives {d : Directory} {q : Request} {r : Response} {capacity : Nat}
    (proper : q.IsProper) (wired : d.IsWired) (still : q.wire = q) (answer : (d.handle q).2 = some r)
    (room : Response.fullPageSize ≤ capacity) :
    r.leastSize ≤ capacity ∧ (r.cut capacity).wire = r := by
  have answers := handle_answers proper answer
  refine ⟨answers.room room, ?_⟩
  rw [Response.cut_of_fullPage answers.short room]
  exact handle_wire wired still answer

end Directory
end IdentityDirectory
