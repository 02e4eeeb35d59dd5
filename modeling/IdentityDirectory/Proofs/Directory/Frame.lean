import IdentityDirectory.Proofs.Directory.Reachable
import IdentityDirectory.Proofs.Directory.Replies
/-!
What a request may change. Only an assignment or a removal that is answered by 0 changes records, and it
changes one; what is not answered has changed nothing.
-/
namespace IdentityDirectory
open Bytes

namespace Directory

/-- How far a request that is answered with a result may change what is held. -/
structure Confined (before : Holdings) (q : Request) (after : Holdings) (result : Nat) : Prop where
  failed : q.header.tag.mutates = true → result ≠ 0 → after = before
  assigned : q.header.tag = .assign → result = 0 → ∃ i, q.body = .identity i ∧
    ∀ j, j ∈ after.identities.rows ↔ j = i ∨ j ∈ before.identities.rows ∧ j.addr ≠ i.addr
  removed : q.header.tag = .remove → result = 0 → ∃ i x front back, q.body = .identity i ∧
    x.addr = i.addr ∧ before.identities.rows = front ++ x :: back ∧
      after.identities.rows = front ++ back
  gatewayAssigned : q.header.tag = .gatewayAssign → result = 0 → ∃ g, q.body = .gateway g ∧
    ∀ j, j ∈ after.gateways.rows ↔ j = g ∨ j ∈ before.gateways.rows ∧ j.id ≠ g.id
  gatewayRemoved : q.header.tag = .gatewayRemove → result = 0 → ∃ g x front back,
    q.body = .gateway g ∧ (x.id = g.id ∨ g.id.isZero = true ∧ x.endpoint = g.endpoint) ∧
      before.gateways.rows = front ++ x :: back ∧ after.gateways.rows = front ++ back
  records : q.header.tag.mutates = false →
    after.identities.rows = before.identities.rows ∧ after.gateways.rows = before.gateways.rows
  identityOnly : q.header.tag.isGateway = false → after.gateways = before.gateways
  gatewayOnly : q.header.tag.isGateway = true → after.identities = before.identities

theorem Confined.same {s : Holdings} {q : Request} {result : Nat}
    (refused : q.header.tag.mutates = true → result ≠ 0) : Confined s q s result := by
  have never (t : Tag) (mutation : t.mutates = true) (tag : q.header.tag = t) (done : result = 0) :
      False := refused (tag ▸ mutation) done
  exact {
    failed := fun _ _ => rfl
    assigned := fun tag done => (never _ rfl tag done).elim
    removed := fun tag done => (never _ rfl tag done).elim
    gatewayAssigned := fun tag done => (never _ rfl tag done).elim
    gatewayRemoved := fun tag done => (never _ rfl tag done).elim
    records := fun _ => ⟨rfl, rfl⟩
    identityOnly := fun _ => rfl
    gatewayOnly := fun _ => rfl }

theorem Confined.put {d : Directory} {h : Header} {i : Identity} {s : IdentityStore}
    (sorted : d.IsSorted) (tag : h.tag = .assign) (stored : d.identities.put i = .ok s) :
    Confined d.holdings ⟨h, .identity i⟩ (d.withIdentities s).holdings 0 := by
  obtain ⟨-, rfl⟩ := IdentityStore.put_eq_ok stored
  constructor <;> simp only [tag, Tag.mutates, reduceCtorEq, false_implies, ne_eq, not_true_eq_false,
    implies_true, Bool.true_eq_false, forall_const]
  · refine ⟨i, rfl, ?_⟩
    intro j
    have rows := Rows.mem_insert_iff (x := i) (z := j) sorted.1
    rw [← DevAddr.toNat_inj]
    exact rows
  · intro _
    rfl
  · intro gateway
    contradiction

theorem Confined.remove {d : Directory} {h : Header} {i : Identity} {s : IdentityStore}
    (sorted : d.IsSorted) (tag : h.tag = .remove) (erased : d.identities.remove i.addr = .ok s) :
    Confined d.holdings ⟨h, .identity i⟩ (d.withIdentities s).holdings 0 := by
  obtain ⟨x, member, named, rfl⟩ := IdentityStore.remove_eq_ok erased
  obtain ⟨front, back, split, rest⟩ := Rows.erase_of_mem sorted.1 member
  constructor <;> simp only [tag, Tag.mutates, reduceCtorEq, false_implies, ne_eq, not_true_eq_false,
    implies_true, Bool.true_eq_false, forall_const]
  · exact ⟨i, x, front, back, rfl, named, split, rest⟩
  · intro _
    rfl
  · intro gateway
    contradiction

theorem Confined.gatewayPut {d : Directory} {h : Header} {g : Gateway} {s : GatewayStore}
    (sorted : d.IsSorted) (tag : h.tag = .gatewayAssign) (stored : d.gateways.put g = .ok s) :
    Confined d.holdings ⟨h, .gateway g⟩ (d.withGateways s).holdings 0 := by
  obtain rfl := GatewayStore.put_eq_ok stored
  constructor <;> simp only [tag, Tag.mutates, reduceCtorEq, false_implies, ne_eq, not_true_eq_false,
    implies_true, Bool.true_eq_false, forall_const]
  · refine ⟨g, rfl, ?_⟩
    intro j
    have rows := Rows.mem_insert_iff (x := g) (z := j) sorted.2
    rw [← Eui.toNat_inj]
    exact rows
  · intro identity
    contradiction
  · intro _
    rfl

theorem Confined.gatewayRemove {d : Directory} {h : Header} {g : Gateway} {s : GatewayStore}
    (sorted : d.IsSorted) (tag : h.tag = .gatewayRemove) (erased : d.gateways.remove g = .ok s) :
    Confined d.holdings ⟨h, .gateway g⟩ (d.withGateways s).holdings 0 := by
  obtain ⟨x, found, rfl⟩ := GatewayStore.remove_eq_ok erased
  obtain ⟨member, named⟩ := GatewayStore.find_eq_ok found
  obtain ⟨front, back, split, rest⟩ := Rows.erase_of_mem sorted.2 member
  constructor <;> simp only [tag, Tag.mutates, reduceCtorEq, false_implies, ne_eq, not_true_eq_false,
    implies_true, Bool.true_eq_false, forall_const]
  · exact ⟨g, x, front, back, rfl, named, split, rest⟩
  · intro identity
    contradiction
  · intro _
    rfl

theorem Confined.saved {d : Directory} {q : Request} (result : Nat)
    (tag : q.header.tag = .forceSave) :
    Confined d.holdings q d.flushIdentities.1.holdings result := by
  constructor <;> simp only [tag, Tag.mutates, reduceCtorEq, false_implies, Bool.false_eq_true,
    forall_const]
  · exact ⟨rfl, rfl⟩
  · intro _
    rfl
  · intro gateway
    contradiction

theorem Confined.gatewaySaved {d : Directory} {q : Request} (result : Nat)
    (tag : q.header.tag = .gatewayForceSave) :
    Confined d.holdings q d.flushGateways.1.holdings result := by
  constructor <;> simp only [tag, Tag.mutates, reduceCtorEq, false_implies, Bool.false_eq_true,
    forall_const]
  · exact ⟨rfl, rfl⟩
  · intro identity
    contradiction
  · intro _
    rfl

theorem Outcome.confined {d e : Directory} {q : Request} {r : Response} (h : Outcome d q e r)
    (sorted : d.IsSorted) (capacity : Nat) :
    Confined d.holdings q e.holdings (number (r.cut capacity).encode 18 4) := by
  have told (h : Header) (size : UInt8) (code : ResultCode) :
      number ((Response.operation h 0 size code).cut capacity).encode 18 4 =
        code.toInt32.toUInt32.toNat := Response.number_operation h 0 size code.toInt32
  have zero : ResultCode.ok.toInt32.toUInt32.toNat = 0 := by decide
  cases h with
  | read r quiet unsaved =>
    apply Confined.same
    intro mutation
    rw [quiet] at mutation
    contradiction
  | refused cause mutation =>
    apply Confined.same
    intro _
    rw [told]
    exact cause.code_ne_zero
  | assigned tag stored =>
    rw [told, zero]
    exact Confined.put sorted tag stored
  | removed tag erased =>
    rw [told, zero]
    exact Confined.remove sorted tag erased
  | gatewayAssigned tag stored =>
    rw [told, zero]
    exact Confined.gatewayPut sorted tag stored
  | gatewayRemoved tag erased =>
    rw [told, zero]
    exact Confined.gatewayRemove sorted tag erased
  | saved r tag => exact Confined.saved _ tag
  | gatewaySaved r tag => exact Confined.gatewaySaved _ tag

theorem Outcome.of_quiet {d e : Directory} {q : Request} {r : Response} (h : Outcome d q e r)
    (quiet : q.header.tag.mutates = false) (unsaved : q.header.tag.saves = false) : e = d := by
  cases h with
  | read r quiet unsaved => rfl
  | refused cause mutation => rfl
  | assigned tag stored | removed tag erased | gatewayAssigned tag stored
  | gatewayRemoved tag erased =>
    simp only [tag] at quiet
    contradiction
  | saved r tag | gatewaySaved r tag =>
    simp only [tag] at unsaved
    contradiction

theorem handle_confined {d : Directory} (sorted : d.IsSorted) {q : Request} (proper : q.IsProper)
    (capacity : Nat) :
    ∃ e r, plain (d.handle q) = (e.uncounted, some r) ∧ r.Answers q.header.tag ∧
      Confined d.holdings q e.holdings (number (r.cut capacity).encode 18 4) ∧
      (q.header.tag.mutates = false → q.header.tag.saves = false → e = d) := by
  rcases handle_cases d proper with ⟨-, step⟩ | ⟨-, e, r, outcome, step⟩
  · refine ⟨d, Response.accessDenied q.header.tag, step,
      Response.accessDenied_answers q.header.tag, ?_, fun _ _ => rfl⟩
    apply Confined.same
    intro _
    have told := Response.number_operation
      ⟨q.header.tag, ResultCode.accessDenied.toInt32, 0⟩ 0 0 ResultCode.accessDenied.toInt32
    have denied : ResultCode.accessDenied.toInt32.toUInt32.toNat ≠ 0 := by decide
    rw [← told] at denied
    exact denied
  · exact ⟨e, r, step, handle_answers proper (Prod.mk.inj step).2, outcome.confined sorted capacity,
      outcome.of_quiet⟩

/-- Silence and failure mean no effect. A request without a reply has changed nothing, and only lookups
of records go unanswered for want of room. A reply to an assignment or a removal tells by its result
whether the one record that was named has changed, and no other request changes records. -/
theorem silence_and_failure_have_no_effect {d : Directory} (reached : Reachable d) (b : Bytes)
    {capacity : Nat} (room : 22 ≤ capacity) :
    ((d.dispatch b capacity).2 = none → (d.dispatch b capacity).1.holdings = d.holdings) ∧
      ∀ q, Request.decode b = .ok q →
        (∀ reply, (d.dispatch b capacity).2 = some reply →
          Confined d.holdings q (d.dispatch b capacity).1.holdings (number reply 18 4)) ∧
        ((d.dispatch b capacity).2 = none →
          (q.header.tag = .addrLookup ∨ q.header.tag = .euiLookup) ∧ capacity < 108 ∨
            (q.header.tag = .gatewayAddrLookup ∨ q.header.tag = .gatewayIdLookup) ∧
              capacity < 40) := by
  cases read : Request.decode b with
  | error cause =>
    have step := plain_dispatch d b capacity
    rw [plain_respond, read] at step
    refine ⟨fun _ => holdings_of_uncounted (e := d) (Prod.mk.inj step).1, ?_⟩
    intro q other
    contradiction
  | ok q =>
    obtain ⟨e, r, handled, answers, confined, quiet⟩ :=
      handle_confined reached.isSorted (Request.isProper_of_decode read) capacity
    obtain ⟨stores, reply⟩ := Prod.mk.inj (dispatch_of_handle read handled capacity)
    have after : (d.dispatch b capacity).1.holdings = e.holdings := holdings_of_uncounted stores
    have dropped (silent : (d.dispatch b capacity).2 = none) :
        (q.header.tag = .addrLookup ∨ q.header.tag = .euiLookup) ∧ capacity < 108 ∨
          (q.header.tag = .gatewayAddrLookup ∨ q.header.tag = .gatewayIdLookup) ∧
            capacity < 40 := by
      have wide : ¬ r.leastSize ≤ capacity := by
        intro fits
        rw [silent, if_pos fits] at reply
        contradiction
      rcases answers.leastSize with size | ⟨tag, size⟩ | ⟨tag, size⟩
      · omega
      · exact Or.inl ⟨tag, by omega⟩
      · exact Or.inr ⟨tag, by omega⟩
    refine ⟨?_, ?_⟩
    · intro silent
      rw [after]
      rcases dropped silent with ⟨tag | tag, -⟩ | ⟨tag | tag, -⟩ <;>
        rw [quiet (by rw [tag]; rfl) (by rw [tag]; rfl)]
    · intro other same
      obtain rfl := Except.ok.inj same
      refine ⟨?_, dropped⟩
      intro sent given
      rw [given] at reply
      split at reply
      · rw [after, Option.some.inj reply]
        exact confined
      · contradiction

theorem assignment_acknowledged :
    let d := inMemory none 42 42 ⟨[], []⟩ default
    let b := (Request.assign 42 42 (Identity.ofAddr ⟨5⟩)).encode
    let reply : Bytes := 0x70 :: [0, 0, 0, 42, 0, 0, 0, 0, 0, 0, 0, 42, 0, 0, 0, 0, 1, 0, 0, 0, 0]
    d.Reachable ∧ (d.dispatch b 22).2 = some reply ∧
      ∀ j, j ∈ (d.dispatch b 22).1.identities.rows ↔ j = Identity.ofAddr ⟨5⟩ := by
  intro d b reply
  have reached : d.Reachable := .fresh .memory .memory none 42 42 ⟨[], []⟩ default
  have sent : (d.dispatch b 22).2 = some reply := by decide
  have read : Request.decode b = .ok (Request.assign 42 42 (Identity.ofAddr ⟨5⟩)) :=
    ok_of_toOption (by decide +kernel)
  obtain ⟨-, decoded⟩ := silence_and_failure_have_no_effect reached b (Nat.le_refl 22)
  obtain ⟨i, same, rows⟩ := ((decoded _ read).1 reply sent).assigned rfl (by decide)
  obtain rfl := RequestBody.identity.inj same
  refine ⟨reached, sent, ?_⟩
  intro j
  constructor
  · intro stored
    rcases (rows j).mp stored with same | ⟨before, -⟩
    · exact same
    · contradiction
  · intro same
    exact (rows j).mpr (Or.inl same)

end Directory
end IdentityDirectory
