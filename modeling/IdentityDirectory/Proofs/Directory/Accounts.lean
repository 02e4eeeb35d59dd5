import IdentityDirectory.Proofs.Directory.Buffered
import IdentityDirectory.Proofs.Directory.Replies
/-!
What one raw request counts. Every counter is only ever added to, and what is added is told here from the
request, its reply and the store call in between, without a look at the places where it is counted.
-/
namespace IdentityDirectory

def failure? {α : Type} : Except StoreError α → Option StoreError
  | .ok _ => none
  | .error cause => some cause

def sizeOf {α : Type} : Except StoreError (List α) → Nat
  | .ok items => items.length
  | .error _ => 0

def carried (reply : Bytes) : Nat :=
  match Response.decode reply with
  | .ok r => r.recordCount
  | .error _ => 0

namespace Counters

def plus (c t : Counters) : Counters where
  requestsTotal := c.requestsTotal + t.requestsTotal
  requestsMalformed := c.requestsMalformed + t.requestsMalformed
  accessDenied := c.accessDenied + t.accessDenied
  backendErrors := c.backendErrors + t.backendErrors
  listsTruncated := c.listsTruncated + t.listsTruncated
  responsesDropped := c.responsesDropped + t.responsesDropped
  bytesSent := c.bytesSent + t.bytesSent
  bytesReceived := c.bytesReceived + t.bytesReceived
  connectionsTotal := c.connectionsTotal + t.connectionsTotal
  connectionsActive := c.connectionsActive + t.connectionsActive
  transportErrors := c.transportErrors + t.transportErrors

def tick (fact : Bool) : UInt64 := UInt64.ofNat fact.toNat

/-- What a store call adds. A call that only found nothing has not failed. -/
def noted (c : Counters) : Option StoreError → Counters
  | none => c
  | some cause => if cause = .notFound then c else c.backendError

def fitted (c : Counters) : Fitted → Counters
  | .whole _ => c
  | .shortened _ => c.listTruncated
  | .dropped => c.responseDropped

end Counters

namespace Directory

/-- The failure of the store call that a request asks for. A count cannot fail, and closing calls no store. -/
def storeFailure (d : Directory) (q : Request) : Option StoreError :=
  match q.header.tag, q.body with
  | .addrLookup, .eui e => failure? (d.identities.getByEui e)
  | .euiLookup, .addr a => failure? (d.identities.getByAddr a)
  | .assign, .identity i => failure? (d.identities.put i)
  | .remove, .identity i => failure? (d.identities.remove i.addr)
  | .list, .operation offset size => failure? (d.identities.list offset.toNat size.toNat)
  | .forceSave, .operation _ _ => failure? d.flushIdentities.2
  | .gatewayAddrLookup, .gateway g => failure? (d.gateways.get ⟨g.id, none⟩)
  | .gatewayIdLookup, .gateway g => failure? (d.gateways.get ⟨⟨0⟩, g.endpoint⟩)
  | .gatewayAssign, .gateway g => failure? (d.gateways.put g)
  | .gatewayRemove, .gateway g => failure? (d.gateways.remove g)
  | .gatewayList, .operation offset size => failure? (d.gateways.list offset.toNat size.toNat)
  | .gatewayForceSave, .operation _ _ => failure? d.flushGateways.2
  | _, _ => none

def returned (d : Directory) (q : Request) : Nat :=
  match q.header.tag, q.body with
  | .list, .operation offset size => sizeOf (d.identities.list offset.toNat size.toNat)
  | .gatewayList, .operation offset size => sizeOf (d.gateways.list offset.toNat size.toNat)
  | _, _ => 0

theorem counters_noteError (d : Directory) (cause : StoreError) :
    (d.noteError cause).counters = d.counters.noted (some cause) := by
  simp only [noteError, Counters.noted]
  split <;> rfl

theorem counters_lookup (d : Directory) (h : Header) (key : Identity)
    (found : Except StoreError Identity) :
    (d.lookup h key found).1.counters = d.counters.noted (failure? found) := by
  cases found with
  | ok i => rfl
  | error cause => exact counters_noteError d cause

theorem counters_gatewayLookup (d : Directory) (h : Header) (key : Gateway) :
    (d.gatewayLookup h key).1.counters = d.counters.noted (failure? (d.gateways.get key)) := by
  unfold gatewayLookup
  split
  · rename_i g found
    rw [found]
    rfl
  · rename_i cause failed
    rw [failed]
    exact counters_noteError d cause

theorem counters_mutation {α : Type} {d : Directory} (h : Header) {update : α → Directory}
    (uncounted : ∀ s, (update s).counters = d.counters) (outcome : Except StoreError α) :
    (d.mutation h update outcome).1.counters = d.counters.noted (failure? outcome) := by
  cases outcome with
  | ok s => exact uncounted s
  | error cause => exact counters_noteError d cause

theorem counters_listed {α : Type} (d : Directory) (h : Header) (body : List α → ResponseBody)
    (outcome : Except StoreError (List α)) :
    (d.listed h body outcome).1.counters = d.counters.noted (failure? outcome) := by
  cases outcome with
  | ok items => rfl
  | error cause => exact counters_noteError d cause

theorem counters_saved (d : Directory) (h : Header) (offset : UInt32) (size : UInt8)
    (outcome : Except StoreError Unit) :
    (d.saved h offset size outcome).1.counters = d.counters.noted (failure? outcome) := by
  cases outcome with
  | ok done => rfl
  | error cause => exact counters_noteError d cause

theorem counters_of_run {e : Directory} {p : Directory × Response} {r : Response} {c : Counters}
    (run : some p = some (e, r)) (counted : p.1.counters = c) : e.counters = c := by
  rw [← counted, Option.some.inj run]

theorem counters_execute {d e : Directory} {h : Header} {body : RequestBody} {r : Response}
    (run : d.execute h body = some (e, r)) :
    e.counters = d.counters.noted (d.storeFailure ⟨h, body⟩) := by
  have identities (s : IdentityStore) : (d.withIdentities s).counters = d.counters := rfl
  have gateways (s : GatewayStore) : (d.withGateways s).counters = d.counters := rfl
  unfold execute at run
  split at run <;> rename_i tag <;> simp only [storeFailure, tag]
  · exact counters_of_run run (counters_lookup d h _ _)
  · rw [counters_of_run run (counters_lookup d h _ _)]
    cases d.identities.getByAddr _ <;> rfl
  · exact counters_of_run run (counters_mutation h identities _)
  · exact counters_of_run run (counters_mutation h identities _)
  · exact counters_of_run run (counters_listed d h _ _)
  · exact counters_of_run run rfl
  · exact counters_of_run run (counters_saved d.flushIdentities.1 h _ _ _)
  · exact counters_of_run run (counters_gatewayLookup d h _)
  · exact counters_of_run run (counters_gatewayLookup d h _)
  · exact counters_of_run run (counters_mutation h gateways _)
  · exact counters_of_run run (counters_mutation h gateways _)
  · exact counters_of_run run (counters_listed d h _ _)
  · exact counters_of_run run rfl
  · exact counters_of_run run (counters_saved d.flushGateways.1 h _ _ _)
  · exact counters_of_run run rfl
  · exact counters_of_run run rfl
  · cases run

theorem recordCount_listed {α : Type} (d : Directory) (h : Header) {body : List α → ResponseBody}
    (count : ∀ header items, Response.recordCount ⟨header, body items⟩ = items.length)
    (outcome : Except StoreError (List α)) :
    (d.listed h body outcome).2.recordCount = sizeOf outcome := by
  cases outcome with
  | ok items => exact count _ items
  | error cause => exact count _ []

theorem recordCount_of_answers {r : Response} {tag : Tag} (answers : r.Answers tag)
    (single : tag ≠ .list ∧ tag ≠ .gatewayList) : r.recordCount = 0 := by
  obtain ⟨header, body⟩ := r
  obtain ⟨rfl, clear, -⟩ := answers
  cases body with
  | identityList offset items => exact absurd clear.1 single.1
  | gatewayList offset items => exact absurd clear.1 single.2
  | identity i | gateway g | operation offset size result => rfl

/-- Before it is cut, the answer to a request holds the records that the store returned for it. -/
theorem recordCount_execute {d e : Directory} {h : Header} {body : RequestBody} {r : Response}
    (run : d.execute h body = some (e, r)) : r.recordCount = d.returned ⟨h, body⟩ := by
  have single := recordCount_of_answers (execute_answers run)
  unfold execute at run
  split at run <;> rename_i tag <;> simp only [returned, tag] at single ⊢
  case h_5 | h_12 =>
    rw [← (Prod.mk.inj (Option.some.inj run)).2]
    exact recordCount_listed d h (fun _ _ => rfl) _
  case h_17 => cases run
  all_goals exact single (by decide)

end Directory

namespace Response

theorem fit_cases (r : Response) (capacity : Nat) :
    r.fit capacity = .whole r ∨
      (∃ s, r.fit capacity = .shortened s ∧ s.recordCount < r.recordCount) ∨
        r.fit capacity = .dropped := by
  obtain ⟨h, body⟩ := r
  by_cases room : encodedSize ⟨h, body⟩ ≤ capacity
  · exact Or.inl (if_pos room)
  · right
    have fewer {α : Type} {items : List α} {width keep : Nat} (positive : 0 < width)
        (wide : ¬ operationSize + items.length * width ≤ capacity)
        (kept : recordRoom capacity width = some keep) : (items.take keep).length < items.length := by
      unfold recordRoom at kept
      split at kept
      · contradiction
      · have less : (capacity - operationSize) / width < items.length := by
          rw [Nat.div_lt_iff_lt_mul positive]
          omega
        rw [List.length_take, ← Option.some.inj kept]
        omega
    simp only [fit, if_neg room]
    cases body with
    | identityList offset items =>
      cases kept : recordRoom capacity Identity.size with
      | none => exact Or.inr rfl
      | some keep => exact Or.inl ⟨_, rfl, fewer (by decide) room kept⟩
    | gatewayList offset items =>
      cases kept : recordRoom capacity Gateway.size with
      | none => exact Or.inr rfl
      | some keep => exact Or.inl ⟨_, rfl, fewer (by decide) room kept⟩
    | identity i | gateway g | operation offset size result => exact Or.inr rfl

theorem recordCount_wire (r : Response) : r.wire.recordCount = r.recordCount := by
  obtain ⟨h, body⟩ := r
  cases body with
  | identityList offset items | gatewayList offset items => exact List.length_map _
  | identity i | gateway g | operation offset size result => rfl

theorem carried_encode {r : Response} (clear : r.IsClear) : carried r.encode = r.recordCount := by
  rw [carried, decode_encode clear]
  exact recordCount_wire r

end Response
end IdentityDirectory
