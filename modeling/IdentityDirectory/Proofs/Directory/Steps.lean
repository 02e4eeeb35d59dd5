import IdentityDirectory.Directory
import IdentityDirectory.Proofs.Wire.Requests
/-!
Steps of a directory. Counters are written and never read, so a step is told without them. An authorized
request with the body that its tag asks for has one of a few outcomes, and any other request has none on
what is stored.
-/
namespace IdentityDirectory

namespace Tag

def mutates : Tag → Bool
  | assign | remove | gatewayAssign | gatewayRemove => true
  | _ => false

def saves : Tag → Bool
  | forceSave | gatewayForceSave => true
  | _ => false

end Tag

/-- What a directory holds: both stores, and the disk behind them. -/
structure Holdings where
  identities : IdentityStore
  gateways : GatewayStore
  disk : Disk

namespace Directory

def holdings (d : Directory) : Holdings := ⟨d.identities, d.gateways, d.disk⟩

/-- The directory with its counters at zero. No answer and no store depends on them. -/
def uncounted (d : Directory) : Directory := { d with counters := default }

@[simp] theorem uncounted_uncounted (d : Directory) : d.uncounted.uncounted = d.uncounted := rfl

@[simp] theorem uncounted_count (d : Directory) (f : Counters → Counters) :
    (d.count f).uncounted = d.uncounted := rfl

@[simp] theorem uncounted_noteError (d : Directory) (cause : StoreError) :
    (d.noteError cause).uncounted = d.uncounted := by
  unfold noteError
  split <;> rfl

theorem holdings_of_uncounted {d e : Directory} (same : d.uncounted = e.uncounted) :
    d.holdings = e.holdings := by
  have h := congrArg holdings same
  exact h

theorem identities_of_uncounted {d e : Directory} (same : d.uncounted = e.uncounted) :
    d.identities = e.identities :=
  congrArg Holdings.identities (holdings_of_uncounted same)

theorem flushIdentities_of_memory {d : Directory} (memory : d.identities.backing = .memory) :
    d.flushIdentities = (d, .ok ()) := by
  obtain ⟨⟨backing, network, rows⟩, gateways, code, accessCode, disk, counters⟩ := d
  obtain rfl : backing = .memory := memory
  rfl

theorem flushGateways_of_memory {d : Directory} (memory : d.gateways.backing = .memory) :
    d.flushGateways = (d, .ok ()) := by
  obtain ⟨identities, ⟨backing, rows⟩, code, accessCode, disk, counters⟩ := d
  obtain rfl : backing = .memory := memory
  rfl

def plain {α : Type} (step : Directory × α) : Directory × α := (step.1.uncounted, step.2)

theorem plain_lookup (d : Directory) (h : Header) (key : Identity)
    (found : Except StoreError Identity) :
    plain (d.uncounted.lookup h key found) = plain (d.lookup h key found) := by
  cases found <;> simp [lookup, plain]

theorem plain_gatewayLookup (d : Directory) (h : Header) (key : Gateway) :
    plain (d.uncounted.gatewayLookup h key) = plain (d.gatewayLookup h key) := by
  have same : d.uncounted.gateways = d.gateways := rfl
  simp only [gatewayLookup, same]
  split <;> simp [plain]

theorem plain_mutation {α : Type} (d : Directory) (h : Header) {u v : α → Directory}
    (same : ∀ s, (u s).uncounted = (v s).uncounted) (outcome : Except StoreError α) :
    plain (d.uncounted.mutation h u outcome) = plain (d.mutation h v outcome) := by
  cases outcome <;> simp [mutation, plain, same]

theorem plain_listed {α : Type} (d : Directory) (h : Header) (body : List α → ResponseBody)
    (outcome : Except StoreError (List α)) :
    plain (d.uncounted.listed h body outcome) = plain (d.listed h body outcome) := by
  cases outcome <;> simp [listed, plain]

theorem plain_saved {p q : Directory × Except StoreError Unit} (same : plain p = plain q)
    (h : Header) (offset : UInt32) (size : UInt8) :
    plain (p.1.saved h offset size p.2) = plain (q.1.saved h offset size q.2) := by
  obtain ⟨d, outcome⟩ := p
  obtain ⟨e, other⟩ := q
  obtain ⟨stores, rfl⟩ := Prod.mk.inj same
  cases outcome <;> simp_all [saved, plain]

theorem execute_uncounted (d : Directory) (h : Header) (body : RequestBody) :
    (d.uncounted.execute h body).map plain = (d.execute h body).map plain := by
  have identities : plain d.uncounted.flushIdentities = plain d.flushIdentities := rfl
  have identityUpdate (s : IdentityStore) :
      (d.uncounted.withIdentities s).uncounted = (d.withIdentities s).uncounted := rfl
  have gatewayUpdate (s : GatewayStore) :
      (d.uncounted.withGateways s).uncounted = (d.withGateways s).uncounted := rfl
  have gateways : plain d.uncounted.flushGateways = plain d.flushGateways := rfl
  unfold execute
  split
  · exact congrArg some (plain_lookup d h _ _)
  · exact congrArg some (plain_lookup d h _ _)
  · exact congrArg some (plain_mutation d h identityUpdate _)
  · exact congrArg some (plain_mutation d h identityUpdate _)
  · exact congrArg some (plain_listed d h _ _)
  · rfl
  · exact congrArg some (plain_saved identities h _ _)
  · exact congrArg some (plain_gatewayLookup d h _)
  · exact congrArg some (plain_gatewayLookup d h _)
  · exact congrArg some (plain_mutation d h gatewayUpdate _)
  · exact congrArg some (plain_mutation d h gatewayUpdate _)
  · exact congrArg some (plain_listed d h _ _)
  · rfl
  · exact congrArg some (plain_saved gateways h _ _)
  · rfl
  · rfl
  · rfl

theorem handle_uncounted (d : Directory) (q : Request) :
    plain (d.uncounted.handle q) = plain (d.handle q) := by
  have actual := execute_uncounted (d.count .request) q.header q.body
  have plainly := execute_uncounted (d.uncounted.count .request) q.header q.body
  simp only [uncounted_count, uncounted_uncounted] at actual plainly
  have codes : (d.uncounted.count .request).isAuthorized q.header =
      (d.count .request).isAuthorized q.header := rfl
  simp only [handle, codes]
  split
  · rfl
  · have same := plainly.symm.trans actual
    split <;> split <;> simp_all [plain]

theorem plain_fit (d : Directory) (capacity : Nat) (r : Response) :
    plain (d.fit capacity r) = (d.uncounted, (r.fit capacity).response?) := by
  unfold fit
  split <;> simp_all [plain, Fitted.response?]

theorem handle_count (d : Directory) (f : Counters → Counters) (q : Request) :
    plain ((d.count f).handle q) = plain (d.handle q) := by
  rw [← handle_uncounted, uncounted_count, handle_uncounted]

theorem plain_respond (d : Directory) (b : Bytes) (capacity : Nat) :
    plain (d.respond b capacity) =
      match Request.decode b with
      | .error _ => (d.uncounted, none)
      | .ok q =>
        ((d.handle q).1.uncounted, (d.handle q).2.bind fun r => (r.fit capacity).response?) := by
  cases read : Request.decode b with
  | error cause => simp [respond, read, plain]
  | ok q =>
    have same := handle_count d (.bytesIn (UInt64.ofNat b.length)) q
    simp only [respond, read]
    cases step : (d.count (.bytesIn (UInt64.ofNat b.length))).handle q with
    | mk e answer =>
      rw [step] at same
      obtain ⟨stores, rfl⟩ := Prod.mk.inj same
      cases h : (d.handle q).2 with
      | none => simpa [plain, h] using stores
      | some r =>
        have fitted := plain_fit e capacity r
        simpa [h, ← stores] using fitted

theorem plain_dispatch (d : Directory) (b : Bytes) (capacity : Nat) :
    plain (d.dispatch b capacity) =
      ((plain (d.respond b capacity)).1, (plain (d.respond b capacity)).2.map Response.encode) := by
  unfold dispatch
  split <;> simp_all [plain]

/-- What an authorized request does to a directory, and what is said about it. -/
inductive Outcome (d : Directory) : Request → Directory → Response → Prop where
  | read {q : Request} (r : Response) (quiet : q.header.tag.mutates = false)
      (unsaved : q.header.tag.saves = false) : Outcome d q d r
  | refused {q : Request} (cause : StoreError) (mutation : q.header.tag.mutates = true) :
      Outcome d q d (Response.operation q.header 0 0 cause.code)
  | assigned {h : Header} {i : Identity} {s : IdentityStore} (tag : h.tag = .assign)
      (stored : d.identities.put i = .ok s) :
      Outcome d ⟨h, .identity i⟩ (d.withIdentities s) (Response.operation h 0 1 .ok)
  | removed {h : Header} {i : Identity} {s : IdentityStore} (tag : h.tag = .remove)
      (erased : d.identities.remove i.addr = .ok s) :
      Outcome d ⟨h, .identity i⟩ (d.withIdentities s) (Response.operation h 0 1 .ok)
  | gatewayAssigned {h : Header} {g : Gateway} {s : GatewayStore} (tag : h.tag = .gatewayAssign)
      (stored : d.gateways.put g = .ok s) :
      Outcome d ⟨h, .gateway g⟩ (d.withGateways s) (Response.operation h 0 1 .ok)
  | gatewayRemoved {h : Header} {g : Gateway} {s : GatewayStore} (tag : h.tag = .gatewayRemove)
      (erased : d.gateways.remove g = .ok s) :
      Outcome d ⟨h, .gateway g⟩ (d.withGateways s) (Response.operation h 0 1 .ok)
  | saved {q : Request} (r : Response) (tag : q.header.tag = .forceSave) :
      Outcome d q d.flushIdentities.1 r
  | gatewaySaved {q : Request} (r : Response) (tag : q.header.tag = .gatewayForceSave) :
      Outcome d q d.flushGateways.1 r

@[simp] theorem uncounted_lookup (d : Directory) (h : Header) (key : Identity)
    (found : Except StoreError Identity) :
    (d.lookup h key found).1.uncounted = d.uncounted := by
  cases found <;> simp [lookup]

@[simp] theorem uncounted_gatewayLookup (d : Directory) (h : Header) (key : Gateway) :
    (d.gatewayLookup h key).1.uncounted = d.uncounted := by
  unfold gatewayLookup
  split <;> simp

@[simp] theorem uncounted_listed {α : Type} (d : Directory) (h : Header)
    (body : List α → ResponseBody) (outcome : Except StoreError (List α)) :
    (d.listed h body outcome).1.uncounted = d.uncounted := by
  cases outcome <;> simp [listed]

@[simp] theorem uncounted_saved (d : Directory) (h : Header) (offset : UInt32) (size : UInt8)
    (outcome : Except StoreError Unit) :
    (d.saved h offset size outcome).1.uncounted = d.uncounted := by
  cases outcome <;> simp [saved]

theorem Outcome.of_read {d e : Directory} {q : Request} {r : Response} {t : Tag}
    {p : Directory × Response} (run : some p = some (e, r)) (same : p.1.uncounted = d.uncounted)
    (tag : q.header.tag = t) (quiet : t.mutates = false ∧ t.saves = false) :
    ∃ e', Outcome d q e' r ∧ e'.uncounted = e.uncounted := by
  subst tag
  obtain rfl := Option.some.inj run
  exact ⟨d, .read _ quiet.1 quiet.2, same.symm⟩

theorem Outcome.of_mutation {α : Type} {d e : Directory} {q : Request} {r : Response} {t : Tag}
    {update : α → Directory} {result : Except StoreError α}
    (run : some (d.mutation q.header update result) = some (e, r))
    (tag : q.header.tag = t) (mutation : t.mutates = true)
    (done : ∀ s, result = .ok s →
      Outcome d q (update s) (Response.operation q.header 0 1 .ok)) :
    ∃ e', Outcome d q e' r ∧ e'.uncounted = e.uncounted := by
  subst tag
  cases result with
  | ok s =>
    obtain ⟨rfl, rfl⟩ := Prod.mk.inj (Option.some.inj run)
    exact ⟨update s, done s rfl, rfl⟩
  | error cause =>
    obtain ⟨rfl, rfl⟩ := Prod.mk.inj (Option.some.inj run)
    exact ⟨d, .refused cause mutation, (uncounted_noteError d cause).symm⟩

theorem Outcome.of_saved {d e : Directory} {q : Request} {r : Response}
    {p : Directory × Except StoreError Unit} {offset : UInt32} {size : UInt8}
    (run : some (p.1.saved q.header offset size p.2) = some (e, r))
    (done : ∀ r, Outcome d q p.1 r) :
    ∃ e', Outcome d q e' r ∧ e'.uncounted = e.uncounted := by
  have same := uncounted_saved p.1 q.header offset size p.2
  rw [Option.some.inj run] at same
  exact ⟨p.1, done r, same.symm⟩

theorem execute_outcome {d e : Directory} {h : Header} {body : RequestBody} {r : Response}
    (run : d.execute h body = some (e, r)) :
    ∃ e', Outcome d ⟨h, body⟩ e' r ∧ e'.uncounted = e.uncounted := by
  unfold execute at run
  split at run <;> rename_i tag
  · exact Outcome.of_read run (uncounted_lookup d h _ _) tag ⟨rfl, rfl⟩
  · exact Outcome.of_read run (uncounted_lookup d h _ _) tag ⟨rfl, rfl⟩
  · exact Outcome.of_mutation (q := ⟨h, _⟩) run tag rfl fun s stored => .assigned tag stored
  · exact Outcome.of_mutation (q := ⟨h, _⟩) run tag rfl fun s erased => .removed tag erased
  · exact Outcome.of_read run (uncounted_listed d h _ _) tag ⟨rfl, rfl⟩
  · exact Outcome.of_read run rfl tag ⟨rfl, rfl⟩
  · exact Outcome.of_saved (q := ⟨h, _⟩) (p := d.flushIdentities) run fun r => .saved r tag
  · exact Outcome.of_read run (uncounted_gatewayLookup d h _) tag ⟨rfl, rfl⟩
  · exact Outcome.of_read run (uncounted_gatewayLookup d h _) tag ⟨rfl, rfl⟩
  · exact Outcome.of_mutation (q := ⟨h, _⟩) run tag rfl fun s stored => .gatewayAssigned tag stored
  · exact Outcome.of_mutation (q := ⟨h, _⟩) run tag rfl fun s erased => .gatewayRemoved tag erased
  · exact Outcome.of_read run (uncounted_listed d h _ _) tag ⟨rfl, rfl⟩
  · exact Outcome.of_read run rfl tag ⟨rfl, rfl⟩
  · exact Outcome.of_saved (q := ⟨h, _⟩) (p := d.flushGateways) run fun r => .gatewaySaved r tag
  · exact Outcome.of_read run rfl tag ⟨rfl, rfl⟩
  · exact Outcome.of_read run rfl tag ⟨rfl, rfl⟩
  · contradiction

theorem execute_of_isProper (d : Directory) {q : Request} (proper : q.IsProper) :
    ∃ e r, d.execute q.header q.body = some (e, r) := by
  obtain ⟨⟨tag, code, access⟩, body⟩ := q
  cases tag <;> cases body <;> first | contradiction | exact ⟨_, _, rfl⟩

theorem handle_authorized {d : Directory} {q : Request} (known : d.isAuthorized q.header = true) :
    plain (d.handle q) =
      match d.execute q.header q.body with
      | some p => (p.1.uncounted, some p.2)
      | none => (d.uncounted, none) := by
  have counted := execute_uncounted (d.count .request) q.header q.body
  have same : (d.count .request).isAuthorized q.header = true := known
  rw [uncounted_count, execute_uncounted] at counted
  simp only [handle, same]
  cases first : d.execute q.header q.body <;>
    cases second : (d.count .request).execute q.header q.body <;>
    simp_all [plain]

theorem handle_denied {d : Directory} {q : Request} (foreign : d.isAuthorized q.header = false) :
    plain (d.handle q) = (d.uncounted, some (Response.accessDenied q.header.tag)) := by
  have same : (d.count .request).isAuthorized q.header = false := foreign
  simp [handle, same, plain]

end Directory

end IdentityDirectory
