import IdentityDirectory.Proofs.Client.Exchange
/-!
The calls of a client, and the calls of the stores that they stand for. Over a lossless path with room for a
full page, a client has the stores themselves, up to what of its arguments reaches them; a client with other
codes is rejected and changes nothing.
-/
namespace IdentityDirectory
open Directory

def refusal (cause : StoreError) : Error := .rejected cause.code.toInt32

def Directory.takeOver {σ : Type} (d : Directory) (update : σ → Directory) :
    Except StoreError σ → Directory × Except StoreError Unit
  | .ok s => (update s, .ok ())
  | .error cause => (d, .error cause)

inductive ClientCall : Type → Type where
  | getByEui (eui : Eui) : ClientCall Identity
  | getByAddr (addr : DevAddr) : ClientCall Identity
  | assign (i : Identity) : ClientCall Unit
  | remove (addr : DevAddr) : ClientCall Unit
  | list (offset : UInt32) (size : UInt8) : ClientCall (List Identity)
  | count : ClientCall Nat
  | forceSave : ClientCall Unit
  | gatewayAddr (id : Eui) : ClientCall Gateway
  | gatewayId (endpoint : Endpoint) : ClientCall Gateway
  | assignGateway (g : Gateway) : ClientCall Unit
  | removeGateway (g : Gateway) : ClientCall Unit
  | listGateways (offset : UInt32) (size : UInt8) : ClientCall (List Gateway)
  | countGateways : ClientCall Nat

namespace ClientCall
variable {α : Type}

def call (c : Client) : ClientCall α → Call α
  | getByEui eui => c.getByEui eui
  | getByAddr addr => c.getByAddr addr
  | assign i => c.assign i
  | remove addr => c.remove addr
  | list offset size => c.list offset size
  | count => c.count
  | forceSave => c.forceSave
  | gatewayAddr id => c.gatewayAddr id
  | gatewayId endpoint => c.gatewayId endpoint
  | assignGateway g => c.assignGateway g
  | removeGateway g => c.removeGateway g
  | listGateways offset size => c.listGateways offset size
  | countGateways => c.countGateways

def onStores (d : Directory) : ClientCall α → Directory × Except StoreError α
  | getByEui eui => (d, d.identities.getByEui eui)
  | getByAddr addr => (d, (d.identities.getByAddr addr).map fun device => ⟨addr, device⟩)
  | assign i => d.takeOver d.withIdentities (d.identities.put i)
  | remove addr => d.takeOver d.withIdentities (d.identities.remove addr)
  | list offset size => (d, d.identities.list offset.toNat size.toNat)
  | count => (d, .ok d.identities.size)
  | forceSave => d.flushIdentities
  | gatewayAddr id => (d, d.gateways.get ⟨id, none⟩)
  | gatewayId endpoint => (d, d.gateways.get ⟨⟨0⟩, some endpoint⟩)
  | assignGateway g => d.takeOver d.withGateways (d.gateways.put g)
  | removeGateway g => d.takeOver d.withGateways (d.gateways.remove g)
  | listGateways offset size => (d, d.gateways.list offset.toNat size.toNat)
  | countGateways => (d, .ok d.gateways.size)

/-- What of the arguments reaches the directory. -/
def wire : ClientCall α → ClientCall α
  | assign i => assign i.wire
  | gatewayId endpoint => gatewayId endpoint.wire
  | assignGateway g => assignGateway g.wire
  | removeGateway g => removeGateway g.wire
  | a => a

/-- What a client is told of an outcome. A count travels in 31 bits. -/
def told : ClientCall α → Except StoreError α → Except Error α
  | count, outcome => (outcome.map fun n => min n 0x7FFFFFFF).mapError refusal
  | countGateways, outcome => (outcome.map fun n => min n 0x7FFFFFFF).mapError refusal
  | _, outcome => outcome.mapError refusal

def IsCountable (d : Directory) : ClientCall α → Prop
  | count => d.identities.size < 2 ^ 31
  | countGateways => d.gateways.size < 2 ^ 31
  | _ => True

theorem accepted_failed {read : ResponseBody → Except Error α} {r : Response} {cause : StoreError}
    (result : r.result = cause.code.toInt32) : accepted read r = .error (refusal cause) := by
  have failed : ¬ r.result = ResultCode.ok.toInt32 := by
    intro fine
    apply cause.code_ne_zero
    rw [← result, fine]
    rfl
  rw [accepted, if_neg failed, result, refusal]

theorem accepted_lookup (d : Directory) (h : Header) (key : Identity)
    (found : Except StoreError Identity) :
    accepted wantIdentity (d.lookup h key found).2 = found.mapError refusal := by
  cases found with
  | ok i => rfl
  | error cause => exact accepted_failed rfl

theorem accepted_gatewayLookup (d : Directory) (h : Header) (key : Gateway) :
    accepted wantGateway (d.gatewayLookup h key).2 = (d.gateways.get key).mapError refusal := by
  unfold gatewayLookup
  split
  · rename_i g found
    rw [found]
    rfl
  · rename_i cause failed
    rw [failed]
    exact accepted_failed rfl

theorem accepted_mutation {σ : Type} (d : Directory) (h : Header) (update : σ → Directory)
    (outcome : Except StoreError σ) :
    (d.mutation h update outcome).1.uncounted = (d.takeOver update outcome).1.uncounted ∧
      accepted wantNothing (d.mutation h update outcome).2 =
        (d.takeOver update outcome).2.mapError refusal := by
  cases outcome with
  | ok s => exact ⟨rfl, rfl⟩
  | error cause => exact ⟨uncounted_noteError d cause, accepted_failed rfl⟩

theorem accepted_listed (d : Directory) (h : Header) {body : List α → ResponseBody}
    {want : ResponseBody → Except Error (List α)} (wanted : ∀ items, want (body items) = .ok items)
    (told : ∀ header items, Response.result ⟨header, body items⟩ = header.code)
    (outcome : Except StoreError (List α)) :
    accepted want (d.listed h body outcome).2 = outcome.mapError refusal := by
  cases outcome with
  | ok items =>
    rw [listed, accepted, told, replyHeader, if_pos rfl]
    exact wanted items
  | error cause => exact accepted_failed (told _ [])

theorem accepted_saved (d : Directory) (h : Header) (outcome : Except StoreError Unit) :
    accepted wantNothing (d.saved h 0 0 outcome).2 = outcome.mapError refusal := by
  cases outcome with
  | ok done => rfl
  | error cause => exact accepted_failed rfl

theorem wantCount_count (h : Header) (n : Nat) :
    wantCount (Response.count h 0 0 n) = .ok (min n 0x7FFFFFFF) := by
  have value : (Int32.ofNat (min n 0x7FFFFFFF)).toInt = (min n 0x7FFFFFFF : Nat) :=
    Int32.toInt_ofNat_of_lt (by omega)
  have positive : 0 ≤ Int32.ofNat (min n 0x7FFFFFFF) := by
    rw [Int32.le_iff_toInt_le, value]
    exact Int.natCast_nonneg _
  have known : ¬ ResultCode.ok.toInt32 = ResultCode.accessDenied.toInt32 := by decide
  simp only [wantCount, Response.count, known, positive, value, Int.toNat_natCast, ↓reduceIte]

theorem execute_call (d : Directory) (c : Client) (a : ClientCall α) :
    ∃ e r, d.execute (a.call c).request.header (a.call c).request.body = some (e, r) ∧
      e.uncounted = (a.onStores d).1.uncounted ∧ (a.call c).read r = a.told (a.onStores d).2 := by
  cases a with
  | getByEui eui | getByAddr addr =>
    exact ⟨_, _, rfl, uncounted_lookup d _ _ _, accepted_lookup d _ _ _⟩
  | gatewayAddr id | gatewayId endpoint =>
    exact ⟨_, _, rfl, uncounted_gatewayLookup d _ _, accepted_gatewayLookup d _ _⟩
  | assign i | remove addr | assignGateway g | removeGateway g =>
    exact ⟨_, _, rfl, accepted_mutation d _ _ _⟩
  | list offset size | listGateways offset size =>
    exact ⟨_, _, rfl, uncounted_listed d _ _ _,
      accepted_listed d _ (fun _ => rfl) (fun _ _ => rfl) _⟩
  | forceSave => exact ⟨_, _, rfl, uncounted_saved _ _ _ _ _, accepted_saved _ _ _⟩
  | count => exact ⟨_, _, rfl, rfl, wantCount_count c.count.request.header _⟩
  | countGateways => exact ⟨_, _, rfl, rfl, wantCount_count c.countGateways.request.header _⟩

theorem isProper_call (c : Client) (a : ClientCall α) : (a.call c).request.IsProper := by
  cases a <;> rfl

theorem request_wire (c : Client) (a : ClientCall α) :
    (a.call c).request.wire = (a.wire.call c).request := by
  cases a <;> rfl

theorem read_wire (c : Client) (a : ClientCall α) : (a.wire.call c).read = (a.call c).read := by
  cases a <;> rfl

theorem codes_call (c : Client) (a : ClientCall α) :
    (a.call c).request.header.code = c.code ∧ (a.call c).request.header.accessCode = c.accessCode := by
  cases a <;> exact ⟨rfl, rfl⟩

theorem told_of_isCountable {d : Directory} {a : ClientCall α} (few : a.IsCountable d) :
    a.told (a.onStores d).2 = (a.onStores d).2.mapError refusal := by
  cases a with
  | count =>
    have small : min d.identities.size 0x7FFFFFFF = d.identities.size := by
      have below : d.identities.size < 2 ^ 31 := few
      omega
    simp only [told, onStores, Except.map, small]
  | countGateways =>
    have small : min d.gateways.size 0x7FFFFFFF = d.gateways.size := by
      have below : d.gateways.size < 2 ^ 31 := few
      omega
    simp only [told, onStores, Except.map, small]
  | _ => rfl

theorem told_ne_mismatch (a : ClientCall α) (outcome : Except StoreError α) (m : Mismatch) :
    a.told outcome ≠ .error (.mismatch m) := by
  cases a <;> cases outcome <;> rintro ⟨⟩

theorem read_accessDenied (c : Client) (a : ClientCall α) (capacity : Nat) :
    (a.call c).read ((Response.accessDenied (a.call c).request.header.tag).cut capacity).wire =
      .error (.rejected ResultCode.accessDenied.toInt32) := by
  cases a <;> rfl

/-- With the codes of the directory, a call does what the store call does on what arrives of its arguments. -/
theorem run_known {d : Directory} (wired : d.IsWired) {c : Client}
    (known : c.code = d.code ∧ c.accessCode = d.accessCode) (a : ClientCall α) {capacity : Nat}
    (room : Response.fullPageSize ≤ capacity) :
    plain ((a.call c).run d capacity) =
      ((a.wire.onStores d).1.uncounted, a.wire.told (a.wire.onStores d).2) := by
  -- the directory computes for the call that has arrived, which is its own wire form
  obtain ⟨e, r, run, stores, read⟩ := execute_call d c a.wire
  have still : (a.wire.call c).request.wire = (a.wire.call c).request := by
    rw [← request_wire, Request.wire_wire]
  have authorized (b : ClientCall α) : d.isAuthorized (b.call c).request.header = true := by
    obtain ⟨code, access⟩ := codes_call c b
    exact isAuthorized_of_codes (code.trans known.1) (access.trans known.2)
  have step := handle_authorized (authorized a.wire)
  rw [run] at step
  obtain ⟨wide, whole⟩ := answer_arrives (isProper_call c a.wire) wired still (Prod.mk.inj step).2 room
  rw [← request_wire] at run
  rw [Call.run_of_execute (isProper_call c a) (authorized a) run wide, whole, stores, ← read, read_wire]

theorem run_foreign {d : Directory} {c : Client}
    (foreign : ¬ (c.code = d.code ∧ c.accessCode = d.accessCode)) (a : ClientCall α) {capacity : Nat}
    (room : Response.fullPageSize ≤ capacity) :
    plain ((a.call c).run d capacity) =
      (d.uncounted, .error (.rejected ResultCode.accessDenied.toInt32)) := by
  have denied : d.isAuthorized (a.call c).request.wire.header = false := by
    obtain ⟨code, access⟩ := codes_call c a
    simp only [Request.wire, isAuthorized, code, access, Bool.and_eq_false_iff,
      decide_eq_false_iff_not]
    exact Classical.not_and_iff_not_or_not.mp foreign
  have wide : (Response.accessDenied (a.call c).request.wire.header.tag).leastSize ≤ capacity :=
    (Response.accessDenied_answers _).room room
  rw [Call.plain_run (isProper_call c a) (handle_denied denied), if_pos wide]
  exact congrArg (Prod.mk _) (read_accessDenied c a capacity)

/-- A client over a lossless path, with room for a full page, has the stores themselves. With the codes of the
directory a call returns what the store call returns, a store error as a rejection with its code, and leaves
the same stores behind; with other codes it is rejected and the stores stay. No reply is taken for the reply
to something else. -/
theorem calls_are_store_calls {d : Directory} (wired : d.IsWired) (c : Client) (a : ClientCall α)
    {capacity : Nat} (room : 24247 ≤ capacity) :
    (c.code = d.code ∧ c.accessCode = d.accessCode → a.wire = a → a.IsCountable d →
        plain ((a.call c).run d capacity) =
          ((a.onStores d).1.uncounted,
            (a.onStores d).2.mapError fun cause => .rejected cause.code.toInt32)) ∧
      (¬ (c.code = d.code ∧ c.accessCode = d.accessCode) →
        plain ((a.call c).run d capacity) = (d.uncounted, .error (.rejected (-5)))) ∧
      ∀ m, ((a.call c).run d capacity).2 ≠ .error (.mismatch m) := by
  refine ⟨?_, fun foreign => run_foreign foreign a room, ?_⟩
  · intro known still few
    have ran := run_known wired known a room
    rwa [still, told_of_isCountable few] at ran
  · intro m
    by_cases known : c.code = d.code ∧ c.accessCode = d.accessCode
    · rw [(Prod.mk.inj (run_known wired known a room)).2]
      exact told_ne_mismatch a.wire _ m
    · rw [(Prod.mk.inj (run_foreign known a room)).2]
      simp

theorem device_found_and_kept :
    let i : Identity := ⟨⟨5⟩, { (default : Device) with devEui := ⟨7⟩ }⟩
    let d := (inMemory none 42 42 ⟨[], []⟩ default).withIdentities ⟨.memory, none, [i]⟩
    (((getByEui ⟨7⟩).call ⟨42, 42⟩).run d 24247).2 = .ok i ∧
      plain (((remove ⟨5⟩).call ⟨41, 42⟩).run d 24247) = (d.uncounted, .error (.rejected (-5))) := by
  intro i d
  have wired : d.IsWired := by decide
  have found := (calls_are_store_calls wired ⟨42, 42⟩ (getByEui ⟨7⟩) (Nat.le_refl _)).1
    ⟨rfl, rfl⟩ rfl trivial
  have kept := (calls_are_store_calls wired ⟨41, 42⟩ (remove ⟨5⟩) (Nat.le_refl _)).2.1 (by decide)
  exact ⟨(Prod.mk.inj found).2, kept⟩

/-- Devices that a client has assigned are counted and found, and an address that nobody has is refused. -/
example :
    let client : Client := ⟨42, 42⟩
    let device : Identity := ⟨⟨2⟩, { (default : Device) with devEui := ⟨0xD002⟩ }⟩
    let empty := inMemory none 42 42 ⟨[], []⟩ default
    let d := ((client.assign device).run ((client.assign (.ofAddr ⟨1⟩)).run empty 4096).1 4096).1
    (client.count.run d 4096).2 = .ok 2 ∧ ((client.getByEui ⟨0xD002⟩).run d 4096).2 = .ok device ∧
      ((client.remove ⟨3⟩).run d 4096).2 = .error (.rejected (-2)) := by
  decide +kernel

end ClientCall
end IdentityDirectory
