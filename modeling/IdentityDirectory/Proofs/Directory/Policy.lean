import IdentityDirectory.Proofs.Directory.Arrivals
import IdentityDirectory.Proofs.Store.Policy
/-!
The rules of the device store in a directory. Every arrival makes at most one call of the store, so that what
holds under all calls holds in every directory over a store in memory.
-/
namespace IdentityDirectory
namespace Directory

variable {d : Directory}

theorem Outcome.exists_call {e : Directory} {q : Request} {r : Response} (h : Outcome d q e r)
    (memory : d.identities.backing = .memory) :
    ∃ call, e.identities = d.identities.after call := by
  cases h with
  | read r quiet unsaved => exact ⟨.size, rfl⟩
  | refused cause mutation => exact ⟨.size, rfl⟩
  | @assigned _ i s tag stored => exact ⟨.put i, by rw [IdentityStore.after, stored]; rfl⟩
  | @removed _ i s tag erased => exact ⟨.remove i.addr, by rw [IdentityStore.after, erased]; rfl⟩
  | gatewayAssigned tag stored => exact ⟨.size, rfl⟩
  | gatewayRemoved tag erased => exact ⟨.size, rfl⟩
  | saved r tag => exact ⟨.size, by rw [flushIdentities_of_memory memory]; rfl⟩
  | gatewaySaved r tag => exact ⟨.size, rfl⟩

theorem exists_call_of_handle (memory : d.identities.backing = .memory) (q : Request) :
    ∃ call, (d.handle q).1.identities = d.identities.after call := by
  cases known : d.isAuthorized q.header with
  | false => exact ⟨.size, identities_of_uncounted (e := d) (Prod.mk.inj (handle_denied known)).1⟩
  | true =>
    have step := handle_authorized known
    cases run : d.execute q.header q.body with
    | none =>
      rw [run] at step
      exact ⟨.size, identities_of_uncounted (e := d) (Prod.mk.inj step).1⟩
    | some p =>
      rw [run] at step
      obtain ⟨e, outcome, same⟩ := execute_outcome run
      rw [identities_of_uncounted ((Prod.mk.inj step).1.trans same.symm)]
      exact outcome.exists_call memory

theorem Follows.exists_call {e : Directory} (h : d.Follows e)
    (memory : d.identities.backing = .memory) :
    ∃ call, e.identities = d.identities.after call := by
  rcases h with same | ⟨q, same⟩
  · exact ⟨.size, identities_of_uncounted same⟩
  · rw [identities_of_uncounted same]
    exact exists_call_of_handle memory q

theorem exists_calls_of_receiveAll {network : Option NetId}
    (governed : d.identities.Governed network) (arrivals : List Arrival) :
    ∃ calls, (d.receiveAll arrivals).identities = d.identities.afterAll calls := by
  induction arrivals generalizing d with
  | nil => exact ⟨[], rfl⟩
  | cons x arrivals ih =>
    obtain ⟨call, first⟩ := (follows_receive d x).exists_call governed.memory
    have next : (d.receive x).identities.Governed network := by
      rw [first]
      exact governed.after call
    obtain ⟨calls, others⟩ := ih next
    rw [first] at others
    exact ⟨call :: calls, others⟩

end Directory

namespace IdentityStore

/-- The rules of the device store. A store in memory that starts empty stays in order and within the rules
whatever calls are made. A load keeps the last record of each address, in order; after it the order stays,
and no call adds an address outside the network or makes a second device join with one device EUI. Arrivals
of any kind do no more to the store than calls. -/
theorem rules_hold_under_all_calls (network : Option NetId) :
    (∀ calls, ((make .memory network).afterAll calls).Orderly ∧
        ((make .memory network).afterAll calls).Lawful network) ∧
      (∀ before items, let loaded := ((make .memory network).afterAll before).load items
        (∀ i, i ∈ loaded.rows ↔
          ∃ front back, items = front ++ i :: back ∧ ∀ j ∈ back, j.addr ≠ i.addr) ∧
        ∀ calls, (loaded.afterAll calls).Orderly ∧
          ∀ call,
            (∀ n, network = some n → ∀ i ∈ ((loaded.afterAll calls).after call).rows,
              n.contains i.addr = true ∨ i ∈ (loaded.afterAll calls).rows) ∧
            ∀ eui : Eui, eui.isZero = false →
              (((loaded.afterAll calls).after call).joiners eui).length ≤
                max 1 ((loaded.afterAll calls).joiners eui).length) ∧
      ∀ (d : Directory), d.identities.Governed network → ∀ arrivals, ∃ calls,
        (d.receiveAll arrivals).identities = d.identities.afterAll calls := by
  have start := governed_make network
  refine ⟨?_, ?_, ?_⟩
  · intro calls
    exact ⟨(start.afterAll calls).orderly, start.lawful_afterAll (lawful_make network) calls⟩
  · intro before items loaded
    have governed : loaded.Governed network := (start.afterAll before).load items
    refine ⟨?_, ?_⟩
    · intro i
      have row := @Rows.mem_ofList_iff Identity Identity.key items i
      have named (j : Identity) : j.key ≠ i.key ↔ j.addr ≠ i.addr := not_congr DevAddr.toNat_inj
      simp only [named] at row
      exact row
    · intro calls
      have now := governed.afterAll calls
      refine ⟨now.orderly, ?_⟩
      intro call
      exact ⟨fun n policy i stored => now.inRange_after call policy stored,
        fun eui set => now.joiners_after call set⟩
  · intro d governed arrivals
    exact Directory.exists_calls_of_receiveAll governed arrivals

theorem loaded_twins_stay_two :
    let twin (a : UInt32) : Identity := ⟨⟨a⟩, { (default : Device) with
      activation := .otaa, devEui := ⟨7⟩ }⟩
    let loaded := (make .memory none).load [twin 2, twin 1, twin 2]
    twin 1 ∈ loaded.rows ∧ (loaded.joiners ⟨7⟩).length = 2 ∧
      ((loaded.after (.put (twin 3))).joiners ⟨7⟩).length ≤ 2 := by
  intro twin loaded
  obtain ⟨kept, later⟩ := (rules_hold_under_all_calls none).2.1 [] [twin 2, twin 1, twin 2]
  have two : (loaded.joiners ⟨7⟩).length = 2 := by decide
  have bound := ((later []).2 (.put (twin 3))).2 ⟨7⟩ (by decide)
  refine ⟨(kept (twin 1)).mpr ⟨[twin 2], [twin 2], rfl, by decide⟩, two, ?_⟩
  have most : max 1 (loaded.joiners ⟨7⟩).length = 2 := by rw [two]; rfl
  exact Nat.le_trans bound (Nat.le_of_eq most)

end IdentityStore
end IdentityDirectory
