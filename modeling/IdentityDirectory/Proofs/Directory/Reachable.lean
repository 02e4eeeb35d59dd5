import IdentityDirectory.Proofs.Directory.Arrivals
import IdentityDirectory.Proofs.Store.Calls
/-!
Directories that can come about. In all of them the rows of both stores are in ascending order of their
keys, so that a key stands for one record at most.
-/
namespace IdentityDirectory
namespace Directory

def IsSorted (d : Directory) : Prop :=
  Rows.IsAscending Identity.key d.identities.rows ∧ Rows.IsAscending Gateway.key d.gateways.rows

/-- Fresh stores over any backing, and what becomes of them: files are read and written, the stores are
called, requests of every kind are answered, and somebody else writes to the disk. -/
inductive Reachable : Directory → Prop where
  | fresh (identities gateways : Backing) (network : Option NetId) (code : Int32)
      (accessCode : UInt64) (disk : Disk) (counters : Counters) :
      Reachable ⟨.make identities network, .make gateways, code, accessCode, disk, counters⟩
  | identitiesOpened {d : Directory} {s : IdentityStore} (before : Reachable d)
      (opened : d.identities.init d.disk = .ok s) : Reachable (d.withIdentities s)
  | gatewaysOpened {d : Directory} {s : GatewayStore} (before : Reachable d)
      (opened : d.gateways.init d.disk = .ok s) : Reachable (d.withGateways s)
  | identitiesLoaded {d : Directory} (before : Reachable d) (items : List Identity) :
      Reachable (d.withIdentities (d.identities.load items))
  | gatewaysLoaded {d : Directory} (before : Reachable d) (items : List Gateway) :
      Reachable (d.withGateways (d.gateways.load items))
  | identityPut {d : Directory} {i : Identity} {s : IdentityStore} (before : Reachable d)
      (stored : d.identities.put i = .ok s) : Reachable (d.withIdentities s)
  | gatewayPut {d : Directory} {g : Gateway} {s : GatewayStore} (before : Reachable d)
      (stored : d.gateways.put g = .ok s) : Reachable (d.withGateways s)
  | identityRemoved {d : Directory} {addr : DevAddr} {s : IdentityStore} (before : Reachable d)
      (erased : d.identities.remove addr = .ok s) : Reachable (d.withIdentities s)
  | gatewayRemoved {d : Directory} {key : Gateway} {s : GatewayStore} (before : Reachable d)
      (erased : d.gateways.remove key = .ok s) : Reachable (d.withGateways s)
  | identitiesFlushed {d : Directory} (before : Reachable d) : Reachable d.flushIdentities.1
  | gatewaysFlushed {d : Directory} (before : Reachable d) : Reachable d.flushGateways.1
  | handled {d : Directory} (before : Reachable d) (q : Request) : Reachable (d.handle q).1
  | dispatched {d : Directory} (before : Reachable d) (b : Bytes) (capacity : Nat) :
      Reachable (d.dispatch b capacity).1
  | queried {d : Directory} (before : Reachable d) (b buffer : Bytes) :
      Reachable (d.query b buffer).1
  | answeredJson {d : Directory} (before : Reachable d) (text : String) :
      Reachable (d.answerJson text).1
  | answeredUrn {d : Directory} (before : Reachable d) (text : String) :
      Reachable (d.answerUrn text).1
  | diskChanged {d : Directory} (before : Reachable d) (disk : Disk) :
      Reachable { d with disk := disk }
  | counted {d : Directory} (before : Reachable d) (f : Counters → Counters) :
      Reachable (d.count f)

theorem isSorted_of_uncounted {d e : Directory} (same : d.uncounted = e.uncounted)
    (sorted : e.IsSorted) : d.IsSorted := by
  have plainly : e.uncounted.IsSorted := sorted
  rw [← same] at plainly
  exact plainly

theorem isSorted_withIdentities {d : Directory} {s : IdentityStore} (sorted : d.IsSorted)
    (rows : Rows.IsAscending Identity.key s.rows) : (d.withIdentities s).IsSorted :=
  ⟨rows, sorted.2⟩

theorem isSorted_withGateways {d : Directory} {s : GatewayStore} (sorted : d.IsSorted)
    (rows : Rows.IsAscending Gateway.key s.rows) : (d.withGateways s).IsSorted :=
  ⟨sorted.1, rows⟩

theorem isSorted_put {d : Directory} {i : Identity} {s : IdentityStore} (sorted : d.IsSorted)
    (stored : d.identities.put i = .ok s) : (d.withIdentities s).IsSorted := by
  obtain ⟨-, rfl⟩ := IdentityStore.put_eq_ok stored
  exact isSorted_withIdentities sorted (Rows.isAscending_insert Identity.key i sorted.1)

theorem isSorted_remove {d : Directory} {addr : DevAddr} {s : IdentityStore} (sorted : d.IsSorted)
    (erased : d.identities.remove addr = .ok s) : (d.withIdentities s).IsSorted := by
  obtain ⟨i, -, -, rfl⟩ := IdentityStore.remove_eq_ok erased
  exact isSorted_withIdentities sorted (Rows.isAscending_erase i.key sorted.1)

theorem isSorted_gatewayPut {d : Directory} {g : Gateway} {s : GatewayStore} (sorted : d.IsSorted)
    (stored : d.gateways.put g = .ok s) : (d.withGateways s).IsSorted := by
  obtain rfl := GatewayStore.put_eq_ok stored
  exact isSorted_withGateways sorted (Rows.isAscending_insert Gateway.key g sorted.2)

theorem isSorted_gatewayRemove {d : Directory} {key : Gateway} {s : GatewayStore}
    (sorted : d.IsSorted) (erased : d.gateways.remove key = .ok s) :
    (d.withGateways s).IsSorted := by
  obtain ⟨g, -, rfl⟩ := GatewayStore.remove_eq_ok erased
  exact isSorted_withGateways sorted (Rows.isAscending_erase g.key sorted.2)

theorem Outcome.isSorted {d e : Directory} {q : Request} {r : Response} (h : Outcome d q e r)
    (sorted : d.IsSorted) : e.IsSorted := by
  cases h with
  | read r quiet unsaved => exact sorted
  | refused cause mutation => exact sorted
  | assigned tag stored => exact isSorted_put sorted stored
  | removed tag erased => exact isSorted_remove sorted erased
  | gatewayAssigned tag stored => exact isSorted_gatewayPut sorted stored
  | gatewayRemoved tag erased => exact isSorted_gatewayRemove sorted erased
  | saved r tag => exact sorted
  | gatewaySaved r tag => exact sorted

theorem isSorted_handle {d : Directory} (sorted : d.IsSorted) (q : Request) :
    (d.handle q).1.IsSorted := by
  cases known : d.isAuthorized q.header with
  | false => exact isSorted_of_uncounted (Prod.mk.inj (handle_denied known)).1 sorted
  | true =>
    have step := handle_authorized known
    cases run : d.execute q.header q.body with
    | none =>
      rw [run] at step
      exact isSorted_of_uncounted (e := d) (Prod.mk.inj step).1 sorted
    | some p =>
      rw [run] at step
      obtain ⟨e, outcome, same⟩ := execute_outcome run
      exact isSorted_of_uncounted ((Prod.mk.inj step).1.trans same.symm) (outcome.isSorted sorted)

theorem Follows.isSorted {d e : Directory} (h : d.Follows e) (sorted : d.IsSorted) : e.IsSorted := by
  rcases h with same | ⟨q, same⟩
  · exact isSorted_of_uncounted same sorted
  · exact isSorted_of_uncounted same (isSorted_handle sorted q)

theorem Reachable.isSorted {d : Directory} (h : Reachable d) : d.IsSorted := by
  induction h with
  | fresh => exact ⟨List.Pairwise.nil, List.Pairwise.nil⟩
  | identitiesOpened before opened sorted =>
    rcases IdentityStore.init_eq_ok opened with rfl | ⟨items, rfl⟩
    · exact sorted
    · exact isSorted_withIdentities sorted (Rows.isAscending_ofList items)
  | gatewaysOpened before opened sorted =>
    rcases GatewayStore.init_eq_ok opened with rfl | ⟨items, rfl⟩
    · exact sorted
    · exact isSorted_withGateways sorted (Rows.isAscending_ofList items)
  | identitiesLoaded before items sorted =>
    exact isSorted_withIdentities sorted (Rows.isAscending_ofList items)
  | gatewaysLoaded before items sorted =>
    exact isSorted_withGateways sorted (Rows.isAscending_ofList items)
  | identityPut before stored sorted => exact isSorted_put sorted stored
  | gatewayPut before stored sorted => exact isSorted_gatewayPut sorted stored
  | identityRemoved before erased sorted => exact isSorted_remove sorted erased
  | gatewayRemoved before erased sorted => exact isSorted_gatewayRemove sorted erased
  | identitiesFlushed before sorted => exact sorted
  | gatewaysFlushed before sorted => exact sorted
  | handled before q sorted => exact isSorted_handle sorted q
  | dispatched before b capacity sorted => exact (follows_dispatch _ b capacity).isSorted sorted
  | queried before b buffer sorted => exact (follows_query _ b buffer).isSorted sorted
  | answeredJson before text sorted => exact (follows_answerJson _ text).isSorted sorted
  | answeredUrn before text sorted => exact (follows_answerUrn _ text).isSorted sorted
  | diskChanged before disk sorted => exact sorted
  | counted before f sorted => exact sorted

end Directory
end IdentityDirectory
