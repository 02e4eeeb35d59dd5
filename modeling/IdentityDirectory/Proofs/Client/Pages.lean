import IdentityDirectory.Proofs.Client.Exchange
import IdentityDirectory.Proofs.Directory.Reachable
/-!
Reading a whole store page by page. The page size and the room for a reply both cut pages short, each at a
place of its own; a client that goes on behind what it has received still meets every record once.
-/
namespace IdentityDirectory
open Directory

namespace Client
variable {α : Type}

structure Reading (α : Type) where
  directory : Directory
  records : List α
  requests : Nat

/-- Asks for page after page, each behind the records received so far, up to the first page without
records. The capacities are those of the replies in turn; there is no reading if a request fails or no
capacity is left. -/
def readPages (ask : UInt32 → Call (List α)) (d : Directory) (offset : UInt32) :
    List Nat → Option (Reading α)
  | [] => none
  | capacity :: capacities =>
    match (ask offset).run d capacity with
    | (_, .error _) => none
    | (e, .ok []) => some ⟨e, [], 1⟩
    | (e, .ok (x :: page)) =>
      (readPages ask e (offset + UInt32.ofNat (page.length + 1)) capacities).map fun rest =>
        ⟨rest.directory, x :: page ++ rest.records, rest.requests + 1⟩

def Serves (d : Directory) (ask : UInt32 → Call (List α)) (least : Nat) (records : List α) : Prop :=
  ∀ e : Directory, e.uncounted = d.uncounted → ∀ offset capacity, least ≤ capacity →
    ∃ n, 0 < n ∧
      plain ((ask offset).run e capacity) = (d.uncounted, .ok ((records.drop offset.toNat).take n))

def Enumerates (d : Directory) (ask : UInt32 → Call (List α)) (least : Nat) (records : List α) :
    Prop :=
  ∀ capacities : List Nat, records.length < capacities.length → (∀ n ∈ capacities, least ≤ n) →
    ∃ e requests, readPages ask d 0 capacities = some ⟨e, records, requests⟩ ∧
      e.uncounted = d.uncounted ∧ requests ≤ records.length + 1

theorem toNat_add_count {total : Nat} (few : total < 2 ^ 32) (offset : UInt32) (count : Nat)
    (within : offset.toNat + count ≤ total) :
    (offset + UInt32.ofNat count).toNat = offset.toNat + count := by
  have small : count < UInt32.size := Nat.lt_of_le_of_lt (Nat.le_trans (Nat.le_add_left _ _) within) few
  rw [UInt32.toNat_add, UInt32.toNat_ofNat_of_lt' small]
  exact Nat.mod_eq_of_lt (Nat.lt_of_le_of_lt within few)

theorem page_append_rest {records page : List α} {offset n : Nat}
    (cut : (records.drop offset).take n = page) :
    page ++ records.drop (offset + page.length) = records.drop offset := by
  rw [← List.drop_drop, ← cut]
  exact List.prefix_iff_eq_append.mp (List.take_prefix n _)

theorem readPages_of_serves {d : Directory} {ask : UInt32 → Call (List α)} {least : Nat}
    {records : List α} (serves : Serves d ask least records) (few : records.length < 2 ^ 32)
    {capacities : List Nat} (room : ∀ n ∈ capacities, least ≤ n) {d' : Directory}
    (same : d'.uncounted = d.uncounted) (offset : UInt32) (within : offset.toNat ≤ records.length)
    (enough : records.length - offset.toNat < capacities.length) :
    ∃ e requests,
      readPages ask d' offset capacities = some ⟨e, records.drop offset.toNat, requests⟩ ∧
        e.uncounted = d.uncounted ∧ requests ≤ records.length - offset.toNat + 1 := by
  -- each page but the last brings the offset nearer to the end
  induction capacities generalizing d' offset with
  | nil => exact absurd enough (Nat.not_lt_zero _)
  | cons capacity capacities ih =>
    obtain ⟨n, positive, step⟩ := serves d' same offset capacity (room capacity List.mem_cons_self)
    generalize ran : (ask offset).run d' capacity = p at step
    obtain ⟨e, outcome⟩ := p
    obtain ⟨stores, rfl⟩ := Prod.mk.inj step
    cases page : (records.drop offset.toNat).take n with
    | nil =>
      -- a page has room for a record, so that only an offset at the end leaves it empty
      have behind : records.drop offset.toNat = [] := by
        rcases List.take_eq_nil_iff.mp page with none | done
        · omega
        · exact done
      refine ⟨e, 1, ?_, stores, Nat.le_add_left 1 _⟩
      rw [page] at ran
      simp only [readPages, ran, behind]
    | cons x others =>
      have size : (x :: others).length ≤ records.length - offset.toNat := by
        rw [← page, List.length_take, List.length_drop]
        exact Nat.min_le_right _ _
      rw [List.length_cons] at size enough
      have next := toNat_add_count few offset (others.length + 1) (by omega)
      -- what is asked for next starts where this page ends, wherever it was cut
      obtain ⟨f, requests, rest, kept, bound⟩ :=
        ih (fun m member => room m (List.mem_cons_of_mem _ member)) stores
          (offset + UInt32.ofNat (others.length + 1)) (by omega) (by omega)
      refine ⟨f, requests + 1, ?_, kept, by omega⟩
      rw [page] at ran
      rw [← page_append_rest page, List.length_cons, ← next]
      simp only [readPages, ran, rest, Option.map_some]

theorem serves_of_cuts {d : Directory} {ask : UInt32 → Call (List α)} {size : UInt8} (width : Nat)
    {rows : List α} {wire : α → α} (positive : 0 < size) (wide : 0 < width)
    (cuts : ∀ e : Directory, e.uncounted = d.uncounted → ∀ offset capacity, 22 ≤ capacity →
      plain ((ask offset).run e capacity) = (d.uncounted,
        .ok (((Rows.page offset.toNat size.toNat rows).take ((capacity - 22) / width)).map wire))) :
    Serves d ask (22 + width) (rows.map wire) := by
  intro e same offset capacity room
  have one : 0 < (capacity - 22) / width := Nat.div_pos (by omega) wide
  have some : 0 < size.toNat := UInt8.lt_iff_toNat_lt.mp positive
  refine ⟨min ((capacity - 22) / width) size.toNat, by omega, ?_⟩
  rw [cuts e same offset capacity (by omega), Rows.page, List.take_take, List.map_take, List.map_drop]

variable {d : Directory} {c : Client} {size : UInt8}

theorem isAuthorized_of_uncounted {e : Directory} (same : e.uncounted = d.uncounted)
    (known : c.code = d.code ∧ c.accessCode = d.accessCode) (tag : Tag) :
    e.isAuthorized ⟨tag, c.code, c.accessCode⟩ = true := by
  obtain ⟨code, access⟩ := codes_of_uncounted same
  exact isAuthorized_of_codes (known.1.trans code.symm) (known.2.trans access.symm)

theorem serves_list (known : c.code = d.code ∧ c.accessCode = d.accessCode) (positive : 0 < size)
    (sound : d.identities.backing.fault? = none) :
    Serves d (fun offset => c.list offset size) 117 (d.identities.rows.map Identity.wire) := by
  refine serves_of_cuts Identity.size positive (by decide) ?_
  intro e same offset capacity room
  let h : Header := ⟨.list, c.code, c.accessCode⟩
  let page := Rows.page offset.toNat size.toNat d.identities.rows
  have run : e.execute h (.operation offset size) =
      some (e, ⟨replyHeader h .ok, .identityList offset page⟩) := by
    simp only [execute, h, identities_of_uncounted same, IdentityStore.list, Backing.answer, sound,
      listed, page]
  rw [← same]
  exact Call.run_of_execute (c := c.list offset size) rfl
    (isAuthorized_of_uncounted same known .list) run room

theorem serves_listGateways (known : c.code = d.code ∧ c.accessCode = d.accessCode)
    (positive : 0 < size) (sound : d.gateways.backing.fault? = none) :
    Serves d (fun offset => c.listGateways offset size) 49 (d.gateways.rows.map Gateway.wire) := by
  refine serves_of_cuts Gateway.size positive (by decide) ?_
  intro e same offset capacity room
  let h : Header := ⟨.gatewayList, c.code, c.accessCode⟩
  let page := Rows.page offset.toNat size.toNat d.gateways.rows
  have stores : e.gateways = d.gateways := congrArg Holdings.gateways (holdings_of_uncounted same)
  have run : e.execute h (.operation offset size) =
      some (e, ⟨replyHeader h .ok, .gatewayList offset page⟩) := by
    simp only [execute, h, stores, GatewayStore.list, Backing.answer, sound, listed, page]
  rw [← same]
  exact Call.run_of_execute (c := c.listGateways offset size) rfl
    (isAuthorized_of_uncounted same known .gatewayList) run room

theorem enumerates_of_serves {ask : UInt32 → Call (List α)} {least : Nat} {records : List α}
    (serves : Serves d ask least records) (few : records.length < 2 ^ 32) :
    Enumerates d ask least records := by
  intro capacities enough room
  exact readPages_of_serves serves few room rfl 0 (Nat.zero_le _) enough

/-- Reading page by page, with any page size and any room for each reply that a record fits in, brings the
records of a store in their wire form, all of them, each once and in ascending order. -/
theorem pages_enumerate_stores (known : c.code = d.code ∧ c.accessCode = d.accessCode)
    (positive : 0 < size) (sorted : d.IsSorted) :
    (d.identities.backing.fault? = none → d.identities.rows.length < 2 ^ 32 →
        let records := d.identities.rows.map Identity.wire
        Enumerates d (fun offset => c.list offset size) 117 records ∧
          records.Pairwise fun i j => i.addr.value < j.addr.value) ∧
      (d.gateways.backing.fault? = none → d.gateways.rows.length < 2 ^ 32 →
        let records := d.gateways.rows.map Gateway.wire
        Enumerates d (fun offset => c.listGateways offset size) 49 records ∧
          records.Pairwise fun g g' => g.id.value < g'.id.value) := by
  constructor
  · intro sound few records
    refine ⟨enumerates_of_serves (serves_list known positive sound) ?_, List.pairwise_map.mpr sorted.1⟩
    rwa [List.length_map]
  · intro sound few records
    refine ⟨enumerates_of_serves (serves_listGateways known positive sound) ?_,
      List.pairwise_map.mpr sorted.2⟩
    rwa [List.length_map]

theorem cramped_pages_bring_both :
    let rows := [Identity.ofAddr ⟨5⟩, Identity.ofAddr ⟨9⟩]
    let d := (inMemory none 42 42 ⟨[], []⟩ default).withIdentities ⟨.memory, none, rows⟩
    ∃ e requests, readPages (fun offset => Client.list ⟨42, 42⟩ offset 10) d 0 [117, 200, 117] =
      some ⟨e, rows, requests⟩ ∧ requests ≤ 3 := by
  intro rows d
  have sorted : d.IsSorted := ⟨by simp [d, rows, withIdentities, Rows.IsAscending, Identity.key,
    Identity.ofAddr], List.Pairwise.nil⟩
  have all := (@pages_enumerate_stores d ⟨42, 42⟩ 10 ⟨rfl, rfl⟩ (by decide) sorted).1 rfl (by decide)
  obtain ⟨e, requests, read, -, few⟩ := all.1 [117, 200, 117] (by decide) (by decide)
  exact ⟨e, requests, read, few⟩

end Client
end IdentityDirectory
