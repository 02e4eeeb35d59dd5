import IdentityDirectory.Proofs.Directory.Runs
import IdentityDirectory.Proofs.Settings.Check
import IdentityDirectory.Proofs.Store.Files
import IdentityDirectory.Proofs.Wire.RequestCodec
/-!
Directories whose stores are kept in files. Whatever requests they answer, a store that need not be written
anew is in its file, and the folders that the settings ask for stay where they are.
-/
namespace IdentityDirectory
open Disk

namespace Settings

def files (s : Settings) : List String :=
  s.storage.identityPath :: s.storage.gatewayPath ::
    if s.logging.toFile then s.logging.filePath.toList else []

/-- No file of a store is the other one or a draft, and no folder that the settings ask for is a file that
a draft is written over. -/
structure OwnFiles (s : Settings) (d : Disk) : Prop where
  stores : d.Apart s.storage.identityPath s.storage.gatewayPath
  drafts : ∀ p ∈ [s.storage.identityPath, s.storage.gatewayPath],
    ∀ q ∈ [s.storage.identityPath, s.storage.gatewayPath], d.Apart p (draft q)
  spared : ∀ file ∈ s.files, ∀ folder ∈ Path.folder? file,
    ∀ path ∈ [s.storage.identityPath, s.storage.gatewayPath], d.IsSpared folder path

theorem OwnFiles.congr {s : Settings} {d e : Disk} (own : s.OwnFiles d) (same : d.SameFolders e) :
    s.OwnFiles e where
  stores := same.apart own.stores
  drafts p first q second := same.apart (own.drafts p first q second)
  spared file asked folder named path store := same.isSpared (own.spared file asked folder named path store)

theorem OwnFiles.isReady {s : Settings} {d e : Disk} (own : s.OwnFiles d) {path : String}
    (store : path ∈ [s.storage.identityPath, s.storage.gatewayPath]) {content : Bytes} {isDone : Bool}
    (replaced : d.Replaced path content e isDone) {file : String} (asked : file ∈ s.files)
    (ready : d.IsReady file) : e.IsReady file :=
  fun folder named => replaced.has (ready folder named) (own.spared file asked folder named path store)

theorem check_iff {d : Disk} {s : Settings} (json : s.storage.backend = .json) :
    s.check d = .ok () ↔
      s.server.violations = [] ∧ s.storage.identityPath.isEmpty = false ∧
        s.storage.gatewayPath.isEmpty = false ∧
        ¬ Path.IsSame s.storage.identityPath s.storage.gatewayPath ∧ s.logging.nameViolations = [] ∧
        (s.logging.toFile = true → s.logging.filePath.isSome = true) ∧
        (s.logging.toConsole || s.logging.toFile) = true ∧ ∀ file ∈ s.files, d.IsReady file := by
  rw [check_eq_ok]
  simp only [violations, StorageSettings.violations, json, LoggingSettings.violations,
    List.append_eq_nil_iff, pathViolations_eq_nil, fileViolations_eq_nil, when_eq_nil, files]
  cases s.logging.toFile with
  | false => simp; tauto
  | true => cases s.logging.filePath with
    | none => simp
    | some path => simp; tauto

theorem isReady_of_check {d : Disk} {s : Settings} (json : s.storage.backend = .json)
    (checked : s.check d = .ok ()) : ∀ file ∈ s.files, d.IsReady file := by
  obtain ⟨-, -, -, -, -, -, -, ready⟩ := (check_iff json).mp checked
  exact ready

theorem check_of_isReady {d e : Disk} {s : Settings} (json : s.storage.backend = .json)
    (checked : s.check d = .ok ()) (ready : ∀ file ∈ s.files, e.IsReady file) :
    s.check e = .ok () := by
  obtain ⟨server, first, second, distinct, name, log, output, -⟩ := (check_iff json).mp checked
  exact (check_iff json).mpr ⟨server, first, second, distinct, name, log, output, ready⟩

end Settings

/-- Records that have come over the wire are in order, and in what their files give back nothing is missing
but what cannot be read of a name. -/
structure Holdings.IsKept (h : Holdings) (s : Settings) : Prop where
  own : s.OwnFiles h.disk
  ready : ∀ file ∈ s.files, h.disk.IsReady file
  identities : h.identities.backing.Tracks s.storage.identityPath Identity.listOfJsonText? h.disk
    (h.identities.rows.map Identity.readable)
  gateways : h.gateways.backing.Tracks s.storage.gatewayPath Gateway.listOfJsonText? h.disk
    h.gateways.rows
  identityOrder : Rows.IsAscending Identity.key h.identities.rows
  gatewayOrder : Rows.IsAscending Gateway.key h.gateways.rows
  identityWire : ∀ i ∈ h.identities.rows, i.wire = i
  gatewayWire : ∀ g ∈ h.gateways.rows, g.wire = g

theorem Identity.isWritable_of_wire {i : Identity} (travels : i.wire = i) :
    i.device.version.IsWritable := by
  rw [← travels]
  exact Version.isWritable_make _ _ _

theorem Gateway.unlabelled_of_wire {g : Gateway} (travels : g.wire = g) : g.unlabelled = g := by
  rw [← travels]
  obtain ⟨id, endpoint⟩ := g
  rcases endpoint with _ | ⟨ip, port⟩ | ⟨ip, port, flow, scope⟩ <;> rfl

theorem Gateway.map_unlabelled {rows : List Gateway} (travel : ∀ g ∈ rows, g.wire = g) :
    rows.map Gateway.unlabelled = rows := by
  rw [List.map_congr_left fun g inside => unlabelled_of_wire (travel g inside), List.map_id']

namespace Holdings.IsKept
variable {s : Settings} {d : Directory}

theorem identityRows (kept : d.holdings.IsKept s) {rows : List Identity}
    (order : Rows.IsAscending Identity.key rows) (wire : ∀ i ∈ rows, i.wire = i) :
    (d.withIdentities (d.identities.withRows rows)).holdings.IsKept s where
  own := kept.own
  ready := kept.ready
  identities := kept.identities.touch _
  gateways := kept.gateways
  identityOrder := order
  gatewayOrder := kept.gatewayOrder
  identityWire := wire
  gatewayWire := kept.gatewayWire

theorem gatewayRows (kept : d.holdings.IsKept s) {rows : List Gateway}
    (order : Rows.IsAscending Gateway.key rows) (wire : ∀ g ∈ rows, g.wire = g) :
    (d.withGateways (d.gateways.withRows rows)).holdings.IsKept s where
  own := kept.own
  ready := kept.ready
  identities := kept.identities
  gateways := kept.gateways.touch _
  identityOrder := kept.identityOrder
  gatewayOrder := order
  identityWire := kept.identityWire
  gatewayWire := wire

theorem flushIdentities (kept : d.holdings.IsKept s) : d.flushIdentities.1.holdings.IsKept s := by
  have store := List.mem_cons_self (a := s.storage.identityPath) (l := [s.storage.gatewayPath])
  have other : s.storage.gatewayPath ∈ [s.storage.identityPath, s.storage.gatewayPath] := by simp
  have ready := kept.ready s.storage.identityPath List.mem_cons_self
  have apart := kept.own.drafts _ store _ store
  have back := Identity.listOfJsonText?_fileText fun i inside =>
    Identity.isWritable_of_wire (kept.identityWire i inside)
  obtain ⟨isDone, replaced⟩ :=
    kept.identities.replaced (IdentityStore.fileText d.identities.rows) ready apart
  exact {
    own := kept.own.congr replaced.folders
    ready := fun file asked => kept.own.isReady store replaced asked (kept.ready file asked)
    identities := kept.identities.flush back (trim_toPrettyText _) ready apart
    gateways := kept.gateways.congr
      (replaced.lookup_other kept.own.stores.symm (kept.own.drafts _ other _ store))
    identityOrder := kept.identityOrder
    gatewayOrder := kept.gatewayOrder
    identityWire := kept.identityWire
    gatewayWire := kept.gatewayWire }

theorem flushGateways (kept : d.holdings.IsKept s) : d.flushGateways.1.holdings.IsKept s := by
  have other := List.mem_cons_self (a := s.storage.identityPath) (l := [s.storage.gatewayPath])
  have store : s.storage.gatewayPath ∈ [s.storage.identityPath, s.storage.gatewayPath] := by simp
  have ready := kept.ready s.storage.gatewayPath (List.mem_cons_of_mem _ List.mem_cons_self)
  have apart := kept.own.drafts _ store _ store
  have back := Gateway.listOfJsonText?_fileText d.gateways.rows
  have whole : d.gateways.rows.map Gateway.unlabelled = d.gateways.rows :=
    Gateway.map_unlabelled kept.gatewayWire
  rw [whole] at back
  obtain ⟨isDone, replaced⟩ :=
    kept.gateways.replaced (GatewayStore.fileText d.gateways.rows) ready apart
  exact {
    own := kept.own.congr replaced.folders
    ready := fun file asked => kept.own.isReady store replaced asked (kept.ready file asked)
    identities := kept.identities.congr
      (replaced.lookup_other kept.own.stores (kept.own.drafts _ other _ store))
    gateways := kept.gateways.flush back (trim_toPrettyText _) ready apart
    identityOrder := kept.identityOrder
    gatewayOrder := kept.gatewayOrder
    identityWire := kept.identityWire
    gatewayWire := kept.gatewayWire }

theorem outcome (kept : d.holdings.IsKept s) {e : Directory} {q : Request} {r : Response}
    (h : Directory.Outcome d q e r) (travels : q.wire = q) : e.holdings.IsKept s := by
  have body := congrArg Request.body travels
  cases h with
  | read r quiet unsaved => exact kept
  | refused cause mutation => exact kept
  | @assigned _ i _ tag stored =>
    obtain ⟨-, rfl⟩ := IdentityStore.put_eq_ok stored
    simp only [Request.wire, tag, RequestBody.wire, reduceCtorEq, ↓reduceIte,
      RequestBody.identity.injEq] at body
    apply kept.identityRows (Rows.isAscending_insert Identity.key i kept.identityOrder)
    intro j inside
    rcases Rows.mem_insert Identity.key inside with rfl | before
    · exact body
    · exact kept.identityWire j before
  | removed tag erased =>
    obtain ⟨i, -, -, rfl⟩ := IdentityStore.remove_eq_ok erased
    exact kept.identityRows (Rows.isAscending_erase i.key kept.identityOrder) fun j inside =>
      kept.identityWire j (List.mem_filter.mp inside).1
  | @gatewayAssigned _ g _ tag stored =>
    obtain rfl := GatewayStore.put_eq_ok stored
    apply kept.gatewayRows (Rows.isAscending_insert Gateway.key g kept.gatewayOrder)
    intro f inside
    rcases Rows.mem_insert Gateway.key inside with rfl | before
    · exact RequestBody.gateway.inj body
    · exact kept.gatewayWire f before
  | gatewayRemoved tag erased =>
    obtain ⟨g, -, rfl⟩ := GatewayStore.remove_eq_ok erased
    exact kept.gatewayRows (Rows.isAscending_erase g.key kept.gatewayOrder) fun f inside =>
      kept.gatewayWire f (List.mem_filter.mp inside).1
  | saved r tag => exact kept.flushIdentities
  | gatewaySaved r tag => exact kept.flushGateways

theorem dispatch (kept : d.holdings.IsKept s) (b : Bytes) (capacity : Nat) :
    (d.dispatch b capacity).1.holdings.IsKept s := by
  cases read : Request.decode b with
  | error cause =>
    have step := Directory.plain_dispatch d b capacity
    rw [Directory.plain_respond, read] at step
    rw [Directory.holdings_of_uncounted (e := d) (Prod.mk.inj step).1]
    exact kept
  | ok q =>
    rcases Directory.handle_cases d (Request.isProper_of_decode read) with
      ⟨-, handled⟩ | ⟨-, e, r, outcome, handled⟩
    · have stores := (Prod.mk.inj (Directory.dispatch_of_handle read handled capacity)).1
      rw [Directory.holdings_of_uncounted stores]
      exact kept
    · have stores := (Prod.mk.inj (Directory.dispatch_of_handle read handled capacity)).1
      rw [Directory.holdings_of_uncounted stores]
      exact kept.outcome outcome (Request.wire_of_decode read)

theorem run (kept : d.holdings.IsKept s) (packets : List Packet) :
    (d.run packets).1.holdings.IsKept s := by
  induction packets generalizing d with
  | nil => exact kept
  | cons p packets ih =>
    rw [Directory.run_cons]
    exact ih (kept.dispatch p.bytes p.capacity)

end Holdings.IsKept
end IdentityDirectory
