import IdentityDirectory.Proofs.Service.Kept
import IdentityDirectory.Service
/-!
Services that are closed and opened again. All records that were held come back in their places, and only of
a name that is no text does less come back than was stored.
-/
namespace IdentityDirectory
open Disk

namespace Service

def answered (s : Service) (packets : List Packet) : Service :=
  { s with directory := (s.directory.run packets).1 }

theorem start_eq_ok {settings : Settings} {disk : Disk} {counters : Counters} {s : Service} :
    start settings disk counters = .ok s ↔
      settings.check disk = .ok () ∧ ∃ identities gateways,
        (IdentityStore.make (identityBacking settings.storage) settings.storage.netId).init disk =
          .ok identities ∧
        (GatewayStore.make (gatewayBacking settings.storage)).init disk = .ok gateways ∧
        s = ⟨settings, ⟨identities, gateways, settings.auth.code, settings.auth.accessCode, disk,
          counters⟩, false⟩ := by
  cases checked : settings.check disk with
  | error cause => simp [start, checked, Except.mapError, bind, Except.bind]
  | ok done =>
    cases first : (IdentityStore.make (identityBacking settings.storage)
        settings.storage.netId).init disk with
    | error cause => simp [start, checked, first, Except.mapError, bind, Except.bind]
    | ok identities =>
      cases second : (GatewayStore.make (gatewayBacking settings.storage)).init disk with
      | error cause => simp [start, checked, first, second, Except.mapError, bind, Except.bind]
      | ok gateways =>
        simp [start, checked, first, second, Except.mapError, bind, Except.bind, pure, Except.pure,
          eq_comm]

theorem close_eq_ok {s closed : Service} (running : s.isClosed = false)
    (ended : s.close = (closed, .ok ())) :
    s.directory.flushIdentities.2 = .ok () ∧ s.directory.flushIdentities.1.flushGateways.2 = .ok () ∧
      closed.directory = s.directory.flushIdentities.1.flushGateways.1 := by
  rw [close, if_neg (by simp [running])] at ended
  rcases first : s.directory.flushIdentities with ⟨d, cause | done⟩
  · rw [first] at ended
    exact nomatch (Prod.mk.inj ended).2
  · rw [first] at ended
    obtain ⟨rfl, outcome⟩ := Prod.mk.inj ended
    exact ⟨rfl, ok_of_mapError outcome, rfl⟩

theorem close_of_done {s : Service} (done : s.close.2 = .ok ()) : s.close = (s.close.1, .ok ()) :=
  Prod.ext rfl done

theorem identityBacking_of_json {storage : StorageSettings} (json : storage.backend = .json) :
    identityBacking storage = .file storage.identityPath false := by rw [identityBacking, json]

theorem gatewayBacking_of_json {storage : StorageSettings} (json : storage.backend = .json) :
    gatewayBacking storage = .file storage.gatewayPath false := by rw [gatewayBacking, json]

variable {settings : Settings} {disk : Disk} {counters : Counters} {s : Service}

theorem isKept_of_start (json : settings.storage.backend = .json) (own : settings.OwnFiles disk)
    (noIdentities : Backing.loadText disk settings.storage.identityPath = .ok none)
    (noGateways : Backing.loadText disk settings.storage.gatewayPath = .ok none)
    (opened : start settings disk counters = .ok s) :
    s.directory.holdings.IsKept settings ∧ s.isClosed = false := by
  obtain ⟨checked, identities, gateways, first, second, rfl⟩ := start_eq_ok.mp opened
  have empty : (Backing.file settings.storage.identityPath false).init Identity.listOfJsonText? disk =
      .ok (some []) := by
    simp only [Backing.init, noIdentities]
  have bare : (Backing.file settings.storage.gatewayPath false).init Gateway.listOfJsonText? disk =
      .ok (some []) := by
    simp only [Backing.init, noGateways]
  rw [identityBacking_of_json json] at first
  rw [gatewayBacking_of_json json] at second
  have unlisted := @IdentityStore.init_of_tracks disk settings.storage.identityPath
    settings.storage.netId [] List.Pairwise.nil empty
  have unlisted' := @GatewayStore.init_of_tracks disk settings.storage.gatewayPath []
    List.Pairwise.nil bare
  obtain rfl := Except.ok.inj (unlisted.symm.trans first)
  obtain rfl := Except.ok.inj (unlisted'.symm.trans second)
  exact ⟨{
    own := own
    ready := Settings.isReady_of_check json checked
    identities := ⟨⟨false, rfl⟩, fun _ => empty⟩
    gateways := ⟨⟨false, rfl⟩, fun _ => bare⟩
    identityOrder := List.Pairwise.nil
    gatewayOrder := List.Pairwise.nil
    identityWire := List.forall_mem_nil _
    gatewayWire := List.forall_mem_nil _ }, rfl⟩

theorem start_of_isKept {d : Directory} (json : settings.storage.backend = .json)
    (checked : settings.check disk = .ok ()) (kept : d.holdings.IsKept settings)
    (identities : d.identities.backing = .file settings.storage.identityPath false)
    (gateways : d.gateways.backing = .file settings.storage.gatewayPath false) (counters : Counters) :
    ∃ t, start settings d.disk counters = .ok t ∧
      t.directory.identities.rows = d.identities.rows.map Identity.readable ∧
      t.directory.gateways.rows = d.gateways.rows := by
  have again := Settings.check_of_isReady json checked kept.ready
  have devices := @IdentityStore.init_of_tracks d.disk settings.storage.identityPath
    settings.storage.netId _ kept.identityOrder (identities ▸ kept.identities.settled identities)
  have stations := @GatewayStore.init_of_tracks d.disk settings.storage.gatewayPath _
    kept.gatewayOrder (gateways ▸ kept.gateways.settled gateways)
  rw [← identityBacking_of_json json] at devices
  rw [← gatewayBacking_of_json json] at stations
  exact ⟨_, start_eq_ok.mpr ⟨again, _, _, devices, stations, rfl⟩, rfl, rfl⟩

/-- Once a service is closed nothing is left to be written. -/
theorem start_of_close {closed : Service} (json : settings.storage.backend = .json)
    (checked : settings.check disk = .ok ()) (kept : s.directory.holdings.IsKept settings)
    (running : s.isClosed = false) (ended : s.close = (closed, .ok ())) (later : Counters) :
    ∃ t, start settings closed.directory.disk later = .ok t ∧
      t.directory.identities.rows = s.directory.identities.rows.map Identity.readable ∧
      t.directory.gateways.rows = s.directory.gateways.rows := by
  obtain ⟨first, second, left⟩ := close_eq_ok running ended
  have saved := kept.flushIdentities
  have devices := kept.identities.clean_of_flush first
  have stations := saved.gateways.clean_of_flush second
  rw [left]
  exact start_of_isKept json checked saved.flushGateways devices stations later

theorem map_readable_eq_self {rows : List Identity} (travel : ∀ i ∈ rows, i.wire = i) :
    rows.map Identity.readable = rows ↔ ∀ i ∈ rows, i.device.name.IsText := by
  have one (i : Identity) (inside : i ∈ rows) : i.readable = i ↔ i.device.name.IsText := by
    constructor
    · intro same
      have travels := congrArg (fun j => j.device.name) (travel i inside)
      have name := congrArg (fun j => j.device.name) same
      exact DeviceName.isText_of_readable travels name
    · intro text
      rw [Identity.readable, DeviceName.readable_of_isText text]
  constructor
  · intro same i inside
    rw [← one i inside]
    have each := List.map_inj_left.mp (same.trans (List.map_id rows).symm)
    exact each i inside
  · intro text
    have each := List.map_congr_left (fun i inside => (one i inside).mpr (text i inside))
    exact each.trans (List.map_id' rows)

/-- State survives a restart, but for names that are no text. After a run of requests and a close that
succeeded, a service with the same settings opens and holds all records in their places: the gateways as
they were, and the devices with what can be read of their names, which is the whole of the name exactly
if it is a text with nothing but NUL behind it. -/
theorem records_survive_restart_but_for_names {closed : Service}
    (json : settings.storage.backend = .json) (own : settings.OwnFiles disk)
    (noIdentities : Backing.loadText disk settings.storage.identityPath = .ok none)
    (noGateways : Backing.loadText disk settings.storage.gatewayPath = .ok none)
    (opened : start settings disk counters = .ok s) (packets : List Packet)
    (ended : (s.answered packets).close = (closed, .ok ())) (later : Counters) :
    ∃ t, start settings closed.directory.disk later = .ok t ∧
      t.directory.gateways.rows = (s.answered packets).directory.gateways.rows ∧
      t.directory.identities.rows =
        (s.answered packets).directory.identities.rows.map Identity.readable ∧
      (t.directory.identities.rows = (s.answered packets).directory.identities.rows ↔
        ∀ i ∈ (s.answered packets).directory.identities.rows, i.device.name.IsText) := by
  obtain ⟨fresh, running⟩ := isKept_of_start json own noIdentities noGateways opened
  have kept : (s.answered packets).directory.holdings.IsKept settings := fresh.run packets
  have still : (s.answered packets).isClosed = false := running
  obtain ⟨t, again, devices, stations⟩ :=
    start_of_close json (start_eq_ok.mp opened).1 kept still ended later
  refine ⟨t, again, stations, devices, ?_⟩
  rw [devices]
  exact map_readable_eq_self kept.identityWire

/-! A service that keeps its records in files, with nothing stored yet. -/

def inFiles : Settings := { storage := { backend := .json } }

def started : Service :=
  ⟨inFiles, ⟨⟨.file "identity.json" false, none, []⟩, ⟨.file "gateway.json" false, []⟩, 42, 42,
    ⟨[], []⟩, default⟩, false⟩

def naming (name : DeviceName) : List Packet :=
  [⟨(Request.assign 42 42 ⟨⟨5⟩, { (default : Device) with name := name }⟩).encode, 22⟩]

theorem started_inFiles : inFiles.storage.backend = .json ∧ inFiles.OwnFiles ⟨[], []⟩ ∧
    Backing.loadText ⟨[], []⟩ inFiles.storage.identityPath = .ok none ∧
    Backing.loadText ⟨[], []⟩ inFiles.storage.gatewayPath = .ok none ∧
    start inFiles ⟨[], []⟩ default = .ok started :=
  ⟨rfl, ⟨by decide, by decide, by decide⟩, rfl, rfl, rfl⟩

theorem named_device_survives_restart :
    start inFiles ⟨[], []⟩ default = .ok started ∧ ∃ closed t,
      (started.answered (naming (.ofText "lab"))).close = (closed, .ok ()) ∧
      start inFiles closed.directory.disk default = .ok t ∧
      t.directory.identities.rows = [⟨⟨5⟩, { (default : Device) with name := .ofText "lab" }⟩] := by
  obtain ⟨json, own, noIdentities, noGateways, opened⟩ := started_inFiles
  have held : (started.answered (naming (.ofText "lab"))).directory.identities.rows =
      [⟨⟨5⟩, { (default : Device) with name := .ofText "lab" }⟩] := by decide +kernel
  have ended := close_of_done (ok_of_toOption
    (by decide +kernel : (started.answered (naming (.ofText "lab"))).close.2.toOption = some ()))
  obtain ⟨t, again, -, -, same⟩ :=
    records_survive_restart_but_for_names json own noIdentities noGateways opened _ ended default
  rw [held] at same
  refine ⟨opened, _, t, ended, again, same.mpr ?_⟩
  simp only [List.mem_singleton, forall_eq]
  exact ⟨"lab".toList, by decide, by decide⟩

def tornName : DeviceName := ⟨⟨[0xFF, 0x41, 0, 0x42, 0, 0, 0, 0], rfl⟩⟩

/-- A device with a torn name has another one after a restart. -/
theorem torn_name_changed_by_restart :
    inFiles.OwnFiles ⟨[], []⟩ ∧ start inFiles ⟨[], []⟩ default = .ok started ∧ ∃ closed t,
      (started.answered (naming tornName)).close = (closed, .ok ()) ∧
      start inFiles closed.directory.disk default = .ok t ∧
      t.directory.identities.rows ≠ (started.answered (naming tornName)).directory.identities.rows := by
  obtain ⟨json, own, noIdentities, noGateways, opened⟩ := started_inFiles
  obtain ⟨fresh, -⟩ := isKept_of_start json own noIdentities noGateways opened
  have held : (started.answered (naming tornName)).directory.identities.rows =
      [⟨⟨5⟩, { (default : Device) with name := tornName }⟩] := by decide +kernel
  have ended := close_of_done (ok_of_toOption
    (by decide +kernel : (started.answered (naming tornName)).close.2.toOption = some ()))
  have kept : (started.answered (naming tornName)).directory.holdings.IsKept inFiles := fresh.run _
  obtain ⟨t, again, devices, -⟩ :=
    start_of_close json (start_eq_ok.mp opened).1 kept rfl ended default
  refine ⟨own, opened, _, t, ended, again, ?_⟩
  rw [devices, held]
  decide +kernel

end Service
end IdentityDirectory
