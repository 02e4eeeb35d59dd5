import Mathlib.Tactic.Tauto
import IdentityDirectory.Proofs.Store.Disk
import IdentityDirectory.Proofs.Text.Utf8
import IdentityDirectory.Proofs.Wire.Shedding
import IdentityDirectory.Settings.Check
/-!
What the check of settings asks for. Each rule finds nothing wrong exactly if a setting keeps to its
bounds; the bound on the poll interval is the one of ten seconds, but counted in whole seconds.
-/
namespace IdentityDirectory
open Disk

namespace Duration

def nanoseconds (d : Duration) : Nat := 1000000000 * d.seconds.toNat + d.nanos.val

def millisecond : Nat := 1000000

def second : Nat := 1000 * millisecond

theorem millis_lt_iff {d : Duration} {n : Nat} : d.millis < n ↔ d.nanoseconds < n * millisecond := by
  have short := d.nanos.isLt
  simp only [millis, nanoseconds, millisecond]
  omega

theorem seconds_lt_iff {d : Duration} {n : UInt64} :
    n < d.seconds ↔ (n.toNat + 1) * second ≤ d.nanoseconds := by
  have short := d.nanos.isLt
  rw [UInt64.lt_iff_toNat_lt]
  simp only [nanoseconds, second, millisecond]
  omega

end Duration

namespace Settings

theorem when_eq_nil {condition : Bool} {v : Violation} :
    Violation.when condition v = [] ↔ condition = false := by
  cases condition <;> simp [Violation.when]

theorem missing_eq_nil {d : Disk} {path : String} {missing : String → Violation} :
    (match Path.folder? path with
      | none => []
      | some folder => Violation.when (!d.has folder) (missing folder)) = [] ↔ d.IsReady path := by
  unfold IsReady
  cases Path.folder? path with
  | none => simp
  | some folder => simp [when_eq_nil]

theorem pathViolations_eq_nil {d : Disk} {file : StoreFile} {path : String} :
    StorageSettings.pathViolations d file path = [] ↔ path.isEmpty = false ∧ d.IsReady path := by
  rw [StorageSettings.pathViolations]
  cases path.isEmpty with
  | true => simp
  | false =>
    have missing := @missing_eq_nil d path Violation.storeFolderMissing
    exact ⟨fun none => ⟨rfl, missing.mp none⟩, fun ready => missing.mpr ready.2⟩

theorem fileViolations_eq_nil {d : Disk} {s : LoggingSettings} :
    s.fileViolations d = [] ↔
      (s.toFile = true → ∃ path, s.filePath = some path ∧ d.IsReady path) := by
  rw [LoggingSettings.fileViolations]
  cases s.toFile with
  | false => simp
  | true =>
    cases s.filePath with
    | none => simp
    | some path =>
      have missing := @missing_eq_nil d path Violation.logFolderMissing
      simp only [Bool.not_true, Bool.false_eq_true, ↓reduceIte, forall_const, Option.some.injEq,
        exists_eq_left']
      exact missing

theorem check_eq_ok {d : Disk} {s : Settings} : s.check d = .ok () ↔ s.violations d = [] := by
  unfold check
  split <;> simp_all

end Settings

namespace ServerSettings
open Settings

theorem addressViolations_eq_nil {s : ServerSettings} :
    s.addressViolations = [] ↔ ∃ e, Endpoint.ofText? s.address = some e := by
  rw [addressViolations]
  split
  · rename_i empty
    have none : Endpoint.ofText? s.address = none := by
      rw [String.isEmpty_iff.mp empty]
      decide
    simp [none]
  · rw [when_eq_nil, Option.isNone_eq_false_iff, Option.isSome_iff_exists]

def HasOwnJson (s : ServerSettings) : Prop :=
  ∀ text, s.jsonAddress = some text →
    ∃ e, Endpoint.ofText? text = some e ∧ (s.tcpEnabled = true → Endpoint.ofText? s.address ≠ some e)

theorem jsonViolations_eq_nil {s : ServerSettings} : s.jsonViolations = [] ↔ s.HasOwnJson := by
  unfold jsonViolations HasOwnJson
  cases s.jsonAddress with
  | none => simp
  | some text =>
    cases read : Endpoint.ofText? text with
    | none => simp [read]
    | some e =>
      have other : (some e = Endpoint.ofText? s.address) ↔ Endpoint.ofText? s.address = some e := eq_comm
      simp [read, when_eq_nil, other]

theorem capacityViolations_eq_nil {s : ServerSettings} :
    s.capacityViolations = [] ↔ 22 ≤ s.responseCapacity.toNat ∧ s.responseCapacity.toNat ≤ 65507 := by
  simp only [capacityViolations]
  split
  · rename_i small
    simp only [List.cons_ne_nil, false_iff]
    omega
  · rename_i large
    rw [when_eq_nil, decide_eq_false_iff_not]
    omega

/-- Whole seconds are counted, so all of the eleventh is let through. -/
theorem pollViolations_eq_nil {s : ServerSettings} :
    s.pollViolations = [] ↔
      10 * Duration.millisecond ≤ s.pollInterval.nanoseconds ∧
        s.pollInterval.nanoseconds < 11 * Duration.second := by
  simp only [pollViolations, Duration.millis_lt_iff]
  split
  · rename_i small
    simp only [List.cons_ne_nil, false_iff]
    omega
  · rename_i large
    have ten : (10 : UInt64).toNat + 1 = 11 := rfl
    rw [when_eq_nil, decide_eq_false_iff_not, Duration.seconds_lt_iff, ten]
    omega

end ServerSettings

namespace LoggingSettings
open Settings

theorem nameViolations_eq_nil {s : LoggingSettings} :
    s.nameViolations = [] ↔
      1 ≤ (Text.utf8 s.appName.toList).length ∧ (Text.utf8 s.appName.toList).length ≤ 64 := by
  rw [Text.length_utf8]
  simp only [nameViolations]
  split
  · rename_i empty
    simp only [List.cons_ne_nil, false_iff]
    omega
  · rename_i filled
    rw [when_eq_nil, decide_eq_false_iff_not]
    omega

end LoggingSettings

namespace Settings

/-- The bounds that settings have to keep to, but for the poll interval. -/
structure IsSound (s : Settings) : Prop where
  address : ∃ e, Endpoint.ofText? s.server.address = some e
  json : s.server.HasOwnJson
  capacity : 22 ≤ s.server.responseCapacity.toNat ∧ s.server.responseCapacity.toNat ≤ 65507
  paths : s.storage.backend = .json →
    s.storage.identityPath ≠ "" ∧ s.storage.gatewayPath ≠ "" ∧
      ¬ Path.IsSame s.storage.identityPath s.storage.gatewayPath
  appName : 1 ≤ (Text.utf8 s.logging.appName.toList).length ∧
    (Text.utf8 s.logging.appName.toList).length ≤ 64
  logFile : s.logging.toFile = true → ∃ path, s.logging.filePath = some path
  output : s.logging.toConsole = true ∨ s.logging.toFile = true

structure HasFolders (s : Settings) (d : Disk) : Prop where
  stores : s.storage.backend = .json → d.IsReady s.storage.identityPath ∧ d.IsReady s.storage.gatewayPath
  log : s.logging.toFile = true → ∀ path, s.logging.filePath = some path → d.IsReady path

theorem storageViolations_eq_nil {s : StorageSettings} {d : Disk} :
    s.violations d = [] ↔
      (s.backend = .json →
        s.identityPath ≠ "" ∧ s.gatewayPath ≠ "" ∧ ¬ Path.IsSame s.identityPath s.gatewayPath) ∧
      (s.backend = .json → d.IsReady s.identityPath ∧ d.IsReady s.gatewayPath) := by
  unfold StorageSettings.violations
  cases s.backend with
  | memory => simp
  | json =>
    simp only [List.append_eq_nil_iff, pathViolations_eq_nil, when_eq_nil, decide_eq_false_iff_not,
      String.isEmpty_eq_false_iff, forall_const]
    tauto

theorem violations_eq_nil_iff {s : Settings} {d : Disk} :
    s.violations d = [] ↔
      s.IsSound ∧ 10 * Duration.millisecond ≤ s.server.pollInterval.nanoseconds ∧
        s.server.pollInterval.nanoseconds < 11 * Duration.second ∧ s.HasFolders d := by
  have output : (!s.logging.toConsole && !s.logging.toFile) = false ↔
      s.logging.toConsole = true ∨ s.logging.toFile = true := by
    cases s.logging.toConsole <;> cases s.logging.toFile <;> decide
  simp only [violations, ServerSettings.violations, LoggingSettings.violations, List.append_eq_nil_iff,
    ServerSettings.addressViolations_eq_nil, ServerSettings.jsonViolations_eq_nil,
    ServerSettings.capacityViolations_eq_nil, ServerSettings.pollViolations_eq_nil,
    storageViolations_eq_nil, LoggingSettings.nameViolations_eq_nil, fileViolations_eq_nil, when_eq_nil,
    output]
  constructor
  · rintro ⟨⟨⟨⟨⟨address, json⟩, capacity⟩, low, high⟩, paths, stores⟩, ⟨name, file⟩, output⟩
    have logFile (toFile : s.logging.toFile = true) : ∃ path, s.logging.filePath = some path :=
      (file toFile).imp fun _ there => there.1
    have log (toFile : s.logging.toFile = true) (path : String)
        (given : s.logging.filePath = some path) : d.IsReady path := by
      obtain ⟨other, named, ready⟩ := file toFile
      rw [given, Option.some_inj] at named
      rwa [named]
    exact ⟨⟨address, json, capacity, paths, name, logFile, output⟩, low, high, stores, log⟩
  · rintro ⟨sound, low, high, folders⟩
    have file (toFile : s.logging.toFile = true) :
        ∃ path, s.logging.filePath = some path ∧ d.IsReady path := by
      obtain ⟨path, given⟩ := sound.logFile toFile
      exact ⟨path, given, folders.log toFile path given⟩
    exact ⟨⟨⟨⟨⟨sound.address, sound.json⟩, sound.capacity⟩, low, high⟩, sound.paths, folders.stores⟩,
      ⟨sound.appName, file⟩, sound.output⟩

theorem endpoint_of_sound {s : Settings} (sound : s.IsSound) : ∃ e, s.server.endpoint = .ok e := by
  obtain ⟨e, read⟩ := sound.address
  exact ⟨e, by rw [ServerSettings.endpoint, read]⟩

theorem jsonEndpoint_of_sound {s : Settings} (sound : s.IsSound) :
    ∃ e, s.server.jsonEndpoint = .ok e ∧ e.isSome = s.server.jsonAddress.isSome := by
  unfold ServerSettings.jsonEndpoint
  cases given : s.server.jsonAddress with
  | none => exact ⟨none, rfl, rfl⟩
  | some text =>
    obtain ⟨e, read, -⟩ := sound.json text given
    exact ⟨some e, by simp only [read], rfl⟩

/-- With the folders in place, the check passes exactly if the settings keep to their bounds, where the
poll interval may be anything from ten milliseconds to just below eleven seconds. Settings that pass name
addresses that can be listened at, and leave room for every acknowledgement. -/
theorem check_keeps_bounds (s : Settings) (d : Disk) :
    (s.check d = .ok () ↔ s.violations d = []) ∧
    (s.HasFolders d →
      (s.violations d = [] ↔
        s.IsSound ∧ 10 * Duration.millisecond ≤ s.server.pollInterval.nanoseconds ∧
          s.server.pollInterval.nanoseconds < 11 * Duration.second)) ∧
    (s.violations d = [] →
      (∃ e, s.server.endpoint = .ok e) ∧
      (∃ e, s.server.jsonEndpoint = .ok e ∧ e.isSome = s.server.jsonAddress.isSome) ∧
      ∀ h offset size code, (Response.operation h offset size code).fit s.server.responseCapacity.toNat =
        .whole (Response.operation h offset size code)) := by
  refine ⟨check_eq_ok, ?_, ?_⟩
  · intro folders
    rw [violations_eq_nil_iff]
    constructor
    · rintro ⟨sound, low, high, -⟩
      exact ⟨sound, low, high⟩
    · rintro ⟨sound, low, high⟩
      exact ⟨sound, low, high, folders⟩
  · intro fine
    obtain ⟨sound, -⟩ := violations_eq_nil_iff.mp fine
    refine ⟨endpoint_of_sound sound, jsonEndpoint_of_sound sound, ?_⟩
    intro h offset size code
    exact Response.fit_of_fits sound.capacity.1

theorem shortest_poll_passes :
    let s : Settings :=
      { server := { pollInterval := .ofMillis 10, jsonAddress := some "[::1]:4246" },
        storage := { backend := .json } }
    let d : Disk := ⟨[], []⟩
    s.HasFolders d ∧ s.violations d = [] ∧ s.check d = .ok () ∧ s.IsSound ∧
      ∃ e, s.server.jsonEndpoint = .ok e ∧ e.isSome = true := by
  intro s d
  have fine : s.violations d = [] := by decide +kernel
  obtain ⟨-, -, -, folders⟩ := violations_eq_nil_iff.mp fine
  obtain ⟨passes, bounds, promised⟩ := check_keeps_bounds s d
  exact ⟨folders, fine, passes.mpr fine, ((bounds folders).mp fine).1, (promised fine).2.1⟩

/-- A poll interval of 10.999 seconds passes, though ten seconds are the most that is asked for. -/
theorem long_poll_accepted :
    let s : Settings := { server := { pollInterval := .ofMillis 10999 } }
    let d : Disk := ⟨[], []⟩
    s.HasFolders d ∧ s.violations d = [] ∧
      ¬ (s.violations d = [] ↔
        s.IsSound ∧ 10 * Duration.millisecond ≤ s.server.pollInterval.nanoseconds ∧
          s.server.pollInterval.nanoseconds ≤ 10 * Duration.second) := by
  intro s d
  have fine : s.violations d = [] := by decide +kernel
  obtain ⟨-, -, -, folders⟩ := violations_eq_nil_iff.mp fine
  refine ⟨folders, fine, fun bounds => ?_⟩
  have most : s.server.pollInterval.nanoseconds ≤ 10 * Duration.second := (bounds.mp fine).2.2
  exact absurd most (by decide)

end Settings
end IdentityDirectory
