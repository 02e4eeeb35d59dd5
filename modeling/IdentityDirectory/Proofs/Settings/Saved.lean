import IdentityDirectory.Proofs.Record.HexTexts
import IdentityDirectory.Proofs.Settings.Check
import IdentityDirectory.Proofs.Toml.Documents
import IdentityDirectory.Settings.File
/-!
Settings that are saved are loaded again. Every setting has a text of its own that is read back, and one
that is not given is not written, so that it is not given afterwards.
-/
namespace IdentityDirectory
open Text Toml

theorem AccessCode.ofText_toText (code : UInt64) : AccessCode.ofText (toText code) = .ok code := by
  have digits := isNumeral_hexFixed (code.toNat.log2 / 4 + 1) code.toNat
  have small := dropLead_numeral digits '0' (b := 'x') rfl
  have capital := dropLead_numeral digits '0' (b := 'X') rfl
  have read := readUnsigned_hexShort (Nat.le_of_lt_succ code.toNat_lt)
  rw [hexShort] at read
  simp only [ofText, toText, hexShort, String.toList_ofList, trim_numeral digits, small, capital, read,
    UInt64.ofNat_toNat]

theorem ListenerMode.ofName?_name (m : ListenerMode) : ofName? m.name = some m := by
  cases m <;> decide

theorem BackendKind.ofName?_name (b : BackendKind) : ofName? b.name = some b := by
  cases b <;> decide

theorem LogLevel.ofText?_name (l : LogLevel) : ofText? l.name = some l := by
  cases l <;> decide

theorem Duration.ofMillis_millis {d : Duration} (whole : millisecond ∣ d.nanoseconds)
    (short : d.millis < 2 ^ 64) : ofMillis (UInt64.ofNat d.millis) = d := by
  obtain ⟨seconds, nanos⟩ := d
  have most := nanos.isLt
  have count : (UInt64.ofNat (millis ⟨seconds, nanos⟩)).toNat = millis ⟨seconds, nanos⟩ :=
    UInt64.toNat_ofNat_of_lt' short
  simp only [millis, nanoseconds, millisecond] at whole count short
  have front : UInt64.ofNat (1000 * seconds.toNat + nanos.val / 1000000) / 1000 = seconds := by
    have thousand : (1000 : UInt64).toNat = 1000 := rfl
    apply UInt64.toNat.inj
    rw [UInt64.toNat_div, count, thousand]
    omega
  have rest : (1000 * seconds.toNat + nanos.val / 1000000) % 1000 * 1000000 = nanos.val := by omega
  simp only [ofMillis, millis, front, count, rest]
  exact congrArg (Duration.mk seconds) (Fin.ext (Nat.mod_eq_of_lt most))

namespace Settings

/-! Each value is read from the scalar that is written for it. -/

theorem asCount_toNat (n : UInt64) : asCount (.scalar (.integer n.toNat)) = some n := by
  have most : (n.toNat : Int) ≤ 0xFFFFFFFFFFFFFFFF := by
    have bound := n.toNat_lt
    omega
  simp [asCount, asInt, most]

theorem asCode_toInt (n : Int32) :
    (asInt (-0x80000000) 0x7FFFFFFF (.scalar (.integer n.toInt))).map Int32.ofInt = some n := by
  have least : -0x80000000 ≤ n.toInt := n.le_toInt
  have most : n.toInt ≤ 0x7FFFFFFF := Int.le_of_lt_add_one n.toInt_lt
  simp [asInt, least, most]

theorem asAccessCode_toText (code : UInt64) :
    asAccessCode (.scalar (.string (AccessCode.toText code))) = some code := by
  simp [asAccessCode, asText, AccessCode.ofText_toText, Except.toOption]

theorem asNetId_toText (n : NetId) : asNetId (.scalar (.string n.toText)) = some n := by
  simp [asNetId, asText, NetId.ofText_toText, Except.toOption]

/-! Each section is read from the table that it is read as. -/

theorem readServer_member {s : ServerSettings} (kept : Duration.ofMillis s.pollMillis = s.pollInterval) :
    readServer (serverSection s).member.2 = some s := by
  obtain ⟨address, mode, tcpEnabled, jsonAddress, responseCapacity, pollInterval⟩ := s
  cases jsonAddress <;>
    simp [readServer, sectionMembers, Section.member, serverSection, optional, readOr, Members.find?,
      asText, asChoice, asFlag, asCount_toNat, ListenerMode.ofName?_name, kept]

theorem readAuth_member (s : AuthSettings) : readAuth (authSection s).member.2 = some s := by
  simp [readAuth, sectionMembers, Section.member, authSection, readOr, Members.find?, asCode_toInt,
    asAccessCode_toText]

theorem readStorage_member (s : StorageSettings) : readStorage (storageSection s).member.2 = some s := by
  obtain ⟨backend, identityPath, gatewayPath, netId⟩ := s
  cases netId <;>
    simp [readStorage, sectionMembers, Section.member, storageSection, optional, readOr, Members.find?,
      asText, asChoice, asNetId_toText, BackendKind.ofName?_name]

theorem readLogging_member (s : LoggingSettings) : readLogging (loggingSection s).member.2 = some s := by
  obtain ⟨appName, level, toConsole, toFile, filePath, jsonFormat⟩ := s
  cases filePath <;>
    simp [readLogging, sectionMembers, Section.member, loggingSection, optional, readOr, Members.find?,
      asText, asFlag, LogLevel.ofText?_name]

theorem ofMembers?_sections {s : Settings}
    (kept : Duration.ofMillis s.server.pollMillis = s.server.pollInterval) :
    ofMembers? (s.sections.map Section.member) = some s := by
  have server : Members.find? "server" (s.sections.map Section.member) =
      some (serverSection s.server).member.2 := rfl
  have auth : Members.find? "auth" (s.sections.map Section.member) =
      some (authSection s.auth).member.2 := rfl
  have storage : Members.find? "storage" (s.sections.map Section.member) =
      some (storageSection s.storage).member.2 := rfl
  have logging : Members.find? "logging" (s.sections.map Section.member) =
      some (loggingSection s.logging).member.2 := rfl
  simp only [ofMembers?, readOr, server, auth, storage, logging, readServer_member kept, readAuth_member,
    readStorage_member, readLogging_member, Option.bind_eq_bind, Option.bind_some, Option.pure_def]

/-! The sections are plain, so that they can be read at all. -/

theorem isPlain_serverSection (s : ServerSettings) : (serverSection s).IsPlain := by
  have name : IsBareName "server" := by decide +kernel
  have listed : (serverSection s).keys.Sublist serverNames := by
    cases json : s.jsonAddress <;> simp [serverSection, Section.keys, serverNames, optional, json]
  exact Section.isPlain_of_sublist name listed (by decide +kernel) (by decide)

theorem isPlain_authSection (s : AuthSettings) : (authSection s).IsPlain := by
  have name : IsBareName "auth" := by decide +kernel
  have listed : (authSection s).keys.Sublist ["code", "access_code"] := List.Sublist.refl _
  exact Section.isPlain_of_sublist name listed (by decide +kernel) (by decide)

theorem isPlain_storageSection (s : StorageSettings) : (storageSection s).IsPlain := by
  have name : IsBareName "storage" := by decide +kernel
  have listed : (storageSection s).keys.Sublist ["backend", "identity_path", "gateway_path", "net_id"] := by
    cases net : s.netId <;> simp [storageSection, Section.keys, optional, net]
  exact Section.isPlain_of_sublist name listed (by decide +kernel) (by decide)

theorem isPlain_loggingSection (s : LoggingSettings) : (loggingSection s).IsPlain := by
  have name : IsBareName "logging" := by decide +kernel
  have listed : (loggingSection s).keys.Sublist loggingNames := by
    cases file : s.filePath <;> simp [loggingSection, Section.keys, loggingNames, optional, file]
  exact Section.isPlain_of_sublist name listed (by decide +kernel) (by decide)

theorem isPlain_sections (s : Settings) : ∀ c ∈ s.sections, c.IsPlain := by
  intro c member
  simp only [sections, List.mem_cons, List.not_mem_nil, or_false] at member
  rcases member with rfl | rfl | rfl | rfl
  · exact isPlain_serverSection s.server
  · exact isPlain_authSection s.auth
  · exact isPlain_storageSection s.storage
  · exact isPlain_loggingSection s.logging

theorem isInRange_ofNat {n : Nat} (small : n ≤ 0x7FFFFFFFFFFFFFFF) : isInRange n = true := by
  simp only [isInRange, Bool.and_eq_true, decide_eq_true_eq]
  omega

theorem isInRange_toInt (n : Int32) : isInRange n.toInt = true := by
  have least : -2 ^ 31 ≤ n.toInt := n.le_toInt
  have most : n.toInt < 2 ^ 31 := n.toInt_lt
  simp only [isInRange, Bool.and_eq_true, decide_eq_true_eq]
  omega

/-- Only the capacity and the poll interval can be too large to be written. -/
theorem exists_toToml? {s : Settings} (capacity : s.server.responseCapacity.toNat ≤ 0x7FFFFFFFFFFFFFFF)
    (poll : s.server.pollMillis.toNat ≤ 0x7FFFFFFFFFFFFFFF) : ∃ text, s.toToml? = some text := by
  have low := isInRange_ofNat capacity
  have short := isInRange_ofNat poll
  have code := isInRange_toInt s.auth.code
  apply exists_toText?
  simp only [sections, List.forall_mem_cons]
  refine ⟨?_, ?_, ?_, ?_, nofun⟩
  · cases json : s.server.jsonAddress <;> simp [serverSection, optional, json, low, short]
  · simp [authSection, code]
  · cases net : s.storage.netId <;> simp [storageSection, optional, net]
  · cases file : s.logging.filePath <;> simp [loggingSection, optional, file]

theorem ofToml_toToml? {s : Settings} {text : String}
    (kept : Duration.ofMillis s.server.pollMillis = s.server.pollInterval)
    (written : s.toToml? = some text) : ofToml text = .ok s := by
  have names : (s.sections.map Section.name).Nodup := by
    have listed : s.sections.map Section.name = ["server", "auth", "storage", "logging"] := rfl
    rw [listed]
    decide
  have read := ofText?_toText? (isPlain_sections s) names written
  simp only [ofToml, read, Option.bind_some, ofMembers?_sections kept]

theorem load_of_save {s : Settings} {d e : Disk} {path text : String} (written : s.toToml? = some text)
    (saved : s.save d path = .ok e) : load e path = ofToml text := by
  simp only [save, written] at saved
  cases put : d.write path (utf8 text.toList) with
  | none =>
    rw [put] at saved
    contradiction
  | some f =>
    rw [put] at saved
    obtain rfl := Except.ok.inj saved
    simp only [load, Disk.lookup_of_write put, ofUtf8?_utf8, String.ofList_toList]

/-- Settings whose numbers can be written, with a poll interval of whole milliseconds, are read back as
they were, whatever texts they hold and whether or not what is optional is given. What is loaded is
written as the same text again, and what is saved in a file is loaded from it. -/
theorem saved_settings_loaded {s : Settings}
    (capacity : s.server.responseCapacity.toNat ≤ 2 ^ 63 - 1)
    (poll : s.server.pollInterval.millis ≤ 2 ^ 63 - 1)
    (whole : Duration.millisecond ∣ s.server.pollInterval.nanoseconds) :
    ∃ text, s.toToml? = some text ∧ ofToml text = .ok s ∧
      (∀ t, ofToml text = .ok t → t.toToml? = some text) ∧
      ∀ (d e : Disk) (path : String), s.save d path = .ok e → load e path = .ok s := by
  have short : s.server.pollInterval.millis < 2 ^ 64 := by omega
  have count : s.server.pollMillis.toNat = s.server.pollInterval.millis :=
    UInt64.toNat_ofNat_of_lt' short
  have kept : Duration.ofMillis s.server.pollMillis = s.server.pollInterval :=
    Duration.ofMillis_millis whole short
  obtain ⟨text, written⟩ := exists_toToml? capacity (count ▸ poll)
  have read := ofToml_toToml? kept written
  refine ⟨text, written, read, ?_, ?_⟩
  · intro t loaded
    obtain rfl := Except.ok.inj (read.symm.trans loaded)
    exact written
  · intro d e path saved
    rw [load_of_save written saved, read]

theorem odd_settings_loaded :
    let s : Settings :=
      { server :=
          { address := "\"\"\"'''\\", jsonAddress := some "a\nb''\x07",
            responseCapacity := 0x7FFFFFFFFFFFFFFF, pollInterval := ⟨3, 141000000⟩ },
        auth := { code := -0x80000000, accessCode := 0xFFFFFFFFFFFFFFFF },
        logging := { filePath := some "" } }
    s.server.responseCapacity.toNat ≤ 2 ^ 63 - 1 ∧ s.server.pollInterval.millis ≤ 2 ^ 63 - 1 ∧
      Duration.millisecond ∣ s.server.pollInterval.nanoseconds ∧
        ∃ text, s.toToml? = some text ∧ ofToml text = .ok s := by
  intro s
  have capacity : s.server.responseCapacity.toNat ≤ 2 ^ 63 - 1 := by decide
  have poll : s.server.pollInterval.millis ≤ 2 ^ 63 - 1 := by decide
  have whole : Duration.millisecond ∣ s.server.pollInterval.nanoseconds := by decide
  obtain ⟨text, written, read, -⟩ := saved_settings_loaded capacity poll whole
  exact ⟨capacity, poll, whole, text, written, read⟩

end Settings
end IdentityDirectory
