import IdentityDirectory.Proofs.Json.Reading
import IdentityDirectory.Proofs.Network.EndpointTexts
import IdentityDirectory.Proofs.Record.FieldTexts
import IdentityDirectory.Store.Gateways
import IdentityDirectory.Store.Identities
/-!
Records in JSON. A device comes back from its text with every field it had but its name, which comes back as
what can be read of it, unless its version cannot be read at all; a gateway comes back with everything but the
flow label of its address.
-/
namespace IdentityDirectory

namespace Json

theorem member_of_mem {key : String} {v : Json} {ms : List (String × Json)}
    (distinct : (ms.map Prod.fst).Nodup) (there : (key, v) ∈ ms) : member key ms = some (some v) := by
  have alone : (ms.filter fun m => m.1 = key) = [(key, v)] := by
    induction ms with
    | nil => contradiction
    | cons m ms ih =>
      obtain ⟨fresh, distinct⟩ := List.nodup_cons.mp distinct
      rcases List.mem_cons.mp there with rfl | behind
      · have others : (ms.filter fun m => m.1 = key) = [] := by
          apply List.filter_eq_nil_iff.mpr
          intro n inside same
          exact fresh (List.mem_map.mpr ⟨n, inside, of_decide_eq_true same⟩)
        rw [List.filter_cons_of_pos (by simp), others]
      · have other : m.1 ≠ key := by
          rintro rfl
          exact fresh (List.mem_map.mpr ⟨_, behind, rfl⟩)
        rw [List.filter_cons_of_neg (by simpa using other)]
        exact ih distinct behind
  rw [member, alone]

theorem textOr_of_mem {α : Type} {key text : String} {ms : List (String × Json)} {default a : α}
    {ofText : String → Except FieldError α} (distinct : (ms.map Prod.fst).Nodup)
    (there : (key, string text) ∈ ms) (read : ofText text = .ok a) :
    textOr ms key ofText default = some a := by
  simp only [textOr, member_of_mem distinct there, asText, read, bind, Option.bind]
  rfl

theorem textOr_of_refused {α : Type} {key text : String} {ms : List (String × Json)} {default : α}
    {ofText : String → Except FieldError α} {cause : FieldError}
    (distinct : (ms.map Prod.fst).Nodup) (there : (key, string text) ∈ ms)
    (refused : ofText text = .error cause) : textOr ms key ofText default = none := by
  simp only [textOr, member_of_mem distinct there, asText, refused, bind, Option.bind]
  rfl

theorem isSoundScalar_of_plain {v : Json} (plain : isPlainScalar v = true) : isSoundScalar v = true := by
  cases v <;> first | rfl | contradiction

mutual
theorem all_mono {p q : Json → Bool} (weaker : ∀ v, p v = true → q v = true) (v : Json)
    (holds : v.all p = true) : v.all q = true := by
  match v with
  | null | bool _ | number _ | string _ | broken => exact weaker _ holds
  | array items => exact allItems_mono weaker items holds
  | object members => exact allMembers_mono weaker members holds

theorem allItems_mono {p q : Json → Bool} (weaker : ∀ v, p v = true → q v = true) (vs : List Json)
    (holds : allItems p vs = true) : allItems q vs = true := by
  match vs with
  | [] => rfl
  | v :: vs =>
    obtain ⟨first, others⟩ := Bool.and_eq_true_iff.mp holds
    exact Bool.and_eq_true_iff.mpr ⟨all_mono weaker v first, allItems_mono weaker vs others⟩

theorem allMembers_mono {p q : Json → Bool} (weaker : ∀ v, p v = true → q v = true)
    (ms : List (String × Json)) (holds : allMembers p ms = true) : allMembers q ms = true := by
  match ms with
  | [] => rfl
  | (key, v) :: ms =>
    obtain ⟨first, others⟩ := Bool.and_eq_true_iff.mp holds
    exact Bool.and_eq_true_iff.mpr ⟨all_mono weaker v first, allMembers_mono weaker ms others⟩
end

theorem isSound_of_plain {v : Json} (plain : v.all isPlainScalar = true) (shallow : v.depth ≤ maxDepth) :
    v.isSound = true := by
  have sound := all_mono (fun _ => isSoundScalar_of_plain) v plain
  rw [isSound, sound, decide_eq_true shallow]
  rfl

theorem allItems_map {α : Type} {p : Json → Bool} {f : α → Json} (each : ∀ x, (f x).all p = true)
    (xs : List α) : allItems p (xs.map f) = true := by
  induction xs with
  | nil => rfl
  | cons x xs ih => exact Bool.and_eq_true_iff.mpr ⟨each x, ih⟩

theorem depthItems_map_le {α : Type} {f : α → Json} {n : Nat} (each : ∀ x, (f x).depth ≤ n)
    (xs : List α) : depthItems (xs.map f) ≤ n := by
  induction xs with
  | nil => exact Nat.zero_le n
  | cons x xs ih => exact Nat.max_le.mpr ⟨each x, ih⟩

end Json

namespace Identity

/-- The record with what can be read of its name. -/
def readable (i : Identity) : Identity :=
  { i with device := { i.device with name := i.device.name.readable } }

theorem distinct_members (i : Identity) : (i.members.map Prod.fst).Nodup := by
  have keys : i.members.map Prod.fst = ["addr", "activation", "class", "deveui", "nwkSKey", "appSKey",
    "version", "appeui", "appKey", "nwkKey", "devNonce", "joinNonce", "name"] := rfl
  rw [keys]
  decide

theorem ofJson?_toJson {i : Identity} (writable : i.device.version.IsWritable) :
    ofJson? i.toJson = some i.readable := by
  have field {α : Type} {key text : String} {default a : α} {ofText : String → Except FieldError α}
      (there : (key, Json.string text) ∈ i.members) (read : ofText text = .ok a) :
      Json.textOr i.members key ofText default = some a :=
    Json.textOr_of_mem i.distinct_members there read
  have version := Version.ofText_toText i.device.version
  rw [if_pos writable] at version
  have name : Json.textOr i.members "name" (fun t => .ok (DeviceName.ofText t)) default =
      some i.device.name.readable := field (by simp [members]) rfl
  simp only [ofJson?, toJson, ofMembers?]
  rw [field (by simp [members]) i.addr.ofText_toText,
    field (by simp [members]) i.device.activation.ofText_toText,
    field (by simp [members]) i.device.deviceClass.ofText_toText,
    field (by simp [members]) i.device.devEui.ofText_toText,
    field (by simp [members]) i.device.nwkSKey.ofText_toText,
    field (by simp [members]) i.device.appSKey.ofText_toText,
    field (by simp [members]) version,
    field (by simp [members]) i.device.appEui.ofText_toText,
    field (by simp [members]) i.device.appKey.ofText_toText,
    field (by simp [members]) i.device.nwkKey.ofText_toText,
    field (by simp [members]) i.device.devNonce.ofText_toText,
    field (by simp [members]) i.device.joinNonce.ofText_toText, name]
  rfl

/-- The version is the one field that may be written and not be read. -/
theorem ofJson?_toJson_of_unwritable {i : Identity} (unwritable : ¬ i.device.version.IsWritable) :
    ofJson? i.toJson = none := by
  have version := Version.ofText_toText i.device.version
  rw [if_neg unwritable] at version
  have refused : Json.textOr i.members "version" Version.ofText default = none :=
    Json.textOr_of_refused i.distinct_members (by simp [members]) version
  simp only [ofJson?, toJson, ofMembers?, refused, Option.bind_eq_bind, Option.bind_none,
    Option.bind_fun_none]

theorem plain_toJson (i : Identity) : i.toJson.all Json.isPlainScalar = true := rfl

theorem depth_toJson (i : Identity) : i.toJson.depth = 1 := rfl

theorem plain_rows (rows : List Identity) :
    (Json.array (rows.map toJson)).all Json.isPlainScalar = true :=
  Json.allItems_map plain_toJson rows

theorem sound_rows (rows : List Identity) : (Json.array (rows.map toJson)).isSound = true := by
  have flat : Json.depthItems (rows.map toJson) ≤ 1 :=
    Json.depthItems_map_le (fun i => Nat.le_of_eq i.depth_toJson) rows
  have shallow : (Json.array (rows.map toJson)).depth ≤ Json.maxDepth := by
    rw [Json.depth, Json.maxDepth]
    omega
  exact Json.isSound_of_plain (plain_rows rows) shallow

theorem listOfJsonText?_fileText {rows : List Identity}
    (writable : ∀ i ∈ rows, i.device.version.IsWritable) :
    listOfJsonText? (IdentityStore.fileText rows) = some (rows.map readable) := by
  have each := mapM_map fun i inside => ofJson?_toJson (writable i inside)
  simp only [listOfJsonText?, IdentityStore.fileText, Json.ofText?_toPrettyText _ (plain_rows rows),
    sound_rows rows, ↓reduceIte, Option.bind_eq_bind, Option.bind_some, each]

end Identity

namespace Gateway

def unlabelled (g : Gateway) : Gateway := { g with endpoint := g.endpoint.map Endpoint.unlabelled }

theorem distinct_members (g : Gateway) : (g.members.map Prod.fst).Nodup := by
  have keys : g.members.map Prod.fst = ["gwid", "addr"] := rfl
  rw [keys]
  decide

theorem ofJson?_toJson (g : Gateway) : ofJson? g.toJson = some g.unlabelled := by
  have id := Json.member_of_mem g.distinct_members (List.mem_cons_self)
  obtain ⟨eui, endpoint⟩ := g
  cases endpoint with
  | none =>
    have addr := Json.member_of_mem (distinct_members ⟨eui, none⟩)
      (List.mem_cons_of_mem _ List.mem_cons_self)
    simp only [ofJson?, toJson, Json.textOrNull, id, addr, Json.asText, Eui.ofText_toText, bind,
      Option.bind]
    rfl
  | some e =>
    have addr := Json.member_of_mem (distinct_members ⟨eui, some e⟩)
      (List.mem_cons_of_mem _ List.mem_cons_self)
    simp only [ofJson?, toJson, Json.textOrNull, id, addr, Json.asText, Json.asEndpoint,
      Eui.ofText_toText, Endpoint.ofText?_toText, bind, Option.bind]
    rfl

theorem plain_toJson (g : Gateway) : g.toJson.all Json.isPlainScalar = true := by
  obtain ⟨eui, endpoint⟩ := g
  cases endpoint <;> rfl

theorem listOfJsonText?_fileText (rows : List Gateway) :
    listOfJsonText? (GatewayStore.fileText rows) = some (rows.map unlabelled) := by
  have plain : (Json.array (rows.map toJson)).all Json.isPlainScalar = true :=
    Json.allItems_map plain_toJson rows
  have each : (rows.map toJson).mapM ofJson? = some (rows.map unlabelled) :=
    mapM_map fun g _ => ofJson?_toJson g
  simp only [listOfJsonText?, GatewayStore.fileText, Json.ofText?_toPrettyText _ plain,
    Option.bind_eq_bind, Option.bind_some, each]

end Gateway
end IdentityDirectory
