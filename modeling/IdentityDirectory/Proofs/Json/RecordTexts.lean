import IdentityDirectory.Proofs.Json.Records
import IdentityDirectory.Proofs.Text.Lenient
/-!
What the JSON text of a record keeps, on one line or indented. All of a device but its name; of the name the
first eight bytes of its lenient reading, so that a name that is text stays as it is. A device with a version
that cannot be read back spoils its text and every array it stands in. Gateways come back as they are.
-/
namespace IdentityDirectory

def Json.texts (v : Json) : List String := [v.toText, v.toPrettyText]

theorem Json.ofText?_of_texts {v : Json} (plain : v.all isPlainScalar = true) {text : String}
    (written : text ∈ v.texts) : ofText? text = some v := by
  simp only [texts, List.mem_cons, List.not_mem_nil, or_false] at written
  rcases written with rfl | rfl
  · exact ofText?_toText v plain
  · exact ofText?_toPrettyText v plain

namespace DeviceName

/-- The bytes of a name in front of its first NUL, or all of them. -/
def front (n : DeviceName) : Bytes := n.octets.bytes.takeWhile (· ≠ 0)

theorem exists_lenient (n : DeviceName) :
    ∃ s, Text.Lenient n.front s ∧
      n.readable.octets.bytes = (Text.utf8 s ++ List.replicate 8 0).take 8 := by
  refine ⟨Text.lossy n.front, Text.lenient_lossy _, ?_⟩
  rw [readable, ofText, toText, String.toList_ofList]
  rfl

theorem isText_of_front {n : DeviceName} {s : List Char} (encoded : n.front = Text.utf8 s)
    (clear : ∀ x ∈ n.octets.bytes.dropWhile (· ≠ 0), x = 0) : n.IsText := by
  have whole : n.octets.bytes = Text.utf8 s ++ n.octets.bytes.dropWhile (· ≠ 0) := by
    rw [← encoded]
    exact List.takeWhile_append_dropWhile.symm
  have size := congrArg List.length whole
  rw [n.octets.length_eq, List.length_append] at size
  refine ⟨s, fun nul => ?_, ?_⟩
  · -- a NUL character would be a NUL byte in front of the first one
    have byte : 0 ∈ n.front := by
      rw [encoded]
      exact List.mem_flatMap.mpr ⟨_, nul, by decide⟩
    have other := List.mem_takeWhile_imp byte
    contradiction
  · rw [List.eq_replicate_of_mem clear] at whole
    rw [whole]
    congr 2
    omega

end DeviceName

namespace Identity

theorem ofJsonText?_of_texts (i : Identity) {text : String} (written : text ∈ i.toJson.texts) :
    ofJsonText? text = ofJson? i.toJson := by
  have sound := Json.isSound_of_plain i.plain_toJson (Nat.le_trans (Nat.le_of_eq i.depth_toJson) (by decide))
  simp only [ofJsonText?, Json.ofText?_of_texts i.plain_toJson written, sound, ↓reduceIte,
    Option.bind_eq_bind, Option.bind_some]

theorem listOfJsonText?_of_refused {text : String} {items : List Json} {v : Json}
    (read : Json.ofText? text = some (.array items)) (there : v ∈ items) (refused : ofJson? v = none) :
    listOfJsonText? text = none := by
  simp only [listOfJsonText?, read, Option.bind_eq_bind, Option.bind_some,
    mapM_eq_none_of_mem there refused, ite_self]

end Identity

namespace Gateway

def IsUnlabelled (g : Gateway) : Prop :=
  ∀ ip port flow scope, g.endpoint = some (.v6 ip port flow scope) → flow = 0

theorem unlabelled_eq {g : Gateway} (free : g.IsUnlabelled) : g.unlabelled = g := by
  obtain ⟨id, endpoint⟩ := g
  rcases endpoint with _ | ⟨ip, port⟩ | ⟨ip, port, flow, scope⟩
  · rfl
  · rfl
  · obtain rfl := free ip port flow scope rfl
    rfl

theorem ofJsonText?_of_texts (g : Gateway) {text : String} (written : text ∈ g.toJson.texts) :
    ofJsonText? text = some g.unlabelled := by
  simp only [ofJsonText?, Json.ofText?_of_texts g.plain_toJson written, ofJson?_toJson,
    Option.bind_eq_bind, Option.bind_some]

end Gateway

/-- What the texts of a device and of a gateway keep. The device comes back if its version can be read, with
a name of eight bytes from the lenient reading of its front, which is the same name if that front is text and
nothing but NUL stands behind it. If its version cannot be read, neither can its text nor any array that
holds it. The gateway comes back if its address has no flow label. -/
theorem record_texts_keep (i : Identity) (g : Gateway) :
    (i.device.version.IsWritable →
      (∃ name : DeviceName,
        (∀ text ∈ i.toJson.texts,
          Identity.ofJsonText? text = some { i with device := { i.device with name := name } }) ∧
        ∃ s, Text.Lenient i.device.name.front s ∧
          name.octets.bytes = (Text.utf8 s ++ List.replicate 8 0).take 8) ∧
      ((∃ s, i.device.name.front = Text.utf8 s) →
        (∀ x ∈ i.device.name.octets.bytes.dropWhile (· ≠ 0), x = 0) →
          ∀ text ∈ i.toJson.texts, Identity.ofJsonText? text = some i)) ∧
    (¬ i.device.version.IsWritable →
      (∀ text ∈ i.toJson.texts, Identity.ofJsonText? text = none) ∧
      (∀ rows : List Identity, i ∈ rows → ∀ text ∈ (Json.array (rows.map Identity.toJson)).texts,
        Identity.listOfJsonText? text = none) ∧
      ∀ text items, Json.ofText? text = some (.array items) → i.toJson ∈ items →
        Identity.listOfJsonText? text = none) ∧
    (g.IsUnlabelled → ∀ text ∈ g.toJson.texts, Gateway.ofJsonText? text = some g) := by
  refine ⟨fun writable => ⟨?_, ?_⟩, fun unwritable => ⟨?_, ?_, ?_⟩, fun free text written => ?_⟩
  · refine ⟨i.device.name.readable, fun text written => ?_, i.device.name.exists_lenient⟩
    rw [i.ofJsonText?_of_texts written, Identity.ofJson?_toJson writable]
    rfl
  · rintro ⟨s, encoded⟩ clear text written
    have same := DeviceName.readable_of_isText (DeviceName.isText_of_front encoded clear)
    rw [i.ofJsonText?_of_texts written, Identity.ofJson?_toJson writable, Identity.readable, same]
  · intro text written
    rw [i.ofJsonText?_of_texts written, Identity.ofJson?_toJson_of_unwritable unwritable]
  · intro rows there text written
    have read := Json.ofText?_of_texts (Identity.plain_rows rows) written
    exact Identity.listOfJsonText?_of_refused read (List.mem_map_of_mem there)
      (Identity.ofJson?_toJson_of_unwritable unwritable)
  · intro text items read there
    exact Identity.listOfJsonText?_of_refused read there
      (Identity.ofJson?_toJson_of_unwritable unwritable)
  · rw [g.ofJsonText?_of_texts written, Gateway.unlabelled_eq free]

theorem broken_name_cut :
    let n : DeviceName := ⟨⟨List.replicate 8 0xFF, rfl⟩⟩
    let m : DeviceName := ⟨⟨[0xEF, 0xBF, 0xBD, 0xEF, 0xBF, 0xBD, 0xEF, 0xBF], rfl⟩⟩
    let i : Identity := ⟨⟨7⟩, { (default : Device) with name := n }⟩
    let g : Gateway := ⟨⟨1⟩, some (.v6 (Octets.zero 16) 1700 0 5)⟩
    (∀ text ∈ i.toJson.texts,
      Identity.ofJsonText? text = some { i with device := { i.device with name := m } }) ∧
    ∀ text ∈ g.toJson.texts, Gateway.ofJsonText? text = some g := by
  intro n m i g
  have writable : i.device.version.IsWritable := by decide
  have free : g.IsUnlabelled := fun ip port flow scope same => by cases same; rfl
  obtain ⟨kept, -, whole⟩ := record_texts_keep i g
  obtain ⟨⟨name, read, s, lenient, bytes⟩, -⟩ := kept writable
  have replaced (b : Bytes) : Text.lossy (0xFF :: b) = Char.ofNat 0xFFFD :: Text.lossy b :=
    Text.lossy_cons _ _
  have reading : s = List.replicate 8 (Char.ofNat 0xFFFD) := by
    rw [Text.lenient_iff.mp lenient]
    have front : i.device.name.front = [0xFF, 0xFF, 0xFF, 0xFF, 0xFF, 0xFF, 0xFF, 0xFF] := by decide
    have none_left : Text.lossy [] = [] := by rw [Text.lossy, Text.chunks, List.map_nil]
    simp only [front, replaced, none_left]
    rfl
  have same : name = m := by
    rw [reading] at bytes
    exact congrArg DeviceName.mk (Octets.ext (bytes.trans (by decide)))
  exact ⟨same ▸ read, whole free⟩

end IdentityDirectory
