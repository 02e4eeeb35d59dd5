import IdentityDirectory.Message.Decode
import IdentityDirectory.Proofs.Wire.Slices
/-!
Records on the wire. A record spells its fields at fixed places; the places determine the record up to
what does not travel, and the record determines the bytes. What arrives is the wire form: six bytes of a
name, no join nonce, version parts within their bits, and no flow label or scope.
-/
namespace IdentityDirectory
open Bytes

@[simp] theorem Octets.length_bytes {n : Nat} (o : Octets n) : o.bytes.length = n := o.length_eq

namespace Version

theorem ofByte_toByte (v : Version) : ofByte v.toByte = make v.major v.minor v.release := by
  simp only [ofByte, toByte, make, Version.mk.injEq, ← UInt8.toNat_inj, UInt8.toNat_mod,
    UInt8.toNat_div, UInt8.toNat_add, UInt8.toNat_mul, UInt8.reduceToNat]
  have hr := v.release.toNat_lt
  omega

theorem toByte_ofByte (b : UInt8) : (ofByte b).toByte = b := by
  simp only [ofByte, toByte, ← UInt8.toNat_inj, UInt8.toNat_mod, UInt8.toNat_div, UInt8.toNat_add,
    UInt8.toNat_mul, UInt8.reduceToNat]
  have h := b.toNat_lt
  omega

end Version

theorem Activation.ofByte?_toByte (a : Activation) : ofByte? a.toByte = some a := by
  cases a <;> rfl

theorem Activation.toByte_of_ofByte? {b : UInt8} {a : Activation} (h : ofByte? b = some a) :
    a.toByte = b := by
  unfold ofByte? at h
  split at h <;> simp_all [toByte] <;> subst h <;> rfl

theorem DeviceClass.ofByte?_toByte (k : DeviceClass) : ofByte? k.toByte = some k := by
  cases k <;> rfl

theorem DeviceClass.toByte_of_ofByte? {b : UInt8} {k : DeviceClass} (h : ofByte? b = some k) :
    k.toByte = b := by
  unfold ofByte? at h
  split at h <;> simp_all [toByte] <;> subst h <;> rfl

/-- The six bytes of a name that travel, as a name. -/
def DeviceName.wire (n : DeviceName) : DeviceName := ⟨Octets.ofBytes 8 (n.octets.bytes.take 6)⟩

def Version.wire (v : Version) : Version := make v.major v.minor v.release

namespace Identity

def wire (i : Identity) : Identity :=
  { i with
    device := { i.device with
      version := i.device.version.wire
      joinNonce := JoinNonce.ofNat 0
      name := i.device.name.wire } }

structure Spelled (b : Bytes) (i : Identity) : Prop where
  addr : slice b 0 4 = bigEndian 4 i.addr.value.toNat
  activation : byte b 4 = i.device.activation.toByte
  deviceClass : byte b 5 = i.device.deviceClass.toByte
  devEui : slice b 6 8 = bigEndian 8 i.device.devEui.value.toNat
  nwkSKey : slice b 14 16 = i.device.nwkSKey.octets.bytes
  appSKey : slice b 30 16 = i.device.appSKey.octets.bytes
  version : byte b 46 = i.device.version.toByte
  appEui : slice b 47 8 = bigEndian 8 i.device.appEui.value.toNat
  appKey : slice b 55 16 = i.device.appKey.octets.bytes
  nwkKey : slice b 71 16 = i.device.nwkKey.octets.bytes
  devNonce : slice b 87 2 = bigEndian 2 i.device.devNonce.value.toNat
  name : slice b 89 6 = i.device.name.octets.bytes.take 6

@[simp] theorem length_encode (i : Identity) : i.encode.length = size := by
  simp [encode, size]

theorem spelled_encode (i : Identity) (t : Bytes) : Spelled (i.encode ++ t) i := by
  constructor <;>
    simp (disch := simp) only [encode, slice_append_left, slice_append_right, slice_whole,
      byte_append_left, byte_append_right, List.length_append, length_bigEndian, Octets.length_bytes,
      List.length_cons, List.length_nil, Nat.reduceAdd, Nat.reduceSub] <;>
    rfl

theorem spelled_self (i : Identity) : Spelled i.encode i := by
  have h := spelled_encode i []
  rwa [List.append_nil] at h

theorem slice_of_spelled {b : Bytes} {i : Identity} (h : Spelled b i) (room : size ≤ b.length) :
    slice b 0 size = i.encode := by
  have long : 95 ≤ b.length := room
  have pair : slice b 4 2 = [byte b 4, byte b 5] := by
    rw [← slice_append_slice b 4 1 1, slice_one (by omega), slice_one (by omega)]
    rfl
  have one : slice b 46 1 = [byte b 46] := slice_one (by omega)
  rw [encode, ← h.addr, ← h.activation, ← h.deviceClass, ← h.devEui, ← h.nwkSKey, ← h.appSKey,
    ← h.version, ← h.appEui, ← h.appKey, ← h.nwkKey, ← h.devNonce, ← h.name, ← pair, ← one]
  simp (disch := rfl) only [slice_join, Nat.reduceAdd, size]

theorem decode_of_spelled {b : Bytes} {i : Identity} (h : Spelled b i) : decode b = .ok i.wire := by
  have a := number_of_slice h.addr i.addr.value.toNat_lt
  have e := number_of_slice h.devEui i.device.devEui.value.toNat_lt
  have f := number_of_slice h.appEui i.device.appEui.value.toNat_lt
  have n := number_of_slice h.devNonce i.device.devNonce.value.toNat_lt
  simp only [decode, h.activation, h.deviceClass, Activation.ofByte?_toByte,
    DeviceClass.ofByte?_toByte]
  simp [ofBytes, a, e, f, n, h.nwkSKey, h.appSKey, h.version, h.appKey, h.nwkKey, h.name, wire,
    DeviceName.wire, Version.wire, Version.ofByte_toByte]

theorem decode_encode (i : Identity) (t : Bytes) : decode (i.encode ++ t) = .ok i.wire :=
  decode_of_spelled (spelled_encode i t)

theorem spelled_of_decode {b : Bytes} {i : Identity} (room : size ≤ b.length)
    (h : decode b = .ok i) : Spelled b i := by
  have long : 95 ≤ b.length := room
  unfold decode at h
  split at h
  · contradiction
  · contradiction
  · rename_i activation deviceClass ha hc
    obtain rfl := Except.ok.inj h
    have six : (slice b 89 6).length = 6 := length_slice long
    have name : (Octets.ofBytes 8 (slice b 89 6)).bytes.take 6 = slice b 89 6 := by
      simp [Octets.ofBytes, List.take_append, six, List.take_of_length_le]
    exact {
      addr := slice_eq_uint32 (by omega)
      activation := (Activation.toByte_of_ofByte? ha).symm
      deviceClass := (DeviceClass.toByte_of_ofByte? hc).symm
      devEui := slice_eq_uint64 (by omega)
      nwkSKey := (Octets.bytes_ofBytes (length_slice (by omega))).symm
      appSKey := (Octets.bytes_ofBytes (length_slice (by omega))).symm
      version := (Version.toByte_ofByte _).symm
      appEui := slice_eq_uint64 (by omega)
      appKey := (Octets.bytes_ofBytes (length_slice (by omega))).symm
      nwkKey := (Octets.bytes_ofBytes (length_slice (by omega))).symm
      devNonce := slice_eq_uint16 (by omega)
      name := name.symm }

theorem wire_of_decode {b : Bytes} {i : Identity} (room : size ≤ b.length) (h : decode b = .ok i) :
    i.wire = i := by
  have again := decode_of_spelled (spelled_of_decode room h)
  exact Except.ok.inj (again.symm.trans h)

theorem encode_of_decode {b : Bytes} {i : Identity} (room : size ≤ b.length)
    (h : decode b = .ok i) : i.encode = slice b 0 size :=
  (slice_of_spelled (spelled_of_decode room h) room).symm

end Identity

def Endpoint.wire : Endpoint → Endpoint
  | .v4 ip port => .v4 ip port
  | .v6 ip port _ _ => .v6 ip port 0 0

namespace Gateway

def wire (g : Gateway) : Gateway := { g with endpoint := g.endpoint.map Endpoint.wire }

theorem length_encodeEndpoint (e : Option Endpoint) : (encodeEndpoint e).length = 19 := by
  rcases e with _ | ⟨ip, port⟩ | ⟨ip, port, flow, scope⟩ <;> simp [encodeEndpoint]

@[simp] theorem length_encode (g : Gateway) : g.encode.length = size := by
  simp [encode, size, length_encodeEndpoint]

/-- Family, port and address lie at bytes 0, 1 and 3, whatever comes behind the address. -/
theorem endpoint_fields (family : UInt8) (port : UInt16) (ip rest : Bytes) :
    byte (family :: bigEndian 2 port.toNat ++ ip ++ rest) 0 = family ∧
      number (family :: bigEndian 2 port.toNat ++ ip ++ rest) 1 2 = port.toNat ∧
      slice (family :: bigEndian 2 port.toNat ++ ip ++ rest) 3 ip.length = ip := by
  have split : family :: bigEndian 2 port.toNat ++ ip ++ rest =
      [family] ++ bigEndian 2 port.toNat ++ (ip ++ rest) := by simp
  refine ⟨rfl, ?_, slice_field (by simp) rfl⟩
  rw [split]
  exact number_of_slice (slice_field rfl (by simp)) port.toNat_lt

theorem decodeEndpoint_encodeEndpoint (e : Option Endpoint) (t : Bytes) :
    decodeEndpoint (encodeEndpoint e ++ t) = .ok (e.map Endpoint.wire) := by
  rcases e with _ | ⟨ip, port⟩ | ⟨ip, port, flow, scope⟩
  · rfl
  · obtain ⟨family, place, address⟩ := endpoint_fields 4 port ip.bytes (List.replicate 12 0 ++ t)
    rw [Octets.length_bytes] at address
    rw [encodeEndpoint, List.append_assoc, decodeEndpoint, family, place, address]
    simp [Endpoint.wire]
  · obtain ⟨family, place, address⟩ := endpoint_fields 6 port ip.bytes t
    rw [Octets.length_bytes] at address
    rw [encodeEndpoint, decodeEndpoint, family, place, address]
    simp [Endpoint.wire]

theorem decode_encode (g : Gateway) (t : Bytes) : decode (g.encode ++ t) = .ok g.wire := by
  have place : slice (g.encode ++ t) 0 8 = bigEndian 8 g.id.value.toNat := by
    rw [encode, List.append_assoc, slice_append_left (by simp), slice_whole (by simp)]
  have rest : (g.encode ++ t).drop 8 = encodeEndpoint g.endpoint ++ t := by simp [encode]
  rw [decode, rest, decodeEndpoint_encodeEndpoint, number_of_slice place g.id.value.toNat_lt]
  simp [Except.map, wire]

end Gateway
theorem readRecord_of_room {α : Type} {size : Nat} {decode : Bytes → Except FieldError α} {b : Bytes}
    (room : size ≤ b.length) : readRecord size decode b = (decode b).mapError Error.field := by
  rw [readRecord, if_neg (Nat.not_lt.mpr room)]

end IdentityDirectory
