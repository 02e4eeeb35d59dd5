import IdentityDirectory.Bytes
import IdentityDirectory.FieldError
import IdentityDirectory.Record.Gateway
import IdentityDirectory.Record.Identity
/-!
The layouts of the two kinds of record. Only six bytes of a device name and no join nonce travel; of an
endpoint the family, the port and the address do.

  identity  address 4, activation 1, class 1, device EUI 8, network session key 16,
            application session key 16, version 1, application EUI 8, application key 16,
            network key 16, device nonce 2, name 6
  gateway   identifier 8, family 1, port 2, address 16
-/
namespace IdentityDirectory

namespace Identity

def size : Nat := 95

def encode (i : Identity) : Bytes :=
  Bytes.bigEndian 4 i.addr.value.toNat ++ [i.device.activation.toByte, i.device.deviceClass.toByte]
    ++ Bytes.bigEndian 8 i.device.devEui.value.toNat
    ++ i.device.nwkSKey.octets.bytes ++ i.device.appSKey.octets.bytes
    ++ [i.device.version.toByte]
    ++ Bytes.bigEndian 8 i.device.appEui.value.toNat
    ++ i.device.appKey.octets.bytes ++ i.device.nwkKey.octets.bytes
    ++ Bytes.bigEndian 2 i.device.devNonce.value.toNat
    ++ i.device.name.octets.bytes.take 6

def ofBytes (b : Bytes) (activation : Activation) (deviceClass : DeviceClass) : Identity where
  addr := ⟨UInt32.ofNat (b.number 0 4)⟩
  device := {
    activation := activation
    deviceClass := deviceClass
    devEui := ⟨UInt64.ofNat (b.number 6 8)⟩
    nwkSKey := ⟨Octets.ofBytes 16 (b.slice 14 16)⟩
    appSKey := ⟨Octets.ofBytes 16 (b.slice 30 16)⟩
    version := Version.ofByte (b.byte 46)
    appEui := ⟨UInt64.ofNat (b.number 47 8)⟩
    appKey := ⟨Octets.ofBytes 16 (b.slice 55 16)⟩
    nwkKey := ⟨Octets.ofBytes 16 (b.slice 71 16)⟩
    devNonce := ⟨UInt16.ofNat (b.number 87 2)⟩
    joinNonce := JoinNonce.ofNat 0
    name := ⟨Octets.ofBytes 8 (b.slice 89 6)⟩ }

/-- Reads a record of full size; the activation is looked at before the class. -/
def decode (b : Bytes) : Except FieldError Identity :=
  match Activation.ofByte? (b.byte 4), DeviceClass.ofByte? (b.byte 5) with
  | none, _ => .error .activationByte
  | some _, none => .error .classByte
  | some activation, some deviceClass => .ok (ofBytes b activation deviceClass)

end Identity

namespace Gateway

def size : Nat := 27

def encodeEndpoint : Option Endpoint → Bytes
  | none => 0 :: List.replicate 18 0
  | some (.v4 ip port) => 4 :: Bytes.bigEndian 2 port.toNat ++ ip.bytes ++ List.replicate 12 0
  | some (.v6 ip port _ _) => 6 :: Bytes.bigEndian 2 port.toNat ++ ip.bytes

def encode (g : Gateway) : Bytes :=
  Bytes.bigEndian 8 g.id.value.toNat ++ encodeEndpoint g.endpoint

def decodeEndpoint (b : Bytes) : Except FieldError (Option Endpoint) :=
  let port := UInt16.ofNat (b.number 1 2)
  match b.byte 0 with
  | 0 => .ok none
  | 4 => .ok (some (.v4 (Octets.ofBytes 4 (b.slice 3 4)) port))
  | 6 => .ok (some (.v6 (Octets.ofBytes 16 (b.slice 3 16)) port 0 0))
  | _ => .error .familyByte

def decode (b : Bytes) : Except FieldError Gateway :=
  (decodeEndpoint (b.drop 8)).map fun endpoint => ⟨⟨UInt64.ofNat (b.number 0 8)⟩, endpoint⟩

end Gateway
end IdentityDirectory
