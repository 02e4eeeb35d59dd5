import IdentityDirectory.Bytes
import IdentityDirectory.FieldError
/-!
The fields of a device record, each with its text form: numbers and keys in hexadecimal, enumerations
by name, the version with dots.
-/
namespace IdentityDirectory

structure Eui where
  value : UInt64
  deriving DecidableEq, Repr, Inhabited

namespace Eui

def isZero (e : Eui) : Bool := e.value = 0

def toText (e : Eui) : String := String.ofList (Text.hexFixed 16 e.value.toNat)

def ofText (text : String) : Except FieldError Eui :=
  (HexField.eui.read text).map fun v => ⟨UInt64.ofNat v⟩

end Eui

structure Key where
  octets : Octets 16
  deriving DecidableEq, Repr, Inhabited

namespace Key

def toText (k : Key) : String := String.ofList (Text.hexOfBytes k.octets.bytes)

def ofText (text : String) : Except FieldError Key :=
  match Text.bytesOfHex (Text.trim text.toList) with
  | .error cause => .error (.keyText text cause)
  | .ok b => if h : b.length = 16 then .ok ⟨⟨b, h⟩⟩ else .error (.keyLength text)

end Key

structure DevNonce where
  value : UInt16
  deriving DecidableEq, Repr, Inhabited

namespace DevNonce

def toText (n : DevNonce) : String := String.ofList (Text.hexFixed 4 n.value.toNat)

def ofText (text : String) : Except FieldError DevNonce :=
  (HexField.deviceNonce.read text).map fun v => ⟨UInt16.ofNat v⟩

end DevNonce

structure JoinNonce where
  value : UInt24
  deriving DecidableEq, Repr, Inhabited

namespace JoinNonce

def ofNat (v : Nat) : JoinNonce := ⟨UInt24.ofNat v⟩

def toText (n : JoinNonce) : String := String.ofList (Text.hexFixed 6 n.value)

def ofText (text : String) : Except FieldError JoinNonce :=
  (HexField.joinNonce.read text).map ofNat

end JoinNonce

structure DeviceName where
  octets : Octets 8
  deriving DecidableEq, Repr, Inhabited

namespace DeviceName

/-- The first eight bytes of a text; a character may be cut. -/
def ofText (text : String) : DeviceName := ⟨Octets.ofBytes 8 (Text.utf8 text.toList)⟩

def toText (n : DeviceName) : String :=
  String.ofList (Text.lossy (n.octets.bytes.takeWhile (· ≠ 0)))

end DeviceName

inductive Activation where
  | abp
  | otaa
  deriving DecidableEq, Repr, Inhabited

namespace Activation

def toByte : Activation → UInt8
  | abp => 0
  | otaa => 1

def ofByte? : UInt8 → Option Activation
  | 0 => some abp
  | 1 => some otaa
  | _ => none

def toText : Activation → String
  | abp => "ABP"
  | otaa => "OTAA"

def ofText (text : String) : Except FieldError Activation :=
  let name := String.ofList (Text.upper (Text.trim text.toList))
  if name = "ABP" then .ok abp
  else if name = "OTAA" then .ok otaa
  else .error (.activation name)

end Activation

inductive DeviceClass where
  | a
  | b
  | c
  deriving DecidableEq, Repr, Inhabited

namespace DeviceClass

def toByte : DeviceClass → UInt8
  | a => 0
  | b => 1
  | c => 2

def ofByte? : UInt8 → Option DeviceClass
  | 0 => some a
  | 1 => some b
  | 2 => some c
  | _ => none

def toText : DeviceClass → String
  | a => "A"
  | b => "B"
  | c => "C"

def dropWord : List Char → List Char
  | 'C' :: 'L' :: 'A' :: 'S' :: 'S' :: '_' :: s => dropWord s
  | s => s

def ofText (text : String) : Except FieldError DeviceClass :=
  match dropWord (Text.upper (Text.trim text.toList)) with
  | ['A'] => .ok a
  | ['B'] => .ok b
  | ['C'] => .ok c
  | _ => .error (.deviceClass text)

end DeviceClass

/-- A version of the radio specification. In a byte, bits 0-1 hold the major part, bits 2-3 the minor
part and bits 4-7 the release. -/
structure Version where
  major : UInt8
  minor : UInt8
  release : UInt8
  deriving DecidableEq, Repr

namespace Version

def make (major minor release : UInt8) : Version := ⟨major % 4, minor % 4, release % 16⟩

instance : Inhabited Version := ⟨make 1 0 0⟩

def toByte (v : Version) : UInt8 := v.major % 4 + v.minor % 4 * 4 + v.release % 16 * 16

def ofByte (b : UInt8) : Version := ⟨b % 4, b / 4 % 4, b / 16⟩

def toText (v : Version) : String :=
  String.ofList (Text.join ['.'] [Text.decimal v.major.toNat, Text.decimal v.minor.toNat,
    Text.decimal v.release.toNat])

def readPart (limit : Nat) (s : List Char) : Option UInt8 :=
  match Text.readUnsigned 10 255 s with
  | .ok v => if v ≤ limit then some (UInt8.ofNat v) else none
  | .error _ => none

/-- Reads the parts against their limits. A part that is not there is 0, further parts are ignored. -/
def readParts : List Nat → List (List Char) → Option (List UInt8)
  | [], _ => some []
  | _ :: limits, [] => (readParts limits []).map (0 :: ·)
  | limit :: limits, s :: rest => do
    let part ← readPart limit s
    let parts ← readParts limits rest
    return part :: parts

def ofText (text : String) : Except FieldError Version :=
  match readParts [3, 3, 15] (Text.splitOn '.' (Text.trim text.toList)) with
  | some [major, minor, release] => .ok (make major minor release)
  | _ => .error (.version text)

end Version
end IdentityDirectory
