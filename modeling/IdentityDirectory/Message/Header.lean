import IdentityDirectory.Bytes
import IdentityDirectory.Message.Tag
/-!
The header of every message: tag, authorization code and access code in thirteen bytes.
-/
namespace IdentityDirectory

structure Header where
  tag : Tag
  code : Int32
  accessCode : UInt64
  deriving DecidableEq, Repr

namespace Header

def size : Nat := 13

def encode (h : Header) : Bytes :=
  h.tag.toByte :: Bytes.bigEndian 4 h.code.toUInt32.toNat ++ Bytes.bigEndian 8 h.accessCode.toNat

def ofBytes (tag : Tag) (b : Bytes) : Header where
  tag := tag
  code := (UInt32.ofNat (b.number 1 4)).toInt32
  accessCode := UInt64.ofNat (b.number 5 8)

end Header
end IdentityDirectory
