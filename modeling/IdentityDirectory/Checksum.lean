import IdentityDirectory.Bytes
/-!
The cyclic checksum of 16 bits with polynomial 0x8005, bits taken in reverse order, start value 0xFFFF.
-/
namespace IdentityDirectory.Checksum

def step (state : UInt16) : UInt16 :=
  if state % 2 = 1 then (state / 2) ^^^ 0xA001 else state / 2

def absorb (state : UInt16) (byte : UInt8) : UInt16 :=
  (step ∘ step ∘ step ∘ step ∘ step ∘ step ∘ step ∘ step) (state ^^^ byte.toUInt16)

def crc16 (b : Bytes) : UInt16 := b.foldl absorb 0xFFFF

end IdentityDirectory.Checksum
