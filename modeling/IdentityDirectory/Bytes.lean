/-!
Byte strings as lists: big-endian numbers, the bytes at a fixed place, and blocks of a fixed size.
Reading past the end gives nothing, so every reader here is total.
-/
namespace IdentityDirectory

abbrev Bytes := List UInt8

abbrev UInt24 := Fin 0x1000000

def UInt24.ofNat (v : Nat) : UInt24 := Fin.ofNat _ v

namespace Bytes

/-- The last n bytes of v, the most significant one first. -/
def bigEndian : Nat → Nat → Bytes
  | 0, _ => []
  | n + 1, v => UInt8.ofNat (v >>> (8 * n)) :: bigEndian n v

def toNat (b : Bytes) : Nat := b.foldl (fun v x => 256 * v + x.toNat) 0

def slice (b : Bytes) (start count : Nat) : Bytes := (b.drop start).take count

def number (b : Bytes) (start count : Nat) : Nat := toNat (slice b start count)

def byte (b : Bytes) (i : Nat) : UInt8 := b.getD i 0

@[simp] theorem length_bigEndian (n v : Nat) : (bigEndian n v).length = n := by
  induction n with
  | zero => rfl
  | succ n ih => simp [bigEndian, ih]

@[simp] theorem toNat_nil : toNat [] = 0 := rfl

end Bytes

structure Octets (n : Nat) where
  bytes : Bytes
  length_eq : bytes.length = n
  deriving DecidableEq, Repr

namespace Octets

/-- The first n bytes, with NUL bytes behind a shorter text. -/
def ofBytes (n : Nat) (b : Bytes) : Octets n := ⟨(b ++ List.replicate n 0).take n, by simp⟩

def zero (n : Nat) : Octets n := ofBytes n []

instance (n : Nat) : Inhabited (Octets n) := ⟨zero n⟩

theorem bytes_ofBytes {n : Nat} {b : Bytes} (h : b.length = n) : (ofBytes n b).bytes = b := by
  subst h; simp [ofBytes]

@[simp] theorem ofBytes_bytes {n : Nat} (o : Octets n) : ofBytes n o.bytes = o := by
  obtain ⟨b, h⟩ := o
  simp only [ofBytes, Octets.mk.injEq]
  exact bytes_ofBytes h

end Octets
end IdentityDirectory
