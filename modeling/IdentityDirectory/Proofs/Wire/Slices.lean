import Mathlib.Algebra.Group.Nat.Defs
import IdentityDirectory.Bytes
/-!
Where bytes come from: a slice of two byte strings put together, slices side by side, and the numbers
that slices spell.
-/
namespace IdentityDirectory.Bytes

theorem length_slice {b : Bytes} {start count : Nat} (h : start + count ≤ b.length) :
    (slice b start count).length = count := by
  simp only [slice, List.length_take, List.length_drop]
  omega

theorem slice_append (a b : Bytes) (start count : Nat) :
    slice (a ++ b) start count =
      slice a start count ++ slice b (start - a.length) (count - (a.length - start)) := by
  simp only [slice, List.drop_append, List.take_append, List.length_drop]

theorem slice_append_left {a b : Bytes} {start count : Nat} (h : start + count ≤ a.length) :
    slice (a ++ b) start count = slice a start count := by
  have none : count - (a.length - start) = 0 := by omega
  rw [slice_append, none]
  simp [slice]

theorem slice_append_right {a b : Bytes} {start count : Nat} (h : a.length ≤ start) :
    slice (a ++ b) start count = slice b (start - a.length) count := by
  have all : count - (a.length - start) = count := by omega
  rw [slice_append, all]
  simp [slice, List.drop_eq_nil_of_le h]

theorem slice_whole {b : Bytes} {count : Nat} (h : b.length ≤ count) : slice b 0 count = b := by
  simp [slice, List.take_of_length_le h]

theorem slice_field {a field rest : Bytes} {start count : Nat} (before : a.length = start)
    (width : field.length = count) : slice (a ++ field ++ rest) start count = field := by
  subst before width
  rw [slice_append_left (by simp), slice_append_right (Nat.le_refl _), Nat.sub_self,
    slice_whole (Nat.le_refl _)]

theorem slice_drop (b : Bytes) (k start count : Nat) :
    slice (b.drop k) start count = slice b (k + start) count := by
  simp only [slice, List.drop_drop]

theorem slice_append_slice (b : Bytes) (start m n : Nat) :
    slice b start m ++ slice b (start + m) n = slice b start (m + n) := by
  simp only [slice, List.take_add, List.drop_drop]

theorem slice_join {b : Bytes} {start m next n : Nat} (h : start + m = next) :
    slice b start m ++ slice b next n = slice b start (m + n) := by
  rw [← h, slice_append_slice]

theorem slice_slice {b : Bytes} {start count s n : Nat} (h : s + n ≤ count) :
    slice (slice b start count) s n = slice b (start + s) n := by
  simp only [slice, List.drop_take, List.take_take, List.drop_drop]
  congr 1
  omega

theorem byte_drop (b : Bytes) (k i : Nat) : byte (b.drop k) i = byte b (k + i) := by
  simp [byte]

theorem byte_append_left {a b : Bytes} {i : Nat} (h : i < a.length) :
    byte (a ++ b) i = byte a i := by
  simp [byte, List.getElem?_append_left h]

theorem byte_append_right {a b : Bytes} {i : Nat} (h : a.length ≤ i) :
    byte (a ++ b) i = byte b (i - a.length) := by
  simp [byte, List.getElem?_append_right h]

theorem slice_one {b : Bytes} {i : Nat} (h : i < b.length) : slice b i 1 = [byte b i] := by
  have at_i : byte b i = b[i] := by simp [byte, List.getElem?_eq_getElem h]
  rw [slice, List.drop_eq_getElem_cons h, at_i]
  rfl

theorem foldl_eq_add (b : Bytes) (v : Nat) :
    b.foldl (fun v x => 256 * v + x.toNat) v = 256 ^ b.length * v + toNat b := by
  induction b generalizing v with
  | nil => simp [toNat]
  | cons x b ih =>
    have h := ih x.toNat
    simp only [toNat, List.foldl_cons, List.length_cons, Nat.mul_zero, Nat.zero_add] at h ⊢
    rw [ih, h, Nat.pow_succ, Nat.mul_add]
    simp only [toNat]
    rw [Nat.mul_assoc, Nat.add_assoc]

theorem toNat_cons (x : UInt8) (b : Bytes) :
    toNat (x :: b) = 256 ^ b.length * x.toNat + toNat b := by
  simpa [toNat] using foldl_eq_add b x.toNat

theorem toNat_lt (b : Bytes) : toNat b < 256 ^ b.length := by
  induction b with
  | nil => simp
  | cons x b ih =>
    have hx : x.toNat < 256 := x.toNat_lt
    have h := Nat.mul_le_mul_left (256 ^ b.length) (Nat.succ_le_of_lt hx)
    rw [toNat_cons, List.length_cons, Nat.pow_succ]
    rw [Nat.mul_succ] at h
    omega

theorem shiftRight_bytes (v n : Nat) : v >>> (8 * n) = v / 256 ^ n := by
  rw [Nat.shiftRight_eq_div_pow, Nat.pow_mul]

theorem toNat_bigEndian (n v : Nat) : toNat (bigEndian n v) = v % 256 ^ n := by
  induction n with
  | zero => simp [bigEndian, Nat.mod_one]
  | succ n ih =>
    have digit : (UInt8.ofNat (v / 256 ^ n)).toNat = v / 256 ^ n % 256 := by simp
    rw [bigEndian, shiftRight_bytes, toNat_cons, ih, length_bigEndian, digit, Nat.pow_succ,
      Nat.mod_mul, Nat.add_comm]

theorem toNat_injective {a b : Bytes} (size : a.length = b.length) (same : toNat a = toNat b) :
    a = b := by
  induction a generalizing b with
  | nil => exact (List.length_eq_zero_iff.mp size.symm).symm
  | cons x a ih =>
    cases b with
    | nil => simp at size
    | cons y b =>
      have tails : a.length = b.length := by simpa using size
      have la := toNat_lt a
      have lb := toNat_lt b
      rw [← tails] at lb
      have positive : 0 < 256 ^ a.length := by omega
      rw [toNat_cons, toNat_cons, ← tails] at same
      have rest : toNat a = toNat b := by
        have h := congrArg (· % 256 ^ a.length) same
        simpa [Nat.mul_add_mod, Nat.mod_eq_of_lt la, Nat.mod_eq_of_lt lb] using h
      have first : x = y := by
        have h := congrArg (· / 256 ^ a.length) same
        simp only [Nat.mul_add_div positive, Nat.div_eq_of_lt la, Nat.div_eq_of_lt lb] at h
        exact UInt8.toNat_inj.mp (by omega)
      rw [first, ih tails rest]

theorem bigEndian_toNat (b : Bytes) : bigEndian b.length (toNat b) = b := by
  apply toNat_injective (length_bigEndian _ _)
  rw [toNat_bigEndian, Nat.mod_eq_of_lt (toNat_lt b)]

theorem bigEndian_number {b : Bytes} {start count : Nat} (h : start + count ≤ b.length) :
    bigEndian count (number b start count) = slice b start count := by
  have size := length_slice h
  have same := bigEndian_toNat (slice b start count)
  rwa [size] at same

theorem number_lt (b : Bytes) (start count : Nat) : number b start count < 256 ^ count := by
  have short : (slice b start count).length ≤ count := by
    simp only [slice, List.length_take]
    omega
  exact Nat.lt_of_lt_of_le (toNat_lt _) (Nat.pow_le_pow_right (by omega) short)

theorem number_of_slice {b : Bytes} {start count v : Nat}
    (h : slice b start count = bigEndian count v) (bound : v < 256 ^ count) :
    number b start count = v := by
  rw [number, h, toNat_bigEndian, Nat.mod_eq_of_lt bound]

theorem bigEndian_inj {count v w : Nat} (hv : v < 256 ^ count) (hw : w < 256 ^ count) :
    bigEndian count v = bigEndian count w ↔ v = w := by
  constructor
  · intro same
    have h := congrArg toNat same
    rwa [toNat_bigEndian, toNat_bigEndian, Nat.mod_eq_of_lt hv, Nat.mod_eq_of_lt hw] at h
  · intro same
    rw [same]

theorem slice_eq_uint16 {b : Bytes} {start : Nat} (h : start + 2 ≤ b.length) :
    slice b start 2 = bigEndian 2 (UInt16.ofNat (number b start 2)).toNat := by
  have bound := number_lt b start 2
  rw [UInt16.toNat_ofNat_of_lt' bound, bigEndian_number h]

theorem slice_eq_uint32 {b : Bytes} {start : Nat} (h : start + 4 ≤ b.length) :
    slice b start 4 = bigEndian 4 (UInt32.ofNat (number b start 4)).toNat := by
  have bound := number_lt b start 4
  rw [UInt32.toNat_ofNat_of_lt' bound, bigEndian_number h]

theorem slice_eq_uint64 {b : Bytes} {start : Nat} (h : start + 8 ≤ b.length) :
    slice b start 8 = bigEndian 8 (UInt64.ofNat (number b start 8)).toNat := by
  have bound := number_lt b start 8
  rw [UInt64.toNat_ofNat_of_lt' bound, bigEndian_number h]

theorem number_drop (b : Bytes) (k start count : Nat) :
    number (b.drop k) start count = number b (k + start) count := by
  rw [number, slice_drop, number]

theorem slice_congr {b c : Bytes} {n start count : Nat} (same : b.take n = c.take n)
    (h : start + count ≤ n) : slice b start count = slice c start count := by
  have front (x : Bytes) : slice (x.take n) start count = slice x start count := by
    have whole : x.take n = slice x 0 n := by rw [slice, List.drop_zero]
    rw [whole, slice_slice h, Nat.zero_add]
  rw [← front b, same, front c]

theorem number_congr {b c : Bytes} {n start count : Nat} (same : b.take n = c.take n)
    (h : start + count ≤ n) : number b start count = number c start count := by
  rw [number, slice_congr same h, number]

theorem byte_congr {b c : Bytes} {n i : Nat} (same : b.take n = c.take n) (h : i < n) :
    byte b i = byte c i := by
  have front (x : Bytes) : byte (x.take n) i = byte x i := by simp [byte, h]
  rw [← front b, same, front c]

end IdentityDirectory.Bytes
