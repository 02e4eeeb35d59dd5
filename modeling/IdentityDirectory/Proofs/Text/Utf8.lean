import Mathlib.Tactic.SplitIfs
import IdentityDirectory.Text.Utf8
/-!
UTF-8 in both directions. The codes of characters are spelled in one to four bytes; the first chunk of bytes
is a character exactly if it spells one. So exactly the encoded texts are read strictly, and the lenient
reader gives them back.
-/
namespace IdentityDirectory.Text

/-- Bytes that spell a code: seven bits alone, or what the first byte holds and six bits in each other. No
code is spelled longer than it has to be, and surrogates are not spelled at all. -/
inductive Spells : Nat → Bytes → Prop where
  | one {n : Nat} (small : n < 128) : Spells n [UInt8.ofNat n]
  | two {m n : Nat} (long : 2 ≤ m) (front : m < 32) (last : n < 64) :
      Spells (64 * m + n) [UInt8.ofNat (m + 192), UInt8.ofNat (n + 128)]
  | three {k m n : Nat} (front : k < 16) (long : k = 0 → 32 ≤ m) (whole : k = 13 → m < 32)
      (middle : m < 64) (last : n < 64) :
      Spells (64 * (64 * k + m) + n)
        [UInt8.ofNat (k + 224), UInt8.ofNat (m + 128), UInt8.ofNat (n + 128)]
  | four {j k m n : Nat} (front : j < 5) (long : j = 0 → 16 ≤ k) (below : j = 4 → k < 16)
      (second : k < 64) (third : m < 64) (last : n < 64) :
      Spells (64 * (64 * (64 * j + k) + m) + n)
        [UInt8.ofNat (j + 240), UInt8.ofNat (k + 128), UInt8.ofNat (m + 128), UInt8.ofNat (n + 128)]

theorem followers_ofNat {n : Nat} (byte : n < 256) :
    followers (UInt8.ofNat n) =
      if n < 128 then some []
      else if n < 194 then none
      else if n < 224 then some [(0x80, 0xBF)]
      else if n = 224 then some [(0xA0, 0xBF), (0x80, 0xBF)]
      else if n = 237 then some [(0x80, 0x9F), (0x80, 0xBF)]
      else if n < 240 then some [(0x80, 0xBF), (0x80, 0xBF)]
      else if n = 240 then some [(0x90, 0xBF), (0x80, 0xBF), (0x80, 0xBF)]
      else if n < 244 then some [(0x80, 0xBF), (0x80, 0xBF), (0x80, 0xBF)]
      else if n = 244 then some [(0x80, 0x8F), (0x80, 0xBF), (0x80, 0xBF)]
      else none := by
  have value : (UInt8.ofNat n).toNat = n := UInt8.toNat_ofNat_of_lt' byte
  simp only [followers, UInt8.lt_iff_toNat_lt, ← UInt8.toNat_inj, value, UInt8.reduceToNat]

theorem follow_nil (v : Nat) (b : Bytes) : follow [] v b = (some (Char.ofNat v), b) := rfl

theorem follow_ofNat {low high : UInt8} {rs : List (UInt8 × UInt8)} {n : Nat} (v : Nat) (b : Bytes)
    (above : low.toNat ≤ n) (below : n ≤ high.toNat) :
    follow ((low, high) :: rs) v (UInt8.ofNat n :: b) = follow rs (64 * v + n % 64) b := by
  have byte : n < 256 := Nat.lt_of_le_of_lt below high.toNat_lt
  have value : (UInt8.ofNat n).toNat = n := UInt8.toNat_ofNat_of_lt' byte
  have within : low ≤ UInt8.ofNat n ∧ UInt8.ofNat n ≤ high := by
    simp only [UInt8.le_iff_toNat_le, value]
    exact ⟨above, below⟩
  simp only [follow, within, and_self, ↓reduceIte, value]

theorem chunk_ofNat {n : Nat} {rs : List (UInt8 × UInt8)}
    (known : followers (UInt8.ofNat n) = some rs) (b : Bytes) :
    chunk (UInt8.ofNat n) b = follow rs (leadBits (UInt8.ofNat n) rs.length) b := by
  rw [chunk, known]

theorem leadBits_ofNat {n : Nat} (byte : n < 256) :
    leadBits (UInt8.ofNat n) 0 = n ∧ leadBits (UInt8.ofNat n) 1 = n % 32 ∧
      leadBits (UInt8.ofNat n) 2 = n % 16 ∧ leadBits (UInt8.ofNat n) 3 = n % 8 := by
  have value : (UInt8.ofNat n).toNat = n := UInt8.toNat_ofNat_of_lt' byte
  simp only [leadBits, value, and_self]

theorem chunk_three {k m n : Nat} {low high : UInt8} (front : k < 16) (middle : m < 64) (last : n < 64)
    (known : followers (UInt8.ofNat (k + 224)) = some [(low, high), (0x80, 0xBF)])
    (above : low.toNat ≤ m + 128) (below : m + 128 ≤ high.toNat) (b : Bytes) :
    chunk (UInt8.ofNat (k + 224)) ([UInt8.ofNat (m + 128), UInt8.ofNat (n + 128)] ++ b) =
      (some (Char.ofNat (64 * (64 * k + m) + n)), b) := by
  have value : 64 * (64 * ((k + 224) % 16) + (m + 128) % 64) + (n + 128) % 64 =
      64 * (64 * k + m) + n := by omega
  obtain ⟨-, -, bits, -⟩ := @leadBits_ofNat (k + 224) (by omega)
  rw [chunk_ofNat known, List.cons_append, List.cons_append, List.nil_append,
    follow_ofNat _ _ above below, follow_ofNat _ _ (by simp) (by simp; omega), follow_nil]
  simp only [List.length_cons, List.length_nil, Nat.zero_add, Nat.reduceAdd, bits, value]

theorem chunk_four {j k m n : Nat} {low high : UInt8} (front : j < 5) (second : k < 64) (third : m < 64)
    (last : n < 64)
    (known : followers (UInt8.ofNat (j + 240)) = some [(low, high), (0x80, 0xBF), (0x80, 0xBF)])
    (above : low.toNat ≤ k + 128) (below : k + 128 ≤ high.toNat) (b : Bytes) :
    chunk (UInt8.ofNat (j + 240))
        ([UInt8.ofNat (k + 128), UInt8.ofNat (m + 128), UInt8.ofNat (n + 128)] ++ b) =
      (some (Char.ofNat (64 * (64 * (64 * j + k) + m) + n)), b) := by
  have value : 64 * (64 * (64 * ((j + 240) % 8) + (k + 128) % 64) + (m + 128) % 64) +
      (n + 128) % 64 = 64 * (64 * (64 * j + k) + m) + n := by omega
  obtain ⟨-, -, -, bits⟩ := @leadBits_ofNat (j + 240) (by omega)
  rw [chunk_ofNat known, List.cons_append, List.cons_append, List.cons_append, List.nil_append,
    follow_ofNat _ _ above below, follow_ofNat _ _ (by simp) (by simp; omega),
    follow_ofNat _ _ (by simp) (by simp; omega), follow_nil]
  simp only [List.length_cons, List.length_nil, Nat.zero_add, Nat.reduceAdd, bits, value]

theorem chunk_of_spells {v : Nat} {lead : UInt8} {tail : Bytes} (spells : Spells v (lead :: tail))
    (b : Bytes) : chunk lead (tail ++ b) = (some (Char.ofNat v), b) := by
  cases spells with
  | one small =>
    have known : followers (UInt8.ofNat v) = some [] := by
      rw [followers_ofNat (by omega), if_pos small]
    rw [chunk_ofNat known, List.length_nil, (leadBits_ofNat (by omega)).1]
    rfl
  | @two m n long front last =>
    have known : followers (UInt8.ofNat (m + 192)) = some [(0x80, 0xBF)] := by
      rw [followers_ofNat (by omega), if_neg (by omega), if_neg (by omega), if_pos (by omega)]
    have value : 64 * ((m + 192) % 32) + (n + 128) % 64 = 64 * m + n := by omega
    obtain ⟨-, bits, -⟩ := leadBits_ofNat (n := m + 192) (by omega)
    rw [chunk_ofNat known, List.cons_append, List.nil_append,
      follow_ofNat _ _ (by simp) (by simp; omega), follow_nil]
    simp only [List.length_cons, List.length_nil, Nat.zero_add, bits, value]
  | @three k m n front long whole middle last =>
    have read {low high : UInt8} := @chunk_three k m n low high front middle last
    by_cases shortest : k = 0
    · subst shortest
      exact read rfl (by simp; omega) (by simp; omega) b
    · by_cases surrogate : k = 13
      · subst surrogate
        exact read rfl (by simp) (by simp; omega) b
      · have known : followers (UInt8.ofNat (k + 224)) = some [(0x80, 0xBF), (0x80, 0xBF)] := by
          rw [followers_ofNat (by omega), if_neg (by omega), if_neg (by omega), if_neg (by omega),
            if_neg (by omega), if_neg (by omega), if_pos (by omega)]
        exact read known (by simp) (by simp; omega) b
  | @four j k m n front long below second third last =>
    have read {low high : UInt8} := @chunk_four j k m n low high front second third last
    by_cases shortest : j = 0
    · subst shortest
      exact read rfl (by simp; omega) (by simp; omega) b
    · by_cases longest : j = 4
      · subst longest
        exact read rfl (by simp) (by simp; omega) b
      · have known : followers (UInt8.ofNat (j + 240)) =
            some [(0x80, 0xBF), (0x80, 0xBF), (0x80, 0xBF)] := by
          rw [followers_ofNat (by omega), if_neg (by omega), if_neg (by omega), if_neg (by omega),
            if_neg (by omega), if_neg (by omega), if_neg (by omega), if_neg (by omega),
            if_pos (by omega)]
        exact read known (by simp) (by simp; omega) b

theorem spells_encodeChar (c : Char) : Spells c.toNat (String.utf8EncodeChar c) := by
  have valid : c.val.toNat < 0xD800 ∨ 0xDFFF < c.val.toNat ∧ c.val.toNat < 0x110000 := c.valid
  have code : c.toNat = c.val.toNat := rfl
  rw [code]
  unfold String.utf8EncodeChar
  generalize c.val.toNat = v at valid
  simp only
  split
  · rename_i one
    exact .one (by omega)
  · split
    · rename_i two
      have bits : v = 64 * (v / 64 % 32) + v % 64 := by omega
      have spells := Spells.two (m := v / 64 % 32) (n := v % 64) (by omega) (by omega) (by omega)
      rwa [← bits] at spells
    · split
      · rename_i three
        have bits : v = 64 * (64 * (v / 4096 % 16) + v / 64 % 64) + v % 64 := by omega
        have spells := Spells.three (k := v / 4096 % 16) (m := v / 64 % 64) (n := v % 64) (by omega)
          (by omega) (by omega) (by omega) (by omega)
        rwa [← bits] at spells
      · have bits : v = 64 * (64 * (64 * (v / 262144 % 8) + v / 4096 % 64) + v / 64 % 64) + v % 64 := by
          omega
        have spells := Spells.four (j := v / 262144 % 8) (k := v / 4096 % 64) (m := v / 64 % 64)
          (n := v % 64) (by omega) (by omega) (by omega) (by omega) (by omega) (by omega)
        rwa [← bits] at spells

theorem Spells.ne_nil {v : Nat} {b : Bytes} (spells : Spells v b) : b ≠ [] := by
  cases spells <;> exact List.cons_ne_nil _ _

theorem chunks_encodeChar (c : Char) (b : Bytes) :
    chunks (String.utf8EncodeChar c ++ b) = some c :: chunks b := by
  have spells := spells_encodeChar c
  cases bytes : String.utf8EncodeChar c with
  | nil => exact absurd bytes spells.ne_nil
  | cons lead tail =>
    rw [bytes] at spells
    rw [List.cons_append, chunks, chunk_of_spells spells, Char.ofNat_toNat]

theorem utf8_append (s t : List Char) : utf8 (s ++ t) = utf8 s ++ utf8 t := List.flatMap_append

theorem length_utf8 (s : List Char) : (utf8 s).length = utf8Size s := by
  have fold (n : Nat) : s.foldl (fun size c => size + c.utf8Size) n = n + (utf8 s).length := by
    induction s generalizing n with
    | nil => rfl
    | cons c s ih =>
      rw [utf8] at ih ⊢
      rw [List.foldl_cons, ih, List.flatMap_cons, List.length_append, String.length_utf8EncodeChar,
        Nat.add_assoc]
  rw [utf8Size, fold, Nat.zero_add]

theorem chunks_utf8_append (s : List Char) (b : Bytes) :
    chunks (utf8 s ++ b) = s.map some ++ chunks b := by
  induction s with
  | nil => rfl
  | cons c s ih =>
    rw [utf8] at ih ⊢
    rw [List.flatMap_cons, List.append_assoc, chunks_encodeChar, ih, List.map_cons, List.cons_append]

theorem chunks_utf8 (s : List Char) : chunks (utf8 s) = s.map some := by
  have whole := chunks_utf8_append s []
  rwa [List.append_nil, chunks, List.append_nil] at whole

theorem lossy_utf8 (s : List Char) : lossy (utf8 s) = s := by
  rw [lossy, chunks_utf8, List.map_map]
  exact List.map_id s

theorem mapM_id_eq_some {α : Type} {xs : List (Option α)} {ys : List α} :
    xs.mapM id = some ys ↔ xs = ys.map some := by
  induction xs generalizing ys with
  | nil => cases ys <;> simp
  | cons x xs ih =>
    rw [List.mapM_cons]
    cases x with
    | none => cases ys <;> simp
    | some a =>
      cases ys with
      | nil => simp [Option.bind_eq_some_iff]
      | cons y ys =>
        have rest := @ih ys
        cases known : xs.mapM id <;> simp_all

theorem ofUtf8?_utf8 (s : List Char) : ofUtf8? (utf8 s) = some s := by
  rw [ofUtf8?, chunks_utf8, mapM_id_eq_some]

/-! What is read as a character spells it. -/

theorem follow_eq_some {low high : UInt8} {rs : List (UInt8 × UInt8)} {v : Nat} {b rest : Bytes}
    {c : Char} (read : follow ((low, high) :: rs) v b = (some c, rest)) :
    ∃ n b', b = UInt8.ofNat n :: b' ∧ low.toNat ≤ n ∧ n ≤ high.toNat ∧
      follow rs (64 * v + n % 64) b' = (some c, rest) := by
  cases b with
  | nil => simp [follow] at read
  | cons x b =>
    simp only [follow] at read
    split at read
    · rename_i within
      exact ⟨x.toNat, b, by rw [UInt8.ofNat_toNat], within.1, within.2, read⟩
    · simp at read

def SpellsBehind (n : Nat) (b rest : Bytes) (c : Char) : Prop :=
  ∃ v tail, b = tail ++ rest ∧ Spells v (UInt8.ofNat n :: tail) ∧ c = Char.ofNat v

theorem spells_two {n : Nat} {b rest : Bytes} {c : Char} (above : 194 ≤ n) (below : n < 224)
    (read : follow [(0x80, 0xBF)] (n % 32) b = (some c, rest)) : SpellsBehind n b rest c := by
  obtain ⟨x, b, rfl, low, high, read⟩ := follow_eq_some read
  simp only [follow_nil, Prod.mk.injEq, Option.some.injEq] at read
  obtain ⟨rfl, rfl⟩ := read
  simp only [UInt8.reduceToNat] at low high
  have spells := Spells.two (m := n - 192) (n := x - 128) (by omega) (by omega) (by omega)
  have front : n - 192 + 192 = n := by omega
  have last : x - 128 + 128 = x := by omega
  have value : 64 * (n - 192) + (x - 128) = 64 * (n % 32) + x % 64 := by omega
  rw [front, last, value] at spells
  exact ⟨_, [UInt8.ofNat x], rfl, spells, rfl⟩

theorem spells_three {low high : UInt8} {n : Nat} {b rest : Bytes} {c : Char} (above : 224 ≤ n)
    (below : n < 240) (least : 128 ≤ low.toNat) (most : high.toNat ≤ 191)
    (long : n ≠ 224 ∨ 160 ≤ low.toNat) (whole : n ≠ 237 ∨ high.toNat ≤ 159)
    (read : follow [(low, high), (0x80, 0xBF)] (n % 16) b = (some c, rest)) :
    SpellsBehind n b rest c := by
  obtain ⟨x, b, rfl, first, firstMost, read⟩ := follow_eq_some read
  obtain ⟨y, b, rfl, second, secondMost, read⟩ := follow_eq_some read
  simp only [follow_nil, Prod.mk.injEq, Option.some.injEq] at read
  obtain ⟨rfl, rfl⟩ := read
  simp only [UInt8.reduceToNat] at second secondMost
  have spells := Spells.three (k := n - 224) (m := x - 128) (n := y - 128) (by omega) (by omega)
    (by omega) (by omega) (by omega)
  have front : n - 224 + 224 = n := by omega
  have middle : x - 128 + 128 = x := by omega
  have last : y - 128 + 128 = y := by omega
  have value : 64 * (64 * (n - 224) + (x - 128)) + (y - 128) =
      64 * (64 * (n % 16) + x % 64) + y % 64 := by omega
  rw [front, middle, last, value] at spells
  exact ⟨_, [UInt8.ofNat x, UInt8.ofNat y], rfl, spells, rfl⟩

theorem spells_four {low high : UInt8} {n : Nat} {b rest : Bytes} {c : Char} (above : 240 ≤ n)
    (below : n < 245) (least : 128 ≤ low.toNat) (most : high.toNat ≤ 191)
    (long : n ≠ 240 ∨ 144 ≤ low.toNat) (short : n ≠ 244 ∨ high.toNat ≤ 143)
    (read : follow [(low, high), (0x80, 0xBF), (0x80, 0xBF)] (n % 8) b = (some c, rest)) :
    SpellsBehind n b rest c := by
  obtain ⟨x, b, rfl, first, firstMost, read⟩ := follow_eq_some read
  obtain ⟨y, b, rfl, second, secondMost, read⟩ := follow_eq_some read
  obtain ⟨z, b, rfl, third, thirdMost, read⟩ := follow_eq_some read
  simp only [follow_nil, Prod.mk.injEq, Option.some.injEq] at read
  obtain ⟨rfl, rfl⟩ := read
  simp only [UInt8.reduceToNat] at second secondMost third thirdMost
  have spells := Spells.four (j := n - 240) (k := x - 128) (m := y - 128) (n := z - 128) (by omega)
    (by omega) (by omega) (by omega) (by omega) (by omega)
  have front : n - 240 + 240 = n := by omega
  have next : x - 128 + 128 = x := by omega
  have middle : y - 128 + 128 = y := by omega
  have last : z - 128 + 128 = z := by omega
  have value : 64 * (64 * (64 * (n - 240) + (x - 128)) + (y - 128)) + (z - 128) =
      64 * (64 * (64 * (n % 8) + x % 64) + y % 64) + z % 64 := by omega
  rw [front, next, middle, last, value] at spells
  exact ⟨_, [UInt8.ofNat x, UInt8.ofNat y, UInt8.ofNat z], rfl, spells, rfl⟩

/-- A chunk that is a character spells it; the cases are the rows of the table of followers. -/
theorem spells_of_chunk {n : Nat} {b rest : Bytes} {c : Char} (byte : n < 256)
    (read : chunk (UInt8.ofNat n) b = (some c, rest)) : SpellsBehind n b rest c := by
  obtain ⟨zero, one, two, three⟩ := leadBits_ofNat byte
  cases known : followers (UInt8.ofNat n) with
  | none =>
    rw [chunk, known] at read
    simp at read
  | some rs =>
    rw [chunk_ofNat known] at read
    rw [followers_ofNat byte] at known
    split_ifs at known with h1 h2 h3 h4 h5 h6 h7 h8 h9 <;> obtain rfl := Option.some.inj known
    · simp only [List.length_nil, zero, follow_nil, Prod.mk.injEq, Option.some.injEq] at read
      obtain ⟨rfl, rfl⟩ := read
      exact ⟨n, [], rfl, .one h1, rfl⟩
    · exact spells_two (by omega) (by omega) (one ▸ read)
    · exact spells_three (by omega) (by omega) (by decide) (by decide) (.inr (by decide))
        (.inl (by omega)) (two ▸ read)
    · exact spells_three (by omega) (by omega) (by decide) (by decide) (.inl (by omega))
        (.inr (by decide)) (two ▸ read)
    · exact spells_three (by omega) (by omega) (by decide) (by decide) (.inl h4) (.inl h5) (two ▸ read)
    · exact spells_four (by omega) (by omega) (by decide) (by decide) (.inr (by decide))
        (.inl (by omega)) (three ▸ read)
    · exact spells_four (by omega) (by omega) (by decide) (by decide) (.inl h7) (.inl (by omega))
        (three ▸ read)
    · exact spells_four (by omega) (by omega) (by decide) (by decide) (.inl (by omega))
        (.inr (by decide)) (three ▸ read)

namespace Spells

theorem valid {v : Nat} {b : Bytes} (spells : Spells v b) :
    v < 0xD800 ∨ 0xDFFF < v ∧ v < 0x110000 := by
  cases spells <;> omega

theorem toNat_ofNat {v : Nat} {b : Bytes} (spells : Spells v b) : (Char.ofNat v).toNat = v := by
  have valid : v.isValidChar := spells.valid
  rw [Char.ofNat, dif_pos valid]
  rfl

theorem unique {v : Nat} {b c : Bytes} (first : Spells v b) (second : Spells v c) : b = c := by
  cases first with
  | one small => cases second <;> first | rfl | omega
  | @two m n long front last =>
    generalize same : 64 * m + n = w at second
    cases second with
    | @two m' n' =>
      obtain ⟨rfl, rfl⟩ : m = m' ∧ n = n' := by omega
      rfl
    | one | three | four => omega
  | @three k m n front long whole middle last =>
    generalize same : 64 * (64 * k + m) + n = w at second
    cases second with
    | @three k' m' n' =>
      obtain ⟨rfl, rfl, rfl⟩ : k = k' ∧ m = m' ∧ n = n' := by omega
      rfl
    | one | two | four => omega
  | @four j k m n front long below second' third last =>
    generalize same : 64 * (64 * (64 * j + k) + m) + n = w at second
    cases second with
    | @four j' k' m' n' =>
      obtain ⟨rfl, rfl, rfl, rfl⟩ : j = j' ∧ k = k' ∧ m = m' ∧ n = n' := by omega
      rfl
    | one | two | three => omega

theorem encodeChar_eq {v : Nat} {b : Bytes} (spells : Spells v b) :
    String.utf8EncodeChar (Char.ofNat v) = b := by
  have own := spells_encodeChar (Char.ofNat v)
  rw [spells.toNat_ofNat] at own
  exact own.unique spells

theorem eq_of_mem_of_ascii {v : Nat} {b : Bytes} {x : UInt8} (spells : Spells v b) (ascii : x.toNat < 128)
    (there : x ∈ b) : v = x.toNat := by
  have own {n : Nat} (byte : n < 256) (same : x = UInt8.ofNat n) : n = x.toNat := by
    rw [same, UInt8.toNat_ofNat_of_lt' byte]
  cases spells with
  | one small =>
    simp only [List.mem_singleton] at there
    exact own (by omega) there
  | two long front last =>
    simp only [List.mem_cons, List.not_mem_nil, or_false] at there
    rcases there with there | there <;> have := own (by omega) there <;> omega
  | three front long whole middle last =>
    simp only [List.mem_cons, List.not_mem_nil, or_false] at there
    rcases there with there | there | there <;> have := own (by omega) there <;> omega
  | four front long below second third last =>
    simp only [List.mem_cons, List.not_mem_nil, or_false] at there
    rcases there with there | there | there | there <;> have := own (by omega) there <;> omega

end Spells

theorem chunk_eq_some {lead : UInt8} {b rest : Bytes} {c : Char}
    (read : chunk lead b = (some c, rest)) : lead :: b = String.utf8EncodeChar c ++ rest := by
  rw [← UInt8.ofNat_toNat (x := lead)] at read ⊢
  obtain ⟨v, tail, rfl, spells, rfl⟩ := spells_of_chunk lead.toNat_lt read
  rw [spells.encodeChar_eq, List.cons_append]

theorem utf8_of_chunks {b : Bytes} {s : List Char} (read : chunks b = s.map some) : b = utf8 s := by
  induction s generalizing b with
  | nil =>
    cases b with
    | nil => rfl
    | cons lead b => simp [chunks] at read
  | cons c s ih =>
    cases b with
    | nil => simp [chunks] at read
    | cons lead b =>
      rw [chunks, List.map_cons, List.cons.injEq] at read
      have first : chunk lead b = (some c, (chunk lead b).2) := Prod.ext read.1 rfl
      have rest := ih read.2
      rw [chunk_eq_some first]
      exact congrArg (String.utf8EncodeChar c ++ ·) rest

theorem ofUtf8?_eq_some_iff {b : Bytes} {s : List Char} : ofUtf8? b = some s ↔ b = utf8 s := by
  constructor
  · intro read
    exact utf8_of_chunks (mapM_id_eq_some.mp read)
  · rintro rfl
    exact ofUtf8?_utf8 s

theorem follow_suffix (rs : List (UInt8 × UInt8)) (v : Nat) (b : Bytes) : (follow rs v b).2 <:+ b := by
  induction rs generalizing v b with
  | nil => exact List.suffix_refl b
  | cons r rs ih =>
    cases b with
    | nil => exact List.suffix_refl []
    | cons x b =>
      simp only [follow]
      split
      · exact (ih _ b).trans (List.suffix_cons x b)
      · exact List.suffix_refl _

theorem chunk_suffix (lead : UInt8) (b : Bytes) : (chunk lead b).2 <:+ b := by
  unfold chunk
  split
  · exact List.suffix_refl b
  · exact follow_suffix _ _ b

theorem mem_of_mem_chunks {b : Bytes} {c : Char} (member : some c ∈ chunks b) {x : UInt8}
    (byte : x ∈ String.utf8EncodeChar c) : x ∈ b := by
  induction b using chunks.induct with
  | case1 => simp [chunks] at member
  | case2 lead b ih =>
    rw [chunks, List.mem_cons] at member
    rcases member with here | behind
    · have first : chunk lead b = (some c, (chunk lead b).2) := Prod.ext here.symm rfl
      rw [chunk_eq_some first]
      exact List.mem_append_left _ byte
    · exact List.mem_cons_of_mem lead ((chunk_suffix lead b).mem (ih behind))

theorem nul_not_mem_lossy {b : Bytes} (free : 0 ∉ b) : Char.ofNat 0 ∉ lossy b := by
  intro nul
  obtain ⟨chunk, member, same⟩ := List.mem_map.mp nul
  cases chunk with
  | none => exact absurd same (by decide)
  | some c =>
    obtain rfl : c = Char.ofNat 0 := same
    exact free (mem_of_mem_chunks member (by decide))

theorem not_mem_utf8 {c : Char} {s : List Char} (ascii : c.toNat < 128) (free : c ∉ s) :
    UInt8.ofNat c.toNat ∉ utf8 s := by
  intro there
  obtain ⟨d, member, byte⟩ := List.mem_flatMap.mp there
  have code : (UInt8.ofNat c.toNat).toNat = c.toNat :=
    UInt8.toNat_ofNat_of_lt' (Nat.lt_trans ascii (by decide))
  have same := (spells_encodeChar d).eq_of_mem_of_ascii (by rwa [code]) byte
  rw [code] at same
  rw [← Char.ofNat_toNat d, same, Char.ofNat_toNat] at member
  exact free member

theorem zero_not_mem_utf8 {s : List Char} (free : Char.ofNat 0 ∉ s) : 0 ∉ utf8 s :=
  not_mem_utf8 (c := Char.ofNat 0) (by decide) free

end IdentityDirectory.Text
