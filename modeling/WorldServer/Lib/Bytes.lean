import Mathlib.Data.Nat.Digits.Defs

/-!
# Numbers as bytes and key streams

A number is sent in a fixed number of bytes, the lowest first. A stream cipher combines bytes with
the bytes that a generator gives; the same generator takes them back.
-/
namespace WorldServer.Lib

/-- The bytes of a text in ASCII -/
def ascii (text : String) : List UInt8 := text.toList.map fun c => UInt8.ofNat c.toNat

/-! ### Little endian -/

/-- The lowest `width` bytes of a number, the lowest first. -/
def toBytes : ℕ → ℕ → List UInt8
  | 0, _ => []
  | width + 1, n => UInt8.ofNat n :: toBytes width (n / 256)

def ofBytes : List UInt8 → ℕ
  | [] => 0
  | b :: bs => b.toNat + 256 * ofBytes bs

@[simp] lemma length_toBytes (width n : ℕ) : (toBytes width n).length = width := by
  induction width generalizing n with
  | zero => rfl
  | succ width ih => rw [toBytes, List.length_cons, ih]

@[simp] lemma ofBytes_toBytes (width n : ℕ) : ofBytes (toBytes width n) = n % 256 ^ width := by
  induction width generalizing n with
  | zero => rw [toBytes, ofBytes, pow_zero, Nat.mod_one]
  | succ width ih =>
    rw [toBytes, ofBytes, ih, UInt8.toNat_ofNat']
    rw [pow_succ' 256 width]
    exact (Nat.mod_mul (x := n)).symm

@[simp] lemma toBytes_ofBytes (bytes : List UInt8) :
    toBytes bytes.length (ofBytes bytes) = bytes := by
  induction bytes with
  | nil => rfl
  | cons b bs ih =>
    have byte : b.toNat < 256 := b.toNat_lt
    have low : UInt8.ofNat (ofBytes (b :: bs)) = b := by
      apply UInt8.toNat_inj.mp
      rw [UInt8.toNat_ofNat', ofBytes]
      omega
    have high : ofBytes (b :: bs) / 256 = ofBytes bs := by
      rw [ofBytes]
      omega
    rw [List.length_cons, toBytes, low, high, ih]

lemma ofBytes_lt (bytes : List UInt8) : ofBytes bytes < 256 ^ bytes.length := by
  rw [← toBytes_ofBytes bytes, ofBytes_toBytes, toBytes_ofBytes]
  exact Nat.mod_lt _ (by positivity)

lemma ofBytes_eq_ofDigits (bytes : List UInt8) :
    ofBytes bytes = Nat.ofDigits 256 (bytes.map UInt8.toNat) := by
  induction bytes with
  | nil => rfl
  | cons b bs ih =>
    rw [ofBytes, List.map_cons, Nat.ofDigits_cons, ih]

def numBytes (n : ℕ) : ℕ := (Nat.digits 256 n).length

/-- The bytes of a number as a big number gives them out: the highest first, none of them a leading
zero. -/
def bn2bin (n : ℕ) : List UInt8 := (toBytes (numBytes n) n).reverse

/-- The array is filled from its beginning with the bytes that `bn2bin` gives, and reversed as a
whole. -/
def asBytes (minSize n : ℕ) : List UInt8 :=
  let length := if numBytes n ≤ minSize then minSize else numBytes n
  (bn2bin n ++ List.replicate (length - numBytes n) 0).reverse

/-- What is missing to the minimal size stands before the lowest byte. -/
lemma asBytes_eq (minSize n : ℕ) :
    asBytes minSize n = List.replicate (minSize - numBytes n) 0 ++ toBytes (numBytes n) n := by
  have missing : (if numBytes n ≤ minSize then minSize else numBytes n) - numBytes n =
      minSize - numBytes n := by
    split <;> omega
  rw [asBytes, missing, bn2bin, List.reverse_append, List.reverse_replicate, List.reverse_reverse]

lemma length_asBytes (minSize n : ℕ) : (asBytes minSize n).length = max minSize (numBytes n) := by
  rw [asBytes_eq, List.length_append, List.length_replicate, length_toBytes]
  omega

lemma numBytes_ofBytes {bytes : List UInt8} (some : bytes ≠ []) (last : bytes.getLast some ≠ 0) :
    numBytes (ofBytes bytes) = bytes.length := by
  rw [numBytes, ofBytes_eq_ofDigits, Nat.digits_ofDigits 256 (by decide)]
  · exact List.length_map _
  · intro digit hm
    obtain ⟨b, _, rfl⟩ := List.mem_map.mp hm
    exact b.toNat_lt
  · intro nonempty
    rw [List.getLast_map]
    exact fun zero => last (UInt8.toNat_inj.mp zero)

lemma asBytes_ofBytes {bytes : List UInt8} (some : bytes ≠ []) (last : bytes.getLast some ≠ 0) :
    asBytes 0 (ofBytes bytes) = bytes := by
  rw [asBytes_eq, numBytes_ofBytes some last, Nat.zero_sub, List.replicate_zero, List.nil_append,
    toBytes_ofBytes]

/-- The power modulo `m`, by squaring. -/
def modExp (base exp m : ℕ) : ℕ :=
  if exp = 0 then 1 % m
  else
    let half := modExp base (exp / 2) m
    if exp % 2 = 0 then half * half % m else half * half * base % m
termination_by exp

lemma modExp_eq (base exp m : ℕ) : modExp base exp m = base ^ exp % m := by
  fun_induction modExp base exp m with
  | case1 => rw [pow_zero]
  | case2 exp _ half even ih =>
    have twice : exp = exp / 2 + exp / 2 := by omega
    rw [show half = base ^ (exp / 2) % m from ih, ← Nat.mul_mod, ← pow_add, ← twice]
  | case3 exp _ half odd ih =>
    have twice : exp = exp / 2 + exp / 2 + 1 := by omega
    rw [show half = base ^ (exp / 2) % m from ih, Nat.mul_mod, ← Nat.mul_mod (base ^ (exp / 2)),
      ← Nat.mul_mod, ← pow_add, ← pow_succ, ← twice]

section KeyStream

variable {κ : Type} (next : κ → UInt8 × κ)

def combine : κ → List UInt8 → List UInt8 × κ
  | k, [] => ([], k)
  | k, b :: bs =>
    let rest := combine (next k).2 bs
    ((b ^^^ (next k).1) :: rest.1, rest.2)

@[simp] lemma length_combine (k : κ) (bs : List UInt8) :
    (combine next k bs).1.length = bs.length := by
  induction bs generalizing k with
  | nil => rfl
  | cons b bs ih => rw [combine, List.length_cons, List.length_cons, ih]

lemma combine_combine (k : κ) (bs : List UInt8) :
    combine next k (combine next k bs).1 = (bs, (combine next k bs).2) := by
  induction bs generalizing k with
  | nil => rfl
  | cons b bs ih =>
    have hs : b ^^^ (next k).1 ^^^ (next k).1 = b := by
      rw [UInt8.xor_assoc, UInt8.xor_self, UInt8.xor_zero]
    rw [combine, combine, ih, hs]

end KeyStream

end WorldServer.Lib
