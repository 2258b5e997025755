import Mathlib.Algebra.Order.Ring.Int
import Mathlib.Data.Nat.Bitwise

/-!
# Machine words as integers

What the casts between signed and unsigned words do to the integers they stand
for. Signed arithmetic wraps in two's complement.
-/
namespace WorldServer.Lib

lemma toNat_toUInt64 (x : Int64) : (x.toUInt64.toNat : ℤ) = x.toInt % 2 ^ 64 := by
  have small := x.toBitVec.isLt
  rw [← Int64.toNat_toBitVec, ← Int64.toInt_toBitVec, BitVec.toInt_eq_toNat_cond]
  split <;> omega

lemma toInt64_bounds (x : Int64) : -2 ^ 63 ≤ x.toInt ∧ x.toInt < 2 ^ 63 :=
  ⟨x.le_toInt, x.toInt_lt⟩

lemma toInt_toInt64 {x : UInt64} (small : x.toNat < 2 ^ 63) : x.toInt64.toInt = x.toNat := by
  have bounds := toInt64_bounds x.toInt64
  have hs := toNat_toUInt64 x.toInt64
  rw [UInt64.toUInt64_toInt64] at hs
  omega

lemma toInt_neg {x : Int64} (above : -2 ^ 63 < x.toInt) : (-x).toInt = -x.toInt := by
  have bounds := toInt64_bounds x
  rw [Int64.toInt_neg, Int.bmod_eq_of_le] <;> omega

/-- Negating and then dropping the sign is negation modulo `2 ^ 64`, also at the least
signed word. -/
lemma toNat_toUInt64_neg (x : Int64) : ((-x).toUInt64.toNat : ℤ) = -x.toInt % 2 ^ 64 := by
  rw [toNat_toUInt64, Int64.toInt_neg]
  exact Int.bmod_emod

/-! ### 32 bits -/

lemma toInt_toInt32_mod (x : UInt32) : x.toInt32.toInt % 2 ^ 32 = x.toNat := by
  have small := x.toBitVec.isLt
  change x.toBitVec.toInt % 2 ^ 32 = (x.toBitVec.toNat : ℤ)
  rw [BitVec.toInt_eq_toNat_cond]
  split <;> omega

lemma toInt_toInt32 {x : UInt32} (small : x.toNat < 2 ^ 31) : x.toInt32.toInt = x.toNat := by
  have upper := x.toInt32.toInt_lt
  have lower := x.toInt32.le_toInt
  have hs := toInt_toInt32_mod x
  omega

lemma toInt32_toUInt32 (x : UInt64) : x.toUInt32.toInt32 = Int32.ofNat x.toNat := by
  apply Int32.toBitVec_inj.mp
  apply BitVec.eq_of_toNat_eq
  change x.toUInt32.toNat = (BitVec.ofNat 32 x.toNat).toNat
  simp

lemma toInt_sub_counter (limit : UInt32) (n : ℕ) :
    (limit.toInt32 - Int32.ofNat n).toInt % 2 ^ 32 = ((limit.toNat : ℤ) - n) % 2 ^ 32 := by
  have value := toInt_toInt32_mod limit
  have wraps : (limit.toInt32 - Int32.ofNat n).toInt % 2 ^ 32 =
      (limit.toInt32.toInt - (Int32.ofNat n).toInt) % 2 ^ 32 := by
    rw [Int32.toInt_sub]
    exact Int.bmod_emod
  have counter : (Int32.ofNat n).toInt % 2 ^ 32 = (n : ℤ) % 2 ^ 32 := by
    rw [Int32.toInt_ofNat']
    exact Int.bmod_emod
  omega

lemma and_twoPow (x : UInt32) (i : ℕ) (bit : UInt32) (isBit : bit.toNat = 2 ^ i) :
    x &&& bit = 0 ∨ x &&& bit = bit := by
  have value : (x &&& bit).toNat = (x.toNat.testBit i).toNat * 2 ^ i := by
    rw [UInt32.toNat_and, isBit, Nat.and_two_pow]
  cases set : x.toNat.testBit i with
  | false =>
    left
    apply UInt32.toNat_inj.mp
    simpa [set] using value
  | true =>
    right
    apply UInt32.toNat_inj.mp
    rw [value, set, isBit]
    simp

lemma and_not_or_and (x mask : UInt32) : (x &&& ~~~mask) ||| (x &&& mask) = x := by
  apply UInt32.toBitVec_inj.mp
  apply BitVec.eq_of_getLsbD_eq
  intro i small
  simp only [UInt32.toBitVec_or, UInt32.toBitVec_and, UInt32.toBitVec_not, BitVec.getLsbD_or,
    BitVec.getLsbD_and, BitVec.getLsbD_not]
  cases x.toBitVec.getLsbD i <;> cases mask.toBitVec.getLsbD i <;> simp [small]

/-! ### 8 bits -/

lemma toNat_add_one {a : UInt8} (small : a.toNat < 255) : (a + 1).toNat = a.toNat + 1 := by
  exact Nat.mod_eq_of_lt (by simpa using (by omega : a.toNat + 1 < 256))

lemma toNat_sub_one {a : UInt8} (positive : 0 < a.toNat) : (a - 1).toNat = a.toNat - 1 := by
  have small := a.toNat_lt
  rw [UInt8.toNat_sub]
  have one : (1 : UInt8).toNat = 1 := rfl
  omega

lemma ext_bits {a b : UInt8} (hs : ∀ i < 8, a.toBitVec.getLsbD i = b.toBitVec.getLsbD i) :
    a = b := by
  apply UInt8.toBitVec_inj.mp
  apply BitVec.eq_of_getLsbD_eq
  exact hs

lemma or_and_mask (a mask : UInt8) : (a ||| mask) &&& mask = mask := by
  apply ext_bits
  intro i small
  simp only [UInt8.toBitVec_and, UInt8.toBitVec_or, BitVec.getLsbD_and, BitVec.getLsbD_or]
  cases mask.toBitVec.getLsbD i <;> simp

lemma and_mask_of_disjoint {other mask : UInt8} (disjoint : other &&& mask = 0) (a : UInt8) :
    (a ||| other) &&& mask = a &&& mask ∧ (a &&& ~~~other) &&& mask = a &&& mask := by
  have outside : ∀ i, (other.toBitVec.getLsbD i && mask.toBitVec.getLsbD i) = false := by
    intro i
    have bit := congrArg (·.toBitVec.getLsbD i) disjoint
    simpa only [UInt8.toBitVec_and, BitVec.getLsbD_and, UInt8.toBitVec_ofNat, BitVec.getLsbD_zero]
      using bit
  constructor
  · apply ext_bits
    intro i small
    have bit := outside i
    cases isMask : mask.toBitVec.getLsbD i <;> simp_all
  · apply ext_bits
    intro i small
    have bit := outside i
    cases isMask : mask.toBitVec.getLsbD i <;> simp_all

instance decidableForallUInt8 (P : UInt8 → Prop) [DecidablePred P] : Decidable (∀ x, P x) :=
  decidable_of_iff (∀ i : Fin 256, P (UInt8.ofFin i))
    ⟨fun all x => all x.toFin, fun all i => all (UInt8.ofFin i)⟩

end WorldServer.Lib
