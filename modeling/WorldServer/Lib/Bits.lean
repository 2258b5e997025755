import Mathlib.Tactic.IntervalCases
import Mathlib.Data.Nat.Bitwise

/-!
# Bits of a byte and bytes of a number

A byte as the run of its bits, the most significant first, and a number as the list of its
bytes, the least significant first.
-/
namespace WorldServer.Lib

/-! ### The bits of a byte -/

/-- Bit `i` of a byte, counted from the most significant. -/
def bitAt (byte : UInt8) (i : ℕ) : Bool := byte.toNat.testBit (7 - i)

lemma bitAt_ext {a b : UInt8} (hs : ∀ i < 8, bitAt a i = bitAt b i) : a = b := by
  apply UInt8.toNat_inj.mp
  apply Nat.eq_of_testBit_eq
  intro i
  by_cases small : i < 8
  · have here := hs (7 - i) (by omega)
    rwa [bitAt, bitAt, show 7 - (7 - i) = i by omega] at here
  · have high : ∀ x : UInt8, x.toNat.testBit i = false := fun x =>
      Nat.testBit_lt_two_pow
        (lt_of_lt_of_le x.toNat_lt (Nat.pow_le_pow_right (by omega) (by omega)))
    rw [high a, high b]

/-- A run of bits from the most significant bit of a byte on, padded with zeros. -/
def packBits (run : List Bool) : UInt8 :=
  UInt8.ofNat (Nat.ofBits fun i : Fin 8 => run.getD (7 - i) false)

lemma bitAt_packBits (run : List Bool) {i : ℕ} (small : i < 8) :
    bitAt (packBits run) i = run.getD i false := by
  have fits := Nat.ofBits_lt_two_pow fun i : Fin 8 => run.getD (7 - i) false
  rw [bitAt, packBits, UInt8.toNat_ofNat', Nat.mod_eq_of_lt fits,
    Nat.testBit_ofBits_lt _ _ (by omega)]
  simp only [show 7 - (7 - i) = i by omega]

lemma packBits_nil : packBits [] = 0 := by
  decide

lemma bitAt_or (a b : UInt8) (i : ℕ) : bitAt (a ||| b) i = (bitAt a i || bitAt b i) := by
  simp [bitAt]

lemma bitAt_one_shiftLeft {position i : ℕ} (low : position < 8) (small : i < 8) :
    bitAt ((1 : UInt8) <<< UInt8.ofNat position) i = decide (i = 7 - position) := by
  interval_cases position <;> interval_cases i <;> rfl

lemma shiftRight_and_one (byte : UInt8) {position : ℕ} (low : position < 8) :
    ((byte >>> UInt8.ofNat position) &&& 1 != 0) = bitAt byte (7 - position) := by
  have bottom : ((byte >>> UInt8.ofNat position) &&& 1).toNat
      = (byte.toNat.testBit position).toNat := by
    have shift : position % 256 % 8 = position := by omega
    simp only [UInt8.toNat_and, UInt8.toNat_shiftRight, UInt8.toNat_ofNat', UInt8.toNat_one,
      Nat.reducePow, shift]
    rw [Nat.and_one_is_mod, Nat.testBit_eq_decide_div_mod_eq, Nat.shiftRight_eq_div_pow]
    rcases Nat.mod_two_eq_zero_or_one (byte.toNat / 2 ^ position) with even | odd
    · simp [even]
    · simp [odd]
  rw [bitAt, show 7 - (7 - position) = position by omega]
  cases set : byte.toNat.testBit position with
  | false =>
    have zero : (byte >>> UInt8.ofNat position) &&& 1 = 0 := by
      apply UInt8.toNat_inj.mp
      simpa [set] using bottom
    simp [zero]
  | true =>
    have nonzero : (byte >>> UInt8.ofNat position) &&& 1 ≠ 0 := by
      intro zero
      simp [zero, set] at bottom
    simp [nonzero]

/-! ### The bits of a number -/

/-- The low `k` bits of a number, the most significant first. -/
def bitsOf (value : ℕ) : ℕ → List Bool
  | 0 => []
  | k + 1 => value.testBit k :: bitsOf value k

@[simp] lemma length_bitsOf (value k : ℕ) : (bitsOf value k).length = k := by
  induction k with
  | zero => rfl
  | succ k ih => simp [bitsOf, ih]

lemma mem_bitsOf {value k : ℕ} {bit : Bool} (mem : bit ∈ bitsOf value k) :
    ∃ j < k, value.testBit j = bit := by
  induction k with
  | zero => simp [bitsOf] at mem
  | succ k ih =>
    rcases List.mem_cons.mp mem with rfl | mem
    · exact ⟨k, by omega, rfl⟩
    · obtain ⟨j, below, hs⟩ := ih mem
      exact ⟨j, by omega, hs⟩

lemma getD_reverse_bitsOf (value k j : ℕ) :
    (bitsOf value k).reverse.getD j false = (decide (j < k) && value.testBit j) := by
  induction k with
  | zero => simp [bitsOf]
  | succ k ih =>
    rw [bitsOf, List.reverse_cons]
    rcases lt_trichotomy j k with below | rfl | above
    · rw [List.getD_append _ _ _ _ (by simpa using below), ih]
      simp [below, Nat.lt_succ_of_lt below]
    · simp
    · have beyond : ¬ j < k + 1 := by omega
      simp [beyond]

/-- A word with the given bits set, the most significant first. -/
def bitsFrom (word : UInt32) : List Bool → UInt32
  | [] => word
  | bit :: rest =>
    bitsFrom (if bit then word ||| (1 : UInt32) <<< UInt32.ofNat rest.length else word) rest

lemma testBit_bitsFrom (word : UInt32) {bits : List Bool} (fits : bits.length ≤ 32) {j : ℕ}
    (low : j < 32) : (bitsFrom word bits).toNat.testBit j =
      (word.toNat.testBit j || bits.reverse.getD j false) := by
  induction bits generalizing word with
  | nil => simp [bitsFrom]
  | cons bit rest ih =>
    have shorter : rest.length < 32 := fits
    have mask : ((1 : UInt32) <<< UInt32.ofNat rest.length).toNat = 2 ^ rest.length := by
      have power : 2 ^ rest.length < 2 ^ 32 := Nat.pow_lt_pow_right (by omega) shorter
      have shift : rest.length % 2 ^ 32 % 32 = rest.length := by omega
      rw [UInt32.toNat_shiftLeft, UInt32.toNat_ofNat', shift, UInt32.toNat_one, Nat.one_shiftLeft,
        Nat.mod_eq_of_lt power]
    have set : (if bit then word ||| (1 : UInt32) <<< UInt32.ofNat rest.length
        else word).toNat.testBit j = (word.toNat.testBit j || (bit && decide (rest.length = j))) := by
      cases bit with
      | true => simp only [if_true, UInt32.toNat_or, Nat.testBit_or, mask, Nat.testBit_two_pow,
          Bool.true_and]
      | false => simp
    rw [bitsFrom, ih _ shorter.le, set, List.reverse_cons]
    rcases lt_trichotomy j rest.length with below | rfl | above
    · rw [List.getD_append _ _ _ _ (by simpa using below)]
      simp [below.ne']
    · simp
    · rw [List.getD_eq_default _ _ (by simp; omega), List.getD_eq_default _ _ (by simp; omega)]
      simp [above.ne]

lemma bitsFrom_bitsOf {value k : ℕ} (narrow : k ≤ 32) (fits : value < 2 ^ k) :
    (bitsFrom 0 (bitsOf value k)).toNat = value := by
  apply Nat.eq_of_testBit_eq
  intro j
  have high : ∀ x < 2 ^ 32, 32 ≤ j → x.testBit j = false := fun x small above =>
    Nat.testBit_lt_two_pow (lt_of_lt_of_le small (Nat.pow_le_pow_right (by omega) above))
  by_cases low : j < 32
  · rw [testBit_bitsFrom 0 (by simpa using narrow) low, getD_reverse_bitsOf]
    by_cases inside : j < k
    · simp [inside]
    · have clear : value.testBit j = false :=
        Nat.testBit_lt_two_pow (lt_of_lt_of_le fits (Nat.pow_le_pow_right (by omega) (by omega)))
      simp [inside, clear]
  · have small : value < 2 ^ 32 :=
      lt_of_lt_of_le fits (Nat.pow_le_pow_right (by omega) narrow)
    rw [high _ (UInt32.toNat_lt _) (by omega), high _ small (by omega)]

lemma bitsFrom_inj {left right : List Bool} (fits : left.length ≤ 32)
    (length : left.length = right.length) (hs : bitsFrom 0 left = bitsFrom 0 right) :
    left = right := by
  apply List.reverse_inj.mp
  apply List.ext_getElem (by simpa using length)
  intro j inLeft inRight
  rw [List.length_reverse] at inLeft inRight
  have bits := congrArg (fun word : UInt32 => word.toNat.testBit j) hs
  simp only [testBit_bitsFrom 0 fits (show j < 32 by omega),
    testBit_bitsFrom 0 (length ▸ fits) (show j < 32 by omega)] at bits
  simpa [List.getD_eq_getElem, inLeft, inRight] using bits

/-! ### The bytes of a number -/

/-- The low `n` bytes of a number, the least significant first. -/
def leBytes : ℕ → ℕ → List UInt8
  | 0, _ => []
  | n + 1, value => UInt8.ofNat (value % 256) :: leBytes n (value / 256)

def leValue : List UInt8 → ℕ
  | [] => 0
  | byte :: rest => byte.toNat + 256 * leValue rest

@[simp] lemma length_leBytes (n value : ℕ) : (leBytes n value).length = n := by
  induction n generalizing value with
  | zero => rfl
  | succ n ih => simp [leBytes, ih]

lemma leValue_leBytes {n value : ℕ} (fits : value < 256 ^ n) :
    leValue (leBytes n value) = value := by
  induction n generalizing value with
  | zero =>
    have zero : value = 0 := by simpa using fits
    rw [zero]
    rfl
  | succ n ih =>
    have rest : value / 256 < 256 ^ n := by
      rw [Nat.div_lt_iff_lt_mul (by omega)]
      rwa [pow_succ] at fits
    have low : (UInt8.ofNat (value % 256)).toNat = value % 256 := by
      rw [UInt8.toNat_ofNat']
      omega
    rw [leBytes, leValue, ih rest, low]
    omega

lemma leValue_inj {left right : List UInt8} (length : left.length = right.length)
    (hs : leValue left = leValue right) : left = right := by
  induction left generalizing right with
  | nil => exact (List.length_eq_zero_iff.mp length.symm).symm
  | cons first rest ih =>
    cases right with
    | nil => simp at length
    | cons first' rest' =>
      have small := first.toNat_lt
      have small' := first'.toNat_lt
      simp only [leValue] at hs
      have head : first = first' := UInt8.toNat_inj.mp (by omega)
      rw [head, ih (by simpa using length) (by omega)]

end WorldServer.Lib
