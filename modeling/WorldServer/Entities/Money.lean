import WorldServer.Lib.Run
import WorldServer.Lib.Word

/-!
# A player's gold

`PLAYER_FIELD_COINAGE` is an unsigned 64-bit field. Every handler that moves
copper goes through `modifyMoney`, whose guard compares unsigned words although
the amount is signed.
-/
namespace WorldServer.Entities

open WorldServer.Lib

def maxMoneyAmount : UInt64 := 9999999999

@[simp] lemma maxMoneyAmount_toNat : maxMoneyAmount.toNat = 9999999999 := rfl

/-- The overload of `HasEnoughMoney` that takes an unsigned amount. -/
def hasEnoughMoney (money amount : UInt64) : Bool := amount ≤ money

lemma hasEnoughMoney_iff (money amount : UInt64) :
    hasEnoughMoney money amount = true ↔ amount.toNat ≤ money.toNat := by
  simp [hasEnoughMoney, UInt64.le_iff_toNat_le]

def modifyMoney (money : UInt64) (amount : Int64) : UInt64 × Bool :=
  if amount = 0 then (money, true)
  else if amount < 0 then
    -- a debit larger than the gold takes what is there
    (if (-amount).toUInt64 < money then money + amount.toUInt64 else 0, true)
  else if money < maxMoneyAmount - amount.toUInt64 then
    (money + amount.toUInt64, true)
  else (money, false)

/-! ### What one call does -/

lemma modifyMoney_zero (money : UInt64) : modifyMoney money 0 = (money, true) := rfl

section

variable (money : UInt64) (amount : Int64)

lemma modifyMoney_debit (negative : amount.toInt < 0) :
    ((modifyMoney money amount).1.toNat : ℤ) = max 0 (money.toNat + amount.toInt) ∧
      (modifyMoney money amount).2 = true := by
  have bounds := toInt64_bounds amount
  have nonzero : amount ≠ 0 := by rintro rfl; simp at negative
  have below : amount < 0 := by simpa [Int64.lt_iff_toInt_lt] using negative
  have cast := toNat_toUInt64 amount
  have castNeg := toNat_toUInt64_neg amount
  have size := money.toNat_lt
  simp only [modifyMoney, nonzero, below, if_true, if_false, UInt64.lt_iff_toNat_lt, and_true]
  split
  next enough =>
    rw [UInt64.toNat_add]
    omega
  next short =>
    rw [UInt64.toNat_zero]
    omega

lemma modifyMoney_debit_exact (debit : ℕ) (value : amount.toInt = -debit)
    (enough : debit ≤ money.toNat) :
    (modifyMoney money amount).1.toNat = money.toNat - debit ∧
      (modifyMoney money amount).2 = true := by
  rcases Nat.eq_zero_or_pos debit with rfl | positive
  · have zero : amount = 0 := Int64.toInt_inj.mp (by simpa using value)
    simp [zero, modifyMoney_zero]
  · have spec := modifyMoney_debit money amount (by omega)
    exact ⟨by omega, spec.2⟩

/-- The guard of a credit, over the integers. An amount past the cap wraps the
subtraction, and the guard then lets it through. -/
lemma modifyMoney_credit (positive : 0 < amount.toInt) :
    ((modifyMoney money amount).2 = true ↔
      money.toNat < (maxMoneyAmount - amount.toUInt64).toNat) ∧
    ((modifyMoney money amount).2 = true →
      (modifyMoney money amount).1 = money + amount.toUInt64) ∧
    ((modifyMoney money amount).2 = false → (modifyMoney money amount).1 = money) := by
  have nonzero : amount ≠ 0 := by rintro rfl; simp at positive
  have above : ¬ amount < 0 := by simp [Int64.lt_iff_toInt_lt]; omega
  simp only [modifyMoney, nonzero, above, if_false, UInt64.lt_iff_toNat_lt]
  split <;> simp [*]

/-- No call with an amount up to the cap takes the gold above both the cap and what was there. -/
lemma modifyMoney_le (small : amount.toInt ≤ maxMoneyAmount.toNat) :
    (modifyMoney money amount).1.toNat ≤ max money.toNat maxMoneyAmount.toNat := by
  rcases Int.lt_trichotomy amount.toInt 0 with negative | zero | positive
  · have spec := modifyMoney_debit money amount negative
    omega
  · obtain rfl : amount = 0 := Int64.toInt_inj.mp zero
    exact Nat.le_max_left _ _
  · obtain ⟨guard, paid, kept⟩ := modifyMoney_credit money amount positive
    have cast := toNat_toUInt64 amount
    rw [maxMoneyAmount_toNat] at small
    rw [UInt64.toNat_sub, maxMoneyAmount_toNat] at guard
    cases result : (modifyMoney money amount).2 with
    | false =>
      rw [kept result]
      exact Nat.le_max_left _ _
    | true =>
      have admitted := guard.mp result
      rw [paid result, UInt64.toNat_add, maxMoneyAmount_toNat]
      omega

end

/-! ### The cap along any sequence of calls -/

/-- What a call should do: stay under the cap, change nothing when it is refused,
and accept a credit exactly when the sum does not exceed the cap. -/
def GoldBound (money : UInt64) (amount : Int64) : Prop :=
  (modifyMoney money amount).1.toNat ≤ maxMoneyAmount.toNat ∧
  ((modifyMoney money amount).2 = false → (modifyMoney money amount).1 = money) ∧
  (0 < amount.toInt → ((modifyMoney money amount).2 = true ↔
    money.toNat + amount.toInt ≤ maxMoneyAmount.toNat))

/-- A credit of at most the cap that does not land on the cap itself. -/
def CreditBelowCap (money : UInt64) (amount : Int64) : Prop :=
  0 < amount.toInt → amount.toInt ≤ maxMoneyAmount.toNat ∧
    money.toNat + amount.toInt ≠ maxMoneyAmount.toNat

lemma goldBound_iff (money : UInt64) (capped : money.toNat ≤ maxMoneyAmount.toNat)
    (amount : Int64) : GoldBound money amount ↔ CreditBelowCap money amount := by
  have bounds := toInt64_bounds amount
  have cast := toNat_toUInt64 amount
  rw [maxMoneyAmount_toNat] at capped
  by_cases positive : 0 < amount.toInt
  · obtain ⟨guard, paid, kept⟩ := modifyMoney_credit money amount positive
    rw [UInt64.toNat_sub, maxMoneyAmount_toNat] at guard
    simp only [GoldBound, CreditBelowCap, positive, forall_const, maxMoneyAmount_toNat]
    constructor
    · rintro ⟨-, -, exact_⟩
      rw [guard] at exact_
      omega
    · intro below
      refine ⟨?_, kept, ?_⟩
      · cases result : (modifyMoney money amount).2 with
        | false => rw [kept result]; exact capped
        | true =>
          have admitted := guard.mp result
          rw [paid result, UInt64.toNat_add]
          omega
      · rw [guard]
        omega
  · have credit : CreditBelowCap money amount := fun h => absurd h positive
    simp only [credit, iff_true]
    rcases lt_or_eq_of_le (Int.not_lt.mp positive) with negative | zero
    · have spec := modifyMoney_debit money amount negative
      refine ⟨?_, fun refused => ?_, fun h => absurd h positive⟩
      · rw [maxMoneyAmount_toNat]; omega
      · rw [spec.2] at refused; cases refused
    · have : amount = 0 := Int64.toInt_inj.mp (by simpa using zero)
      subst this
      simpa [GoldBound, modifyMoney_zero] using capped

def moneyStep (money : UInt64) (amount : Int64) : UInt64 := (modifyMoney money amount).1

/-- Any sequence of calls keeps the gold bound exactly when no credit is larger than
the cap or lands on it. -/
theorem modifyMoney_bound_iff (money : UInt64) (capped : money.toNat ≤ maxMoneyAmount.toNat)
    (amounts : List Int64) :
    Along moneyStep GoldBound money amounts ↔ Along moneyStep CreditBelowCap money amounts := by
  apply along_iff_of_invariant (fun m => m.toNat ≤ maxMoneyAmount.toNat)
  · intro m amount inv below
    exact ((goldBound_iff m inv amount).mpr below).1
  · intro m amount inv
    exact goldBound_iff m inv amount
  · exact capped

theorem modifyMoney_bound_iff_full_purse :
    Along moneyStep GoldBound 9999999000 [-5, 900, 104] ↔
      Along moneyStep CreditBelowCap 9999999000 [-5, 900, 104] :=
  modifyMoney_bound_iff 9999999000 (by decide) [-5, 900, 104]

/-- A credit past the cap wraps the guard and takes the gold over the cap. -/
theorem modifyMoney_passes_cap :
    ¬ ∀ (money : UInt64) (amounts : List Int64), money.toNat ≤ maxMoneyAmount.toNat →
      Along moneyStep GoldBound money amounts := by
  intro claim
  have bound := (claim 0 [10000000000] (by decide)).1.1
  revert bound
  decide

end WorldServer.Entities
