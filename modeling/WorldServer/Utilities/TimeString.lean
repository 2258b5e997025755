import Mathlib.Data.Nat.Notation
import Mathlib.Tactic.ByContra

/-!
# Times as strings

A time in seconds is written as numbers of days, hours, minutes and seconds, and read back. The two
directions are written independently: the writer leaves out what is zero, and the reader
adds up in 32 bits whatever numbers and units it meets.
-/
namespace WorldServer.Utilities

def MINUTE : ℕ := 60
def HOUR : ℕ := MINUTE * 60
def DAY : ℕ := HOUR * 24

/-- What a stream makes of a number and a text. -/
def amount (n : ℕ) (text : String) : List Char := Nat.toDigits 10 n ++ text.toList

def secsToTimeString (timeInSecs : UInt64) (shortText hoursOnly : Bool) : List Char :=
  let secs := timeInSecs.toNat % MINUTE
  let minutes := timeInSecs.toNat % HOUR / MINUTE
  let hours := timeInSecs.toNat % DAY / HOUR
  let days := timeInSecs.toNat / DAY
  (if days ≠ 0 then amount days (if shortText then "d" else " Day(s) ") else []) ++
  (if hours ≠ 0 ∨ hoursOnly then amount hours (if shortText then "h" else " Hour(s) ") else []) ++
  if hoursOnly then []
  else
    (if minutes ≠ 0 then amount minutes (if shortText then "m" else " Minute(s) ") else []) ++
    -- a time of zero is written as zero seconds
    if secs ≠ 0 ∨ (days = 0 ∧ hours = 0 ∧ minutes = 0) then
      amount secs (if shortText then "s" else " Second(s).")
    else []

/-! ### Reading -/

def unitSecs : Char → Option ℕ
  | 'd' => some DAY
  | 'h' => some HOUR
  | 'm' => some MINUTE
  | 's' => some 1
  | _ => none

/-- What is left of the string, the seconds so far and the number being read -/
def readTime : List Char → UInt32 → UInt32 → UInt32
  | [], secs, _ => secs
  | c :: cs, secs, buffer =>
    if c.isDigit then readTime cs secs (buffer * 10 + UInt32.ofNat (c.toNat - '0'.toNat))
    else
      match unitSecs c with
      | some multiplier => readTime cs (secs + buffer * UInt32.ofNat multiplier) 0
      | none => 0

def TimeStringToSecs (timestring : List Char) : UInt32 := readTime timestring 0 0

/-! ### What is written is read -/

/-- Digits are read in 32 bits as their number is. -/
lemma readTime_digits {digits : List Char} (all : ∀ c ∈ digits, c.isDigit) (rest : List Char)
    (secs : UInt32) (n : ℕ) :
    readTime (digits ++ rest) secs (UInt32.ofNat n) =
      readTime rest secs (UInt32.ofNat (Nat.ofDigitChars 10 digits n)) := by
  induction digits generalizing n with
  | nil => rfl
  | cons c digits ih =>
    rw [List.forall_mem_cons] at all
    have next : UInt32.ofNat n * 10 + UInt32.ofNat (c.toNat - '0'.toNat) =
        UInt32.ofNat (10 * n + (c.toNat - '0'.toNat)) := by
      rw [UInt32.ofNat_add, UInt32.ofNat_mul, UInt32.mul_comm]
      rfl
    rw [List.cons_append, readTime, if_pos all.1, next, ih all.2, Nat.ofDigitChars_cons]

lemma readTime_amount {c : Char} {text : String} (letter : text.toList = [c] ∧ c.isDigit = false)
    {multiplier : ℕ} (unit : unitSecs c = some multiplier) (n secs : ℕ) (rest : List Char) :
    readTime (amount n text ++ rest) (UInt32.ofNat secs) 0 =
      readTime rest (UInt32.ofNat (secs + n * multiplier)) 0 := by
  have digits : ∀ c ∈ Nat.toDigits 10 n, c.isDigit := fun c hm =>
    Nat.isDigit_of_mem_toDigits (by decide) (by decide) hm
  have number := readTime_digits digits (c :: rest) (UInt32.ofNat secs) 0
  rw [amount, letter.1, List.append_assoc, List.singleton_append]
  rw [show (0 : UInt32) = UInt32.ofNat 0 from rfl, number, readTime, letter.2]
  simp [unit]

/-- A number that is left out is zero. -/
lemma readTime_part {c : Char} {text : String} (letter : text.toList = [c] ∧ c.isDigit = false)
    {multiplier : ℕ} (unit : unitSecs c = some multiplier) {n : ℕ} {written : Prop}
    [Decidable written] (nonzero : n ≠ 0 → written) (secs : ℕ) (rest : List Char) :
    readTime ((if written then amount n text else []) ++ rest) (UInt32.ofNat secs) 0 =
      readTime rest (UInt32.ofNat (secs + n * multiplier)) 0 := by
  split
  case isTrue => exact readTime_amount letter unit n secs rest
  case isFalse left =>
    have zero : n = 0 := by
      by_contra some_
      exact left (nonzero some_)
    rw [zero, Nat.zero_mul, Nat.add_zero, List.nil_append]

/-- The parts add up to the time again. -/
lemma parts_add_up (n : ℕ) :
    0 + n / DAY * DAY + n % DAY / HOUR * HOUR + n % HOUR / MINUTE * MINUTE + n % MINUTE * 1 = n := by
  simp only [DAY, HOUR, MINUTE]
  omega

theorem TimeStringToSecs_secsToTimeString (t : UInt32) :
    TimeStringToSecs (secsToTimeString t.toUInt64 true false) = t := by
  simp only [TimeStringToSecs, secsToTimeString, UInt32.toNat_toUInt64, if_true, Bool.false_eq_true,
    or_false, if_false]
  rw [← List.append_nil (ite (t.toNat % MINUTE ≠ 0 ∨ _) _ _), List.append_assoc]
  change readTime _ (UInt32.ofNat 0) 0 = t
  rw [readTime_part ⟨rfl, rfl⟩ rfl id, readTime_part ⟨rfl, rfl⟩ rfl id,
    readTime_part ⟨rfl, rfl⟩ rfl id, readTime_part ⟨rfl, rfl⟩ rfl Or.inl, parts_add_up,
    readTime, UInt32.ofNat_toNat]

end WorldServer.Utilities
