import WorldServer.Packets.Codec

/-!
# Patching bits

`PutBits` overwrites bits that were written before, usually the place of a counter that is
known only at the end. It numbers the bits of the storage from the most significant of the
first byte on, as the writer does.
-/
namespace WorldServer.Packets

open WorldServer.Lib

def bitIn (storage : List UInt8) (p : ℕ) : Bool := bitAt (storage.getD (p / 8) 0) (p % 8)

def putBit (storage : List UInt8) (p : ℕ) (set : Bool) : List UInt8 :=
  storage.modify (p / 8) fun byte =>
    if set then byte ||| (1 : UInt8) <<< UInt8.ofNat (7 - p % 8)
    else byte &&& ~~~((1 : UInt8) <<< UInt8.ofNat (7 - p % 8))

def putRounds (storage : List UInt8) (pos : ℕ) (bits : ℕ → Bool) (bitCount : ℕ) : List UInt8 :=
  (List.range bitCount).foldl (fun storage i => putBit storage (pos + i) (bits i)) storage

namespace ByteBuffer

def bitwpos (b : ByteBuffer) : ℕ := b.wpos * 8 + 8 - b.bitpos

/-- The type of the value has to have `bitCount` bits, as it has for `WriteBits`: a shift by
more is undefined in both. -/
def putBits (b : ByteBuffer) (pos value bitCount : ℕ) : Except Stop ByteBuffer :=
  if bitCount = 0 then .error (.source ((pos + bitCount) / 8) b.size 0)
  else if pos + bitCount > b.size * 8 then
    .error (.position false ((pos + bitCount) / 8) b.size ((bitCount - 1) / 8 + 1))
  else
    .ok { b with
      storage := putRounds b.storage pos (fun i => value.testBit (bitCount - i - 1)) bitCount }

end ByteBuffer

/-! ### One bit -/

lemma bitAt_and (a b : UInt8) (i : ℕ) : bitAt (a &&& b) i = (bitAt a i && bitAt b i) := by
  simp [bitAt]

lemma bitAt_not (a : UInt8) {i : ℕ} (small : i < 8) : bitAt (~~~a) i = !bitAt a i := by
  change (~~~a.toBitVec).getLsbD (7 - i) = !a.toBitVec.getLsbD (7 - i)
  simp only [BitVec.getLsbD_not]
  simp [show 7 - i < 8 by omega]

@[simp] lemma length_putBit (storage : List UInt8) (p : ℕ) (set : Bool) :
    (putBit storage p set).length = storage.length := by
  simp [putBit]

lemma bitAt_put (byte : UInt8) (set : Bool) {bit i : ℕ} (low : bit < 8) (small : i < 8) :
    bitAt (if set then byte ||| (1 : UInt8) <<< UInt8.ofNat (7 - bit)
      else byte &&& ~~~((1 : UInt8) <<< UInt8.ofNat (7 - bit))) i =
      if i = bit then set else bitAt byte i := by
  have mask := bitAt_one_shiftLeft (show 7 - bit < 8 by omega) small
  rw [show 7 - (7 - bit) = bit by omega] at mask
  cases set with
  | true =>
    rw [if_pos rfl, bitAt_or, mask]
    by_cases here : i = bit <;> simp [here]
  | false =>
    rw [if_neg Bool.false_ne_true, bitAt_and, bitAt_not _ small, mask]
    by_cases here : i = bit <;> simp [here]

lemma bitIn_putBit {storage : List UInt8} {p : ℕ} (inside : p < 8 * storage.length)
    (set : Bool) (q : ℕ) :
    bitIn (putBit storage p set) q = if q = p then set else bitIn storage q := by
  have byte : p / 8 < storage.length := by omega
  unfold bitIn putBit
  rw [List.getD_eq_getElem?_getD, List.getElem?_modify, List.getD_eq_getElem?_getD]
  by_cases hs : p / 8 = q / 8
  · have here : q = p ↔ q % 8 = p % 8 := by omega
    rw [← hs, List.getElem?_eq_getElem byte]
    simp only [if_true, Option.map_eq_map, Option.map_some, Option.getD_some, here]
    exact bitAt_put _ set (by omega) (by omega)
  · have other : q ≠ p := fun eq => hs (by rw [eq])
    simp [hs, other]

@[simp] lemma length_putRounds (storage : List UInt8) (pos : ℕ) (bits : ℕ → Bool) (n : ℕ) :
    (putRounds storage pos bits n).length = storage.length := by
  induction n with
  | zero => rfl
  | succ n ih =>
    rw [putRounds, List.range_succ, List.foldl_append, List.foldl_cons, List.foldl_nil,
      length_putBit]
    exact ih

lemma bitIn_putRounds {storage : List UInt8} {pos : ℕ} (bits : ℕ → Bool) {n : ℕ}
    (inside : pos + n ≤ 8 * storage.length) (q : ℕ) :
    bitIn (putRounds storage pos bits n) q =
      if pos ≤ q ∧ q < pos + n then bits (q - pos) else bitIn storage q := by
  induction n with
  | zero =>
    have outside : ¬ (pos ≤ q ∧ q < pos + 0) := by omega
    rw [if_neg outside]
    rfl
  | succ n ih =>
    have before := ih (by omega)
    have there : pos + n < 8 * (putRounds storage pos bits n).length := by
      rw [length_putRounds]
      omega
    have next : putRounds storage pos bits (n + 1) =
        putBit (putRounds storage pos bits n) (pos + n) (bits n) := by
      rw [putRounds, List.range_succ, List.foldl_append]
      rfl
    rw [next, bitIn_putBit there, before]
    by_cases last : q = pos + n
    · subst last
      simp
    · have shorter : (pos ≤ q ∧ q < pos + (n + 1)) ↔ (pos ≤ q ∧ q < pos + n) := by omega
      simp only [if_neg last, shorter]

/-! ### What the writer writes -/

lemma getD_bitsOf (value : ℕ) {k i : ℕ} (low : i < k) :
    (bitsOf value k).getD i false = value.testBit (k - i - 1) := by
  induction k generalizing i with
  | zero => omega
  | succ k ih =>
    cases i with
    | zero => simp [bitsOf]
    | succ i =>
      rw [bitsOf, List.getD_cons_succ, ih (by omega)]
      congr 1
      omega

lemma bitIn_encode_bits (run bits : List Bool) (partly : run.length < 8) {p : ℕ}
    (inside : p < run.length + bits.length) :
    bitIn (encode run (bits.map .bit)) p = (run ++ bits).getD p false := by
  induction bits generalizing run p with
  | nil =>
    have some : run ≠ [] := by
      rintro rfl
      simp at inside
    have low : p < 8 := by
      simp only [List.length_nil] at inside
      omega
    rw [List.map_nil, encode, if_neg some, List.append_nil, bitIn, Nat.div_eq_of_lt low,
      Nat.mod_eq_of_lt low]
    exact bitAt_packBits run low
  | cons bit rest ih =>
    rw [List.length_cons] at inside
    have whole : run ++ bit :: rest = (run ++ [bit]) ++ rest := by simp
    rw [List.map_cons, encode, whole]
    split
    next last =>
      by_cases low : p < 8
      · rw [bitIn, Nat.div_eq_of_lt low, Nat.mod_eq_of_lt low,
          List.getD_append _ _ _ _ (by simp; omega)]
        exact bitAt_packBits _ low
      · obtain ⟨k, rfl⟩ := Nat.exists_eq_add_of_le (Nat.le_of_not_lt low)
        have byte : (8 + k) / 8 = k / 8 + 1 := by omega
        have place : (8 + k) % 8 = k % 8 := by omega
        have length : (run ++ [bit]).length = 8 := by simp [last]
        rw [bitIn, byte, place, List.getD_cons_succ, List.getD_append_right _ _ _ _ (by omega),
          length, Nat.add_sub_cancel_left]
        exact ih [] (by simp) (by simp; omega)
    next unfinished => exact ih (run ++ [bit]) (by simp; omega) (by simp; omega)

namespace ByteBuffer

lemma bitwpos_of_inRun {w : ByteBuffer} {run : List Bool} (inRun : w.InRun run) :
    w.bitwpos = 8 * w.size + run.length := by
  have partly := inRun.partly
  rw [bitwpos, inRun.atEnd, inRun.bitpos]
  omega

lemma bitIn_writeBits {w written : ByteBuffer} {run : List Bool} (inRun : w.InRun run)
    {value k : ℕ} (done : (do let w ← w.writeBits value k; w.flushBits) = .ok written) {i : ℕ}
    (low : i < k) : bitIn written.storage (w.bitwpos + i) = value.testBit (k - i - 1) := by
  rw [writeBits_eq] at done
  have fits := fits_of_finish inRun _ done
  obtain rfl := Except.ok.inj ((finish_of_fits inRun _ fits).symm.trans done)
  have byte : (8 * w.storage.length + (run.length + i)) / 8
      = w.storage.length + (run.length + i) / 8 := by omega
  have place : (8 * w.storage.length + (run.length + i)) % 8 = (run.length + i) % 8 := by omega
  have behind := bitIn_encode_bits run (bitsOf value k) inRun.partly (p := run.length + i)
    (by simpa using low)
  rw [List.getD_append_right _ _ _ _ (by omega), Nat.add_sub_cancel_left,
    getD_bitsOf value low] at behind
  rw [bitwpos_of_inRun inRun, ← behind, closed, size, Nat.add_assoc, bitIn, bitIn, byte, place,
    List.getD_append_right _ _ _ _ (by omega), Nat.add_sub_cancel_left]

end ByteBuffer

/-- Bits that are put are those that a writer at the same position writes, and nothing else
changes. To put no bits at all is an error. -/
theorem putBits_eq_writeBits (b : ByteBuffer) (pos value bitCount : ℕ)
    (inside : pos + bitCount ≤ 8 * b.size) :
    (bitCount = 0 → b.putBits pos value bitCount = .error (.source (pos / 8) b.size 0)) ∧
    (bitCount ≠ 0 → ∃ storage, b.putBits pos value bitCount = .ok { b with storage } ∧
      storage.length = b.size ∧
      (∀ i < bitCount, bitIn storage (pos + i) = value.testBit (bitCount - i - 1)) ∧
      (∀ (w written : ByteBuffer) (run : List Bool), w.InRun run → w.bitwpos = pos →
        (do let w ← w.writeBits value bitCount; w.flushBits) = .ok written →
        ∀ i < bitCount, bitIn storage (pos + i) = bitIn written.storage (pos + i)) ∧
      ∀ q, q < pos ∨ pos + bitCount ≤ q → bitIn storage q = bitIn b.storage q) := by
  constructor
  · rintro rfl
    rw [ByteBuffer.putBits, if_pos rfl, Nat.add_zero]
  · intro some
    have bound : ¬ pos + bitCount > b.size * 8 := by omega
    have put := bitIn_putRounds (fun i => value.testBit (bitCount - i - 1)) inside
    have here : ∀ i < bitCount, bitIn
        (putRounds b.storage pos (fun i => value.testBit (bitCount - i - 1)) bitCount) (pos + i) =
          value.testBit (bitCount - i - 1) := by
      intro i low
      have within : pos ≤ pos + i ∧ pos + i < pos + bitCount := by omega
      rw [put (pos + i), if_pos within, Nat.add_sub_cancel_left]
    refine ⟨_, by rw [ByteBuffer.putBits, if_neg some, if_neg bound], length_putRounds .., here,
      ?_, ?_⟩
    · rintro w written run inRun rfl done i low
      rw [here i low, ByteBuffer.bitIn_writeBits inRun done low]
    · intro q outside
      have apart : ¬ (pos ≤ q ∧ q < pos + bitCount) := by omega
      rw [put q, if_neg apart]

/-- Three bits across a byte boundary. -/
theorem putBits_eq_writeBits_three :
    ∃ storage, ({ storage := [0xFF, 0xFF] } : ByteBuffer).putBits 6 1 3 =
      .ok { storage } ∧ storage = [0xFC, 0xFF] := by
  have put := (putBits_eq_writeBits { storage := [0xFF, 0xFF] } 6 1 3 (by decide)).2 (by decide)
  obtain ⟨storage, done, -⟩ := put
  refine ⟨storage, done, ?_⟩
  have run : ({ storage := [0xFF, 0xFF] } : ByteBuffer).putBits 6 1 3 =
      .ok { storage := [0xFC, 0xFF] } := by decide
  have same := Except.ok.inj (done.symm.trans run)
  exact congrArg ByteBuffer.storage same

/-- A bit count of zero inside the buffer does not return. -/
theorem putBits_refuses_none :
    ¬ ∀ (b : ByteBuffer) (pos value bitCount : ℕ), pos + bitCount ≤ 8 * b.size →
      value < 2 ^ bitCount → ∃ b', b.putBits pos value bitCount = .ok b' := by
  intro all
  obtain ⟨b', returned⟩ := all { storage := [0] } 0 0 0 (by decide) (by decide)
  cases returned

end WorldServer.Packets
