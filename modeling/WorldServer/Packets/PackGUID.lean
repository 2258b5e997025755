import Mathlib.Tactic.Ring
import WorldServer.Packets.Reader

/-!
# Packed GUIDs

A mark byte says which of the eight bytes of a GUID are not zero, and only these follow it.
The writer shifts the GUID until nothing is left of it, the reader always makes eight rounds.
-/
namespace WorldServer.Packets

open WorldServer.Lib

/-! ### The two loops -/

lemma toNat_shiftRight_eight (guid : UInt64) : (guid >>> 8).toNat = guid.toNat / 256 := by
  rw [UInt64.toNat_shiftRight, UInt64.toNat_ofNat, Nat.shiftRight_eq_div_pow]

/-- The loop of `appendPackGUID`, with `packGUID[0]` and the bytes behind it so far. -/
def packBytes (guid : UInt64) (i : ℕ) (mark : UInt8) (bytes : List UInt8) :
    UInt8 × List UInt8 :=
  if guid = 0 then (mark, bytes)
  else if guid &&& 0xFF ≠ 0 then
    packBytes (guid >>> 8) (i + 1) (mark ||| (1 : UInt8) <<< UInt8.ofNat i)
      (bytes ++ [(guid &&& 0xFF).toUInt8])
  else packBytes (guid >>> 8) (i + 1) mark bytes
termination_by guid.toNat
decreasing_by
  all_goals
    have some : guid.toNat ≠ 0 := fun zero => ‹guid ≠ 0› (UInt64.toNat_inj.mp zero)
    rw [toNat_shiftRight_eight]
    omega

def packGUID (guid : UInt64) : List UInt8 :=
  let (mark, bytes) := packBytes guid 0 0 []
  mark :: bytes

namespace ByteBuffer

def appendPackGUID (b : ByteBuffer) (guid : UInt64) : Except Stop ByteBuffer :=
  b.append (packGUID guid)

/-- The loop of `readPackGUID`, with the number of rounds that are left. -/
def readPackBytes (b : ByteBuffer) (guidmark : UInt8) (guid : UInt64) (i : ℕ) :
    ℕ → Except Stop (UInt64 × ByteBuffer)
  | 0 => .ok (guid, b)
  | rounds + 1 =>
    if guidmark &&& (1 : UInt8) <<< UInt8.ofNat i ≠ 0 then
      if b.rpos + 1 > b.size then .error (.position false b.rpos 1 b.size)
      else do
        let (bit, b) ← b.readValue 1
        b.readPackBytes guidmark (guid ||| UInt64.ofNat bit <<< UInt64.ofNat (i * 8)) (i + 1)
          rounds
    else b.readPackBytes guidmark guid (i + 1) rounds

def readPackGUID (b : ByteBuffer) : Except Stop (UInt64 × ByteBuffer) :=
  if b.rpos + 1 > b.size then .error (.position false b.rpos 1 b.size)
  else do
    let (guidmark, b) ← b.readValue 1
    b.readPackBytes (UInt8.ofNat guidmark) 0 0 8

end ByteBuffer

/-! ### What is packed -/

lemma toUInt8_and_mask (guid : UInt64) :
    (guid &&& 0xFF).toUInt8 = UInt8.ofNat (guid.toNat % 256) := by
  have low : guid.toNat % 256 &&& 255 = guid.toNat % 256 % 256 :=
    Nat.and_two_pow_sub_one_eq_mod _ 8
  apply UInt8.toNat_inj.mp
  simp [low]

lemma and_mask_eq_zero (guid : UInt64) :
    guid &&& 0xFF = 0 ↔ UInt8.ofNat (guid.toNat % 256) = 0 := by
  have low : guid.toNat &&& 255 = guid.toNat % 256 := Nat.and_two_pow_sub_one_eq_mod _ 8
  rw [← UInt64.toNat_inj, ← UInt8.toNat_inj]
  simp [low]

/-- Whether the byte of round `j` is not zero, when the bytes begin in round `i`. -/
def marked (bytes : List UInt8) (i j : ℕ) : Bool :=
  decide (i ≤ j) && bytes.getD (j - i) 0 != 0

lemma marked_cons (byte : UInt8) (rest : List UInt8) (i j : ℕ) :
    marked (byte :: rest) i j = ((byte != 0 && decide (i = j)) || marked rest (i + 1) j) := by
  unfold marked
  rcases lt_trichotomy i j with before | rfl | after
  · obtain ⟨k, rfl⟩ := Nat.exists_eq_add_of_lt before
    have next : i + k + 1 - i = k + 1 := by omega
    have next' : i + k + 1 - (i + 1) = k := by omega
    have begun : i ≤ i + k + 1 := by omega
    have begun' : i + 1 ≤ i + k + 1 := by omega
    have other : i ≠ i + k + 1 := by omega
    rw [next, next', List.getD_cons_succ, decide_eq_true begun, decide_eq_true begun',
      decide_eq_false other, Bool.and_false, Bool.false_or]
  · simp
  · have notYet : ¬ i ≤ j := by omega
    have notYet' : ¬ i + 1 ≤ j := by omega
    simp [notYet, notYet', after.ne']

variable {i : ℕ} {guid : UInt64} {b : ByteBuffer} {byte guidmark : UInt8} {rest : List UInt8}

lemma testBit_or_one_shiftLeft (mark : UInt8) {j : ℕ} (low : i < 8) :
    (mark ||| (1 : UInt8) <<< UInt8.ofNat i).toNat.testBit j =
      (mark.toNat.testBit j || decide (i = j)) := by
  have power : 2 ^ i < 2 ^ 8 := Nat.pow_lt_pow_right (by omega) low
  have shift : i % 256 % 8 = i := by omega
  rw [UInt8.toNat_or, UInt8.toNat_shiftLeft, UInt8.toNat_ofNat']
  simp only [Nat.reducePow, shift, UInt8.toNat_one, Nat.one_shiftLeft] at power ⊢
  rw [Nat.mod_eq_of_lt power, Nat.testBit_or, Nat.testBit_two_pow]

lemma packBytes_eq (n : ℕ) (fits : guid.toNat < 256 ^ n) (rounds : i + n ≤ 8) (mark : UInt8)
    (bytes : List UInt8) :
    ∃ mark', packBytes guid i mark bytes
        = (mark', bytes ++ (leBytes n guid.toNat).filter (· ≠ 0)) ∧
      ∀ j, mark'.toNat.testBit j =
        (mark.toNat.testBit j || marked (leBytes n guid.toNat) i j) := by
  induction n generalizing guid i mark bytes with
  | zero =>
    have none : guid = 0 := UInt64.toNat_inj.mp (by simpa using fits)
    refine ⟨mark, ?_, fun j => ?_⟩
    · rw [packBytes, if_pos none]
      simp [leBytes]
    · simp [leBytes, marked]
  | succ n ih =>
    have fits' : (guid >>> 8).toNat < 256 ^ n := by
      rw [toNat_shiftRight_eight]
      omega
    have later := ih fits' (i := i + 1) (by omega)
    rw [toNat_shiftRight_eight] at later
    rw [leBytes]
    by_cases zero : guid &&& 0xFF = 0
    · have byte := (and_mask_eq_zero guid).mp zero
      obtain ⟨mark', packed, marks⟩ := later mark bytes
      refine ⟨mark', ?_, fun j => ?_⟩
      · by_cases none : guid = 0
        · -- the loop has ended, and would only see zeros
          subst none
          have nothing : (0 : UInt64) >>> 8 = 0 := rfl
          rw [nothing, packBytes, if_pos rfl] at packed
          rw [packBytes, if_pos rfl, packed]
          simp
        · rw [packBytes, if_neg none, if_neg (not_not.mpr zero), packed]
          simp [byte]
      · rw [marks j, byte, marked_cons]
        simp
    · have byte : UInt8.ofNat (guid.toNat % 256) ≠ 0 := fun byte =>
        zero ((and_mask_eq_zero guid).mpr byte)
      have none : guid ≠ 0 := by
        rintro rfl
        exact zero rfl
      obtain ⟨mark', packed, marks⟩ := later (mark ||| (1 : UInt8) <<< UInt8.ofNat i)
        (bytes ++ [(guid &&& 0xFF).toUInt8])
      refine ⟨mark', ?_, fun j => ?_⟩
      · rw [packBytes, if_neg none, if_pos zero, packed, toUInt8_and_mask]
        simp [byte]
      · rw [marks j, marked_cons, testBit_or_one_shiftLeft mark (show i < 8 by omega),
          bne_iff_ne.mpr byte, Bool.true_and, Bool.or_assoc]

lemma packGUID_eq (guid : UInt64) :
    ∃ mark, packGUID guid = mark :: (leBytes 8 guid.toNat).filter (· ≠ 0) ∧
      ∀ j, mark.toNat.testBit j = marked (leBytes 8 guid.toNat) 0 j := by
  obtain ⟨mark, packed, marks⟩ := packBytes_eq 8 guid.toNat_lt (i := 0) (by omega) 0 []
  refine ⟨mark, ?_, fun j => ?_⟩
  · rw [packGUID, packed]
    rfl
  · rw [marks j]
    simp

/-! ### Reading it -/

lemma and_one_shiftLeft_ne_zero (mark : UInt8) (low : i < 8) :
    mark &&& (1 : UInt8) <<< UInt8.ofNat i ≠ 0 ↔ mark.toNat.testBit i = true := by
  have power : 2 ^ i < 2 ^ 8 := Nat.pow_lt_pow_right (by omega) low
  have shift : i % 256 % 8 = i := by omega
  rw [← UInt8.toNat_inj.ne, UInt8.toNat_and, UInt8.toNat_shiftLeft, UInt8.toNat_ofNat']
  simp only [Nat.reducePow, shift, UInt8.toNat_one, Nat.one_shiftLeft] at power ⊢
  rw [Nat.mod_eq_of_lt power, Nat.and_two_pow]
  cases mark.toNat.testBit i <;> simp

lemma toNat_or_byte (below : guid.toNat < 256 ^ i) (low : i < 8) (byte : UInt8) :
    (guid ||| UInt64.ofNat byte.toNat <<< UInt64.ofNat (i * 8)).toNat =
      guid.toNat + 256 ^ i * byte.toNat := by
  have power : (256 : ℕ) ^ i = 2 ^ (i * 8) := by
    rw [Nat.mul_comm, pow_mul]
    norm_num
  have small := byte.toNat_lt
  have shift : i * 8 % 2 ^ 64 % 64 = i * 8 := by omega
  have inside : byte.toNat * 2 ^ (i * 8) < 2 ^ 64 :=
    calc byte.toNat * 2 ^ (i * 8)
        < 2 ^ 8 * 2 ^ (i * 8) := Nat.mul_lt_mul_of_pos_right small (by positivity)
      _ = 2 ^ (8 + i * 8) := (pow_add 2 8 (i * 8)).symm
      _ ≤ 2 ^ 64 := Nat.pow_le_pow_right (by omega) (by omega)
  have byte64 : byte.toNat % 2 ^ 64 = byte.toNat := by omega
  rw [UInt64.toNat_or, UInt64.toNat_shiftLeft, UInt64.toNat_ofNat', UInt64.toNat_ofNat', shift,
    byte64, Nat.shiftLeft_eq, Nat.mod_eq_of_lt inside, Nat.or_comm, Nat.mul_comm, power]
  rw [power] at below
  rw [← Nat.two_pow_add_eq_or_of_lt below, Nat.add_comm]

namespace ByteBuffer

lemma readValue_one {tail : List UInt8} (here : b.storage.drop b.rpos = byte :: tail) :
    ¬ b.rpos + 1 > b.size ∧ b.readValue 1 = .ok (byte.toNat, { b with rpos := b.rpos + 1 }) ∧
      b.storage.drop (b.rpos + 1) = tail := by
  have inside : b.rpos + 1 ≤ b.size := by
    have length := congrArg List.length here
    simp only [List.length_drop, List.length_cons] at length
    simp only [size]
    omega
  refine ⟨by omega, ?_, ?_⟩
  · have ahead : b.read [byte].length = .ok ([byte], { b with rpos := b.rpos + [byte].length }) :=
      read_ahead (by omega) here
    rw [List.length_singleton] at ahead
    rw [readValue, ahead]
    rfl
  · rw [← List.drop_drop, here]
    rfl

lemma readPackBytes_clear (b : ByteBuffer) (guid : UInt64) (low : i < 8)
    (clear : guidmark.toNat.testBit i = false) (rounds : ℕ) :
    b.readPackBytes guidmark guid i (rounds + 1) =
      b.readPackBytes guidmark guid (i + 1) rounds := by
  have none : ¬ (guidmark &&& (1 : UInt8) <<< UInt8.ofNat i ≠ 0) := by
    rw [and_one_shiftLeft_ne_zero guidmark low, clear]
    simp
  rw [readPackBytes, if_neg none]

section

variable (guid) (low : i < 8) (set : guidmark.toNat.testBit i = true) (rounds : ℕ)
include low set

lemma readPackBytes_set {tail : List UInt8} (here : b.storage.drop b.rpos = byte :: tail) :
    b.readPackBytes guidmark guid i (rounds + 1) =
      { b with rpos := b.rpos + 1 }.readPackBytes guidmark
        (guid ||| UInt64.ofNat byte.toNat <<< UInt64.ofNat (i * 8)) (i + 1) rounds := by
  obtain ⟨inside, read, -⟩ := readValue_one here
  rw [readPackBytes, if_pos ((and_one_shiftLeft_ne_zero guidmark low).mpr set), if_neg inside,
    read]
  rfl

lemma readPackBytes_end (nothing : b.storage.drop b.rpos = []) :
    b.readPackBytes guidmark guid i (rounds + 1) = .error (.position false b.rpos 1 b.size) := by
  have atEnd : b.rpos + 1 > b.size := by
    rw [List.drop_eq_nil_iff] at nothing
    simp only [size]
    omega
  rw [readPackBytes, if_pos ((and_one_shiftLeft_ne_zero guidmark low).mpr set), if_pos atEnd]

end

end ByteBuffer

def Marks (mark : UInt8) (bytes : List UInt8) (i : ℕ) : Prop :=
  ∀ j < 8, i ≤ j → mark.toNat.testBit j = marked bytes i j

lemma Marks.here {mark : UInt8} (marks : Marks mark (byte :: rest) i) (low : i < 8) :
    mark.toNat.testBit i = (byte != 0) := by
  rw [marks i low le_rfl]
  simp [marked]

lemma Marks.later {mark : UInt8} (marks : Marks mark (byte :: rest) i) :
    Marks mark rest (i + 1) := by
  intro j low after
  have other : i ≠ j := by omega
  rw [marks j low (by omega), marked_cons]
  simp [other]

namespace ByteBuffer

lemma readPackBytes_ok (bytes : List UInt8) (guid : UInt64) (rounds : i + bytes.length ≤ 8)
    (here : b.storage.drop b.rpos = bytes.filter (· ≠ 0) ++ rest) (marks : Marks guidmark bytes i)
    (below : guid.toNat < 256 ^ i) :
    ∃ read : UInt64, b.readPackBytes guidmark guid i bytes.length =
        .ok (read, { b with rpos := b.rpos + (bytes.filter (· ≠ 0)).length }) ∧
      read.toNat = guid.toNat + 256 ^ i * leValue bytes := by
  induction bytes generalizing b guid i with
  | nil => exact ⟨guid, rfl, by simp [leValue]⟩
  | cons byte others ih =>
    rw [List.length_cons] at rounds
    have low : i < 8 := by omega
    have mark := marks.here low
    rw [List.length_cons, leValue]
    by_cases zero : byte = 0
    · rw [readPackBytes_clear b guid low (by simp [mark, zero])]
      have wider : guid.toNat < 256 ^ (i + 1) := by
        omega
      obtain ⟨read, ok, value⟩ := ih (b := b) _ (by omega) (by simpa [zero] using here)
        marks.later wider
      refine ⟨read, ?_, ?_⟩
      · rw [ok]
        simp [zero]
      · rw [value, zero, pow_succ]
        simp [Nat.mul_assoc]
    · have here' : b.storage.drop b.rpos = byte :: (others.filter (· ≠ 0) ++ rest) := by
        simpa [zero] using here
      rw [readPackBytes_set guid low (by simp [mark, zero]) _ here']
      have added := toNat_or_byte below low byte
      have wider : (guid ||| UInt64.ofNat byte.toNat <<< UInt64.ofNat (i * 8)).toNat
          < 256 ^ (i + 1) := by
        have small : byte.toNat + 1 ≤ 256 := byte.toNat_lt
        have full := Nat.mul_le_mul_left (256 ^ i) small
        rw [Nat.mul_add, Nat.mul_one] at full
        omega
      obtain ⟨read, ok, value⟩ := ih (b := { b with rpos := b.rpos + 1 }) _ (by omega)
        (readValue_one here').2.2 marks.later wider
      refine ⟨read, ?_, ?_⟩
      · rw [ok]
        simp [zero, Nat.add_assoc, Nat.add_comm 1]
      · rw [value, added, pow_succ]
        ring

/-- When some of the marked bytes are missing the rounds fail at the end of the buffer. -/
lemma readPackBytes_short (bytes : List UInt8) (guid : UInt64) (rounds : i + bytes.length ≤ 8)
    (cut : b.storage.drop b.rpos <+: bytes.filter (· ≠ 0))
    (short : b.storage.drop b.rpos ≠ bytes.filter (· ≠ 0)) (marks : Marks guidmark bytes i) :
    ∃ pos, b.readPackBytes guidmark guid i bytes.length =
      .error (.position false pos 1 b.size) := by
  induction bytes generalizing b guid i with
  | nil => exact absurd (by simpa using cut) short
  | cons byte others ih =>
    rw [List.length_cons] at rounds
    have low : i < 8 := by omega
    have mark := marks.here low
    rw [List.length_cons]
    by_cases zero : byte = 0
    · rw [readPackBytes_clear b guid low (by simp [mark, zero])]
      exact ih guid (by omega) (by simpa [zero] using cut) (by simpa [zero] using short)
        marks.later
    · have set : guidmark.toNat.testBit i = true := by simp [mark, zero]
      cases here : b.storage.drop b.rpos with
      | nil => exact ⟨b.rpos, readPackBytes_end guid low set _ here⟩
      | cons first tail =>
        have kept : (byte :: others).filter (· ≠ 0) = byte :: others.filter (· ≠ 0) := by
          simp [zero]
        rw [here, kept] at cut short
        obtain ⟨rfl, cut⟩ := List.cons_prefix_cons.mp cut
        obtain ⟨-, -, behind⟩ := readValue_one here
        rw [readPackBytes_set guid low set _ here]
        exact ih (b := { b with rpos := b.rpos + 1 }) _ (by omega) (by rwa [behind])
          (by rw [behind]; exact fun hs => short (by rw [hs])) marks.later

lemma readPackGUID_ok (here : b.storage.drop b.rpos = packGUID guid ++ rest) :
    b.readPackGUID = .ok (guid, { b with rpos := b.rpos + (packGUID guid).length }) := by
  obtain ⟨mark, packed, marks⟩ := packGUID_eq guid
  rw [packed, List.cons_append] at here
  obtain ⟨inside, first, behind⟩ := readValue_one here
  have length : (leBytes 8 guid.toNat).length = 8 := length_leBytes 8 _
  obtain ⟨read, ok, value⟩ := readPackBytes_ok (leBytes 8 guid.toNat)
    (b := { b with rpos := b.rpos + 1 }) 0 (i := 0) (by omega) behind
    (fun j _ _ => marks j) (by decide)
  rw [length] at ok
  have hs : read = guid := by
    rw [leValue_leBytes guid.toNat_lt] at value
    exact UInt64.toNat_inj.mp (by simpa using value)
  have asMark : UInt8.ofNat mark.toNat = mark := by simp
  simp only [readPackGUID, if_neg inside, first, bind, Except.bind, asMark, ok, hs, packed,
    List.length_cons, Nat.add_assoc, Nat.add_comm 1]

lemma readPackGUID_short (cut : b.storage.drop b.rpos <+: packGUID guid)
    (short : b.storage.drop b.rpos ≠ packGUID guid) :
    ∃ pos, b.readPackGUID = .error (.position false pos 1 b.size) := by
  obtain ⟨mark, packed, marks⟩ := packGUID_eq guid
  cases here : b.storage.drop b.rpos with
  | nil =>
    have atEnd : b.rpos + 1 > b.size := by
      rw [List.drop_eq_nil_iff] at here
      simp only [size]
      omega
    exact ⟨b.rpos, by rw [readPackGUID, if_pos atEnd]⟩
  | cons first tail =>
    rw [here, packed] at cut short
    obtain ⟨rfl, cut⟩ := List.cons_prefix_cons.mp cut
    obtain ⟨inside, read, behind⟩ := readValue_one here
    have length : (leBytes 8 guid.toNat).length = 8 := length_leBytes 8 _
    obtain ⟨pos, failed⟩ := readPackBytes_short (leBytes 8 guid.toNat)
      (b := { b with rpos := b.rpos + 1 }) 0 (i := 0) (by omega) (by rwa [behind])
      (by rw [behind]; exact fun hs => short (by rw [hs])) (fun j _ _ => marks j)
    rw [length] at failed
    have asMark : UInt8.ofNat first.toNat = first := by simp
    refine ⟨pos, ?_⟩
    simp only [readPackGUID, if_neg inside, read, bind, Except.bind, asMark, failed]
    rfl

lemma append_here {written : ByteBuffer} {src : List UInt8} (done : b.append src = .ok written) :
    written.wpos = b.wpos + src.length ∧ ∃ rest, written.storage.drop b.wpos = src ++ rest := by
  unfold append at done
  split at done
  · cases done
  split at done
  · cases done
  obtain rfl := Except.ok.inj done
  have padded : ∀ storage : List UInt8, b.wpos ≤ storage.length → ∀ rest,
      (storage.take b.wpos ++ src ++ rest).drop b.wpos = src ++ rest := by
    intro storage enough rest
    rw [List.append_assoc, List.drop_append_of_le_length (by simp [enough]),
      List.drop_eq_nil_of_le (by simp), List.nil_append]
  refine ⟨rfl, _, padded _ ?_ _⟩
  split
  next grows =>
    simp only [List.length_append, List.length_replicate]
    simp only [size] at grows ⊢
    omega
  next enough =>
    simp only [size] at enough
    omega

end ByteBuffer

/-- Packing a GUID takes one byte and one for each of its bytes that is not zero. It is read
back where it was appended, and on every proper prefix of it the reader stops. -/
theorem packGUID_roundTrip (b : ByteBuffer) (guid : UInt64) :
    (packGUID guid).length = 1 + (leBytes 8 guid.toNat).countP (· ≠ 0) ∧
    ((∃ written, b.appendPackGUID guid = .ok written) ↔ b.size < maxBufferSize) ∧
    (∀ written, b.appendPackGUID guid = .ok written →
      written.wpos = b.wpos + (packGUID guid).length ∧
      ({ written with rpos := b.wpos } : ByteBuffer).readPackGUID =
        .ok (guid, { written with rpos := written.wpos })) ∧
    (∀ r : ByteBuffer, r.storage.drop r.rpos <+: packGUID guid →
      r.storage.drop r.rpos ≠ packGUID guid →
      ∃ pos, r.readPackGUID = .error (.position false pos 1 r.size)) := by
  obtain ⟨mark, packed, -⟩ := packGUID_eq guid
  refine ⟨?_, ?_, fun written done => ?_, fun r => ByteBuffer.readPackGUID_short⟩
  · rw [packed, List.length_cons, List.countP_eq_length_filter, Nat.add_comm]
  · rw [ByteBuffer.appendPackGUID, packed]
    by_cases room : b.size < maxBufferSize
    · simp [ByteBuffer.append, room]
    · simp [ByteBuffer.append, room]
  · obtain ⟨wpos, rest, here⟩ := ByteBuffer.append_here done
    refine ⟨wpos, ?_⟩
    rw [ByteBuffer.readPackGUID_ok (b := { written with rpos := b.wpos }) here, wpos]

end WorldServer.Packets
