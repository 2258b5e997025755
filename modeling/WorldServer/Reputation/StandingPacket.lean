import WorldServer.Packets.PutBits
import WorldServer.Packets.Reader
import WorldServer.Reputation.ReputationMgr

/-!
# The packet of the standings

`SendState` writes a bit and a number of records, then the records, and puts the final number over
the first one. The position that it has remembered for this is that of the bit, one before the
number.
-/
namespace WorldServer.Reputation

open WorldServer.Lib WorldServer.Packets

def uint32 (x : ℤ) : ℕ := (x % 2 ^ 32).toNat

def goesAlong (faction other : FactionState) : Bool :=
  other.needSend && other.ReputationListID ≠ faction.ReputationListID

def writeOthers (faction : FactionState) :
    List FactionState → ByteBuffer → ℕ → Except Stop (ByteBuffer × ℕ)
  | [], data, count => .ok (data, count)
  | other :: rest, data, count =>
    if goesAlong faction other then do
      -- the other way round than for the first record
      let data ← data.appendValue 4 other.ReputationListID
      let data ← data.appendValue 4 (uint32 other.Standing)
      writeOthers faction rest data (count + 1)
    else writeOthers faction rest data count

namespace ReputationMgr

variable (mgr : ReputationMgr) (faction : FactionState)

def states : List FactionState := mgr._factions.sorted.map Prod.snd

def statePacket : Except Stop ByteBuffer := do
  let data : ByteBuffer := {}
  let countPos := data.bitwpos
  let data ← data.writeBit mgr._sendFactionIncreased
  let data ← data.writeBits 1 21
  let data ← data.flushBits
  let data ← data.appendValue 4 (uint32 faction.Standing)
  let data ← data.appendValue 4 faction.ReputationListID
  let (data, count) ← writeOthers faction mgr.states data 1
  -- RaF data
  let data ← data.appendValue 4 0
  let data ← data.appendValue 4 0
  data.putBits countPos count 21

end ReputationMgr

/-- Records of one layout, as pairs of the position in the list and the standing. -/
def readRecords (standingFirst : Bool) (b : ByteBuffer) :
    ℕ → Except Stop (List (ℕ × ℕ) × ByteBuffer)
  | 0 => .ok ([], b)
  | n + 1 => do
    let (first, b) ← b.readValue 4
    let (second, b) ← b.readValue 4
    let (records, b) ← readRecords standingFirst b n
    return ((if standingFirst then (second, first) else (first, second)) :: records, b)

def decodeStates (standingFirst : Bool) (b : ByteBuffer) : Except Stop (Bool × List (ℕ × ℕ)) := do
  let (increased, b) ← b.readBit
  let (count, b) ← b.readBits 21
  let (records, b) ← readRecords standingFirst b count.toNat
  let (_, b) ← b.readValue 4
  let (_, _) ← b.readValue 4
  return (increased, records)

/-- In one of the layouts the packet tells of the flag and of the states, each once. -/
def Decodes (mgr : ReputationMgr) (faction : FactionState) : Prop :=
  ∃ standingFirst data records, mgr.statePacket faction = .ok data ∧
    decodeStates standingFirst data = .ok (mgr._sendFactionIncreased, records) ∧
    records.Perm ((faction :: mgr.states.filter (goesAlong faction)).map fun state =>
      (state.ReputationListID, uint32 state.Standing))

/-! ### Bits that are read in place -/

section Reading

variable {b : ByteBuffer} {p : ℕ}

structure AtBit (b : ByteBuffer) (p : ℕ) : Prop where
  rpos : b.rpos = (p + 7) / 8
  start : p % 8 = 0 → 7 ≤ b.bitpos
  inside : p % 8 ≠ 0 → b.bitpos + 1 = p % 8 ∧ b.curbitval = b.storage.getD (p / 8) 0

lemma AtBit.readBit (at' : AtBit b p) (more : p < 8 * b.size) :
    ∃ b', b.readBit = .ok (bitIn b.storage p, b') ∧ b'.storage = b.storage ∧ AtBit b' (p + 1) := by
  have rpos := at'.rpos
  by_cases first : p % 8 = 0
  · -- the bit is in the next byte
    have next : b.rpos = p / 8 := by omega
    have byte : b.rpos < b.storage.length := by
      rw [ByteBuffer.size] at more
      omega
    have here : b.storage.getD (p / 8) 0 = b.storage[b.rpos] := by simp [← next, byte]
    have bit : bitIn b.storage p = bitAt b.storage[b.rpos] 0 := by rw [bitIn, here, first]
    rw [bit]
    refine ⟨_, ByteBuffer.readBit_next (at'.start first) (List.drop_eq_getElem_cons byte), rfl, ?_⟩
    refine ⟨?_, fun whole => ?_, fun _ => ⟨?_, ?_⟩⟩
    · dsimp only
      omega
    · omega
    · dsimp only
      omega
    · rw [← here, show (p + 1) / 8 = p / 8 by omega]
  · obtain ⟨bitpos, current⟩ := at'.inside first
    have bit : bitIn b.storage p = bitAt b.curbitval (b.bitpos + 1) := by
      rw [bitIn, ← current, ← bitpos]
    rw [bit]
    refine ⟨_, ByteBuffer.readBit_same (by omega), rfl, ?_⟩
    refine ⟨?_, fun whole => ?_, fun partly => ⟨?_, ?_⟩⟩
    · dsimp only
      omega
    · dsimp only
      omega
    · dsimp only
      omega
    · rw [current, show (p + 1) / 8 = p / 8 by omega]

lemma AtBit.readBitsFrom (k : ℕ) (word : UInt32) (at' : AtBit b p) (more : p + k ≤ 8 * b.size) :
    ∃ b', b.readBitsFrom word k =
      .ok (bitsFrom word ((List.range' p k).map (bitIn b.storage)), b') := by
  induction k generalizing b p word with
  | zero => exact ⟨b, rfl⟩
  | succ k ih =>
    obtain ⟨b', read, storage, next⟩ := at'.readBit (by omega)
    have size : b'.size = b.size := congrArg List.length storage
    obtain ⟨last, rest⟩ := ih (if bitIn b.storage p then
      word ||| (1 : UInt32) <<< UInt32.ofNat k else word) next (by omega)
    refine ⟨last, ?_⟩
    rw [ByteBuffer.readBitsFrom, read]
    change b'.readBitsFrom _ k = _
    rw [rest, storage, List.range'_succ, List.map_cons, bitsFrom]
    simp

end Reading

/-! ### The number of records -/

section Count

variable {data data' : ByteBuffer} {faction : FactionState}

lemma appendValue_ok {value : ℕ} (idle : data.InRun [])
    (done : data.appendValue 4 value = .ok data') : data'.InRun [] ∧ data'.rpos = data.rpos ∧
      data'.storage = data.storage ++ leBytes 4 value ∧ data.size < maxBufferSize := by
  rw [ByteBuffer.appendValue, ByteBuffer.flushBits_idle idle] at done
  change data.append (leBytes 4 value) = .ok data' at done
  have some : leBytes 4 value ≠ [] := by
    intro none
    simpa using congrArg List.length none
  by_cases room : data.size < maxBufferSize
  · obtain ⟨written, appended, inRun, storage, rpos⟩ := ByteBuffer.append_inRun idle some room
    obtain rfl := Except.ok.inj (appended.symm.trans done)
    exact ⟨inRun, rpos, storage, room⟩
  · obtain ⟨stop, refused⟩ := ByteBuffer.append_refused data _ (.inr room)
    cases refused.symm.trans done

/-- What is behind the header: words only. -/
structure Behind (data data' : ByteBuffer) (size : ℕ) : Prop where
  idle : data'.InRun []
  rpos : data'.rpos = data.rpos
  storage : data.storage <+: data'.storage
  length : data'.size = data.size + size

lemma Behind.appendValue {n value : ℕ} {last : ByteBuffer} (behind : Behind data data' n)
    (done : data'.appendValue 4 value = .ok last) : Behind data last (n + 4) := by
  obtain ⟨idle, rpos, storage, -⟩ := appendValue_ok behind.idle done
  have length := congrArg List.length storage
  have before := behind.length
  refine ⟨idle, rpos.trans behind.rpos, ?_, ?_⟩
  · exact storage ▸ behind.storage.trans (List.prefix_append ..)
  · simp only [ByteBuffer.size, List.length_append, length_leBytes] at length before ⊢
    omega

lemma Behind.writeOthers {n count count' : ℕ} {last : ByteBuffer} (others : List FactionState)
    (behind : Behind data data' n)
    (done : Reputation.writeOthers faction others data' count = .ok (last, count')) :
    count' = count + (others.filter (goesAlong faction)).length ∧
      Behind data last (n + 8 * (others.filter (goesAlong faction)).length) := by
  induction others generalizing n count data' with
  | nil =>
    obtain ⟨rfl, rfl⟩ := Prod.mk.inj (Except.ok.inj done)
    exact ⟨rfl, behind⟩
  | cons other rest ih =>
    rw [Reputation.writeOthers] at done
    by_cases along : goesAlong faction other = true
    · rw [if_pos along] at done
      obtain ⟨first, one, done⟩ := bind_eq_ok.mp done
      obtain ⟨second, two, done⟩ := bind_eq_ok.mp done
      obtain ⟨number, behind'⟩ := ih ((behind.appendValue one).appendValue two) done
      rw [List.filter_cons_of_pos along, List.length_cons]
      refine ⟨by omega, ?_⟩
      rwa [show n + 8 * ((rest.filter (goesAlong faction)).length + 1) =
        n + 4 + 4 + 8 * (rest.filter (goesAlong faction)).length by omega]
    · rw [if_neg along] at done
      rw [List.filter_cons_of_neg along]
      exact ih behind done

def header (increased : Bool) : ByteBuffer where
  wpos := 3
  storage := [if increased then 0x80 else 0, 0, 4]

lemma header_eq (increased : Bool) : (do
    let data ← ({} : ByteBuffer).writeBit increased
    let data ← data.writeBits 1 21
    data.flushBits) = .ok (header increased) := by
  cases increased <;> decide +kernel

variable {mgr : ReputationMgr}

/-- The packet has the last bit of the first number still, and the final number before it. -/
lemma statePacket_ok (done : mgr.statePacket faction = .ok data) :
    let count := 1 + (mgr.states.filter (goesAlong faction)).length
    AtBit data 0 ∧ 8 * count + 7 < maxBufferSize ∧ 22 ≤ 8 * data.size ∧
      ∀ i ≤ 21, bitIn data.storage i = if i < 21 then count.testBit (20 - i) else true := by
  intro count
  obtain ⟨afterBit, bit, done⟩ := bind_eq_ok.mp done
  obtain ⟨afterBits, bits, done⟩ := bind_eq_ok.mp done
  obtain ⟨start, flushed, done⟩ := bind_eq_ok.mp done
  have written := header_eq mgr._sendFactionIncreased
  simp only [bit, bits, flushed, bind, Except.bind] at written
  obtain rfl := Except.ok.inj written
  obtain ⟨first, one, done⟩ := bind_eq_ok.mp done
  obtain ⟨second, two, done⟩ := bind_eq_ok.mp done
  obtain ⟨⟨third, count'⟩, others, done⟩ := bind_eq_ok.mp done
  obtain ⟨fourth, three, done⟩ := bind_eq_ok.mp done
  obtain ⟨last, four, done⟩ := bind_eq_ok.mp done
  have begins : Behind (header mgr._sendFactionIncreased) (header mgr._sendFactionIncreased) 0 :=
    ⟨⟨rfl, by decide, rfl, packBits_nil.symm⟩, rfl, List.prefix_rfl, rfl⟩
  obtain ⟨number, loop⟩ := ((begins.appendValue one).appendValue two).writeOthers mgr.states others
  have behind := (loop.appendValue three).appendValue four
  have room := (appendValue_ok (loop.appendValue three).idle four).2.2.2
  have size := (loop.appendValue three).length
  have whole := behind.length
  have headerSize : (header mgr._sendFactionIncreased).size = 3 := rfl
  have put := (putBits_eq_writeBits last 0 count' 21 (by omega)).2 (by decide)
  obtain ⟨storage, patched, length, here, -, outside⟩ := put
  have countPos : ({} : ByteBuffer).bitwpos = 0 := rfl
  rw [countPos, patched] at done
  obtain rfl := Except.ok.inj done
  refine ⟨⟨?_, fun _ => ?_, fun absurd => absurd.elim rfl⟩, by omega, ?_, fun i low => ?_⟩
  · exact behind.rpos
  · exact behind.idle.bitpos.ge.trans' (by decide)
  · simp only [ByteBuffer.size, length] at whole ⊢
    omega
  · split
    next inside =>
      have bit := here i inside
      rwa [Nat.zero_add, number, show 21 - i - 1 = 20 - i by omega] at bit
    next last' =>
      obtain rfl : i = 21 := by omega
      rw [outside 21 (.inr (by decide)), bitIn]
      obtain ⟨rest, words⟩ := behind.storage
      rw [← words]
      change bitAt 4 5 = true
      decide

end Count

lemma length_readRecords {standingFirst : Bool} (n : ℕ) : ∀ {b b' : ByteBuffer}
    {records : List (ℕ × ℕ)}, readRecords standingFirst b n = .ok (records, b') →
    records.length = n := by
  induction n with
  | zero =>
    intro b b' records done
    obtain ⟨rfl, -⟩ := Prod.mk.inj (Except.ok.inj done)
    rfl
  | succ n ih =>
    intro b b' records done
    obtain ⟨first, -, done⟩ := bind_eq_ok.mp done
    obtain ⟨second, -, done⟩ := bind_eq_ok.mp done
    obtain ⟨rest, read, done⟩ := bind_eq_ok.mp done
    obtain ⟨rfl, -⟩ := Prod.mk.inj (Except.ok.inj done)
    rw [List.length_cons, ih read]

/-- The number that is read is twice the final one and one more, as far as the bits reach. -/
lemma readBits_count {data : ByteBuffer} {count : ℕ} (at' : AtBit data 1)
    (more : 22 ≤ 8 * data.size) (bits : ∀ i ≤ 21, bitIn data.storage i =
      if i < 21 then count.testBit (20 - i) else true) :
    ∃ value b', data.readBits 21 = .ok (value, b') ∧ value.toNat = 2 * (count % 2 ^ 20) + 1 := by
  obtain ⟨b', read⟩ := at'.readBitsFrom 21 0 (by omega)
  refine ⟨_, b', read, ?_⟩
  have same : (List.range' 1 21).map (bitIn data.storage) =
      bitsOf (2 * (count % 2 ^ 20) + 1) 21 := by
    refine List.ext_getElem (by simp) fun i low _ => ?_
    have low' : i < 21 := by simpa using low
    have value := getD_bitsOf (2 * (count % 2 ^ 20) + 1) low'
    rw [List.getElem_map, List.getElem_range', Nat.one_mul, bits (1 + i) (by omega)]
    rw [List.getD_eq_getElem _ _ (by simpa using low')] at value
    rw [value]
    by_cases last : i = 20
    · subst last
      simp
    · rw [if_pos (by omega), show 21 - i - 1 = 19 - i + 1 by omega, Nat.testBit_succ,
        show (2 * (count % 2 ^ 20) + 1) / 2 = count % 2 ^ 20 by omega, Nat.testBit_mod_two_pow]
      simp [show 19 - i < 20 by omega, show 20 - (1 + i) = 19 - i by omega]
  rw [same, bitsFrom_bitsOf (by decide) (by omega)]

/-- No packet of `SendState` tells of the states. -/
theorem statePacket_never_decodes (mgr : ReputationMgr) (faction : FactionState) :
    ¬Decodes mgr faction := by
  rintro ⟨standingFirst, data, records, done, decoded, told⟩
  obtain ⟨at', room, more, bits⟩ := statePacket_ok done
  obtain ⟨b', read, storage, next⟩ := at'.readBit (by omega)
  have size : b'.size = data.size := congrArg List.length storage
  obtain ⟨value, b'', count, number⟩ := readBits_count next (size ▸ more) (storage ▸ bits)
  obtain ⟨⟨increased, b₁⟩, bit, decoded⟩ := bind_eq_ok.mp decoded
  obtain ⟨rfl, rfl⟩ := Prod.mk.inj (Except.ok.inj (bit.symm.trans read))
  obtain ⟨⟨value', b₂⟩, bits', decoded⟩ := bind_eq_ok.mp decoded
  obtain ⟨rfl, rfl⟩ := Prod.mk.inj (Except.ok.inj (bits'.symm.trans count))
  obtain ⟨⟨records', b₃⟩, read', decoded⟩ := bind_eq_ok.mp decoded
  obtain ⟨_, -, decoded⟩ := bind_eq_ok.mp decoded
  obtain ⟨_, -, decoded⟩ := bind_eq_ok.mp decoded
  obtain ⟨-, rfl⟩ := Prod.mk.inj (Except.ok.inj decoded)
  have length := told.length_eq
  rw [length_readRecords _ read', List.length_map, List.length_cons] at length
  rw [maxBufferSize] at room
  omega

def oneState : FactionState := ⟨21, 5, 100, 0, true, true⟩

theorem one_state_not_decoded : ¬∀ (mgr : ReputationMgr) (faction : FactionState),
    Decodes mgr faction := by
  intro all
  obtain ⟨standingFirst, data, records, done, decoded, -⟩ :=
    all ⟨AList.singleton 5 oneState, 0, 0, 0, 0, true, []⟩ oneState
  have packet : ReputationMgr.statePacket ⟨AList.singleton 5 oneState, 0, 0, 0, 0, true, []⟩
      oneState = .ok { wpos := 19, storage :=
        [0, 0, 12, 100, 0, 0, 0, 5, 0, 0, 0, 0, 0, 0, 0, 0, 0, 0, 0] } := by decide +kernel
  obtain rfl := Except.ok.inj (packet.symm.trans done)
  -- three records are announced
  have short : ∀ standingFirst, (decodeStates standingFirst { wpos := 19, storage :=
      [0, 0, 12, 100, 0, 0, 0, 5, 0, 0, 0, 0, 0, 0, 0, 0, 0, 0, 0] }).isOk = false := by
    decide +kernel
  have cut := short standingFirst
  rw [decoded] at cut
  cases cut

end WorldServer.Reputation
