import WorldServer.Packets.Codec

/-!
# The reader against the writer

The reader and the writer share the byte of bits but not the rules for leaving it. A flush
ends the byte for the writer only, and raw bytes end it for neither. The two agree on the
`Aligned` packets. On any other packet the telltale values come back changed.
-/
namespace WorldServer.Packets

open WorldServer.Lib

/-- No bits are read after a flush that cut a byte short, and no raw bytes come in while
bits are pending. -/
def Aligned (pending : ℕ) (cut : Bool) : List Shape → Prop
  | [] => True
  | .bit :: rest => cut = false ∧ Aligned (if pending = 7 then 0 else pending + 1) false rest
  | .flush :: rest => Aligned 0 (cut || pending ≠ 0) rest
  | .raw _ :: rest => pending = 0 ∧ Aligned 0 cut rest

instance Aligned.decidable : ∀ pending cut shapes, Decidable (Aligned pending cut shapes)
  | _, _, [] => isTrue trivial
  | _, _, .bit :: rest => @instDecidableAnd _ _ _ (Aligned.decidable _ false rest)
  | _, _, .flush :: rest => Aligned.decidable 0 _ rest
  | _, cut, .raw _ :: rest => @instDecidableAnd _ _ _ (Aligned.decidable 0 cut rest)

variable {b last : ByteBuffer} {byte : UInt8} {tail : List UInt8} {run : List Bool}
  {ps : List Piece} {cut : Bool}

namespace ByteBuffer

def readShape (b : ByteBuffer) : Shape → Except Stop (Piece × ByteBuffer)
  | .bit => do
    let (value, b) ← b.readBit
    return (.bit value, b)
  | .flush => .ok (.flush, b)
  | .raw length => do
    let (bytes, b) ← b.read length
    return (.raw bytes, b)

def readShapes (b : ByteBuffer) : List Shape → Except Stop (List Piece × ByteBuffer)
  | [] => .ok ([], b)
  | shape :: rest => do
    let (piece, b) ← b.readShape shape
    let (pieces, b) ← b.readShapes rest
    return (piece :: pieces, b)

lemma readShapes_cons_ok {b' : ByteBuffer} (shape : Shape) {piece : Piece}
    (first : b.readShape shape = .ok (piece, b')) {rest : List Shape} {pieces : List Piece}
    (others : b'.readShapes rest = .ok (pieces, last)) :
    b.readShapes (shape :: rest) = .ok (piece :: pieces, last) := by
  simp only [readShapes, first, others, bind, Except.bind, pure, Except.pure]

/-! ### One bit read -/

lemma readBit_same (inside : b.bitpos < 7) :
    b.readBit =
      .ok (bitAt b.curbitval (b.bitpos + 1), { b with bitpos := b.bitpos + 1 }) := by
  have low : 7 - (b.bitpos + 1) < 8 := by omega
  have again : 7 - (7 - (b.bitpos + 1)) = b.bitpos + 1 := by omega
  have notNext : ¬ b.bitpos + 1 > 7 := by omega
  simp only [readBit, if_neg notNext, pure_bind, shiftRight_and_one b.curbitval low, again]
  rfl

lemma readBit_next (outside : 7 ≤ b.bitpos) (here : b.storage.drop b.rpos = byte :: tail) :
    b.readBit =
      .ok (bitAt byte 0, { b with bitpos := 0, curbitval := byte, rpos := b.rpos + 1 }) := by
  have next : b.bitpos + 1 > 7 := by omega
  have inside : ¬ b.rpos + 1 > b.size := by
    have length := congrArg List.length here
    simp only [List.length_drop, List.length_cons] at length
    simp only [size]
    omega
  have value : UInt8.ofNat (leValue [byte]) = byte := by
    simp [leValue]
  have first := shiftRight_and_one byte (show 7 < 8 by omega)
  simp only [readBit, if_pos next, readValue, read, size, here, List.take_succ_cons,
    List.take_zero, bind, Except.bind, pure, Except.pure]
  rw [if_neg (by simpa only [size] using inside)]
  simp only [value]
  exact congrArg _ (Prod.ext first rfl)

lemma read_ahead {bytes rest : List UInt8} (within : b.rpos ≤ b.size)
    (here : b.storage.drop b.rpos = bytes ++ rest) :
    b.read bytes.length = .ok (bytes, { b with rpos := b.rpos + bytes.length }) := by
  have inside : ¬ b.rpos + bytes.length > b.size := by
    have length := congrArg List.length here
    simp only [List.length_drop, List.length_append] at length
    simp only [size] at within ⊢
    omega
  rw [read, if_neg inside, here, List.take_left]

end ByteBuffer

/-! ### Where the pending bits end up -/

lemma encode_ne_nil (run : List Bool) (ps : List Piece) (pending : run ≠ []) :
    encode run ps ≠ [] := by
  induction ps generalizing run with
  | nil => simp [encode, pending]
  | cons piece rest ih =>
    cases piece with
    | bit value =>
      rw [encode]
      split
      · simp
      · exact ih _ (by simp)
    | flush => simp [encode, pending]
    | raw bytes => simp [encode, ih run pending]

lemma head_agrees (run : List Bool) (ps : List Piece) (pending : run ≠ [])
    (partly : run.length < 8) (aligned : Aligned run.length false (ps.map Piece.shape))
    (head : encode run ps = byte :: tail) {i : ℕ} (inside : i < run.length) :
    bitAt byte i = run.getD i false := by
  induction ps generalizing run with
  | nil =>
    rw [encode, if_neg pending] at head
    rw [← (List.cons.inj head).1, bitAt_packBits run (by omega)]
  | cons piece rest ih =>
    have positive : run.length ≠ 0 := by simpa using pending
    cases piece with
    | bit value =>
      rw [encode] at head
      split at head
      next last =>
        rw [← (List.cons.inj head).1, bitAt_packBits _ (by omega),
          List.getD_append _ _ _ _ inside]
      next unfinished =>
        have longer := aligned.2
        rw [if_neg unfinished] at longer
        have hf := ih (run ++ [value]) (by simp) (by simp; omega) (by simpa using longer)
          head (by simp; omega)
        rwa [List.getD_append _ _ _ _ inside] at hf
    | flush =>
      rw [encode, if_neg pending] at head
      rw [← (List.cons.inj head).1, bitAt_packBits run (by omega)]
    | raw bytes => exact absurd aligned.1 positive

lemma head_bit (run : List Bool) (value : Bool) (ps : List Piece) (partly : run.length < 8)
    (aligned : Aligned run.length false ((Piece.bit value :: ps).map Piece.shape))
    (head : encode run (.bit value :: ps) = byte :: tail) : bitAt byte run.length = value := by
  have here : (run ++ [value]).getD run.length false = value := by
    simp
  rw [encode] at head
  split at head
  next last =>
    rw [← (List.cons.inj head).1, bitAt_packBits _ (by omega), here]
  next unfinished =>
    have longer := aligned.2
    rw [if_neg unfinished] at longer
    have hf := head_agrees (run ++ [value]) ps (by simp) (by simp; omega)
      (by simpa using longer) head (i := run.length) (by simp)
    rw [hf, here]

/-! ### The reader in step with the writer -/

/-- The reader stands where the writer stood with `run` pending and `ps` still to come. -/
structure Sync (b : ByteBuffer) (run : List Bool) (cut : Bool) (ps : List Piece) : Prop where
  within : b.rpos ≤ b.size
  partly : run.length < 8
  idle : run = [] → b.storage.drop b.rpos = encode [] ps
  current : run ≠ [] →
    encode run ps = b.curbitval :: b.storage.drop b.rpos ∧ b.bitpos + 1 = run.length
  agrees : run ≠ [] → ∀ i < run.length, bitAt b.curbitval i = run.getD i false
  fresh : run = [] → cut = false → 7 ≤ b.bitpos
  /-- The reader is still in the byte that a flush cut short. -/
  shortened : cut = true →
    run = [] ∧ b.bitpos < 7 ∧ bitAt b.curbitval (b.bitpos + 1) = false

/-- A bit is read from the next byte of the encoding, and if it is the one written the
reader stays in step. -/
lemma Sync.bit {value : Bool} (sync : Sync b run false (.bit value :: ps)) :
    ∃ byte tail, encode run (.bit value :: ps) = byte :: tail ∧
      ∃ b', b.readBit = .ok (bitAt byte run.length, b') ∧
        (bitAt byte run.length = value →
          Sync b' (if run.length = 7 then [] else run ++ [value]) false ps) := by
  by_cases idle : run = []
  · subst idle
    have here := sync.idle rfl
    have some : encode [] (.bit value :: ps) ≠ [] := by
      simpa [encode] using encode_ne_nil [value] ps (by simp)
    obtain ⟨byte, tail, head⟩ := List.exists_cons_of_ne_nil some
    refine ⟨byte, tail, head, _, ByteBuffer.readBit_next (sync.fresh rfl rfl) (here.trans head),
      fun hs => ?_⟩
    have inside : b.rpos < b.size := by
      have length := congrArg List.length (here.trans head)
      simp only [List.length_drop, List.length_cons] at length
      simp only [ByteBuffer.size]
      omega
    have rest : b.storage.drop (b.rpos + 1) = tail := by
      rw [← List.drop_drop, here.trans head]
      rfl
    constructor
    · exact inside
    · simp
    · simp
    · intro _
      simpa [encode, rest] using head
    · intro _ i one
      have first : i = 0 := by simpa using one
      simpa [first] using hs
    · simp
    · simp
  · obtain ⟨head, bitpos⟩ := sync.current idle
    have partly := sync.partly
    have inside : b.bitpos < 7 := by omega
    have bit := ByteBuffer.readBit_same inside
    rw [bitpos] at bit
    refine ⟨_, _, head, _, bit, fun hs => ?_⟩
    constructor
    · exact sync.within
    · split
      · simp
      · simp only [List.length_append, List.length_singleton]
        omega
    · -- the byte is complete and the rest of the encoding follows it
      intro done
      have last : run.length = 7 := by
        by_contra unfinished
        simp [unfinished] at done
      rw [encode, if_pos last] at head
      exact (List.cons.inj head).2.symm
    · intro pending
      have unfinished : run.length ≠ 7 := by
        intro last
        simp [last] at pending
      rw [encode, if_neg unfinished] at head
      simpa [unfinished] using head
    · intro pending i below
      have unfinished : run.length ≠ 7 := by
        intro last
        simp [last] at pending
      rw [if_neg unfinished] at below ⊢
      simp only [List.length_append, List.length_singleton] at below
      rcases Nat.lt_succ_iff_lt_or_eq.mp below with before | rfl
      · rw [List.getD_append _ _ _ _ before]
        exact sync.agrees idle i before
      · simpa using hs
    · intro done _
      have last : run.length = 7 := by
        by_contra unfinished
        simp [unfinished] at done
      change 7 ≤ run.length
      omega
    · simp

lemma Sync.flush (sync : Sync b run cut (.flush :: ps)) :
    Sync b [] (cut || run.length ≠ 0) ps := by
  by_cases idle : run = []
  · subst idle
    have here := sync.idle rfl
    simp only [List.length_nil, ne_eq, not_true_eq_false, decide_false, Bool.or_false]
    exact ⟨sync.within, by simp, fun _ => here, by simp, by simp, sync.fresh, sync.shortened⟩
  · have some : run.length ≠ 0 := by simpa using idle
    have partly := sync.partly
    obtain ⟨head, bitpos⟩ := sync.current idle
    rw [encode, if_neg idle] at head
    obtain ⟨packed, rest⟩ := List.cons.inj head
    have padding : bitAt b.curbitval (b.bitpos + 1) = false := by
      rw [← packed, bitpos, bitAt_packBits run partly]
      simp
    refine ⟨sync.within, by simp, fun _ => rest.symm, by simp, by simp, ?_, ?_⟩
    · simp [some]
    · intro _
      exact ⟨rfl, by omega, padding⟩

lemma Sync.raw {bytes : List UInt8} (sync : Sync b [] cut (.raw bytes :: ps)) :
    ∃ b', b.read bytes.length = .ok (bytes, b') ∧ Sync b' [] cut ps := by
  have here : b.storage.drop b.rpos = bytes ++ encode [] ps := by
    rw [sync.idle rfl, encode]
  have inside : b.rpos + bytes.length ≤ b.size := by
    have within := sync.within
    have length := congrArg List.length here
    simp only [List.length_drop, List.length_append] at length
    simp only [ByteBuffer.size] at within ⊢
    omega
  refine ⟨_, ByteBuffer.read_ahead sync.within here, inside, by simp, fun _ => ?_, by simp,
    by simp, sync.fresh, sync.shortened⟩
  change b.storage.drop (b.rpos + bytes.length) = encode [] ps
  rw [← List.drop_drop, here, List.drop_left]

lemma Sync.done (sync : Sync b run cut []) : b.rpos = b.size := by
  have nothing : b.storage.drop b.rpos = [] := by
    by_cases idle : run = []
    · simpa [encode] using sync.idle idle
    · have head := (sync.current idle).1
      rw [encode, if_neg idle] at head
      exact (List.cons.inj head).2.symm
  have within := sync.within
  simp only [List.drop_eq_nil_iff] at nothing
  simp only [ByteBuffer.size] at within ⊢
  omega

lemma readShapes_of_aligned (ps : List Piece) (sync : Sync b run cut ps)
    (aligned : Aligned run.length cut (ps.map Piece.shape)) :
    ∃ b', b.readShapes (ps.map Piece.shape) = .ok (ps, b') ∧ b'.rpos = b'.size := by
  induction ps generalizing b run cut with
  | nil => exact ⟨b, rfl, sync.done⟩
  | cons piece rest ih =>
    cases piece with
    | bit value =>
      obtain ⟨rfl, longer⟩ := aligned
      obtain ⟨byte, tail, head, b', read, next⟩ := sync.bit
      have hs := head_bit run value rest sync.partly ⟨rfl, longer⟩ head
      have sync' := next hs
      have aligned' : Aligned (if run.length = 7 then [] else run ++ [value]).length false
          (rest.map Piece.shape) := by
        split
        next last => simpa [last] using longer
        next unfinished => simpa [unfinished] using longer
      obtain ⟨last, others, done⟩ := ih sync' aligned'
      refine ⟨last, ByteBuffer.readShapes_cons_ok .bit ?_ others, done⟩
      simp only [ByteBuffer.readShape, read, hs]
      rfl
    | flush =>
      obtain ⟨last, others, done⟩ := ih sync.flush aligned
      exact ⟨last, ByteBuffer.readShapes_cons_ok .flush rfl others, done⟩
    | raw bytes =>
      obtain ⟨idle, aligned'⟩ := aligned
      obtain rfl : run = [] := by simpa using idle
      obtain ⟨b', read, sync'⟩ := sync.raw
      obtain ⟨last, others, done⟩ := ih sync' aligned'
      refine ⟨last, ByteBuffer.readShapes_cons_ok (.raw _) ?_ others, done⟩
      simp only [ByteBuffer.readShape, read]
      rfl

/-! ### Values that tell -/

def Piece.Telltale : Piece → Prop
  | bit value => value = true
  | flush => True
  | raw bytes => ∃ byte rest, bytes = byte :: rest ∧ bitAt byte 0 = false

lemma ByteBuffer.readShapes_cons {shape : Shape} {rest : List Shape} {piece : Piece}
    {pieces : List Piece} (read : b.readShapes (shape :: rest) = .ok (piece :: pieces, last)) :
    ∃ b', b.readShape shape = .ok (piece, b') ∧ b'.readShapes rest = .ok (pieces, last) := by
  obtain ⟨⟨piece', b'⟩, first, read⟩ := bind_eq_ok.mp read
  obtain ⟨⟨pieces', last'⟩, others, read⟩ := bind_eq_ok.mp read
  obtain ⟨⟨rfl, rfl⟩, rfl⟩ := read
  exact ⟨b', first, others⟩

lemma aligned_of_readShapes (ps : List Piece) (telltale : ∀ piece ∈ ps, piece.Telltale)
    (set : ∀ value ∈ run, value = true) (sync : Sync b run cut ps)
    (read : b.readShapes (ps.map Piece.shape) = .ok (ps, last)) :
    Aligned run.length cut (ps.map Piece.shape) := by
  induction ps generalizing b run cut with
  | nil => trivial
  | cons piece rest ih =>
    have tells := telltale piece (by simp)
    have telltale' : ∀ piece ∈ rest, piece.Telltale := fun p mem => telltale p (by simp [mem])
    obtain ⟨b', first, others⟩ := ByteBuffer.readShapes_cons read
    cases piece with
    | bit value =>
      obtain rfl : value = true := tells
      cases cut with
      | true =>
        -- the byte that was cut short has zeros from here on
        obtain ⟨rfl, inside, clear⟩ := sync.shortened rfl
        simp only [ByteBuffer.readShape, Piece.shape, ByteBuffer.readBit_same inside, clear]
          at first
        cases first
      | false =>
        obtain ⟨byte, tail, head, b'', bit, next⟩ := sync.bit
        simp only [ByteBuffer.readShape, Piece.shape, bit] at first
        obtain ⟨hs, rfl⟩ : bitAt byte run.length = true ∧ b'' = b' := by
          injection first with pair
          injection pair with piece buffer
          injection piece with value
          exact ⟨value, buffer⟩
        have set' : ∀ value ∈ (if run.length = 7 then [] else run ++ [true]), value = true := by
          split
          · simp
          · simpa using set
        have aligned := ih telltale' set' (next hs) others
        refine ⟨rfl, ?_⟩
        by_cases full : run.length = 7
        · simpa [full] using aligned
        · simpa [full] using aligned
    | flush =>
      injection first with pair
      injection pair with _ buffer
      subst buffer
      exact ih telltale' (by simp) sync.flush others
    | raw bytes =>
      obtain ⟨byte, bytes, rfl, clear⟩ := tells
      by_cases idle : run = []
      · subst idle
        obtain ⟨b'', raw, sync'⟩ := sync.raw
        simp only [ByteBuffer.readShape, Piece.shape, raw] at first
        injection first with pair
        injection pair with _ buffer
        subst buffer
        exact ⟨rfl, ih telltale' (by simp) sync' others⟩
      · -- the pending bits are set and would begin the raw bytes
        obtain ⟨head, -⟩ := sync.current idle
        have positive := List.length_pos_iff.mpr idle
        have first := sync.agrees idle 0 positive
        rw [← (List.cons.inj head).1, clear, List.getD_eq_getElem _ _ positive] at first
        exact absurd (set _ (List.getElem_mem positive)) (by simp [← first])

end WorldServer.Packets
