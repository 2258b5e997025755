import WorldServer.Packets.RoundTrip
import Mathlib.Data.Fintype.Prod

/-!
# Masked GUIDs

Of a GUID that is sent with a mask only the bytes that are not zero go over the wire. The
mask is sent bit by bit ahead of them. Both come in an order that is peculiar to the packet,
and the bits and bytes of several GUIDs may be mixed.
-/
namespace WorldServer.Packets

open WorldServer.Lib

/-- A byte of one of `n` GUIDs. -/
abbrev Place (n : ℕ) := Fin n × Fin 8

def guidByte {n : ℕ} (guids : Fin n → UInt64) (place : Place n) : UInt8 :=
  (leBytes 8 (guids place.1).toNat).getD place.2 0

def guidsOf {n : ℕ} (bytes : Place n → UInt8) (guid : Fin n) : UInt64 :=
  UInt64.ofNat (leValue (List.ofFn fun i => bytes (guid, i)))

/-- All bytes of `n` GUIDs, each of them once. -/
structure Places (n : ℕ) where
  order : List (Place n)
  nodup : order.Nodup
  complete : ∀ place, place ∈ order

/-- What both sides know of a group of masked GUIDs. -/
structure Layout where
  count : ℕ
  mask : Places count
  seq : Places count

structure Block where
  layout : Layout
  guids : Fin layout.count → UInt64

namespace ByteBuffer

variable {n : ℕ}

/-! ### Writing -/

def writeByteSeq (b : ByteBuffer) (byte : UInt8) : Except Stop ByteBuffer :=
  if byte ≠ 0 then b.appendValue 1 (byte ^^^ 1).toNat else .ok b

def writeMask (b : ByteBuffer) (bytes : Place n → UInt8) :
    List (Place n) → Except Stop ByteBuffer
  | [] => .ok b
  | place :: rest => do
    let b ← b.writeBit (bytes place != 0)
    b.writeMask bytes rest

def writeByteSeqs (b : ByteBuffer) (bytes : Place n → UInt8) :
    List (Place n) → Except Stop ByteBuffer
  | [] => .ok b
  | place :: rest => do
    let b ← b.writeByteSeq (bytes place)
    b.writeByteSeqs bytes rest

def writeBlock (b : ByteBuffer) (block : Block) : Except Stop ByteBuffer := do
  let b ← b.writeMask (guidByte block.guids) block.layout.mask.order
  let b ← b.flushBits
  b.writeByteSeqs (guidByte block.guids) block.layout.seq.order

def writeBlocks (b : ByteBuffer) : List Block → Except Stop ByteBuffer
  | [] => .ok b
  | block :: rest => do
    let b ← b.writeBlock block
    b.writeBlocks rest

/-! ### Reading -/

def readByteSeq (b : ByteBuffer) (byte : UInt8) : Except Stop (UInt8 × ByteBuffer) :=
  if byte ≠ 0 then do
    let (read, b) ← b.readValue 1
    return (byte ^^^ UInt8.ofNat read, b)
  else .ok (byte, b)

def readMask (b : ByteBuffer) (bytes : Place n → UInt8) :
    List (Place n) → Except Stop ((Place n → UInt8) × ByteBuffer)
  | [] => .ok (bytes, b)
  | place :: rest => do
    let (bit, b) ← b.readBit
    b.readMask (Function.update bytes place (if bit then 1 else 0)) rest

def readByteSeqs (b : ByteBuffer) (bytes : Place n → UInt8) :
    List (Place n) → Except Stop ((Place n → UInt8) × ByteBuffer)
  | [] => .ok (bytes, b)
  | place :: rest => do
    let (byte, b) ← b.readByteSeq (bytes place)
    b.readByteSeqs (Function.update bytes place byte) rest

def readBlock (b : ByteBuffer) (layout : Layout) : Except Stop (Block × ByteBuffer) := do
  let (bytes, b) ← b.readMask (fun _ => 0) layout.mask.order
  let (bytes, b) ← b.readByteSeqs bytes layout.seq.order
  return ({ layout, guids := guidsOf bytes }, b)

def readBlocks (b : ByteBuffer) : List Layout → Except Stop (List Block × ByteBuffer)
  | [] => .ok ([], b)
  | layout :: rest => do
    let (block, b) ← b.readBlock layout
    let (blocks, b) ← b.readBlocks rest
    return (block :: blocks, b)

end ByteBuffer

/-- The blocks are written to an empty buffer, their layouts read them back, and nothing is
left over. -/
def MaskedRoundTrip (blocks : List Block) : Prop :=
  ∃ written read, ({} : ByteBuffer).writeBlocks blocks = .ok written ∧
    written.readBlocks (blocks.map Block.layout) = .ok (blocks, read) ∧
    read.rpos = read.size

lemma leBytes_one (byte : UInt8) : leBytes 1 byte.toNat = [byte] := by
  rw [leBytes, leBytes, Nat.mod_eq_of_lt byte.toNat_lt, UInt8.ofNat_toNat]

lemma guidsOf_guidByte {n : ℕ} (guids : Fin n → UInt64) : guidsOf (guidByte guids) = guids := by
  funext guid
  have bytes : (List.ofFn fun i => guidByte guids (guid, i)) = leBytes 8 (guids guid).toNat := by
    apply List.ext_getElem
    · simp
    · intro i inLeft inRight
      rw [List.getElem_ofFn, guidByte, List.getD_eq_getElem _ _ inRight]
  rw [guidsOf, bytes, leValue_leBytes (guids guid).toNat_lt, UInt64.ofNat_toNat]

lemma Places.length {n : ℕ} (places : Places n) : places.order.length = 8 * n := by
  have all : places.order.toFinset = Finset.univ := by
    ext place
    simp [places.complete place]
  rw [← List.toFinset_card_of_nodup places.nodup, all, Finset.card_univ, Fintype.card_prod,
    Fintype.card_fin, Fintype.card_fin, Nat.mul_comm]

/-! ### The pieces of a block -/

def seqPieces (byte : UInt8) : List Piece :=
  if byte ≠ 0 then [.flush, .raw [byte ^^^ 1]] else []

def maskPieces {n : ℕ} (bytes : Place n → UInt8) (order : List (Place n)) : List Piece :=
  order.map fun place => .bit (bytes place != 0)

def Block.pieces (block : Block) : List Piece :=
  maskPieces (guidByte block.guids) block.layout.mask.order ++ .flush ::
    block.layout.seq.order.flatMap fun place => seqPieces (guidByte block.guids place)

variable {b : ByteBuffer}

namespace ByteBuffer

variable {n : ℕ}

lemma writeByteSeq_eq (b : ByteBuffer) (byte : UInt8) :
    b.writeByteSeq byte = b.writePieces (seqPieces byte) := by
  by_cases some : byte ≠ 0
  · have one : leBytes 1 (byte ^^^ 1).toNat = [byte ^^^ 1] := leBytes_one _
    rw [writeByteSeq, seqPieces, if_pos some, if_pos some, appendValue, one]
    exact bind_congr fun b => (writePieces_singleton b (.raw _)).symm
  · rw [writeByteSeq, seqPieces, if_neg some, if_neg some]
    rfl

section

variable (b) (bytes : Place n → UInt8) (order : List (Place n))

lemma writeMask_eq : b.writeMask bytes order = b.writePieces (maskPieces bytes order) := by
  induction order generalizing b with
  | nil => rfl
  | cons place rest ih =>
    simp only [writeMask, maskPieces, List.map_cons, writePieces, writePiece, ih]

lemma writeByteSeqs_eq :
    b.writeByteSeqs bytes order =
      b.writePieces (order.flatMap fun place => seqPieces (bytes place)) := by
  induction order generalizing b with
  | nil => rfl
  | cons place rest ih =>
    simp only [writeByteSeqs, List.flatMap_cons, writePieces_append, writeByteSeq_eq, ih]

end

lemma writeBlock_eq (b : ByteBuffer) (block : Block) :
    b.writeBlock block = b.writePieces block.pieces := by
  simp only [writeBlock, Block.pieces, writePieces_append, writeMask_eq, writeByteSeqs_eq,
    writePieces, writePiece]

lemma writeBlocks_eq (b : ByteBuffer) (blocks : List Block) :
    b.writeBlocks blocks = b.writePieces (blocks.flatMap Block.pieces) := by
  induction blocks generalizing b with
  | nil => rfl
  | cons block rest ih =>
    simp only [writeBlocks, List.flatMap_cons, writePieces_append, writeBlock_eq, ih]

/-! ### No bits are left pending -/

variable {b' : ByteBuffer}

lemma append_bitpos {src : List UInt8} (done : b.append src = .ok b') : b'.bitpos = b.bitpos := by
  unfold append at done
  split at done
  · cases done
  split at done
  · cases done
  · rw [← Except.ok.inj done]

lemma flushBits_bitpos (done : b.flushBits = .ok b') : b'.bitpos = 8 := by
  unfold flushBits at done
  split at done
  next idle => rwa [← Except.ok.inj done]
  next pending =>
    obtain ⟨added, -, done⟩ := bind_eq_ok.mp done
    rw [← Except.ok.inj done]

lemma writeByteSeqs_bitpos {bytes : Place n → UInt8} {order : List (Place n)}
    (idle : b.bitpos = 8) (done : b.writeByteSeqs bytes order = .ok b') : b'.bitpos = 8 := by
  induction order generalizing b with
  | nil => rwa [← Except.ok.inj done]
  | cons place rest ih =>
    obtain ⟨added, first, others⟩ := bind_eq_ok.mp done
    refine ih ?_ others
    unfold writeByteSeq at first
    split at first
    · obtain ⟨flushed, flush, put⟩ := bind_eq_ok.mp first
      rw [append_bitpos put, flushBits_bitpos flush]
    · rwa [← Except.ok.inj first]

lemma writeBlocks_bitpos {blocks : List Block} (idle : b.bitpos = 8)
    (done : b.writeBlocks blocks = .ok b') : b'.bitpos = 8 := by
  induction blocks generalizing b with
  | nil => rwa [← Except.ok.inj done]
  | cons block rest ih =>
    obtain ⟨added, first, others⟩ := bind_eq_ok.mp done
    obtain ⟨masked, -, first⟩ := bind_eq_ok.mp first
    obtain ⟨flushed, flush, first⟩ := bind_eq_ok.mp first
    exact ih (writeByteSeqs_bitpos (flushBits_bitpos flush) first) others

lemma finish_blocks (blocks : List Block) :
    ({} : ByteBuffer).finish (blocks.flatMap Block.pieces) =
      ({} : ByteBuffer).writeBlocks blocks := by
  rw [finish, ← writeBlocks_eq]
  cases done : ({} : ByteBuffer).writeBlocks blocks with
  | error stop => rfl
  | ok written =>
    have idle : written.bitpos = 8 := writeBlocks_bitpos rfl done
    change written.flushBits = .ok written
    rw [flushBits, if_pos idle]
    rfl

end ByteBuffer

/-! ### How many bytes there are -/

/-- No piece is longer than a byte. -/
def Single (ps : List Piece) : Prop := ∀ bytes, Piece.raw bytes ∈ ps → bytes.length = 1

lemma fits_iff {size : ℕ} (run : List Bool) (ps : List Piece) (single : Single ps)
    (start : size ≤ maxBufferSize) :
    Fits size run.length (ps.map Piece.shape) ↔
      size + (encode run ps).length ≤ maxBufferSize := by
  -- an append of one byte, before the pieces that are left
  have appended : ∀ {size : ℕ} {byte : UInt8} {bytes : List UInt8} {fits : Prop},
      (size + 1 ≤ maxBufferSize → (fits ↔ size + 1 + bytes.length ≤ maxBufferSize)) →
      (size < maxBufferSize ∧ fits ↔ size + (byte :: bytes).length ≤ maxBufferSize) := by
    intro size byte bytes fits later
    rw [List.length_cons]
    constructor
    · rintro ⟨room, fits⟩
      have := (later room).mp fits
      omega
    · intro enough
      exact ⟨by omega, (later (by omega)).mpr (by omega)⟩
  induction ps generalizing size run with
  | nil =>
    by_cases idle : run = []
    · simp [Fits, encode, idle, start]
    · have pending : run.length ≠ 0 := by simpa using idle
      rw [List.map_nil, Fits, encode, if_neg idle, List.length_singleton]
      exact ⟨fun room => room pending, fun enough _ => enough⟩
  | cons piece rest ih =>
    have single' : Single rest := fun bytes mem => single bytes (List.mem_cons_of_mem _ mem)
    cases piece with
    | bit value =>
      rw [List.map_cons, Piece.shape, Fits, encode]
      split
      · exact appended fun room => ih [] single' room
      · simpa using ih (run ++ [value]) single' start
    | flush =>
      rw [List.map_cons, Piece.shape, Fits, encode]
      by_cases idle : run = []
      · rw [if_pos idle, if_pos (by simpa using idle)]
        exact ih [] single' start
      · rw [if_neg idle, if_neg (by simpa using idle)]
        exact appended fun room => ih [] single' room
    | raw bytes =>
      have one := single bytes (by simp)
      obtain ⟨byte, rfl⟩ := List.length_eq_one_iff.mp one
      exact (and_iff_right (by omega)).trans (appended fun room => ih run single' room)

lemma length_encode_bits (run bits : List Bool) (ps : List Piece) (partly : run.length < 8)
    (whole : (run.length + bits.length) % 8 = 0) :
    (encode run (bits.map .bit ++ ps)).length =
      (run.length + bits.length) / 8 + (encode [] ps).length := by
  induction bits generalizing run with
  | nil =>
    have idle : run.length = 0 := by
      simp only [List.length_nil, Nat.add_zero] at whole
      omega
    rw [List.length_eq_zero_iff.mp idle]
    simp
  | cons bit rest ih =>
    rw [List.length_cons] at whole ⊢
    rw [List.map_cons, List.cons_append, encode]
    split
    next last =>
      rw [List.length_cons, ih [] (by simp) (by simp only [List.length_nil]; omega),
        List.length_nil]
      omega
    next unfinished =>
      rw [ih (run ++ [bit]) (by simp; omega) (by simp; omega), List.length_append,
        List.length_singleton]
      omega

lemma maskPieces_eq {n : ℕ} (bytes : Place n → UInt8) (order : List (Place n)) :
    maskPieces bytes order = (order.map fun place => bytes place != 0).map .bit := by
  simp [maskPieces]

lemma length_encode_seq {n : ℕ} (bytes : Place n → UInt8) (order : List (Place n))
    (ps : List Piece) :
    (encode [] ((order.flatMap fun place => seqPieces (bytes place)) ++ ps)).length =
      order.countP (bytes · ≠ 0) + (encode [] ps).length := by
  induction order with
  | nil => simp
  | cons place rest ih =>
    by_cases some : bytes place ≠ 0
    · rw [List.flatMap_cons, seqPieces, if_pos some, List.countP_cons_of_pos (by simpa using some)]
      simp only [List.cons_append, List.nil_append, encode, if_true, List.length_cons, ih]
      omega
    · rw [List.flatMap_cons, seqPieces, if_neg some, List.countP_cons_of_neg (by simpa using some)]
      exact ih

def Block.byteCount (block : Block) : ℕ :=
  block.layout.count + block.layout.seq.order.countP (guidByte block.guids · ≠ 0)

lemma length_encode_blocks (blocks : List Block) :
    (encode [] (blocks.flatMap Block.pieces)).length = (blocks.map Block.byteCount).sum := by
  induction blocks with
  | nil => rfl
  | cons block rest ih =>
    have length := block.layout.mask.length
    rw [List.flatMap_cons, Block.pieces, maskPieces_eq, List.append_assoc,
      length_encode_bits [] _ _ (by simp) (by simp [length]), List.cons_append, encode, if_pos rfl,
      length_encode_seq, ih, List.map_cons, List.sum_cons, Block.byteCount, List.length_map, length,
      List.length_nil]
    omega

lemma single_pieces (blocks : List Block) : Single (blocks.flatMap Block.pieces) := by
  intro bytes mem
  obtain ⟨block, -, mem⟩ := List.mem_flatMap.mp mem
  rw [Block.pieces, List.mem_append, List.mem_cons] at mem
  rcases mem with mask | flush | seq
  · simp [maskPieces] at mask
  · cases flush
  · obtain ⟨place, -, mine⟩ := List.mem_flatMap.mp seq
    unfold seqPieces at mine
    split at mine
    · have hs : bytes = [guidByte block.guids place ^^^ 1] := by simpa using mine
      rw [hs, List.length_singleton]
    · cases mine

lemma ByteBuffer.writeBlocks_iff (blocks : List Block) :
    (∃ written, ({} : ByteBuffer).writeBlocks blocks = .ok written) ↔
      (blocks.map Block.byteCount).sum ≤ maxBufferSize := by
  have fits := fits_iff [] (blocks.flatMap Block.pieces) (single_pieces blocks)
    (Nat.zero_le maxBufferSize)
  rw [length_encode_blocks, Nat.zero_add] at fits
  rw [← fits, ← finish_blocks]
  constructor
  · rintro ⟨written, done⟩
    exact fits_of_finish inRun_empty _ done
  · intro fits
    exact ⟨_, finish_of_fits inRun_empty _ fits⟩

/-! ### Reading the blocks back -/

lemma aligned_bits {pending : ℕ} (partly : pending < 8) (bits : List Bool) (rest : List Shape) :
    Aligned pending false ((bits.map Piece.bit).map Piece.shape ++ rest) ↔
      Aligned ((pending + bits.length) % 8) false rest := by
  induction bits generalizing pending with
  | nil => simp [Nat.mod_eq_of_lt partly]
  | cons bit others ih =>
    simp only [List.map_cons, List.cons_append, Piece.shape, Aligned, true_and, List.length_cons]
    split
    next last =>
      have whole : (7 + (others.length + 1)) % 8 = others.length % 8 := by omega
      rw [ih (by omega), last, Nat.zero_add, whole]
    next unfinished =>
      rw [ih (by omega), Nat.add_assoc, Nat.add_comm 1]

lemma aligned_seq {n : ℕ} (bytes : Place n → UInt8) (order : List (Place n))
    (rest : List Shape) :
    Aligned 0 false ((order.flatMap fun place => seqPieces (bytes place)).map Piece.shape ++ rest)
      ↔ Aligned 0 false rest := by
  induction order with
  | nil => rfl
  | cons place others ih =>
    rw [List.flatMap_cons, List.map_append, List.append_assoc, ← ih]
    by_cases some : bytes place ≠ 0
    · rw [seqPieces, if_pos some]
      simp [Piece.shape, Aligned]
    · rw [seqPieces, if_neg some]
      rfl

lemma aligned_blocks (blocks : List Block) :
    Aligned 0 false ((blocks.flatMap Block.pieces).map Piece.shape) := by
  induction blocks with
  | nil => trivial
  | cons block rest ih =>
    have whole : (0 + 8 * block.layout.count) % 8 = 0 := by omega
    rw [List.flatMap_cons, Block.pieces, maskPieces_eq, List.map_append, List.map_append,
      List.append_assoc, aligned_bits (by omega), List.length_map, block.layout.mask.length, whole]
    exact (aligned_seq _ _ _).mpr ih

namespace ByteBuffer

variable {n : ℕ} {ps : List Piece}

lemma readMask_ok (order : List (Place n)) (sent : Place n → UInt8) {run : List Bool}
    (sync : Sync b run false (maskPieces sent order ++ ps))
    (aligned : Aligned run.length false ((maskPieces sent order ++ ps).map Piece.shape))
    (bytes : Place n → UInt8) :
    ∃ read b' run', b.readMask bytes order = .ok (read, b') ∧ Sync b' run' false ps ∧
      run'.length = (run.length + order.length) % 8 ∧
      (∀ place ∈ order, read place = if sent place ≠ 0 then 1 else 0) ∧
      ∀ place ∉ order, read place = bytes place := by
  induction order generalizing b run bytes with
  | nil =>
    refine ⟨bytes, b, run, rfl, sync, ?_, by simp, fun _ _ => rfl⟩
    rw [List.length_nil, Nat.add_zero, Nat.mod_eq_of_lt sync.partly]
  | cons place rest ih =>
    obtain ⟨byte, tail, head, b₁, first, next⟩ := Sync.bit sync
    have hs := head_bit run (sent place != 0) _ sync.partly aligned head
    obtain ⟨-, aligned'⟩ := aligned
    have length : (if run.length = 7 then [] else run ++ [sent place != 0]).length =
        if run.length = 7 then 0 else run.length + 1 := by
      split <;> simp
    obtain ⟨read, b', run', others, sync', pending, mine, untouched⟩ :=
      ih (next hs) (by rw [length]; exact aligned')
        (Function.update bytes place (if sent place != 0 then 1 else 0))
    refine ⟨read, b', run', ?_, sync', ?_, ?_, ?_⟩
    · rw [readMask, first, hs]
      exact others
    · rw [pending, length, List.length_cons]
      split <;> omega
    · intro other mem
      by_cases again : other ∈ rest
      · exact mine other again
      · obtain rfl := (List.mem_cons.mp mem).resolve_right again
        rw [untouched other again, Function.update_self]
        simp
    · intro other apart
      rw [List.mem_cons, not_or] at apart
      rw [untouched other apart.2, Function.update_of_ne apart.1]

lemma xor_sent (byte : UInt8) : (1 : UInt8) ^^^ (byte ^^^ 1) = byte := by
  rw [UInt8.xor_comm byte, ← UInt8.xor_assoc, UInt8.xor_self, UInt8.zero_xor]

lemma readByteSeqs_ok (order : List (Place n)) (nodup : order.Nodup) (sent : Place n → UInt8)
    (sync : Sync b [] false ((order.flatMap fun place => seqPieces (sent place)) ++ ps))
    (bytes : Place n → UInt8)
    (masked : ∀ place ∈ order, bytes place = if sent place ≠ 0 then 1 else 0) :
    ∃ read b', b.readByteSeqs bytes order = .ok (read, b') ∧ Sync b' [] false ps ∧
      (∀ place ∈ order, read place = sent place) ∧
      ∀ place ∉ order, read place = bytes place := by
  induction order generalizing b bytes with
  | nil => exact ⟨bytes, b, rfl, sync, by simp, fun _ _ => rfl⟩
  | cons place rest ih =>
    obtain ⟨fresh, nodup'⟩ := List.nodup_cons.mp nodup
    -- the byte of this place comes out as it was sent
    have here : ∃ b₁, b.readByteSeq (bytes place) = .ok (sent place, b₁) ∧
        Sync b₁ [] false ((rest.flatMap fun place => seqPieces (sent place)) ++ ps) := by
      rw [masked place (by simp)]
      rw [List.flatMap_cons, List.append_assoc] at sync
      by_cases some : sent place ≠ 0
      · rw [seqPieces, if_pos some] at sync
        obtain ⟨b₁, read, sync'⟩ := Sync.raw (Sync.flush sync)
        refine ⟨b₁, ?_, sync'⟩
        rw [List.length_singleton] at read
        rw [if_pos some, readByteSeq, if_pos (by decide), readValue, read]
        simp only [bind, Except.bind, pure, Except.pure]
        have value : UInt8.ofNat (leValue [sent place ^^^ 1]) = sent place ^^^ 1 := by simp [leValue]
        rw [value, xor_sent]
      · rw [seqPieces, if_neg some] at sync
        refine ⟨b, ?_, sync⟩
        rw [if_neg some, readByteSeq, if_neg (by decide), not_not.mp some]
    obtain ⟨b₁, first, sync'⟩ := here
    have masked' : ∀ other ∈ rest, Function.update bytes place (sent place) other =
        if sent other ≠ 0 then 1 else 0 := by
      intro other mem
      have apart : other ≠ place := fun hs => fresh (hs ▸ mem)
      rw [Function.update_of_ne apart, masked other (List.mem_cons_of_mem _ mem)]
    obtain ⟨read, b', others, sync'', mine, untouched⟩ := ih nodup' sync' _ masked'
    refine ⟨read, b', ?_, sync'', ?_, ?_⟩
    · rw [readByteSeqs, first]
      exact others
    · intro other mem
      rcases List.mem_cons.mp mem with rfl | mem
      · rw [untouched other fresh, Function.update_self]
      · exact mine other mem
    · intro other apart
      rw [List.mem_cons, not_or] at apart
      rw [untouched other apart.2, Function.update_of_ne apart.1]

lemma readBlock_ok (block : Block) (sync : Sync b [] false (block.pieces ++ ps))
    (aligned : Aligned 0 false ((block.pieces ++ ps).map Piece.shape)) :
    ∃ b', b.readBlock block.layout = .ok (block, b') ∧ Sync b' [] false ps := by
  rw [Block.pieces, List.append_assoc] at sync aligned
  obtain ⟨bytes, b₁, run, mask, sync₁, pending, masked, -⟩ :=
    readMask_ok block.layout.mask.order (guidByte block.guids) sync aligned (fun _ => 0)
  have idle : run = [] := by
    rw [block.layout.mask.length, List.length_nil, Nat.zero_add, Nat.mul_mod_right] at pending
    exact List.length_eq_zero_iff.mp pending
  subst idle
  obtain ⟨read, b', seq, sync', mine, -⟩ :=
    readByteSeqs_ok block.layout.seq.order block.layout.seq.nodup (guidByte block.guids)
      (Sync.flush sync₁) bytes fun place _ => masked place (block.layout.mask.complete place)
  have all : read = guidByte block.guids := funext fun place =>
    mine place (block.layout.seq.complete place)
  refine ⟨b', ?_, sync'⟩
  simp only [readBlock, mask, seq, bind, Except.bind, pure, Except.pure, all, guidsOf_guidByte]

lemma readBlocks_ok (blocks : List Block) (sync : Sync b [] false (blocks.flatMap Block.pieces)) :
    ∃ b', b.readBlocks (blocks.map Block.layout) = .ok (blocks, b') ∧ b'.rpos = b'.size := by
  induction blocks generalizing b with
  | nil => exact ⟨b, rfl, sync.done⟩
  | cons block rest ih =>
    have aligned := aligned_blocks (block :: rest)
    obtain ⟨b₁, first, sync₁⟩ := readBlock_ok block sync aligned
    obtain ⟨b', others, done⟩ := ih sync₁
    refine ⟨b', ?_, done⟩
    simp only [List.map_cons, readBlocks, first, others, bind, Except.bind, pure, Except.pure]

end ByteBuffer

/-- Masked GUIDs come back in every order of their mask bits and bytes, and exactly the bytes
written are consumed, as long as the buffer takes them. -/
theorem maskedRoundTrip_iff (blocks : List Block) :
    MaskedRoundTrip blocks ↔ (blocks.map Block.byteCount).sum ≤ maxBufferSize := by
  rw [← ByteBuffer.writeBlocks_iff]
  constructor
  · rintro ⟨written, -, wrote, -⟩
    exact ⟨written, wrote⟩
  · rintro ⟨written, wrote⟩
    rw [← ByteBuffer.finish_blocks] at wrote
    have fits := ByteBuffer.fits_of_finish ByteBuffer.inRun_empty _ wrote
    obtain rfl := Except.ok.inj
      ((ByteBuffer.finish_of_fits ByteBuffer.inRun_empty _ fits).symm.trans wrote)
    obtain ⟨read, came, done⟩ := ByteBuffer.readBlocks_ok blocks (sync_written _)
    exact ⟨_, read, (ByteBuffer.finish_blocks blocks).symm.trans wrote, came, done⟩

/-- One GUID after the other, each with its own permutation of the eight positions. -/
def Places.inTurn {n : ℕ} (positions : Fin n → Equiv.Perm (Fin 8)) : Places n where
  order := (List.finRange n).flatMap fun guid =>
    (List.finRange 8).map fun i => (guid, positions guid i)
  nodup := by
    rw [List.nodup_flatMap]
    refine ⟨fun guid _ => ?_, ?_⟩
    · apply (List.nodup_finRange 8).map
      intro i j same
      exact (positions guid).injective (Prod.mk.inj same).2
    · refine (List.nodup_finRange n).imp ?_
      intro guid guid' apart place mem mem'
      obtain ⟨i, -, rfl⟩ := List.mem_map.mp mem
      obtain ⟨j, -, same⟩ := List.mem_map.mp mem'
      exact apart (Prod.mk.inj same).1.symm
  complete := by
    rintro ⟨guid, i⟩
    rw [List.mem_flatMap]
    refine ⟨guid, List.mem_finRange guid, List.mem_map.mpr ⟨(positions guid).symm i,
      List.mem_finRange _, ?_⟩⟩
    rw [Equiv.apply_symm_apply]

def zeroBlock (n : ℕ) : Block where
  layout :=
    { count := n, mask := .inTurn fun _ => Equiv.refl _, seq := .inTurn fun _ => Equiv.refl _ }
  guids := fun _ => 0

lemma le_byteCount_zeroBlock (n : ℕ) : n ≤ (zeroBlock n).byteCount := Nat.le_add_right _ _

/-- One byte more than the buffer takes. -/
theorem zeroBlock_refused : ¬ MaskedRoundTrip [zeroBlock 10000001] := by
  rw [maskedRoundTrip_iff, List.map_singleton, List.sum_singleton]
  intro enough
  have most : 10000001 ≤ maxBufferSize := (le_byteCount_zeroBlock 10000001).trans enough
  exact absurd most (by decide)

end WorldServer.Packets
