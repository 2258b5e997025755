import WorldServer.Packets.ByteBuffer

/-!
# Packets field by field

A packet is a list of fields. Under the fields lie pieces: single bits, flushes and raw
bytes. `encode` says which bytes a list of pieces stands for when some bits are pending, and
the writer produces exactly these.
-/
namespace WorldServer.Packets

open WorldServer.Lib

/-! ### Fields -/

/-- The unsigned integers that `operator<<` takes. -/
inductive Width where
  | uint8 | uint16 | uint32 | uint64
deriving DecidableEq, Repr

def Width.sizeof : Width → ℕ
  | uint8 => 1
  | uint16 => 2
  | uint32 => 4
  | uint64 => 8

/-- What a reader has to know of a field. `WriteBits` shifts a value of at most 64 bits. -/
inductive Kind where
  | bit
  | bits (k : Fin 65)
  | uint (width : Width)
  | string (length : UInt32)
deriving DecidableEq, Repr

inductive Field where
  | bit (value : Bool)
  | bits (k : Fin 65) (value : BitVec k)
  | uint (width : Width) (value : BitVec (8 * width.sizeof))
  | string (length : UInt32) (bytes : List UInt8) (stated : bytes.length = length.toNat)

def Field.kind : Field → Kind
  | bit _ => .bit
  | bits k _ => .bits k
  | uint width _ => .uint width
  | string length _ _ => .string length

/-- What reading a field returns. -/
inductive Value where
  | bit (value : Bool)
  | number (value : ℕ)
  | text (bytes : List UInt8)
deriving DecidableEq, Repr

def Field.value : Field → Value
  | bit value => .bit value
  | bits _ value => .number value.toNat
  | uint _ value => .number value.toNat
  | string _ bytes _ => .text bytes

namespace ByteBuffer

def writeField (b : ByteBuffer) : Field → Except Stop ByteBuffer
  | .bit value => b.writeBit value
  | .bits k value => b.writeBits value.toNat k
  | .uint width value => b.appendValue width.sizeof value.toNat
  | .string _ bytes _ => b.writeString bytes

def readField (b : ByteBuffer) : Kind → Except Stop (Value × ByteBuffer)
  | .bit => do
    let (value, b) ← b.readBit
    return (.bit value, b)
  | .bits k => do
    let (value, b) ← b.readBits k
    return (.number value.toNat, b)
  | .uint width => do
    let (value, b) ← b.readValue width.sizeof
    return (.number value, b)
  | .string length => do
    let (bytes, b) ← b.readString length
    return (.text bytes, b)

def writeFields (b : ByteBuffer) : List Field → Except Stop ByteBuffer
  | [] => return b
  | field :: rest => do
    let b ← b.writeField field
    b.writeFields rest

def readFields (b : ByteBuffer) : List Kind → Except Stop (List Value × ByteBuffer)
  | [] => return ([], b)
  | kind :: rest => do
    let (value, b) ← b.readField kind
    let (values, b) ← b.readFields rest
    return (value :: values, b)

end ByteBuffer

def writePacket (fields : List Field) : Except Stop ByteBuffer := do
  let b ← ({} : ByteBuffer).writeFields fields
  b.flushBits

/-- The packet is written, its kinds read the values back, and nothing is left over. -/
def RoundTrip (fields : List Field) : Prop :=
  ∃ written read, writePacket fields = .ok written ∧
    written.readFields (fields.map Field.kind) = .ok (fields.map Field.value, read) ∧
    read.rpos = read.size

/-! ### Pieces -/

inductive Piece where
  | bit (value : Bool)
  | flush
  | raw (bytes : List UInt8)

/-- A piece without its value. -/
inductive Shape where
  | bit
  | flush
  | raw (length : ℕ)
deriving DecidableEq, Repr

def Piece.shape : Piece → Shape
  | bit _ => .bit
  | flush => .flush
  | raw bytes => .raw bytes.length

def Field.pieces : Field → List Piece
  | bit value => [.bit value]
  | bits k value => (bitsOf value.toNat k).map .bit
  | uint width value => [.flush, .raw (leBytes width.sizeof value.toNat)]
  | string _ bytes _ => if bytes = [] then [] else [.raw bytes]

def Kind.shapes : Kind → List Shape
  | bit => [.bit]
  | bits k => List.replicate k .bit
  | uint width => [.flush, .raw width.sizeof]
  | string length => if length = 0 then [] else [.raw length.toNat]

lemma Field.shape_pieces (field : Field) :
    field.pieces.map Piece.shape = field.kind.shapes := by
  cases field with
  | bit value => rfl
  | bits k value => simp [pieces, kind, Kind.shapes, Function.comp_def, Piece.shape,
      List.map_const']
  | uint width value => simp [pieces, kind, Kind.shapes, Piece.shape]
  | string length bytes stated =>
    have empty : bytes = [] ↔ length = 0 := by
      rw [← List.length_eq_zero_iff, stated, ← UInt32.toNat_inj]
      rfl
    simp only [pieces, kind, Kind.shapes, empty]
    split <;> simp [Piece.shape, stated]

namespace ByteBuffer

def writePiece (b : ByteBuffer) : Piece → Except Stop ByteBuffer
  | .bit value => b.writeBit value
  | .flush => b.flushBits
  | .raw bytes => b.append bytes

def writePieces (b : ByteBuffer) : List Piece → Except Stop ByteBuffer
  | [] => .ok b
  | piece :: rest => do
    let b ← b.writePiece piece
    b.writePieces rest

section

variable (b : ByteBuffer)

lemma writePieces_append (ps qs : List Piece) :
    b.writePieces (ps ++ qs) = (do let b ← b.writePieces ps; b.writePieces qs) := by
  induction ps generalizing b with
  | nil => rfl
  | cons piece rest ih =>
    simp [List.cons_append, writePieces, ih]

lemma writePieces_singleton (piece : Piece) : b.writePieces [piece] = b.writePiece piece := by
  simp only [writePieces]
  cases b.writePiece piece <;> rfl

lemma writeBits_eq (value k : ℕ) :
    b.writeBits value k = b.writePieces ((bitsOf value k).map .bit) := by
  induction k generalizing b with
  | zero => rfl
  | succ k ih => simp only [writeBits, bitsOf, List.map_cons, writePieces, writePiece, ih]

lemma writeField_eq (field : Field) : b.writeField field = b.writePieces field.pieces := by
  cases field with
  | bit value => exact (writePieces_singleton b (.bit value)).symm
  | bits k value => exact writeBits_eq b value.toNat k
  | uint width value =>
    simp only [writeField, appendValue, Field.pieces, writePieces, writePiece]
    cases b.flushBits with
    | error stop => rfl
    | ok b => exact (writePieces_singleton b (.raw _)).symm
  | string length bytes stated =>
    by_cases empty : bytes = []
    · simp [writeField, writeString, Field.pieces, empty, writePieces]
    · simp only [writeField, writeString, Field.pieces, empty, List.length_eq_zero_iff, ne_eq,
        not_false_eq_true, if_true, if_false]
      exact (writePieces_singleton b (.raw bytes)).symm

lemma writeFields_eq (fields : List Field) :
    b.writeFields fields = b.writePieces (fields.flatMap Field.pieces) := by
  induction fields generalizing b with
  | nil => rfl
  | cons field rest ih =>
    simp only [writeFields, List.flatMap_cons, writePieces_append, writeField_eq, ih]

/-! ### What the writer leaves behind -/

lemma append_at_end (src : List UInt8) (atEnd : b.wpos = b.size) (some : src ≠ [])
    (room : b.size < maxBufferSize) :
    b.append src =
      .ok { b with storage := b.storage ++ src, wpos := b.size + src.length } := by
  have positive : 0 < src.length := List.length_pos_iff.mpr some
  have grows : b.size < b.size + src.length := by omega
  simp only [append, positive.ne', room, not_true_eq_false, if_false, atEnd, if_pos grows]
  simp only [size, List.take_append, List.drop_append, List.take_length]
  simp

lemma append_refused (src : List UInt8) (refused : src = [] ∨ ¬ b.size < maxBufferSize) :
    ∃ stop, b.append src = .error stop := by
  simp only [append, List.length_eq_zero_iff]
  by_cases empty : src = []
  · exact ⟨_, if_pos empty⟩
  · have full := refused.resolve_left empty
    exact ⟨_, by rw [if_neg empty, if_pos full]⟩

end

/-- The writer has a run of fewer than eight bits that are not yet in the storage. -/
structure InRun (b : ByteBuffer) (run : List Bool) : Prop where
  atEnd : b.wpos = b.size
  partly : run.length < 8
  bitpos : b.bitpos = 8 - run.length
  curbitval : b.curbitval = packBits run

lemma inRun_empty : InRun {} [] where
  atEnd := rfl
  partly := by decide
  bitpos := rfl
  curbitval := packBits_nil.symm

end ByteBuffer

/-- The bytes of a list of pieces, with some bits pending, and of the flush at its end. -/
def encode (run : List Bool) : List Piece → List UInt8
  | [] => if run = [] then [] else [packBits run]
  | .bit value :: rest =>
    if run.length = 7 then packBits (run ++ [value]) :: encode [] rest
    else encode (run ++ [value]) rest
  | .flush :: rest => if run = [] then encode [] rest else packBits run :: encode [] rest
  | .raw bytes :: rest => bytes ++ encode run rest

/-- No append comes with nothing to append or finds the buffer full. -/
def Fits (size pending : ℕ) : List Shape → Prop
  | [] => pending ≠ 0 → size < maxBufferSize
  | .bit :: rest =>
    if pending = 7 then size < maxBufferSize ∧ Fits (size + 1) 0 rest
    else Fits size (pending + 1) rest
  | .flush :: rest =>
    if pending = 0 then Fits size 0 rest
    else size < maxBufferSize ∧ Fits (size + 1) 0 rest
  | .raw length :: rest =>
    length ≠ 0 ∧ size < maxBufferSize ∧ Fits (size + length) pending rest

instance Fits.decidable : ∀ size pending shapes, Decidable (Fits size pending shapes)
  | size, pending, [] => inferInstanceAs (Decidable (pending ≠ 0 → size < maxBufferSize))
  | size, pending, .bit :: rest =>
    have := Fits.decidable (size + 1) 0 rest
    have := Fits.decidable size (pending + 1) rest
    inferInstanceAs (Decidable (if pending = 7
      then size < maxBufferSize ∧ Fits (size + 1) 0 rest
      else Fits size (pending + 1) rest))
  | size, pending, .flush :: rest =>
    have := Fits.decidable size 0 rest
    have := Fits.decidable (size + 1) 0 rest
    inferInstanceAs (Decidable (if pending = 0
      then Fits size 0 rest
      else size < maxBufferSize ∧ Fits (size + 1) 0 rest))
  | size, pending, .raw length :: rest =>
    have := Fits.decidable (size + length) pending rest
    inferInstanceAs (Decidable
      (length ≠ 0 ∧ size < maxBufferSize ∧ Fits (size + length) pending rest))

/-! ### One piece written -/

lemma packBits_append (run : List Bool) (value : Bool) (partly : run.length < 8) :
    (if value then packBits run ||| (1 : UInt8) <<< UInt8.ofNat (8 - run.length - 1)
      else packBits run) = packBits (run ++ [value]) := by
  apply bitAt_ext
  intro i small
  have next : 7 - (8 - run.length - 1) = run.length := by omega
  rw [bitAt_packBits _ small]
  rcases lt_trichotomy i run.length with inside | rfl | beyond
  · rw [List.getD_append _ _ _ _ inside]
    cases value with
    | true =>
      have other : i ≠ run.length := by omega
      simp [bitAt_or, bitAt_one_shiftLeft (show 8 - run.length - 1 < 8 by omega) small, next,
        bitAt_packBits run small, other]
    | false => simp [bitAt_packBits run small]
  · cases value with
    | true =>
      simp [bitAt_or, bitAt_one_shiftLeft (show 8 - run.length - 1 < 8 by omega) small, next]
    | false => simp [bitAt_packBits run small]
  · rw [List.getD_append_right _ _ _ _ beyond.le]
    have outside : [value].getD (i - run.length) false = false := by
      rw [List.getD_eq_default]
      simp only [List.length_singleton]
      omega
    have other : i ≠ run.length := by omega
    rw [outside]
    cases value with
    | true =>
      simp [bitAt_or, bitAt_one_shiftLeft (show 8 - run.length - 1 < 8 by omega) small, next,
        bitAt_packBits run small, other, beyond.le]
    | false => simp [bitAt_packBits run small, beyond.le]

namespace ByteBuffer

variable {b : ByteBuffer} {run : List Bool}

lemma writeBit_open (inRun : b.InRun run) (value : Bool) (unfinished : run.length ≠ 7) :
    ∃ b', b.writeBit value = .ok b' ∧ b'.InRun (run ++ [value]) ∧
      b'.storage = b.storage ∧ b'.rpos = b.rpos := by
  have partly := inRun.partly
  have more : 8 - run.length - 1 ≠ 0 := by omega
  let b' : ByteBuffer :=
    { b with bitpos := 8 - run.length - 1, curbitval := packBits (run ++ [value]) }
  refine ⟨b', ?_, ?_, rfl, rfl⟩
  · simp only [writeBit, inRun.bitpos, inRun.curbitval, packBits_append run value partly,
      if_neg more]
    rfl
  · constructor
    · exact inRun.atEnd
    · simp only [List.length_append, List.length_singleton]
      omega
    · simp only [b', List.length_append, List.length_singleton]
      omega
    · rfl

def closed (b : ByteBuffer) (bytes : List UInt8) : ByteBuffer where
  rpos := b.rpos
  wpos := b.size + bytes.length
  storage := b.storage ++ bytes

lemma closed_closed (b : ByteBuffer) (left right : List UInt8) :
    (b.closed left).closed right = b.closed (left ++ right) := by
  simp [closed, size, Nat.add_assoc]

@[simp] lemma size_closed (b : ByteBuffer) (bytes : List UInt8) :
    (b.closed bytes).size = b.size + bytes.length := by
  simp [closed, size]

lemma inRun_closed (b : ByteBuffer) (bytes : List UInt8) : (b.closed bytes).InRun [] where
  atEnd := (size_closed b bytes).symm
  partly := by simp
  bitpos := rfl
  curbitval := packBits_nil.symm

lemma closed_nil (idle : b.InRun []) : b.closed [] = b := by
  obtain ⟨rpos, wpos, bitpos, curbitval, storage⟩ := b
  obtain ⟨atEnd, -, eight, zero⟩ := idle
  simp only [packBits_nil] at zero
  simp only [List.length_nil, Nat.sub_zero] at eight
  simp only [size] at atEnd
  simp [closed, size, atEnd, eight, zero]

lemma writeBit_close (inRun : b.InRun run) (value : Bool) (last : run.length = 7)
    (room : b.size < maxBufferSize) :
    b.writeBit value = .ok (b.closed [packBits (run ++ [value])]) := by
  have none : 8 - run.length - 1 = 0 := by omega
  have added := append_at_end { b with bitpos := 8, curbitval := packBits (run ++ [value]) }
    [packBits (run ++ [value])] inRun.atEnd (by simp) room
  simp only [writeBit, inRun.bitpos, inRun.curbitval, packBits_append run value inRun.partly,
    if_pos none, added]
  rfl

lemma writeBit_full (inRun : b.InRun run) (value : Bool) (last : run.length = 7)
    (full : ¬ b.size < maxBufferSize) : ∃ stop, b.writeBit value = .error stop := by
  have none : 8 - run.length - 1 = 0 := by omega
  obtain ⟨stop, refused⟩ := append_refused
    { b with bitpos := 8, curbitval := packBits (run ++ [value]) } [packBits (run ++ [value])]
    (.inr full)
  refine ⟨stop, ?_⟩
  simp only [writeBit, inRun.bitpos, inRun.curbitval, packBits_append run value inRun.partly,
    if_pos none, refused]
  rfl

lemma flushBits_idle (idle : b.InRun []) : b.flushBits = .ok b := by
  have eight : b.bitpos = 8 := idle.bitpos
  simp only [flushBits, eight, if_true]
  rfl

lemma flushBits_close (inRun : b.InRun run) (pending : run ≠ []) (room : b.size < maxBufferSize) :
    b.flushBits = .ok (b.closed [packBits run]) := by
  have some := List.length_pos_iff.mpr pending
  have notEight : b.bitpos ≠ 8 := by
    rw [inRun.bitpos]
    omega
  simp only [flushBits, if_neg notEight, inRun.curbitval,
    append_at_end b [packBits run] inRun.atEnd (by simp) room]
  rfl

lemma flushBits_full (inRun : b.InRun run) (pending : run ≠ []) (full : ¬ b.size < maxBufferSize) :
    ∃ stop, b.flushBits = .error stop := by
  have some := List.length_pos_iff.mpr pending
  have notEight : b.bitpos ≠ 8 := by
    rw [inRun.bitpos]
    omega
  obtain ⟨stop, refused⟩ := append_refused b [b.curbitval] (.inr full)
  refine ⟨stop, ?_⟩
  simp only [flushBits, if_neg notEight, refused]
  rfl

lemma append_inRun (inRun : b.InRun run) {bytes : List UInt8} (some : bytes ≠ [])
    (room : b.size < maxBufferSize) :
    ∃ b', b.append bytes = .ok b' ∧ b'.InRun run ∧ b'.storage = b.storage ++ bytes ∧
      b'.rpos = b.rpos := by
  refine ⟨_, append_at_end b bytes inRun.atEnd some room, ?_, rfl, rfl⟩
  constructor
  · simp [size]
  · exact inRun.partly
  · exact inRun.bitpos
  · exact inRun.curbitval

/-! ### All pieces written -/

def finish (b : ByteBuffer) (ps : List Piece) : Except Stop ByteBuffer := do
  let b ← b.writePieces ps
  b.flushBits

lemma finish_cons {b' : ByteBuffer} (piece : Piece) {rest : List Piece}
    (wrote : b.writePiece piece = .ok b') : b.finish (piece :: rest) = b'.finish rest := by
  simp only [finish, writePieces, wrote]
  rfl

lemma finish_cons_error (piece : Piece) {rest : List Piece} {stop : Stop}
    (refused : b.writePiece piece = .error stop) : b.finish (piece :: rest) = .error stop := by
  simp only [finish, writePieces, refused]
  rfl

lemma closed_congr {b' : ByteBuffer} {bytes : List UInt8} (rest : List UInt8)
    (storage : b'.storage = b.storage ++ bytes) (rpos : b'.rpos = b.rpos) :
    b'.closed rest = b.closed (bytes ++ rest) := by
  simp [closed, size, storage, rpos, Nat.add_assoc]

lemma finish_of_fits (inRun : b.InRun run) (ps : List Piece)
    (fits : Fits b.size run.length (ps.map Piece.shape)) :
    b.finish ps = .ok (b.closed (encode run ps)) := by
  induction ps generalizing b run with
  | nil =>
    change b.flushBits = _
    by_cases idle : run = []
    · subst idle
      rw [flushBits_idle inRun, encode, if_pos rfl, closed_nil inRun]
    · have room : b.size < maxBufferSize := fits (by simpa using idle)
      rw [flushBits_close inRun idle room, encode, if_neg idle]
  | cons piece rest ih =>
    cases piece with
    | bit value =>
      simp only [List.map_cons, Piece.shape, Fits] at fits
      by_cases last : run.length = 7
      · rw [if_pos last] at fits
        rw [finish_cons (.bit value) (writeBit_close inRun value last fits.1),
          ih (inRun_closed b _) (by simpa using fits.2), closed_closed, encode, if_pos last]
        rfl
      · rw [if_neg last] at fits
        obtain ⟨b', wrote, inRun', storage, rpos⟩ := writeBit_open inRun value last
        have size : b'.size = b.size := congrArg List.length storage
        rw [finish_cons (.bit value) wrote, ih inRun' (by simpa [size] using fits), encode, if_neg last]
        rw [closed_congr _ (storage.trans (List.append_nil _).symm) rpos, List.nil_append]
    | flush =>
      simp only [List.map_cons, Piece.shape, Fits, List.length_eq_zero_iff] at fits
      by_cases idle : run = []
      · subst idle
        rw [finish_cons .flush (flushBits_idle inRun), ih inRun fits, encode, if_pos rfl]
      · rw [if_neg idle] at fits
        rw [finish_cons .flush (flushBits_close inRun idle fits.1),
          ih (inRun_closed b _) (by simpa using fits.2), closed_closed, encode, if_neg idle]
        rfl
    | raw bytes =>
      obtain ⟨some, room, fits⟩ := fits
      obtain ⟨b', wrote, inRun', storage, rpos⟩ :=
        append_inRun inRun (by simpa using some) room
      have size : b'.size = b.size + bytes.length := by
        simp [ByteBuffer.size, storage]
      rw [finish_cons (.raw bytes) wrote, ih inRun' (by rwa [size]), closed_congr _ storage rpos, encode]

lemma fits_of_finish {w : ByteBuffer} (inRun : b.InRun run) (ps : List Piece)
    (done : b.finish ps = .ok w) : Fits b.size run.length (ps.map Piece.shape) := by
  induction ps generalizing b run with
  | nil =>
    intro pending
    by_contra full
    obtain ⟨stop, refused⟩ := flushBits_full inRun (by simpa using pending) full
    have clash := refused.symm.trans done
    cases clash
  | cons piece rest ih =>
    cases piece with
    | bit value =>
      simp only [List.map_cons, Piece.shape, Fits]
      by_cases last : run.length = 7
      · rw [if_pos last]
        by_cases room : b.size < maxBufferSize
        · rw [finish_cons (.bit value) (writeBit_close inRun value last room)] at done
          exact ⟨room, by simpa using ih (inRun_closed b _) done⟩
        · obtain ⟨stop, refused⟩ := writeBit_full inRun value last room
          rw [finish_cons_error (.bit value) refused] at done
          cases done
      · rw [if_neg last]
        obtain ⟨b', wrote, inRun', storage, rpos⟩ := writeBit_open inRun value last
        have size : b'.size = b.size := congrArg List.length storage
        rw [finish_cons (.bit value) wrote] at done
        simpa [size] using ih inRun' done
    | flush =>
      simp only [List.map_cons, Piece.shape, Fits, List.length_eq_zero_iff]
      by_cases idle : run = []
      · subst idle
        rw [finish_cons .flush (flushBits_idle inRun)] at done
        simpa using ih inRun done
      · rw [if_neg idle]
        by_cases room : b.size < maxBufferSize
        · rw [finish_cons .flush (flushBits_close inRun idle room)] at done
          exact ⟨room, by simpa using ih (inRun_closed b _) done⟩
        · obtain ⟨stop, refused⟩ := flushBits_full inRun idle room
          rw [finish_cons_error .flush refused] at done
          cases done
    | raw bytes =>
      by_cases refusal : bytes = [] ∨ ¬ b.size < maxBufferSize
      · obtain ⟨stop, refused⟩ := append_refused b bytes refusal
        rw [finish_cons_error (.raw bytes) refused] at done
        cases done
      · obtain ⟨some, room⟩ := not_or.mp refusal
        obtain ⟨b', wrote, inRun', storage, rpos⟩ := append_inRun inRun some (not_not.mp room)
        have size : b'.size = b.size + bytes.length := by
          simp [ByteBuffer.size, storage]
        rw [finish_cons (.raw bytes) wrote] at done
        exact ⟨by simpa using some, not_not.mp room, size ▸ ih inRun' done⟩

end ByteBuffer

lemma writePacket_eq (fields : List Field) :
    writePacket fields = ({} : ByteBuffer).finish (fields.flatMap Field.pieces) := by
  simp only [writePacket, ByteBuffer.finish, ByteBuffer.writeFields_eq]

end WorldServer.Packets
