import Mathlib.Data.List.TakeWhile
import WorldServer.Lib.Table
import WorldServer.Packets.Reader

/-!
# Round trip of packets

A field comes back when its pieces do, as far as its kind can hold the value: `ReadBits`
returns 32 bits and `ReadString` stops at a zero byte. What remains is a condition on the
sequence of kinds.
-/
namespace WorldServer.Packets

open WorldServer.Lib

def Kind.Narrow : Kind → Prop
  | bits k => (k : ℕ) ≤ 32
  | string length => length = 0 ∨ length + 1 ≠ 0
  | _ => True

def Field.Clean : Field → Prop
  | string _ bytes _ => 0 ∉ bytes
  | _ => True

/-- The packets whose values come back, by their kinds alone. -/
structure Sound (kinds : List Kind) : Prop where
  narrow : ∀ kind ∈ kinds, kind.Narrow
  aligned : Aligned 0 false (kinds.flatMap Kind.shapes)
  fits : Fits 0 0 (kinds.flatMap Kind.shapes)

instance : ∀ kind : Kind, Decidable kind.Narrow
  | .bit => isTrue trivial
  | .bits k => inferInstanceAs (Decidable ((k : ℕ) ≤ 32))
  | .uint _ => isTrue trivial
  | .string length => inferInstanceAs (Decidable (length = 0 ∨ length + 1 ≠ 0))

instance (kinds : List Kind) : Decidable (Sound kinds) :=
  decidable_of_iff
    ((∀ kind ∈ kinds, kind.Narrow) ∧ Aligned 0 false (kinds.flatMap Kind.shapes) ∧
      Fits 0 0 (kinds.flatMap Kind.shapes))
    ⟨fun ⟨narrow, aligned, fits⟩ => ⟨narrow, aligned, fits⟩,
      fun sound => ⟨sound.narrow, sound.aligned, sound.fits⟩⟩

variable {b last : ByteBuffer} {fields : List Field}

namespace ByteBuffer

/-! ### One field read -/

/-- A value that is read and wrapped as `f` has it -/
lemma wrapped_eq_ok {α β : Type} {first : Except Stop (α × ByteBuffer)} {f : α → β} {result : β} :
    (first >>= fun read => pure (f read.1, read.2)) = Except.ok (result, last) ↔
      ∃ value, first = .ok (value, last) ∧ f value = result := by
  cases first with
  | error stop => simp [bind, Except.bind]
  | ok read => simp [bind, Except.bind, pure, Except.pure, Prod.ext_iff, and_comm]

lemma readBitsFrom_iff (word result : UInt32) (k : ℕ) :
    b.readBitsFrom word k = .ok (result, last) ↔
      ∃ bits : List Bool, bits.length = k ∧ result = bitsFrom word bits ∧
        b.readShapes (List.replicate k .bit) = .ok (bits.map .bit, last) := by
  induction k generalizing b word with
  | zero =>
    constructor
    · intro read
      injection read with pair
      injection pair with value buffer
      exact ⟨[], rfl, value.symm, by rw [buffer]; rfl⟩
    · rintro ⟨bits, none, value, read⟩
      obtain rfl := List.length_eq_zero_iff.mp none
      injection read with pair
      injection pair with _ buffer
      rw [value, ← buffer]
      rfl
  | succ k ih =>
    constructor
    · intro read
      obtain ⟨⟨bit, b'⟩, first, others⟩ := bind_eq_ok.mp read
      obtain ⟨bits, length, value, others⟩ := (ih _).mp others
      refine ⟨bit :: bits, by simp [length], by rw [bitsFrom, length, value], ?_⟩
      apply readShapes_cons_ok .bit _ others
      simp only [readShape, first]
      rfl
    · rintro ⟨bits, length, value, read⟩
      obtain ⟨bit, bits, rfl⟩ := List.exists_cons_of_length_eq_add_one length
      obtain ⟨b', first, others⟩ := readShapes_cons read
      obtain ⟨⟨bit', b''⟩, bitRead, hs⟩ := bind_eq_ok.mp first
      obtain ⟨rfl, rfl⟩ := hs
      have shorter : bits.length = k := by simpa using length
      rw [bitsFrom, shorter] at value
      exact bind_eq_ok.mpr ⟨_, bitRead, (ih _).mpr ⟨bits, shorter, value, others⟩⟩

lemma readShapes_singleton {shape : Shape} {piece : Piece} :
    b.readShapes [shape] = .ok ([piece], last) ↔ b.readShape shape = .ok (piece, last) := by
  constructor
  · intro read
    obtain ⟨b', first, others⟩ := readShapes_cons read
    injection others with pair
    injection pair with _ buffer
    rw [← buffer]
    exact first
  · intro first
    exact readShapes_cons_ok shape first rfl

variable {bytes : List UInt8} {field : Field}

lemma readShape_raw {length : ℕ} :
    b.readShape (.raw length) = .ok (.raw bytes, last) ↔ b.read length = .ok (bytes, last) :=
  wrapped_eq_ok.trans (by simp)

lemma length_of_read {length : ℕ} (read : b.read length = .ok (bytes, last)) :
    bytes.length = length := by
  rw [ByteBuffer.read] at read
  split at read
  · cases read
  · next inside =>
    injection read with pair
    injection pair with value _
    rw [← value, List.length_take, List.length_drop]
    simp only [size] at inside
    omega

lemma readField_bit {value : Bool} :
    b.readField .bit = .ok (.bit value, last) ↔ b.readShape .bit = .ok (.bit value, last) :=
  wrapped_eq_ok.trans (Iff.trans (by simp) wrapped_eq_ok.symm)

lemma readField_bits_eq_ok {k : Fin 65} {n : ℕ} :
    b.readField (.bits k) = .ok (.number n, last) ↔
      ∃ word, b.readBits k = .ok (word, last) ∧ word.toNat = n :=
  (wrapped_eq_ok (f := fun word : UInt32 => Value.number word.toNat)).trans (by simp)

lemma readField_bits {k : Fin 65} {value : BitVec k} (narrow : (k : ℕ) ≤ 32) :
    b.readField (.bits k) = .ok (.number value.toNat, last) ↔
      b.readShapes (List.replicate k .bit) =
        .ok ((bitsOf value.toNat k).map .bit, last) := by
  have held := bitsFrom_bitsOf narrow value.isLt
  rw [readField_bits_eq_ok]
  constructor
  · rintro ⟨word, loop, number⟩
    obtain ⟨bits, length, rfl, shapes⟩ := (readBitsFrom_iff 0 word k).mp loop
    have word : bitsFrom 0 bits = bitsFrom 0 (bitsOf value.toNat k) :=
      UInt32.toNat_inj.mp (number.trans held.symm)
    rwa [bitsFrom_inj (by omega) (by simpa using length) word] at shapes
  · intro shapes
    have word := (readBitsFrom_iff 0 _ k).mpr ⟨_, length_bitsOf value.toNat k, rfl, shapes⟩
    exact ⟨_, word, held⟩

lemma readField_uint {width : Width} {value : BitVec (8 * width.sizeof)} :
    b.readField (.uint width) = .ok (.number value.toNat, last) ↔
      b.readShape (.raw width.sizeof) =
        .ok (.raw (leBytes width.sizeof value.toNat), last) := by
  have fits : value.toNat < 256 ^ width.sizeof := by
    have small := value.isLt
    rwa [pow_mul] at small
  rw [readShape_raw]
  constructor
  · intro read
    obtain ⟨⟨number, b'⟩, bytes, hs⟩ := bind_eq_ok.mp read
    obtain ⟨rfl, rfl⟩ := hs
    obtain ⟨⟨raw, b''⟩, raws, hs⟩ := bind_eq_ok.mp bytes
    simp only [pure, Except.pure, Except.ok.injEq, Prod.mk.injEq] at hs
    obtain ⟨number, rfl⟩ := hs
    have length := length_of_read raws
    have bytes : raw = leBytes width.sizeof value.toNat :=
      leValue_inj (by simpa using length) (number.trans (leValue_leBytes fits).symm)
    rwa [bytes] at raws
  · intro raws
    exact wrapped_eq_ok.mpr
      ⟨_, wrapped_eq_ok.mpr ⟨_, raws, rfl⟩, congrArg Value.number (leValue_leBytes fits)⟩

lemma clean_of_readString {length : UInt32} (read : b.readString length = .ok (bytes, last)) :
    0 ∉ bytes := by
  simp only [readString] at read
  split at read
  · injection read with pair
    injection pair with value _
    simp [← value]
  · split at read
    · cases read
    · obtain ⟨buffer, raw, rfl⟩ := wrapped_eq_ok.mp read
      intro zero
      simpa using List.mem_takeWhile_imp zero

lemma readString_iff {length : UInt32} (some : length ≠ 0) (narrow : length + 1 ≠ 0)
    (stated : bytes.length = length.toNat) (clean : 0 ∉ bytes) :
    b.readString length = .ok (bytes, last) ↔ b.read length.toNat = .ok (bytes, last) := by
  simp only [readString, if_neg some, if_neg narrow]
  constructor
  · intro read
    obtain ⟨buffer, raw, value⟩ := wrapped_eq_ok.mp read
    -- what is kept is a prefix, and it has the full length
    have whole : bytes = buffer := by
      apply List.IsPrefix.eq_of_length (value ▸ List.takeWhile_prefix _)
      rw [stated, length_of_read raw]
    rw [whole]
    exact raw
  · intro raw
    refine bind_eq_ok.mpr ⟨_, raw, ?_⟩
    have kept : bytes.takeWhile (· ≠ 0) = bytes := by
      apply List.takeWhile_eq_self_iff.mpr
      intro byte mem
      have nonzero : byte ≠ 0 := fun zero => clean (zero ▸ mem)
      simpa using nonzero
    simp only [kept]
    rfl

lemma readField_iff (narrow : field.kind.Narrow) (clean : field.Clean) :
    b.readField field.kind = .ok (field.value, last) ↔
      b.readShapes field.kind.shapes = .ok (field.pieces, last) := by
  cases field with
  | bit value => exact readField_bit.trans readShapes_singleton.symm
  | bits k value => exact readField_bits narrow
  | uint width value =>
    refine readField_uint.trans ?_
    rw [← readShapes_singleton]
    constructor
    · exact readShapes_cons_ok .flush rfl
    · intro read
      obtain ⟨b', first, others⟩ := readShapes_cons read
      injection first with pair
      injection pair with _ buffer
      rwa [buffer]
  | string length bytes stated =>
    have text : b.readField (.string length) = .ok (.text bytes, last) ↔
        b.readString length = .ok (bytes, last) := by
      constructor
      · intro read
        obtain ⟨⟨bytes', b'⟩, string, hs⟩ := bind_eq_ok.mp read
        obtain ⟨rfl, rfl⟩ := hs
        exact string
      · intro string
        exact bind_eq_ok.mpr ⟨_, string, rfl⟩
    refine text.trans ?_
    by_cases none : length = 0
    · subst none
      obtain rfl : bytes = [] := List.length_eq_zero_iff.mp stated
      simp [readString, Field.kind, Field.pieces, Kind.shapes, readShapes, pure, Except.pure]
    · have some : bytes ≠ [] := by
        rintro rfl
        exact none (UInt32.toNat_inj.mp stated.symm)
      rw [readString_iff none (narrow.resolve_left none) stated clean, ← readShape_raw,
        ← readShapes_singleton]
      simp [Field.kind, Kind.shapes, Field.pieces, none, some]

/-! ### All fields read -/

lemma readShapes_append (ps qs : List Piece) :
    b.readShapes (ps.map Piece.shape ++ qs.map Piece.shape) = .ok (ps ++ qs, last) ↔
      ∃ b', b.readShapes (ps.map Piece.shape) = .ok (ps, b') ∧
        b'.readShapes (qs.map Piece.shape) = .ok (qs, last) := by
  induction ps generalizing b with
  | nil =>
    constructor
    · exact fun read => ⟨b, rfl, read⟩
    · rintro ⟨b', none, read⟩
      injection none with pair
      injection pair with _ buffer
      rwa [buffer]
  | cons piece rest ih =>
    constructor
    · intro read
      obtain ⟨b', first, others⟩ := readShapes_cons read
      obtain ⟨b'', mine, theirs⟩ := ih.mp others
      exact ⟨b'', readShapes_cons_ok _ first mine, theirs⟩
    · rintro ⟨b'', mine, theirs⟩
      obtain ⟨b', first, others⟩ := readShapes_cons mine
      exact readShapes_cons_ok _ first (ih.mpr ⟨b'', others, theirs⟩)

lemma readFields_cons (field : Field) (rest : List Field) :
    b.readFields ((field :: rest).map Field.kind) =
        .ok ((field :: rest).map Field.value, last) ↔
      ∃ b', b.readField field.kind = .ok (field.value, b') ∧
        b'.readFields (rest.map Field.kind) = .ok (rest.map Field.value, last) := by
  constructor
  · intro read
    obtain ⟨⟨value, b'⟩, first, read⟩ := bind_eq_ok.mp read
    obtain ⟨⟨values, b''⟩, others, hs⟩ := bind_eq_ok.mp read
    obtain ⟨⟨rfl, rfl⟩, rfl⟩ := hs
    exact ⟨b', first, others⟩
  · rintro ⟨b', first, others⟩
    exact bind_eq_ok.mpr ⟨_, first, bind_eq_ok.mpr ⟨_, others, rfl⟩⟩

lemma readFields_iff (narrow : ∀ field ∈ fields, field.kind.Narrow)
    (clean : ∀ field ∈ fields, field.Clean) :
    b.readFields (fields.map Field.kind) = .ok (fields.map Field.value, last) ↔
      b.readShapes ((fields.flatMap Field.pieces).map Piece.shape) =
        .ok (fields.flatMap Field.pieces, last) := by
  induction fields generalizing b with
  | nil =>
    simp [readFields, readShapes, pure, Except.pure]
  | cons field rest ih =>
    have tail := fun b' : ByteBuffer => ih (b := b') (fun f mem => narrow f (by simp [mem]))
      (fun f mem => clean f (by simp [mem]))
    rw [readFields_cons, List.flatMap_cons, List.map_append, readShapes_append]
    simp only [readField_iff (narrow field (by simp)) (clean field (by simp)),
      Field.shape_pieces, tail]

lemma readField_of_readFields
    (read : b.readFields (fields.map Field.kind) = .ok (fields.map Field.value, last))
    (mem : field ∈ fields) :
    ∃ b' b'' : ByteBuffer, b'.readField field.kind = .ok (field.value, b'') := by
  induction fields generalizing b with
  | nil => simp at mem
  | cons first rest ih =>
    obtain ⟨b', mine, others⟩ := (readFields_cons first rest).mp read
    rcases List.mem_cons.mp mem with rfl | mem
    · exact ⟨b, b', mine⟩
    · exact ih others mem

lemma clean_of_readField (read : b.readField field.kind = .ok (field.value, last)) :
    field.Clean := by
  cases field with
  | string length bytes stated =>
    obtain ⟨⟨bytes', b'⟩, string, hs⟩ := bind_eq_ok.mp read
    obtain ⟨rfl, rfl⟩ := hs
    exact clean_of_readString string
  | _ => trivial

end ByteBuffer

/-! ### The telltale packet -/

/-- All bits set, all numbers zero, all strings filled with ones. -/
def Kind.telltale : Kind → Field
  | bit => .bit true
  | bits k => .bits k (BitVec.allOnes k)
  | uint width => .uint width 0
  | string length => .string length (List.replicate length.toNat 1) (by simp)

@[simp] lemma Kind.kind_telltale (kind : Kind) : kind.telltale.kind = kind := by
  cases kind <;> rfl

lemma Kind.clean_telltale (kind : Kind) : kind.telltale.Clean := by
  cases kind with
  | string length => simp [telltale, Field.Clean]
  | _ => trivial

lemma Kind.telltale_pieces (kind : Kind) : ∀ piece ∈ kind.telltale.pieces, piece.Telltale := by
  intro piece mem
  cases kind with
  | bit =>
    obtain rfl : piece = .bit true := by simpa [telltale, Field.pieces] using mem
    rfl
  | bits k =>
    obtain ⟨value, bit, rfl⟩ := List.mem_map.mp mem
    obtain ⟨j, below, hs⟩ := mem_bitsOf bit
    change value = true
    simpa [below] using hs.symm
  | uint width =>
    have first : ∃ rest, leBytes width.sizeof 0 = 0 :: rest := by
      cases width <;> exact ⟨_, rfl⟩
    obtain ⟨rest, zeros⟩ := first
    simp only [telltale, Field.pieces, List.mem_cons, List.not_mem_nil, or_false] at mem
    rcases mem with rfl | rfl
    · trivial
    · exact ⟨0, rest, zeros, by decide⟩
  | string length =>
    simp only [telltale, Field.pieces] at mem
    split at mem
    next none => simp at mem
    next some =>
      obtain rfl := List.mem_singleton.mp mem
      obtain ⟨byte, rest, ones⟩ := List.exists_cons_of_ne_nil some
      refine ⟨byte, rest, ones, ?_⟩
      obtain rfl : byte = 1 :=
        List.eq_of_mem_replicate (n := length.toNat) (by rw [ones]; simp)
      decide

lemma Kind.narrow_of_telltale (kind : Kind)
    (read : b.readField kind = .ok (kind.telltale.value, last)) : kind.Narrow := by
  cases kind with
  | bits k =>
    obtain ⟨word, -, hs⟩ := ByteBuffer.readField_bits_eq_ok.mp read
    rw [BitVec.toNat_allOnes] at hs
    have small := word.toNat_lt
    by_contra wide
    have power : 2 ^ 33 ≤ 2 ^ (k : ℕ) := Nat.pow_le_pow_right (by omega) (by
      simp only [Narrow] at wide
      omega)
    omega
  | string length =>
    by_cases none : length = 0
    · exact .inl none
    · right
      intro wraps
      obtain ⟨bytes, string, hs⟩ := ByteBuffer.wrapped_eq_ok.mp read
      simp only [ByteBuffer.readString, if_neg none, if_pos wraps] at string
      cases string
  | _ => trivial

/-! ### Round trips -/

lemma shapes_pieces (fields : List Field) :
    (fields.flatMap Field.pieces).map Piece.shape =
      (fields.map Field.kind).flatMap Kind.shapes := by
  induction fields with
  | nil => rfl
  | cons field rest ih =>
    simp only [List.flatMap_cons, List.map_append, List.map_cons, Field.shape_pieces, ih]

lemma sync_written (ps : List Piece) :
    Sync (({} : ByteBuffer).closed (encode [] ps)) [] false ps where
  within := Nat.zero_le _
  partly := by decide
  idle := fun _ => rfl
  current := by simp
  agrees := by simp
  fresh := fun _ _ => (by decide : 7 ≤ 8)
  shortened := by simp

lemma roundTrip_of_sound (sound : Sound (fields.map Field.kind))
    (clean : ∀ field ∈ fields, field.Clean) : RoundTrip fields := by
  obtain ⟨narrow, aligned, fits⟩ := sound
  rw [← shapes_pieces] at aligned fits
  have wrote := ByteBuffer.finish_of_fits ByteBuffer.inRun_empty _ fits
  obtain ⟨last, read, done⟩ := readShapes_of_aligned _ (sync_written _) aligned
  have narrow' : ∀ field ∈ fields, field.kind.Narrow := fun field mem =>
    narrow _ (List.mem_map_of_mem mem)
  exact ⟨_, last, (writePacket_eq fields).trans wrote,
    (ByteBuffer.readFields_iff narrow' clean).mpr read, done⟩

lemma clean_of_roundTrip (trip : RoundTrip fields) : ∀ field ∈ fields, field.Clean := by
  obtain ⟨written, last, wrote, read, done⟩ := trip
  intro field mem
  obtain ⟨b', b'', mine⟩ := ByteBuffer.readField_of_readFields read mem
  exact ByteBuffer.clean_of_readField mine

lemma sound_of_telltale {kinds : List Kind} (trip : RoundTrip (kinds.map Kind.telltale)) :
    Sound kinds := by
  obtain ⟨written, last, wrote, read, done⟩ := trip
  have hs : (kinds.map Kind.telltale).map Field.kind = kinds := by
    simp [Function.comp_def]
  have narrow : ∀ kind ∈ kinds, kind.Narrow := by
    intro kind mem
    obtain ⟨b', b'', mine⟩ :=
      ByteBuffer.readField_of_readFields read (List.mem_map_of_mem mem)
    rw [Kind.kind_telltale] at mine
    exact kind.narrow_of_telltale mine
  rw [writePacket_eq] at wrote
  have fits := ByteBuffer.fits_of_finish ByteBuffer.inRun_empty _ wrote
  have held := ByteBuffer.finish_of_fits ByteBuffer.inRun_empty _ fits
  obtain rfl := Except.ok.inj (held.symm.trans wrote)
  have pieces := (ByteBuffer.readFields_iff
    (by simpa using narrow) (by simp [Kind.clean_telltale])).mp read
  have tell : ∀ piece ∈ (kinds.map Kind.telltale).flatMap Field.pieces, piece.Telltale := by
    intro piece mem
    obtain ⟨field, mem, mine⟩ := List.mem_flatMap.mp mem
    obtain ⟨kind, _, rfl⟩ := List.mem_map.mp mem
    exact kind.telltale_pieces piece mine
  have aligned := aligned_of_readShapes _ tell (by simp) (sync_written _) pieces
  rw [shapes_pieces, hs] at aligned fits
  exact ⟨narrow, aligned, fits⟩

/-- The packets of a sequence of kinds come back exactly when their strings are clean, if
and only if the sequence is sound. -/
theorem roundTrip_iff (kinds : List Kind) :
    (∀ fields : List Field, fields.map Field.kind = kinds →
      (RoundTrip fields ↔ ∀ field ∈ fields, field.Clean)) ↔ Sound kinds := by
  constructor
  · intro all
    apply sound_of_telltale
    apply (all _ (by simp [Function.comp_def])).mpr
    simp [Kind.clean_telltale]
  · rintro sound fields rfl
    exact ⟨clean_of_roundTrip, roundTrip_of_sound sound⟩

/-- A string between whole bytes of bits is sound, one bit earlier it is not. -/
example : Sound [.uint .uint32, .bits 7, .bit, .string 3, .bits 12, .uint .uint8] ∧
    ¬ Sound [.uint .uint32, .bits 7, .string 3, .bit, .bits 12, .uint .uint8] := by decide

def bitsAroundByte : List Field := [.bit true, .uint .uint8 5, .bit true]

/-- The second bit is read from the byte that the flush before the number cut short. -/
theorem bitsAroundByte_changed : ¬ RoundTrip bitsAroundByte := by
  rintro ⟨written, last, wrote, read, -⟩
  have stored : writePacket bitsAroundByte =
      .ok { wpos := 3, storage := [0x80, 0x05, 0x80] } := rfl
  obtain rfl := Except.ok.inj (stored.symm.trans wrote)
  have seen : ({ wpos := 3, storage := [0x80, 0x05, 0x80] } : ByteBuffer).readFields
      (bitsAroundByte.map Field.kind) =
        .ok ([.bit true, .number 5, .bit false],
          { rpos := 2, wpos := 3, bitpos := 1, curbitval := 0x80,
            storage := [0x80, 0x05, 0x80] }) := rfl
  have values := (Prod.mk.inj (Except.ok.inj (seen.symm.trans read))).1
  simp [bitsAroundByte, Field.value] at values

end WorldServer.Packets
