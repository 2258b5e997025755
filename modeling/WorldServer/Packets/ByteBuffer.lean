import WorldServer.Lib.Bits

/-!
# The packet buffer

Bytes with a write and a read cursor, and one byte under construction that the bit writer
and the bit reader share. Whole values are put in after a flush, raw strings without one.
-/
namespace WorldServer.Packets

open WorldServer.Lib

/-- What ends an operation early. -/
inductive Stop where
  | position (add : Bool) (pos size valueSize : ℕ)
  /-- `ByteBufferSourceException`. -/
  | source (pos size valueSize : ℕ)
  /-- A failed `ASSERT`. -/
  | assertion
  /-- A write outside of an allocation. -/
  | overrun
deriving DecidableEq, Repr

lemma bind_eq_ok {α β : Type} {first : Except Stop α} {next : α → Except Stop β} {result : β} :
    (first >>= next) = .ok result ↔ ∃ value, first = .ok value ∧ next value = .ok result := by
  cases first with
  | error stop => simp [bind, Except.bind]
  | ok value => simp [bind, Except.bind]

structure ByteBuffer where
  rpos : ℕ := 0
  wpos : ℕ := 0
  bitpos : ℕ := 8
  curbitval : UInt8 := 0
  storage : List UInt8 := []
deriving DecidableEq, Repr

/-- The size from which `append` refuses to grow the buffer. -/
def maxBufferSize : ℕ := 10000000

namespace ByteBuffer

def size (b : ByteBuffer) : ℕ := b.storage.length

/-! ### Writing -/

/-- The bytes of `src` at the write cursor. -/
def append (b : ByteBuffer) (src : List UInt8) : Except Stop ByteBuffer :=
  if src.length = 0 then .error (.source b.wpos b.size src.length)
  else if ¬ b.size < maxBufferSize then .error .assertion
  else
    let storage :=
      if b.size < b.wpos + src.length
      then b.storage ++ List.replicate (b.wpos + src.length - b.size) 0
      else b.storage
    .ok { b with
      storage := storage.take b.wpos ++ src ++ storage.drop (b.wpos + src.length)
      wpos := b.wpos + src.length }

def flushBits (b : ByteBuffer) : Except Stop ByteBuffer := do
  if b.bitpos = 8 then
    return b
  let b ← b.append [b.curbitval]
  return { b with curbitval := 0, bitpos := 8 }

def appendValue (b : ByteBuffer) (sizeof value : ℕ) : Except Stop ByteBuffer := do
  let b ← b.flushBits
  b.append (leBytes sizeof value)

def writeBit (b : ByteBuffer) (bit : Bool) : Except Stop ByteBuffer := do
  let bitpos := b.bitpos - 1
  let curbitval :=
    if bit then b.curbitval ||| (1 : UInt8) <<< UInt8.ofNat bitpos else b.curbitval
  if bitpos = 0 then
    let b ← { b with bitpos := 8, curbitval }.append [curbitval]
    return { b with curbitval := 0 }
  return { b with bitpos, curbitval }

def writeBits (b : ByteBuffer) (value : ℕ) : ℕ → Except Stop ByteBuffer
  | 0 => return b
  | i + 1 => do
    let b ← b.writeBit (value.testBit i)
    b.writeBits value i

def writeString (b : ByteBuffer) (str : List UInt8) : Except Stop ByteBuffer :=
  if str.length ≠ 0 then b.append str else .ok b

/-! ### Reading -/

def read (b : ByteBuffer) (len : ℕ) : Except Stop (List UInt8 × ByteBuffer) :=
  if b.rpos + len > b.size then .error (.position false b.rpos len b.size)
  else .ok ((b.storage.drop b.rpos).take len, { b with rpos := b.rpos + len })

def readValue (b : ByteBuffer) (sizeof : ℕ) : Except Stop (ℕ × ByteBuffer) := do
  let (bytes, b) ← b.read sizeof
  return (leValue bytes, b)

def readBit (b : ByteBuffer) : Except Stop (Bool × ByteBuffer) := do
  let b := { b with bitpos := b.bitpos + 1 }
  let b ←
    if b.bitpos > 7 then
      let (byte, b) ← { b with bitpos := 0 }.readValue 1
      pure { b with curbitval := UInt8.ofNat byte }
    else pure b
  return ((b.curbitval >>> UInt8.ofNat (7 - b.bitpos)) &&& 1 != 0, b)

/-- The loop counts the remaining bits down, with the value read so far. -/
def readBitsFrom (b : ByteBuffer) (value : UInt32) : ℕ → Except Stop (UInt32 × ByteBuffer)
  | 0 => return (value, b)
  | i + 1 => do
    let (bit, b) ← b.readBit
    b.readBitsFrom (if bit then value ||| (1 : UInt32) <<< UInt32.ofNat i else value) i

def readBits (b : ByteBuffer) (bits : ℕ) : Except Stop (UInt32 × ByteBuffer) :=
  b.readBitsFrom 0 bits

/-- The bytes go through a C string, which ends at the first zero. Its length is computed
as a `uint32`. -/
def readString (b : ByteBuffer) (length : UInt32) : Except Stop (List UInt8 × ByteBuffer) := do
  if length = 0 then
    return ([], b)
  if length + 1 = 0 then
    throw .overrun
  let (buffer, b) ← b.read length.toNat
  return (buffer.takeWhile (· ≠ 0), b)

end ByteBuffer

end WorldServer.Packets
