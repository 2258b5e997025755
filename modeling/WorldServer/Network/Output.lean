import WorldServer.Lib.Run
import WorldServer.Network.WorldSocket

/-!
# The output of a world socket

A packet that is sent goes into a buffer, or into a queue where the buffer has no place for it or
where packets are already waiting. The network thread sends the buffer first and then the head of
the queue, as much as the peer takes at a time.
-/
namespace WorldServer.Network

open WorldServer.Lib

def high_water_mark : ℕ := 8 * 1024 * 1024

def MAX_OPCODE : ℕ := 0x1FFF

def WRITE_MASK : ℤ := 2

/-- The block without its first bytes, which were read. What is left of the buffer is moved to the
base; a block of the queue is not written any more. -/
def MessageBlock.drop (b : MessageBlock) (n : ℕ) : MessageBlock :=
  ⟨b.size, b.data.drop n, by rw [List.length_drop]; exact (Nat.sub_le _ _).trans b.fits⟩

@[simp] lemma MessageBlock.drop_data (b : MessageBlock) (n : ℕ) :
    (b.drop n).data = b.data.drop n := rfl

structure ServerPacket where
  opcode : ℕ
  contents : List UInt8
deriving DecidableEq, Repr

/-- The sending half of the cipher -/
structure SendCrypt (κ : Type) where
  _serverEncrypt : κ
  _initialized : Bool

def SendCrypt.init {κ : Type} (generator : κ) : SendCrypt κ := ⟨generator, true⟩

/-- What `send` of the peer returns -/
inductive SendResult where
  /-- So many bytes are taken, and no more than there are. -/
  | taken (n : ℕ)
  /-- `EWOULDBLOCK` or `EAGAIN` -/
  | wouldBlock
  | error
deriving DecidableEq, Repr

/-- What happens outside in a call of `handle_output`: the peer's answers for the buffer and for
the head of the queue, and whether the reactor accepts a change of the wakeup. -/
structure Attempt where
  buffer : SendResult
  queue : SendResult
  reactor : Bool
deriving DecidableEq, Repr

def Attempt.blocked : Attempt := ⟨.wouldBlock, .wouldBlock, true⟩

structure OutSocket (κ : Type) where
  m_Crypt : SendCrypt κ
  m_OutBuffer : MessageBlock
  msg_queue : List MessageBlock
  m_OutActive : Bool
  closing_ : Bool
  sent : List UInt8

section

variable {κ : Type} (next : κ → UInt8 × κ) (opcodeNumber : ℕ → ℕ)

def serverPktHeader (c : SendCrypt κ) (size cmd : ℕ) : List UInt8 × SendCrypt κ :=
  if c._initialized then
    let header := combine next c._serverEncrypt (toBytes 4 (size <<< 13 ||| (cmd &&& MAX_OPCODE)))
    (header.1, { c with _serverEncrypt := header.2 })
  else (toBytes 2 size ++ toBytes 2 cmd, c)

def packetHeader (c : SendCrypt κ) (pkt : ServerPacket) : List UInt8 × SendCrypt κ :=
  serverPktHeader next c
    (if c._initialized then pkt.contents.length else pkt.contents.length + 2)
    (opcodeNumber pkt.opcode)

@[simp] lemma length_packetHeader (c : SendCrypt κ) (pkt : ServerPacket) :
    (packetHeader next opcodeNumber c pkt).1.length = 4 := by
  rw [packetHeader, serverPktHeader]
  split <;> simp

end

def queueBytes (queue : List MessageBlock) : ℕ := (queue.map MessageBlock.size).sum

def isFull (queue : List MessageBlock) : Prop := high_water_mark ≤ queueBytes queue

instance (queue : List MessageBlock) : Decidable (isFull queue) :=
  inferInstanceAs (Decidable (high_water_mark ≤ queueBytes queue))

def enqueue_tail (queue : List MessageBlock) (mb : MessageBlock) : Option (List MessageBlock) :=
  if isFull queue then none else some (queue ++ [mb])

def enqueue_head (queue : List MessageBlock) (mb : MessageBlock) : Option (List MessageBlock) :=
  if isFull queue then none else some (mb :: queue)

namespace OutSocket

variable {κ : Type} (next : κ → UInt8 × κ) (opcodeNumber : ℕ → ℕ) (s : OutSocket κ)

def opened (m_OutBufferSize : ℕ) (generator : κ) : OutSocket κ where
  m_Crypt := ⟨generator, false⟩
  m_OutBuffer := .base m_OutBufferSize
  msg_queue := []
  m_OutActive := true
  closing_ := false
  sent := []

def SendPacket (pkt : ServerPacket) : OutSocket κ × ℤ :=
  if s.closing_ then (s, -1)
  else
    let (header, crypt) := packetHeader next opcodeNumber s.m_Crypt pkt
    let s := { s with m_Crypt := crypt }
    if pkt.contents.length + 4 ≤ s.m_OutBuffer.space ∧ s.msg_queue = [] then
      ({ s with m_OutBuffer := (s.m_OutBuffer.copy header).copy pkt.contents }, 0)
    else
      let mb := ((MessageBlock.base (pkt.contents.length + 4)).copy header).copy pkt.contents
      match enqueue_tail s.msg_queue mb with
      | none => (s, -1)
      | some queue => ({ s with msg_queue := queue }, 0)

def cancel_wakeup_output (reactor : Bool) : OutSocket κ × ℤ :=
  if s.m_OutActive then ({ s with m_OutActive := false }, if reactor then 0 else -1) else (s, 0)

def schedule_wakeup_output (reactor : Bool) : OutSocket κ × ℤ :=
  if s.m_OutActive then (s, 0) else ({ s with m_OutActive := true }, if reactor then 0 else -1)

def handle_output_queue (a : Attempt) : OutSocket κ × ℤ :=
  match s.msg_queue with
  | [] => s.cancel_wakeup_output a.reactor
  | mblk :: queue =>
    let s := { s with msg_queue := queue }
    match a.queue with
    | .error => (s, -1)
    | .wouldBlock =>
      -- the answer of `enqueue_head` is not looked at here
      { s with msg_queue := (enqueue_head queue mblk).getD queue }.schedule_wakeup_output a.reactor
    | .taken n =>
      if n = 0 then (s, -1)
      else
        let s := { s with sent := s.sent ++ mblk.data.take n }
        if n < mblk.data.length then
          match enqueue_head queue (mblk.drop n) with
          | none => (s, -1)
          | some queue => { s with msg_queue := queue }.schedule_wakeup_output a.reactor
        else if queue = [] then s.cancel_wakeup_output a.reactor
        else (s, WRITE_MASK)

def handle_output (a : Attempt) : OutSocket κ × ℤ :=
  if s.closing_ then (s, -1)
  else if s.m_OutBuffer.data = [] then s.handle_output_queue a
  else
    match a.buffer with
    | .error => (s, -1)
    | .wouldBlock => s.schedule_wakeup_output a.reactor
    | .taken n =>
      if n = 0 then (s, -1)
      else
        let s' := { s with sent := s.sent ++ s.m_OutBuffer.data.take n }
        if n < s.m_OutBuffer.data.length then
          { s' with m_OutBuffer := s.m_OutBuffer.drop n }.schedule_wakeup_output a.reactor
        else { s' with m_OutBuffer := s.m_OutBuffer.reset }.handle_output_queue a

/-- The loop of `Update`. The list holds what happens outside in one call after another, and after
its end the peer takes nothing. -/
def outputLoop (s : OutSocket κ) : List Attempt → OutSocket κ × ℤ
  | [] => s.handle_output .blocked
  | a :: attempts =>
    let r := s.handle_output a
    if r.2 > 0 then r.1.outputLoop attempts else r

def Update (attempts : List Attempt) : OutSocket κ × ℤ :=
  if s.closing_ then (s, -1)
  else if s.m_OutActive then (s, 0)
  else if s.m_OutBuffer.data = [] ∧ s.msg_queue = [] then (s, 0)
  else s.outputLoop attempts

inductive Call (κ : Type) where
  | sendPacket (pkt : ServerPacket)
  | update (attempts : List Attempt)
  | handle_output (a : Attempt)
  | initCrypt (generator : κ)

def call : Call κ → OutSocket κ × ℤ
  | .sendPacket pkt => s.SendPacket next opcodeNumber pkt
  | .update attempts => s.Update attempts
  | .handle_output a => s.handle_output a
  | .initCrypt generator => ({ s with m_Crypt := .init generator }, 0)

def step (s : OutSocket κ) (c : Call κ) : OutSocket κ := (s.call next opcodeNumber c).1

end OutSocket

end WorldServer.Network
