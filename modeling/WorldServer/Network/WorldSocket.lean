import WorldServer.Lib.Bytes

/-!
# The input of a world socket

What a socket receives is copied into a header block and then into a packet. Before the cipher is
initialized a header has 6 bytes, afterwards 4 bytes that are decrypted in place. A packet whose
bytes are there is given to `ProcessIncoming`, which may initialize the cipher.
-/
namespace WorldServer.Network

open WorldServer.Lib

def NUM_OPCODE_HANDLERS : ℕ := 0x7FFF

def DropHighBytes (opcode : ℕ) : ℕ := opcode % 2 ^ 16 &&& NUM_OPCODE_HANDLERS

/-- A block of memory and what has been written to it. -/
structure MessageBlock where
  size : ℕ
  data : List UInt8
  fits : data.length ≤ size

namespace MessageBlock

variable (b : MessageBlock)

def base (size : ℕ) : MessageBlock := ⟨size, [], Nat.zero_le size⟩

def space : ℕ := b.size - b.data.length

def reset : MessageBlock := base b.size

def copy (bytes : List UInt8) : MessageBlock :=
  if fits : b.data.length + bytes.length ≤ b.size then
    ⟨b.size, b.data ++ bytes, by rw [List.length_append]; exact fits⟩
  else b

@[simp] lemma base_size (size : ℕ) : (base size).size = size := rfl
@[simp] lemma base_data (size : ℕ) : (base size).data = [] := rfl

lemma copy_of_fits {bytes : List UInt8} (fits : b.data.length + bytes.length ≤ b.size) :
    (b.copy bytes).size = b.size ∧ (b.copy bytes).data = b.data ++ bytes := by
  rw [copy, dif_pos fits]
  exact ⟨rfl, rfl⟩

end MessageBlock

structure AuthCrypt (κ : Type) where
  _clientDecrypt : κ
  _initialized : Bool

def AuthCrypt.init {κ : Type} (c : AuthCrypt κ) : Option κ → AuthCrypt κ
  | none => c
  | some generator => ⟨generator, true⟩

structure WorldPacket where
  opcode : ℕ
  receivedOpcode : ℕ
  contents : List UInt8
deriving DecidableEq, Repr

/-- What `ProcessIncoming` leaves: the server's state, the cipher if it was initialized, and its
return value. -/
structure Processed (σ κ : Type) where
  world : σ
  init : Option κ
  ret : ℤ

/-- What the socket uses of the server: the table of opcodes, the generator of the cipher and
`ProcessIncoming`. -/
structure Server (σ κ : Type) where
  GetOpcodeByNumber : ℕ → ℕ
  next : κ → UInt8 × κ
  ProcessIncoming : σ → WorldPacket → Processed σ κ

structure WorldSocket (σ κ : Type) where
  m_Crypt : AuthCrypt κ
  m_RecvWPct : Option WorldPacket
  m_RecvPct : MessageBlock
  m_Header : MessageBlock
  m_WorldHeader : MessageBlock
  closing_ : Bool
  world : σ
  incoming : List WorldPacket

inductive Errno where
  | EINVAL
  | EWOULDBLOCK
deriving DecidableEq, Repr

/-- How a function of the input ends. -/
inductive Ret where
  | ok
  | error (errno : Errno)
  | assertion
deriving DecidableEq, Repr

/-- `ACE_ASSERT((errno != EWOULDBLOCK) && (errno != EAGAIN))` -/
def Ret.notBlocked : Ret → Ret
  | .error .EWOULDBLOCK => .assertion
  | ret => ret

namespace WorldSocket

variable {σ κ : Type} (server : Server σ κ) (s : WorldSocket σ κ)

/-- The size of an `AuthClientPktHeader` or a `WorldClientPktHeader` -/
def headerSize (initialized : Bool) : ℕ := if initialized then 4 else 6

/-- A new socket; the generator is not used before the cipher is initialized. -/
def create (world : σ) (generator : κ) : WorldSocket σ κ where
  m_Crypt := ⟨generator, false⟩
  m_RecvWPct := none
  m_RecvPct := .base 0
  m_Header := .base (headerSize false)
  m_WorldHeader := .base (headerSize true)
  closing_ := false
  world := world
  incoming := []

def header : MessageBlock := if s.m_Crypt._initialized then s.m_WorldHeader else s.m_Header

def setHeader (b : MessageBlock) : WorldSocket σ κ :=
  if s.m_Crypt._initialized then { s with m_WorldHeader := b } else { s with m_Header := b }

def openPacket (cmd size : ℕ) : WorldSocket σ κ × Ret :=
  let opcodeNumber := DropHighBytes cmd
  let packet : WorldPacket := ⟨server.GetOpcodeByNumber opcodeNumber, opcodeNumber, []⟩
  if size > 0 then
    ({ s with
      m_RecvWPct := some { packet with contents := List.replicate size 0 }
      m_RecvPct := .base size }, .ok)
  else ({ s with m_RecvWPct := some packet }, if s.m_RecvPct.space = 0 then .ok else .assertion)

def decryptHeader : WorldSocket σ κ :=
  let decrypted := combine server.next s.m_Crypt._clientDecrypt s.m_WorldHeader.data
  { s with
    m_Crypt := { s.m_Crypt with _clientDecrypt := decrypted.2 }
    m_WorldHeader := ⟨s.m_WorldHeader.size, decrypted.1, by
      rw [length_combine]
      exact s.m_WorldHeader.fits⟩ }

def handleInputHeader : WorldSocket σ κ × Ret :=
  if s.m_RecvWPct ≠ none then (s, .assertion)
  else if s.m_Crypt._initialized then
    if s.m_WorldHeader.data.length ≠ headerSize true then (s, .assertion)
    else
      let s := s.decryptHeader server
      let value := ofBytes s.m_WorldHeader.data
      let cmd := value &&& 0x1FFF
      let size := (value >>> 13) % 2 ^ 16
      if size > 10236 then (s, .error .EINVAL) else s.openPacket server cmd size
  else
    if s.m_Header.data.length ≠ headerSize false then (s, .assertion)
    else
      let size := ofBytes (s.m_Header.data.take 2)
      let cmd := ofBytes (s.m_Header.data.drop 2)
      if size < 4 ∨ size > 10240 then (s, .error .EINVAL) else s.openPacket server cmd (size - 4)

def handleInputPayload : WorldSocket σ κ × Ret :=
  if s.m_RecvPct.space ≠ 0 ∨ s.header.space ≠ 0 then (s, .assertion)
  else
    match s.m_RecvWPct with
    | none => (s, .assertion)
    | some packet =>
      let processed := server.ProcessIncoming s.world packet
      -- the header that is reset is the one of the packet, also if the cipher has just changed
      let reset := s.setHeader s.header.reset
      ({ reset with
        m_Crypt := s.m_Crypt.init processed.init
        m_RecvWPct := none
        m_RecvPct := .base 0
        world := processed.world
        incoming := s.incoming ++ [packet] },
        if processed.ret = -1 then .error .EINVAL else .ok)

/-- Bytes are copied to the block, whose memory is the contents of the packet. -/
def fillPacket (packet : WorldPacket) (bytes : List UInt8) : WorldSocket σ κ :=
  let m_RecvPct := s.m_RecvPct.copy bytes
  let contents := m_RecvPct.data ++ packet.contents.drop m_RecvPct.data.length
  { s with
    m_RecvPct := m_RecvPct
    m_RecvWPct := some { packet with contents := contents } }

def receivePayload (bytes : List UInt8) : WorldSocket σ κ × List UInt8 × Ret :=
  match s.m_RecvWPct with
  | none => (s, bytes, .error .EINVAL)
  | some packet =>
    let to_data := if s.m_RecvPct.space > 0 then min bytes.length s.m_RecvPct.space else 0
    let s := s.fillPacket packet (bytes.take to_data)
    let rest := bytes.drop to_data
    if s.m_RecvPct.space > 0 then
      (s, rest, if rest.length = 0 then .error .EWOULDBLOCK else .assertion)
    else
      let handled := s.handleInputPayload server
      (handled.1, rest, handled.2.notBlocked)

/-- One iteration of the loop of `handle_input_missing_data`. -/
def receive (bytes : List UInt8) : WorldSocket σ κ × List UInt8 × Ret :=
  if s.header.space > 0 then
    let to_header := min bytes.length s.header.space
    let s := s.setHeader (s.header.copy (bytes.take to_header))
    let rest := bytes.drop to_header
    if s.header.space > 0 then
      (s, rest, if rest.length = 0 then .error .EWOULDBLOCK else .assertion)
    else
      match s.handleInputHeader server with
      | (s, .ok) => s.receivePayload server rest
      | (s, ret) => (s, rest, ret.notBlocked)
  else s.receivePayload server bytes

/-- The loop of `handle_input_missing_data`; `none` if the fuel runs out. -/
def receiveAll : ℕ → WorldSocket σ κ → List UInt8 → WorldSocket σ κ × Option Ret
  | _, s, [] => (s, some .ok)
  | 0, s, _ => (s, none)
  | fuel + 1, s, bytes =>
    match s.receive server bytes with
    | (s, rest, .ok) => receiveAll fuel s rest
    | (s, _, ret) => (s, some ret)

/-- What `handle_input` does after the bytes that `recv` gave. -/
inductive Outcome where
  /-- -1, or 1 if there may be more, else the return value of `Update` -/
  | closed
  | again
  | update
  | assertion
  /-- The loop has not ended. -/
  | loops
deriving DecidableEq, Repr

def recv_size : ℕ := 4096

/-- `handle_input`; no bytes mean that the peer has closed the connection. A socket whose
`handle_input` returns -1 is closed. -/
def handleInput (bytes : List UInt8) : WorldSocket σ κ × Outcome :=
  if s.closing_ then (s, .closed)
  else if bytes = [] then ({ s with closing_ := true }, .closed)
  else
    match s.receiveAll server bytes.length bytes with
    | (s, some .ok) => (s, if bytes.length = recv_size then .again else .update)
    | (s, some (.error .EWOULDBLOCK)) => (s, .update)
    | (s, some (.error .EINVAL)) => ({ s with closing_ := true }, .closed)
    | (s, some .assertion) => (s, .assertion)
    | (s, none) => (s, .loops)

end WorldSocket

end WorldServer.Network
