import WorldServer.Lib.Run
import WorldServer.Network.WorldSocket

/-!
# The packets of a stream

A client sends packets one after another, each with the header of the mode that the packets before
it have left. However the stream is cut, the socket gives these packets to `ProcessIncoming` one
after another, until one is refused.
-/
namespace WorldServer.Network

open WorldServer.Lib
open WorldSocket (headerSize)

variable {σ κ : Type} (server : Server σ κ)

/-! ### Streams -/

structure ClientPacket where
  cmd : ℕ
  payload : List UInt8
deriving DecidableEq, Repr

namespace ClientPacket

variable (p : ClientPacket)

/-- The size and the opcode have place in the header, and the size is not too large. -/
def Fits (initialized : Bool) : Prop :=
  p.payload.length ≤ 10236 ∧ p.cmd < if initialized then 2 ^ 13 else 2 ^ 32

def plainHeader (initialized : Bool) : List UInt8 :=
  if initialized then toBytes 4 (p.payload.length <<< 13 ||| p.cmd)
  else toBytes 2 (p.payload.length + 4) ++ toBytes 4 p.cmd

def header (c : AuthCrypt κ) : List UInt8 :=
  if c._initialized then (combine server.next c._clientDecrypt (p.plainHeader true)).1
  else p.plainHeader false

def afterHeader (c : AuthCrypt κ) : AuthCrypt κ :=
  if c._initialized then
    { c with _clientDecrypt := (combine server.next c._clientDecrypt (p.plainHeader true)).2 }
  else c

/-- The packet as `ProcessIncoming` gets it. -/
def received : WorldPacket :=
  ⟨server.GetOpcodeByNumber (DropHighBytes p.cmd), DropHighBytes p.cmd, p.payload⟩

def processed (world : σ) : Processed σ κ := server.ProcessIncoming world (p.received server)

def Refused (world : σ) : Prop := (p.processed server world).ret = -1

instance (world : σ) : Decidable (p.Refused server world) :=
  inferInstanceAs (Decidable ((p.processed server world).ret = -1))

@[simp] lemma length_header (c : AuthCrypt κ) :
    (p.header server c).length = headerSize c._initialized := by
  rw [header]
  split
  next initialized => simp [plainHeader, headerSize, initialized]
  next plain => simp [plainHeader, headerSize, plain]

variable {p}

lemma Fits.value (fits : p.Fits true) :
    ofBytes (p.plainHeader true) &&& 0x1FFF = p.cmd ∧
      (ofBytes (p.plainHeader true) >>> 13) % 2 ^ 16 = p.payload.length := by
  obtain ⟨small, cmd⟩ := fits
  rw [if_pos rfl] at cmd
  have value : ofBytes (p.plainHeader true) = p.payload.length * 2 ^ 13 + p.cmd := by
    rw [plainHeader, if_pos rfl, ofBytes_toBytes, ← Nat.shiftLeft_add_eq_or_of_lt cmd,
      Nat.shiftLeft_eq]
    apply Nat.mod_eq_of_lt
    omega
  constructor
  · rw [show 0x1FFF = 2 ^ 13 - 1 from rfl, Nat.and_two_pow_sub_one_eq_mod]
    omega
  · rw [Nat.shiftRight_eq_div_pow]
    omega

lemma Fits.values (fits : p.Fits false) :
    ofBytes ((p.plainHeader false).take 2) = p.payload.length + 4 ∧
      ofBytes ((p.plainHeader false).drop 2) = p.cmd := by
  obtain ⟨small, cmd⟩ := fits
  have size : (toBytes 2 (p.payload.length + 4)).length = 2 := length_toBytes ..
  rw [plainHeader, if_neg Bool.false_ne_true, List.take_left' size, List.drop_left' size,
    ofBytes_toBytes, ofBytes_toBytes]
  constructor
  · apply Nat.mod_eq_of_lt
    omega
  · exact Nat.mod_eq_of_lt cmd

end ClientPacket

/-- The bytes of some packets. What follows a refused packet is not restricted. -/
inductive Stream : AuthCrypt κ → σ → List ClientPacket → List UInt8 → Prop
  | nil (c : AuthCrypt κ) (world : σ) : Stream c world [] []
  | packet {c : AuthCrypt κ} {world : σ} {p : ClientPacket} {ps : List ClientPacket}
      {rest : List UInt8} (fits : p.Fits c._initialized)
      (next : ¬ p.Refused server world →
        Stream ((p.afterHeader server c).init (p.processed server world).init)
          (p.processed server world).world ps rest) :
      Stream c world (p :: ps) (p.header server c ++ p.payload ++ rest)

def deliveries : σ → List ClientPacket → List WorldPacket
  | _, [] => []
  | world, p :: ps =>
    p.received server ::
      if p.Refused server world then [] else deliveries (p.processed server world).world ps

namespace WorldSocket

variable {server} {s : WorldSocket σ κ} {p : ClientPacket} {got more bytes future : List UInt8}
  {total : List WorldPacket}

section setHeader

variable (s : WorldSocket σ κ) (b : MessageBlock)

@[simp] lemma setHeader_crypt : (s.setHeader b).m_Crypt = s.m_Crypt := by
  rw [setHeader]
  split <;> rfl

@[simp] lemma setHeader_packet : (s.setHeader b).m_RecvWPct = s.m_RecvWPct := by
  rw [setHeader]
  split <;> rfl

@[simp] lemma setHeader_block : (s.setHeader b).m_RecvPct = s.m_RecvPct := by
  rw [setHeader]
  split <;> rfl

@[simp] lemma setHeader_world : (s.setHeader b).world = s.world := by
  rw [setHeader]
  split <;> rfl

@[simp] lemma setHeader_incoming : (s.setHeader b).incoming = s.incoming := by
  rw [setHeader]
  split <;> rfl

@[simp] lemma setHeader_closing : (s.setHeader b).closing_ = s.closing_ := by
  rw [setHeader]
  split <;> rfl

@[simp] lemma header_setHeader : (s.setHeader b).header = b := by
  rw [header, setHeader_crypt]
  split
  next initialized => rw [setHeader, if_pos initialized]
  next plain => rw [setHeader, if_neg plain]

lemma setHeader_world_header (plain : s.m_Crypt._initialized = false) :
    (s.setHeader b).m_WorldHeader = s.m_WorldHeader := by
  rw [setHeader, plain]
  rfl

end setHeader

/-! ### What the socket expects -/

structure Blocks (s : WorldSocket σ κ) : Prop where
  size : s.header.size = headerSize s.m_Crypt._initialized
  fresh : s.m_Crypt._initialized = false → s.m_WorldHeader = .base (headerSize true)
  opened : s.closing_ = false

/-- A part of a header has been received. -/
structure Ready (s : WorldSocket σ κ) (got : List UInt8) : Prop extends s.Blocks where
  packet : s.m_RecvWPct = none
  block : s.m_RecvPct = .base 0
  data : s.header.data = got

structure Opened (server : Server σ κ) (s : WorldSocket σ κ) (p : ClientPacket)
    (got : List UInt8) : Prop extends s.Blocks where
  packet : s.m_RecvWPct = some { p.received server with
    contents := got ++ List.replicate (p.payload.length - got.length) 0 }
  blockSize : s.m_RecvPct.size = p.payload.length
  data : s.m_RecvPct.data = got
  whole : s.header.space = 0

/-- The bytes that follow complete some packets; with the packets before they make up `total`, as
far as they are not refused. -/
inductive Expects (server : Server σ κ) (s : WorldSocket σ κ) (future : List UInt8) :
    List WorldPacket → Prop
  | header {packets : List ClientPacket} {got : List UInt8} (ready : s.Ready got)
      (short : got.length < headerSize s.m_Crypt._initialized)
      (stream : Stream server s.m_Crypt s.world packets (got ++ future)) :
      Expects server s future (s.incoming ++ deliveries server s.world packets)
  | payload {p : ClientPacket} {ps : List ClientPacket} {got more rest : List UInt8}
      (opened : s.Opened server p got) (missing : got ++ more = p.payload) (some : more ≠ [])
      (same : future = more ++ rest)
      (next : ¬ p.Refused server s.world →
        Stream server (s.m_Crypt.init (p.processed server s.world).init)
          (p.processed server s.world).world ps rest) :
      Expects server s future (s.incoming ++ deliveries server s.world (p :: ps))

/-- How a part of the input ends, and that not more than `bound` bytes are left. -/
def Goes (server : Server σ κ) (bound : ℕ) (future : List UInt8) (total : List WorldPacket) :
    WorldSocket σ κ × List UInt8 × Ret → Prop
  | (s, rest, .ok) => rest.length ≤ bound ∧ Expects server s (rest ++ future) total
  | (s, _, .error .EWOULDBLOCK) => Expects server s future total
  | (s, _, .error .EINVAL) => s.closing_ = false ∧ s.incoming = total
  | (_, _, .assertion) => False

lemma Goes.mono {low high : ℕ} {result : WorldSocket σ κ × List UInt8 × Ret}
    (goes : Goes server low future total result) (le : low ≤ high) :
    Goes server high future total result := by
  obtain ⟨s, rest, ret⟩ := result
  cases ret with
  | ok => exact ⟨goes.1.trans le, goes.2⟩
  | error errno =>
    cases errno with
    | EINVAL => exact goes
    | EWOULDBLOCK => exact goes
  | assertion => exact goes

/-! ### Payloads -/

/-- The block of the header is empty after the reset, also if it is the other one now. -/
lemma Blocks.emptied (blocks : s.Blocks) (init : Option κ) :
    let t := { s.setHeader s.header.reset with m_Crypt := s.m_Crypt.init init }
    t.header.size = headerSize t.m_Crypt._initialized ∧ t.header.data = [] ∧
      (t.m_Crypt._initialized = false → t.m_WorldHeader = .base (headerSize true)) := by
  have size := blocks.size
  cases initialized : s.m_Crypt._initialized with
  | true =>
    have still : (s.m_Crypt.init init)._initialized = true := by
      cases init with
      | none => exact initialized
      | some generator => rfl
    simp only [header, still, if_true, setHeader, initialized] at size ⊢
    exact ⟨size, rfl, fun plain => by cases plain⟩
  | false =>
    have fresh := blocks.fresh initialized
    cases init with
    | none =>
      simp only [header, AuthCrypt.init, setHeader, initialized, Bool.false_eq_true,
        if_false] at size ⊢
      exact ⟨size, rfl, fun _ => fresh⟩
    | some generator =>
      simp only [header, AuthCrypt.init, setHeader, initialized, Bool.false_eq_true,
        if_false, if_true, fresh]
      exact ⟨rfl, rfl, fun plain => by cases plain⟩

lemma Opened.handleInputPayload (opened : s.Opened server p p.payload) :
    ∃ t : WorldSocket σ κ, s.handleInputPayload server =
      (t, if p.Refused server s.world then .error .EINVAL else .ok) ∧
      t.Ready [] ∧ t.incoming = s.incoming ++ [p.received server] ∧
      t.world = (p.processed server s.world).world ∧
      t.m_Crypt = s.m_Crypt.init (p.processed server s.world).init := by
  have full : s.m_RecvPct.space = 0 := by
    rw [MessageBlock.space, opened.blockSize, opened.data, Nat.sub_self]
  have packet : s.m_RecvWPct = some (p.received server) := by
    rw [opened.packet, Nat.sub_self, List.replicate_zero, List.append_nil]
    rfl
  rw [WorldSocket.handleInputPayload, if_neg (by simp [full, opened.whole]), packet]
  have header := opened.toBlocks.emptied (p.processed server s.world).init
  refine ⟨_, rfl, ⟨⟨?_, ?_, ?_⟩, rfl, rfl, ?_⟩, ?_, rfl, rfl⟩
  · exact header.1
  · exact header.2.2
  · exact (setHeader_closing s _).trans opened.opened
  · exact header.2.1
  · rfl

section

variable (opened : s.Opened server p got)
include opened

lemma Opened.fillPacket (more : List UInt8) (fits : got.length + more.length ≤ p.payload.length)
    {packet : WorldPacket} (is : s.m_RecvWPct = some packet) :
    (s.fillPacket packet more).Opened server p (got ++ more) := by
  have room : s.m_RecvPct.data.length + more.length ≤ s.m_RecvPct.size := by
    rw [opened.data, opened.blockSize]
    exact fits
  obtain ⟨size, data⟩ := s.m_RecvPct.copy_of_fits room
  rw [opened.data] at data
  have hs := is.symm.trans opened.packet
  obtain rfl := Option.some.inj hs
  refine ⟨⟨opened.size, opened.fresh, opened.opened⟩, ?_, size.trans opened.blockSize, data,
    opened.whole⟩
  rw [WorldSocket.fillPacket]
  simp only [data, List.length_append]
  rw [List.drop_append, List.drop_replicate]
  congr 3
  rw [List.drop_eq_nil_of_le (Nat.le_add_right ..), List.nil_append]
  congr 1
  omega

lemma Opened.space : s.m_RecvPct.space = p.payload.length - got.length := by
  rw [MessageBlock.space, opened.blockSize, opened.data]

lemma Opened.receivePayload_short (short : got.length + bytes.length < p.payload.length) :
    ∃ t : WorldSocket σ κ, s.receivePayload server bytes = (t, [], .error .EWOULDBLOCK) ∧
      t.Opened server p (got ++ bytes) ∧ t.m_Crypt = s.m_Crypt ∧ t.world = s.world ∧
        t.incoming = s.incoming := by
  have filled := opened.fillPacket bytes (by omega) opened.packet
  have space : s.m_RecvPct.space > 0 := by
    rw [opened.space]
    omega
  have all : min bytes.length s.m_RecvPct.space = bytes.length := by
    rw [opened.space]
    omega
  have missing := filled.space
  rw [List.length_append] at missing
  have left : p.payload.length - (got.length + bytes.length) > 0 := by omega
  refine ⟨_, ?_, filled, rfl, rfl, rfl⟩
  rw [WorldSocket.receivePayload, opened.packet]
  simp only [space, if_true, all, List.take_length, List.drop_length, missing, left,
    List.length_nil]

lemma Opened.receivePayload_whole (whole : got ++ more = p.payload) (rest : List UInt8) :
    ∃ t : WorldSocket σ κ, s.receivePayload server (more ++ rest) =
      (t, rest, if p.Refused server s.world then .error .EINVAL else .ok) ∧
      t.Ready [] ∧ t.incoming = s.incoming ++ [p.received server] ∧
      t.world = (p.processed server s.world).world ∧
      t.m_Crypt = s.m_Crypt.init (p.processed server s.world).init := by
  have length : got.length + more.length = p.payload.length := by
    rw [← whole, List.length_append]
  obtain ⟨packet, is⟩ : ∃ packet, s.m_RecvWPct = some packet := ⟨_, opened.packet⟩
  have filled := opened.fillPacket more (by omega) is
  rw [whole] at filled
  obtain ⟨t, handled, ready, incoming, world, crypt⟩ := filled.handleInputPayload
  have space : (if s.m_RecvPct.space > 0 then
      min (more ++ rest).length s.m_RecvPct.space else 0) = more.length := by
    rw [opened.space, List.length_append]
    split <;> omega
  have full := filled.space
  rw [Nat.sub_self] at full
  refine ⟨t, ?_, ready, incoming, world, crypt⟩
  rw [WorldSocket.receivePayload, is]
  simp only [space, List.take_left, List.drop_left, full, handled, gt_iff_lt, lt_self_iff_false,
    if_false]
  change (t, rest, Ret.notBlocked (if p.Refused server s.world then _ else _)) = _
  split <;> rfl

/-- The payload's part of an iteration, when the bytes and those that follow them complete the
packet. -/
lemma Opened.goes {ps : List ClientPacket} {rest : List UInt8} (missing : got ++ more = p.payload)
    (hs : bytes ++ future = more ++ rest) (next : ¬ p.Refused server s.world →
      Stream server (s.m_Crypt.init (p.processed server s.world).init)
        (p.processed server s.world).world ps rest) :
    Goes server (bytes.length - more.length) future
      (s.incoming ++ deliveries server s.world (p :: ps)) (s.receivePayload server bytes) := by
  -- the bytes contain the rest of the payload
  have whole : ∀ rest', bytes = more ++ rest' → rest = rest' ++ future →
      Goes server (bytes.length - more.length) future
        (s.incoming ++ deliveries server s.world (p :: ps)) (s.receivePayload server bytes) := by
    rintro rest' rfl rfl
    obtain ⟨t, received, ready, incoming, world, crypt⟩ := opened.receivePayload_whole missing rest'
    rw [received, deliveries]
    by_cases refused : p.Refused server s.world
    · rw [if_pos refused, if_pos refused]
      exact ⟨ready.opened, incoming⟩
    · rw [if_neg refused, if_neg refused]
      constructor
      · rw [List.length_append, Nat.add_sub_cancel_left]
      · have stream := next refused
        rw [← world, ← crypt] at stream
        have short : ([] : List UInt8).length < headerSize t.m_Crypt._initialized := by
          rw [headerSize, List.length_nil]
          split <;> decide
        have total := Expects.header ready short stream
        rw [incoming, world, List.append_assoc] at total
        exact total
  rcases List.append_eq_append_iff.mp hs with ⟨more', rfl, rfl⟩ | ⟨rest', first, second⟩
  · by_cases none : more' = []
    · subst none
      apply whole []
      · simp
      · rfl
    · have length : got.length + bytes.length < p.payload.length := by
        have positive := List.length_pos_iff.mpr none
        rw [← missing, List.length_append, List.length_append]
        omega
      obtain ⟨t, received, opened', crypt, world, incoming⟩ := opened.receivePayload_short length
      rw [received, ← world, ← incoming]
      rw [← world, ← crypt] at next
      apply Expects.payload opened' _ none rfl next
      rw [List.append_assoc]
      exact missing
  · exact whole rest' first second

end

/-! ### Headers -/

lemma Ready.space (ready : s.Ready got) :
    s.header.space = headerSize s.m_Crypt._initialized - got.length := by
  rw [MessageBlock.space, ready.size, ready.data]

lemma Ready.copyHeader (ready : s.Ready got) (more : List UInt8)
    (fits : got.length + more.length ≤ headerSize s.m_Crypt._initialized) :
    (s.setHeader (s.header.copy more)).Ready (got ++ more) := by
  have room : s.header.data.length + more.length ≤ s.header.size := by
    rw [ready.data, ready.size]
    exact fits
  obtain ⟨size, data⟩ := s.header.copy_of_fits room
  rw [ready.data] at data
  refine ⟨⟨?_, ?_, ?_⟩, ?_, ?_, ?_⟩
  · rw [header_setHeader, setHeader_crypt, size]
    exact ready.size
  · intro plain
    rw [setHeader_crypt] at plain
    rw [setHeader_world_header _ _ plain]
    exact ready.fresh plain
  · rw [setHeader_closing]
    exact ready.opened
  · rw [setHeader_packet]
    exact ready.packet
  · rw [setHeader_block]
    exact ready.block
  · rw [header_setHeader]
    exact data

lemma Ready.receive_short (ready : s.Ready got)
    (short : got.length + bytes.length < headerSize s.m_Crypt._initialized) :
    ∃ t : WorldSocket σ κ, s.receive server bytes = (t, [], .error .EWOULDBLOCK) ∧
      t.Ready (got ++ bytes) ∧ t.m_Crypt = s.m_Crypt ∧ t.world = s.world ∧
        t.incoming = s.incoming := by
  have copied := ready.copyHeader bytes (by omega)
  have space : s.header.space > 0 := by
    rw [ready.space]
    omega
  have all : min bytes.length s.header.space = bytes.length := by
    rw [ready.space]
    omega
  have missing := copied.space
  rw [List.length_append, setHeader_crypt] at missing
  have left : headerSize s.m_Crypt._initialized - (got.length + bytes.length) > 0 := by omega
  refine ⟨_, ?_, copied, setHeader_crypt .., setHeader_world .., setHeader_incoming ..⟩
  rw [receive]
  simp only [space, if_true, all, List.take_length, List.drop_length, missing, left,
    List.length_nil]

lemma Blocks.openPacket (blocks : s.Blocks) (whole : s.header.space = 0)
    (block : s.m_RecvPct = .base 0) (p : ClientPacket) :
    ∃ t : WorldSocket σ κ, s.openPacket server p.cmd p.payload.length = (t, .ok) ∧
      t.Opened server p [] ∧ t.m_Crypt = s.m_Crypt ∧ t.world = s.world ∧
        t.incoming = s.incoming := by
  rw [WorldSocket.openPacket]
  by_cases some : p.payload.length > 0
  · simp only [some, if_true]
    refine ⟨_, rfl, ⟨⟨blocks.size, blocks.fresh, blocks.opened⟩, rfl, rfl, rfl, whole⟩, rfl, rfl,
      rfl⟩
  · have none : p.payload.length = 0 := by omega
    have space : s.m_RecvPct.space = 0 := by rw [block]; rfl
    simp only [some, if_false, space, if_true]
    refine ⟨_, rfl, ⟨⟨blocks.size, blocks.fresh, blocks.opened⟩, ?_, ?_, ?_, whole⟩, rfl, rfl, rfl⟩
    · rw [none]
      rfl
    · rw [none]
      simp only [block]
      rfl
    · simp only [block]
      rfl

lemma Ready.handleInputHeader (ready : s.Ready (p.header server s.m_Crypt))
    (fits : p.Fits s.m_Crypt._initialized) :
    ∃ t : WorldSocket σ κ, s.handleInputHeader server = (t, .ok) ∧ t.Opened server p [] ∧
      t.m_Crypt = p.afterHeader server s.m_Crypt ∧ t.world = s.world ∧
        t.incoming = s.incoming := by
  have whole : s.header.space = 0 := by rw [ready.space, p.length_header, Nat.sub_self]
  have data := ready.data
  have length : s.header.data.length = headerSize s.m_Crypt._initialized := by
    rw [data, p.length_header]
  rw [WorldSocket.handleInputHeader, if_neg (not_not_intro ready.packet)]
  cases initialized : s.m_Crypt._initialized with
  | true =>
    rw [initialized] at fits length
    have is : s.header = s.m_WorldHeader := by rw [header, if_pos initialized]
    rw [is] at data length
    rw [ClientPacket.header, if_pos initialized] at data
    have decrypted : combine server.next s.m_Crypt._clientDecrypt s.m_WorldHeader.data =
        (p.plainHeader true,
          (combine server.next s.m_Crypt._clientDecrypt (p.plainHeader true)).2) := by
      rw [data, combine_combine]
    have is' : (s.decryptHeader server).header = (s.decryptHeader server).m_WorldHeader := by
      exact if_pos initialized
    have blocks : (s.decryptHeader server).Blocks := by
      refine ⟨?_, fun plain => ?_, ready.opened⟩
      · rw [is']
        have size := ready.size
        rw [is] at size
        exact size
      · cases initialized.symm.trans plain
    have space : (s.decryptHeader server).header.space = 0 := by
      rw [is', ← whole, is, MessageBlock.space, MessageBlock.space]
      simp [decryptHeader]
    obtain ⟨cmd, size⟩ := fits.value
    simp only [if_true, length, ne_eq, not_true_eq_false, if_false]
    have value : (s.decryptHeader server).m_WorldHeader.data = p.plainHeader true := by
      simp [decryptHeader, decrypted]
    rw [value, cmd, size, if_neg (Nat.not_lt.mpr fits.1)]
    obtain ⟨t, opens, opened, crypt, world, incoming⟩ :=
      blocks.openPacket space ready.block p
    refine ⟨t, opens, opened, crypt.trans ?_, world, incoming⟩
    rw [ClientPacket.afterHeader, if_pos initialized, decryptHeader]
    simp only [decrypted]
  | false =>
    rw [initialized] at fits length
    have plain : ¬ s.m_Crypt._initialized = true := by simp [initialized]
    have is : s.header = s.m_Header := by rw [header, if_neg plain]
    rw [is] at data length
    rw [ClientPacket.header, if_neg plain] at data
    obtain ⟨size, cmd⟩ := fits.values
    simp only [Bool.false_eq_true, if_false, length, ne_eq, not_true_eq_false]
    rw [data, size, cmd, if_neg (by have := fits.1; omega), Nat.add_sub_cancel]
    obtain ⟨t, opens, opened, crypt, world, incoming⟩ :=
      ready.toBlocks.openPacket whole ready.block p
    refine ⟨t, opens, opened, crypt.trans ?_, world, incoming⟩
    rw [ClientPacket.afterHeader, if_neg plain]

lemma Ready.receive_whole (ready : s.Ready got)
    (short : got.length < headerSize s.m_Crypt._initialized)
    (whole : got ++ more = p.header server s.m_Crypt) (fits : p.Fits s.m_Crypt._initialized)
    (rest : List UInt8) :
    ∃ t : WorldSocket σ κ, s.receive server (more ++ rest) = t.receivePayload server rest ∧
      t.Opened server p [] ∧ t.m_Crypt = p.afterHeader server s.m_Crypt ∧ t.world = s.world ∧
        t.incoming = s.incoming := by
  have length : got.length + more.length = headerSize s.m_Crypt._initialized := by
    rw [← List.length_append, whole, p.length_header]
  have copied := ready.copyHeader more (by omega)
  rw [whole] at copied
  have crypt : (s.setHeader (s.header.copy more)).m_Crypt = s.m_Crypt := setHeader_crypt ..
  rw [← crypt] at copied fits
  obtain ⟨t, opens, opened, after, world, incoming⟩ := copied.handleInputHeader fits
  rw [crypt] at after
  rw [setHeader_world] at world
  rw [setHeader_incoming] at incoming
  have space : s.header.space > 0 := by
    rw [ready.space]
    omega
  have taken : min (more ++ rest).length s.header.space = more.length := by
    rw [ready.space, List.length_append]
    omega
  have full := copied.space
  rw [p.length_header, Nat.sub_self] at full
  refine ⟨t, ?_, opened, after, world, incoming⟩
  rw [receive]
  simp only [space, if_true, taken, List.take_left, List.drop_left, full, gt_iff_lt,
    lt_self_iff_false, if_false, opens]

lemma Expects.receive (expects : Expects server s (bytes ++ future) total)
    (some : bytes ≠ []) :
    Goes server (bytes.length - 1) future total (s.receive server bytes) := by
  cases expects with
  | @payload p ps got more rest opened missing nonempty hs next =>
    have space : ¬ s.header.space > 0 := by
      rw [opened.whole]
      exact lt_irrefl 0
    have goes := opened.goes missing hs next
    rw [WorldSocket.receive, if_neg space]
    have positive := List.length_pos_iff.mpr nonempty
    exact goes.mono (by omega)
  | @header packets got ready short stream =>
    by_cases complete : got.length + bytes.length < headerSize s.m_Crypt._initialized
    · obtain ⟨t, received, ready', crypt, world, incoming⟩ := ready.receive_short complete
      rw [received, ← world, ← incoming]
      rw [← crypt, ← world, ← List.append_assoc] at stream
      apply Expects.header ready' _ stream
      rw [crypt, List.length_append]
      exact complete
    · generalize all : got ++ (bytes ++ future) = sent at stream
      cases stream with
      | nil =>
        have none := (List.append_eq_nil_iff.mp all).2
        exact absurd (List.append_eq_nil_iff.mp none).1 some
      | @packet _ _ p ps rest fits next =>
        -- the rest of the header, which the bytes begin with
        have split : ∃ more rest', got ++ more = p.header server s.m_Crypt ∧
            bytes = more ++ rest' ∧ more ≠ [] ∧ rest' ++ future = p.payload ++ rest := by
          have length := p.length_header server s.m_Crypt
          rw [List.append_assoc] at all
          rcases List.append_eq_append_iff.mp all with ⟨more, whole, tail⟩ | ⟨extra, whole, _⟩
          · have long : got.length + more.length = headerSize s.m_Crypt._initialized := by
              rw [← length, whole, List.length_append]
            have nonempty : more ≠ [] := fun none => by
              rw [none, List.length_nil] at long
              omega
            rcases List.append_eq_append_iff.mp tail with ⟨extra, first, second⟩ | ⟨rest', h, h'⟩
            · have short : more.length = bytes.length + extra.length := by
                rw [first, List.length_append]
              have none : extra = [] := List.length_eq_zero_iff.mp (by omega)
              refine ⟨more, [], whole.symm, ?_, nonempty, ?_⟩
              · rw [first, none, List.append_nil, List.append_nil]
              · rw [second, none]
                rfl
            · exact ⟨more, rest', whole.symm, h, nonempty, h'.symm⟩
          · have long : got.length = headerSize s.m_Crypt._initialized + extra.length := by
              rw [← length, whole, List.length_append]
            omega
        obtain ⟨more, rest', whole, rfl, nonempty, hs⟩ := split
        obtain ⟨t, received, opened, crypt, world, incoming⟩ :=
          ready.receive_whole short whole fits rest'
        rw [received, ← world, ← incoming]
        rw [← world, ← crypt] at next
        have goes := opened.goes (List.nil_append _) hs next
        apply goes.mono
        have positive := List.length_pos_iff.mpr nonempty
        rw [List.length_append]
        omega

lemma Expects.receiveAll (expects : Expects server s (bytes ++ future) total) {fuel : ℕ}
    (enough : bytes.length ≤ fuel) :
    match s.receiveAll server fuel bytes with
    | (t, some .ok) | (t, some (.error .EWOULDBLOCK)) => Expects server t future total
    | (t, some (.error .EINVAL)) => t.closing_ = false ∧ t.incoming = total
    | (_, some .assertion) | (_, none) => False := by
  induction fuel generalizing s bytes with
  | zero =>
    obtain rfl : bytes = [] := List.length_eq_zero_iff.mp (Nat.le_zero.mp enough)
    exact expects
  | succ fuel ih =>
    cases bytes with
    | nil => exact expects
    | cons b bs =>
      have goes := expects.receive (List.cons_ne_nil b bs)
      rcases result : s.receive server (b :: bs) with ⟨t, rest, ret⟩
      rw [result] at goes
      rw [WorldSocket.receiveAll, result]
      · cases ret with
        | ok =>
          apply ih goes.2
          have shorter := goes.1
          omega
        | error errno =>
          cases errno with
          | EINVAL => exact goes
          | EWOULDBLOCK => exact goes
        | assertion => exact goes
      · exact List.cons_ne_nil b bs

/-! ### Runs -/

/-- A closed socket has got the packets up to the refused one. -/
def Kept (server : Server σ κ) (future : List UInt8) (total : List WorldPacket)
    (s : WorldSocket σ κ) : Prop :=
  (s.closing_ = true ∧ s.incoming = total) ∨ (s.closing_ = false ∧ Expects server s future total)

lemma Expects.open (expects : Expects server s future total) : s.closing_ = false := by
  cases expects with
  | header ready _ _ => exact ready.opened
  | payload opened _ _ _ _ => exact opened.opened

lemma Kept.handleInput (kept : Kept server (bytes ++ future) total s) (some : bytes ≠ []) :
    Kept server future total (s.handleInput server bytes).1 ∧
      (s.handleInput server bytes).2 ≠ .assertion ∧ (s.handleInput server bytes).2 ≠ .loops := by
  rw [WorldSocket.handleInput]
  rcases kept with ⟨closed, incoming⟩ | ⟨opened, expects⟩
  · rw [if_pos closed]
    exact ⟨.inl ⟨closed, incoming⟩, by simp, by simp⟩
  · have ends := expects.receiveAll (le_refl _)
    rw [if_neg (by simp [opened]), if_neg some]
    rcases result : s.receiveAll server bytes.length bytes with ⟨t, ret⟩
    rw [result] at ends
    cases ret with
    | none => exact ends.elim
    | some ret =>
      cases ret with
      | ok =>
        refine ⟨.inr ⟨ends.open, ends⟩, ?_, ?_⟩
        · dsimp only
          split <;> decide
        · dsimp only
          split <;> decide
      | error errno =>
        cases errno with
        | EINVAL => exact ⟨.inl ⟨rfl, ends.2⟩, by simp, by simp⟩
        | EWOULDBLOCK => exact ⟨.inr ⟨ends.open, ends⟩, by simp, by simp⟩
      | assertion => exact ends.elim

/-- `handle_input` with each of the pieces that `recv` gives. -/
def input (server : Server σ κ) (s : WorldSocket σ κ) (bytes : List UInt8) : WorldSocket σ κ :=
  (s.handleInput server bytes).1

lemma Kept.run {chunks : List (List UInt8)} (kept : Kept server chunks.flatten total s)
    (some : ∀ chunk ∈ chunks, chunk ≠ []) :
    Kept server [] total (run (input server) s chunks) ∧
      Along (input server) (fun s chunk => (s.handleInput server chunk).2 ≠ .assertion ∧
        (s.handleInput server chunk).2 ≠ .loops) s chunks := by
  induction chunks generalizing s with
  | nil => exact ⟨kept, trivial⟩
  | cons chunk chunks ih =>
    obtain ⟨kept', fine⟩ := kept.handleInput (some chunk List.mem_cons_self)
    have others : ∀ chunk' ∈ chunks, chunk' ≠ [] :=
      fun chunk' hm => some chunk' (List.mem_cons_of_mem _ hm)
    obtain ⟨ends, along⟩ := ih kept' others
    exact ⟨ends, fine, along⟩

lemma Kept.incoming (kept : Kept server [] total s) : s.incoming = total := by
  rcases kept with ⟨_, incoming⟩ | ⟨_, expects⟩
  · exact incoming
  · cases expects with
    | @header packets got ready short stream =>
      rw [List.append_nil] at stream
      cases stream with
      | nil => rw [deliveries, List.append_nil]
      | packet fits next =>
        rw [List.append_assoc, List.length_append, ClientPacket.length_header] at short
        omega
    | payload _ _ some hs _ => exact absurd (List.append_eq_nil_iff.mp hs.symm).1 some

lemma create_kept {world : σ} {generator : κ} {packets : List ClientPacket}
    (stream : Stream server ⟨generator, false⟩ world packets bytes) :
    Kept server bytes (deliveries server world packets) (create world generator) := by
  right
  refine ⟨rfl, ?_⟩
  have ready : (create world generator).Ready [] := ⟨⟨rfl, fun _ => rfl, rfl⟩, rfl, rfl, rfl⟩
  exact Expects.header ready (Nat.succ_pos 5) stream

/-- However a stream of packets is cut, the packets up to the first refused one are given to
`ProcessIncoming`, and no assertion fails. -/
theorem framing {world : σ} {generator : κ} {packets : List ClientPacket}
    {chunks : List (List UInt8)} (some : ∀ chunk ∈ chunks, chunk ≠ [])
    (stream : Stream server ⟨generator, false⟩ world packets chunks.flatten) :
    (run (input server) (create world generator) chunks).incoming =
        deliveries server world packets ∧
      Along (input server) (fun s chunk => (s.handleInput server chunk).2 ≠ .assertion ∧
        (s.handleInput server chunk).2 ≠ .loops) (create world generator) chunks := by
  obtain ⟨kept, fine⟩ := (create_kept stream).run some
  exact ⟨kept.incoming, fine⟩

def lobby : Server Bool UInt8 where
  GetOpcodeByNumber opcodeNumber := opcodeNumber
  next k := (k, k + 1)
  ProcessIncoming session packet :=
    if packet.opcode = 178 ∧ session = false then ⟨true, some 7, 0⟩
    else if packet.opcode ≠ 178 ∧ session = true then ⟨true, none, 0⟩
    else ⟨session, none, -1⟩

/-- A packet of 2 bytes that starts a session, and an encrypted packet without payload. -/
theorem framing_lobby :
    (run (input lobby) (create false 0) [[6, 0, 178], [0, 0, 0, 1, 2, 2, 8], [9, 10]]).incoming =
        deliveries lobby false [⟨178, [1, 2]⟩, ⟨5, []⟩] ∧
      Along (input lobby) (fun s chunk => (s.handleInput lobby chunk).2 ≠ .assertion ∧
        (s.handleInput lobby chunk).2 ≠ .loops) (create false 0)
          [[6, 0, 178], [0, 0, 0, 1, 2, 2, 8], [9, 10]] :=
  framing (by decide)
    (.packet (p := ⟨178, [1, 2]⟩) ⟨by decide, by decide⟩ fun _ =>
      .packet (p := ⟨5, []⟩) ⟨by decide, by decide⟩ fun _ => .nil _ _)

/-- Without a session the first of two packets is refused, and the second is not given to
`ProcessIncoming`. -/
theorem not_all_delivered : ¬ ∀ (σ κ : Type) (server : Server σ κ) (world : σ) (generator : κ)
    (packets : List ClientPacket) (chunks : List (List UInt8)), (∀ chunk ∈ chunks, chunk ≠ []) →
    Stream server ⟨generator, false⟩ world packets chunks.flatten →
    (run (input server) (create world generator) chunks).incoming =
      packets.map (ClientPacket.received server) := by
  intro all
  have two := all Bool UInt8 lobby false 0 [⟨5, []⟩, ⟨6, []⟩]
    [[4, 0, 5, 0, 0, 0], [4, 0, 6, 0, 0, 0]] (by decide) (.packet (p := ⟨5, []⟩) ⟨by decide, by decide⟩ fun accepted =>
      absurd (by decide) accepted)
  revert two
  decide

end WorldSocket

end WorldServer.Network
