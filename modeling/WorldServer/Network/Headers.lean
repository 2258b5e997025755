import WorldServer.Network.Framing
import WorldServer.Network.Output

/-!
# The fields of packet headers

The header of a packet has the size and the opcode in 32 bits, in either direction. Sizes and
opcodes are cut to the width of their fields without a check; the size that a client sends is cut
a second time, to 16 bits, before its limit is tested.
-/
namespace WorldServer.Network

open WorldServer.Lib

variable {σ κ : Type} (next : κ → UInt8 × κ)

/-! ### What the server writes -/

/-- The size of the contents and the number of the opcode, as the other end takes them from the
header. The size that is sent unencrypted counts the opcode too. -/
def readServerHeader (c : SendCrypt κ) (header : List UInt8) : ℕ × ℕ :=
  if c._initialized then
    let value := ofBytes (combine next c._serverEncrypt header).1
    (value >>> 13, value &&& MAX_OPCODE)
  else (ofBytes (header.take 2) - 2, ofBytes (header.drop 2))

/-- The fields of the header are wide enough. -/
def HasRoom (opcodeNumber : ℕ → UInt16) (c : SendCrypt κ) (pkt : ServerPacket) : Prop :=
  if c._initialized then
    pkt.contents.length < 2 ^ 19 ∧ (opcodeNumber pkt.opcode).toNat < 2 ^ 13
  else pkt.contents.length + 2 < 2 ^ 16

lemma and_MAX_OPCODE (n : ℕ) : n &&& MAX_OPCODE = n % 2 ^ 13 :=
  Nat.and_two_pow_sub_one_eq_mod n 13

lemma headerValue (size cmd : ℕ) :
    ofBytes (toBytes 4 (size <<< 13 ||| (cmd &&& MAX_OPCODE))) =
      size % 2 ^ 19 * 2 ^ 13 + cmd % 2 ^ 13 := by
  have small : cmd % 2 ^ 13 < 2 ^ 13 := Nat.mod_lt _ (by decide)
  rw [ofBytes_toBytes, and_MAX_OPCODE, ← Nat.shiftLeft_add_eq_or_of_lt small, Nat.shiftLeft_eq]
  omega

lemma readServerHeader_encrypted {c : SendCrypt κ} (encrypted : c._initialized = true)
    (size cmd : ℕ) :
    readServerHeader next c (serverPktHeader next c size cmd).1 =
      (size % 2 ^ 19, cmd % 2 ^ 13) := by
  simp only [readServerHeader, serverPktHeader, encrypted, if_true, combine_combine, headerValue]
  rw [and_MAX_OPCODE, Nat.shiftRight_eq_div_pow, Prod.mk.injEq]
  omega

lemma readServerHeader_plain {c : SendCrypt κ} (plain : c._initialized = false) (size cmd : ℕ) :
    readServerHeader next c (serverPktHeader next c size cmd).1 =
      (size % 2 ^ 16 - 2, cmd % 2 ^ 16) := by
  have size_ : (toBytes 2 size).length = 2 := length_toBytes ..
  simp [readServerHeader, serverPktHeader, plain, List.take_left' size_, List.drop_left' size_]

lemma readServerHeader_iff (opcodeNumber : ℕ → UInt16) (c : SendCrypt κ) (pkt : ServerPacket) :
    readServerHeader next c
        (packetHeader next (fun opcode => (opcodeNumber opcode).toNat) c pkt).1 =
        (pkt.contents.length, (opcodeNumber pkt.opcode).toNat) ↔
      HasRoom opcodeNumber c pkt := by
  have opcode : (opcodeNumber pkt.opcode).toNat < 2 ^ 16 := UInt16.toNat_lt _
  rw [packetHeader, HasRoom]
  cases mode : c._initialized with
  | true =>
    simp only [if_true, readServerHeader_encrypted next mode, Prod.mk.injEq]
    omega
  | false =>
    simp only [Bool.false_eq_true, if_false, readServerHeader_plain next mode, Prod.mk.injEq]
    omega

/-! ### What the server accepts -/

namespace WorldSocket

variable (server : Server σ κ) (s : WorldSocket σ κ)

/-- The 19 bits of the size in an encrypted header -/
def sizeField : ℕ :=
  ofBytes (combine server.next s.m_Crypt._clientDecrypt s.m_WorldHeader.data).1 >>> 13

/-- An encrypted header is complete and no packet is open. -/
structure HeaderReceived : Prop where
  encrypted : s.m_Crypt._initialized = true
  none_open : s.m_RecvWPct = none
  whole : s.m_WorldHeader.data.length = headerSize true
  no_payload : s.m_RecvPct.size = 0

/-- A header that is accepted is not too large, and exactly so many bytes are allocated, and taken
from whatever follows. -/
def TakesSize : Prop :=
  (s.handleInputHeader server).2 = .ok →
    s.sizeField server ≤ 10236 ∧
    (∃ packet, (s.handleInputHeader server).1.m_RecvWPct = some packet ∧
      packet.contents.length = s.sizeField server) ∧
    ∀ bytes, ((s.handleInputHeader server).1.receivePayload server bytes).2.1 =
      bytes.drop (s.sizeField server)

variable {server s}

variable (server) in
lemma receivePayload_rest (open_ : s.m_RecvWPct ≠ none) (bytes : List UInt8) :
    (s.receivePayload server bytes).2.1 = bytes.drop s.m_RecvPct.space := by
  obtain ⟨packet, some_⟩ := Option.ne_none_iff_exists'.mp open_
  have taken : (if s.m_RecvPct.space > 0 then min bytes.length s.m_RecvPct.space else 0) =
      min bytes.length s.m_RecvPct.space := by
    split <;> omega
  have dropped : bytes.drop (min bytes.length s.m_RecvPct.space) = bytes.drop s.m_RecvPct.space := by
    rcases le_total bytes.length s.m_RecvPct.space with short | long
    · rw [min_eq_left short, List.drop_length, List.drop_eq_nil_of_le short]
    · rw [min_eq_right long]
  simp only [receivePayload, some_, taken, dropped]
  split <;> rfl

variable (server) in
lemma openPacket_spec {s : WorldSocket σ κ} (empty : s.m_RecvPct.size = 0) (cmd size : ℕ) :
    (s.openPacket server cmd size).2 = .ok ∧
      (∃ packet, (s.openPacket server cmd size).1.m_RecvWPct = some packet ∧
        packet.contents.length = size) ∧
      (s.openPacket server cmd size).1.m_RecvPct.space = size := by
  have space : s.m_RecvPct.space = 0 := by rw [MessageBlock.space, empty, Nat.zero_sub]
  rw [openPacket]
  split
  case isTrue => simp [MessageBlock.space]
  case isFalse zero =>
    have none_ : size = 0 := by omega
    simp [space, none_]

/-- What the 16 bits of the structure hold decides. -/
lemma HeaderReceived.handleInputHeader (received : s.HeaderReceived) :
    s.handleInputHeader server =
      if s.sizeField server % 2 ^ 16 > 10236 then (s.decryptHeader server, .error .EINVAL)
      else (s.decryptHeader server).openPacket server
        (ofBytes (s.decryptHeader server).m_WorldHeader.data &&& 0x1FFF)
        (s.sizeField server % 2 ^ 16) := by
  obtain ⟨encrypted, none_open, whole, -⟩ := received
  simp only [WorldSocket.handleInputHeader, none_open, encrypted, whole, ne_eq, not_true_eq_false,
    if_false, if_true]
  rfl

lemma HeaderReceived.takesSize_iff (received : s.HeaderReceived) :
    s.TakesSize server ↔ s.sizeField server < 2 ^ 16 ∨ 10236 < s.sizeField server % 2 ^ 16 := by
  rw [TakesSize, received.handleInputHeader]
  by_cases large : s.sizeField server % 2 ^ 16 > 10236
  · rw [if_pos large]
    exact iff_of_true nofun (Or.inr large)
  rw [if_neg large]
  obtain ⟨ok, ⟨packet, opened, length⟩, space⟩ := openPacket_spec server
    (s := s.decryptHeader server) received.no_payload
    (ofBytes (s.decryptHeader server).m_WorldHeader.data &&& 0x1FFF) (s.sizeField server % 2 ^ 16)
  have rest := receivePayload_rest server (by rw [opened]; exact Option.some_ne_none _)
  rw [space] at rest
  constructor
  · intro takes
    have := (takes ok).1
    omega
  · rintro (field | refused)
    · have same : s.sizeField server % 2 ^ 16 = s.sizeField server := Nat.mod_eq_of_lt field
      rw [same] at opened length rest large ⊢
      exact fun _ => ⟨by omega, ⟨packet, opened, length⟩, rest⟩
    · exact absurd refused large

end WorldSocket

/-- The header of the server gives back what it was made of if the fields have room for it. A
client's header keeps to its size if the size has 16 bits, or is refused for what they hold. -/
theorem headers_iff (opcodeNumber : ℕ → UInt16) (c : SendCrypt κ) (pkt : ServerPacket)
    (server : Server σ κ) {s : WorldSocket σ κ} (received : s.HeaderReceived) :
    (readServerHeader next c
        (packetHeader next (fun opcode => (opcodeNumber opcode).toNat) c pkt).1 =
        (pkt.contents.length, (opcodeNumber pkt.opcode).toNat) ↔
      HasRoom opcodeNumber c pkt) ∧
    (s.TakesSize server ↔
      s.sizeField server < 2 ^ 16 ∨ 10236 < s.sizeField server % 2 ^ 16) :=
  ⟨readServerHeader_iff next opcodeNumber c pkt, received.takesSize_iff⟩

open WorldSocket

/-- A socket that has received an encrypted header. -/
def headerSocket (size cmd : ℕ) : WorldSocket Bool UInt8 :=
  { create true 7 with
    m_Crypt := ⟨7, true⟩
    m_WorldHeader := ⟨4, (combine lobby.next 7 (toBytes 4 (size <<< 13 ||| cmd))).1, by simp⟩ }

lemma headerSocket_received (size cmd : ℕ) : (headerSocket size cmd).HeaderReceived :=
  ⟨rfl, rfl, by simp [headerSocket, headerSize], rfl⟩

/-- A header of a packet with three bytes -/
theorem headers_iff_three :
    (readServerHeader lobby.next ⟨0, true⟩
        (packetHeader lobby.next (fun opcode => (UInt16.ofNat opcode).toNat) ⟨0, true⟩
          ⟨5, [1, 2, 3]⟩).1 = (3, 5) ↔
      HasRoom UInt16.ofNat (⟨0, true⟩ : SendCrypt UInt8) ⟨5, [1, 2, 3]⟩) ∧
    ((headerSocket 3 5).TakesSize lobby ↔
      (headerSocket 3 5).sizeField lobby < 2 ^ 16 ∨
        10236 < (headerSocket 3 5).sizeField lobby % 2 ^ 16) :=
  headers_iff lobby.next UInt16.ofNat ⟨0, true⟩ ⟨5, [1, 2, 3]⟩ lobby (headerSocket_received 3 5)

/-- A header with the size 65541 is accepted for a packet of five bytes. -/
theorem long_header_accepted :
    ¬ (headerSocket 65541 5).TakesSize lobby ∧
      ((headerSocket 65541 5).handleInputHeader lobby).1.m_RecvPct.size = 5 := by
  have accepted : ((headerSocket 65541 5).handleInputHeader lobby).2 = .ok := by decide
  constructor
  · intro takes
    have small := (takes accepted).1
    revert small
    decide
  · decide

end WorldServer.Network
