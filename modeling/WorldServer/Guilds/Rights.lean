import WorldServer.Guilds.BankMoney
import WorldServer.Guilds.MemberRequests

/-!
# Rights of a rank

Most rights are a bit beside a marker bit they all share, some are the bit alone. A right is
tested by comparing the masked rights with the marker. `Hall` is the part of a guild that the
rights protect.
-/
namespace WorldServer.Guilds

open WorldServer.Lib

/-! ### The rights -/

def grRightOffchatlisten : UInt32 := grRightEmpty ||| 0x4
def grRightOffchatspeak : UInt32 := grRightEmpty ||| 0x8
def grRightSetmotd : UInt32 := grRightEmpty ||| 0x1000
def grRightEpnote : UInt32 := grRightEmpty ||| 0x2000
def grRightViewoffnote : UInt32 := grRightEmpty ||| 0x4000
def grRightEoffnote : UInt32 := grRightEmpty ||| 0x8000
def grRightModifyGuildInfo : UInt32 := grRightEmpty ||| 0x10000
def grRightWithdrawGoldLock : UInt32 := 0x20000
def grRightCreateGuildEvent : UInt32 := 0x100000
def grRightRequiresAuthenticator : UInt32 := 0x200000
def grRightModifyBankTab : UInt32 := 0x400000

/-- The rights a rank can have, without the empty one. -/
inductive GuildRankRight where
  | gchatlisten | gchatspeak | offchatlisten | offchatspeak | invite | remove | promote | demote
  | setmotd | epnote | viewoffnote | eoffnote | modifyGuildInfo | withdrawGoldLock | withdrawRepair
  | withdrawGold | createGuildEvent | requiresAuthenticator | modifyBankTab
deriving DecidableEq, Repr

namespace GuildRankRight

def mask : GuildRankRight → UInt32
  | gchatlisten => grRightGchatlisten
  | gchatspeak => grRightGchatspeak
  | offchatlisten => grRightOffchatlisten
  | offchatspeak => grRightOffchatspeak
  | invite => grRightInvite
  | remove => grRightRemove
  | promote => grRightPromote
  | demote => grRightDemote
  | setmotd => grRightSetmotd
  | epnote => grRightEpnote
  | viewoffnote => grRightViewoffnote
  | eoffnote => grRightEoffnote
  | modifyGuildInfo => grRightModifyGuildInfo
  | withdrawGoldLock => grRightWithdrawGoldLock
  | withdrawRepair => grRightWithdrawRepair
  | withdrawGold => grRightWithdrawGold
  | createGuildEvent => grRightCreateGuildEvent
  | requiresAuthenticator => grRightRequiresAuthenticator
  | modifyBankTab => grRightModifyBankTab

def bit (right : GuildRankRight) : UInt32 := right.mask &&& ~~~grRightEmpty

/-- Every right is one bit, with or without the marker. -/
example : ([gchatlisten, gchatspeak, offchatlisten, offchatspeak, invite, remove, promote, demote,
    setmotd, epnote, viewoffnote, eoffnote, modifyGuildInfo].map fun r => (r.bit, r.mask == r.bit)) =
    [(0x1, false), (0x2, false), (0x4, false), (0x8, false), (0x10, false), (0x20, false),
      (0x80, false), (0x100, false), (0x1000, false), (0x2000, false), (0x4000, false),
      (0x8000, false), (0x10000, false)] := by decide

end GuildRankRight

namespace Guild

def Grants (g : Guild) (member : Member) (right : GuildRankRight) : Prop :=
  g.getRankRights member.rankId &&& right.bit ≠ 0

def Marked (g : Guild) (member : Member) (right : GuildRankRight) : Prop :=
  g.getRankRights member.rankId &&& right.mask &&& grRightEmpty ≠ 0

variable {g : Guild} {player : UInt64} {member : Member}

lemma hasRankRight_iff (hf : g.getMember player = some member) (right : GuildRankRight) :
    g.hasRankRight player right.mask = true ↔ g.Grants member right ∨ ¬g.Marked member right := by
  simp only [hasRankRight, hf, Grants, Marked, GuildRankRight.bit, bne_iff_ne, ne_eq, not_not]
  generalize g.getRankRights member.rankId = rights
  rw [← UInt32.and_assoc]
  generalize rights &&& right.mask = common
  rcases and_twoPow common 6 grRightEmpty rfl with unmarked | marked
  · -- without the marker the masked rights are not the marker
    refine iff_of_true ?_ (Or.inr unmarked)
    rintro rfl
    revert unmarked
    decide
  · rw [marked]
    constructor
    · intro differs
      left
      intro bare
      apply differs
      rw [← and_not_or_and common grRightEmpty, bare, marked, UInt32.zero_or]
    · rintro (bit | unmarked) hs
      · rw [hs] at bit
        exact bit (by decide)
      · revert unmarked
        decide

lemma hasRankRight_unmarked (hf : g.getMember player = some member) (right : GuildRankRight)
    (unmarked : right.mask &&& grRightEmpty = 0) : g.hasRankRight player right.mask = true := by
  refine (hasRankRight_iff hf right).mpr (Or.inr fun marked => marked ?_)
  rw [UInt32.and_assoc, unmarked, UInt32.and_zero]

end Guild

/-! ### What the rights protect -/

structure BankTabInfo where
  name : String
  icon : String
  text : String
deriving DecidableEq, Repr

/-- A guild with its texts, the notes on its members, the open invitations and the gold of
the players. -/
structure Hall where
  id : UInt32
  guild : Guild
  motd : String
  info : String
  tabs : List BankTabInfo
  publicNote : UInt32 → String
  officerNote : UInt32 → String
  guildIdInvited : UInt64 → UInt32
  gold : UInt64 → UInt64

/-- A player found by name who may be invited. -/
structure Invitee where
  guid : UInt64
  team : UInt32
  ignoresInviter : Bool
deriving DecidableEq, Repr

inductive HallCommand where
  | invite | editMotd | publicNote
deriving DecidableEq, Repr

inductive HallError where
  | playerNotFound | notAllied | alreadyInvited | permissions
deriving DecidableEq, Repr

/-- An error result sent to the requesting session. -/
structure HallRefusal where
  command : HallCommand
  errCode : HallError
deriving DecidableEq, Repr

abbrev Truncate := String → ℕ → String

def maxGuildBankTabTextLen : ℕ := 500

namespace BankTabInfo

def setInfo (tab : BankTabInfo) (name icon : String) : BankTabInfo :=
  { tab with name := name, icon := icon }

def setText (utf8truncate : Truncate) (tab : BankTabInfo) (text : String) : BankTabInfo :=
  if tab.text = text then tab else { tab with text := utf8truncate text maxGuildBankTabTextLen }

end BankTabInfo

namespace Hall

def handleInviteMember (w : World) (h : Hall) (player : UInt64) (invitee : Option Invitee) :
    Except HallRefusal Hall :=
  match invitee with
  | none => .error ⟨.invite, .playerNotFound⟩
  | some invitee =>
    if invitee.ignoresInviter then .ok h
    else if !w.allowTwoSideInteraction && invitee.team != w.teamOf player then
      .error ⟨.invite, .notAllied⟩
    else if h.guildIdInvited invitee.guid ≠ 0 then .error ⟨.invite, .alreadyInvited⟩
    else if !h.guild.hasRankRight player grRightInvite then .error ⟨.invite, .permissions⟩
    else .ok { h with guildIdInvited := Function.update h.guildIdInvited invitee.guid h.id }

def handleSetMOTD (h : Hall) (player : UInt64) (motd : String) : Except HallRefusal Hall :=
  if h.motd = motd then .ok h
  else if !h.guild.hasRankRight player grRightSetmotd then .error ⟨.editMotd, .permissions⟩
  else .ok { h with motd := motd }

def handleSetInfo (h : Hall) (player : UInt64) (info : String) : Hall :=
  if h.info = info then h
  else if h.guild.hasRankRight player grRightModifyGuildInfo then { h with info := info }
  else h

def handleSetMemberNote (h : Hall) (player : UInt64) (note : String) (guid : UInt64)
    (isPublic : Bool) : Except HallRefusal Hall :=
  if !h.guild.hasRankRight player (if isPublic then grRightEpnote else grRightEoffnote) then
    .error ⟨.publicNote, .permissions⟩
  else match h.guild.getMember guid with
    | none => .ok h
    | some _ =>
      if isPublic then .ok { h with publicNote := Function.update h.publicNote (guidLopart guid) note }
      else .ok { h with officerNote := Function.update h.officerNote (guidLopart guid) note }

def modifyTab (h : Hall) (tabId : UInt8) (f : BankTabInfo → BankTabInfo) : Hall :=
  { h with tabs := h.tabs.modify tabId.toNat f }

def handleSetBankTabInfo (h : Hall) (player : UInt64) (tabId : UInt8) (name icon : String) : Hall :=
  match h.tabs[tabId.toNat]? with
  | none => h
  | some _ =>
    if !h.guild.hasRankRight player grRightModifyBankTab then h
    else h.modifyTab tabId fun tab => tab.setInfo name icon

def handleSetBankTabNote (utf8truncate : Truncate) (h : Hall) (player : UInt64) (tabId : UInt32)
    (note : String) : Hall :=
  match h.tabs[tabId.toUInt8.toNat]? with
  | none => h
  | some _ =>
    if !h.guild.hasRankRight player grRightModifyBankTab then h
    else h.modifyTab tabId.toUInt8 fun tab => tab.setText utf8truncate note

def setBankTabText (utf8truncate : Truncate) (h : Hall) (tabId : UInt8) (text : String) : Hall :=
  match h.tabs[tabId.toNat]? with
  | none => h
  | some _ => h.modifyTab tabId fun tab => tab.setText utf8truncate text

def withTreasury (h : Hall) (t : Treasury) : Hall := { h with guild := t.guild, gold := t.gold }

def handleMemberWithdrawMoney (h : Hall) (player amount : UInt64) (repair : Bool) : Hall :=
  h.withTreasury ((⟨h.guild, h.gold⟩ : Treasury).handleMemberWithdrawMoney player amount repair).1

end Hall

/-! ### Requests -/

inductive HallRequest where
  | invite (invitee : Option Invitee)
  | remove (guid : UInt64)
  | updateMemberRank (guid : UInt64) (demote : Bool)
  | setMotd (motd : String)
  | setInfo (info : String)
  | setMemberNote (note : String) (guid : UInt64) (isPublic : Bool)
  | setBankTabInfo (tabId : UInt8) (name icon : String)
  | setBankTabNote (tabId : UInt32) (note : String)
  | setBankTabText (tabId : UInt32) (text : String)
  | withdraw (amount : UInt64)
  | repair (costs : UInt64)

def HallRequest.right : HallRequest → GuildRankRight
  | .invite _ => .invite
  | .remove _ => .remove
  | .updateMemberRank _ demote => if demote then .demote else .promote
  | .setMotd _ => .setmotd
  | .setInfo _ => .modifyGuildInfo
  | .setMemberNote _ _ isPublic => if isPublic then .epnote else .eoffnote
  | .setBankTabInfo _ _ _ => .modifyBankTab
  | .setBankTabNote _ _ => .modifyBankTab
  | .setBankTabText _ _ => .modifyBankTab
  | .withdraw _ => .withdrawGold
  | .repair _ => .withdrawRepair

namespace Hall

def settled (h : Hall) : Except HallRefusal Hall → Option Hall
  | .ok h' => some h'
  | .error _ => some h

def serve (w : World) (utf8truncate : Truncate) (h : Hall) (player : UInt64) : HallRequest → Option Hall
  | .invite invitee => h.settled (h.handleInviteMember w player invitee)
  | .remove guid =>
    (settle h.guild (h.guild.handleRemoveMember player guid)).map fun g => { h with guild := g }
  | .updateMemberRank guid demote =>
    (settle h.guild ((h.guild.handleUpdateMemberRank player guid demote).map some)).map fun g =>
      { h with guild := g }
  | .setMotd motd => h.settled (h.handleSetMOTD player motd)
  | .setInfo info => some (h.handleSetInfo player info)
  | .setMemberNote note guid isPublic => h.settled (h.handleSetMemberNote player note guid isPublic)
  | .setBankTabInfo tabId name icon => some (h.handleSetBankTabInfo player tabId name icon)
  | .setBankTabNote tabId note => some (h.handleSetBankTabNote utf8truncate player tabId note)
  | .setBankTabText tabId text => some (h.setBankTabText utf8truncate tabId.toUInt8 text)
  | .withdraw amount => some (h.handleMemberWithdrawMoney player amount false)
  | .repair costs => some (h.handleMemberWithdrawMoney player costs true)

variable {w : World} {utf8truncate : Truncate} {h : Hall} {player : UInt64}

lemma serve_gated {member : Member} (hf : h.guild.getMember player = some member)
    (r : HallRequest) (effect : h.serve w utf8truncate player r ≠ some h) :
    h.guild.hasRankRight player r.right.mask = true := by
  by_contra missing
  have refused : h.guild.hasRankRight player r.right.mask = false := by simpa using missing
  cases r with
  | invite invitee =>
    change h.guild.hasRankRight player grRightInvite = false at refused
    apply effect
    simp only [serve, handleInviteMember, refused]
    -- whichever check comes first, nothing is written
    cases invitee with
    | none => rfl
    | some invitee =>
      split
      · rfl
      · simp only [Bool.not_false, if_true]
        split_ifs <;> rfl
  | remove guid =>
    change h.guild.hasRankRight player grRightRemove = false at refused
    apply effect
    simp [serve, Guild.handleRemoveMember, refused]
  | updateMemberRank guid demote =>
    apply effect
    cases demote with
    | true =>
      change h.guild.hasRankRight player grRightDemote = false at refused
      simp [serve, Guild.handleUpdateMemberRank, refused]
    | false =>
      change h.guild.hasRankRight player grRightPromote = false at refused
      simp [serve, Guild.handleUpdateMemberRank, refused]
  | setMotd motd =>
    change h.guild.hasRankRight player grRightSetmotd = false at refused
    apply effect
    by_cases hs : h.motd = motd <;> simp [serve, handleSetMOTD, refused, hs, settled]
  | setInfo info =>
    change h.guild.hasRankRight player grRightModifyGuildInfo = false at refused
    apply effect
    by_cases hs : h.info = info <;> simp [serve, handleSetInfo, refused, hs]
  | setMemberNote note guid isPublic =>
    apply effect
    cases isPublic with
    | true =>
      change h.guild.hasRankRight player grRightEpnote = false at refused
      simp [serve, handleSetMemberNote, refused, settled]
    | false =>
      change h.guild.hasRankRight player grRightEoffnote = false at refused
      simp [serve, handleSetMemberNote, refused, settled]
  -- rights without the marker are never missed
  | setBankTabInfo tabId name icon => exact missing (Guild.hasRankRight_unmarked hf .modifyBankTab (by decide))
  | setBankTabNote tabId note => exact missing (Guild.hasRankRight_unmarked hf .modifyBankTab (by decide))
  | setBankTabText tabId text => exact missing (Guild.hasRankRight_unmarked hf .modifyBankTab (by decide))
  | withdraw amount => exact missing (Guild.hasRankRight_unmarked hf .withdrawGold (by decide))
  | repair costs => exact missing (Guild.hasRankRight_unmarked hf .withdrawRepair (by decide))

end Hall

/-! ### The law of rights -/

/-- The test of a right says what the rank's mask says exactly for masks that have the right or
share the marker with it; no request of a member takes effect where the test fails. -/
theorem rightsGate_iff (w : World) (utf8truncate : Truncate) (h : Hall) (player : UInt64)
    (member : Member) (found : h.guild.getMember player = some member) :
    (∀ right : GuildRankRight,
      ((h.guild.hasRankRight player right.mask = true ↔ h.guild.Grants member right) ↔
        h.guild.Grants member right ∨ h.guild.Marked member right)) ∧
    ∀ r : HallRequest, h.guild.hasRankRight player r.right.mask = false →
      h.serve w utf8truncate player r = some h := by
  constructor
  · intro right
    rw [Guild.hasRankRight_iff found]
    tauto
  · intro r refused
    by_contra effect
    have granted := Hall.serve_gated found r effect
    rw [refused] at granted
    cases granted

private def officersHall : Guild :=
  Guild.createDefaultGuildRanks
    { stackable := fun _ => 1, undeletableLevel := 26, allowTwoSideInteraction := false,
      allowMultipleGuildMaster := false, teamOf := fun _ => 469, defaultRankName := fun _ => "" }
    { leaderGuid := 1, level := 1, bankMoney := 0, ranks := [], bankTabs := []
      members := ((∅ : Table UInt32 Member).insert 2
        { guid := 2, name := "Officer", rankId := grOfficer }).insert 1
        { guid := 1, name := "Leader", rankId := grGuildmaster } }

/-- The same after the leader has taken all rights from the officers. -/
private def bareHall : Guild := officersHall.modifyRank grOfficer fun rank =>
  ((rank.setName "").setRights 0).setBankMoneyPerDay 0

example : officersHall.handleSetRankInfo 1 grOfficer "" 0 0 (Vector.replicate 8 (0, 0)) =
    .ok bareHall := by rfl

private def markedHall : Hall where
  id := 1
  guild := officersHall.modifyRank grOfficer fun rank => rank.setRights grRightEmpty
  motd := ""
  info := ""
  tabs := []
  publicNote _ := ""
  officerNote _ := ""
  guildIdInvited _ := 0
  gold _ := 0

/-- An officer with the marker alone cannot change the message of the day. -/
theorem rightsGate_iff_officer :
    ((markedHall.guild.hasRankRight 2 GuildRankRight.setmotd.mask = true ↔
        markedHall.guild.Grants { guid := 2, name := "Officer", rankId := grOfficer } .setmotd) ↔
      markedHall.guild.Grants { guid := 2, name := "Officer", rankId := grOfficer } .setmotd ∨
        markedHall.guild.Marked { guid := 2, name := "Officer", rankId := grOfficer } .setmotd) ∧
    markedHall.serve
      { stackable := fun _ => 1, undeletableLevel := 26, allowTwoSideInteraction := false,
        allowMultipleGuildMaster := false, teamOf := fun _ => 469, defaultRankName := fun _ => "" }
      (fun text _ => text) 2 (.setMotd "Hail") = some markedHall := by
  have gate := rightsGate_iff
    { stackable := fun _ => 1, undeletableLevel := 26, allowTwoSideInteraction := false,
      allowMultipleGuildMaster := false, teamOf := fun _ => 469, defaultRankName := fun _ => "" }
    (fun text _ => text) markedHall 2 { guid := 2, name := "Officer", rankId := grOfficer } rfl
  exact ⟨gate.1 .setmotd, gate.2 (.setMotd "Hail") rfl⟩

/-- An officer whose rank has been left without any right can still remove members. -/
theorem bare_rank_has_every_right :
    ¬ ∀ (g : Guild) (player : UInt64) (member : Member) (right : GuildRankRight),
      g.getMember player = some member →
      (g.hasRankRight player right.mask = true ↔ g.Grants member right) := by
  intro claim
  have rights : bareHall.getRankRights grOfficer = 0 := by rfl
  have member : bareHall.getMember 2 = some { guid := 2, name := "Officer", rankId := grOfficer } := by
    rfl
  have granted := (claim bareHall 2 _ .remove member).mp
    (by rw [Guild.hasRankRight, member]; simp [rights, grRightEmpty])
  exact granted (by rw [rights, UInt32.zero_and])

end WorldServer.Guilds
