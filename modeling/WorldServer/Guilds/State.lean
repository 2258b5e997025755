import WorldServer.Lib.Table

/-!
# A guild in memory

Ranks are a vector addressed by index, each entry also storing its own id.
Members are keyed by the low part of their guid and name their rank by id. The
bank is a vector of purchased tabs with 98 slots each.
-/
namespace WorldServer.Guilds

open WorldServer.Lib

/-! ### Constants -/

def guildBankMaxTabs : ℕ := 8
def guildBankMaxSlots : ℕ := 98
def guildRanksMinCount : UInt8 := 2
def guildRanksMaxCount : UInt8 := 10
def guildRankNone : UInt8 := 0xFF
def guildWithdrawUnlimited : UInt32 := 0xFFFFFFFF
def tabUndefined : UInt8 := 0xFF
def nullSlot : UInt8 := 255

def grGuildmaster : UInt8 := 0
def grOfficer : UInt8 := 1
def grInitiate : UInt8 := 4

def grRightEmpty : UInt32 := 0x40
def grRightGchatlisten : UInt32 := grRightEmpty ||| 0x1
def grRightGchatspeak : UInt32 := grRightEmpty ||| 0x2
def grRightInvite : UInt32 := grRightEmpty ||| 0x10
def grRightRemove : UInt32 := grRightEmpty ||| 0x20
def grRightPromote : UInt32 := grRightEmpty ||| 0x80
def grRightDemote : UInt32 := grRightEmpty ||| 0x100
def grRightWithdrawRepair : UInt32 := 0x40000
def grRightWithdrawGold : UInt32 := 0x80000
def grRightAll : UInt32 := 0xDDFFBF

def guildBankRightViewTab : UInt8 := 0x1
def guildBankRightDepositItem : UInt8 := 0x3
def guildBankRightFull : UInt8 := 0xFF

def guidLopart (guid : UInt64) : UInt32 := guid.toUInt32

/-! ### Ranks -/

structure GuildBankRightsAndSlots where
  tabId : UInt8 := tabUndefined
  rights : UInt8 := 0
  slots : UInt32 := 0
deriving DecidableEq, Repr

def GuildBankRightsAndSlots.setGuildMasterValues (r : GuildBankRightsAndSlots) :
    GuildBankRightsAndSlots :=
  { r with rights := guildBankRightFull, slots := guildWithdrawUnlimited }

structure RankInfo where
  rankId : UInt8
  name : String
  rights : UInt32
  bankMoneyPerDay : UInt32 := 0
  bankTabRightsAndSlots : Vector GuildBankRightsAndSlots guildBankMaxTabs :=
    Vector.replicate guildBankMaxTabs {}
deriving DecidableEq, Repr

namespace RankInfo

def setName (info : RankInfo) (name : String) : RankInfo := { info with name := name }

def setRights (info : RankInfo) (rights : UInt32) : RankInfo :=
  { info with rights := if info.rankId = grGuildmaster then grRightAll else rights }

def setBankMoneyPerDay (info : RankInfo) (money : UInt32) : RankInfo :=
  { info with
    bankMoneyPerDay := if info.rankId = grGuildmaster then guildWithdrawUnlimited else money }

def setBankTabSlotsAndRights (info : RankInfo) (r : GuildBankRightsAndSlots) : RankInfo :=
  let r := if info.rankId = grGuildmaster then r.setGuildMasterValues else r
  { info with
    bankTabRightsAndSlots := info.bankTabRightsAndSlots.setIfInBounds r.tabId.toNat r }

def createMissingTab (info : RankInfo) (i : ℕ) : RankInfo :=
  match info.bankTabRightsAndSlots[i]? with
  | none => info
  | some r =>
    if r.tabId.toNat = i then info
    else
      let r := { r with tabId := UInt8.ofNat i }
      let r := if info.rankId = grGuildmaster then r.setGuildMasterValues else r
      { info with bankTabRightsAndSlots := info.bankTabRightsAndSlots.setIfInBounds i r }

def createMissingTabsIfNeeded (info : RankInfo) (tabs : ℕ) : RankInfo :=
  (List.range tabs).foldl createMissingTab info

/-- As an `int8` the rights are only ever masked. -/
def getBankTabRights (info : RankInfo) (tabId : UInt8) : UInt8 :=
  (info.bankTabRightsAndSlots[tabId.toNat]?.map (·.rights)).getD 0

def getBankTabSlotsPerDay (info : RankInfo) (tabId : UInt8) : Int32 :=
  (info.bankTabRightsAndSlots[tabId.toNat]?.map (·.slots.toInt32)).getD 0

section

variable (info : RankInfo)

@[simp] lemma rankId_createMissingTab (i : ℕ) :
    (info.createMissingTab i).rankId = info.rankId := by
  unfold createMissingTab
  split
  · rfl
  · split <;> rfl

@[simp] lemma rankId_createMissingTabsIfNeeded (tabs : ℕ) :
    (info.createMissingTabsIfNeeded tabs).rankId = info.rankId := by
  unfold createMissingTabsIfNeeded
  induction List.range tabs generalizing info with
  | nil => rfl
  | cons i tabs ih => simp [ih]

end

end RankInfo

/-! ### Members, items and the guild -/

structure Member where
  guid : UInt64
  name : String
  rankId : UInt8
  /-- One counter a tab, and the last one for money. -/
  bankWithdraw : Vector Int32 (guildBankMaxTabs + 1) := Vector.replicate (guildBankMaxTabs + 1) 0
deriving DecidableEq, Repr

def Member.isRank (m : Member) (rankId : UInt8) : Bool := m.rankId == rankId

def Member.isRankNotLower (m : Member) (rankId : UInt8) : Bool := m.rankId ≤ rankId

def Member.isSamePlayer (m : Member) (guid : UInt64) : Bool := m.guid == guid

/-- What the guild reads of a stack of items. -/
structure Item where
  entry : UInt32
  count : UInt32
  soulBound : Bool
deriving DecidableEq, Repr

abbrev BankTab := Vector (Option Item) guildBankMaxSlots

structure Guild where
  leaderGuid : UInt64
  level : UInt8
  bankMoney : UInt64
  ranks : List RankInfo
  members : Table UInt32 Member
  bankTabs : List BankTab

/-- What a guild asks of the rest of the server: item templates, configuration and
the names of the default ranks. -/
structure World where
  stackable : UInt32 → Int32
  undeletableLevel : UInt32
  allowTwoSideInteraction : Bool
  allowMultipleGuildMaster : Bool
  teamOf : UInt64 → UInt32
  defaultRankName : Fin 5 → String

/-- `GetMaxStackSize`: no limit is stored as the largest value or as none. -/
def World.maxStackSize (w : World) (entry : UInt32) : UInt32 :=
  if w.stackable entry = 2147483647 ∨ w.stackable entry ≤ 0 then 0x7FFFFFFE
  else (w.stackable entry).toUInt32

namespace Guild

/-! ### Lookups -/

def getRanksSize (g : Guild) : UInt8 := UInt8.ofNat g.ranks.length

def getLowestRankId (g : Guild) : UInt8 := UInt8.ofNat g.ranks.length - 1

def getRankInfo (g : Guild) (rankId : UInt8) : Option RankInfo :=
  if rankId < g.getRanksSize then g.ranks[rankId.toNat]? else none

def getPurchasedTabsSize (g : Guild) : UInt8 := UInt8.ofNat g.bankTabs.length

def getMember (g : Guild) (guid : UInt64) : Option Member := g.members.lookup (guidLopart guid)

def getMemberByName (g : Guild) (name : String) : Option (UInt32 × Member) :=
  (g.members.entries.find? fun e => e.2.name == name).map fun e => (e.1, e.2)

def isMember (g : Guild) (guid : UInt64) : Bool := (g.getMember guid).isSome

def getRankRights (g : Guild) (rankId : UInt8) : UInt32 :=
  ((g.getRankInfo rankId).map (·.rights)).getD 0

/-- A right is held when the masked rights differ from the bit all rights share, so a
rank that does not exist holds every right. -/
def hasRankRight (g : Guild) (player : UInt64) (right : UInt32) : Bool :=
  match g.getMember player with
  | some member => g.getRankRights member.rankId &&& right != grRightEmpty
  | none => false

def isLeader (g : Guild) (player : UInt64) : Bool :=
  player == g.leaderGuid || (g.getMember player).any (·.isRank grGuildmaster)

def getRankBankMoneyPerDay (g : Guild) (rankId : UInt8) : Int32 :=
  ((g.getRankInfo rankId).map (·.bankMoneyPerDay.toInt32)).getD 0

def getRankBankTabSlotsPerDay (g : Guild) (rankId tabId : UInt8) : Int32 :=
  if tabId < g.getPurchasedTabsSize then
    ((g.getRankInfo rankId).map (·.getBankTabSlotsPerDay tabId)).getD 0
  else 0

def getRankBankTabRights (g : Guild) (rankId tabId : UInt8) : UInt8 :=
  ((g.getRankInfo rankId).map (·.getBankTabRights tabId)).getD 0

/-! ### Changing one member or one rank -/

def changeRank (g : Guild) (lowguid : UInt32) (newRank : UInt8) : Guild :=
  match g.members.lookup lowguid with
  | some member => { g with members := g.members.insert lowguid { member with rankId := newRank } }
  | none => g

def setLeaderGuid (g : Guild) (lowguid : UInt32) (leader : Member) : Guild :=
  ({ g with leaderGuid := leader.guid } : Guild).changeRank lowguid grGuildmaster

def modifyRank (g : Guild) (rankId : UInt8) (f : RankInfo → RankInfo) : Guild :=
  if rankId < g.getRanksSize then { g with ranks := g.ranks.modify rankId.toNat f } else g

@[simp] lemma ranks_changeRank (g : Guild) (lowguid : UInt32) (newRank : UInt8) :
    (g.changeRank lowguid newRank).ranks = g.ranks := by
  unfold changeRank; split <;> rfl

@[simp] lemma ranks_setLeaderGuid (g : Guild) (lowguid : UInt32) (leader : Member) :
    (g.setLeaderGuid lowguid leader).ranks = g.ranks := by
  simp [setLeaderGuid]

lemma lookup_changeRank (g : Guild) (lowguid k : UInt32) (newRank : UInt8) (m : Member) :
    (g.changeRank lowguid newRank).members.lookup k = some m ↔
      (k = lowguid ∧ ∃ old, g.members.lookup lowguid = some old ∧
        m = { old with rankId := newRank }) ∨
      (k ≠ lowguid ∧ g.members.lookup k = some m) := by
  unfold changeRank
  split
  next old hf => simp [Table.lookup_insert_iff, hf]
  next absent =>
    by_cases hs : k = lowguid
    · subst hs; simp [absent]
    · simp [hs]

@[simp] lemma members_modifyRank (g : Guild) (rankId : UInt8) (f : RankInfo → RankInfo) :
    (g.modifyRank rankId f).members = g.members := by
  unfold modifyRank; split <;> rfl

end Guild

end WorldServer.Guilds
