import WorldServer.Guilds.State

/-!
# Requests on ranks and members

The handlers that add, remove or edit ranks and that add, remove or re-rank
members. A handler that answers with an error result returns it and leaves the
guild as it was; `none` is a disbanded guild.
-/
namespace WorldServer.Guilds

open WorldServer.Lib

inductive GuildCommandType where
  | invite | quit | promote | demote | remove | changeLeader | changeRank
deriving DecidableEq, Repr

inductive GuildCommandError where
  | nameInvalid | leaderLeave | permissions | rankTooHigh | rankTooLow | undeletableDueToLevel
deriving DecidableEq, Repr

/-- An error result sent to the requesting session. -/
structure Refusal where
  type : GuildCommandType
  errCode : GuildCommandError
deriving DecidableEq, Repr

/-- What a guild reads of a character who joins. -/
structure Character where
  guid : UInt64
  name : String
  guildId : UInt32
  online : Bool
  level : UInt8
  charClass : UInt8
deriving DecidableEq, Repr

/-- `CheckStats`; classes run from `CLASS_WARRIOR` to below `MAX_CLASSES`. -/
def checkStats (level charClass : UInt8) : Bool := 1 ≤ level && 1 ≤ charClass && charClass < 12

namespace Guild

/-! ### Rank rows -/

def createRank (g : Guild) (name : String) (rights : UInt32) : Guild :=
  if g.getRanksSize ≥ guildRanksMaxCount then g
  -- the tabs are created on a copy, so the stored rank has none until the next start
  else { g with ranks := g.ranks ++ [{ rankId := g.getRanksSize, name := name, rights := rights }] }

def createDefaultGuildRanks (w : World) (g : Guild) : Guild :=
  let g := g.createRank (w.defaultRankName 0) grRightAll
  let g := g.createRank (w.defaultRankName 1) grRightAll
  let g := g.createRank (w.defaultRankName 2) (grRightGchatlisten ||| grRightGchatspeak)
  let g := g.createRank (w.defaultRankName 3) (grRightGchatlisten ||| grRightGchatspeak)
  g.createRank (w.defaultRankName 4) (grRightGchatlisten ||| grRightGchatspeak)

def handleAddNewRank (g : Guild) (player : UInt64) (name : String) : Except Refusal Guild :=
  if g.getRanksSize ≥ guildRanksMaxCount then .ok g
  else if !g.isLeader player then .error ⟨.invite, .permissions⟩
  else .ok (g.createRank name (grRightGchatlisten ||| grRightGchatspeak))

def removesRank (g : Guild) (player : UInt64) (rankId : UInt8) : Bool :=
  guildRanksMinCount < g.getRanksSize && rankId < g.getRanksSize && g.isLeader player

def handleRemoveRank (g : Guild) (player : UInt64) (rankId : UInt8) : Except Refusal Guild :=
  -- the ranks behind the removed one keep the ids they have stored
  if g.removesRank player rankId then .ok { g with ranks := g.ranks.eraseIdx rankId.toNat }
  else .ok g

def findRankById (g : Guild) (id : UInt32) : Option ℕ :=
  (List.range g.ranks.length).findRev? fun i =>
    (g.ranks[i]?.map (·.rankId.toUInt32)) == some id

def handleUpdateRank (g : Guild) (player : UInt64) (id : UInt32) (up : Bool) :
    Except Refusal Guild :=
  if !g.isLeader player then .error ⟨.invite, .permissions⟩
  else
    -- the neighbour's id is computed on 32 bits and may wrap to one that is not there
    let other := if up then id - 1 else id + 1
    match g.findRankById id, g.findRankById other with
    | some i, some j =>
      match g.ranks[i]?, g.ranks[j]? with
      | some rank1, some rank2 =>
        let ranks := g.ranks.modify j fun r => (r.setName rank1.name).setRights rank1.rights
        .ok { g with ranks :=
          ranks.modify i fun r => (r.setName rank2.name).setRights rank2.rights }
      | _, _ => .ok g
    | _, _ => .ok g

def setRankBankTabRightsAndSlots (g : Guild) (rankId : UInt8) (r : GuildBankRightsAndSlots) :
    Guild :=
  if g.getPurchasedTabsSize ≤ r.tabId then g
  else g.modifyRank rankId fun info => info.setBankTabSlotsAndRights r

/-- The packet carries rights and slots for every tab, also for tabs not purchased. -/
def handleSetRankInfo (g : Guild) (player : UInt64) (rankId : UInt8) (name : String)
    (rights moneyPerDay : UInt32) (rightsAndSlots : Vector (UInt8 × UInt32) guildBankMaxTabs) :
    Except Refusal Guild :=
  if !g.isLeader player then .error ⟨.changeRank, .permissions⟩
  else
    let g := g.modifyRank rankId fun r =>
      ((r.setName name).setRights rights).setBankMoneyPerDay moneyPerDay
    .ok (rightsAndSlots.toList.zipIdx.foldl (fun g r =>
      g.setRankBankTabRightsAndSlots rankId ⟨UInt8.ofNat r.2, r.1.1, r.1.2⟩) g)

/-! ### Members -/

def addMember (g : Guild) (c : Character) (rankId : UInt8 := guildRankNone) : Guild × Bool :=
  if c.guildId ≠ 0 then (g, false)
  else
    let rankId := if rankId = guildRankNone then g.getLowestRankId else rankId
    let member : Member := { guid := c.guid, name := c.name, rankId := rankId }
    -- an online player is not checked again
    if c.online || checkStats c.level c.charClass then
      ({ g with members := g.members.insert (guidLopart c.guid) member }, true)
    else (g, false)

/-- One step of the search for a new leader: the lesser rank id wins, the earlier
member on a tie. -/
def betterLeader (lowguid : UInt32) (best : Option (UInt32 × Member))
    (e : Sigma fun _ : UInt32 => Member) : Option (UInt32 × Member) :=
  if e.1 = lowguid then best
  else match best with
    | none => some (e.1, e.2)
    | some b => if e.2.rankId < b.2.rankId then some (e.1, e.2) else some b

def newLeader (g : Guild) (lowguid : UInt32) : Option (UInt32 × Member) :=
  g.members.entries.foldl (betterLeader lowguid) none

def eraseMember (g : Guild) (lowguid : UInt32) : Guild :=
  { g with members := g.members.erase lowguid }

/-- `none` where the leader goes and nobody is left to follow. -/
def deleteMember (g : Guild) (guid : UInt64) : Option Guild :=
  if g.leaderGuid = guid then
    (g.newLeader (guidLopart guid)).map fun leader =>
      (g.setLeaderGuid leader.1 leader.2).eraseMember (guidLopart guid)
  else some (g.eraseMember (guidLopart guid))

def changeMemberRank (g : Guild) (guid : UInt64) (newRank : UInt8) : Guild × Bool :=
  if newRank ≤ g.getLowestRankId && (g.getMember guid).isSome then
    (g.changeRank (guidLopart guid) newRank, true)
  else (g, false)

def handleAcceptMember (w : World) (g : Guild) (c : Character) : Guild :=
  if !w.allowTwoSideInteraction && w.teamOf c.guid != w.teamOf g.leaderGuid then g
  else (g.addMember c).1

def handleLeaveMember (w : World) (g : Guild) (player : UInt64) : Except Refusal (Option Guild) :=
  if g.isLeader player then
    if 1 < g.members.entries.length then .error ⟨.quit, .leaderLeave⟩
    else if w.undeletableLevel ≤ g.level.toUInt32 then .error ⟨.quit, .undeletableDueToLevel⟩
    else .ok none
  else .ok (g.deleteMember player)

def handleRemoveMember (g : Guild) (player guid : UInt64) : Except Refusal (Option Guild) :=
  if !g.hasRankRight player grRightRemove then .error ⟨.remove, .permissions⟩
  else match g.getMember guid with
    | none => .ok g
    | some member =>
      if member.isRank grGuildmaster then .error ⟨.remove, .leaderLeave⟩
      else match g.getMember player with
        | none => .error ⟨.remove, .rankTooHigh⟩
        | some memberMe =>
          if member.isRankNotLower memberMe.rankId then .error ⟨.remove, .rankTooHigh⟩
          else .ok (g.deleteMember guid)

def handleUpdateMemberRank (g : Guild) (player guid : UInt64) (demote : Bool) :
    Except Refusal Guild :=
  let type := if demote then .demote else .promote
  if !g.hasRankRight player (if demote then grRightDemote else grRightPromote) then
    .error ⟨type, .permissions⟩
  else match g.getMember guid, g.getMember player with
    | some member, some memberMe =>
      if member.isSamePlayer player then .error ⟨type, .nameInvalid⟩
      else if demote then
        if member.isRankNotLower memberMe.rankId then .error ⟨type, .rankTooHigh⟩
        else if g.getLowestRankId ≤ member.rankId then .error ⟨type, .rankTooLow⟩
        else .ok (g.changeRank (guidLopart guid) (member.rankId + 1))
      else
        if member.isRankNotLower (memberMe.rankId + 1) then .error ⟨type, .rankTooHigh⟩
        else .ok (g.changeRank (guidLopart guid) (member.rankId - 1))
    | _, _ => .ok g

def handleSetMemberRank (g : Guild) (player targetGuid : UInt64) (rank : UInt32) :
    Except Refusal Guild :=
  match g.getMember targetGuid with
  | none => .ok g
  | some member =>
    let demote := member.rankId.toUInt32 < rank
    let type := if demote then .demote else .promote
    if !g.hasRankRight player (if demote then grRightDemote else grRightPromote) then
      .error ⟨type, .permissions⟩
    else if member.isSamePlayer player then .error ⟨type, .nameInvalid⟩
    -- the rank from the packet is narrowed and stored without a bound
    else .ok (g.changeRank (guidLopart targetGuid) rank.toUInt8)

def handleSetNewGuildMaster (g : Guild) (player : UInt64) (name : String) : Except Refusal Guild :=
  if !g.isLeader player then .error ⟨.changeLeader, .permissions⟩
  else match g.getMember player, g.getMemberByName name with
    | some _, some (k, newGuildMaster) =>
      .ok ((g.setLeaderGuid k newGuildMaster).changeRank (guidLopart player) grInitiate)
    | _, _ => .ok g

def handleDisband (g : Guild) (player : UInt64) : Option Guild :=
  if g.isLeader player then none else some g

/-! ### A new guild and a loaded one -/

def create (w : World) (leader : Character) : Option Guild :=
  let g : Guild :=
    { leaderGuid := leader.guid, level := 1, bankMoney := 0, ranks := [], members := ∅,
      bankTabs := [] }
  match (g.createDefaultGuildRanks w).addMember leader grGuildmaster with
  | (g, true) => some g
  | (_, false) => none

/-- Whether `Validate` replaces the rank rows it finds. -/
def brokenRanks (g : Guild) : Bool :=
  g.getRanksSize < guildRanksMinCount || guildRanksMaxCount < g.getRanksSize ||
    (List.range g.getRanksSize.toNat).any fun i => g.ranks[i]?.any (·.rankId.toNat != i)

def repairRanks (w : World) (g : Guild) : Guild :=
  if g.brokenRanks then ({ g with ranks := [] } : Guild).createDefaultGuildRanks w
  else { g with ranks := g.ranks.map (·.createMissingTabsIfNeeded g.bankTabs.length) }

def reRank (g : Guild) (newRank : UInt32 → Member → Option UInt8) : Guild :=
  g.members.entries.foldl (fun g e => (newRank e.1 e.2).elim g (g.changeRank e.1)) g

def repairLeader (g : Guild) : Option Guild :=
  match g.getMember g.leaderGuid with
  | none => g.deleteMember g.leaderGuid
  | some leader =>
    if leader.isRank grGuildmaster then some g
    else some (g.setLeaderGuid (guidLopart g.leaderGuid) leader)

def tooHigh (g : Guild) (_ : UInt32) (m : Member) : Option UInt8 :=
  if g.getRanksSize < m.rankId then some g.getLowestRankId else none

def secondMaster (g : Guild) (_ : UInt32) (m : Member) : Option UInt8 :=
  if m.isRank grGuildmaster && !m.isSamePlayer g.leaderGuid then some grOfficer else none

def validate (w : World) (g : Guild) : Option Guild :=
  let g := g.repairRanks w
  (g.reRank g.tooHigh).repairLeader.map fun g =>
    if w.allowMultipleGuildMaster then g else g.reRank g.secondMaster

end Guild

end WorldServer.Guilds
