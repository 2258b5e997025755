import WorldServer.Lib.Run
import WorldServer.Lib.Table

/-!
# The battleground queue

Players queue for a battleground alone or as a group. Each join makes a `GroupQueueInfo`, kept in
one of the four queues of a bracket: premade or normal, for either team. An update of the queue
selects groups, may move them between queues, and invites them to a battleground. Groups are heap
objects: the queues, the selection pools and the queued players name them by address.
-/
namespace WorldServer.Battlegrounds

open WorldServer.Lib

/-- `ALLIANCE` and `HORDE`, also as the team ids that number queues and pools. -/
inductive Team where
  | alliance
  | horde
  deriving DecidableEq, Repr

def Team.other : Team → Team
  | .alliance => .horde
  | .horde => .alliance

def Team.id : Team → ℕ
  | .alliance => 0
  | .horde => 1

abbrev BattlegroundBracketId := Fin 17

/-- `BattlegroundQueueGroupTypes`: the premade queues come before the normal ones, and in each
pair the alliance comes first. -/
abbrev GroupType := Fin 4

def GroupType.premade : Team → GroupType
  | .alliance => 0
  | .horde => 1

def GroupType.normal : Team → GroupType
  | .alliance => 2
  | .horde => 3

def INVITE_ACCEPT_WAIT_TIME : UInt32 := 90000

structure PlayerQueueInfo where
  LastOnlineTime : UInt32
  GroupInfo : ℕ

structure GroupQueueInfo where
  /-- The keys of the map, in its order. The values are the entries of `m_QueuedPlayers`. -/
  Players : List UInt64
  Team : Team
  BgTypeId : UInt32
  IsRated : Bool
  ArenaType : UInt8
  ArenaTeamId : UInt32
  JoinTime : UInt32
  RemoveInviteTime : UInt32
  IsInvitedToBGInstanceGUID : UInt32
  ArenaTeamRating : UInt32
  ArenaMatchmakerRating : UInt32
  OpponentsTeamRating : UInt32
  OpponentsMatchmakerRating : UInt32

def GroupQueueInfo.uninvited (ginfo : GroupQueueInfo) : Bool := ginfo.IsInvitedToBGInstanceGUID = 0

structure SelectionPool where
  SelectedGroups : List ℕ
  PlayerCount : ℕ

def SelectionPool.init : SelectionPool := ⟨[], 0⟩

structure BattlegroundQueue where
  m_QueuedPlayers : Table UInt64 PlayerQueueInfo
  m_QueuedGroups : BattlegroundBracketId × GroupType → List ℕ
  m_SelectionPools : Team → SelectionPool
  groups : ℕ → GroupQueueInfo
  newGroup : ℕ

/-- What the queue asks of a running battleground. -/
structure Battleground where
  instanceID : UInt32
  typeID : UInt32
  bracketId : BattlegroundBracketId
  isRated : Bool
  /-- After `STATUS_WAIT_QUEUE` and before `STATUS_WAIT_LEAVE`. -/
  isOpen : Bool
  freeSlotsForTeam : Team → ℕ

structure BattlegroundTemplate where
  isArena : Bool
  minPlayersPerTeam : ℕ
  maxPlayersPerTeam : ℕ
  hasBracketEntry : Bool

/-- The server around a queue while it is updated. -/
structure Server where
  now : UInt32
  invitationType : UInt32
  premadeGroupWaitForMatch : UInt32
  maxRatingDifference : UInt32
  ratingDiscardTimer : UInt32
  isTesting : Bool
  isArenaTesting : Bool
  bgFreeSlotQueue : List Battleground
  template : Option BattlegroundTemplate
  createPremade : Option Battleground
  createNormal : Option Battleground
  createRated : Option Battleground
  /-- What `back` reads in an empty pool. -/
  stale : ℕ

namespace SelectionPool

/-- Takes a group that is not invited and not too large. The flag says that the pool can still be
filled, or was. -/
def addGroup (groups : ℕ → GroupQueueInfo) (pool : SelectionPool) (g desiredCount : ℕ) :
    SelectionPool × Bool :=
  let size := (groups g).Players.length
  if (groups g).uninvited ∧ pool.PlayerCount + size ≤ desiredCount then
    (⟨pool.SelectedGroups ++ [g], pool.PlayerCount + size⟩, true)
  else (pool, pool.PlayerCount < desiredCount)

/-- The place of the largest group, or of the last one with about the size. -/
def groupToKick (sizes : List ℕ) (size : ℕ) : ℕ :=
  (sizes.zipIdx.foldl (fun (kick, found) (here, i) =>
    if ((here : ℤ) - size).natAbs ≤ 1 then (i, true)
    else if !found ∧ sizes.getD kick 0 ≤ here then (i, found)
    else (kick, found)) (0, false)).1

/-- The flag says that groups may be added in place of the one kicked. -/
def kickGroup (groups : ℕ → GroupQueueInfo) (pool : SelectionPool) (size : ℕ) :
    SelectionPool × Bool :=
  let place := groupToKick (pool.SelectedGroups.map fun g => (groups g).Players.length) size
  match pool.SelectedGroups[place]? with
  | some g =>
    if pool.PlayerCount ≠ 0 then
      let kicked := (groups g).Players.length
      (⟨pool.SelectedGroups.eraseIdx place, pool.PlayerCount - kicked⟩, size + 1 < kicked)
    else (pool, true)
  | none => (pool, true)

/-- Adds groups while there is room. What is left starts with the group that found none. -/
def addGroups (groups : ℕ → GroupQueueInfo) (desiredCount : ℕ) (pool : SelectionPool) :
    List ℕ → SelectionPool × List ℕ
  | [] => (pool, [])
  | g :: rest =>
    match pool.addGroup groups g desiredCount with
    | (pool, true) => addGroups groups desiredCount pool rest
    | (pool, false) => (pool, g :: rest)

def addUninvited (groups : ℕ → GroupQueueInfo) (desiredCount : ℕ) (pool : SelectionPool) :
    List ℕ → SelectionPool
  | [] => pool
  | g :: rest =>
    if (groups g).uninvited then
      match pool.addGroup groups g desiredCount with
      | (pool, true) => addUninvited groups desiredCount pool rest
      | (pool, false) => pool
    else addUninvited groups desiredCount pool rest

/-- Adds groups that are not invited until there are enough players. What is left comes after the
last one that was tried. -/
def addUntil (groups : ℕ → GroupQueueInfo) (minPlayers maxPlayers : ℕ) (pool : SelectionPool) :
    List ℕ → SelectionPool × List ℕ
  | [] => (pool, [])
  | g :: rest =>
    if (groups g).uninvited then
      let pool := (pool.addGroup groups g maxPlayers).1
      if minPlayers ≤ pool.PlayerCount then (pool, rest)
      else addUntil groups minPlayers maxPlayers pool rest
    else addUntil groups minPlayers maxPlayers pool rest

end SelectionPool

structure Filling where
  pools : Team → SelectionPool
  rest : Team → List ℕ

namespace Filling

def diff (f : Filling) (free : Team → ℕ) (t : Team) : ℤ := free t - (f.pools t).PlayerCount

/-- Kicks groups of the team that is fuller until both teams have about the same room. Every turn
kicks a group or comes further in a queue. -/
def balance (groups : ℕ → GroupQueueInfo) (free : Team → ℕ) : ℕ → Filling → Filling
  | 0, f => f
  | fuel + 1, f =>
    if 1 < (f.diff free .alliance - f.diff free .horde).natAbs ∧
        (0 < (f.pools .horde).PlayerCount ∨ 0 < (f.pools .alliance).PlayerCount) then
      let t := if f.diff free .alliance < f.diff free .horde then Team.alliance else .horde
      let size := (f.diff free t.other - f.diff free t).toNat
      let (pool, again) := (f.pools t).kickGroup groups size
      let (pool, rest) :=
        if again then
          pool.addGroups groups (free t - f.diff free t.other).toNat (f.rest t)
        else (pool, f.rest t)
      let filled : Filling := ⟨Function.update f.pools t pool, Function.update f.rest t rest⟩
      if pool.PlayerCount = 0 then
        if free t ≤ f.diff free t.other + 1 then filled
        else
          let kicked := (f.pools t.other).kickGroup groups size
          balance groups free fuel
            { filled with pools := Function.update filled.pools t.other kicked.1 }
      else balance groups free fuel filled
    else f

end Filling

namespace BattlegroundQueue

variable (q : BattlegroundQueue)

def init : BattlegroundQueue where
  m_QueuedPlayers := ∅
  m_QueuedGroups := fun _ => []
  m_SelectionPools := fun _ => .init
  groups := fun _ => ⟨[], .alliance, 0, false, 0, 0, 0, 0, 0, 0, 0, 0, 0⟩
  newGroup := 0

def setGroups (at_ : BattlegroundBracketId × GroupType) (list : List ℕ) : BattlegroundQueue :=
  { q with m_QueuedGroups := Function.update q.m_QueuedGroups at_ list }

def modifyGroup (g : ℕ) (f : GroupQueueInfo → GroupQueueInfo) : BattlegroundQueue :=
  { q with groups := Function.update q.groups g (f (q.groups g)) }

def setPool (t : Team) (pool : SelectionPool) : BattlegroundQueue :=
  { q with m_SelectionPools := Function.update q.m_SelectionPools t pool }

def initPools : BattlegroundQueue := { q with m_SelectionPools := fun _ => .init }

/-! ### Joining and leaving -/

/-- What a join handler passes to `AddGroup`. -/
structure Join where
  leader : UInt64
  team : Team
  /-- The members of the group of the leader, if he joins with it. -/
  grp : Option (List UInt64)
  bgTypeId : UInt32
  bracketId : BattlegroundBracketId
  arenaType : UInt8
  isRated : Bool
  isPremade : Bool
  arenaRating : UInt32
  matchmakerRating : UInt32
  arenateamid : UInt32
  now : UInt32

def Join.players (j : Join) : List UInt64 := j.grp.getD [j.leader]

def Join.index (j : Join) : GroupType :=
  if !j.isRated && !j.isPremade then .normal j.team else .premade j.team

def addPlayer (g : ℕ) (lastOnlineTime : UInt32) (q : BattlegroundQueue) (guid : UInt64) :
    BattlegroundQueue :=
  { q with m_QueuedPlayers := q.m_QueuedPlayers.insert guid ⟨lastOnlineTime, g⟩ }.modifyGroup g
    fun ginfo => { ginfo with Players :=
      if guid ∈ ginfo.Players then ginfo.Players
      else ginfo.Players.orderedInsert (· < ·) guid }

def addGroup (j : Join) : BattlegroundQueue :=
  let g := q.newGroup
  let ginfo : GroupQueueInfo :=
    { Players := []
      Team := j.team
      BgTypeId := j.bgTypeId
      IsRated := j.isRated
      ArenaType := j.arenaType
      ArenaTeamId := j.arenateamid
      JoinTime := j.now
      RemoveInviteTime := 0
      IsInvitedToBGInstanceGUID := 0
      ArenaTeamRating := j.arenaRating
      ArenaMatchmakerRating := j.matchmakerRating
      OpponentsTeamRating := 0
      OpponentsMatchmakerRating := 0 }
  let q := { q with groups := Function.update q.groups g ginfo, newGroup := g + 1 }
  let q := j.players.foldl (addPlayer g j.now) q
  q.setGroups (j.bracketId, j.index) (q.m_QueuedGroups (j.bracketId, j.index) ++ [g])

/-- In a bracket both queues of the team are searched; the normal one is searched last. -/
def findInBracket (g : ℕ) (bracketId : BattlegroundBracketId) : Option GroupType :=
  let team := (q.groups g).Team
  if g ∈ q.m_QueuedGroups (bracketId, .normal team) then some (.normal team)
  else if g ∈ q.m_QueuedGroups (bracketId, .premade team) then some (.premade team)
  else none

def findGroup (g : ℕ) : Option (BattlegroundBracketId × GroupType) :=
  (List.finRange 17).reverse.findSome? fun bracketId =>
    (q.findInBracket g bracketId).map fun index => (bracketId, index)

/-- The player leaves the queue and the group, and the group leaves the queue when it is empty. -/
def removeFrom (guid : UInt64) (g : ℕ) (at_ : BattlegroundBracketId × GroupType) :
    BattlegroundQueue :=
  let q := q.modifyGroup g fun ginfo => { ginfo with Players := ginfo.Players.filter (· ≠ guid) }
  let q := { q with m_QueuedPlayers := q.m_QueuedPlayers.erase guid }
  if (q.groups g).Players.isEmpty then q.setGroups at_ ((q.m_QueuedGroups at_).erase g) else q

lemma m_QueuedPlayers_removeFrom (guid : UInt64) (g : ℕ)
    (at_ : BattlegroundBracketId × GroupType) :
    (q.removeFrom guid g at_).m_QueuedPlayers = q.m_QueuedPlayers.erase guid := by
  unfold removeFrom
  dsimp only
  split <;> rfl

/-- The next player who leaves with the one who left: everyone leaves a rated match together,
until the group is invited. -/
def nextToRemove (g : ℕ) : Option UInt64 :=
  if (q.groups g).uninvited ∧ (q.groups g).IsRated then (q.groups g).Players.head? else none

/-- What the battleground and the arena team lose is not kept here. -/
def removePlayer (q : BattlegroundQueue) (guid : UInt64) : BattlegroundQueue :=
  match _ : q.m_QueuedPlayers.lookup guid with
  | none => q
  | some info =>
    match q.findGroup info.GroupInfo with
    | none => q
    | some at_ =>
      match (q.removeFrom guid info.GroupInfo at_).nextToRemove info.GroupInfo with
      | none => q.removeFrom guid info.GroupInfo at_
      | some next => removePlayer (q.removeFrom guid info.GroupInfo at_) next
termination_by q.m_QueuedPlayers.entries.length
decreasing_by
  rw [m_QueuedPlayers_removeFrom]
  exact Table.length_erase_lt _ ‹q.m_QueuedPlayers.lookup guid = some _›

/-- `RemovePlayer` on behalf of a `BGQueueRemoveEvent`, if the player is still invited as the event
knows it. -/
def removeEvent (playerGuid : UInt64) (bgInstanceGUID removeTime : UInt32) : BattlegroundQueue :=
  match q.m_QueuedPlayers.lookup playerGuid with
  | some info =>
    let ginfo := q.groups info.GroupInfo
    if ginfo.IsInvitedToBGInstanceGUID = bgInstanceGUID ∧ ginfo.RemoveInviteTime = removeTime then
      q.removePlayer playerGuid
    else q
  | none => q

/-! ### Selecting -/

def fillPlayersToBG (sv : Server) (bg : Battleground) (bracketId : BattlegroundBracketId) :
    BattlegroundQueue :=
  let filled := fun t => (q.m_SelectionPools t).addGroups q.groups (bg.freeSlotsForTeam t)
    (q.m_QueuedGroups (bracketId, .normal t))
  let f : Filling := ⟨fun t => (filled t).1, fun t => (filled t).2⟩
  -- if ofc like BG queue invitation is set in config, then we are happy
  if sv.invitationType = 0 then { q with m_SelectionPools := f.pools }
  else
    let turns := 2 * ((q.m_QueuedGroups (bracketId, .normal .alliance)).length +
      (q.m_QueuedGroups (bracketId, .normal .horde)).length) + 1
    { q with m_SelectionPools := (f.balance q.groups bg.freeSlotsForTeam turns).pools }

/-- The first group of a premade queue goes over to the normal queue of its team when its time has
run out or it has become too small. -/
def movePremade (bracketId : BattlegroundBracketId) (timeBefore : UInt32) (minPlayersPerTeam : ℕ)
    (q : BattlegroundQueue) (t : Team) : BattlegroundQueue :=
  match q.m_QueuedGroups (bracketId, .premade t) with
  | [] => q
  | g :: rest =>
    let ginfo := q.groups g
    if ginfo.uninvited ∧
        (ginfo.JoinTime < timeBefore ∨ ginfo.Players.length < minPlayersPerTeam) then
      (q.setGroups (bracketId, .normal t) (g :: q.m_QueuedGroups (bracketId, .normal t))).setGroups
        (bracketId, .premade t) rest
    else q

def checkPremadeMatch (sv : Server) (bracketId : BattlegroundBracketId)
    (minPlayersPerTeam maxPlayersPerTeam : ℕ) : BattlegroundQueue × Bool :=
  let first := fun t => (q.m_QueuedGroups (bracketId, .premade t)).find? fun g =>
    (q.groups g).uninvited
  match first .alliance, first .horde with
  | some aliGroup, some hordeGroup =>
    let ali := ((q.m_SelectionPools .alliance).addGroup q.groups aliGroup maxPlayersPerTeam).1
    let horde := ((q.m_SelectionPools .horde).addGroup q.groups hordeGroup maxPlayersPerTeam).1
    -- add groups from normal queue to size of smaller group
    let maxPlayers := min ali.PlayerCount horde.PlayerCount
    let fill := fun (pool : SelectionPool) t =>
      pool.addUninvited q.groups maxPlayers (q.m_QueuedGroups (bracketId, .normal t))
    ((q.setPool .alliance (fill ali .alliance)).setPool .horde (fill horde .horde), true)
  | _, _ =>
    let timeBefore := sv.now - sv.premadeGroupWaitForMatch
    ([Team.alliance, .horde].foldl (movePremade bracketId timeBefore minPlayersPerTeam) q, false)

def checkNormalMatch (sv : Server) (bracketId : BattlegroundBracketId)
    (minPlayers maxPlayers : ℕ) : BattlegroundQueue × Bool :=
  let filled := fun t => (q.m_SelectionPools t).addUntil q.groups minPlayers maxPlayers
    (q.m_QueuedGroups (bracketId, .normal t))
  let count := fun (pools : Team → SelectionPool) t => (pools t).PlayerCount
  let pools := fun t => (filled t).1
  let j := if count pools .horde < count pools .alliance then Team.horde else .alliance
  let tops := sv.invitationType ≠ 0 ∧ minPlayers ≤ count pools .horde ∧
    minPlayers ≤ count pools .alliance
  -- try to invite the same number of players to the team with less players
  let pools := if tops then Function.update pools j
    ((pools j).addUninvited q.groups (count pools j.other) (filled j).2) else pools
  let q := { q with m_SelectionPools := pools }
  -- do not allow to start bg with more than 2 players more on 1 faction
  if tops ∧ 2 < ((count pools .horde : ℤ) - count pools .alliance).natAbs then (q, false)
  -- allow 1v0 if debug bg
  else if sv.isTesting ∧ (count pools .alliance ≠ 0 ∨ count pools .horde ≠ 0) then (q, true)
  else (q, minPlayers ≤ count pools .alliance ∧ minPlayers ≤ count pools .horde)

def eraseAfter (mark g : ℕ) : List ℕ → List ℕ
  | [] => []
  | here :: rest =>
    if here = mark then here :: rest.erase g else here :: eraseAfter mark g rest

/-- One of the groups selected against their own faction goes over to the other. -/
def changeFaction (bracketId : BattlegroundBracketId) (t : Team) (mark : ℕ)
    (q : BattlegroundQueue) (g : ℕ) : BattlegroundQueue :=
  let q := q.modifyGroup g fun ginfo => { ginfo with Team := t.other }
  let q := q.setGroups (bracketId, .normal t.other)
    (g :: q.m_QueuedGroups (bracketId, .normal t.other))
  q.setGroups (bracketId, .normal t)
    (eraseAfter mark g (q.m_QueuedGroups (bracketId, .normal t)))

def checkSkirmishForSameFaction (sv : Server) (bracketId : BattlegroundBracketId)
    (minPlayersPerTeam : ℕ) : BattlegroundQueue × Bool :=
  let count := fun t => (q.m_SelectionPools t).PlayerCount
  if count .alliance < minPlayersPerTeam ∧ count .horde < minPlayersPerTeam then (q, false)
  else
    let t := if count .horde = minPlayersPerTeam then Team.horde else .alliance
    let q := q.setPool t.other .init
    -- the group that was added to the pool latest
    let mark := ((q.m_SelectionPools t).SelectedGroups.getLast?).getD sv.stale
    match (q.m_QueuedGroups (bracketId, .normal t)).dropWhile (· ≠ mark) with
    | [] => (q, false)
    | _ :: after =>
      let pool := SelectionPool.init.addUninvited q.groups minPlayersPerTeam after
      let q := q.setPool t.other pool
      if pool.PlayerCount ≠ minPlayersPerTeam then (q, false)
      else (pool.SelectedGroups.foldl (changeFaction bracketId t mark) q, true)

/-! ### Inviting -/

/-- Packets, events and average waiting times are not kept here. -/
def inviteGroupToBG (sv : Server) (g : ℕ) (bg : Battleground) (side : Team) : BattlegroundQueue :=
  q.modifyGroup g fun ginfo =>
    if ginfo.uninvited then
      { ginfo with
        Team := side
        IsInvitedToBGInstanceGUID := bg.instanceID
        RemoveInviteTime := sv.now + INVITE_ACCEPT_WAIT_TIME }
    else { ginfo with Team := side }

def invitePools (sv : Server) (bg : Battleground) : BattlegroundQueue :=
  [Team.alliance, .horde].foldl (fun q t =>
    (q.m_SelectionPools t).SelectedGroups.foldl
      (fun q g => q.inviteGroupToBG sv g bg (q.groups g).Team) q) q

/-- What an update is called with. -/
structure QueueUpdate where
  bgTypeId : UInt32
  bracketId : BattlegroundBracketId
  arenaType : UInt8
  isRated : Bool
  arenaRating : UInt32

/-- DO NOT allow queue manager to invite new player to rated games. -/
def QueueUpdate.fills (u : QueueUpdate) (bg : Battleground) : Bool :=
  !bg.isRated && bg.typeID = u.bgTypeId && bg.bracketId = u.bracketId && bg.isOpen

def fillRunning (sv : Server) (u : QueueUpdate) : BattlegroundQueue :=
  sv.bgFreeSlotQueue.foldl (fun q bg =>
    if u.fills bg then (q.initPools.fillPlayersToBG sv bg u.bracketId).invitePools sv bg else q) q

/-- The rating the opponents are searched by: of the team just added, or of the one that has waited
longest. -/
def ratingOf (u : QueueUpdate) : Option UInt32 :=
  if u.arenaRating ≠ 0 then some u.arenaRating
  else
    let front := fun t => ((q.m_QueuedGroups (u.bracketId, .premade t)).head?).map q.groups
    match front .alliance, front .horde with
    | some front1, some front2 =>
      if front1.JoinTime < front2.JoinTime then some front1.ArenaMatchmakerRating
      else some front2.ArenaMatchmakerRating
    | some front1, none => some front1.ArenaMatchmakerRating
    | none, some front2 => some front2.ArenaMatchmakerRating
    | none, none => none

/-- A team that may play now: near enough in rating, or it has waited long enough. -/
def suits (sv : Server) (arenaRating : UInt32) (g : ℕ) : Bool :=
  let ginfo := q.groups g
  let arenaMinRating :=
    if arenaRating ≤ sv.maxRatingDifference then 0 else arenaRating - sv.maxRatingDifference
  let arenaMaxRating := arenaRating + sv.maxRatingDifference
  let discardTime := sv.now - sv.ratingDiscardTimer
  ginfo.uninvited && (decide (arenaMinRating ≤ ginfo.ArenaMatchmakerRating ∧
    ginfo.ArenaMatchmakerRating ≤ arenaMaxRating) || decide (ginfo.JoinTime < discardTime))

/-- The two teams of the next rated game: of both factions, or of the only one that has any. -/
def findTeams (sv : Server) (u : QueueUpdate) (arenaRating : UInt32) : Option (ℕ × ℕ) :=
  let list := fun t => q.m_QueuedGroups (u.bracketId, .premade t)
  let first := fun t => (list t).find? (q.suits sv arenaRating)
  let second := fun t g => ((list t).dropWhile (· ≠ g)).find? fun h =>
    q.suits sv arenaRating h && (q.groups g).ArenaTeamId != (q.groups h).ArenaTeamId
  match first .alliance, first .horde with
  | some g, some h => some (g, h)
  | some g, none => (second .alliance g).map fun h => (g, h)
  | none, some g => (second .horde g).map fun h => (g, h)
  | none, none => none

/-- A team whose faction will change goes to the queue of the other faction. -/
def moveTeam (bracketId : BattlegroundBracketId) (g : ℕ) (t : Team) : BattlegroundQueue :=
  if (q.groups g).Team ≠ t then
    let q := q.setGroups (bracketId, .premade t) (g :: q.m_QueuedGroups (bracketId, .premade t))
    q.setGroups (bracketId, .premade t.other)
      ((q.m_QueuedGroups (bracketId, .premade t.other)).erase g)
  else q

def setOpponents (g h : ℕ) : BattlegroundQueue :=
  let ratings := fun i (ginfo : GroupQueueInfo) => { ginfo with
    OpponentsTeamRating := (q.groups i).ArenaTeamRating
    OpponentsMatchmakerRating := (q.groups i).ArenaMatchmakerRating }
  (q.modifyGroup g (ratings h)).modifyGroup h (ratings g)

def startRated (sv : Server) (u : QueueUpdate) : BattlegroundQueue :=
  match q.ratingOf u with
  | none => q
  | some arenaRating =>
    match q.findTeams sv u arenaRating, sv.createRated with
    | some (aTeam, hTeam), some arena =>
      let q := q.setOpponents aTeam hTeam
      let q := (q.moveTeam u.bracketId aTeam .alliance).moveTeam u.bracketId hTeam .horde
      (q.inviteGroupToBG sv aTeam arena .alliance).inviteGroupToBG sv hTeam arena .horde
    | _, _ => q

/-- Whether a game of two premade groups starts. No more is done when none can be created. -/
def startPremade (sv : Server) (u : QueueUpdate) (minPlayers maxPlayers : ℕ) :
    BattlegroundQueue × Bool :=
  match q.checkPremadeMatch sv u.bracketId minPlayers maxPlayers with
  | (q, true) =>
    match sv.createPremade with
    | some bg => ((q.invitePools sv bg).initPools, true)
    | none => (q, false)
  | (q, false) => (q, true)

def startNormal (sv : Server) (u : QueueUpdate) (isArena : Bool) (minPlayers maxPlayers : ℕ) :
    BattlegroundQueue :=
  let (q, found) :=
    match q.checkNormalMatch sv u.bracketId minPlayers maxPlayers with
    | (q, true) => (q, true)
    | (q, false) =>
      if isArena then q.checkSkirmishForSameFaction sv u.bracketId minPlayers else (q, false)
  match found, sv.createNormal with
  | true, some bg => q.invitePools sv bg
  | _, _ => q

def startNew (sv : Server) (u : QueueUpdate) (template : BattlegroundTemplate) :
    BattlegroundQueue :=
  -- full teams for arena matches
  let maxPlayers := if template.isArena then u.arenaType.toNat else template.maxPlayersPerTeam
  let minPlayers :=
    if template.isArena then if sv.isArenaTesting then 1 else u.arenaType.toNat
    else if sv.isTesting then 1 else template.minPlayersPerTeam
  let (q, goesOn) :=
    if template.isArena then (q.initPools, true)
    else q.initPools.startPremade sv u minPlayers maxPlayers
  if !goesOn then q
  else if !u.isRated then q.startNormal sv u template.isArena minPlayers maxPlayers
  else if template.isArena then q.startRated sv u
  else q

def isEmptyIn (bracketId : BattlegroundBracketId) : Bool :=
  (List.finRange 4).all fun index => (q.m_QueuedGroups (bracketId, index)).isEmpty

def battlegroundQueueUpdate (sv : Server) (u : QueueUpdate) : BattlegroundQueue :=
  if q.isEmptyIn u.bracketId then q
  else
    let q := q.fillRunning sv u
    match sv.template with
    | some template => if template.hasBracketEntry then q.startNew sv u template else q
    | none => q

/-- What is asked of a battleground queue. -/
inductive Request where
  | addGroup (j : Join)
  | removePlayer (guid : UInt64)
  | removeEvent (playerGuid : UInt64) (bgInstanceGUID removeTime : UInt32)
  | update (sv : Server) (u : QueueUpdate)

/-- The join handlers check that nobody of the group, to which its leader belongs, is queued. -/
def Join.Allowed (j : Join) : Prop :=
  j.leader ∈ j.players ∧ ∀ guid ∈ j.players, q.m_QueuedPlayers.lookup guid = none

instance (j : Join) : Decidable (j.Allowed q) :=
  inferInstanceAs (Decidable (_ ∧ ∀ _ ∈ _, (_ : Option PlayerQueueInfo) = none))

def step (q : BattlegroundQueue) : Request → BattlegroundQueue
  | .addGroup j => if j.Allowed q then q.addGroup j else q
  | .removePlayer guid => q.removePlayer guid
  | .removeEvent playerGuid bgInstanceGUID removeTime =>
    q.removeEvent playerGuid bgInstanceGUID removeTime
  | .update sv u => q.battlegroundQueueUpdate sv u

end BattlegroundQueue

end WorldServer.Battlegrounds
