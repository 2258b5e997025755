import WorldServer.DungeonFinding.Finder

/-!
# The manager

Players and groups join, leave, check roles, answer proposals and vote to kick somebody. An update
removes what has timed out, looks for new groups, and tells the players of a new proposal.

What happens in the game when a group is made or somebody is kicked (members leave a group and
join another) changes the stores of players and groups by scripts; it is a parameter here.
-/
namespace WorldServer.DungeonFinding

open WorldServer.Lib

def LFG_TIME_ROLECHECK : ℕ := 45000
def LFG_TIME_BOOT : ℕ := 120
def LFG_GROUP_KICK_VOTES_NEEDED : UInt8 := 3

inductive LfgRoleCheckState where
  | default
  | finished
  | initialiting
  | missingRole
  | wrongRoles
  | aborted
  | noRole
  deriving DecidableEq

structure LfgRoleCheck where
  cancelTime : ℕ
  roles : LfgRolesMap
  state : LfgRoleCheckState
  dungeons : List UInt32

structure LfgPlayerBoot where
  cancelTime : ℕ
  votes : Table UInt64 LfgAnswer
  victim : UInt64

structure LFGMgr extends Finder where
  RoleChecksStore : Table UInt64 LfgRoleCheck
  BootsStore : Table UInt64 LfgPlayerBoot
  /-- The ids of the queues, in order. A queue that is not used yet is empty. -/
  queueIds : List UInt8
  enabled : Bool
  sent : List (UInt64 × UInt32)

/-- A party as the player who joins sees it. -/
structure Party where
  gguid : UInt64
  memberCount : ℕ
  members : List UInt64

structure JoinRequest where
  guid : UInt64
  grp : Option Party
  roles : UInt8
  dungeons : List UInt32
  isRaid : Bool
  restricted : Bool

def JoinRequest.gguid (request : JoinRequest) : UInt64 :=
  match request.grp with
  | some grp => grp.gguid
  | none => request.guid

def Party.refused (grp : Party) : Bool :=
  MAXGROUPSIZE.toNat < grp.memberCount ∨ grp.members.length ≠ grp.memberCount

namespace LfgRoleCheck

def select (roleCheck : LfgRoleCheck) (guid : UInt64) (roles : UInt8) : LfgRoleCheck :=
  if guid = 0 then { roleCheck with state := .aborted }
  else if roles < PLAYER_ROLE_TANK then { roleCheck with state := .noRole }
  else
    let chosen := roleCheck.roles.set guid roles
    if chosen.all fun it => it.2 ≠ PLAYER_ROLE_NONE then
      { roleCheck with
        roles := chosen
        state := if (CheckGroupRoles chosen).2 then .finished else .wrongRoles }
    else { roleCheck with roles := chosen }

def notify (state : LfgRoleCheckState) (stores : Stores) (guid : UInt64) : Stores :=
  match state with
  | .initialiting => stores
  | .finished => stores.SetState guid .queued
  | _ => stores.RestoreState guid

end LfgRoleCheck

namespace LfgPlayerBoot

variable (boot : LfgPlayerBoot) (guid : UInt64) (accept : Bool)

/-- `votes[guid]` makes a denial of a missing vote. -/
def vote : LfgAnswer := (boot.votes.lookup guid).getD .deny

def answer : Table UInt64 LfgAnswer :=
  boot.votes.insert guid
    (if boot.vote guid ≠ .pending then boot.vote guid else if accept then .agree else .deny)

def votesNum (votes : Table UInt64 LfgAnswer) : UInt8 :=
  UInt8.ofNat (Table.count (· ≠ .pending) votes)

def agreeNum (votes : Table UInt64 LfgAnswer) : UInt8 :=
  UInt8.ofNat (Table.count (· = .agree) votes)

/-- The vote goes on. -/
def undecided : Prop :=
  boot.vote guid ≠ .pending ∨
    agreeNum (boot.answer guid accept) < LFG_GROUP_KICK_VOTES_NEEDED ∧
      (votesNum (boot.answer guid accept)).toNat <
        (agreeNum (boot.answer guid accept)).toNat + LFG_GROUP_KICK_VOTES_NEEDED.toNat

instance : Decidable (boot.undecided guid accept) := by
  unfold undecided
  infer_instance

end LfgPlayerBoot

namespace LFGMgr

variable (w : World) (m : LFGMgr)

def withFinder (f : Finder) : LFGMgr := { m with toFinder := f }

def SendLfgUpdateProposal (id : UInt32) (guid : UInt64) : LFGMgr :=
  if (w.social guid).isSome then { m with sent := (guid, id) :: m.sent } else m

def sendAll (id : UInt32) (guids : List UInt64) : LFGMgr :=
  guids.foldl (fun m guid => m.SendLfgUpdateProposal w id guid) m

def GetGroup (guid : UInt64) : UInt64 := (m.stores.PlayersStore guid).m_Group
def GetLeader (gguid : UInt64) : UInt64 := (m.stores.GroupsStore gguid).m_Leader
def GetPlayers (gguid : UInt64) : List UInt64 := (m.stores.GroupsStore gguid).m_Players

def SetStates (guids : List UInt64) (state : LfgState) : LFGMgr :=
  { m with stores := guids.foldl (fun stores guid => stores.SetState guid state) m.stores }

/-! ### Role checks and joins -/

def UpdateRoleCheck (gguid guid : UInt64) (roles : UInt8) : LFGMgr :=
  if gguid = 0 then m
  else
    match m.RoleChecksStore.lookup gguid with
    | none => m
    | some before =>
      let roleCheck := before.select guid roles
      let stores := (roleCheck.roles.map Prod.fst).foldl (LfgRoleCheck.notify roleCheck.state)
        m.stores
      match roleCheck.state with
      | .initialiting =>
        { m with
          stores, RoleChecksStore := m.RoleChecksStore.insert gguid roleCheck }
      | .finished =>
        let stores := stores.SetState gguid .queued
        let m := { m with stores, RoleChecksStore := m.RoleChecksStore.erase gguid }
        m.withFinder
          (m.AddQueueData (stores.GetQueueId gguid) gguid roleCheck.dungeons roleCheck.roles)
      | _ =>
        { m with
          stores := stores.RestoreState gguid
          RoleChecksStore := m.RoleChecksStore.erase gguid }

/-- A new role check keeps the roles of one that is still open. -/
def beginRoleCheck (grp : Party) (dungeons : List UInt32) : LFGMgr :=
  let before := ((m.RoleChecksStore.lookup grp.gguid).map LfgRoleCheck.roles).getD []
  let roleCheck : LfgRoleCheck :=
    { cancelTime := w.now + LFG_TIME_ROLECHECK
      roles := grp.members.foldl (fun roles pguid => roles.set pguid PLAYER_ROLE_NONE) before
      state := .initialiting
      dungeons }
  { m.SetStates (grp.gguid :: grp.members) .rolecheck with
    RoleChecksStore := m.RoleChecksStore.insert grp.gguid roleCheck }

/-- A player or group that is queued leaves the queue, also when the request is refused. -/
def leaveQueue (gguid : UInt64) : LFGMgr :=
  if m.stores.GetState gguid = .queued then
    m.withFinder (m.RemoveFromQueue (m.stores.GetQueueId gguid) gguid)
  else m

def JoinLfg (request : JoinRequest) : LFGMgr :=
  let m := m.leaveQueue request.gguid
  if request.restricted ∨ request.dungeons.isEmpty then m
  else
    match request.grp with
    | some grp =>
      if grp.refused ∨ request.isRaid then m
      else
        (m.beginRoleCheck w grp request.dungeons).UpdateRoleCheck grp.gguid request.guid
          request.roles
    | none =>
      if request.isRaid then m
      else
        let m := m.withFinder (m.AddQueueData (m.stores.GetQueueId request.guid) request.guid
          request.dungeons [(request.guid, request.roles)])
        { m with stores := m.stores.SetState request.guid .queued }

/-! ### Proposals -/

def closeProposal (id : UInt32) (type : RemovalType) : LFGMgr :=
  match m.proposals.ProposalsStore.lookup id with
  | none => m
  | some proposal =>
    (m.withFinder (m.RemoveProposal id type)).sendAll w id (proposal.players.map Prod.fst)

/-- Everybody agrees: the entries leave the queue of the player whose answer came last, and
`MakeNewGroup` changes the stores by `regroup`. -/
def succeedProposal (regroup : Stores → Stores) (id : UInt32) (guid : UInt64)
    (proposal : LfgProposal) : LFGMgr :=
  let queueId := m.stores.GetQueueId guid
  let m := m.SetStates (proposal.players.map Prod.fst) .dungeon
  let queue := proposal.queues.foldl LFGQueue.RemoveFromQueue (m.QueuesStore queueId)
  { m.withFinder (m.withQueue queueId queue) with
    stores := regroup m.stores
    proposals := { m.proposals with ProposalsStore := m.proposals.ProposalsStore.erase id } }

def UpdateProposal (regroup : Stores → Stores) (id : UInt32) (guid : UInt64) (accept : Bool) :
    LFGMgr :=
  match m.proposals.ProposalsStore.lookup id with
  | none => m
  | some before =>
    if guid ∉ before.players.map Prod.fst then m
    else
      let m := m.withFinder (m.setAnswer id guid (if accept then .agree else .deny))
      if !accept then m.closeProposal w id .declined
      else
        match m.proposals.ProposalsStore.lookup id with
        | none => m
        | some proposal =>
          let guids := proposal.players.map Prod.fst
          if ¬ proposal.players.all fun player => player.2.accept = .agree then
            m.sendAll w id guids
          else
            let m := if proposal.state ≠ .success then m.sendAll w id guids else m
            m.succeedProposal regroup id guid proposal

def proposalOf (pguid : UInt64) : Option UInt32 :=
  (m.proposals.ProposalsStore.sorted.find? fun it =>
    it.2.players.any fun player => player.1 = pguid).map Prod.fst

def LeaveLfg (guid : UInt64) : LFGMgr :=
  let gguid := if IS_GROUP_GUID guid then guid else m.GetGroup guid
  match m.stores.GetState guid with
  | .queued =>
    if gguid ≠ 0 then
      let m := m.withFinder (m.RemoveFromQueue (m.stores.GetQueueId gguid) gguid)
      m.SetStates (gguid :: m.GetPlayers gguid) .none
    else
      let m := m.withFinder (m.RemoveFromQueue (m.stores.GetQueueId guid) guid)
      m.SetStates [guid] .none
  | .rolecheck => if gguid ≠ 0 then m.UpdateRoleCheck gguid 0 PLAYER_ROLE_NONE else m
  | .proposal =>
    let pguid := if gguid = guid then m.GetLeader gguid else guid
    match m.proposalOf pguid with
    | none => m
    | some id => (m.withFinder (m.setAnswer id pguid .deny)).closeProposal w id .declined
  | .none | .raidbrowser => m
  | .dungeon | .finishedDungeon | .boot => if guid ≠ gguid then m.SetStates [guid] .none else m

/-! ### Votes to kick -/

def InitBoot (gguid kicker victim : UInt64) : LFGMgr :=
  let players := m.GetPlayers gguid
  let before := ((m.BootsStore.lookup gguid).map LfgPlayerBoot.votes).getD ∅
  let votes := players.foldl (fun votes guid => votes.insert guid LfgAnswer.pending) before
  { m.SetStates (gguid :: players) .boot with
    BootsStore := m.BootsStore.insert gguid
      { cancelTime := w.now + LFG_TIME_BOOT
        votes := (votes.insert victim .deny).insert kicker .agree
        victim } }

def closeBoot (gguid : UInt64) (guids : List UInt64) : LFGMgr :=
  { (m.SetStates guids .dungeon).SetStates [gguid] .dungeon with
    BootsStore := m.BootsStore.erase gguid }

def UpdateBoot (kick : Stores → Stores) (guid : UInt64) (accept : Bool) : LFGMgr :=
  let gguid := m.GetGroup guid
  if gguid = 0 then m
  else
    match m.BootsStore.lookup gguid with
    | none => m
    | some boot =>
      let votes := boot.answer guid accept
      if boot.undecided guid accept then
        { m with BootsStore := m.BootsStore.insert gguid { boot with votes } }
      else
        let m := m.closeBoot gguid (votes.keys.filter (· ≠ boot.victim))
        if LfgPlayerBoot.agreeNum votes = LFG_GROUP_KICK_VOTES_NEEDED then
          { m with stores := kick m.stores }
        else m

/-! ### Updates -/

def expireRoleCheck (m : LFGMgr) (it : UInt64 × LfgRoleCheck) : LFGMgr :=
  if w.now < it.2.cancelTime then m
  else
    { m with
      stores := ((it.2.roles.map Prod.fst).foldl Stores.RestoreState m.stores).RestoreState it.1
      RoleChecksStore := m.RoleChecksStore.erase it.1 }

def expireProposal (m : LFGMgr) (it : UInt32 × LfgProposal) : LFGMgr :=
  if it.2.cancelTime < w.now then m.closeProposal w it.1 .failed else m

def expireBoot (m : LFGMgr) (it : UInt64 × LfgPlayerBoot) : LFGMgr :=
  if it.2.cancelTime < w.now then m.closeBoot it.1 it.2.votes.keys else m

def expire : LFGMgr :=
  let m := m.RoleChecksStore.sorted.foldl (expireRoleCheck w) m
  let m := m.proposals.ProposalsStore.sorted.foldl (expireProposal w) m
  m.BootsStore.sorted.foldl (expireBoot w) m

/-- A player of a proposal is told, and his group as well has a proposal. -/
def announceTo (id : UInt32) (m : LFGMgr) (guid : UInt64) : LFGMgr :=
  let m := m.SetStates [guid] .proposal
  let gguid := m.GetGroup guid
  let m := if gguid ≠ 0 then m.SetStates [gguid] .proposal else m
  m.SendLfgUpdateProposal w id guid

def announce (regroup : Stores → Stores) (m : LFGMgr) (it : UInt32 × LfgProposal) : LFGMgr :=
  let guids := it.2.players.map Prod.fst
  let m := guids.foldl (announceTo w it.1) m
  if it.2.state = .success then m.UpdateProposal w regroup it.1 (guids.getLastD 0) true else m

def lastProposals : List (UInt32 × LfgProposal) :=
  match m.proposals.ProposalsStore.lookup m.proposals.m_lfgProposalId with
  | none => []
  | some _ =>
    m.proposals.ProposalsStore.sorted.filter fun it => m.proposals.m_lfgProposalId ≤ it.1

def Update (regroup : Stores → Stores) : LFGMgr :=
  if !m.enabled then m
  else
    let m := m.expire w
    let lastProposalId := m.proposals.m_lfgProposalId
    let m := m.withFinder (m.queueIds.foldl (fun f queueId => f.FindGroups w queueId) m.toFinder)
    if lastProposalId ≠ m.proposals.m_lfgProposalId then m.lastProposals.foldl (announce w regroup) m
    else m

end LFGMgr

/-- What may happen. Scripts change the stores when groups form and dissolve. -/
inductive LFGStep where
  | join (w : World) (request : JoinRequest)
  | leave (w : World) (guid : UInt64)
  | roleCheck (gguid guid : UInt64) (roles : UInt8)
  | update (w : World) (regroup : Stores → Stores)
  | answer (w : World) (regroup : Stores → Stores) (id : UInt32) (guid : UInt64) (accept : Bool)
  | initBoot (w : World) (gguid kicker victim : UInt64)
  | updateBoot (kick : Stores → Stores) (guid : UInt64) (accept : Bool)
  | scripts (change : Stores → Stores)

namespace LFGMgr

def step (m : LFGMgr) : LFGStep → LFGMgr
  | .join w request => m.JoinLfg w request
  | .leave w guid => m.LeaveLfg w guid
  | .roleCheck gguid guid roles => m.UpdateRoleCheck gguid guid roles
  | .update w regroup => m.Update w regroup
  | .answer w regroup id guid accept => m.UpdateProposal w regroup id guid accept
  | .initBoot w gguid kicker victim => m.InitBoot w gguid kicker victim
  | .updateBoot kick guid accept => m.UpdateBoot kick guid accept
  | .scripts change => { m with stores := change m.stores }

end LFGMgr

end WorldServer.DungeonFinding
