import WorldServer.DungeonFinding.Queue
import WorldServer.Lib.Run

/-!
# Queues, proposals and states

The manager keeps one queue for each team, the open proposals and the states of players and groups.
A proposal that fails gives its entries back: the groups of those who did not agree leave the
queue, and the others become new entries again.
-/
namespace WorldServer.DungeonFinding

open WorldServer.Lib

namespace Stores

variable (stores : Stores)

/-- The states that are restored later are no longer running ones. -/
def kept (state old : LfgState) : LfgState :=
  match state with
  | .none | .finishedDungeon | .dungeon => state
  | _ => old

def SetState (guid : UInt64) (state : LfgState) : Stores :=
  if IS_GROUP_GUID guid then
    { stores with
      GroupsStore := Function.update stores.GroupsStore guid
        { stores.GroupsStore guid with
          m_State := state, m_OldState := kept state (stores.GroupsStore guid).m_OldState } }
  else
    { stores with
      PlayersStore := Function.update stores.PlayersStore guid
        { stores.PlayersStore guid with
          m_State := state, m_OldState := kept state (stores.PlayersStore guid).m_OldState } }

def RestoreState (guid : UInt64) : Stores :=
  if IS_GROUP_GUID guid then
    { stores with
      GroupsStore := Function.update stores.GroupsStore guid
        { stores.GroupsStore guid with m_State := (stores.GroupsStore guid).m_OldState } }
  else
    { stores with
      PlayersStore := Function.update stores.PlayersStore guid
        { stores.PlayersStore guid with m_State := (stores.PlayersStore guid).m_OldState } }

def GetTeam (guid : UInt64) : UInt8 := (stores.PlayersStore guid).m_Team

def GetQueueId (guid : UInt64) : UInt8 :=
  let pguid := if IS_GROUP_GUID guid then (stores.GroupsStore guid).m_Players.headD 0 else 0
  if pguid ≠ 0 then stores.GetTeam pguid else stores.GetTeam guid

end Stores

/-- Why a proposal is removed: `LFG_UPDATETYPE_PROPOSAL_FAILED` when the time is over, and
`LFG_UPDATETYPE_PROPOSAL_DECLINED`. -/
inductive RemovalType where
  | failed
  | declined
  deriving DecidableEq

namespace LfgProposal

def entryOf (player : UInt64 × LfgProposalPlayer) : UInt64 :=
  if player.2.group ≠ 0 then player.2.group else player.1

def answered (type : RemovalType) (player : UInt64 × LfgProposalPlayer) :
    UInt64 × LfgProposalPlayer :=
  if type = .failed ∧ player.2.accept = .pending then (player.1, { player.2 with accept := .deny })
  else player

def toRemove (proposal : LfgProposal) (type : RemovalType) : List UInt64 :=
  (((proposal.players.map (answered type)).filter fun player =>
    player.2.accept ≠ .agree ∧ (player.2.accept = .deny ∨ type = .failed)).map entryOf).dedup

end LfgProposal

structure Finder where
  QueuesStore : UInt8 → LFGQueue
  proposals : Proposals
  stores : Stores

namespace Finder

variable (f : Finder)

def withQueue (queueId : UInt8) (queue : LFGQueue) : Finder :=
  { f with QueuesStore := Function.update f.QueuesStore queueId queue }

def AddQueueData (queueId : UInt8) (guid : UInt64) (dungeons : List UInt32)
    (rolesMap : LfgRolesMap) : Finder :=
  f.withQueue queueId ((f.QueuesStore queueId).AddQueueData guid dungeons rolesMap)

def RemoveFromQueue (queueId : UInt8) (guid : UInt64) : Finder :=
  f.withQueue queueId ((f.QueuesStore queueId).RemoveFromQueue guid)

def matching (queueId : UInt8) : Matching := ⟨f.QueuesStore queueId, f.proposals⟩

def FindGroups (w : World) (queueId : UInt8) : Finder :=
  let s := ((f.matching queueId).FindGroups w f.stores).1
  { f.withQueue queueId s.queue with proposals := s.proposals }

/-- The states after a proposal: the old ones for the entries that leave the queue. -/
def notifyRemoved (toRemove : List UInt64) (stores : Stores)
    (player : UInt64 × LfgProposalPlayer) : Stores :=
  let guid := player.1
  let gguid := LfgProposal.entryOf player
  if gguid ∈ toRemove then
    let stores := stores.RestoreState guid
    if gguid ≠ guid then stores.RestoreState player.2.group else stores
  else
    let stores := stores.SetState guid .queued
    if gguid ≠ guid then stores.SetState gguid .queued else stores

/-- All entries of a failed proposal are in the queue of its first player. -/
def RemoveProposal (id : UInt32) (type : RemovalType) : Finder :=
  match f.proposals.ProposalsStore.lookup id with
  | none => f
  | some proposal =>
    let toRemove := proposal.toRemove type
    let stores := (proposal.players.map (LfgProposal.answered type)).foldl (notifyRemoved toRemove)
      f.stores
    let queueId := stores.GetQueueId ((proposal.players.map Prod.fst).headD 0)
    let queue := toRemove.foldl LFGQueue.RemoveFromQueue (f.QueuesStore queueId)
    let queues := proposal.queues.filter (· ∉ toRemove)
    { f.withQueue queueId (queues.foldl LFGQueue.AddToQueue queue) with
      proposals :=
        { f.proposals with ProposalsStore := f.proposals.ProposalsStore.erase id }
      stores }

def setAnswer (id : UInt32) (guid : UInt64) (accept : LfgAnswer) : Finder :=
  match f.proposals.ProposalsStore.lookup id with
  | none => f
  | some proposal =>
    { f with
      proposals :=
        { f.proposals with
          ProposalsStore := f.proposals.ProposalsStore.insert id
            { proposal with
              players := proposal.players.map fun player =>
                if player.1 = guid then (player.1, { player.2 with accept }) else player } } }

end Finder

/-- What may happen to queues and proposals. The states of players and groups change in any way. -/
inductive FinderStep where
  | addQueueData (queueId : UInt8) (guid : UInt64) (dungeons : List UInt32) (rolesMap : LfgRolesMap)
  | removeFromQueue (queueId : UInt8) (guid : UInt64)
  | findGroups (w : World) (queueId : UInt8)
  | removeProposal (id : UInt32) (type : RemovalType)
  | answer (id : UInt32) (guid : UInt64) (accept : LfgAnswer)
  | setStores (stores : Stores)

namespace Finder

def step (f : Finder) : FinderStep → Finder
  | .addQueueData queueId guid dungeons rolesMap => f.AddQueueData queueId guid dungeons rolesMap
  | .removeFromQueue queueId guid => f.RemoveFromQueue queueId guid
  | .findGroups w queueId => f.FindGroups w queueId
  | .removeProposal id type => f.RemoveProposal id type
  | .answer id guid accept => f.setAnswer id guid accept
  | .setStores stores => { f with stores }

end Finder

end WorldServer.DungeonFinding
