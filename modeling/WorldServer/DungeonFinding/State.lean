import WorldServer.DungeonFinding.Roles
import WorldServer.Lib.Table

/-!
# The dungeon finder's data

Players queue for dungeons alone or with their group. A queue entry goes by the guid of the player
or of the group; a proposal joins entries to a full group and waits for the players' answers.
-/
namespace WorldServer.DungeonFinding

open WorldServer.Lib

def MAXGROUPSIZE : UInt8 := 5

def LFG_TIME_PROPOSAL : ℕ := 45

def HIGHGUID_CORPSE : UInt64 := 0xF101
def HIGHGUID_AREATRIGGER : UInt64 := 0xF102
def HIGHGUID_GROUP : UInt64 := 0x1F5

def GUID_HIPART (guid : UInt64) : UInt64 :=
  let t := (guid >>> 48) &&& 0x0000FFFF
  if t = HIGHGUID_CORPSE ∨ t = HIGHGUID_AREATRIGGER then t else (t >>> 4) &&& 0x00000FFF

def GUID_LOPART (guid : UInt64) : UInt32 := guid.toUInt32

def IS_GROUP_GUID (guid : UInt64) : Bool := GUID_HIPART guid = HIGHGUID_GROUP

inductive LfgState where
  | none
  | rolecheck
  | queued
  | proposal
  | boot
  | dungeon
  | finishedDungeon
  | raidbrowser
  deriving DecidableEq, Repr

inductive LfgAnswer where
  | pending
  | deny
  | agree
  deriving DecidableEq, Repr

inductive LfgProposalState where
  | initiating
  | failed
  | success
  deriving DecidableEq, Repr

/-- The compatibilities in their order: what comes before `withLessPlayers` is incompatible. -/
inductive LfgCompatibility where
  | pending
  | wrongGroupSize
  | tooMuchPlayers
  | multipleLfgGroups
  | hasIgnores
  | noRoles
  | noDungeons
  | withLessPlayers
  | badStates
  | isMatch
  deriving DecidableEq, Repr

def LfgCompatibility.incompatible : LfgCompatibility → Bool
  | .withLessPlayers | .badStates | .isMatch => false
  | _ => true

structure LfgPlayerData where
  m_State : LfgState
  m_OldState : LfgState
  m_Team : UInt8
  m_Group : UInt64

structure LfgGroupData where
  m_State : LfgState
  m_OldState : LfgState
  m_Leader : UInt64
  m_Players : List UInt64

structure LfgProposalPlayer where
  role : UInt8
  accept : LfgAnswer
  group : UInt64
  deriving DecidableEq

structure LfgProposal where
  id : UInt32
  dungeonId : UInt32
  state : LfgProposalState
  group : UInt64
  leader : UInt64
  cancelTime : ℕ
  isNew : Bool
  queues : List UInt64
  /-- By guid, in the order of the guids. -/
  players : List (UInt64 × LfgProposalPlayer)
  deriving DecidableEq

structure LfgQueueData where
  dungeons : List UInt32
  roles : LfgRolesMap

abbrev Guids := List Char

structure LFGQueue where
  QueueDataStore : Table UInt64 LfgQueueData
  CompatibleMapStore : Table Guids LfgCompatibility
  newToQueueStore : List UInt64
  currentQueueStore : List UInt64

structure Proposals where
  ProposalsStore : Table UInt32 LfgProposal
  m_lfgProposalId : UInt32

/-- The stores of players and groups. What is not in them reads as a fresh entry. -/
structure Stores where
  PlayersStore : UInt64 → LfgPlayerData
  GroupsStore : UInt64 → LfgGroupData

namespace Stores

variable (stores : Stores)

def GetState (guid : UInt64) : LfgState :=
  if IS_GROUP_GUID guid then (stores.GroupsStore guid).m_State
  else (stores.PlayersStore guid).m_State

def GetOldState (guid : UInt64) : LfgState :=
  if IS_GROUP_GUID guid then (stores.GroupsStore guid).m_OldState
  else (stores.PlayersStore guid).m_OldState

def IsLfgGroup (guid : UInt64) : Bool :=
  guid ≠ 0 && IS_GROUP_GUID guid && (stores.GroupsStore guid).m_OldState ≠ .none

def AllQueued (check : List UInt64) : Bool :=
  !check.isEmpty && check.all fun guid => stores.GetState guid = .queued

end Stores

/-- The world around the dungeon finder. -/
structure World where
  now : ℕ
  social : UInt64 → Option (UInt32 → Bool)
  pick : UInt32 → ℕ
  coin : UInt32 → UInt64 → Bool

def World.HasIgnore (w : World) (guid1 guid2 : UInt64) : Bool :=
  match w.social guid1, w.social guid2 with
  | some plr1, some plr2 => plr1 (GUID_LOPART guid2) || plr2 (GUID_LOPART guid1)
  | _, _ => false

lemma World.HasIgnore_symm (w : World) (guid1 guid2 : UInt64) :
    w.HasIgnore guid1 guid2 = w.HasIgnore guid2 guid1 := by
  unfold HasIgnore
  cases w.social guid1 <;> cases w.social guid2 <;> simp [Bool.or_comm]

end WorldServer.DungeonFinding
