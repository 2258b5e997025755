import WorldServer.Lib.Run
import WorldServer.Lib.Statements

/-!
# The raids of the freedom commands

A raid is the set of rows with the guid of its leader. Every command asks the table whether the
player is in a raid, leads one or is an assistant, and then writes rows. An invite is kept at the
player who was invited, for five minutes.
-/
namespace WorldServer.FreedomRaids

open WorldServer.Lib

abbrev Player := {guid : UInt32 // guid ≠ 0}

/-- The columns of `freedom_raid` beside its key, which is the leader and the member -/
structure RaidRow where
  subgroup : String
  assistant : UInt8
deriving DecidableEq, Repr

abbrev RaidTable := Table (UInt32 × UInt32) RaidRow

def DEFAULT_SUBGROUP : String := "DEFAULT"

def inviteTime : ℕ := 5 * 60

namespace FRaid

variable (rows : RaidTable)

def IsInRaid (player_guid : UInt32) : Bool := rows.entries.any fun e => e.1.2 = player_guid

def IsRaidLeader (player_guid : UInt32) : Bool := rows.entries.any fun e => e.1.1 = player_guid

def IsAssistant (player_guid : UInt32) : Bool :=
  rows.entries.any fun e => e.1.2 = player_guid ∧ e.2.assistant = 1

/-- A row of the player. The statement has no order; where there are several, this is one. -/
def rowOf (player_guid : UInt32) : Option (Sigma fun _ : UInt32 × UInt32 => RaidRow) :=
  rows.entries.find? fun e => e.1.2 = player_guid

def GetLeaderGuid (player_guid : UInt32) : UInt32 := ((rowOf rows player_guid).map (·.1.1)).getD 0

def GetSubgroup (player_guid : UInt32) : String :=
  ((rowOf rows player_guid).map (·.2.subgroup)).getD DEFAULT_SUBGROUP

/-- A second row with the same key is an error of the database, and nothing is written. -/
def InsertRaidMember (leader_guid member_guid : UInt32) (assistant : UInt8) (subgroup : String) :
    RaidTable :=
  Statement.exec rows (.insert (leader_guid, member_guid) ⟨subgroup, assistant⟩)

def DeleteRaid (leader_guid : UInt32) : RaidTable := rows.keep fun key _ => key.1 ≠ leader_guid

def DeleteMember (member_guid : UInt32) : RaidTable := rows.keep fun key _ => key.2 ≠ member_guid

def updateMember (player_guid : UInt32) (f : RaidRow → RaidRow) : RaidTable :=
  rows.filterMap fun key row => some (if key.2 = player_guid then f row else row)

def MoveMember (player_guid : UInt32) (new_subgroup : String) : RaidTable :=
  updateMember rows player_guid fun row => { row with subgroup := new_subgroup }

def UpdateAssist (player_guid : UInt32) (assist : UInt8) : RaidTable :=
  updateMember rows player_guid fun row => { row with assistant := assist }

def members (leader_guid : UInt32) : List (UInt32 × RaidRow) :=
  (rows.entries.filter fun e => e.1.1 = leader_guid).map fun e => (e.1.2, e.2)

end FRaid

/-! ### Commands -/

/-- The invite that a player holds -/
structure Invite where
  leaderGuid : UInt32
  expire : ℕ
deriving DecidableEq, Repr

structure State where
  rows : RaidTable
  invites : Player → Invite

inductive Command where
  | create
  | disband
  | invite (target : Player)
  | accept
  | leave
  | kick (target : Player)
  | move (subgroup : String) (target : Player)
  | promote (target : Player)
  | demote (target : Player)
  | leader (target : Player)

/-- A command of a player. Where the player it is about is not found, nothing happens. -/
structure Action where
  source : Player
  time : ℕ
  command : Command

namespace State

open FRaid

variable (s : State) (source target : Player)

def withRows (rows : RaidTable) : State := { s with rows := rows }

def withInvite (player : Player) (invite : Invite) : State :=
  { s with invites := Function.update s.invites player invite }

def HandleRaidCreateCommand : State :=
  if IsInRaid s.rows source then s
  else s.withRows (InsertRaidMember s.rows source source 1 DEFAULT_SUBGROUP)

def HandleRaidDisbandCommand : State :=
  if !IsRaidLeader s.rows source then s else s.withRows (DeleteRaid s.rows source)

def HandleRaidInviteCommand (time : ℕ) : State :=
  if !IsInRaid s.rows source then s
  else if !IsAssistant s.rows source then s
  else if IsInRaid s.rows target then s
  else s.withInvite target ⟨GetLeaderGuid s.rows source, time + inviteTime⟩

def HandleRaidAcceptCommand (time : ℕ) : State :=
  let leader_guid := (s.invites source).leaderGuid
  if (s.invites source).expire < time then s
  else
    let s := s.withInvite source ⟨0, time⟩
    if !IsInRaid s.rows leader_guid || !IsRaidLeader s.rows leader_guid then s
    else s.withRows (InsertRaidMember s.rows leader_guid source 0 DEFAULT_SUBGROUP)

def HandleRaidLeaveCommand : State :=
  if !IsInRaid s.rows source then s
  else if IsRaidLeader s.rows source then s
  else s.withRows (DeleteMember s.rows source)

def HandleRaidKickCommand : State :=
  if !IsInRaid s.rows source then s
  else if !IsAssistant s.rows source then s
  else if GetLeaderGuid s.rows source ≠ GetLeaderGuid s.rows target then s
  else if source = target then s
  else if IsRaidLeader s.rows target then s
  else if IsAssistant s.rows target && !IsRaidLeader s.rows source then s
  else s.withRows (DeleteMember s.rows target)

def HandleRaidMoveCommand (subgroup : String) : State :=
  if !IsInRaid s.rows source then s
  else if !IsAssistant s.rows source then s
  else if GetLeaderGuid s.rows source ≠ GetLeaderGuid s.rows target then s
  else s.withRows (MoveMember s.rows target (subgroup.map Char.toUpper))

def HandleRaidPromoteCommand : State :=
  if !IsInRaid s.rows source then s
  else if !IsRaidLeader s.rows source then s
  else if GetLeaderGuid s.rows source ≠ GetLeaderGuid s.rows target then s
  else if source = target then s
  else if IsAssistant s.rows target then s
  else s.withRows (UpdateAssist s.rows target 1)

def HandleRaidDemoteCommand : State :=
  if !IsInRaid s.rows source then s
  else if !IsRaidLeader s.rows source then s
  else if GetLeaderGuid s.rows source ≠ GetLeaderGuid s.rows target then s
  else if source = target then s
  else if !IsAssistant s.rows target then s
  else s.withRows (UpdateAssist s.rows target 0)

def transferMember (new_leader_guid : UInt32) (rows : RaidTable) (member : UInt32 × RaidRow) :
    RaidTable :=
  InsertRaidMember (DeleteMember rows member.1) new_leader_guid member.1 member.2.assistant
    member.2.subgroup

def HandleRaidLeaderCommand : State :=
  if !IsInRaid s.rows source then s
  else if !IsRaidLeader s.rows source then s
  else if source.1 ≠ GetLeaderGuid s.rows target then s
  else if source = target then s
  else
    let subgroup := GetSubgroup s.rows target
    let rows := InsertRaidMember (DeleteMember s.rows target) target target 1 subgroup
    let rows := (members rows source).foldl (transferMember target) rows
    s.withRows (DeleteRaid rows source)

def step (s : State) (a : Action) : State :=
  match a.command with
  | .create => s.HandleRaidCreateCommand a.source
  | .disband => s.HandleRaidDisbandCommand a.source
  | .invite target => s.HandleRaidInviteCommand a.source target a.time
  | .accept => s.HandleRaidAcceptCommand a.source a.time
  | .leave => s.HandleRaidLeaveCommand a.source
  | .kick target => s.HandleRaidKickCommand a.source target
  | .move subgroup target => s.HandleRaidMoveCommand a.source target subgroup
  | .promote target => s.HandleRaidPromoteCommand a.source target
  | .demote target => s.HandleRaidDemoteCommand a.source target
  | .leader target => s.HandleRaidLeaderCommand a.source target

/-- The table is empty. What invites say before the first one is left open. -/
def initial (invites : Player → Invite) : State := ⟨∅, invites⟩

end State

end WorldServer.FreedomRaids
