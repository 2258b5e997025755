import WorldServer.Groups.State

/-!
# Who is in which subgroup

A group is created or loaded, members join and leave, and a raid moves its members between the
subgroups.
-/
namespace WorldServer.Groups

namespace Group

def subGroups : List UInt8 := [0, 1, 2, 3, 4, 5, 6, 7]

/-- The first subgroup that is not full. Without counters the first one is taken as it is. -/
def freeSubGroup (g : Group) : Option UInt8 :=
  match g.subGroupsCounts with
  | none => some 0
  | some counts => subGroups.find? fun subGroup => (counts subGroup).toNat < maxGroupSize

def addMember (g : Group) (guid : UInt64) : Group :=
  match g.freeSubGroup with
  | none => g
  | some subGroup =>
    { g.subGroupCounterIncrease subGroup with
      memberSlots := g.memberSlots ++ [⟨guid, subGroup, false⟩]
      memberMgr := guid :: g.memberMgr }

def handleGroupInviteResponse (g : Group) (guid : UInt64) : Group :=
  if g.leaderGuid = guid then g
  else if g.isFull then g
  else g.addMember guid

def handleGroupJoinCommand (g : Group) (guid : UInt64) : Group :=
  if !g.isFull then g else g.addMember guid

def increase (counts : UInt8 → UInt8) (slot : MemberSlot) : UInt8 → UInt8 :=
  Function.update counts slot.group (counts slot.group + 1)

def initRaidSubGroupsCounter (g : Group) : Group :=
  let cleared := fun subGroup : UInt8 =>
    if subGroup.toNat < maxRaidSubgroups then 0 else (g.subGroupsCounts.getD fun _ => 0) subGroup
  { g with subGroupsCounts := some (g.memberSlots.foldl increase cleared) }

/-- The groups of battlegrounds and battlefields are raids from the beginning. -/
def create (lfg bg bf : Bool) (leader : UInt64) : Group :=
  let g : Group :=
    { leaderGuid := leader
      raid := bg || bf
      lfg := lfg && !(bg || bf)
      bgGroup := bg
      bfGroup := bf }
  let g := if g.raid then g.initRaidSubGroupsCounter else g
  g.addMember leader

/-- The rest of the row is not read when the leader does not exist. -/
def loadGroupFromDB (named : UInt64 → Bool) (leader : UInt64) (raid lfg : Bool) : Group :=
  if named leader then
    let g : Group := { leaderGuid := leader, raid, lfg }
    if raid then g.initRaidSubGroupsCounter else g
  else { leaderGuid := leader }

def loadMemberFromDB (named : UInt64 → Bool) (g : Group) (row : MemberSlot) : Group :=
  if named row.guid then
    { g.subGroupCounterIncrease row.group with memberSlots := g.memberSlots ++ [row] }
  else g

def load (named : UInt64 → Bool) (leader : UInt64) (raid lfg : Bool) (rows : List MemberSlot) :
    Group :=
  rows.foldl (loadMemberFromDB named) (loadGroupFromDB named leader raid lfg)

/-! ### Conversions and moves -/

def convertToRaid (g : Group) : Group := { g with raid := true }.initRaidSubGroupsCounter

def convertToGroup (g : Group) : Group :=
  if g.memberSlots.length > 5 then g
  else { g with raid := false, lfg := false, subGroupsCounts := none }

def hasFreeSlotSubGroup (g : Group) (subGroup : UInt8) : Bool :=
  match g.subGroupsCounts with
  | none => false
  | some counts => (counts subGroup).toNat < maxGroupSize

def isAssistant (g : Group) (guid : UInt64) : Bool :=
  match g.getMemberSlot guid with
  | none => false
  | some slot => slot.assistant

def changeMembersGroup (g : Group) (guid : UInt64) (group : UInt8) : Group :=
  if !g.raid then g
  else match g.getMemberSlot guid with
    | none => g
    | some slot =>
      if slot.group = group then g
      else ((g.updateSlot guid fun slot => { slot with group }).subGroupCounterIncrease
        group).subGroupCounterDecrease slot.group

def handleGroupChangeSubGroup (g : Group) (sender guid : UInt64) (groupNr : UInt8) : Group :=
  if groupNr.toNat ≥ maxRaidSubgroups then g
  else if g.leaderGuid ≠ sender ∧ !g.isAssistant sender then g
  else if !g.hasFreeSlotSubGroup groupNr then g
  else g.changeMembersGroup guid groupNr

def handleGroupSwapSubGroup (g : Group) : Group := g

end Group

/-! ### Steps -/

inductive GroupOp where
  | create (lfg bg bf : Bool) (leader : UInt64)
  | load (named : UInt64 → Bool) (leader : UInt64) (raid lfg : Bool) (rows : List MemberSlot)
  | addMember (guid : UInt64)
  | inviteResponse (guid : UInt64)
  | joinCommand (guid : UInt64)
  | removeMember (online : UInt64 → Bool) (alone : Bool) (guid : UInt64) (kick : Bool)
  | changeLeader (online : UInt64 → Bool) (guid : UInt64)
  | convertToRaid
  | convertToGroup
  | changeSubGroup (sender guid : UInt64) (groupNr : UInt8)
  | swapSubGroup
  | login (guid : UInt64)
  | logout (guid : UInt64)
  | disband

def Removal.group (g : Group) : Removal → Option Group
  | .refused => g
  | .left g' ended => if ended then none else g'
  | .disbanded => none

def GroupOp.perform : Option Group → GroupOp → Option Group
  | _, .create lfg bg bf leader => some (.create lfg bg bf leader)
  | _, .load named leader raid lfg rows => some (.load named leader raid lfg rows)
  | none, _ => none
  | some g, .addMember guid => g.addMember guid
  | some g, .inviteResponse guid => g.handleGroupInviteResponse guid
  | some g, .joinCommand guid => g.handleGroupJoinCommand guid
  | some g, .removeMember online alone guid kick =>
    (g.removeMember online alone guid kick).group g
  | some g, .changeLeader online guid => g.changeLeader online guid
  | some g, .convertToRaid => g.convertToRaid
  | some g, .convertToGroup => g.convertToGroup
  | some g, .changeSubGroup sender guid groupNr => g.handleGroupChangeSubGroup sender guid groupNr
  | some g, .swapSubGroup => g.handleGroupSwapSubGroup
  | some g, .login guid => some { g with memberMgr := guid :: g.memberMgr }
  | some g, .logout guid => some { g with memberMgr := g.memberMgr.erase guid }
  | some _, .disband => none

end WorldServer.Groups
