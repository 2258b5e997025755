import Mathlib.Data.List.Count

/-!
# Groups

A group keeps a slot for every member, online or not, and a reference to every member that is
in memory. A raid also counts the slots of each subgroup.
-/
namespace WorldServer.Groups

def maxGroupSize : ℕ := 5

def maxRaidSize : ℕ := 40

def maxRaidSubgroups : ℕ := 8

structure MemberSlot where
  guid : UInt64
  group : UInt8
  assistant : Bool
deriving DecidableEq, Repr

structure Group where
  memberSlots : List MemberSlot := []
  /-- The references, newest first. -/
  memberMgr : List UInt64 := []
  leaderGuid : UInt64 := 0
  raid : Bool := false
  lfg : Bool := false
  bgGroup : Bool := false
  bfGroup : Bool := false
  /-- Past the eighth counter lies other memory. -/
  subGroupsCounts : Option (UInt8 → UInt8) := none
  lootThreshold : UInt32 := 2

namespace Group

def getMemberSlot (g : Group) (guid : UInt64) : Option MemberSlot :=
  g.memberSlots.find? fun slot => slot.guid = guid

def updateFirst (guid : UInt64) (f : MemberSlot → MemberSlot) : List MemberSlot → List MemberSlot
  | [] => []
  | slot :: rest =>
    if slot.guid = guid then f slot :: rest else slot :: updateFirst guid f rest

def updateSlot (g : Group) (guid : UInt64) (f : MemberSlot → MemberSlot) : Group :=
  { g with memberSlots := updateFirst guid f g.memberSlots }

def isFull (g : Group) : Bool :=
  if g.raid then maxRaidSize ≤ g.memberSlots.length else maxGroupSize ≤ g.memberSlots.length

def subGroupCounterIncrease (g : Group) (subgroup : UInt8) : Group :=
  { g with subGroupsCounts := g.subGroupsCounts.map fun counts =>
      Function.update counts subgroup (counts subgroup + 1) }

def subGroupCounterDecrease (g : Group) (subgroup : UInt8) : Group :=
  { g with subGroupsCounts := g.subGroupsCounts.map fun counts =>
      Function.update counts subgroup (counts subgroup - 1) }

/-! ### Leaving -/

def changeLeader (g : Group) (online : UInt64 → Bool) (newLeaderGuid : UInt64) : Group :=
  match g.getMemberSlot newLeaderGuid with
  | none => g
  | some _ =>
    if online newLeaderGuid then
      { g with leaderGuid := newLeaderGuid }.updateSlot newLeaderGuid fun slot =>
        { slot with assistant := false }
    else g

def pickLeader (g : Group) (online : UInt64 → Bool) : Group :=
  match g.memberSlots.find? fun slot => online slot.guid with
  | none => g
  | some slot => g.changeLeader online slot.guid

/-- The reference goes with the player or with the row in the database. -/
def unlinkMember (g : Group) (online : UInt64 → Bool) (guid : UInt64) : Group :=
  if online guid || !(g.bgGroup || g.bfGroup) then { g with memberMgr := g.memberMgr.erase guid }
  else g

def removeSlot (g : Group) (guid : UInt64) : Group :=
  match g.getMemberSlot guid with
  | none => g
  | some slot =>
    { g.subGroupCounterDecrease slot.group with
      memberSlots := g.memberSlots.eraseP fun slot => slot.guid = guid }

end Group

/-- What a call of `RemoveMember` comes to. -/
inductive Removal where
  /-- A kick from a dungeon group is left to the scripts. -/
  | refused
  /-- Only members of a large enough group leave it. -/
  | left (g : Group) (disbanded : Bool)
  | disbanded

def Removal.disbands : Removal → Bool
  | .refused => false
  | .left _ ended => ended
  | .disbanded => true

namespace Group

def smallestGroup (g : Group) : ℕ := if g.bgGroup || g.lfg || g.bfGroup then 1 else 2

/-- `alone` says of the last member of a dungeon group that the dungeon is left. -/
def removeMember (g : Group) (online : UInt64 → Bool) (alone : Bool) (guid : UInt64)
    (kick : Bool) : Removal :=
  if g.lfg ∧ kick then .refused
  else if g.memberSlots.length > g.smallestGroup then
    let g := (g.unlinkMember online guid).removeSlot guid
    let g := if g.leaderGuid = guid then g.pickLeader online else g
    .left g ((g.lfg ∧ g.memberSlots.length = 1 ∧ alone) ∨
      g.memberMgr.length < if g.lfg || g.bgGroup then 1 else 2)
  else .disbanded

end Group

end WorldServer.Groups
