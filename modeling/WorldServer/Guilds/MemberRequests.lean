import WorldServer.Guilds.RankRuns

/-!
# What the requests on a member do

A promotion, a demotion and a direct rank set either give one member one new rank or
change nothing; a removal either deletes one member or changes nothing. Which of the two
is a value of its own here, so that later proofs need not go through the handlers again.
-/
namespace WorldServer.Guilds

open WorldServer.Lib

/-- `MAKE_NEW_GUID` for a player: the high part of players is zero. -/
def playerGuid (lowguid : UInt32) : UInt64 := lowguid.toUInt64

@[simp] lemma guidLopart_playerGuid (lowguid : UInt32) : guidLopart (playerGuid lowguid) = lowguid :=
  UInt32.toNat_inj.mp (by simp [guidLopart, playerGuid])

lemma playerGuid_inj {k k' : UInt32} : playerGuid k = playerGuid k' ↔ k = k' :=
  ⟨fun hs => by rw [← guidLopart_playerGuid k, hs, guidLopart_playerGuid], fun hs => by rw [hs]⟩

/-- The guid of a character, as against one that a client made up. -/
def IsPlayerGuid (guid : UInt64) : Prop := guid = playerGuid (guidLopart guid)

namespace Guild

/-! ### New ranks -/

def reassign (g : Guild) (guid : UInt64) (newRank : Option UInt8) : Guild :=
  newRank.elim g (g.changeRank (guidLopart guid))

/-- The checks of a promotion or demotion. One more than the highest rank wraps to zero. -/
def mayUpdate (g : Guild) (player : UInt64) (demote : Bool) (member memberMe : Member) : Bool :=
  g.hasRankRight player (if demote then grRightDemote else grRightPromote) &&
    !member.isSamePlayer player &&
    (if demote then memberMe.rankId < member.rankId && member.rankId < g.getLowestRankId
      else memberMe.rankId + 1 < member.rankId)

def updatedRank (g : Guild) (player guid : UInt64) (demote : Bool) : Option UInt8 :=
  match g.getMember guid, g.getMember player with
  | some member, some memberMe =>
    if g.mayUpdate player demote member memberMe then
      some (if demote then member.rankId + 1 else member.rankId - 1)
    else none
  | _, _ => none

/-- The checks of a direct rank set: the ranks of the two members are not compared. -/
def maySetRank (g : Guild) (player : UInt64) (rank : UInt32) (member : Member) : Bool :=
  g.hasRankRight player (if member.rankId.toUInt32 < rank then grRightDemote else grRightPromote) &&
    !member.isSamePlayer player

def setRank (g : Guild) (player guid : UInt64) (rank : UInt32) : Option UInt8 :=
  match g.getMember guid with
  | none => none
  | some member => if g.maySetRank player rank member then some rank.toUInt8 else none

lemma handleUpdateMemberRank_eq (g : Guild) (player guid : UInt64) (demote : Bool) :
    settle g ((g.handleUpdateMemberRank player guid demote).map some) =
      some (g.reassign guid (g.updatedRank player guid demote)) := by
  unfold handleUpdateMemberRank updatedRank
  cases g.getMember guid with
  | none => cases demote <;> dsimp only <;> cases g.hasRankRight player _ <;> rfl
  | some member =>
    cases g.getMember player with
    | none => cases demote <;> dsimp only <;> cases g.hasRankRight player _ <;> rfl
    | some memberMe =>
      unfold mayUpdate
      cases demote <;> dsimp only <;> cases g.hasRankRight player _ <;>
        cases member.isSamePlayer player
      -- where right and player pass, the ranks decide
      case false.true.false =>
        simp only [Member.isRankNotLower, Bool.not_true, Bool.false_eq_true, if_false, Bool.not_false,
          Bool.and_self, Bool.true_and, decide_eq_true_eq]
        by_cases above : member.rankId ≤ memberMe.rankId + 1
        · simp [above, UInt8.not_lt.mpr above, reassign]
        · simp [above, UInt8.not_le.mp above, reassign]
      case true.true.false =>
        simp only [Member.isRankNotLower, Bool.not_true, Bool.false_eq_true, if_false, if_true,
          Bool.not_false, Bool.and_self, Bool.true_and, Bool.and_eq_true, decide_eq_true_eq]
        by_cases above : member.rankId ≤ memberMe.rankId
        · simp [above, UInt8.not_lt.mpr above, reassign]
        · by_cases lowest : g.getLowestRankId ≤ member.rankId
          · simp [above, lowest, UInt8.not_lt.mpr lowest, reassign]
          · simp [above, lowest, UInt8.not_le.mp above, UInt8.not_le.mp lowest, reassign]
      all_goals rfl

lemma handleSetMemberRank_eq (g : Guild) (player guid : UInt64) (rank : UInt32) :
    settle g ((g.handleSetMemberRank player guid rank).map some) =
      some (g.reassign guid (g.setRank player guid rank)) := by
  unfold handleSetMemberRank setRank
  cases g.getMember guid with
  | none => rfl
  | some member =>
    unfold maySetRank
    dsimp only
    cases g.hasRankRight player _ with
    | false => rfl
    | true => cases member.isSamePlayer player <;> rfl

lemma changeMemberRank_eq (g : Guild) (guid : UInt64) (rank : UInt8) :
    (g.changeMemberRank guid rank).1 =
      g.reassign guid (if rank ≤ g.getLowestRankId ∧ g.isMember guid = true then some rank else none) := by
  unfold changeMemberRank isMember
  by_cases known : rank ≤ g.getLowestRankId ∧ (g.getMember guid).isSome = true
  · simp [known, reassign]
  · rw [if_neg known, if_neg (by simpa using known)]
    rfl

def removesMember (g : Guild) (player guid : UInt64) : Bool :=
  g.hasRankRight player grRightRemove &&
    match g.getMember guid, g.getMember player with
    | some member, some memberMe => !member.isRank grGuildmaster && memberMe.rankId < member.rankId
    | _, _ => false

lemma handleRemoveMember_eq (g : Guild) (player guid : UInt64) :
    settle g (g.handleRemoveMember player guid) =
      if g.removesMember player guid then g.deleteMember guid else some g := by
  unfold handleRemoveMember removesMember
  cases g.hasRankRight player grRightRemove with
  | false => rfl
  | true =>
    cases g.getMember guid with
    | none => rfl
    | some member =>
      cases g.getMember player with
      | none => cases master : member.isRank grGuildmaster <;> simp [master]
      | some memberMe =>
        cases master : member.isRank grGuildmaster with
        | true => simp [master]
        | false =>
          by_cases above : member.rankId ≤ memberMe.rankId
          · simp [Member.isRankNotLower, master, above, UInt8.not_lt.mpr above]
          · simp [Member.isRankNotLower, master, above, UInt8.not_le.mp above]

end Guild

end WorldServer.Guilds
