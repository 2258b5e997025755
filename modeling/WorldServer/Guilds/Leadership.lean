import WorldServer.Guilds.MemberRequests

/-!
# The guild master

The leader's guid and the ranks of the members are stored apart. `Led` says that they
agree: the leader is a member and nobody else holds the first rank. Six kinds of request
can break this, `KeepsLeader` says when they do not.
-/
namespace WorldServer.Guilds

open WorldServer.Lib

/-- A request as the server makes it: who joins and who is deleted is looked up by the
server, so only the guids in packets can be made up. -/
def RankRequest.Genuine : RankRequest → Prop
  | .accept c => IsPlayerGuid c.guid
  | .enlist c => IsPlayerGuid c.guid
  | .delete guid => IsPlayerGuid guid
  | _ => True

variable {k : UInt32} {leader : Member}

namespace Guild

/-! ### The invariant -/

/-- Members are stored under their own guids, the leader is a character, and the number of
ranks is within its bounds. Every request keeps this. -/
structure Staffed (g : Guild) : Prop where
  members : ∀ k m, g.members.lookup k = some m → m.guid = playerGuid k
  leader : IsPlayerGuid g.leaderGuid
  least : 2 ≤ g.ranks.length
  most : g.ranks.length ≤ 10

structure Led (g : Guild) : Prop where
  member : g.isMember g.leaderGuid = true
  master : ∀ k m, g.members.lookup k = some m →
    (m.isRank grGuildmaster = true ↔ m.guid = g.leaderGuid)

/-- The same by the keys of the table. -/
def LedBy (g : Guild) (chief : UInt32) : Prop :=
  (∃ m, g.members.lookup chief = some m) ∧
    ∀ k m, g.members.lookup k = some m → (m.rankId = grGuildmaster ↔ k = chief)

variable {g g' : Guild}

lemma Staffed.key (staffed : g.Staffed) {m : Member} (hf : g.members.lookup k = some m) :
    m.guid = g.leaderGuid ↔ k = guidLopart g.leaderGuid := by
  rw [staffed.members k m hf, staffed.leader, playerGuid_inj, guidLopart_playerGuid]

lemma Staffed.led_iff (staffed : g.Staffed) : g.Led ↔ g.LedBy (guidLopart g.leaderGuid) := by
  constructor
  · intro led
    refine ⟨Option.isSome_iff_exists.mp led.member, fun k m hf => ?_⟩
    rw [← staffed.key hf, ← led.master k m hf, Member.isRank, beq_iff_eq]
  · rintro ⟨hm, master⟩
    refine ⟨Option.isSome_iff_exists.mpr hm, fun k m hf => ?_⟩
    rw [staffed.key hf, ← master k m hf, Member.isRank, beq_iff_eq]

/-! ### Changes of one member -/

lemma Staffed.with_members (staffed : g.Staffed) (members : Table UInt32 Member)
    (keyed : ∀ k m, members.lookup k = some m → m.guid = playerGuid k) :
    ({ g with members := members } : Guild).Staffed :=
  ⟨keyed, staffed.leader, staffed.least, staffed.most⟩

lemma Staffed.eraseMember (staffed : g.Staffed) (lowguid : UInt32) :
    (g.eraseMember lowguid).Staffed :=
  staffed.with_members _ fun k m hf =>
    staffed.members k m ((Table.lookup_erase_iff _ _ _ _).mp hf).2

lemma Staffed.changeRank (staffed : g.Staffed) (lowguid : UInt32) (newRank : UInt8) :
    (g.changeRank lowguid newRank).Staffed := by
  refine ⟨fun k m hf => ?_, ?_, ?_, ?_⟩
  · rcases (lookup_changeRank g lowguid k newRank m).mp hf with ⟨rfl, old, here, rfl⟩ | ⟨-, before⟩
    · exact staffed.members k old here
    · exact staffed.members k m before
  · rw [leaderGuid_changeRank]
    exact staffed.leader
  · rw [ranks_changeRank]
    exact staffed.least
  · rw [ranks_changeRank]
    exact staffed.most

lemma leaderGuid_setLeaderGuid (lowguid : UInt32) (leader : Member) :
    (g.setLeaderGuid lowguid leader).leaderGuid = leader.guid :=
  leaderGuid_changeRank _ _ _

lemma Staffed.setLeaderGuid (staffed : g.Staffed) {lowguid : UInt32}
    (hf : g.members.lookup lowguid = some leader) :
    (g.setLeaderGuid lowguid leader).Staffed := by
  have guid := staffed.members lowguid leader hf
  have named : ({ g with leaderGuid := leader.guid } : Guild).Staffed := by
    refine ⟨staffed.members, ?_, staffed.least, staffed.most⟩
    rw [guid]
    exact (congrArg playerGuid (guidLopart_playerGuid lowguid)).symm
  exact named.changeRank lowguid grGuildmaster

lemma Staffed.deleteMember (staffed : g.Staffed) (guid : UInt64) :
    Holds Staffed (g.deleteMember guid) := by
  intro g' left
  unfold Guild.deleteMember at left
  split at left
  next leads =>
    obtain ⟨successor, new, rfl⟩ := Option.map_eq_some_iff.mp left
    exact (staffed.setLeaderGuid (newLeader_some new).2.1).eraseMember _
  next follows =>
    obtain rfl := Option.some.inj left
    exact staffed.eraseMember _

lemma Staffed.addMember (staffed : g.Staffed) {c : Character} (genuine : IsPlayerGuid c.guid)
    (rankId : UInt8) : (g.addMember c rankId).1.Staffed := by
  rcases addMember_cases g c rankId with refused | ⟨m, guid, -, entered⟩
  · rw [refused]
    exact staffed
  · rw [entered]
    apply staffed.with_members
    intro k n hf
    rcases (Table.lookup_insert_iff _ _ _ _ _).mp hf with ⟨rfl, rfl⟩ | ⟨-, before⟩
    · rw [guid]
      exact genuine
    · exact staffed.members k n before

/-! ### Rank rows -/

/-- A change of the rank rows that leaves members and leader alone. -/
structure OnlyRanks (g g' : Guild) : Prop where
  members : g'.members = g.members
  leader : g'.leaderGuid = g.leaderGuid
  least : 2 ≤ g.ranks.length → g.ranks.length ≤ 10 → 2 ≤ g'.ranks.length
  most : g.ranks.length ≤ 10 → g'.ranks.length ≤ 10

lemma OnlyRanks.refl (g : Guild) : g.OnlyRanks g := ⟨rfl, rfl, fun least _ => least, id⟩

lemma OnlyRanks.staffed (only : g.OnlyRanks g') (staffed : g.Staffed) : g'.Staffed := by
  refine ⟨?_, ?_, only.least staffed.least staffed.most, only.most staffed.most⟩
  · rw [only.members]
    exact staffed.members
  · rw [only.leader]
    exact staffed.leader

lemma OnlyRanks.led (only : g.OnlyRanks g') (led : g.Led) : g'.Led := by
  constructor
  · rw [isMember, getMember, only.members, only.leader]
    exact led.member
  · rw [only.members, only.leader]
    exact led.master

lemma OnlyRanks.of_length {ranks : List RankInfo} (length : ranks.length = g.ranks.length) :
    g.OnlyRanks { g with ranks := ranks } :=
  ⟨rfl, rfl, fun least _ => length ▸ least, fun most => length ▸ most⟩

lemma OnlyRanks.modifyRank (only : g.OnlyRanks g') (rankId : UInt8) (f : RankInfo → RankInfo) :
    g.OnlyRanks (g'.modifyRank rankId f) := by
  unfold Guild.modifyRank
  split
  · refine ⟨only.members, only.leader, fun least most => ?_, fun most => ?_⟩
    · simpa using only.least least most
    · simpa using only.most most
  · exact only

lemma OnlyRanks.setRankBankTabRightsAndSlots (only : g.OnlyRanks g') (rankId : UInt8)
    (r : GuildBankRightsAndSlots) : g.OnlyRanks (g'.setRankBankTabRightsAndSlots rankId r) := by
  unfold Guild.setRankBankTabRightsAndSlots
  split
  · exact only
  · exact only.modifyRank rankId _

section

variable (g) (player : UInt64)

lemma handleAddNewRank_onlyRanks {g' : Guild} (name : String)
    (served : g.handleAddNewRank player name = .ok g') : g.OnlyRanks g' := by
  unfold handleAddNewRank at served
  split at served
  · exact Except.ok.inj served ▸ OnlyRanks.refl g
  next room =>
    split at served
    · cases served
    · obtain rfl := Except.ok.inj served
      unfold createRank
      split
      · exact OnlyRanks.refl g
      next free =>
        refine ⟨rfl, rfl, fun least _ => ?_, fun most => ?_⟩
        · simp only [List.length_append]
          omega
        · rw [ge_iff_le, UInt8.le_iff_toNat_le, g.getRanksSize_toNat most, not_le] at free
          have bound : guildRanksMaxCount.toNat = 10 := rfl
          simp only [List.length_append, List.length_singleton]
          omega

lemma handleRemoveRank_onlyRanks {g' : Guild} (rankId : UInt8)
    (served : g.handleRemoveRank player rankId = .ok g') : g.OnlyRanks g' := by
  unfold handleRemoveRank at served
  split at served
  next removes =>
    obtain rfl := Except.ok.inj served
    refine ⟨rfl, rfl, fun _ most => ?_, fun most => ?_⟩
    · -- a rank is only removed above the least number
      simp only [removesRank, Bool.and_eq_true, decide_eq_true_eq, UInt8.lt_iff_toNat_lt,
        g.getRanksSize_toNat most] at removes
      have above : 2 < g.ranks.length := removes.1.1
      rw [List.length_eraseIdx_of_lt removes.1.2]
      omega
    · exact Nat.le_trans (List.length_eraseIdx_le _ _) most
  · exact Except.ok.inj served ▸ OnlyRanks.refl g

lemma handleUpdateRank_onlyRanks {g' : Guild} (id : UInt32) (up : Bool)
    (served : g.handleUpdateRank player id up = .ok g') : g.OnlyRanks g' := by
  unfold handleUpdateRank at served
  split at served
  · cases served
  · dsimp only at served
    split at served
    · split at served
      · obtain rfl := Except.ok.inj served
        exact OnlyRanks.of_length (by simp)
      · exact Except.ok.inj served ▸ OnlyRanks.refl g
    · exact Except.ok.inj served ▸ OnlyRanks.refl g

lemma handleSetRankInfo_onlyRanks {g' : Guild} (rankId : UInt8) (name : String)
    (rights moneyPerDay : UInt32) (tabs : Vector (UInt8 × UInt32) guildBankMaxTabs)
    (served : g.handleSetRankInfo player rankId name rights moneyPerDay tabs = .ok g') :
    g.OnlyRanks g' := by
  unfold handleSetRankInfo at served
  split at served
  · cases served
  · obtain rfl := Except.ok.inj served
    have first := (OnlyRanks.refl g).modifyRank rankId
      fun r => ((r.setName name).setRights rights).setBankMoneyPerDay moneyPerDay
    revert first
    generalize g.modifyRank rankId _ = h
    induction tabs.toList.zipIdx generalizing h with
    | nil => exact id
    | cons tab tabs ih =>
      intro only
      exact ih _ (only.setRankBankTabRightsAndSlots rankId _)

end

/-! ### Changes of ranks -/

variable {chief : UInt32}

lemma LedBy.insert_iff (led : g.LedBy chief) (k : UInt32) (m : Member) :
    ({ g with members := g.members.insert k m } : Guild).LedBy chief ↔
      (m.rankId = grGuildmaster ↔ k = chief) := by
  constructor
  · intro after
    exact after.2 k m (AList.lookup_insert _)
  · intro agrees
    obtain ⟨n, here⟩ := led.1
    constructor
    · by_cases own : chief = k
      · exact ⟨m, (Table.lookup_insert_iff _ _ _ _ _).mpr (Or.inl ⟨own, rfl⟩)⟩
      · exact ⟨n, (Table.lookup_insert_iff _ _ _ _ _).mpr (Or.inr ⟨own, here⟩)⟩
    · intro k' m' after
      rcases (Table.lookup_insert_iff _ _ _ _ _).mp after with ⟨rfl, rfl⟩ | ⟨-, before⟩
      · exact agrees
      · exact led.2 k' m' before

lemma LedBy.changeRank_iff (led : g.LedBy chief) {old : Member}
    (hf : g.members.lookup k = some old) (newRank : UInt8) :
    (g.changeRank k newRank).LedBy chief ↔ (newRank = grGuildmaster ↔ k = chief) := by
  simp only [Guild.changeRank, hf]
  exact led.insert_iff k { old with rankId := newRank }

lemma LedBy.erase (led : g.LedBy chief) (other : k ≠ chief) : (g.eraseMember k).LedBy chief := by
  obtain ⟨m, here⟩ := led.1
  refine ⟨⟨m, (Table.lookup_erase_iff _ _ _ _).mpr ⟨other.symm, here⟩⟩, fun k' m' hf => ?_⟩
  exact led.2 k' m' ((Table.lookup_erase_iff _ _ _ _).mp hf).2

lemma reassign_led_iff (staffed : g.Staffed) (led : g.Led) (guid : UInt64) (newRank : Option UInt8) :
    (g.reassign guid newRank).Led ↔ ∀ rank, newRank = some rank → ∀ member,
      g.getMember guid = some member → (rank = grGuildmaster ↔ member.guid = g.leaderGuid) := by
  cases newRank with
  | none => simpa [reassign] using led
  | some rank =>
    simp only [reassign, Option.elim_some, Option.some.injEq, forall_eq']
    rw [(staffed.changeRank _ _).led_iff, leaderGuid_changeRank]
    cases hf : g.getMember guid with
    | none =>
      have hs : g.changeRank (guidLopart guid) rank = g := by
        simp only [getMember] at hf
        simp only [Guild.changeRank, hf]
      rw [hs]
      exact iff_of_true (staffed.led_iff.mp led) (by simp)
    | some member =>
      rw [(staffed.led_iff.mp led).changeRank_iff hf rank]
      simp [staffed.key hf]

/-! ### Crowning -/

lemma getMemberByName_found (g : Guild) {name : String} {m : Member}
    (hf : g.getMemberByName name = some (k, m)) : g.members.lookup k = some m := by
  obtain ⟨e, first, hs⟩ := Option.map_eq_some_iff.mp hf
  obtain ⟨rfl, rfl⟩ := Prod.mk.inj hs
  exact AList.mem_lookup_iff.mpr (List.mem_of_find?_eq_some first)

lemma setLeaderGuid_ledBy (hf : g.members.lookup k = some leader)
    (sole : ∀ k' m, k' ≠ k → g.members.lookup k' = some m → m.rankId ≠ grGuildmaster) :
    (g.setLeaderGuid k leader).LedBy k := by
  refine ⟨⟨{ leader with rankId := grGuildmaster }, ?_⟩, fun k' m after => ?_⟩
  · exact (lookup_changeRank _ k k grGuildmaster _).mpr (Or.inl ⟨rfl, leader, hf, rfl⟩)
  · rcases (lookup_changeRank _ k k' grGuildmaster m).mp after with ⟨rfl, old, -, rfl⟩ | ⟨other, before⟩
    · simp
    · simpa [other] using sole k' m other before

lemma Led.deleteLeader (staffed : g.Staffed) (led : g.Led) :
    Holds Led (g.deleteMember g.leaderGuid) := by
  intro g' left
  have after := staffed.deleteMember g.leaderGuid g' left
  rw [Guild.deleteMember, if_pos rfl] at left
  obtain ⟨successor, new, rfl⟩ := Option.map_eq_some_iff.mp left
  obtain ⟨other, hf, -⟩ := newLeader_some new
  have leads := (staffed.led_iff.mp led).2
  rw [after.led_iff]
  have crowned : (g.setLeaderGuid successor.1 successor.2).leaderGuid = playerGuid successor.1 := by
    rw [leaderGuid_setLeaderGuid, staffed.members _ _ hf]
  have named : guidLopart ((g.setLeaderGuid successor.1 successor.2).eraseMember
      (guidLopart g.leaderGuid)).leaderGuid = successor.1 := by
    rw [eraseMember, crowned, guidLopart_playerGuid]
  rw [named]
  -- the old leader holds the first rank beside the new one until the erasure
  refine ⟨⟨{ successor.2 with rankId := grGuildmaster }, ?_⟩, fun k m here => ?_⟩
  · apply (Table.lookup_erase_iff _ _ _ _).mpr
    exact ⟨other, (lookup_changeRank _ _ _ _ _).mpr (Or.inl ⟨rfl, successor.2, hf, rfl⟩)⟩
  · obtain ⟨stays, here⟩ := (Table.lookup_erase_iff _ _ _ _).mp here
    rcases (lookup_changeRank _ _ _ _ _).mp here with ⟨rfl, old, -, rfl⟩ | ⟨notNew, before⟩
    · simp
    · simpa [notNew, stays] using leads k m before

lemma Led.deleteOther (staffed : g.Staffed) (led : g.Led) {guid : UInt64}
    (other : guidLopart guid ≠ guidLopart g.leaderGuid) : Holds Led (g.deleteMember guid) := by
  intro g' left
  have follows : g.leaderGuid ≠ guid := fun hs => other (by rw [hs])
  rw [Guild.deleteMember, if_neg follows] at left
  obtain rfl := Option.some.inj left
  rw [(staffed.eraseMember _).led_iff]
  exact (staffed.led_iff.mp led).erase other

/-- The request does not take the first rank from the leader or give it to another member. -/
def KeepsLeader (g : Guild) : RankRequest → Prop
  | .accept c => c.guid = g.leaderGuid → c.guildId = 0 →
      ¬(c.online || checkStats c.level c.charClass) = true
  | .enlist c => c.guid = g.leaderGuid → c.guildId = 0 →
      ¬(c.online || checkStats c.level c.charClass) = true
  | .updateMemberRank player guid demote => demote = false → ∀ member memberMe,
      g.getMember guid = some member → g.getMember player = some memberMe →
      memberMe.rankId = 255 → member.rankId ≠ grOfficer
  | .setMemberRank player guid rank => ∀ member, g.getMember guid = some member →
      g.maySetRank player rank member = true →
      (rank.toUInt8 = grGuildmaster ↔ member.guid = g.leaderGuid)
  | .changeMemberRank guid rank => rank ≤ g.getLowestRankId → ∀ member,
      g.getMember guid = some member → (rank = grGuildmaster ↔ member.guid = g.leaderGuid)
  | .setNewGuildMaster player name => g.isLeader player = true →
      ∀ k member, g.getMemberByName name = some (k, member) → member.guid ≠ g.leaderGuid
  | _ => True

end Guild

private lemma staffed_of_answer {g : Guild} (staffed : g.Staffed) {answer : Except Refusal Guild}
    (keeps : ∀ g', answer = .ok g' → g'.Staffed) :
    Holds Guild.Staffed (settle g (answer.map some)) := by
  cases answer with
  | ok g' => simpa using keeps g' rfl
  | error e => simpa using staffed

private lemma led_of_answer {g : Guild} (led : g.Led) {answer : Except Refusal Guild}
    (keeps : ∀ g', answer = .ok g' → g'.Led) : Holds Guild.Led (settle g (answer.map some)) := by
  cases answer with
  | ok g' => simpa using keeps g' rfl
  | error e => simpa using led

lemma Guild.Staffed.reassign {g : Guild} (staffed : g.Staffed) (guid : UInt64)
    (newRank : Option UInt8) : (g.reassign guid newRank).Staffed := by
  cases newRank with
  | none => exact staffed
  | some rank => exact staffed.changeRank _ rank

lemma serve_staffed (w : World) {g : Guild} (staffed : g.Staffed) (r : RankRequest)
    (genuine : r.Genuine) : Holds Guild.Staffed (serve w (some g) r) := by
  rw [serve_some]
  cases r with
  | addRank player name =>
    exact staffed_of_answer staffed fun g' served =>
      (g.handleAddNewRank_onlyRanks player name served).staffed staffed
  | removeRank player rankId =>
    exact staffed_of_answer staffed fun g' served =>
      (g.handleRemoveRank_onlyRanks player rankId served).staffed staffed
  | updateRank player id up =>
    exact staffed_of_answer staffed fun g' served =>
      (g.handleUpdateRank_onlyRanks player id up served).staffed staffed
  | setRankInfo player rankId name rights money tabs =>
    exact staffed_of_answer staffed fun g' served =>
      (g.handleSetRankInfo_onlyRanks player rankId name rights money tabs served).staffed staffed
  | accept c =>
    simp only [Guild.handle, Guild.handleAcceptMember, settle_ok, holds_some]
    split
    · exact staffed
    · exact staffed.addMember genuine _
  | enlist c => simpa [Guild.handle] using staffed.addMember genuine _
  | leave player =>
    simp only [Guild.handle, Guild.handleLeaveMember]
    split
    · split
      · simpa using staffed
      · split
        · simpa using staffed
        · simp
    · exact staffed.deleteMember player
  | remove player guid =>
    rw [Guild.handle, Guild.handleRemoveMember_eq]
    split
    · exact staffed.deleteMember guid
    · simpa using staffed
  | delete guid => exact staffed.deleteMember guid
  | updateMemberRank player guid demote =>
    rw [Guild.handle, Guild.handleUpdateMemberRank_eq, holds_some]
    exact staffed.reassign guid _
  | setMemberRank player guid rank =>
    rw [Guild.handle, Guild.handleSetMemberRank_eq, holds_some]
    exact staffed.reassign guid _
  | changeMemberRank guid rank =>
    rw [Guild.handle, settle_ok, holds_some, Guild.changeMemberRank_eq]
    exact staffed.reassign guid _
  | setNewGuildMaster player name =>
    apply staffed_of_answer staffed
    intro g' served
    unfold Guild.handleSetNewGuildMaster at served
    split at served
    · cases served
    · split at served
      next old k new oldFound newFound =>
        obtain rfl := Except.ok.inj served
        exact (staffed.setLeaderGuid (g.getMemberByName_found newFound)).changeRank _ _
      next => exact Except.ok.inj served ▸ staffed
  | disband player =>
    simp only [Guild.handle, Guild.handleDisband]
    split
    · simp
    · simpa using staffed

/-! ### What each kind of request does to the leader -/

section Led

variable {g : Guild}

section

variable (staffed : g.Staffed) (led : g.Led)
include staffed led

lemma addMember_led_iff {c : Character} (genuine : IsPlayerGuid c.guid) : (g.addMember c).1.Led ↔
      (c.guid = g.leaderGuid → c.guildId = 0 → ¬(c.online || checkStats c.level c.charClass) = true) := by
  have own : c.guid = g.leaderGuid ↔ guidLopart c.guid = guidLopart g.leaderGuid := by
    rw [genuine, staffed.leader, playerGuid_inj, guidLopart_playerGuid, guidLopart_playerGuid]
  have after := (staffed.addMember genuine guildRankNone).led_iff
  unfold Guild.addMember at after ⊢
  by_cases free : c.guildId = 0
  · by_cases enters : (c.online || checkStats c.level c.charClass) = true
    · simp only [free, enters, not_true_eq_false, if_true, ne_eq, if_false] at after ⊢
      have lowest : g.getLowestRankId ≠ grGuildmaster := by
        have number := g.getLowestRankId_toNat staffed.least staffed.most
        have least := staffed.least
        rw [ne_eq, ← UInt8.toNat_inj, number]
        simp only [grGuildmaster, UInt8.toNat_zero]
        omega
      rw [after, (staffed.led_iff.mp led).insert_iff, own]
      simp [lowest]
    · simp only [free, enters, ne_eq, not_true_eq_false, if_false]
      simpa using led
  · simpa [free] using led

/-- The packet of a promotion is harmless but for an actor whose rank, one up, is zero. -/
lemma updatedRank_led_iff (player guid : UInt64) (demote : Bool) :
    (g.reassign guid (g.updatedRank player guid demote)).Led ↔
      g.KeepsLeader (.updateMemberRank player guid demote) := by
  rw [Guild.reassign_led_iff staffed led]
  unfold Guild.updatedRank
  simp only [Guild.KeepsLeader]
  cases hf : g.getMember guid with
  | none => simp
  | some member =>
    cases foundMe : g.getMember player with
    | none => simp
    | some memberMe =>
      simp only [Option.some.injEq, forall_eq']
      have first := led.master _ member hf
      simp only [Member.isRank, beq_iff_eq] at first
      constructor
      · rintro kept rfl _ _ rfl rfl top officer
        -- the wrapped comparison lets the request through
        have outside : g.getRankInfo memberMe.rankId = none := by
          have size := g.getRanksSize_toNat staffed.most
          have most := staffed.most
          rw [Guild.getRankInfo, if_neg]
          rw [top, UInt8.lt_iff_toNat_lt, size]
          simpa using by omega
        have right : g.hasRankRight player grRightPromote = true := by
          rw [Guild.hasRankRight, foundMe]
          simp [Guild.getRankRights, outside, grRightEmpty]
        have other : member.isSamePlayer player = false := by
          rw [Member.isSamePlayer, beq_eq_false_iff_ne]
          intro hs
          have key : guidLopart player = guidLopart guid := by
            rw [← hs, staffed.members _ member hf, guidLopart_playerGuid]
          rw [Guild.getMember, key] at foundMe
          have equal := Option.some.inj (hf.symm.trans foundMe)
          rw [equal, top] at officer
          revert officer
          decide
        have may : g.mayUpdate player false member memberMe = true := by
          simp [Guild.mayUpdate, right, other, officer, top, grOfficer]
        have crowned := (kept grGuildmaster (by simp [may, officer, grOfficer, grGuildmaster])).mp rfl
        rw [← first, officer] at crowned
        revert crowned
        decide
      · intro keeps rank updated
        split at updated
        next may =>
          obtain rfl := Option.some.inj updated
          unfold Guild.mayUpdate at may
          cases demote with
          | true =>
            simp only [if_true, Bool.and_eq_true, decide_eq_true_eq] at may ⊢
            obtain ⟨-, lower, above⟩ := may
            have notFirst : member.rankId ≠ grGuildmaster := fun zero => by
              rw [zero] at lower
              exact absurd lower (UInt8.not_lt.mpr (UInt8.zero_le))
            refine iff_of_false (fun wrapped => ?_) (fun leads => notFirst (first.mpr leads))
            rw [UInt8.lt_iff_toNat_lt] at above
            have number := g.getLowestRankId.toNat_lt
            have zero := congrArg UInt8.toNat wrapped
            rw [UInt8.toNat_add] at zero
            simp only [grGuildmaster, UInt8.toNat_zero, UInt8.toNat_one] at zero
            omega
          | false =>
            simp only [Bool.false_eq_true, if_false, Bool.and_eq_true, decide_eq_true_eq] at may ⊢
            obtain ⟨-, lower⟩ := may
            have notFirst : member.rankId ≠ grGuildmaster := fun zero => by
              rw [zero] at lower
              exact absurd lower (UInt8.not_lt.mpr (UInt8.zero_le))
            refine iff_of_false (fun zero => ?_) (fun leads => notFirst (first.mpr leads))
            have officer : member.rankId = grOfficer := by
              have := congrArg (· + 1) zero
              simpa [grGuildmaster, grOfficer] using this
            apply keeps rfl member memberMe rfl rfl ?_ officer
            -- only a wrapped sum is below one
            rw [officer, UInt8.lt_iff_toNat_lt, UInt8.toNat_add] at lower
            have bound := memberMe.rankId.toNat_lt
            apply UInt8.toNat_inj.mp
            simp only [grOfficer, UInt8.toNat_one] at lower
            change memberMe.rankId.toNat = 255
            omega
        next => cases updated

lemma setRank_led_iff (player guid : UInt64) (rank : UInt32) :
    (g.reassign guid (g.setRank player guid rank)).Led ↔
      g.KeepsLeader (.setMemberRank player guid rank) := by
  rw [Guild.reassign_led_iff staffed led]
  unfold Guild.setRank
  simp only [Guild.KeepsLeader]
  cases g.getMember guid with
  | none => simp
  | some member => cases may : g.maySetRank player rank member <;> simp [may]

lemma changedRank_led_iff (guid : UInt64) (rank : UInt8) :
    (g.changeMemberRank guid rank).1.Led ↔ g.KeepsLeader (.changeMemberRank guid rank) := by
  rw [Guild.changeMemberRank_eq, Guild.reassign_led_iff staffed led]
  constructor
  · intro kept inside hm hf
    exact kept rank (if_pos ⟨inside, by rw [Guild.isMember, hf]; rfl⟩) hm hf
  · intro keeps newRank given hm hf
    rw [Option.ite_none_right_eq_some] at given
    obtain rfl := Option.some.inj given.2
    exact keeps given.1.1 hm hf

lemma isLeader_iff (player : UInt64) :
    g.isLeader player = true ↔ guidLopart player = guidLopart g.leaderGuid := by
  obtain ⟨⟨m, here⟩, master⟩ := staffed.led_iff.mp led
  rw [Guild.isLeader, Bool.or_eq_true, beq_iff_eq]
  constructor
  · rintro (rfl | holds)
    · rfl
    · obtain ⟨hm, hf, first⟩ := (Option.any_eq_true _ _).mp holds
      exact (master _ hm hf).mp (by simpa [Member.isRank] using first)
  · intro hs
    right
    rw [Guild.getMember, hs, here]
    simpa [Member.isRank] using (master _ m here).mpr rfl

lemma crown_led_iff {player : UInt64} {new : Member} (leads : g.isLeader player = true)
    (hf : g.members.lookup k = some new) :
    ((g.setLeaderGuid k new).changeRank (guidLopart player) grInitiate).Led ↔
      new.guid ≠ g.leaderGuid := by
  have key := (isLeader_iff staffed led player).mp leads
  obtain ⟨⟨old, here⟩, master⟩ := staffed.led_iff.mp led
  have crowned : ((g.setLeaderGuid k new).changeRank (guidLopart player) grInitiate).leaderGuid =
      playerGuid k := by
    rw [Guild.leaderGuid_changeRank, Guild.leaderGuid_setLeaderGuid, staffed.members k new hf]
  rw [((staffed.setLeaderGuid hf).changeRank _ _).led_iff, crowned, guidLopart_playerGuid,
    staffed.members k new hf, staffed.leader, key, ne_eq, playerGuid_inj]
  constructor
  · rintro after rfl
    -- the leader's own entry is the one demoted
    have demoted := (Guild.lookup_changeRank (g.setLeaderGuid (guidLopart g.leaderGuid) new)
      (guidLopart g.leaderGuid) (guidLopart g.leaderGuid) grInitiate _).mpr
      (Or.inl ⟨rfl, { new with rankId := grGuildmaster },
        (Guild.lookup_changeRank _ _ _ _ _).mpr (Or.inl ⟨rfl, new, hf, rfl⟩), rfl⟩)
    have first := (after.2 _ _ demoted).mpr rfl
    simp [grInitiate, grGuildmaster] at first
  · intro other
    refine ⟨⟨{ new with rankId := grGuildmaster }, ?_⟩, fun k' m after => ?_⟩
    · exact (Guild.lookup_changeRank _ _ _ _ _).mpr (Or.inr ⟨other,
        (Guild.lookup_changeRank _ _ _ _ _).mpr (Or.inl ⟨rfl, new, hf, rfl⟩)⟩)
    · rcases (Guild.lookup_changeRank _ _ _ _ _).mp after with ⟨rfl, _, -, rfl⟩ | ⟨stays, before⟩
      · simp [grInitiate, grGuildmaster, Ne.symm other]
      · rcases (Guild.lookup_changeRank _ _ _ _ _).mp before with ⟨rfl, _, -, rfl⟩ | ⟨notNew, before⟩
        · simp
        · simpa [notNew, stays] using master k' m before

end

lemma serve_led_iff (w : World) (staffed : g.Staffed) (led : g.Led) (r : RankRequest)
    (genuine : r.Genuine) : Holds Guild.Led (serve w (some g) r) ↔ g.KeepsLeader r := by
  rw [serve_some]
  cases r with
  | addRank player name =>
    exact iff_of_true (led_of_answer led fun g' served =>
      (g.handleAddNewRank_onlyRanks player name served).led led) trivial
  | removeRank player rankId =>
    exact iff_of_true (led_of_answer led fun g' served =>
      (g.handleRemoveRank_onlyRanks player rankId served).led led) trivial
  | updateRank player id up =>
    exact iff_of_true (led_of_answer led fun g' served =>
      (g.handleUpdateRank_onlyRanks player id up served).led led) trivial
  | setRankInfo player rankId name rights money tabs =>
    exact iff_of_true (led_of_answer led fun g' served =>
      (g.handleSetRankInfo_onlyRanks player rankId name rights money tabs served).led led) trivial
  | accept c =>
    simp only [Guild.handle, Guild.handleAcceptMember, settle_ok, holds_some]
    split
    next otherTeam =>
      -- the leader is on the leader's side
      refine iff_of_true led fun hs => ?_
      simp [hs] at otherTeam
    next => exact addMember_led_iff staffed led genuine
  | enlist c =>
    rw [Guild.handle, settle_ok, holds_some]
    exact addMember_led_iff staffed led genuine
  | leave player =>
    refine iff_of_true ?_ trivial
    simp only [Guild.handle, Guild.handleLeaveMember]
    split
    · split
      · simpa using led
      · split
        · simpa using led
        · simp
    next follows =>
      exact led.deleteOther staffed fun hs => follows ((isLeader_iff staffed led player).mpr hs)
  | remove player guid =>
    refine iff_of_true ?_ trivial
    rw [Guild.handle, Guild.handleRemoveMember_eq]
    split
    next removes =>
      apply led.deleteOther staffed
      intro hs
      obtain ⟨⟨m, here⟩, master⟩ := staffed.led_iff.mp led
      -- the member under the leader's key holds the first rank and is not removed
      have first := (master _ m here).mpr rfl
      rw [← hs] at here
      simp only [Guild.removesMember, Guild.getMember, here, Member.isRank, Bool.and_eq_true] at removes
      cases me : g.members.lookup (guidLopart player) <;> simp [me, first] at removes
    next => simpa using led
  | delete guid =>
    refine iff_of_true ?_ trivial
    by_cases hs : guid = g.leaderGuid
    · rw [hs]
      exact led.deleteLeader staffed
    · apply led.deleteOther staffed
      intro key
      apply hs
      rw [show guid = playerGuid (guidLopart guid) from genuine, key]
      exact staffed.leader.symm
  | updateMemberRank player guid demote =>
    rw [Guild.handle, Guild.handleUpdateMemberRank_eq, holds_some]
    exact updatedRank_led_iff staffed led player guid demote
  | setMemberRank player guid rank =>
    rw [Guild.handle, Guild.handleSetMemberRank_eq, holds_some]
    exact setRank_led_iff staffed led player guid rank
  | changeMemberRank guid rank =>
    rw [Guild.handle, settle_ok, holds_some]
    exact changedRank_led_iff staffed led guid rank
  | setNewGuildMaster player name =>
    simp only [Guild.handle, Guild.handleSetNewGuildMaster, Guild.KeepsLeader]
    cases leads : g.isLeader player with
    | false => simpa using led
    | true =>
      obtain ⟨⟨m, here⟩, -⟩ := staffed.led_iff.mp led
      have old : g.getMember player = some m := by
        rw [Guild.getMember, (isLeader_iff staffed led player).mp leads, here]
      cases new : g.getMemberByName name with
      | none => simpa [old] using led
      | some entry =>
        obtain ⟨k, hm⟩ := entry
        simp only [old, Bool.not_true, Bool.false_eq_true, if_false, settle_map_ok, holds_some]
        rw [crown_led_iff staffed led leads (g.getMemberByName_found new)]
        simp
  | disband player =>
    refine iff_of_true ?_ trivial
    simp only [Guild.handle, Guild.handleDisband]
    split
    · simp
    · simpa using led

end Led

/-! ### The start -/

namespace Guild

variable {g : Guild}

/-- At most one member holds the first rank, unless it is the recorded leader's entry. -/
def SoleMaster (g : Guild) : Prop :=
  ∀ k m, g.members.lookup k = some m → m.rankId = grGuildmaster →
    k = guidLopart g.leaderGuid ∨ (g.isMember g.leaderGuid = false ∧
      ∀ k' m', g.members.lookup k' = some m' → m'.rankId = grGuildmaster → k' = k)

lemma Staffed.reRank (staffed : g.Staffed) (newRank : UInt32 → Member → Option UInt8) :
    (g.reRank newRank).Staffed := by
  refine ⟨fun k m hf => ?_, ?_, ?_, ?_⟩
  · rw [lookup_reRank, Option.map_eq_some_iff] at hf
    obtain ⟨old, here, rfl⟩ := hf
    exact staffed.members k old here
  · rw [leaderGuid_reRank]
    exact staffed.leader
  · rw [ranks_reRank]
    exact staffed.least
  · rw [ranks_reRank]
    exact staffed.most

lemma soleMaster_clamped (staffed : g.Staffed) : (g.reRank g.tooHigh).SoleMaster ↔ g.SoleMaster := by
  have first : ∀ k m, (g.tooHigh k m).getD m.rankId = grGuildmaster ↔ m.rankId = grGuildmaster := by
    intro k m
    unfold tooHigh
    split
    next high =>
      have lowest := g.getLowestRankId_toNat staffed.least staffed.most
      have least := staffed.least
      have above := UInt8.lt_iff_toNat_lt.mp high
      simp only [Option.getD_some, ← UInt8.toNat_inj, lowest, grGuildmaster, UInt8.toNat_zero]
      omega
    next => rfl
  have hm : (g.reRank g.tooHigh).isMember g.leaderGuid = g.isMember g.leaderGuid := by
    rw [isMember, getMember, lookup_reRank, Option.isSome_map]
    rfl
  simp only [SoleMaster, leaderGuid_reRank, lookup_reRank, Option.map_eq_some_iff, hm]
  constructor
  · intro sole k m hf master
    refine (sole k _ ⟨m, hf, rfl⟩ ((first k m).mpr master)).imp id (And.imp id fun only k' m' => ?_)
    intro hf' master'
    exact only k' _ ⟨m', hf', rfl⟩ ((first k' m').mpr master')
  · rintro sole k _ ⟨m, hf, rfl⟩ master
    refine (sole k m hf ((first k m).mp master)).imp id (And.imp id fun only k' m' => ?_)
    rintro ⟨m'', hf', rfl⟩ master'
    exact only k' m'' hf' ((first k' m'').mp master')

lemma repairLeader_led (staffed : g.Staffed) {g' : Guild} (repaired : g.repairLeader = some g') :
    g'.Staffed ∧ (∃ m, g'.members.lookup (guidLopart g'.leaderGuid) = some m ∧
      m.rankId = grGuildmaster) ∧ (g'.Led ↔ g.SoleMaster) := by
  unfold repairLeader at repaired
  cases recorded : g.getMember g.leaderGuid with
  | none =>
    have absent : g.isMember g.leaderGuid = false := by rw [isMember, recorded]; rfl
    simp only [recorded, deleteMember, if_true, Option.map_eq_some_iff] at repaired
    obtain ⟨⟨k, new⟩, chosen, rfl⟩ := repaired
    obtain ⟨other, hf, least⟩ := newLeader_some chosen
    have crowned := staffed.setLeaderGuid hf
    have after := crowned.eraseMember (guidLopart g.leaderGuid)
    have named : ((g.setLeaderGuid k new).eraseMember (guidLopart g.leaderGuid)).leaderGuid =
        playerGuid k := by
      rw [eraseMember, leaderGuid_setLeaderGuid, staffed.members k new hf]
    have entry : ∀ k' m, ((g.setLeaderGuid k new).eraseMember (guidLopart g.leaderGuid)).members.lookup k' =
        some m ↔ (k' = k ∧ m = { new with rankId := grGuildmaster }) ∨
          (k' ≠ k ∧ g.members.lookup k' = some m) := by
      intro k' m
      rw [eraseMember, Table.lookup_erase_iff]
      constructor
      · rintro ⟨-, here⟩
        rcases (lookup_changeRank _ _ _ _ _).mp here with ⟨rfl, old, stored, rfl⟩ | rest
        · obtain rfl := Option.some.inj (stored.symm.trans hf)
          exact Or.inl ⟨rfl, rfl⟩
        · exact Or.inr rest
      · rintro (⟨rfl, rfl⟩ | ⟨notNew, here⟩)
        · exact ⟨other, (lookup_changeRank _ _ _ _ _).mpr (Or.inl ⟨rfl, new, hf, rfl⟩)⟩
        · refine ⟨?_, (lookup_changeRank _ _ _ _ _).mpr (Or.inr ⟨notNew, here⟩)⟩
          rintro rfl
          rw [getMember, here] at recorded
          cases recorded
    refine ⟨after, ⟨_, by rw [named, guidLopart_playerGuid]; exact (entry k _).mpr (Or.inl ⟨rfl, rfl⟩), rfl⟩, ?_⟩
    rw [after.led_iff, named, guidLopart_playerGuid]
    constructor
    · intro led k' m here master
      have inside : ∀ k'' m'', g.members.lookup k'' = some m'' → m''.rankId = grGuildmaster → k'' = k := by
        intro k'' m'' there first
        by_contra notNew
        exact notNew ((led.2 k'' m'' ((entry k'' m'').mpr (Or.inr ⟨notNew, there⟩))).mp first)
      refine Or.inr ⟨absent, fun k'' m'' there first => ?_⟩
      rw [inside k' m here master, inside k'' m'' there first]
    · intro sole
      refine ⟨⟨_, (entry k _).mpr (Or.inl ⟨rfl, rfl⟩)⟩, fun k' m here => ?_⟩
      rcases (entry k' m).mp here with ⟨rfl, rfl⟩ | ⟨notNew, before⟩
      · simp
      · refine iff_of_false (fun master => ?_) notNew
        have present : k' ≠ guidLopart g.leaderGuid := by
          rintro rfl
          rw [getMember, before] at recorded
          cases recorded
        -- the chosen member has the least rank, so it was a master as well
        have low := least k' m present before
        rw [master] at low
        have zero : new.rankId = grGuildmaster := UInt8.le_antisymm low (UInt8.zero_le)
        rcases sole k' m before master with leads | ⟨-, only⟩
        · exact present leads
        · exact notNew (only k new hf zero).symm
  | some leader =>
    have present : g.isMember g.leaderGuid = true := by rw [isMember, recorded]; rfl
    simp only [recorded] at repaired
    have sole_iff : g.SoleMaster ↔ ∀ k m, k ≠ guidLopart g.leaderGuid →
        g.members.lookup k = some m → m.rankId ≠ grGuildmaster := by
      constructor
      · intro sole k m other hf master
        rcases sole k m hf master with leads | ⟨absent, -⟩
        · exact other leads
        · rw [present] at absent
          cases absent
      · intro none_ k m hf master
        by_contra other
        exact none_ k m (fun hs => other (Or.inl hs)) hf master
    rw [sole_iff]
    split at repaired
    next first =>
      obtain rfl := Option.some.inj repaired
      have zero : leader.rankId = grGuildmaster := by simpa [Member.isRank] using first
      refine ⟨staffed, ⟨leader, recorded, zero⟩, ?_⟩
      rw [staffed.led_iff]
      constructor
      · intro led k m other hf master
        exact other ((led.2 k m hf).mp master)
      · intro none_
        refine ⟨⟨leader, recorded⟩, fun k m hf => ⟨fun master => ?_, ?_⟩⟩
        · by_contra other
          exact none_ k m other hf master
        · rintro rfl
          obtain rfl := Option.some.inj (hf.symm.trans recorded)
          exact zero
    next =>
      obtain rfl := Option.some.inj repaired
      have after := staffed.setLeaderGuid recorded
      have named : guidLopart (g.setLeaderGuid (guidLopart g.leaderGuid) leader).leaderGuid =
          guidLopart g.leaderGuid := by
        rw [leaderGuid_setLeaderGuid, staffed.members _ _ recorded, guidLopart_playerGuid]
      refine ⟨after, ⟨{ leader with rankId := grGuildmaster }, ?_, rfl⟩, ?_⟩
      · rw [named]
        exact (lookup_changeRank _ _ _ _ _).mpr (Or.inl ⟨rfl, leader, recorded, rfl⟩)
      · rw [after.led_iff, named]
        constructor
        · intro led k m other hf master
          exact other ((led.2 k m ((lookup_changeRank _ _ _ _ _).mpr (Or.inr ⟨other, hf⟩))).mp master)
        · exact fun none_ => setLeaderGuid_ledBy recorded none_

lemma secondMaster_led (staffed : g.Staffed)
    (recorded : g.members.lookup (guidLopart g.leaderGuid) = some leader)
    (first : leader.rankId = grGuildmaster) : (g.reRank g.secondMaster).Led := by
  rw [(staffed.reRank _).led_iff, leaderGuid_reRank]
  constructor
  · exact ⟨_, by rw [lookup_reRank, recorded]; rfl⟩
  · intro k m hf
    rw [lookup_reRank, Option.map_eq_some_iff] at hf
    obtain ⟨old, here, rfl⟩ := hf
    have key := staffed.key here
    unfold secondMaster
    by_cases master : old.rankId = grGuildmaster
    · by_cases leads : k = guidLopart g.leaderGuid
      · simp [Member.isRank, Member.isSamePlayer, master, key.mpr leads, leads]
      · simp [Member.isRank, Member.isSamePlayer, master, mt key.mp leads, leads, grOfficer, grGuildmaster]
    · have follows : k ≠ guidLopart g.leaderGuid := by
        rintro rfl
        obtain rfl := Option.some.inj (here.symm.trans recorded)
        exact master first
      simp [Member.isRank, master, follows]

lemma create_led {w : World} {leader : Character} (genuine : IsPlayerGuid leader.guid)
    (made : create w leader = some g) : g.Staffed ∧ g.Led := by
  have rows := (create_rankInv made).rows
  unfold create at made
  dsimp only at made
  obtain ⟨-, members, master⟩ := createDefaultGuildRanks_of_empty w
    { leaderGuid := leader.guid, level := 1, bankMoney := 0, ranks := [], members := ∅,
      bankTabs := [] } rfl
  generalize createDefaultGuildRanks w _ = h at made members master
  rcases addMember_cases h leader grGuildmaster with refused | ⟨m, guid, rank, entered⟩
  · simp [refused] at made
  · simp only [entered, Option.some.injEq] at made
    subst made
    have only : ∀ k n, (h.members.insert (guidLopart leader.guid) m).lookup k = some n →
        k = guidLopart leader.guid ∧ n = m := by
      intro k n hf
      rcases (Table.lookup_insert_iff _ _ _ _ _).mp hf with here | ⟨-, before⟩
      · exact here
      · simp [members] at before
    have staffed : ({ h with members := h.members.insert (guidLopart leader.guid) m } : Guild).Staffed := by
      refine ⟨fun k n hf => ?_, by rw [master]; exact genuine, rows.least, rows.most⟩
      obtain ⟨rfl, rfl⟩ := only k n hf
      rw [guid]
      exact genuine
    refine ⟨staffed, staffed.led_iff.mpr ⟨⟨m, ?_⟩, fun k n hf => ?_⟩⟩
    · rw [master]
      exact AList.lookup_insert _
    · obtain ⟨rfl, rfl⟩ := only k n hf
      rw [master, rank]
      simp [guildRankNone, grGuildmaster]

end Guild

def Start.Genuine : Start → Prop
  | .created leader => IsPlayerGuid leader.guid
  | .loaded g => (∀ k m, g.members.lookup k = some m → m.guid = playerGuid k) ∧
      IsPlayerGuid g.leaderGuid

def Start.KeepsLeader (w : World) : Start → Prop
  | .created _ => True
  | .loaded g => w.allowMultipleGuildMaster = true → g.toGuild.SoleMaster

lemma start_led (w : World) (start : Start) (genuine : start.Genuine) :
    Holds Guild.Staffed (start.guild w) ∧ (Holds Guild.Led (start.guild w) ↔ start.KeepsLeader w) := by
  cases start with
  | created leader =>
    exact ⟨fun g made => (Guild.create_led genuine made).1,
      iff_of_true (fun g made => (Guild.create_led genuine made).2) trivial⟩
  | loaded g =>
    obtain ⟨rows, -, members, leader⟩ := Guild.repairRanks_spec w g
    have repaired : (g.toGuild.repairRanks w).Staffed :=
      ⟨by rw [members]; exact genuine.1, by rw [leader]; exact genuine.2, rows.least, rows.most⟩
    have sole : ((g.toGuild.repairRanks w).reRank (g.toGuild.repairRanks w).tooHigh).SoleMaster ↔
        g.toGuild.SoleMaster := by
      rw [Guild.soleMaster_clamped repaired]
      simp only [Guild.SoleMaster, Guild.isMember, Guild.getMember, members]
      rw [leader]
    have clamped := repaired.reRank (g.toGuild.repairRanks w).tooHigh
    simp only [Start.guild, Guild.validate, Start.KeepsLeader]
    rw [← sole]
    cases validated : ((g.toGuild.repairRanks w).reRank (g.toGuild.repairRanks w).tooHigh).repairLeader with
    | none =>
      refine ⟨holds_none _, iff_of_true (holds_none _) fun _ k m hf master => ?_⟩
      -- without a successor there is no member at all
      unfold Guild.repairLeader at validated
      split at validated
      next absent =>
        simp only [Guild.deleteMember, if_true, Option.map_eq_none_iff] at validated
        exact Or.inl (Guild.newLeader_none validated k m hf)
      next => split at validated <;> cases validated
    | some h =>
      obtain ⟨staffed, ⟨chief, recorded, first⟩, led⟩ := Guild.repairLeader_led clamped validated
      cases multiple : w.allowMultipleGuildMaster with
      | true => simpa using ⟨staffed, led⟩
      | false =>
        have only := Guild.secondMaster_led staffed recorded first
        simpa using ⟨staffed.reRank _, only⟩

/-! ### A whole run -/

/-- A start as the server makes it. -/
structure Founding where
  start : Start
  genuine : start.Genuine

/-- A request as the server makes it. -/
structure GuildRequest where
  request : RankRequest
  genuine : request.Genuine

def serveGenuine (w : World) (s : Option Guild) (r : GuildRequest) : Option Guild :=
  serve w s r.request

def AlwaysLed (w : World) (founding : Founding) (requests : List GuildRequest) : Prop :=
  Holds Guild.Led (founding.start.guild w) ∧
    Along (serveGenuine w) (fun s r => Holds Guild.Led (serveGenuine w s r))
      (founding.start.guild w) requests

/-- A guild is led all along a run exactly when its start and each request keep the leader. -/
theorem led_along_iff (w : World) (founding : Founding) (requests : List GuildRequest) :
    AlwaysLed w founding requests ↔ founding.start.KeepsLeader w ∧
      Along (serveGenuine w) (fun s r => Holds (fun g => g.KeepsLeader r.request) s)
        (founding.start.guild w) requests := by
  obtain ⟨staffed, led⟩ := start_led w founding.start founding.genuine
  rw [← led]
  apply and_congr_right
  intro ledStart
  apply along_iff_of_invariant (Holds fun g => g.Staffed ∧ g.Led)
  · intro s r inv next
    cases s with
    | none => exact holds_none _
    | some g =>
      rw [holds_some] at inv next
      have after := (serve_led_iff w inv.1 inv.2 r.request r.genuine).mpr next
      exact fun g' served => ⟨serve_staffed w inv.1 r.request r.genuine g' served, after g' served⟩
  · intro s r inv
    cases s with
    | none => exact iff_of_true (holds_none _) (holds_none _)
    | some g =>
      rw [holds_some] at inv ⊢
      exact serve_led_iff w inv.1 inv.2 r.request r.genuine
  · exact fun g started => ⟨staffed g started, ledStart g started⟩

/-- A leader who names himself is an initiate afterwards, and the guild has no master. -/
theorem crowned_himself_not_led : ¬ ∀ (w : World) (founding : Founding) (requests : List GuildRequest),
    AlwaysLed w founding requests := by
  intro claim
  let w : World :=
    { stackable := fun _ => 1, undeletableLevel := 26, allowTwoSideInteraction := false,
      allowMultipleGuildMaster := false, teamOf := fun _ => 469, defaultRankName := fun _ => "" }
  let leader : Character :=
    { guid := 1, name := "Leader", guildId := 0, online := true, level := 90, charClass := 1 }
  let founding : Founding := ⟨.created leader, by rfl⟩
  let naming : GuildRequest := ⟨.setNewGuildMaster 1 "Leader", trivial⟩
  have led := (claim w founding [naming]).2.1
  have rank : (serveGenuine w (founding.start.guild w) naming).map
      (fun g => (g.leaderGuid, (g.members.lookup 1).map fun m => (m.guid, m.rankId))) =
      some (1, some (1, 4)) := by rfl
  obtain ⟨g, served, shown⟩ := Option.map_eq_some_iff.mp rank
  obtain ⟨chief, entry⟩ := Prod.mk.inj shown
  obtain ⟨m, found, fields⟩ := Option.map_eq_some_iff.mp entry
  obtain ⟨guid, rankId⟩ := Prod.mk.inj fields
  have first := ((led g served).master 1 m found).mpr (by rw [guid, chief])
  rw [Member.isRank, rankId] at first
  cases first

end WorldServer.Guilds
