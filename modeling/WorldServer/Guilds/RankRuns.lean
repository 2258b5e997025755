import WorldServer.Guilds.Validate
import WorldServer.Lib.Run

/-!
# The rank table along every run

A guild starts created or loaded, then serves requests until it is disbanded.
`Harmless` names the requests that keep the rank table: a run keeps it exactly as
long as each of its requests is harmless.
-/
namespace WorldServer.Guilds

open WorldServer.Lib

inductive RankRequest where
  | addRank (player : UInt64) (name : String)
  | removeRank (player : UInt64) (rankId : UInt8)
  | updateRank (player : UInt64) (id : UInt32) (up : Bool)
  | setRankInfo (player : UInt64) (rankId : UInt8) (name : String) (rights moneyPerDay : UInt32)
      (rightsAndSlots : Vector (UInt8 × UInt32) guildBankMaxTabs)
  | accept (c : Character)
  | enlist (c : Character)
  | leave (player : UInt64)
  | remove (player guid : UInt64)
  | delete (guid : UInt64)
  | updateMemberRank (player guid : UInt64) (demote : Bool)
  | setMemberRank (player guid : UInt64) (rank : UInt32)
  | changeMemberRank (guid : UInt64) (rank : UInt8)
  | setNewGuildMaster (player : UInt64) (name : String)
  | disband (player : UInt64)

namespace Guild

def handle (w : World) (g : Guild) : RankRequest → Except Refusal (Option Guild)
  | .addRank player name => (g.handleAddNewRank player name).map some
  | .removeRank player rankId => (g.handleRemoveRank player rankId).map some
  | .updateRank player id up => (g.handleUpdateRank player id up).map some
  | .setRankInfo player rankId name rights money tabs =>
    (g.handleSetRankInfo player rankId name rights money tabs).map some
  | .accept c => .ok (some (g.handleAcceptMember w c))
  -- by petition or by command
  | .enlist c => .ok (some (g.addMember c).1)
  | .leave player => g.handleLeaveMember w player
  | .remove player guid => g.handleRemoveMember player guid
  | .delete guid => .ok (g.deleteMember guid)
  | .updateMemberRank player guid demote => (g.handleUpdateMemberRank player guid demote).map some
  | .setMemberRank player guid rank => (g.handleSetMemberRank player guid rank).map some
  | .changeMemberRank guid rank => .ok (some (g.changeMemberRank guid rank).1)
  | .setNewGuildMaster player name => (g.handleSetNewGuildMaster player name).map some
  | .disband player => .ok (g.handleDisband player)

end Guild

def settle (g : Guild) : Except Refusal (Option Guild) → Option Guild
  | .ok g' => g'
  | .error _ => some g

@[simp] lemma settle_ok (g : Guild) (g' : Option Guild) : settle g (.ok g') = g' := rfl

@[simp] lemma settle_error (g : Guild) (e : Refusal) : settle g (.error e) = some g := rfl

@[simp] lemma settle_map_ok (g g' : Guild) : settle g ((Except.ok g').map some) = some g' := rfl

@[simp] lemma settle_map_error (g : Guild) (e : Refusal) :
    settle g ((Except.error e : Except Refusal Guild).map some) = some g := rfl

def serve (w : World) (s : Option Guild) (r : RankRequest) : Option Guild :=
  s.bind fun g => settle g (g.handle w r)

/-- The request does not take a rank away from under a member or the ranks behind it,
and does not give a member a rank outside the table. -/
def Guild.Harmless (g : Guild) : RankRequest → Prop
  | .removeRank player rankId => g.removesRank player rankId = true →
      rankId.toNat + 1 = g.ranks.length ∧
        ∀ lowguid m, g.members.lookup lowguid = some m → m.rankId ≠ rankId
  | .setMemberRank player guid rank => ∀ member, g.getMember guid = some member →
      g.hasRankRight player (if member.rankId.toUInt32 < rank then grRightDemote
        else grRightPromote) = true →
      member.isSamePlayer player = false → rank.toNat % 256 < g.ranks.length
  | .setNewGuildMaster player name => g.isLeader player = true →
      (g.getMember player).isSome → (g.getMemberByName name).isSome → 4 < g.ranks.length
  | _ => True

/-! ### One request -/

lemma serve_some (w : World) (g : Guild) (r : RankRequest) :
    serve w (some g) r = settle g (g.handle w r) := rfl

private lemma holds_of_answer {P : Guild → Prop} {g : Guild} (before : P g)
    (answer : Except Refusal Guild) (keeps : ∀ g', answer = .ok g' → P g') :
    Holds P (settle g (answer.map some)) := by
  cases answer with
  | ok g' => simpa using keeps g' rfl
  | error e => simpa using before

section

variable (g : Guild) (inv : g.RankInv) (w : World) (player : UInt64)
include inv

lemma handleRemoveRank_iff (rankId : UInt8) :
    Holds Guild.RankTable (serve w (some g) (.removeRank player rankId)) ↔
      g.Harmless (.removeRank player rankId) := by
  simp only [serve_some, Guild.handle, Guild.handleRemoveRank, Guild.Harmless]
  cases removes : g.removesRank player rankId with
  | false => simpa using inv.toRankTable
  | true =>
    have bound : rankId.toNat < g.ranks.length := by
      simp only [Guild.removesRank, Bool.and_eq_true, decide_eq_true_eq, UInt8.lt_iff_toNat_lt,
        g.getRanksSize_toNat inv.most] at removes
      exact removes.1.2
    simp only [if_true, settle_map_ok, holds_some, forall_const, ne_eq, ← UInt8.toNat_inj]
    exact g.rankTable_eraseIdx_iff inv.toRankTable rankId.toNat bound

lemma handleSetMemberRank_iff (guid : UInt64) (rank : UInt32) :
    Holds Guild.RankTable (serve w (some g) (.setMemberRank player guid rank)) ↔
      g.Harmless (.setMemberRank player guid rank) := by
  simp only [serve_some, Guild.handle, Guild.handleSetMemberRank, Guild.Harmless]
  cases hf : g.getMember guid with
  | none => simpa using inv.toRankTable
  | some member =>
    simp only [Option.some.injEq, forall_eq']
    generalize g.hasRankRight player _ = right
    cases right with
    | false => simpa using inv.toRankTable
    | true =>
      cases hs : member.isSamePlayer player with
      | true => simpa using inv.toRankTable
      | false =>
        simp only [Bool.not_true, Bool.false_eq_true, if_false, settle_map_ok, holds_some, forall_const]
        rw [g.rankTable_changeRank_iff inv.toRankTable (guidLopart guid) member hf]
        simp

lemma handleSetNewGuildMaster_iff (name : String) :
    Holds Guild.RankTable (serve w (some g) (.setNewGuildMaster player name)) ↔
      g.Harmless (.setNewGuildMaster player name) := by
  simp only [serve_some, Guild.handle, Guild.handleSetNewGuildMaster, Guild.Harmless]
  cases leads : g.isLeader player with
  | false => simpa using inv.toRankTable
  | true =>
    cases old : g.getMember player with
    | none => simpa using inv.toRankTable
    | some oldGuildMaster =>
      cases new : g.getMemberByName name with
      | none => simpa using inv.toRankTable
      | some entry =>
        obtain ⟨k, newGuildMaster⟩ := entry
        simp only [Bool.not_true, Bool.false_eq_true, if_false, settle_map_ok, holds_some,
          Option.isSome_some, forall_const]
        -- the old leader is still a member when the initiate's rank is given
        have crowned := inv.setLeaderGuid k newGuildMaster
        obtain ⟨still, here⟩ : ∃ m, (g.setLeaderGuid k newGuildMaster).members.lookup
            (guidLopart player) = some m := by
          by_cases hs : guidLopart player = k
          · exact ⟨{ oldGuildMaster with rankId := grGuildmaster }, (Guild.lookup_changeRank _ _ _ _ _).mpr
              (Or.inl ⟨hs, oldGuildMaster, hs ▸ old, rfl⟩)⟩
          · exact ⟨oldGuildMaster, (Guild.lookup_changeRank _ _ _ _ _).mpr (Or.inr ⟨hs, old⟩)⟩
        rw [Guild.rankTable_changeRank_iff _ crowned.toRankTable _ still here]
        simp [grInitiate]

end

lemma serve_rankInv (w : World) (g : Guild) (inv : g.RankInv) (r : RankRequest)
    (harmless : g.Harmless r) : Holds Guild.RankInv (serve w (some g) r) := by
  rw [serve_some]
  cases r with
  | addRank player name =>
    apply holds_of_answer inv
    intro g' served
    unfold Guild.handleAddNewRank at served
    split at served
    · exact Except.ok.inj served ▸ inv
    · split at served
      · cases served
      · exact Except.ok.inj served ▸ inv.createRank name _
  | removeRank player rankId =>
    have table := (handleRemoveRank_iff g inv w player rankId).mpr harmless
    simp only [serve_some, Guild.handle, Guild.handleRemoveRank] at table ⊢
    cases removes : g.removesRank player rankId with
    | false => simpa using inv
    | true =>
      simp only [removes, if_true, settle_map_ok, holds_some] at table ⊢
      simp only [Guild.removesRank, Bool.and_eq_true, decide_eq_true_eq, UInt8.lt_iff_toNat_lt,
        g.getRanksSize_toNat inv.most] at removes
      exact inv.eraseIdx rankId.toNat removes.1.2 removes.1.1 table
  | updateRank player id up =>
    exact holds_of_answer inv _ fun g' => inv.handleUpdateRank player id up
  | setRankInfo player rankId name rights money tabs =>
    exact holds_of_answer inv _ fun g' => inv.handleSetRankInfo player rankId name rights money tabs
  | accept c =>
    simp only [Guild.handle, Guild.handleAcceptMember, settle_ok, holds_some]
    split
    · exact inv
    · exact inv.addMember c
  | enlist c => simpa [Guild.handle] using inv.addMember c
  | leave player =>
    simp only [Guild.handle, Guild.handleLeaveMember]
    split
    · split
      · simpa using inv
      · split
        · simpa using inv
        · simp
    · exact fun g' left => inv.deleteMember player left
  | remove player guid =>
    simp only [Guild.handle, Guild.handleRemoveMember]
    split
    · simpa using inv
    · split
      · simpa using inv
      · split
        · simpa using inv
        · split
          · simpa using inv
          · split
            · simpa using inv
            · exact fun g' left => inv.deleteMember guid left
  | delete guid => exact fun g' left => inv.deleteMember guid left
  | updateMemberRank player guid demote =>
    exact holds_of_answer inv _ fun g' => inv.handleUpdateMemberRank player guid demote
  | setMemberRank player guid rank =>
    apply holds_of_answer inv
    intro g' served
    simp only [Guild.handleSetMemberRank] at served
    cases hf : g.getMember guid with
    | none =>
      simp only [hf] at served
      exact Except.ok.inj served ▸ inv
    | some member =>
      have bound := harmless member hf
      simp only [hf] at served
      generalize g.hasRankRight player _ = right at served bound
      cases right with
      | false => cases served
      | true =>
        cases hs : member.isSamePlayer player with
        | true => simp [hs] at served
        | false =>
          simp only [hs, Bool.not_true, Bool.false_eq_true, if_false] at served
          obtain rfl := Except.ok.inj served
          apply inv.changeRank
          simpa using bound rfl hs
  | changeMemberRank guid rank =>
    simp only [Guild.handle, Guild.changeMemberRank, settle_ok, holds_some]
    split
    next existing =>
      have lowest := g.getLowestRankId_toNat inv.least inv.most
      have least := inv.least
      simp only [Bool.and_eq_true, decide_eq_true_eq, UInt8.le_iff_toNat_le, lowest] at existing
      apply inv.changeRank (guidLopart guid) rank
      omega
    next => exact inv
  | setNewGuildMaster player name =>
    apply holds_of_answer inv
    intro g' served
    unfold Guild.handleSetNewGuildMaster at served
    split at served
    · cases served
    next leads =>
      split at served
      next old k new oldFound newFound =>
        obtain rfl := Except.ok.inj served
        apply (inv.setLeaderGuid k new).changeRank
        rw [Guild.ranks_setLeaderGuid]
        exact harmless (by simpa using leads) (by simp [oldFound]) (by simp [newFound])
      next => exact Except.ok.inj served ▸ inv
  | disband player =>
    simp only [Guild.handle, Guild.handleDisband]
    split
    · simp
    · simpa using inv

lemma serve_rankTable_iff (w : World) (g : Guild) (inv : g.RankInv) (r : RankRequest) :
    Holds Guild.RankTable (serve w (some g) r) ↔ g.Harmless r := by
  by_cases risky : (∃ player rankId, r = .removeRank player rankId) ∨
      (∃ player guid rank, r = .setMemberRank player guid rank) ∨
      (∃ player name, r = .setNewGuildMaster player name)
  · rcases risky with ⟨player, rankId, rfl⟩ | ⟨player, guid, rank, rfl⟩ | ⟨player, name, rfl⟩
    · exact handleRemoveRank_iff g inv w player rankId
    · exact handleSetMemberRank_iff g inv w player guid rank
    · exact handleSetNewGuildMaster_iff g inv w player name
  · have harmless : g.Harmless r := by
      cases r <;> first
        | trivial
        | exact absurd ⟨_, _, rfl⟩ (not_or.mp risky).1
        | exact absurd ⟨_, _, _, rfl⟩ (not_or.mp (not_or.mp risky).2).1
        | exact absurd ⟨_, _, rfl⟩ (not_or.mp (not_or.mp risky).2).2
    have kept := serve_rankInv w g inv r harmless
    simp only [harmless, iff_true]
    exact fun g' after => (kept g' after).toRankTable

/-! ### A whole run -/

inductive Start where
  | created (leader : Character)
  | loaded (g : LoadedGuild)

def Start.guild (w : World) : Start → Option Guild
  | .created leader => Guild.create w leader
  | .loaded g => g.toGuild.validate w

def Start.Harmless : Start → Prop
  | .created _ => True
  | .loaded g => g.toGuild.LoadsHarmless

lemma start_rankTable_iff (w : World) (start : Start) :
    Holds Guild.RankTable (start.guild w) ↔ start.Harmless := by
  cases start with
  | created leader => exact iff_of_true (fun g made => (Guild.create_rankInv made).toRankTable) trivial
  | loaded g => exact Guild.validate_rankTable_iff w g

lemma start_rankRows (w : World) (start : Start) : Holds Guild.RankRows (start.guild w) := by
  cases start with
  | created leader => exact fun g made => (Guild.create_rankInv made).rows
  | loaded g => exact Guild.validate_rankRows w g

/-- The table is intact at the start and after every request of the run. -/
def AlwaysRankTable (w : World) (start : Start) (requests : List RankRequest) : Prop :=
  Holds Guild.RankTable (start.guild w) ∧
    Along (serve w) (fun s r => Holds Guild.RankTable (serve w s r)) (start.guild w) requests

/-- A run keeps the rank table intact exactly when it starts and goes on harmlessly. -/
theorem rankTable_along_iff (w : World) (start : Start) (requests : List RankRequest) :
    AlwaysRankTable w start requests ↔ start.Harmless ∧
      Along (serve w) (fun s r => Holds (fun g => g.Harmless r) s) (start.guild w) requests := by
  unfold AlwaysRankTable
  rw [start_rankTable_iff]
  apply and_congr_right
  intro harmless
  have table := (start_rankTable_iff w start).mpr harmless
  apply along_iff_of_invariant (Holds Guild.RankInv)
  · intro s r inv next
    cases s with
    | none => exact holds_none _
    | some g =>
      rw [holds_some] at inv next
      exact serve_rankInv w g inv r next
  · intro s r inv
    cases s with
    | none => exact iff_of_true (holds_none _) (holds_none _)
    | some g =>
      rw [holds_some] at inv ⊢
      exact serve_rankTable_iff w g inv r
  · exact fun g started => (start_rankRows w start g started).inv (table g started)

/-- A leader who removes the second of the five default ranks leaves the ids 0, 2, 3, 4. -/
theorem removed_rank_leaves_gap :
    ¬ ∀ (w : World) (start : Start) (requests : List RankRequest),
      AlwaysRankTable w start requests := by
  intro claim
  let w : World :=
    { stackable := fun _ => 1, undeletableLevel := 26, allowTwoSideInteraction := false,
      allowMultipleGuildMaster := false, teamOf := fun _ => 469, defaultRankName := fun _ => "" }
  let leader : Character :=
    { guid := 1, name := "Leader", guildId := 0, online := true, level := 90, charClass := 1 }
  have table := (claim w (.created leader) [.removeRank 1 1]).2.1
  have ids : ∀ g, serve w (Start.guild w (.created leader)) (.removeRank 1 1) = some g →
      g.rankIds = [0, 2, 3, 4] := by
    intro g served
    have computed : (serve w (Start.guild w (.created leader)) (.removeRank 1 1)).map Guild.rankIds =
        some [0, 2, 3, 4] := by rfl
    rw [served] at computed
    exact Option.some.inj computed
  cases served : serve w (Start.guild w (.created leader)) (.removeRank 1 1) with
  | none =>
    have alive : (serve w (Start.guild w (.created leader)) (.removeRank 1 1)).isSome = true := by rfl
    rw [served] at alive
    cases alive
  | some g =>
    have gap := (table g served).ids
    rw [ids g served, ← Guild.length_rankIds, ids g served] at gap
    revert gap
    decide

end WorldServer.Guilds
