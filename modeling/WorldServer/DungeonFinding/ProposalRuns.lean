import WorldServer.DungeonFinding.Announcements

/-!
# Runs of the manager

As long as no request touches the state of a player who has a proposal, apart from the proposal's
own end, and every tick makes at most one proposal, each player has at most one proposal and knows
of it. That the players of a match have no other proposal is not asked: it follows along the run.
-/
namespace WorldServer.DungeonFinding

open WorldServer.Lib

/-- The scripts of a step queue no group. -/
def LFGStep.Tame : LFGStep → Prop
  | .update _ regroup | .answer _ regroup _ _ _ => Stores.Tame regroup
  | .updateBoot kick _ _ => Stores.Tame kick
  | .scripts change => Stores.Tame change
  | .join .. | .leave .. | .roleCheck .. | .initBoot .. => True

namespace LFGMgr

section Steps

variable {m : LFGMgr}

/-- A step sets no state of a player with an open proposal, apart from the end of the proposal, a
group that becomes an entry is in no other queue, and an update makes at most one proposal. -/
def Calm (m : LFGMgr) : LFGStep → Prop
  | .join w request =>
    request.Typed ∧ AdmitsJoin w m request ∧ ∀ g ∈ joinGuids w m request, ¬ m.proposals.Open g
  | .leave _ guid => ∀ g ∈ m.leaveGuids guid, ¬ m.proposals.Open g
  | .roleCheck gguid guid roles =>
    IS_GROUP_GUID guid = false ∧ m.Admits gguid guid roles ∧
      ∀ g ∈ m.roleCheckGuids gguid guid roles, ¬ m.proposals.Open g
  | .update w _ => CalmUpdate w m
  | .answer _ regroup id guid accept =>
    accept = true → (m.withFinder (m.setAnswer id guid .agree)).CalmGroup regroup id guid
  | .initBoot _ gguid _ _ => ∀ g ∈ gguid :: m.GetPlayers gguid, ¬ m.proposals.Open g
  | .updateBoot kick guid accept => m.CalmVote kick guid accept
  | .scripts change => m.toFinder.Leaves m.queueIds change

instance decidableCalm (m : LFGMgr) : (a : LFGStep) → Decidable (m.Calm a)
  | .join .. | .leave .. | .roleCheck .. | .update .. | .answer .. | .initBoot .. | .updateBoot .. |
    .scripts .. => by
    unfold Calm
    infer_instance

lemma step_sound (sound : m.Sound) {a : LFGStep} (tame : a.Tame) (calm : m.Calm a) :
    (m.step a).Sound := by
  cases a with
  | join w request =>
    obtain ⟨typed, admits, closed⟩ := calm
    exact sound_JoinLfg sound typed admits closed
  | leave w guid => exact sound_LeaveLfg sound w calm
  | roleCheck gguid guid roles =>
    obtain ⟨isPlayer, admits, closed⟩ := calm
    exact sound_UpdateRoleCheck sound isPlayer admits closed
  | update w regroup => exact Update_sound sound calm regroup
  | answer w regroup id guid accept => exact (keeps_UpdateProposal sound w tame calm).sound sound
  | initBoot w gguid kicker victim => exact (keeps_InitBoot w kicker victim calm).sound sound
  | updateBoot kick guid accept => exact (keeps_UpdateBoot tame calm).sound sound
  | scripts change => exact (keeps_scripts tame calm).sound sound

/-- A server that has started: nobody has a proposal, is queued or checks roles. -/
structure Started (m : LFGMgr) : Prop where
  proposals : m.proposals.ProposalsStore = ∅
  queues : ∀ queueId ∈ m.queueIds, (m.QueuesStore queueId).QueueDataStore = ∅
  checks : m.RoleChecksStore = ∅
  restored : ∀ g, m.stores.GetOldState g ≠ .queued

lemma Started.sound (started : m.Started) : m.Sound := by
  have closed : ∀ id proposal, m.proposals.ProposalsStore.lookup id ≠ some proposal := by
    intro id proposal hf
    rw [started.proposals] at hf
    cases hf
  have unqueued : ∀ queueId guid data, ¬ m.Entry queueId guid data := by
    rintro queueId guid data ⟨used, hf⟩
    rw [started.queues queueId used] at hf
    cases hf
  have unchecked : m.Checks := by
    intro gguid roleCheck hf
    rw [started.checks] at hf
    cases hf
  exact
    { exclusive := fun id _ proposal _ _ hf => absurd hf (closed id proposal)
      announced := fun id proposal hf => absurd hf (closed id proposal)
      undecided := fun id proposal hf => absurd hf (closed id proposal)
      grouped := fun id proposal hf => absurd hf (closed id proposal)
      entered :=
        { players := fun _ _ _ entry => absurd entry (unqueued _ _ _)
          alone := fun _ _ _ entry => absurd entry (unqueued _ _ _)
          members := fun _ _ _ entry => absurd entry (unqueued _ _ _)
          once := fun _ _ _ _ _ _ entry => absurd entry (unqueued _ _ _)
          free := fun _ _ _ _ _ entry => absurd entry (unqueued _ _ _)
          whole := fun id proposal hf => absurd hf (closed id proposal)
          restored := started.restored
          checks := unchecked } }

/-- From a start, every run of calm steps leaves each player with at most one open proposal, for
which he is in the state and which was sent to him. -/
theorem proposals_exclusive (started : m.Started) (as : List LFGStep)
    (calm : Along step (fun m a => a.Tame ∧ m.Calm a) m as) :
    (run step m as).Exclusive ∧ (run step m as).Announced := by
  have keeps : ∀ (m : LFGMgr) (a : LFGStep), m.Sound → a.Tame ∧ m.Calm a → (m.step a).Sound :=
    fun m a sound calm => step_sound sound calm.1 calm.2
  have sound := run_invariant (fun m : LFGMgr => m.Sound) keeps started.sound calm
  exact ⟨sound.exclusive, sound.announced⟩

end Steps

/-! ### Two proposals -/

instance (m : LFGMgr) : Decidable m.Exclusive :=
  decidable_of_iff (∀ e ∈ m.proposals.ProposalsStore.entries,
      ∀ e' ∈ m.proposals.ProposalsStore.entries, ∀ g ∈ e.2.guids, g ∈ e'.2.guids → e.1 = e'.1) <| by
    constructor
    · intro all id id' proposal proposal' g found found' member member'
      exact all ⟨id, proposal⟩ (AList.mem_lookup_iff.mp found) ⟨id', proposal'⟩
        (AList.mem_lookup_iff.mp found') g member member'
    · intro all e inStore e' inStore' g member member'
      exact all e.1 e'.1 e.2 e'.2 g (AList.mem_lookup_iff.mpr inStore)
        (AList.mem_lookup_iff.mpr inStore') member member'

instance (m : LFGMgr) : Decidable m.Announced :=
  decidable_of_iff (∀ e ∈ m.proposals.ProposalsStore.entries, ∀ g ∈ e.2.guids,
      m.stores.GetState g = .proposal ∧ (g, e.1) ∈ m.sent) <| by
    constructor
    · exact fun all id proposal found => all ⟨id, proposal⟩ (AList.mem_lookup_iff.mp found)
    · exact fun all e member => all e.1 e.2 (AList.mem_lookup_iff.mpr member)

def inWorld : World := { Matching.quiet with social := fun _ => some fun _ => false }

def partyOf (guid : UInt64) : UInt64 :=
  if 2 ≤ guid ∧ guid ≤ 5 then Matching.groupGuid 1
  else if 7 ≤ guid ∧ guid ≤ 10 then Matching.groupGuid 2
  else 0

def started : LFGMgr where
  QueuesStore _ := ⟨∅, ∅, [], []⟩
  proposals := ⟨∅, 0⟩
  stores :=
    { PlayersStore := fun guid => ⟨.none, .none, 0, partyOf guid⟩
      GroupsStore := fun gguid =>
        if gguid = Matching.groupGuid 1 then ⟨.none, .none, 2, [2, 3, 4, 5]⟩
        else ⟨.none, .none, 7, [7, 8, 9, 10]⟩ }
  RoleChecksStore := ∅
  BootsStore := ∅
  queueIds := [0]
  enabled := true
  sent := []

def joinAs (grp : Option Party) (guid : UInt64) (roles : UInt8) : LFGStep :=
  .join inWorld { guid, grp, roles, dungeons := [7], isRaid := false, restricted := false }

def joinTank (guid : UInt64) : LFGStep := joinAs none guid PLAYER_ROLE_TANK

def joinParty (guid : UInt64) : List LFGStep :=
  let gguid := partyOf guid
  [joinAs (some ⟨gguid, 4, [guid, guid + 1, guid + 2, guid + 3]⟩) guid PLAYER_ROLE_HEALER,
    .roleCheck gguid (guid + 1) PLAYER_ROLE_DAMAGE, .roleCheck gguid (guid + 2) PLAYER_ROLE_DAMAGE,
    .roleCheck gguid (guid + 3) PLAYER_ROLE_DAMAGE]

/-- The tank accepts, and the healer of the group declines by leaving. The group joins again, and
there is a second proposal. -/
def again : List LFGStep :=
  joinParty 2 ++ [joinTank 1, .update inWorld id, .answer inWorld id 1 1 true, .leave inWorld 2] ++
    joinParty 2 ++ [.update inWorld id]

lemma tame_id : Stores.Tame id := fun _ restored => ⟨restored, fun _ _ queued => queued⟩

lemma started_started : started.Started where
  proposals := rfl
  queues _ _ := rfl
  checks := rfl
  restored g := by
    have none : started.stores.GetOldState g = .none := by
      unfold Stores.GetOldState started
      dsimp only
      split
      · split <;> rfl
      · rfl
    rw [none]
    decide

lemma tame_again : ∀ a ∈ again, a.Tame := by
  simp [again, joinParty, joinTank, joinAs, LFGStep.Tame, tame_id]

theorem proposals_exclusive_again :
    (run step started again).Exclusive ∧ (run step started again).Announced :=
  proposals_exclusive started_started again
    (along_and.mpr ⟨along_of_forall tame_again, by decide +kernel⟩)

/-- The tank of an open proposal joins again, and so does another group. -/
def rejoined : List LFGStep :=
  joinParty 2 ++ [joinTank 1, .update inWorld id, joinTank 1] ++ joinParty 7 ++ [.update inWorld id]

def crowded : List LFGStep :=
  joinParty 2 ++ [joinTank 1] ++ joinParty 7 ++ [joinTank 6, .update inWorld id]

/-- A player has two open proposals, and the players of the first of two proposals are not told. -/
theorem proposals_overlap : started.Started ∧
    ¬ (run step started rejoined).Exclusive ∧ ¬ (run step started crowded).Announced :=
  ⟨started_started, by decide +kernel, by decide +kernel⟩

end LFGMgr

end WorldServer.DungeonFinding
