import WorldServer.DungeonFinding.Manager
import WorldServer.DungeonFinding.Matches

/-!
# Entries and open proposals

The players of an open proposal should know of it, and have no other. That needs the queue: an entry
that is queued is free of players with an open proposal. The states of players and groups are set by
many operations; what matters of each of them is which states it sets, which entries are new, and
which proposals it removes.
-/
namespace WorldServer.DungeonFinding

open WorldServer.Lib

def LfgProposal.guids (proposal : LfgProposal) : List UInt64 := proposal.players.map Prod.fst

def LfgProposal.groups (proposal : LfgProposal) : List (UInt64 × UInt64) :=
  proposal.players.map fun player => (player.1, player.2.group)

variable {proposal : LfgProposal}

lemma LfgProposal.guids_congr {proposal' : LfgProposal}
    (hs : proposal'.groups = proposal.groups) : proposal'.guids = proposal.guids := by
  have guids : ∀ proposal : LfgProposal, proposal.guids = proposal.groups.map Prod.fst :=
    fun proposal => by simp [LfgProposal.guids, LfgProposal.groups]
  rw [guids, guids, hs]

def Proposals.Open (proposals : Proposals) (g : UInt64) : Prop :=
  ∃ id proposal, proposals.ProposalsStore.lookup id = some proposal ∧ g ∈ proposal.guids

namespace Proposals

variable (proposals : Proposals)

instance (g : UInt64) : Decidable (proposals.Open g) :=
  decidable_of_iff (∃ e ∈ proposals.ProposalsStore.entries, g ∈ e.2.guids) <| by
    constructor
    · rintro ⟨e, member, inGuids⟩
      exact ⟨e.1, e.2, AList.mem_lookup_iff.mpr member, inGuids⟩
    · rintro ⟨id, proposal, found, inGuids⟩
      exact ⟨⟨id, proposal⟩, AList.mem_lookup_iff.mp found, inGuids⟩

def without (id : UInt32) : Proposals :=
  { proposals with ProposalsStore := proposals.ProposalsStore.erase id }

def LeavesOpen (stores : Stores) (change : Stores → Stores) : Prop :=
  ∀ g, proposals.Open g → (change stores).GetState g = stores.GetState g

instance (stores : Stores) (change : Stores → Stores) :
    Decidable (proposals.LeavesOpen stores change) :=
  decidable_of_iff (∀ e ∈ proposals.ProposalsStore.entries, ∀ g ∈ e.2.guids,
      (change stores).GetState g = stores.GetState g) <| by
    constructor
    · rintro all g ⟨id, proposal, found, inGuids⟩
      exact all ⟨id, proposal⟩ (AList.mem_lookup_iff.mp found) g inGuids
    · exact fun all e member g inGuids =>
        all g ⟨e.1, e.2, AList.mem_lookup_iff.mpr member, inGuids⟩

end Proposals

namespace Stores

variable (stores : Stores) (guid g : UInt64)

lemma GetState_SetState (state : LfgState) :
    (stores.SetState guid state).GetState g = if g = guid then state else stores.GetState g := by
  unfold SetState GetState
  by_cases hs : g = guid
  · subst hs
    by_cases isGroup : IS_GROUP_GUID g <;> simp [isGroup]
  · rw [if_neg hs]
    cases isGroup : IS_GROUP_GUID guid <;> simp [Function.update_of_ne hs]

lemma GetState_RestoreState (other : g ≠ guid) :
    (stores.RestoreState guid).GetState g = stores.GetState g := by
  unfold RestoreState GetState
  cases isGroup : IS_GROUP_GUID guid <;> simp [Function.update_of_ne other]

lemma GetState_SetStates (guids : List UInt64) (state : LfgState) :
    (guids.foldl (fun stores guid => stores.SetState guid state) stores).GetState g =
      if g ∈ guids then state else stores.GetState g := by
  induction guids generalizing stores with
  | nil => rfl
  | cons guid guids ih =>
    rw [List.foldl_cons, ih, GetState_SetState]
    by_cases later : g ∈ guids <;> by_cases here : g = guid <;> simp [later, here]

/-- A change of states that leaves everybody outside a list alone, made for several in turn. -/
lemma GetState_foldl {α : Type} {change : Stores → α → Stores} (touched : α → List UInt64)
    (leaves : ∀ stores a, g ∉ touched a → (change stores a).GetState g = stores.GetState g)
    (as : List α) (out : ∀ a ∈ as, g ∉ touched a) :
    (as.foldl change stores).GetState g = stores.GetState g := by
  induction as generalizing stores with
  | nil => rfl
  | cons a as ih =>
    obtain ⟨here, out⟩ := List.forall_mem_cons.mp out
    rw [List.foldl_cons, ih _ out, leaves stores a here]

/-- Groups and queues are the same; no state to be restored is `queued`, and a group is queued only if
it was or is one of those `again`. -/
structure Settles (again : UInt64 → Prop) (stores stores' : Stores) : Prop where
  groups : ∀ g, (stores'.PlayersStore g).m_Group = (stores.PlayersStore g).m_Group
  queue : ∀ g, stores'.GetQueueId g = stores.GetQueueId g
  restored : (∀ g, stores.GetOldState g ≠ .queued) → ∀ g, stores'.GetOldState g ≠ .queued
  queued : (∀ g, stores.GetOldState g ≠ .queued) → ∀ g, IS_GROUP_GUID g →
    stores'.GetState g = .queued → stores.GetState g = .queued ∨ again g

section Settles

variable {stores guid g} {stores' stores'' : Stores} {again : UInt64 → Prop}

lemma Settles.refl (again : UInt64 → Prop) (stores : Stores) : stores.Settles again stores :=
  ⟨fun _ => rfl, fun _ => rfl, fun restored => restored, fun _ _ _ queued => .inl queued⟩

lemma Settles.trans (first : stores.Settles again stores')
    (next : stores'.Settles again stores'') : stores.Settles again stores'' where
  groups g := (next.groups g).trans (first.groups g)
  queue g := (next.queue g).trans (first.queue g)
  restored restored := next.restored (first.restored restored)
  queued restored g isGroup queued := by
    rcases next.queued (first.restored restored) g isGroup queued with before | isAgain
    · exact first.queued restored g isGroup before
    · exact .inr isAgain

lemma Settles.foldl {α : Type} {change : Stores → α → Stores} (as : List α)
    (settles : ∀ stores : Stores, ∀ a ∈ as, stores.Settles again (change stores a))
    (stores : Stores) : stores.Settles again (as.foldl change stores) := by
  induction as generalizing stores with
  | nil => exact .refl again stores
  | cons a as ih =>
    have later := ih fun stores b hm => settles stores b (List.mem_cons_of_mem a hm)
    exact (settles stores a List.mem_cons_self).trans (later _)

lemma kept_ne_queued {state old : LfgState} (other : old ≠ .queued) : kept state old ≠ .queued := by
  unfold kept
  split <;> first | exact other | decide

lemma GetOldState_SetState (stores : Stores) (guid g : UInt64) (state : LfgState) :
    (stores.SetState guid state).GetOldState g =
      if g = guid then kept state (stores.GetOldState g) else stores.GetOldState g := by
  unfold SetState GetOldState
  by_cases hs : g = guid
  · subst hs
    by_cases isGroup : IS_GROUP_GUID g <;> simp [isGroup]
  · rw [if_neg hs]
    cases isGroup : IS_GROUP_GUID guid <;> simp [Function.update_of_ne hs]

lemma GetOldState_RestoreState (stores : Stores) (guid g : UInt64) :
    (stores.RestoreState guid).GetOldState g = stores.GetOldState g := by
  unfold RestoreState GetOldState
  by_cases hs : g = guid
  · subst hs
    by_cases isGroup : IS_GROUP_GUID g <;> simp [isGroup]
  · cases isGroup : IS_GROUP_GUID guid <;> simp [Function.update_of_ne hs]

lemma GetState_RestoreState_self (stores : Stores) (guid : UInt64) :
    (stores.RestoreState guid).GetState guid = stores.GetOldState guid := by
  unfold RestoreState GetState GetOldState
  by_cases isGroup : IS_GROUP_GUID guid <;> simp [isGroup]

lemma GetQueueId_congr (team : ∀ g, (stores'.PlayersStore g).m_Team = (stores.PlayersStore g).m_Team)
    (players : ∀ g, (stores'.GroupsStore g).m_Players = (stores.GroupsStore g).m_Players) :
    stores'.GetQueueId g = stores.GetQueueId g := by
  unfold GetQueueId GetTeam
  simp only [players, team]

lemma settles_SetState {state : LfgState}
    (calm : state = .queued → IS_GROUP_GUID guid → again guid) :
    stores.Settles again (stores.SetState guid state) where
  groups g := by
    unfold SetState
    split
    · rfl
    · by_cases hs : g = guid
      · subst hs
        simp
      · simp [Function.update_of_ne hs]
  queue g := by
    apply GetQueueId_congr
    all_goals
      intro g
      unfold SetState
      by_cases hs : g = guid
      · subst hs
        split <;> simp
      · split <;> simp [Function.update_of_ne hs]
  restored restored g := by
    rw [GetOldState_SetState]
    split
    · exact kept_ne_queued (restored g)
    · exact restored g
  queued _ g isGroup queued := by
    rw [GetState_SetState] at queued
    split at queued
    next hs =>
      subst hs
      exact .inr (calm queued isGroup)
    · exact .inl queued

lemma settles_RestoreState (again : UInt64 → Prop) (stores : Stores) (guid : UInt64) :
    stores.Settles again (stores.RestoreState guid) where
  groups g := by
    unfold RestoreState
    split
    · rfl
    · by_cases hs : g = guid
      · subst hs
        simp
      · simp [Function.update_of_ne hs]
  queue g := by
    apply GetQueueId_congr
    all_goals
      intro g
      unfold RestoreState
      by_cases hs : g = guid
      · subst hs
        split <;> simp
      · split <;> simp [Function.update_of_ne hs]
  restored restored g := by
    rw [GetOldState_RestoreState]
    exact restored g
  queued restored g _ queued := by
    by_cases hs : g = guid
    · subst hs
      rw [GetState_RestoreState_self] at queued
      exact absurd queued (restored g)
    · rw [GetState_RestoreState _ _ _ hs] at queued
      exact .inl queued

lemma settles_SetStates {guids : List UInt64} {state : LfgState}
    (calm : state = .queued → ∀ g ∈ guids, IS_GROUP_GUID g → again g) :
    stores.Settles again (guids.foldl (fun stores guid => stores.SetState guid state) stores) :=
  .foldl guids (fun _ g hm => settles_SetState fun queued => calm queued g hm) stores

lemma settles_notify {state : LfgRoleCheckState} (isPlayer : IS_GROUP_GUID guid = false) :
    stores.Settles again (LfgRoleCheck.notify state stores guid) := by
  unfold LfgRoleCheck.notify
  split
  · exact .refl again stores
  · refine settles_SetState fun _ isGroup => ?_
    rw [isPlayer] at isGroup
    cases isGroup
  · exact settles_RestoreState again stores guid

lemma settles_notifyRemoved {toRemove : List UInt64} {player : UInt64 × LfgProposalPlayer}
    (isPlayer : IS_GROUP_GUID player.1 = false)
    (calm : player.2.group ≠ 0 → again player.2.group) :
    stores.Settles again (Finder.notifyRemoved toRemove stores player) := by
  have alone : ∀ stores : Stores, stores.Settles again (stores.SetState player.1 .queued) := by
    refine fun stores => settles_SetState fun _ isGroup => ?_
    rw [isPlayer] at isGroup
    cases isGroup
  unfold Finder.notifyRemoved
  dsimp only
  split
  · split
    · exact (settles_RestoreState again stores _).trans (settles_RestoreState again _ _)
    · exact settles_RestoreState again stores _
  · split
    next other =>
      refine (alone stores).trans (settles_SetState fun _ _ => ?_)
      unfold LfgProposal.entryOf at other ⊢
      split at other
      next inGroup =>
        rw [if_pos inGroup]
        exact calm inGroup
      · exact absurd rfl other
    · exact alone stores

end Settles

lemma GetState_notify (state : LfgRoleCheckState) (other : g ≠ guid) :
    (LfgRoleCheck.notify state stores guid).GetState g = stores.GetState g := by
  unfold LfgRoleCheck.notify
  split
  · rfl
  · rw [GetState_SetState, if_neg other]
  · exact stores.GetState_RestoreState guid g other

lemma GetState_notifyAll (roleCheck : LfgRoleCheck)
    (out : roleCheck.state ≠ .initialiting → g ∉ roleCheck.roles.map Prod.fst) :
    ((roleCheck.roles.map Prod.fst).foldl (LfgRoleCheck.notify roleCheck.state) stores).GetState g =
      stores.GetState g := by
  by_cases goesOn : roleCheck.state = .initialiting
  · refine stores.GetState_foldl g (fun _ => []) ?_ _ fun _ _ => List.not_mem_nil
    exact fun stores guid _ => by rw [goesOn]; rfl
  · refine stores.GetState_foldl g (fun guid => [guid]) ?_ _ ?_
    · exact fun stores guid other => stores.GetState_notify guid g _ (List.ne_of_not_mem_cons other)
    · exact fun guid hm hs => out goesOn (List.mem_singleton.mp hs ▸ hm)

lemma GetState_notifyRemoved (toRemove : List UInt64) (player : UInt64 × LfgProposalPlayer)
    (out : g ∉ [player.1, LfgProposal.entryOf player]) :
    (Finder.notifyRemoved toRemove stores player).GetState g = stores.GetState g := by
  simp only [List.mem_cons, List.not_mem_nil, or_false, not_or] at out
  have group : LfgProposal.entryOf player ≠ player.1 → g ≠ player.2.group := by
    unfold LfgProposal.entryOf at out ⊢
    split_ifs at out ⊢ with inGroup
    · exact fun _ => out.2
    · exact fun other => absurd rfl other
  unfold Finder.notifyRemoved
  dsimp only
  split
  · split
    next other => rw [GetState_RestoreState _ _ _ (group other), GetState_RestoreState _ _ _ out.1]
    · exact stores.GetState_RestoreState _ _ out.1
  · split
    · rw [GetState_SetState, if_neg out.2, GetState_SetState, if_neg out.1]
    · rw [GetState_SetState, if_neg out.1]

end Stores

/-- What is promised of the scripts that make groups and remove members: they queue no group. -/
def Stores.Tame (change : Stores → Stores) : Prop :=
  ∀ stores, (∀ g, stores.GetOldState g ≠ .queued) →
    (∀ g, (change stores).GetOldState g ≠ .queued) ∧
      ∀ g, IS_GROUP_GUID g → (change stores).GetState g = .queued → stores.GetState g = .queued

/-- A script leaves the states of the players with an open proposal alone, and the groups of those
with an entry of their group. -/
def Finder.Leaves (f : Finder) (queueIds : List UInt8) (change : Stores → Stores) : Prop :=
  f.proposals.LeavesOpen f.stores change ∧
    ∀ queueId ∈ queueIds, ∀ e ∈ (f.QueuesStore queueId).QueueDataStore.entries,
      IS_GROUP_GUID e.1 → ∀ g ∈ e.2.roles.keys,
        ((change f.stores).PlayersStore g).m_Group = (f.stores.PlayersStore g).m_Group

instance (f : Finder) (queueIds : List UInt8) (change : Stores → Stores) :
    Decidable (f.Leaves queueIds change) := by
  unfold Finder.Leaves
  infer_instance

namespace LFGMgr

/-! ### The invariant -/

/-- A player has at most one open proposal. -/
def Exclusive (m : LFGMgr) : Prop :=
  ∀ id id' proposal proposal' g, m.proposals.ProposalsStore.lookup id = some proposal →
    m.proposals.ProposalsStore.lookup id' = some proposal' →
    g ∈ proposal.guids → g ∈ proposal'.guids → id = id'

def Announced (m : LFGMgr) : Prop :=
  ∀ id proposal, m.proposals.ProposalsStore.lookup id = some proposal →
    ∀ g ∈ proposal.guids, m.stores.GetState g = .proposal ∧ (g, id) ∈ m.sent

/-- A proposal that succeeds is not open any more. -/
def Undecided (m : LFGMgr) : Prop :=
  ∀ id proposal, m.proposals.ProposalsStore.lookup id = some proposal → proposal.state ≠ .success

def Grouped (m : LFGMgr) : Prop :=
  ∀ id proposal, m.proposals.ProposalsStore.lookup id = some proposal →
    ∀ player ∈ proposal.players, IS_GROUP_GUID player.1 = false ∧
      (player.2.group = 0 ∨ IS_GROUP_GUID player.2.group)

/-- A queue that is in use has data of an entry. -/
def Entry (m : LFGMgr) (queueId : UInt8) (guid : UInt64) (data : LfgQueueData) : Prop :=
  queueId ∈ m.queueIds ∧ (m.QueuesStore queueId).QueueDataStore.lookup guid = some data

/-- No player of an entry has an open proposal. -/
def Freed (m : LFGMgr) (guid : UInt64) : Prop :=
  ∀ queueId data, m.Entry queueId guid data → ∀ g ∈ data.roles.keys, ¬ m.proposals.Open g

def Checks (m : LFGMgr) : Prop :=
  ∀ gguid roleCheck, m.RoleChecksStore.lookup gguid = some roleCheck →
    IS_GROUP_GUID gguid ∧ ∀ g ∈ roleCheck.roles.keys, IS_GROUP_GUID g = false

/-- The entry of a group is of its members and in one queue, and as long as the group is queued they
have no open proposal. A proposal with one player of the entry has all of them. -/
structure Entered (m : LFGMgr) : Prop where
  players : ∀ queueId guid data, m.Entry queueId guid data →
    data.roles.length ≤ 250 ∧ ∀ g ∈ data.roles.keys, IS_GROUP_GUID g = false
  alone : ∀ queueId guid data, m.Entry queueId guid data → IS_GROUP_GUID guid = false →
    ∀ g ∈ data.roles.keys, g = guid
  members : ∀ queueId guid data, m.Entry queueId guid data → IS_GROUP_GUID guid →
    ∀ g ∈ data.roles.keys, m.GetGroup g = guid
  once : ∀ queueId queueId' guid data data', IS_GROUP_GUID guid → m.Entry queueId guid data →
    m.Entry queueId' guid data' → queueId = queueId'
  free : ∀ guid, IS_GROUP_GUID guid → m.stores.GetState guid = .queued → m.Freed guid
  whole : ∀ id proposal, m.proposals.ProposalsStore.lookup id = some proposal →
    ∀ player ∈ proposal.groups, player.2 ≠ 0 → ∀ queueId data, m.Entry queueId player.2 data →
      data.roles.keys ⊆ proposal.guids
  restored : ∀ g, m.stores.GetOldState g ≠ .queued
  checks : m.Checks

structure Sound (m : LFGMgr) : Prop where
  exclusive : m.Exclusive
  announced : m.Announced
  undecided : m.Undecided
  grouped : m.Grouped
  entered : m.Entered

/-- No entry and no role check is new. -/
structure Frames (m m' : LFGMgr) : Prop where
  queueIds : m'.queueIds = m.queueIds
  entries : ∀ queueId guid data, (m'.QueuesStore queueId).QueueDataStore.lookup guid = some data →
    (m.QueuesStore queueId).QueueDataStore.lookup guid = some data
  checks : m.Checks → m'.Checks

/-- No proposal is new either, the players of proposals that stay open keep their states, and a
group that is queued again is free. -/
structure Keeps (m m' : LFGMgr) : Prop extends Frames m m' where
  proposals : ∀ id proposal', m'.proposals.ProposalsStore.lookup id = some proposal' →
    ∃ proposal, m.proposals.ProposalsStore.lookup id = some proposal ∧
      proposal'.groups = proposal.groups ∧ proposal'.state = proposal.state ∧
      ∀ g ∈ proposal.guids, m'.stores.GetState g = m.stores.GetState g
  sent : m.sent ⊆ m'.sent
  members : ∀ queueId guid data, m'.Entry queueId guid data → IS_GROUP_GUID guid →
    ∀ g ∈ data.roles.keys, m'.GetGroup g = m.GetGroup g
  restored : (∀ g, m.stores.GetOldState g ≠ .queued) → ∀ g, m'.stores.GetOldState g ≠ .queued
  queued : (∀ g, m.stores.GetOldState g ≠ .queued) → ∀ guid, IS_GROUP_GUID guid →
    m'.stores.GetState guid = .queued → m.stores.GetState guid = .queued ∨ m'.Freed guid

section Frame

variable {m m' m'' : LFGMgr}

lemma Frames.of_eq (queueIds : m'.queueIds = m.queueIds) (queues : m'.QueuesStore = m.QueuesStore)
    (checks : m'.RoleChecksStore = m.RoleChecksStore) : Frames m m' where
  queueIds := queueIds
  entries _ _ _ hf := queues ▸ hf
  checks before gguid roleCheck hf := before gguid roleCheck (checks ▸ hf)

lemma Frames.of_queue {queueId : UInt8} {queue : LFGQueue} (queueIds : m'.queueIds = m.queueIds)
    (queues : m'.QueuesStore = Function.update m.QueuesStore queueId queue)
    (fewer : ∀ guid data, queue.QueueDataStore.lookup guid = some data →
      (m.QueuesStore queueId).QueueDataStore.lookup guid = some data)
    (checks : m'.RoleChecksStore = m.RoleChecksStore) : Frames m m' where
  queueIds := queueIds
  entries queueId' guid data hf := by
    rw [queues] at hf
    by_cases hs : queueId' = queueId
    · subst hs
      rw [Function.update_self] at hf
      exact fewer guid data hf
    · rwa [Function.update_of_ne hs] at hf
  checks before gguid roleCheck hf := before gguid roleCheck (checks ▸ hf)

lemma Keeps.of_frames (proposals : ∀ id proposal',
      m'.proposals.ProposalsStore.lookup id = some proposal' →
        ∃ proposal, m.proposals.ProposalsStore.lookup id = some proposal ∧
          proposal'.groups = proposal.groups ∧ proposal'.state = proposal.state ∧
          ∀ g ∈ proposal.guids, m'.stores.GetState g = m.stores.GetState g)
    (sent : m.sent ⊆ m'.sent) (frames : Frames m m')
    (settles : m.stores.Settles m'.Freed m'.stores) : Keeps m m' where
  toFrames := frames
  proposals := proposals
  sent := sent
  members _ _ _ _ _ g _ := settles.groups g
  restored := settles.restored
  queued := settles.queued

lemma Keeps.of_stores (hs : m'.proposals.ProposalsStore = m.proposals.ProposalsStore)
    (states : ∀ g, m.proposals.Open g → m'.stores.GetState g = m.stores.GetState g)
    (sent : m.sent ⊆ m'.sent) (frames : Frames m m')
    (settles : m.stores.Settles m'.Freed m'.stores) : Keeps m m' := by
  refine .of_frames (fun id proposal hf => ?_) sent frames settles
  rw [hs] at hf
  exact ⟨proposal, hf, rfl, rfl, fun g hm => states g ⟨id, proposal, hf, hm⟩⟩

lemma Keeps.refl (m : LFGMgr) : Keeps m m :=
  .of_stores rfl (fun _ _ => rfl) (List.Subset.refl _) (.of_eq rfl rfl rfl) (.refl _ _)

lemma Keeps.isOpen (keeps : Keeps m m') {g : UInt64} (isOpen : m'.proposals.Open g) :
    m.proposals.Open g := by
  obtain ⟨id, proposal', hf', hm⟩ := isOpen
  obtain ⟨proposal, hf, groups, -⟩ := keeps.proposals id proposal' hf'
  exact ⟨id, proposal, hf, LfgProposal.guids_congr groups ▸ hm⟩

lemma Keeps.entry (keeps : Keeps m m') {queueId : UInt8} {guid : UInt64} {data : LfgQueueData}
    (entry : m'.Entry queueId guid data) : m.Entry queueId guid data :=
  ⟨keeps.queueIds ▸ entry.1, keeps.entries queueId guid data entry.2⟩

lemma Keeps.freed (keeps : Keeps m m') {guid : UInt64} (freed : m.Freed guid) : m'.Freed guid :=
  fun queueId data entry g hm isOpen =>
    freed queueId data (keeps.entry entry) g hm (keeps.isOpen isOpen)

lemma Keeps.trans (first : Keeps m m') (next : Keeps m' m'') : Keeps m m'' where
  proposals id proposal'' hf'' := by
    obtain ⟨proposal', hf', groups', state', states'⟩ := next.proposals id _ hf''
    obtain ⟨proposal, hf, groups, state, states⟩ := first.proposals id _ hf'
    refine ⟨proposal, hf, groups'.trans groups, state'.trans state, fun g hm => ?_⟩
    have hm' : g ∈ proposal'.guids := by rwa [LfgProposal.guids_congr groups]
    rw [states' g hm', states g hm]
  sent := List.Subset.trans first.sent next.sent
  queueIds := next.queueIds.trans first.queueIds
  entries queueId guid data hf := first.entries _ _ _ (next.entries queueId guid data hf)
  checks before := next.checks (first.checks before)
  members _ _ _ entry isGroup g hm :=
    (next.members _ _ _ entry isGroup g hm).trans
      (first.members _ _ _ (next.entry entry) isGroup g hm)
  restored before := next.restored (first.restored before)
  queued before guid isGroup queued := by
    rcases next.queued (first.restored before) guid isGroup queued with queued | freed
    · exact (first.queued before guid isGroup queued).imp_right next.freed
    · exact .inr freed

lemma Keeps.exclusive (keeps : Keeps m m') (exclusive : m.Exclusive) : m'.Exclusive := by
  intro id id' proposal proposal' g hf hf' hm hm'
  obtain ⟨before, was, groups, -⟩ := keeps.proposals id _ hf
  obtain ⟨before', was', groups', -⟩ := keeps.proposals id' _ hf'
  rw [LfgProposal.guids_congr groups] at hm
  rw [LfgProposal.guids_congr groups'] at hm'
  exact exclusive id id' before before' g was was' hm hm'

lemma Keeps.grouped (keeps : Keeps m m') (grouped : m.Grouped) : m'.Grouped := by
  intro id proposal hf player hm
  obtain ⟨before, was, groups, -⟩ := keeps.proposals id _ hf
  have entry : (player.1, player.2.group) ∈ before.groups := groups ▸ List.mem_map_of_mem hm
  obtain ⟨player', hm', hs⟩ := List.mem_map.mp entry
  obtain ⟨isPlayer, group⟩ := grouped id before was player' hm'
  obtain ⟨guid, group'⟩ := Prod.mk.inj hs
  rw [← guid, ← group']
  exact ⟨isPlayer, group⟩

lemma Keeps.entered (keeps : Keeps m m') (entered : m.Entered) : m'.Entered where
  players _ _ _ entry := entered.players _ _ _ (keeps.entry entry)
  alone _ _ _ entry := entered.alone _ _ _ (keeps.entry entry)
  members _ _ _ entry isGroup g hm :=
    (keeps.members _ _ _ entry isGroup g hm).trans
      (entered.members _ _ _ (keeps.entry entry) isGroup g hm)
  once _ _ _ _ _ isGroup entry entry' :=
    entered.once _ _ _ _ _ isGroup (keeps.entry entry) (keeps.entry entry')
  free guid isGroup queued := by
    rcases keeps.queued entered.restored guid isGroup queued with queued | freed
    · exact keeps.freed (entered.free guid isGroup queued)
    · exact freed
  whole id proposal hf player hm inGroup queueId data entry := by
    obtain ⟨before, was, groups, -⟩ := keeps.proposals id _ hf
    rw [LfgProposal.guids_congr groups]
    exact entered.whole id before was player (groups ▸ hm) inGroup queueId data (keeps.entry entry)
  restored := keeps.restored entered.restored
  checks := keeps.checks entered.checks

lemma Keeps.sound (keeps : Keeps m m') (sound : m.Sound) : m'.Sound where
  exclusive := keeps.exclusive sound.exclusive
  announced id proposal hf g hm := by
    obtain ⟨before, was, groups, -, states⟩ := keeps.proposals id _ hf
    rw [LfgProposal.guids_congr groups] at hm
    obtain ⟨state, sent⟩ := sound.announced id before was g hm
    exact ⟨(states g hm).trans state, keeps.sent sent⟩
  undecided id proposal hf := by
    obtain ⟨before, was, -, state, -⟩ := keeps.proposals id _ hf
    rw [state]
    exact sound.undecided id before was
  grouped := keeps.grouped sound.grouped
  entered := keeps.entered sound.entered

lemma Keeps.foldl {α : Type} {change : LFGMgr → α → LFGMgr} (as : List α) {m : LFGMgr}
    (keeps : ∀ m', Keeps m m' → ∀ a ∈ as, Keeps m' (change m' a)) :
    Keeps m (as.foldl change m) := by
  have all : ∀ (as : List α) (m' : LFGMgr), Keeps m m' →
      (∀ m', Keeps m m' → ∀ a ∈ as, Keeps m' (change m' a)) → Keeps m (as.foldl change m') := by
    intro as
    induction as with
    | nil => exact fun m' first _ => first
    | cons a as ih =>
      intro m' first keeps
      exact ih _ (first.trans (keeps m' first a List.mem_cons_self))
        fun m'' next b hm => keeps m'' next b (List.mem_cons_of_mem a hm)
  exact all as m (.refl m) keeps

/-! ### States -/

lemma Keeps.of_SetStates (guids : List UInt64) (calm : ∀ g ∈ guids, ¬ m.proposals.Open g)
    (state : LfgState) (other : state ≠ .queued)
    (hs : m'.proposals.ProposalsStore = m.proposals.ProposalsStore)
    (stores : m'.stores = (m.SetStates guids state).stores) (sent : m.sent ⊆ m'.sent)
    (frames : Frames m m') : Keeps m m' := by
  refine .of_stores hs (fun g isOpen => ?_) sent frames ?_
  · rw [stores]
    exact (m.stores.GetState_SetStates g guids state).trans
      (if_neg fun hm => calm g hm isOpen)
  · rw [stores]
    exact Stores.settles_SetStates fun queued => absurd queued other

/-- Nothing but what was sent changes. -/
structure Sends (m m' : LFGMgr) : Prop where
  finder : m'.toFinder = m.toFinder
  queueIds : m'.queueIds = m.queueIds
  checks : m'.RoleChecksStore = m.RoleChecksStore
  boots : m'.BootsStore = m.BootsStore
  sent : m.sent ⊆ m'.sent

lemma sends_SendLfgUpdateProposal (w : World) (id : UInt32) (guid : UInt64) (m : LFGMgr) :
    Sends m (m.SendLfgUpdateProposal w id guid) := by
  unfold SendLfgUpdateProposal
  split
  · exact ⟨rfl, rfl, rfl, rfl, List.subset_cons_self _ _⟩
  · exact ⟨rfl, rfl, rfl, rfl, List.Subset.refl _⟩

lemma sends_sendAll (w : World) (id : UInt32) (guids : List UInt64) (m : LFGMgr) :
    Sends m (m.sendAll w id guids) := by
  induction guids generalizing m with
  | nil => exact ⟨rfl, rfl, rfl, rfl, List.Subset.refl _⟩
  | cons guid guids ih =>
    have here := sends_SendLfgUpdateProposal w id guid m
    have rest := ih (m.SendLfgUpdateProposal w id guid)
    exact ⟨rest.finder.trans here.finder, rest.queueIds.trans here.queueIds,
      rest.checks.trans here.checks, rest.boots.trans here.boots,
      List.Subset.trans here.sent rest.sent⟩

lemma Sends.frames (sends : Sends m m') : Frames m m' :=
  .of_eq sends.queueIds (by rw [sends.finder]) sends.checks

lemma Sends.keeps (sends : Sends m m') : Keeps m m' := by
  refine .of_stores (by rw [sends.finder]) (fun g _ => by rw [sends.finder]) sends.sent
    sends.frames ?_
  rw [sends.finder]
  exact .refl _ _

lemma Keeps.of_erase (id : UInt32)
    (hs : m'.proposals.ProposalsStore = m.proposals.ProposalsStore.erase id)
    (states : ∀ id' proposal, id' ≠ id → m.proposals.ProposalsStore.lookup id' = some proposal →
      ∀ g ∈ proposal.guids, m'.stores.GetState g = m.stores.GetState g)
    (sent : m.sent ⊆ m'.sent) (frames : Frames m m')
    (settles : m.stores.Settles m'.Freed m'.stores) : Keeps m m' := by
  refine .of_frames (fun id' proposal hf => ?_) sent frames settles
  rw [hs, Table.lookup_erase_iff] at hf
  exact ⟨proposal, hf.2, rfl, rfl, states id' proposal hf.1 hf.2⟩

/-! ### New entries -/

/-- What may become an entry: players without an open proposal, those of a group only if it is their
group, is in no other queue, and has no open proposal either. -/
structure Enters (m : LFGMgr) (queueId : UInt8) (guid : UInt64) (data : LfgQueueData) : Prop where
  players : data.roles.length ≤ 250 ∧ ∀ g ∈ data.roles.keys, IS_GROUP_GUID g = false
  alone : IS_GROUP_GUID guid = false → ∀ g ∈ data.roles.keys, g = guid
  members : IS_GROUP_GUID guid → ∀ g ∈ data.roles.keys, m.GetGroup g = guid
  once : IS_GROUP_GUID guid → ∀ queueId' ∈ m.queueIds, queueId' ≠ queueId →
    (m.QueuesStore queueId').QueueDataStore.lookup guid = none
  closed : ∀ g ∈ data.roles.keys, ¬ m.proposals.Open g
  outside : IS_GROUP_GUID guid → ∀ id proposal,
    m.proposals.ProposalsStore.lookup id = some proposal → ∀ player ∈ proposal.groups,
      player.2 ≠ guid

/-- An entry is new or takes the place of an older one. -/
structure Adds (queueId : UInt8) (guid : UInt64) (data : LfgQueueData) (m m' : LFGMgr) : Prop where
  queueIds : m'.queueIds = m.queueIds
  entries : ∀ queueId' guid' data',
    (m'.QueuesStore queueId').QueueDataStore.lookup guid' = some data' →
      queueId' = queueId ∧ guid' = guid ∧ data' = data ∨
        ¬ (queueId' = queueId ∧ guid' = guid) ∧
          (m.QueuesStore queueId').QueueDataStore.lookup guid' = some data'
  checks : m.Checks → m'.Checks

lemma Adds.entry {queueId queueId' : UInt8} {guid guid' : UInt64} {data data' : LfgQueueData}
    (adds : Adds queueId guid data m m') (entry : m'.Entry queueId' guid' data') :
    queueId' = queueId ∧ guid' = guid ∧ data' = data ∨
      ¬ (queueId' = queueId ∧ guid' = guid) ∧ m.Entry queueId' guid' data' := by
  rcases adds.entries _ _ _ entry.2 with here | ⟨other, hf⟩
  · exact .inl here
  · exact .inr ⟨other, adds.queueIds ▸ entry.1, hf⟩

/-- An old entry of a group is not beside the new one. -/
lemma Enters.replaces {queueId queueId' : UInt8} {guid : UInt64} {data data' : LfgQueueData}
    (enters : m.Enters queueId guid data) (adds : Adds queueId guid data m m')
    (isGroup : IS_GROUP_GUID guid) (entry : m'.Entry queueId' guid data') :
    queueId' = queueId ∧ data' = data := by
  rcases adds.entry entry with ⟨queue, -, hs⟩ | ⟨other, old⟩
  · exact ⟨queue, hs⟩
  · have absent := enters.once isGroup queueId' old.1 fun hs => other ⟨hs, rfl⟩
    rw [Entry, absent] at old
    cases old.2

lemma Sound.enter {queueId : UInt8} {guid : UInt64} {data : LfgQueueData} (sound : m.Sound)
    (enters : m.Enters queueId guid data) (adds : Adds queueId guid data m m')
    (hs : m'.proposals.ProposalsStore = m.proposals.ProposalsStore)
    (states : ∀ g, m.proposals.Open g → m'.stores.GetState g = m.stores.GetState g)
    (sent : m.sent ⊆ m'.sent) (settles : m.stores.Settles (· = guid) m'.stores) : m'.Sound := by
  have entered := sound.entered
  have openIff : ∀ g, m'.proposals.Open g ↔ m.proposals.Open g := fun g => by
    rw [Proposals.Open, hs, Proposals.Open]
  have group : ∀ g, m'.GetGroup g = m.GetGroup g := settles.groups
  refine ⟨?_, ?_, ?_, ?_, ?_⟩
  · rw [Exclusive, hs]
    exact sound.exclusive
  · intro id proposal hf g hm
    rw [hs] at hf
    obtain ⟨state, told⟩ := sound.announced id proposal hf g hm
    exact ⟨(states g ⟨id, proposal, hf, hm⟩).trans state, sent told⟩
  · rw [Undecided, hs]
    exact sound.undecided
  · rw [Grouped, hs]
    exact sound.grouped
  constructor
  case players =>
    intro queueId' guid' data' entry
    rcases adds.entry entry with ⟨rfl, rfl, rfl⟩ | ⟨-, old⟩
    · exact enters.players
    · exact entered.players _ _ _ old
  case alone =>
    intro queueId' guid' data' entry isPlayer
    rcases adds.entry entry with ⟨rfl, rfl, rfl⟩ | ⟨-, old⟩
    · exact enters.alone isPlayer
    · exact entered.alone _ _ _ old isPlayer
  case members =>
    intro queueId' guid' data' entry isGroup g hm
    rw [group]
    rcases adds.entry entry with ⟨rfl, rfl, rfl⟩ | ⟨-, old⟩
    · exact enters.members isGroup g hm
    · exact entered.members _ _ _ old isGroup g hm
  case once =>
    intro queueId₁ queueId₂ guid' data₁ data₂ isGroup entry₁ entry₂
    by_cases same : guid' = guid
    · subst same
      exact (enters.replaces adds isGroup entry₁).1.trans
        (enters.replaces adds isGroup entry₂).1.symm
    · have old : ∀ queueId' data', m'.Entry queueId' guid' data' → m.Entry queueId' guid' data' :=
        fun queueId' data' entry => (adds.entry entry).elim (fun new => absurd new.2.1 same) And.right
      exact entered.once _ _ _ _ _ isGroup (old _ _ entry₁) (old _ _ entry₂)
  case free =>
    intro guid' isGroup queued queueId' data' entry g hm
    rw [openIff]
    by_cases same : guid' = guid
    · subst same
      obtain ⟨-, rfl⟩ := enters.replaces adds isGroup entry
      exact enters.closed g hm
    · rcases adds.entry entry with new | ⟨-, old⟩
      · exact absurd new.2.1 same
      · have before := settles.queued entered.restored guid' isGroup queued
        exact entered.free guid' isGroup (before.resolve_right same) queueId' data' old g hm
  case whole =>
    intro id proposal hf player inProposal inGroup queueId' data' entry
    rw [hs] at hf
    rcases adds.entry entry with ⟨rfl, isGuid, rfl⟩ | ⟨-, old⟩
    · obtain ⟨member, inPlayers, rfl⟩ := List.mem_map.mp inProposal
      have isGroup := (sound.grouped id proposal hf member inPlayers).2.resolve_left inGroup
      exact absurd isGuid (enters.outside (isGuid ▸ isGroup) id proposal hf _ inProposal)
    · exact entered.whole id proposal hf player inProposal inGroup queueId' data' old
  case restored => exact settles.restored entered.restored
  case checks => exact adds.checks entered.checks

end Frame

end LFGMgr

end WorldServer.DungeonFinding
