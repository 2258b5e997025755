import WorldServer.DungeonFinding.OpenProposals
import WorldServer.DungeonFinding.Searches

/-!
# Announcements

An update tells the players of a new proposal, beginning with the last one. So it is enough that
a tick makes at most one proposal, for players in the world. They have no other: whoever has an open
proposal is in its state, and so is his group, but a match is made of what is queued.
-/
namespace WorldServer.DungeonFinding

open WorldServer.Lib

/-! ### The players of a proposal -/

lemma CheckGroupRoles_keys (groles : LfgRolesMap) :
    (CheckGroupRoles groles).1.keys = groles.keys := by
  have flags := (removeLeaderFlag_narrowed groles).keys_eq
  unfold CheckGroupRoles
  dsimp only
  split
  next assigned hf => exact (checkRoles_sound hf).1.keys_eq.trans flags
  · exact flags

def LFGQueue.players (queue : LFGQueue) (check : List UInt64) : List UInt64 :=
  check.flatMap fun guid => (queue.data guid).roles.keys

lemma keys_gatherRoles (w : World) (queue : LFGQueue) (check : List UInt64) :
    (gatherRoles w queue check).keys ⊆ queue.players check := by
  intro g hm
  obtain ⟨it, inGathered, rfl⟩ := List.mem_map.mp hm
  obtain ⟨guid, inCheck, inRoles⟩ := List.mem_flatMap.mp
    ((gatherRoles_gathered w queue check).selected it inGathered)
  exact List.mem_flatMap.mpr ⟨guid, inCheck, List.mem_map_of_mem inRoles⟩

/-- The group that is noted for a player is an entry of the check. -/
def Counted.Grouped (counted : Counted) (check : List UInt64) : Prop :=
  ∀ guid group, counted.proposalGroups.lookup guid = some group →
    group = 0 ∨ IS_GROUP_GUID group ∧ group ∈ check

variable {queue : LFGQueue} {check : List UInt64}

lemma countPlayers_grouped {stores : Stores} {all : List UInt64} {counted counted' : Counted}
    (counts : countPlayers stores queue counted check = .ok counted') (inAll : check ⊆ all)
    (grouped : counted.Grouped all) : counted'.Grouped all := by
  induction check generalizing counted with
  | nil =>
    cases counts
    exact grouped
  | cons guid check ih =>
    obtain ⟨here, later⟩ := List.cons_subset.mp inAll
    rw [countPlayers] at counts
    split at counts
    · split at counts
      · cases counts
      next data _ =>
        refine ih counts later ?_
        refine List.foldlRecOn (motive := fun groups : Table UInt64 UInt64 =>
          ∀ g group, groups.lookup g = some group →
            group = 0 ∨ IS_GROUP_GUID group ∧ group ∈ all)
          data.roles _ grouped ?_
        intro groups before it _ g group hf
        rcases (Table.lookup_insert_iff ..).mp hf with ⟨_, rfl⟩ | ⟨_, hf⟩
        · split
          next isGroup => exact .inr ⟨isGroup, here⟩
          · exact .inl rfl
        · exact before g group hf
    · cases counts
      exact grouped

/-! ### Nobody is left out -/

/-- The count does not wrap around if no entry is larger than 250. -/
lemma countPlayers_exact {stores : Stores} {counted counted' : Counted}
    (counts : countPlayers stores queue counted check = .ok counted')
    (accepted : counted'.accepted) (small : ∀ guid ∈ check, queue.size guid ≤ 250) :
    counted'.numPlayers.toNat = counted.numPlayers.toNat + (check.map queue.size).sum := by
  induction check generalizing counted with
  | nil =>
    cases counts
    simp
  | cons guid check ih =>
    obtain ⟨here, later⟩ := List.forall_mem_cons.mp small
    obtain ⟨before, -, rest⟩ := countPlayers_cons counts accepted
    have five := before.five
    have added := Counted.add_numPlayers stores queue guid counted
    rw [Nat.mod_eq_of_lt (by omega)] at added
    rw [ih rest later, added, List.map_cons, List.sum_cons, Nat.add_assoc]

lemma keys_addPlayer {w : World} {groles : LfgRolesMap} (it : UInt64 × UInt8) :
    groles.keys ⊆ (addPlayer w groles it).keys := by
  have kept : ∀ groles : LfgRolesMap, groles.keys ⊆ (groles.set it.1 it.2).keys := by
    intro groles
    induction groles with
    | nil => exact List.nil_subset _
    | cons head rest ih =>
      rw [LfgRolesMap.set]
      split
      · exact List.subset_cons_self _ _
      · split
        next same => simp [LfgRolesMap.keys, same]
        · exact List.cons_subset_cons _ ih
  unfold addPlayer
  split
  · exact List.Subset.refl _
  · exact kept groles

lemma length_addPlayer {w : World} (groles : LfgRolesMap) (it : UInt64 × UInt8) :
    (addPlayer w groles it).length ≤ groles.length + 1 := by
  unfold addPlayer
  split
  · exact Nat.le_succ _
  · exact groles.length_set it.1 it.2

lemma length_addPlayers {w : World} (its groles : LfgRolesMap) :
    (its.foldl (addPlayer w) groles).length ≤ groles.length + its.length := by
  induction its generalizing groles with
  | nil => exact le_rfl
  | cons it its ih =>
    have more := length_addPlayer (w := w) groles it
    have rest := ih (addPlayer w groles it)
    rw [List.foldl_cons, List.length_cons]
    omega

lemma mem_keys_of_longer {w : World} {groles : LfgRolesMap} {it : UInt64 × UInt8}
    (longer : groles.length < (addPlayer w groles it).length) :
    it.1 ∈ (addPlayer w groles it).keys := by
  have added : ∀ groles : LfgRolesMap, it.1 ∈ (groles.set it.1 it.2).keys := by
    intro groles
    induction groles with
    | nil => simp [LfgRolesMap.set, LfgRolesMap.keys]
    | cons head rest ih =>
      rw [LfgRolesMap.set]
      split
      · simp [LfgRolesMap.keys]
      · split
        · simp [LfgRolesMap.keys]
        · exact List.mem_cons_of_mem _ ih
  unfold addPlayer at longer ⊢
  split at longer
  · exact absurd longer (lt_irrefl _)
  next nobody =>
    rw [if_neg nobody]
    exact added groles

/-- If as many players are gathered as there are, each of them is. -/
lemma gathered_all {w : World} {its groles : LfgRolesMap}
    (all : (its.foldl (addPlayer w) groles).length = groles.length + its.length) :
    groles.keys ⊆ (its.foldl (addPlayer w) groles).keys ∧
      its.keys ⊆ (its.foldl (addPlayer w) groles).keys := by
  induction its generalizing groles with
  | nil => exact ⟨List.Subset.refl _, List.nil_subset _⟩
  | cons it its ih =>
    have more := length_addPlayer (w := w) groles it
    have rest := length_addPlayers (w := w) its (addPlayer w groles it)
    rw [List.foldl_cons, List.length_cons] at all
    have whole : (its.foldl (addPlayer w) (addPlayer w groles it)).length =
        (addPlayer w groles it).length + its.length := by omega
    obtain ⟨kept, later⟩ := ih whole
    refine ⟨List.Subset.trans (keys_addPlayer it) kept, List.cons_subset.mpr ⟨?_, later⟩⟩
    exact kept (mem_keys_of_longer (by omega))

/-- What a new proposal has, whatever the entries are. -/
structure Drafted (queue : LFGQueue) (check : List UInt64) (proposal : LfgProposal) : Prop where
  state : proposal.state = .initiating
  players : proposal.guids ⊆ queue.players check
  groups : ∀ player ∈ proposal.players,
    player.2.group = 0 ∨ IS_GROUP_GUID player.2.group ∧ player.2.group ∈ check
  /-- If no entry is larger than 250. -/
  all : (∀ guid ∈ check, queue.size guid ≤ 250) → queue.players check ⊆ proposal.guids

lemma guids_makeProposal {w : World} {stores : Stores} {id : UInt32} {counted : Counted}
    {dungeons : List UInt32} {groles : LfgRolesMap} :
    (makeProposal w stores id check counted dungeons groles).guids = groles.keys := by
  simp [LfgProposal.guids, makeProposal, LfgRolesMap.keys]

lemma groups_makeProposal {w : World} {stores : Stores} {id : UInt32} {counted : Counted}
    (counts : countPlayers stores queue .init check = .ok counted) {dungeons : List UInt32}
    {groles : LfgRolesMap} :
    ∀ player ∈ (makeProposal w stores id check counted dungeons groles).players,
      player.2.group = 0 ∨ IS_GROUP_GUID player.2.group ∧ player.2.group ∈ check := by
  have grouped := countPlayers_grouped counts (List.Subset.refl _) fun _ _ hf => by cases hf
  intro player hm
  obtain ⟨it, -, rfl⟩ := List.mem_map.mp hm
  cases hf : counted.proposalGroups.lookup it.1 with
  | none => exact .inl (by simp)
  | some group => simpa [hf] using grouped it.1 group hf

lemma Proposed.drafted {w : World} {stores : Stores} {id : UInt32} {counted : Counted}
    {proposal : LfgProposal} (proposed : Proposed w stores queue id check counted proposal)
    (accepted : counted.accepted) : Drafted queue check proposal := by
  have keys : proposal.guids = (gatherRoles w queue check).keys := by
    rw [proposed.made, guids_makeProposal, CheckGroupRoles_keys]
  refine ⟨by rw [proposed.made]; rfl, keys ▸ keys_gatherRoles w queue check, ?_, fun small => ?_⟩
  · rw [proposed.made]
    exact groups_makeProposal proposed.counts
  · have five := congrArg UInt8.toNat proposed.nobodyLeft
    have total := countPlayers_exact proposed.counts accepted small
    have few := length_gatherRoles w queue check
    have start : Counted.init.numPlayers.toNat = 0 := rfl
    have full : MAXGROUPSIZE.toNat = 5 := rfl
    rw [UInt8.toNat_ofNat', proposed.players] at five
    rw [proposed.players] at total
    have all : (gatherRoles w queue check).length = (check.map queue.size).sum := by omega
    have its : (check.flatMap fun guid => (queue.data guid).roles).length =
        (check.map queue.size).sum := by
      rw [List.length_flatMap]
      rfl
    have whole : (gatherRoles w queue check).length =
        ([] : LfgRolesMap).length + (check.flatMap fun guid => (queue.data guid).roles).length := by
      rw [all, its, List.length_nil, Nat.zero_add]
    have inAll := (gathered_all whole).2
    rw [keys]
    intro g hm
    obtain ⟨guid, inCheck, inRoles⟩ := List.mem_flatMap.mp hm
    obtain ⟨it, inData, rfl⟩ := List.mem_map.mp inRoles
    exact inAll (List.mem_map_of_mem (List.mem_flatMap.mpr ⟨guid, inCheck, inData⟩))

/-- What a check has found that makes a proposal. -/
structure Found (w : World) (stores : Stores) (queue : LFGQueue) (check : List UInt64)
    (proposal : LfgProposal) : Prop where
  drafted : Drafted queue check proposal
  queued : stores.AllQueued check = true
  data : ∀ guid ∈ check, queue.QueueDataStore.lookup guid = some (queue.data guid)

lemma made_of_verdict {w : World} {stores : Stores} {id : UInt32} {proposal : LfgProposal}
    (hf : verdict w stores queue id check = .proposal proposal) :
    ∃ counted, countPlayers stores queue .init check = .ok counted ∧ counted.accepted ∧
      counted.numPlayers = MAXGROUPSIZE ∧ stores.AllQueued check = true ∧
      proposal = makeProposal w stores id check counted (gatherDungeons queue check)
        (if 1 < check.length then CheckGroupRoles (gatherRoles w queue check)
          else CheckGroupRoles (queue.data (check.headD 0)).roles).1 := by
  rw [verdict] at hf
  split at hf
  · cases hf
  next counted counts =>
    dsimp only at hf
    generalize (if 1 < check.length then CheckGroupRoles (gatherRoles w queue check)
      else CheckGroupRoles (queue.data (check.headD 0)).roles) = groles at hf ⊢
    split_ifs at hf with single groups players ignores roles dungeons full queued
    cases hf
    have one : (1 : UInt8).toNat = 1 := rfl
    have two : (2 : UInt8).toNat = 2 := rfl
    rw [UInt8.lt_iff_toNat_lt] at groups
    have few : counted.numLfgGroups < 2 := UInt8.lt_iff_toNat_lt.mpr (by omega)
    exact ⟨counted, counts, ⟨few, UInt8.not_lt.mp players⟩, not_not.mp full, queued, rfl⟩

lemma found_of_verdict {w : World} {stores : Stores} {id : UInt32} {proposal : LfgProposal}
    (hf : verdict w stores queue id check = .proposal proposal) :
    Found w stores queue check proposal := by
  obtain ⟨counted, counts, accepted, full, queued, made⟩ := made_of_verdict hf
  refine ⟨?_, queued, countPlayers_found counts accepted⟩
  by_cases several : 1 < check.length
  · obtain ⟨counted', proposed⟩ := proposed_of_verdict several hf
    obtain rfl : counted' = counted := Except.ok.inj (proposed.counts.symm.trans counts)
    exact proposed.drafted accepted
  · rw [if_neg several] at made
    cases check with
    | nil =>
      -- nobody is no full group
      cases counts
      cases full
    | cons guid rest =>
      obtain rfl : rest = [] := by
        rw [List.length_cons] at several
        exact List.length_eq_zero_iff.mp (by omega)
      have keys : proposal.guids = (queue.data guid).roles.keys := by
        rw [made, guids_makeProposal, CheckGroupRoles_keys]
        rfl
      have players : queue.players [guid] = (queue.data guid).roles.keys := by
        simp [LFGQueue.players]
      refine ⟨by rw [made]; rfl, ?_, ?_, fun _ => ?_⟩
      · rw [keys, players]
        exact List.Subset.refl _
      · rw [made]
        exact groups_makeProposal counts
      · rw [keys, players]
        exact List.Subset.refl _

/-! ### One proposal in a tick -/

def Verdict.isProposal : Verdict → Bool
  | .proposal _ => true
  | _ => false

/-- A check that makes a proposal is the first one after the proposal `last`, and the players are in
the world. -/
def Alone (w : World) (stores : Stores) (last : UInt32) (s : Matching) (check : List UInt64) :
    Prop :=
  (verdict w stores s.queue s.proposals.nextId check).isProposal →
    s.proposals.m_lfgProposalId = last ∧ ∀ g ∈ s.queue.players check, (w.social g).isSome

instance (w : World) (stores : Stores) (last : UInt32) (s : Matching) (check : List UInt64) :
    Decidable (Alone w stores last s check) := by
  unfold Alone
  infer_instance

/-- Entries that are queued have players without an open proposal. -/
def Waiting (stores : Stores) (before : Proposals) (store : Table UInt64 LfgQueueData) : Prop :=
  ∀ guid data, store.lookup guid = some data → data.roles.length ≤ 250 ∧
    (∀ g ∈ data.roles.keys, IS_GROUP_GUID g = false) ∧
    (stores.GetState guid = .queued → ∀ g ∈ data.roles.keys, ¬ before.Open g)

structure Fresh (w : World) (before : Proposals) (store : Table UInt64 LfgQueueData)
    (proposal : LfgProposal) : Prop where
  state : proposal.state = .initiating
  grouped : ∀ player ∈ proposal.players, IS_GROUP_GUID player.1 = false ∧
    (player.2.group = 0 ∨ IS_GROUP_GUID player.2.group)
  inWorld : ∀ g ∈ proposal.guids, (w.social g).isSome
  free : ∀ g ∈ proposal.guids, ¬ before.Open g
  whole : ∀ player ∈ proposal.groups, player.2 ≠ 0 → ∃ data, store.lookup player.2 = some data ∧
    data.roles.keys ⊆ proposal.guids

/-- The players of a new proposal come from entries that are queued, so that they have no other. -/
lemma Found.fresh {w : World} {stores : Stores} {before : Proposals} {proposal : LfgProposal}
    (found : Found w stores queue check proposal)
    (waiting : Waiting stores before queue.QueueDataStore)
    (inWorld : ∀ g ∈ queue.players check, (w.social g).isSome) :
    Fresh w before queue.QueueDataStore proposal := by
  have drafted := found.drafted
  have queued : ∀ guid ∈ check, stores.GetState guid = .queued := by
    have all := found.queued
    rw [Stores.AllQueued, Bool.and_eq_true, List.all_eq_true] at all
    exact fun guid hm => of_decide_eq_true (all.2 guid hm)
  have players : ∀ g ∈ queue.players check, IS_GROUP_GUID g = false ∧ ¬ before.Open g := by
    intro g hm
    obtain ⟨guid, inCheck, inRoles⟩ := List.mem_flatMap.mp hm
    obtain ⟨-, typed, free⟩ := waiting guid _ (found.data guid inCheck)
    exact ⟨typed g inRoles, free (queued guid inCheck) g inRoles⟩
  have small : ∀ guid ∈ check, queue.size guid ≤ 250 :=
    fun guid hm => (waiting guid _ (found.data guid hm)).1
  refine ⟨drafted.state, fun player hm => ?_, fun g hm => inWorld g (drafted.players hm),
    fun g hm => (players g (drafted.players hm)).2, fun player hm inGroup => ?_⟩
  · exact ⟨(players _ (drafted.players (List.mem_map_of_mem hm))).1,
      (drafted.groups player hm).imp_right And.left⟩
  · obtain ⟨member, inPlayers, rfl⟩ := List.mem_map.mp hm
    obtain ⟨-, inCheck⟩ := (drafted.groups member inPlayers).resolve_left inGroup
    refine ⟨_, found.data _ inCheck, fun g inRoles => ?_⟩
    exact drafted.all small (List.mem_flatMap.mpr ⟨_, inCheck, inRoles⟩)

/-- Nothing is proposed, or one proposal. -/
def AtMostOne (w : World) (f : Finder) (queueIds : List UInt8) (proposals : Proposals) : Prop :=
  proposals = f.proposals ∨
    ∃ proposal, ∃ queueId ∈ queueIds,
      Fresh w f.proposals (f.QueuesStore queueId).QueueDataStore proposal ∧
        proposals = f.proposals.AddProposal proposal

lemma Proposals.nextId_ne (proposals : Proposals) :
    proposals.nextId ≠ proposals.m_lfgProposalId := by
  unfold nextId
  simp

section Search

variable {w : World} {f : Finder} {queueIds : List UInt8} {queueId : UInt8}

/-- What the search of a queue keeps. -/
abbrev SearchedQueue (w : World) (f : Finder) (queueIds : List UInt8) (queueId : UInt8)
    (store : Table UInt64 LfgQueueData) (proposals : Proposals) : Prop :=
  store = (f.QueuesStore queueId).QueueDataStore ∧ AtMostOne w f queueIds proposals

lemma checkThese_atMostOne (used : queueId ∈ queueIds)
    (waiting : Waiting f.stores f.proposals (f.QueuesStore queueId).QueueDataStore) {s : Matching}
    (alone : Alone w f.stores f.proposals.m_lfgProposalId s check)
    (few : SearchedQueue w f queueIds queueId s.queue.QueueDataStore s.proposals) :
    SearchedQueue w f queueIds queueId (s.checkThese w f.stores check).1.queue.QueueDataStore
      (s.checkThese w f.stores check).1.proposals := by
  obtain ⟨data, few⟩ := few
  refine ⟨(Matching.checkThese_data w f.stores s check).trans data, ?_⟩
  unfold Matching.checkThese
  unfold Alone at alone
  split
  · exact few
  · exact few
  next proposal hf =>
    rw [hf] at alone
    obtain ⟨last, inWorld⟩ := alone rfl
    rcases few with hs | ⟨other, -, -, -, hs⟩
    · have fresh := (found_of_verdict hf).fresh (data ▸ waiting) inWorld
      rw [data] at fresh
      exact .inr ⟨proposal, queueId, used, fresh, congrArg (·.AddProposal proposal) hs⟩
    · -- the second proposal would not be the first after the last one
      rw [hs] at last
      exact absurd last f.proposals.nextId_ne

lemma FindGroups_atMostOne (used : queueId ∈ queueIds)
    (waiting : Waiting f.stores f.proposals (f.QueuesStore queueId).QueueDataStore) {s : Matching}
    (every : s.EveryFronts w f.stores
      (Matching.EveryAnswer w f.stores (Alone w f.stores f.proposals.m_lfgProposalId))
      s.queue.newToQueueStore.length)
    (few : SearchedQueue w f queueIds queueId s.queue.QueueDataStore s.proposals) :
    SearchedQueue w f queueIds queueId (s.FindGroups w f.stores).1.queue.QueueDataStore
      (s.FindGroups w f.stores).1.proposals :=
  Matching.findGroupsLoop_keeps (J := SearchedQueue w f queueIds queueId)
    (fun _ _ => Matching.answer_keeps (J := SearchedQueue w f queueIds queueId)
      fun _ _ => checkThese_atMostOne used waiting) _ every few 0

end Search

namespace Finder

section Queues

variable (w : World) (A : Stores → Matching → List UInt64 → Prop)

def EveryQueue : Finder → List UInt8 → Prop
  | _, [] => True
  | f, queueId :: queueIds =>
    (f.matching queueId).EveryFronts w f.stores (A f.stores)
        (f.QueuesStore queueId).newToQueueStore.length ∧
      EveryQueue (f.FindGroups w queueId) queueIds

instance decidableEveryQueue [∀ stores s check, Decidable (A stores s check)] :
    (f : Finder) → (queueIds : List UInt8) → Decidable (EveryQueue w A f queueIds)
  | _, [] => isTrue trivial
  | f, queueId :: queueIds =>
    have := decidableEveryQueue (f.FindGroups w queueId) queueIds
    inferInstanceAs (Decidable (_ ∧ _))

end Queues

/-- In every queue the check that makes a proposal is alone. -/
def AloneInQueues (w : World) (last : UInt32) (f : Finder) (queueIds : List UInt8) : Prop :=
  EveryQueue w (fun stores => Matching.EveryAnswer w stores (Alone w stores last)) f queueIds

instance (w : World) (last : UInt32) (f : Finder) (queueIds : List UInt8) :
    Decidable (AloneInQueues w last f queueIds) := decidableEveryQueue ..

/-- The searches of a tick change neither states nor queue data. -/
structure Searched (w : World) (f : Finder) (queueIds : List UInt8) (f' : Finder) : Prop where
  stores : f'.stores = f.stores
  data : ∀ queueId, (f'.QueuesStore queueId).QueueDataStore = (f.QueuesStore queueId).QueueDataStore
  few : AtMostOne w f queueIds f'.proposals

lemma Searched.FindGroups {w : World} {f f' : Finder} {queueIds : List UInt8} {queueId : UInt8}
    (searched : Searched w f queueIds f') (used : queueId ∈ queueIds)
    (waiting : Waiting f.stores f.proposals (f.QueuesStore queueId).QueueDataStore)
    (every : (f'.matching queueId).EveryFronts w f'.stores
      (Matching.EveryAnswer w f'.stores (Alone w f'.stores f.proposals.m_lfgProposalId))
      (f'.QueuesStore queueId).newToQueueStore.length) :
    Searched w f queueIds (f'.FindGroups w queueId) := by
  have stores := searched.stores
  rw [stores] at every
  obtain ⟨data, few⟩ := FindGroups_atMostOne (s := f'.matching queueId) used waiting every
    ⟨searched.data queueId, searched.few⟩
  rw [← stores] at data few
  refine ⟨stores, fun queueId' => ?_, few⟩
  by_cases hs : queueId' = queueId
  · subst hs
    simpa [Finder.FindGroups, withQueue] using data
  · simpa [Finder.FindGroups, withQueue, Function.update_of_ne hs] using searched.data queueId'

lemma searched_queues {w : World} {f f' : Finder} {queueIds rest : List UInt8}
    (searched : Searched w f queueIds f') (used : rest ⊆ queueIds)
    (waiting : ∀ queueId ∈ queueIds,
      Waiting f.stores f.proposals (f.QueuesStore queueId).QueueDataStore)
    (alone : AloneInQueues w f.proposals.m_lfgProposalId f' rest) :
    Searched w f queueIds (rest.foldl (fun f queueId => f.FindGroups w queueId) f') := by
  induction rest generalizing f' with
  | nil => exact searched
  | cons queueId rest ih =>
    obtain ⟨here, later⟩ := List.cons_subset.mp used
    obtain ⟨first, next⟩ := alone
    exact ih (searched.FindGroups here (waiting queueId here) first) later next

end Finder

/-! ### The announcement -/

namespace LFGMgr

/-- Some states become those of players with a proposal, and updates are sent. -/
structure Informs (m m' : LFGMgr) : Prop where
  queueIds : m'.queueIds = m.queueIds
  checks : m'.RoleChecksStore = m.RoleChecksStore
  settles : m.stores.Settles (fun _ => False) m'.stores
  states : ∀ g, m'.stores.GetState g = m.stores.GetState g ∨ m'.stores.GetState g = .proposal
  sent : m.sent ⊆ m'.sent

/-- Some players are told of their proposals. -/
structure Tells (m m' : LFGMgr) : Prop extends Informs m m' where
  proposals : m'.proposals = m.proposals
  queues : m'.QueuesStore = m.QueuesStore

/-- A player is told of a proposal, and his group is in its state as well. -/
structure Told (m : LFGMgr) (id : UInt32) (g : UInt64) : Prop where
  state : m.stores.GetState g = .proposal
  sent : (g, id) ∈ m.sent
  group : m.GetGroup g ≠ 0 → m.stores.GetState (m.GetGroup g) = .proposal

section Tells

variable {m m' m'' : LFGMgr} {w : World} {id : UInt32} {g : UInt64}

lemma Tells.refl (m : LFGMgr) : Tells m m :=
  ⟨⟨rfl, rfl, .refl _ _, fun _ => .inl rfl, List.Subset.refl _⟩, rfl, rfl⟩

lemma Tells.trans (first : Tells m m') (next : Tells m' m'') : Tells m m'' where
  proposals := next.proposals.trans first.proposals
  queues := next.queues.trans first.queues
  queueIds := next.queueIds.trans first.queueIds
  checks := next.checks.trans first.checks
  settles := first.settles.trans next.settles
  states g := by
    rcases next.states g with hs | told
    · rw [hs]
      exact first.states g
    · exact .inr told
  sent := List.Subset.trans first.sent next.sent

lemma Tells.stays (tells : Tells m m') (state : m.stores.GetState g = .proposal) :
    m'.stores.GetState g = .proposal := by
  rcases tells.states g with hs | now
  · exact hs.trans state
  · exact now

lemma Tells.told (tells : Tells m m') (told : m.Told id g) : m'.Told id g where
  state := tells.stays told.state
  sent := tells.sent told.sent
  group inGroup := by
    have same : m'.GetGroup g = m.GetGroup g := tells.settles.groups g
    rw [same] at inGroup ⊢
    exact tells.stays (told.group inGroup)

lemma tells_SetStates (guids : List UInt64) (m : LFGMgr) :
    Tells m (m.SetStates guids .proposal) := by
  refine ⟨⟨rfl, rfl, Stores.settles_SetStates fun queued => ?_, fun g => ?_, List.Subset.refl _⟩,
    rfl, rfl⟩
  · cases queued
  have set := m.stores.GetState_SetStates g guids .proposal
  by_cases hm : g ∈ guids
  · exact .inr (set.trans (if_pos hm))
  · exact .inl (set.trans (if_neg hm))

lemma Sends.tells (sends : Sends m m') : Tells m m' where
  proposals := by rw [sends.finder]
  queues := by rw [sends.finder]
  queueIds := sends.queueIds
  checks := sends.checks
  settles := by
    rw [sends.finder]
    exact .refl _ _
  states g := .inl (by rw [sends.finder])
  sent := sends.sent

lemma tells_announceTo (w : World) (id : UInt32) (m : LFGMgr) (guid : UInt64) :
    Tells m (announceTo w id m guid) := by
  have player := tells_SetStates [guid] m
  unfold announceTo
  dsimp only
  split
  · exact (player.trans (tells_SetStates ..)).trans (sends_SendLfgUpdateProposal ..).tells
  · exact player.trans (sends_SendLfgUpdateProposal ..).tells

lemma announceTo_told (inWorld : (w.social g).isSome) (id : UInt32) (m : LFGMgr) :
    (announceTo w id m g).Told id g := by
  have set : (m.SetStates [g] .proposal).stores.GetState g = .proposal :=
    (m.stores.GetState_SetStates g [g] .proposal).trans (if_pos List.mem_cons_self)
  have sends : ∀ m' : LFGMgr, m'.stores.GetState g = .proposal →
      (m'.GetGroup g ≠ 0 → m'.stores.GetState (m'.GetGroup g) = .proposal) →
        (m'.SendLfgUpdateProposal w id g).Told id g := by
    intro m' state group
    unfold SendLfgUpdateProposal
    rw [if_pos inWorld]
    exact ⟨state, List.mem_cons_self, group⟩
  unfold announceTo
  dsimp only
  split
  next inGroup =>
    generalize m.SetStates [g] .proposal = m₁ at set inGroup ⊢
    have tells := tells_SetStates [m₁.GetGroup g] m₁
    refine sends _ (tells.stays set) fun _ => ?_
    have same : (m₁.SetStates [m₁.GetGroup g] .proposal).GetGroup g = m₁.GetGroup g :=
      tells.settles.groups g
    rw [same]
    exact (m₁.stores.GetState_SetStates _ _ .proposal).trans (if_pos List.mem_cons_self)
  next alone => exact sends _ set fun inGroup => absurd inGroup alone

lemma announceAll (w : World) (id : UInt32) (guids : List UInt64) (m : LFGMgr) :
    Tells m (guids.foldl (announceTo w id) m) ∧
      ∀ g ∈ guids, (w.social g).isSome → (guids.foldl (announceTo w id) m).Told id g := by
  induction guids generalizing m with
  | nil => exact ⟨.refl m, fun g hm => absurd hm List.not_mem_nil⟩
  | cons guid guids ih =>
    obtain ⟨tells, told⟩ := ih (announceTo w id m guid)
    refine ⟨(tells_announceTo w id m guid).trans tells, fun g hm inWorld => ?_⟩
    rcases List.mem_cons.mp hm with rfl | later
    · exact tells.told (announceTo_told inWorld id m)
    · exact told g later inWorld

lemma announce_all (w : World) (regroup : Stores → Stores) (its : List (UInt32 × LfgProposal))
    (undecided : ∀ it ∈ its, it.2.state ≠ .success) (m : LFGMgr) :
    Tells m (its.foldl (announce w regroup) m) ∧
      ∀ it ∈ its, ∀ g ∈ it.2.guids, (w.social g).isSome →
        (its.foldl (announce w regroup) m).Told it.1 g := by
  induction its generalizing m with
  | nil => exact ⟨.refl m, fun it hm => absurd hm List.not_mem_nil⟩
  | cons it its ih =>
    obtain ⟨here, later⟩ := List.forall_mem_cons.mp undecided
    have first : announce w regroup m it = it.2.guids.foldl (announceTo w it.1) m := by
      exact if_neg here
    obtain ⟨tells, told⟩ := announceAll w it.1 it.2.guids m
    obtain ⟨tells', told'⟩ := ih later (announce w regroup m it)
    rw [first] at tells' told'
    rw [List.foldl_cons, first]
    refine ⟨tells.trans tells', List.forall_mem_cons.mpr ⟨fun g hm inWorld => ?_, told'⟩⟩
    exact tells'.told (told g hm inWorld)

end Tells

/-! ### Updates -/

section Updates

variable {m : LFGMgr} {w : World}

/-- An entry that is queued has players without an open proposal: a player who has one is in its
state, and a group that is queued is free. -/
lemma Sound.waiting (sound : m.Sound) {queueId : UInt8} (used : queueId ∈ m.queueIds) :
    Waiting m.stores m.proposals (m.QueuesStore queueId).QueueDataStore := by
  intro guid data hf
  have entry : m.Entry queueId guid data := ⟨used, hf⟩
  have entered := sound.entered
  obtain ⟨small, players⟩ := entered.players queueId guid data entry
  refine ⟨small, players, fun queued g hm => ?_⟩
  cases isGroup : IS_GROUP_GUID guid with
  | false =>
    obtain rfl := entered.alone queueId guid data entry isGroup g hm
    rintro ⟨id, proposal, isOpen, inGuids⟩
    have state := (sound.announced id proposal isOpen g inGuids).1
    rw [queued] at state
    cases state
  | true => exact entered.free guid isGroup queued queueId data entry g hm

/-- The new proposal takes the next id. -/
lemma lookup_added {proposal it : LfgProposal} {id : UInt32} {m' : LFGMgr}
    (added : m'.proposals = m.proposals.AddProposal proposal)
    (hf : m'.proposals.ProposalsStore.lookup id = some it) :
    (id = m.proposals.nextId ∧ it = proposal) ∨
      (id ≠ m.proposals.nextId ∧ m.proposals.ProposalsStore.lookup id = some it) := by
  rw [added] at hf
  exact (Table.lookup_insert_iff ..).mp hf

/-- What a tick does that makes a proposal. -/
structure Proposes (w : World) (m m' : LFGMgr) (proposal : LfgProposal) : Prop
    extends Informs m m' where
  fresh : ∃ queueId ∈ m.queueIds,
    Fresh w m.proposals (m.QueuesStore queueId).QueueDataStore proposal
  added : m'.proposals = m.proposals.AddProposal proposal
  data : ∀ queueId, (m'.QueuesStore queueId).QueueDataStore = (m.QueuesStore queueId).QueueDataStore
  told : ∀ g ∈ proposal.guids, m'.Told m.proposals.nextId g

section Proposes

variable {m' : LFGMgr} {proposal : LfgProposal}

lemma Proposes.entry (proposes : Proposes w m m' proposal) {queueId : UInt8} {guid : UInt64}
    {data : LfgQueueData} (entry : m'.Entry queueId guid data) : m.Entry queueId guid data := by
  obtain ⟨used, hf⟩ := entry
  rw [proposes.data] at hf
  exact ⟨proposes.queueIds ▸ used, hf⟩

lemma Proposes.isOpen (proposes : Proposes w m m' proposal) {g : UInt64}
    (isOpen : m'.proposals.Open g) : g ∈ proposal.guids ∨ m.proposals.Open g := by
  obtain ⟨id, it, hf, hm⟩ := isOpen
  rcases lookup_added proposes.added hf with ⟨-, rfl⟩ | ⟨-, hf⟩
  · exact .inl hm
  · exact .inr ⟨id, it, hf, hm⟩

lemma Proposes.free (proposes : Proposes w m m' proposal) {g : UInt64}
    (hm : g ∈ proposal.guids) : ¬ m.proposals.Open g :=
  let ⟨_, _, fresh⟩ := proposes.fresh
  fresh.free g hm

/-- A group with a member in the new proposal is in its state, not queued. -/
lemma Proposes.entered (proposes : Proposes w m m' proposal) (entered : m.Entered) :
    m'.Entered where
  players _ _ _ entry := entered.players _ _ _ (proposes.entry entry)
  alone _ _ _ entry := entered.alone _ _ _ (proposes.entry entry)
  members _ _ _ entry isGroup g hm :=
    (proposes.settles.groups g).trans (entered.members _ _ _ (proposes.entry entry) isGroup g hm)
  once _ _ _ _ _ isGroup entry entry' :=
    entered.once _ _ _ _ _ isGroup (proposes.entry entry) (proposes.entry entry')
  free guid isGroup queued queueId data entry g hm isOpen := by
    have entry := proposes.entry entry
    have before : m.stores.GetState guid = .queued :=
      (proposes.settles.queued entered.restored guid isGroup queued).resolve_right id
    rcases proposes.isOpen isOpen with inNew | isOpen
    · have group : m'.GetGroup g = guid :=
        (proposes.settles.groups g).trans (entered.members _ _ _ entry isGroup g hm)
      have aGroup : guid ≠ 0 := by
        rintro rfl
        cases isGroup
      have told := (proposes.told g inNew).group
      rw [group, queued] at told
      cases told aGroup
    · exact entered.free guid isGroup before queueId data entry g hm isOpen
  whole id it hf player hm inGroup queueId data entry := by
    have entry := proposes.entry entry
    rcases lookup_added proposes.added hf with ⟨-, rfl⟩ | ⟨-, hf⟩
    · obtain ⟨queueId', used, fresh⟩ := proposes.fresh
      obtain ⟨data', hf', all⟩ := fresh.whole player hm inGroup
      have isGroup : IS_GROUP_GUID player.2 := by
        obtain ⟨member, inPlayers, rfl⟩ := List.mem_map.mp hm
        exact (fresh.grouped member inPlayers).2.resolve_left inGroup
      obtain rfl := entered.once _ _ _ _ _ isGroup entry ⟨used, hf'⟩
      obtain rfl : data = data' := Option.some.inj (entry.2.symm.trans hf')
      exact all
    · exact entered.whole id it hf player hm inGroup queueId data entry
  restored := proposes.settles.restored entered.restored
  checks gguid roleCheck hf := entered.checks gguid roleCheck (proposes.checks ▸ hf)

lemma Proposes.sound (proposes : Proposes w m m' proposal) (sound : m.Sound) : m'.Sound := by
  obtain ⟨_, _, fresh⟩ := proposes.fresh
  have added := proposes.added
  constructor
  case exclusive =>
    intro id id' it it' g hf hf' hm hm'
    rcases lookup_added added hf with ⟨rfl, rfl⟩ | ⟨_, hf⟩ <;>
      rcases lookup_added added hf' with ⟨rfl, rfl⟩ | ⟨_, hf'⟩
    · rfl
    · exact absurd ⟨id', it', hf', hm'⟩ (proposes.free hm)
    · exact absurd ⟨id, it, hf, hm⟩ (proposes.free hm')
    · exact sound.exclusive id id' it it' g hf hf' hm hm'
  case announced =>
    intro id it hf g hm
    rcases lookup_added added hf with ⟨rfl, rfl⟩ | ⟨_, hf⟩
    · exact ⟨(proposes.told g hm).state, (proposes.told g hm).sent⟩
    · obtain ⟨state, sent⟩ := sound.announced id it hf g hm
      refine ⟨?_, proposes.sent sent⟩
      rcases proposes.states g with same | now
      · exact same.trans state
      · exact now
  case undecided =>
    intro id it hf
    rcases lookup_added added hf with ⟨-, rfl⟩ | ⟨_, hf⟩
    · rw [fresh.state]
      decide
    · exact sound.undecided id it hf
  case grouped =>
    intro id it hf
    rcases lookup_added added hf with ⟨-, rfl⟩ | ⟨_, hf⟩
    · exact fresh.grouped
    · exact sound.grouped id it hf
  case entered => exact proposes.entered sound.entered

end Proposes

/-- Who has an open proposal is not affected by what is over, and a tick makes one proposal. -/
def CalmUpdate (w : World) (m : LFGMgr) : Prop :=
  m.enabled = true →
    (∀ g ∈ expireGuids w m, ¬ m.proposals.Open g) ∧
      Finder.AloneInQueues w (m.expire w).proposals.m_lfgProposalId (m.expire w).toFinder
        (m.expire w).queueIds

instance (w : World) (m : LFGMgr) : Decidable (CalmUpdate w m) := by
  unfold CalmUpdate
  infer_instance

/-- The announcement of what a tick has found. -/
lemma proposes_announced (sound : m.Sound) {f : Finder}
    (searched : Finder.Searched w m.toFinder m.queueIds f) (regroup : Stores → Stores)
    {proposal : LfgProposal}
    (fresh : ∃ queueId ∈ m.queueIds,
      Fresh w m.proposals (m.QueuesStore queueId).QueueDataStore proposal)
    (added : f.proposals = m.proposals.AddProposal proposal) :
    Proposes w m ((m.withFinder f).lastProposals.foldl (announce w regroup) (m.withFinder f))
      proposal := by
  have inProposals : (m.withFinder f).proposals = m.proposals.AddProposal proposal := added
  have next : (m.withFinder f).proposals.m_lfgProposalId = m.proposals.nextId :=
    congrArg Proposals.m_lfgProposalId added
  have last : (m.withFinder f).proposals.ProposalsStore.lookup m.proposals.nextId =
      some proposal := by
    rw [inProposals]
    exact AList.lookup_insert _
  have inStore : ∀ it ∈ (m.withFinder f).lastProposals,
      (m.withFinder f).proposals.ProposalsStore.lookup it.1 = some it.2 := by
    intro it hm
    unfold lastProposals at hm
    rw [next, last] at hm
    exact (Table.mem_sorted ..).mp (List.mem_of_mem_filter hm)
  have isLast : (m.proposals.nextId, proposal) ∈ (m.withFinder f).lastProposals := by
    unfold lastProposals
    rw [next, last]
    exact List.mem_filter.mpr ⟨(Table.mem_sorted ..).mpr last, by simp⟩
  obtain ⟨queueId, used, isFresh⟩ := fresh
  have undecided : ∀ it ∈ (m.withFinder f).lastProposals, it.2.state ≠ .success := by
    intro it hm
    rcases lookup_added inProposals (inStore it hm) with ⟨-, hs⟩ | ⟨-, hf⟩
    · rw [hs, isFresh.state]
      decide
    · exact sound.undecided it.1 it.2 hf
  obtain ⟨tells, told⟩ := announce_all w regroup (m.withFinder f).lastProposals undecided
    (m.withFinder f)
  have stores : (m.withFinder f).stores = m.stores := searched.stores
  exact
    { fresh := ⟨queueId, used, isFresh⟩
      added := tells.proposals.trans inProposals
      data := fun queueId' => by
        rw [tells.queues]
        exact searched.data queueId'
      queueIds := tells.queueIds
      checks := tells.checks
      settles := stores ▸ tells.settles
      states := fun g => stores ▸ tells.states g
      sent := tells.sent
      told := fun g hm => told _ isLast g hm (isFresh.inWorld g hm) }

lemma Update_sound (sound : m.Sound) (calm : CalmUpdate w m) (regroup : Stores → Stores) :
    (m.Update w regroup).Sound := by
  unfold Update
  split
  · exact sound
  next enabled =>
    obtain ⟨ended, alone⟩ := calm (by simpa using enabled)
    have expired := (keeps_expire sound ended).sound sound
    dsimp only
    generalize m.expire w = m₀ at alone expired ⊢
    have searched := Finder.searched_queues (w := w) ⟨rfl, fun _ => rfl, .inl rfl⟩
      (List.Subset.refl _) (fun queueId used => expired.waiting used) alone
    generalize m₀.queueIds.foldl (fun f queueId => f.FindGroups w queueId) m₀.toFinder = f
      at searched ⊢
    rcases searched.few with same | ⟨proposal, queueId, used, fresh, added⟩
    · rw [if_neg (by simp [withFinder, same])]
      have kept : Keeps m₀ (m₀.withFinder f) := by
        refine .of_stores (congrArg Proposals.ProposalsStore same) (fun g _ => ?_)
          (List.Subset.refl _) ⟨rfl, fun queueId guid data hf => ?_, fun checks => checks⟩ ?_
        · exact congrArg (fun stores : Stores => stores.GetState g) searched.stores
        · rw [← searched.data queueId]
          exact hf
        · rw [show (m₀.withFinder f).stores = m₀.stores from searched.stores]
          exact .refl _ _
      exact kept.sound expired
    · have next : (m₀.withFinder f).proposals.m_lfgProposalId = m₀.proposals.nextId :=
        congrArg Proposals.m_lfgProposalId added
      rw [if_pos (by rw [next]; exact m₀.proposals.nextId_ne.symm)]
      exact (proposes_announced expired searched regroup ⟨queueId, used, fresh⟩ added).sound expired

end Updates

end LFGMgr

end WorldServer.DungeonFinding
