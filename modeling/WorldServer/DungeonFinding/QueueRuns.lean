import WorldServer.DungeonFinding.QueuePlaces

/-!
# The entries in a run

Joins, leaves, searches and failed proposals come in any order, while players and groups change
their states in any way. The entries keep their places as long as nobody joins who is listed
already, the searches are safe, and a failed proposal goes back to the queue it came from.
-/
namespace WorldServer.DungeonFinding

open WorldServer.Lib

namespace LFGQueue

variable (queue : LFGQueue) (guid : UInt64) (dungeons : List UInt32) (rolesMap : LfgRolesMap)

lemma AddQueueData_eq : queue.AddQueueData guid dungeons rolesMap =
    { queue with
      QueueDataStore := queue.QueueDataStore.insert guid ⟨dungeons, rolesMap⟩
      newToQueueStore := queue.newToQueueStore ++ [guid] } := by
  simp [AddQueueData, AddToQueue, AList.lookup_insert]

lemma AddQueueData_data : (queue.AddQueueData guid dungeons rolesMap).QueueDataStore =
    queue.QueueDataStore.insert guid ⟨dungeons, rolesMap⟩ := by rw [AddQueueData_eq]

lemma AddQueueData_new : (queue.AddQueueData guid dungeons rolesMap).newToQueueStore =
    queue.newToQueueStore ++ [guid] := by rw [AddQueueData_eq]

lemma AddQueueData_current : (queue.AddQueueData guid dungeons rolesMap).currentQueueStore =
    queue.currentQueueStore := by rw [AddQueueData_eq]

lemma RemoveFromQueue_has (g : UInt64) :
    (queue.RemoveFromQueue guid).Has g ↔ g ≠ guid ∧ queue.Has g := by
  change AList.lookup g (queue.QueueDataStore.erase guid) ≠ none ↔ _
  by_cases hs : g = guid
  · subst hs
    simp [AList.lookup_erase]
  · simp [AList.lookup_erase_ne hs, hs, Has]

lemma RemoveFromQueue_new : (queue.RemoveFromQueue guid).newToQueueStore =
    queue.newToQueueStore.filter (· ≠ guid) := rfl

lemma RemoveFromQueue_current : (queue.RemoveFromQueue guid).currentQueueStore =
    queue.currentQueueStore.filter (· ≠ guid) := rfl

end LFGQueue

namespace Finder

/-- Every entry with queue data is in one place: a list of its queue or an open proposal. -/
def Placed (f : Finder) : Prop := ∀ queueId, (f.matching queueId).Placed

/-- Nobody has queue data in two queues. -/
def Apart (f : Finder) : Prop :=
  ∀ queueId queueId' g, (f.QueuesStore queueId).Has g → (f.QueuesStore queueId').Has g →
    queueId = queueId'

def queueOf (f : Finder) (proposal : LfgProposal) : UInt8 :=
  f.stores.GetQueueId ((proposal.players.map Prod.fst).headD 0)

def Safe (f : Finder) : FinderStep → Prop
  | .addQueueData queueId guid _ _ =>
    (f.matching queueId).places guid = 0 ∧
      ∀ queueId', (f.QueuesStore queueId').Has guid → queueId' = queueId
  | .findGroups w queueId =>
    (f.matching queueId).SafeFronts w f.stores (f.QueuesStore queueId).newToQueueStore.length
  | .removeProposal id _ =>
    ∀ proposal, f.proposals.ProposalsStore.lookup id = some proposal →
      ∀ queueId, ∀ g ∈ proposal.queues, (f.QueuesStore queueId).Has g →
        queueId = f.queueOf proposal
  | _ => True

instance decidableSafe (f : Finder) : (a : FinderStep) → Decidable (f.Safe a)
  | .addQueueData queueId guid _ _ =>
    inferInstanceAs (Decidable ((f.matching queueId).places guid = 0 ∧
      ∀ queueId', (f.QueuesStore queueId').Has guid → queueId' = queueId))
  | .findGroups w queueId =>
    inferInstanceAs (Decidable ((f.matching queueId).SafeFronts w f.stores
      (f.QueuesStore queueId).newToQueueStore.length))
  | .removeProposal id _ =>
    match found : f.proposals.ProposalsStore.lookup id with
    | none => isTrue fun _ same => by rw [found] at same; cases same
    | some proposal =>
      decidable_of_iff (∀ queueId, ∀ g ∈ proposal.queues, (f.QueuesStore queueId).Has g →
          queueId = f.queueOf proposal)
        ⟨fun all _ same => by rw [found] at same; cases same; exact all, fun all => all _ found⟩
  | .removeFromQueue _ _ | .answer _ _ _ | .setStores _ => isTrue trivial

/-! ### One step -/

section Steps

variable {f : Finder}

lemma withQueue_self (queueId : UInt8) (queue : LFGQueue) :
    (f.withQueue queueId queue).QueuesStore queueId = queue := Function.update_self ..

variable {queueId : UInt8}

lemma withQueue_of_ne {queueId' : UInt8} (other : queueId' ≠ queueId) (queue : LFGQueue) :
    (f.withQueue queueId queue).QueuesStore queueId' =
      f.QueuesStore queueId' := Function.update_of_ne other ..

lemma Placed.changed {f' : Finder}
    (hs : ∀ queueId', queueId' ≠ queueId → f'.QueuesStore queueId' = f.QueuesStore queueId')
    (here : (f'.matching queueId).Placed)
    (others : ∀ queueId' g, queueId' ≠ queueId → (f.QueuesStore queueId').Has g →
      f'.proposals.openCount g = f.proposals.openCount g) (placed : f.Placed) : f'.Placed := by
  intro queueId' g has
  by_cases other : queueId' = queueId
  · subst other
    exact here g has
  · have before := placed queueId' g
    simp only [Matching.places, matching, hs queueId' other] at has before ⊢
    rw [others queueId' g other has]
    exact before has

lemma Apart.changed {f' : Finder}
    (hs : ∀ queueId', queueId' ≠ queueId → f'.QueuesStore queueId' = f.QueuesStore queueId')
    (fewer : ∀ g, (f'.QueuesStore queueId).Has g → (f.QueuesStore queueId).Has g) (apart : f.Apart) :
    f'.Apart := by
  have back : ∀ queueId' g, (f'.QueuesStore queueId').Has g → (f.QueuesStore queueId').Has g := by
    intro queueId' g has
    by_cases other : queueId' = queueId
    · subst other
      exact fewer g has
    · rwa [hs queueId' other] at has
  exact fun queueId' queueId'' g has has' => apart queueId' queueId'' g (back _ g has) (back _ g has')

lemma AddQueueData_has (queueId : UInt8) (guid : UInt64) (dungeons : List UInt32)
    (rolesMap : LfgRolesMap) (g : UInt64) :
    ((f.AddQueueData queueId guid dungeons rolesMap).QueuesStore queueId).Has g ↔
      g = guid ∨ (f.QueuesStore queueId).Has g := by
  rw [AddQueueData, withQueue_self, LFGQueue.Has, LFGQueue.AddQueueData_data]
  by_cases hs : g = guid
  · subst hs
    simp [AList.lookup_insert]
  · simp [AList.lookup_insert_ne hs, hs, LFGQueue.Has]

lemma AddQueueData_placed (placed : f.Placed) {guid : UInt64}
    (nowhere : (f.matching queueId).places guid = 0) (dungeons : List UInt32)
    (rolesMap : LfgRolesMap) : (f.AddQueueData queueId guid dungeons rolesMap).Placed := by
  refine Placed.changed (fun queueId' other => withQueue_of_ne other _) ?_ (fun _ _ _ _ => rfl) placed
  intro g has
  have added : ((f.AddQueueData queueId guid dungeons rolesMap).matching queueId).places g =
      (f.matching queueId).places g + [guid].count g := by
    simp only [Matching.places, matching, AddQueueData, withQueue_self,
      LFGQueue.AddQueueData_new, LFGQueue.AddQueueData_current, List.count_append]
    change _ + f.proposals.openCount g = _
    omega
  rw [added]
  rcases (AddQueueData_has queueId guid dungeons rolesMap g).mp has with rfl | has
  · simp [nowhere]
  · by_cases hs : g = guid
    · subst hs
      simp [nowhere]
    · rw [placed queueId g has, List.count_eq_zero.mpr (by simpa using hs)]

lemma AddQueueData_apart (apart : f.Apart) {guid : UInt64}
    (only : ∀ queueId', (f.QueuesStore queueId').Has guid → queueId' = queueId)
    (dungeons : List UInt32) (rolesMap : LfgRolesMap) :
    (f.AddQueueData queueId guid dungeons rolesMap).Apart := by
  have back : ∀ queueId' g,
      ((f.AddQueueData queueId guid dungeons rolesMap).QueuesStore queueId').Has g →
        (f.QueuesStore queueId').Has g ∨ (g = guid ∧ queueId' = queueId) := by
    intro queueId' g has
    by_cases other : queueId' = queueId
    · subst other
      rcases (AddQueueData_has queueId' guid dungeons rolesMap g).mp has with hs | has
      · exact .inr ⟨hs, rfl⟩
      · exact .inl has
    · rw [AddQueueData, withQueue_of_ne other] at has
      exact .inl has
  intro queueId' queueId'' g has has'
  rcases back queueId' g has with old | ⟨hs, here⟩ <;>
    rcases back queueId'' g has' with old' | ⟨hs', here'⟩
  · exact apart queueId' queueId'' g old old'
  · exact (only queueId' (hs' ▸ old)).trans here'.symm
  · exact here.trans (only queueId'' (hs ▸ old')).symm
  · exact here.trans here'.symm

lemma RemoveFromQueue_step (placed : f.Placed) (apart : f.Apart) (queueId : UInt8)
    (guid : UInt64) :
    (f.RemoveFromQueue queueId guid).Placed ∧ (f.RemoveFromQueue queueId guid).Apart := by
  have hs : ∀ queueId', queueId' ≠ queueId →
      (f.RemoveFromQueue queueId guid).QueuesStore queueId' = f.QueuesStore queueId' :=
    fun queueId' other => withQueue_of_ne other _
  have left : ∀ g, ((f.RemoveFromQueue queueId guid).QueuesStore queueId).Has g →
      g ≠ guid ∧ (f.QueuesStore queueId).Has g := by
    intro g has
    rwa [RemoveFromQueue, withQueue_self, LFGQueue.RemoveFromQueue_has] at has
  refine ⟨Placed.changed hs (fun g has => ?_) (fun _ _ _ _ => rfl) placed,
    Apart.changed hs (fun g has => (left g has).2) apart⟩
  obtain ⟨other, has⟩ := left g has
  have one := placed queueId g has
  simp only [Matching.places, matching, RemoveFromQueue, withQueue_self,
    LFGQueue.RemoveFromQueue_new, LFGQueue.RemoveFromQueue_current, count_filter_ne, if_neg other]
    at one ⊢
  exact one

lemma FindGroups_step (placed : f.Placed) (apart : f.Apart) {w : World}
    (safe : (f.matching queueId).SafeFronts w f.stores
      (f.QueuesStore queueId).newToQueueStore.length) :
    (f.FindGroups w queueId).Placed ∧ (f.FindGroups w queueId).Apart := by
  have tried := Matching.findGroupsLoop_tried _ (placed queueId) safe 0
  have here : (f.FindGroups w queueId).QueuesStore queueId =
      ((f.matching queueId).FindGroups w f.stores).1.queue := withQueue_self ..
  have hs : ∀ queueId', queueId' ≠ queueId →
      (f.FindGroups w queueId).QueuesStore queueId' = f.QueuesStore queueId' :=
    fun queueId' other => withQueue_of_ne other _
  constructor
  · refine Placed.changed hs ?_ (fun queueId' g other has => ?_) placed
    · rw [matching, here]
      exact tried.placed
    · exact tried.others g fun has' => other (apart queueId' queueId g has has')
  · refine Apart.changed hs (fun g has => ?_) apart
    rw [here, LFGQueue.Has] at has
    have data := tried.data
    exact fun absent => has ((congrArg (AList.lookup g) data).trans absent)

/-! ### A failed proposal -/

lemma GetQueueId_congr {stores stores' : Stores}
    (teams : ∀ guid, stores'.GetTeam guid = stores.GetTeam guid)
    (players : ∀ guid, (stores'.GroupsStore guid).m_Players = (stores.GroupsStore guid).m_Players)
    (guid : UInt64) : stores'.GetQueueId guid = stores.GetQueueId guid := by
  simp only [Stores.GetQueueId, teams, players]

lemma GetQueueId_SetState (stores : Stores) (guid : UInt64) (state : LfgState) (g : UInt64) :
    (stores.SetState guid state).GetQueueId g = stores.GetQueueId g := by
  apply GetQueueId_congr <;> intro other <;> unfold Stores.SetState <;> split <;>
    by_cases hs : other = guid <;> simp [Stores.GetTeam, Function.update, hs]

lemma GetQueueId_RestoreState (stores : Stores) (guid g : UInt64) :
    (stores.RestoreState guid).GetQueueId g = stores.GetQueueId g := by
  apply GetQueueId_congr <;> intro other <;> unfold Stores.RestoreState <;> split <;>
    by_cases hs : other = guid <;> simp [Stores.GetTeam, Function.update, hs]

lemma GetQueueId_notifyRemoved (toRemove : List UInt64) (stores : Stores)
    (players : List (UInt64 × LfgProposalPlayer)) (g : UInt64) :
    (players.foldl (notifyRemoved toRemove) stores).GetQueueId g = stores.GetQueueId g := by
  induction players generalizing stores with
  | nil => rfl
  | cons player players ih =>
    rw [List.foldl_cons, ih]
    unfold notifyRemoved
    dsimp only
    split_ifs <;> simp only [GetQueueId_SetState, GetQueueId_RestoreState]

lemma removeAll (queue : LFGQueue) (guids : List UInt64) :
    (∀ g, (guids.foldl LFGQueue.RemoveFromQueue queue).Has g ↔ g ∉ guids ∧ queue.Has g) ∧
      (∀ g, g ∉ guids → (guids.foldl LFGQueue.RemoveFromQueue queue).newToQueueStore.count g =
        queue.newToQueueStore.count g) ∧
      (∀ g, g ∉ guids → (guids.foldl LFGQueue.RemoveFromQueue queue).currentQueueStore.count g =
        queue.currentQueueStore.count g) := by
  induction guids generalizing queue with
  | nil => simp
  | cons guid guids ih =>
    obtain ⟨has, new, current⟩ := ih (queue.RemoveFromQueue guid)
    refine ⟨fun g => ?_, fun g out => ?_, fun g out => ?_⟩
    · rw [List.foldl_cons, has, LFGQueue.RemoveFromQueue_has, List.mem_cons, not_or]
      tauto
    · rw [List.mem_cons, not_or] at out
      rw [List.foldl_cons, new g out.2, LFGQueue.RemoveFromQueue_new, count_filter_ne,
        if_neg out.1]
    · rw [List.mem_cons, not_or] at out
      rw [List.foldl_cons, current g out.2, LFGQueue.RemoveFromQueue_current, count_filter_ne,
        if_neg out.1]

lemma addAll (queue : LFGQueue) (guids : List UInt64) :
    (guids.foldl LFGQueue.AddToQueue queue).QueueDataStore = queue.QueueDataStore ∧
      (∀ g, queue.Has g → (guids.foldl LFGQueue.AddToQueue queue).newToQueueStore.count g =
        queue.newToQueueStore.count g + guids.count g) ∧
      (guids.foldl LFGQueue.AddToQueue queue).currentQueueStore = queue.currentQueueStore := by
  induction guids generalizing queue with
  | nil => simp
  | cons guid guids ih =>
    obtain ⟨data, new, current⟩ := ih (queue.AddToQueue guid)
    have hs : (queue.AddToQueue guid).QueueDataStore = queue.QueueDataStore := by
      unfold LFGQueue.AddToQueue
      split <;> rfl
    refine ⟨data.trans hs, fun g has => ?_, ?_⟩
    · rw [List.foldl_cons, new g (by rwa [LFGQueue.Has, hs])]
      unfold LFGQueue.AddToQueue
      split
      next absent =>
        have other : guid ≠ g := fun here => has (here ▸ absent)
        rw [List.count_cons_of_ne other]
      · simp only [List.count_append, List.count_cons, List.count_nil]
        omega
    · rw [List.foldl_cons, current]
      unfold LFGQueue.AddToQueue
      split <;> rfl

lemma openCount_erase {proposals : Proposals} {id : UInt32} {proposal : LfgProposal}
    (hf : proposals.ProposalsStore.lookup id = some proposal) (g : UInt64) :
    ({ proposals with ProposalsStore := proposals.ProposalsStore.erase id } :
      Proposals).openCount g + proposal.queues.count g = proposals.openCount g :=
  Table.total_erase _ _ _ _ hf

lemma RemoveProposal_step (placed : f.Placed) (apart : f.Apart) {id : UInt32}
    (type : RemovalType)
    (home : ∀ proposal, f.proposals.ProposalsStore.lookup id = some proposal →
      ∀ queueId, ∀ g ∈ proposal.queues, (f.QueuesStore queueId).Has g →
        queueId = f.queueOf proposal) :
    (f.RemoveProposal id type).Placed ∧ (f.RemoveProposal id type).Apart := by
  unfold RemoveProposal
  split
  · exact ⟨placed, apart⟩
  next proposal hf =>
    dsimp only
    rw [GetQueueId_notifyRemoved]
    have home := home proposal hf
    unfold queueOf at home
    generalize f.stores.GetQueueId ((proposal.players.map Prod.fst).headD 0) = queueId at home ⊢
    generalize (proposal.players.map (LfgProposal.answered type)).foldl _ f.stores = stores
    obtain ⟨has, new, current⟩ := removeAll (f.QueuesStore queueId) (proposal.toRemove type)
    generalize (proposal.toRemove type).foldl LFGQueue.RemoveFromQueue (f.QueuesStore queueId) =
      queue at has new current ⊢
    obtain ⟨data, new', current'⟩ :=
      addAll queue (proposal.queues.filter (· ∉ proposal.toRemove type))
    have has' : ∀ g, ((proposal.queues.filter (· ∉ proposal.toRemove type)).foldl
        LFGQueue.AddToQueue queue).Has g ↔ g ∉ proposal.toRemove type ∧
          (f.QueuesStore queueId).Has g := by
      intro g
      rw [← has g, LFGQueue.Has, data]
      rfl
    have closes := openCount_erase hf
    constructor
    · refine Placed.changed (fun queueId' other => Function.update_of_ne other ..) ?_ ?_ placed
      · intro g hasAfter
        simp only [matching, withQueue, Function.update_self] at hasAfter
        obtain ⟨out, before⟩ := (has' g).mp hasAfter
        have one := placed queueId g before
        have kept : (proposal.queues.filter (· ∉ proposal.toRemove type)).count g =
            proposal.queues.count g := List.count_filter (by simpa using out)
        have close := closes g
        simp only [Matching.places, matching, withQueue, Function.update_self] at one ⊢
        rw [new' g ((has g).mpr ⟨out, before⟩), kept, new g out, current', current g out]
        omega
      · intro queueId' g other hasThere
        have notIn : proposal.queues.count g = 0 :=
          List.count_eq_zero.mpr fun hm => other (home queueId' g hm hasThere)
        have close := closes g
        rw [notIn] at close
        exact close
    · refine Apart.changed (fun queueId' other => Function.update_of_ne other ..) (fun g after => ?_)
        apart
      simp only [withQueue, Function.update_self] at after
      exact ((has' g).mp after).2

lemma openCount_setAnswer (f : Finder) (id : UInt32) (guid : UInt64) (accept : LfgAnswer)
    (g : UInt64) : (f.setAnswer id guid accept).proposals.openCount g =
      f.proposals.openCount g := by
  unfold setAnswer
  split
  · rfl
  next proposal hf =>
    refine Nat.add_right_cancel (m := proposal.queues.count g) ?_
    exact (Table.total_insert_of_some _ _ _ _ _ hf).trans (Nat.add_comm _ _)

lemma setAnswer_queues (f : Finder) (id : UInt32) (guid : UInt64) (accept : LfgAnswer) :
    (f.setAnswer id guid accept).QueuesStore = f.QueuesStore := by
  unfold setAnswer
  split <;> rfl

end Steps

lemma step_placed {f : Finder} {a : FinderStep} (kept : f.Placed ∧ f.Apart) (safe : f.Safe a) :
    (f.step a).Placed ∧ (f.step a).Apart := by
  obtain ⟨placed, apart⟩ := kept
  cases a with
  | addQueueData queueId guid dungeons rolesMap =>
    exact ⟨AddQueueData_placed placed safe.1 dungeons rolesMap,
      AddQueueData_apart apart safe.2 dungeons rolesMap⟩
  | removeFromQueue queueId guid => exact RemoveFromQueue_step placed apart queueId guid
  | findGroups w queueId => exact FindGroups_step placed apart safe
  | removeProposal id type => exact RemoveProposal_step placed apart type safe
  | answer id guid accept =>
    have queues := setAnswer_queues f id guid accept
    refine ⟨fun queueId g has => ?_, fun queueId queueId' g has has' => ?_⟩
    · simp only [step, Matching.places, matching, queues, openCount_setAnswer] at has ⊢
      exact placed queueId g has
    · simp only [step, queues] at has has'
      exact apart queueId queueId' g has has'
  | setStores stores => exact ⟨placed, apart⟩

/-- In every run of safe steps each entry with queue data stays in one place. -/
theorem entries_kept {f : Finder} (placed : f.Placed) (apart : f.Apart) (as : List FinderStep)
    (safe : Along step Safe f as) : (run step f as).Placed ∧ (run step f as).Apart := by
  have keeps : ∀ (f : Finder) a, f.Placed ∧ f.Apart → f.Safe a →
      (f.step a).Placed ∧ (f.step a).Apart := fun f a => step_placed
  exact run_invariant (fun f : Finder => f.Placed ∧ f.Apart) keeps ⟨placed, apart⟩ safe

def empty : Finder := ⟨fun _ => ⟨∅, ∅, [], []⟩, ⟨∅, 0⟩, Matching.queuedStores⟩

lemma empty_placed : empty.Placed ∧ empty.Apart :=
  ⟨fun _ _ has => absurd rfl has, fun _ _ _ has => absurd rfl has⟩

/-- A group without a tank, and a tank in the wrong state. Another tank declines the match with the
group, which is a new entry again when the first one is queued properly. -/
def declined : List FinderStep :=
  [.setStores (Matching.queuedStores.SetState 3 .rolecheck),
    .addQueueData 0 (Matching.groupGuid 1) [7] [(10, PLAYER_ROLE_HEALER), (11, PLAYER_ROLE_DAMAGE),
      (12, PLAYER_ROLE_DAMAGE), (13, PLAYER_ROLE_DAMAGE)],
    .addQueueData 0 3 [7] [(3, PLAYER_ROLE_TANK)], .findGroups Matching.quiet 0,
    .addQueueData 0 20 [7] [(20, PLAYER_ROLE_TANK)], .findGroups Matching.quiet 0,
    .answer 1 10 .agree, .answer 1 11 .agree, .answer 1 12 .agree, .answer 1 13 .agree,
    .answer 1 20 .deny, .removeProposal 1 .declined, .setStores Matching.queuedStores]

theorem entries_kept_declined : (run step empty declined).Placed ∧ (run step empty declined).Apart :=
  entries_kept empty_placed.1 empty_placed.2 declined (by decide +kernel)

/-- The match of the group and the first tank was cached in bad states. Now it is reported without
a proposal, and the group is dropped. -/
theorem upgrade_loses_entry : empty.Placed ∧ empty.Apart ∧
    ¬ (run step empty (declined ++ [.findGroups Matching.quiet 0])).Placed := by
  refine ⟨empty_placed.1, empty_placed.2, fun placed => ?_⟩
  have nowhere : ((run step empty (declined ++ [.findGroups Matching.quiet 0])).matching 0).places
      (Matching.groupGuid 1) = 0 := by decide +kernel
  have has : ((run step empty (declined ++ [.findGroups Matching.quiet 0])).QueuesStore 0).Has
      (Matching.groupGuid 1) := by decide +kernel
  have one := placed 0 _ has
  omega

end Finder

end WorldServer.DungeonFinding
