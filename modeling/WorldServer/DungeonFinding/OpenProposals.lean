import WorldServer.DungeonFinding.Entries

/-!
# Open proposals

What each operation does to the entries and to the open proposals. A request is harmless if it sets
no state of a player with an open proposal and its group has none.
-/
namespace WorldServer.DungeonFinding

open WorldServer.Lib

variable {proposal : LfgProposal}

/-- Guids of players and of groups are told apart by their high parts. -/
def JoinRequest.Typed (request : JoinRequest) : Prop :=
  IS_GROUP_GUID request.guid = false ∧
    ∀ grp ∈ request.grp, IS_GROUP_GUID grp.gguid ∧ ∀ g ∈ grp.members, IS_GROUP_GUID g = false

instance (request : JoinRequest) : Decidable request.Typed := by
  unfold JoinRequest.Typed
  infer_instance

namespace LFGMgr

section Frame

variable {m m' m'' : LFGMgr}

/-! ### Role checks and joins -/

def roleCheckGuids (m : LFGMgr) (gguid guid : UInt64) (roles : UInt8) : List UInt64 :=
  if gguid = 0 then []
  else
    match m.RoleChecksStore.lookup gguid with
    | none => []
    | some before =>
      let roleCheck := before.select guid roles
      if roleCheck.state = .initialiting then [] else gguid :: roleCheck.roles.map Prod.fst

/-- A role check that ends well is one of at most 250 members of the group, which is in no other
queue and has no open proposal. -/
def Admits (m : LFGMgr) (gguid guid : UInt64) (roles : UInt8) : Prop :=
  ∀ before ∈ m.RoleChecksStore.lookup gguid, (before.select guid roles).state = .finished →
    (before.select guid roles).roles.length ≤ 250 ∧
      (∀ g ∈ (before.select guid roles).roles.keys, m.GetGroup g = gguid) ∧
      (∀ queueId ∈ m.queueIds, queueId ≠ m.stores.GetQueueId gguid →
        (m.QueuesStore queueId).QueueDataStore.lookup gguid = none) ∧
      ∀ e ∈ m.proposals.ProposalsStore.entries, ∀ player ∈ e.2.groups, player.2 ≠ gguid

instance (m : LFGMgr) (gguid guid : UInt64) (roles : UInt8) : Decidable (m.Admits gguid guid roles) := by
  unfold Admits
  infer_instance

variable {gguid : UInt64} {regroup : Stores → Stores} {id : UInt32}

lemma keys_set {groles : LfgRolesMap} {guid g : UInt64} {role : UInt8}
    (hm : g ∈ (groles.set guid role).keys) : g = guid ∨ g ∈ groles.keys := by
  obtain ⟨it, inSet, rfl⟩ := List.mem_map.mp hm
  rcases LfgRolesMap.mem_set inSet with rfl | before
  · exact .inl rfl
  · exact .inr (List.mem_map_of_mem before)

lemma keys_select {before : LfgRoleCheck} {guid g : UInt64} {roles : UInt8}
    (hm : g ∈ (before.select guid roles).roles.keys) : g = guid ∨ g ∈ before.roles.keys := by
  unfold LfgRoleCheck.select at hm
  dsimp only at hm
  split at hm
  · exact .inr hm
  · split at hm
    · exact .inr hm
    · split at hm <;> exact keys_set hm

lemma Checks.insert (checks : m.Checks) {roleCheck : LfgRoleCheck} (isGroup : IS_GROUP_GUID gguid)
    (players : ∀ g ∈ roleCheck.roles.keys, IS_GROUP_GUID g = false)
    (hs : m'.RoleChecksStore = m.RoleChecksStore.insert gguid roleCheck) : m'.Checks := by
  intro gguid' roleCheck' hf
  rw [hs] at hf
  rcases (Table.lookup_insert_iff ..).mp hf with ⟨rfl, rfl⟩ | ⟨-, hf⟩
  · exact ⟨isGroup, players⟩
  · exact checks gguid' roleCheck' hf

lemma Checks.erase (checks : m.Checks) (gguid : UInt64)
    (hs : m'.RoleChecksStore = m.RoleChecksStore.erase gguid) : m'.Checks := by
  intro gguid' roleCheck hf
  rw [hs] at hf
  exact checks gguid' roleCheck ((Table.lookup_erase_iff ..).mp hf).2

lemma adds_AddQueueData {queueId : UInt8} {guid : UInt64} {dungeons : List UInt32}
    {roles : LfgRolesMap} (queueIds : m'.queueIds = m.queueIds)
    (queues : m'.QueuesStore = Function.update m.QueuesStore queueId
      ((m.QueuesStore queueId).AddQueueData guid dungeons roles))
    (checks : m.Checks → m'.Checks) : Adds queueId guid ⟨dungeons, roles⟩ m m' where
  queueIds := queueIds
  entries queueId' guid' data' hf := by
    rw [queues] at hf
    by_cases hs : queueId' = queueId
    · subst hs
      rw [Function.update_self] at hf
      unfold LFGQueue.AddQueueData LFGQueue.AddToQueue at hf
      have hf : ((m.QueuesStore queueId').QueueDataStore.insert guid ⟨dungeons, roles⟩).lookup guid' =
          some data' := by
        split at hf <;> exact hf
      rcases (Table.lookup_insert_iff ..).mp hf with ⟨rfl, rfl⟩ | ⟨other, hf⟩
      · exact .inl ⟨rfl, rfl, rfl⟩
      · exact .inr ⟨fun here => other here.2, hf⟩
    · rw [Function.update_of_ne hs] at hf
      exact .inr ⟨fun here => hs here.1, hf⟩
  checks := checks

lemma sound_UpdateRoleCheck (sound : m.Sound) {guid : UInt64} {roles : UInt8}
    (isPlayer : IS_GROUP_GUID guid = false) (admits : m.Admits gguid guid roles)
    (calm : ∀ g ∈ m.roleCheckGuids gguid guid roles, ¬ m.proposals.Open g) :
    (m.UpdateRoleCheck gguid guid roles).Sound := by
  unfold UpdateRoleCheck
  unfold roleCheckGuids at calm
  split
  · exact sound
  next aGroup =>
    rw [if_neg aGroup] at calm
    split
    · exact sound
    next before hf =>
      have admits := admits before hf
      obtain ⟨isGroup, players⟩ := sound.entered.checks gguid before hf
      have typed : ∀ g ∈ (before.select guid roles).roles.keys, IS_GROUP_GUID g = false := by
        intro g hm
        rcases keys_select hm with rfl | hm
        · exact isPlayer
        · exact players g hm
      rw [hf] at calm
      dsimp only at calm ⊢
      generalize before.select guid roles = roleCheck at calm admits typed ⊢
      have out : ∀ g, m.proposals.Open g → roleCheck.state ≠ .initialiting →
          g ≠ gguid ∧ g ∉ roleCheck.roles.map Prod.fst := by
        intro g isOpen ended
        rw [if_neg ended] at calm
        exact not_or.mp fun hm => calm g (List.mem_cons.mpr hm) isOpen
      have notified : ∀ g, m.proposals.Open g →
          ((roleCheck.roles.map Prod.fst).foldl (LfgRoleCheck.notify roleCheck.state)
            m.stores).GetState g = m.stores.GetState g :=
        fun g isOpen => m.stores.GetState_notifyAll g roleCheck fun ended => (out g isOpen ended).2
      have settles : ∀ again, m.stores.Settles again
          ((roleCheck.roles.map Prod.fst).foldl (LfgRoleCheck.notify roleCheck.state) m.stores) :=
        fun again => .foldl _ (fun _ g hm => Stores.settles_notify (typed g hm)) m.stores
      split
      · refine Keeps.sound (m := m) ?_ sound
        refine .of_stores rfl notified (List.Subset.refl _) ⟨rfl, fun _ _ _ hf => hf, ?_⟩ (settles _)
        exact fun checks => checks.insert isGroup typed rfl
      next finished =>
        have ended : roleCheck.state ≠ .initialiting := by
          rw [finished]
          decide
        obtain ⟨small, members, once, outside⟩ := admits finished
        have enters : m.Enters (m.stores.GetQueueId gguid) gguid
            ⟨roleCheck.dungeons, roleCheck.roles⟩ :=
          { players := ⟨small, typed⟩
            alone := fun isPlayer => by rw [isGroup] at isPlayer; cases isPlayer
            members := fun _ => members
            once := fun _ => once
            closed := fun g hm isOpen => (out g isOpen ended).2 hm
            outside := fun _ id proposal hf => outside ⟨id, proposal⟩ (AList.mem_lookup_iff.mp hf) }
        have queuedToo : m.stores.Settles (· = gguid)
            (((roleCheck.roles.map Prod.fst).foldl (LfgRoleCheck.notify roleCheck.state)
              m.stores).SetState gguid .queued) :=
          (settles _).trans (Stores.settles_SetState fun _ _ => rfl)
        refine sound.enter enters (adds_AddQueueData rfl ?_ fun checks => checks.erase gguid rfl) rfl
          (fun g isOpen => ?_) (List.Subset.refl _) queuedToo
        · have queue := queuedToo.queue gguid
          simp only [withFinder, Finder.AddQueueData, Finder.withQueue, queue]
        · exact ((Stores.GetState_SetState ..).trans (if_neg (out g isOpen ended).1)).trans
            (notified g isOpen)
      next ended _ =>
        refine Keeps.sound (m := m) ?_ sound
        refine .of_stores rfl (fun g isOpen => ?_) (List.Subset.refl _)
          ⟨rfl, fun _ _ _ hf => hf, fun checks => checks.erase gguid rfl⟩
          ((settles _).trans (Stores.settles_RestoreState ..))
        exact (Stores.GetState_RestoreState _ _ _ (out g isOpen ended).1).trans (notified g isOpen)

lemma fewer_RemoveFromQueue (queue : LFGQueue) (guid : UInt64) {guid' : UInt64}
    {data : LfgQueueData} (hf : (queue.RemoveFromQueue guid).QueueDataStore.lookup guid' = some data) :
    queue.QueueDataStore.lookup guid' = some data := ((Table.lookup_erase_iff ..).mp hf).2

lemma keeps_leaveQueue (gguid : UInt64) : Keeps m (m.leaveQueue gguid) := by
  unfold leaveQueue
  split
  · exact .of_stores rfl (fun _ _ => rfl) (List.Subset.refl _)
      (.of_queue rfl rfl (fun _ _ hf => fewer_RemoveFromQueue _ gguid hf) rfl) (.refl _ _)
  · exact .refl m

/-- Whose state a request sets. Requests that are refused set none. -/
def joinGuids (w : World) (m : LFGMgr) (request : JoinRequest) : List UInt64 :=
  let m := m.leaveQueue request.gguid
  if request.restricted ∨ request.dungeons.isEmpty then []
  else
    match request.grp with
    | some grp =>
      if grp.refused ∨ request.isRaid then []
      else
        grp.gguid :: grp.members ++
          (m.beginRoleCheck w grp request.dungeons).roleCheckGuids grp.gguid request.guid
            request.roles
    | none => if request.isRaid then [] else [request.guid]

/-- A group may join if the role check that the request begins admits it. -/
def AdmitsJoin (w : World) (m : LFGMgr) (request : JoinRequest) : Prop :=
  ∀ grp ∈ request.grp,
    ((m.leaveQueue request.gguid).beginRoleCheck w grp request.dungeons).Admits grp.gguid
      request.guid request.roles

instance (w : World) (m : LFGMgr) (request : JoinRequest) : Decidable (AdmitsJoin w m request) := by
  unfold AdmitsJoin
  infer_instance

lemma keys_foldl_set {guids : List UInt64} {groles : LfgRolesMap} {role : UInt8} {g : UInt64}
    (hm : g ∈ (guids.foldl (fun roles guid => roles.set guid role) groles).keys) :
    g ∈ guids ∨ g ∈ groles.keys := by
  induction guids generalizing groles with
  | nil => exact .inr hm
  | cons guid guids ih =>
    rcases ih hm with later | hm
    · exact .inl (List.mem_cons_of_mem _ later)
    · rcases keys_set hm with rfl | before
      · exact .inl List.mem_cons_self
      · exact .inr before

lemma keeps_beginRoleCheck {w : World} {grp : Party} {dungeons : List UInt32}
    (isGroup : IS_GROUP_GUID grp.gguid) (players : ∀ g ∈ grp.members, IS_GROUP_GUID g = false)
    (calm : ∀ g ∈ grp.gguid :: grp.members, ¬ m.proposals.Open g) :
    Keeps m (m.beginRoleCheck w grp dungeons) := by
  refine .of_SetStates _ calm .rolecheck (by decide) rfl rfl (List.Subset.refl _)
    ⟨rfl, fun _ _ _ hf => hf, fun checks => checks.insert isGroup (fun g hm => ?_) rfl⟩
  rcases keys_foldl_set hm with inParty | before
  · exact players g inParty
  · cases hf : m.RoleChecksStore.lookup grp.gguid with
    | none =>
      rw [hf] at before
      cases before
    | some roleCheck =>
      rw [hf] at before
      exact (checks grp.gguid roleCheck hf).2 g before

lemma sound_JoinLfg (sound : m.Sound) {w : World} {request : JoinRequest} (typed : request.Typed)
    (admits : AdmitsJoin w m request)
    (calm : ∀ g ∈ joinGuids w m request, ¬ m.proposals.Open g) : (m.JoinLfg w request).Sound := by
  have left := m.keeps_leaveQueue request.gguid
  have sound' := left.sound sound
  unfold JoinLfg
  unfold joinGuids at calm
  unfold AdmitsJoin at admits
  generalize m.leaveQueue request.gguid = m' at calm admits left sound' ⊢
  split
  · exact sound'
  next allowed =>
    rw [if_neg allowed] at calm
    split
    next grp asGroup =>
      rw [asGroup] at calm
      dsimp only at calm
      obtain ⟨isGroup, players⟩ := typed.2 grp asGroup
      split
      · exact sound'
      next fits =>
        rw [if_neg fits] at calm
        have begun : Keeps m' (m'.beginRoleCheck w grp request.dungeons) :=
          keeps_beginRoleCheck isGroup players fun g hm isOpen =>
            calm g (List.mem_append_left _ hm) (left.isOpen isOpen)
        refine sound_UpdateRoleCheck (begun.sound sound') typed.1 (admits grp asGroup)
          fun g hm isOpen => ?_
        exact calm g (List.mem_append_right _ hm) (left.isOpen (begun.isOpen isOpen))
    next alone =>
      rw [alone] at calm
      dsimp only at calm
      split
      · exact sound'
      next fits =>
        rw [if_neg fits] at calm
        have closed : ¬ m'.proposals.Open request.guid := fun isOpen =>
          calm request.guid List.mem_cons_self (left.isOpen isOpen)
        have isPlayer := typed.1
        have notGroup : ¬ IS_GROUP_GUID request.guid := by simp [isPlayer]
        have enters : m'.Enters (m'.stores.GetQueueId request.guid) request.guid
            ⟨request.dungeons, [(request.guid, request.roles)]⟩ :=
          { players := ⟨by simp, fun g hm => by rwa [List.mem_singleton.mp hm]⟩
            alone := fun _ g hm => List.mem_singleton.mp hm
            members := fun isGroup => absurd isGroup notGroup
            once := fun isGroup => absurd isGroup notGroup
            closed := fun g hm => by rwa [List.mem_singleton.mp hm]
            outside := fun isGroup => absurd isGroup notGroup }
        refine sound'.enter enters (adds_AddQueueData rfl rfl fun checks => checks) rfl
          (fun g isOpen => ?_) (List.Subset.refl _)
          (Stores.settles_SetState fun _ isGroup => absurd isGroup notGroup)
        have other : g ≠ request.guid := fun hs => closed (hs ▸ isOpen)
        exact (Stores.GetState_SetState ..).trans (if_neg other)

/-! ### Answers -/

section

variable (m id) (guid : UInt64) (accept : LfgAnswer)

lemma setAnswer_stores : (m.withFinder (m.setAnswer id guid accept)).stores = m.stores := by
  unfold Finder.setAnswer
  split <;> rfl

lemma setAnswer_queues :
    (m.withFinder (m.setAnswer id guid accept)).QueuesStore = m.QueuesStore := by
  unfold Finder.setAnswer
  split <;> rfl

lemma keeps_setAnswer : Keeps m (m.withFinder (m.setAnswer id guid accept)) := by
  refine .of_frames (fun id' proposal' hf' => ?_) (List.Subset.refl _)
    (.of_eq rfl (m.setAnswer_queues id guid accept) rfl) ?_
  · have states := m.setAnswer_stores id guid accept
    unfold Finder.setAnswer at hf'
    split at hf'
    · exact ⟨proposal', hf', rfl, rfl, fun _ _ => by rw [states]⟩
    next proposal hf =>
      rcases (Table.lookup_insert_iff ..).mp hf' with ⟨rfl, rfl⟩ | ⟨_, hf'⟩
      · refine ⟨proposal, hf, ?_, rfl, fun _ _ => by rw [states]⟩
        simp only [LfgProposal.groups, List.map_map]
        refine List.map_congr_left fun player _ => ?_
        simp only [Function.comp_apply]
        split <;> rfl
      · exact ⟨proposal', hf', rfl, rfl, fun _ _ => by rw [states]⟩
  · rw [setAnswer_stores]
    exact .refl _ _

end

lemma fewer_RemoveAll {guids : List UInt64} {queue : LFGQueue} {guid : UInt64}
    {data : LfgQueueData}
    (hf : (guids.foldl LFGQueue.RemoveFromQueue queue).QueueDataStore.lookup guid = some data) :
    queue.QueueDataStore.lookup guid = some data := by
  induction guids generalizing queue with
  | nil => exact hf
  | cons guid guids ih => exact fewer_RemoveFromQueue queue guid (ih hf)

lemma data_AddAll (guids : List UInt64) (queue : LFGQueue) :
    (guids.foldl LFGQueue.AddToQueue queue).QueueDataStore = queue.QueueDataStore := by
  induction guids generalizing queue with
  | nil => rfl
  | cons guid guids ih =>
    rw [List.foldl_cons, ih]
    unfold LFGQueue.AddToQueue
    split <;> rfl

/-- The states that change at the end of a proposal are those of its players and groups, who have
no other. The groups that are queued again are free. -/
lemma keeps_closeProposal (sound : m.Sound) (w : World) (id : UInt32) (type : RemovalType) :
    Keeps m (m.closeProposal w id type) := by
  unfold closeProposal
  split
  · exact .refl m
  next proposal hf =>
    refine Keeps.trans ?_ (sends_sendAll ..).keeps
    have typed : ∀ player ∈ proposal.players.map (LfgProposal.answered type),
        ∃ player' ∈ proposal.players, player.1 = player'.1 ∧
          player.2.group = player'.2.group := by
      intro player hm
      obtain ⟨player', inProposal, rfl⟩ := List.mem_map.mp hm
      refine ⟨player', inProposal, ?_⟩
      unfold LfgProposal.answered
      split <;> exact ⟨rfl, rfl⟩
    unfold Finder.RemoveProposal
    rw [hf]
    have frames : Frames m (m.withFinder (m.RemoveProposal id type)) := by
      unfold Finder.RemoveProposal
      rw [hf]
      refine .of_queue rfl rfl (fun guid data hf => ?_) rfl
      rw [data_AddAll] at hf
      exact fewer_RemoveAll hf
    have elsewhere : ∀ id' proposal', id' ≠ id →
        m.proposals.ProposalsStore.lookup id' = some proposal' →
          ∀ g ∈ proposal'.guids, g ∉ proposal.guids :=
      fun id' proposal' other hf' g hm here =>
        other (sound.exclusive id' id proposal' proposal g hf' hf hm here)
    refine .of_erase id rfl (fun id' proposal' other hf' g hm => ?_) (List.Subset.refl _)
      (by simpa only [Finder.RemoveProposal, hf] using frames) ?_
    · refine m.stores.GetState_foldl g
        (fun player => [player.1, LfgProposal.entryOf player])
        (fun stores player => stores.GetState_notifyRemoved g _ player) _ ?_
      intro player inAnswered touched
      obtain ⟨player', inProposal, guid, group'⟩ := typed player inAnswered
      obtain ⟨isPlayer, group⟩ := sound.grouped id proposal hf player' inProposal
      have notHere : g ≠ player'.1 := by
        rintro rfl
        exact elsewhere id' proposal' other hf' _ hm (List.mem_map_of_mem inProposal)
      have notGroup : IS_GROUP_GUID g = false := by
        obtain ⟨player'', inOther, rfl⟩ := List.mem_map.mp hm
        exact (sound.grouped id' proposal' hf' player'' inOther).1
      rw [List.mem_cons, List.mem_singleton, LfgProposal.entryOf, guid, group'] at touched
      rcases touched with hs | hs
      · exact notHere hs
      · split_ifs at hs with inGroup
        · rw [hs] at notGroup
          rw [group.resolve_left inGroup] at notGroup
          cases notGroup
        · exact notHere hs
    · refine .foldl _ (fun stores player inAnswered => ?_) m.stores
      obtain ⟨player', inProposal, guid, group⟩ := typed player inAnswered
      refine Stores.settles_notifyRemoved (guid ▸ (sound.grouped id proposal hf player' inProposal).1)
        fun inGroup queueId data entry g hm => ?_
      rintro ⟨id', proposal', hf', inOther⟩
      obtain ⟨other, hf'⟩ := (Table.lookup_erase_iff ..).mp hf'
      rw [group] at inGroup entry
      refine elsewhere id' proposal' other hf' g inOther ?_
      refine sound.entered.whole id proposal hf _ (List.mem_map_of_mem inProposal) inGroup queueId
        data ⟨entry.1, frames.entries _ _ _ ?_⟩ hm
      simpa only [withFinder, Finder.RemoveProposal, hf] using entry.2

/-! ### Scripts -/

lemma keeps_scripts {change : Stores → Stores} (tame : Stores.Tame change)
    (leaves : m.toFinder.Leaves m.queueIds change) :
    Keeps m (m.withFinder { m.toFinder with stores := change m.stores }) where
  proposals id proposal hf := ⟨proposal, hf, rfl, rfl, fun g hm => leaves.1 g ⟨id, proposal, hf, hm⟩⟩
  sent := List.Subset.refl _
  queueIds := rfl
  entries _ _ _ hf := hf
  checks checks := checks
  members queueId guid data entry isGroup g hm :=
    leaves.2 queueId entry.1 ⟨guid, data⟩ (AList.mem_lookup_iff.mp entry.2) isGroup g hm
  restored restored := (tame m.stores restored).1
  queued restored guid isGroup queued := .inl ((tame m.stores restored).2 guid isGroup queued)

/-- When everybody agrees, before the scripts make the new group: the entries leave the queue of the
player who answered last. -/
def agreed (m : LFGMgr) (id : UInt32) (guid : UInt64) (proposal : LfgProposal) : Finder :=
  { m.withQueue (m.stores.GetQueueId guid) (proposal.queues.foldl LFGQueue.RemoveFromQueue
      (m.QueuesStore (m.stores.GetQueueId guid))) with
    stores := proposal.guids.foldl (fun stores g => stores.SetState g .dungeon) m.stores
    proposals := m.proposals.without id }

lemma succeedProposal_eq (m : LFGMgr) (regroup : Stores → Stores) (id : UInt32) (guid : UInt64)
    (proposal : LfgProposal) :
    m.succeedProposal regroup id guid proposal =
      (m.withFinder (m.agreed id guid proposal)).withFinder
        { m.agreed id guid proposal with stores := regroup (m.agreed id guid proposal).stores } :=
  rfl

lemma keeps_agreed (exclusive : m.Exclusive)
    (hf : m.proposals.ProposalsStore.lookup id = some proposal) (guid : UInt64) :
    Keeps m (m.withFinder (m.agreed id guid proposal)) := by
  refine .of_erase id rfl (fun id' proposal' other hf' g hm => ?_) (List.Subset.refl _)
    (.of_queue rfl rfl (fun _ _ hf => fewer_RemoveAll hf) rfl)
    (Stores.settles_SetStates fun queued => by cases queued)
  have elsewhere : g ∉ proposal.guids := fun here =>
    other (exclusive id' id proposal' proposal g hf' hf hm here)
  exact (m.stores.GetState_SetStates g _ .dungeon).trans (if_neg elsewhere)

/-- When everybody agrees, the new group leaves those alone who have another proposal or an entry of
their group. -/
def CalmGroup (m : LFGMgr) (regroup : Stores → Stores) (id : UInt32) (guid : UInt64) : Prop :=
  ∀ proposal ∈ m.proposals.ProposalsStore.lookup id,
    (proposal.players.all fun player => player.2.accept = .agree) →
      (m.agreed id guid proposal).Leaves m.queueIds regroup

instance (m : LFGMgr) (regroup : Stores → Stores) (id : UInt32) (guid : UInt64) :
    Decidable (m.CalmGroup regroup id guid) := by
  unfold CalmGroup
  infer_instance

lemma keeps_succeedProposal (exclusive : m.Exclusive) (tame : Stores.Tame regroup)
    (hf : m.proposals.ProposalsStore.lookup id = some proposal) {guid : UInt64}
    (leaves : (m.agreed id guid proposal).Leaves m.queueIds regroup) :
    Keeps m (m.succeedProposal regroup id guid proposal) := by
  rw [succeedProposal_eq]
  exact (keeps_agreed exclusive hf guid).trans (keeps_scripts tame leaves)

lemma keeps_UpdateProposal (sound : m.Sound) (w : World) (tame : Stores.Tame regroup)
    {guid : UInt64} {accept : Bool}
    (calm : accept = true →
      (m.withFinder (m.setAnswer id guid .agree)).CalmGroup regroup id guid) :
    Keeps m (m.UpdateProposal w regroup id guid accept) := by
  unfold UpdateProposal
  split
  · exact .refl m
  · split
    · exact .refl m
    · have answered := m.keeps_setAnswer id guid (if accept then .agree else .deny)
      dsimp only
      cases accept with
      | false =>
        simp only [Bool.not_false, if_true]
        exact answered.trans (keeps_closeProposal (answered.sound sound) w id .declined)
      | true =>
        have calm := calm rfl
        simp only [Bool.not_true, Bool.false_eq_true, if_true, if_false] at answered ⊢
        generalize m.withFinder (m.setAnswer id guid .agree) = m' at answered calm ⊢
        have exclusive := answered.exclusive sound.exclusive
        split
        · exact answered
        next proposal hf =>
          split
          · exact answered.trans (sends_sendAll ..).keeps
          next all =>
            have leaves := calm proposal hf (not_not.mp all)
            refine answered.trans ?_
            split
            · have told := sends_sendAll w id (proposal.players.map Prod.fst) m'
              refine told.keeps.trans (keeps_succeedProposal (told.keeps.exclusive exclusive) tame
                ?_ ?_)
              · rw [told.finder]
                exact hf
              · rw [agreed, told.finder, told.queueIds]
                exact leaves
            · exact keeps_succeedProposal exclusive tame hf leaves

/-! ### Leaves and votes -/

/-- Whose state a leave sets, apart from the end of a proposal. -/
def leaveGuids (m : LFGMgr) (guid : UInt64) : List UInt64 :=
  let gguid := if IS_GROUP_GUID guid then guid else m.GetGroup guid
  match m.stores.GetState guid with
  | .queued => if gguid ≠ 0 then gguid :: m.GetPlayers gguid else [guid]
  | .rolecheck => if gguid ≠ 0 then m.roleCheckGuids gguid 0 PLAYER_ROLE_NONE else []
  | .proposal | .none | .raidbrowser => []
  | .dungeon | .finishedDungeon | .boot => if guid ≠ gguid then [guid] else []

/-- Nobody is added by a role check that is aborted. -/
lemma admits_abort (m : LFGMgr) (gguid : UInt64) (roles : UInt8) : m.Admits gguid 0 roles := by
  intro before _ finished
  rw [LfgRoleCheck.select, if_pos rfl] at finished
  cases finished

lemma sound_LeaveLfg (sound : m.Sound) (w : World) {guid : UInt64}
    (calm : ∀ g ∈ m.leaveGuids guid, ¬ m.proposals.Open g) : (m.LeaveLfg w guid).Sound := by
  unfold LeaveLfg
  unfold leaveGuids at calm
  dsimp only at calm ⊢
  generalize (if IS_GROUP_GUID guid then guid else m.GetGroup guid) = gguid at calm ⊢
  have leaves : ∀ guids (queueId : UInt8) (guid : UInt64),
      (∀ g ∈ guids, ¬ m.proposals.Open g) →
        ((m.withFinder (m.RemoveFromQueue queueId guid)).SetStates guids .none).Sound := by
    refine fun guids queueId guid calm => Keeps.sound (m := m) ?_ sound
    exact .of_SetStates guids calm .none (by decide) rfl rfl (List.Subset.refl _)
      (.of_queue rfl rfl (fun _ _ hf => fewer_RemoveFromQueue _ guid hf) rfl)
  cases state : m.stores.GetState guid with
  | queued =>
    rw [state] at calm
    dsimp only at calm ⊢
    split
    next aGroup =>
      rw [if_pos aGroup] at calm
      exact leaves _ _ _ calm
    next alone =>
      rw [if_neg alone] at calm
      exact leaves _ _ _ calm
  | rolecheck =>
    rw [state] at calm
    dsimp only at calm ⊢
    split
    next aGroup =>
      rw [if_pos aGroup] at calm
      exact sound_UpdateRoleCheck sound (by decide) (m.admits_abort gguid _) calm
    · exact sound
  | proposal =>
    dsimp only
    split
    · exact sound
    next id _ =>
      have denied := m.keeps_setAnswer id (if gguid = guid then m.GetLeader gguid else guid) .deny
      exact (denied.trans (keeps_closeProposal (denied.sound sound) w id .declined)).sound sound
  | none => exact sound
  | raidbrowser => exact sound
  | dungeon | finishedDungeon | boot =>
    rw [state] at calm
    dsimp only at calm ⊢
    split
    next other =>
      rw [if_pos other] at calm
      refine Keeps.sound (m := m) ?_ sound
      exact .of_SetStates _ calm .none (by decide) rfl rfl (List.Subset.refl _) (.of_eq rfl rfl rfl)
    · exact sound

lemma keeps_InitBoot (w : World) (kicker victim : UInt64)
    (calm : ∀ g ∈ gguid :: m.GetPlayers gguid, ¬ m.proposals.Open g) :
    Keeps m (m.InitBoot w gguid kicker victim) :=
  .of_SetStates _ calm .boot (by decide) rfl rfl (List.Subset.refl _) (.of_eq rfl rfl rfl)

lemma keeps_closeBoot {guids : List UInt64} (calm : ∀ g ∈ gguid :: guids, ¬ m.proposals.Open g) :
    Keeps m (m.closeBoot gguid guids) := by
  refine .of_stores rfl (fun g isOpen => ?_) (List.Subset.refl _) (.of_eq rfl rfl rfl) ?_
  · have out : g ≠ gguid ∧ g ∉ guids :=
      not_or.mp fun hm => calm g (List.mem_cons.mpr hm) isOpen
    have group : g ∉ [gguid] := fun hm => out.1 (List.mem_singleton.mp hm)
    exact ((Stores.GetState_SetStates ..).trans (if_neg group)).trans
      ((Stores.GetState_SetStates ..).trans (if_neg out.2))
  · have members : m.stores.Settles (m.closeBoot gguid guids).Freed
        (m.SetStates guids .dungeon).stores :=
      Stores.settles_SetStates fun queued => by cases queued
    have group : (m.SetStates guids .dungeon).stores.Settles (m.closeBoot gguid guids).Freed
        (m.closeBoot gguid guids).stores :=
      Stores.settles_SetStates fun queued => by cases queued
    exact members.trans group

/-- A vote that ends sets the states of players without an open proposal, and a kick leaves those
alone who have one, or an entry of their group. A vote that goes on sets none. -/
def CalmVote (m : LFGMgr) (kick : Stores → Stores) (guid : UInt64) (accept : Bool) : Prop :=
  ∀ boot ∈ m.BootsStore.lookup (m.GetGroup guid), m.GetGroup guid ≠ 0 →
    ¬ boot.undecided guid accept →
      (∀ g ∈ m.GetGroup guid :: (boot.answer guid accept).keys.filter (· ≠ boot.victim),
        ¬ m.proposals.Open g) ∧
      (m.closeBoot (m.GetGroup guid)
        ((boot.answer guid accept).keys.filter (· ≠ boot.victim))).toFinder.Leaves m.queueIds kick

instance (m : LFGMgr) (kick : Stores → Stores) (guid : UInt64) (accept : Bool) :
    Decidable (m.CalmVote kick guid accept) := by
  unfold CalmVote
  infer_instance

lemma keeps_UpdateBoot {kick : Stores → Stores} (tame : Stores.Tame kick) {guid : UInt64}
    {accept : Bool} (calm : m.CalmVote kick guid accept) :
    Keeps m (m.UpdateBoot kick guid accept) := by
  unfold UpdateBoot
  dsimp only
  split
  · exact .refl m
  next aGroup =>
    split
    · exact .refl m
    next boot hf =>
      split
      · exact .of_stores rfl (fun _ _ => rfl) (List.Subset.refl _) (.of_eq rfl rfl rfl) (.refl _ _)
      next decided =>
        obtain ⟨free, leaves⟩ := calm boot hf aGroup decided
        have closed := keeps_closeBoot free
        split
        · exact closed.trans (keeps_scripts tame leaves)
        · exact closed

/-! ### What is over -/

def expireGuids (w : World) (m : LFGMgr) : List UInt64 :=
  (m.RoleChecksStore.sorted.filter fun it => it.2.cancelTime ≤ w.now).flatMap
      (fun it => it.1 :: it.2.roles.map Prod.fst) ++
    (m.BootsStore.sorted.filter fun it => it.2.cancelTime < w.now).flatMap
      fun it => it.1 :: it.2.votes.keys

lemma keeps_expireRoleCheck (w : World) {it : UInt64 × LfgRoleCheck}
    (calm : it.2.cancelTime ≤ w.now →
      ∀ g ∈ it.1 :: it.2.roles.map Prod.fst, ¬ m.proposals.Open g) :
    Keeps m (expireRoleCheck w m it) := by
  unfold expireRoleCheck
  split
  · exact .refl m
  next ended =>
    refine .of_stores rfl (fun g isOpen => ?_) (List.Subset.refl _)
      ⟨rfl, fun _ _ _ hf => hf, fun checks => checks.erase it.1 rfl⟩
      ((Stores.Settles.foldl _ (fun stores g _ => Stores.settles_RestoreState _ stores g)
        m.stores).trans (Stores.settles_RestoreState ..))
    have out : g ≠ it.1 ∧ g ∉ it.2.roles.map Prod.fst :=
      not_or.mp fun hm => calm (not_lt.mp ended) g (List.mem_cons.mpr hm) isOpen
    refine (Stores.GetState_RestoreState _ _ _ out.1).trans ?_
    refine m.stores.GetState_foldl g (fun guid => [guid]) ?_ _ ?_
    · exact fun stores guid other => stores.GetState_RestoreState guid g (List.ne_of_not_mem_cons other)
    · exact fun guid hm hs => out.2 (List.mem_singleton.mp hs ▸ hm)

lemma keeps_expireBoot (w : World) {it : UInt64 × LfgPlayerBoot}
    (calm : it.2.cancelTime < w.now → ∀ g ∈ it.1 :: it.2.votes.keys, ¬ m.proposals.Open g) :
    Keeps m (expireBoot w m it) := by
  unfold expireBoot
  split
  next ended => exact keeps_closeBoot (calm ended)
  · exact .refl m

lemma expireProposal_boots (w : World) (it : UInt32 × LfgProposal) (m : LFGMgr) :
    (expireProposal w m it).BootsStore = m.BootsStore := by
  unfold expireProposal closeProposal
  split
  · split
    · rfl
    · exact (sends_sendAll ..).boots
  · rfl

lemma keeps_expire (sound : m.Sound) {w : World}
    (calm : ∀ g ∈ expireGuids w m, ¬ m.proposals.Open g) : Keeps m (m.expire w) := by
  have roleChecks : Keeps m (m.RoleChecksStore.sorted.foldl (expireRoleCheck w) m) := by
    refine Keeps.foldl _ fun m' keeps it inStore => ?_
    refine keeps_expireRoleCheck w fun ended g hm isOpen => ?_
    refine calm g (List.mem_append_left _ (List.mem_flatMap.mpr ⟨it, ?_, hm⟩))
      (keeps.isOpen isOpen)
    exact List.mem_filter.mpr ⟨inStore, decide_eq_true ended⟩
  have sameBoots : (m.RoleChecksStore.sorted.foldl (expireRoleCheck w) m).BootsStore =
      m.BootsStore := by
    refine List.foldlRecOn _ _ (motive := fun m' : LFGMgr => m'.BootsStore = m.BootsStore) rfl ?_
    intro m' hs it _
    rw [← hs]
    unfold expireRoleCheck
    split <;> rfl
  unfold expire
  dsimp only
  generalize m.RoleChecksStore.sorted.foldl (expireRoleCheck w) m = m₁ at roleChecks sameBoots ⊢
  have proposals : Keeps m₁ (m₁.proposals.ProposalsStore.sorted.foldl (expireProposal w) m₁) := by
    refine Keeps.foldl _ fun m' keeps it _ => ?_
    unfold expireProposal
    split
    · exact keeps_closeProposal (keeps.sound (roleChecks.sound sound)) w it.1 .failed
    · exact .refl m'
  have sameBoots' : (m₁.proposals.ProposalsStore.sorted.foldl (expireProposal w) m₁).BootsStore =
      m₁.BootsStore := by
    refine List.foldlRecOn _ _ (motive := fun m' : LFGMgr => m'.BootsStore = m₁.BootsStore) rfl ?_
    exact fun m' hs it _ => (expireProposal_boots w it m').trans hs
  generalize m₁.proposals.ProposalsStore.sorted.foldl (expireProposal w) m₁ = m₂
    at proposals sameBoots' ⊢
  have before := roleChecks.trans proposals
  refine before.trans (Keeps.foldl _ fun m' keeps it inStore => ?_)
  rw [sameBoots', sameBoots] at inStore
  refine keeps_expireBoot w fun ended g hm isOpen => ?_
  refine calm g (List.mem_append_right _ (List.mem_flatMap.mpr ⟨it, ?_, hm⟩))
    ((before.trans keeps).isOpen isOpen)
  exact List.mem_filter.mpr ⟨inStore, decide_eq_true ended⟩

end Frame

end LFGMgr

end WorldServer.DungeonFinding
