import WorldServer.Battlegrounds.BattlegroundQueue
import WorldServer.Lib.Queues

/-!
# Every queued player is found

A group is in one queue of one bracket, on the side of its team, and its players are the queued
players that point to it. A move between queues changes the side of the group together with its
queue, so that the search of `RemovePlayer` comes upon it.
-/
namespace WorldServer.Battlegrounds

open WorldServer.Lib

namespace BattlegroundQueue

def Listed (q : BattlegroundQueue) (g : ℕ) : Prop := ∃ at_, g ∈ q.m_QueuedGroups at_

def Sided (q : BattlegroundQueue) : Prop :=
  ∀ bracketId (index : GroupType) g, g ∈ q.m_QueuedGroups (bracketId, index) →
    (index : ℕ) % 2 = (q.groups g).Team.id

/-- Every queued player points to a group that contains him and no other group does, every group
has a player and is in one queue of its team once. -/
structure Kept (q : BattlegroundQueue) : Prop where
  pointsTo : ∀ guid info, q.m_QueuedPlayers.lookup guid = some info →
    q.Listed info.GroupInfo ∧ guid ∈ (q.groups info.GroupInfo).Players
  contained : ∀ g, q.Listed g → ∀ guid ∈ (q.groups g).Players,
    ∃ info, q.m_QueuedPlayers.lookup guid = some info ∧ info.GroupInfo = g
  nonempty : ∀ g, q.Listed g → (q.groups g).Players ≠ []
  apart : Queues.Apart q.m_QueuedGroups
  sided : q.Sided
  allocated : ∀ g, q.Listed g → g < q.newGroup

variable {q q' : BattlegroundQueue}

/-! ### What leaves players and queues alone -/

/-- Pools and invitations may differ. -/
structure Undisturbed (q q' : BattlegroundQueue) : Prop where
  queued : q'.m_QueuedPlayers = q.m_QueuedPlayers
  lists : q'.m_QueuedGroups = q.m_QueuedGroups
  newGroup : q'.newGroup = q.newGroup
  players : ∀ g, (q'.groups g).Players = (q.groups g).Players
  team : ∀ g, (q'.groups g).Team = (q.groups g).Team

lemma Undisturbed.refl (q : BattlegroundQueue) : Undisturbed q q :=
  ⟨rfl, rfl, rfl, fun _ => rfl, fun _ => rfl⟩

lemma Undisturbed.trans {q₁ q₂ q₃ : BattlegroundQueue} (first : Undisturbed q₁ q₂)
    (second : Undisturbed q₂ q₃) : Undisturbed q₁ q₃ where
  queued := second.queued.trans first.queued
  lists := second.lists.trans first.lists
  newGroup := second.newGroup.trans first.newGroup
  players g := (second.players g).trans (first.players g)
  team g := (second.team g).trans (first.team g)

lemma withPools_undisturbed (q : BattlegroundQueue) (pools : Team → SelectionPool) :
    Undisturbed q { q with m_SelectionPools := pools } :=
  ⟨rfl, rfl, rfl, fun _ => rfl, fun _ => rfl⟩

/-- The groups may go to other queues, but none comes or goes. -/
structure Rearranged (q q' : BattlegroundQueue) : Prop where
  queued : q'.m_QueuedPlayers = q.m_QueuedPlayers
  newGroup : q'.newGroup = q.newGroup
  players : ∀ g, (q'.groups g).Players = (q.groups g).Players
  listed : ∀ g, q'.Listed g ↔ q.Listed g
  apart : Queues.Apart q'.m_QueuedGroups
  sided : q'.Sided

lemma Kept.rearranged (kept : q.Kept) (re : Rearranged q q') : q'.Kept where
  pointsTo := by simpa only [re.queued, re.listed, re.players] using kept.pointsTo
  contained := by simpa only [re.queued, re.listed, re.players] using kept.contained
  nonempty := by simpa only [re.listed, re.players] using kept.nonempty
  apart := re.apart
  sided := re.sided
  allocated := by simpa only [re.listed, re.newGroup] using kept.allocated

lemma Kept.undisturbed (kept : q.Kept) (un : Undisturbed q q') : q'.Kept :=
  kept.rearranged
    { queued := un.queued
      newGroup := un.newGroup
      players := un.players
      listed := fun g => by simp only [Listed, un.lists]
      apart := un.lists ▸ kept.apart
      sided := by simpa only [Sided, un.lists, un.team] using kept.sided }

lemma kept_init : init.Kept where
  pointsTo guid info hf := by simp [init] at hf
  contained g listed := by simp [Listed, init] at listed
  nonempty g listed := by simp [Listed, init] at listed
  apart := ⟨fun _ => List.nodup_nil, fun _ _ _ hm => absurd hm List.not_mem_nil⟩
  sided bracketId index g hm := by simp [init] at hm
  allocated g listed := by simp [Listed, init] at listed

lemma groups_modifyGroup (q : BattlegroundQueue) (g h : ℕ) (f : GroupQueueInfo → GroupQueueInfo) :
    (q.modifyGroup g f).groups h = if h = g then f (q.groups g) else q.groups h := by
  simp [modifyGroup, Function.update_apply]

lemma modifyGroup_undisturbed (q : BattlegroundQueue) (g : ℕ)
    {f : GroupQueueInfo → GroupQueueInfo}
    (players : (f (q.groups g)).Players = (q.groups g).Players)
    (team : (f (q.groups g)).Team = (q.groups g).Team) : Undisturbed q (q.modifyGroup g f) := by
  refine ⟨rfl, rfl, rfl, fun h => ?_, fun h => ?_⟩
  · by_cases here : h = g <;> simp [groups_modifyGroup, here, players]
  · by_cases here : h = g <;> simp [groups_modifyGroup, here, team]

/-! ### The search for a group -/

lemma normal_side (t : Team) : (GroupType.normal t : ℕ) % 2 = t.id := by cases t <;> rfl

lemma premade_side (t : Team) : (GroupType.premade t : ℕ) % 2 = t.id := by cases t <;> rfl

lemma side_iff (index : GroupType) (t : Team) :
    (index : ℕ) % 2 = t.id ↔ index = .premade t ∨ index = .normal t := by
  cases t <;> revert index <;> decide

lemma premade_ne_normal (t u : Team) : GroupType.premade t ≠ .normal u := by
  cases t <;> cases u <;> decide

lemma premade_other (t : Team) : GroupType.premade t ≠ .premade t.other := by
  cases t <;> decide

lemma normal_other (t : Team) : GroupType.normal t ≠ .normal t.other := by
  cases t <;> decide

variable {g mark : ℕ} {bracketId : BattlegroundBracketId} {at_ : BattlegroundBracketId × GroupType}
  {after before : List ℕ} {t : Team} {guid : UInt64} {info : PlayerQueueInfo}

lemma mem_of_findInBracket {index : GroupType} (hf : q.findInBracket g bracketId = some index) :
    g ∈ q.m_QueuedGroups (bracketId, index) := by
  unfold findInBracket at hf
  dsimp only at hf
  split at hf
  next here => exact Option.some.inj hf ▸ here
  · split at hf
    next here => exact Option.some.inj hf ▸ here
    · exact absurd hf (by simp)

lemma mem_of_findGroup (found : q.findGroup g = some at_) : g ∈ q.m_QueuedGroups at_ := by
  obtain ⟨bracketId, -, here⟩ := List.exists_of_findSome?_eq_some found
  obtain ⟨index, inBracket, rfl⟩ := Option.map_eq_some_iff.mp here
  exact mem_of_findInBracket inBracket

lemma findGroup_isSome (sided : q.Sided) (listed : q.Listed g) :
    ∃ at_, q.findGroup g = some at_ := by
  obtain ⟨⟨bracketId, index⟩, hm⟩ := listed
  have inBracket : q.findInBracket g bracketId ≠ none := by
    unfold findInBracket
    dsimp only
    rcases (side_iff index _).mp (sided bracketId index g hm) with here | here
    · rw [here] at hm
      split <;> exact Option.some_ne_none _
    · rw [here] at hm
      rw [if_pos hm]
      exact Option.some_ne_none _
  rw [← Option.isSome_iff_exists, ← Option.ne_none_iff_isSome]
  intro missing
  have passed := List.findSome?_eq_none_iff.mp missing bracketId (by simp)
  exact inBracket (Option.map_eq_none_iff.mp passed)

/-! ### Invitations -/

lemma inviteGroupToBG_undisturbed (sv : Server) (g : ℕ) (bg : Battleground) :
    Undisturbed q (q.inviteGroupToBG sv g bg (q.groups g).Team) := by
  refine modifyGroup_undisturbed q g ?_ ?_
  · split <;> rfl
  · split <;> rfl

lemma invitePools_undisturbed (sv : Server) (bg : Battleground) :
    Undisturbed q (q.invitePools sv bg) := by
  refine List.foldlRecOn _ _ (Undisturbed.refl q) fun q₁ first t _ => ?_
  exact List.foldlRecOn _ _ first fun q₂ second g _ =>
    second.trans (inviteGroupToBG_undisturbed sv g bg)

lemma fillPlayersToBG_undisturbed (sv : Server) (bg : Battleground)
    (bracketId : BattlegroundBracketId) : Undisturbed q (q.fillPlayersToBG sv bg bracketId) := by
  unfold fillPlayersToBG
  split <;> exact withPools_undisturbed q _

lemma fillRunning_undisturbed (sv : Server) (u : QueueUpdate) :
    Undisturbed q (q.fillRunning sv u) := by
  refine List.foldlRecOn _ _ (Undisturbed.refl q) fun q₁ sofar bg _ => ?_
  split
  · have emptied := sofar.trans (withPools_undisturbed q₁ fun _ => .init)
    have filled := emptied.trans (fillPlayersToBG_undisturbed sv bg u.bracketId)
    exact filled.trans (invitePools_undisturbed sv bg)
  · exact sofar

/-! ### Moves -/

/-- The group `g` went over to the front of another queue, maybe with another team. -/
structure Moved (q q' : BattlegroundQueue) (g : ℕ) (k l : BattlegroundBracketId × GroupType) :
    Prop where
  queued : q'.m_QueuedPlayers = q.m_QueuedPlayers
  newGroup : q'.newGroup = q.newGroup
  players : ∀ h, (q'.groups h).Players = (q.groups h).Players
  team : ∀ h, h ≠ g → (q'.groups h).Team = (q.groups h).Team
  lists : q'.m_QueuedGroups = Queues.move q.m_QueuedGroups g k l

lemma Kept.moved (kept : q.Kept) {k l : BattlegroundBracketId × GroupType}
    (moved : Moved q q' g k l) (here : g ∈ q.m_QueuedGroups k) (other : k ≠ l)
    (side : (l.2 : ℕ) % 2 = (q'.groups g).Team.id) : q'.Kept := by
  have hm : ∀ h m, h ∈ q'.m_QueuedGroups m ↔ if h = g then m = l else h ∈ q.m_QueuedGroups m := by
    intro h m
    rw [moved.lists]
    exact kept.apart.mem_move here other
  refine kept.rearranged ⟨moved.queued, moved.newGroup, moved.players, fun h => ?_, ?_, ?_⟩
  · unfold Listed
    simp only [hm]
    by_cases hs : h = g
    · simp only [hs, if_true]
      exact iff_of_true ⟨l, rfl⟩ ⟨k, here⟩
    · simp [hs]
  · rw [moved.lists]
    exact kept.apart.move here other
  · intro bracketId index h inside
    rw [hm] at inside
    by_cases hs : h = g
    · rw [if_pos hs] at inside
      rw [hs, ← side, ← inside]
    · rw [if_neg hs] at inside
      rw [moved.team h hs]
      exact kept.sided bracketId index h inside

lemma Kept.movePremade (kept : q.Kept) (bracketId : BattlegroundBracketId) (timeBefore : UInt32)
    (minPlayersPerTeam : ℕ) (t : Team) :
    (movePremade bracketId timeBefore minPlayersPerTeam q t).Kept := by
  unfold BattlegroundQueue.movePremade
  split
  · exact kept
  next g rest front =>
    dsimp only
    split
    · have here : g ∈ q.m_QueuedGroups (bracketId, .premade t) := by simp [front]
      have apart : ((bracketId, .premade t) : BattlegroundBracketId × GroupType) ≠
          (bracketId, .normal t) := fun hs => premade_ne_normal t t (congrArg Prod.snd hs)
      have moved : Moved q ((q.setGroups (bracketId, .normal t)
          (g :: q.m_QueuedGroups (bracketId, .normal t))).setGroups (bracketId, .premade t) rest)
          g (bracketId, .premade t) (bracketId, .normal t) := by
        refine ⟨rfl, rfl, fun _ => rfl, fun _ _ => rfl, ?_⟩
        simp [setGroups, Queues.move, front]
      refine kept.moved moved here apart ?_
      have side := kept.sided bracketId _ g here
      rw [premade_side] at side
      exact (normal_side t).trans side
    · exact kept

lemma Kept.checkPremadeMatch (kept : q.Kept) (sv : Server) (bracketId : BattlegroundBracketId)
    (minPlayers maxPlayers : ℕ) :
    (q.checkPremadeMatch sv bracketId minPlayers maxPlayers).1.Kept := by
  unfold BattlegroundQueue.checkPremadeMatch
  dsimp only
  split
  · exact kept.undisturbed (withPools_undisturbed q _)
  · exact List.foldlRecOn _ _ kept fun q₁ kept₁ t _ => kept₁.movePremade bracketId _ minPlayers t

lemma checkNormalMatch_undisturbed (sv : Server) (bracketId : BattlegroundBracketId)
    (minPlayers maxPlayers : ℕ) :
    Undisturbed q (q.checkNormalMatch sv bracketId minPlayers maxPlayers).1 := by
  unfold checkNormalMatch
  dsimp only
  split_ifs <;> exact withPools_undisturbed q _

/-! ### The other faction -/

lemma addUninvited_sublist (groups : ℕ → GroupQueueInfo) (desiredCount : ℕ)
    (pool : SelectionPool) (list : List ℕ) :
    ∃ selected, selected.Sublist list ∧
      (pool.addUninvited groups desiredCount list).SelectedGroups =
        pool.SelectedGroups ++ selected := by
  induction list generalizing pool with
  | nil => exact ⟨[], List.Sublist.refl _, (List.append_nil _).symm⟩
  | cons g rest ih =>
    unfold SelectionPool.addUninvited
    split
    · unfold SelectionPool.addGroup
      dsimp only
      split
      next pool' added =>
        split at added
        · obtain rfl := (Prod.mk.inj added).1
          obtain ⟨selected, sub, eq⟩ := ih ⟨pool.SelectedGroups ++ [g],
            pool.PlayerCount + (groups g).Players.length⟩
          exact ⟨g :: selected, sub.cons_cons g, by rw [eq]; simp⟩
        · obtain rfl := (Prod.mk.inj added).1
          obtain ⟨selected, sub, eq⟩ := ih pool
          exact ⟨selected, sub.cons g, eq⟩
      next pool' full =>
        split at full
        · exact absurd (Prod.mk.inj full).2 (by simp)
        · obtain rfl := (Prod.mk.inj full).1
          exact ⟨[], List.nil_sublist _, (List.append_nil _).symm⟩
    · obtain ⟨selected, sub, eq⟩ := ih pool
      exact ⟨selected, sub.cons g, eq⟩

lemma split_at_mark {first : ℕ} {list : List ℕ}
    (stopped : list.dropWhile (· ≠ mark) = first :: after) :
    ∃ before, list = before ++ mark :: after := by
  have here := List.head?_dropWhile_not (· ≠ mark) list
  rw [stopped] at here
  have first_ : first = mark := by simpa using here
  have whole := List.takeWhile_append_dropWhile (p := (· ≠ mark)) (l := list)
  rw [stopped, first_] at whole
  exact ⟨_, whole.symm⟩

lemma eraseAfter_eq (nodup : (before ++ mark :: after).Nodup) (behind : g ∈ after) :
    eraseAfter mark g (before ++ mark :: after) = before ++ mark :: after.erase g ∧
      (before ++ mark :: after).erase g = before ++ mark :: after.erase g := by
  have apart := List.nodup_append.mp nodup
  have notBefore : g ∉ before := fun inside =>
    apart.2.2 g inside g (List.mem_cons_of_mem _ behind) rfl
  have notMark : mark ≠ g := by
    rintro rfl
    exact (List.nodup_cons.mp apart.2.1).1 behind
  constructor
  · induction before with
    | nil => simp [eraseAfter]
    | cons here before ih =>
      have different : here ≠ mark := by
        rintro rfl
        exact apart.2.2 here List.mem_cons_self here List.mem_cons_self rfl
      have rest := ih (List.nodup_cons.mp nodup).2
        (List.nodup_append.mp (List.nodup_cons.mp nodup).2)
        (fun inside => notBefore (List.mem_cons_of_mem _ inside))
      simp [eraseAfter, different, rest]
  · rw [List.erase_append_right _ notBefore, List.erase_cons_tail (by simpa using notMark)]

lemma changeFaction_moved
    (split : q.m_QueuedGroups (bracketId, .normal t) = before ++ mark :: after)
    (nodup : (before ++ mark :: after).Nodup) (behind : g ∈ after) :
    Moved q (changeFaction bracketId t mark q g) g (bracketId, .normal t)
      (bracketId, .normal t.other) := by
  have apart : ((bracketId, .normal t) : BattlegroundBracketId × GroupType) ≠
      (bracketId, .normal t.other) := fun hs => normal_other t (congrArg Prod.snd hs)
  have erased := eraseAfter_eq nodup behind
  unfold changeFaction
  refine ⟨rfl, rfl, fun h => ?_, fun h other => ?_, ?_⟩
  · by_cases here : h = g <;> simp [setGroups, groups_modifyGroup, here]
  · simp [setGroups, groups_modifyGroup, other]
  · simp only [setGroups, modifyGroup, Queues.move, Function.update_of_ne apart, split]
    rw [erased.1, erased.2]

lemma Kept.changeFactions (kept : q.Kept) {selected : List ℕ}
    (split : q.m_QueuedGroups (bracketId, .normal t) = before ++ mark :: after)
    (behind : ∀ g ∈ selected, g ∈ after) (distinct : selected.Nodup) :
    (selected.foldl (changeFaction bracketId t mark) q).Kept := by
  induction selected generalizing q after with
  | nil => exact kept
  | cons g rest ih =>
    have apart : ((bracketId, .normal t) : BattlegroundBracketId × GroupType) ≠
        (bracketId, .normal t.other) := fun hs => normal_other t (congrArg Prod.snd hs)
    have nodup : (before ++ mark :: after).Nodup := split ▸ kept.apart.nodup (bracketId, .normal t)
    have inside : g ∈ after := behind g List.mem_cons_self
    have moved := changeFaction_moved split nodup inside
    have here : g ∈ q.m_QueuedGroups (bracketId, .normal t) := by simp [split, inside]
    have side : (GroupType.normal t.other : ℕ) % 2 =
        ((changeFaction bracketId t mark q g).groups g).Team.id := by
      rw [normal_side]
      simp [changeFaction, setGroups, groups_modifyGroup]
    have lists : (changeFaction bracketId t mark q g).m_QueuedGroups (bracketId, .normal t) =
        before ++ mark :: after.erase g := by
      rw [moved.lists, Queues.move, Function.update_self, split]
      exact (eraseAfter_eq nodup inside).2
    refine ih (kept.moved moved here apart side) lists ?_ (List.nodup_cons.mp distinct).2
    intro h hm
    refine (List.mem_erase_of_ne ?_).mpr (behind h (List.mem_cons_of_mem _ hm))
    rintro rfl
    exact (List.nodup_cons.mp distinct).1 hm

lemma Kept.checkSkirmishForSameFaction (kept : q.Kept) (sv : Server)
    (bracketId : BattlegroundBracketId) (minPlayersPerTeam : ℕ) :
    (q.checkSkirmishForSameFaction sv bracketId minPlayersPerTeam).1.Kept := by
  have pooled : ∀ pools, Kept { q with m_SelectionPools := pools } := fun pools =>
    kept.undisturbed (withPools_undisturbed q pools)
  unfold BattlegroundQueue.checkSkirmishForSameFaction
  dsimp only
  split
  · exact kept
  · generalize (if (q.m_SelectionPools Team.horde).PlayerCount = minPlayersPerTeam then Team.horde
      else Team.alliance) = t
    split
    · exact pooled _
    next first after list =>
      split
      · exact pooled _
      · generalize (((q.setPool t.other SelectionPool.init).m_SelectionPools t
          ).SelectedGroups.getLast?).getD sv.stale = mark at list ⊢
        -- the mark stands where the search stopped, and everyone selected comes after it
        obtain ⟨before, split⟩ := split_at_mark list
        obtain ⟨selected, sub, eq⟩ := addUninvited_sublist q.groups minPlayersPerTeam .init after
        have nodup : after.Nodup := by
          have whole := kept.apart.nodup (bracketId, .normal t)
          rw [show q.m_QueuedGroups (bracketId, .normal t) = before ++ mark :: after from split]
            at whole
          exact (List.nodup_cons.mp (List.nodup_append.mp whole).2.1).2
        have behind : ∀ g ∈ (SelectionPool.init.addUninvited q.groups minPlayersPerTeam after
            ).SelectedGroups, g ∈ after := by
          rw [eq]
          exact fun g hm => sub.subset hm
        have distinct : (SelectionPool.init.addUninvited q.groups minPlayersPerTeam after
            ).SelectedGroups.Nodup := by
          rw [eq]
          exact nodup.sublist sub
        exact Kept.changeFactions (pooled _) split behind distinct

/-! ### Rated games -/

lemma findTeams_listed (kept : q.Kept) {sv : Server} {u : QueueUpdate} {arenaRating : UInt32}
    {h : ℕ} (hf : q.findTeams sv u arenaRating = some (g, h)) :
    (∃ t, g ∈ q.m_QueuedGroups (u.bracketId, .premade t)) ∧
      (∃ t, h ∈ q.m_QueuedGroups (u.bracketId, .premade t)) ∧ g ≠ h := by
  have sameList : ∀ t g', (q.m_QueuedGroups (u.bracketId, .premade t)).find? (q.suits sv arenaRating)
        = some g' →
      ((((q.m_QueuedGroups (u.bracketId, .premade t)).dropWhile (· ≠ g')).find? fun h =>
        q.suits sv arenaRating h && (q.groups g').ArenaTeamId != (q.groups h).ArenaTeamId).map
          fun h => (g', h)) = some (g, h) →
      g ∈ q.m_QueuedGroups (u.bracketId, .premade t) ∧
        h ∈ q.m_QueuedGroups (u.bracketId, .premade t) ∧ g ≠ h := by
    intro t g' first second
    obtain ⟨h', here, pair⟩ := Option.map_eq_some_iff.mp second
    obtain ⟨rfl, rfl⟩ := Prod.mk.inj pair
    have hm := List.mem_of_find?_eq_some here
    have differs := List.find?_some here
    refine ⟨List.mem_of_find?_eq_some first, (List.dropWhile_suffix _).subset hm, ?_⟩
    rintro rfl
    simp at differs
  unfold findTeams at hf
  dsimp only at hf
  split at hf
  next first second =>
    obtain ⟨rfl, rfl⟩ := Prod.mk.inj (Option.some.inj hf)
    have here := List.mem_of_find?_eq_some first
    have there := List.mem_of_find?_eq_some second
    refine ⟨⟨_, here⟩, ⟨_, there⟩, ?_⟩
    rintro rfl
    have hs := kept.apart.once _ _ _ here there
    exact premade_other .alliance (congrArg Prod.snd hs)
  next first _ =>
    obtain ⟨here, there, different⟩ := sameList .alliance _ first hf
    exact ⟨⟨_, here⟩, ⟨_, there⟩, different⟩
  next _ first =>
    obtain ⟨here, there, different⟩ := sameList .horde _ first hf
    exact ⟨⟨_, here⟩, ⟨_, there⟩, different⟩
  · exact absurd hf (by simp)

/-- After `moveTeam` the group is in the premade queue of the team asked for, and nobody else has
moved. -/
lemma moveTeam_lists (apart : Queues.Apart q.m_QueuedGroups)
    (here : g ∈ q.m_QueuedGroups (bracketId, .premade (q.groups g).Team)) (t : Team) :
    Queues.Apart (q.moveTeam bracketId g t).m_QueuedGroups ∧
      ∀ h m, h ∈ (q.moveTeam bracketId g t).m_QueuedGroups m ↔
        if h = g then m = (bracketId, .premade t) else h ∈ q.m_QueuedGroups m := by
  by_cases hs : (q.groups g).Team = t
  · have stays : q.moveTeam bracketId g t = q := by simp [moveTeam, hs]
    rw [stays]
    refine ⟨apart, fun h m => ?_⟩
    by_cases self : h = g
    · rw [hs] at here
      rw [if_pos self, self]
      exact ⟨fun inside => apart.once m _ g inside here, fun at_ => at_ ▸ here⟩
    · rw [if_neg self]
  · have other : (q.groups g).Team = t.other := by
      cases team : (q.groups g).Team <;> cases t <;> simp_all [Team.other]
    have differ : ((bracketId, .premade t.other) : BattlegroundBracketId × GroupType) ≠
        (bracketId, .premade t) := fun eq => premade_other t (congrArg Prod.snd eq).symm
    have lists : (q.moveTeam bracketId g t).m_QueuedGroups =
        Queues.move q.m_QueuedGroups g (bracketId, .premade t.other) (bracketId, .premade t) := by
      unfold moveTeam
      rw [if_pos hs]
      simp only [setGroups, Queues.move, Function.update_of_ne differ]
    rw [other] at here
    rw [lists]
    exact ⟨apart.move here differ, fun h m => apart.mem_move here differ⟩

lemma moveTeam_rest (bracketId : BattlegroundBracketId) (g : ℕ) (t : Team) :
    (q.moveTeam bracketId g t).m_QueuedPlayers = q.m_QueuedPlayers ∧
      (q.moveTeam bracketId g t).newGroup = q.newGroup ∧
      (q.moveTeam bracketId g t).groups = q.groups := by
  unfold moveTeam
  split <;> exact ⟨rfl, rfl, rfl⟩

lemma inviteGroupToBG_groups (sv : Server) (g h : ℕ) (bg : Battleground) (side : Team) :
    ((q.inviteGroupToBG sv g bg side).groups h).Players = (q.groups h).Players ∧
      ((q.inviteGroupToBG sv g bg side).groups h).Team =
        if h = g then side else (q.groups h).Team := by
  unfold inviteGroupToBG
  rw [groups_modifyGroup]
  by_cases here : h = g
  · subst here
    simp only [if_true]
    split <;> exact ⟨rfl, rfl⟩
  · simp [here]

lemma setOpponents_undisturbed (q : BattlegroundQueue) (g h : ℕ) :
    Undisturbed q (q.setOpponents g h) := by
  unfold setOpponents
  exact (modifyGroup_undisturbed q g rfl rfl).trans (modifyGroup_undisturbed _ h rfl rfl)

lemma Kept.putOnSides (kept : q.Kept) {h : ℕ} {u : Team}
    (here : g ∈ q.m_QueuedGroups (bracketId, .premade t))
    (there : h ∈ q.m_QueuedGroups (bracketId, .premade u)) (differ : g ≠ h) (sv : Server)
    (arena : Battleground) :
    ((((q.moveTeam bracketId g .alliance).moveTeam bracketId h .horde).inviteGroupToBG sv g arena
      .alliance).inviteGroupToBG sv h arena .horde).Kept := by
  have onSide : ∀ {x v}, x ∈ q.m_QueuedGroups (bracketId, .premade v) →
      x ∈ q.m_QueuedGroups (bracketId, .premade (q.groups x).Team) := by
    intro x v inside
    have side := kept.sided bracketId _ x inside
    rw [premade_side] at side
    have team : v = (q.groups x).Team := by
      cases v <;> cases hs : (q.groups x).Team <;> simp_all [Team.id]
    exact team ▸ inside
  obtain ⟨apart₁, lists₁⟩ := moveTeam_lists kept.apart (onSide here) .alliance
  obtain ⟨queued₁, newGroup₁, groups₁⟩ := moveTeam_rest (q := q) bracketId g .alliance
  generalize q.moveTeam bracketId g .alliance = q₁ at apart₁ lists₁ queued₁ newGroup₁ groups₁ ⊢
  have there₁ : h ∈ q₁.m_QueuedGroups (bracketId, .premade (q₁.groups h).Team) := by
    rw [lists₁, if_neg differ.symm, groups₁]
    exact onSide there
  obtain ⟨apart₂, lists₂⟩ := moveTeam_lists apart₁ there₁ .horde
  obtain ⟨queued₂, newGroup₂, groups₂⟩ := moveTeam_rest (q := q₁) bracketId h .horde
  generalize q₁.moveTeam bracketId h .horde = q₂ at apart₂ lists₂ queued₂ newGroup₂ groups₂ ⊢
  have hm : ∀ x m, x ∈ q₂.m_QueuedGroups m ↔
      if x = h then m = (bracketId, .premade .horde)
      else if x = g then m = (bracketId, .premade .alliance) else x ∈ q.m_QueuedGroups m := by
    intro x m
    rw [lists₂, lists₁]
  refine kept.rearranged ⟨queued₂.trans queued₁, newGroup₂.trans newGroup₁, fun x => ?_,
    fun x => ?_, apart₂, fun b index x inside => ?_⟩
  · rw [(inviteGroupToBG_groups sv h x arena .horde).1,
      (inviteGroupToBG_groups sv g x arena .alliance).1, groups₂, groups₁]
  · change (∃ m, x ∈ q₂.m_QueuedGroups m) ↔ _
    simp only [hm]
    by_cases isH : x = h
    · simp only [isH, if_true]
      exact iff_of_true ⟨_, rfl⟩ ⟨_, there⟩
    · by_cases isG : x = g
      · simp only [isG, differ, if_false, if_true]
        exact iff_of_true ⟨_, rfl⟩ ⟨_, here⟩
      · simp [isH, isG, Listed]
  · change x ∈ q₂.m_QueuedGroups (b, index) at inside
    rw [hm] at inside
    rw [(inviteGroupToBG_groups sv h x arena .horde).2,
      (inviteGroupToBG_groups sv g x arena .alliance).2, groups₂, groups₁]
    by_cases isH : x = h
    · rw [if_pos isH] at inside ⊢
      rw [(Prod.mk.inj inside).2]
      rfl
    · rw [if_neg isH] at inside ⊢
      by_cases isG : x = g
      · rw [if_pos isG] at inside ⊢
        rw [(Prod.mk.inj inside).2]
        rfl
      · rw [if_neg isG] at inside ⊢
        exact kept.sided b index x inside

section

variable (kept : q.Kept) (sv : Server) (u : QueueUpdate)
include kept

lemma Kept.startRated : (q.startRated sv u).Kept := by
  unfold BattlegroundQueue.startRated
  split
  · exact kept
  next arenaRating _ =>
    split
    next aTeam hTeam arena teams _ =>
      obtain ⟨⟨t, here⟩, ⟨v, there⟩, differ⟩ := findTeams_listed kept teams
      have opposed := setOpponents_undisturbed q aTeam hTeam
      exact (kept.undisturbed opposed).putOnSides (opposed.lists ▸ here) (opposed.lists ▸ there)
        differ sv arena
    · exact kept

/-! ### Updates -/

lemma Kept.startPremade (minPlayers maxPlayers : ℕ) :
    (q.startPremade sv u minPlayers maxPlayers).1.Kept := by
  have checked := kept.checkPremadeMatch sv u.bracketId minPlayers maxPlayers
  unfold BattlegroundQueue.startPremade
  split
  next q₁ hf =>
    rw [hf] at checked
    split
    · exact (checked.undisturbed (invitePools_undisturbed sv _)).undisturbed
        (withPools_undisturbed _ _)
    · exact checked
  next q₁ hf =>
    rw [hf] at checked
    exact checked

lemma Kept.checkNormalMatch (isArena : Bool) (minPlayers maxPlayers : ℕ) :
    (match q.checkNormalMatch sv u.bracketId minPlayers maxPlayers with
      | (q, true) => (q, true)
      | (q, false) =>
        if isArena then q.checkSkirmishForSameFaction sv u.bracketId minPlayers
        else (q, false)).1.Kept := by
  have checked := kept.undisturbed
    (checkNormalMatch_undisturbed sv u.bracketId minPlayers maxPlayers)
  split
  next q₁ normal =>
    rw [normal] at checked
    exact checked
  next q₁ normal =>
    have kept₁ : q₁.Kept := by
      rw [normal] at checked
      exact checked
    split
    · exact kept₁.checkSkirmishForSameFaction sv u.bracketId minPlayers
    · exact kept₁

lemma Kept.startNormal (isArena : Bool) (minPlayers maxPlayers : ℕ) :
    (q.startNormal sv u isArena minPlayers maxPlayers).Kept := by
  have hf := kept.checkNormalMatch sv u isArena minPlayers maxPlayers
  unfold BattlegroundQueue.startNormal
  dsimp only
  split
  · exact hf.undisturbed (invitePools_undisturbed sv _)
  · exact hf

lemma Kept.startNew (template : BattlegroundTemplate) : (q.startNew sv u template).Kept := by
  have emptied : q.initPools.Kept := kept.undisturbed (withPools_undisturbed q _)
  have premade := fun minPlayers maxPlayers => emptied.startPremade sv u minPlayers maxPlayers
  unfold BattlegroundQueue.startNew
  dsimp only
  split
  · simp only [Bool.not_true, Bool.false_eq_true, if_false]
    split
    · exact emptied.startNormal sv u _ _ _
    · exact emptied.startRated sv u
  · generalize (if sv.isTesting = true then 1 else template.minPlayersPerTeam) = minPlayers
    split
    · exact premade _ _
    · split
      · exact (premade _ _).startNormal sv u _ _ _
      · exact premade _ _

lemma Kept.battlegroundQueueUpdate : (q.battlegroundQueueUpdate sv u).Kept := by
  have filled := kept.undisturbed (fillRunning_undisturbed sv u)
  unfold BattlegroundQueue.battlegroundQueueUpdate
  split
  · exact kept
  · split
    next template _ =>
      split
      · exact filled.startNew sv u template
      · exact filled
    · exact filled

end

/-! ### Joins -/

structure Joined (q q' : BattlegroundQueue) (g : ℕ) (players : List UInt64) (t : UInt32) : Prop where
  queued : ∀ guid info, q'.m_QueuedPlayers.lookup guid = some info ↔
    if guid ∈ players then info = ⟨t, g⟩ else q.m_QueuedPlayers.lookup guid = some info
  members : ∀ guid, guid ∈ (q'.groups g).Players ↔ guid ∈ players ∨ guid ∈ (q.groups g).Players
  team : (q'.groups g).Team = (q.groups g).Team
  other : ∀ h, h ≠ g → q'.groups h = q.groups h
  lists : q'.m_QueuedGroups = q.m_QueuedGroups
  newGroup : q'.newGroup = q.newGroup

lemma joined_addPlayer (q : BattlegroundQueue) (g : ℕ) (t : UInt32) (guid : UInt64) :
    Joined q (addPlayer g t q guid) g [guid] t := by
  unfold addPlayer
  refine ⟨fun guid' info => ?_, fun guid' => ?_, ?_, fun h other => ?_, rfl, rfl⟩
  · change (q.m_QueuedPlayers.insert guid ⟨t, g⟩).lookup guid' = some info ↔ _
    rw [Table.lookup_insert_iff]
    by_cases hs : guid' = guid <;> simp [hs]
  · rw [groups_modifyGroup, if_pos rfl]
    by_cases inside : guid ∈ (q.groups g).Players
    · simp only [inside, if_true, List.mem_singleton]
      exact (or_iff_right_of_imp fun hs => hs ▸ inside).symm
    · simp [inside, List.mem_orderedInsert]
  · rw [groups_modifyGroup, if_pos rfl]
  · rw [groups_modifyGroup, if_neg other]

lemma joined_addPlayers (q : BattlegroundQueue) (g : ℕ) (t : UInt32) (players : List UInt64) :
    Joined q (players.foldl (addPlayer g t) q) g players t := by
  induction players generalizing q with
  | nil => exact ⟨fun _ _ => by simp, fun _ => by simp, rfl, fun _ _ => rfl, rfl, rfl⟩
  | cons guid rest ih =>
    have first := joined_addPlayer q g t guid
    have then_ := ih (addPlayer g t q guid)
    refine ⟨fun guid' info => ?_, fun guid' => ?_, then_.team.trans first.team,
      fun h other => (then_.other h other).trans (first.other h other),
      then_.lists.trans first.lists, then_.newGroup.trans first.newGroup⟩
    · rw [List.foldl_cons, then_.queued, first.queued]
      by_cases inRest : guid' ∈ rest <;> by_cases hs : guid' = guid <;> simp [inRest, hs]
    · rw [List.foldl_cons, then_.members, first.members, List.mem_singleton, List.mem_cons]
      tauto

lemma Join.index_side (j : Join) : (j.index : ℕ) % 2 = j.team.id := by
  unfold Join.index
  split
  · exact normal_side j.team
  · exact premade_side j.team

lemma Kept.addGroup (kept : q.Kept) (j : Join) (allowed : j.Allowed q) : (q.addGroup j).Kept := by
  obtain ⟨leads, unqueued⟩ := allowed
  -- the group is new
  have fresh : ∀ h, q.Listed h → h ≠ q.newGroup := fun h listed => (kept.allocated h listed).ne
  unfold BattlegroundQueue.addGroup
  dsimp only
  generalize made : BattlegroundQueue.mk q.m_QueuedPlayers q.m_QueuedGroups q.m_SelectionPools
    (Function.update q.groups q.newGroup _) (q.newGroup + 1) = q₁
  have joined := joined_addPlayers q₁ q.newGroup j.now j.players
  generalize j.players.foldl (addPlayer q.newGroup j.now) q₁ = q₂ at joined ⊢
  have team : (q₂.groups q.newGroup).Team = j.team := by
    rw [joined.team, ← made]
    simp
  have members : ∀ guid, guid ∈ (q₂.groups q.newGroup).Players ↔ guid ∈ j.players := by
    intro guid
    rw [joined.members, ← made]
    simp
  have other : ∀ h, h ≠ q.newGroup → q₂.groups h = q.groups h := by
    intro h differ
    rw [joined.other h differ, ← made]
    simp [differ]
  have queued : ∀ guid info, q₂.m_QueuedPlayers.lookup guid = some info ↔
      if guid ∈ j.players then info = ⟨j.now, q.newGroup⟩
      else q.m_QueuedPlayers.lookup guid = some info := by
    intro guid info
    rw [joined.queued, ← made]
  have lists : q₂.m_QueuedGroups = q.m_QueuedGroups := by rw [joined.lists, ← made]
  have newGroup : q₂.newGroup = q.newGroup + 1 := by rw [joined.newGroup, ← made]
  have new : ∀ m, q.newGroup ∉ q.m_QueuedGroups m := fun m hm => fresh _ ⟨m, hm⟩ rfl
  have listed : ∀ h, (q₂.setGroups (j.bracketId, j.index)
      (q₂.m_QueuedGroups (j.bracketId, j.index) ++ [q.newGroup])).Listed h ↔
        q.Listed h ∨ h = q.newGroup := by
    intro h
    unfold Listed setGroups
    simp only [lists, Queues.mem_append, exists_or, exists_and_left, exists_eq, and_true]
  constructor
  · intro guid info hf
    by_cases inside : guid ∈ j.players
    · obtain rfl : info = ⟨j.now, q.newGroup⟩ := by simpa [inside] using (queued guid info).mp hf
      exact ⟨(listed _).mpr (Or.inr rfl), (members guid).mpr inside⟩
    · have before := (queued guid info).mp hf
      rw [if_neg inside] at before
      obtain ⟨old, hm⟩ := kept.pointsTo guid info before
      refine ⟨(listed _).mpr (Or.inl old), ?_⟩
      change guid ∈ (q₂.groups info.GroupInfo).Players
      rwa [other _ (fresh _ old)]
  · intro h here guid hm
    change guid ∈ (q₂.groups h).Players at hm
    rcases (listed h).mp here with old | rfl
    · rw [other h (fresh h old)] at hm
      obtain ⟨info, hf, points⟩ := kept.contained h old guid hm
      refine ⟨info, (queued guid info).mpr ?_, points⟩
      rw [if_neg]
      · exact hf
      · intro inside
        simp [unqueued guid inside] at hf
    · have inside := (members guid).mp hm
      exact ⟨⟨j.now, q.newGroup⟩, (queued guid _).mpr (by rw [if_pos inside]), rfl⟩
  · intro h here
    change (q₂.groups h).Players ≠ []
    rcases (listed h).mp here with old | rfl
    · rw [other h (fresh h old)]
      exact kept.nonempty h old
    · exact List.ne_nil_of_mem ((members j.leader).mpr leads)
  · unfold setGroups
    simp only [lists]
    exact kept.apart.append new
  · intro bracketId index h hm
    change (index : ℕ) % 2 = (q₂.groups h).Team.id
    unfold setGroups at hm
    simp only [lists, Queues.mem_append] at hm
    rcases hm with old | ⟨rfl, at_⟩
    · rw [other h (fresh h ⟨_, old⟩)]
      exact kept.sided bracketId index h old
    · rw [team, (Prod.mk.inj at_).2]
      exact j.index_side
  · intro h here
    change h < q₂.newGroup
    rw [newGroup]
    rcases (listed h).mp here with old | rfl
    · exact (kept.allocated h old).trans (Nat.lt_succ_self _)
    · exact Nat.lt_succ_self _

/-! ### Leaving -/

section

variable (q guid g)

lemma groups_removeFrom (at_ : BattlegroundBracketId × GroupType) :
    (q.removeFrom guid g at_).groups = (q.modifyGroup g fun ginfo =>
      { ginfo with Players := ginfo.Players.filter (· ≠ guid) }).groups := by
  unfold removeFrom
  dsimp only
  split <;> rfl

lemma players_removeFrom (h : ℕ) (at_ : BattlegroundBracketId × GroupType) :
    ((q.removeFrom guid g at_).groups h).Players =
      if h = g then (q.groups h).Players.filter (· ≠ guid) else (q.groups h).Players := by
  rw [groups_removeFrom, groups_modifyGroup]
  by_cases here : h = g <;> simp [here]

lemma team_removeFrom (h : ℕ) (at_ : BattlegroundBracketId × GroupType) :
    ((q.removeFrom guid g at_).groups h).Team = (q.groups h).Team := by
  rw [groups_removeFrom, groups_modifyGroup]
  by_cases here : h = g <;> simp [here]

lemma lists_removeFrom (at_ : BattlegroundBracketId × GroupType) :
    (q.removeFrom guid g at_).m_QueuedGroups =
      if (q.groups g).Players.filter (· ≠ guid) = [] then
        Function.update q.m_QueuedGroups at_ ((q.m_QueuedGroups at_).erase g)
      else q.m_QueuedGroups := by
  unfold removeFrom
  dsimp only
  rw [groups_modifyGroup, if_pos rfl]
  by_cases empty : (q.groups g).Players.filter (· ≠ guid) = []
  · rw [if_pos (by rw [empty]; rfl), if_pos empty]
    rfl
  · rw [if_neg (by rwa [List.isEmpty_iff]), if_neg empty]
    rfl

end

lemma Kept.removeFrom (kept : q.Kept) (queued : q.m_QueuedPlayers.lookup guid = some info)
    (here : info.GroupInfo ∈ q.m_QueuedGroups at_) :
    (q.removeFrom guid info.GroupInfo at_).Kept := by
  have lookup : ∀ guid' info', (q.removeFrom guid info.GroupInfo at_).m_QueuedPlayers.lookup guid' =
      some info' ↔ guid' ≠ guid ∧ q.m_QueuedPlayers.lookup guid' = some info' := by
    intro guid' info'
    rw [m_QueuedPlayers_removeFrom]
    exact Table.lookup_erase_iff _ _ _ _
  have stays : ∀ h m, h ∈ (q.removeFrom guid info.GroupInfo at_).m_QueuedGroups m ↔
      h ∈ q.m_QueuedGroups m ∧
        (h = info.GroupInfo → (q.groups h).Players.filter (· ≠ guid) ≠ []) := by
    intro h m
    rw [lists_removeFrom]
    by_cases empty : (q.groups info.GroupInfo).Players.filter (· ≠ guid) = []
    · rw [if_pos empty, kept.apart.mem_erase here]
      refine and_congr_right fun _ => ⟨fun other hs => absurd hs other, fun filled hs => ?_⟩
      exact filled hs (hs ▸ empty)
    · rw [if_neg empty]
      exact (and_iff_left fun hs => hs ▸ empty).symm
  have listed : ∀ h, (q.removeFrom guid info.GroupInfo at_).Listed h ↔
      q.Listed h ∧ (h = info.GroupInfo → (q.groups h).Players.filter (· ≠ guid) ≠ []) := by
    intro h
    unfold Listed
    simp [stays]
  constructor
  · intro guid' info' hf
    obtain ⟨other, before⟩ := (lookup guid' info').mp hf
    obtain ⟨old, hm⟩ := kept.pointsTo guid' info' before
    have remains : guid' ∈ (q.groups info'.GroupInfo).Players.filter (· ≠ guid) := by
      simp [hm, other]
    refine ⟨(listed _).mpr ⟨old, fun _ => List.ne_nil_of_mem remains⟩, ?_⟩
    rw [players_removeFrom]
    split
    · exact remains
    · exact hm
  · intro h inside guid' hm
    obtain ⟨old, -⟩ := (listed h).mp inside
    have before : guid' ∈ (q.groups h).Players := by
      rw [players_removeFrom] at hm
      split at hm
      · exact List.mem_of_mem_filter hm
      · exact hm
    obtain ⟨info', hf, points⟩ := kept.contained h old guid' before
    refine ⟨info', (lookup guid' info').mpr ⟨?_, hf⟩, points⟩
    -- the player who leaves points to the group he leaves, and is out of it
    rintro rfl
    obtain rfl : info = info' := Option.some.inj (queued.symm.trans hf)
    rw [players_removeFrom, if_pos points.symm] at hm
    simp at hm
  · intro h inside
    obtain ⟨old, filled⟩ := (listed h).mp inside
    rw [players_removeFrom]
    split
    next hs => exact filled hs
    · exact kept.nonempty h old
  · rw [lists_removeFrom]
    split
    · exact kept.apart.erase here
    · exact kept.apart
  · intro bracketId index h hm
    rw [team_removeFrom]
    exact kept.sided bracketId index h ((stays h _).mp hm).1
  · intro h inside
    have hs : (q.removeFrom guid info.GroupInfo at_).newGroup = q.newGroup := by
      unfold BattlegroundQueue.removeFrom
      dsimp only
      split <;> rfl
    rw [hs]
    exact kept.allocated h ((listed h).mp inside).1

lemma removePlayer_none (absent : q.m_QueuedPlayers.lookup guid = none) :
    q.removePlayer guid = q := by
  rw [removePlayer]
  split
  · rfl
  next info hf => simp [absent] at hf

lemma removePlayer_some (hf : q.m_QueuedPlayers.lookup guid = some info) :
    q.removePlayer guid =
      match q.findGroup info.GroupInfo with
      | none => q
      | some at_ =>
        match (q.removeFrom guid info.GroupInfo at_).nextToRemove info.GroupInfo with
        | none => q.removeFrom guid info.GroupInfo at_
        | some next => (q.removeFrom guid info.GroupInfo at_).removePlayer next := by
  rw [removePlayer]
  split
  next absent => simp [absent] at hf
  next info' hf' =>
    obtain rfl : info' = info := Option.some.inj (hf'.symm.trans hf)
    rfl

lemma Kept.removePlayer (kept : q.Kept) (guid : UInt64) : (q.removePlayer guid).Kept := by
  induction q, guid using removePlayer.induct with
  | case1 q guid absent => rwa [removePlayer_none absent]
  | case2 q guid info found missing =>
    rw [removePlayer_some found, missing]
    exact kept
  | case3 q guid info found at_ here last =>
    rw [removePlayer_some found, here]
    simp only [last]
    exact kept.removeFrom found (mem_of_findGroup here)
  | case4 q guid info found at_ here next goes ih =>
    rw [removePlayer_some found, here]
    simp only [goes]
    exact ih (kept.removeFrom found (mem_of_findGroup here))

lemma lookup_removePlayer (q : BattlegroundQueue) (guid guid' : UInt64)
    (absent : q.m_QueuedPlayers.lookup guid' = none) :
    (q.removePlayer guid).m_QueuedPlayers.lookup guid' = none := by
  have erased : ∀ (q : BattlegroundQueue) guid g at_, q.m_QueuedPlayers.lookup guid' = none →
      (q.removeFrom guid g at_).m_QueuedPlayers.lookup guid' = none := by
    intro q guid g at_ absent
    rw [m_QueuedPlayers_removeFrom, Option.eq_none_iff_forall_ne_some]
    intro info found
    have before := ((Table.lookup_erase_iff _ _ _ _).mp found).2
    simp [absent] at before
  induction q, guid using removePlayer.induct with
  | case1 q guid missing => rwa [removePlayer_none missing]
  | case2 q guid info found missing =>
    rw [removePlayer_some found, missing]
    exact absent
  | case3 q guid info found at_ here last =>
    rw [removePlayer_some found, here]
    simp only [last]
    exact erased q guid _ at_ absent
  | case4 q guid info found at_ here next goes ih =>
    rw [removePlayer_some found, here]
    simp only [goes]
    exact ih (erased q guid _ at_ absent)

lemma removed_of_found (found : q.m_QueuedPlayers.lookup guid = some info)
    (here : q.findGroup info.GroupInfo = some at_) :
    (q.removePlayer guid).m_QueuedPlayers.lookup guid = none := by
  have left_ : (q.removeFrom guid info.GroupInfo at_).m_QueuedPlayers.lookup guid = none := by
    rw [m_QueuedPlayers_removeFrom]
    exact AList.lookup_erase _ _
  rw [removePlayer_some found, here]
  dsimp only
  split
  · exact left_
  · exact lookup_removePlayer _ _ _ left_

lemma Kept.step (kept : q.Kept) (r : Request) : (q.step r).Kept := by
  cases r with
  | addGroup j =>
    unfold BattlegroundQueue.step
    dsimp only
    split
    next allowed => exact kept.addGroup j allowed
    · exact kept
  | removePlayer guid => exact kept.removePlayer guid
  | removeEvent playerGuid bgInstanceGUID removeTime =>
    unfold BattlegroundQueue.step removeEvent
    dsimp only
    split
    · split
      · exact kept.removePlayer playerGuid
      · exact kept
    · exact kept
  | update sv u => exact kept.battlegroundQueueUpdate sv u

/-- `RemovePlayer` finds the group of every queued player and takes the player out of the queue; a
group that was there stays exactly as long as somebody points to it. -/
def RemovesPlayers (q : BattlegroundQueue) : Prop :=
  ∀ guid info, q.m_QueuedPlayers.lookup guid = some info →
    (∃ at_, q.findGroup info.GroupInfo = some at_ ∧ info.GroupInfo ∈ q.m_QueuedGroups at_) ∧
      (q.removePlayer guid).m_QueuedPlayers.lookup guid = none ∧
      ∀ g, (q.removePlayer guid).Listed g ↔
        ∃ other info', (q.removePlayer guid).m_QueuedPlayers.lookup other = some info' ∧
          info'.GroupInfo = g

lemma Kept.listed_iff (kept : q.Kept) (g : ℕ) :
    q.Listed g ↔ ∃ guid info, q.m_QueuedPlayers.lookup guid = some info ∧ info.GroupInfo = g := by
  constructor
  · intro listed
    obtain ⟨guid, hm⟩ := List.exists_mem_of_ne_nil _ (kept.nonempty g listed)
    obtain ⟨info, hf, points⟩ := kept.contained g listed guid hm
    exact ⟨guid, info, hf, points⟩
  · rintro ⟨guid, info, hf, rfl⟩
    exact (kept.pointsTo guid info hf).1

lemma Kept.removesPlayers (kept : q.Kept) : q.RemovesPlayers := by
  intro guid info hf
  obtain ⟨at_, here⟩ := findGroup_isSome kept.sided (kept.pointsTo guid info hf).1
  refine ⟨⟨at_, here, mem_of_findGroup here⟩, removed_of_found hf here, fun g => ?_⟩
  exact (kept.removePlayer guid).listed_iff g

/-- Whatever joins, leaves, updates, invitations and timeouts come in whatever order: every queued
player points to exactly one group, which contains him, every group has a player and is in one
queue of its team, and `RemovePlayer` finds the groups and removes them with their last player. -/
theorem membership_kept (requests : List Request) :
    (run step init requests).Kept ∧ (run step init requests).RemovesPlayers := by
  have kept := run_keeps Kept (fun _ r kept => kept.step r) kept_init requests
  exact ⟨kept, kept.removesPlayers⟩

end BattlegroundQueue

end WorldServer.Battlegrounds
