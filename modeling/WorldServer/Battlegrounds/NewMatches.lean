import WorldServer.Battlegrounds.QueueMembership
import WorldServer.Battlegrounds.RunningBattlegrounds

/-!
# Starting a match

`CheckNormalMatch` fills the pool of each team from its own normal queue, and may then go on in the
queue of the team with fewer players. If that was not enough for an arena,
`CheckSkirmishForSameFaction` keeps one pool and fills the other from the same queue, behind the
group that was selected last. Which pool it keeps is decided by the size of the horde's alone: the
other one is taken for large enough, as it is when the teams have to be full.
-/
namespace WorldServer.Battlegrounds

open WorldServer.Lib

variable {groups : ℕ → GroupQueueInfo} {queue rest : List ℕ} {free : ℕ} {pool : SelectionPool}

namespace SelectionPool

lemma Selects.addUninvited {desiredCount : ℕ} (selects : Selects groups queue free pool rest)
    (bound : desiredCount ≤ free) :
    ∃ rest', Selects groups queue free (pool.addUninvited groups desiredCount rest) rest' := by
  induction rest generalizing pool with
  | nil => exact ⟨[], selects⟩
  | cons g rest ih =>
    unfold SelectionPool.addUninvited addGroup
    dsimp only
    split_ifs with uninvited fits
    · exact ih (selects.take fits.1 (fits.2.trans bound))
    · by_cases more : pool.PlayerCount < desiredCount
      · simpa only [more, decide_true] using ih selects.pass
      · simpa only [more, decide_false] using ⟨_, selects⟩
    · exact ih selects.pass

lemma Selects.addUntil (minPlayers : ℕ) (selects : Selects groups queue free pool rest) :
    Selects groups queue free (pool.addUntil groups minPlayers free rest).1
      (pool.addUntil groups minPlayers free rest).2 := by
  induction rest generalizing pool with
  | nil => exact selects
  | cons g rest ih =>
    unfold SelectionPool.addUntil addGroup
    dsimp only
    split_ifs with uninvited fits <;> first
      | exact selects.take fits.1 fits.2
      | exact ih (selects.take fits.1 fits.2)
      | exact selects.pass
      | exact ih selects.pass

lemma Selects.nonempty (selects : Selects groups queue free pool rest)
    (some_ : pool.PlayerCount ≠ 0) : pool.SelectedGroups ≠ [] := by
  intro none_
  simp [selects.counted, none_] at some_

lemma Selects.sublist (selects : Selects groups queue free pool rest) :
    pool.SelectedGroups.Sublist queue := by
  obtain ⟨seen, parts, chosen⟩ := selects.scanned
  exact parts ▸ chosen.trans (List.sublist_append_left _ _)

end SelectionPool

open SelectionPool

namespace BattlegroundQueue

structure MatchSet (q : BattlegroundQueue) (minPlayers maxPlayers : ℕ) : Prop where
  disjoint : (q.m_SelectionPools .alliance).SelectedGroups.Disjoint
    (q.m_SelectionPools .horde).SelectedGroups
  uninvited : ∀ t, ∀ g ∈ (q.m_SelectionPools t).SelectedGroups, (q.groups g).uninvited = true
  counted : ∀ t, (q.m_SelectionPools t).PlayerCount =
    ((q.m_SelectionPools t).SelectedGroups.map fun g => (q.groups g).Players.length).sum
  size : ∀ t, minPlayers ≤ (q.m_SelectionPools t).PlayerCount ∧
    (q.m_SelectionPools t).PlayerCount ≤ maxPlayers

/-- The team whose pool `CheckSkirmishForSameFaction` keeps. -/
def kept (q : BattlegroundQueue) (minPlayers : ℕ) : Team :=
  if (q.m_SelectionPools .horde).PlayerCount = minPlayers then .horde else .alliance

/-- `CheckSkirmishForSameFaction` reads the last group of a pool that has none. -/
def ReadsEmptyPool (q : BattlegroundQueue) (minPlayers : ℕ) : Prop :=
  ¬ ((q.m_SelectionPools .alliance).PlayerCount < minPlayers ∧
      (q.m_SelectionPools .horde).PlayerCount < minPlayers) ∧
    (q.m_SelectionPools (q.kept minPlayers)).SelectedGroups = []

/-- The alliance has too few players and the horde too many for a team of `minPlayers`. -/
def Crossed (q : BattlegroundQueue) (minPlayers : ℕ) : Prop :=
  (q.m_SelectionPools .alliance).PlayerCount < minPlayers ∧
    minPlayers < (q.m_SelectionPools .horde).PlayerCount

variable {q : BattlegroundQueue} {sv : Server} {bracketId : BattlegroundBracketId}
  {minPlayers maxPlayers : ℕ}

/-! ### The normal match -/

def Filled (q : BattlegroundQueue) (bracketId : BattlegroundBracketId) (maxPlayers : ℕ) : Prop :=
  ∀ t, ∃ rest, Selects q.groups (q.m_QueuedGroups (bracketId, .normal t)) maxPlayers
    (q.m_SelectionPools t) rest

/-- The pools may be filled up for the smaller team, and are large enough if a match is made. -/
lemma checkNormalMatch_spec (sv : Server) (bracketId : BattlegroundBracketId)
    (minPlayers maxPlayers : ℕ) :
    let normal := q.initPools.checkNormalMatch sv bracketId minPlayers maxPlayers
    normal.1.Filled bracketId maxPlayers ∧ normal.1.m_QueuedGroups = q.m_QueuedGroups ∧
      (normal.2 = true → sv.isTesting = false →
        (∀ t, minPlayers ≤ (normal.1.m_SelectionPools t).PlayerCount) ∧
          (sv.invitationType ≠ 0 → (((normal.1.m_SelectionPools .horde).PlayerCount : ℤ) -
            (normal.1.m_SelectionPools .alliance).PlayerCount).natAbs ≤ 2)) := by
  unfold checkNormalMatch
  generalize start : (fun t => (q.initPools.m_SelectionPools t).addUntil q.initPools.groups
    minPlayers maxPlayers (q.initPools.m_QueuedGroups (bracketId, .normal t))) = filled
  have first : ∀ t, Selects q.groups (q.m_QueuedGroups (bracketId, .normal t)) maxPlayers
      (filled t).1 (filled t).2 := by
    subst start
    exact fun t => Selects.addUntil minPlayers (selects_init _)
  dsimp only
  generalize (if (filled Team.horde).1.PlayerCount < (filled Team.alliance).1.PlayerCount then
    Team.horde else .alliance) = j
  by_cases tops : sv.invitationType ≠ 0 ∧ minPlayers ≤ (filled .horde).1.PlayerCount ∧
    minPlayers ≤ (filled .alliance).1.PlayerCount
  · -- the pool of the smaller team is filled up to the size of the other
    obtain ⟨rest, more⟩ := (first j).addUninvited (first j.other).room
    have selects : ∀ t, ∃ rest, Selects q.groups (q.m_QueuedGroups (bracketId, .normal t))
        maxPlayers (Function.update (fun t => (filled t).1) j ((filled j).1.addUninvited
          q.initPools.groups (filled j.other).1.PlayerCount (filled j).2) t) rest := by
      intro t
      by_cases own : t = j
      · subst own
        exact ⟨rest, by rw [Function.update_self]; exact more⟩
      · exact ⟨_, by rw [Function.update_of_ne own]; exact first t⟩
    generalize Function.update (fun t => (filled t).1) j ((filled j).1.addUninvited
      q.initPools.groups (filled j.other).1.PlayerCount (filled j).2) = pools at selects ⊢
    split_ifs with uneven testing
    · exact ⟨selects, rfl, nofun⟩
    · exact ⟨selects, rfl, fun _ quiet => by simp [quiet] at testing⟩
    · refine ⟨selects, rfl, fun enough _ => ⟨?_, fun _ => ?_⟩⟩
      · have sizes := of_decide_eq_true enough
        rintro (_ | _)
        exacts [sizes.1, sizes.2]
      · exact not_lt.mp fun far => uneven ⟨tops, far⟩
  · split_ifs with uneven testing
    · exact absurd uneven.1 tops
    · exact ⟨fun t => ⟨_, first t⟩, rfl, fun _ quiet => by simp [quiet] at testing⟩
    · refine ⟨fun t => ⟨_, first t⟩, rfl, fun enough _ => ?_⟩
      have sizes := of_decide_eq_true enough
      refine ⟨?_, fun balanced => absurd ⟨balanced, sizes.2, sizes.1⟩ tops⟩
      rintro (_ | _)
      exacts [sizes.1, sizes.2]

lemma Filled.matchSet (filled : q.Filled bracketId maxPlayers)
    (apart : Queues.Apart q.m_QueuedGroups)
    (enough : ∀ t, minPlayers ≤ (q.m_SelectionPools t).PlayerCount) :
    q.MatchSet minPlayers maxPlayers where
  disjoint g ali horde := by
    obtain ⟨_, first⟩ := filled .alliance
    obtain ⟨_, second⟩ := filled .horde
    have hs := apart.once _ _ g (first.sublist.subset ali) (second.sublist.subset horde)
    exact normal_other .alliance (congrArg Prod.snd hs)
  uninvited t g hm := by
    obtain ⟨_, selects⟩ := filled t
    exact selects.uninvited g hm
  counted t := by
    obtain ⟨_, selects⟩ := filled t
    exact selects.counted
  size t := by
    obtain ⟨_, selects⟩ := filled t
    exact ⟨enough t, selects.room⟩

/-! ### The skirmish -/

lemma kept_le (some_ : ¬ ((q.m_SelectionPools .alliance).PlayerCount < minPlayers ∧
      (q.m_SelectionPools .horde).PlayerCount < minPlayers)) (straight : ¬ q.Crossed minPlayers) :
    minPlayers ≤ (q.m_SelectionPools (q.kept minPlayers)).PlayerCount := by
  unfold Crossed at straight
  unfold kept
  split <;> omega

lemma notMem_after {selected before after : List ℕ} {mark : ℕ}
    (sub : selected.Sublist (before ++ mark :: after)) (nodup : (before ++ mark :: after).Nodup)
    (last : selected.getLast? = some mark) {g : ℕ} (hm : g ∈ selected) : g ∉ after := by
  rw [show before ++ mark :: after = (before ++ [mark]) ++ after by simp] at sub nodup
  obtain ⟨front, back, rfl, inFront, inBack⟩ := List.sublist_append_iff.mp sub
  have apart := List.nodup_append.mp nodup
  -- nothing comes from behind, as the mark would be there too
  have none_ : back = [] := by
    by_contra some_
    rw [List.getLast?_append_of_ne_nil _ some_] at last
    have behind := inBack.subset (List.mem_of_getLast? last)
    exact apart.2.2 mark (by simp) mark behind rfl
  rw [none_, List.append_nil] at hm
  exact fun behind => apart.2.2 g (inFront.subset hm) g behind rfl

lemma changeFactions_keep (bracketId : BattlegroundBracketId) (t : Team) (mark : ℕ)
    (selected : List ℕ) (q : BattlegroundQueue) :
    let q' := selected.foldl (changeFaction bracketId t mark) q
    q'.m_SelectionPools = q.m_SelectionPools ∧
      ∀ g, (q'.groups g).Players = (q.groups g).Players ∧
        (q'.groups g).uninvited = (q.groups g).uninvited := by
  induction selected generalizing q with
  | nil => exact ⟨rfl, fun _ => ⟨rfl, rfl⟩⟩
  | cons g selected ih =>
    obtain ⟨pools, groups⟩ := ih (changeFaction bracketId t mark q g)
    refine ⟨pools, fun h => ?_⟩
    have own : ((changeFaction bracketId t mark q g).groups h).Players = (q.groups h).Players ∧
        ((changeFaction bracketId t mark q g).groups h).uninvited = (q.groups h).uninvited := by
      by_cases hs : h = g <;>
        simp [changeFaction, setGroups, groups_modifyGroup, hs, GroupQueueInfo.uninvited]
    exact ⟨(groups h).1.trans own.1, (groups h).2.trans own.2⟩

lemma checkSkirmish_spec
    (hf : (q.checkSkirmishForSameFaction sv bracketId minPlayers).2 = true) :
    let q' := (q.checkSkirmishForSameFaction sv bracketId minPlayers).1
    let t := q.kept minPlayers
    ¬ ((q.m_SelectionPools .alliance).PlayerCount < minPlayers ∧
      (q.m_SelectionPools .horde).PlayerCount < minPlayers) ∧
    (∃ before after, q.m_QueuedGroups (bracketId, .normal t) = before ++
        (q.m_SelectionPools t).SelectedGroups.getLast?.getD sv.stale :: after ∧
      (SelectionPool.init.addUninvited q.groups minPlayers after).PlayerCount = minPlayers ∧
      q'.m_SelectionPools = Function.update q.m_SelectionPools t.other
        (SelectionPool.init.addUninvited q.groups minPlayers after)) ∧
    ∀ g, (q'.groups g).Players = (q.groups g).Players ∧
      (q'.groups g).uninvited = (q.groups g).uninvited := by
  unfold checkSkirmishForSameFaction at hf ⊢
  dsimp only at hf ⊢
  rw [← kept] at hf ⊢
  generalize q.kept minPlayers = t at hf ⊢
  split at hf
  · exact absurd hf Bool.false_ne_true
  next some_ =>
    rw [if_neg some_]
    refine ⟨some_, ?_⟩
    have own : t ≠ t.other := by cases t <;> exact nofun
    have pool : (q.setPool t.other .init).m_SelectionPools t = q.m_SelectionPools t :=
      Function.update_of_ne own _ _
    rw [pool] at hf ⊢
    split at hf
    · exact absurd hf Bool.false_ne_true
    next here after list =>
      split at hf
      · exact absurd hf Bool.false_ne_true
      next full =>
        obtain ⟨before, split_⟩ := split_at_mark list
        rw [if_neg full]
        obtain ⟨pools, groups⟩ := changeFactions_keep bracketId t
          ((q.m_SelectionPools t).SelectedGroups.getLast?.getD sv.stale)
          (SelectionPool.init.addUninvited q.groups minPlayers after).SelectedGroups
          ((q.setPool t.other .init).setPool t.other
            (SelectionPool.init.addUninvited q.groups minPlayers after))
        refine ⟨⟨before, after, split_, not_not.mp full, pools.trans ?_⟩, groups⟩
        rw [setPool, setPool, Function.update_idem]

lemma Filled.skirmish_iff (filled : q.Filled bracketId maxPlayers)
    (apart : Queues.Apart q.m_QueuedGroups) (positive : 1 ≤ minPlayers)
    (hf : (q.checkSkirmishForSameFaction sv bracketId minPlayers).2 = true) :
    (q.checkSkirmishForSameFaction sv bracketId minPlayers).1.MatchSet minPlayers maxPlayers ↔
      ¬ q.Crossed minPlayers := by
  obtain ⟨some_, ⟨before, after, split_, full, pools⟩, groups⟩ := checkSkirmish_spec hf
  generalize (q.checkSkirmishForSameFaction sv bracketId minPlayers).1 = q' at pools groups ⊢
  constructor
  · intro matchSet crossed
    have kept_ : q.kept minPlayers = .alliance := by
      rw [kept, if_neg (by have := crossed.2; omega)]
    have small := (matchSet.size .alliance).1
    rw [pools, kept_, Function.update_of_ne (by decide)] at small
    exact absurd small (not_le.mpr crossed.1)
  · intro straight
    have enough := kept_le some_ straight
    generalize q.kept minPlayers = t at *
    obtain ⟨rest, own⟩ := filled t
    have le : minPlayers ≤ maxPlayers := enough.trans own.room
    have start : Selects q.groups after minPlayers SelectionPool.init after := selects_init after
    obtain ⟨rest', other⟩ := start.addUninvited (le_refl minPlayers)
    have last := List.getLast?_eq_some_getLast (own.nonempty (by omega))
    rw [last, Option.getD_some] at split_
    have nodup := apart.nodup (bracketId, .normal t)
    rw [split_] at nodup
    have behind : ∀ g ∈ (q.m_SelectionPools t).SelectedGroups, g ∉ after := by
      have sub := own.sublist
      rw [split_] at sub
      exact fun g hm => notMem_after sub nodup last hm
    have sides : ∀ s, s = t ∨ s = t.other := by
      intro s
      cases s <;> cases t <;> simp [Team.other]
    have notOther : t ≠ t.other := by cases t <;> decide
    have pool : q'.m_SelectionPools t = q.m_SelectionPools t := by
      rw [pools, Function.update_of_ne notOther]
    have pool' : q'.m_SelectionPools t.other =
        SelectionPool.init.addUninvited q.groups minPlayers after := by
      rw [pools, Function.update_self]
    have apart' : (q'.m_SelectionPools t).SelectedGroups.Disjoint
        (q'.m_SelectionPools t.other).SelectedGroups := by
      intro g hm hm'
      rw [pool] at hm
      rw [pool'] at hm'
      exact behind g hm (other.sublist.subset hm')
    have lengths : (fun g => (q'.groups g).Players.length) =
        fun g => (q.groups g).Players.length := funext fun g => by rw [(groups g).1]
    constructor
    · cases t with
      | alliance => exact apart'
      | horde => exact apart'.symm
    · intro s g hm
      rw [(groups g).2]
      rcases sides s with rfl | rfl
      · exact own.uninvited g (pool ▸ hm)
      · exact other.uninvited g (pool' ▸ hm)
    · intro s
      rw [lengths]
      rcases sides s with rfl | rfl
      · rw [pool, own.counted]
      · rw [pool', other.counted]
    · intro s
      rcases sides s with rfl | rfl
      · rw [pool]
        exact ⟨enough, own.room⟩
      · rw [pool', full]
        exact ⟨le_rfl, le⟩

/-! ### Both checks -/

/-- What the checks select for a match, where a group is in one queue once. -/
theorem matches_sound (sv : Server) (bracketId : BattlegroundBracketId) (minPlayers maxPlayers : ℕ)
    (apart : Queues.Apart q.m_QueuedGroups) (positive : 1 ≤ minPlayers) :
    let normal := q.initPools.checkNormalMatch sv bracketId minPlayers maxPlayers
    let skirmish := normal.1.checkSkirmishForSameFaction sv bracketId minPlayers
    (normal.2 = true → sv.isTesting = false → normal.1.MatchSet minPlayers maxPlayers ∧
      (sv.invitationType ≠ 0 → (((normal.1.m_SelectionPools .horde).PlayerCount : ℤ) -
        (normal.1.m_SelectionPools .alliance).PlayerCount).natAbs ≤ 2)) ∧
    (skirmish.2 = true →
      (skirmish.1.MatchSet minPlayers maxPlayers ↔ ¬ normal.1.Crossed minPlayers)) ∧
    (minPlayers = maxPlayers →
      ¬ normal.1.Crossed minPlayers ∧ ¬ normal.1.ReadsEmptyPool minPlayers) := by
  obtain ⟨filled, lists, large⟩ :=
    checkNormalMatch_spec (q := q) sv bracketId minPlayers maxPlayers
  have apart' := lists ▸ apart
  refine ⟨fun found quiet => ?_, fun found => filled.skirmish_iff apart' positive found, ?_⟩
  · obtain ⟨enough, even⟩ := large found quiet
    exact ⟨filled.matchSet apart' enough, even⟩
  · rintro rfl
    generalize (q.initPools.checkNormalMatch sv bracketId minPlayers minPlayers).1 = normal at *
    obtain ⟨_, horde⟩ := filled .horde
    have straight : ¬ normal.Crossed minPlayers := fun crossed =>
      absurd crossed.2 (not_lt.mpr horde.room)
    refine ⟨straight, fun reads => ?_⟩
    have enough := kept_le reads.1 straight
    obtain ⟨_, own⟩ := filled (normal.kept minPlayers)
    exact own.nonempty (by omega) reads.2

/-- Groups of two and of three players of the alliance, and one of four players of the horde. -/
def uneven : BattlegroundQueue :=
  { BattlegroundQueue.init with
    m_QueuedGroups := fun at_ =>
      if at_ = (0, .normal .alliance) then [0, 1] else if at_ = (0, .normal .horde) then [2] else []
    groups := fun g =>
      ⟨[[1, 2], [3, 4, 5], [6, 7, 8, 9]].getD g [], if g = 2 then .horde else .alliance, 0, false,
        0, 0, 0, 0, 0, 0, 0, 0, 0⟩
    newGroup := 3 }

lemma uneven_apart : Queues.Apart uneven.m_QueuedGroups where
  nodup k := by
    simp only [uneven]
    split_ifs <;> decide
  once k l g first second := by
    simp only [uneven] at first second
    split_ifs at first second <;> grind

def quietServer : Server := ⟨0, 0, 0, 0, 0, false, false, [], none, none, none, none, 0⟩

theorem matches_sound_uneven :
    let normal := (uneven.initPools.checkNormalMatch quietServer 0 3 4).1
    (normal.checkSkirmishForSameFaction quietServer 0 3).1.MatchSet 3 4 ↔ ¬ normal.Crossed 3 :=
  (matches_sound quietServer 0 3 4 uneven_apart (by decide)).2.1 (by decide +kernel)

/-- Three against three: the two players are kept, as the horde has not three but four. -/
theorem skirmish_too_small :
    let normal := uneven.initPools.checkNormalMatch quietServer 0 3 4
    let skirmish := normal.1.checkSkirmishForSameFaction quietServer 0 3
    normal.2 = false ∧ skirmish.2 = true ∧ ¬ skirmish.1.MatchSet 3 4 := by
  refine ⟨by decide +kernel, by decide +kernel, fun matchSet => ?_⟩
  exact absurd (matchSet.size .alliance).1 (by decide +kernel)

end BattlegroundQueue

end WorldServer.Battlegrounds
