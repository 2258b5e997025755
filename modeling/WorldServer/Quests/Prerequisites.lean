import WorldServer.Quests.Periods

/-!
# Previous quests and exclusive groups

A quest may ask for one of several quests to be rewarded or active before it, and for the whole group
of such a quest if the group is negative. Of a positive group only one quest may be taken. The first
of the previous quests that is in the state asked for decides alone, and of the group of an active
one the others may not be active.
-/
namespace WorldServer.Quests

open WorldServer.Lib

/-- What `LoadQuests` fills in once all templates are there. The previous quests are positive or
negative, and exist; the members of a group are the quests that name it. -/
structure Prerequisites (mgr : ObjectMgr) where
  prevQuests : UInt32 → List Int32
  ExclusiveGroup : UInt32 → Int32
  mExclusiveQuestGroups : Int32 → List UInt32
  prev_known : ∀ q, ∀ e ∈ prevQuests q, (mgr.GetQuestTemplate e.abs.toUInt32).isSome
  mem_group : ∀ group q, q ∈ mExclusiveQuestGroups group ↔
    group ≠ 0 ∧ (mgr.GetQuestTemplate q).isSome ∧ ExclusiveGroup q = group

namespace Player

variable {mgr : ObjectMgr} (pre : Prerequisites mgr) (p : Player)

/-! ### What the source checks -/

/-- The loop over the previous quests -/
def prevLoop : List Int32 → Bool
  | [] => false
  | e :: rest =>
    let prevId := e.abs.toUInt32
    match mgr.GetQuestTemplate prevId with
    | none => prevLoop rest
    | some _ =>
      let group := pre.ExclusiveGroup prevId
      if 0 < e ∧ prevId ∈ p.m_RewardedQuests then
        if 0 ≤ group then true
        else (pre.mExclusiveQuestGroups group).all fun exclude_Id =>
          exclude_Id = prevId ∨ exclude_Id ∈ p.m_RewardedQuests
      else if e < 0 ∧ p.GetQuestStatus mgr prevId ≠ .none then
        if 0 ≤ group then true
        -- a member that is active refuses the quest
        else (pre.mExclusiveQuestGroups group).all fun exclude_Id =>
          exclude_Id = prevId ∨ ¬ p.GetQuestStatus mgr exclude_Id ≠ .none
      else prevLoop rest

def SatisfyQuestPreviousQuest (quest_id : UInt32) : Bool :=
  if pre.prevQuests quest_id = [] then true else prevLoop pre p (pre.prevQuests quest_id)

/-- The checks of another quest of the group. That of the month is not among them. -/
def excludes (mgr : ObjectMgr) (quest Nquest : Quest) : Bool :=
  !p.SatisfyQuestDay Nquest || !p.SatisfyQuestWeek Nquest || !p.SatisfyQuestSeasonal mgr Nquest ||
    (p.GetQuestStatus mgr Nquest.Id ≠ .none ||
      !(quest.IsRepeatable && Nquest.IsRepeatable) && Nquest.Id ∈ p.m_RewardedQuests)

def SatisfyQuestExclusiveGroup (quest : Quest) : Bool :=
  if pre.ExclusiveGroup quest.Id ≤ 0 then true
  else (pre.mExclusiveQuestGroups (pre.ExclusiveGroup quest.Id)).all fun exclude_Id =>
    exclude_Id = quest.Id ∨
      (mgr.GetQuestTemplate exclude_Id).any fun Nquest => !p.excludes mgr quest Nquest

/-! ### What is asked for -/

/-- The state in which a previous quest wants a quest to be. A quest is active if it has a status. -/
def InState (mgr : ObjectMgr) (p : Player) (e : Int32) (q : UInt32) : Prop :=
  if 0 < e then q ∈ p.m_RewardedQuests else p.GetQuestStatus mgr q ≠ .none

instance (e : Int32) : DecidablePred (InState mgr p e) := fun q =>
  inferInstanceAs (Decidable (if 0 < e then q ∈ p.m_RewardedQuests
    else p.GetQuestStatus mgr q ≠ .none))

/-- A previous quest is in its state, and so are all quests of its group if that is negative. -/
def Holds (e : Int32) : Prop :=
  InState mgr p e e.abs.toUInt32 ∧
    (pre.ExclusiveGroup e.abs.toUInt32 < 0 →
      ∀ q ∈ pre.mExclusiveQuestGroups (pre.ExclusiveGroup e.abs.toUInt32), InState mgr p e q)

/-- The first previous quest that is in its state -/
def deciding (quest_id : UInt32) : Option Int32 :=
  (pre.prevQuests quest_id).find? fun e => InState mgr p e e.abs.toUInt32

/-- The other quests of the group of a previous quest -/
def others (e : Int32) : List UInt32 :=
  (pre.mExclusiveQuestGroups (pre.ExclusiveGroup e.abs.toUInt32)).filter (· ≠ e.abs.toUInt32)

/-- The previous quest that decides does so rightly: it needs no group; or it is rewarded with its
whole group; or it does not hold, and then it is active and alone in its group exactly if another
previous quest holds. -/
def DecidesRightly (quest_id : UInt32) : Prop :=
  ∀ e, deciding pre p quest_id = some e → pre.ExclusiveGroup e.abs.toUInt32 < 0 →
    others pre e ≠ [] →
    Holds pre p e ∧ 0 < e ∨
    ¬ Holds pre p e ∧ ((∃ e' ∈ pre.prevQuests quest_id, Holds pre p e') ↔
      e < 0 ∧ ∀ q ∈ others pre e, p.GetQuestStatus mgr q = .none)

/-! ### Previous quests -/

variable {pre p}

/-- What the loop makes of the entry that decides -/
def granted (pre : Prerequisites mgr) (p : Player) (e : Int32) : Bool :=
  0 ≤ pre.ExclusiveGroup e.abs.toUInt32 ∨ ∀ q ∈ others pre e,
    if 0 < e then q ∈ p.m_RewardedQuests else p.GetQuestStatus mgr q = .none

variable (pre) in
lemma all_others (e : Int32) (state : UInt32 → Prop) [DecidablePred state] :
    ((pre.mExclusiveQuestGroups (pre.ExclusiveGroup e.abs.toUInt32)).all fun exclude_Id =>
      exclude_Id = e.abs.toUInt32 ∨ state exclude_Id) ↔ ∀ q ∈ others pre e, state q := by
  simp only [List.all_eq_true, decide_eq_true_eq, others, List.mem_filter, decide_not,
    Bool.not_eq_true', decide_eq_false_iff_not, and_imp]
  exact forall₂_congr fun q _ => or_iff_not_imp_left

lemma prevLoop_eq (entries : List Int32)
    (known : ∀ e ∈ entries, (mgr.GetQuestTemplate e.abs.toUInt32).isSome) :
    prevLoop pre p entries =
      (entries.find? fun e => InState mgr p e e.abs.toUInt32).any (granted pre p) := by
  induction entries with
  | nil => rfl
  | cons e entries ih =>
    rw [List.forall_mem_cons] at known
    obtain ⟨qPrevInfo, found⟩ := Option.isSome_iff_exists.mp known.1
    have later := ih known.2
    rw [Bool.eq_iff_iff] at later ⊢
    rw [List.find?_cons, prevLoop]
    simp only [found]
    by_cases pos : 0 < e
    · have not_neg : ¬ e < 0 := Int32.lt_asymm pos
      by_cases rewarded : e.abs.toUInt32 ∈ p.m_RewardedQuests
      · by_cases free : 0 ≤ pre.ExclusiveGroup e.abs.toUInt32
        · simp [pos, rewarded, InState, granted, free]
        · have all := all_others pre e fun q => q ∈ p.m_RewardedQuests
          simp only [pos, rewarded, InState, granted, free, true_and, if_true, if_false, all,
            decide_true, Option.any_some, false_or, decide_eq_true_eq]
      · simpa [pos, rewarded, InState, not_neg] using later
    · by_cases neg : e < 0
      · by_cases active : p.GetQuestStatus mgr e.abs.toUInt32 = .none
        · simpa [pos, active, InState, neg] using later
        · by_cases free : 0 ≤ pre.ExclusiveGroup e.abs.toUInt32
          · simp [pos, active, InState, neg, granted, free]
          · have all := all_others pre e fun q => p.GetQuestStatus mgr q = .none
            simp only [pos, active, InState, neg, granted, free, true_and, false_and, if_true,
              if_false, ne_eq, not_false_eq_true, decide_true, Option.any_some, false_or,
              decide_eq_true_eq, not_not, all]
      · -- zero is no quest
        have zero : e = 0 := Int32.le_antisymm (Int32.not_lt.mp pos) (Int32.not_lt.mp neg)
        subst zero
        exact absurd rfl (mgr.named 0 qPrevInfo found).2

lemma mem_others {e : Int32} {q : UInt32} :
    q ∈ others pre e ↔ q ∈ pre.mExclusiveQuestGroups (pre.ExclusiveGroup e.abs.toUInt32) ∧
      q ≠ e.abs.toUInt32 := by
  rw [others, List.mem_filter, decide_eq_true_eq]

variable (pre) in
/-- An entry holds if its quest and the others of a negative group are in its state. -/
lemma holds_iff {e : Int32} (own : InState mgr p e e.abs.toUInt32) :
    Holds pre p e ↔ 0 ≤ pre.ExclusiveGroup e.abs.toUInt32 ∨
      ∀ q ∈ others pre e, InState mgr p e q := by
  rw [Holds, and_iff_right own, ← Int32.not_lt, ← imp_iff_not_or]
  constructor
  · intro all neg q hm
    exact all neg q (mem_others.mp hm).1
  · intro all neg q hm
    by_cases same : q = e.abs.toUInt32
    · exact same ▸ own
    · exact all neg q (mem_others.mpr ⟨hm, same⟩)

lemma granted_iff (e : Int32) : granted pre p e ↔ 0 ≤ pre.ExclusiveGroup e.abs.toUInt32 ∨
    ∀ q ∈ others pre e,
      if 0 < e then q ∈ p.m_RewardedQuests else p.GetQuestStatus mgr q = .none := by
  rw [granted, decide_eq_true_eq]

/-- The condition under which the entry that decides gives the right answer -/
lemma granted_right_iff {e : Int32} (own : InState mgr p e e.abs.toUInt32) (some_ : e ≠ 0)
    {any : Prop} (holds_any : Holds pre p e → any) :
    (granted pre p e ↔ any) ↔ (pre.ExclusiveGroup e.abs.toUInt32 < 0 → others pre e ≠ [] →
      Holds pre p e ∧ 0 < e ∨
      ¬ Holds pre p e ∧ (any ↔ e < 0 ∧ ∀ q ∈ others pre e, p.GetQuestStatus mgr q = .none)) := by
  have holds := holds_iff pre own
  rw [granted_iff]
  by_cases free : 0 ≤ pre.ExclusiveGroup e.abs.toUInt32
  · have true_ : any := holds_any (holds.mpr (Or.inl free))
    have not_lt := Int32.not_lt.mpr free
    tauto
  have group := Int32.not_le.mp free
  by_cases alone : others pre e = []
  · have true_ : any := holds_any (holds.mpr (Or.inr (by rw [alone]; nofun)))
    simp [alone, true_]
  simp only [free, false_or] at holds
  simp only [free, false_or, group, alone, ne_eq, not_false_eq_true, forall_const]
  by_cases pos : 0 < e
  · have not_neg : ¬ e < 0 := Int32.lt_asymm pos
    simp only [pos, if_true, InState] at holds ⊢
    rw [← holds]
    tauto
  · have neg : e < 0 := Int32.lt_of_le_of_ne (Int32.not_lt.mp pos) some_
    -- the members are asked to be active, and are refused if they are
    have opposite : Holds pre p e → ¬ ∀ q ∈ others pre e, p.GetQuestStatus mgr q = .none := by
      intro all none_
      obtain ⟨q, hq⟩ := List.exists_mem_of_ne_nil _ alone
      have active := holds.mp all q hq
      rw [InState, if_neg pos] at active
      exact active (none_ q hq)
    simp only [pos, if_false, neg, true_and, and_false, false_or]
    clear holds
    generalize (∀ q ∈ others pre e, p.GetQuestStatus mgr q = .none) = inactive at opposite ⊢
    by_cases all : Holds pre p e
    · simp [all, opposite all, holds_any all]
    · simp [all, iff_comm]

variable (pre p) in
/-- The previous quests give the answer that is asked for exactly if the one that decides does. -/
lemma previousQuest_iff (quest_id : UInt32) :
    (SatisfyQuestPreviousQuest pre p quest_id ↔
      pre.prevQuests quest_id = [] ∨ ∃ e ∈ pre.prevQuests quest_id, Holds pre p e) ↔
    DecidesRightly pre p quest_id := by
  rw [SatisfyQuestPreviousQuest, DecidesRightly, deciding]
  by_cases empty : pre.prevQuests quest_id = []
  · simp [empty]
  rw [if_neg empty, prevLoop_eq _ (pre.prev_known quest_id), or_iff_right empty]
  cases found : (pre.prevQuests quest_id).find? fun e => InState mgr p e e.abs.toUInt32 with
  | none =>
    have nothing : ¬ ∃ e ∈ pre.prevQuests quest_id, Holds pre p e := by
      rintro ⟨e, hm, own, -⟩
      exact List.find?_eq_none.mp found e hm (decide_eq_true own)
    simp [nothing]
  | some e =>
    have member := List.mem_of_find?_eq_some found
    have own : InState mgr p e e.abs.toUInt32 := by simpa using List.find?_some found
    have some_ : e ≠ 0 := by
      rintro rfl
      obtain ⟨quest, zero⟩ := Option.isSome_iff_exists.mp (pre.prev_known quest_id 0 member)
      exact (mgr.named 0 quest zero).2 rfl
    rw [Option.any_some, granted_right_iff own some_ fun all => ⟨e, member, all⟩]
    simp

/-! ### Exclusive groups -/

variable (pre p) in
/-- Another quest of a positive group, with its template -/
def InSameGroup (quest Nquest : Quest) : Prop :=
  0 < pre.ExclusiveGroup quest.Id ∧ Nquest.Id ∈ pre.mExclusiveQuestGroups (pre.ExclusiveGroup quest.Id) ∧
    Nquest.Id ≠ quest.Id ∧ mgr.GetQuestTemplate Nquest.Id = some Nquest

variable (pre p) in
lemma satisfyQuestExclusiveGroup_iff (quest : Quest) :
    SatisfyQuestExclusiveGroup pre p quest ↔
      ∀ Nquest, InSameGroup pre quest Nquest → ¬ p.excludes mgr quest Nquest := by
  rw [SatisfyQuestExclusiveGroup]
  by_cases pos : 0 < pre.ExclusiveGroup quest.Id
  · rw [if_neg (Int32.not_le.mpr pos)]
    simp only [List.all_eq_true, decide_eq_true_eq, Option.any_eq_true, Bool.not_eq_true']
    constructor
    · rintro all Nquest ⟨-, member, other, found⟩
      obtain ⟨same, eq, free⟩ := (all _ member).resolve_left other
      rw [found, Option.some_inj] at eq
      rw [eq, free]
      exact Bool.false_ne_true
    · intro all q hm
      by_cases own : q = quest.Id
      · exact Or.inl own
      · obtain ⟨-, known, -⟩ := (pre.mem_group _ q).mp hm
        obtain ⟨Nquest, found⟩ := Option.isSome_iff_exists.mp known
        obtain ⟨rfl, -⟩ := mgr.named q Nquest found
        exact Or.inr ⟨Nquest, found, Bool.not_eq_true _ ▸ all Nquest ⟨pos, hm, own, found⟩⟩
  · rw [if_pos (Int32.not_lt.mp pos)]
    exact iff_of_true rfl fun Nquest same => absurd same.1 pos

/-- What the state of the player shows of another quest of the group: a status, a reward that counts
for good, a quest of the dungeon finder on this day, this one in this week, or in this season. -/
def Shown (mgr : ObjectMgr) (p : Player) (quest Nquest : Quest) : Prop :=
  p.GetQuestStatus mgr Nquest.Id ≠ .none ∨
    (¬ (quest.IsRepeatable ∧ Nquest.IsRepeatable) ∧ Nquest.Id ∈ p.m_RewardedQuests) ∨
    (Nquest.IsDFQuest ∧ p.m_DFQuests ≠ ∅) ∨
    (Nquest.IsWeekly ∧ Nquest.Id ∈ p.m_weeklyquests) ∨
    (Nquest.IsSeasonal ∧ (mgr.GetEventIdForQuest Nquest.Id, Nquest.Id) ∈ p.m_seasonalquests)

/-- An ordinary daily quest can be done again at once. -/
lemma satisfyQuestDay_eq (p : Player) {quest : Quest} (named : quest.Id ≠ 0) :
    p.SatisfyQuestDay quest = !(quest.IsDFQuest && decide (p.m_DFQuests ≠ ∅)) := by
  have none_ : ((List.range PLAYER_MAX_DAILY_QUESTS).any fun idx =>
      decide (quest.Id = dailyQuestField idx)) = false := by
    simp [dailyQuestField, named]
  have slot : ((List.range PLAYER_MAX_DAILY_QUESTS).any fun idx =>
      decide (dailyQuestField idx = 0)) = true := by
    rw [List.any_eq_true]
    exact ⟨0, List.mem_range.mpr (by decide), rfl⟩
  rw [SatisfyQuestDay]
  cases quest.IsDaily <;> cases quest.IsDFQuest <;> simp [none_, slot]

lemma excludes_iff {quest Nquest : Quest} (named : Nquest.Id ≠ 0) :
    p.excludes mgr quest Nquest ↔ Shown mgr p quest Nquest := by
  have week : p.SatisfyQuestWeek Nquest = false ↔
      Nquest.IsWeekly ∧ Nquest.Id ∈ p.m_weeklyquests := by
    by_cases empty : p.m_weeklyquests = ∅ <;> simp [SatisfyQuestWeek, empty]
  have season : p.SatisfyQuestSeasonal mgr Nquest = false ↔ Nquest.IsSeasonal ∧
      (mgr.GetEventIdForQuest Nquest.Id, Nquest.Id) ∈ p.m_seasonalquests := by
    by_cases empty : p.m_seasonalquests = ∅ <;> simp [SatisfyQuestSeasonal, empty]
  have both : (quest.IsRepeatable = false ∨ Nquest.IsRepeatable = false) ↔
      ¬ (quest.IsRepeatable ∧ Nquest.IsRepeatable) := by
    cases quest.IsRepeatable <;> simp
  have regroup : ∀ dungeon week season status once : Prop,
      ((dungeon ∨ week) ∨ season) ∨ status ∨ once ↔ status ∨ once ∨ dungeon ∨ week ∨ season := by
    intros
    rw [or_comm, or_assoc, or_assoc]
  simp only [excludes, satisfyQuestDay_eq p named, Bool.or_eq_true, Bool.not_eq_true',
    Bool.and_eq_true, decide_eq_true_eq, Bool.not_not, Bool.and_eq_false_iff, week, season, both]
  exact regroup _ _ _ _ _

/-- Another quest of the group was done in a period that is not over. -/
def DoneInPeriod (mgr : ObjectMgr) (c : Career) (Nquest : Quest) : Prop :=
  ∃ period, mgr.InPeriod Nquest period ∧ Nquest.Id ∈ c.done period

variable (pre) in
/-- What is asked of the group: a quest that is active, rewarded or done in its period excludes the
others. -/
def Excluded (c : Career) (quest : Quest) : Prop :=
  ∀ Nquest, InSameGroup pre quest Nquest →
    c.player.GetQuestStatus mgr Nquest.Id ≠ .none ∨
      (Nquest.Id ∈ c.player.m_RewardedQuests ∧ ¬ (quest.IsRepeatable ∧ Nquest.IsRepeatable)) ∨
      DoneInPeriod mgr c Nquest →
    SatisfyQuestExclusiveGroup pre c.player quest = false

lemma excluded_iff (c : Career) (quest : Quest) :
    Excluded pre c quest ↔
      (∃ Nquest, InSameGroup pre quest Nquest ∧ Shown mgr c.player quest Nquest) ∨
        ∀ Nquest, InSameGroup pre quest Nquest → ¬ DoneInPeriod mgr c Nquest := by
  have shown : ∀ Nquest, InSameGroup pre quest Nquest →
      (c.player.excludes mgr quest Nquest ↔ Shown mgr c.player quest Nquest) := by
    intro Nquest same
    exact excludes_iff (mgr.named _ _ same.2.2.2).2
  have result := satisfyQuestExclusiveGroup_iff pre c.player quest
  constructor
  · intro excluded
    by_contra! neither
    obtain ⟨silent, Nquest, same, done⟩ := neither
    have refused := excluded Nquest same (Or.inr (Or.inr done))
    have let_through := result.mpr fun other same => (shown other same).not.mpr (silent other same)
    rw [refused] at let_through
    cases let_through
  · intro condition Nquest same state
    rw [← Bool.not_eq_true, result]
    intro none_
    rcases condition with ⟨other, same_, shows⟩ | not_done
    · exact none_ other same_ ((shown other same_).mpr shows)
    · apply none_ Nquest same
      rw [shown Nquest same, Shown]
      have := not_done Nquest same
      tauto

/-- The previous quests give the right answer exactly if the first that is in its state decides
rightly. A quest of a positive group is refused as asked exactly if the state shows some quest of
the group, or none was done in its period. -/
theorem prerequisites_iff (pre : Prerequisites mgr) (c : Career) (quest_id : UInt32)
    (quest : Quest) :
    ((SatisfyQuestPreviousQuest pre c.player quest_id ↔
        pre.prevQuests quest_id = [] ∨
          ∃ e ∈ pre.prevQuests quest_id, Holds pre c.player e) ↔
      DecidesRightly pre c.player quest_id) ∧
    (Excluded pre c quest ↔
      (∃ Nquest, InSameGroup pre quest Nquest ∧ Shown mgr c.player quest Nquest) ∨
        ∀ Nquest, InSameGroup pre quest Nquest → ¬ DoneInPeriod mgr c Nquest) :=
  ⟨previousQuest_iff pre c.player quest_id, excluded_iff c quest⟩

end Player

/-- Quests without objectives, with their flags -/
def bareQuest (Flags : UInt32) (q : UInt32) : Quest := Quest.load { Id := q, Flags := Flags }

lemma bareQuest_spec (Flags q : UInt32) :
    (bareQuest Flags q).Id = q ∧ (bareQuest Flags q).m_questObjectives = [] := by
  rw [bareQuest, Quest.load]
  split <;> split <;> exact ⟨rfl, rfl⟩

def bareMgr (ids : List UInt32) (Flags : UInt32) : ObjectMgr where
  GetQuestTemplate q := if q ≠ 0 ∧ q ∈ ids then some (bareQuest Flags q) else none
  GetQuestObjectiveQuestId _ := 0
  GetEventIdForQuest _ := 0
  ignoreAutoComplete := false
  keepAbandoned := true
  named := by
    intro q quest found
    rw [Option.ite_none_right_eq_some] at found
    obtain ⟨⟨some_, -⟩, found⟩ := found
    rw [← Option.some_inj.mp found]
    exact ⟨(bareQuest_spec Flags q).1, some_⟩
  loaded := by
    intro q quest found
    rw [Option.ite_none_right_eq_some] at found
    rw [← Option.some_inj.mp found.2]
    exact Quest.loaded_load _
  distinct := by
    intro q quest found
    rw [Option.ite_none_right_eq_some] at found
    rw [← Option.some_inj.mp found.2, (bareQuest_spec Flags q).2]
    exact List.nodup_nil
  questOf := by
    intro q quest o found hm
    rw [Option.ite_none_right_eq_some] at found
    rw [← Option.some_inj.mp found.2, (bareQuest_spec Flags q).2] at hm
    cases hm
  objectiveOf objectiveId some_ := absurd rfl some_

/-- The quests 1 and 2 in a group, and the quest 3, which asks for quest 1 to be active -/
def grouped (Flags : UInt32) (group : Int32) : Prerequisites (bareMgr [1, 2, 3] Flags) where
  prevQuests q := if q = 3 then [-1] else []
  ExclusiveGroup q := if q = 1 ∨ q = 2 then group else 0
  mExclusiveQuestGroups g := if g = group ∧ g ≠ 0 then [1, 2] else []
  prev_known := by
    intro q e hm
    split at hm
    · rw [List.mem_singleton.mp hm]
      rfl
    · cases hm
  mem_group := by
    intro g q
    by_cases member : q = 1 ∨ q = 2
    · have known : ((bareMgr [1, 2, 3] Flags).GetQuestTemplate q).isSome := by
        rcases member with rfl | rfl <;> rfl
      have listed : q ∈ [1, 2] := by simpa using member
      rw [if_pos member]
      split
      case isTrue same => exact iff_of_true listed ⟨same.2, known, same.1.symm⟩
      case isFalse other =>
        exact iff_of_false List.not_mem_nil fun all => other ⟨all.2.2.symm, all.1⟩
    · have unlisted : q ∉ [1, 2] := by simpa using member
      rw [if_neg member]
      refine iff_of_false ?_ fun all => all.1 all.2.2.symm
      split
      · exact unlisted
      · exact List.not_mem_nil

/-- Quest 3 is refused although quest 1 and the whole group are active; and quest 2 can be taken
though quest 1, an ordinary daily quest of its group, was done on the same day. -/
theorem group_state_inverted :
    let active : Player := { Player.blank with
      m_QuestStatus := (AList.insert 1 { Status := .incomplete } ∅).insert 2 { Status := .incomplete } }
    let today : Career :=
      Lib.run (Career.step (bareMgr [1, 2, 3] QUEST_FLAGS_DAILY))
        (Career.start (bareMgr [1, 2, 3] QUEST_FLAGS_DAILY) 0 .blank) Career.doIt
    (Player.SatisfyQuestPreviousQuest (grouped 0 (-1)) active 3 = false ∧
        Player.Holds (grouped 0 (-1)) active (-1)) ∧
      ¬ Player.Excluded (grouped QUEST_FLAGS_DAILY 1) today (bareQuest QUEST_FLAGS_DAILY 2) := by
  intro active today
  refine ⟨⟨by decide +kernel, by decide +kernel, fun _ => by decide +kernel⟩, fun excluded => ?_⟩
  have done : Player.DoneInPeriod (bareMgr [1, 2, 3] QUEST_FLAGS_DAILY) today
      (bareQuest QUEST_FLAGS_DAILY 1) := ⟨.daily, by decide +kernel, by decide +kernel⟩
  have refused := excluded (bareQuest QUEST_FLAGS_DAILY 1)
    ⟨by decide +kernel, by decide +kernel, by decide +kernel, rfl⟩ (Or.inr (Or.inr done))
  revert refused
  decide +kernel

end WorldServer.Quests
