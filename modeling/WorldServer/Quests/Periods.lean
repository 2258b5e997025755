import WorldServer.Lib.Run
import WorldServer.Quests.StatusRows

/-!
# What is done once in a period

A quest of a period is marked in the set of the period when it is rewarded, and the checks read the
set. A daily quest is marked nowhere, since the fields that held the mark are gone, and a quest of
two periods is marked in one of them. The marks are written at the next save.
-/
namespace WorldServer.Quests

open WorldServer.Lib

inductive Period where
  | daily
  | weekly
  | monthly
  | seasonal (event_id : UInt16)
deriving DecidableEq

/-- The requests of a player, and what happens to him and to the world -/
inductive Request where
  | accept (quest_id limittime : UInt32) (other : Bool)
  | complete (quest_id : UInt32) (other : Bool)
  | reward (quest_id : UInt32) (other fits : Bool)
  | abandon (slot : Fin MAX_QUEST_LOG_SIZE)
  /-- Counters, items, money and reputation are at any values afterwards. -/
  | progress (counters : Table UInt32 UInt32) (has : Possessions)
  | save
  | reload
  | reset (period : Period)

structure Action where
  gameTime : UInt32
  request : Request

namespace ObjectMgr

variable (mgr : ObjectMgr)

def InPeriod (quest : Quest) : Period → Prop
  | .daily => quest.IsDaily ∨ quest.IsDFQuest
  | .weekly => quest.IsWeekly
  | .monthly => quest.IsMonthly
  | .seasonal event_id => quest.IsSeasonal ∧ mgr.GetEventIdForQuest quest.Id = event_id

instance (quest : Quest) : DecidablePred (mgr.InPeriod quest)
  | .daily => inferInstanceAs (Decidable (_ ∨ _))
  | .weekly => inferInstanceAs (Decidable (_ = _))
  | .monthly => inferInstanceAs (Decidable (_ = _))
  | .seasonal _ => inferInstanceAs (Decidable (_ ∧ _))

end ObjectMgr

namespace Player

variable (mgr : ObjectMgr) (p : Player)

def ResetPeriod : Period → Player
  | .daily => p.ResetDailyQuests
  | .weekly => p.ResetWeeklyQuests
  | .monthly => p.ResetMonthlyQuests
  | .seasonal event_id => p.ResetEventSeasonalQuests event_id

/-- A request to be rewarded is let through by one of the two checks. -/
def step (a : Action) : Player :=
  match a.request with
  | .accept quest_id limittime other =>
    match mgr.GetQuestTemplate quest_id with
    | some quest => if p.CanTakeQuest mgr quest other then p.AddQuest quest limittime else p
    | none => p
  | .complete quest_id other =>
    if p.CanCompleteQuest mgr quest_id other then p.CompleteQuest mgr quest_id a.gameTime else p
  | .reward quest_id other fits =>
    match mgr.GetQuestTemplate quest_id with
    | some quest =>
      if p.CanTakeQuest mgr quest other || p.CanRewardQuest mgr quest fits then
        p.RewardQuest mgr quest a.gameTime
      else p
    | none => p
  | .abandon slot => p.HandleQuestLogRemoveQuest slot
  | .progress counters has => { p with m_questObjectiveStatus := counters, has := has }
  | .save => p.SaveToDB mgr a.gameTime
  | .reload => p.load mgr a.gameTime
  | .reset period => p.ResetPeriod period

def rewards (a : Action) : Option Quest :=
  match a.request with
  | .complete quest_id other =>
    if p.CanCompleteQuest mgr quest_id other then
      (mgr.GetQuestTemplate quest_id).filter fun quest => quest.HasFlag QUEST_FLAGS_TRACKING
    else none
  | .reward quest_id other fits =>
    (mgr.GetQuestTemplate quest_id).filter fun quest =>
      p.CanTakeQuest mgr quest other || p.CanRewardQuest mgr quest fits
  | _ => none

end Player

/-- A player, and the quests rewarded to him since the last reset of each period -/
structure Career where
  player : Player
  done : Period → Finset UInt32

namespace Career

variable (mgr : ObjectMgr) (c : Career)

def doneAfter (a : Action) (period : Period) : Finset UInt32 :=
  match a.request with
  | .reset event => if event = period then ∅ else c.done period
  | _ =>
    match c.player.rewards mgr a with
    | some quest =>
      if mgr.InPeriod quest period then insert quest.Id (c.done period) else c.done period
    | none => c.done period

def step (a : Action) : Career := ⟨c.player.step mgr a, c.doneAfter mgr a⟩

def start (gameTime : UInt32) (p : Player) : Career := ⟨p.load mgr gameTime, fun _ => ∅⟩

def Once (a : Action) : Prop :=
  ∀ quest, c.player.rewards mgr a = some quest → ∀ period, mgr.InPeriod quest period →
    quest.Id ∉ c.done period

/-- Marks are made for every period of the quest that is rewarded, and are saved before the player
comes back. -/
structure Recorded (a : Action) : Prop where
  daily : ∀ quest, c.player.rewards mgr a = some quest → quest.IsDaily = true → quest.IsDFQuest = true
  weekly : ∀ quest, c.player.rewards mgr a = some quest → quest.IsWeekly = true →
    quest.IsDFQuest = false
  monthly : ∀ quest, c.player.rewards mgr a = some quest → quest.IsMonthly = true →
    quest.IsDFQuest = false ∧ quest.IsWeekly = false
  saved : a.request = .reload → c.player.m_DailyQuestChanged = false ∧
    c.player.m_WeeklyQuestChanged = false ∧ c.player.m_MonthlyQuestChanged = false

end Career

namespace Player

variable {mgr : ObjectMgr} {p : Player} {gameTime : UInt32}

/-! ### What is kept in the rows -/

/-- Every row that is read at the next login is that of an active quest, or is marked to be deleted;
and every set is in the rows where it is not marked for the save. -/
structure Stored (mgr : ObjectMgr) (p : Player) : Prop where
  pending : ∀ q row, p.rows.status.lookup q = some row → row.status ≠ .none →
    (mgr.GetQuestTemplate q).isSome →
    (p.m_QuestStatus.lookup q).isSome ∨ p.m_QuestStatusSave.lookup q = some false
  rewardedMarks : ∀ q b, p.m_RewardedQuestsSave.lookup q = some b → b = true
  rewarded : ∀ q ∈ p.m_RewardedQuests, q ∈ p.rows.rewarded ∨ (p.m_RewardedQuestsSave.lookup q).isSome
  daily : p.m_DailyQuestChanged = false → p.m_DFQuests ⊆ p.rows.daily
  weekly : p.m_WeeklyQuestChanged = false → p.m_weeklyquests ⊆ p.rows.weekly
  monthly : p.m_MonthlyQuestChanged = false → p.m_monthlyquests ⊆ p.rows.monthly

/-- No quest of this id is active, now or after the next login. -/
structure Gone (mgr : ObjectMgr) (p : Player) (q : UInt32) : Prop where
  inactive : p.m_QuestStatus.lookup q = none
  row : ∀ row, p.rows.status.lookup q = some row → (mgr.GetQuestTemplate q).isSome →
    row.status = .none

/-- The quest is in the set that is read for the period. A seasonal quest is not repeatable, and the
set of the rewarded quests is enough. -/
def Marked (p : Player) (quest : Quest) : Period → Prop
  | .daily => quest.IsDFQuest = true ∧ quest.Id ∈ p.m_DFQuests
  | .weekly => quest.IsWeekly = true ∧ quest.Id ∈ p.m_weeklyquests
  | .monthly => quest.IsMonthly = true ∧ quest.Id ∈ p.m_monthlyquests
  | .seasonal _ => quest.IsSeasonal = true ∧ quest.Id ∈ p.m_RewardedQuests

section Refused

variable {quest : Quest} {period : Period}

lemma not_repeatable_of_seasonal (seasonal : quest.IsSeasonal = true) :
    quest.IsRepeatable = false := by
  rw [Quest.IsSeasonal, Bool.and_eq_true, Bool.not_eq_true'] at seasonal
  exact seasonal.2

lemma not_satisfied (marked : p.Marked quest period) :
    (p.SatisfyQuestDay quest && p.SatisfyQuestWeek quest && p.SatisfyQuestMonth quest) = false ∨
      quest.IsSeasonal = true ∧ quest.Id ∈ p.m_RewardedQuests := by
  cases period with
  | daily =>
    obtain ⟨dungeon, member⟩ := marked
    have done : p.m_DFQuests ≠ ∅ := Finset.ne_empty_of_mem member
    have day : p.SatisfyQuestDay quest = false := by simp [SatisfyQuestDay, dungeon, done]
    simp [day]
  | weekly =>
    obtain ⟨weekly, member⟩ := marked
    have done : p.m_weeklyquests ≠ ∅ := Finset.ne_empty_of_mem member
    have week : p.SatisfyQuestWeek quest = false := by
      simp [SatisfyQuestWeek, weekly, done, member]
    simp [week]
  | monthly =>
    obtain ⟨monthly, member⟩ := marked
    have done : p.m_monthlyquests ≠ ∅ := Finset.ne_empty_of_mem member
    have month : p.SatisfyQuestMonth quest = false := by
      simp [SatisfyQuestMonth, monthly, done, member]
    simp [month]
  | seasonal event_id => exact .inr marked

section

variable (found : mgr.GetQuestTemplate quest.Id = some quest)
include found

lemma not_canTake (inactive : p.m_QuestStatus.lookup quest.Id = none)
    (marked : p.Marked quest period) (other : Bool) : p.CanTakeQuest mgr quest other = false := by
  rcases not_satisfied marked with unsatisfied | ⟨seasonal, member⟩
  · rw [CanTakeQuest, Bool.and_assoc, Bool.and_assoc]
    simp only [Bool.and_eq_false_iff] at unsatisfied ⊢
    tauto
  · have once := not_repeatable_of_seasonal seasonal
    have named := (mgr.named quest.Id quest found).2
    have status : p.SatisfyQuestStatus mgr quest = false := by
      simp [SatisfyQuestStatus, GetQuestStatus, named, inactive, found, once, member]
    simp [CanTakeQuest, status]

lemma not_canReward (marked : p.Marked quest period) (fits : Bool) :
    p.CanRewardQuest mgr quest fits = false := by
  rw [CanRewardQuest]
  split
  next => rfl
  next =>
    split
    next => rfl
    next satisfied =>
      rcases not_satisfied marked with unsatisfied | ⟨seasonal, member⟩
      · simp only [Bool.or_eq_true, Bool.not_eq_true', not_or] at satisfied
        simp only [Bool.and_eq_false_iff] at unsatisfied
        tauto
      · have once := not_repeatable_of_seasonal seasonal
        have status : p.GetQuestRewardStatus mgr quest.Id = true := by
          simp [GetQuestRewardStatus, found, once, member]
        simp [status]

lemma not_canComplete (inactive : p.m_QuestStatus.lookup quest.Id = none)
    (marked : p.Marked quest period) (other : Bool) :
    p.CanCompleteQuest mgr quest.Id other = false := by
  have take := not_canTake found inactive marked other
  simp [CanCompleteQuest, found, take, inactive]

end

end Refused

/-! ### Steps that write no mark -/

/-- The status of one quest is changed, and it is marked for the save; nothing else is. -/
structure Touches (quest_id : UInt32) (p p' : Player) : Prop where
  others : ∀ q, q ≠ quest_id → p'.m_QuestStatus.lookup q = p.m_QuestStatus.lookup q ∧
    p'.m_QuestStatusSave.lookup q = p.m_QuestStatusSave.lookup q
  own : (p'.m_QuestStatus.lookup quest_id).isSome ∨
    p'.m_QuestStatusSave.lookup quest_id = some false ∨
    p'.m_QuestStatus.lookup quest_id = p.m_QuestStatus.lookup quest_id ∧
      p'.m_QuestStatusSave.lookup quest_id = p.m_QuestStatusSave.lookup quest_id
  rewarded : p'.m_RewardedQuests = p.m_RewardedQuests
  rewardedMarks : p'.m_RewardedQuestsSave = p.m_RewardedQuestsSave
  daily : p'.m_DFQuests = p.m_DFQuests ∧ p'.m_DailyQuestChanged = p.m_DailyQuestChanged
  weekly : p'.m_weeklyquests = p.m_weeklyquests ∧ p'.m_WeeklyQuestChanged = p.m_WeeklyQuestChanged
  monthly : p'.m_monthlyquests = p.m_monthlyquests ∧ p'.m_MonthlyQuestChanged = p.m_MonthlyQuestChanged
  rows : p'.rows = p.rows

section Touches

variable {p' : Player} {quest_id : UInt32}

lemma Touches.refl (quest_id : UInt32) (p : Player) : Touches quest_id p p where
  others _ _ := ⟨rfl, rfl⟩
  own := .inr (.inr ⟨rfl, rfl⟩)
  rewarded := rfl
  rewardedMarks := rfl
  daily := ⟨rfl, rfl⟩
  weekly := ⟨rfl, rfl⟩
  monthly := ⟨rfl, rfl⟩
  rows := rfl

lemma touches_insert (data : QuestStatusData) : Touches quest_id p
    { p with
      m_QuestStatus := p.m_QuestStatus.insert quest_id data
      m_QuestStatusSave := p.m_QuestStatusSave.insert quest_id true } := by
  refine ⟨?_, ?_, rfl, rfl, ⟨rfl, rfl⟩, ⟨rfl, rfl⟩, ⟨rfl, rfl⟩, rfl⟩
  · intro q other
    exact ⟨AList.lookup_insert_ne other, AList.lookup_insert_ne other⟩
  · left
    rw [AList.lookup_insert]
    rfl

lemma touches_addQuest (quest : Quest) (limittime : UInt32) :
    Touches quest.Id p (p.AddQuest quest limittime) := by
  rw [AddQuest]
  split
  next => exact .refl quest.Id p
  next => exact { touches_insert _ with }

lemma touches_setQuestStatus (status : QuestStatus) :
    Touches quest_id p (p.SetQuestStatus mgr quest_id status) := by
  rw [SetQuestStatus]
  split
  next => exact touches_insert _
  next => exact .refl quest_id p

lemma touches_removeActiveQuest : Touches quest_id p (p.RemoveActiveQuest quest_id) := by
  rw [RemoveActiveQuest]
  split
  next =>
    refine ⟨?_, ?_, rfl, rfl, ⟨rfl, rfl⟩, ⟨rfl, rfl⟩, ⟨rfl, rfl⟩, rfl⟩
    · intro q other
      exact ⟨AList.lookup_erase_ne other, AList.lookup_insert_ne other⟩
    · right; left
      rw [AList.lookup_insert]
  next => exact .refl quest_id p

lemma Stored.touch (h : Stored mgr p) (touches : Touches quest_id p p') : Stored mgr p' where
  pending q row found loadable known := by
    rw [touches.rows] at found
    have before := h.pending q row found loadable known
    by_cases own : q = quest_id
    · subst own
      rcases touches.own with active | marked | ⟨status, save⟩
      · exact .inl active
      · exact .inr marked
      · rw [status, save]
        exact before
    · rw [(touches.others q own).1, (touches.others q own).2]
      exact before
  rewardedMarks := by rw [touches.rewardedMarks]; exact h.rewardedMarks
  rewarded := by rw [touches.rewarded, touches.rows, touches.rewardedMarks]; exact h.rewarded
  daily := by rw [touches.daily.1, touches.daily.2, touches.rows]; exact h.daily
  weekly := by rw [touches.weekly.1, touches.weekly.2, touches.rows]; exact h.weekly
  monthly := by rw [touches.monthly.1, touches.monthly.2, touches.rows]; exact h.monthly

lemma Gone.touch {q : UInt32} (h : Gone mgr p q) (touches : Touches quest_id p p')
    (other : q ≠ quest_id) : Gone mgr p' q where
  inactive := by rw [(touches.others q other).1]; exact h.inactive
  row := by rw [touches.rows]; exact h.row

lemma Marked.touch {quest : Quest} {period : Period} (h : p.Marked quest period)
    (touches : Touches quest_id p p') : p'.Marked quest period := by
  cases period with
  | daily => exact ⟨h.1, by rw [touches.daily.1]; exact h.2⟩
  | weekly => exact ⟨h.1, by rw [touches.weekly.1]; exact h.2⟩
  | monthly => exact ⟨h.1, by rw [touches.monthly.1]; exact h.2⟩
  | seasonal => exact ⟨h.1, by rw [touches.rewarded]; exact h.2⟩

end Touches

/-! ### Saves -/

lemma Stored.saveStatus (h : Stored mgr p) : Stored mgr (p._SaveQuestStatus mgr gameTime) where
  pending q row found loadable known := by
    cases inactive : p.m_QuestStatus.lookup q with
    | some data =>
      left
      change (p.m_QuestStatus.lookup q).isSome = true
      rw [inactive]
      rfl
    | none =>
      rw [lookup_saved_status_of_inactive inactive] at found
      split at found
      next => cases found
      next =>
        rcases h.pending q row found loadable known with active | marked
        · rw [inactive] at active
          cases active
        · exact .inr marked
  rewardedMarks _ _ found := by cases found
  rewarded := by
    intro q member
    left
    exact (mem_saveRewarded h.rewardedMarks _ q).mpr (h.rewarded q member)
  daily := h.daily
  weekly := h.weekly
  monthly := h.monthly

lemma Gone.saveStatus {q : UInt32} (h : Gone mgr p q) :
    Gone mgr (p._SaveQuestStatus mgr gameTime) q where
  inactive := h.inactive
  row row found known := by
    rw [lookup_saved_status_of_inactive h.inactive] at found
    split at found
    next => cases found
    next => exact h.row row found known

section

variable (h : Stored mgr p)
include h

lemma Stored.saveObjectives :
    Stored mgr ((p._SaveQuestStatus mgr gameTime)._SaveQuestObjectiveStatus mgr) where
  pending q row found loadable known := by
    left
    rcases h.saveStatus.pending q row found loadable known with active | marked
    · exact active
    · change p.m_QuestStatusSave.lookup q = some false at marked
      cases inactive : p.m_QuestStatus.lookup q with
      | some data =>
        change (p.m_QuestStatus.lookup q).isSome = true
        rw [inactive]
        rfl
      | none =>
        change (p._SaveQuestStatus mgr gameTime).rows.status.lookup q = some row at found
        rw [lookup_saved_status_of_inactive inactive, if_pos marked] at found
        cases found
  rewardedMarks _ _ found := by cases found
  rewarded := by
    have saved : Stored mgr (p._SaveQuestStatus mgr gameTime) := h.saveStatus
    exact saved.rewarded
  daily := h.daily
  weekly := h.weekly
  monthly := h.monthly

lemma Stored.saveDaily : Stored mgr p._SaveDailyQuestStatus := by
  rw [_SaveDailyQuestStatus]
  split
  next => exact h
  next => exact { h with daily := fun _ => Finset.Subset.refl _ }

lemma Stored.saveWeekly : Stored mgr p._SaveWeeklyQuestStatus := by
  rw [_SaveWeeklyQuestStatus]
  split
  next => exact h
  next => exact { h with weekly := fun _ => Finset.Subset.refl _ }

lemma Stored.saveMonthly : Stored mgr p._SaveMonthlyQuestStatus := by
  rw [_SaveMonthlyQuestStatus]
  split
  next => exact h
  next => exact { h with monthly := fun _ => Finset.Subset.refl _ }

lemma Stored.saveSeasonal : Stored mgr p._SaveSeasonalQuestStatus := by
  rw [_SaveSeasonalQuestStatus]
  split
  next => exact h
  next => exact { h with }

lemma Stored.saveToDB : Stored mgr (p.SaveToDB mgr gameTime) := by
  exact h.saveObjectives.saveDaily.saveWeekly.saveSeasonal.saveMonthly

end

/-- What a save leaves as it was -/
structure Untouched (p p' : Player) : Prop where
  status : p'.m_QuestStatus = p.m_QuestStatus
  rows : p'.rows.status = p.rows.status
  rewarded : p'.m_RewardedQuests = p.m_RewardedQuests
  rewardedMarks : p'.m_RewardedQuestsSave = p.m_RewardedQuestsSave
  daily : p'.m_DFQuests = p.m_DFQuests
  weekly : p'.m_weeklyquests = p.m_weeklyquests
  monthly : p'.m_monthlyquests = p.m_monthlyquests

lemma untouched_saveToDB :
    Untouched (p._SaveQuestStatus mgr gameTime) (p.SaveToDB mgr gameTime) := by
  rw [SaveToDB, _SaveMonthlyQuestStatus, _SaveSeasonalQuestStatus, _SaveWeeklyQuestStatus,
    _SaveDailyQuestStatus]
  split_ifs <;> exact ⟨rfl, rfl, rfl, rfl, rfl, rfl, rfl⟩

lemma Gone.untouched {q : UInt32} {p' : Player} (h : Gone mgr p q) (same : Untouched p p') :
    Gone mgr p' q where
  inactive := by rw [same.status]; exact h.inactive
  row := by rw [same.rows]; exact h.row

lemma Marked.untouched {quest : Quest} {period : Period} {p' : Player}
    (h : p.Marked quest period) (same : Untouched p p') : p'.Marked quest period := by
  cases period with
  | daily => exact ⟨h.1, by rw [same.daily]; exact h.2⟩
  | weekly => exact ⟨h.1, by rw [same.weekly]; exact h.2⟩
  | monthly => exact ⟨h.1, by rw [same.monthly]; exact h.2⟩
  | seasonal => exact ⟨h.1, by rw [same.rewarded]; exact h.2⟩

/-! ### Rewards -/

structure Grows (p p' : Player) : Prop where
  status : p'.m_QuestStatus = p.m_QuestStatus ∧ p'.m_QuestStatusSave = p.m_QuestStatusSave
  rewarded : p'.m_RewardedQuests = p.m_RewardedQuests
  rewardedMarks : p'.m_RewardedQuestsSave = p.m_RewardedQuestsSave
  rows : p'.rows = p.rows
  daily : p'.m_DFQuests = p.m_DFQuests ∧ p'.m_DailyQuestChanged = p.m_DailyQuestChanged ∨
    p.m_DFQuests ⊆ p'.m_DFQuests ∧ p'.m_DailyQuestChanged = true
  weekly : p'.m_weeklyquests = p.m_weeklyquests ∧ p'.m_WeeklyQuestChanged = p.m_WeeklyQuestChanged ∨
    p.m_weeklyquests ⊆ p'.m_weeklyquests ∧ p'.m_WeeklyQuestChanged = true
  monthly : p'.m_monthlyquests = p.m_monthlyquests ∧ p'.m_MonthlyQuestChanged = p.m_MonthlyQuestChanged ∨
    p.m_monthlyquests ⊆ p'.m_monthlyquests ∧ p'.m_MonthlyQuestChanged = true

lemma Grows.refl (p : Player) : Grows p p where
  status := ⟨rfl, rfl⟩
  rewarded := rfl
  rewardedMarks := rfl
  rows := rfl
  daily := .inl ⟨rfl, rfl⟩
  weekly := .inl ⟨rfl, rfl⟩
  monthly := .inl ⟨rfl, rfl⟩

lemma grows_setPeriodStatus (quest : Quest) : Grows p (p.setPeriodStatus mgr quest) := by
  have same := Grows.refl p
  rw [setPeriodStatus]
  split
  next =>
    rw [SetDailyQuestStatus]
    split
    next => exact same
    next =>
      split
      next => exact same
      next => exact { same with daily := .inr ⟨Finset.subset_insert _ _, rfl⟩ }
  next =>
    split
    next => exact { same with weekly := .inr ⟨Finset.subset_insert _ _, rfl⟩ }
    next =>
      split
      next => exact { same with monthly := .inr ⟨Finset.subset_insert _ _, rfl⟩ }
      next =>
        split
        next =>
          rw [SetSeasonalQuestStatus]
          split
          next => exact { same with }
          next => exact same
        next => exact same

section Grows

variable {p' : Player}

lemma Stored.grow (h : Stored mgr p) (grows : Grows p p') : Stored mgr p' where
  pending := by rw [grows.status.1, grows.status.2, grows.rows]; exact h.pending
  rewardedMarks := by rw [grows.rewardedMarks]; exact h.rewardedMarks
  rewarded := by rw [grows.rewarded, grows.rows, grows.rewardedMarks]; exact h.rewarded
  daily unchanged := by
    rcases grows.daily with ⟨set, mark⟩ | ⟨_, mark⟩
    · rw [set, grows.rows]
      exact h.daily (mark ▸ unchanged)
    · rw [mark] at unchanged
      cases unchanged
  weekly unchanged := by
    rcases grows.weekly with ⟨set, mark⟩ | ⟨_, mark⟩
    · rw [set, grows.rows]
      exact h.weekly (mark ▸ unchanged)
    · rw [mark] at unchanged
      cases unchanged
  monthly unchanged := by
    rcases grows.monthly with ⟨set, mark⟩ | ⟨_, mark⟩
    · rw [set, grows.rows]
      exact h.monthly (mark ▸ unchanged)
    · rw [mark] at unchanged
      cases unchanged

lemma Gone.grow {q : UInt32} (h : Gone mgr p q) (grows : Grows p p') : Gone mgr p' q where
  inactive := by rw [grows.status.1]; exact h.inactive
  row := by rw [grows.rows]; exact h.row

lemma subset_of_grown {s s' : Finset UInt32} {b b' : Bool}
    (grown : s' = s ∧ b' = b ∨ s ⊆ s' ∧ b' = true) : s ⊆ s' := by
  rcases grown with ⟨rfl, _⟩ | ⟨subset, _⟩
  · exact Finset.Subset.refl _
  · exact subset

lemma Marked.grow {quest : Quest} {period : Period} (h : p.Marked quest period)
    (grows : Grows p p') : p'.Marked quest period := by
  cases period with
  | daily => exact ⟨h.1, subset_of_grown grows.daily h.2⟩
  | weekly => exact ⟨h.1, subset_of_grown grows.weekly h.2⟩
  | monthly => exact ⟨h.1, subset_of_grown grows.monthly h.2⟩
  | seasonal => exact ⟨h.1, by rw [grows.rewarded]; exact h.2⟩

end Grows

def beforeSave (mgr : ObjectMgr) (p : Player) (quest : Quest) : Player :=
  ((p.clearSlot quest.Id).setPeriodStatus mgr quest).RemoveActiveQuest quest.Id

lemma rewardQuest_eq (quest : Quest) : p.RewardQuest mgr quest gameTime =
    ((p.beforeSave mgr quest).markRewarded quest.Id)._SaveQuestStatus mgr gameTime := rfl

lemma beforeSave_steps (mgr : ObjectMgr) (p : Player) (quest : Quest) :
    ∃ p₁ p₂, Touches quest.Id p p₁ ∧ Grows p₁ p₂ ∧ p₂ = p₁.setPeriodStatus mgr quest ∧
      Touches quest.Id p₂ (p.beforeSave mgr quest) ∧
      p.beforeSave mgr quest = p₂.RemoveActiveQuest quest.Id := by
  refine ⟨p.clearSlot quest.Id, _, ?_, grows_setPeriodStatus quest, rfl,
    touches_removeActiveQuest, rfl⟩
  rw [clearSlot]
  split
  next => exact { Touches.refl quest.Id p with }
  next => exact .refl quest.Id p

lemma Stored.beforeSave (h : Stored mgr p) (quest : Quest) :
    Stored mgr (p.beforeSave mgr quest) := by
  obtain ⟨p₁, p₂, slot, grows, _, remove, _⟩ := beforeSave_steps mgr p quest
  exact ((h.touch slot).grow grows).touch remove

lemma Stored.reward (h : Stored mgr p) (quest : Quest) :
    Stored mgr (p.RewardQuest mgr quest gameTime) := by
  have before := h.beforeSave quest
  apply Stored.saveStatus
  refine { before with rewardedMarks := ?_, rewarded := ?_ }
  · intro q b found
    rcases (Table.lookup_insert_iff _ _ _ _ _).mp found with ⟨_, rfl⟩ | ⟨_, found⟩
    · rfl
    · exact before.rewardedMarks q b found
  · intro q member
    change q ∈ insert quest.Id (p.beforeSave mgr quest).m_RewardedQuests at member
    change _ ∨ (((p.beforeSave mgr quest).m_RewardedQuestsSave.insert quest.Id true).lookup q).isSome
    by_cases own : q = quest.Id
    · right
      rw [own, AList.lookup_insert]
      rfl
    · rw [AList.lookup_insert_ne own]
      exact before.rewarded q (Finset.mem_of_mem_insert_of_ne member own)

/-- The quest that is rewarded is not active afterwards, and its row is deleted at once. -/
lemma gone_reward (h : Stored mgr p) (quest : Quest) :
    Gone mgr (p.RewardQuest mgr quest gameTime) quest.Id := by
  obtain ⟨p₁, p₂, slot, grows, _, _, removed⟩ := beforeSave_steps mgr p quest
  have inactive : (p.beforeSave mgr quest).m_QuestStatus.lookup quest.Id = none := by
    rw [removed, RemoveActiveQuest]
    split
    next => exact AList.lookup_erase _ _
    next absent => simpa using absent
  rw [rewardQuest_eq]
  refine ⟨inactive, ?_⟩
  intro row found known
  have atMark : ((p.beforeSave mgr quest).markRewarded quest.Id).m_QuestStatus.lookup quest.Id =
      none := inactive
  rw [lookup_saved_status_of_inactive atMark] at found
  split at found
  next => cases found
  next kept =>
    by_contra loadable
    change (p.beforeSave mgr quest).m_QuestStatusSave.lookup quest.Id ≠ some false at kept
    change (p.beforeSave mgr quest).rows.status.lookup quest.Id = some row at found
    rcases (h.beforeSave quest).pending quest.Id row found loadable known with active | marked
    · rw [inactive] at active
      cases active
    · exact kept marked

lemma Gone.reward {q : UInt32} (h : Gone mgr p q) {quest : Quest} (other : q ≠ quest.Id) :
    Gone mgr (p.RewardQuest mgr quest gameTime) q := by
  obtain ⟨p₁, p₂, slot, grows, _, remove, _⟩ := beforeSave_steps mgr p quest
  have before := ((h.touch slot other).grow grows).touch remove other
  apply Gone.saveStatus
  exact { before with }

lemma Marked.saved {quest' : Quest} {period : Period} {quest : Quest}
    (before : (p.beforeSave mgr quest).Marked quest' period) :
    (p.RewardQuest mgr quest gameTime).Marked quest' period := by
  cases period with
  | daily => exact before
  | weekly => exact before
  | monthly => exact before
  | seasonal event_id => exact ⟨before.1, Finset.mem_insert_of_mem before.2⟩

lemma Marked.reward {quest' : Quest} {period : Period} (h : p.Marked quest' period)
    (quest : Quest) : (p.RewardQuest mgr quest gameTime).Marked quest' period := by
  obtain ⟨p₁, p₂, slot, grows, _, remove, _⟩ := beforeSave_steps mgr p quest
  exact (((h.touch slot).grow grows).touch remove).saved

lemma marked_reward {quest : Quest} {period : Period}
    (found : mgr.GetQuestTemplate quest.Id = some quest) (inPeriod : mgr.InPeriod quest period)
    (daily : quest.IsDaily = true → quest.IsDFQuest = true)
    (weekly : quest.IsWeekly = true → quest.IsDFQuest = false)
    (monthly : quest.IsMonthly = true → quest.IsDFQuest = false ∧ quest.IsWeekly = false) :
    (p.RewardQuest mgr quest gameTime).Marked quest period := by
  obtain ⟨p₁, p₂, _, _, set, remove, _⟩ := beforeSave_steps mgr p quest
  have kept : ∀ period, p₂.Marked quest period → (p.RewardQuest mgr quest gameTime).Marked quest period := by
    intro period marked
    exact (marked.touch remove).saved
  have notDaily : quest.IsDFQuest = false → quest.IsDaily = false := by
    intro notDungeon
    by_contra isDaily
    rw [daily (by simpa using isDaily)] at notDungeon
    cases notDungeon
  cases period with
  | daily =>
    have dungeon : quest.IsDFQuest = true := by
      rcases inPeriod with isDaily | dungeon
      · exact daily isDaily
      · exact dungeon
    apply kept
    rw [set, setPeriodStatus, if_pos (by simp [dungeon]), SetDailyQuestStatus, found]
    simp only [dungeon, Bool.not_true, Bool.false_eq_true, if_false]
    exact ⟨dungeon, Finset.mem_insert_self _ _⟩
  | weekly =>
    have isWeekly : quest.IsWeekly = true := inPeriod
    have notDungeon := weekly isWeekly
    apply kept
    rw [set, setPeriodStatus, if_neg (by simp [notDungeon, notDaily notDungeon]), if_pos isWeekly]
    exact ⟨isWeekly, Finset.mem_insert_self _ _⟩
  | monthly =>
    have isMonthly : quest.IsMonthly = true := inPeriod
    obtain ⟨notDungeon, notWeekly⟩ := monthly isMonthly
    apply kept
    rw [set, setPeriodStatus, if_neg (by simp [notDungeon, notDaily notDungeon]),
      if_neg (by simp [notWeekly]), if_pos isMonthly]
    exact ⟨isMonthly, Finset.mem_insert_self _ _⟩
  | seasonal event_id =>
    exact ⟨inPeriod.1, Finset.mem_insert_self _ _⟩

/-! ### Logins and resets -/

lemma stored_load (p : Player) : Stored mgr (p.load mgr gameTime) where
  pending q row found loadable known := by
    left
    obtain ⟨quest, template⟩ := Option.isSome_iff_exists.mp known
    change ((p.loadedStatus mgr gameTime).lookup q).isSome = true
    change p.rows.status.lookup q = some row at found
    rw [loadedStatus, Table.lookup_filterMap, found]
    simp [loadable, template]
  rewardedMarks _ _ found := by cases found
  rewarded _ member := .inl member
  daily _ := Finset.filter_subset _ _
  weekly _ := Finset.filter_subset _ _
  monthly _ := Finset.filter_subset _ _

lemma Gone.load {q : UInt32} (h : Gone mgr p q) : Gone mgr (p.load mgr gameTime) q where
  inactive := by
    change (p.loadedStatus mgr gameTime).lookup q = none
    rw [loadedStatus, Table.lookup_filterMap]
    cases found : p.rows.status.lookup q with
    | none => rfl
    | some row =>
      cases template : mgr.GetQuestTemplate q with
      | none => simp
      | some quest =>
        have none := h.row row found (by rw [template]; rfl)
        simp [none]
  row := h.row

lemma Marked.load {quest : Quest} {period : Period} (h : p.Marked quest period)
    (stored : Stored mgr p) (found : mgr.GetQuestTemplate quest.Id = some quest)
    (unmarked : p.m_RewardedQuestsSave = ∅) (daily : p.m_DailyQuestChanged = false)
    (weekly : p.m_WeeklyQuestChanged = false) (monthly : p.m_MonthlyQuestChanged = false) :
    (p.load mgr gameTime).Marked quest period := by
  cases period with
  | daily =>
    refine ⟨h.1, Finset.mem_filter.mpr ⟨stored.daily daily h.2, ?_⟩⟩
    rw [found]
    exact h.1
  | weekly =>
    refine ⟨h.1, Finset.mem_filter.mpr ⟨stored.weekly weekly h.2, ?_⟩⟩
    rw [found]
    rfl
  | monthly =>
    refine ⟨h.1, Finset.mem_filter.mpr ⟨stored.monthly monthly h.2, ?_⟩⟩
    rw [found]
    rfl
  | seasonal event_id =>
    rcases stored.rewarded quest.Id h.2 with kept | marked
    · exact ⟨h.1, kept⟩
    · rw [unmarked] at marked
      cases marked

lemma Stored.reset (h : Stored mgr p) (period : Period) : Stored mgr (p.ResetPeriod period) := by
  cases period with
  | daily => exact { h with daily := fun _ => Finset.empty_subset _ }
  | weekly =>
    rw [ResetPeriod, ResetWeeklyQuests]
    split
    next empty =>
      refine { h with weekly := fun _ => ?_ }
      rw [empty]
    next => exact { h with weekly := fun _ => Finset.empty_subset _ }
  | monthly =>
    rw [ResetPeriod, ResetMonthlyQuests]
    split
    next empty =>
      refine { h with monthly := fun _ => ?_ }
      rw [empty]
    next => exact { h with monthly := fun _ => Finset.empty_subset _ }
  | seasonal event_id =>
    rw [ResetPeriod, ResetEventSeasonalQuests]
    split
    next => exact { h with }
    next => exact { h with }

lemma Gone.reset {q : UInt32} (h : Gone mgr p q) (period : Period) :
    Gone mgr (p.ResetPeriod period) q := by
  cases period with
  | daily => exact { h with }
  | weekly =>
    rw [ResetPeriod, ResetWeeklyQuests]
    split <;> exact { h with }
  | monthly =>
    rw [ResetPeriod, ResetMonthlyQuests]
    split <;> exact { h with }
  | seasonal event_id =>
    rw [ResetPeriod, ResetEventSeasonalQuests]
    split <;> exact { h with }

/-- A reset of another period takes no mark away. A seasonal quest stays in the set of the rewarded
ones. -/
lemma Marked.reset {quest : Quest} {period event : Period} (h : p.Marked quest period)
    (other : event ≠ period) : (p.ResetPeriod event).Marked quest period := by
  cases event with
  | daily =>
    cases period with
    | daily => exact absurd rfl other
    | _ => exact h
  | weekly =>
    rw [ResetPeriod, ResetWeeklyQuests]
    split <;> cases period with
    | weekly => exact absurd rfl other
    | _ => exact h
  | monthly =>
    rw [ResetPeriod, ResetMonthlyQuests]
    split <;> cases period with
    | monthly => exact absurd rfl other
    | _ => exact h
  | seasonal event_id =>
    rw [ResetPeriod, ResetEventSeasonalQuests]
    split <;> cases period <;> exact h

end Player

namespace Career

variable {mgr : ObjectMgr} {c : Career} {a : Action}

open Player

/-- A quest that is done is refused from now on: it is marked, and not active. -/
structure Refused (mgr : ObjectMgr) (p : Player) (period : Period) (q : UInt32) : Prop where
  gone : Gone mgr p q
  marked : ∃ quest, mgr.GetQuestTemplate q = some quest ∧ p.Marked quest period

structure Sound (mgr : ObjectMgr) (c : Career) : Prop where
  stored : Stored mgr c.player
  unmarked : c.player.m_RewardedQuestsSave = ∅
  done : ∀ period q, q ∈ c.done period → Refused mgr c.player period q

lemma sound_start (p : Player) (gameTime : UInt32) : Sound mgr (start mgr gameTime p) where
  stored := stored_load p
  unmarked := rfl
  done _ q member := absurd member (Finset.notMem_empty q)

lemma Refused.itself {p : Player} {period : Period} {quest : Quest}
    (h : Refused mgr p period quest.Id) (known : mgr.GetQuestTemplate quest.Id = some quest) :
    p.m_QuestStatus.lookup quest.Id = none ∧ p.Marked quest period := by
  obtain ⟨gone, quest', found, marked⟩ := h
  rw [known] at found
  cases found
  exact ⟨gone.inactive, marked⟩

lemma Refused.not_rewarded {p : Player} {period : Period} {quest : Quest}
    (h : Refused mgr p period quest.Id) : p.rewards mgr a ≠ some quest := by
  intro rewarded
  obtain ⟨gameTime, request⟩ := a
  cases request with
  | complete quest_id other =>
    simp only [rewards] at rewarded
    split at rewarded
    next completes =>
      have known := Option.eq_some_of_filter_eq_some rewarded
      obtain rfl := (mgr.named quest_id quest known).1
      rw [not_canComplete known (h.itself known).1 (h.itself known).2] at completes
      cases completes
    next => cases rewarded
  | reward quest_id other fits =>
    obtain ⟨known, passes⟩ := Option.filter_eq_some_iff.mp rewarded
    obtain rfl := (mgr.named quest_id quest known).1
    rw [not_canTake known (h.itself known).1 (h.itself known).2,
      not_canReward known (h.itself known).2] at passes
    cases passes
  | _ => cases rewarded

lemma once_of_sound (h : Sound mgr c) : Once mgr c a := by
  intro quest rewarded period _ member
  exact (h.done period quest.Id member).not_rewarded rewarded

lemma template_of_rewards {p : Player} {quest : Quest} (rewarded : p.rewards mgr a = some quest) :
    mgr.GetQuestTemplate quest.Id = some quest := by
  have known : ∃ quest_id, mgr.GetQuestTemplate quest_id = some quest := by
    obtain ⟨gameTime, request⟩ := a
    cases request with
    | complete quest_id other =>
      simp only [rewards] at rewarded
      split at rewarded
      · exact ⟨quest_id, Option.eq_some_of_filter_eq_some rewarded⟩
      · cases rewarded
    | reward quest_id other fits =>
      exact ⟨quest_id, Option.eq_some_of_filter_eq_some rewarded⟩
    | _ => cases rewarded
  obtain ⟨quest_id, found⟩ := known
  rw [(mgr.named quest_id quest found).1]
  exact found

/-! ### Steps -/

section Steps

variable {p : Player} {gameTime : UInt32} {period : Period} {q : UInt32}

section

variable (h : Refused mgr p period q)
include h

lemma Refused.touch {p' : Player} {quest_id : UInt32} (touches : Touches quest_id p p')
    (other : q ≠ quest_id) : Refused mgr p' period q := by
  obtain ⟨gone, quest, found, marked⟩ := h
  exact ⟨gone.touch touches other, quest, found, marked.touch touches⟩

lemma Refused.reward {quest : Quest} (other : q ≠ quest.Id) :
    Refused mgr (p.RewardQuest mgr quest gameTime) period q := by
  obtain ⟨gone, quest', found, marked⟩ := h
  exact ⟨gone.reward other, quest', found, marked.reward quest⟩

lemma Refused.saveToDB : Refused mgr (p.SaveToDB mgr gameTime) period q := by
  obtain ⟨gone, quest, found, marked⟩ := h
  have saved : (p._SaveQuestStatus mgr gameTime).Marked quest period := by
    cases period <;> exact marked
  exact ⟨gone.saveStatus.untouched untouched_saveToDB, quest, found,
    saved.untouched untouched_saveToDB⟩

end

/-- What a step comes to: a touch of a quest that is not refused, or a reward, or more. -/
inductive Effect (mgr : ObjectMgr) (p : Player) (a : Action) (p' : Player) : Prop where
  | touch (touches : ∃ quest_id, Touches quest_id p p')
    (others : ∀ period q, Refused mgr p period q → ∃ quest_id, q ≠ quest_id ∧ Touches quest_id p p')
  | reward (quest : Quest) (p₁ : Player) (rewarded : p.rewards mgr a = some quest)
    (touches : Touches quest.Id p p₁) (hs : p' = p₁.RewardQuest mgr quest a.gameTime)
  | save (hs : p' = p.SaveToDB mgr a.gameTime)
  | reload (isReload : a.request = .reload) (hs : p' = p.load mgr a.gameTime)
  | reset (event : Period) (isReset : a.request = .reset event) (hs : p' = p.ResetPeriod event)

lemma Effect.idle {p' : Player} (touches : ∀ quest_id, Touches quest_id p p') :
    Effect mgr p a p' :=
  .touch ⟨0, touches 0⟩ fun _ q _ => ⟨q + 1, by simp, touches _⟩

lemma step_effect (mgr : ObjectMgr) (p : Player) (a : Action) :
    Effect mgr p a (p.step mgr a) := by
  obtain ⟨gameTime, request⟩ := a
  have idle : Effect mgr p ⟨gameTime, request⟩ p := .idle fun quest_id => .refl quest_id p
  cases request with
  | accept quest_id limittime other =>
    simp only [Player.step]
    split
    next quest known =>
      split
      next takes =>
        refine .touch ⟨_, touches_addQuest quest limittime⟩ fun period q h =>
          ⟨_, ?_, touches_addQuest quest limittime⟩
        rintro rfl
        obtain rfl := (mgr.named quest_id quest known).1
        rw [not_canTake known (h.itself known).1 (h.itself known).2] at takes
        cases takes
      next => exact idle
    next => exact idle
  | complete quest_id other =>
    simp only [Player.step]
    split
    next completes =>
      rw [CompleteQuest]
      split
      next => exact idle
      next =>
        have touched : Touches quest_id p (p.SetQuestStatus mgr quest_id .complete) :=
          touches_setQuestStatus .complete
        have only : Effect mgr p ⟨gameTime, .complete quest_id other⟩
            (p.SetQuestStatus mgr quest_id .complete) := by
          refine .touch ⟨_, touched⟩ fun period q h => ⟨_, ?_, touched⟩
          rintro rfl
          obtain ⟨gone, quest, found, marked⟩ := h
          obtain rfl := (mgr.named _ quest found).1
          rw [not_canComplete found gone.inactive marked] at completes
          cases completes
        split
        next quest known =>
          split
          next tracking =>
            refine .reward quest _ ?_ ((mgr.named quest_id quest known).1 ▸ touched) rfl
            simp [rewards, completes, known, tracking]
          next => exact only
        next => exact only
    next => exact idle
  | reward quest_id other fits =>
    simp only [Player.step]
    split
    next quest known =>
      split
      next passes =>
        refine .reward quest p ?_ (.refl quest.Id p) rfl
        simp [rewards, known, Option.filter_some, passes]
      next => exact idle
    next => exact idle
  | abandon slot =>
    have touched : Touches (p.slots slot) p (p.HandleQuestLogRemoveQuest slot) := by
      rw [HandleQuestLogRemoveQuest]
      split
      next => exact { touches_removeActiveQuest with }
      next => exact { Touches.refl (p.slots slot) p with }
    refine .touch ⟨_, touched⟩ fun period q h => ?_
    by_cases own : q = p.slots slot
    · -- what is not active is not removed
      have same : p.RemoveActiveQuest (p.slots slot) = p := by
        rw [RemoveActiveQuest, ← own, h.gone.inactive]
        rfl
      refine ⟨q + 1, by simp, ?_⟩
      simp only [Player.step, HandleQuestLogRemoveQuest, same, ite_self]
      exact { Touches.refl (q + 1) p with }
    · exact ⟨_, own, touched⟩
  | progress counters has => exact .idle fun quest_id => { Touches.refl quest_id p with }
  | save => exact .save rfl
  | reload => exact .reload rfl rfl
  | reset event => exact .reset event rfl rfl

lemma Refused.step (h : Refused mgr c.player period q) (stored : Stored mgr c.player)
    (unmarked : c.player.m_RewardedQuestsSave = ∅) (recorded : Recorded mgr c a)
    (kept : a.request ≠ .reset period) : Refused mgr (c.player.step mgr a) period q := by
  cases step_effect mgr c.player a with
  | touch _ others =>
    obtain ⟨quest_id, other, touches⟩ := others period q h
    exact h.touch touches other
  | reward quest p₁ rewarded touches hs =>
    have other : q ≠ quest.Id := by
      rintro rfl
      exact h.not_rewarded rewarded
    rw [hs]
    exact (h.touch touches other).reward other
  | save hs =>
    rw [hs]
    exact h.saveToDB
  | reload isReload hs =>
    obtain ⟨gone, quest, found, marked⟩ := h
    obtain ⟨daily, weekly, monthly⟩ := recorded.saved isReload
    obtain rfl := (mgr.named _ quest found).1
    rw [hs]
    exact ⟨gone.load, quest, found, marked.load stored found unmarked daily weekly monthly⟩
  | reset event isReset hs =>
    obtain ⟨gone, quest, found, marked⟩ := h
    rw [hs]
    refine ⟨gone.reset event, quest, found, marked.reset ?_⟩
    rintro rfl
    exact kept isReset

lemma Stored.step (h : Stored mgr p) (a : Action) : Stored mgr (p.step mgr a) := by
  cases step_effect mgr p a with
  | touch touches _ =>
    obtain ⟨quest_id, touches⟩ := touches
    exact h.touch touches
  | reward quest p₁ rewarded touches hs =>
    rw [hs]
    exact (h.touch touches).reward quest
  | save hs =>
    rw [hs]
    exact h.saveToDB
  | reload _ hs =>
    rw [hs]
    exact stored_load p
  | reset event _ hs =>
    rw [hs]
    exact h.reset event

lemma unmarked_step (unmarked : p.m_RewardedQuestsSave = ∅) (a : Action) :
    (p.step mgr a).m_RewardedQuestsSave = ∅ := by
  cases step_effect mgr p a with
  | touch touches _ =>
    obtain ⟨quest_id, touches⟩ := touches
    rw [touches.rewardedMarks, unmarked]
  | reward quest p₁ rewarded touches hs =>
    rw [hs]
    rfl
  | save hs =>
    rw [hs]
    exact untouched_saveToDB.rewardedMarks
  | reload _ hs =>
    rw [hs]
    rfl
  | reset event _ hs =>
    rw [hs, ← unmarked]
    cases event <;> simp only [ResetPeriod, ResetDailyQuests, ResetWeeklyQuests,
      ResetMonthlyQuests, ResetEventSeasonalQuests] <;> split_ifs <;> rfl

lemma refused_rewarded {quest : Quest} (stored : Stored mgr c.player)
    (recorded : Recorded mgr c a) (rewarded : c.player.rewards mgr a = some quest)
    (inPeriod : mgr.InPeriod quest period) : Refused mgr (c.player.step mgr a) period quest.Id := by
  have found := template_of_rewards rewarded
  have afterReward : ∀ p : Player, Stored mgr p →
      Refused mgr (p.RewardQuest mgr quest a.gameTime) period quest.Id := by
    intro p stored
    refine ⟨gone_reward stored quest, quest, found, marked_reward found inPeriod ?_ ?_ ?_⟩
    · exact recorded.daily quest rewarded
    · exact recorded.weekly quest rewarded
    · exact recorded.monthly quest rewarded
  obtain ⟨gameTime, request⟩ := a
  cases request with
  | complete quest_id other =>
    simp only [rewards] at rewarded
    split at rewarded
    next completes =>
      obtain ⟨known, tracking⟩ := Option.filter_eq_some_iff.mp rewarded
      have named := (mgr.named quest_id quest known).2
      simp only [Player.step, completes, if_true, CompleteQuest, named, if_false, known, tracking]
      exact afterReward _ (stored.touch (touches_setQuestStatus .complete))
    next => cases rewarded
  | reward quest_id other fits =>
    obtain ⟨known, passes⟩ := Option.filter_eq_some_iff.mp rewarded
    simp only [Player.step, known, passes, if_true]
    exact afterReward _ stored
  | _ => cases rewarded

end Steps

lemma Sound.step (h : Sound mgr c) (recorded : Recorded mgr c a) : Sound mgr (c.step mgr a) where
  stored := Stored.step h.stored a
  unmarked := unmarked_step h.unmarked a
  done period q member := by
    change q ∈ c.doneAfter mgr a period at member
    have old : q ∈ c.done period → a.request ≠ .reset period →
        Refused mgr (c.step mgr a).player period q := fun member kept =>
      (h.done period q member).step h.stored h.unmarked recorded kept
    rw [doneAfter] at member
    split at member
    next event isReset =>
      split at member
      next => cases member
      next other =>
        apply old member
        rw [isReset]
        rintro ⟨⟩
        exact other rfl
    next noReset =>
      split at member
      next quest rewarded =>
        split at member
        next inPeriod =>
          rcases Finset.mem_insert.mp member with rfl | member
          · exact refused_rewarded h.stored recorded rewarded inPeriod
          · exact old member (noReset period)
        next => exact old member (noReset period)
      next => exact old member (noReset period)

/-- In a run whose rewards are all recorded, every quest is rewarded at most once in each of its
periods. -/
theorem once_per_period (mgr : ObjectMgr) (gameTime : UInt32) (p : Player) (as : List Action)
    (recorded : Along (step mgr) (Recorded mgr) (start mgr gameTime p) as) :
    Along (step mgr) (Once mgr) (start mgr gameTime p) as :=
  along_of_invariant (Sound mgr) (fun _ _ h recorded => h.step recorded)
    (fun _ _ h _ => once_of_sound h) (sound_start p gameTime) recorded

def plain (flags : UInt32) : Quest := { Id := 1, Flags := flags, SpecialFlags := QUEST_SPECIAL_FLAGS_REPEATABLE }

def plainMgr (flags : UInt32) (loaded : (plain flags).Loaded) : ObjectMgr :=
  .single (plain flags) one_known loaded List.nodup_nil

def doIt : List Action := [⟨0, .accept 1 0 true⟩, ⟨0, .complete 1 true⟩, ⟨0, .reward 1 true true⟩]

/-- A weekly quest is done, saved, and asked for again after a login. -/
theorem once_per_period_weekly :
    let mgr := plainMgr QUEST_FLAGS_WEEKLY ⟨by decide, by decide⟩
    let as := doIt ++ [⟨0, .save⟩, ⟨0, .reload⟩] ++ doIt
    Along (step mgr) (Once mgr) (start mgr 0 .blank) as := by
  intro mgr as
  have recorded : ∀ (c : Career) (a : Action), (a.request = .reload →
      c.player.m_DailyQuestChanged = false ∧ c.player.m_WeeklyQuestChanged = false ∧
        c.player.m_MonthlyQuestChanged = false) → Recorded mgr c a := by
    intro c a saved
    have only : ∀ quest, c.player.rewards mgr a = some quest → quest = plain QUEST_FLAGS_WEEKLY := by
      intro quest rewarded
      have found : (if quest.Id = 1 then some (plain QUEST_FLAGS_WEEKLY) else none) = some quest :=
        template_of_rewards rewarded
      split at found <;> cases found
      rfl
    refine ⟨?_, ?_, ?_, saved⟩
    all_goals
      intro quest rewarded
      rw [only quest rewarded]
      decide
  apply once_per_period
  refine ⟨recorded _ _ ?_, recorded _ _ ?_, recorded _ _ ?_, recorded _ _ ?_, recorded _ _ ?_,
    recorded _ _ ?_, recorded _ _ ?_, recorded _ _ ?_, trivial⟩
  -- what the reload finds is saved
  case refine_5 =>
    intro _
    decide +kernel
  all_goals
    rintro ⟨⟩

/-- A daily quest is rewarded twice. -/
theorem not_once_per_period :
    let mgr := plainMgr QUEST_FLAGS_DAILY ⟨by decide, by decide⟩
    ¬ Along (step mgr) (Once mgr) (start mgr 0 .blank) (doIt ++ doIt) := by
  intro mgr run
  obtain ⟨_, _, _, _, _, again, _⟩ := run
  exact again (plain QUEST_FLAGS_DAILY) (by decide +kernel) .daily (by decide +kernel) (by decide +kernel)

end Career

end WorldServer.Quests
