import WorldServer.Quests.LogMoves
import WorldServer.Quests.Progress

/-!
# Changes of one quest

A handler changes one quest after another. What it does to one quest leaves the others as they are,
so that what holds of each quest in the log is shown for one quest at a time.
-/
namespace WorldServer.Quests

open WorldServer.Lib

namespace Player

variable {mgr : ObjectMgr} {env : Around} {p p' p'' : Player} {quest : Quest} {o : QuestObjective}

/-! ### What a change leaves alone -/

/-- Counters stay below what is asked for, and there are none for the other objectives. -/
def Bounded (mgr : ObjectMgr) (p : Player) : Prop :=
  ∀ quest_id quest, mgr.GetQuestTemplate quest_id = some quest → ∀ o ∈ quest.m_questObjectives,
    p.GetQuestObjectiveCounter o.Id ≤ o.required ∧
      (o.tracked = false → p.GetQuestObjectiveCounter o.Id = 0)

/-- Nothing changes but what belongs to the quest `q`. -/
structure Within (mgr : ObjectMgr) (q : UInt32) (p p' : Player) : Prop where
  slots : ∀ i, p'.slots i = p.slots i ∨ p'.slots i = 0 ∧ p.slots i = q
  statuses : ∀ q', q' ≠ q → p'.m_QuestStatus.lookup q' = p.m_QuestStatus.lookup q'
  counters : ∀ objectiveId, mgr.GetQuestObjectiveQuestId objectiveId ≠ q →
    p'.GetQuestObjectiveCounter objectiveId = p.GetQuestObjectiveCounter objectiveId
  rewarded : ∀ q', q' ≠ q → (q' ∈ p'.m_RewardedQuests ↔ q' ∈ p.m_RewardedQuests)
  has : p'.has = p.has
  filed : Filed mgr p → Filed mgr p'
  bounded : Bounded mgr p → Bounded mgr p'

lemma Within.refl (q : UInt32) : Within mgr q p p :=
  ⟨fun _ => .inl rfl, fun _ _ => rfl, fun _ _ => rfl, fun _ _ => .rfl, rfl, id, id⟩

variable {q c : UInt32} {status : QuestStatus} {i : Fin MAX_QUEST_LOG_SIZE}

lemma Within.trans (h : Within mgr q p p') (h' : Within mgr q p' p'') :
    Within mgr q p p'' where
  slots i := by
    rcases h'.slots i with hs | ⟨empty, own⟩
    · rw [hs]
      exact h.slots i
    · rcases h.slots i with hs | ⟨empty', own'⟩
      · rw [hs] at own
        exact .inr ⟨empty, own⟩
      · exact .inr ⟨empty, own'⟩
  statuses q' other := (h'.statuses q' other).trans (h.statuses q' other)
  counters objectiveId other := (h'.counters objectiveId other).trans (h.counters objectiveId other)
  rewarded q' other := (h'.rewarded q' other).trans (h.rewarded q' other)
  has := h'.has.trans h.has
  filed := h'.filed ∘ h.filed
  bounded := h'.bounded ∘ h.bounded

lemma counter_setCounter (quest_id key counter objectiveId : UInt32) :
    (p.setCounter quest_id key counter).GetQuestObjectiveCounter objectiveId =
      if objectiveId = key then counter else p.GetQuestObjectiveCounter objectiveId := by
  rw [GetQuestObjectiveCounter, setCounter]
  split
  next hs =>
    rw [hs, AList.lookup_insert]
    rfl
  next other =>
    rw [AList.lookup_insert_ne other]
    rfl

lemma objective_unique {q' : UInt32} {quest quest' : Quest} {o o' : QuestObjective}
    (known : mgr.GetQuestTemplate q = some quest) (known' : mgr.GetQuestTemplate q' = some quest')
    (hm : o ∈ quest.m_questObjectives) (hm' : o' ∈ quest'.m_questObjectives)
    (hs : o'.Id = o.Id) : o' = o := by
  have sameQuest : q' = q := by
    rw [← mgr.questOf q quest o known hm, ← mgr.questOf q' quest' o' known' hm', hs]
  subst sameQuest
  rw [known] at known'
  cases known'
  exact List.inj_on_of_nodup_map (mgr.distinct q' quest known) hm' hm hs

lemma within_setCounter (known : mgr.GetQuestTemplate quest.Id = some quest)
    (hm : o ∈ quest.m_questObjectives) (tracked : o.tracked = true) (small : c ≤ o.required) :
    Within mgr quest.Id p (p.setCounter quest.Id o.Id c) where
  slots _ := .inl rfl
  statuses _ _ := rfl
  counters objectiveId other := by
    rw [counter_setCounter, if_neg]
    intro hs
    apply other
    rw [hs]
    exact mgr.questOf quest.Id quest o known hm
  rewarded _ _ := .rfl
  has := rfl
  filed h := { h with }
  bounded h := by
    intro q quest' known' o' hm'
    rw [counter_setCounter]
    split
    next hs =>
      obtain rfl := objective_unique known known' hm hm' hs
      exact ⟨small, fun untracked => absurd tracked (by rw [untracked]; simp)⟩
    next => exact h q quest' known' o' hm'

lemma within_setStatus (known : mgr.GetQuestTemplate quest.Id = some quest)
    (proper : status ≠ .none) : Within mgr quest.Id p (p.SetQuestStatus mgr quest.Id status) := by
  have exists' : (mgr.GetQuestTemplate quest.Id).isSome := by rw [known]; rfl
  have move : Move mgr p (p.SetQuestStatus mgr quest.Id status) :=
    .status p quest.Id status exists' proper
  rw [SetQuestStatus, if_pos exists'] at move ⊢
  exact ⟨fun _ => .inl rfl, fun _ other => AList.lookup_insert_ne other, fun _ _ => rfl,
    fun _ _ => .rfl, rfl, fun h => h.move move, id⟩

lemma markRewarded_mem (mgr : ObjectMgr) (p : Player) (quest : Quest) (gameTime q : UInt32)
    (other : q ≠ quest.Id) :
    q ∈ (p.RewardQuest mgr quest gameTime).m_RewardedQuests ↔ q ∈ p.m_RewardedQuests := by
  obtain ⟨_, _, _, _, _, _, _, _, written⟩ := setPeriodStatus_writes mgr (p.clearSlot quest.Id) quest
  have cleared : (p.clearSlot quest.Id).m_RewardedQuests = p.m_RewardedQuests := by
    rw [clearSlot]
    split <;> rfl
  have removed : ∀ p : Player, (p.RemoveActiveQuest quest.Id).m_RewardedQuests =
      p.m_RewardedQuests := by
    intro p
    rw [RemoveActiveQuest]
    split <;> rfl
  rw [RewardQuest, _SaveQuestStatus, markRewarded]
  rw [removed, written, Finset.mem_insert, cleared]
  simp [other]

section

variable (known : mgr.GetQuestTemplate quest.Id = some quest)
include known

lemma within_reward (gameTime : UInt32) :
    Within mgr quest.Id p (p.RewardQuest mgr quest gameTime) := by
  have move : Move mgr p (p.RewardQuest mgr quest gameTime) := .reward p quest gameTime known
  have others := markRewarded_mem mgr p quest gameTime
  obtain ⟨before, rewarded, saved⟩ := rewardQuest_saves mgr p quest gameTime
  have counters : ∀ objectiveId, (p.RewardQuest mgr quest gameTime).GetQuestObjectiveCounter objectiveId =
      p.GetQuestObjectiveCounter objectiveId := by
    intro objectiveId
    rw [saved]
    change (before.m_questObjectiveStatus.lookup objectiveId).getD 0 = _
    rw [rewarded.counters]
    rfl
  constructor
  · intro i
    rw [saved]
    change before.slots i = _ ∨ before.slots i = 0 ∧ _
    rw [rewarded.slots i]
    split
    next found => exact .inr ⟨rfl, FindQuestSlot_some found⟩
    next => exact .inl rfl
  · intro q' other
    rw [saved]
    change before.m_QuestStatus.lookup q' = _
    rw [rewarded.status, AList.lookup_erase_ne other]
  · intro objectiveId _
    exact counters objectiveId
  · exact others
  · rw [saved]
    exact rewarded.has
  · exact fun h => h.move move
  · intro h q quest' known' o' hm'
    rw [counters]
    exact h q quest' known' o' hm'

lemma within_completeQuest (gameTime : UInt32) :
    Within mgr quest.Id p (p.CompleteQuest mgr quest.Id gameTime) := by
  have named := (mgr.named quest.Id quest known).2
  rw [CompleteQuest, if_neg named]
  have completed : Within mgr quest.Id p (p.SetQuestStatus mgr quest.Id .complete) :=
    within_setStatus known (by simp)
  rw [known]
  dsimp only
  split
  next => exact completed.trans (within_reward known gameTime)
  next => exact completed

lemma within_complete : Within mgr quest.Id p (p.completeIfPossible mgr env quest.Id) := by
  rw [completeIfPossible]
  split
  next => exact within_completeQuest known env.gameTime
  next => exact .refl quest.Id

lemma within_incomplete : Within mgr quest.Id p (p.IncompleteQuest mgr quest.Id) := by
  rw [IncompleteQuest, if_neg (mgr.named quest.Id quest known).2]
  exact within_setStatus known (by simp)

end

/-! ### A quest that is in order -/

def finished (p : Player) (quest : Quest) : Bool :=
  let data := p.questStatus quest.Id
  (!quest.HasSpecialFlag QUEST_SPECIAL_FLAGS_EXPLORATION_OR_EVENT || data.Explored) &&
    (!quest.HasSpecialFlag QUEST_SPECIAL_FLAGS_TIMED || data.Timer ≠ 0) &&
    quest.m_questObjectives.all p.met

/-- The counters of a quest that can be completed are those of `count`. -/
structure Fit (count : QuestObjective → ℕ) (quest : Quest) (p : Player) : Prop where
  fresh : quest.IsRepeatable = true ∨ quest.Id ∉ p.m_RewardedQuests
  counted : ∀ o ∈ quest.m_questObjectives, o.tracked = true →
    (p.GetQuestObjectiveCounter o.Id).toNat = min o.required.toNat (count o)
  currency : ∀ o ∈ quest.m_questObjectives, o.type = .currency →
    o.required = 0 ∨ (p.has.currency o.ObjectId).getD 0 < o.required

/-- What is known of an incomplete quest before it is looked at for completion -/
structure Ready (count : QuestObjective → ℕ) (quest : Quest) (p : Player) : Prop
    extends Fit count quest p where
  incomplete : (p.questStatus quest.Id).Status = .incomplete

/-- The status of a quest in the log is that of the counters. -/
structure InOrder (count : QuestObjective → ℕ) (quest : Quest) (p : Player) : Prop
    extends Fit count quest p where
  judged : (p.questStatus quest.Id).Status = if p.finished quest then .complete else .incomplete

/-- Nothing of a quest changes. -/
structure Same (quest : Quest) (p p' : Player) : Prop where
  status : p'.m_QuestStatus.lookup quest.Id = p.m_QuestStatus.lookup quest.Id
  counters : ∀ o ∈ quest.m_questObjectives,
    p'.GetQuestObjectiveCounter o.Id = p.GetQuestObjectiveCounter o.Id
  rewarded : quest.Id ∈ p'.m_RewardedQuests ↔ quest.Id ∈ p.m_RewardedQuests
  has : p'.has = p.has

lemma Same.refl : Same quest p p := ⟨rfl, fun _ _ => rfl, .rfl, rfl⟩

lemma Same.trans (h : Same quest p p') (h' : Same quest p' p'') : Same quest p p'' :=
  ⟨h'.status.trans h.status,
    fun o hm => (h'.counters o hm).trans (h.counters o hm),
    h'.rewarded.trans h.rewarded, h'.has.trans h.has⟩

lemma Within.same (h : Within mgr q p p') (known : mgr.GetQuestTemplate quest.Id = some quest)
    (other : quest.Id ≠ q) : Same quest p p' where
  status := h.statuses quest.Id other
  counters o hm := by
    apply h.counters
    rw [mgr.questOf quest.Id quest o known hm]
    exact other
  rewarded := h.rewarded quest.Id other
  has := h.has

lemma Same.questStatus (h : Same quest p p') : p'.questStatus quest.Id = p.questStatus quest.Id := by
  rw [Player.questStatus, h.status]
  rfl

lemma met_congr (has : p'.has = p.has)
    (counter : p'.GetQuestObjectiveCounter o.Id = p.GetQuestObjectiveCounter o.Id) :
    p'.met o = p.met o := by
  rw [met, met, has, counter, HasEnoughMoney, HasEnoughMoney, has]

lemma all_met_congr (has : p'.has = p.has) (counters : ∀ o ∈ quest.m_questObjectives,
    p'.GetQuestObjectiveCounter o.Id = p.GetQuestObjectiveCounter o.Id) :
    quest.m_questObjectives.all p'.met = quest.m_questObjectives.all p.met := by
  rw [Bool.eq_iff_iff, List.all_eq_true, List.all_eq_true]
  apply forall₂_congr
  intro o hm
  rw [met_congr has (counters o hm)]

lemma Same.finished (h : Same quest p p') : p'.finished quest = p.finished quest := by
  rw [Player.finished, h.questStatus, all_met_congr h.has h.counters]
  rfl

variable {count count' : QuestObjective → ℕ}

lemma Fit.same (h : Fit count quest p) (hs : Same quest p p') : Fit count quest p' where
  fresh := by
    rw [hs.rewarded]
    exact h.fresh
  counted o hm tracked := by
    rw [hs.counters o hm]
    exact h.counted o hm tracked
  currency := by
    rw [hs.has]
    exact h.currency

lemma InOrder.same (h : InOrder count quest p) (hs : Same quest p p') : InOrder count quest p' where
  toFit := h.toFit.same hs
  judged := by
    rw [hs.questStatus, hs.finished]
    exact h.judged

lemma InOrder.recount (h : InOrder count quest p)
    (hs : ∀ o ∈ quest.m_questObjectives, o.tracked = true →
      min o.required.toNat (count' o) = min o.required.toNat (count o)) :
    InOrder count' quest p where
  fresh := h.fresh
  counted o hm tracked := (h.counted o hm tracked).trans (hs o hm tracked).symm
  currency := h.currency
  judged := h.judged

/-! ### Completing a quest -/

lemma lookup_of_status (hf : (p.questStatus q).Status = status) (proper : status ≠ .none) :
    ∃ data, p.m_QuestStatus.lookup q = some data ∧
      p.questStatus q = data ∧ data.Status = status := by
  rw [questStatus] at hf ⊢
  cases active : p.m_QuestStatus.lookup q with
  | none =>
    rw [active] at hf
    exact absurd hf.symm proper
  | some data =>
    rw [active] at hf
    exact ⟨data, rfl, rfl, hf⟩

lemma not_canTake_of_active {data : QuestStatusData} (named : quest.Id ≠ 0)
    (active : p.m_QuestStatus.lookup quest.Id = some data) (status : data.Status ≠ .none)
    (other : Bool) : p.CanTakeQuest mgr quest other = false := by
  have takes : p.SatisfyQuestStatus mgr quest = false := by
    simp [SatisfyQuestStatus, GetQuestStatus, named, active, status]
  rw [CanTakeQuest, takes]
  simp

lemma canComplete_of_incomplete (known : mgr.GetQuestTemplate quest.Id = some quest)
    (fresh : quest.IsRepeatable = true ∨ quest.Id ∉ p.m_RewardedQuests)
    (incomplete : (p.questStatus quest.Id).Status = .incomplete) (other : Bool) :
    p.CanCompleteQuest mgr quest.Id other = p.finished quest := by
  have named := (mgr.named quest.Id quest known).2
  obtain ⟨data, active, data_eq, status⟩ := lookup_of_status incomplete (by simp)
  have notTaken : p.CanTakeQuest mgr quest other = false :=
    not_canTake_of_active named active (by simp [status]) other
  have notRewarded : (!quest.IsRepeatable && decide (quest.Id ∈ p.m_RewardedQuests)) = false := by
    rcases fresh with repeats | new
    · rw [repeats]
      rfl
    · simp [new]
  rw [CanCompleteQuest, if_neg named, known]
  simp only [notRewarded, notTaken, Bool.and_false, Bool.false_eq_true, if_false, active, status, if_true,
    finished, data_eq]
  cases quest.HasSpecialFlag QUEST_SPECIAL_FLAGS_EXPLORATION_OR_EVENT <;>
    cases quest.HasSpecialFlag QUEST_SPECIAL_FLAGS_TIMED <;>
    cases data.Explored <;> by_cases timer : data.Timer = 0 <;> simp [timer]

lemma canComplete_of_complete (known : mgr.GetQuestTemplate quest.Id = some quest)
    (complete : (p.questStatus quest.Id).Status = .complete) (other : Bool) :
    p.CanCompleteQuest mgr quest.Id other = false := by
  have named := (mgr.named quest.Id quest known).2
  obtain ⟨data, active, _, status⟩ := lookup_of_status complete (by simp)
  have notTaken : p.CanTakeQuest mgr quest other = false :=
    not_canTake_of_active named active (by simp [status]) other
  rw [CanCompleteQuest, if_neg named, known]
  simp only [notTaken, Bool.and_false, Bool.false_eq_true, if_false, active, status]
  split <;> rfl

lemma InOrder.complete_eq (h : InOrder count quest p)
    (known : mgr.GetQuestTemplate quest.Id = some quest) :
    p.completeIfPossible mgr env quest.Id = p := by
  have not : p.CanCompleteQuest mgr quest.Id (env.other quest.Id) = false := by
    have judged := h.judged
    split at judged
    next => exact canComplete_of_complete known judged _
    next unfinished =>
      rw [canComplete_of_incomplete known h.fresh judged]
      simpa using unfinished
  rw [completeIfPossible, not, if_neg (by simp)]

lemma questStatus_setStatus (known : mgr.GetQuestTemplate quest.Id = some quest)
    (status : QuestStatus) : (p.SetQuestStatus mgr quest.Id status).questStatus quest.Id =
      { p.questStatus quest.Id with Status := status } := by
  rw [SetQuestStatus, if_pos (by rw [known]; rfl)]
  simp [questStatus]

lemma frame_setStatus (known : mgr.GetQuestTemplate quest.Id = some quest) (status : QuestStatus) :
    (p.SetQuestStatus mgr quest.Id status).m_RewardedQuests = p.m_RewardedQuests ∧
      (p.SetQuestStatus mgr quest.Id status).m_questObjectiveStatus = p.m_questObjectiveStatus ∧
      (p.SetQuestStatus mgr quest.Id status).has = p.has := by
  rw [SetQuestStatus, if_pos (by rw [known]; rfl)]
  exact ⟨rfl, rfl, rfl⟩

lemma finished_setStatus (known : mgr.GetQuestTemplate quest.Id = some quest) (status : QuestStatus) :
    (p.SetQuestStatus mgr quest.Id status).finished quest = p.finished quest := by
  obtain ⟨_, counters, has⟩ := frame_setStatus (p := p) known status
  have met : quest.m_questObjectives.all (p.SetQuestStatus mgr quest.Id status).met =
      quest.m_questObjectives.all p.met := by
    apply all_met_congr has
    intro o _
    rw [GetQuestObjectiveCounter, counters]
    rfl
  rw [finished, questStatus_setStatus known, met]
  rfl

lemma Fit.setStatus (h : Fit count quest p) (known : mgr.GetQuestTemplate quest.Id = some quest)
    (judged : status = if p.finished quest then .complete else .incomplete) :
    InOrder count quest (p.SetQuestStatus mgr quest.Id status) := by
  obtain ⟨rewarded, counters, has⟩ := frame_setStatus (p := p) known status
  constructor
  · constructor
    · rw [rewarded]
      exact h.fresh
    · intro o hm tracked
      rw [GetQuestObjectiveCounter, counters]
      exact h.counted o hm tracked
    · rw [has]
      exact h.currency
  · rw [questStatus_setStatus known, finished_setStatus known]
    exact judged

lemma not_inLog_reward (filed : Filed mgr p) (known : mgr.GetQuestTemplate quest.Id = some quest)
    (gameTime : UInt32) (i : Fin MAX_QUEST_LOG_SIZE) :
    (p.RewardQuest mgr quest gameTime).questInSlot mgr i ≠ some quest := by
  intro inLog
  obtain ⟨slot, _⟩ := questInSlot_some inLog
  have after : Filed mgr (p.RewardQuest mgr quest gameTime) := filed.move (.reward p quest gameTime known)
  have active := after.active i (slot ▸ (mgr.named quest.Id quest known).2)
  obtain ⟨before, rewarded, saved⟩ := rewardQuest_saves mgr p quest gameTime
  rw [slot, saved] at active
  change (before.m_QuestStatus.lookup quest.Id).isSome at active
  rw [rewarded.status, AList.lookup_erase] at active
  cases active

lemma Ready.complete (h : Ready count quest p) (filed : Filed mgr p)
    (known : mgr.GetQuestTemplate quest.Id = some quest)
    (inLog : (p.completeIfPossible mgr env quest.Id).questInSlot mgr i = some quest) :
    InOrder count quest (p.completeIfPossible mgr env quest.Id) := by
  have named := (mgr.named quest.Id quest known).2
  have can := canComplete_of_incomplete known h.fresh h.incomplete (env.other quest.Id)
  rw [completeIfPossible] at inLog ⊢
  split at inLog
  next completes =>
    rw [if_pos completes]
    rw [can] at completes
    have inOrder : InOrder count quest (p.SetQuestStatus mgr quest.Id .complete) :=
      h.toFit.setStatus known (by rw [completes]; rfl)
    rw [CompleteQuest, if_neg named] at inLog ⊢
    rw [known] at inLog ⊢
    dsimp only at inLog ⊢
    split at inLog
    next =>
      have completed : Within mgr quest.Id p (p.SetQuestStatus mgr quest.Id .complete) :=
        within_setStatus known (by simp)
      have filed' := completed.filed filed
      exact absurd inLog (not_inLog_reward filed' known env.gameTime i)
    next untracked =>
      rw [if_neg untracked]
      exact inOrder
  next unfinished =>
    rw [if_neg unfinished]
    rw [can] at unfinished
    constructor
    · exact h.toFit
    · rw [if_neg unfinished]
      exact h.incomplete

/-! ### What a handler does to one quest -/

/-- Nothing, or one counter is written and the quest is completed where it can be, or a counter of
items falls below what is asked for. -/
inductive Credit (mgr : ObjectMgr) (env : Around) (count count' : QuestObjective → ℕ) (quest : Quest)
    (p : Player) : Player → Prop where
  | idle (same : ∀ o ∈ quest.m_questObjectives, o.tracked = true →
      min o.required.toNat (count' o) = min o.required.toNat (count o)) :
      Credit mgr env count count' quest p p
  | counts (o : QuestObjective) (member : o ∈ quest.m_questObjectives) (tracked : o.tracked = true)
      (c : UInt32) (counted : c.toNat = min o.required.toNat (count' o))
      (others : ∀ o' ∈ quest.m_questObjectives, o' ≠ o → o'.tracked = true →
        min o'.required.toNat (count' o') = min o'.required.toNat (count o'))
      (incomplete : (p.questStatus quest.Id).Status = .incomplete) :
      Credit mgr env count count' quest p
        ((p.setCounter quest.Id o.Id c).completeIfPossible mgr env quest.Id)
  | loses (o : QuestObjective) (member : o ∈ quest.m_questObjectives) (item : o.type = .item)
      (c : UInt32) (counted : c.toNat = min o.required.toNat (count' o)) (lacks : c < o.required)
      (others : ∀ o' ∈ quest.m_questObjectives, o' ≠ o → o'.tracked = true →
        min o'.required.toNat (count' o') = min o'.required.toNat (count o'))
      (incomplete : (p.questStatus quest.Id).Status = .incomplete) :
      Credit mgr env count count' quest p
        ((p.setCounter quest.Id o.Id c).IncompleteQuest mgr quest.Id)

lemma tracked_of_item (item : o.type = .item) : o.tracked = true := by
  rw [QuestObjective.tracked, item]

lemma le_required {n : ℕ} (counted : c.toNat = min o.required.toNat n) : c ≤ o.required := by
  rw [UInt32.le_iff_toNat_le, counted]
  exact min_le_left _ _

lemma Credit.within (known : mgr.GetQuestTemplate quest.Id = some quest)
    (h : Credit mgr env count count' quest p p') : Within mgr quest.Id p p' := by
  cases h with
  | idle hs => exact .refl quest.Id
  | counts o hm tracked c counted others incomplete =>
    exact (within_setCounter known hm tracked (le_required counted)).trans (within_complete known)
  | loses o hm item c counted lacks others incomplete =>
    exact (within_setCounter known hm (tracked_of_item item) (le_required counted)).trans
      (within_incomplete known)

lemma InOrder.setCounter (h : InOrder count quest p)
    (known : mgr.GetQuestTemplate quest.Id = some quest) (hm : o ∈ quest.m_questObjectives)
    (counted : c.toNat = min o.required.toNat (count' o))
    (others : ∀ o' ∈ quest.m_questObjectives, o' ≠ o → o'.tracked = true →
      min o'.required.toNat (count' o') = min o'.required.toNat (count o'))
    (incomplete : (p.questStatus quest.Id).Status = .incomplete) :
    Ready count' quest (p.setCounter quest.Id o.Id c) where
  fresh := h.fresh
  counted o' hm' tracked := by
    rw [counter_setCounter]
    split
    next hs =>
      obtain rfl := objective_unique known known hm hm' hs
      exact counted
    next different =>
      have other : o' ≠ o := fun hs => different (congrArg QuestObjective.Id hs)
      rw [others o' hm' other tracked]
      exact h.counted o' hm' tracked
  currency := h.currency
  incomplete := incomplete

lemma Credit.inOrder (h : InOrder count quest p) (filed : Filed mgr p)
    (known : mgr.GetQuestTemplate quest.Id = some quest)
    (credit : Credit mgr env count count' quest p p') (inLog : p'.questInSlot mgr i = some quest) :
    InOrder count' quest p' := by
  cases credit with
  | idle hs => exact h.recount hs
  | counts o hm tracked c counted others incomplete =>
    have filed' : Filed mgr (p.setCounter quest.Id o.Id c) :=
      (within_setCounter known hm tracked (le_required counted)).filed filed
    exact (h.setCounter known hm counted others incomplete).complete filed' known inLog
  | loses o hm item c counted lacks others incomplete =>
    have ready := h.setCounter known hm counted others incomplete
    rw [IncompleteQuest, if_neg (mgr.named quest.Id quest known).2]
    apply ready.toFit.setStatus known
    have unmet : (p.setCounter quest.Id o.Id c).met o = false := by
      rw [met, item, counter_setCounter, if_pos rfl]
      simpa using lacks
    rw [if_neg]
    intro finished
    rw [Player.finished, Bool.and_eq_true, List.all_eq_true] at finished
    rw [finished.2 o hm] at unmet
    cases unmet

/-! ### A pass over the log -/

lemma questInSlot_ne (inLog : p.questInSlot mgr i = some quest) : p.slots i ≠ 0 := by
  obtain ⟨slot, known⟩ := questInSlot_some inLog
  rw [slot]
  exact (mgr.named quest.Id quest known).2

lemma Within.inSlot (h : Within mgr q p p') (inLog : p'.questInSlot mgr i = some quest) :
    p.questInSlot mgr i = some quest := by
  rcases h.slots i with hs | ⟨empty, _⟩
  · rw [questInSlot, ← hs]
    exact inLog
  · exact absurd empty (questInSlot_ne inLog)

/-- What a pass over the log leaves: its body is shown for one quest that nothing has changed yet. Of
the slots, `slots` are left, and the others have been passed. -/
lemma pass_inOrder {body : Player → Quest → Player}
    (each : ∀ p₁ i quest, Filed mgr p₁ → p.questInSlot mgr i = some quest → Same quest p p₁ →
      Within mgr quest.Id p₁ (body p₁ quest) ∧ ∀ j,
        (body p₁ quest).questInSlot mgr j = some quest → InOrder count' quest (body p₁ quest))
    (slots : List (Fin MAX_QUEST_LOG_SIZE)) :
    ∀ p₁ : Player, slots.Nodup → Filed mgr p₁ → Bounded mgr p₁ → p₁.has = p.has →
      (∀ i ∈ slots, ∀ quest, p₁.questInSlot mgr i = some quest →
        p.questInSlot mgr i = some quest ∧ Same quest p p₁) →
      (∀ i, i ∉ slots → ∀ quest, p₁.questInSlot mgr i = some quest → InOrder count' quest p₁) →
      let p₂ := slots.foldl (fun p i =>
        match p.questInSlot mgr i with
        | some quest => body p quest
        | none => p) p₁
      Bounded mgr p₂ ∧ p₂.has = p.has ∧
        ∀ i quest, p₂.questInSlot mgr i = some quest → InOrder count' quest p₂ := by
  induction slots with
  | nil =>
    intro p₁ _ _ bounded₁ has₁ _ past
    exact ⟨bounded₁, has₁, fun i quest => past i (by simp) quest⟩
  | cons i slots ih =>
    intro p₁ nodup filed₁ bounded₁ has₁ ahead past
    obtain ⟨out, nodup'⟩ := List.nodup_cons.mp nodup
    simp only [List.foldl_cons]
    cases inLog : p₁.questInSlot mgr i with
    | none =>
      apply ih p₁ nodup' filed₁ bounded₁ has₁
      · intro j left
        exact ahead j (List.mem_cons_of_mem i left)
      · intro j gone quest inLog'
        by_cases own : j = i
        · rw [own, inLog] at inLog'
          cases inLog'
        · exact past j (by simp [own, gone]) quest inLog'
    | some quest =>
      obtain ⟨inLog₀, hs⟩ := ahead i (List.mem_cons_self ..) quest inLog
      obtain ⟨within', inOrder⟩ := each p₁ i quest filed₁ inLog₀ hs
      obtain ⟨slot, known⟩ := questInSlot_some inLog
      have different : ∀ j quest', j ≠ i → p₁.questInSlot mgr j = some quest' →
          quest'.Id ≠ quest.Id := by
        intro j quest' other inLog' hs'
        apply other
        apply filed₁.once j i _ (questInSlot_ne inLog')
        rw [slot, (questInSlot_some inLog').1, hs']
      apply ih (body p₁ quest) nodup' (within'.filed filed₁) (within'.bounded bounded₁)
        (within'.has.trans has₁)
      · intro j left quest' inLog'
        have before := within'.inSlot inLog'
        have other : j ≠ i := fun hs' => out (hs' ▸ left)
        obtain ⟨inLog₀', hs'⟩ := ahead j (List.mem_cons_of_mem i left) quest' before
        exact ⟨inLog₀', hs'.trans
          (within'.same (questInSlot_some before).2 (different j quest' other before))⟩
      · intro j gone quest' inLog'
        have before := within'.inSlot inLog'
        by_cases own : j = i
        · rw [own, inLog] at before
          cases before
          exact inOrder j inLog'
        · exact (past j (by simp [own, gone]) quest' before).same
            (within'.same (questInSlot_some before).2 (different j quest' own before))

lemma forSlots_inOrder {body : Player → Quest → Player} (filed : Filed mgr p)
    (bounded : Bounded mgr p)
    (each : ∀ p₁ i quest, Filed mgr p₁ → p.questInSlot mgr i = some quest → Same quest p p₁ →
      Within mgr quest.Id p₁ (body p₁ quest) ∧ ∀ j,
        (body p₁ quest).questInSlot mgr j = some quest → InOrder count' quest (body p₁ quest)) :
    Bounded mgr (p.forSlots mgr body) ∧ (p.forSlots mgr body).has = p.has ∧
      ∀ i quest, (p.forSlots mgr body).questInSlot mgr i = some quest →
        InOrder count' quest (p.forSlots mgr body) :=
  pass_inOrder each (List.finRange MAX_QUEST_LOG_SIZE) p (List.nodup_finRange _) filed bounded rfl
    (fun _ _ _ inLog => ⟨inLog, .refl⟩) (fun i out => absurd (List.mem_finRange i) out)

lemma forSlots_credit (env : Around) {body : Player → Quest → Player} (filed : Filed mgr p)
    (bounded : Bounded mgr p)
    (inOrder : ∀ i quest, p.questInSlot mgr i = some quest → InOrder count quest p)
    (credits : ∀ p₁ i quest, p.questInSlot mgr i = some quest → Same quest p p₁ →
      InOrder count quest p₁ → Credit mgr env count count' quest p₁ (body p₁ quest)) :
    Bounded mgr (p.forSlots mgr body) ∧ (p.forSlots mgr body).has = p.has ∧
      ∀ i quest, (p.forSlots mgr body).questInSlot mgr i = some quest →
        InOrder count' quest (p.forSlots mgr body) := by
  apply forSlots_inOrder filed bounded
  intro p₁ i quest filed₁ inLog hs
  obtain ⟨_, known⟩ := questInSlot_some inLog
  have before : InOrder count quest p₁ := (inOrder i quest inLog).same hs
  have credit := credits p₁ i quest inLog hs before
  exact ⟨credit.within known, fun j inLog' => credit.inOrder before filed₁ known inLog'⟩

end Player

end WorldServer.Quests
