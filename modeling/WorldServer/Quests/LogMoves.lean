import WorldServer.Quests.Credit

/-!
# What an event can do to the log

Every event is a sequence of a few moves: a quest is taken, given back or abandoned, a status or a
counter is written. What holds of the log is shown for the moves, and holds after every event.
-/
namespace WorldServer.Quests

open WorldServer.Lib Relation

namespace Player

variable {mgr : ObjectMgr} {env : Around} {p p' : Player}

/-- The quests in the slots are active, each in one slot, and the active quests exist and have a
status. -/
structure Filed (mgr : ObjectMgr) (p : Player) : Prop where
  active : ∀ i, p.slots i ≠ 0 → (p.m_QuestStatus.lookup (p.slots i)).isSome
  once : ∀ i j, p.slots i = p.slots j → p.slots i ≠ 0 → i = j
  known : ∀ q data, p.m_QuestStatus.lookup q = some data →
    (mgr.GetQuestTemplate q).isSome ∧ data.Status ≠ .none

/-- A move of the log -/
inductive Move (mgr : ObjectMgr) : Player → Player → Prop where
  | take (p : Player) (quest : Quest) (limittime : UInt32)
      (known : mgr.GetQuestTemplate quest.Id = some quest)
      (inactive : p.m_QuestStatus.lookup quest.Id = none) : Move mgr p (p.AddQuest quest limittime)
  | status (p : Player) (quest_id : UInt32) (status : QuestStatus)
      (known : (mgr.GetQuestTemplate quest_id).isSome) (proper : status ≠ .none) :
      Move mgr p (p.SetQuestStatus mgr quest_id status)
  | explored (p : Player) (quest_id : UInt32) (data : QuestStatusData)
      (active : p.m_QuestStatus.lookup quest_id = some data) :
      Move mgr p { p with
        m_QuestStatus := p.m_QuestStatus.insert quest_id { data with Explored := true }
        m_QuestStatusSave := p.m_QuestStatusSave.insert quest_id true }
  | counter (p : Player) (quest_id key counter : UInt32)
      (active : (p.m_QuestStatus.lookup quest_id).isSome) :
      Move mgr p (p.setCounter quest_id key counter)
  | reward (p : Player) (quest : Quest) (gameTime : UInt32)
      (known : mgr.GetQuestTemplate quest.Id = some quest) :
      Move mgr p (p.RewardQuest mgr quest gameTime)
  | abandon (p : Player) (slot : Fin MAX_QUEST_LOG_SIZE) :
      Move mgr p (p.HandleQuestLogRemoveQuest slot)
  | possess (p : Player) (possessions : Possessions) : Move mgr p { p with has := possessions }

abbrev Moves (mgr : ObjectMgr) : Player → Player → Prop := ReflTransGen (Move mgr)

/-! ### The log is kept in order -/

variable {q quest_id : UInt32}

lemma FindQuestSlot_some {i : Fin MAX_QUEST_LOG_SIZE} (found : p.FindQuestSlot q = some i) :
    p.slots i = q := by
  simpa using List.find?_some found

lemma FindQuestSlot_none (none : p.FindQuestSlot q = none) (i : Fin MAX_QUEST_LOG_SIZE) :
    p.slots i ≠ q := by
  have all := List.find?_eq_none.mp none i (List.mem_finRange i)
  simpa using all

lemma setPeriodStatus_writes (mgr : ObjectMgr) (p : Player) (quest : Quest) :
    ∃ df weekly monthly seasonal dailyChanged weeklyChanged monthlyChanged seasonalChanged,
      p.setPeriodStatus mgr quest = { p with
        m_DFQuests := df, m_weeklyquests := weekly, m_monthlyquests := monthly
        m_seasonalquests := seasonal, m_DailyQuestChanged := dailyChanged
        m_WeeklyQuestChanged := weeklyChanged, m_MonthlyQuestChanged := monthlyChanged
        m_SeasonalQuestChanged := seasonalChanged } := by
  rw [setPeriodStatus, SetDailyQuestStatus, SetSeasonalQuestStatus]
  split
  next =>
    split
    next => exact ⟨_, _, _, _, _, _, _, _, rfl⟩
    next => split <;> exact ⟨_, _, _, _, _, _, _, _, rfl⟩
  next => split_ifs <;> exact ⟨_, _, _, _, _, _, _, _, rfl⟩

lemma removeActiveQuest_status (q : UInt32) :
    (p.RemoveActiveQuest q).m_QuestStatus = p.m_QuestStatus.erase q := by
  rw [RemoveActiveQuest]
  split
  next => rfl
  next absent =>
    rw [Table.erase_of_none]
    simpa using absent

/-- What a reward leaves of the log before it is saved -/
structure Rewarded (p p' : Player) (q : UInt32) : Prop where
  slots : ∀ i, p'.slots i = if p.FindQuestSlot q = some i then 0 else p.slots i
  status : p'.m_QuestStatus = p.m_QuestStatus.erase q
  save : p'.m_QuestStatusSave = if (p.m_QuestStatus.lookup q).isSome then
    p.m_QuestStatusSave.insert q false else p.m_QuestStatusSave
  counters : p'.m_questObjectiveStatus = p.m_questObjectiveStatus
  has : p'.has = p.has
  rows : p'.rows = p.rows

lemma rewardQuest_saves (mgr : ObjectMgr) (p : Player) (quest : Quest) (gameTime : UInt32) :
    ∃ before, Rewarded p before quest.Id ∧
      p.RewardQuest mgr quest gameTime = before._SaveQuestStatus mgr gameTime := by
  have first : ∃ slots, p.clearSlot quest.Id = { p with slots := slots } ∧
      ∀ i, slots i = if p.FindQuestSlot quest.Id = some i then 0 else p.slots i := by
    rw [clearSlot]
    cases hf : p.FindQuestSlot quest.Id with
    | none => exact ⟨p.slots, rfl, fun i => by simp⟩
    | some log_slot =>
      refine ⟨_, rfl, fun i => ?_⟩
      by_cases own : i = log_slot
      · simp [own]
      · simp [own, Ne.symm own]
  obtain ⟨slots, cleared, isCleared⟩ := first
  obtain ⟨_, _, _, _, _, _, _, _, written⟩ :=
    setPeriodStatus_writes mgr { p with slots := slots } quest
  refine ⟨_, ?_, rfl⟩
  rw [cleared, written, RemoveActiveQuest]
  split
  next active => exact ⟨isCleared, rfl, (if_pos active).symm, rfl, rfl, rfl⟩
  next absent =>
    have none : p.m_QuestStatus.lookup quest.Id = none := by simpa using absent
    exact ⟨isCleared, (Table.erase_of_none _ none).symm, (if_neg absent).symm, rfl, rfl, rfl⟩

lemma HandleQuestLogRemoveQuest_eq (slot : Fin MAX_QUEST_LOG_SIZE) :
    p.HandleQuestLogRemoveQuest slot =
      if p.slots slot ≠ 0 then (p.RemoveActiveQuest (p.slots slot)).SetQuestSlot 0 slot
      else p.SetQuestSlot 0 slot := by
  rw [HandleQuestLogRemoveQuest]
  split <;> rfl

lemma removeActiveQuest_slots (q : UInt32) : (p.RemoveActiveQuest q).slots = p.slots := by
  rw [RemoveActiveQuest]
  split <;> rfl

lemma Filed.clear (h : Filed mgr p) (status : p'.m_QuestStatus = p.m_QuestStatus.erase q)
    (others : ∀ i, p'.slots i = 0 ∨ p'.slots i = p.slots i ∧ p.slots i ≠ q) : Filed mgr p' where
  active i some := by
    rcases others i with none | ⟨hs, other⟩
    · exact absurd none some
    · rw [hs] at some ⊢
      rw [status, AList.lookup_erase_ne other]
      exact h.active i some
  once i j hs some := by
    rcases others i with none | ⟨hs₁, _⟩
    · exact absurd none some
    · rcases others j with none | ⟨hs₂, _⟩
      · exact absurd (hs.trans none) some
      · rw [hs₁, hs₂] at hs
        exact h.once i j hs (hs₁ ▸ some)
  known q' data hf := by
    rw [status] at hf
    exact h.known q' data ((Table.lookup_erase_iff _ _ _ _).mp hf).2

lemma Filed.write (h : Filed mgr p) {data : QuestStatusData}
    (known : (mgr.GetQuestTemplate q).isSome) (proper : data.Status ≠ .none)
    (status : p'.m_QuestStatus = p.m_QuestStatus.insert q data) (slots : p'.slots = p.slots) :
    Filed mgr p' where
  active i some := by
    rw [slots] at some ⊢
    rw [status]
    by_cases own : p.slots i = q
    · rw [own, AList.lookup_insert]
      rfl
    · rw [AList.lookup_insert_ne own]
      exact h.active i some
  once := by rw [slots]; exact h.once
  known q' data' hf := by
    rw [status] at hf
    rcases (Table.lookup_insert_iff _ _ _ _ _).mp hf with ⟨rfl, rfl⟩ | ⟨_, hf⟩
    · exact ⟨known, proper⟩
    · exact h.known q' data' hf

lemma Filed.move (h : Filed mgr p) (move : Move mgr p p') : Filed mgr p' := by
  cases move with
  | take quest limittime known inactive =>
    rw [AddQuest]
    split
    next => exact h
    next logSlot free =>
      have named := (mgr.named quest.Id quest known).2
      have empty := FindQuestSlot_some free
      have inNoSlot : ∀ i, p.slots i ≠ quest.Id := by
        intro i hs
        have active := h.active i (hs ▸ named)
        rw [hs, inactive] at active
        cases active
      constructor
      · intro i some
        change ((p.m_QuestStatus.insert quest.Id _).lookup (Function.update p.slots logSlot quest.Id i)).isSome
        change Function.update p.slots logSlot quest.Id i ≠ 0 at some
        by_cases own : i = logSlot
        · rw [own, Function.update_self, AList.lookup_insert]
          rfl
        · rw [Function.update_of_ne own] at some ⊢
          rw [AList.lookup_insert_ne (inNoSlot i)]
          exact h.active i some
      · intro i j hs some
        change Function.update p.slots logSlot quest.Id i = Function.update p.slots logSlot quest.Id j at hs
        change Function.update p.slots logSlot quest.Id i ≠ 0 at some
        by_cases own₁ : i = logSlot
        · by_cases own₂ : j = logSlot
          · rw [own₁, own₂]
          · rw [own₁, Function.update_self, Function.update_of_ne own₂] at hs
            exact absurd hs.symm (inNoSlot j)
        · by_cases own₂ : j = logSlot
          · rw [own₂, Function.update_self, Function.update_of_ne own₁] at hs
            exact absurd hs (inNoSlot i)
          · rw [Function.update_of_ne own₁] at hs some
            rw [Function.update_of_ne own₂] at hs
            exact h.once i j hs some
      · intro q data found
        rcases (Table.lookup_insert_iff _ _ _ _ _).mp found with ⟨rfl, rfl⟩ | ⟨_, found⟩
        · rw [known]
          exact ⟨rfl, by simp⟩
        · exact h.known q data found
  | status quest_id status known proper =>
    rw [SetQuestStatus, if_pos known]
    exact h.write known proper rfl rfl
  | explored quest_id data active =>
    obtain ⟨known, proper⟩ := h.known quest_id data active
    have stillProper : ({ data with Explored := true } : QuestStatusData).Status ≠ .none := proper
    exact h.write known stillProper rfl rfl
  | counter => exact { h with }
  | reward quest gameTime known =>
    have named := (mgr.named quest.Id quest known).2
    obtain ⟨before, rewarded, saved⟩ := rewardQuest_saves mgr p quest gameTime
    rw [saved]
    suffices filed : Filed mgr before from { filed with }
    apply h.clear rewarded.status
    intro i
    rw [rewarded.slots i]
    split
    next => exact .inl rfl
    next other =>
      right
      refine ⟨rfl, ?_⟩
      intro own
      cases found : p.FindQuestSlot quest.Id with
      | none => exact FindQuestSlot_none found i own
      | some j =>
        rw [found] at other
        apply other
        rw [h.once i j (own.trans (FindQuestSlot_some found).symm) (own ▸ named)]
  | abandon slot =>
    rw [HandleQuestLogRemoveQuest_eq]
    split
    next some =>
      have status : ((p.RemoveActiveQuest (p.slots slot)).SetQuestSlot 0 slot).m_QuestStatus =
          p.m_QuestStatus.erase (p.slots slot) := removeActiveQuest_status (p.slots slot)
      apply h.clear status
      intro i
      have slots : ((p.RemoveActiveQuest (p.slots slot)).SetQuestSlot 0 slot).slots =
          Function.update p.slots slot 0 := by
        rw [SetQuestSlot, removeActiveQuest_slots]
      rw [slots]
      by_cases own : i = slot
      · rw [own, Function.update_self]
        exact .inl rfl
      · right
        refine ⟨Function.update_of_ne own _ _, ?_⟩
        intro hs
        exact own (h.once i slot hs (hs ▸ some))
    next none =>
      have empty : p.slots slot = 0 := by simpa using none
      have hs : Function.update p.slots slot 0 = p.slots := by
        rw [← empty]
        exact Function.update_eq_self slot p.slots
      rw [SetQuestSlot, hs]
      exact h
  | possess => exact { h with }

lemma Filed.moves (h : Filed mgr p) (moves : Moves mgr p p') : Filed mgr p' := by
  induction moves with
  | refl => exact h
  | tail _ move ih => exact ih.move move

lemma filed_new (has : Possessions) : Filed mgr (new has) where
  active := by
    intro i some
    exact absurd rfl some
  once := by
    intro i j _ some
    exact absurd rfl some
  known := by
    intro q data hf
    cases hf

/-! ### Events are moves -/

lemma known_of_canComplete {other : Bool}
    (completes : p.CanCompleteQuest mgr quest_id other = true) :
    quest_id ≠ 0 ∧ (mgr.GetQuestTemplate quest_id).isSome := by
  rw [CanCompleteQuest] at completes
  split at completes
  next => cases completes
  next named =>
    split at completes
    next => cases completes
    next hf =>
      rw [hf]
      exact ⟨named, rfl⟩

lemma completeQuest_moves (known : (mgr.GetQuestTemplate quest_id).isSome) (gameTime : UInt32) :
    Moves mgr p (p.CompleteQuest mgr quest_id gameTime) := by
  rw [CompleteQuest]
  split
  next => exact .refl
  next =>
    have completed : Moves mgr p (p.SetQuestStatus mgr quest_id .complete) :=
      .single (.status p quest_id .complete known (by simp))
    split
    next quest hf =>
      split
      next =>
        obtain rfl := (mgr.named quest_id quest hf).1
        exact completed.tail (.reward _ quest gameTime hf)
      next => exact completed
    next => exact completed

lemma completeIfPossible_moves (quest_id : UInt32) :
    Moves mgr p (p.completeIfPossible mgr env quest_id) := by
  rw [completeIfPossible]
  split
  next completes => exact completeQuest_moves (known_of_canComplete completes).2 env.gameTime
  next => exact .refl

lemma active_of_incomplete (incomplete : (p.questStatus quest_id).Status = .incomplete) :
    (p.m_QuestStatus.lookup quest_id).isSome := by
  rw [questStatus] at incomplete
  cases hf : p.m_QuestStatus.lookup quest_id with
  | some data => rfl
  | none =>
    rw [hf] at incomplete
    cases incomplete

lemma questInSlot_some {i : Fin MAX_QUEST_LOG_SIZE} {quest : Quest}
    (hf : p.questInSlot mgr i = some quest) :
    p.slots i = quest.Id ∧ mgr.GetQuestTemplate quest.Id = some quest := by
  rw [questInSlot] at hf
  split at hf
  next => cases hf
  next =>
    rw [(mgr.named _ quest hf).1]
    exact ⟨rfl, hf⟩

lemma forSlots_moves {body : Player → Quest → Player} (h : Filed mgr p)
    (moves : ∀ p quest, Filed mgr p → mgr.GetQuestTemplate quest.Id = some quest →
      (p.m_QuestStatus.lookup quest.Id).isSome → Moves mgr p (body p quest)) :
    Moves mgr p (p.forSlots mgr body) := by
  rw [forSlots]
  generalize List.finRange MAX_QUEST_LOG_SIZE = slots
  induction slots generalizing p with
  | nil => exact .refl
  | cons i slots ih =>
    rw [List.foldl_cons]
    cases found : p.questInSlot mgr i with
    | none => exact ih h
    | some quest =>
      obtain ⟨slot, known⟩ := questInSlot_some found
      have named := (mgr.named quest.Id quest known).2
      have active := h.active i (slot ▸ named)
      rw [slot] at active
      have first := moves p quest h known active
      exact first.trans (ih (h.moves first))

section Events

variable (h : Filed mgr p)

include h

lemma KilledMonsterCredit_moves (realEntry : UInt32) :
    Moves mgr p (p.KilledMonsterCredit mgr env realEntry) := by
  apply forSlots_moves h
  intro p qInfo h known active
  dsimp only
  split_ifs
  · exact .refl
  · split
    · exact .refl
    · split_ifs
      · exact (ReflTransGen.single (.counter p _ _ _ active)).trans (completeIfPossible_moves _)
      · exact completeIfPossible_moves _
  · exact .refl

lemma KilledPlayerCredit_moves : Moves mgr p (p.KilledPlayerCredit mgr env) := by
  apply forSlots_moves h
  intro p qInfo h known active
  dsimp only
  split_ifs
  · exact .refl
  · split
    · exact .refl
    · split_ifs
      · exact (ReflTransGen.single (.counter p _ _ _ active)).trans (completeIfPossible_moves _)
      · exact completeIfPossible_moves _
  · exact .refl

lemma QuestObjectiveSatisfy_moves (objectId amount : UInt32) (type : ObjectiveType) :
    Moves mgr p (p.QuestObjectiveSatisfy mgr env objectId amount type) := by
  apply forSlots_moves h
  intro p quest h known active
  split_ifs
  · exact .refl
  · exact .refl
  · split
    · exact .refl
    · exact (ReflTransGen.single (.counter p _ _ _ active)).trans (completeIfPossible_moves _)

lemma ItemRemovedQuestCheck_moves (entry count : UInt32) :
    Moves mgr p (p.ItemRemovedQuestCheck mgr entry count) := by
  apply forSlots_moves h
  intro p qInfo h known active
  have named := (mgr.named qInfo.Id qInfo known).2
  have written : ∀ key counter,
      Moves mgr p ((p.setCounter qInfo.Id key counter).IncompleteQuest mgr qInfo.Id) := by
    intro key counter
    rw [IncompleteQuest, if_neg named]
    apply (ReflTransGen.single (.counter p qInfo.Id key counter active)).tail
    exact .status _ qInfo.Id .incomplete (by rw [known]; rfl) (by simp)
  dsimp only
  split
  · exact .refl
  · split
    · exact .refl
    · split_ifs
      all_goals first
        | exact written _ _
        | exact .refl

lemma MoneyChanged_moves (count : UInt32) : Moves mgr p (p.MoneyChanged mgr env count) := by
  apply forSlots_moves h
  intro p qInfo h known active
  have named := (mgr.named qInfo.Id qInfo known).2
  split_ifs
  · exact .refl
  · generalize qInfo.m_questObjectives.filter (fun o => o.type = .money) = objectives
    clear active h
    induction objectives generalizing p with
    | nil => exact .refl
    | cons o objectives ih =>
      rw [List.foldl_cons]
      refine ReflTransGen.trans ?_ (ih _)
      split
      · split_ifs
        · exact completeIfPossible_moves _
        · exact .refl
      · split_ifs
        · rw [IncompleteQuest, if_neg named]
          exact .single (.status _ _ _ (by rw [known]; rfl) (by simp))
        · exact .refl
      · exact .refl

end Events

lemma addedObjective_some {entry : UInt32} {qInfo : Quest} {o : QuestObjective}
    (found : p.addedObjective mgr entry = some (qInfo, o)) :
    mgr.GetQuestTemplate qInfo.Id = some qInfo ∧ (p.questStatus qInfo.Id).Status = .incomplete ∧
      (∃ i, p.slots i = qInfo.Id) ∧
      qInfo.m_questObjectives.find? (fun o => o.type = .item ∧ o.ObjectId = entry) = some o := by
  obtain ⟨i, _, found⟩ := List.exists_of_findSome?_eq_some found
  simp only [bind, Option.bind_eq_some_iff, guard, pure] at found
  obtain ⟨q, inSlot, _, incomplete, _, _, o', first, hs⟩ := found
  cases hs
  obtain ⟨slot, known⟩ := questInSlot_some inSlot
  split at incomplete
  next status => exact ⟨known, status, ⟨i, slot⟩, first⟩
  next => cases incomplete

lemma ItemAddedQuestCheck_moves (entry count : UInt32) :
    Moves mgr p (p.ItemAddedQuestCheck mgr env entry count) := by
  rw [ItemAddedQuestCheck]
  split
  next => exact .refl
  next qInfo o found =>
    have active := active_of_incomplete (addedObjective_some found).2.1
    dsimp only
    split_ifs
    · exact (ReflTransGen.single (.counter p _ _ _ active)).trans (completeIfPossible_moves _)
    · exact (ReflTransGen.single (.counter p _ _ _ active)).trans (completeIfPossible_moves _)
    · exact completeIfPossible_moves _

lemma ReputationChanged_eq (faction : UInt32) : p.ReputationChanged mgr env faction = p := by
  have none : mgr.GetQuestTemplate 0 = none := by
    cases hf : mgr.GetQuestTemplate 0 with
    | none => rfl
    | some quest => exact absurd rfl (mgr.named 0 quest hf).2
  rw [ReputationChanged]
  generalize List.finRange MAX_QUEST_LOG_SIZE = slots
  induction slots with
  | nil => rfl
  | cons i slots ih =>
    rw [List.foldl_cons]
    by_cases empty : p.slots i = 0
    · simp only [empty, ne_eq, not_true_eq_false, if_false, none]
      exact ih
    · simp only [ne_eq, empty, not_false_eq_true, if_true]
      exact ih

lemma AreaExploredOrEventHappens_moves (h : Filed mgr p) (questId : UInt32) :
    Moves mgr p (p.AreaExploredOrEventHappens mgr env questId) := by
  rw [AreaExploredOrEventHappens]
  split
  next => exact .refl
  next named =>
    split
    next inLog =>
      obtain ⟨i, found⟩ := Option.isSome_iff_exists.mp inLog.1
      have slot := FindQuestSlot_some found
      have active := h.active i (slot ▸ named)
      rw [slot] at active
      obtain ⟨data, found⟩ := Option.isSome_iff_exists.mp active
      have data_eq : p.questStatus questId = data := by rw [questStatus, found]; rfl
      rw [data_eq]
      exact (ReflTransGen.single (.explored p questId data found)).trans (completeIfPossible_moves _)
    next => exact completeIfPossible_moves _

lemma Filed.inactive_of_canTake (h : Filed mgr p) {quest : Quest} {other : Bool}
    (known : mgr.GetQuestTemplate quest.Id = some quest)
    (takes : p.CanTakeQuest mgr quest other = true) : p.m_QuestStatus.lookup quest.Id = none := by
  have named := (mgr.named quest.Id quest known).2
  simp only [CanTakeQuest, Bool.and_eq_true, SatisfyQuestStatus, decide_eq_true_eq] at takes
  have status := takes.1.1.1.1.1
  rw [GetQuestStatus, if_neg named] at status
  cases hf : p.m_QuestStatus.lookup quest.Id with
  | none => rfl
  | some data =>
    rw [hf] at status
    exact absurd status (h.known quest.Id data hf).2

lemma HandleQuestgiverAcceptQuest_moves (h : Filed mgr p) (quest_id limittime : UInt32) :
    Moves mgr p (p.HandleQuestgiverAcceptQuest mgr env quest_id limittime) := by
  rw [HandleQuestgiverAcceptQuest]
  split
  next => exact .refl
  next quest known =>
    obtain rfl := (mgr.named quest_id quest known).1
    split
    next => exact .refl
    next takes =>
      split
      next => exact .refl
      next =>
        have inactive := h.inactive_of_canTake known (by simpa using takes)
        exact (ReflTransGen.single (.take p quest limittime known inactive)).trans
          (completeIfPossible_moves _)

lemma happen_moves (h : Filed mgr p) (event : Event) : Moves mgr p (p.happen mgr env event) := by
  cases event with
  | accept quest_id limittime =>
    exact HandleQuestgiverAcceptQuest_moves h quest_id limittime
  | abandon slot =>
    exact .single (.abandon p slot)
  | kill realEntry =>
    exact KilledMonsterCredit_moves h realEntry
  | killPlayer =>
    exact KilledPlayerCredit_moves h
  | useObject entry =>
    rw [happen, KillCreditGO]
    exact QuestObjectiveSatisfy_moves h entry 1 .go
  | talk entry =>
    rw [happen, TalkedToCreature]
    exact QuestObjectiveSatisfy_moves h entry 1 .npc
  | gain entry count =>
    exact (ItemAddedQuestCheck_moves entry count).tail (.possess _ _)
  | lose entry count =>
    rw [happen, DestroyItem]
    split
    · exact (ItemRemovedQuestCheck_moves h entry count).tail (.possess _ _)
    · exact .refl
  | money value =>
    have possessed : Move mgr p { p with has := { p.has with money := value } } := .possess p _
    rw [happen, SetMoney]
    exact (ReflTransGen.single possessed).trans (MoneyChanged_moves (h.move possessed) value.toUInt32)
  | reputation faction value =>
    rw [happen, SetReputation, ReputationChanged_eq]
    exact .single (.possess p _)
  | explore questId =>
    exact AreaExploredOrEventHappens_moves h questId

end Player

end WorldServer.Quests
