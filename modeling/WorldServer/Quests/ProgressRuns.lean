import WorldServer.Lib.Run
import WorldServer.Quests.ProgressItems

/-!
# Progress along a run

Quests that come into the log, are completed and leave it, and then runs of events.
-/
namespace WorldServer.Quests

open WorldServer.Lib Player

namespace Tally

variable {mgr : ObjectMgr} {t : Tally} {x : Occasion} {p p' : Player} {quest : Quest}
  {o : QuestObjective} {i : Fin MAX_QUEST_LOG_SIZE}

/-! ### Quests that are completed and abandoned -/

section Complete

variable {env : Around} {count : QuestObjective → ℕ}

lemma complete_inOrder {questId : UInt32} (filed : Filed mgr p) (bounded : Bounded mgr p)
    (own : ∀ i quest, p.questInSlot mgr i = some quest → quest.Id = questId →
      Ready count quest p ∨ InOrder count quest p)
    (others : ∀ i quest, p.questInSlot mgr i = some quest → quest.Id ≠ questId →
      InOrder count quest p) :
    Bounded mgr (p.completeIfPossible mgr env questId) ∧
      (p.completeIfPossible mgr env questId).has = p.has ∧
      ∀ i quest, (p.completeIfPossible mgr env questId).questInSlot mgr i = some quest →
        InOrder count quest (p.completeIfPossible mgr env questId) := by
  cases found : mgr.GetQuestTemplate questId with
  | none =>
    have unknown : p.CanCompleteQuest mgr questId (env.other questId) = false := by
      by_contra completes
      have exists' := (known_of_canComplete (by simpa using completes)).2
      rw [found] at exists'
      cases exists'
    rw [completeIfPossible, unknown, if_neg (by simp)]
    refine ⟨bounded, rfl, ?_⟩
    intro i quest inLog
    apply others i quest inLog
    intro same
    have known := (questInSlot_some inLog).2
    rw [same, found] at known
    cases known
  | some quest₀ =>
    obtain rfl := (mgr.named questId quest₀ found).1
    have within' : Within mgr quest₀.Id p (p.completeIfPossible mgr env quest₀.Id) :=
      within_complete found
    refine ⟨within'.bounded bounded, within'.has, ?_⟩
    intro i quest inLog
    obtain ⟨_, known⟩ := questInSlot_some inLog
    have before := within'.inSlot inLog
    by_cases same : quest.Id = quest₀.Id
    · rw [same, found] at known
      cases known
      rcases own i quest₀ before rfl with ready | inOrder
      · exact ready.complete filed found inLog
      · rw [inOrder.complete_eq found]
        exact inOrder
    · exact (others i quest before same).same (within'.same known same)

end Complete

lemma within_explored {data : QuestStatusData}
    (active : p.m_QuestStatus.lookup quest.Id = some data) :
    Within mgr quest.Id p { p with
      m_QuestStatus := p.m_QuestStatus.insert quest.Id { data with Explored := true }
      m_QuestStatusSave := p.m_QuestStatusSave.insert quest.Id true } where
  slots _ := .inl rfl
  statuses _ other := AList.lookup_insert_ne other
  counters _ _ := rfl
  rewarded _ _ := .rfl
  has := rfl
  filed h := h.move (.explored p quest.Id data active)
  bounded h := h

/-- A quest whose place was explored is still complete, or is looked at for completion. -/
lemma explored_inOrder {count : QuestObjective → ℕ} (h : InOrder count quest p)
    {data : QuestStatusData} (active : p.m_QuestStatus.lookup quest.Id = some data) :
    Ready count quest { p with
        m_QuestStatus := p.m_QuestStatus.insert quest.Id { data with Explored := true }
        m_QuestStatusSave := p.m_QuestStatusSave.insert quest.Id true } ∨
      InOrder count quest { p with
        m_QuestStatus := p.m_QuestStatus.insert quest.Id { data with Explored := true }
        m_QuestStatusSave := p.m_QuestStatusSave.insert quest.Id true } := by
  have data_eq : p.questStatus quest.Id = data := by rw [questStatus, active]; rfl
  have explored : ({ p with
      m_QuestStatus := p.m_QuestStatus.insert quest.Id { data with Explored := true }
      m_QuestStatusSave := p.m_QuestStatusSave.insert quest.Id true } : Player).questStatus quest.Id =
      { data with Explored := true } := by
    simp [questStatus]
  have judged := h.judged
  rw [data_eq] at judged
  split at judged
  next done =>
    right
    refine { h.toFit with judged := ?_ }
    rw [explored, if_pos]
    · exact judged
    · rw [Player.finished, explored]
      rw [Player.finished, data_eq] at done
      simp only [Bool.or_true, Bool.true_and, Bool.and_eq_true] at done ⊢
      exact ⟨done.1.2, done.2⟩
  next =>
    left
    refine { h.toFit with incomplete := ?_ }
    rw [explored]
    exact judged

lemma explore_inOrder (h : Exact mgr t) (env : Around) (questId : UInt32) :
    Bounded mgr (t.player.AreaExploredOrEventHappens mgr env questId) ∧
      (t.player.AreaExploredOrEventHappens mgr env questId).has = t.player.has ∧
      ∀ i quest, (t.player.AreaExploredOrEventHappens mgr env questId).questInSlot mgr i = some quest →
        InOrder t.count quest (t.player.AreaExploredOrEventHappens mgr env questId) := by
  rw [AreaExploredOrEventHappens]
  split
  next => exact ⟨h.bounded, rfl, h.inOrder⟩
  next named =>
    split
    next inLog =>
      obtain ⟨i, found⟩ := Option.isSome_iff_exists.mp inLog.1
      have slot := FindQuestSlot_some found
      have active := h.filed.active i (slot ▸ named)
      rw [slot] at active
      obtain ⟨data, active⟩ := Option.isSome_iff_exists.mp active
      have data_eq : t.player.questStatus questId = data := by rw [questStatus, active]; rfl
      obtain ⟨quest, known⟩ := Option.isSome_iff_exists.mp (h.filed.known questId data active).1
      obtain rfl := (mgr.named questId quest known).1
      have inSlot : t.player.questInSlot mgr i = some quest := by
        rw [questInSlot, slot, if_neg named, known]
      have order := h.inOrder i quest inSlot
      have within' : Within mgr quest.Id t.player { t.player with
          m_QuestStatus := t.player.m_QuestStatus.insert quest.Id { data with Explored := true }
          m_QuestStatusSave := t.player.m_QuestStatusSave.insert quest.Id true } :=
        within_explored active
      rw [data_eq]
      apply complete_inOrder (within'.filed h.filed) (within'.bounded h.bounded)
      · rintro j quest' inLog' same
        have known' := (questInSlot_some inLog').2
        rw [same, known] at known'
        cases known'
        exact explored_inOrder order active
      · intro j quest' inLog' other
        exact (h.inOrder j quest' (within'.inSlot inLog')).same
          (within'.same (questInSlot_some inLog').2 other)
    next =>
      exact complete_inOrder h.filed h.bounded (fun i quest inLog _ => .inr (h.inOrder i quest inLog))
        (fun i quest inLog _ => h.inOrder i quest inLog)

lemma abandon_inOrder (h : Exact mgr t) (slot : Fin MAX_QUEST_LOG_SIZE) :
    Bounded mgr (t.player.HandleQuestLogRemoveQuest slot) ∧
      (t.player.HandleQuestLogRemoveQuest slot).has = t.player.has ∧
      ∀ i quest, (t.player.HandleQuestLogRemoveQuest slot).questInSlot mgr i = some quest →
        InOrder t.count quest (t.player.HandleQuestLogRemoveQuest slot) := by
  have filed := h.filed.move (.abandon t.player slot)
  have writes : ∃ status save slots, t.player.HandleQuestLogRemoveQuest slot =
      { t.player with m_QuestStatus := status, m_QuestStatusSave := save, slots := slots } ∧
      slots = Function.update t.player.slots slot 0 ∧
      ∀ q, q ≠ t.player.slots slot ∨ q = 0 → status.lookup q = t.player.m_QuestStatus.lookup q := by
    rw [HandleQuestLogRemoveQuest_eq]
    split
    next =>
      rw [RemoveActiveQuest]
      split
      next =>
        refine ⟨_, _, _, rfl, rfl, ?_⟩
        rintro q (other | rfl)
        · exact AList.lookup_erase_ne other
        · exact AList.lookup_erase_ne (by rintro same; simp_all)
      next => exact ⟨_, _, _, rfl, rfl, fun _ _ => rfl⟩
    next => exact ⟨_, _, _, rfl, rfl, fun _ _ => rfl⟩
  obtain ⟨status, save, slots, written, cleared, statuses⟩ := writes
  rw [written] at filed ⊢
  refine ⟨h.bounded, rfl, ?_⟩
  intro i quest inLog
  have slot_eq : slots i = quest.Id := (questInSlot_some inLog).1
  have known := (questInSlot_some inLog).2
  have named := (mgr.named quest.Id quest known).2
  -- the slot that is left is another one
  have other : i ≠ slot := by
    rintro rfl
    rw [cleared, Function.update_self] at slot_eq
    exact named slot_eq.symm
  rw [cleared, Function.update_of_ne other] at slot_eq
  have before : t.player.questInSlot mgr i = some quest := by
    rw [questInSlot, slot_eq, if_neg named, known]
  apply (h.inOrder i quest before).same
  refine ⟨?_, fun _ _ => rfl, .rfl, rfl⟩
  apply statuses
  left
  intro same
  apply other
  apply h.filed.once i slot (slot_eq.trans same)
  rw [slot_eq]
  exact named

/-! ### Accepting a quest -/

section Counters

variable {counters : Table UInt32 UInt32} {objectives : List QuestObjective} {objectiveId : UInt32}

lemma getD_insertAbsent : ((objectives.foldl (fun counters o =>
    if (counters.lookup o.Id).isSome then counters else counters.insert o.Id (0 : UInt32))
      counters).lookup objectiveId).getD 0 = (counters.lookup objectiveId).getD 0 := by
  induction objectives generalizing counters with
  | nil => rfl
  | cons o objectives ih =>
    rw [List.foldl_cons, ih]
    split
    next => rfl
    next absent =>
      by_cases own : objectiveId = o.Id
      · have none : counters.lookup o.Id = none := by simpa using absent
        rw [own, AList.lookup_insert, none]
        rfl
      · rw [AList.lookup_insert_ne own]

lemma lookup_insertEach (f : QuestObjective → UInt32)
    (other : objectiveId ∉ objectives.map QuestObjective.Id) :
    (objectives.foldl (fun counters o => counters.insert o.Id (f o)) counters).lookup objectiveId =
      counters.lookup objectiveId := by
  induction objectives generalizing counters with
  | nil => rfl
  | cons o objectives ih =>
    rw [List.map_cons, List.mem_cons, not_or] at other
    rw [List.foldl_cons, ih other.2, AList.lookup_insert_ne other.1]

lemma lookup_insertEach_own (f : QuestObjective → UInt32)
    (distinct : (objectives.map QuestObjective.Id).Nodup) (member : o ∈ objectives) :
    (objectives.foldl (fun counters o => counters.insert o.Id (f o)) counters).lookup o.Id =
      some (f o) := by
  induction objectives generalizing counters with
  | nil => cases member
  | cons first objectives ih =>
    rw [List.map_cons, List.nodup_cons] at distinct
    rw [List.foldl_cons]
    rcases List.mem_cons.mp member with rfl | rest
    · rw [lookup_insertEach f distinct.1, AList.lookup_insert]
    · exact ih distinct.2 rest

end Counters

lemma getD_addObjectives_other {counters : Table UInt32 UInt32} {objectiveId : UInt32}
    (other : objectiveId ∉ quest.m_questObjectives.map QuestObjective.Id) :
    ((p.addObjectives quest counters).lookup objectiveId).getD 0 =
      (counters.lookup objectiveId).getD 0 := by
  rw [addObjectives]
  split
  next => exact getD_insertAbsent
  next =>
    rw [lookup_insertEach, getD_insertAbsent]
    intro inside
    apply other
    exact List.map_subset _ List.filter_sublist.subset inside

lemma getD_addObjectives_own {counters : Table UInt32 UInt32}
    (distinct : (quest.m_questObjectives.map QuestObjective.Id).Nodup)
    (member : o ∈ quest.m_questObjectives) :
    ((p.addObjectives quest counters).lookup o.Id).getD 0 =
      if o.type = .item ∧ quest.GetQuestObjectiveCountType .item ≠ 0 then
        min (p.has.owned o.ObjectId) o.required
      else (counters.lookup o.Id).getD 0 := by
  have distinct' : ((quest.m_questObjectives.filter fun o => o.type = .item).map
      QuestObjective.Id).Nodup := (List.filter_sublist.map _).nodup distinct
  rw [addObjectives]
  split
  next none =>
    rw [if_neg fun item => item.2 none]
    exact getD_insertAbsent
  next some =>
    split
    next item =>
      rw [lookup_insertEach_own _ distinct' (List.mem_filter.mpr ⟨member, by simpa using item.1⟩)]
      rfl
    next other =>
      rw [lookup_insertEach, getD_insertAbsent]
      intro inside
      obtain ⟨o', filtered, same⟩ := List.mem_map.mp inside
      obtain ⟨member', item⟩ := List.mem_filter.mp filtered
      obtain rfl := List.inj_on_of_nodup_map distinct member' member same
      exact other ⟨by simpa using item, some⟩

lemma countAfter_idle (known : mgr.GetQuestTemplate quest.Id = some quest)
    (notTaken : t.player.takes mgr x ≠ some quest)
    (noCredit : ∀ o, x.event.credits x.env quest o = false) (member : o ∈ quest.m_questObjectives) :
    t.countAfter mgr x o = t.count o := by
  rw [countAfter_eq known member notTaken, noCredit, if_neg (by simp)]

lemma fresh_of_canTake (known : mgr.GetQuestTemplate quest.Id = some quest)
    (inactive : p.m_QuestStatus.lookup quest.Id = none) {other : Bool}
    (takes : p.CanTakeQuest mgr quest other = true) :
    quest.IsRepeatable = true ∨ quest.Id ∉ p.m_RewardedQuests := by
  have named := (mgr.named quest.Id quest known).2
  simp only [CanTakeQuest, Bool.and_eq_true, SatisfyQuestStatus, decide_eq_true_eq] at takes
  have status := takes.1.1.1.1.1
  rw [GetQuestStatus, if_neg named, inactive, known] at status
  dsimp only at status
  by_contra old
  rw [if_pos (by simpa using old)] at status
  cases status

section Accept

variable {limittime : UInt32} {logSlot : Fin MAX_QUEST_LOG_SIZE}
  (known : mgr.GetQuestTemplate quest.Id = some quest) (clean : t.Clean quest)
  (free : t.player.FindQuestSlot 0 = some logSlot)

include free

lemma addQuest_slots : (t.player.AddQuest quest limittime).slots =
    Function.update t.player.slots logSlot quest.Id := by
  rw [AddQuest, free]

lemma addQuest_has : (t.player.AddQuest quest limittime).has = t.player.has := by
  rw [AddQuest, free]

lemma addQuest_rewarded :
    (t.player.AddQuest quest limittime).m_RewardedQuests = t.player.m_RewardedQuests := by
  rw [AddQuest, free]

lemma addQuest_status :
    ((t.player.AddQuest quest limittime).questStatus quest.Id).Status = .incomplete := by
  rw [AddQuest, free]
  simp [questStatus]

lemma addQuest_counter_other {objectiveId : UInt32}
    (other : objectiveId ∉ quest.m_questObjectives.map QuestObjective.Id) :
    (t.player.AddQuest quest limittime).GetQuestObjectiveCounter objectiveId =
      t.player.GetQuestObjectiveCounter objectiveId := by
  rw [AddQuest, free]
  exact getD_addObjectives_other other

include known

lemma addQuest_same {quest' : Quest} (other : quest'.Id ≠ quest.Id)
    (inLog : (t.player.AddQuest quest limittime).questInSlot mgr i = some quest') :
    t.player.questInSlot mgr i = some quest' ∧
      Same quest' t.player (t.player.AddQuest quest limittime) := by
  obtain ⟨slot, known'⟩ := questInSlot_some inLog
  rw [addQuest_slots free] at slot
  have elsewhere : i ≠ logSlot := by
    rintro rfl
    rw [Function.update_self] at slot
    exact other slot.symm
  rw [Function.update_of_ne elsewhere] at slot
  constructor
  · rw [questInSlot, slot, if_neg (mgr.named quest'.Id quest' known').2, known']
  · constructor
    · rw [AddQuest, free]
      exact AList.lookup_insert_ne other
    · intro o member
      apply addQuest_counter_other free
      intro inside
      obtain ⟨o', member', same⟩ := List.mem_map.mp inside
      have questOf := mgr.questOf quest.Id quest o' known member'
      rw [same, mgr.questOf quest'.Id quest' o known' member] at questOf
      exact other questOf
    · rw [addQuest_rewarded free]
    · exact addQuest_has free

include clean

lemma addQuest_counter (member : o ∈ quest.m_questObjectives) :
    (t.player.AddQuest quest limittime).GetQuestObjectiveCounter o.Id =
      if o.type = .item then min (t.player.has.owned o.ObjectId) o.required else 0 := by
  rw [AddQuest, free]
  change ((t.player.addObjectives quest _).lookup o.Id).getD 0 = _
  rw [getD_addObjectives_own (mgr.distinct quest.Id quest known) member]
  by_cases item : o.type = .item
  · rw [if_pos ⟨item, clean.items o member item⟩, if_pos item]
  · rw [if_neg fun both => item both.1, if_neg item]
    exact clean.counters o member item

lemma addQuest_bounded (bounded : Bounded mgr t.player) :
    Bounded mgr (t.player.AddQuest quest limittime) := by
  intro q quest' known' o' member'
  by_cases inside : o'.Id ∈ quest.m_questObjectives.map QuestObjective.Id
  · obtain ⟨o, member, same⟩ := List.mem_map.mp inside
    obtain rfl := objective_unique known known' member member' same.symm
    rw [addQuest_counter known clean free member]
    split
    next item =>
      constructor
      · rw [UInt32.le_iff_toNat_le, UInt32.toNat_min]
        exact min_le_right _ _
      · intro untracked
        rw [tracked_of_item item] at untracked
        cases untracked
    next => exact ⟨UInt32.zero_le, fun _ => rfl⟩
  · rw [addQuest_counter_other free inside]
    exact bounded q quest' known' o' member'

lemma addQuest_ready (taken : t.player.takes mgr x = some quest)
    (fresh : quest.IsRepeatable = true ∨ quest.Id ∉ t.player.m_RewardedQuests) :
    Ready (t.countAfter mgr x) quest (t.player.AddQuest quest limittime) where
  fresh := by
    rw [addQuest_rewarded free]
    exact fresh
  counted o member tracked := by
    rw [addQuest_counter known clean free member, countAfter]
    split
    next => rw [UInt32.toNat_min, min_comm]
    next =>
      rw [creditsAfter, objective_eq known member]
      dsimp only
      rw [if_pos taken, UInt32.toNat_zero, Nat.min_zero]
  currency := by
    rw [addQuest_has free]
    exact clean.currency
  incomplete := addQuest_status free

end Accept

lemma takes_iff {quest_id limittime : UInt32} (event : x.event = .accept quest_id limittime) :
    p.takes mgr x = some quest ↔ mgr.GetQuestTemplate quest_id = some quest ∧
      p.CanTakeQuest mgr quest (x.env.other quest_id) = true ∧
      p.CanAddQuest (x.env.stores quest_id) = true := by
  rw [takes, event]
  simp [Option.filter_eq_some_iff]

section

variable (h : Exact mgr t)
include h

lemma idle_inOrder (notTaken : ∀ quest, t.player.takes mgr x ≠ some quest)
    (noCredit : ∀ quest o, x.event.credits x.env quest o = false) :
    ∀ i quest, t.player.questInSlot mgr i = some quest →
      InOrder (t.countAfter mgr x) quest t.player := by
  intro i quest inLog
  apply (h.inOrder i quest inLog).recount
  intro o member _
  rw [countAfter_idle (questInSlot_some inLog).2 (notTaken quest) (noCredit quest) member]

lemma accept_inOrder (smooth : t.Smooth mgr x) {quest_id limittime : UInt32}
    (event : x.event = .accept quest_id limittime) :
    Bounded mgr (t.player.HandleQuestgiverAcceptQuest mgr x.env quest_id limittime) ∧
      (t.player.HandleQuestgiverAcceptQuest mgr x.env quest_id limittime).has = t.player.has ∧
      ∀ i quest, (t.player.HandleQuestgiverAcceptQuest mgr x.env quest_id limittime).questInSlot mgr i =
          some quest → InOrder (t.countAfter mgr x) quest
        (t.player.HandleQuestgiverAcceptQuest mgr x.env quest_id limittime) := by
  have noCredit : ∀ quest o, x.event.credits x.env quest o = false := by
    intro quest o
    rw [event]
    rfl
  have refused : (∀ quest, t.player.takes mgr x ≠ some quest) →
      Bounded mgr t.player ∧ t.player.has = t.player.has ∧
      ∀ i quest, t.player.questInSlot mgr i = some quest →
        InOrder (t.countAfter mgr x) quest t.player :=
    fun notTaken => ⟨h.bounded, rfl, idle_inOrder h notTaken noCredit⟩
  rw [HandleQuestgiverAcceptQuest]
  split
  next unknown =>
    apply refused
    intro quest taken
    have known := ((takes_iff event).mp taken).1
    rw [unknown] at known
    cases known
  next quest known =>
    obtain rfl := (mgr.named quest_id quest known).1
    have same : ∀ quest', t.player.takes mgr x = some quest' → quest' = quest := by
      intro quest' taken
      have known' := ((takes_iff event).mp taken).1
      rw [known] at known'
      exact (Option.some.inj known').symm
    split
    next refusal =>
      apply refused
      intro quest' taken
      have takes := ((takes_iff event).mp taken).2.1
      rw [same quest' taken] at takes
      simp [takes] at refusal
    next canTake =>
      split
      next refusal =>
        apply refused
        intro quest' taken
        have adds := ((takes_iff event).mp taken).2.2
        simp [adds] at refusal
      next canAdd =>
        have takes : t.player.CanTakeQuest mgr quest (x.env.other quest.Id) = true := by
          simpa using canTake
        have adds : t.player.CanAddQuest (x.env.stores quest.Id) = true := by simpa using canAdd
        have taken : t.player.takes mgr x = some quest := (takes_iff event).mpr ⟨known, takes, adds⟩
        have clean := smooth.taken quest taken
        have inactive := h.filed.inactive_of_canTake known takes
        have filed := h.filed.move (.take t.player quest limittime known inactive)
        rw [CanAddQuest, SatisfyQuestLog, Bool.and_eq_true] at adds
        obtain ⟨logSlot, free⟩ := Option.isSome_iff_exists.mp adds.1
        have has : (t.player.AddQuest quest limittime).has = t.player.has := addQuest_has free
        rw [← has]
        apply complete_inOrder filed (addQuest_bounded known clean free h.bounded)
        · intro i quest' inLog own
          have known' := (questInSlot_some inLog).2
          rw [own, known] at known'
          cases known'
          exact .inl (addQuest_ready known clean free taken (fresh_of_canTake known inactive takes))
        · intro i quest' inLog other
          obtain ⟨before, unchanged⟩ := addQuest_same known free other inLog
          have notTaken : t.player.takes mgr x ≠ some quest' := by
            intro taken'
            rw [same quest' taken'] at other
            exact other rfl
          apply InOrder.same _ unchanged
          apply (h.inOrder i quest' before).recount
          intro o member _
          rw [countAfter_idle (questInSlot_some inLog).2 notTaken (noCredit quest') member]

/-! ### Runs -/

lemma Exact.of_handler (happens : t.player.happen mgr x.env x.event = p')
    (bounded : Bounded mgr p') (owned : p'.has.owned = t.player.has.owned)
    (inOrder : ∀ i quest, p'.questInSlot mgr i = some quest →
      InOrder (t.countAfter mgr x) quest p') : Exact mgr (t.step mgr x) where
  filed := h.filed.moves (happen_moves h.filed x.event)
  bounded := by
    rw [step, happens]
    exact bounded
  inOrder i quest inLog := by
    have same : (t.step mgr x).player.has.owned = t.player.has.owned := by
      rw [step, happens]
      exact owned
    rw [step_count same]
    rw [step, happens] at inLog ⊢
    exact inOrder i quest inLog

lemma Exact.of_uncounted (happens : t.player.happen mgr x.env x.event = p')
    (notTaken : ∀ quest, t.player.takes mgr x ≠ some quest)
    (noCredit : ∀ quest o, x.event.credits x.env quest o = false) (bounded : Bounded mgr p')
    (owned : p'.has.owned = t.player.has.owned)
    (inOrder : ∀ i quest, p'.questInSlot mgr i = some quest → InOrder t.count quest p') :
    Exact mgr (t.step mgr x) := by
  apply h.of_handler happens bounded owned
  intro i quest inLog
  apply (inOrder i quest inLog).recount
  intro o member _
  rw [countAfter_idle (questInSlot_some inLog).2 (notTaken quest) (noCredit quest) member]

lemma Exact.of_items {entry : UInt32} {f : UInt32 → UInt32}
    (happens : t.player.happen mgr x.env x.event = p'.withItems entry f)
    (notTaken : ∀ quest, t.player.takes mgr x ≠ some quest)
    (noCredit : ∀ quest o, x.event.credits x.env quest o = false) (bounded : Bounded mgr p')
    (has : p'.has = t.player.has) (inOrder : ∀ i quest, p'.questInSlot mgr i = some quest →
      InOrder (t.countItems entry (f (t.player.has.owned entry)).toNat) quest p') :
    Exact mgr (t.step mgr x) where
  filed := h.filed.moves (happen_moves h.filed x.event)
  bounded := by
    rw [step, happens]
    exact bounded
  inOrder i quest inLog := by
    rw [step, happens] at inLog
    obtain ⟨_, known⟩ := questInSlot_some inLog
    have order := (inOrder i quest inLog).withItems entry f
    have player : (t.step mgr x).player = p'.withItems entry f := happens
    rw [player]
    apply order.recount
    intro o member _
    rw [Tally.count, countItems, player, withItems, has]
    dsimp only
    by_cases item : o.type = .item
    · rw [if_pos item]
      by_cases own : o.ObjectId = entry
      · rw [if_pos ⟨item, own⟩, own, Function.update_self]
      · rw [if_neg fun both => own both.2, Function.update_of_ne own, Tally.count, if_pos item]
    · rw [if_neg item, if_neg fun both => item both.1]
      have same := countAfter_idle known (notTaken quest) (noCredit quest) member
      rw [countAfter, if_neg item] at same
      change min _ (t.creditsAfter mgr x o.Id) = _
      rw [same]

lemma Exact.step (smooth : t.Smooth mgr x) : Exact mgr (t.step mgr x) := by
  have notTaken : (∀ quest_id limittime, x.event ≠ .accept quest_id limittime) →
      ∀ quest, t.player.takes mgr x ≠ some quest := by
    intro other quest
    rw [takes]
    cases event : x.event <;> simp_all
  cases event : x.event with
  | accept quest_id limittime =>
    obtain ⟨bounded, has, inOrder⟩ := accept_inOrder h smooth event
    exact h.of_handler (by rw [event, happen]) bounded (by rw [has]) inOrder
  | kill realEntry =>
    obtain ⟨bounded, has, inOrder⟩ := kill_inOrder h smooth event
    exact h.of_handler (by rw [event, happen]) bounded (by rw [has]) inOrder
  | killPlayer =>
    obtain ⟨bounded, has, inOrder⟩ := killPlayer_inOrder h smooth event
    exact h.of_handler (by rw [event, happen]) bounded (by rw [has]) inOrder
  | useObject entry =>
    obtain ⟨bounded, has, inOrder⟩ := satisfy_inOrder h smooth entry .go (.inr ⟨rfl, event⟩)
    exact h.of_handler (by rw [event, happen, KillCreditGO]) bounded (by rw [has]) inOrder
  | talk entry =>
    obtain ⟨bounded, has, inOrder⟩ := satisfy_inOrder h smooth entry .npc (.inl ⟨rfl, event⟩)
    exact h.of_handler (by rw [event, happen, TalkedToCreature]) bounded (by rw [has]) inOrder
  | abandon slot =>
    obtain ⟨bounded, has, inOrder⟩ := abandon_inOrder h slot
    exact h.of_uncounted (by rw [event, happen]) (notTaken (by simp [event]))
      (by simp [event, Event.credits]) bounded (by rw [has]) inOrder
  | explore questId =>
    obtain ⟨bounded, has, inOrder⟩ := explore_inOrder h x.env questId
    exact h.of_uncounted (by rw [event, happen]) (notTaken (by simp [event]))
      (by simp [event, Event.credits]) bounded (by rw [has]) inOrder
  | money value =>
    obtain ⟨bounded, has, inOrder⟩ := money_inOrder h smooth event
    exact h.of_uncounted (by rw [event, happen]) (notTaken (by simp [event]))
      (by simp [event, Event.credits]) bounded (by rw [has]) inOrder
  | reputation faction value =>
    obtain ⟨bounded, inOrder⟩ := reputation_inOrder h smooth event
    exact h.of_uncounted (by rw [event, happen]) (notTaken (by simp [event]))
      (by simp [event, Event.credits]) bounded (by rw [SetReputation, ReputationChanged_eq]) inOrder
  | gain entry added =>
    obtain ⟨bounded, has, inOrder⟩ := gain_inOrder h smooth event
    have sum : (t.player.has.owned entry + added).toNat =
        (t.player.has.owned entry).toNat + added.toNat := by
      have fits := (smooth.gained entry added event).fits
      rw [UInt32.toNat_add]
      omega
    rw [← sum] at inOrder
    exact h.of_items (f := (· + added)) (by rw [event, happen, StoreNewItem])
      (notTaken (by simp [event])) (by simp [event, Event.credits]) bounded has inOrder
  | lose entry lost =>
    by_cases enough : lost ≤ t.player.has.carried entry ∧ lost ≤ t.player.has.owned entry
    · obtain ⟨bounded, has, inOrder⟩ := lose_inOrder h smooth event enough.1 enough.2
      exact h.of_items (f := (· - lost)) (by rw [event, happen, DestroyItem, if_pos enough])
        (notTaken (by simp [event])) (by simp [event, Event.credits]) bounded has inOrder
    · exact h.of_uncounted (by rw [event, happen, DestroyItem, if_neg enough])
        (notTaken (by simp [event])) (by simp [event, Event.credits]) h.bounded rfl h.inOrder

end

lemma exact_start (has : Possessions) : Exact mgr (start has) where
  filed := filed_new has
  bounded := by
    intro q quest known o member
    exact ⟨UInt32.zero_le, fun _ => rfl⟩
  inOrder i quest inLog := absurd rfl (questInSlot_ne inLog)

/-- In a run from a new character where no handler gets in the way, the counters agree with what
happened after every event, and the status with what the quest asks for. -/
theorem progress_of_smooth (mgr : ObjectMgr) (has : Possessions) (xs : List Occasion)
    (smooth : Along (step mgr) (Smooth mgr) (start has) xs) :
    Along (step mgr) (fun t x => Progress mgr (t.step mgr x)) (start has) xs :=
  along_of_invariant (Exact mgr) (fun _ _ h smooth => h.step smooth)
    (fun _ _ h smooth => (h.step smooth).progress) (exact_start has) smooth

lemma eq_twoOf {type : ObjectiveType} {quest_id : UInt32}
    (known : (ObjectMgr.twoOf type).GetQuestTemplate quest_id = some quest) : quest = .twoOf type := by
  change (if quest_id = 1 then some (Quest.twoOf type) else none) = some quest at known
  split at known
  next => exact (Option.some.inj known).symm
  next => cases known

/-- Two creatures are killed for a quest. -/
theorem progress_of_smooth_kills :
    Along (step (.twoOf .npc)) (fun t x => Progress (.twoOf .npc) (t.step (.twoOf .npc) x))
      (start Player.blank.has) [⟨anywhere, .accept 1 0⟩, ⟨anywhere, .kill 7⟩, ⟨anywhere, .kill 7⟩] := by
  have kill : ∀ t : Tally, t.Smooth (.twoOf .npc) ⟨anywhere, .kill 7⟩ := by
    intro t
    constructor
    · intro quest taken
      cases taken
    · rintro quest ⟨⟨i, inLog⟩, _⟩ o member _
      rw [eq_twoOf (questInSlot_some inLog).2] at member ⊢
      rw [List.mem_singleton.mp member]
      exact .inr (by decide)
    all_goals
      intros
      contradiction
  apply progress_of_smooth
  refine ⟨⟨?_, ?_, ?_, ?_, ?_, ?_⟩, kill _, kill _, trivial⟩
  · intro quest taken
    rw [eq_twoOf ((takes_iff rfl).mp taken).1]
    refine ⟨fun o member _ => rfl, ?_, ?_⟩
    all_goals
      intro o member type
      rw [List.mem_singleton.mp member] at type
      cases type
  · intro quest _ o _ credits
    cases credits
  all_goals
    intros
    contradiction

/-- The second use of an object is not counted. -/
theorem not_progress : ¬ Along (step (.twoOf .go))
    (fun t x => Progress (.twoOf .go) (t.step (.twoOf .go) x)) (start Player.blank.has)
    [⟨anywhere, .accept 1 0⟩, ⟨anywhere, .useObject 7⟩, ⟨anywhere, .useObject 7⟩] := by
  rintro ⟨_, _, progress, _⟩
  have counted := progress.counted ⟨0, by decide⟩ (.twoOf .go) (by decide +kernel) (by decide +kernel)
    ⟨1, .go, 7, 2⟩ (by decide) (.inr (.inr rfl))
  revert counted
  decide +kernel

end Tally

end WorldServer.Quests
