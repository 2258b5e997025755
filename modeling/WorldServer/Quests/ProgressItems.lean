import WorldServer.Quests.ProgressCredits

/-!
# Counters, items and money

What is owned is counted for every quest that asks for it, and what is paid completes a quest or
undoes it.
-/
namespace WorldServer.Quests

open WorldServer.Lib Player

lemma Player.InOrder.withItems {count : QuestObjective → ℕ} {quest : Quest} {p : Player}
    (h : InOrder count quest p) (entry : UInt32) (f : UInt32 → UInt32) :
    InOrder count quest (p.withItems entry f) where
  fresh := h.fresh
  counted := h.counted
  currency := h.currency
  judged := by
    have met : ∀ o, (p.withItems entry f).met o = p.met o := by
      intro o
      cases o.type <;> rfl
    exact h.judged

namespace Tally

variable {mgr : ObjectMgr} {t : Tally} {x : Occasion} {p p' : Player} {quest : Quest}
  {o : QuestObjective} {count' : QuestObjective → ℕ} {i : Fin MAX_QUEST_LOG_SIZE}

/-! ### Items -/

def countItems (t : Tally) (entry : UInt32) (owned : ℕ) (o : QuestObjective) : ℕ :=
  if o.type = .item ∧ o.ObjectId = entry then owned else t.count o

lemma count_item {entry : UInt32} (item : o.type = .item) (object : o.ObjectId = entry) :
    t.count o = (t.player.has.owned entry).toNat := by
  rw [Tally.count, if_pos item, object]

lemma inOrder_of_credit {env : Around} (h : Exact mgr t)
    (inLog : t.player.questInSlot mgr i = some quest)
    (credit : Credit mgr env t.count count' quest t.player p')
    (others : ∀ j quest', t.player.questInSlot mgr j = some quest' → quest'.Id ≠ quest.Id →
      ∀ o ∈ quest'.m_questObjectives, o.tracked = true →
        min o.required.toNat (count' o) = min o.required.toNat (t.count o)) :
    Bounded mgr p' ∧ p'.has = t.player.has ∧
      ∀ j quest', p'.questInSlot mgr j = some quest' → InOrder count' quest' p' := by
  obtain ⟨_, known⟩ := questInSlot_some inLog
  have within' := credit.within known
  refine ⟨within'.bounded h.bounded, within'.has, ?_⟩
  intro j quest' inLog'
  obtain ⟨_, known'⟩ := questInSlot_some inLog'
  by_cases own : quest'.Id = quest.Id
  · rw [own, known] at known'
    cases known'
    exact credit.inOrder (h.inOrder i quest inLog) h.filed known inLog'
  · have before := within'.inSlot inLog'
    exact ((h.inOrder j quest' before).recount (others j quest' before own)).same
      (within'.same known' own)

section Handlers

variable (h : Exact mgr t) (smooth : t.Smooth mgr x)

include h smooth

lemma gain_inOrder {entry added : UInt32} (event : x.event = .gain entry added) :
    Bounded mgr (t.player.ItemAddedQuestCheck mgr x.env entry added) ∧
      (t.player.ItemAddedQuestCheck mgr x.env entry added).has = t.player.has ∧
      ∀ i quest, (t.player.ItemAddedQuestCheck mgr x.env entry added).questInSlot mgr i = some quest →
        InOrder (t.countItems entry ((t.player.has.owned entry).toNat + added.toNat)) quest
          (t.player.ItemAddedQuestCheck mgr x.env entry added) := by
  have gains := smooth.gained entry added event
  -- an objective that is not the one that is found is full
  have others : ∀ i quest, t.player.questInSlot mgr i = some quest → ∀ o ∈ quest.m_questObjectives,
      o.tracked = true → (t.player.addedObjective mgr entry = some (quest, o) → t.Full o) →
      min o.required.toNat (t.countItems entry ((t.player.has.owned entry).toNat + added.toNat) o) =
        min o.required.toNat (t.count o) := by
    intro i quest inLog o member tracked notFound
    have order := h.inOrder i quest inLog
    rw [countItems]
    split
    next item =>
      have owned := count_item (t := t) item.1 item.2
      by_cases none : added = 0
      · rw [owned, none, UInt32.toNat_zero, Nat.add_zero]
      · have full : t.Full o := by
          by_cases incomplete : (t.player.questStatus quest.Id).Status = .incomplete
          · rcases gains.found none quest ⟨⟨i, inLog⟩, incomplete⟩ o member item.1 item.2 with
              full | found
            · exact full
            · exact notFound found.1
          · exact full_of_complete order incomplete member tracked
        have enough := (full_iff (order.counted o member tracked)).mp full
        omega
    next => rfl
  rw [ItemAddedQuestCheck]
  split
  next nowhere =>
    refine ⟨h.bounded, rfl, ?_⟩
    intro i quest inLog
    apply (h.inOrder i quest inLog).recount
    intro o member tracked
    apply others i quest inLog o member tracked
    intro found
    rw [nowhere] at found
    cases found
  next quest o found =>
    obtain ⟨known, incomplete, ⟨i, slot⟩, first⟩ := addedObjective_some found
    obtain ⟨member, matches'⟩ := find_some first
    have match' : o.type = .item ∧ o.ObjectId = entry := by simpa using matches'
    have tracked := tracked_of_item match'.1
    have inLog : t.player.questInSlot mgr i = some quest := by
      rw [questInSlot, slot, if_neg (mgr.named quest.Id quest known).2, known]
    have order := h.inOrder i quest inLog
    dsimp only
    split
    next lacks =>
      apply inOrder_of_credit h inLog
      · apply Credit.counts o member tracked _ _ _ incomplete
        · -- the counter, what is added and the sum stay below 2 ^ 32
          have exact' := count_of_not_full order member tracked lacks
          rw [count_item match'.1 match'.2] at exact'
          have fits := gains.fits
          have less := UInt32.lt_iff_toNat_lt.mp lacks
          rw [countItems, if_pos match']
          have room : (o.required - t.player.GetQuestObjectiveCounter o.Id).toNat =
              o.required.toNat - (t.player.GetQuestObjectiveCounter o.Id).toNat :=
            UInt32.toNat_sub_of_le _ _ (UInt32.le_of_lt lacks)
          have small : min added.toNat
              (o.required - t.player.GetQuestObjectiveCounter o.Id).toNat < 2 ^ 16 := by
            by_cases none : added = 0
            · rw [none]
              simp
            · rcases gains.found none quest ⟨⟨i, inLog⟩, incomplete⟩ o member match'.1 match'.2 with
                full | found'
              · exact absurd lacks (UInt32.not_lt.mpr full)
              · exact found'.2
          have sum : (t.player.GetQuestObjectiveCounter o.Id + added).toNat =
              (t.player.GetQuestObjectiveCounter o.Id).toNat + added.toNat := by
            rw [UInt32.toNat_add]
            omega
          have below := o.required.toNat_lt
          split
          next fit =>
            have fit' := UInt32.le_iff_toNat_le.mp fit
            rw [UInt32.toNat_add, UInt16.toNat_toUInt32, UInt32.toNat_toUInt16]
            omega
          next beyond =>
            have beyond' := UInt32.lt_iff_toNat_lt.mp (UInt32.not_le.mp beyond)
            rw [UInt32.toNat_add, UInt16.toNat_toUInt32, UInt32.toNat_toUInt16]
            omega
        · intro o' member' other tracked'
          apply others i quest inLog o' member' tracked'
          intro found'
          rw [found] at found'
          cases found'
          exact absurd rfl other
      · intro j quest' inLog' other o' member' tracked'
        apply others j quest' inLog' o' member' tracked'
        intro found'
        rw [found] at found'
        cases found'
        exact absurd rfl other
    next enough =>
      rw [order.complete_eq known]
      refine ⟨h.bounded, rfl, ?_⟩
      intro j quest' inLog'
      apply (h.inOrder j quest' inLog').recount
      intro o' member' tracked'
      apply others j quest' inLog' o' member' tracked'
      intro found'
      rw [found] at found'
      cases found'
      exact UInt32.not_lt.mp enough

lemma lose_inOrder {entry lost : UInt32} (event : x.event = .lose entry lost)
    (carried : lost ≤ t.player.has.carried entry) (owned : lost ≤ t.player.has.owned entry) :
    Bounded mgr (t.player.ItemRemovedQuestCheck mgr entry lost) ∧
      (t.player.ItemRemovedQuestCheck mgr entry lost).has = t.player.has ∧
      ∀ i quest, (t.player.ItemRemovedQuestCheck mgr entry lost).questInSlot mgr i = some quest →
        InOrder (t.countItems entry (t.player.has.owned entry - lost).toNat) quest
          (t.player.ItemRemovedQuestCheck mgr entry lost) := by
  have loses := smooth.lost entry lost event
  have left : (t.player.has.owned entry - lost).toNat =
      (t.player.has.owned entry).toNat - lost.toNat := UInt32.toNat_sub_of_le _ _ owned
  apply forSlots_credit x.env h.filed h.bounded h.inOrder
  intro p₁ i quest inLog same before
  obtain ⟨_, known⟩ := questInSlot_some inLog
  -- an objective that is not counted down keeps enough
  have others : ∀ o ∈ quest.m_questObjectives, o.tracked = true →
      ((p₁.questStatus quest.Id).Status = .incomplete → lost ≠ 0 → ¬ t.Full o → ¬ quest.Reaches o) →
      min o.required.toNat (t.countItems entry (t.player.has.owned entry - lost).toNat o) =
        min o.required.toNat (t.count o) := by
    intro o member tracked unreached
    rw [countItems]
    split
    next item =>
      rw [count_item item.1 item.2, left]
      by_cases none : lost = 0
      · rw [none, UInt32.toNat_zero, Nat.sub_zero]
      · rcases loses none carried owned i quest inLog o member item.1 item.2 with
          enough | ⟨incomplete, lacks, reaches, _⟩
        · have enough' := UInt32.le_iff_toNat_le.mp enough
          omega
        · rw [← same.questStatus] at incomplete
          exact absurd reaches (unreached incomplete none lacks)
    next => rfl
  have idle : (∀ o ∈ quest.m_questObjectives, o.tracked = true → o.type = .item →
      o.ObjectId = entry →
      ((p₁.questStatus quest.Id).Status = .incomplete → lost ≠ 0 → ¬ t.Full o → ¬ quest.Reaches o)) →
      Credit mgr x.env t.count (t.countItems entry (t.player.has.owned entry - lost).toNat) quest
        p₁ p₁ := by
    intro unreached
    apply Credit.idle
    intro o member tracked
    by_cases item : o.type = .item ∧ o.ObjectId = entry
    · exact others o member tracked (unreached o member tracked item.1 item.2)
    · rw [countItems, if_neg item]
  split
  next none =>
    apply idle
    intro o member tracked item object _ _ _ reaches
    rw [Quest.Reaches, item] at reaches
    exact reaches.1 none
  next =>
    split
    next nowhere =>
      apply idle
      intro o member tracked item object _ _ _ reaches
      rw [Quest.Reaches, Quest.Finds, item, object, nowhere] at reaches
      cases reaches.2
    next o found =>
      obtain ⟨member, matches'⟩ := find_some found
      have match' : o.type = .item ∧ o.ObjectId = entry := by simpa using matches'
      have tracked := tracked_of_item match'.1
      have other : ∀ o' ∈ quest.m_questObjectives, o' ≠ o → o'.type = .item → o'.ObjectId = entry →
          ¬ quest.Reaches o' := by
        intro o' member' other item object reaches
        rw [Quest.Reaches, Quest.Finds, item, object, found] at reaches
        exact other (Option.some.inj reaches.2).symm
      dsimp only
      by_cases incomplete : (p₁.questStatus quest.Id).Status = .incomplete
      · have counter : (if (p₁.questStatus quest.Id).Status ≠ .complete then
            p₁.GetQuestObjectiveCounter o.Id else p₁.has.owned entry) =
            p₁.GetQuestObjectiveCounter o.Id := by
          rw [incomplete, if_pos (by simp)]
        rw [counter]
        split
        next lacks =>
          have exact' := count_of_not_full before member tracked lacks
          rw [count_item match'.1 match'.2] at exact'
          have less := UInt32.lt_iff_toNat_lt.mp lacks
          have lost' := UInt32.le_iff_toNat_le.mp owned
          have small : lost.toNat < 2 ^ 16 := by
            by_cases none : lost = 0
            · rw [none]
              simp
            · rcases loses none carried owned i quest inLog o member match'.1 match'.2 with
                enough | ⟨_, _, _, small⟩
              · have enough' := UInt32.le_iff_toNat_le.mp enough
                omega
              · exact small
          have whole : lost.toUInt16.toUInt32 = lost := by
            apply UInt32.toNat_inj.mp
            rw [UInt16.toNat_toUInt32, UInt32.toNat_toUInt16]
            omega
          rw [if_pos (UInt32.le_of_lt lacks), whole]
          -- the counter is what is owned, and goes down with it
          have counted : (if p₁.GetQuestObjectiveCounter o.Id ≤ lost then 0
              else p₁.GetQuestObjectiveCounter o.Id - lost).toNat =
              (t.player.has.owned entry - lost).toNat := by
            split
            next all =>
              have all' := UInt32.le_iff_toNat_le.mp all
              rw [UInt32.toNat_zero]
              omega
            next some =>
              have some' := UInt32.le_of_lt (UInt32.not_le.mp some)
              rw [UInt32.toNat_sub_of_le _ _ some']
              omega
          apply Credit.loses o member match'.1 _ _ _ _ incomplete
          · rw [counted, countItems, if_pos match']
            omega
          · rw [UInt32.lt_iff_toNat_lt, counted]
            omega
          · intro o' member' different tracked'
            by_cases item : o'.type = .item ∧ o'.ObjectId = entry
            · exact others o' member' tracked' fun _ _ _ =>
                other o' member' different item.1 item.2
            · rw [countItems, if_neg item]
        next enough =>
          apply idle
          intro o' member' tracked' item object _ _ lacks
          by_cases own : o' = o
          · subst own
            rw [Full, ← same.counters o' member'] at lacks
            exact absurd (UInt32.not_lt.mp enough) lacks
          · exact other o' member' own item object
      · have full := full_of_complete before incomplete member tracked
        have owns := (full_iff (before.counted o member tracked)).mp full
        rw [count_item match'.1 match'.2, ← same.has] at owns
        have complete : (p₁.questStatus quest.Id).Status = .complete := by
          have judged := before.judged
          split at judged
          next => exact judged
          next => exact absurd judged incomplete
        have counter : (if (p₁.questStatus quest.Id).Status ≠ .complete then
            p₁.GetQuestObjectiveCounter o.Id else p₁.has.owned entry) = p₁.has.owned entry :=
          if_neg (by simp [complete])
        rw [counter, if_neg]
        · apply idle
          intro o' _ _ _ _ open'
          exact absurd open' incomplete
        · rw [UInt32.not_lt, UInt32.le_iff_toNat_le]
          exact owns

end Handlers

/-! ### Money and reputation -/

def payFor (mgr : ObjectMgr) (env : Around) (sum : UInt32) (quest : Quest) (p : Player)
    (o : QuestObjective) : Player :=
  match (p.questStatus quest.Id).Status with
  | .incomplete => if o.required ≤ sum then p.completeIfPossible mgr env quest.Id else p
  | .complete => if sum < o.required then p.IncompleteQuest mgr quest.Id else p
  | _ => p

/-- What `MoneyChanged` compares for an objective is what `CanCompleteQuest` does. -/
def Agrees (sum : UInt32) (p : Player) (o : QuestObjective) : Prop :=
  o.type = .money ∧ (o.required ≤ sum ↔ o.Amount.toInt64.toUInt64 ≤ p.has.money)

section Pay

variable {env : Around} {sum : UInt32} {count : QuestObjective → ℕ} {objectives : List QuestObjective}
  (known : mgr.GetQuestTemplate quest.Id = some quest)

include known

lemma payFor_within : Within mgr quest.Id p (payFor mgr env sum quest p o) := by
  rw [payFor]
  split
  next =>
    split
    next => exact within_complete known
    next => exact .refl quest.Id
  next =>
    split
    next => exact within_incomplete known
    next => exact .refl quest.Id
  next => exact .refl quest.Id

lemma payAll_within :
    Within mgr quest.Id p (objectives.foldl (payFor mgr env sum quest) p) := by
  induction objectives generalizing p with
  | nil => exact .refl quest.Id
  | cons o objectives ih => exact (payFor_within known).trans ih

omit known in
lemma met_iff_of_agrees (agrees : Agrees sum p o) : p.met o = true ↔ o.required ≤ sum := by
  rw [met, agrees.1, HasEnoughMoney, agrees.2]
  simp

lemma payFor_of_inOrder (h : InOrder count quest p) (member : o ∈ quest.m_questObjectives)
    (agrees : Agrees sum p o) : payFor mgr env sum quest p o = p := by
  have judged := h.judged
  rw [payFor]
  split at judged
  next done =>
    rw [Player.finished, Bool.and_eq_true, List.all_eq_true] at done
    have enough := (met_iff_of_agrees agrees).mp (done.2 o member)
    rw [judged]
    rw [if_neg (UInt32.not_lt.mpr enough)]
  next =>
    rw [judged]
    rw [h.complete_eq known, ite_self]

lemma payAll_of_inOrder (h : InOrder count quest p)
    (agrees : ∀ o ∈ objectives, o ∈ quest.m_questObjectives ∧ Agrees sum p o) :
    objectives.foldl (payFor mgr env sum quest) p = p := by
  induction objectives with
  | nil => rfl
  | cons o objectives ih =>
    obtain ⟨member, agreesFirst⟩ := agrees o (List.mem_cons_self ..)
    rw [List.foldl_cons, payFor_of_inOrder known h member agreesFirst]
    exact ih fun o' member' => agrees o' (List.mem_cons_of_mem o member')

omit known in
lemma Agrees.within {q : UInt32} (agrees : Agrees sum p o) (h : Within mgr q p p') :
    Agrees sum p' o := by
  rw [Agrees, h.has]
  exact agrees

/-- A quest is in order after the sum was compared for each of its objectives of money: the first one
completes it, or the first one that is not met undoes it. -/
lemma payAll_inOrder (fit : Fit count quest p) (filed : Filed mgr p)
    (status : (p.questStatus quest.Id).Status = .incomplete ∨
      (p.questStatus quest.Id).Status = .complete)
    (agrees : ∀ o ∈ objectives, o ∈ quest.m_questObjectives ∧ Agrees sum p o)
    (completes : p.finished quest = true → objectives ≠ [])
    (undoes : p.finished quest = false → (p.questStatus quest.Id).Status = .complete →
      ∃ o ∈ objectives, p.met o = false)
    (inLog : (objectives.foldl (payFor mgr env sum quest) p).questInSlot mgr i = some quest) :
    InOrder count quest (objectives.foldl (payFor mgr env sum quest) p) := by
  have named := (mgr.named quest.Id quest known).2
  cases done : p.finished quest with
  | true =>
    rcases status with incomplete | complete
    · cases objectives with
      | nil => exact absurd rfl (completes done)
      | cons o objectives =>
        obtain ⟨member, agreesFirst⟩ := agrees o (List.mem_cons_self ..)
        have ready : Ready count quest p := { fit with incomplete := incomplete }
        have enough : o.required ≤ sum := by
          rw [Player.finished, Bool.and_eq_true, List.all_eq_true] at done
          exact (met_iff_of_agrees agreesFirst).mp (done.2 o member)
        have first : payFor mgr env sum quest p o = p.completeIfPossible mgr env quest.Id := by
          rw [payFor, incomplete]
          rw [if_pos enough]
        rw [List.foldl_cons, first] at inLog ⊢
        have inOrder : InOrder count quest (p.completeIfPossible mgr env quest.Id) :=
          ready.complete filed known ((payAll_within known).inSlot inLog)
        rw [payAll_of_inOrder known inOrder]
        · exact inOrder
        · intro o' member'
          obtain ⟨mem, agrees'⟩ := agrees o' (List.mem_cons_of_mem o member')
          exact ⟨mem, agrees'.within (within_complete known)⟩
    · have inOrder : InOrder count quest p := { fit with judged := by rw [done]; exact complete }
      rw [payAll_of_inOrder known inOrder agrees]
      exact inOrder
  | false =>
    rcases status with incomplete | complete
    · have inOrder : InOrder count quest p := { fit with judged := by rw [done]; exact incomplete }
      rw [payAll_of_inOrder known inOrder agrees]
      exact inOrder
    · have lacking := undoes done complete
      clear undoes completes inLog
      induction objectives with
      | nil =>
        obtain ⟨o, member, _⟩ := lacking
        cases member
      | cons o objectives ih =>
        obtain ⟨member, agreesFirst⟩ := agrees o (List.mem_cons_self ..)
        have agreesRest : ∀ o' ∈ objectives, o' ∈ quest.m_questObjectives ∧ Agrees sum p o' :=
          fun o' member' => agrees o' (List.mem_cons_of_mem o member')
        rw [List.foldl_cons]
        by_cases enough : o.required ≤ sum
        · have first : payFor mgr env sum quest p o = p := by
            rw [payFor, complete]
            rw [if_neg (UInt32.not_lt.mpr enough)]
          rw [first]
          apply ih agreesRest
          obtain ⟨o', member', unmet⟩ := lacking
          rcases List.mem_cons.mp member' with rfl | rest
          · rw [(met_iff_of_agrees agreesFirst).mpr enough] at unmet
            cases unmet
          · exact ⟨o', rest, unmet⟩
        · have first : payFor mgr env sum quest p o = p.SetQuestStatus mgr quest.Id .incomplete := by
            rw [payFor, complete]
            rw [if_pos (UInt32.not_le.mp enough), IncompleteQuest, if_neg named]
          have inOrder : InOrder count quest (p.SetQuestStatus mgr quest.Id .incomplete) :=
            fit.setStatus known (by rw [done]; rfl)
          rw [first, payAll_of_inOrder known inOrder]
          · exact inOrder
          · intro o' member'
            obtain ⟨mem, agrees'⟩ := agreesRest o' member'
            have undone : Within mgr quest.Id p (p.SetQuestStatus mgr quest.Id .incomplete) :=
              within_setStatus known (by simp)
            exact ⟨mem, agrees'.within undone⟩

end Pay

def withMoney (p : Player) (value : UInt64) : Player :=
  { p with has := { p.has with money := value } }

lemma met_money (value : UInt64) (other : o.type ≠ .money) :
    (withMoney p value).met o = p.met o := by
  rw [met, met]
  cases type : o.type with
  | money => exact absurd type other
  | npc => rfl
  | item => rfl
  | go => rfl
  | npcInteract => rfl
  | currency => rfl
  | spell => rfl
  | factionRep => rfl
  | factionRep2 => rfl
  | player => rfl
  | dummy => rfl
  | petBattleTamer => rfl
  | petBattleElite => rfl
  | petBattlePvp => rfl

lemma status_of_inOrder {count : QuestObjective → ℕ} (h : InOrder count quest p) :
    (p.questStatus quest.Id).Status = .incomplete ∨ (p.questStatus quest.Id).Status = .complete := by
  have judged := h.judged
  split at judged
  next => exact .inr judged
  next => exact .inl judged

/-- What a quest in the log is before the new sum is compared -/
structure Due (count : QuestObjective → ℕ) (sum : UInt32) (quest : Quest) (p : Player) : Prop
    extends Fit count quest p where
  status : (p.questStatus quest.Id).Status = .incomplete ∨ (p.questStatus quest.Id).Status = .complete
  agrees : ∀ o ∈ quest.m_questObjectives, o.type = .money →
    quest.GetQuestObjectiveCountType .money ≠ 0 ∧ Agrees sum p o
  judged : (∀ o ∈ quest.m_questObjectives, o.type ≠ .money) →
    (p.questStatus quest.Id).Status = if p.finished quest then .complete else .incomplete
  undoes : p.finished quest = false → (p.questStatus quest.Id).Status = .complete →
    ∃ o ∈ quest.m_questObjectives, o.type = .money ∧ p.met o = false

lemma Due.same {count : QuestObjective → ℕ} {sum : UInt32} (h : Due count sum quest p)
    (same : Same quest p p') : Due count sum quest p' where
  toFit := h.toFit.same same
  status := by
    rw [same.questStatus]
    exact h.status
  agrees o member money := by
    rw [Agrees, same.has]
    exact h.agrees o member money
  judged := by
    rw [same.questStatus, same.finished]
    exact h.judged
  undoes := by
    rw [same.questStatus, same.finished]
    intro unfinished complete
    obtain ⟨o, member, money, unmet⟩ := h.undoes unfinished complete
    refine ⟨o, member, money, ?_⟩
    rw [met_congr same.has (same.counters o member)]
    exact unmet

lemma moneyChanged_inOrder {env : Around} {count : QuestObjective → ℕ} {sum : UInt32}
    (filed : Filed mgr p) (bounded : Bounded mgr p)
    (due : ∀ i quest, p.questInSlot mgr i = some quest → Due count sum quest p) :
    Bounded mgr (p.MoneyChanged mgr env sum) ∧ (p.MoneyChanged mgr env sum).has = p.has ∧
      ∀ i quest, (p.MoneyChanged mgr env sum).questInSlot mgr i = some quest →
        InOrder count quest (p.MoneyChanged mgr env sum) := by
  apply forSlots_inOrder filed bounded
  intro p₁ i quest filed₁ inLog same
  have due₁ : Due count sum quest p₁ := (due i quest inLog).same same
  obtain ⟨_, known⟩ := questInSlot_some inLog
  split
  next none =>
    have inOrder : InOrder count quest p₁ := by
      refine { due₁ with judged := ?_ }
      apply due₁.judged
      intro o member money
      exact (due₁.agrees o member money).1 none
    exact ⟨.refl quest.Id, fun _ _ => inOrder⟩
  next some =>
    refine ⟨payAll_within known, fun j inLog' => ?_⟩
    apply payAll_inOrder known due₁.toFit filed₁ due₁.status _ _ _ inLog'
    · intro o filtered
      obtain ⟨member, money⟩ := List.mem_filter.mp filtered
      exact ⟨member, (due₁.agrees o member (by simpa using money)).2⟩
    · intro _ nil
      apply some
      rw [Quest.GetQuestObjectiveCountType, List.countP_eq_length_filter, nil]
      rfl
    · intro unfinished complete
      obtain ⟨o, member, money, unmet⟩ := due₁.undoes unfinished complete
      exact ⟨o, List.mem_filter.mpr ⟨member, by simpa using money⟩, unmet⟩

lemma finished_congr (status : p'.questStatus quest.Id = p.questStatus quest.Id)
    (met : ∀ o ∈ quest.m_questObjectives, p'.met o = p.met o) :
    p'.finished quest = p.finished quest := by
  have all : quest.m_questObjectives.all p'.met = quest.m_questObjectives.all p.met := by
    rw [Bool.eq_iff_iff, List.all_eq_true, List.all_eq_true]
    apply forall₂_congr
    intro o member
    rw [met o member]
  rw [finished, status, all]
  rfl

lemma due_of_inOrder {count : QuestObjective → ℕ} {sum : UInt32} (h : InOrder count quest p)
    (value : UInt64) (agrees : ∀ o ∈ quest.m_questObjectives, o.type = .money →
      quest.GetQuestObjectiveCountType .money ≠ 0 ∧
        (o.required ≤ sum ↔ o.Amount.toInt64.toUInt64 ≤ value)) :
    Due count sum quest (withMoney p value) where
  fresh := h.fresh
  counted := h.counted
  currency := h.currency
  status := by
    have status := status_of_inOrder h
    exact status
  agrees o member money := ⟨(agrees o member money).1, money, (agrees o member money).2⟩
  judged none := by
    have same : (withMoney p value).finished quest = p.finished quest :=
      finished_congr rfl fun o member => met_money value (none o member)
    rw [same]
    exact h.judged
  undoes unfinished complete := by
    have was : p.finished quest = true := by
      by_contra never
      have judged := h.judged
      rw [if_neg never] at judged
      rw [show (p.questStatus quest.Id).Status = .complete from complete] at judged
      cases judged
    by_contra none
    have same : (withMoney p value).finished quest = p.finished quest := by
      apply finished_congr
      · rfl
      intro o member
      by_cases money : o.type = .money
      · -- an objective of money was met, and is met still
        have metNow : (withMoney p value).met o = true := by
          by_contra unmet
          exact none ⟨o, member, money, by simpa using unmet⟩
        rw [Player.finished, Bool.and_eq_true, List.all_eq_true] at was
        rw [metNow, was.2 o member]
      · exact met_money value money
    rw [unfinished, was] at same
    cases same

lemma money_inOrder (h : Exact mgr t) (smooth : t.Smooth mgr x) {value : UInt64}
    (event : x.event = .money value) :
    Bounded mgr (t.player.SetMoney mgr x.env value) ∧
      (t.player.SetMoney mgr x.env value).has = { t.player.has with money := value } ∧
      ∀ i quest, (t.player.SetMoney mgr x.env value).questInSlot mgr i = some quest →
        InOrder t.count quest (t.player.SetMoney mgr x.env value) := by
  have filed : Filed mgr (withMoney t.player value) := { h.filed with }
  have due : ∀ i quest, (withMoney t.player value).questInSlot mgr i = some quest →
      Due t.count value.toUInt32 quest (withMoney t.player value) :=
    fun i quest inLog => due_of_inOrder (h.inOrder i quest inLog) value (smooth.paid value event i quest inLog)
  exact moneyChanged_inOrder filed h.bounded due

lemma reputation_inOrder (h : Exact mgr t) (smooth : t.Smooth mgr x) {faction : UInt32}
    {value : Int32} (event : x.event = .reputation faction value) :
    Bounded mgr (t.player.SetReputation mgr x.env faction value) ∧
      ∀ i quest, (t.player.SetReputation mgr x.env faction value).questInSlot mgr i = some quest →
        InOrder t.count quest (t.player.SetReputation mgr x.env faction value) := by
  rw [SetReputation, ReputationChanged_eq]
  refine ⟨h.bounded, ?_⟩
  intro i quest inLog
  have order := h.inOrder i quest inLog
  obtain ⟨_, known⟩ := questInSlot_some inLog
  refine { order.toFit with judged := ?_ }
  have same := smooth.unmoved faction value event i quest inLog
  have before := finished_eq_done order.counted order.currency h.bounded known
  have after := finished_eq_done (t := { t with player := { t.player with has := { t.player.has with
    reputation := Function.update t.player.has.reputation faction value } } })
    order.counted order.currency h.bounded known
  rw [after, same, ← before]
  exact order.judged

end Tally

end WorldServer.Quests
