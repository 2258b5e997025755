import WorldServer.Quests.OneQuest

/-!
# Counters and credits

The counters of a quest in order are those of the tally, and what completes it is what it asks for.
The handlers of credits keep a quest in order where they are not in the way.
-/
namespace WorldServer.Quests

open WorldServer.Lib Player

namespace Tally

variable {mgr : ObjectMgr} {t : Tally} {x : Occasion} {p : Player} {quest : Quest} {o : QuestObjective}
  {count : QuestObjective → ℕ}

/-- What holds after every event -/
structure Exact (mgr : ObjectMgr) (t : Tally) : Prop where
  filed : Filed mgr t.player
  bounded : Bounded mgr t.player
  inOrder : ∀ i quest, t.player.questInSlot mgr i = some quest → InOrder t.count quest t.player

/-! ### Counters and what is asked for -/

lemma met_of_tracked (tracked : o.tracked = true) :
    p.met o = decide (o.required ≤ p.GetQuestObjectiveCounter o.Id) := by
  rw [QuestObjective.tracked] at tracked
  rw [met]
  cases type : o.type <;> simp_all

lemma full_iff {c : UInt32} {n : ℕ} (counted : c.toNat = min o.required.toNat n) :
    o.required ≤ c ↔ o.required.toNat ≤ n := by
  rw [UInt32.le_iff_toNat_le, counted]
  exact ⟨fun full => le_trans full (min_le_right _ _), fun enough => le_min le_rfl enough⟩

section

variable
  (counted : ∀ o ∈ quest.m_questObjectives, o.tracked = true → (t.player.GetQuestObjectiveCounter o.Id).toNat = min o.required.toNat (t.count o))
  (currency : ∀ o ∈ quest.m_questObjectives, o.type = .currency → o.required = 0 ∨ (t.player.has.currency o.ObjectId).getD 0 < o.required)
  (bounded : Bounded mgr t.player) (known : mgr.GetQuestTemplate quest.Id = some quest)
include counted currency bounded known

lemma satisfied_eq_met (member : o ∈ quest.m_questObjectives) :
    t.satisfied o = t.player.met o := by
  by_cases tracked : o.tracked = true
  · have enough : t.satisfied o = decide (o.required.toNat ≤ t.count o) := by
      rw [QuestObjective.tracked] at tracked
      rw [satisfied]
      cases type : o.type <;> simp_all
    rw [met_of_tracked tracked, enough, decide_eq_decide]
    exact (full_iff (counted o member tracked)).symm
  · have none := (bounded quest.Id quest known o member).2 (by simpa using tracked)
    rw [QuestObjective.tracked] at tracked
    rw [satisfied, met]
    cases type : o.type with
    | currency =>
      -- there is no counter of a currency
      rw [none, decide_eq_decide]
      rcases currency o member type with zero | lacks
      · rw [zero]
        simp
      · rw [UInt32.le_iff_toNat_le, UInt32.le_iff_toNat_le]
        have := UInt32.lt_iff_toNat_lt.mp lacks
        simp only [UInt32.toNat_zero]
        omega
    | money => rfl
    | dummy => rfl
    | spell => rfl
    | factionRep => rfl
    | factionRep2 => rfl
    | npc => simp [type] at tracked
    | item => simp [type] at tracked
    | go => simp [type] at tracked
    | npcInteract => simp [type] at tracked
    | player => simp [type] at tracked
    | petBattleTamer => simp [type] at tracked
    | petBattleElite => simp [type] at tracked
    | petBattlePvp => simp [type] at tracked

lemma finished_eq_done : t.player.finished quest = t.done quest := by
  have all : quest.m_questObjectives.all t.player.met = quest.m_questObjectives.all t.satisfied := by
    rw [Bool.eq_iff_iff, List.all_eq_true, List.all_eq_true]
    apply forall₂_congr
    intro o member
    rw [satisfied_eq_met counted currency bounded known member]
  rw [finished, all]
  rfl

end

lemma Exact.progress (h : Exact mgr t) : Progress mgr t where
  counted i quest inLog _ o member type := by
    have tracked : o.tracked = true := by
      rw [QuestObjective.tracked]
      rcases type with type | type | type <;> rw [type]
    have other : o.type ≠ .item := by rcases type with type | type | type <;> simp [type]
    rw [(h.inOrder i quest inLog).counted o member tracked, Tally.count, if_neg other]
  collected i quest inLog _ o member type := by
    rw [(h.inOrder i quest inLog).counted o member (tracked_of_item type), Tally.count, if_pos type]
  bounded quest_id quest known o member := (h.bounded quest_id quest known o member).1
  completed i quest inLog done := by
    have order := h.inOrder i quest inLog
    have finished := finished_eq_done order.counted order.currency h.bounded (questInSlot_some inLog).2
    rw [order.judged, finished, done]
    rfl
  revoked i quest inLog o member _ lacks := by
    have order := h.inOrder i quest inLog
    have finished := finished_eq_done order.counted order.currency h.bounded (questInSlot_some inLog).2
    rw [order.judged, finished, if_neg]
    intro done
    rw [Tally.done, Bool.and_eq_true, List.all_eq_true] at done
    rw [done.2 o member] at lacks
    cases lacks

/-! ### Credits -/

lemma objective_eq (known : mgr.GetQuestTemplate quest.Id = some quest)
    (member : o ∈ quest.m_questObjectives) : mgr.objective o.Id = some (quest, o) := by
  rw [ObjectMgr.objective, mgr.questOf quest.Id quest o known member, known]
  have found : quest.m_questObjectives.find? (fun o' => o'.Id = o.Id) = some o := by
    cases search : quest.m_questObjectives.find? (fun o' => o'.Id = o.Id) with
    | none =>
      have nowhere := List.find?_eq_none.mp search o member
      simp at nowhere
    | some o' =>
      have same : o'.Id = o.Id := by simpa using List.find?_some search
      rw [objective_unique known known member (List.mem_of_find?_eq_some search) same]
  simp [found]

def countAfter (mgr : ObjectMgr) (t : Tally) (x : Occasion) (o : QuestObjective) : ℕ :=
  if o.type = .item then (t.player.has.owned o.ObjectId).toNat else t.creditsAfter mgr x o.Id

lemma not_credits_item {env : Around} (item : o.type = .item) (event : Event) :
    event.credits env quest o = false := by
  cases event <;> simp [Event.credits, item]

lemma countAfter_eq (known : mgr.GetQuestTemplate quest.Id = some quest)
    (member : o ∈ quest.m_questObjectives) (notTaken : t.player.takes mgr x ≠ some quest) :
    t.countAfter mgr x o =
      if x.event.credits x.env quest o then t.count o + 1 else t.count o := by
  rw [countAfter, Tally.count]
  split
  next item => rw [not_credits_item item, if_neg (by simp)]
  next =>
    rw [creditsAfter, objective_eq known member]
    dsimp only
    rw [if_neg notTaken]

lemma step_count (has : (t.step mgr x).player.has.owned = t.player.has.owned) :
    (t.step mgr x).count = t.countAfter mgr x := by
  funext o
  rw [Tally.count, has]
  rfl

lemma min_of_full (h : InOrder count quest p) (member : o ∈ quest.m_questObjectives)
    (tracked : o.tracked = true) (full : o.required ≤ p.GetQuestObjectiveCounter o.Id) :
    min o.required.toNat (count o + 1) = min o.required.toNat (count o) := by
  have enough := (full_iff (h.counted o member tracked)).mp full
  rw [min_eq_left enough, min_eq_left (Nat.le_succ_of_le enough)]

lemma full_of_complete (h : InOrder count quest p)
    (complete : (p.questStatus quest.Id).Status ≠ .incomplete) (member : o ∈ quest.m_questObjectives)
    (tracked : o.tracked = true) : o.required ≤ p.GetQuestObjectiveCounter o.Id := by
  have judged := h.judged
  split at judged
  next done =>
    rw [Player.finished, Bool.and_eq_true, List.all_eq_true] at done
    have met := done.2 o member
    rw [met_of_tracked tracked] at met
    simpa using met
  next => exact absurd judged complete

/-! ### Handlers of credits -/

section

variable (h : InOrder t.count quest p) (known : mgr.GetQuestTemplate quest.Id = some quest)
  (notTaken : t.player.takes mgr x ≠ some quest)
include h known notTaken

lemma credit_idle {env : Around}
    (full : ∀ o ∈ quest.m_questObjectives, x.event.credits x.env quest o = true →
      o.tracked = true → o.required ≤ p.GetQuestObjectiveCounter o.Id) :
    Credit mgr env t.count (t.countAfter mgr x) quest p p := by
  apply Credit.idle
  intro o member tracked
  rw [countAfter_eq known member notTaken]
  split
  next credits => exact min_of_full h member tracked (full o member credits tracked)
  next => rfl

lemma credit_counts (member : o ∈ quest.m_questObjectives) (tracked : o.tracked = true)
    (credits : x.event.credits x.env quest o = true) {c : UInt32}
    (counted : c.toNat = min o.required.toNat (t.count o + 1))
    (full : ∀ o' ∈ quest.m_questObjectives, o' ≠ o → x.event.credits x.env quest o' = true →
      o'.tracked = true → o'.required ≤ p.GetQuestObjectiveCounter o'.Id)
    (incomplete : (p.questStatus quest.Id).Status = .incomplete) :
    Credit mgr x.env t.count (t.countAfter mgr x) quest p
      ((p.setCounter quest.Id o.Id c).completeIfPossible mgr x.env quest.Id) := by
  apply Credit.counts o member tracked c _ _ incomplete
  · rw [countAfter_eq known member notTaken, if_pos credits]
    exact counted
  · intro o' member' other tracked'
    rw [countAfter_eq known member' notTaken]
    split
    next credits' => exact min_of_full h member' tracked' (full o' member' other credits' tracked')
    next => rfl

end

lemma count_of_not_full (h : InOrder count quest p) (member : o ∈ quest.m_questObjectives)
    (tracked : o.tracked = true) (lacks : p.GetQuestObjectiveCounter o.Id < o.required) :
    (p.GetQuestObjectiveCounter o.Id).toNat = count o := by
  have counted := h.counted o member tracked
  have less := UInt32.lt_iff_toNat_lt.mp lacks
  omega

lemma add_one_toNat {c required : UInt32} (lacks : c < required) : (c + 1).toNat = c.toNat + 1 := by
  have less := UInt32.lt_iff_toNat_lt.mp lacks
  have small := required.toNat_lt
  rw [UInt32.toNat_add, UInt32.toNat_one]
  omega

lemma find_some {f : QuestObjective → Bool} (found : quest.m_questObjectives.find? f = some o) :
    o ∈ quest.m_questObjectives ∧ f o = true :=
  ⟨List.mem_of_find?_eq_some found, List.find?_some found⟩

section Handlers

variable {p₁ : Player} {i : Fin MAX_QUEST_LOG_SIZE}

/-- What the guard says of a quest in the log, read where the pass comes to it: an objective that is
not counted is full. -/
lemma full_of_credits (smooth : t.Smooth mgr x) (inLog : t.player.questInSlot mgr i = some quest)
    (same : Same quest t.player p₁) (before : InOrder t.count quest p₁)
    (member : o ∈ quest.m_questObjectives) (credits : x.event.credits x.env quest o = true)
    (tracked : o.tracked = true)
    (uncounted : (p₁.questStatus quest.Id).Status = .incomplete → t.Counts quest o x.event → t.Full o) :
    o.required ≤ p₁.GetQuestObjectiveCounter o.Id := by
  by_cases incomplete : (p₁.questStatus quest.Id).Status = .incomplete
  · rw [same.counters o member]
    apply uncounted incomplete
    apply smooth.credited quest _ o member credits
    refine ⟨⟨i, inLog⟩, ?_⟩
    rw [← same.questStatus]
    exact incomplete
  · exact full_of_complete before incomplete member tracked

/-- A pass that adds one to the counter of the objective that it finds. Where it does not come to an
objective, or writes elsewhere, the objective is full. -/
lemma add_one_credit {type : ObjectiveType} {f : QuestObjective → Bool}
    {k : QuestObjective → UInt32} (before : InOrder t.count quest p₁)
    (known : mgr.GetQuestTemplate quest.Id = some quest)
    (notTaken : t.player.takes mgr x ≠ some quest) (tracks : ∀ o, f o = true → o.tracked = true)
    (credits_iff : ∀ o, x.event.credits x.env quest o = true ↔
      f o = true ∧ x.env.allowed quest.Id = true)
    (full : ∀ o ∈ quest.m_questObjectives, x.event.credits x.env quest o = true → o.tracked = true →
      ((p₁.questStatus quest.Id).Status = .incomplete →
        ¬ (quest.GetQuestObjectiveCountType type ≠ 0 ∧ quest.m_questObjectives.find? f = some o ∧
          k o = o.Id)) →
      o.required ≤ p₁.GetQuestObjectiveCounter o.Id) :
    Credit mgr x.env t.count (t.countAfter mgr x) quest p₁
      (if quest.GetQuestObjectiveCountType type = 0 then p₁
      else if (p₁.questStatus quest.Id).Status = .incomplete ∧ x.env.allowed quest.Id then
        match quest.m_questObjectives.find? f with
        | none => p₁
        | some o =>
          (if p₁.GetQuestObjectiveCounter o.Id < o.required then
            p₁.setCounter quest.Id (k o) (p₁.GetQuestObjectiveCounter o.Id + 1)
          else p₁).completeIfPossible mgr x.env quest.Id
      else p₁) := by
  split
  next none =>
    apply credit_idle before known notTaken
    intro o member credits tracked
    exact full o member credits tracked fun _ reaches => reaches.1 none
  next =>
    split
    next open' =>
      split
      next nowhere =>
        apply credit_idle before known notTaken
        intro o member credits tracked
        apply full o member credits tracked
        intro _ reaches
        rw [nowhere] at reaches
        cases reaches.2.1
      next o found =>
        obtain ⟨member, matches'⟩ := find_some found
        have tracked := tracks o matches'
        have credits := (credits_iff o).mpr ⟨matches', open'.2⟩
        have others : ∀ o' ∈ quest.m_questObjectives, o' ≠ o →
            x.event.credits x.env quest o' = true → o'.tracked = true →
            o'.required ≤ p₁.GetQuestObjectiveCounter o'.Id := by
          intro o' member' other credits' tracked'
          apply full o' member' credits' tracked'
          intro _ reaches
          rw [found] at reaches
          exact other (Option.some.inj reaches.2.1).symm
        split
        next lacks =>
          have own : k o = o.Id := by
            by_contra different
            have enough := full o member credits tracked fun _ reaches => different reaches.2.2
            exact absurd lacks (UInt32.not_lt.mpr enough)
          have counted := count_of_not_full before member tracked lacks
          have less := UInt32.lt_iff_toNat_lt.mp lacks
          rw [own]
          apply credit_counts before known notTaken member tracked credits _ others open'.1
          rw [add_one_toNat lacks]
          omega
        next enough =>
          rw [before.complete_eq known]
          apply credit_idle before known notTaken
          intro o' member' credits' tracked'
          by_cases own : o' = o
          · rw [own]
            exact UInt32.not_lt.mp enough
          · exact others o' member' own credits' tracked'
    next closed =>
      apply credit_idle before known notTaken
      intro o member credits tracked
      apply full o member credits tracked
      intro incomplete _
      exact closed ⟨incomplete, ((credits_iff o).mp credits).2⟩

variable (h : Exact mgr t) (smooth : t.Smooth mgr x)

include h smooth

lemma kill_inOrder {realEntry : UInt32} (event : x.event = .kill realEntry) :
    Bounded mgr (t.player.KilledMonsterCredit mgr x.env realEntry) ∧
      (t.player.KilledMonsterCredit mgr x.env realEntry).has = t.player.has ∧
      ∀ i quest, (t.player.KilledMonsterCredit mgr x.env realEntry).questInSlot mgr i = some quest →
        InOrder (t.countAfter mgr x) quest (t.player.KilledMonsterCredit mgr x.env realEntry) := by
  apply forSlots_credit x.env h.filed h.bounded h.inOrder
  intro p₁ i quest inLog same before
  have credits_iff : ∀ o, x.event.credits x.env quest o = true ↔
      decide (o.type = .npc ∧ o.ObjectId = realEntry) = true ∧ x.env.allowed quest.Id = true := by
    intro o
    simp [event, Event.credits]
  apply add_one_credit (k := QuestObjective.Id) before (questInSlot_some inLog).2
    (by simp [takes, event]) (fun o type => ?_) credits_iff (fun o member credits tracked unreached => ?_)
  · rw [QuestObjective.tracked, (of_decide_eq_true type).1]
  · apply full_of_credits smooth inLog same before member credits tracked
    intro incomplete counts
    have type := of_decide_eq_true ((credits_iff o).mp credits).1
    rw [event] at counts
    rcases counts with full | reaches
    · exact full
    · rw [Quest.Reaches, Quest.Finds, type.1, type.2] at reaches
      exact absurd ⟨reaches.1, reaches.2, rfl⟩ (unreached incomplete)

/-- A kill of a player is counted where the object of the objective has the id of the objective. -/
lemma killPlayer_inOrder (event : x.event = .killPlayer) :
    Bounded mgr (t.player.KilledPlayerCredit mgr x.env) ∧
      (t.player.KilledPlayerCredit mgr x.env).has = t.player.has ∧
      ∀ i quest, (t.player.KilledPlayerCredit mgr x.env).questInSlot mgr i = some quest →
        InOrder (t.countAfter mgr x) quest (t.player.KilledPlayerCredit mgr x.env) := by
  apply forSlots_credit x.env h.filed h.bounded h.inOrder
  intro p₁ i quest inLog same before
  have credits_iff : ∀ o, x.event.credits x.env quest o = true ↔
      decide (o.type = .player) = true ∧ x.env.allowed quest.Id = true := by
    intro o
    simp [event, Event.credits]
  apply add_one_credit (k := QuestObjective.ObjectId) before (questInSlot_some inLog).2
    (by simp [takes, event]) (fun o type => ?_) credits_iff (fun o member credits tracked unreached => ?_)
  · rw [QuestObjective.tracked, of_decide_eq_true type]
  · apply full_of_credits smooth inLog same before member credits tracked
    intro incomplete counts
    rw [event] at counts
    rcases counts with full | reaches
    · exact full
    · exact absurd reaches (unreached incomplete)

lemma satisfy_inOrder (objectId : UInt32) (type : ObjectiveType)
    (kind : type = .npc ∧ x.event = .talk objectId ∨ type = .go ∧ x.event = .useObject objectId) :
    Bounded mgr (t.player.QuestObjectiveSatisfy mgr x.env objectId 1 type) ∧
      (t.player.QuestObjectiveSatisfy mgr x.env objectId 1 type).has = t.player.has ∧
      ∀ i quest,
        (t.player.QuestObjectiveSatisfy mgr x.env objectId 1 type).questInSlot mgr i = some quest →
        InOrder (t.countAfter mgr x) quest
          (t.player.QuestObjectiveSatisfy mgr x.env objectId 1 type) := by
  have notTaken : ∀ quest, t.player.takes mgr x ≠ some quest := by
    intro quest
    rcases kind with ⟨_, event⟩ | ⟨_, event⟩ <;> simp [takes, event]
  have credits_iff : ∀ quest o, x.event.credits x.env quest o = true ↔
      o.type = type ∧ o.ObjectId = objectId := by
    intro quest o
    rcases kind with ⟨rfl, event⟩ | ⟨rfl, event⟩ <;> simp [event, Event.credits]
  have counts_eq : ∀ quest o, o.type = type → t.Counts quest o x.event →
      if (type = .npc ∨ quest.GetQuestObjectiveCountType type ≠ 0) ∧ quest.Finds o then
        t.player.GetQuestObjectiveCounter o.Id = 0
      else t.Full o := by
    rintro quest o same counts
    rcases kind with ⟨rfl, event⟩ | ⟨rfl, event⟩
    · rw [event] at counts
      simpa [Counts] using counts
    · rw [event] at counts
      simpa [Counts, Quest.Reaches, same] using counts
  apply forSlots_credit x.env h.filed h.bounded h.inOrder
  intro p₁ i quest inLog same before
  obtain ⟨_, known⟩ := questInSlot_some inLog
  have full : ∀ o ∈ quest.m_questObjectives, x.event.credits x.env quest o = true → o.tracked = true →
      ((p₁.questStatus quest.Id).Status = .incomplete →
        ¬ ((type = .npc ∨ quest.GetQuestObjectiveCountType type ≠ 0) ∧ quest.Finds o)) →
      o.required ≤ p₁.GetQuestObjectiveCounter o.Id := by
    intro o member credits tracked unreached
    apply full_of_credits smooth inLog same before member credits tracked
    intro incomplete counts
    have split := counts_eq quest o ((credits_iff quest o).mp credits).1 counts
    rw [if_neg (unreached incomplete)] at split
    exact split
  split
  next closed =>
    apply credit_idle before known (notTaken quest)
    intro o member credits tracked
    apply full o member credits tracked
    intro incomplete _
    exact closed incomplete
  next incomplete =>
    split
    next none =>
      apply credit_idle before known (notTaken quest)
      intro o member credits tracked
      apply full o member credits tracked
      rintro _ ⟨npc | some, _⟩
      · exact none.1 npc
      · exact some none.2
    next some =>
      split
      next nowhere =>
        apply credit_idle before known (notTaken quest)
        intro o member credits tracked
        apply full o member credits tracked
        rintro _ ⟨_, finds⟩
        obtain ⟨sameType, sameObject⟩ := (credits_iff quest o).mp credits
        rw [Quest.Finds, sameType, sameObject, nowhere] at finds
        cases finds
      next o found =>
        obtain ⟨member, matches'⟩ := find_some found
        have match' : o.type = type ∧ o.ObjectId = objectId := by simpa using matches'
        have tracked : o.tracked = true := by
          rw [QuestObjective.tracked, match'.1]
          rcases kind with ⟨rfl, _⟩ | ⟨rfl, _⟩ <;> rfl
        have credits := (credits_iff quest o).mpr match'
        have open' : (p₁.questStatus quest.Id).Status = .incomplete := by simpa using incomplete
        have finds : quest.Finds o := by
          rw [Quest.Finds, match'.1, match'.2]
          exact found
        have passes : type = .npc ∨ quest.GetQuestObjectiveCountType type ≠ 0 := by
          by_cases npc : type = .npc
          · exact .inl npc
          · exact .inr fun zero => some ⟨npc, zero⟩
        have zero : p₁.GetQuestObjectiveCounter o.Id = 0 := by
          rw [same.counters o member]
          have counts : t.Counts quest o x.event := by
            apply smooth.credited quest _ o member credits
            refine ⟨⟨i, inLog⟩, ?_⟩
            rw [← same.questStatus]
            exact open'
          have split := counts_eq quest o match'.1 counts
          rw [if_pos ⟨passes, finds⟩] at split
          exact split
        apply credit_counts before known (notTaken quest) member tracked credits _ _ open'
        · have counted := before.counted o member tracked
          rw [zero] at counted ⊢
          rw [UInt32.zero_add, UInt32.sub_zero]
          split
          next less =>
            have := UInt32.lt_iff_toNat_lt.mp less
            simp only [UInt32.toNat_one] at this
            omega
          next enough =>
            have := UInt32.le_iff_toNat_le.mp (UInt32.not_lt.mp enough)
            simp only [UInt32.toNat_one, UInt32.toNat_zero] at this counted ⊢
            omega
        · intro o' member' other credits' tracked'
          apply full o' member' credits' tracked'
          rintro _ ⟨_, finds'⟩
          obtain ⟨sameType, sameObject⟩ := (credits_iff quest o').mp credits'
          rw [Quest.Finds, sameType, sameObject, found] at finds'
          exact other (Option.some.inj finds').symm

end Handlers

end Tally

end WorldServer.Quests
