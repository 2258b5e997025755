import WorldServer.Lib.Run
import WorldServer.Events.GameEventMgr

/-!
# The chain of world events

The loop of `Update` changes each event by its own state alone, and queues what it starts and stops.
While the queue is worked off, an event that was completed for those that depend on it stays so, and
none is stopped whose conditions would be reset.
-/
namespace WorldServer.Events

open WorldServer.Lib

variable {n : ℕ} {now : ℕ}

/-! ### One event -/

namespace GameEventData

variable {d : GameEventData n}

lemma conditionsMet_iff :
    d.conditionsMet = true ↔ ∀ id c, d.conditions.lookup id = some c → c.reqNum ≤ c.done := by
  rw [conditionsMet, List.all_eq_true]
  constructor
  · intro all id c hf
    have met := all ⟨id, c⟩ (AList.mem_lookup_iff.mp hf)
    simpa using met
  · intro all c hm
    have met := all c.1 c.2 (AList.mem_lookup_iff.mpr hm)
    simpa using met

/-- What the loop of `Update` does to an event. -/
def scanned (now : ℕ) (d : GameEventData n) : GameEventData n :=
  if d.state = .WORLD_NEXTPHASE ∧ d.nextstart ≤ now then
    { d with state := .WORLD_FINISHED, nextstart := 0 }
  else if d.state = .WORLD_CONDITIONS then (d.CheckOneGameEventConditions now).1
  else d

def started (now : ℕ) (d : GameEventData n) : GameEventData n :=
  if d.isServerwide then
    ((if d.state = .WORLD_INACTIVE then { d with state := .WORLD_CONDITIONS }
      else d).CheckOneGameEventConditions now).1
  else d

structure Same (d' d : GameEventData n) : Prop where
  conditions : d'.conditions = d.conditions
  prerequisite_events : d'.prerequisite_events = d.prerequisite_events

lemma check_same : (d.CheckOneGameEventConditions now).1.Same d := by
  rw [CheckOneGameEventConditions]
  split <;> exact ⟨rfl, rfl⟩

lemma scanned_same : (d.scanned now).Same d := by
  rw [scanned]
  split
  · exact ⟨rfl, rfl⟩
  · split
    · exact check_same
    · exact ⟨rfl, rfl⟩

lemma started_same : (d.started now).Same d := by
  rw [started]
  split
  · split
    · exact ⟨check_same.conditions, check_same.prerequisite_events⟩
    · exact check_same
  · exact ⟨rfl, rfl⟩

/-- The event goes to the next phase; its length begins now unless it has begun. -/
def next (now : ℕ) (d : GameEventData n) : GameEventData n :=
  { d with
    state := .WORLD_NEXTPHASE
    nextstart := if d.nextstart = 0 then now + minutes d.length else d.nextstart }

lemma next_next : (d.next now).next now = d.next now := by
  by_cases zero : d.nextstart = 0
  · simp [next, zero]
  · simp [next, zero]

section

variable (now d)

lemma check_cases :
    (d.conditionsMet = true ∧ (d.CheckOneGameEventConditions now).1 = d.next now) ∨
      (d.conditionsMet = false ∧ (d.CheckOneGameEventConditions now).1 = d) := by
  rw [CheckOneGameEventConditions]
  cases met : d.conditionsMet with
  | true => exact .inl ⟨rfl, rfl⟩
  | false => exact .inr ⟨rfl, rfl⟩

lemma scanned_cases :
    (d.state = .WORLD_NEXTPHASE ∧ d.nextstart ≤ now ∧
        d.scanned now = { d with state := .WORLD_FINISHED, nextstart := 0 }) ∨
      (d.state = .WORLD_CONDITIONS ∧ d.conditionsMet = true ∧ d.scanned now = d.next now) ∨
      (¬ (d.state = .WORLD_NEXTPHASE ∧ d.nextstart ≤ now) ∧ d.scanned now = d) := by
  rw [scanned]
  split
  next finished => exact .inl ⟨finished.1, finished.2, rfl⟩
  next unfinished =>
    right
    split
    next inConditions =>
      rcases d.check_cases now with ⟨met, isNext⟩ | ⟨_, hs⟩
      · exact .inl ⟨inConditions, met, isNext⟩
      · exact .inr ⟨unfinished, hs⟩
    next => exact .inr ⟨unfinished, rfl⟩

lemma started_cases :
    (d.isServerwide = false ∧ d.started now = d) ∨
      (d.isServerwide = true ∧ d.conditionsMet = true ∧ d.started now = d.next now) ∨
      (d.isServerwide = true ∧ d.started now =
        { d with state := if d.state = .WORLD_INACTIVE then .WORLD_CONDITIONS else d.state }) := by
  rw [started]
  cases serverwide : d.isServerwide with
  | false => exact .inl ⟨rfl, rfl⟩
  | true =>
    right
    rw [if_pos rfl]
    split
    next inactive =>
      rcases check_cases now { d with state := .WORLD_CONDITIONS } with ⟨met, isNext⟩ | ⟨_, hs⟩
      · exact .inl ⟨rfl, met, isNext⟩
      · exact .inr ⟨rfl, hs⟩
    next =>
      rcases d.check_cases now with ⟨met, isNext⟩ | ⟨_, hs⟩
      · exact .inl ⟨rfl, met, isNext⟩
      · exact .inr ⟨rfl, hs⟩

end

lemma isCompleted_iff :
    d.isCompleted now = true ↔
      (d.state = .WORLD_NEXTPHASE ∨ d.state = .WORLD_FINISHED) ∧ d.nextstart ≤ now := by
  rw [isCompleted, Bool.and_eq_true, decide_eq_true_iff, decide_eq_true_iff]

lemma completed_scanned (completed : d.isCompleted now = true) :
    (d.scanned now).isCompleted now = true := by
  rcases d.scanned_cases now with ⟨_, _, hs⟩ | ⟨inConditions, _, _⟩ | ⟨_, hs⟩
  · rw [hs, isCompleted_iff]
    exact ⟨.inr rfl, Nat.zero_le now⟩
  · have ended := (isCompleted_iff.mp completed).1
    rw [inConditions] at ended
    simp at ended
  · rw [hs]
    exact completed

/-- An event that is started when it has been looked at stays completed: if its length begins again,
it has no length. -/
lemma completed_started (completed : (d.scanned now).isCompleted now = true)
    (unfinished : (d.scanned now).state ≠ .WORLD_FINISHED) :
    ((d.scanned now).started now).isCompleted now = true := by
  rcases d.scanned_cases now with ⟨_, _, hs⟩ | ⟨_, _, hs⟩ | ⟨notOver, hs⟩
  · rw [hs] at unfinished
    exact absurd rfl unfinished
  · rw [hs] at completed ⊢
    have ended := (isCompleted_iff.mp completed).2
    rcases (d.next now).started_cases now with ⟨_, again⟩ | ⟨_, _, again⟩ | ⟨_, again⟩
    · rw [again]
      exact completed
    · rw [again, next_next]
      exact completed
    · rw [again, isCompleted_iff]
      exact ⟨.inl rfl, ended⟩
  · rw [hs] at completed unfinished
    obtain ⟨phase | phase, ended⟩ := isCompleted_iff.mp completed
    · exact absurd ⟨phase, ended⟩ notOver
    · exact absurd phase unfinished

end GameEventData

/-! ### The loop ended the events -/

variable {id : Fin n}

namespace GameEventMgr

def Kept (s : GameEventMgr n) : Prop :=
  ∀ id ∈ s.m_ActiveEvents, (s.mGameEvent id).state ≠ .WORLD_INACTIVE ∧
    (s.mGameEvent id).state ≠ .WORLD_FINISHED

/-- What the loop has found when it has seen some events. -/
structure Found (now : ℕ) (s : GameEventMgr n) (seen : List (Fin n)) (c : Scan n) : Prop where
  events : ∀ id, c.mgr.mGameEvent id =
    if id ∈ seen then (s.mGameEvent id).scanned now else s.mGameEvent id
  quests : c.mgr.mQuestToEventConditions = s.mQuestToEventConditions
  active : c.mgr.m_ActiveEvents = s.m_ActiveEvents
  nodup : c.activate.Nodup
  activate : ∀ id ∈ c.activate, id ∈ seen ∧ id ∉ s.m_ActiveEvents ∧
    (c.mgr.mGameEvent id).state ≠ .WORLD_FINISHED ∧
      ((s.mGameEvent id).state = .WORLD_INACTIVE → (s.mGameEvent id).prerequisite_events ≠ ∅ ∧
        ∀ other ∈ (s.mGameEvent id).prerequisite_events,
          (c.mgr.mGameEvent other).isCompleted now = true)
  deactivate : ∀ id ∈ c.deactivate, id ∈ seen ∧ id ∈ s.m_ActiveEvents ∧
    ((c.mgr.mGameEvent id).state = .WORLD_FINISHED ∨
      (c.mgr.mGameEvent id).isServerwide = false)
  finished : ∀ id ∈ seen, (c.mgr.mGameEvent id).state = .WORLD_FINISHED →
    id ∈ s.m_ActiveEvents → id ∈ c.deactivate

lemma check_of_inactive {s : GameEventMgr n}
    (inactive : (s.mGameEvent id).state = .WORLD_INACTIVE)
    (checked : s.CheckOneGameEvent now id = true) :
    (s.mGameEvent id).prerequisite_events ≠ ∅ ∧
      ∀ other ∈ (s.mGameEvent id).prerequisite_events,
        (s.mGameEvent other).isCompleted now = true := by
  rw [CheckOneGameEvent] at checked
  simp only [inactive, Bool.and_eq_true, decide_eq_true_iff, Bool.not_eq_true',
    decide_eq_false_iff_not] at checked
  exact ⟨checked.2, checked.1⟩

lemma scanned_of_unchecked {s : GameEventMgr n} (unchecked : ¬ s.CheckOneGameEvent now id = true) :
    (s.mGameEvent id).scanned now = s.mGameEvent id := by
  rcases (s.mGameEvent id).scanned_cases now with ⟨phase, _, _⟩ | ⟨phase, _, _⟩ | ⟨_, hs⟩
  · exact absurd (by simp [CheckOneGameEvent, phase]) unchecked
  · exact absurd (by simp [CheckOneGameEvent, phase]) unchecked
  · exact hs

lemma scanOne_cases (now : ℕ) (c : Scan n) (itr : Fin n) :
    (scanOne now c itr).mgr =
        c.mgr.setEvent itr ((c.mgr.mGameEvent itr).scanned now) ∧
      ((((c.mgr.mGameEvent itr).scanned now).state = .WORLD_FINISHED ∨
          c.mgr.CheckOneGameEvent now itr = false) ∧
        (scanOne now c itr).activate = c.activate ∧
        (scanOne now c itr).deactivate =
          (if itr ∈ c.mgr.m_ActiveEvents then c.deactivate ++ [itr] else c.deactivate) ∨
      ((c.mgr.mGameEvent itr).scanned now).state ≠ .WORLD_FINISHED ∧
        c.mgr.CheckOneGameEvent now itr = true ∧
        (scanOne now c itr).deactivate = c.deactivate ∧
        (scanOne now c itr).activate =
          (if itr ∉ c.mgr.m_ActiveEvents then c.activate ++ [itr] else c.activate)) := by
  rw [scanOne]
  split
  next checked =>
    split
    next ended =>
      rw [GameEventData.scanned, if_pos ended]
      exact ⟨rfl, .inl ⟨.inl rfl, rfl, rfl⟩⟩
    next notOver =>
      have isScanned : (c.mgr.mGameEvent itr).scanned now =
          if (c.mgr.mGameEvent itr).state = .WORLD_CONDITIONS then
            ((c.mgr.mGameEvent itr).CheckOneGameEventConditions now).1
          else c.mgr.mGameEvent itr := by
        rw [GameEventData.scanned, if_neg notOver]
      refine ⟨by rw [isScanned], .inr ⟨?_, checked, rfl, rfl⟩⟩
      rcases (c.mgr.mGameEvent itr).scanned_cases now with
        ⟨phase, ended, _⟩ | ⟨_, _, isNext⟩ | ⟨_, hs⟩
      · exact absurd ⟨phase, ended⟩ notOver
      · rw [isNext]
        exact nofun
      · rw [hs]
        intro finished
        rw [CheckOneGameEvent] at checked
        simp [finished] at checked
  next unchecked =>
    refine ⟨?_, .inl ⟨.inr (by simpa using unchecked), rfl, rfl⟩⟩
    rw [scanned_of_unchecked unchecked, setEvent, Function.update_eq_self]

lemma normal_of_unchecked {s : GameEventMgr n} (unchecked : s.CheckOneGameEvent now id = false)
    (started : (s.mGameEvent id).state ≠ .WORLD_INACTIVE)
    (unfinished : (s.mGameEvent id).state ≠ .WORLD_FINISHED) :
    (s.mGameEvent id).isServerwide = false := by
  rw [CheckOneGameEvent] at unchecked
  cases phase : (s.mGameEvent id).state with
  | NORMAL => simp [GameEventData.isServerwide, phase]
  | INTERNAL => simp [GameEventData.isServerwide, phase]
  | WORLD_INACTIVE => exact absurd phase started
  | WORLD_FINISHED => exact absurd phase unfinished
  | WORLD_CONDITIONS => simp [phase] at unchecked
  | WORLD_NEXTPHASE => simp [phase] at unchecked

variable {seen : List (Fin n)}

lemma Found.scanOne {s : GameEventMgr n} {c : Scan n} {itr : Fin n} (found : Found now s seen c)
    (kept : s.Kept) (fresh : itr ∉ seen) : Found now s (seen ++ [itr]) (scanOne now c itr) := by
  have own : c.mgr.mGameEvent itr = s.mGameEvent itr := by rw [found.events, if_neg fresh]
  obtain ⟨isMgr, queues⟩ := scanOne_cases now c itr
  rw [own, found.active] at queues
  rw [own] at isMgr
  have here : (GameEventMgr.scanOne now c itr).mgr.mGameEvent itr =
      (s.mGameEvent itr).scanned now := by
    rw [isMgr]
    exact Function.update_self _ _ _
  have there : ∀ id ≠ itr, (GameEventMgr.scanOne now c itr).mgr.mGameEvent id =
      c.mgr.mGameEvent id := by
    intro id other
    rw [isMgr]
    exact Function.update_of_ne other _ _
  have seenOther : ∀ id ∈ seen, id ≠ itr := fun id hm hs => fresh (hs ▸ hm)
  have stays : ∀ id, (c.mgr.mGameEvent id).isCompleted now = true →
      ((GameEventMgr.scanOne now c itr).mgr.mGameEvent id).isCompleted now = true := by
    intro id completed
    by_cases hs : id = itr
    · subst hs
      rw [here]
      rw [own] at completed
      exact GameEventData.completed_scanned completed
    · rw [there id hs]
      exact completed
  -- what was queued before this turn
  have queuedBefore : ∀ id ∈ c.activate, id ∈ seen ++ [itr] ∧ id ∉ s.m_ActiveEvents ∧
      ((GameEventMgr.scanOne now c itr).mgr.mGameEvent id).state ≠ .WORLD_FINISHED ∧
      ((s.mGameEvent id).state = .WORLD_INACTIVE → (s.mGameEvent id).prerequisite_events ≠ ∅ ∧
        ∀ other ∈ (s.mGameEvent id).prerequisite_events,
          ((GameEventMgr.scanOne now c itr).mgr.mGameEvent other).isCompleted now = true) := by
    intro id hm
    obtain ⟨wasSeen, inactive, unfinished, ready⟩ := found.activate id hm
    refine ⟨List.mem_append_left _ wasSeen, inactive, ?_, fun waits => ?_⟩
    · rw [there id (seenOther id wasSeen)]
      exact unfinished
    · exact ⟨(ready waits).1, fun other needed => stays other ((ready waits).2 other needed)⟩
  have stoppedBefore : ∀ id ∈ c.deactivate, id ∈ seen ++ [itr] ∧ id ∈ s.m_ActiveEvents ∧
      (((GameEventMgr.scanOne now c itr).mgr.mGameEvent id).state = .WORLD_FINISHED ∨
        ((GameEventMgr.scanOne now c itr).mgr.mGameEvent id).isServerwide = false) := by
    intro id hm
    obtain ⟨wasSeen, active, ends⟩ := found.deactivate id hm
    rw [there id (seenOther id wasSeen)]
    exact ⟨List.mem_append_left _ wasSeen, active, ends⟩
  have events : ∀ id, (GameEventMgr.scanOne now c itr).mgr.mGameEvent id =
      if id ∈ seen ++ [itr] then (s.mGameEvent id).scanned now else s.mGameEvent id := by
    intro id
    by_cases hs : id = itr
    · subst hs
      rw [here, if_pos (by simp)]
    · rw [there id hs, found.events]
      simp [hs]
  have quests : (GameEventMgr.scanOne now c itr).mgr.mQuestToEventConditions =
      s.mQuestToEventConditions := by
    rw [isMgr]
    exact found.quests
  have active : (GameEventMgr.scanOne now c itr).mgr.m_ActiveEvents = s.m_ActiveEvents := by
    rw [isMgr]
    exact found.active
  rcases queues with ⟨ends, sameActivate, nowDeactivate⟩ | ⟨unfinished, checked, hs, nowActivate⟩
  · -- the event is not started
    refine ⟨events, quests, active, ?_, ?_, ?_, ?_⟩
    · rw [sameActivate]
      exact found.nodup
    · rw [sameActivate]
      exact queuedBefore
    · rw [nowDeactivate]
      split
      next isActive =>
        intro id hm
        rcases List.mem_append.mp hm with before | isLast
        · exact stoppedBefore id before
        · obtain rfl := List.mem_singleton.mp isLast
          refine ⟨by simp, isActive, ?_⟩
          rw [here]
          rcases ends with finished | unchecked
          · exact .inl finished
          · obtain ⟨started, unfinished⟩ := kept id isActive
            rw [← own] at started unfinished
            have normal := normal_of_unchecked unchecked started unfinished
            have isSame := scanned_of_unchecked (Bool.eq_false_iff.mp unchecked)
            rw [own] at isSame normal
            rw [isSame]
            exact .inr normal
      · exact stoppedBefore
    · intro id hm finished isActive
      rw [nowDeactivate]
      rcases List.mem_append.mp hm with before | isLast
      · rw [there id (seenOther id before)] at finished
        have queued := found.finished id before finished isActive
        split
        · exact List.mem_append_left _ queued
        · exact queued
      · obtain rfl := List.mem_singleton.mp isLast
        rw [if_pos isActive]
        simp
  · -- the event is started unless it is active
    refine ⟨events, quests, active, ?_, ?_, ?_, ?_⟩
    · rw [nowActivate]
      split
      · refine List.Nodup.append found.nodup (List.nodup_singleton itr) ?_
        rw [List.disjoint_singleton]
        exact fun hm => fresh (found.activate itr hm).1
      · exact found.nodup
    · rw [nowActivate]
      split
      next inactive =>
        intro id hm
        rcases List.mem_append.mp hm with before | isLast
        · exact queuedBefore id before
        · obtain rfl := List.mem_singleton.mp isLast
          refine ⟨by simp, inactive, by rw [here]; exact unfinished, fun waits => ?_⟩
          have ready := check_of_inactive (by rw [own]; exact waits) checked
          rw [own] at ready
          exact ⟨ready.1, fun other needed => stays other (ready.2 other needed)⟩
      · exact queuedBefore
    · rw [hs]
      exact stoppedBefore
    · intro id hm finished isActive
      rw [hs]
      rcases List.mem_append.mp hm with before | isLast
      · rw [there id (seenOther id before)] at finished
        exact found.finished id before finished isActive
      · obtain rfl := List.mem_singleton.mp isLast
        rw [here] at finished
        exact absurd finished unfinished

lemma Found.init (now : ℕ) (s : GameEventMgr n) :
    Found now s [] ⟨s, [], [], max_ge_check_delay⟩ where
  events := fun _ => rfl
  quests := rfl
  active := rfl
  nodup := List.nodup_nil
  activate := nofun
  deactivate := nofun
  finished := nofun

variable {ids : List (Fin n)}

lemma Found.foldl {s : GameEventMgr n} (kept : s.Kept) {c : Scan n} (hf : Found now s seen c)
    (nodup : (seen ++ ids).Nodup) :
    Found now s (seen ++ ids) (ids.foldl (GameEventMgr.scanOne now) c) := by
  induction ids generalizing seen c with
  | nil => simpa using hf
  | cons itr ids ih =>
    have fresh : itr ∉ seen := by
      intro hm
      exact (List.nodup_append.mp nodup).2.2 itr hm itr List.mem_cons_self rfl
    have rest : seen ++ itr :: ids = (seen ++ [itr]) ++ ids := by simp
    rw [rest] at nodup ⊢
    exact ih (hf.scanOne kept fresh) nodup

lemma found_scan {s : GameEventMgr n} (kept : s.Kept) (now : ℕ) :
    Found now s (eventIds n) (s.scan now) :=
  (Found.init now s).foldl kept ((List.nodup_finRange n).filter _)

/-! ### Starting and stopping -/

lemma StartEvent_eq (now : ℕ) (s : GameEventMgr n) (id : Fin n) :
    (s.StartEvent now id false).1 =
      { s.setEvent id ((s.mGameEvent id).started now) with
        m_ActiveEvents := insert id s.m_ActiveEvents } := by
  rw [StartEvent]
  cases serverwide : (s.mGameEvent id).isServerwide with
  | false =>
    simp [serverwide, GameEventData.started, setEvent, Function.update_eq_self]
  | true => simp [serverwide, GameEventData.started, setEvent]

lemma startAll_spec (now : ℕ) (nodup : ids.Nodup) (p : GameEventMgr n × ℕ) :
    (∀ id, (startAll now ids p).1.mGameEvent id =
      if id ∈ ids then (p.1.mGameEvent id).started now else p.1.mGameEvent id) ∧
    (∀ id, id ∈ (startAll now ids p).1.m_ActiveEvents ↔ id ∈ ids ∨ id ∈ p.1.m_ActiveEvents) ∧
    (startAll now ids p).1.mQuestToEventConditions = p.1.mQuestToEventConditions := by
  induction ids generalizing p with
  | nil => exact ⟨fun _ => rfl, fun id => by simp [startAll], rfl⟩
  | cons first ids ih =>
    obtain ⟨fresh, rest⟩ := List.nodup_cons.mp nodup
    have unfolds : startAll now (first :: ids) p = startAll now ids
        ((p.1.StartEvent now first false).1,
          if (p.1.StartEvent now first false).2 then 0 else p.2) := rfl
    obtain ⟨events, active, quests⟩ := ih rest
      ((p.1.StartEvent now first false).1,
        if (p.1.StartEvent now first false).2 then 0 else p.2)
    rw [← unfolds] at events active quests
    simp only [StartEvent_eq] at events active quests
    refine ⟨fun id => ?_, fun id => ?_, quests⟩
    · rw [events]
      by_cases hs : id = first
      · subst hs
        simp [fresh, setEvent]
      · simp [hs, setEvent]
    · rw [active]
      simp only [Finset.mem_insert, List.mem_cons]
      tauto

lemma StopEvent_eq (now : ℕ) {s : GameEventMgr n}
    (ends : (s.mGameEvent id).state = .WORLD_FINISHED ∨ (s.mGameEvent id).isServerwide = false) :
    s.StopEvent now id false = { s with m_ActiveEvents := s.m_ActiveEvents.erase id } := by
  rw [StopEvent]
  rcases ends with finished | normal
  · simp [finished]
  · simp [normal]

lemma stopAll_spec (now : ℕ) {s : GameEventMgr n}
    (ends : ∀ id ∈ ids, (s.mGameEvent id).state = .WORLD_FINISHED ∨
      (s.mGameEvent id).isServerwide = false) :
    (stopAll now ids s).mGameEvent = s.mGameEvent ∧
      (∀ id, id ∈ (stopAll now ids s).m_ActiveEvents ↔ id ∈ s.m_ActiveEvents ∧ id ∉ ids) ∧
      (stopAll now ids s).mQuestToEventConditions = s.mQuestToEventConditions := by
  induction ids generalizing s with
  | nil => exact ⟨rfl, fun id => by simp [stopAll], rfl⟩
  | cons first ids ih =>
    have stops := StopEvent_eq now (ends first List.mem_cons_self)
    have unfolds : stopAll now (first :: ids) s =
        stopAll now ids { s with m_ActiveEvents := s.m_ActiveEvents.erase first } := by
      rw [← stops]
      rfl
    rw [unfolds]
    obtain ⟨events, active, quests⟩ := @ih { s with m_ActiveEvents := s.m_ActiveEvents.erase first }
      fun id hm => ends id (List.mem_cons_of_mem _ hm)
    refine ⟨events, fun id => ?_, quests⟩
    rw [active]
    simp only [Finset.mem_erase, List.mem_cons]
    tauto

/-- `Update`: each event is looked at, and started if it is queued; none is reset. -/
structure Updated (now : ℕ) (s s' : GameEventMgr n) : Prop where
  events : ∀ id, s'.mGameEvent id =
    if id ∈ (s.scan now).activate then ((s.mGameEvent id).scanned now).started now
    else (s.scan now).mgr.mGameEvent id
  active : ∀ id, id ∈ s'.m_ActiveEvents ↔
    (id ∈ (s.scan now).activate ∨ id ∈ s.m_ActiveEvents) ∧ id ∉ (s.scan now).deactivate
  quests : s'.mQuestToEventConditions = s.mQuestToEventConditions

lemma updated {s : GameEventMgr n} (kept : s.Kept) (now : ℕ) :
    Updated now s (s.Update now).1 := by
  have found := found_scan kept now
  have unfolds : (s.Update now).1 = stopAll now (s.scan now).deactivate
      (startAll now (s.scan now).activate ((s.scan now).mgr, (s.scan now).nextEventDelay)).1 := rfl
  obtain ⟨events, active, quests⟩ := startAll_spec now found.nodup
    ((s.scan now).mgr, (s.scan now).nextEventDelay)
  have looked : ∀ id ∈ (s.scan now).activate,
      (s.scan now).mgr.mGameEvent id = (s.mGameEvent id).scanned now := by
    intro id hm
    rw [found.events, if_pos (found.activate id hm).1]
  -- an event to stop was active, one to start was not
  have ends : ∀ id ∈ (s.scan now).deactivate,
      ((startAll now (s.scan now).activate
          ((s.scan now).mgr, (s.scan now).nextEventDelay)).1.mGameEvent id).state =
            .WORLD_FINISHED ∨
        ((startAll now (s.scan now).activate
          ((s.scan now).mgr, (s.scan now).nextEventDelay)).1.mGameEvent id).isServerwide =
            false := by
    intro id hm
    obtain ⟨_, isActive, ends⟩ := found.deactivate id hm
    rw [events, if_neg fun started => (found.activate id started).2.1 isActive]
    exact ends
  obtain ⟨events', active', quests'⟩ := stopAll_spec now ends
  rw [unfolds]
  refine ⟨fun id => ?_, fun id => ?_, ?_⟩
  · rw [events', events]
    split
    next started => rw [looked id started]
    · rfl
  · rw [active', active, found.active]
  · rw [quests', quests, found.quests]

end GameEventMgr

/-! ### States of an event -/

namespace GameEventData

variable {d : GameEventData n}

lemma conditionsMet_of_next (reached : (d.scanned now).state = .WORLD_NEXTPHASE)
    (before : d.state ≠ .WORLD_NEXTPHASE) : d.conditionsMet = true := by
  rcases d.scanned_cases now with ⟨phase, _, _⟩ | ⟨_, met, _⟩ | ⟨_, hs⟩
  · exact absurd phase before
  · exact met
  · rw [hs] at reached
    exact absurd reached before

lemma conditionsMet_congr {d' : GameEventData n} (hs : d'.Same d) :
    d'.conditionsMet = d.conditionsMet := by
  rw [conditionsMet, conditionsMet, hs.conditions]

lemma finished_of_scanned (reached : (d.scanned now).state = .WORLD_FINISHED)
    (before : d.state ≠ .WORLD_FINISHED) :
    d.state = .WORLD_NEXTPHASE ∧ d.nextstart ≤ now := by
  rcases d.scanned_cases now with ⟨phase, ended, _⟩ | ⟨_, _, isNext⟩ | ⟨_, hs⟩
  · exact ⟨phase, ended⟩
  · rw [isNext] at reached
    cases reached
  · rw [hs] at reached
    exact absurd reached before

lemma scanned_of_rest (now : ℕ) (rest : d.state = .WORLD_INACTIVE ∨ d.state = .WORLD_FINISHED) :
    d.scanned now = d := by
  rcases d.scanned_cases now with ⟨phase, _, _⟩ | ⟨phase, _, _⟩ | ⟨_, hs⟩
  · rw [phase] at rest
    simp at rest
  · rw [phase] at rest
    simp at rest
  · exact hs

lemma inactive_of_scanned (reached : (d.scanned now).state = .WORLD_INACTIVE) :
    d.state = .WORLD_INACTIVE := by
  rcases d.scanned_cases now with ⟨_, _, hs⟩ | ⟨_, _, hs⟩ | ⟨_, hs⟩
  · rw [hs] at reached
    cases reached
  · rw [hs] at reached
    cases reached
  · rw [hs] at reached
    exact reached

lemma started_state (now : ℕ) (d : GameEventData n) (unfinished : d.state ≠ .WORLD_FINISHED) :
    (d.started now).state ≠ .WORLD_INACTIVE ∧ (d.started now).state ≠ .WORLD_FINISHED := by
  rcases d.started_cases now with ⟨normal, hs⟩ | ⟨_, _, hs⟩ | ⟨_, hs⟩
  · rw [hs]
    refine ⟨fun inactive => ?_, unfinished⟩
    simp [isServerwide, inactive] at normal
  · rw [hs]
    exact ⟨nofun, nofun⟩
  · rw [hs]
    simp only
    split
    · exact ⟨nofun, nofun⟩
    next active => exact ⟨active, unfinished⟩

end GameEventData

namespace GameEventMgr

variable {s s' : GameEventMgr n}

lemma Updated.cases (kept : s.Kept) (updated : Updated now s s') (id : Fin n) :
    id ∉ (s.scan now).activate ∧
        (s'.mGameEvent id = s.mGameEvent id ∧ id ∉ eventIds n ∨
          s'.mGameEvent id = (s.mGameEvent id).scanned now ∧ id ∈ eventIds n) ∨
      id ∈ (s.scan now).activate ∧ id ∉ s.m_ActiveEvents ∧
        ((s.mGameEvent id).scanned now).state ≠ .WORLD_FINISHED ∧
        s'.mGameEvent id = ((s.mGameEvent id).scanned now).started now := by
  have found := found_scan kept now
  have isNow := updated.events id
  by_cases queued : id ∈ (s.scan now).activate
  · right
    obtain ⟨seen, inactive, unfinished, _⟩ := found.activate id queued
    rw [found.events, if_pos seen] at unfinished
    rw [if_pos queued] at isNow
    exact ⟨queued, inactive, unfinished, isNow⟩
  · left
    rw [if_neg queued, found.events] at isNow
    refine ⟨queued, ?_⟩
    by_cases seen : id ∈ eventIds n
    · rw [if_pos seen] at isNow
      exact .inr ⟨isNow, seen⟩
    · rw [if_neg seen] at isNow
      exact .inl ⟨isNow, seen⟩

lemma Updated.same (kept : s.Kept) (updated : Updated now s s') (id : Fin n) :
    (s'.mGameEvent id).Same (s.mGameEvent id) := by
  rcases updated.cases kept id with ⟨_, ⟨hs, _⟩ | ⟨hs, _⟩⟩ | ⟨_, _, _, hs⟩
  · rw [hs]
    exact ⟨rfl, rfl⟩
  · rw [hs]
    exact GameEventData.scanned_same
  · rw [hs]
    obtain ⟨conditions, prerequisites⟩ :=
      @GameEventData.started_same n now ((s.mGameEvent id).scanned now)
    obtain ⟨conditions', prerequisites'⟩ := @GameEventData.scanned_same n now (s.mGameEvent id)
    exact ⟨conditions.trans conditions', prerequisites.trans prerequisites'⟩

lemma Updated.kept (kept : s.Kept) (updated : Updated now s s') : s'.Kept := by
  have found := found_scan kept now
  intro id isActive
  obtain ⟨wasActive, goesOn⟩ := (updated.active id).mp isActive
  rcases updated.cases kept id with ⟨notQueued, ⟨hs, _⟩ | ⟨hs, seen⟩⟩ |
    ⟨_, _, unfinished, hs⟩
  · rw [hs]
    exact kept id (wasActive.resolve_left notQueued)
  · have active := wasActive.resolve_left notQueued
    rw [hs]
    constructor
    · exact fun inactive => (kept id active).1 (GameEventData.inactive_of_scanned inactive)
    · intro finished
      apply goesOn
      apply found.finished id seen _ active
      rw [found.events, if_pos seen]
      exact finished
  · rw [hs]
    exact GameEventData.started_state now _ unfinished

lemma HandleQuestComplete_cases (now : ℕ) (s : GameEventMgr n) (quest_id : ℕ) :
    (s.HandleQuestComplete now quest_id).1 = s ∨
      ∃ q c, s.mQuestToEventConditions.lookup quest_id = some q ∧
        q.event_id ∈ s.m_ActiveEvents ∧ (s.mGameEvent q.event_id).state = .WORLD_CONDITIONS ∧
        (s.mGameEvent q.event_id).conditions.lookup q.condition = some c ∧ c.done < c.reqNum ∧
        (s.HandleQuestComplete now quest_id).1 = s.setEvent q.event_id
          ({ s.mGameEvent q.event_id with
            conditions := (s.mGameEvent q.event_id).conditions.insert q.condition
              { c with done := min (c.done + q.num) c.reqNum } }.CheckOneGameEventConditions
                now).1 := by
  rw [HandleQuestComplete]
  cases registered : s.mQuestToEventConditions.lookup quest_id with
  | none => exact .inl rfl
  | some q =>
    simp only
    split
    · exact .inl rfl
    next phase =>
      obtain ⟨active, inConditions⟩ := not_or.mp phase
      cases hf : (s.mGameEvent q.event_id).conditions.lookup q.condition with
      | none => exact .inl rfl
      | some c =>
        simp only
        split
        next missing =>
          right
          have isMin : (if c.done + q.num > c.reqNum then c.reqNum else c.done + q.num) =
              min (c.done + q.num) c.reqNum := by
            rw [min_def]
            split
            next more => rw [if_neg (not_le.mpr more)]
            next enough => rw [if_pos (not_lt.mp enough)]
          rw [isMin]
          exact ⟨q, c, rfl, not_not.mp active, not_not.mp inConditions, hf, missing, rfl⟩
        · exact .inl rfl

end GameEventMgr

/-! ### Runs -/

/-- What happens: the events are updated, or a quest is completed. -/
inductive Action where
  | update (now : ℕ)
  | quest (now quest_id : ℕ)

def Action.time : Action → ℕ
  | update now => now
  | quest now _ => now

open GameEventMgr

def step (s : GameEventMgr n) : Action → GameEventMgr n
  | .update now => (s.Update now).1
  | .quest now quest_id => (s.HandleQuestComplete now quest_id).1

/-- A count is the same, or a quest has added its number to it, as far as it was required. -/
def Counted (s : GameEventMgr n) (a : Action) (id : Fin n) (condition : ℕ)
    (c c' : GameEventFinishCondition) : Prop :=
  c'.reqNum = c.reqNum ∧
    (c'.done = c.done ∨
      ∃ now quest_id q, a = .quest now quest_id ∧
        s.mQuestToEventConditions.lookup quest_id = some q ∧ q.event_id = id ∧
        q.condition = condition ∧ c.done < c.reqNum ∧ c'.done = min (c.done + q.num) c.reqNum)

structure Lawful (s : GameEventMgr n) (a : Action) : Prop where
  counts : ∀ id condition, Option.Rel (Counted s a id condition)
    ((s.mGameEvent id).conditions.lookup condition)
    (((step s a).mGameEvent id).conditions.lookup condition)
  nextphase : ∀ id, ((step s a).mGameEvent id).state = .WORLD_NEXTPHASE →
    (s.mGameEvent id).state ≠ .WORLD_NEXTPHASE →
      ∀ condition c, ((step s a).mGameEvent id).conditions.lookup condition = some c →
        c.reqNum ≤ c.done
  finished : ∀ id, ((step s a).mGameEvent id).state = .WORLD_FINISHED →
    (s.mGameEvent id).state ≠ .WORLD_FINISHED →
      (s.mGameEvent id).state = .WORLD_NEXTPHASE ∧ (s.mGameEvent id).nextstart ≤ a.time
  /-- An event leaves `INACTIVE` in an update when it is its turn to be started, and then all its
  prerequisites are completed. -/
  leaves : ∀ id, (s.mGameEvent id).state = .WORLD_INACTIVE →
    ((step s a).mGameEvent id).state ≠ .WORLD_INACTIVE →
      ∃ now before behind, a = .update now ∧ (s.scan now).activate = before ++ id :: behind ∧
        (s.mGameEvent id).prerequisite_events ≠ ∅ ∧
        ∀ other ∈ (s.mGameEvent id).prerequisite_events,
          ((startAll now before ((s.scan now).mgr, (s.scan now).nextEventDelay)).1.mGameEvent
            other).isCompleted now = true
  again : (∀ id, (s.mGameEvent id).state = .WORLD_FINISHED →
      ((step s a).mGameEvent id).state = .WORLD_FINISHED) ∧
    ∀ id, ((step s a).mGameEvent id).state = .WORLD_FINISHED → id ∉ (step s a).m_ActiveEvents

lemma optionRel_refl {α : Type} {R : α → α → Prop} (refl : ∀ a, R a a) (x : Option α) :
    Option.Rel R x x := by
  cases x with
  | none => exact .none
  | some a => exact .some (refl a)

lemma counted_refl (s : GameEventMgr n) (a : Action) (id : Fin n) (condition : ℕ)
    (c : GameEventFinishCondition) : Counted s a id condition c c := ⟨rfl, .inl rfl⟩

namespace GameEventMgr.Updated

variable {s s' : GameEventMgr n}

lemma nextphase (kept : s.Kept) (updated : Updated now s s') (id : Fin n)
    (reached : (s'.mGameEvent id).state = .WORLD_NEXTPHASE)
    (before : (s.mGameEvent id).state ≠ .WORLD_NEXTPHASE) :
    (s'.mGameEvent id).conditionsMet = true := by
  rw [GameEventData.conditionsMet_congr (updated.same kept id)]
  rcases updated.cases kept id with ⟨_, ⟨hs, _⟩ | ⟨hs, _⟩⟩ | ⟨_, _, _, hs⟩
  · rw [hs] at reached
    exact absurd reached before
  · rw [hs] at reached
    exact GameEventData.conditionsMet_of_next reached before
  · rw [hs] at reached
    rcases ((s.mGameEvent id).scanned now).started_cases now with
      ⟨_, again⟩ | ⟨_, met, _⟩ | ⟨_, again⟩
    · rw [again] at reached
      exact GameEventData.conditionsMet_of_next reached before
    · rw [GameEventData.conditionsMet_congr GameEventData.scanned_same] at met
      exact met
    · rw [again] at reached
      split at reached
      · cases reached
      · exact GameEventData.conditionsMet_of_next reached before

lemma finished (kept : s.Kept) (updated : Updated now s s') (id : Fin n)
    (reached : (s'.mGameEvent id).state = .WORLD_FINISHED)
    (before : (s.mGameEvent id).state ≠ .WORLD_FINISHED) :
    (s.mGameEvent id).state = .WORLD_NEXTPHASE ∧ (s.mGameEvent id).nextstart ≤ now := by
  rcases updated.cases kept id with ⟨_, ⟨hs, _⟩ | ⟨hs, _⟩⟩ | ⟨_, _, unfinished, hs⟩
  · rw [hs] at reached
    exact absurd reached before
  · rw [hs] at reached
    exact GameEventData.finished_of_scanned reached before
  · rw [hs] at reached
    exact absurd reached (GameEventData.started_state now _ unfinished).2

/-- An inactive event is queued by its prerequisites, which stay completed while those before it in
the queue are started. -/
lemma leaves (kept : s.Kept) (updated : Updated now s s') (id : Fin n)
    (waits : (s.mGameEvent id).state = .WORLD_INACTIVE)
    (left : (s'.mGameEvent id).state ≠ .WORLD_INACTIVE) :
    ∃ before behind, (s.scan now).activate = before ++ id :: behind ∧
      (s.mGameEvent id).prerequisite_events ≠ ∅ ∧
      ∀ other ∈ (s.mGameEvent id).prerequisite_events,
        ((startAll now before ((s.scan now).mgr, (s.scan now).nextEventDelay)).1.mGameEvent
          other).isCompleted now = true := by
  have found := found_scan kept now
  have rest := GameEventData.scanned_of_rest now (.inl waits)
  rcases updated.cases kept id with ⟨_, ⟨hs, _⟩ | ⟨hs, _⟩⟩ | ⟨queued, _, _, _⟩
  · rw [hs] at left
    exact absurd waits left
  · rw [hs, rest] at left
    exact absurd waits left
  · obtain ⟨before, behind, isQueue⟩ := List.append_of_mem queued
    obtain ⟨some, ready⟩ := (found.activate id queued).2.2.2 waits
    refine ⟨before, behind, isQueue, some, fun other needed => ?_⟩
    have nodup : before.Nodup := by
      have all := found.nodup
      rw [isQueue] at all
      exact (List.nodup_append.mp all).1
    rw [(startAll_spec now nodup _).1]
    split
    next earlier =>
      have hm : other ∈ (s.scan now).activate := by
        rw [isQueue]
        exact List.mem_append_left _ earlier
      obtain ⟨seen, _, unfinished, _⟩ := found.activate other hm
      have completed := ready other needed
      rw [found.events, if_pos seen] at completed unfinished ⊢
      exact GameEventData.completed_started completed unfinished
    · exact ready other needed

lemma stays_finished (kept : s.Kept) (updated : Updated now s s') (id : Fin n)
    (finished : (s.mGameEvent id).state = .WORLD_FINISHED) :
    (s'.mGameEvent id).state = .WORLD_FINISHED := by
  have rest := GameEventData.scanned_of_rest now (.inr finished)
  rcases updated.cases kept id with ⟨_, ⟨hs, _⟩ | ⟨hs, _⟩⟩ | ⟨_, _, unfinished, _⟩
  · rw [hs]
    exact finished
  · rw [hs, rest]
    exact finished
  · rw [rest] at unfinished
    exact absurd finished unfinished

end GameEventMgr.Updated

lemma GameEventMgr.Kept.not_active {s : GameEventMgr n} (kept : s.Kept) (id : Fin n)
    (finished : (s.mGameEvent id).state = .WORLD_FINISHED) : id ∉ s.m_ActiveEvents :=
  fun active => (kept id active).2 finished

lemma lawful_update {s : GameEventMgr n} (kept : s.Kept) (now : ℕ) :
    Lawful s (.update now) := by
  have isUpdated := updated kept now
  constructor
  · intro id condition
    rw [step, (isUpdated.same kept id).conditions]
    exact optionRel_refl (counted_refl s _ id condition) _
  · intro id reached before
    exact GameEventData.conditionsMet_iff.mp (isUpdated.nextphase kept id reached before)
  · intro id reached before
    exact isUpdated.finished kept id reached before
  · intro id waits left
    obtain ⟨before, behind, isQueue, ready⟩ := isUpdated.leaves kept id waits left
    exact ⟨now, before, behind, rfl, isQueue, ready⟩
  · constructor
    · exact fun id finished => isUpdated.stays_finished kept id finished
    · exact fun id finished => (isUpdated.kept kept).not_active id finished

/-- A quest changes at most one count, of an active event that matches its conditions. -/
lemma lawful_quest {s : GameEventMgr n} (kept : s.Kept) (now quest_id : ℕ) :
    Lawful s (.quest now quest_id) ∧ (step s (.quest now quest_id)).Kept := by
  rcases s.HandleQuestComplete_cases now quest_id with
    hs | ⟨q, c, registered, active, phase, hf, missing, isNow⟩
  · have hs' : step s (.quest now quest_id) = s := hs
    refine ⟨⟨?_, ?_, ?_, ?_, ?_⟩, ?_⟩ <;> rw [hs']
    · exact fun id condition => optionRel_refl (counted_refl s _ id condition) _
    · exact fun id reached before => absurd reached before
    · exact fun id reached before => absurd reached before
    · exact fun id waits left => absurd waits left
    · exact ⟨fun id finished => finished, fun id finished => kept.not_active id finished⟩
    · exact kept
  · replace isNow : step s (.quest now quest_id) = _ := isNow
    generalize isD : { s.mGameEvent q.event_id with
      conditions := (s.mGameEvent q.event_id).conditions.insert q.condition
        { c with done := min (c.done + q.num) c.reqNum } } = d at isNow
    have here : (step s (.quest now quest_id)).mGameEvent q.event_id =
        (d.CheckOneGameEventConditions now).1 := by
      rw [isNow]
      exact Function.update_self _ _ _
    have there : ∀ id ≠ q.event_id,
        (step s (.quest now quest_id)).mGameEvent id = s.mGameEvent id := by
      intro id other
      rw [isNow]
      exact Function.update_of_ne other _ _
    have isActive : (step s (.quest now quest_id)).m_ActiveEvents = s.m_ActiveEvents := by
      rw [isNow]
      rfl
    -- the event goes on matching its conditions or has fulfilled them
    have reaches : (d.CheckOneGameEventConditions now).1.state = .WORLD_CONDITIONS ∨
        (d.CheckOneGameEventConditions now).1.state = .WORLD_NEXTPHASE ∧
          (d.CheckOneGameEventConditions now).1.conditionsMet = true := by
      rcases d.check_cases now with ⟨met, isNext⟩ | ⟨_, hs⟩
      · rw [isNext]
        exact .inr ⟨rfl, met⟩
      · rw [hs, ← isD]
        exact .inl phase
    have unfinished : (d.CheckOneGameEventConditions now).1.state ≠ .WORLD_FINISHED := by
      rcases reaches with state | ⟨state, _⟩ <;> rw [state] <;> exact nofun
    refine ⟨⟨?_, ?_, ?_, ?_, ?_, ?_⟩, ?_⟩
    · intro id condition
      by_cases hs : id = q.event_id
      · subst hs
        rw [here, GameEventData.check_same.conditions, ← isD]
        by_cases counted : condition = q.condition
        · subst counted
          rw [hf, AList.lookup_insert]
          apply Option.Rel.some
          exact ⟨rfl, .inr ⟨now, quest_id, q, rfl, registered, rfl, rfl, missing, rfl⟩⟩
        · rw [AList.lookup_insert_ne counted]
          exact optionRel_refl (counted_refl s _ _ condition) _
      · rw [there id hs]
        exact optionRel_refl (counted_refl s _ id condition) _
    · intro id reached before
      by_cases hs : id = q.event_id
      · subst hs
        rw [here] at reached ⊢
        rcases reaches with state | ⟨_, met⟩
        · rw [state] at reached
          cases reached
        · exact GameEventData.conditionsMet_iff.mp met
      · rw [there id hs] at reached
        exact absurd reached before
    · intro id reached before
      by_cases hs : id = q.event_id
      · subst hs
        rw [here] at reached
        exact absurd reached unfinished
      · rw [there id hs] at reached
        exact absurd reached before
    · intro id waits left
      by_cases hs : id = q.event_id
      · subst hs
        rw [phase] at waits
        cases waits
      · rw [there id hs] at left
        exact absurd waits left
    · intro id finished
      by_cases hs : id = q.event_id
      · subst hs
        rw [phase] at finished
        cases finished
      · rw [there id hs]
        exact finished
    · intro id finished
      by_cases hs : id = q.event_id
      · subst hs
        rw [here] at finished
        exact absurd finished unfinished
      · rw [there id hs] at finished
        rw [isActive]
        exact kept.not_active id finished
    · intro id hm
      rw [isActive] at hm
      by_cases hs : id = q.event_id
      · subst hs
        rw [here]
        refine ⟨?_, unfinished⟩
        rcases reaches with state | ⟨state, _⟩ <;> rw [state] <;> exact nofun
      · rw [there id hs]
        exact kept id hm

lemma lawful_step {s : GameEventMgr n} (kept : s.Kept) (a : Action) :
    Lawful s a ∧ (step s a).Kept := by
  cases a with
  | update now => exact ⟨lawful_update kept now, (updated kept now).kept kept⟩
  | quest now quest_id => exact lawful_quest kept now quest_id

lemma step_quests {s : GameEventMgr n} (kept : s.Kept) (a : Action) :
    (step s a).mQuestToEventConditions = s.mQuestToEventConditions := by
  cases a with
  | update now => exact (updated kept now).quests
  | quest now quest_id =>
    rcases s.HandleQuestComplete_cases now quest_id with hs | ⟨_, _, _, _, _, _, _, isNow⟩
    · exact congrArg mQuestToEventConditions hs
    · exact (congrArg mQuestToEventConditions isNow).trans rfl

/-- A count after a run: it is not above its requirement unless it was loaded so, and it has only
grown if no quest takes away. -/
structure Bounded (quests : Table ℕ (GameEventQuestToEventConditionNum n))
    (c c' : GameEventFinishCondition) : Prop where
  reqNum : c'.reqNum = c.reqNum
  done : c'.done ≤ max c.reqNum c.done
  grows : (∀ quest_id q, quests.lookup quest_id = some q → 0 ≤ q.num) → c.done ≤ c'.done

lemma Bounded.refl (quests : Table ℕ (GameEventQuestToEventConditionNum n))
    (c : GameEventFinishCondition) : Bounded quests c c := ⟨rfl, le_max_right _ _, fun _ => le_rfl⟩

variable {quests : Table ℕ (GameEventQuestToEventConditionNum n)}

lemma Bounded.counted {c c' c'' : GameEventFinishCondition} (bounded : Bounded quests c c')
    {s : GameEventMgr n} (hs : s.mQuestToEventConditions = quests) {a : Action} {condition : ℕ}
    (counted : Counted s a id condition c' c'') : Bounded quests c c'' := by
  obtain ⟨reqNum, hs' | ⟨_, quest_id, q, _, registered, _, _, missing, isMin⟩⟩ := counted
  · refine ⟨reqNum.trans bounded.reqNum, ?_, ?_⟩
    · rw [hs']
      exact bounded.done
    · rw [hs']
      exact bounded.grows
  · refine ⟨reqNum.trans bounded.reqNum, ?_, fun positive => ?_⟩
    · rw [isMin, ← bounded.reqNum]
      exact (min_le_right _ _).trans (le_max_left _ _)
    · rw [hs] at registered
      have adds : c'.done ≤ c'.done + q.num :=
        le_add_of_nonneg_right (positive quest_id q registered)
      calc c.done ≤ c'.done := bounded.grows positive
        _ ≤ min (c'.done + q.num) c'.reqNum := le_min adds missing.le
        _ = c''.done := isMin.symm

lemma bounded_run {s : GameEventMgr n} (kept : s.Kept) (hs : s.mQuestToEventConditions = quests)
    (actions : List Action) (id : Fin n) (condition : ℕ) {x : Option GameEventFinishCondition}
    (bounded : Option.Rel (Bounded quests) x ((s.mGameEvent id).conditions.lookup condition)) :
    Option.Rel (Bounded quests) x
      (((run step s actions).mGameEvent id).conditions.lookup condition) := by
  induction actions generalizing s with
  | nil => exact bounded
  | cons a actions ih =>
    obtain ⟨lawful, kept'⟩ := lawful_step kept a
    apply ih kept' ((step_quests kept a).trans hs)
    have counts := lawful.counts id condition
    generalize (s.mGameEvent id).conditions.lookup condition = y at bounded counts
    generalize ((step s a).mGameEvent id).conditions.lookup condition = z at counts ⊢
    cases bounded with
    | none =>
      cases counts
      exact .none
    | some bounded =>
      cases counts with
      | some counted => exact .some (bounded.counted hs counted)

/-- From the events as they were loaded, in every run of updates and completed quests: every step is
lawful, and no count exceeds its requirement or is less than before, unless it was loaded so or a
quest has a negative number. -/
theorem event_chain (events : Fin n → GameEventData n)
    (quests : Table ℕ (GameEventQuestToEventConditionNum n)) (actions : List Action) :
    Along step Lawful (load events quests) actions ∧
      ∀ id condition, Option.Rel (Bounded quests) ((events id).conditions.lookup condition)
        (((run step (load events quests) actions).mGameEvent id).conditions.lookup condition) := by
  have init : (load events quests).Kept := fun id active => absurd active (Finset.notMem_empty id)
  constructor
  · exact along_of_keeps Kept (fun s a kept => (lawful_step kept a).2)
      (fun s a kept => (lawful_step kept a).1) init actions
  · intro id condition
    apply bounded_run init rfl actions id condition
    exact optionRel_refl (Bounded.refl quests) _

/-- An event that matches its one condition, of which three in five are done. -/
def siege : GameEventData 2 where
  start := 0
  end_ := 0
  nextstart := 0
  occurence := 0
  length := 10
  state := .WORLD_CONDITIONS
  conditions := (∅ : Table ℕ GameEventFinishCondition).insert 0 ⟨5, 3⟩
  prerequisite_events := ∅

def sabotage : Table ℕ (GameEventQuestToEventConditionNum 2) :=
  (∅ : Table ℕ (GameEventQuestToEventConditionNum 2)).insert 7 ⟨1, 0, -1⟩

/-- A quest with a negative number takes away from a count. -/
theorem not_grows : ¬ ∀ (n : ℕ) (events : Fin n → GameEventData n)
    (quests : Table ℕ (GameEventQuestToEventConditionNum n)) (actions : List Action) (id : Fin n)
    (condition : ℕ) (c c' : GameEventFinishCondition),
    (events id).conditions.lookup condition = some c →
    ((run step (load events quests) actions).mGameEvent id).conditions.lookup condition = some c' →
    c.done ≤ c'.done := by
  intro law
  have less := law 2 (fun _ => siege) sabotage [.update 1, .quest 2 7] 1 0 ⟨5, 3⟩ ⟨5, 2⟩ rfl
    (by decide +kernel)
  exact absurd less (by decide +kernel)

end WorldServer.Events
