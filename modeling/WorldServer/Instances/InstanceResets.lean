import WorldServer.Instances.InstanceSaveMgr

/-!
# Resets of single instances

An event of type 0 is scheduled for one instance of one map, and it is cancelled when a player
enters the instance. The event stores both ids in 16 bits, and an event is found by the stored
instance id only. So it resets the instance it was scheduled for if both ids fit in 16 bits, and
cancelling takes out an event of the instance if that is the first one that is found.
-/
namespace WorldServer.Instances

open WorldServer.Lib

namespace InstanceSaveManager

variable {cfg : Config} {mgr mgr' : InstanceSaveManager} {now : ℕ}

inductive Act where
  | add (now mapId instanceId difficulty resetTime : ℕ) (canReset load : Bool)
  | schedule (time mapid difficulty instanceId : ℕ)
  | cancel (time mapid difficulty instanceId : ℕ)
  | process (now : ℕ)
deriving DecidableEq, Repr

def due (mgr : InstanceSaveManager) (now : ℕ) : Option InstResetEvent :=
  match mgr.m_resetTimeQueue.entries with
  | [] => none
  | (t, event) :: _ => if t ≥ now then none else some event

/-- One call, or one event in an update; a fault leaves the manager. -/
def step (cfg : Config) (mgr : InstanceSaveManager) : Act → InstanceSaveManager
  | .add now mapId instanceId difficulty resetTime canReset load =>
    (mgr.AddInstanceSave cfg now mapId instanceId difficulty resetTime canReset load).2
  | .schedule time mapid difficulty instanceId =>
    mgr.AddReset time (.make 0 mapid difficulty instanceId)
  | .cancel time mapid difficulty instanceId =>
    mgr.CancelReset time (.make 0 mapid difficulty instanceId)
  | .process now => ((mgr.due now).bind (mgr.process cfg now)).getD mgr

lemma Update_eq_run {fuel : ℕ} (updated : mgr.Update cfg now fuel = some mgr') :
    ∃ n, mgr' = run (step cfg) mgr (List.replicate n (.process now)) := by
  induction fuel generalizing mgr with
  | zero => cases updated
  | succ fuel ih =>
    rw [Update] at updated
    cases front : mgr.m_resetTimeQueue.entries with
    | nil =>
      rw [front] at updated
      exact ⟨0, (Option.some.inj updated).symm⟩
    | cons first rest =>
      rw [front] at updated
      simp only at updated
      split at updated
      · exact ⟨0, (Option.some.inj updated).symm⟩
      next isDue =>
        obtain ⟨next, processed, rest'⟩ := Option.bind_eq_some_iff.mp updated
        obtain ⟨n, hs⟩ := ih rest'
        refine ⟨n + 1, ?_⟩
        have stepped : step cfg mgr (.process now) = next := by
          simp only [step, due, front, if_neg isDue, Option.bind_some, processed, Option.getD_some]
        rw [List.replicate_succ, run_cons, stepped]
        exact hs

/-! ### What an event was scheduled for -/

def resetEffects (mgr : InstanceSaveManager) (mapid instanceId : ℕ) : List Effect :=
  (if (mgr.m_instanceSaveById instanceId).isSome then [.deleteSave instanceId] else []) ++
    [.deleteInstanceFromDB instanceId, .resetMap mapid instanceId, .freeInstanceId instanceId]

/-- The event resets, deletes and frees the instance it was scheduled for and nothing else. -/
def Hits (cfg : Config) (mgr : InstanceSaveManager) (now : ℕ) (event : InstResetEvent) : Prop :=
  ∃ mgr', mgr.process cfg now event = some mgr' ∧
    mgr'.m_instanceSaveById =
      Function.update mgr.m_instanceSaveById event._instanceid none ∧
    mgr'.effects = mgr.effects ++ mgr.resetEffects event._mapid event._instanceid

/-- Nothing or one event of the instance is taken out of the queue. -/
def TakesOwn (mgr mgr' : InstanceSaveManager) (instanceId : ℕ) : Prop :=
  mgr'.m_resetTimeQueue.entries = mgr.m_resetTimeQueue.entries ∨
    ∃ entry : ℤ × InstResetEvent, entry.2.type = 0 ∧ entry.2._instanceid = instanceId ∧
      mgr.m_resetTimeQueue.entries.Perm (entry :: mgr'.m_resetTimeQueue.entries)

def Right (cfg : Config) (mgr : InstanceSaveManager) : Act → Prop
  | .cancel time mapid difficulty instanceId =>
    TakesOwn mgr (step cfg mgr (.cancel time mapid difficulty instanceId)) instanceId
  | .process now => ∀ event ∈ mgr.due now, event.type = 0 → Hits cfg mgr now event
  | _ => True

/-- The first event that the search for `event` finds: at the time, or else anywhere. -/
def found (mgr : InstanceSaveManager) (time : ℤ) (event : InstResetEvent) :
    Option (ℤ × InstResetEvent) :=
  (mgr.m_resetTimeQueue.entries.find? fun entry => entry.1 == time && entry.2.same event).or
    (mgr.m_resetTimeQueue.entries.find? fun entry => entry.2.same event)

/-- The ids fit in 16 bits and the map has instances; the event that is found is one of the
instance. -/
def Fitting (cfg : Config) (mgr : InstanceSaveManager) : Act → Prop
  | .cancel time mapid difficulty instanceId =>
    ∀ entry ∈ mgr.found time (.make 0 mapid difficulty instanceId),
      entry.2.type = 0 ∧ entry.2._instanceid = instanceId
  | .process now => ∀ event ∈ mgr.due now, event.type = 0 →
      event._instanceid < 2 ^ 16 ∧ event._mapid < 2 ^ 16 ∧
        ∃ entry ∈ cfg.sMapStore event._mapid, entry.Instanceable = true
  | _ => True

lemma CancelReset_entries (time : ℤ) (event : InstResetEvent) :
    (mgr.found time event = none ∧ (mgr.CancelReset time event).m_resetTimeQueue.entries =
      mgr.m_resetTimeQueue.entries) ∨
    ∃ entry, mgr.found time event = some entry ∧ mgr.m_resetTimeQueue.entries.Perm
      (entry :: (mgr.CancelReset time event).m_resetTimeQueue.entries) := by
  rw [found, CancelReset]
  cases atTime : mgr.m_resetTimeQueue.entries.find? fun entry =>
      entry.1 == time && entry.2.same event with
  | some entry =>
    have some : mgr.m_resetTimeQueue.entries.any (fun entry =>
        entry.1 == time && entry.2.same event) = true := by
      have isFirst := List.find?_some atTime
      rw [List.any_eq_true]
      exact ⟨entry, List.mem_of_find?_eq_some atTime, isFirst⟩
    rw [if_pos some, Option.some_or]
    exact .inr ⟨entry, rfl, TimeQueue.perm_eraseFirst atTime⟩
  | none =>
    have none : ¬ mgr.m_resetTimeQueue.entries.any (fun entry =>
        entry.1 == time && entry.2.same event) = true := by
      rw [List.any_eq_true]
      rintro ⟨entry, member, isAtTime⟩
      exact List.find?_eq_none.mp atTime entry member isAtTime
    rw [if_neg none, Option.none_or]
    cases anywhere : mgr.m_resetTimeQueue.entries.find? fun entry => entry.2.same event with
    | some entry => exact .inr ⟨entry, rfl, TimeQueue.perm_eraseFirst anywhere⟩
    | none => exact .inl ⟨rfl, TimeQueue.eraseFirst_of_none anywhere⟩

lemma cancel_iff (time mapid difficulty instanceId : ℕ) :
    Right cfg mgr (.cancel time mapid difficulty instanceId) ↔
      Fitting cfg mgr (.cancel time mapid difficulty instanceId) := by
  simp only [Right, Fitting, TakesOwn, step]
  rcases mgr.CancelReset_entries time (.make 0 mapid difficulty instanceId) with
    ⟨none, hs⟩ | ⟨entry, first, perm⟩
  · rw [none]
    exact iff_of_true (.inl hs) fun entry hm => absurd hm (by simp)
  · rw [first]
    constructor
    · rintro (hs | ⟨own, single, isOwn, perm'⟩) entry' hm
      · have length := perm.length_eq
        rw [hs, List.length_cons] at length
        omega
      · have both := Multiset.coe_eq_coe.mpr (perm.symm.trans perm')
        rw [← Multiset.cons_coe, ← Multiset.cons_coe, Multiset.cons_inj_left] at both
        cases hm
        rw [both]
        exact ⟨single, isOwn⟩
    · intro own
      obtain ⟨single, isOwn⟩ := own entry rfl
      exact .inr ⟨entry, single, isOwn, perm⟩

/-! ### Resets -/

/-- The stored ids of the event are the narrowed ones. -/
def Narrow (event : InstResetEvent) : Prop :=
  event.instanceId = uint16 event._instanceid ∧ event.mapid = uint16 event._mapid

def Narrowed (mgr : InstanceSaveManager) : Prop :=
  ∀ entry ∈ mgr.m_resetTimeQueue.entries, Narrow entry.2

variable {event : InstResetEvent}

lemma mem_of_due (isDue : mgr.due now = some event) :
    ∃ t, (t, event) ∈ mgr.m_resetTimeQueue.entries := by
  rw [due] at isDue
  cases front : mgr.m_resetTimeQueue.entries with
  | nil =>
    rw [front] at isDue
    cases isDue
  | cons first rest =>
    rw [front] at isDue
    simp only at isDue
    split at isDue
    · cases isDue
    · cases isDue
      exact ⟨first.1, List.mem_cons_self⟩

lemma uint16_eq_iff {n : ℕ} : uint16 n = n ↔ n < 2 ^ 16 := by
  unfold uint16
  omega

lemma hits_iff (single : event.type = 0) (narrow : Narrow event) :
    Hits cfg mgr now event ↔ event._instanceid < 2 ^ 16 ∧ event._mapid < 2 ^ 16 ∧
      ∃ entry ∈ cfg.sMapStore event._mapid, entry.Instanceable = true := by
  obtain ⟨sameId, sameMap⟩ := narrow
  rw [← uint16_eq_iff, ← uint16_eq_iff, ← sameId, ← sameMap, Hits]
  simp only [process, single, if_true, _ResetInstance, Option.map_eq_some_iff,
    exists_exists_and_eq_and]
  constructor
  · rintro ⟨entry, hf, saves, effects⟩
    split at effects
    · -- nothing is asked for
      have length := congrArg List.length effects
      simp [resetEffects] at length
    next instanceable =>
      have asked := List.append_cancel_left effects
      have last := congrArg List.getLast? asked
      have map := congrArg (fun list : List Effect => list.reverse[1]?) asked
      simp [resetEffects] at last map
      refine ⟨last, map.1, entry, ?_, ?_⟩
      · rw [← map.1]
        exact hf
      · simpa using instanceable
  · rintro ⟨sameId, sameMap, entry, hf, instanceable⟩
    rw [← sameMap] at hf
    refine ⟨entry, hf, ?_⟩
    simp only [instanceable, Bool.not_true, Bool.false_eq_true, if_false]
    exact ⟨by rw [sameId]; rfl, by rw [sameId, sameMap]; rfl⟩

/-! ### The ids of pending events -/

lemma narrow_make (t mapid d instanceid : ℕ) : Narrow (.make t mapid d instanceid) := ⟨rfl, rfl⟩

section

variable (narrowed : Narrowed mgr)
include narrowed

lemma Narrowed.of_subset
    (subset : ∀ entry ∈ mgr'.m_resetTimeQueue.entries, entry ∈ mgr.m_resetTimeQueue.entries) :
    Narrowed mgr' :=
  fun entry hm => narrowed entry (subset entry hm)

lemma Narrowed.AddReset (time : ℤ) (narrow : Narrow event) :
    Narrowed (mgr.AddReset time event) := by
  intro entry hm
  rcases List.mem_cons.mp (TimeQueue.perm_insert.mem_iff.mp hm) with rfl | old
  · exact narrow
  · exact narrowed entry old

lemma Narrowed.AddInstanceSave (mapId instanceId difficulty resetTime : ℕ) (canReset load : Bool) :
    Narrowed (mgr.AddInstanceSave cfg now mapId instanceId difficulty resetTime canReset load).2 := by
  unfold InstanceSaveManager.AddInstanceSave
  cases mgr.m_instanceSaveById instanceId with
  | some old_save => exact narrowed
  | none =>
    cases cfg.sMapStore mapId with
    | none => exact narrowed
    | some entry =>
      by_cases zero : instanceId = 0
      · simp only [zero, if_true]
        exact narrowed
      · simp only [zero, if_false]
        by_cases wrong :
            difficulty ≥ (if entry.IsRaid then MAX_RAID_DIFFICULTY else MAX_DUNGEON_DIFFICULTY)
        · rw [if_pos wrong]
          exact narrowed
        · rw [if_neg wrong]
          -- only the queue of the manager matters, and saving leaves it
          suffices given : Narrowed (if resetTime ≠ 0 then (resetTime, mgr)
              else if entry.map_type = .MAP_RAID ∨ difficulty > DUNGEON_DIFFICULTY_NORMAL then
                (mgr.GetResetTimeFor mapId difficulty, mgr)
              else (now + 2 * HOUR, mgr.AddReset (now + 2 * HOUR : ℕ)
                (.make 0 mapId difficulty instanceId))).2 by
            cases load with
            | true => exact given
            | false => exact given
          split
          · exact narrowed
          · split
            · exact narrowed
            · exact narrowed.AddReset _ (narrow_make ..)

lemma Narrowed.CancelReset (time : ℤ) (event : InstResetEvent) :
    Narrowed (mgr.CancelReset time event) := by
  apply narrowed.of_subset
  intro entry hm
  rcases mgr.CancelReset_entries time event with ⟨-, hs⟩ | ⟨taken, -, perm⟩
  · rwa [hs] at hm
  · exact perm.mem_iff.mpr (List.mem_cons_of_mem _ hm)

lemma Narrowed.eraseFront :
    Narrowed { mgr with m_resetTimeQueue := mgr.m_resetTimeQueue.eraseFront } :=
  narrowed.of_subset fun _ hm => List.mem_of_mem_tail hm

lemma Narrowed.modifyFront (narrow : Narrow event) :
    Narrowed { mgr with m_resetTimeQueue := mgr.m_resetTimeQueue.modifyFront fun _ => event } := by
  intro entry hm
  simp only [TimeQueue.modifyFront] at hm
  cases front : mgr.m_resetTimeQueue.entries with
  | nil =>
    rw [front] at hm
    cases hm
  | cons first rest =>
    rw [front] at hm
    rcases List.mem_cons.mp hm with rfl | old
    · exact narrow
    · exact narrowed entry (front ▸ List.mem_cons_of_mem _ old)

lemma Narrowed._ResetAll (mapid difficulty resetTime : ℕ) :
    Narrowed (mgr._ResetAll cfg mapid difficulty resetTime) := by
  rw [InstanceSaveManager._ResetAll]
  split
  next => exact narrowed
  next =>
    split
    next => exact narrowed
    next mapDiff _ _ =>
      have added := narrowed.AddReset (uint32 (uint32 ((resetTime + MINUTE) / DAY * DAY +
        cfg.period mapDiff + cfg.diff) + (2 ^ 32 - 3600))) (narrow_make 1 mapid difficulty 0)
      exact added

lemma Narrowed.process (narrow : Narrow event) (processed : mgr.process cfg now event = some mgr') :
    Narrowed mgr' := by
  simp only [InstanceSaveManager.process] at processed
  split at processed
  · obtain ⟨reset, called, rfl⟩ := Option.map_eq_some_iff.mp processed
    apply Narrowed.eraseFront
    obtain ⟨entry, -, rfl⟩ := Option.map_eq_some_iff.mp called
    by_cases instanceable : (!entry.Instanceable) = true
    · rw [if_pos instanceable]
      exact narrowed
    · rw [if_neg instanceable]
      exact narrowed
  · obtain ⟨warned, called, rfl⟩ := Option.map_eq_some_iff.mp processed
    obtain ⟨entry, -, rfl⟩ := Option.map_eq_some_iff.mp called
    generalize isKept : (if (!entry.Instanceable) = true then mgr
      else if (event.type != 4) = true then mgr.ask _ else mgr._ResetAll cfg _ _ _) = reset
    have kept : Narrowed reset := by
      rw [← isKept]
      split
      · exact narrowed
      · split
        · exact narrowed
        · exact narrowed._ResetAll _ _ _
    split
    · apply Narrowed.eraseFront
      apply Narrowed.AddReset
      · exact kept.modifyFront narrow
      · exact narrow
    · exact kept.eraseFront

end

lemma Narrowed.foldl {β : Type} {f : InstanceSaveManager → β → InstanceSaveManager}
    (keeps : ∀ mgr b, Narrowed mgr → Narrowed (f mgr b)) (list : List β) (narrowed : Narrowed mgr) :
    Narrowed (list.foldl f mgr) := by
  induction list generalizing mgr with
  | nil => exact narrowed
  | cons b list ih => exact ih (keeps mgr b narrowed)

lemma narrowed_LoadResetTimes (stored : Stored) : Narrowed (LoadResetTimes cfg now stored) := by
  apply Narrowed.foldl
  · intro mgr row narrowed
    rw [loadPair]
    split
    · exact narrowed
    · apply Narrowed.foldl
      · exact fun mgr id narrowed => narrowed.AddReset _ (narrow_make ..)
      · exact narrowed
  · apply Narrowed.foldl
    · intro mgr row narrowed
      rw [loadResetRow]
      split
      · exact narrowed
      · exact narrowed
    · apply Narrowed.foldl
      · intro mgr row narrowed
        rw [loadInstanceReset]
        split
        · exact narrowed.AddReset _ (narrow_make ..)
        · exact narrowed
      · exact fun entry hm => absurd hm List.not_mem_nil

/-! ### Every run -/

lemma Narrowed.step (narrowed : Narrowed mgr) (act : Act) : Narrowed (step cfg mgr act) := by
  cases act with
  | add now mapId instanceId difficulty resetTime canReset load =>
    exact narrowed.AddInstanceSave mapId instanceId difficulty resetTime canReset load
  | schedule time mapid difficulty instanceId => exact narrowed.AddReset _ (narrow_make ..)
  | cancel time mapid difficulty instanceId => exact narrowed.CancelReset _ _
  | process now =>
    rw [InstanceSaveManager.step]
    cases result : (mgr.due now).bind (mgr.process cfg now) with
    | none => exact narrowed
    | some mgr' =>
      obtain ⟨event, isDue, processed⟩ := Option.bind_eq_some_iff.mp result
      obtain ⟨t, hm⟩ := mem_of_due isDue
      exact narrowed.process (narrowed _ hm) processed

lemma Narrowed.right_iff (narrowed : Narrowed mgr) (act : Act) :
    Right cfg mgr act ↔ Fitting cfg mgr act := by
  cases act with
  | add now mapId instanceId difficulty resetTime canReset load => exact Iff.rfl
  | schedule time mapid difficulty instanceId => exact Iff.rfl
  | cancel time mapid difficulty instanceId => exact cancel_iff time mapid difficulty instanceId
  | process now =>
    apply forall_congr'
    intro event
    apply forall_congr'
    intro isDue
    apply forall_congr'
    intro single
    obtain ⟨t, hm⟩ := mem_of_due (Option.mem_def.mp isDue)
    exact hits_iff single (narrowed _ hm)

/-- In every run the events hit and the cancellations take out events of their instances if and only
if the ids of the processed events fit and the searches find events of their instances. -/
theorem resets_right_iff (cfg : Config) (now₀ : ℕ) (stored : Stored) (acts : List Act) :
    Along (step cfg) (Right cfg) (LoadResetTimes cfg now₀ stored) acts ↔
      Along (step cfg) (Fitting cfg) (LoadResetTimes cfg now₀ stored) acts :=
  along_iff_of_invariant Narrowed (fun _ act narrowed _ => narrowed.step act)
    (fun _ act narrowed => narrowed.right_iff act) (narrowed_LoadResetTimes stored) acts

def deadmines : Config where
  sMapStore := fun id => if id = 36 then some ⟨.MAP_INSTANCE⟩ else none
  sMapDifficultyMap := ⟨[], by decide, by decide, by decide⟩
  rate := 1
  resetTimeHour := 4

/-- The reset of the instance 65537 is scheduled, and then it is due. -/
theorem not_resets_right : ¬ ∀ cfg now₀ stored acts,
    Along (step cfg) (Right cfg) (LoadResetTimes cfg now₀ stored) acts := by
  intro right
  have along := right deadmines 0 ⟨[], [], []⟩
    [.schedule 1000 36 DUNGEON_DIFFICULTY_NORMAL 65537, .process 2000]
  have narrowed : Narrowed (step deadmines (LoadResetTimes deadmines 0 ⟨[], [], []⟩)
      (.schedule 1000 36 DUNGEON_DIFFICULTY_NORMAL 65537)) :=
    (narrowed_LoadResetTimes _).step _
  have fitting := (narrowed.right_iff (.process 2000)).mp along.2.1
    (.make 0 36 DUNGEON_DIFFICULTY_NORMAL 65537) rfl rfl
  exact absurd fitting.1 (by decide)

end InstanceSaveManager

end WorldServer.Instances
