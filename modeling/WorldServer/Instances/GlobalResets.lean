import Mathlib.Algebra.Order.BigOperators.Group.List
import WorldServer.Instances.InstanceSaveMgr

/-!
# Global resets

A pair of a map and a difficulty with a reset time is reset once per period. The events about the
pair form a chain: each warning schedules the next, and the reset schedules the first warning of
the next period. The chain is kept by every processed event if the period is a number of whole
days, the hour of the reset is one of the day, and the map has instances. It is started by the
loading, and only one, if no stored instance of the pair has a reset time of its own.
-/
namespace WorldServer.Instances

open WorldServer.Lib

/-! ### Pairs with a reset time -/

section Pairs

variable (cfg : Config)

/-- A row of the table of pairs with a reset time. -/
def Config.Periodic (row : (ℕ × ℕ) × ℕ) : Prop :=
  row ∈ cfg.sMapDifficultyMap.rows ∧ row.2 ≠ 0

structure Config.Regular : Prop where
  instanceable : ∀ row, cfg.Periodic row →
    ∃ entry, cfg.sMapStore row.1.1 = some entry ∧ entry.Instanceable = true
  days : ∀ row, cfg.Periodic row → cfg.period row.2 % DAY = 0
  hour : cfg.diff + MINUTE < DAY

/-- The times stay below the range of 32 bits for another period. -/
def Config.Early (now : ℕ) : Prop :=
  ∀ row, cfg.Periodic row → now + MINUTE + cfg.period row.2 < 2 ^ 32

variable {cfg} {row row' : (ℕ × ℕ) × ℕ}

lemma Config.day_le_period (resetTime : ℕ) : DAY ≤ cfg.period resetTime := by
  unfold period
  simp only
  split
  · exact le_refl DAY
  · omega

lemma Config.Periodic.ext (periodic : cfg.Periodic row) (periodic' : cfg.Periodic row')
    (hs : row.1 = row'.1) : row = row' :=
  List.inj_on_of_nodup_map cfg.sMapDifficultyMap.distinct periodic.1 periodic'.1 hs

lemma lookup_of_mem {κ β : Type} [BEq κ] [LawfulBEq κ] {rows : List (κ × β)} {row : κ × β}
    (distinct : (rows.map Prod.fst).Nodup) (hm : row ∈ rows) :
    rows.lookup row.1 = some row.2 := by
  induction rows with
  | nil => cases hm
  | cons first rows ih =>
    rw [List.map_cons, List.nodup_cons] at distinct
    rcases List.mem_cons.mp hm with rfl | later
    · rw [List.lookup_cons_self]
    · have other : row.1 ≠ first.1 := fun hs =>
        distinct.1 (hs ▸ List.mem_map_of_mem later)
      rw [List.lookup_cons, beq_false_of_ne other]
      exact ih distinct.2 later

lemma Config.Periodic.words (periodic : cfg.Periodic row) :
    row.1.1 < 2 ^ 16 ∧ row.1.2 < 2 ^ 8 :=
  ⟨cfg.sMapDifficultyMap.mapids row periodic.1, cfg.sMapDifficultyMap.difficulties row periodic.1⟩

lemma Config.Periodic.key (periodic : cfg.Periodic row) :
    MAKE_PAIR32 row.1.1 row.1.2 = row.1 := by
  have words := periodic.words
  have difficulty : row.1.2 < 2 ^ 16 := by omega
  simp only [MAKE_PAIR32, uint16, Nat.mod_eq_of_lt words.1, Nat.mod_eq_of_lt difficulty]

lemma Config.Periodic.data (periodic : cfg.Periodic row) :
    cfg.GetMapDifficultyData row.1.1 row.1.2 = some row.2 := by
  rw [GetMapDifficultyData, periodic.key]
  exact lookup_of_mem cfg.sMapDifficultyMap.distinct periodic.1

end Pairs

/-! ### Events about a pair -/

variable {inst : InstanceRow}

namespace InstanceSaveManager

variable {cfg : Config} {mgr mgr' : InstanceSaveManager} {row : (ℕ × ℕ) × ℕ} {now : ℕ}

def ofPair (pair : ℕ × ℕ) (entry : ℤ × InstResetEvent) : Bool :=
  entry.2.type != 0 && (entry.2.mapid, entry.2.difficulty) == pair

def pending (mgr : InstanceSaveManager) (pair : ℕ × ℕ) : List (ℤ × InstResetEvent) :=
  mgr.m_resetTimeQueue.entries.filter (ofPair pair)

def resets (mgr : InstanceSaveManager) (pair : ℕ × ℕ) : List ℕ :=
  mgr.effects.filterMap fun
    | .resetAll mapid difficulty resetTime _ =>
      if (mapid, difficulty) = pair then some resetTime else none
    | _ => none

def resetTime (mgr : InstanceSaveManager) (pair : ℕ × ℕ) : ℕ := mgr.GetResetTimeFor pair.1 pair.2

@[simp] lemma resetTime_AddReset (time : ℤ) (event : InstResetEvent) (pair : ℕ × ℕ) :
    (mgr.AddReset time event).resetTime pair = mgr.resetTime pair := rfl

/-- One event of the pair is pending, at its time before the reset, which is at the hour of the
configuration. -/
structure Chained (cfg : Config) (mgr : InstanceSaveManager) (row : (ℕ × ℕ) × ℕ) : Prop where
  event : ∃ event : InstResetEvent, (1 ≤ event.type ∧ event.type ≤ 4) ∧
    mgr.pending row.1 =
      [((mgr.resetTime row.1 : ℤ) - ResetTimeDelay (event.type - 1), event)]
  hour : mgr.resetTime row.1 % DAY = cfg.diff

/-- The events of each pair form a chain, and there are no other global events. The map of an
instance that is to be reset exists. -/
structure Orderly (cfg : Config) (mgr : InstanceSaveManager) : Prop where
  chained : ∀ row, cfg.Periodic row → Chained cfg mgr row
  global : ∀ entry ∈ mgr.m_resetTimeQueue.entries, entry.2.type ≠ 0 →
    ∃ row, cfg.Periodic row ∧ (entry.2.mapid, entry.2.difficulty) = row.1
  single : ∀ entry ∈ mgr.m_resetTimeQueue.entries, entry.2.type = 0 →
    ∃ entry', cfg.sMapStore entry.2.mapid = some entry'

variable {pair : ℕ × ℕ} {t : ℤ} {event : InstResetEvent} {rest : List (ℤ × InstResetEvent)}
  {x : ℤ × InstResetEvent} {entry : ℤ × InstResetEvent} {entries : List (ℤ × InstResetEvent)}
  {done : List ((ℕ × ℕ) × ℕ)} {timed : List InstanceRow}

lemma ofPair_iff : ofPair pair entry = true ↔
    entry.2.type ≠ 0 ∧ (entry.2.mapid, entry.2.difficulty) = pair := by
  simp [ofPair]

lemma Chained.front (chained : Chained cfg mgr row)
    (front : mgr.m_resetTimeQueue.entries = (t, event) :: rest) (isGlobal : event.type ≠ 0)
    (hs : (event.mapid, event.difficulty) = row.1) :
    (1 ≤ event.type ∧ event.type ≤ 4) ∧
      t = (mgr.resetTime row.1 : ℤ) - ResetTimeDelay (event.type - 1) ∧
      rest.filter (ofPair row.1) = [] := by
  obtain ⟨event', range, only⟩ := chained.event
  have here : ofPair row.1 (t, event) = true := ofPair_iff.mpr ⟨isGlobal, hs⟩
  rw [pending, front, List.filter_cons, if_pos here, List.cons.injEq, Prod.mk.injEq] at only
  obtain ⟨⟨time, rfl⟩, none⟩ := only
  exact ⟨range, time, none⟩

lemma resetTime_set {row' : (ℕ × ℕ) × ℕ} {t : ℕ} (periodic : cfg.Periodic row)
    (periodic' : cfg.Periodic row') : (mgr.SetResetTimeFor row.1.1 row.1.2 t).resetTime row'.1 =
      if row'.1 = row.1 then t else mgr.resetTime row'.1 := by
  simp only [resetTime, GetResetTimeFor, SetResetTimeFor, periodic.key, periodic'.key,
    Function.update_apply]

lemma pending_of_not (perm : entries.Perm (x :: rest)) (other : ofPair pair x = false)
    (only : rest.filter (ofPair pair) = [entry]) : entries.filter (ofPair pair) = [entry] := by
  have filtered := perm.filter (ofPair pair)
  rw [List.filter_cons, other, if_neg Bool.false_ne_true, only] at filtered
  exact List.perm_singleton.mp filtered

lemma pending_of (perm : entries.Perm (x :: rest)) (hs : ofPair pair x = true)
    (none : rest.filter (ofPair pair) = []) : entries.filter (ofPair pair) = [x] := by
  have filtered := perm.filter (ofPair pair)
  rw [List.filter_cons, if_pos hs, none] at filtered
  exact List.perm_singleton.mp filtered

/-! ### One processed event -/

def Advances (cfg : Config) (mgr mgr' : InstanceSaveManager) (row : (ℕ × ℕ) × ℕ) : Prop :=
  (mgr'.resetTime row.1 = mgr.resetTime row.1 ∧ mgr'.resets row.1 = mgr.resets row.1) ∨
    (mgr'.resetTime row.1 = mgr.resetTime row.1 + cfg.period row.2 ∧
      mgr'.resets row.1 = mgr.resets row.1 ++ [mgr.resetTime row.1])

/-- What the processing of the front event at `t` does: that event is erased, and only later ones
are scheduled. -/
structure Processed (cfg : Config) (mgr mgr' : InstanceSaveManager) (t : ℤ)
    (rest : List (ℤ × InstResetEvent)) : Prop where
  orderly : Orderly cfg mgr'
  erased : mgr'.m_resetTimeQueue.entries.Perm rest ∨
    ∃ entry, t < entry.1 ∧ mgr'.m_resetTimeQueue.entries.Perm (entry :: rest)
  advances : ∀ row, cfg.Periodic row → Advances cfg mgr mgr' row

lemma resets_ask (effects : List Effect) (pair : ℕ × ℕ)
    (none : ∀ m d t n, Effect.resetAll m d t n ∉ effects) :
    (mgr.ask effects).resets pair = mgr.resets pair := by
  rw [resets, resets, ask, List.filterMap_append, List.append_right_eq_self,
    List.filterMap_eq_nil_iff]
  intro effect hm
  cases effect with
  | resetAll m d t n => exact absurd hm (none m d t n)
  | _ => rfl

lemma Chained.congr (chained : Chained cfg mgr row)
    (pending : mgr'.pending row.1 = mgr.pending row.1)
    (time : mgr'.resetTime row.1 = mgr.resetTime row.1) : Chained cfg mgr' row := by
  obtain ⟨event, hour⟩ := chained
  constructor
  · rw [pending, time]
    exact event
  · rw [time]
    exact hour

lemma Orderly.process_single (orderly : Orderly cfg mgr)
    (front : mgr.m_resetTimeQueue.entries = (t, event) :: rest) (single : event.type = 0) :
    ∃ mgr', mgr.process cfg now event = some mgr' ∧ Processed cfg mgr mgr' t rest := by
  obtain ⟨entry, hf⟩ := orderly.single (t, event) (front ▸ List.mem_cons_self) single
  simp only [process, single, if_true, _ResetInstance, hf, Option.map_some]
  have only : ∀ pair, rest.filter (ofPair pair) = mgr.pending pair := by
    intro pair
    have other : ofPair pair (t, event) = false := by simp [ofPair, single]
    rw [pending, front, List.filter_cons, other, if_neg Bool.false_ne_true]
  have inRest : ∀ {entry}, entry ∈ rest → entry ∈ mgr.m_resetTimeQueue.entries :=
    fun hm => front ▸ List.mem_cons_of_mem _ hm
  -- whichever branch is taken, the times are kept and no reset of a pair is logged
  have leaves : ∀ mgr' : InstanceSaveManager, mgr'.m_resetTimeQueue = mgr.m_resetTimeQueue →
      mgr'.m_resetTimeByMapDifficulty = mgr.m_resetTimeByMapDifficulty →
      (∀ pair, mgr'.resets pair = mgr.resets pair) →
      Processed cfg mgr { mgr' with m_resetTimeQueue := mgr'.m_resetTimeQueue.eraseFront } t
        rest := by
    intro mgr' queue times hs
    have entries : (mgr'.m_resetTimeQueue.eraseFront).entries = rest := by
      rw [queue, TimeQueue.eraseFront_entries front]
    have time : ∀ pair : ℕ × ℕ, mgr'.resetTime pair = mgr.resetTime pair := by
      intro pair
      simp only [resetTime, GetResetTimeFor, times]
    refine ⟨⟨fun row periodic => ?_, fun entry hm => ?_, fun entry hm => ?_⟩, ?_, ?_⟩
    · apply (orderly.chained row periodic).congr
      · simp only [pending, entries, only]
      · exact time row.1
    · rw [entries] at hm
      exact orderly.global entry (inRest hm)
    · rw [entries] at hm
      exact orderly.single entry (inRest hm)
    · left
      rw [entries]
    · exact fun row periodic => .inl ⟨time row.1, hs row.1⟩
  split
  · exact ⟨_, rfl, leaves mgr rfl rfl fun _ => rfl⟩
  · refine ⟨_, rfl, leaves _ rfl rfl fun pair => ?_⟩
    apply (resets_ask _ pair _).trans
    · rfl
    · intro m d t n hm
      split at hm <;> simp at hm

lemma Orderly.replace (orderly : Orderly cfg mgr)
    (front : mgr.m_resetTimeQueue.entries = (t, event) :: rest) (isGlobal : event.type ≠ 0)
    (periodic : cfg.Periodic row) (hs : (event.mapid, event.difficulty) = row.1)
    (perm : mgr'.m_resetTimeQueue.entries.Perm (x :: rest))
    (pair : (x.2.mapid, x.2.difficulty) = row.1) (range : 1 ≤ x.2.type ∧ x.2.type ≤ 4)
    (time : x.1 = (mgr'.resetTime row.1 : ℤ) - ResetTimeDelay (x.2.type - 1))
    (hour : mgr'.resetTime row.1 % DAY = cfg.diff)
    (others : ∀ row', cfg.Periodic row' → row'.1 ≠ row.1 →
      mgr'.resetTime row'.1 = mgr.resetTime row'.1) : Orderly cfg mgr' := by
  have positive : x.2.type ≠ 0 := by omega
  have none := ((orderly.chained row periodic).front front isGlobal hs).2.2
  have inRest : ∀ {entry}, entry ∈ rest → entry ∈ mgr.m_resetTimeQueue.entries :=
    fun hm => front ▸ List.mem_cons_of_mem _ hm
  refine ⟨fun row' periodic' => ?_, fun entry hm => ?_, fun entry hm => ?_⟩
  · by_cases this : row'.1 = row.1
    · obtain rfl := periodic'.ext periodic this
      refine ⟨⟨x.2, range, ?_⟩, hour⟩
      rw [← time]
      exact pending_of perm (ofPair_iff.mpr ⟨positive, pair⟩) none
    · have chained := orderly.chained row' periodic'
      apply chained.congr _ (others row' periodic' this)
      obtain ⟨event', -, only⟩ := chained.event
      have notFront : ofPair row'.1 (t, event) = false := by
        rw [Bool.eq_false_iff, Ne, ofPair_iff]
        exact fun both => this (both.2.symm.trans hs)
      have notNew : ofPair row'.1 x = false := by
        rw [Bool.eq_false_iff, Ne, ofPair_iff]
        exact fun both => this (both.2.symm.trans pair)
      rw [only]
      apply pending_of_not perm notNew
      rw [pending, front, List.filter_cons, notFront, if_neg Bool.false_ne_true] at only
      exact only
  · intro isGlobal
    rcases List.mem_cons.mp (perm.mem_iff.mp hm) with rfl | old
    · exact ⟨row, periodic, pair⟩
    · exact orderly.global entry (inRest old) isGlobal
  · intro single
    rcases List.mem_cons.mp (perm.mem_iff.mp hm) with rfl | old
    · exact absurd single positive
    · exact orderly.single entry (inRest old) single

/-- The pair of a global event at the front of the queue, and its map. -/
lemma Orderly.front (regular : cfg.Regular) (orderly : Orderly cfg mgr)
    (front : mgr.m_resetTimeQueue.entries = (t, event) :: rest) (isGlobal : event.type ≠ 0) :
    ∃ row mapEntry, cfg.Periodic row ∧ (event.mapid, event.difficulty) = row.1 ∧
      cfg.sMapStore event.mapid = some mapEntry ∧ mapEntry.Instanceable = true ∧
      mgr.GetResetTimeFor event.mapid event.difficulty = mgr.resetTime row.1 := by
  obtain ⟨row, periodic, hs⟩ :=
    orderly.global (t, event) (front ▸ List.mem_cons_self) isGlobal
  obtain ⟨mapEntry, hf, instanceable⟩ := regular.instanceable row periodic
  refine ⟨row, mapEntry, periodic, hs, ?_, instanceable, ?_⟩
  · rw [← hs] at hf
    exact hf
  · rw [← hs, resetTime]

lemma Orderly.process_warn (regular : cfg.Regular) (orderly : Orderly cfg mgr)
    (front : mgr.m_resetTimeQueue.entries = (t, event) :: rest) (isGlobal : event.type ≠ 0)
    (warning : event.type ≠ 4) :
    ∃ mgr', mgr.process cfg now event = some mgr' ∧ Processed cfg mgr mgr' t rest := by
  obtain ⟨row, mapEntry, periodic, hs, hf, instanceable, reset⟩ :=
    orderly.front regular front isGlobal
  have chained := orderly.chained row periodic
  obtain ⟨range, time, none⟩ := chained.front front isGlobal hs
  -- the times before the reset get shorter
  have shorter : ResetTimeDelay event.type < ResetTimeDelay (event.type - 1) := by
    obtain ⟨lower, upper⟩ := range
    have cases : event.type = 1 ∨ event.type = 2 ∨ event.type = 3 := by omega
    rcases cases with one | two | three
    · rw [one]; decide
    · rw [two]; decide
    · rw [three]; decide
  simp only [process, isGlobal, if_false, _ResetOrWarnAll, hf, Option.map_some, reset,
    instanceable, Bool.not_true, Bool.false_eq_true, bne_iff_ne, ne_eq, warning, not_false_eq_true,
    if_true, Nat.add_sub_cancel]
  refine ⟨_, rfl, ?_⟩
  have later : t < (mgr.resetTime row.1 : ℤ) - ResetTimeDelay event.type := by omega
  have entries := TimeQueue.eraseFront_entries (TimeQueue.insert_entries
    (a := { event with type := event.type + 1 })
    (TimeQueue.modifyFront_entries front fun _ => { event with type := event.type + 1 })
    (le_of_lt later))
  have perm := perm_insertLast ((mgr.resetTime row.1 : ℤ) - ResetTimeDelay event.type)
    { event with type := event.type + 1 } rest
  rw [← entries] at perm
  refine ⟨?_, .inr ⟨((mgr.resetTime row.1 : ℤ) - ResetTimeDelay event.type,
    { event with type := event.type + 1 }), later, perm⟩, ?_⟩
  · apply orderly.replace front isGlobal periodic hs perm
    · exact hs
    · simp only
      omega
    · rfl
    · exact chained.hour
    · exact fun _ _ _ => rfl
  · intro row' periodic'
    left
    refine ⟨rfl, resets_ask _ _ ?_⟩
    simp

section

variable (regular : cfg.Regular) (early : cfg.Early now) (orderly : Orderly cfg mgr)
  (front : mgr.m_resetTimeQueue.entries = (t, event) :: rest) (due : t < now)
include regular early orderly front due

/-- The reset advances the reset time by one period and schedules the first warning before it. -/
lemma Orderly.process_reset (last : event.type = 4) :
    ∃ mgr', mgr.process cfg now event = some mgr' ∧ Processed cfg mgr mgr' t rest := by
  have isGlobal : event.type ≠ 0 := by omega
  obtain ⟨row, mapEntry, periodic, hs, hf, instanceable, reset⟩ :=
    orderly.front regular front isGlobal
  have chained := orderly.chained row periodic
  obtain ⟨range, time, none⟩ := chained.front front isGlobal hs
  obtain ⟨mapid, difficulty⟩ := Prod.ext_iff.mp hs
  dsimp only at mapid difficulty
  have data := periodic.data
  rw [← mapid, ← difficulty] at data
  rw [last] at time
  change t = (mgr.resetTime row.1 : ℤ) - (60 : ℕ) at time
  -- the reset is at the hour of the configuration, so the days are counted from midnight to there
  have next : uint32 ((mgr.resetTime row.1 + MINUTE) / DAY * DAY + cfg.period row.2 + cfg.diff) =
      mgr.resetTime row.1 + cfg.period row.2 := by
    have hour := chained.hour
    have inDay := regular.hour
    have small := early row periodic
    have midnight : (mgr.resetTime row.1 + MINUTE) / DAY = mgr.resetTime row.1 / DAY := by
      unfold DAY HOUR MINUTE at *
      omega
    have whole := Nat.div_add_mod (mgr.resetTime row.1) DAY
    rw [midnight, uint32, Nat.mod_eq_of_lt]
    · rw [hour, Nat.mul_comm] at whole
      omega
    · rw [hour, Nat.mul_comm] at whole
      unfold MINUTE at small
      omega
  have day : DAY ≤ cfg.period row.2 := cfg.day_le_period row.2
  have first : ((uint32 (mgr.resetTime row.1 + cfg.period row.2 + (2 ^ 32 - 3600)) : ℕ) : ℤ) =
      (mgr.resetTime row.1 + cfg.period row.2 : ℕ) - (3600 : ℕ) := by
    have small := early row periodic
    unfold DAY HOUR MINUTE at day
    unfold uint32
    omega
  simp only [process, if_false, _ResetOrWarnAll, hf, Option.map_some, reset, instanceable,
    Bool.not_true, Bool.false_eq_true, last, bne_self_eq_false, ne_eq, not_true_eq_false,
    _ResetAll, data, periodic.2, next, first]
  refine ⟨_, rfl, ?_⟩
  have later : t < ((mgr.resetTime row.1 + cfg.period row.2 : ℕ) : ℤ) - (3600 : ℕ) := by
    unfold DAY HOUR MINUTE at day
    omega
  have entries := TimeQueue.eraseFront_entries (TimeQueue.insert_entries front
    (a := .make 1 event.mapid event.difficulty 0) (le_of_lt later))
  have perm := perm_insertLast
    (((mgr.resetTime row.1 + cfg.period row.2 : ℕ) : ℤ) - (3600 : ℕ))
    (.make 1 event.mapid event.difficulty 0) rest
  rw [← entries] at perm
  have advanced : ∀ row', cfg.Periodic row' →
      (mgr.SetResetTimeFor event.mapid event.difficulty
        (mgr.resetTime row.1 + cfg.period row.2)).resetTime row'.1 =
      if row'.1 = row.1 then mgr.resetTime row.1 + cfg.period row.2 else mgr.resetTime row'.1 := by
    intro row' periodic'
    rw [mapid, difficulty]
    exact resetTime_set periodic periodic'
  refine ⟨?_, .inr ⟨(((mgr.resetTime row.1 + cfg.period row.2 : ℕ) : ℤ) - (3600 : ℕ),
    .make 1 event.mapid event.difficulty 0), later, perm⟩, ?_⟩
  · apply orderly.replace front isGlobal periodic hs perm
    · obtain ⟨small, small'⟩ := periodic.words
      simp only [InstResetEvent.make, mapid, difficulty, uint16, Nat.mod_eq_of_lt small,
        Nat.mod_eq_of_lt small']
    · exact ⟨le_refl 1, (by decide : 1 ≤ 4)⟩
    · change _ = ((mgr.SetResetTimeFor event.mapid event.difficulty _).resetTime row.1 : ℤ) - _
      rw [advanced row periodic, if_pos rfl]
      rfl
    · change (mgr.SetResetTimeFor event.mapid event.difficulty _).resetTime row.1 % DAY = _
      rw [advanced row periodic, if_pos rfl, Nat.add_mod, regular.days row periodic, Nat.add_zero,
        Nat.mod_mod, chained.hour]
    · intro row' periodic' other
      exact (advanced row' periodic').trans (if_neg other)
  · intro row' periodic'
    by_cases this : row'.1 = row.1
    · obtain rfl := periodic'.ext periodic this
      right
      refine ⟨(advanced row' periodic').trans (if_pos rfl), ?_⟩
      change List.filterMap _ (mgr.effects ++ _) = _
      simp [resets, hs]
    · left
      refine ⟨(advanced row' periodic').trans (if_neg this), ?_⟩
      change List.filterMap _ (mgr.effects ++ _) = _
      simp [resets, hs, Ne.symm this]

lemma Orderly.process :
    ∃ mgr', mgr.process cfg now event = some mgr' ∧ Processed cfg mgr mgr' t rest := by
  by_cases single : event.type = 0
  · exact orderly.process_single front single
  · by_cases last : event.type = 4
    · exact orderly.process_reset regular early front due last
    · exact orderly.process_warn regular front single last

end

/-! ### Updates -/

def overdue (now : ℕ) (entries : List (ℤ × InstResetEvent)) : ℕ :=
  (entries.map fun entry => ((now : ℤ) - entry.1).toNat).sum

lemma Processed.overdue_lt (event : InstResetEvent) (processed : Processed cfg mgr mgr' t rest)
    (due : t < now) : overdue now mgr'.m_resetTimeQueue.entries <
      overdue now ((t, event) :: rest) := by
  rcases processed.erased with perm | ⟨entry, later, perm⟩
  · rw [overdue, (perm.map _).sum_eq, overdue, List.map_cons, List.sum_cons]
    omega
  · rw [overdue, (perm.map _).sum_eq, overdue, List.map_cons, List.sum_cons, List.map_cons,
      List.sum_cons]
    omega

inductive Reached (cfg : Config) (start : InstanceSaveManager) : InstanceSaveManager → Prop where
  | start : Reached cfg start start
  | process {mgr mgr' : InstanceSaveManager} {now : ℕ} {t : ℤ} {event : InstResetEvent}
      {rest : List (ℤ × InstResetEvent)} (reached : Reached cfg start mgr)
      (early : cfg.Early now) (front : mgr.m_resetTimeQueue.entries = (t, event) :: rest)
      (due : t < now) (processed : mgr.process cfg now event = some mgr') :
      Reached cfg start mgr'

variable {start : InstanceSaveManager}

/-- The reset time has advanced by whole periods, and the pair has been reset once at each of the
times on the way. -/
def Regularly (cfg : Config) (start mgr : InstanceSaveManager) (row : (ℕ × ℕ) × ℕ) : Prop :=
  ∃ n, mgr.resetTime row.1 = start.resetTime row.1 + n * cfg.period row.2 ∧
    mgr.resets row.1 = start.resets row.1 ++
      (List.range n).map fun i => start.resetTime row.1 + i * cfg.period row.2

lemma Regularly.advance (regularly : Regularly cfg start mgr row)
    (advances : Advances cfg mgr mgr' row) : Regularly cfg start mgr' row := by
  obtain ⟨n, time, done⟩ := regularly
  rcases advances with ⟨time', done'⟩ | ⟨time', done'⟩
  · exact ⟨n, time'.trans time, done'.trans done⟩
  · refine ⟨n + 1, ?_, ?_⟩
    · rw [time', time, Nat.add_mul, Nat.one_mul, Nat.add_assoc]
    · rw [done', done, time, List.range_succ, List.map_append, List.append_assoc]
      rfl

lemma Reached.keeps (regular : cfg.Regular) (orderly : Orderly cfg start)
    (reached : Reached cfg start mgr) :
    Orderly cfg mgr ∧ ∀ row, cfg.Periodic row → Regularly cfg start mgr row := by
  induction reached with
  | start => exact ⟨orderly, fun row _ => ⟨0, by simp, by simp⟩⟩
  | process reached early front due processed ih =>
    obtain ⟨mgr', hs, kept⟩ := ih.1.process regular early front due
    rw [processed, Option.some.injEq] at hs
    subst hs
    exact ⟨kept.orderly, fun row periodic => (ih.2 row periodic).advance
      (kept.advances row periodic)⟩

lemma Reached.of_update (reached : Reached cfg start mgr) (early : cfg.Early now) {fuel : ℕ}
    (updated : mgr.Update cfg now fuel = some mgr') : Reached cfg start mgr' := by
  induction fuel generalizing mgr with
  | zero => cases updated
  | succ fuel ih =>
    rw [Update] at updated
    split at updated
    · exact Option.some.inj updated ▸ reached
    next t event rest front =>
      split at updated
      · exact Option.some.inj updated ▸ reached
      next due =>
        obtain ⟨between, processed, later⟩ := Option.bind_eq_some_iff.mp updated
        exact ih (reached.process early front (not_le.mp due) processed) later

/-- Enough fuel is one more than the seconds by which the events are overdue. Afterwards no event
is due. -/
lemma Reached.update (regular : cfg.Regular) (early : cfg.Early now)
    (orderly : Orderly cfg start) {fuel : ℕ} (reached : Reached cfg start mgr)
    (enough : overdue now mgr.m_resetTimeQueue.entries < fuel) :
    ∃ mgr', mgr.Update cfg now fuel = some mgr' ∧ Reached cfg start mgr' ∧
      ∀ entry ∈ mgr'.m_resetTimeQueue.entries, (now : ℤ) ≤ entry.1 := by
  induction fuel generalizing mgr with
  | zero => exact absurd enough (Nat.not_lt_zero _)
  | succ fuel ih =>
    rw [Update]
    cases front : mgr.m_resetTimeQueue.entries with
    | nil =>
      refine ⟨mgr, rfl, reached, ?_⟩
      rw [front]
      exact fun entry hm => absurd hm List.not_mem_nil
    | cons first rest =>
      obtain ⟨t, event⟩ := first
      simp only
      split
      next later =>
        refine ⟨mgr, rfl, reached, TimeQueue.le_of_front ?_⟩
        rw [front]
        intro entry isFront
        cases isFront
        exact later
      next due =>
        have due : t < now := not_le.mp due
        obtain ⟨mgr', processed, kept⟩ :=
          (reached.keeps regular orderly).1.process regular early front due
        rw [processed, Option.bind_some]
        apply ih (reached.process early front due processed)
        have less := kept.overdue_lt event due
        rw [front] at enough
        omega

/-! ### Loading -/

/-- The pairs of the rows `done` have their chains, and the reset times that are known are at the
hour of the configuration. -/
structure Loading (cfg : Config) (done : List ((ℕ × ℕ) × ℕ)) (mgr : InstanceSaveManager) :
    Prop where
  chained : ∀ row ∈ done, row.2 ≠ 0 → Chained cfg mgr row
  global : ∀ entry ∈ mgr.m_resetTimeQueue.entries, entry.2.type ≠ 0 →
    ∃ row ∈ done, row.2 ≠ 0 ∧ (entry.2.mapid, entry.2.difficulty) = row.1
  single : ∀ entry ∈ mgr.m_resetTimeQueue.entries, entry.2.type = 0 →
    ∃ entry', cfg.sMapStore entry.2.mapid = some entry'
  hours : ∀ pair, mgr.resetTime pair = 0 ∨ mgr.resetTime pair % DAY = cfg.diff
  effects : mgr.effects = []

lemma firstType_range (now t : ℕ) : 1 ≤ firstType now t ∧ firstType now t ≤ 4 := by
  rw [firstType]
  cases found : (List.range' 1 3).find? fun type =>
      decide ((t : ℤ) - ResetTimeDelay (type - 1) > now) with
  | none => exact ⟨by decide, le_refl 4⟩
  | some type =>
    have hm := List.mem_range'_1.mp (List.mem_of_find?_eq_some found)
    rw [Option.getD_some]
    omega

lemma nextResetTime_hour (now : ℕ) (regular : cfg.Regular) (periodic : cfg.Periodic row) {t : ℕ}
    (hour : t = 0 ∨ t % DAY = cfg.diff) :
    nextResetTime cfg now t (cfg.period row.2) % DAY = cfg.diff := by
  have inDay : cfg.diff % DAY = cfg.diff := by
    have hour := regular.hour
    exact Nat.mod_eq_of_lt (by omega)
  have days := regular.days row periodic
  have first : (if t = 0 then now / DAY * DAY + cfg.period row.2 + cfg.diff else t) % DAY =
      cfg.diff := by
    split
    next zero =>
      rw [Nat.add_mod, Nat.add_mod (now / DAY * DAY), Nat.mul_mod_left, days, Nat.zero_add,
        Nat.zero_mod, Nat.zero_add, Nat.mod_mod, inDay]
    next known => exact hour.resolve_left known
  rw [nextResetTime]
  generalize (if t = 0 then now / DAY * DAY + cfg.period row.2 + cfg.diff else t) = known
    at first ⊢
  split
  · rw [← Nat.add_assoc, Nat.add_mod, Nat.add_mod (_ / DAY * DAY), Nat.mul_mod_left, Nat.mul_mod,
      days, Nat.mul_zero, Nat.zero_mod, Nat.zero_add, Nat.zero_mod, Nat.zero_add, Nat.mod_mod,
      inDay]
  · exact first

lemma Loading.empty : Loading cfg [] empty where
  chained := fun _ hm => absurd hm List.not_mem_nil
  global := fun _ hm => absurd hm List.not_mem_nil
  single := fun _ hm => absurd hm List.not_mem_nil
  hours := fun _ => .inl rfl
  effects := rfl

lemma Loading.after_instance (loading : Loading cfg [] mgr)
    (exists' : ∃ entry, cfg.sMapStore (uint16 inst.mapid) = some entry) :
    Loading cfg [] (mgr.loadInstanceReset now inst) := by
  rw [loadInstanceReset]
  split
  · have perm := TimeQueue.perm_insert (q := mgr.m_resetTimeQueue) (k := (inst.resettime : ℤ))
      (a := .make 0 inst.mapid inst.difficulty inst.id)
    refine ⟨fun row hm => absurd hm List.not_mem_nil, fun entry hm => ?_,
      fun entry hm => ?_, loading.hours, loading.effects⟩
    · rcases List.mem_cons.mp (perm.mem_iff.mp hm) with rfl | old
      · exact fun isGlobal => absurd rfl isGlobal
      · exact loading.global entry old
    · rcases List.mem_cons.mp (perm.mem_iff.mp hm) with rfl | old
      · exact fun _ => exists'
      · exact loading.single entry old
  · exact loading

lemma Loading.after_reset {reset : ResetRow} (regular : cfg.Regular)
    (loading : Loading cfg [] mgr) : Loading cfg [] (mgr.loadResetRow cfg reset) := by
  rw [loadResetRow]
  split
  · exact loading
  · refine ⟨fun row hm => absurd hm List.not_mem_nil, loading.global, loading.single,
      fun pair => ?_, loading.effects⟩
    simp only [resetTime, GetResetTimeFor, SetResetTimeFor, Function.update_apply]
    split
    · right
      have hour := regular.hour
      rw [Nat.add_mod, Nat.mul_mod_left, Nat.zero_add, Nat.mod_mod, Nat.mod_eq_of_lt (by omega)]
    · exact loading.hours pair

lemma Loading.after_row (regular : cfg.Regular) (loading : Loading cfg done mgr)
    (rows : ∀ row' ∈ row :: done, row' ∈ cfg.sMapDifficultyMap.rows)
    (isNew : row.1 ∉ done.map Prod.fst)
    (clear : row.2 ≠ 0 → ∀ inst ∈ timed, MAKE_PAIR32 inst.mapid inst.difficulty ≠ row.1) :
    Loading cfg (row :: done) (mgr.loadPair cfg now timed row) := by
  have other : ∀ row' ∈ done, row'.1 ≠ row.1 := fun row' hm hs =>
    isNew (hs ▸ List.mem_map_of_mem hm)
  by_cases zero : row.2 = 0
  · rw [loadPair, if_pos zero]
    refine ⟨fun row' hm periodic => ?_, fun entry hm isGlobal => ?_, loading.single,
      loading.hours, loading.effects⟩
    · rcases List.mem_cons.mp hm with rfl | old
      · exact absurd zero periodic
      · exact loading.chained row' old periodic
    · obtain ⟨row', old, known⟩ := loading.global entry hm isGlobal
      exact ⟨row', List.mem_cons_of_mem _ old, known⟩
  · have periodic : cfg.Periodic row := ⟨rows row List.mem_cons_self, zero⟩
    have none : timed.filter (fun inst =>
        MAKE_PAIR32 inst.mapid inst.difficulty == (row.1.1, row.1.2)) = [] := by
      rw [List.filter_eq_nil_iff]
      intro inst hm
      rw [beq_iff_eq]
      exact clear zero inst hm
    have hour := nextResetTime_hour now regular periodic (loading.hours row.1)
    simp only [loadPair, zero, if_false, none, List.map_nil, List.foldl_cons,
      List.foldl_nil]
    change nextResetTime cfg now (mgr.GetResetTimeFor row.1.1 row.1.2) (cfg.period row.2) % DAY = _
      at hour
    generalize nextResetTime cfg now (mgr.GetResetTimeFor row.1.1 row.1.2) (cfg.period row.2) = t
      at hour ⊢
    have range := firstType_range now t
    generalize firstType now t = type at range ⊢
    have perm := TimeQueue.perm_insert (q := mgr.m_resetTimeQueue)
      (k := (t : ℤ) - ResetTimeDelay (type - 1)) (a := .make type row.1.1 row.1.2 0)
    have pair : ((InstResetEvent.make type row.1.1 row.1.2 0).mapid,
        (InstResetEvent.make type row.1.1 row.1.2 0).difficulty) = row.1 := by
      obtain ⟨small, small'⟩ := periodic.words
      simp only [InstResetEvent.make, uint16, Nat.mod_eq_of_lt small, Nat.mod_eq_of_lt small']
    have set : ∀ row', cfg.Periodic row' →
        (mgr.SetResetTimeFor row.1.1 row.1.2 t).resetTime row'.1 =
          if row'.1 = row.1 then t else mgr.resetTime row'.1 :=
      fun row' periodic' => resetTime_set periodic periodic'
    refine ⟨fun row' hm nonzero => ?_, fun entry hm isGlobal => ?_,
      fun entry hm isSingle => ?_, fun pair => ?_, loading.effects⟩
    · rcases List.mem_cons.mp hm with rfl | old
      · -- no event of the pair was pending before
        have absent : mgr.pending row'.1 = [] := by
          rw [pending, List.filter_eq_nil_iff]
          intro entry hm isPair
          obtain ⟨isGlobal, hs⟩ := ofPair_iff.mp isPair
          obtain ⟨row, old, -, known⟩ := loading.global entry hm isGlobal
          exact other row old (known.symm.trans hs)
        have time := (set row' periodic).trans (if_pos rfl)
        constructor
        · refine ⟨.make type row'.1.1 row'.1.2 0, range, ?_⟩
          rw [resetTime_AddReset, time]
          exact pending_of perm (ofPair_iff.mpr ⟨by
            change type ≠ 0
            omega, pair⟩) absent
        · exact (congrArg (· % DAY) time).trans hour
      · have chained := loading.chained row' old nonzero
        have different := other row' old
        have periodic' : cfg.Periodic row' := ⟨rows row' (List.mem_cons_of_mem _ old), nonzero⟩
        obtain ⟨event, -, only⟩ := chained.event
        apply chained.congr
        · rw [only]
          apply pending_of_not perm _ only
          rw [Bool.eq_false_iff, Ne, ofPair_iff]
          exact fun both => different (both.2.symm.trans pair)
        · exact (set row' periodic').trans (if_neg different)
    · rcases List.mem_cons.mp (perm.mem_iff.mp hm) with rfl | old
      · exact ⟨row, List.mem_cons_self, zero, pair⟩
      · obtain ⟨row', old, known⟩ := loading.global entry old isGlobal
        exact ⟨row', List.mem_cons_of_mem _ old, known⟩
    · rcases List.mem_cons.mp (perm.mem_iff.mp hm) with rfl | old
      · change type = 0 at isSingle
        omega
      · exact loading.single entry old isSingle
    · change (mgr.SetResetTimeFor row.1.1 row.1.2 t).resetTime pair = 0 ∨
        (mgr.SetResetTimeFor row.1.1 row.1.2 t).resetTime pair % DAY = cfg.diff
      simp only [resetTime, GetResetTimeFor, SetResetTimeFor, Function.update_apply]
      split
      · exact .inr hour
      · exact loading.hours pair

lemma Loading.after_rows {rows : List ((ℕ × ℕ) × ℕ)} (regular : cfg.Regular)
    (loading : Loading cfg done mgr)
    (inTable : ∀ row ∈ rows.reverse ++ done, row ∈ cfg.sMapDifficultyMap.rows)
    (distinct : ((rows.reverse ++ done).map Prod.fst).Nodup) (clear : ∀ row ∈ rows, row.2 ≠ 0 →
      ∀ inst ∈ timed, MAKE_PAIR32 inst.mapid inst.difficulty ≠ row.1) :
    Loading cfg (rows.reverse ++ done) (rows.foldl (loadPair cfg · now timed ·) mgr) := by
  induction rows generalizing mgr done with
  | nil => exact loading
  | cons row rows ih =>
    rw [List.reverse_cons, List.append_assoc, List.singleton_append] at inTable distinct ⊢
    apply ih _ inTable distinct
    · exact fun row' hm => clear row' (List.mem_cons_of_mem _ hm)
    · apply loading.after_row regular
      · exact fun row' hm => inTable row' (List.mem_append_right _ hm)
      · rw [List.map_append, List.map_cons] at distinct
        exact (List.nodup_cons.mp (List.nodup_append.mp distinct).2.1).1
      · exact clear row List.mem_cons_self

end InstanceSaveManager

/-! ### Every run -/

/-- No stored instance of a pair with a reset time has a reset time of its own, and the maps of
those that have one exist. -/
structure Stored.Clear (cfg : Config) (stored : Stored) : Prop where
  apart : ∀ row, cfg.Periodic row →
    ∀ inst ∈ stored.timed, MAKE_PAIR32 inst.mapid inst.difficulty ≠ row.1
  maps : ∀ inst ∈ stored.timed, ∃ entry, cfg.sMapStore (uint16 inst.mapid) = some entry

lemma Stored.mapid_updated {stored : Stored} (hm : inst ∈ stored.updated) :
    ∃ inst' ∈ stored.timed, inst'.mapid = inst.mapid := by
  rw [updated] at hm
  split at hm
  · exact ⟨inst, hm, rfl⟩
  · obtain ⟨first, here, becomes⟩ := List.mem_map.mp hm
    refine ⟨first, here, ?_⟩
    rw [← becomes]
    split <;> rfl

namespace InstanceSaveManager

variable {cfg : Config} {stored : Stored}

lemma LoadResetTimes_loading (now : ℕ) (regular : cfg.Regular) (clear : stored.Clear cfg) :
    Loading cfg (cfg.sMapDifficultyMap.rows.reverse ++ []) (LoadResetTimes cfg now stored) := by
  apply Loading.after_rows regular
  · have singles : ∀ rows : List InstanceRow, (∀ inst ∈ rows, inst ∈ stored.updated) →
        ∀ mgr, Loading cfg [] mgr → Loading cfg [] (rows.foldl (loadInstanceReset · now ·) mgr) := by
      intro rows
      induction rows with
      | nil => exact fun _ mgr loading => loading
      | cons inst rows ih =>
        intro members mgr loading
        obtain ⟨inst', hm, hs⟩ := Stored.mapid_updated (members inst List.mem_cons_self)
        exact ih (fun inst hm => members inst (List.mem_cons_of_mem _ hm)) _
          (loading.after_instance (hs ▸ clear.maps inst' hm))
    have hours : ∀ resets : List ResetRow, ∀ mgr, Loading cfg [] mgr →
        Loading cfg [] (resets.foldl (loadResetRow cfg) mgr) := by
      intro resets
      induction resets with
      | nil => exact fun mgr loading => loading
      | cons reset resets ih => exact fun mgr loading => ih _ (loading.after_reset regular)
    exact hours _ _ (singles _ (fun inst hm => hm) _ Loading.empty)
  · simp
  · rw [List.append_nil, List.map_reverse, List.nodup_reverse]
    exact cfg.sMapDifficultyMap.distinct
  · exact fun row hm nonzero => clear.apart row ⟨hm, nonzero⟩

lemma LoadResetTimes_orderly (now : ℕ) (regular : cfg.Regular) (clear : stored.Clear cfg) :
    Orderly cfg (LoadResetTimes cfg now stored) ∧ (LoadResetTimes cfg now stored).effects = [] := by
  have loading := LoadResetTimes_loading now regular clear
  simp only [List.append_nil] at loading
  refine ⟨⟨fun row periodic => ?_, fun entry hm isGlobal => ?_, loading.single⟩,
    loading.effects⟩
  · exact loading.chained row (List.mem_reverse.mpr periodic.1) periodic.2
  · obtain ⟨row, hm, nonzero, hs⟩ := loading.global entry hm isGlobal
    exact ⟨row, ⟨List.mem_reverse.mp hm, nonzero⟩, hs⟩

/-- In every manager reached from the loaded one each pair with a reset time has one pending global
event, and it has been reset once per period. Each due event is erased when it is processed, and
every update ends, with no event that is due. -/
theorem global_resets_regular {now₀ : ℕ} (regular : cfg.Regular) (clear : stored.Clear cfg)
    {mgr : InstanceSaveManager} (reached : Reached cfg (LoadResetTimes cfg now₀ stored) mgr) :
    (∀ row, cfg.Periodic row → (mgr.pending row.1).length = 1 ∧
      ∃ n, mgr.resetTime row.1 =
          (LoadResetTimes cfg now₀ stored).resetTime row.1 + n * cfg.period row.2 ∧
        mgr.resets row.1 = (List.range n).map fun i =>
          (LoadResetTimes cfg now₀ stored).resetTime row.1 + i * cfg.period row.2) ∧
    ∀ now, cfg.Early now →
      (∀ t event rest, mgr.m_resetTimeQueue.entries = (t, event) :: rest → t < now →
        ∃ mgr', mgr.process cfg now event = some mgr' ∧
          (mgr'.m_resetTimeQueue.entries.Perm rest ∨
            ∃ entry, t < entry.1 ∧ mgr'.m_resetTimeQueue.entries.Perm (entry :: rest))) ∧
      ∃ fuel mgr', mgr.Update cfg now fuel = some mgr' ∧
        Reached cfg (LoadResetTimes cfg now₀ stored) mgr' ∧
        ∀ entry ∈ mgr'.m_resetTimeQueue.entries, (now : ℤ) ≤ entry.1 := by
  obtain ⟨start, effects⟩ := LoadResetTimes_orderly now₀ regular clear
  obtain ⟨orderly, regularly⟩ := reached.keeps regular start
  constructor
  · intro row periodic
    obtain ⟨event, -, only⟩ := (orderly.chained row periodic).event
    obtain ⟨n, time, done⟩ := regularly row periodic
    have none : (LoadResetTimes cfg now₀ stored).resets row.1 = [] := by
      rw [resets, effects, List.filterMap_nil]
    rw [none, List.nil_append] at done
    exact ⟨by rw [only]; rfl, n, time, done⟩
  · intro now early
    constructor
    · intro t event rest front due
      obtain ⟨mgr', processed, kept⟩ := orderly.process regular early front due
      exact ⟨mgr', processed, kept.erased⟩
    · exact ⟨_, reached.update regular early start (Nat.lt_succ_self _)⟩

def challengeMode : Config where
  sMapStore := fun id => if id = 1007 then some ⟨.MAP_INSTANCE⟩ else none
  sMapDifficultyMap := ⟨[((1007, DUNGEON_DIFFICULTY_CHALLENGE), 86400)], by decide, by decide,
    by decide⟩
  rate := 1
  resetTimeHour := 4

lemma challengeMode_regular : challengeMode.Regular where
  instanceable := by
    rintro row ⟨hm, -⟩
    obtain rfl := List.mem_singleton.mp hm
    exact ⟨⟨.MAP_INSTANCE⟩, rfl, rfl⟩
  days := by
    rintro row ⟨hm, -⟩
    obtain rfl := List.mem_singleton.mp hm
    decide +kernel
  hour := by decide

/-- A normal instance of the same map has a reset time and a respawn, and the pair a stored time. -/
def challengeRows : Stored := ⟨[⟨7, 1007, 0, 1380000900⟩], [⟨1379993300, 7⟩], [⟨1007, 2, 1380070000⟩]⟩

lemma challengeRows_clear : challengeRows.Clear challengeMode where
  apart := by
    rintro row ⟨hm, -⟩ inst timed
    obtain rfl := List.mem_singleton.mp hm
    obtain rfl := List.mem_singleton.mp timed
    decide
  maps := by
    intro inst timed
    obtain rfl := List.mem_singleton.mp timed
    exact ⟨⟨.MAP_INSTANCE⟩, rfl⟩

/-- An update two days later resets the instance, warns three times, resets the pair twice, and
leaves the first warning of the next day. -/
theorem global_resets_regular_challengeMode :
    ∃ mgr, (LoadResetTimes challengeMode 1380000000 challengeRows).Update challengeMode 1380170000 10 =
        some mgr ∧
      mgr.resets (1007, 2) = [1380081600, 1380168000] ∧ (mgr.pending (1007, 2)).length = 1 := by
  have done : ((LoadResetTimes challengeMode 1380000000 challengeRows).Update challengeMode 1380170000
      10).map (·.resets (1007, 2)) = some [1380081600, 1380168000] := by decide +kernel
  obtain ⟨mgr, updated, resets⟩ := Option.map_eq_some_iff.mp done
  have early : challengeMode.Early 1380170000 := by
    rintro row ⟨hm, -⟩
    obtain rfl := List.mem_singleton.mp hm
    decide +kernel
  have regularly := global_resets_regular challengeMode_regular challengeRows_clear
    (Reached.start.of_update early updated)
  exact ⟨mgr, updated, resets,
    (regularly.1 ((1007, 2), 86400) ⟨List.mem_singleton_self _, by decide⟩).1⟩

/-- An instance of the pair is stored with its reset time, as the manager stores it. -/
theorem not_one_pending : ¬ ∀ cfg now₀ stored mgr,
    Reached cfg (LoadResetTimes cfg now₀ stored) mgr →
      ∀ row, cfg.Periodic row → (mgr.pending row.1).length = 1 := by
  intro one
  have length := one challengeMode 1380000000 ⟨[⟨7, 1007, 2, 1380100000⟩], [], []⟩ _ .start
    ((1007, 2), 86400) ⟨List.mem_singleton_self _, by decide⟩
  revert length
  decide +kernel

end InstanceSaveManager

end WorldServer.Instances
