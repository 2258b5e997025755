import Mathlib.Algebra.Group.Nat.Defs
import Mathlib.Data.List.MinMax
import Mathlib.Data.List.Range
import WorldServer.Lib.FreeIds
import WorldServer.Lib.Run

/-!
# Instance ids

The map manager hands out ids for instances. A table of bits marks the ids in use, and
`_nextInstanceId` is meant to be the smallest unused one. The table is sized for the stored ids when
the server starts and grows when an id is handed out that it has no place for. An id is the index
of its bit, so a table of `n` bits has no place for the id `n`; both sizes are computed as if it
had.
-/
namespace WorldServer.Instances

open WorldServer.Lib

def uint32 (n : ℕ) : ℕ := n % 2 ^ 32

/-- The size the table gets for the id `n`, a multiple of 32. -/
def roundUp (n : ℕ) : ℕ := uint32 (n / 32 * 32 + if n % 32 > 0 then 32 else 0)

structure MapManager where
  _instanceIds : BitTable
  _nextInstanceId : ℕ
  /-- Set by `World::StopNow`. -/
  m_stopEvent : Bool
deriving DecidableEq, Repr

namespace MapManager

variable (growth : Growth) (m : MapManager)

def fresh : MapManager := ⟨BitTable.empty, 0, false⟩

/-- `maxId` is the answer to `SELECT MAX(id) FROM instance`. -/
def InitInstanceIds (maxId : ℕ) : MapManager :=
  { m with _nextInstanceId := 1, _instanceIds := m._instanceIds.resize growth (roundUp maxId) }

def SetNextInstanceId (nextInstanceId : ℕ) : MapManager :=
  { m with _nextInstanceId := nextInstanceId }

def RegisterInstanceId (instanceId : ℕ) : Option MapManager :=
  (m._instanceIds.set instanceId true).map fun ids => { m with _instanceIds := ids }

def LoadInstanceId (instanceId : ℕ) : Option MapManager :=
  let m' := if m._nextInstanceId == instanceId then m.SetNextInstanceId (uint32 (instanceId + 1))
    else m
  m'.RegisterInstanceId instanceId

/-- The bit is read only inside the table; outside of it every id is free. -/
def isFree (ids : BitTable) (i : ℕ) : Bool :=
  (decide (i < ids.size) && !ids.bits.getD i false) || decide (i ≥ ids.size)

/-- The loop from `start` on, which ends before `0xFFFFFFFF`. -/
def firstFree (ids : BitTable) (start : ℕ) : Option ℕ :=
  (List.range' start (0xFFFFFFFF - start)).find? (isFree ids)

def allocate (ids : BitTable) (newInstanceId : ℕ) : BitTable :=
  if newInstanceId ≥ uint32 ids.size then
    if ids.size < ids.capacity then ids.resize growth ids.capacity
    else ids.resize growth (roundUp newInstanceId)
  else ids

def GenerateInstanceId : Option (ℕ × MapManager) :=
  let newInstanceId := m._nextInstanceId
  let start := uint32 (newInstanceId + 1)
  let next := (firstFree m._instanceIds start).getD start
  ((allocate growth m._instanceIds newInstanceId).set newInstanceId true).map fun ids =>
    (newInstanceId, ⟨ids, next, m.m_stopEvent || newInstanceId == next⟩)

def FreeInstanceId (instanceId : ℕ) : Option MapManager :=
  let m' := if instanceId < m._nextInstanceId then m.SetNextInstanceId instanceId else m
  (m'._instanceIds.set instanceId false).map fun ids => { m' with _instanceIds := ids }

end MapManager

section Rounding

variable {n : ℕ}

lemma roundUp_lt : roundUp n < 2 ^ 32 := Nat.mod_lt _ (by decide)

end Rounding

/-! ### The search for a free id -/

section Search

variable {ids : BitTable} {start next i : ℕ}

lemma MapManager.isFree_iff : isFree ids i = true ↔ ¬ ids.Marked i := by
  simp only [isFree, BitTable.Marked, BitTable.size, List.getD_eq_getElem?_getD, Bool.or_eq_true,
    Bool.and_eq_true, Bool.not_eq_true']
  by_cases inside : i < ids.bits.length
  · simp [inside]
  · have outside : ids.bits.length ≤ i := Nat.le_of_not_lt inside
    simp [outside]

lemma MapManager.firstFree_eq_some_iff : firstFree ids start = some next ↔
    ¬ ids.Marked next ∧ (start ≤ next ∧ next < 0xFFFFFFFF) ∧
      ∀ i, start ≤ i → i < next → ids.Marked i := by
  simp only [firstFree, List.find?_range'_eq_some, isFree_iff, List.mem_range'_1,
    Bool.not_eq_true']
  have range : next < start + (0xFFFFFFFF - start) ∧ start ≤ next ↔
      start ≤ next ∧ next < 0xFFFFFFFF := by omega
  rw [← range, and_comm (a := start ≤ next)]
  simp [← Bool.not_eq_true, isFree_iff]

lemma MapManager.firstFree_eq_none_iff : firstFree ids start = none ↔
    ∀ i, start ≤ i → i < 0xFFFFFFFF → ids.Marked i := by
  simp only [firstFree, List.find?_eq_none, List.mem_range'_1, isFree_iff, not_not]
  constructor
  · exact fun all i lower upper => all i ⟨lower, by omega⟩
  · exact fun all i hm => all i hm.1 (by omega)

end Search

/-! ### Runs

The ids in use are the loaded and the generated ones that have not been freed. -/

structure Service where
  mgr : MapManager
  used : Finset ℕ
deriving DecidableEq

inductive Act where
  | generate
  | free (id : ℕ)
deriving DecidableEq, Repr

section Runs

variable (growth : Growth) {s : Service} {id : ℕ}

def load (s : Service) (id : ℕ) : Service :=
  (s.mgr.LoadInstanceId id).elim s fun mgr => ⟨mgr, insert id s.used⟩

/-- A call is made; a fault leaves the state, and only ids in use are freed. -/
def step (s : Service) : Act → Service
  | .generate =>
    (s.mgr.GenerateInstanceId growth).elim s fun given => ⟨given.2, insert given.1 s.used⟩
  | .free id =>
    if id ∈ s.used then (s.mgr.FreeInstanceId id).elim s fun mgr => ⟨mgr, s.used.erase id⟩
    else s

/-- The smallest unused positive id is next. -/
def MapManager.NextIsLeast (m : MapManager) (used : Finset ℕ) : Prop :=
  IsLeast (Unused used) m._nextInstanceId

/-- The row stays inside the table, and afterwards the smallest unused id is next. -/
def Loaded (s : Service) (id : ℕ) : Prop :=
  ∃ mgr, s.mgr.LoadInstanceId id = some mgr ∧ mgr.NextIsLeast (insert id s.used)

/-- The call stays inside the table, it does not hand out zero or an id in use, and afterwards the
smallest unused id is next. -/
def Sound (s : Service) : Act → Prop
  | .generate => ∃ id mgr, s.mgr.GenerateInstanceId growth = some (id, mgr) ∧
      id ≠ 0 ∧ id ∉ s.used ∧ mgr.NextIsLeast (insert id s.used)
  | .free id => id ∈ s.used →
      ∃ mgr, s.mgr.FreeInstanceId id = some mgr ∧ mgr.NextIsLeast (s.used.erase id)

/-- The table has a place for the id, or gets one. -/
def Roomy (ids : BitTable) (id : ℕ) : Prop :=
  if id ≥ uint32 ids.size then
    if ids.size < ids.capacity then id < ids.capacity else id < roundUp id
  else id < ids.size

/-- Some id above `next` is unused: below the end of the search, with every smaller id marked, or
else the one the search ends at. -/
def MapManager.HasNext (m : MapManager) (used : Finset ℕ) : Prop :=
  ∃ id, (m._nextInstanceId < id ∧ id ∉ used) ∧
    (∀ i, m._nextInstanceId < i → i < id → m._instanceIds.Marked i) ∧
    (id < 0xFFFFFFFF ∨ id = 0xFFFFFFFF ∧ m._nextInstanceId = 0xFFFFFFFE)

def Granted (s : Service) : Act → Prop
  | .generate => Roomy s.mgr._instanceIds s.mgr._nextInstanceId ∧ s.mgr.HasNext s.used
  | .free id => id ∈ s.used → id < s.mgr._instanceIds.size

/-- The table marks ids in use only, these are positive, and the smallest unused id is next. -/
structure Kept (s : Service) : Prop where
  marks : ∀ i, s.mgr._instanceIds.Marked i → i ∈ s.used
  positive : ∀ i ∈ s.used, 0 < i
  next : s.mgr.NextIsLeast s.used
  word : s.mgr._nextInstanceId < 2 ^ 32

variable {growth}

lemma roomy_iff (growth : Growth) {ids : BitTable} :
    Roomy ids id ↔ id < (MapManager.allocate growth ids id).size := by
  unfold Roomy MapManager.allocate
  split
  · split
    · rw [BitTable.size_resize]
    · rw [BitTable.size_resize]
  · rfl

lemma MapManager.marked_of_allocate {ids : BitTable} {i : ℕ}
    (marked : (allocate growth ids id).Marked i) : ids.Marked i := by
  unfold allocate at marked
  split at marked
  · split at marked
    · exact (BitTable.marked_resize.mp marked).2
    · exact (BitTable.marked_resize.mp marked).2
  · exact marked

lemma MapManager.LoadInstanceId_eq (m : MapManager) : m.LoadInstanceId id =
    (m._instanceIds.set id true).map fun ids =>
      ⟨ids, if m._nextInstanceId = id then uint32 (id + 1) else m._nextInstanceId,
        m.m_stopEvent⟩ := by
  unfold LoadInstanceId RegisterInstanceId SetNextInstanceId
  by_cases hs : m._nextInstanceId = id
  · simp [hs]
  · simp [hs]

lemma MapManager.FreeInstanceId_eq (m : MapManager) : m.FreeInstanceId id =
    (m._instanceIds.set id false).map fun ids =>
      ⟨ids, if id < m._nextInstanceId then id else m._nextInstanceId, m.m_stopEvent⟩ := by
  unfold FreeInstanceId SetNextInstanceId
  by_cases smaller : id < m._nextInstanceId
  · simp [smaller]
  · simp [smaller]

/-- The search finds the first unused id above the one handed out if and only if there is one that
it can find. -/
lemma Kept.search (kept : Kept s) :
    IsLeast {id | s.mgr._nextInstanceId < id ∧ id ∉ s.used}
      ((MapManager.firstFree s.mgr._instanceIds (uint32 (s.mgr._nextInstanceId + 1))).getD
        (uint32 (s.mgr._nextInstanceId + 1))) ↔ s.mgr.HasNext s.used := by
  have word := kept.word
  -- an unused id is not marked, so the search cannot pass it
  have seen : ∀ {i}, i ∉ s.used → ¬ s.mgr._instanceIds.Marked i :=
    fun unused marked => unused (kept.marks _ marked)
  constructor
  · intro least
    refine ⟨_, least.1, ?_⟩
    cases hf : MapManager.firstFree s.mgr._instanceIds
        (uint32 (s.mgr._nextInstanceId + 1)) with
    | some id =>
      obtain ⟨free, range, passed⟩ := MapManager.firstFree_eq_some_iff.mp hf
      have above := least.1.1
      constructor
      · intro i larger smaller
        exact passed i ((Nat.mod_le _ _).trans larger) smaller
      · exact .inl range.2
    | none =>
      have passed := MapManager.firstFree_eq_none_iff.mp hf
      rw [hf, Option.getD_none] at least
      -- the counter has not wrapped, since it is above the id handed out
      have next : uint32 (s.mgr._nextInstanceId + 1) = s.mgr._nextInstanceId + 1 := by
        have above := least.1.1
        unfold uint32 at above ⊢
        omega
      rw [next] at least passed
      simp only [Option.getD_none, next]
      constructor
      · intro i larger smaller
        omega
      · have last : ¬ s.mgr._nextInstanceId + 1 < 0xFFFFFFFF := fun below =>
          seen least.1.2 (passed _ (le_refl _) below)
        have wraps : s.mgr._nextInstanceId + 1 < 2 ^ 32 := by
          rw [← next]
          exact Nat.mod_lt _ (by decide)
        right
        omega
  · rintro ⟨id, ⟨above, unused⟩, marked, range⟩
    have next : uint32 (s.mgr._nextInstanceId + 1) = s.mgr._nextInstanceId + 1 := by
      unfold uint32
      omega
    have first : (MapManager.firstFree s.mgr._instanceIds (s.mgr._nextInstanceId + 1)).getD
        (s.mgr._nextInstanceId + 1) = id := by
      rcases range with below | ⟨last, before⟩
      · rw [MapManager.firstFree_eq_some_iff.mpr ⟨seen unused, ⟨above, below⟩, marked⟩,
          Option.getD_some]
      · rw [MapManager.firstFree_eq_none_iff.mpr fun i lower upper => by omega, Option.getD_none]
        omega
    rw [next, first]
    exact ⟨⟨above, unused⟩, fun i hm => not_lt.mp fun smaller =>
      hm.2 (kept.marks i (marked i hm.1 smaller))⟩

lemma Kept.generate_iff (kept : Kept s) (growth : Growth) :
    Sound growth s .generate ↔ Granted s .generate := by
  simp only [Sound, Granted, MapManager.GenerateInstanceId, Option.map_eq_some_iff]
  rw [roomy_iff growth, ← BitTable.set_isSome_iff (b := true), ← kept.search]
  constructor
  · rintro ⟨id, mgr, ⟨ids, written, given⟩, -, -, least⟩
    cases given
    exact ⟨⟨ids, written⟩, (isLeast_unused_insert kept.next).mp least⟩
  · rintro ⟨⟨ids, written⟩, least⟩
    exact ⟨_, _, ⟨ids, written, rfl⟩, Nat.ne_of_gt kept.next.1.1, kept.next.1.2,
      (isLeast_unused_insert kept.next).mpr least⟩

lemma Kept.free_iff (kept : Kept s) (growth : Growth) : Sound growth s (.free id) ↔ Granted s (.free id) := by
  simp only [Sound, Granted, MapManager.FreeInstanceId_eq, Option.map_eq_some_iff]
  apply imp_congr_right
  intro inUse
  rw [← BitTable.set_isSome_iff (b := false)]
  constructor
  · rintro ⟨mgr, ⟨ids, written, -⟩, -⟩
    exact ⟨ids, written⟩
  · rintro ⟨ids, written⟩
    exact ⟨_, ⟨ids, written, rfl⟩, isLeast_unused_erase kept.next (kept.positive id inUse)⟩

lemma Kept.loaded (kept : Kept s) (above : ∀ i ∈ s.used, i < id) (word : id + 1 < 2 ^ 32)
    (inside : id < s.mgr._instanceIds.size) : Loaded s id := by
  obtain ⟨ids, written⟩ := (BitTable.set_isSome_iff (b := true)).mpr inside
  have next : uint32 (id + 1) = id + 1 := Nat.mod_eq_of_lt word
  simp only [Loaded, MapManager.LoadInstanceId_eq, Option.map_eq_some_iff, next]
  exact ⟨_, ⟨ids, written, rfl⟩, isLeast_unused_register kept.next above⟩

lemma Loaded.inside (loaded : Loaded s id) : id < s.mgr._instanceIds.size := by
  obtain ⟨mgr, called, -⟩ := loaded
  rw [MapManager.LoadInstanceId_eq, Option.map_eq_some_iff] at called
  obtain ⟨ids, written, -⟩ := called
  exact BitTable.set_isSome_iff.mp ⟨ids, written⟩

lemma size_load (id : ℕ) : (load s id).mgr._instanceIds.size = s.mgr._instanceIds.size := by
  rw [load, MapManager.LoadInstanceId_eq]
  cases written : s.mgr._instanceIds.set id true with
  | none => rfl
  | some ids => exact BitTable.size_set written

lemma MapManager.GenerateInstanceId_stops {m m' : MapManager}
    (called : m.GenerateInstanceId growth = some (id, m')) : m'.m_stopEvent = m.m_stopEvent := by
  rw [GenerateInstanceId, Option.map_eq_some_iff] at called
  obtain ⟨ids, -, given⟩ := called
  cases given
  have other : m._nextInstanceId ≠ (firstFree m._instanceIds (uint32 (m._nextInstanceId + 1))).getD
      (uint32 (m._nextInstanceId + 1)) := by
    cases hf : firstFree m._instanceIds (uint32 (m._nextInstanceId + 1)) with
    | some id =>
      have range := (firstFree_eq_some_iff.mp hf).2.1
      rw [Option.getD_some]
      unfold uint32 at range
      omega
    | none =>
      rw [Option.getD_none]
      unfold uint32
      omega
  simp [other]

/-! ### What the calls keep -/

lemma Kept.generate (kept : Kept s) (granted : Granted s .generate) :
    Kept (step growth s .generate) := by
  obtain ⟨id, mgr, called, nonzero, -, least⟩ := (kept.generate_iff growth).mpr granted
  have after : step growth s .generate = ⟨mgr, insert id s.used⟩ := by
    simp [step, called]
  rw [after]
  rw [MapManager.GenerateInstanceId, Option.map_eq_some_iff] at called
  obtain ⟨ids, written, given⟩ := called
  cases given
  refine ⟨?_, ?_, least, ?_⟩
  · intro i marked
    rw [BitTable.marked_set written] at marked
    split at marked
    next hs => exact hs ▸ Finset.mem_insert_self ..
    next other =>
      exact Finset.mem_insert_of_mem (kept.marks i (MapManager.marked_of_allocate marked))
  · intro i hm
    rcases Finset.mem_insert.mp hm with rfl | old
    · exact Nat.pos_of_ne_zero nonzero
    · exact kept.positive i old
  · change (MapManager.firstFree _ _).getD _ < 2 ^ 32
    cases hf : MapManager.firstFree s.mgr._instanceIds
        (uint32 (s.mgr._nextInstanceId + 1)) with
    | some id =>
      have range := (MapManager.firstFree_eq_some_iff.mp hf).2.1
      rw [Option.getD_some]
      omega
    | none => exact Nat.mod_lt _ (by decide)

lemma Kept.free (kept : Kept s) (granted : Granted s (.free id)) :
    Kept (step growth s (.free id)) := by
  by_cases inUse : id ∈ s.used
  · obtain ⟨mgr, called, least⟩ := (kept.free_iff growth).mpr granted inUse
    have after : step growth s (.free id) = ⟨mgr, s.used.erase id⟩ := by
      simp [step, inUse, called]
    rw [after]
    rw [MapManager.FreeInstanceId_eq, Option.map_eq_some_iff] at called
    obtain ⟨ids, written, freed⟩ := called
    cases freed
    refine ⟨?_, ?_, least, ?_⟩
    · intro i marked
      rw [BitTable.marked_set written] at marked
      split at marked
      next hs => cases marked
      next other => exact Finset.mem_erase.mpr ⟨other, kept.marks i marked⟩
    · exact fun i hm => kept.positive i (Finset.mem_of_mem_erase hm)
    · have word := kept.word
      change (if id < s.mgr._nextInstanceId then id else s.mgr._nextInstanceId) < 2 ^ 32
      split <;> omega
  · have after : step growth s (.free id) = s := by
      simp only [step, inUse, if_false]
    rw [after]
    exact kept

lemma Kept.after_load (kept : Kept s) (positive : 0 < id) (loaded : Loaded s id) :
    Kept (load s id) ∧ (load s id).used = insert id s.used := by
  obtain ⟨mgr, called, least⟩ := loaded
  have after : load s id = ⟨mgr, insert id s.used⟩ := by
    simp [load, called]
  rw [after]
  rw [MapManager.LoadInstanceId_eq, Option.map_eq_some_iff] at called
  obtain ⟨ids, written, given⟩ := called
  cases given
  refine ⟨⟨?_, ?_, least, ?_⟩, rfl⟩
  · intro i marked
    rw [BitTable.marked_set written] at marked
    split at marked
    next hs => exact hs ▸ Finset.mem_insert_self ..
    next other => exact Finset.mem_insert_of_mem (kept.marks i marked)
  · intro i hm
    rcases Finset.mem_insert.mp hm with rfl | old
    · exact positive
    · exact kept.positive i old
  · have old := kept.word
    change (if s.mgr._nextInstanceId = id then uint32 (id + 1) else s.mgr._nextInstanceId) < 2 ^ 32
    split
    · exact Nat.mod_lt _ (by decide)
    · exact old

/-- The check that no id is left never stops the server, whatever is called. -/
theorem run_stops (growth : Growth) (s : Service) (acts : List Act) :
    (run (step growth) s acts).mgr.m_stopEvent = s.mgr.m_stopEvent := by
  refine run_keeps (fun t : Service => t.mgr.m_stopEvent = s.mgr.m_stopEvent) (fun t act same => ?_) rfl acts
  cases act with
  | generate =>
    rw [step]
    cases called : t.mgr.GenerateInstanceId growth with
    | none => exact same
    | some given => exact (MapManager.GenerateInstanceId_stops called).trans same
  | free id =>
    rw [step, MapManager.FreeInstanceId_eq]
    split
    · cases t.mgr._instanceIds.set id false <;> exact same
    · exact same

end Runs

/-! ### Loading the stored ids -/

/-- The ids of the table `instance`, in the order of the query. -/
structure StoredIds where
  ids : List ℕ
  positive : ∀ id ∈ ids, 0 < id
  word : ∀ id ∈ ids, id < 2 ^ 32
  ascending : ids.Pairwise (· < ·)

section Loading

variable (growth : Growth) (stored : StoredIds) {s : Service}

def StoredIds.maxId : ℕ := stored.ids.max?.getD 0

def start : Service := ⟨MapManager.fresh.InitInstanceIds growth stored.maxId, ∅⟩

def started : Service := run load (start growth stored) stored.ids

lemma StoredIds.le_maxId {id : ℕ} (hm : id ∈ stored.ids) : id ≤ stored.maxId := by
  cases largest : stored.ids.max? with
  | none =>
    rw [List.max?_eq_none_iff.mp largest] at hm
    cases hm
  | some max =>
    rw [StoredIds.maxId, largest, Option.getD_some]
    exact (List.max?_eq_some_iff.mp largest).2 id hm

lemma StoredIds.maxId_mem (some : stored.ids ≠ []) : stored.maxId ∈ stored.ids := by
  cases largest : stored.ids.max? with
  | none => exact absurd (List.max?_eq_none_iff.mp largest) some
  | some max =>
    rw [StoredIds.maxId, largest, Option.getD_some]
    exact (List.max?_eq_some_iff.mp largest).1

lemma start_kept : Kept (start growth stored) := by
  refine ⟨?_, ?_, ?_, ?_⟩
  · intro i marked
    exact absurd (BitTable.marked_resize.mp marked).2 BitTable.not_marked_empty
  · intro i hm
    exact absurd hm (Finset.notMem_empty i)
  · exact ⟨⟨Nat.one_pos, Finset.notMem_empty 1⟩, fun i hm => hm.1⟩
  · exact (by decide : 1 < 2 ^ 32)

lemma size_start : (start growth stored).mgr._instanceIds.size = roundUp stored.maxId :=
  BitTable.size_resize

lemma inside_of_along {ids : List ℕ} (loaded : Along load Loaded s ids) :
    ∀ id ∈ ids, id < s.mgr._instanceIds.size := by
  induction ids generalizing s with
  | nil => exact fun id hm => absurd hm List.not_mem_nil
  | cons id ids ih =>
    intro i hm
    rcases List.mem_cons.mp hm with rfl | later
    · exact loaded.1.inside
    · rw [← size_load id]
      exact ih loaded.2 i later

lemma Kept.loads {ids : List ℕ} (kept : Kept s) (ascending : ids.Pairwise (· < ·))
    (above : ∀ id ∈ ids, ∀ i ∈ s.used, i < id) (positive : ∀ id ∈ ids, 0 < id)
    (inside : ∀ id ∈ ids, id < s.mgr._instanceIds.size)
    (word : s.mgr._instanceIds.size < 2 ^ 32) :
    Along load Loaded s ids ∧ Kept (run load s ids) := by
  induction ids generalizing s with
  | nil => exact ⟨trivial, kept⟩
  | cons id ids ih =>
    have here := inside id List.mem_cons_self
    have loaded := kept.loaded (above id List.mem_cons_self) (by omega) here
    obtain ⟨kept', used⟩ := kept.after_load (positive id List.mem_cons_self) loaded
    obtain ⟨first, ascending⟩ := List.pairwise_cons.mp ascending
    have rest := ih kept' ascending
      (fun later hm i taken => by
        rw [used, Finset.mem_insert] at taken
        rcases taken with rfl | old
        · exact first later hm
        · exact above later (List.mem_cons_of_mem _ hm) i old)
      (fun later hm => positive later (List.mem_cons_of_mem _ hm))
      (fun later hm => (size_load id).symm ▸ inside later (List.mem_cons_of_mem _ hm))
      ((size_load id).symm ▸ word)
    exact ⟨⟨loaded, rest.1⟩, rest.2⟩

/-- No instance is stored, or the table gets a place for the largest id. -/
def StoredIds.Fits : Prop := stored.ids = [] ∨ stored.maxId < roundUp stored.maxId

lemma started_kept (fits : stored.Fits) :
    Along load Loaded (start growth stored) stored.ids ∧ Kept (started growth stored) := by
  apply (start_kept growth stored).loads stored.ascending
  · exact fun _ _ i taken => absurd taken (Finset.notMem_empty i)
  · exact stored.positive
  · intro id hm
    rw [size_start]
    rcases fits with none | fits
    · rw [none] at hm
      cases hm
    · exact (stored.le_maxId hm).trans_lt fits
  · rw [size_start]
    exact roundUp_lt

lemma loads_iff : Along load Loaded (start growth stored) stored.ids ↔ stored.Fits := by
  constructor
  · intro loaded
    by_cases none : stored.ids = []
    · exact .inl none
    · right
      rw [← size_start growth stored]
      exact inside_of_along loaded _ (stored.maxId_mem none)
  · exact fun fits => (started_kept growth stored fits).1

/-- The ids are loaded and handed out as intended if and only if the largest stored id gets a place
and each call meets its condition. -/
theorem instance_ids_sound_iff (acts : List Act) :
    (Along load Loaded (start growth stored) stored.ids ∧
      Along (step growth) (Sound growth) (started growth stored) acts) ↔
    stored.Fits ∧ Along (step growth) Granted (started growth stored) acts := by
  rw [loads_iff]
  apply and_congr_right
  intro fits
  apply along_iff_of_invariant Kept
  · intro s act kept granted
    cases act with
    | generate => exact kept.generate granted
    | free id => exact kept.free granted
  · intro s act kept
    cases act with
    | generate => exact kept.generate_iff growth
    | free id => exact kept.free_iff growth
  · exact (started_kept growth stored fits).2

def storedAt32 : StoredIds := ⟨[32], by decide, by decide, by decide⟩

theorem not_instance_ids_sound : ¬ ∀ (growth : Growth) (stored : StoredIds) (acts : List Act),
    Along load Loaded (start growth stored) stored.ids ∧
      Along (step growth) (Sound growth) (started growth stored) acts := by
  intro sound
  have loaded := (sound ⟨fun _ n => n, fun _ _ => le_refl _⟩ storedAt32 []).1
  have fits := (loads_iff _ _).mp loaded
  exact absurd fits (by unfold StoredIds.Fits; decide)

end Loading

end WorldServer.Instances
