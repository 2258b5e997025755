import WorldServer.Instances.InstanceSaveMgr
import WorldServer.Lib.Table

/-!
# Reset times at start-up

When the server starts, the reset time of each stored instance should become the time of its last
respawn and two hours, in memory and in the database, and every instance that is still to be reset
should get one event. As the loop over the respawns is ended by the wrong query, all rows but the
first are left out; and the events hold 16 bits of an instance's number.
-/
namespace WorldServer.Instances

open WorldServer.Lib

/-! ### What should be -/

/-- `id` is the primary key of `instance`, and the respawns are grouped by the instance. -/
structure Stored.Proper (stored : Stored) : Prop where
  ids : (stored.instances.map InstanceRow.id).Nodup
  groups : (stored.respawns.map RespawnRow.instance').Nodup

def InstanceSaveManager.singles (mgr : InstanceSaveManager) : List (ℤ × InstResetEvent) :=
  mgr.m_resetTimeQueue.entries.filter fun entry => entry.2.type == 0

namespace Stored

variable (stored : Stored) (cfg : Config) (now : ℕ)

def due (row : InstanceRow) : ℕ :=
  match stored.respawns.find? fun respawn => respawn.instance' == row.id with
  | none => row.resettime
  | some respawn => respawn.respawntime + 2 * HOUR

def dueRow (row : InstanceRow) : InstanceRow := { row with resettime := stored.due row }

/-- The reset times are right in memory and in the database, and each instance that is to be reset
later has one event of type 0, at its time. -/
structure ResetTimesRight : Prop where
  memory : stored.updated = stored.timed.map stored.dueRow
  database : stored.database =
    stored.instances.map fun row => if row.resettime = 0 then row else stored.dueRow row
  scheduled : ∀ inst ∈ stored.updated, now < inst.resettime →
    ((InstanceSaveManager.LoadResetTimes cfg now stored).singles.filter
      fun entry => entry.2.instanceId == inst.id) =
        [((inst.resettime : ℤ), .make 0 inst.mapid inst.difficulty inst.id)]

/-- The first respawn does not wrap, the others change nothing, and the numbers of the instances
that are to be reset later fit into 16 bits. -/
structure FirstRowEnough : Prop where
  first : ∀ respawn ∈ stored.respawns.head?, ∀ row ∈ stored.timed, row.id = respawn.instance' →
    respawn.respawntime + 2 * HOUR < 2 ^ 32
  others : ∀ respawn ∈ stored.respawns.tail, ∀ row ∈ stored.timed, row.id = respawn.instance' →
    row.resettime = respawn.respawntime + 2 * HOUR
  narrow : ∀ row ∈ stored.timed, now < stored.due row → row.id < 2 ^ 16

/-! ### Memory and database -/

variable {stored} {cfg now}

def given (respawns : List RespawnRow) (row : InstanceRow) : ℕ :=
  match respawns with
  | [] => row.resettime
  | respawn :: _ => if row.id = respawn.instance' then respawn.resettime else row.resettime

lemma updated_eq :
    stored.updated =
      stored.timed.map fun row => { row with resettime := given stored.respawns row } := by
  rw [updated]
  split
  next empty => simp [given, empty]
  next respawn rest hs =>
    apply List.map_congr_left
    intro row _
    by_cases hf : row.id = respawn.instance' <;> simp [given, hs, hf]

lemma memory_iff :
    stored.updated = stored.timed.map stored.dueRow ↔
      ∀ row ∈ stored.timed, given stored.respawns row = stored.due row := by
  rw [updated_eq, List.map_inj_left]
  simp [dueRow]

/-- What the rows of the respawns should say about an instance that has a row at most once. -/
lemma find_eq_iff {respawns : List RespawnRow} {row : InstanceRow}
    (groups : (respawns.map RespawnRow.instance').Nodup) :
    (row.resettime = match respawns.find? fun respawn => respawn.instance' == row.id with
      | none => row.resettime
      | some respawn => respawn.respawntime + 2 * HOUR) ↔
      ∀ respawn ∈ respawns, row.id = respawn.instance' →
        row.resettime = respawn.respawntime + 2 * HOUR := by
  induction respawns with
  | nil => simp
  | cons respawn rest ih =>
    rw [List.map_cons, List.nodup_cons] at groups
    by_cases hf : respawn.instance' = row.id
    · -- the other rows are about other instances
      have notLater : ∀ later ∈ rest, row.id ≠ later.instance' := by
        intro later hm hs
        exact groups.1 (List.mem_map.mpr ⟨later, hm, hs.symm.trans hf.symm⟩)
      simp only [List.find?_cons, hf, beq_self_eq_true, List.forall_mem_cons, true_implies]
      exact ⟨fun hs => ⟨hs, fun later hm hs => absurd hs (notLater later hm)⟩,
        And.left⟩
    · have passed : (respawn.instance' == row.id) = false := by simp [hf]
      simp only [List.find?_cons, passed, ih groups.2, List.forall_mem_cons, Ne.symm hf,
        false_implies, true_and]

lemma given_eq_due_iff (proper : stored.Proper) {row : InstanceRow} :
    given stored.respawns row = stored.due row ↔
      (∀ respawn ∈ stored.respawns.head?, row.id = respawn.instance' →
        respawn.respawntime + 2 * HOUR < 2 ^ 32) ∧
      ∀ respawn ∈ stored.respawns.tail, row.id = respawn.instance' →
        row.resettime = respawn.respawntime + 2 * HOUR := by
  have groups := proper.groups
  rw [due]
  cases hs : stored.respawns with
  | nil => simp [given]
  | cons respawn rest =>
    rw [hs, List.map_cons, List.nodup_cons] at groups
    by_cases hf : respawn.instance' = row.id
    · have notLater : ∀ later ∈ rest, row.id ≠ later.instance' := by
        intro later hm hs
        exact groups.1 (List.mem_map.mpr ⟨later, hm, hs.symm.trans hf.symm⟩)
      have fits : uint32 (respawn.respawntime + 2 * HOUR) = respawn.respawntime + 2 * HOUR ↔
          respawn.respawntime + 2 * HOUR < 2 ^ 32 := by
        rw [uint32, Nat.mod_eq_iff_lt (by decide)]
      simp [given, hf, RespawnRow.resettime, fits]
      exact fun _ later hm hs => absurd hs (notLater later hm)
    · have passed : (respawn.instance' == row.id) = false := by simp [hf]
      simp [given, Ne.symm hf, passed, find_eq_iff groups.2]

lemma mem_timed {row : InstanceRow} :
    row ∈ stored.timed ↔ row ∈ stored.instances ∧ row.resettime ≠ 0 := by
  simp [timed]

lemma database_eq (proper : stored.Proper) :
    stored.database = stored.instances.map fun row =>
      if row.resettime = 0 then row else { row with resettime := given stored.respawns row } := by
  rw [database]
  cases hs : stored.respawns with
  | nil => simp [given]
  | cons respawn rest =>
    simp only [given]
    cases found : stored.timed.find? fun row => row.id == respawn.instance' with
    | none =>
      -- nobody in memory has the number
      have other : ∀ row ∈ stored.timed, row.id ≠ respawn.instance' := by
        simpa using List.find?_eq_none.mp found
      refine ((List.map_congr_left fun row hm => ?_).trans (List.map_id _)).symm
      by_cases untimed : row.resettime = 0
      · simp [untimed]
      · simp [untimed, other row (mem_timed.mpr ⟨hm, untimed⟩)]
    | some row =>
      obtain ⟨stored_, timed⟩ := mem_timed.mp (List.mem_of_find?_eq_some found)
      have id : row.id = respawn.instance' := by simpa using List.find?_some found
      have alone : ∀ row' ∈ stored.instances, row'.id = respawn.instance' → row' = row :=
        fun row' hm hs => List.inj_on_of_nodup_map proper.ids hm stored_
          (hs.trans id.symm)
      have rows : setResettime respawn.instance' respawn.resettime stored.instances =
          stored.instances.map fun row' => if row'.resettime = 0 then row'
            else { row' with resettime :=
              if row'.id = respawn.instance' then respawn.resettime else row'.resettime } := by
        apply List.map_congr_left
        intro row' hm
        by_cases this : row'.id = respawn.instance'
        · obtain rfl := alone row' hm this
          simp [this, timed]
        · simp [this]
      rw [← rows]
      by_cases unchanged : row.resettime = respawn.resettime
      · simp only [unchanged, ne_eq, not_true_eq_false, if_false]
        refine ((List.map_congr_left fun row' hm => ?_).trans (List.map_id _)).symm
        by_cases this : row'.id = respawn.instance'
        · obtain rfl := alone row' hm this
          have here : (row'.id == respawn.instance') = true := by simp [this]
          simp [here, ← unchanged]
        · simp [this]
      · simp [unchanged]

lemma database_of_memory (proper : stored.Proper)
    (memory : ∀ row ∈ stored.timed, given stored.respawns row = stored.due row) :
    stored.database =
      stored.instances.map fun row => if row.resettime = 0 then row else stored.dueRow row := by
  rw [database_eq proper]
  apply List.map_congr_left
  intro row hm
  by_cases untimed : row.resettime = 0
  · simp [untimed]
  · simp only [untimed, if_false, dueRow, memory row (mem_timed.mpr ⟨hm, untimed⟩)]

end Stored

/-! ### Events of type 0 -/

lemma filter_id {rows : List InstanceRow} (distinct : (rows.map InstanceRow.id).Nodup)
    {inst : InstanceRow} (hm : inst ∈ rows) :
    rows.filter (fun row => row.id == inst.id) = [inst] := by
  induction rows with
  | nil => cases hm
  | cons row rows ih =>
    rw [List.map_cons, List.nodup_cons] at distinct
    rcases List.mem_cons.mp hm with rfl | later
    · have none : rows.filter (fun row => row.id == inst.id) = [] := by
        refine List.filter_eq_nil_iff.mpr fun row hm => ?_
        have : row.id ≠ inst.id := fun hs => distinct.1 (List.mem_map.mpr ⟨row, hm, hs⟩)
        simpa using this
      simp [none]
    · have other : row.id ≠ inst.id := fun hs =>
        distinct.1 (List.mem_map.mpr ⟨inst, later, hs.symm⟩)
      simp [other, ih distinct.2 later]

namespace InstanceSaveManager

variable {cfg : Config} {mgr : InstanceSaveManager} {now : ℕ}

lemma singles_AddReset (time : ℤ) (event : InstResetEvent) :
    (mgr.AddReset time event).singles.Perm
      (if event.type = 0 then (time, event) :: mgr.singles else mgr.singles) := by
  have perm := (TimeQueue.perm_insert (q := mgr.m_resetTimeQueue) (k := time) (a := event)).filter
    fun entry => entry.2.type == 0
  by_cases single : event.type = 0 <;> simpa [singles, AddReset, single] using perm

lemma singles_loadInstances (rows : List InstanceRow) :
    (rows.foldl (loadInstanceReset · now ·) mgr).singles.Perm
      (((rows.filter fun row => now < row.resettime).map fun row =>
        ((row.resettime : ℤ), InstResetEvent.make 0 row.mapid row.difficulty row.id)) ++
          mgr.singles) := by
  induction rows generalizing mgr with
  | nil => exact List.Perm.refl _
  | cons row rows ih =>
    rw [List.foldl_cons]
    refine ih.trans ?_
    rw [loadInstanceReset]
    by_cases later : now < row.resettime
    · have added := @singles_AddReset mgr row.resettime (.make 0 row.mapid row.difficulty row.id)
      simp only [later, decide_true, List.filter_cons_of_pos, List.map_cons, List.cons_append,
        if_true]
      exact (added.append_left _).trans List.perm_middle
    · simp [later]

lemma singles_foldl {β : Type} {f : InstanceSaveManager → β → InstanceSaveManager}
    (keeps : ∀ mgr b, (f mgr b).singles.Perm mgr.singles) (list : List β) :
    (list.foldl f mgr).singles.Perm mgr.singles := by
  induction list generalizing mgr with
  | nil => exact List.Perm.refl _
  | cons b list ih => exact ih.trans (keeps mgr b)

lemma singles_loadResetRow (row : ResetRow) :
    (mgr.loadResetRow cfg row).singles.Perm mgr.singles := by
  rw [loadResetRow]
  split <;> exact List.Perm.refl _

lemma firstType_pos (now t : ℕ) : firstType now t ≠ 0 := by
  rw [firstType]
  cases found : (List.range' 1 3).find? fun type =>
      decide ((t : ℤ) - ResetTimeDelay (type - 1) > now) with
  | none => simp
  | some type =>
    have := List.mem_range'_1.mp (List.mem_of_find?_eq_some found)
    simp only [Option.getD_some]
    omega

lemma singles_loadPair (timed : List InstanceRow) (row : (ℕ × ℕ) × ℕ) :
    (mgr.loadPair cfg now timed row).singles.Perm mgr.singles := by
  rw [loadPair]
  split
  · exact List.Perm.refl _
  · refine singles_foldl (fun mgr id => ?_) _
    refine (singles_AddReset _ _).trans ?_
    simp [InstResetEvent.make, firstType_pos]

/-- After loading there is an event of type 0 for each instance that is to be reset later. -/
lemma singles_LoadResetTimes (stored : Stored) :
    (LoadResetTimes cfg now stored).singles.Perm
      ((stored.updated.filter fun row => now < row.resettime).map fun row =>
        ((row.resettime : ℤ), .make 0 row.mapid row.difficulty row.id)) := by
  refine (singles_foldl (fun mgr row => singles_loadPair _ row) _).trans ?_
  refine (singles_foldl (fun mgr row => singles_loadResetRow row) _).trans ?_
  refine (singles_loadInstances _).trans (List.Perm.of_eq ?_)
  simp [singles, empty, TimeQueue.empty]

end InstanceSaveManager

open InstanceSaveManager

namespace Stored

variable {stored : Stored} {cfg : Config} {now : ℕ}

lemma ids_updated : stored.updated.map InstanceRow.id = stored.timed.map InstanceRow.id := by
  rw [updated_eq, List.map_map]
  rfl

lemma scheduled_of_narrow (proper : stored.Proper) {inst : InstanceRow}
    (hm : inst ∈ stored.updated) (later : now < inst.resettime)
    (narrow : ∀ inst ∈ stored.updated, now < inst.resettime → inst.id < 2 ^ 16) :
    ((LoadResetTimes cfg now stored).singles.filter fun entry => entry.2.instanceId == inst.id) =
      [((inst.resettime : ℤ), .make 0 inst.mapid inst.difficulty inst.id)] := by
  have distinct : (stored.updated.map InstanceRow.id).Nodup := by
    rw [ids_updated, timed]
    exact proper.ids.sublist (List.filter_sublist.map _)
  have late : inst ∈ stored.updated.filter fun row => now < row.resettime :=
    List.mem_filter.mpr ⟨hm, decide_eq_true later⟩
  have alone := filter_id (distinct.sublist (List.filter_sublist.map _)) late
  have perm := (@singles_LoadResetTimes cfg now stored).filter
    fun entry => entry.2.instanceId == inst.id
  rw [List.filter_map] at perm
  -- no number of these instances is cut off
  have hs := List.filter_congr (l := stored.updated.filter fun row => now < row.resettime)
    (q := fun row => row.id == inst.id)
    (p := (fun entry : ℤ × InstResetEvent => entry.2.instanceId == inst.id) ∘ fun row =>
      ((row.resettime : ℤ), .make 0 row.mapid row.difficulty row.id)) (by
        intro row listed
        obtain ⟨listed, late⟩ := List.mem_filter.mp listed
        have fits : uint16 row.id = row.id :=
          Nat.mod_eq_of_lt (narrow row listed (of_decide_eq_true late))
        simp [InstResetEvent.make, fits])
  rw [hs, alone] at perm
  exact List.perm_singleton.mp perm

/-- The reset times are right exactly if one row of the respawns was enough. -/
theorem reset_times_right_iff (proper : stored.Proper) :
    stored.ResetTimesRight cfg now ↔ stored.FirstRowEnough now := by
  have memory : stored.updated = stored.timed.map stored.dueRow ↔
      (∀ respawn ∈ stored.respawns.head?, ∀ row ∈ stored.timed, row.id = respawn.instance' →
        respawn.respawntime + 2 * HOUR < 2 ^ 32) ∧
      ∀ respawn ∈ stored.respawns.tail, ∀ row ∈ stored.timed, row.id = respawn.instance' →
        row.resettime = respawn.respawntime + 2 * HOUR := by
    rw [memory_iff]
    simp only [given_eq_due_iff proper]
    grind
  constructor
  · intro right
    obtain ⟨first, others⟩ := memory.mp right.memory
    refine ⟨first, others, fun row member later => ?_⟩
    have listed : stored.dueRow row ∈ stored.updated := right.memory ▸ List.mem_map_of_mem member
    have event := right.scheduled _ listed later
    have kept := (List.mem_filter.mp (event ▸ List.mem_singleton_self _)).2
    simpa [InstResetEvent.make, uint16, dueRow] using kept
  · rintro ⟨first, others, narrow⟩
    have same := memory.mpr ⟨first, others⟩
    refine ⟨same, database_of_memory proper (memory_iff.mp same), fun inst member later => ?_⟩
    refine scheduled_of_narrow proper member later fun inst member later => ?_
    rw [same] at member
    obtain ⟨row, listed, rfl⟩ := List.mem_map.mp member
    exact narrow row listed later

/-- Two instances have respawn rows, and the second one agrees with its row already. -/
def twoRespawns : Stored := ⟨[⟨5, 36, 0, 2000⟩, ⟨6, 36, 0, 8700⟩], [⟨1000, 5⟩, ⟨1500, 6⟩], []⟩

theorem reset_times_right_iff_two :
    twoRespawns.ResetTimesRight ⟨fun _ => none, ⟨[], by decide, by decide, by decide⟩, 1, 4⟩ 3000 := by
  refine (reset_times_right_iff ⟨by decide, by decide⟩).mpr ⟨?_, ?_, ?_⟩
  · decide
  · decide
  · decide

/-- The second of two instances with respawn rows keeps its stored time. -/
theorem second_row_left_out :
    let stored : Stored := ⟨[⟨5, 36, 0, 2000⟩, ⟨6, 36, 0, 3000⟩], [⟨1000, 5⟩, ⟨1500, 6⟩], []⟩
    stored.Proper ∧ ∀ cfg now, ¬ stored.ResetTimesRight cfg now := by
  refine ⟨⟨by decide, by decide⟩, fun cfg now right => ?_⟩
  exact absurd right.memory (by decide)

end Stored

end WorldServer.Instances
