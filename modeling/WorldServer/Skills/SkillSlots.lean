import WorldServer.Skills.Skill

/-!
# Slots, entries and rows

Every skill that a player has is in the slot of its entry, and every slot that is in use belongs to
one entry. The state of an entry says what its row is like, so that a save leaves a row for every
skill that the player has, and no other.
-/
namespace WorldServer.Skills

open WorldServer.Lib

variable {store : UInt16 → Option SkillLineEntry}

namespace Player

variable {p q : Player} {id : UInt16} {data : SkillStatusData}

lemma active_eq_some_iff :
    p.active id = some data ↔ p.mSkillStatus.lookup id = some data ∧ data.uState ≠ .DELETED := by
  simp [active, Option.filter_eq_some_iff]

lemma active_of_lookup_eq (same : q.mSkillStatus.lookup id = p.mSkillStatus.lookup id) :
    q.active id = p.active id := by
  rw [active, active, same]

end Player

def Tracks (slots : Fin PLAYER_MAX_SKILLS → SkillSlot) :
    Option SkillStatusData → Option SkillRow → Prop
  | none, row => row = none
  | some data, row =>
    match data.uState with
    | .UNCHANGED => row = some (slots data.pos).row
    | .CHANGED => row.isSome = true
    | .NEW => row = none
    | .DELETED => row.isSome = true

variable {slots : Fin PLAYER_MAX_SKILLS → SkillSlot} {row : Option SkillRow}

lemma Tracks.of_slots {slots' : Fin PLAYER_MAX_SKILLS → SkillSlot}
    {entry : Option SkillStatusData} (h : Tracks slots entry row)
    (same : ∀ data, entry = some data → data.uState ≠ .DELETED →
      slots' data.pos = slots data.pos) : Tracks slots' entry row := by
  cases entry with
  | none => exact h
  | some data =>
    rw [Tracks] at h ⊢
    cases state : data.uState with
    | UNCHANGED =>
      rw [state] at h
      have isSame := same data rfl (by rw [state]; exact SkillUpdateState.noConfusion)
      simp only [isSame]
      exact h
    | CHANGED => rw [state] at h; exact h
    | NEW => rw [state] at h; exact h
    | DELETED => rw [state] at h; exact h

/-- The state that an entry has when its slot was written -/
def Pending (data : SkillStatusData) (row : Option SkillRow) : Prop :=
  data.uState = .NEW ∧ row = none ∨ data.uState = .CHANGED ∧ row.isSome = true

lemma Pending.tracks {data : SkillStatusData} (h : Pending data row) :
    Tracks slots (some data) row := by
  rw [Tracks]
  rcases h with ⟨state, noRow⟩ | ⟨state, isRow⟩
  · rw [state]
    exact noRow
  · rw [state]
    exact isRow

lemma Tracks.markChanged {data : SkillStatusData} (h : Tracks slots (some data) row)
    (there : data.uState ≠ .DELETED) : Pending (Player.markChanged data) row := by
  rw [Tracks] at h
  rw [Pending, Player.markChanged]
  cases state : data.uState with
  | UNCHANGED => rw [state] at h; simp [h]
  | CHANGED => rw [state] at h; simpa using h
  | NEW => rw [state] at h; simpa using h
  | DELETED => exact absurd state there

namespace Character

variable {c : Character}

/-- What holds between calls -/
structure Sound (c : Character) : Prop where
  line : ∀ id data, c.player.active id = some data →
    id ≠ 0 ∧ (c.player.slots data.pos).lineId = id
  owner : ∀ pos, (c.player.slots pos).lineId ≠ 0 →
    ∃ data, c.player.active (c.player.slots pos).lineId = some data ∧ data.pos = pos
  tracks : ∀ id, Tracks c.player.slots (c.player.mSkillStatus.lookup id) (c.rows.lookup id)

lemma sound_created : Sound created where
  line id data found := by cases found
  owner pos used := absurd rfl used
  tracks id := rfl

lemma Sound.pos_injective (h : Sound c) {id id' : UInt16} {data data' : SkillStatusData}
    (found : c.player.active id = some data) (found' : c.player.active id' = some data')
    (same : data.pos = data'.pos) : id = id' := by
  rw [← (h.line id data found).2, ← (h.line id' data' found').2, same]

/-- A slot that a skill may be written to: its own, or a free one if it has none -/
def Place (p : Player) (id : UInt16) (pos : Fin PLAYER_MAX_SKILLS) : Prop :=
  (∃ data, p.active id = some data ∧ data.pos = pos) ∨
    p.active id = none ∧ (p.slots pos).lineId = 0

variable {pos : Fin PLAYER_MAX_SKILLS}

section

variable (h : Sound c)
include h

lemma Sound.place_alone {id id' : UInt16} {data : SkillStatusData} (place : Place c.player id pos)
    (found : c.player.active id' = some data) (other : id' ≠ id) : data.pos ≠ pos := by
  rintro rfl
  rcases place with ⟨own, isOwn, same⟩ | ⟨_, free⟩
  · exact other (h.pos_injective found isOwn same.symm)
  · have line := h.line id' data found
    rw [free] at line
    exact line.1 line.2.symm

lemma Sound.place_only {pos' : Fin PLAYER_MAX_SKILLS} (used : (c.player.slots pos').lineId ≠ 0)
    (place : Place c.player (c.player.slots pos').lineId pos) : pos' = pos := by
  obtain ⟨data, found, rfl⟩ := h.owner pos' used
  rcases place with ⟨own, isOwn, rfl⟩ | ⟨absent, _⟩
  · rw [isOwn] at found
    cases found
    rfl
  · rw [absent] at found
    cases found

lemma Sound.write {q : Player} {id : UInt16} {slot : SkillSlot} {data : SkillStatusData}
    (status : q.mSkillStatus = c.player.mSkillStatus.insert id data)
    (slots : q.slots = Function.update c.player.slots pos slot) (nonzero : id ≠ 0)
    (isLine : slot.lineId = id) (isPos : data.pos = pos) (place : Place c.player id pos)
    (pending : Pending data (c.rows.lookup id)) : Sound { c with player := q } := by
  have there : data.uState ≠ .DELETED := by
    rcases pending with ⟨state, _⟩ | ⟨state, _⟩
    · rw [state]; exact SkillUpdateState.noConfusion
    · rw [state]; exact SkillUpdateState.noConfusion
  have own : q.active id = some data := by
    rw [Player.active_eq_some_iff, status]
    exact ⟨AList.lookup_insert _, there⟩
  have ownSlot : q.slots pos = slot := by rw [slots, Function.update_self]
  have lookupOther : ∀ id' ≠ id, q.mSkillStatus.lookup id' = c.player.mSkillStatus.lookup id' := by
    intro id' other
    rw [status, AList.lookup_insert_ne other]
  have activeOther : ∀ id' ≠ id, q.active id' = c.player.active id' :=
    fun id' other => Player.active_of_lookup_eq (lookupOther id' other)
  have slotOther : ∀ pos' ≠ pos, q.slots pos' = c.player.slots pos' := by
    intro pos' other
    rw [slots, Function.update_of_ne other]
  constructor
  · intro id' data' found
    by_cases same : id' = id
    · subst same
      rw [own] at found
      cases found
      rw [isPos, ownSlot]
      exact ⟨nonzero, isLine⟩
    · rw [activeOther id' same] at found
      rw [slotOther _ (h.place_alone place found same)]
      exact h.line id' data' found
  · intro pos' used
    by_cases same : pos' = pos
    · subst same
      simp only [ownSlot, isLine]
      exact ⟨data, own, isPos⟩
    · simp only [slotOther pos' same] at used ⊢
      have other : (c.player.slots pos').lineId ≠ id := by
        intro equal
        exact same (h.place_only used (equal ▸ place))
      rw [activeOther _ other]
      exact h.owner pos' used
  · intro id'
    by_cases same : id' = id
    · subst same
      simp only [status, AList.lookup_insert]
      exact pending.tracks
    · simp only [lookupOther id' same]
      apply (h.tracks id').of_slots
      intro data' found there'
      have isActive := Player.active_eq_some_iff.mpr ⟨found, there'⟩
      exact slotOther _ (h.place_alone place isActive same)

lemma Sound.clear {q : Player} {id : UInt16} {data : SkillStatusData}
    (found : c.player.active id = some data)
    (others : ∀ id' ≠ id, q.mSkillStatus.lookup id' = c.player.mSkillStatus.lookup id')
    (slots : q.slots = Function.update c.player.slots data.pos .cleared) (gone : q.active id = none)
    (tracks : Tracks q.slots (q.mSkillStatus.lookup id) (c.rows.lookup id)) :
    Sound { c with player := q } := by
  have activeOther : ∀ id' ≠ id, q.active id' = c.player.active id' :=
    fun id' other => Player.active_of_lookup_eq (others id' other)
  have slotOther : ∀ id' ≠ id, ∀ data', c.player.active id' = some data' →
      q.slots data'.pos = c.player.slots data'.pos := by
    intro id' other data' found'
    rw [slots, Function.update_of_ne]
    intro same
    exact other (h.pos_injective found' found same)
  constructor
  · intro id' data' found'
    by_cases same : id' = id
    · rw [same, gone] at found'
      cases found'
    · rw [activeOther id' same] at found'
      simp only [slotOther id' same data' found']
      exact h.line id' data' found'
  · intro pos used
    by_cases same : pos = data.pos
    · simp only [slots, same, Function.update_self] at used
      exact absurd rfl used
    · simp only [slots, Function.update_of_ne same] at used ⊢
      have other : (c.player.slots pos).lineId ≠ id := by
        intro equal
        obtain ⟨data', found', isPos⟩ := h.owner pos used
        rw [equal, found] at found'
        cases found'
        exact same isPos.symm
      rw [activeOther _ other]
      exact h.owner pos used
  · intro id'
    by_cases same : id' = id
    · rw [same]
      exact tracks
    · simp only [others id' same]
      apply (h.tracks id').of_slots
      intro data' found' there'
      exact slotOther id' same data' (Player.active_eq_some_iff.mpr ⟨found', there'⟩)

/-! ### The calls -/

lemma Sound.removeSkill {id : UInt16} {data : SkillStatusData}
    (found : c.player.active id = some data) :
    Sound { c with player := c.player.removeSkill id data } := by
  have tracks := h.tracks id
  obtain ⟨isEntry, there⟩ := Player.active_eq_some_iff.mp found
  rw [isEntry, Tracks] at tracks
  by_cases new : data.uState = .NEW
  · rw [new] at tracks
    have removed : (c.player.removeSkill id data).mSkillStatus = c.player.mSkillStatus.erase id := by
      simp [Player.removeSkill, new]
    apply h.clear found
    · intro id' other
      rw [removed, AList.lookup_erase_ne other]
    · simp [Player.removeSkill, new, Player.setSlot]
    · rw [Player.active, removed, AList.lookup_erase]
      rfl
    · rw [removed, AList.lookup_erase]
      exact tracks
  · have deleted : (c.player.removeSkill id data).mSkillStatus =
        c.player.mSkillStatus.insert id { data with uState := .DELETED } := by
      simp [Player.removeSkill, new, Player.setStatus, Player.setSlot]
    apply h.clear found
    · intro id' other
      rw [deleted, AList.lookup_insert_ne other]
    · simp [Player.removeSkill, new, Player.setStatus, Player.setSlot]
    · rw [Player.active, deleted, AList.lookup_insert]
      rfl
    · rw [deleted, AList.lookup_insert, Tracks]
      -- the row that the next save deletes
      cases state : data.uState with
      | UNCHANGED => rw [state] at tracks; rw [tracks]; rfl
      | CHANGED => rw [state] at tracks; exact tracks
      | NEW => exact absurd state new
      | DELETED => exact absurd state there

lemma Sound.addSkill {id : UInt16} (nonzero : id ≠ 0) (absent : c.player.active id = none)
    (free : c.player.freeSlot = some pos) (step newVal maxVal : UInt16) (bonus : UInt16 × UInt16)
    (entry : SkillLineEntry) :
    Sound { c with player := c.player.addSkill id step newVal maxVal bonus pos entry } := by
  have isFree := List.find?_some free
  have unused : (c.player.slots pos).lineId = 0 := by simpa using isFree
  have status : (c.player.addSkill id step newVal maxVal bonus pos entry).mSkillStatus =
      c.player.mSkillStatus.insert id
        ⟨pos, if c.player.mSkillStatus.lookup id = none then .NEW else .CHANGED⟩ := by
    rw [Player.addSkill, Player.setStatus, Player.addProfession_mSkillStatus]
    rfl
  have slots : (c.player.addSkill id step newVal maxVal bonus pos entry).slots =
      Function.update c.player.slots pos ⟨id, step, newVal, maxVal, bonus.1, bonus.2⟩ := by
    rw [Player.addSkill, Player.setStatus, Player.addProfession_slots]
    rfl
  apply h.write status slots nonzero rfl rfl
  · exact .inr ⟨absent, unused⟩
  · have tracks := h.tracks id
    cases found : c.player.mSkillStatus.lookup id with
    | none =>
      rw [found] at tracks
      exact .inl ⟨rfl, tracks⟩
    | some data =>
      -- a deleted entry still has its row
      rw [found] at tracks
      have deleted : data.uState = .DELETED := by
        by_contra there
        rw [Player.active_eq_some_iff.mpr ⟨found, there⟩] at absent
        cases absent
      rw [Tracks, deleted] at tracks
      exact .inr ⟨rfl, tracks⟩

lemma Sound.setSkill (bonus : UInt16 × UInt16) (id step newVal maxVal : UInt16) :
    Sound { c with player := c.player.SetSkill store bonus id step newVal maxVal } := by
  rw [Player.SetSkill]
  split
  · exact h
  next nonzero =>
    cases found : c.player.active id with
    | some data =>
      by_cases some : newVal ≠ 0
      · simp only [if_pos some]
        have tracks := h.tracks id
        obtain ⟨isEntry, there⟩ := Player.active_eq_some_iff.mp found
        rw [isEntry] at tracks
        apply h.write rfl rfl nonzero
        · exact (h.line id data found).2
        · rfl
        · exact .inl ⟨data, found, rfl⟩
        · exact tracks.markChanged there
      · simp only [if_neg some]
        exact h.removeSkill found
    | none =>
      by_cases some : newVal ≠ 0
      · simp only [if_pos some]
        cases free : c.player.freeSlot with
        | none => exact h
        | some pos =>
          cases known : store id with
          | none => exact h
          | some entry => exact h.addSkill nonzero found free step newVal maxVal bonus entry
      · simp only [if_neg some]
        exact h

lemma Sound.updateSkillPro (roll : Int32) (skillId : UInt16) (chance : Int32) (step : UInt32) :
    Sound { c with player := (c.player.UpdateSkillPro roll skillId chance step).1 } := by
  rw [Player.UpdateSkillPro]
  split
  · exact h
  next nonzero =>
    split
    · exact h
    · cases found : c.player.active skillId with
      | none => exact h
      | some data =>
        simp only
        split
        · exact h
        · split
          · exact h
          · have tracks := h.tracks skillId
            obtain ⟨isEntry, there⟩ := Player.active_eq_some_iff.mp found
            rw [isEntry] at tracks
            apply h.write rfl rfl nonzero
            · exact (h.line skillId data found).2
            · rfl
            · exact .inl ⟨data, found, rfl⟩
            · exact tracks.markChanged there

end

/-! ### A save -/

def afterSave (c : Character) : Character :=
  ⟨c.player._SaveSkills.2, Statement.execAll c.rows c.player._SaveSkills.1⟩

lemma lookup_afterSave (c : Character) (id : UInt16) :
    c.afterSave.player.mSkillStatus.lookup id =
      (c.player.active id).map fun data => { data with uState := .UNCHANGED } := by
  rw [afterSave, Player._SaveSkills, Table.lookup_filterMap, Player.active]
  cases c.player.mSkillStatus.lookup id with
  | none => rfl
  | some data => cases state : data.uState <;> simp [state]

lemma active_afterSave (c : Character) (id : UInt16) :
    c.afterSave.player.active id =
      (c.player.active id).map fun data => { data with uState := .UNCHANGED } := by
  rw [Player.active, lookup_afterSave]
  cases c.player.active id with
  | none => rfl
  | some data => simp

lemma key_of_mem_saveStatements (p : Player) (id : UInt16) (data : SkillStatusData) :
    ∀ st ∈ p.saveStatements id data, st.key = id := by
  intro st member
  rw [Player.saveStatements] at member
  cases state : data.uState <;> simp_all [Statement.key]

lemma Sound.rows_afterSave (h : Sound c) (id : UInt16) :
    c.afterSave.rows.lookup id =
      (c.player.active id).map fun data => (c.player.slots data.pos).row := by
  have own := key_of_mem_saveStatements c.player
  have tracks := h.tracks id
  rw [afterSave, Player._SaveSkills]
  cases found : c.player.mSkillStatus.lookup id with
  | none =>
    rw [found] at tracks
    rw [Player.active, found, Statement.lookup_flush_of_none c.rows _ own]
    · exact tracks
    · rintro id' data there rfl
      rw [there] at found
      cases found
  | some data =>
    rw [found, Tracks] at tracks
    rw [Player.active, found, Statement.lookup_flush c.rows _ own found fun _ _ _ same => same]
    rw [Player.saveStatements]
    cases state : data.uState with
    | UNCHANGED =>
      simpa [Option.filter, state] using tracks
    | CHANGED =>
      rw [state] at tracks
      obtain ⟨row, isRow⟩ := Option.isSome_iff_exists.mp tracks
      simp [state, Statement.effect, isRow]
    | NEW =>
      rw [state] at tracks
      simp [state, Statement.effect, show c.rows.lookup id = none from tracks]
    | DELETED => simp [state, Statement.effect]

lemma Sound.afterSave (h : Sound c) : Sound c.afterSave where
  line id data found := by
    rw [active_afterSave] at found
    obtain ⟨before, isBefore, rfl⟩ := Option.map_eq_some_iff.mp found
    exact h.line id before isBefore
  owner pos used := by
    obtain ⟨data, found, isPos⟩ := h.owner pos used
    refine ⟨{ data with uState := .UNCHANGED }, ?_, isPos⟩
    rw [active_afterSave]
    exact Option.map_eq_some_iff.mpr ⟨data, found, rfl⟩
  tracks id := by
    rw [lookup_afterSave, h.rows_afterSave]
    cases c.player.active id with
    | none => rfl
    | some data => rfl

lemma Sound.step (h : Sound c) (a : Action) : Sound (c.step store a) := by
  cases a with
  | setSkill bonus id step newVal maxVal => exact h.setSkill bonus id step newVal maxVal
  | updateSkillPro roll skillId chance step => exact h.updateSkillPro roll skillId chance step
  | saveSkills => exact h.afterSave

/-- The slots of the skills after every run, and the rows after a save that follows it -/
theorem skill_slots (store : UInt16 → Option SkillLineEntry) (as : List Action) :
    let c := run (step store) created as
    let saved := c.step store .saveSkills
    (∀ id id' data data', c.player.active id = some data → c.player.active id' = some data' →
        data.pos = data'.pos → id = id') ∧
      (∀ id data, c.player.active id = some data → (c.player.slots data.pos).lineId = id) ∧
      (∀ pos, (c.player.slots pos).lineId ≠ 0 →
        ∃! id, ∃ data, c.player.active id = some data ∧ data.pos = pos) ∧
      ∀ id, saved.rows.lookup id =
        (saved.player.active id).map fun data => (saved.player.slots data.pos).row := by
  intro c saved
  have sound : Sound c := run_keeps Sound (fun _ a h => h.step a) sound_created as
  refine ⟨?_, ?_, ?_, ?_⟩
  · intro id id' data data' found found' same
    exact sound.pos_injective found found' same
  · intro id data found
    exact (sound.line id data found).2
  · intro pos used
    obtain ⟨data, found, isPos⟩ := sound.owner pos used
    refine ⟨_, ⟨data, found, isPos⟩, ?_⟩
    rintro id ⟨data', found', isPos'⟩
    exact sound.pos_injective found' found (isPos'.trans isPos.symm)
  · intro id
    have rows := sound.rows_afterSave id
    have active := active_afterSave c id
    rw [show saved.rows = c.afterSave.rows from rfl, rows]
    rw [show saved.player.active id = c.afterSave.player.active id from rfl, active, Option.map_map]
    rfl

end Character

end WorldServer.Skills
