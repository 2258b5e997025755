import WorldServer.Lib.Run
import WorldServer.Lib.Statements

/-!
# The skills of a player

The client sees the skills of a player in 128 slots. A map beside the slots says in which slot a
skill is and what became of it since the last save. A skill that was saved and is removed stays in
the map until the next save.
-/
namespace WorldServer.Skills

open WorldServer.Lib

def PLAYER_MAX_SKILLS : ℕ := 128

def SKILL_CATEGORY_PROFESSION : UInt32 := 11

structure SkillLineEntry where
  CategoryID : UInt32

inductive SkillUpdateState where
  | UNCHANGED
  | CHANGED
  | NEW
  | DELETED
deriving DecidableEq, Repr

structure SkillStatusData where
  pos : Fin PLAYER_MAX_SKILLS
  uState : SkillUpdateState
deriving DecidableEq, Repr

/-- The fields of one slot. The source keeps each of them in an array of its own, with two slots
in a word. -/
structure SkillSlot where
  lineId : UInt16
  step : UInt16
  rank : UInt16
  maxRank : UInt16
  modifier : UInt16
  talent : UInt16
deriving DecidableEq, Repr

structure SkillRow where
  value : UInt16
  max : UInt16
deriving DecidableEq, Repr

def SkillSlot.cleared : SkillSlot := ⟨0, 0, 0, 0, 0, 0⟩

def SkillSlot.row (slot : SkillSlot) : SkillRow := ⟨slot.rank, slot.maxRank⟩

structure Player where
  mSkillStatus : Table UInt16 SkillStatusData
  slots : Fin PLAYER_MAX_SKILLS → SkillSlot
  /-- `PLAYER_FIELD_PROFESSION_SKILL_LINE` and the field after it -/
  professions : UInt32 × UInt32

namespace Player

variable (p : Player)

def created : Player := ⟨∅, fun _ => .cleared, (0, 0)⟩

def active (id : UInt16) : Option SkillStatusData :=
  (p.mSkillStatus.lookup id).filter fun data => data.uState ≠ .DELETED

def setSlot (pos : Fin PLAYER_MAX_SKILLS) (slot : SkillSlot) : Player :=
  { p with slots := Function.update p.slots pos slot }

def setStatus (id : UInt16) (data : SkillStatusData) : Player :=
  { p with mSkillStatus := p.mSkillStatus.insert id data }

def freeSlot : Option (Fin PLAYER_MAX_SKILLS) :=
  (List.finRange PLAYER_MAX_SKILLS).find? fun pos => (p.slots pos).lineId = 0

def markChanged (data : SkillStatusData) : SkillStatusData :=
  { data with uState := if data.uState = .NEW then .NEW else .CHANGED }

/-- A profession takes the first of the two fields that is free. -/
def addProfession (id : UInt16) (entry : SkillLineEntry) : Player :=
  if entry.CategoryID = SKILL_CATEGORY_PROFESSION then
    if p.professions.1 = 0 then { p with professions := (id.toUInt32, p.professions.2) }
    else if p.professions.2 = 0 then { p with professions := (p.professions.1, id.toUInt32) }
    else p
  else p

def clearProfession (id : UInt16) : Player :=
  if p.professions.1 = id.toUInt32 then { p with professions := (0, p.professions.2) }
  else if p.professions.2 = id.toUInt32 then { p with professions := (p.professions.1, 0) }
  else p

@[simp] lemma addProfession_mSkillStatus (id : UInt16) (entry : SkillLineEntry) :
    (p.addProfession id entry).mSkillStatus = p.mSkillStatus := by
  rw [addProfession]
  split
  · split
    · rfl
    · split <;> rfl
  · rfl

@[simp] lemma addProfession_slots (id : UInt16) (entry : SkillLineEntry) :
    (p.addProfession id entry).slots = p.slots := by
  rw [addProfession]
  split
  · split
    · rfl
    · split <;> rfl
  · rfl

@[simp] lemma clearProfession_mSkillStatus (id : UInt16) :
    (p.clearProfession id).mSkillStatus = p.mSkillStatus := by
  rw [clearProfession]
  split
  · rfl
  · split <;> rfl

@[simp] lemma clearProfession_slots (id : UInt16) :
    (p.clearProfession id).slots = p.slots := by
  rw [clearProfession]
  split
  · rfl
  · split <;> rfl

/-! ### The branches of `SetSkill`

The spells that a skill teaches, and those that go with it, set skills again. These calls come after
all that a branch writes here, and so they are calls of their own in a run. -/

def changeSkill (id step newVal maxVal : UInt16) (data : SkillStatusData) : Player :=
  (p.setSlot data.pos { p.slots data.pos with step := step, rank := newVal, maxRank := maxVal }
    ).setStatus id (markChanged data)

def removeSkill (id : UInt16) (data : SkillStatusData) : Player :=
  let cleared := p.setSlot data.pos .cleared
  -- an entry that was never saved is removed at once
  let marked :=
    if data.uState = .NEW then { cleared with mSkillStatus := p.mSkillStatus.erase id }
    else cleared.setStatus id { data with uState := .DELETED }
  marked.clearProfession id

/-- The skill gets a slot. An old entry that is deleted but not saved yet has a row. -/
def addSkill (id step newVal maxVal : UInt16) (bonus : UInt16 × UInt16)
    (pos : Fin PLAYER_MAX_SKILLS) (entry : SkillLineEntry) : Player :=
  ((p.setSlot pos ⟨id, step, newVal, maxVal, bonus.1, bonus.2⟩).addProfession id entry).setStatus id
    ⟨pos, if p.mSkillStatus.lookup id = none then .NEW else .CHANGED⟩

/-- The auras that raise a skill are a parameter: the temporary and the permanent bonus of the
skill that is set. -/
def SetSkill (store : UInt16 → Option SkillLineEntry) (bonus : UInt16 × UInt16)
    (id step newVal maxVal : UInt16) : Player :=
  if id = 0 then p
  else
    match p.active id with
    | some data =>
      if newVal ≠ 0 then p.changeSkill id step newVal maxVal data else p.removeSkill id data
    | none =>
      if newVal ≠ 0 then
        match p.freeSlot with
        | none => p
        | some pos =>
          match store id with
          | none => p
          | some entry => p.addSkill id step newVal maxVal bonus pos entry
      else p

def UpdateSkillPro (roll : Int32) (skillId : UInt16) (chance : Int32) (step : UInt32) :
    Player × Bool :=
  if skillId = 0 then (p, false)
  else if chance ≤ 0 then (p, false)
  else
    match p.active skillId with
    | none => (p, false)
    | some data =>
      let slot := p.slots data.pos
      if slot.maxRank = 0 ∨ slot.rank = 0 ∨ slot.maxRank ≤ slot.rank then (p, false)
      else if roll > chance then (p, false)
      else
        let new_value := (slot.rank.toUInt32 + step).toUInt16
        let new_value := if new_value > slot.maxRank then slot.maxRank else new_value
        ((p.setSlot data.pos { slot with rank := new_value }).setStatus skillId (markChanged data),
          true)

def saveStatements (id : UInt16) (data : SkillStatusData) : List (Statement UInt16 SkillRow) :=
  match data.uState with
  | .UNCHANGED => []
  | .DELETED => [.delete id]
  | .NEW => [.insert id (p.slots data.pos).row]
  | .CHANGED => [.update id (p.slots data.pos).row]

def _SaveSkills : List (Statement UInt16 SkillRow) × Player :=
  (Statement.flush p.mSkillStatus p.saveStatements,
    { p with
      mSkillStatus := p.mSkillStatus.filterMap fun _ data =>
        if data.uState = .DELETED then none else some { data with uState := .UNCHANGED } })

end Player

structure Character where
  player : Player
  rows : Table UInt16 SkillRow

inductive Action where
  | setSkill (bonus : UInt16 × UInt16) (id step newVal maxVal : UInt16)
  | updateSkillPro (roll : Int32) (skillId : UInt16) (chance : Int32) (step : UInt32)
  | saveSkills

namespace Character

def created : Character := ⟨.created, ∅⟩

def step (store : UInt16 → Option SkillLineEntry) (c : Character) : Action → Character
  | .setSkill bonus id step newVal maxVal =>
    { c with player := c.player.SetSkill store bonus id step newVal maxVal }
  | .updateSkillPro roll skillId chance step =>
    { c with player := (c.player.UpdateSkillPro roll skillId chance step).1 }
  | .saveSkills =>
    let saved := c.player._SaveSkills
    ⟨saved.2, Statement.execAll c.rows saved.1⟩

end Character

end WorldServer.Skills
