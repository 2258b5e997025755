import WorldServer.Conditions.Conditions
import WorldServer.Lib.Alternatives

/-!
# Loading and evaluating conditions

A row of the database is a condition or refers to a template, a list of rows that is stored under
its own number. The rows of a list belong to groups that are alternatives of each other. A row that
refers to its own template is refused when the conditions are loaded; nothing else keeps templates
from referring to each other in a circle.
-/
namespace WorldServer.Conditions

open WorldServer.Lib

abbrev ConditionList := List Condition

abbrev ConditionReferenceContainer := Table ℕ ConditionList

/-! ### Evaluation -/

/-- The lattice of the answers, where both requirements meet and one of them joins. -/
instance answerLattice : Lattice Bool := Bool.instBooleanAlgebra.toDistribLattice.toLattice

section Evaluation

variable (store : ConditionReferenceContainer)

/-- The value of a condition, or of the list it refers to; a reference to a template that is not
there has the value `missing`. -/
def Condition.valueWith {β : Type} (missing : Option β) (evaluate : ConditionList → Option β)
    (normal : Condition → Option β) (c : Condition) : Option β :=
  if c.ReferenceId ≠ 0 then
    match store.lookup c.ReferenceId with
    | some conditions => evaluate conditions
    | none => missing
  else normal c

/-- Whether a group still passes after a condition of it: a missing template is passed over. -/
def passes (meets : Condition → Bool) (evaluate : ConditionList → Option Bool) (c : Condition) :
    Option Bool :=
  c.valueWith store (some true) evaluate fun c => some (meets c)

def IsObjectMeetToConditionList (meets : Condition → Bool) : ℕ → ConditionList → Option Bool
  | 0, _ => none
  | depth + 1, conditions =>
    Alternatives.answer Condition.ElseGroup
      (passes store meets (IsObjectMeetToConditionList meets depth))
      (conditions.filter Condition.isLoaded)

def IsObjectMeetToConditions (meets : Condition → Bool) (depth : ℕ) (conditions : ConditionList) :
    Option Bool :=
  if conditions = [] then some true else IsObjectMeetToConditionList store meets depth conditions

end Evaluation

/-! ### Loading -/

structure Row where
  iSourceTypeOrReferenceId : ℤ
  SourceGroup : ℕ
  SourceEntry : ℤ
  SourceId : ℕ
  ElseGroup : ℕ
  iConditionTypeOrReference : ℤ
  ConditionTarget : ℕ
  ConditionValue1 : ℕ
  ConditionValue2 : ℕ
  ConditionValue3 : ℕ
  NegativeCondition : Bool
  ScriptId : ℕ

/-- What the validity of a condition depends on: what there is in the world, and that the source of
the condition exists. -/
structure Stores where
  spell : ℕ → Bool
  item : ℕ → Bool
  zone : ℕ → Bool
  faction : ℕ → Bool
  skill : ℕ → Bool
  maxSkillValue : ℕ
  quest : ℕ → Bool
  event : ℕ → Bool
  achievement : ℕ → Bool
  map : ℕ → Bool
  creature : ℕ → Bool
  gameObject : ℕ → Bool
  worldState : ℕ → ℕ
  title : ℕ → Bool
  isSourceTypeValid : Condition → Bool
  /-- A group is one of loot, of a gossip menu, of effects of a spell and so on. -/
  addToGroup : Condition → Bool

def ALLIANCE : ℕ := 469
def HORDE : ℕ := 67
def CLASSMASK_ALL_PLAYABLE : ℕ := 0x7FF
def RACEMASK_ALL_PLAYABLE : ℕ := 0x3A007FF
def DRUNKEN_SMASHED : ℕ := 3
def RELATION_MAX : ℕ := 6
def SPAWNMASK_RAID_ALL : ℕ := 0x3F
def UNIT_STATE_ALL_STATE : ℕ := 0xFFFFFFFF
def CREATURE_TYPE_GAS_CLOUD : ℕ := 13

namespace Condition

def GetMaxAvailableConditionTargets (c : Condition) : ℕ :=
  if c.SourceType ∈ [17, 13, 16, 21, 18, 14, 15, 22, 23, 24] then 2 else 1

def valuesValid (stores : Stores) (c : Condition) : Bool :=
  let v1 := c.ConditionValue1
  let v2 := c.ConditionValue2
  let v3 := c.ConditionValue3
  let otherTarget := v1 < c.GetMaxAvailableConditionTargets ∧ v1 ≠ c.ConditionTarget
  match c.ConditionType with
  | .aura => stores.spell v1 ∧ v2 ≤ 2
  | .item => stores.item v1 ∧ v2 ≠ 0
  | .itemEquipped => stores.item v1
  | .zoneId => stores.zone v1
  | .reputationRank => stores.faction v1
  | .team => v1 = ALLIANCE ∨ v1 = HORDE
  | .skill => stores.skill v1 ∧ 1 ≤ v2 ∧ v2 ≤ stores.maxSkillValue
  | .questRewarded | .questTaken | .questNone | .questComplete => stores.quest v1
  | .activeEvent => stores.event v1
  | .achievement => stores.achievement v1
  | .class => v1 &&& CLASSMASK_ALL_PLAYABLE ≠ 0
  | .race => v1 &&& RACEMASK_ALL_PLAYABLE ≠ 0
  | .gender => v1 % 256 ≤ 1
  | .mapId => stores.map v1
  | .spell => stores.spell v1
  | .level => v2 < COMP_TYPE_MAX
  | .drunkenState => v1 ≤ DRUNKEN_SMASHED ∧ v2 = 0
  | .nearCreature => stores.creature v1
  | .nearGameObject => stores.gameObject v1
  | .objectEntry =>
    (v1 = TYPEID_UNIT ∧ (v2 = 0 ∨ stores.creature v2)) ∨
      (v1 = TYPEID_GAMEOBJECT ∧ (v2 = 0 ∨ stores.gameObject v2)) ∨
      v1 = TYPEID_PLAYER ∨ v1 = TYPEID_CORPSE
  | .typeMask =>
    v1 ≠ 0 ∧
      v1 ||| (TYPEMASK_UNIT ||| TYPEMASK_PLAYER ||| TYPEMASK_GAMEOBJECT ||| TYPEMASK_CORPSE) =
        TYPEMASK_UNIT ||| TYPEMASK_PLAYER ||| TYPEMASK_GAMEOBJECT ||| TYPEMASK_CORPSE
  | .relationTo => otherTarget ∧ v2 < RELATION_MAX
  | .reactionTo => otherTarget ∧ v2 ≠ 0
  | .distanceTo => otherTarget ∧ v3 < COMP_TYPE_MAX
  | .hpVal => v2 < COMP_TYPE_MAX
  | .hpPct => v1 ≤ 100 ∧ v2 < COMP_TYPE_MAX
  | .worldState => stores.worldState v1 ≠ 0
  | .title => stores.title v1
  | .spawnMask => v1 ≤ SPAWNMASK_RAID_ALL
  | .unitState => v1 ≤ UNIT_STATE_ALL_STATE
  | .creatureType => v1 ≠ 0 ∧ v1 ≤ CREATURE_TYPE_GAS_CLOUD
  | .none | .instanceInfo | .areaId | .phaseMask | .alive => true

def isConditionTypeValid (stores : Stores) (c : Condition) : Bool :=
  c.ConditionType ≠ .none && c.ConditionTarget < c.GetMaxAvailableConditionTargets &&
    c.valuesValid stores

end Condition

def CanHaveSourceGroupSet (sourceType : ℕ) : Bool :=
  sourceType ∈ [1, 2, 3, 4, 5, 6, 7, 8, 9, 10, 11, 12, 14, 15, 21, 13, 18, 22, 25, 23]

def CanHaveSourceIdSet (sourceType : ℕ) : Bool := sourceType = 22

/-- What is loaded: the templates, and the conditions of all other sources. -/
structure ConditionMgr where
  ConditionReferenceStore : ConditionReferenceContainer
  conditions : ConditionList

def Row.condition (row : Row) : Option Condition :=
  let c : Condition :=
    { SourceType := if 0 ≤ row.iSourceTypeOrReferenceId then row.iSourceTypeOrReferenceId.toNat else 0
      SourceGroup := row.SourceGroup
      SourceEntry := row.SourceEntry
      SourceId := row.SourceId
      ElseGroup := row.ElseGroup
      ConditionType := .none
      ConditionValue1 := row.ConditionValue1
      ConditionValue2 := row.ConditionValue2
      ConditionValue3 := row.ConditionValue3
      ReferenceId := 0
      ScriptId := row.ScriptId
      ConditionTarget := row.ConditionTarget
      NegativeCondition := row.NegativeCondition }
  if row.iConditionTypeOrReference < 0 then
    some { c with ReferenceId := row.iConditionTypeOrReference.natAbs }
  else
    ConditionTypes.all[row.iConditionTypeOrReference.toNat]?.map fun type =>
      { c with ConditionType := type }

namespace ConditionMgr

variable (stores : Stores)

def addReference (mgr : ConditionMgr) (uRefId : ℕ) (cond : Condition) : ConditionMgr :=
  let conditions := (mgr.ConditionReferenceStore.lookup uRefId).getD []
  { mgr with
    ConditionReferenceStore := mgr.ConditionReferenceStore.insert uRefId (conditions ++ [cond]) }

def loadRow (mgr : ConditionMgr) (row : Row) : ConditionMgr :=
  match row.condition with
  | none => mgr
  | some cond =>
    let isReference := row.iConditionTypeOrReference < 0
    -- self referencing, skip
    if isReference ∧ row.iConditionTypeOrReference = row.iSourceTypeOrReferenceId then mgr
    else if ¬ isReference ∧ !cond.isConditionTypeValid stores then mgr
    else if row.iSourceTypeOrReferenceId < 0 then
      mgr.addReference row.iSourceTypeOrReferenceId.natAbs cond
    else if ¬ isReference ∧ !stores.isSourceTypeValid cond then mgr
    else if cond.SourceGroup ≠ 0 ∧ !CanHaveSourceGroupSet cond.SourceType then mgr
    else if cond.SourceId ≠ 0 ∧ !CanHaveSourceIdSet cond.SourceType then mgr
    else if cond.SourceGroup ≠ 0 ∧ !stores.addToGroup cond then mgr
    else { mgr with conditions := mgr.conditions ++ [cond] }

def LoadConditions (rows : List Row) : ConditionMgr := rows.foldl (loadRow stores) ⟨∅, []⟩

end ConditionMgr

end WorldServer.Conditions
