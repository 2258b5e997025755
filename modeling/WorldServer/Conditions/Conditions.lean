import Mathlib.Algebra.Order.Ring.Unbundled.Rat
import Mathlib.Data.Nat.Bitwise

/-!
# Conditions

A condition tests one of up to three objects: the object in question, or another one such as the
caster of a spell. Most tests are for units or for players only, and no other object meets them.
-/
namespace WorldServer.Conditions

inductive ConditionTypes where
  | none
  | aura
  | item
  | itemEquipped
  | zoneId
  | reputationRank
  | team
  | skill
  | questRewarded
  | questTaken
  | drunkenState
  | worldState
  | activeEvent
  | instanceInfo
  | questNone
  | class : ConditionTypes
  | race
  | achievement
  | title
  | spawnMask
  | gender
  | unitState
  | mapId
  | areaId
  | creatureType
  | spell
  | phaseMask
  | level
  | questComplete
  | nearCreature
  | nearGameObject
  | objectEntry
  | typeMask
  | relationTo
  | reactionTo
  | distanceTo
  | alive
  | hpVal
  | hpPct
  deriving DecidableEq

/-- The types in the order of their numbers, up to `CONDITION_MAX`. -/
def ConditionTypes.all : List ConditionTypes :=
  [.none, .aura, .item, .itemEquipped, .zoneId, .reputationRank, .team, .skill, .questRewarded,
    .questTaken, .drunkenState, .worldState, .activeEvent, .instanceInfo, .questNone, .class, .race,
    .achievement, .title, .spawnMask, .gender, .unitState, .mapId, .areaId, .creatureType, .spell,
    .phaseMask, .level, .questComplete, .nearCreature, .nearGameObject, .objectEntry, .typeMask,
    .relationTo, .reactionTo, .distanceTo, .alive, .hpVal, .hpPct]

structure Condition where
  SourceType : ℕ
  SourceGroup : ℕ
  SourceEntry : ℤ
  SourceId : ℕ
  ElseGroup : ℕ
  ConditionType : ConditionTypes
  ConditionValue1 : ℕ
  ConditionValue2 : ℕ
  ConditionValue3 : ℕ
  ReferenceId : ℕ
  ScriptId : ℕ
  ConditionTarget : ℕ
  NegativeCondition : Bool
  deriving DecidableEq

def Condition.isLoaded (c : Condition) : Bool := c.ConditionType ≠ .none ∨ c.ReferenceId ≠ 0

/-! ### Objects -/

def TYPEID_UNIT : ℕ := 3
def TYPEID_PLAYER : ℕ := 4
def TYPEID_GAMEOBJECT : ℕ := 5
def TYPEID_DYNAMICOBJECT : ℕ := 6
def TYPEID_CORPSE : ℕ := 7
def TYPEID_AREATRIGGER : ℕ := 8

def TYPEMASK_OBJECT : ℕ := 0x0001
def TYPEMASK_UNIT : ℕ := 0x0008
def TYPEMASK_PLAYER : ℕ := 0x0010
def TYPEMASK_GAMEOBJECT : ℕ := 0x0020
def TYPEMASK_DYNAMICOBJECT : ℕ := 0x0040
def TYPEMASK_CORPSE : ℕ := 0x0080
def TYPEMASK_AREATRIGGER : ℕ := 0x0100

inductive QuestStatus where
  | none
  | complete
  | incomplete
  | failed
  | rewarded
  deriving DecidableEq

structure InstanceScript where
  GetData : ℕ → ℕ
  GetData64 : ℕ → ℕ
  GetBossState : ℕ → ℕ

/-- What conditions read of a creature or a player. Other units go by their guids. -/
structure Unit where
  HasAuraEffect : ℕ → ℕ → Bool
  getClassMask : ℕ
  getRaceMask : ℕ
  getLevel : ℕ
  IsAlive : Bool
  GetHealth : ℕ
  GetHealthPct : ℚ
  unitState : ℕ
  IsInPartyWith : ℕ → Bool
  IsInRaidWith : ℕ → Bool
  GetOwnerGUID : ℕ
  IsOnVehicle : ℕ → Bool
  GetCreatorGUID : ℕ
  GetReactionTo : ℕ → ℕ

structure Player where
  HasItemCount : ℕ → ℕ → Bool → Bool
  HasItemOrGemWithIdEquipped : ℕ → ℕ → Bool
  GetRank : ℕ → ℕ
  HasAchieved : ℕ → Bool
  GetTeam : ℕ
  getGender : ℕ
  HasSkill : ℕ → Bool
  GetBaseSkillValue : ℕ → ℕ
  GetQuestStatus : ℕ → QuestStatus
  GetQuestRewardStatus : ℕ → Bool
  HasSpell : ℕ → Bool
  drunkenState : ℕ
  HasTitle : ℕ → Bool

/-- The kinds of objects that are searched for in the grid, with what is read of one kind only. -/
inductive Body where
  | creature (unit : Unit) (type : ℕ)
  | player (unit : Unit) (player : Player)
  | gameObject
  | dynamicObject
  | corpse
  | areaTrigger

structure WorldObject where
  GetGUID : ℕ
  GetEntry : ℕ
  GetZoneId : ℕ
  GetAreaId : ℕ
  GetMapId : ℕ
  GetSpawnMode : ℕ
  GetPhaseMask : ℕ
  GetInstanceScript : Option InstanceScript
  GetClosestCreatureWithEntry : ℕ → ℕ → Bool
  GetClosestGameObjectWithEntry : ℕ → ℕ → Bool
  GetDistance : ℕ → ℚ
  body : Body

namespace WorldObject

variable (object : WorldObject)

def ToUnit : Option Unit :=
  match object.body with
  | .creature unit _ | .player unit _ => some unit
  | _ => none

def ToPlayer : Option Player :=
  match object.body with
  | .player _ player => some player
  | _ => none

def creatureType : Option ℕ :=
  match object.body with
  | .creature _ type => some type
  | _ => none

def GetTypeId : ℕ :=
  match object.body with
  | .creature .. => TYPEID_UNIT
  | .player .. => TYPEID_PLAYER
  | .gameObject => TYPEID_GAMEOBJECT
  | .dynamicObject => TYPEID_DYNAMICOBJECT
  | .corpse => TYPEID_CORPSE
  | .areaTrigger => TYPEID_AREATRIGGER

def m_objectType : ℕ :=
  TYPEMASK_OBJECT ||| match object.body with
    | .creature .. => TYPEMASK_UNIT
    | .player .. => TYPEMASK_UNIT ||| TYPEMASK_PLAYER
    | .gameObject => TYPEMASK_GAMEOBJECT
    | .dynamicObject => TYPEMASK_DYNAMICOBJECT
    | .corpse => TYPEMASK_CORPSE
    | .areaTrigger => TYPEMASK_AREATRIGGER

def isType (mask : ℕ) : Bool := mask &&& object.m_objectType ≠ 0

end WorldObject

/-- What conditions read besides the objects. -/
structure World where
  factionExists : ℕ → Bool
  IsActiveEvent : ℕ → Bool
  getWorldState : ℕ → ℕ
  /-- Scripts may refuse what a condition lets pass; there are up to three objects. -/
  OnConditionCheck : Condition → (ℕ → Option WorldObject) → Bool

def COMP_TYPE_MAX : ℕ := 5

def CompareValues {α : Type} [LinearOrder α] (type : ℕ) (val1 val2 : α) : Bool :=
  match type with
  | 0 => val1 = val2
  | 1 => val2 < val1
  | 2 => val1 < val2
  | 3 => val2 ≤ val1
  | 4 => val1 ≤ val2
  | _ => false

def inRelation (unit : Unit) (guid toGuid relation : ℕ) : Bool :=
  match relation with
  | 0 => guid = toGuid
  | 1 => unit.IsInPartyWith toGuid
  | 2 => unit.IsInRaidWith toGuid
  | 3 => unit.GetOwnerGUID = toGuid
  | 4 => unit.IsOnVehicle toGuid
  | 5 => unit.GetCreatorGUID = toGuid
  | _ => false

namespace Condition

variable (world : World) (targets : ℕ → Option WorldObject) (c : Condition)

def instanceInfo (script : InstanceScript) : Bool :=
  match c.ConditionValue3 with
  | 0 => script.GetData c.ConditionValue1 = c.ConditionValue2
  | 1 => script.GetData64 c.ConditionValue1 = c.ConditionValue2
  | 2 => script.GetBossState c.ConditionValue1 = c.ConditionValue2
  | _ => false

def test (object : WorldObject) : Bool :=
  let ofUnit (test : Unit → Bool) := object.ToUnit.any test
  let ofPlayer (test : Player → Bool) := object.ToPlayer.any test
  let v1 := c.ConditionValue1
  let v2 := c.ConditionValue2
  match c.ConditionType with
  | .none => true
  | .aura => ofUnit fun unit => unit.HasAuraEffect v1 v2
  | .item => ofPlayer fun player => player.HasItemCount v1 v2 (c.ConditionValue3 ≠ 0)
  | .itemEquipped => ofPlayer fun player => player.HasItemOrGemWithIdEquipped v1 1
  | .zoneId => object.GetZoneId = v1
  | .reputationRank => ofPlayer fun player => world.factionExists v1 && v2.testBit (player.GetRank v1)
  | .achievement => ofPlayer fun player => player.HasAchieved v1
  | .team => ofPlayer fun player => player.GetTeam = v1
  | .class => ofUnit fun unit => unit.getClassMask &&& v1 ≠ 0
  | .race => ofUnit fun unit => unit.getRaceMask &&& v1 ≠ 0
  | .gender => ofPlayer fun player => player.getGender = v1
  | .skill => ofPlayer fun player => player.HasSkill v1 && v2 ≤ player.GetBaseSkillValue v1
  | .questRewarded => ofPlayer fun player => player.GetQuestRewardStatus v1
  | .questTaken => ofPlayer fun player => player.GetQuestStatus v1 = .incomplete
  | .questComplete => ofPlayer fun player =>
      player.GetQuestStatus v1 = .complete && !player.GetQuestRewardStatus v1
  | .questNone => ofPlayer fun player => player.GetQuestStatus v1 = .none
  | .activeEvent => world.IsActiveEvent v1
  | .instanceInfo => object.GetInstanceScript.any c.instanceInfo
  | .mapId => object.GetMapId = v1
  | .areaId => object.GetAreaId = v1
  | .spell => ofPlayer fun player => player.HasSpell v1
  | .level => ofUnit fun unit => CompareValues v2 unit.getLevel v1
  | .drunkenState => ofPlayer fun player => v1 ≤ player.drunkenState
  | .nearCreature => object.GetClosestCreatureWithEntry v1 v2
  | .nearGameObject => object.GetClosestGameObjectWithEntry v1 v2
  | .objectEntry => object.GetTypeId = v1 && (v2 = 0 || object.GetEntry = v2)
  | .typeMask => object.isType v1
  | .relationTo => (targets v1).any fun toObject =>
      toObject.ToUnit.isSome && ofUnit fun unit => inRelation unit object.GetGUID toObject.GetGUID v2
  | .reactionTo => (targets v1).any fun toObject =>
      toObject.ToUnit.isSome && ofUnit fun unit => v2.testBit (unit.GetReactionTo toObject.GetGUID)
  | .distanceTo => (targets v1).any fun toObject =>
      CompareValues c.ConditionValue3 (object.GetDistance toObject.GetGUID) (v2 : ℚ)
  | .alive => ofUnit fun unit => unit.IsAlive
  | .hpVal => ofUnit fun unit => CompareValues v2 unit.GetHealth v1
  | .hpPct => ofUnit fun unit => CompareValues v2 unit.GetHealthPct (v1 : ℚ)
  | .worldState => v2 = world.getWorldState v1
  | .phaseMask => object.GetPhaseMask &&& v1 ≠ 0
  | .title => ofPlayer fun player => player.HasTitle v1
  | .spawnMask => v1.testBit object.GetSpawnMode
  | .unitState => ofUnit fun unit => unit.unitState &&& v1 ≠ 0
  | .creatureType => object.creatureType.any fun type => type = v1

def Meets : Bool :=
  match targets c.ConditionTarget with
  | none => false
  | some object => (c.test world targets object ^^ c.NegativeCondition) && world.OnConditionCheck c targets

end Condition

end WorldServer.Conditions
