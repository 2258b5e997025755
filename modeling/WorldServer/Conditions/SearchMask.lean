import WorldServer.Conditions.Evaluation

/-!
# The mask of a search

A search for the targets of a spell looks at the kinds of objects only that can meet its conditions.
A mask is the set of these kinds. The mask of a condition says which kinds can meet the condition if
they are what it tests; a condition that tests the caster instead says nothing about the kind of the
target, but restricts the mask all the same.
-/
namespace WorldServer.Conditions

open WorldServer.Lib Relation

inductive GridMapType where
  | corpse
  | creature
  | dynamicObject
  | gameObject
  | player
  | areaTrigger
  deriving DecidableEq

instance : Fintype GridMapType where
  elems := {.corpse, .creature, .dynamicObject, .gameObject, .player, .areaTrigger}
  complete type := by cases type <;> decide

abbrev GridMapTypeMask := Finset GridMapType

def GRID_MAP_TYPE_MASK_ALL : GridMapTypeMask := Finset.univ

def WorldObject.gridMapType (object : WorldObject) : GridMapType :=
  match object.body with
  | .creature .. => .creature
  | .player .. => .player
  | .gameObject => .gameObject
  | .dynamicObject => .dynamicObject
  | .corpse => .corpse
  | .areaTrigger => .areaTrigger

namespace Condition

def objectEntryMask (typeId : ℕ) : GridMapTypeMask :=
  if typeId = TYPEID_UNIT then {.creature}
  else if typeId = TYPEID_PLAYER then {.player}
  else if typeId = TYPEID_GAMEOBJECT then {.gameObject}
  else if typeId = TYPEID_CORPSE then {.corpse}
  else if typeId = TYPEID_AREATRIGGER then {.areaTrigger}
  else ∅

def typeMaskMask (mask : ℕ) : GridMapTypeMask :=
  (if mask &&& TYPEMASK_UNIT ≠ 0 then {.creature, .player} else ∅) ∪
    (if mask &&& TYPEMASK_PLAYER ≠ 0 then {.player} else ∅) ∪
    (if mask &&& TYPEMASK_GAMEOBJECT ≠ 0 then {.gameObject} else ∅) ∪
    (if mask &&& TYPEMASK_CORPSE ≠ 0 then {.corpse} else ∅) ∪
    (if mask &&& TYPEMASK_AREATRIGGER ≠ 0 then {.areaTrigger} else ∅)

def GetSearcherTypeMaskForCondition (c : Condition) : GridMapTypeMask :=
  if c.NegativeCondition then GRID_MAP_TYPE_MASK_ALL
  else
    match c.ConditionType with
    | .none | .zoneId | .activeEvent | .instanceInfo | .mapId | .areaId | .nearCreature
    | .nearGameObject | .distanceTo | .worldState | .phaseMask | .spawnMask =>
      GRID_MAP_TYPE_MASK_ALL
    | .aura | .race | .level | .relationTo | .reactionTo | .alive | .hpVal | .hpPct | .unitState
    | .class => {.creature, .player}
    | .item | .itemEquipped | .reputationRank | .achievement | .team | .skill | .questRewarded
    | .questTaken | .questComplete | .questNone | .spell | .drunkenState | .title | .gender =>
      {.player}
    | .objectEntry => objectEntryMask c.ConditionValue1
    | .typeMask => typeMaskMask c.ConditionValue1
    | .creatureType => {.creature}

end Condition

section Masks

variable (store : ConditionReferenceContainer)

def maskWith (evaluate : ConditionList → Option GridMapTypeMask) (c : Condition) :
    Option GridMapTypeMask :=
  c.valueWith store none evaluate fun c => some c.GetSearcherTypeMaskForCondition

/-- The server stops when a condition of the list is not loaded, or when a template is missing. -/
def GetSearcherTypeMaskForConditionList : ℕ → ConditionList → Option GridMapTypeMask
  | 0, _ => none
  | depth + 1, conditions =>
    if conditions = [] then some GRID_MAP_TYPE_MASK_ALL
    else if ∃ c ∈ conditions, c.isLoaded = false then none
    else
      Alternatives.answer Condition.ElseGroup
        (maskWith store (GetSearcherTypeMaskForConditionList depth)) conditions

end Masks

/-! ### Conditions that restrict the target -/

def targetAndCaster (candidate caster : WorldObject) : ℕ → Option WorldObject
  | 0 => some candidate
  | 1 => some caster
  | _ => none

/-- The types of conditions that objects of every kind can meet. -/
def ConditionTypes.forAll : ConditionTypes → Bool
  | .none | .zoneId | .activeEvent | .instanceInfo | .mapId | .areaId | .nearCreature
  | .nearGameObject | .distanceTo | .worldState | .phaseMask | .spawnMask => true
  | _ => false

/-- The condition does not depend on the kind of an object, or it depends on the kind of the target.
A relation is between two units. No kind of object that is named may be one that has no mask. -/
def Condition.AboutTarget (c : Condition) : Prop :=
  c.NegativeCondition = true ∨ c.ConditionType.forAll = true ∨
    match c.ConditionType with
    | .relationTo | .reactionTo => c.ConditionTarget = 0 ∨ c.ConditionValue1 = 0
    | .objectEntry => c.ConditionTarget = 0 ∧ c.ConditionValue1 ≠ TYPEID_DYNAMICOBJECT
    | .typeMask =>
      c.ConditionTarget = 0 ∧ c.ConditionValue1 &&& (TYPEMASK_OBJECT ||| TYPEMASK_DYNAMICOBJECT) = 0
    | _ => c.ConditionTarget = 0

lemma creature_or_player {object : WorldObject} (unit : object.ToUnit.isSome) :
    object.gridMapType ∈ ({.creature, .player} : GridMapTypeMask) := by
  obtain ⟨_, _, _, _, _, _, _, _, _, _, _, body⟩ := object
  cases body <;> simp_all [WorldObject.ToUnit, WorldObject.gridMapType]

lemma player_of_toPlayer {object : WorldObject} (player : object.ToPlayer.isSome) :
    object.gridMapType ∈ ({.player} : GridMapTypeMask) := by
  obtain ⟨_, _, _, _, _, _, _, _, _, _, _, body⟩ := object
  cases body <;> simp_all [WorldObject.ToPlayer, WorldObject.gridMapType]

lemma creature_of_creatureType {object : WorldObject} (creature : object.creatureType.isSome) :
    object.gridMapType ∈ ({.creature} : GridMapTypeMask) := by
  obtain ⟨_, _, _, _, _, _, _, _, _, _, _, body⟩ := object
  cases body <;> simp_all [WorldObject.creatureType, WorldObject.gridMapType]

lemma mem_objectEntryMask {object : WorldObject}
    (known : object.GetTypeId ≠ TYPEID_DYNAMICOBJECT) :
    object.gridMapType ∈ Condition.objectEntryMask object.GetTypeId := by
  obtain ⟨_, _, _, _, _, _, _, _, _, _, _, body⟩ := object
  cases body with
  | dynamicObject => exact absurd rfl known
  | _ => simp only [WorldObject.GetTypeId, WorldObject.gridMapType]; decide

lemma mem_typeMaskMask {object : WorldObject} {mask : ℕ} (isType : object.isType mask = true)
    (known : mask &&& (TYPEMASK_OBJECT ||| TYPEMASK_DYNAMICOBJECT) = 0) :
    object.gridMapType ∈ Condition.typeMaskMask mask := by
  rw [Nat.and_or_distrib_left, Nat.or_eq_zero_iff] at known
  obtain ⟨noObject, noDynamicObject⟩ := known
  obtain ⟨_, _, _, _, _, _, _, _, _, _, _, body⟩ := object
  simp only [WorldObject.isType, WorldObject.m_objectType, Nat.and_or_distrib_left, noObject,
    Nat.zero_or, decide_eq_true_eq] at isType
  cases body with
  | dynamicObject => exact absurd noDynamicObject isType
  | player =>
    simp only [Nat.and_or_distrib_left, ne_eq, Nat.or_eq_zero_iff, not_and_or] at isType
    rcases isType with unit | player
    · simp [Condition.typeMaskMask, WorldObject.gridMapType, unit]
    · simp [Condition.typeMaskMask, WorldObject.gridMapType, player]
  | _ => simp [Condition.typeMaskMask, WorldObject.gridMapType, isType]

namespace Condition

variable {world : World} {targets : ℕ → Option WorldObject} {c : Condition} {object : WorldObject}

lemma mem_mask_of_test (positive : c.NegativeCondition = false)
    (met : c.test world targets object = true)
    (entry : c.ConditionType = .objectEntry → c.ConditionValue1 ≠ TYPEID_DYNAMICOBJECT)
    (mask : c.ConditionType = .typeMask →
      c.ConditionValue1 &&& (TYPEMASK_OBJECT ||| TYPEMASK_DYNAMICOBJECT) = 0) :
    object.gridMapType ∈ c.GetSearcherTypeMaskForCondition := by
  rw [GetSearcherTypeMaskForCondition, positive, if_neg Bool.false_ne_true]
  cases type : c.ConditionType with
  | none | zoneId | activeEvent | instanceInfo | mapId | areaId | nearCreature | nearGameObject
  | distanceTo | worldState | phaseMask | spawnMask => exact Finset.mem_univ _
  | aura | «class» | race | level | alive | hpVal | hpPct | unitState =>
    simp only [test, type] at met
    exact creature_or_player (Option.isSome_of_any met)
  | relationTo | reactionTo =>
    simp only [test, type] at met
    obtain ⟨toObject, -, met⟩ := (Option.any_eq_true _ _).mp met
    exact creature_or_player (Option.isSome_of_any (Bool.and_eq_true_iff.mp met).2)
  | item | itemEquipped | reputationRank | achievement | team | skill | questRewarded | questTaken
  | questComplete | questNone | spell | drunkenState | title | gender =>
    simp only [test, type] at met
    exact player_of_toPlayer (Option.isSome_of_any met)
  | objectEntry =>
    simp only [test, type, Bool.and_eq_true_iff, decide_eq_true_eq] at met
    have known := entry type
    rw [← met.1] at known ⊢
    exact mem_objectEntryMask known
  | typeMask =>
    simp only [test, type] at met
    exact mem_typeMaskMask met (mask type)
  | creatureType =>
    simp only [test, type] at met
    exact creature_of_creatureType (Option.isSome_of_any met)

lemma meets_iff (positive : c.NegativeCondition = false) :
    c.Meets world targets = true ↔ ∃ object, targets c.ConditionTarget = some object ∧
      c.test world targets object = true ∧ world.OnConditionCheck c targets = true := by
  rw [Meets]
  cases here : targets c.ConditionTarget with
  | none => simp
  | some object => simp [positive]

lemma mem_mask_of_meets {candidate caster : WorldObject} (about : c.AboutTarget)
    (met : c.Meets world (targetAndCaster candidate caster) = true) :
    candidate.gridMapType ∈ c.GetSearcherTypeMaskForCondition := by
  by_cases negative : c.NegativeCondition = true
  · rw [GetSearcherTypeMaskForCondition, if_pos negative]
    exact Finset.mem_univ _
  have positive : c.NegativeCondition = false := Bool.eq_false_of_not_eq_true negative
  -- what is tested is there and passes the test
  obtain ⟨object, here, test, -⟩ := (meets_iff positive).mp met
  have target : c.ConditionTarget = 0 → object = candidate := by
    intro zero
    rw [zero] at here
    exact (Option.some.inj here).symm
  rw [AboutTarget, or_iff_right negative] at about
  rcases about with forAll | about
  · rw [GetSearcherTypeMaskForCondition, if_neg negative]
    cases type : c.ConditionType <;> simp_all [ConditionTypes.forAll, GRID_MAP_TYPE_MASK_ALL]
  cases type : c.ConditionType with
  | objectEntry =>
    rw [type] at about
    rw [← target about.1]
    exact mem_mask_of_test positive test (fun _ => about.2) (by simp [type])
  | typeMask =>
    rw [type] at about
    rw [← target about.1]
    exact mem_mask_of_test positive test (by simp [type]) (fun _ => about.2)
  | relationTo | reactionTo =>
    rw [type] at about
    rcases about with zero | zero
    · rw [← target zero]
      exact mem_mask_of_test positive test (by simp [type]) (by simp [type])
    · -- the other side of the relation is the target
      simp only [Condition.test, type, zero, targetAndCaster, Option.any_some,
        Bool.and_eq_true_iff] at test
      rw [GetSearcherTypeMaskForCondition, if_neg negative, type]
      exact creature_or_player test.1
  | _ =>
    rw [type] at about
    rw [← target about]
    exact mem_mask_of_test positive test (by simp [type]) (by simp [type])

end Condition

/-! ### Lists -/

variable {store : ConditionReferenceContainer} {conditions : ConditionList}

lemma deepening_mask : Deepening (GetSearcherTypeMaskForConditionList store) := by
  intro depth
  induction depth with
  | zero => simp [GetSearcherTypeMaskForConditionList]
  | succ depth ih =>
    intro conditions b value
    rw [GetSearcherTypeMaskForConditionList] at value ⊢
    split at value
    · next empty => rwa [if_pos empty]
    next listed =>
      split at value
      · exact absurd value (Option.some_ne_none b).symm
      · next loaded =>
        rw [if_neg listed, if_neg loaded]
        exact Alternatives.answer_mono (fun c b => Condition.valueWith_mono ih) value

lemma prime_mem (type : GridMapType) : Alternatives.Prime fun mask : GridMapTypeMask =>
    type ∈ mask where
  top := Finset.mem_univ type
  bot := Finset.notMem_empty type
  inf _ _ := Finset.mem_inter
  sup _ _ := Finset.mem_union

/-- The list and the lists that it leads to can be evaluated, and all their conditions are about the
target. -/
structure AboutTarget (store : ConditionReferenceContainer) (conditions : ConditionList) :
    Prop where
  grounded : Grounded store conditions
  complete : Complete store conditions
  loaded : ∀ conditions', LeadsTo store conditions conditions' →
    ∀ c ∈ conditions', c.isLoaded = true
  about : ∀ conditions', LeadsTo store conditions conditions' →
    ∀ c ∈ conditions', c.ReferenceId = 0 → c.AboutTarget

lemma AboutTarget.of_refersTo {conditions' : ConditionList} (about : AboutTarget store conditions)
    (refers : RefersTo store conditions conditions') : AboutTarget store conditions' where
  grounded := about.grounded.inv refers
  complete conditions₁ leads := about.complete conditions₁ (.head refers leads)
  loaded conditions₁ leads := about.loaded conditions₁ (.head refers leads)
  about conditions₁ leads := about.about conditions₁ (.head refers leads)

lemma mask_of_cons {depth : ℕ} (listed : conditions ≠ [])
    (loaded : ∀ c ∈ conditions, c.isLoaded = true) :
    GetSearcherTypeMaskForConditionList store (depth + 1) conditions =
      Alternatives.answer Condition.ElseGroup
        (maskWith store (GetSearcherTypeMaskForConditionList store depth)) conditions := by
  have allLoaded : ¬ ∃ c ∈ conditions, c.isLoaded = false := by
    rintro ⟨c, hm, notLoaded⟩
    exact absurd (loaded c hm) (by simp [notLoaded])
  rw [GetSearcherTypeMaskForConditionList, if_neg listed, if_neg allLoaded]

lemma AboutTarget.exists_mask (about : AboutTarget store conditions) :
    ∃ mask depth, GetSearcherTypeMaskForConditionList store depth conditions = some mask := by
  have grounded := about.grounded
  induction grounded with
  | intro conditions _ ih =>
    by_cases listed : conditions = []
    · exact ⟨GRID_MAP_TYPE_MASK_ALL, 1, by simp [GetSearcherTypeMaskForConditionList, listed]⟩
    have stored : ∀ c ∈ conditions, c.ReferenceId ≠ 0 → store.lookup c.ReferenceId = none →
        (none : Option GridMapTypeMask).isSome := by
      intro c hm reference missing
      have there := about.complete conditions .refl c hm reference
      rw [missing] at there
      exact there
    have enough : ∃ depth, ∀ c ∈ conditions,
        (maskWith store (GetSearcherTypeMaskForConditionList store depth) c).isSome :=
      deepening_mask.exists_depth stored (fun _ => rfl) fun conditions' refers =>
        ih conditions' refers (about.of_refersTo refers)
    obtain ⟨depth, values⟩ := enough
    have answered : (GetSearcherTypeMaskForConditionList store (depth + 1) conditions).isSome := by
      rw [mask_of_cons listed (about.loaded conditions .refl)]
      exact Alternatives.answer_isSome values
    obtain ⟨mask, value⟩ := Option.isSome_iff_exists.mp answered
    exact ⟨mask, depth + 1, value⟩

section Target

variable {world : World} {candidate caster : WorldObject}

lemma AboutTarget.mem_mask (about : AboutTarget store conditions) {depth : ℕ}
    {mask : GridMapTypeMask}
    (value : GetSearcherTypeMaskForConditionList store depth conditions = some mask)
    (met : Evaluates store (Condition.Meets world (targetAndCaster candidate caster)) conditions
      true) : candidate.gridMapType ∈ mask := by
  have grounded := about.grounded
  induction grounded generalizing depth mask with
  | intro conditions _ ih =>
    obtain ⟨g, ⟨c₀, hm₀, hs₀⟩, counts⟩ := (evaluates_true_iff ⟨true, met⟩).mp met
    have listed : conditions ≠ [] := by
      rintro rfl
      simp at hm₀
    have loaded := about.loaded conditions .refl
    rw [List.filter_eq_self.mpr loaded] at hm₀ counts
    cases depth with
    | zero => exact absurd value (by simp [GetSearcherTypeMaskForConditionList])
    | succ depth =>
      rw [mask_of_cons listed loaded] at value
      -- what the mask of a condition says, to whatever depth it is evaluated
      let V (c : Condition) : Prop := ∃ depth mask,
        maskWith store (GetSearcherTypeMaskForConditionList store depth) c = some mask ∧
          candidate.gridMapType ∈ mask
      have means : ∀ c ∈ conditions, ∀ mask,
          maskWith store (GetSearcherTypeMaskForConditionList store depth) c = some mask →
            (candidate.gridMapType ∈ mask ↔ V c) := by
        intro c _ mask here
        constructor
        · exact fun inMask => ⟨depth, mask, here, inMask⟩
        · rintro ⟨depth', mask', here', inMask⟩
          rwa [deepening_mask.valueWith_unique here here']
      refine ((prime_mem candidate.gridMapType).answer_iff means value).mpr
        ⟨g, ⟨c₀, hm₀, hs₀⟩, fun c hm hs => ?_⟩
      have counted := counts c hm hs
      by_cases reference : c.ReferenceId ≠ 0
      · obtain ⟨conditions', hf⟩ := Option.isSome_iff_exists.mp
          (about.complete conditions .refl c hm reference)
        have refers : RefersTo store conditions conditions' := ⟨c, hm, reference, hf⟩
        obtain ⟨mask', depth', value'⟩ := (about.of_refersTo refers).exists_mask
        refine ⟨depth', mask', by simpa [maskWith, Condition.valueWith, reference, hf], ?_⟩
        exact ih conditions' refers (about.of_refersTo refers) value'
          ((counts_reference_iff reference hf).mp counted)
      · have normal : c.ReferenceId = 0 := not_not.mp reference
        have cMet := (counts_normal_iff normal).mp counted
        refine ⟨0, c.GetSearcherTypeMaskForCondition, ?_, ?_⟩
        · simp [maskWith, Condition.valueWith, normal]
        · exact Condition.mem_mask_of_meets (about.about conditions .refl c hm normal) cMet

end Target

def MaskSound (store : ConditionReferenceContainer) (conditions : ConditionList) : Prop :=
  ∀ world candidate caster,
    (∃ depth, IsObjectMeetToConditions store
      (Condition.Meets world (targetAndCaster candidate caster)) depth conditions = some true) →
    ∃ mask depth, GetSearcherTypeMaskForConditionList store depth conditions = some mask ∧
      candidate.gridMapType ∈ mask

lemma maskSound_of_aboutTarget (about : AboutTarget store conditions) :
    MaskSound store conditions := by
  rintro world candidate caster ⟨depth, met⟩
  obtain ⟨mask, depth', value⟩ := about.exists_mask
  refine ⟨mask, depth', value, ?_⟩
  by_cases listed : conditions = []
  · cases depth' with
    | zero => exact absurd value (by simp [GetSearcherTypeMaskForConditionList])
    | succ depth' =>
      rw [GetSearcherTypeMaskForConditionList, if_pos listed] at value
      rw [← Option.some.inj value]
      exact Finset.mem_univ _
  · rw [IsObjectMeetToConditions, if_neg listed] at met
    exact about.mem_mask value ⟨depth, met⟩

/-! ### Lists of one condition -/

section Single

variable {c : Condition} {world : World} {candidate caster : WorldObject}

lemma grounded_single (normal : c.ReferenceId = 0) : Grounded store [c] := by
  refine Acc.intro _ ?_
  rintro conditions ⟨c', hm, reference, -⟩
  obtain rfl := List.mem_singleton.mp hm
  exact absurd normal reference

lemma evaluates_single_iff {meets : Condition → Bool} (normal : c.ReferenceId = 0)
    (loaded : c.isLoaded = true) : Evaluates store meets [c] true ↔ meets c = true := by
  rw [evaluates_true_iff (grounded_single normal).evaluates]
  simp [loaded, counts_normal_iff normal]

lemma mem_mask_single_iff (normal : c.ReferenceId = 0) (loaded : c.isLoaded = true) {depth : ℕ}
    {mask : GridMapTypeMask}
    (value : GetSearcherTypeMaskForConditionList store depth [c] = some mask)
    (type : GridMapType) : type ∈ mask ↔ type ∈ c.GetSearcherTypeMaskForCondition := by
  cases depth with
  | zero => exact absurd value (by simp [GetSearcherTypeMaskForConditionList])
  | succ depth =>
    rw [mask_of_cons (List.cons_ne_nil c []) (by simpa using loaded)] at value
    have means : ∀ c' ∈ [c], ∀ mask,
        maskWith store (GetSearcherTypeMaskForConditionList store depth) c' = some mask →
          (type ∈ mask ↔ type ∈ c'.GetSearcherTypeMaskForCondition) := by
      intro c' hm mask here
      obtain rfl := List.mem_singleton.mp hm
      simp only [maskWith, Condition.valueWith, normal, ne_eq, not_true_eq_false, if_false] at here
      rw [Option.some.inj here]
    rw [(prime_mem type).answer_iff means value]
    simp

lemma dynamicObject_notMem (positive : c.NegativeCondition = false)
    (restricted : c.ConditionType.forAll = false) :
    GridMapType.dynamicObject ∉ c.GetSearcherTypeMaskForCondition := by
  have entry (typeId : ℕ) : GridMapType.dynamicObject ∉ Condition.objectEntryMask typeId := by
    unfold Condition.objectEntryMask
    repeat' split
    all_goals decide
  have types (mask : ℕ) : GridMapType.dynamicObject ∉ Condition.typeMaskMask mask := by
    simp only [Condition.typeMaskMask, Finset.mem_union, not_or]
    refine ⟨⟨⟨⟨?_, ?_⟩, ?_⟩, ?_⟩, ?_⟩
    all_goals split <;> decide
  rw [Condition.GetSearcherTypeMaskForCondition, positive, if_neg Bool.false_ne_true]
  cases type : c.ConditionType <;> simp_all [ConditionTypes.forAll]

def WorldObject.asDynamic (object : WorldObject) : WorldObject := { object with body := .dynamicObject }

def World.permissive (world : World) : World := { world with OnConditionCheck := fun _ _ => true }

/-- A test of the caster does not depend on the target, unless it is about the relation of both. -/
lemma test_caster (restricted : c.ConditionType.forAll = false)
    (relation : c.ConditionType = .relationTo ∨ c.ConditionType = .reactionTo →
      c.ConditionValue1 ≠ 0) :
    c.test world.permissive (targetAndCaster candidate.asDynamic caster) caster =
      c.test world (targetAndCaster candidate caster) caster := by
  have hs : ∀ v, v ≠ 0 → targetAndCaster candidate.asDynamic caster v =
      targetAndCaster candidate caster v := by
    intro v other
    match v with
    | 0 => exact absurd rfl other
    | 1 | _ + 2 => rfl
  cases type : c.ConditionType with
  | relationTo | reactionTo => simp only [Condition.test, type, hs _ (relation (by simp [type]))]
  | distanceTo | worldState => simp [type, ConditionTypes.forAll] at restricted
  | _ => simp only [Condition.test, type, World.permissive]

lemma meets_asDynamic (other : ¬ c.AboutTarget)
    (met : c.Meets world (targetAndCaster candidate caster) = true) :
    c.Meets world.permissive (targetAndCaster candidate.asDynamic caster) = true := by
  simp only [Condition.AboutTarget, not_or] at other
  obtain ⟨negative, restricted, other⟩ := other
  have positive : c.NegativeCondition = false := Bool.eq_false_of_not_eq_true negative
  have restricted : c.ConditionType.forAll = false := Bool.eq_false_of_not_eq_true restricted
  obtain ⟨object, here, test, -⟩ := (Condition.meets_iff positive).mp met
  rw [Condition.meets_iff positive]
  match target : c.ConditionTarget with
  | 0 =>
    -- only the kinds of objects without a mask are left
    refine ⟨candidate.asDynamic, rfl, ?_, rfl⟩
    rw [target] at here
    obtain rfl : candidate = object := Option.some.inj here
    cases type : c.ConditionType with
    | objectEntry =>
      rw [type] at other
      have dynamic : c.ConditionValue1 = TYPEID_DYNAMICOBJECT :=
        not_not.mp fun known => other ⟨target, known⟩
      simp only [Condition.test, type, Bool.and_eq_true_iff] at test ⊢
      exact ⟨by simp [WorldObject.asDynamic, WorldObject.GetTypeId, dynamic], test.2⟩
    | typeMask =>
      rw [type] at other
      have dynamic : c.ConditionValue1 &&& (TYPEMASK_OBJECT ||| TYPEMASK_DYNAMICOBJECT) ≠ 0 :=
        fun known => other ⟨target, known⟩
      simp only [Condition.test, type]
      exact decide_eq_true dynamic
    | _ => simp_all [ConditionTypes.forAll]
  | 1 =>
    rw [target] at here
    obtain rfl : caster = object := Option.some.inj here
    refine ⟨caster, rfl, ?_, rfl⟩
    rw [test_caster restricted, test]
    rintro (type | type) <;> rw [type] at other <;> exact fun zero => other (.inr zero)
  | _ + 2 =>
    rw [target] at here
    exact absurd here.symm (Option.some_ne_none object)

/-- A list of one condition has the right mask if and only if the condition is about the target, or
nobody meets it. -/
lemma maskSound_single_iff (store : ConditionReferenceContainer) (normal : c.ReferenceId = 0)
    (loaded : c.isLoaded = true) : MaskSound store [c] ↔
      c.AboutTarget ∨ ∀ world candidate caster,
        c.Meets world (targetAndCaster candidate caster) = false := by
  have about (holds : c.AboutTarget) : AboutTarget store [c] := by
    have only : ∀ conditions', LeadsTo store [c] conditions' → conditions' = [c] := by
      intro conditions' leads
      rcases ReflTransGen.cases_head leads with hs | ⟨_, refers, -⟩
      · exact hs.symm
      · obtain ⟨c', hm, reference, -⟩ := refers
        obtain rfl := List.mem_singleton.mp hm
        exact absurd normal reference
    constructor
    · exact grounded_single normal
    · intro conditions' leads c' hm reference
      rw [only conditions' leads] at hm
      obtain rfl := List.mem_singleton.mp hm
      exact absurd normal reference
    · intro conditions' leads c' hm
      rw [only conditions' leads] at hm
      rwa [List.mem_singleton.mp hm]
    · intro conditions' leads c' hm _
      rw [only conditions' leads] at hm
      rwa [List.mem_singleton.mp hm]
  constructor
  · intro sound
    by_contra! failing
    obtain ⟨other, world, candidate, caster, met⟩ := failing
    have dynamic := meets_asDynamic other (by simpa using met)
    have evaluates : Evaluates store _ [c] true := (evaluates_single_iff normal loaded).mpr dynamic
    obtain ⟨depth, value⟩ := evaluates
    obtain ⟨mask, depth', mask', inMask⟩ := sound world.permissive candidate.asDynamic caster
      ⟨depth, by rwa [IsObjectMeetToConditions, if_neg (List.cons_ne_nil c [])]⟩
    rw [mem_mask_single_iff normal loaded mask'] at inMask
    simp only [Condition.AboutTarget, not_or] at other
    exact dynamicObject_notMem (Bool.eq_false_of_not_eq_true other.1)
      (Bool.eq_false_of_not_eq_true other.2.1) inMask
  · rintro (holds | nobody)
    · exact maskSound_of_aboutTarget (about holds)
    · rintro world candidate caster ⟨depth, met⟩
      have cMet := (evaluates_single_iff normal loaded).mp ⟨depth, met⟩
      exact absurd (nobody world candidate caster) (by simp [cMet])

end Single

/-- A condition in a template tests the target, and no kind of object without a mask. -/
lemma Row.Accepted.aboutTarget {stores : Stores} {row : Row} {c : Condition}
    (accepted : row.Accepted stores c) (normal : c.ReferenceId = 0) : c.AboutTarget := by
  have here := accepted.condition
  have noSource : ¬ 0 ≤ row.iSourceTypeOrReferenceId := not_le.mpr accepted.template
  rw [Row.condition, if_neg noSource] at here
  split at here
  · next reference =>
    rw [← Option.some.inj here] at normal
    simp only [Int.natAbs_eq_zero] at normal
    exact absurd normal reference.ne
  next noReference =>
    have valid := accepted.valid.resolve_left noReference
    obtain ⟨type, -, made⟩ := Option.map_eq_some_iff.mp here
    have one : c.GetMaxAvailableConditionTargets = 1 := by
      rw [← made]
      rfl
    simp only [Condition.isConditionTypeValid, Bool.and_eq_true_iff, decide_eq_true_eq, one] at valid
    obtain ⟨⟨-, target⟩, values⟩ := valid
    have target : c.ConditionTarget = 0 := Nat.lt_one_iff.mp target
    refine .inr (.inr ?_)
    cases type : c.ConditionType with
    | relationTo | reactionTo => exact .inl target
    | objectEntry =>
      simp only [Condition.valuesValid, type, decide_eq_true_eq] at values
      refine ⟨target, ?_⟩
      rcases values with ⟨kind, -⟩ | ⟨kind, -⟩ | kind | kind <;> rw [kind] <;> decide
    | typeMask =>
      simp only [Condition.valuesValid, type, decide_eq_true_eq] at values
      refine ⟨target, ?_⟩
      -- the mask is a part of one that has no such kind
      have none := congrArg (· &&& (TYPEMASK_OBJECT ||| TYPEMASK_DYNAMICOBJECT)) values.2
      simp only [Nat.and_or_distrib_right] at none
      exact (Nat.or_eq_zero_iff.mp none).1
    | _ => exact target

/-- In a list with loaded templates only the conditions of the list itself can restrict the mask for
the sake of the caster. -/
lemma aboutTarget_of_loaded (stores : Stores) (rows : List Row)
    (isStore : store = (ConditionMgr.LoadConditions stores rows).ConditionReferenceStore)
    (grounded : Grounded store conditions) (complete : Complete store conditions)
    (loaded : ∀ c ∈ conditions, c.isLoaded = true)
    (about : ∀ c ∈ conditions, c.ReferenceId = 0 → c.AboutTarget) :
    AboutTarget store conditions := by
  have accepted : ∀ conditions', LeadsTo store conditions conditions' →
      conditions' = conditions ∨ ∀ c ∈ conditions', ∃ row : Row, row.Accepted stores c := by
    intro conditions' leads
    rcases ReflTransGen.cases_tail leads with hs | ⟨_, -, _, _, _, hf⟩
    · exact .inl hs
    · rw [isStore] at hf
      exact .inr (templates_accepted stores rows hf).2
  constructor
  · exact grounded
  · exact complete
  · intro conditions' leads c hm
    rcases accepted conditions' leads with rfl | accepted
    · exact loaded c hm
    · obtain ⟨row, accepted⟩ := accepted c hm
      exact accepted.isLoaded
  · intro conditions' leads c hm normal
    rcases accepted conditions' leads with rfl | accepted
    · exact about c hm normal
    · obtain ⟨row, accepted⟩ := accepted c hm
      exact accepted.aboutTarget normal

/-! ### The result -/

/-- A list has the right mask if it can be evaluated and all its conditions are about the target;
where the templates are loaded ones, this is up to the conditions of the list itself. Of the lists of
one condition no other has the right mask, unless nobody meets the condition. -/
theorem maskSound_conditions (store : ConditionReferenceContainer) (conditions : ConditionList) :
    (AboutTarget store conditions → MaskSound store conditions) ∧
    (∀ stores rows, store = (ConditionMgr.LoadConditions stores rows).ConditionReferenceStore →
      Grounded store conditions → Complete store conditions →
      (∀ c ∈ conditions, c.isLoaded = true) →
      (∀ c ∈ conditions, c.ReferenceId = 0 → c.AboutTarget) → MaskSound store conditions) ∧
    ∀ c : Condition, c.ReferenceId = 0 → c.isLoaded = true →
      (MaskSound store [c] ↔ c.AboutTarget ∨ ∀ world candidate caster,
        c.Meets world (targetAndCaster candidate caster) = false) := by
  refine ⟨maskSound_of_aboutTarget, ?_, ?_⟩
  · intro stores rows isStore grounded complete loaded about
    exact maskSound_of_aboutTarget
      (aboutTarget_of_loaded stores rows isStore grounded complete loaded about)
  · exact fun c normal loaded => maskSound_single_iff store normal loaded

def casterLevel : Condition := ⟨13, 1, 100, 0, 0, .level, 80, 3, 0, 0, 0, 1, false⟩

def highLevel : Unit where
  HasAuraEffect _ _ := false
  getClassMask := 1
  getRaceMask := 1
  getLevel := 90
  IsAlive := true
  GetHealth := 100
  GetHealthPct := 100
  unitState := 0
  IsInPartyWith _ := false
  IsInRaidWith _ := false
  GetOwnerGUID := 0
  IsOnVehicle _ := false
  GetCreatorGUID := 0
  GetReactionTo _ := 3

/-- A condition for the caster takes all targets but units away. -/
theorem casterLevel_not_maskSound : ¬ MaskSound (∅ : ConditionReferenceContainer) [casterLevel] := by
  rw [maskSound_single_iff ∅ rfl rfl, not_or]
  constructor
  · simp [Condition.AboutTarget, casterLevel, ConditionTypes.forAll]
  · intro nobody
    let world : World := ⟨fun _ => true, fun _ => false, fun _ => 0, fun _ _ => true⟩
    let object (body : Body) : WorldObject :=
      ⟨1, 1, 1, 1, 1, 0, 1, none, fun _ _ => false, fun _ _ => false, fun _ => 0, body⟩
    have met : casterLevel.Meets world
        (targetAndCaster (object .gameObject) (object (.creature highLevel 1))) = true := rfl
    rw [nobody] at met
    exact Bool.false_ne_true met

end WorldServer.Conditions
