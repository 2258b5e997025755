import WorldServer.Lib.Statements

/-!
# Quest templates

What the quest functions read of a quest, and what the loader of the templates makes sure of.
-/
namespace WorldServer.Quests

open WorldServer.Lib

inductive QuestStatus where
  | none
  | complete
  | incomplete
  | failed
  | rewarded
deriving DecidableEq, Repr

inductive ObjectiveType where
  | npc
  | item
  | go
  | npcInteract
  | currency
  | spell
  | factionRep
  | factionRep2
  | money
  | player
  | dummy
  | petBattleTamer
  | petBattleElite
  | petBattlePvp
deriving DecidableEq, Repr

structure QuestObjective where
  Id : UInt32
  type : ObjectiveType
  ObjectId : UInt32
  Amount : Int32
deriving DecidableEq, Repr

def QuestObjective.tracked (o : QuestObjective) : Bool :=
  match o.type with
  | .currency | .spell | .factionRep | .factionRep2 | .money | .dummy => false
  | _ => true

def QuestObjective.required (o : QuestObjective) : UInt32 := o.Amount.toUInt32

def QUEST_FLAGS_TRACKING : UInt32 := 0x400
def QUEST_FLAGS_DAILY : UInt32 := 0x1000
def QUEST_FLAGS_WEEKLY : UInt32 := 0x8000
def QUEST_FLAGS_AUTOCOMPLETE : UInt32 := 0x10000

def QUEST_SPECIAL_FLAGS_REPEATABLE : UInt32 := 0x1
def QUEST_SPECIAL_FLAGS_EXPLORATION_OR_EVENT : UInt32 := 0x2
def QUEST_SPECIAL_FLAGS_DF_QUEST : UInt32 := 0x8
def QUEST_SPECIAL_FLAGS_MONTHLY : UInt32 := 0x10
def QUEST_SPECIAL_FLAGS_TIMED : UInt32 := 0x400

/-- Special, seasonal, lunar festival, midsummer, brewfest, love is in the air and noblegarden -/
def seasonalSorts : List Int32 := [-284, -22, -366, -369, -370, -376, -374]

/-- `RequiredSourceItemId` and the rewards are left out: what a quest gives and takes is an event of
its own. -/
structure Quest where
  Id : UInt32
  Method : UInt32 := 2
  ZoneOrSort : Int32 := 0
  Flags : UInt32 := 0
  SpecialFlags : UInt32 := 0
  LimitTime : UInt32 := 0
  m_questObjectives : List QuestObjective := []
deriving DecidableEq, Repr

namespace Quest

variable (quest : Quest)

def HasFlag (flag : UInt32) : Bool := quest.Flags &&& flag != 0

def HasSpecialFlag (flag : UInt32) : Bool := quest.SpecialFlags &&& flag != 0

def IsRepeatable : Bool := quest.HasSpecialFlag QUEST_SPECIAL_FLAGS_REPEATABLE

def IsDaily : Bool := quest.HasFlag QUEST_FLAGS_DAILY

def IsWeekly : Bool := quest.HasFlag QUEST_FLAGS_WEEKLY

def IsMonthly : Bool := quest.HasSpecialFlag QUEST_SPECIAL_FLAGS_MONTHLY

def IsDFQuest : Bool := quest.HasSpecialFlag QUEST_SPECIAL_FLAGS_DF_QUEST

def IsSeasonal : Bool := seasonalSorts.contains quest.ZoneOrSort && !quest.IsRepeatable

def GetQuestObjectiveCountType (type : ObjectiveType) : UInt8 :=
  (quest.m_questObjectives.countP fun o => o.type = type).toUInt8

/-- What `LoadQuests` makes of a row: a weekly quest is no daily quest, and a quest of a period is
repeatable. -/
def load : Quest :=
  let quest := if quest.IsDaily && quest.IsWeekly then { quest with Flags := quest.Flags &&& ~~~QUEST_FLAGS_DAILY }
    else quest
  if quest.IsDaily || quest.IsWeekly || quest.IsMonthly then
    { quest with SpecialFlags := quest.SpecialFlags ||| QUEST_SPECIAL_FLAGS_REPEATABLE }
  else quest

/-- A seasonal quest belongs to no other period. -/
structure Loaded : Prop where
  notBoth : quest.IsDaily = true → quest.IsWeekly = false
  repeatable : quest.IsDaily = true ∨ quest.IsWeekly = true ∨ quest.IsMonthly = true →
    quest.IsRepeatable = true

lemma loaded_load : quest.load.Loaded := by
  have setBit : ∀ a b : UInt32, (a ||| b) &&& b = b := by
    intro a b
    apply UInt32.eq_of_toBitVec_eq
    ext i
    simp +contextual
  have clearBit : ∀ a b : UInt32, a &&& ~~~b &&& b = 0 := by
    intro a b
    rw [UInt32.and_assoc, UInt32.not_and_self, UInt32.and_zero]
  have repeats : ∀ q : Quest, { q with
      SpecialFlags := q.SpecialFlags ||| QUEST_SPECIAL_FLAGS_REPEATABLE : Quest }.IsRepeatable := by
    intro q
    simp only [IsRepeatable, HasSpecialFlag, setBit]
    decide
  have second : ∀ q : Quest, (q.IsDaily = true → q.IsWeekly = false) →
      (if q.IsDaily || q.IsWeekly || q.IsMonthly then
        { q with SpecialFlags := q.SpecialFlags ||| QUEST_SPECIAL_FLAGS_REPEATABLE : Quest }
      else q).Loaded := by
    intro q notBoth
    split
    next => exact ⟨notBoth, fun _ => repeats q⟩
    next none =>
      refine ⟨notBoth, fun some => absurd ?_ none⟩
      simpa only [Bool.or_eq_true, or_assoc] using some
  apply second
  split
  next =>
    intro daily
    simp only [IsDaily, HasFlag, clearBit] at daily
    cases daily
  next notBoth => simpa using notBoth

end Quest

/-! ### The stores -/

/-- The quests, their objectives and the events they are linked to -/
structure ObjectMgr where
  GetQuestTemplate : UInt32 → Option Quest
  GetQuestObjectiveQuestId : UInt32 → UInt32
  GetEventIdForQuest : UInt32 → UInt16
  ignoreAutoComplete : Bool
  /-- The cleaning of abandoned quests is switched off. -/
  keepAbandoned : Bool
  /-- The id 0 stands for an empty slot. -/
  named : ∀ quest_id quest, GetQuestTemplate quest_id = some quest →
    quest.Id = quest_id ∧ quest_id ≠ 0
  loaded : ∀ quest_id quest, GetQuestTemplate quest_id = some quest → quest.Loaded
  distinct : ∀ quest_id quest, GetQuestTemplate quest_id = some quest →
    (quest.m_questObjectives.map QuestObjective.Id).Nodup
  questOf : ∀ quest_id quest o, GetQuestTemplate quest_id = some quest →
    o ∈ quest.m_questObjectives → GetQuestObjectiveQuestId o.Id = quest_id
  objectiveOf : ∀ objectiveId, GetQuestObjectiveQuestId objectiveId ≠ 0 →
    ∃ quest, GetQuestTemplate (GetQuestObjectiveQuestId objectiveId) = some quest ∧
      objectiveId ∈ quest.m_questObjectives.map QuestObjective.Id

namespace ObjectMgr

variable (mgr : ObjectMgr)

def IsAutoComplete (quest : Quest) : Bool :=
  if mgr.ignoreAutoComplete then false
  else quest.Method = 0 || quest.HasFlag QUEST_FLAGS_AUTOCOMPLETE

def single (quest : Quest) (named : quest.Id ≠ 0) (loaded : quest.Loaded)
    (distinct : (quest.m_questObjectives.map QuestObjective.Id).Nodup) : ObjectMgr where
  GetQuestTemplate quest_id := if quest_id = quest.Id then some quest else none
  GetQuestObjectiveQuestId objectiveId :=
    if objectiveId ∈ quest.m_questObjectives.map QuestObjective.Id then quest.Id else 0
  GetEventIdForQuest _ := 0
  ignoreAutoComplete := false
  keepAbandoned := true
  named := by
    rintro quest_id quest' found
    split at found
    next same =>
      cases found
      exact ⟨same.symm, same ▸ named⟩
    next => cases found
  loaded := by
    rintro quest_id quest' found
    split at found
    next =>
      cases found
      exact loaded
    next => cases found
  distinct := by
    rintro quest_id quest' found
    split at found
    next =>
      cases found
      exact distinct
    next => cases found
  questOf := by
    rintro quest_id quest' o found member
    split at found
    next same =>
      cases found
      rw [if_pos (List.mem_map_of_mem member), same]
    next => cases found
  objectiveOf := by
    intro objectiveId some
    split at some
    next member =>
      rw [if_pos member]
      exact ⟨quest, if_pos rfl, member⟩
    next => exact absurd rfl some

end ObjectMgr

lemma one_known : (1 : UInt32) ≠ 0 := UInt32.zero_ne_one.symm

def Quest.twoOf (type : ObjectiveType) : Quest := { Id := 1, m_questObjectives := [⟨1, type, 7, 2⟩] }

lemma Quest.load_twoOf (type : ObjectiveType) : (Quest.twoOf type).load = Quest.twoOf type := by
  simp [load, IsDaily, IsWeekly, IsMonthly, HasFlag, HasSpecialFlag, twoOf]

lemma Quest.loaded_twoOf (type : ObjectiveType) : (Quest.twoOf type).Loaded := by
  rw [← load_twoOf type]
  exact loaded_load _

def ObjectMgr.twoOf (type : ObjectiveType) : ObjectMgr :=
  .single (.twoOf type) one_known (Quest.loaded_twoOf type) (List.nodup_singleton 1)

end WorldServer.Quests
