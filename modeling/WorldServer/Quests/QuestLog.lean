import WorldServer.Quests.Quest

/-!
# The quests of a player

The quests that a player has taken are in the status map, and those shown in the log have a slot as
well. Counters are kept by objective, rewarded quests in a set, and what was done in a period in one
more set for each period. Each has its own marks for the next save.
-/
namespace WorldServer.Quests

open WorldServer.Lib

def MAX_QUEST_LOG_SIZE : ℕ := 25

def PLAYER_MAX_DAILY_QUESTS : ℕ := 750

def IN_MILLISECONDS : UInt32 := 1000

structure QuestStatusData where
  Status : QuestStatus := .none
  Timer : UInt32 := 0
  Explored : Bool := false
deriving DecidableEq, Repr, Inhabited

/-- A row of `character_queststatus` -/
structure StatusRow where
  status : QuestStatus
  explored : Bool
  timer : UInt32
deriving DecidableEq, Repr

/-- The rows of the character in the tables of the quests. A row of a daily quest has the time as
well, which is read for nothing but the time of the next reset. -/
structure QuestRows where
  status : Table UInt32 StatusRow
  objective : Table UInt32 UInt32
  rewarded : Finset UInt32
  daily : Finset UInt32
  weekly : Finset UInt32
  monthly : Finset UInt32
  seasonal : Finset (UInt16 × UInt32)

/-- What objectives ask for beside the counters -/
structure Possessions where
  carried : UInt32 → UInt32
  /-- `GetItemCount(item, true)`, with the bank -/
  owned : UInt32 → UInt32
  currency : UInt32 → Option UInt32
  money : UInt64
  reputation : UInt32 → Int32
  spells : UInt32 → Bool

structure Player where
  slots : Fin MAX_QUEST_LOG_SIZE → UInt32
  m_QuestStatus : Table UInt32 QuestStatusData
  m_QuestStatusSave : Table UInt32 Bool
  m_questObjectiveStatus : Table UInt32 UInt32
  m_RewardedQuests : Finset UInt32
  m_RewardedQuestsSave : Table UInt32 Bool
  m_DFQuests : Finset UInt32
  m_weeklyquests : Finset UInt32
  m_monthlyquests : Finset UInt32
  /-- The sets of the events. An event without quests and an event that is not there are the same
  to every reader. -/
  m_seasonalquests : Finset (UInt16 × UInt32)
  m_DailyQuestChanged : Bool
  m_WeeklyQuestChanged : Bool
  m_MonthlyQuestChanged : Bool
  m_SeasonalQuestChanged : Bool
  has : Possessions
  rows : QuestRows

namespace Player

variable (mgr : ObjectMgr) (p : Player) (quest_id : UInt32) (quest : Quest)

def questStatus : QuestStatusData := (p.m_QuestStatus.lookup quest_id).getD {}

def GetQuestObjectiveCounter (objectiveId : UInt32) : UInt32 :=
  (p.m_questObjectiveStatus.lookup objectiveId).getD 0

def FindQuestSlot : Option (Fin MAX_QUEST_LOG_SIZE) :=
  (List.finRange MAX_QUEST_LOG_SIZE).find? fun i => p.slots i = quest_id

def SetQuestSlot (slot : Fin MAX_QUEST_LOG_SIZE) : Player :=
  { p with slots := Function.update p.slots slot quest_id }

def HasEnoughMoney (amount : UInt64) : Bool := amount ≤ p.has.money

def HasCurrency (id count : UInt32) : Bool := (p.has.currency id).any fun total => count ≤ total

def GetQuestStatus : QuestStatus :=
  if quest_id = 0 then .none
  else
    match p.m_QuestStatus.lookup quest_id with
    | some data => data.Status
    | none =>
      match mgr.GetQuestTemplate quest_id with
      | some qInfo =>
        if !qInfo.IsRepeatable && quest_id ∈ p.m_RewardedQuests then .rewarded else .none
      | none => .none

def GetQuestRewardStatus : Bool :=
  match mgr.GetQuestTemplate quest_id with
  | some qInfo => !qInfo.IsRepeatable && quest_id ∈ p.m_RewardedQuests
  | none => false

/-! ### What has to be satisfied -/

/-- The reads of the daily quest fields are commented out, and 0 stands in their place. -/
def dailyQuestField (_ : ℕ) : UInt32 := 0

def SatisfyQuestDay : Bool :=
  if !quest.IsDaily && !quest.IsDFQuest then true
  else if quest.IsDFQuest then p.m_DFQuests = ∅
  else if (List.range PLAYER_MAX_DAILY_QUESTS).any fun idx => quest.Id = dailyQuestField idx then false
  else (List.range PLAYER_MAX_DAILY_QUESTS).any fun idx => dailyQuestField idx = 0

def SatisfyQuestWeek : Bool :=
  if !quest.IsWeekly || p.m_weeklyquests = ∅ then true else quest.Id ∉ p.m_weeklyquests

def SatisfyQuestMonth : Bool :=
  if !quest.IsMonthly || p.m_monthlyquests = ∅ then true else quest.Id ∉ p.m_monthlyquests

def SatisfyQuestSeasonal : Bool :=
  if !quest.IsSeasonal || p.m_seasonalquests = ∅ then true
  else (mgr.GetEventIdForQuest quest.Id, quest.Id) ∉ p.m_seasonalquests

def SatisfyQuestStatus : Bool := p.GetQuestStatus mgr quest.Id = .none

/-- `other` stands for the conditions about the player himself: class, race, level, skill,
reputation, the quests before and after this one, a second timed quest, and the tables of conditions
and of what is disabled. -/
def CanTakeQuest (other : Bool) : Bool :=
  p.SatisfyQuestStatus mgr quest && p.SatisfyQuestDay quest && p.SatisfyQuestWeek quest &&
    p.SatisfyQuestMonth quest && p.SatisfyQuestSeasonal mgr quest && other

def SatisfyQuestLog : Bool := (p.FindQuestSlot 0).isSome

/-- `stores` says whether the source item of the quest can be stored. -/
def CanAddQuest (stores : Bool) : Bool := p.SatisfyQuestLog && stores

/-- Whether an objective is met when a quest is looked at for completion -/
def met (o : QuestObjective) : Bool :=
  match o.type with
  | .dummy => true
  | .spell => p.has.spells o.ObjectId
  | .factionRep | .factionRep2 => o.Amount ≤ p.has.reputation o.ObjectId
  | .money => p.HasEnoughMoney o.Amount.toInt64.toUInt64
  | _ => o.required ≤ p.GetQuestObjectiveCounter o.Id

def CanCompleteQuest (other : Bool) : Bool :=
  if quest_id = 0 then false
  else
    match mgr.GetQuestTemplate quest_id with
    | none => false
    | some qInfo =>
      if !qInfo.IsRepeatable && quest_id ∈ p.m_RewardedQuests then false
      else if (mgr.IsAutoComplete qInfo || qInfo.HasFlag QUEST_FLAGS_AUTOCOMPLETE) &&
        p.CanTakeQuest mgr qInfo other then true
      else
        match p.m_QuestStatus.lookup quest_id with
        | none => false
        | some data =>
          if data.Status = .incomplete then
            if qInfo.HasSpecialFlag QUEST_SPECIAL_FLAGS_EXPLORATION_OR_EVENT && !data.Explored then false
            else if qInfo.HasSpecialFlag QUEST_SPECIAL_FLAGS_TIMED && data.Timer = 0 then false
            else qInfo.m_questObjectives.all p.met
          else false

def affords (o : QuestObjective) : Bool :=
  match o.type with
  | .item => o.required ≤ p.has.carried o.ObjectId
  | .currency => p.HasCurrency o.ObjectId o.required
  | .money => p.HasEnoughMoney o.Amount.toInt64.toUInt64
  | _ => true

/-- The rewards have to fit as well, where the caller names one: `fits`. -/
def CanRewardQuest (fits : Bool) : Bool :=
  if !quest.IsDFQuest && !mgr.IsAutoComplete quest && !quest.HasFlag QUEST_FLAGS_AUTOCOMPLETE &&
    p.GetQuestStatus mgr quest.Id ≠ .complete then false
  else if !p.SatisfyQuestDay quest || !p.SatisfyQuestWeek quest || !p.SatisfyQuestMonth quest ||
    !p.SatisfyQuestSeasonal mgr quest then false
  else if p.GetQuestRewardStatus mgr quest.Id then false
  else quest.m_questObjectives.all p.affords && fits

/-- The callers that go on to the phases, auras and objects around the player are left out. -/
def SetQuestStatus (status : QuestStatus) : Player :=
  if (mgr.GetQuestTemplate quest_id).isSome then
    { p with
      m_QuestStatus := p.m_QuestStatus.insert quest_id { p.questStatus quest_id with Status := status }
      m_QuestStatusSave := p.m_QuestStatusSave.insert quest_id true }
  else p

def RemoveActiveQuest : Player :=
  if (p.m_QuestStatus.lookup quest_id).isSome then
    { p with
      m_QuestStatus := p.m_QuestStatus.erase quest_id
      m_QuestStatusSave := p.m_QuestStatusSave.insert quest_id false }
  else p

def IncompleteQuest : Player :=
  if quest_id = 0 then p else p.SetQuestStatus mgr quest_id .incomplete

def SetDailyQuestStatus : Player :=
  match mgr.GetQuestTemplate quest_id with
  | none => p
  | some qQuest =>
    if !qQuest.IsDFQuest then p
    else { p with m_DFQuests := insert quest_id p.m_DFQuests, m_DailyQuestChanged := true }

def SetWeeklyQuestStatus : Player :=
  { p with m_weeklyquests := insert quest_id p.m_weeklyquests, m_WeeklyQuestChanged := true }

def SetMonthlyQuestStatus : Player :=
  { p with m_monthlyquests := insert quest_id p.m_monthlyquests, m_MonthlyQuestChanged := true }

def SetSeasonalQuestStatus : Player :=
  if (mgr.GetQuestTemplate quest_id).isSome then
    { p with
      m_seasonalquests := insert (mgr.GetEventIdForQuest quest_id, quest_id) p.m_seasonalquests
      m_SeasonalQuestChanged := true }
  else p

def setPeriodStatus : Player :=
  if quest.IsDaily || quest.IsDFQuest then p.SetDailyQuestStatus mgr quest.Id
  else if quest.IsWeekly then p.SetWeeklyQuestStatus quest.Id
  else if quest.IsMonthly then p.SetMonthlyQuestStatus quest.Id
  else if quest.IsSeasonal then p.SetSeasonalQuestStatus mgr quest.Id
  else p

def ResetDailyQuests : Player :=
  { p with m_DFQuests := ∅, m_DailyQuestChanged := false, rows := { p.rows with daily := ∅ } }

def ResetWeeklyQuests : Player :=
  let p := { p with rows := { p.rows with weekly := ∅ } }
  if p.m_weeklyquests = ∅ then p else { p with m_weeklyquests := ∅, m_WeeklyQuestChanged := false }

def ResetMonthlyQuests : Player :=
  let p := { p with rows := { p.rows with monthly := ∅ } }
  if p.m_monthlyquests = ∅ then p else { p with m_monthlyquests := ∅, m_MonthlyQuestChanged := false }

def ResetEventSeasonalQuests (event_id : UInt16) : Player :=
  let p := { p with rows := { p.rows with seasonal := p.rows.seasonal.filter (·.1 ≠ event_id) } }
  if p.m_seasonalquests.filter (·.1 = event_id) = ∅ then p
  else
    { p with
      m_seasonalquests := p.m_seasonalquests.filter (·.1 ≠ event_id)
      m_SeasonalQuestChanged := false }

/-! ### Saving -/

def statusRow (gameTime : UInt32) (data : QuestStatusData) : StatusRow :=
  ⟨data.Status, data.Explored, data.Timer / IN_MILLISECONDS + gameTime⟩

def statusStatements (gameTime : UInt32) (marked : Bool) : List (Statement UInt32 StatusRow) :=
  if marked then
    match p.m_QuestStatus.lookup quest_id with
    | some data =>
      if mgr.keepAbandoned || data.Status ≠ .none then [.replace quest_id (statusRow gameTime data)] else []
    | none => []
  else [.delete quest_id]

/-- The rewarded quests after the statements for those that are marked -/
def saveRewarded (rows : Finset UInt32) : Finset UInt32 :=
  p.m_RewardedQuestsSave.entries.foldl (fun rows e =>
    if e.2 then insert e.1 rows else if !mgr.keepAbandoned then rows.erase e.1 else rows) rows

def _SaveQuestStatus (gameTime : UInt32) : Player :=
  { p with
    m_RewardedQuestsSave := ∅
    rows :=
      { p.rows with
        status := Statement.execAll p.rows.status
          (Statement.flush p.m_QuestStatusSave fun q marked => p.statusStatements mgr q gameTime marked)
        rewarded := p.saveRewarded mgr p.rows.rewarded } }

def objectiveStatements (objectiveId counter : UInt32) : List (Statement UInt32 UInt32) :=
  if mgr.GetQuestObjectiveQuestId objectiveId = 0 then []
  else
    match p.m_QuestStatusSave.lookup (mgr.GetQuestObjectiveQuestId objectiveId) with
    | none => []
    | some true => [.replace objectiveId counter]
    | some false => [.delete objectiveId]

def _SaveQuestObjectiveStatus : Player :=
  { p with
    m_questObjectiveStatus := ∅
    m_QuestStatusSave := ∅
    rows :=
      { p.rows with
        objective := Statement.execAll p.rows.objective
          (Statement.flush p.m_questObjectiveStatus (p.objectiveStatements mgr)) } }

/-- All rows of the character are deleted, and a row for each quest is written. -/
def _SaveDailyQuestStatus : Player :=
  if !p.m_DailyQuestChanged then p
  else { p with m_DailyQuestChanged := false, rows := { p.rows with daily := p.m_DFQuests } }

def _SaveWeeklyQuestStatus : Player :=
  if !p.m_WeeklyQuestChanged || p.m_weeklyquests = ∅ then p
  else { p with m_WeeklyQuestChanged := false, rows := { p.rows with weekly := p.m_weeklyquests } }

def _SaveMonthlyQuestStatus : Player :=
  if !p.m_MonthlyQuestChanged || p.m_monthlyquests = ∅ then p
  else { p with m_MonthlyQuestChanged := false, rows := { p.rows with monthly := p.m_monthlyquests } }

def _SaveSeasonalQuestStatus : Player :=
  if !p.m_SeasonalQuestChanged || p.m_seasonalquests = ∅ then p
  else { p with m_SeasonalQuestChanged := false, rows := { p.rows with seasonal := p.m_seasonalquests } }

def SaveToDB (gameTime : UInt32) : Player :=
  ((((p._SaveQuestStatus mgr gameTime)._SaveQuestObjectiveStatus mgr)._SaveDailyQuestStatus
    )._SaveWeeklyQuestStatus._SaveSeasonalQuestStatus)._SaveMonthlyQuestStatus

/-! ### Taking, completing and giving back -/

/-- The counters after a quest was taken: those that are not there start from 0, and those of items
from what the player has. -/
def addObjectives (counters : Table UInt32 UInt32) : Table UInt32 UInt32 :=
  let counters := (quest.m_questObjectives.filter QuestObjective.tracked).foldl (fun counters o =>
    if (counters.lookup o.Id).isSome then counters else counters.insert o.Id 0) counters
  if quest.GetQuestObjectiveCountType .item = 0 then counters
  else
    (quest.m_questObjectives.filter fun o => o.type = .item).foldl (fun counters o =>
      counters.insert o.Id (min (p.has.owned o.ObjectId) o.required)) counters

/-- `limittime` is the time of the quest, or what is left of it for the player who shares it. -/
def AddQuest (limittime : UInt32) : Player :=
  match p.FindQuestSlot 0 with
  | none => p
  | some logSlot =>
    { p with
      slots := Function.update p.slots logSlot quest.Id
      m_QuestStatus := p.m_QuestStatus.insert quest.Id
        { Status := .incomplete, Explored := false
          Timer := if quest.HasSpecialFlag QUEST_SPECIAL_FLAGS_TIMED then limittime * IN_MILLISECONDS else 0 }
      m_QuestStatusSave := p.m_QuestStatusSave.insert quest.Id true
      m_questObjectiveStatus := p.addObjectives quest p.m_questObjectiveStatus }

def clearSlot : Player :=
  match p.FindQuestSlot quest_id with
  | some log_slot => p.SetQuestSlot 0 log_slot
  | none => p

def markRewarded : Player :=
  { p with
    m_RewardedQuests := insert quest_id p.m_RewardedQuests
    m_RewardedQuestsSave := p.m_RewardedQuestsSave.insert quest_id true }

/-- What is taken and given for the quest comes as events of its own. -/
def RewardQuest (gameTime : UInt32) : Player :=
  let p := (p.clearSlot quest.Id).setPeriodStatus mgr quest
  let p := (p.RemoveActiveQuest quest.Id).markRewarded quest.Id
  p._SaveQuestStatus mgr gameTime

def CompleteQuest (gameTime : UInt32) : Player :=
  if quest_id = 0 then p
  else
    let p := p.SetQuestStatus mgr quest_id .complete
    match mgr.GetQuestTemplate quest_id with
    | some qInfo => if qInfo.HasFlag QUEST_FLAGS_TRACKING then p.RewardQuest mgr qInfo gameTime else p
    | none => p

def HandleQuestLogRemoveQuest (slot : Fin MAX_QUEST_LOG_SIZE) : Player :=
  let questId := p.slots slot
  let p := if questId ≠ 0 then p.RemoveActiveQuest questId else p
  p.SetQuestSlot 0 slot

/-! ### Loading -/

/-- The data of a row. A timer that has run out is left at 1. The rewarded quests are loaded after
the statuses, so that no quest counts as rewarded yet. -/
def loadStatus (gameTime : UInt32) (row : StatusRow) : QuestStatusData :=
  { Status := row.status, Explored := row.explored
    Timer :=
      if quest.HasSpecialFlag QUEST_SPECIAL_FLAGS_TIMED then
        if row.timer ≤ gameTime then 1 else (row.timer - gameTime) * IN_MILLISECONDS
      else 0 }

/-- The statuses of the quests that exist, in the order of the rows. The query leaves out rows that
say that there is no quest. -/
def loadedStatus (gameTime : UInt32) : Table UInt32 QuestStatusData :=
  p.rows.status.filterMap fun quest_id row =>
    if row.status = .none then none
    else (mgr.GetQuestTemplate quest_id).map fun quest => loadStatus quest gameTime row

/-- A player who comes back. The slots are filled in the order of the rows. -/
def load (gameTime : UInt32) : Player :=
  let statuses := p.loadedStatus mgr gameTime
  let slots : Fin MAX_QUEST_LOG_SIZE → UInt32 := fun i => (statuses.entries[i.1]?.map (·.1)).getD 0
  { slots := slots
    m_QuestStatus := statuses
    m_QuestStatusSave := ∅
    m_questObjectiveStatus := p.rows.objective.keep fun objectiveId _ =>
      mgr.GetQuestObjectiveQuestId objectiveId ≠ 0 &&
        (List.finRange MAX_QUEST_LOG_SIZE).any fun i =>
          slots i = mgr.GetQuestObjectiveQuestId objectiveId
    m_RewardedQuests := p.rows.rewarded
    m_RewardedQuestsSave := ∅
    m_DFQuests := p.rows.daily.filter fun q => (mgr.GetQuestTemplate q).any Quest.IsDFQuest
    m_weeklyquests := p.rows.weekly.filter fun q => (mgr.GetQuestTemplate q).isSome
    m_monthlyquests := p.rows.monthly.filter fun q => (mgr.GetQuestTemplate q).isSome
    m_seasonalquests := p.rows.seasonal.filter fun e => (mgr.GetQuestTemplate e.2).isSome
    m_DailyQuestChanged := false
    m_WeeklyQuestChanged := false
    m_MonthlyQuestChanged := false
    m_SeasonalQuestChanged := false
    has := p.has
    rows := p.rows }

def blank : Player where
  slots _ := 0
  m_QuestStatus := ∅
  m_QuestStatusSave := ∅
  m_questObjectiveStatus := ∅
  m_RewardedQuests := ∅
  m_RewardedQuestsSave := ∅
  m_DFQuests := ∅
  m_weeklyquests := ∅
  m_monthlyquests := ∅
  m_seasonalquests := ∅
  m_DailyQuestChanged := false
  m_WeeklyQuestChanged := false
  m_MonthlyQuestChanged := false
  m_SeasonalQuestChanged := false
  has := ⟨fun _ => 0, fun _ => 0, fun _ => none, 0, fun _ => 0, fun _ => false⟩
  rows := ⟨∅, ∅, ∅, ∅, ∅, ∅, ∅⟩

def new (has : Possessions) : Player := { blank with has := has }

end Player

end WorldServer.Quests
