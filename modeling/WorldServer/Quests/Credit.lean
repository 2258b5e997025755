import WorldServer.Quests.QuestLog

/-!
# Credit for objectives

Each handler goes through the slots of the log and looks for an objective that the event is about.
A quest in a slot has a status, so that reading it with `m_QuestStatus[questId]` adds none.
-/
namespace WorldServer.Quests

open WorldServer.Lib

/-- What is around the player at an event -/
structure Around where
  gameTime : UInt32
  other : UInt32 → Bool
  stores : UInt32 → Bool
  allowed : UInt32 → Bool

def anywhere : Around := ⟨0, fun _ => true, fun _ => true, fun _ => true⟩

namespace Player

variable (mgr : ObjectMgr) (env : Around) (p : Player)

def questInSlot (i : Fin MAX_QUEST_LOG_SIZE) : Option Quest :=
  if p.slots i = 0 then none else mgr.GetQuestTemplate (p.slots i)

/-- One pass over the slots, which reads each slot when it comes to it -/
def forSlots (body : Player → Quest → Player) : Player :=
  (List.finRange MAX_QUEST_LOG_SIZE).foldl (fun p i =>
    match p.questInSlot mgr i with
    | some quest => body p quest
    | none => p) p

def completeIfPossible (quest_id : UInt32) : Player :=
  if p.CanCompleteQuest mgr quest_id (env.other quest_id) then
    p.CompleteQuest mgr quest_id env.gameTime
  else p

def setCounter (questId key counter : UInt32) : Player :=
  { p with
    m_questObjectiveStatus := p.m_questObjectiveStatus.insert key counter
    m_QuestStatusSave := p.m_QuestStatusSave.insert questId true }

/-! ### Kills, game objects and talks -/

/-- The pass over the objectives ends at the first one of the creature. -/
def KilledMonsterCredit (realEntry : UInt32) : Player :=
  p.forSlots mgr fun p qInfo =>
    if qInfo.GetQuestObjectiveCountType .npc = 0 then p
    else if (p.questStatus qInfo.Id).Status = .incomplete ∧ env.allowed qInfo.Id then
      match qInfo.m_questObjectives.find? fun o => o.type = .npc ∧ o.ObjectId = realEntry with
      | none => p
      | some o =>
        let currentCounter := p.GetQuestObjectiveCounter o.Id
        let p := if currentCounter < o.required then p.setCounter qInfo.Id o.Id (currentCounter + 1) else p
        p.completeIfPossible mgr env qInfo.Id
    else p

def KilledPlayerCredit : Player :=
  p.forSlots mgr fun p qInfo =>
    if qInfo.GetQuestObjectiveCountType .player = 0 then p
    else if (p.questStatus qInfo.Id).Status = .incomplete ∧ env.allowed qInfo.Id then
      match qInfo.m_questObjectives.find? fun o => o.type = .player with
      | none => p
      | some o =>
        let currentCounter := p.GetQuestObjectiveCounter o.Id
        let p :=
          if currentCounter < o.required then p.setCounter qInfo.Id o.ObjectId (currentCounter + 1)
          else p
        p.completeIfPossible mgr env qInfo.Id
    else p

def QuestObjectiveSatisfy (objectId amount : UInt32) (type : ObjectiveType) : Player :=
  p.forSlots mgr fun p quest =>
    if (p.questStatus quest.Id).Status ≠ .incomplete then p
    -- the type of creatures is 0, and is not looked for
    else if type ≠ .npc ∧ quest.GetQuestObjectiveCountType type = 0 then p
    else
      match quest.m_questObjectives.find? fun o => o.type = type ∧ o.ObjectId = objectId with
      | none => p
      | some o =>
        let currentCounter := p.GetQuestObjectiveCounter o.Id
        let addCounter :=
          if o.required < currentCounter + amount then o.required - currentCounter else amount
        (p.setCounter quest.Id o.Id addCounter).completeIfPossible mgr env quest.Id

def KillCreditGO (entry : UInt32) : Player := p.QuestObjectiveSatisfy mgr env entry 1 .go

def TalkedToCreature (entry : UInt32) : Player := p.QuestObjectiveSatisfy mgr env entry 1 .npc

/-! ### Items -/

def addedObjective (entry : UInt32) : Option (Quest × QuestObjective) :=
  (List.finRange MAX_QUEST_LOG_SIZE).findSome? fun i => do
    let qInfo ← p.questInSlot mgr i
    guard ((p.questStatus qInfo.Id).Status = .incomplete)
    guard (qInfo.GetQuestObjectiveCountType .item ≠ 0)
    let o ← qInfo.m_questObjectives.find? fun o => o.type = .item ∧ o.ObjectId = entry
    return (qInfo, o)

def ItemAddedQuestCheck (entry count : UInt32) : Player :=
  match p.addedObjective mgr entry with
  | none => p
  | some (qInfo, o) =>
    let currentCounter := p.GetQuestObjectiveCounter o.Id
    let p :=
      if currentCounter < o.required then
        let addCount : UInt16 :=
          (if currentCounter + count ≤ o.required then count else o.required - currentCounter).toUInt16
        p.setCounter qInfo.Id o.Id (currentCounter + addCount.toUInt32)
      else p
    p.completeIfPossible mgr env qInfo.Id

def ItemRemovedQuestCheck (entry count : UInt32) : Player :=
  p.forSlots mgr fun p qInfo =>
    if qInfo.GetQuestObjectiveCountType .item = 0 then p
    else
      match qInfo.m_questObjectives.find? fun o => o.type = .item ∧ o.ObjectId = entry with
      | none => p
      | some o =>
        let currentCounter :=
          if (p.questStatus qInfo.Id).Status ≠ .complete then p.GetQuestObjectiveCounter o.Id
          else p.has.owned entry
        if currentCounter < o.required then
          let remainingItems : UInt16 :=
            (if currentCounter ≤ o.required then count else count + o.required - currentCounter).toUInt16
          let counter :=
            if currentCounter ≤ remainingItems.toUInt32 then 0 else currentCounter - remainingItems.toUInt32
          (p.setCounter qInfo.Id o.Id counter).IncompleteQuest mgr qInfo.Id
        else p

def MoneyChanged (count : UInt32) : Player :=
  p.forSlots mgr fun p qInfo =>
    if qInfo.GetQuestObjectiveCountType .money = 0 then p
    else
      (qInfo.m_questObjectives.filter fun o => o.type = .money).foldl (fun p o =>
        match (p.questStatus qInfo.Id).Status with
        | .incomplete => if o.required ≤ count then p.completeIfPossible mgr env qInfo.Id else p
        | .complete => if count < o.required then p.IncompleteQuest mgr qInfo.Id else p
        | _ => p) p

def ReputationChanged (faction : UInt32) : Player :=
  (List.finRange MAX_QUEST_LOG_SIZE).foldl (fun p i =>
    let questId := p.slots i
    if questId ≠ 0 then p
    else
      match mgr.GetQuestTemplate questId with
      | none => p
      | some qInfo =>
        if qInfo.GetQuestObjectiveCountType .factionRep2 = 0 then p
        else
          (qInfo.m_questObjectives.filter fun o => o.type = .factionRep2).foldl (fun p o =>
            match (p.questStatus questId).Status with
            | .incomplete =>
              if o.Amount ≤ p.has.reputation faction then p.completeIfPossible mgr env questId else p
            | .complete =>
              if p.has.reputation faction < o.Amount then p.IncompleteQuest mgr questId else p
            | _ => p) p) p

def AreaExploredOrEventHappens (questId : UInt32) : Player :=
  if questId = 0 then p
  else
    let p :=
      if (p.FindQuestSlot questId).isSome ∧ ¬ (p.questStatus questId).Explored then
        { p with
          m_QuestStatus := p.m_QuestStatus.insert questId { p.questStatus questId with Explored := true }
          m_QuestStatusSave := p.m_QuestStatusSave.insert questId true }
      else p
    p.completeIfPossible mgr env questId

end Player

/-! ### Events -/

/-- What happens to a player -/
inductive Event where
  | accept (quest_id limittime : UInt32)
  | abandon (slot : Fin MAX_QUEST_LOG_SIZE)
  | kill (realEntry : UInt32)
  | killPlayer
  | useObject (entry : UInt32)
  | talk (entry : UInt32)
  | gain (entry count : UInt32)
  | lose (entry count : UInt32)
  | money (value : UInt64)
  | reputation (faction : UInt32) (value : Int32)
  | explore (questId : UInt32)

namespace Player

variable (mgr : ObjectMgr) (env : Around) (p : Player)

/-- The quest is completed at once where nothing is left to do. -/
def HandleQuestgiverAcceptQuest (quest_id limittime : UInt32) : Player :=
  match mgr.GetQuestTemplate quest_id with
  | none => p
  | some quest =>
    if !p.CanTakeQuest mgr quest (env.other quest_id) then p
    else if !p.CanAddQuest (env.stores quest_id) then p
    else (p.AddQuest quest limittime).completeIfPossible mgr env quest_id

def withItems (entry : UInt32) (f : UInt32 → UInt32) : Player :=
  { p with has := { p.has with
      carried := Function.update p.has.carried entry (f (p.has.carried entry))
      owned := Function.update p.has.owned entry (f (p.has.owned entry)) } }

def StoreNewItem (entry count : UInt32) : Player :=
  (p.ItemAddedQuestCheck mgr env entry count).withItems entry (· + count)

def DestroyItem (entry count : UInt32) : Player :=
  if count ≤ p.has.carried entry ∧ count ≤ p.has.owned entry then
    (p.ItemRemovedQuestCheck mgr entry count).withItems entry (· - count)
  else p

def SetMoney (value : UInt64) : Player :=
  { p with has := { p.has with money := value } }.MoneyChanged mgr env value.toUInt32

def SetReputation (faction : UInt32) (value : Int32) : Player :=
  { p with has := { p.has with
      reputation := Function.update p.has.reputation faction value } }.ReputationChanged mgr env faction

def happen (event : Event) : Player :=
  match event with
  | .accept quest_id limittime => p.HandleQuestgiverAcceptQuest mgr env quest_id limittime
  | .abandon slot => p.HandleQuestLogRemoveQuest slot
  | .kill realEntry => p.KilledMonsterCredit mgr env realEntry
  | .killPlayer => p.KilledPlayerCredit mgr env
  | .useObject entry => p.KillCreditGO mgr env entry
  | .talk entry => p.TalkedToCreature mgr env entry
  | .gain entry count => p.StoreNewItem mgr env entry count
  | .lose entry count => p.DestroyItem mgr entry count
  | .money value => p.SetMoney mgr env value
  | .reputation faction value => p.SetReputation mgr env faction value
  | .explore questId => p.AreaExploredOrEventHappens mgr env questId

end Player

end WorldServer.Quests
