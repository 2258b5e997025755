import WorldServer.Quests.Credit

/-!
# What the counters should count

Beside the player runs a tally of the credits for each objective since its quest was last accepted.
The counters should agree with it, and the status with what the objectives ask for. `Smooth` says of
an event that no handler gets in the way.
-/
namespace WorldServer.Quests

open WorldServer.Lib

structure Occasion where
  env : Around
  event : Event

namespace QuestObjective

def revocable (o : QuestObjective) : Bool :=
  match o.type with
  | .item | .money | .factionRep | .factionRep2 => true
  | _ => false

end QuestObjective

def ObjectMgr.objective (mgr : ObjectMgr) (objectiveId : UInt32) : Option (Quest × QuestObjective) := do
  let quest ← mgr.GetQuestTemplate (mgr.GetQuestObjectiveQuestId objectiveId)
  let o ← quest.m_questObjectives.find? fun o => o.Id = objectiveId
  return (quest, o)

def Event.credits (env : Around) (quest : Quest) (o : QuestObjective) : Event → Bool
  | .kill realEntry => o.type = .npc && o.ObjectId = realEntry && env.allowed quest.Id
  | .talk entry => o.type = .npc && o.ObjectId = entry
  | .killPlayer => o.type = .player && env.allowed quest.Id
  | .useObject entry => o.type = .go && o.ObjectId = entry
  | _ => false

def Player.takes (mgr : ObjectMgr) (p : Player) (x : Occasion) : Option Quest :=
  match x.event with
  | .accept quest_id _ =>
    (mgr.GetQuestTemplate quest_id).filter fun quest =>
      p.CanTakeQuest mgr quest (x.env.other quest_id) && p.CanAddQuest (x.env.stores quest_id)
  | _ => none

/-- A player, and the credits for each objective since its quest was last accepted -/
structure Tally where
  player : Player
  credits : UInt32 → ℕ

namespace Tally

variable (mgr : ObjectMgr) (t : Tally) (x : Occasion)

def creditsAfter (objectiveId : UInt32) : ℕ :=
  match mgr.objective objectiveId with
  | none => t.credits objectiveId
  | some (quest, o) =>
    if t.player.takes mgr x = some quest then 0
    else if x.event.credits x.env quest o then t.credits objectiveId + 1
    else t.credits objectiveId

def step : Tally := ⟨t.player.happen mgr x.env x.event, t.creditsAfter mgr x⟩

def start (has : Possessions) : Tally := ⟨.new has, fun _ => 0⟩

/-! ### What should hold -/

def count (o : QuestObjective) : ℕ :=
  if o.type = .item then (t.player.has.owned o.ObjectId).toNat else t.credits o.Id

/-- Whether a player has what an objective asks for, whatever the counters say -/
def satisfied (o : QuestObjective) : Bool :=
  match o.type with
  | .dummy => true
  | .spell => t.player.has.spells o.ObjectId
  | .factionRep | .factionRep2 => o.Amount ≤ t.player.has.reputation o.ObjectId
  | .money => o.Amount.toInt64.toUInt64 ≤ t.player.has.money
  | .currency => o.required ≤ (t.player.has.currency o.ObjectId).getD 0
  | _ => o.required.toNat ≤ t.count o

/-- A quest asks for its objectives, and may ask for an event or for time that is left. -/
def done (quest : Quest) : Bool :=
  let data := t.player.questStatus quest.Id
  (!quest.HasSpecialFlag QUEST_SPECIAL_FLAGS_EXPLORATION_OR_EVENT || data.Explored) &&
    (!quest.HasSpecialFlag QUEST_SPECIAL_FLAGS_TIMED || data.Timer ≠ 0) &&
    quest.m_questObjectives.all t.satisfied

structure Progress : Prop where
  counted : ∀ i quest, t.player.questInSlot mgr i = some quest →
    (t.player.questStatus quest.Id).Status = .incomplete → ∀ o ∈ quest.m_questObjectives,
    o.type = .npc ∨ o.type = .player ∨ o.type = .go →
    (t.player.GetQuestObjectiveCounter o.Id).toNat = min o.required.toNat (t.credits o.Id)
  collected : ∀ i quest, t.player.questInSlot mgr i = some quest →
    (t.player.questStatus quest.Id).Status = .incomplete → ∀ o ∈ quest.m_questObjectives,
    o.type = .item → (t.player.GetQuestObjectiveCounter o.Id).toNat =
      min o.required.toNat (t.player.has.owned o.ObjectId).toNat
  bounded : ∀ quest_id quest, mgr.GetQuestTemplate quest_id = some quest →
    ∀ o ∈ quest.m_questObjectives, t.player.GetQuestObjectiveCounter o.Id ≤ o.required
  completed : ∀ i quest, t.player.questInSlot mgr i = some quest → t.done quest = true →
    (t.player.questStatus quest.Id).Status = .complete
  revoked : ∀ i quest, t.player.questInSlot mgr i = some quest → ∀ o ∈ quest.m_questObjectives,
    o.revocable = true → t.satisfied o = false →
    (t.player.questStatus quest.Id).Status = .incomplete

/-! ### Where the handlers keep to it -/

/-- A quest in the log that is not completed yet -/
def Pending (quest : Quest) : Prop :=
  (∃ i, t.player.questInSlot mgr i = some quest) ∧
    (t.player.questStatus quest.Id).Status = .incomplete

def Full (o : QuestObjective) : Prop := o.required ≤ t.player.GetQuestObjectiveCounter o.Id

/-- A quest that is taken has no counters left over, and no currency of the player would do. -/
structure Clean (quest : Quest) : Prop where
  counters : ∀ o ∈ quest.m_questObjectives, o.type ≠ .item →
    t.player.GetQuestObjectiveCounter o.Id = 0
  items : ∀ o ∈ quest.m_questObjectives, o.type = .item → quest.GetQuestObjectiveCountType .item ≠ 0
  currency : ∀ o ∈ quest.m_questObjectives, o.type = .currency →
    o.required = 0 ∨ (t.player.has.currency o.ObjectId).getD 0 < o.required

end Tally

/-- The search of a handler comes to this objective. -/
def Quest.Finds (quest : Quest) (o : QuestObjective) : Prop :=
  quest.m_questObjectives.find? (fun o' => o'.type = o.type ∧ o'.ObjectId = o.ObjectId) = some o

/-- The handler of a kind goes through the quest, and comes to this objective. -/
def Quest.Reaches (quest : Quest) (o : QuestObjective) : Prop :=
  quest.GetQuestObjectiveCountType o.type ≠ 0 ∧ quest.Finds o

instance (quest : Quest) (o : QuestObjective) : Decidable (quest.Finds o) :=
  inferInstanceAs (Decidable (_ = _))

instance (quest : Quest) (o : QuestObjective) : Decidable (quest.Reaches o) :=
  inferInstanceAs (Decidable (_ ∧ _))

namespace Tally

variable (mgr : ObjectMgr) (t : Tally) (x : Occasion)

def Counts (quest : Quest) (o : QuestObjective) : Event → Prop
  | .kill _ => t.Full o ∨ quest.Reaches o
  | .killPlayer =>
    t.Full o ∨ quest.GetQuestObjectiveCountType .player ≠ 0 ∧
      quest.m_questObjectives.find? (fun o' => o'.type = .player) = some o ∧ o.ObjectId = o.Id
  | .useObject _ =>
    if quest.Reaches o then t.player.GetQuestObjectiveCounter o.Id = 0 else t.Full o
  | .talk _ => if quest.Finds o then t.player.GetQuestObjectiveCounter o.Id = 0 else t.Full o
  | _ => True

/-- New items are counted for every quest that asks for them. -/
structure Gains (entry count : UInt32) : Prop where
  fits : (t.player.has.owned entry).toNat + count.toNat < 2 ^ 32
  found : count ≠ 0 → ∀ quest, t.Pending mgr quest → ∀ o ∈ quest.m_questObjectives, o.type = .item →
    o.ObjectId = entry → t.Full o ∨
      t.player.addedObjective mgr entry = some (quest, o) ∧
        min count.toNat (o.required - t.player.GetQuestObjectiveCounter o.Id).toNat < 2 ^ 16

/-- Lost items leave enough, or are counted down from a counter that is not full. -/
def Loses (entry count : UInt32) : Prop :=
  count ≠ 0 → count ≤ t.player.has.carried entry → count ≤ t.player.has.owned entry →
  ∀ i quest, t.player.questInSlot mgr i = some quest → ∀ o ∈ quest.m_questObjectives, o.type = .item →
    o.ObjectId = entry → o.required ≤ t.player.has.owned entry - count ∨
      (t.player.questStatus quest.Id).Status = .incomplete ∧ ¬ t.Full o ∧ quest.Reaches o ∧
        count.toNat < 2 ^ 16

/-- The lower 32 bits of the money say the same as the money. -/
def Pays (value : UInt64) : Prop :=
  ∀ i quest, t.player.questInSlot mgr i = some quest → ∀ o ∈ quest.m_questObjectives,
    o.type = .money → quest.GetQuestObjectiveCountType .money ≠ 0 ∧
      (o.required ≤ value.toUInt32 ↔ o.Amount.toInt64.toUInt64 ≤ value)

/-- No quest in the log is done or undone by the new reputation. -/
def Indifferent (faction : UInt32) (value : Int32) : Prop :=
  ∀ i quest, t.player.questInSlot mgr i = some quest →
    { t with player := { t.player with has := { t.player.has with
      reputation := Function.update t.player.has.reputation faction value } } : Tally }.done quest =
      t.done quest

/-- No handler gets in the way of the event. -/
structure Smooth : Prop where
  taken : ∀ quest, t.player.takes mgr x = some quest → t.Clean quest
  credited : ∀ quest, t.Pending mgr quest → ∀ o ∈ quest.m_questObjectives,
    x.event.credits x.env quest o = true → t.Counts quest o x.event
  gained : ∀ entry count, x.event = .gain entry count → t.Gains mgr entry count
  lost : ∀ entry count, x.event = .lose entry count → t.Loses mgr entry count
  paid : ∀ value, x.event = .money value → t.Pays mgr value
  unmoved : ∀ faction value, x.event = .reputation faction value → t.Indifferent mgr faction value

end Tally

end WorldServer.Quests
