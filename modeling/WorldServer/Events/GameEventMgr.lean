import Mathlib.Algebra.Order.Ring.Rat
import Mathlib.Data.Fintype.Basic
import WorldServer.Lib.Table

/-!
# World events

A world event waits for its prerequisites, then for its conditions, which quests fulfil, and then
for its length, after which the events that depend on it may start. `Update` looks at all events
first and then starts and stops those that it has queued. The counts are rationals, and
`time(NULL)` is read once for each call. What starting an event does to the world is left out.
-/
namespace WorldServer.Events

open WorldServer.Lib

inductive GameEventState where
  | NORMAL
  /-- not yet started -/
  | WORLD_INACTIVE
  /-- condition matching phase -/
  | WORLD_CONDITIONS
  /-- conditions are met, now 'length' timer to start next event -/
  | WORLD_NEXTPHASE
  /-- next events are started, unapply this one -/
  | WORLD_FINISHED
  /-- never handled in update -/
  | INTERNAL
deriving DecidableEq, Repr

structure GameEventFinishCondition where
  reqNum : ℚ
  done : ℚ
deriving DecidableEq

/-- An event; the others are known by their numbers. -/
structure GameEventData (n : ℕ) where
  start : ℕ
  end_ : ℕ
  nextstart : ℕ
  occurence : ℕ
  /-- in minutes -/
  length : ℕ
  state : GameEventState
  conditions : Table ℕ GameEventFinishCondition
  prerequisite_events : Finset (Fin n)

structure GameEventQuestToEventConditionNum (n : ℕ) where
  event_id : Fin n
  condition : ℕ
  num : ℚ

structure GameEventMgr (n : ℕ) where
  mGameEvent : Fin n → GameEventData n
  mQuestToEventConditions : Table ℕ (GameEventQuestToEventConditionNum n)
  m_ActiveEvents : Finset (Fin n)

def max_ge_check_delay : ℕ := 86400

/-- So many minutes in seconds, as an `uint32`. -/
def minutes (m : ℕ) : ℕ := m * 60 % 2 ^ 32

variable {n : ℕ}

namespace GameEventData

variable (now : ℕ) (d : GameEventData n)

/-- The period of a normal event; `%` by a period of zero would end the server. -/
def inPeriod : Bool :=
  decide (d.start < now) && decide (now < d.end_) &&
    decide ((now - d.start) % minutes d.occurence < minutes d.length)

def isCompleted : Bool :=
  decide (d.state = .WORLD_NEXTPHASE ∨ d.state = .WORLD_FINISHED) && decide (d.nextstart ≤ now)

def conditionsMet : Bool := d.conditions.entries.all fun c => !decide (c.2.done < c.2.reqNum)

def CheckOneGameEventConditions : GameEventData n × Bool :=
  if d.conditionsMet then
    ({ d with
      state := .WORLD_NEXTPHASE
      nextstart := if d.nextstart = 0 then now + minutes d.length else d.nextstart }, true)
  else (d, false)

def NextCheck : ℕ :=
  if (d.state = .WORLD_NEXTPHASE ∨ d.state = .WORLD_FINISHED) ∧ now ≤ d.nextstart then
    (d.nextstart - now) % 2 ^ 32
  else if d.state = .WORLD_CONDITIONS then
    if d.length ≠ 0 then minutes d.length else max_ge_check_delay
  else if d.end_ < now then max_ge_check_delay
  else if now < d.start then (d.start - now) % 2 ^ 32
  else
    let time := (now - d.start) % minutes d.occurence
    let delay := (if time < minutes d.length then minutes d.length else minutes d.occurence) - time
    if d.end_ < now + delay then (d.end_ - now) % 2 ^ 32 else delay

def isServerwide : Bool := decide (d.state ≠ .NORMAL ∧ d.state ≠ .INTERNAL)

end GameEventData

namespace GameEventMgr

variable (now : ℕ) (s : GameEventMgr n)

def setEvent (id : Fin n) (d : GameEventData n) : GameEventMgr n :=
  { s with mGameEvent := Function.update s.mGameEvent id d }

def CheckOneGameEvent (entry : Fin n) : Bool :=
  let d := s.mGameEvent entry
  match d.state with
  | .NORMAL => d.inPeriod now
  | .WORLD_CONDITIONS | .WORLD_NEXTPHASE => true
  | .WORLD_FINISHED | .INTERNAL => false
  | .WORLD_INACTIVE =>
    decide (∀ id ∈ d.prerequisite_events, (s.mGameEvent id).isCompleted now = true) &&
      !decide (d.prerequisite_events = ∅)

/-- `StartEvent`; the second value tells whether the event has completed. -/
def StartEvent (id : Fin n) (overwrite : Bool) : GameEventMgr n × Bool :=
  let d := s.mGameEvent id
  let s := { s with m_ActiveEvents := insert id s.m_ActiveEvents }
  if !d.isServerwide then
    if overwrite then
      (s.setEvent id
        { d with
          start := now
          end_ := if d.end_ ≤ now then now + d.length else d.end_ }, false)
    else (s, false)
  else
    let d := if d.state = .WORLD_INACTIVE then { d with state := .WORLD_CONDITIONS } else d
    let (d, conditions_met) := d.CheckOneGameEventConditions now
    (s.setEvent id d, conditions_met)

def StopEvent (id : Fin n) (overwrite : Bool) : GameEventMgr n :=
  let d := s.mGameEvent id
  let s := { s with m_ActiveEvents := s.m_ActiveEvents.erase id }
  if overwrite && !d.isServerwide then
    let start := now - minutes d.length
    s.setEvent id
      { d with
        start := start
        end_ := if d.end_ ≤ start then start + d.length else d.end_ }
  else if d.isServerwide && (overwrite || decide (d.state ≠ .WORLD_FINISHED)) then
    -- reset conditions
    s.setEvent id
      { d with
        nextstart := 0
        state := .WORLD_INACTIVE
        conditions := d.conditions.mapValues fun c => { c with done := 0 } }
  else s

/-- What the loop of `Update` over the events has found. -/
structure Scan (n : ℕ) where
  mgr : GameEventMgr n
  activate : List (Fin n)
  deactivate : List (Fin n)
  nextEventDelay : ℕ

def scanOne (now : ℕ) (c : Scan n) (itr : Fin n) : Scan n :=
  let s := c.mgr
  let d := s.mGameEvent itr
  let withDelay (c : Scan n) : Scan n :=
    { c with nextEventDelay := min c.nextEventDelay ((c.mgr.mGameEvent itr).NextCheck now) }
  if s.CheckOneGameEvent now itr then
    if d.state = .WORLD_NEXTPHASE ∧ d.nextstart ≤ now then
      -- set this event to finished, null the nextstart time
      { c with
        mgr := s.setEvent itr { d with state := .WORLD_FINISHED, nextstart := 0 }
        deactivate := if itr ∈ s.m_ActiveEvents then c.deactivate ++ [itr] else c.deactivate }
    else
      let d := if d.state = .WORLD_CONDITIONS then (d.CheckOneGameEventConditions now).1 else d
      withDelay
        { c with
          mgr := s.setEvent itr d
          activate := if itr ∉ s.m_ActiveEvents then c.activate ++ [itr] else c.activate }
  else
    withDelay
      { c with
        deactivate := if itr ∈ s.m_ActiveEvents then c.deactivate ++ [itr] else c.deactivate }

def eventIds (n : ℕ) : List (Fin n) := (List.finRange n).filter fun id => id.val ≠ 0

def scan : Scan n := (eventIds n).foldl (scanOne now) ⟨s, [], [], max_ge_check_delay⟩

/-- The queued events are started; an event that completes at once asks for the next update. -/
def startAll (ids : List (Fin n)) (p : GameEventMgr n × ℕ) : GameEventMgr n × ℕ :=
  ids.foldl (fun p id =>
    let (s, conditions_met) := p.1.StartEvent now id false
    (s, if conditions_met then 0 else p.2)) p

def stopAll (ids : List (Fin n)) (s : GameEventMgr n) : GameEventMgr n :=
  ids.foldl (fun s id => s.StopEvent now id false) s

def Update : GameEventMgr n × ℕ :=
  let c := s.scan now
  let (s, nextEventDelay) := startAll now c.activate (c.mgr, c.nextEventDelay)
  (stopAll now c.deactivate s, (nextEventDelay + 1) * 1000 % 2 ^ 32)

/-- `HandleQuestComplete`; the second value tells whether the events are updated at once. -/
def HandleQuestComplete (quest_id : ℕ) : GameEventMgr n × Bool :=
  match s.mQuestToEventConditions.lookup quest_id with
  | none => (s, false)
  | some q =>
    let d := s.mGameEvent q.event_id
    if q.event_id ∉ s.m_ActiveEvents ∨ d.state ≠ .WORLD_CONDITIONS then (s, false)
    else
      match d.conditions.lookup q.condition with
      | none => (s, false)
      | some c =>
        if c.done < c.reqNum then
          let done := c.done + q.num
          let done := if done > c.reqNum then c.reqNum else done
          let d := { d with conditions := d.conditions.insert q.condition { c with done := done } }
          let (d, conditions_met) := d.CheckOneGameEventConditions now
          (s.setEvent q.event_id d, conditions_met)
        else (s, false)

/-- `StartSystem`: the events as they were loaded, none of them active. -/
def load (events : Fin n → GameEventData n)
    (quests : Table ℕ (GameEventQuestToEventConditionNum n)) : GameEventMgr n where
  mGameEvent := events
  mQuestToEventConditions := quests
  m_ActiveEvents := ∅

end GameEventMgr

end WorldServer.Events
