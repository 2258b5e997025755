import Mathlib.Algebra.Order.Group.Nat
import WorldServer.Lib.Run
import WorldServer.Lib.TimeQueue

/-!
# The event processor

A unit has events planned for later. `Update` takes them out of the queue when their time has
come and executes them, and an event that is executed may add events, itself included, and may
kill all events of the queue. What an event does is a function of everything that has happened
before; aborting it makes no calls.
-/
namespace WorldServer.Utilities

open WorldServer.Lib

structure BasicEvent where
  to_Abort : Bool := false
  m_addTime : ℕ := 0
  m_execTime : ℕ := 0
deriving DecidableEq

/-- An event in the queue, named by its address, with the number of its insertion. -/
structure Planned where
  event : ℕ
  place : ℕ
deriving DecidableEq

abbrev Entry := ℕ × Planned

/-- What happens to events. -/
inductive Effect where
  | added (entry : Entry)
  | taken (entry : Entry)
  | killed (entry : Entry)
  | executed (event : ℕ) (complete : Bool)
  | aborted (event : ℕ)
  | deleted (event : ℕ)
deriving DecidableEq

structure EventProcessor where
  m_time : ℕ := 0
  m_events : TimeQueue ℕ Planned := .empty
  /-- Nothing reads it. -/
  m_aborting : Bool := false
  events : ℕ → BasicEvent := fun _ => {}
  insertions : ℕ := 0
  effects : List Effect := []

inductive Call where
  | addEvent (event e_time : ℕ) (set_addtime : Bool)
  | killAllEvents (force : Bool)
  | abortEvent (event : ℕ)
deriving DecidableEq

/-- The virtual functions of the events. -/
structure Behaviour where
  /-- The calls made, and the value returned. -/
  execute : List Effect → Entry → (e_time p_time : ℕ) → List Call × Bool
  isDeletable : List Effect → ℕ → Bool

namespace EventProcessor

variable (b : Behaviour) (p : EventProcessor)

def record (effect : Effect) : EventProcessor := { p with effects := p.effects ++ [effect] }

def modifyEvent (event : ℕ) (f : BasicEvent → BasicEvent) : EventProcessor :=
  { p with events := Function.update p.events event (f (p.events event)) }

@[simp] lemma effects_record (effect : Effect) :
    (p.record effect).effects = p.effects ++ [effect] := rfl

@[simp] lemma m_events_record (effect : Effect) :
    (p.record effect).m_events = p.m_events := rfl

@[simp] lemma events_record (effect : Effect) : (p.record effect).events = p.events := rfl

section

variable (event : ℕ) (f : BasicEvent → BasicEvent)

@[simp] lemma effects_modifyEvent : (p.modifyEvent event f).effects = p.effects := rfl

@[simp] lemma m_events_modifyEvent : (p.modifyEvent event f).m_events = p.m_events := rfl

@[simp] lemma events_modifyEvent (e : ℕ) :
    (p.modifyEvent event f).events e = if e = event then f (p.events e) else p.events e := by
  by_cases same : e = event
  · simp [modifyEvent, same]
  · simp [modifyEvent, same]

end

def addEvent (event e_time : ℕ) (set_addtime : Bool) : EventProcessor :=
  let p := p.modifyEvent event fun data =>
    { data with
      m_addTime := if set_addtime then p.m_time else data.m_addTime
      m_execTime := e_time }
  { p with
    m_events := p.m_events.insert e_time ⟨event, p.insertions⟩
    insertions := p.insertions + 1
    effects := p.effects ++ [.added (e_time, ⟨event, p.insertions⟩)] }

section

variable (event e_time : ℕ) (set_addtime : Bool)

@[simp] lemma effects_addEvent :
    (p.addEvent event e_time set_addtime).effects =
      p.effects ++ [.added (e_time, ⟨event, p.insertions⟩)] := rfl

@[simp] lemma m_events_addEvent :
    (p.addEvent event e_time set_addtime).m_events =
      p.m_events.insert e_time ⟨event, p.insertions⟩ := rfl

@[simp] lemma insertions_addEvent :
    (p.addEvent event e_time set_addtime).insertions = p.insertions + 1 := rfl

end

def abortEvent (event : ℕ) : EventProcessor :=
  p.modifyEvent event fun data => { data with to_Abort := true }

/-- The loop of `KillAllEvents`, with the entries that stay in the queue. -/
def killLoop (force : Bool) : EventProcessor → List Entry → EventProcessor × List Entry
  | p, [] => (p, [])
  | p, entry :: rest =>
    let p := (p.abortEvent entry.2.event).record (.aborted entry.2.event)
    if force || b.isDeletable p.effects entry.2.event then
      killLoop force ((p.record (.deleted entry.2.event)).record (.killed entry)) rest
    else
      let (p, kept) := killLoop force p rest
      (p, entry :: kept)

lemma killLoop_sublist (force : Bool) (entries : List Entry) :
    (killLoop b force p entries).2.Sublist entries := by
  induction entries generalizing p with
  | nil => exact List.Sublist.refl _
  | cons entry rest ih =>
    rw [killLoop]
    split
    · exact (ih _).trans (List.sublist_cons_self _ _)
    · exact (ih _).cons_cons _

/-- With `force` nothing stays, and the queue is cleared at once. -/
def killAllEvents (force : Bool) : EventProcessor :=
  let p := { p with m_aborting := true }
  let done := killLoop b force p p.m_events.entries
  { done.1 with
    m_events := ⟨done.2, p.m_events.sorted.sublist (killLoop_sublist b p force _)⟩ }

def make : Call → EventProcessor
  | .addEvent event e_time set_addtime => p.addEvent event e_time set_addtime
  | .killAllEvents force => p.killAllEvents b force
  | .abortEvent event => p.abortEvent event

def makeAll (calls : List Call) : EventProcessor := calls.foldl (make b) p

def take (entry : Entry) : EventProcessor :=
  { p with m_events := p.m_events.eraseFront, effects := p.effects ++ [.taken entry] }

/-- One round of the loop of `Update`. -/
def turn (p_time : ℕ) (entry : Entry) : EventProcessor :=
  let p := p.take entry
  if ¬ (p.events entry.2.event).to_Abort then
    let (calls, complete) := b.execute p.effects entry p.m_time p_time
    let p := (p.makeAll b calls).record (.executed entry.2.event complete)
    -- completely destroy event if it is not re-added
    if complete then p.record (.deleted entry.2.event) else p
  else (p.record (.aborted entry.2.event)).record (.deleted entry.2.event)

variable {b p}

lemma turn_of_marked {entry : Entry} (p_time : ℕ)
    (marked : (p.events entry.2.event).to_Abort = true) :
    p.turn b p_time entry = ((p.take entry).record (.aborted entry.2.event)).record
      (.deleted entry.2.event) := by
  have same : ((p.take entry).events entry.2.event).to_Abort = true := marked
  simp [turn, same]

lemma turn_of_unmarked {entry : Entry} (p_time : ℕ)
    (unmarked : (p.events entry.2.event).to_Abort = false) :
    p.turn b p_time entry =
      let script := b.execute (p.take entry).effects entry (p.take entry).m_time p_time
      let p := ((p.take entry).makeAll b script.1).record (.executed entry.2.event script.2)
      if script.2 then p.record (.deleted entry.2.event) else p := by
  have same : ((p.take entry).events entry.2.event).to_Abort = false := unmarked
  simp [turn, same]

end EventProcessor

/-! ### Runs -/

/-- An `Update` under way, with the queue and the number of effects at its beginning. -/
structure Round where
  p_time : ℕ
  start : List Entry
  mark : ℕ
deriving DecidableEq

structure Machine where
  processor : EventProcessor := {}
  round : Option Round := none

/-- What the owner of the processor does. -/
inductive Action where
  | call (c : Call)
  | update (p_time : ℕ)
  | advance
deriving DecidableEq

namespace Machine

variable (b : Behaviour) (m : Machine)

def next : Option Entry :=
  match m.round, m.processor.m_events.entries with
  | some _, entry :: _ => if entry.1 ≤ m.processor.m_time then some entry else none
  | _, _ => none

def step : Action → Machine
  | .call c => if m.round.isNone then { m with processor := m.processor.make b c } else m
  | .update p_time =>
    if m.round.isNone then
      { processor := { m.processor with m_time := m.processor.m_time + p_time }
        round := some ⟨p_time, m.processor.m_events.entries, m.processor.effects.length⟩ }
    else m
  | .advance =>
    match m.round, m.next with
    | some round, some entry => { m with processor := m.processor.turn b round.p_time entry }
    | _, _ => { m with round := none }

/-- The loop makes a round with the front of the queue, or it ends because nothing is due. -/
lemma advance_cases (b : Behaviour) (m : Machine) :
    (∃ round entry rest, m.round = some round ∧ m.next = some entry ∧
      m.processor.m_events.entries = entry :: rest ∧ entry.1 ≤ m.processor.m_time ∧
      m.step b .advance = { m with processor := m.processor.turn b round.p_time entry }) ∨
    (m.step b .advance = { m with round := none } ∧
      (m.round.isSome → ∀ entry ∈ m.processor.m_events.entries, m.processor.m_time < entry.1)) := by
  cases started : m.round with
  | none => exact .inr ⟨by simp [step, next, started], by simp⟩
  | some round =>
    cases front : m.processor.m_events.entries with
    | nil => exact .inr ⟨by simp [step, next, started, front], by simp⟩
    | cons entry rest =>
      by_cases due : entry.1 ≤ m.processor.m_time
      · have next : m.next = some entry := by simp [Machine.next, started, front, due]
        exact .inl ⟨round, entry, rest, rfl, next, rfl, due, by simp [step, started, next]⟩
      · refine .inr ⟨by simp [step, Machine.next, started, front, due], fun _ => ?_⟩
        have sorted := m.processor.m_events.sorted
        rw [front] at sorted
        intro other mem
        have first := Nat.lt_of_not_le due
        rcases List.mem_cons.mp mem with rfl | mem
        · exact first
        · exact first.trans_le ((List.pairwise_cons.mp sorted).1 other mem)

end Machine

end WorldServer.Utilities
