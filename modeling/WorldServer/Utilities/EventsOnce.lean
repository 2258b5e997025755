import WorldServer.Utilities.EventProcessor

/-!
# Every event once

An event that was added is in the queue, is being executed, or has been deleted, and it is
deleted when it is complete or aborted. This holds along runs in which the events keep to what
`Execute` promises: an event that is executed returns false exactly if it has added itself
again, and no other event is added a second time.
-/
namespace WorldServer.Utilities

open WorldServer.Lib

/-! ### Counting -/

def adds (effects : List Effect) (event : ℕ) : ℕ :=
  effects.countP fun
    | .added entry => entry.2.event = event
    | _ => false

def completions (effects : List Effect) (event : ℕ) : ℕ := effects.count (.executed event true)

def aborts (effects : List Effect) (event : ℕ) : ℕ := effects.count (.aborted event)

def deletions (effects : List Effect) (event : ℕ) : ℕ := effects.count (.deleted event)

def queued (entries : List Entry) (event : ℕ) : ℕ := entries.countP (·.2.event = event)

lemma queued_cons (entry : Entry) (rest : List Entry) (event : ℕ) :
    queued (entry :: rest) event =
      queued rest event + if entry.2.event = event then 1 else 0 := by
  simp [queued, List.countP_cons]

lemma queued_append (entries entries' : List Entry) (event : ℕ) :
    queued (entries ++ entries') event = queued entries event + queued entries' event :=
  List.countP_append

namespace EventProcessor

variable {b : Behaviour} {p p' : EventProcessor}

/-- What `KillAllEvents` has done when it has passed over some entries. -/
structure Killed (p : EventProcessor) (entries : List Entry) (p' : EventProcessor)
    (kept : List Entry) : Prop where
  m_time : p'.m_time = p.m_time
  insertions : p'.insertions = p.insertions
  adds : ∀ e, adds p'.effects e = adds p.effects e
  completions : ∀ e, completions p'.effects e = completions p.effects e
  aborts : ∀ e, aborts p'.effects e = aborts p.effects e + queued entries e
  deletions : ∀ e, deletions p'.effects e + queued kept e = deletions p.effects e + queued entries e
  to_Abort : ∀ e, (p'.events e).to_Abort = true ↔
    (p.events e).to_Abort = true ∨ queued entries e ≠ 0

lemma Killed.trans {entries entries' kept kept' : List Entry} {p'' : EventProcessor}
    (first : Killed p entries p' kept) (second : Killed p' entries' p'' kept') :
    Killed p (entries ++ entries') p'' (kept ++ kept') where
  m_time := second.m_time.trans first.m_time
  insertions := second.insertions.trans first.insertions
  adds e := (second.adds e).trans (first.adds e)
  completions e := (second.completions e).trans (first.completions e)
  aborts e := by
    rw [second.aborts, first.aborts, queued_append]
    omega
  deletions e := by
    have here := first.deletions e
    have there := second.deletions e
    rw [queued_append, queued_append]
    omega
  to_Abort e := by
    have sum : queued entries e + queued entries' e ≠ 0 ↔
        queued entries e ≠ 0 ∨ queued entries' e ≠ 0 := by omega
    rw [second.to_Abort, first.to_Abort, queued_append, sum, or_assoc]

lemma killed_kept (p : EventProcessor) (entry : Entry) :
    Killed p [entry] ((p.abortEvent entry.2.event).record (.aborted entry.2.event)) [entry] where
  m_time := rfl
  insertions := rfl
  adds e := by simp [record, abortEvent, modifyEvent, WorldServer.Utilities.adds]
  completions e := by simp [record, abortEvent, modifyEvent, WorldServer.Utilities.completions]
  aborts e := by
    simp [record, abortEvent, modifyEvent, WorldServer.Utilities.aborts, queued,
      List.count_singleton, List.countP_singleton]
  deletions e := by simp [record, abortEvent, modifyEvent, WorldServer.Utilities.deletions]
  to_Abort e := by
    by_cases same : e = entry.2.event
    · subst same
      simp [record, abortEvent, modifyEvent, queued]
    · simp [record, abortEvent, modifyEvent, queued, same, Ne.symm same]

lemma killed_gone (p : EventProcessor) (entry : Entry) :
    Killed p [entry] ((((p.abortEvent entry.2.event).record (.aborted entry.2.event)).record
      (.deleted entry.2.event)).record (.killed entry)) [] where
  m_time := rfl
  insertions := rfl
  adds e := by simp [record, abortEvent, modifyEvent, WorldServer.Utilities.adds]
  completions e := by simp [record, abortEvent, modifyEvent, WorldServer.Utilities.completions]
  aborts e := by
    simp [record, abortEvent, modifyEvent, WorldServer.Utilities.aborts, queued, List.count_cons,
      List.countP_singleton]
  deletions e := by
    simp [record, abortEvent, modifyEvent, WorldServer.Utilities.deletions, queued, List.count_cons,
      List.countP_singleton]
  to_Abort e := ((killed_kept p entry).to_Abort e)

lemma killLoop_killed (b : Behaviour) (force : Bool) (entries : List Entry)
    (p : EventProcessor) :
    Killed p entries (killLoop b force p entries).1 (killLoop b force p entries).2 := by
  induction entries generalizing p with
  | nil =>
    exact ⟨rfl, rfl, fun _ => rfl, fun _ => rfl, fun _ => rfl, fun _ => rfl,
      by simp [killLoop, queued]⟩
  | cons entry rest ih =>
    rw [killLoop]
    split
    · exact (killed_gone p entry).trans (ih _)
    · exact (killed_kept p entry).trans (ih _)

/-! ### Once -/

/-- What has become of an event. -/
@[ext] structure Fate where
  adds : ℕ
  queued : ℕ
  /-- One while the event is being executed and has not added itself again. -/
  held : ℕ
  completions : ℕ
  aborts : ℕ
  deletions : ℕ
  to_Abort : Bool

/-- An event that was added is in one place, and it is deleted when it is complete or aborted,
but not both. -/
structure Fate.Sound (f : Fate) : Prop where
  fresh : f.adds = 0 → f.queued = 0 ∧ f.held = 0 ∧ f.deletions = 0 ∧ f.aborts = 0
  place : f.adds ≠ 0 → f.queued + f.held + f.deletions = 1
  settled : f.completions ≤ f.deletions ∧ f.deletions ≤ f.completions + f.aborts
  apart : f.completions ≠ 0 → f.aborts = 0
  marked : f.aborts ≠ 0 → f.deletions = 0 → f.to_Abort = true
  executing : f.held ≠ 0 → f.aborts = 0

/-- The event is not aborted before it is deleted. -/
def Fate.Single (f : Fate) : Prop := f.completions + f.aborts = f.deletions

def fate (p : EventProcessor) (held : Option ℕ) (event : ℕ) : Fate where
  adds := adds p.effects event
  queued := queued p.m_events.entries event
  held := if held = some event then 1 else 0
  completions := completions p.effects event
  aborts := aborts p.effects event
  deletions := deletions p.effects event
  to_Abort := (p.events event).to_Abort

/-- Every event, while `held` is being executed. -/
def Sound (p : EventProcessor) (held : Option ℕ) : Prop := ∀ e, (p.fate held e).Sound

def Single (p : EventProcessor) (held : Option ℕ) : Prop := ∀ e, (p.fate held e).Single

lemma Sound.init : Sound {} none := fun _ =>
  ⟨fun _ => ⟨rfl, rfl, rfl, rfl⟩, fun added => absurd rfl added, ⟨le_rfl, le_rfl⟩, fun _ => rfl,
    fun twice => absurd rfl twice, fun held => absurd rfl held⟩

/-- The events that may be added: new ones, and the one that is executed. -/
def MayAdd (p : EventProcessor) (held : Option ℕ) (event : ℕ) : Prop :=
  adds p.effects event = 0 ∨ held = some event

/-- An event that is executed is no longer held when it has added itself. -/
def heldAfter (held : Option ℕ) (event : ℕ) : Option ℕ :=
  if held = some event then none else held

lemma fate_addEvent (p : EventProcessor) (held : Option ℕ) (event e_time : ℕ)
    (set_addtime : Bool) (e : ℕ) :
    (p.addEvent event e_time set_addtime).fate (heldAfter held event) e =
      if event = e then
        { p.fate held e with
          adds := (p.fate held e).adds + 1
          queued := (p.fate held e).queued + 1
          held := 0 }
      else p.fate held e := by
  have inside : queued (p.m_events.insert e_time ⟨event, p.insertions⟩).entries e =
      queued p.m_events.entries e + if event = e then 1 else 0 := by
    rw [queued, TimeQueue.perm_insert.countP_eq, ← queued, queued_cons]
  have marked : ((p.addEvent event e_time set_addtime).events e).to_Abort =
      (p.events e).to_Abort := by
    simp only [EventProcessor.addEvent, events_modifyEvent]
    split <;> rfl
  by_cases here : event = e
  · rw [if_pos here] at inside ⊢
    ext
    · simp [fate, EventProcessor.addEvent, adds, here]
    · exact inside
    · simp [fate, heldAfter, ← here]
    · simp [fate, EventProcessor.addEvent, completions]
    · simp [fate, EventProcessor.addEvent, aborts]
    · simp [fate, EventProcessor.addEvent, deletions]
    · exact marked
  · rw [if_neg here] at inside ⊢
    ext
    · simp [fate, EventProcessor.addEvent, adds, here]
    · exact inside
    · by_cases itself : held = some event
      · simp [fate, heldAfter, itself, here]
      · simp [fate, heldAfter, itself]
    · simp [fate, EventProcessor.addEvent, completions]
    · simp [fate, EventProcessor.addEvent, aborts]
    · simp [fate, EventProcessor.addEvent, deletions]
    · exact marked

variable {held : Option ℕ} {entry : Entry} {rest : List Entry}

lemma Sound.addEvent (sound : Sound p held) {event : ℕ} (may : MayAdd p held event) (e_time : ℕ)
    (set_addtime : Bool) : Sound (p.addEvent event e_time set_addtime) (heldAfter held event) := by
  intro e
  obtain ⟨fresh, place, settled, apart, marked, executing⟩ := sound e
  rw [fate_addEvent]
  by_cases here : event = e
  · -- a new event, or the one that is executed and leaves that place
    subst here
    have waits : (p.fate held event).queued = 0 ∧ (p.fate held event).deletions = 0 ∧
        (p.fate held event).aborts = 0 := by
      rcases may with new | itself
      · obtain ⟨queued, -, deletions, aborts⟩ := fresh new
        exact ⟨queued, deletions, aborts⟩
      · have one : (p.fate held event).held = 1 := by simp [fate, itself]
        have known : (p.fate held event).adds ≠ 0 := fun none => by
          have := (fresh none).2.1
          omega
        have whole := place known
        have clean := executing (by omega)
        omega
    rw [if_pos rfl]
    constructor <;> simp only <;> intros <;> omega
  · rw [if_neg here]
    exact sound e

lemma Single.addEvent (single : Single p held) (event e_time : ℕ) (set_addtime : Bool) :
    Single (p.addEvent event e_time set_addtime) (heldAfter held event) := by
  intro e
  have before := single e
  rw [fate_addEvent]
  split
  · exact before
  · exact before

lemma Sound.abortEvent (sound : Sound p held) (event : ℕ) : Sound (p.abortEvent event) held := by
  intro e
  obtain ⟨fresh, place, settled, apart, marked, executing⟩ := sound e
  refine ⟨fresh, place, settled, apart, fun twice alive => ?_, executing⟩
  have before := marked twice alive
  by_cases here : e = event
  · simp [fate, EventProcessor.abortEvent, here]
  · simpa [fate, EventProcessor.abortEvent, here] using before

lemma fate_killAllEvents (b : Behaviour) (p : EventProcessor) (force : Bool)
    (held : Option ℕ) (e : ℕ) :
    ∃ kept, kept ≤ (p.fate held e).queued ∧
      (p.killAllEvents b force).fate held e =
        { p.fate held e with
          queued := kept
          aborts := (p.fate held e).aborts + (p.fate held e).queued
          deletions := (p.fate held e).deletions + (p.fate held e).queued - kept
          to_Abort := (p.fate held e).to_Abort || (p.fate held e).queued != 0 } := by
  have done := killLoop_killed b force p.m_events.entries { p with m_aborting := true }
  have fewer := (killLoop_sublist b { p with m_aborting := true } force
    p.m_events.entries).countP_le (p := (·.2.event = e))
  refine ⟨_, fewer, ?_⟩
  ext
  · exact done.adds e
  · rfl
  · rfl
  · exact done.completions e
  · exact done.aborts e
  · exact Nat.eq_sub_of_add_eq (done.deletions e)
  · rw [Bool.eq_iff_iff]
    refine (done.to_Abort e).trans ?_
    simp [fate]

lemma Sound.killAllEvents (sound : Sound p held) (b : Behaviour) (force : Bool) :
    Sound (p.killAllEvents b force) held := by
  intro e
  obtain ⟨fresh, place, settled, apart, marked, executing⟩ := sound e
  obtain ⟨kept, fewer, killed⟩ := fate_killAllEvents b p force held e
  rw [killed]
  constructor
  · intro none
    have := fresh none
    simp only at *
    omega
  · intro some
    have := place some
    simp only at *
    omega
  · simp only at *
    omega
  · intro complete
    have := apart complete
    simp only at *
    have known : (p.fate held e).adds ≠ 0 := fun none => by
      have := fresh none
      omega
    have := place known
    omega
  · intro twice alive
    simp only at *
    by_cases inside : (p.fate held e).queued = 0
    · have := marked (by omega) (by omega)
      simp [this]
    · simp [inside]
  · intro held'
    simp only at *
    have known : (p.fate held e).adds ≠ 0 := fun none => by
      have := fresh none
      omega
    have := place known
    have := executing held'
    omega

lemma Single.killAllEvents (single : Single p held) {b : Behaviour} {force : Bool}
    (nothing : (p.killAllEvents b force).m_events.entries = []) :
    Single (p.killAllEvents b force) held := by
  intro e
  have before := single e
  obtain ⟨kept, fewer, killed⟩ := fate_killAllEvents b p force held e
  have none : kept = 0 := by
    have here := congrArg Fate.queued killed
    simp only [fate, nothing] at here
    exact here.symm
  rw [killed]
  simp only [Fate.Single, none] at *
  omega

/-! ### What the events promise -/

def heldAfterCall (held : Option ℕ) : Call → Option ℕ
  | .addEvent event _ _ => heldAfter held event
  | _ => held

def MayCall (p : EventProcessor) (held : Option ℕ) : Call → Prop
  | .addEvent event _ _ => p.MayAdd held event
  | _ => True

/-- The event `held` makes these calls and returns `complete`: it adds new events and, at most
once, itself, and it returns false exactly if it has done so. -/
def Honest (b : Behaviour) (complete : Bool) :
    EventProcessor → Option ℕ → List Call → Prop
  | _, held, [] => complete = held.isSome
  | p, held, c :: rest =>
    p.MayCall held c ∧ Honest b complete (p.make b c) (heldAfterCall held c) rest

/-- Each of the entries is deletable when `KillAllEvents` comes to it. -/
def AllDeletable (b : Behaviour) : EventProcessor → List Entry → Prop
  | _, [] => True
  | p, entry :: rest =>
    let p := (p.abortEvent entry.2.event).record (.aborted entry.2.event)
    b.isDeletable p.effects entry.2.event = true ∧
      AllDeletable b ((p.record (.deleted entry.2.event)).record (.killed entry)) rest

def Clears (b : Behaviour) (p : EventProcessor) : Call → Prop
  | .killAllEvents false => AllDeletable b { p with m_aborting := true } p.m_events.entries
  | _ => True

def AllClear (b : Behaviour) : EventProcessor → List Call → Prop
  | _, [] => True
  | p, c :: rest => p.Clears b c ∧ AllClear b (p.make b c) rest

lemma killLoop_of_allDeletable {b : Behaviour} {entries : List Entry} {p : EventProcessor}
    (all : AllDeletable b p entries) : (killLoop b false p entries).2 = [] := by
  induction entries generalizing p with
  | nil => rfl
  | cons entry rest ih =>
    obtain ⟨deletable, all⟩ := all
    rw [killLoop, if_pos (by rw [deletable, Bool.or_true])]
    exact ih all

lemma killLoop_of_force (b : Behaviour) (entries : List Entry) (p : EventProcessor) :
    (killLoop b true p entries).2 = [] := by
  induction entries generalizing p with
  | nil => rfl
  | cons entry rest ih =>
    exact ih _

lemma killAllEvents_clears {b : Behaviour} {force : Bool}
    (clears : p.Clears b (.killAllEvents force)) :
    (p.killAllEvents b force).m_events.entries = [] := by
  cases force with
  | true => exact killLoop_of_force b _ _
  | false => exact killLoop_of_allDeletable clears

/-! ### Calls and rounds -/

lemma Sound.make (sound : Sound p held) {c : Call} (may : p.MayCall held c) :
    Sound (p.make b c) (heldAfterCall held c) := by
  cases c with
  | addEvent event e_time set_addtime => exact sound.addEvent may e_time set_addtime
  | killAllEvents force => exact sound.killAllEvents b force
  | abortEvent event => exact sound.abortEvent event

lemma Single.make (single : Single p held) {c : Call} (clears : p.Clears b c) :
    Single (p.make b c) (heldAfterCall held c) := by
  cases c with
  | addEvent event e_time set_addtime => exact single.addEvent event e_time set_addtime
  | killAllEvents force => exact single.killAllEvents (killAllEvents_clears clears)
  | abortEvent event => exact single

lemma heldAfterCall_cases (held : Option ℕ) (c : Call) :
    heldAfterCall held c = held ∨ heldAfterCall held c = none := by
  cases c with
  | addEvent event e_time set_addtime =>
    by_cases itself : held = some event
    · exact .inr (if_pos itself)
    · exact .inl (if_neg itself)
  | _ => exact .inl rfl

lemma Sound.makeAll (sound : Sound p held) {complete : Bool} {calls : List Call}
    (honest : Honest b complete p held calls) :
    ∃ held', Sound (p.makeAll b calls) held' ∧ complete = held'.isSome ∧
      (held' = held ∨ held' = none) := by
  induction calls generalizing p held with
  | nil => exact ⟨held, sound, honest, .inl rfl⟩
  | cons c rest ih =>
    obtain ⟨may, honest⟩ := honest
    obtain ⟨held', sound', returned, same⟩ := ih (sound.make may) honest
    refine ⟨held', sound', returned, ?_⟩
    rcases same with rfl | none
    · exact heldAfterCall_cases held c
    · exact .inr none

lemma Single.makeAll (single : Single p held) {calls : List Call} (clear : AllClear b p calls) :
    Single (p.makeAll b calls) held := by
  induction calls generalizing p with
  | nil => exact single
  | cons c rest ih => exact ih (single.make clear.1) clear.2

lemma fate_take (front : p.m_events.entries = entry :: rest) (held : Option ℕ) (e : ℕ) :
    (p.take entry).fate held e =
      { p.fate held e with
        queued := (p.fate held e).queued - if entry.2.event = e then 1 else 0 } := by
  have fewer : queued p.m_events.eraseFront.entries e =
      queued p.m_events.entries e - if entry.2.event = e then 1 else 0 := by
    rw [TimeQueue.eraseFront_entries front, front, queued_cons, Nat.add_sub_cancel]
  ext
  · simp [fate, take, adds]
  · exact fewer
  · rfl
  · simp [fate, take, completions]
  · simp [fate, take, aborts]
  · simp [fate, take, deletions]
  · rfl

/-- What is true of a round that executes the front: its promise, and its kills. -/
def Executes (b : Behaviour) (p : EventProcessor) (p_time : ℕ) (entry : Entry)
    (P : EventProcessor → List Call → Bool → Prop) : Prop :=
  (p.events entry.2.event).to_Abort = false →
    let taken := p.take entry
    let script := b.execute taken.effects entry taken.m_time p_time
    P taken script.1 script.2

section

variable (p) (event : ℕ)

lemma fate_finish_aborted (e : ℕ) :
    ((p.record (.aborted event)).record (.deleted event)).fate none e =
      if event = e then
        { p.fate none e with
          aborts := (p.fate none e).aborts + 1
          deletions := (p.fate none e).deletions + 1 }
      else p.fate none e := by
  split
  next here =>
    subst here
    ext <;> simp [fate, adds, completions, aborts, deletions]
  next other => ext <;> simp [fate, adds, completions, aborts, deletions, other]

lemma fate_finish_executed (e : ℕ) :
    ((p.record (.executed event true)).record (.deleted event)).fate none e =
      if event = e then
        { p.fate (some event) e with
          held := 0
          completions := (p.fate (some event) e).completions + 1
          deletions := (p.fate (some event) e).deletions + 1 }
      else p.fate (some event) e := by
  split
  next here =>
    subst here
    ext <;> simp [fate, adds, completions, aborts, deletions]
  next other => ext <;> simp [fate, adds, completions, aborts, deletions, other]

lemma fate_incomplete (held : Option ℕ) (e : ℕ) :
    (p.record (.executed event false)).fate held e = p.fate held e := by
  ext <;> simp [fate, adds, completions, aborts, deletions]

lemma fate_some (e : ℕ) :
    p.fate (some event) e = { p.fate none e with held := if event = e then 1 else 0 } := by
  ext <;> simp [fate]

end

lemma Sound.front (sound : Sound p none) (front : p.m_events.entries = entry :: rest) :
    (p.fate none entry.2.event).adds ≠ 0 ∧ (p.fate none entry.2.event).queued = 1 ∧
      (p.fate none entry.2.event).deletions = 0 ∧ (p.fate none entry.2.event).completions = 0 := by
  obtain ⟨fresh, place, settled, -, -, -⟩ := sound entry.2.event
  have here : (p.fate none entry.2.event).queued ≠ 0 := by
    simp [fate, front, queued_cons]
  have known : (p.fate none entry.2.event).adds ≠ 0 := fun none => here (fresh none).1
  have whole := place known
  omega

lemma Sound.take (sound : Sound p none) (front : p.m_events.entries = entry :: rest)
    (unmarked : (p.events entry.2.event).to_Abort = false) :
    Sound (p.take entry) (some entry.2.event) := by
  obtain ⟨known, queued, deletions, completions⟩ := sound.front front
  intro e
  obtain ⟨fresh, place, settled, apart, marked, executing⟩ := sound e
  rw [fate_take front, fate_some]
  by_cases here : entry.2.event = e
  · subst here
    have clean : (p.fate none entry.2.event).aborts = 0 := by
      by_contra twice
      have := marked twice deletions
      simp [fate, unmarked] at this
    rw [if_pos rfl]
    constructor <;> simp only <;> intros <;> omega
  · rw [if_neg here]
    exact sound e

lemma Sound.turn (sound : Sound p none) {p_time : ℕ} (front : p.m_events.entries = entry :: rest)
    (honest : p.Executes b p_time entry fun taken calls complete =>
      Honest b complete taken (some entry.2.event) calls) : Sound (p.turn b p_time entry) none := by
  cases marked : (p.events entry.2.event).to_Abort with
  | true =>
    obtain ⟨known, queued, deletions, completions⟩ := sound.front front
    intro e
    rw [turn_of_marked p_time marked, fate_finish_aborted, fate_take front]
    obtain ⟨fresh, place, settled, apart, marks, executing⟩ := sound e
    by_cases here : entry.2.event = e
    · subst here
      have whole := place known
      rw [if_pos rfl, if_pos rfl]
      constructor <;> simp only <;> intros <;> omega
    · rw [if_neg here, if_neg here]
      exact sound e
  | false =>
    obtain ⟨held, sound', returned, same⟩ := (sound.take front marked).makeAll (honest marked)
    rw [turn_of_unmarked p_time marked]
    dsimp only
    cases complete : (b.execute (p.take entry).effects entry (p.take entry).m_time p_time).2 with
    | true =>
      have itself : held = some entry.2.event := by
        rcases same with same | rfl
        · exact same
        · simp [complete] at returned
      subst itself
      rw [if_pos rfl]
      intro e
      rw [fate_finish_executed]
      obtain ⟨fresh, place, settled, apart, marks, executing⟩ := sound' e
      by_cases here : entry.2.event = e
      · subst here
        -- it was held until now, so it is nowhere else and was never aborted
        have one : (fate ((p.take entry).makeAll b (b.execute (p.take entry).effects entry
            (p.take entry).m_time p_time).1) (some entry.2.event) entry.2.event).held = 1 := by
          simp [fate]
        rw [if_pos rfl]
        generalize ((p.take entry).makeAll b _).fate (some entry.2.event) entry.2.event = f at *
        have known : f.adds ≠ 0 := fun none => by
          have := (fresh none).2.1
          omega
        have whole := place known
        have clean := executing (by omega)
        constructor <;> simp only <;> intros <;> omega
      · rw [if_neg here]
        exact sound' e
    | false =>
      have gone : held = none := by
        rw [complete] at returned
        simpa using returned.symm
      subst gone
      rw [if_neg (by simp)]
      intro e
      rw [fate_incomplete]
      exact sound' e

lemma Single.turn (single : Single p none) {p_time : ℕ}
    (front : p.m_events.entries = entry :: rest)
    (clear : p.Executes b p_time entry fun taken calls _ => AllClear b taken calls) :
    Single (p.turn b p_time entry) none := by
  have taken : Single (p.take entry) none := fun e => by
    rw [fate_take front]
    exact single e
  cases marked : (p.events entry.2.event).to_Abort with
  | true =>
    intro e
    have before := taken e
    rw [turn_of_marked p_time marked, fate_finish_aborted]
    split
    · simp only [Fate.Single] at before ⊢
      omega
    · exact before
  | false =>
    have called := taken.makeAll (clear marked)
    rw [turn_of_unmarked p_time marked]
    dsimp only
    split
    next complete =>
      intro e
      have before := called e
      rw [complete, fate_finish_executed]
      split
      · simp only [Fate.Single] at before ⊢
        rw [fate_some]
        simp only
        omega
      · exact before
    next incomplete =>
      intro e
      rw [(Bool.not_eq_true _).mp incomplete, fate_incomplete]
      exact called e

end EventProcessor

/-! ### Runs -/

namespace Machine

variable {b : Behaviour} {m : Machine}

/-- Whoever makes calls in this step keeps to what `Execute` promises. -/
def Honest (b : Behaviour) (m : Machine) : Action → Prop
  | .call c => m.round = none → m.processor.MayCall none c
  | .update _ => True
  | .advance => ∀ round entry, m.round = some round → m.next = some entry →
      m.processor.Executes b round.p_time entry fun taken calls complete =>
        EventProcessor.Honest b complete taken (some entry.2.event) calls

def AllClear (b : Behaviour) (m : Machine) : Action → Prop
  | .call c => m.round = none → m.processor.Clears b c
  | .update _ => True
  | .advance => ∀ round entry, m.round = some round → m.next = some entry →
      m.processor.Executes b round.p_time entry fun taken calls _ =>
        EventProcessor.AllClear b taken calls

lemma heldAfterCall_none (c : Call) : EventProcessor.heldAfterCall none c = none := by
  cases c <;> rfl

lemma sound_step (sound : m.processor.Sound none) {a : Action} (honest : m.Honest b a) :
    (m.step b a).processor.Sound none := by
  cases a with
  | call c =>
    dsimp only [step]
    split
    next idle =>
      have called := sound.make (b := b) (honest (by simpa using idle))
      rwa [heldAfterCall_none] at called
    next => exact sound
  | update p_time =>
    dsimp only [step]
    split
    · exact sound
    · exact sound
  | advance =>
    rcases advance_cases b m with ⟨round, entry, rest, started, next, front, -, after⟩ | ⟨after, -⟩
    · rw [after]
      exact sound.turn front (honest round entry started next)
    · rw [after]
      exact sound

lemma single_step (single : m.processor.Single none) {a : Action} (clear : m.AllClear b a) :
    (m.step b a).processor.Single none := by
  cases a with
  | call c =>
    dsimp only [step]
    split
    next idle =>
      have called := single.make (b := b) (clear (by simpa using idle))
      rwa [heldAfterCall_none] at called
    next => exact single
  | update p_time =>
    dsimp only [step]
    split
    · exact single
    · exact single
  | advance =>
    rcases advance_cases b m with ⟨round, entry, rest, started, next, front, -, after⟩ | ⟨after, -⟩
    · rw [after]
      exact single.turn front (clear round entry started next)
    · rw [after]
      exact single

end Machine

end WorldServer.Utilities
