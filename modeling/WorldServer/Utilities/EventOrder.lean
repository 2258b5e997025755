import WorldServer.Utilities.EventsOnce

/-!
# The order of events

An `Update` takes out what is due and nothing else: what was in the queue at its beginning or was
added since is taken, killed or still there. The events are taken by time and, at one time, in
the order of their insertion, as long as no event adds one earlier than itself. If all events
that are added come later, the `Update` ends.
-/
namespace WorldServer.Utilities

open WorldServer.Lib

/-- The order in which the queue gives entries out. -/
def Before (x y : Entry) : Prop := x.1 < y.1 ∨ (x.1 = y.1 ∧ x.2.place < y.2.place)

lemma Before.trans {x y z : Entry} (first : Before x y) (second : Before y z) : Before x z := by
  unfold Before at *
  omega

lemma before_insertLast {entries : List Entry} (sorted : entries.Pairwise Before)
    {planned : Planned} (newest : ∀ x ∈ entries, x.2.place < planned.place) (e_time : ℕ) :
    (insertLast e_time planned entries).Pairwise Before := by
  induction entries with
  | nil => exact List.pairwise_singleton _ _
  | cons entry rest ih =>
    obtain ⟨first, sorted⟩ := List.pairwise_cons.mp sorted
    have newest' : ∀ x ∈ rest, x.2.place < planned.place := fun x mem =>
      newest x (List.mem_cons_of_mem _ mem)
    rw [insertLast]
    split
    next earlier =>
      have here : Before (e_time, planned) entry := .inl earlier
      refine List.pairwise_cons.mpr ⟨?_, List.pairwise_cons.mpr ⟨first, sorted⟩⟩
      intro other mem
      rcases List.mem_cons.mp mem with rfl | mem
      · exact here
      · exact here.trans (first other mem)
    next later =>
      refine List.pairwise_cons.mpr ⟨?_, ih sorted newest'⟩
      intro other mem
      rcases List.mem_cons.mp ((perm_insertLast e_time planned rest).mem_iff.mp mem) with rfl | old
      · have place := newest entry (by simp)
        rcases Nat.lt_or_eq_of_le (Nat.le_of_not_lt later) with before | same
        · exact .inl before
        · exact .inr ⟨same, place⟩
      · exact first other old

/-! ### What the effects say -/

def takenOf (effects : List Effect) : List Entry :=
  effects.filterMap fun
    | .taken entry => some entry
    | _ => none

/-- From one queue to another, every entry that came or went is among the effects. -/
def Accounts (entries : List Entry) (effects : List Effect) (entries' : List Entry) : Prop :=
  ∀ x, entries.count x + effects.count (.added x) =
    effects.count (.taken x) + effects.count (.killed x) + entries'.count x

lemma Accounts.trans {entries entries' entries'' : List Entry} {effects effects' : List Effect}
    (first : Accounts entries effects entries') (second : Accounts entries' effects' entries'') :
    Accounts entries (effects ++ effects') entries'' := by
  intro x
  have here := first x
  have there := second x
  simp only [List.count_append]
  omega

variable {entry : Entry} {rest : List Entry}

namespace EventProcessor

variable {b : Behaviour} {p : EventProcessor}

/-- Some calls: nothing is taken, and the rest is accounted for. -/
def Called (p p' : EventProcessor) : Prop :=
  p'.m_time = p.m_time ∧ ∃ effects, p'.effects = p.effects ++ effects ∧ takenOf effects = [] ∧
    Accounts p.m_events.entries effects p'.m_events.entries

lemma Called.refl (p : EventProcessor) : Called p p :=
  ⟨rfl, [], by simp, rfl, fun x => by simp⟩

lemma Called.trans {p' p'' : EventProcessor} (first : Called p p') (second : Called p' p'') :
    Called p p'' := by
  obtain ⟨time, effects, same, none, accounts⟩ := first
  obtain ⟨time', effects', same', none', accounts'⟩ := second
  refine ⟨time'.trans time, effects ++ effects', ?_, ?_, accounts.trans accounts'⟩
  · rw [same', same, List.append_assoc]
  · rw [takenOf, List.filterMap_append, ← takenOf, ← takenOf, none, none']
    rfl

lemma called_addEvent (p : EventProcessor) (event e_time : ℕ) (set_addtime : Bool) :
    Called p (p.addEvent event e_time set_addtime) := by
  refine ⟨rfl, [.added (e_time, ⟨event, p.insertions⟩)], rfl, rfl, fun x => ?_⟩
  have inserted := (TimeQueue.perm_insert (q := p.m_events) (k := e_time)
    (a := ⟨event, p.insertions⟩)).count_eq x
  rw [m_events_addEvent, inserted]
  simp [List.count_cons]

lemma killLoop_accounts (b : Behaviour) (force : Bool) (entries : List Entry)
    (p : EventProcessor) :
    (killLoop b force p entries).1.m_time = p.m_time ∧
    ∃ effects, (killLoop b force p entries).1.effects = p.effects ++ effects ∧
      takenOf effects = [] ∧ Accounts entries effects (killLoop b force p entries).2 := by
  induction entries generalizing p with
  | nil => exact ⟨rfl, [], by simp [killLoop], rfl, fun x => by simp [killLoop]⟩
  | cons entry rest ih =>
    rw [killLoop]
    split
    · obtain ⟨time, effects, same, none, accounts⟩ := ih
        ((((p.abortEvent entry.2.event).record (.aborted entry.2.event)).record
          (.deleted entry.2.event)).record (.killed entry))
      refine ⟨time, .aborted entry.2.event :: .deleted entry.2.event :: .killed entry :: effects,
        ?_, none, fun x => ?_⟩
      · rw [same]
        simp [abortEvent]
      · have := accounts x
        simp only [List.count_cons]
        simp
        omega
    · obtain ⟨time, effects, same, none, accounts⟩ := ih
        ((p.abortEvent entry.2.event).record (.aborted entry.2.event))
      refine ⟨time, .aborted entry.2.event :: effects, ?_, none, fun x => ?_⟩
      · rw [same]
        simp [abortEvent]
      · have := accounts x
        simp only [List.count_cons]
        simp
        omega

lemma called_make (b : Behaviour) (p : EventProcessor) (c : Call) : Called p (p.make b c) := by
  cases c with
  | addEvent event e_time set_addtime => exact called_addEvent p event e_time set_addtime
  | killAllEvents force =>
    exact killLoop_accounts b force p.m_events.entries { p with m_aborting := true }
  | abortEvent event => exact Called.refl p

lemma called_makeAll (b : Behaviour) (p : EventProcessor) (calls : List Call) :
    Called p (p.makeAll b calls) := by
  induction calls generalizing p with
  | nil => exact Called.refl p
  | cons c rest ih => exact (called_make b p c).trans (ih _)

lemma called_record {p : EventProcessor} {effect : Effect} (none : takenOf [effect] = [])
    (accounts : Accounts p.m_events.entries [effect] p.m_events.entries) :
    Called p (p.record effect) :=
  ⟨rfl, [effect], rfl, none, accounts⟩

lemma called_turn (b : Behaviour) (p : EventProcessor) (p_time : ℕ) (entry : Entry) :
    Called (p.take entry) (p.turn b p_time entry) := by
  have executed : ∀ (q : EventProcessor) (event : ℕ) (complete : Bool),
      Called q (q.record (.executed event complete)) := fun q event complete =>
    called_record rfl fun x => by simp
  have aborted : ∀ (q : EventProcessor) (event : ℕ), Called q (q.record (.aborted event)) :=
    fun q event => called_record rfl fun x => by simp
  have deleted : ∀ (q : EventProcessor) (event : ℕ), Called q (q.record (.deleted event)) :=
    fun q event => called_record rfl fun x => by simp
  cases marked : (p.events entry.2.event).to_Abort with
  | true =>
    rw [turn_of_marked p_time marked]
    exact (aborted _ _).trans (deleted _ _)
  | false =>
    rw [turn_of_unmarked p_time marked]
    dsimp only
    have called : ∀ calls complete, Called (p.take entry)
        (((p.take entry).makeAll b calls).record (.executed entry.2.event complete)) :=
      fun calls complete => (called_makeAll b _ calls).trans (executed _ _ complete)
    split
    · exact (called _ _).trans (deleted _ _)
    · exact called _ _

/-! ### Entries in line -/

/-- The entries that were taken and those in the queue stand in the order of the queue. -/
structure InLine (p : EventProcessor) (done : List Entry) : Prop where
  sorted : (done ++ p.m_events.entries).Pairwise Before
  older : ∀ x ∈ done ++ p.m_events.entries, x.2.place < p.insertions

variable {done : List Entry}

section

variable (line : InLine p done)
include line

lemma InLine.addEvent (event : ℕ) {e_time : ℕ} (later : ∀ x ∈ done, x.1 ≤ e_time)
    (set_addtime : Bool) : InLine (p.addEvent event e_time set_addtime) done := by
  obtain ⟨sorted, older⟩ := line
  obtain ⟨first, second, across⟩ := List.pairwise_append.mp sorted
  have members : ∀ x, x ∈ (p.m_events.insert e_time ⟨event, p.insertions⟩).entries ↔
      x = (e_time, ⟨event, p.insertions⟩) ∨ x ∈ p.m_events.entries := fun x => by
    rw [TimeQueue.perm_insert.mem_iff, List.mem_cons]
  constructor
  · refine List.pairwise_append.mpr ⟨first, ?_, fun x mem y mem' => ?_⟩
    · exact before_insertLast second (fun x mem => older x (List.mem_append_right _ mem)) e_time
    · rcases (members y).mp mem' with rfl | old
      · have place := older x (List.mem_append_left _ mem)
        rcases Nat.lt_or_eq_of_le (later x mem) with before | same
        · exact .inl before
        · exact .inr ⟨same, place⟩
      · exact across x mem y old
  · intro x mem
    rw [m_events_addEvent, List.mem_append, members] at mem
    rcases mem with taken | rfl | old
    · exact Nat.lt_succ_of_lt (older x (List.mem_append_left _ taken))
    · exact Nat.lt_succ_self _
    · exact Nat.lt_succ_of_lt (older x (List.mem_append_right _ old))

lemma InLine.fewer {p' : EventProcessor} (fewer : p'.m_events.entries.Sublist p.m_events.entries)
    (insertions : p'.insertions = p.insertions) : InLine p' done where
  sorted := line.sorted.sublist (fewer.append_left done)
  older x mem := by
    rw [insertions]
    exact line.older x ((fewer.append_left done).subset mem)

lemma InLine.make {c : Call}
    (later : ∀ event e_time set_addtime, c = .addEvent event e_time set_addtime →
      ∀ x ∈ done, x.1 ≤ e_time) : InLine (p.make b c) done := by
  cases c with
  | addEvent event e_time set_addtime =>
    exact line.addEvent event (later event e_time set_addtime rfl) set_addtime
  | killAllEvents force =>
    exact line.fewer (killLoop_sublist b { p with m_aborting := true } force _)
      (killLoop_killed b force _ { p with m_aborting := true }).insertions
  | abortEvent event => exact line.fewer (List.Sublist.refl _) rfl

lemma InLine.makeAll {calls : List Call}
    (later : ∀ event e_time set_addtime, .addEvent event e_time set_addtime ∈ calls →
      ∀ x ∈ done, x.1 ≤ e_time) : InLine (p.makeAll b calls) done := by
  induction calls generalizing p with
  | nil => exact line
  | cons c rest ih =>
    refine ih (line.make fun event e_time set_addtime same => ?_)
      fun event e_time set_addtime mem =>
        later event e_time set_addtime (List.mem_cons_of_mem _ mem)
    exact later event e_time set_addtime (by simp [same])

lemma InLine.take (front : p.m_events.entries = entry :: rest) :
    InLine (p.take entry) (done ++ [entry]) := by
  have tail : (p.take entry).m_events.entries = rest := TimeQueue.eraseFront_entries front
  have same : done ++ [entry] ++ (p.take entry).m_events.entries = done ++ p.m_events.entries := by
    rw [tail, front, List.append_assoc, List.singleton_append]
  exact ⟨by rw [same]; exact line.sorted, by rw [same]; exact line.older⟩

lemma InLine.turn {p_time : ℕ} (front : p.m_events.entries = entry :: rest)
    (later : p.Executes b p_time entry fun _ calls _ =>
      ∀ event e_time set_addtime, .addEvent event e_time set_addtime ∈ calls → entry.1 ≤ e_time) :
    InLine (p.turn b p_time entry) (done ++ [entry]) := by
  have taken := line.take front
  have before : ∀ x ∈ done ++ [entry], x.1 ≤ entry.1 := by
    intro x mem
    rcases List.mem_append.mp mem with old | last
    · have sorted := line.sorted
      rw [front] at sorted
      rcases (List.pairwise_append.mp sorted).2.2 x old entry (by simp) with earlier | ⟨same, -⟩
      · exact earlier.le
      · exact same.le
    · rw [List.mem_singleton.mp last]
  cases marked : (p.events entry.2.event).to_Abort with
  | true =>
    rw [turn_of_marked p_time marked]
    exact ⟨taken.sorted, taken.older⟩
  | false =>
    have called : InLine ((p.take entry).makeAll b _) (done ++ [entry]) :=
      taken.makeAll fun event e_time set_addtime mem x old =>
        (before x old).trans (later marked event e_time set_addtime mem)
    rw [turn_of_unmarked p_time marked]
    dsimp only
    split
    · exact ⟨called.sorted, called.older⟩
    · exact ⟨called.sorted, called.older⟩

end

end EventProcessor

/-! ### Nothing before a time -/

def Behaviour.AddsLater (b : Behaviour) : Prop :=
  ∀ effects entry m_time p_time event e_time set_addtime,
    .addEvent event e_time set_addtime ∈ (b.execute effects entry m_time p_time).1 →
      entry.1 < e_time

namespace EventProcessor

variable {b : Behaviour} {p : EventProcessor}

def AtMost (p : EventProcessor) (time n : ℕ) : Prop :=
  (∀ x ∈ p.m_events.entries, time ≤ x.1) ∧ p.m_events.entries.countP (·.1 = time) ≤ n

variable {n : ℕ}

lemma AtMost.make {time : ℕ} (few : p.AtMost time n) {c : Call}
    (later : ∀ event e_time set_addtime, c = .addEvent event e_time set_addtime → time < e_time) :
    (p.make b c).AtMost time n := by
  obtain ⟨bound, count⟩ := few
  cases c with
  | addEvent event e_time set_addtime =>
    have after := later event e_time set_addtime rfl
    have perm := TimeQueue.perm_insert (q := p.m_events) (k := e_time) (a := ⟨event, p.insertions⟩)
    constructor
    · intro x mem
      rcases List.mem_cons.mp (perm.mem_iff.mp mem) with rfl | old
      · exact after.le
      · exact bound x old
    · refine (perm.countP_eq _).trans_le ?_
      rw [List.countP_cons_of_neg (by simpa using after.ne')]
      exact count
  | killAllEvents force =>
    have fewer := killLoop_sublist b { p with m_aborting := true } force p.m_events.entries
    exact ⟨fun x mem => bound x (fewer.subset mem), (fewer.countP_le).trans count⟩
  | abortEvent event => exact ⟨bound, count⟩

lemma AtMost.makeAll {time : ℕ} (few : p.AtMost time n) {calls : List Call}
    (later : ∀ event e_time set_addtime, .addEvent event e_time set_addtime ∈ calls →
      time < e_time) : (p.makeAll b calls).AtMost time n := by
  induction calls generalizing p with
  | nil => exact few
  | cons c rest ih =>
    refine ih (few.make fun event e_time set_addtime same => ?_)
      fun event e_time set_addtime mem =>
        later event e_time set_addtime (List.mem_cons_of_mem _ mem)
    exact later event e_time set_addtime (by simp [same])

lemma AtMost.turn (adds : b.AddsLater) (few : p.AtMost entry.1 (n + 1))
    (front : p.m_events.entries = entry :: rest) (p_time : ℕ) :
    (p.turn b p_time entry).AtMost entry.1 n := by
  have tail : (p.take entry).m_events.entries = rest := TimeQueue.eraseFront_entries front
  have taken : (p.take entry).AtMost entry.1 n := by
    obtain ⟨bound, count⟩ := few
    rw [front] at bound count
    rw [List.countP_cons_of_pos (by simp)] at count
    rw [AtMost, tail]
    exact ⟨fun x mem => bound x (List.mem_cons_of_mem _ mem), by omega⟩
  cases marked : (p.events entry.2.event).to_Abort with
  | true =>
    rw [turn_of_marked p_time marked]
    exact taken
  | false =>
    have called : ((p.take entry).makeAll b _).AtMost entry.1 n :=
      taken.makeAll (adds (p.take entry).effects entry (p.take entry).m_time p_time)
    rw [turn_of_unmarked p_time marked]
    dsimp only
    split
    · exact called
    · exact called

end EventProcessor

/-! ### Updates -/

namespace Machine

open EventProcessor

variable {b : Behaviour} {m : Machine}

/-- The effects of the `Update` under way. -/
def since (m : Machine) (round : Round) : List Effect := m.processor.effects.drop round.mark

/-- What was in the queue when the `Update` began or was added since has been taken or killed, or
is still in the queue, and only what is due has been taken. -/
structure Accounted (m : Machine) (round : Round) : Prop where
  mark : round.mark ≤ m.processor.effects.length
  accounts : Accounts round.start (m.since round) m.processor.m_events.entries
  due : ∀ x ∈ takenOf (m.since round), x.1 ≤ m.processor.m_time

/-- What the `Update` under way has taken. -/
def taken (m : Machine) : List Entry :=
  match m.round with
  | some round => takenOf (m.since round)
  | none => []

def InOrder (m : Machine) : Prop := m.processor.InLine m.taken

def NotEarlier (b : Behaviour) (m : Machine) : Action → Prop
  | .advance => ∀ round entry, m.round = some round → m.next = some entry →
      m.processor.Executes b round.p_time entry fun _ calls _ =>
        ∀ event e_time set_addtime, .addEvent event e_time set_addtime ∈ calls → entry.1 ≤ e_time
  | _ => True

lemma since_turn {round : Round} (mark : round.mark ≤ m.processor.effects.length)
    (b : Behaviour) (p_time : ℕ) (entry : Entry) (r : Option Round) :
    ∃ effects, takenOf effects = [] ∧
      Accounts (m.processor.take entry).m_events.entries effects
        (m.processor.turn b p_time entry).m_events.entries ∧
      ({ processor := m.processor.turn b p_time entry, round := r } : Machine).since round =
        m.since round ++ .taken entry :: effects := by
  obtain ⟨-, effects, same, none, accounts⟩ := called_turn b m.processor p_time entry
  refine ⟨effects, none, accounts, ?_⟩
  rw [since, same]
  simp only [take, List.append_assoc, List.singleton_append]
  rw [List.drop_append_of_le_length mark]
  rfl

lemma takenOf_append (effects effects' : List Effect) :
    takenOf (effects ++ effects') = takenOf effects ++ takenOf effects' :=
  List.filterMap_append

lemma accounted_step {a : Action} (accounted : ∀ round, m.round = some round → m.Accounted round)
    (round : Round) (started : (m.step b a).round = some round) :
    (m.step b a).Accounted round := by
  cases a with
  | call c =>
    dsimp only [step] at started ⊢
    split at started
    next idle =>
      rw [Option.isNone_iff_eq_none.mp idle] at started
      cases started
    next busy =>
      rw [if_neg busy]
      exact accounted round started
  | update p_time =>
    dsimp only [step] at started ⊢
    split at started
    next idle =>
      rw [if_pos idle]
      obtain rfl := Option.some.inj started
      refine ⟨le_rfl, ?_, ?_⟩
      · rw [since, List.drop_length]
        exact fun x => by simp
      · rw [since, List.drop_length]
        exact fun x mem => absurd mem List.not_mem_nil
    next busy =>
      rw [if_neg busy]
      exact accounted round started
  | advance =>
    rcases advance_cases b m with ⟨round', entry, rest, here, -, front, due, after⟩ | ⟨after, -⟩
    · rw [after] at started ⊢
      obtain ⟨mark, accounts, due'⟩ := accounted round started
      obtain ⟨effects, none, later, all⟩ := since_turn mark b round'.p_time entry m.round
      obtain ⟨time, effects', same, -⟩ := called_turn b m.processor round'.p_time entry
      refine ⟨?_, ?_, ?_⟩
      · simp only [same, take, List.length_append]
        omega
      · rw [all]
        apply accounts.trans
        have tail : (m.processor.take entry).m_events.entries = rest :=
          TimeQueue.eraseFront_entries front
        rw [tail] at later
        intro x
        have := later x
        rw [front]
        simp only [List.count_cons]
        simp
        omega
      · rw [all, takenOf_append]
        intro x mem
        rw [time]
        rcases List.mem_append.mp mem with old | new
        · exact due' x old
        · have only : takenOf (.taken entry :: effects) = [entry] := congrArg (entry :: ·) none
          rw [only] at new
          rw [List.mem_singleton.mp new]
          exact due
    · rw [after] at started
      cases started

lemma inOrder_step (accounted : ∀ round, m.round = some round → m.Accounted round)
    (order : m.InOrder) {a : Action} (later : m.NotEarlier b a) : (m.step b a).InOrder := by
  have queue : m.processor.InLine [] :=
    ⟨(List.pairwise_append.mp order.sorted).2.1,
      fun x mem => order.older x (List.mem_append_right _ mem)⟩
  cases a with
  | call c =>
    dsimp only [step]
    split
    next idle =>
      have none : ({ m with processor := m.processor.make b c } : Machine).taken = [] := by
        rw [taken]
        simp only [Option.isNone_iff_eq_none.mp idle]
      rw [InOrder, none]
      exact queue.make fun _ _ _ _ x mem => absurd mem List.not_mem_nil
    next => exact order
  | update p_time =>
    dsimp only [step]
    split
    next idle =>
      have none : (⟨{ m.processor with m_time := m.processor.m_time + p_time }, some
          ⟨p_time, m.processor.m_events.entries, m.processor.effects.length⟩⟩ : Machine).taken
            = [] := by
        simp [taken, since, takenOf]
      rw [InOrder, none]
      exact ⟨queue.sorted, queue.older⟩
    next => exact order
  | advance =>
    rcases advance_cases b m with ⟨round, entry, rest, started, next, front, -, after⟩ | ⟨after, -⟩
    · rw [after]
      obtain ⟨mark, -, -⟩ := accounted round started
      obtain ⟨effects, none, -, all⟩ := since_turn mark b round.p_time entry m.round
      have grown : ({ m with processor := m.processor.turn b round.p_time entry } :
          Machine).taken = m.taken ++ [entry] := by
        simp only [taken, started] at all ⊢
        rw [all, takenOf_append]
        exact congrArg (_ ++ entry :: ·) none
      rw [InOrder, grown]
      exact InLine.turn order front (later round entry started next)
    · rw [after]
      exact queue

lemma ends_within (adds : b.AddsLater) (span : ℕ) :
    ∀ m : Machine, m.round.isSome →
      (∀ x ∈ m.processor.m_events.entries, m.processor.m_time < x.1 + span) →
      ∃ n, (run (step b) m (List.replicate n .advance)).round = none := by
  induction span with
  | zero =>
    intro m busy none
    rcases advance_cases b m with ⟨-, entry, rest, -, -, front, due, -⟩ | ⟨after, -⟩
    · have := none entry (by simp [front])
      omega
    · exact ⟨1, by simp [after]⟩
  | succ span ih =>
    -- the entries at the earliest time that is possible are taken one by one
    have earliest : ∀ n time (m : Machine), m.round.isSome →
        m.processor.m_time = time + span → m.processor.AtMost time n →
        ∃ n, (run (step b) m (List.replicate n .advance)).round = none := by
      intro n
      induction n with
      | zero =>
        intro time m busy now few
        apply ih m busy
        intro x mem
        have bound := few.1 x mem
        have other : x.1 ≠ time := fun same => by
          have one : 0 < m.processor.m_events.entries.countP (·.1 = time) :=
            List.countP_pos_iff.mpr ⟨x, mem, by simpa using same⟩
          have := few.2
          omega
        omega
      | succ n ih' =>
        intro time m busy now few
        rcases advance_cases b m with ⟨round, entry, rest, -, -, front, -, after⟩ | ⟨after, -⟩
        · by_cases here : entry.1 = time
          · subst here
            have time := (EventProcessor.called_turn b m.processor round.p_time entry).1
            obtain ⟨k, ends⟩ := ih' entry.1 (m.step b .advance) (by rw [after]; exact busy)
              (by rw [after]; exact time.trans now)
              (by rw [after]; exact AtMost.turn adds few front round.p_time)
            exact ⟨k + 1, by simpa [List.replicate_succ] using ends⟩
          · apply ih m busy
            have sorted := m.processor.m_events.sorted
            have bound := few.1 entry (by simp [front])
            rw [front] at sorted ⊢
            intro x mem
            rcases List.mem_cons.mp mem with rfl | mem
            · omega
            · have := (List.pairwise_cons.mp sorted).1 x mem
              omega
        · exact ⟨1, by simp [after]⟩
    intro m busy bound
    by_cases soon : m.processor.m_time < span
    · exact ih m busy fun x _ => by omega
    · refine earliest (m.processor.m_events.entries.length) (m.processor.m_time - span) m busy
        (by omega) ⟨fun x mem => ?_, List.countP_le_length⟩
      have := bound x mem
      omega

lemma ends_of_addsLater (adds : b.AddsLater) (m : Machine) :
    ∃ n, (run (step b) m (List.replicate n .advance)).round = none := by
  cases started : m.round with
  | none => exact ⟨0, started⟩
  | some round =>
    exact ends_within adds (m.processor.m_time + 1) m (by simp [started]) fun x _ => by omega

/-! ### Every run -/

/-- After every run of calls and updates. -/
structure Orderly (b : Behaviour) (m : Machine) : Prop where
  accounted : ∀ round, m.round = some round → m.Accounted round
  /-- When the `Update` ends nothing is left that is due. -/
  nothingDue : m.round.isSome → (m.step b .advance).round = none →
    ∀ x ∈ m.processor.m_events.entries, m.processor.m_time < x.1
  ends : b.AddsLater → ∃ n, (run (step b) m (List.replicate n .advance)).round = none

lemma orderly_of_accounted (accounted : ∀ round, m.round = some round → m.Accounted round) :
    m.Orderly b where
  accounted := accounted
  nothingDue busy done := by
    rcases advance_cases b m with ⟨round, entry, -, started, -, -, -, after⟩ | ⟨-, none⟩
    · rw [after] at done
      rw [started] at done
      cases done
    · exact none busy
  ends adds := ends_of_addsLater adds m

/-- An `Update` takes what is due and nothing else, and it ends if events add only later ones. It
takes them in order if no event adds an earlier one. If the events return false exactly when they
have added themselves again, every event is deleted once, and complete or aborted by then; if no
event refuses to be deleted, it is so exactly once. -/
theorem events_once (b : Behaviour) (actions : List Action) :
    let m := run (step b) {} actions
    m.Orderly b ∧
    (Along (step b) (NotEarlier b) {} actions → m.taken.Pairwise Before) ∧
    (Along (step b) (Honest b) {} actions → m.processor.Sound none) ∧
    (Along (step b) (AllClear b) {} actions → m.processor.Single none) := by
  have idle : ∀ round, ({} : Machine).round = some round → ({} : Machine).Accounted round :=
    fun round started => by cases started
  have accounted : ∀ round, (run (step b) {} actions).round = some round →
      (run (step b) {} actions).Accounted round :=
    run_keeps (fun m : Machine => ∀ round, m.round = some round → m.Accounted round)
      (fun m a kept => accounted_step kept) idle actions
  refine ⟨orderly_of_accounted accounted, fun later => ?_, fun honest => ?_, fun clear => ?_⟩
  · have empty : ({} : Machine).InOrder :=
      ⟨List.Pairwise.nil, fun x mem => absurd mem List.not_mem_nil⟩
    have order := run_invariant
      (fun m : Machine => (∀ round, m.round = some round → m.Accounted round) ∧ m.InOrder)
      (fun m a kept later => ⟨accounted_step kept.1, inOrder_step kept.1 kept.2 later⟩)
      ⟨idle, empty⟩ later
    exact (List.pairwise_append.mp order.2.sorted).1
  · exact run_invariant (fun m : Machine => m.processor.Sound none)
      (fun m a kept honest => sound_step kept honest) EventProcessor.Sound.init honest
  · have empty : ({} : Machine).processor.Single none := fun _ => rfl
    exact run_invariant (fun m : Machine => m.processor.Single none)
      (fun m a kept clear => single_step kept clear) empty clear

def addsEarlier : Behaviour where
  execute _ entry _ _ :=
    (if entry.2.event = 1 then [.addEvent 2 30 true] else [], true)
  isDeletable _ _ := false

/-- Planned for the time 50, the event 1 is executed at the time 100. -/
def executedLate : List Action :=
  [.call (.addEvent 1 50 true), .update 100, .advance, .advance]

/-- The event 2 is aborted, stays in the queue, and is aborted again when its time has come. -/
def abortedTwice : List Action :=
  [.call (.addEvent 2 50 true), .call (.killAllEvents false), .update 100, .advance]

/-- An event may add one that is earlier, which is then executed behind it, and an event that
cannot be deleted is aborted twice. -/
theorem events_not_once :
    (¬ ∀ (b : Behaviour) (actions : List Action),
      ((run (step b) {} actions).taken.map (·.1)).Pairwise (· ≤ ·)) ∧
    (¬ ∀ (b : Behaviour) (actions : List Action) (event : ℕ),
      aborts (run (step b) {} actions).processor.effects event ≤ 1) := by
  constructor
  · intro all
    have sorted := all addsEarlier executedLate
    exact absurd sorted (by decide)
  · intro all
    have once := all addsEarlier abortedTwice 2
    exact absurd once (by decide)

end Machine

end WorldServer.Utilities
