import WorldServer.Lib.Statements
import WorldServer.Lib.Successive

/-!
# The logs of a guild

A log keeps the newest entries up to a maximum. Their GUIDs go round, so that a new entry takes the
place of the one that falls out. At the start the newest rows are read back, newest first.
-/
namespace WorldServer.Guilds

open WorldServer.Lib

variable {ε : Type}

def GUILD_EVENT_LOG_GUID_UNDEFINED : UInt32 := 0xFFFFFFFF

/-- The logs of a guild. A bank tab has one of its own. -/
inductive LogKind where
  | event
  | bank
  | news
deriving DecidableEq, Repr

structure LogEntry (ε : Type) where
  guid : UInt32
  event : ε
deriving DecidableEq, Repr

def LogEntry.saveToDB (kind : LogKind) (entry : LogEntry ε) : List (Statement UInt32 ε) :=
  match kind with
  | .event | .bank => [.delete entry.guid, .insert entry.guid entry.event]
  | .news => [.replace entry.guid entry.event]

structure LogHolder (ε : Type) where
  log : List (LogEntry ε) := []
  maxRecords : UInt32
  nextGUID : UInt32 := GUILD_EVENT_LOG_GUID_UNDEFINED
deriving DecidableEq, Repr

namespace LogHolder

variable (h : LogHolder ε) (kind : LogKind)

/-- Checks if new log entry can be added to holder when loading from DB. -/
def canInsert : Bool := h.log.length < h.maxRecords.toNat

def loadEvent (entry : LogEntry ε) : LogHolder ε :=
  { h with
    nextGUID := if h.nextGUID = GUILD_EVENT_LOG_GUID_UNDEFINED then entry.guid else h.nextGUID
    log := entry :: h.log }

def loadFromDB (rows : List (LogEntry ε)) : LogHolder ε :=
  rows.foldl (fun h row => if h.canInsert then h.loadEvent row else h) h

def getNextGUID : Option (UInt32 × LogHolder ε) :=
  if h.nextGUID = GUILD_EVENT_LOG_GUID_UNDEFINED then some (0, { h with nextGUID := 0 })
  else if h.maxRecords = 0 then none
  else
    let guid := (h.nextGUID + 1) % h.maxRecords
    some (guid, { h with nextGUID := guid })

def addEvent (entry : LogEntry ε) : Option (LogHolder ε × List (Statement UInt32 ε)) :=
  -- Check max records limit
  if h.maxRecords.toNat ≤ h.log.length then
    match h.log with
    | [] => none
    | _ :: log => some ({ h with log := log ++ [entry] }, entry.saveToDB kind)
  else some ({ h with log := h.log ++ [entry] }, entry.saveToDB kind)

def logEvent (event : ε) : Option (LogHolder ε × List (Statement UInt32 ε)) := do
  let (guid, h) ← h.getNextGUID
  h.addEvent kind ⟨guid, event⟩

def guids : List UInt32 := h.log.map (·.guid)

structure Sound : Prop where
  within : h.log.length ≤ h.maxRecords.toNat
  distinct : h.guids.Nodup
  below : ∀ guid ∈ h.guids, guid < h.maxRecords

/-- A new event went into the log and into the database, under a GUID that was free or that
belonged to the entry that fell out. -/
def Recorded (event : ε) (h' : LogHolder ε) (trans : List (Statement UInt32 ε)) : Prop :=
  ∃ guid,
    ((h'.log = h.log ++ [⟨guid, event⟩] ∧ guid ∉ h.guids) ∨
      ∃ oldEntry log, h.log = oldEntry :: log ∧ h'.log = log ++ [⟨guid, event⟩] ∧
        (guid = oldEntry.guid ∨ guid ∉ h.guids)) ∧
    ∀ rows k, (Statement.execAll rows trans).lookup k =
      if k = guid then some event else rows.lookup k

/-- From here on the events are logged one after the other, and the log is always sound. -/
def Keeps : LogHolder ε → List ε → Prop
  | h, [] => h.Sound
  | h, event :: events => h.Sound ∧ ∃ h' trans,
      h.logEvent kind event = some (h', trans) ∧ h.Recorded event h' trans ∧ h'.Keeps events

/-! ### One event -/

variable {h : LogHolder ε} {kind : LogKind}

def numbers (h : LogHolder ε) : List ℕ := h.log.map (·.guid.toNat)

@[simp] lemma length_numbers : h.numbers.length = h.log.length := List.length_map _

lemma numbers_eq : h.numbers = h.guids.map UInt32.toNat := by
  simp [numbers, guids]

variable {guid max : UInt32} {oldEntry : LogEntry ε} {log : List (LogEntry ε)}

lemma mem_numbers : guid.toNat ∈ h.numbers ↔ guid ∈ h.guids := by
  rw [numbers_eq, List.mem_map_of_injective fun a b => UInt32.toNat_inj.mp]

lemma lookup_saveToDB (kind : LogKind) (entry : LogEntry ε) (rows : Table UInt32 ε)
    (k : UInt32) :
    (Statement.execAll rows (entry.saveToDB kind)).lookup k =
      if k = entry.guid then some entry.event else rows.lookup k := by
  by_cases own : k = entry.guid
  · subst own
    have all : ∀ st ∈ entry.saveToDB kind, st.key = entry.guid := by
      cases kind <;> simp [LogEntry.saveToDB, Statement.key]
    rw [Statement.lookup_execAll_of_own rows all, if_pos rfl]
    cases kind <;> rfl
  · have others : ∀ st ∈ entry.saveToDB kind, st.key ≠ k := by
      cases kind <;> simp [LogEntry.saveToDB, Statement.key, Ne.symm own]
    rw [Statement.lookup_execAll_of_others rows others, if_neg own]

lemma ne_undefined (below : guid < max) : guid ≠ GUILD_EVENT_LOG_GUID_UNDEFINED := by
  rintro rfl
  have small := max.toNat_lt
  rw [UInt32.lt_iff_toNat_lt] at below
  simp [GUILD_EVENT_LOG_GUID_UNDEFINED] at below
  omega

lemma toNat_next (below : guid < max) :
    ((guid + 1) % max).toNat = (guid.toNat + 1) % max.toNat := by
  have small := max.toNat_lt
  rw [UInt32.lt_iff_toNat_lt] at below
  rw [UInt32.toNat_mod, UInt32.toNat_add, UInt32.toNat_one, Nat.mod_eq_of_lt (a := guid.toNat + 1)]
  omega

lemma next_lt (below : guid < max) : (guid + 1) % max < max := by
  rw [UInt32.lt_iff_toNat_lt, toNat_next below]
  rw [UInt32.lt_iff_toNat_lt] at below
  exact Nat.mod_lt _ (by omega)

lemma getNextGUID_of_lt (below : h.nextGUID < h.maxRecords) :
    h.getNextGUID = some ((h.nextGUID + 1) % h.maxRecords,
      { h with nextGUID := (h.nextGUID + 1) % h.maxRecords }) := by
  have max : h.maxRecords ≠ 0 := by
    intro zero
    simp [zero] at below
  rw [getNextGUID, if_neg (ne_undefined below), if_neg max]

variable (kind) in
lemma logEvent_of_room (event : ε) (below : h.nextGUID < h.maxRecords)
    (room : h.log.length < h.maxRecords.toNat) :
    h.logEvent kind event = some (
      { h with
        log := h.log ++ [⟨(h.nextGUID + 1) % h.maxRecords, event⟩]
        nextGUID := (h.nextGUID + 1) % h.maxRecords },
      LogEntry.saveToDB kind ⟨(h.nextGUID + 1) % h.maxRecords, event⟩) := by
  simp [logEvent, getNextGUID_of_lt below, addEvent, Nat.not_le.mpr room]

variable (kind) in
lemma logEvent_of_full (event : ε) (below : h.nextGUID < h.maxRecords)
    (full : h.maxRecords.toNat ≤ h.log.length) (hlog : h.log = oldEntry :: log) :
    h.logEvent kind event = some (
      { h with
        log := log ++ [⟨(h.nextGUID + 1) % h.maxRecords, event⟩]
        nextGUID := (h.nextGUID + 1) % h.maxRecords },
      LogEntry.saveToDB kind ⟨(h.nextGUID + 1) % h.maxRecords, event⟩) := by
  rw [hlog, List.length_cons] at full
  simp [logEvent, getNextGUID_of_lt below, addEvent, hlog, full]

def Linked (h : LogHolder ε) : Prop :=
  (h.log = [] ∧ h.nextGUID = GUILD_EVENT_LOG_GUID_UNDEFINED) ∨
    h.numbers.getLast? = some h.nextGUID.toNat

/-- The GUIDs of the log go round. -/
structure Ring (h : LogHolder ε) : Prop where
  pos : 0 < h.maxRecords.toNat
  within : h.log.length ≤ h.maxRecords.toNat
  successive : Successive h.maxRecords.toNat h.numbers
  linked : h.Linked

lemma Ring.sound (ring : h.Ring) : h.Sound where
  within := ring.within
  distinct := by
    have distinct := ring.successive.nodup (by simpa using ring.within)
    rw [numbers_eq] at distinct
    exact distinct.of_map _
  below guid hm := UInt32.lt_iff_toNat_lt.mpr (ring.successive.below _ (mem_numbers.mpr hm))

lemma Ring.first (ring : h.Ring) (empty : h.log = [])
    (undefined : h.nextGUID = GUILD_EVENT_LOG_GUID_UNDEFINED) (event : ε) :
    ∃ h' trans, h.logEvent kind event = some (h', trans) ∧ h.Recorded event h' trans ∧
      h'.Ring := by
  refine ⟨{ h with log := [⟨0, event⟩], nextGUID := 0 }, LogEntry.saveToDB kind ⟨0, event⟩,
    ?_, ⟨0, .inl ⟨?_, ?_⟩, lookup_saveToDB kind _⟩, ?_⟩
  · have room : h.maxRecords.toNat ≠ 0 := ring.pos.ne'
    simp [logEvent, getNextGUID, undefined, addEvent, empty, room]
  · simp [empty]
  · simp [guids, empty]
  · exact {
      pos := ring.pos
      within := ring.pos
      successive := ⟨by simpa [numbers] using ring.pos, .singleton _⟩
      linked := .inr rfl }

/-- An event that goes behind the last one. The ring stays one, and the GUID is the one of the
front where there is no room. -/
lemma Ring.next (ring : h.Ring) (last : h.numbers.getLast? = some h.nextGUID.toNat) (event : ε) :
    ∃ h' trans, h.logEvent kind event = some (h', trans) ∧ h.Recorded event h' trans ∧
      h'.Ring := by
  have below : h.nextGUID < h.maxRecords :=
    UInt32.lt_iff_toNat_lt.mpr (ring.successive.below _ (List.mem_of_getLast? last))
  have pushed := ring.successive.push ring.pos last
  rw [← toNat_next below] at pushed
  by_cases room : h.log.length < h.maxRecords.toNat
  · refine ⟨_, _, logEvent_of_room kind event below room,
      ⟨_, .inl ⟨rfl, ?_⟩, lookup_saveToDB kind _⟩, ?_⟩
    · rw [← mem_numbers, toNat_next below]
      exact ring.successive.next_not_mem (by simpa using room) last
    · exact {
        pos := ring.pos
        within := by simpa using Nat.succ_le_of_lt room
        successive := by simpa [numbers] using pushed
        linked := .inr (by simp [numbers]) }
  · have full : h.log.length = h.maxRecords.toNat := le_antisymm ring.within (not_lt.mp room)
    obtain ⟨oldEntry, log, hlog⟩ : ∃ oldEntry log, h.log = oldEntry :: log :=
      List.exists_cons_of_length_pos (full ▸ ring.pos)
    have hnumbers : h.numbers = oldEntry.guid.toNat :: log.map (·.guid.toNat) := by
      simp [numbers, hlog]
    have reused : (h.nextGUID + 1) % h.maxRecords = oldEntry.guid := by
      apply UInt32.toNat_inj.mp
      rw [toNat_next below]
      rw [hnumbers] at last
      refine Successive.next_eq_first (hnumbers ▸ ring.successive) ?_ last
      rw [← hnumbers, length_numbers, full]
    refine ⟨_, _, logEvent_of_full kind event below (not_lt.mp room) hlog,
      ⟨_, .inr ⟨oldEntry, log, hlog, rfl, .inl reused⟩, lookup_saveToDB kind _⟩, ?_⟩
    rw [hnumbers, List.cons_append] at pushed
    exact {
      pos := ring.pos
      within := by
        rw [hlog, List.length_cons] at full
        simpa using full.le
      successive := by simpa [numbers] using pushed.tail
      linked := .inr (by simp [numbers]) }

variable (kind) in
lemma Ring.step (ring : h.Ring) (event : ε) :
    ∃ h' trans, h.logEvent kind event = some (h', trans) ∧ h.Recorded event h' trans ∧
      h'.Ring := by
  rcases ring.linked with ⟨empty, undefined⟩ | last
  · exact ring.first empty undefined event
  · exact ring.next last event

lemma Ring.keeps (ring : h.Ring) (events : List ε) : h.Keeps kind events := by
  induction events generalizing h with
  | nil => exact ring.sound
  | cons event events ih =>
    obtain ⟨h', trans, logged, recorded, ring'⟩ := ring.step kind event
    exact ⟨ring.sound, h', trans, logged, recorded, ih ring'⟩

/-! ### A log that is always sound goes round -/

lemma Keeps.sound {events : List ε} (keeps : h.Keeps kind events) : h.Sound := by
  cases events with
  | nil => exact keeps
  | cons event events => exact keeps.1

lemma keeps_next (keeps : ∀ events, h.Keeps kind events) {event : ε} {h' : LogHolder ε}
    {trans : List (Statement UInt32 ε)} (logged : h.logEvent kind event = some (h', trans)) :
    ∀ events, h'.Keeps kind events := by
  intro events
  obtain ⟨_, h'', trans', logged', _, later⟩ := keeps (event :: events)
  rw [logged, Option.some.injEq, Prod.mk.injEq] at logged'
  exact logged'.1 ▸ later

/-- The GUID that follows in a full log is the one of the front, as every GUID is in use and the
others stay. -/
lemma front_of_keeps (keeps : ∀ events, h.Keeps kind events) (below : h.nextGUID < h.maxRecords)
    (full : h.maxRecords.toNat ≤ h.log.length) (event : ε) (hlog : h.log = oldEntry :: log) :
    oldEntry.guid.toNat = (h.nextGUID.toNat + 1) % h.maxRecords.toNat := by
  have sound := (keeps []).sound
  have sound' := (keeps_next keeps (logEvent_of_full kind event below full hlog) []).sound
  have used : (h.nextGUID + 1) % h.maxRecords ∈ h.guids := by
    rw [← mem_numbers]
    refine mem_of_nodup_of_length ?_ ?_ (?_ : h.numbers.length = h.maxRecords.toNat)
      (UInt32.lt_iff_toNat_lt.mp (next_lt below))
    · rw [numbers_eq]
      exact sound.distinct.map fun a b => UInt32.toNat_inj.mp
    · rw [numbers_eq]
      rintro _ number
      obtain ⟨guid, hm, rfl⟩ := List.mem_map.mp number
      exact UInt32.lt_iff_toNat_lt.mp (sound.below guid hm)
    · rw [length_numbers]
      exact le_antisymm sound.within full
  have others : (h.nextGUID + 1) % h.maxRecords ∉ log.map (·.guid) := by
    have distinct : (log.map (·.guid) ++ [(h.nextGUID + 1) % h.maxRecords]).Nodup := by
      simpa [guids] using sound'.distinct
    intro hm
    exact List.disjoint_of_nodup_append distinct hm List.mem_cons_self
  rw [guids, hlog, List.map_cons, List.mem_cons] at used
  rw [← toNat_next below, used.resolve_right others]

/-- The place of an entry in the ring. It shows when the entry is the front of a full log: until
then `n` events pass. -/
lemma guid_of_keeps [Inhabited ε] (n : ℕ) (keeps : ∀ events, h.Keeps kind events)
    (below : h.nextGUID < h.maxRecords) (i : ℕ) (hi : i < h.log.length)
    (waits : h.maxRecords.toNat - h.log.length + i = n) :
    h.log[i].guid.toNat = (h.nextGUID.toNat + 1 + n) % h.maxRecords.toNat := by
  induction n generalizing h i with
  | zero =>
    obtain ⟨oldEntry, log, hlog⟩ : ∃ oldEntry log, h.log = oldEntry :: log :=
      List.exists_cons_of_length_pos (by omega)
    have front := front_of_keeps keeps below (by omega) default hlog
    obtain rfl : i = 0 := by omega
    simp [hlog, front]
  | succ n ih =>
    have within := (keeps []).sound.within
    have count : (h.nextGUID.toNat + 1) % h.maxRecords.toNat + 1 + n ≡
        h.nextGUID.toNat + 1 + (n + 1) [MOD h.maxRecords.toNat] := by
      rw [Nat.add_assoc _ 1 n, Nat.add_comm 1 n]
      exact (Nat.mod_modEq _ _).add_right (n + 1)
    by_cases room : h.log.length < h.maxRecords.toNat
    · -- The entry stays where it is, and the log is longer.
      have logged := logEvent_of_room kind default below room
      have place := ih (keeps_next keeps logged) (next_lt below) i (by simp; omega)
        (by simp; omega)
      rw [← count, ← toNat_next below, ← place]
      simp [List.getElem_append_left hi]
    · -- The entry moves one place to the front.
      obtain ⟨oldEntry, log, hlog⟩ : ∃ oldEntry log, h.log = oldEntry :: log :=
        List.exists_cons_of_length_pos (by omega)
      have logged := logEvent_of_full kind default below (by omega) hlog
      obtain ⟨i, rfl⟩ : ∃ j, i = j + 1 := ⟨i - 1, by omega⟩
      rw [hlog, List.length_cons] at hi waits room within
      have place := ih (keeps_next keeps logged) (next_lt below) i (by simp; omega)
        (by simp; omega)
      rw [← count, ← toNat_next below, ← place]
      simp [hlog, List.getElem_append_left (Nat.lt_of_succ_lt_succ hi)]

lemma ring_of_keeps [Inhabited ε] (keeps : ∀ events, h.Keeps kind events) (linked : h.Linked) :
    h.Ring := by
  have sound := (keeps []).sound
  have below : ∀ a ∈ h.numbers, a < h.maxRecords.toNat := by
    rw [numbers_eq]
    rintro _ number
    obtain ⟨guid, hm, rfl⟩ := List.mem_map.mp number
    exact UInt32.lt_iff_toNat_lt.mp (sound.below guid hm)
  rcases linked with ⟨empty, undefined⟩ | last
  · have pos : h.maxRecords.toNat ≠ 0 := by
      -- The first event would take the front of an empty list.
      intro zero
      obtain ⟨_, _, _, logged, _⟩ := keeps [default]
      simp [logEvent, getNextGUID, undefined, addEvent, zero, empty] at logged
    exact {
      pos := Nat.pos_of_ne_zero pos
      within := sound.within
      successive := ⟨below, by simp [numbers, empty]⟩
      linked := .inl ⟨empty, undefined⟩ }
  · have next := below _ (List.mem_of_getLast? last)
    refine {
      pos := by omega
      within := sound.within
      successive := ⟨below, List.isChain_iff_getElem.mpr ?_⟩
      linked := .inr last }
    intro i hi
    rw [length_numbers] at hi
    simp only [numbers, List.getElem_map]
    have atNext := UInt32.lt_iff_toNat_lt.mpr next
    rw [guid_of_keeps _ keeps atNext (i + 1) hi rfl, guid_of_keeps _ keeps atNext i (by omega) rfl,
      Nat.mod_add_mod]
    rfl

/-! ### Loading -/

@[simp] lemma loadFromDB_nil (h : LogHolder ε) : h.loadFromDB [] = h := rfl

lemma loadFromDB_cons (h : LogHolder ε) (row : LogEntry ε) (rows : List (LogEntry ε)) :
    h.loadFromDB (row :: rows) =
      (if h.canInsert then h.loadEvent row else h).loadFromDB rows := rfl

lemma loadFromDB_of_full (rows : List (LogEntry ε)) (full : h.canInsert = false) :
    h.loadFromDB rows = h := by
  induction rows with
  | nil => rfl
  | cons row rows ih =>
    rw [loadFromDB_cons, full]
    exact ih

lemma loadFromDB_log (h : LogHolder ε) (rows : List (LogEntry ε)) :
    (h.loadFromDB rows).maxRecords = h.maxRecords ∧
    (h.loadFromDB rows).log =
      (rows.take (h.maxRecords.toNat - h.log.length)).reverse ++ h.log := by
  induction rows generalizing h with
  | nil => simp
  | cons row rows ih =>
    cases room : h.canInsert with
    | true =>
      have left : h.maxRecords.toNat - h.log.length =
          h.maxRecords.toNat - (h.log.length + 1) + 1 := by
        simp only [canInsert, decide_eq_true_eq] at room
        omega
      have ⟨max, log⟩ := ih (h.loadEvent row)
      rw [loadFromDB_cons, if_pos room]
      refine ⟨max, log.trans ?_⟩
      rw [left]
      simp [loadEvent]
    | false =>
      have none : h.maxRecords.toNat - h.log.length = 0 := by
        simp only [canInsert, decide_eq_false_iff_not] at room
        omega
      rw [loadFromDB_of_full _ room]
      simp [none]

lemma loadFromDB_nextGUID (h : LogHolder ε) (rows : List (LogEntry ε))
    (defined : h.nextGUID ≠ GUILD_EVENT_LOG_GUID_UNDEFINED) :
    (h.loadFromDB rows).nextGUID = h.nextGUID := by
  induction rows generalizing h with
  | nil => rfl
  | cons row rows ih =>
    rw [loadFromDB_cons]
    split
    next room =>
      have hs : (h.loadEvent row).nextGUID = h.nextGUID := if_neg defined
      rw [ih (h.loadEvent row) (hs ▸ defined), hs]
    next full => exact ih h defined

def loaded (maxRecords : UInt32) (rows : List (LogEntry ε)) : LogHolder ε :=
  ({ maxRecords } : LogHolder ε).loadFromDB rows

@[simp] lemma loaded_maxRecords (maxRecords : UInt32) (rows : List (LogEntry ε)) :
    (loaded maxRecords rows).maxRecords = maxRecords :=
  (loadFromDB_log _ rows).1

@[simp] lemma loaded_log (maxRecords : UInt32) (rows : List (LogEntry ε)) :
    (loaded maxRecords rows).log = (rows.take maxRecords.toNat).reverse := by
  simpa [loaded] using (loadFromDB_log { maxRecords } rows).2

lemma loaded_linked {maxRecords : UInt32} {rows : List (LogEntry ε)}
    (below : ∀ row ∈ rows.take maxRecords.toNat, row.guid < maxRecords) :
    (loaded maxRecords rows).Linked := by
  cases room : ({ maxRecords } : LogHolder ε).canInsert with
  | false =>
    rw [loaded, loadFromDB_of_full rows room]
    exact .inl ⟨rfl, rfl⟩
  | true =>
    cases rows with
    | nil => exact .inl ⟨rfl, rfl⟩
    | cons row rows =>
      obtain ⟨max, hmax⟩ : ∃ max, maxRecords.toNat = max + 1 := by
        simp only [canInsert, decide_eq_true_eq] at room
        exact Nat.exists_eq_add_one.mpr room
      have defined : row.guid ≠ GUILD_EVENT_LOG_GUID_UNDEFINED :=
        ne_undefined (below row (by simp [hmax]))
      have next : (loaded maxRecords (row :: rows)).nextGUID = row.guid := by
        rw [loaded, loadFromDB_cons, if_pos room]
        exact loadFromDB_nextGUID _ rows defined
      refine .inr ?_
      rw [next, numbers, loaded_log, hmax]
      simp

/-- The log is sound through all events exactly where each loaded GUID comes after the one of the
next older row. -/
theorem keeps_iff [Inhabited ε] (kind : LogKind) (maxRecords : UInt32)
    (rows : List (LogEntry ε)) :
    (∀ events, (loaded maxRecords rows).Keeps kind events) ↔
      0 < maxRecords.toNat ∧ Successive maxRecords.toNat
        ((rows.take maxRecords.toNat).reverse.map fun row => row.guid.toNat) := by
  constructor
  · intro keeps
    have sound := (keeps []).sound
    have linked : (loaded maxRecords rows).Linked := by
      refine loaded_linked fun row member => ?_
      have inLog : row ∈ (loaded maxRecords rows).log := by simpa using member
      simpa using sound.below row.guid (List.mem_map_of_mem inLog)
    have ring := ring_of_keeps keeps linked
    exact ⟨by simpa using ring.pos, by simpa [numbers] using ring.successive⟩
  · rintro ⟨pos, successive⟩ events
    refine Ring.keeps ⟨by simpa using pos, by simp, by simpa [numbers] using successive, ?_⟩ events
    refine loaded_linked fun row member => UInt32.lt_iff_toNat_lt.mpr ?_
    exact successive.below _ (List.mem_map.mpr ⟨row, List.mem_reverse.mpr member, rfl⟩)

/-- The oldest of three rows went with a deleted character. The next GUID belongs to a row that is
still in the log. -/
theorem loaded_gap_overwrites :
    ((loaded 3 [⟨1, 20⟩, ⟨2, 10⟩]).logEvent .event 30).map (fun done => (done.1.guids, done.2)) =
      some ([2, 1, 2], [.delete 2, .insert 2 30]) ∧
    ¬ (loaded 3 [⟨1, 20⟩, ⟨2, 10⟩]).Keeps .event [30] := by
  have run : ((loaded 3 [⟨1, 20⟩, ⟨2, 10⟩]).logEvent .event 30).map
      (fun done => (done.1.guids, done.2)) = some ([2, 1, 2], [.delete 2, .insert 2 30]) := by
    decide
  refine ⟨run, ?_⟩
  rintro ⟨_, h', trans, logged, _, sound⟩
  rw [logged, Option.map_some, Option.some.injEq, Prod.mk.injEq] at run
  have distinct := sound.distinct
  rw [run.1] at distinct
  exact absurd distinct (by decide)

end LogHolder

end WorldServer.Guilds
