import WorldServer.Lib.Run
import WorldServer.Quests.LogMoves
import WorldServer.Quests.StatusRows

/-!
# What a save makes of the log

A full save should leave the log alone and write rows from which it can be read again. It does so for
the statuses. The counters are cleared with the marks, and a counter that is not in memory is not
deleted from the rows either.
-/
namespace WorldServer.Quests

open WorldServer.Lib Relation

/-- What a player does, with the saves -/
inductive Operation where
  | event (event : Event)
  | complete (quest_id : UInt32)
  | reward (quest_id : UInt32) (fits : Bool)
  | save
  /-- A logout, which saves, and a login at the given time -/
  | relog (loginTime : UInt32)

def Operation.saves : Operation → Bool
  | .save | .relog _ => true
  | _ => false

structure Deed where
  env : Around
  operation : Operation

namespace Player

variable (mgr : ObjectMgr)

def act (p : Player) (d : Deed) : Player :=
  match d.operation with
  | .event event => p.happen mgr d.env event
  | .complete quest_id => p.completeIfPossible mgr d.env quest_id
  | .reward quest_id fits =>
    match mgr.GetQuestTemplate quest_id with
    | some quest => if p.CanRewardQuest mgr quest fits then p.RewardQuest mgr quest d.env.gameTime else p
    | none => p
  | .save => p.SaveToDB mgr d.env.gameTime
  | .relog loginTime => (p.SaveToDB mgr d.env.gameTime).load mgr loginTime

/-! ### What is asked of a save -/

/-- What is in memory is the same. -/
structure SameLog (p p' : Player) : Prop where
  slots : p'.slots = p.slots
  statuses : p'.m_QuestStatus = p.m_QuestStatus
  counters : ∀ objectiveId, p'.GetQuestObjectiveCounter objectiveId = p.GetQuestObjectiveCounter objectiveId

def shownRow (row : StatusRow) : QuestStatus × Bool := (row.status, row.explored)

def shown (data : QuestStatusData) : QuestStatus × Bool := (data.Status, data.Explored)

/-- The rows are those of the active quests, and the log is read from them as it is. -/
structure Readable (mgr : ObjectMgr) (p : Player) : Prop where
  statuses : ∀ loginTime q, ((p.load mgr loginTime).m_QuestStatus.lookup q).map shown =
    (p.m_QuestStatus.lookup q).map shown
  counters : ∀ loginTime objectiveId, (p.load mgr loginTime).GetQuestObjectiveCounter objectiveId =
    p.GetQuestObjectiveCounter objectiveId
  statusRows : ∀ q row, p.rows.status.lookup q = some row → (p.m_QuestStatus.lookup q).isSome
  counterRows : ∀ objectiveId amount, p.rows.objective.lookup objectiveId = some amount →
    (p.m_QuestStatus.lookup (mgr.GetQuestObjectiveQuestId objectiveId)).isSome

structure Survives (mgr : ObjectMgr) (p : Player) (d : Deed) : Prop where
  rewarded : SameLog p (p._SaveQuestStatus mgr d.env.gameTime)
  saved : d.operation.saves = true → SameLog p (p.SaveToDB mgr d.env.gameTime)
  readable : d.operation.saves = true → Readable mgr (p.SaveToDB mgr d.env.gameTime)

/-- At a full save every counter is 0, and the rows of counters are those of active quests, or of
removed quests whose counters are still in memory. -/
structure Unspoiled (mgr : ObjectMgr) (p : Player) (d : Deed) : Prop where
  zero : d.operation.saves = true → ∀ objectiveId counter,
    p.m_questObjectiveStatus.lookup objectiveId = some counter → counter = 0
  rows : d.operation.saves = true → ∀ objectiveId amount,
    p.rows.objective.lookup objectiveId = some amount →
    (p.m_QuestStatus.lookup (mgr.GetQuestObjectiveQuestId objectiveId)).isSome ∨
      (p.m_questObjectiveStatus.lookup objectiveId).isSome ∧
      p.m_QuestStatusSave.lookup (mgr.GetQuestObjectiveQuestId objectiveId) = some false

/-! ### Marks and rows -/

variable {mgr} {p p' : Player} {gameTime : UInt32}

/-- A quest that is not marked has the row it should have, and the marks say whether it is active. -/
structure Kept (mgr : ObjectMgr) (p : Player) : Prop where
  unmarked : ∀ q, p.m_QuestStatusSave.lookup q = none →
    (p.rows.status.lookup q).map shownRow = (p.m_QuestStatus.lookup q).map shown
  removed : ∀ q, p.m_QuestStatusSave.lookup q = some false → p.m_QuestStatus.lookup q = none
  written : ∀ q, p.m_QuestStatusSave.lookup q = some true → (p.m_QuestStatus.lookup q).isSome
  zero : ∀ objectiveId amount, p.rows.objective.lookup objectiveId = some amount → amount = 0
  counted : ∀ objectiveId amount, p.rows.objective.lookup objectiveId = some amount →
    mgr.GetQuestObjectiveQuestId objectiveId ≠ 0

lemma Kept.mark (h : Kept mgr p) {q : UInt32}
    (others : ∀ q', q' ≠ q → p'.m_QuestStatus.lookup q' = p.m_QuestStatus.lookup q')
    (own : (p'.m_QuestStatus.lookup q).isSome)
    (save : p'.m_QuestStatusSave = p.m_QuestStatusSave.insert q true) (rows : p'.rows = p.rows) :
    Kept mgr p' where
  unmarked q' none := by
    rw [save] at none
    by_cases same : q' = q
    · rw [same, AList.lookup_insert] at none
      cases none
    · rw [AList.lookup_insert_ne same] at none
      rw [rows, others q' same]
      exact h.unmarked q' none
  removed q' mark := by
    rw [save] at mark
    by_cases same : q' = q
    · rw [same, AList.lookup_insert] at mark
      cases mark
    · rw [AList.lookup_insert_ne same] at mark
      rw [others q' same]
      exact h.removed q' mark
  written q' mark := by
    by_cases same : q' = q
    · rw [same]
      exact own
    · rw [save, AList.lookup_insert_ne same] at mark
      rw [others q' same]
      exact h.written q' mark
  zero := by rw [rows]; exact h.zero
  counted := by rw [rows]; exact h.counted

lemma Kept.remove (h : Kept mgr p) {q : UInt32}
    (status : p'.m_QuestStatus = p.m_QuestStatus.erase q)
    (save : p'.m_QuestStatusSave = if (p.m_QuestStatus.lookup q).isSome then
      p.m_QuestStatusSave.insert q false else p.m_QuestStatusSave) (rows : p'.rows = p.rows) :
    Kept mgr p' := by
  cases active : p.m_QuestStatus.lookup q with
  | none =>
    rw [active] at save
    rw [Table.erase_of_none _ active] at status
    have same : p'.m_QuestStatusSave = p.m_QuestStatusSave := save
    constructor
    · rw [same, status, rows]
      exact h.unmarked
    · rw [same, status]
      exact h.removed
    · rw [same, status]
      exact h.written
    · rw [rows]
      exact h.zero
    · rw [rows]
      exact h.counted
  | some data =>
    rw [active] at save
    have marked : p'.m_QuestStatusSave = p.m_QuestStatusSave.insert q false := save
    constructor
    · intro q' none
      rw [marked] at none
      by_cases same : q' = q
      · rw [same, AList.lookup_insert] at none
        cases none
      · rw [AList.lookup_insert_ne same] at none
        rw [rows, status, AList.lookup_erase_ne same]
        exact h.unmarked q' none
    · intro q' mark
      rw [status]
      by_cases same : q' = q
      · rw [same, AList.lookup_erase]
      · rw [marked, AList.lookup_insert_ne same] at mark
        rw [AList.lookup_erase_ne same]
        exact h.removed q' mark
    · intro q' mark
      by_cases same : q' = q
      · rw [marked, same, AList.lookup_insert] at mark
        cases mark
      · rw [marked, AList.lookup_insert_ne same] at mark
        rw [status, AList.lookup_erase_ne same]
        exact h.written q' mark
    · rw [rows]
      exact h.zero
    · rw [rows]
      exact h.counted

lemma Kept.move (h : Kept mgr p) (move : Move mgr p p') : Kept mgr p' := by
  cases move with
  | take quest limittime known inactive =>
    rw [AddQuest]
    split
    next => exact h
    next =>
      apply h.mark (q := quest.Id)
      · intro q' other
        exact AList.lookup_insert_ne other
      · rw [AList.lookup_insert]
        rfl
      · rfl
      · rfl
  | status quest_id status known proper =>
    rw [SetQuestStatus, if_pos known]
    apply h.mark (q := quest_id)
    · intro q' other
      exact AList.lookup_insert_ne other
    · rw [AList.lookup_insert]
      rfl
    · rfl
    · rfl
  | explored quest_id data active =>
    apply h.mark (q := quest_id)
    · intro q' other
      exact AList.lookup_insert_ne other
    · rw [AList.lookup_insert]
      rfl
    · rfl
    · rfl
  | counter quest_id key counter active => exact h.mark (fun _ _ => rfl) active rfl rfl
  | reward quest gameTime known =>
    obtain ⟨before, rewarded, saved⟩ := rewardQuest_saves mgr p quest gameTime
    have kept : Kept mgr before := h.remove rewarded.status rewarded.save rewarded.rows
    rw [saved]
    refine { kept with unmarked := ?_ }
    intro q none
    rw [lookup_saved_status]
    change before.m_QuestStatusSave.lookup q = Option.none at none
    rw [none]
    exact kept.unmarked q none
  | abandon slot =>
    rw [HandleQuestLogRemoveQuest_eq]
    have removed : Kept mgr (p.RemoveActiveQuest (p.slots slot)) := by
      apply h.remove (removeActiveQuest_status _)
      · rw [RemoveActiveQuest]
        split <;> rfl
      · rw [RemoveActiveQuest]
        split <;> rfl
    split
    next => exact { removed with }
    next => exact { h with }
  | possess => exact { h with }

lemma Kept.moves (h : Kept mgr p) (moves : Moves mgr p p') : Kept mgr p' := by
  induction moves with
  | refl => exact h
  | tail _ move ih => exact ih.move move

/-! ### A full save -/

/-- What a full save does to the log and its rows -/
structure Saved (mgr : ObjectMgr) (gameTime : UInt32) (p p' : Player) : Prop where
  slots : p'.slots = p.slots
  statuses : p'.m_QuestStatus = p.m_QuestStatus
  marks : p'.m_QuestStatusSave = ∅
  counters : p'.m_questObjectiveStatus = ∅
  statusRows : p'.rows.status = (p._SaveQuestStatus mgr gameTime).rows.status
  counterRows : p'.rows.objective = Statement.execAll p.rows.objective
    (Statement.flush p.m_questObjectiveStatus (p.objectiveStatements mgr))

lemma saved_saveToDB (gameTime : UInt32) : Saved mgr gameTime p (p.SaveToDB mgr gameTime) := by
  rw [SaveToDB, _SaveMonthlyQuestStatus, _SaveSeasonalQuestStatus, _SaveWeeklyQuestStatus,
    _SaveDailyQuestStatus]
  split_ifs <;> exact ⟨rfl, rfl, rfl, rfl, rfl, rfl⟩

lemma statusRows_saved (h : Kept mgr p) (filed : Filed mgr p) (q : UInt32) :
    ((p._SaveQuestStatus mgr gameTime).rows.status.lookup q).map shownRow =
      (p.m_QuestStatus.lookup q).map shown := by
  rw [lookup_saved_status]
  cases mark : p.m_QuestStatusSave.lookup q with
  | none => exact h.unmarked q mark
  | some marked =>
    cases marked with
    | false =>
      rw [h.removed q mark]
      rfl
    | true =>
      obtain ⟨data, active⟩ := Option.isSome_iff_exists.mp (h.written q mark)
      have proper := (filed.known q data active).2
      simp only [statusStatements, active, proper, if_true, ne_eq, not_false_eq_true, decide_true,
        Bool.or_true]
      rfl

lemma lookup_saved_counter (objectiveId : UInt32) :
    (Statement.execAll p.rows.objective
        (Statement.flush p.m_questObjectiveStatus (p.objectiveStatements mgr))).lookup objectiveId =
      match p.m_questObjectiveStatus.lookup objectiveId with
      | none => p.rows.objective.lookup objectiveId
      | some counter => (p.objectiveStatements mgr objectiveId counter).foldl
          (fun row st => st.effect row) (p.rows.objective.lookup objectiveId) := by
  have own : ∀ k counter, ∀ st ∈ p.objectiveStatements mgr k counter, st.key = id k := by
    intro k counter st member
    rw [objectiveStatements] at member
    split at member
    · cases member
    · split at member
      · cases member
      all_goals
        rw [List.mem_singleton.mp member]
        rfl
  change (Statement.execAll _ _).lookup (id objectiveId) = _
  cases found : p.m_questObjectiveStatus.lookup objectiveId with
  | none =>
    apply Statement.lookup_flush_of_none _ _ own
    rintro k _ some rfl
    rw [show p.m_questObjectiveStatus.lookup (id k) = _ from some] at found
    cases found
  | some counter => exact Statement.lookup_flush _ _ own found fun k' _ _ same => same

lemma lookup_saved_counter_cases {objectiveId amount : UInt32}
    (found : (Statement.execAll p.rows.objective
      (Statement.flush p.m_questObjectiveStatus (p.objectiveStatements mgr))).lookup objectiveId =
      some amount) :
    p.m_questObjectiveStatus.lookup objectiveId = some amount ∧
        mgr.GetQuestObjectiveQuestId objectiveId ≠ 0 ∧
        p.m_QuestStatusSave.lookup (mgr.GetQuestObjectiveQuestId objectiveId) = some true ∨
      p.rows.objective.lookup objectiveId = some amount ∧
        ¬ ((p.m_questObjectiveStatus.lookup objectiveId).isSome ∧
          mgr.GetQuestObjectiveQuestId objectiveId ≠ 0 ∧
          p.m_QuestStatusSave.lookup (mgr.GetQuestObjectiveQuestId objectiveId) = some false) := by
  rw [lookup_saved_counter] at found
  cases inMemory : p.m_questObjectiveStatus.lookup objectiveId with
  | none =>
    rw [inMemory] at found
    right
    exact ⟨found, by simp⟩
  | some counter =>
    rw [inMemory] at found
    simp only [objectiveStatements] at found
    split at found
    next noQuest =>
      right
      exact ⟨found, by simp [noQuest]⟩
    next isQuest =>
      split at found
      next unmarked =>
        right
        exact ⟨found, by simp [unmarked]⟩
      next marked =>
        left
        cases found
        exact ⟨rfl, isQuest, marked⟩
      next => cases found

lemma lookup_load_status (filed : Filed mgr p) {p' : Player} {q : UInt32}
    (rows : (p'.rows.status.lookup q).map shownRow = (p.m_QuestStatus.lookup q).map shown)
    (loginTime : UInt32) :
    ((p'.load mgr loginTime).m_QuestStatus.lookup q).map shown = (p.m_QuestStatus.lookup q).map shown := by
  change ((p'.loadedStatus mgr loginTime).lookup q).map shown = _
  rw [loadedStatus, Table.lookup_filterMap]
  cases active : p.m_QuestStatus.lookup q with
  | none =>
    rw [active, Option.map_none, Option.map_eq_none_iff] at rows
    rw [rows]
    rfl
  | some data =>
    rw [active] at rows
    obtain ⟨row, found, same⟩ := Option.map_eq_some_iff.mp rows
    obtain ⟨known, proper⟩ := filed.known q data active
    obtain ⟨quest, template⟩ := Option.isSome_iff_exists.mp known
    have status : row.status = data.Status := congrArg Prod.fst same
    have explored : row.explored = data.Explored := congrArg Prod.snd same
    simp [found, template, status, proper, loadStatus, shown, explored]

lemma filed_load (p : Player) (loginTime : UInt32) : Filed mgr (p.load mgr loginTime) := by
  have slot : ∀ i : Fin MAX_QUEST_LOG_SIZE, (p.load mgr loginTime).slots i ≠ 0 →
      ∃ e, (p.loadedStatus mgr loginTime).entries[i.1]? = some e ∧
        (p.load mgr loginTime).slots i = e.1 := by
    intro i some
    change (((p.loadedStatus mgr loginTime).entries[i.1]?.map (·.1)).getD 0) ≠ 0 at some
    change ∃ e, (p.loadedStatus mgr loginTime).entries[i.1]? = Option.some e ∧
      ((p.loadedStatus mgr loginTime).entries[i.1]?.map (·.1)).getD 0 = e.1
    cases entry : (p.loadedStatus mgr loginTime).entries[i.1]? with
    | none =>
      rw [entry] at some
      exact absurd rfl some
    | some e => exact ⟨e, rfl, rfl⟩
  constructor
  · intro i some
    obtain ⟨e, entry, key⟩ := slot i some
    rw [key]
    change ((p.loadedStatus mgr loginTime).lookup e.1).isSome
    rw [AList.mem_lookup_iff.mpr (List.mem_of_getElem? entry)]
    rfl
  · intro i j same some
    obtain ⟨e, entry, key⟩ := slot i some
    obtain ⟨e', entry', key'⟩ := slot j (same ▸ some)
    have distinct := (p.loadedStatus mgr loginTime).nodupKeys
    have keyAt : ((p.loadedStatus mgr loginTime).entries.map Sigma.fst)[i.1]? =
        ((p.loadedStatus mgr loginTime).entries.map Sigma.fst)[j.1]? := by
      rw [List.getElem?_map, List.getElem?_map, entry, entry', Option.map_some, Option.map_some,
        ← key, ← key', same]
    have inside : i.1 < ((p.loadedStatus mgr loginTime).entries.map Sigma.fst).length := by
      rw [List.length_map]
      exact (List.getElem?_eq_some_iff.mp entry).1
    exact Fin.ext ((List.getElem?_inj inside distinct).mp keyAt)
  · intro q data found
    change (p.loadedStatus mgr loginTime).lookup q = some data at found
    rw [loadedStatus, Table.lookup_filterMap] at found
    obtain ⟨row, _, read⟩ := Option.bind_eq_some_iff.mp found
    split at read
    next => cases read
    next proper =>
      obtain ⟨quest, template, rfl⟩ := Option.map_eq_some_iff.mp read
      rw [template]
      exact ⟨rfl, proper⟩

/-! ### Runs -/

/-- What every run keeps -/
structure Ordered (mgr : ObjectMgr) (p : Player) : Prop where
  filed : Filed mgr p
  kept : Kept mgr p

lemma Ordered.moves (h : Ordered mgr p) (moves : Moves mgr p p') : Ordered mgr p' :=
  ⟨h.filed.moves moves, h.kept.moves moves⟩

section Save

variable {d : Deed}

lemma Kept.save (h : Kept mgr p) (filed : Filed mgr p) (unspoiled : Unspoiled mgr p d)
    (saves : d.operation.saves = true) (saved : Saved mgr gameTime p p') : Kept mgr p' where
  unmarked q _ := by
    rw [saved.statusRows, saved.statuses]
    exact statusRows_saved h filed q
  removed q mark := by
    rw [saved.marks] at mark
    cases mark
  written q mark := by
    rw [saved.marks] at mark
    cases mark
  zero objectiveId amount found := by
    rw [saved.counterRows] at found
    rcases lookup_saved_counter_cases found with ⟨inMemory, _⟩ | ⟨row, _⟩
    · exact unspoiled.zero saves objectiveId amount inMemory
    · exact h.zero objectiveId amount row
  counted objectiveId amount found := by
    rw [saved.counterRows] at found
    rcases lookup_saved_counter_cases found with ⟨_, isQuest, _⟩ | ⟨row, _⟩
    · exact isQuest
    · exact h.counted objectiveId amount row

lemma Ordered.save (h : Ordered mgr p) (unspoiled : Unspoiled mgr p d)
    (saves : d.operation.saves = true) (gameTime : UInt32) : Ordered mgr (p.SaveToDB mgr gameTime) := by
  have saved : Saved mgr gameTime p (p.SaveToDB mgr gameTime) := saved_saveToDB gameTime
  constructor
  · constructor
    · rw [saved.slots, saved.statuses]
      exact h.filed.active
    · rw [saved.slots]
      exact h.filed.once
    · rw [saved.statuses]
      exact h.filed.known
  · exact h.kept.save h.filed unspoiled saves saved

lemma Ordered.load (h : Ordered mgr p) (marks : p.m_QuestStatusSave = ∅) (loginTime : UInt32) :
    Ordered mgr (p.load mgr loginTime) where
  filed := filed_load p loginTime
  kept :=
    { unmarked := by
        intro q _
        have rows := h.kept.unmarked q (by rw [marks]; rfl)
        rw [lookup_load_status h.filed rows]
        exact rows
      removed := by
        intro q mark
        cases mark
      written := by
        intro q mark
        cases mark
      zero := h.kept.zero
      counted := h.kept.counted }

lemma counter_of_lookup {objectiveId counter : UInt32}
    (found : p.m_questObjectiveStatus.lookup objectiveId = some counter) :
    p.GetQuestObjectiveCounter objectiveId = counter := by
  rw [GetQuestObjectiveCounter, found]
  rfl

lemma Ordered.readable (h : Ordered mgr p) (unspoiled : Unspoiled mgr p d)
    (saves : d.operation.saves = true) (saved : Saved mgr gameTime p p')
    (after : Ordered mgr p') : Readable mgr p' where
  statuses loginTime q := lookup_load_status after.filed
    (after.kept.unmarked q (by rw [saved.marks]; rfl)) loginTime
  counters loginTime objectiveId := by
    have none : p'.GetQuestObjectiveCounter objectiveId = 0 := by
      rw [GetQuestObjectiveCounter, saved.counters]
      rfl
    rw [none]
    cases found : (p'.load mgr loginTime).m_questObjectiveStatus.lookup objectiveId with
    | none =>
      rw [GetQuestObjectiveCounter, found]
      rfl
    | some amount =>
      rw [counter_of_lookup found]
      exact after.kept.zero objectiveId amount ((Table.lookup_keep_iff _ _ _ _).mp found).1
  statusRows q row found := by
    have rows := after.kept.unmarked q (by rw [saved.marks]; rfl)
    rw [found] at rows
    obtain ⟨data, active, _⟩ := Option.map_eq_some_iff.mp rows.symm
    rw [active]
    rfl
  counterRows objectiveId amount found := by
    rw [saved.statuses]
    rw [saved.counterRows] at found
    rcases lookup_saved_counter_cases found with ⟨_, _, mark⟩ | ⟨row, notRemoved⟩
    · exact h.kept.written _ mark
    · rcases unspoiled.rows saves objectiveId amount row with active | ⟨inMemory, mark⟩
      · exact active
      · exact absurd ⟨inMemory, h.kept.counted objectiveId amount row, mark⟩ notRemoved

lemma sameLog_saveStatus : SameLog p (p._SaveQuestStatus mgr gameTime) :=
  ⟨rfl, rfl, fun _ => rfl⟩

lemma survives_iff (h : Ordered mgr p) (d : Deed) : Survives mgr p d ↔ Unspoiled mgr p d := by
  have saved : Saved mgr d.env.gameTime p (p.SaveToDB mgr d.env.gameTime) :=
    saved_saveToDB d.env.gameTime
  constructor
  · rintro ⟨_, same, readable⟩
    constructor
    · intro saves objectiveId counter found
      have kept := (same saves).counters objectiveId
      rw [counter_of_lookup found, GetQuestObjectiveCounter, saved.counters] at kept
      exact kept.symm
    · intro saves objectiveId amount row
      by_contra lost
      rw [not_or] at lost
      apply lost.1
      have active := (readable saves).counterRows objectiveId
      rw [saved.counterRows, saved.statuses, lookup_saved_counter] at active
      -- the row is still there, or written again
      cases inMemory : p.m_questObjectiveStatus.lookup objectiveId with
      | none =>
        rw [inMemory] at active
        exact active amount row
      | some counter =>
        rw [inMemory] at active
        have isQuest := h.kept.counted objectiveId amount row
        cases mark : p.m_QuestStatusSave.lookup (mgr.GetQuestObjectiveQuestId objectiveId) with
        | none =>
          simp only [objectiveStatements, isQuest, if_false, mark] at active
          exact active amount row
        | some marked =>
          cases marked with
          | true => exact h.kept.written _ mark
          | false =>
            exact absurd ⟨by rw [inMemory]; rfl, mark⟩ lost.2
  · intro unspoiled
    refine ⟨sameLog_saveStatus, ?_, ?_⟩
    · intro saves
      refine ⟨saved.slots, saved.statuses, ?_⟩
      intro objectiveId
      rw [GetQuestObjectiveCounter, saved.counters]
      cases found : p.m_questObjectiveStatus.lookup objectiveId with
      | none =>
        rw [GetQuestObjectiveCounter, found]
        rfl
      | some counter =>
        rw [counter_of_lookup found, unspoiled.zero saves objectiveId counter found]
        rfl
    · intro saves
      exact h.readable unspoiled saves saved (h.save unspoiled saves d.env.gameTime)

lemma Ordered.act (h : Ordered mgr p) (unspoiled : Unspoiled mgr p d) : Ordered mgr (p.act mgr d) := by
  obtain ⟨env, operation⟩ := d
  cases operation with
  | event event => exact h.moves (happen_moves h.filed event)
  | complete quest_id => exact h.moves (completeIfPossible_moves quest_id)
  | reward quest_id fits =>
    rw [Player.act]
    dsimp only
    split
    next quest known =>
      obtain rfl := (mgr.named quest_id quest known).1
      split
      next => exact h.moves (.single (.reward p quest env.gameTime known))
      next => exact h
    next => exact h
  | save => exact h.save unspoiled rfl env.gameTime
  | relog loginTime =>
    have saved : Saved mgr env.gameTime p (p.SaveToDB mgr env.gameTime) := saved_saveToDB env.gameTime
    exact (h.save unspoiled rfl env.gameTime).load saved.marks loginTime

end Save

lemma ordered_new (has : Possessions) : Ordered mgr (new has) where
  filed := filed_new has
  kept :=
    { unmarked := by
        intro q _
        rfl
      removed := by
        intro q mark
        cases mark
      written := by
        intro q mark
        cases mark
      zero := by
        intro objectiveId amount found
        cases found
      counted := by
        intro objectiveId amount found
        cases found }

/-- In a run from a new character the log survives every save just where no save loses counters. -/
theorem log_survives (mgr : ObjectMgr) (has : Possessions) (ds : List Deed) :
    Along (act mgr) (Survives mgr) (new has) ds ↔ Along (act mgr) (Unspoiled mgr) (new has) ds :=
  along_iff_of_invariant (Ordered mgr) (fun _ _ h unspoiled => h.act unspoiled)
    (fun _ d h => survives_iff h d) (ordered_new has) ds

lemma Filed.act (h : Filed mgr p) (d : Deed) : Filed mgr (p.act mgr d) := by
  have saved : Saved mgr d.env.gameTime p (p.SaveToDB mgr d.env.gameTime) := saved_saveToDB _
  cases act : d.operation with
  | event event =>
    simp only [Player.act, act]
    exact h.moves (happen_moves h event)
  | complete quest_id =>
    simp only [Player.act, act]
    exact h.moves (completeIfPossible_moves quest_id)
  | reward quest_id fits =>
    simp only [Player.act, act]
    split
    next quest known =>
      obtain rfl := (mgr.named quest_id quest known).1
      split
      next => exact h.move (.reward p quest d.env.gameTime known)
      next => exact h
    next => exact h
  | save =>
    simp only [Player.act, act]
    constructor
    · rw [saved.slots, saved.statuses]
      exact h.active
    · rw [saved.slots]
      exact h.once
    · rw [saved.statuses]
      exact h.known
  | relog loginTime =>
    simp only [Player.act, act]
    exact filed_load _ loginTime

/-- Whatever a save loses, the log is in order in every run: no quest is in two slots, the quest in a
slot is active, and what is active has a template and a proper status. -/
theorem log_filed (mgr : ObjectMgr) (has : Possessions) (ds : List Deed) :
    Filed mgr (run (act mgr) (new has) ds) :=
  run_keeps (Filed mgr) (fun _ d h => h.act d) (filed_new has) ds

/-- The one kill that was counted is gone after the save. -/
theorem not_log_survives :
    let ds : List Deed :=
      [⟨anywhere, .event (.accept 1 0)⟩, ⟨anywhere, .event (.kill 7)⟩, ⟨anywhere, .save⟩]
    ¬ Along (act (.twoOf .npc)) (Survives (.twoOf .npc)) (new blank.has) ds := by
  rintro ds ⟨_, _, survives, _⟩
  have same := (survives.saved rfl).counters 1
  revert same
  decide +kernel

end Player

end WorldServer.Quests
