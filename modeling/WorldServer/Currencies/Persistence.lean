import WorldServer.Currencies.Currency

/-!
# Currencies across a save

The state of an entry says what its row is like: an unchanged entry equals its row, a changed one
has a row that is out of date, a new one has no row. The changes keep this, and a save then makes
the rows equal to the memory. The weekly reset does not keep it: it calls a new entry changed, and
the save updates a row that is not there.
-/
namespace WorldServer.Currencies

open WorldServer.Lib

variable {types : CurrencyTypesStore} {standing : Standing} {stack : ℕ}

/-- A currency that the client knows, under an id that fits into a row -/
def Storable (types : CurrencyTypesStore) (id : UInt32) : Prop :=
  (types id).isSome = true ∧ id.toNat < 65536

instance (id : UInt32) : Decidable (Storable types id) :=
  inferInstanceAs (Decidable ((types id).isSome = true ∧ id.toNat < 65536))

variable {id : UInt32} {b : Option PlayerCurrency}

lemma toUInt32_toUInt16 (narrow : id.toNat < 65536) : id.toUInt16.toUInt32 = id := by
  apply UInt32.toNat_inj.mp
  exact Nat.mod_eq_of_lt narrow

lemma toUInt16_inj {id' : UInt32} (narrow : id.toNat < 65536) (narrow' : id'.toNat < 65536)
    (hs : id'.toUInt16 = id.toUInt16) : id' = id := by
  rw [← toUInt32_toUInt16 narrow, ← toUInt32_toUInt16 narrow', hs]

/-! ### What a call does to an entry -/

/-- An entry before and after a call -/
inductive Evolves : Option PlayerCurrency → Option PlayerCurrency → Prop
  | same (c : Option PlayerCurrency) : Evolves c c
  | made {c : PlayerCurrency} (new : c.state = .NEW) : Evolves none (some c)
  | grown {c d : PlayerCurrency} (new : c.state = .NEW) (still : d.state = .NEW) :
      Evolves (some c) (some d)
  | changed {c d : PlayerCurrency} (old : c.state ≠ .NEW) (changed : d.state = .CHANGED) :
      Evolves (some c) (some d)

lemma Evolves.trans {a c : Option PlayerCurrency} (first : Evolves a b) (second : Evolves b c) :
    Evolves a c := by
  cases first with
  | same => exact second
  | made new =>
    cases second with
    | same => exact .made new
    | grown _ still => exact .made still
    | changed old _ => exact absurd new old
  | grown new still =>
    cases second with
    | same => exact .grown new still
    | grown _ still' => exact .grown new still'
    | changed old _ => exact absurd still old
  | changed old changed =>
    cases second with
    | same => exact .changed old changed
    | grown new _ => rw [changed] at new; cases new
    | changed _ changed' => exact .changed old changed'

namespace Player

variable {p q : Player}

lemma evolves_put {c : PlayerCurrency} (write : Evolves (p.lookup id) (some c)) (id' : UInt32) :
    Evolves (p.lookup id') ((p.put id c).lookup id') := by
  rw [lookup_put]
  split
  next hs => rw [hs]; exact write
  next => exact .same _

lemma evolves_currencyOf (id : UInt32) : Evolves (p.lookup id) (some (p.currencyOf id)) := by
  rw [currencyOf]
  cases p.lookup id with
  | none => exact .made rfl
  | some c => exact .same _

lemma evolves_counted (id : UInt32) (new : Amounts) :
    Evolves (p.lookup id) (some ((p.currencyOf id).counted new)) := by
  apply (evolves_currencyOf id).trans
  by_cases isNew : (p.currencyOf id).state = .NEW
  · exact .grown isNew (by simp [PlayerCurrency.counted, isNew])
  · exact .changed isNew (by simp [PlayerCurrency.counted, isNew])

/-- What `ModifyCurrency` does: every entry evolves, and only known currencies get an entry. -/
lemma ModifyCurrency_spec {amount : Int32} {printLog ignoreMultipliers : Bool}
    (done : p.ModifyCurrency types standing stack id amount printLog ignoreMultipliers = some q) :
    (∀ id', Evolves (p.lookup id') (q.lookup id')) ∧
    (∀ id', p.lookup id' = none → q.lookup id' ≠ none →
      (types id').isSome = true ∧ (id' = id ∨ id' = CONQUEST_POINTS)) ∧
    (amount ≠ 0 → q.lookup id ≠ none) := by
  induction stack generalizing p id amount printLog ignoreMultipliers with
  | zero => simp [ModifyCurrency] at done
  | succ stack ih =>
    rw [ModifyCurrency] at done
    by_cases zero : amount = 0
    · rw [if_pos zero] at done
      cases done
      exact ⟨fun _ => .same _, fun _ absent there => absurd absent there, absurd zero⟩
    · rw [if_neg zero] at done
      cases known : types id with
      | none => rw [known] at done; cases done
      | some currency =>
        simp only [known] at done
        generalize newCounts _ _ _ _ _ = new at done
        -- what the write of the entry itself does
        have wrote : ∀ c, ∀ id', p.lookup id' = none → (p.put id c).lookup id' ≠ none →
            (types id').isSome = true ∧ (id' = id ∨ id' = CONQUEST_POINTS) := by
          intro c id' absent there
          rw [lookup_put] at there
          by_cases hs : id' = id
          · subst hs
            exact ⟨by rw [known]; rfl, .inl rfl⟩
          · rw [if_neg hs] at there
            exact absurd absent there
        have here : ∀ c, (p.put id c).lookup id ≠ none := by
          intro c
          rw [lookup_put, if_pos rfl]
          exact Option.some_ne_none c
        split at done
        · cases done
          exact ⟨evolves_put (evolves_currencyOf id), wrote _, fun _ => here _⟩
        · split at done
          · -- the amount is handed on to the conquest points
            obtain ⟨evolves, onlyKnown, _⟩ := ih done
            refine ⟨?_, ?_, ?_⟩
            · intro id'
              exact (evolves_put (evolves_counted id new) id').trans (evolves id')
            · intro id' absent there
              by_cases after : (p.put id ((p.currencyOf id).counted new)).lookup id' = none
              · obtain ⟨isKnown, isPoints⟩ := onlyKnown id' after there
                exact ⟨isKnown, .inr ((or_self_iff).mp isPoints)⟩
              · exact wrote _ id' absent after
            · intro _ gone
              have kept := evolves id
              rw [gone] at kept
              rw [lookup_put, if_pos rfl] at kept
              cases kept
          · cases done
            exact ⟨evolves_put (evolves_counted id new), wrote _, fun _ => here _⟩

lemma evolves_SetCurrency (id count id' : UInt32) :
    Evolves (p.lookup id') ((p.SetCurrency id count).lookup id') := by
  rw [SetCurrency]
  cases hf : p.lookup id with
  | none => exact evolves_put (by rw [hf]; exact .made rfl) id'
  | some c => exact .same _

lemma lookup_SetCurrency_of_none (id count id' : UInt32) (absent : p.lookup id' = none)
    (there : (p.SetCurrency id count).lookup id' ≠ none) : id' = id := by
  rw [SetCurrency] at there
  cases hf : p.lookup id with
  | some c =>
    rw [hf] at there
    exact absurd absent there
  | none =>
    simp only [hf, lookup_put] at there
    by_contra other
    rw [if_neg other] at there
    exact there absent

lemma lookup_ResetCurrencyWeekCap (id : UInt32) :
    p.ResetCurrencyWeekCap.lookup id =
      (p.lookup id).map fun c => { c with weekCount := 0, state := .CHANGED } :=
  Table.lookup_mapValues _ _ _

/-! ### Loading and saving -/

lemma key_of_mem_loadInserts (types : CurrencyTypesStore) (k : UInt16) (row : CurrencyRow) :
    ∀ st ∈ loadInserts types k row, st.key = k.toUInt32 := by
  intro st hm
  rw [loadInserts] at hm
  split at hm
  · cases hm
  · rw [List.mem_singleton.mp hm, Statement.key]

lemma lookup_LoadCurrency (rows : Table UInt16 CurrencyRow) (id : UInt32) :
    (_LoadCurrency types rows).lookup id =
      if Storable types id then
        (rows.lookup id.toUInt16).map fun row => ⟨.UNCHANGED, row.total_count, row.week_count⟩
      else none := by
  have own := key_of_mem_loadInserts types
  rw [Player.lookup, _LoadCurrency]
  by_cases narrow : id.toNat < 65536
  · have back := toUInt32_toUInt16 narrow
    cases hf : rows.lookup id.toUInt16 with
    | none =>
      rw [Statement.lookup_flush_of_none ∅ rows own]
      · simp
      · intro k row there hs
        rw [← hs, UInt16.toUInt16_toUInt32, there] at hf
        cases hf
    | some row =>
      have written := Statement.lookup_flush ∅ rows own hf fun k' _ _ hs =>
        UInt16.toUInt32_inj.mp hs
      rw [back] at written
      rw [written, loadInserts, back]
      cases known : types id with
      | none => simp [known, Storable]
      | some currency => simp [known, Storable, narrow, Statement.effect]
  · rw [if_neg fun storable => narrow storable.2]
    apply (Statement.lookup_flush_of_none ∅ rows own ?_).trans (AList.lookup_empty id)
    -- no row can hold a wide id
    intro k _ _ hs
    apply narrow
    rw [← hs, UInt16.toNat_toUInt32]
    exact k.toNat_lt

lemma key_of_mem_saveStatements (types : CurrencyTypesStore) (id : UInt32) (c : PlayerCurrency) :
    ∀ st ∈ saveStatements types id c, st.key = id.toUInt16 := by
  intro st hm
  rw [saveStatements] at hm
  split at hm
  · cases hm
  · split at hm <;> simp_all [Statement.key]

lemma lookup_SaveCurrency (types : CurrencyTypesStore) (p : Player) (id : UInt32) :
    (p._SaveCurrency types).2.lookup id =
      (p.lookup id).map fun c =>
        if (types id).isSome = true then { c with state := .UNCHANGED } else c := by
  rw [_SaveCurrency, Player.lookup, Table.lookup_filterMap, Player.lookup]
  cases p._currencyStorage.lookup id with
  | none => rfl
  | some c => cases types id <;> simp

def saved (c : PlayerCurrency) (row : Option CurrencyRow) : Option CurrencyRow :=
  match c.state with
  | .NEW => some ⟨c.weekCount, c.totalCount⟩
  | .CHANGED => row.map fun _ => ⟨c.weekCount, c.totalCount⟩
  | .UNCHANGED => row

lemma foldl_saveStatements (known : (types id).isSome = true) (c : PlayerCurrency)
    (row : Option CurrencyRow) :
    (saveStatements types id c).foldl (fun row st => st.effect row) row = saved c row := by
  obtain ⟨currency, isCurrency⟩ := Option.isSome_iff_exists.mp known
  rw [saveStatements, isCurrency, saved]
  cases c.state <;> rfl

section Rows

variable (storable : ∀ id c, p.lookup id = some c → Storable types id)
  (rows : Table UInt16 CurrencyRow)

include storable in
lemma lookup_rows_save {c : PlayerCurrency} (hf : p.lookup id = some c) :
    (Statement.execAll rows (p._SaveCurrency types).1).lookup id.toUInt16 =
      saved c (rows.lookup id.toUInt16) := by
  have own := key_of_mem_saveStatements types
  have narrow := storable id c hf
  rw [_SaveCurrency, Statement.lookup_flush rows _ own hf]
  · exact foldl_saveStatements narrow.1 c _
  · intro id' c' there hs
    exact toUInt16_inj narrow.2 (storable id' c' there).2 hs

include storable in
lemma lookup_rows_save_of_none (isStorable : Storable types id) (absent : p.lookup id = none) :
    (Statement.execAll rows (p._SaveCurrency types).1).lookup id.toUInt16 =
      rows.lookup id.toUInt16 := by
  have own := key_of_mem_saveStatements types
  rw [_SaveCurrency, Statement.lookup_flush_of_none rows _ own]
  intro id' c' there hs
  have equal := toUInt16_inj isStorable.2 (storable id' c' there).2 hs
  rw [equal, ← Player.lookup.eq_def, absent] at there
  cases there

end Rows

end Player

/-! ### Memory and rows -/

def Tracks : Option PlayerCurrency → Option CurrencyRow → Prop
  | none, row => row = none
  | some c, row =>
    match c.state with
    | .UNCHANGED => row = some ⟨c.weekCount, c.totalCount⟩
    | .CHANGED => row.isSome = true
    | .NEW => row = none

lemma Tracks.evolves {a : Option PlayerCurrency} {row : Option CurrencyRow} (h : Tracks a row)
    (step : Evolves a b) : Tracks b row := by
  cases step with
  | same => exact h
  | made new => rw [Tracks, new]; exact h
  | grown new still =>
    rw [Tracks, new] at h
    rw [Tracks, still]
    exact h
  | @changed c d old changed =>
    rw [Tracks] at h
    rw [Tracks, changed]
    cases state : c.state with
    | UNCHANGED => rw [state] at h; rw [h]; rfl
    | CHANGED => rw [state] at h; exact h
    | NEW => exact absurd state old

lemma Tracks.saved {c : PlayerCurrency} {row : Option CurrencyRow} (h : Tracks (some c) row) :
    Player.saved c row = some ⟨c.weekCount, c.totalCount⟩ := by
  rw [Tracks] at h
  rw [Player.saved]
  cases state : c.state with
  | UNCHANGED => rw [state] at h; exact h
  | CHANGED =>
    rw [state] at h
    obtain ⟨old, isOld⟩ := Option.isSome_iff_exists.mp h
    rw [isOld]
    rfl
  | NEW => rfl

namespace Character

variable {c : Character} {rows : Table UInt16 CurrencyRow}

/-- The rows hold the counts of every currency in memory. -/
def Held (c : Character) : Prop :=
  ∀ id currency, c.player.lookup id = some currency →
    c.rows.lookup id.toUInt16 = some ⟨currency.weekCount, currency.totalCount⟩

/-- A later load finds the counts that are in memory now, and no others. -/
def Restored (types : CurrencyTypesStore) (c : Character) : Prop :=
  ∀ id, ((Player._LoadCurrency types c.rows).lookup id).map (fun l => (l.weekCount, l.totalCount)) =
    (c.player.lookup id).map fun currency => (currency.weekCount, currency.totalCount)

/-- What holds between saves -/
structure Synced (types : CurrencyTypesStore) (c : Character) : Prop where
  storable : ∀ id currency, c.player.lookup id = some currency → Storable types id
  tracks : ∀ id, Storable types id → Tracks (c.player.lookup id) (c.rows.lookup id.toUInt16)

/-- An entry that no save will ever write -/
def Broken (types : CurrencyTypesStore) (c : Character) : Prop :=
  ∃ id currency, c.player.lookup id = some currency ∧
    (¬ Storable types id ∨ currency.state ≠ .NEW ∧ c.rows.lookup id.toUInt16 = none)

lemma synced_loaded (rows : Table UInt16 CurrencyRow) : Synced types (loaded types rows) where
  storable id currency hf := by
    by_contra other
    rw [loaded, Player.lookup_LoadCurrency, if_neg other] at hf
    cases hf
  tracks id storable := by
    rw [loaded, Player.lookup_LoadCurrency, if_pos storable]
    cases rows.lookup id.toUInt16 <;> rfl

lemma Synced.evolves (h : Synced types c) {q : Player}
    (evolves : ∀ id, Evolves (c.player.lookup id) (q.lookup id))
    (made : ∀ id, c.player.lookup id = none → q.lookup id ≠ none → Storable types id) :
    Synced types { c with player := q } where
  storable id currency hf := by
    cases before : c.player.lookup id with
    | none => exact made id before (by rw [hf]; exact Option.some_ne_none _)
    | some old => exact h.storable id old before
  tracks id storable := (h.tracks id storable).evolves (evolves id)

/-! ### A save -/

def afterSave (types : CurrencyTypesStore) (c : Character) : Character :=
  ⟨(c.player._SaveCurrency types).2, Statement.execAll c.rows (c.player._SaveCurrency types).1⟩

lemma Synced.held (h : Synced types c) : Held (afterSave types c) := by
  intro id currency hf
  rw [afterSave, Player.lookup_SaveCurrency] at hf
  obtain ⟨before, isBefore, rfl⟩ := Option.map_eq_some_iff.mp hf
  have storable := h.storable id before isBefore
  have tracks := h.tracks id storable
  rw [isBefore] at tracks
  rw [afterSave, Player.lookup_rows_save h.storable c.rows isBefore, tracks.saved, if_pos storable.1]

lemma Synced.afterSave (h : Synced types c) : Synced types (afterSave types c) where
  storable id currency hf := by
    rw [Character.afterSave, Player.lookup_SaveCurrency] at hf
    obtain ⟨before, isBefore, _⟩ := Option.map_eq_some_iff.mp hf
    exact h.storable id before isBefore
  tracks id storable := by
    cases hf : (Character.afterSave types c).player.lookup id with
    | some currency =>
      rw [h.held id currency hf]
      rw [Character.afterSave, Player.lookup_SaveCurrency] at hf
      obtain ⟨before, _, rfl⟩ := Option.map_eq_some_iff.mp hf
      rw [if_pos storable.1]
      rfl
    | none =>
      have absent : c.player.lookup id = none := by
        rw [Character.afterSave, Player.lookup_SaveCurrency] at hf
        exact Option.map_eq_none_iff.mp hf
      have tracks := h.tracks id storable
      rw [absent] at tracks
      rw [Character.afterSave, Player.lookup_rows_save_of_none h.storable c.rows storable absent]
      exact tracks

lemma Synced.restored (h : Synced types c) : Restored types (Character.afterSave types c) := by
  intro id
  rw [Player.lookup_LoadCurrency]
  cases hf : (Character.afterSave types c).player.lookup id with
  | some currency =>
    rw [if_pos (h.afterSave.storable id currency hf), h.held id currency hf]
    rfl
  | none =>
    split
    next storable =>
      have tracks := h.afterSave.tracks id storable
      rw [hf] at tracks
      rw [show (Character.afterSave types c).rows.lookup id.toUInt16 = none from tracks]
      rfl
    next => rfl

lemma Broken.not_saved (h : Broken types c) : ¬ (Held c ∧ Restored types c) := by
  rintro ⟨held, restored⟩
  obtain ⟨id, currency, hf, stray | ⟨_, noRow⟩⟩ := h
  · have back := restored id
    rw [Player.lookup_LoadCurrency, if_neg stray, hf] at back
    cases back
  · rw [held id currency hf] at noRow
    cases noRow

lemma Broken.afterSave (h : Broken types c) : Broken types (Character.afterSave types c) := by
  by_cases storable : ∀ id currency, c.player.lookup id = some currency → Storable types id
  · obtain ⟨id, currency, hf, stray | ⟨written, noRow⟩⟩ := h
    · exact absurd (storable id currency hf) stray
    · -- the entry is not new, so that nothing inserts its row
      have known := (storable id currency hf).1
      refine ⟨id, { currency with state := .UNCHANGED }, ?_, .inr ⟨by simp, ?_⟩⟩
      · rw [Character.afterSave, Player.lookup_SaveCurrency, hf, Option.map_some, if_pos known]
      · rw [Character.afterSave, Player.lookup_rows_save storable c.rows hf, noRow, Player.saved]
        cases state : currency.state with
        | NEW => exact absurd state written
        | CHANGED => rfl
        | UNCHANGED => rfl
  · simp only [not_forall] at storable
    obtain ⟨id, currency, hf, stray⟩ := storable
    have there := Player.lookup_SaveCurrency types c.player id
    rw [hf, Option.map_some] at there
    exact ⟨id, _, there, .inl stray⟩

lemma Broken.kept (h : Broken types c) {q : Player}
    (kept : ∀ id old, c.player.lookup id = some old →
      ∃ new, q.lookup id = some new ∧ (old.state ≠ .NEW → new.state ≠ .NEW)) :
    Broken types { c with player := q } := by
  obtain ⟨id, old, hf, why⟩ := h
  obtain ⟨new, there, notNew⟩ := kept id old hf
  refine ⟨id, new, there, why.imp_right ?_⟩
  rintro ⟨written, noRow⟩
  exact ⟨notNew written, noRow⟩

end Character

lemma Evolves.kept {old : PlayerCurrency} (h : Evolves (some old) b) :
    ∃ new, b = some new ∧ (old.state ≠ .NEW → new.state ≠ .NEW) := by
  cases h with
  | same => exact ⟨old, rfl, id⟩
  | grown new still => exact ⟨_, rfl, absurd new⟩
  | changed _ changed => exact ⟨_, rfl, by rw [changed]; simp⟩

/-! ### Runs -/

namespace Character

variable {c : Character} {rows : Table UInt16 CurrencyRow}

/-- After a save the rows hold the currencies in memory, and a later load restores them. -/
def SavedBy (types : CurrencyTypesStore) (stack : ℕ) (c : Option Character) (a : Action) : Prop :=
  match a with
  | .saveCurrency => ∀ after ∈ step types stack c a, Held after ∧ Restored types after
  | _ => True

/-- An entry is made only for a currency that the client knows, under an id that fits into a row,
and the week is reset only when no entry is new. -/
def Recorded (types : CurrencyTypesStore) (c : Option Character) (a : Action) : Prop :=
  ∀ before ∈ c, match a with
  | .modifyCurrency _ id count _ _ =>
    count = 0 ∨ before.player.lookup id ≠ none ∨ id.toNat < 65536
  | .setCurrency id _ => before.player.lookup id ≠ none ∨ Storable types id
  | .resetCurrencyWeekCap =>
    ∀ id currency, before.player.lookup id = some currency → currency.state ≠ .NEW
  | .saveCurrency => True

variable {a : Action} {after : Character}

lemma Synced.act (h : Synced types c) (recorded : Recorded types (some c) a)
    (done : c.act types stack a = some after) : Synced types after := by
  have guard := recorded c rfl
  cases a with
  | modifyCurrency standing id count printLog ignoreMultipliers =>
    obtain ⟨q, isDone, rfl⟩ := Option.map_eq_some_iff.mp done
    obtain ⟨evolves, onlyKnown, _⟩ := Player.ModifyCurrency_spec isDone
    apply h.evolves evolves
    intro id' absent there
    obtain ⟨known, rfl | rfl⟩ := onlyKnown id' absent there
    · refine ⟨known, ?_⟩
      obtain rfl | present | narrow := guard
      · -- an amount of zero does nothing
        cases stack with
        | zero => cases isDone
        | succ stack =>
          cases isDone
          exact absurd absent there
      · exact absurd absent present
      · exact narrow
    · exact ⟨known, by decide⟩
  | setCurrency id count =>
    cases done
    apply h.evolves (Player.evolves_SetCurrency id count)
    intro id' absent there
    cases Player.lookup_SetCurrency_of_none id count id' absent there
    exact guard.resolve_left (not_not_intro absent)
  | resetCurrencyWeekCap =>
    cases done
    apply h.evolves
    · intro id
      rw [Player.lookup_ResetCurrencyWeekCap]
      cases hf : c.player.lookup id with
      | none => exact .same _
      | some currency => exact .changed (guard id currency hf) rfl
    · intro id absent there
      rw [Player.lookup_ResetCurrencyWeekCap, absent] at there
      exact absurd rfl there
  | saveCurrency =>
    cases done
    exact h.afterSave

lemma Broken.act (h : Broken types c) (done : c.act types stack a = some after) :
    Broken types after := by
  cases a with
  | modifyCurrency standing id count printLog ignoreMultipliers =>
    obtain ⟨q, isDone, rfl⟩ := Option.map_eq_some_iff.mp done
    obtain ⟨evolves, _, _⟩ := Player.ModifyCurrency_spec isDone
    exact h.kept fun id old hf => Evolves.kept (hf ▸ evolves id)
  | setCurrency id count =>
    cases done
    exact h.kept fun id' old hf => Evolves.kept (hf ▸ Player.evolves_SetCurrency id count id')
  | resetCurrencyWeekCap =>
    cases done
    apply h.kept
    intro id old hf
    have there := Player.lookup_ResetCurrencyWeekCap (p := c.player) id
    rw [hf, Option.map_some] at there
    exact ⟨_, there, fun _ => PlayerCurrencyState.noConfusion⟩
  | saveCurrency =>
    cases done
    exact h.afterSave

lemma Synced.breaks (h : Synced types c) (stray : ¬ Recorded types (some c) a)
    (done : c.act types stack a = some after) : Broken types after := by
  cases a with
  | modifyCurrency standing id count printLog ignoreMultipliers =>
    obtain ⟨q, isDone, rfl⟩ := Option.map_eq_some_iff.mp done
    obtain ⟨_, _, makes⟩ := Player.ModifyCurrency_spec isDone
    simp only [Recorded, Option.mem_def, Option.some.injEq, forall_eq', not_or] at stray
    obtain ⟨nonzero, _, wide⟩ := stray
    obtain ⟨currency, there⟩ := Option.ne_none_iff_exists'.mp (makes nonzero)
    exact ⟨id, currency, there, .inl fun storable => wide storable.2⟩
  | setCurrency id count =>
    cases done
    simp only [Recorded, Option.mem_def, Option.some.injEq, forall_eq', not_or, not_not] at stray
    obtain ⟨absent, notStorable⟩ := stray
    refine ⟨id, ⟨.NEW, count, 0⟩, ?_, .inl notStorable⟩
    simp [Player.SetCurrency, absent, Player.lookup_put]
  | resetCurrencyWeekCap =>
    cases done
    simp only [Recorded, Option.mem_def, Option.some.injEq, forall_eq', not_forall, not_not] at stray
    obtain ⟨id, currency, hf, new⟩ := stray
    have tracks := h.tracks id (h.storable id currency hf)
    rw [hf, Tracks, new] at tracks
    have there := Player.lookup_ResetCurrencyWeekCap (p := c.player) id
    rw [hf, Option.map_some] at there
    exact ⟨id, _, there, .inr ⟨PlayerCurrencyState.noConfusion, tracks⟩⟩
  | saveCurrency => exact absurd (fun _ _ => trivial) stray

lemma Broken.shows (h : Broken types c) {as : List Action}
    (alive : run (step types stack) (some c) (as ++ [.saveCurrency]) ≠ none) :
    ¬ Along (step types stack) (SavedBy types stack) (some c) (as ++ [.saveCurrency]) := by
  induction as generalizing c with
  | nil =>
    rintro ⟨saved, _⟩
    exact h.afterSave.not_saved (saved _ rfl)
  | cons a as ih =>
    rintro ⟨_, rest⟩
    cases done : c.act types stack a with
    | none =>
      apply alive
      rw [List.cons_append, run_cons, step, Option.bind_some, done]
      exact run_keeps (· = none) (by rintro _ _ rfl; rfl) rfl _
    | some after =>
      have next : step types stack (some c) a = some after := done
      rw [next] at rest
      rw [List.cons_append, run_cons, next] at alive
      exact ih (h.act done) alive rest

/-- In a run that ends with a save, every save writes the currencies if and only if every call is
recorded. -/
lemma Synced.run (h : Synced types c) {as : List Action}
    (alive : run (step types stack) (some c) (as ++ [.saveCurrency]) ≠ none) :
    Along (step types stack) (SavedBy types stack) (some c) (as ++ [.saveCurrency]) ↔
      Along (step types stack) (fun c a => Recorded types c a) (some c) (as ++ [.saveCurrency]) := by
  induction as generalizing c with
  | nil =>
    constructor
    · intro _
      exact ⟨fun _ _ => trivial, trivial⟩
    · intro _
      refine ⟨?_, trivial⟩
      rintro after ⟨⟩
      exact ⟨h.held, h.restored⟩
  | cons a as ih =>
    cases done : c.act types stack a with
    | none =>
      apply absurd _ alive
      rw [List.cons_append, run_cons, step, Option.bind_some, done]
      exact run_keeps (· = none) (by rintro _ _ rfl; rfl) rfl _
    | some after =>
      have next : step types stack (some c) a = some after := done
      rw [List.cons_append, run_cons, next] at alive
      rw [List.cons_append, along_cons, along_cons, next]
      constructor
      · rintro ⟨_, rest⟩
        by_contra stray
        by_cases recorded : Recorded types (some c) a
        · exact stray ⟨recorded, (ih (h.act recorded done) alive).mp rest⟩
        · exact (h.breaks recorded done).shows alive rest
      · rintro ⟨recorded, rest⟩
        refine ⟨?_, (ih (h.act recorded done) alive).mpr rest⟩
        cases a with
        | saveCurrency =>
          rintro _ ⟨⟩
          exact ⟨h.held, h.restored⟩
        | _ => trivial

/-- A run from a loaded character that ends with a save, in a server that is still there then -/
theorem currency_persistence (types : CurrencyTypesStore) (stack : ℕ)
    (rows : Table UInt16 CurrencyRow) (as : List Action)
    (alive : (Lib.run (step types stack) (some (loaded types rows))
      (as ++ [.saveCurrency])).isSome = true) :
    Along (step types stack) (SavedBy types stack) (some (loaded types rows))
        (as ++ [.saveCurrency]) ↔
      Along (step types stack) (Recorded types) (some (loaded types rows))
        (as ++ [.saveCurrency]) :=
  (synced_loaded rows).run (Option.isSome_iff_ne_none.mp alive)

def coinTypes : CurrencyTypesStore := fun id => if id = 777 then some ⟨1, 0, 0, 0⟩ else none

def noAuras : Standing := ⟨fun _ count => count, 0, 0, 0, 0⟩

def earnCoins : Action := .modifyCurrency noAuras 777 10 true false

/-- The coins are saved before the week ends. -/
theorem currency_persistence_coins :
    (Lib.run (step coinTypes 1) (some (loaded coinTypes ∅))
        ([earnCoins, .saveCurrency, .resetCurrencyWeekCap] ++ [.saveCurrency])).isSome = true ∧
      (Along (step coinTypes 1) (SavedBy coinTypes 1) (some (loaded coinTypes ∅))
          ([earnCoins, .saveCurrency, .resetCurrencyWeekCap] ++ [.saveCurrency]) ↔
        Along (step coinTypes 1) (Recorded coinTypes) (some (loaded coinTypes ∅))
          ([earnCoins, .saveCurrency, .resetCurrencyWeekCap] ++ [.saveCurrency])) :=
  ⟨by decide, currency_persistence coinTypes 1 ∅ _ (by decide)⟩

/-- The week ends between the gain and the save: the coins are never written. -/
theorem not_currency_persistence :
    ¬ ∀ (types : CurrencyTypesStore) (stack : ℕ) (rows : Table UInt16 CurrencyRow)
      (as : List Action),
      Along (step types stack) (SavedBy types stack) (some (loaded types rows)) as := by
  intro claim
  have run := claim coinTypes 1 ∅ [earnCoins, .resetCurrencyWeekCap, .saveCurrency]
  obtain ⟨_, _, saved, _⟩ := run
  obtain ⟨held, _⟩ := saved _ rfl
  have row := held 777 ⟨.UNCHANGED, 10, 0⟩ (by decide)
  exact absurd row (by decide)

end Character

end WorldServer.Currencies
