import WorldServer.Lib.Run
import WorldServer.Lib.Statements

/-!
# The currencies of a player

A player has two counts for each currency: what was earned in this week and what is owned. The
entries are kept in memory, and an entry remembers whether its row in the database is up to date,
is out of date or was never written.
-/
namespace WorldServer.Currencies

open WorldServer.Lib

inductive PlayerCurrencyState where
  | UNCHANGED
  | CHANGED
  | NEW
deriving DecidableEq, Repr

structure PlayerCurrency where
  state : PlayerCurrencyState
  totalCount : UInt32
  weekCount : UInt32
deriving DecidableEq, Repr

/-- A row of `character_currency`. The player and the id of the currency are its key. -/
structure CurrencyRow where
  week_count : UInt32
  total_count : UInt32
deriving DecidableEq, Repr

/-- An entry of the client's table of currencies. The table is indexed by the id. -/
structure CurrencyTypesEntry where
  Category : UInt32
  TotalCap : UInt32
  WeekCap : UInt32
  Flags : UInt32

abbrev CurrencyTypesStore := UInt32 → Option CurrencyTypesEntry

def CONQUEST_POINTS : UInt32 := 390
def HONOR_POINTS : UInt32 := 392
def JUSTICE_POINTS : UInt32 := 395
def CONQUEST_META_ARENA : UInt32 := 483
def CONQUEST_META_RBG : UInt32 := 484
def CURRENCY_CATEGORY_META_CONQUEST : UInt32 := 89
def CURRENCY_FLAG_HIGH_PRECISION : UInt32 := 0x08
def CURRENCY_PRECISION : UInt32 := 100

/-- What a call reads besides the currencies: the auras and the ratings of the player, and the
configuration. The multiplier and the two calculators are in floating point. -/
structure Standing where
  auraMultiplied : UInt32 → Int32 → Int32
  arenaConquest : UInt32
  /-- `BgConquestRatingCalculator` at the battleground rating -/
  rbgConquest : UInt32
  maxHonorPoints : UInt32
  maxJusticePoints : UInt32

inductive Packet where
  | updateCurrency (hasWeekCap silent : Bool) (total id : UInt32) (week : Option UInt32)
  | weeklyReset
deriving DecidableEq, Repr

structure Player where
  _currencyStorage : Table UInt32 PlayerCurrency
  sent : List Packet

variable (types : CurrencyTypesStore) (standing : Standing)

def ownWeekCap (id : UInt32) (currency : CurrencyTypesEntry) : UInt32 :=
  if id = CONQUEST_META_ARENA then standing.arenaConquest * CURRENCY_PRECISION
  else if id = CONQUEST_META_RBG then standing.rbgConquest * CURRENCY_PRECISION
  else currency.WeekCap

def weekCapById (id : UInt32) : UInt32 :=
  match types id with
  | none => 0
  | some currency => ownWeekCap standing id currency

def GetCurrencyWeekCap (id : UInt32) (currency : CurrencyTypesEntry) : UInt32 :=
  if id = CONQUEST_POINTS then
    max (weekCapById types standing CONQUEST_META_ARENA)
      (weekCapById types standing CONQUEST_META_RBG)
  else ownWeekCap standing id currency

def GetCurrencyTotalCap (id : UInt32) (currency : CurrencyTypesEntry) : UInt32 :=
  if id = HONOR_POINTS ∧ 0 < standing.maxHonorPoints then standing.maxHonorPoints
  else if id = JUSTICE_POINTS ∧ 0 < standing.maxJusticePoints then standing.maxJusticePoints
  else currency.TotalCap

/-! ### Changing a count -/

/-- The amount after the caps, and the new counts. The code mixes signed and unsigned words. -/
structure Amounts where
  count : Int32
  newTotalCount : Int32
  newWeekCount : Int32
deriving DecidableEq, Repr

def capped (cap : UInt32) (count : Int32) : Int32 :=
  if cap ≠ 0 ∧ count > cap.toInt32 then cap.toInt32 else count

def newCounts (weekCap totalCap oldTotalCount oldWeekCount : UInt32) (amount : Int32) : Amounts :=
  let count := capped totalCap (capped weekCap amount)
  let sum := oldTotalCount.toInt32 + count
  let total := if sum < 0 then 0 else sum
  let weekSum := oldWeekCount.toInt32 + (if count > 0 then count else 0)
  let week := if weekSum < 0 then 0 else weekSum
  -- more than the week cap: only what is left of the week is added
  let overWeek := weekCap ≠ 0 ∧ weekCap.toInt32 < week
  let week := if overWeek then weekCap.toInt32 else week
  let total := if overWeek then (oldTotalCount + (weekCap - oldWeekCount)).toInt32 else total
  -- more than the total cap: the week then counts as full
  if totalCap ≠ 0 ∧ totalCap.toInt32 < total then ⟨count, totalCap.toInt32, weekCap.toInt32⟩
  else ⟨count, total, week⟩

def PlayerCurrency.counted (old : PlayerCurrency) (new : Amounts) : PlayerCurrency where
  state := if old.state = .NEW then .NEW else .CHANGED
  totalCount := new.newTotalCount.toUInt32
  weekCount := new.newWeekCount.toUInt32

namespace Player

def lookup (p : Player) (id : UInt32) : Option PlayerCurrency := p._currencyStorage.lookup id

/-- The entry that a change starts from: a missing one is made, new and empty. -/
def currencyOf (p : Player) (id : UInt32) : PlayerCurrency :=
  (p.lookup id).getD ⟨.NEW, 0, 0⟩

def put (p : Player) (id : UInt32) (currency : PlayerCurrency) : Player :=
  { p with _currencyStorage := p._currencyStorage.insert id currency }

def send (p : Player) (packet : Packet) : Player := { p with sent := p.sent ++ [packet] }

lemma lookup_put (p : Player) (id id' : UInt32) (currency : PlayerCurrency) :
    (p.put id currency).lookup id' = if id' = id then some currency else p.lookup id' := by
  split
  next hs => rw [hs]; exact AList.lookup_insert _
  next other => exact AList.lookup_insert_ne other

/-- A conquest currency that changed hands its amount on to the conquest points. The first argument
is what is left of the call stack. The answer is `none` where the stack is used up or an assertion
fails, and the server is gone. -/
def ModifyCurrency (p : Player) : ℕ → UInt32 → Int32 → Bool → Bool → Option Player
  | 0, _, _, _, _ => none
  | stack + 1, id, amount, printLog, ignoreMultipliers =>
    if amount = 0 then some p
    else
      match types id with
      | none => none
      | some currency =>
        let amount := if ignoreMultipliers then amount else standing.auraMultiplied id amount
        let precision :=
          if currency.Flags &&& CURRENCY_FLAG_HIGH_PRECISION ≠ 0 then CURRENCY_PRECISION else 1
        let old := p.currencyOf id
        let weekCap := GetCurrencyWeekCap types standing id currency
        let totalCap := GetCurrencyTotalCap standing id currency
        let new := newCounts weekCap totalCap old.totalCount old.weekCount amount
        if new.newTotalCount.toUInt32 = old.totalCount then some (p.put id old)
        else
          let p := p.put id (old.counted new)
          if currency.Category = CURRENCY_CATEGORY_META_CONQUEST then
            p.ModifyCurrency stack CONQUEST_POINTS new.count printLog false
          else
            some (p.send (.updateCurrency (weekCap ≠ 0) (!printLog)
              (new.newTotalCount.toUInt32 / precision) id
              (if weekCap ≠ 0 then some (new.newWeekCount.toUInt32 / precision) else none)))

def SetCurrency (p : Player) (id count : UInt32) : Player :=
  match p.lookup id with
  | none => p.put id ⟨.NEW, count, 0⟩
  | some _ => p

/-- The arena teams of the player, which are reset here too, hold no currency. -/
def ResetCurrencyWeekCap (p : Player) : Player :=
  { p with
    _currencyStorage := p._currencyStorage.mapValues fun currency =>
      { currency with weekCount := 0, state := .CHANGED } }.send .weeklyReset

/-! ### The database -/

/-- What one row puts into the map. Rows of currencies that the client does not know are left
out. -/
def loadInserts (currencyID : UInt16) (row : CurrencyRow) :
    List (Statement UInt32 PlayerCurrency) :=
  match types currencyID.toUInt32 with
  | none => []
  | some _ => [.insert currencyID.toUInt32 ⟨.UNCHANGED, row.total_count, row.week_count⟩]

def _LoadCurrency (rows : Table UInt16 CurrencyRow) : Player where
  _currencyStorage := Statement.execAll ∅ (Statement.flush rows (loadInserts types))
  sent := []

/-- The statement for one entry. The id goes into a column of 16 bits. -/
def saveStatements (id : UInt32) (currency : PlayerCurrency) :
    List (Statement UInt16 CurrencyRow) :=
  match types id with
  | none => []
  | some _ =>
    match currency.state with
    | .NEW => [.replace id.toUInt16 ⟨currency.weekCount, currency.totalCount⟩]
    | .CHANGED => [.update id.toUInt16 ⟨currency.weekCount, currency.totalCount⟩]
    | .UNCHANGED => []

def _SaveCurrency (p : Player) : List (Statement UInt16 CurrencyRow) × Player :=
  (Statement.flush p._currencyStorage (saveStatements types),
    { p with
      _currencyStorage := p._currencyStorage.filterMap fun id currency =>
        match types id with
        | none => some currency
        | some _ => some { currency with state := .UNCHANGED } })

end Player

/-! ### Runs -/

structure Character where
  player : Player
  rows : Table UInt16 CurrencyRow

inductive Action where
  | modifyCurrency (standing : Standing) (id : UInt32) (count : Int32)
      (printLog ignoreMultipliers : Bool)
  | setCurrency (id count : UInt32)
  | resetCurrencyWeekCap
  | saveCurrency

namespace Character

def loaded (rows : Table UInt16 CurrencyRow) : Character := ⟨Player._LoadCurrency types rows, rows⟩

def act (stack : ℕ) (c : Character) : Action → Option Character
  | .modifyCurrency standing id count printLog ignoreMultipliers =>
    (c.player.ModifyCurrency types standing stack id count printLog ignoreMultipliers).map
      fun player => { c with player }
  | .setCurrency id count => some { c with player := c.player.SetCurrency id count }
  | .resetCurrencyWeekCap => some { c with player := c.player.ResetCurrencyWeekCap }
  | .saveCurrency =>
    let saved := c.player._SaveCurrency types
    some ⟨saved.2, Statement.execAll c.rows saved.1⟩

def step (stack : ℕ) (c : Option Character) (a : Action) : Option Character :=
  c.bind fun c => c.act types stack a

end Character

end WorldServer.Currencies
