import Mathlib.Data.Rat.Floor
import WorldServer.Instances.InstanceIds
import WorldServer.Lib.TimeQueue

/-!
# Instance saves and their resets

The instance save manager keeps the saves, the reset time of each pair of a map and a difficulty,
and a queue of reset events. An event of type 0 resets one instance. An event of a type from 1 to 4
is about all instances of a map and a difficulty: the types 1 to 3 warn and come back with the next
type, and type 4 resets and schedules the first warning of the next period.
-/
namespace WorldServer.Instances

open WorldServer.Lib

def MINUTE : ℕ := 60
def HOUR : ℕ := MINUTE * 60
def DAY : ℕ := HOUR * 24

/-! ### Maps and difficulties -/

inductive MapType where
  | MAP_COMMON
  | MAP_INSTANCE
  | MAP_RAID
  | MAP_BATTLEGROUND
  | MAP_ARENA
  | MAP_SCENARIO
deriving DecidableEq, Repr

structure MapEntry where
  map_type : MapType
deriving DecidableEq, Repr

def MapEntry.Instanceable (entry : MapEntry) : Bool := entry.map_type != .MAP_COMMON

def MapEntry.IsRaid (entry : MapEntry) : Bool := entry.map_type == .MAP_RAID

def DUNGEON_DIFFICULTY_NORMAL : ℕ := 0
def DUNGEON_DIFFICULTY_CHALLENGE : ℕ := 2

def MAX_DUNGEON_DIFFICULTY : ℕ := 3
def MAX_RAID_DIFFICULTY : ℕ := 6

def uint16 (n : ℕ) : ℕ := n % 2 ^ 16

def MAKE_PAIR32 (l h : ℕ) : ℕ × ℕ := (uint16 l, uint16 h)

/-- `sMapDifficultyMap` with the reset times in its rows; a difficulty fits in 8 bits. -/
structure MapDifficultyTable where
  rows : List ((ℕ × ℕ) × ℕ)
  distinct : (rows.map Prod.fst).Nodup
  mapids : ∀ row ∈ rows, row.1.1 < 2 ^ 16
  difficulties : ∀ row ∈ rows, row.1.2 < 2 ^ 8

/-- What the manager reads of the stores and of the configuration. -/
structure Config where
  sMapStore : ℕ → Option MapEntry
  sMapDifficultyMap : MapDifficultyTable
  rate : ℚ
  resetTimeHour : ℕ

namespace Config

variable (cfg : Config)

def GetMapDifficultyData (mapid difficulty : ℕ) : Option ℕ :=
  cfg.sMapDifficultyMap.rows.lookup (MAKE_PAIR32 mapid difficulty)

def diff : ℕ := uint32 (cfg.resetTimeHour * HOUR)

/-- The division is one of floating-point numbers, so the days are not rounded. -/
def period (resetTime : ℕ) : ℕ :=
  let period := uint32 ((resetTime * cfg.rate / DAY) * DAY).floor.toNat
  if period < DAY then DAY else period

end Config

/-! ### The manager -/

/-- The constructor's arguments `_mapid` and `_instanceid` are kept beside the fields that they are
narrowed to; the code does not store them. -/
structure InstResetEvent where
  type : ℕ
  difficulty : ℕ
  mapid : ℕ
  instanceId : ℕ
  _mapid : ℕ
  _instanceid : ℕ
deriving DecidableEq, Repr

def InstResetEvent.make (t _mapid d _instanceid : ℕ) : InstResetEvent :=
  ⟨t, d % 2 ^ 8, uint16 _mapid, uint16 _instanceid, _mapid, _instanceid⟩

/-- The operator `==` of events. -/
def InstResetEvent.same (event e : InstResetEvent) : Bool := e.instanceId == event.instanceId

structure InstanceSave where
  m_mapid : ℕ
  m_difficulty : ℕ
  m_resetTime : ℕ
  m_canReset : Bool
deriving DecidableEq, Repr

/-- What the manager asks of the database, the maps and the map manager. -/
inductive Effect where
  | saveToDB (instanceId : ℕ)
  | deleteSave (instanceId : ℕ)
  | deleteInstanceFromDB (instanceId : ℕ)
  | resetMap (mapid instanceId : ℕ)
  | freeInstanceId (instanceId : ℕ)
  | warnAll (mapid timeLeft : ℕ)
  | resetAll (mapid difficulty resetTime next_reset : ℕ)
deriving DecidableEq, Repr

structure InstanceSaveManager where
  m_instanceSaveById : ℕ → Option InstanceSave
  m_resetTimeByMapDifficulty : ℕ × ℕ → ℕ
  m_resetTimeQueue : TimeQueue ℤ InstResetEvent
  effects : List Effect

namespace InstanceSaveManager

variable (cfg : Config) (mgr : InstanceSaveManager)

def empty : InstanceSaveManager := ⟨fun _ => none, fun _ => 0, TimeQueue.empty, []⟩

def ResetTimeDelay (i : ℕ) : ℕ := [3600, 900, 300, 60].getD i 0

def GetResetTimeFor (mapid d : ℕ) : ℕ := mgr.m_resetTimeByMapDifficulty (MAKE_PAIR32 mapid d)

def SetResetTimeFor (mapid d t : ℕ) : InstanceSaveManager :=
  { mgr with m_resetTimeByMapDifficulty :=
      Function.update mgr.m_resetTimeByMapDifficulty (MAKE_PAIR32 mapid d) t }

def ask (effects : List Effect) : InstanceSaveManager :=
  { mgr with effects := mgr.effects ++ effects }

def AddReset (time : ℤ) (event : InstResetEvent) : InstanceSaveManager :=
  { mgr with m_resetTimeQueue := mgr.m_resetTimeQueue.insert time event }

/-- `ScheduleReset(false, ...)`: the event is searched at its time first and then, in case the reset
time changed, in the whole queue. -/
def CancelReset (time : ℤ) (event : InstResetEvent) : InstanceSaveManager :=
  let inRange (entry : ℤ × InstResetEvent) : Bool := entry.1 == time && entry.2.same event
  { mgr with m_resetTimeQueue :=
      if mgr.m_resetTimeQueue.entries.any inRange then mgr.m_resetTimeQueue.eraseFirst inRange
      else mgr.m_resetTimeQueue.eraseFirst fun entry => entry.2.same event }

def AddInstanceSave (now mapId instanceId difficulty resetTime : ℕ) (canReset load : Bool) :
    Option InstanceSave × InstanceSaveManager :=
  match mgr.m_instanceSaveById instanceId with
  | some old_save => (some old_save, mgr)
  | none =>
    match cfg.sMapStore mapId with
    | none => (none, mgr)
    | some entry =>
      if instanceId = 0 then (none, mgr)
      else if difficulty ≥ (if entry.IsRaid then MAX_RAID_DIFFICULTY else MAX_DUNGEON_DIFFICULTY) then
        (none, mgr)
      else
        let given : ℕ × InstanceSaveManager :=
          if resetTime ≠ 0 then (resetTime, mgr)
          else if entry.map_type = .MAP_RAID ∨ difficulty > DUNGEON_DIFFICULTY_NORMAL then
            (mgr.GetResetTimeFor mapId difficulty, mgr)
          else
            (now + 2 * HOUR,
              mgr.AddReset (now + 2 * HOUR : ℕ) (.make 0 mapId difficulty instanceId))
        let save : InstanceSave := ⟨uint16 mapId, difficulty, given.1, canReset⟩
        let mgr := if load then given.2 else given.2.ask [.saveToDB instanceId]
        (some save, { mgr with
          m_instanceSaveById := Function.update mgr.m_instanceSaveById instanceId (some save) })

/-- The players and groups are unbound and the save is deleted. -/
def _ResetSave (instanceId : ℕ) : InstanceSaveManager :=
  { mgr with m_instanceSaveById := Function.update mgr.m_instanceSaveById instanceId none }

/-- No result: `CreateBaseMap` has no such map and asserts. -/
def _ResetInstance (mapid instanceId : ℕ) : Option InstanceSaveManager :=
  (cfg.sMapStore mapid).map fun entry =>
    if !entry.Instanceable then mgr
    else
      let deleted := if (mgr.m_instanceSaveById instanceId).isSome then [.deleteSave instanceId]
        else []
      (mgr._ResetSave instanceId).ask (deleted ++
        [.deleteInstanceFromDB instanceId, .resetMap mapid instanceId, .freeInstanceId instanceId])

def _ResetAll (mapid difficulty resetTime : ℕ) : InstanceSaveManager :=
  match cfg.GetMapDifficultyData mapid difficulty with
  | none => mgr
  | some mapDiff =>
    if mapDiff = 0 then mgr
    else
      let next_reset := uint32 ((resetTime + MINUTE) / DAY * DAY + cfg.period mapDiff + cfg.diff)
      let others (save : InstanceSave) : Bool :=
        !(save.m_mapid == mapid && save.m_difficulty == difficulty)
      let mgr : InstanceSaveManager :=
        { mgr with m_instanceSaveById := fun id => (mgr.m_instanceSaveById id).filter others }
      ((mgr.SetResetTimeFor mapid difficulty next_reset).AddReset
        (uint32 (next_reset + (2 ^ 32 - 3600))) (.make 1 mapid difficulty 0)).ask
          [.resetAll mapid difficulty resetTime next_reset]

/-- No result: there is no entry for the map. The clock is read once, by the caller. -/
def _ResetOrWarnAll (mapid difficulty : ℕ) (warn : Bool) (resetTime now : ℕ) :
    Option InstanceSaveManager :=
  (cfg.sMapStore mapid).map fun mapEntry =>
    if !mapEntry.Instanceable then mgr
    else if warn then
      mgr.ask [.warnAll mapid (if now ≤ resetTime then 0 else uint32 (now - resetTime))]
    else mgr._ResetAll cfg mapid difficulty resetTime

def process (now : ℕ) (event : InstResetEvent) : Option InstanceSaveManager :=
  let eraseFront (mgr : InstanceSaveManager) : InstanceSaveManager :=
    { mgr with m_resetTimeQueue := mgr.m_resetTimeQueue.eraseFront }
  if event.type = 0 then (mgr._ResetInstance cfg event.mapid event.instanceId).map eraseFront
  else
    let resetTime := mgr.GetResetTimeFor event.mapid event.difficulty
    (mgr._ResetOrWarnAll cfg event.mapid event.difficulty (event.type != 4) resetTime now).map
      fun mgr =>
        if event.type ≠ 4 then
          -- the event is a reference into the queue, and it is the copy that is scheduled
          let event := { event with type := event.type + 1 }
          let mgr := { mgr with m_resetTimeQueue :=
            mgr.m_resetTimeQueue.modifyFront fun _ => event }
          eraseFront (mgr.AddReset (resetTime - ResetTimeDelay (event.type - 1)) event)
        else eraseFront mgr

def Update (now : ℕ) : ℕ → InstanceSaveManager → Option InstanceSaveManager
  | 0, _ => none
  | fuel + 1, mgr =>
    match mgr.m_resetTimeQueue.entries with
    | [] => some mgr
    | (t, event) :: _ =>
      if t ≥ now then some mgr else (mgr.process cfg now event).bind (Update now fuel)

end InstanceSaveManager

/-! ### Loading -/

structure InstanceRow where
  id : ℕ
  mapid : ℕ
  difficulty : ℕ
  resettime : ℕ
deriving DecidableEq, Repr

/-- The largest respawn time of the creatures of an instance. -/
structure RespawnRow where
  respawntime : ℕ
  instance' : ℕ
deriving DecidableEq, Repr

/-- A row of the table `instance_reset`. -/
structure ResetRow where
  mapid : ℕ
  difficulty : ℕ
  resettime : ℕ
deriving DecidableEq, Repr

/-- What `LoadResetTimes` reads. -/
structure Stored where
  instances : List InstanceRow
  respawns : List RespawnRow
  resets : List ResetRow

def Stored.timed (stored : Stored) : List InstanceRow :=
  stored.instances.filter fun row => row.resettime != 0

def setResettime (id resettime : ℕ) (rows : List InstanceRow) : List InstanceRow :=
  rows.map fun row => if row.id == id then { row with resettime } else row

def RespawnRow.resettime (respawn : RespawnRow) : ℕ := uint32 (respawn.respawntime + 2 * HOUR)

/-- The reset time of a normal instance follows its last respawn. Only the first row of the respawns
is used, as the loop asks the query of the instances for the next row, and that query has none. -/
def Stored.updated (stored : Stored) : List InstanceRow :=
  match stored.respawns with
  | [] => stored.timed
  | respawn :: _ => setResettime respawn.instance' respawn.resettime stored.timed

/-- The table `instance` afterwards. -/
def Stored.database (stored : Stored) : List InstanceRow :=
  match stored.respawns with
  | [] => stored.instances
  | respawn :: _ =>
    match stored.timed.find? fun row => row.id == respawn.instance' with
    | none => stored.instances
    | some row =>
      if row.resettime ≠ respawn.resettime then
        setResettime respawn.instance' respawn.resettime stored.instances
      else stored.instances

namespace InstanceSaveManager

variable (cfg : Config) (mgr : InstanceSaveManager)

def loadInstanceReset (now : ℕ) (row : InstanceRow) : InstanceSaveManager :=
  if row.resettime > now then
    mgr.AddReset row.resettime (.make 0 row.mapid row.difficulty row.id)
  else mgr

/-- The hour of the configuration replaces the stored one; rows of unknown pairs are deleted. -/
def loadResetRow (row : ResetRow) : InstanceSaveManager :=
  match cfg.GetMapDifficultyData row.mapid row.difficulty with
  | none => mgr
  | some _ => mgr.SetResetTimeFor row.mapid row.difficulty (row.resettime / DAY * DAY + cfg.diff)

def nextResetTime (now t period : ℕ) : ℕ :=
  let today := now / DAY * DAY
  let t := if t = 0 then today + period + cfg.diff else t
  if t < now then
    let t := t / DAY * DAY
    t + (((today - t) / period + 1) * period + cfg.diff)
  else t

/-- The type of the first event: the first warning that is still to come, or the reset. -/
def firstType (now t : ℕ) : ℕ :=
  ((List.range' 1 3).find? fun type => decide ((t : ℤ) - ResetTimeDelay (type - 1) > now)).getD 4

/-- One row of the table of pairs. Instances of the pair with a reset time of their own get events
as well. -/
def loadPair (now : ℕ) (timed : List InstanceRow) (row : (ℕ × ℕ) × ℕ) : InstanceSaveManager :=
  if row.2 = 0 then mgr
  else
    let mapid := row.1.1
    let difficulty := row.1.2
    let t := nextResetTime cfg now (mgr.GetResetTimeFor mapid difficulty) (cfg.period row.2)
    let type := firstType now t
    let time : ℤ := t - ResetTimeDelay (type - 1)
    let ids := (timed.filter fun row =>
      MAKE_PAIR32 row.mapid row.difficulty == (mapid, difficulty)).map InstanceRow.id
    (0 :: ids).foldl (fun mgr id => mgr.AddReset time (.make type mapid difficulty id))
      (mgr.SetResetTimeFor mapid difficulty t)

def LoadResetTimes (now : ℕ) (stored : Stored) : InstanceSaveManager :=
  let mgr := stored.updated.foldl (loadInstanceReset · now ·) empty
  let mgr := stored.resets.foldl (loadResetRow cfg) mgr
  cfg.sMapDifficultyMap.rows.foldl (loadPair cfg · now stored.timed ·) mgr

end InstanceSaveManager

end WorldServer.Instances
