import Mathlib.Algebra.Order.Ring.Unbundled.Rat
import WorldServer.Lib.Table

/-!
# The reputation manager

A player has a standing with every faction that is in the reputation list, on top of a base that
depends on his race and class. The manager keeps the states of these factions, and counters of how
many of them are visible and of how many have reached the higher ranks. A change of a standing spills
over to the factions of the same team.
-/
namespace WorldServer.Reputation

open WorldServer.Lib

/-- Sums of `int32`. -/
def int32 (x : ℤ) : ℤ := x.bmod (2 ^ 32)

abbrev ReputationRank := Fin 8

def REP_HOSTILE : ReputationRank := 1
def REP_HONORED : ReputationRank := 5
def REP_REVERED : ReputationRank := 6
def REP_EXALTED : ReputationRank := 7

def Reputation_Cap : ℤ := 42999
def Reputation_Bottom : ℤ := -42000

def PointsInRank : List (ReputationRank × ℤ) :=
  [(7, 1000), (6, 21000), (5, 12000), (4, 6000), (3, 3000), (2, 3000), (1, 3000), (0, 36000)]

def rankFrom (standing : ℤ) : List (ReputationRank × ℤ) → ℤ → ReputationRank
  | [], _ => 0
  | (rank, points) :: ranks, limit =>
    if limit - points ≤ standing then rank else rankFrom standing ranks (limit - points)

def ReputationToRank (standing : ℤ) : ReputationRank :=
  rankFrom standing PointsInRank (Reputation_Cap + 1)

/-! ### Factions -/

abbrev FactionFlags := BitVec 8

def FACTION_FLAG_VISIBLE : FactionFlags := 0x01
def FACTION_FLAG_AT_WAR : FactionFlags := 0x02
def FACTION_FLAG_HIDDEN : FactionFlags := 0x04
def FACTION_FLAG_INVISIBLE_FORCED : FactionFlags := 0x08
def FACTION_FLAG_PEACE_FORCED : FactionFlags := 0x10
def FACTION_FLAG_INACTIVE : FactionFlags := 0x20
def FACTION_FLAG_SPECIAL : FactionFlags := 0x80

def FactionFlags.has (flags flag : FactionFlags) : Bool := flags &&& flag ≠ 0

/-- The base for some races and classes. -/
structure BaseReputation where
  raceMask : ℕ
  classMask : ℕ
  value : Int32
  flags : ℕ

structure FactionEntry where
  ID : ℕ
  /-- The position in the reputation list, unless it is negative. -/
  reputationListID : ℤ
  bases : List BaseReputation
  team : ℕ
  spilloverRateIn : ℚ
  spilloverRateOut : ℚ
  spilloverMaxRankIn : ℕ

def FactionEntry.CanHaveReputation (factionEntry : FactionEntry) : Bool :=
  0 ≤ factionEntry.reputationListID

structure FactionState where
  ID : ℕ
  ReputationListID : ℕ
  Standing : ℤ
  Flags : FactionFlags
  needSend : Bool
  needSave : Bool

structure Spillover where
  faction : ℕ
  faction_rate : ℚ
  faction_rank : ℕ

/-- The factions, where no two share a position in the reputation list. -/
structure FactionStore where
  entries : List FactionEntry
  distinct : (entries.map FactionEntry.ID).Nodup
  listed : ((entries.filter FactionEntry.CanHaveReputation).map
    FactionEntry.reputationListID).Nodup

namespace FactionStore

variable (store : FactionStore)

def LookupEntry (id : ℕ) : Option FactionEntry := store.entries.find? fun f => f.ID = id

def listEntry (reputationListID : ℕ) : Option FactionEntry :=
  store.entries.find? fun f => f.reputationListID = reputationListID

def GetFactionTeamList (faction : ℕ) : Option (List ℕ) :=
  let team := (store.entries.filter fun f => f.team = faction).map FactionEntry.ID
  if team = [] then none else some team

end FactionStore

/-- What the manager reads besides the states. -/
structure Environment where
  store : FactionStore
  GetRepSpilloverTemplate : ℕ → Option (List Spillover)
  raceMask : ℕ
  classMask : ℕ
  /-- A gain at the rate of the server, `int32(floor((float)standing * rate + 0.5f))`. -/
  gain : ℤ → ℤ
  mulFloat : ℚ → ℚ → ℚ
  toInt32 : ℚ → ℤ
  /-- Scripts may change a standing that is set. -/
  OnPlayerReputationChange : FactionEntry → ℤ → Bool → ℤ

namespace Environment

variable (env : Environment)

def applies (base : BaseReputation) : Bool :=
  (base.raceMask &&& env.raceMask ≠ 0 ∨ (base.raceMask = 0 ∧ base.classMask ≠ 0)) ∧
    (base.classMask &&& env.classMask ≠ 0 ∨ base.classMask = 0)

def GetBaseReputation (factionEntry : FactionEntry) : ℤ :=
  ((factionEntry.bases.find? env.applies).map BaseReputation.value).getD 0 |>.toInt

def GetDefaultStateFlags (factionEntry : FactionEntry) : ℕ :=
  ((factionEntry.bases.find? env.applies).map BaseReputation.flags).getD 0

end Environment

/-! ### Flags -/

namespace FactionState

variable (faction : FactionState)

/-- A hidden faction is not made visible, unless it is special. The answer says whether it was. -/
def SetVisible : FactionState × Bool :=
  if faction.Flags.has (FACTION_FLAG_INVISIBLE_FORCED ||| FACTION_FLAG_HIDDEN) &&
      !faction.Flags.has FACTION_FLAG_SPECIAL then (faction, false)
  else if faction.Flags.has FACTION_FLAG_VISIBLE then (faction, false)
  else
    ({ faction with
      Flags := faction.Flags ||| FACTION_FLAG_VISIBLE, needSend := true, needSave := true }, true)

def SetAtWar (atWar : Bool) : FactionState :=
  if atWar && faction.Flags.has FACTION_FLAG_PEACE_FORCED then faction
  else if faction.Flags.has FACTION_FLAG_AT_WAR = atWar then faction
  else
    { faction with
      Flags := if atWar then faction.Flags ||| FACTION_FLAG_AT_WAR
        else faction.Flags &&& ~~~FACTION_FLAG_AT_WAR
      needSend := true
      needSave := true }

def SetInactive (inactive : Bool) : FactionState :=
  if inactive && (faction.Flags.has (FACTION_FLAG_INVISIBLE_FORCED ||| FACTION_FLAG_HIDDEN) ||
      !faction.Flags.has FACTION_FLAG_VISIBLE) then faction
  else if faction.Flags.has FACTION_FLAG_INACTIVE = inactive then faction
  else
    { faction with
      Flags := if inactive then faction.Flags ||| FACTION_FLAG_INACTIVE
        else faction.Flags &&& ~~~FACTION_FLAG_INACTIVE
      needSend := true
      needSave := true }

def loadFlags (flags : ℕ) (hostile : Bool) : FactionState × Bool :=
  let dbFactionFlags : FactionFlags := BitVec.ofNat 8 flags
  let (faction, newly) :=
    if dbFactionFlags.has FACTION_FLAG_VISIBLE then faction.SetVisible else (faction, false)
  let faction :=
    if dbFactionFlags.has FACTION_FLAG_INACTIVE then faction.SetInactive true else faction
  let faction :=
    if dbFactionFlags.has FACTION_FLAG_AT_WAR then faction.SetAtWar true
    else if faction.Flags.has FACTION_FLAG_VISIBLE then faction.SetAtWar false
    else faction
  -- set atWar for hostile
  let faction := if hostile then faction.SetAtWar true else faction
  (if faction.Flags.toNat = flags then { faction with needSend := false, needSave := false }
    else faction, newly)

end FactionState

/-! ### The manager -/

/-- A counter of the factions with some rank or a higher one, when the rank of a faction changes. -/
def updateCount (count : UInt8) (rank old_rank new_rank : ReputationRank) : UInt8 :=
  let count := if rank ≤ old_rank then count - 1 else count
  if rank ≤ new_rank then count + 1 else count

structure ReputationMgr where
  _factions : Table ℕ FactionState
  _visibleFactionCount : UInt8
  _honoredFactionCount : UInt8
  _reveredFactionCount : UInt8
  _exaltedFactionCount : UInt8
  _sendFactionIncreased : Bool
  /-- The positions of the factions of which the player was told that their reputation changed, since
  the last request. -/
  reputationChanged : List ℕ

/-- A row of the database. -/
structure Row where
  faction : ℕ
  standing : ℤ
  flags : ℕ

namespace ReputationMgr

variable (env : Environment) (mgr : ReputationMgr)

def find (reputationListID : ℤ) : Option FactionState :=
  if 0 ≤ reputationListID then mgr._factions.lookup reputationListID.toNat else none

def update (faction : FactionState) : ReputationMgr :=
  { mgr with _factions := mgr._factions.insert faction.ReputationListID faction }

def GetReputation (factionEntry : FactionEntry) : ℤ :=
  match mgr.find factionEntry.reputationListID with
  | none => 0
  | some state => int32 (env.GetBaseReputation factionEntry + state.Standing)

def GetRank (factionEntry : FactionEntry) : ReputationRank :=
  ReputationToRank (mgr.GetReputation env factionEntry)

def GetReputationRank (faction : ℕ) : ReputationRank :=
  match env.store.LookupEntry faction with
  | none => ReputationToRank 0
  | some factionEntry => mgr.GetRank env factionEntry

def UpdateRankCounters (old_rank new_rank : ReputationRank) : ReputationMgr :=
  { mgr with
    _exaltedFactionCount := updateCount mgr._exaltedFactionCount REP_EXALTED old_rank new_rank
    _reveredFactionCount := updateCount mgr._reveredFactionCount REP_REVERED old_rank new_rank
    _honoredFactionCount := updateCount mgr._honoredFactionCount REP_HONORED old_rank new_rank }

def showFaction (faction : FactionState) : ReputationMgr :=
  let (faction, newly) := faction.SetVisible
  { mgr.update faction with
    _visibleFactionCount := mgr._visibleFactionCount + if newly then 1 else 0 }

def SetVisible (factionEntry : FactionEntry) : ReputationMgr :=
  match mgr.find factionEntry.reputationListID with
  | none => mgr
  | some faction => mgr.showFaction faction

def SetAtWar (FactionIndexID : ℕ) (atWar : Bool) : ReputationMgr :=
  match mgr._factions.lookup FactionIndexID with
  | none => mgr
  | some faction =>
    if faction.Flags.has (FACTION_FLAG_INVISIBLE_FORCED ||| FACTION_FLAG_HIDDEN) then mgr
    else mgr.update (faction.SetAtWar atWar)

def SetInactive (FactionIndex : ℕ) (Status : Bool) : ReputationMgr :=
  match mgr._factions.lookup FactionIndex with
  | none => mgr
  | some faction => mgr.update (faction.SetInactive Status)

/-! ### Standings -/

def newStanding (factionEntry : FactionEntry) (faction : FactionState) (standing : ℤ)
    (incremental : Bool) : ℤ :=
  let standing :=
    if incremental then
      int32 (env.gain standing + int32 (faction.Standing + env.GetBaseReputation factionEntry))
    else standing
  if Reputation_Cap < standing then Reputation_Cap
  else if standing < Reputation_Bottom then Reputation_Bottom
  else standing

def SetOneFactionReputation (factionEntry : FactionEntry) (standing : ℤ) (incremental : Bool) :
    Bool × ReputationMgr :=
  match mgr.find factionEntry.reputationListID with
  | none => (false, mgr)
  | some faction =>
    let BaseRep := env.GetBaseReputation factionEntry
    let standing := newStanding env factionEntry faction standing incremental
    let old_rank := ReputationToRank (int32 (faction.Standing + BaseRep))
    let new_rank := ReputationToRank standing
    let faction := { faction with
      Standing := int32 (standing - BaseRep), needSend := true, needSave := true }
    let (faction, newly) := faction.SetVisible
    let faction := if new_rank ≤ REP_HOSTILE then faction.SetAtWar true else faction
    let mgr := { mgr.update faction with
      _visibleFactionCount := mgr._visibleFactionCount + if newly then 1 else 0
      _sendFactionIncreased := mgr._sendFactionIncreased || old_rank < new_rank
      reputationChanged := faction.ReputationListID :: mgr.reputationChanged }
    (true, mgr.UpdateRankCounters old_rank new_rank)

/-- Everything that is to be sent goes with the state of one faction. -/
def SendState : ReputationMgr :=
  { mgr with
    _factions := mgr._factions.mapValues fun faction => { faction with needSend := false }
    _sendFactionIncreased := false }

def templateSpillover (standing : ℤ) (incremental : Bool) (repTemplate : List Spillover) :
    ReputationMgr :=
  repTemplate.foldl (fun mgr spill =>
    if spill.faction ≠ 0 ∧ (mgr.GetReputationRank env spill.faction : ℕ) ≤ spill.faction_rank then
      match env.store.LookupEntry spill.faction with
      | none => mgr
      | some factionEntry =>
        (mgr.SetOneFactionReputation env factionEntry
          (env.toInt32 (env.mulFloat standing spill.faction_rate)) incremental).2
    else mgr) mgr

def teamSpillover (factionEntry : FactionEntry) (spillOverRepOut : ℚ) (incremental : Bool)
    (flist : List ℕ) : Bool × ReputationMgr :=
  flist.foldl (fun (res, mgr) id =>
    match env.store.LookupEntry id with
    | none => (res, mgr)
    | some factionEntryCalc =>
      if factionEntryCalc.ID = factionEntry.ID ∨
          factionEntryCalc.spilloverMaxRankIn < mgr.GetRank env factionEntryCalc then (res, mgr)
      else
        let spilloverRep :=
          env.toInt32 (env.mulFloat spillOverRepOut factionEntryCalc.spilloverRateIn)
        if spilloverRep ≠ 0 ∨ !incremental then
          mgr.SetOneFactionReputation env factionEntryCalc spilloverRep incremental
        else (res, mgr)) (false, mgr)

/-- The spillover of a faction without such a definition: to its sub-factions or, if it has none, to
its parent or to the other factions of the parent. -/
def defaultSpillover (factionEntry : FactionEntry) (standing : ℤ) (incremental : Bool) :
    Bool × ReputationMgr :=
  match env.store.GetFactionTeamList factionEntry.ID with
  | some flist => mgr.teamSpillover env factionEntry standing incremental flist
  | none =>
    if factionEntry.team = 0 ∨ factionEntry.spilloverRateOut = 0 then (false, mgr)
    else
      let spillOverRepOut := env.mulFloat standing factionEntry.spilloverRateOut
      match env.store.LookupEntry factionEntry.team with
      | none => (false, mgr)
      | some parent =>
        -- some team factions have own reputation standing
        if (mgr.find parent.reputationListID).any fun state =>
            state.Flags.has FACTION_FLAG_SPECIAL then
          (false, (mgr.SetOneFactionReputation env parent (env.toInt32 spillOverRepOut)
            incremental).2)
        else
          match env.store.GetFactionTeamList factionEntry.team with
          | none => (false, mgr)
          | some flist => mgr.teamSpillover env factionEntry spillOverRepOut incremental flist

def SetReputation (factionEntry : FactionEntry) (standing : ℤ) (incremental : Bool) :
    Bool × ReputationMgr :=
  let standing := env.OnPlayerReputationChange factionEntry standing incremental
  let (res, mgr) :=
    match env.GetRepSpilloverTemplate factionEntry.ID with
    | some repTemplate => (false, mgr.templateSpillover env standing incremental repTemplate)
    | none => mgr.defaultSpillover env factionEntry standing incremental
  -- spillover done, update faction itself
  match mgr.find factionEntry.reputationListID with
  | none => (res, mgr)
  | some _ =>
    let (res, mgr) := mgr.SetOneFactionReputation env factionEntry standing incremental
    (res, mgr.SendState)

/-! ### Initialization and loading -/

def addFaction (factionEntry : FactionEntry) : ReputationMgr :=
  if !factionEntry.CanHaveReputation then mgr
  else
    let Flags : FactionFlags := BitVec.ofNat 8 (env.GetDefaultStateFlags factionEntry)
    let newFaction : FactionState :=
      ⟨factionEntry.ID, factionEntry.reputationListID.toNat, 0, Flags, true, true⟩
    let mgr := { mgr with
      _visibleFactionCount :=
        mgr._visibleFactionCount + if Flags.has FACTION_FLAG_VISIBLE then 1 else 0 }
    let mgr := mgr.UpdateRankCounters REP_HOSTILE
      (ReputationToRank (env.GetBaseReputation factionEntry))
    mgr.update newFaction

def Initialize : ReputationMgr := env.store.entries.foldl (addFaction env) ⟨∅, 0, 0, 0, 0, false, []⟩

def loadRow (row : Row) : ReputationMgr :=
  match env.store.LookupEntry row.faction with
  | none => mgr
  | some factionEntry =>
    match mgr.find factionEntry.reputationListID with
    | none => mgr
    | some faction =>
      let faction := { faction with Standing := row.standing }
      let BaseRep := env.GetBaseReputation factionEntry
      let rank := ReputationToRank (int32 (BaseRep + row.standing))
      let mgr := mgr.UpdateRankCounters (ReputationToRank BaseRep) rank
      let (faction, newly) := faction.loadFlags row.flags (rank ≤ REP_HOSTILE)
      { mgr.update faction with
        _visibleFactionCount := mgr._visibleFactionCount + if newly then 1 else 0 }

def LoadFromDB (rows : List Row) : ReputationMgr := rows.foldl (loadRow env) (Initialize env)

inductive Request where
  | setReputation (faction : ℕ) (standing : ℤ) (incremental : Bool)
  | setVisible (faction : ℕ)
  | setAtWar (FactionIndexID : ℕ)
  | setNotAtWar (FactionIndexID : ℕ)
  | setInactive (FactionIndex : ℕ) (Status : Bool)

def step (mgr : ReputationMgr) (request : Request) : ReputationMgr :=
  let mgr := { mgr with reputationChanged := [] }
  match request with
  | .setReputation faction standing incremental =>
    match env.store.LookupEntry faction with
    | none => mgr
    | some factionEntry => (mgr.SetReputation env factionEntry standing incremental).2
  | .setVisible faction =>
    match env.store.LookupEntry faction with
    | none => mgr
    | some factionEntry => mgr.SetVisible factionEntry
  | .setAtWar FactionIndexID => mgr.SetAtWar FactionIndexID true
  | .setNotAtWar FactionIndexID => mgr.SetAtWar FactionIndexID false
  | .setInactive FactionIndex Status => mgr.SetInactive FactionIndex Status

end ReputationMgr

end WorldServer.Reputation
