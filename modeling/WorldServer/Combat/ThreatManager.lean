import Mathlib.Algebra.Order.Field.Rat
import Mathlib.Data.Finset.Basic
import Mathlib.Data.List.Sort
import WorldServer.Lib.Run

/-!
# The threat list of a creature

A creature hates units. Each hated unit has a `HostileReference`, kept in the online or the
offline container of the creature's `ThreatManager`; the creature attacks the current victim,
chosen from the online container. References are heap objects: the manager names them by
address and the containers list addresses.

`HostileReference::addThreat` ends by calling back into the manager for the owner of a pet, so
one request leads to further calls. A `Machine` holds the calls that are still to be made, and
one step of it serves a request or makes the next call.
-/
namespace WorldServer.Combat

open WorldServer.Lib

/-- What the threat code asks about a unit. Places, maps and phases are seen from the owner of
the threat list. -/
structure UnitInfo (T : Type) where
  isPlayer : Bool
  isGameMaster : Bool
  isAlive : Bool
  isInMap : Bool
  inSamePhase : Bool
  inFlight : Bool
  isInAccessiblePlace : Bool
  isWithinCombatRange : Bool
  isWithinMeleeRange : Bool
  isImmunedToDamage : Bool
  hasNegativeAura : Bool
  canBeAttacked : Bool
  charmerOrOwner : Option UInt64
  redirectThreatPercent : UInt32
  redirectThreatTarget : Option UInt64
  threatModifier : Option (UInt32 → T)

structure ThreatSpell (T : Type) where
  noThreat : Bool
  pctMod : Option T
  energizes : Bool
  applySpellMod : UInt64 → T → T

/-- The units around the owner of the threat list, while one request is served. -/
structure World (T : Type) where
  owner : UInt64
  ownerIsAlive : Bool
  unit : UInt64 → UnitInfo T
  getUnit : UInt64 → Bool

structure HostileReference (T : Type) where
  iThreat : T
  iTempThreatModifier : T
  iUnitGuid : UInt64
  iOnline : Bool
  iAccessible : Bool
  isValid : Bool

structure ThreatContainer where
  iThreatList : List ℕ
  iDirty : Bool
  deriving DecidableEq

structure ThreatManager (T : Type) where
  refs : ℕ → HostileReference T
  live : Finset ℕ
  newRef : ℕ
  iThreatContainer : ThreatContainer
  iThreatOfflineContainer : ThreatContainer
  iCurrentVictim : Option ℕ

inductive ThreatRefStatusChangeEvent (T : Type) where
  | onlineStatus (ref : ℕ)
  | threatChange (ref : ℕ) (fValue : T)
  | removeFromList (ref : ℕ)
  | accessibleStatus (ref : ℕ)

/-- A call that is still to be made, or the rest of a function after a call in it. -/
inductive Call (T : Type) where
  | addThreat (victim : UInt64) (threat : T)
  | _addThreat (victim : UInt64) (threat : T)
  | setOnlineOfflineState (ref : ℕ) (isOnline : Bool)
  | clearTempThreatModifier (ref : ℕ)
  | setDirty
  | resetAllAggro (next : ℕ)
  | resetAggro (predicate : UInt64 → Bool) (next : ℕ)

/-- The state a function leaves, and the calls it has made on the way, in order. -/
abbrev Result (T : Type) := ThreatManager T × List (Call T)

/-- The operations on amounts of threat, floats in the source. -/
class ThreatValue (T : Type) extends Zero T, Add T, Sub T, Neg T, Mul T, Div T, NatCast T,
    IntCast T, BEq T, LT T, LE T where
  decidableLT : DecidableLT T
  decidableLE : DecidableLE T

attribute [reducible, instance] ThreatValue.decidableLT ThreatValue.decidableLE

instance : ThreatValue ℚ where
  toZero := inferInstance
  toAdd := inferInstance
  toSub := inferInstance
  toNeg := inferInstance
  toMul := inferInstance
  toDiv := inferInstance
  toNatCast := inferInstance
  toIntCast := inferInstance
  toBEq := inferInstance
  toLT := inferInstance
  toLE := inferInstance
  decidableLT := inferInstance
  decidableLE := inferInstance

variable {T : Type} [ThreatValue T]

/-! ### Amounts -/

def calculatePct (base pct : T) : T := base * pct / ((100 : ℕ) : T)

def tenths (n : ℕ) : T := (n : T) / ((10 : ℕ) : T)

namespace World

variable (w : World T)

def applyTotalThreatModifier (hatedUnit : UInt64) (threat : T) (schoolMask : UInt32) : T :=
  match (w.unit hatedUnit).threatModifier with
  | none => threat
  | some threatModifier => if threat < 0 then threat else threat * threatModifier schoolMask

def calcThreat (hatedUnit : UInt64) (threat : T) (schoolMask : UInt32)
    (threatSpell : Option (ThreatSpell T)) : T :=
  match threatSpell with
  | none => w.applyTotalThreatModifier hatedUnit threat schoolMask
  | some spell =>
    let threat := match spell.pctMod with
      | some pctMod => threat * pctMod
      | none => threat
    -- Energize is not affected by Mods
    if spell.energizes then threat
    else w.applyTotalThreatModifier hatedUnit (spell.applySpellMod hatedUnit threat) schoolMask

def isValidProcess (hatedUnit : UInt64) (threatSpell : Option (ThreatSpell T)) : Bool :=
  let hated := w.unit hatedUnit
  -- not to self
  if hatedUnit = w.owner then false
  -- not to GM
  else if hated.isPlayer && hated.isGameMaster then false
  -- not to dead and not for dead
  else if !hated.isAlive || !w.ownerIsAlive then false
  else if !hated.isInMap || !hated.inSamePhase then false
  else !(threatSpell.any (·.noThreat))

/-- What `updateOnlineStatus` finds for a linked reference: online and accessible. -/
def reachable (guid : UInt64) : Bool × Bool :=
  let target := w.unit guid
  if (!target.isPlayer || !target.isGameMaster) && !target.inFlight && target.isInMap &&
      target.inSamePhase then
    if target.isInAccessiblePlace then (true, true) else (target.isWithinCombatRange, false)
  else (false, false)

end World

/-! ### Containers -/

namespace ThreatContainer

/-- `std::list::remove` takes every occurrence. -/
def remove (c : ThreatContainer) (hostileRef : ℕ) : ThreatContainer :=
  { c with iThreatList := c.iThreatList.filter (· ≠ hostileRef) }

def addReference (c : ThreatContainer) (hostileRef : ℕ) : ThreatContainer :=
  { c with iThreatList := c.iThreatList ++ [hostileRef] }

end ThreatContainer

namespace ThreatManager

variable (s : ThreatManager T)

def init : ThreatManager T where
  refs := fun _ => ⟨0, 0, 0, false, false, false⟩
  live := ∅
  newRef := 0
  iThreatContainer := ⟨[], false⟩
  iThreatOfflineContainer := ⟨[], false⟩
  iCurrentVictim := none

def threatOf (ref : ℕ) : T := (s.refs ref).iThreat

def modifyRef (ref : ℕ) (f : HostileReference T → HostileReference T) : ThreatManager T :=
  { s with refs := Function.update s.refs ref (f (s.refs ref)) }

def setDirty (isDirty : Bool) : ThreatManager T := { s with iThreatContainer.iDirty := isDirty }

def setCurrentVictim (hostileRef : Option ℕ) : ThreatManager T :=
  { s with iCurrentVictim := hostileRef }

def getReferenceByTarget (c : ThreatContainer) (guid : UInt64) : Option ℕ :=
  c.iThreatList.find? fun ref => (s.refs ref).iUnitGuid = guid

def update : ThreatManager T :=
  let c := s.iThreatContainer
  { s with iThreatContainer := ⟨
      if c.iDirty ∧ 1 < c.iThreatList.length then
        c.iThreatList.insertionSort fun a b => ¬ s.threatOf a < s.threatOf b
      else c.iThreatList, false⟩ }

/-- Whether an event may have changed the order of the threat list. -/
def marks (hostilRef : ℕ) (fValue : T) : Prop :=
  (s.iCurrentVictim = some hostilRef ∧ fValue < 0) ∨
    (s.iCurrentVictim ≠ some hostilRef ∧ 0 < fValue)

instance (hostilRef : ℕ) (fValue : T) : Decidable (s.marks hostilRef fValue) :=
  inferInstanceAs (Decidable (_ ∨ _))

def overtakes (hostilRef : ℕ) : Prop :=
  ∃ victim ∈ s.iCurrentVictim, tenths 11 * s.threatOf victim < s.threatOf hostilRef

instance (hostilRef : ℕ) : Decidable (s.overtakes hostilRef) :=
  inferInstanceAs (Decidable (∃ _ ∈ _, _))

def leave (hostilRef : ℕ) : ThreatManager T :=
  if s.iCurrentVictim = some hostilRef then (s.setCurrentVictim none).setDirty true else s

def processThreatEvent : ThreatRefStatusChangeEvent T → ThreatManager T
  | .threatChange hostilRef fValue =>
    -- the order in the threat list might have changed
    if s.marks hostilRef fValue then s.setDirty true else s
  | .onlineStatus hostilRef =>
    if (s.refs hostilRef).iOnline then
      let s := if s.overtakes hostilRef then s.setDirty true else s
      { s with
        iThreatContainer := s.iThreatContainer.addReference hostilRef
        iThreatOfflineContainer := s.iThreatOfflineContainer.remove hostilRef }
    else
      let s := s.leave hostilRef
      { s with
        iThreatContainer := s.iThreatContainer.remove hostilRef
        iThreatOfflineContainer := s.iThreatOfflineContainer.addReference hostilRef }
  | .removeFromList hostilRef =>
    let s := s.leave hostilRef
    if (s.refs hostilRef).iOnline then
      { s with iThreatContainer := s.iThreatContainer.remove hostilRef }
    else { s with iThreatOfflineContainer := s.iThreatOfflineContainer.remove hostilRef }
  | .accessibleStatus _ => s

end ThreatManager

/-! ### One reference -/

namespace HostileReference

variable (w : World T) (s : ThreatManager T) (ref : ℕ)

def setAccessibleState (isAccessible : Bool) : ThreatManager T :=
  if (s.refs ref).iAccessible ≠ isAccessible then
    (s.modifyRef ref fun r => { r with iAccessible := isAccessible }).processThreatEvent
      (.accessibleStatus ref)
  else s

def setOnlineOfflineState (isOnline : Bool) : ThreatManager T :=
  if (s.refs ref).iOnline ≠ isOnline then
    let s := s.modifyRef ref fun r => { r with iOnline := isOnline }
    -- if not online that not accessable as well
    let s := if isOnline then s else setAccessibleState s ref false
    s.processThreatEvent (.onlineStatus ref)
  else s

def updateOnlineStatus : ThreatManager T :=
  let guid := (s.refs ref).iUnitGuid
  let s := s.modifyRef ref fun r => { r with isValid := r.isValid || w.getUnit guid }
  let (online, accessible) :=
    if (s.refs ref).isValid then w.reachable guid else (false, false)
  setOnlineOfflineState (setAccessibleState s ref accessible) ref online

def ownerThreat (modThreat : T) : List (Call T) :=
  if (s.refs ref).isValid ∧ 0 ≤ modThreat then
    match (w.unit (s.refs ref).iUnitGuid).charmerOrOwner with
    | some victimOwner => if (w.unit victimOwner).isAlive then [.addThreat victimOwner 0] else []
    | none => []
  else []

def addThreat (modThreat : T) : Result T :=
  let s := s.modifyRef ref fun r => { r with iThreat := r.iThreat + modThreat }
  -- if the link was cut before relink it again
  let s := if (s.refs ref).iOnline then s else updateOnlineStatus w s ref
  let s := if modThreat != 0 then s.processThreatEvent (.threatChange ref modThreat) else s
  (s, ownerThreat w s ref modThreat)

def setThreat (threat : T) : Result T := addThreat w s ref (threat - s.threatOf ref)

def addThreatPercent (percent : Int32) : Result T :=
  let tmpThreat := s.threatOf ref + calculatePct (s.threatOf ref) (percent.toInt : T)
  addThreat w s ref (tmpThreat - s.threatOf ref)

def setTempThreat (threat : T) : Result T :=
  let modifier := threat - s.threatOf ref
  let s := s.modifyRef ref fun r => { r with iTempThreatModifier := modifier }
  if modifier != 0 then addThreat w s ref modifier else (s, [])

def resetTempThreat : Result T :=
  let modifier := (s.refs ref).iTempThreatModifier
  if modifier != 0 then
    let (s, calls) := addThreat w s ref (-modifier)
    (s, calls ++ [.clearTempThreatModifier ref])
  else (s, [])

/-- The target tells that the reference is not needed anymore, and deletes it. -/
def removeReference : ThreatManager T :=
  let s := setOnlineOfflineState s ref false
  let s := s.modifyRef ref fun r => { r with isValid := false }
  let s := s.processThreatEvent (.removeFromList ref)
  { s with live := s.live.erase ref }

end HostileReference

/-! ### The manager -/

namespace ThreatManager

variable (w : World T) (s : ThreatManager T)

def newReference (victim : UInt64) : ThreatManager T :=
  { s with
    refs := Function.update s.refs s.newRef ⟨0, 0, victim, true, true, true⟩
    live := insert s.newRef s.live
    newRef := s.newRef + 1
    iThreatContainer := s.iThreatContainer.addReference s.newRef }

def _addThreat (victim : UInt64) (threat : T) : Result T :=
  match s.getReferenceByTarget s.iThreatContainer victim with
  | some ref => HostileReference.addThreat w s ref threat
  | none =>
    match s.getReferenceByTarget s.iThreatOfflineContainer victim with
    | some ref => HostileReference.addThreat w s ref threat
    | none =>
      let hostileRef := s.newRef
      let (s, calls) := HostileReference.addThreat w (s.newReference victim) hostileRef threat
      -- GM is always offline
      if (w.unit victim).isPlayer && (w.unit victim).isGameMaster then
        (s, calls ++ [.setOnlineOfflineState hostileRef false])
      else (s, calls)

def doAddThreat (victim : UInt64) (threat : T) : Result T :=
  let hated := w.unit victim
  if 0 < threat ∧ hated.redirectThreatPercent ≠ 0 then
    match hated.redirectThreatTarget with
    | some redirectTarget =>
      let redirectThreat := calculatePct threat (hated.redirectThreatPercent.toNat : T)
      (s, [._addThreat redirectTarget redirectThreat, ._addThreat victim (threat - redirectThreat)])
    | none => (s, [._addThreat victim threat])
  else (s, [._addThreat victim threat])

def addThreat (victim : UInt64) (threat : T) (schoolMask : UInt32)
    (threatSpell : Option (ThreatSpell T)) : Result T :=
  if w.isValidProcess victim threatSpell then
    doAddThreat w s victim (w.calcThreat victim threat schoolMask threatSpell)
  else (s, [])

def modifyThreatPercent (victim : UInt64) (percent : Int32) : Result T :=
  match s.getReferenceByTarget s.iThreatContainer victim with
  | some ref => HostileReference.addThreatPercent w s ref percent
  | none => (s, [])

def tauntApply (taunter : UInt64) : Result T :=
  match s.iCurrentVictim, s.getReferenceByTarget s.iThreatContainer taunter with
  | some victim, some ref =>
    -- Ok, temp threat is unused
    if s.threatOf ref < s.threatOf victim ∧ (s.refs ref).iTempThreatModifier == 0 then
      HostileReference.setTempThreat w s ref (s.threatOf victim)
    else (s, [])
  | _, _ => (s, [])

def tauntFadeOut (taunter : UInt64) : Result T :=
  match s.getReferenceByTarget s.iThreatContainer taunter with
  | some ref => HostileReference.resetTempThreat w s ref
  | none => (s, [])

def resetAllAggroFrom (next : ℕ) : Result T :=
  match s.iThreatContainer.iThreatList[next]? with
  | some ref =>
    let (s, calls) := HostileReference.setThreat w s ref 0
    (s, calls ++ [.resetAllAggro (next + 1)])
  | none => (s.setDirty true, [])

def resetAllAggro : Result T :=
  if s.iThreatContainer.iThreatList.isEmpty then (s, []) else (s, [.resetAllAggro 0])

def resetAggroFrom (predicate : UInt64 → Bool) (next : ℕ) : Result T :=
  match s.iThreatContainer.iThreatList[next]? with
  | some ref =>
    if predicate (s.refs ref).iUnitGuid then
      let (s, calls) := HostileReference.setThreat w s ref 0
      (s, calls ++ [.setDirty, .resetAggro predicate (next + 1)])
    else (s, [.resetAggro predicate (next + 1)])
  | none => (s, [])

def clearReferences : ThreatManager T :=
  { s with
    live := ∅
    iThreatContainer := { s.iThreatContainer with iThreatList := [] }
    iThreatOfflineContainer := { s.iThreatOfflineContainer with iThreatList := [] }
    iCurrentVictim := none }

/-- A second choice: attacked only when everyone in the list is one. -/
def secondChoice (ref : ℕ) : Bool :=
  let target := w.unit (s.refs ref).iUnitGuid
  target.isImmunedToDamage || target.hasNegativeAura

/-- What the loop of `selectNextVictim` makes of one reference: the victim it stops with. -/
def choice (current : Option ℕ) (ref : ℕ) : Option ℕ :=
  let target := w.unit (s.refs ref).iUnitGuid
  if target.canBeAttacked then
    match current with
    | some victim =>
      -- list sorted and and we check current target, then this is best case
      if victim = ref ∨ s.threatOf ref ≤ tenths 11 * s.threatOf victim then
        if victim ≠ ref ∧ (w.unit (s.refs victim).iUnitGuid).canBeAttacked then some victim
        else some ref
      -- 110% threat rule for targets in melee range, 130% rule in ranged distances
      else if tenths 13 * s.threatOf victim < s.threatOf ref ∨
          (tenths 11 * s.threatOf victim < s.threatOf ref ∧ target.isWithinMeleeRange) then
        some ref
      else none
    | none => some ref
  else none

/-- The loop of `selectNextVictim` that passes over second choices. When the last of the list is
one too, everyone is compared. -/
def selectPreferred (all : List ℕ) (current : Option ℕ) : List ℕ → Option ℕ
  | [] => none
  | ref :: rest =>
    if secondChoice w s ref then
      if rest.isEmpty then all.findSome? (choice w s current)
      -- current victim is a second choice target, so don't compare threat with it below
      else selectPreferred all (if current = some ref then none else current) rest
    else
      match choice w s current ref with
      | some chosen => some chosen
      | none => selectPreferred all current rest

def selectNextVictim (currentVictim : Option ℕ) : Option ℕ :=
  let list := s.iThreatContainer.iThreatList
  selectPreferred w s list currentVictim list

def getHostilTarget : ThreatManager T :=
  let s := s.update
  s.setCurrentVictim (selectNextVictim w s s.iCurrentVictim)

end ThreatManager

/-! ### Requests and runs -/

/-- What the world asks of a threat manager. A reference is named by its target, which keeps a
list of the references to it. -/
inductive Request (T : Type) where
  | addThreat (victim : UInt64) (threat : T) (schoolMask : UInt32)
      (threatSpell : Option (ThreatSpell T))
  | doAddThreat (victim : UInt64) (threat : T)
  | modifyThreatPercent (victim : UInt64) (percent : Int32)
  | addThreatPercent (ref : ℕ) (percent : Int32)
  | tauntApply (taunter : UInt64)
  | tauntFadeOut (taunter : UInt64)
  | updateOnlineStatus (ref : ℕ)
  | setOnlineOfflineState (ref : ℕ) (isOnline : Bool)
  | removeReference (ref : ℕ)
  | clearReferences
  | resetAllAggro
  | resetAggro (predicate : UInt64 → Bool)
  | getHostilTarget
  /-- `Spell::EffectTaunt` makes the taunter the victim, if the online container has it. -/
  | forceVictim (taunter : UInt64)

def Request.ref : Request T → Option ℕ
  | .addThreatPercent ref _ | .updateOnlineStatus ref | .setOnlineOfflineState ref _
  | .removeReference ref => some ref
  | _ => none

def Request.serve (w : World T) (s : ThreatManager T) : Request T → Result T
  | .addThreat victim threat schoolMask threatSpell =>
    s.addThreat w victim threat schoolMask threatSpell
  | .doAddThreat victim threat => s.doAddThreat w victim threat
  | .modifyThreatPercent victim percent => s.modifyThreatPercent w victim percent
  | .addThreatPercent ref percent => HostileReference.addThreatPercent w s ref percent
  | .tauntApply taunter => s.tauntApply w taunter
  | .tauntFadeOut taunter => s.tauntFadeOut w taunter
  | .updateOnlineStatus ref => (HostileReference.updateOnlineStatus w s ref, [])
  | .setOnlineOfflineState ref isOnline =>
    (HostileReference.setOnlineOfflineState s ref isOnline, [])
  | .removeReference ref => (HostileReference.removeReference s ref, [])
  | .clearReferences => (s.clearReferences, [])
  | .resetAllAggro => s.resetAllAggro
  | .resetAggro predicate => (s, [.resetAggro predicate 0])
  | .getHostilTarget => (s.getHostilTarget w, [])
  | .forceVictim taunter =>
    match s.getReferenceByTarget s.iThreatContainer taunter with
    | some forcedVictim => (s.setCurrentVictim (some forcedVictim), [])
    | none => (s, [])

def Call.make (w : World T) (s : ThreatManager T) : Call T → Result T
  | .addThreat victim threat => s.addThreat w victim threat 1 none
  | ._addThreat victim threat => s._addThreat w victim threat
  | .setOnlineOfflineState ref isOnline =>
    (HostileReference.setOnlineOfflineState s ref isOnline, [])
  | .clearTempThreatModifier ref =>
    (s.modifyRef ref fun r => { r with iTempThreatModifier := 0 }, [])
  | .setDirty => (s.setDirty true, [])
  | .resetAllAggro next => s.resetAllAggroFrom w next
  | .resetAggro predicate next => s.resetAggroFrom w predicate next

structure Machine (T : Type) where
  manager : ThreatManager T
  calls : List (Call T)
  world : World T

inductive Action (T : Type) where
  | serve (w : World T) (r : Request T)
  | advance

namespace Machine

def init (w : World T) : Machine T := ⟨.init, [], w⟩

/-- A request waits until the calls of the one before are made. -/
def step (m : Machine T) : Action T → Machine T
  | .serve w r =>
    if m.calls.isEmpty ∧ ∀ ref ∈ r.ref, ref ∈ m.manager.live then
      let (manager, calls) := r.serve w m.manager
      ⟨manager, calls, w⟩
    else m
  | .advance =>
    match m.calls with
    | [] => m
    | call :: rest =>
      let (manager, calls) := call.make m.world m.manager
      ⟨manager, calls ++ rest, m.world⟩

end Machine

/-- A player without pet or owner, whom the creature can reach and attack. -/
def soloPlayer (T : Type) : UnitInfo T where
  isPlayer := true
  isGameMaster := false
  isAlive := true
  isInMap := true
  inSamePhase := true
  inFlight := false
  isInAccessiblePlace := true
  isWithinCombatRange := true
  isWithinMeleeRange := true
  isImmunedToDamage := false
  hasNegativeAura := false
  canBeAttacked := true
  charmerOrOwner := none
  redirectThreatPercent := 0
  redirectThreatTarget := none
  threatModifier := none

def soloPlayers (T : Type) : World T := ⟨0, true, fun _ => soloPlayer T, fun _ => true⟩

end WorldServer.Combat
