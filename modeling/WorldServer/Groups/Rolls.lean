import WorldServer.Groups.State
import WorldServer.Lib.Table

/-!
# Rolling for loot

A roll keeps the votes of the players who may loot the item and counts them on the side. It
knows its loot by a link, which is cut when the loot is cleared. Who is online, what fits into
whose bags and the numbers that are rolled come from outside.
-/
namespace WorldServer.Groups

open Lib

inductive RollVote where
  | pass | need | greed | disenchant | notEmitedYet | notValid
deriving DecidableEq, Repr

def RollVote.isNeed (vote : RollVote) : Bool := vote = .need

def RollVote.isGreed (vote : RollVote) : Bool := vote = .greed || vote = .disenchant

/-! ### Loot -/

structure LootItem where
  itemid : UInt32
  freeforall : Bool := false
  followLootRules : Bool := false
  isBlocked : Bool := false
  isLooted : Bool := false
deriving DecidableEq, Repr

structure Loot where
  items : List LootItem := []
  questItems : List LootItem := []
  unlootedCount : UInt8 := 0
deriving DecidableEq, Repr

namespace Loot

/-- The slots go through the items and on through the quest items. -/
def item? (l : Loot) (slot : UInt8) : Option LootItem :=
  if l.items.length ≤ slot.toNat then l.questItems[slot.toNat - l.items.length]?
  else l.items[slot.toNat]?

def modifyItem (l : Loot) (slot : UInt8) (f : LootItem → LootItem) : Loot :=
  if l.items.length ≤ slot.toNat then
    { l with questItems := l.questItems.modify (slot.toNat - l.items.length) f }
  else { l with items := l.items.modify slot.toNat f }

def block (l : Loot) (slot : UInt8) : Loot :=
  l.modifyItem slot fun item => { item with isBlocked := true }

def unblock (l : Loot) (slot : UInt8) : Loot :=
  l.modifyItem slot fun item => { item with isBlocked := false }

def take (l : Loot) (slot : UInt8) : Loot :=
  { l.modifyItem slot fun item => { item with isLooted := true } with
    unlootedCount := l.unlootedCount - 1 }

end Loot

/-! ### Rolls -/

structure Roll where
  itemGUID : ℕ
  loot : Option ℕ
  itemSlot : UInt8 := 0
  playerVote : Table UInt64 RollVote := ∅
  totalPlayersRolling : UInt8 := 0
  totalNeed : UInt8 := 0
  totalGreed : UInt8 := 0
  totalPass : UInt8 := 0

namespace Roll

/-- A player who can roll, and passes at once if she passes on all loot. -/
def addPlayer (r : Roll) (guid : UInt64) (passOnGroupLoot : Bool) : Roll :=
  let r := { r with totalPlayersRolling := r.totalPlayersRolling + 1 }
  if passOnGroupLoot then
    { r with playerVote := r.playerVote.insert guid .pass, totalPass := r.totalPass + 1 }
  else { r with playerVote := r.playerVote.insert guid .notEmitedYet }

/-- The vote of a player, old or new, is replaced; another choice changes nothing. -/
def recordVote (r : Roll) (guid : UInt64) (choice : UInt8) : Roll :=
  if choice = 0 then
    { r with totalPass := r.totalPass + 1, playerVote := r.playerVote.insert guid .pass }
  else if choice = 1 then
    { r with totalNeed := r.totalNeed + 1, playerVote := r.playerVote.insert guid .need }
  else if choice = 2 then
    { r with totalGreed := r.totalGreed + 1, playerVote := r.playerVote.insert guid .greed }
  else if choice = 3 then
    { r with totalGreed := r.totalGreed + 1, playerVote := r.playerVote.insert guid .disenchant }
  else r

def leave (r : Roll) (guid : UInt64) (vote : RollVote) : Roll :=
  let r := match vote with
    | .greed => { r with totalGreed := r.totalGreed - 1 }
    | .disenchant => { r with totalGreed := r.totalGreed - 1 }
    | .need => { r with totalNeed := r.totalNeed - 1 }
    | .pass => { r with totalPass := r.totalPass - 1 }
    | _ => r
  let r := if vote ≠ .notValid then { r with totalPlayersRolling := r.totalPlayersRolling - 1 }
    else r
  { r with playerVote := r.playerVote.erase guid }

def allVoted (r : Roll) : Bool :=
  r.totalPlayersRolling.toNat ≤ r.totalPass.toNat + r.totalNeed.toNat + r.totalGreed.toNat

def votes (r : Roll) : List (Sigma fun _ : UInt64 => RollVote) :=
  r.playerVote.entries.insertionSort fun a b => a.1 ≤ b.1

def numbers (r : Roll) (counts : RollVote → Bool) (urand : ℕ → Fin 100) :
    List (UInt64 × RollVote × ℕ) :=
  (r.votes.filter fun entry => counts entry.2).zipIdx.map fun entry =>
    (entry.1.1, entry.1.2, urand entry.2 + 1)

/-- A higher number takes over; `first` is there before any number. -/
def highest (first : UInt64 × RollVote × ℕ) (numbers : List (UInt64 × RollVote × ℕ)) :
    UInt64 × RollVote × ℕ :=
  numbers.foldl (fun best entry => if best.2.2 < entry.2.2 then entry else best) first

end Roll

/-- What counting a roll comes to. -/
inductive Outcome where
  | invalid
  | empty
  | won (winner : UInt64) (vote : RollVote) (number : ℕ)
  | allPassed
deriving DecidableEq, Repr

/-- What comes from outside. -/
structure Players where
  online : UInt64 → Bool
  canStore : UInt64 → ℕ → Bool
  /-- The numbers of each roll, one less than `urand(1, 100)`. -/
  urand : ℕ → ℕ → Fin 100

namespace Roll

/-- Needs beat greeds. The winner starts as the first voter with the number zero. -/
def outcome (p : Players) (r : Roll) : Outcome :=
  if r.loot = none then .invalid
  else if r.totalNeed > 0 then
    match r.votes with
    | [] => .empty
    | first :: _ =>
      let best := highest (first.1, .need, 0) (r.numbers RollVote.isNeed (p.urand r.itemGUID))
      .won best.1 best.2.1 best.2.2
  else if r.totalGreed > 0 then
    match r.votes with
    | [] => .empty
    | first :: _ =>
      let best := highest (first.1, .notValid, 0)
        (r.numbers RollVote.isGreed (p.urand r.itemGUID))
      .won best.1 best.2.1 best.2.2
  else .allPassed

end Roll

/-- What becomes of the item. -/
inductive Handling where
  | untouched
  | unblocked
  | given (winner : UInt64)
deriving DecidableEq, Repr

def Outcome.handling (p : Players) (itemGUID : ℕ) : Outcome → Handling
  | .invalid => .untouched
  | .empty => .untouched
  | .won winner vote _ =>
    if p.online winner then
      match vote with
      | .disenchant => .given winner
      | .notValid => .untouched
      | _ => if p.canStore winner itemGUID then .given winner else .unblocked
    else .untouched
  | .allPassed => .unblocked

def Loot.handle (l : Loot) (slot : UInt8) : Handling → Loot
  | .untouched => l
  | .unblocked => l.unblock slot
  | .given _ => l.take slot

/-! ### The rolls of a group -/

structure World where
  group : Option Group
  rollId : List Roll
  loots : ℕ → Loot
  nextItem : ℕ
  given : List (ℕ × UInt64) := []

namespace World

def countTheRoll (p : Players) (w : World) (i : ℕ) : World :=
  match w.rollId[i]? with
  | none => w
  | some roll =>
    let handling := (roll.outcome p).handling p roll.itemGUID
    { w with
      rollId := w.rollId.eraseIdx i
      loots := match roll.loot with
        | none => w.loots
        | some l => Function.update w.loots l ((w.loots l).handle roll.itemSlot handling)
      given := match handling with
        | .given winner => (roll.itemGUID, winner) :: w.given
        | _ => w.given }

def getRoll (w : World) (guid : ℕ) : Option ℕ :=
  w.rollId.findIdx? fun roll => roll.itemGUID = guid && roll.loot.isSome

def countRollVote (p : Players) (w : World) (playerGUID : UInt64) (guid : ℕ) (choice : UInt8) :
    World :=
  match w.getRoll guid with
  | none => w
  | some i =>
    match w.rollId[i]? with
    | none => w
    | some roll =>
      if roll.playerVote.lookup playerGUID = none then w
      else if (roll.loot.map fun l => (w.loots l).items) = some [] then w
      else
        let roll := roll.recordVote playerGUID choice
        let w := { w with rollId := w.rollId.set i roll }
        if roll.allVoted then w.countTheRoll p i else w

def endRoll (p : Players) (l : ℕ) : ℕ → World → World
  | 0, w => w
  | rounds + 1, w =>
    match w.rollId.findIdx? fun roll => roll.loot = some l with
    | none => w
    | some i => endRoll p l rounds (w.countTheRoll p i)

def clearLoot (w : World) (l : ℕ) : World :=
  { w with
    loots := Function.update w.loots l {}
    rollId := w.rollId.map fun roll =>
      if roll.loot = some l then { roll with loot := none } else roll }

/-! ### Starting -/

/-- Who may roll for which slot, who passes on all loot, and the quality of the items. -/
structure Chances where
  near : UInt8 → UInt64 → Bool
  passOnGroupLoot : UInt64 → Bool
  quality : UInt32 → UInt32

def newRoll (c : Chances) (g : Group) (guid l : ℕ) (slot : UInt8) (quest : Bool) : Roll :=
  (g.memberMgr.filter (c.near slot)).foldl
    (fun r player => r.addPlayer player (!quest && c.passOnGroupLoot player))
    { itemGUID := guid, loot := some l, itemSlot := slot }

/-- A roll without players is dropped, but its guid has been generated. -/
def startRoll (w : World) (c : Chances) (g : Group) (l : ℕ) (slot : UInt8) (quest : Bool) :
    World :=
  let roll := newRoll c g w.nextItem l slot quest
  let w := { w with nextItem := w.nextItem + 1 }
  if roll.totalPlayersRolling > 0 then
    { w with
      rollId := w.rollId ++ [roll]
      loots := Function.update w.loots l ((w.loots l).block slot) }
  else w

def rollItems (c : Chances) (g : Group) (l : ℕ) : List LootItem → UInt8 → World → World
  | [], _, w => w
  | item :: rest, slot, w =>
    if !item.freeforall && g.lootThreshold ≤ c.quality item.itemid then
      rollItems c g l rest (slot + 1) (w.startRoll c g l slot false)
    else rollItems c g l rest (slot + 1) w

def rollQuestItems (c : Chances) (g : Group) (l : ℕ) : List LootItem → UInt8 → World → World
  | [], _, w => w
  | item :: rest, slot, w =>
    if item.followLootRules then
      rollQuestItems c g l rest (slot + 1) (w.startRoll c g l slot true)
    else rollQuestItems c g l rest (slot + 1) w

/-- The two loot methods that roll differ only in what they tell the players. -/
def startRolls (c : Chances) (l : ℕ) (w : World) : World :=
  match w.group with
  | none => w
  | some g =>
    rollQuestItems c g l (w.loots l).questItems (UInt8.ofNat (w.loots l).items.length)
      (rollItems c g l (w.loots l).items 0 w)

def groupLoot (c : Chances) (l : ℕ) (w : World) : World := startRolls c l w

def needBeforeGreed (c : Chances) (l : ℕ) (w : World) : World := startRolls c l w

/-! ### Leaving -/

def maxRollType : UInt8 := 4

/-- The player leaves the first `n` rolls, each of which is counted afterwards. -/
def removeFromRolls (p : Players) (w : World) (guid : UInt64) : ℕ → World
  | 0 => w
  | n + 1 =>
    let w := w.removeFromRolls p guid n
    match w.rollId[n]? with
    | none => w
    | some roll =>
      match roll.playerVote.lookup guid with
      | none => w
      | some vote =>
        { w with rollId := w.rollId.set n (roll.leave guid vote) }.countRollVote p guid
          roll.itemGUID maxRollType

def disband (w : World) : World := { w with group := none, rollId := [] }

def removeMember (p : Players) (alone : Bool) (guid : UInt64) (kick : Bool) (w : World) : World :=
  match w.group with
  | none => w
  | some g =>
    match g.removeMember p.online alone guid kick with
    | .refused => w
    | .left g disbanded =>
      let w := { w.removeFromRolls p guid w.rollId.length with group := some g }
      if disbanded then w.disband else w
    | .disbanded => w.disband

end World

end WorldServer.Groups
