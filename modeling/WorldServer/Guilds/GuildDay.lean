import WorldServer.Guilds.BankItems
import WorldServer.Guilds.RankRuns

/-!
# A day of the guild bank

A day starts with a reset of every member's counters and goes on with withdrawals
of gold and items and with rank changes, in any order. The log is kept beside the
guild: it says what was really taken, so that a limit can be stated about it and
not about the counters.
-/
namespace WorldServer.Guilds

open WorldServer.Lib WorldServer.Entities

/-! ### What a move takes -/

def MoveItemData.takenFrom (side other : MoveItemData) : List UInt8 :=
  match side with
  | .bank container _ => if side.sameTab other then [] else [container]
  | .player _ _ => []

namespace Guild

/-- The attempt that goes through, with the amount split off, if one does. -/
def moved (w : World) (g : Guild) (player : UInt64) (src dest : MoveItemData)
    (splitedAmount : UInt32) : Option (ItemRef × Option ItemRef × UInt32) :=
  match src.initItem g with
  | none => none
  | some srcItem =>
    match checkItem srcItem.item splitedAmount with
    | none => none
    | some splitedAmount =>
      if !dest.hasStoreRights g player src || !src.hasWithdrawRights g player dest then none
      else if splitedAmount ≠ 0 then
        match srcItem.item.cloneItem w splitedAmount with
        | none => none
        | some clone =>
          if (g.doItemsMove w player src dest ⟨clone, none⟩ none splitedAmount).2 then
            some (⟨clone, none⟩, none, splitedAmount)
          else none
      else if (g.doItemsMove w player src dest srcItem none 0).2 then some (srcItem, none, 0)
      else
        match dest.initItem g with
        | none => none
        | some destItem =>
          if !src.hasStoreRights g player dest || !dest.hasWithdrawRights g player src then none
          else if (g.doItemsMove w player src dest srcItem (some destItem) 0).2 then
            some (srcItem, some destItem, 0)
          else none

/-- The tabs a move takes a slot from: a swap takes from both sides. -/
def tabsTaken (w : World) (g : Guild) (player : UInt64) (src dest : MoveItemData)
    (splitedAmount : UInt32) : List UInt8 :=
  match g.moved w player src dest splitedAmount with
  | none => []
  | some (_, none, _) => src.takenFrom dest
  | some (_, some _, _) => src.takenFrom dest ++ dest.takenFrom src

def resetTimes (g : Guild) : Guild :=
  { g with
    members := Table.mapValues
      (fun m => { m with bankWithdraw := Vector.replicate (guildBankMaxTabs + 1) 0 }) g.members }

def isMaster (g : Guild) (player : UInt64) : Bool := (g.getMember player).any (·.isRank grGuildmaster)

/-- The daily gold of the member's rank, as the rank stores it. -/
def moneyPerDay (g : Guild) (m : Member) : ℕ :=
  ((g.getRankInfo m.rankId).map (·.bankMoneyPerDay.toNat)).getD 0

def slotsPerDay (g : Guild) (m : Member) (tabId : UInt8) : ℕ :=
  ((g.getRankInfo m.rankId).bind fun rank =>
    rank.bankTabRightsAndSlots[tabId.toNat]?.map (·.slots.toNat)).getD 0

/-- No rank's daily slots use the sign bit, unless they are unlimited. -/
def SlotLimits (g : Guild) : Prop :=
  ∀ rank ∈ g.ranks, ∀ r ∈ rank.bankTabRightsAndSlots,
    r.slots.toNat < 2 ^ 31 ∨ r.slots = guildWithdrawUnlimited

end Guild

/-! ### A guild's day -/

/-- What a member took; `asMaster` where the member was a guild master then. -/
inductive Withdrawal where
  | gold (lowguid : UInt32) (amount : ℕ)
  | slot (lowguid : UInt32) (tabId : UInt8) (asMaster : Bool)
deriving DecidableEq, Repr

namespace Withdrawal

def goldOf (lowguid : UInt32) : Withdrawal → ℕ
  | .gold k amount => if k = lowguid then amount else 0
  | .slot _ _ _ => 0

def slotOf (lowguid : UInt32) (tabId : UInt8) : Withdrawal → ℕ
  | .gold _ _ => 0
  | .slot k t _ => if k = lowguid ∧ t = tabId then 1 else 0

def rankedSlotOf (lowguid : UInt32) (tabId : UInt8) : Withdrawal → ℕ
  | .gold _ _ => 0
  | .slot k t asMaster => if k = lowguid ∧ t = tabId ∧ asMaster = false then 1 else 0

end Withdrawal

def goldTaken (log : List Withdrawal) (lowguid : UInt32) : ℕ := (log.map (·.goldOf lowguid)).sum

def slotsTaken (log : List Withdrawal) (lowguid : UInt32) (tabId : UInt8) : ℕ :=
  (log.map (·.slotOf lowguid tabId)).sum

/-- The slots a member took from a tab while not a guild master. -/
def rankedSlotsTaken (log : List Withdrawal) (lowguid : UInt32) (tabId : UInt8) : ℕ :=
  (log.map (·.rankedSlotOf lowguid tabId)).sum

def RankRequest.keepsMembers : RankRequest → Bool
  | .accept _ | .enlist _ | .leave _ | .remove _ _ | .delete _ | .disband _ => false
  | _ => true

inductive DayRequest where
  | money (r : MoneyRequest)
  | swapItems (player : UInt64) (tabId slotId destTabId destSlotId : UInt8) (splitedAmount : UInt32)
  | swapItemsWithInventory (player : UInt64) (toChar : Bool) (tabId slotId : UInt8)
      (item : Option Item) (canStoreItem : Item → Bool → Bool) (splitedAmount : UInt32)
  | rank (r : RankRequest) (keeps : r.keepsMembers = true)

def MoneyRequest.amount : MoneyRequest → UInt64
  | .deposit _ money _ => money
  | .withdraw _ money _ => money
  | .repair _ costs => costs.toUInt64
  | .cashFlow _ guildGold => guildGold.toUInt64

/-- The guild and the players' gold, and what was taken since the reset. -/
structure Day where
  treasury : Treasury
  log : List Withdrawal

namespace Day

def start (t : Treasury) : Day := { treasury := { t with guild := t.guild.resetTimes }, log := [] }

def sides (g : Guild) : DayRequest → Option (UInt64 × MoveItemData × MoveItemData × UInt32)
  | .swapItems player tabId slotId destTabId destSlotId splitedAmount =>
    if g.getPurchasedTabsSize ≤ tabId ∨ guildBankMaxSlots ≤ slotId.toNat ∨
        g.getPurchasedTabsSize ≤ destTabId ∨ guildBankMaxSlots ≤ destSlotId.toNat then none
    else if tabId = destTabId ∧ slotId = destSlotId then none
    else some (player, .bank tabId slotId, .bank destTabId destSlotId, splitedAmount)
  | .swapItemsWithInventory player toChar tabId slotId item canStoreItem splitedAmount =>
    if (guildBankMaxSlots ≤ slotId.toNat ∧ slotId ≠ nullSlot) ∨ g.getPurchasedTabsSize ≤ tabId then
      none
    else if toChar then some (player, .bank tabId slotId, .player item canStoreItem, splitedAmount)
    else some (player, .player item canStoreItem, .bank tabId slotId, splitedAmount)
  | _ => none

def withdrawals (w : World) (d : Day) (r : DayRequest) : List Withdrawal :=
  match r with
  | .money r =>
    if r.takes && (d.treasury.serve r).2 then
      [.gold (guidLopart r.player) (min r.amount maxMoneyAmount).toNat]
    else []
  | .rank _ _ => []
  | r => match sides d.treasury.guild r with
    | none => []
    | some (player, src, dest, splitedAmount) =>
      (d.treasury.guild.tabsTaken w player src dest splitedAmount).map fun tabId =>
        .slot (guidLopart player) tabId (d.treasury.guild.isMaster player)

def answer (w : World) (t : Treasury) : DayRequest → Treasury
  | .money r => (t.serve r).1
  | .swapItems player tabId slotId destTabId destSlotId splitedAmount =>
    { t with guild := t.guild.swapItems w player tabId slotId destTabId destSlotId splitedAmount }
  | .swapItemsWithInventory player toChar tabId slotId item canStoreItem splitedAmount =>
    { t with
      guild := t.guild.swapItemsWithInventory w player toChar tabId slotId item canStoreItem
        splitedAmount }
  | .rank r _ => { t with guild := (settle t.guild (t.guild.handle w r)).getD t.guild }

def serve (w : World) (d : Day) (r : DayRequest) : Day :=
  { treasury := answer w d.treasury r, log := d.withdrawals w r ++ d.log }

end Day

/-! ### A move is the attempt that goes through -/

section Moves

variable {w : World} {g : Guild} {player : UInt64} {src dest : MoveItemData} {srcItem : ItemRef}
  {destItem : Option ItemRef} {n : UInt32}

lemma doItemsMove_false (refused : (g.doItemsMove w player src dest srcItem destItem n).2 = false) :
    (g.doItemsMove w player src dest srcItem destItem n).1 = g := by
  revert refused
  unfold Guild.doItemsMove
  split
  · exact fun _ => rfl
  · cases destItem with
    | none => exact fun served => absurd served Bool.noConfusion
    | some destItem =>
      dsimp only
      split
      · exact fun _ => rfl
      · exact fun served => absurd served Bool.noConfusion

private lemma attempt_eq (srcItem : ItemRef) (destItem : Option ItemRef) (n : UInt32) :
    (g.doItemsMove w player src dest srcItem destItem n).1 =
      match if (g.doItemsMove w player src dest srcItem destItem n).2 then
        some (srcItem, destItem, n) else none with
      | none => g
      | some (srcItem, destItem, n) => (g.doItemsMove w player src dest srcItem destItem n).1 := by
  cases served : (g.doItemsMove w player src dest srcItem destItem n).2 with
  | true => rfl
  | false => exact doItemsMove_false served

lemma moveItems_eq (splitedAmount : UInt32) :
    g.moveItems w player src dest splitedAmount =
      match g.moved w player src dest splitedAmount with
      | none => g
      | some (srcItem, destItem, n) =>
        (g.doItemsMove w player src dest srcItem destItem n).1 := by
  unfold Guild.moveItems Guild.moved
  cases src.initItem g with
  | none => rfl
  | some srcItem =>
    dsimp only
    cases Guild.checkItem srcItem.item splitedAmount with
    | none => rfl
    | some amount =>
      dsimp only
      split
      · rfl
      · split
        · cases srcItem.item.cloneItem w amount with
          | none => rfl
          | some clone => exact attempt_eq ⟨clone, none⟩ none amount
        · rcases outcome : g.doItemsMove w player src dest srcItem none 0 with ⟨g', served⟩
          cases served with
          | true => simp [outcome]
          | false =>
            cases dest.initItem g with
            | none => rfl
            | some destItem =>
              dsimp only
              split
              · rfl
              · exact attempt_eq srcItem (some destItem) 0

lemma moved_rights {splitedAmount : UInt32}
    (moves : g.moved w player src dest splitedAmount = some (srcItem, destItem, n)) :
    (g.doItemsMove w player src dest srcItem destItem n).2 = true ∧
      src.hasWithdrawRights g player dest = true ∧
      (destItem.isSome = true → dest.hasWithdrawRights g player src = true) := by
  unfold Guild.moved at moves
  split at moves
  · cases moves
  · split at moves
    · cases moves
    · split at moves
      · cases moves
      next rights =>
        simp only [Bool.or_eq_true, Bool.not_eq_true', not_or, Bool.not_eq_false] at rights
        split at moves
        · split at moves
          · cases moves
          · split at moves
            next served =>
              cases moves
              exact ⟨served, rights.2, by simp⟩
            · cases moves
        · split at moves
          next served =>
            cases moves
            exact ⟨served, rights.2, by simp⟩
          · split at moves
            · cases moves
            · split at moves
              · cases moves
              next both =>
                simp only [Bool.or_eq_true, Bool.not_eq_true', not_or, Bool.not_eq_false] at both
                split at moves
                next served =>
                  cases moves
                  exact ⟨served, rights.2, fun _ => both.2⟩
                · cases moves

lemma doItemsMove_true (served : (g.doItemsMove w player src dest srcItem destItem n).2 = true) :
    ∃ destVec srcVec, (g.doItemsMove w player src dest srcItem destItem n).1 =
      match destItem with
      | none => dest.storeItem w (src.removeItem g player dest n) srcItem.item destVec
      | some destItem => src.storeItem w (dest.storeItem w
          (dest.removeItem (src.removeItem g player dest n) player src 0) srcItem.item destVec)
          destItem.item srcVec := by
  revert served
  unfold Guild.doItemsMove
  split
  · exact fun refused => absurd refused Bool.false_ne_true
  next destVec _ =>
    cases destItem with
    | none => exact fun _ => ⟨destVec, [], rfl⟩
    | some destItem =>
      dsimp only
      split
      · exact fun refused => absurd refused Bool.false_ne_true
      next srcVec _ => exact fun _ => ⟨destVec, srcVec, rfl⟩

end Moves

end WorldServer.Guilds
