import WorldServer.Guilds.BankMoney

/-!
# Moving items in the guild bank

A move has two sides, a bank slot or the player's inventory. It asks the
destination for room, with a reservation for every slot the stack will use, removes
the stack and stores it again over the reserved slots. Two bank items are told
apart by the slots that hold them.
-/
namespace WorldServer.Guilds

open WorldServer.Lib

/-! ### Slots -/

namespace Bank

def getItem (tabs : List BankTab) (tabId slotId : UInt8) : Option Item :=
  (tabs[tabId.toNat]?.bind fun tab => tab[slotId.toNat]?).join

def setItem (tabs : List BankTab) (tabId slotId : UInt8) (item : Option Item) : List BankTab :=
  tabs.modify tabId.toNat fun tab => tab.setIfInBounds slotId.toNat item

end Bank

/-- A pointer to an item: the object, and the bank slot it lies in if it does. -/
structure ItemRef where
  item : Item
  home : Option (UInt8 × UInt8)
deriving DecidableEq, Repr

structure ItemPosCount where
  pos : UInt8
  count : UInt32
deriving DecidableEq, Repr

inductive InventoryResult where
  | dropBoundItem | wrongBagType | cantStack | bankFull | inventoryRefuses
deriving DecidableEq, Repr

/-- One side of a move. The player's side is what the inventory answers: the item at
the position, if it may leave, and whether an item can be stored. -/
inductive MoveItemData where
  | bank (container slotId : UInt8)
  | player (item : Option Item) (canStoreItem : Item → Bool → Bool)

def Item.cloneItem (w : World) (item : Item) (count : UInt32) : Option Item :=
  if count < 1 then none
  else some { item with count := if w.maxStackSize item.entry < count then w.maxStackSize item.entry
    else count }

/-! ### Reservations -/

/-- What is reserved so far, and what is left to place. -/
structure Reservation where
  vec : List ItemPosCount
  count : UInt32

/-- `none` where the stack that lies in the slot cannot take any of the item. -/
def reserveSpace (w : World) (slotId : UInt8) (item : Item) (dest : Option Item) (r : Reservation) :
    Option Reservation :=
  let maxStack := w.maxStackSize item.entry
  let space := match dest with
    | none => some maxStack
    | some d => if d.entry ≠ item.entry ∨ maxStack ≤ d.count then none else some (maxStack - d.count)
  space.map fun space =>
    let required := if r.count < space then r.count else space
    if r.vec.any (·.pos == slotId) then r
    else ⟨r.vec ++ [⟨slotId, required⟩], r.count - required⟩

/-- The slot's content for a stack that is about to be moved: its own slot is free. -/
def seenItem (tabs : List BankTab) (container : UInt8) (ref : ItemRef) (slotId : UInt8) : Option Item :=
  if ref.home = some (container, slotId) then none else Bank.getItem tabs container slotId

def reserveInSlot (w : World) (tabs : List BankTab) (container : UInt8) (ref : ItemRef)
    (skipSlotId : UInt8) (merge : Bool) (r : Reservation) (slotId : UInt8) : Reservation :=
  if r.count = 0 ∨ slotId = skipSlotId then r
  else
    let dest := seenItem tabs container ref slotId
    -- when merging only stacks are used, otherwise only empty slots
    if dest.isSome ≠ merge then r else (reserveSpace w slotId ref.item dest r).getD r

def canStoreItemInTab (w : World) (tabs : List BankTab) (container : UInt8) (ref : ItemRef)
    (skipSlotId : UInt8) (merge : Bool) (r : Reservation) : Reservation :=
  (List.range guildBankMaxSlots).foldl
    (fun r slotId => reserveInSlot w tabs container ref skipSlotId merge r (UInt8.ofNat slotId)) r

def reserveNamedSlot (w : World) (tabs : List BankTab) (container slotId : UInt8) (ref : ItemRef)
    (swap : Bool) : Option Reservation :=
  let r : Reservation := ⟨[], ref.item.count⟩
  if slotId = nullSlot then some r
  else reserveSpace w slotId ref.item (if swap then none else seenItem tabs container ref slotId) r

def canStoreInBank (w : World) (tabs : List BankTab) (container slotId : UInt8) (ref : ItemRef)
    (swap : Bool) : Except InventoryResult (List ItemPosCount) :=
  if ref.item.soulBound then .error .dropBoundItem
  else if UInt8.ofNat tabs.length ≤ container then .error .wrongBagType
  else match reserveNamedSlot w tabs container slotId ref swap with
    | none => .error .cantStack
    | some r =>
      if r.count = 0 then .ok r.vec
      else
        let r := if 1 < w.maxStackSize ref.item.entry then
          canStoreItemInTab w tabs container ref slotId true r else r
        let r := canStoreItemInTab w tabs container ref slotId false r
        if r.count = 0 then .ok r.vec else .error .bankFull

/-! ### The two sides of a move -/

def storeOne (w : World) (tabs : List BankTab) (container : UInt8) (item : Item) (p : ItemPosCount)
    (clone : Bool) : List BankTab :=
  match Bank.getItem tabs container p.pos with
  | some dest => Bank.setItem tabs container p.pos (some { dest with count := dest.count + p.count })
  | none =>
    let stored := if clone then item.cloneItem w p.count else some { item with count := p.count }
    match stored with
    | some item => Bank.setItem tabs container p.pos (some item)
    | none => tabs

def storeInBank (w : World) (tabs : List BankTab) (container : UInt8) (item : Item) :
    List ItemPosCount → List BankTab
  | [] => tabs
  | p :: rest => storeInBank w (storeOne w tabs container item p (!rest.isEmpty)) container item rest

namespace MoveItemData

def initItem (g : Guild) : MoveItemData → Option ItemRef
  | .bank container slotId =>
    (Bank.getItem g.bankTabs container slotId).map fun item => ⟨item, some (container, slotId)⟩
  | .player item _ => item.map fun item => ⟨item, none⟩

def sameTab : MoveItemData → MoveItemData → Bool
  | .bank container _, .bank other _ => container == other
  | _, _ => false

def hasStoreRights (g : Guild) (player : UInt64) (side other : MoveItemData) : Bool :=
  match side with
  | .bank container _ =>
    side.sameTab other || g.memberHasTabRights player container guildBankRightDepositItem
  | .player _ _ => true

def hasWithdrawRights (g : Guild) (player : UInt64) (side other : MoveItemData) : Bool :=
  match side with
  | .bank container _ =>
    side.sameTab other ||
      ((g.getMember player).map (g.getMemberRemainingSlots · container)).getD 0 != 0
  | .player _ _ => true

def canStore (w : World) (g : Guild) (side : MoveItemData) (ref : ItemRef) (swap : Bool) :
    Except InventoryResult (List ItemPosCount) :=
  match side with
  | .bank container slotId => canStoreInBank w g.bankTabs container slotId ref swap
  | .player _ canStoreItem => if canStoreItem ref.item swap then .ok [] else .error .inventoryRefuses

def removeItem (g : Guild) (player : UInt64) (side other : MoveItemData) (splitedAmount : UInt32) :
    Guild :=
  match side with
  | .bank container slotId =>
    let left := if splitedAmount = 0 then none
      else (Bank.getItem g.bankTabs container slotId).map fun item =>
        { item with count := item.count - splitedAmount }
    let g := { g with bankTabs := Bank.setItem g.bankTabs container slotId left }
    -- a move within one tab is not a withdrawal
    if side.sameTab other then g else g.updateMemberWithdrawSlots player container
  | .player _ _ => g

def storeItem (w : World) (g : Guild) (side : MoveItemData) (item : Item) (vec : List ItemPosCount) :
    Guild :=
  match side with
  | .bank container _ => { g with bankTabs := storeInBank w g.bankTabs container item vec }
  | .player _ _ => g

end MoveItemData

namespace Guild

/-- One attempt to move; `false` where one side cannot store. -/
def doItemsMove (w : World) (g : Guild) (player : UInt64) (src dest : MoveItemData) (srcItem : ItemRef)
    (destItem : Option ItemRef) (splitedAmount : UInt32) : Guild × Bool :=
  match dest.canStore w g srcItem destItem.isSome with
  | .error _ => (g, false)
  | .ok destVec =>
    match destItem with
    | none =>
      let g := src.removeItem g player dest splitedAmount
      (dest.storeItem w g srcItem.item destVec, true)
    | some destItem =>
      match src.canStore w g destItem true with
      | .error _ => (g, false)
      | .ok srcVec =>
        let g := src.removeItem g player dest splitedAmount
        let g := dest.removeItem g player src 0
        let g := dest.storeItem w g srcItem.item destVec
        (src.storeItem w g destItem.item srcVec, true)

/-- A split of the whole stack is none, and a larger one is refused. -/
def checkItem (item : Item) (splitedAmount : UInt32) : Option UInt32 :=
  if item.count < splitedAmount then none
  else if splitedAmount = item.count then some 0
  else some splitedAmount

def moveItems (w : World) (g : Guild) (player : UInt64) (src dest : MoveItemData)
    (splitedAmount : UInt32) : Guild :=
  match src.initItem g with
  | none => g
  | some srcItem =>
    match checkItem srcItem.item splitedAmount with
    | none => g
    | some splitedAmount =>
      if !dest.hasStoreRights g player src || !src.hasWithdrawRights g player dest then g
      else if splitedAmount ≠ 0 then
        match srcItem.item.cloneItem w splitedAmount with
        | none => g
        | some clone => (g.doItemsMove w player src dest ⟨clone, none⟩ none splitedAmount).1
      else
        match g.doItemsMove w player src dest srcItem none 0 with
        | (g', true) => g'
        | (_, false) =>
          -- the stack cannot be merged, so the two are swapped
          match dest.initItem g with
          | none => g
          | some destItem =>
            if !src.hasStoreRights g player dest || !dest.hasWithdrawRights g player src then g
            else (g.doItemsMove w player src dest srcItem (some destItem) 0).1

def swapItems (w : World) (g : Guild) (player : UInt64) (tabId slotId destTabId destSlotId : UInt8)
    (splitedAmount : UInt32) : Guild :=
  if g.getPurchasedTabsSize ≤ tabId ∨ guildBankMaxSlots ≤ slotId.toNat ∨
      g.getPurchasedTabsSize ≤ destTabId ∨ guildBankMaxSlots ≤ destSlotId.toNat then g
  else if tabId = destTabId ∧ slotId = destSlotId then g
  else g.moveItems w player (.bank tabId slotId) (.bank destTabId destSlotId) splitedAmount

def swapItemsWithInventory (w : World) (g : Guild) (player : UInt64) (toChar : Bool)
    (tabId slotId : UInt8) (item : Option Item) (canStoreItem : Item → Bool → Bool)
    (splitedAmount : UInt32) : Guild :=
  if (guildBankMaxSlots ≤ slotId.toNat ∧ slotId ≠ nullSlot) ∨ g.getPurchasedTabsSize ≤ tabId then g
  else if toChar then
    g.moveItems w player (.bank tabId slotId) (.player item canStoreItem) splitedAmount
  else g.moveItems w player (.player item canStoreItem) (.bank tabId slotId) splitedAmount

end Guild

end WorldServer.Guilds
