import WorldServer.Items.Reservations

/-!
# Storage

An item that is stored goes to the positions of a reservation: the last of them gets the item
itself, the others clones of it, and where there is a stack the stack grows. An item is destroyed at
its position, together with what is in it.
-/
namespace WorldServer.Items

open WorldServer.Lib

namespace Inventory

variable (player : Player) (inv : Inventory)

def put (place : Place) (item : Item) : Inventory :=
  { inv with items := inv.items.insert place (item.putAt place) }

def CloneItem (item : Item) (count : ℕ) : Inventory × Option Item :=
  if count < 1 then (inv, none)
  else
    ({ inv with nextGuid := inv.nextGuid + 1 },
      some { item with
        guid := inv.nextGuid
        count := min count (player.GetItemTemplate item.entry).GetMaxStackSize
        m_slot := 0
        m_container := none
        m_lootGenerated := false
        mb_in_trade := false })

/-- Where a new item is put: with the player, unless there is a bag. -/
def freePlace (pos : Pos) : Place :=
  match if pos.1 = INVENTORY_SLOT_BAG_0 then none else inv.GetBagByPos player pos.1 with
  | none => .slot pos.2
  | some pBag => .inBag pBag.guid pos.2

def putFree (pos : Pos) (item : Item) : Inventory :=
  match inv.freePlace player pos with
  | .slot slot => inv.put (.slot slot) item
  | .inBag bag slot =>
    if item.guid = bag then { inv with loose := item :: inv.loose }
    else inv.put (.inBag bag slot) item

def addCount (pos : Pos) (item : Item) (count : ℕ) : Inventory :=
  match inv.placeOf player pos with
  | none => inv
  | some place =>
    { inv with items := inv.items.insert place { item with count := item.count + count } }

/-- An item that is added to a stack is deleted, unless it was a clone that was needed. -/
def storeItem (pos : Pos) (pItem : Item) (count : ℕ) (clone : Bool) : Inventory :=
  match inv.GetItemByPos player pos with
  | some pItem2 => inv.addCount player pos pItem2 count
  | none =>
    if clone then
      match inv.CloneItem player pItem count with
      | (inv, none) => inv
      | (inv, some item) => inv.putFree player pos item
    else inv.putFree player pos { pItem with count }

def StoreItem (inv : Inventory) : List (Pos × ℕ) → Item → Inventory
  | [], pItem => { inv with loose := pItem :: inv.loose }
  | [(pos, count)], pItem => inv.storeItem player pos pItem count false
  | (pos, count) :: dest, pItem => (inv.storeItem player pos pItem count true).StoreItem dest pItem

def RemoveItem (pos : Pos) : Inventory :=
  match inv.placeOf player pos with
  | none => inv
  | some place => { inv with items := inv.items.erase place }

def CreateItem (entry count : ℕ) : Inventory × Option Item :=
  if count < 1 then (inv, none)
  else
    ({ inv with nextGuid := inv.nextGuid + 1 },
      some {
        guid := inv.nextGuid
        entry := entry
        count := min count (player.GetItemTemplate entry).GetMaxStackSize
        m_slot := 0
        m_container := none
        m_lootGenerated := false
        mb_in_trade := false })

def StoreNewItem (dest : List (Pos × ℕ)) (entry : ℕ) : Inventory :=
  match inv.CreateItem player entry ((dest.map Prod.snd).sum % 2 ^ 32) with
  | (inv, none) => inv
  | (inv, some pItem) => inv.StoreItem player dest pItem

def GetItemByGuid (guid : ℕ) : Option Item :=
  (inv.itemsIn (slotsFrom 0 INVENTORY_SLOT_ITEM_END) ++
    inv.itemsIn (slotsFrom BANK_SLOT_ITEM_START BANK_SLOT_BAG_END) ++
    inv.itemsInBags player equippedBags ++
    inv.itemsInBags player bankBags).find? fun item => item.guid = guid

def GetBagSlot (item : Item) : ℕ :=
  match item.m_container with
  | none => INVENTORY_SLOT_BAG_0
  | some bag =>
    ((equippedBags ++ bankBags).find? fun slot =>
      (inv.GetBagByPos player slot).any fun pBag => pBag.guid = bag).getD NULL_BAG

def DestroyItem (pos : Pos) : Inventory :=
  match inv.GetItemByPos player pos with
  | none => inv
  | some pItem =>
    let emptied :=
      if inv.IsNotEmptyBag player pItem then
        (List.range MAX_BAG_SIZE).foldl (fun inv slot => inv.RemoveItem player (pos.2, slot)) inv
      else inv
    emptied.RemoveItem player pos

end Inventory

end WorldServer.Items
