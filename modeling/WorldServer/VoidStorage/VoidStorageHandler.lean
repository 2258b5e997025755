import WorldServer.Entities.Money
import WorldServer.Items.Storage
import Mathlib.Data.Fintype.BigOperators

/-!
# Void storage

A player stores single items away: of an item that is deposited an entry is kept, and the item is
destroyed. When it is withdrawn, a new item is created from the entry. One request deposits some
items, pays for them and withdraws others.
-/
namespace WorldServer.VoidStorage

open WorldServer.Items WorldServer.Entities

def VOID_STORAGE_STORE_ITEM : ℕ := 250000
def VOID_STORAGE_MAX_DEPOSIT : ℕ := 9
def VOID_STORAGE_MAX_WITHDRAW : ℕ := 9
def VOID_STORAGE_MAX_SLOT : ℕ := 80

inductive VoidTransferError where
  | noError
  | full
  | notEnoughMoney
  | inventoryFull
  deriving DecidableEq, Repr

/-- What is kept of an item. It does not say how many there were. -/
structure VoidStorageItem where
  ItemId : ℕ
  ItemEntry : ℕ
  deriving DecidableEq, Repr

structure State where
  inv : Inventory
  voidItems : Fin VOID_STORAGE_MAX_SLOT → Option VoidStorageItem := fun _ => none
  money : UInt64
  IsVoidStorageUnlocked : Bool := true
  nextItemId : ℕ

/-- A request: the items to deposit by their guids, and the entries to withdraw by their ids. -/
structure Packet where
  canInteract : Bool := true
  itemGuids : List ℕ
  itemIds : List ℕ

namespace State

variable (player : Player) (s : State)

def GetNextVoidStorageFreeSlot : Option (Fin VOID_STORAGE_MAX_SLOT) :=
  (List.finRange VOID_STORAGE_MAX_SLOT).find? fun i => (s.voidItems i).isNone

def GetNumOfVoidStorageFreeSlots : ℕ :=
  (List.finRange VOID_STORAGE_MAX_SLOT).countP fun i => (s.voidItems i).isNone

def setVoidItem (slot : Fin VOID_STORAGE_MAX_SLOT) (item : Option VoidStorageItem) : State :=
  { s with voidItems := Function.update s.voidItems slot item }

def GetVoidStorageItem (id : ℕ) : Option (Fin VOID_STORAGE_MAX_SLOT × VoidStorageItem) :=
  (List.finRange VOID_STORAGE_MAX_SLOT).findSome? fun i =>
    (s.voidItems i).bind fun item => if item.ItemId = id then some (i, item) else none

def freeBagSlots : ℕ :=
  (equippedBags.map fun slot =>
    match s.inv.GetBagByPos player slot with
    | none => 0
    | some bag => Inventory.GetBagSize player bag - (s.inv.bagItems player bag).length).sum +
  (slotsFrom INVENTORY_SLOT_ITEM_START INVENTORY_SLOT_ITEM_END).countP fun slot =>
    (s.inv.GetItemByPos player (INVENTORY_SLOT_BAG_0, slot)).isNone

end State

/-! ### The transfer -/

/-- A request under way: how many items have been deposited, and what has been answered. -/
structure Transfer extends State where
  depositCount : ℕ := 0
  answers : List VoidTransferError := []

namespace Transfer

variable (player : Player) (t : Transfer)

def AddVoidStorageItem (item : VoidStorageItem) : Transfer :=
  match t.GetNextVoidStorageFreeSlot with
  | none => { t with answers := t.answers ++ [.full] }
  | some slot => { t with toState := t.setVoidItem slot (some item) }

def deposit (guid : ℕ) : Transfer :=
  match t.inv.GetItemByGuid player guid with
  | none => t
  | some item =>
    let itemVS : VoidStorageItem := ⟨t.nextItemId, item.entry⟩
    let t := { t with nextItemId := t.nextItemId + 1 }.AddVoidStorageItem itemVS
    { t with
      depositCount := t.depositCount + 1
      inv := t.inv.DestroyItem player (t.inv.GetBagSlot player item, item.m_slot) }

def pay : Transfer :=
  let cost : Int64 := .ofNat (t.depositCount * VOID_STORAGE_STORE_ITEM)
  { t with money := (modifyMoney t.money (-cost)).1 }

/-- One of an item is withdrawn. An id that is of no entry is passed over, an item that cannot be
stored is not. -/
def withdraw (id : ℕ) : Option Transfer :=
  match t.GetVoidStorageItem id with
  | none => some t
  | some (slot, itemVS) =>
    match t.inv.CanStoreNewItem player (NULL_BAG, NULL_SLOT) [] itemVS.ItemEntry 1 with
    | (.ok, dest) =>
      let t := { t with inv := t.inv.StoreNewItem player dest itemVS.ItemEntry }
      some { t with toState := t.setVoidItem slot none }
    | _ => none

def withdrawAll (t : Transfer) : List ℕ → Transfer
  | [] => { t with answers := t.answers ++ [.noError] }
  | id :: itemIds =>
    match t.withdraw player id with
    | none => { t with answers := t.answers ++ [.inventoryFull] }
    | some t => t.withdrawAll itemIds

end Transfer

/-- Why a request is not begun: nothing is answered, or an error. -/
def refusal (player : Player) (s : State) (packet : Packet) : Option (List VoidTransferError) :=
  if VOID_STORAGE_MAX_DEPOSIT < packet.itemGuids.length then some []
  else if VOID_STORAGE_MAX_WITHDRAW < packet.itemIds.length then some []
  else if !packet.canInteract then some []
  else if !s.IsVoidStorageUnlocked then some []
  else if s.GetNumOfVoidStorageFreeSlots < packet.itemGuids.length then some [.full]
  else if s.freeBagSlots player < packet.itemIds.length then some [.inventoryFull]
  else if !hasEnoughMoney s.money (.ofNat (packet.itemGuids.length * VOID_STORAGE_STORE_ITEM)) then
    some [.notEnoughMoney]
  else none

def HandleVoidStorageTransfer (player : Player) (s : State) (packet : Packet) : Transfer :=
  match refusal player s packet with
  | some answers => { toState := s, answers := answers }
  | none =>
    let deposited := packet.itemGuids.foldl (Transfer.deposit player) { toState := s }
    deposited.pay.withdrawAll player packet.itemIds

end WorldServer.VoidStorage
