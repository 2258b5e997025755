import WorldServer.Lib.Table

/-!
# Items and where they are

A player has equipment, bags, a backpack, a bank and bank bags. A position is a bag number and a
slot number; the bag numbers of equipped bags and of bank bags are the slots these bags are in. An
item records its slot, and the bag that contains it.
-/
namespace WorldServer.Items

open WorldServer.Lib

/-! ### Slots -/

def NULL_BAG : ℕ := 0
def NULL_SLOT : ℕ := 255
def INVENTORY_SLOT_BAG_0 : ℕ := 255

def INVENTORY_SLOT_BAG_START : ℕ := 19
def INVENTORY_SLOT_BAG_END : ℕ := 23
def INVENTORY_SLOT_ITEM_START : ℕ := 23
def INVENTORY_SLOT_ITEM_END : ℕ := 39
def BANK_SLOT_ITEM_START : ℕ := 39
def BANK_SLOT_ITEM_END : ℕ := 67
def BANK_SLOT_BAG_START : ℕ := 67
def BANK_SLOT_BAG_END : ℕ := 74
def BUYBACK_SLOT_START : ℕ := 74
def BUYBACK_SLOT_END : ℕ := 86

abbrev Pos := ℕ × ℕ

def slotsFrom (first last : ℕ) : List ℕ := List.range' first (last - first)

def equippedBags : List ℕ := slotsFrom INVENTORY_SLOT_BAG_START INVENTORY_SLOT_BAG_END
def bankBags : List ℕ := slotsFrom BANK_SLOT_BAG_START BANK_SLOT_BAG_END

/-- A slot for a bag whose content has positions. -/
def IsBagSlot (slot : ℕ) : Prop :=
  (INVENTORY_SLOT_BAG_START ≤ slot ∧ slot < INVENTORY_SLOT_BAG_END) ∨
    (BANK_SLOT_BAG_START ≤ slot ∧ slot < BANK_SLOT_BAG_END)

instance (slot : ℕ) : Decidable (IsBagSlot slot) := inferInstanceAs (Decidable (_ ∨ _))

def IsBagPos (pos : Pos) : Bool := pos.1 = INVENTORY_SLOT_BAG_0 ∧ IsBagSlot pos.2

/-! ### Templates -/

/-- The kinds of equipment, as far as they have slots of their own. -/
inductive InventoryType where
  | nonEquip
  | head
  | neck
  | shoulders
  | body
  | chest
  | waist
  | legs
  | feet
  | wrists
  | hands
  | finger
  | trinket
  | weapon
  | shield
  | ranged
  | cloak
  | twoHandWeapon
  | bag
  | tabard
  | robe
  | weaponMainhand
  | weaponOffhand
  | holdable
  | ammo
  | thrown
  | rangedRight
  | quiver
  | relic
  deriving DecidableEq

def ITEM_CLASS_CONTAINER : ℕ := 1
def ITEM_CLASS_QUIVER : ℕ := 11
def ITEM_SUBCLASS_CONTAINER : ℕ := 0

structure ItemTemplate where
  Class : ℕ
  SubClass : ℕ
  InventoryType : InventoryType
  MaxCount : ℤ
  Stackable : ℤ
  ContainerSlots : ℕ
  BagFamily : UInt32
  ItemLimitCategory : ℕ
  GemProperties : Bool

namespace ItemTemplate

variable (proto : ItemTemplate)

def GetMaxStackSize : ℕ :=
  if proto.Stackable = 2147483647 ∨ proto.Stackable ≤ 0 then 0x7FFFFFFF - 1
  else proto.Stackable.toNat

lemma GetMaxStackSize_pos : 0 < proto.GetMaxStackSize := by
  unfold GetMaxStackSize
  split
  · decide
  · omega

def family (Class SubClass : ℕ) : Option UInt32 :=
  if Class = ITEM_CLASS_CONTAINER then
    match SubClass with
    | 1 => some 0x00000004
    | 2 => some 0x00000020
    | 3 => some 0x00000040
    | 4 => some 0x00000080
    | 5 => some 0x00000200
    | 6 => some 0x00000400
    | 7 => some 0x00000008
    | 8 => some 0x00000010
    | 9 => some 0x00008000
    | 10 => some 0x00010000
    | _ => none
  else if Class = ITEM_CLASS_QUIVER then
    match SubClass with
    | 2 => some 0x00000001
    | 3 => some 0x00000002
    | _ => none
  else none

def plainBag : Bool :=
  proto.Class = ITEM_CLASS_CONTAINER ∧ proto.SubClass = ITEM_SUBCLASS_CONTAINER

end ItemTemplate

def ItemCanGoIntoBag (proto bagProto : ItemTemplate) : Bool :=
  if bagProto.plainBag then true
  else
    match ItemTemplate.family bagProto.Class bagProto.SubClass with
    | some mask => proto.BagFamily &&& mask ≠ 0
    | none => false

/-! ### Items -/

/-- Where an item object can be kept: by the player, or in a bag that goes by its guid. -/
inductive Place where
  | slot (slot : ℕ)
  | inBag (bag slot : ℕ)
  deriving DecidableEq

structure Item where
  guid : ℕ
  entry : ℕ
  count : ℕ
  m_slot : ℕ
  m_container : Option ℕ
  m_lootGenerated : Bool
  mb_in_trade : Bool
  deriving DecidableEq

def Item.place (item : Item) : Place :=
  match item.m_container with
  | none => .slot item.m_slot
  | some bag => .inBag bag item.m_slot

def Item.putAt (item : Item) : Place → Item
  | .slot slot => { item with m_slot := slot, m_container := none }
  | .inBag bag slot => { item with m_slot := slot, m_container := some bag }

section

variable (item : Item) (place : Place)

@[simp] lemma Item.putAt_place : (item.putAt place).place = place := by
  cases place <;> rfl

@[simp] lemma Item.putAt_guid : (item.putAt place).guid = item.guid := by cases place <;> rfl

@[simp] lemma Item.putAt_entry : (item.putAt place).entry = item.entry := by cases place <;> rfl

@[simp] lemma Item.putAt_count : (item.putAt place).count = item.count := by cases place <;> rfl

end

/-- `EQUIP_ERR_OK` and the errors that are sent to the player. -/
inductive InventoryResult where
  | ok
  | wrongSlot
  | bagInBag
  | twoHandedEquipped
  | twoHandSkillNotFound
  | wrongBagType
  | itemMaxCount
  | cantStack
  | notEquippable
  | cantSwap
  | itemNotFound
  | tooFewToSplit
  | splitFailed
  | playerDead
  | clientLockedOut
  | destroyNonemptyBag
  | notOwner
  | onlyOneQuiver
  | onlyOneAmmo
  | noBankSlot
  | lootGone
  | invFull
  | bankFull
  | noSlotAvailable
  | limitCategoryExceeded
  /-- Any other reason why something cannot be equipped, unequipped or used. -/
  | other (code : ℕ)
  deriving DecidableEq

structure ItemLimitCategory where
  /-- `ITEM_LIMIT_CATEGORY_MODE_HAVE`. -/
  modeHave : Bool
  maxCount : ℕ

structure Inventory where
  items : Table Place Item
  mailed : List Item
  loose : List Item
  nextGuid : ℕ

def MAX_BAG_SIZE : ℕ := 36

/-- What checks read besides the items. -/
structure Player where
  GetItemTemplate : ℕ → ItemTemplate
  /-- A larger bag cannot be created. -/
  bagSizes : ∀ entry, (GetItemTemplate entry).ContainerSlots ≤ MAX_BAG_SIZE
  limitCategory : ℕ → Option ItemLimitCategory
  GetGemCountWithID : Item → ℕ → ℕ
  IsBindedNotWith : Item → Bool
  CanDualWield : Bool
  CanTitanGrip : Bool
  wearsRelics : Bool
  GetBankBagSlotCount : ℕ
  IsAlive : Bool
  CanUseItem : Item → InventoryResult
  CanEquipUniqueItem : Inventory → Item → ℕ → InventoryResult
  canEquipNow : ItemTemplate → InventoryResult
  canUnequipNow : ItemTemplate → InventoryResult

namespace Inventory

variable (player : Player) (inv : Inventory)

def IsBag (item : Item) : Bool := (player.GetItemTemplate item.entry).InventoryType = .bag

def GetBagSize (item : Item) : ℕ := (player.GetItemTemplate item.entry).ContainerSlots

def GetBagByPos (bag : ℕ) : Option Item :=
  if IsBagSlot bag then (inv.items.lookup (.slot bag)).filter fun item => IsBag player item
  else none

def placeOf (pos : Pos) : Option Place :=
  if pos.1 = INVENTORY_SLOT_BAG_0 ∧ pos.2 < BANK_SLOT_BAG_END then some (.slot pos.2)
  else
    match inv.GetBagByPos player pos.1 with
    | none => none
    | some bag => if pos.2 < GetBagSize player bag then some (.inBag bag.guid pos.2) else none

def GetItemByPos (pos : Pos) : Option Item := (inv.placeOf player pos).bind inv.items.lookup

def itemsIn (slots : List ℕ) : List Item :=
  slots.filterMap fun slot => inv.items.lookup (.slot slot)

def bagItems (bag : Item) : List Item :=
  (List.range (GetBagSize player bag)).filterMap fun slot => inv.items.lookup (.inBag bag.guid slot)

def itemsInBags (slots : List ℕ) : List Item :=
  slots.flatMap fun slot => ((inv.GetBagByPos player slot).map (inv.bagItems player)).getD []

def IsNotEmptyBag (item : Item) : Bool := IsBag player item && !(inv.bagItems player item).isEmpty

def allItems : List Item :=
  inv.itemsIn (slotsFrom 0 INVENTORY_SLOT_ITEM_END) ++ inv.itemsInBags player equippedBags ++
    inv.itemsIn (slotsFrom BANK_SLOT_ITEM_START BANK_SLOT_BAG_END) ++
    inv.itemsInBags player bankBags

end Inventory

end WorldServer.Items
