import WorldServer.Items.Items

/-!
# Reservations

Before an item is stored, a check looks for positions that take its count: first a position that is
asked for, then the rest of its bag, then all bags; each time stacks before free slots, and special
bags before plain ones. The check answers with the positions and the counts reserved there.
-/
namespace WorldServer.Items

open WorldServer.Lib

/-- Positions with the counts for them, and the count that is left. -/
structure Reserve where
  dest : List (Pos × ℕ)
  count : ℕ

def Reserve.take (r : Reserve) (pos : Pos) (need_space : ℕ) : Reserve :=
  let need_space := min need_space r.count
  if pos ∈ r.dest.map Prod.fst then r
  else ⟨r.dest ++ [(pos, need_space)], r.count - need_space⟩

def Item.CanBeMergedPartlyWith (item : Item) (proto : ItemTemplate) (entry : ℕ) : InventoryResult :=
  if item.m_lootGenerated then .lootGone
  else if item.entry ≠ entry then .cantStack
  else if proto.GetMaxStackSize ≤ item.count then .cantStack
  else .ok

namespace Inventory

variable (player : Player) (inv : Inventory)

/-! ### Limits -/

def GetItemCount (entry : ℕ) (skipItem : Option Item) : ℕ :=
  let counts := ((inv.allItems player).filter fun item =>
    skipItem.all (item.guid ≠ ·.guid) ∧ item.entry = entry).map Item.count
  let socketed := inv.itemsIn (slotsFrom 0 INVENTORY_SLOT_ITEM_END) ++
    inv.itemsInBags player equippedBags ++
    inv.itemsIn (slotsFrom BANK_SLOT_ITEM_START BANK_SLOT_ITEM_END) ++
    inv.itemsInBags player bankBags
  let gems :=
    if skipItem.any fun item => (player.GetItemTemplate item.entry).GemProperties then
      (socketed.filter fun item => skipItem.all (item.guid ≠ ·.guid)).map
        fun item => player.GetGemCountWithID item entry
    else []
  (counts.sum + gems.sum) % 2 ^ 32

def GetItemCountWithLimitCategory (limitCategory : ℕ) (skipItem : Option Item) : ℕ :=
  (((inv.allItems player).filter fun item => skipItem.all (item.guid ≠ ·.guid) ∧
    (player.GetItemTemplate item.entry).ItemLimitCategory = limitCategory).map
      Item.count).sum % 2 ^ 32

def CanTakeMoreSimilarItems (entry count : ℕ) (pItem : Option Item) : InventoryResult × ℕ :=
  let proto := player.GetItemTemplate entry
  let curcount := inv.GetItemCount player entry pItem
  if pItem.any Item.m_lootGenerated then (.lootGone, 0)
  else if (proto.MaxCount ≤ 0 ∧ proto.ItemLimitCategory = 0) ∨ proto.MaxCount = 2147483647 then
    (.ok, 0)
  else if 0 < proto.MaxCount ∧ proto.MaxCount.toNat < (curcount + count) % 2 ^ 32 then
    (.itemMaxCount, (curcount + count) % 2 ^ 32 - proto.MaxCount.toNat)
  else if proto.ItemLimitCategory = 0 then (.ok, 0)
  else
    match player.limitCategory proto.ItemLimitCategory with
    | none => (.notEquippable, count)
    | some limitEntry =>
      let curcount := inv.GetItemCountWithLimitCategory player proto.ItemLimitCategory pItem
      if limitEntry.modeHave ∧ limitEntry.maxCount < (curcount + count) % 2 ^ 32 then
        (.limitCategoryExceeded, (curcount + count) % 2 ^ 32 - limitEntry.maxCount)
      else (.ok, 0)

/-! ### Searches -/

section Searches

variable (proto : ItemTemplate) (entry : ℕ) (pSrcItem : Option Item)

def movesNotEmptyBag : Bool := pSrcItem.any (inv.IsNotEmptyBag player)

def otherAt (pos : Pos) : Option Item :=
  (inv.GetItemByPos player pos).filter fun item => pSrcItem.all (item.guid ≠ ·.guid)

def CanStoreItem_InSpecificSlot (pos : Pos) (swap : Bool) (r : Reserve) :
    Except InventoryResult Reserve :=
  if inv.movesNotEmptyBag player pSrcItem ∧ ¬ IsBagPos pos then .error .destroyNonemptyBag
  else
    match if swap then none else inv.otherAt player pSrcItem pos with
    | some pItem2 =>
      match pItem2.CanBeMergedPartlyWith proto entry with
      | .ok => .ok (r.take pos (proto.GetMaxStackSize - pItem2.count))
      | res => .error res
    | none =>
      if pos.1 = INVENTORY_SLOT_BAG_0 then
        -- prevent cheating
        if BUYBACK_SLOT_START ≤ pos.2 then .error .wrongBagType
        else .ok (r.take pos proto.GetMaxStackSize)
      else
        match inv.GetBagByPos player pos.1 with
        | none => .error .wrongBagType
        | some pBag =>
          if GetBagSize player pBag ≤ pos.2 then .error .wrongBagType
          else if !ItemCanGoIntoBag proto (player.GetItemTemplate pBag.entry) then
            .error .wrongBagType
          else .ok (r.take pos proto.GetMaxStackSize)

/-- A search for stacks takes stacks only, and a search for free slots free slots. -/
def searchPos (merge : Bool) (pos : Pos) (r : Reserve) : Reserve :=
  match inv.otherAt player pSrcItem pos with
  | none => if merge then r else r.take pos proto.GetMaxStackSize
  | some pItem2 =>
    if merge ∧ pItem2.CanBeMergedPartlyWith proto entry = .ok then
      r.take pos (proto.GetMaxStackSize - pItem2.count)
    else r

def searchAll (merge : Bool) (skip : Pos → Bool) : List Pos → Reserve → Reserve
  | [], r => r
  | pos :: rest, r =>
    if skip pos then searchAll merge skip rest r
    else
      let r' := inv.searchPos player proto entry pSrcItem merge pos r
      if r.dest.length < r'.dest.length ∧ r'.count = 0 then r' else searchAll merge skip rest r'

def CanStoreItem_InBag (bag : ℕ) (merge non_specialized : Bool) (skip_bag skip_slot : ℕ)
    (r : Reserve) : Except InventoryResult Reserve :=
  if bag = skip_bag then .error .wrongBagType
  else
    match inv.GetBagByPos player bag with
    | none => .error .wrongBagType
    | some pBag =>
      let pBagProto := player.GetItemTemplate pBag.entry
      if pSrcItem.any (pBag.guid = ·.guid) then .error .wrongBagType
      else if inv.movesNotEmptyBag player pSrcItem then .error .destroyNonemptyBag
      else if non_specialized ≠ pBagProto.plainBag then .error .wrongBagType
      else if !ItemCanGoIntoBag proto pBagProto then .error .wrongBagType
      else
        .ok (inv.searchAll player proto entry pSrcItem merge (fun pos => pos.2 = skip_slot)
          ((List.range (GetBagSize player pBag)).map fun slot => (bag, slot)) r)

def CanStoreItem_InInventorySlots (slots : List ℕ) (merge : Bool) (skip_bag skip_slot : ℕ)
    (r : Reserve) : Except InventoryResult Reserve :=
  if inv.movesNotEmptyBag player pSrcItem then .error .destroyNonemptyBag
  else
    .ok (inv.searchAll player proto entry pSrcItem merge
      (fun pos => INVENTORY_SLOT_BAG_0 = skip_bag ∧ pos.2 = skip_slot)
      (slots.map fun slot => (INVENTORY_SLOT_BAG_0, slot)) r)

def CanStoreItem_InThisBag (bag : ℕ) (merge : Bool) (skip_slot : ℕ) (r : Reserve) :
    Except InventoryResult Reserve :=
  match inv.CanStoreItem_InBag player proto entry pSrcItem bag merge false NULL_BAG skip_slot r with
  | .ok r => .ok r
  | .error _ =>
    inv.CanStoreItem_InBag player proto entry pSrcItem bag merge true NULL_BAG skip_slot r

end Searches

end Inventory

/-- A part of a check: a search whose error ends the check, one whose error does not, or a
refusal. -/
inductive SearchStep where
  | must (search : Reserve → Except InventoryResult Reserve)
  | may (search : Reserve → Except InventoryResult Reserve)
  | refuse (refused : Bool) (res : InventoryResult)

/-- The check is over as soon as everything is reserved. Nobody may have more than a limit allows:
`no_similar_count` is what is too much. -/
def searchSteps (full : InventoryResult) (no_similar_count : ℕ) :
    List SearchStep → Reserve → InventoryResult × List (Pos × ℕ)
  | [], r => (full, r.dest)
  | step :: steps, r =>
    let found (r' : Reserve) :=
      if r'.count = 0 then (if no_similar_count = 0 then .ok else .itemMaxCount, r'.dest)
      else searchSteps full no_similar_count steps r'
    match step with
    | .must search =>
      match search r with
      | .error res => (res, r.dest)
      | .ok r' => found r'
    | .may search =>
      match search r with
      | .error _ => searchSteps full no_similar_count steps r
      | .ok r' => found r'
    | .refuse refused res =>
      if refused then (res, r.dest) else searchSteps full no_similar_count steps r

namespace Inventory

variable (player : Player) (inv : Inventory)

/-! ### The checks -/

section Checks

variable (proto : ItemTemplate) (entry : ℕ) (pItem : Option Item) (pos : Pos)

def stepsInBag (slots : List ℕ) : List SearchStep :=
  let search merge : Reserve → Except InventoryResult Reserve :=
    if pos.1 = INVENTORY_SLOT_BAG_0 then
      inv.CanStoreItem_InInventorySlots player proto entry pItem slots merge pos.1 pos.2
    else inv.CanStoreItem_InThisBag player proto entry pItem pos.1 merge pos.2
  (if proto.Stackable ≠ 1 then [.must (search true)] else []) ++ [.must (search false)]

/-- The searches for stacks in all bags, and for free slots in special bags. -/
def stepsInBags (slots bags : List ℕ) : List SearchStep :=
  let inBags merge non_specialized := bags.map fun bag =>
    SearchStep.may
      (inv.CanStoreItem_InBag player proto entry pItem bag merge non_specialized pos.1 pos.2)
  (if proto.Stackable ≠ 1 then
    .must (inv.CanStoreItem_InInventorySlots player proto entry pItem slots true pos.1 pos.2) ::
      (if proto.BagFamily ≠ 0 then inBags true false else []) ++ inBags true true
  else []) ++
  (if proto.BagFamily ≠ 0 then inBags false false else [])

def stepsFree (slots bags : List ℕ) : List SearchStep :=
  .must (inv.CanStoreItem_InInventorySlots player proto entry pItem slots false pos.1 pos.2) ::
    bags.map fun bag =>
      .may (inv.CanStoreItem_InBag player proto entry pItem bag false true pos.1 pos.2)

end Checks

/-- A check for so many of an item, which is new if there is no item that moves. The positions that
are reserved already come first, also if the check fails. -/
def canStore (pos : Pos) (dest : List (Pos × ℕ)) (entry count : ℕ) (pItem : Option Item)
    (swap : Bool) : InventoryResult × List (Pos × ℕ) :=
  let proto := player.GetItemTemplate entry
  if pItem.any Item.m_lootGenerated then (.lootGone, dest)
  else if pItem.any player.IsBindedNotWith then (.notOwner, dest)
  else
    let (res, no_similar_count) := inv.CanTakeMoreSimilarItems player entry count pItem
    if res ≠ .ok ∧ count = no_similar_count then (res, dest)
    else
      let count := (count + 2 ^ 32 - no_similar_count) % 2 ^ 32
      let slots := slotsFrom INVENTORY_SLOT_ITEM_START INVENTORY_SLOT_ITEM_END
      let steps :=
        (if pos.1 ≠ NULL_BAG ∧ pos.2 ≠ NULL_SLOT then
          [.must (inv.CanStoreItem_InSpecificSlot player proto entry pItem pos swap)] else []) ++
        (if pos.1 ≠ NULL_BAG then inv.stepsInBag player proto entry pItem pos slots else []) ++
        inv.stepsInBags player proto entry pItem pos slots equippedBags ++
        .refuse (inv.movesNotEmptyBag player pItem) .bagInBag ::
          inv.stepsFree player proto entry pItem pos slots equippedBags
      searchSteps .invFull no_similar_count steps ⟨dest, count⟩

def CanStoreItem (pos : Pos) (dest : List (Pos × ℕ)) (pItem : Item) (swap : Bool) :
    InventoryResult × List (Pos × ℕ) :=
  inv.canStore player pos dest pItem.entry pItem.count (some pItem) swap

def CanStoreNewItem (pos : Pos) (dest : List (Pos × ℕ)) (entry count : ℕ) :
    InventoryResult × List (Pos × ℕ) :=
  inv.canStore player pos dest entry count none false

end Inventory

end WorldServer.Items
