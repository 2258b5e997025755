import WorldServer.Entities.Money
import WorldServer.Items.Counts

/-!
# Selling and buying back

A sold item goes into one of twelve slots, from which it can be bought back at the price it was sold
for. Part of a stack is sold as a clone. Prices are words of 32 bits, gold is one of 64.
-/
namespace WorldServer.Vendors

open WorldServer.Lib WorldServer.Entities WorldServer.Items

inductive SellResult where
  | cantFindItem
  | cantSellItem
  | cantFindVendor
  deriving DecidableEq, Repr

inductive TradeError where
  | sell (error : SellResult)
  | buyCantFindItem
  | buyNotEnoughMoney
  | equip (error : InventoryResult)
  deriving DecidableEq

/-- What the two requests read besides the customer. -/
structure Market where
  player : Items.Player
  /-- The field is a signed word. -/
  stackable : ∀ entry, (player.GetItemTemplate entry).Stackable < 2 ^ 31
  SellPrice : ℕ → UInt32
  isOwner : Item → Bool
  isRefundable : Item → Bool
  GetLootGUID : ℕ

structure Customer where
  inventory : Inventory
  money : UInt64
  buyback : ℕ → Option Item
  buybackPrice : ℕ → UInt32
  buybackTimestamp : ℕ → UInt32
  m_currentBuybackSlot : ℕ

def Market.price (m : Market) (entry count : ℕ) : UInt32 := m.SellPrice entry * UInt32.ofNat count

namespace Customer

variable (m : Market) (c : Customer)

/-! ### The buyback slots -/

def GetItemFromBuyBackSlot (slot : ℕ) : Option Item :=
  if BUYBACK_SLOT_START ≤ slot ∧ slot < BUYBACK_SLOT_END then c.buyback slot else none

def RemoveItemFromBuyBackSlot (slot : ℕ) : Customer :=
  if BUYBACK_SLOT_START ≤ slot ∧ slot < BUYBACK_SLOT_END then
    let c := { c with
      buyback := Function.update c.buyback slot none
      buybackPrice := Function.update c.buybackPrice slot 0
      buybackTimestamp := Function.update c.buybackTimestamp slot 0 }
    -- if current backslot is filled set to now free slot
    if (c.buyback c.m_currentBuybackSlot).isSome then { c with m_currentBuybackSlot := slot } else c
  else c

/-- The search ends at an empty slot, but the oldest one so far is taken. -/
def oldestSlot : List ℕ → UInt32 → ℕ → ℕ
  | [], _, oldest_slot => oldest_slot
  | i :: rest, oldest_time, oldest_slot =>
    if (c.buyback i).isNone then oldest_slot
    else if oldest_time > c.buybackTimestamp i then oldestSlot rest (c.buybackTimestamp i) i
    else oldestSlot rest oldest_time oldest_slot

def nextBuybackSlot : ℕ :=
  -- if current back slot non-empty search oldest or free
  if (c.buyback c.m_currentBuybackSlot).isSome then
    c.oldestSlot (slotsFrom (BUYBACK_SLOT_START + 1) BUYBACK_SLOT_END)
      (c.buybackTimestamp BUYBACK_SLOT_START) BUYBACK_SLOT_START
  else c.m_currentBuybackSlot

def AddItemToBuyBackSlot (pItem : Item) (etime : UInt32) : Customer :=
  let slot := c.nextBuybackSlot
  let c := c.RemoveItemFromBuyBackSlot slot
  let c := { c with
    buyback := Function.update c.buyback slot (some pItem)
    buybackPrice := Function.update c.buybackPrice slot (m.price pItem.entry pItem.count)
    buybackTimestamp := Function.update c.buybackTimestamp slot etime }
  -- move to next (for non filled list is move most optimized choice)
  if c.m_currentBuybackSlot < BUYBACK_SLOT_END - 1 then
    { c with m_currentBuybackSlot := c.m_currentBuybackSlot + 1 }
  else c

/-! ### Selling -/

/-- The checks of a sale, up to the item and the count that are sold. A refundable item gets no
answer. -/
def sellCheck (vendor : Bool) (itemGuid count : ℕ) : Except (Option SellResult) (Item × ℕ) :=
  if itemGuid = 0 then .error none
  else if !vendor then .error (some .cantFindVendor)
  else
    match c.inventory.GetItemByGuid m.player itemGuid with
    | none => .error (some .cantFindItem)
    | some pItem =>
      -- prevent sell not owner item
      if !m.isOwner pItem then .error (some .cantSellItem)
      -- prevent sell non empty bag by drag-and-drop at vendor's item list
      else if c.inventory.IsNotEmptyBag m.player pItem then .error (some .cantSellItem)
      -- prevent sell currently looted item
      else if m.GetLootGUID = pItem.guid then .error (some .cantSellItem)
      else if m.isRefundable pItem then .error none
      -- prevent sell more items that exist in stack (possible only not from client)
      else if pItem.count < count then .error (some .cantSellItem)
      else if m.SellPrice pItem.entry = 0 then .error (some .cantSellItem)
      -- special case at auto sell (sell all)
      else .ok (pItem, if count = 0 then pItem.count else count)

def moveToBuyBack (pItem : Item) (count : ℕ) (etime : UInt32) : Option Customer :=
  if count < pItem.count then                               -- need split items
    match c.inventory.CloneItem m.player pItem count with
    | (_, none) => none
    | (inv, some pNewItem) =>
      let rest := { pItem with count := pItem.count - count }
      some ({ c with
        inventory := { inv with items := inv.items.insert pItem.place rest }
        }.AddItemToBuyBackSlot m pNewItem etime)
  else
    some ({ c with
      inventory := c.inventory.RemoveItem m.player
        (c.inventory.GetBagSlot m.player pItem, pItem.m_slot)
      }.AddItemToBuyBackSlot m (pItem.putAt (.slot NULL_SLOT)) etime)

def HandleSellItemOpcode (vendor : Bool) (itemGuid count : ℕ) (etime : UInt32) :
    Customer × Option SellResult :=
  match c.sellCheck m vendor itemGuid count with
  | .error result => (c, result)
  | .ok (pItem, count) =>
    match c.moveToBuyBack m pItem count etime with
    | none => (c, some .cantSellItem)
    | some c =>
      let money := m.price pItem.entry count
      ({ c with money := (modifyMoney c.money (Int64.ofNat money.toNat)).1 }, none)

/-- The answer is `none` where the least signed word is negated, which C++ does not define. -/
def HandleBuybackItem (vendor : Bool) (slot : ℕ) : Option (Customer × Option TradeError) :=
  if !vendor then some (c, some (.sell .cantFindVendor))
  else
    match c.GetItemFromBuyBackSlot slot with
    | none => some (c, some .buyCantFindItem)
    | some pItem =>
      let price := c.buybackPrice slot
      if !hasEnoughMoney c.money price.toUInt64 then some (c, some .buyNotEnoughMoney)
      else
        match c.inventory.CanStoreItem m.player (NULL_BAG, NULL_SLOT) [] pItem false with
        | (.ok, dest) =>
          if price.toInt32 = Int32.minValue then none
          else
            let money := (modifyMoney c.money (-price.toInt32).toInt64).1
            let c := { c with money }.RemoveItemFromBuyBackSlot slot
            some ({ c with inventory := c.inventory.StoreItem m.player dest pItem }, none)
        | (msg, _) => some (c, some (.equip msg))

/-- The inventory is in order, and what can be bought back is in no other place. -/
structure Valid : Prop where
  placed : c.inventory.Placed m.player
  words : ∀ place item, c.inventory.items.lookup place = some item → item.count < 2 ^ 32
  apart : ∀ slot item, c.buyback slot = some item → ¬ c.inventory.Known item.guid
  fresh : ∀ slot item, c.buyback slot = some item → item.guid < c.inventory.nextGuid
  counts : ∀ slot item, c.buyback slot = some item → 0 < item.count ∧ item.count < 2 ^ 32
  distinct : ∀ slot slot' item item', c.buyback slot = some item → c.buyback slot' = some item' →
    item.guid = item'.guid → slot = slot'
  current : BUYBACK_SLOT_START ≤ c.m_currentBuybackSlot ∧ c.m_currentBuybackSlot < BUYBACK_SLOT_END
  money : c.money.toNat ≤ maxMoneyAmount.toNat

variable {m c}

/-! ### The slots -/

lemma RemoveItemFromBuyBackSlot_fields (slot : ℕ) :
    (c.RemoveItemFromBuyBackSlot slot).inventory = c.inventory ∧
    (c.RemoveItemFromBuyBackSlot slot).money = c.money := by
  simp only [RemoveItemFromBuyBackSlot]
  split_ifs <;> exact ⟨rfl, rfl⟩

lemma RemoveItemFromBuyBackSlot_buyback {slot : ℕ}
    (inRange : BUYBACK_SLOT_START ≤ slot ∧ slot < BUYBACK_SLOT_END) :
    (c.RemoveItemFromBuyBackSlot slot).buyback = Function.update c.buyback slot none := by
  simp only [RemoveItemFromBuyBackSlot, if_pos inRange]
  split_ifs <;> rfl

lemma RemoveItemFromBuyBackSlot_current {slot : ℕ}
    (current : BUYBACK_SLOT_START ≤ c.m_currentBuybackSlot ∧
      c.m_currentBuybackSlot < BUYBACK_SLOT_END) :
    BUYBACK_SLOT_START ≤ (c.RemoveItemFromBuyBackSlot slot).m_currentBuybackSlot ∧
      (c.RemoveItemFromBuyBackSlot slot).m_currentBuybackSlot < BUYBACK_SLOT_END := by
  simp only [RemoveItemFromBuyBackSlot]
  split_ifs with inRange filled
  · exact inRange
  · exact current
  · exact current

lemma oldestSlot_inRange {slots : List ℕ}
    (inRange : ∀ slot ∈ slots, BUYBACK_SLOT_START ≤ slot ∧ slot < BUYBACK_SLOT_END)
    {oldest_time : UInt32} {oldest_slot : ℕ}
    (oldest : BUYBACK_SLOT_START ≤ oldest_slot ∧ oldest_slot < BUYBACK_SLOT_END) :
    BUYBACK_SLOT_START ≤ c.oldestSlot slots oldest_time oldest_slot ∧
      c.oldestSlot slots oldest_time oldest_slot < BUYBACK_SLOT_END := by
  induction slots generalizing oldest_time oldest_slot with
  | nil => exact oldest
  | cons i rest ih =>
    have ih {oldest_time : UInt32} {oldest_slot : ℕ} :=
      @ih (fun slot member => inRange slot (List.mem_cons_of_mem _ member)) oldest_time oldest_slot
    rw [oldestSlot]
    split_ifs
    · exact oldest
    · exact ih (inRange i List.mem_cons_self)
    · exact ih oldest

lemma nextBuybackSlot_inRange
    (current : BUYBACK_SLOT_START ≤ c.m_currentBuybackSlot ∧
      c.m_currentBuybackSlot < BUYBACK_SLOT_END) :
    BUYBACK_SLOT_START ≤ c.nextBuybackSlot ∧ c.nextBuybackSlot < BUYBACK_SLOT_END := by
  rw [nextBuybackSlot]
  split_ifs
  · refine oldestSlot_inRange (fun slot member => ?_) ⟨le_rfl, by decide⟩
    have between := Inventory.mem_slotsFrom.mp member
    exact ⟨(Nat.le_succ _).trans between.1, between.2⟩
  · exact current

variable (m c) in
lemma AddItemToBuyBackSlot_fields (pItem : Item) (etime : UInt32) :
    (c.AddItemToBuyBackSlot m pItem etime).inventory = c.inventory ∧
    (c.AddItemToBuyBackSlot m pItem etime).money = c.money ∧
    (c.AddItemToBuyBackSlot m pItem etime).buybackPrice c.nextBuybackSlot =
      m.price pItem.entry pItem.count := by
  have removed := c.RemoveItemFromBuyBackSlot_fields c.nextBuybackSlot
  simp only [AddItemToBuyBackSlot]
  split_ifs
  · exact ⟨removed.1, removed.2, Function.update_self ..⟩
  · exact ⟨removed.1, removed.2, Function.update_self ..⟩

variable (m c) in
lemma AddItemToBuyBackSlot_buyback
    (current : BUYBACK_SLOT_START ≤ c.m_currentBuybackSlot ∧
      c.m_currentBuybackSlot < BUYBACK_SLOT_END) (pItem : Item) (etime : UInt32) :
    (c.AddItemToBuyBackSlot m pItem etime).buyback =
      Function.update c.buyback c.nextBuybackSlot (some pItem) := by
  have removed : (c.RemoveItemFromBuyBackSlot c.nextBuybackSlot).buyback =
      Function.update c.buyback c.nextBuybackSlot none :=
    RemoveItemFromBuyBackSlot_buyback (nextBuybackSlot_inRange current)
  simp only [AddItemToBuyBackSlot]
  rw [removed, Function.update_idem]
  split_ifs <;> rfl

variable (m c) in
lemma AddItemToBuyBackSlot_current
    (current : BUYBACK_SLOT_START ≤ c.m_currentBuybackSlot ∧
      c.m_currentBuybackSlot < BUYBACK_SLOT_END) (pItem : Item) (etime : UInt32) :
    BUYBACK_SLOT_START ≤ (c.AddItemToBuyBackSlot m pItem etime).m_currentBuybackSlot ∧
      (c.AddItemToBuyBackSlot m pItem etime).m_currentBuybackSlot < BUYBACK_SLOT_END := by
  have kept : BUYBACK_SLOT_START ≤
        (c.RemoveItemFromBuyBackSlot c.nextBuybackSlot).m_currentBuybackSlot ∧
      (c.RemoveItemFromBuyBackSlot c.nextBuybackSlot).m_currentBuybackSlot < BUYBACK_SLOT_END :=
    RemoveItemFromBuyBackSlot_current current
  simp only [AddItemToBuyBackSlot]
  split_ifs with more
  · dsimp only at more ⊢
    omega
  · exact kept

/-! ### One sale -/

lemma sellCheck_ok {vendor : Bool} {itemGuid count n : ℕ} {pItem : Item}
    (ok : c.sellCheck m vendor itemGuid count = .ok (pItem, n)) :
    c.inventory.GetItemByGuid m.player itemGuid = some pItem ∧
    c.inventory.IsNotEmptyBag m.player pItem = false ∧
    n = (if count = 0 then pItem.count else count) ∧ n ≤ pItem.count ∧
    m.SellPrice pItem.entry ≠ 0 := by
  rw [sellCheck] at ok
  split at ok
  next => cases ok
  split at ok
  next => cases ok
  split at ok
  next => cases ok
  next item found =>
    split_ifs at ok with notOwner notEmpty looted refundable tooMany unsellable all
    · obtain ⟨rfl, rfl⟩ := Prod.mk.inj (Except.ok.inj ok)
      exact ⟨found, by simpa using notEmpty, (if_pos all).symm, le_rfl, unsellable⟩
    · obtain ⟨rfl, rfl⟩ := Prod.mk.inj (Except.ok.inj ok)
      exact ⟨found, by simpa using notEmpty, (if_neg all).symm, Nat.not_lt.mp tooMany, unsellable⟩

structure Taken (inv inv' : Inventory) (pItem : Item) (n : ℕ) : Prop where
  stack : inv'.items.lookup pItem.place =
    if n = pItem.count then none else some { pItem with count := pItem.count - n }
  others : ∀ place, place ≠ pItem.place → inv'.items.lookup place = inv.items.lookup place
  total : ∀ entry, inv'.total entry + (if pItem.entry = entry then n else 0) = inv.total entry

lemma Valid.add (valid : c.Valid m) {inv : Inventory} (placed : inv.Placed m.player)
    (words : ∀ place item, inv.items.lookup place = some item → item.count < 2 ^ 32)
    (known : ∀ guid, inv.Known guid → c.inventory.Known guid)
    (later : c.inventory.nextGuid ≤ inv.nextGuid) {pItem : Item} (apart : ¬ inv.Known pItem.guid)
    (fresh : pItem.guid < inv.nextGuid) (counts : 0 < pItem.count ∧ pItem.count < 2 ^ 32)
    (others : ∀ slot item, c.buyback slot = some item → item.guid ≠ pItem.guid) (etime : UInt32) :
    ({ c with inventory := inv }.AddItemToBuyBackSlot m pItem etime).Valid m := by
  set before : Customer := { c with inventory := inv }
  obtain ⟨inventory, money, -⟩ := before.AddItemToBuyBackSlot_fields m pItem etime
  have buyback := before.AddItemToBuyBackSlot_buyback m valid.current pItem etime
  have cases {slot : ℕ} {item : Item}
      (here : (before.AddItemToBuyBackSlot m pItem etime).buyback slot = some item) :
      (slot = before.nextBuybackSlot ∧ item = pItem) ∨ c.buyback slot = some item := by
    rw [buyback] at here
    by_cases same : slot = before.nextBuybackSlot
    · subst same
      rw [Function.update_self, Option.some.injEq] at here
      exact .inl ⟨rfl, here.symm⟩
    · rw [Function.update_of_ne same] at here
      exact .inr here
  constructor
  · rw [inventory]
    exact placed
  · rw [inventory]
    exact words
  · intro slot item here
    rw [inventory]
    rcases cases here with ⟨-, rfl⟩ | old
    · exact apart
    · exact fun found => valid.apart slot item old (known _ found)
  · intro slot item here
    rw [inventory]
    rcases cases here with ⟨-, rfl⟩ | old
    · exact fresh
    · exact (valid.fresh slot item old).trans_le later
  · intro slot item here
    rcases cases here with ⟨-, rfl⟩ | old
    · exact counts
    · exact valid.counts slot item old
  · intro slot slot' item item' here here' same
    rcases cases here with ⟨rfl, rfl⟩ | old <;> rcases cases here' with ⟨rfl, rfl⟩ | old'
    · rfl
    · exact absurd same.symm (others slot' item' old')
    · exact absurd same (others slot item old)
    · exact valid.distinct slot slot' item item' old old' same
  · exact before.AddItemToBuyBackSlot_current m valid.current pItem etime
  · rw [money]
    exact valid.money

/-- An item is in the next slot, whole or as a clone of at most the largest stack. -/
structure Shelved (m : Market) (c c' : Customer) (pItem sold : Item) (n : ℕ) : Prop where
  money : c'.money = c.money
  buyback : c'.buyback = Function.update c.buyback c.nextBuybackSlot (some sold)
  entry : sold.entry = pItem.entry
  count : sold.count = if n < pItem.count then
    min n (m.player.GetItemTemplate pItem.entry).GetMaxStackSize else n
  price : c'.buybackPrice c.nextBuybackSlot = m.price pItem.entry sold.count
  taken : Taken c.inventory c'.inventory pItem n
  valid : c'.Valid m

lemma moveToBuyBack_spec (valid : c.Valid m) {itemGuid n : ℕ} {pItem : Item}
    (found : c.inventory.GetItemByGuid m.player itemGuid = some pItem)
    (empty : c.inventory.IsNotEmptyBag m.player pItem = false) (some : 0 < n)
    (few : n ≤ pItem.count) (etime : UInt32) :
    ∃ c' sold, c.moveToBuyBack m pItem n etime = Option.some c' ∧
      Shelved m c c' pItem sold n := by
  obtain ⟨place, here, inRange⟩ := Inventory.place_of_GetItemByGuid found
  obtain rfl := valid.placed.recorded place pItem here
  have word := valid.words _ _ here
  by_cases part : n < pItem.count
  · have enough : ¬ n < 1 := by omega
    let copy : Item := { pItem with
      guid := c.inventory.nextGuid
      count := min n (m.player.GetItemTemplate pItem.entry).GetMaxStackSize
      m_slot := 0
      m_container := none
      m_lootGenerated := false
      mb_in_trade := false }
    let rest : Item := { pItem with count := pItem.count - n }
    let inv : Inventory := { c.inventory with
      items := c.inventory.items.insert pItem.place rest
      nextGuid := c.inventory.nextGuid + 1 }
    let before : Customer := { c with inventory := inv }
    obtain ⟨inventory, money, price⟩ := before.AddItemToBuyBackSlot_fields m copy etime
    have moved : c.moveToBuyBack m pItem n etime =
        Option.some (before.AddItemToBuyBackSlot m copy etime) := by
      rw [moveToBuyBack, if_pos part, Inventory.CloneItem, if_neg enough]
    have known (guid : ℕ) (isKnown : inv.Known guid) : c.inventory.Known guid := by
      obtain ⟨place, item, there, rfl⟩ := isKnown
      rcases (Table.lookup_insert_iff ..).mp there with ⟨rfl, rfl⟩ | ⟨-, old⟩
      · exact ⟨_, pItem, here, rfl⟩
      · exact ⟨place, item, old, rfl⟩
    have taken : Taken c.inventory inv pItem n := by
      constructor
      · rw [if_neg part.ne]
        exact AList.lookup_insert _
      · exact fun place other => AList.lookup_insert_ne other
      · intro entry
        have changed := Table.total_insert_of_some
          (fun _ item => if item.entry = entry then item.count else 0) c.inventory.items
          pItem.place rest pItem here
        rw [Inventory.total, Inventory.total]
        dsimp only [inv, rest] at changed ⊢
        split at changed
        next same =>
          rw [if_pos same]
          omega
        next different =>
          rw [if_neg different]
          omega
    have placed : inv.Placed m.player :=
      (valid.placed.recount here (Nat.sub_pos_of_lt part)).later (Nat.le_succ _)
    have positive := (m.player.GetItemTemplate pItem.entry).GetMaxStackSize_pos
    refine ⟨_, copy, moved, money, before.AddItemToBuyBackSlot_buyback m valid.current copy etime,
      rfl, (if_pos part).symm, price, inventory ▸ taken, ?_⟩
    refine valid.add placed ?_ known (Nat.le_succ _) ?_ (Nat.lt_succ_self _) ?_ ?_ etime
    · intro place item there
      rcases (Table.lookup_insert_iff ..).mp there with ⟨rfl, rfl⟩ | ⟨-, old⟩
      · exact (Nat.sub_le _ _).trans_lt word
      · exact valid.words place item old
    · intro isKnown
      obtain ⟨place, item, there, same⟩ := known _ isKnown
      exact (valid.placed.fresh place item there).ne same
    · dsimp only [copy]
      omega
    · exact fun slot item there => (valid.fresh slot item there).ne
  · have whole : n = pItem.count := by omega
    let sold : Item := pItem.putAt (.slot NULL_SLOT)
    let inv : Inventory := { c.inventory with items := c.inventory.items.erase pItem.place }
    let before : Customer := { c with inventory := inv }
    obtain ⟨inventory, money, price⟩ := before.AddItemToBuyBackSlot_fields m sold etime
    have moved : c.moveToBuyBack m pItem n etime =
        Option.some (before.AddItemToBuyBackSlot m sold etime) := by
      rw [moveToBuyBack, if_neg part, Inventory.RemoveItem, valid.placed.placeOf_item here inRange]
    have known (guid : ℕ) (isKnown : inv.Known guid) :
        c.inventory.Known guid ∧ guid ≠ pItem.guid := by
      obtain ⟨place, item, there, rfl⟩ := isKnown
      obtain ⟨other, old⟩ := (Table.lookup_erase_iff ..).mp there
      exact ⟨⟨place, item, old, rfl⟩, fun same => other (valid.placed.distinct _ _ _ _ old here same)⟩
    have taken : Taken c.inventory inv pItem n := by
      constructor
      · rw [if_pos whole]
        exact AList.lookup_erase _ _
      · exact fun place other => AList.lookup_erase_ne other
      · intro entry
        rw [whole]
        exact Table.total_erase (fun _ item => if item.entry = entry then item.count else 0)
          c.inventory.items _ pItem here
    have placed : inv.Placed m.player :=
      valid.placed.erase here (valid.placed.empty_of_not here empty)
    have guid : sold.guid = pItem.guid := Item.putAt_guid ..
    have count : sold.count = n := (Item.putAt_count ..).trans whole.symm
    refine ⟨_, sold, moved, money, before.AddItemToBuyBackSlot_buyback m valid.current sold etime,
      Item.putAt_entry .., ?_, ?_, inventory ▸ taken, ?_⟩
    · rw [if_neg part]
      exact count
    · exact price
    refine valid.add placed ?_ (fun g isKnown => (known g isKnown).1) le_rfl ?_ ?_ ?_ ?_ etime
    · intro place item there
      exact valid.words place item ((Table.lookup_erase_iff ..).mp there).2
    · intro isKnown
      exact (known _ isKnown).2 guid
    · rw [guid]
      exact valid.placed.fresh _ _ here
    · omega
    · intro slot item there same
      exact valid.apart slot item there ⟨_, pItem, here, (same.trans guid).symm⟩

/-! ### The gold -/

/-- A price of 32 bits is paid in full or, where the sum reaches the cap, not at all. -/
lemma modifyMoney_price (money : UInt64) (price : UInt32) :
    (modifyMoney money (Int64.ofNat price.toNat)).1.toNat =
      if price = 0 ∨ money.toNat + price.toNat < maxMoneyAmount.toNat then
        money.toNat + price.toNat
      else money.toNat := by
  have small := price.toNat_lt
  have value : (Int64.ofNat price.toNat).toInt = price.toNat :=
    Int64.toInt_ofNat_of_lt (by omega)
  by_cases zero : price = 0
  · subst zero
    simp [modifyMoney]
  · have positive : 0 < price.toNat :=
      Nat.pos_of_ne_zero fun same => zero (UInt32.toNat_inj.mp same)
    obtain ⟨guard, paid, kept⟩ := modifyMoney_credit money (Int64.ofNat price.toNat) (by omega)
    have cast := toNat_toUInt64 (Int64.ofNat price.toNat)
    rw [UInt64.toNat_sub, maxMoneyAmount_toNat] at guard
    rw [maxMoneyAmount_toNat]
    cases result : (modifyMoney money (Int64.ofNat price.toNat)).2 with
    | true =>
      have fits := guard.mp result
      rw [if_pos (.inr (by omega)), paid result, UInt64.toNat_add]
      omega
    | false =>
      have full : ¬ (price = 0 ∨ money.toNat + price.toNat < 9999999999) := by
        rintro (same | fits)
        · exact zero same
        · have again := guard.mpr (by omega)
          rw [result] at again
          cases again
      rw [if_neg full, kept result]

lemma modifyMoney_neg_price {money : UInt64} {price : UInt32} (small : price.toNat < 2 ^ 31)
    (enough : price.toNat ≤ money.toNat) :
    (modifyMoney money (-price.toInt32).toInt64).1.toNat + price.toNat = money.toNat := by
  have value := toInt_toInt32 small
  have negated : (-price.toInt32).toInt64.toInt = -(price.toNat : ℤ) := by
    rw [Int32.toInt_toInt64, Int32.toInt_neg, value, Int.bmod_eq_of_le] <;> omega
  have exact_ := (modifyMoney_debit_exact money _ price.toNat negated enough).1
  omega

lemma modifyMoney_neg_large {money : UInt64} (capped : money.toNat ≤ maxMoneyAmount.toNat)
    {price : UInt32} (large : 2 ^ 31 < price.toNat) :
    money.toNat ≤ (modifyMoney money (-price.toInt32).toInt64).1.toNat := by
  have small := price.toNat_lt
  have word := toInt_toInt32_mod price
  have upper := price.toInt32.toInt_lt
  have lower := price.toInt32.le_toInt
  have negated : (-price.toInt32).toInt64.toInt = 2 ^ 32 - (price.toNat : ℤ) := by
    rw [Int32.toInt_toInt64, Int32.toInt_neg, Int.bmod_eq_of_le] <;> omega
  obtain ⟨guard, paid, kept⟩ := modifyMoney_credit money (-price.toInt32).toInt64 (by omega)
  have cast := toNat_toUInt64 (-price.toInt32).toInt64
  rw [maxMoneyAmount_toNat] at capped
  cases result : (modifyMoney money (-price.toInt32).toInt64).2 with
  | true =>
    rw [paid result, UInt64.toNat_add]
    omega
  | false => rw [kept result]

end Customer

end WorldServer.Vendors
