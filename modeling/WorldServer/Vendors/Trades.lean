import WorldServer.Vendors.Selling

/-!
# What a sale and a buyback are worth

A sale is paid in full as long as its price fits a word and the gold stays below the cap. A buyback
takes its price as long as the price is below the sign bit. Where both hold, buying back what was
just sold undoes the sale.
-/
namespace WorldServer.Vendors

open WorldServer.Lib WorldServer.Entities WorldServer.Items

namespace Customer

variable (m : Market) (c : Customer)

/-! ### Sales -/

structure Moved (c' : Customer) (pItem : Item) (n : ℕ) : Prop where
  sold : ∃ sold, c'.buyback c.nextBuybackSlot = some sold ∧ sold.entry = pItem.entry ∧
    sold.count = n
  slots : ∀ slot, slot ≠ c.nextBuybackSlot → c'.buyback slot = c.buyback slot
  taken : Taken c.inventory c'.inventory pItem n

/-- Nothing is changed, or the item is moved and its full price is paid. -/
def SaleExact (itemGuid count : ℕ) (c' : Customer) : Prop :=
  c' = c ∨ ∃ pItem n, c.inventory.GetItemByGuid m.player itemGuid = some pItem ∧
    n = (if count = 0 then pItem.count else count) ∧ Moved c c' pItem n ∧
    c'.money.toNat = c.money.toNat + (m.SellPrice pItem.entry).toNat * n

/-- A sale that is not refused has a price of 32 bits that leaves the gold below the cap, and what
is cloned is at most the largest stack. -/
def SaleFits (vendor : Bool) (itemGuid count : ℕ) : Prop :=
  ∀ pItem n, c.sellCheck m vendor itemGuid count = .ok (pItem, n) →
    (m.SellPrice pItem.entry).toNat * n < 2 ^ 32 ∧
    c.money.toNat + (m.SellPrice pItem.entry).toNat * n < maxMoneyAmount.toNat ∧
    (n < pItem.count → n ≤ (m.player.GetItemTemplate pItem.entry).GetMaxStackSize)

variable {m c}

lemma toNat_price (entry count : ℕ) :
    (m.price entry count).toNat = (m.SellPrice entry).toNat * count % 2 ^ 32 := by
  rw [Market.price, UInt32.toNat_mul, UInt32.toNat_ofNat', Nat.mul_mod_mod]

section

variable (valid : c.Valid m) (vendor : Bool) (itemGuid count : ℕ) (etime : UInt32)
include valid

lemma HandleSellItemOpcode_cases :
    (∃ result, c.sellCheck m vendor itemGuid count = .error result ∧
      c.HandleSellItemOpcode m vendor itemGuid count etime = (c, result)) ∨
    ∃ pItem n c' sold, c.sellCheck m vendor itemGuid count = .ok (pItem, n) ∧ 0 < n ∧
      Shelved m c c' pItem sold n ∧
      c.HandleSellItemOpcode m vendor itemGuid count etime =
        (Customer.mk c'.inventory (modifyMoney c.money
          (Int64.ofNat (m.price pItem.entry n).toNat)).1 c'.buyback c'.buybackPrice
          c'.buybackTimestamp c'.m_currentBuybackSlot, none) := by
  rw [HandleSellItemOpcode]
  cases check : c.sellCheck m vendor itemGuid count with
  | error result => exact .inl ⟨result, rfl, rfl⟩
  | ok pair =>
    obtain ⟨pItem, n⟩ := pair
    obtain ⟨found, empty, all, few, -⟩ := sellCheck_ok check
    obtain ⟨place, here, -⟩ := Inventory.place_of_GetItemByGuid found
    have positive : 0 < n := by
      have some := valid.placed.positive place pItem here
      rw [all]
      split <;> omega
    obtain ⟨c', sold, moved, shelved⟩ :=
      moveToBuyBack_spec valid found empty positive few etime
    refine .inr ⟨pItem, n, c', sold, rfl, positive, shelved, ?_⟩
    dsimp only
    rw [moved, ← shelved.money]

lemma saleExact_iff :
    SaleExact m c itemGuid count (c.HandleSellItemOpcode m vendor itemGuid count etime).1 ↔
      SaleFits m c vendor itemGuid count := by
  rcases HandleSellItemOpcode_cases valid vendor itemGuid count etime with
    ⟨result, refused, same⟩ | ⟨pItem, n, c', sold, check, positive, shelved, result⟩
  · rw [same]
    refine iff_of_true (.inl rfl) fun pItem n check => ?_
    rw [refused] at check
    cases check
  obtain ⟨found, -, all, few, sellable⟩ := sellCheck_ok check
  obtain ⟨place, here, -⟩ := Inventory.place_of_GetItemByGuid found
  have recorded := valid.placed.recorded place pItem here
  have some : 0 < (m.SellPrice pItem.entry).toNat * n :=
    Nat.mul_pos (Nat.pos_of_ne_zero fun zero => sellable (UInt32.toNat_inj.mp zero)) positive
  have paid := modifyMoney_price c.money (m.price pItem.entry n)
  have value : (m.price pItem.entry n).toNat = _ := toNat_price pItem.entry n
  rw [result]
  constructor
  · rintro (same | ⟨pItem', n', found', all', moved, money⟩)
    · -- the stack is smaller, so something has changed
      have stack := shelved.taken.stack
      have unchanged : c'.inventory = c.inventory := by rw [← same]
      rw [unchanged, recorded, here] at stack
      split at stack
      next => cases stack
      next part =>
        have count := congrArg Item.count (Option.some.inj stack)
        dsimp only at count
        omega
    · rw [found, Option.some.injEq] at found'
      subst found'
      rw [← all] at all'
      subst all'
      rw [paid] at money
      obtain ⟨word, below⟩ : (m.SellPrice pItem.entry).toNat * n' < 2 ^ 32 ∧
          c.money.toNat + (m.SellPrice pItem.entry).toNat * n' < maxMoneyAmount.toNat := by
        split at money
        next fits =>
          have nonzero : m.price pItem.entry n' ≠ 0 := by
            intro zero
            rw [zero, UInt32.toNat_zero] at money
            omega
          have below := fits.resolve_left nonzero
          omega
        next => omega
      intro item k again
      rw [check, Except.ok.injEq, Prod.mk.injEq] at again
      obtain ⟨rfl, rfl⟩ := again
      refine ⟨word, below, fun part => ?_⟩
      obtain ⟨sold', atSlot, -, count⟩ := moved.sold
      rw [shelved.buyback, Function.update_self, Option.some.injEq] at atSlot
      rw [← atSlot, shelved.count, if_pos part] at count
      omega
  · intro fits
    obtain ⟨word, below, stack⟩ := fits pItem n check
    have exact_ : (m.price pItem.entry n).toNat = (m.SellPrice pItem.entry).toNat * n := by
      rw [value, Nat.mod_eq_of_lt word]
    have whole : sold.count = n := by
      rw [shelved.count]
      split
      next part => exact min_eq_left (stack part)
      next => rfl
    refine .inr ⟨pItem, n, found, all, ⟨⟨sold, ?_, shelved.entry, whole⟩, ?_, shelved.taken⟩, ?_⟩
    · rw [shelved.buyback, Function.update_self]
    · intro slot other
      rw [shelved.buyback, Function.update_of_ne other]
    · rw [paid, exact_, if_pos (.inr below)]

lemma HandleSellItemOpcode_valid :
    (c.HandleSellItemOpcode m vendor itemGuid count etime).1.Valid m := by
  rcases HandleSellItemOpcode_cases valid vendor itemGuid count etime with
    ⟨result, refused, same⟩ | ⟨pItem, n, c', sold, check, positive, shelved, result⟩
  · rw [same]
    exact valid
  · have kept := shelved.valid
    rw [result]
    refine ⟨kept.placed, kept.words, kept.apart, kept.fresh, kept.counts, kept.distinct,
      kept.current, ?_⟩
    have capped := valid.money
    rw [modifyMoney_price]
    split
    next fits =>
      rcases fits with zero | below
      · rw [zero, UInt32.toNat_zero]
        exact capped
      · exact below.le
    next => exact capped

end

/-! ### Buybacks -/

variable (m c)

/-- Nothing is changed, or the item of the slot is stored and the price of the slot is paid. -/
def BuybackExact (slot : ℕ) (result : Option (Customer × Option TradeError)) : Prop :=
  ∃ c' error, result = some (c', error) ∧
    (c' = c ∨ ∃ pItem, c.GetItemFromBuyBackSlot slot = some pItem ∧
      c'.buyback = Function.update c.buyback slot none ∧
      (∀ entry, c'.inventory.total entry = c.inventory.total entry +
        if pItem.entry = entry then pItem.count else 0) ∧
      c'.money.toNat + (c.buybackPrice slot).toNat = c.money.toNat)

/-- A buyback that is not refused has a price below the sign bit. -/
def BuybackFits (vendor : Bool) (slot : ℕ) : Prop :=
  ∀ pItem dest, vendor = true → c.GetItemFromBuyBackSlot slot = some pItem →
    (c.buybackPrice slot).toNat ≤ c.money.toNat →
    c.inventory.CanStoreItem m.player (NULL_BAG, NULL_SLOT) [] pItem false = (.ok, dest) →
    (c.buybackPrice slot).toNat < 2 ^ 31

variable {m c}

lemma HandleBuybackItem_cases (vendor : Bool) (slot : ℕ) :
    (∃ error, c.HandleBuybackItem m vendor slot = some (c, some error) ∧
      BuybackFits m c vendor slot) ∨
    ∃ pItem dest, vendor = true ∧ c.GetItemFromBuyBackSlot slot = some pItem ∧
      (c.buybackPrice slot).toNat ≤ c.money.toNat ∧
      c.inventory.CanStoreItem m.player (NULL_BAG, NULL_SLOT) [] pItem false = (.ok, dest) ∧
      c.HandleBuybackItem m vendor slot =
        if (c.buybackPrice slot).toInt32 = Int32.minValue then none
        else
          let c' := { c with
            money := (modifyMoney c.money (-(c.buybackPrice slot).toInt32).toInt64).1
            }.RemoveItemFromBuyBackSlot slot
          some ({ c' with inventory := c'.inventory.StoreItem m.player dest pItem }, none) := by
  rw [HandleBuybackItem]
  split
  next away =>
    refine .inl ⟨_, rfl, fun pItem dest near => ?_⟩
    rw [near] at away
    cases away
  next near =>
    split
    next none =>
      refine .inl ⟨_, rfl, fun pItem dest _ found => ?_⟩
      rw [none] at found
      cases found
    next pItem found =>
      dsimp only
      have enough_iff := hasEnoughMoney_iff c.money (c.buybackPrice slot).toUInt64
      split
      next poor =>
        refine .inl ⟨_, rfl, fun pItem dest _ _ enough => ?_⟩
        rw [enough_iff.mpr enough] at poor
        cases poor
      next rich =>
        have enough := enough_iff.mp (by simpa using rich)
        split
        next dest ok =>
          exact .inr ⟨pItem, dest, by simpa using near, found, enough, ok, rfl⟩
        next msg dest refused failed =>
          refine .inl ⟨_, rfl, fun pItem' dest' _ found' _ ok => ?_⟩
          rw [found, Option.some.injEq] at found'
          subst found'
          rw [ok] at failed
          exact absurd (Prod.mk.inj failed).1.symm refused

lemma toInt32_eq_minValue {price : UInt32} :
    price.toInt32 = Int32.minValue ↔ price.toNat = 2 ^ 31 := by
  have word := toInt_toInt32_mod price
  have upper := price.toInt32.toInt_lt
  have lower := price.toInt32.le_toInt
  rw [← Int32.toInt_inj, Int32.toInt_minValue]
  omega

lemma GetItemFromBuyBackSlot_eq_some {slot : ℕ} {pItem : Item}
    (found : c.GetItemFromBuyBackSlot slot = some pItem) :
    (BUYBACK_SLOT_START ≤ slot ∧ slot < BUYBACK_SLOT_END) ∧ c.buyback slot = some pItem := by
  rw [GetItemFromBuyBackSlot] at found
  split at found
  next inRange => exact ⟨inRange, found⟩
  next => cases found

lemma Valid.stores (valid : c.Valid m) {slot : ℕ} {pItem : Item} {dest : List (Pos × ℕ)}
    (found : c.GetItemFromBuyBackSlot slot = some pItem)
    (ok : c.inventory.CanStoreItem m.player (NULL_BAG, NULL_SLOT) [] pItem false = (.ok, dest)) :
    Inventory.StoresAll m.player c.inventory (c.inventory.StoreItem m.player dest pItem)
      pItem.entry pItem.count [pItem.guid] := by
  have here := (GetItemFromBuyBackSlot_eq_some found).2
  have counts := valid.counts slot pItem here
  exact Inventory.CanStoreItem_stores valid.placed (valid.apart slot pItem here)
    (valid.fresh slot pItem here) counts.1 counts.2 ok

lemma ne_of_HandleBuybackItem {vendor : Bool} {slot : ℕ} {c' : Customer}
    (done : c.HandleBuybackItem m vendor slot = some (c', none)) : c' ≠ c := by
  rcases HandleBuybackItem_cases vendor slot with
    ⟨error, refused, -⟩ | ⟨pItem, dest, -, found, -, -, result⟩
  · rw [refused] at done
    cases (Prod.mk.inj (Option.some.inj done)).2
  obtain ⟨inRange, here⟩ := GetItemFromBuyBackSlot_eq_some found
  rw [result] at done
  split at done
  next => cases done
  next =>
    obtain ⟨rfl, -⟩ := Prod.mk.inj (Option.some.inj done)
    intro same
    have empty := congrArg (fun c => c.buyback slot) same
    dsimp only at empty
    rw [RemoveItemFromBuyBackSlot_buyback inRange, Function.update_self, here] at empty
    cases empty

lemma buybackExact_iff (valid : c.Valid m) (vendor : Bool) (slot : ℕ) :
    BuybackExact c slot (c.HandleBuybackItem m vendor slot) ↔ BuybackFits m c vendor slot := by
  rcases HandleBuybackItem_cases vendor slot with
    ⟨error, refused, fits⟩ | ⟨pItem, dest, near, found, enough, ok, result⟩
  · rw [refused]
    exact iff_of_true ⟨c, some error, rfl, .inl rfl⟩ fits
  obtain ⟨inRange, here⟩ := GetItemFromBuyBackSlot_eq_some found
  have stores := valid.stores found ok
  obtain ⟨inventory, money⟩ := RemoveItemFromBuyBackSlot_fields (c := { c with
    money := (modifyMoney c.money (-(c.buybackPrice slot).toInt32).toInt64).1 }) slot
  have buyback : ({ c with
      money := (modifyMoney c.money (-(c.buybackPrice slot).toInt32).toInt64).1
      }.RemoveItemFromBuyBackSlot slot).buyback = Function.update c.buyback slot none :=
    RemoveItemFromBuyBackSlot_buyback inRange
  constructor
  · rintro ⟨c', error, done, outcome⟩ pItem' dest' - - - -
    have bought := done
    rw [result] at done
    split at done
    next => cases done
    next least =>
      obtain ⟨rfl, rfl⟩ := Prod.mk.inj (Option.some.inj done)
      rw [toInt32_eq_minValue] at least
      by_contra large
      have more : c.money.toNat ≤
          (modifyMoney c.money (-(c.buybackPrice slot).toInt32).toInt64).1.toNat :=
        modifyMoney_neg_large valid.money (by omega)
      rcases outcome with same | ⟨-, -, -, -, paid⟩
      · exact ne_of_HandleBuybackItem bought same
      · dsimp only at paid
        rw [money] at paid
        dsimp only at paid
        omega
  · intro fits
    have small := fits pItem dest near found enough ok
    rw [result, if_neg (by rw [toInt32_eq_minValue]; omega)]
    refine ⟨_, none, rfl, .inr ⟨pItem, found, buyback, ?_, ?_⟩⟩
    · rw [inventory]
      exact stores.total
    · rw [money]
      exact modifyMoney_neg_price small enough

/-! ### Both in a row -/

/-- A buyback of the slot of a sale undoes it, unless it is refused. -/
def RoundTrip (m : Market) (c : Customer) (vendor : Bool) (itemGuid count : ℕ) (etime : UInt32)
    (vendor' : Bool) : Prop :=
  ∀ pItem n c', c.sellCheck m vendor itemGuid count = .ok (pItem, n) →
    (c.HandleSellItemOpcode m vendor itemGuid count etime).1.HandleBuybackItem m vendor'
      c.nextBuybackSlot = some (c', none) →
    c'.money = c.money ∧ ∀ entry, c'.inventory.total entry = c.inventory.total entry

lemma roundTrip_of_fits (valid : c.Valid m) {vendor : Bool} {itemGuid count : ℕ}
    {etime : UInt32} {vendor' : Bool} (saleFits : SaleFits m c vendor itemGuid count)
    (buybackFits : BuybackFits m (c.HandleSellItemOpcode m vendor itemGuid count etime).1 vendor'
      c.nextBuybackSlot) :
    RoundTrip m c vendor itemGuid count etime vendor' := by
  intro pItem n c₂ check bought
  have validSold := HandleSellItemOpcode_valid valid vendor itemGuid count etime
  have exactBack := (buybackExact_iff validSold vendor' c.nextBuybackSlot).mpr buybackFits
  rcases HandleSellItemOpcode_cases valid vendor itemGuid count etime with
    ⟨result, refused, -⟩ | ⟨pItem', n', c', sold, check', positive, shelved, sale⟩
  · rw [refused] at check
    cases check
  rw [check] at check'
  obtain ⟨rfl, rfl⟩ := Prod.mk.inj (Except.ok.inj check')
  obtain ⟨word, below, stack⟩ := saleFits pItem n check
  have whole : sold.count = n := by
    rw [shelved.count]
    split
    next part => exact min_eq_left (stack part)
    next => rfl
  have value : (m.price pItem.entry n).toNat = (m.SellPrice pItem.entry).toNat * n :=
    (toNat_price pItem.entry n).trans (Nat.mod_eq_of_lt word)
  have paid := modifyMoney_price c.money (m.price pItem.entry n)
  rw [value, if_pos (.inr below)] at paid
  rw [sale] at bought exactBack
  obtain ⟨c₃, error, again, outcome⟩ := exactBack
  rw [bought, Option.some.injEq, Prod.mk.injEq] at again
  obtain ⟨rfl, -⟩ := again
  have atSlot : c'.buyback c.nextBuybackSlot = some sold := by
    rw [shelved.buyback, Function.update_self]
  rcases outcome with same | ⟨back, found, -, totals, money⟩
  · exact absurd same (ne_of_HandleBuybackItem bought)
  · have here := (GetItemFromBuyBackSlot_eq_some found).2
    rw [atSlot, Option.some.injEq] at here
    subst here
    refine ⟨UInt64.toNat_inj.mp ?_, fun entry => ?_⟩
    · rw [shelved.price, whole, value, paid] at money
      omega
    · rw [totals entry, shelved.entry, whole]
      exact shelved.taken.total entry

/-- A sale, and any buyback, is exact just where it fits, and a sale and a buyback of its slot are
both exact and undo each other just where both fit. -/
theorem trades_exact_iff (valid : c.Valid m) (vendor : Bool) (itemGuid count : ℕ) (etime : UInt32)
    (vendor' : Bool) :
    let sold := (c.HandleSellItemOpcode m vendor itemGuid count etime).1
    (SaleExact m c itemGuid count sold ↔ SaleFits m c vendor itemGuid count) ∧
    (∀ slot, BuybackExact c slot (c.HandleBuybackItem m vendor slot) ↔
      BuybackFits m c vendor slot) ∧
    (SaleExact m c itemGuid count sold ∧
        BuybackExact sold c.nextBuybackSlot
          (sold.HandleBuybackItem m vendor' c.nextBuybackSlot) ∧
        RoundTrip m c vendor itemGuid count etime vendor' ↔
      SaleFits m c vendor itemGuid count ∧ BuybackFits m sold vendor' c.nextBuybackSlot) := by
  intro sold
  have sale := saleExact_iff valid vendor itemGuid count etime
  have validSold := HandleSellItemOpcode_valid valid vendor itemGuid count etime
  have back := buybackExact_iff validSold vendor' c.nextBuybackSlot
  refine ⟨sale, buybackExact_iff valid vendor, ?_⟩
  constructor
  · rintro ⟨saleExact, backExact, -⟩
    exact ⟨sale.mp saleExact, back.mp backExact⟩
  · rintro ⟨saleFits, backFits⟩
    exact ⟨sale.mpr saleFits, back.mpr backFits, roundTrip_of_fits valid saleFits backFits⟩

/-! ### Bread at the cap -/

def breadTemplate : ItemTemplate where
  Class := 0
  SubClass := 5
  InventoryType := .nonEquip
  MaxCount := 0
  Stackable := 20
  ContainerSlots := 0
  BagFamily := 0
  ItemLimitCategory := 0
  GemProperties := false

def baker : Items.Player where
  GetItemTemplate _ := breadTemplate
  bagSizes _ := by decide
  limitCategory _ := none
  GetGemCountWithID _ _ := 0
  IsBindedNotWith _ := false
  CanDualWield := false
  CanTitanGrip := false
  wearsRelics := false
  GetBankBagSlotCount := 0
  IsAlive := true
  CanUseItem _ := .ok
  CanEquipUniqueItem _ _ _ := .ok
  canEquipNow _ := .ok
  canUnequipNow _ := .ok

def bakery : Market where
  player := baker
  stackable _ := (by decide : breadTemplate.Stackable < 2 ^ 31)
  SellPrice _ := 25
  isOwner _ := true
  isRefundable _ := false
  GetLootGUID := 0

def bread : Item := ⟨1, 4540, 5, 23, none, false, false⟩

def withBread (money : UInt64) : Customer where
  inventory := {
    items := (∅ : Table Place Item).insert (.slot 23) bread
    mailed := []
    loose := []
    nextGuid := 2 }
  money
  buyback _ := none
  buybackPrice _ := 0
  buybackTimestamp _ := 0
  m_currentBuybackSlot := BUYBACK_SLOT_START

lemma withBread_valid {money : UInt64} (capped : money.toNat ≤ maxMoneyAmount.toNat) :
    (withBread money).Valid bakery := by
  have only {place : Place} {item : Item}
      (here : (withBread money).inventory.items.lookup place = some item) :
      place = .slot 23 ∧ item = bread := by
    rcases (Table.lookup_insert_iff ..).mp here with same | ⟨-, absent⟩
    · exact same
    · cases absent
  constructor
  · constructor
    · intro place item here
      obtain ⟨rfl, rfl⟩ := only here
      rfl
    · intro place place' item item' here here' _
      rw [(only here).1, (only here').1]
    · intro bag i item here
      cases (only here).1
    · intro place item here
      obtain ⟨rfl, rfl⟩ := only here
      exact Nat.lt_succ_self 1
    · intro place item here
      obtain ⟨rfl, rfl⟩ := only here
      decide
  · intro place item here
    obtain ⟨rfl, rfl⟩ := only here
    decide
  · intro slot item here
    cases here
  · intro slot item here
    cases here
  · intro slot item here
    cases here
  · intro slot slot' item item' here
    cases here
  · exact ⟨le_rfl, (by decide : BUYBACK_SLOT_START < BUYBACK_SLOT_END)⟩
  · exact capped

/-- Two loaves of five are sold for fifty copper. -/
theorem trades_exact_two_loaves :
    SaleExact bakery (withBread 100) 1 2
      ((withBread 100).HandleSellItemOpcode bakery true 1 2 0).1 := by
  refine (trades_exact_iff (withBread_valid (by decide)) true 1 2 0 true).1.mpr ?_
  intro pItem n check
  obtain ⟨rfl, rfl⟩ := check
  decide

/-- At the cap the loaves are taken and not paid for. -/
theorem sale_unpaid_at_cap :
    ¬ SaleExact bakery (withBread 9999999999) 1 2
      ((withBread 9999999999).HandleSellItemOpcode bakery true 1 2 0).1 := by
  rw [saleExact_iff (withBread_valid (by decide))]
  intro fits
  have sells : (withBread 9999999999).sellCheck bakery true 1 2 = .ok (bread, 2) := by
    decide +kernel
  have below := (fits bread 2 sells).2.1
  revert below
  decide

end Customer

end WorldServer.Vendors
