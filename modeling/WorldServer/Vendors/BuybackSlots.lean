import WorldServer.Vendors.Trades

/-!
# Which item leaves the buyback slots

A sold item goes to the current slot. If that one is filled, the slots are searched, and the item in
the slot that is taken is destroyed. The search stops at an empty slot, and takes the oldest slot
before it all the same.
-/
namespace WorldServer.Vendors

open WorldServer.Lib WorldServer.Items

structure BuybackSlots where
  customer : Customer
  VENDORBUYBACK_SLOTS : ℕ → ℕ
  removed : List Item

namespace BuybackSlots

variable (m : Market) (s : BuybackSlots)

def RemoveItemFromBuyBackSlot (slot : ℕ) (del : Bool) : BuybackSlots where
  customer := s.customer.RemoveItemFromBuyBackSlot slot
  VENDORBUYBACK_SLOTS :=
    if BUYBACK_SLOT_START ≤ slot ∧ slot < BUYBACK_SLOT_END then
      Function.update s.VENDORBUYBACK_SLOTS slot 0
    else s.VENDORBUYBACK_SLOTS
  removed := s.removed ++ if del then (s.customer.GetItemFromBuyBackSlot slot).toList else []

def AddItemToBuyBackSlot (pItem : Item) (etime : UInt32) : BuybackSlots :=
  let slot := s.customer.nextBuybackSlot
  let removed := s.RemoveItemFromBuyBackSlot slot true
  { removed with
    customer := s.customer.AddItemToBuyBackSlot m pItem etime
    VENDORBUYBACK_SLOTS := Function.update removed.VENDORBUYBACK_SLOTS slot pItem.guid }

inductive Call where
  | add (pItem : Item) (etime : UInt32)
  | remove (slot : ℕ) (del : Bool)

def step : Call → BuybackSlots
  | .add pItem etime => s.AddItemToBuyBackSlot m pItem etime
  | .remove slot del => s.RemoveItemFromBuyBackSlot slot del

def start (inventory : Inventory) (money : UInt64) : BuybackSlots where
  customer := {
    inventory
    money
    buyback _ := none
    buybackPrice _ := 0
    buybackTimestamp _ := 0
    m_currentBuybackSlot := BUYBACK_SLOT_START }
  VENDORBUYBACK_SLOTS _ := 0
  removed := []

/-! ### What the slots should keep -/

def allFilled (c : Customer) : Bool :=
  (slotsFrom BUYBACK_SLOT_START BUYBACK_SLOT_END).all fun slot => (c.buyback slot).isSome

def DestroysOldest : Call → Prop
  | .add pItem etime => ∀ old,
      (s.AddItemToBuyBackSlot m pItem etime).removed = s.removed ++ [old] →
      allFilled s.customer = true ∧ ∃ slot, s.customer.buyback slot = some old ∧
        (s.AddItemToBuyBackSlot m pItem etime).customer.buyback =
          Function.update s.customer.buyback slot (some pItem) ∧
        ∀ slot', BUYBACK_SLOT_START ≤ slot' → slot' < BUYBACK_SLOT_END →
          s.customer.buybackTimestamp slot ≤ s.customer.buybackTimestamp slot'
  | .remove _ _ => True

def findsSlot : Call → Bool
  | .add _ _ => (s.customer.buyback s.customer.m_currentBuybackSlot).isNone ||
      (s.customer.buyback BUYBACK_SLOT_START).isNone || allFilled s.customer
  | .remove _ _ => true

structure Described (slot : ℕ) : Prop where
  filled : ∀ item, s.customer.buyback slot = some item →
    s.customer.buybackPrice slot = m.price item.entry item.count ∧
    s.VENDORBUYBACK_SLOTS slot = item.guid
  empty : s.customer.buyback slot = none →
    s.customer.buybackPrice slot = 0 ∧ s.VENDORBUYBACK_SLOTS slot = 0 ∧
    s.customer.buybackTimestamp slot = 0

/-- What every call keeps. -/
structure Kept : Prop where
  described : ∀ slot, s.Described m slot
  current : BUYBACK_SLOT_START ≤ s.customer.m_currentBuybackSlot ∧
    s.customer.m_currentBuybackSlot < BUYBACK_SLOT_END

variable {m s} {c : Customer}

lemma allFilled_iff : allFilled c = true ↔
    ∀ slot, BUYBACK_SLOT_START ≤ slot → slot < BUYBACK_SLOT_END →
      (c.buyback slot).isSome = true := by
  rw [allFilled, List.all_eq_true]
  constructor
  · exact fun all slot above below => all slot (Inventory.mem_slotsFrom.mpr ⟨above, below⟩)
  · intro all slot member
    obtain ⟨above, below⟩ := Inventory.mem_slotsFrom.mp member
    exact all slot above below

/-! ### The search for a slot -/

variable {slots : List ℕ} {oldest_time : UInt32} {oldest_slot : ℕ}

lemma oldestSlot_isSome (filled : (c.buyback oldest_slot).isSome = true) :
    (c.buyback (c.oldestSlot slots oldest_time oldest_slot)).isSome = true := by
  induction slots generalizing oldest_time oldest_slot with
  | nil => exact filled
  | cons i rest ih =>
    rw [Customer.oldestSlot]
    split
    · exact filled
    next there =>
      split
      · exact ih (Option.isSome_iff_ne_none.mpr fun none =>
          there (Option.isNone_iff_eq_none.mpr none))
      · exact ih filled

lemma oldestSlot_zero (slots : List ℕ) (oldest_slot : ℕ) :
    c.oldestSlot slots 0 oldest_slot = oldest_slot := by
  induction slots with
  | nil => rfl
  | cons i rest ih =>
    rw [Customer.oldestSlot]
    split
    · rfl
    next =>
      exact ih

lemma oldestSlot_le (filled : ∀ slot ∈ slots, (c.buyback slot).isSome = true)
    (time : oldest_time = c.buybackTimestamp oldest_slot) :
    ∀ slot ∈ oldest_slot :: slots,
      c.buybackTimestamp (c.oldestSlot slots oldest_time oldest_slot) ≤ c.buybackTimestamp slot := by
  induction slots generalizing oldest_time oldest_slot with
  | nil =>
    intro slot member
    rw [List.mem_singleton.mp member]
    exact UInt32.le_refl _
  | cons i rest ih =>
    have there : ¬ (c.buyback i).isNone = true := by
      rw [Bool.not_eq_true, ← Option.not_isSome, filled i List.mem_cons_self, Bool.not_true]
    have ih {oldest_time : UInt32} {oldest_slot : ℕ} :=
      @ih oldest_time oldest_slot fun slot member => filled slot (List.mem_cons_of_mem _ member)
    intro slot member
    rw [Customer.oldestSlot, if_neg there]
    split
    next older =>
      -- `i` takes the place of the oldest slot so far
      have least := @ih _ i rfl
      rcases List.mem_cons.mp member with rfl | member
      · exact UInt32.le_trans (least i List.mem_cons_self) (UInt32.le_of_lt (time ▸ older))
      · exact least slot member
    next younger =>
      have least := ih time
      rcases List.mem_cons.mp member with rfl | member
      · exact least slot List.mem_cons_self
      rcases List.mem_cons.mp member with rfl | member
      · exact UInt32.le_trans (least oldest_slot List.mem_cons_self)
          (UInt32.not_lt.mp (time ▸ younger))
      · exact least slot (List.mem_cons_of_mem _ member)

/-! ### One call -/

lemma AddItemToBuyBackSlot_removed (current : BUYBACK_SLOT_START ≤ s.customer.m_currentBuybackSlot ∧
    s.customer.m_currentBuybackSlot < BUYBACK_SLOT_END) (pItem : Item) (etime : UInt32) :
    (s.AddItemToBuyBackSlot m pItem etime).removed =
      s.removed ++ (s.customer.buyback s.customer.nextBuybackSlot).toList := by
  simp only [AddItemToBuyBackSlot, RemoveItemFromBuyBackSlot, Customer.GetItemFromBuyBackSlot]
  rw [if_pos (Customer.nextBuybackSlot_inRange current), if_pos trivial]

lemma destroysOldest_iff (kept : s.Kept m) (call : Call) :
    s.DestroysOldest m call ↔ s.findsSlot call = true := by
  cases call with
  | remove slot del => exact iff_of_true trivial rfl
  | add pItem etime =>
    have removed := AddItemToBuyBackSlot_removed (m := m) kept.current pItem etime
    have buyback := s.customer.AddItemToBuyBackSlot_buyback m kept.current pItem etime
    rw [DestroysOldest, removed, findsSlot, Bool.or_eq_true, Bool.or_eq_true,
      Option.isNone_iff_eq_none, Option.isNone_iff_eq_none]
    constructor
    · intro destroys
      cases current : s.customer.buyback s.customer.m_currentBuybackSlot with
      | none => exact .inl (.inl rfl)
      | some there =>
        cases first : s.customer.buyback BUYBACK_SLOT_START with
        | none => exact .inl (.inr rfl)
        | some item =>
          have next : (s.customer.buyback s.customer.nextBuybackSlot).isSome = true := by
            rw [Customer.nextBuybackSlot, if_pos (by rw [current]; rfl)]
            exact oldestSlot_isSome (by rw [first]; rfl)
          obtain ⟨old, here⟩ := Option.isSome_iff_exists.mp next
          exact .inr (destroys old (by rw [here, Option.toList_some])).1
    · intro finds old gone
      have here : s.customer.buyback s.customer.nextBuybackSlot = some old := by
        have same := List.append_cancel_left gone
        cases there : s.customer.buyback s.customer.nextBuybackSlot with
        | none =>
          rw [there, Option.toList_none] at same
          cases same
        | some item =>
          rw [there, Option.toList_some, List.cons.injEq] at same
          rw [same.1]
      rcases finds with (empty | empty) | all
      · rw [Customer.nextBuybackSlot, empty, if_neg (by simp), empty] at here
        cases here
      · -- the time of the first slot is zero
        rw [Customer.nextBuybackSlot] at here
        split at here
        next =>
          rw [((kept.described _).empty empty).2.2, oldestSlot_zero, empty] at here
          cases here
        next free =>
          rw [Option.not_isSome_iff_eq_none.mp free] at here
          cases here
      · have filled := allFilled_iff.mp all
        refine ⟨all, s.customer.nextBuybackSlot, here, buyback, fun slot above below => ?_⟩
        rw [Customer.nextBuybackSlot, if_pos (filled _ kept.current.1 kept.current.2)]
        refine oldestSlot_le (fun slot member => ?_) rfl slot ?_
        · obtain ⟨above, below⟩ := Inventory.mem_slotsFrom.mp member
          exact filled slot ((Nat.le_succ _).trans above) below
        · rcases Nat.eq_or_lt_of_le above with same | later
          · rw [← same]
            exact List.mem_cons_self
          · exact List.mem_cons_of_mem _ (Inventory.mem_slotsFrom.mpr ⟨later, below⟩)

lemma AddItemToBuyBackSlot_prices (current : BUYBACK_SLOT_START ≤ c.m_currentBuybackSlot ∧
      c.m_currentBuybackSlot < BUYBACK_SLOT_END) (pItem : Item) (etime : UInt32) :
    (c.AddItemToBuyBackSlot m pItem etime).buybackPrice =
      Function.update c.buybackPrice c.nextBuybackSlot (m.price pItem.entry pItem.count) ∧
    (c.AddItemToBuyBackSlot m pItem etime).buybackTimestamp =
      Function.update c.buybackTimestamp c.nextBuybackSlot etime := by
  have inRange := Customer.nextBuybackSlot_inRange current
  simp only [Customer.AddItemToBuyBackSlot, Customer.RemoveItemFromBuyBackSlot, if_pos inRange]
  split_ifs <;> exact ⟨Function.update_idem .., Function.update_idem ..⟩

lemma RemoveItemFromBuyBackSlot_prices {slot : ℕ}
    (inRange : BUYBACK_SLOT_START ≤ slot ∧ slot < BUYBACK_SLOT_END) :
    (c.RemoveItemFromBuyBackSlot slot).buybackPrice = Function.update c.buybackPrice slot 0 ∧
    (c.RemoveItemFromBuyBackSlot slot).buybackTimestamp =
      Function.update c.buybackTimestamp slot 0 := by
  simp only [Customer.RemoveItemFromBuyBackSlot, if_pos inRange]
  split_ifs <;> exact ⟨rfl, rfl⟩

/-- A slot is described as before if only another one is written. -/
lemma Described.of_other {slot slot' : ℕ} {buyback : Option Item} {price time : UInt32} {guid : ℕ}
    {s' : BuybackSlots} (before : s.Described m slot) (other : slot ≠ slot')
    (buyback_eq : s'.customer.buyback = Function.update s.customer.buyback slot' buyback)
    (price_eq : s'.customer.buybackPrice = Function.update s.customer.buybackPrice slot' price)
    (time_eq : s'.customer.buybackTimestamp =
      Function.update s.customer.buybackTimestamp slot' time)
    (guid_eq : s'.VENDORBUYBACK_SLOTS = Function.update s.VENDORBUYBACK_SLOTS slot' guid) :
    s'.Described m slot := by
  constructor
  · intro item here
    rw [buyback_eq, Function.update_of_ne other] at here
    rw [price_eq, guid_eq, Function.update_of_ne other, Function.update_of_ne other]
    exact before.filled item here
  · intro empty
    rw [buyback_eq, Function.update_of_ne other] at empty
    rw [price_eq, guid_eq, time_eq, Function.update_of_ne other, Function.update_of_ne other,
      Function.update_of_ne other]
    exact before.empty empty

lemma Kept.add (kept : s.Kept m) (pItem : Item) (etime : UInt32) :
    (s.AddItemToBuyBackSlot m pItem etime).Kept m := by
  have inRange := Customer.nextBuybackSlot_inRange kept.current
  have buyback := s.customer.AddItemToBuyBackSlot_buyback m kept.current pItem etime
  obtain ⟨price, time⟩ := AddItemToBuyBackSlot_prices (m := m) kept.current pItem etime
  have guids : (s.AddItemToBuyBackSlot m pItem etime).VENDORBUYBACK_SLOTS =
      Function.update s.VENDORBUYBACK_SLOTS s.customer.nextBuybackSlot pItem.guid := by
    simp only [AddItemToBuyBackSlot, RemoveItemFromBuyBackSlot, if_pos inRange]
    exact Function.update_idem ..
  have customer : (s.AddItemToBuyBackSlot m pItem etime).customer =
      s.customer.AddItemToBuyBackSlot m pItem etime := rfl
  refine ⟨fun slot => ?_, s.customer.AddItemToBuyBackSlot_current m kept.current pItem etime⟩
  by_cases same : slot = s.customer.nextBuybackSlot
  · subst same
    constructor
    · intro item here
      rw [customer, buyback, Function.update_self, Option.some.injEq] at here
      rw [customer, price, guids, Function.update_self, Function.update_self, here]
      exact ⟨rfl, rfl⟩
    · intro empty
      rw [customer, buyback, Function.update_self] at empty
      cases empty
  · exact (kept.described slot).of_other same buyback price time guids

lemma Kept.remove (kept : s.Kept m) (slot : ℕ) (del : Bool) :
    (s.RemoveItemFromBuyBackSlot slot del).Kept m := by
  refine ⟨fun slot' => ?_, Customer.RemoveItemFromBuyBackSlot_current kept.current⟩
  by_cases inRange : BUYBACK_SLOT_START ≤ slot ∧ slot < BUYBACK_SLOT_END
  · have buyback : (s.customer.RemoveItemFromBuyBackSlot slot).buyback =
        Function.update s.customer.buyback slot none :=
      Customer.RemoveItemFromBuyBackSlot_buyback inRange
    obtain ⟨price, time⟩ : (s.customer.RemoveItemFromBuyBackSlot slot).buybackPrice =
          Function.update s.customer.buybackPrice slot 0 ∧
        (s.customer.RemoveItemFromBuyBackSlot slot).buybackTimestamp =
          Function.update s.customer.buybackTimestamp slot 0 :=
      RemoveItemFromBuyBackSlot_prices inRange
    have guids : (s.RemoveItemFromBuyBackSlot slot del).VENDORBUYBACK_SLOTS =
        Function.update s.VENDORBUYBACK_SLOTS slot 0 := by
      rw [RemoveItemFromBuyBackSlot, if_pos inRange]
    have customer : (s.RemoveItemFromBuyBackSlot slot del).customer =
        s.customer.RemoveItemFromBuyBackSlot slot := rfl
    by_cases same : slot' = slot
    · subst same
      constructor
      · intro item here
        rw [customer, buyback, Function.update_self] at here
        cases here
      · intro _
        rw [customer, price, guids, time, Function.update_self, Function.update_self,
          Function.update_self]
        exact ⟨rfl, rfl, rfl⟩
    · exact (kept.described slot').of_other same buyback price time guids
  · have customer : s.customer.RemoveItemFromBuyBackSlot slot = s.customer := by
      rw [Customer.RemoveItemFromBuyBackSlot, if_neg inRange]
    have before := kept.described slot'
    have guids : (s.RemoveItemFromBuyBackSlot slot del).VENDORBUYBACK_SLOTS =
        s.VENDORBUYBACK_SLOTS := by
      rw [RemoveItemFromBuyBackSlot, if_neg inRange]
    have same : (s.RemoveItemFromBuyBackSlot slot del).customer = s.customer := customer
    exact ⟨by rw [same, guids]; exact before.filled, by rw [same, guids]; exact before.empty⟩

lemma Kept.step (kept : s.Kept m) (call : Call) : (s.step m call).Kept m := by
  cases call with
  | add pItem etime => exact kept.add pItem etime
  | remove slot del => exact kept.remove slot del

lemma kept_start (inventory : Inventory) (money : UInt64) : (start inventory money).Kept m where
  described _ := ⟨fun _ here => (by cases here), fun _ => ⟨rfl, rfl, rfl⟩⟩
  current := ⟨le_rfl, (by decide : BUYBACK_SLOT_START < BUYBACK_SLOT_END)⟩

/-! ### Every run -/

lemma destroysOldest_along_iff (inventory : Inventory) (money : UInt64) (calls : List Call) :
    Along (step m) (DestroysOldest m) (start inventory money) calls ↔
      Along (step m) (fun s call => s.findsSlot call = true) (start inventory money) calls :=
  along_iff_of_invariant (Kept m) (fun _ call kept _ => kept.step call)
    (fun _ call kept => destroysOldest_iff kept call) (kept_start inventory money) calls

/-- The fields describe the items after every run. A run destroys the oldest items only if and only
if each call that adds an item finds the current slot or the first one empty, or all filled. -/
theorem buyback_slots_iff (m : Market) (inventory : Inventory) (money : UInt64)
    (calls : List Call) :
    (Along (step m) (DestroysOldest m) (start inventory money) calls ↔
      Along (step m) (fun s call => s.findsSlot call = true) (start inventory money) calls) ∧
    ∀ slot, (run (step m) (start inventory money) calls).Described m slot := by
  have kept := run_keeps (Kept m) (fun _ call kept => kept.step call)
    (kept_start inventory money) calls
  exact ⟨destroysOldest_along_iff inventory money calls, kept.described⟩

def twelveLoaves : List Call :=
  (List.range 12).map fun i => .add ⟨i + 1, 4540, 1, 23, none, false, false⟩ (UInt32.ofNat (i + 1))

/-- The first and the seventh loaf are bought back. Of the next two that are sold the second one
destroys the second loaf of all, although the seventh slot is empty. -/
theorem not_oldest_with_free_slot :
    ¬ Along (step Customer.bakery) (DestroysOldest Customer.bakery)
      (start ⟨∅, [], [], 15⟩ 0) (twelveLoaves ++ [.remove 74 false, .remove 80 false,
        .add ⟨13, 4540, 1, 23, none, false, false⟩ 13,
        .add ⟨14, 4540, 1, 23, none, false, false⟩ 14]) := by
  rw [destroysOldest_along_iff]
  decide +kernel

end BuybackSlots

end WorldServer.Vendors
