import WorldServer.Items.Offers

/-!
# A full inventory

A check that starts at a position goes on to the rest of its bag, and then to the backpack and the
other equipped bags. There it passes over every slot with the index of the position that was asked
for, in whatever bag. So it can answer that the inventory is full while these slots are free.
-/
namespace WorldServer.Items

open WorldServer.Lib

section Plans

variable {full : InventoryResult} {steps : List (SearchStep × List Pos)} {p : Pos}

def SearchStep.Passes : SearchStep → Prop
  | .must search => ∃ r, search ⟨[], 0⟩ = .ok r
  | .may _ => True
  | .refuse refused _ => refused = false

lemma plan_full_iff (other : ∀ e ∈ steps, ¬ e.1.Ends full) :
    (plan full steps).2 = full ↔ ∀ e ∈ steps, e.1.Passes := by
  induction steps with
  | nil => simp [plan]
  | cons e steps ih =>
    obtain ⟨step, positions⟩ := e
    obtain ⟨now, later⟩ := List.forall_mem_cons.mp other
    rw [List.forall_mem_cons, ← ih later]
    cases step with
    | must search =>
      rw [plan, SearchStep.Passes]
      cases hf : search ⟨[], 0⟩ with
      | error res => simpa using fun hs => now (hf.trans (congrArg _ hs))
      | ok r => simp
    | may search =>
      rw [plan, SearchStep.Passes]
      split <;> simp
    | refuse refused res =>
      rw [plan, SearchStep.Passes]
      cases refused with
      | true => simpa [SearchStep.Ends] using now
      | false => simp

lemma mem_plan_iff (passes : ∀ e ∈ steps, e.1.Passes) :
    p ∈ (plan full steps).1 ↔ ∃ e ∈ steps, e.1.Accepts ∧ p ∈ e.2 := by
  refine ⟨mem_plan, ?_⟩
  induction steps with
  | nil => simp
  | cons e steps ih =>
    obtain ⟨step, positions⟩ := e
    obtain ⟨now, later⟩ := List.forall_mem_cons.mp passes
    have ih := ih later
    rintro ⟨e, isStep, accepts, here⟩
    cases step with
    | must search =>
      obtain ⟨r, hf⟩ := now
      rw [plan, hf]
      rcases List.mem_cons.mp isStep with rfl | isStep
      · exact List.mem_append_left _ here
      · exact List.mem_append_right _ (ih ⟨e, isStep, accepts, here⟩)
    | may search =>
      rw [plan]
      rcases List.mem_cons.mp isStep with rfl | isStep
      · obtain ⟨r, hf⟩ := accepts
        rw [hf]
        exact List.mem_append_left _ here
      · split
        · exact ih ⟨e, isStep, accepts, here⟩
        · exact List.mem_append_right _ (ih ⟨e, isStep, accepts, here⟩)
    | refuse refused res =>
      rw [plan, if_neg (by simpa [SearchStep.Passes] using now)]
      rcases List.mem_cons.mp isStep with rfl | isStep
      · exact accepts.elim
      · exact ih ⟨e, isStep, accepts, here⟩

end Plans

namespace StoreRequest

open Inventory

section Room

variable (q : StoreRequest)

/-- An existing bag that accepts the item, and is not the bag that moves. -/
def takesBag (bag : ℕ) : Bool :=
  (q.inv.GetBagByPos q.player bag).any fun pBag =>
    !q.pItem.any (pBag.guid = ·.guid) &&
      ItemCanGoIntoBag q.proto (q.player.GetItemTemplate pBag.entry)

def open_ (p : Pos) : Bool := q.searched false p || (q.proto.Stackable ≠ 1 && q.searched true p)

/-- The slots and stackable that the item may use: in the backpack and in the equipped bags. -/
def usable : List Pos :=
  (backpack ++ (equippedBags.filter fun bag => q.takesBag bag).flatMap q.slotsOf).filter
    fun p => q.open_ p

def usableRoom : ℕ := ∑ p ∈ q.usable.toFinset, { q with swap := false }.roomAt p

/-- The position that is asked for, the rest of its bag, and what is usable elsewhere except for the
slots in bags that have the index of the position. -/
def reached : List Pos :=
  q.pos :: ((if q.pos.1 = INVENTORY_SLOT_BAG_0 then [] else q.slotsOf q.pos.1) ++ backpack ++
    (equippedBags.filter fun bag => q.takesBag bag).flatMap q.slotsOf).filter
      fun p => p ≠ q.pos ∧ q.open_ p ∧ (p.1 = INVENTORY_SLOT_BAG_0 ∨ p.2 ≠ q.pos.2)

def reachedRoom : ℕ := ∑ p ∈ q.reached.toFinset, q.roomAt p

/-- The check starts at a position. -/
def Specific : Prop := q.pos.1 ≠ NULL_BAG ∧ q.pos.2 ≠ NULL_SLOT

/-- The position that is asked for takes some of the item, and so may the rest of its bag. -/
def Starts : Prop :=
  q.refusesBag = false ∧ (∃ r, q.searchSpecific ⟨[], 0⟩ = .ok r) ∧
    (q.pos.1 = INVENTORY_SLOT_BAG_0 ∨ q.takesBag q.pos.1 = true)

end Room

variable {q : StoreRequest} {merge non_specialized : Bool} {bag skip_bag count : ℕ} {p : Pos}

lemma searchBag_accepts_iff :
    (∃ r, q.searchBag merge bag non_specialized skip_bag ⟨[], 0⟩ = .ok r) ↔
      bag ≠ skip_bag ∧ q.refusesBag = false ∧ q.takesBag bag = true ∧
        ∃ pBag, q.inv.GetBagByPos q.player bag = some pBag ∧
          non_specialized = (q.player.GetItemTemplate pBag.entry).plainBag := by
  unfold searchBag CanStoreItem_InBag takesBag refusesBag
  cases q.inv.GetBagByPos q.player bag with
  | none => split_ifs <;> simp
  | some pBag =>
    dsimp only
    split_ifs <;> simp_all

lemma searchThisBag_accepts_iff (asked : q.pos.1 ≠ NULL_BAG) :
    (∃ r, q.searchThisBag merge ⟨[], 0⟩ = .ok r) ↔
      q.refusesBag = false ∧ q.takesBag q.pos.1 = true := by
  have either : (∃ r, q.searchThisBag merge ⟨[], 0⟩ = .ok r) ↔
      ∃ non_specialized r,
        q.searchBag merge q.pos.1 non_specialized NULL_BAG ⟨[], 0⟩ = .ok r := by
    rw [Bool.exists_bool]
    unfold searchThisBag CanStoreItem_InThisBag searchBag
    cases q.inv.CanStoreItem_InBag q.player q.proto q.entry q.pItem q.pos.1 merge false NULL_BAG
        q.pos.2 ⟨[], 0⟩ with
    | ok r => simp
    | error _ => simp
  simp only [either, searchBag_accepts_iff]
  constructor
  · rintro ⟨-, -, notEmpty, takes, -⟩
    exact ⟨notEmpty, takes⟩
  · rintro ⟨notEmpty, takes⟩
    obtain ⟨pBag, isBag, -⟩ := (Option.any_eq_true _ _).mp takes
    exact ⟨_, asked, notEmpty, takes, pBag, isBag, rfl⟩

lemma searchBackpack_accepts_iff :
    (∃ r, q.searchBackpack merge ⟨[], 0⟩ = .ok r) ↔ q.refusesBag = false := by
  unfold searchBackpack CanStoreItem_InInventorySlots refusesBag
  split_ifs <;> simp_all

lemma BagFamily_of_takesBag (takes : q.takesBag bag = true) {pBag : Item}
    (isBag : q.inv.GetBagByPos q.player bag = some pBag)
    (special : (q.player.GetItemTemplate pBag.entry).plainBag = false) :
    q.proto.BagFamily ≠ 0 := by
  intro none_
  rw [takesBag, isBag, Option.any_some, Bool.and_eq_true] at takes
  have accepts := takes.2
  rw [ItemCanGoIntoBag, special, none_] at accepts
  split at accepts
  · contradiction
  · split at accepts <;> simp at accepts

lemma open_iff : q.open_ p = true ↔
    ∃ merge, (merge = true → q.proto.Stackable ≠ 1) ∧ q.searched merge p = true := by
  simp [open_, Bool.exists_bool]

lemma not_ends_full : ∀ e ∈ q.searches, ¬ e.1.Ends .invFull := by
  intro e isSearch ends
  rcases searches_ends e isSearch ends with refusal | ⟨-, other⟩
  · rcases refusal with res | res | res | res <;> cases res
  · cases other

lemma passes_iff (specific : q.Specific) : (∀ e ∈ q.searches, e.1.Passes) ↔ q.Starts := by
  constructor
  · intro passes
    have first := passes _ (mem_searches.mpr (.inl ⟨specific, rfl⟩))
    have here := passes _ (mem_searches.mpr (.inr (.inl ⟨specific.1, false, by simp, rfl⟩)))
    have notEmpty := passes _ (mem_searches.mpr (.inr (.inr (.inr (.inr rfl)))))
    refine ⟨notEmpty, first, ?_⟩
    by_cases own : q.pos.1 = INVENTORY_SLOT_BAG_0
    · exact .inl own
    · rw [searchHere, if_neg own] at here
      exact .inr ((searchThisBag_accepts_iff specific.1).mp here).2
  · rintro ⟨notEmpty, first, takes⟩
    refine searches_cases first (fun asked own merge => ?_) (fun merge => ?_)
      (fun _ _ _ => trivial) notEmpty
    · exact (searchThisBag_accepts_iff asked).mpr ⟨notEmpty, takes.resolve_left own⟩
    · exact searchBackpack_accepts_iff.mpr notEmpty

lemma mem_inBag : p ∈ q.inBag merge bag ↔
    p ∈ q.slotsOf bag ∧ p.2 ≠ q.pos.2 ∧ q.searched merge p = true := by
  simp [inBag]

lemma mem_inBackpack : p ∈ q.inBackpack merge ↔
    p ∈ backpack ∧ p ≠ q.pos ∧ q.searched merge p = true := by
  simp [inBackpack]

lemma mem_reached : p ∈ q.reached ↔ p = q.pos ∨
    ((q.pos.1 ≠ INVENTORY_SLOT_BAG_0 ∧ p ∈ q.slotsOf q.pos.1 ∨ p ∈ backpack ∨
        ∃ bag ∈ equippedBags, q.takesBag bag = true ∧ p ∈ q.slotsOf bag) ∧
      p ≠ q.pos ∧ q.open_ p = true ∧ (p.1 = INVENTORY_SLOT_BAG_0 ∨ p.2 ≠ q.pos.2)) := by
  rw [reached, List.mem_cons, List.mem_filter]
  split_ifs with own <;> simp [own, and_assoc]

lemma reached_of_search {e : SearchStep × List Pos} (isSearch : e ∈ q.searches)
    (accepts : e.1.Accepts) (here : p ∈ e.2) : p ∈ q.reached := by
  have inThisBag {merge : Bool} {bag : ℕ} (stackable : merge = true → q.proto.Stackable ≠ 1)
      (bags : q.pos.1 ≠ INVENTORY_SLOT_BAG_0 ∧ bag = q.pos.1 ∨
        bag ∈ equippedBags ∧ q.takesBag bag = true)
      (here : p ∈ q.inBag merge bag) : p ∈ q.reached := by
    obtain ⟨inside, other, hf⟩ := mem_inBag.mp here
    refine mem_reached.mpr (.inr ⟨?_, fun hs => other (congrArg Prod.snd hs),
      open_iff.mpr ⟨merge, stackable, hf⟩, .inr other⟩)
    rcases bags with ⟨own, rfl⟩ | ⟨equipped, takes⟩
    · exact .inl ⟨own, inside⟩
    · exact .inr (.inr ⟨bag, equipped, takes, inside⟩)
  have inSlots {merge : Bool} (stackable : merge = true → q.proto.Stackable ≠ 1)
      (here : p ∈ q.inBackpack merge) : p ∈ q.reached := by
    obtain ⟨inside, other, hf⟩ := mem_inBackpack.mp here
    obtain ⟨slot, -, rfl⟩ := List.mem_map.mp inside
    exact mem_reached.mpr (.inr ⟨.inr (.inl inside), other,
      open_iff.mpr ⟨merge, stackable, hf⟩, .inl rfl⟩)
  rcases mem_searches.mp isSearch with
    ⟨-, rfl⟩ | ⟨-, merge, stackable, rfl⟩ | ⟨merge, stackable, rfl⟩ |
      ⟨merge, special, stackable, -, inBags⟩ | rfl
  · exact mem_reached.mpr (.inl (List.mem_singleton.mp here))
  · unfold searchHere at here
    split_ifs at here with own
    · exact inSlots stackable here
    · exact inThisBag stackable (.inl ⟨own, rfl⟩) here
  · exact inSlots stackable here
  · obtain ⟨bag, equipped, rfl⟩ := List.mem_map.mp inBags
    exact inThisBag stackable (.inr ⟨equipped, (searchBag_accepts_iff.mp accepts).2.2.1⟩) here
  · exact accepts.elim

lemma search_of_reached (specific : q.Specific) (starts : q.Starts) (here : p ∈ q.reached) :
    ∃ e ∈ q.searches, e.1.Accepts ∧ p ∈ e.2 := by
  obtain ⟨notEmpty, first, takesFirst⟩ := starts
  rcases mem_reached.mp here with rfl | ⟨among, other, isOpen, index⟩
  · exact ⟨_, mem_searches.mpr (.inl ⟨specific, rfl⟩), first, List.mem_singleton.mpr rfl⟩
  obtain ⟨merge, stackable, hf⟩ := open_iff.mp isOpen
  have inThisBag (own : q.pos.1 ≠ INVENTORY_SLOT_BAG_0) (inside : p ∈ q.slotsOf q.pos.1) :
      ∃ e ∈ q.searches, e.1.Accepts ∧ p ∈ e.2 := by
    obtain ⟨-, -, bag, -⟩ := mem_slotsOf.mp inside
    refine ⟨_, mem_searches.mpr (.inr (.inl ⟨specific.1, merge, stackable, rfl⟩)), ?_, ?_⟩
    · rw [searchHere, if_neg own]
      exact (searchThisBag_accepts_iff specific.1).mpr ⟨notEmpty, takesFirst.resolve_left own⟩
    · rw [searchHere, if_neg own]
      refine mem_inBag.mpr ⟨inside, fun hs => other (Prod.ext bag hs), hf⟩
  rcases among with ⟨own, inside⟩ | inside | ⟨bag, equipped, takes, inside⟩
  · exact inThisBag own inside
  · exact ⟨_, mem_searches.mpr (.inr (.inr (.inl ⟨merge, stackable, rfl⟩))),
      searchBackpack_accepts_iff.mpr notEmpty, mem_inBackpack.mpr ⟨inside, other, hf⟩⟩
  · obtain ⟨pBag, isBag, rfl, -⟩ := mem_slotsOf.mp inside
    have notOwn := ne_of_isBagSlot (GetBagByPos_eq_some.mp isBag).1
    by_cases hs : p.1 = q.pos.1
    · exact inThisBag (hs ▸ notOwn) (hs ▸ inside)
    · refine ⟨_, mem_searches.mpr (.inr (.inr (.inr (.inl ⟨merge,
        (q.player.GetItemTemplate pBag.entry).plainBag, stackable,
        BagFamily_of_takesBag takes isBag, List.mem_map.mpr ⟨p.1, equipped, rfl⟩⟩)))), ?_, ?_⟩
      · exact searchBag_accepts_iff.mpr ⟨hs, notEmpty, takes, pBag, isBag, rfl⟩
      · exact mem_inBag.mpr ⟨inside, index.resolve_left notOwn, hf⟩

lemma outcome_of_starts (specific : q.Specific) (starts : q.Starts) :
    q.outcome.2 = .invFull ∧ q.outcome.1.toFinset = q.reached.toFinset := by
  have passes := (passes_iff specific).mpr starts
  refine ⟨(plan_full_iff not_ends_full).mpr passes, Finset.ext fun p => ?_⟩
  rw [List.mem_toFinset, List.mem_toFinset, outcome, mem_plan_iff passes]
  exact ⟨fun ⟨_, isSearch, accepts, here⟩ => reached_of_search isSearch accepts here,
    search_of_reached specific starts⟩

lemma canStore_zero (specific : q.Specific) (ok : (q.similar 0).1 = .ok) :
    (q.inv.canStore q.player q.pos [] q.entry 0 q.pItem q.swap).1 ≠ .invFull := by
  rw [canStore_eq, similar_of_ok ok]
  split_ifs with looted bound tooMany
  · simp
  · simp
  · exact absurd ok tooMany.1
  · have first : q.pos.1 ≠ NULL_BAG ∧ q.pos.2 ≠ NULL_SLOT := specific
    rw [searches, if_pos first]
    simp only [List.cons_append, List.nil_append, List.map_cons, searchSteps]
    rw [searchSpecific_offers]
    cases failed : q.searchSpecific ⟨[], 0⟩ with
    | error res =>
      rcases searchSpecific_refusal failed with rfl | rfl | rfl | rfl <;> simp [Except.map]
    | ok r => simp [Except.map, Reserve.takeAll, Reserve.take]

/-- With room for all of the item and no limit, a check that starts at a position does not answer
that the inventory is full. -/
def FindsRoom (q : StoreRequest) (count : ℕ) : Prop :=
  q.Specific → (q.similar count).1 = .ok → count ≤ q.usableRoom →
    (q.inv.canStore q.player q.pos [] q.entry count q.pItem q.swap).1 ≠ .invFull

theorem canStore_findsRoom_iff (q : StoreRequest) (count : UInt32) :
    q.FindsRoom count.toNat ↔
      (q.Specific → (q.similar count.toNat).1 = .ok → count.toNat ≤ q.usableRoom →
        q.pItem.any q.player.IsBindedNotWith = false → q.Starts →
          count.toNat ≤ q.reachedRoom) := by
  refine forall₃_congr fun specific ok room => ?_
  rcases Nat.eq_zero_or_pos count.toNat with none_ | some_
  · rw [none_] at ok ⊢
    simp [canStore_zero specific ok]
  have looted : ¬ q.pItem.any Item.m_lootGenerated = true := fun looted => by
    rw [similar, CanTakeMoreSimilarItems, if_pos looted] at ok
    cases ok
  rw [canStore_eq, if_neg looted]
  by_cases bound : q.pItem.any q.player.IsBindedNotWith = true
  · simp [bound]
  have found := checks_outcome (searchSteps_checks 0) some_ (q := q)
  have left := count_left some_ (q := q)
  rw [if_neg bound, if_neg fun tooMany => tooMany.1 ok, similar_of_ok ok, Nat.sub_zero,
    Nat.add_mod_right, Nat.mod_eq_of_lt count.toNat_lt, found]
  simp only [bound, forall_const]
  by_cases starts : q.Starts
  · obtain ⟨full, same⟩ := outcome_of_starts specific starts
    rw [same] at left
    rw [full, left, forall_prop_of_true starts, reachedRoom]
    split_ifs with done
    · simp only [ne_eq, reduceCtorEq, not_false_eq_true, true_iff]
      omega
    · simp only [ne_eq, not_true_eq_false, false_iff]
      omega
  · refine iff_of_true ?_ fun starting => absurd starting starts
    split_ifs
    · simp
    · exact fun full => starts ((passes_iff specific).mp ((plan_full_iff not_ends_full).mp full))

end StoreRequest

/-! ### Two bags with one slot each -/

def slotTemplate (InventoryType : InventoryType) (Class ContainerSlots : ℕ) : ItemTemplate where
  Class
  SubClass := 0
  InventoryType
  MaxCount := 0
  Stackable := 1
  ContainerSlots
  BagFamily := 0
  ItemLimitCategory := 0
  GemProperties := false

def traveller : Player where
  GetItemTemplate entry := if entry = 1 then slotTemplate .bag 1 1 else slotTemplate .nonEquip 7 0
  bagSizes entry := by split <;> decide
  limitCategory _ := none
  GetGemCountWithID _ _ := 0
  IsBindedNotWith _ := false
  CanDualWield := false
  CanTitanGrip := false
  wearsRelics := false
  GetBankBagSlotCount := 0
  IsAlive := true
  CanUseItem _ := .ok
  CanEquipUniqueItem _ _ _ := .ok
  canEquipNow _ := .ok
  canUnequipNow _ := .ok

/-- Eighteen new items, from the slot of the first bag on. The backpack is empty. -/
def luggage : StoreRequest where
  player := traveller
  inv := {
    items := ((∅ : Table Place Item).insert (.slot 19) ⟨1, 1, 1, 19, none, false, false⟩).insert
      (.slot 20) ⟨2, 1, 1, 20, none, false, false⟩
    mailed := []
    loose := []
    nextGuid := 3 }
  entry := 2
  pItem := none
  pos := (19, 0)
  swap := false

/-- The slot of the second bag is passed over, since it has the same index. -/
theorem slot_passed_over : ¬ luggage.FindsRoom 18 := by
  intro finds
  refine finds ⟨by decide, by decide⟩ (by decide) ?_ ?_
  · decide +kernel
  · decide +kernel

end WorldServer.Items
