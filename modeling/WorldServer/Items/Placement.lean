import WorldServer.Items.Storage

/-!
# Everything in its place

The items of a player are each in the place they record, and what is in a bag is in one that has a
slot for bags. A stack may change its count and an item may take a free place. Destroying an item
takes its count, and the counts of what is in it.
-/
namespace WorldServer.Items

open WorldServer.Lib

namespace Inventory

variable (player : Player) (inv : Inventory)

def total (entry : ℕ) : ℕ :=
  inv.items.total fun _ item => if item.entry = entry then item.count else 0

structure Placed : Prop where
  recorded : ∀ place item, inv.items.lookup place = some item → item.place = place
  distinct : ∀ place place' item item', inv.items.lookup place = some item →
    inv.items.lookup place' = some item' → item.guid = item'.guid → place = place'
  inBags : ∀ bag i item, inv.items.lookup (.inBag bag i) = some item → ∃ slot pBag,
    inv.GetBagByPos player slot = some pBag ∧ pBag.guid = bag ∧ i < GetBagSize player pBag
  fresh : ∀ place item, inv.items.lookup place = some item → item.guid < inv.nextGuid
  positive : ∀ place item, inv.items.lookup place = some item → 0 < item.count

/-! ### Positions -/

variable {player inv} {slot : ℕ} {pBag item : Item} {pos : Pos} {place : Place}

lemma GetBagByPos_eq_some :
    inv.GetBagByPos player slot = some pBag ↔
      IsBagSlot slot ∧ inv.items.lookup (.slot slot) = some pBag ∧ IsBag player pBag = true := by
  rw [GetBagByPos]
  split
  next isSlot => simp [Option.filter_eq_some_iff, isSlot]
  next noSlot => simp [noSlot]

lemma ne_of_isBagSlot (isSlot : IsBagSlot slot) : slot ≠ INVENTORY_SLOT_BAG_0 := by
  rintro rfl
  revert isSlot
  decide

lemma placeOf_eq_slot :
    inv.placeOf player pos = some (.slot slot) ↔
      pos = (INVENTORY_SLOT_BAG_0, slot) ∧ slot < BANK_SLOT_BAG_END := by
  obtain ⟨bag, pos⟩ := pos
  rw [placeOf]
  split
  next own =>
    rw [Option.some.injEq, Place.slot.injEq, Prod.mk.injEq]
    constructor
    · rintro rfl
      exact ⟨⟨own.1, rfl⟩, own.2⟩
    · exact fun hs => hs.1.2
  next other =>
    constructor
    · intro inBag
      split at inBag
      · cases inBag
      · split at inBag <;> cases inBag
    · rintro ⟨hs, inRange⟩
      obtain ⟨rfl, rfl⟩ := Prod.mk.inj hs
      exact absurd ⟨rfl, inRange⟩ other

lemma placeOf_eq_inBag {bag i : ℕ} :
    inv.placeOf player pos = some (.inBag bag i) ↔ ∃ pBag,
      inv.GetBagByPos player pos.1 = some pBag ∧ pBag.guid = bag ∧ pos.2 = i ∧
        i < GetBagSize player pBag := by
  rw [placeOf]
  split
  next own =>
    refine iff_of_false (by simp) ?_
    rintro ⟨pBag, hf, -⟩
    exact ne_of_isBagSlot (GetBagByPos_eq_some.mp hf).1 own.1
  next other =>
    split
    next none => simp [none]
    next pBag hf =>
      split
      next inRange =>
        rw [Option.some.injEq, Place.inBag.injEq]
        constructor
        · rintro ⟨rfl, rfl⟩
          exact ⟨pBag, hf, rfl, rfl, inRange⟩
        · rintro ⟨pBag', hf', rfl, rfl, -⟩
          rw [hf, Option.some.injEq] at hf'
          subst hf'
          exact ⟨rfl, rfl⟩
      next outside =>
        refine iff_of_false (by simp) ?_
        rintro ⟨pBag', hf', -, rfl, inRange⟩
        rw [hf, Option.some.injEq] at hf'
        subst hf'
        exact outside inRange

lemma GetItemByPos_of_placeOf (here : inv.placeOf player pos = some place) :
    inv.GetItemByPos player pos = inv.items.lookup place := by
  rw [GetItemByPos, here, Option.bind_some]

lemma Placed.bag_unique (placed : inv.Placed player) {slot' : ℕ} {pBag' : Item}
    (hf : inv.GetBagByPos player slot = some pBag)
    (hf' : inv.GetBagByPos player slot' = some pBag') (hs : pBag.guid = pBag'.guid) :
    slot = slot' ∧ pBag = pBag' := by
  obtain ⟨-, here, -⟩ := GetBagByPos_eq_some.mp hf
  obtain ⟨-, here', -⟩ := GetBagByPos_eq_some.mp hf'
  obtain rfl := Place.slot.inj (placed.distinct _ _ _ _ here here' hs)
  exact ⟨rfl, Option.some.inj (here.symm.trans here')⟩

lemma mem_slotsFrom {first last : ℕ} :
    slot ∈ slotsFrom first last ↔ first ≤ slot ∧ slot < last := by
  rw [slotsFrom, List.mem_range'_1]
  omega

lemma mem_bags_iff : slot ∈ equippedBags ++ bankBags ↔ IsBagSlot slot := by
  rw [List.mem_append, equippedBags, bankBags, mem_slotsFrom, mem_slotsFrom]
  rfl

lemma Placed.placeOf_item (placed : inv.Placed player) (here : inv.items.lookup place = some item)
    (inRange : ∀ slot, place = .slot slot → slot < BANK_SLOT_BAG_END) :
    inv.placeOf player (inv.GetBagSlot player item, item.m_slot) = some place := by
  have recorded := placed.recorded place item here
  cases place with
  | slot slot =>
    have own : item.m_container = none ∧ item.m_slot = slot := by
      rw [Item.place] at recorded
      split at recorded
      next none => exact ⟨none, Place.slot.inj recorded⟩
      next => cases recorded
    rw [GetBagSlot, own.1, own.2]
    exact placeOf_eq_slot.mpr ⟨rfl, inRange slot rfl⟩
  | inBag bag i =>
    have contained : item.m_container = some bag ∧ item.m_slot = i := by
      rw [Item.place] at recorded
      split at recorded
      · cases recorded
      next bag' container =>
        obtain ⟨rfl, index⟩ := Place.inBag.inj recorded
        exact ⟨container, index⟩
    obtain ⟨slot, pBag, hf, guid, less⟩ := placed.inBags bag i item here
    -- the slot that is found is the slot of this bag
    have search : ((equippedBags ++ bankBags).find? fun slot =>
        (inv.GetBagByPos player slot).any fun pBag => pBag.guid = bag) = some slot := by
      cases result : (equippedBags ++ bankBags).find? fun slot =>
          (inv.GetBagByPos player slot).any fun pBag => pBag.guid = bag with
      | none =>
        have absent := List.find?_eq_none.mp result slot
          (mem_bags_iff.mpr (GetBagByPos_eq_some.mp hf).1)
        simp [hf, guid] at absent
      | some slot' =>
        have fits := List.find?_some result
        rw [Option.any_eq_true] at fits
        obtain ⟨pBag', hf', guid'⟩ := fits
        have hs := placed.bag_unique hf' hf
          ((of_decide_eq_true guid').trans guid.symm)
        rw [hs.1]
    rw [GetBagSlot, contained.1, contained.2]
    dsimp only
    rw [search, Option.getD_some]
    exact placeOf_eq_inBag.mpr ⟨pBag, hf, guid, rfl, less⟩

/-! ### Changing a place -/

variable (player inv)

/-- There is room for one more of an item: nothing is there, or a stack of it. -/
def Room (entry : ℕ) (pos : Pos) : Prop :=
  ∃ place, inv.placeOf player pos = some place ∧
    ∀ item, inv.items.lookup place = some item → item.entry = entry

variable {player inv}

lemma Placed.recount (placed : inv.Placed player) (here : inv.items.lookup place = some item)
    {count : ℕ} (some : 0 < count) :
    Placed player { inv with items := inv.items.insert place { item with count := count } } := by
  have before {place' : Place} {item' : Item}
      (hf : (inv.items.insert place { item with count := count }).lookup place' = .some item') :
      ∃ old, inv.items.lookup place' = .some old ∧ item'.guid = old.guid ∧
        item'.place = old.place ∧ 0 < item'.count := by
    rcases (Table.lookup_insert_iff ..).mp hf with ⟨rfl, rfl⟩ | ⟨-, hf⟩
    · exact ⟨item, here, rfl, rfl, some⟩
    · exact ⟨item', hf, rfl, rfl, placed.positive _ _ hf⟩
  constructor
  · intro place' item' hf
    obtain ⟨old, hf, -, hs, -⟩ := before hf
    exact hs.trans (placed.recorded place' old hf)
  · intro p q a b hf hf' hs
    obtain ⟨old, hf, guid, -⟩ := before hf
    obtain ⟨old', hf', guid', -⟩ := before hf'
    exact placed.distinct p q old old' hf hf' (guid.symm.trans (hs.trans guid'))
  · intro bag i item' hf
    obtain ⟨old, hf, -⟩ := before hf
    obtain ⟨slot, pBag, isBag, guid, less⟩ := placed.inBags bag i old hf
    obtain ⟨isSlot, atSlot, kind⟩ := GetBagByPos_eq_some.mp isBag
    by_cases hs : Place.slot slot = place
    · subst hs
      obtain rfl := Option.some.inj (here.symm.trans atSlot)
      refine ⟨slot, { item with count := count }, GetBagByPos_eq_some.mpr ⟨isSlot, ?_, kind⟩, guid,
        less⟩
      exact (Table.lookup_insert_iff ..).mpr (.inl ⟨rfl, rfl⟩)
    · refine ⟨slot, pBag, GetBagByPos_eq_some.mpr ⟨isSlot, ?_, kind⟩, guid, less⟩
      exact (Table.lookup_insert_iff ..).mpr (.inr ⟨hs, atSlot⟩)
  · intro place' item' hf
    obtain ⟨old, hf, guid, -⟩ := before hf
    exact guid ▸ placed.fresh place' old hf
  · intro place' item' hf
    obtain ⟨old, -, -, -, positive⟩ := before hf
    exact positive

lemma Placed.insert (placed : inv.Placed player) (valid : inv.placeOf player pos = some place)
    (free : inv.items.lookup place = none) (recorded : item.place = place)
    (positive : 0 < item.count)
    (apart : ∀ place' old, inv.items.lookup place' = some old → old.guid ≠ item.guid) {nextGuid : ℕ}
    (fresh : item.guid < nextGuid) (later : inv.nextGuid ≤ nextGuid) :
    Placed player { inv with items := inv.items.insert place item, nextGuid } := by
  have bagsStay {slot : ℕ} {pBag : Item} (isBag : inv.GetBagByPos player slot = some pBag) :
      GetBagByPos player { inv with items := inv.items.insert place item, nextGuid } slot =
        some pBag := by
    obtain ⟨isSlot, atSlot, kind⟩ := GetBagByPos_eq_some.mp isBag
    refine GetBagByPos_eq_some.mpr
      ⟨isSlot, (Table.lookup_insert_iff ..).mpr (.inr ⟨?_, atSlot⟩), kind⟩
    rintro rfl
    rw [free] at atSlot
    cases atSlot
  constructor
  · intro place' item' hf
    rcases (Table.lookup_insert_iff ..).mp hf with ⟨rfl, rfl⟩ | ⟨-, hf⟩
    · exact recorded
    · exact placed.recorded place' item' hf
  · intro p q a b hf hf' hs
    rcases (Table.lookup_insert_iff ..).mp hf with ⟨rfl, rfl⟩ | ⟨-, old⟩ <;>
      rcases (Table.lookup_insert_iff ..).mp hf' with ⟨rfl, rfl⟩ | ⟨-, old'⟩
    · rfl
    · exact absurd hs.symm (apart q b old')
    · exact absurd hs (apart p a old)
    · exact placed.distinct p q a b old old' hs
  · intro bag i item' hf
    rcases (Table.lookup_insert_iff ..).mp hf with ⟨rfl, rfl⟩ | ⟨-, hf⟩
    · obtain ⟨pBag, isBag, sameBag, -, less⟩ := placeOf_eq_inBag.mp valid
      exact ⟨pos.1, pBag, bagsStay isBag, sameBag, less⟩
    · obtain ⟨slot, pBag, isBag, sameBag, less⟩ := placed.inBags bag i item' hf
      exact ⟨slot, pBag, bagsStay isBag, sameBag, less⟩
  · intro place' item' hf
    rcases (Table.lookup_insert_iff ..).mp hf with ⟨rfl, rfl⟩ | ⟨-, hf⟩
    · exact fresh
    · exact (placed.fresh place' item' hf).trans_le later
  · intro place' item' hf
    rcases (Table.lookup_insert_iff ..).mp hf with ⟨rfl, rfl⟩ | ⟨-, hf⟩
    · exact positive
    · exact placed.positive place' item' hf

/-! ### Destroying an item -/

lemma mem_itemsIn {slots : List ℕ} :
    item ∈ inv.itemsIn slots ↔ ∃ slot ∈ slots, inv.items.lookup (.slot slot) = some item := by
  rw [itemsIn, List.mem_filterMap]

lemma mem_bagItems : item ∈ inv.bagItems player pBag ↔
    ∃ i, i < GetBagSize player pBag ∧ inv.items.lookup (.inBag pBag.guid i) = some item := by
  simp [bagItems]

lemma mem_itemsInBags {slots : List ℕ} : item ∈ inv.itemsInBags player slots ↔
    ∃ slot ∈ slots, ∃ pBag, inv.GetBagByPos player slot = some pBag ∧
      item ∈ inv.bagItems player pBag := by
  rw [itemsInBags, List.mem_flatMap]
  refine exists_congr fun slot => and_congr_right fun _ => ?_
  cases inv.GetBagByPos player slot with
  | none => simp
  | some pBag => simp

lemma place_of_GetItemByGuid {guid : ℕ} (found : inv.GetItemByGuid player guid = some item) :
    ∃ place,
      inv.items.lookup place = some item ∧
      ∀ slot, place = .slot slot → slot < BANK_SLOT_BAG_END := by
  have hm := List.mem_of_find?_eq_some found
  have inSlots {first last : ℕ} (few : last ≤ BANK_SLOT_BAG_END)
      (hm : item ∈ inv.itemsIn (slotsFrom first last)) : ∃ place,
        inv.items.lookup place = some item ∧
        ∀ slot, place = .slot slot → slot < BANK_SLOT_BAG_END := by
    obtain ⟨slot, inRange, here⟩ := mem_itemsIn.mp hm
    refine ⟨.slot slot, here, fun slot' hs => ?_⟩
    rw [← Place.slot.inj hs]
    exact (mem_slotsFrom.mp inRange).2.trans_le few
  have inBags {slots : List ℕ} (hm : item ∈ inv.itemsInBags player slots) : ∃ place,
      inv.items.lookup place = some item ∧
      ∀ slot, place = .slot slot → slot < BANK_SLOT_BAG_END := by
    obtain ⟨slot, -, pBag, -, content⟩ := mem_itemsInBags.mp hm
    obtain ⟨i, -, here⟩ := mem_bagItems.mp content
    exact ⟨_, here, nofun⟩
  simp only [List.mem_append] at hm
  rcases hm with ((own | bank) | bag) | bankBag
  · exact inSlots (by decide) own
  · exact inSlots le_rfl bank
  · exact inBags bag
  · exact inBags bankBag

lemma Placed.erase (placed : inv.Placed player) (here : inv.items.lookup place = some item)
    (empty : ∀ i, inv.items.lookup (.inBag item.guid i) = none) :
    Placed player { inv with items := inv.items.erase place } := by
  have before {place' : Place} {item' : Item}
      (hf : (inv.items.erase place).lookup place' = some item') :
      inv.items.lookup place' = some item' := ((Table.lookup_erase_iff ..).mp hf).2
  constructor
  · exact fun place' item' hf => placed.recorded place' item' (before hf)
  · exact fun p q a b hf hf' => placed.distinct p q a b (before hf) (before hf')
  · intro bag i item' hf
    obtain ⟨slot, pBag, isBag, guid, less⟩ := placed.inBags bag i item' (before hf)
    obtain ⟨isSlot, atSlot, kind⟩ := GetBagByPos_eq_some.mp isBag
    refine ⟨slot, pBag, GetBagByPos_eq_some.mpr ⟨isSlot, ?_, kind⟩, guid, less⟩
    refine (Table.lookup_erase_iff ..).mpr ⟨?_, atSlot⟩
    -- the bag that is erased has nothing in it
    rintro rfl
    obtain rfl := Option.some.inj (here.symm.trans atSlot)
    have content := before hf
    rw [← guid, empty i] at content
    cases content
  · exact fun place' item' hf => placed.fresh place' item' (before hf)
  · exact fun place' item' hf => placed.positive place' item' (before hf)

lemma Placed.content_empty (placed : inv.Placed player) {bag i : ℕ}
    (here : inv.items.lookup (.inBag bag i) = some item) (j : ℕ) :
    inv.items.lookup (.inBag item.guid j) = none := by
  rw [Option.eq_none_iff_forall_not_mem]
  intro content inside
  obtain ⟨slot, pBag, isBag, guid, -⟩ := placed.inBags item.guid j content inside
  obtain ⟨-, atSlot, -⟩ := GetBagByPos_eq_some.mp isBag
  cases placed.distinct _ _ _ _ atSlot here guid

structure Emptied (player : Player) (inv inv' : Inventory) (pBag : Item) (slots : List ℕ) :
    Prop where
  placed : inv'.Placed player
  before : ∀ place item, inv'.items.lookup place = some item → inv.items.lookup place = some item
  others : ∀ slot, inv'.items.lookup (.slot slot) = inv.items.lookup (.slot slot)
  empty : ∀ i ∈ slots, inv'.items.lookup (.inBag pBag.guid i) = none
  total_le : ∀ entry, inv'.total entry ≤ inv.total entry
  total_content : ∀ i ∈ slots, ∀ item, inv.items.lookup (.inBag pBag.guid i) = some item →
    inv'.total item.entry + item.count ≤ inv.total item.entry

lemma Placed.removeContent (placed : inv.Placed player)
    (isBag : inv.GetBagByPos player slot = some pBag) (i : ℕ) :
    Emptied player inv (inv.RemoveItem player (slot, i)) pBag [i] := by
  cases hf : inv.items.lookup (.inBag pBag.guid i) with
  | none =>
    have hs : inv.RemoveItem player (slot, i) = inv := by
      rw [RemoveItem]
      split
      · rfl
      next place here =>
        have nothing : inv.items.lookup place = none := by
          cases place with
          | slot slot' =>
            obtain ⟨isSlot, -⟩ := GetBagByPos_eq_some.mp isBag
            have own := (Prod.mk.inj (placeOf_eq_slot.mp here).1).1
            exact absurd own (ne_of_isBagSlot isSlot)
          | inBag bag j =>
            obtain ⟨pBag', isBag', rfl, rfl, -⟩ := placeOf_eq_inBag.mp here
            obtain rfl := Option.some.inj (isBag.symm.trans isBag')
            exact hf
        rw [Table.erase_of_none _ nothing]
    rw [hs]
    refine ⟨placed, fun _ _ here => here, fun _ => rfl, ?_, fun _ => le_rfl, ?_⟩
    · intro j hm
      rw [List.mem_singleton.mp hm]
      exact hf
    · intro j hm item here
      rw [List.mem_singleton.mp hm, hf] at here
      cases here
  | some item =>
    have inRange : i < GetBagSize player pBag := by
      obtain ⟨slot', pBag', isBag', guid, less⟩ := placed.inBags _ _ _ hf
      obtain ⟨-, rfl⟩ := placed.bag_unique isBag' isBag guid
      exact less
    have here : inv.placeOf player (slot, i) = some (.inBag pBag.guid i) :=
      placeOf_eq_inBag.mpr ⟨pBag, isBag, rfl, rfl, inRange⟩
    have removed : inv.RemoveItem player (slot, i) =
        { inv with items := inv.items.erase (.inBag pBag.guid i) } := by
      rw [RemoveItem, here]
    have counts (entry : ℕ) := Table.total_erase
      (fun _ item => if item.entry = entry then item.count else 0) inv.items _ item hf
    rw [removed]
    refine ⟨placed.erase hf (placed.content_empty hf), ?_, ?_, ?_, ?_, ?_⟩
    · exact fun place item here => ((Table.lookup_erase_iff ..).mp here).2
    · exact fun slot' => AList.lookup_erase_ne (by simp)
    · intro j hm
      rw [List.mem_singleton.mp hm]
      exact AList.lookup_erase ..
    · intro entry
      exact Nat.le.intro (counts entry)
    · intro j hm item' here'
      rw [List.mem_singleton.mp hm, hf, Option.some.injEq] at here'
      subst here'
      have count := counts item.entry
      rw [if_pos rfl] at count
      exact count.le

lemma Placed.removeContents (slots : List ℕ) : ∀ {inv : Inventory},
    inv.Placed player → inv.GetBagByPos player slot = some pBag →
    Emptied player inv
      (slots.foldl (fun inv i => inv.RemoveItem player (slot, i)) inv) pBag slots := by
  induction slots with
  | nil =>
    intro inv placed isBag
    exact ⟨placed, fun _ _ here => here, fun _ => rfl, by simp, fun _ => le_rfl, by simp⟩
  | cons i slots ih =>
    intro inv placed isBag
    have one := placed.removeContent isBag i
    have isBag' : (inv.RemoveItem player (slot, i)).GetBagByPos player slot = some pBag := by
      obtain ⟨isSlot, atSlot, kind⟩ := GetBagByPos_eq_some.mp isBag
      exact GetBagByPos_eq_some.mpr ⟨isSlot, (one.others slot).trans atSlot, kind⟩
    have rest := ih one.placed isBag'
    rw [List.foldl_cons]
    refine ⟨rest.placed, fun place item here => one.before place item (rest.before place item here),
      fun slot => (rest.others slot).trans (one.others slot), ?_, ?_, ?_⟩
    · intro j hm
      rcases List.mem_cons.mp hm with rfl | inRest
      · rw [Option.eq_none_iff_forall_not_mem]
        intro item here
        have absent := one.empty j (List.mem_singleton_self j)
        rw [rest.before _ _ here] at absent
        cases absent
      · exact rest.empty j inRest
    · exact fun entry => (rest.total_le entry).trans (one.total_le entry)
    · intro j hm item here
      by_cases first : j = i
      · subst first
        have removed := one.total_content j (List.mem_singleton_self j) item here
        have less := rest.total_le item.entry
        omega
      · have inRest := (List.mem_cons.mp hm).resolve_left first
        have still : (inv.RemoveItem player (slot, i)).items.lookup (.inBag pBag.guid j) =
            some item := by
          rw [RemoveItem]
          split
          · exact here
          next place place_eq =>
            rw [AList.lookup_erase_ne, here]
            rintro rfl
            obtain ⟨pBag', -, -, hs, -⟩ := placeOf_eq_inBag.mp place_eq
            exact first hs.symm
        have removed := rest.total_content j inRest item still
        have less := one.total_le item.entry
        omega

lemma Placed.slot_of_notEmpty (placed : inv.Placed player)
    (here : inv.items.lookup place = some item) (notEmpty : inv.IsNotEmptyBag player item = true) :
    ∃ slot, place = .slot slot ∧ inv.GetBagByPos player slot = some item ∧
      ∃ i < GetBagSize player item, ∃ content,
        inv.items.lookup (.inBag item.guid i) = some content := by
  rw [IsNotEmptyBag, Bool.and_eq_true, Bool.not_eq_true'] at notEmpty
  have some : inv.bagItems player item ≠ [] := by simpa using notEmpty.2
  obtain ⟨content, hm⟩ := List.exists_mem_of_ne_nil _ some
  obtain ⟨i, inRange, inside⟩ := mem_bagItems.mp hm
  obtain ⟨slot, pBag, isBag, guid, -⟩ := placed.inBags item.guid i content inside
  obtain ⟨-, atSlot, -⟩ := GetBagByPos_eq_some.mp isBag
  obtain rfl := placed.distinct _ _ _ _ atSlot here guid
  obtain rfl := Option.some.inj (atSlot.symm.trans here)
  exact ⟨slot, rfl, isBag, i, inRange, content, inside⟩

lemma Placed.empty_of_not (placed : inv.Placed player) (here : inv.items.lookup place = some item)
    (empty : inv.IsNotEmptyBag player item = false) (i : ℕ) :
    inv.items.lookup (.inBag item.guid i) = none := by
  rw [Option.eq_none_iff_forall_not_mem]
  intro content inside
  obtain ⟨slot, pBag, isBag, guid, less⟩ := placed.inBags item.guid i content inside
  obtain ⟨-, atSlot, kind⟩ := GetBagByPos_eq_some.mp isBag
  obtain rfl := placed.distinct _ _ _ _ atSlot here guid
  obtain rfl := Option.some.inj (atSlot.symm.trans here)
  have hm : content ∈ inv.bagItems player pBag := mem_bagItems.mpr ⟨i, less, inside⟩
  simp only [IsNotEmptyBag, kind, Bool.true_and, Bool.not_eq_false', List.isEmpty_iff] at empty
  rw [empty] at hm
  cases hm

structure Destroyed (player : Player) (inv inv' : Inventory) (item : Item) : Prop where
  placed : inv'.Placed player
  taken : ∀ entry, inv'.total entry + (if item.entry = entry then item.count else 0) ≤
    inv.total entry
  exact_of_empty : inv.IsNotEmptyBag player item = false → ∀ entry,
    inv'.total entry + (if item.entry = entry then item.count else 0) = inv.total entry
  lost_of_notEmpty : inv.IsNotEmptyBag player item = true → ∃ entry,
    inv'.total entry + (if item.entry = entry then item.count else 0) < inv.total entry

lemma DestroyItem_spec (placed : inv.Placed player) (here : inv.items.lookup place = some item)
    (inRange : ∀ slot, place = .slot slot → slot < BANK_SLOT_BAG_END) :
    Destroyed player inv
      (inv.DestroyItem player (inv.GetBagSlot player item, item.m_slot)) item := by
  have position := placed.placeOf_item here inRange
  rw [DestroyItem, (GetItemByPos_of_placeOf position).trans here]
  dsimp only
  cases notEmpty : inv.IsNotEmptyBag player item with
  | false =>
    rw [if_neg (by simp), RemoveItem, position]
    have counts (entry : ℕ) := Table.total_erase
      (fun _ item => if item.entry = entry then item.count else 0) inv.items _ item here
    refine ⟨placed.erase here (placed.empty_of_not here notEmpty), fun entry => (counts entry).le,
      fun _ => counts, fun contra => ?_⟩
    rw [notEmpty] at contra
    cases contra
  | true =>
    rw [if_pos rfl]
    obtain ⟨slot, rfl, isBag, i, less, content, inside⟩ := placed.slot_of_notEmpty here notEmpty
    obtain ⟨pos_eq, -⟩ := placeOf_eq_slot.mp position
    obtain ⟨own, index⟩ := Prod.mk.inj pos_eq
    rw [own, index]
    have emptied := placed.removeContents (List.range MAX_BAG_SIZE) isBag
    set inv' := (List.range MAX_BAG_SIZE).foldl (fun inv i => inv.RemoveItem player (slot, i)) inv
    have here' : inv'.items.lookup (.slot slot) = some item := (emptied.others slot).trans here
    have position' : inv'.placeOf player (INVENTORY_SLOT_BAG_0, slot) = some (.slot slot) :=
      placeOf_eq_slot.mpr ⟨rfl, inRange slot rfl⟩
    rw [RemoveItem, position']
    have size : GetBagSize player item ≤ MAX_BAG_SIZE := player.bagSizes item.entry
    have empty (j : ℕ) : inv'.items.lookup (.inBag item.guid j) = none := by
      rw [Option.eq_none_iff_forall_not_mem]
      intro other there
      obtain ⟨slot', pBag, isBag', guid, less'⟩ :=
        placed.inBags item.guid j other (emptied.before _ _ there)
      obtain ⟨-, rfl⟩ := placed.bag_unique isBag' isBag guid
      rw [Option.mem_def, emptied.empty j (List.mem_range.mpr (less'.trans_le size))] at there
      cases there
    have counts (entry : ℕ) := Table.total_erase
      (fun _ item => if item.entry = entry then item.count else 0) inv'.items _ item here'
    refine ⟨emptied.placed.erase here' empty, ?_, ?_, fun _ => ⟨content.entry, ?_⟩⟩
    · exact fun entry => (counts entry).le.trans (emptied.total_le entry)
    · intro contra
      rw [notEmpty] at contra
      cases contra
    · have gone := emptied.total_content i (List.mem_range.mpr (less.trans_le size)) content inside
      have some := placed.positive _ _ inside
      refine (counts content.entry).trans_lt ?_
      rw [total] at gone
      omega

end Inventory

end WorldServer.Items
