import WorldServer.Looting.LootMgr

/-!
# Slots and lists

What the operations on a loot change, what is found in a slot, and how the lists of a player come
to be filled.
-/
namespace WorldServer.Looting

open WorldServer.Lib WorldServer.Conditions

/-! ### What the operations change -/

variable {guid : ℕ} {kind : ListKind}

namespace Loot

section Operations

variable (loot : Loot)

@[simp] lemma item?_modifyItem (place place' : Place) (f : LootItem → LootItem) :
    (loot.modifyItem place f).item? place' =
      if place' = place then (loot.item? place').map f else loot.item? place' := by
  cases place <;> cases place' <;> simp only [modifyItem, item?, List.getElem?_modify] <;>
    grind [Option.map_id]

@[simp] lemma entries_modifyItem (place : Place) (f : LootItem → LootItem) (kind : ListKind)
    (guid : ℕ) : (loot.modifyItem place f).entries kind guid = loot.entries kind guid := by
  cases place <;> rfl

@[simp] lemma lists_modifyItem (place : Place) (f : LootItem → LootItem) :
    (loot.modifyItem place f).lists = loot.lists := by
  cases place <;> rfl

@[simp] lemma item?_setEntries (kind : ListKind) (guid : ℕ) (entries : List QuestItem)
    (place : Place) : (loot.setEntries kind guid entries).item? place = loot.item? place := by
  cases place <;> rfl

@[simp] lemma entries_setEntries (kind kind' : ListKind) (guid guid' : ℕ)
    (entries : List QuestItem) : (loot.setEntries kind guid entries).entries kind' guid' =
      if kind' = kind ∧ guid' = guid then entries else loot.entries kind' guid' := by
  rw [setEntries, Loot.entries]
  by_cases sameKind : kind' = kind
  · subst sameKind
    by_cases sameGuid : guid' = guid
    · subst sameGuid
      simp [AList.lookup_insert]
    · simp [AList.lookup_insert_ne sameGuid, sameGuid, Loot.entries]
  · simp [sameKind, Loot.entries]

lemma lookup_setEntries {kind' : ListKind} {guid' : ℕ} {entries : List QuestItem}
    (other : ¬ (kind' = kind ∧ guid' = guid)) :
    ((loot.setEntries kind guid entries).lists kind').lookup guid' =
      (loot.lists kind').lookup guid' := by
  rw [setEntries]
  by_cases sameKind : kind' = kind
  · subst sameKind
    have otherGuid : guid' ≠ guid := fun sameGuid => other ⟨rfl, sameGuid⟩
    simp [AList.lookup_insert_ne otherGuid]
  · simp [sameKind]

@[simp] lemma item?_lootEntry (guid : ℕ) (entry : Option (ListKind × ℕ)) (place : Place) :
    (loot.lootEntry guid entry).item? place = loot.item? place := by
  cases entry with
  | none => rfl
  | some entry => exact loot.item?_setEntries ..

end Operations

end Loot

def LootItem.nature (item : LootItem) : ℕ × List Condition × Bool × Bool × Bool :=
  (item.itemid, item.conditions, item.freeforall, item.needs_quest, item.follow_loot_rules)

def LootItem.listKind (item : LootItem) : Option ListKind :=
  if item.freeforall then some .ffa else if !item.conditions.isEmpty then some .conditional
  else none

lemma LootItem.listKind_of_nature {item item' : LootItem} (hs : item'.nature = item.nature) :
    item'.listKind = item.listKind := by
  simp only [nature, Prod.mk.injEq] at hs
  rw [listKind, listKind, hs.2.1, hs.2.2.1]

lemma LootItem.listKind_ne_quest (item : LootItem) : item.listKind ≠ some .quest := by
  rw [listKind]
  split_ifs <;> simp

lemma LootItem.listKind_eq_ffa {item : LootItem} :
    item.listKind = some .ffa ↔ item.freeforall = true := by
  rw [listKind]
  cases item.freeforall <;> simp

variable {lootSlot : ℕ}

namespace Loot

/-- The same items and the same lists, with other marks. -/
structure Later (loot loot' : Loot) : Prop where
  items : ∀ place, (loot'.item? place).map LootItem.nature = (loot.item? place).map LootItem.nature
  entries : ∀ kind guid,
    (loot'.entries kind guid).map QuestItem.index = (loot.entries kind guid).map QuestItem.index

def Listed (loot : Loot) (kind : ListKind) (guid i : ℕ) : Prop :=
  i ∈ (loot.entries kind guid).map QuestItem.index

/-- The lists of a player are about items of their kind, and each item comes once. -/
structure WellListed (loot : Loot) : Prop where
  distinct : ∀ kind guid, ((loot.entries kind guid).map QuestItem.index).Nodup
  normal : ∀ kind guid i, kind ≠ .quest → loot.Listed kind guid i →
    ∃ item, loot.items[i]? = some item ∧ item.listKind = some kind
  quest : ∀ guid i, loot.Listed .quest guid i → ∃ item, loot.quest_items[i]? = some item

/-- A player is shown no more items than there is room for. -/
def Sized (loot : Loot) : Prop :=
  ∀ guid, loot.items.length + (loot.entries .quest guid).length ≤ MAX_NR_LOOT_ITEMS

variable {i : ℕ}

section Later

variable {loot loot' : Loot}

lemma length_of_nature (nature : ∀ place, (loot'.item? place).map LootItem.nature =
    (loot.item? place).map LootItem.nature) : loot'.items.length = loot.items.length := by
  have hs : loot'.items.map LootItem.nature = loot.items.map LootItem.nature := by
    refine List.ext_getElem? fun i => ?_
    rw [List.getElem?_map, List.getElem?_map]
    exact nature (.normal i)
  simpa using congrArg List.length hs

lemma Later.refl (loot : Loot) : Later loot loot := ⟨fun _ => rfl, fun _ _ => rfl⟩

lemma Later.trans {a b c : Loot} (first : Later a b) (second : Later b c) : Later a c :=
  ⟨fun place => (second.items place).trans (first.items place),
    fun kind guid => (second.entries kind guid).trans (first.entries kind guid)⟩

section

variable (later : Later loot loot')
include later

lemma Later.symm : Later loot' loot :=
  ⟨fun place => (later.items place).symm, fun kind guid => (later.entries kind guid).symm⟩

lemma Later.listed : loot'.Listed kind guid i ↔ loot.Listed kind guid i := by
  rw [Listed, Listed, later.entries]

lemma Later.item {item : LootItem} (place : Place) (found : loot.item? place = some item) :
    ∃ item', loot'.item? place = some item' ∧ item'.nature = item.nature := by
  have hs := later.items place
  rw [found, Option.map_some] at hs
  exact Option.map_eq_some_iff.mp hs

lemma Later.item_back {item' : LootItem} (place : Place) (found : loot'.item? place = some item') :
    ∃ item, loot.item? place = some item ∧ item'.nature = item.nature := by
  obtain ⟨item, here, nature⟩ := later.symm.item place found
  exact ⟨item, here, nature.symm⟩

lemma Later.wellListed (well : WellListed loot) : WellListed loot' := by
  constructor
  · intro kind guid
    rw [later.entries]
    exact well.distinct kind guid
  · intro kind guid i other listed
    obtain ⟨item, found, tracked⟩ := well.normal kind guid i other (later.listed.mp listed)
    obtain ⟨item', found', nature⟩ := later.item (.normal i) found
    exact ⟨item', found', (LootItem.listKind_of_nature nature).trans tracked⟩
  · intro guid i listed
    obtain ⟨item, found⟩ := well.quest guid i (later.listed.mp listed)
    obtain ⟨item', found', -⟩ := later.item (.quest i) found
    exact ⟨item', found'⟩

lemma Later.sized (sized : Sized loot) : Sized loot' := by
  intro guid
  have entries := congrArg List.length (later.entries .quest guid)
  rw [List.length_map, List.length_map] at entries
  rw [length_of_nature later.items, entries]
  exact sized guid

end

lemma later_modifyItem (loot : Loot) (place : Place) {f : LootItem → LootItem}
    (nature : ∀ item, (f item).nature = item.nature) : Later loot (loot.modifyItem place f) := by
  constructor
  · intro place'
    rw [item?_modifyItem]
    split
    · rw [Option.map_map]
      exact congrArg (Option.map · (loot.item? place')) (funext nature)
    · rfl
  · exact fun kind guid => by rw [entries_modifyItem]

lemma map_index_modify (entries : List QuestItem) (k : ℕ) :
    (entries.modify k fun entry => { entry with is_looted := true }).map QuestItem.index =
      entries.map QuestItem.index := by
  refine List.ext_getElem? fun i => ?_
  rw [List.getElem?_map, List.getElem?_map, List.getElem?_modify]
  cases entries[i]? with
  | none => rfl
  | some entry =>
    split
    · rfl
    · rfl

lemma later_lootEntry (loot : Loot) (guid : ℕ) (entry : Option (ListKind × ℕ)) :
    Later loot (loot.lootEntry guid entry) := by
  constructor
  · exact fun place => by rw [item?_lootEntry]
  · intro kind guid'
    cases entry with
    | none => rfl
    | some entry =>
      rw [lootEntry, entries_setEntries]
      split
      next hs =>
        rw [map_index_modify, hs.1, hs.2]
      next => rfl

end Later

/-! ### What is in a slot -/

/-- What a player finds in a slot: an item that a list of his has, or one that no list of his is
about. -/
inductive InSlot (loot : Loot) (guid lootSlot : ℕ) : SlotItem → Prop
  | quest {k : ℕ} {item : LootItem} {entry : QuestItem} (slot : lootSlot = loot.items.length + k)
      (listed : (loot.entries .quest guid)[k]? = some entry) (left : entry.is_looted = false)
      (here : loot.quest_items[entry.index]? = some item) :
      InSlot loot guid lootSlot ⟨.quest entry.index, item, some (.quest, k)⟩
  | listed {kind : ListKind} {k : ℕ} {item : LootItem} {entry : QuestItem}
      (here : loot.items[lootSlot]? = some item) (tracked : item.listKind = some kind)
      (listed : (loot.entries kind guid)[k]? = some entry) (index : entry.index = lootSlot)
      (left : entry.is_looted = false) :
      InSlot loot guid lootSlot ⟨.normal lootSlot, item, some (kind, k)⟩
  | unlisted {item : LootItem} (here : loot.items[lootSlot]? = some item)
      (left : item.is_looted = false)
      (unlisted : ∀ kind, item.listKind = some kind → ¬ loot.Listed kind guid lootSlot) :
      InSlot loot guid lootSlot ⟨.normal lootSlot, item, none⟩

variable {loot : Loot} {found : SlotItem}

lemma inSlot_of_slotItemIn {item : LootItem} (here : loot.items[lootSlot]? = some item)
    (tracked : item.listKind = some kind)
    (slotItem : loot.slotItemIn kind lootSlot item guid = some found) :
    InSlot loot guid lootSlot found := by
  rw [slotItemIn] at slotItem
  split at slotItem
  next none =>
    split at slotItem
    · cases slotItem
    next left =>
      obtain rfl := Option.some.inj slotItem
      refine .unlisted here (by simpa using left) fun kind' hs listed => ?_
      obtain rfl := Option.some.inj (tracked.symm.trans hs)
      obtain ⟨entry, hm, index⟩ := List.mem_map.mp listed
      have absent := List.findIdx?_eq_none_iff.mp none entry hm
      simp [index] at absent
  next k first =>
    split at slotItem
    · cases slotItem
    next entry listed =>
      split at slotItem
      · cases slotItem
      next left =>
        obtain rfl := Option.some.inj slotItem
        obtain ⟨lt, index, -⟩ := List.findIdx?_eq_some_iff_getElem.mp first
        rw [List.getElem?_eq_getElem lt, Option.some.injEq] at listed
        subst listed
        exact .listed here tracked (List.getElem?_eq_getElem lt) (by simpa using index)
          (by simpa using left)

lemma inSlot_of_LootItemInSlot (inSlot : loot.LootItemInSlot lootSlot guid = some found) :
    InSlot loot guid lootSlot found := by
  rw [LootItemInSlot] at inSlot
  split at inSlot
  next beyond =>
    have beyond := List.getElem?_eq_none_iff.mp beyond
    dsimp only at inSlot
    split at inSlot
    · cases inSlot
    next entry listed =>
      split at inSlot
      · cases inSlot
      next item here =>
        split at inSlot
        · cases inSlot
        next left =>
          obtain rfl := Option.some.inj inSlot
          exact .quest (by omega) listed (by simpa using left) here
  next item here =>
    split at inSlot
    next free =>
      exact inSlot_of_slotItemIn here (LootItem.listKind_eq_ffa.mpr free) inSlot
    next notFree =>
      split at inSlot
      next conditional =>
        refine inSlot_of_slotItemIn here ?_ inSlot
        rw [LootItem.listKind, if_neg notFree, if_pos conditional]
      next plain =>
        split at inSlot
        · cases inSlot
        next left =>
          obtain rfl := Option.some.inj inSlot
          refine .unlisted here (by simpa using left) fun kind tracked => ?_
          rw [LootItem.listKind, if_neg notFree, if_neg plain] at tracked
          cases tracked

lemma InSlot.item_eq (inSlot : InSlot loot guid lootSlot found) :
    loot.item? found.place = some found.item := by
  cases inSlot with
  | quest slot listed left here => exact here
  | listed here tracked listed index left => exact here
  | unlisted here left unlisted => exact here

lemma findIdx?_entries (well : loot.WellListed) {k : ℕ} {entry : QuestItem}
    (listed : (loot.entries kind guid)[k]? = some entry) :
    ((loot.entries kind guid).findIdx? fun other => other.index = entry.index) = some k := by
  obtain ⟨lt, here⟩ := List.getElem?_eq_some_iff.mp listed
  refine List.findIdx?_eq_some_iff_getElem.mpr ⟨lt, by simp [here], fun j less => ?_⟩
  have distinct := well.distinct kind guid
  simp only [decide_eq_true_eq]
  intro hs
  have left : ((loot.entries kind guid).map QuestItem.index)[j]? = some entry.index := by
    rw [List.getElem?_map, List.getElem?_eq_getElem (less.trans lt), Option.map_some, hs]
  have right : ((loot.entries kind guid).map QuestItem.index)[k]? = some entry.index := by
    rw [List.getElem?_map, listed, Option.map_some]
  obtain ⟨inRange, -⟩ := List.getElem?_eq_some_iff.mp left
  exact absurd ((List.getElem?_inj inRange distinct).mp (left.trans right.symm)) less.ne

lemma LootItemInSlot_of_listKind {item : LootItem} (here : loot.items[lootSlot]? = some item)
    (tracked : item.listKind = some kind) :
    loot.LootItemInSlot lootSlot guid = loot.slotItemIn kind lootSlot item guid := by
  rw [LootItemInSlot, here]
  dsimp only
  rw [LootItem.listKind] at tracked
  split at tracked
  next ffa =>
    obtain rfl := Option.some.inj tracked
    rw [if_pos ffa]
  next notFree =>
    split at tracked
    next conditional =>
      obtain rfl := Option.some.inj tracked
      rw [if_neg notFree, if_pos conditional]
    next => cases tracked

lemma LootItemInSlot_of_inSlot (well : loot.WellListed) (inSlot : InSlot loot guid lootSlot found) :
    loot.LootItemInSlot lootSlot guid = some found := by
  cases inSlot with
  | @quest k item entry slot listed left here =>
    subst slot
    rw [LootItemInSlot, List.getElem?_eq_none (by omega)]
    dsimp only
    rw [Nat.add_sub_cancel_left, listed]
    dsimp only
    rw [here]
    simp [left]
  | @listed kind k item entry here tracked listed index left =>
    subst index
    rw [LootItemInSlot_of_listKind here tracked, slotItemIn, findIdx?_entries well listed]
    dsimp only
    rw [listed]
    simp [left]
  | @unlisted item here left unlisted =>
    cases tracked : item.listKind with
    | some kind =>
      have absent :
          ((loot.entries kind guid).findIdx? fun entry => entry.index = lootSlot) = none := by
        refine List.findIdx?_eq_none_iff.mpr fun entry hm => ?_
        simp only [decide_eq_false_iff_not]
        exact fun index => unlisted kind tracked (List.mem_map.mpr ⟨entry, hm, index⟩)
      rw [LootItemInSlot_of_listKind here tracked, slotItemIn, absent]
      simp [left]
    | none =>
      rw [LootItem.listKind] at tracked
      rw [LootItemInSlot, here]
      dsimp only
      split_ifs at tracked with ffa conditional
      rw [if_neg ffa, if_neg conditional]
      simp [left]

/-! ### Filling a list -/

def enterAt (listing : Listing) (loot : Loot) (i : ℕ) : Loot :=
  match loot.item? (listing.kind.place i) with
  | none => loot
  | some item => loot.enter listing item i

lemma place_injective (kind : ListKind) : Function.Injective kind.place := by
  intro i j hs
  cases kind <;> simpa [ListKind.place] using hs

lemma item?_enter_of_ne (listing : Listing) (loot : Loot) (item : LootItem) {place : Place}
    (other : place ≠ listing.kind.place i) :
    (loot.enter listing item i).item? place = loot.item? place := by
  change (loot.modifyItem (listing.kind.place i) listing.mark).item? place = _
  rw [item?_modifyItem, if_neg other]

lemma item?_enterAt_of_ne (listing : Listing) (loot : Loot) {place : Place}
    (other : place ≠ listing.kind.place i) :
    (loot.enterAt listing i).item? place = loot.item? place := by
  rw [enterAt]
  split
  · rfl
  · exact item?_enter_of_ne listing loot _ other

structure Filled (listing : Listing) (loot : Loot) (numbers : List ℕ) (taken : List ℕ) : Prop where
  sublist : taken.Sublist numbers
  takes : ∀ i ∈ taken, ∃ item, loot.item? (listing.kind.place i) = some item ∧
    listing.takes item = true
  all : listing.limit = none → ∀ i ∈ numbers, ∀ item,
    loot.item? (listing.kind.place i) = some item → listing.takes item = true → i ∈ taken

lemma Filled.skip {listing : Listing} {numbers taken : List ℕ}
    (filled : Filled listing loot numbers taken)
    (refused : ∀ item, loot.item? (listing.kind.place i) = some item → listing.takes item = false) :
    Filled listing loot (i :: numbers) taken := by
  refine ⟨filled.sublist.cons i, filled.takes, fun noLimit j hm item here takes => ?_⟩
  rcases List.mem_cons.mp hm with rfl | rest
  · rw [refused item here] at takes
    cases takes
  · exact filled.all noLimit j rest item here takes

lemma fillFrom_spec (listing : Listing) (numbers : List ℕ) :
    ∀ (loot : Loot) (ql : List QuestItem), numbers.Nodup → ∃ taken,
      Filled listing loot numbers taken ∧ fillFrom listing numbers loot ql =
        (taken.foldl (enterAt listing) loot, ql ++ taken.map fun i => ⟨i, false⟩) ∧
      ∀ n, listing.limit = some n → ql.length < n → ql.length + taken.length ≤ n := by
  induction numbers with
  | nil =>
    intro loot ql nodup
    refine ⟨[], ⟨List.Sublist.refl _, by simp, by simp⟩, by simp [fillFrom], fun n _ less => ?_⟩
    exact less.le
  | cons i rest ih =>
    intro loot ql nodup
    obtain ⟨fresh, nodup⟩ := List.nodup_cons.mp nodup
    rw [fillFrom]
    split
    next none =>
      obtain ⟨taken, filled, result, bound⟩ := ih loot ql nodup
      exact ⟨taken, filled.skip fun item here => by simp [none] at here, result, bound⟩
    next item here =>
      split
      swap
      next refused =>
        obtain ⟨taken, filled, result, bound⟩ := ih loot ql nodup
        refine ⟨taken, filled.skip fun item' here' => ?_, result, bound⟩
        rw [here, Option.some.injEq] at here'
        subst here'
        simpa using refused
      next takes =>
        have entered : loot.enterAt listing i = loot.enter listing item i := by
          rw [enterAt, here]
        dsimp only
        split
        next full =>
          refine ⟨[i], ⟨?_, ?_, ?_⟩, ?_, ?_⟩
          · exact List.singleton_sublist.mpr (List.mem_cons_self ..)
          · intro j hm
            obtain rfl := List.mem_singleton.mp hm
            exact ⟨item, here, takes⟩
          · intro noLimit
            rw [noLimit] at full
            cases full
          · rw [List.foldl_cons, List.foldl_nil, entered]
            rfl
          · intro n limit less
            rw [List.length_singleton]
            omega
        next room =>
          -- what has come into the list does not change the items that follow
          obtain ⟨taken, filled, result, bound⟩ := ih (loot.enter listing item i)
            (ql ++ [⟨i, false⟩]) nodup
          have later {j : ℕ} (hm : j ∈ rest) :
              (loot.enter listing item i).item? (listing.kind.place j) =
                loot.item? (listing.kind.place j) :=
            item?_enter_of_ne listing loot item fun hs =>
              fresh (place_injective listing.kind hs ▸ hm)
          refine ⟨i :: taken, ⟨filled.sublist.cons_cons i, ?_, ?_⟩, ?_, ?_⟩
          · intro j hm
            rcases List.mem_cons.mp hm with rfl | inRest
            · exact ⟨item, here, takes⟩
            · obtain ⟨item', here', takes'⟩ := filled.takes j inRest
              exact ⟨item', (later (filled.sublist.subset inRest)).symm.trans here', takes'⟩
          · intro noLimit j hm item' here' takes'
            rcases List.mem_cons.mp hm with rfl | inRest
            · exact List.mem_cons_self ..
            · exact List.mem_cons_of_mem _
                (filled.all noLimit j inRest item' ((later inRest).trans here') takes')
          · rw [result, List.foldl_cons, entered, List.append_assoc]
            rfl
          · intro n limit less
            have next := bound n limit (by
              rw [limit, Option.some.injEq] at room
              simp only [List.length_append, List.length_singleton] at room ⊢
              omega)
            simp only [List.length_append, List.length_cons, List.length_nil] at next ⊢
            omega

structure Listing.Keeps (listing : Listing) : Prop where
  nature : ∀ item, (listing.mark item).nature = item.nature
  is_looted : ∀ item, (listing.mark item).is_looted = item.is_looted
  count : ∀ item, (listing.mark item).count = item.count

@[simp] lemma lists_enterAt (listing : Listing) (loot : Loot) (i : ℕ) :
    (loot.enterAt listing i).lists = loot.lists := by
  rw [enterAt]
  split
  · rfl
  · exact lists_modifyItem ..

lemma item?_enterAt_self (listing : Listing) (loot : Loot) (i : ℕ) :
    (loot.enterAt listing i).item? (listing.kind.place i) =
      (loot.item? (listing.kind.place i)).map listing.mark := by
  rw [enterAt]
  split
  next none => rw [none, Option.map_none]
  next item here =>
    change (loot.modifyItem (listing.kind.place i) listing.mark).item? (listing.kind.place i) = _
    rw [item?_modifyItem, if_pos rfl]

lemma lists_entered (listing : Listing) (taken : List ℕ) (loot : Loot) :
    (taken.foldl (enterAt listing) loot).lists = loot.lists := by
  induction taken generalizing loot with
  | nil => rfl
  | cons i taken ih => rw [List.foldl_cons, ih, lists_enterAt]

lemma item?_entered (listing : Listing) (taken : List ℕ) (nodup : taken.Nodup) (loot : Loot)
    (place : Place) : (taken.foldl (enterAt listing) loot).item? place =
      if ∃ i ∈ taken, place = listing.kind.place i then (loot.item? place).map listing.mark
      else loot.item? place := by
  induction taken generalizing loot with
  | nil => simp
  | cons i taken ih =>
    obtain ⟨fresh, nodup⟩ := List.nodup_cons.mp nodup
    rw [List.foldl_cons, ih nodup]
    by_cases here : place = listing.kind.place i
    · subst here
      have once : ¬ ∃ j ∈ taken, listing.kind.place i = listing.kind.place j := by
        rintro ⟨j, hm, hs⟩
        exact fresh (place_injective listing.kind hs ▸ hm)
      rw [if_neg once, item?_enterAt_self, if_pos ⟨i, List.mem_cons_self .., rfl⟩]
    · rw [item?_enterAt_of_ne listing loot here]
      simp [here]

/-- What comes of a loot when a player who has no list gets one. -/
structure Gets (loot : Loot) (listing : Listing) (guid size : ℕ) (loot' : Loot) (taken : List ℕ) :
    Prop where
  filled : Filled listing loot (List.range size) taken
  entries : ∀ kind guid', loot'.entries kind guid' =
    if kind = listing.kind ∧ guid' = guid then taken.map fun i => ⟨i, false⟩
    else loot.entries kind guid'
  lookup : ∀ kind guid', ¬ (kind = listing.kind ∧ guid' = guid) →
    (loot'.lists kind).lookup guid' = (loot.lists kind).lookup guid'
  items : ∀ place, loot'.item? place = (taken.foldl (enterAt listing) loot).item? place
  unlootedCount : loot'.unlootedCount = (taken.foldl (enterAt listing) loot).unlootedCount
  limit : ∀ n, listing.limit = some n → 0 < n → taken.length ≤ n

lemma gets_fillList (loot : Loot) (listing : Listing) (size guid : ℕ)
    (absent : (loot.lists listing.kind).lookup guid = none) :
    ∃ taken, Gets loot listing guid size (loot.fillList listing size guid) taken := by
  obtain ⟨taken, filled, result, bound⟩ :=
    fillFrom_spec listing (List.range size) loot [] List.nodup_range
  have lists := lists_entered listing taken loot
  have entries (kind : ListKind) (guid' : ℕ) :
      (taken.foldl (enterAt listing) loot).entries kind guid' = loot.entries kind guid' := by
    rw [Loot.entries, lists]
    rfl
  refine ⟨taken, filled, ?_, ?_, ?_, ?_, fun n limit less => by simpa using bound n limit less⟩
  · intro kind guid'
    rw [fillList, result]
    split
    next empty =>
      rw [entries]
      split
      next hs =>
        have none : taken = [] := by simpa using empty
        rw [none, Loot.entries, hs.1, hs.2, absent]
        rfl
      next => rfl
    next => rw [entries_setEntries, entries]; rfl
  · intro kind guid' other
    rw [fillList, result]
    split
    · rw [lists]
    · rw [lookup_setEntries _ other, lists]
  · intro place
    rw [fillList, result]
    split
    · rfl
    · rw [item?_setEntries]
  · rw [fillList, result]
    split
    · rfl
    · rfl

end Loot

/-! ### Taking and giving -/

@[simp] lemma Loot.unlootedCount_modifyItem (loot : Loot) (place : Place)
    (f : LootItem → LootItem) : (loot.modifyItem place f).unlootedCount = loot.unlootedCount := by
  cases place <;> rfl

@[simp] lemma Loot.gold_modifyItem (loot : Loot) (place : Place) (f : LootItem → LootItem) :
    (loot.modifyItem place f).gold = loot.gold := by
  cases place <;> rfl

lemma Loot.getElem?_entries_lootEntry (loot : Loot) (guid guid' : ℕ)
    (entry : Option (ListKind × ℕ)) (kind : ListKind) (j : ℕ) :
    ((loot.lootEntry guid entry).entries kind guid')[j]? =
      ((loot.entries kind guid')[j]?).map fun e =>
        if guid' = guid ∧ entry = some (kind, j) then { e with is_looted := true } else e := by
  cases entry with
  | none => simp [lootEntry]
  | some entry =>
    rw [lootEntry, entries_setEntries]
    by_cases hs : kind = entry.1 ∧ guid' = guid
    · rw [if_pos hs, List.getElem?_modify, hs.1, hs.2]
      by_cases here : entry.2 = j
      · simp [here, Prod.ext_iff]
      · simp [here, Prod.ext_iff]
    · rw [if_neg hs]
      have other : ¬ (guid' = guid ∧ some entry = some (kind, j)) := by
        rintro ⟨guids, entries⟩
        obtain rfl := Option.some.inj entries
        exact hs ⟨rfl, guids⟩
      cases (loot.entries kind guid')[j]? with
      | none => rfl
      | some e => rw [Option.map_some, if_neg other]

@[simp] lemma Loot.unlootedCount_lootEntry (loot : Loot) (guid : ℕ)
    (entry : Option (ListKind × ℕ)) :
    (loot.lootEntry guid entry).unlootedCount = loot.unlootedCount := by
  cases entry <;> rfl

@[simp] lemma Loot.gold_lootEntry (loot : Loot) (guid : ℕ) (entry : Option (ListKind × ℕ)) :
    (loot.lootEntry guid entry).gold = loot.gold := by
  cases entry <;> rfl

structure Takes (s s' : State) (player : Player) (lootSlot : ℕ) (found : Loot.SlotItem) : Prop where
  inSlot : s.loot.InSlot player.guid lootSlot found
  items : ∀ place, s'.loot.item? place =
    if place = found.place ∧ found.item.freeforall = false then
      (s.loot.item? place).map fun item => { item with is_looted := true }
    else s.loot.item? place
  entries : ∀ kind guid j, (s'.loot.entries kind guid)[j]? =
    ((s.loot.entries kind guid)[j]?).map fun entry =>
      if guid = player.guid ∧ found.entry = some (kind, j) then { entry with is_looted := true }
      else entry
  given : s'.given = if found.item.count = 0 then s.given
    else ⟨found.place, player.guid⟩ :: s.given
  unlootedCount : s'.loot.unlootedCount = s.loot.unlootedCount - 1
  gold : s'.loot.gold = s.loot.gold

lemma takes_StoreLootItem (s : State) (player : Player) (lootSlot : ℕ) {found : Loot.SlotItem}
    (inSlot : s.loot.LootItemInSlot lootSlot player.guid = some found)
    (can : State.canLoot player found = true) :
    Takes s (s.StoreLootItem player lootSlot) player lootSlot found := by
  rw [State.StoreLootItem, inSlot]
  dsimp only
  rw [if_pos can]
  refine ⟨Loot.inSlot_of_LootItemInSlot inSlot, ?_, ?_, rfl, ?_, ?_⟩
  · intro place
    change Loot.item? (if _ then _ else _) place = _
    split
    next free => simp [free]
    next single =>
      simp [single]
  · intro kind guid j
    change (Loot.entries (if _ then _ else _) kind guid)[j]? = _
    split
    · exact Loot.getElem?_entries_lootEntry ..
    · rw [Loot.entries_modifyItem]
      exact Loot.getElem?_entries_lootEntry ..
  · cases free : found.item.freeforall <;> simp [State.hand]
  · cases free : found.item.freeforall <;> simp [State.hand]

lemma StoreLootItem_of_none {s : State} {player : Player}
    (none : ∀ found, s.loot.LootItemInSlot lootSlot player.guid = some found →
      State.canLoot player found = false) : s.StoreLootItem player lootSlot = s := by
  rw [State.StoreLootItem]
  cases inSlot : s.loot.LootItemInSlot lootSlot player.guid with
  | none => rfl
  | some found => exact if_neg (by simp [none found inSlot])

lemma StoreLootItem_cases (s : State) (player : Player) (lootSlot : ℕ) :
    s.StoreLootItem player lootSlot = s ∨ ∃ found,
      s.loot.LootItemInSlot lootSlot player.guid = some found ∧
      Takes s (s.StoreLootItem player lootSlot) player lootSlot found := by
  by_cases some : ∃ found, s.loot.LootItemInSlot lootSlot player.guid = some found ∧
      State.canLoot player found = true
  · obtain ⟨found, inSlot, can⟩ := some
    exact .inr ⟨found, inSlot, takes_StoreLootItem s player lootSlot inSlot can⟩
  · refine .inl (StoreLootItem_of_none fun found inSlot => ?_)
    by_contra can
    exact some ⟨found, inSlot, by simpa using can⟩

/-- The master looter gives away what is in a slot, and nothing is left of it. -/
structure Gives (s s' : State) (target : Player) (place : Place) (item : LootItem) : Prop where
  here : s.loot.item? place = some item
  items : ∀ place', s'.loot.item? place' =
    if place' = place then some { item with count := 0, is_looted := true }
    else s.loot.item? place'
  entries : s'.loot.lists = s.loot.lists
  given : s'.given = if item.count = 0 then s.given else ⟨place, target.guid⟩ :: s.given
  unlootedCount : s'.loot.unlootedCount = s.loot.unlootedCount - 1
  gold : s'.loot.gold = s.loot.gold

lemma gives_HandleLootMasterGive (GetItemTemplate : ℕ → Option ItemTemplate) (s : State)
    (target : Player) (slotid : ℕ) {item : LootItem}
    (here : s.loot.item? (s.masterPlace slotid) = some item)
    (can : State.canGive GetItemTemplate target item = true) :
    Gives s (s.HandleLootMasterGive GetItemTemplate target slotid) target (s.masterPlace slotid)
      item := by
  rw [State.HandleLootMasterGive, here]
  dsimp only
  rw [if_pos can]
  refine ⟨here, ?_, ?_, rfl, ?_, ?_⟩
  · intro place'
    change Loot.item? (Loot.modifyItem ..) place' = _
    rw [Loot.item?_modifyItem]
    split
    next hs => rw [hs, here, Option.map_some]
    next => rfl
  · exact Loot.lists_modifyItem ..
  · simp [State.hand]
  · simp [State.hand]

lemma HandleLootMasterGive_of_none {GetItemTemplate : ℕ → Option ItemTemplate} {s : State}
    {target : Player} {slotid : ℕ} (none : ∀ item, s.loot.item? (s.masterPlace slotid) = some item →
      State.canGive GetItemTemplate target item = false) :
    s.HandleLootMasterGive GetItemTemplate target slotid = s := by
  rw [State.HandleLootMasterGive]
  cases here : s.loot.item? (s.masterPlace slotid) with
  | none => rfl
  | some item => exact if_neg (by simp [none item here])

lemma HandleLootMasterGive_cases (GetItemTemplate : ℕ → Option ItemTemplate) (s : State)
    (target : Player) (slotid : ℕ) :
    s.HandleLootMasterGive GetItemTemplate target slotid = s ∨ ∃ item,
      Gives s (s.HandleLootMasterGive GetItemTemplate target slotid) target (s.masterPlace slotid)
        item := by
  by_cases some : ∃ item, s.loot.item? (s.masterPlace slotid) = some item ∧
      State.canGive GetItemTemplate target item = true
  · obtain ⟨item, here, can⟩ := some
    exact .inr ⟨item, gives_HandleLootMasterGive GetItemTemplate s target slotid here can⟩
  · refine .inl (HandleLootMasterGive_of_none fun item here => ?_)
    by_contra can
    exact some ⟨item, here, by simpa using can⟩

end WorldServer.Looting
