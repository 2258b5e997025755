import WorldServer.Looting.Slots

/-!
# Who receives what

An item that is not free for all should be handed out once, and an item of a list once to each
player who has it in his list. The marks in the loot record what has been handed out, but a request
looks at some of them only: a player without an entry falls back on the mark of the item, an entry
with conditions hides that mark, and the master looter looks at no mark at all.
-/
namespace WorldServer.Looting

open WorldServer.Lib

/-- Every handout is the only one of its kind, and goes to a player who is listed for it. -/
structure Fair (s : State) : Prop where
  once : ∀ i item, s.loot.items[i]? = some item → item.freeforall = false →
    (s.given.countP fun handout => handout.place = .normal i) ≤ 1
  ffa : ∀ i item, s.loot.items[i]? = some item → item.freeforall = true → ∀ guid,
    s.given.count ⟨.normal i, guid⟩ ≤ 1 ∧
      (⟨.normal i, guid⟩ ∈ s.given → s.loot.Listed .ffa guid i)
  quest : ∀ i guid, s.given.count ⟨.quest i, guid⟩ ≤ 1 ∧
    (⟨.quest i, guid⟩ ∈ s.given → s.loot.Listed .quest guid i)
  conditional : ∀ i item, s.loot.items[i]? = some item → item.listKind = some .conditional →
    ∀ guid, ⟨.normal i, guid⟩ ∈ s.given → s.loot.Listed .conditional guid i

/-- The marks say what has been handed out, as long as something is left to hand out. -/
structure Recorded (s : State) : Prop where
  well : s.loot.WellListed
  single : ∀ i item, s.loot.items[i]? = some item → item.freeforall = false → item.count ≠ 0 →
    (item.is_looted = true ↔ ∃ guid, ⟨.normal i, guid⟩ ∈ s.given)
  each : ∀ kind guid entry item, kind ≠ .conditional → entry ∈ s.loot.entries kind guid →
    s.loot.item? (kind.place entry.index) = some item → item.count ≠ 0 →
    (entry.is_looted = true ↔ ⟨kind.place entry.index, guid⟩ ∈ s.given)

/-- The marks allow the handout. -/
def Due (loot : Loot) (handout : Handout) : Prop :=
  match handout.place with
  | .normal i => ∀ item, loot.items[i]? = some item →
    if item.freeforall then
      ∃ entry ∈ loot.entries .ffa handout.guid, entry.index = i ∧ entry.is_looted = false
    else item.is_looted = false ∧
      (item.listKind = some .conditional → loot.Listed .conditional handout.guid i)
  | .quest i => ∃ entry ∈ loot.entries .quest handout.guid,
    entry.index = i ∧ entry.is_looted = false

section Requests

variable (GetItemTemplate : ℕ → Option ItemTemplate)

def State.handed (s : State) : State.Request → Option Handout
  | .autostore player lootSlot =>
    match s.loot.LootItemInSlot lootSlot player.guid with
    | none => none
    | some found =>
      if State.canLoot player found ∧ found.item.count ≠ 0 then some ⟨found.place, player.guid⟩
      else none
  | .masterGive target slotid =>
    match s.loot.item? (s.masterPlace slotid) with
    | none => none
    | some item =>
      if State.canGive GetItemTemplate target item ∧ item.count ≠ 0 then
        some ⟨s.masterPlace slotid, target.guid⟩
      else none
  | .roll _ _ | .release => none

def AsListed (s : State) (request : State.Request) : Prop :=
  ∀ handout, s.handed GetItemTemplate request = some handout → Due s.loot handout

/-! ### One request -/

lemma later_StoreLootItem (s : State) (player : Player) (lootSlot : ℕ) :
    s.loot.Later (s.StoreLootItem player lootSlot).loot := by
  rw [State.StoreLootItem]
  split
  · exact Loot.Later.refl _
  next found inSlot =>
    split
    swap
    · exact Loot.Later.refl _
    have marked := Loot.later_lootEntry s.loot player.guid found.entry
    have counted (loot : Loot) (later : s.loot.Later loot) :
        s.loot.Later (s.hand loot found.place player.guid found.item.count).loot :=
      ⟨later.items, later.entries⟩
    refine counted _ ?_
    split
    · exact marked
    · exact marked.trans (Loot.later_modifyItem _ _ fun _ => rfl)

lemma later_step (s : State) (request : State.Request) :
    s.loot.Later (s.step GetItemTemplate request).loot := by
  cases request with
  | autostore player lootSlot => exact later_StoreLootItem s player lootSlot
  | masterGive target slotid =>
    rw [State.step, State.HandleLootMasterGive]
    split
    · exact Loot.Later.refl _
    next item here =>
      split
      · have later := Loot.later_modifyItem s.loot (s.masterPlace slotid)
          (f := fun item => { item with count := 0, is_looted := true }) fun _ => rfl
        exact ⟨later.items, later.entries⟩
      · exact Loot.Later.refl _
  | roll place is_blocked => exact Loot.later_modifyItem s.loot place fun _ => rfl
  | release => exact ⟨fun place => by cases place <;> rfl, fun _ _ => rfl⟩

lemma given_step (s : State) (request : State.Request) :
    (s.step GetItemTemplate request).given =
      (s.handed GetItemTemplate request).toList ++ s.given := by
  cases request with
  | autostore player lootSlot =>
    rw [State.step, State.StoreLootItem, State.handed]
    cases s.loot.LootItemInSlot lootSlot player.guid with
    | none => rfl
    | some found =>
      by_cases can : State.canLoot player found = true
      · by_cases empty : found.item.count = 0 <;> simp [can, empty, State.hand]
      · simp [can]
  | masterGive target slotid =>
    rw [State.step, State.HandleLootMasterGive, State.handed]
    cases s.loot.item? (s.masterPlace slotid) with
    | none => rfl
    | some item =>
      by_cases can : State.canGive GetItemTemplate target item = true
      · by_cases empty : item.count = 0 <;> simp [can, empty, State.hand]
      · simp [can]
  | roll place is_blocked => rfl
  | release => rfl

variable {loot : Loot} {lootSlot : ℕ} {found : Loot.SlotItem} {s s' : State} {item : LootItem}
  {kind : ListKind} {entry : QuestItem} {player : Player} {handout : Handout}

lemma entry_of_place (well : loot.WellListed) {guid : ℕ}
    (inSlot : loot.InSlot guid lootSlot found) {j : ℕ} (other : kind ≠ .conditional)
    (listed : (loot.entries kind guid)[j]? = some entry)
    (hs : found.place = kind.place entry.index) : found.entry = some (kind, j) := by
  have here : entry.index ∈ (loot.entries kind guid).map QuestItem.index :=
    List.mem_map_of_mem (List.mem_of_getElem? listed)
  -- two entries of a list are not about the same item
  have unique {k : ℕ} {entry' : QuestItem} (listed' : (loot.entries kind guid)[k]? = some entry')
      (index : entry'.index = entry.index) : k = j := by
    have first := Loot.findIdx?_entries well listed'
    rw [index, Loot.findIdx?_entries well listed] at first
    exact (Option.some.inj first).symm
  cases inSlot with
  | quest slot listed' left item =>
    cases kind with
    | quest =>
      have index := Place.quest.inj hs
      rw [unique listed' index]
    | ffa => cases hs
    | conditional => exact absurd rfl other
  | listed item tracked listed' index left =>
    cases kind with
    | quest => cases hs
    | ffa =>
      have slot := Place.normal.inj hs
      obtain ⟨item', found', tracked'⟩ := well.normal .ffa guid entry.index (by simp) here
      rw [← slot, item, Option.some.injEq] at found'
      subst found'
      obtain rfl := Option.some.inj (tracked.symm.trans tracked')
      rw [unique listed' (index.trans slot)]
    | conditional => exact absurd rfl other
  | unlisted item left unlisted =>
    cases kind with
    | quest => cases hs
    | ffa =>
      have slot := Place.normal.inj hs
      obtain ⟨item', found', tracked'⟩ := well.normal .ffa guid entry.index (by simp) here
      rw [← slot, item, Option.some.injEq] at found'
      subst found'
      exact absurd (slot ▸ here) (unlisted .ffa tracked')
    | conditional => exact absurd rfl other

lemma place_of_entry {guid : ℕ} (inSlot : loot.InSlot guid lootSlot found) {j : ℕ}
    (listed : (loot.entries kind guid)[j]? = some entry) (goesWith : found.entry = some (kind, j)) :
    found.place = kind.place entry.index := by
  cases inSlot with
  | quest slot listed' left item =>
    cases goesWith
    rw [listed, Option.some.injEq] at listed'
    rw [listed']
    rfl
  | listed item tracked listed' index left =>
    cases goesWith
    rw [listed, Option.some.injEq] at listed'
    rw [listed', index]
    cases kind with
    | quest => exact absurd tracked (LootItem.listKind_ne_quest _)
    | ffa => rfl
    | conditional => rfl
  | unlisted item left unlisted => cases goesWith

lemma Takes.recorded (takes : Takes s s' player lootSlot found) (recorded : Recorded s)
    (later : s.loot.Later s'.loot) : Recorded s' := by
  have here := takes.inSlot.item_eq
  refine ⟨later.wellListed recorded.well, ?_, ?_⟩
  · intro i item' found' single left
    have item := takes.items (.normal i)
    rw [show s'.loot.item? (.normal i) = some item' from found'] at item
    by_cases place : Place.normal i = found.place
    · -- the item has been taken now
      obtain ⟨old, found'', nature⟩ := later.item_back (.normal i) found'
      rw [place, here, Option.some.injEq] at found''
      subst found''
      have hs : found.item.freeforall = false := by
        rw [LootItem.nature, LootItem.nature] at nature
        simp only [Prod.mk.injEq] at nature
        rw [← nature.2.2.1, single]
      rw [if_pos ⟨place, hs⟩, place, here, Option.map_some, Option.some.injEq] at item
      subst item
      rw [takes.given, if_neg left, ← place]
      exact iff_of_true rfl ⟨player.guid, List.mem_cons_self ..⟩
    · rw [if_neg fun both => place both.1] at item
      rw [recorded.single i item' item.symm single left, takes.given]
      split
      · rfl
      · simp [place]
  · intro kind guid entry' item' other hm found' left
    obtain ⟨j, listed'⟩ := List.mem_iff_getElem?.mp hm
    rw [takes.entries] at listed'
    obtain ⟨entry, listed, rfl⟩ := Option.map_eq_some_iff.mp listed'
    have index : (if guid = player.guid ∧ found.entry = some (kind, j) then
        { entry with is_looted := true } else entry).index = entry.index := by
      split <;> rfl
    rw [index] at found' ⊢
    -- the count of an item that is taken stays
    obtain ⟨item, found'', count⟩ : ∃ item, s.loot.item? (kind.place entry.index) = some item ∧
        item.count = item'.count := by
      rw [takes.items] at found'
      split at found'
      · obtain ⟨item, found'', rfl⟩ := Option.map_eq_some_iff.mp found'
        exact ⟨item, found'', rfl⟩
      · exact ⟨item', found', rfl⟩
    have before := recorded.each kind guid entry item other (List.mem_of_getElem? listed) found''
      (count ▸ left)
    split
    next marked =>
      obtain ⟨rfl, goesWith⟩ := marked
      have place := place_of_entry takes.inSlot listed goesWith
      rw [← place, here, Option.some.injEq] at found''
      subst found''
      rw [takes.given, if_neg (count ▸ left), ← place]
      exact iff_of_true rfl (List.mem_cons_self ..)
    next notMarked =>
      rw [before, takes.given]
      split
      · rfl
      · rw [List.mem_cons, or_iff_right]
        intro hs
        obtain ⟨place, rfl⟩ := Handout.mk.inj hs
        exact notMarked ⟨rfl, entry_of_place recorded.well takes.inSlot other listed place.symm⟩

lemma Gives.recorded {target : Player} {place : Place} (gives : Gives s s' target place item)
    (recorded : Recorded s) (later : s.loot.Later s'.loot) : Recorded s' := by
  -- nothing is left of the item that has been given away
  have other (place' : Place) {item' : LootItem} (found' : s'.loot.item? place' = some item')
      (left : item'.count ≠ 0) : place' ≠ place ∧ s.loot.item? place' = some item' := by
    rw [gives.items] at found'
    split at found'
    · obtain rfl := Option.some.inj found'
      exact absurd rfl left
    next different => exact ⟨different, found'⟩
  have given {place' : Place} {guid : ℕ} (different : place' ≠ place) :
      (⟨place', guid⟩ : Handout) ∈ s'.given ↔ (⟨place', guid⟩ : Handout) ∈ s.given := by
    rw [gives.given]
    split
    · rfl
    · simp [different]
  refine ⟨later.wellListed recorded.well, ?_, ?_⟩
  · intro i item' found' single left
    obtain ⟨different, before⟩ := other (.normal i) found' left
    rw [recorded.single i item' before single left]
    exact exists_congr fun guid => (given different).symm
  · intro kind guid entry item' notConditional hm found' left
    obtain ⟨different, before⟩ := other _ found' left
    rw [Loot.entries, gives.entries] at hm
    rw [recorded.each kind guid entry item' notConditional hm before left]
    exact (given different).symm

/-- The items are marked otherwise, but not as looted. -/
def Remarked (loot loot' : Loot) : Prop :=
  ∀ place item', loot'.item? place = some item' → ∃ item, loot.item? place = some item ∧
    item'.freeforall = item.freeforall ∧ item'.count = item.count ∧
    item'.is_looted = item.is_looted

lemma Remarked.recorded (remarked : Remarked s.loot loot) (recorded : Recorded s)
    (later : s.loot.Later loot)
    (entries : ∀ kind guid, loot.entries kind guid = s.loot.entries kind guid) :
    Recorded { s with loot := loot } := by
  refine ⟨later.wellListed recorded.well, ?_, ?_⟩
  · intro i item' found' single left
    obtain ⟨item, found, free, count, looted⟩ := remarked (.normal i) item' found'
    rw [looted]
    exact recorded.single i item found (free ▸ single) (count ▸ left)
  · intro kind guid entry item' other hm found' left
    obtain ⟨item, found, free, count, looted⟩ := remarked _ item' found'
    exact recorded.each kind guid entry item other (entries kind guid ▸ hm) found
      (count ▸ left)

lemma remarked_modifyItem (loot : Loot) (place : Place) {f : LootItem → LootItem}
    (keeps : ∀ item, (f item).freeforall = item.freeforall ∧ (f item).count = item.count ∧
      (f item).is_looted = item.is_looted) : Remarked loot (loot.modifyItem place f) := by
  intro place' item' found'
  rw [Loot.item?_modifyItem] at found'
  split at found'
  · obtain ⟨item, found, rfl⟩ := Option.map_eq_some_iff.mp found'
    exact ⟨item, found, keeps item⟩
  · exact ⟨item', found', rfl, rfl, rfl⟩

lemma Recorded.step (recorded : Recorded s) (request : State.Request) :
    Recorded (s.step GetItemTemplate request) := by
  have later := later_step GetItemTemplate s request
  cases request with
  | autostore player lootSlot =>
    rcases StoreLootItem_cases s player lootSlot with hs | ⟨found, -, takes⟩
    · rw [State.step, hs]
      exact recorded
    · exact takes.recorded recorded later
  | masterGive target slotid =>
    rcases HandleLootMasterGive_cases GetItemTemplate s target slotid with hs | ⟨item, gives⟩
    · rw [State.step, hs]
      exact recorded
    · exact gives.recorded recorded later
  | roll place is_blocked =>
    exact Remarked.recorded (remarked_modifyItem s.loot place fun _ => ⟨rfl, rfl, rfl⟩) recorded
      later fun kind guid => Loot.entries_modifyItem ..
  | release =>
    refine Remarked.recorded (fun place item' found' => ⟨item', ?_, rfl, rfl, rfl⟩) recorded later
      fun kind guid => rfl
    cases place <;> exact found'

/-! ### What a handout means for fairness -/

def First (s : State) (handout : Handout) : Prop :=
  match handout.place with
  | .normal i => ∀ item, s.loot.items[i]? = some item →
    if item.freeforall then handout ∉ s.given ∧ s.loot.Listed .ffa handout.guid i
    else (∀ guid, ⟨.normal i, guid⟩ ∉ s.given) ∧
      (item.listKind = some .conditional → s.loot.Listed .conditional handout.guid i)
  | .quest i => handout ∉ s.given ∧ s.loot.Listed .quest handout.guid i

lemma Recorded.due_iff (recorded : Recorded s) (here : s.loot.item? handout.place = some item)
    (left : item.count ≠ 0) : Due s.loot handout ↔ First s handout := by
  obtain ⟨place, guid⟩ := handout
  -- an entry that is not marked
  have open_iff (kind : ListKind) (other : kind ≠ .conditional) {i : ℕ}
      (found : s.loot.item? (kind.place i) = some item) :
      (∃ entry ∈ s.loot.entries kind guid, entry.index = i ∧ entry.is_looted = false) ↔
        (⟨kind.place i, guid⟩ : Handout) ∉ s.given ∧ s.loot.Listed kind guid i := by
    constructor
    · rintro ⟨entry, hm, rfl, unmarked⟩
      refine ⟨fun given => ?_, List.mem_map_of_mem hm⟩
      rw [(recorded.each kind guid entry item other hm found left).mpr given] at unmarked
      cases unmarked
    · rintro ⟨notGiven, listed⟩
      obtain ⟨entry, hm, rfl⟩ := List.mem_map.mp listed
      refine ⟨entry, hm, rfl, Bool.eq_false_iff.mpr fun marked => ?_⟩
      exact notGiven ((recorded.each kind guid entry item other hm found left).mp marked)
  cases place with
  | quest i => exact open_iff .quest (by simp) here
  | normal i =>
    refine forall_congr' fun item' => forall_congr' fun found => ?_
    obtain rfl : item = item' := Option.some.inj (here.symm.trans found)
    split
    · exact open_iff .ffa (by simp) here
    next single =>
      have marked := recorded.single i item found (by simpa using single) left
      refine and_congr_left fun _ => ?_
      rw [← not_exists, ← marked, Bool.not_eq_true]

lemma freeforall_of_nature {item' : LootItem} (hs : item'.nature = item.nature) :
    item'.freeforall = item.freeforall := by
  simp only [LootItem.nature, Prod.mk.injEq] at hs
  exact hs.2.2.1

lemma fair_cons (fair : Fair s) (later : s.loot.Later loot) (handout : Handout) :
    Fair { loot := loot, given := handout :: s.given } ↔ First s handout := by
  obtain ⟨place, guid⟩ := handout
  constructor
  · intro fair'
    cases place with
    | quest i =>
      obtain ⟨once, listed⟩ := fair'.quest i guid
      rw [List.count_cons_self] at once
      exact ⟨List.count_eq_zero.mp (by omega), later.listed.mp (listed (List.mem_cons_self ..))⟩
    | normal i =>
      intro item found
      obtain ⟨item', found', nature⟩ := later.item (.normal i) found
      have free := freeforall_of_nature nature
      split
      next ffa =>
        obtain ⟨once, listed⟩ := fair'.ffa i item' found' (free.trans ffa) guid
        rw [List.count_cons_self] at once
        exact ⟨List.count_eq_zero.mp (by omega), later.listed.mp (listed (List.mem_cons_self ..))⟩
      next single =>
        have once := fair'.once i item' found' (free.trans (by simpa using single))
        rw [List.countP_cons_of_pos (by simp)] at once
        refine ⟨fun guid' given => ?_, fun conditional => ?_⟩
        · have zero : (s.given.countP fun handout => handout.place = .normal i) = 0 := by omega
          simpa using List.countP_eq_zero.mp zero _ given
        · exact later.listed.mp (fair'.conditional i item' found'
            ((LootItem.listKind_of_nature nature).trans conditional) guid (List.mem_cons_self ..))
  · intro first
    constructor
    · intro i item' found' single
      obtain ⟨item, found, nature⟩ := later.item_back (.normal i) found'
      have free := freeforall_of_nature nature
      by_cases hs : place = .normal i
      · subst hs
        have none := first item found
        rw [if_neg (by simp [← free, single])] at none
        rw [List.countP_cons_of_pos (by simp), List.countP_eq_zero.mpr]
        rintro ⟨place, guid'⟩ given
        simp only [decide_eq_true_eq]
        rintro rfl
        exact none.1 guid' given
      · rw [List.countP_cons_of_neg (by simpa using hs)]
        exact fair.once i item found (free.symm.trans single)
    · intro i item' found' ffa guid'
      obtain ⟨item, found, nature⟩ := later.item_back (.normal i) found'
      have free := freeforall_of_nature nature
      obtain ⟨once, listed⟩ := fair.ffa i item found (free.symm.trans ffa) guid'
      by_cases hs : (⟨place, guid⟩ : Handout) = ⟨.normal i, guid'⟩
      · obtain ⟨rfl, rfl⟩ := Handout.mk.inj hs
        have new := first item found
        rw [if_pos (free.symm.trans ffa)] at new
        rw [List.count_cons_self, List.count_eq_zero.mpr new.1]
        exact ⟨le_refl _, fun _ => later.listed.mpr new.2⟩
      · rw [List.count_cons_of_ne hs]
        refine ⟨once, fun hm => later.listed.mpr (listed ?_)⟩
        exact (List.mem_cons.mp hm).resolve_left (Ne.symm hs)
    · intro i guid'
      obtain ⟨once, listed⟩ := fair.quest i guid'
      by_cases hs : (⟨place, guid⟩ : Handout) = ⟨.quest i, guid'⟩
      · obtain ⟨rfl, rfl⟩ := Handout.mk.inj hs
        rw [List.count_cons_self, List.count_eq_zero.mpr first.1]
        exact ⟨le_refl _, fun _ => later.listed.mpr first.2⟩
      · rw [List.count_cons_of_ne hs]
        refine ⟨once, fun hm => later.listed.mpr (listed ?_)⟩
        exact (List.mem_cons.mp hm).resolve_left (Ne.symm hs)
    · intro i item' found' conditional guid' hm
      obtain ⟨item, found, nature⟩ := later.item_back (.normal i) found'
      have tracked := (LootItem.listKind_of_nature nature).symm.trans conditional
      refine later.listed.mpr ?_
      rcases List.mem_cons.mp hm with hs | before
      · obtain ⟨rfl, rfl⟩ := Handout.mk.inj hs
        have new := first item found
        have single : item.freeforall ≠ true := by
          intro free
          rw [LootItem.listKind_eq_ffa.mpr free] at tracked
          cases tracked
        rw [if_neg single] at new
        exact new.2 tracked
      · exact fair.conditional i item found tracked guid' before

lemma Fair.before (fair : Fair s') (later : s.loot.Later s'.loot)
    (given : s.given.Sublist s'.given) : Fair s := by
  constructor
  · intro i item found single
    obtain ⟨item', found', nature⟩ := later.item (.normal i) found
    exact given.countP_le.trans
      (fair.once i item' found' ((freeforall_of_nature nature).trans single))
  · intro i item found ffa guid
    obtain ⟨item', found', nature⟩ := later.item (.normal i) found
    obtain ⟨once, listed⟩ := fair.ffa i item' found' ((freeforall_of_nature nature).trans ffa) guid
    exact ⟨(given.count_le _).trans once,
      fun hm => later.listed.mp (listed (given.subset hm))⟩
  · intro i guid
    obtain ⟨once, listed⟩ := fair.quest i guid
    exact ⟨(given.count_le _).trans once,
      fun hm => later.listed.mp (listed (given.subset hm))⟩
  · intro i item found conditional guid hm
    obtain ⟨item', found', nature⟩ := later.item (.normal i) found
    exact later.listed.mp (fair.conditional i item' found'
      ((LootItem.listKind_of_nature nature).trans conditional) guid (given.subset hm))

lemma Fair.relabelled (fair : Fair s) (later : s.loot.Later loot) :
    Fair { s with loot := loot } :=
  fair.before later.symm (List.Sublist.refl _)

lemma item_of_handed {request : State.Request}
    (handed : s.handed GetItemTemplate request = some handout) :
    ∃ item, s.loot.item? handout.place = some item ∧ item.count ≠ 0 := by
  cases request with
  | autostore player lootSlot =>
    rw [State.handed] at handed
    split at handed
    · cases handed
    next found inSlot =>
      split at handed
      next can =>
        obtain rfl := Option.some.inj handed
        exact ⟨found.item, (Loot.inSlot_of_LootItemInSlot inSlot).item_eq, can.2⟩
      next => cases handed
  | masterGive target slotid =>
    rw [State.handed] at handed
    split at handed
    · cases handed
    next item here =>
      split at handed
      next can =>
        obtain rfl := Option.some.inj handed
        exact ⟨item, here, can.2⟩
      next => cases handed
  | roll place is_blocked => cases handed
  | release => cases handed

lemma fair_step_iff (fair : Fair s) (recorded : Recorded s) (request : State.Request) :
    Fair (s.step GetItemTemplate request) ↔ AsListed GetItemTemplate s request := by
  have later := later_step GetItemTemplate s request
  have given := given_step GetItemTemplate s request
  cases handed : s.handed GetItemTemplate request with
  | none =>
    rw [handed] at given
    refine iff_of_true ?_ fun handout some => ?_
    · exact fair.before later.symm (by rw [given]; exact List.Sublist.refl _)
    · rw [handed] at some
      cases some
  | some handout =>
    obtain ⟨item, here, left⟩ := item_of_handed GetItemTemplate handed
    rw [handed] at given
    have asListed : AsListed GetItemTemplate s request ↔ Due s.loot handout := by
      simp [AsListed, handed]
    rw [asListed, recorded.due_iff here left, ← fair_cons fair later handout]
    have hs : s.step GetItemTemplate request =
        ⟨(s.step GetItemTemplate request).loot, handout :: s.given⟩ := by
      rw [← show (s.step GetItemTemplate request).given = handout :: s.given from given]
    exact iff_of_eq (congrArg Fair hs)

/-! ### When the marks suffice -/

/-- The player has an entry about the item that is not marked. -/
def Loot.Open (loot : Loot) (kind : ListKind) (guid i : ℕ) : Prop :=
  ∃ entry ∈ loot.entries kind guid, entry.index = i ∧ entry.is_looted = false

/-- The marks that a request does not look at are as it needs them: an item that the player is not
listed for has been looted, one with conditions that he is listed for has not, and what the master
looter gives away is due to the player who gets it. -/
def Warranted (s : State) : State.Request → Prop
  | .autostore player lootSlot => ∀ item kind, s.loot.items[lootSlot]? = some item →
    item.listKind = some kind → item.is_blocked = false →
    player.CanStoreNewItem item.itemid item.count = true → item.count ≠ 0 →
    (¬ s.loot.Listed kind player.guid lootSlot → item.is_looted = true) ∧
      (kind = .conditional → s.loot.Open .conditional player.guid lootSlot →
        item.is_looted = false)
  | .masterGive target slotid => ∀ item, s.loot.item? (s.masterPlace slotid) = some item →
    State.canGive GetItemTemplate target item = true → item.count ≠ 0 →
    Due s.loot ⟨s.masterPlace slotid, target.guid⟩
  | .roll _ _ | .release => True

lemma handed_of_inSlot (well : s.loot.WellListed)
    (inSlot : s.loot.InSlot player.guid lootSlot found) (can : State.canLoot player found = true)
    (left : found.item.count ≠ 0) :
    s.handed GetItemTemplate (.autostore player lootSlot) = some ⟨found.place, player.guid⟩ := by
  rw [State.handed, Loot.LootItemInSlot_of_inSlot well inSlot]
  exact if_pos ⟨can, left⟩

lemma asListed_autostore_iff (well : s.loot.WellListed) (player : Player) (lootSlot : ℕ) :
    AsListed GetItemTemplate s (.autostore player lootSlot) ↔
      Warranted GetItemTemplate s (.autostore player lootSlot) := by
  constructor
  · intro asListed item kind here tracked unblocked can left
    have canLoot (entry : Option (ListKind × ℕ)) :
        State.canLoot player ⟨.normal lootSlot, item, entry⟩ = true := by
      simp [State.canLoot, unblocked, can]
    have due {entry : Option (ListKind × ℕ)}
        (inSlot : s.loot.InSlot player.guid lootSlot ⟨.normal lootSlot, item, entry⟩) :=
      asListed _ (handed_of_inSlot GetItemTemplate well inSlot (canLoot entry) left) item here
    constructor
    · intro unlisted
      by_contra unmarked
      have isDue := due (.unlisted here (by simpa using unmarked) fun kind' hs => by
        obtain rfl := Option.some.inj (tracked.symm.trans hs)
        exact unlisted)
      split at isDue
      next ffa =>
        obtain rfl := Option.some.inj (tracked.symm.trans (LootItem.listKind_eq_ffa.mpr ffa))
        obtain ⟨entry, hm, index, -⟩ := isDue
        exact unlisted (List.mem_map.mpr ⟨entry, hm, index⟩)
      next single =>
        cases kind with
        | quest => exact LootItem.listKind_ne_quest item tracked
        | ffa => exact single (LootItem.listKind_eq_ffa.mp tracked)
        | conditional => exact unlisted (isDue.2 tracked)
    · rintro rfl ⟨entry, hm, index, unmarked⟩
      obtain ⟨k, listed⟩ := List.mem_iff_getElem?.mp hm
      have isDue := due (.listed here tracked listed index unmarked)
      rw [if_neg] at isDue
      · exact isDue.1
      · intro ffa
        rw [LootItem.listKind_eq_ffa.mpr ffa] at tracked
        cases tracked
  · intro warranted handout handed
    rw [State.handed] at handed
    split at handed
    · cases handed
    next found inSlot =>
      split at handed
      swap
      · cases handed
      next can =>
        obtain rfl := Option.some.inj handed
        obtain ⟨can, left⟩ := can
        cases Loot.inSlot_of_LootItemInSlot inSlot with
        | quest slot listed unmarked here =>
          exact ⟨_, List.mem_of_getElem? listed, rfl, unmarked⟩
        | @listed kind k item entry here tracked listed index unmarked =>
          intro item' found'
          obtain rfl := Option.some.inj (here.symm.trans found')
          simp only [State.canLoot, Bool.and_eq_true, Bool.or_eq_true] at can
          have marks := warranted item kind here tracked (by simpa using can.1) can.2 left
          have hm := List.mem_of_getElem? listed
          cases kind with
          | quest => exact absurd tracked (LootItem.listKind_ne_quest item)
          | ffa =>
            rw [if_pos (LootItem.listKind_eq_ffa.mp tracked)]
            exact ⟨entry, hm, index, unmarked⟩
          | conditional =>
            rw [if_neg]
            · exact ⟨marks.2 rfl ⟨entry, hm, index, unmarked⟩,
                fun _ => List.mem_map.mpr ⟨entry, hm, index⟩⟩
            · intro ffa
              rw [LootItem.listKind_eq_ffa.mpr ffa] at tracked
              cases tracked
        | @unlisted item here unmarked unlisted =>
          intro item' found'
          obtain rfl := Option.some.inj (here.symm.trans found')
          cases tracked : item.listKind with
          | none =>
            rw [if_neg]
            · exact ⟨unmarked, nofun⟩
            · intro ffa
              rw [LootItem.listKind_eq_ffa.mpr ffa] at tracked
              cases tracked
          | some kind =>
            simp only [State.canLoot, Bool.and_eq_true, Bool.or_eq_true] at can
            have marks := warranted item kind here tracked (by simpa using can.1) can.2 left
            rw [marks.1 (unlisted kind tracked)] at unmarked
            cases unmarked

lemma asListed_iff (well : s.loot.WellListed) (request : State.Request) :
    AsListed GetItemTemplate s request ↔ Warranted GetItemTemplate s request := by
  cases request with
  | autostore player lootSlot => exact asListed_autostore_iff GetItemTemplate well player lootSlot
  | masterGive target slotid =>
    constructor
    · intro asListed item here can left
      refine asListed _ ?_
      rw [State.handed, here]
      exact if_pos ⟨can, left⟩
    · intro warranted handout handed
      rw [State.handed] at handed
      split at handed
      · cases handed
      next item here =>
        split at handed
        next can =>
          obtain rfl := Option.some.inj handed
          exact warranted item here can.1 can.2
        next => cases handed
  | roll place is_blocked => exact iff_of_true (fun _ handed => by cases handed) trivial
  | release => exact iff_of_true (fun _ handed => by cases handed) trivial

lemma given_run (requests : List State.Request) (s : State) :
    s.loot.Later (run (State.step GetItemTemplate) s requests).loot ∧
      s.given.Sublist (run (State.step GetItemTemplate) s requests).given := by
  induction requests generalizing s with
  | nil => exact ⟨Loot.Later.refl _, List.Sublist.refl _⟩
  | cons request requests ih =>
    obtain ⟨later, given⟩ := ih (s.step GetItemTemplate request)
    refine ⟨(later_step GetItemTemplate s request).trans later, List.Sublist.trans ?_ given⟩
    rw [given_step]
    exact List.sublist_append_right _ _

lemma fair_run_iff (requests : List State.Request) : ∀ {s : State}, Fair s → Recorded s →
    (Fair (run (State.step GetItemTemplate) s requests) ↔
      Along (State.step GetItemTemplate) (Warranted GetItemTemplate) s requests) := by
  induction requests with
  | nil => exact fun fair _ => iff_of_true fair trivial
  | cons request requests ih =>
    intro s fair recorded
    have one := (fair_step_iff GetItemTemplate fair recorded request).trans
      (asListed_iff GetItemTemplate recorded.well request)
    constructor
    · intro final
      obtain ⟨later, given⟩ := given_run GetItemTemplate requests (s.step GetItemTemplate request)
      have fair' := final.before later given
      exact ⟨one.mp fair', (ih fair' (recorded.step GetItemTemplate request)).mp final⟩
    · rintro ⟨warranted, rest⟩
      exact (ih (one.mpr warranted) (recorded.step GetItemTemplate request)).mpr rest

end Requests

end WorldServer.Looting
