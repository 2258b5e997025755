import WorldServer.Looting.Handouts

/-!
# Filled loot

A loot is filled for one player after another. A player who is present takes the currencies of the
loot at once, and these are handed out to him as they are listed, since his lists have been filled
before.
-/
namespace WorldServer.Looting

open WorldServer.Lib

section Filling

variable (GetItemTemplate : ℕ → Option ItemTemplate)

/-! ### Listings -/

structure Loot.Listing.Proper (listing : Loot.Listing) : Prop extends listing.Keeps where
  tracks : ∀ item, listing.kind ≠ .quest → listing.takes item = true →
    item.listKind = some listing.kind

lemma proper_ffaListing (player : Player) : (Loot.ffaListing GetItemTemplate player).Proper where
  nature _ := rfl
  is_looted _ := rfl
  count _ := rfl
  tracks item _ takes := by
    simp only [Loot.ffaListing, Bool.and_eq_true] at takes
    exact LootItem.listKind_eq_ffa.mpr takes.1.2

lemma questListing_mark (player : Player) (room : ℕ) (item : LootItem) :
    (Loot.questListing GetItemTemplate player room).mark item = item ∨
      (Loot.questListing GetItemTemplate player room).mark item =
        { item with is_blocked := true } := by
  simp only [Loot.questListing]
  cases player.GetGroup with
  | none => exact .inr rfl
  | some group =>
    dsimp only
    split
    · exact .inr rfl
    · exact .inl rfl

lemma proper_questListing (player : Player) (room : ℕ) :
    (Loot.questListing GetItemTemplate player room).Proper where
  nature item := by
    rcases questListing_mark GetItemTemplate player room item with hs | blocked
    · rw [hs]
    · rw [blocked]
      rfl
  is_looted item := by
    rcases questListing_mark GetItemTemplate player room item with hs | blocked
    · rw [hs]
    · rw [blocked]
  count item := by
    rcases questListing_mark GetItemTemplate player room item with hs | blocked
    · rw [hs]
    · rw [blocked]
  tracks item other := absurd rfl other

lemma proper_conditionalListing (player : Player) :
    (Loot.conditionalListing GetItemTemplate player).Proper where
  nature _ := rfl
  is_looted _ := rfl
  count _ := rfl
  tracks item _ takes := by
    simp only [Loot.conditionalListing, Bool.and_eq_true, Bool.not_eq_true'] at takes
    rw [LootItem.listKind, if_neg (by simp [takes.1.1.2]), if_pos (by simp [takes.2])]
    rfl

/-! ### The lists of one player -/

variable {loot loot' : Loot} {listing : Loot.Listing} {guid size i : ℕ} {taken done : List ℕ}
  {kind : ListKind} {s : State} {player : Player} {proto : ItemTemplate} {item : LootStoreItem}

section

variable (gets : loot.Gets listing guid size loot' taken)
include gets

lemma Loot.Gets.remarked (keeps : listing.Keeps) (place : Place) (item' : LootItem)
    (hf' : loot'.item? place = some item') :
    ∃ item, loot.item? place = some item ∧ item'.nature = item.nature ∧
      item'.count = item.count ∧ item'.is_looted = item.is_looted := by
  rw [gets.items,
    item?_entered listing taken (gets.filled.sublist.nodup List.nodup_range)] at hf'
  split at hf'
  · obtain ⟨item, hf, rfl⟩ := Option.map_eq_some_iff.mp hf'
    exact ⟨item, hf, keeps.nature item, keeps.count item, keeps.is_looted item⟩
  · exact ⟨item', hf', rfl, rfl, rfl⟩

lemma Loot.Gets.nature (keeps : listing.Keeps) (place : Place) :
    (loot'.item? place).map LootItem.nature =
      (loot.item? place).map LootItem.nature := by
  rw [gets.items, item?_entered listing taken (gets.filled.sublist.nodup List.nodup_range)]
  split
  · rw [Option.map_map]
    exact congrArg (Option.map · _) (funext keeps.nature)
  · rfl

lemma Loot.Gets.listed (absent : (loot.lists listing.kind).lookup guid = none) {guid' : ℕ}
    (listed : loot.Listed kind guid' i) : loot'.Listed kind guid' i := by
  rw [Loot.Listed, gets.entries]
  split
  next hs =>
    rw [Loot.Listed, Loot.entries, hs.1, hs.2, absent] at listed
    cases listed
  next => exact listed

lemma Loot.Gets.wellListed (proper : listing.Proper) (well : loot.WellListed) :
    loot'.WellListed := by
  have kept (place : Place) {item : LootItem} (hf : loot.item? place = some item) :
      ∃ item', loot'.item? place = some item' ∧ item'.nature = item.nature := by
    have nature := gets.nature proper.toKeeps place
    rw [hf, Option.map_some] at nature
    exact Option.map_eq_some_iff.mp nature
  have numbers (is : List ℕ) :
      (is.map fun i => (⟨i, false⟩ : QuestItem)).map QuestItem.index = is := by
    rw [List.map_map]
    exact List.map_id is
  constructor
  · intro kind guid'
    rw [gets.entries]
    split
    · rw [numbers]
      exact gets.filled.sublist.nodup List.nodup_range
    · exact well.distinct kind guid'
  · intro kind guid' i other listed
    rw [Loot.Listed, gets.entries] at listed
    split at listed
    next hs =>
      rw [numbers] at listed
      obtain ⟨item, hf, takes⟩ := gets.filled.takes i listed
      have normal : listing.kind.place i = .normal i := by
        rw [← hs.1]
        cases kind with
        | quest => exact absurd rfl other
        | ffa => rfl
        | conditional => rfl
      rw [normal] at hf
      obtain ⟨item', hf', nature⟩ := kept _ hf
      refine ⟨item', hf', (LootItem.listKind_of_nature nature).trans ?_⟩
      rw [hs.1] at other ⊢
      exact proper.tracks item other takes
    next =>
      obtain ⟨item, hf, tracked⟩ := well.normal kind guid' i other listed
      obtain ⟨item', hf', nature⟩ := kept (.normal i) hf
      exact ⟨item', hf', (LootItem.listKind_of_nature nature).trans tracked⟩
  · intro guid' i listed
    rw [Loot.Listed, gets.entries] at listed
    split at listed
    next hs =>
      rw [numbers] at listed
      obtain ⟨item, hf, -⟩ := gets.filled.takes i listed
      rw [← hs.1] at hf
      obtain ⟨item', hf', -⟩ := kept _ hf
      exact ⟨item', hf'⟩
    next =>
      obtain ⟨item, hf⟩ := well.quest guid' i listed
      obtain ⟨item', hf', -⟩ := kept (.quest i) hf
      exact ⟨item', hf'⟩

end

/-! ### What holds while the loot is filled -/

structure Fills (s : State) (done : List ℕ) : Prop where
  fair : Fair s
  recorded : Recorded s
  free : ∀ (i : ℕ) (item : LootItem), s.loot.items[i]? = some item → item.freeforall = true →
    item.is_looted = false
  sized : s.loot.Sized
  absent : ∀ kind guid, guid ∉ done → (s.loot.lists kind).lookup guid = none
  given : ∀ handout ∈ s.given, handout.guid ∈ done

lemma Fair.listed (fair : Fair s) (nature : ∀ place, (loot.item? place).map LootItem.nature =
      (s.loot.item? place).map LootItem.nature)
    (listed : ∀ {kind guid i}, s.loot.Listed kind guid i → loot.Listed kind guid i) :
    Fair { s with loot := loot } := by
  have before {i : ℕ} {item' : LootItem} (hf' : loot.items[i]? = some item') :
      ∃ item, s.loot.items[i]? = some item ∧ item'.nature = item.nature := by
    have hs := nature (.normal i)
    rw [show loot.item? (.normal i) = some item' from hf', Option.map_some] at hs
    obtain ⟨item, hf, nature⟩ := Option.map_eq_some_iff.mp hs.symm
    exact ⟨item, hf, nature.symm⟩
  constructor
  · intro i item' hf' single
    obtain ⟨item, hf, nature⟩ := before hf'
    exact fair.once i item hf ((freeforall_of_nature nature).symm.trans single)
  · intro i item' hf' ffa guid
    obtain ⟨item, hf, nature⟩ := before hf'
    obtain ⟨once, isListed⟩ :=
      fair.ffa i item hf ((freeforall_of_nature nature).symm.trans ffa) guid
    exact ⟨once, fun given => listed (isListed given)⟩
  · intro i guid
    obtain ⟨once, isListed⟩ := fair.quest i guid
    exact ⟨once, fun given => listed (isListed given)⟩
  · intro i item' hf' conditional guid given
    obtain ⟨item, hf, nature⟩ := before hf'
    exact listed (fair.conditional i item hf
      ((LootItem.listKind_of_nature nature).symm.trans conditional) guid given)

lemma Loot.Gets.recorded (gets : s.loot.Gets listing guid size loot' taken)
    (proper : listing.Proper) (recorded : Recorded s)
    (none : ∀ handout ∈ s.given, handout.guid ≠ guid) : Recorded { s with loot := loot' } := by
  have remarked := gets.remarked proper.toKeeps
  refine ⟨gets.wellListed proper recorded.well, ?_, ?_⟩
  · intro i item' hf' single left
    obtain ⟨item, hf, nature, count, looted⟩ := remarked (.normal i) item' hf'
    rw [looted]
    exact recorded.single i item hf ((freeforall_of_nature nature).symm.trans single)
      (count ▸ left)
  · intro kind guid' entry item' other hm hf' left
    obtain ⟨item, hf, -, count, -⟩ := remarked _ item' hf'
    rw [gets.entries] at hm
    split at hm
    next hs =>
      obtain ⟨i, -, rfl⟩ := List.mem_map.mp hm
      refine iff_of_false (by simp) fun given => ?_
      exact none _ given hs.2
    next => exact recorded.each kind guid' entry item other hm hf (count ▸ left)

/-- The listing leaves a place for each of its items. -/
def Loot.Listing.Fits (listing : Loot.Listing) (loot : Loot) : Prop :=
  listing.kind = .quest → ∃ n, listing.limit = some n ∧ 0 < n ∧
    loot.items.length + n ≤ MAX_NR_LOOT_ITEMS

lemma Loot.Gets.sized (gets : loot.Gets listing guid size loot' taken) (keeps : listing.Keeps)
    (fits : listing.Fits loot) (sized : loot.Sized) : loot'.Sized := by
  intro guid'
  rw [length_of_nature (gets.nature keeps), gets.entries]
  split
  next hs =>
    obtain ⟨n, limit, positive, room⟩ := fits hs.1.symm
    have bound := gets.limit n limit positive
    rw [List.length_map]
    omega
  next => exact sized guid'

/-- The player has received nothing, and nobody else than he and the players before has a list. -/
structure Opens (s : State) (done : List ℕ) (guid : ℕ) : Prop extends Fills s (guid :: done) where
  notYet : ∀ handout ∈ s.given, handout.guid ≠ guid

lemma Opens.gets (opens : Opens s done guid) (gets : s.loot.Gets listing guid size loot' taken)
    (proper : listing.Proper) (fits : listing.Fits s.loot)
    (absent : (s.loot.lists listing.kind).lookup guid = none) :
    Opens { s with loot := loot' } done guid where
  fair := opens.fair.listed (gets.nature proper.toKeeps) (gets.listed absent)
  recorded := gets.recorded proper opens.recorded opens.notYet
  free i item' hf' ffa := by
    obtain ⟨item, hf, nature, -, looted⟩ :=
      gets.remarked proper.toKeeps (.normal i) item' hf'
    rw [looted]
    exact opens.free i item hf ((freeforall_of_nature nature).symm.trans ffa)
  sized := gets.sized proper.toKeeps fits opens.sized
  absent kind guid' fresh := by
    rw [gets.lookup kind guid' fun hs => fresh (hs.2 ▸ List.mem_cons_self ..)]
    exact opens.absent kind guid' fresh
  given := opens.given
  notYet := opens.notYet

/-- A list of a player is filled as a listing says, unless there is no room for it. -/
structure FillsList (fill : Loot → Loot) (kind : ListKind) (guid : ℕ) : Prop where
  cases : ∀ loot, loot.Sized → (loot.lists kind).lookup guid = none → fill loot = loot ∨
    ∃ listing size taken, listing.kind = kind ∧ listing.Proper ∧ listing.Fits loot ∧
      loot.Gets listing guid size (fill loot) taken

lemma fillsList_quest (player : Player) :
    FillsList (fun loot => loot.FillQuestLoot GetItemTemplate player) .quest player.guid := by
  refine ⟨fun loot sized absent => ?_⟩
  rw [Loot.FillQuestLoot]
  split
  · exact .inl rfl
  next notFull =>
    have room : 0 < MAX_NR_LOOT_ITEMS - loot.items.length := by
      have few := sized player.guid
      omega
    obtain ⟨taken, gets⟩ := Loot.gets_fillList loot
      (Loot.questListing GetItemTemplate player (MAX_NR_LOOT_ITEMS - loot.items.length))
      loot.quest_items.length player.guid absent
    exact .inr ⟨_, _, taken, rfl, proper_questListing GetItemTemplate player _,
      fun _ => ⟨_, rfl, room, by omega⟩, gets⟩

lemma fillsList_ffa (player : Player) :
    FillsList (fun loot => loot.FillFFALoot GetItemTemplate player) .ffa player.guid := by
  refine ⟨fun loot _ absent => ?_⟩
  obtain ⟨taken, gets⟩ := Loot.gets_fillList loot (Loot.ffaListing GetItemTemplate player)
    loot.items.length player.guid absent
  exact .inr ⟨_, _, taken, rfl, proper_ffaListing GetItemTemplate player, nofun, gets⟩

lemma fillsList_conditional (player : Player) :
    FillsList (fun loot => loot.FillNonQuestNonFFAConditionalLoot GetItemTemplate player)
      .conditional player.guid := by
  refine ⟨fun loot _ absent => ?_⟩
  obtain ⟨taken, gets⟩ := Loot.gets_fillList loot (Loot.conditionalListing GetItemTemplate player)
    loot.items.length player.guid absent
  exact .inr ⟨_, _, taken, rfl, proper_conditionalListing GetItemTemplate player, nofun, gets⟩

lemma Opens.fillMissing (opens : Opens s done guid) {fill : Loot → Loot}
    (fillsList : FillsList fill kind guid) : Opens (s.fillMissing kind guid fill) done guid := by
  rw [State.fillMissing]
  split
  next absent =>
    rcases fillsList.cases s.loot opens.sized absent with
      hs | ⟨listing, size, taken, rfl, proper, fits, gets⟩
    · rw [hs]
      exact opens
    · exact opens.gets gets proper fits absent
  next => exact opens

lemma opens_fillLists (opens : Opens s done player.guid) :
    Opens (s.fillLists GetItemTemplate player) done player.guid :=
  ((opens.fillMissing (fillsList_quest GetItemTemplate player)).fillMissing
    (fillsList_ffa GetItemTemplate player)).fillMissing
      (fillsList_conditional GetItemTemplate player)

/-! ### What is free for all is listed -/

def Complete (player : Player) (loot : Loot) : Prop :=
  ∀ (i : ℕ) (item : LootItem), loot.items[i]? = some item → item.freeforall = true →
    item.AllowedForPlayer GetItemTemplate player = true → loot.Listed .ffa player.guid i

lemma allowed_of_nature {item item' : LootItem} (hs : item'.nature = item.nature)
    (player : Player) : item'.AllowedForPlayer GetItemTemplate player =
      item.AllowedForPlayer GetItemTemplate player := by
  simp only [LootItem.nature, Prod.mk.injEq] at hs
  rw [LootItem.AllowedForPlayer, LootItem.AllowedForPlayer, hs.1, hs.2.1, hs.2.2.2.1]

lemma Complete.of_nature (complete : Complete GetItemTemplate player loot)
    (nature : ∀ place, (loot'.item? place).map LootItem.nature =
      (loot.item? place).map LootItem.nature)
    (listed : ∀ i, loot.Listed .ffa player.guid i → loot'.Listed .ffa player.guid i) :
    Complete GetItemTemplate player loot' := by
  intro i item' hf' ffa allowed
  have hs := nature (.normal i)
  rw [show loot'.item? (.normal i) = some item' from hf', Option.map_some] at hs
  obtain ⟨item, hf, itemNature⟩ := Option.map_eq_some_iff.mp hs.symm
  refine listed i (complete i item hf ?_ ?_)
  · exact (freeforall_of_nature itemNature).trans ffa
  · exact (allowed_of_nature GetItemTemplate itemNature player).trans allowed

lemma complete_fillFFA (opens : Opens s done player.guid)
    (absent : s.loot.PlayerFFAItems.lookup player.guid = none) :
    Complete GetItemTemplate player (s.loot.FillFFALoot GetItemTemplate player) := by
  obtain ⟨taken, gets⟩ := Loot.gets_fillList s.loot (Loot.ffaListing GetItemTemplate player)
    s.loot.items.length player.guid absent
  intro i item' hf' ffa allowed
  obtain ⟨item, hf, nature, -⟩ :=
    gets.remarked (proper_ffaListing GetItemTemplate player).toKeeps (.normal i) item' hf'
  have free := (freeforall_of_nature nature).symm.trans ffa
  have inRange : i < s.loot.items.length := (List.getElem?_eq_some_iff.mp hf).1
  have taken := gets.filled.all rfl i (List.mem_range.mpr inRange) item hf (by
    simp only [Loot.ffaListing, Bool.and_eq_true, Bool.not_eq_true']
    exact ⟨⟨opens.free i item hf free, free⟩,
      (allowed_of_nature GetItemTemplate nature player).symm.trans allowed⟩)
  rw [Loot.Listed, Loot.FillFFALoot, gets.entries, if_pos ⟨rfl, rfl⟩, List.map_map]
  exact List.mem_map.mpr ⟨i, taken, rfl⟩

lemma lookup_fillMissing {fill : Loot → Loot} {kind' : ListKind} (sized : s.loot.Sized)
    (fillsList : FillsList fill kind guid) (other : kind' ≠ kind) :
    ((s.fillMissing kind guid fill).loot.lists kind').lookup guid =
      (s.loot.lists kind').lookup guid := by
  rw [State.fillMissing]
  split
  next absent =>
    rcases fillsList.cases s.loot sized absent with
      hs | ⟨listing, size, taken, rfl, proper, fits, gets⟩
    · rw [hs]
    · exact gets.lookup kind' guid fun hs => other hs.1
  next => rfl

lemma complete_fillLists (opens : Opens s done player.guid)
    (absent : ∀ kind, (s.loot.lists kind).lookup player.guid = none) :
    Complete GetItemTemplate player (s.fillLists GetItemTemplate player).loot := by
  have quest := fillsList_quest GetItemTemplate player
  have conditional := fillsList_conditional GetItemTemplate player
  rw [State.fillLists]
  set filled := s.fillMissing .quest player.guid fun loot =>
    loot.FillQuestLoot GetItemTemplate player
  have stillAbsent (kind : ListKind) (other : kind ≠ .quest) :
      (filled.loot.lists kind).lookup player.guid = none :=
    (lookup_fillMissing opens.sized quest other).trans (absent kind)
  have complete := complete_fillFFA GetItemTemplate (opens.fillMissing quest)
    (stillAbsent .ffa (by simp))
  have listFFA : filled.fillMissing .ffa player.guid
      (fun loot => loot.FillFFALoot GetItemTemplate player) =
      { filled with loot := filled.loot.FillFFALoot GetItemTemplate player } := by
    rw [State.fillMissing, stillAbsent .ffa (by simp)]
  rw [listFFA, State.fillMissing]
  split
  next none =>
    have sized := ((opens.fillMissing quest).fillMissing
      (fillsList_ffa GetItemTemplate player)).sized
    rw [listFFA] at sized
    rcases conditional.cases _ sized none with
      hs | ⟨listing, size, taken, kind, proper, -, gets⟩
    · exact (congrArg (Complete GetItemTemplate player) hs).mpr complete
    · exact complete.of_nature GetItemTemplate (gets.nature proper.toKeeps)
        fun i => gets.listed (kind ▸ none)
  next => exact complete

/-! ### Currencies -/

/-- The player takes what is listed for him, a quest item or one that is free for all. -/
lemma asListed_of_complete (complete : Complete GetItemTemplate player s.loot)
    (allowed : ∀ item, s.loot.items[i]? = some item → item.freeforall = true ∧
      item.AllowedForPlayer GetItemTemplate player = true) :
    AsListed GetItemTemplate s (.autostore player i) := by
  intro handout handed
  rw [State.handed] at handed
  split at handed
  · cases handed
  next hf inSlot =>
    split at handed
    swap
    · cases handed
    obtain rfl := Option.some.inj handed
    cases Loot.inSlot_of_LootItemInSlot inSlot with
    | quest slot listed left here => exact ⟨_, List.mem_of_getElem? listed, rfl, left⟩
    | listed here tracked listed index left =>
      intro item' hf'
      obtain rfl := Option.some.inj (here.symm.trans hf')
      have ffa := (allowed _ here).1
      rw [if_pos ffa]
      obtain rfl := Option.some.inj (tracked.symm.trans (LootItem.listKind_eq_ffa.mpr ffa))
      exact ⟨_, List.mem_of_getElem? listed, index, left⟩
    | unlisted here left unlisted =>
      obtain ⟨ffa, isAllowed⟩ := allowed _ here
      exact absurd (complete i _ here ffa isAllowed)
        (unlisted .ffa (LootItem.listKind_eq_ffa.mpr ffa))

lemma lookup_StoreLootItem (s : State) (player : Player) (lootSlot : ℕ)
    (other : guid ≠ player.guid) :
    ((s.StoreLootItem player lootSlot).loot.lists kind).lookup guid =
      (s.loot.lists kind).lookup guid := by
  rw [State.StoreLootItem]
  split
  · rfl
  next found inSlot =>
    split
    swap
    · rfl
    have marked : ((s.loot.lootEntry player.guid found.entry).lists kind).lookup guid =
        (s.loot.lists kind).lookup guid := by
      cases found.entry with
      | none => rfl
      | some entry => exact Loot.lookup_setEntries _ fun hs => other hs.2
    change ((Loot.lists (if _ then _ else _)) kind).lookup guid = _
    split
    · exact marked
    · rw [Loot.lists_modifyItem]
      exact marked

lemma guid_of_handed {lootSlot : ℕ} {handout : Handout}
    (handed : s.handed GetItemTemplate (.autostore player lootSlot) = some handout) :
    handout.guid = player.guid := by
  rw [State.handed] at handed
  split at handed
  · cases handed
  · split at handed
    · rw [← Option.some.inj handed]
    · cases handed

lemma Fills.storeLootItem (fills : Fills s done) (hm : player.guid ∈ done)
    (asListed : AsListed GetItemTemplate s (.autostore player i)) :
    Fills (s.StoreLootItem player i) done where
  fair :=
    (fair_step_iff GetItemTemplate fills.fair fills.recorded (.autostore player i)).mpr asListed
  recorded := fills.recorded.step GetItemTemplate (.autostore player i)
  free j item' hf' ffa := by
    rcases StoreLootItem_cases s player i with hs | ⟨hf, -, takes⟩
    · rw [hs] at hf'
      exact fills.free j item' hf' ffa
    · have item := takes.items (.normal j)
      rw [show (s.StoreLootItem player i).loot.item? (.normal j) = some item' from hf'] at item
      split at item
      next taken =>
        obtain ⟨old, here, rfl⟩ := Option.map_eq_some_iff.mp item.symm
        rw [taken.1, takes.inSlot.item_eq, Option.some.injEq] at here
        subst here
        rw [taken.2] at ffa
        cases ffa
      next => exact fills.free j item' item.symm ffa
  sized := (later_StoreLootItem s player i).sized fills.sized
  absent kind guid fresh := by
    have other : guid ≠ player.guid := fun hs => fresh (hs ▸ hm)
    rw [lookup_StoreLootItem s player i other]
    exact fills.absent kind guid fresh
  given handout given := by
    have new := given_step GetItemTemplate s (.autostore player i)
    rw [State.step] at new
    rw [new, List.mem_append] at given
    rcases given with now | before
    · rw [guid_of_handed GetItemTemplate (Option.mem_toList.mp now)]
      exact hm
    · exact fills.given handout before

/-- While a player takes the currencies of the filled loot. -/
structure Takers (start : Loot) (player : Player) (done : List ℕ) (s : State) : Prop where
  fills : Fills s done
  later : start.Later s.loot
  complete : Complete GetItemTemplate player s.loot

/-- The player takes the item in the slot, if anything, and if it is one for everybody it is free
for all and allowed for him. -/
lemma takeCurrency_cases (s : State) (player : Player) {itemsSize : ℕ} (i : ℕ)
    (inRange : ∀ item, s.loot.items[i]? = some item → i < itemsSize) :
    s.takeCurrency GetItemTemplate player itemsSize i = s ∨
      s.takeCurrency GetItemTemplate player itemsSize i = s.StoreLootItem player i ∧
        ∀ item, s.loot.items[i]? = some item → item.freeforall = true ∧
          item.AllowedForPlayer GetItemTemplate player = true := by
  rw [State.takeCurrency]
  split
  · exact .inl rfl
  next item here =>
    split
    swap
    · exact .inl rfl
    next takes =>
      simp only [Bool.and_eq_true, Bool.not_eq_true'] at takes
      refine .inr ⟨rfl, fun item' hf => ?_⟩
      -- an item in the slot is none of the quest items
      rw [if_pos (inRange item' hf)] at here
      obtain rfl := Option.some.inj (hf.symm.trans here)
      exact ⟨takes.1.1.2, takes.1.2⟩

lemma Takers.inRange {start : Loot} (takers : Takers GetItemTemplate start player done s)
    (item : LootItem) (hf : s.loot.items[i]? = some item) : i < start.items.length := by
  obtain ⟨item', hf', -⟩ := takers.later.item_back (.normal i) hf
  exact (List.getElem?_eq_some_iff.mp hf').1

lemma Takers.takeCurrency {start : Loot} (takers : Takers GetItemTemplate start player done s)
    (hm : player.guid ∈ done) (i : ℕ) :
    Takers GetItemTemplate start player done
      (s.takeCurrency GetItemTemplate player start.items.length i) := by
  rcases takeCurrency_cases GetItemTemplate s player i takers.inRange with
    hs | ⟨takes, allowed⟩
  · rw [hs]
    exact takers
  · rw [takes]
    have later := later_StoreLootItem s player i
    exact ⟨takers.fills.storeLootItem GetItemTemplate hm
        (asListed_of_complete GetItemTemplate takers.complete allowed),
      takers.later.trans later,
      takers.complete.of_nature GetItemTemplate later.items fun j => later.listed.mpr⟩

lemma Fills.opens (fills : Fills s done) (fresh : guid ∉ done) : Opens s done guid where
  fair := fills.fair
  recorded := fills.recorded
  free := fills.free
  sized := fills.sized
  absent kind guid' other := fills.absent kind guid' fun hm =>
    other (List.mem_cons_of_mem _ hm)
  given handout given := List.mem_cons_of_mem _ (fills.given handout given)
  notYet handout given hs := fresh (hs ▸ fills.given handout given)

lemma Fills.takers (fills : Fills s done) (fresh : player.guid ∉ done) :
    Takers GetItemTemplate (s.fillLists GetItemTemplate player).loot player (player.guid :: done)
      (s.fillLists GetItemTemplate player) where
  fills := (opens_fillLists GetItemTemplate (fills.opens fresh)).toFills
  later := Loot.Later.refl _
  complete := complete_fillLists GetItemTemplate (fills.opens fresh) fun kind =>
    fills.absent kind player.guid fresh

lemma FillNotNormalLootFor_keeps {P : State → Prop}
    (filled : P (s.fillLists GetItemTemplate player))
    (takes : ∀ s' i, P s' → P (s'.takeCurrency GetItemTemplate player
      (s.fillLists GetItemTemplate player).loot.items.length i)) (presentAtLooting : Bool) :
    P (s.FillNotNormalLootFor GetItemTemplate player presentAtLooting) := by
  rw [State.FillNotNormalLootFor]
  split
  · exact List.foldlRecOn _ _ filled fun s' kept i _ => takes s' i kept
  · exact filled

lemma Fills.fillNotNormalLootFor (fills : Fills s done) (fresh : player.guid ∉ done)
    (presentAtLooting : Bool) :
    Fills (s.FillNotNormalLootFor GetItemTemplate player presentAtLooting)
      (player.guid :: done) :=
  (FillNotNormalLootFor_keeps GetItemTemplate (fills.takers GetItemTemplate fresh)
    (fun _ i takers => takers.takeCurrency GetItemTemplate (List.mem_cons_self ..) i)
    presentAtLooting).fills

/-! ### The whole loot -/

def Loot.addStack (proto : ItemTemplate) (item : LootStoreItem) (count : ℕ) (loot : Loot) : Loot :=
  let new := LootItem.ofStoreItem proto item (min count proto.MaxStackSize)
  let counted := !item.needs_quest && item.conditions.isEmpty && !proto.partyLoot
  { loot with
    items := if item.needs_quest then loot.items else loot.items ++ [new]
    quest_items := if item.needs_quest then loot.quest_items ++ [new] else loot.quest_items
    unlootedCount := loot.unlootedCount + if counted then 1 else 0 }

lemma Loot.addStacks_succ (proto : ItemTemplate) (item : LootStoreItem) (numStacks count : ℕ)
    (loot : Loot) : loot.addStacks proto item (numStacks + 1) count =
      if (loot.lootItems item.needs_quest).length <
          (if item.needs_quest then MAX_NR_QUEST_ITEMS else MAX_NR_LOOT_ITEMS) then
        (loot.addStack proto item count).addStacks proto item numStacks (count - proto.MaxStackSize)
      else loot := by
  cases quest : item.needs_quest with
  | true => simp [addStacks, addStack, quest]
  | false => simp [addStacks, addStack, quest]

lemma Loot.addStacks_keeps {P : Loot → Prop}
    (keeps : ∀ loot count, P loot → (loot.lootItems item.needs_quest).length <
      (if item.needs_quest then MAX_NR_QUEST_ITEMS else MAX_NR_LOOT_ITEMS) →
      P (loot.addStack proto item count)) (numStacks : ℕ) :
    ∀ {count : ℕ} {loot : Loot}, P loot → P (loot.addStacks proto item numStacks count) := by
  induction numStacks with
  | zero => exact fun kept => kept
  | succ numStacks ih =>
    intro count loot kept
    rw [Loot.addStacks_succ]
    by_cases room : (loot.lootItems item.needs_quest).length <
        (if item.needs_quest then MAX_NR_QUEST_ITEMS else MAX_NR_LOOT_ITEMS)
    · rw [if_pos room]
      exact ih (keeps loot count kept room)
    · rw [if_neg room]
      exact kept

lemma Loot.addItems_keeps {P : Loot → Prop}
    (keeps : ∀ proto item loot count, P loot → (loot.lootItems item.needs_quest).length <
      (if item.needs_quest then MAX_NR_QUEST_ITEMS else MAX_NR_LOOT_ITEMS) →
      P (loot.addStack proto item count)) (drops : List (LootStoreItem × ℕ)) :
    ∀ {loot : Loot}, P loot →
      P (drops.foldl (fun loot drop => loot.AddItem GetItemTemplate drop.1 drop.2) loot) := by
  induction drops with
  | nil => exact fun kept => kept
  | cons drop drops ih =>
    intro loot kept
    refine ih ?_
    change P (loot.AddItem GetItemTemplate drop.1 drop.2)
    unfold Loot.AddItem
    cases GetItemTemplate drop.1.itemid with
    | none => exact kept
    | some proto => exact Loot.addStacks_keeps (keeps proto drop.1) _ kept

/-- What has been dropped and is in nobody's list yet. -/
structure Dropped (loot : Loot) : Prop where
  lists : loot.lists = fun _ => ∅
  unlooted : ∀ place item, loot.item? place = some item → item.is_looted = false
  size : loot.items.length ≤ MAX_NR_LOOT_ITEMS

def Loot.endPlace (loot : Loot) (needs_quest : Bool) : Place :=
  if needs_quest then .quest loot.quest_items.length else .normal loot.items.length

lemma Loot.item?_addStack (proto : ItemTemplate) (item : LootStoreItem) (count : ℕ) (loot : Loot)
    (place : Place) : (loot.addStack proto item count).item? place =
      if place = loot.endPlace item.needs_quest then
        some (LootItem.ofStoreItem proto item (min count proto.MaxStackSize))
      else loot.item? place := by
  have added {items : List LootItem} {last : LootItem} {i : ℕ} :
      (items ++ [last])[i]? = if i = items.length then some last else items[i]? := by
    rw [List.getElem?_append]
    split
    next inside => rw [if_neg inside.ne]
    next beyond =>
      split
      next hs => simp [hs]
      next other =>
        rw [List.getElem?_eq_none (by simp; omega), List.getElem?_eq_none (by omega)]
  cases quest : item.needs_quest <;> cases place <;>
    simp [Loot.addStack, Loot.item?, Loot.endPlace, quest, added]

lemma dropped_nil (gold : ℕ) : Dropped { gold := gold } where
  lists := rfl
  unlooted place item hf := by
    cases place with
    | normal i => cases hf
    | quest i => cases hf
  size := Nat.zero_le _

lemma mem_of_item?_addStack {count : ℕ} {place : Place} {new : LootItem}
    (hf : (loot.addStack proto item count).item? place = some new) :
    loot.item? place = some new ∨
      new = LootItem.ofStoreItem proto item (min count proto.MaxStackSize) := by
  rw [Loot.item?_addStack] at hf
  split at hf
  · exact .inr (Option.some.inj hf).symm
  · exact .inl hf

lemma Dropped.addStack {count : ℕ} (dropped : Dropped loot)
    (room : (loot.lootItems item.needs_quest).length <
      if item.needs_quest then MAX_NR_QUEST_ITEMS else MAX_NR_LOOT_ITEMS) :
    Dropped (loot.addStack proto item count) := by
  refine ⟨dropped.lists, fun place new hf => ?_, ?_⟩
  · rcases mem_of_item?_addStack hf with before | rfl
    · exact dropped.unlooted place new before
    · rfl
  · cases quest : item.needs_quest with
    | true => simpa [Loot.addStack, quest] using dropped.size
    | false =>
      simp only [Loot.lootItems, quest] at room
      simpa [Loot.addStack, quest, Nat.succ_le_iff] using room

lemma Dropped.inRound (dropped : Dropped loot) (guid : ℕ) :
    Dropped { loot with roundRobinPlayer := guid } := by
  refine ⟨dropped.lists, fun place item hf => dropped.unlooted place item ?_, dropped.size⟩
  cases place with
  | normal i => exact hf
  | quest i => exact hf

lemma Dropped.fills (dropped : Dropped loot) : Fills { loot := loot } [] where
  fair := {
    once := fun _ _ _ _ => by simp
    ffa := fun _ _ _ _ _ => by simp
    quest := fun _ _ => by simp
    conditional := fun _ _ _ _ _ given => absurd given List.not_mem_nil }
  recorded := {
    well := by
      have entries (kind : ListKind) (guid : ℕ) : loot.entries kind guid = [] := by
        rw [Loot.entries, dropped.lists]
        rfl
      refine ⟨fun kind guid => ?_, fun kind guid i other listed => ?_, fun guid i listed => ?_⟩
      · rw [entries]
        exact List.nodup_nil
      · rw [Loot.Listed, entries] at listed
        cases listed
      · rw [Loot.Listed, entries] at listed
        cases listed
    single := fun i item hf _ _ => by simp [dropped.unlooted (.normal i) item hf]
    each := fun kind guid entry item _ hm _ _ => by
      rw [Loot.entries, dropped.lists] at hm
      cases hm }
  free i item hf _ := dropped.unlooted (.normal i) item hf
  sized guid := by
    rw [Loot.entries, dropped.lists]
    exact dropped.size
  absent kind guid _ := by
    rw [dropped.lists]
    rfl
  given _ given := absurd given List.not_mem_nil

lemma fills_members (members : List (Player × Bool)) : ∀ {s : State} {done : List ℕ},
    Fills s done → (members.map fun member => member.1.guid).Nodup →
    (∀ member ∈ members, member.1.guid ∉ done) → ∃ done', Fills (members.foldl
      (fun s member => s.FillNotNormalLootFor GetItemTemplate member.1 member.2) s) done' := by
  induction members with
  | nil => exact fun fills _ _ => ⟨_, fills⟩
  | cons member members ih =>
    intro s done fills nodup fresh
    rw [List.map_cons, List.nodup_cons] at nodup
    refine ih (fills.fillNotNormalLootFor GetItemTemplate (fresh member (List.mem_cons_self ..)) _)
      nodup.2 fun other inRest => ?_
    rw [List.mem_cons, not_or]
    refine ⟨fun hs => nodup.1 ?_, fresh other (List.mem_cons_of_mem _ inRest)⟩
    exact hs ▸ List.mem_map_of_mem inRest

lemma map_markThreshold {α : Type} {f : LootItem → α}
    (hs : ∀ item, f { item with is_underthreshold := true } = f item) (threshold : ℕ)
    (loot : Loot) (place : Place) :
    ((State.markThreshold GetItemTemplate threshold loot).item? place).map f =
      (loot.item? place).map f := by
  cases place with
  | quest i => rfl
  | normal i =>
    change ((loot.items.map fun item => _)[i]?).map f = _
    rw [List.getElem?_map, Option.map_map]
    refine congrArg (Option.map · loot.items[i]?) (funext fun item => ?_)
    rw [Function.comp_apply]
    split
    · exact hs item
    · rfl

lemma item?_markThreshold (threshold : ℕ) (loot : Loot) (place : Place) (item' : LootItem)
    (hf' : (State.markThreshold GetItemTemplate threshold loot).item? place = some item') :
    ∃ item, loot.item? place = some item ∧ item'.nature = item.nature ∧
      item'.count = item.count ∧ item'.is_looted = item.is_looted := by
  have marked := map_markThreshold GetItemTemplate
    (f := fun item => (item.nature, item.count, item.is_looted)) (fun _ => rfl) threshold loot place
  rw [hf', Option.map_some] at marked
  obtain ⟨item, hf, hs⟩ := Option.map_eq_some_iff.mp marked.symm
  simp only [Prod.mk.injEq] at hs
  exact ⟨item, hf, hs.1.symm, hs.2.1.symm, hs.2.2.symm⟩

lemma later_markThreshold (threshold : ℕ) (loot : Loot) :
    loot.Later (State.markThreshold GetItemTemplate threshold loot) :=
  ⟨fun place => map_markThreshold GetItemTemplate (fun _ => rfl) threshold loot place,
    fun _ _ => rfl⟩

lemma fair_FillLoot (gold : ℕ) (drops : List (LootStoreItem × ℕ)) (lootOwner : Player)
    (personal : Bool) (group : Option State.Party) :
    Fair (State.FillLoot GetItemTemplate gold drops lootOwner personal group) ∧
      Recorded (State.FillLoot GetItemTemplate gold drops lootOwner personal group) ∧
      (State.FillLoot GetItemTemplate gold drops lootOwner personal group).loot.Sized := by
  have dropped : Dropped (drops.foldl
      (fun loot drop => loot.AddItem GetItemTemplate drop.1 drop.2) { gold := gold }) :=
    Loot.addItems_keeps GetItemTemplate (fun _ _ _ _ => Dropped.addStack) drops (dropped_nil gold)
  unfold State.FillLoot
  split
  next party =>
    obtain ⟨done, fills⟩ := fills_members GetItemTemplate party.members
      (dropped.inRound lootOwner.guid).fills party.distinct fun _ _ => List.not_mem_nil
    have later := later_markThreshold GetItemTemplate party.GetLootThreshold
    refine ⟨fills.fair.relabelled (later _), ?_, (later _).sized fills.sized⟩
    refine Remarked.recorded (fun place item' hf' => ?_) fills.recorded (later _) fun _ _ => rfl
    obtain ⟨item, hf, nature, count, looted⟩ :=
      item?_markThreshold GetItemTemplate party.GetLootThreshold _ place item' hf'
    exact ⟨item, hf, freeforall_of_nature nature, count, looted⟩
  next =>
    have fills : Fills _ [lootOwner.guid] :=
      dropped.fills.fillNotNormalLootFor GetItemTemplate List.not_mem_nil true
    exact ⟨fills.fair, fills.recorded, fills.sized⟩

/-- Handouts stay fair as long as each request finds the marks that it does not look at as it needs
them, and no longer. -/
theorem fair_requests_iff (gold : ℕ) (drops : List (LootStoreItem × ℕ)) (lootOwner : Player)
    (personal : Bool) (group : Option State.Party) (requests : List State.Request) :
    Fair (run (State.step GetItemTemplate)
        (State.FillLoot GetItemTemplate gold drops lootOwner personal group) requests) ↔
      Along (State.step GetItemTemplate) (Warranted GetItemTemplate)
        (State.FillLoot GetItemTemplate gold drops lootOwner personal group) requests := by
  obtain ⟨fair, recorded, -⟩ := fair_FillLoot GetItemTemplate gold drops lootOwner personal group
  exact fair_run_iff GetItemTemplate requests fair recorded

end Filling

/-! ### An item for skinners -/

def skinTemplate : ItemTemplate where
  Quality := 1
  MaxStackSize := 20
  partyLoot := true
  smartLoot := true
  RequiredSkill := 393
  SpellId := 0
  hordeOnly := false
  allianceOnly := false
  ignoreQuestStatus := false
  followLootRules := false
  StartQuest := 0
  IsCurrencyToken := false

def groupMember (guid : ℕ) (skills : List ℕ) : Player where
  guid := guid
  IsObjectMeetToConditions _ := true
  HasSkill skill := skill ∈ skills
  HasSpell _ := false
  GetTeam := .alliance
  hasQuestStatus _ := false
  HasQuestForItem _ := false
  GetGroup := some ⟨.groupLoot, 0⟩
  CanStoreNewItem _ _ := true

def skinners : State.Party where
  members := [(groupMember 1 [393], true), (groupMember 2 [], true)]
  distinct := by decide
  GetLootThreshold := 2

def skinLoot : State :=
  State.FillLoot (fun _ => some skinTemplate) 0 [(⟨15419, false, []⟩, 1)] (groupMember 1 [393])
    false (some skinners)

/-- A member without the skill takes the item as often as he likes. -/
theorem unskilled_takes_twice : ¬ Fair (run (State.step fun _ => some skinTemplate) skinLoot
    [.autostore (groupMember 2 []) 0, .autostore (groupMember 2 []) 0]) := by
  intro fair
  have once := (fair.ffa 0 _ rfl rfl 2).1
  have twice : (run (State.step fun _ => some skinTemplate) skinLoot
      [.autostore (groupMember 2 []) 0, .autostore (groupMember 2 []) 0]).given.count
        ⟨.normal 0, 2⟩ = 2 := by
    decide +kernel
  omega

end WorldServer.Looting
