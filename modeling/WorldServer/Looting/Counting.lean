import WorldServer.Looting.Units
import WorldServer.Looting.LootView

/-!
# Counting what is left

While a loot is filled its counter goes up: for an item for everybody when it is dropped, for an
item that is free for all with each entry, for an item with conditions with its first entry, and for
a quest item with each entry until it is blocked. If no two players get an entry for a quest item
that is not blocked in between, the counter says what is left.
-/
namespace WorldServer.Looting

open WorldServer.Lib

variable {kind : ListKind} {i : ℕ} {item' : LootItem}

section Listings

variable {loot loot' : Loot} {listing : Loot.Listing} {guid size : ℕ} {taken : List ℕ}

/-! ### What comes into a list -/

lemma Loot.Gets.item? (gets : loot.Gets listing guid size loot' taken) (place : Place) :
    loot'.item? place = if ∃ i ∈ taken, place = listing.kind.place i then
      (loot.item? place).map listing.mark else loot.item? place := by
  rw [gets.items, item?_entered listing taken (gets.filled.sublist.nodup List.nodup_range)]

lemma Loot.Gets.open_iff (gets : loot.Gets listing guid size loot' taken) {guid' : ℕ} :
    loot'.Open kind guid' i ↔
      if kind = listing.kind ∧ guid' = guid then i ∈ taken else loot.Open kind guid' i := by
  rw [Loot.Open, gets.entries]
  split
  · simp
  · rfl

lemma Loot.not_open_of_absent (absent : (loot.lists kind).lookup guid = none) (i : ℕ) :
    ¬ loot.Open kind guid i := by
  rintro ⟨entry, hm, -⟩
  rw [Loot.entries, absent] at hm
  cases hm

lemma Loot.Gets.openers_of_ne (gets : loot.Gets listing guid size loot' taken)
    (other : kind ≠ listing.kind) (i : ℕ) : loot'.openers kind i = loot.openers kind i := by
  refine Loot.openers_congr fun guid' => ?_
  rw [gets.open_iff, if_neg fun both => other both.1]

lemma Loot.Gets.openers (gets : loot.Gets listing guid size loot' taken)
    (absent : (loot.lists listing.kind).lookup guid = none) (i : ℕ) :
    loot'.openers listing.kind i = if i ∈ taken then insert guid (loot.openers listing.kind i)
      else loot.openers listing.kind i := by
  have notOpen := Loot.not_open_of_absent absent i
  ext guid'
  rw [Loot.mem_openers, gets.open_iff]
  split
  next hs =>
    split
    next isTaken => simp [isTaken, hs.2]
    next notTaken =>
      rw [Loot.mem_openers]
      exact iff_of_false notTaken (hs.2 ▸ notOpen)
  next other =>
    have otherGuid : guid' ≠ guid := fun hs => other ⟨rfl, hs⟩
    split
    · rw [Finset.mem_insert, or_iff_right otherGuid, Loot.mem_openers]
    · rw [Loot.mem_openers]

/-- The listing counts an item that is free for all with each entry, and another one with the first
entry. -/
def Loot.Listing.Exact (listing : Loot.Listing) (loot : Loot) : Prop :=
  ∀ i item, loot.item? (listing.kind.place i) = some item → listing.takes item = true →
    item.is_looted = false ∧ (listing.kind.place i).listKind item = some listing.kind ∧
      (listing.counts item = true ↔
        item.freeforall = true ∨ loot.openers listing.kind i = ∅)

def Loot.Listing.countsAt (listing : Loot.Listing) (loot : Loot) (i : ℕ) : Bool :=
  (loot.item? (listing.kind.place i)).any listing.counts

lemma index_place (kind : ListKind) (i : ℕ) : (kind.place i).index = i := by
  cases kind <;> rfl

section

variable (gets : loot.Gets listing guid size loot' taken)
include gets

lemma Loot.Gets.units_of_taken (keeps : listing.Keeps) (exact : listing.Exact loot)
    (absent : (loot.lists listing.kind).lookup guid = none) (isTaken : i ∈ taken) :
    loot'.units (listing.kind.place i) =
      loot.units (listing.kind.place i) + if listing.countsAt loot i then 1 else 0 := by
  obtain ⟨item, here, takes⟩ := gets.filled.takes i isTaken
  obtain ⟨left, tracked, counts⟩ := exact i item here takes
  have here' := gets.item? (listing.kind.place i)
  rw [if_pos ⟨i, isTaken, rfl⟩, here, Option.map_some] at here'
  have tracked' := (Loot.listKind_of_nature (keeps.nature item) _).trans tracked
  have left' := (keeps.is_looted item).trans left
  have openers := gets.openers absent i
  rw [if_pos isTaken] at openers
  have fresh : guid ∉ loot.openers listing.kind i := fun isOpen =>
    Loot.not_open_of_absent absent i (Loot.mem_openers.mp isOpen)
  have card := Finset.card_insert_of_notMem fresh
  have countsAt : listing.countsAt loot i = listing.counts item := by
    rw [Loot.Listing.countsAt, here, Option.any_some]
  rw [countsAt]
  cases free : item.freeforall with
  | true =>
    have free' := (freeforall_of_nature (keeps.nature item)).trans free
    rw [Loot.units_freeforall here tracked free left,
      Loot.units_freeforall here' tracked' free' left', index_place, openers, card,
      if_pos (counts.mpr (.inl free))]
  | false =>
    have free' := (freeforall_of_nature (keeps.nature item)).trans free
    rw [Loot.units_single here tracked free left, Loot.units_single here' tracked' free' left',
      index_place, openers, card]
    simp only [counts, free, Bool.false_eq_true, false_or, ← Finset.card_eq_zero]
    split <;> omega

lemma Loot.Gets.units_of_not_taken (absent : (loot.lists listing.kind).lookup guid = none)
    {place : Place} (notTaken : ¬ ∃ i ∈ taken, place = listing.kind.place i) :
    loot'.units place = loot.units place := by
  refine Loot.units_congr ?_ fun kind hs => ?_
  · rw [gets.item?, if_neg notTaken]
  · by_cases sameKind : kind = listing.kind
    · subst sameKind
      rw [gets.openers absent, if_neg fun hm => notTaken ⟨_, hm, hs.symm⟩]
    · exact gets.openers_of_ne sameKind _

lemma Loot.Gets.unitsLeft (keeps : listing.Keeps) (exact : listing.Exact loot)
    (absent : (loot.lists listing.kind).lookup guid = none) :
    loot'.unitsLeft = loot.unitsLeft + taken.countP (listing.countsAt loot) := by
  set counted : Finset Place := ((taken.filter (listing.countsAt loot)).toFinset.image
    listing.kind.place)
  have nodup := gets.filled.sublist.nodup List.nodup_range
  have card : counted.card = taken.countP (listing.countsAt loot) := by
    rw [Finset.card_image_of_injective _ (Loot.place_injective listing.kind),
      List.toFinset_card_of_nodup (nodup.filter _), List.countP_eq_length_filter]
  have mem_counted (place : Place) : place ∈ counted ↔
      ∃ i ∈ taken, listing.countsAt loot i = true ∧ listing.kind.place i = place := by
    simp [counted, and_assoc]
  have inside : counted ⊆ loot.places := by
    intro place hm
    obtain ⟨i, isTaken, -, rfl⟩ := (mem_counted place).mp hm
    obtain ⟨item, here, -⟩ := gets.filled.takes i isTaken
    exact Loot.mem_places.mpr ⟨item, here⟩
  have units (place : Place) :
      loot'.units place = loot.units place + if place ∈ counted then 1 else 0 := by
    by_cases isTaken : ∃ i ∈ taken, place = listing.kind.place i
    · obtain ⟨i, isTaken, rfl⟩ := isTaken
      rw [gets.units_of_taken keeps exact absent isTaken]
      have hs : listing.kind.place i ∈ counted ↔ listing.countsAt loot i = true := by
        rw [mem_counted]
        constructor
        · rintro ⟨j, -, counts, place⟩
          exact Loot.place_injective _ place ▸ counts
        · exact fun counts => ⟨i, isTaken, counts, rfl⟩
      simp only [hs]
    · rw [gets.units_of_not_taken absent isTaken, if_neg, Nat.add_zero]
      intro hm
      obtain ⟨i, isTaken', -, place⟩ := (mem_counted place).mp hm
      exact isTaken ⟨i, isTaken', place.symm⟩
  rw [Loot.unitsLeft, Loot.places_congr (gets.nature keeps),
    Finset.sum_congr rfl fun place _ => units place, Finset.sum_add_distrib, Finset.sum_ite_mem,
    Finset.inter_eq_right.mpr inside, ← Finset.card_eq_sum_ones, card, Loot.unitsLeft]

end

lemma Loot.unlootedCount_entered (listing : Loot.Listing) (taken : List ℕ)
    (nodup : taken.Nodup) (loot : Loot) :
    (taken.foldl (Loot.enterAt listing) loot).unlootedCount =
      loot.unlootedCount + UInt8.ofNat (taken.countP (listing.countsAt loot)) := by
  induction taken generalizing loot with
  | nil => simp
  | cons i taken ih =>
    obtain ⟨fresh, nodup⟩ := List.nodup_cons.mp nodup
    have later : taken.countP (listing.countsAt (loot.enterAt listing i)) =
        taken.countP (listing.countsAt loot) := by
      refine List.countP_congr fun j hm => ?_
      rw [Loot.Listing.countsAt, Loot.item?_enterAt_of_ne, ← Loot.Listing.countsAt]
      exact fun hs => fresh (Loot.place_injective listing.kind hs ▸ hm)
    have here : (loot.enterAt listing i).unlootedCount =
        loot.unlootedCount + UInt8.ofNat (if listing.countsAt loot i then 1 else 0) := by
      rw [Loot.enterAt, Loot.Listing.countsAt]
      cases loot.item? (listing.kind.place i) with
      | none => simp
      | some item =>
        dsimp only
        rw [Loot.enter]
        cases counts : listing.counts item <;> simp [counts]
    rw [List.foldl_cons, ih nodup, here, later, List.countP_cons, UInt8.ofNat_add,
      UInt8.add_assoc, UInt8.add_comm (UInt8.ofNat (ite ..))]

/-- The counter is right up to the bits that it has. -/
def Counted (loot : Loot) : Prop := loot.unlootedCount = UInt8.ofNat loot.unitsLeft

lemma Counted.gets (counted : Counted loot) (gets : loot.Gets listing guid size loot' taken)
    (keeps : listing.Keeps) (exact : listing.Exact loot)
    (absent : (loot.lists listing.kind).lookup guid = none) : Counted loot' := by
  have nodup := gets.filled.sublist.nodup List.nodup_range
  rw [Counted, gets.unlootedCount, Loot.unlootedCount_entered listing taken nodup,
    gets.unitsLeft keeps exact absent, counted, UInt8.ofNat_add]

lemma Loot.Gets.item_back (gets : loot.Gets listing guid size loot' taken) (place : Place)
    (found' : loot'.item? place = some item') :
    ∃ item, loot.item? place = some item ∧
      item' = if ∃ i ∈ taken, place = listing.kind.place i then listing.mark item else item := by
  rw [gets.item?] at found'
  split at found'
  next isTaken =>
    obtain ⟨item, found, rfl⟩ := Option.map_eq_some_iff.mp found'
    exact ⟨item, found, (if_pos isTaken).symm⟩
  next notTaken => exact ⟨item', found', (if_neg notTaken).symm⟩

end Listings

section Filling

variable (GetItemTemplate : ℕ → Option ItemTemplate)

/-! ### The marks that the counting needs -/

namespace Player

def blocks (player : Player) : Bool :=
  match player.GetGroup with
  | none => true
  | some group => group.GetLootMethod ≠ .groupLoot && group.GetLootMethod ≠ .roundRobin

/-- He gets an entry for the item as long as there is room in his list. -/
def wants (player : Player) (item : LootItem) : Bool :=
  item.AllowedForPlayer GetItemTemplate player || item.followsRules player

lemma wants_of_nature {item : LootItem} (hs : item'.nature = item.nature) (player : Player) :
    player.wants GetItemTemplate item' = player.wants GetItemTemplate item := by
  have rules : item'.follow_loot_rules = item.follow_loot_rules := by
    simp only [LootItem.nature, Prod.mk.injEq] at hs
    exact hs.2.2.2.2
  rw [wants, wants, allowed_of_nature GetItemTemplate hs, LootItem.followsRules,
    LootItem.followsRules, rules]

end Player

/-- A quest item that only one player may take is in the list of one of the two players at most,
unless the first one blocks it. -/
def Uncontended (drops : List (LootStoreItem × ℕ)) (first second : Player) : Prop :=
  first.blocks = true ∨ ∀ drop ∈ drops, drop.1.needs_quest = true → ∀ proto,
    GetItemTemplate drop.1.itemid = some proto → proto.partyLoot = false →
    ¬ (first.wants GetItemTemplate (.ofStoreItem proto drop.1 drop.2) = true ∧
      second.wants GetItemTemplate (.ofStoreItem proto drop.1 drop.2) = true)

def QuestDrop (drops : List (LootStoreItem × ℕ)) (item : LootItem) : Prop :=
  ∃ drop ∈ drops, drop.1.needs_quest = true ∧ ∃ proto,
    GetItemTemplate drop.1.itemid = some proto ∧
      item.nature = (LootItem.ofStoreItem proto drop.1 drop.2).nature

/-- An item with conditions is marked as counted when it is in a list. -/
def CountsFirst (loot : Loot) : Prop :=
  ∀ (i : ℕ) (item : LootItem), loot.items[i]? = some item → item.is_looted = false →
    item.listKind = some .conditional →
    (item.is_counted = true ↔ (loot.openers .conditional i).Nonempty)

/-- A quest item is blocked when it is in a list, unless it is in the list of one of the players
`done` who do not block. -/
structure BlocksFirst (drops : List (LootStoreItem × ℕ)) (loot : Loot) (done : List Player) :
    Prop where
  is_blocked : ∀ (i : ℕ) (item : LootItem), loot.quest_items[i]? = some item →
    item.is_looted = false → item.freeforall = false → item.is_blocked = true →
    (loot.openers .quest i).Nonempty
  listed : ∀ (i : ℕ) (item : LootItem), loot.quest_items[i]? = some item →
    item.is_looted = false → item.freeforall = false → (loot.openers .quest i).Nonempty →
    item.is_blocked = true ∨
      ∃ player ∈ done, player.blocks = false ∧ player.wants GetItemTemplate item = true
  free : ∀ (i : ℕ) (item : LootItem), loot.quest_items[i]? = some item →
    item.freeforall = true → item.is_looted = false
  dropped : ∀ (i : ℕ) (item : LootItem), loot.quest_items[i]? = some item →
    QuestDrop GetItemTemplate drops item

def OwnLeft (loot : Loot) (guid : ℕ) : Prop :=
  ∀ (i : ℕ) (item : LootItem), loot.quest_items[i]? = some item → loot.Open .quest guid i →
    item.is_looted = false

section Congruence

variable {drops : List (LootStoreItem × ℕ)} {loot loot' : Loot} {done : List Player}

lemma CountsFirst.congr (counts : CountsFirst loot)
    (items : ∀ i, loot'.item? (.normal i) = loot.item? (.normal i))
    (openers : ∀ i, loot'.openers .conditional i = loot.openers .conditional i) :
    CountsFirst loot' := by
  intro i item found left tracked
  rw [openers]
  exact counts i item ((items i).symm.trans found) left tracked

lemma BlocksFirst.congr (blocks : BlocksFirst GetItemTemplate drops loot done)
    (items : ∀ i, loot'.item? (.quest i) = loot.item? (.quest i))
    (openers : ∀ i, loot'.openers .quest i = loot.openers .quest i) :
    BlocksFirst GetItemTemplate drops loot' done := by
  constructor
  · intro i item found left single blocked
    rw [openers]
    exact blocks.is_blocked i item ((items i).symm.trans found) left single blocked
  · intro i item found left single some
    rw [openers] at some
    exact blocks.listed i item ((items i).symm.trans found) left single some
  · exact fun i item found => blocks.free i item ((items i).symm.trans found)
  · exact fun i item found => blocks.dropped i item ((items i).symm.trans found)

lemma OwnLeft.congr {guid : ℕ} (own : OwnLeft loot guid)
    (items : ∀ i, loot'.item? (.quest i) = loot.item? (.quest i))
    (entries : ∀ i, loot'.Open .quest guid i ↔ loot.Open .quest guid i) :
    OwnLeft loot' guid :=
  fun i item found isOpen => own i item ((items i).symm.trans found) ((entries i).mp isOpen)

end Congruence

/-! ### Filling the lists of a player -/

lemma exact_ffaListing (loot : Loot) (player : Player) :
    (Loot.ffaListing GetItemTemplate player).Exact loot := by
  intro i item here takes
  simp only [Loot.ffaListing, Bool.and_eq_true, Bool.not_eq_true'] at takes
  exact ⟨takes.1.1, LootItem.listKind_eq_ffa.mpr takes.1.2, iff_of_true rfl (.inl takes.1.2)⟩

lemma exact_conditionalListing {loot : Loot} (counts : CountsFirst loot) (player : Player) :
    (Loot.conditionalListing GetItemTemplate player).Exact loot := by
  intro i item here takes
  have tracked := (proper_conditionalListing GetItemTemplate player).tracks item (by
    simp [Loot.conditionalListing]) takes
  simp only [Loot.conditionalListing, Bool.and_eq_true, Bool.not_eq_true'] at takes
  obtain ⟨⟨⟨left, single⟩, -⟩, -⟩ := takes
  refine ⟨left, tracked, ?_⟩
  have first := counts i item here left tracked
  rw [single, ← Finset.not_nonempty_iff_eq_empty]
  change (!item.is_counted) = true ↔ _ ∨ ¬ (loot.openers .conditional i).Nonempty
  rw [← first]
  simp

lemma exact_questListing {drops : List (LootStoreItem × ℕ)} {loot : Loot} {done : List Player}
    (blocks : BlocksFirst GetItemTemplate drops loot done) {player : Player}
    (uncontended : ∀ other ∈ done, Uncontended GetItemTemplate drops other player) (room : ℕ) :
    (Loot.questListing GetItemTemplate player room).Exact loot := by
  intro i item here takes
  have wants : player.wants GetItemTemplate item = true := by
    simp only [Loot.questListing, Bool.and_eq_true] at takes
    exact takes.2
  have left : item.is_looted = false := by
    simp only [Loot.questListing, Bool.and_eq_true, Bool.not_eq_true'] at takes
    exact takes.1
  refine ⟨left, rfl, ?_⟩
  change (item.freeforall || !item.is_blocked) = true ↔ _
  cases single : item.freeforall with
  | true => simp
  | false =>
    -- the item is blocked, just if somebody has an entry for it
    have marked : item.is_blocked = true ↔ (loot.openers .quest i).Nonempty := by
      refine ⟨blocks.is_blocked i item here left single, fun some => ?_⟩
      rcases blocks.listed i item here left single some with blocked | ⟨other, hm, not, wants'⟩
      · exact blocked
      obtain ⟨drop, isDrop, quest, proto, known, nature⟩ := blocks.dropped i item here
      rcases uncontended other hm with blocks | nobody
      · rw [blocks] at not
        cases not
      · have notFree : proto.partyLoot = false := (freeforall_of_nature nature).symm.trans single
        have hs := Player.wants_of_nature GetItemTemplate nature
        refine absurd ⟨?_, ?_⟩ (nobody drop isDrop quest proto known notFree)
        · rw [← hs]
          exact wants'
        · rw [← hs]
          exact wants
    rw [← Finset.not_nonempty_iff_eq_empty]
    change _ ↔ _ ∨ ¬ (loot.openers .quest i).Nonempty
    rw [← marked]
    simp

lemma questListing_mark_eq (player : Player) (room : ℕ) (item : LootItem) :
    (Loot.questListing GetItemTemplate player room).mark item =
      if player.blocks then { item with is_blocked := true } else item := rfl

section Player

variable {drops : List (LootStoreItem × ℕ)} {loot loot' : Loot} {done : List Player}
  {player : Player} {size : ℕ} {taken : List ℕ}

lemma BlocksFirst.gets {room : ℕ} (blocks : BlocksFirst GetItemTemplate drops loot done)
    (gets : loot.Gets (Loot.questListing GetItemTemplate player room) player.guid size loot' taken)
    (absent : (loot.lists .quest).lookup player.guid = none) :
    BlocksFirst GetItemTemplate drops loot' (player :: done) := by
  have keeps := (proper_questListing GetItemTemplate player room).toKeeps
  have openers := gets.openers absent
  -- an item that does not come into the list is as it was
  have before {i : ℕ} {item' : LootItem} (found' : loot'.quest_items[i]? = some item')
      (notTaken : i ∉ taken) : loot.quest_items[i]? = some item' := by
    obtain ⟨item, found, hs⟩ := gets.item_back (.quest i) found'
    rw [if_neg] at hs
    · exact hs ▸ found
    · rintro ⟨j, isTaken, here⟩
      exact notTaken (Place.quest.inj here ▸ isTaken)
  have back {i : ℕ} {item' : LootItem} (found' : loot'.quest_items[i]? = some item') :
      ∃ item, loot.quest_items[i]? = some item ∧ item'.nature = item.nature ∧
        item'.is_looted = item.is_looted := by
    obtain ⟨item, found, nature, -, looted⟩ := gets.remarked keeps (.quest i) item' found'
    exact ⟨item, found, nature, looted⟩
  constructor
  · intro i item' found' left single blocked
    change (loot'.openers (Loot.questListing GetItemTemplate player room).kind i).Nonempty
    rw [openers]
    split
    · exact Finset.insert_nonempty ..
    next notTaken => exact blocks.is_blocked i item' (before found' notTaken) left single blocked
  · intro i item' found' left single some
    by_cases isTaken : i ∈ taken
    · obtain ⟨item, found, hs⟩ := gets.item_back (.quest i) found'
      rw [if_pos ⟨i, isTaken, rfl⟩, questListing_mark_eq] at hs
      cases marks : player.blocks with
      | true =>
        rw [marks, if_pos rfl] at hs
        exact .inl (hs ▸ rfl)
      | false =>
        rw [marks, if_neg (by simp)] at hs
        obtain ⟨item'', found'', takes⟩ := gets.filled.takes i isTaken
        obtain rfl := Option.some.inj (found''.symm.trans found)
        simp only [Loot.questListing, Bool.and_eq_true] at takes
        exact .inr ⟨player, List.mem_cons_self .., marks, hs ▸ takes.2⟩
    · change (loot'.openers (Loot.questListing GetItemTemplate player room).kind i).Nonempty at some
      rw [openers, if_neg isTaken] at some
      refine (blocks.listed i item' (before found' isTaken) left single some).imp_right ?_
      rintro ⟨other, hm, rest⟩
      exact ⟨other, List.mem_cons_of_mem _ hm, rest⟩
  · intro i item' found' free
    obtain ⟨item, found, nature, looted⟩ := back found'
    rw [looted]
    exact blocks.free i item found ((freeforall_of_nature nature).symm.trans free)
  · intro i item' found'
    obtain ⟨item, found, nature, -⟩ := back found'
    obtain ⟨drop, isDrop, quest, proto, known, hs⟩ := blocks.dropped i item found
    exact ⟨drop, isDrop, quest, proto, known, nature.trans hs⟩

lemma OwnLeft.of_gets {room : ℕ}
    (gets : loot.Gets (Loot.questListing GetItemTemplate player room) player.guid size loot'
      taken) : OwnLeft loot' player.guid := by
  intro i item' found' isOpen
  rw [gets.open_iff, if_pos ⟨rfl, rfl⟩] at isOpen
  obtain ⟨item, found, takes⟩ := gets.filled.takes i isOpen
  obtain ⟨item'', found'', -, -, looted⟩ := gets.remarked
    (proper_questListing GetItemTemplate player room).toKeeps (.quest i) item' found'
  obtain rfl := Option.some.inj (found''.symm.trans found)
  simp only [Loot.questListing, Bool.and_eq_true, Bool.not_eq_true'] at takes
  rw [looted]
  exact takes.1

lemma CountsFirst.gets (counts : CountsFirst loot)
    (gets : loot.Gets (Loot.conditionalListing GetItemTemplate player) player.guid size loot' taken)
    (absent : (loot.lists .conditional).lookup player.guid = none) : CountsFirst loot' := by
  intro i item' found' left tracked
  have openers := gets.openers absent i
  change loot'.openers .conditional i = if i ∈ taken then
    insert player.guid (loot.openers .conditional i) else loot.openers .conditional i at openers
  obtain ⟨item, found, hs⟩ := gets.item_back (.normal i) found'
  rw [openers]
  by_cases isTaken : i ∈ taken
  · rw [if_pos ⟨i, isTaken, rfl⟩] at hs
    rw [if_pos isTaken, hs]
    exact iff_of_true rfl (Finset.insert_nonempty ..)
  · rw [if_neg] at hs
    · subst hs
      rw [if_neg isTaken]
      exact counts i item' found left tracked
    · rintro ⟨j, hm, here⟩
      exact isTaken (Place.normal.inj here ▸ hm)

/-- The counter is right, and the marks are as the next player's lists need them. -/
structure Counting (drops : List (LootStoreItem × ℕ)) (loot : Loot) (done : List Player) :
    Prop where
  counted : Counted loot
  counts : CountsFirst loot
  blocks : BlocksFirst GetItemTemplate drops loot done

structure Serving (drops : List (LootStoreItem × ℕ)) (loot : Loot) (done : List Player)
    (guid : ℕ) : Prop extends Counting GetItemTemplate drops loot done where
  own : OwnLeft loot guid

lemma Counting.serving (counting : Counting GetItemTemplate drops loot done)
    (absent : (loot.lists .quest).lookup player.guid = none) :
    Serving GetItemTemplate drops loot (player :: done) player.guid where
  counted := counting.counted
  counts := counting.counts
  blocks := {
    is_blocked := counting.blocks.is_blocked
    listed := fun i item found left single some =>
      (counting.blocks.listed i item found left single some).imp_right
        fun ⟨other, hm, rest⟩ => ⟨other, List.mem_cons_of_mem _ hm, rest⟩
    free := counting.blocks.free
    dropped := counting.blocks.dropped }
  own _ _ _ isOpen := absurd isOpen (Loot.not_open_of_absent absent _)

lemma Counting.fillQuest (counting : Counting GetItemTemplate drops loot done)
    (uncontended : ∀ other ∈ done, Uncontended GetItemTemplate drops other player)
    (absent : (loot.lists .quest).lookup player.guid = none) :
    Serving GetItemTemplate drops (loot.FillQuestLoot GetItemTemplate player) (player :: done)
      player.guid := by
  rw [Loot.FillQuestLoot]
  split
  · exact counting.serving GetItemTemplate absent
  next room =>
    obtain ⟨taken, gets⟩ := Loot.gets_fillList loot
      (Loot.questListing GetItemTemplate player (MAX_NR_LOOT_ITEMS - loot.items.length))
      loot.quest_items.length player.guid absent
    refine ⟨⟨?_, ?_, ?_⟩, OwnLeft.of_gets GetItemTemplate gets⟩
    · exact counting.counted.gets gets (proper_questListing GetItemTemplate player _).toKeeps
        (exact_questListing GetItemTemplate counting.blocks uncontended _) absent
    · refine counting.counts.congr (fun i => ?_)
        fun i => gets.openers_of_ne (by simp [Loot.questListing]) i
      rw [gets.item?, if_neg]
      rintro ⟨j, -, hs⟩
      cases hs
    · exact counting.blocks.gets GetItemTemplate gets absent

lemma Serving.fillFFA {guid : ℕ} (serving : Serving GetItemTemplate drops loot done guid)
    (absent : (loot.lists .ffa).lookup player.guid = none) :
    Serving GetItemTemplate drops (loot.FillFFALoot GetItemTemplate player) done guid := by
  obtain ⟨taken, gets⟩ := Loot.gets_fillList loot (Loot.ffaListing GetItemTemplate player)
    loot.items.length player.guid absent
  have items (place : Place) :
      (loot.FillFFALoot GetItemTemplate player).item? place = loot.item? place := by
    rw [Loot.FillFFALoot, gets.item?]
    split
    · exact Option.map_id' ..
    · rfl
  have openers (kind : ListKind) (other : kind ≠ .ffa) (i : ℕ) :=
    gets.openers_of_ne other i
  refine ⟨⟨?_, ?_, ?_⟩, ?_⟩
  · exact serving.counted.gets gets (proper_ffaListing GetItemTemplate player).toKeeps
      (exact_ffaListing GetItemTemplate loot player) absent
  · exact serving.counts.congr (fun i => items _) (openers .conditional (by simp))
  · exact serving.blocks.congr GetItemTemplate (fun i => items _) (openers .quest (by simp))
  · refine serving.own.congr (fun i => items _) fun i => ?_
    rw [← Loot.mem_openers, ← Loot.mem_openers]
    exact iff_of_eq (congrArg (guid ∈ ·) (openers .quest (by simp) i))

lemma Serving.fillConditional {guid : ℕ}
    (serving : Serving GetItemTemplate drops loot done guid)
    (absent : (loot.lists .conditional).lookup player.guid = none) :
    Serving GetItemTemplate drops (loot.FillNonQuestNonFFAConditionalLoot GetItemTemplate player)
      done guid := by
  obtain ⟨taken, gets⟩ := Loot.gets_fillList loot (Loot.conditionalListing GetItemTemplate player)
    loot.items.length player.guid absent
  have items (i : ℕ) : (loot.FillNonQuestNonFFAConditionalLoot GetItemTemplate player).item?
      (.quest i) = loot.item? (.quest i) := by
    rw [Loot.FillNonQuestNonFFAConditionalLoot, gets.item?, if_neg]
    rintro ⟨j, -, hs⟩
    cases hs
  have openers (i : ℕ) : (loot.FillNonQuestNonFFAConditionalLoot GetItemTemplate player).openers
      .quest i = loot.openers .quest i := gets.openers_of_ne (by simp [Loot.conditionalListing]) i
  refine ⟨⟨?_, ?_, ?_⟩, ?_⟩
  · exact serving.counted.gets gets (proper_conditionalListing GetItemTemplate player).toKeeps
      (exact_conditionalListing GetItemTemplate serving.counts player) absent
  · exact serving.counts.gets GetItemTemplate gets absent
  · exact serving.blocks.congr GetItemTemplate items openers
  · refine serving.own.congr items fun i => ?_
    rw [← Loot.mem_openers, ← Loot.mem_openers]
    exact iff_of_eq (congrArg (guid ∈ ·) (openers i))

end Player

lemma fillMissing_keeps (P : Loot → Prop) (fill : Loot → Loot) {s : State} {guid : ℕ}
    (kept : P s.loot) (fills : (s.loot.lists kind).lookup guid = none → P (fill s.loot)) :
    P (s.fillMissing kind guid fill).loot := by
  rw [State.fillMissing]
  split
  next absent => exact fills absent
  next => exact kept

lemma Counting.fillLists {drops : List (LootStoreItem × ℕ)} {s : State} {done : List Player}
    {player : Player} (counting : Counting GetItemTemplate drops s.loot done)
    (uncontended : ∀ other ∈ done, Uncontended GetItemTemplate drops other player)
    (absent : (s.loot.lists .quest).lookup player.guid = none) :
    Serving GetItemTemplate drops (s.fillLists GetItemTemplate player).loot (player :: done)
      player.guid := by
  let Serves (loot : Loot) : Prop :=
    Serving GetItemTemplate drops loot (player :: done) player.guid
  have quest := fillMissing_keeps Serves (fun loot => loot.FillQuestLoot GetItemTemplate player)
    (counting.serving GetItemTemplate absent) (counting.fillQuest GetItemTemplate uncontended)
  have ffa := fillMissing_keeps Serves (fun loot => loot.FillFFALoot GetItemTemplate player)
    quest (quest.fillFFA GetItemTemplate)
  exact fillMissing_keeps Serves
    (fun loot => loot.FillNonQuestNonFFAConditionalLoot GetItemTemplate player)
    ffa (ffa.fillConditional GetItemTemplate)

/-! ### Currencies -/

lemma Takes.single_back {s s' : State} {player : Player} {lootSlot : ℕ} {found : Loot.SlotItem}
    (takes : Takes s s' player lootSlot found) (place : Place)
    (found' : s'.loot.item? place = some item') (single : item'.freeforall = false)
    (left : item'.is_looted = false) : s.loot.item? place = some item' ∧ place ≠ found.place := by
  rw [takes.items] at found'
  split at found'
  · obtain ⟨item, -, rfl⟩ := Option.map_eq_some_iff.mp found'
    cases left
  next other =>
    refine ⟨found', ?_⟩
    rintro rfl
    obtain rfl := Option.some.inj (takes.inSlot.item_eq.symm.trans found')
    exact other ⟨rfl, single⟩

section Taking

variable {drops : List (LootStoreItem × ℕ)} {s s' : State} {player : Player} {lootSlot : ℕ}
  {found : Loot.SlotItem} {done : List Player}

section

variable (takes : Takes s s' player lootSlot found) (well : s.loot.WellListed)
include takes well

lemma Takes.counted (due : found.Due s.loot player.guid) (counted : Counted s.loot) :
    Counted s'.loot := by
  classical
  have less := takes.unitsLeft well
  rw [if_pos due] at less
  rw [Counted, takes.unlootedCount, counted, ← less, UInt8.ofNat_add]
  exact UInt8.add_sub_cancel ..

lemma Takes.countsFirst (counts : CountsFirst s.loot) : CountsFirst s'.loot := by
  intro i item' found' left tracked
  have single : item'.freeforall = false := by
    by_contra free
    rw [LootItem.listKind_eq_ffa.mpr (by simpa using free)] at tracked
    cases tracked
  obtain ⟨before, other⟩ := takes.single_back (.normal i) found' single left
  rw [takes.openers_of_ne well .conditional other.symm]
  exact counts i item' before left tracked

lemma Takes.blocksFirst (blocks : BlocksFirst GetItemTemplate drops s.loot done) :
    BlocksFirst GetItemTemplate drops s'.loot done := by
  constructor
  · intro i item' found' left single blocked
    obtain ⟨before, other⟩ := takes.single_back (.quest i) found' single left
    rw [takes.openers_of_ne well .quest other.symm]
    exact blocks.is_blocked i item' before left single blocked
  · intro i item' found' left single some
    obtain ⟨before, other⟩ := takes.single_back (.quest i) found' single left
    rw [takes.openers_of_ne well .quest other.symm] at some
    exact blocks.listed i item' before left single some
  · intro i item' found' free
    have items := takes.items (.quest i)
    rw [show s'.loot.item? (.quest i) = some item' from found'] at items
    split at items
    next taken =>
      obtain ⟨item, here, rfl⟩ := Option.map_eq_some_iff.mp items.symm
      rw [taken.1] at here
      obtain rfl := Option.some.inj (takes.inSlot.item_eq.symm.trans here)
      rw [taken.2] at free
      cases free
    next => exact blocks.free i item' items.symm free
  · intro i item' found'
    have nature := takes.nature (.quest i)
    rw [show s'.loot.item? (.quest i) = some item' from found', Option.map_some] at nature
    obtain ⟨item, here, hs⟩ := Option.map_eq_some_iff.mp nature.symm
    obtain ⟨drop, isDrop, quest, proto, known, nature⟩ := blocks.dropped i item here
    exact ⟨drop, isDrop, quest, proto, known, hs.symm.trans nature⟩

lemma Takes.ownLeft (own : OwnLeft s.loot player.guid) : OwnLeft s'.loot player.guid := by
  intro i item' found' isOpen
  have items := takes.items (.quest i)
  rw [show s'.loot.item? (.quest i) = some item' from found'] at items
  by_cases hs : found.place = .quest i
  · -- the player's own entry is marked now
    have openers := takes.openers_eq well .quest (by rw [hs]; rfl)
    rw [hs] at openers
    have hm := Loot.mem_openers.mpr isOpen
    rw [show i = (Place.quest i).index from rfl, openers] at hm
    exact absurd rfl (Finset.ne_of_mem_erase hm)
  · rw [if_neg fun both => hs both.1.symm] at items
    exact own i item' items.symm ((takes.open_iff well).mp isOpen).1

end

lemma due_of_complete (fills : ∀ (i : ℕ) (item : LootItem), s.loot.items[i]? = some item →
      item.freeforall = true → item.is_looted = false)
    (complete : Complete GetItemTemplate player s.loot) (own : OwnLeft s.loot player.guid)
    (allowed : ∀ item, s.loot.items[i]? = some item → item.freeforall = true ∧
      item.AllowedForPlayer GetItemTemplate player = true)
    (inSlot : s.loot.InSlot player.guid i found) : found.Due s.loot player.guid := by
  have due (left : s.loot.Left found.place player.guid) : found.Due s.loot player.guid := by
    rw [Loot.SlotItem.Due]
    split
    · exact left
    · exact ⟨_, left⟩
  refine due ((Loot.left_iff inSlot.item_eq).mpr ?_)
  cases inSlot with
  | quest slot listed left here =>
    have isOpen : s.loot.Open .quest player.guid _ := ⟨_, List.mem_of_getElem? listed, rfl, left⟩
    refine ⟨own _ _ here isOpen, fun kind tracked => ?_⟩
    obtain rfl := Option.some.inj tracked
    exact Loot.mem_openers.mpr isOpen
  | listed here tracked listed index left =>
    refine ⟨fills i _ here (allowed _ here).1, fun kind tracked' => ?_⟩
    obtain rfl := Option.some.inj (tracked.symm.trans tracked')
    exact Loot.mem_openers.mpr ⟨_, List.mem_of_getElem? listed, index, left⟩
  | unlisted here left unlisted =>
    obtain ⟨ffa, isAllowed⟩ := allowed _ here
    exact absurd (complete i _ here ffa isAllowed)
      (unlisted .ffa (LootItem.listKind_eq_ffa.mpr ffa))

lemma Serving.takes (serving : Serving GetItemTemplate drops s.loot done player.guid)
    (takes : Takes s s' player lootSlot found) (well : s.loot.WellListed)
    (due : found.Due s.loot player.guid) :
    Serving GetItemTemplate drops s'.loot done player.guid where
  counted := takes.counted well due serving.counted
  counts := takes.countsFirst well serving.counts
  blocks := takes.blocksFirst GetItemTemplate well serving.blocks
  own := takes.ownLeft well serving.own

end Taking

variable {drops : List (LootStoreItem × ℕ)}

lemma Counting.fillNotNormalLootFor {s : State} {before : List ℕ} {done : List Player}
    {player : Player} (counting : Counting GetItemTemplate drops s.loot done)
    (fills : Fills s before) (fresh : player.guid ∉ before)
    (uncontended : ∀ other ∈ done, Uncontended GetItemTemplate drops other player)
    (presentAtLooting : Bool) :
    Counting GetItemTemplate drops
      (s.FillNotNormalLootFor GetItemTemplate player presentAtLooting).loot (player :: done) := by
  have takers := fills.takers GetItemTemplate fresh
  have serving := counting.fillLists GetItemTemplate uncontended
    (fills.absent .quest player.guid fresh)
  refine (FillNotNormalLootFor_keeps GetItemTemplate
    (P := fun s' => Takers GetItemTemplate (s.fillLists GetItemTemplate player).loot player
        (player.guid :: before) s' ∧
      Serving GetItemTemplate drops s'.loot (player :: done) player.guid)
    ⟨takers, serving⟩ ?_ presentAtLooting).2.toCounting
  rintro s' i ⟨takers, serving⟩
  refine ⟨takers.takeCurrency GetItemTemplate (List.mem_cons_self ..) i, ?_⟩
  rcases takeCurrency_cases GetItemTemplate s' player i takers.inRange with
    hs | ⟨taken, allowed⟩
  · rw [hs]
    exact serving
  rw [taken]
  rcases StoreLootItem_cases s' player i with hs | ⟨found, -, takes⟩
  · rw [hs]
    exact serving
  · exact serving.takes GetItemTemplate takes takers.fills.recorded.well
      (due_of_complete GetItemTemplate takers.fills.free takers.complete serving.own allowed
        takes.inSlot)

lemma counting_members (members : List (Player × Bool)) :
    ∀ {s : State} {before : List ℕ} {done : List Player}, Fills s before →
    Counting GetItemTemplate drops s.loot done →
    (members.map fun member => member.1.guid).Nodup →
    (∀ member ∈ members, member.1.guid ∉ before) →
    (∀ member ∈ members, ∀ other ∈ done, Uncontended GetItemTemplate drops other member.1) →
    (members.Pairwise fun first second => Uncontended GetItemTemplate drops first.1 second.1) →
    ∃ done', Counting GetItemTemplate drops (members.foldl
      (fun s member => s.FillNotNormalLootFor GetItemTemplate member.1 member.2) s).loot done' := by
  induction members with
  | nil => exact fun _ counting _ _ _ _ => ⟨_, counting⟩
  | cons member members ih =>
    intro s before done fills counting nodup fresh uncontended pairwise
    rw [List.map_cons, List.nodup_cons] at nodup
    rw [List.pairwise_cons] at pairwise
    have isFresh := fresh member (List.mem_cons_self ..)
    refine ih (fills.fillNotNormalLootFor GetItemTemplate isFresh member.2)
      (counting.fillNotNormalLootFor GetItemTemplate fills isFresh
        (uncontended member (List.mem_cons_self ..)) member.2) nodup.2 ?_ ?_ pairwise.2
    · intro other inRest
      rw [List.mem_cons, not_or]
      refine ⟨fun hs => nodup.1 ?_, fresh other (List.mem_cons_of_mem _ inRest)⟩
      exact hs ▸ List.mem_map_of_mem inRest
    · intro other inRest player member'
      rcases List.mem_cons.mp member' with rfl | isDone
      · exact pairwise.1 other inRest
      · exact uncontended other (List.mem_cons_of_mem _ inRest) player isDone

/-! ### The whole loot -/

/-- What has been dropped is marked in no way, and counted if it is for one player and everybody may
be that. -/
structure Unmarked (loot : Loot) : Prop where
  dropped : Dropped loot
  unmarked : ∀ place item, loot.item? place = some item →
    item.is_counted = false ∧ item.is_blocked = false
  counted : Counted loot

lemma Dropped.openers {loot : Loot} (dropped : Dropped loot) (kind : ListKind) (i : ℕ) :
    loot.openers kind i = ∅ := by
  rw [Loot.openers, dropped.lists]
  rfl

variable {proto : ItemTemplate} {item : LootStoreItem} {count : ℕ}

lemma Dropped.units_addStack {loot : Loot} (dropped : Dropped (loot.addStack proto item count)) :
    (loot.addStack proto item count).units (loot.endPlace item.needs_quest) =
      if !item.needs_quest && item.conditions.isEmpty && !proto.partyLoot then 1 else 0 := by
  have here := loot.item?_addStack proto item count (loot.endPlace item.needs_quest)
  rw [if_pos rfl] at here
  rw [Loot.units_of_item here, Loot.unitsOf, if_neg (by simp [LootItem.ofStoreItem])]
  simp only [dropped.openers, Finset.card_empty]
  cases quest : item.needs_quest with
  | true => simp [Loot.endPlace, Place.listKind]
  | false =>
    cases free : proto.partyLoot <;> cases plain : item.conditions.isEmpty <;>
      simp [Loot.endPlace, Place.listKind, LootItem.listKind, LootItem.ofStoreItem, free, plain]

lemma Dropped.unitsLeft_addStack {loot : Loot} (before : Dropped loot)
    (dropped : Dropped (loot.addStack proto item count)) :
    (loot.addStack proto item count).unitsLeft = loot.unitsLeft +
      if !item.needs_quest && item.conditions.isEmpty && !proto.partyLoot then 1 else 0 := by
  have items := loot.item?_addStack proto item count
  set new := loot.endPlace item.needs_quest
  have fresh : new ∉ loot.places := by
    rw [Loot.mem_places, ← Option.isSome_iff_exists]
    simp only [new, Loot.endPlace]
    split <;> simp [Loot.item?]
  have places : (loot.addStack proto item count).places = insert new loot.places := by
    ext place
    rw [Finset.mem_insert, Loot.mem_places, Loot.mem_places, items]
    split
    next hs => exact iff_of_true ⟨_, rfl⟩ (.inl hs)
    next other => rw [or_iff_right other]
  have others : ∀ place ∈ loot.places,
      (loot.addStack proto item count).units place = loot.units place := by
    intro place hm
    refine Loot.units_congr ?_ fun kind _ => ?_
    · rw [items, if_neg]
      rintro rfl
      exact fresh hm
    · rw [dropped.openers, before.openers]
  rw [Loot.unitsLeft, places, Finset.sum_insert fresh, dropped.units_addStack,
    Finset.sum_congr rfl others, Nat.add_comm, Loot.unitsLeft]

lemma Unmarked.addStack {loot : Loot} (unmarked : Unmarked loot)
    (room : (loot.lootItems item.needs_quest).length <
      if item.needs_quest then MAX_NR_QUEST_ITEMS else MAX_NR_LOOT_ITEMS) :
    Unmarked (loot.addStack proto item count) := by
  have dropped : Dropped (loot.addStack proto item count) := unmarked.dropped.addStack room
  refine ⟨dropped, fun place new found => ?_, ?_⟩
  · rcases mem_of_item?_addStack found with before | rfl
    · exact unmarked.unmarked place new before
    · exact ⟨rfl, rfl⟩
  · rw [Counted, unmarked.dropped.unitsLeft_addStack dropped, UInt8.ofNat_add,
      ← unmarked.counted, Loot.addStack]
    dsimp only
    split <;> rfl

section

variable (drops) (gold : ℕ)

lemma questDrop_drops (i : ℕ) (item : LootItem)
    (found : (drops.foldl (fun (loot : Loot) drop => loot.AddItem GetItemTemplate drop.1 drop.2)
      { gold := gold }).quest_items[i]? = some item) : QuestDrop GetItemTemplate drops item := by
  let Known (loot : Loot) : Prop := ∀ (i : ℕ) (item : LootItem),
    loot.quest_items[i]? = some item → QuestDrop GetItemTemplate drops item
  suffices known : Known (drops.foldl (fun (loot : Loot) drop =>
      loot.AddItem GetItemTemplate drop.1 drop.2) { gold := gold }) from known i item found
  refine List.foldlRecOn drops _ (fun _ _ none => ?_) ?_
  · cases none
  · intro loot kept drop hm
    unfold Loot.AddItem
    cases known : GetItemTemplate drop.1.itemid with
    | none => exact kept
    | some proto =>
      refine Loot.addStacks_keeps (P := Known) (fun loot count kept _ i item found => ?_) _ kept
      change (loot.addStack proto drop.1 count).item? (.quest i) = some item at found
      rw [Loot.item?_addStack] at found
      split at found
      next new =>
        obtain rfl := Option.some.inj found
        refine ⟨drop, hm, ?_, proto, known, rfl⟩
        by_contra notQuest
        rw [Loot.endPlace, if_neg notQuest] at new
        cases new
      next => exact kept i item found

lemma counting_drops :
    Unmarked (drops.foldl (fun loot drop => loot.AddItem GetItemTemplate drop.1 drop.2)
      { gold := gold }) := by
  refine Loot.addItems_keeps GetItemTemplate (fun _ _ _ _ => Unmarked.addStack) drops
    ⟨dropped_nil gold, fun place item found => ?_, ?_⟩
  · cases place <;> cases found
  · rfl

end

lemma Unmarked.counting {loot : Loot} (unmarked : Unmarked loot)
    (drop : ∀ (i : ℕ) (item : LootItem), loot.quest_items[i]? = some item →
      QuestDrop GetItemTemplate drops item) :
    Counting GetItemTemplate drops loot [] where
  counted := unmarked.counted
  counts i item found left tracked := by
    rw [unmarked.dropped.openers, (unmarked.unmarked (.normal i) item found).1]
    simp
  blocks := {
    is_blocked := fun i item found _ _ blocked => by
      rw [(unmarked.unmarked (.quest i) item found).2] at blocked
      cases blocked
    listed := fun i item _ _ _ some => by
      rw [unmarked.dropped.openers] at some
      exact absurd some Finset.not_nonempty_empty
    free := fun i item found _ => unmarked.dropped.unlooted (.quest i) item found
    dropped := drop }

lemma Counted.markThreshold {loot : Loot} (counted : Counted loot) (threshold : ℕ) :
    Counted (State.markThreshold GetItemTemplate threshold loot) := by
  have hs := Loot.unitsLeft_congr (fun place => map_markThreshold GetItemTemplate
    (f := fun item => (item.nature, item.is_looted)) (fun _ => rfl) threshold loot place)
    fun _ _ => rfl
  rw [Counted, hs]
  exact counted

/-- If no quest item is contended, the counter of a filled loot is right up to its bits. -/
lemma counted_FillLoot (gold : ℕ) (lootOwner : Player) (personal : Bool)
    (group : Option State.Party) (uncontended : ∀ party, personal = false → group = some party →
      party.members.Pairwise fun first second =>
        Uncontended GetItemTemplate drops first.1 second.1) :
    Counted (State.FillLoot GetItemTemplate gold drops lootOwner personal group).loot := by
  have unmarked := counting_drops GetItemTemplate drops gold
  have known := questDrop_drops GetItemTemplate drops gold
  unfold State.FillLoot
  split
  next party =>
    have inRound (guid : ℕ) {loot : Loot} (unmarked : Unmarked loot) :
        Unmarked { loot with roundRobinPlayer := guid } := by
      refine ⟨unmarked.dropped.inRound guid, fun place item found => ?_, unmarked.counted⟩
      refine unmarked.unmarked place item ?_
      cases place <;> exact found
    have start := inRound lootOwner.guid unmarked
    obtain ⟨done, counting⟩ := counting_members GetItemTemplate party.members start.dropped.fills
      (start.counting GetItemTemplate known) party.distinct (fun _ _ => List.not_mem_nil)
      (fun _ _ _ hm => absurd hm List.not_mem_nil) (uncontended party rfl rfl)
    exact counting.counted.markThreshold GetItemTemplate party.GetLootThreshold
  next =>
    have counting := unmarked.counting GetItemTemplate known
    exact (counting.fillNotNormalLootFor GetItemTemplate unmarked.dropped.fills List.not_mem_nil
      (fun _ hm => absurd hm List.not_mem_nil) true).counted

lemma Counted.tallied_iff {loot : Loot} (counted : Counted loot) :
    Tallied loot ↔ loot.unitsLeft < 2 ^ 8 := by
  rw [Loot.tallied_iff, counted, UInt8.toNat_ofNat']
  omega

/-- The counter says what is left as long as each request takes one unit that is left, and no
longer, if the filled loot has few enough units and no quest item in it is contended. -/
theorem stays_tallied_iff (gold : ℕ) (drops : List (LootStoreItem × ℕ)) (lootOwner : Player)
    (personal : Bool) (group : Option State.Party) (requests : List State.Request)
    (uncontended : ∀ party, personal = false → group = some party →
      party.members.Pairwise fun first second =>
        Uncontended GetItemTemplate drops first.1 second.1) :
    let filled := State.FillLoot GetItemTemplate gold drops lootOwner personal group
    (Tallied filled.loot ∧
      Along (State.step GetItemTemplate) (StaysTallied GetItemTemplate) filled requests) ↔
        filled.loot.unitsLeft < 2 ^ 8 ∧
          Along (State.step GetItemTemplate) (ClosesOne GetItemTemplate) filled requests := by
  intro filled
  have counted := counted_FillLoot GetItemTemplate gold lootOwner personal group uncontended
  have well := (fair_FillLoot GetItemTemplate gold drops lootOwner personal group).2.1.well
  rw [← counted.tallied_iff]
  exact and_congr_right fun tallied =>
    along_staysTallied_iff GetItemTemplate well tallied requests

end Filling

def questMember (guid : ℕ) (wanted : List ℕ) : Player := { groupMember guid [] with
  HasQuestForItem item := item ∈ wanted }

def questParty : State.Party where
  members := [(questMember 1 [750], true), (questMember 2 [], true)]
  distinct := by decide
  GetLootThreshold := 2

/-- A group, one of whom has the quest for the first item. -/
def questLoot : State :=
  State.FillLoot (fun _ => some plainTemplate) 0 [(⟨750, true, []⟩, 1), (⟨2589, false, []⟩, 1)]
    (questMember 1 [750]) false (some questParty)

theorem stays_tallied_iff_quest : Tallied questLoot.loot ∧
    Along (State.step fun _ => some plainTemplate) (StaysTallied fun _ => some plainTemplate)
      questLoot [.autostore (questMember 1 [750]) 1, .autostore (questMember 2 []) 0] := by
  refine (stays_tallied_iff (fun _ => some plainTemplate) 0
    [(⟨750, true, []⟩, 1), (⟨2589, false, []⟩, 1)] (questMember 1 [750]) false (some questParty)
    [.autostore (questMember 1 [750]) 1, .autostore (questMember 2 []) 0] ?_).mpr ⟨?_, ?_, ?_, ?_⟩
  · rintro party - same
    obtain rfl := Option.some.inj same
    refine List.Pairwise.cons (fun other hm => .inr fun drop _ quest proto known _ => ?_)
      (List.pairwise_singleton ..)
    -- the second member has no quest
    obtain rfl := List.mem_singleton.mp hm
    obtain rfl := Option.some.inj known
    rintro ⟨-, second⟩
    simp [Player.wants, LootItem.AllowedForPlayer, LootItem.followsRules, LootItem.ofStoreItem, quest,
      questMember, groupMember, plainTemplate, skinTemplate] at second
  · decide +kernel
  · rintro found inSlot -
    obtain rfl := Option.some.inj inSlot
    refine ⟨1, _, rfl, rfl, ?_⟩
    rintro _ ⟨⟩
    exact ⟨⟨0, false⟩, List.mem_singleton.mpr rfl, rfl, rfl⟩
  · rintro found inSlot -
    obtain rfl := Option.some.inj inSlot
    exact ⟨2, _, rfl, rfl, fun _ none => by cases none⟩
  · trivial

/-- The item is stored by one player, and the master looter gives it to another one. -/
theorem given_away_again : ¬ (Tallied masterLoot.loot ∧
    Along (State.step fun _ => some plainTemplate) (StaysTallied fun _ => some plainTemplate)
      masterLoot [.autostore (masterMember 2) 0, .masterGive (masterMember 1) 0]) := by
  rintro ⟨-, -, ⟨-, wrapped⟩, -⟩
  revert wrapped
  decide +kernel

end WorldServer.Looting
