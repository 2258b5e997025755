import WorldServer.Looting.Filling

/-!
# What is left to take

An item may be taken once, or once by each player who has it in his list if it is free for all. The
counter of a loot goes down by one with whatever is handed out, so it says what is left as long as a
request takes just one of these units.
-/
namespace WorldServer.Looting

open WorldServer.Lib

/-! ### Units -/

def Place.index : Place → ℕ
  | .normal i | .quest i => i

def Place.listKind : Place → LootItem → Option ListKind
  | .normal _, item => item.listKind
  | .quest _, _ => some .quest

namespace Loot

variable (loot : Loot)

/-- The players who have an entry about the item that is not marked. -/
def openers (kind : ListKind) (i : ℕ) : Finset ℕ :=
  (loot.lists kind).keys.toFinset.filter fun guid =>
    (loot.entries kind guid).any fun entry => entry.index = i && !entry.is_looted

/-- The player may still take what is in the place. -/
def Left (place : Place) (guid : ℕ) : Prop :=
  ∃ item, loot.item? place = some item ∧ item.is_looted = false ∧
    ∀ kind, place.listKind item = some kind → loot.Open kind guid place.index

def unitsOf (place : Place) (item : LootItem) : ℕ :=
  if item.is_looted then 0
  else match place.listKind item with
    | none => 1
    | some kind =>
      if item.freeforall then (loot.openers kind place.index).card
      else min 1 (loot.openers kind place.index).card

def units (place : Place) : ℕ :=
  match loot.item? place with
  | none => 0
  | some item => loot.unitsOf place item

def places : Finset Place :=
  (Finset.range loot.items.length).image Place.normal ∪
    (Finset.range loot.quest_items.length).image Place.quest

def unitsLeft : ℕ := ∑ place ∈ loot.places, loot.units place

end Loot

structure Tallied (loot : Loot) : Prop where
  unlootedCount : loot.unlootedCount.toNat = loot.unitsLeft
  isLooted : loot.isLooted = true ↔ loot.gold = 0 ∧ ∀ place guid, ¬ loot.Left place guid

variable {place : Place} {item : LootItem} {kind : ListKind} {i guid : ℕ}

namespace Loot

variable {loot loot' : Loot}

lemma kind_of_listKind (tracked : place.listKind item = some kind) :
    kind.place place.index = place := by
  cases place with
  | quest i =>
    obtain rfl := Option.some.inj tracked
    rfl
  | normal i =>
    cases kind with
    | quest => exact absurd tracked (LootItem.listKind_ne_quest item)
    | ffa => rfl
    | conditional => rfl

lemma listKind_of_nature {item' : LootItem} (hs : item'.nature = item.nature) (place : Place) :
    place.listKind item' = place.listKind item := by
  cases place with
  | quest i => rfl
  | normal i => exact LootItem.listKind_of_nature hs

lemma mem_openers : guid ∈ loot.openers kind i ↔ loot.Open kind guid i := by
  rw [openers, Finset.mem_filter, List.mem_toFinset, ← AList.mem_keys]
  constructor
  · rintro ⟨-, some⟩
    obtain ⟨entry, hm, here⟩ := List.any_eq_true.mp some
    simp only [Bool.and_eq_true, decide_eq_true_eq, Bool.not_eq_true'] at here
    exact ⟨entry, hm, here⟩
  · rintro ⟨entry, hm, index, left⟩
    refine ⟨?_, List.any_eq_true.mpr ⟨entry, hm, by simp [index, left]⟩⟩
    -- who has entries has a list
    by_contra absent
    rw [entries, AList.lookup_eq_none.mpr absent] at hm
    cases hm

lemma openers_congr {i' : ℕ} (hs : ∀ guid, loot'.Open kind guid i' ↔ loot.Open kind guid i) :
    loot'.openers kind i' = loot.openers kind i := by
  ext guid
  rw [mem_openers, mem_openers, hs]

lemma mem_places : place ∈ loot.places ↔ ∃ item, loot.item? place = some item := by
  rw [← Option.isSome_iff_exists]
  cases place with
  | normal i => simp [places, item?]
  | quest i => simp [places, item?]

lemma places_congr (hs : ∀ place,
    (loot'.item? place).map LootItem.nature = (loot.item? place).map LootItem.nature) :
    loot'.places = loot.places := by
  ext place
  rw [mem_places, mem_places, ← Option.isSome_iff_exists, ← Option.isSome_iff_exists,
    ← Option.isSome_map (f := LootItem.nature), hs, Option.isSome_map]

section

variable (here : loot.item? place = some item)
include here

lemma units_of_item : loot.units place = loot.unitsOf place item := by
  rw [units, here]

lemma units_freeforall (tracked : place.listKind item = some kind) (free : item.freeforall = true)
    (left : item.is_looted = false) : loot.units place = (loot.openers kind place.index).card := by
  simp [units_of_item here, unitsOf, left, tracked, free]

lemma units_single (tracked : place.listKind item = some kind) (single : item.freeforall = false)
    (left : item.is_looted = false) :
    loot.units place = min 1 (loot.openers kind place.index).card := by
  simp [units_of_item here, unitsOf, left, tracked, single]

lemma units_of_looted (looted : item.is_looted = true) : loot.units place = 0 := by
  simp [units_of_item here, unitsOf, looted]

lemma left_iff :
    loot.Left place guid ↔ item.is_looted = false ∧
      ∀ kind, place.listKind item = some kind → guid ∈ loot.openers kind place.index := by
  constructor
  · rintro ⟨item', here', left, isOpen⟩
    obtain rfl := Option.some.inj (here.symm.trans here')
    exact ⟨left, fun kind tracked => mem_openers.mpr (isOpen kind tracked)⟩
  · rintro ⟨left, isOpen⟩
    exact ⟨item, here, left, fun kind tracked => mem_openers.mp (isOpen kind tracked)⟩

end

lemma units_pos_iff : 0 < loot.units place ↔ ∃ guid, loot.Left place guid := by
  cases here : loot.item? place with
  | none => simp [units, Left, here]
  | some item =>
    simp only [units_of_item here, left_iff here, unitsOf]
    cases left : item.is_looted with
    | true => simp
    | false =>
      cases tracked : place.listKind item with
      | none => simp
      | some kind =>
        cases item.freeforall <;> simp [Finset.card_pos, Finset.Nonempty]

lemma units_le_one (here : loot.item? place = some item) (single : item.freeforall = false) :
    loot.units place ≤ 1 := by
  rw [units_of_item here, unitsOf]
  split
  · exact Nat.zero_le _
  · split
    · exact le_refl _
    · simp [single]

lemma units_congr (items : (loot'.item? place).map (fun item => (item.nature, item.is_looted)) =
      (loot.item? place).map fun item => (item.nature, item.is_looted))
    (openers : ∀ kind, kind.place place.index = place →
      loot'.openers kind place.index = loot.openers kind place.index) :
    loot'.units place = loot.units place := by
  rw [units, units]
  cases here : loot.item? place with
  | none =>
    rw [here, Option.map_none, Option.map_eq_none_iff] at items
    rw [items]
  | some item =>
    rw [here, Option.map_some] at items
    obtain ⟨item', here', hs⟩ := Option.map_eq_some_iff.mp items
    obtain ⟨nature, looted⟩ := Prod.mk.inj hs
    rw [here']
    dsimp only
    have free : item'.freeforall = item.freeforall := freeforall_of_nature nature
    rw [unitsOf, unitsOf, looted, listKind_of_nature nature, free]
    cases tracked : place.listKind item with
    | none => rfl
    | some kind =>
      dsimp only
      rw [openers kind (kind_of_listKind tracked)]

lemma unitsLeft_update (places : loot'.places = loot.places) (here : place ∈ loot.places)
    (others : ∀ place', place' ≠ place → loot'.units place' = loot.units place') :
    loot'.unitsLeft + loot.units place = loot.unitsLeft + loot'.units place := by
  have hs : ∑ place' ∈ loot.places.erase place, loot'.units place' =
      ∑ place' ∈ loot.places.erase place, loot.units place' :=
    Finset.sum_congr rfl fun place' hm => others place' (Finset.ne_of_mem_erase hm)
  rw [unitsLeft, unitsLeft, places, ← Finset.add_sum_erase _ _ here,
    ← Finset.add_sum_erase loot.places loot.units here, hs]
  omega

lemma unitsLeft_congr
    (items : ∀ place, (loot'.item? place).map (fun item => (item.nature, item.is_looted)) =
      (loot.item? place).map fun item => (item.nature, item.is_looted))
    (entries : ∀ kind guid, loot'.entries kind guid = loot.entries kind guid) :
    loot'.unitsLeft = loot.unitsLeft := by
  have nature (place : Place) :
      (loot'.item? place).map LootItem.nature = (loot.item? place).map LootItem.nature := by
    have both := congrArg (Option.map Prod.fst) (items place)
    rw [Option.map_map, Option.map_map] at both
    exact both
  rw [unitsLeft, places_congr nature]
  refine Finset.sum_congr rfl fun place _ => units_congr (items place) fun kind _ => ?_
  exact openers_congr fun guid => by rw [Open, entries, Open]

lemma units_le_unitsLeft (place : Place) : loot.units place ≤ loot.unitsLeft := by
  by_cases hm : place ∈ loot.places
  · rw [unitsLeft, ← Finset.add_sum_erase _ _ hm]
    exact Nat.le_add_right ..
  · have absent : loot.item? place = none := by
      rw [mem_places, ← Option.isSome_iff_exists] at hm
      simpa using hm
    rw [units, absent]
    exact Nat.zero_le _

lemma unitsLeft_eq_zero_iff :
    loot.unitsLeft = 0 ↔ ∀ place guid, ¬ loot.Left place guid := by
  constructor
  · intro zero place guid left
    have positive := units_pos_iff.mpr ⟨guid, left⟩
    have less := loot.units_le_unitsLeft place
    omega
  · intro nothing
    refine Finset.sum_eq_zero fun place _ => ?_
    by_contra some
    obtain ⟨guid, left⟩ := units_pos_iff.mp (Nat.pos_of_ne_zero some)
    exact nothing place guid left

lemma tallied_iff : Tallied loot ↔ loot.unlootedCount.toNat = loot.unitsLeft := by
  refine ⟨Tallied.unlootedCount, fun hs => ⟨hs, ?_⟩⟩
  rw [isLooted, ← unitsLeft_eq_zero_iff, ← hs]
  simp [← UInt8.toNat_inj]

end Loot

/-! ### One request -/

lemma Loot.InSlot.entry_eq {loot : Loot} {lootSlot : ℕ} {found : Loot.SlotItem}
    (inSlot : loot.InSlot guid lootSlot found) (kind : ListKind) (j : ℕ)
    (goesWith : found.entry = some (kind, j)) : ∃ entry,
      (loot.entries kind guid)[j]? = some entry ∧ entry.is_looted = false ∧
        found.place = kind.place entry.index ∧ found.place.listKind found.item = some kind := by
  cases inSlot with
  | quest slot listed left here =>
    cases goesWith
    exact ⟨_, listed, left, rfl, rfl⟩
  | listed here tracked listed index left =>
    cases goesWith
    exact ⟨_, listed, left, place_of_entry (.listed here tracked listed index left) listed rfl,
      tracked⟩
  | unlisted here left unlisted => cases goesWith

lemma Loot.InSlot.not_open {loot : Loot} {lootSlot : ℕ} {found : Loot.SlotItem}
    (inSlot : loot.InSlot guid lootSlot found) (none : found.entry = none)
    (tracked : found.place.listKind found.item = some kind) :
    ¬ loot.Open kind guid found.place.index := by
  cases inSlot with
  | quest slot listed left here => cases none
  | listed here tracked listed index left => cases none
  | unlisted here left unlisted =>
    rintro ⟨entry, hm, index, -⟩
    exact unlisted kind tracked (List.mem_map.mpr ⟨entry, hm, index⟩)

section Takes

variable {s s' : State} {player : Player} {lootSlot : ℕ} {found : Loot.SlotItem}

section

variable (takes : Takes s s' player lootSlot found)
include takes

lemma Takes.open_iff (well : s.loot.WellListed) :
    s'.loot.Open kind guid i ↔ s.loot.Open kind guid i ∧
      ¬ (guid = player.guid ∧ ∃ j, found.entry = some (kind, j) ∧ found.place = kind.place i) := by
  constructor
  · rintro ⟨entry', hm', index, left⟩
    obtain ⟨j, listed'⟩ := List.mem_iff_getElem?.mp hm'
    rw [takes.entries] at listed'
    obtain ⟨entry, listed, rfl⟩ := Option.map_eq_some_iff.mp listed'
    split at left
    · cases left
    next notMarked =>
      rw [if_neg notMarked] at index
      refine ⟨⟨entry, List.mem_of_getElem? listed, index, left⟩, ?_⟩
      rintro ⟨rfl, k, goesWith, place⟩
      obtain ⟨other, listed'', -, place', -⟩ := takes.inSlot.entry_eq kind k goesWith
      have hs : other.index = entry.index :=
        (Loot.place_injective kind (place'.symm.trans place)).trans index.symm
      have first := Loot.findIdx?_entries well listed''
      rw [hs, Loot.findIdx?_entries well listed, Option.some.injEq] at first
      exact notMarked ⟨rfl, first ▸ goesWith⟩
  · rintro ⟨⟨entry, hm, rfl, left⟩, notTaken⟩
    obtain ⟨j, listed⟩ := List.mem_iff_getElem?.mp hm
    have notMarked : ¬ (guid = player.guid ∧ found.entry = some (kind, j)) := by
      rintro ⟨rfl, goesWith⟩
      exact notTaken ⟨rfl, j, goesWith, place_of_entry takes.inSlot listed goesWith⟩
    have listed' := takes.entries kind guid j
    rw [listed, Option.map_some, if_neg notMarked] at listed'
    exact ⟨entry, List.mem_of_getElem? listed', rfl, left⟩

lemma Takes.openers_of_ne (well : s.loot.WellListed) (kind : ListKind)
    (other : found.place ≠ kind.place i) : s'.loot.openers kind i = s.loot.openers kind i := by
  refine Loot.openers_congr fun guid => ?_
  rw [takes.open_iff well]
  refine and_iff_left ?_
  rintro ⟨-, j, -, place⟩
  exact other place

lemma Takes.openers_eq (well : s.loot.WellListed) (kind : ListKind)
    (tracked : found.place.listKind found.item = some kind) :
    s'.loot.openers kind found.place.index =
      (s.loot.openers kind found.place.index).erase player.guid := by
  have place := Loot.kind_of_listKind tracked
  ext guid
  rw [Finset.mem_erase, Loot.mem_openers, Loot.mem_openers, takes.open_iff well, and_comm]
  refine and_congr_left fun isOpen => not_congr ⟨And.left, ?_⟩
  rintro rfl
  cases goesWith : found.entry with
  | none => exact absurd isOpen (takes.inSlot.not_open goesWith tracked)
  | some entry =>
    obtain ⟨-, -, -, -, hs⟩ := takes.inSlot.entry_eq entry.1 entry.2 goesWith
    obtain rfl := Option.some.inj (tracked.symm.trans hs)
    exact ⟨rfl, entry.2, rfl, place.symm⟩

lemma Takes.nature (place : Place) :
    (s'.loot.item? place).map LootItem.nature = (s.loot.item? place).map LootItem.nature := by
  rw [takes.items]
  split
  · rw [Option.map_map]
    rfl
  · rfl

lemma Takes.units_of_ne (well : s.loot.WellListed) (other : place ≠ found.place) :
    s'.loot.units place = s.loot.units place := by
  refine Loot.units_congr ?_ fun kind hs => ?_
  · rw [takes.items, if_neg fun both => other both.1]
  · exact takes.openers_of_ne well kind (by rw [hs]; exact other.symm)

end

/-- The unit that is meant by who takes what he has found. -/
def Loot.SlotItem.Due (loot : Loot) (guid : ℕ) (found : Loot.SlotItem) : Prop :=
  if found.item.freeforall then loot.Left found.place guid
  else ∃ guid', loot.Left found.place guid'

open Classical in
lemma Takes.units (takes : Takes s s' player lootSlot found) (well : s.loot.WellListed) :
    s'.loot.units found.place + (if found.Due s.loot player.guid then 1 else 0) =
      s.loot.units found.place := by
  have here := takes.inSlot.item_eq
  have here' := takes.items found.place
  rw [here] at here'
  cases free : found.item.freeforall with
  | false =>
    rw [if_pos ⟨rfl, free⟩, Option.map_some] at here'
    have due : found.Due s.loot player.guid ↔ 0 < s.loot.units found.place := by
      rw [Loot.SlotItem.Due, if_neg (by simp [free]), Loot.units_pos_iff]
    have once := Loot.units_le_one here free
    rw [Loot.units_of_looted here' rfl, Nat.zero_add]
    split
    next isDue =>
      have positive := due.mp isDue
      omega
    next notDue =>
      have zero := mt due.mpr notDue
      omega
  | true =>
    rw [if_neg (by simp [free])] at here'
    rw [Loot.SlotItem.Due, if_pos free, Loot.left_iff here]
    cases left : found.item.is_looted with
    | true => simp [Loot.units_of_looted here left, Loot.units_of_looted here' left]
    | false =>
      obtain ⟨kind, tracked⟩ : ∃ kind, found.place.listKind found.item = some kind := by
        cases found.place with
        | quest i => exact ⟨_, rfl⟩
        | normal i => exact ⟨_, LootItem.listKind_eq_ffa.mpr free⟩
      rw [Loot.units_freeforall here tracked free left,
        Loot.units_freeforall here' tracked free left, takes.openers_eq well kind tracked]
      simp only [tracked, Option.some.injEq, forall_eq', true_and]
      split
      next isOpen => exact Finset.card_erase_add_one isOpen
      next notOpen => rw [Finset.erase_eq_of_notMem notOpen, Nat.add_zero]

open Classical in
lemma Takes.unitsLeft (takes : Takes s s' player lootSlot found) (well : s.loot.WellListed) :
    s'.loot.unitsLeft + (if found.Due s.loot player.guid then 1 else 0) = s.loot.unitsLeft := by
  have here := takes.units well
  have hm : found.place ∈ s.loot.places := Loot.mem_places.mpr ⟨_, takes.inSlot.item_eq⟩
  have all := Loot.unitsLeft_update (Loot.places_congr takes.nature) hm
    fun place other => takes.units_of_ne well other
  omega

end Takes

lemma Gives.nature {s s' : State} {target : Player} (gives : Gives s s' target place item)
    (place' : Place) :
    (s'.loot.item? place').map LootItem.nature = (s.loot.item? place').map LootItem.nature := by
  rw [gives.items]
  split
  next hs =>
    rw [hs, gives.here]
    rfl
  next => rfl

lemma Gives.unitsLeft {s s' : State} {target : Player} (gives : Gives s s' target place item) :
    s'.loot.unitsLeft + s.loot.units place = s.loot.unitsLeft := by
  have given : s'.loot.units place = 0 := by
    have here := gives.items place
    rw [if_pos rfl] at here
    exact Loot.units_of_looted here rfl
  have entries (kind : ListKind) (i : ℕ) : s'.loot.openers kind i = s.loot.openers kind i := by
    refine Loot.openers_congr fun guid => ?_
    rw [Loot.Open, Loot.entries, gives.entries]
    rfl
  have all := Loot.unitsLeft_update (Loot.places_congr gives.nature)
    (Loot.mem_places.mpr ⟨item, gives.here⟩) fun place' other =>
      Loot.units_congr (by rw [gives.items, if_neg other]) fun kind _ => entries kind _
  rw [given, Nat.add_zero] at all
  exact all

section Requests

variable (GetItemTemplate : ℕ → Option ItemTemplate)

def ClosesOne (s : State) : State.Request → Prop
  | .autostore player lootSlot => ∀ found,
    s.loot.LootItemInSlot lootSlot player.guid = some found →
    State.canLoot player found = true → found.Due s.loot player.guid
  | .masterGive target slotid => ∀ item, s.loot.item? (s.masterPlace slotid) = some item →
    State.canGive GetItemTemplate target item = true → s.loot.units (s.masterPlace slotid) = 1
  | .roll _ _ | .release => True

/-- The counter is right after the request, and has not wrapped. -/
def StaysTallied (s : State) (request : State.Request) : Prop :=
  let s' := s.step GetItemTemplate request
  Tallied s'.loot ∧ s'.loot.unlootedCount ≤ s.loot.unlootedCount

lemma tallied_sub_one_iff {loot loot' : Loot} (tallied : Tallied loot)
    (lowered : loot'.unlootedCount = loot.unlootedCount - 1) {n : ℕ}
    (taken : loot'.unitsLeft + n = loot.unitsLeft) :
    (Tallied loot' ∧ loot'.unlootedCount ≤ loot.unlootedCount) ↔ n = 1 := by
  have count := tallied.unlootedCount
  rw [Loot.tallied_iff, lowered, UInt8.le_iff_toNat_le, UInt8.toNat_sub]
  have small := loot.unlootedCount.toNat_lt
  have one : (1 : UInt8).toNat = 1 := rfl
  omega

lemma staysTallied_of_same {s : State} (tallied : Tallied s.loot) {request : State.Request}
    (units : (s.step GetItemTemplate request).loot.unitsLeft = s.loot.unitsLeft)
    (hs : (s.step GetItemTemplate request).loot.unlootedCount = s.loot.unlootedCount) :
    StaysTallied GetItemTemplate s request := by
  refine ⟨Loot.tallied_iff.mpr ?_, ?_⟩
  · rw [hs, units]
    exact tallied.unlootedCount
  · rw [hs]
    exact UInt8.le_refl _

lemma staysTallied_iff {s : State} (well : s.loot.WellListed) (tallied : Tallied s.loot)
    (request : State.Request) :
    StaysTallied GetItemTemplate s request ↔ ClosesOne GetItemTemplate s request := by
  cases request with
  | autostore player lootSlot =>
    by_cases stores : ∃ found, s.loot.LootItemInSlot lootSlot player.guid = some found ∧
        State.canLoot player found = true
    · obtain ⟨found, inSlot, can⟩ := stores
      have takes := takes_StoreLootItem s player lootSlot inSlot can
      have closes : ClosesOne GetItemTemplate s (.autostore player lootSlot) ↔
          found.Due s.loot player.guid := by
        simp [ClosesOne, inSlot, can]
      classical
      rw [closes, StaysTallied, State.step,
        tallied_sub_one_iff tallied takes.unlootedCount (takes.unitsLeft well)]
      simp
    · have hs : s.StoreLootItem player lootSlot = s :=
        StoreLootItem_of_none fun found inSlot => by
          by_contra can
          exact stores ⟨found, inSlot, by simpa using can⟩
      refine iff_of_true (staysTallied_of_same GetItemTemplate tallied ?_ ?_) ?_
      · rw [State.step, hs]
      · rw [State.step, hs]
      · exact fun found inSlot can => absurd ⟨found, inSlot, can⟩ stores
  | masterGive target slotid =>
    by_cases gives : ∃ item, s.loot.item? (s.masterPlace slotid) = some item ∧
        State.canGive GetItemTemplate target item = true
    · obtain ⟨item, here, can⟩ := gives
      have gives := gives_HandleLootMasterGive GetItemTemplate s target slotid here can
      rw [StaysTallied, State.step,
        tallied_sub_one_iff tallied gives.unlootedCount gives.unitsLeft]
      simp [ClosesOne, here, can]
    · have hs : s.HandleLootMasterGive GetItemTemplate target slotid = s :=
        HandleLootMasterGive_of_none fun item here => by
          by_contra can
          exact gives ⟨item, here, by simpa using can⟩
      refine iff_of_true (staysTallied_of_same GetItemTemplate tallied ?_ ?_) ?_
      · rw [State.step, hs]
      · rw [State.step, hs]
      · exact fun item here can => absurd ⟨item, here, can⟩ gives
  | roll place is_blocked =>
    refine iff_of_true (staysTallied_of_same GetItemTemplate tallied ?_ ?_) trivial
    · refine Loot.unitsLeft_congr (fun place' => ?_) fun kind guid => Loot.entries_modifyItem ..
      rw [State.step, Loot.item?_modifyItem]
      split
      · rw [Option.map_map]
        rfl
      · rfl
    · exact Loot.unlootedCount_modifyItem ..
  | release =>
    exact iff_of_true (staysTallied_of_same GetItemTemplate tallied rfl rfl) trivial

lemma along_staysTallied_iff {s : State} (well : s.loot.WellListed) (tallied : Tallied s.loot)
    (requests : List State.Request) :
    Along (State.step GetItemTemplate) (StaysTallied GetItemTemplate) s requests ↔
      Along (State.step GetItemTemplate) (ClosesOne GetItemTemplate) s requests := by
  refine along_iff_of_invariant (fun s => s.loot.WellListed ∧ Tallied s.loot) ?_ ?_
    ⟨well, tallied⟩ requests
  · rintro s request ⟨well, tallied⟩ closes
    have stays := (staysTallied_iff GetItemTemplate well tallied request).mpr closes
    exact ⟨(later_step GetItemTemplate s request).wellListed well, stays.1⟩
  · rintro s request ⟨well, tallied⟩
    exact staysTallied_iff GetItemTemplate well tallied request

end Requests

end WorldServer.Looting
