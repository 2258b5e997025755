import WorldServer.Items.Offers

/-!
# Storing any count

A check that succeeds has reserved the whole count: at positions that are different from each other,
each of them free or with a stack of the item. Storing an item at these positions adds the count to
what the player has, and leaves everything in its place.
-/
namespace WorldServer.Items

open WorldServer.Lib

namespace Inventory

variable (player : Player) (inv : Inventory) (entry : ℕ)

/-- The positions of a reservation have room, each for its count. -/
structure Fits (dest : List (Pos × ℕ)) : Prop where
  once : (dest.map Prod.fst).Nodup
  room : ∀ r ∈ dest, 0 < r.2 ∧ r.2 ≤ (player.GetItemTemplate entry).GetMaxStackSize ∧
    inv.Room player entry r.1
  stack : ∀ r ∈ dest, ∀ item, inv.GetItemByPos player r.1 = some item →
    item.count + r.2 ≤ (player.GetItemTemplate entry).GetMaxStackSize

def Known (guid : ℕ) : Prop := ∃ place item, inv.items.lookup place = some item ∧ item.guid = guid

/-- The item that moves, if there is one, is in no place. -/
def Apart (pSrcItem : Option Item) : Prop := ∀ src ∈ pSrcItem, ¬ inv.Known src.guid

variable {player inv entry} {count : ℕ} {pSrcItem : Option Item}

lemma apart_none : inv.Apart none := by
  intro src hm
  cases hm

lemma otherAt_of_apart (apart : inv.Apart pSrcItem) (pos : Pos) :
    inv.otherAt player pSrcItem pos = inv.GetItemByPos player pos := by
  rw [otherAt]
  cases here : inv.GetItemByPos player pos with
  | none => rfl
  | some item =>
    obtain ⟨place, -, atPlace⟩ := Option.bind_eq_some_iff.mp here
    cases pSrcItem with
    | none => rfl
    | some src =>
      have other : item.guid ≠ src.guid := fun hs => apart src rfl ⟨place, item, atPlace, hs⟩
      simp [Option.filter, other]

lemma Placed.later (placed : inv.Placed player) {nextGuid : ℕ} (later : inv.nextGuid ≤ nextGuid) :
    Placed player { inv with nextGuid } :=
  ⟨placed.recorded, placed.distinct, placed.inBags,
    fun place item here => (placed.fresh place item here).trans_le later, placed.positive⟩

variable {pos : Pos} {dest : List (Pos × ℕ)} {item : Item}

/-- What a successful check reserves adds up to the count, at positions that have room. -/
lemma canStore_fits (apart : inv.Apart pSrcItem) (some : 0 < count) (word : count < 2 ^ 32)
    (ok : inv.canStore player pos [] entry count pSrcItem false = (.ok, dest)) :
    inv.Fits player entry dest ∧ (dest.map Prod.snd).sum = count := by
  obtain ⟨took, roomy⟩ :=
    StoreRequest.canStore_ok (q := ⟨player, inv, entry, pSrcItem, pos, false⟩) some word ok
  have here : ∀ x ∈ dest, ∃ place, inv.placeOf player x.1 = Option.some place ∧
      x.2 ≤ (player.GetItemTemplate entry).GetMaxStackSize ∧
      ∀ item, inv.items.lookup place = Option.some item → item.entry = entry ∧
        item.count + x.2 ≤ (player.GetItemTemplate entry).GetMaxStackSize := by
    intro x hm
    obtain ⟨⟨place, here⟩, some_⟩ := roomy x hm
    have within := (took.within x hm).2
    refine ⟨place, here, within.trans StoreRequest.roomAt_le, fun item there => ?_⟩
    have atPos : StoreRequest.otherAt ⟨player, inv, entry, pSrcItem, pos, false⟩ x.1 =
        Option.some item := by
      rw [StoreRequest.otherAt, otherAt_of_apart apart, GetItemByPos_of_placeOf here]
      exact there
    obtain ⟨hs, full⟩ := StoreRequest.stack_of_roomAt (by simp) atPos some_
    dsimp only [StoreRequest.proto] at hs full
    exact ⟨hs, by omega⟩
  refine ⟨⟨took.once, fun x hm => ?_, fun x hm item atPos => ?_⟩, by simpa using took.sum⟩
  · obtain ⟨place, valid, few, stack⟩ := here x hm
    exact ⟨(took.within x hm).1, few, place, valid, fun item there => (stack item there).1⟩
  · obtain ⟨place, valid, -, stack⟩ := here x hm
    rw [GetItemByPos_of_placeOf valid] at atPos
    exact (stack item atPos).2

/-! ### Storing at one position -/

/-- What storing does: `count` more of an item, at one place. The guids are the ones that were known
before, one of `own`, or new. -/
structure Stores (player : Player) (inv inv' : Inventory) (place : Place) (entry count : ℕ)
    (own : List ℕ) : Prop where
  placed : inv'.Placed player
  total : ∀ entry', inv'.total entry' = inv.total entry' + if entry = entry' then count else 0
  others : ∀ place', place' ≠ place → inv'.items.lookup place' = inv.items.lookup place'
  bags : ∀ slot pBag, inv.GetBagByPos player slot = some pBag → ∃ pBag',
    inv'.GetBagByPos player slot = some pBag' ∧ pBag'.guid = pBag.guid ∧ pBag'.entry = pBag.entry
  known : ∀ guid, inv'.Known guid → inv.Known guid ∨ guid ∈ own ∨ inv.nextGuid ≤ guid
  counts : ∀ place' item', inv'.items.lookup place' = some item' →
    item'.count ≤ (player.GetItemTemplate entry).GetMaxStackSize ∨
      ∃ old, inv.items.lookup place' = some old ∧ item'.count = old.count
  later : inv.nextGuid ≤ inv'.nextGuid

variable {inv' : Inventory} {place : Place} {own : List ℕ}

lemma Placed.stores_stack (placed : inv.Placed player) (here : inv.items.lookup place = some item)
    {count : ℕ} (stack : item.count + count ≤ (player.GetItemTemplate item.entry).GetMaxStackSize) :
    Stores player inv
      { inv with items := inv.items.insert place { item with count := item.count + count } }
      place item.entry count own where
  placed := placed.recount here (Nat.add_pos_left (placed.positive place item here) count)
  total entry' := by
    have changed := Table.total_insert_of_some
      (fun _ item => if item.entry = entry' then item.count else 0) inv.items place
      { item with count := item.count + count } item here
    dsimp only at changed
    rw [total, total]
    dsimp only
    split at changed
    next hs =>
      rw [if_pos hs]
      omega
    next different =>
      rw [if_neg different]
      omega
  others place' other := AList.lookup_insert_ne other
  bags slot pBag isBag := by
    obtain ⟨isSlot, atSlot, kind⟩ := GetBagByPos_eq_some.mp isBag
    by_cases hs : Place.slot slot = place
    · subst hs
      obtain rfl := Option.some.inj (here.symm.trans atSlot)
      exact ⟨{ item with count := item.count + count }, GetBagByPos_eq_some.mpr
        ⟨isSlot, (Table.lookup_insert_iff ..).mpr (.inl ⟨rfl, rfl⟩), kind⟩, rfl, rfl⟩
    · exact ⟨pBag, GetBagByPos_eq_some.mpr
        ⟨isSlot, (Table.lookup_insert_iff ..).mpr (.inr ⟨hs, atSlot⟩), kind⟩, rfl, rfl⟩
  known guid hf := by
    obtain ⟨place', item', there, rfl⟩ := hf
    rcases (Table.lookup_insert_iff ..).mp there with ⟨rfl, rfl⟩ | ⟨-, old⟩
    · exact .inl ⟨_, item, here, rfl⟩
    · exact .inl ⟨place', item', old, rfl⟩
  counts place' item' there := by
    rcases (Table.lookup_insert_iff ..).mp there with ⟨rfl, rfl⟩ | ⟨-, old⟩
    · exact .inl stack
    · exact .inr ⟨item', old, rfl⟩
  later := le_rfl

lemma Placed.stores_free (placed : inv.Placed player)
    (valid : inv.placeOf player pos = some place) (free : inv.items.lookup place = none)
    (positive : 0 < item.count)
    (few : item.count ≤ (player.GetItemTemplate item.entry).GetMaxStackSize)
    (apart : ¬ inv.Known item.guid) {nextGuid : ℕ} (fresh : item.guid < nextGuid)
    (later : inv.nextGuid ≤ nextGuid) (guid : item.guid ∈ own ∨ inv.nextGuid ≤ item.guid) :
    Stores player inv
      { inv with items := inv.items.insert place (item.putAt place), nextGuid }
      place item.entry item.count own where
  placed := by
    refine placed.insert valid free (item.putAt_place place) (by simpa using positive) ?_
      (by simpa using fresh) later
    intro place' old there hs
    exact apart ⟨place', old, there, by simpa using hs⟩
  total entry' := by
    rw [total, Table.total_insert_of_none _ _ _ _ free, Item.putAt_entry, Item.putAt_count,
      add_comm]
    rfl
  others place' other := AList.lookup_insert_ne other
  bags slot pBag isBag := by
    obtain ⟨isSlot, atSlot, kind⟩ := GetBagByPos_eq_some.mp isBag
    have other : Place.slot slot ≠ place := by
      rintro rfl
      rw [free] at atSlot
      cases atSlot
    exact ⟨pBag, GetBagByPos_eq_some.mpr
      ⟨isSlot, (Table.lookup_insert_iff ..).mpr (.inr ⟨other, atSlot⟩), kind⟩, rfl, rfl⟩
  known guid' hf := by
    obtain ⟨place', item', there, rfl⟩ := hf
    rcases (Table.lookup_insert_iff ..).mp there with ⟨rfl, rfl⟩ | ⟨-, old⟩
    · rw [Item.putAt_guid]
      exact .inr guid
    · exact .inl ⟨place', item', old, rfl⟩
  counts place' item' there := by
    rcases (Table.lookup_insert_iff ..).mp there with ⟨rfl, rfl⟩ | ⟨-, old⟩
    · rw [Item.putAt_count]
      exact .inl few
    · exact .inr ⟨item', old, rfl⟩
  later := later

lemma putFree_of_placeOf (valid : inv.placeOf player pos = some place)
    (apart : ¬ inv.Known item.guid) : inv.putFree player pos item = inv.put place item := by
  cases place with
  | slot slot =>
    obtain ⟨rfl, -⟩ := placeOf_eq_slot.mp valid
    rw [putFree, freePlace, if_pos rfl]
  | inBag bag i =>
    obtain ⟨pBag, isBag, rfl, rfl, -⟩ := placeOf_eq_inBag.mp valid
    obtain ⟨isSlot, atSlot, -⟩ := GetBagByPos_eq_some.mp isBag
    have free : inv.freePlace player pos = .inBag pBag.guid pos.2 := by
      rw [freePlace, if_neg (ne_of_isBagSlot isSlot), isBag]
    rw [putFree, free]
    dsimp only
    rw [if_neg fun itself => apart ⟨_, pBag, atSlot, itself.symm⟩]

lemma storeItem_stores (placed : inv.Placed player) {pItem : Item}
    (valid : inv.placeOf player pos = some place)
    (hs : ∀ item, inv.items.lookup place = some item → item.entry = pItem.entry)
    (stack : ∀ item, inv.GetItemByPos player pos = some item →
      item.count + count ≤ (player.GetItemTemplate pItem.entry).GetMaxStackSize) (some : 0 < count)
    (few : count ≤ (player.GetItemTemplate pItem.entry).GetMaxStackSize)
    (apart : ¬ inv.Known pItem.guid) (fresh : pItem.guid < inv.nextGuid) (clone : Bool) :
    Stores player inv (inv.storeItem player pos pItem count clone) place pItem.entry count
      (if clone then [] else [pItem.guid]) := by
  rw [GetItemByPos_of_placeOf valid] at stack
  rw [storeItem, GetItemByPos_of_placeOf valid]
  cases hf : inv.items.lookup place with
  | some pItem2 =>
    dsimp only
    have bound := stack pItem2 hf
    rw [← hs pItem2 hf] at bound ⊢
    rw [addCount, valid]
    exact placed.stores_stack hf bound
  | none =>
    cases clone with
    | false =>
      have itself : ¬ inv.Known { pItem with count := count }.guid := apart
      rw [if_neg (by simp), putFree_of_placeOf valid itself]
      exact placed.stores_free valid hf some few itself fresh le_rfl (.inl (by simp))
    | true =>
      have enough : ¬ count < 1 := by omega
      have exact_ : min count (player.GetItemTemplate pItem.entry).GetMaxStackSize = count := by
        omega
      have unknown : ¬ inv.Known inv.nextGuid := by
        rintro ⟨place', old, there, hs⟩
        exact (placed.fresh place' old there).ne hs
      let next : Inventory := { inv with nextGuid := inv.nextGuid + 1 }
      let copy : Item := ⟨inv.nextGuid, pItem.entry, count, 0, none, false, false⟩
      have put : next.putFree player pos copy = next.put place copy :=
        putFree_of_placeOf valid unknown
      have stores : Stores player inv (next.put place copy) place pItem.entry count [] :=
        placed.stores_free valid hf some few unknown (Nat.lt_succ_self _) (Nat.le_succ _)
          (.inr le_rfl)
      rw [if_pos rfl, if_pos rfl, CloneItem, if_neg enough, exact_]
      rw [← put] at stores
      exact stores

/-! ### Storing at all positions -/

lemma Placed.placeOf_injective (placed : inv.Placed player) {pos' : Pos}
    (here : inv.placeOf player pos = some place) (here' : inv.placeOf player pos' = some place) :
    pos = pos' := by
  cases place with
  | slot slot =>
    rw [(placeOf_eq_slot.mp here).1, (placeOf_eq_slot.mp here').1]
  | inBag bag i =>
    obtain ⟨pBag, isBag, guid, rfl, -⟩ := placeOf_eq_inBag.mp here
    obtain ⟨pBag', isBag', guid', index, -⟩ := placeOf_eq_inBag.mp here'
    have sameBag := (placed.bag_unique isBag isBag' (guid.trans guid'.symm)).1
    exact Prod.ext sameBag index.symm

lemma Stores.placeOf (stores : Stores player inv inv' place entry count own) {place' : Place}
    (valid : inv.placeOf player pos = some place') : inv'.placeOf player pos = some place' := by
  cases place' with
  | slot slot =>
    obtain ⟨rfl, inRange⟩ := placeOf_eq_slot.mp valid
    exact placeOf_eq_slot.mpr ⟨rfl, inRange⟩
  | inBag bag i =>
    obtain ⟨pBag, isBag, rfl, rfl, less⟩ := placeOf_eq_inBag.mp valid
    obtain ⟨pBag', isBag', guid, sameEntry⟩ := stores.bags pos.1 pBag isBag
    have size : GetBagSize player pBag' = GetBagSize player pBag := by
      rw [GetBagSize, sameEntry, GetBagSize]
    exact placeOf_eq_inBag.mpr ⟨pBag', isBag', guid, rfl, size ▸ less⟩

lemma Stores.fits (stores : Stores player inv inv' place entry count own)
    (placed : inv.Placed player) (valid : inv.placeOf player pos = some place)
    (fits : inv.Fits player entry dest) (other : pos ∉ dest.map Prod.fst) :
    inv'.Fits player entry dest where
  once := fits.once
  room r hm := by
    obtain ⟨some, few, place', here, stack⟩ := fits.room r hm
    have apart : place' ≠ place := by
      rintro rfl
      have hs := placed.placeOf_injective here valid
      exact other (hs ▸ List.mem_map_of_mem hm)
    refine ⟨some, few, place', stores.placeOf here, fun item there => stack item ?_⟩
    rw [← stores.others place' apart]
    exact there
  stack r hm item there := by
    obtain ⟨-, -, place', here, -⟩ := fits.room r hm
    have apart : place' ≠ place := by
      rintro rfl
      have hs := placed.placeOf_injective here valid
      exact other (hs ▸ List.mem_map_of_mem hm)
    refine fits.stack r hm item ?_
    rw [GetItemByPos_of_placeOf (stores.placeOf here), stores.others place' apart] at there
    rw [GetItemByPos_of_placeOf here, there]

/-- What storing a whole reservation does. -/
structure StoresAll (player : Player) (inv inv' : Inventory) (entry count : ℕ) (own : List ℕ) :
    Prop where
  placed : inv'.Placed player
  total : ∀ entry', inv'.total entry' = inv.total entry' + if entry = entry' then count else 0
  known : ∀ guid, inv'.Known guid → inv.Known guid ∨ guid ∈ own ∨ inv.nextGuid ≤ guid
  counts : ∀ place item', inv'.items.lookup place = some item' →
    item'.count ≤ (player.GetItemTemplate entry).GetMaxStackSize ∨
      ∃ old, inv.items.lookup place = some old ∧ item'.count = old.count
  later : inv.nextGuid ≤ inv'.nextGuid

lemma StoreItem_stores : ∀ {inv : Inventory} {pItem : Item},
    inv.Placed player → inv.Fits player pItem.entry dest → ¬ inv.Known pItem.guid →
    pItem.guid < inv.nextGuid →
    StoresAll player inv (inv.StoreItem player dest pItem) pItem.entry
      (dest.map Prod.snd).sum [pItem.guid] := by
  induction dest with
  | nil =>
    intro inv pItem placed fits apart fresh
    exact {
      placed := ⟨placed.recorded, placed.distinct, placed.inBags, placed.fresh, placed.positive⟩
      total := fun entry' => by simp [StoreItem, total]
      known := fun guid hf => .inl hf
      counts := fun place item' there => .inr ⟨item', there, rfl⟩
      later := le_rfl }
  | cons r rest ih =>
    obtain ⟨pos, count⟩ := r
    intro inv pItem placed fits apart fresh
    obtain ⟨some, few, place, valid, hs⟩ := fits.room (pos, count) List.mem_cons_self
    have stack := fits.stack (pos, count) List.mem_cons_self
    cases rest with
    | nil =>
      have stores := storeItem_stores placed valid hs stack some few apart fresh false
      exact {
        placed := stores.placed
        total := by simpa [StoreItem] using stores.total
        known := stores.known
        counts := stores.counts
        later := stores.later }
    | cons r' rest =>
      have stores := storeItem_stores placed valid hs stack some few apart fresh true
      obtain ⟨new, once⟩ := List.nodup_cons.mp fits.once
      have fitsRest : inv.Fits player pItem.entry (r' :: rest) :=
        ⟨once, fun r hm => fits.room r (List.mem_cons_of_mem _ hm),
          fun r hm => fits.stack r (List.mem_cons_of_mem _ hm)⟩
      have apart' : ¬ (inv.storeItem player pos pItem count true).Known pItem.guid := by
        intro hf
        rcases stores.known _ hf with old | own | new
        · exact apart old
        · simp at own
        · omega
      have all := ih stores.placed (stores.fits placed valid fitsRest new) apart'
        (fresh.trans_le stores.later)
      have result : inv.StoreItem player ((pos, count) :: r' :: rest) pItem =
          (inv.storeItem player pos pItem count true).StoreItem player (r' :: rest) pItem := rfl
      rw [result]
      exact {
        placed := all.placed
        total := fun entry' => by
          rw [all.total entry', stores.total entry']
          simp only [List.map_cons, List.sum_cons]
          split <;> omega
        known := fun guid hf => by
          rcases all.known guid hf with before | own | new
          · rcases stores.known guid before with old | none | new
            · exact .inl old
            · simp at none
            · exact .inr (.inr new)
          · exact .inr (.inl own)
          · exact .inr (.inr (stores.later.trans new))
        counts := fun place item' there => by
          rcases all.counts place item' there with few | ⟨between, there', hs⟩
          · exact .inl few
          · rw [hs]
            exact stores.counts place between there'
        later := stores.later.trans all.later }

lemma CanStoreItem_stores (placed : inv.Placed player) {pItem : Item}
    (apart : ¬ inv.Known pItem.guid) (fresh : pItem.guid < inv.nextGuid) (some : 0 < pItem.count)
    (word : pItem.count < 2 ^ 32) (ok : inv.CanStoreItem player pos [] pItem false = (.ok, dest)) :
    StoresAll player inv (inv.StoreItem player dest pItem) pItem.entry pItem.count
      [pItem.guid] := by
  have isApart : inv.Apart (Option.some pItem) := by
    intro src hm
    cases hm
    exact apart
  obtain ⟨fits, sum⟩ := canStore_fits isApart some word ok
  rw [← sum]
  exact StoreItem_stores placed fits apart fresh

lemma CanStoreNewItem_stores (placed : inv.Placed player) (some : 0 < count)
    (word : count < 2 ^ 32) (ok : inv.CanStoreNewItem player pos [] entry count = (.ok, dest)) :
    StoresAll player inv (inv.StoreNewItem player dest entry) entry count [] := by
  obtain ⟨fits, sum⟩ := canStore_fits apart_none some word ok
  let next : Inventory := { inv with nextGuid := inv.nextGuid + 1 }
  let pItem : Item := ⟨inv.nextGuid, entry,
    min count (player.GetItemTemplate entry).GetMaxStackSize, 0, none, false, false⟩
  have created : inv.StoreNewItem player dest entry = next.StoreItem player dest pItem := by
    rw [StoreNewItem, sum, Nat.mod_eq_of_lt word, CreateItem, if_neg (by omega)]
  have placed' : next.Placed player := placed.later (Nat.le_succ _)
  have unknown : ¬ next.Known pItem.guid := by
    rintro ⟨place, old, there, hs⟩
    exact (placed.fresh place old there).ne hs
  have fits' : next.Fits player pItem.entry dest := ⟨fits.once, fits.room, fits.stack⟩
  have stores := StoreItem_stores placed' fits' unknown (Nat.lt_succ_self inv.nextGuid)
  rw [created, ← sum]
  exact {
    placed := stores.placed
    total := stores.total
    known := fun guid hf => by
      rcases stores.known guid hf with old | own | new
      · exact .inl old
      · exact .inr (.inr (List.mem_singleton.mp own).ge)
      · exact .inr (.inr ((Nat.le_succ _).trans new))
    counts := stores.counts
    later := (Nat.le_succ _).trans stores.later }

end Inventory

end WorldServer.Items
