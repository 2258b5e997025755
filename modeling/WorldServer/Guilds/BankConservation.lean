import WorldServer.Guilds.BankItems

/-!
# No move creates or loses an item

The total count of a template is the sum over all slots. A stack is stored over
reserved slots that are pairwise distinct and have room, so what is removed from
one slot is what the others gain.
-/
namespace WorldServer.Guilds

open WorldServer.Lib

namespace Bank

/-! ### Totals -/

/-- The slot exists. -/
def HasSlot (tabs : List BankTab) (tabId slotId : UInt8) : Prop :=
  tabId.toNat < tabs.length ∧ slotId.toNat < guildBankMaxSlots

def cellCount (entry : UInt32) (cell : Option Item) : ℕ :=
  match cell with
  | some item => if item.entry = entry then item.count.toNat else 0
  | none => 0

def tabTotal (entry : UInt32) (tab : BankTab) : ℕ := (tab.toList.map (cellCount entry)).sum

def total (tabs : List BankTab) (entry : UInt32) : ℕ := (tabs.map (tabTotal entry)).sum

/-- Every stack has at least one item and at most its template's stack size. -/
def StacksFit (w : World) (tabs : List BankTab) : Prop :=
  ∀ tabId slotId item, getItem tabs tabId slotId = some item →
    0 < item.count.toNat ∧ item.count.toNat ≤ (w.maxStackSize item.entry).toNat

section

variable (tabs : List BankTab) (tabId slotId : UInt8)

lemma length_setItem (item : Option Item) :
    (setItem tabs tabId slotId item).length = tabs.length := by
  simp [setItem]

lemma getItem_setItem (has : HasSlot tabs tabId slotId) (item : Option Item) (t s : UInt8) :
    getItem (setItem tabs tabId slotId item) t s =
      if t = tabId ∧ s = slotId then item else getItem tabs t s := by
  obtain ⟨tabHere, slotHere⟩ := has
  simp only [getItem, setItem, List.getElem?_modify]
  by_cases sameTab : t = tabId
  · subst sameTab
    simp only [true_and, List.getElem?_eq_getElem tabHere, if_true, Option.map_eq_map,
      Option.map_some, Option.bind_some, Vector.getElem?_setIfInBounds]
    by_cases sameSlot : s = slotId
    · subst sameSlot
      simp [slotHere]
    · have other : slotId.toNat ≠ s.toNat := fun hs => sameSlot (UInt8.toNat_inj.mp hs).symm
      simp [other, sameSlot]
  · have other : tabId.toNat ≠ t.toNat := fun hs => sameTab (UInt8.toNat_inj.mp hs).symm
    simp [other, sameTab]

lemma total_setItem (has : HasSlot tabs tabId slotId) (item : Option Item) (entry : UInt32) :
    total (setItem tabs tabId slotId item) entry + cellCount entry (getItem tabs tabId slotId) =
      total tabs entry + cellCount entry item := by
  obtain ⟨tabHere, slotHere⟩ := has
  obtain ⟨tab, found⟩ : ∃ tab, tabs[tabId.toNat]? = some tab :=
    ⟨_, List.getElem?_eq_getElem tabHere⟩
  have replaced : setItem tabs tabId slotId item =
      tabs.set tabId.toNat (tab.setIfInBounds slotId.toNat item) := by
    apply List.ext_getElem?
    intro i
    simp only [setItem, List.getElem?_modify, List.getElem?_set]
    by_cases hs : tabId.toNat = i
    · subst hs
      simp [tabHere, (List.getElem?_eq_some_iff.mp found).2]
    · simp [hs]
  have outer := sum_map_set (tabTotal entry) tabs tabId.toNat tab
    (tab.setIfInBounds slotId.toNat item) found
  have cell : tab.toList[slotId.toNat]? = some (getItem tabs tabId slotId) := by
    have there : tab[slotId.toNat]? = some (tab[slotId.toNat]) :=
      Vector.getElem?_eq_getElem slotHere
    simp only [getItem, found, Option.bind_some, there, Option.join_some]
    rw [Vector.getElem?_toList, there]
  have inner := sum_map_set (cellCount entry) tab.toList slotId.toNat _ item cell
  have listed : (tab.setIfInBounds slotId.toNat item).toList = tab.toList.set slotId.toNat item := by
    simp
  simp only [total, replaced] at outer ⊢
  simp only [tabTotal, listed] at outer
  omega

end

end Bank

/-! ### What a reservation promises -/

lemma maxStackSize_bounds (w : World) (entry : UInt32) :
    0 < (w.maxStackSize entry).toNat ∧ (w.maxStackSize entry).toNat < 2 ^ 31 := by
  unfold World.maxStackSize
  split
  · decide
  next limited =>
    simp only [not_or, Int32.le_iff_toInt_le] at limited
    have value := Int32.toNat_toUInt32_of_le (show (0 : Int32) ≤ w.stackable entry by
      rw [Int32.le_iff_toInt_le]
      simp at limited ⊢
      omega)
    have upper := (w.stackable entry).toInt_lt
    have zero : (0 : Int32).toInt = 0 := rfl
    rw [value, Int32.toNatClampNeg]
    omega

/-- A slot with this content can take `count` of the item. -/
def Room (w : World) (item : Item) (cell : Option Item) (count : UInt32) : Prop :=
  match cell with
  | none => count.toNat ≤ (w.maxStackSize item.entry).toNat
  | some d => d.entry = item.entry ∧
      d.count.toNat + count.toNat ≤ (w.maxStackSize item.entry).toNat

/-- Distinct slots of the tab, each with room for its part, and parts that sum up with
what is left to the stack. -/
structure Reserved (w : World) (item : Item) (seen : UInt8 → Option Item) (r : Reservation) : Prop where
  distinct : (r.vec.map (·.pos)).Nodup
  inTab : ∀ p ∈ r.vec, p.pos.toNat < guildBankMaxSlots
  room : ∀ p ∈ r.vec, Room w item (seen p.pos) p.count
  sum : (r.vec.map (·.count.toNat)).sum + r.count.toNat = item.count.toNat
  positive : 0 < item.count.toNat → ∀ p ∈ r.vec, 0 < p.count.toNat

variable {r : Reservation}

lemma reserveSpace_reserved {w : World} {item : Item} {seen : UInt8 → Option Item}
    {r' : Reservation} (reserved : Reserved w item seen r) (slotId : UInt8)
    (inTab : slotId.toNat < guildBankMaxSlots) (open_ : 0 < item.count.toNat → 0 < r.count.toNat)
    (took : reserveSpace w slotId item (seen slotId) r = some r') : Reserved w item seen r' := by
  have limit := maxStackSize_bounds w item.entry
  simp only [reserveSpace, Option.map_eq_some_iff] at took
  obtain ⟨space, free, rfl⟩ := took
  -- the space is what the slot can still take, and it is not zero
  have fits : 0 < space.toNat ∧ ∀ count : UInt32, count.toNat ≤ space.toNat →
      Room w item (seen slotId) count := by
    cases cell : seen slotId with
    | none =>
      simp only [cell, Option.some.injEq] at free
      subst free
      exact ⟨limit.1, fun count below => below⟩
    | some d =>
      simp only [cell] at free
      split at free
      · cases free
      next merges =>
        simp only [not_or, ne_eq, not_not, UInt32.not_le, UInt32.lt_iff_toNat_lt] at merges
        obtain rfl := Option.some.inj free
        have left : (w.maxStackSize item.entry - d.count).toNat =
            (w.maxStackSize item.entry).toNat - d.count.toNat :=
          UInt32.toNat_sub_of_le _ _ (UInt32.le_iff_toNat_le.mpr (by omega))
        refine ⟨by omega, fun count below => ⟨merges.1, ?_⟩⟩
        omega
  split
  · exact reserved
  next fresh =>
    have unused : slotId ∉ r.vec.map (·.pos) := by
      simpa [List.any_eq_true] using fresh
    generalize required_ : (if r.count < space then r.count else space) = required
    have bounds : required.toNat ≤ space.toNat ∧ required.toNat ≤ r.count.toNat ∧
        (0 < r.count.toNat → 0 < required.toNat) := by
      rw [← required_]
      split
      next less => rw [UInt32.lt_iff_toNat_lt] at less; omega
      next more => rw [UInt32.lt_iff_toNat_lt] at more; omega
    have left : (r.count - required).toNat = r.count.toNat - required.toNat :=
      UInt32.toNat_sub_of_le _ _ (UInt32.le_iff_toNat_le.mpr bounds.2.1)
    refine ⟨?_, ?_, ?_, ?_, ?_⟩
    · simp only [List.map_append, List.map_cons, List.map_nil]
      exact List.nodup_append.mpr ⟨reserved.distinct, by simp, fun a here b there => by
        rw [List.mem_singleton] at there
        exact fun hs => unused (there ▸ hs ▸ here)⟩
    · intro p hm
      rcases List.mem_append.mp hm with before | here
      · exact reserved.inTab p before
      · rw [List.mem_singleton] at here
        rw [here]
        exact inTab
    · intro p hm
      rcases List.mem_append.mp hm with before | here
      · exact reserved.room p before
      · rw [List.mem_singleton] at here
        rw [here]
        exact fits.2 required bounds.1
    · have sum := reserved.sum
      simp only [List.map_append, List.map_cons, List.map_nil, List.sum_append, List.sum_cons,
        List.sum_nil, left]
      omega
    · intro nonempty p hm
      rcases List.mem_append.mp hm with before | here
      · exact reserved.positive nonempty p before
      · rw [List.mem_singleton] at here
        rw [here]
        exact bounds.2.2 (open_ nonempty)

/-- How `canStore` sees a slot: the named one is empty in a swap. -/
def seenFor (tabs : List BankTab) (container slotId : UInt8) (ref : ItemRef) (swap : Bool) (pos : UInt8) :
    Option Item :=
  if swap = true ∧ pos = slotId then none else seenItem tabs container ref pos

variable {tabs : List BankTab} {ref : ItemRef} {swap : Bool}

lemma reserveInSlot_reserved {w : World} {container skip : UInt8}
    (reserved : Reserved w ref.item (seenFor tabs container skip ref swap) r) (merge : Bool)
    (slotId : UInt8) (inTab : slotId.toNat < guildBankMaxSlots) :
    Reserved w ref.item (seenFor tabs container skip ref swap)
      (reserveInSlot w tabs container ref skip merge r slotId) := by
  unfold reserveInSlot
  split
  · exact reserved
  next going =>
    rw [not_or] at going
    dsimp only
    split
    · exact reserved
    · -- the named slot is skipped, so the swap makes no difference here
      have seen : seenItem tabs container ref slotId =
          seenFor tabs container skip ref swap slotId := by
        simp [seenFor, going.2]
      rw [seen]
      cases took : reserveSpace w slotId ref.item (seenFor tabs container skip ref swap slotId) r with
      | none => exact reserved
      | some r' =>
        apply reserveSpace_reserved reserved slotId inTab ?_ took
        intro _
        have nonzero : r.count.toNat ≠ 0 := fun zero =>
          going.1 (UInt32.toNat_inj.mp (zero.trans UInt32.toNat_zero.symm))
        omega

lemma canStoreItemInTab_reserved {w : World} {container slotId : UInt8}
    (reserved : Reserved w ref.item (seenFor tabs container slotId ref swap) r) (merge : Bool) :
    Reserved w ref.item (seenFor tabs container slotId ref swap)
      (canStoreItemInTab w tabs container ref slotId merge r) := by
  unfold canStoreItemInTab
  have inside : ∀ i ∈ List.range guildBankMaxSlots, i < 98 := fun i hm => List.mem_range.mp hm
  generalize List.range guildBankMaxSlots = slots at inside
  induction slots generalizing r with
  | nil => exact reserved
  | cons i slots ih =>
    rw [List.foldl_cons]
    refine ih ?_ fun j hm => inside j (List.mem_cons_of_mem i hm)
    have here := inside i List.mem_cons_self
    apply reserveInSlot_reserved reserved merge (UInt8.ofNat i)
    rw [UInt8.toNat_ofNat']
    exact Nat.lt_of_le_of_lt (Nat.mod_le i 256) here

/-- Where `canStore` answers that it can, its positions are distinct slots of the tab,
each has room for its count, and the counts sum to the item's count. -/
lemma canStoreInBank_reserved {w : World} {container slotId : UInt8}
    (named : slotId.toNat < guildBankMaxSlots ∨ slotId = nullSlot) {vec : List ItemPosCount}
    (ok : canStoreInBank w tabs container slotId ref swap = .ok vec) :
    container.toNat < tabs.length ∧
      Reserved w ref.item (seenFor tabs container slotId ref swap) ⟨vec, 0⟩ := by
  unfold canStoreInBank at ok
  split at ok
  · cases ok
  split at ok
  · cases ok
  next exists_ =>
    have purchased : container.toNat < tabs.length := by
      simp only [UInt8.not_le, UInt8.lt_iff_toNat_lt, UInt8.toNat_ofNat'] at exists_
      omega
    refine ⟨purchased, ?_⟩
    have start : Reserved w ref.item (seenFor tabs container slotId ref swap) ⟨[], ref.item.count⟩ :=
      ⟨by simp, by simp, by simp, by simp, by simp⟩
    split at ok
    · cases ok
    next r first =>
      have reserved : Reserved w ref.item (seenFor tabs container slotId ref swap) r := by
        unfold reserveNamedSlot at first
        split at first
        · exact Option.some.inj first ▸ start
        next notNull =>
          have seen : (if swap = true then none else seenItem tabs container ref slotId) =
              seenFor tabs container slotId ref swap slotId := by
            simp [seenFor]
          rw [seen] at first
          exact reserveSpace_reserved start slotId (named.resolve_right notNull) (fun some_ => some_) first
      have done : ∀ r : Reservation, r.count = 0 →
          Reserved w ref.item (seenFor tabs container slotId ref swap) r →
          Reserved w ref.item (seenFor tabs container slotId ref swap) ⟨r.vec, 0⟩ := by
        intro r zero reserved
        rw [← zero]
        exact reserved
      split at ok
      next zero => exact Except.ok.inj ok ▸ done r zero reserved
      · have pass := canStoreItemInTab_reserved reserved true
        have merged : Reserved w ref.item (seenFor tabs container slotId ref swap)
            (if 1 < w.maxStackSize ref.item.entry then
              canStoreItemInTab w tabs container ref slotId true r else r) := by
          split
          · exact pass
          · exact reserved
        have all := canStoreItemInTab_reserved merged false
        dsimp only at ok
        generalize canStoreItemInTab w tabs container ref slotId false _ = last at ok all
        split at ok
        next zero => exact Except.ok.inj ok ▸ done last zero all
        · cases ok

/-! ### Storing and removing -/

namespace Bank

lemma hasSlot_of_getItem {tabId slotId : UInt8} {item : Item}
    (found : getItem tabs tabId slotId = some item) : HasSlot tabs tabId slotId := by
  simp only [getItem, Option.join_eq_some_iff, Option.bind_eq_some_iff] at found
  obtain ⟨tab, tabFound, slotFound⟩ := found
  obtain ⟨tabHere, -⟩ := List.getElem?_eq_some_iff.mp tabFound
  obtain ⟨slotHere, -⟩ := Vector.getElem?_eq_some_iff.mp slotFound
  exact ⟨tabHere, slotHere⟩

lemma StacksFit.setItem {w : World} (fits : StacksFit w tabs) {tabId slotId : UInt8}
    (has : HasSlot tabs tabId slotId) {cell : Option Item} (fit : ∀ item, cell = some item →
      0 < item.count.toNat ∧ item.count.toNat ≤ (w.maxStackSize item.entry).toNat) :
    StacksFit w (setItem tabs tabId slotId cell) := by
  intro t s item found
  rw [getItem_setItem tabs tabId slotId has] at found
  split at found
  · exact fit item found
  · exact fits t s item found

lemma HasSlot.setItem {t s : UInt8} (has : HasSlot tabs t s) (tabId slotId : UInt8)
    (cell : Option Item) : HasSlot (setItem tabs tabId slotId cell) t s :=
  ⟨by rw [length_setItem]; exact has.1, has.2⟩

end Bank

/-- One part is put where there is room for it: alone or onto the stack that is there. -/
lemma storeOne_spec {w : World} {container : UInt8} {item : Item} {p : ItemPosCount}
    (positive : 0 < p.count.toNat) (room : Room w item (Bank.getItem tabs container p.pos) p.count)
    (clone : Bool) :
    ∃ stored : Item, storeOne w tabs container item p clone =
        Bank.setItem tabs container p.pos (some stored) ∧
      0 < stored.count.toNat ∧ stored.count.toNat ≤ (w.maxStackSize stored.entry).toNat ∧
      ∀ entry, Bank.cellCount entry (some stored) =
        Bank.cellCount entry (Bank.getItem tabs container p.pos) +
          if item.entry = entry then p.count.toNat else 0 := by
  have limit := (maxStackSize_bounds w item.entry).2
  unfold storeOne
  cases cell : Bank.getItem tabs container p.pos with
  | some dest =>
    rw [cell] at room
    obtain ⟨hs, below⟩ := room
    have sum : (dest.count + p.count).toNat = dest.count.toNat + p.count.toNat := by
      rw [UInt32.toNat_add]
      omega
    refine ⟨{ dest with count := dest.count + p.count }, rfl, ?_, ?_, fun entry => ?_⟩
    · simp only [sum]
      omega
    · rw [hs, sum]
      exact below
    · simp only [Bank.cellCount, hs, sum]
      split <;> rfl
  | none =>
    rw [cell] at room
    have below : p.count.toNat ≤ (w.maxStackSize item.entry).toNat := room
    cases clone with
    | true =>
      have some_ : ¬ p.count < 1 := by
        rw [UInt32.lt_iff_toNat_lt]
        simpa using by omega
      have whole : ¬ w.maxStackSize item.entry < p.count := by
        rw [UInt32.lt_iff_toNat_lt]
        omega
      simp only [Item.cloneItem, some_, whole, if_true, if_false]
      exact ⟨_, rfl, positive, below, fun entry => by simp [Bank.cellCount]⟩
    | false =>
      exact ⟨_, rfl, positive, below, fun entry => by simp [Bank.cellCount]⟩

lemma storeInBank_spec {w : World} {container : UInt8} {item : Item} (vec : List ItemPosCount)
    (tabs : List BankTab) (fits : Bank.StacksFit w tabs)
    (distinct : (vec.map (·.pos)).Nodup)
    (has : ∀ p ∈ vec, Bank.HasSlot tabs container p.pos)
    (positive : ∀ p ∈ vec, 0 < p.count.toNat)
    (room : ∀ p ∈ vec, Room w item (Bank.getItem tabs container p.pos) p.count) :
    Bank.StacksFit w (storeInBank w tabs container item vec) ∧
    ∀ entry, Bank.total (storeInBank w tabs container item vec) entry =
      Bank.total tabs entry + if item.entry = entry then (vec.map (·.count.toNat)).sum else 0 := by
  induction vec generalizing tabs with
  | nil => exact ⟨fits, fun entry => by simp [storeInBank]⟩
  | cons p rest ih =>
    have here : p ∈ p :: rest := List.mem_cons_self
    have later : ∀ q ∈ rest, q ∈ p :: rest := fun q hm => List.mem_cons_of_mem p hm
    obtain ⟨fresh, distinct⟩ := List.nodup_cons.mp distinct
    obtain ⟨stored, put, some_, below, counted⟩ :=
      storeOne_spec (positive p here) (room p here) (!rest.isEmpty)
    simp only [storeInBank, put]
    -- the other slots are as they were
    have others : ∀ q ∈ rest, Bank.getItem (Bank.setItem tabs container p.pos (some stored))
        container q.pos = Bank.getItem tabs container q.pos := by
      intro q hm
      have other : q.pos ≠ p.pos := fun hs =>
        fresh (List.mem_map.mpr ⟨q, hm, hs⟩)
      rw [Bank.getItem_setItem tabs container p.pos (has p here), if_neg (fun both => other both.2)]
    obtain ⟨fits, sum⟩ := ih (Bank.setItem tabs container p.pos (some stored))
      (fits.setItem (has p here) (by rintro _ ⟨⟩; exact ⟨some_, below⟩)) distinct
      (fun q hm => (has q (later q hm)).setItem container p.pos (some stored))
      (fun q hm => positive q (later q hm))
      (fun q hm => by rw [others q hm]; exact room q (later q hm))
    refine ⟨fits, fun entry => ?_⟩
    have moved := Bank.total_setItem tabs container p.pos (has p here) (some stored) entry
    have gained := counted entry
    rw [sum entry, List.map_cons, List.sum_cons]
    split
    next hs =>
      simp only [hs, if_true] at gained
      omega
    next other =>
      simp only [other, if_false] at gained
      omega

/-! ### One attempt -/

lemma MoveItemData.bankTabs_removeItem (g : Guild) (player : UInt64) (container slotId : UInt8)
    (other : MoveItemData) (splitedAmount : UInt32) :
    ((MoveItemData.bank container slotId).removeItem g player other splitedAmount).bankTabs =
      Bank.setItem g.bankTabs container slotId (if splitedAmount = 0 then none
        else (Bank.getItem g.bankTabs container slotId).map fun item =>
          { item with count := item.count - splitedAmount }) := by
  unfold MoveItemData.removeItem
  dsimp only
  split <;> simp

/-- The bank after a step: the same count of every template, and no stack too large. -/
structure Conserved (w : World) (g g' : Guild) : Prop where
  totals : ∀ entry, Bank.total g'.bankTabs entry = Bank.total g.bankTabs entry
  fits : Bank.StacksFit w g'.bankTabs

section Attempts

variable {w : World} {g : Guild} (fits : Bank.StacksFit w g.bankTabs) (player : UInt64)
  {tabId slotId destTabId destSlotId : UInt8} {item : Item}
  (found : Bank.getItem g.bankTabs tabId slotId = some item)
  (inTab : destSlotId.toNat < guildBankMaxSlots)

include fits found inTab

lemma doItemsMove_whole :
    Conserved w g (g.doItemsMove w player (.bank tabId slotId) (.bank destTabId destSlotId)
      ⟨item, some (tabId, slotId)⟩ none 0).1 := by
  simp only [Guild.doItemsMove, Option.isSome_none, MoveItemData.canStore]
  split
  · exact ⟨fun _ => rfl, fits⟩
  next vec stored =>
    obtain ⟨purchased, reserved⟩ := canStoreInBank_reserved (Or.inl inTab) stored
    have has := Bank.hasSlot_of_getItem found
    obtain ⟨some_, below⟩ := fits tabId slotId item found
    have emptied := MoveItemData.bankTabs_removeItem g player tabId slotId
      (.bank destTabId destSlotId) 0
    simp only [if_true] at emptied
    have removed := Bank.total_setItem g.bankTabs tabId slotId has none
    obtain ⟨fit, sum⟩ := storeInBank_spec vec (Bank.setItem g.bankTabs tabId slotId none)
      (fits.setItem has (by rintro _ ⟨⟩)) reserved.distinct
      (fun p hm => Bank.HasSlot.setItem ⟨purchased, reserved.inTab p hm⟩ tabId slotId none)
      (reserved.positive some_)
      (fun p hm => by
        -- what the reservation took for free is free once the stack is gone
        have room := reserved.room p hm
        simp only [seenFor, Bool.false_eq_true, false_and, if_false, seenItem, Option.some.injEq,
          Prod.mk.injEq] at room
        rw [Bank.getItem_setItem g.bankTabs tabId slotId has]
        by_cases own : destTabId = tabId ∧ p.pos = slotId
        · rw [if_pos own]
          rwa [if_pos ⟨own.1.symm, own.2.symm⟩] at room
        · rw [if_neg own]
          rwa [if_neg (fun hs => own ⟨hs.1.symm, hs.2.symm⟩)] at room)
    have all := reserved.sum
    simp only [UInt32.toNat_zero, Nat.add_zero] at all
    refine ⟨fun entry => ?_, ?_⟩
    · simp only [MoveItemData.storeItem, emptied, sum entry, all]
      have gone := removed entry
      simp only [found, Bank.cellCount] at gone
      omega
    · simpa only [MoveItemData.storeItem, emptied] using fit

/-- A part of a stack goes as a copy, and may be merged back into the stack it came from. -/
lemma doItemsMove_split (splitedAmount : UInt32) (positive : 0 < splitedAmount.toNat)
    (part : splitedAmount.toNat < item.count.toNat) :
    Conserved w g (g.doItemsMove w player (.bank tabId slotId) (.bank destTabId destSlotId)
      ⟨{ item with count := splitedAmount }, none⟩ none splitedAmount).1 := by
  simp only [Guild.doItemsMove, Option.isSome_none, MoveItemData.canStore]
  split
  · exact ⟨fun _ => rfl, fits⟩
  next vec stored =>
    obtain ⟨purchased, reserved⟩ := canStoreInBank_reserved (Or.inl inTab) stored
    have has := Bank.hasSlot_of_getItem found
    obtain ⟨-, below⟩ := fits tabId slotId item found
    have nonzero : splitedAmount ≠ 0 := by
      rintro rfl
      simp at positive
    have left : (item.count - splitedAmount).toNat = item.count.toNat - splitedAmount.toNat :=
      UInt32.toNat_sub_of_le _ _ (UInt32.le_iff_toNat_le.mpr (by omega))
    have reduced := MoveItemData.bankTabs_removeItem g player tabId slotId
      (.bank destTabId destSlotId) splitedAmount
    simp only [nonzero, if_false, found, Option.map_some] at reduced
    generalize rest_ : { item with count := item.count - splitedAmount } = rest at reduced
    have restCount : rest.count.toNat = item.count.toNat - splitedAmount.toNat := by
      rw [← rest_]
      exact left
    have restEntry : rest.entry = item.entry := by rw [← rest_]
    have removed := Bank.total_setItem g.bankTabs tabId slotId has (some rest)
    obtain ⟨fit, sum⟩ := @storeInBank_spec w destTabId { item with count := splitedAmount } vec
      (Bank.setItem g.bankTabs tabId slotId (some rest))
      (fits.setItem has (by rintro _ ⟨⟩; rw [restCount, restEntry]; omega)) reserved.distinct
      (fun p hm => Bank.HasSlot.setItem ⟨purchased, reserved.inTab p hm⟩ tabId slotId _)
      (reserved.positive positive)
      (fun p hm => by
        have room := reserved.room p hm
        simp only [seenFor, Bool.false_eq_true, false_and, if_false, seenItem, reduceCtorEq] at room
        rw [Bank.getItem_setItem g.bankTabs tabId slotId has]
        by_cases own : destTabId = tabId ∧ p.pos = slotId
        · -- the stack has only become smaller since the reservation
          rw [own.1, own.2, found] at room
          rw [if_pos own]
          refine ⟨restEntry, ?_⟩
          have whole := room.2
          rw [restCount]
          simp only at whole ⊢
          omega
        · rwa [if_neg own])
    have all := reserved.sum
    simp only [UInt32.toNat_zero, Nat.add_zero] at all
    refine ⟨fun entry => ?_, ?_⟩
    · simp only [MoveItemData.storeItem, reduced, sum entry, all]
      have gone := removed entry
      simp only [found, Bank.cellCount, restEntry, restCount] at gone
      by_cases hs : item.entry = entry
      · simp only [hs, if_true] at gone ⊢
        omega
      · simp only [hs, if_false] at gone ⊢
        omega
    · simpa only [MoveItemData.storeItem, reduced] using fit

end Attempts

lemma canStoreInBank_swap {w : World} {container slotId : UInt8}
    (inTab : slotId.toNat < guildBankMaxSlots) {vec : List ItemPosCount}
    (below : ref.item.count.toNat ≤ (w.maxStackSize ref.item.entry).toNat)
    (ok : canStoreInBank w tabs container slotId ref true = .ok vec) :
    vec = [⟨slotId, ref.item.count⟩] := by
  have named : slotId ≠ nullSlot := by
    rintro rfl
    exact absurd inTab (by decide)
  have whole : (if ref.item.count < w.maxStackSize ref.item.entry then ref.item.count
      else w.maxStackSize ref.item.entry) = ref.item.count := by
    split
    · rfl
    next more =>
      rw [UInt32.lt_iff_toNat_lt] at more
      exact UInt32.toNat_inj.mp (by omega)
  simp only [canStoreInBank, reserveNamedSlot, named, if_false, if_true, reserveSpace,
    Option.map_some, List.any_nil, Bool.false_eq_true, whole, List.nil_append, UInt32.sub_self] at ok
  split at ok
  · cases ok
  · split at ok
    · cases ok
    · exact (Except.ok.inj ok).symm

lemma storeInBank_single {w : World} {container slotId : UInt8} {item : Item}
    (empty : Bank.getItem tabs container slotId = none) :
    storeInBank w tabs container item [⟨slotId, item.count⟩] =
      Bank.setItem tabs container slotId (some item) := by
  simp [storeInBank, storeOne, empty]

lemma doItemsMove_swap {w : World} {g : Guild} (fits : Bank.StacksFit w g.bankTabs) (player : UInt64)
    {tabId slotId destTabId destSlotId : UInt8} {item other : Item}
    (found : Bank.getItem g.bankTabs tabId slotId = some item)
    (destFound : Bank.getItem g.bankTabs destTabId destSlotId = some other)
    (apart : ¬ (tabId = destTabId ∧ slotId = destSlotId)) :
    Conserved w g (g.doItemsMove w player (.bank tabId slotId) (.bank destTabId destSlotId)
      ⟨item, some (tabId, slotId)⟩ (some ⟨other, some (destTabId, destSlotId)⟩) 0).1 := by
  have has := Bank.hasSlot_of_getItem found
  have destHas := Bank.hasSlot_of_getItem destFound
  obtain ⟨some₁, below₁⟩ := fits tabId slotId item found
  obtain ⟨some₂, below₂⟩ := fits destTabId destSlotId other destFound
  simp only [Guild.doItemsMove, Option.isSome_some, MoveItemData.canStore]
  split
  · exact ⟨fun _ => rfl, fits⟩
  next destVec destStored =>
    split
    · exact ⟨fun _ => rfl, fits⟩
    next srcVec srcStored =>
      obtain rfl := canStoreInBank_swap destHas.2 below₁ destStored
      obtain rfl := canStoreInBank_swap has.2 below₂ srcStored
      simp only [MoveItemData.storeItem, MoveItemData.bankTabs_removeItem, if_true]
      -- both slots are emptied, then each takes the other's stack
      generalize emptied₁_ : Bank.setItem g.bankTabs tabId slotId none = emptied₁
      have destHas₁ : Bank.HasSlot emptied₁ destTabId destSlotId := emptied₁_ ▸ destHas.setItem _ _ _
      have fits₁ : Bank.StacksFit w emptied₁ := emptied₁_ ▸ fits.setItem has (by rintro _ ⟨⟩)
      have cell₁ := emptied₁_ ▸ Bank.getItem_setItem g.bankTabs tabId slotId has none
      have total₁ := emptied₁_ ▸ Bank.total_setItem g.bankTabs tabId slotId has none
      generalize emptied₂_ : Bank.setItem emptied₁ destTabId destSlotId none = emptied₂
      have fits₂ : Bank.StacksFit w emptied₂ := emptied₂_ ▸ fits₁.setItem destHas₁ (by rintro _ ⟨⟩)
      have cell₂ := emptied₂_ ▸ Bank.getItem_setItem emptied₁ destTabId destSlotId destHas₁ none
      have total₂ := emptied₂_ ▸ Bank.total_setItem emptied₁ destTabId destSlotId destHas₁ none
      have destHas₂ : Bank.HasSlot emptied₂ destTabId destSlotId := emptied₂_ ▸ destHas₁.setItem _ _ _
      have destEmpty : Bank.getItem emptied₂ destTabId destSlotId = none := by simp [cell₂]
      rw [storeInBank_single destEmpty]
      generalize swapped_ : Bank.setItem emptied₂ destTabId destSlotId (some item) = swapped
      have fits₃ : Bank.StacksFit w swapped :=
        swapped_ ▸ fits₂.setItem destHas₂ (by rintro _ ⟨⟩; exact ⟨some₁, below₁⟩)
      have cell₃ := swapped_ ▸ Bank.getItem_setItem emptied₂ destTabId destSlotId destHas₂ (some item)
      have total₃ := swapped_ ▸ Bank.total_setItem emptied₂ destTabId destSlotId destHas₂ (some item)
      have has₃ : Bank.HasSlot swapped tabId slotId := by
        rw [← swapped_, ← emptied₂_, ← emptied₁_]
        exact ((has.setItem _ _ _).setItem _ _ _).setItem _ _ _
      have empty : Bank.getItem swapped tabId slotId = none := by
        rw [cell₃, if_neg apart, cell₂, if_neg apart, cell₁, if_pos ⟨rfl, rfl⟩]
      rw [storeInBank_single empty]
      have total₄ := Bank.total_setItem swapped tabId slotId has₃ (some other)
      refine ⟨fun entry => ?_, fits₃.setItem has₃ (by rintro _ ⟨⟩; exact ⟨some₂, below₂⟩)⟩
      have stillThere : Bank.getItem emptied₁ destTabId destSlotId = some other := by
        rw [cell₁, if_neg (fun hs => apart ⟨hs.1.symm, hs.2.symm⟩), destFound]
      have step₁ := total₁ entry
      have step₂ := total₂ entry
      have step₃ := total₃ entry
      have step₄ := total₄ entry
      rw [found] at step₁
      rw [stillThere] at step₂
      rw [destEmpty] at step₃
      rw [empty] at step₄
      change Bank.total (Bank.setItem swapped tabId slotId (some other)) entry = _
      omega

/-! ### Requests -/

/-- Both sides can store what they are to receive. -/
def Guild.Storable (w : World) (g : Guild) (src dest : MoveItemData)
    (attempt : ItemRef × Option ItemRef) : Prop :=
  (∃ vec, dest.canStore w g attempt.1 attempt.2.isSome = .ok vec) ∧
    ∀ destItem, attempt.2 = some destItem → ∃ vec, src.canStore w g destItem true = .ok vec

/-- The attempts a request can lead to: a split's copy, or the whole stack and then a swap. -/
def Guild.attempts (w : World) (g : Guild) (src dest : MoveItemData) (splitedAmount : UInt32) :
    List (ItemRef × Option ItemRef) :=
  match src.initItem g with
  | none => []
  | some srcItem =>
    match Guild.checkItem srcItem.item splitedAmount with
    | none => []
    | some n =>
      if n ≠ 0 then ((srcItem.item.cloneItem w n).map fun clone => (⟨clone, none⟩, none)).toList
      else (srcItem, none) :: ((dest.initItem g).map fun d => (srcItem, some d)).toList

lemma doItemsMove_refused {w : World} {g : Guild} {player : UInt64} {src dest : MoveItemData}
    {srcItem : ItemRef} {destItem : Option ItemRef} {splitedAmount : UInt32}
    (refused : ¬ g.Storable w src dest (srcItem, destItem)) :
    g.doItemsMove w player src dest srcItem destItem splitedAmount = (g, false) := by
  unfold Guild.doItemsMove
  split
  · rfl
  next vec stored =>
    cases destItem with
    | none => exact absurd ⟨⟨vec, stored⟩, by simp⟩ refused
    | some destItem =>
      dsimp only
      split
      · rfl
      next srcVec srcStored =>
        exact absurd ⟨⟨vec, stored⟩, by rintro _ ⟨⟩; exact ⟨srcVec, srcStored⟩⟩ refused

lemma moveItems_refused {w : World} {g : Guild} {player : UInt64} {src dest : MoveItemData}
    {splitedAmount : UInt32}
    (refused : ∀ attempt ∈ g.attempts w src dest splitedAmount, ¬ g.Storable w src dest attempt) :
    g.moveItems w player src dest splitedAmount = g := by
  unfold Guild.moveItems
  unfold Guild.attempts at refused
  cases init : src.initItem g with
  | none => rfl
  | some srcItem =>
    simp only [init] at refused ⊢
    cases checked : Guild.checkItem srcItem.item splitedAmount with
    | none => rfl
    | some amount =>
      simp only [checked] at refused ⊢
      split
      · rfl
      · split
        next split_ =>
          simp only [split_, ne_eq, not_false_eq_true, if_true] at refused
          cases cloned : srcItem.item.cloneItem w amount with
          | none => rfl
          | some clone =>
            dsimp only
            rw [doItemsMove_refused (refused (⟨clone, none⟩, none) (by simp [cloned]))]
        next whole =>
          simp only [whole, if_false] at refused
          rw [doItemsMove_refused (refused (srcItem, none) List.mem_cons_self)]
          dsimp only
          cases occupied : dest.initItem g with
          | none => rfl
          | some destItem =>
            dsimp only
            split
            · rfl
            · rw [doItemsMove_refused (refused (srcItem, some destItem) (by simp [occupied]))]

lemma cloneItem_part {w : World} {item clone : Item} {n : UInt32}
    (below : n.toNat ≤ (w.maxStackSize item.entry).toNat)
    (cloned : item.cloneItem w n = some clone) : clone = { item with count := n } := by
  unfold Item.cloneItem at cloned
  split at cloned
  · cases cloned
  · have keeps : ¬ w.maxStackSize item.entry < n := by
      rw [UInt32.lt_iff_toNat_lt]
      omega
    simpa only [keeps, if_false, Option.some.injEq, eq_comm] using cloned

lemma moveItems_conserved {w : World} {g : Guild} (fits : Bank.StacksFit w g.bankTabs)
    (player : UInt64) {tabId slotId destTabId destSlotId : UInt8}
    (inTab : destSlotId.toNat < guildBankMaxSlots)
    (apart : ¬ (tabId = destTabId ∧ slotId = destSlotId)) (splitedAmount : UInt32) :
    Conserved w g (g.moveItems w player (.bank tabId slotId) (.bank destTabId destSlotId)
      splitedAmount) := by
  have unchanged : Conserved w g g := ⟨fun _ => rfl, fits⟩
  unfold Guild.moveItems
  cases found : Bank.getItem g.bankTabs tabId slotId with
  | none =>
    simp only [MoveItemData.initItem, found, Option.map_none]
    exact unchanged
  | some item =>
    simp only [MoveItemData.initItem, found, Option.map_some]
    obtain ⟨-, below⟩ := fits tabId slotId item found
    cases checked : Guild.checkItem item splitedAmount with
    | none => exact unchanged
    | some amount =>
      -- what is left of the amount is a proper part of the stack
      have part : amount ≠ 0 → amount.toNat < item.count.toNat := by
        intro nonzero
        unfold Guild.checkItem at checked
        split at checked
        · cases checked
        next enough =>
          rw [UInt32.lt_iff_toNat_lt] at enough
          split at checked
          next => exact absurd (Option.some.inj checked).symm nonzero
          next other =>
            obtain rfl := Option.some.inj checked
            have apart_ : splitedAmount.toNat ≠ item.count.toNat := fun hs =>
              other (UInt32.toNat_inj.mp hs)
            omega
      dsimp only
      split
      · exact unchanged
      · split
        next nonzero =>
          have less := part nonzero
          have positive : amount.toNat ≠ 0 := fun zero =>
            nonzero (UInt32.toNat_inj.mp (zero.trans UInt32.toNat_zero.symm))
          cases cloned : item.cloneItem w amount with
          | none => exact unchanged
          | some clone =>
            obtain rfl := cloneItem_part (by omega) cloned
            exact doItemsMove_split fits player found inTab amount (by omega) less
        next whole =>
          have merged := @doItemsMove_whole w g fits player tabId slotId destTabId destSlotId item
            found inTab
          split
          next g' served =>
            rw [served] at merged
            exact merged
          next g' refused =>
            cases destFound : Bank.getItem g.bankTabs destTabId destSlotId with
            | none => exact unchanged
            | some other =>
              dsimp only [Option.map_some]
              split
              · exact unchanged
              · exact doItemsMove_swap fits player found destFound apart

lemma swapItems_conserved {w : World} {g : Guild} (fits : Bank.StacksFit w g.bankTabs)
    (player : UInt64) (tabId slotId destTabId destSlotId : UInt8) (splitedAmount : UInt32) :
    Conserved w g (g.swapItems w player tabId slotId destTabId destSlotId splitedAmount) := by
  unfold Guild.swapItems
  split
  · exact ⟨fun _ => rfl, fits⟩
  next valid =>
    split
    · exact ⟨fun _ => rfl, fits⟩
    next apart =>
      simp only [not_or, not_le] at valid
      exact moveItems_conserved fits player valid.2.2.2 apart splitedAmount

/-- A move within the bank keeps the count of every template and the size of every stack,
and changes nothing when no attempt can be stored on both sides. What `canStore` reserves
are distinct slots with room for counts that sum to the item's. -/
theorem swapItems_conserves_items (w : World) (g : Guild) (fits : Bank.StacksFit w g.bankTabs)
    (player : UInt64) (tabId slotId destTabId destSlotId : UInt8) (splitedAmount : UInt32) :
    (∀ entry, Bank.total
        (g.swapItems w player tabId slotId destTabId destSlotId splitedAmount).bankTabs entry =
      Bank.total g.bankTabs entry) ∧
    Bank.StacksFit w
      (g.swapItems w player tabId slotId destTabId destSlotId splitedAmount).bankTabs ∧
    ((∀ attempt ∈ g.attempts w (.bank tabId slotId) (.bank destTabId destSlotId) splitedAmount,
        ¬ g.Storable w (.bank tabId slotId) (.bank destTabId destSlotId) attempt) →
      g.swapItems w player tabId slotId destTabId destSlotId splitedAmount = g) ∧
    (∀ src dest srcItem destItem n, ¬ g.Storable w src dest (srcItem, destItem) →
      g.doItemsMove w player src dest srcItem destItem n = (g, false)) ∧
    ∀ container slotId ref swap vec, slotId.toNat < guildBankMaxSlots ∨ slotId = nullSlot →
      canStoreInBank w g.bankTabs container slotId ref swap = .ok vec →
      (vec.map (·.pos)).Nodup ∧
      (∀ p ∈ vec, p.pos.toNat < guildBankMaxSlots ∧
        Room w ref.item (seenFor g.bankTabs container slotId ref swap p.pos) p.count) ∧
      (vec.map (·.count.toNat)).sum = ref.item.count.toNat := by
  obtain ⟨totals, fit⟩ :=
    swapItems_conserved fits player tabId slotId destTabId destSlotId splitedAmount
  refine ⟨totals, fit, fun refused => ?_, fun _ _ _ _ _ => doItemsMove_refused, ?_⟩
  · unfold Guild.swapItems
    split
    · rfl
    · split
      · rfl
      · exact moveItems_refused refused
  · intro container slotId ref swap vec named ok
    obtain ⟨-, reserved⟩ := canStoreInBank_reserved named ok
    exact ⟨reserved.distinct, fun p member => ⟨reserved.inTab p member, reserved.room p member⟩,
      reserved.sum⟩

/-- The guild master's bank with one tab: five of a template in the first slot, three of
another in the second. -/
private def twoStacks : Guild :=
  { leaderGuid := 1, level := 1, bankMoney := 0
    ranks := [{ rankId := 0, name := "", rights := grRightAll }]
    members := AList.singleton 1 { guid := 1, name := "", rankId := 0 }
    bankTabs := Bank.setItem (Bank.setItem [Vector.replicate guildBankMaxSlots none]
      0 0 (some ⟨10, 5, false⟩)) 0 1 (some ⟨11, 3, false⟩) }

private def stacksOfTwenty : World :=
  { stackable := fun _ => 20, undeletableLevel := 0, allowTwoSideInteraction := false
    allowMultipleGuildMaster := false, teamOf := fun _ => 0, defaultRankName := fun _ => "" }

private lemma twoStacks_fit : Bank.StacksFit stacksOfTwenty twoStacks.bankTabs := by
  have empty : Bank.StacksFit stacksOfTwenty [Vector.replicate guildBankMaxSlots none] := by
    intro tabId slotId item found
    simp [Bank.getItem, List.getElem?_singleton, Option.join_eq_some_iff,
      Option.bind_eq_some_iff, Vector.getElem?_replicate] at found
  have has : ∀ s : UInt8, s.toNat < guildBankMaxSlots →
      Bank.HasSlot [Vector.replicate guildBankMaxSlots (none : Option Item)] 0 s := fun s here =>
    ⟨by decide, here⟩
  refine Bank.StacksFit.setItem (Bank.StacksFit.setItem empty (has 0 (by decide)) ?_)
    ((has 1 (by decide)).setItem 0 0 _) ?_
  · rintro _ ⟨⟩
    decide
  · rintro _ ⟨⟩
    decide

/-- Two different stacks are swapped. -/
theorem swapItems_conserves_items_swap :
    Bank.total (twoStacks.swapItems stacksOfTwenty 1 0 0 0 1 0).bankTabs 10 =
      Bank.total twoStacks.bankTabs 10 ∧
    Bank.StacksFit stacksOfTwenty (twoStacks.swapItems stacksOfTwenty 1 0 0 0 1 0).bankTabs :=
  have kept := swapItems_conserves_items stacksOfTwenty twoStacks twoStacks_fit 1 0 0 0 1 0
  ⟨kept.1 10, kept.2.1⟩

/-- A stack of fifty, as a row of `item_instance` may have it. -/
private def overfull : Guild :=
  { twoStacks with
    bankTabs := Bank.setItem [Vector.replicate guildBankMaxSlots none] 0 0 (some ⟨10, 50, false⟩) }

/-- Thirty are taken off the stack, but the split item is cut down to a full stack of twenty. -/
theorem split_of_overfull_stack :
    ¬ ∀ (w : World) (g : Guild) (player : UInt64) (tabId slotId destTabId destSlotId : UInt8)
      (splitedAmount : UInt32) (entry : UInt32),
        Bank.total (g.swapItems w player tabId slotId destTabId destSlotId splitedAmount).bankTabs entry =
          Bank.total g.bankTabs entry := by
  intro claim
  have kept := claim stacksOfTwenty overfull 1 0 0 0 1 30 10
  revert kept
  decide +kernel

end WorldServer.Guilds
