import WorldServer.Looting.Filling

/-!
# The view of a loot

A player is shown the items of a loot in sections: what is for everybody as his permission says, and
then what his lists hold. Whatever he is shown to be his is found in its slot, but storing it looks
neither at the permission nor at the mark of an item that a list is about.
-/
namespace WorldServer.Looting

open WorldServer.Lib

inductive PermissionTypes where
  | all
  | group
  | master
  | roundRobin
  | owner
  | none
  deriving DecidableEq, Repr

inductive LootSlotType where
  | rollOngoing
  | locked
  | master
  | allowLoot
  | owner
  deriving DecidableEq, Repr

structure Shown where
  slotType : LootSlotType
  slot : ℕ
  place : Place
  item : LootItem
  deriving DecidableEq

/-- The player may take it without further ado. -/
def Shown.Direct (shown : Shown) : Prop :=
  shown.slotType = .allowLoot ∨ shown.slotType = .owner

section Templates

variable (GetItemTemplate : ℕ → Option ItemTemplate)

namespace Loot

variable (loot : Loot) (viewer : Player) (permission : PermissionTypes)

def slotType (item : LootItem) : Option LootSlotType :=
  match permission with
  | .group =>
    if item.is_blocked then some .rollOngoing
    else if loot.roundRobinPlayer = 0 || !item.is_underthreshold ||
      viewer.guid = loot.roundRobinPlayer then some .allowLoot
    else none
  | .roundRobin =>
    if loot.roundRobinPlayer ≠ 0 && viewer.guid ≠ loot.roundRobinPlayer then none
    else some .allowLoot
  | .master => some .master
  | .owner => some .owner
  | .all => some .allowLoot
  | .none => none

def shownItems : List Shown :=
  (List.range loot.items.length).filterMap fun i =>
    match loot.items[i]? with
    | none => none
    | some item =>
      if !item.is_looted && !item.freeforall && item.conditions.isEmpty &&
          item.AllowedForPlayer GetItemTemplate viewer then
        (loot.slotType viewer permission item).map fun slotType => ⟨slotType, i, .normal i, item⟩
      else none

def listSlotType : LootSlotType := if permission = .owner then .owner else .allowLoot

def finalSlotType (item : LootItem) : LootSlotType :=
  if item.follow_loot_rules then
    match permission with
    | .master => .master
    | .group | .roundRobin => if !item.is_blocked then .allowLoot else .rollOngoing
    | .all | .owner | .none => listSlotType permission
  else listSlotType permission

/-- The slots of quest items come after the others. Eight bits hold a slot. -/
def shownQuestItems : List Shown :=
  (loot.entries .quest viewer.guid).zipIdx.filterMap fun qi =>
    match loot.quest_items[qi.1.index]? with
    | none => none
    | some item =>
      if !qi.1.is_looted && !item.is_looted then
        some ⟨finalSlotType permission item, (loot.items.length + qi.2) % 2 ^ 8,
          .quest qi.1.index, item⟩
      else none

/-- For items with conditions the rules of the group are looked at as well, but what they make of
the slot is not written. -/
def shownListed (kind : ListKind) : List Shown :=
  (loot.entries kind viewer.guid).filterMap fun entry =>
    match loot.items[entry.index]? with
    | none => none
    | some item =>
      if !entry.is_looted && !item.is_looted then
        some ⟨listSlotType permission, entry.index, .normal entry.index, item⟩
      else none

def WriteData : List Shown :=
  if permission = .none then []
  else loot.shownItems GetItemTemplate viewer permission ++
    loot.shownQuestItems viewer permission ++ loot.shownListed viewer permission .ffa ++
    loot.shownListed viewer permission .conditional

end Loot

/-- Whoever releases a loot leaves its looters, unless its object is gone or out of reach. -/
def DoLootRelease (looters : Finset ℕ) (player : Player) (inReach : Bool) : Finset ℕ :=
  if inReach then looters.erase player.guid else looters

/-- Whoever opens a loot releases the one that he has open, and becomes one of its looters unless he
is shown nothing. `openInReach` says whether the loot that he has open is this one, and then whether
it is in his reach. The loot is as the release leaves it: it may end the turn of the round-robin
player, and what has been cleared is a new loot. -/
def SendLoot (looters : Finset ℕ) (viewer : Player) (permission : PermissionTypes)
    (openInReach : Option Bool) : Finset ℕ :=
  let released := match openInReach with
    | none => looters
    | some inReach => DoLootRelease looters viewer inReach
  if permission ≠ .none then insert viewer.guid released else released

def State.HandleAutostoreLootItem (s : State) (looters : Finset ℕ) (player : Player)
    (lootSlot : ℕ) : State :=
  if player.guid ∈ looters then s.StoreLootItem player lootSlot else s

/-- The request is carried out, for what is found in the slot. -/
def State.Stores (s : State) (looters : Finset ℕ) (player : Player) (lootSlot : ℕ)
    (found : Loot.SlotItem) : Prop :=
  player.guid ∈ looters ∧ s.loot.LootItemInSlot lootSlot player.guid = some found ∧
    State.canLoot player found = true

/-! ### What is shown -/

variable {GetItemTemplate} {loot : Loot} {viewer : Player} {permission : PermissionTypes}
  {shown : Shown} {lootSlot : ℕ} {found : Loot.SlotItem}

lemma mem_shownItems :
    shown ∈ loot.shownItems GetItemTemplate viewer permission ↔ ∃ i item slotType,
      loot.items[i]? = some item ∧ item.is_looted = false ∧ item.listKind = none ∧
      item.AllowedForPlayer GetItemTemplate viewer = true ∧
      loot.slotType viewer permission item = some slotType ∧
      shown = ⟨slotType, i, .normal i, item⟩ := by
  rw [Loot.shownItems, List.mem_filterMap]
  constructor
  · rintro ⟨i, -, written⟩
    split at written
    · cases written
    next item here =>
      split at written
      swap
      · cases written
      next isShown =>
        obtain ⟨slotType, type, rfl⟩ := Option.map_eq_some_iff.mp written
        simp only [Bool.and_eq_true, Bool.not_eq_true'] at isShown
        refine ⟨i, item, slotType, here, isShown.1.1.1, ?_, isShown.2, type, rfl⟩
        rw [LootItem.listKind, if_neg (by simp [isShown.1.1.2]), if_neg (by simp [isShown.1.2])]
  · rintro ⟨i, item, slotType, here, unlooted, plain, allowed, type, rfl⟩
    refine ⟨i, List.mem_range.mpr (List.getElem?_eq_some_iff.mp here).1, ?_⟩
    rw [LootItem.listKind] at plain
    split_ifs at plain with ffa conditional
    rw [here]
    dsimp only
    rw [if_pos, type, Option.map_some]
    simp [unlooted, ffa, allowed, List.isEmpty_iff.mp (by simpa using conditional)]

lemma mem_shownQuestItems :
    shown ∈ loot.shownQuestItems viewer permission ↔ ∃ k entry item,
      (loot.entries .quest viewer.guid)[k]? = some entry ∧ entry.is_looted = false ∧
      loot.quest_items[entry.index]? = some item ∧ item.is_looted = false ∧
      shown = ⟨Loot.finalSlotType permission item, (loot.items.length + k) % 2 ^ 8,
        .quest entry.index, item⟩ := by
  rw [Loot.shownQuestItems, List.mem_filterMap]
  constructor
  · rintro ⟨⟨entry, k⟩, hm, written⟩
    split at written
    · cases written
    next item here =>
      split at written
      swap
      · cases written
      next isShown =>
        simp only [Bool.and_eq_true, Bool.not_eq_true'] at isShown
        exact ⟨k, entry, item, List.mem_zipIdx_iff_getElem?.mp hm, isShown.1, here, isShown.2,
          (Option.some.inj written).symm⟩
  · rintro ⟨k, entry, item, listed, left, here, unlooted, rfl⟩
    refine ⟨(entry, k), List.mem_zipIdx_iff_getElem?.mpr listed, ?_⟩
    rw [here]
    simp [left, unlooted]

lemma mem_shownListed {kind : ListKind} :
    shown ∈ loot.shownListed viewer permission kind ↔ ∃ entry item,
      entry ∈ loot.entries kind viewer.guid ∧ entry.is_looted = false ∧
      loot.items[entry.index]? = some item ∧ item.is_looted = false ∧
      shown = ⟨Loot.listSlotType permission, entry.index, .normal entry.index, item⟩ := by
  rw [Loot.shownListed, List.mem_filterMap]
  constructor
  · rintro ⟨entry, hm, written⟩
    split at written
    · cases written
    next item here =>
      split at written
      swap
      · cases written
      next isShown =>
        simp only [Bool.and_eq_true, Bool.not_eq_true'] at isShown
        exact ⟨entry, item, hm, isShown.1, here, isShown.2, (Option.some.inj written).symm⟩
  · rintro ⟨entry, item, hm, left, here, unlooted, rfl⟩
    refine ⟨entry, hm, ?_⟩
    rw [here]
    simp [left, unlooted]

lemma mem_WriteData (some : permission ≠ .none) :
    shown ∈ loot.WriteData GetItemTemplate viewer permission ↔
      shown ∈ loot.shownItems GetItemTemplate viewer permission ∨
      shown ∈ loot.shownQuestItems viewer permission ∨
      shown ∈ loot.shownListed viewer permission .ffa ∨
      shown ∈ loot.shownListed viewer permission .conditional := by
  rw [Loot.WriteData, if_neg some]
  simp

lemma questSlot_eq (sized : loot.Sized) {guid k : ℕ} {entry : QuestItem}
    (atSlot : (loot.entries .quest guid)[k]? = some entry) :
    (loot.items.length + k) % 2 ^ 8 = loot.items.length + k := by
  have room := sized guid
  have inRange := (List.getElem?_eq_some_iff.mp atSlot).1
  rw [MAX_NR_LOOT_ITEMS] at room
  exact Nat.mod_eq_of_lt (by omega)

lemma inSlot_of_shown (well : loot.WellListed) (sized : loot.Sized)
    (isShown : shown ∈ loot.WriteData GetItemTemplate viewer permission) :
    ∃ entry, loot.InSlot viewer.guid shown.slot ⟨shown.place, shown.item, entry⟩ := by
  by_cases nothing : permission = .none
  · rw [Loot.WriteData, if_pos nothing] at isShown
    cases isShown
  -- an entry of another list is about the item of a slot
  have listed {kind : ListKind} (other : kind ≠ .quest)
      (isShown : shown ∈ loot.shownListed viewer permission kind) :
      ∃ entry, loot.InSlot viewer.guid shown.slot ⟨shown.place, shown.item, entry⟩ := by
    obtain ⟨entry, item, hm, left, here, -, rfl⟩ := mem_shownListed.mp isShown
    obtain ⟨k, listed⟩ := List.mem_iff_getElem?.mp hm
    obtain ⟨item', here', tracked⟩ :=
      well.normal kind viewer.guid entry.index other (List.mem_map_of_mem hm)
    obtain rfl := Option.some.inj (here.symm.trans here')
    exact ⟨_, .listed here tracked listed rfl left⟩
  rcases (mem_WriteData nothing).mp isShown with normal | quest | ffa | conditional
  · obtain ⟨i, item, slotType, here, unlooted, plain, -, -, rfl⟩ := mem_shownItems.mp normal
    refine ⟨_, .unlisted here unlooted fun kind tracked => ?_⟩
    rw [plain] at tracked
    cases tracked
  · obtain ⟨k, entry, item, atSlot, left, here, -, rfl⟩ := mem_shownQuestItems.mp quest
    exact ⟨_, .quest (questSlot_eq sized atSlot) atSlot left here⟩
  · exact listed (by simp) ffa
  · exact listed (by simp) conditional

/-! ### What is shown to be the viewer's -/

def Reserved (loot : Loot) (viewer : Player) (item : LootItem) : PermissionTypes → Prop
  | .group => loot.roundRobinPlayer ≠ 0 ∧ item.is_underthreshold = true ∧
    viewer.guid ≠ loot.roundRobinPlayer
  | .roundRobin => loot.roundRobinPlayer ≠ 0 ∧ viewer.guid ≠ loot.roundRobinPlayer
  | .master | .none => True
  | .all | .owner => False

def Ruled (item : LootItem) : PermissionTypes → Prop
  | .master => item.follow_loot_rules = true
  | .group | .roundRobin => item.follow_loot_rules = true ∧ item.is_blocked = true
  | .none => True
  | .all | .owner => False

lemma direct_listSlotType : Loot.listSlotType permission = .allowLoot ∨
    Loot.listSlotType permission = .owner := by
  rw [Loot.listSlotType]
  split
  · exact .inr rfl
  · exact .inl rfl

lemma direct_finalSlotType (some : permission ≠ .none) (item : LootItem) :
    (Loot.finalSlotType permission item = .allowLoot ∨
      Loot.finalSlotType permission item = .owner) ↔ ¬ Ruled item permission := by
  unfold Loot.finalSlotType
  cases rules : item.follow_loot_rules with
  | false =>
    refine iff_of_true (direct_listSlotType) fun ruled => ?_
    cases permission <;> simp [Ruled, rules] at ruled some
  | true =>
    cases permission with
    | all => simp [Ruled, Loot.listSlotType]
    | group => cases blocked : item.is_blocked <;> simp [Ruled, rules, blocked]
    | master => simp [Ruled, rules]
    | roundRobin => cases blocked : item.is_blocked <;> simp [Ruled, rules, blocked]
    | owner => simp [Ruled, Loot.listSlotType]
    | none => exact absurd rfl some

lemma direct_slotType {item : LootItem} (some : permission ≠ .none)
    (unblocked : item.is_blocked = false) :
    (loot.slotType viewer permission item = .some .allowLoot ∨
      loot.slotType viewer permission item = .some .owner) ↔
        ¬ Reserved loot viewer item permission := by
  cases permission with
  | all => simp [Loot.slotType, Reserved]
  | group =>
    simp only [Loot.slotType, unblocked, Reserved]
    cases under : item.is_underthreshold <;> by_cases free : loot.roundRobinPlayer = 0 <;>
      by_cases own : viewer.guid = loot.roundRobinPlayer <;> simp [free, own]
  | master => simp [Loot.slotType, Reserved]
  | roundRobin =>
    simp only [Loot.slotType, Reserved]
    by_cases free : loot.roundRobinPlayer = 0 <;>
      by_cases own : viewer.guid = loot.roundRobinPlayer <;> simp [free, own]
  | owner => simp [Loot.slotType, Reserved]
  | none => exact absurd rfl some

variable (GetItemTemplate loot viewer permission)

def ShownIn (lootSlot : ℕ) : Prop :=
  ∃ shown ∈ loot.WriteData GetItemTemplate viewer permission, shown.slot = lootSlot ∧ shown.Direct

/-- What storing it would have to look at. -/
structure Entitled (found : Loot.SlotItem) : Prop where
  shown : permission ≠ .none
  unlooted : found.item.is_looted = false
  quest : ∀ i, found.place = .quest i → ¬ Ruled found.item permission
  plain : ∀ i, found.place = .normal i → found.entry = none → found.item.listKind = none ∧
    found.item.AllowedForPlayer GetItemTemplate viewer = true ∧
    ¬ Reserved loot viewer found.item permission

variable {GetItemTemplate loot viewer permission}

lemma entitled_of_shownIn (well : loot.WellListed) (sized : loot.Sized)
    (inSlot : loot.InSlot viewer.guid lootSlot found)
    (unblocked : ∀ i, found.place = .normal i → found.item.is_blocked = false)
    (shownIn : ShownIn GetItemTemplate loot viewer permission lootSlot) :
    Entitled GetItemTemplate loot viewer permission found := by
  obtain ⟨shown, isShown, rfl, direct⟩ := shownIn
  -- what is shown in the slot is what is found there
  obtain ⟨entry, hs⟩ := inSlot_of_shown well sized isShown
  obtain rfl : ⟨shown.place, shown.item, entry⟩ = found := by
    have first := Loot.LootItemInSlot_of_inSlot well hs
    rw [Loot.LootItemInSlot_of_inSlot well inSlot] at first
    exact (Option.some.inj first).symm
  have nothing : permission ≠ .none := by
    rintro rfl
    cases isShown
  have fromList {kind : ListKind} (other : kind ≠ .quest)
      (isShown : shown ∈ loot.shownListed viewer permission kind) :
      Entitled GetItemTemplate loot viewer permission ⟨shown.place, shown.item, entry⟩ := by
    obtain ⟨listEntry, item, hm, left, here, unlooted, rfl⟩ := mem_shownListed.mp isShown
    refine ⟨nothing, unlooted, nofun, fun i place unlisted => ?_⟩
    obtain rfl : entry = none := unlisted
    cases inSlot with
    | unlisted here' left' unlisted' =>
      obtain ⟨item', found', tracked⟩ :=
        well.normal kind viewer.guid listEntry.index other (List.mem_map_of_mem hm)
      obtain rfl := Option.some.inj (here.symm.trans found')
      exact absurd (List.mem_map_of_mem hm) (unlisted' kind tracked)
  rcases (mem_WriteData nothing).mp isShown with normal | quest | ffa | conditional
  · obtain ⟨i, item, slotType, here, unlooted, plain, allowed, type, rfl⟩ :=
      mem_shownItems.mp normal
    refine ⟨nothing, unlooted, nofun, fun j place _ => ⟨plain, allowed, ?_⟩⟩
    refine (direct_slotType nothing (unblocked j place)).mp ?_
    rcases direct with allow | owner
    · exact .inl (type.trans (congrArg some allow))
    · exact .inr (type.trans (congrArg some owner))
  · obtain ⟨k, listEntry, item, atSlot, left, here, unlooted, rfl⟩ := mem_shownQuestItems.mp quest
    exact ⟨nothing, unlooted, fun i _ => (direct_finalSlotType nothing item).mp direct, nofun⟩
  · exact fromList (by simp) ffa
  · exact fromList (by simp) conditional

lemma shownIn_of_entitled (sized : loot.Sized) (inSlot : loot.InSlot viewer.guid lootSlot found)
    (unblocked : ∀ i, found.place = .normal i → found.item.is_blocked = false)
    (entitled : Entitled GetItemTemplate loot viewer permission found) :
    ShownIn GetItemTemplate loot viewer permission lootSlot := by
  have nothing := entitled.shown
  cases inSlot with
  | @quest k item entry slot atSlot left here =>
    refine ⟨_, (mem_WriteData nothing).mpr (.inr (.inl (mem_shownQuestItems.mpr
      ⟨k, entry, item, atSlot, left, here, entitled.unlooted, rfl⟩))), ?_, ?_⟩
    · exact (questSlot_eq sized atSlot).trans slot.symm
    · exact (direct_finalSlotType nothing item).mpr (entitled.quest _ rfl)
  | @listed kind k item entry here tracked atSlot index left =>
    subst index
    have isShown : ⟨Loot.listSlotType permission, _, .normal _, item⟩ ∈
        loot.shownListed viewer permission kind :=
      mem_shownListed.mpr ⟨entry, item, List.mem_of_getElem? atSlot, left, here, entitled.unlooted,
        rfl⟩
    cases kind with
    | quest => exact absurd tracked (LootItem.listKind_ne_quest item)
    | ffa =>
      exact ⟨_, (mem_WriteData nothing).mpr (.inr (.inr (.inl isShown))), rfl, direct_listSlotType⟩
    | conditional =>
      exact ⟨_, (mem_WriteData nothing).mpr (.inr (.inr (.inr isShown))), rfl, direct_listSlotType⟩
  | @unlisted item here left unlisted =>
    obtain ⟨plain, allowed, free⟩ := entitled.plain lootSlot rfl rfl
    rcases (direct_slotType nothing (unblocked lootSlot rfl)).mpr free with allow | owner
    · exact ⟨_, (mem_WriteData nothing).mpr (.inl (mem_shownItems.mpr
        ⟨lootSlot, item, _, here, left, plain, allowed, allow, rfl⟩)), rfl, .inl rfl⟩
    · exact ⟨_, (mem_WriteData nothing).mpr (.inl (mem_shownItems.mpr
        ⟨lootSlot, item, _, here, left, plain, allowed, owner, rfl⟩)), rfl, .inr rfl⟩

/-! ### The view and the requests -/

variable (GetItemTemplate loot viewer permission)

/-- What the marks, the permission and the lists of a viewer have to be for all that he can store to
be shown to be his: nothing for everybody is kept from him, no item that he is not listed for is
left, and none that a list of his has open is marked as looted. Whoever is shown nothing must find
nothing that he could store. -/
structure Permitted : Prop where
  plain : ∀ (i : ℕ) (item : LootItem), loot.items[i]? = some item → item.listKind = none →
    item.is_looted = false → item.is_blocked = false →
    viewer.CanStoreNewItem item.itemid item.count = true →
    item.AllowedForPlayer GetItemTemplate viewer = true ∧ ¬ Reserved loot viewer item permission
  unlisted : ∀ (i : ℕ) (item : LootItem) (kind : ListKind), loot.items[i]? = some item →
    item.listKind = some kind → item.is_blocked = false →
    viewer.CanStoreNewItem item.itemid item.count = true →
    ¬ loot.Listed kind viewer.guid i → item.is_looted = true
  listed : ∀ (i : ℕ) (item : LootItem) (kind : ListKind), loot.items[i]? = some item →
    item.listKind = some kind → item.is_blocked = false →
    viewer.CanStoreNewItem item.itemid item.count = true →
    loot.Open kind viewer.guid i → item.is_looted = false ∧ permission ≠ .none
  quest : ∀ (i : ℕ) (item : LootItem), loot.quest_items[i]? = some item →
    loot.Open .quest viewer.guid i → viewer.CanStoreNewItem item.itemid item.count = true →
    item.is_looted = false ∧ ¬ Ruled item permission

/-- Whatever the viewer can store is shown to be his. -/
def Confined (s : State) (looters : Finset ℕ) : Prop :=
  ∀ lootSlot found, s.Stores looters viewer lootSlot found →
    ShownIn GetItemTemplate s.loot viewer permission lootSlot

def Truthful : Prop :=
  ∀ shown ∈ loot.WriteData GetItemTemplate viewer permission, shown.Direct → ∃ found,
    loot.LootItemInSlot shown.slot viewer.guid = some found ∧ found.place = shown.place ∧
      found.item = shown.item

variable {GetItemTemplate loot viewer permission}

lemma truthful (well : loot.WellListed) (sized : loot.Sized) :
    Truthful GetItemTemplate loot viewer permission := by
  intro shown isShown _
  obtain ⟨entry, inSlot⟩ := inSlot_of_shown well sized isShown
  exact ⟨_, Loot.LootItemInSlot_of_inSlot well inSlot, rfl, rfl⟩

variable (viewer permission) in
/-- The viewer is a looter of the loot that he opens: he is shown something, or the loot was not
released properly. -/
def Looks (looters : Finset ℕ) (openInReach : Option Bool) : Prop :=
  permission ≠ .none ∨ viewer.guid ∈ looters ∧ openInReach ≠ some true

lemma mem_SendLoot (looters : Finset ℕ) (openInReach : Option Bool) :
    viewer.guid ∈ SendLoot looters viewer permission openInReach ↔
      Looks viewer permission looters openInReach := by
  unfold SendLoot Looks
  by_cases nothing : permission = .none
  · rcases openInReach with _ | _ | _ <;> simp [nothing, DoLootRelease]
  · simp [nothing]

lemma entitled_of_permitted (permitted : Permitted GetItemTemplate loot viewer permission)
    (inSlot : loot.InSlot viewer.guid lootSlot found) (can : State.canLoot viewer found = true) :
    Entitled GetItemTemplate loot viewer permission found := by
  simp only [State.canLoot, Bool.and_eq_true, Bool.or_eq_true, Bool.not_eq_true'] at can
  obtain ⟨unblocked, room⟩ := can
  cases inSlot with
  | quest slot atSlot left here =>
    obtain ⟨unlooted, free⟩ :=
      permitted.quest _ _ here ⟨_, List.mem_of_getElem? atSlot, rfl, left⟩ room
    exact ⟨by rintro rfl; exact free trivial, unlooted, fun _ _ => free, by simp⟩
  | listed here tracked atSlot index left =>
    have isOpen : loot.Open _ viewer.guid lootSlot := ⟨_, List.mem_of_getElem? atSlot, index, left⟩
    obtain ⟨unlooted, shown⟩ :=
      permitted.listed lootSlot _ _ here tracked (by simpa using unblocked) room isOpen
    exact ⟨shown, unlooted, by simp, by simp⟩
  | @unlisted item here left unlisted =>
    have unblocked : item.is_blocked = false := by simpa using unblocked
    cases tracked : item.listKind with
    | none =>
      obtain ⟨allowed, free⟩ := permitted.plain lootSlot item here tracked left unblocked room
      exact ⟨by rintro rfl; exact free trivial, left, by simp, fun _ _ _ => ⟨tracked, allowed, free⟩⟩
    | some kind =>
      have looted := permitted.unlisted lootSlot item kind here tracked unblocked room
        (unlisted kind tracked)
      rw [looted] at left
      cases left

lemma permitted_of_entitled
    (entitled : ∀ lootSlot found, loot.InSlot viewer.guid lootSlot found →
      State.canLoot viewer found = true → Entitled GetItemTemplate loot viewer permission found) :
    Permitted GetItemTemplate loot viewer permission := by
  have canLoot {i : ℕ} {item : LootItem} (entry : Option (ListKind × ℕ))
      (unblocked : item.is_blocked = false)
      (room : viewer.CanStoreNewItem item.itemid item.count = true) :
      State.canLoot viewer ⟨.normal i, item, entry⟩ = true := by
    simp [State.canLoot, unblocked, room]
  constructor
  · intro i item here plain left unblocked room
    have inSlot : loot.InSlot viewer.guid i ⟨.normal i, item, none⟩ := .unlisted here left
      fun kind tracked => by rw [plain] at tracked; cases tracked
    exact ((entitled i _ inSlot (canLoot none unblocked room)).plain i rfl rfl).2
  · intro i item kind here tracked unblocked room unlisted
    by_contra left
    have inSlot : loot.InSlot viewer.guid i ⟨.normal i, item, none⟩ :=
      .unlisted here (by simpa using left) fun kind' hs => by
        obtain rfl := Option.some.inj (tracked.symm.trans hs)
        exact unlisted
    have plain := ((entitled i _ inSlot (canLoot none unblocked room)).plain i rfl rfl).1
    rw [tracked] at plain
    cases plain
  · rintro i item kind here tracked unblocked room ⟨entry, hm, index, left⟩
    obtain ⟨k, atSlot⟩ := List.mem_iff_getElem?.mp hm
    have entitled := entitled i _ (.listed here tracked atSlot index left) (canLoot _ unblocked room)
    exact ⟨entitled.unlooted, entitled.shown⟩
  · rintro i item here ⟨entry, hm, rfl, left⟩ room
    obtain ⟨k, atSlot⟩ := List.mem_iff_getElem?.mp hm
    have entitled := entitled _ _ (.quest rfl atSlot left here) (by simp [State.canLoot, room])
    exact ⟨entitled.unlooted, entitled.quest _ rfl⟩

lemma confined_iff {s : State} (well : s.loot.WellListed) (sized : s.loot.Sized)
    (looters : Finset ℕ) (openInReach : Option Bool) :
    Confined GetItemTemplate viewer permission s (SendLoot looters viewer permission openInReach) ↔
      (Looks viewer permission looters openInReach →
        Permitted GetItemTemplate s.loot viewer permission) := by
  have unblocked {found : Loot.SlotItem} (can : State.canLoot viewer found = true) (i : ℕ)
      (place : found.place = .normal i) : found.item.is_blocked = false := by
    simp only [State.canLoot, place, Bool.and_eq_true, Bool.or_eq_true] at can
    simpa using can.1
  constructor
  · intro confined looks
    refine permitted_of_entitled fun lootSlot found inSlot can => ?_
    refine entitled_of_shownIn well sized inSlot (unblocked can) (confined lootSlot found ?_)
    exact ⟨(mem_SendLoot looters openInReach).mpr looks, Loot.LootItemInSlot_of_inSlot well inSlot, can⟩
  · rintro permitted lootSlot found ⟨looks, found', can⟩
    have looks := (mem_SendLoot looters openInReach).mp looks
    have inSlot := Loot.inSlot_of_LootItemInSlot found'
    exact shownIn_of_entitled sized inSlot (unblocked can)
      (entitled_of_permitted (permitted looks) inSlot can)

variable (GetItemTemplate)

lemma wellListed_requests (gold : ℕ) (drops : List (LootStoreItem × ℕ)) (lootOwner : Player)
    (personal : Bool) (group : Option State.Party) (requests : List State.Request) :
    let s := run (State.step GetItemTemplate)
      (State.FillLoot GetItemTemplate gold drops lootOwner personal group) requests
    s.loot.WellListed ∧ s.loot.Sized := by
  obtain ⟨-, recorded, sized⟩ := fair_FillLoot GetItemTemplate gold drops lootOwner personal group
  have later := (given_run GetItemTemplate requests
    (State.FillLoot GetItemTemplate gold drops lootOwner personal group)).1
  exact ⟨later.wellListed recorded.well, later.sized sized⟩

/-- The view of a loot is the permission to store what is in it, just if a viewer who is one of the
looters is permitted all that he finds. -/
theorem view_is_permission_iff (gold : ℕ) (drops : List (LootStoreItem × ℕ)) (lootOwner : Player)
    (personal : Bool) (group : Option State.Party) (requests : List State.Request)
    (looters : Finset ℕ) (viewer : Player) (permission : PermissionTypes) (openInReach : Option Bool) :
    let s := run (State.step GetItemTemplate)
      (State.FillLoot GetItemTemplate gold drops lootOwner personal group) requests
    (Confined GetItemTemplate viewer permission s (SendLoot looters viewer permission openInReach) ∧
      Truthful GetItemTemplate s.loot viewer permission) ↔
        (Looks viewer permission looters openInReach →
          Permitted GetItemTemplate s.loot viewer permission) := by
  obtain ⟨well, sized⟩ :=
    wellListed_requests GetItemTemplate gold drops lootOwner personal group requests
  dsimp only
  rw [and_iff_left (truthful well sized)]
  exact confined_iff well sized looters openInReach

end Templates

/-! ### A loot for a master looter -/

def plainTemplate : ItemTemplate := { skinTemplate with
  partyLoot := false
  smartLoot := false }

def masterMember (guid : ℕ) : Player := { groupMember guid [] with
  GetGroup := some ⟨.masterLoot, 1⟩ }

def masterParty : State.Party where
  members := [(masterMember 1, true), (masterMember 2, true)]
  distinct := by decide
  GetLootThreshold := 2

def masterLoot : State :=
  State.FillLoot (fun _ => some plainTemplate) 0 [(⟨2589, false, []⟩, 1)] (masterMember 1) false
    (some masterParty)

/-- What the master looter alone may distribute is stored by another member. -/
theorem member_stores_reserved :
    ¬ (Confined (fun _ => some plainTemplate) (masterMember 2) .master masterLoot
        (SendLoot ∅ (masterMember 2) .master none) ∧
      Truthful (fun _ => some plainTemplate) masterLoot.loot (masterMember 2) .master) := by
  rintro ⟨confined, -⟩
  obtain ⟨shown, isShown, -, direct⟩ := confined 0
    ⟨.normal 0, { LootItem.ofStoreItem plainTemplate ⟨2589, false, []⟩ 1 with
      is_underthreshold := true }, none⟩
    ⟨by decide, by decide +kernel, by decide⟩
  have notDirect : ∀ shown ∈ masterLoot.loot.WriteData (fun _ => some plainTemplate)
      (masterMember 2) .master, ¬ (shown.slotType = .allowLoot ∨ shown.slotType = .owner) := by
    decide +kernel
  exact notDirect shown isShown direct

end WorldServer.Looting
