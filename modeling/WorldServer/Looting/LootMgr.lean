import WorldServer.Conditions.Conditions
import WorldServer.Lib.Run
import WorldServer.Lib.Table

/-!
# Loot

A loot holds items for everybody and quest items. Which player may take a quest item, an item that
is free for all or an item with conditions is written down in lists, one of each kind for a player,
when the loot is filled. That an item has been looted is marked at the item or in these lists, and a
counter holds how many are left.
-/
namespace WorldServer.Looting

open WorldServer.Lib WorldServer.Conditions

def MAX_NR_LOOT_ITEMS : ℕ := 16
def MAX_NR_QUEST_ITEMS : ℕ := 32

inductive LootMethod where
  | freeForAll
  | roundRobin
  | masterLoot
  | groupLoot
  | needBeforeGreed
  deriving DecidableEq, Repr

inductive Team where
  | alliance
  | horde
  deriving DecidableEq, Repr

structure ItemTemplate where
  Quality : ℕ
  MaxStackSize : ℕ
  partyLoot : Bool
  /-- `ITEM_PROTO_FLAG_SMART_LOOT`. -/
  smartLoot : Bool
  RequiredSkill : ℕ
  SpellId : ℕ
  hordeOnly : Bool
  allianceOnly : Bool
  ignoreQuestStatus : Bool
  followLootRules : Bool
  StartQuest : ℕ
  IsCurrencyToken : Bool
  deriving DecidableEq, Repr

/-- The group of a player. -/
structure Group where
  GetLootMethod : LootMethod
  GetLooterGuid : ℕ
  deriving DecidableEq, Repr

/-- A player as he is at a request. -/
structure Player where
  guid : ℕ
  IsObjectMeetToConditions : List Condition → Bool
  HasSkill : ℕ → Bool
  HasSpell : ℕ → Bool
  GetTeam : Team
  hasQuestStatus : ℕ → Bool
  HasQuestForItem : ℕ → Bool
  GetGroup : Option Group
  CanStoreNewItem : ℕ → ℕ → Bool

structure LootStoreItem where
  itemid : ℕ
  needs_quest : Bool
  conditions : List Condition
  deriving DecidableEq

structure LootItem where
  itemid : ℕ
  conditions : List Condition
  count : ℕ
  is_looted : Bool := false
  is_blocked : Bool := false
  freeforall : Bool
  is_underthreshold : Bool := false
  is_counted : Bool := false
  needs_quest : Bool
  follow_loot_rules : Bool
  deriving DecidableEq

structure QuestItem where
  index : ℕ
  is_looted : Bool := false
  deriving DecidableEq, Repr

/-- The lists that a player may have. -/
inductive ListKind where
  | quest
  | ffa
  | conditional
  deriving DecidableEq, Repr

inductive Place where
  | normal (i : ℕ)
  | quest (i : ℕ)
  deriving DecidableEq, Repr

def ListKind.place : ListKind → ℕ → Place
  | .quest => .quest
  | .ffa | .conditional => .normal

structure Loot where
  items : List LootItem := []
  quest_items : List LootItem := []
  gold : ℕ := 0
  unlootedCount : UInt8 := 0
  /-- The player who has the loot to himself in a round, or zero. -/
  roundRobinPlayer : ℕ := 0
  lists : ListKind → Table ℕ (List QuestItem) := fun _ => ∅

namespace Loot

def PlayerFFAItems (loot : Loot) : Table ℕ (List QuestItem) := loot.lists .ffa

def isLooted (loot : Loot) : Bool := loot.gold = 0 && loot.unlootedCount = 0

def item? (loot : Loot) : Place → Option LootItem
  | .normal i => loot.items[i]?
  | .quest i => loot.quest_items[i]?

def modifyItem (loot : Loot) (place : Place) (f : LootItem → LootItem) : Loot :=
  match place with
  | .normal i => { loot with items := loot.items.modify i f }
  | .quest i => { loot with quest_items := loot.quest_items.modify i f }

def entries (loot : Loot) (kind : ListKind) (guid : ℕ) : List QuestItem :=
  ((loot.lists kind).lookup guid).getD []

def setEntries (loot : Loot) (kind : ListKind) (guid : ℕ) (entries : List QuestItem) : Loot :=
  { loot with
    lists := Function.update loot.lists kind ((loot.lists kind).insert guid entries) }

end Loot

section Templates

variable (GetItemTemplate : ℕ → Option ItemTemplate)

def LootItem.ofStoreItem (proto : ItemTemplate) (li : LootStoreItem) (count : ℕ) : LootItem where
  itemid := li.itemid
  conditions := li.conditions
  -- eight bits hold the count
  count := count % 2 ^ 8
  freeforall := proto.partyLoot
  needs_quest := li.needs_quest
  follow_loot_rules := proto.followLootRules

def LootItem.AllowedForPlayer (item : LootItem) (player : Player) : Bool :=
  if !player.IsObjectMeetToConditions item.conditions then false
  else
    match GetItemTemplate item.itemid with
    | none => false
    | some pProto =>
      if pProto.smartLoot &&
          (!player.HasSkill pProto.RequiredSkill || player.HasSpell pProto.SpellId) then false
      else if pProto.hordeOnly && player.GetTeam ≠ .horde then false
      else if pProto.allianceOnly && player.GetTeam ≠ .alliance then false
      else if !pProto.ignoreQuestStatus && (item.needs_quest ||
          pProto.StartQuest ≠ 0 && player.hasQuestStatus pProto.StartQuest) &&
          !player.HasQuestForItem item.itemid then false
      else true

/-- Under the rules of a group even a player for whom the item is not allowed gets a share. -/
def LootItem.followsRules (item : LootItem) (player : Player) : Bool :=
  item.follow_loot_rules &&
    match player.GetGroup with
    | none => false
    | some group =>
      (group.GetLootMethod = .masterLoot && group.GetLooterGuid = player.guid) ||
        group.GetLootMethod ≠ .masterLoot

namespace Loot

/-! ### Filling -/

def lootItems (loot : Loot) (needs_quest : Bool) : List LootItem :=
  if needs_quest then loot.quest_items else loot.items

def addStacks (proto : ItemTemplate) (item : LootStoreItem) : ℕ → ℕ → Loot → Loot
  | 0, _, loot => loot
  | numStacks + 1, count, loot =>
    let limit := if item.needs_quest then MAX_NR_QUEST_ITEMS else MAX_NR_LOOT_ITEMS
    if (loot.lootItems item.needs_quest).length < limit then
      let generatedLoot := LootItem.ofStoreItem proto item (min count proto.MaxStackSize)
      let added :=
        if item.needs_quest then { loot with quest_items := loot.quest_items ++ [generatedLoot] }
        else { loot with items := loot.items ++ [generatedLoot] }
      -- the other items are counted when the lists of the players are filled
      let counted := !item.needs_quest && item.conditions.isEmpty && !proto.partyLoot
      addStacks proto item numStacks (count - proto.MaxStackSize)
        { added with unlootedCount := added.unlootedCount + if counted then 1 else 0 }
    else loot

/-- `count` is the number that is drawn between the bounds of the entry. -/
def AddItem (loot : Loot) (item : LootStoreItem) (count : ℕ) : Loot :=
  match GetItemTemplate item.itemid with
  | none => loot
  | some proto =>
    let numStacks := count / proto.MaxStackSize + if count % proto.MaxStackSize ≠ 0 then 1 else 0
    loot.addStacks proto item numStacks count

/-- How a list of a player is filled: the items that come into it, whether an item is counted then
and what is marked at it, and how many may come into it. -/
structure Listing where
  kind : ListKind
  takes : LootItem → Bool
  counts : LootItem → Bool
  mark : LootItem → LootItem
  limit : Option ℕ

def enter (loot : Loot) (listing : Listing) (item : LootItem) (i : ℕ) : Loot :=
  let marked := loot.modifyItem (listing.kind.place i) listing.mark
  { marked with unlootedCount := marked.unlootedCount + if listing.counts item then 1 else 0 }

def fillFrom (listing : Listing) : List ℕ → Loot → List QuestItem → Loot × List QuestItem
  | [], loot, ql => (loot, ql)
  | i :: rest, loot, ql =>
    match loot.item? (listing.kind.place i) with
    | none => fillFrom listing rest loot ql
    | some item =>
      if listing.takes item then
        let ql' := ql ++ [⟨i, false⟩]
        if some ql'.length = listing.limit then (loot.enter listing item i, ql')
        else fillFrom listing rest (loot.enter listing item i) ql'
      else fillFrom listing rest loot ql

def fillList (loot : Loot) (listing : Listing) (size : ℕ) (guid : ℕ) : Loot :=
  let filled := fillFrom listing (List.range size) loot []
  if filled.2.isEmpty then filled.1 else filled.1.setEntries listing.kind guid filled.2

def ffaListing (player : Player) : Listing where
  kind := .ffa
  takes item := !item.is_looted && item.freeforall && item.AllowedForPlayer GetItemTemplate player
  counts _ := true
  mark item := item
  limit := none

def FillFFALoot (loot : Loot) (player : Player) : Loot :=
  loot.fillList (ffaListing GetItemTemplate player) loot.items.length player.guid

/-- Quest items are blocked when they first come into a list, unless the group rolls for them or
takes turns. -/
def questListing (player : Player) (room : ℕ) : Listing where
  kind := .quest
  takes item := !item.is_looted &&
    (item.AllowedForPlayer GetItemTemplate player || item.followsRules player)
  counts item := item.freeforall || !item.is_blocked
  mark item :=
    let blocks : Bool := match player.GetGroup with
      | none => true
      | some group => group.GetLootMethod ≠ .groupLoot && group.GetLootMethod ≠ .roundRobin
    if blocks then { item with is_blocked := true } else item
  limit := some room

def FillQuestLoot (loot : Loot) (player : Player) : Loot :=
  if loot.items.length = MAX_NR_LOOT_ITEMS then loot
  else loot.fillList (questListing GetItemTemplate player (MAX_NR_LOOT_ITEMS - loot.items.length))
    loot.quest_items.length player.guid

def conditionalListing (player : Player) : Listing where
  kind := .conditional
  takes item := !item.is_looted && !item.freeforall &&
    (item.AllowedForPlayer GetItemTemplate player || item.followsRules player) &&
    !item.conditions.isEmpty
  counts item := !item.is_counted
  mark item := { item with is_counted := true }
  limit := none

def FillNonQuestNonFFAConditionalLoot (loot : Loot) (player : Player) : Loot :=
  loot.fillList (conditionalListing GetItemTemplate player) loot.items.length player.guid

def GetMaxSlotInLootFor (loot : Loot) (guid : ℕ) : ℕ :=
  loot.items.length + (loot.entries .quest guid).length

/-! ### Taking -/

/-- An item in a slot, and where it is marked for the player that it has been looted, if not at the
item. -/
structure SlotItem where
  place : Place
  item : LootItem
  entry : Option (ListKind × ℕ)
  deriving DecidableEq

/-- The item of a slot, as a list of the player says or else as the item itself says whether it has
been looted. -/
def slotItemIn (loot : Loot) (kind : ListKind) (lootSlot : ℕ) (item : LootItem) (guid : ℕ) :
    Option SlotItem :=
  match (loot.entries kind guid).findIdx? fun entry => entry.index = lootSlot with
  | none => if item.is_looted then none else some ⟨.normal lootSlot, item, none⟩
  | some k =>
    match (loot.entries kind guid)[k]? with
    | none => none
    | some entry =>
      if entry.is_looted then none else some ⟨.normal lootSlot, item, some (kind, k)⟩

def LootItemInSlot (loot : Loot) (lootSlot : ℕ) (guid : ℕ) : Option SlotItem :=
  match loot.items[lootSlot]? with
  | none =>
    let questSlot := lootSlot - loot.items.length
    match (loot.entries .quest guid)[questSlot]? with
    | none => none
    | some qitem =>
      match loot.quest_items[qitem.index]? with
      | none => none
      | some item =>
        if qitem.is_looted then none
        else some ⟨.quest qitem.index, item, some (.quest, questSlot)⟩
  | some item =>
    if item.freeforall then loot.slotItemIn .ffa lootSlot item guid
    else if !item.conditions.isEmpty then loot.slotItemIn .conditional lootSlot item guid
    else if item.is_looted then none else some ⟨.normal lootSlot, item, none⟩

def lootEntry (loot : Loot) (guid : ℕ) : Option (ListKind × ℕ) → Loot
  | none => loot
  | some (kind, k) => loot.setEntries kind guid
      ((loot.entries kind guid).modify k fun entry => { entry with is_looted := true })

end Loot

/-- A player has received an item. -/
structure Handout where
  place : Place
  guid : ℕ
  deriving DecidableEq, Repr

/-- The loot, and what players have received from it. -/
structure State where
  loot : Loot
  given : List Handout := []

namespace State

def hand (s : State) (loot : Loot) (place : Place) (guid : ℕ) (count : ℕ) : State where
  loot := { loot with unlootedCount := loot.unlootedCount - 1 }
  given := if count = 0 then s.given else ⟨place, guid⟩ :: s.given

/-- Quest items use the mark of a blocked item for something else. -/
def canLoot (player : Player) (found : Loot.SlotItem) : Bool :=
  let isQuest := match found.place with
    | .quest _ => true
    | .normal _ => false
  (isQuest || !found.item.is_blocked) && player.CanStoreNewItem found.item.itemid found.item.count

def StoreLootItem (s : State) (player : Player) (lootSlot : ℕ) : State :=
  match s.loot.LootItemInSlot lootSlot player.guid with
  | none => s
  | some found =>
    if canLoot player found then
      let marked := s.loot.lootEntry player.guid found.entry
      let looted := if found.item.freeforall then marked
        else marked.modifyItem found.place fun item => { item with is_looted := true }
      s.hand looted found.place player.guid found.item.count
    else s

def masterPlace (s : State) (slotid : ℕ) : Place :=
  if s.loot.items.length ≤ slotid then .quest (slotid - s.loot.items.length) else .normal slotid

def canGive (target : Player) (item : LootItem) : Bool :=
  target.CanStoreNewItem item.itemid item.count &&
    !(item.follow_loot_rules && !item.AllowedForPlayer GetItemTemplate target)

def HandleLootMasterGive (s : State) (target : Player) (slotid : ℕ) : State :=
  match s.loot.item? (s.masterPlace slotid) with
  | none => s
  | some item =>
    if canGive GetItemTemplate target item then
      let looted := s.loot.modifyItem (s.masterPlace slotid) fun item =>
        { item with count := 0, is_looted := true }
      s.hand looted (s.masterPlace slotid) target.guid item.count
    else s

/-- Currencies that are free for all are taken for a player who is present. -/
def takeCurrency (player : Player) (itemsSize : ℕ) (s : State) (i : ℕ) : State :=
  let place := if i < itemsSize then Place.normal i else .quest (i - itemsSize)
  match s.loot.item? place with
  | none => s
  | some item =>
    if !item.is_looted && item.freeforall && item.AllowedForPlayer GetItemTemplate player &&
        (GetItemTemplate item.itemid).any ItemTemplate.IsCurrencyToken then
      s.StoreLootItem player i
    else s

def fillMissing (s : State) (kind : ListKind) (guid : ℕ) (fill : Loot → Loot) : State :=
  match (s.loot.lists kind).lookup guid with
  | none => { s with loot := fill s.loot }
  | some _ => s

def fillLists (s : State) (player : Player) : State :=
  ((s.fillMissing .quest player.guid fun loot =>
    loot.FillQuestLoot GetItemTemplate player).fillMissing .ffa player.guid fun loot =>
    loot.FillFFALoot GetItemTemplate player).fillMissing .conditional player.guid fun loot =>
    loot.FillNonQuestNonFFAConditionalLoot GetItemTemplate player

def FillNotNormalLootFor (s : State) (player : Player) (presentAtLooting : Bool) : State :=
  let filled := s.fillLists GetItemTemplate player
  if presentAtLooting then
    (List.range (filled.loot.GetMaxSlotInLootFor player.guid)).foldl
      (takeCurrency GetItemTemplate player filled.loot.items.length) filled
  else filled

/-- The members of a group who are in the world, and whether they are near enough. -/
structure Party where
  members : List (Player × Bool)
  distinct : (members.map fun member => member.1.guid).Nodup
  GetLootThreshold : ℕ

def markThreshold (GetLootThreshold : ℕ) (loot : Loot) : Loot :=
  { loot with
    items := loot.items.map fun item =>
      if (GetItemTemplate item.itemid).any fun proto => proto.Quality < GetLootThreshold then
        { item with is_underthreshold := true }
      else item }

/-- What a template gives is drawn before: entries with their counts. -/
def FillLoot (gold : ℕ) (drops : List (LootStoreItem × ℕ)) (lootOwner : Player) (personal : Bool)
    (group : Option Party) : State :=
  let processed := drops.foldl
    (fun loot drop => loot.AddItem GetItemTemplate drop.1 drop.2) { gold := gold }
  match personal, group with
  | false, some party =>
    let start : State := { loot := { processed with roundRobinPlayer := lootOwner.guid } }
    let filled := party.members.foldl
      (fun s member => s.FillNotNormalLootFor GetItemTemplate member.1 member.2) start
    { filled with loot := markThreshold GetItemTemplate party.GetLootThreshold filled.loot }
  | _, _ =>
    let start : State := { loot := processed }
    start.FillNotNormalLootFor GetItemTemplate lootOwner true

inductive Request where
  | autostore (player : Player) (lootSlot : ℕ)
  | masterGive (target : Player) (slotid : ℕ)
  /-- The group starts to roll for an item, or it is over without a winner. -/
  | roll (place : Place) (is_blocked : Bool)
  | release

def step (s : State) : Request → State
  | .autostore player lootSlot => s.StoreLootItem player lootSlot
  | .masterGive target slotid => s.HandleLootMasterGive GetItemTemplate target slotid
  | .roll place is_blocked =>
    { s with loot := s.loot.modifyItem place fun item => { item with is_blocked := is_blocked } }
  | .release => { s with loot := { s.loot with roundRobinPlayer := 0 } }

end State

end Templates

end WorldServer.Looting
