import WorldServer.Looting.LootMgr
import WorldServer.Lib.Recursion

/-!
# References between loot templates

An entry of a loot template is an item or a reference to another template, whose entries are then
rolled as well. The loader takes any references, so that a template may come back to itself.
-/
namespace WorldServer.Looting

open WorldServer.Lib Relation

/-- A row of a table; the real numbers of the source are rational here. -/
structure LootRow where
  entry : ℕ
  item : ℕ
  ChanceOrQuestChance : ℚ
  lootmode : UInt16
  groupid : UInt8
  mincountOrRef : ℤ
  maxcount : UInt8

/-- An entry of a template, with what is read when it is rolled. -/
structure TemplateItem extends LootStoreItem where
  chance : ℚ
  mincountOrRef : ℤ
  lootmode : UInt16
  group : ℕ
  maxcount : ℕ
  deriving DecidableEq

structure LootGroup where
  ExplicitlyChanced : List TemplateItem := []
  EqualChanced : List TemplateItem := []
  deriving DecidableEq

structure LootTemplate where
  Entries : List TemplateItem := []
  Groups : List (Option LootGroup) := []
  deriving DecidableEq

abbrev LootTemplateMap := Table ℕ LootTemplate

/-! ### Loading -/

def LootRow.storeItem (row : LootRow) : TemplateItem where
  itemid := row.item
  needs_quest := row.ChanceOrQuestChance < 0
  -- the conditions are loaded later
  conditions := []
  chance := |row.ChanceOrQuestChance|
  mincountOrRef := row.mincountOrRef
  lootmode := row.lootmode
  group := row.groupid.toNat
  maxcount := row.maxcount.toNat

namespace TemplateItem

def ref (item : TemplateItem) : ℕ := (-item.mincountOrRef).toNat

def IsValid (GetItemTemplate : ℕ → Option ItemTemplate) (item : TemplateItem) : Bool :=
  if item.mincountOrRef = 0 then false
  else if 0 < item.mincountOrRef then
    if (GetItemTemplate item.itemid).isNone then false
    -- only grouped entries may share what is left of the chance
    else if item.chance = 0 && item.group = 0 then false
    else if item.chance ≠ 0 && item.chance < 1 / 1000000 then false
    else if item.maxcount < item.mincountOrRef then false
    else true
  else if item.needs_quest then true
  else if item.chance = 0 then false
  else true

end TemplateItem

def LootGroup.AddEntry (group : LootGroup) (item : TemplateItem) : LootGroup :=
  if item.chance ≠ 0 then { group with ExplicitlyChanced := group.ExplicitlyChanced ++ [item] }
  else { group with EqualChanced := group.EqualChanced ++ [item] }

namespace LootTemplate

def group? (t : LootTemplate) (groupId : ℕ) : Option LootGroup := t.Groups[groupId - 1]?.join

def AddEntry (t : LootTemplate) (item : TemplateItem) : LootTemplate :=
  if 0 < item.group ∧ 0 < item.mincountOrRef then
    let Groups := t.Groups ++ List.replicate (item.group - t.Groups.length) none
    { t with Groups :=
        Groups.set (item.group - 1) (some (((t.group? item.group).getD {}).AddEntry item)) }
  else { t with Entries := t.Entries ++ [item] }

end LootTemplate

def loadRows (GetItemTemplate : ℕ → Option ItemTemplate) :
    List LootRow → LootTemplateMap → LootTemplateMap
  | [], tab => tab
  | row :: rows, tab =>
    -- the group is kept in seven bits; what comes after such a row is not loaded
    if 1 <<< 7 ≤ row.groupid.toNat then tab
    else if !row.storeItem.IsValid GetItemTemplate then loadRows GetItemTemplate rows tab
    else loadRows GetItemTemplate rows
      (tab.insert row.entry (((tab.lookup row.entry).getD {}).AddEntry row.storeItem))

def LoadLootTable (GetItemTemplate : ℕ → Option ItemTemplate) (rows : List LootRow) :
    LootTemplateMap :=
  loadRows GetItemTemplate rows ∅

/-! ### Quest drops -/

def LootGroup.HasDrop (wanted : TemplateItem → Bool) (group : LootGroup) : Bool :=
  group.ExplicitlyChanced.any wanted || group.EqualChanced.any wanted

namespace LootTemplate

def HasDrop (wanted : TemplateItem → Bool) (store : LootTemplateMap) (depth : ℕ)
    (t : LootTemplate) (groupId : ℕ) : Option Bool :=
  if groupId ≠ 0 then some ((t.group? groupId).any (LootGroup.HasDrop wanted))
  else
    match depth with
    | 0 => none
    | depth + 1 =>
      (t.Entries.anyM fun item =>
        if item.mincountOrRef < 0 then
          match store.lookup item.ref with
          | none => some false
          | some Referenced => HasDrop wanted store depth Referenced item.group
        else some (wanted item)).map
      (· || t.Groups.any fun group => group.any (LootGroup.HasDrop wanted))

def HasQuestDrop : LootTemplateMap → ℕ → LootTemplate → ℕ → Option Bool :=
  HasDrop fun item => item.needs_quest

def HasQuestDropForPlayer (player : Player) :
    LootTemplateMap → ℕ → LootTemplate → ℕ → Option Bool :=
  HasDrop fun item => player.HasQuestForItem item.itemid

end LootTemplate

/-! ### Processing -/

/-- What is drawn at random. -/
structure Dice where
  rand_chance : ℕ → ℚ
  urand : ℕ → ℕ → ℕ → ℕ
  rand_chance_nonneg : ∀ n, 0 ≤ rand_chance n

/-- What the templates are processed with: the items, the rates of the server and the templates
that references are to. -/
structure LootWorld where
  GetItemTemplate : ℕ → Option ItemTemplate
  RATE_DROP_ITEM_REFERENCED : ℚ
  RATE_DROP_ITEM_REFERENCED_AMOUNT : ℚ
  qualityRate : ℕ → ℚ
  LootTemplates_Reference : LootTemplateMap

/-- What is given with a call of `Process`. -/
structure Filling where
  rate : Bool
  lootMode : UInt16
  maxDuplicates : ℕ
  dice : Dice

/-- The loot so far, and how often something has been drawn. -/
structure Drawn where
  loot : Loot
  draws : ℕ

variable (w : LootWorld) (f : Filling)

namespace TemplateItem

def factor (rate : Bool) (item : TemplateItem) : ℚ :=
  if !rate then 1
  else if item.mincountOrRef < 0 then w.RATE_DROP_ITEM_REFERENCED
  else match w.GetItemTemplate item.itemid with
    | none => 1
    | some pProto => w.qualityRate pProto.Quality

def Roll (item : TemplateItem) (s : Drawn) : Bool × Drawn :=
  if 100 ≤ item.chance then (true, s)
  else (f.dice.rand_chance s.draws < item.chance * item.factor w f.rate,
    { s with draws := s.draws + 1 })

def repeats (item : TemplateItem) : ℕ :=
  (item.maxcount * w.RATE_DROP_ITEM_REFERENCED_AMOUNT).floor.toNat

end TemplateItem

def Drawn.AddItem (s : Drawn) (item : TemplateItem) : Drawn where
  loot := s.loot.AddItem w.GetItemTemplate item.toLootStoreItem
    (f.dice.urand s.draws item.mincountOrRef.toNat item.maxcount)
  draws := s.draws + 1

namespace LootGroup

/-- An entry of another mode, or one that the loot has often enough, is left out. -/
def possible (loot : Loot) (item : TemplateItem) : Bool :=
  item.lootmode &&& f.lootMode ≠ 0 &&
    !(0 < f.maxDuplicates &&
      f.maxDuplicates ≤ loot.items.countP fun other => other.itemid = item.itemid)

def rollExplicit : List TemplateItem → ℚ → Option TemplateItem
  | [], _ => none
  | item :: rest, roll =>
    if 100 ≤ item.chance then some item
    else if roll - item.chance < 0 then some item
    else rollExplicit rest (roll - item.chance)

def Roll (group : LootGroup) (s : Drawn) : Option TemplateItem × Drawn :=
  let explicit := group.ExplicitlyChanced.filter (possible f s.loot)
  let s' := if explicit.isEmpty then s else { s with draws := s.draws + 1 }
  match rollExplicit explicit (f.dice.rand_chance s.draws) with
  | some item => (some item, s')
  | none =>
    -- nothing has been selected yet
    let equal := group.EqualChanced.filter (possible f s.loot)
    if equal.isEmpty then (none, s')
    else (equal[f.dice.urand s'.draws 0 (equal.length - 1)]?, { s' with draws := s'.draws + 1 })

def Process (group : LootGroup) (s : Drawn) : Drawn :=
  match group.Roll f s with
  | (none, s) => s
  | (some item, s) => s.AddItem w f item

end LootGroup

namespace LootTemplate

/-- Rolls for every entry, with a bound on the depth of the references. -/
def Process (depth : ℕ) (t : LootTemplate) (groupId : ℕ) (s : Drawn) : Option Drawn :=
  if groupId ≠ 0 then
    match t.group? groupId with
    | none => some s
    | some group => some (group.Process w f s)
  else
    match depth with
    | 0 => none
    | depth + 1 =>
      (t.Entries.foldlM (fun (s : Drawn) (item : TemplateItem) =>
        if item.lootmode &&& f.lootMode = 0 then some s
        else
          let rolled := item.Roll w f s
          if !rolled.1 then some rolled.2
          else if item.mincountOrRef < 0 then
            match w.LootTemplates_Reference.lookup item.ref with
            | none => some rolled.2
            | some Referenced =>
              (List.range (item.repeats w)).foldlM
                (fun s _ => Process depth Referenced item.group s) rolled.2
          else some (rolled.2.AddItem w f item)) s).map fun s =>
      t.Groups.foldl (fun s group => (group.map fun group => group.Process w f s).getD s) s

end LootTemplate

/-! ### What terminates -/

/-- The functions return on every template of a table, whatever is drawn. -/
structure Terminates (store : LootTemplateMap) : Prop where
  hasQuestDrop : ∀ id t groupId, store.lookup id = some t →
    ∃ depth, (t.HasQuestDrop store depth groupId).isSome
  hasQuestDropForPlayer : ∀ player id t groupId, store.lookup id = some t →
    ∃ depth, (t.HasQuestDropForPlayer player store depth groupId).isSome
  process : ∀ f id t groupId s, store.lookup id = some t →
    ∃ depth, (t.Process w f depth groupId s).isSome

/-- A reference to a whole template. -/
def TemplateItem.Plain (item : TemplateItem) : Prop := item.mincountOrRef < 0 ∧ item.group = 0

/-- A reference that may be processed in a mode. -/
structure TemplateItem.Followed (rate : Bool) (lootMode : UInt16) (item : TemplateItem) : Prop where
  plain : item.Plain
  mode : item.lootmode &&& lootMode ≠ 0
  chance : 100 ≤ item.chance ∨ 0 < item.chance * item.factor w rate
  repeats : item.repeats w ≠ 0

def Refers (store : LootTemplateMap) (follows : TemplateItem → Prop) (t u : LootTemplate) : Prop :=
  ∃ item ∈ t.Entries, follows item ∧ store.lookup item.ref = some u

variable {store : LootTemplateMap} {follows : TemplateItem → Prop} {t u : LootTemplate}
  {wanted : TemplateItem → Bool} {depth : ℕ}

lemma Refers.mem_values (t u : LootTemplate) (refers : Refers store follows t u) :
    u ∈ store.entries.map Sigma.snd := by
  obtain ⟨item, -, -, hf⟩ := refers
  exact List.mem_map.mpr ⟨⟨item.ref, u⟩, List.of_mem_dlookup hf, rfl⟩

section Loops

variable {α β : Type} {a : α} {as : List α}

lemma anyM_isSome {p : α → Option Bool} (each : ∀ a ∈ as, (p a).isSome) : (as.anyM p).isSome := by
  induction as with
  | nil => rfl
  | cons a as ih =>
    obtain ⟨hf, here⟩ := Option.isSome_iff_exists.mp (each a (by simp))
    rw [List.anyM, here]
    cases hf with
    | true => rfl
    | false => exact ih fun b hm => each b (by simp [hm])

lemma anyM_eq_none {p : α → Option Bool} (hm : a ∈ as) (asked : p a = none)
    (never : ∀ b ∈ as, p b ≠ some true) : as.anyM p = none := by
  induction as with
  | nil => cases hm
  | cons b as ih =>
    rw [List.anyM]
    cases here : p b with
    | none => rfl
    | some found =>
      cases found with
      | true => exact absurd here (never b (by simp))
      | false =>
        rcases List.mem_cons.mp hm with rfl | hm
        · cases here.symm.trans asked
        · exact ih hm fun c hm => never c (by simp [hm])

lemma anyM_ne_true {p : α → Option Bool} (never : ∀ a ∈ as, p a ≠ some true) :
    as.anyM p ≠ some true := by
  induction as with
  | nil => simp [List.anyM]
  | cons a as ih =>
    rw [List.anyM]
    cases here : p a with
    | none => simp
    | some found =>
      cases found with
      | true => exact absurd here (never a (by simp))
      | false => exact ih fun b hm => never b (by simp [hm])

lemma foldlM_isSome {f : β → α → Option β} (each : ∀ a ∈ as, ∀ s, (f s a).isSome) (s : β) :
    (as.foldlM f s).isSome := by
  induction as generalizing s with
  | nil => rfl
  | cons a as ih =>
    obtain ⟨s', here⟩ := Option.isSome_iff_exists.mp (each a (by simp) s)
    rw [List.foldlM_cons, here]
    exact ih (fun b hm => each b (by simp [hm])) s'

lemma foldlM_eq_none {f : β → α → Option β} (hm : a ∈ as) (asked : ∀ s, f s a = none)
    (s : β) : as.foldlM f s = none := by
  induction as generalizing s with
  | nil => cases hm
  | cons b as ih =>
    rw [List.foldlM_cons]
    rcases List.mem_cons.mp hm with rfl | hm
    · rw [asked]
      rfl
    · cases here : f s b with
      | none => rfl
      | some s' => exact ih hm s'

end Loops

namespace LootTemplate

/-! ### Quest drops -/

lemma isSome_HasDrop_group {groupId : ℕ} (group : groupId ≠ 0) :
    (t.HasDrop wanted store depth groupId).isSome := by
  rw [HasDrop.eq_def, if_pos group]
  rfl

lemma isSome_HasDrop_succ
    (below : ∀ u, Refers store TemplateItem.Plain t u → (u.HasDrop wanted store depth 0).isSome) :
    (t.HasDrop wanted store (depth + 1) 0).isSome := by
  rw [HasDrop.eq_def, if_neg (not_not.mpr rfl)]
  simp only [Option.isSome_map]
  refine anyM_isSome fun item hm => ?_
  split
  next reference =>
    split
    · rfl
    next Referenced hf =>
      by_cases plain : item.group = 0
      · rw [plain]
        exact below Referenced ⟨item, hm, ⟨reference, plain⟩, hf⟩
      · exact isSome_HasDrop_group plain
  · rfl

lemma HasDrop_never (groupId : ℕ) :
    t.HasDrop (fun _ => false) store depth groupId ≠ some true := by
  have group (group : LootGroup) : group.HasDrop (fun _ => false) = false := by
    simp [LootGroup.HasDrop]
  induction depth generalizing t groupId with
  | zero =>
    rw [HasDrop.eq_def]
    split <;> simp [Option.any_eq_true, group]
  | succ depth ih =>
    rw [HasDrop.eq_def]
    split
    · simp [Option.any_eq_true, group]
    · rw [Ne, Option.map_eq_some_iff]
      rintro ⟨hf, asked, drop⟩
      have nowhere : hf = true := by simpa [Option.any_eq_true, group] using drop
      refine anyM_ne_true (fun item _ => ?_) (nowhere ▸ asked)
      split
      · split
        · simp
        · exact ih _
      · simp

lemma HasDrop_succ_eq_none (refers : Refers store TemplateItem.Plain t u)
    (below : u.HasDrop (fun _ => false) store depth 0 = none) :
    t.HasDrop (fun _ => false) store (depth + 1) 0 = none := by
  obtain ⟨item, hm, plain, hf⟩ := refers
  rw [HasDrop.eq_def, if_neg (not_not.mpr rfl), Option.map_eq_none_iff]
  refine anyM_eq_none hm ?_ fun other _ => ?_
  · rw [if_pos plain.1, hf, plain.2]
    exact below
  · split
    · split
      · simp
      · exact HasDrop_never _
    · simp

/-! ### Processing -/

variable {w} {f} {rate : Bool} {lootMode : UInt16} {s : Drawn}

lemma isSome_Process_group {groupId : ℕ} (group : groupId ≠ 0) :
    (t.Process w f depth groupId s).isSome := by
  rw [Process.eq_def, if_pos group]
  split <;> rfl

/-- A chance is only missed or hit by what is drawn, and what is drawn is never negative. -/
lemma chance_of_Roll {item : TemplateItem} (hit : (item.Roll w f s).1 = true) :
    100 ≤ item.chance ∨ 0 < item.chance * item.factor w f.rate := by
  unfold TemplateItem.Roll at hit
  split at hit
  next always => exact .inl always
  next => exact .inr (lt_of_le_of_lt (f.dice.rand_chance_nonneg _) (of_decide_eq_true hit))

lemma isSome_Process_succ (below : ∀ u, Refers w.LootTemplates_Reference
      (TemplateItem.Followed w f.rate f.lootMode) t u → ∀ s, (u.Process w f depth 0 s).isSome)
    (s : Drawn) : (t.Process w f (depth + 1) 0 s).isSome := by
  rw [Process.eq_def, if_neg (not_not.mpr rfl)]
  simp only [Option.isSome_map]
  refine foldlM_isSome (fun item hm s => ?_) s
  split
  · rfl
  next mode =>
    split
    · rfl
    next hit =>
      split
      next reference =>
        split
        · rfl
        next Referenced hf =>
          refine foldlM_isSome (fun turn repeated s => ?_) _
          by_cases group : item.group = 0
          · rw [group]
            refine below Referenced ⟨item, hm, ⟨⟨reference, group⟩, mode, ?_, ?_⟩, hf⟩ s
            · exact chance_of_Roll (by simpa using hit)
            · exact Nat.ne_of_gt (Nat.zero_lt_of_lt (List.mem_range.mp repeated))
          · exact isSome_Process_group group
      · rfl

def luckyDice : Dice where
  rand_chance _ := 0
  urand _ low _ := low
  rand_chance_nonneg _ := le_rfl

lemma Process_succ_eq_none (lucky : f.dice = luckyDice) (refers : Refers
      w.LootTemplates_Reference (TemplateItem.Followed w f.rate f.lootMode) t u)
    (below : ∀ s, u.Process w f depth 0 s = none) (s : Drawn) :
    t.Process w f (depth + 1) 0 s = none := by
  obtain ⟨item, hm, followed, hf⟩ := refers
  rw [Process.eq_def, if_neg (not_not.mpr rfl), Option.map_eq_none_iff]
  refine foldlM_eq_none hm (fun s => ?_) s
  have hit : (item.Roll w f s).1 = true := by
    unfold TemplateItem.Roll
    split
    · rfl
    next rolled =>
      have chance := followed.chance.resolve_left rolled
      simpa [lucky, luckyDice] using chance
  have turn : 0 ∈ List.range (item.repeats w) :=
    List.mem_range.mpr (Nat.pos_of_ne_zero followed.repeats)
  simp only [if_neg followed.mode, hit, Bool.not_true, Bool.false_eq_true, if_false,
    if_pos followed.plain.1, hf]
  refine foldlM_eq_none turn (fun s => ?_) _
  rw [followed.plain.2]
  exact below s

/-! ### The condition -/

/-- No template that is reached by plain references refers to itself. -/
structure Ends (w : LootWorld) (store : LootTemplateMap) : Prop where
  plain : ∀ id t, store.lookup id = some t → Acyclic (Refers store TemplateItem.Plain) t
  followed : ∀ rate lootMode id t, store.lookup id = some t →
    Acyclic (Refers w.LootTemplates_Reference (TemplateItem.Followed w rate lootMode)) t

lemma HasDrop_returns (acyclic : Acyclic (Refers store TemplateItem.Plain) t) (groupId : ℕ) :
    ∃ depth, (t.HasDrop wanted store depth groupId).isSome := by
  by_cases group : groupId = 0
  · obtain ⟨depth, returns⟩ := returns_of_acyclic
      (fun depth (t : LootTemplate) (_ : Unit) => t.HasDrop wanted store depth 0) _
      Refers.mem_values
      (fun depth t below _ => isSome_HasDrop_succ fun u refers => below u refers ()) acyclic
    exact ⟨depth, group ▸ returns depth le_rfl ()⟩
  · exact ⟨0, isSome_HasDrop_group group⟩

lemma Process_returns (acyclic : Acyclic (Refers w.LootTemplates_Reference
      (TemplateItem.Followed w f.rate f.lootMode)) t) (groupId : ℕ) (s : Drawn) :
    ∃ depth, (t.Process w f depth groupId s).isSome := by
  by_cases group : groupId = 0
  · obtain ⟨depth, returns⟩ := returns_of_acyclic
      (fun depth (t : LootTemplate) s => t.Process w f depth 0 s) _ Refers.mem_values
      (fun depth t => isSome_Process_succ) acyclic
    exact ⟨depth, group ▸ returns depth le_rfl s⟩
  · exact ⟨0, isSome_Process_group group⟩

def idlePlayer : Player where
  guid := 0
  IsObjectMeetToConditions _ := true
  HasSkill _ := false
  HasSpell _ := false
  GetTeam := .alliance
  hasQuestStatus _ := false
  HasQuestForItem _ := false
  GetGroup := none
  CanStoreNewItem _ _ := true

lemma HasQuestDropForPlayer_diverges
    (cyclic : ¬Acyclic (Refers store TemplateItem.Plain) t) (depth : ℕ) :
    t.HasQuestDropForPlayer idlePlayer store depth 0 = none :=
  none_of_not_acyclic
    (fun depth (t : LootTemplate) (_ : Unit) => t.HasQuestDropForPlayer idlePlayer store depth 0)
    (fun _ _ => by rw [HasQuestDropForPlayer, HasDrop.eq_def, if_neg (not_not.mpr rfl)])
    (fun _ _ _ refers below _ => HasDrop_succ_eq_none refers (below ())) cyclic depth ()

lemma Process_diverges (lucky : f.dice = luckyDice) (cyclic : ¬Acyclic (Refers
      w.LootTemplates_Reference (TemplateItem.Followed w f.rate f.lootMode)) t) (depth : ℕ)
    (s : Drawn) : t.Process w f depth 0 s = none :=
  none_of_not_acyclic (fun depth (t : LootTemplate) s => t.Process w f depth 0 s)
    (fun _ _ => by rw [Process.eq_def, if_neg (not_not.mpr rfl)])
    (fun _ _ _ refers below => Process_succ_eq_none lucky refers below) cyclic depth s

end LootTemplate

open LootTemplate

/-- The loaded templates can be searched and processed if and only if their plain references do not
come back to a template. -/
theorem terminates_iff_ends (rows : List LootRow) :
    Terminates w (LoadLootTable w.GetItemTemplate rows) ↔
      Ends w (LoadLootTable w.GetItemTemplate rows) := by
  constructor
  · intro terminates
    constructor
    · intro id t found
      by_contra cyclic
      obtain ⟨depth, returns⟩ := terminates.hasQuestDropForPlayer idlePlayer id t 0 found
      simp [HasQuestDropForPlayer_diverges cyclic] at returns
    · intro rate lootMode id t found
      by_contra cyclic
      obtain ⟨depth, returns⟩ := terminates.process ⟨rate, lootMode, 1, luckyDice⟩ id t 0 ⟨{}, 0⟩
        found
      rw [Process_diverges rfl cyclic] at returns
      cases returns
  · intro ends
    constructor
    · exact fun id t groupId found => HasDrop_returns (ends.plain id t found) groupId
    · exact fun player id t groupId found => HasDrop_returns (ends.plain id t found) groupId
    · exact fun f id t groupId s found =>
        Process_returns (ends.followed f.rate f.lootMode id t found) groupId s

def ownRow : LootRow := ⟨1, 1, 100, 1, 0, -1, 1⟩

theorem reference_to_itself_diverges : ¬∀ (w : LootWorld) (rows : List LootRow),
    w.LootTemplates_Reference = LoadLootTable w.GetItemTemplate rows →
      Terminates w (LoadLootTable w.GetItemTemplate rows) := by
  intro all
  have loaded : (LoadLootTable (fun _ => none) [ownRow]).lookup 1 = some ⟨[ownRow.storeItem], []⟩ :=
    by decide +kernel
  have itself : Refers (LoadLootTable (fun _ => none) [ownRow]) TemplateItem.Plain
      ⟨[ownRow.storeItem], []⟩ ⟨[ownRow.storeItem], []⟩ :=
    ⟨ownRow.storeItem, by simp, ⟨by decide, rfl⟩, loaded⟩
  obtain ⟨depth, returns⟩ := (all ⟨fun _ => none, 1, 1, fun _ => 1,
    LoadLootTable (fun _ => none) [ownRow]⟩ [ownRow] rfl).hasQuestDropForPlayer idlePlayer 1 _ 0
      loaded
  rw [HasQuestDropForPlayer_diverges fun acyclic => acyclic _ .refl (.single itself)] at returns
  cases returns

end WorldServer.Looting
