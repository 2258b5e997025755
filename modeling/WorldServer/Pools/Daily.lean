import WorldServer.Pools.GroupSpawn

/-!
# The daily rotation of quests

A visit of one pool rotates the quests of that pool and nothing else, except that it recycles
from the active quests of all pools. What a rotation leaves active is therefore decided by the
limit and by what was active before; the pass visits the pools in the order of their ids.
-/
namespace WorldServer.Pools

def PoolGroup.getFirstEqualChancedObjectId (g : PoolGroup) : UInt32 :=
  match g.equalChanced with
  | [] => 0
  | obj :: _ => obj.guid

namespace PoolMgr

/-- One round of the loop. `isWeekly` knows the quests that exist, and each visit has its own
random numbers. -/
def changeDailyPool (m : PoolMgr) (isWeekly : UInt32 → Option Bool) (rolls : UInt32 → ℕ → Draw)
    (depth : ℕ) (p : UInt32) (w : World) : Option World :=
  match isWeekly (m.groups .quest p).getFirstEqualChancedObjectId with
  | none => some w
  | some true => some w
  -- the trigger 1 only keeps the saved quests from being read
  | some false => m.updatePool depth .quest (m.groups .quest p).poolId 1 { w with draws := rolls p }

def changeDailyUpTo (m : PoolMgr) (isWeekly : UInt32 → Option Bool) (rolls : UInt32 → ℕ → Draw)
    (depth : ℕ) : ℕ → World → Option World
  | 0, w => some w
  | n + 1, w => do
    let w ← changeDailyUpTo m isWeekly rolls depth n w
    m.changeDailyPool isWeekly rolls depth (UInt32.ofNat n) w

def changeDailyQuests (m : PoolMgr) (isWeekly : UInt32 → Option Bool)
    (rolls : UInt32 → ℕ → Draw) (depth : ℕ) (w : World) : Option World :=
  m.changeDailyUpTo isWeekly rolls depth (m.maxPoolId.toNat + 1) w

def quests (m : PoolMgr) (p : UInt32) : Finset UInt32 := (m.groups .quest p).guids.toFinset

def activeQuests (m : PoolMgr) (d : ActivePoolData) (p : UInt32) : Finset UInt32 :=
  m.quests p ∩ d.activeQuests

def quota (m : PoolMgr) (p : UInt32) : ℕ := min (m.maxLimit p).toNat (m.quests p).card

def Filled (m : PoolMgr) (d : ActivePoolData) (p : UInt32) : Prop :=
  d.getActiveObjectCount p = m.quota p ∧ (m.activeQuests d p).card = m.quota p

def Tallied (m : PoolMgr) (d : ActivePoolData) (p : UInt32) : Prop :=
  d.getActiveObjectCount p = (m.activeQuests d p).card

end PoolMgr

/-- A quest is in one pool, the groups know their pool, quests come without a chance, and no
quest has the id zero. -/
structure QuestPools (m : PoolMgr) (isWeekly : UInt32 → Option Bool) : Prop where
  apart : ∀ id p q, id ∈ m.quests p → id ∈ m.quests q → p = q
  inside : ∀ p, (m.quests p).Nonempty → p ≤ m.maxPoolId
  ids : ∀ p, (m.quests p).Nonempty → (m.groups .quest p).poolId = p
  equal : ∀ p, (m.groups .quest p).explicitlyChanced = []
  zero : isWeekly 0 = none

/-! ### One rotation -/

section

variable {m : PoolMgr} {isWeekly : UInt32 → Option Bool} (pools : QuestPools m isWeekly)

include pools

lemma QuestPools.inactiveQuests_eq (p : UInt32) (d : ActivePoolData) :
    (m.groups .quest p).inactiveQuests d = m.quests p \ d.activeQuests := by
  ext id
  rw [PoolGroup.mem_inactiveQuests, Finset.mem_sdiff]
  simp [PoolMgr.quests, PoolGroup.guids, PoolGroup.objects, pools.equal p]

end

lemma PoolMgr.isEmpty_eq_false {m : PoolMgr} {p : UInt32} (some : (m.quests p).Nonempty) :
    (m.groups .quest p).isEmpty = false := by
  by_contra empty
  have guids := PoolGroup.guids_of_isEmpty (by simpa using empty)
  simp [PoolMgr.quests, guids] at some

/-- What the rotation of a pool leaves active: some of its inactive quests and some of the
quests that were active anywhere. -/
structure Rotation (m : PoolMgr) (p : UInt32) (w w' : World) (chosen moved : Finset UInt32) :
    Prop where
  active : w'.spawns.activeQuests = w.spawns.activeQuests \ m.quests p ∪ chosen
  counts : ∀ q, w'.spawns.getActiveObjectCount q =
    if q = p then chosen.card else w.spawns.getActiveObjectCount q
  marked : ∀ q, w.spawns.IsActiveObject .pool q → w'.spawns.IsActiveObject .pool q
  within : moved ⊆ w.spawns.activeQuests
  among : chosen ⊆ m.quests p \ w.spawns.activeQuests ∪ moved
  card : chosen.card = min (PoolGroup.effectiveLimit (m.maxLimit p))
    (m.quests p \ w.spawns.activeQuests ∪ moved).card
  fresh : (m.maxLimit p).toNat ≤ (m.quests p \ w.spawns.activeQuests).card → moved = ∅
  full : (m.quests p \ w.spawns.activeQuests).card < (m.maxLimit p).toNat →
    (m.quests p \ w.spawns.activeQuests ∪ moved).card = min (m.maxLimit p).toNat
      ((m.quests p \ w.spawns.activeQuests).card + w.spawns.activeQuests.card)
  first : (m.quests p \ w.spawns.activeQuests).card < (m.maxLimit p).toNat →
    w.spawns.activeQuests ≠ ∅ → selectRandom w.spawns.activeQuests (w.draws 0).index ∈ moved

section

variable (d : ActivePoolData) (p q : UInt32) (quests : List UInt32)
  (marked : d.IsActiveObject .pool q)
include marked

lemma ActivePoolData.isActiveObject_pool_activateAll :
    (d.activateAll p quests).IsActiveObject .pool q := by
  induction quests generalizing d with
  | nil => exact marked
  | cons quest rest ih =>
    exact ih _ ((d.isActiveObject_activateObject ..).mpr (.inr (.inr marked)))

lemma ActivePoolData.isActiveObject_pool_removeAll :
    (d.removeAll p quests).IsActiveObject .pool q := by
  induction quests generalizing d with
  | nil => exact marked
  | cons quest rest ih =>
    exact ih _ ((d.isActiveObject_removeObject ..).mpr (.inr ⟨by simp, marked⟩))

end

section

variable {m : PoolMgr} {isWeekly : UInt32 → Option Bool} (pools : QuestPools m isWeekly)

include pools

lemma exists_rotation {p : UInt32} (some : (m.quests p).Nonempty) {w : World}
    (tallied : m.Tallied w.spawns p) : ∃ w' chosen moved,
      (m.groups .quest p).rotateQuests (m.maxLimit p) w = .some w' ∧
        Rotation m p w w' chosen moved := by
  obtain ⟨w', removed, chosen, moved, done, nodup, mem, within, fresh, full, first, different,
    among, length, spawns, -⟩ :=
    PoolGroup.rotateQuests_spec (m.groups .quest p) (m.maxLimit p) w
  rw [pools.inactiveQuests_eq] at fresh full first among length
  rw [pools.ids p some] at spawns
  -- the active members are what is removed
  have cleared : removed.toFinset = m.activeQuests w.spawns p := by
    ext id
    rw [List.mem_toFinset, mem, PoolMgr.activeQuests, Finset.mem_inter, PoolMgr.quests,
      List.mem_toFinset]
  have gone : removed.length = w.spawns.getActiveObjectCount p := by
    rw [tallied, ← cleared, List.toFinset_card_of_nodup nodup]
  refine ⟨w', chosen.toFinset, moved, done, ?_, ?_, ?_, within, ?_, ?_, fresh, full, first⟩
  · rw [spawns, ActivePoolData.activeQuests_activateAll, ActivePoolData.activeQuests_removeAll,
      cleared, PoolMgr.activeQuests, Finset.sdiff_inter_self_right]
  · intro q
    rw [spawns, ActivePoolData.count_activateAll, ActivePoolData.count_removeAll]
    split
    next hs =>
      rw [hs, gone, Nat.sub_self, Nat.zero_add, List.toFinset_card_of_nodup different]
    next other => rfl
  · intro q marked
    rw [spawns]
    exact ActivePoolData.isActiveObject_pool_activateAll _ _ _ _
      (ActivePoolData.isActiveObject_pool_removeAll _ _ _ _ marked)
  · intro id chose
    exact among id (List.mem_toFinset.mp chose)
  · rw [List.toFinset_card_of_nodup different, length]

end

/-- A limit of zero finds all quests active, and if there are not enough inactive quests, no
other quest is active. -/
def Rotatable (m : PoolMgr) (d : ActivePoolData) (p : UInt32) : Prop :=
  (m.maxLimit p ≠ 0 ∨ m.quests p ⊆ d.activeQuests) ∧
    ((m.maxLimit p).toNat ≤ (m.quests p \ d.activeQuests).card ∨ d.activeQuests ⊆ m.quests p)

namespace Rotation

variable {m : PoolMgr} {p : UInt32} {w w' : World} {chosen moved : Finset UInt32}
variable (rotation : Rotation m p w w' chosen moved)
include rotation

lemma filled_iff : m.Filled w'.spawns p ↔ chosen.card = m.quota p ∧ chosen ⊆ m.quests p := by
  have active : m.activeQuests w'.spawns p = m.quests p ∩ chosen := by
    rw [PoolMgr.activeQuests, rotation.active, Finset.inter_union_distrib_left,
      Finset.inter_sdiff_self, Finset.empty_union]
  rw [PoolMgr.Filled, rotation.counts, if_pos rfl, active]
  refine and_congr_right fun full => ?_
  rw [← full, ← Finset.inter_eq_right]
  constructor
  · exact fun hs => Finset.eq_of_subset_of_card_le Finset.inter_subset_right hs.ge
  · exact fun hs => by rw [hs]

lemma filled (rotatable : Rotatable m w.spawns p) : m.Filled w'.spawns p := by
  obtain ⟨nonzero, alone⟩ := rotatable
  have members := Finset.card_sdiff_add_card_inter (m.quests p) w.spawns.activeQuests
  rw [rotation.filled_iff]
  by_cases enough : (m.maxLimit p).toNat ≤ (m.quests p \ w.spawns.activeQuests).card
  · -- nothing is recycled
    have card := rotation.card
    have among := rotation.among
    rw [rotation.fresh enough, Finset.union_empty] at card among
    refine ⟨?_, among.trans Finset.sdiff_subset⟩
    rw [card, PoolMgr.quota, PoolGroup.effectiveLimit]
    split
    next zero =>
      have none := nonzero.resolve_left (fun other => other zero)
      rw [Finset.sdiff_eq_empty_iff_subset.mpr none, zero]
      simp
    next => omega
  · have short := Nat.lt_of_not_le enough
    have inside := alone.resolve_left enough
    rw [Finset.inter_eq_right.mpr inside] at members
    refine ⟨?_, rotation.among.trans ?_⟩
    · rw [rotation.card, rotation.full short, PoolMgr.quota, PoolGroup.effectiveLimit]
      split
      next zero => simp [zero] at short
      next => omega
    · exact Finset.union_subset Finset.sdiff_subset (rotation.within.trans inside)

lemma not_filled (short : (m.quests p \ w.spawns.activeQuests).card < (m.maxLimit p).toNat)
    {id : UInt32} (foreign : id ∉ m.quests p) (pick : id ∈ moved) : ¬ m.Filled w'.spawns p := by
  rw [rotation.filled_iff]
  rintro ⟨-, inside⟩
  have all : chosen = m.quests p \ w.spawns.activeQuests ∪ moved := by
    apply Finset.eq_of_subset_of_card_le rotation.among
    have full := rotation.full short
    rw [rotation.card, PoolGroup.effectiveLimit]
    split
    next zero => simp [zero] at short
    next => omega
  rw [all] at inside
  exact foreign (inside (Finset.mem_union_right _ pick))

end Rotation

section

variable {m : PoolMgr} {isWeekly : UInt32 → Option Bool} (pools : QuestPools m isWeekly)

include pools

lemma exists_not_filled {p : UInt32} (some : (m.quests p).Nonempty) {w : World}
    (tallied : m.Tallied w.spawns p) (stuck : ¬ Rotatable m w.spawns p) : ∃ draws w',
      (m.groups .quest p).rotateQuests (m.maxLimit p) { w with draws := draws } = .some w' ∧
        ¬ m.Filled w'.spawns p := by
  by_cases zero : m.maxLimit p = 0 ∧ ¬ m.quests p ⊆ w.spawns.activeQuests
  · -- the limit wraps around and inactive quests are activated
    obtain ⟨w', chosen, moved, done, rotation⟩ := exists_rotation pools some tallied
    refine ⟨w.draws, w', done, fun filled => ?_⟩
    have card := rotation.card
    rw [rotation.fresh (by simp [zero.1]), Finset.union_empty, PoolGroup.effectiveLimit,
      if_pos zero.1, (rotation.filled_iff.mp filled).1, PoolMgr.quota, zero.1] at card
    have positive : 0 < (m.quests p \ w.spawns.activeQuests).card := by
      rw [Finset.card_pos, Finset.sdiff_nonempty]
      exact zero.2
    simp only [UInt32.toNat_zero, Nat.zero_min] at card
    omega
  · have crowded : ¬ ((m.maxLimit p).toNat ≤ (m.quests p \ w.spawns.activeQuests).card ∨
        w.spawns.activeQuests ⊆ m.quests p) := by
      intro alone
      apply stuck
      refine ⟨?_, alone⟩
      by_contra neither
      exact zero ⟨not_not.mp fun nonzero => neither (.inl nonzero),
        fun inside => neither (.inr inside)⟩
    rw [not_or, Nat.not_le, Finset.not_subset] at crowded
    obtain ⟨short, id, active, foreign⟩ := crowded
    obtain ⟨index, pick⟩ := exists_selectRandom active
    obtain ⟨w', chosen, moved, done, rotation⟩ :=
      exists_rotation pools some (w := { w with draws := fun _ => ⟨0, index⟩ }) tallied
    refine ⟨_, w', done, rotation.not_filled short foreign ?_⟩
    have first := rotation.first short (Finset.ne_empty_of_mem active)
    rwa [pick] at first

end

/-! ### One visit -/

structure Kept (m : PoolMgr) (turned : UInt32 → Prop) (w w' : World) : Prop where
  others : ∀ id, (∀ p, turned p → id ∉ m.quests p) →
    (id ∈ w'.spawns.activeQuests ↔ id ∈ w.spawns.activeQuests)
  counts : ∀ q, ¬ turned q →
    w'.spawns.getActiveObjectCount q = w.spawns.getActiveObjectCount q
  marked : ∀ q, w.spawns.IsActiveObject .pool q → w'.spawns.IsActiveObject .pool q

namespace Kept

variable {m : PoolMgr} {turned : UInt32 → Prop} {w w₁ w' : World}

lemma of_spawns_eq (hs : w'.spawns = w.spawns) : Kept m turned w w' := by
  constructor <;> simp [hs]

lemma mono {wider : UInt32 → Prop} (kept : Kept m turned w w') (more : ∀ p, turned p → wider p) :
    Kept m wider w w' where
  others id outside := kept.others id fun p inside => outside p (more p inside)
  counts q outside := kept.counts q fun inside => outside (more q inside)
  marked := kept.marked

lemma trans (first : Kept m turned w w₁) (second : Kept m turned w₁ w') :
    Kept m turned w w' where
  others id outside := (second.others id outside).trans (first.others id outside)
  counts q outside := (second.counts q outside).trans (first.counts q outside)
  marked q active := second.marked q (first.marked q active)

variable {isWeekly : UInt32 → Option Bool} (pools : QuestPools m isWeekly)

include pools

lemma activeQuests_eq (kept : Kept m turned w w') {q : UInt32} (outside : ¬ turned q) :
    m.activeQuests w'.spawns q = m.activeQuests w.spawns q := by
  ext id
  rw [PoolMgr.activeQuests, PoolMgr.activeQuests, Finset.mem_inter, Finset.mem_inter]
  refine and_congr_right fun mem => kept.others id fun p inside mem' => outside ?_
  rwa [pools.apart id q p mem mem']

lemma filled_iff (kept : Kept m turned w w') {q : UInt32} (outside : ¬ turned q) :
    m.Filled w'.spawns q ↔ m.Filled w.spawns q := by
  rw [PoolMgr.Filled, PoolMgr.Filled, kept.counts q outside, kept.activeQuests_eq pools outside]

lemma tallied_iff (kept : Kept m turned w w') {q : UInt32} (outside : ¬ turned q) :
    m.Tallied w'.spawns q ↔ m.Tallied w.spawns q := by
  rw [PoolMgr.Tallied, PoolMgr.Tallied, kept.counts q outside, kept.activeQuests_eq pools outside]

end Kept

lemma Rotation.kept {m : PoolMgr} {p : UInt32} {w w' : World} {chosen moved : Finset UInt32}
    (rotation : Rotation m p w w' chosen moved) : Kept m (· = p) w w' where
  others id outside := by
    have foreign := outside p rfl
    rw [rotation.active, Finset.mem_union, Finset.mem_sdiff]
    constructor
    · rintro (⟨active, -⟩ | chose)
      · exact active
      · rcases Finset.mem_union.mp (rotation.among chose) with fresh | recycled
        · exact absurd (Finset.mem_sdiff.mp fresh).1 foreign
        · exact rotation.within recycled
    · exact fun active => .inl ⟨active, foreign⟩
  counts q other := by rw [rotation.counts, if_neg other]
  marked := rotation.marked

/-- If the pool is a child, its mother has all her children spawned. -/
def Placed (m : PoolMgr) (d : ActivePoolData) (p : UInt32) : Prop :=
  m.isPartOfAPool p ≠ 0 →
    ∀ c ∈ (m.groups .pool (m.isPartOfAPool p)).guids, d.IsActiveObject .pool c

/-- With all members spawned only the trigger can be rolled, and it is only put back. -/
lemma spawnLoop_of_full (g : PoolGroup) (kind : Kind)
    (spawn1Object despawn1Object : UInt32 → World → Option World) (rounds : ℕ)
    (triggerFrom : UInt32) {w : World} (full : ∀ id ∈ g.guids, w.spawns.IsActiveObject kind id) :
    ∃ w', g.spawnLoop kind spawn1Object despawn1Object rounds 0 triggerFrom w = some w' ∧
      w'.spawns = w.spawns := by
  induction rounds generalizing triggerFrom w with
  | zero => exact ⟨w, rfl, rfl⟩
  | succ rounds ih =>
    rw [PoolGroup.spawnLoop]
    simp only [World.draw]
    split
    next => exact ih triggerFrom full
    next obj rolled =>
      obtain ⟨mem, free⟩ := rollOne_mem rolled
      have trigger := free.resolve_right (not_not.mpr (full _ mem))
      split
      next => exact ih triggerFrom full
      next => exact ih 0 full

lemma updatePool_child {m : PoolMgr} {p : UInt32} {w : World} (child : m.isPartOfAPool p ≠ 0)
    (placed : Placed m w.spawns p) (depth : ℕ) (kind : Kind) (triggerFrom : UInt32) :
    ∃ w', m.updatePool depth kind p triggerFrom w = some w' ∧ w'.spawns = w.spawns := by
  simp only [PoolMgr.updatePool, if_pos child, PoolMgr.spawnGroup]
  split
  · exact ⟨w, rfl, rfl⟩
  · exact spawnLoop_of_full _ _ _ _ _ _ (placed child)

lemma updatePool_root {m : PoolMgr} {p : UInt32} (some : (m.quests p).Nonempty)
    (root : m.isPartOfAPool p = 0) (depth : ℕ) (w : World) :
    m.updatePool depth .quest p 1 w = (m.groups .quest p).rotateQuests (m.maxLimit p) w := by
  have trigger : (1 : UInt32) ≠ 0 := by decide
  simp only [PoolMgr.updatePool, root, ne_eq, not_true_eq_false, if_false, PoolMgr.spawnGroup,
    PoolMgr.isEmpty_eq_false some, Bool.false_eq_true, PoolGroup.spawnQuests, if_neg trigger]

/-- A pool that is visited and rotates its own quests. -/
def Turns (m : PoolMgr) (isWeekly : UInt32 → Option Bool) (p : UInt32) : Prop :=
  isWeekly (m.groups .quest p).getFirstEqualChancedObjectId = some false ∧ m.isPartOfAPool p = 0

section

variable {m : PoolMgr} {isWeekly : UInt32 → Option Bool} (pools : QuestPools m isWeekly)

include pools

lemma QuestPools.nonempty {p : UInt32}
    (first : isWeekly (m.groups .quest p).getFirstEqualChancedObjectId ≠ none) :
    (m.quests p).Nonempty := by
  rw [PoolGroup.getFirstEqualChancedObjectId] at first
  split at first
  next => exact absurd pools.zero first
  next obj rest eq =>
    refine ⟨obj.guid, ?_⟩
    simp [PoolMgr.quests, PoolGroup.guids, PoolGroup.objects, eq]

lemma changeDailyPool_turns {rolls : UInt32 → ℕ → Draw} {p : UInt32}
    (turns : Turns m isWeekly p) (depth : ℕ) (w : World) :
    m.changeDailyPool isWeekly rolls depth p w =
      (m.groups .quest p).rotateQuests (m.maxLimit p) { w with draws := rolls p } := by
  have some := pools.nonempty (p := p) (by simp [turns.1])
  simp only [PoolMgr.changeDailyPool, turns.1, pools.ids p some]
  exact updatePool_root some turns.2 depth _

lemma changeDailyPool_spec (rolls : UInt32 → ℕ → Draw) (depth : ℕ) (p : UInt32) {w : World}
    (tallied : Turns m isWeekly p → m.Tallied w.spawns p)
    (placed : (m.quests p).Nonempty → Placed m w.spawns p) :
    ∃ w', m.changeDailyPool isWeekly rolls depth p w = some w' ∧
      Kept m (fun q => q = p ∧ Turns m isWeekly q) w w' ∧
      (Turns m isWeekly p → Rotatable m w.spawns p → m.Filled w'.spawns p) := by
  by_cases turns : Turns m isWeekly p
  · have some := pools.nonempty (p := p) (by simp [turns.1])
    rw [changeDailyPool_turns pools turns]
    obtain ⟨w', chosen, moved, done, rotation⟩ :=
      exists_rotation pools some (w := { w with draws := rolls p }) (tallied turns)
    have kept : Kept m (fun q => q = p ∧ Turns m isWeekly q) { w with draws := rolls p } w' :=
      rotation.kept.mono fun q hs => ⟨hs, hs ▸ turns⟩
    exact ⟨w', done, ⟨kept.others, kept.counts, kept.marked⟩,
      fun _ rotatable => rotation.filled rotatable⟩
  · cases first : isWeekly (m.groups .quest p).getFirstEqualChancedObjectId with
    | none =>
      refine ⟨w, ?_, .of_spawns_eq rfl, fun turns' => absurd turns' turns⟩
      simp only [PoolMgr.changeDailyPool, first]
    | some weekly =>
      cases weekly with
      | true =>
        refine ⟨w, ?_, .of_spawns_eq rfl, fun turns' => absurd turns' turns⟩
        simp only [PoolMgr.changeDailyPool, first]
      | false =>
        have some := pools.nonempty (p := p) (by simp [first])
        have child : m.isPartOfAPool p ≠ 0 := fun root => turns ⟨first, root⟩
        obtain ⟨w', done, hs⟩ := updatePool_child (w := { w with draws := rolls p }) child
          (placed some) depth .quest 1
        refine ⟨w', ?_, .of_spawns_eq hs, fun turns' => absurd turns' turns⟩
        simp only [PoolMgr.changeDailyPool, first, pools.ids p some]
        exact done

end

end WorldServer.Pools
