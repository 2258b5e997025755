import WorldServer.Pools.Quests

/-!
# Counters on a forest of pools

On a forest a call on a pool touches only that pool and the pools below it. `Balanced` says
that every counter is the number of active members: single activations and removals keep it,
and so does despawning a pool with everything below it.
-/
namespace WorldServer.Pools

/-- Every object has at most one pool, the child relation is well founded, and the ids kept in
the groups and in the search map agree with it. -/
structure Forest (m : PoolMgr) : Prop where
  apart : ∀ object p q, object ∈ m.members p → object ∈ m.members q → p = q
  grounded : ∃ rank : UInt32 → ℕ, ∀ p c, (Kind.pool, c) ∈ m.members p → rank c < rank p
  ids : ∀ kind p, (m.groups kind p).isEmpty = false → (m.groups kind p).poolId = p
  mothers : ∀ c p, m.poolSearchMap c = some p ↔ (Kind.pool, c) ∈ m.members p
  equal : ∀ p, (m.groups .quest p).explicitlyChanced = []

namespace PoolMgr

def Child (m : PoolMgr) (p c : UInt32) : Prop := (Kind.pool, c) ∈ m.members p

def Below (m : PoolMgr) : UInt32 → UInt32 → Prop := Relation.ReflTransGen m.Child

end PoolMgr

variable {p id : UInt32} {kind : Kind} {w : World}

namespace Forest

variable {m : PoolMgr} (forest : Forest m)

include forest

lemma not_below_mother {c : UInt32} (child : m.Child p c) : ¬ m.Below c p := by
  obtain ⟨rank, lower⟩ := forest.grounded
  have bound : ∀ q, m.Below c q → rank q ≤ rank c := by
    intro q below
    induction below with
    | refl => exact le_rfl
    | tail _ edge ih => exact (lower _ _ edge).le.trans ih
  intro back
  have up := bound p back
  have down := lower p c child
  omega

lemma not_child_self (p : UInt32) : ¬ m.Child p p := fun child =>
  forest.not_below_mother child .refl

end Forest

lemma not_below_of_child {m : PoolMgr} {c q : UInt32} (child : m.Child p c)
    (outside : ¬ m.Below p q) : ¬ m.Below c q := fun below => outside (.head child below)

/-! ### The balance -/

structure Balanced (m : PoolMgr) (d : ActivePoolData) : Prop where
  counts : ∀ p, d.getActiveObjectCount p = (m.activeMembers d p).card
  owned : ∀ id ∈ d.activeQuests, ∃ q, (Kind.quest, id) ∈ m.members q

def Entered (m : PoolMgr) (d : ActivePoolData) (p : UInt32) : Prop :=
  ∀ q, m.Child q p → d.IsActiveObject .pool p

lemma balanced_empty (m : PoolMgr) : Balanced m {} where
  counts p := by
    have none : m.activeMembers {} p = ∅ := by
      apply Finset.filter_false_of_mem
      rintro ⟨kind, id⟩ _
      cases kind <;> simp [ActivePoolData.IsActiveObject]
    rw [none]
    rfl
  owned := by simp

section

variable {m : PoolMgr} {d : ActivePoolData}

lemma Balanced.count_eq_zero (balanced : Balanced m d) :
    d.getActiveObjectCount p = 0 ↔ m.activeMembers d p = ∅ := by
  rw [balanced.counts p, Finset.card_eq_zero]

lemma Balanced.isActiveObject_pool (balanced : Balanced m d) (mem : (kind, id) ∈ m.members p)
    (active : d.IsActiveObject kind id) : d.IsActiveObject .pool p := by
  apply d.isActiveObject_of_count
  intro zero
  have none := balanced.count_eq_zero.mp zero
  have some := PoolMgr.mem_activeMembers.mpr ⟨mem, active⟩
  rw [none] at some
  simp at some

variable (forest : Forest m)

include forest

lemma Balanced.activateObject (balanced : Balanced m d) (mem : (kind, id) ∈ m.members p)
    (inactive : ¬ d.IsActiveObject kind id) (entered : Entered m d p) :
    Balanced m (d.activateObject kind id p) ∧
      (∀ q, m.activeMembers (d.activateObject kind id p) q =
        if q = p then insert (kind, id) (m.activeMembers d q) else m.activeMembers d q) := by
  have members : ∀ q, m.activeMembers (d.activateObject kind id p) q =
      if q = p then insert (kind, id) (m.activeMembers d q) else m.activeMembers d q := by
    intro q
    ext ⟨kind', id'⟩
    have here : (kind', id') ∈ m.members q → (kind', id') = (.pool, p) →
        d.IsActiveObject kind' id' := by
      rintro mem' hs
      obtain ⟨rfl, rfl⟩ := Prod.mk.inj hs
      exact entered q mem'
    rw [PoolMgr.mem_activeMembers, ActivePoolData.isActiveObject_activateObject]
    split
    next hs =>
      subst hs
      rw [Finset.mem_insert, PoolMgr.mem_activeMembers]
      constructor
      · rintro ⟨mem', root | new | old⟩
        · exact .inr ⟨mem', here mem' root⟩
        · exact .inl new
        · exact .inr ⟨mem', old⟩
      · rintro (new | ⟨mem', old⟩)
        · exact ⟨new ▸ mem, .inr (.inl new)⟩
        · exact ⟨mem', .inr (.inr old)⟩
    next other =>
      rw [PoolMgr.mem_activeMembers]
      constructor
      · rintro ⟨mem', root | new | old⟩
        · exact ⟨mem', here mem' root⟩
        · exact absurd (forest.apart _ q p mem' (new ▸ mem)) other
        · exact ⟨mem', old⟩
      · rintro ⟨mem', old⟩
        exact ⟨mem', .inr (.inr old)⟩
  refine ⟨⟨fun q => ?_, fun quest active => ?_⟩, members⟩
  · rw [members, ActivePoolData.activateObject, ActivePoolData.count_countUp,
      ActivePoolData.count_mark]
    -- a pool that is marked starts from zero, which its counter was before
    have reset : (if (kind, id) = (.pool, q) then 0 else d.getActiveObjectCount q) =
        d.getActiveObjectCount q := by
      split
      next hs =>
        obtain ⟨rfl, rfl⟩ := Prod.mk.inj hs
        exact (d.count_of_inactive _ inactive).symm
      next => rfl
    rw [reset, balanced.counts q]
    split
    next hs =>
      have fresh : (kind, id) ∉ m.activeMembers d q := fun active =>
        inactive (PoolMgr.mem_activeMembers.mp active).2
      rw [Finset.card_insert_of_notMem fresh]
    next => rfl
  · have cases' := (ActivePoolData.isActiveObject_activateObject d kind .quest id quest p).mp active
    rcases cases' with root | new | old
    · cases (Prod.mk.inj root).1
    · exact ⟨p, new ▸ mem⟩
    · exact balanced.owned quest old

lemma Balanced.removeObject (balanced : Balanced m d) (mem : (kind, id) ∈ m.members p)
    (active : d.IsActiveObject kind id) (childless : kind = .pool → m.activeMembers d id = ∅) :
    Balanced m (d.removeObject kind id p) ∧
      (∀ kind' id', (d.removeObject kind id p).IsActiveObject kind' id' ↔
        (kind', id') ≠ (kind, id) ∧ d.IsActiveObject kind' id') := by
  have entry := balanced.isActiveObject_pool mem active
  have notSelf : (Kind.pool, p) ≠ (kind, id) := by
    rintro hs
    rw [← hs] at mem
    exact forest.not_child_self p mem
  have actives : ∀ kind' id', (d.removeObject kind id p).IsActiveObject kind' id' ↔
      (kind', id') ≠ (kind, id) ∧ d.IsActiveObject kind' id' := by
    intro kind' id'
    rw [ActivePoolData.isActiveObject_removeObject]
    constructor
    · rintro (hs | left)
      · obtain ⟨rfl, rfl⟩ := Prod.mk.inj hs
        exact ⟨notSelf, entry⟩
      · exact left
    · exact .inr
  refine ⟨⟨fun q => ?_, fun quest active' => ?_⟩, actives⟩
  · have members : m.activeMembers (d.removeObject kind id p) q =
        (m.activeMembers d q).erase (kind, id) := by
      ext ⟨kind', id'⟩
      rw [PoolMgr.mem_activeMembers, actives, Finset.mem_erase, PoolMgr.mem_activeMembers]
      tauto
    rw [members, ActivePoolData.removeObject, ActivePoolData.count_countDown,
      ActivePoolData.count_unmark]
    have reset : (if (kind, id) = (.pool, q) then 0 else d.getActiveObjectCount q) =
        d.getActiveObjectCount q := by
      split
      next hs =>
        obtain ⟨rfl, rfl⟩ := Prod.mk.inj hs
        exact (balanced.count_eq_zero.mpr (childless rfl)).symm
      next => rfl
    rw [reset, balanced.counts q]
    split
    next hs =>
      subst hs
      rw [Finset.card_erase_of_mem (PoolMgr.mem_activeMembers.mpr ⟨mem, active⟩)]
    next other =>
      rw [Finset.erase_eq_of_notMem]
      intro again
      exact other (forest.apart _ q p (PoolMgr.mem_activeMembers.mp again).1 mem)
  · exact balanced.owned quest ((actives .quest quest).mp active').2

end

/-! ### Despawning -/

structure Despawned (m : PoolMgr) (p : UInt32) (w w' : World) : Prop where
  balanced : Balanced m w'.spawns
  fewer : ∀ kind id, w'.spawns.IsActiveObject kind id → w.spawns.IsActiveObject kind id
  others : ∀ q, ¬ m.Below p q → ∀ kind id, (kind, id) ∈ m.members q →
    w.spawns.IsActiveObject kind id → w'.spawns.IsActiveObject kind id
  answers : w'.answers = w.answers

lemma Despawned.refl {m : PoolMgr} (p : UInt32) (balanced : Balanced m w.spawns) :
    Despawned m p w w :=
  ⟨balanced, fun _ _ active => active, fun _ _ _ _ _ active => active, rfl⟩

lemma Despawned.trans {m : PoolMgr} {w₁ w₂ : World} (first : Despawned m p w w₁)
    (second : Despawned m p w₁ w₂) : Despawned m p w w₂ where
  balanced := second.balanced
  fewer kind id active := first.fewer kind id (second.fewer kind id active)
  others q outside kind id mem active :=
    second.others q outside kind id mem (first.others q outside kind id mem active)
  answers := second.answers.trans first.answers

/-- The members that a call with this kind and guid is to remove. -/
def Selected (kind : Kind) (guid : UInt32) (object : Kind × UInt32) : Prop :=
  object.1 = kind ∧ (guid = 0 ∨ object.2 = guid)

section

variable {m : PoolMgr} (forest : Forest m) {despawn : UInt32 → World → Option World}

def Despawns (m : PoolMgr) (p : UInt32) (despawn : UInt32 → World → Option World) : Prop :=
  ∀ c w w', m.Child p c → Balanced m w.spawns → despawn c w = some w' →
    Despawned m c w w' ∧ m.activeMembers w'.spawns c = ∅

include forest

lemma despawn_one (nested : Despawns m p despawn) {w₁ : World} (balanced : Balanced m w.spawns)
    (mem : (kind, id) ∈ m.members p) (active : w.spawns.IsActiveObject kind id)
    (done : PoolMgr.each despawn kind id w = some w₁) :
    Despawned m p w (w₁.remove kind id p) ∧
      (∀ kind' id', (kind', id') ∈ m.members p → (kind', id') ≠ (kind, id) →
        w.spawns.IsActiveObject kind' id' →
        (w₁.remove kind id p).spawns.IsActiveObject kind' id') ∧
      ¬ (w₁.remove kind id p).spawns.IsActiveObject kind id := by
  -- below the member everything is despawned first
  obtain ⟨balanced₁, childless, fewer, mine, others, answers⟩ : Balanced m w₁.spawns ∧
      (kind = .pool → m.activeMembers w₁.spawns id = ∅) ∧
      (∀ kind' id', w₁.spawns.IsActiveObject kind' id' → w.spawns.IsActiveObject kind' id') ∧
      (∀ kind' id', (kind', id') ∈ m.members p → w.spawns.IsActiveObject kind' id' →
        w₁.spawns.IsActiveObject kind' id') ∧
      (∀ q, ¬ m.Below p q → ∀ kind' id', (kind', id') ∈ m.members q →
        w.spawns.IsActiveObject kind' id' → w₁.spawns.IsActiveObject kind' id') ∧
      w₁.answers = w.answers := by
    cases kind with
    | pool =>
      obtain ⟨despawned, none⟩ := nested id w w₁ mem balanced done
      exact ⟨despawned.balanced, fun _ => none, despawned.fewer,
        despawned.others p (forest.not_below_mother mem),
        fun q outside => despawned.others q (not_below_of_child mem outside), despawned.answers⟩
    | _ =>
      obtain rfl := Option.some.inj done
      exact ⟨balanced, by simp, fun _ _ active => active, fun _ _ _ active => active,
        fun _ _ _ _ _ active => active, rfl⟩
  obtain ⟨balanced₂, actives⟩ :=
    balanced₁.removeObject forest mem (mine kind id mem active) childless
  refine ⟨⟨balanced₂, ?_, ?_, answers⟩, ?_, ?_⟩
  · intro kind' id' active'
    exact fewer kind' id' ((actives kind' id').mp active').2
  · intro q outside kind' id' mem' active'
    refine (actives kind' id').mpr ⟨?_, others q outside kind' id' mem' active'⟩
    intro hs
    exact outside (forest.apart _ p q mem (hs ▸ mem') ▸ .refl)
  · intro kind' id' mem' other active'
    exact (actives kind' id').mpr ⟨other, mine kind' id' mem' active'⟩
  · intro again
    exact ((actives kind id).mp again).1 rfl

variable {w' : World}

lemma despawnEach_spec (nested : Despawns m p despawn) (kind : Kind) (guid : UInt32)
    (objs : List PoolObject) (balanced : Balanced m w.spawns)
    (members : ∀ obj ∈ objs, (kind, obj.guid) ∈ m.members p)
    (done : PoolGroup.despawnEach p kind (PoolMgr.each despawn kind) guid objs w = some w') :
    Despawned m p w w' ∧
      (∀ kind' id', (kind', id') ∈ m.members p → ¬ Selected kind guid (kind', id') →
        w.spawns.IsActiveObject kind' id' → w'.spawns.IsActiveObject kind' id') ∧
      (∀ obj ∈ objs, Selected kind guid (kind, obj.guid) →
        ¬ w'.spawns.IsActiveObject kind obj.guid) := by
  induction objs generalizing w with
  | nil =>
    obtain rfl := Option.some.inj done
    exact ⟨.refl p balanced, fun _ _ _ _ active => active, by simp⟩
  | cons obj rest ih =>
    rw [PoolGroup.despawnEach] at done
    have mem := members obj (by simp)
    have members' : ∀ obj ∈ rest, (kind, obj.guid) ∈ m.members p := fun o h =>
      members o (by simp [h])
    split at done
    next chosen =>
      obtain ⟨w₁, one, done⟩ := Option.bind_eq_some_iff.mp done
      obtain ⟨first, mine, gone⟩ := despawn_one forest nested balanced mem chosen.1 one
      obtain ⟨second, mine', gone'⟩ := ih first.balanced members' done
      refine ⟨first.trans second, ?_, ?_⟩
      · intro kind' id' mem' other active
        refine mine' kind' id' mem' other (mine kind' id' mem' ?_ active)
        intro hs
        obtain ⟨rfl, rfl⟩ := Prod.mk.inj hs
        exact other ⟨rfl, chosen.2⟩
      · intro o hm selected active
        rcases List.mem_cons.mp hm with rfl | hm
        · exact gone (second.fewer kind _ active)
        · exact gone' o hm selected active
    next skipped =>
      obtain ⟨second, mine', gone'⟩ := ih balanced members' done
      refine ⟨second, mine', ?_⟩
      intro o hm selected active
      rcases List.mem_cons.mp hm with rfl | hm
      · exact skipped ⟨second.fewer kind _ active, selected.2⟩
      · exact gone' o hm selected active

lemma despawnObject_spec (nested : Despawns m p despawn) (kind : Kind) (guid : UInt32)
    (balanced : Balanced m w.spawns) (filled : (m.groups kind p).isEmpty = false)
    (done : (m.groups kind p).despawnObject kind (PoolMgr.each despawn kind) guid w = some w') :
    Despawned m p w w' ∧
      (∀ kind' id', (kind', id') ∈ m.members p → ¬ Selected kind guid (kind', id') →
        w.spawns.IsActiveObject kind' id' → w'.spawns.IsActiveObject kind' id') ∧
      (∀ id, (kind, id) ∈ m.members p → Selected kind guid (kind, id) →
        ¬ w'.spawns.IsActiveObject kind id) := by
  rw [PoolGroup.despawnObject, forest.ids kind p filled] at done
  obtain ⟨despawned, mine, gone⟩ := despawnEach_spec forest nested kind guid _ balanced
    (fun obj mem => PoolMgr.mem_members.mpr (List.mem_map_of_mem mem)) done
  refine ⟨despawned, mine, fun id mem selected => ?_⟩
  obtain ⟨obj, hm, rfl⟩ := List.mem_map.mp (PoolMgr.mem_members.mp mem)
  exact gone obj hm selected

lemma despawnGroup_spec (nested : Despawns m p despawn) (kind : Kind)
    (balanced : Balanced m w.spawns) (done : m.despawnGroup despawn kind p w = some w') :
    Despawned m p w w' ∧ ∀ id, (kind, id) ∈ m.members p → ¬ w'.spawns.IsActiveObject kind id := by
  rw [PoolMgr.despawnGroup] at done
  split at done
  next empty =>
    obtain rfl := Option.some.inj done
    refine ⟨.refl p balanced, fun id mem => ?_⟩
    rw [PoolMgr.mem_members, PoolGroup.guids_of_isEmpty empty] at mem
    simp at mem
  next filled =>
    obtain ⟨despawned, -, gone⟩ :=
      despawnObject_spec forest nested kind 0 balanced (by simpa using filled) done
    exact ⟨despawned, fun id mem => gone id mem ⟨rfl, .inl rfl⟩⟩

lemma despawnPool_spec (depth : ℕ) (p : UInt32) (balanced : Balanced m w.spawns)
    (done : m.despawnPool depth p w = some w') :
    Despawned m p w w' ∧ m.activeMembers w'.spawns p = ∅ := by
  induction depth generalizing p w w' with
  | zero => simp [PoolMgr.despawnPool] at done
  | succ depth ih =>
    have nested : Despawns m p (m.despawnPool depth) := fun c w w' _ bal call => ih c bal call
    obtain ⟨w₁, creatures, done⟩ := Option.bind_eq_some_iff.mp done
    obtain ⟨w₂, gameobjects, done⟩ := Option.bind_eq_some_iff.mp done
    obtain ⟨w₃, pools, quests⟩ := Option.bind_eq_some_iff.mp done
    obtain ⟨first, none₁⟩ := despawnGroup_spec forest nested .creature balanced creatures
    obtain ⟨second, none₂⟩ := despawnGroup_spec forest nested .gameobject first.balanced gameobjects
    obtain ⟨third, none₃⟩ := despawnGroup_spec forest nested .pool second.balanced pools
    obtain ⟨fourth, none₄⟩ := despawnGroup_spec forest nested .quest third.balanced quests
    refine ⟨((first.trans second).trans third).trans fourth, ?_⟩
    apply Finset.eq_empty_of_forall_notMem
    rintro ⟨kind, id⟩ still
    obtain ⟨mem, active⟩ := PoolMgr.mem_activeMembers.mp still
    cases kind with
    | creature =>
      exact none₁ id mem (second.fewer _ _ (third.fewer _ _ (fourth.fewer _ _ active)))
    | gameobject => exact none₂ id mem (third.fewer _ _ (fourth.fewer _ _ active))
    | pool => exact none₃ id mem (fourth.fewer _ _ active)
    | quest => exact none₄ id mem active

end

end WorldServer.Pools
