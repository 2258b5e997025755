import Mathlib.Data.Finset.Sort
import Mathlib.Algebra.Order.Ring.Rat

/-!
# Pools

A pool has members of four kinds, one kind being pools again. What is spawned is kept in
one set a kind, except that a pool is spawned while it has an entry in the map of counters.
The sets are shared by all pools.
-/
namespace WorldServer.Pools

inductive Kind where
  | creature | gameobject | pool | quest
deriving DecidableEq, Repr

structure PoolObject where
  guid : UInt32
  chance : ℚ
deriving DecidableEq, Repr

/-! ### What is spawned -/

structure ActivePoolData where
  spawnedCreatures : Finset UInt32 := ∅
  spawnedGameobjects : Finset UInt32 := ∅
  activeQuests : Finset UInt32 := ∅
  spawnedPools : UInt32 → Option ℕ := fun _ => none

namespace ActivePoolData

def getActiveObjectCount (d : ActivePoolData) (poolId : UInt32) : ℕ :=
  (d.spawnedPools poolId).getD 0

def IsActiveObject (d : ActivePoolData) : Kind → UInt32 → Prop
  | .creature, guid => guid ∈ d.spawnedCreatures
  | .gameobject, guid => guid ∈ d.spawnedGameobjects
  | .pool, id => d.spawnedPools id ≠ none
  | .quest, id => id ∈ d.activeQuests

instance (d : ActivePoolData) : ∀ kind id, Decidable (d.IsActiveObject kind id)
  | .creature, guid => inferInstanceAs (Decidable (guid ∈ d.spawnedCreatures))
  | .gameobject, guid => inferInstanceAs (Decidable (guid ∈ d.spawnedGameobjects))
  | .pool, id => inferInstanceAs (Decidable (d.spawnedPools id ≠ none))
  | .quest, id => inferInstanceAs (Decidable (id ∈ d.activeQuests))

/-- `++mSpawnedPools[pool_id]`, which makes the entry if there is none. -/
def countUp (d : ActivePoolData) (poolId : UInt32) : ActivePoolData :=
  { d with
    spawnedPools := Function.update d.spawnedPools poolId (some (d.getActiveObjectCount poolId + 1)) }

def countDown (d : ActivePoolData) (poolId : UInt32) : ActivePoolData :=
  { d with
    spawnedPools := Function.update d.spawnedPools poolId (some (d.getActiveObjectCount poolId - 1)) }

def mark (d : ActivePoolData) : Kind → UInt32 → ActivePoolData
  | .creature, guid => { d with spawnedCreatures := insert guid d.spawnedCreatures }
  | .gameobject, guid => { d with spawnedGameobjects := insert guid d.spawnedGameobjects }
  | .pool, id => { d with spawnedPools := Function.update d.spawnedPools id (some 0) }
  | .quest, id => { d with activeQuests := insert id d.activeQuests }

def unmark (d : ActivePoolData) : Kind → UInt32 → ActivePoolData
  | .creature, guid => { d with spawnedCreatures := d.spawnedCreatures.erase guid }
  | .gameobject, guid => { d with spawnedGameobjects := d.spawnedGameobjects.erase guid }
  | .pool, id => { d with spawnedPools := Function.update d.spawnedPools id none }
  | .quest, id => { d with activeQuests := d.activeQuests.erase id }

def activateObject (d : ActivePoolData) (kind : Kind) (id poolId : UInt32) : ActivePoolData :=
  (d.mark kind id).countUp poolId

def removeObject (d : ActivePoolData) (kind : Kind) (id poolId : UInt32) : ActivePoolData :=
  (d.unmark kind id).countDown poolId

/-! What the operations do to the sets and to the counters. -/

variable (d : ActivePoolData) (kind kind' : Kind) (id id' poolId : UInt32)

lemma isActiveObject_mark : (d.mark kind id).IsActiveObject kind' id' ↔
    (kind', id') = (kind, id) ∨ d.IsActiveObject kind' id' := by
  cases kind <;> cases kind' <;> simp [mark, IsActiveObject, Function.update_apply]
  split <;> simp_all

lemma isActiveObject_unmark : (d.unmark kind id).IsActiveObject kind' id' ↔
    (kind', id') ≠ (kind, id) ∧ d.IsActiveObject kind' id' := by
  cases kind <;> cases kind' <;> simp [unmark, IsActiveObject, Function.update_apply]

lemma isActiveObject_countUp : (d.countUp poolId).IsActiveObject kind' id' ↔
    (kind', id') = (.pool, poolId) ∨ d.IsActiveObject kind' id' := by
  cases kind' <;> simp [countUp, IsActiveObject, Function.update_apply]
  split <;> simp_all

lemma isActiveObject_countDown : (d.countDown poolId).IsActiveObject kind' id' ↔
    (kind', id') = (.pool, poolId) ∨ d.IsActiveObject kind' id' := by
  cases kind' <;> simp [countDown, IsActiveObject, Function.update_apply]
  split <;> simp_all

lemma isActiveObject_activateObject : (d.activateObject kind id poolId).IsActiveObject kind' id' ↔
    (kind', id') = (.pool, poolId) ∨ (kind', id') = (kind, id) ∨ d.IsActiveObject kind' id' := by
  rw [activateObject, isActiveObject_countUp, isActiveObject_mark]

lemma isActiveObject_removeObject : (d.removeObject kind id poolId).IsActiveObject kind' id' ↔
    (kind', id') = (.pool, poolId) ∨ (kind', id') ≠ (kind, id) ∧ d.IsActiveObject kind' id' := by
  rw [removeObject, isActiveObject_countDown, isActiveObject_unmark]

lemma count_mark : (d.mark kind id).getActiveObjectCount id' =
    if (kind, id) = (.pool, id') then 0 else d.getActiveObjectCount id' := by
  cases kind <;> simp [mark, getActiveObjectCount, Function.update_apply, eq_comm]
  split <;> simp_all

lemma count_unmark : (d.unmark kind id).getActiveObjectCount id' =
    if (kind, id) = (.pool, id') then 0 else d.getActiveObjectCount id' := by
  cases kind <;> simp [unmark, getActiveObjectCount, Function.update_apply, eq_comm]
  split <;> simp_all

lemma count_countUp : (d.countUp poolId).getActiveObjectCount id' =
    if id' = poolId then d.getActiveObjectCount id' + 1 else d.getActiveObjectCount id' := by
  simp only [countUp, getActiveObjectCount, Function.update_apply]
  split <;> simp_all

lemma count_countDown : (d.countDown poolId).getActiveObjectCount id' =
    if id' = poolId then d.getActiveObjectCount id' - 1 else d.getActiveObjectCount id' := by
  simp only [countDown, getActiveObjectCount, Function.update_apply]
  split <;> simp_all

lemma isActiveObject_of_count (positive : d.getActiveObjectCount id ≠ 0) :
    d.IsActiveObject .pool id := by
  intro entry
  simp [getActiveObjectCount, entry] at positive

lemma count_of_inactive (inactive : ¬ d.IsActiveObject .pool id) :
    d.getActiveObjectCount id = 0 := by
  by_contra positive
  exact inactive (d.isActiveObject_of_count id positive)

end ActivePoolData

/-! ### The pools -/

/-- The members of one kind of one pool. -/
structure PoolGroup where
  poolId : UInt32 := 0
  explicitlyChanced : List PoolObject := []
  equalChanced : List PoolObject := []

namespace PoolGroup

def isEmpty (g : PoolGroup) : Bool := g.explicitlyChanced.isEmpty && g.equalChanced.isEmpty

def addEntry (g : PoolGroup) (poolitem : PoolObject) (maxentries : UInt32) : PoolGroup :=
  if poolitem.chance ≠ 0 ∧ maxentries = 1
  then { g with explicitlyChanced := g.explicitlyChanced ++ [poolitem] }
  else { g with equalChanced := g.equalChanced ++ [poolitem] }

def objects (g : PoolGroup) : List PoolObject := g.equalChanced ++ g.explicitlyChanced

def guids (g : PoolGroup) : List UInt32 := g.objects.map PoolObject.guid

lemma guids_of_isEmpty {g : PoolGroup} (empty : g.isEmpty) : g.guids = [] := by
  simp only [isEmpty, Bool.and_eq_true, List.isEmpty_iff] at empty
  simp [guids, objects, empty]

end PoolGroup

structure PoolMgr where
  maxPoolId : UInt32
  maxLimit : UInt32 → UInt32
  groups : Kind → UInt32 → PoolGroup
  /-- From a child pool to its mother. -/
  poolSearchMap : UInt32 → Option UInt32

namespace PoolMgr

def isPartOfAPool (m : PoolMgr) (poolId : UInt32) : UInt32 := (m.poolSearchMap poolId).getD 0

def members (m : PoolMgr) (poolId : UInt32) : Finset (Kind × UInt32) :=
  ([.creature, .gameobject, .pool, .quest].flatMap fun kind =>
    (m.groups kind poolId).guids.map fun guid => (kind, guid)).toFinset

lemma mem_members {m : PoolMgr} {poolId : UInt32} {kind : Kind} {guid : UInt32} :
    (kind, guid) ∈ m.members poolId ↔ guid ∈ (m.groups kind poolId).guids := by
  cases kind <;> simp [members]

def activeMembers (m : PoolMgr) (d : ActivePoolData) (poolId : UInt32) : Finset (Kind × UInt32) :=
  (m.members poolId).filter fun object => d.IsActiveObject object.1 object.2

lemma mem_activeMembers {m : PoolMgr} {d : ActivePoolData} {poolId : UInt32} {kind : Kind}
    {guid : UInt32} : (kind, guid) ∈ m.activeMembers d poolId ↔
      (kind, guid) ∈ m.members poolId ∧ d.IsActiveObject kind guid := by
  simp [activeMembers]

end PoolMgr

end WorldServer.Pools
