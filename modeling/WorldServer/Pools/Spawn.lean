import WorldServer.Pools.State

/-!
# Spawning and despawning

Random numbers and the answers of the database come from outside: a call takes the next ones
off two streams. Calls recurse from a pool into its child pools; `none` is a recursion that
did not end within the given depth.
-/
namespace WorldServer.Pools

/-- One roll: `rand_chance()` and a number to take a remainder of. -/
structure Draw where
  chance : ℚ
  index : ℕ

structure World where
  spawns : ActivePoolData
  draws : ℕ → Draw
  /-- What a query for the saved quests of a pool returns. -/
  answers : ℕ → UInt32 → List UInt32

namespace World

def draw (w : World) : Draw × World :=
  (w.draws 0, { w with draws := fun n => w.draws (n + 1) })

def query (w : World) (poolId : UInt32) : List UInt32 × World :=
  (w.answers 0 poolId, { w with answers := fun n => w.answers (n + 1) })

def activate (w : World) (kind : Kind) (id poolId : UInt32) : World :=
  { w with spawns := w.spawns.activateObject kind id poolId }

def remove (w : World) (kind : Kind) (id poolId : UInt32) : World :=
  { w with spawns := w.spawns.removeObject kind id poolId }

end World

/-- `SelectRandomContainerElement`, on a set in the order of its elements. -/
def selectRandom (s : Finset UInt32) (index : ℕ) : UInt32 :=
  (s.sort (· ≤ ·)).getD (index % s.card) 0

namespace PoolGroup

/-! ### One group -/

def rollExplicit (free : PoolObject → Bool) : ℚ → List PoolObject → Option PoolObject
  | _, [] => none
  | roll, obj :: rest =>
    if roll - obj.chance < 0 ∧ free obj then some obj
    else rollExplicit free (roll - obj.chance) rest

def rollEqual (free : PoolObject → Bool) (index : ℕ) (objs : List PoolObject) :
    Option PoolObject :=
  (objs[index % objs.length]?).filter free

/-- The triggering object is still marked as spawned and can be rolled all the same. -/
def rollOne (g : PoolGroup) (kind : Kind) (spawns : ActivePoolData) (triggerFrom : UInt32)
    (draw : Draw) : Option PoolObject :=
  let free := fun obj : PoolObject =>
    decide (obj.guid = triggerFrom ∨ ¬ spawns.IsActiveObject kind obj.guid)
  rollExplicit free draw.chance g.explicitlyChanced <|> rollEqual free draw.index g.equalChanced

def despawnEach (poolId : UInt32) (kind : Kind)
    (despawn1Object : UInt32 → World → Option World) (guid : UInt32) :
    List PoolObject → World → Option World
  | [], w => some w
  | obj :: rest, w =>
    if w.spawns.IsActiveObject kind obj.guid ∧ (guid = 0 ∨ obj.guid = guid) then do
      let w ← despawn1Object obj.guid w
      despawnEach poolId kind despawn1Object guid rest (w.remove kind obj.guid poolId)
    else despawnEach poolId kind despawn1Object guid rest w

def despawnObject (g : PoolGroup) (kind : Kind) (despawn1Object : UInt32 → World → Option World)
    (guid : UInt32) (w : World) : Option World :=
  despawnEach g.poolId kind despawn1Object guid g.objects w

def spawnLoop (g : PoolGroup) (kind : Kind)
    (spawn1Object despawn1Object : UInt32 → World → Option World) :
    ℕ → UInt32 → UInt32 → World → Option World
  | 0, _, _, w => some w
  | rounds + 1, lastDespawned, triggerFrom, w =>
    let (draw, w) := w.draw
    match g.rollOne kind w.spawns triggerFrom draw with
    | none => spawnLoop g kind spawn1Object despawn1Object rounds lastDespawned triggerFrom w
    | some obj =>
      if obj.guid = lastDespawned then
        spawnLoop g kind spawn1Object despawn1Object rounds lastDespawned triggerFrom w
      else if obj.guid = triggerFrom then
        -- the respawn only puts the object back on its map
        spawnLoop g kind spawn1Object despawn1Object rounds lastDespawned 0 w
      else do
        let w ← spawn1Object obj.guid (w.activate kind obj.guid g.poolId)
        if triggerFrom ≠ 0 then
          let w ← g.despawnObject kind despawn1Object triggerFrom w
          spawnLoop g kind spawn1Object despawn1Object rounds triggerFrom 0 w
        else
          spawnLoop g kind spawn1Object despawn1Object rounds lastDespawned triggerFrom w

/-- The difference of two unsigned words is taken as an `int`. -/
def rounds (limit : UInt32) (active : ℕ) (triggerFrom : UInt32) : ℕ :=
  ((limit - UInt32.ofNat active).toInt32.toInt + if triggerFrom ≠ 0 then 1 else 0).toNat

def spawnObject (g : PoolGroup) (kind : Kind)
    (spawn1Object despawn1Object : UInt32 → World → Option World) (limit triggerFrom : UInt32)
    (w : World) : Option World :=
  g.spawnLoop kind spawn1Object despawn1Object
    (rounds limit (w.spawns.getActiveObjectCount g.poolId) triggerFrom) 0 triggerFrom w

/-! ### Quests -/

/-- The saved quests are activated until the limit has gone down to zero. -/
def restoreQuests (poolId : UInt32) : List UInt32 → UInt32 → World → World
  | [], _, w => w
  | quest :: rest, limit, w =>
    let w := w.activate .quest quest poolId
    if limit - 1 = 0 then w else restoreQuests poolId rest (limit - 1) w

/-- Quests are moved from the active ones to the new ones. A round for each active quest is
enough. -/
def recycle (limit : UInt32) : ℕ → Finset UInt32 → Finset UInt32 → World →
    Finset UInt32 × World
  | 0, _, newQuests, w => (newQuests, w)
  | fuel + 1, currentQuests, newQuests, w =>
    let (draw, w) := w.draw
    let quest := selectRandom currentQuests draw.index
    let newQuests := insert quest newQuests
    let currentQuests := currentQuests.erase quest
    if newQuests.card < limit.toNat ∧ currentQuests ≠ ∅
    then recycle limit fuel currentQuests newQuests w
    else (newQuests, w)

/-- Random new quests are activated until the limit has gone down to zero. A round for each
new quest is enough. -/
def activateQuests (poolId : UInt32) : ℕ → Finset UInt32 → UInt32 → World → World
  | 0, _, _, w => w
  | fuel + 1, newQuests, limit, w =>
    let (draw, w) := w.draw
    let quest := selectRandom newQuests draw.index
    let w := w.activate .quest quest poolId
    let newQuests := newQuests.erase quest
    if limit - 1 ≠ 0 ∧ newQuests ≠ ∅ then activateQuests poolId fuel newQuests (limit - 1) w
    else w

def inactiveQuests (g : PoolGroup) (d : ActivePoolData) : Finset UInt32 :=
  ((g.equalChanced.map PoolObject.guid).toFinset).filter fun id => ¬ d.IsActiveObject .quest id

/-- Different quests are preferred, then the active ones are recycled, of whatever pool. -/
def rotateQuests (g : PoolGroup) (limit : UInt32) (w : World) : Option World := do
  let currentQuests := w.spawns.activeQuests
  let newQuests := g.inactiveQuests w.spawns
  let w ← g.despawnObject .quest (fun _ w => some w) 0 w
  let (newQuests, w) :=
    if limit.toNat > newQuests.card ∧ currentQuests ≠ ∅
    then recycle limit currentQuests.card currentQuests newQuests w
    else (newQuests, w)
  if newQuests = ∅ then return w
  return activateQuests g.poolId newQuests.card newQuests limit w

/-- `SpawnObject` of the quests. What is saved afterwards only comes back as an answer. -/
def spawnQuests (g : PoolGroup) (limit triggerFrom : UInt32) (w : World) : Option World :=
  if triggerFrom = 0 then
    let (rows, w) := w.query g.poolId
    if rows ≠ [] then some (restoreQuests g.poolId rows limit w) else g.rotateQuests limit w
  else g.rotateQuests limit w

end PoolGroup

namespace PoolMgr

/-! ### The pools together -/

def each (pool : UInt32 → World → Option World) : Kind → UInt32 → World → Option World
  | .pool => pool
  | _ => fun _ w => some w

def despawnGroup (m : PoolMgr) (despawn : UInt32 → World → Option World) (kind : Kind)
    (poolId : UInt32) (w : World) : Option World :=
  if (m.groups kind poolId).isEmpty then some w
  else (m.groups kind poolId).despawnObject kind (each despawn kind) 0 w

def despawnPool (m : PoolMgr) : ℕ → UInt32 → World → Option World
  | 0, _, _ => none
  | depth + 1, poolId, w => do
    let w ← m.despawnGroup (m.despawnPool depth) .creature poolId w
    let w ← m.despawnGroup (m.despawnPool depth) .gameobject poolId w
    let w ← m.despawnGroup (m.despawnPool depth) .pool poolId w
    m.despawnGroup (m.despawnPool depth) .quest poolId w

def spawnGroup (m : PoolMgr) (spawn despawn : UInt32 → World → Option World) (kind : Kind)
    (poolId triggerFrom : UInt32) (w : World) : Option World :=
  if (m.groups kind poolId).isEmpty then some w
  else match kind with
    | .quest => (m.groups .quest poolId).spawnQuests (m.maxLimit poolId) triggerFrom w
    | kind => (m.groups kind poolId).spawnObject kind (each spawn kind) (each despawn kind)
        (m.maxLimit poolId) triggerFrom w

def spawnPool (m : PoolMgr) : ℕ → UInt32 → World → Option World
  | 0, _, _ => none
  | depth + 1, poolId, w => do
    let w ← m.spawnGroup (m.spawnPool depth) (m.despawnPool depth) .pool poolId 0 w
    let w ← m.spawnGroup (m.spawnPool depth) (m.despawnPool depth) .gameobject poolId 0 w
    let w ← m.spawnGroup (m.spawnPool depth) (m.despawnPool depth) .creature poolId 0 w
    m.spawnGroup (m.spawnPool depth) (m.despawnPool depth) .quest poolId 0 w

def updatePool (m : PoolMgr) (depth : ℕ) (kind : Kind) (poolId triggerFrom : UInt32) (w : World) :
    Option World :=
  let motherPoolId := m.isPartOfAPool poolId
  if motherPoolId ≠ 0 then
    m.spawnGroup (m.spawnPool depth) (m.despawnPool depth) .pool motherPoolId poolId w
  else m.spawnGroup (m.spawnPool depth) (m.despawnPool depth) kind poolId triggerFrom w

end PoolMgr

end WorldServer.Pools
