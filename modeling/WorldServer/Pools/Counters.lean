import WorldServer.Pools.GroupSpawn

/-!
# The counters in every run

A server starts with nothing spawned and then spawns, despawns and updates pools. `Permitted`
says what a call has to meet; in a run of permitted calls every counter is the number of
active members and stays below its limit.
-/
namespace WorldServer.Pools

def Counted (m : PoolMgr) (d : ActivePoolData) : Prop :=
  ∀ p, d.getActiveObjectCount p = (m.activeMembers d p).card ∧
    d.getActiveObjectCount p ≤ (m.maxLimit p).toNat

/-! ### Calls -/

inductive Call where
  | spawnPool (poolId : UInt32)
  | despawnPool (poolId : UInt32)
  | updatePool (kind : Kind) (poolId triggerFrom : UInt32)

def PoolMgr.perform (m : PoolMgr) (depth : ℕ) : Call → World → Option World
  | .spawnPool poolId => m.spawnPool depth poolId
  | .despawnPool poolId => m.despawnPool depth poolId
  | .updatePool kind poolId triggerFrom => m.updatePool depth kind poolId triggerFrom

/-- A pool that is spawned itself: its quests find room, are not restored on top of active
ones, and if they are not restored at all, none is recycled from another pool. -/
def QuestsAt (m : PoolMgr) (w : World) (p : UInt32) : Prop :=
  HasQuests m p → QuestsFit m p ∧
    (NoActiveQuests m w.spawns p ∨ ∀ n, w.answers n p = []) ∧
    ((m.maxLimit p).toNat ≤ ((m.groups .quest p).inactiveQuests w.spawns).card ∨
      OnlyQuestPool m p ∨ ∀ n, w.answers n p ≠ [])

def GroupPermitted (m : PoolMgr) (w : World) (kind : Kind) (p triggerFrom : UInt32) : Prop :=
  Entered m w.spawns p ∧ (kind ≠ .quest → Replaceable m p kind triggerFrom w.spawns) ∧
    (kind = .quest → QuestsAlone m w p triggerFrom) ∧ (kind = .pool → QuestsUnder m w p)

/-- A pool that is a child is spawned only while it is marked as spawned, a trigger is an
active member, and the quests that are spawned find room and stay with their pool. -/
def Permitted (m : PoolMgr) (w : World) : Call → Prop
  | .spawnPool p =>
    Answered m w ∧ Entered m w.spawns p ∧ QuestsAt m w p ∧ QuestsUnder m w p
  | .despawnPool _ => True
  | .updatePool kind p triggerFrom =>
    Answered m w ∧
      if m.isPartOfAPool p ≠ 0 then GroupPermitted m w .pool (m.isPartOfAPool p) p
      else GroupPermitted m w kind p triggerFrom

/-- The states that permitted calls lead to. -/
inductive Reached (m : PoolMgr) : ActivePoolData → Prop
  | start : Reached m {}
  | call {w w' : World} {call : Call} {depth : ℕ} (before : Reached m w.spawns)
      (permitted : Permitted m w call) (done : m.perform depth call w = some w') :
      Reached m w'.spawns

/-! ### One call -/

section

variable {m : PoolMgr} (forest : Forest m)

include forest

variable {p : UInt32} {w w' : World}

lemma spawnGroup_spec {spawn despawn : UInt32 → World → Option World} (nested : Spawns m p spawn)
    (nested' : Despawns m p despawn) (kind : Kind) (triggerFrom : UInt32) (ready : Ready m p kind w)
    (trigger : kind ≠ .quest → Replaceable m p kind triggerFrom w.spawns)
    (quests : kind = .quest → QuestsAlone m w p triggerFrom)
    (done : m.spawnGroup spawn despawn kind p triggerFrom w = some w') :
    Spawned m p w w' ∧ (∀ q, m.Below p q → Bounded m w'.spawns q) ∧
      (kind ≠ .quest → ∀ id, (Kind.quest, id) ∈ m.members p →
        (id ∈ w'.spawns.activeQuests ↔ id ∈ w.spawns.activeQuests)) := by
  by_cases empty : (m.groups kind p).isEmpty
  · have nothing : m.spawnGroup spawn despawn kind p triggerFrom w = some w := by
      cases kind <;> simp only [PoolMgr.spawnGroup, if_pos empty]
    obtain rfl := Option.some.inj (nothing.symm.trans done)
    exact ⟨.refl p ready.balanced, ready.bounded, fun _ _ _ => Iff.rfl⟩
  · have filled : (m.groups kind p).isEmpty = false := by simpa using empty
    have leaf : kind ≠ .quest → GroupSpawned m p kind w w' →
        Spawned m p w w' ∧ (∀ q, m.Below p q → Bounded m w'.spawns q) ∧
          (kind ≠ .quest → ∀ id, (Kind.quest, id) ∈ m.members p →
            (id ∈ w'.spawns.activeQuests ↔ id ∈ w.spawns.activeQuests)) := fun other group =>
      ⟨group.spawned, group.bounded, fun _ id mem => group.mine .quest id other.symm mem⟩
    cases kind with
    | quest =>
      simp only [PoolMgr.spawnGroup, if_neg empty] at done
      obtain ⟨spawned, bounded⟩ :=
        spawnQuests_spec forest filled triggerFrom ready (quests rfl) done
      exact ⟨spawned, bounded, fun other => absurd rfl other⟩
    | _ =>
      simp only [PoolMgr.spawnGroup, if_neg empty] at done
      exact leaf (by simp) (spawnObject_spec forest nested nested' _ filled triggerFrom ready
        (trigger (by simp)) done)

lemma QuestsAt.alone (at' : QuestsAt m w p) (spawned : Spawned m p w w')
    (mine : ∀ id, (Kind.quest, id) ∈ m.members p →
      (id ∈ w'.spawns.activeQuests ↔ id ∈ w.spawns.activeQuests)) : QuestsAlone m w' p 0 := by
  intro some
  obtain ⟨fit, unsaved, enough⟩ := at' some
  obtain ⟨k, shifted⟩ := spawned.shifted
  have inactive : (m.groups .quest p).inactiveQuests w'.spawns =
      (m.groups .quest p).inactiveQuests w.spawns := by
    ext id
    rw [PoolGroup.mem_inactiveQuests, PoolGroup.mem_inactiveQuests]
    refine and_congr_right fun here => not_congr (mine id (PoolMgr.mem_members.mpr ?_))
    simpa [PoolGroup.guids, PoolGroup.objects, forest.equal p] using here
  refine ⟨fit, ?_⟩
  split
  next restored =>
    rcases unsaved with none | empty
    · exact fun id mem active => none id mem ((mine id mem).mp active)
    · exact absurd ((shifted 0 ▸ empty (0 + k) : w'.answers 0 p = [])) restored.2
  next fresh =>
    rw [inactive]
    rcases enough with enough | only | saved
    · exact .inl enough
    · right
      intro id active
      obtain ⟨q, mem⟩ := spawned.balanced.owned id active
      by_contra other
      refine only q (fun hs => other (hs ▸ mem)) ⟨id, mem⟩
    · exact absurd ⟨rfl, shifted 0 ▸ saved (0 + k)⟩ fresh

lemma spawns_of_depth {depth : ℕ}
    (shallower : ∀ (c : UInt32) {w w' : World}, Ready m c .pool w → QuestsAt m w c →
      m.spawnPool depth c w = some w' →
      Spawned m c w w' ∧ ∀ q, m.Below c q → Bounded m w'.spawns q) :
    Spawns m p (m.spawnPool depth) := by
  intro c w w' child balanced entered none bounded answered below call
  have inactiveMember : ∀ id, (Kind.quest, id) ∈ m.members c → id ∉ w.spawns.activeQuests := by
    intro id mem active
    have still := PoolMgr.mem_activeMembers.mpr ⟨mem, active⟩
    rw [none] at still
    simp at still
  have inactive : (m.groups .quest c).inactiveQuests w.spawns =
      (m.groups .quest c).inactiveQuests {} := by
    ext id
    rw [PoolGroup.mem_inactiveQuests, PoolGroup.mem_inactiveQuests]
    refine and_congr_right fun here => iff_of_true (inactiveMember id ?_) (by simp)
    refine PoolMgr.mem_members.mpr ?_
    simpa [PoolGroup.guids, PoolGroup.objects, forest.equal c] using here
  have at' : QuestsAt m w c := by
    intro some
    obtain ⟨fit, enough⟩ := below c .refl some
    exact ⟨fit, .inl inactiveMember, by rwa [inactive]⟩
  exact shallower c ⟨balanced, entered, bounded, answered,
    fun _ d child' q below' => below q (.head child' below')⟩ at' call

lemma spawnPool_spec (depth : ℕ) (p : UInt32) (ready : Ready m p .pool w)
    (quests : QuestsAt m w p) (done : m.spawnPool depth p w = some w') :
    Spawned m p w w' ∧ ∀ q, m.Below p q → Bounded m w'.spawns q := by
  induction depth generalizing p w w' with
  | zero => simp [PoolMgr.spawnPool] at done
  | succ depth ih =>
    have nested' : Despawns m p (m.despawnPool depth) := fun c w w' _ bal call =>
      despawnPool_spec forest depth c bal call
    have nested : Spawns m p (m.spawnPool depth) :=
      spawns_of_depth forest fun c _ _ ready' quests' call => ih c ready' quests' call
    have leaf : ∀ {kind : Kind} {w : World}, kind ≠ .pool → Ready m p .pool w →
        Ready m p kind w := fun other ready =>
      ⟨ready.balanced, ready.entered, ready.bounded, ready.answered, fun hs => absurd hs other⟩
    obtain ⟨w₁, pools, done⟩ := Option.bind_eq_some_iff.mp done
    obtain ⟨w₂, gameobjects, done⟩ := Option.bind_eq_some_iff.mp done
    obtain ⟨w₃, creatures, done⟩ := Option.bind_eq_some_iff.mp done
    obtain ⟨first, bounded₁, hs₁⟩ := spawnGroup_spec forest nested nested' .pool 0 ready
      (fun _ => .inl rfl) (by simp) pools
    have ready₁ := ready.next forest first bounded₁
    obtain ⟨second, bounded₂, hs₂⟩ := spawnGroup_spec forest nested nested' .gameobject 0
      (leaf (by simp) ready₁) (fun _ => .inl rfl) (by simp) gameobjects
    have ready₂ := ready₁.next forest second bounded₂
    obtain ⟨third, bounded₃, hs₃⟩ := spawnGroup_spec forest nested nested' .creature 0
      (leaf (by simp) ready₂) (fun _ => .inl rfl) (by simp) creatures
    have ready₃ := ready₂.next forest third bounded₃
    have three := (first.trans second).trans third
    have hs : ∀ id, (Kind.quest, id) ∈ m.members p →
        (id ∈ w₃.spawns.activeQuests ↔ id ∈ w.spawns.activeQuests) := fun id mem =>
      (hs₃ (by simp) id mem).trans ((hs₂ (by simp) id mem).trans (hs₁ (by simp) id mem))
    obtain ⟨fourth, bounded₄, -⟩ := spawnGroup_spec forest nested nested' .quest 0
      (leaf (by simp) ready₃) (by simp) (fun _ => quests.alone forest three hs) done
    exact ⟨three.trans fourth, bounded₄⟩

lemma updateGroup_spec (depth : ℕ) (kind : Kind) (p triggerFrom : UInt32)
    (balanced : Balanced m w.spawns) (bounded : ∀ q, Bounded m w.spawns q) (answered : Answered m w)
    (permitted : GroupPermitted m w kind p triggerFrom)
    (done : m.spawnGroup (m.spawnPool depth) (m.despawnPool depth) kind p triggerFrom w =
      some w') : Spawned m p w w' ∧ ∀ q, m.Below p q → Bounded m w'.spawns q := by
  obtain ⟨entered, trigger, quests, under⟩ := permitted
  have nested' : Despawns m p (m.despawnPool depth) := fun c w w' _ bal call =>
    despawnPool_spec forest depth c bal call
  have nested : Spawns m p (m.spawnPool depth) :=
    spawns_of_depth forest fun c _ _ ready quests' call =>
      spawnPool_spec forest depth c ready quests' call
  obtain ⟨spawned, below, -⟩ := spawnGroup_spec forest nested nested' kind triggerFrom
    ⟨balanced, entered, fun q _ => bounded q, answered, under⟩ trigger quests done
  exact ⟨spawned, below⟩

lemma perform_spec {depth : ℕ} {call : Call} (balanced : Balanced m w.spawns)
    (bounded : ∀ q, Bounded m w.spawns q) (permitted : Permitted m w call)
    (done : m.perform depth call w = some w') :
    Balanced m w'.spawns ∧ ∀ q, Bounded m w'.spawns q := by
  -- pools that are not below keep their counters
  have everywhere : ∀ p, Spawned m p w w' ∧ (∀ q, m.Below p q → Bounded m w'.spawns q) →
      Balanced m w'.spawns ∧ ∀ q, Bounded m w'.spawns q := by
    rintro p ⟨spawned, below⟩
    refine ⟨spawned.balanced, fun q => ?_⟩
    by_cases inside : m.Below p q
    · exact below q inside
    · rw [Bounded, spawned.count balanced inside]
      exact bounded q
  cases call with
  | spawnPool p =>
    obtain ⟨answered, entered, quests, under⟩ := permitted
    exact everywhere p (spawnPool_spec forest depth p
      ⟨balanced, entered, fun q _ => bounded q, answered, fun _ => under⟩ quests done)
  | despawnPool p =>
    obtain ⟨despawned, -⟩ := despawnPool_spec forest depth p balanced done
    exact ⟨despawned.balanced, fun q => (despawned.count_le balanced q).trans (bounded q)⟩
  | updatePool kind p triggerFrom =>
    obtain ⟨answered, permitted⟩ := permitted
    simp only [PoolMgr.perform, PoolMgr.updatePool] at done
    split at permitted
    next mother =>
      rw [if_pos mother] at done
      exact everywhere _ (updateGroup_spec forest depth .pool _ p balanced bounded answered
        permitted done)
    next root =>
      rw [if_neg root] at done
      exact everywhere p (updateGroup_spec forest depth kind p triggerFrom balanced bounded
        answered permitted done)

/-- In a run of permitted calls the counters are right in every state. -/
theorem counted_of_reached {d : ActivePoolData} (reached : Reached m d) : Counted m d := by
  have kept : Balanced m d ∧ ∀ p, Bounded m d p := by
    induction reached with
    | start => exact ⟨balanced_empty m, fun p => Nat.zero_le _⟩
    | call before permitted done ih => exact perform_spec forest ih.1 ih.2 permitted done
  exact fun p => ⟨kept.1.counts p, kept.2 p⟩

end

/-! ### Single pools -/

def singlePool (limit : UInt32) (creatures quests : List PoolObject) : PoolMgr where
  maxPoolId := 1
  maxLimit := fun _ => limit
  groups := fun kind p =>
    if p = 1 then
      match kind with
      | .creature => { poolId := 1, equalChanced := creatures }
      | .quest => { poolId := 1, equalChanced := quests }
      | _ => {}
    else {}
  poolSearchMap := fun _ => none

lemma singlePool_forest (limit : UInt32) (creatures quests : List PoolObject) :
    Forest (singlePool limit creatures quests) := by
  have here : ∀ kind p id, (kind, id) ∈ (singlePool limit creatures quests).members p →
      p = 1 ∧ kind ≠ .pool := by
    intro kind p id mem
    rw [PoolMgr.mem_members] at mem
    by_cases one : p = 1
    · refine ⟨one, ?_⟩
      rintro rfl
      simp [singlePool, one, PoolGroup.guids, PoolGroup.objects] at mem
    · simp [singlePool, one, PoolGroup.guids, PoolGroup.objects] at mem
  constructor
  · rintro ⟨kind, id⟩ p q left right
    rw [(here kind p id left).1, (here kind q id right).1]
  · exact ⟨fun _ => 0, fun p c mem => absurd rfl (here .pool p c mem).2⟩
  · intro kind p filled
    by_cases one : p = 1
    · cases kind <;> simp [singlePool, one, PoolGroup.isEmpty] at filled ⊢
    · simp [singlePool, one, PoolGroup.isEmpty] at filled
  · intro c p
    refine iff_of_false (by simp [singlePool]) fun mem => (here .pool p c mem).2 rfl
  · intro p
    by_cases one : p = 1 <;> simp [singlePool, one]

/-- A server that starts, with the same roll each time and the same saved quests. -/
def started (saved : List UInt32) : World where
  spawns := {}
  draws := fun _ => ⟨0, 0⟩
  answers := fun _ p => if p = 1 then saved else []

def crowdedPool : PoolMgr := singlePool 1 [⟨10, 0⟩] [⟨20, 0⟩]

/-- The quest is activated beside the creature. -/
theorem crowdedPool_overfull : Forest crowdedPool ∧
    ∃ w, crowdedPool.perform 1 (.spawnPool 1) (started [20]) = some w ∧
      w.spawns.getActiveObjectCount 1 = 2 ∧ ¬ Counted crowdedPool w.spawns := by
  refine ⟨singlePool_forest 1 _ _, _, rfl, rfl, fun counted => ?_⟩
  have limit := (counted 1).2
  exact absurd limit (by decide)

/-- A pool of two pools, one of creatures and one of quests. -/
def nestedPools : PoolMgr where
  maxPoolId := 3
  maxLimit := fun _ => 1
  groups := fun kind p =>
    if kind = .pool ∧ p = 1 then { poolId := 1, equalChanced := [⟨2, 0⟩, ⟨3, 0⟩] }
    else if kind = .creature ∧ p = 2 then { poolId := 2, equalChanced := [⟨10, 0⟩, ⟨11, 0⟩] }
    else if kind = .quest ∧ p = 3 then { poolId := 3, equalChanced := [⟨20, 0⟩, ⟨21, 0⟩] }
    else {}
  poolSearchMap := fun p => if p = 2 ∨ p = 3 then some 1 else none

lemma mem_nestedPools {kind : Kind} {p id : UInt32} : (kind, id) ∈ nestedPools.members p ↔
    kind = .pool ∧ p = 1 ∧ (id = 2 ∨ id = 3) ∨ kind = .creature ∧ p = 2 ∧ (id = 10 ∨ id = 11) ∨
      kind = .quest ∧ p = 3 ∧ (id = 20 ∨ id = 21) := by
  rw [PoolMgr.mem_members, nestedPools]
  dsimp only
  split_ifs with pools creatures quests
  · simp [pools, PoolGroup.guids, PoolGroup.objects]
  · simp [creatures, PoolGroup.guids, PoolGroup.objects]
  · simp [quests, PoolGroup.guids, PoolGroup.objects]
  · simp [PoolGroup.guids, PoolGroup.objects]
    tauto

lemma nestedPools_forest : Forest nestedPools := by
  constructor
  · rintro ⟨kind, id⟩ p q left right
    rw [mem_nestedPools] at left right
    rcases left with ⟨rfl, rfl, -⟩ | ⟨rfl, rfl, -⟩ | ⟨rfl, rfl, -⟩ <;> simp at right <;>
      exact right.1.symm
  · refine ⟨fun p => if p = 1 then 1 else 0, fun p c mem => ?_⟩
    rw [mem_nestedPools] at mem
    simp only [reduceCtorEq, false_and, or_false, true_and] at mem
    rcases mem with ⟨rfl, rfl | rfl⟩ <;> decide
  · intro kind p filled
    unfold nestedPools at filled ⊢
    dsimp only at filled ⊢
    split_ifs at filled ⊢ with pools creatures quests
    · exact pools.2.symm
    · exact creatures.2.symm
    · exact quests.2.symm
    · cases filled
  · intro c p
    rw [mem_nestedPools, nestedPools]
    simp only [reduceCtorEq, false_and, or_false, true_and]
    split_ifs with mother
    · simp [mother, eq_comm]
    · simp [mother]
  · intro p
    unfold nestedPools
    dsimp only
    split_ifs <;> rfl

lemma nestedPools_quests (w : World) : QuestsUnder nestedPools w 1 := by
  rintro c - q - ⟨id, quest⟩
  rw [mem_nestedPools] at quest
  simp only [reduceCtorEq, false_and, false_or, true_and] at quest
  obtain ⟨rfl, -⟩ := quest
  refine ⟨.inr ⟨by decide, ?_⟩, .inl (by decide)⟩
  rintro ⟨kind, id⟩ mem
  rw [mem_nestedPools] at mem
  simp at mem
  exact mem.1

/-- The pool of creatures is spawned, and then the pool of quests in its place. -/
theorem counted_of_reached_nestedPools :
    ∃ w w', nestedPools.perform 3 (.spawnPool 1) (started []) = some w ∧
      nestedPools.perform 3 (.updatePool .creature 2 10) { w with draws := fun _ => ⟨0, 1⟩ } =
        some w' ∧
      w.spawns.spawnedCreatures = {10} ∧ w'.spawns.activeQuests.card = 1 ∧
      w'.spawns.spawnedCreatures = ∅ ∧ Counted nestedPools w'.spawns := by
  have answered : ∀ w : World, w.answers = (started []).answers → Answered nestedPools w := by
    intro w none n p
    simp [none, started]
  have motherless : ∀ q, ¬ nestedPools.Child q 1 := by
    intro q child
    rw [PoolMgr.Child, mem_nestedPools] at child
    simp at child
  have questless : ¬ HasQuests nestedPools 1 := by
    rintro ⟨id, quest⟩
    rw [mem_nestedPools] at quest
    simp at quest
  obtain ⟨w, w', done, done', creature, quest, none, active⟩ : ∃ w w',
      nestedPools.perform 3 (.spawnPool 1) (started []) = some w ∧
      nestedPools.perform 3 (.updatePool .creature 2 10) { w with draws := fun _ => ⟨0, 1⟩ } =
        some w' ∧
      w.spawns.spawnedCreatures = {10} ∧
      (w'.spawns.activeQuests.card = 1 ∧ w'.spawns.spawnedCreatures = ∅) ∧
      w.answers = (started []).answers ∧ (Kind.pool, 2) ∈ nestedPools.activeMembers w.spawns 1 :=
    ⟨_, _, rfl, rfl, rfl, by decide, rfl, by decide⟩
  have permitted : Permitted nestedPools (started []) (.spawnPool 1) :=
    ⟨answered _ rfl, fun q child => absurd child (motherless q), fun some => absurd some questless,
      nestedPools_quests _⟩
  have permitted' : Permitted nestedPools { w with draws := fun _ => ⟨0, 1⟩ }
      (.updatePool .creature 2 10) := by
    refine ⟨answered _ none, ?_⟩
    rw [if_pos (by decide)]
    exact ⟨fun q child => absurd child (motherless q), fun _ => .inr (.inr active),
      fun quests => absurd quests (by decide), fun _ => nestedPools_quests _⟩
  have first : Reached nestedPools w.spawns := .call .start permitted done
  have second : Reached nestedPools w'.spawns :=
    .call (w := { w with draws := fun _ => ⟨0, 1⟩ }) first permitted' done'
  exact ⟨w, w', done, done', creature, quest.1, quest.2,
    counted_of_reached nestedPools_forest second⟩

end WorldServer.Pools
