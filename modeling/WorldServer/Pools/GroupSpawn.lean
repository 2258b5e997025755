import WorldServer.Lib.Word
import WorldServer.Pools.Forest

/-!
# Spawning one group of a pool

`SpawnObject` keeps the counters balanced and below the limits when its pool is marked, when
its trigger is an active member, and when the quests it spawns find room and stay with their
pool. The recursion into child pools appears as a hypothesis.
-/
namespace WorldServer.Pools

/-! ### Conditions -/

def Roomy (m : PoolMgr) (p : UInt32) : Prop := (m.members p).card ≤ (m.maxLimit p).toNat

def HasQuests (m : PoolMgr) (p : UInt32) : Prop := ∃ id, (Kind.quest, id) ∈ m.members p

/-- The limit also holds for quests beside what else is spawned, and is not zero. -/
def QuestsFit (m : PoolMgr) (p : UInt32) : Prop :=
  Roomy m p ∨ (m.maxLimit p ≠ 0 ∧ ∀ object ∈ m.members p, object.1 = .quest)

def OnlyQuestPool (m : PoolMgr) (p : UInt32) : Prop := ∀ q, q ≠ p → ¬ HasQuests m q

def NoActiveQuests (m : PoolMgr) (d : ActivePoolData) (p : UInt32) : Prop :=
  ∀ id, (Kind.quest, id) ∈ m.members p → id ∉ d.activeQuests

/-- What the database answers are different members. -/
def Answered (m : PoolMgr) (w : World) : Prop :=
  ∀ n p, (w.answers n p).Nodup ∧ ∀ id ∈ w.answers n p, (Kind.quest, id) ∈ m.members p

/-- A pool below the one that is called: if its quests are not restored, there are enough of
them, so that none is recycled from another pool. -/
def QuestsBelow (m : PoolMgr) (w : World) (p : UInt32) : Prop :=
  HasQuests m p → QuestsFit m p ∧
    ((m.maxLimit p).toNat ≤ ((m.groups .quest p).inactiveQuests {}).card ∨ OnlyQuestPool m p ∨
      ∀ n, w.answers n p ≠ [])

def QuestsAlone (m : PoolMgr) (w : World) (p triggerFrom : UInt32) : Prop :=
  HasQuests m p → QuestsFit m p ∧
    if triggerFrom = 0 ∧ w.answers 0 p ≠ [] then NoActiveQuests m w.spawns p
    else (m.maxLimit p).toNat ≤ ((m.groups .quest p).inactiveQuests w.spawns).card ∨
      ∀ id ∈ w.spawns.activeQuests, (Kind.quest, id) ∈ m.members p

/-! ### Spawning -/

structure Spawned (m : PoolMgr) (p : UInt32) (w w' : World) : Prop where
  balanced : Balanced m w'.spawns
  others : ∀ q, ¬ m.Below p q → ∀ kind id, (kind, id) ∈ m.members q →
    (w'.spawns.IsActiveObject kind id ↔ w.spawns.IsActiveObject kind id)
  shifted : ∃ k, ∀ n, w'.answers n = w.answers (n + k)

lemma Spawned.refl {m : PoolMgr} (p : UInt32) {w : World} (balanced : Balanced m w.spawns) :
    Spawned m p w w :=
  ⟨balanced, fun _ _ _ _ _ => Iff.rfl, 0, fun _ => rfl⟩

variable {w₁ w₂ : World} {d : ActivePoolData}

lemma Spawned.trans {m : PoolMgr} {p : UInt32} {w : World} (first : Spawned m p w w₁)
    (second : Spawned m p w₁ w₂) : Spawned m p w w₂ where
  balanced := second.balanced
  others q outside kind id mem :=
    (second.others q outside kind id mem).trans (first.others q outside kind id mem)
  shifted := by
    obtain ⟨k, hs⟩ := first.shifted
    obtain ⟨k', hs'⟩ := second.shifted
    exact ⟨k' + k, fun n => by rw [hs', hs, Nat.add_assoc]⟩

lemma Despawned.spawned {m : PoolMgr} {p : UInt32} {w w' : World} (done : Despawned m p w w') :
    Spawned m p w w' where
  balanced := done.balanced
  others q outside kind id mem :=
    ⟨done.fewer kind id, done.others q outside kind id mem⟩
  shifted := ⟨0, fun n => congrFun done.answers n⟩

section

variable {m : PoolMgr} {p : UInt32} {w w' : World}

lemma Spawned.answered (spawned : Spawned m p w w') (answered : Answered m w) :
    Answered m w' := by
  obtain ⟨k, hs⟩ := spawned.shifted
  intro n q
  rw [hs]
  exact answered (n + k) q

lemma Spawned.questsBelow (spawned : Spawned m p w w') {q : UInt32}
    (ready : QuestsBelow m w q) : QuestsBelow m w' q := by
  obtain ⟨k, hs⟩ := spawned.shifted
  intro some
  obtain ⟨fit, enough | only | restored⟩ := ready some
  · exact ⟨fit, .inl enough⟩
  · exact ⟨fit, .inr (.inl only)⟩
  · exact ⟨fit, .inr (.inr fun n => by rw [hs]; exact restored (n + k))⟩

lemma Spawned.count (spawned : Spawned m p w w') (balanced : Balanced m w.spawns) {q : UInt32}
    (outside : ¬ m.Below p q) :
    w'.spawns.getActiveObjectCount q = w.spawns.getActiveObjectCount q := by
  rw [spawned.balanced.counts, balanced.counts]
  congr 1
  ext ⟨kind, id⟩
  rw [PoolMgr.mem_activeMembers, PoolMgr.mem_activeMembers]
  exact and_congr_right fun mem => spawned.others q outside kind id mem

lemma Despawned.count_le (done : Despawned m p w w') (balanced : Balanced m w.spawns)
    (q : UInt32) : w'.spawns.getActiveObjectCount q ≤ w.spawns.getActiveObjectCount q := by
  rw [done.balanced.counts, balanced.counts]
  apply Finset.card_le_card
  rintro ⟨kind, id⟩ mem
  obtain ⟨mem, active⟩ := PoolMgr.mem_activeMembers.mp mem
  exact PoolMgr.mem_activeMembers.mpr ⟨mem, done.fewer kind id active⟩

lemma Roomy.count_le (roomy : Roomy m p) (balanced : Balanced m d) :
    d.getActiveObjectCount p ≤ (m.maxLimit p).toNat := by
  rw [balanced.counts]
  exact (Finset.card_le_card (Finset.filter_subset _ _)).trans roomy

lemma Entered.of_spawned (forest : Forest m) (entered : Entered m w.spawns p)
    (spawned : Spawned m p w w') : Entered m w'.spawns p := fun q child =>
  (spawned.others q (forest.not_below_mother child) .pool p child).mpr (entered q child)

end

def Bounded (m : PoolMgr) (d : ActivePoolData) (p : UInt32) : Prop :=
  d.getActiveObjectCount p ≤ (m.maxLimit p).toNat

/-- The recursion into a child pool that was just marked spawns it. -/
def Spawns (m : PoolMgr) (p : UInt32) (spawn : UInt32 → World → Option World) : Prop :=
  ∀ c w w', m.Child p c → Balanced m w.spawns → Entered m w.spawns c →
    m.activeMembers w.spawns c = ∅ → (∀ q, m.Below c q → Bounded m w.spawns q) → Answered m w →
    (∀ q, m.Below c q → QuestsBelow m w q) → spawn c w = some w' →
    Spawned m c w w' ∧ ∀ q, m.Below c q → Bounded m w'.spawns q

/-- The same of all pools strictly below. -/
def QuestsUnder (m : PoolMgr) (w : World) (p : UInt32) : Prop :=
  ∀ c, m.Child p c → ∀ q, m.Below c q → QuestsBelow m w q

/-- The state in which a group of the pool is spawned. Only child pools recurse. -/
structure Ready (m : PoolMgr) (p : UInt32) (kind : Kind) (w : World) : Prop where
  balanced : Balanced m w.spawns
  entered : Entered m w.spawns p
  bounded : ∀ q, m.Below p q → Bounded m w.spawns q
  answered : Answered m w
  quests : kind = .pool → QuestsUnder m w p

section

variable {m : PoolMgr} (forest : Forest m) {spawn despawn : UInt32 → World → Option World}

include forest

variable {kind : Kind} {id : UInt32} {quests : List UInt32}

lemma spawn_one {p : UInt32} (nested : Spawns m p spawn) {w : World} (ready : Ready m p kind w)
    (mem : (kind, id) ∈ m.members p) (inactive : ¬ w.spawns.IsActiveObject kind id)
    (done : PoolMgr.each spawn kind id (w.activate kind id p) = some w₁) :
    Spawned m p w w₁ ∧
      m.activeMembers w₁.spawns p = insert (kind, id) (m.activeMembers w.spawns p) ∧
      ∀ q, q ≠ p → m.Below p q → Bounded m w₁.spawns q := by
  obtain ⟨balanced, members⟩ := ready.balanced.activateObject forest mem inactive ready.entered
  have others : ∀ q, ¬ m.Below p q → ∀ kind' id', (kind', id') ∈ m.members q →
      ((w.activate kind id p).spawns.IsActiveObject kind' id' ↔
        w.spawns.IsActiveObject kind' id') := by
    intro q outside kind' id' mem'
    have other : q ≠ p := fun hs => outside (hs ▸ .refl)
    have hs := members q
    rw [if_neg other] at hs
    have here := congrArg (fun s => (kind', id') ∈ s) hs
    simp only [PoolMgr.mem_activeMembers, mem', true_and] at here
    exact iff_of_eq here
  have mine := members p
  rw [if_pos rfl] at mine
  have bounded : ∀ q, q ≠ p → m.Below p q → Bounded m (w.activate kind id p).spawns q := by
    intro q other below
    have hs := members q
    rw [if_neg other] at hs
    rw [Bounded, World.activate, balanced.counts, hs, ← ready.balanced.counts]
    exact ready.bounded q below
  have first : Spawned m p w (w.activate kind id p) := ⟨balanced, others, 0, fun _ => rfl⟩
  cases kind with
  | pool =>
    -- the recursion starts from a child that is marked and has nothing active
    have child : m.Child p id := mem
    have up := forest.not_below_mother child
    have other : id ≠ p := fun hs => up (hs ▸ .refl)
    have none : m.activeMembers w.spawns id = ∅ :=
      ready.balanced.count_eq_zero.mp (w.spawns.count_of_inactive id inactive)
    have empty : m.activeMembers (w.activate .pool id p).spawns id = ∅ := by
      have hs := members id
      rw [if_neg other, none] at hs
      exact hs
    have marked : Entered m (w.activate .pool id p).spawns id := fun _ _ =>
      (ActivePoolData.isActiveObject_activateObject w.spawns .pool .pool id id p).mpr
        (.inr (.inl rfl))
    obtain ⟨second, bounded'⟩ := nested id _ w₁ child balanced marked empty
      (fun q below => bounded q (fun hs => up (hs ▸ below)) (.head child below))
      ready.answered (ready.quests rfl id child) done
    have second' : Spawned m p (w.activate .pool id p) w₁ :=
      ⟨second.balanced, fun q outside => second.others q (not_below_of_child child outside),
        second.shifted⟩
    refine ⟨first.trans second', ?_, ?_⟩
    · refine Eq.trans ?_ mine
      ext ⟨kind', id'⟩
      rw [PoolMgr.mem_activeMembers, PoolMgr.mem_activeMembers]
      exact and_congr_right fun mem' => second.others p up kind' id' mem'
    · intro q other' below
      by_cases inside : m.Below id q
      · exact bounded' q inside
      · rw [Bounded, second.count balanced inside]
        exact bounded q other' below
  | _ =>
    obtain rfl := Option.some.inj done
    exact ⟨first, mine, bounded⟩

omit forest in
lemma rollOne_mem {g : PoolGroup} {triggerFrom : UInt32} {draw : Draw} {obj : PoolObject}
    (rolled : g.rollOne kind d triggerFrom draw = some obj) :
    obj.guid ∈ g.guids ∧ (obj.guid = triggerFrom ∨ ¬ d.IsActiveObject kind obj.guid) := by
  have explicit : ∀ (free : PoolObject → Bool) (roll : ℚ) (objs : List PoolObject),
      PoolGroup.rollExplicit free roll objs = some obj → obj ∈ objs ∧ free obj := by
    intro free roll objs hf
    induction objs generalizing roll with
    | nil => simp [PoolGroup.rollExplicit] at hf
    | cons first rest ih =>
      rw [PoolGroup.rollExplicit] at hf
      split at hf
      next hit =>
        obtain rfl := Option.some.inj hf
        exact ⟨by simp, hit.2⟩
      next passed =>
        obtain ⟨mem, isFree⟩ := ih _ hf
        exact ⟨by simp [mem], isFree⟩
  have equal : ∀ (free : PoolObject → Bool) (objs : List PoolObject),
      PoolGroup.rollEqual free draw.index objs = some obj → obj ∈ objs ∧ free obj := by
    intro free objs hf
    obtain ⟨here, isFree⟩ := Option.filter_eq_some_iff.mp hf
    exact ⟨List.mem_of_getElem? here, isFree⟩
  have hm : obj ∈ g.objects ∧ (obj.guid = triggerFrom ∨ ¬ d.IsActiveObject kind obj.guid) := by
    rcases (Option.orElse_eq_some _ _ _).mp rolled with hf | ⟨-, hf⟩
    · obtain ⟨mem, isFree⟩ := explicit _ _ _ hf
      exact ⟨List.mem_append_right _ mem, of_decide_eq_true isFree⟩
    · obtain ⟨mem, isFree⟩ := equal _ _ hf
      exact ⟨List.mem_append_left _ mem, of_decide_eq_true isFree⟩
  exact ⟨List.mem_map_of_mem hm.1, hm.2⟩

omit forest in
lemma Ready.next {p : UInt32} {w w' : World} (ready : Ready m p kind w) (forest : Forest m)
    (spawned : Spawned m p w w') (bounded : ∀ q, m.Below p q → Bounded m w'.spawns q) :
    Ready m p kind w' where
  balanced := spawned.balanced
  entered := ready.entered.of_spawned forest spawned
  bounded := bounded
  answered := spawned.answered ready.answered
  quests isPool c child q below := spawned.questsBelow (ready.quests isPool c child q below)

/-- A trigger that is an active member can be replaced. -/
def Replaceable (m : PoolMgr) (p : UInt32) (kind : Kind) (triggerFrom : UInt32)
    (d : ActivePoolData) : Prop :=
  triggerFrom = 0 ∨ Roomy m p ∨ (kind, triggerFrom) ∈ m.activeMembers d p

structure GroupSpawned (m : PoolMgr) (p : UInt32) (kind : Kind) (w w' : World) : Prop where
  spawned : Spawned m p w w'
  bounded : ∀ q, m.Below p q → Bounded m w'.spawns q
  mine : ∀ kind' id, kind' ≠ kind → (kind', id) ∈ m.members p →
    (w'.spawns.IsActiveObject kind' id ↔ w.spawns.IsActiveObject kind' id)

omit forest in
lemma GroupSpawned.trans {p : UInt32} {w : World} (first : GroupSpawned m p kind w w₁)
    (second : GroupSpawned m p kind w₁ w₂) :
    GroupSpawned m p kind w w₂ where
  spawned := first.spawned.trans second.spawned
  bounded := second.bounded
  mine kind' id other mem := (second.mine kind' id other mem).trans (first.mine kind' id other mem)

omit forest in
lemma Ready.groupSpawned {p : UInt32} {w w' : World} (ready : Ready m p kind w)
    (hs : w'.spawns = w.spawns) (answers : w'.answers = w.answers) :
    GroupSpawned m p kind w w' where
  spawned := ⟨hs ▸ ready.balanced, fun _ _ _ _ _ => by rw [hs], 0, congrFun answers⟩
  bounded := hs ▸ ready.bounded
  mine _ _ _ _ := by rw [hs]

omit forest in
lemma count_of_insert {p : UInt32} {w : World} {object : Kind × UInt32}
    (balanced : Balanced m w.spawns) (balanced₁ : Balanced m w₁.spawns)
    (fresh : object ∉ m.activeMembers w.spawns p)
    (members : m.activeMembers w₁.spawns p = insert object (m.activeMembers w.spawns p)) :
    w₁.spawns.getActiveObjectCount p = w.spawns.getActiveObjectCount p + 1 := by
  rw [balanced₁.counts, members, balanced.counts]
  exact Finset.card_insert_of_notMem fresh

omit forest in
lemma active_of_insert {p : UInt32} {w : World} {kind' : Kind} {id' : UInt32}
    (other : kind' ≠ kind) (mem : (kind', id') ∈ m.members p)
    (members : m.activeMembers w₁.spawns p = insert (kind, id) (m.activeMembers w.spawns p)) :
    w₁.spawns.IsActiveObject kind' id' ↔ w.spawns.IsActiveObject kind' id' := by
  have here := congrArg (fun s => (kind', id') ∈ s) members
  simp only [PoolMgr.mem_activeMembers, Finset.mem_insert, mem, true_and, Prod.mk.injEq, other,
    false_and, false_or] at here
  exact iff_of_eq here

omit forest in
lemma spawn_more {p : UInt32} {w : World} (ready : Ready m p kind w)
    (inactive : ¬ w.spawns.IsActiveObject kind id) (spawned : Spawned m p w w₁)
    (members : m.activeMembers w₁.spawns p = insert (kind, id) (m.activeMembers w.spawns p))
    (bounded : ∀ q, q ≠ p → m.Below p q → Bounded m w₁.spawns q)
    (room : Roomy m p ∨ w.spawns.getActiveObjectCount p < (m.maxLimit p).toNat) :
    GroupSpawned m p kind w w₁ := by
  refine ⟨spawned, fun q below => ?_, fun _ _ other mem => active_of_insert other mem members⟩
  by_cases hs : q = p
  · subst hs
    rcases room with roomy | more
    · exact roomy.count_le spawned.balanced
    · have count := count_of_insert ready.balanced spawned.balanced
        (fun active => inactive (PoolMgr.mem_activeMembers.mp active).2) members
      rw [Bounded, count]
      exact more
  · exact bounded q hs below

lemma spawn_instead {p : UInt32} (nested : Despawns m p despawn)
    (filled : (m.groups kind p).isEmpty = false) {triggerFrom : UInt32} {w : World}
    (ready : Ready m p kind w) (inactive : ¬ w.spawns.IsActiveObject kind id)
    (spawned : Spawned m p w w₁)
    (members : m.activeMembers w₁.spawns p = insert (kind, id) (m.activeMembers w.spawns p))
    (bounded : ∀ q, q ≠ p → m.Below p q → Bounded m w₁.spawns q)
    (active : Roomy m p ∨ (kind, triggerFrom) ∈ m.activeMembers w.spawns p)
    (done : (m.groups kind p).despawnObject kind (PoolMgr.each despawn kind) triggerFrom w₁ =
      some w₂) :
    GroupSpawned m p kind w w₂ ∧ (Roomy m p ∨
      w₂.spawns.getActiveObjectCount p ≤ w.spawns.getActiveObjectCount p) := by
  obtain ⟨despawned, others, gone⟩ :=
    despawnObject_spec forest nested kind triggerFrom spawned.balanced filled done
  have both := spawned.trans despawned.spawned
  have count : Roomy m p ∨
      w₂.spawns.getActiveObjectCount p ≤ w.spawns.getActiveObjectCount p := by
    refine active.imp_right fun active => ?_
    have replaced : (kind, triggerFrom) ∈ m.activeMembers w₁.spawns p := by
      rw [members]
      exact Finset.mem_insert_of_mem active
    have left : m.activeMembers w₂.spawns p ⊆
        (m.activeMembers w₁.spawns p).erase (kind, triggerFrom) := by
      rintro ⟨kind', id'⟩ still
      obtain ⟨mem', active'⟩ := PoolMgr.mem_activeMembers.mp still
      refine Finset.mem_erase.mpr ⟨?_, ?_⟩
      · intro hs
        obtain ⟨rfl, rfl⟩ := Prod.mk.inj hs
        exact gone _ mem' ⟨rfl, .inr rfl⟩ active'
      · exact PoolMgr.mem_activeMembers.mpr ⟨mem', despawned.fewer _ _ active'⟩
    have card := Finset.card_le_card left
    have grown := count_of_insert ready.balanced spawned.balanced
      (fun active => inactive (PoolMgr.mem_activeMembers.mp active).2) members
    rw [Finset.card_erase_of_mem replaced, ← spawned.balanced.counts, grown,
      ← both.balanced.counts] at card
    exact card
  refine ⟨⟨both, fun q below => ?_, fun kind' id' other mem => ?_⟩, count⟩
  · by_cases hs : q = p
    · subst hs
      rcases count with roomy | kept
      · exact roomy.count_le both.balanced
      · exact kept.trans (ready.bounded q .refl)
    · exact (despawned.count_le spawned.balanced q).trans (bounded q hs below)
  · rw [← active_of_insert other mem members]
    exact ⟨despawned.fewer kind' id',
      others kind' id' mem fun selected => other selected.1⟩

lemma spawnLoop_spec {p : UInt32} (nested : Spawns m p spawn) (nested' : Despawns m p despawn)
    (kind : Kind) (filled : (m.groups kind p).isEmpty = false) (rounds : ℕ)
    (lastDespawned triggerFrom : UInt32) {w w' : World} (ready : Ready m p kind w)
    (trigger : Replaceable m p kind triggerFrom w.spawns)
    (room : Roomy m p ∨ w.spawns.getActiveObjectCount p + rounds ≤
      (m.maxLimit p).toNat + if triggerFrom ≠ 0 then 1 else 0)
    (done : (m.groups kind p).spawnLoop kind (PoolMgr.each spawn kind)
      (PoolMgr.each despawn kind) rounds lastDespawned triggerFrom w = some w') :
    GroupSpawned m p kind w w' := by
  induction rounds generalizing lastDespawned triggerFrom w with
  | zero =>
    obtain rfl := Option.some.inj done
    exact ready.groupSpawned rfl rfl
  | succ rounds ih =>
    have drawn : GroupSpawned m p kind w w.draw.2 := ready.groupSpawned rfl rfl
    have ready' : Ready m p kind w.draw.2 := ready.next forest drawn.spawned drawn.bounded
    -- a round without effect leaves at least as much room
    have less : Roomy m p ∨ w.spawns.getActiveObjectCount p + rounds ≤
        (m.maxLimit p).toNat + if triggerFrom ≠ 0 then 1 else 0 :=
      room.imp_right fun sum => (Nat.add_le_add_left (Nat.le_succ _) _).trans sum
    rw [PoolGroup.spawnLoop] at done
    simp only [World.draw] at done
    split at done
    next => exact drawn.trans (ih lastDespawned triggerFrom ready' trigger less done)
    next obj rolled =>
      obtain ⟨mem, free⟩ := rollOne_mem rolled
      split at done
      next => exact drawn.trans (ih lastDespawned triggerFrom ready' trigger less done)
      next =>
        split at done
        next =>
          have room' : Roomy m p ∨ w.spawns.getActiveObjectCount p + rounds ≤
              (m.maxLimit p).toNat + if (0 : UInt32) ≠ 0 then 1 else 0 := by
            refine room.imp_right fun sum => ?_
            split at sum <;> omega
          exact drawn.trans (ih lastDespawned 0 ready' (.inl rfl) room' done)
        next other =>
          have inactive := free.resolve_left other
          obtain ⟨w₁, one, done⟩ := Option.bind_eq_some_iff.mp done
          rw [forest.ids kind p filled] at one
          obtain ⟨spawned₁, members, bounded⟩ :=
            spawn_one forest nested ready' (PoolMgr.mem_members.mpr mem) inactive one
          split at done
          next triggered =>
            obtain ⟨w₂, despawned, done⟩ := Option.bind_eq_some_iff.mp done
            obtain ⟨second, count⟩ := spawn_instead forest nested' filled ready' inactive spawned₁
              members bounded (trigger.resolve_left triggered) despawned
            have room₂ : Roomy m p ∨ w₂.spawns.getActiveObjectCount p + rounds ≤
                (m.maxLimit p).toNat + if (0 : UInt32) ≠ 0 then 1 else 0 := by
              rcases room with roomy | sum
              · exact .inl roomy
              · refine count.imp_right fun kept => ?_
                change w₂.spawns.getActiveObjectCount p ≤ w.spawns.getActiveObjectCount p at kept
                rw [if_pos triggered] at sum
                omega
            have ready₂ := ready'.next forest second.spawned second.bounded
            exact (drawn.trans second).trans (ih triggerFrom 0 ready₂ (.inl rfl) room₂ done)
          next untriggered =>
            obtain rfl : triggerFrom = 0 := not_not.mp untriggered
            simp only [ne_eq, not_true_eq_false, if_false, Nat.add_zero] at room
            have first := spawn_more ready' inactive spawned₁ members bounded
              (room.imp_right fun sum =>
                show w.spawns.getActiveObjectCount p < (m.maxLimit p).toNat by omega)
            have count := count_of_insert ready'.balanced spawned₁.balanced
              (fun active => inactive (PoolMgr.mem_activeMembers.mp active).2) members
            have room₁ : Roomy m p ∨ w₁.spawns.getActiveObjectCount p + rounds ≤
                (m.maxLimit p).toNat + if (0 : UInt32) ≠ 0 then 1 else 0 := by
              refine room.imp_right fun sum => ?_
              change w₁.spawns.getActiveObjectCount p = w.spawns.getActiveObjectCount p + 1 at count
              omega
            have ready₁ := ready'.next forest first.spawned first.bounded
            exact (drawn.trans first).trans (ih lastDespawned 0 ready₁ (.inl rfl) room₁ done)

omit forest in
lemma rounds_le {limit : UInt32} {active : ℕ} (below : active ≤ limit.toNat)
    (triggerFrom : UInt32) : active + PoolGroup.rounds limit active triggerFrom ≤
      limit.toNat + if triggerFrom ≠ 0 then 1 else 0 := by
  have small := limit.toNat_lt
  have value : (limit - UInt32.ofNat active).toNat = limit.toNat - active := by
    have cast : (UInt32.ofNat active).toNat = active := by
      rw [UInt32.toNat_ofNat', Nat.mod_eq_of_lt (by omega)]
    rw [UInt32.toNat_sub, cast]
    omega
  have signed := (limit - UInt32.ofNat active).toInt32.toInt_lt
  have hs := Lib.toInt_toInt32_mod (limit - UInt32.ofNat active)
  have low := (limit - UInt32.ofNat active).toInt32.le_toInt
  simp only [PoolGroup.rounds]
  split <;> omega

lemma spawnObject_spec {p : UInt32} (nested : Spawns m p spawn) (nested' : Despawns m p despawn)
    (kind : Kind) (filled : (m.groups kind p).isEmpty = false) (triggerFrom : UInt32)
    {w w' : World} (ready : Ready m p kind w) (trigger : Replaceable m p kind triggerFrom w.spawns)
    (done : (m.groups kind p).spawnObject kind (PoolMgr.each spawn kind)
      (PoolMgr.each despawn kind) (m.maxLimit p) triggerFrom w = some w') :
    GroupSpawned m p kind w w' := by
  rw [PoolGroup.spawnObject, forest.ids kind p filled] at done
  exact spawnLoop_spec forest nested nested' kind filled _ 0 triggerFrom ready trigger
    (.inr (rounds_le (ready.bounded p .refl) triggerFrom)) done

/-! ### Quests -/

lemma Balanced.removeAll {p : UInt32} (balanced : Balanced m d) (nodup : quests.Nodup)
    (members : ∀ id ∈ quests, (Kind.quest, id) ∈ m.members p ∧ id ∈ d.activeQuests) :
    Balanced m (d.removeAll p quests) ∧
      ∀ kind id, (d.removeAll p quests).IsActiveObject kind id ↔
        (kind = .quest → id ∉ quests) ∧ d.IsActiveObject kind id := by
  induction quests generalizing d with
  | nil => exact ⟨balanced, by simp⟩
  | cons quest rest ih =>
    obtain ⟨fresh, nodup⟩ := List.nodup_cons.mp nodup
    obtain ⟨mem, active⟩ := members quest (by simp)
    obtain ⟨balanced₁, actives⟩ := balanced.removeObject forest mem active (by simp)
    obtain ⟨balanced₂, actives'⟩ := ih balanced₁ nodup fun id later => by
      obtain ⟨mem', active'⟩ := members id (by simp [later])
      refine ⟨mem', (actives .quest id).mpr ⟨?_, active'⟩⟩
      intro hs
      exact fresh ((Prod.mk.inj hs).2 ▸ later)
    refine ⟨balanced₂, fun kind id => ?_⟩
    rw [ActivePoolData.removeAll_cons, actives', actives]
    cases kind <;> simp [and_assoc, and_left_comm]

lemma Balanced.activateAll {p : UInt32} (balanced : Balanced m d) (entered : Entered m d p)
    (nodup : quests.Nodup)
    (members : ∀ id ∈ quests, (Kind.quest, id) ∈ m.members p ∧ id ∉ d.activeQuests) :
    Balanced m (d.activateAll p quests) ∧
      ∀ q, q ≠ p → m.activeMembers (d.activateAll p quests) q = m.activeMembers d q := by
  induction quests generalizing d with
  | nil => exact ⟨balanced, fun _ _ => rfl⟩
  | cons quest rest ih =>
    obtain ⟨fresh, nodup⟩ := List.nodup_cons.mp nodup
    obtain ⟨mem, inactive⟩ := members quest (by simp)
    obtain ⟨balanced₁, actives⟩ := balanced.activateObject forest mem inactive entered
    have entered₁ : Entered m (d.activateObject .quest quest p) p := fun q child =>
      (ActivePoolData.isActiveObject_activateObject d .quest .pool quest p p).mpr (.inl rfl)
    obtain ⟨balanced₂, actives'⟩ := ih balanced₁ entered₁ nodup fun id later => by
      obtain ⟨mem', inactive'⟩ := members id (by simp [later])
      refine ⟨mem', fun active => ?_⟩
      rcases (ActivePoolData.isActiveObject_activateObject d .quest .quest quest id p).mp active
        with root | new | old
      · cases (Prod.mk.inj root).1
      · exact fresh ((Prod.mk.inj new).2 ▸ later)
      · exact inactive' old
    refine ⟨balanced₂, fun q other => ?_⟩
    rw [ActivePoolData.activateAll_cons, actives' q other, actives q, if_neg other]

/-- Quests activated after some were removed from the pool: `d` is what the removal left. -/
lemma questsActivated {p : UInt32} {w w' : World} (ready : Ready m p .quest w)
    (fit : QuestsFit m p) (balanced : Balanced m d) (entered : Entered m d p)
    (elsewhere : ∀ q, q ≠ p → m.activeMembers d q = m.activeMembers w.spawns q)
    (cleared : (∀ object ∈ m.members p, object.1 = .quest) → m.activeMembers d p = ∅)
    (nodup : quests.Nodup)
    (members : ∀ id ∈ quests, (Kind.quest, id) ∈ m.members p ∧ id ∉ d.activeQuests)
    (limited : quests.length ≤ PoolGroup.effectiveLimit (m.maxLimit p))
    (spawns : w'.spawns = d.activateAll p quests)
    (shifted : ∃ k, ∀ n, w'.answers n = w.answers (n + k)) :
    Spawned m p w w' ∧ ∀ q, m.Below p q → Bounded m w'.spawns q := by
  obtain ⟨balanced', hs⟩ := balanced.activateAll forest entered nodup members
  rw [← spawns] at balanced' hs
  have kept : ∀ q, q ≠ p → m.activeMembers w'.spawns q = m.activeMembers w.spawns q :=
    fun q other => (hs q other).trans (elsewhere q other)
  refine ⟨⟨balanced', ?_, shifted⟩, ?_⟩
  · intro q outside kind id mem
    have here := congrArg (fun s => (kind, id) ∈ s) (kept q fun hs => outside (hs ▸ .refl))
    simp only [PoolMgr.mem_activeMembers, mem, true_and] at here
    exact iff_of_eq here
  · intro q below
    by_cases other : q = p
    · subst other
      rcases fit with roomy | ⟨nonzero, only⟩
      · exact roomy.count_le balanced'
      · -- only quests are spawned, and no more than the limit
        have zero := balanced.count_eq_zero.mpr (cleared only)
        rw [Bounded, spawns, ActivePoolData.count_activateAll, if_pos rfl, zero, Nat.zero_add]
        rwa [PoolGroup.effectiveLimit, if_neg nonzero] at limited
    · rw [Bounded, balanced'.counts, kept q other, ← ready.balanced.counts]
      exact ready.bounded q below

lemma spawnQuests_spec {p : UInt32} (filled : (m.groups .quest p).isEmpty = false)
    (triggerFrom : UInt32) {w w' : World} (ready : Ready m p .quest w)
    (alone : QuestsAlone m w p triggerFrom)
    (done : (m.groups .quest p).spawnQuests (m.maxLimit p) triggerFrom w = some w') :
    Spawned m p w w' ∧ ∀ q, m.Below p q → Bounded m w'.spawns q := by
  have id := forest.ids .quest p filled
  have equal := forest.equal p
  have quests : HasQuests m p := by
    simp only [PoolGroup.isEmpty, equal, List.isEmpty_nil, Bool.true_and] at filled
    obtain ⟨obj, rest, objs⟩ := List.exists_cons_of_ne_nil
      (List.isEmpty_eq_false_iff.mp filled)
    refine ⟨obj.guid, PoolMgr.mem_members.mpr ?_⟩
    simp [PoolGroup.guids, PoolGroup.objects, objs]
  obtain ⟨fit, condition⟩ := alone quests
  have rotates : ∀ w₁ : World, w₁.spawns = w.spawns → (∃ k, ∀ n, w₁.answers n = w.answers (n + k)) →
      ¬ (triggerFrom = 0 ∧ w.answers 0 p ≠ []) →
      (m.groups .quest p).rotateQuests (m.maxLimit p) w₁ = some w' →
      Spawned m p w w' ∧ ∀ q, m.Below p q → Bounded m w'.spawns q := by
    intro w₁ hs shifted branch rotated
    rw [if_neg branch] at condition
    obtain ⟨w₂, removed, chosen, moved, eq, nodup, mem, within, none, -, -, different, among,
      length, spawns, answers⟩ := PoolGroup.rotateQuests_spec (m.groups .quest p) (m.maxLimit p) w₁
    obtain rfl := Option.some.inj (eq.symm.trans rotated)
    rw [hs] at mem within none among length spawns
    rw [id] at spawns
    have members : ∀ id ∈ removed, (Kind.quest, id) ∈ m.members p ∧ id ∈ w.spawns.activeQuests :=
      fun id here => ⟨PoolMgr.mem_members.mpr ((mem id).mp here).1, ((mem id).mp here).2⟩
    obtain ⟨balanced, actives⟩ := ready.balanced.removeAll forest nodup members
    refine questsActivated forest ready fit balanced ?_ ?_ ?_ different ?_ ?_ spawns ?_
    · intro q child
      exact (actives .pool p).mpr ⟨by simp, ready.entered q child⟩
    · intro q other
      ext ⟨kind, object⟩
      rw [PoolMgr.mem_activeMembers, PoolMgr.mem_activeMembers, actives]
      constructor
      · rintro ⟨mem', _, active⟩
        exact ⟨mem', active⟩
      · rintro ⟨mem', active⟩
        refine ⟨mem', fun quest gone => ?_, active⟩
        subst quest
        exact other (forest.apart _ q p mem' (members object gone).1)
    · intro only
      apply Finset.eq_empty_of_forall_notMem
      rintro ⟨kind, object⟩ still
      obtain ⟨mem', active⟩ := PoolMgr.mem_activeMembers.mp still
      obtain rfl : kind = .quest := only _ mem'
      obtain ⟨left, was⟩ := (actives .quest object).mp active
      exact left rfl ((mem object).mpr ⟨PoolMgr.mem_members.mp mem', was⟩)
    · intro object chose
      have gone : ∀ id, id ∈ (w.spawns.removeAll p removed).activeQuests ↔
          id ∉ removed ∧ id ∈ w.spawns.activeQuests := fun id =>
        (actives .quest id).trans (and_congr_left' (by simp))
      rcases Finset.mem_union.mp (among object chose) with fresh | recycled
      · obtain ⟨here, inactive⟩ := PoolGroup.mem_inactiveQuests.mp fresh
        refine ⟨PoolMgr.mem_members.mpr ?_, fun active => inactive ((gone object).mp active).2⟩
        simpa [PoolGroup.guids, PoolGroup.objects, equal] using here
      · -- what is recycled was an active quest of this pool
        have active := within recycled
        have mem' : (Kind.quest, object) ∈ m.members p := by
          rcases condition with enough | own
          · rw [none enough] at recycled
            simp at recycled
          · exact own object active
        refine ⟨mem', fun still => ((gone object).mp still).1 ?_⟩
        exact (mem object).mpr ⟨PoolMgr.mem_members.mp mem', active⟩
    · rw [length]
      exact Nat.min_le_left _ _
    · obtain ⟨k, hs⟩ := shifted
      exact ⟨k, fun n => by rw [answers, hs]⟩
  rw [PoolGroup.spawnQuests] at done
  split at done
  next untriggered =>
    simp only [World.query, id] at done
    split at done
    next saved =>
      rw [if_pos ⟨untriggered, saved⟩] at condition
      obtain rfl := Option.some.inj done
      rw [PoolGroup.restoreQuests_eq]
      obtain ⟨nodup, members⟩ := ready.answered 0 p
      refine questsActivated forest ready fit ready.balanced ready.entered (fun _ _ => rfl) ?_
        (nodup.sublist (List.take_sublist _ _)) ?_ (List.length_take_le _ _) rfl
        ⟨1, fun n => rfl⟩
      · intro only
        apply Finset.eq_empty_of_forall_notMem
        rintro ⟨kind, object⟩ still
        obtain ⟨mem', active⟩ := PoolMgr.mem_activeMembers.mp still
        obtain rfl : kind = .quest := only _ mem'
        exact condition object mem' active
      · intro object here
        have mem' := members object (List.mem_of_mem_take here)
        exact ⟨mem', condition object mem'⟩
    next unsaved =>
      exact rotates { w with answers := fun n => w.answers (n + 1) } rfl ⟨1, fun n => rfl⟩
        (fun both => unsaved both.2) done
  next triggered =>
    exact rotates w rfl ⟨0, fun n => rfl⟩ (fun both => triggered both.1) done

end

end WorldServer.Pools
