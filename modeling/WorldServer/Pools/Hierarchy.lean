import WorldServer.Pools.Circular
import WorldServer.Pools.GroupSpawn

/-!
# The hierarchy of pools after loading

On an acyclic hierarchy the recursion from a pool into its child pools ends. Loading makes the
hierarchy acyclic, with a search map that agrees with the groups, if and only if no child was
given two mothers and the relations that are cut were read only once into a list.
-/
namespace WorldServer.Pools

open Lib

/-! ### The recursion ends -/

def PoolMgr.Acyclic (m : PoolMgr) : Prop := ∀ p, ¬ Relation.TransGen m.Child p p

def Ends (m : PoolMgr) (depth : ℕ) (p : UInt32) : Prop :=
  ∀ w, (m.despawnPool depth p w).isSome ∧ (m.spawnPool depth p w).isSome

lemma isSome_bind {α β : Type} {a : Option α} {f : α → Option β} (first : a.isSome)
    (rest : ∀ x, (f x).isSome) : (a.bind f).isSome := by
  obtain ⟨x, rfl⟩ := Option.isSome_iff_exists.mp first
  exact rest x

section

variable {spawn despawn : UInt32 → World → Option World}

lemma despawnEach_isSome (poolId : UInt32) (kind : Kind) (guid : UInt32) (objs : List PoolObject)
    (total : ∀ obj ∈ objs, ∀ w, (despawn obj.guid w).isSome) (w : World) :
    (PoolGroup.despawnEach poolId kind despawn guid objs w).isSome := by
  induction objs generalizing w with
  | nil => rfl
  | cons obj rest ih =>
    have total' := fun obj mem => total obj (List.mem_cons_of_mem _ mem)
    rw [PoolGroup.despawnEach]
    split
    · exact isSome_bind (total obj (List.mem_cons_self ..) w) fun w' => ih total' _
    · exact ih total' w

lemma despawnObject_isSome (g : PoolGroup) (kind : Kind) (guid : UInt32)
    (total : ∀ id ∈ g.guids, ∀ w, (despawn id w).isSome) (w : World) :
    (g.despawnObject kind despawn guid w).isSome :=
  despawnEach_isSome _ _ _ _ (fun obj mem => total obj.guid (List.mem_map_of_mem mem)) w

lemma spawnLoop_isSome (g : PoolGroup) (kind : Kind)
    (total : ∀ id ∈ g.guids, ∀ w, (spawn id w).isSome)
    (total' : ∀ id ∈ g.guids, ∀ w, (despawn id w).isSome) (rounds : ℕ)
    (lastDespawned triggerFrom : UInt32) (w : World) :
    (g.spawnLoop kind spawn despawn rounds lastDespawned triggerFrom w).isSome := by
  induction rounds generalizing lastDespawned triggerFrom w with
  | zero => rfl
  | succ rounds ih =>
    rw [PoolGroup.spawnLoop]
    simp only [World.draw]
    split
    next => exact ih ..
    next obj rolled =>
      split
      next => exact ih ..
      next =>
        split
        next => exact ih ..
        next =>
          refine isSome_bind (total _ (rollOne_mem rolled).1 _) fun w' => ?_
          split
          · exact isSome_bind (despawnObject_isSome g kind _ total' _) fun w'' => ih ..
          · exact ih ..

lemma spawnQuests_isSome (g : PoolGroup) (limit triggerFrom : UInt32) (w : World) :
    (g.spawnQuests limit triggerFrom w).isSome := by
  have rotated : ∀ w, (g.rotateQuests limit w).isSome := by
    intro w
    obtain ⟨w', _, _, _, done, -⟩ := PoolGroup.rotateQuests_spec g limit w
    rw [done]
    rfl
  rw [PoolGroup.spawnQuests]
  split
  · obtain ⟨rows, w'⟩ := w.query g.poolId
    dsimp only
    split
    · rfl
    · exact rotated w'
  · exact rotated w

variable {m : PoolMgr} {p : UInt32}

lemma each_isSome {pool : UInt32 → World → Option World}
    (total : ∀ c, m.Child p c → ∀ w, (pool c w).isSome) (kind : Kind) :
    ∀ id ∈ (m.groups kind p).guids, ∀ w, (PoolMgr.each pool kind id w).isSome := by
  intro id mem w
  cases kind with
  | pool => exact total id (PoolMgr.mem_members.mpr mem) w
  | _ => rfl

lemma despawnGroup_isSome (total : ∀ c, m.Child p c → ∀ w, (despawn c w).isSome) (kind : Kind)
    (w : World) : (m.despawnGroup despawn kind p w).isSome := by
  rw [PoolMgr.despawnGroup]
  split
  · rfl
  · exact despawnObject_isSome _ _ _ (each_isSome total kind) w

lemma spawnGroup_isSome (total : ∀ c, m.Child p c → ∀ w, (spawn c w).isSome)
    (total' : ∀ c, m.Child p c → ∀ w, (despawn c w).isSome) (kind : Kind) (triggerFrom : UInt32)
    (w : World) : (m.spawnGroup spawn despawn kind p triggerFrom w).isSome := by
  by_cases empty : (m.groups kind p).isEmpty
  · cases kind <;> simp [PoolMgr.spawnGroup, empty]
  · cases kind with
    | quest =>
      simp only [PoolMgr.spawnGroup, if_neg empty]
      exact spawnQuests_isSome _ _ _ _
    | _ =>
      simp only [PoolMgr.spawnGroup, if_neg empty]
      exact spawnLoop_isSome _ _ (each_isSome total _) (each_isSome total' _) _ _ _ _

lemma Ends.mother {depth : ℕ} (children : ∀ c, m.Child p c → Ends m depth c) :
    Ends m (depth + 1) p := by
  have despawns : ∀ c, m.Child p c → ∀ w, (m.despawnPool depth c w).isSome :=
    fun c child w => (children c child w).1
  have spawns : ∀ c, m.Child p c → ∀ w, (m.spawnPool depth c w).isSome :=
    fun c child w => (children c child w).2
  intro w
  constructor
  · exact isSome_bind (despawnGroup_isSome despawns _ _) fun w =>
      isSome_bind (despawnGroup_isSome despawns _ _) fun w =>
        isSome_bind (despawnGroup_isSome despawns _ _) fun w =>
          despawnGroup_isSome despawns _ _
  · exact isSome_bind (spawnGroup_isSome spawns despawns _ _ _) fun w =>
      isSome_bind (spawnGroup_isSome spawns despawns _ _ _) fun w =>
        isSome_bind (spawnGroup_isSome spawns despawns _ _ _) fun w =>
          spawnGroup_isSome spawns despawns _ _ _

end

lemma PoolMgr.Acyclic.ends {m : PoolMgr} (acyclic : m.Acyclic) (p : UInt32) :
    ∃ depth, Ends m depth p := by
  have finite : Finite UInt32 :=
    Finite.of_injective (fun p => (⟨p.toNat, p.toNat_lt⟩ : Fin (2 ^ 32))) fun p q hs =>
      UInt32.toNat_inj.mp (Fin.mk.inj hs)
  have founded : WellFounded fun c p => Relation.TransGen m.Child p c := by
    have transitive : IsTrans UInt32 fun c p => Relation.TransGen m.Child p c :=
      ⟨fun _ _ _ first second => second.trans first⟩
    have irreflexive : Std.Irrefl fun c p : UInt32 => Relation.TransGen m.Child p c := ⟨acyclic⟩
    exact Finite.wellFounded_of_trans_of_irrefl _
  suffices deep : ∃ depth, ∀ d, depth ≤ d → Ends m d p by
    obtain ⟨depth, ends⟩ := deep
    exact ⟨depth, ends depth le_rfl⟩
  induction p using founded.induction with
  | _ p ih =>
    have ih' : ∀ c, m.Child p c → ∃ depth, ∀ d, depth ≤ d → Ends m d c :=
      fun c child => ih c (.single child)
    choose! depth ends using ih'
    refine ⟨(m.members p).sup (fun object => depth object.2) + 1, fun d deep => ?_⟩
    obtain ⟨d, rfl⟩ : ∃ d', d = d' + 1 := ⟨d - 1, by omega⟩
    refine Ends.mother fun c child => ends c child d ?_
    have bound := Finset.le_sup (f := fun object : Kind × UInt32 => depth object.2) child
    exact bound.trans (by omega)

/-! ### After loading -/

/-- The search map knows the mother of every child in a group, and no other. -/
def PoolMgr.MapAgrees (m : PoolMgr) : Prop :=
  ∀ c p, m.poolSearchMap c = some p ↔ m.Child p c

/-- The cycle of `c` is closed by the pointer of `c`, seen from the least pool that leads to it. -/
def Cut (next : UInt32 → Option UInt32) (c : UInt32) : Prop :=
  ∃ i, Closes next i c ∧ ∀ j, Leads next j c → i ≤ j

structure SingleMothers (m : PoolMgr) (rows : List PoolRow) : Prop where
  single : ∀ row ∈ m.acceptedRows rows, ∀ row' ∈ m.acceptedRows rows,
    row.childPoolId = row'.childPoolId → row.motherPoolId = row'.motherPoolId
  once : ∀ row ∈ m.acceptedRows rows, Cut (m.firstMother rows) row.childPoolId →
    ∀ list, m.timesRead rows list row.childPoolId row.motherPoolId ≤ 1

section

variable {m : PoolMgr} {rows : List PoolRow}

lemma acceptedRows_bounds {row : PoolRow} (mem : row ∈ m.acceptedRows rows) :
    row.motherPoolId ≤ m.maxPoolId ∧ row.childPoolId ≤ m.maxPoolId ∧
      row.motherPoolId ≠ row.childPoolId := by
  have accepted := (List.mem_filter.mp mem).2
  rw [PoolMgr.accepts, decide_eq_true_eq] at accepted
  exact ⟨accepted.1, accepted.2.1, accepted.2.2.1⟩

lemma exists_row_of_points {c p : UInt32} (points : Points (m.firstMother rows) c p) :
    ∃ row ∈ m.acceptedRows rows, row.childPoolId = c ∧ row.motherPoolId = p := by
  obtain ⟨row, found, rfl⟩ := Option.map_eq_some_iff.mp points
  exact ⟨row, List.mem_of_find?_eq_some found, by simpa using List.find?_some found, rfl⟩

lemma points_bounds {c p : UInt32} (points : Points (m.firstMother rows) c p) :
    p ≤ m.maxPoolId ∧ c ≤ m.maxPoolId ∧ p ≠ c := by
  obtain ⟨row, mem, rfl, rfl⟩ := exists_row_of_points points
  exact acceptedRows_bounds mem

lemma exists_points {row : PoolRow} (mem : row ∈ m.acceptedRows rows) :
    ∃ p, Points (m.firstMother rows) row.childPoolId p := by
  have hf : ((m.acceptedRows rows).find? fun row' =>
      row'.childPoolId = row.childPoolId).isSome :=
    List.find?_isSome.mpr ⟨row, mem, by simp⟩
  obtain ⟨first, eq⟩ := Option.isSome_iff_exists.mp hf
  exact ⟨first.motherPoolId, by simp [Points, PoolMgr.firstMother, eq]⟩

lemma timesRead_pos_iff {c p : UInt32} : (∃ list, 0 < m.timesRead rows list c p) ↔
    ∃ row ∈ m.acceptedRows rows, row.childPoolId = c ∧ row.motherPoolId = p := by
  simp only [PoolMgr.timesRead, List.countP_pos_iff, decide_eq_true_eq]
  constructor
  · rintro ⟨list, row, mem, child, mother, -⟩
    exact ⟨row, mem, child, mother⟩
  · rintro ⟨row, mem, child, mother⟩
    exact ⟨m.explicit row, row, mem, child, mother, rfl⟩

/-- A pointer with another end than its start, both at most the maximum, has a smaller end. -/
lemma exists_below_of_cycle {next : UInt32 → Option UInt32} {c : UInt32}
    (bounds : ∀ a b, Points next a b → b ≤ m.maxPoolId ∧ a ≤ m.maxPoolId ∧ b ≠ a)
    (cycle : OnCycle next c) :
    ∃ b, OnCycle next b ∧ Leads next b c ∧ b.toNat < m.maxPoolId.toNat := by
  obtain ⟨p, points, back⟩ := Relation.TransGen.head'_iff.mp cycle
  obtain ⟨high, high', other⟩ := bounds c p points
  have high := UInt32.le_iff_toNat_le.mp high
  have high' := UInt32.le_iff_toNat_le.mp high'
  have other : p.toNat ≠ c.toNat := fun hs => other (UInt32.toNat_inj.mp hs)
  by_cases below : c.toNat < m.maxPoolId.toNat
  · exact ⟨c, cycle, .refl, below⟩
  · exact ⟨p, (cycle.of_leads (.single points)).1, back, by omega⟩

lemma cutBefore_iff_cut {c : UInt32} :
    CutBefore (m.firstMother rows) m.maxPoolId.toNat c ↔ Cut (m.firstMother rows) c := by
  constructor
  · rintro ⟨i, -, closes, least⟩
    exact ⟨i, closes, least⟩
  · rintro ⟨i, closes, least⟩
    obtain ⟨b, -, leads, below⟩ :=
      exists_below_of_cycle (m := m) (fun _ _ => points_bounds) closes.1
    exact ⟨i, (UInt32.le_iff_toNat_le.mp (least b leads)).trans_lt below, closes, least⟩

lemma loadPools_spec (m : PoolMgr) (rows : List PoolRow) :
    (∀ c p, (m.loadPools rows).poolSearchMap c = some p ↔
      Points (m.firstMother rows) c p ∧ ¬ Cut (m.firstMother rows) c) ∧
    (∀ c p, (m.loadPools rows).Child p c ↔ ∃ list, 0 <
      ((m.checkCircular (m.readRows rows) m.maxPoolId.toNat).groups p).times list c) ∧
    (∀ c p list, Cut (m.firstMother rows) c → Points (m.firstMother rows) c p →
      ((m.checkCircular (m.readRows rows) m.maxPoolId.toNat).groups p).times list c =
        m.timesRead rows list c p - 1) ∧
    (∀ c p list, ¬ (Cut (m.firstMother rows) c ∧ Points (m.firstMother rows) c p) →
      ((m.checkCircular (m.readRows rows) m.maxPoolId.toNat).groups p).times list c =
        m.timesRead rows list c p) ∧
    ∀ b, ¬ OnCycle (m.loadPools rows).poolSearchMap b := by
  obtain ⟨map, times⟩ := m.readRows_spec rows
  have map : (m.readRows rows).searchMap = m.firstMother rows := funext map
  have passed := passed_checkCircular m (m.readRows rows)
    (fun c pointing => by
      obtain ⟨p, points⟩ := Option.ne_none_iff_exists'.mp pointing
      rw [map] at points
      have high := UInt32.le_iff_toNat_le.mp (points_bounds points).2.1
      omega) le_rfl
  obtain ⟨⟨points, ends⟩, cut, uncut⟩ := passed
  simp only [map, times, cutBefore_iff_cut] at points ends cut uncut
  refine ⟨points, fun c p => ?_, cut, uncut, fun b cycle => ?_⟩
  · rw [PoolMgr.Child, PoolMgr.mem_members, ← PoolGroup.mem_guids_iff]
    rfl
  · obtain ⟨b', cycle', -, below⟩ := exists_below_of_cycle (m := m)
      (fun c p left => points_bounds ((points c p).mp left).1) cycle
    exact ends b' below b' .refl cycle'

lemma points_of_mapAgrees (agrees : (m.loadPools rows).MapAgrees) {row : PoolRow}
    (mem : row ∈ m.acceptedRows rows) :
    Points (m.firstMother rows) row.childPoolId row.motherPoolId := by
  obtain ⟨map, child, -, uncut, -⟩ := loadPools_spec m rows
  by_contra other
  obtain ⟨list, some⟩ := timesRead_pos_iff.mpr ⟨row, mem, rfl, rfl⟩
  rw [← uncut _ _ list fun both => other both.2] at some
  have left := (agrees _ _).mpr ((child _ _).mpr ⟨list, some⟩)
  exact other ((map _ _).mp left).1

/-- After loading the hierarchy is acyclic, agrees with the search map and the calls on all
pools end, if and only if the rows give single mothers. -/
theorem loadPools_iff (m : PoolMgr) (rows : List PoolRow) :
    ((m.loadPools rows).Acyclic ∧ (m.loadPools rows).MapAgrees ∧
      ∀ p, ∃ depth, ∀ w, ((m.loadPools rows).despawnPool depth p w).isSome ∧
        ((m.loadPools rows).spawnPool depth p w).isSome) ↔ SingleMothers m rows := by
  obtain ⟨map, child, cut, uncut, noCycle⟩ := loadPools_spec m rows
  constructor
  · rintro ⟨-, agrees, -⟩
    refine ⟨fun row mem row' mem' same => ?_, fun row mem isCut list => ?_⟩
    · have points := points_of_mapAgrees agrees mem
      rw [same] at points
      exact points_unique points (points_of_mapAgrees agrees mem')
    · -- a second copy would stay in the group
      have points := points_of_mapAgrees agrees mem
      by_contra twice
      have some : 0 < m.timesRead rows list row.childPoolId row.motherPoolId - 1 := by omega
      rw [← cut _ _ list isCut points] at some
      have left := (agrees _ _).mpr ((child _ _).mpr ⟨list, some⟩)
      exact ((map _ _).mp left).2 isCut
  · rintro ⟨single, once⟩
    have agrees : (m.loadPools rows).MapAgrees := by
      intro c p
      rw [map, child]
      by_cases points : Points (m.firstMother rows) c p
      · obtain ⟨row, mem, rfl, rfl⟩ := exists_row_of_points points
        by_cases isCut : Cut (m.firstMother rows) row.childPoolId
        · refine iff_of_false (fun left => left.2 isCut) ?_
          rintro ⟨list, some⟩
          have few := once row mem isCut list
          rw [cut _ _ list isCut points] at some
          omega
        · refine iff_of_true ⟨points, isCut⟩ ?_
          obtain ⟨list, some⟩ := timesRead_pos_iff.mpr ⟨row, mem, rfl, rfl⟩
          exact ⟨list, by rwa [uncut _ _ list fun both => isCut both.1]⟩
      · refine iff_of_false (fun left => points left.1) ?_
        rintro ⟨list, some⟩
        rw [uncut _ _ list fun both => points both.2] at some
        obtain ⟨row, mem, rfl, rfl⟩ := timesRead_pos_iff.mp ⟨list, some⟩
        -- the first row of the child has the same mother
        obtain ⟨p, points'⟩ := exists_points mem
        obtain ⟨row', mem', same, rfl⟩ := exists_row_of_points points'
        rw [single row mem row' mem' same.symm] at points
        exact points points'
    have acyclic : (m.loadPools rows).Acyclic := by
      intro p cycle
      apply noCycle p
      rw [OnCycle, ← Relation.transGen_swap]
      exact Relation.TransGen.mono (fun a b down => (agrees b a).mpr down) _ _ cycle
    exact ⟨acyclic, agrees, acyclic.ends⟩

end

/-! ### Two mothers -/

def threePools : PoolMgr where
  maxPoolId := 3
  maxLimit := fun _ => 1
  groups := fun _ _ => {}
  poolSearchMap := fun _ => none

/-- The pool 1 has the mothers 2 and 3, and is itself the mother of 3. -/
def twoMothers : List PoolRow := [⟨1, 2, 0⟩, ⟨1, 3, 0⟩, ⟨3, 1, 0⟩]

def allSpawned : World where
  spawns := { spawnedPools := fun _ => some 1 }
  draws := fun _ => ⟨0, 0⟩
  answers := fun _ _ => []

/-- The search map ends at the pool 2, so the cycle of 1 and 3 stays in the groups, and
despawning the pool 1 does not end. -/
theorem twoMothers_circular :
    (threePools.loadPools twoMothers).Child 1 3 ∧ (threePools.loadPools twoMothers).Child 3 1 ∧
      ¬ (threePools.loadPools twoMothers).Acyclic ∧
      ∀ depth, (threePools.loadPools twoMothers).despawnPool depth 1 allSpawned = none := by
  have down : (threePools.loadPools twoMothers).Child 1 3 :=
    PoolMgr.mem_members.mpr (by decide +kernel)
  have up : (threePools.loadPools twoMothers).Child 3 1 :=
    PoolMgr.mem_members.mpr (by decide +kernel)
  -- each of the two pools despawns the other first
  have turn : ∀ depth p c, ((threePools.loadPools twoMothers).groups .pool p).objects = [⟨c, 0⟩] →
      (threePools.loadPools twoMothers).despawnPool depth c allSpawned = none →
      (threePools.loadPools twoMothers).despawnPool (depth + 1) p allSpawned = none := by
    intro depth p c objects endless
    have some : ((threePools.loadPools twoMothers).groups .pool p).isEmpty = false := by
      by_contra empty
      have guids := PoolGroup.guids_of_isEmpty (by simpa using empty)
      simp [PoolGroup.guids, objects] at guids
    have active : allSpawned.spawns.IsActiveObject .pool c := by
      simp [allSpawned, ActivePoolData.IsActiveObject]
    have creatures : ((threePools.loadPools twoMothers).groups .creature p).isEmpty := rfl
    have gameobjects : ((threePools.loadPools twoMothers).groups .gameobject p).isEmpty := rfl
    simp only [PoolMgr.despawnPool, PoolMgr.despawnGroup, creatures, gameobjects, some, if_true,
      bind, Option.bind, PoolGroup.despawnObject, objects, PoolGroup.despawnEach, active, true_and,
      true_or, PoolMgr.each, endless, Bool.false_eq_true, if_false]
  have groups : ((threePools.loadPools twoMothers).groups .pool 1).objects = [⟨3, 0⟩] ∧
      ((threePools.loadPools twoMothers).groups .pool 3).objects = [⟨1, 0⟩] := by
    decide +kernel
  have both : ∀ depth, (threePools.loadPools twoMothers).despawnPool depth 1 allSpawned = none ∧
      (threePools.loadPools twoMothers).despawnPool depth 3 allSpawned = none := by
    intro depth
    induction depth with
    | zero => exact ⟨rfl, rfl⟩
    | succ depth ih => exact ⟨turn depth 1 3 groups.1 ih.2, turn depth 3 1 groups.2 ih.1⟩
  exact ⟨down, up, fun acyclic => acyclic 1 (.tail (.single down) up), fun depth => (both depth).1⟩

end WorldServer.Pools
