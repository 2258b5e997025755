import WorldServer.Pools.Daily

/-!
# The whole pass

The pass changes only pools that turn, each at its own turn. A pool that has had its turn and
was filled keeps at least one quest unless its limit is zero, so that later pools can recycle
that quest: what a pool finds at its turn can be told from the state before the pass.
-/
namespace WorldServer.Pools

/-- The pool rotates to its quota at its turn, told from the state before the pass. -/
def Fits (m : PoolMgr) (isWeekly : UInt32 → Option Bool) (d : ActivePoolData) (p : UInt32) :
    Prop :=
  (m.maxLimit p ≠ 0 ∨ m.quests p ⊆ d.activeQuests) ∧
    ((m.maxLimit p).toNat ≤ (m.quests p \ d.activeQuests).card ∨
      (∀ e, e < p → Turns m isWeekly e → m.maxLimit e = 0) ∧
        ∀ id ∈ d.activeQuests, id ∈ m.quests p ∨ ∃ e, e < p ∧ Turns m isWeekly e ∧ id ∈ m.quests e)

def DailyFits (m : PoolMgr) (isWeekly : UInt32 → Option Bool) (d : ActivePoolData) : Prop :=
  ∀ p, (m.quests p).Nonempty →
    (Turns m isWeekly p → Fits m isWeekly d p) ∧ (¬ Turns m isWeekly p → m.Filled d p)

/-- Every counter counts the active quests, and child pools are placed. -/
structure Steady (m : PoolMgr) (d : ActivePoolData) : Prop where
  tallied : ∀ p, (m.quests p).Nonempty → m.Tallied d p
  placed : ∀ p, (m.quests p).Nonempty → Placed m d p

variable {w : World} {p : UInt32}

section

variable {m : PoolMgr} {isWeekly : UInt32 → Option Bool} (pools : QuestPools m isWeekly)

include pools

omit pools in
lemma toNat_ofNat {n : ℕ} (inside : n < m.maxPoolId.toNat + 1) : (UInt32.ofNat n).toNat = n := by
  have small := m.maxPoolId.toNat_lt
  exact UInt32.toNat_ofNat_of_lt' (by simp only [UInt32.size]; omega)

lemma changeDailyUpTo_from (rolls : UInt32 → ℕ → Draw) (depth : ℕ) {n N : ℕ} (later : n ≤ N)
    (inside : N ≤ m.maxPoolId.toNat + 1) {w₀ : World}
    (reached : m.changeDailyUpTo isWeekly rolls depth n w₀ = some w)
    (tallied : ∀ p, Turns m isWeekly p → n ≤ p.toNat → m.Tallied w.spawns p)
    (placed : ∀ p, (m.quests p).Nonempty → Placed m w.spawns p) :
    ∃ w', m.changeDailyUpTo isWeekly rolls depth N w₀ = some w' ∧
      Kept m (fun q => n ≤ q.toNat ∧ q.toNat < N ∧ Turns m isWeekly q) w w' := by
  induction N, later using Nat.le_induction with
  | base => exact ⟨w, reached, .of_spawns_eq rfl⟩
  | succ N later ih =>
    obtain ⟨w₁, done, kept⟩ := ih (by omega)
    have this := toNat_ofNat (m := m) (n := N) (by omega)
    obtain ⟨w', done', kept', -⟩ := changeDailyPool_spec pools rolls depth (UInt32.ofNat N)
      (w := w₁)
      (fun turns => (kept.tallied_iff pools (fun before => by omega)).mpr
        (tallied _ turns (by omega)))
      (fun some child c mem => kept.marked c (placed _ some child c mem))
    refine ⟨w', ?_, (kept.mono ?_).trans (kept'.mono ?_)⟩
    · simp only [PoolMgr.changeDailyUpTo, done, bind, Option.bind, done']
    · exact fun q earlier => ⟨earlier.1, by omega, earlier.2.2⟩
    · rintro q ⟨rfl, turns⟩
      exact ⟨by omega, by omega, turns⟩

lemma rotatable_iff_fits {w' : World} (turns : Turns m isWeekly p)
    (kept : Kept m (fun q => q.toNat < p.toNat ∧ Turns m isWeekly q) w w')
    (filled : ∀ e, Turns m isWeekly e → e.toNat < p.toNat → m.Filled w'.spawns e) :
    Rotatable m w'.spawns p ↔ Fits m isWeekly w.spawns p := by
  -- the quests of the pool itself are as before
  have own : ∀ id ∈ m.quests p, (id ∈ w'.spawns.activeQuests ↔ id ∈ w.spawns.activeQuests) := by
    intro id mem
    refine kept.others id fun e before mem' => ?_
    obtain rfl := pools.apart id p e mem mem'
    exact absurd before.1 (lt_irrefl _)
  have inactive : m.quests p \ w'.spawns.activeQuests = m.quests p \ w.spawns.activeQuests := by
    ext id
    rw [Finset.mem_sdiff, Finset.mem_sdiff]
    exact and_congr_right fun mem => not_congr (own id mem)
  have covered : m.quests p ⊆ w'.spawns.activeQuests ↔ m.quests p ⊆ w.spawns.activeQuests := by
    rw [← Finset.sdiff_eq_empty_iff_subset, inactive, Finset.sdiff_eq_empty_iff_subset]
  rw [Rotatable, Fits, covered, inactive]
  refine and_congr_right fun _ => or_congr_right ⟨fun alone => ⟨?_, ?_⟩, ?_⟩
  · -- a pool before with a limit has an active quest
    intro e before turns'
    by_contra limited
    have some := pools.nonempty (p := e) (by simp [turns'.1])
    have positive : 0 < (m.activeQuests w'.spawns e).card := by
      rw [(filled e turns' (UInt32.lt_iff_toNat_lt.mp before)).2, PoolMgr.quota]
      have limit : (m.maxLimit e).toNat ≠ 0 := fun zero => limited (UInt32.toNat_inj.mp zero)
      have members := Finset.card_pos.mpr some
      omega
    obtain ⟨id, active⟩ := Finset.card_pos.mp positive
    obtain ⟨mem, active⟩ := Finset.mem_inter.mp active
    obtain rfl := pools.apart id e p mem (alone active)
    exact absurd before (UInt32.lt_irrefl _)
  · intro id active
    by_contra outside
    rw [not_or, not_exists] at outside
    have still := (kept.others id fun e before mem =>
      outside.2 e ⟨UInt32.lt_iff_toNat_lt.mpr before.1, before.2, mem⟩).mpr active
    exact outside.1 (alone still)
  · rintro ⟨unlimited, origin⟩ id active
    by_cases before : ∃ e, e.toNat < p.toNat ∧ Turns m isWeekly e ∧ id ∈ m.quests e
    · -- a pool before without a limit has no active quest
      obtain ⟨e, less, turns', mem⟩ := before
      have none := (filled e turns' less).2
      rw [PoolMgr.quota, unlimited e (UInt32.lt_iff_toNat_lt.mpr less) turns', UInt32.toNat_zero,
        Nat.zero_min, Finset.card_eq_zero] at none
      have here : id ∈ m.activeQuests w'.spawns e := Finset.mem_inter.mpr ⟨mem, active⟩
      rw [none] at here
      exact absurd here (Finset.notMem_empty id)
    · have was := (kept.others id fun e earlier mem =>
        before ⟨e, earlier.1, earlier.2, mem⟩).mp active
      refine (origin id was).resolve_right ?_
      rintro ⟨e, less, turns', mem⟩
      exact before ⟨e, UInt32.lt_iff_toNat_lt.mp less, turns', mem⟩

lemma changeDailyUpTo_spec (rolls : UInt32 → ℕ → Draw) (depth : ℕ) {n : ℕ}
    (inside : n ≤ m.maxPoolId.toNat + 1) (steady : Steady m w.spawns) :
    ∃ w', m.changeDailyUpTo isWeekly rolls depth n w = some w' ∧
      Kept m (fun q => q.toNat < n ∧ Turns m isWeekly q) w w' := by
  obtain ⟨w', done, kept⟩ := changeDailyUpTo_from pools rolls depth (Nat.zero_le n) inside
    (rfl : m.changeDailyUpTo isWeekly rolls depth 0 w = some w)
    (fun p turns _ => steady.tallied p (pools.nonempty (by simp [turns.1]))) steady.placed
  exact ⟨w', done, kept.mono fun q earlier => earlier.2⟩

lemma Steady.atTurn {w' : World} {n : ℕ} (steady : Steady m w.spawns)
    (kept : Kept m (fun q => q.toNat < n ∧ Turns m isWeekly q) w w') :
    (∀ p, Turns m isWeekly p → n ≤ p.toNat → m.Tallied w'.spawns p) ∧
      ∀ p, (m.quests p).Nonempty → Placed m w'.spawns p := by
  constructor
  · intro p turns later
    refine (kept.tallied_iff pools fun before => by omega).mpr (steady.tallied p ?_)
    exact pools.nonempty (by simp [turns.1])
  · exact fun p some child c mem => kept.marked c (steady.placed p some child c mem)

lemma filled_of_fits (rolls : UInt32 → ℕ → Draw) (depth : ℕ) (steady : Steady m w.spawns)
    (fits : ∀ p, Turns m isWeekly p → Fits m isWeekly w.spawns p) {n : ℕ}
    (inside : n ≤ m.maxPoolId.toNat + 1) {w' : World}
    (done : m.changeDailyUpTo isWeekly rolls depth n w = some w') :
    ∀ e, Turns m isWeekly e → e.toNat < n → m.Filled w'.spawns e := by
  induction n generalizing w' with
  | zero => exact fun e _ before => absurd before (Nat.not_lt_zero _)
  | succ n ih =>
    obtain ⟨w₁, done₁, kept⟩ := changeDailyUpTo_spec pools rolls depth
      (Nat.le_of_succ_le inside) steady
    have earlier := ih (Nat.le_of_succ_le inside) done₁
    obtain ⟨tallied, placed⟩ := steady.atTurn pools kept
    have this := toNat_ofNat (m := m) (n := n) (by omega)
    obtain ⟨w₂, visited, kept', turned⟩ := changeDailyPool_spec pools rolls depth (UInt32.ofNat n)
      (fun turns => tallied _ turns this.ge) (placed _)
    simp only [PoolMgr.changeDailyUpTo, done₁, bind, Option.bind, visited] at done
    obtain rfl := Option.some.inj done
    intro e turns before
    by_cases now : e = UInt32.ofNat n
    · -- its own turn
      subst now
      refine turned turns ((rotatable_iff_fits pools turns ?_ ?_).mpr (fits _ turns))
      · rwa [this]
      · rwa [this]
    · have less : e.toNat < n := by
        have other : e.toNat ≠ n := fun hs => now (UInt32.toNat_inj.mp (hs.trans this.symm))
        omega
      exact (kept'.filled_iff pools fun hs => now hs.1).mpr (earlier e turns less)

omit pools in
lemma changeDailyUpTo_congr {rolls rolls' : UInt32 → ℕ → Draw} {depth n : ℕ}
    (hs : ∀ k < n, rolls (UInt32.ofNat k) = rolls' (UInt32.ofNat k)) (w : World) :
    m.changeDailyUpTo isWeekly rolls depth n w = m.changeDailyUpTo isWeekly rolls' depth n w := by
  induction n with
  | zero => rfl
  | succ n ih =>
    have rest := ih fun k less => hs k (less.trans (Nat.lt_succ_self n))
    simp only [PoolMgr.changeDailyUpTo, rest, PoolMgr.changeDailyPool,
      hs n (Nat.lt_succ_self n)]

lemma fits_of_filled (depth : ℕ) (steady : Steady m w.spawns)
    (filled : ∀ rolls, ∃ w', m.changeDailyQuests isWeekly rolls depth w = some w' ∧
      ∀ p, (m.quests p).Nonempty → m.Filled w'.spawns p) (turns : Turns m isWeekly p) :
    Fits m isWeekly w.spawns p := by
  have some := pools.nonempty (p := p) (by simp [turns.1])
  have inside := UInt32.le_iff_toNat_le.mp (pools.inside p some)
  have back : UInt32.ofNat p.toNat = p := UInt32.ofNat_toNat
  -- the state at the turn of the pool, and the end of the pass
  have turn : ∀ rolls, ∃ w₁, m.changeDailyUpTo isWeekly rolls depth p.toNat w = .some w₁ ∧
      Kept m (fun q => q.toNat < p.toNat ∧ Turns m isWeekly q) w w₁ ∧
      (∀ e, Turns m isWeekly e → e.toNat < p.toNat → m.Filled w₁.spawns e) ∧
      ∀ w₂, m.changeDailyPool isWeekly rolls depth p w₁ = .some w₂ → m.Filled w₂.spawns p := by
    intro rolls
    obtain ⟨w', done, full⟩ := filled rolls
    obtain ⟨w₁, done₁, kept⟩ := changeDailyUpTo_spec pools rolls depth (n := p.toNat)
      (by omega) steady
    obtain ⟨tallied, placed⟩ := steady.atTurn pools kept
    refine ⟨w₁, done₁, kept, fun e turns' before => ?_, fun w₂ visited => ?_⟩
    · obtain ⟨w'', done'', rest⟩ := changeDailyUpTo_from pools rolls depth
        (N := m.maxPoolId.toNat + 1) (by omega) le_rfl done₁ tallied placed
      obtain rfl := Option.some.inj (done''.symm.trans done)
      exact (rest.filled_iff pools fun late => by omega).mp
        (full e (pools.nonempty (by simp [turns'.1])))
    · obtain ⟨w₂', visited', kept', -⟩ := changeDailyPool_spec pools rolls depth p
        (fun turns' => tallied p turns' le_rfl) (placed p)
      obtain rfl := Option.some.inj (visited'.symm.trans visited)
      have reached : m.changeDailyUpTo isWeekly rolls depth (p.toNat + 1) w = .some w₂' := by
        simp only [PoolMgr.changeDailyUpTo, done₁, bind, Option.bind, back, visited]
      obtain ⟨w'', done'', rest⟩ := changeDailyUpTo_from pools rolls depth
        (N := m.maxPoolId.toNat + 1) (by omega) le_rfl reached
        (fun q turns' later => (kept'.tallied_iff pools fun hs => by
          rw [hs.1] at later
          omega).mpr (tallied q turns' (by omega)))
        (fun q some' child c mem => kept'.marked c (placed q some' child c mem))
      obtain rfl := Option.some.inj (done''.symm.trans done)
      exact (rest.filled_iff pools fun late => by omega).mp (full p some)
  obtain ⟨w₁, done₁, kept, earlier, -⟩ := turn fun _ _ => ⟨0, 0⟩
  refine (rotatable_iff_fits pools turns kept earlier).mp ?_
  by_contra stuck
  have tallied := (steady.atTurn pools kept).1 p turns le_rfl
  obtain ⟨draws, w₂, rotated, empty⟩ := exists_not_filled pools some tallied stuck
  -- the same pass with the draws that show it
  obtain ⟨w₁', done₁', -, -, full⟩ := turn (Function.update (fun _ _ => ⟨0, 0⟩) p draws)
  have hs : m.changeDailyUpTo isWeekly (Function.update (fun _ _ => ⟨0, 0⟩) p draws) depth
      p.toNat w = m.changeDailyUpTo isWeekly (fun _ _ => ⟨0, 0⟩) depth p.toNat w := by
    refine changeDailyUpTo_congr (fun k less => Function.update_of_ne ?_ _ _) w
    intro hs
    have number := toNat_ofNat (m := m) (n := k) (by omega)
    rw [hs] at number
    omega
  obtain rfl := Option.some.inj (done₁'.symm.trans (hs.trans done₁))
  refine empty (full w₂ ?_)
  rw [changeDailyPool_turns pools turns, Function.update_self]
  exact rotated

end

/-! ### The spawn that reads the saved quests -/

def restored (m : PoolMgr) (w : World) (p : UInt32) : List UInt32 :=
  (w.answers 0 p).take (PoolGroup.effectiveLimit (m.maxLimit p))

/-- Saved quests are different inactive members that make up the rest of the quota; without
saved quests the pool is rotatable. -/
def SpawnFits (m : PoolMgr) (w : World) (p : UInt32) : Prop :=
  if w.answers 0 p = [] then Rotatable m w.spawns p
  else (restored m w p).Nodup ∧ (∀ id ∈ restored m w p, id ∈ m.quests p \ w.spawns.activeQuests) ∧
    (m.activeQuests w.spawns p).card + (restored m w p).length = m.quota p

/-- Nothing has changed for the other pools. -/
def OthersKept (m : PoolMgr) (p : UInt32) (w w' : World) : Prop :=
  ∀ q, q ≠ p → m.activeQuests w'.spawns q = m.activeQuests w.spawns q ∧
    w'.spawns.getActiveObjectCount q = w.spawns.getActiveObjectCount q

/-- Activating quests fills the pool if and only if they are the ones that are missing. -/
lemma filled_activateAll_iff {m : PoolMgr} {d : ActivePoolData} (tallied : m.Tallied d p)
    (taken : List UInt32) : m.Filled (d.activateAll p taken) p ↔
      taken.Nodup ∧ (∀ id ∈ taken, id ∈ m.quests p \ d.activeQuests) ∧
        (m.activeQuests d p).card + taken.length = m.quota p := by
  have active : m.activeQuests (d.activateAll p taken) p =
      m.activeQuests d p ∪ (m.quests p \ d.activeQuests) ∩ taken.toFinset := by
    ext id
    simp only [PoolMgr.activeQuests, ActivePoolData.activeQuests_activateAll, Finset.mem_inter,
      Finset.mem_union, Finset.mem_sdiff]
    tauto
  have apart : Disjoint (m.activeQuests d p)
      ((m.quests p \ d.activeQuests) ∩ taken.toFinset) := by
    rw [Finset.disjoint_left]
    intro id old new
    exact (Finset.mem_sdiff.mp (Finset.mem_inter.mp new).1).2 (Finset.mem_inter.mp old).2
  rw [PoolMgr.Filled, ActivePoolData.count_activateAll, if_pos rfl, tallied, active,
    Finset.card_union_of_disjoint apart]
  have distinct := taken.toFinset_card_le
  constructor
  · rintro ⟨full, members⟩
    have all : (m.quests p \ d.activeQuests) ∩ taken.toFinset = taken.toFinset :=
      Finset.eq_of_subset_of_card_le Finset.inter_subset_right (by omega)
    have different : taken.toFinset.card = taken.length := by
      rw [all] at members
      omega
    refine ⟨?_, fun id mem => ?_, full⟩
    · rw [← Multiset.coe_nodup, ← Multiset.toFinset_card_eq_card_iff_nodup]
      exact different
    · rw [← List.mem_toFinset, ← all] at mem
      exact (Finset.mem_inter.mp mem).1
  · rintro ⟨nodup, inside, full⟩
    refine ⟨full, ?_⟩
    have all : (m.quests p \ d.activeQuests) ∩ taken.toFinset = taken.toFinset :=
      Finset.inter_eq_right.mpr fun id mem => inside id (List.mem_toFinset.mp mem)
    rw [all, List.toFinset_card_of_nodup nodup, full]

section

variable {m : PoolMgr} {isWeekly : UInt32 → Option Bool} (pools : QuestPools m isWeekly)

include pools

lemma Kept.othersKept {w' : World} (kept : Kept m (· = p) w w') :
    OthersKept m p w w' := fun q other =>
  ⟨kept.activeQuests_eq pools other, kept.counts q other⟩

lemma othersKept_activateAll {w' : World} {taken : List UInt32}
    (inside : ∀ id ∈ taken, id ∈ m.quests p) (spawns : w'.spawns = w.spawns.activateAll p taken) :
    OthersKept m p w w' := by
  refine Kept.othersKept pools ⟨fun id foreign => ?_, fun q other => ?_, fun q marked => ?_⟩
  · rw [spawns, ActivePoolData.activeQuests_activateAll, Finset.mem_union, List.mem_toFinset]
    exact or_iff_left fun mem => foreign p rfl (inside id mem)
  · rw [spawns, ActivePoolData.count_activateAll, if_neg other]
  · rw [spawns]
    exact ActivePoolData.isActiveObject_pool_activateAll _ _ _ _ marked

lemma updatePool_othersKept (some : (m.quests p).Nonempty) (steady : Steady m w.spawns)
    (depth : ℕ) : ∃ w', m.updatePool depth .quest p 1 w = .some w' ∧ OthersKept m p w w' := by
  by_cases root : m.isPartOfAPool p = 0
  · rw [updatePool_root some root]
    obtain ⟨w', chosen, moved, done, rotation⟩ :=
      exists_rotation pools some (steady.tallied p some)
    exact ⟨w', done, rotation.kept.othersKept pools⟩
  · obtain ⟨w', done, hs⟩ := updatePool_child root (steady.placed p some) depth .quest 1
    exact ⟨w', done, (Kept.of_spawns_eq hs : Kept m (· = p) w w').othersKept pools⟩

lemma spawnQuests_iff (some : (m.quests p).Nonempty) (tallied : m.Tallied w.spawns p)
    (spawn despawn : UInt32 → World → Option World) :
    (∀ draws, ∃ w', m.spawnGroup spawn despawn .quest p 0 { w with draws := draws } = .some w' ∧
      m.Filled w'.spawns p ∧ OthersKept m p w w') ↔ SpawnFits m w p := by
  have call : ∀ w : World, m.spawnGroup spawn despawn .quest p 0 w =
      if w.answers 0 p ≠ [] then .some (PoolGroup.restoreQuests p (w.answers 0 p)
        (m.maxLimit p) (w.query p).2)
      else (m.groups .quest p).rotateQuests (m.maxLimit p) (w.query p).2 := by
    intro w
    simp only [PoolMgr.spawnGroup, PoolMgr.isEmpty_eq_false some, Bool.false_eq_true, if_false,
      PoolGroup.spawnQuests, if_true, pools.ids p some, World.query]
  by_cases saved : w.answers 0 p = []
  · rw [SpawnFits, if_pos saved]
    constructor
    · intro all
      by_contra stuck
      obtain ⟨draws, w₁, rotated, empty⟩ :=
        exists_not_filled pools some (w := (w.query p).2) tallied stuck
      obtain ⟨w', done, filled, -⟩ := all draws
      rw [call, if_neg (not_not.mpr saved)] at done
      obtain rfl := Option.some.inj (done.symm.trans rotated)
      exact empty filled
    · intro rotatable draws
      obtain ⟨w', chosen, moved, done, rotation⟩ := exists_rotation pools some
        (w := ({ w with draws := draws } : World).query p |>.2) tallied
      refine ⟨w', ?_, rotation.filled rotatable, rotation.kept.othersKept pools⟩
      rw [call, if_neg (not_not.mpr saved)]
      exact done
  · rw [SpawnFits, if_neg saved, ← filled_activateAll_iff tallied]
    have done : ∀ draws, m.spawnGroup spawn despawn .quest p 0 { w with draws := draws } =
        .some { ({ w with draws := draws } : World).query p |>.2 with
          spawns := w.spawns.activateAll p (restored m w p) } := by
      intro draws
      rw [call, if_pos saved, PoolGroup.restoreQuests_eq]
      rfl
    constructor
    · intro all
      obtain ⟨w', done', filled, -⟩ := all w.draws
      obtain rfl := Option.some.inj (done'.symm.trans (done w.draws))
      exact filled
    · intro filled draws
      refine ⟨_, done draws, filled, othersKept_activateAll pools (fun id mem => ?_) rfl⟩
      have inside := ((filled_activateAll_iff tallied _).mp filled).2.1 id mem
      exact (Finset.mem_sdiff.mp inside).1

/-- When the pass and the spawn of one pool fill every pool, whatever is drawn. An update of
one pool never changes another. -/
theorem dailyRotation_iff {w : World} (steady : Steady m w.spawns) (depth : ℕ) :
    ((∀ rolls, ∃ w', m.changeDailyQuests isWeekly rolls depth w = some w' ∧
      (∀ p, (m.quests p).Nonempty → m.Filled w'.spawns p) ∧
      ∀ p q, p ≠ q → Disjoint (m.activeQuests w'.spawns p) (m.activeQuests w'.spawns q)) ↔
        DailyFits m isWeekly w.spawns) ∧
    (∀ p, (m.quests p).Nonempty →
      ((∀ draws, ∃ w', m.spawnGroup (m.spawnPool depth) (m.despawnPool depth) .quest p 0
          { w with draws := draws } = some w' ∧ m.Filled w'.spawns p ∧ OthersKept m p w w') ↔
        SpawnFits m w p)) ∧
    ∀ p, (m.quests p).Nonempty → ∀ draws, ∃ w',
      m.updatePool depth .quest p 1 { w with draws := draws } = some w' ∧ OthersKept m p w w' := by
  refine ⟨⟨fun all => ?_, fun fits rolls => ?_⟩, fun p some => ?_, fun p some draws => ?_⟩
  · refine fun p some => ⟨fun turns => ?_, fun still => ?_⟩
    · refine fits_of_filled pools depth steady (fun rolls => ?_) turns
      obtain ⟨w', done, filled, -⟩ := all rolls
      exact ⟨w', done, filled⟩
    · -- the pass does not touch the pool
      obtain ⟨w', done, filled, -⟩ := all fun _ => w.draws
      obtain ⟨w'', done', kept⟩ :=
        changeDailyUpTo_spec pools (fun _ => w.draws) depth le_rfl steady
      obtain rfl := Option.some.inj (done.symm.trans done')
      exact (kept.filled_iff pools fun turns => still turns.2).mp (filled p some)
  · obtain ⟨w', done, kept⟩ := changeDailyUpTo_spec pools rolls depth le_rfl steady
    refine ⟨w', done, fun p some => ?_, fun p q other => ?_⟩
    · by_cases turns : Turns m isWeekly p
      · have inside := UInt32.le_iff_toNat_le.mp (pools.inside p some)
        exact filled_of_fits pools rolls depth steady
          (fun q turns' => (fits q (pools.nonempty (by simp [turns'.1]))).1 turns') le_rfl done p
          turns (by omega)
      · exact (kept.filled_iff pools fun turns' => turns turns'.2).mpr ((fits p some).2 turns)
    · rw [Finset.disjoint_left]
      intro id left right
      exact other (pools.apart id p q (Finset.mem_inter.mp left).1 (Finset.mem_inter.mp right).1)
  · exact spawnQuests_iff pools some (steady.tallied p some) _ _
  · exact updatePool_othersKept pools some (w := { w with draws := draws })
      ⟨steady.tallied, steady.placed⟩ depth

end

/-! ### Two pools -/

def twoQuestPools (limit : UInt32) (first second : List UInt32) : PoolMgr where
  maxPoolId := 2
  maxLimit := fun _ => limit
  groups := fun kind p =>
    if kind = .quest ∧ p = 1 then { poolId := 1, equalChanced := first.map fun id => ⟨id, 0⟩ }
    else if kind = .quest ∧ p = 2 then
      { poolId := 2, equalChanced := second.map fun id => ⟨id, 0⟩ }
    else {}
  poolSearchMap := fun _ => none

def allDaily (id : UInt32) : Option Bool := if id = 0 then none else some false

def oneEach : World where
  spawns := {
    activeQuests := {11, 21}
    spawnedPools := fun p => if p = 1 ∨ p = 2 then some 1 else none }
  draws := fun _ => ⟨0, 0⟩
  answers := fun _ _ => []

section

variable (limit : UInt32) (first second : List UInt32)

lemma quests_twoQuestPools (p : UInt32) :
    (twoQuestPools limit first second).quests p =
      if p = 1 then first.toFinset else if p = 2 then second.toFinset else ∅ := by
  have ids : ∀ ids : List UInt32, (ids.map fun id => (⟨id, 0⟩ : PoolObject)).map PoolObject.guid =
      ids := by
    intro ids
    simp [Function.comp_def]
  simp only [PoolMgr.quests, PoolGroup.guids, PoolGroup.objects, twoQuestPools, true_and]
  split_ifs <;> simp [ids]

lemma twoQuestPools_pools (apart : ∀ id ∈ first, id ∉ second) :
    QuestPools (twoQuestPools limit first second) allDaily where
  apart id p q left right := by
    rw [quests_twoQuestPools] at left right
    split_ifs at left right with h₁ h₂ h₃ h₄ h₅ h₆ <;> simp_all
  inside p some := by
    rw [quests_twoQuestPools] at some
    split_ifs at some with one two
    · rw [one]
      exact (by decide : (1 : UInt32) ≤ 2)
    · rw [two]
      exact (by decide : (2 : UInt32) ≤ 2)
    · simp at some
  ids p some := by
    rw [quests_twoQuestPools] at some
    split_ifs at some with one two
    · simp [twoQuestPools, one]
    · simp [twoQuestPools, two]
    · simp at some
  equal p := by
    simp only [twoQuestPools, true_and]
    split_ifs <;> rfl
  zero := rfl

lemma twoQuestPools_steady (one : (first.toFinset ∩ {11, 21}).card = 1)
    (two : (second.toFinset ∩ {11, 21}).card = 1) :
    Steady (twoQuestPools limit first second) oneEach.spawns where
  tallied p some := by
    rw [quests_twoQuestPools] at some
    rw [PoolMgr.Tallied, PoolMgr.activeQuests, quests_twoQuestPools]
    split_ifs at some ⊢ with first' second'
    · rw [first']
      exact one.symm
    · rw [second']
      exact two.symm
    · simp at some
  placed p some child := absurd rfl child

end

/-- With a limit of two, a pool with a single quest takes the quest of the other pool. -/
theorem recycledQuest_overfills :
    QuestPools (twoQuestPools 2 [11] [21]) allDaily ∧
      Steady (twoQuestPools 2 [11] [21]) oneEach.spawns ∧
      ¬ ∀ rolls, ∃ w', (twoQuestPools 2 [11] [21]).changeDailyQuests allDaily rolls 1 oneEach =
        some w' ∧ ∀ p, ((twoQuestPools 2 [11] [21]).quests p).Nonempty →
          (twoQuestPools 2 [11] [21]).Filled w'.spawns p := by
  have pools := twoQuestPools_pools 2 [11] [21] (by simp)
  have steady := twoQuestPools_steady 2 [11] [21] (by decide) (by decide)
  refine ⟨pools, steady, fun filled => ?_⟩
  have turns : Turns (twoQuestPools 2 [11] [21]) allDaily 1 := ⟨by decide, rfl⟩
  obtain ⟨-, enough | ⟨-, origin⟩⟩ := fits_of_filled pools 1 steady filled turns
  · exact absurd enough (by decide)
  · rcases origin 21 (by decide) with own | ⟨e, before, -, mem⟩
    · exact absurd own (by decide)
    · rw [quests_twoQuestPools] at mem
      split_ifs at mem with one two
      · exact UInt32.lt_irrefl 1 (one ▸ before)
      · exact absurd (two ▸ before) (by decide)
      · simp at mem

/-- With a limit of one, each pool takes its other quest. -/
theorem dailyRotation_iff_oneEach : ∃ w',
    (twoQuestPools 1 [11, 12] [21, 22]).changeDailyQuests allDaily (fun _ => oneEach.draws) 1
      oneEach = some w' ∧
      (∀ p, ((twoQuestPools 1 [11, 12] [21, 22]).quests p).Nonempty →
        (twoQuestPools 1 [11, 12] [21, 22]).Filled w'.spawns p) ∧
      ∀ p q, p ≠ q → Disjoint ((twoQuestPools 1 [11, 12] [21, 22]).activeQuests w'.spawns p)
        ((twoQuestPools 1 [11, 12] [21, 22]).activeQuests w'.spawns q) := by
  have pools := twoQuestPools_pools 1 [11, 12] [21, 22] (by simp)
  have steady := twoQuestPools_steady 1 [11, 12] [21, 22] (by decide) (by decide)
  refine (dailyRotation_iff pools steady 1).1.mpr (fun p some => ⟨fun _ => ?_, fun still => ?_⟩) _
  · refine ⟨.inl (by simp [twoQuestPools]), .inl ?_⟩
    rw [quests_twoQuestPools] at some ⊢
    split_ifs at some ⊢
    · exact (by decide : (1 : UInt32).toNat ≤ ([11, 12].toFinset \ {11, 21}).card)
    · exact (by decide : (1 : UInt32).toNat ≤ ([21, 22].toFinset \ {11, 21}).card)
    · simp at some
  · refine absurd ⟨?_, rfl⟩ still
    rw [quests_twoQuestPools] at some
    split_ifs at some with one two
    · subst one
      decide
    · subst two
      decide
    · simp at some

end WorldServer.Pools
