import WorldServer.Pools.Loader

/-!
# The pass over the circular references

One walk takes out the pointer that closes the cycle it finds, and a cycle is found by the
least pool that leads into it. So after the pass the map is what was read without one pointer
of each cycle, and the groups have lost the same relations.
-/
namespace WorldServer.Pools

open Lib

/-! ### One walk -/

structure Walked (next : UInt32 → Option UInt32) (i : UInt32) (checked : Finset UInt32)
    (pool : UInt32) : Prop where
  leads : Leads next i pool
  ahead : ∀ x ∈ checked, Leads next i x
  behind : ∀ x ∈ checked, Leads next x pool
  fresh : pool ∉ checked
  from' : ∀ x ∈ insert pool checked, x = i ∨ ∃ y ∈ checked, Points next y x
  pointing : ∀ x ∈ checked, next x ≠ none

lemma Walked.start (next : UInt32 → Option UInt32) (i : UInt32) : Walked next i ∅ i := by
  constructor
  · exact .refl
  all_goals simp

variable {pool : UInt32} {checked : Finset UInt32}

lemma Walked.step {next : UInt32 → Option UInt32} {i mother : UInt32}
    (walked : Walked next i checked pool) (points : Points next pool mother)
    (new : mother ∉ insert pool checked) :
    Walked next i (insert pool checked) mother where
  leads := walked.leads.tail points
  ahead x mem := by
    rcases Finset.mem_insert.mp mem with rfl | mem
    · exact walked.leads
    · exact walked.ahead x mem
  behind x mem := by
    rcases Finset.mem_insert.mp mem with rfl | mem
    · exact .single points
    · exact (walked.behind x mem).tail points
  fresh := new
  from' x mem := by
    rcases Finset.mem_insert.mp mem with rfl | mem
    · exact .inr ⟨pool, Finset.mem_insert_self _ _, points⟩
    · refine (walked.from' x mem).imp_right ?_
      rintro ⟨y, mem', points'⟩
      exact ⟨y, Finset.mem_insert_of_mem mem', points'⟩
  pointing x mem := by
    rcases Finset.mem_insert.mp mem with rfl | mem
    · rw [show next x = some mother from points]
      simp
    · exact walked.pointing x mem

lemma Walked.closes {next : UInt32 → Option UInt32} {i mother : UInt32}
    (walked : Walked next i checked pool) (points : Points next pool mother)
    (again : mother ∈ insert pool checked) : Closes next i pool := by
  have back : Leads next mother pool := by
    rcases Finset.mem_insert.mp again with rfl | mem
    · exact .refl
    · exact walked.behind _ mem
  have cycle := onCycle_of_points points back
  refine ⟨cycle, walked.leads, mother, points, (walked.from' mother again).imp_right ?_⟩
  rintro ⟨y, mem, points'⟩
  -- a point behind on the cycle would be the pool itself
  refine ⟨y, walked.ahead y mem, fun cycle' => ?_, points'⟩
  obtain rfl := cycle'.points_inj cycle points' points
  exact walked.fresh mem

/-- There are `n` pools with a pointer at most. -/
def PointsBelow (next : UInt32 → Option UInt32) (n : ℕ) : Prop := ∀ x, next x ≠ none → x.toNat < n

lemma checkFrom_spec (l : PoolLinks) {i : UInt32} {n : ℕ} (below : PointsBelow l.searchMap n)
    (rounds : ℕ) (walked : Walked l.searchMap i checked pool) (enough : checked.card + rounds = n) :
    (l.checkFrom rounds checked pool = l ∧ ∀ b, Leads l.searchMap i b → ¬ OnCycle l.searchMap b) ∨
      ∃ c mother, Points l.searchMap c mother ∧ Closes l.searchMap i c ∧
        l.checkFrom rounds checked pool = l.removeLink c mother := by
  induction rounds generalizing checked pool with
  | zero =>
    refine .inl ⟨rfl, fun b => walked.leads.not_onCycle ?_⟩
    -- all pools with a pointer are checked
    by_contra points
    have many : (insert pool checked).card ≤ (Finset.range n).card := by
      refine Finset.card_le_card_of_injOn UInt32.toNat (fun x mem => ?_)
        fun x _ y _ hs => UInt32.toNat_inj.mp hs
      rw [Finset.coe_range, Set.mem_Iio]
      rcases Finset.mem_insert.mp mem with rfl | mem
      · exact below _ points
      · exact below x (walked.pointing x mem)
    rw [Finset.card_insert_of_notMem walked.fresh, Finset.card_range] at many
    omega
  | succ rounds ih =>
    rw [PoolLinks.checkFrom]
    split
    next last => exact .inl ⟨rfl, fun b => walked.leads.not_onCycle last⟩
    next mother points =>
      split
      next again => exact .inr ⟨pool, mother, points, walked.closes points again, rfl⟩
      next new =>
        refine ih (walked.step points new) ?_
        rw [Finset.card_insert_of_notMem walked.fresh]
        omega

/-! ### What is cut -/

/-- The cycle of `c` is first reached from a pool below `n`, and closed by the pointer of `c`. -/
def CutBefore (next : UInt32 → Option UInt32) (n : ℕ) (c : UInt32) : Prop :=
  ∃ i, i.toNat < n ∧ Closes next i c ∧ ∀ j, Leads next j c → i ≤ j

/-- The map `kept` after the walks from the pools below `n`. -/
structure Pruned (next : UInt32 → Option UInt32) (n : ℕ) (kept : UInt32 → Option UInt32) :
    Prop where
  points : ∀ c m, Points kept c m ↔ Points next c m ∧ ¬ CutBefore next n c
  ends : ∀ j, j.toNat < n → ∀ b, Leads kept j b → ¬ OnCycle kept b

lemma pruned_start (next : UInt32 → Option UInt32) : Pruned next 0 next where
  points _ _ := (and_iff_left fun cut => Nat.not_lt_zero _ cut.choose_spec.1).symm
  ends _ below := absurd below (Nat.not_lt_zero _)

section

variable {next kept : UInt32 → Option UInt32} {n : ℕ} {i c : UInt32}

lemma CutBefore.mono (cut : CutBefore next n c) : CutBefore next (n + 1) c := by
  obtain ⟨i, below, rest⟩ := cut
  exact ⟨i, below.trans (Nat.lt_succ_self n), rest⟩

lemma CutBefore.cases (cut : CutBefore next (n + 1) c) (number : i.toNat = n) :
    CutBefore next n c ∨ Closes next i c ∧ ∀ j, Leads next j c → i ≤ j := by
  obtain ⟨i', below, closes, least⟩ := cut
  by_cases now : i' = i
  · subst now
    exact .inr ⟨closes, least⟩
  · have other : i'.toNat ≠ n := fun hs => now (UInt32.toNat_inj.mp (hs.trans number.symm))
    exact .inl ⟨i', by omega, closes, least⟩

lemma leads_of_cycles {j x : UInt32} (left : Leads next j c) (right : Leads next j x)
    (cycle : OnCycle next x) : Leads next c x := by
  rcases left.total right with forward | back
  · exact forward
  · exact (cycle.of_leads back).2

lemma Pruned.fewer (pruned : Pruned next n kept) (a b : UInt32) (points : Points kept a b) :
    Points next a b := ((pruned.points a b).mp points).1

section

variable (pruned : Pruned next n kept) (number : i.toNat = n)
include pruned number

lemma Pruned.pass (none : ∀ b, Leads kept i b → ¬ OnCycle kept b) : Pruned next (n + 1) kept := by
  have hs : ∀ c, CutBefore next (n + 1) c ↔ CutBefore next n c := by
    refine fun c => ⟨fun cut => ?_, CutBefore.mono⟩
    rcases cut.cases number with before | ⟨⟨cycle, leads, -⟩, least⟩
    · exact before
    · -- nothing on the way has been cut, so the walk would have found the cycle
      have all : ∀ x y, Leads next i x → Points next x y → Points kept x y := by
        refine fun x y leads' points => (pruned.points x y).mpr ⟨points, ?_⟩
        rintro ⟨j, below, ⟨cycle', leadsx, -⟩, -⟩
        have first := least j (leadsx.trans
          (leads_of_cycles leads' leads cycle))
        have := UInt32.le_iff_toNat_le.mp first
        omega
      exact absurd (OnCycle.kept all leads cycle) (none c (Leads.kept all leads))
  refine ⟨fun c m => by rw [pruned.points, hs], fun j below => ?_⟩
  by_cases now : j = i
  · rw [now]
    exact none
  · have other : j.toNat ≠ n := fun hs => now (UInt32.toNat_inj.mp (hs.trans number.symm))
    exact pruned.ends j (by omega)

/-- A pointer that closes a cycle now closes it among all pointers, for the first time. -/
lemma Pruned.cutBefore (closes : Closes kept i c) : CutBefore next (n + 1) c := by
  obtain ⟨cycle, leads, m, points, enters⟩ := closes
  -- what leads to this cycle has not been cut
  have all : ∀ j, Leads next j c → ∀ x y, Leads next j x → Points next x y → Points kept x y := by
    refine fun j toCycle x y leads' points' => (pruned.points x y).mpr ⟨points', ?_⟩
    rintro ⟨k, below, closes', least⟩
    have here := cycle.leads_kept pruned.fewer (leads_of_cycles toCycle leads' closes'.1)
    obtain ⟨z, out, -⟩ := Relation.TransGen.head'_iff.mp (cycle.of_leads here).1
    exact ((pruned.points x z).mp out).2 ⟨k, below, closes', least⟩
  have leads' := leads.of_fewer pruned.fewer
  refine ⟨i, by omega, ⟨cycle.of_fewer pruned.fewer, leads', m, pruned.fewer _ _ points, ?_⟩, ?_⟩
  · refine enters.imp_right ?_
    rintro ⟨x, leadsx, outside, pointsx⟩
    have leadsx' := leadsx.of_fewer pruned.fewer
    exact ⟨x, leadsx', fun cycle' => outside (OnCycle.kept (all i leads') leadsx' cycle'),
      pruned.fewer _ _ pointsx⟩
  · intro j toCycle
    by_contra smaller
    have below : j.toNat < n := by
      have := UInt32.lt_iff_toNat_lt.mp (UInt32.not_le.mp smaller)
      omega
    exact pruned.ends j below c (Leads.kept (all j toCycle) toCycle) cycle

lemma Pruned.cutBefore_succ_iff (closes : Closes kept i c) (x : UInt32) :
    CutBefore next (n + 1) x ↔ CutBefore next n x ∨ x = c := by
  have cut := pruned.cutBefore number closes
  have notBefore : ¬ CutBefore next n c := by
    obtain ⟨z, out, -⟩ := Relation.TransGen.head'_iff.mp closes.1
    exact ((pruned.points c z).mp out).2
  constructor
  · intro cut'
    rcases cut'.cases number with before | ⟨closes', -⟩
    · exact .inl before
    · exact .inr (closes'.unique ((cut.cases number).resolve_left notBefore).1)
  · rintro (before | rfl)
    · exact before.mono
    · exact cut

lemma Pruned.cut (closes : Closes kept i c) :
    Pruned next (n + 1) (Function.update kept c none) := by
  have fewer : ∀ a b, Points (Function.update kept c none) a b → Points kept a b := by
    intro a b points
    by_cases hs : a = c
    · subst hs
      simp [Points] at points
    · rwa [Points, Function.update_of_ne hs] at points
  refine ⟨fun x m => ?_, fun j below b leads cycle => ?_⟩
  · rw [pruned.cutBefore_succ_iff number closes, not_or, ← and_assoc, ← pruned.points]
    by_cases hs : x = c
    · subst hs
      simp [Points]
    · rw [Points, Function.update_of_ne hs]
      exact (and_iff_left hs).symm
  · have cycle' := cycle.of_fewer fewer
    have leads' := leads.of_fewer fewer
    by_cases now : j = i
    · -- the cycle would go through the pointer that was cut
      subst now
      have through := cycle.leads_kept fewer
        (leads_of_cycles leads' closes.2.1 closes.1)
      obtain ⟨z, out, -⟩ := Relation.TransGen.head'_iff.mp (cycle.of_leads through).1
      simp [Points] at out
    · have other : j.toNat ≠ n := fun hs =>
        now (UInt32.toNat_inj.mp (hs.trans number.symm))
      exact pruned.ends j (by omega) b leads' cycle'

end

end

/-! ### The whole pass -/

/-- The links after the walks from the pools below `n`. -/
structure Passed (read : PoolLinks) (n : ℕ) (l : PoolLinks) : Prop where
  pruned : Pruned read.searchMap n l.searchMap
  cut : ∀ c m list, CutBefore read.searchMap n c → Points read.searchMap c m →
    (l.groups m).times list c = (read.groups m).times list c - 1
  uncut : ∀ c m list, ¬ (CutBefore read.searchMap n c ∧ Points read.searchMap c m) →
    (l.groups m).times list c = (read.groups m).times list c

lemma Passed.walk {read l : PoolLinks} {n bound : ℕ} (passed : Passed read n l) {i : UInt32}
    (number : i.toNat = n) (below : PointsBelow read.searchMap bound) :
    Passed read (n + 1) (l.checkFrom bound ∅ i) := by
  have below' : PointsBelow l.searchMap bound := by
    intro x points
    obtain ⟨m, points⟩ := Option.ne_none_iff_exists'.mp points
    refine below x ?_
    rw [show read.searchMap x = some m from passed.pruned.fewer _ _ points]
    simp
  rcases checkFrom_spec l below' bound (.start _ i) (by simp) with
    ⟨hs, none⟩ | ⟨c, mother, points, closes, result⟩
  · rw [hs]
    have pruned := passed.pruned.pass number none
    -- the same pointers are left, so nothing more is cut
    have cuts : ∀ c m, Points read.searchMap c m →
        (CutBefore read.searchMap (n + 1) c ↔ CutBefore read.searchMap n c) := by
      intro c m points
      have kept := (pruned.points c m).symm.trans (passed.pruned.points c m)
      exact not_iff_not.mp ((and_congr_right_iff (a := Points read.searchMap c m)).mp kept points)
    refine ⟨pruned, fun c m list before points => ?_, fun c m list other => ?_⟩
    · exact passed.cut c m list ((cuts c m points).mp before) points
    · refine passed.uncut c m list fun before => other ⟨before.1.mono, before.2⟩
  · rw [result]
    have iff := passed.pruned.cutBefore_succ_iff number closes
    have notBefore := ((passed.pruned.points c mother).mp points).2
    have points' := passed.pruned.fewer _ _ points
    refine ⟨passed.pruned.cut number closes, fun x m list before pointsx => ?_,
      fun x m list other => ?_⟩
    · simp only [PoolLinks.removeLink, Function.update_apply]
      rcases (iff x).mp before with before | rfl
      · have different : x ≠ c := fun hs => notBefore (hs ▸ before)
        split
        next hs =>
          subst hs
          rw [PoolGroup.times_removeOneRelation, if_neg different]
          exact passed.cut x _ list before pointsx
        next => exact passed.cut x m list before pointsx
      · obtain rfl := points_unique pointsx points'
        rw [if_pos rfl, PoolGroup.times_removeOneRelation, if_pos rfl,
          passed.uncut x m list fun both => notBefore both.1]
    · have earlier : ¬ (CutBefore read.searchMap n x ∧ Points read.searchMap x m) := fun both =>
        other ⟨both.1.mono, both.2⟩
      simp only [PoolLinks.removeLink, Function.update_apply]
      split
      next hs =>
        subst hs
        have different : x ≠ c := by
          rintro rfl
          exact other ⟨(iff x).mpr (.inr rfl), points'⟩
        rw [PoolGroup.times_removeOneRelation, if_neg different]
        exact passed.uncut x _ list earlier
      next => exact passed.uncut x m list earlier

lemma passed_checkCircular (m : PoolMgr) (read : PoolLinks)
    (below : PointsBelow read.searchMap (m.maxPoolId.toNat + 1)) {n : ℕ}
    (inside : n ≤ m.maxPoolId.toNat) : Passed read n (m.checkCircular read n) := by
  induction n with
  | zero =>
    refine ⟨pruned_start _, fun c _ _ before => ?_, fun _ _ _ _ => rfl⟩
    exact absurd before.choose_spec.1 (Nat.not_lt_zero _)
  | succ n ih =>
    have small := m.maxPoolId.toNat_lt
    have number : (UInt32.ofNat n).toNat = n :=
      UInt32.toNat_ofNat_of_lt' (by simp only [UInt32.size]; omega)
    exact (ih (by omega)).walk number below

end WorldServer.Pools
