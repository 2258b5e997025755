import Mathlib.Data.List.GetD
import WorldServer.Pools.Spawn

/-!
# What the quest groups do

Activating quests and clearing them, as equations on the set of active quests and on the
counters. The random choices are summed up by the set they choose.
-/
namespace WorldServer.Pools

lemma selectRandom_mem {s : Finset UInt32} (some : s ≠ ∅) (index : ℕ) :
    selectRandom s index ∈ s := by
  have positive := Finset.card_pos.mpr (Finset.nonempty_iff_ne_empty.mpr some)
  have inside : index % s.card < (s.sort (· ≤ ·)).length := by
    rw [Finset.length_sort]
    exact Nat.mod_lt _ positive
  rw [selectRandom, List.getD_eq_getElem _ _ inside]
  exact (Finset.mem_sort _).mp (List.getElem_mem inside)

lemma exists_selectRandom {s : Finset UInt32} {id : UInt32} (mem : id ∈ s) :
    ∃ index, selectRandom s index = id := by
  obtain ⟨index, inside, here⟩ :=
    List.getElem_of_mem ((Finset.mem_sort (s := s) (r := (· ≤ ·))).mpr mem)
  refine ⟨index, ?_⟩
  rw [Finset.length_sort] at inside
  rw [selectRandom, Nat.mod_eq_of_lt inside, List.getD_eq_getElem _ _ (by simpa using inside), here]

/-! ### A list of quests activated -/

namespace ActivePoolData

def activateAll (d : ActivePoolData) (poolId : UInt32) (quests : List UInt32) : ActivePoolData :=
  quests.foldl (fun d quest => d.activateObject .quest quest poolId) d

section

variable (d : ActivePoolData) (poolId : UInt32)

@[simp] lemma activateAll_nil : d.activateAll poolId [] = d := rfl

@[simp] lemma activateAll_cons (quest : UInt32) (rest : List UInt32) :
    d.activateAll poolId (quest :: rest) =
      (d.activateObject .quest quest poolId).activateAll poolId rest := rfl

lemma activeQuests_activateAll (quests : List UInt32) :
    (d.activateAll poolId quests).activeQuests = d.activeQuests ∪ quests.toFinset := by
  induction quests generalizing d with
  | nil => simp
  | cons quest rest ih =>
    rw [activateAll_cons, ih]
    ext id
    simp [activateObject, mark, countUp]

lemma count_activateAll (id : UInt32) (quests : List UInt32) :
    (d.activateAll poolId quests).getActiveObjectCount id =
      if id = poolId then d.getActiveObjectCount id + quests.length
      else d.getActiveObjectCount id := by
  induction quests generalizing d with
  | nil => simp
  | cons quest rest ih =>
    rw [activateAll_cons, ih, activateObject, count_countUp, count_mark]
    split
    next hs => simp [hs, Nat.add_assoc, Nat.add_comm rest.length]
    next other => simp

end

end ActivePoolData

/-! ### A list of quests removed -/

namespace ActivePoolData

def removeAll (d : ActivePoolData) (poolId : UInt32) (quests : List UInt32) : ActivePoolData :=
  quests.foldl (fun d quest => d.removeObject .quest quest poolId) d

section

variable (d : ActivePoolData) (poolId : UInt32)

@[simp] lemma removeAll_nil : d.removeAll poolId [] = d := rfl

@[simp] lemma removeAll_cons (quest : UInt32) (rest : List UInt32) :
    d.removeAll poolId (quest :: rest) =
      (d.removeObject .quest quest poolId).removeAll poolId rest := rfl

lemma activeQuests_removeAll (quests : List UInt32) :
    (d.removeAll poolId quests).activeQuests = d.activeQuests \ quests.toFinset := by
  induction quests generalizing d with
  | nil => simp
  | cons quest rest ih =>
    rw [removeAll_cons, ih]
    ext id
    simp [removeObject, unmark, countDown]
    tauto

lemma count_removeAll (id : UInt32) (quests : List UInt32) :
    (d.removeAll poolId quests).getActiveObjectCount id =
      if id = poolId then d.getActiveObjectCount id - quests.length
      else d.getActiveObjectCount id := by
  induction quests generalizing d with
  | nil => simp
  | cons quest rest ih =>
    rw [removeAll_cons, ih, removeObject, count_countDown, count_unmark]
    split
    next hs => simp [hs, Nat.sub_sub, Nat.add_comm rest.length]
    next other => simp

end

end ActivePoolData

namespace PoolGroup

/-! ### The loops -/

/-- How many quests the loop activates at most: zero wraps around. -/
def effectiveLimit (limit : UInt32) : ℕ := if limit = 0 then 2 ^ 32 else limit.toNat

lemma effectiveLimit_pos (limit : UInt32) : 0 < effectiveLimit limit := by
  rw [effectiveLimit]
  split
  · exact Nat.two_pow_pos 32
  · next nonzero => exact Nat.pos_of_ne_zero fun zero => nonzero (UInt32.toNat_inj.mp zero)

lemma effectiveLimit_sub_one {limit : UInt32} (more : limit - 1 ≠ 0) :
    effectiveLimit limit = effectiveLimit (limit - 1) + 1 := by
  have small := limit.toNat_lt
  have minus : (limit - 1).toNat = (2 ^ 32 - 1 + limit.toNat) % 2 ^ 32 := by
    rfl
  simp only [effectiveLimit, if_neg more]
  split
  next zero =>
    rw [zero]
    rfl
  next nonzero =>
    have positive : limit.toNat ≠ 0 := fun zero => nonzero (UInt32.toNat_inj.mp zero)
    omega

lemma effectiveLimit_last {limit : UInt32} (last : limit - 1 = 0) : effectiveLimit limit = 1 := by
  have one : limit = 1 := by
    have sum := UInt32.sub_add_cancel limit 1
    rw [last] at sum
    exact sum.symm
  rw [one]
  rfl

lemma restoreQuests_eq (poolId : UInt32) (rows : List UInt32) (limit : UInt32) (w : World) :
    restoreQuests poolId rows limit w =
      { w with spawns := w.spawns.activateAll poolId (rows.take (effectiveLimit limit)) } := by
  induction rows generalizing limit w with
  | nil => simp [restoreQuests]
  | cons quest rest ih =>
    rw [restoreQuests]
    split
    next last => simp [effectiveLimit_last last, World.activate]
    next more =>
      rw [ih, effectiveLimit_sub_one more]
      simp [World.activate]

lemma activateQuests_succ (poolId : UInt32) (fuel : ℕ) (newQuests : Finset UInt32)
    (limit : UInt32) (w : World) {quest : UInt32}
    (pick : selectRandom newQuests (w.draws 0).index = quest) :
    activateQuests poolId (fuel + 1) newQuests limit w =
      if limit - 1 ≠ 0 ∧ newQuests.erase quest ≠ ∅
      then activateQuests poolId fuel (newQuests.erase quest) (limit - 1)
        (w.draw.2.activate .quest quest poolId)
      else w.draw.2.activate .quest quest poolId := by
  subst pick
  rfl

lemma recycle_succ (limit : UInt32) (fuel : ℕ) (currentQuests newQuests : Finset UInt32)
    (w : World) {quest : UInt32} (pick : selectRandom currentQuests (w.draws 0).index = quest) :
    recycle limit (fuel + 1) currentQuests newQuests w =
      if (insert quest newQuests).card < limit.toNat ∧ currentQuests.erase quest ≠ ∅
      then recycle limit fuel (currentQuests.erase quest) (insert quest newQuests) w.draw.2
      else (insert quest newQuests, w.draw.2) := by
  subst pick
  rfl

/-- The random activations are those of a list of different new quests, as long as the limit
and the new quests allow. -/
lemma activateQuests_spec (poolId : UInt32) (fuel : ℕ) (newQuests : Finset UInt32)
    (limit : UInt32) (w : World) (some : newQuests ≠ ∅) (enough : newQuests.card = fuel) :
    ∃ chosen : List UInt32, chosen.Nodup ∧ (∀ id ∈ chosen, id ∈ newQuests) ∧
      chosen.length = min (effectiveLimit limit) newQuests.card ∧
      (activateQuests poolId fuel newQuests limit w).spawns =
        w.spawns.activateAll poolId chosen ∧
      (activateQuests poolId fuel newQuests limit w).answers = w.answers := by
  induction fuel generalizing newQuests limit w with
  | zero => exact absurd (Finset.card_eq_zero.mp enough) some
  | succ fuel ih =>
    have mem := selectRandom_mem some (w.draws 0).index
    obtain ⟨quest, pick⟩ : ∃ quest, selectRandom newQuests (w.draws 0).index = quest := ⟨_, rfl⟩
    rw [pick] at mem
    rw [activateQuests_succ poolId fuel newQuests limit w pick]
    have fewer : (newQuests.erase quest).card = fuel := by
      rw [Finset.card_erase_of_mem mem, enough]
      rfl
    split
    next more =>
      obtain ⟨chosen, nodup, from', length, spawns, answers⟩ := ih (newQuests.erase quest)
        (limit - 1) (w.draw.2.activate .quest quest poolId) more.2 fewer
      refine ⟨quest :: chosen, ?_, ?_, ?_, ?_, ?_⟩
      · refine List.nodup_cons.mpr ⟨fun again => ?_, nodup⟩
        exact (Finset.mem_erase.mp (from' _ again)).1 rfl
      · intro id chose
        rcases List.mem_cons.mp chose with rfl | chose
        · exact mem
        · exact Finset.mem_of_mem_erase (from' _ chose)
      · rw [List.length_cons, length, effectiveLimit_sub_one more.1, enough, fewer]
        omega
      · exact spawns
      · exact answers
    next last =>
      refine ⟨[quest], by simp, by simpa using mem, ?_, rfl, rfl⟩
      have positive := effectiveLimit_pos limit
      rw [List.length_singleton, enough]
      by_cases ends : limit - 1 = 0
      · rw [effectiveLimit_last ends]
        omega
      · have none : newQuests.erase quest = ∅ := by
          by_contra left
          exact last ⟨ends, left⟩
        rw [none] at fewer
        simp only [Finset.card_empty] at fewer
        omega

lemma recycle_spec (limit : UInt32) (fuel : ℕ) (currentQuests newQuests : Finset UInt32)
    (w : World) (some : currentQuests ≠ ∅) (enough : currentQuests.card = fuel)
    (short : newQuests.card < limit.toNat) :
    ∃ moved : Finset UInt32, moved ⊆ currentQuests ∧
      (recycle limit fuel currentQuests newQuests w).1 = newQuests ∪ moved ∧
      (Disjoint currentQuests newQuests → (newQuests ∪ moved).card =
        min limit.toNat (newQuests.card + currentQuests.card)) ∧
      selectRandom currentQuests (w.draws 0).index ∈ moved ∧
      (recycle limit fuel currentQuests newQuests w).2.spawns = w.spawns ∧
      (recycle limit fuel currentQuests newQuests w).2.answers = w.answers := by
  induction fuel generalizing currentQuests newQuests w with
  | zero => exact absurd (Finset.card_eq_zero.mp enough) some
  | succ fuel ih =>
    have mem := selectRandom_mem some (w.draws 0).index
    obtain ⟨quest, pick⟩ : ∃ quest, selectRandom currentQuests (w.draws 0).index = quest :=
      ⟨_, rfl⟩
    rw [pick] at mem
    rw [recycle_succ limit fuel currentQuests newQuests w pick]
    have fewer : (currentQuests.erase quest).card = fuel := by
      rw [Finset.card_erase_of_mem mem, enough]
      rfl
    have joined : ∀ moved : Finset UInt32,
        insert quest newQuests ∪ moved = newQuests ∪ insert quest moved := by
      intro moved
      ext id
      simp
    have fresh : Disjoint currentQuests newQuests →
        (insert quest newQuests).card = newQuests.card + 1 := fun apart =>
      Finset.card_insert_of_notMem (Finset.disjoint_left.mp apart mem)
    split
    next more =>
      obtain ⟨moved, from', result, card, -, spawns, answers⟩ := ih (currentQuests.erase quest)
        (insert quest newQuests) w.draw.2 more.2 fewer more.1
      refine ⟨insert quest moved, ?_, ?_, ?_, by simp [pick], spawns, answers⟩
      · exact Finset.insert_subset mem (from'.trans (Finset.erase_subset _ _))
      · rw [result, joined]
      · intro apart
        have apart' : Disjoint (currentQuests.erase quest) (insert quest newQuests) := by
          rw [Finset.disjoint_insert_right]
          exact ⟨Finset.notMem_erase _ _,
            Finset.disjoint_of_subset_left (Finset.erase_subset _ _) apart⟩
        rw [← joined, card apart', fresh apart, fewer, enough]
        omega
    next last =>
      refine ⟨{quest}, by simpa using mem, ?_, ?_, by simp [pick], rfl, rfl⟩
      · simp [Finset.union_comm newQuests]
      · intro apart
        have hs : newQuests ∪ {quest} = insert quest newQuests := by
          simp [Finset.union_comm newQuests]
        rw [hs, fresh apart, enough]
        by_cases reached : newQuests.card + 1 < limit.toNat
        · have none : currentQuests.erase quest = ∅ := by
            by_contra left
            exact last ⟨by rwa [fresh apart], left⟩
          rw [none] at fewer
          simp only [Finset.card_empty] at fewer
          omega
        · omega

lemma clearQuests_spec (poolId : UInt32) (objs : List PoolObject) (w : World) :
    ∃ removed : List UInt32, removed.Nodup ∧
      (∀ id, id ∈ removed ↔ id ∈ objs.map PoolObject.guid ∧ id ∈ w.spawns.activeQuests) ∧
      despawnEach poolId .quest (fun _ w => some w) 0 objs w =
        some { w with spawns := w.spawns.removeAll poolId removed } := by
  induction objs generalizing w with
  | nil => exact ⟨[], by simp, by simp, rfl⟩
  | cons obj rest ih =>
    rw [despawnEach]
    split
    next active =>
      obtain ⟨removed, nodup, mem, eq⟩ := ih (w.remove .quest obj.guid poolId)
      have left : ∀ id, id ∈ (w.remove .quest obj.guid poolId).spawns.activeQuests ↔
          id ≠ obj.guid ∧ id ∈ w.spawns.activeQuests := by
        simp [World.remove, ActivePoolData.removeObject, ActivePoolData.unmark,
          ActivePoolData.countDown]
      refine ⟨obj.guid :: removed, ?_, ?_, ?_⟩
      · refine List.nodup_cons.mpr ⟨fun again => ?_, nodup⟩
        exact ((left _).mp ((mem _).mp again).2).1 rfl
      · intro id
        rw [List.mem_cons, mem, left, List.map_cons, List.mem_cons]
        have here : obj.guid ∈ w.spawns.activeQuests := active.1
        by_cases hs : id = obj.guid
        · simp [hs, here]
        · simp [hs]
      · exact eq
    next inactive =>
      obtain ⟨removed, nodup, mem, eq⟩ := ih w
      refine ⟨removed, nodup, fun id => ?_, eq⟩
      rw [mem, List.map_cons, List.mem_cons]
      have absent : obj.guid ∉ w.spawns.activeQuests := fun active =>
        inactive ⟨active, .inl rfl⟩
      by_cases hs : id = obj.guid
      · simp [hs, absent]
      · simp [hs]

lemma mem_inactiveQuests {g : PoolGroup} {d : ActivePoolData} {id : UInt32} :
    id ∈ g.inactiveQuests d ↔
      id ∈ g.equalChanced.map PoolObject.guid ∧ id ∉ d.activeQuests := by
  rw [inactiveQuests, Finset.mem_filter, List.mem_toFinset]
  rfl

/-- A rotation removes the active members and activates some of the inactive members and of
the recycled quests. -/
lemma rotateQuests_spec (g : PoolGroup) (limit : UInt32) (w : World) :
    ∃ w' removed chosen moved, g.rotateQuests limit w = some w' ∧ removed.Nodup ∧
      (∀ id, id ∈ removed ↔ id ∈ g.guids ∧ id ∈ w.spawns.activeQuests) ∧
      moved ⊆ w.spawns.activeQuests ∧
      (limit.toNat ≤ (g.inactiveQuests w.spawns).card → moved = ∅) ∧
      ((g.inactiveQuests w.spawns).card < limit.toNat →
        (g.inactiveQuests w.spawns ∪ moved).card =
          min limit.toNat ((g.inactiveQuests w.spawns).card + w.spawns.activeQuests.card)) ∧
      ((g.inactiveQuests w.spawns).card < limit.toNat → w.spawns.activeQuests ≠ ∅ →
        selectRandom w.spawns.activeQuests (w.draws 0).index ∈ moved) ∧
      chosen.Nodup ∧ (∀ id ∈ chosen, id ∈ g.inactiveQuests w.spawns ∪ moved) ∧
      chosen.length =
        min (effectiveLimit limit) (g.inactiveQuests w.spawns ∪ moved).card ∧
      w'.spawns = (w.spawns.removeAll g.poolId removed).activateAll g.poolId chosen ∧
      w'.answers = w.answers := by
  obtain ⟨removed, nodup, mem, cleared⟩ := clearQuests_spec g.poolId g.objects w
  -- the new quests, recycled ones included
  obtain ⟨moved, w₁, within, none, full, first, recycled, spawns₁, answers₁⟩ :
      ∃ moved w₁, moved ⊆ w.spawns.activeQuests ∧
        (limit.toNat ≤ (g.inactiveQuests w.spawns).card → moved = ∅) ∧
        ((g.inactiveQuests w.spawns).card < limit.toNat →
          (g.inactiveQuests w.spawns ∪ moved).card =
            min limit.toNat ((g.inactiveQuests w.spawns).card + w.spawns.activeQuests.card)) ∧
        ((g.inactiveQuests w.spawns).card < limit.toNat → w.spawns.activeQuests ≠ ∅ →
          selectRandom w.spawns.activeQuests (w.draws 0).index ∈ moved) ∧
        (if limit.toNat > (g.inactiveQuests w.spawns).card ∧ w.spawns.activeQuests ≠ ∅
          then recycle limit w.spawns.activeQuests.card w.spawns.activeQuests
            (g.inactiveQuests w.spawns) { w with spawns := w.spawns.removeAll g.poolId removed }
          else (g.inactiveQuests w.spawns,
            { w with spawns := w.spawns.removeAll g.poolId removed })) =
          (g.inactiveQuests w.spawns ∪ moved, w₁) ∧
        w₁.spawns = w.spawns.removeAll g.poolId removed ∧ w₁.answers = w.answers := by
    split
    next short =>
      obtain ⟨moved, within, result, card, first, spawns, answers⟩ :=
        recycle_spec limit _ w.spawns.activeQuests (g.inactiveQuests w.spawns)
          { w with spawns := w.spawns.removeAll g.poolId removed } short.2 rfl short.1
      have apart : Disjoint w.spawns.activeQuests (g.inactiveQuests w.spawns) := by
        rw [Finset.disjoint_left]
        intro id active inactive
        exact (mem_inactiveQuests.mp inactive).2 active
      refine ⟨moved, _, within, fun enough => ?_, fun _ => card apart, fun _ _ => first,
        Prod.ext result rfl, spawns, answers⟩
      omega
    next enough =>
      refine ⟨∅, { w with spawns := w.spawns.removeAll g.poolId removed },
        Finset.empty_subset _, fun _ => rfl, fun short => ?_,
        fun short active => absurd ⟨short, active⟩ enough, by simp, rfl, rfl⟩
      have none : w.spawns.activeQuests = ∅ := by
        by_contra some
        exact enough ⟨short, some⟩
      simp only [Finset.union_empty, none, Finset.card_empty, Nat.add_zero]
      omega
  have rotated : g.rotateQuests limit w =
      if g.inactiveQuests w.spawns ∪ moved = ∅ then some w₁
      else some (activateQuests g.poolId (g.inactiveQuests w.spawns ∪ moved).card
        (g.inactiveQuests w.spawns ∪ moved) limit w₁) := by
    simp only [rotateQuests, despawnObject, cleared, bind, Option.bind, recycled]
    rfl
  by_cases nothing : g.inactiveQuests w.spawns ∪ moved = ∅
  · rw [if_pos nothing] at rotated
    refine ⟨w₁, removed, [], moved, rotated, nodup, mem, within, none, full, first, by simp,
      by simp, ?_, by rw [spawns₁, ActivePoolData.activateAll_nil], answers₁⟩
    simp [nothing]
  · rw [if_neg nothing] at rotated
    obtain ⟨chosen, different, among, length, spawns, answers⟩ :=
      activateQuests_spec g.poolId _ _ limit w₁ nothing rfl
    exact ⟨_, removed, chosen, moved, rotated, nodup, mem, within, none, full, first, different,
      among, length, by rw [spawns, spawns₁], answers.trans answers₁⟩

end PoolGroup

end WorldServer.Pools
