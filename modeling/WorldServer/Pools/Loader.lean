import WorldServer.Lib.Pointers
import WorldServer.Pools.Spawn

/-!
# Loading the pools of pools

Every accepted row puts a child into the group of its mother, and the first row of a child
also puts it into the search map. The pass over the circular references follows the search map
and takes a link out of the map and out of the group of the mother.
-/
namespace WorldServer.Pools

structure PoolRow where
  childPoolId : UInt32
  motherPoolId : UInt32
  chance : ℚ
deriving DecidableEq, Repr

def PoolGroup.removeOneRelation (g : PoolGroup) (childPoolId : UInt32) : PoolGroup :=
  { g with
    explicitlyChanced := g.explicitlyChanced.eraseP fun obj => obj.guid = childPoolId
    equalChanced := g.equalChanced.eraseP fun obj => obj.guid = childPoolId }

/-- The groups of child pools, and from a child to its mother. -/
structure PoolLinks where
  groups : UInt32 → PoolGroup := fun _ => {}
  searchMap : UInt32 → Option UInt32 := fun _ => none

namespace PoolLinks

def addRow (l : PoolLinks) (maxLimit : UInt32 → UInt32) (row : PoolRow) : PoolLinks where
  groups := Function.update l.groups row.motherPoolId
    ({ l.groups row.motherPoolId with poolId := row.motherPoolId }.addEntry
      ⟨row.childPoolId, row.chance⟩ (maxLimit row.motherPoolId))
  searchMap :=
    if l.searchMap row.childPoolId = none
    then Function.update l.searchMap row.childPoolId (some row.motherPoolId) else l.searchMap

def removeLink (l : PoolLinks) (child mother : UInt32) : PoolLinks where
  groups := Function.update l.groups mother ((l.groups mother).removeOneRelation child)
  searchMap := Function.update l.searchMap child none

def checkFrom (l : PoolLinks) : ℕ → Finset UInt32 → UInt32 → PoolLinks
  | 0, _, _ => l
  | rounds + 1, checkedPools, pool =>
    match l.searchMap pool with
    | none => l
    | some mother =>
      if mother ∈ insert pool checkedPools then l.removeLink pool mother
      else l.checkFrom rounds (insert pool checkedPools) mother

end PoolLinks

namespace PoolMgr

def accepts (m : PoolMgr) (row : PoolRow) : Bool :=
  row.motherPoolId ≤ m.maxPoolId ∧ row.childPoolId ≤ m.maxPoolId ∧
    row.motherPoolId ≠ row.childPoolId ∧ ¬ (row.chance < 0 ∨ row.chance > 100)

def readRows (m : PoolMgr) (rows : List PoolRow) : PoolLinks :=
  rows.foldl (fun l row => if m.accepts row then l.addRow m.maxLimit row else l) {}

/-- The pass over the pools below `n`. The loader stops before the largest pool. -/
def checkCircular (m : PoolMgr) (l : PoolLinks) : ℕ → PoolLinks
  | 0 => l
  | n + 1 => (m.checkCircular l n).checkFrom (m.maxPoolId.toNat + 1) ∅ (UInt32.ofNat n)

/-- What `LoadFromDB` makes of the table, beside the groups of the other kinds. -/
def loadPools (m : PoolMgr) (rows : List PoolRow) : PoolMgr :=
  let l := m.checkCircular (m.readRows rows) m.maxPoolId.toNat
  { m with
    groups := fun kind => match kind with
      | .pool => l.groups
      | kind => m.groups kind
    poolSearchMap := l.searchMap }

/-! ### What is read -/

def acceptedRows (m : PoolMgr) (rows : List PoolRow) : List PoolRow := rows.filter m.accepts

def firstMother (m : PoolMgr) (rows : List PoolRow) (child : UInt32) : Option UInt32 :=
  ((m.acceptedRows rows).find? fun row => row.childPoolId = child).map PoolRow.motherPoolId

def explicit (m : PoolMgr) (row : PoolRow) : Bool :=
  row.chance ≠ 0 ∧ m.maxLimit row.motherPoolId = 1

def timesRead (m : PoolMgr) (rows : List PoolRow) (list : Bool) (child mother : UInt32) : ℕ :=
  (m.acceptedRows rows).countP fun row =>
    row.childPoolId = child ∧ row.motherPoolId = mother ∧ m.explicit row = list

end PoolMgr

def PoolGroup.times (g : PoolGroup) (list : Bool) (child : UInt32) : ℕ :=
  (if list then g.explicitlyChanced else g.equalChanced).countP fun obj => obj.guid = child

lemma PoolGroup.mem_guids_iff (g : PoolGroup) (child : UInt32) :
    child ∈ g.guids ↔ ∃ list, 0 < g.times list child := by
  simp only [guids, objects, times, List.map_append, List.mem_append, List.mem_map,
    List.countP_pos_iff, decide_eq_true_eq]
  constructor
  · rintro (⟨obj, mem, rfl⟩ | ⟨obj, mem, rfl⟩)
    · exact ⟨false, obj, mem, rfl⟩
    · exact ⟨true, obj, mem, rfl⟩
  · rintro ⟨list, obj, mem, rfl⟩
    cases list
    · exact .inl ⟨obj, mem, rfl⟩
    · exact .inr ⟨obj, mem, rfl⟩

lemma PoolGroup.times_addEntry (g : PoolGroup) (poolId : UInt32) (obj : PoolObject)
    (maxentries : UInt32) (list : Bool) (child : UInt32) :
    ({ g with poolId := poolId }.addEntry obj maxentries).times list child =
      g.times list child +
        if obj.guid = child ∧ decide (obj.chance ≠ 0 ∧ maxentries = 1) = list then 1 else 0 := by
  by_cases isExplicit : obj.chance ≠ 0 ∧ maxentries = 1
  · cases list <;> by_cases here : obj.guid = child <;>
      simp [addEntry, times, isExplicit, here, List.countP_append]
  · cases list <;> by_cases here : obj.guid = child <;>
      simp [addEntry, times, isExplicit, here, List.countP_append]

lemma PoolGroup.times_removeOneRelation (g : PoolGroup) (list : Bool) (child child' : UInt32) :
    (g.removeOneRelation child).times list child' =
      if child' = child then g.times list child' - 1 else g.times list child' := by
  have erased : ∀ objs : List PoolObject,
      (objs.eraseP fun obj => obj.guid = child).countP (fun obj => obj.guid = child') =
        if child' = child then objs.countP (fun obj => obj.guid = child') - 1
        else objs.countP (fun obj => obj.guid = child') := by
    intro objs
    induction objs with
    | nil => simp
    | cons obj rest ih =>
      by_cases hit : obj.guid = child
      · by_cases hs : child' = child
        · simp [hit, hs]
        · simp [hit, hs, Ne.symm hs]
      · rw [List.eraseP_cons_of_neg (by simpa using hit), List.countP_cons, List.countP_cons, ih]
        by_cases hs : child' = child
        · subst hs
          simp [hit]
        · simp [hs]
  cases list
  · exact erased _
  · exact erased _

lemma PoolMgr.readRows_spec (m : PoolMgr) (rows : List PoolRow) :
    (∀ c, (m.readRows rows).searchMap c = m.firstMother rows c) ∧
      ∀ p list c, ((m.readRows rows).groups p).times list c = m.timesRead rows list c p := by
  have general : ∀ (rows : List PoolRow) (l : PoolLinks),
      (∀ c, (rows.foldl (fun l row => if m.accepts row then l.addRow m.maxLimit row else l)
          l).searchMap c = (l.searchMap c).or (m.firstMother rows c)) ∧
        ∀ p list c, ((rows.foldl (fun l row => if m.accepts row then l.addRow m.maxLimit row
          else l) l).groups p).times list c =
            (l.groups p).times list c + m.timesRead rows list c p := by
    intro rows
    induction rows with
    | nil => simp [firstMother, timesRead, acceptedRows]
    | cons row rest ih =>
      intro l
      rw [List.foldl_cons]
      by_cases accepted : m.accepts row
      · have step := ih (l.addRow m.maxLimit row)
        simp only [accepted, if_true]
        refine ⟨fun c => ?_, fun p list c => ?_⟩
        · rw [step.1]
          simp only [firstMother, acceptedRows, List.filter_cons, accepted, if_true,
            List.find?_cons, PoolLinks.addRow]
          by_cases here : row.childPoolId = c
          · subst here
            cases old : l.searchMap row.childPoolId <;> simp [old]
          · cases old : l.searchMap row.childPoolId <;>
              simp [here, Ne.symm here]
        · rw [step.2]
          simp only [timesRead, acceptedRows, List.filter_cons, accepted, if_true,
            List.countP_cons, PoolLinks.addRow, Function.update_apply]
          split
          next mother =>
            subst mother
            rw [PoolGroup.times_addEntry]
            simp only [explicit, decide_eq_true_eq, true_and]
            omega
          next other => simp [Ne.symm other]
      · simpa [firstMother, timesRead, acceptedRows, accepted] using ih l
  obtain ⟨map, groups⟩ := general rows {}
  refine ⟨fun c => ?_, fun p list c => ?_⟩
  · exact (map c).trans (by simp)
  · exact (groups p list c).trans (by simp [PoolGroup.times])

end WorldServer.Pools
