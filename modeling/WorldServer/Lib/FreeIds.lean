import Mathlib.Data.Finset.Erase
import Mathlib.Data.Finset.Insert
import Mathlib.Order.Bounds.Basic

/-!
# The smallest unused id

Ids are positive numbers, and the smallest one that is not in use is handed out next. The first
part says how that id moves when an id is taken, registered or given back. The second part is a
table of bits that marks ids: it has a size, within which it may be read and written, and a
capacity, up to which it grows without asking for more storage.
-/
namespace WorldServer.Lib

section Unused

variable {used : Finset ℕ} {next next' id : ℕ}

def Unused (used : Finset ℕ) : Set ℕ := {id | 0 < id ∧ id ∉ used}

/-- Once the smallest unused id is taken, the next one is the first unused id above it. -/
lemma isLeast_unused_insert (least : IsLeast (Unused used) next) :
    IsLeast (Unused (insert next used)) next' ↔ IsLeast {id | next < id ∧ id ∉ used} next' := by
  have hs : Unused (insert next used) = {id | next < id ∧ id ∉ used} := by
    ext id
    simp only [Unused, Finset.mem_insert, not_or, Set.mem_ofPred_eq]
    constructor
    · rintro ⟨positive, other, unused⟩
      have above : next ≤ id := least.2 ⟨positive, unused⟩
      exact ⟨by omega, unused⟩
    · rintro ⟨above, unused⟩
      exact ⟨by omega, by omega, unused⟩
  rw [hs]

/-- An id above every id in use moves the smallest unused one only if it is that one. -/
lemma isLeast_unused_register (least : IsLeast (Unused used) next)
    (above : ∀ i ∈ used, i < id) :
    IsLeast (Unused (insert id used)) (if next = id then id + 1 else next) := by
  split
  next hs =>
    subst hs
    rw [isLeast_unused_insert least]
    exact ⟨⟨by omega, fun hm => absurd (above _ hm) (by omega)⟩, fun i larger => larger.1⟩
  next other =>
    constructor
    · refine ⟨least.1.1, ?_⟩
      rw [Finset.mem_insert, not_or]
      exact ⟨other, least.1.2⟩
    · rintro i ⟨positive, unused⟩
      exact least.2 ⟨positive, fun hm => unused (Finset.mem_insert_of_mem hm)⟩

lemma isLeast_unused_erase (least : IsLeast (Unused used) next) (positive : 0 < id) :
    IsLeast (Unused (used.erase id)) (if id < next then id else next) := by
  have below : ∀ i ∈ Unused (used.erase id), i = id ∨ next ≤ i := by
    rintro i ⟨positive, kept⟩
    rw [Finset.mem_erase, not_and_or, not_not] at kept
    exact kept.imp_right fun unused => least.2 ⟨positive, unused⟩
  split
  next smaller =>
    refine ⟨⟨positive, Finset.notMem_erase id used⟩, fun i hm => ?_⟩
    rcases below i hm with rfl | later
    · exact le_refl i
    · omega
  next larger =>
    constructor
    · exact ⟨least.1.1, fun hm => least.1.2 (Finset.mem_of_mem_erase hm)⟩
    · intro i hm
      rcases below i hm with rfl | later
      · omega
      · exact later

end Unused

/-! ### A table of bits -/

/-- How storage grows: the capacity after a request for more than the old capacity. -/
structure Growth where
  capacity : ℕ → ℕ → ℕ
  enough : ∀ old size, size ≤ capacity old size

structure BitTable where
  bits : List Bool
  capacity : ℕ
  fits : bits.length ≤ capacity
deriving DecidableEq, Repr

namespace BitTable

variable {growth : Growth} {t t' : BitTable} {i j n : ℕ} {b : Bool}

def empty : BitTable := ⟨[], 0, le_refl 0⟩

def size (t : BitTable) : ℕ := t.bits.length

def resize (growth : Growth) (t : BitTable) (n : ℕ) : BitTable where
  bits := t.bits.take n ++ List.replicate (n - t.bits.length) false
  capacity := if n ≤ t.capacity then t.capacity else growth.capacity t.capacity n
  fits := by
    have enough := growth.enough t.capacity n
    simp only [List.length_append, List.length_take, List.length_replicate]
    split <;> omega

def set (t : BitTable) (i : ℕ) (b : Bool) : Option BitTable :=
  if i < t.size then
    some ⟨t.bits.set i b, t.capacity, (List.length_set ..).trans_le t.fits⟩
  else none

def Marked (t : BitTable) (i : ℕ) : Prop := t.bits[i]? = some true

instance (t : BitTable) (i : ℕ) : Decidable (t.Marked i) :=
  inferInstanceAs (Decidable (t.bits[i]? = some true))

@[simp] lemma size_resize : (t.resize growth n).size = n := by
  simp only [size, resize, List.length_append, List.length_take, List.length_replicate]
  omega

@[simp] lemma not_marked_empty : ¬ empty.Marked i := by
  simp [Marked, empty]

@[simp] lemma marked_resize : (t.resize growth n).Marked i ↔ i < n ∧ t.Marked i := by
  simp only [Marked, resize, List.getElem?_append, List.getElem?_take, List.length_take,
    List.getElem?_replicate]
  by_cases below : i < n
  · by_cases inside : i < t.bits.length
    · simp [below, inside]
    · simp [below, inside]
  · simp only [below, false_and, iff_false]
    split <;> simp

lemma set_isSome_iff : (∃ t', t.set i b = some t') ↔ i < t.size := by
  simp only [set]
  split <;> simp_all

lemma marked_set (written : t.set i b = some t') :
    t'.Marked j ↔ if j = i then b = true else t.Marked j := by
  rw [set] at written
  split at written
  next inside =>
    cases written
    simp only [Marked, List.getElem?_set]
    split
    next hs =>
      subst hs
      have inside : i < t.bits.length := inside
      simp [inside]
    next other => simp [Ne.symm other]
  next => cases written

lemma size_set (written : t.set i b = some t') : t'.size = t.size := by
  rw [set] at written
  split at written
  · cases written
    exact List.length_set
  · cases written

end BitTable

end WorldServer.Lib
