import Mathlib.Algebra.Group.Nat.Defs
import Mathlib.Data.List.Nodup
import Mathlib.Data.List.Perm.Basic
import Mathlib.Data.List.Range

/-!
# Recycled ids

Ids are handed out from a list of ids that have been given back, in the order in
which they came, and otherwise from a counter of `w` bits. The largest id is given
back to the counter itself. The recycler tracks a list of ids when these and the
listed ones are the ids up to the counter, each of them once; the rules say which
lists of ids it tracks after an id is taken, given back or lost.
-/
namespace WorldServer.Lib

structure Recycler where
  free : List ℕ
  max : ℕ
deriving DecidableEq, Repr

namespace Recycler

def take (w : ℕ) (ids : Recycler) : ℕ × Recycler :=
  match ids.free with
  | [] => ((ids.max + 1) % 2 ^ w, { ids with max := (ids.max + 1) % 2 ^ w })
  | id :: rest => (id, { ids with free := rest })

def release (w : ℕ) (ids : Recycler) (id : ℕ) : Recycler :=
  if id = ids.max then { ids with max := (ids.max + (2 ^ w - 1)) % 2 ^ w }
  else { ids with free := ids.free ++ [id] }

lemma release_max_lt {w : ℕ} {ids : Recycler} (room : ids.max < 2 ^ w) (id : ℕ) :
    (ids.release w id).max < 2 ^ w := by
  rw [release]
  split
  · exact Nat.mod_lt _ (Nat.two_pow_pos w)
  · exact room

lemma releases_max_lt {w : ℕ} (given : List ℕ) {ids : Recycler} (room : ids.max < 2 ^ w) :
    (given.foldl (release w) ids).max < 2 ^ w := by
  induction given generalizing ids with
  | nil => exact room
  | cons id given ih => exact ih (release_max_lt room id)

lemma take_max_le {w : ℕ} (ids : Recycler) : (ids.take w).2.max ≤ ids.max + 1 := by
  rw [take]
  split
  · exact Nat.mod_le _ _
  · exact Nat.le_succ _

/-- The ids `used` and the listed ones are the ids up to the largest one. -/
def Tracks (ids : Recycler) (used : List ℕ) : Prop :=
  (used ++ ids.free).Perm (List.range' 1 ids.max)

namespace Tracks

variable {w : ℕ} {ids : Recycler} {used used' : List ℕ}

section

variable (tracks : ids.Tracks used)
include tracks

lemma perm (hs : used'.Perm used) : ids.Tracks used' :=
  (hs.append_right ids.free).trans tracks

lemma nodup : (used ++ ids.free).Nodup :=
  tracks.nodup_iff.mpr List.nodup_range'

lemma mem_iff (id : ℕ) : id ∈ used ∨ id ∈ ids.free ↔ 1 ≤ id ∧ id ≤ ids.max := by
  rw [← List.mem_append, List.Perm.mem_iff tracks, List.mem_range'_1]
  omega

lemma once {id : ℕ} (lower : 1 ≤ id) (upper : id ≤ ids.max) :
    (id ∈ used ∧ id ∉ ids.free) ∨ (id ∉ used ∧ ids.free.count id = 1) := by
  obtain ⟨-, listed, disjoint⟩ := List.nodup_append'.mp tracks.nodup
  rcases (tracks.mem_iff id).mpr ⟨lower, upper⟩ with here | free
  · exact .inl ⟨here, disjoint here⟩
  · exact .inr ⟨fun here => disjoint here free, List.count_eq_one_of_mem listed free⟩

lemma take (room : ids.max + 1 < 2 ^ w) : (ids.take w).2.Tracks ((ids.take w).1 :: used) := by
  cases listed : ids.free with
  | nil =>
    -- all ids up to the largest are used
    simp only [Recycler.take, Tracks, listed, Nat.mod_eq_of_lt room, List.append_nil] at tracks ⊢
    rw [List.range'_1_concat, Nat.add_comm 1]
    exact (tracks.cons _).trans (List.perm_append_singleton _ _).symm
  | cons id rest =>
    simp only [Recycler.take, Tracks, listed] at tracks ⊢
    exact List.perm_middle.symm.trans tracks

lemma take_notMem (room : ids.max < 2 ^ w) : (ids.take w).1 ∉ used := by
  intro here
  have upper := ((tracks.mem_iff _).mp (.inl here)).2
  cases listed : ids.free with
  | nil =>
    -- a counter that runs over gives zero
    have lower := ((tracks.mem_iff _).mp (.inl here)).1
    simp only [Recycler.take, listed] at lower upper
    rcases Nat.lt_or_eq_of_le (Nat.succ_le_of_lt room) with less | full
    · rw [Nat.mod_eq_of_lt less] at upper
      omega
    · rw [← full, Nat.mod_self] at lower
      omega
  | cons id rest =>
    simp only [Recycler.take, listed] at here
    refine (List.nodup_append'.mp tracks.nodup).2.2 here ?_
    rw [listed]
    exact List.mem_cons_self ..

end

lemma release {id : ℕ} (tracks : ids.Tracks (id :: used)) (room : ids.max < 2 ^ w) :
    (ids.release w id).Tracks used := by
  have lower : 1 ≤ id := ((tracks.mem_iff id).mp (.inl (List.mem_cons_self ..))).1
  by_cases largest : id = ids.max
  · -- the largest id is used, so that it is not listed
    have less : (ids.max + (2 ^ w - 1)) % 2 ^ w = ids.max - 1 := by
      have sum : ids.max + (2 ^ w - 1) = (ids.max - 1) + 2 ^ w := by omega
      rw [sum, Nat.add_mod_right, Nat.mod_eq_of_lt (by omega)]
    simp only [Recycler.release, Tracks, if_pos largest, less]
    have range : List.range' 1 ids.max = List.range' 1 (ids.max - 1) ++ [id] := by
      obtain ⟨n, count⟩ : ∃ n, ids.max = n + 1 := ⟨ids.max - 1, by omega⟩
      rw [largest, count, List.range'_1_concat, Nat.add_comm 1, Nat.add_sub_cancel]
    have all : (id :: (used ++ ids.free)).Perm (id :: List.range' 1 (ids.max - 1)) := by
      refine List.Perm.trans tracks ?_
      rw [range]
      exact List.perm_append_singleton _ _
    exact all.cons_inv
  · simp only [Recycler.release, Tracks, if_neg largest]
    rw [← List.append_assoc]
    exact (List.perm_append_singleton _ _).trans tracks

lemma releases {given : List ℕ} (tracks : ids.Tracks (given ++ used))
    (room : ids.max < 2 ^ w) : (given.foldl (Recycler.release w) ids).Tracks used := by
  induction given generalizing ids with
  | nil => exact tracks
  | cons id given ih =>
    exact ih (tracks.release room) (release_max_lt room id)

lemma lost {lost : List ℕ} (tracks : ids.Tracks (used ++ lost))
    (all : ∀ id, 1 ≤ id → id ≤ ids.max → id ∈ used ∨ id ∈ ids.free) : lost = [] := by
  refine List.eq_nil_iff_forall_not_mem.mpr fun id hm => ?_
  obtain ⟨front, -, disjoint⟩ := List.nodup_append'.mp tracks.nodup
  have here : id ∈ used ++ lost := List.mem_append_right used hm
  obtain ⟨lower, upper⟩ := (tracks.mem_iff id).mp (.inl here)
  rcases all id lower upper with inUse | free
  · exact (List.nodup_append'.mp front).2.2 inUse hm
  · exact disjoint here free

end Tracks

lemma tracks_missing {used : List ℕ} (nodup : used.Nodup) (positive : ∀ id ∈ used, 1 ≤ id)
    (max : ℕ) (upper : ∀ id ∈ used, id ≤ max) (largest : max = 0 ∨ max ∈ used) :
    Tracks ⟨(List.range' 1 (max - 1)).filter fun id => id ∉ used, max⟩ used := by
  refine (List.perm_ext_iff_of_nodup ?_ List.nodup_range').mpr fun id => ?_
  · refine List.nodup_append'.mpr ⟨nodup, List.Nodup.filter _ List.nodup_range', ?_⟩
    intro id here missing
    simp [here] at missing
  · simp only [List.mem_append, List.mem_filter, List.mem_range'_1, decide_eq_true_eq]
    constructor
    · rintro (here | ⟨⟨lower, below⟩, -⟩)
      · exact ⟨positive id here, by have := upper id here; omega⟩
      · omega
    · rintro ⟨lower, below⟩
      by_cases here : id ∈ used
      · exact .inl here
      · refine .inr ⟨⟨lower, ?_⟩, here⟩
        rcases largest with zero | last
        · omega
        · have : id ≠ max := fun hs => here (hs ▸ last)
          omega

end Recycler

end WorldServer.Lib
