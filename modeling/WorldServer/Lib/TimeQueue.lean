import Mathlib.Data.List.Perm.Basic
import Mathlib.Order.Lattice

/-!
# Queues ordered by time

A multimap from times to events. An event goes behind the events of the same time, the front is the
earliest event, and an event is found by a search from the front on.
-/
namespace WorldServer.Lib

variable {κ α : Type} [LinearOrder κ]

/-- The place of a new event is behind the last one that is not later. -/
def insertLast (k : κ) (a : α) : List (κ × α) → List (κ × α)
  | [] => [(k, a)]
  | entry :: rest => if k < entry.1 then (k, a) :: entry :: rest else entry :: insertLast k a rest

lemma perm_insertLast (k : κ) (a : α) (entries : List (κ × α)) :
    (insertLast k a entries).Perm ((k, a) :: entries) := by
  induction entries with
  | nil => exact List.Perm.refl _
  | cons entry rest ih =>
    rw [insertLast]
    split
    · exact List.Perm.refl _
    · exact (ih.cons entry).trans (List.Perm.swap (k, a) entry rest)

lemma sorted_insertLast (k : κ) (a : α) {entries : List (κ × α)}
    (sorted : entries.Pairwise (·.1 ≤ ·.1)) : (insertLast k a entries).Pairwise (·.1 ≤ ·.1) := by
  induction entries with
  | nil => exact List.pairwise_singleton _ _
  | cons entry rest ih =>
    obtain ⟨first, sorted'⟩ := List.pairwise_cons.mp sorted
    rw [insertLast]
    split
    next earlier =>
      apply List.Pairwise.cons _ sorted
      intro other hm
      rcases List.mem_cons.mp hm with rfl | later
      · exact le_of_lt earlier
      · exact le_trans (le_of_lt earlier) (first other later)
    next later =>
      apply List.Pairwise.cons _ (ih sorted')
      intro other hm
      rcases List.mem_cons.mp ((perm_insertLast k a rest).mem_iff.mp hm) with rfl | old
      · exact not_lt.mp later
      · exact first other old

structure TimeQueue (κ α : Type) [LinearOrder κ] where
  entries : List (κ × α)
  sorted : entries.Pairwise (·.1 ≤ ·.1)

namespace TimeQueue

variable (q : TimeQueue κ α)

def empty : TimeQueue κ α := ⟨[], List.Pairwise.nil⟩

def insert (k : κ) (a : α) : TimeQueue κ α :=
  ⟨insertLast k a q.entries, sorted_insertLast k a q.sorted⟩

def eraseFront : TimeQueue κ α := ⟨q.entries.tail, q.sorted.tail⟩

def eraseFirst (p : κ × α → Bool) : TimeQueue κ α :=
  ⟨q.entries.eraseP p, q.sorted.sublist List.eraseP_sublist⟩

def modifyFront (f : α → α) : TimeQueue κ α where
  entries := match q.entries with
    | [] => []
    | entry :: rest => (entry.1, f entry.2) :: rest
  sorted := by
    have sorted := q.sorted
    split
    next => exact List.Pairwise.nil
    next entry rest same =>
      rw [same] at sorted
      exact List.pairwise_cons.mpr (List.pairwise_cons.mp sorted)

variable {q} {k : κ} {a : α} {entry : κ × α} {rest : List (κ × α)}

lemma perm_insert : (q.insert k a).entries.Perm ((k, a) :: q.entries) :=
  perm_insertLast k a q.entries

lemma insert_entries (hs : q.entries = entry :: rest) (later : entry.1 ≤ k) :
    (q.insert k a).entries = entry :: insertLast k a rest := by
  simp [insert, hs, insertLast, not_lt.mpr later]

lemma modifyFront_entries (hs : q.entries = entry :: rest) (f : α → α) :
    (q.modifyFront f).entries = (entry.1, f entry.2) :: rest := by
  simp only [modifyFront, hs]

lemma eraseFront_entries (hs : q.entries = entry :: rest) : q.eraseFront.entries = rest := by
  simp [eraseFront, hs]

lemma perm_eraseFirst {p : κ × α → Bool} (first : q.entries.find? p = some entry) :
    q.entries.Perm (entry :: (q.eraseFirst p).entries) := by
  obtain ⟨isFirst, before, after, split, passed⟩ := List.find?_eq_some_iff_append.mp first
  have erased : (before ++ entry :: after).eraseP p = before ++ after := by
    rw [List.eraseP_append_right _ fun b hm => by simpa using passed b hm,
      List.eraseP_cons_of_pos isFirst]
  simp only [eraseFirst, split, erased]
  exact List.perm_middle

lemma eraseFirst_of_none {p : κ × α → Bool} (none : q.entries.find? p = none) :
    (q.eraseFirst p).entries = q.entries :=
  List.eraseP_of_forall_not (List.find?_eq_none.mp none)

lemma le_of_front {time : κ} (front : ∀ entry ∈ q.entries.head?, time ≤ entry.1) :
    ∀ entry ∈ q.entries, time ≤ entry.1 := by
  have sorted := q.sorted
  cases hs : q.entries with
  | nil => exact fun entry hm => absurd hm List.not_mem_nil
  | cons first rest =>
    rw [hs] at sorted front
    intro entry hm
    rcases List.mem_cons.mp hm with rfl | later
    · exact front entry rfl
    · exact le_trans (front first rfl) ((List.pairwise_cons.mp sorted).1 entry later)

end TimeQueue

end WorldServer.Lib
