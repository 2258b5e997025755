import Mathlib.Data.Finset.Max
import WorldServer.Lib.Table

/-!
# Worklists

A search follows the links of a table from some start points. It takes the least point from those
still to be checked; a point that the table knows is done, and what it links to is to be checked
unless it is done already. Links may form cycles and may end at points the table does not know.
The search ends, and what is done then are the known points that the start reaches.
-/
namespace WorldServer.Lib

open Relation

variable {α : Type} [LinearOrder α]

def Links (links : Table α (Finset α)) (a b : α) : Prop :=
  ∃ linked, links.lookup a = some linked ∧ b ∈ linked

/-- A known point that some start point leads to. -/
def Reached (links : Table α (Finset α)) (start : Finset α) (b : α) : Prop :=
  b ∈ links ∧ ∃ a ∈ start, ReflTransGen (Links links) a b

/-- A point is not checked again when it is done. -/
structure Worklist (α : Type) [LinearOrder α] where
  toCheck : Finset α
  done : Finset α
  apart : Disjoint toCheck done

namespace Worklist

variable (links : Table α (Finset α)) (w : Worklist α)

def start (points : Finset α) : Worklist α := ⟨points, ∅, Finset.disjoint_empty_right _⟩

def skip (a : α) : Worklist α :=
  ⟨w.toCheck.erase a, w.done, w.apart.mono_left (Finset.erase_subset a _)⟩

def visit (a : α) (linked : Finset α) : Worklist α where
  toCheck := w.toCheck.erase a ∪ linked.filter (· ∉ insert a w.done)
  done := insert a w.done
  apart := by
    refine Finset.disjoint_union_left.mpr ⟨?_, ?_⟩
    · refine Finset.disjoint_insert_right.mpr ⟨Finset.notMem_erase a _, ?_⟩
      exact w.apart.mono_left (Finset.erase_subset a _)
    · exact Finset.disjoint_left.mpr fun b member => (Finset.mem_filter.mp member).2

def remaining : Finset α := links.keys.toFinset \ w.done

lemma remaining_visit_lt {a : α} {linked : Finset α} (open_ : a ∈ w.toCheck)
    (known : links.lookup a = some linked) :
    ((w.visit a linked).remaining links).card < (w.remaining links).card := by
  apply Finset.card_lt_card
  refine Finset.ssubset_iff_of_subset
    (Finset.sdiff_subset_sdiff (Finset.Subset.refl _) (Finset.subset_insert a _)) |>.mpr ⟨a, ?_, ?_⟩
  · have hm : a ∈ links := AList.lookup_isSome.mp (by simp [known])
    exact Finset.mem_sdiff.mpr ⟨List.mem_toFinset.mpr hm, Finset.disjoint_left.mp w.apart open_⟩
  · exact fun hm => (Finset.mem_sdiff.mp hm).2 (Finset.mem_insert_self a _)

def expand (w : Worklist α) : Finset α :=
  if h : w.toCheck.Nonempty then
    match _ : links.lookup (w.toCheck.min' h) with
    | none => expand (w.skip (w.toCheck.min' h))
    | some linked => expand (w.visit (w.toCheck.min' h) linked)
  else w.done
termination_by ((w.remaining links).card, w.toCheck.card)
decreasing_by
  · exact Prod.Lex.right _ (Finset.card_erase_lt_of_mem (w.toCheck.min'_mem h))
  · exact Prod.Lex.left _ _ (w.remaining_visit_lt links (w.toCheck.min'_mem h)
      ‹links.lookup (w.toCheck.min' h) = some _›)

/-- What the search has found so far, from the start points given: nothing else than what they
lead to, and nothing on the way is left out. -/
structure From (points : Finset α) : Prop where
  reached : ∀ b ∈ w.done, Reached links points b
  leads : ∀ b ∈ w.toCheck, ∃ a ∈ points, ReflTransGen (Links links) a b
  start : ∀ a ∈ points, a ∈ links → a ∈ w.done ∨ a ∈ w.toCheck
  closed : ∀ a ∈ w.done, ∀ b, Links links a b → b ∈ links → b ∈ w.done ∨ b ∈ w.toCheck

variable {links w} {points : Finset α}

lemma From.of_start : From links (Worklist.start points) points where
  reached b hm := absurd hm (Finset.notMem_empty b)
  leads b hm := ⟨b, hm, .refl⟩
  start _ hm _ := .inr hm
  closed a hm := absurd hm (Finset.notMem_empty a)

section

variable (found : From links w points)
include found

lemma From.skip {a : α} (unknown : links.lookup a = none) : From links (w.skip a) points := by
  have other : ∀ b ∈ links, b ∈ w.toCheck → b ∈ w.toCheck.erase a := by
    intro b known hm
    refine Finset.mem_erase.mpr ⟨?_, hm⟩
    rintro rfl
    exact AList.lookup_eq_none.mp unknown known
  exact {
    reached := found.reached
    leads := fun b hm => found.leads b (Finset.mem_of_mem_erase hm)
    start := fun b hm known => (found.start b hm known).imp_right (other b known)
    closed := fun c done b link known => (found.closed c done b link known).imp_right (other b known) }

lemma From.visit {a : α} {linked : Finset α} (here : a ∈ w.toCheck)
    (known : links.lookup a = some linked) : From links (w.visit a linked) points := by
  obtain ⟨s, hm, way⟩ := found.leads a here
  -- what was done or to be checked still is
  have kept : ∀ b, b ∈ w.done ∨ b ∈ w.toCheck →
      b ∈ (w.visit a linked).done ∨ b ∈ (w.visit a linked).toCheck := by
    rintro b (done | open_)
    · exact .inl (Finset.mem_insert_of_mem done)
    · by_cases hs : b = a
      · exact .inl (Finset.mem_insert.mpr (.inl hs))
      · exact .inr (Finset.mem_union_left _ (Finset.mem_erase.mpr ⟨hs, open_⟩))
  constructor
  · intro b done
    rcases Finset.mem_insert.mp done with rfl | done
    · exact ⟨AList.lookup_isSome.mp (by simp [known]), s, hm, way⟩
    · exact found.reached b done
  · intro b open_
    rcases Finset.mem_union.mp open_ with old | new
    · exact found.leads b (Finset.mem_of_mem_erase old)
    · exact ⟨s, hm, way.tail ⟨linked, known, (Finset.mem_filter.mp new).1⟩⟩
  · exact fun b start_ known => kept b (found.start b start_ known)
  · intro c done b link bKnown
    rcases Finset.mem_insert.mp done with rfl | done
    · obtain ⟨linked', known', toB⟩ := link
      obtain rfl : linked = linked' := Option.some.inj (known.symm.trans known')
      by_cases already : b ∈ insert c w.done
      · exact .inl already
      · exact .inr (Finset.mem_union_right _ (Finset.mem_filter.mpr ⟨toB, already⟩))
    · exact kept b (found.closed c done b link bKnown)

lemma From.mem_done_iff (last : w.toCheck = ∅) (b : α) : b ∈ w.done ↔ Reached links points b := by
  refine ⟨found.reached b, ?_⟩
  rintro ⟨known, a, hm, way⟩
  induction way with
  | refl => exact (found.start a hm known).resolve_right (by simp [last])
  | tail _ link ih =>
    obtain ⟨linked, here, _⟩ := id link
    have done := ih (AList.lookup_isSome.mp (by simp [here]))
    exact (found.closed _ done _ link known).resolve_right (by simp [last])

lemma From.mem_expand_iff (b : α) : b ∈ w.expand links ↔ Reached links points b := by
  fun_induction expand links w with
  | case1 w h known ih => exact ih (found.skip known)
  | case2 w h linked known ih => exact ih (found.visit (w.toCheck.min'_mem h) known)
  | case3 w h => exact found.mem_done_iff (Finset.not_nonempty_iff_eq_empty.mp h) b

end

lemma mem_expand_start (points : Finset α) (b : α) :
    b ∈ (Worklist.start points).expand links ↔ Reached links points b :=
  From.of_start.mem_expand_iff b

end Worklist

end WorldServer.Lib
