import Mathlib.Order.Lattice

/-!
# The first of the highest

A loop that keeps the best candidate so far, and exchanges it only for a better one, ends with
the first of the candidates with the highest score.
-/
namespace WorldServer.Lib

variable {α β : Type} [LinearOrder β] (f : α → β)

/-- The loop over the candidates, `first` being there before. -/
def highestFrom (first : α) (as : List α) : α :=
  as.foldl (fun best a => if f best < f a then a else best) first

/-- Who comes before scores less, who comes after not more. -/
def FirstHighest (as : List α) (a : α) : Prop :=
  ∃ before after, as = before ++ a :: after ∧ (∀ b ∈ before, f b < f a) ∧
    ∀ b ∈ after, f b ≤ f a

namespace FirstHighest

variable {f} {as : List α} {a b : α}

lemma mem (high : FirstHighest f as a) : a ∈ as := by
  obtain ⟨before, after, rfl, -, -⟩ := high
  exact List.mem_append_right _ (List.mem_cons_self ..)

lemma le (high : FirstHighest f as a) (mem : b ∈ as) : f b ≤ f a := by
  obtain ⟨before, after, rfl, lower, notHigher⟩ := high
  rcases List.mem_append.mp mem with mem | mem
  · exact (lower b mem).le
  · rcases List.mem_cons.mp mem with rfl | mem
    · exact le_rfl
    · exact notHigher b mem

lemma cons (high : FirstHighest f as a) (lower : f b < f a) : FirstHighest f (b :: as) a := by
  obtain ⟨before, after, rfl, lower', notHigher⟩ := high
  refine ⟨b :: before, after, rfl, ?_, notHigher⟩
  intro c mem
  rcases List.mem_cons.mp mem with rfl | mem
  · exact lower
  · exact lower' c mem

lemma insert_second {c : α} (high : FirstHighest f (b :: as) a) (notHigher : f c ≤ f b) :
    FirstHighest f (b :: c :: as) a := by
  obtain ⟨before, after, split, lower, notHigher'⟩ := high
  cases before with
  | nil =>
    obtain ⟨rfl, rfl⟩ := List.cons.inj split
    refine ⟨[], c :: as, rfl, by simp, fun d mem => ?_⟩
    rcases List.mem_cons.mp mem with rfl | mem
    · exact notHigher
    · exact notHigher' d mem
  | cons d before =>
    obtain ⟨rfl, rfl⟩ := List.cons.inj split
    have first := lower b (List.mem_cons_self ..)
    refine ⟨b :: c :: before, after, rfl, fun d mem => ?_, notHigher'⟩
    rcases List.mem_cons.mp mem with rfl | mem
    · exact first
    · rcases List.mem_cons.mp mem with rfl | mem
      · exact notHigher.trans_lt first
      · exact lower d (List.mem_cons_of_mem _ mem)

end FirstHighest

lemma firstHighest_highestFrom (first : α) (as : List α) :
    FirstHighest f (first :: as) (highestFrom f first as) := by
  induction as generalizing first with
  | nil => exact ⟨[], [], rfl, by simp, by simp⟩
  | cons a as ih =>
    rw [highestFrom, List.foldl_cons]
    split
    next higher =>
      have best := ih a
      exact best.cons (higher.trans_le (best.le (List.mem_cons_self ..)))
    next notHigher => exact (ih first).insert_second (not_lt.mp notHigher)

lemma firstHighest_of_lt {first : α} {as : List α} (some : as ≠ [])
    (higher : ∀ a ∈ as, f first < f a) : FirstHighest f as (highestFrom f first as) := by
  cases as with
  | nil => exact absurd rfl some
  | cons a as =>
    rw [highestFrom, List.foldl_cons, if_pos (higher a (List.mem_cons_self ..))]
    exact firstHighest_highestFrom f a as

end WorldServer.Lib
