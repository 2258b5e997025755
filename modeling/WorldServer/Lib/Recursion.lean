import Mathlib.Data.Set.Card

/-!
# Recursion along references

A function calls itself for every object that its argument refers to. The model bounds the depth of
the calls, and `none` says that the bound was used up. The calls come to an end if and only if no
object that is reached refers, step by step, to itself.
-/
namespace WorldServer.Lib

open Relation

section Acyclic

variable {α : Type} {r : α → α → Prop} {a b : α}

/-- Nothing that is reached comes back to itself. -/
def Acyclic (r : α → α → Prop) (a : α) : Prop := ∀ b, ReflTransGen r a b → ¬TransGen r b b

lemma Acyclic.of_step (acyclic : Acyclic r a) (refers : r a b) : Acyclic r b :=
  fun c reached => acyclic c (.head refers reached)

lemma exists_step_of_not_acyclic (cyclic : ¬Acyclic r a) : ∃ b, r a b ∧ ¬Acyclic r b := by
  simp only [Acyclic, not_forall, not_not] at cyclic ⊢
  obtain ⟨c, reached, cycle⟩ := cyclic
  rcases reached.cases_head with rfl | ⟨b, refers, reached⟩
  · -- the cycle begins here
    obtain ⟨b, refers, back⟩ := TransGen.head'_iff.mp cycle
    exact ⟨b, refers, a, back, cycle⟩
  · exact ⟨b, refers, c, reached, cycle⟩

lemma Acyclic.induction {P : α → Prop} (targets : Set α) (finite : targets.Finite)
    (mem : ∀ a b, r a b → b ∈ targets) (step : ∀ a, (∀ b, r a b → P b) → P a)
    (acyclic : Acyclic r a) : P a := by
  -- by induction on the number of objects that are reached
  induction size : {b | TransGen r a b}.ncard using Nat.strong_induction_on generalizing a with
  | _ n ih =>
    refine step a fun b refers => ih _ ?_ (acyclic.of_step refers) rfl
    have subset : {c | TransGen r a c} ⊆ targets := fun c reached => by
      obtain ⟨d, -, last⟩ := TransGen.tail'_iff.mp reached
      exact mem d c last
    have fewer : {c | TransGen r b c} ⊂ {c | TransGen r a c} := by
      refine ⟨fun c reached => .head refers reached, fun all => ?_⟩
      exact acyclic b (.single refers) (all (TransGen.single refers))
    rw [← size]
    exact Set.ncard_lt_ncard fewer (finite.subset subset)

end Acyclic

section Calls

variable {α σ β : Type} {r : α → α → Prop} (call : ℕ → α → σ → Option β) {a : α}

lemma returns_of_acyclic (targets : List α) (mem : ∀ a b, r a b → b ∈ targets)
    (step : ∀ depth a, (∀ b, r a b → ∀ s, (call depth b s).isSome) →
      ∀ s, (call (depth + 1) a s).isSome) (acyclic : Acyclic r a) :
    ∃ depth, ∀ more, depth ≤ more → ∀ s, (call more a s).isSome := by
  refine Acyclic.induction (P := fun a => ∃ depth, ∀ more, depth ≤ more →
    ∀ s, (call more a s).isSome) {b : α | b ∈ targets} targets.finite_toSet mem
      (fun a below => ?_) acyclic
  -- one depth is enough for all that are referred to
  have enough : ∀ bs : List α, ∃ depth, ∀ b ∈ bs, r a b → ∀ more, depth ≤ more →
      ∀ s, (call more b s).isSome := by
    intro bs
    induction bs with
    | nil => exact ⟨0, by simp⟩
    | cons b bs ih =>
      obtain ⟨depth, rest⟩ := ih
      by_cases refers : r a b
      · obtain ⟨depth', first⟩ := below b refers
        refine ⟨max depth depth', fun c hm refers' more le => ?_⟩
        rcases List.mem_cons.mp hm with rfl | hm
        · exact first more (le_trans (le_max_right ..) le)
        · exact rest c hm refers' more (le_trans (le_max_left ..) le)
      · refine ⟨depth, fun c hm refers' => ?_⟩
        rcases List.mem_cons.mp hm with rfl | hm
        · exact absurd refers' refers
        · exact rest c hm refers'
  obtain ⟨depth, enough⟩ := enough targets
  refine ⟨depth + 1, fun more le => ?_⟩
  obtain ⟨k, rfl⟩ := Nat.exists_eq_add_of_le' le
  exact step (k + depth) a fun b refers =>
    enough b (mem a b refers) refers _ (Nat.le_add_left ..)

lemma none_of_not_acyclic (zero : ∀ a s, call 0 a s = none)
    (step : ∀ depth a b, r a b → (∀ s, call depth b s = none) → ∀ s, call (depth + 1) a s = none)
    (cyclic : ¬Acyclic r a) (depth : ℕ) (s : σ) : call depth a s = none := by
  induction depth generalizing a s with
  | zero => exact zero a s
  | succ depth ih =>
    obtain ⟨b, refers, cyclic⟩ := exists_step_of_not_acyclic cyclic
    exact step depth a b refers (ih cyclic) s

end Calls

end WorldServer.Lib
