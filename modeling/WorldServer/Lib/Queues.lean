import Mathlib.Data.List.Nodup

/-!
# A family of queues

Elements wait in several queues, each in at most one and there once. The rules say what a join, a
removal and a move from one queue to another do to where everyone is.
-/
namespace WorldServer.Lib.Queues

variable {κ α : Type}

/-- Nobody is in two places. -/
structure Apart (f : κ → List α) : Prop where
  nodup : ∀ k, (f k).Nodup
  once : ∀ k l a, a ∈ f k → a ∈ f l → k = l

variable [DecidableEq κ] [DecidableEq α] {f : κ → List α} {k l m : κ} {a b : α}

omit [DecidableEq α] in
lemma mem_append (f : κ → List α) (k : κ) (a : α) :
    b ∈ Function.update f k (f k ++ [a]) m ↔ b ∈ f m ∨ (b = a ∧ m = k) := by
  by_cases here : m = k
  · subst here
    simp
  · simp [here]

omit [DecidableEq α] in
lemma Apart.append (apart : Apart f) (new : ∀ m, a ∉ f m) :
    Apart (Function.update f k (f k ++ [a])) where
  nodup m := by
    by_cases here : m = k
    · subst here
      rw [Function.update_self]
      exact (apart.nodup m).append (List.nodup_singleton a) (List.disjoint_singleton.mpr (new m))
    · rw [Function.update_of_ne here]
      exact apart.nodup m
  once m l b inM inL := by
    rw [mem_append] at inM inL
    rcases inM with inM | ⟨rfl, rfl⟩
    · rcases inL with inL | ⟨rfl, rfl⟩
      · exact apart.once m l b inM inL
      · exact absurd inM (new m)
    · rcases inL with inL | ⟨-, rfl⟩
      · exact absurd inL (new l)
      · rfl

section

variable (apart : Apart f) (here : a ∈ f k)
include apart here

lemma Apart.mem_erase : b ∈ Function.update f k ((f k).erase a) m ↔ b ∈ f m ∧ b ≠ a := by
  by_cases at_ : m = k
  · subst at_
    rw [Function.update_self, (apart.nodup m).mem_erase_iff, and_comm]
  · rw [Function.update_of_ne at_]
    refine (and_iff_left_of_imp fun inM hs => at_ ?_).symm
    exact apart.once m k a (hs ▸ inM) here

lemma Apart.erase :
    Apart (Function.update f k ((f k).erase a)) where
  nodup m := by
    by_cases at_ : m = k
    · subst at_
      rw [Function.update_self]
      exact (apart.nodup m).erase a
    · rw [Function.update_of_ne at_]
      exact apart.nodup m
  once m l b inM inL :=
    apart.once m l b ((apart.mem_erase here).mp inM).1 ((apart.mem_erase here).mp inL).1

/-- `a` goes from the queue `k` to the front of the queue `l`. -/
def move (f : κ → List α) (a : α) (k l : κ) : κ → List α :=
  Function.update (Function.update f l (a :: f l)) k ((f k).erase a)

lemma Apart.mem_move (other : k ≠ l) : b ∈ move f a k l m ↔ if b = a then m = l else b ∈ f m := by
  unfold move
  by_cases atK : m = k
  · subst atK
    rw [Function.update_self, (apart.nodup m).mem_erase_iff]
    by_cases hs : b = a <;> simp [hs, other]
  · rw [Function.update_of_ne atK]
    by_cases atL : m = l
    · subst atL
      by_cases hs : b = a <;> simp [hs]
    · rw [Function.update_of_ne atL]
      by_cases hs : b = a
      · subst hs
        simp only [atL, if_true, iff_false]
        exact fun inM => atK (apart.once m k b inM here)
      · simp [hs]

lemma Apart.move (other : k ≠ l) :
    Apart (move f a k l) where
  nodup m := by
    unfold Queues.move
    by_cases atK : m = k
    · subst atK
      rw [Function.update_self]
      exact (apart.nodup m).erase a
    · rw [Function.update_of_ne atK]
      by_cases atL : m = l
      · subst atL
        rw [Function.update_self]
        exact List.nodup_cons.mpr ⟨fun inM => atK (apart.once m k a inM here), apart.nodup m⟩
      · rw [Function.update_of_ne atL]
        exact apart.nodup m
  once m n b inM inN := by
    rw [apart.mem_move here other] at inM inN
    by_cases hs : b = a
    · rw [if_pos hs] at inM inN
      rw [inM, inN]
    · rw [if_neg hs] at inM inN
      exact apart.once m n b inM inN

end

end WorldServer.Lib.Queues
