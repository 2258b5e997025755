import Mathlib.Data.Finset.Card
import Mathlib.Data.List.Chain
import Mathlib.Data.Nat.ModEq

/-!
# Numbers that go round

Things that come one after the other are numbered modulo `m`. As long as there are at most `m` of
them the numbers differ, and when there are `m` the next number is the one of the oldest.
-/
namespace WorldServer.Lib

/-- The list goes up by one from each number to the next one, modulo `m`. -/
structure Successive (m : ℕ) (l : List ℕ) : Prop where
  below : ∀ a ∈ l, a < m
  chain : l.IsChain fun a b => b = (a + 1) % m

namespace Successive

variable {m : ℕ} {l : List ℕ}

lemma tail {a : ℕ} (s : Successive m (a :: l)) : Successive m l :=
  ⟨fun b hm => s.below b (List.mem_cons_of_mem a hm), List.IsChain.tail s.chain⟩

lemma getElem_eq {first : ℕ} (s : Successive m (first :: l)) {i : ℕ}
    (hi : i < (first :: l).length) : (first :: l)[i] = (first + i) % m := by
  induction i with
  | zero =>
    have small := s.below first List.mem_cons_self
    simp [Nat.mod_eq_of_lt small]
  | succ i ih =>
    have step := List.isChain_iff_getElem.mp s.chain i (by omega)
    rw [step, ih (by omega), Nat.mod_add_mod, Nat.add_assoc]

lemma nodup (s : Successive m l) (short : l.length ≤ m) : l.Nodup := by
  cases l with
  | nil => exact List.nodup_nil
  | cons first l =>
    rw [List.nodup_iff_injective_getElem]
    intro i j hs
    have congruent : (first + i) % m = (first + j) % m := by
      rw [← s.getElem_eq i.isLt, ← s.getElem_eq j.isLt]
      exact hs
    have := Nat.ModEq.add_left_cancel' first congruent
    have hi : (i : ℕ) < m := lt_of_lt_of_le i.isLt short
    have hj : (j : ℕ) < m := lt_of_lt_of_le j.isLt short
    exact Fin.ext (Nat.ModEq.eq_of_lt_of_lt this hi hj)

lemma push (s : Successive m l) (pos : 0 < m) {last : ℕ} (hlast : l.getLast? = some last) :
    Successive m (l ++ [(last + 1) % m]) where
  below a hm := by
    rcases List.mem_append.mp hm with old | new
    · exact s.below a old
    · rw [List.mem_singleton.mp new]
      exact Nat.mod_lt _ pos
  chain := by
    rw [List.isChain_append]
    refine ⟨s.chain, .singleton _, ?_⟩
    intro a ha b hb
    rw [hlast] at ha
    cases ha
    cases hb
    rfl

lemma next_eq_first {first last : ℕ} (s : Successive m (first :: l))
    (full : (first :: l).length = m) (hlast : (first :: l).getLast? = some last) :
    (last + 1) % m = first := by
  have small := s.below first List.mem_cons_self
  have place : (first :: l)[l.length] = last := by
    simpa [List.getLast?_eq_getElem?] using hlast
  rw [← place, s.getElem_eq, Nat.mod_add_mod, Nat.add_assoc, ← List.length_cons, full,
    Nat.add_mod_right, Nat.mod_eq_of_lt small]

lemma next_not_mem {last : ℕ} (s : Successive m l) (room : l.length < m)
    (hlast : l.getLast? = some last) : (last + 1) % m ∉ l := by
  have distinct := (s.push (by omega) hlast).nodup (by simpa using Nat.succ_le_of_lt room)
  intro hm
  exact List.disjoint_of_nodup_append distinct hm List.mem_cons_self

end Successive

lemma mem_of_nodup_of_length {m a : ℕ} {l : List ℕ} (distinct : l.Nodup)
    (below : ∀ b ∈ l, b < m) (full : l.length = m) (ha : a < m) : a ∈ l := by
  have subset : l.toFinset ⊆ Finset.range m := by
    intro b hm
    exact Finset.mem_range.mpr (below b (List.mem_toFinset.mp hm))
  have all := Finset.eq_of_subset_of_card_le subset
    (by rw [List.toFinset_card_of_nodup distinct, full, Finset.card_range])
  rw [← List.mem_toFinset, all]
  exact Finset.mem_range.mpr ha

end WorldServer.Lib
