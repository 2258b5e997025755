import WorldServer.Groups.RollSteps
import WorldServer.Lib.Highest

/-!
# Who wins a roll

The class that wins is told by the counters, the winner by the votes. Where the counters are
positive without a vote of the class, the first voter wins with the number zero.
-/
namespace WorldServer.Groups

open Lib

namespace Roll

/-- Somebody in the roll has a vote of the class. -/
def Voted (r : Roll) (counts : RollVote → Bool) : Prop :=
  ∃ player vote, r.playerVote.lookup player = some vote ∧ counts vote

def WonWith (p : Players) (r : Roll) (counts : RollVote → Bool) : Outcome → Prop
  | .won winner vote number =>
    r.playerVote.lookup winner = some vote ∧ counts vote ∧
      (winner, vote, number) ∈ r.numbers counts (p.urand r.itemGUID) ∧
      ∀ entry ∈ r.numbers counts (p.urand r.itemGUID), entry.2.2 ≤ number
  | _ => False

/-- Need wins, else greed or disenchant, else nobody. -/
structure Fair (p : Players) (r : Roll) : Prop where
  need : r.Voted RollVote.isNeed → WonWith p r RollVote.isNeed (r.outcome p)
  greed : ¬ r.Voted RollVote.isNeed → r.Voted RollVote.isGreed →
    WonWith p r RollVote.isGreed (r.outcome p)
  nobody : ¬ r.Voted RollVote.isNeed → ¬ r.Voted RollVote.isGreed →
    ∀ winner vote number, r.outcome p ≠ .won winner vote number

/-- The counters tell the class that wins. -/
structure Counted (r : Roll) : Prop where
  need : 0 < r.totalNeed ↔ r.Voted RollVote.isNeed
  greed : ¬ r.Voted RollVote.isNeed → (0 < r.totalGreed ↔ r.Voted RollVote.isGreed)

end Roll

/-! ### The numbers -/

section

variable {r : Roll} {counts : RollVote → Bool} {urand : ℕ → Fin 100}

lemma mem_votes_iff {player : UInt64} {vote : RollVote} :
    ⟨player, vote⟩ ∈ r.votes ↔ r.playerVote.lookup player = some vote := by
  rw [Roll.votes, List.mem_insertionSort]
  exact AList.mem_lookup_iff.symm

lemma votes_eq_nil_iff : r.votes = [] ↔ r.playerVote = ∅ := by
  rw [← List.length_eq_zero_iff, Roll.votes, List.length_insertionSort, List.length_eq_zero_iff]
  exact ⟨fun none => AList.ext none, fun none => none ▸ rfl⟩

lemma mem_numbers {entry : UInt64 × RollVote × ℕ} (mem : entry ∈ r.numbers counts urand) :
    r.playerVote.lookup entry.1 = some entry.2.1 ∧ counts entry.2.1 ∧ 0 < entry.2.2 := by
  obtain ⟨⟨⟨player, vote⟩, k⟩, drawn, rfl⟩ := List.mem_map.mp mem
  have voted := List.fst_mem_of_mem_zipIdx drawn
  obtain ⟨voter, counted⟩ := List.mem_filter.mp voted
  exact ⟨mem_votes_iff.mp voter, counted, Nat.succ_pos _⟩

lemma numbers_eq_nil_iff : r.numbers counts urand = [] ↔ ¬ r.Voted counts := by
  rw [Roll.numbers, List.map_eq_nil_iff, List.zipIdx_eq_nil_iff, List.filter_eq_nil_iff]
  constructor
  · rintro none ⟨player, vote, voted, counted⟩
    exact none ⟨player, vote⟩ (mem_votes_iff.mpr voted) counted
  · rintro none ⟨player, vote⟩ voted counted
    exact none ⟨player, vote, mem_votes_iff.mp voted, counted⟩

lemma highest_of_not_voted (none : ¬ r.Voted counts) (first : UInt64 × RollVote × ℕ) :
    Roll.highest first (r.numbers counts urand) = first := by
  rw [numbers_eq_nil_iff.mpr none]
  rfl

lemma firstHighest_numbers (voted : r.Voted counts) (player : UInt64) (vote : RollVote) :
    FirstHighest (fun entry => entry.2.2) (r.numbers counts urand)
      (Roll.highest (player, vote, 0) (r.numbers counts urand)) :=
  firstHighest_of_lt _ (fun none => numbers_eq_nil_iff.mp none voted)
    fun _ mem => (mem_numbers mem).2.2

end

/-! ### The outcome -/

section

variable {p : Players} {r : Roll}

lemma outcome_of_no_voter (valid : r.loot ≠ none) (none : r.playerVote = ∅) :
    r.outcome p = if 0 < r.totalNeed ∨ 0 < r.totalGreed then .empty else .allPassed := by
  rw [Roll.outcome, if_neg valid, votes_eq_nil_iff.mpr none]
  split_ifs <;> simp_all

lemma exists_first (some : r.playerVote ≠ ∅) : ∃ first rest, r.votes = first :: rest :=
  List.exists_cons_of_ne_nil (mt votes_eq_nil_iff.mp some)

lemma outcome_of_need (valid : r.loot ≠ none) (some : r.playerVote ≠ ∅)
    (need : 0 < r.totalNeed) :
    ∃ first, ∀ best,
      Roll.highest (first, .need, 0) (r.numbers RollVote.isNeed (p.urand r.itemGUID)) = best →
        r.outcome p = .won best.1 best.2.1 best.2.2 := by
  obtain ⟨first, rest, votes⟩ := exists_first some
  refine ⟨first.1, ?_⟩
  rintro best rfl
  rw [Roll.outcome, if_neg valid, if_pos need, votes]

lemma outcome_of_greed (valid : r.loot ≠ none) (some : r.playerVote ≠ ∅)
    (noNeed : ¬ 0 < r.totalNeed) (greed : 0 < r.totalGreed) :
    ∃ first, ∀ best,
      Roll.highest (first, .notValid, 0) (r.numbers RollVote.isGreed (p.urand r.itemGUID)) = best →
        r.outcome p = .won best.1 best.2.1 best.2.2 := by
  obtain ⟨first, rest, votes⟩ := exists_first some
  refine ⟨first.1, ?_⟩
  rintro best rfl
  rw [Roll.outcome, if_neg valid, if_neg noNeed, if_pos greed, votes]

lemma outcome_of_pass (valid : r.loot ≠ none) (noNeed : ¬ 0 < r.totalNeed)
    (noGreed : ¬ 0 < r.totalGreed) : r.outcome p = .allPassed := by
  rw [Roll.outcome, if_neg valid, if_neg noNeed, if_neg noGreed]

lemma ne_empty_of_voted {counts : RollVote → Bool} (voted : r.Voted counts) :
    r.playerVote ≠ ∅ := by
  obtain ⟨player, vote, hf, -⟩ := voted
  intro none
  rw [none, AList.lookup_empty] at hf
  cases hf

lemma not_isNeed_of_isGreed {vote : RollVote} (greed : vote.isGreed) : ¬ vote.isNeed := by
  cases vote <;> simp_all [RollVote.isGreed, RollVote.isNeed]

lemma Roll.Counted.outcome_cases (counted : r.Counted) (valid : r.loot ≠ none) :
    (r.Voted RollVote.isNeed ∧ ∃ best, r.outcome p = .won best.1 best.2.1 best.2.2 ∧
        FirstHighest (fun entry => entry.2.2)
          (r.numbers RollVote.isNeed (p.urand r.itemGUID)) best) ∨
      (¬ r.Voted RollVote.isNeed ∧ r.Voted RollVote.isGreed ∧
        ∃ best, r.outcome p = .won best.1 best.2.1 best.2.2 ∧
          FirstHighest (fun entry => entry.2.2)
            (r.numbers RollVote.isGreed (p.urand r.itemGUID)) best) ∨
      (¬ r.Voted RollVote.isNeed ∧ ¬ r.Voted RollVote.isGreed ∧ r.outcome p = .allPassed) := by
  by_cases need : r.Voted RollVote.isNeed
  · obtain ⟨first, won⟩ := outcome_of_need valid (ne_empty_of_voted need) (counted.need.mpr need)
    exact .inl ⟨need, _, won _ rfl, firstHighest_numbers need ..⟩
  · have noNeed := mt counted.need.mp need
    by_cases greed : r.Voted RollVote.isGreed
    · obtain ⟨first, won⟩ := outcome_of_greed valid (ne_empty_of_voted greed) noNeed
        ((counted.greed need).mpr greed)
      exact .inr (.inl ⟨need, greed, _, won _ rfl, firstHighest_numbers greed ..⟩)
    · exact .inr (.inr ⟨need, greed,
        outcome_of_pass valid noNeed (mt (counted.greed need).mp greed)⟩)

lemma wonWith_of_firstHighest {counts : RollVote → Bool} {best : UInt64 × RollVote × ℕ}
    (high : FirstHighest (fun entry => entry.2.2) (r.numbers counts (p.urand r.itemGUID)) best) :
    Roll.WonWith p r counts (.won best.1 best.2.1 best.2.2) := by
  obtain ⟨voted, counted, -⟩ := mem_numbers high.mem
  exact ⟨voted, counted, high.mem, fun entry mem => high.le mem⟩

lemma Roll.Counted.fair (counted : r.Counted) (valid : r.loot ≠ none) : Fair p r := by
  rcases counted.outcome_cases (p := p) valid with
    ⟨need, best, won, high⟩ | ⟨noNeed, greed, best, won, high⟩ | ⟨noNeed, noGreed, passed⟩
  · refine ⟨fun _ => ?_, fun noNeed => absurd need noNeed, fun noNeed => absurd need noNeed⟩
    rw [won]
    exact wonWith_of_firstHighest high
  · refine ⟨fun need => absurd need noNeed, fun _ _ => ?_, fun _ noGreed => absurd greed noGreed⟩
    rw [won]
    exact wonWith_of_firstHighest high
  · refine ⟨fun need => absurd need noNeed, fun _ greed => absurd greed noGreed, fun _ _ => ?_⟩
    rw [passed]
    intro _ _ _ won
    cases won

lemma Roll.Fair.counted (fair : Fair p r) (valid : r.loot ≠ none) (some : r.playerVote ≠ ∅) :
    r.Counted := by
  have need : 0 < r.totalNeed ↔ r.Voted RollVote.isNeed := by
    constructor
    · intro counter
      by_contra noNeed
      obtain ⟨first, won⟩ := outcome_of_need (p := p) valid some counter
      have won := won _ (highest_of_not_voted noNeed _)
      by_cases greed : r.Voted RollVote.isGreed
      · have wonWith := fair.greed noNeed greed
        rw [won] at wonWith
        exact Bool.false_ne_true wonWith.2.1
      · exact fair.nobody noNeed greed _ _ _ won
    · intro need
      by_contra noCounter
      have wonWith := fair.need need
      by_cases counter : 0 < r.totalGreed
      · obtain ⟨first, won⟩ := outcome_of_greed (p := p) valid some noCounter counter
        have won := won _ rfl
        rw [won] at wonWith
        by_cases greed : r.Voted RollVote.isGreed
        · have high : FirstHighest _ (r.numbers RollVote.isGreed (p.urand r.itemGUID)) _ :=
            firstHighest_numbers greed first .notValid
          exact not_isNeed_of_isGreed (mem_numbers high.mem).2.1 wonWith.2.1
        · rw [highest_of_not_voted greed] at wonWith
          exact Bool.false_ne_true wonWith.2.1
      · rw [outcome_of_pass valid noCounter counter] at wonWith
        exact wonWith
  refine ⟨need, fun noNeed => ⟨?_, ?_⟩⟩
  · intro counter
    by_contra noGreed
    obtain ⟨first, won⟩ := outcome_of_greed (p := p) valid some (mt need.mp noNeed) counter
    exact fair.nobody noNeed noGreed _ _ _ (won _ rfl)
  · intro greed
    by_contra noCounter
    have wonWith := fair.greed noNeed greed
    rw [outcome_of_pass valid (mt need.mp noNeed) noCounter] at wonWith
    exact wonWith

/-- The right player wins if and only if the counters tell the class, or nobody is left. -/
lemma fair_iff (valid : r.loot ≠ none) : Roll.Fair p r ↔ r.playerVote = ∅ ∨ r.Counted := by
  constructor
  · intro fair
    by_cases nobody : r.playerVote = ∅
    · exact .inl nobody
    · exact .inr (fair.counted valid nobody)
  · rintro (nobody | counted)
    · have noVote : ∀ counts, ¬ r.Voted counts := fun counts voted =>
        ne_empty_of_voted voted nobody
      refine ⟨fun need => absurd need (noVote _), fun _ greed => absurd greed (noVote _), ?_⟩
      rw [outcome_of_no_voter valid nobody]
      intro _ _ _ _ _ won
      split at won <;> cases won
    · exact counted.fair valid

end

end WorldServer.Groups
