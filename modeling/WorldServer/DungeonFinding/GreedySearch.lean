import WorldServer.DungeonFinding.Matches
import WorldServer.DungeonFinding.Searches

/-!
# What a search tries

The list of the other entries is passed by reference. An entry that goes with those before it is
kept for good, and the search below it uses up the list: nothing is tried again without it. The
search is one pass over the entries.
-/
namespace WorldServer.DungeonFinding

open WorldServer.Lib

variable {s : Matching} {check all : List UInt64} {queue : LFGQueue}

namespace Matching

variable (w : World) (stores : Stores)

/-! ### One pass -/

/-- The pass over the entries: each that goes with those before it is kept, the others are left
out, and the first match ends it. -/
def GreedyMatch (s : Matching) (check : List UInt64) : List UInt64 → Prop
  | [] => False
  | other :: all =>
    let answer := s.answer w stores (check ++ [other])
    if answer.2 = .isMatch then True
    else if answer.2 = .withLessPlayers then GreedyMatch answer.1 (check ++ [other]) all
    else GreedyMatch answer.1 check all

/-- The pass that starts with the front entry. -/
def GreedyFront (s : Matching) (frontguid : UInt64) (all : List UInt64) : Prop :=
  (s.answer w stores [frontguid]).2 = .isMatch ∨
    (s.answer w stores [frontguid]).2 = .withLessPlayers ∧
      GreedyMatch w stores (s.answer w stores [frontguid]).1 [frontguid] all

instance decidableGreedyMatch (s : Matching) (check : List UInt64) :
    (all : List UInt64) → Decidable (GreedyMatch w stores s check all)
  | [] => isFalse id
  | other :: all =>
    have := decidableGreedyMatch (s.answer w stores (check ++ [other])).1 (check ++ [other]) all
    have := decidableGreedyMatch (s.answer w stores (check ++ [other])).1 check all
    inferInstanceAs (Decidable (if (s.answer w stores (check ++ [other])).2 = .isMatch then True
      else if (s.answer w stores (check ++ [other])).2 = .withLessPlayers then
        GreedyMatch w stores (s.answer w stores (check ++ [other])).1 (check ++ [other]) all
      else GreedyMatch w stores (s.answer w stores (check ++ [other])).1 check all))

instance (s : Matching) (frontguid : UInt64) (all : List UInt64) :
    Decidable (GreedyFront w stores s frontguid all) :=
  inferInstanceAs (Decidable (_ ∨ _ ∧ _))

variable {w stores}

lemma matchQueued_used (fuel : ℕ) (enough : 2 * all.length + 1 ≤ fuel)
    (fails : (s.matchQueued w stores fuel check all).2.1 ≠ .isMatch) :
    (s.matchQueued w stores fuel check all).2.2 = [] := by
  induction fuel using Nat.strong_induction_on generalizing s check all with
  | _ fuel ih =>
    obtain ⟨fuel, rfl⟩ := Nat.exists_eq_add_of_le' (Nat.one_le_of_lt enough)
    cases all with
    | nil => rfl
    | cons other all =>
      rw [List.length_cons] at enough
      have left : 2 * (s.FindNewGroups w stores fuel (check ++ [other]) all).2.2.length + 1 ≤
          fuel := by
        have fewer := ((search_leaves w stores fuel).1 s (check ++ [other]) all).2.length_le
        omega
      rw [matchQueued] at fails ⊢
      dsimp only at fails ⊢
      split
      · next hf =>
        rw [if_pos hf] at fails
        exact absurd rfl fails
      · next none =>
        rw [if_neg none] at fails
        exact ih fuel (Nat.lt_succ_self fuel) left fails

lemma matchQueued_isMatch_iff (fuel : ℕ) (enough : 2 * all.length + 1 ≤ fuel) :
    (s.matchQueued w stores fuel check all).2.1 = .isMatch ↔
      s.GreedyMatch w stores check all := by
  induction all generalizing s check fuel with
  | nil =>
    obtain ⟨fuel, rfl⟩ := Nat.exists_eq_add_of_le' (Nat.one_le_of_lt enough)
    exact iff_of_false nofun id
  | cons other all ih =>
    rw [List.length_cons] at enough
    obtain ⟨fuel, rfl⟩ := Nat.exists_eq_add_of_le' (show 2 ≤ fuel by omega)
    rw [matchQueued, FindNewGroups, GreedyMatch]
    dsimp only
    by_cases hf : (s.answer w stores (check ++ [other])).2 = .isMatch
    · rw [if_pos hf]
      simp [hf]
    · rw [if_neg hf]
      by_cases less : (s.answer w stores (check ++ [other])).2 = .withLessPlayers
      · rw [if_pos less, if_neg (not_not.mpr less), ← ih fuel (by omega)]
        split
        · next inner => simp [inner]
        · next inner =>
          rw [matchQueued_used fuel (by omega) inner]
          simp [matchQueued, inner]
      · rw [if_neg less, if_pos less]
        dsimp only
        rw [if_neg hf]
        exact ih (fuel + 1) (by omega)

lemma FindNewGroups_isMatch_iff (fuel : ℕ) {frontguid : UInt64}
    (enough : 2 * all.length + 2 ≤ fuel) :
    (s.FindNewGroups w stores fuel [frontguid] all).2.1 = .isMatch ↔
      s.GreedyFront w stores frontguid all := by
  obtain ⟨fuel, rfl⟩ := Nat.exists_eq_add_of_le' (Nat.one_le_of_lt enough)
  rw [FindNewGroups, GreedyFront]
  dsimp only
  split
  · next other => simp [other]
  · next less =>
    rw [not_not] at less
    rw [matchQueued_isMatch_iff fuel (by omega), less]
    simp

end Matching

lemma decimal_injective : Function.Injective decimal := fun guid guid' hs => by
  have value := congrArg (Nat.ofDigitChars 10 · 0) hs
  simp only [decimal, Nat.ofDigitChars_ten_toDigits] at value
  exact UInt64.toNat_inj.mp value

lemma bar_notMem_decimal (guid : UInt64) : '|' ∉ decimal guid := fun hm => by
  have digit := Nat.isDigit_of_mem_toDigits (by decide) (by decide) hm
  exact absurd digit (by decide)

lemma mem_of_ConcatenateGuids {check' : List UInt64} (some : check ≠ []) (some' : check' ≠ [])
    (hs : ConcatenateGuids check = ConcatenateGuids check') (guid : UInt64) :
    guid ∈ check ↔ guid ∈ check' := by
  have guids : ∀ check : List UInt64, check ≠ [] →
      (ConcatenateGuids check).splitOn '|' =
        (check.dedup.insertionSort (· ≤ ·)).map decimal := fun check some => by
    refine List.splitOn_intercalate '|' (fun digits hm => ?_) ?_
    · obtain ⟨guid, -, rfl⟩ := List.mem_map.mp hm
      exact bar_notMem_decimal guid
    · rw [Ne, List.map_eq_nil_iff, ← List.length_eq_zero_iff, List.length_insertionSort,
        List.length_eq_zero_iff, List.dedup_eq_nil]
      exact some
  have sorted := (guids check some).symm.trans (hs ▸ guids check' some')
  have equal := (List.map_injective_iff.mpr decimal_injective) sorted
  have hm : ∀ check : List UInt64, guid ∈ check.dedup.insertionSort (· ≤ ·) ↔ guid ∈ check :=
    fun check => by rw [List.mem_insertionSort, List.mem_dedup]
  rw [← hm check, ← hm check', equal]

/-! ### Checks without the cache -/

def Verdict.found : Verdict → LfgCompatibility
  | .missing _ => .pending
  | .compatibles found => found
  | .proposal _ => .isMatch

lemma verdict_found_congr (w : World) (stores : Stores) {queue' : LFGQueue}
    (hs : queue'.QueueDataStore = queue.QueueDataStore) (id id' : UInt32) (check : List UInt64) :
    (verdict w stores queue' id' check).found = (verdict w stores queue id check).found := by
  have data : queue'.data = queue.data := by
    funext guid
    unfold LFGQueue.data
    rw [hs]
  have counts : ∀ counted, countPlayers stores queue' counted check =
      countPlayers stores queue counted check := by
    induction check with
    | nil => exact fun _ => rfl
    | cons guid check ih =>
      intro counted
      rw [countPlayers, countPlayers, hs]
      simp only [ih]
  have roles : gatherRoles w queue' check = gatherRoles w queue check := by
    unfold gatherRoles
    rw [data]
  have dungeons : gatherDungeons queue' check = gatherDungeons queue check := by
    cases check with
    | nil => rfl
    | cons guid check => rw [gatherDungeons, gatherDungeons, data]
  unfold verdict
  rw [counts, roles, dungeons, data]
  cases countPlayers stores queue .init check with
  | error guid => rfl
  | ok counted =>
    dsimp only
    split_ifs <;> rfl

namespace Matching

variable {w : World} {stores : Stores}

lemma checkThese_found (s : Matching) (check : List UInt64) :
    (s.checkThese w stores check).2 =
      (verdict w stores s.queue s.proposals.nextId check).found := by
  unfold checkThese
  split <;> next hf => rw [hf]; rfl

variable {s' : Matching} {key : Guids}

lemma checkThese_congr (hs : s'.queue.QueueDataStore = s.queue.QueueDataStore)
    (check : List UInt64) : (s'.checkThese w stores check).2 = (s.checkThese w stores check).2 := by
  rw [checkThese_found, checkThese_found, verdict_found_congr w stores hs]

lemma CheckCompatibility_congr (hs : s'.queue.QueueDataStore = s.queue.QueueDataStore)
    (check : List UInt64) :
    (s'.CheckCompatibility w stores check).2 = (s.CheckCompatibility w stores check).2 := by
  induction check with
  | nil => rfl
  | cons frontGuid rest ih =>
    have data : (s'.CheckCompatibility w stores rest).1.queue.QueueDataStore =
        (s.CheckCompatibility w stores rest).1.queue.QueueDataStore := by
      rw [CheckCompatibility_data, CheckCompatibility_data, hs]
    rw [CheckCompatibility, CheckCompatibility]
    dsimp only
    rw [ih]
    split
    · rfl
    · split
      · split
        · rfl
        · exact checkThese_congr data _
      · exact checkThese_congr hs _

/-! ### What a check writes to the cache -/

lemma GetCompatibles_SetCompatibles {key' : Guids} (other : key' ≠ key)
    (compatibles : LfgCompatibility) :
    (queue.SetCompatibles key compatibles).GetCompatibles key' = queue.GetCompatibles key' := by
  unfold LFGQueue.SetCompatibles LFGQueue.GetCompatibles
  rw [AList.lookup_insert_ne other]

lemma leave_cache (queue : LFGQueue) (check : List UInt64) :
    (check.foldl (fun queue guid => (queue.RemoveFromNewQueue guid).RemoveFromCurrentQueue guid)
      queue).CompatibleMapStore = queue.CompatibleMapStore := by
  induction check generalizing queue with
  | nil => rfl
  | cons guid check ih => exact ih _

def Known (s : Matching) (check : List UInt64) : Prop :=
  ∀ guid ∈ check, (s.queue.QueueDataStore.lookup guid).isSome

lemma countPlayers_of_known (known : ∀ guid ∈ check, (queue.QueueDataStore.lookup guid).isSome)
    (counted : Counted) (guid : UInt64) :
    countPlayers stores queue counted check ≠ .error guid := by
  induction check generalizing counted with
  | nil => simp [countPlayers]
  | cons guid' check ih =>
    obtain ⟨here, rest⟩ := List.forall_mem_cons.mp known
    obtain ⟨data, hf⟩ := Option.isSome_iff_exists.mp here
    rw [countPlayers, hf]
    split
    · exact ih rest _
    · simp

lemma checkThese_cache (known : s.Known check) (other : key ≠ ConcatenateGuids check) :
    (s.checkThese w stores check).1.queue.GetCompatibles key = s.queue.GetCompatibles key := by
  unfold checkThese
  split
  · next missing =>
    rw [verdict] at missing
    split at missing
    · next absent => exact absurd absent (countPlayers_of_known known _ _)
    · dsimp only at missing
      split_ifs at missing
  · exact GetCompatibles_SetCompatibles other _
  · rw [GetCompatibles_SetCompatibles other]
    unfold LFGQueue.GetCompatibles propose
    rw [leave_cache]

lemma CheckCompatibility_cache (known : s.Known check)
    (other : ∀ part, part <:+ check → part ≠ [] → key ≠ ConcatenateGuids part) :
    (s.CheckCompatibility w stores check).1.queue.GetCompatibles key =
      s.queue.GetCompatibles key := by
  induction check with
  | nil => rfl
  | cons frontGuid rest ih =>
    have here := other (frontGuid :: rest) (List.suffix_refl _) (List.cons_ne_nil _ _)
    have before := ih (fun guid hm => known guid (List.mem_cons_of_mem _ hm))
      fun part isPart => other part (isPart.trans (List.suffix_cons _ _))
    rw [CheckCompatibility]
    dsimp only
    split
    · rfl
    · split
      · split
        · exact (GetCompatibles_SetCompatibles here _).trans before
        · refine (checkThese_cache (fun guid hm => ?_) here).trans before
          rw [CheckCompatibility_data]
          exact known guid hm
      · exact checkThese_cache known here

lemma answer_data (s : Matching) (check : List UInt64) :
    (s.answer w stores check).1.queue.QueueDataStore = s.queue.QueueDataStore := by
  have compatibility : (s.compatibility w stores check).1.queue.QueueDataStore =
      s.queue.QueueDataStore := by
    unfold Matching.compatibility
    dsimp only
    split
    · exact CheckCompatibility_data w stores s check
    · rfl
  unfold answer
  dsimp only
  split <;> exact compatibility

lemma answer_cache (known : s.Known check) (some : check ≠ [])
    (other : ∀ part, part <:+ check → part ≠ [] → key ≠ ConcatenateGuids part) :
    (s.answer w stores check).1.queue.GetCompatibles key = s.queue.GetCompatibles key := by
  have compatibility : (s.compatibility w stores check).1.queue.GetCompatibles key =
      s.queue.GetCompatibles key := by
    unfold Matching.compatibility
    dsimp only
    split
    · exact CheckCompatibility_cache known other
    · rfl
  unfold answer
  dsimp only
  split
  · exact (GetCompatibles_SetCompatibles (other check (List.suffix_refl _) some) _).trans
      compatibility
  · exact compatibility

/-- The answer depends on the queue data and on the cached check of the same entries. -/
lemma answer_congr (data : s'.queue.QueueDataStore = s.queue.QueueDataStore)
    (cache : s'.queue.GetCompatibles (ConcatenateGuids check) =
      s.queue.GetCompatibles (ConcatenateGuids check)) :
    (s'.answer w stores check).2 = (s.answer w stores check).2 := by
  have compatibility : (s'.compatibility w stores check).2 =
      (s.compatibility w stores check).2 := by
    unfold Matching.compatibility
    dsimp only
    rw [cache]
    split
    · exact CheckCompatibility_congr data check
    · rfl
  unfold answer
  dsimp only
  rw [compatibility]
  split <;> rfl

/-! ### The pass with the answers of its beginning -/

def Passes (found : List UInt64 → LfgCompatibility) (check : List UInt64) : List UInt64 → Prop
  | [] => False
  | other :: all =>
    if found (check ++ [other]) = .isMatch then True
    else if found (check ++ [other]) = .withLessPlayers then Passes found (check ++ [other]) all
    else Passes found check all

/-- What the checks so far have changed is not about the entries to come. -/
structure Unread (s₀ s : Matching) (all : List UInt64) : Prop where
  data : s.queue.QueueDataStore = s₀.queue.QueueDataStore
  cache : ∀ check, (∃ guid ∈ check, guid ∈ all) →
    s.queue.GetCompatibles (ConcatenateGuids check) =
      s₀.queue.GetCompatibles (ConcatenateGuids check)

lemma Unread.answer {s₀ : Matching} {all' : List UInt64} (unread : Unread s₀ s all)
    (known : s₀.Known check) (some : check ≠ []) (later : ∀ guid ∈ all', guid ∈ all ∧ guid ∉ check) :
    Unread s₀ (s.answer w stores check).1 all' where
  data := (answer_data s check).trans unread.data
  cache := by
    rintro others ⟨guid, hm, isLater⟩
    obtain ⟨inAll, notChecked⟩ := later guid isLater
    have known : s.Known check := fun guid hm => by
      rw [unread.data]
      exact known guid hm
    refine (answer_cache known some fun part isPart nonempty hs => ?_).trans
      (unread.cache others ⟨guid, hm, inAll⟩)
    have inPart := (mem_of_ConcatenateGuids (List.ne_nil_of_mem hm) nonempty hs guid).mp hm
    exact notChecked (isPart.subset inPart)

lemma greedyMatch_iff_passes {s₀ : Matching} (distinct : (check ++ all).Nodup)
    (known : s₀.Known (check ++ all)) (unread : Unread s₀ s all) :
    s.GreedyMatch w stores check all ↔
      Passes (fun check => (s₀.answer w stores check).2) check all := by
  induction all generalizing s check with
  | nil => exact Iff.rfl
  | cons other all ih =>
    have hs : (s.answer w stores (check ++ [other])).2 =
        (s₀.answer w stores (check ++ [other])).2 :=
      answer_congr unread.data (unread.cache (check ++ [other]) ⟨other, by simp, List.mem_cons_self⟩)
    have next : Unread s₀ (s.answer w stores (check ++ [other])).1 all := by
      refine unread.answer (fun guid hm => known guid ?_) (by simp) fun guid hm =>
        ⟨List.mem_cons_of_mem _ hm, fun checked => ?_⟩
      · grind
      · rw [List.append_cons, List.nodup_append] at distinct
        exact distinct.2.2 guid checked guid hm rfl
    rw [GreedyMatch, Passes, hs]
    split_ifs
    · exact Iff.rfl
    · refine ih ?_ ?_ next <;> rw [← List.append_cons]
      · exact distinct
      · exact known
    · refine ih (distinct.sublist ?_) (fun guid hm => known guid ?_) next
      · exact List.Sublist.append_left (List.sublist_cons_self _ _) check
      · grind

end Matching

open Matching

/-- The entries pass as a full match, and those before each of them are compatible. -/
structure FullMatch (w : World) (stores : Stores) (s : Matching) (check : List UInt64) : Prop where
  isMatch : (s.CheckCompatibility w stores check).2 = .isMatch
  prefixes : ∀ part, part <+: check → part ≠ [] → part ≠ check →
    (s.CheckCompatibility w stores part).2.incompatible = false

/-- A search finds one of the full matches in exactly the cases where the pass that keeps every
entry that fits ends with a match. For different entries with queue data the answers along the pass
are those of the beginning. -/
theorem FindNewGroups_complete_iff (w : World) (stores : Stores) (s : Matching) (frontguid : UInt64)
    (all : List UInt64) :
    ((∀ fuel, 2 * all.length + 2 ≤ fuel →
        (∃ found, found.Sublist all ∧ FullMatch w stores s (frontguid :: found)) →
          (s.FindNewGroups w stores fuel [frontguid] all).2.1 = .isMatch) ↔
      ((∃ found, found.Sublist all ∧ FullMatch w stores s (frontguid :: found)) →
        s.GreedyFront w stores frontguid all)) ∧
    ((frontguid :: all).Nodup → s.Known (frontguid :: all) →
      (s.GreedyFront w stores frontguid all ↔
        (s.answer w stores [frontguid]).2 = .isMatch ∨
          (s.answer w stores [frontguid]).2 = .withLessPlayers ∧
            Passes (fun check => (s.answer w stores check).2) [frontguid] all)) := by
  constructor
  · constructor
    · intro complete exists'
      exact (FindNewGroups_isMatch_iff _ le_rfl).mp (complete _ le_rfl exists')
    · intro greedy fuel enough exists'
      exact (FindNewGroups_isMatch_iff fuel enough).mpr (greedy exists')
  · intro distinct known
    have start : Unread s (s.answer w stores [frontguid]).1 all := by
      refine Unread.answer ⟨rfl, fun _ _ => rfl⟩ (fun guid member => known guid ?_)
        (List.cons_ne_nil _ _) fun guid member => ⟨member, fun isFront => ?_⟩
      · exact List.mem_cons.mpr (.inl (List.mem_singleton.mp member))
      · rw [List.mem_singleton] at isFront
        exact (List.nodup_cons.mp distinct).1 (isFront ▸ member)
    unfold GreedyFront
    rw [greedyMatch_iff_passes distinct known start]

namespace Matching

/-- A tank, and behind him another tank, a healer and a group of three who deal damage. -/
def gathering : Matching where
  queue :=
    { QueueDataStore := (((AList.insert 1 ⟨[7], [(1, PLAYER_ROLE_TANK)]⟩ ∅).insert 9
          ⟨[7], [(9, PLAYER_ROLE_TANK)]⟩).insert 6 ⟨[7], [(6, PLAYER_ROLE_HEALER)]⟩).insert
        (groupGuid 1) ⟨[7], [(3, PLAYER_ROLE_DAMAGE), (4, PLAYER_ROLE_DAMAGE),
          (5, PLAYER_ROLE_DAMAGE)]⟩
      CompatibleMapStore := ∅
      newToQueueStore := [1]
      currentQueueStore := [9, 6, groupGuid 1] }
  proposals := ⟨∅, 0⟩

end Matching

/-- The other tank is passed over. -/
theorem FindNewGroups_complete_iff_gathering :
    (gathering.FindNewGroups quiet queuedStores 8 [1] [9, 6, groupGuid 1]).2.1 = .isMatch ∧
      Passes (fun check => (gathering.answer quiet queuedStores check).2) [1]
        [9, 6, groupGuid 1] := by
  obtain ⟨complete, passes⟩ :=
    FindNewGroups_complete_iff quiet queuedStores gathering 1 [9, 6, groupGuid 1]
  have greedy : gathering.GreedyFront quiet queuedStores 1 [9, 6, groupGuid 1] := by
    decide +kernel
  constructor
  · refine complete.mpr (fun _ => greedy) 8 (by decide)
      ⟨[6, groupGuid 1], List.sublist_cons_self _ _, by decide +kernel, ?_⟩
    exact fun part isPart => by
      revert part
      simp only [← List.mem_inits]
      decide +kernel
  · have known : gathering.Known [1, 9, 6, groupGuid 1] := by
      unfold Known
      decide +kernel
    rcases (passes (by decide) known).mp greedy with alone | ⟨-, later⟩
    · exact absurd alone (by decide +kernel)
    · exact later

namespace Matching

def dealerFirst : Matching :=
  { paired with
    queue :=
      { paired.queue with
        QueueDataStore := paired.queue.QueueDataStore.insert 6 ⟨[5], [(6, PLAYER_ROLE_DAMAGE)]⟩
        currentQueueStore := [6, groupGuid 1] } }

end Matching

/-- The damage dealer goes with the front entry, and the group is not tried without him. -/
theorem FindNewGroups_passes_match :
    ¬ ∀ (w : World) (stores : Stores) (s : Matching) (frontguid : UInt64) (all : List UInt64)
      (fuel : ℕ), 2 * all.length + 2 ≤ fuel →
      (∃ found, found.Sublist all ∧ FullMatch w stores s (frontguid :: found)) →
        (s.FindNewGroups w stores fuel [frontguid] all).2.1 = .isMatch := by
  intro complete
  have fullMatch : FullMatch quiet queuedStores dealerFirst [1, groupGuid 1] := by
    refine ⟨by decide +kernel, fun part isPart => ?_⟩
    revert part
    simp only [← List.mem_inits]
    decide +kernel
  have found := complete quiet queuedStores dealerFirst 1 [6, groupGuid 1] 6 (by decide)
    ⟨[groupGuid 1], List.sublist_cons_self _ _, fullMatch⟩
  exact absurd found (by decide +kernel)

end WorldServer.DungeonFinding
