import WorldServer.DungeonFinding.Finder
import WorldServer.DungeonFinding.Matches
import WorldServer.DungeonFinding.Searches

/-!
# Where the entries are

An entry with queue data should be in one place: among the new ones, among those that wait, or in
an open proposal. A check that makes a proposal moves its entries; the rest of the search has to
notice who was moved, and notices it from the compatibility alone.
-/
namespace WorldServer.DungeonFinding

open WorldServer.Lib

/-- How often an entry is listed in open proposals. -/
def Proposals.openCount (proposals : Proposals) (g : UInt64) : ℕ :=
  Table.total (fun _ proposal => proposal.queues.count g) proposals.ProposalsStore

def LFGQueue.Has (queue : LFGQueue) (g : UInt64) : Prop := queue.QueueDataStore.lookup g ≠ none

instance decidableHas (queue : LFGQueue) (g : UInt64) : Decidable (queue.Has g) :=
  inferInstanceAs (Decidable (queue.QueueDataStore.lookup g ≠ none))

def Matching.places (s : Matching) (g : UInt64) : ℕ :=
  s.queue.newToQueueStore.count g + s.queue.currentQueueStore.count g + s.proposals.openCount g

lemma count_filter_ne (guids : List UInt64) (guid g : UInt64) :
    (guids.filter (· ≠ guid)).count g = if g = guid then 0 else guids.count g := by
  by_cases hs : g = guid
  · rw [if_pos hs, List.count_eq_zero]
    intro hm
    exact of_decide_eq_true (List.mem_filter.mp hm).2 hs
  · rw [if_neg hs, List.count_filter (by simpa using hs)]

namespace Matching

/-! ### What a check moves -/

/-- A part of the search that puts the entries `taken` into proposals, and moves no others. -/
structure Takes (s s' : Matching) (taken : List UInt64) : Prop where
  data : s'.queue.QueueDataStore = s.queue.QueueDataStore
  places : ∀ g, s.queue.Has g → s'.places g = if g ∈ taken then 1 else s.places g
  others : ∀ g, ¬ s.queue.Has g → s'.proposals.openCount g = s.proposals.openCount g

variable {s' s'' : Matching} {taken rest : List UInt64} {frontGuid : UInt64}
  {answer : LfgCompatibility}

lemma Takes.cached {s : Matching} (data : s'.queue.QueueDataStore = s.queue.QueueDataStore)
    (new : s'.queue.newToQueueStore = s.queue.newToQueueStore)
    (current : s'.queue.currentQueueStore = s.queue.currentQueueStore)
    (proposals : s'.proposals = s.proposals) : Takes s s' [] where
  data := data
  places g _ := by rw [if_neg List.not_mem_nil, Matching.places, new, current, proposals]; rfl
  others g _ := by rw [proposals]

lemma Takes.refl (s : Matching) : Takes s s [] := .cached rfl rfl rfl rfl

lemma Takes.has {s : Matching} (takes : Takes s s' taken) (g : UInt64) :
    s'.queue.Has g ↔ s.queue.Has g := by
  rw [LFGQueue.Has, LFGQueue.Has, takes.data]

lemma Takes.trans {s : Matching} {taken' : List UInt64} (first : Takes s s' taken)
    (next : Takes s' s'' taken') : Takes s s'' (taken ++ taken') where
  data := next.data.trans first.data
  places g has := by
    rw [next.places g ((first.has g).mpr has), first.places g has]
    by_cases inNext : g ∈ taken' <;> by_cases inFirst : g ∈ taken <;> simp [inNext, inFirst]
  others g absent := (next.others g fun has => absent ((first.has g).mp has)).trans
    (first.others g absent)

variable (w : World) (stores : Stores)

/-- The entries of a check, once each, and none of them in an open proposal. -/
def Sole (s : Matching) (check : List UInt64) : Prop :=
  check.Nodup ∧ ∀ g ∈ check, s.proposals.openCount g = 0

instance (s : Matching) (check : List UInt64) : Decidable (Sole s check) :=
  inferInstanceAs (Decidable (check.Nodup ∧ ∀ g ∈ check, s.proposals.openCount g = 0))

/-- What a check needs that makes a proposal. -/
def Proposable (s : Matching) (check : List UInt64) : Prop :=
  ∀ proposal, verdict w stores s.queue s.proposals.nextId check = .proposal proposal →
    s.proposals.ProposalsStore.lookup s.proposals.nextId = none ∧ Sole s check

/-- A check that makes a proposal should find the next id free. If its search has made a proposal
before, it should also find its entries once each, and none of them in an open proposal. The id that
was to come next when the search began tells whether it has. -/
def Fresh (first : UInt32) (s : Matching) (check : List UInt64) : Prop :=
  ∀ proposal, verdict w stores s.queue s.proposals.nextId check = .proposal proposal →
    s.proposals.ProposalsStore.lookup s.proposals.nextId = none ∧
      (s.proposals.ProposalsStore.lookup first ≠ none → Sole s check)

instance decidableFresh (first : UInt32) (s : Matching) (check : List UInt64) :
    Decidable (Fresh w stores first s check) :=
  match found : verdict w stores s.queue s.proposals.nextId check with
  | .missing _ => isTrue fun _ same => by rw [found] at same; cases same
  | .compatibles _ => isTrue fun _ same => by rw [found] at same; cases same
  | .proposal proposal =>
    decidable_of_iff (s.proposals.ProposalsStore.lookup s.proposals.nextId = none ∧
        (s.proposals.ProposalsStore.lookup first ≠ none → Sole s check))
      ⟨fun all _ _ => all, fun all => all proposal found⟩

variable {w : World} {stores : Stores} {s : Matching} {check : List UInt64}

lemma queues_of_verdict {queue : LFGQueue} {id : UInt32} {proposal : LfgProposal}
    (hf : verdict w stores queue id check = .proposal proposal) :
    proposal.queues = check ∧ ∀ g ∈ check, queue.Has g := by
  rw [verdict] at hf
  split at hf
  · cases hf
  next counted counts =>
    split at hf
    · cases hf
    · split at hf
      · cases hf
      next groups =>
        split at hf
        · cases hf
        next players =>
          have below : ¬ 1 < counted.numLfgGroups.toNat := fun more =>
            groups (UInt8.lt_iff_toNat_lt.mpr more)
          have two : (2 : UInt8).toNat = 2 := rfl
          have accepted : counted.accepted :=
            ⟨UInt8.lt_iff_toNat_lt.mpr (by omega), UInt8.not_lt.mp players⟩
          refine ⟨?_, fun g hm => ?_⟩
          · dsimp only at hf
            split_ifs at hf <;> cases hf <;> rfl
          · rw [LFGQueue.Has, countPlayers_found counts accepted g hm]
            exact Option.some_ne_none _

/-- A check without a proposal does not answer with a match, and not with bad states where
everybody is queued. -/
lemma compatibles_of_verdict {queue : LFGQueue} {id : UInt32} {found : LfgCompatibility}
    (answered : verdict w stores queue id check = .compatibles found) :
    found ≠ .isMatch ∧ (found = .badStates → stores.AllQueued check = false) := by
  rw [verdict] at answered
  split at answered
  · cases answered
  · dsimp only at answered
    split_ifs at answered with single groups players ignores roles dungeons full queued
    all_goals
      cases answered
      simp_all

lemma leave_lists (queue : LFGQueue) (check : List UInt64) :
    (check.foldl (fun queue guid => (queue.RemoveFromNewQueue guid).RemoveFromCurrentQueue guid)
        queue).newToQueueStore = queue.newToQueueStore.filter (· ∉ check) ∧
      (check.foldl (fun queue guid => (queue.RemoveFromNewQueue guid).RemoveFromCurrentQueue guid)
        queue).currentQueueStore = queue.currentQueueStore.filter (· ∉ check) := by
  induction check generalizing queue with
  | nil => simp
  | cons guid check ih =>
    obtain ⟨new, current⟩ := ih ((queue.RemoveFromNewQueue guid).RemoveFromCurrentQueue guid)
    rw [List.foldl_cons, new, current]
    simp only [LFGQueue.RemoveFromCurrentQueue, LFGQueue.RemoveFromNewQueue, List.filter_filter,
      List.mem_cons, not_or, Bool.decide_and, Bool.and_comm, and_self]

lemma count_filter_notMem (guids check : List UInt64) (g : UInt64) :
    (guids.filter (· ∉ check)).count g = if g ∈ check then 0 else guids.count g := by
  by_cases hm : g ∈ check
  · rw [if_pos hm, List.count_eq_zero]
    intro kept
    exact of_decide_eq_true (List.mem_filter.mp kept).2 hm
  · rw [if_neg hm, List.count_filter (by simpa using hm)]

lemma openCount_AddProposal {proposals : Proposals}
    (free : proposals.ProposalsStore.lookup proposals.nextId = none) (proposal : LfgProposal)
    (g : UInt64) : (proposals.AddProposal proposal).openCount g =
      proposal.queues.count g + proposals.openCount g :=
  Table.total_insert_of_none _ _ _ _ free

lemma propose_takes {proposal : LfgProposal}
    (free : s.proposals.ProposalsStore.lookup s.proposals.nextId = none) (nodup : check.Nodup)
    (closed : ∀ g ∈ check, s.proposals.openCount g = 0) (queues : proposal.queues = check)
    (has : ∀ g ∈ check, s.queue.Has g) : Takes s (s.propose check proposal) check := by
  obtain ⟨new, current⟩ := leave_lists s.queue check
  have opened : ∀ g, (s.propose check proposal).proposals.openCount g =
      check.count g + s.proposals.openCount g := by
    intro g
    rw [← queues]
    exact openCount_AddProposal free proposal g
  refine ⟨s.queue.leave_data check, fun g _ => ?_, fun g absent => ?_⟩
  · have places : (s.propose check proposal).places g =
        (s.queue.newToQueueStore.filter (· ∉ check)).count g +
          (s.queue.currentQueueStore.filter (· ∉ check)).count g +
            (check.count g + s.proposals.openCount g) := by
      rw [← new, ← current, ← opened g]
      rfl
    rw [places, count_filter_notMem, count_filter_notMem]
    by_cases hm : g ∈ check
    · rw [if_pos hm, if_pos hm, if_pos hm, List.count_eq_one_of_mem nodup hm,
        closed g hm]
    · rw [if_neg hm, if_neg hm, if_neg hm, List.count_eq_zero.mpr hm, Nat.zero_add]
      rfl
  · rw [opened, List.count_eq_zero.mpr fun hm => absent (has g hm), Nat.zero_add]

lemma RemoveFromQueue_takes {guid : UInt64} (absent : ¬ s.queue.Has guid) :
    Takes s { s with queue := s.queue.RemoveFromQueue guid } [] where
  data := s.queue.RemoveFromQueue_data_of_none (not_not.mp absent)
  places g has := by
    have other : g ≠ guid := fun hs => absent (hs ▸ has)
    have new := count_filter_ne s.queue.newToQueueStore guid g
    have current := count_filter_ne s.queue.currentQueueStore guid g
    rw [if_neg other] at new current
    change (s.queue.newToQueueStore.filter _).count g + (s.queue.currentQueueStore.filter _).count g +
      _ = _
    rw [new, current]
    rfl
  others _ _ := rfl

lemma checkThese_takes (sole : Proposable w stores s check) :
    ∃ taken, Takes s (s.checkThese w stores check).1 taken ∧
      ((s.checkThese w stores check).2 = .isMatch ∧ taken = check ∨
        (s.checkThese w stores check).2 ≠ .isMatch ∧ taken = []) := by
  unfold checkThese
  split
  next guid missing =>
    exact ⟨[], RemoveFromQueue_takes (not_not.mpr (verdict_missing missing)), .inr ⟨nofun, rfl⟩⟩
  next hf answered =>
    exact ⟨[], .cached rfl rfl rfl rfl, .inr ⟨(compatibles_of_verdict answered).1, rfl⟩⟩
  next proposal hf =>
    obtain ⟨free, nodup, closed⟩ := sole proposal hf
    obtain ⟨queues, has⟩ := queues_of_verdict hf
    have proposed := propose_takes free nodup closed queues has
    have cached : Takes (s.propose check proposal)
        { s.propose check proposal with
          queue := (s.propose check proposal).queue.SetCompatibles (ConcatenateGuids check)
            .isMatch } [] :=
      .cached rfl rfl rfl rfl
    have all := proposed.trans cached
    rw [List.append_nil] at all
    exact ⟨check, all, .inl ⟨rfl, rfl⟩⟩

/-- What a search does to the entries `check`, of which the first is tried: it takes the first one
if and only if it answers with a match. -/
structure Tries (s s' : Matching) (answer : LfgCompatibility) (frontGuid : UInt64)
    (others taken : List UInt64) : Prop where
  takes : Takes s s' taken
  few : taken ⊆ frontGuid :: others
  matches_ : answer = .isMatch → s.queue.Has frontGuid → frontGuid ∈ taken
  fails : answer ≠ .isMatch → taken ⊆ others

lemma checkThese_tries (sole : Proposable w stores s (frontGuid :: rest)) :
    ∃ taken, Tries s (s.checkThese w stores (frontGuid :: rest)).1
      (s.checkThese w stores (frontGuid :: rest)).2 frontGuid rest taken := by
  obtain ⟨taken, takes, ⟨isMatch, rfl⟩ | ⟨other, rfl⟩⟩ := checkThese_takes sole
  · exact ⟨_, takes, List.Subset.refl _, fun _ _ => List.mem_cons_self,
      fun other => absurd isMatch other⟩
  · exact ⟨[], takes, List.nil_subset _, fun isMatch => absurd isMatch other,
      fun _ => List.nil_subset _⟩

lemma Tries.after {others before : List UInt64} (takes : Takes s s' before)
    (inOthers : before ⊆ others) (tries : Tries s' s'' answer frontGuid others taken) :
    Tries s s'' answer frontGuid others (before ++ taken) where
  takes := takes.trans tries.takes
  few := List.append_subset.mpr ⟨List.subset_cons_of_subset _ inOthers, tries.few⟩
  matches_ isMatch has :=
    List.mem_append_right _ (tries.matches_ isMatch ((takes.has frontGuid).mpr has))
  fails other := List.append_subset.mpr ⟨inOthers, tries.fails other⟩

lemma Tries.nothing (takes : Takes s s' []) (other : answer ≠ .isMatch) (frontGuid : UInt64)
    (others : List UInt64) : Tries s s' answer frontGuid others [] :=
  ⟨takes, List.nil_subset _, fun isMatch => absurd isMatch other, fun _ => List.nil_subset _⟩

lemma CheckCompatibility_tries
    (sole : EveryCheck w stores (Proposable w stores) s (frontGuid :: rest)) :
    ∃ taken, Tries s (s.CheckCompatibility w stores (frontGuid :: rest)).1
      (s.CheckCompatibility w stores (frontGuid :: rest)).2 frontGuid rest taken := by
  induction rest generalizing frontGuid with
  | nil => exact checkThese_tries sole
  | cons next rest ih =>
    rw [EveryCheck] at sole
    rw [CheckCompatibility]
    dsimp only at sole ⊢
    split
    · have nothing : Tries s s .wrongGroupSize frontGuid (next :: rest) [] :=
        .nothing (.refl s) (by decide) _ _
      exact ⟨[], nothing⟩
    next small =>
      rw [if_neg small] at sole
      split
      next three =>
        rw [if_pos three] at sole
        obtain ⟨before, child⟩ := ih sole.1
        have inRest : before ⊆ next :: rest := child.few
        split
        next incompatible =>
          have cached : Takes (s.CheckCompatibility w stores (next :: rest)).1
              { (s.CheckCompatibility w stores (next :: rest)).1 with
                queue := (s.CheckCompatibility w stores (next :: rest)).1.queue.SetCompatibles
                  (ConcatenateGuids (frontGuid :: next :: rest))
                  (s.CheckCompatibility w stores (next :: rest)).2 } [] :=
            .cached rfl rfl rfl rfl
          refine ⟨before ++ [], .after child.takes inRest (.nothing cached ?_ _ _)⟩
          intro isMatch
          rw [isMatch] at incompatible
          cases incompatible
        next compatible =>
          obtain ⟨taken, own⟩ := checkThese_tries (sole.2 (by simpa using compatible))
          exact ⟨before ++ taken, own.after child.takes inRest⟩
      next two =>
        rw [if_neg two] at sole
        exact checkThese_tries sole

lemma badStates_of_checkThese
    (bad : (s.checkThese w stores check).2 = .badStates) : stores.AllQueued check = false := by
  unfold checkThese at bad
  split at bad
  · cases bad
  next answered => exact (compatibles_of_verdict answered).2 bad
  · cases bad

lemma badStates_of_CheckCompatibility
    (bad : (s.CheckCompatibility w stores check).2 = .badStates) :
    stores.AllQueued check = false := by
  cases check with
  | nil => cases bad
  | cons frontGuid rest =>
    rw [CheckCompatibility] at bad
    dsimp only at bad
    split at bad
    · cases bad
    · split at bad
      · split at bad
        next incompatible =>
          rw [show (s.CheckCompatibility w stores rest).2 = .badStates from bad] at incompatible
          cases incompatible
        · exact badStates_of_checkThese bad
      · exact badStates_of_checkThese bad

/-! ### What the search moves -/

variable (w stores) in
/-- The checks that are made meet a condition, and no match is reported from the cache while the
first entry has queue data. -/
def SafeAnswer (P : Matching → List UInt64 → Prop) (s : Matching) (check : List UInt64) : Prop :=
  let cached := s.queue.GetCompatibles (ConcatenateGuids check)
  if cached = .pending then EveryCheck w stores P s check
  else cached = .isMatch ∨ (cached = .badStates ∧ stores.AllQueued check) →
    ¬ s.queue.Has (check.headD 0)

instance decidableSafeAnswer (P : Matching → List UInt64 → Prop) [∀ s check, Decidable (P s check)]
    (s : Matching) (check : List UInt64) : Decidable (SafeAnswer w stores P s check) := by
  unfold SafeAnswer
  infer_instance

lemma answer_tries (safe : SafeAnswer w stores (Proposable w stores) s (frontGuid :: rest)) :
    ∃ taken, Tries s (s.answer w stores (frontGuid :: rest)).1
      (s.answer w stores (frontGuid :: rest)).2 frontGuid rest taken := by
  unfold SafeAnswer at safe
  unfold answer compatibility
  dsimp only at safe ⊢
  by_cases pending : s.queue.GetCompatibles (ConcatenateGuids (frontGuid :: rest)) = .pending
  · rw [if_pos pending] at safe
    rw [if_pos pending]
    split
    next upgraded =>
      have notQueued := badStates_of_CheckCompatibility upgraded.1
      rw [upgraded.2] at notQueued
      cases notQueued
    · exact CheckCompatibility_tries safe
  · rw [if_neg pending] at safe
    rw [if_neg pending]
    split
    next upgraded =>
      exact ⟨[], .cached rfl rfl rfl rfl, List.nil_subset _,
        fun _ has => absurd has (safe (.inr upgraded)), fun _ => List.nil_subset _⟩
    · exact ⟨[], .refl s, List.nil_subset _,
        fun isMatch has => absurd has (safe (.inl isMatch)), fun _ => List.nil_subset _⟩

lemma Tries.mono {others others' : List UInt64} (tries : Tries s s' answer frontGuid others taken)
    (more : others ⊆ others') : Tries s s' answer frontGuid others' taken where
  takes := tries.takes
  few := List.Subset.trans tries.few (List.cons_subset_cons _ more)
  matches_ := tries.matches_
  fails other := List.Subset.trans (tries.fails other) more

/-- A search tries the first entry with the others of `check` and with those in `all`, and leaves a
part of `all`. -/
lemma search_tries (fuel : ℕ) :
    (∀ (s : Matching) (frontGuid : UInt64) (rest all : List UInt64),
      EverySearch w stores (SafeAnswer w stores (Proposable w stores)) fuel s (frontGuid :: rest)
          all →
      (s.FindNewGroups w stores fuel (frontGuid :: rest) all).2.2 ⊆ all ∧
      ∃ taken, Tries s (s.FindNewGroups w stores fuel (frontGuid :: rest) all).1
        (s.FindNewGroups w stores fuel (frontGuid :: rest) all).2.1 frontGuid (rest ++ all) taken) ∧
    (∀ (s : Matching) (frontGuid : UInt64) (rest all : List UInt64),
      EveryLoop w stores (SafeAnswer w stores (Proposable w stores)) fuel s (frontGuid :: rest)
          all →
      (s.matchQueued w stores fuel (frontGuid :: rest) all).2.2 ⊆ all ∧
      ∃ taken, Tries s (s.matchQueued w stores fuel (frontGuid :: rest) all).1
        (s.matchQueued w stores fuel (frontGuid :: rest) all).2.1 frontGuid (rest ++ all) taken) := by
  induction fuel with
  | zero =>
    have nothing : ∀ (s : Matching) (frontGuid : UInt64) (others : List UInt64),
        Tries s s .pending frontGuid others [] :=
      fun s frontGuid others => .nothing (.refl s) (by decide) _ _
    exact ⟨fun s frontGuid rest all _ => ⟨List.Subset.refl _, [], nothing ..⟩,
      fun s frontGuid rest all _ => ⟨List.Subset.refl _, [], nothing ..⟩⟩
  | succ fuel ih =>
    obtain ⟨search, loop⟩ := ih
    constructor
    · intro s frontGuid rest all safe
      obtain ⟨taken, first⟩ := answer_tries safe.1
      rw [FindNewGroups]
      dsimp only
      split
      · exact ⟨List.Subset.refl _, taken, first.mono (List.subset_append_left _ _)⟩
      next less =>
        have less := not_not.mp less
        obtain ⟨part, taken', next⟩ := loop _ frontGuid rest all (safe.2 less)
        have inRest : taken ⊆ rest := first.fails (by rw [less]; decide)
        exact ⟨part, taken ++ taken',
          next.after first.takes (List.subset_append_of_subset_left _ inRest)⟩
    · intro s frontGuid rest all safe
      cases all with
      | nil =>
        have nothing : Tries s s .withLessPlayers frontGuid (rest ++ []) [] :=
          .nothing (.refl s) (by decide) _ _
        exact ⟨List.Subset.refl _, [], nothing⟩
      | cons other all =>
        obtain ⟨part, taken, first⟩ := search s frontGuid (rest ++ [other]) all safe.1
        have others : rest ++ [other] ++ all ⊆ rest ++ other :: all := by simp
        rw [matchQueued, List.cons_append]
        dsimp only
        split
        next isMatch =>
          have first := first.mono others
          rw [isMatch] at first
          exact ⟨List.subset_cons_of_subset _ part, taken, first⟩
        next fails =>
          obtain ⟨part', taken', next⟩ := loop _ frontGuid rest _ (safe.2 fails)
          refine ⟨List.Subset.trans part' (List.subset_cons_of_subset _ part), taken ++ taken', ?_⟩
          have inOthers : taken ⊆ rest ++ other :: all :=
            List.Subset.trans (first.fails fails) others
          refine Tries.after first.takes inOthers (next.mono ?_)
          exact List.append_subset.mpr ⟨List.subset_append_left _ _,
            List.subset_append_of_subset_right _ (List.subset_cons_of_subset _ part)⟩

/-! ### The search for groups -/

/-- Every entry with queue data is in one place, and listed there once. -/
def Placed (s : Matching) : Prop := ∀ g, s.queue.Has g → s.places g = 1

section

variable (w stores)

def SafeFront (s : Matching) (frontguid : UInt64) : Prop :=
  EveryFront w stores (SafeAnswer w stores (Fresh w stores s.proposals.nextId)) s frontguid

instance (s : Matching) (frontguid : UInt64) : Decidable (SafeFront w stores s frontguid) :=
  decidableEverySearch ..

/-- All the answers of `FindGroups`. -/
def SafeFronts : ℕ → Matching → Prop
  | 0, _ => True
  | fuel + 1, s =>
    match s.queue.newToQueueStore with
    | [] => True
    | frontguid :: _ =>
      SafeFront w stores s frontguid ∧ SafeFronts fuel (s.tryFront w stores frontguid).1

instance decidableSafeFronts :
    (fuel : ℕ) → (s : Matching) → Decidable (SafeFronts w stores fuel s)
  | 0, _ => isTrue trivial
  | fuel + 1, s =>
    match new : s.queue.newToQueueStore with
    | [] => isTrue (by rw [SafeFronts, new]; trivial)
    | frontguid :: _ =>
      have := decidableSafeFronts fuel (s.tryFront w stores frontguid).1
      decidable_of_iff (SafeFront w stores s frontguid ∧
        SafeFronts w stores fuel (s.tryFront w stores frontguid).1) (by rw [SafeFronts, new])

end

/-- Nothing has been proposed since `before`, as the id that came next then is still free. -/
def Unproposed (before : Matching) (store : Table UInt64 LfgQueueData) (proposals : Proposals) :
    Prop :=
  store = before.queue.QueueDataStore ∧
    (proposals.ProposalsStore.lookup before.proposals.nextId = none → proposals = before.proposals)

variable {before : Matching}

lemma checkThese_unproposed (check : List UInt64)
    (start : Unproposed before s.queue.QueueDataStore s.proposals) :
    Unproposed before (s.checkThese w stores check).1.queue.QueueDataStore
      (s.checkThese w stores check).1.proposals := by
  refine ⟨(checkThese_data w stores s check).trans start.1, ?_⟩
  unfold checkThese
  split
  · exact start.2
  · exact start.2
  next proposal _ =>
    -- the id that was to come next is taken now, or had been taken before
    intro free
    replace free : (s.proposals.ProposalsStore.insert s.proposals.nextId proposal).lookup
      before.proposals.nextId = none := free
    by_cases isNext : before.proposals.nextId = s.proposals.nextId
    · rw [isNext, AList.lookup_insert] at free
      cases free
    · rw [AList.lookup_insert_ne isNext] at free
      rw [start.2 free] at isNext
      exact absurd rfl isNext

/-- An entry that is tried with those that wait is in no open proposal before the search makes one. -/
lemma Fresh.sole {frontguid : UInt64} {check : List UInt64} (placed : before.Placed)
    (new : frontguid ∈ before.queue.newToQueueStore)
    (part : check.Sublist (frontguid :: before.queue.currentQueueStore))
    (start : Unproposed before s.queue.QueueDataStore s.proposals)
    (fresh : Fresh w stores before.proposals.nextId s check) : Proposable w stores s check := by
  intro proposal hf
  obtain ⟨free, later⟩ := fresh proposal hf
  refine ⟨free, ?_⟩
  by_cases first : s.proposals.ProposalsStore.lookup before.proposals.nextId = none
  · have once : ∀ g ∈ check, check.count g + s.proposals.openCount g ≤ 1 := by
      intro g hm
      have has := (queues_of_verdict hf).2 g hm
      rw [LFGQueue.Has, start.1] at has
      have one := placed g has
      have few := part.count_le g
      have some : 0 < before.queue.newToQueueStore.count frontguid := List.count_pos_iff.mpr new
      rw [start.2 first]
      rw [List.count_cons] at few
      unfold places at one
      split_ifs at few with isFront
      · rw [eq_of_beq isFront] at some
        omega
      · omega
    refine ⟨List.nodup_iff_count_le_one.mpr fun g => ?_, fun g hm => ?_⟩
    · by_cases hm : g ∈ check
      · exact (Nat.le_add_right _ _).trans (once g hm)
      · rw [List.count_eq_zero.mpr hm]
        exact Nat.zero_le 1
    · have here := List.count_pos_iff.mpr hm
      have limit := once g hm
      omega
  · exact later first

lemma SafeFront.sole {frontguid : UInt64} (placed : s.Placed)
    (new : frontguid ∈ s.queue.newToQueueStore) (safe : SafeFront w stores s frontguid) :
    EveryFront w stores (SafeAnswer w stores (Proposable w stores)) s frontguid := by
  have checks : ∀ s' check, Fresh w stores s.proposals.nextId s' check →
      Unproposed s s'.queue.QueueDataStore s'.proposals →
        Unproposed s (s'.checkThese w stores check).1.queue.QueueDataStore
          (s'.checkThese w stores check).1.proposals :=
    fun _ check _ => checkThese_unproposed check
  refine (everySearch_mono (J := Unproposed s) ?_ ?_ _).1 _ _ _ (List.Sublist.refl _)
    ⟨rfl, fun _ => rfl⟩ safe
  · intro s' check safe
    refine answer_keeps (J := Unproposed s) checks fun pending => ?_
    unfold SafeAnswer at safe
    rwa [if_pos pending] at safe
  · intro s' check part start safe
    unfold SafeAnswer at safe ⊢
    dsimp only at safe ⊢
    split_ifs at safe ⊢
    · refine everyCheck_mono (J := Unproposed s) checks (fun s'' part' isPart start' fresh => ?_) start
        safe
      exact fresh.sole placed new (isPart.trans part) start'
    · exact safe

/-- Where the entries are after an entry was tried. -/
structure Tried (s s' : Matching) : Prop where
  data : s'.queue.QueueDataStore = s.queue.QueueDataStore
  places : ∀ g, s.queue.Has g → s'.places g = 1
  others : ∀ g, ¬ s.queue.Has g → s'.proposals.openCount g = s.proposals.openCount g

lemma Tried.placed (tried : Tried s s') : s'.Placed := by
  intro g has
  rw [LFGQueue.Has, tried.data] at has
  exact tried.places g has

lemma tryFront_tried {frontguid : UInt64} (placed : s.Placed)
    (new : frontguid ∈ s.queue.newToQueueStore) (safe : SafeFront w stores s frontguid) :
    Tried s (s.tryFront w stores frontguid).1 := by
  -- the entry that is tried is nowhere meanwhile
  have inHand : ∀ g, ({ s with queue := s.queue.RemoveFromNewQueue frontguid } : Matching).places g =
      (if g = frontguid then 0 else s.queue.newToQueueStore.count g) +
        s.queue.currentQueueStore.count g + s.proposals.openCount g := by
    intro g
    rw [← count_filter_ne]
    rfl
  have alone : s.queue.Has frontguid → s.queue.currentQueueStore.count frontguid = 0 ∧
      s.proposals.openCount frontguid = 0 := by
    intro has
    have one := placed frontguid has
    have some := List.count_pos_iff.mpr new
    unfold places at one
    omega
  obtain ⟨-, taken, tries⟩ := (search_tries _).1 _ frontguid [] _ (safe.sole placed new)
  unfold tryFront
  dsimp only
  split
  next isMatch =>
    refine ⟨tries.takes.data, fun g has => ?_, tries.takes.others⟩
    rw [tries.takes.places g has, inHand]
    by_cases hm : g ∈ taken
    · rw [if_pos hm]
    · rw [if_neg hm]
      by_cases front : g = frontguid
      · subst front
        exact absurd (tries.matches_ isMatch has) hm
      · rw [if_neg front]
        exact placed g has
  next fails =>
    have others := tries.fails fails
    refine ⟨tries.takes.data, fun g has => ?_, tries.takes.others⟩
    have places := tries.takes.places g has
    rw [inHand] at places
    have added : ∀ s : Matching, ({ s with queue := s.queue.AddToCurrentQueue frontguid } :
        Matching).places g = s.places g + if g = frontguid then 1 else 0 := by
      intro s
      have count : (s.queue.currentQueueStore ++ [frontguid]).count g =
          s.queue.currentQueueStore.count g + if g = frontguid then 1 else 0 := by
        by_cases front : g = frontguid <;> simp [List.count_append, front, Ne.symm]
      unfold Matching.places
      simp only [LFGQueue.AddToCurrentQueue, count]
      omega
    rw [added, places]
    by_cases front : g = frontguid
    · subst front
      obtain ⟨waits, open_⟩ := alone has
      have notTaken : g ∉ taken := fun hm => List.count_eq_zero.mp waits (others hm)
      rw [if_neg notTaken, if_pos rfl, if_pos rfl, waits, open_]
    · rw [if_neg front, if_neg front]
      by_cases hm : g ∈ taken
      · rw [if_pos hm]
      · rw [if_neg hm]
        exact placed g has

lemma Tried.refl (placed : s.Placed) : Tried s s := ⟨rfl, placed, fun _ _ => rfl⟩

lemma Tried.trans (first : Tried s s') (next : Tried s' s'') :
    Tried s s'' where
  data := next.data.trans first.data
  places g has := next.places g (by rwa [LFGQueue.Has, first.data])
  others g absent :=
    (next.others g (by rwa [LFGQueue.Has, first.data])).trans (first.others g absent)

lemma findGroupsLoop_tried (fuel : ℕ) {s : Matching} (placed : s.Placed)
    (safe : SafeFronts w stores fuel s) (proposals : UInt8) :
    Tried s (s.findGroupsLoop w stores fuel proposals).1 := by
  induction fuel generalizing s proposals with
  | zero => exact .refl placed
  | succ fuel ih =>
    rw [SafeFronts] at safe
    rw [findGroupsLoop]
    split
    · exact .refl placed
    next frontguid _ new =>
      rw [new] at safe
      have first := tryFront_tried placed (by rw [new]; exact List.mem_cons_self) safe.1
      exact first.trans (ih first.placed safe.2 _)

end Matching

end WorldServer.DungeonFinding
