import WorldServer.DungeonFinding.Queue

/-!
# Conditions along a search

A search makes many checks, each in the state that the earlier ones leave. A condition on a check
is followed here through the checks within a check, through the answers of a search and through the
searches of `FindGroups`, and what every check keeps of the queue data and the proposals is kept by
the whole.
-/
namespace WorldServer.DungeonFinding

open WorldServer.Lib

namespace Matching

variable (w : World) (stores : Stores)

section Checks

variable (P : Matching → List UInt64 → Prop)

def EveryCheck (s : Matching) : List UInt64 → Prop
  | [] => True
  | frontGuid :: rest =>
    let check := frontGuid :: rest
    if MAXGROUPSIZE.toNat < check.length then True
    else if 2 < check.length then
      EveryCheck s rest ∧
        ((s.CheckCompatibility w stores rest).2.incompatible = false →
          P (s.CheckCompatibility w stores rest).1 check)
    else P s check

instance decidableEveryCheck [∀ s check, Decidable (P s check)] (s : Matching) :
    (check : List UInt64) → Decidable (EveryCheck w stores P s check)
  | [] => isTrue trivial
  | frontGuid :: rest =>
    have := decidableEveryCheck s rest
    inferInstanceAs (Decidable (if MAXGROUPSIZE.toNat < (frontGuid :: rest).length then True
      else if 2 < (frontGuid :: rest).length then
        EveryCheck w stores P s rest ∧
          ((s.CheckCompatibility w stores rest).2.incompatible = false →
            P (s.CheckCompatibility w stores rest).1 (frontGuid :: rest))
      else P s (frontGuid :: rest)))

def EveryAnswer (s : Matching) (check : List UInt64) : Prop :=
  s.queue.GetCompatibles (ConcatenateGuids check) = .pending → EveryCheck w stores P s check

instance decidableEveryAnswer [∀ s check, Decidable (P s check)] (s : Matching)
    (check : List UInt64) : Decidable (EveryAnswer w stores P s check) := by
  unfold EveryAnswer
  infer_instance

end Checks

section Searches

variable (A : Matching → List UInt64 → Prop)

mutual

def EverySearch : ℕ → Matching → List UInt64 → List UInt64 → Prop
  | 0, _, _, _ => True
  | fuel + 1, s, check, all =>
    A s check ∧
      ((s.answer w stores check).2 = .withLessPlayers →
        EveryLoop fuel (s.answer w stores check).1 check all)

def EveryLoop : ℕ → Matching → List UInt64 → List UInt64 → Prop
  | 0, _, _, _ => True
  | _ + 1, _, _, [] => True
  | fuel + 1, s, check, other :: all =>
    EverySearch fuel s (check ++ [other]) all ∧
      ((s.FindNewGroups w stores fuel (check ++ [other]) all).2.1 ≠ .isMatch →
        EveryLoop fuel (s.FindNewGroups w stores fuel (check ++ [other]) all).1 check
          (s.FindNewGroups w stores fuel (check ++ [other]) all).2.2)

end

/-- The search for the entry that is taken from the new ones. -/
def EveryFront (s : Matching) (frontguid : UInt64) : Prop :=
  let s := { s with queue := s.queue.RemoveFromNewQueue frontguid }
  EverySearch w stores A (2 * s.queue.currentQueueStore.length + 2) s [frontguid]
    s.queue.currentQueueStore

def EveryFronts : ℕ → Matching → Prop
  | 0, _ => True
  | fuel + 1, s =>
    match s.queue.newToQueueStore with
    | [] => True
    | frontguid :: _ =>
      EveryFront w stores A s frontguid ∧ EveryFronts fuel (s.tryFront w stores frontguid).1

variable [∀ s check, Decidable (A s check)]

mutual

def decidableEverySearch : (fuel : ℕ) → (s : Matching) → (check all : List UInt64) →
    Decidable (EverySearch w stores A fuel s check all)
  | 0, _, _, _ => isTrue trivial
  | fuel + 1, s, check, all =>
    have := decidableEveryLoop fuel (s.answer w stores check).1 check all
    inferInstanceAs (Decidable (A s check ∧
      ((s.answer w stores check).2 = .withLessPlayers →
        EveryLoop w stores A fuel (s.answer w stores check).1 check all)))

def decidableEveryLoop : (fuel : ℕ) → (s : Matching) → (check all : List UInt64) →
    Decidable (EveryLoop w stores A fuel s check all)
  | 0, _, _, _ => isTrue trivial
  | _ + 1, _, _, [] => isTrue trivial
  | fuel + 1, s, check, other :: all =>
    have := decidableEverySearch fuel s (check ++ [other]) all
    have := decidableEveryLoop fuel (s.FindNewGroups w stores fuel (check ++ [other]) all).1 check
      (s.FindNewGroups w stores fuel (check ++ [other]) all).2.2
    inferInstanceAs (Decidable (EverySearch w stores A fuel s (check ++ [other]) all ∧
      ((s.FindNewGroups w stores fuel (check ++ [other]) all).2.1 ≠ .isMatch →
        EveryLoop w stores A fuel (s.FindNewGroups w stores fuel (check ++ [other]) all).1 check
          (s.FindNewGroups w stores fuel (check ++ [other]) all).2.2)))

end

instance decidableEveryFront (s : Matching) (frontguid : UInt64) :
    Decidable (EveryFront w stores A s frontguid) := decidableEverySearch ..

instance decidableEveryFronts :
    (fuel : ℕ) → (s : Matching) → Decidable (EveryFronts w stores A fuel s)
  | 0, _ => isTrue trivial
  | fuel + 1, s =>
    match new : s.queue.newToQueueStore with
    | [] => isTrue (by rw [EveryFronts, new]; trivial)
    | frontguid :: _ =>
      have := decidableEveryFronts fuel (s.tryFront w stores frontguid).1
      decidable_of_iff (EveryFront w stores A s frontguid ∧
        EveryFronts w stores A fuel (s.tryFront w stores frontguid).1) (by rw [EveryFronts, new])

end Searches

/-! ### What every check keeps -/

section Keeps

variable {w stores} {P : Matching → List UInt64 → Prop}
  {J : Table UInt64 LfgQueueData → Proposals → Prop}

lemma CheckCompatibility_keeps
    (keeps : ∀ s check, P s check → J s.queue.QueueDataStore s.proposals →
      J (s.checkThese w stores check).1.queue.QueueDataStore
        (s.checkThese w stores check).1.proposals)
    {s : Matching} {check : List UInt64} (every : EveryCheck w stores P s check)
    (init : J s.queue.QueueDataStore s.proposals) :
    J (s.CheckCompatibility w stores check).1.queue.QueueDataStore
      (s.CheckCompatibility w stores check).1.proposals := by
  induction check with
  | nil => exact init
  | cons frontGuid rest ih =>
    rw [EveryCheck] at every
    rw [CheckCompatibility]
    dsimp only at every ⊢
    split
    · exact init
    next small =>
      rw [if_neg small] at every
      split
      next three =>
        rw [if_pos three] at every
        split
        · exact ih every.1
        next compatible => exact keeps _ _ (every.2 (by simpa using compatible)) (ih every.1)
      next two =>
        rw [if_neg two] at every
        exact keeps _ _ every init

lemma answer_keeps
    (keeps : ∀ s check, P s check → J s.queue.QueueDataStore s.proposals →
      J (s.checkThese w stores check).1.queue.QueueDataStore
        (s.checkThese w stores check).1.proposals)
    {s : Matching} {check : List UInt64} (every : EveryAnswer w stores P s check)
    (init : J s.queue.QueueDataStore s.proposals) :
    J (s.answer w stores check).1.queue.QueueDataStore (s.answer w stores check).1.proposals := by
  have kept : J (s.compatibility w stores check).1.queue.QueueDataStore
      (s.compatibility w stores check).1.proposals := by
    unfold compatibility
    dsimp only
    split
    next pending => exact CheckCompatibility_keeps keeps (every pending) init
    · exact init
  unfold answer
  dsimp only
  split <;> exact kept

variable {A : Matching → List UInt64 → Prop}

lemma search_keeps
    (keeps : ∀ s check, A s check → J s.queue.QueueDataStore s.proposals →
      J (s.answer w stores check).1.queue.QueueDataStore (s.answer w stores check).1.proposals)
    (fuel : ℕ) :
    (∀ (s : Matching) (check all : List UInt64), EverySearch w stores A fuel s check all →
      J s.queue.QueueDataStore s.proposals →
        J (s.FindNewGroups w stores fuel check all).1.queue.QueueDataStore
          (s.FindNewGroups w stores fuel check all).1.proposals) ∧
    (∀ (s : Matching) (check all : List UInt64), EveryLoop w stores A fuel s check all →
      J s.queue.QueueDataStore s.proposals →
        J (s.matchQueued w stores fuel check all).1.queue.QueueDataStore
          (s.matchQueued w stores fuel check all).1.proposals) := by
  induction fuel with
  | zero => exact ⟨fun _ _ _ _ init => init, fun _ _ _ _ init => init⟩
  | succ fuel ih =>
    obtain ⟨search, loop⟩ := ih
    constructor
    · intro s check all every init
      have first := keeps s check every.1 init
      rw [FindNewGroups]
      dsimp only
      split
      · exact first
      next less => exact loop _ _ _ (every.2 (not_not.mp less)) first
    · intro s check all every init
      cases all with
      | nil => exact init
      | cons other all =>
        have first := search _ _ _ every.1 init
        rw [matchQueued]
        dsimp only
        split
        · exact first
        next fails => exact loop _ _ _ (every.2 fails) first

/-- In a search, a condition on the answers gives another one if it does so at each check of entries
in their order, in a state with what every answer keeps. -/
lemma everySearch_mono {A' : Matching → List UInt64 → Prop} {base : List UInt64}
    (keeps : ∀ s check, A s check → J s.queue.QueueDataStore s.proposals →
      J (s.answer w stores check).1.queue.QueueDataStore (s.answer w stores check).1.proposals)
    (gives : ∀ s check, check.Sublist base → J s.queue.QueueDataStore s.proposals → A s check →
      A' s check)
    (fuel : ℕ) :
    (∀ (s : Matching) (check all : List UInt64), (check ++ all).Sublist base →
      J s.queue.QueueDataStore s.proposals → EverySearch w stores A fuel s check all →
        EverySearch w stores A' fuel s check all) ∧
    (∀ (s : Matching) (check all : List UInt64), (check ++ all).Sublist base →
      J s.queue.QueueDataStore s.proposals → EveryLoop w stores A fuel s check all →
        EveryLoop w stores A' fuel s check all) := by
  induction fuel with
  | zero => exact ⟨fun _ _ _ _ _ _ => trivial, fun _ _ _ _ _ _ => trivial⟩
  | succ fuel ih =>
    obtain ⟨search, loop⟩ := ih
    constructor
    · intro s check all inBase init every
      have checked : check.Sublist base := (List.sublist_append_left check all).trans inBase
      exact ⟨gives s check checked init every.1, fun less =>
        loop _ check all inBase (keeps s check every.1 init) (every.2 less)⟩
    · intro s check all inBase init every
      cases all with
      | nil => trivial
      | cons other all =>
        have inBase' : (check ++ [other] ++ all).Sublist base := by simpa using inBase
        refine ⟨search s _ all inBase' init every.1, fun fails => ?_⟩
        have rest := ((search_leaves w stores fuel).1 s (check ++ [other]) all).2
        refine loop _ check _ ?_ ((search_keeps keeps fuel).1 _ _ _ every.1 init) (every.2 fails)
        exact (List.Sublist.append_left (rest.cons other) check).trans inBase

/-- The same of the checks within a check. -/
lemma everyCheck_mono {P' : Matching → List UInt64 → Prop} {check : List UInt64}
    (keeps : ∀ s check, P s check → J s.queue.QueueDataStore s.proposals →
      J (s.checkThese w stores check).1.queue.QueueDataStore
        (s.checkThese w stores check).1.proposals)
    (gives : ∀ s part, part.Sublist check → J s.queue.QueueDataStore s.proposals → P s part →
      P' s part)
    {s : Matching} (init : J s.queue.QueueDataStore s.proposals)
    (every : EveryCheck w stores P s check) : EveryCheck w stores P' s check := by
  induction check with
  | nil => trivial
  | cons frontGuid rest ih =>
    have whole : (frontGuid :: rest).Sublist (frontGuid :: rest) := List.Sublist.refl _
    rw [EveryCheck] at every ⊢
    split_ifs at every ⊢ with large three
    · refine ⟨ih (fun s part isPart => gives s part (isPart.cons frontGuid)) every.1, fun goesOn => ?_⟩
      exact gives _ _ whole (CheckCompatibility_keeps keeps every.1 init) (every.2 goesOn)
    · exact gives _ _ whole init every

lemma findGroupsLoop_keeps
    (keeps : ∀ s check, A s check → J s.queue.QueueDataStore s.proposals →
      J (s.answer w stores check).1.queue.QueueDataStore (s.answer w stores check).1.proposals)
    (fuel : ℕ) {s : Matching} (every : EveryFronts w stores A fuel s)
    (init : J s.queue.QueueDataStore s.proposals) (proposals : UInt8) :
    J (s.findGroupsLoop w stores fuel proposals).1.queue.QueueDataStore
      (s.findGroupsLoop w stores fuel proposals).1.proposals := by
  induction fuel generalizing s proposals with
  | zero => exact init
  | succ fuel ih =>
    rw [EveryFronts] at every
    rw [findGroupsLoop]
    split
    · exact init
    next frontguid _ new =>
      rw [new] at every
      have front : J (s.tryFront w stores frontguid).1.queue.QueueDataStore
          (s.tryFront w stores frontguid).1.proposals := by
        have kept := (search_keeps keeps _).1 _ _ _ every.1 init
        unfold tryFront
        dsimp only
        split <;> exact kept
      exact ih every.2 front _

end Keeps

end Matching

end WorldServer.DungeonFinding
