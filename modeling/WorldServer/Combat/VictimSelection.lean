import WorldServer.Combat.ThreatOrder

/-!
# The choice of a victim

`selectNextVictim` is one loop over the threat list that may start again from the front. The
loop is given here with its iterator and its flag, and it ends with the victim that
`selectNextVictim` names. First choices are the references that can be attacked and are no
second choice.
-/
namespace WorldServer.Combat

open WorldServer.Lib

namespace ThreatManager

variable {T : Type} [ThreatValue T] (w : World T) (s : ThreatManager T)

/-! ### The loop -/

/-- The variables of the loop. -/
structure Selection where
  iter : ℕ
  currentVictim : Option ℕ
  noPriorityTargetFound : Bool

/-- One round: the loop ends, with a victim or none, or goes on. -/
def selectRound (l : Selection) : Option ℕ ⊕ Selection :=
  match s.iThreatContainer.iThreatList[l.iter]? with
  | none => .inl none
  | some currentRef =>
    if ¬ l.noPriorityTargetFound ∧ secondChoice w s currentRef then
      if l.iter + 1 ≠ s.iThreatContainer.iThreatList.length then
        .inr { l with
          iter := l.iter + 1
          currentVictim := if l.currentVictim = some currentRef then none else l.currentVictim }
      else .inr { l with iter := 0, noPriorityTargetFound := true }
    else
      match choice w s l.currentVictim currentRef with
      | some chosen => .inl (some chosen)
      | none => .inr { l with iter := l.iter + 1 }

def selectLoop (l : Selection) : ℕ → Option (Option ℕ)
  | 0 => none
  | fuel + 1 =>
    match selectRound w s l with
    | .inl chosen => some chosen
    | .inr l => selectLoop l fuel

/-! ### The loop ends -/

variable {fuel ref victim : ℕ} {current : Option ℕ} {rest : List ℕ}

lemma getElem?_of_drop {list : List ℕ} {iter : ℕ} (here : list.drop iter = rest) :
    list[iter]? = rest.head? ∧ list.drop (iter + 1) = rest.tail := by
  rw [← List.head?_drop, ← List.tail_drop, here]
  exact ⟨rfl, rfl⟩

lemma selectLoop_second (current : Option ℕ) (rest : List ℕ) {iter : ℕ}
    (here : s.iThreatContainer.iThreatList.drop iter = rest) (enough : rest.length < fuel) :
    selectLoop w s ⟨iter, current, true⟩ fuel = some (rest.findSome? (choice w s current)) := by
  induction rest generalizing iter fuel with
  | nil =>
    obtain ⟨fuel, rfl⟩ := Nat.exists_eq_add_of_lt enough
    simp [selectLoop, selectRound, (getElem?_of_drop here).1]
  | cons ref rest ih =>
    obtain ⟨fuel, rfl⟩ := Nat.exists_eq_succ_of_ne_zero (Nat.ne_of_gt (Nat.zero_lt_of_lt enough))
    obtain ⟨first, behind⟩ := getElem?_of_drop here
    rw [List.head?_cons] at first
    have later := ih behind (Nat.lt_of_succ_lt_succ enough)
    simp only [selectLoop, selectRound, first, not_true_eq_false, false_and, if_false,
      List.findSome?_cons]
    cases choice w s current ref with
    | some chosen => rfl
    | none => exact later

lemma selectLoop_first (current : Option ℕ) (rest : List ℕ) {iter : ℕ}
    (here : s.iThreatContainer.iThreatList.drop iter = rest)
    (enough : rest.length + s.iThreatContainer.iThreatList.length + 1 < fuel) :
    selectLoop w s ⟨iter, current, false⟩ fuel =
      some (selectPreferred w s s.iThreatContainer.iThreatList current rest) := by
  induction rest generalizing iter current fuel with
  | nil =>
    obtain ⟨fuel, rfl⟩ := Nat.exists_eq_add_of_lt enough
    simp [selectLoop, selectRound, (getElem?_of_drop here).1, selectPreferred]
  | cons ref rest ih =>
    obtain ⟨fuel, rfl⟩ := Nat.exists_eq_succ_of_ne_zero (Nat.ne_of_gt (Nat.zero_lt_of_lt enough))
    rw [List.length_cons] at enough
    obtain ⟨first, behind⟩ := getElem?_of_drop here
    rw [List.head?_cons] at first
    have last : iter + 1 = s.iThreatContainer.iThreatList.length ↔ rest.isEmpty = true := by
      have length := congrArg List.length here
      simp only [List.length_drop, List.length_cons] at length
      rw [List.isEmpty_iff, ← List.length_eq_zero_iff]
      omega
    simp only [selectLoop, selectRound, first, Bool.false_eq_true, not_false_eq_true, true_and,
      selectPreferred]
    by_cases second : secondChoice w s ref = true
    · by_cases end_ : rest.isEmpty = true
      · simp only [second, if_true, ne_eq, last, end_, not_true_eq_false, if_false]
        exact selectLoop_second w s current _ (List.drop_zero) (by omega)
      · simp only [second, if_true, ne_eq, last, end_]
        exact ih _ behind (by omega)
    · simp only [second]
      cases choice w s current ref with
      | some chosen => rfl
      | none => exact ih current behind (by omega)

lemma selectLoop_ends (currentVictim : Option ℕ)
    (enough : 2 * s.iThreatContainer.iThreatList.length + 1 < fuel) :
    selectLoop w s ⟨0, currentVictim, false⟩ fuel = some (selectNextVictim w s currentVictim) :=
  selectLoop_first w s currentVictim _ List.drop_zero (by omega)

/-! ### First choices and bands -/

def attackable (ref : ℕ) : Prop := (w.unit (s.refs ref).iUnitGuid).canBeAttacked = true

/-- The preferred references. -/
def FirstChoice (ref : ℕ) : Prop := attackable w s ref ∧ secondChoice w s ref = false

def NoBetter (victim ref : ℕ) : Prop := s.threatOf ref ≤ tenths 11 * s.threatOf victim

def Exceeds (victim ref : ℕ) : Prop :=
  tenths 13 * s.threatOf victim < s.threatOf ref ∨
    (tenths 11 * s.threatOf victim < s.threatOf ref ∧
      (w.unit (s.refs ref).iUnitGuid).isWithinMeleeRange = true)

/-- Neither. The loop then passes over the reference. -/
def HeldBack (victim ref : ℕ) : Prop := ¬ NoBetter s victim ref ∧ ¬ Exceeds w s victim ref

variable {w s}

lemma choice_of_unattackable (not : ¬ attackable w s ref) : choice w s current ref = none := by
  exact if_neg not

lemma choice_alone (can : attackable w s ref) : choice w s none ref = some ref := by
  exact if_pos can

lemma choice_cases (victim : ℕ) (can : attackable w s ref) :
    (victim = ref ∧ choice w s (some victim) ref = some victim) ∨
    (victim ≠ ref ∧ NoBetter s victim ref ∧ attackable w s victim ∧
      choice w s (some victim) ref = some victim) ∨
    (victim ≠ ref ∧ NoBetter s victim ref ∧ ¬ attackable w s victim ∧
      choice w s (some victim) ref = some ref) ∨
    (victim ≠ ref ∧ ¬ NoBetter s victim ref ∧ Exceeds w s victim ref ∧
      choice w s (some victim) ref = some ref) ∨
    (victim ≠ ref ∧ HeldBack w s victim ref ∧ choice w s (some victim) ref = none) := by
  unfold attackable at can
  unfold choice NoBetter HeldBack Exceeds attackable
  simp only [can, if_true]
  by_cases hs : victim = ref
  · simp [hs]
  by_cases better : s.threatOf ref ≤ tenths 11 * s.threatOf victim
  · by_cases can' : (w.unit (s.refs victim).iUnitGuid).canBeAttacked = true
    · simp [hs, better, can']
    · simp [hs, better, can']
  · by_cases exceeds : tenths 13 * s.threatOf victim < s.threatOf ref ∨
        (tenths 11 * s.threatOf victim < s.threatOf ref ∧
          (w.unit (s.refs ref).iUnitGuid).isWithinMeleeRange = true)
    · simp [hs, better, exceeds]
    · simp [hs, better, exceeds, NoBetter]

/-! ### What the first pass finds -/

variable {all list : List ℕ}

lemma selectPreferred_second (second : secondChoice w s ref = true) (more : rest ≠ []) :
    selectPreferred w s all current (ref :: rest) =
      selectPreferred w s all (if current = some ref then none else current) rest := by
  rw [selectPreferred, if_pos second, if_neg (by simpa using more)]

lemma selectPreferred_stops {chosen : ℕ} (preferred : secondChoice w s ref = false)
    (stops : choice w s current ref = some chosen) :
    selectPreferred w s all current (ref :: rest) = some chosen := by
  rw [selectPreferred, if_neg (by simp [preferred]), stops]

lemma selectPreferred_passes (preferred : secondChoice w s ref = false)
    (passes : choice w s current ref = none) :
    selectPreferred w s all current (ref :: rest) = selectPreferred w s all current rest := by
  rw [selectPreferred, if_neg (by simp [preferred]), passes]

omit [ThreatValue T] in
lemma firstChoice_behind (some_ : ∃ a ∈ ref :: rest, FirstChoice w s a)
    (not : ¬ FirstChoice w s ref) : ∃ a ∈ rest, FirstChoice w s a := by
  obtain ⟨a, mem, first⟩ := some_
  rcases List.mem_cons.mp mem with rfl | mem
  · exact absurd first not
  · exact ⟨a, mem, first⟩

variable (all) in
lemma selectPreferred_none (some_ : ∃ a ∈ list, FirstChoice w s a) :
    ∃ ref ∈ list, FirstChoice w s ref ∧ selectPreferred w s all none list = some ref := by
  induction list with
  | nil => simp at some_
  | cons ref rest ih =>
    by_cases first : FirstChoice w s ref
    · exact ⟨ref, by simp, first, selectPreferred_stops first.2 (choice_alone first.1)⟩
    · have behind := firstChoice_behind some_ first
      obtain ⟨chosen, mem, good, hf⟩ := ih behind
      refine ⟨chosen, List.mem_cons_of_mem _ mem, good, ?_⟩
      cases second : secondChoice w s ref with
      | true =>
        obtain ⟨a, inside, -⟩ := behind
        rw [selectPreferred_second second (List.ne_nil_of_mem inside), if_neg (by simp), hf]
      | false =>
        have not : ¬ attackable w s ref := fun can => first ⟨can, second⟩
        rw [selectPreferred_passes second (choice_of_unattackable not), hf]

variable (all) in
/-- A victim that is a first choice is kept or replaced by a first choice with enough threat. -/
lemma selectPreferred_firstChoice (first : FirstChoice w s victim) (listed : victim ∈ list) :
    ∃ ref ∈ list, FirstChoice w s ref ∧ selectPreferred w s all (some victim) list = some ref ∧
      (ref = victim ∨ Exceeds w s victim ref) := by
  induction list with
  | nil => simp at listed
  | cons ref rest ih =>
    have later : victim ≠ ref → victim ∈ rest := fun other =>
      (List.mem_cons.mp listed).resolve_left other
    have widen : (∃ chosen ∈ rest, FirstChoice w s chosen ∧
        selectPreferred w s all (some victim) (ref :: rest) = some chosen ∧
          (chosen = victim ∨ Exceeds w s victim chosen)) →
        ∃ chosen ∈ ref :: rest, FirstChoice w s chosen ∧
          selectPreferred w s all (some victim) (ref :: rest) = some chosen ∧
            (chosen = victim ∨ Exceeds w s victim chosen) := fun ⟨chosen, mem, hf⟩ =>
      ⟨chosen, List.mem_cons_of_mem _ mem, hf⟩
    cases second : secondChoice w s ref with
    | true =>
      have other : victim ≠ ref := by
        rintro rfl
        simp [first.2] at second
      have inside := later other
      apply widen
      rw [selectPreferred_second second (List.ne_nil_of_mem inside), if_neg (by simpa using other)]
      exact ih inside
    | false =>
      by_cases can : attackable w s ref
      · rcases choice_cases victim can with ⟨rfl, stops⟩ | ⟨-, -, -, stops⟩ |
          ⟨-, -, not, -⟩ | ⟨-, -, exceeds, stops⟩ | ⟨other, -, passes⟩
        · exact ⟨victim, by simp, first, selectPreferred_stops second stops, .inl rfl⟩
        · exact ⟨victim, listed, first, selectPreferred_stops second stops, .inl rfl⟩
        · exact absurd first.1 not
        · exact ⟨ref, by simp, ⟨can, second⟩, selectPreferred_stops second stops, .inr exceeds⟩
        · apply widen
          rw [selectPreferred_passes second passes]
          exact ih (later other)
      · have other : victim ≠ ref := fun hs => can (hs ▸ first.1)
        apply widen
        rw [selectPreferred_passes second (choice_of_unattackable can)]
        exact ih (later other)

/-- A victim that cannot be attacked gives way to the first choices it does not hold back. -/
lemma selectPreferred_unattackable (not : ¬ attackable w s victim)
    (some_ : ∃ a ∈ list, FirstChoice w s a ∧ ¬ HeldBack w s victim a) :
    ∃ ref ∈ list, FirstChoice w s ref ∧
      selectPreferred w s all (some victim) list = some ref := by
  induction list with
  | nil => simp at some_
  | cons ref rest ih =>
    have widen : (∃ chosen ∈ rest, FirstChoice w s chosen ∧
        selectPreferred w s all (some victim) (ref :: rest) = some chosen) →
        ∃ chosen ∈ ref :: rest, FirstChoice w s chosen ∧
          selectPreferred w s all (some victim) (ref :: rest) = some chosen :=
      fun ⟨chosen, mem, hf⟩ => ⟨chosen, List.mem_cons_of_mem _ mem, hf⟩
    have behind : ¬ (FirstChoice w s ref ∧ ¬ HeldBack w s victim ref) →
        ∃ a ∈ rest, FirstChoice w s a ∧ ¬ HeldBack w s victim a := by
      intro out
      obtain ⟨a, mem, good⟩ := some_
      rcases List.mem_cons.mp mem with rfl | mem
      · exact absurd good out
      · exact ⟨a, mem, good⟩
    cases second : secondChoice w s ref with
    | true =>
      obtain ⟨a, inside, good, free⟩ := behind fun ⟨good, _⟩ => by simp [good.2] at second
      apply widen
      rw [selectPreferred_second second (List.ne_nil_of_mem inside)]
      split
      · exact selectPreferred_none all ⟨a, inside, good⟩
      · exact ih ⟨a, inside, good, free⟩
    | false =>
      by_cases can : attackable w s ref
      · rcases choice_cases victim can with ⟨rfl, -⟩ | ⟨-, -, can', -⟩ |
          ⟨-, -, -, stops⟩ | ⟨-, -, -, stops⟩ | ⟨-, held, passes⟩
        · exact absurd can not
        · exact absurd can' not
        · exact ⟨ref, by simp, ⟨can, second⟩, selectPreferred_stops second stops⟩
        · exact ⟨ref, by simp, ⟨can, second⟩, selectPreferred_stops second stops⟩
        · apply widen
          rw [selectPreferred_passes second passes]
          exact ih (behind fun ⟨_, free⟩ => free held)
      · apply widen
        rw [selectPreferred_passes second (choice_of_unattackable can)]
        exact ih (behind fun ⟨good, _⟩ => can good.1)

/-- A victim that is a second choice gives way, when the first choices that stand before it have
enough threat. -/
lemma selectPreferred_secondChoice (second : secondChoice w s victim = true)
    (enough : ∀ a ∈ list.takeWhile (· ≠ victim), FirstChoice w s a →
      ¬ NoBetter s victim a ∧ Exceeds w s victim a) (some_ : ∃ a ∈ list, FirstChoice w s a) :
    ∃ ref ∈ list, FirstChoice w s ref ∧
      selectPreferred w s all (some victim) list = some ref := by
  induction list with
  | nil => simp at some_
  | cons ref rest ih =>
    by_cases hs : ref = victim
    · subst hs
      obtain ⟨a, inside, good⟩ := firstChoice_behind some_ fun good => by
        simp [good.2] at second
      obtain ⟨chosen, mem, hf⟩ := selectPreferred_none all ⟨a, inside, good⟩
      refine ⟨chosen, List.mem_cons_of_mem _ mem, hf.1, ?_⟩
      rw [selectPreferred_second second (List.ne_nil_of_mem inside), if_pos rfl]
      exact hf.2
    · rw [List.takeWhile_cons_of_pos (by simpa using hs)] at enough
      by_cases first : FirstChoice w s ref
      · obtain ⟨better, exceeds⟩ := enough ref (by simp) first
        rcases choice_cases victim first.1 with ⟨rfl, -⟩ | ⟨-, no, -⟩ |
          ⟨-, no, -⟩ | ⟨-, -, -, stops⟩ | ⟨-, held, -⟩
        · exact absurd rfl hs
        · exact absurd no better
        · exact absurd no better
        · exact ⟨ref, by simp, first, selectPreferred_stops first.2 stops⟩
        · exact absurd exceeds held.2
      · have behind := firstChoice_behind some_ first
        obtain ⟨chosen, mem, good, hf⟩ :=
          ih (fun a inside => enough a (List.mem_cons_of_mem _ inside)) behind
        refine ⟨chosen, List.mem_cons_of_mem _ mem, good, ?_⟩
        cases second' : secondChoice w s ref with
        | true =>
          obtain ⟨a, inside, -⟩ := behind
          rw [selectPreferred_second second' (List.ne_nil_of_mem inside),
            if_neg (by simpa using Ne.symm hs), hf]
        | false =>
          have not : ¬ attackable w s ref := fun can => first ⟨can, second'⟩
          rw [selectPreferred_passes second' (choice_of_unattackable not), hf]

/-! ### The choice -/

variable (w s)

/-- The victim does not stand in the way of the first choices: it is one of them; or it cannot be
attacked and does not hold all of them back; or it is a second choice and those before it in the
list have enough threat. -/
def GivesWay (victim : ℕ) : Prop :=
  FirstChoice w s victim ∨
  (¬ attackable w s victim ∧
    ∃ a ∈ s.iThreatContainer.iThreatList, FirstChoice w s a ∧ ¬ HeldBack w s victim a) ∨
  (secondChoice w s victim = true ∧
    ∀ a ∈ s.iThreatContainer.iThreatList.takeWhile (· ≠ victim), FirstChoice w s a →
      ¬ NoBetter s victim a ∧ Exceeds w s victim a)

def SelectsFirstChoice (currentVictim : Option ℕ) : Prop :=
  (∃ a ∈ s.iThreatContainer.iThreatList, FirstChoice w s a) →
    ∃ ref ∈ s.iThreatContainer.iThreatList, FirstChoice w s ref ∧
      selectNextVictim w s currentVictim = some ref

def ReplacesByThreat (currentVictim : Option ℕ) : Prop :=
  ∀ victim ∈ currentVictim, ∀ ref ∈ selectNextVictim w s currentVictim,
    ref ≠ victim → Exceeds w s victim ref

/-- The loop ends. It finds a first choice unless the victim is in the way of them, and a victim
that is a first choice is replaced only by one with enough threat. -/
theorem selectNextVictim_spec (currentVictim : Option ℕ)
    (listed : ∀ victim ∈ currentVictim, victim ∈ s.iThreatContainer.iThreatList) :
    (∀ fuel, 2 * s.iThreatContainer.iThreatList.length + 1 < fuel →
      selectLoop w s ⟨0, currentVictim, false⟩ fuel =
        some (selectNextVictim w s currentVictim)) ∧
    ((∀ victim ∈ currentVictim, GivesWay w s victim) →
      SelectsFirstChoice w s currentVictim) ∧
    ((∀ victim ∈ currentVictim, FirstChoice w s victim) →
      ReplacesByThreat w s currentVictim) := by
  refine ⟨fun fuel => selectLoop_ends w s currentVictim, fun way some_ => ?_, ?_⟩
  · cases currentVictim with
    | none => exact selectPreferred_none _ some_
    | some victim =>
      rcases way victim rfl with first | ⟨not, free⟩ | ⟨second, enough⟩
      · obtain ⟨ref, mem, good, found, -⟩ := selectPreferred_firstChoice _ first (listed victim rfl)
        exact ⟨ref, mem, good, found⟩
      · exact selectPreferred_unattackable not free
      · exact selectPreferred_secondChoice second enough some_
  · rintro first victim rfl ref chosen other
    obtain ⟨ref', -, -, found, kept⟩ :=
      selectPreferred_firstChoice s.iThreatContainer.iThreatList (first victim rfl)
        (listed victim rfl)
    obtain rfl := Option.some.inj (found.symm.trans chosen)
    exact kept.resolve_left other

end ThreatManager

/-! ### Victims in the way -/

/-- A threat list in this order, with the address of a reference as the guid of its target. -/
def hatedWith (threats : List ℚ) : ThreatManager ℚ where
  refs := fun ref => ⟨threats.getD ref 0, 0, UInt64.ofNat ref, true, true, true⟩
  live := Finset.range threats.length
  newRef := threats.length
  iThreatContainer := ⟨List.range threats.length, false⟩
  iThreatOfflineContainer := ⟨[], false⟩
  iCurrentVictim := none

def playersBut (unreachable immune : Option UInt64) : World ℚ :=
  { soloPlayers ℚ with
    unit := fun guid =>
      { (soloPlayers ℚ).unit guid with
        canBeAttacked := some guid ≠ unreachable
        isImmunedToDamage := some guid = immune
        isWithinMeleeRange := false } }

namespace ThreatManager

/-- The victim stays against 120 in 100 at a distance and gives way to 140. -/
theorem selectNextVictim_spec_bands :
    selectNextVictim (playersBut none none) (hatedWith [120, 100]) (some 1) = some 1 ∧
    ReplacesByThreat (playersBut none none) (hatedWith [140, 100]) (some 1) := by
  refine ⟨by decide +kernel, (selectNextVictim_spec _ _ (some 1) ?_).2.2 ?_⟩
  · decide
  · rintro victim ⟨⟩
    exact ⟨rfl, rfl⟩

/-- A victim out of reach is replaced by a reference with less threat, and one that is immune
keeps its place behind a reference at a distance. -/
theorem selectNextVictim_in_the_way :
    (¬ ∀ (w : World ℚ) (s : ThreatManager ℚ) (currentVictim : Option ℕ), s.Descending →
      (∀ victim ∈ currentVictim, victim ∈ s.iThreatContainer.iThreatList) →
        ReplacesByThreat w s currentVictim) ∧
    (¬ ∀ (w : World ℚ) (s : ThreatManager ℚ) (currentVictim : Option ℕ), s.Descending →
      (∀ victim ∈ currentVictim, victim ∈ s.iThreatContainer.iThreatList) →
        SelectsFirstChoice w s currentVictim) := by
  constructor
  · intro all
    have kept := all (playersBut (some 0) none) (hatedWith [100, 50]) (some 0)
      (by unfold Descending; decide +kernel) (by decide) 0 rfl 1 (by decide +kernel) (by decide)
    revert kept
    unfold Exceeds
    decide +kernel
  · intro all
    obtain ⟨ref, mem, good, found⟩ := all (playersBut none (some 1)) (hatedWith [120, 100]) (some 1)
      (by unfold Descending; decide +kernel) (by decide) ⟨0, by decide, rfl, rfl⟩
    have stays : selectNextVictim (playersBut none (some 1)) (hatedWith [120, 100]) (some 1) =
        some 1 := by decide +kernel
    obtain rfl := Option.some.inj (found.symm.trans stays)
    exact absurd good.2 (by decide +kernel)

end ThreatManager

end WorldServer.Combat
