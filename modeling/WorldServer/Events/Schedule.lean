import WorldServer.Events.EventChain

/-!
# The schedule of normal events

A normal event is active in windows that begin again and again between its start and its end. The
update looks at all events and comes back a second after the first of the times that `NextCheck`
gives for them, so these must not be later than the next beginning or end of a window. They are not,
but in the second of the start itself: the event is not yet active then, and `NextCheck` gives the
end of the first window.
-/
namespace WorldServer.Events

variable {n : ℕ}

namespace GameEventData

variable (now : ℕ) (d : GameEventData n)

/-- The seconds until the window that `now` is in, or the pause, is over. -/
def left : ℕ :=
  (if (now - d.start) % minutes d.occurence < minutes d.length then minutes d.length
    else minutes d.occurence) - (now - d.start) % minutes d.occurence

/-- Nothing changes before the next check is due, and if it is due within a day, the event changes
or is over then or a second later. There is no division by zero. -/
structure Foreseen : Prop where
  divides : minutes d.occurence ≠ 0
  same : ∀ t, now ≤ t → t < now + d.NextCheck now → d.inPeriod t = d.inPeriod now
  changes : d.NextCheck now < max_ge_check_delay →
    d.inPeriod (now + d.NextCheck now) ≠ d.inPeriod now ∨
      d.inPeriod (now + d.NextCheck now + 1) ≠ d.inPeriod now ∨
        d.end_ ≤ now + d.NextCheck now + 1

/-- It is not the second of the start, unless the event ends in the next one, and the products and
the time until the start fit into 32 bits; or, where they do not, the next check is a day later or
the event ends by then. -/
def Foreseeable : Prop :=
  minutes d.occurence ≠ 0 ∧
    (d.end_ < now ∨
      (now < d.start ∧ (max_ge_check_delay ≤ (d.start - now) % 2 ^ 32 ∨
        (d.start - now < 2 ^ 32 ∧ (minutes d.length ≠ 0 ∨ d.end_ ≤ d.start + 1)))) ∨
      (now = d.start ∧ (d.end_ ≤ d.start + 1 ∨ (minutes d.length = 0 ∧
        (max_ge_check_delay ≤ minutes d.occurence ∨
          d.end_ ≤ d.start + minutes d.occurence + 1)))) ∨
      (d.start < now ∧ now ≤ d.end_ ∧
        ((minutes d.length ≠ 0 ∧ minutes d.length < minutes d.occurence) ∨
          max_ge_check_delay ≤ d.left now ∨ d.end_ ≤ now + d.left now + 1)))

variable {now d}

/-! ### Windows -/

lemma inPeriod_iff {t : ℕ} :
    d.inPeriod t = true ↔
      d.start < t ∧ t < d.end_ ∧ (t - d.start) % minutes d.occurence < minutes d.length := by
  simp [inPeriod, and_assoc]

lemma inPeriod_eq_iff {t t' : ℕ} :
    d.inPeriod t = d.inPeriod t' ↔ (d.inPeriod t = true ↔ d.inPeriod t' = true) :=
  Bool.eq_iff_iff

lemma minutes_ge {m : ℕ} (nonzero : minutes m ≠ 0) : 4 ≤ minutes m := by
  unfold minutes at *
  omega

lemma minutes_lt (m : ℕ) : minutes m < 2 ^ 32 := Nat.mod_lt _ (by decide)

section Window

variable {x k L O : ℕ}

lemma window_same (period : 0 < O) (inside : k < (if x % O < L then L else O) - x % O) :
    (x + k) % O < L ↔ x % O < L := by
  rw [← Nat.mod_add_mod]
  by_cases first : x % O + k < O
  · rw [Nat.mod_eq_of_lt first]
    split at inside <;> omega
  · -- only a window that is longer than its period reaches the next one
    have := Nat.mod_lt (x % O + k) period
    split at inside <;> omega

lemma window_over (nonzero : L ≠ 0) (short : L < O) :
    (x + ((if x % O < L then L else O) - x % O)) % O < L ↔ ¬ x % O < L := by
  have := Nat.mod_lt x (show 0 < O by omega)
  rw [← Nat.mod_add_mod]
  split
  next active =>
    rw [show x % O + (L - x % O) = L by omega, Nat.mod_eq_of_lt short]
    omega
  next pause =>
    rw [show x % O + (O - x % O) = O by omega, Nat.mod_self]
    omega

end Window

lemma NextCheck_normal (normal : d.state = .NORMAL) :
    d.NextCheck now =
      if d.end_ < now then max_ge_check_delay
      else if now < d.start then (d.start - now) % 2 ^ 32
      else if d.end_ < now + d.left now then (d.end_ - now) % 2 ^ 32 else d.left now := by
  unfold NextCheck
  rw [if_neg (by simp [normal]), if_neg (by simp [normal])]
  rfl

lemma left_lt : d.left now < 2 ^ 32 := by
  have := minutes_lt d.length
  have := minutes_lt d.occurence
  unfold left
  split <;> omega

lemma left_pos (divides : minutes d.occurence ≠ 0) : 0 < d.left now := by
  have := Nat.mod_lt (now - d.start) (Nat.pos_of_ne_zero divides)
  unfold left
  split <;> omega

/-! ### Each case of the time -/

lemma foreseen_late (normal : d.state = .NORMAL) (divides : minutes d.occurence ≠ 0)
    (late : d.end_ < now) : d.Foreseen now := by
  have check : d.NextCheck now = max_ge_check_delay := by
    rw [NextCheck_normal normal, if_pos late]
  refine ⟨divides, fun t from_ _ => ?_, fun soon => ?_⟩
  · rw [inPeriod_eq_iff, inPeriod_iff, inPeriod_iff]
    omega
  · omega

lemma inPeriod_next (divides : minutes d.occurence ≠ 0) :
    d.inPeriod (d.start + 1) = true ↔ d.start + 1 < d.end_ ∧ minutes d.length ≠ 0 := by
  have period := minutes_ge divides
  rw [inPeriod_iff, show d.start + 1 - d.start = 1 by omega, Nat.mod_eq_of_lt (by omega)]
  constructor
  · omega
  · rintro ⟨before, nonzero⟩
    have := minutes_ge nonzero
    omega

lemma foreseen_early_iff (normal : d.state = .NORMAL) (divides : minutes d.occurence ≠ 0)
    (order : d.start < d.end_) (early : now < d.start) :
    d.Foreseen now ↔ max_ge_check_delay ≤ (d.start - now) % 2 ^ 32 ∨
      (d.start - now < 2 ^ 32 ∧ (minutes d.length ≠ 0 ∨ d.end_ ≤ d.start + 1)) := by
  have check : d.NextCheck now = (d.start - now) % 2 ^ 32 := by
    rw [NextCheck_normal normal, if_neg (by omega), if_pos early]
  have before : ∀ t ≤ d.start, d.inPeriod t = false := by
    intro t until_
    rw [← Bool.not_eq_true, inPeriod_iff]
    omega
  have next := inPeriod_next divides
  have now_ := before now early.le
  constructor
  · intro foreseen
    have changes := foreseen.changes
    rw [check] at changes
    by_cases soon : d.start - now < 2 ^ 32
    · rw [Nat.mod_eq_of_lt soon]
      grind
    · have := Nat.mod_lt (d.start - now) (show 2 ^ 32 > 0 by decide)
      have still := before (now + (d.start - now) % 2 ^ 32) (by omega)
      have still' := before (now + (d.start - now) % 2 ^ 32 + 1) (by omega)
      grind
  · intro far
    refine ⟨divides, fun t from_ until_ => ?_, fun soon => ?_⟩
    · have := Nat.mod_le (d.start - now) (2 ^ 32)
      rw [before t (by omega), now_]
    · rw [check] at soon ⊢
      obtain ⟨fits, long⟩ := far.resolve_left (by omega)
      grind

lemma foreseen_start_iff (normal : d.state = .NORMAL) (divides : minutes d.occurence ≠ 0)
    (order : d.start < d.end_) :
    d.Foreseen d.start ↔ d.end_ ≤ d.start + 1 ∨ (minutes d.length = 0 ∧
      (max_ge_check_delay ≤ minutes d.occurence ∨
        d.end_ ≤ d.start + minutes d.occurence + 1)) := by
  have start_ : d.inPeriod d.start = false := by
    rw [← Bool.not_eq_true, inPeriod_iff]
    omega
  have next := inPeriod_next divides
  have check : d.NextCheck d.start =
      if d.end_ < d.start + d.left d.start then (d.end_ - d.start) % 2 ^ 32
      else d.left d.start := by
    rw [NextCheck_normal normal, if_neg (by omega), if_neg (by omega)]
  have bound : d.left d.start < 2 ^ 32 := d.left_lt
  by_cases none : minutes d.length = 0
  · have never : ∀ t, d.inPeriod t = false := by
      intro t
      rw [← Bool.not_eq_true, inPeriod_iff, none]
      omega
    have left_ : d.left d.start = minutes d.occurence := by simp [left, none]
    constructor
    · intro foreseen
      have changes := foreseen.changes
      simp only [never, ne_eq, not_true_eq_false, false_or] at changes
      rw [check] at changes
      split at changes <;> omega
    · intro far
      refine ⟨divides, fun t _ _ => by rw [never, never], fun soon => ?_⟩
      rw [check] at soon ⊢
      split at soon
      · rw [if_pos ‹_›]
        omega
      · rw [if_neg ‹_›]
        omega
  · have length := minutes_ge none
    have left_ : d.left d.start = minutes d.length := by simp [left, Nat.pos_of_ne_zero none]
    constructor
    · intro foreseen
      by_contra long
      have hs := foreseen.same (d.start + 1) (by omega) (by rw [check]; split <;> omega)
      rw [start_, ← Bool.not_eq_true, next] at hs
      omega
    · intro short
      have ends : d.end_ = d.start + 1 := by omega
      have one : d.NextCheck d.start = 1 := by rw [check, if_pos (by omega)]; omega
      refine ⟨divides, fun t from_ until_ => ?_, fun _ => by omega⟩
      rw [show t = d.start by omega]

section On

variable (normal : d.state = .NORMAL) (divides : minutes d.occurence ≠ 0) (started : d.start < now)
  (on : now ≤ d.end_)

include normal started on in
lemma NextCheck_on : d.NextCheck now = min (d.end_ - now) (d.left now) := by
  have bound : d.left now < 2 ^ 32 := d.left_lt
  rw [NextCheck_normal normal, if_neg (by omega), if_neg (by omega)]
  split <;> omega

include started in
lemma inPeriod_on (k : ℕ) :
    d.inPeriod (now + k) = true ↔ now + k < d.end_ ∧
      (now - d.start + k) % minutes d.occurence < minutes d.length := by
  rw [inPeriod_iff, show now + k - d.start = now - d.start + k by omega]
  omega

include divides started in
lemma inPeriod_within {k : ℕ} (before : now + k < d.end_) (inside : k < d.left now) :
    d.inPeriod (now + k) = d.inPeriod now := by
  have now_ := inPeriod_on started 0
  rw [add_zero, add_zero] at now_
  rw [inPeriod_eq_iff, inPeriod_on started, now_,
    window_same (Nat.pos_of_ne_zero divides) (by rw [left] at inside; exact inside)]
  omega

include normal divides started on in
lemma foreseen_on_iff :
    d.Foreseen now ↔ (minutes d.length ≠ 0 ∧ minutes d.length < minutes d.occurence) ∨
      max_ge_check_delay ≤ d.left now ∨ d.end_ ≤ now + d.left now + 1 := by
  have check := NextCheck_on normal started on
  have now_ := inPeriod_on started 0
  rw [add_zero, add_zero] at now_
  have hs : ∀ t, now ≤ t → t < now + d.NextCheck now → d.inPeriod t = d.inPeriod now := by
    intro t from_ until_
    obtain ⟨k, rfl⟩ := Nat.exists_eq_add_of_le from_
    exact inPeriod_within divides started (by omega) (by omega)
  by_cases ends : d.end_ ≤ now + d.left now
  · -- the event is over when the next check is due
    refine iff_of_true ⟨divides, hs, fun _ => ?_⟩ ?_ <;> omega
  · have due : d.NextCheck now = d.left now := by omega
    by_cases regular : minutes d.length ≠ 0 ∧ minutes d.length < minutes d.occurence
    · refine iff_of_true ⟨divides, hs, fun _ => .inl ?_⟩ (.inl regular)
      have over_ := window_over (x := now - d.start) regular.1 regular.2
      rw [← left] at over_
      rw [due, ne_eq, inPeriod_eq_iff, inPeriod_on started, now_, over_]
      omega
    · -- the window never ends, or there is none
      have still : ∀ k, now + k < d.end_ → d.inPeriod (now + k) = d.inPeriod now := by
        intro k before
        have := Nat.mod_lt (now - d.start + k) (Nat.pos_of_ne_zero divides)
        have := Nat.mod_lt (now - d.start) (Nat.pos_of_ne_zero divides)
        rw [inPeriod_eq_iff, inPeriod_on started, now_]
        omega
      have still_ := still (d.left now) (by omega)
      constructor
      · intro foreseen
        have changes := foreseen.changes
        rw [due, still_] at changes
        by_cases later : now + (d.left now + 1) < d.end_
        · rw [add_assoc, still _ later] at changes
          grind
        · omega
      · intro far
        refine ⟨divides, hs, fun soon => ?_⟩
        omega

end On

lemma foreseen_iff (normal : d.state = .NORMAL) (order : d.start < d.end_) :
    d.Foreseen now ↔ d.Foreseeable now := by
  by_cases divides : minutes d.occurence = 0
  · exact iff_of_false (fun foreseen => foreseen.divides divides) fun h => h.1 divides
  · rw [Foreseeable]
    rcases lt_trichotomy now d.start with early | rfl | started
    · rw [foreseen_early_iff normal divides order early]
      omega
    · rw [foreseen_start_iff normal divides order]
      omega
    · by_cases late : d.end_ < now
      · exact iff_of_true (foreseen_late normal divides late) ⟨divides, .inl late⟩
      · rw [foreseen_on_iff normal divides started (by omega)]
        omega

lemma scanned_normal (normal : d.state = .NORMAL) : d.scanned now = d := by
  simp [scanned, normal]

end GameEventData

namespace GameEventMgr

variable {now : ℕ} {s : GameEventMgr n} {id : Fin n}

lemma scanOne_delay (c : Scan n) (itr : Fin n) :
    (scanOne now c itr).nextEventDelay ≤ c.nextEventDelay := by
  rw [scanOne]
  split
  · split
    · exact le_rfl
    · exact min_le_left _ _
  · exact min_le_left _ _

lemma scanOne_normal {c : Scan n} (normal : (c.mgr.mGameEvent id).state = .NORMAL)
    (itr : Fin n) :
    (scanOne now c itr).mgr.mGameEvent id = c.mgr.mGameEvent id ∧
      (itr = id →
        (scanOne now c itr).nextEventDelay ≤ (c.mgr.mGameEvent id).NextCheck now) := by
  constructor
  · rw [(scanOne_cases now c itr).1, setEvent]
    by_cases own : id = itr
    · subst own
      simp [GameEventData.scanned_normal normal]
    · simp [Function.update_of_ne own]
  · rintro rfl
    rw [scanOne]
    simp only [normal]
    split <;> simp [setEvent]

lemma foldl_normal (ids : List (Fin n)) {c : Scan n}
    (normal : (c.mgr.mGameEvent id).state = .NORMAL) :
    (ids.foldl (scanOne now) c).nextEventDelay ≤ c.nextEventDelay ∧
      (id ∈ ids →
        (ids.foldl (scanOne now) c).nextEventDelay ≤ (c.mgr.mGameEvent id).NextCheck now) := by
  induction ids generalizing c with
  | nil => simp
  | cons itr ids ih =>
    obtain ⟨kept, bound⟩ := @scanOne_normal n now id c normal itr
    obtain ⟨less, bound'⟩ := ih (c := scanOne now c itr) (kept ▸ normal)
    rw [kept] at bound'
    refine ⟨less.trans (scanOne_delay c itr), fun hm => ?_⟩
    rcases List.mem_cons.mp hm with rfl | later
    · exact less.trans (bound rfl)
    · exact bound' later

lemma startAll_delay (ids : List (Fin n)) (p : GameEventMgr n × ℕ) :
    (startAll now ids p).2 ≤ p.2 := by
  induction ids generalizing p with
  | nil => exact le_rfl
  | cons id ids ih =>
    refine (ih _).trans ?_
    simp only
    split
    · exact Nat.zero_le _
    · exact le_rfl

/-- The next update is due a second after a time that is not later than the next check of any normal
event. -/
lemma Update_delay (there : id.val ≠ 0) (normal : (s.mGameEvent id).state = .NORMAL) :
    ∃ k ≤ (s.mGameEvent id).NextCheck now, (s.Update now).2 = (k + 1) * 1000 := by
  have listed : id ∈ eventIds n := List.mem_filter.mpr ⟨List.mem_finRange id, by simpa using there⟩
  obtain ⟨day, bound⟩ := @foldl_normal n now id (eventIds n) ⟨s, [], [], max_ge_check_delay⟩ normal
  have less := @startAll_delay n now (s.scan now).activate
    ((s.scan now).mgr, (s.scan now).nextEventDelay)
  refine ⟨_, less.trans (bound listed), ?_⟩
  have : (startAll now (s.scan now).activate ((s.scan now).mgr, (s.scan now).nextEventDelay)).2 ≤
      86400 := less.trans day
  simp only [Update]
  omega

/-- Nothing is missed about a normal event exactly if its next check is foreseeable. Then each
change until the next update, whichever other events there are, is noticed within a second. -/
theorem normal_event_foreseen_iff (there : id.val ≠ 0) (normal : (s.mGameEvent id).state = .NORMAL)
    (order : (s.mGameEvent id).start < (s.mGameEvent id).end_) :
    ((s.mGameEvent id).Foreseen now ↔ (s.mGameEvent id).Foreseeable now) ∧
      ((s.mGameEvent id).Foreseeable now → ∀ t, now < t →
        t * 1000 ≤ now * 1000 + (s.Update now).2 →
        (s.mGameEvent id).inPeriod t ≠ (s.mGameEvent id).inPeriod (t - 1) →
        now * 1000 + (s.Update now).2 ≤ (t + 1) * 1000) := by
  have foreseen_iff := @GameEventData.foreseen_iff n now _ normal order
  refine ⟨foreseen_iff, fun foreseeable t after until_ change => ?_⟩
  obtain ⟨k, less, delay⟩ := @Update_delay n now s id there normal
  by_contra early
  -- both seconds are before the next check
  have same := (foreseen_iff.mpr foreseeable).same
  exact change ((same t (by omega) (by omega)).trans (same (t - 1) (by omega) (by omega)).symm)

/-- An event every day for an hour, at a time before it starts. -/
def daily : GameEventData 2 :=
  ⟨100000, 10000000, 0, 1440, 60, .NORMAL, ∅, ∅⟩

theorem normal_event_foreseen_iff_daily :
    daily.Foreseen 99000 ↔ daily.Foreseeable 99000 :=
  (@normal_event_foreseen_iff 2 99000 (load (fun _ => daily) ∅) 1 (by decide) rfl (by decide)).1

/-- The update runs in the second of the start, and comes back when the first window is over. -/
theorem start_missed :
    daily.state = .NORMAL ∧ 0 < daily.length ∧ daily.length < daily.occurence ∧
      daily.start < daily.end_ ∧ ¬ daily.Foreseen 100000 := by
  refine ⟨rfl, by decide, by decide, by decide, fun foreseen => ?_⟩
  have check : daily.NextCheck 100000 = 3600 := by decide +kernel
  have same := foreseen.same 100001 (by decide) (by rw [check]; decide)
  exact absurd same (by decide +kernel)

end GameEventMgr

end WorldServer.Events
