import Mathlib.Algebra.BigOperators.Intervals
import Mathlib.Algebra.Order.BigOperators.Group.Finset
import WorldServer.Lib.Word

/-!
# Guild experience

A gain is cut at what is left of the day's limit and added, and the experience is spent on levels
while it reaches what the level requires. What is left is a difference of two words, the sum is a
word, and so is the level.
-/
namespace WorldServer.Guilds

open WorldServer.Lib

structure GuildPerkSpellsEntry where
  Level : UInt32
  SpellId : UInt32
deriving DecidableEq

/-- What the server is configured with and has loaded. -/
structure GuildLeveling where
  CONFIG_GUILD_LEVELING_ENABLED : Bool
  CONFIG_GUILD_MAX_LEVEL : UInt32
  CONFIG_GUILD_DAILY_XP_CAP : UInt32
  GuildXPperLevel : List UInt64
  sGuildPerkSpellsStore : List (Option GuildPerkSpellsEntry)

structure GuildProgress where
  level : UInt8
  experience : UInt64
  todayExperience : UInt64
deriving DecidableEq

/-- What the online members are told of one level. -/
structure Ding where
  level : UInt8
  perksToLearn : List UInt32
deriving DecidableEq

/-- A gain that was dealt with: what `SMSG_GUILD_XP_GAIN` says, when it is sent at all. -/
structure GivenXP where
  progress : GuildProgress
  sent : Option UInt64
  dings : List Ding
deriving DecidableEq

def GUILD_EXPERIENCE_UNCAPPED_LEVEL : UInt8 := 20

namespace GuildLeveling

variable (c : GuildLeveling)

def GetXPForGuildLevel (level : UInt8) : UInt32 :=
  match c.GuildXPperLevel[level.toNat]? with
  | some requiredXP => requiredXP.toUInt32
  | none => 0

def perksToLearn (oldLevel : UInt32) (level : UInt8) : List UInt32 :=
  c.sGuildPerkSpellsStore.reduceOption.filterMap fun entry =>
    if oldLevel < entry.Level ∧ entry.Level ≤ level.toUInt32 then some entry.SpellId else none

/-- The condition of the loop. -/
def Due (p : GuildProgress) : Prop :=
  (c.GetXPForGuildLevel p.level).toUInt64 ≤ p.experience ∧
    p.level.toUInt32 < c.CONFIG_GUILD_MAX_LEVEL

instance : DecidablePred c.Due := fun _ => inferInstanceAs (Decidable (_ ∧ _))

def ding (p : GuildProgress) : GuildProgress :=
  { p with
    experience := p.experience - (c.GetXPForGuildLevel p.level).toUInt64
    level := p.level + 1 }

/-- The loop, which need not end: the level starts again from zero after 255. -/
def levelUp : ℕ → UInt32 → GuildProgress → Option (GuildProgress × List Ding)
  | fuel, oldLevel, p =>
    if c.Due p then
      match fuel with
      | 0 => none
      | fuel + 1 =>
        let dinged := c.ding p
        (levelUp fuel (oldLevel + 1) dinged).map fun (q, dings) =>
          (q, ⟨dinged.level, c.perksToLearn oldLevel dinged.level⟩ :: dings)
    else some (p, [])

def credited (xp : UInt32) (p : GuildProgress) : UInt32 :=
  let xp := if c.CONFIG_GUILD_MAX_LEVEL ≤ p.level.toUInt32 then 0 else xp
  if p.level < GUILD_EXPERIENCE_UNCAPPED_LEVEL then
    min xp (c.CONFIG_GUILD_DAILY_XP_CAP - p.todayExperience.toUInt32)
  else xp

def gained (xp : UInt32) (p : GuildProgress) : GuildProgress :=
  { p with
    experience := p.experience + xp.toUInt64
    todayExperience := p.todayExperience + xp.toUInt64 }

def GiveXP (fuel : ℕ) (xp : UInt32) (p : GuildProgress) : Option GivenXP :=
  if c.CONFIG_GUILD_LEVELING_ENABLED then
    let xp := c.credited xp p
    let gained := gained xp p
    if xp = 0 then some ⟨gained, some xp.toUInt64, []⟩
    else (c.levelUp fuel p.level.toUInt32 gained).map fun (q, dings) =>
      ⟨q, some xp.toUInt64, dings⟩
  -- no packet is sent where guilds do not level
  else some ⟨p, none, []⟩

/-! ### What a gain should do -/

def required (level : ℕ) : ℕ :=
  (c.GetXPForGuildLevel (UInt8.ofNat level)).toNat

/-- No further level is due. -/
def Settled (p : GuildProgress) : Prop :=
  p.experience.toNat < c.required p.level.toNat ∨
    c.CONFIG_GUILD_MAX_LEVEL.toNat ≤ p.level.toNat

end GuildLeveling

def GivenXP.credit (given : GivenXP) : ℕ := (given.sent.getD 0).toNat

/-- A gain is spent on levels until none is due, and nothing of it is lost or made up. -/
structure Credits (c : GuildLeveling) (p : GuildProgress) (given : GivenXP) : Prop where
  settled : c.Settled given.progress
  level : p.level.toNat ≤ given.progress.level.toNat
  capped : p.level < GUILD_EXPERIENCE_UNCAPPED_LEVEL →
    given.credit ≤ c.CONFIG_GUILD_DAILY_XP_CAP.toNat - p.todayExperience.toNat
  spent : given.credit + p.experience.toNat =
    given.progress.experience.toNat +
      ∑ level ∈ Finset.Ico p.level.toNat given.progress.level.toNat, c.required level

namespace GuildLeveling

variable (c : GuildLeveling)

/-- The gain is dealt with, and this is the outcome. -/
def Gives (xp : UInt32) (p : GuildProgress) (given : GivenXP) : Prop :=
  ∃ enough, ∀ fuel, enough ≤ fuel → c.GiveXP fuel xp p = some given

/-- Nothing is credited, and so the loop is not run. -/
def Idle (xp : UInt32) (p : GuildProgress) : Prop :=
  c.CONFIG_GUILD_LEVELING_ENABLED = false ∨ xp = 0 ∨
  c.CONFIG_GUILD_MAX_LEVEL ≤ p.level.toUInt32 ∨
  (p.level < GUILD_EXPERIENCE_UNCAPPED_LEVEL ∧
    p.todayExperience.toUInt32 = c.CONFIG_GUILD_DAILY_XP_CAP)

def gain (xp : UInt32) (p : GuildProgress) : ℕ :=
  if p.level < GUILD_EXPERIENCE_UNCAPPED_LEVEL then
    min xp.toNat (c.CONFIG_GUILD_DAILY_XP_CAP.toNat - p.todayExperience.toNat)
  else xp.toNat

/-- The levels that this much experience pays for end before the level starts again. -/
def Stays (level experience : ℕ) : Prop :=
  c.CONFIG_GUILD_MAX_LEVEL.toNat < 256 ∨
    experience < ∑ ℓ ∈ Finset.Ico level 256, c.required ℓ

/-! ### One level -/

variable {c} {p q : GuildProgress}

lemma due_iff : c.Due p ↔ ¬ c.Settled p := by
  unfold Due Settled required
  rw [UInt64.le_iff_toNat_le, UInt32.lt_iff_toNat_lt, UInt32.toNat_toUInt64, UInt8.toNat_toUInt32,
    UInt8.ofNat_toNat]
  omega

lemma ding_level (below : p.level.toNat < 255) : (c.ding p).level.toNat = p.level.toNat + 1 :=
  toNat_add_one below

lemma ding_experience (due : c.Due p) :
    (c.ding p).experience.toNat + c.required p.level.toNat = p.experience.toNat := by
  have enough := due.1
  have paid := UInt64.le_iff_toNat_le.mp enough
  change (p.experience - (c.GetXPForGuildLevel p.level).toUInt64).toNat + _ = _
  rw [UInt64.toNat_sub_of_le _ _ enough]
  unfold required
  rw [UInt8.ofNat_toNat, ← UInt32.toNat_toUInt64]
  omega

lemma Due.below (due : c.Due p) : p.level.toNat < c.CONFIG_GUILD_MAX_LEVEL.toNat := by
  have below := UInt32.lt_iff_toNat_lt.mp due.2
  rwa [UInt8.toNat_toUInt32] at below

lemma Due.next (due : c.Due p) (stays : c.Stays p.level.toNat p.experience.toNat) :
    p.level.toNat < 255 ∧ c.Stays (c.ding p).level.toNat (c.ding p).experience.toNat := by
  have below := due.below
  have paid := ding_experience due
  have small := p.level.toNat_lt
  obtain few | short := stays
  · exact ⟨by omega, .inl few⟩
  · rw [Finset.sum_eq_sum_Ico_succ_bot (by omega)] at short
    have next : p.level.toNat < 255 := by
      by_contra last
      have : p.level.toNat = 255 := by omega
      rw [this] at short paid
      rw [Finset.Ico_self, Finset.sum_empty] at short
      omega
    refine ⟨next, .inr ?_⟩
    rw [ding_level next]
    omega

/-! ### The levels of one gain -/

lemma levelUp_some (fuel : ℕ) (oldLevel : UInt32) (p : GuildProgress)
    (stays : c.Stays p.level.toNat p.experience.toNat) (enough : 256 ≤ fuel + p.level.toNat) :
    ∃ q dings, c.levelUp fuel oldLevel p = some (q, dings) := by
  induction fuel generalizing oldLevel p with
  | zero =>
    have small := p.level.toNat_lt
    omega
  | succ fuel ih =>
    rw [levelUp]
    split
    · next due =>
      obtain ⟨below, stays⟩ := due.next stays
      obtain ⟨q, dings, run⟩ := ih (oldLevel + 1) (c.ding p) stays (by
        rw [ding_level below]
        omega)
      exact ⟨q, _, Option.map_eq_some_iff.mpr ⟨_, run, rfl⟩⟩
    · exact ⟨p, [], rfl⟩

lemma levelUp_of_settled (fuel : ℕ) (oldLevel : UInt32) (settled : ¬ c.Due p) :
    c.levelUp fuel oldLevel p = some (p, []) := by
  cases fuel <;> rw [levelUp, if_neg settled]

lemma levelUp_more {fuel more : ℕ} {oldLevel : UInt32} {r : GuildProgress × List Ding}
    (run : c.levelUp fuel oldLevel p = some r) (le : fuel ≤ more) :
    c.levelUp more oldLevel p = some r := by
  induction fuel generalizing more oldLevel p r with
  | zero =>
    rw [levelUp] at run
    split at run
    · cases run
    · next settled => rw [levelUp_of_settled more oldLevel settled, run]
  | succ fuel ih =>
    obtain ⟨more, rfl⟩ := Nat.exists_eq_add_of_le' (Nat.one_le_of_lt le)
    rw [levelUp] at run ⊢
    split at run
    · next due =>
      obtain ⟨inner, hf, hs⟩ := Option.map_eq_some_iff.mp run
      rw [if_pos due]
      exact Option.map_eq_some_iff.mpr ⟨inner, ih hf (by omega), hs⟩
    · next settled => rw [if_neg settled, run]

lemma sum_required_shift (m n : ℕ) :
    ∑ ℓ ∈ Finset.Ico (m + 256) (n + 256), c.required ℓ = ∑ ℓ ∈ Finset.Ico m n, c.required ℓ := by
  rw [← Finset.sum_Ico_add']
  refine Finset.sum_congr rfl fun ℓ _ => ?_
  have hs : UInt8.ofNat (ℓ + 256) = UInt8.ofNat ℓ := by
    rw [UInt8.ofNat_add]
    exact UInt8.add_zero _
  unfold required
  rw [hs]

variable (c) in
/-- Experience was spent on `n` levels, counted on the circle, and none is due after them. -/
structure Levels (p q : GuildProgress) (n : ℕ) : Prop where
  settled : c.Settled q
  level : q.level.toNat = (p.level.toNat + n) % 256
  paid : q.experience.toNat +
    ∑ ℓ ∈ Finset.Ico p.level.toNat (p.level.toNat + n), c.required ℓ = p.experience.toNat
  within : c.CONFIG_GUILD_MAX_LEVEL.toNat < 256 → p.level.toNat + n < 256

lemma Levels.zero (settled : ¬ c.Due p) : Levels c p p 0 where
  settled := not_not.mp (mt due_iff.mpr settled)
  level := (Nat.mod_eq_of_lt p.level.toNat_lt).symm
  paid := by simp
  within _ := p.level.toNat_lt

lemma Levels.ding {n : ℕ} (due : c.Due p) (rest : Levels c (c.ding p) q n) :
    Levels c p q (n + 1) := by
  have first := ding_experience due
  have paid := rest.paid
  have level := rest.level
  have within := rest.within
  have small := p.level.toNat_lt
  have sum := Finset.sum_eq_sum_Ico_succ_bot (f := c.required)
    (Nat.lt_add_of_pos_right (n := p.level.toNat) n.succ_pos)
  by_cases last : p.level.toNat = 255
  · -- after the last level comes level zero, which the sums number 256
    have zero : (c.ding p).level.toNat = 0 := by
      change (p.level + 1).toNat = 0
      rw [UInt8.toNat_add, last]
      rfl
    have shift := sum_required_shift (c := c) 0 n
    rw [zero] at level paid
    rw [Nat.zero_add] at shift paid
    refine ⟨rest.settled, by rw [level, last]; omega, ?_, fun few => ?_⟩
    · rw [sum, last, show 255 + (n + 1) = n + 256 by omega, shift]
      rw [last] at first
      omega
    · have below := due.below
      omega
  · have next := ding_level (c := c) (p := p) (by omega)
    rw [next] at level paid within
    refine ⟨rest.settled, by rw [level]; congr 1; omega, ?_, fun few => ?_⟩
    · rw [sum, show p.level.toNat + (n + 1) = p.level.toNat + 1 + n by omega]
      omega
    · have bound := within few
      omega

lemma levelUp_levels {fuel : ℕ} {oldLevel : UInt32} {dings : List Ding}
    (run : c.levelUp fuel oldLevel p = some (q, dings)) : ∃ n, Levels c p q n := by
  induction fuel generalizing oldLevel p dings with
  | zero =>
    rw [levelUp] at run
    split at run
    · cases run
    · next settled =>
      cases run
      exact ⟨0, .zero settled⟩
  | succ fuel ih =>
    rw [levelUp] at run
    split at run
    · next due =>
      obtain ⟨_, hf, hs⟩ := Option.map_eq_some_iff.mp run
      cases hs
      obtain ⟨n, rest⟩ := ih hf
      exact ⟨n + 1, rest.ding due⟩
    · next settled =>
      cases run
      exact ⟨0, .zero settled⟩

lemma sum_required_le {m n n' : ℕ} (le : n ≤ n') :
    ∑ ℓ ∈ Finset.Ico m n, c.required ℓ ≤ ∑ ℓ ∈ Finset.Ico m n', c.required ℓ :=
  Finset.sum_le_sum_of_subset (Finset.Ico_subset_Ico le_rfl le)

lemma Levels.within_of_stays {n : ℕ} (levels : Levels c p q n)
    (stays : c.Stays p.level.toNat p.experience.toNat) : p.level.toNat + n < 256 := by
  obtain few | short := stays
  · exact levels.within few
  · by_contra around
    have paid := levels.paid
    have less := sum_required_le (c := c) (m := p.level.toNat) (not_lt.mp around)
    omega

/-- A sum of experience that comes out over levels that were not left twice is the sum of the words,
and the level did not start again. -/
lemma Levels.stays {n total : ℕ} (levels : Levels c p q n)
    (up : p.level.toNat ≤ q.level.toNat) (le : p.experience.toNat ≤ total)
    (spent : total = q.experience.toNat +
      ∑ ℓ ∈ Finset.Ico p.level.toNat q.level.toNat, c.required ℓ) :
    p.experience.toNat = total ∧ c.Stays p.level.toNat total := by
  have paid := levels.paid
  have level := levels.level
  have small := q.level.toNat_lt
  have next := Finset.sum_Ico_succ_top up c.required
  by_cases around : p.level.toNat + n < 256
  · rw [Nat.mod_eq_of_lt around] at level
    rw [← level] at paid
    refine ⟨by omega, ?_⟩
    obtain short | most := levels.settled
    · have more := sum_required_le (c := c) (m := p.level.toNat)
        (show q.level.toNat + 1 ≤ 256 by omega)
      exact .inr (by omega)
    · exact .inl (by omega)
  · -- the level that was reached was left before, so it requires nothing and is the last
    have more := sum_required_le (c := c) (m := p.level.toNat)
      (show q.level.toNat + 1 ≤ p.level.toNat + n by omega)
    obtain short | most := levels.settled
    · omega
    · exact absurd (levels.within (by omega)) around

/-! ### What is credited -/

lemma credited_eq_zero_iff {xp : UInt32} (enabled : c.CONFIG_GUILD_LEVELING_ENABLED = true) :
    c.credited xp p = 0 ↔ c.Idle xp p := by
  have left : c.CONFIG_GUILD_DAILY_XP_CAP - p.todayExperience.toUInt32 = 0 ↔
      p.todayExperience.toUInt32 = c.CONFIG_GUILD_DAILY_XP_CAP := by
    rw [UInt32.sub_eq_iff_eq_add, UInt32.zero_add, eq_comm]
  have cut : ∀ a b : UInt32, min a b = 0 ↔ a = 0 ∨ b = 0 := fun a b => by
    simp only [← UInt32.toNat_inj, UInt32.toNat_min, UInt32.toNat_zero]
    omega
  unfold credited Idle
  by_cases most : c.CONFIG_GUILD_MAX_LEVEL ≤ p.level.toUInt32 <;>
    by_cases capped : p.level < GUILD_EXPERIENCE_UNCAPPED_LEVEL <;>
    simp only [most, capped, enabled, cut, left, if_true, if_false, true_or, or_true, true_and,
      false_and, false_or, or_false, Bool.true_eq_false]

lemma credited_toNat {xp : UInt32} (active : ¬ c.Idle xp p)
    (left : p.level < GUILD_EXPERIENCE_UNCAPPED_LEVEL →
      p.todayExperience.toNat ≤ c.CONFIG_GUILD_DAILY_XP_CAP.toNat) :
    (c.credited xp p).toNat = c.gain xp p := by
  have below : ¬ c.CONFIG_GUILD_MAX_LEVEL ≤ p.level.toUInt32 := fun most =>
    active (.inr (.inr (.inl most)))
  unfold credited gain
  dsimp only
  split
  · next capped =>
    have room := left capped
    have bound := c.CONFIG_GUILD_DAILY_XP_CAP.toNat_lt
    have today : p.todayExperience.toUInt32.toNat = p.todayExperience.toNat := by
      rw [UInt64.toNat_toUInt32]
      exact Nat.mod_eq_of_lt (by omega)
    have rest : (c.CONFIG_GUILD_DAILY_XP_CAP - p.todayExperience.toUInt32).toNat =
        c.CONFIG_GUILD_DAILY_XP_CAP.toNat - p.todayExperience.toNat := by
      rw [UInt32.toNat_sub_of_le _ _ (UInt32.le_iff_toNat_le.mpr (by omega)), today]
    rw [UInt32.toNat_min, rest]
  · rfl

lemma GiveXP_idle {xp : UInt32} (idle : c.Idle xp p) :
    ∃ given, (∀ fuel, c.GiveXP fuel xp p = some given) ∧ given.progress = p ∧
      given.credit = 0 := by
  unfold GiveXP
  split
  · next enabled =>
    have nothing := (credited_eq_zero_iff enabled).mpr idle
    refine ⟨_, fun _ => if_pos nothing, ?_, ?_⟩
    · rw [nothing]
      simp [gained]
    · rw [nothing]
      rfl
  · exact ⟨_, fun _ => rfl, rfl, rfl⟩

lemma enabled_of_active {xp : UInt32} (active : ¬ c.Idle xp p) :
    c.CONFIG_GUILD_LEVELING_ENABLED = true := by
  by_contra disabled
  exact active (.inl (Bool.eq_false_iff.mpr disabled))

lemma GiveXP_active {xp : UInt32} (active : ¬ c.Idle xp p) (fuel : ℕ) :
    c.GiveXP fuel xp p =
      (c.levelUp fuel p.level.toUInt32 (gained (c.credited xp p) p)).map fun (q, dings) =>
        ⟨q, some (c.credited xp p).toUInt64, dings⟩ := by
  have enabled := enabled_of_active active
  have some : c.credited xp p ≠ 0 := mt (credited_eq_zero_iff enabled).mp active
  unfold GiveXP
  rw [if_pos enabled]
  exact if_neg some

lemma gained_experience (xp : UInt32) (p : GuildProgress) :
    (gained xp p).experience.toNat = (p.experience.toNat + xp.toNat) % 2 ^ 64 := by
  change (p.experience + xp.toUInt64).toNat = _
  rw [UInt64.toNat_add, UInt32.toNat_toUInt64]

lemma levels_of_gives {xp : UInt32} {given : GivenXP} (active : ¬ c.Idle xp p)
    (gives : c.Gives xp p given) :
    given.credit = (c.credited xp p).toNat ∧
      ∃ n, Levels c (gained (c.credited xp p) p) given.progress n := by
  obtain ⟨enough, gives⟩ := gives
  have given := gives enough le_rfl
  rw [GiveXP_active active] at given
  obtain ⟨⟨q, dings⟩, run, rfl⟩ := Option.map_eq_some_iff.mp given
  exact ⟨UInt32.toNat_toUInt64 _, levelUp_levels run⟩

lemma exists_gives {xp : UInt32} (active : ¬ c.Idle xp p)
    (stays : c.Stays p.level.toNat (gained (c.credited xp p) p).experience.toNat) :
    ∃ given, c.Gives xp p given := by
  obtain ⟨q, dings, run⟩ :=
    levelUp_some 256 p.level.toUInt32 (gained (c.credited xp p) p) stays (by omega)
  refine ⟨⟨q, some (c.credited xp p).toUInt64, dings⟩, 256, fun fuel enough => ?_⟩
  rw [GiveXP_active active, levelUp_more run enough]
  rfl

end GuildLeveling

open GuildLeveling

variable {c : GuildLeveling} {p : GuildProgress} {xp : UInt32} {given : GivenXP}

lemma Credits.left (credits : Credits c p given) (active : ¬ c.Idle xp p)
    (gives : c.Gives xp p given) (below : p.level < GUILD_EXPERIENCE_UNCAPPED_LEVEL) :
    p.todayExperience.toNat ≤ c.CONFIG_GUILD_DAILY_XP_CAP.toNat := by
  by_contra lowered
  have capped := credits.capped below
  rw [(levels_of_gives active gives).1] at capped
  have nothing : c.credited xp p = 0 := by
    rw [← UInt32.toNat_inj, UInt32.toNat_zero]
    omega
  exact active ((credited_eq_zero_iff (enabled_of_active active)).mp nothing)

lemma Credits.small (credits : Credits c p given) (active : ¬ c.Idle xp p)
    (gives : c.Gives xp p given) :
    p.experience.toNat + c.gain xp p < 2 ^ 64 ∧
      c.Stays p.level.toNat (p.experience.toNat + c.gain xp p) := by
  obtain ⟨credit, n, levels⟩ := levels_of_gives active gives
  have spent := credits.spent
  have amount := credited_toNat active (credits.left active gives)
  have start := gained_experience (c.credited xp p) p
  rw [credit, amount, Nat.add_comm] at spent
  rw [amount] at start
  obtain ⟨hs, stays⟩ := levels.stays credits.level (by rw [start]; exact Nat.mod_le _ _) spent
  refine ⟨?_, stays⟩
  rw [← hs]
  exact UInt64.toNat_lt _

/-- A gain is credited as it should be exactly when the loop is skipped with no level due, or what
was credited today is within the limit, the experience stays a word and the level does not start
again. -/
theorem GiveXP_credits_iff (c : GuildLeveling) (xp : UInt32) (p : GuildProgress) :
    (∃ given, c.Gives xp p given ∧ Credits c p given) ↔
      (c.Idle xp p → c.Settled p) ∧
      (¬ c.Idle xp p →
        (p.level < GUILD_EXPERIENCE_UNCAPPED_LEVEL →
          p.todayExperience.toNat ≤ c.CONFIG_GUILD_DAILY_XP_CAP.toNat) ∧
        p.experience.toNat + c.gain xp p < 2 ^ 64 ∧
        c.Stays p.level.toNat (p.experience.toNat + c.gain xp p)) := by
  constructor
  · rintro ⟨given, gives, credits⟩
    refine ⟨fun idle => ?_, fun active =>
      ⟨credits.left active gives, credits.small active gives⟩⟩
    obtain ⟨enough, gives⟩ := gives
    obtain ⟨_, found, same, _⟩ := GiveXP_idle idle
    have found := found enough
    rw [gives enough le_rfl] at found
    cases found
    exact same ▸ credits.settled
  · rintro ⟨idles, actives⟩
    by_cases active : c.Idle xp p
    · obtain ⟨given, gives, same, nothing⟩ := GiveXP_idle active
      refine ⟨given, ⟨0, fun fuel _ => gives fuel⟩, ?_, ?_, fun _ => ?_, ?_⟩
      · rw [same]
        exact idles active
      · rw [same]
      · rw [nothing]
        exact Nat.zero_le _
      · rw [same, nothing, Finset.Ico_self, Finset.sum_empty, Nat.zero_add, Nat.add_zero]
    · obtain ⟨left, small, stays⟩ := actives active
      have amount := credited_toNat active left
      have start : (gained (c.credited xp p) p).experience.toNat =
          p.experience.toNat + c.gain xp p := by
        rw [gained_experience, amount, Nat.mod_eq_of_lt small]
      rw [← start] at stays
      obtain ⟨given, gives⟩ := exists_gives active stays
      obtain ⟨credit, n, levels⟩ := levels_of_gives active gives
      have within := levels.within_of_stays stays
      have level := levels.level
      have paid := levels.paid
      rw [Nat.mod_eq_of_lt within] at level
      rw [← level, start] at paid
      refine ⟨given, gives, levels.settled, ?_, fun below => ?_, ?_⟩
      · rw [level]
        exact Nat.le_add_right _ _
      · rw [credit, amount, gain, if_pos below]
        exact Nat.min_le_right _ _
      · rw [credit, amount, Nat.add_comm]
        exact paid.symm

/-- A limit that was lowered during the day is not kept. -/
theorem GiveXP_beyond_cap :
    ¬ ∀ (c : GuildLeveling) (xp : UInt32) (p : GuildProgress),
      ∃ given, c.Gives xp p given ∧ Credits c p given := by
  intro all
  obtain ⟨given, gives, credits⟩ := all
    ⟨true, 25, 7000000, List.replicate 25 16580000, []⟩ 1000 ⟨5, 0, 7500000⟩
  have left := credits.left (by unfold Idle; decide) gives (by decide)
  exact absurd left (by decide)

end WorldServer.Guilds
