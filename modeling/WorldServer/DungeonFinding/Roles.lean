import Mathlib.Algebra.BigOperators.Group.List.Basic
import Mathlib.Data.UInt
import WorldServer.Lib.Word

/-!
# The role check

Whoever queues selects any of the three roles. A list of players fits a group if each of them can
be given one of his roles, so that there are at most one tank, one healer and three damage dealers.
The check searches by backtracking: it takes a role from a player who still has several, and tries
the whole list again.
-/
namespace WorldServer.DungeonFinding

def PLAYER_ROLE_NONE : UInt8 := 0x00
def PLAYER_ROLE_LEADER : UInt8 := 0x01
def PLAYER_ROLE_TANK : UInt8 := 0x02
def PLAYER_ROLE_HEALER : UInt8 := 0x04
def PLAYER_ROLE_DAMAGE : UInt8 := 0x08

def LFG_TANKS_NEEDED : UInt8 := 1
def LFG_HEALERS_NEEDED : UInt8 := 1
def LFG_DPS_NEEDED : UInt8 := 3

abbrev LfgRolesMap := List (UInt64 × UInt8)

namespace LfgRolesMap

def keys (groles : LfgRolesMap) : List UInt64 := groles.map Prod.fst

def weight (groles : LfgRolesMap) : ℕ := (groles.map fun it => it.2.toNat).sum

def countRole (groles : LfgRolesMap) (role : UInt8) : ℕ := groles.countP fun it => it.2 = role

end LfgRolesMap

/-! ### The search -/

/-- One of the three blocks of the loop, for the player who has `role`: `bit` is the role of the
block and `needed` the number of players it takes. The search goes on with the new count, or ends;
`again` is the check of the changed list. -/
def tryRole (again : LfgRolesMap → Option LfgRolesMap) (withRole : UInt8 → LfgRolesMap)
    (bit needed role count : UInt8) : Except (Option LfgRolesMap) UInt8 :=
  if role &&& bit = 0 then .ok count
  else if role ≠ bit then
    match again (withRole (role - bit)) with
    | some groles => .error (some groles)
    -- the role is added again
    | none => .ok count
  else if count = needed then .error none
  else .ok (count + 1)

/-- The loop over the players, of whom those in `before` are done. -/
def rolesLoop (again : LfgRolesMap → Option LfgRolesMap) (before : LfgRolesMap)
    (damage healer tank : UInt8) : LfgRolesMap → Option LfgRolesMap
  | [] =>
    if tank.toNat + healer.toNat + damage.toNat = before.length % 256 then some before else none
  | (guid, role) :: todo =>
    if role = PLAYER_ROLE_NONE then none
    else
      let withRole r := before ++ (guid, r) :: todo
      match tryRole again withRole PLAYER_ROLE_DAMAGE LFG_DPS_NEEDED role damage with
      | .error found => found
      | .ok damage =>
        match tryRole again withRole PLAYER_ROLE_HEALER LFG_HEALERS_NEEDED role healer with
        | .error found => found
        | .ok healer =>
          match tryRole again withRole PLAYER_ROLE_TANK LFG_TANKS_NEEDED role tank with
          | .error found => found
          | .ok tank => rolesLoop again (before ++ [(guid, role)]) damage healer tank todo

/-- `CheckGroupRoles` without the leader flags. A check that fails leaves the roles as they were. -/
def checkRoles : ℕ → LfgRolesMap → Option LfgRolesMap
  | 0, _ => none
  | fuel + 1, groles =>
    if groles.isEmpty then none else rolesLoop (checkRoles fuel) [] 0 0 0 groles

def removeLeaderFlag (groles : LfgRolesMap) : LfgRolesMap :=
  groles.map fun it => (it.1, it.2 &&& ~~~PLAYER_ROLE_LEADER)

def CheckGroupRoles (groles : LfgRolesMap) : LfgRolesMap × Bool :=
  let groles := removeLeaderFlag groles
  match checkRoles (groles.weight + 1) groles with
  | some assigned => (assigned, true)
  | none => (groles, false)

example : CheckGroupRoles [(1, 0x0F), (2, 0x06), (3, 0x08)] =
    ([(1, 0x02), (2, 0x04), (3, 0x08)], true) := by decide +kernel

/-! ### What the search finds -/

/-- The three roles that are checked. -/
def IsRole (bit : UInt8) : Prop :=
  bit = PLAYER_ROLE_DAMAGE ∨ bit = PLAYER_ROLE_HEALER ∨ bit = PLAYER_ROLE_TANK

lemma IsRole.taken {bit role : UInt8} (isRole : IsRole bit) (has : role &&& bit ≠ 0) :
    (role - bit) &&& role = role - bit ∧ (role - bit).toNat < role.toNat := by
  have all : ∀ n < 256, ∀ b ∈ [8, 4, 2],
      n &&& b ≠ 0 → b ≤ n ∧ (n - b) &&& n = n - b ∧ n - b < n := by
    decide +kernel
  have hm : bit.toNat ∈ [8, 4, 2] := by
    rcases isRole with rfl | rfl | rfl <;> decide
  have some : role.toNat &&& bit.toNat ≠ 0 := by
    exact fun none => has (UInt8.toNat_inj.mp none)
  obtain ⟨le, keeps, less⟩ := all role.toNat role.toNat_lt bit.toNat hm some
  have value := UInt8.toNat_sub_of_le _ _ (UInt8.le_iff_toNat_le.mpr le)
  refine ⟨UInt8.toNat_inj.mp ?_, value ▸ less⟩
  rw [UInt8.toNat_and, value, keeps]

lemma IsRole.ne_zero {bit : UInt8} (isRole : IsRole bit) : bit ≠ 0 := by
  rcases isRole with rfl | rfl | rfl <;> decide

/-- Nobody has gained a role, and nobody is lost. -/
def Narrowed (groles assigned : LfgRolesMap) : Prop :=
  List.Forall₂ (fun it new => new.1 = it.1 ∧ new.2 &&& it.2 = new.2) groles assigned

lemma Narrowed.refl (groles : LfgRolesMap) : Narrowed groles groles :=
  List.forall₂_same.mpr fun _ _ => ⟨rfl, UInt8.and_self⟩

lemma Narrowed.trans {a b c : LfgRolesMap} (first : Narrowed a b) (next : Narrowed b c) :
    Narrowed a c := by
  induction first generalizing c with
  | nil => exact next
  | cons head _ ih =>
    cases next with
    | cons head' tail' =>
      refine .cons ⟨head'.1.trans head.1, ?_⟩ (ih tail')
      rw [← head'.2, UInt8.and_assoc, head.2]

lemma Narrowed.of_taken {bit role : UInt8} (isRole : IsRole bit) (has : role &&& bit ≠ 0)
    (before todo : LfgRolesMap) (guid : UInt64) :
    Narrowed (before ++ (guid, role) :: todo) (before ++ (guid, role - bit) :: todo) :=
  List.rel_append (Narrowed.refl before)
    (.cons ⟨rfl, (isRole.taken has).1⟩ (Narrowed.refl todo))

variable {groles assigned before : LfgRolesMap}

lemma Narrowed.keys_eq (narrowed : Narrowed groles assigned) : assigned.keys = groles.keys := by
  induction narrowed with
  | nil => rfl
  | cons head _ ih =>
    simp only [LfgRolesMap.keys, List.map_cons, head.1] at ih ⊢
    rw [ih]

lemma Narrowed.selected (narrowed : Narrowed groles assigned) {new : UInt64 × UInt8}
    (hm : new ∈ assigned) : ∃ it ∈ groles, new.1 = it.1 ∧ new.2 &&& it.2 = new.2 := by
  induction narrowed with
  | nil => cases hm
  | cons head _ ih =>
    rcases List.mem_cons.mp hm with rfl | hm
    · exact ⟨_, List.mem_cons_self, head⟩
    · obtain ⟨it, inTail, selected⟩ := ih hm
      exact ⟨it, List.mem_cons_of_mem _ inTail, selected⟩

/-- What a check that succeeds says of the roles it leaves. -/
structure Fits (assigned : LfgRolesMap) : Prop where
  damage : assigned.countRole PLAYER_ROLE_DAMAGE ≤ 3
  healer : assigned.countRole PLAYER_ROLE_HEALER ≤ 1
  tank : assigned.countRole PLAYER_ROLE_TANK ≤ 1
  all : assigned.countRole PLAYER_ROLE_TANK + assigned.countRole PLAYER_ROLE_HEALER +
    assigned.countRole PLAYER_ROLE_DAMAGE = assigned.length % 256

structure Tally (bit needed : UInt8) (before : LfgRolesMap) (count : UInt8) : Prop where
  counts : count.toNat = before.countRole bit
  enough : count.toNat ≤ needed.toNat

lemma LfgRolesMap.countRole_append_singleton (before : LfgRolesMap) (guid : UInt64)
    (role bit : UInt8) : LfgRolesMap.countRole (before ++ [(guid, role)]) bit =
      before.countRole bit + if role = bit then 1 else 0 := by
  simp [LfgRolesMap.countRole, List.countP_append, List.countP_cons]

section Blocks

variable {again : LfgRolesMap → Option LfgRolesMap} {withRole : UInt8 → LfgRolesMap}
  {bit needed role count : UInt8}

lemma tryRole_error
    (ended : tryRole again withRole bit needed role count = .error (some assigned)) :
    role &&& bit ≠ 0 ∧ again (withRole (role - bit)) = some assigned := by
  unfold tryRole at ended
  split at ended
  · cases ended
  next has =>
    split at ended
    · split at ended
      next hf =>
        cases ended
        exact ⟨has, hf⟩
      · cases ended
    · split at ended <;> cases ended

lemma Tally.step {count' : UInt8} (isRole : IsRole bit) (small : needed.toNat < 255)
    (tally : Tally bit needed before count) (guid : UInt64)
    (goes : tryRole again withRole bit needed role count = .ok count') :
    Tally bit needed (before ++ [(guid, role)]) count' := by
  unfold tryRole at goes
  split at goes
  next lacks =>
    have other : role ≠ bit := by
      rintro rfl
      exact isRole.ne_zero (UInt8.and_self.symm.trans lacks)
    cases goes
    exact ⟨by simpa [LfgRolesMap.countRole_append_singleton, other] using tally.counts,
      tally.enough⟩
  · split at goes
    next other =>
      split at goes <;> cases goes
      exact ⟨by simpa [LfgRolesMap.countRole_append_singleton, other] using tally.counts,
        tally.enough⟩
    next hs =>
      have hs : role = bit := not_not.mp hs
      split at goes
      · cases goes
      next room =>
        cases goes
        have enough := tally.enough
        have below : count.toNat ≠ needed.toNat := fun eq => room (UInt8.toNat_inj.mp eq)
        have next : (count + 1).toNat = count.toNat + 1 := Lib.toNat_add_one (by omega)
        refine ⟨?_, by omega⟩
        rw [next, LfgRolesMap.countRole_append_singleton, if_pos hs, tally.counts]

end Blocks

section Loop

variable {again : LfgRolesMap → Option LfgRolesMap}

lemma rolesLoop_sound (sound : ∀ groles assigned, again groles = some assigned →
      Narrowed groles assigned ∧ Fits assigned) {todo : LfgRolesMap} {damage healer tank : UInt8}
    (damages : Tally PLAYER_ROLE_DAMAGE LFG_DPS_NEEDED before damage)
    (healers : Tally PLAYER_ROLE_HEALER LFG_HEALERS_NEEDED before healer)
    (tanks : Tally PLAYER_ROLE_TANK LFG_TANKS_NEEDED before tank)
    (hf : rolesLoop again before damage healer tank todo = some assigned) :
    Narrowed (before ++ todo) assigned ∧ Fits assigned := by
  induction todo generalizing before damage healer tank with
  | nil =>
    rw [rolesLoop] at hf
    split at hf
    next all =>
      cases hf
      rw [tanks.counts, healers.counts, damages.counts] at all
      refine ⟨by simpa using Narrowed.refl assigned, ?_, ?_, ?_, all⟩
      · rw [← damages.counts]; exact damages.enough
      · rw [← healers.counts]; exact healers.enough
      · rw [← tanks.counts]; exact tanks.enough
    · cases hf
  | cons it todo ih =>
    obtain ⟨guid, role⟩ := it
    -- a block that ends the loop has found the roles with one role less
    have ended : ∀ {bit needed count : UInt8}, IsRole bit →
        tryRole again (fun r => before ++ (guid, r) :: todo) bit needed role count =
          .error (some assigned) →
        Narrowed (before ++ (guid, role) :: todo) assigned ∧ Fits assigned := by
      intro bit needed count isRole ended
      obtain ⟨has, hf⟩ := tryRole_error ended
      obtain ⟨narrowed, fits⟩ := sound _ _ hf
      exact ⟨(Narrowed.of_taken isRole has before todo guid).trans narrowed, fits⟩
    have isDamage : IsRole PLAYER_ROLE_DAMAGE := .inl rfl
    have isHealer : IsRole PLAYER_ROLE_HEALER := .inr (.inl rfl)
    have isTank : IsRole PLAYER_ROLE_TANK := .inr (.inr rfl)
    rw [rolesLoop] at hf
    split at hf
    · cases hf
    · dsimp only at hf
      split at hf
      next here =>
        subst hf
        exact ended isDamage here
      next goesDamage =>
        split at hf
        next here =>
          subst hf
          exact ended isHealer here
        next goesHealer =>
          split at hf
          next here =>
            subst hf
            exact ended isTank here
          next goesTank =>
            have rest := ih (damages.step isDamage (by decide) guid goesDamage)
              (healers.step isHealer (by decide) guid goesHealer)
              (tanks.step isTank (by decide) guid goesTank) hf
            simpa using rest

end Loop

lemma checkRoles_sound {fuel : ℕ} (hf : checkRoles fuel groles = some assigned) :
    Narrowed groles assigned ∧ Fits assigned := by
  induction fuel generalizing groles assigned with
  | zero => cases hf
  | succ fuel ih =>
    rw [checkRoles] at hf
    split at hf
    · cases hf
    · have empty : ∀ bit needed : UInt8, Tally bit needed [] 0 := fun _ _ => ⟨rfl, Nat.zero_le _⟩
      exact rolesLoop_sound (fun _ _ => ih) (empty _ _) (empty _ _) (empty _ _) hf

/-! ### The search ends -/

lemma LfgRolesMap.weight_taken {bit role : UInt8} (isRole : IsRole bit) (has : role &&& bit ≠ 0)
    (before todo : LfgRolesMap) (guid : UInt64) :
    LfgRolesMap.weight (before ++ (guid, role - bit) :: todo) <
      LfgRolesMap.weight (before ++ (guid, role) :: todo) := by
  have less := (isRole.taken has).2
  simp only [LfgRolesMap.weight, List.map_append, List.map_cons, List.sum_append, List.sum_cons]
  omega

lemma tryRole_congr {again again' : LfgRolesMap → Option LfgRolesMap}
    {withRole : UInt8 → LfgRolesMap} {bit role : UInt8}
    (hs : role &&& bit ≠ 0 → again (withRole (role - bit)) = again' (withRole (role - bit)))
    (needed count : UInt8) :
    tryRole again withRole bit needed role count =
      tryRole again' withRole bit needed role count := by
  unfold tryRole
  by_cases has : role &&& bit = 0
  · simp [has]
  · rw [hs has]

lemma rolesLoop_congr {again again' : LfgRolesMap → Option LfgRolesMap} {todo : LfgRolesMap}
    (hs : ∀ groles : LfgRolesMap, groles.weight < LfgRolesMap.weight (before ++ todo) →
      again groles = again' groles) (damage healer tank : UInt8) :
    rolesLoop again before damage healer tank todo =
      rolesLoop again' before damage healer tank todo := by
  induction todo generalizing before damage healer tank with
  | nil => rfl
  | cons it todo ih =>
    obtain ⟨guid, role⟩ := it
    have block : ∀ {bit : UInt8}, IsRole bit → ∀ needed count,
        tryRole again (fun r => before ++ (guid, r) :: todo) bit needed role count =
          tryRole again' (fun r => before ++ (guid, r) :: todo) bit needed role count :=
      fun isRole needed count => tryRole_congr
        (fun has => hs _ (LfgRolesMap.weight_taken isRole has before todo guid)) needed count
    have rest : ∀ damage healer tank,
        rolesLoop again (before ++ [(guid, role)]) damage healer tank todo =
          rolesLoop again' (before ++ [(guid, role)]) damage healer tank todo :=
      fun damage healer tank => ih (by simpa using hs) damage healer tank
    simp only [rolesLoop, block (.inl rfl), block (.inr (.inl rfl)), block (.inr (.inr rfl)), rest]

lemma checkRoles_fuel {fuel fuel' : ℕ} (enough : groles.weight < fuel)
    (enough' : groles.weight < fuel') : checkRoles fuel groles = checkRoles fuel' groles := by
  induction fuel generalizing fuel' groles with
  | zero => omega
  | succ fuel ih =>
    cases fuel' with
    | zero => omega
    | succ fuel' =>
      rw [checkRoles, checkRoles, rolesLoop_congr]
      intro less lighter
      rw [List.nil_append] at lighter
      exact ih (by omega) (by omega)

lemma removeLeaderFlag_narrowed (groles : LfgRolesMap) :
    Narrowed groles (removeLeaderFlag groles) := by
  unfold Narrowed removeLeaderFlag
  rw [List.forall₂_map_right_iff]
  refine List.forall₂_same.mpr fun it _ => ⟨rfl, ?_⟩
  rw [UInt8.and_comm, ← UInt8.and_assoc, UInt8.and_self]

lemma CheckGroupRoles_sound (hf : (CheckGroupRoles groles).2 = true) :
    Narrowed groles (CheckGroupRoles groles).1 ∧ Fits (CheckGroupRoles groles).1 := by
  unfold CheckGroupRoles at *
  dsimp only at *
  split at hf
  next assigned here =>
    obtain ⟨narrowed, fits⟩ := checkRoles_sound here
    exact ⟨(removeLeaderFlag_narrowed groles).trans narrowed, fits⟩
  · cases hf

lemma Fits.full (fits : Fits assigned) (five : assigned.length = 5) :
    assigned.countRole PLAYER_ROLE_TANK = 1 ∧ assigned.countRole PLAYER_ROLE_HEALER = 1 ∧
      assigned.countRole PLAYER_ROLE_DAMAGE = 3 := by
  have all := fits.all
  have damage := fits.damage
  have healer := fits.healer
  have tank := fits.tank
  omega

end WorldServer.DungeonFinding
