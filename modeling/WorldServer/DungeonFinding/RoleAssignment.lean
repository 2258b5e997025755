import WorldServer.DungeonFinding.Roles

/-!
# The role check finds an assignment

The check answers yes exactly when every player can be given one of his roles. As soon as the loop
meets a player with several roles, one of them can be taken away without losing the assignment, and
the blocks try them all. The check works in place: what it takes away it adds again, unless it
answers yes.
-/
namespace WorldServer.DungeonFinding

def PLAYER_ROLES : UInt8 := PLAYER_ROLE_TANK ||| PLAYER_ROLE_HEALER ||| PLAYER_ROLE_DAMAGE

namespace LfgRolesMap

structure Assignment (groles assigned : LfgRolesMap) : Prop where
  selected : List.Forall₂ (fun it new => new.1 = it.1 ∧ IsRole new.2 ∧ new.2 &&& it.2 = new.2)
    groles assigned
  tank : assigned.countRole PLAYER_ROLE_TANK ≤ 1
  healer : assigned.countRole PLAYER_ROLE_HEALER ≤ 1
  damage : assigned.countRole PLAYER_ROLE_DAMAGE ≤ 3

/-- There are no other roles than the three. -/
def Masked (groles : LfgRolesMap) : Prop := ∀ it ∈ groles, it.2 &&& PLAYER_ROLES = it.2

end LfgRolesMap

open LfgRolesMap

/-! ### Masks -/

variable {role new bit : UInt8} {groles assigned : LfgRolesMap}

lemma mask_cases (masked : role &&& PLAYER_ROLES = role) :
    role ∈ [0, 2, 4, 6, 8, 10, 12, 14] := by
  have all : ∀ n < 256, n &&& 14 = n → n ∈ [0, 2, 4, 6, 8, 10, 12, 14] := by decide +kernel
  have value : role.toNat &&& 14 = role.toNat := by
    have same := congrArg UInt8.toNat masked
    rwa [UInt8.toNat_and] at same
  have hm := all role.toNat role.toNat_lt value
  simp only [List.mem_cons, List.not_mem_nil, or_false, ← UInt8.toNat_inj] at hm ⊢
  exact hm

lemma IsRole.eq_of_single (isNew : IsRole new) (isRole : IsRole bit)
    (selected : new &&& bit = new) : new = bit := by
  revert selected
  rcases isRole with rfl | rfl | rfl <;> rcases isNew with rfl | rfl | rfl <;> decide

lemma IsRole.without (isRole : IsRole bit) (isNew : IsRole new)
    (masked : role &&& PLAYER_ROLES = role) (has : role &&& bit ≠ 0) (selected : new &&& role = new)
    (other : new ≠ bit) :
    new &&& (role - bit) = new ∧ (role - bit) &&& PLAYER_ROLES = role - bit := by
  have cases := mask_cases masked
  simp only [List.mem_cons, List.not_mem_nil, or_false] at cases
  rcases isRole with rfl | rfl | rfl <;> rcases isNew with rfl | rfl | rfl <;>
    rcases cases with rfl | rfl | rfl | rfl | rfl | rfl | rfl | rfl <;>
    first | exact absurd rfl other | exact absurd rfl has | (revert selected; decide)

lemma IsRole.alone (isNew : IsRole new) (masked : role &&& PLAYER_ROLES = role)
    (selected : new &&& role = new)
    (only : ∀ bit, IsRole bit → role &&& bit ≠ 0 → role ≠ bit → new = bit) : role = new := by
  have damage := only PLAYER_ROLE_DAMAGE (.inl rfl)
  have healer := only PLAYER_ROLE_HEALER (.inr (.inl rfl))
  have tank := only PLAYER_ROLE_TANK (.inr (.inr rfl))
  have cases := mask_cases masked
  simp only [List.mem_cons, List.not_mem_nil, or_false] at cases
  rcases isNew with rfl | rfl | rfl <;>
    rcases cases with rfl | rfl | rfl | rfl | rfl | rfl | rfl | rfl <;>
    revert selected damage healer tank <;> decide

/-! ### Assignments -/

instance : DecidablePred IsRole := fun bit =>
  inferInstanceAs (Decidable (bit = PLAYER_ROLE_DAMAGE ∨ bit = PLAYER_ROLE_HEALER ∨
    bit = PLAYER_ROLE_TANK))

lemma countRole_others (groles : LfgRolesMap) :
    groles.countRole PLAYER_ROLE_TANK + groles.countRole PLAYER_ROLE_HEALER +
      groles.countRole PLAYER_ROLE_DAMAGE + groles.countP (fun it => ¬ IsRole it.2) =
        groles.length := by
  induction groles with
  | nil => rfl
  | cons it rest ih =>
    simp only [countRole, List.countP_cons, List.length_cons] at ih ⊢
    have once : (if decide (it.2 = PLAYER_ROLE_TANK) = true then 1 else 0) +
        (if decide (it.2 = PLAYER_ROLE_HEALER) = true then 1 else 0) +
        (if decide (it.2 = PLAYER_ROLE_DAMAGE) = true then 1 else 0) +
        (if decide (¬ IsRole it.2) = true then 1 else 0) = 1 := by
      by_cases isRole : IsRole it.2
      · rcases isRole with same | same | same <;> rw [same] <;> decide
      · have none := isRole
        simp only [IsRole, not_or] at none
        rw [if_neg (by simpa using none.2.2), if_neg (by simpa using none.2.1),
          if_neg (by simpa using none.1), if_pos (decide_eq_true isRole)]
    omega

lemma countRole_total (roles : ∀ it ∈ groles, IsRole it.2) :
    groles.countRole PLAYER_ROLE_TANK + groles.countRole PLAYER_ROLE_HEALER +
      groles.countRole PLAYER_ROLE_DAMAGE = groles.length := by
  have others := countRole_others groles
  have none : groles.countP (fun it => ¬ IsRole it.2) = 0 := by
    rw [List.countP_eq_zero]
    exact fun it hm => by simpa using roles it hm
  omega

lemma isRole_of_total
    (total : groles.countRole PLAYER_ROLE_TANK + groles.countRole PLAYER_ROLE_HEALER +
      groles.countRole PLAYER_ROLE_DAMAGE = groles.length) : ∀ it ∈ groles, IsRole it.2 := by
  have others := countRole_others groles
  have none : groles.countP (fun it => ¬ IsRole it.2) = 0 := by omega
  rw [List.countP_eq_zero] at none
  exact fun it hm => by simpa using none it hm

lemma LfgRolesMap.Assignment.isRole (assignment : Assignment groles assigned) :
    ∀ it ∈ assigned, IsRole it.2 := by
  obtain ⟨selected, -, -, -⟩ := assignment
  induction selected with
  | nil => exact fun _ hm => absurd hm List.not_mem_nil
  | cons head _ ih =>
    intro it hm
    rcases List.mem_cons.mp hm with rfl | hm
    · exact head.2.1
    · exact ih it hm

lemma LfgRolesMap.Assignment.length_le (assignment : Assignment groles assigned) :
    groles.length ≤ 5 := by
  have total := countRole_total assignment.isRole
  have same := assignment.selected.length_eq
  have tank := assignment.tank
  have healer := assignment.healer
  have damage := assignment.damage
  omega

lemma forall₂_append_cons {α β : Type} {R : α → β → Prop} {before todo : List α} {it : α}
    {assigned : List β} (all : List.Forall₂ R (before ++ it :: todo) assigned) :
    ∃ done new rest, assigned = done ++ new :: rest ∧ List.Forall₂ R before done ∧ R it new ∧
      List.Forall₂ R todo rest := by
  induction before generalizing assigned with
  | nil =>
    obtain ⟨new, rest, head, tail, rfl⟩ := List.forall₂_cons_left_iff.mp all
    exact ⟨[], new, rest, rfl, .nil, head, tail⟩
  | cons first before ih =>
    obtain ⟨other, others, head, tail, rfl⟩ := List.forall₂_cons_left_iff.mp all
    obtain ⟨done, new, rest, rfl, dones, this_, rests⟩ := ih tail
    exact ⟨other :: done, new, rest, rfl, .cons head dones, this_, rests⟩

lemma assigned_eq_of_single (single : ∀ it ∈ groles, IsRole it.2)
    (selected : List.Forall₂ (fun it new => new.1 = it.1 ∧ IsRole new.2 ∧ new.2 &&& it.2 = new.2)
      groles assigned) : assigned = groles := by
  induction selected with
  | nil => rfl
  | @cons it new _ _ head _ ih =>
    have same := head.2.1.eq_of_single (single it List.mem_cons_self) head.2.2
    rw [ih fun other hm => single other (List.mem_cons_of_mem _ hm),
      Prod.ext head.1 same]

/-! ### The search finds one -/

lemma tryRole_complete {again : LfgRolesMap → Option LfgRolesMap} (withRole : UInt8 → LfgRolesMap)
    {needed count : UInt8} (finds : role &&& bit ≠ 0 → role ≠ bit → new ≠ bit →
      ∃ found, again (withRole (role - bit)) = some found) (room : role = bit → count ≠ needed) :
    (∃ found, tryRole again withRole bit needed role count = .error (some found)) ∨
      (∃ count', tryRole again withRole bit needed role count = .ok count') ∧
        (role &&& bit ≠ 0 → role ≠ bit → new = bit) := by
  unfold tryRole
  split
  next lacks => exact .inr ⟨⟨count, rfl⟩, fun has => absurd lacks has⟩
  next has =>
    split
    next several =>
      cases found : again (withRole (role - bit)) with
      | some groles => exact .inl ⟨groles, rfl⟩
      | none =>
        refine .inr ⟨⟨count, rfl⟩, fun _ _ => ?_⟩
        by_contra other
        obtain ⟨groles, found'⟩ := finds has several other
        rw [found] at found'
        cases found'
    next one =>
      rw [if_neg (room (not_not.mp one))]
      exact .inr ⟨⟨_, rfl⟩, fun _ several => absurd several one⟩

lemma countRole_cons_le (before rest : LfgRolesMap) (new : UInt64 × UInt8) :
    before.countRole new.2 + 1 ≤ countRole (before ++ new :: rest) new.2 := by
  simp only [countRole, List.countP_append, List.countP_cons]
  simp

lemma countRole_append_cons (before rest : LfgRolesMap) {new : UInt64 × UInt8}
    (same : new.2 = bit) : before.countRole bit + 1 ≤ countRole (before ++ new :: rest) bit := by
  subst same
  exact countRole_cons_le before rest new

/-- With an assignment the loop ends with one: at the latest at the first player with several roles,
or with the counters of players who have one role each. -/
lemma rolesLoop_complete {again : LfgRolesMap → Option LfgRolesMap} {before todo : LfgRolesMap}
    (complete : ∀ groles : LfgRolesMap, groles ≠ [] →
      groles.weight < LfgRolesMap.weight (before ++ todo) → groles.Masked →
      (∃ assigned, Assignment groles assigned) → ∃ found, again groles = some found)
    (masked : Masked (before ++ todo)) (assignment : Assignment (before ++ todo) assigned)
    (singles : ∀ it ∈ before, IsRole it.2) {damage healer tank : UInt8}
    (damages : Tally PLAYER_ROLE_DAMAGE LFG_DPS_NEEDED before damage)
    (healers : Tally PLAYER_ROLE_HEALER LFG_HEALERS_NEEDED before healer)
    (tanks : Tally PLAYER_ROLE_TANK LFG_TANKS_NEEDED before tank) :
    ∃ found, rolesLoop again before damage healer tank todo = some found := by
  induction todo generalizing before damage healer tank with
  | nil =>
    have few := assignment.length_le
    have total := countRole_total singles
    rw [List.append_nil] at few
    refine ⟨before, ?_⟩
    rw [rolesLoop, if_pos]
    rw [tanks.counts, healers.counts, damages.counts, total, Nat.mod_eq_of_lt (by omega)]
  | cons it todo ih =>
    obtain ⟨guid, role⟩ := it
    obtain ⟨done, new, rest, rfl, dones, ⟨sameGuid, isNew, sub⟩, rests⟩ :=
      forall₂_append_cons assignment.selected
    obtain rfl := assigned_eq_of_single singles dones
    have mask : role &&& PLAYER_ROLES = role :=
      masked (guid, role) (List.mem_append_right _ List.mem_cons_self)
    have some_ : role ≠ PLAYER_ROLE_NONE := by
      rintro rfl
      rw [PLAYER_ROLE_NONE, UInt8.and_zero] at sub
      exact isNew.ne_zero sub.symm
    -- a role that is not the assigned one can be taken away
    have finds : ∀ bit, IsRole bit → role &&& bit ≠ 0 → role ≠ bit → new.2 ≠ bit →
        ∃ found, again (done ++ (guid, role - bit) :: todo) = some found := by
      intro bit isRole has _ other
      obtain ⟨keeps, mask'⟩ := isRole.without isNew mask has sub other
      refine complete _ (by simp) (weight_taken isRole has done todo guid) ?_
        ⟨done ++ new :: rest, ⟨List.rel_append dones (.cons ⟨sameGuid, isNew, keeps⟩ rests),
          assignment.tank, assignment.healer, assignment.damage⟩⟩
      intro it hm
      rcases List.mem_append.mp hm with old | here
      · exact masked it (List.mem_append_left _ old)
      rcases List.mem_cons.mp here with rfl | later
      · exact mask'
      · exact masked it (List.mem_append_right _ (List.mem_cons_of_mem _ later))
    -- the one role that a player has is counted below the limit
    have room : ∀ bit needed count : UInt8, IsRole bit → Tally bit needed done count →
        countRole (done ++ new :: rest) bit ≤ needed.toNat → role = bit → count ≠ needed := by
      intro bit needed count isRole tally few same full
      have same : new.2 = bit := isNew.eq_of_single isRole (same ▸ sub)
      have more := countRole_append_cons done rest same
      have counts := tally.counts
      rw [full] at counts
      omega
    let withRole r : LfgRolesMap := done ++ (guid, r) :: todo
    rw [rolesLoop, if_neg some_]
    dsimp only
    rcases tryRole_complete withRole (finds PLAYER_ROLE_DAMAGE (.inl rfl))
        (room PLAYER_ROLE_DAMAGE LFG_DPS_NEEDED damage (.inl rfl) damages assignment.damage) with
      ⟨found, ended⟩ | ⟨⟨damage', goesDamage⟩, onlyDamage⟩
    · exact ⟨found, by rw [ended]⟩
    rw [goesDamage]
    rcases tryRole_complete withRole (finds PLAYER_ROLE_HEALER (.inr (.inl rfl)))
        (room PLAYER_ROLE_HEALER LFG_HEALERS_NEEDED healer (.inr (.inl rfl)) healers
          assignment.healer) with ⟨found, ended⟩ | ⟨⟨healer', goesHealer⟩, onlyHealer⟩
    · exact ⟨found, by rw [ended]⟩
    rw [goesHealer]
    dsimp only
    rcases tryRole_complete withRole (finds PLAYER_ROLE_TANK (.inr (.inr rfl)))
        (room PLAYER_ROLE_TANK LFG_TANKS_NEEDED tank (.inr (.inr rfl)) tanks
          assignment.tank) with ⟨found, ended⟩ | ⟨⟨tank', goesTank⟩, onlyTank⟩
    · exact ⟨found, by rw [ended]⟩
    rw [goesTank]
    dsimp only
    have alone : role = new.2 := by
      refine isNew.alone mask sub fun bit isRole has several => ?_
      rcases isRole with rfl | rfl | rfl
      · exact onlyDamage has several
      · exact onlyHealer has several
      · exact onlyTank has several
    have joined : done ++ (guid, role) :: todo = (done ++ [(guid, role)]) ++ todo := by simp
    refine ih ?_ (joined ▸ masked) (joined ▸ assignment) ?_
      (damages.step (.inl rfl) (by decide) guid goesDamage)
      (healers.step (.inr (.inl rfl)) (by decide) guid goesHealer)
      (tanks.step (.inr (.inr rfl)) (by decide) guid goesTank)
    · rw [← joined]
      exact complete
    · intro it hm
      rcases List.mem_append.mp hm with old | here
      · exact singles it old
      · rw [List.mem_singleton.mp here]
        exact alone ▸ isNew

lemma checkRoles_complete {fuel : ℕ} (some_ : groles ≠ []) (enough : groles.weight < fuel)
    (masked : groles.Masked) (possible : ∃ assigned, Assignment groles assigned) :
    ∃ found, checkRoles fuel groles = some found := by
  induction fuel generalizing groles with
  | zero => omega
  | succ fuel ih =>
    obtain ⟨assigned, assignment⟩ := possible
    have empty : ∀ bit needed : UInt8, Tally bit needed [] 0 := fun _ _ => ⟨rfl, Nat.zero_le _⟩
    have masked' : Masked ([] ++ groles) := masked
    rw [checkRoles, if_neg (by simpa using some_)]
    refine rolesLoop_complete (fun less some_ lighter => ih some_ ?_) masked' assignment
      (fun _ hm => absurd hm List.not_mem_nil) (empty _ _) (empty _ _) (empty _ _)
    rw [List.nil_append] at lighter
    omega

lemma Narrowed.assignment (narrowed : Narrowed groles assigned) (fits : Fits assigned)
    (few : groles.length % 256 ≤ 5 → groles.length < 256) : Assignment groles assigned := by
  have same : assigned.length = groles.length := (List.Forall₂.length_eq narrowed).symm
  have all := fits.all
  have roles : ∀ role ∈ assigned, IsRole role.2 := isRole_of_total (by
    have tank := fits.tank
    have healer := fits.healer
    have damage := fits.damage
    rw [same] at all ⊢
    rw [all, Nat.mod_eq_of_lt (few (by omega))])
  refine ⟨?_, fits.tank, fits.healer, fits.damage⟩
  clear all same few fits
  unfold Narrowed at narrowed
  induction narrowed with
  | nil => exact .nil
  | cons head _ ih =>
    exact .cons ⟨head.1, roles _ List.mem_cons_self, head.2⟩
      (ih fun other hm => roles other (List.mem_cons_of_mem _ hm))

/-! ### The check works in place -/

namespace InPlace

def roleAt (groles : LfgRolesMap) (i : ℕ) : UInt8 := (groles.getD i (0, 0)).2

def setRole (groles : LfgRolesMap) (i : ℕ) (role : UInt8) : LfgRolesMap :=
  groles.set i ((groles.getD i (0, 0)).1, role)

/-- One of the three blocks. It goes on with the new count, or ends with the answer. -/
def tryRole (again : LfgRolesMap → LfgRolesMap × Bool) (i : ℕ) (bit needed : UInt8)
    (groles : LfgRolesMap) (count : UInt8) : LfgRolesMap × Except Bool UInt8 :=
  if roleAt groles i &&& bit = 0 then (groles, .ok count)
  else if roleAt groles i ≠ bit then
    let (groles, found) := again (setRole groles i (roleAt groles i - bit))
    if found then (groles, .error true)
    else (setRole groles i (roleAt groles i + bit), .ok count)
  else if count = needed then (groles, .error false)
  else (groles, .ok (count + 1))

def rolesLoop (again : LfgRolesMap → LfgRolesMap × Bool) (groles : LfgRolesMap)
    (damage healer tank : UInt8) : List ℕ → LfgRolesMap × Bool
  | [] => (groles, tank.toNat + healer.toNat + damage.toNat = groles.length % 256)
  | i :: rest =>
    if roleAt groles i = PLAYER_ROLE_NONE then (groles, false)
    else
      match tryRole again i PLAYER_ROLE_DAMAGE LFG_DPS_NEEDED groles damage with
      | (groles, .error found) => (groles, found)
      | (groles, .ok damage) =>
        match tryRole again i PLAYER_ROLE_HEALER LFG_HEALERS_NEEDED groles healer with
        | (groles, .error found) => (groles, found)
        | (groles, .ok healer) =>
          match tryRole again i PLAYER_ROLE_TANK LFG_TANKS_NEEDED groles tank with
          | (groles, .error found) => (groles, found)
          | (groles, .ok tank) => rolesLoop again groles damage healer tank rest

def CheckGroupRoles : ℕ → LfgRolesMap → Bool → LfgRolesMap × Bool
  | 0, groles, _ => (groles, false)
  | fuel + 1, groles, leaderFlag =>
    if groles.isEmpty then (groles, false)
    else
      let groles := if leaderFlag then removeLeaderFlag groles else groles
      rolesLoop (fun groles => CheckGroupRoles fuel groles false) groles 0 0 0
        (List.range' 0 groles.length)

/-- What a search leaves: the assignment, or the roles as they were. -/
def left (found : Option LfgRolesMap) (groles : LfgRolesMap) : LfgRolesMap × Bool :=
  (found.getD groles, found.isSome)

lemma roleAt_mid (before todo : LfgRolesMap) (guid : UInt64) (role : UInt8) :
    roleAt (before ++ (guid, role) :: todo) before.length = role := by
  simp [roleAt]

lemma setRole_mid (before todo : LfgRolesMap) (guid : UInt64) (role new : UInt8) :
    setRole (before ++ (guid, role) :: todo) before.length new =
      before ++ (guid, new) :: todo := by
  simp [setRole]

section Loop

variable {again : LfgRolesMap → Option LfgRolesMap}
  {againInPlace : LfgRolesMap → LfgRolesMap × Bool}
variable (same : ∀ groles, againInPlace groles = left (again groles) groles)
  (before todo : LfgRolesMap)
include same

lemma tryRole_eq (guid : UInt64) (role bit needed count : UInt8) :
    tryRole againInPlace before.length bit needed (before ++ (guid, role) :: todo) count =
      match DungeonFinding.tryRole again (fun r => before ++ (guid, r) :: todo) bit needed role
        count with
      | .ok count => (before ++ (guid, role) :: todo, .ok count)
      | .error hf =>
        ((left hf (before ++ (guid, role) :: todo)).1, .error hf.isSome) := by
  unfold tryRole DungeonFinding.tryRole
  rw [roleAt_mid, setRole_mid, same]
  by_cases lacks : role &&& bit = 0
  · rw [if_pos lacks, if_pos lacks]
  rw [if_neg lacks, if_neg lacks]
  by_cases one : role = bit
  · rw [if_neg (not_not.mpr one), if_neg (not_not.mpr one)]
    split <;> rfl
  · rw [if_pos one, if_pos one]
    cases again (before ++ (guid, role - bit) :: todo) with
    | some groles => rfl
    | none =>
      simp only [left, Option.getD_none, Option.isSome_none, roleAt_mid, setRole_mid,
        UInt8.sub_add_cancel]
      rfl

lemma rolesLoop_eq (damage healer tank : UInt8) :
    rolesLoop againInPlace (before ++ todo) damage healer tank
        (List.range' before.length todo.length) =
      left (DungeonFinding.rolesLoop again before damage healer tank todo) (before ++ todo) := by
  induction todo generalizing before damage healer tank with
  | nil =>
    rw [DungeonFinding.rolesLoop, List.length_nil, List.range'_zero, rolesLoop, List.append_nil]
    split
    next all => rw [decide_eq_true all]; rfl
    next few => rw [decide_eq_false few]; rfl
  | cons it todo ih =>
    obtain ⟨guid, role⟩ := it
    have rest := ih (before ++ [(guid, role)])
    rw [List.length_append, List.length_singleton, List.append_assoc, List.singleton_append] at rest
    rw [List.length_cons, List.range'_succ, rolesLoop, DungeonFinding.rolesLoop, roleAt_mid]
    split
    · rfl
    · dsimp only
      rw [tryRole_eq same]
      cases DungeonFinding.tryRole again (fun r => before ++ (guid, r) :: todo) PLAYER_ROLE_DAMAGE
        LFG_DPS_NEEDED role damage with
      | error hf => rfl
      | ok damage =>
        dsimp only
        rw [tryRole_eq same]
        cases DungeonFinding.tryRole again (fun r => before ++ (guid, r) :: todo)
          PLAYER_ROLE_HEALER LFG_HEALERS_NEEDED role healer with
        | error hf => rfl
        | ok healer =>
          dsimp only
          rw [tryRole_eq same]
          cases DungeonFinding.tryRole again (fun r => before ++ (guid, r) :: todo)
            PLAYER_ROLE_TANK LFG_TANKS_NEEDED role tank with
          | error hf => rfl
          | ok tank => exact rest damage healer tank

end Loop

lemma checkRoles_eq (fuel : ℕ) (groles : LfgRolesMap) :
    CheckGroupRoles fuel groles false = left (checkRoles fuel groles) groles := by
  induction fuel generalizing groles with
  | zero => rfl
  | succ fuel ih =>
    rw [CheckGroupRoles, checkRoles]
    split
    · rfl
    · exact rolesLoop_eq ih [] groles 0 0 0

lemma CheckGroupRoles_eq {fuel : ℕ} (enough : (removeLeaderFlag groles).weight < fuel) :
    CheckGroupRoles fuel groles true = DungeonFinding.CheckGroupRoles groles := by
  have search : CheckGroupRoles fuel groles true =
      CheckGroupRoles fuel (removeLeaderFlag groles) false := by
    cases fuel with
    | zero => omega
    | succ fuel =>
      cases groles with
      | nil => rfl
      | cons it rest => rfl
  rw [search, checkRoles_eq, checkRoles_fuel enough (Nat.lt_succ_self _),
    DungeonFinding.CheckGroupRoles]
  cases checkRoles ((removeLeaderFlag groles).weight + 1) (removeLeaderFlag groles) <;> rfl

end InPlace

/-! ### The whole check -/

lemma CheckGroupRoles_found_iff (some_ : groles ≠ []) (masked : (removeLeaderFlag groles).Masked)
    (few : groles.length % 256 ≤ 5 → groles.length < 256) :
    (CheckGroupRoles groles).2 = true ↔
      ∃ assigned, Assignment (removeLeaderFlag groles) assigned := by
  have length : (removeLeaderFlag groles).length = groles.length := List.length_map _
  have some' : removeLeaderFlag groles ≠ [] := by simpa [removeLeaderFlag] using some_
  unfold CheckGroupRoles
  dsimp only
  split
  next assigned hf =>
    obtain ⟨narrowed, fits⟩ := checkRoles_sound hf
    exact iff_of_true rfl ⟨assigned, narrowed.assignment fits (length ▸ few)⟩
  next none =>
    refine iff_of_false Bool.false_ne_true fun possible => ?_
    obtain ⟨hf, here⟩ := checkRoles_complete some' (Nat.lt_succ_self _) masked possible
    rw [none] at here
    cases here

/-- The search in place comes to one end, whatever fuel above the weight it gets. It answers yes
exactly when there is an assignment, and then leaves one; else it leaves the roles as they were. -/
theorem CheckGroupRoles_assigns {groles : LfgRolesMap} (some_ : groles ≠ [])
    (masked : (removeLeaderFlag groles).Masked)
    (few : groles.length % 256 ≤ 5 → groles.length < 256) :
    ∃ assigned found,
      (∀ fuel, (removeLeaderFlag groles).weight < fuel →
        InPlace.CheckGroupRoles fuel groles true = (assigned, found)) ∧
      (found = true ↔ ∃ assigned, Assignment (removeLeaderFlag groles) assigned) ∧
      (found = true → Assignment (removeLeaderFlag groles) assigned) ∧
      (found = false → assigned = removeLeaderFlag groles) := by
  have length : (removeLeaderFlag groles).length = groles.length := List.length_map _
  refine ⟨(CheckGroupRoles groles).1, (CheckGroupRoles groles).2,
    fun fuel enough => InPlace.CheckGroupRoles_eq enough,
    CheckGroupRoles_found_iff some_ masked few, ?_⟩
  unfold CheckGroupRoles
  dsimp only
  split
  next assigned found =>
    obtain ⟨narrowed, fits⟩ := checkRoles_sound found
    exact ⟨fun _ => narrowed.assignment fits (length ▸ few), fun no => absurd no (by simp)⟩
  next none => exact ⟨fun yes => absurd yes (by simp), fun _ => rfl⟩

/-- A tank who could heal, a healer who could be the tank, and a damage dealer. -/
theorem CheckGroupRoles_assigns_three :
    ∃ assigned found,
      (∀ fuel, (removeLeaderFlag [(1, 0x07), (2, 0x06), (3, 0x08)]).weight < fuel →
        InPlace.CheckGroupRoles fuel [(1, 0x07), (2, 0x06), (3, 0x08)] true =
          (assigned, found)) ∧
      (found = true ↔ ∃ assigned,
        Assignment (removeLeaderFlag [(1, 0x07), (2, 0x06), (3, 0x08)]) assigned) ∧
      (found = true →
        Assignment (removeLeaderFlag [(1, 0x07), (2, 0x06), (3, 0x08)]) assigned) ∧
      (found = false → assigned = removeLeaderFlag [(1, 0x07), (2, 0x06), (3, 0x08)]) :=
  CheckGroupRoles_assigns (by decide)
    (by decide : ∀ it ∈ removeLeaderFlag [(1, 0x07), (2, 0x06), (3, 0x08)],
      it.2 &&& PLAYER_ROLES = it.2) (by decide)

/-- Players with several roles each are never counted, so that the loop can only end with an
assignment, or with no counts. -/
lemma rolesLoop_uncounted {again : LfgRolesMap → Option LfgRolesMap} {before todo : LfgRolesMap}
    (several : ∀ it ∈ todo, ¬ IsRole it.2 ∧ it.2 ≠ PLAYER_ROLE_NONE)
    (wraps : (before.length + todo.length) % 256 = 0) :
    (rolesLoop again before 0 0 0 todo).isSome = true := by
  induction todo generalizing before with
  | nil =>
    rw [rolesLoop, if_pos]
    · rfl
    · simpa using wraps.symm
  | cons it todo ih =>
    obtain ⟨guid, role⟩ := it
    obtain ⟨none, some_⟩ := several (guid, role) List.mem_cons_self
    have block : ∀ bit needed : UInt8, IsRole bit → ∀ withRole : UInt8 → LfgRolesMap,
        (∃ found, tryRole again withRole bit needed role 0 = .error (some found)) ∨
          tryRole again withRole bit needed role 0 = .ok 0 := by
      intro bit needed isRole withRole
      have other : role ≠ bit := fun same => none (same ▸ isRole)
      unfold tryRole
      split
      · exact .inr rfl
      · cases again (withRole (role - bit)) with
        | some groles => exact .inl ⟨groles, rfl⟩
        | none => exact .inr rfl
    have rest : (rolesLoop again (before ++ [(guid, role)]) 0 0 0 todo).isSome = true := by
      refine ih (fun other hm => several other (List.mem_cons_of_mem _ hm)) ?_
      rw [List.length_append, List.length_singleton]
      rw [List.length_cons] at wraps
      omega
    let withRole r : LfgRolesMap := before ++ (guid, r) :: todo
    rw [rolesLoop, if_neg some_]
    dsimp only
    rcases block PLAYER_ROLE_DAMAGE LFG_DPS_NEEDED (.inl rfl) withRole with
      ⟨found, ended⟩ | goes
    · rw [ended]
      rfl
    rw [goes]
    rcases block PLAYER_ROLE_HEALER LFG_HEALERS_NEEDED (.inr (.inl rfl)) withRole with
      ⟨found, ended⟩ | goes
    · rw [ended]
      rfl
    rw [goes]
    dsimp only
    rcases block PLAYER_ROLE_TANK LFG_TANKS_NEEDED (.inr (.inr rfl)) withRole with
      ⟨found, ended⟩ | goes
    · rw [ended]
      rfl
    rw [goes]
    exact rest

def tanksOrHealers (count : ℕ) : LfgRolesMap :=
  (List.range count).map fun i => (UInt64.ofNat i, 0x06)

theorem wrapped_size_found :
    ¬ ((CheckGroupRoles (tanksOrHealers 256)).2 = true ↔
      ∃ assigned, Assignment (removeLeaderFlag (tanksOrHealers 256)) assigned) := by
  have length : (removeLeaderFlag (tanksOrHealers 256)).length = 256 := by
    simp [removeLeaderFlag, tanksOrHealers]
  intro same
  have found : (CheckGroupRoles (tanksOrHealers 256)).2 = true := by
    have some_ : (checkRoles ((removeLeaderFlag (tanksOrHealers 256)).weight + 1)
        (removeLeaderFlag (tanksOrHealers 256))).isSome = true := by
      rw [checkRoles, if_neg (by rw [List.isEmpty_iff_length_eq_zero, length]; decide)]
      refine rolesLoop_uncounted (fun it member => ?_) (by rw [length]; rfl)
      simp only [removeLeaderFlag, tanksOrHealers, List.map_map, List.mem_map] at member
      obtain ⟨i, -, rfl⟩ := member
      dsimp only [Function.comp_apply]
      decide
    obtain ⟨assigned, here⟩ := Option.isSome_iff_exists.mp some_
    rw [CheckGroupRoles, here]
  obtain ⟨assigned, assignment⟩ := same.mp found
  have few := assignment.length_le
  omega

end WorldServer.DungeonFinding
