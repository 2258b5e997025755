import Mathlib.Data.Finset.Sort
import WorldServer.Lib.Run
import WorldServer.Lib.Worklist

/-!
# Role-based access control

An account is granted and denied permissions, and a permission is linked to others that come with
it. Every change of the grants and denials recalculates what the account is permitted to do: what
the granted permissions lead to, from which everything that the denied ones lead to should be taken
away. The recalculation takes the one from the other the wrong way round, so that denials have no
effect.
-/
namespace WorldServer.Accounts

open Relation WorldServer.Lib

abbrev RBACPermissionContainer := Finset ℕ

structure AccountMgr where
  _permissions : Table ℕ RBACPermissionContainer
  _defaultPermissions : ℕ → RBACPermissionContainer

/-- A link between two permissions that there are. -/
def AccountMgr.LinksTo (mgr : AccountMgr) (a b : ℕ) : Prop :=
  a ∈ mgr._permissions ∧ b ∈ mgr._permissions ∧ Links mgr._permissions a b

inductive RBACCommandResult where
  | ok
  | cantAddAlreadyAdded
  | cantRevokeNotInList
  | inGrantedList
  | inDeniedList
  | idDoesNotExist
  deriving DecidableEq

structure RBACData where
  _secLevel : ℕ
  _grantedPerms : RBACPermissionContainer
  _deniedPerms : RBACPermissionContainer
  _globalPerms : RBACPermissionContainer

namespace RBACData

variable (mgr : AccountMgr) (rbac : RBACData)

/-! ### Effective permissions -/

def HasPermission (freePermissionMode : Bool) (permission : ℕ) : Bool :=
  freePermissionMode || permission ∈ rbac._globalPerms

lemma HasPermission_iff (permission : ℕ) :
    rbac.HasPermission false permission = true ↔ permission ∈ rbac._globalPerms := by
  simp [HasPermission]

def ExpandPermissions (permissions : RBACPermissionContainer) : RBACPermissionContainer :=
  (Worklist.start permissions).expand mgr._permissions

variable {mgr} in
/-- Whatever links to something is a permission that there is, so on the way to a known permission
only the start and the end are in question. -/
lemma linksTo_of_links {a b : ℕ} (way : ReflTransGen (Links mgr._permissions) a b)
    (known : b ∈ mgr._permissions) :
    a ∈ mgr._permissions ∧ ReflTransGen mgr.LinksTo a b := by
  -- from the end of the way back to its start, as only the end is known to be there
  induction way using ReflTransGen.head_induction_on with
  | refl => exact ⟨known, .refl⟩
  | @head a b link _ ih =>
    obtain ⟨linked, here, _⟩ := id link
    have there : a ∈ mgr._permissions := AList.lookup_isSome.mp (by simp [here])
    exact ⟨there, .head ⟨there, ih.1, link⟩ ih.2⟩

/-- The expansion ends, whatever cycles and dangling ids there are among the links, with the
permissions that there are and that those of the start lead to. -/
theorem mem_ExpandPermissions_iff (permissions : RBACPermissionContainer) (p : ℕ) :
    p ∈ ExpandPermissions mgr permissions ↔
      ∃ s ∈ permissions, s ∈ mgr._permissions ∧ ReflTransGen mgr.LinksTo s p := by
  refine (Worklist.mem_expand_start permissions p).trans ⟨?_, ?_⟩
  · rintro ⟨known, s, member, way⟩
    exact ⟨s, member, linksTo_of_links way known⟩
  · rintro ⟨s, member, known, way⟩
    refine ⟨?_, s, member, ReflTransGen.mono (fun _ _ link => link.2.2) _ _ way⟩
    cases way with
    | refl => exact known
    | tail _ link => exact link.2.1

/-- `RemovePermissions`: the second container loses what is in the first. -/
def RemovePermissions (permsFrom permsTo : RBACPermissionContainer) : RBACPermissionContainer :=
  permsTo \ permsFrom

/-- The revoked permissions lose the global ones, and nobody reads them afterwards. -/
def CalculateNewPermissions : RBACData :=
  let _globalPerms := ExpandPermissions mgr rbac._grantedPerms
  let revoked := ExpandPermissions mgr rbac._deniedPerms
  let _revoked := RemovePermissions _globalPerms revoked
  { rbac with _globalPerms }

/-! ### Changes -/

/-- While data are loaded, there is no realm and nothing is recalculated. -/
def GrantPermission (permissionId : ℕ) (realmId : ℤ) : RBACCommandResult × RBACData :=
  if permissionId ∉ mgr._permissions then (.idDoesNotExist, rbac)
  else if permissionId ∈ rbac._deniedPerms then (.inDeniedList, rbac)
  else if permissionId ∈ rbac._grantedPerms then (.cantAddAlreadyAdded, rbac)
  else
    let rbac := { rbac with _grantedPerms := insert permissionId rbac._grantedPerms }
    (.ok, if realmId ≠ 0 then rbac.CalculateNewPermissions mgr else rbac)

def DenyPermission (permissionId : ℕ) (realmId : ℤ) : RBACCommandResult × RBACData :=
  if permissionId ∉ mgr._permissions then (.idDoesNotExist, rbac)
  else if permissionId ∈ rbac._grantedPerms then (.inGrantedList, rbac)
  else if permissionId ∈ rbac._deniedPerms then (.cantAddAlreadyAdded, rbac)
  else
    let rbac := { rbac with _deniedPerms := insert permissionId rbac._deniedPerms }
    (.ok, if realmId ≠ 0 then rbac.CalculateNewPermissions mgr else rbac)

def RevokePermission (permissionId : ℕ) (realmId : ℤ) : RBACCommandResult × RBACData :=
  if permissionId ∉ rbac._grantedPerms ∧ permissionId ∉ rbac._deniedPerms then
    (.cantRevokeNotInList, rbac)
  else
    let rbac := { rbac with
      _grantedPerms := rbac._grantedPerms.erase permissionId
      _deniedPerms := rbac._deniedPerms.erase permissionId }
    (.ok, if realmId ≠ 0 then rbac.CalculateNewPermissions mgr else rbac)

def ClearData : RBACData :=
  { rbac with _grantedPerms := ∅, _deniedPerms := ∅, _globalPerms := ∅ }

def loadRow (row : ℕ × Bool) : RBACData :=
  if row.2 then (rbac.GrantPermission mgr row.1 0).2 else (rbac.DenyPermission mgr row.1 0).2

def LoadFromDB (rows : List (ℕ × Bool)) : RBACData :=
  let rbac := rows.foldl (loadRow mgr) rbac.ClearData
  let rbac := ((mgr._defaultPermissions rbac._secLevel).sort (· ≤ ·)).foldl
    (fun rbac permissionId => (rbac.GrantPermission mgr permissionId 0).2) rbac
  rbac.CalculateNewPermissions mgr

end RBACData

/-! ### Accounts that are in use -/

inductive Change where
  | grant (permissionId : ℕ) (realmId : ℤ)
  | deny (permissionId : ℕ) (realmId : ℤ)
  | revoke (permissionId : ℕ) (realmId : ℤ)

def Change.realmId : Change → ℤ
  | grant _ realmId | deny _ realmId | revoke _ realmId => realmId

def RBACData.change (mgr : AccountMgr) (rbac : RBACData) : Change → RBACData
  | .grant permissionId realmId => (rbac.GrantPermission mgr permissionId realmId).2
  | .deny permissionId realmId => (rbac.DenyPermission mgr permissionId realmId).2
  | .revoke permissionId realmId => (rbac.RevokePermission mgr permissionId realmId).2

namespace RBACData

variable {mgr : AccountMgr} {rbac : RBACData}

/-- No permission is both granted and denied. -/
def Separate (rbac : RBACData) : Prop := Disjoint rbac._grantedPerms rbac._deniedPerms

def Calculated (mgr : AccountMgr) (rbac : RBACData) : Prop :=
  ∀ p, p ∈ rbac._globalPerms ↔ Reached mgr._permissions rbac._grantedPerms p

lemma calculated_CalculateNewPermissions :
    Calculated mgr (rbac.CalculateNewPermissions mgr) :=
  fun p => Worklist.mem_expand_start rbac._grantedPerms p

lemma separate_CalculateNewPermissions (mgr : AccountMgr) (rbac : RBACData) :
    (rbac.CalculateNewPermissions mgr).Separate ↔ rbac.Separate := Iff.rfl

/-- A change is refused and nothing changes, or the sets of granted and denied permissions change;
they stay separate, and where there is a realm the global permissions are calculated from them. -/
lemma change_cases (mgr : AccountMgr) (c : Change) (separate : rbac.Separate) :
    rbac.change mgr c = rbac ∨ ∃ rbac' : RBACData, rbac'.Separate ∧
      rbac.change mgr c = if c.realmId ≠ 0 then rbac'.CalculateNewPermissions mgr else rbac' := by
  cases c with
  | grant permissionId realmId =>
    simp only [change, GrantPermission, Change.realmId]
    split
    · exact .inl rfl
    split
    · exact .inl rfl
    next notDenied =>
      split
      · exact .inl rfl
      · refine .inr ⟨{ rbac with _grantedPerms := insert permissionId rbac._grantedPerms }, ?_, rfl⟩
        exact Finset.disjoint_insert_left.mpr ⟨notDenied, separate⟩
  | deny permissionId realmId =>
    simp only [change, DenyPermission, Change.realmId]
    split
    · exact .inl rfl
    split
    · exact .inl rfl
    next notGranted =>
      split
      · exact .inl rfl
      · refine .inr ⟨{ rbac with _deniedPerms := insert permissionId rbac._deniedPerms }, ?_, rfl⟩
        exact Finset.disjoint_insert_right.mpr ⟨notGranted, separate⟩
  | revoke permissionId realmId =>
    simp only [change, RevokePermission, Change.realmId]
    split
    · exact .inl rfl
    · refine .inr ⟨{ rbac with
        _grantedPerms := rbac._grantedPerms.erase permissionId
        _deniedPerms := rbac._deniedPerms.erase permissionId }, ?_, rfl⟩
      exact separate.mono (Finset.erase_subset _ _) (Finset.erase_subset _ _)

lemma separate_change (c : Change) (separate : rbac.Separate) :
    (rbac.change mgr c).Separate := by
  rcases change_cases mgr c separate with hs | ⟨rbac', separate', changed⟩
  · rwa [hs]
  · rw [changed]
    split
    · exact (separate_CalculateNewPermissions mgr rbac').mpr separate'
    · exact separate'

lemma calculated_change (c : Change) (realm : c.realmId ≠ 0) (separate : rbac.Separate)
    (calculated : rbac.Calculated mgr) : (rbac.change mgr c).Calculated mgr := by
  rcases change_cases mgr c separate with hs | ⟨rbac', -, changed⟩
  · rwa [hs]
  · rw [changed, if_pos realm]
    exact calculated_CalculateNewPermissions

lemma separate_LoadFromDB (rows : List (ℕ × Bool)) : (rbac.LoadFromDB mgr rows).Separate := by
  have loaded : (rows.foldl (loadRow mgr) rbac.ClearData).Separate := by
    refine List.foldlRecOn rows (loadRow mgr) (Finset.disjoint_empty_left _) ?_
    intro rbac separate row _
    rw [loadRow]
    split
    · exact separate_change (.grant row.1 0) separate
    · exact separate_change (.deny row.1 0) separate
  refine List.foldlRecOn _ _ loaded ?_
  intro rbac separate permissionId _
  exact separate_change (.grant permissionId 0) separate

lemma calculated_LoadFromDB (rows : List (ℕ × Bool)) :
    (rbac.LoadFromDB mgr rows).Calculated mgr := by
  exact calculated_CalculateNewPermissions

lemma run_sound (mgr : AccountMgr) (rbac : RBACData) (rows : List (ℕ × Bool))
    (changes : List Change) (realms : ∀ c ∈ changes, c.realmId ≠ 0) :
    (run (change mgr) (rbac.LoadFromDB mgr rows) changes).Separate ∧
      (run (change mgr) (rbac.LoadFromDB mgr rows) changes).Calculated mgr := by
  refine List.foldlRecOn changes (change mgr)
    (motive := fun rbac => rbac.Separate ∧ Calculated mgr rbac)
    ⟨separate_LoadFromDB rows, calculated_LoadFromDB rows⟩ ?_
  intro rbac ⟨separate, calculated⟩ c hm
  exact ⟨separate_change c separate, calculated_change c (realms c hm) separate calculated⟩

/-- A permission is effective as denials are meant: a granted permission leads to it, and no denied
one does. -/
def Effective (mgr : AccountMgr) (rbac : RBACData) (p : ℕ) : Prop :=
  Reached mgr._permissions rbac._grantedPerms p ∧ ¬ Reached mgr._permissions rbac._deniedPerms p

/-- The granted and the denied permissions are always separate. The account has the permissions that
are effective exactly when no denied permission leads to one that a granted permission leads to
as well. -/
theorem HasPermission_effective_iff (mgr : AccountMgr) (rbac : RBACData) (rows : List (ℕ × Bool))
    (changes : List Change) (realms : ∀ c ∈ changes, c.realmId ≠ 0) :
    let account := run (change mgr) (rbac.LoadFromDB mgr rows) changes
    account.Separate ∧
      ((∀ p, account.HasPermission false p = true ↔ account.Effective mgr p) ↔
        ∀ p, ¬ (Reached mgr._permissions account._grantedPerms p ∧
          Reached mgr._permissions account._deniedPerms p)) := by
  intro account
  obtain ⟨separate, calculated⟩ := run_sound mgr rbac rows changes realms
  refine ⟨separate, forall_congr' fun p => ?_⟩
  rw [HasPermission_iff, calculated p, Effective]
  tauto

def linked : AccountMgr where
  _permissions := (∅ : Table ℕ RBACPermissionContainer).insert 2 ∅ |>.insert 1 {2}
  _defaultPermissions _ := ∅

def fresh : RBACData := ⟨0, ∅, ∅, ∅⟩

def restricted : RBACData := run (change linked) (fresh.LoadFromDB linked [(1, true)]) [.deny 2 1]

theorem HasPermission_effective_iff_restricted :
    restricted.Separate ∧
      ((∀ p, restricted.HasPermission false p = true ↔ restricted.Effective linked p) ↔
        ∀ p, ¬ (Reached linked._permissions restricted._grantedPerms p ∧
          Reached linked._permissions restricted._deniedPerms p)) :=
  HasPermission_effective_iff linked fresh [(1, true)] [.deny 2 1] (by simp [Change.realmId])

lemma restricted_perms :
    restricted._grantedPerms = {1} ∧ restricted._deniedPerms = {2} := by
  have known : 1 ∈ linked._permissions ∧ 2 ∈ linked._permissions := by decide
  have default : linked._defaultPermissions 0 = ∅ := rfl
  simp [restricted, change, DenyPermission, LoadFromDB, loadRow, GrantPermission, ClearData,
    CalculateNewPermissions, fresh, known, default]

/-- The account still has the permission that it is denied. -/
theorem denied_permission_effective :
    ¬ ∀ p, restricted.HasPermission false p = true ↔ restricted.Effective linked p := by
  obtain ⟨granted, denied⟩ := restricted_perms
  have known : 2 ∈ linked._permissions := by decide
  have reached : Reached linked._permissions restricted._grantedPerms 2 := by
    rw [granted]
    exact ⟨known, 1, by simp, .single ⟨{2}, by decide, by simp⟩⟩
  have calculated := (run_sound linked fresh [(1, true)] [.deny 2 1]
    (by simp [Change.realmId])).2
  intro effective
  have has : restricted.HasPermission false 2 = true :=
    (HasPermission_iff restricted 2).mpr ((calculated 2).mpr reached)
  refine ((effective 2).mp has).2 ⟨known, 2, ?_, .refl⟩
  rw [denied]
  exact Finset.mem_singleton_self 2

lemma Calculated.recalculate (calculated : rbac.Calculated mgr) :
    rbac.CalculateNewPermissions mgr = rbac := by
  have global : ExpandPermissions mgr rbac._grantedPerms = rbac._globalPerms := by
    ext p
    exact (Worklist.mem_expand_start rbac._grantedPerms p).trans (calculated p).symm
  rw [CalculateNewPermissions, global]

/-- A grant or a denial that is revoked leaves the account as it was, whether it was refused or not. -/
theorem revoked_change (mgr : AccountMgr) (rbac : RBACData) (rows : List (ℕ × Bool))
    (changes : List Change) (realms : ∀ c ∈ changes, c.realmId ≠ 0) (p : ℕ) (realmId : ℤ)
    (realm : realmId ≠ 0) :
    let account := run (change mgr) (rbac.LoadFromDB mgr rows) changes
    p ∉ account._grantedPerms → p ∉ account._deniedPerms →
      run (change mgr) account [.grant p realmId, .revoke p realmId] = account ∧
        run (change mgr) account [.deny p realmId, .revoke p realmId] = account := by
  intro account notGranted notDenied
  have same : account.CalculateNewPermissions mgr = account :=
    (run_sound mgr rbac rows changes realms).2.recalculate
  by_cases known : p ∈ mgr._permissions
  · simpa [change, GrantPermission, DenyPermission, RevokePermission, known, notGranted, notDenied,
      realm, CalculateNewPermissions] using same
  · simp [change, GrantPermission, DenyPermission, RevokePermission, known, notGranted, notDenied]

/-- The third permission leads to the second one, which is denied; the fourth is denied as well. -/
def staff : AccountMgr where
  _permissions := linked._permissions.insert 3 {2} |>.insert 4 ∅
  _defaultPermissions _ := ∅

def member : RBACData :=
  run (change staff) (fresh.LoadFromDB staff [(1, true), (4, false)]) [.deny 2 1]

lemma member_perms : member._grantedPerms = {1} ∧ member._deniedPerms = {2, 4} := by
  have known : 1 ∈ staff._permissions ∧ 2 ∈ staff._permissions ∧ 4 ∈ staff._permissions := by decide
  have default : staff._defaultPermissions 0 = ∅ := rfl
  simp [member, change, DenyPermission, LoadFromDB, loadRow, GrantPermission, ClearData,
    CalculateNewPermissions, fresh, known, default]

theorem revoked_change_member :
    run (change staff) member [.grant 3 1, .revoke 3 1] = member ∧
      run (change staff) member [.deny 3 1, .revoke 3 1] = member :=
  revoked_change staff fresh [(1, true), (4, false)] [.deny 2 1] (by simp [Change.realmId]) 3 1
    (by decide) (fun granted => by rw [← member, member_perms.1] at granted; simp at granted)
    (fun denied => by rw [← member, member_perms.2] at denied; simp at denied)

end RBACData

end WorldServer.Accounts
