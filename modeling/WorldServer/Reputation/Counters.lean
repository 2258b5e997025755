import WorldServer.Lib.Run
import WorldServer.Reputation.ReputationMgr

/-!
# The counters of the reputation manager

The counters are kept by differences, and are what a count over all factions gives, as far as eight
bits hold it. A faction whose standing is set ends up between the bottom and the cap; one that is set
to hostile or below is at war, unless it is kept at peace.
-/
namespace WorldServer.Reputation

open WorldServer.Lib

variable {env : Environment} {mgr mgr' : ReputationMgr}

/-! ### Sums and flags -/

lemma int32_add_int32 (x y : ℤ) : int32 (x + int32 y) = int32 (x + y) := by
  simp [int32]

lemma int32_of_bounds {x : ℤ} (lower : -2 ^ 31 ≤ x) (upper : x < 2 ^ 31) : int32 x = x := by
  rw [int32, Int.bmod_eq_of_le] <;> omega

lemma int32_base (env : Environment) (factionEntry : FactionEntry) :
    int32 (env.GetBaseReputation factionEntry) = env.GetBaseReputation factionEntry :=
  int32_of_bounds (Int32.le_toInt _) (Int32.toInt_lt _)

lemma has_visible_keeps (flags : FactionFlags) :
    (flags ||| FACTION_FLAG_AT_WAR : FactionFlags).has FACTION_FLAG_VISIBLE =
        flags.has FACTION_FLAG_VISIBLE ∧
      (flags &&& ~~~FACTION_FLAG_AT_WAR : FactionFlags).has FACTION_FLAG_VISIBLE =
        flags.has FACTION_FLAG_VISIBLE ∧
      (flags ||| FACTION_FLAG_INACTIVE : FactionFlags).has FACTION_FLAG_VISIBLE =
        flags.has FACTION_FLAG_VISIBLE ∧
      (flags &&& ~~~FACTION_FLAG_INACTIVE : FactionFlags).has FACTION_FLAG_VISIBLE =
        flags.has FACTION_FLAG_VISIBLE := by
  revert flags
  decide

lemma has_visible_or (flags : FactionFlags) :
    (flags ||| FACTION_FLAG_VISIBLE : FactionFlags).has FACTION_FLAG_VISIBLE = true := by
  revert flags
  decide

lemma has_atWar_or (flags : FactionFlags) :
    (flags ||| FACTION_FLAG_AT_WAR : FactionFlags).has FACTION_FLAG_AT_WAR = true := by
  revert flags
  decide

namespace FactionState

variable (faction : FactionState)

/-- A faction with other flags, and nothing else that is told apart here. -/
structure Reflagged (faction faction' : FactionState) : Prop where
  position : faction'.ReputationListID = faction.ReputationListID
  standing : faction'.Standing = faction.Standing

structure Controlled (faction faction' : FactionState) : Prop extends
    Reflagged faction faction' where
  visible : faction'.Flags.has FACTION_FLAG_VISIBLE = faction.Flags.has FACTION_FLAG_VISIBLE

variable {a b c : FactionState}

lemma Reflagged.trans (first : Reflagged a b) (second : Reflagged b c) : Reflagged a c :=
  ⟨second.position.trans first.position, second.standing.trans first.standing⟩

lemma Controlled.refl : Controlled faction faction := ⟨⟨rfl, rfl⟩, rfl⟩

lemma Controlled.trans (first : Controlled a b) (second : Controlled b c) : Controlled a c :=
  ⟨first.toReflagged.trans second.toReflagged, second.visible.trans first.visible⟩

lemma Controlled.ite (p : Prop) [Decidable p] (yes : p → Controlled a b)
    (no : ¬ p → Controlled a c) : Controlled a (if p then b else c) := by
  split
  · next holds => exact yes holds
  · next fails => exact no fails

lemma SetVisible_spec : Reflagged faction faction.SetVisible.1 ∧
    (faction.SetVisible.2 = true → faction.Flags.has FACTION_FLAG_VISIBLE = false) ∧
    faction.SetVisible.1.Flags.has FACTION_FLAG_VISIBLE =
      (faction.Flags.has FACTION_FLAG_VISIBLE || faction.SetVisible.2) := by
  rw [SetVisible]
  split
  · exact ⟨⟨rfl, rfl⟩, by simp, by simp⟩
  split
  · exact ⟨⟨rfl, rfl⟩, by simp, by simp⟩
  · next hidden => exact ⟨⟨rfl, rfl⟩, by simpa using hidden, by simp [has_visible_or]⟩

lemma SetAtWar_spec (atWar : Bool) : Controlled faction (faction.SetAtWar atWar) := by
  obtain ⟨set, unset, -, -⟩ := has_visible_keeps faction.Flags
  rw [SetAtWar]
  split
  · exact .refl faction
  split
  · exact .refl faction
  · refine ⟨⟨rfl, rfl⟩, ?_⟩
    cases atWar
    · exact unset
    · exact set

lemma SetInactive_spec (inactive : Bool) :
    Controlled faction (faction.SetInactive inactive) := by
  obtain ⟨-, -, set, unset⟩ := has_visible_keeps faction.Flags
  rw [SetInactive]
  split
  · exact .refl faction
  split
  · exact .refl faction
  · refine ⟨⟨rfl, rfl⟩, ?_⟩
    cases inactive
    · exact unset
    · exact set

lemma loadFlags_spec (flags : ℕ) (hostile : Bool) :
    Reflagged faction (faction.loadFlags flags hostile).1 ∧
      ((faction.loadFlags flags hostile).2 = true →
        faction.Flags.has FACTION_FLAG_VISIBLE = false) ∧
      (faction.loadFlags flags hostile).1.Flags.has FACTION_FLAG_VISIBLE =
        (faction.Flags.has FACTION_FLAG_VISIBLE || (faction.loadFlags flags hostile).2) := by
  let dbFactionFlags : FactionFlags := BitVec.ofNat 8 flags
  let shown := if dbFactionFlags.has FACTION_FLAG_VISIBLE then faction.SetVisible else (faction, false)
  have controlled : Controlled shown.1 (faction.loadFlags flags hostile).1 := by
    let inactive :=
      if dbFactionFlags.has FACTION_FLAG_INACTIVE then shown.1.SetInactive true else shown.1
    let war :=
      if dbFactionFlags.has FACTION_FLAG_AT_WAR then inactive.SetAtWar true
      else if inactive.Flags.has FACTION_FLAG_VISIBLE then inactive.SetAtWar false
      else inactive
    let hostileWar := if hostile then war.SetAtWar true else war
    have first : Controlled shown.1 inactive :=
      .ite _ (fun _ => shown.1.SetInactive_spec true) fun _ => .refl shown.1
    have second : Controlled inactive war :=
      .ite _ (fun _ => inactive.SetAtWar_spec true) fun _ =>
        .ite _ (fun _ => inactive.SetAtWar_spec false) fun _ => .refl inactive
    have third : Controlled war hostileWar :=
      .ite _ (fun _ => war.SetAtWar_spec true) fun _ => .refl war
    have fourth : Controlled hostileWar (faction.loadFlags flags hostile).1 :=
      .ite _ (fun _ => ⟨⟨rfl, rfl⟩, rfl⟩) fun _ => .refl hostileWar
    exact first.trans (second.trans (third.trans fourth))
  have newly : (faction.loadFlags flags hostile).2 = shown.2 := rfl
  have shownFrom : Reflagged faction shown.1 ∧
      (shown.2 = true → faction.Flags.has FACTION_FLAG_VISIBLE = false) ∧
      shown.1.Flags.has FACTION_FLAG_VISIBLE =
        (faction.Flags.has FACTION_FLAG_VISIBLE || shown.2) := by
    by_cases visible : dbFactionFlags.has FACTION_FLAG_VISIBLE = true
    · rw [show shown = faction.SetVisible from if_pos visible]
      exact faction.SetVisible_spec
    · rw [show shown = (faction, false) from if_neg visible]
      exact ⟨⟨rfl, rfl⟩, by simp, by simp⟩
  obtain ⟨reflagged, hidden, visible⟩ := shownFrom
  rw [newly, controlled.visible]
  exact ⟨reflagged.trans controlled.toReflagged, hidden, visible⟩

lemma SetAtWar_true : (faction.SetAtWar true).Flags.has FACTION_FLAG_AT_WAR = true ∨
    (faction.SetAtWar true).Flags.has FACTION_FLAG_PEACE_FORCED = true := by
  rw [SetAtWar]
  split
  · next peace => exact .inr (by simpa using peace)
  split
  · next already => exact .inl already
  · exact .inl (has_atWar_or faction.Flags)

end FactionState

variable {factionEntry : FactionEntry}

lemma FactionStore.listEntry_eq (store : FactionStore) (member : factionEntry ∈ store.entries)
    (listed : 0 ≤ factionEntry.reputationListID) :
    store.listEntry factionEntry.reputationListID.toNat = some factionEntry := by
  have canHave : factionEntry.CanHaveReputation = true := by
    simpa [FactionEntry.CanHaveReputation] using listed
  obtain ⟨other, found⟩ : ∃ other, store.listEntry factionEntry.reputationListID.toNat =
      some other := by
    refine Option.isSome_iff_exists.mp (List.find?_isSome.mpr ⟨factionEntry, member, ?_⟩)
    simpa using listed
  have same : other.reputationListID = factionEntry.reputationListID := by
    have here := List.find?_some found
    simpa [Int.toNat_of_nonneg listed] using here
  have otherListed : other.CanHaveReputation = true := by
    rwa [FactionEntry.CanHaveReputation, same]
  rw [found, List.inj_on_of_nodup_map store.listed
    (List.mem_filter.mpr ⟨List.mem_of_find?_eq_some found, otherListed⟩)
    (List.mem_filter.mpr ⟨member, canHave⟩) same]

lemma FactionStore.mem_of_LookupEntry {store : FactionStore} {id : ℕ}
    (found : store.LookupEntry id = some factionEntry) : factionEntry ∈ store.entries :=
  List.mem_of_find?_eq_some found

/-! ### Counting -/

def baseAt (env : Environment) (k : ℕ) : ℤ :=
  ((env.store.listEntry k).map env.GetBaseReputation).getD 0

def rankAt (env : Environment) (k : ℕ) (faction : FactionState) : ReputationRank :=
  ReputationToRank (int32 (faction.Standing + baseAt env k))

def number (env : Environment) (mgr : ReputationMgr) (rank : ReputationRank) : ℕ :=
  mgr._factions.total fun k faction => if rank ≤ rankAt env k faction then 1 else 0

def numberVisible (mgr : ReputationMgr) : ℕ :=
  mgr._factions.total fun _ faction => if faction.Flags.has FACTION_FLAG_VISIBLE then 1 else 0

structure Counted (env : Environment) (mgr : ReputationMgr) : Prop where
  position : ∀ k faction, mgr._factions.lookup k = some faction → faction.ReputationListID = k
  visible : mgr._visibleFactionCount = UInt8.ofNat (numberVisible mgr)
  honored : mgr._honoredFactionCount = UInt8.ofNat (number env mgr REP_HONORED)
  revered : mgr._reveredFactionCount = UInt8.ofNat (number env mgr REP_REVERED)
  exalted : mgr._exaltedFactionCount = UInt8.ofNat (number env mgr REP_EXALTED)

lemma updateCount_eq {n n' : ℕ} {rank old_rank new_rank : ReputationRank}
    (difference : n' + (if rank ≤ old_rank then 1 else 0) =
      n + if rank ≤ new_rank then 1 else 0) :
    updateCount (UInt8.ofNat n) rank old_rank new_rank = UInt8.ofNat n' := by
  rw [updateCount]
  split at difference <;> split at difference
  · next old new =>
    obtain rfl : n' = n := by omega
    simp [old, new]
  · next old new =>
    obtain rfl : n = n' + 1 := by omega
    simp [old, new, UInt8.ofNat_add]
  · next old new =>
    obtain rfl : n' = n + 1 := by omega
    simp [old, new, UInt8.ofNat_add]
  · next old new =>
    obtain rfl : n' = n := by omega
    simp [old, new]

@[simp] lemma updateCount_self (count : UInt8) (rank old_rank : ReputationRank) :
    updateCount count rank old_rank old_rank = count := by
  rw [updateCount]
  split <;> simp

lemma UInt8_ofNat_add_ite (n : ℕ) (b : Bool) :
    UInt8.ofNat (n + if b then 1 else 0) = UInt8.ofNat n + if b then 1 else 0 := by
  cases b <;> simp [UInt8.ofNat_add]

/-- The state of a faction is replaced, and the counters are changed accordingly. -/
structure Replaced (env : Environment) (mgr mgr' : ReputationMgr) (k : ℕ)
    (faction faction' : FactionState) : Prop where
  found : mgr._factions.lookup k = some faction
  factions : mgr'._factions = mgr._factions.insert k faction'
  position : faction'.ReputationListID = k
  visible : ∃ newly : Bool, (newly = true → faction.Flags.has FACTION_FLAG_VISIBLE = false) ∧
    faction'.Flags.has FACTION_FLAG_VISIBLE = (faction.Flags.has FACTION_FLAG_VISIBLE || newly) ∧
    mgr'._visibleFactionCount = mgr._visibleFactionCount + if newly then 1 else 0
  honored : mgr'._honoredFactionCount = updateCount mgr._honoredFactionCount REP_HONORED
    (rankAt env k faction) (rankAt env k faction')
  revered : mgr'._reveredFactionCount = updateCount mgr._reveredFactionCount REP_REVERED
    (rankAt env k faction) (rankAt env k faction')
  exalted : mgr'._exaltedFactionCount = updateCount mgr._exaltedFactionCount REP_EXALTED
    (rankAt env k faction) (rankAt env k faction')

namespace Replaced

variable {k : ℕ} {faction faction' : FactionState}

section

variable (replaced : Replaced env mgr mgr' k faction faction')
include replaced

lemma number_add (rank : ReputationRank) :
    number env mgr' rank + (if rank ≤ rankAt env k faction then 1 else 0) =
      number env mgr rank + if rank ≤ rankAt env k faction' then 1 else 0 := by
  have total := Table.total_insert_of_some
    (fun k faction => if rank ≤ rankAt env k faction then 1 else 0) mgr._factions k faction' faction
    replaced.found
  rw [number, replaced.factions, total, number, Nat.add_comm]

lemma numberVisible_eq {newly : Bool}
    (hidden : newly = true → faction.Flags.has FACTION_FLAG_VISIBLE = false)
    (visible : faction'.Flags.has FACTION_FLAG_VISIBLE =
      (faction.Flags.has FACTION_FLAG_VISIBLE || newly)) :
    numberVisible mgr' = numberVisible mgr + if newly then 1 else 0 := by
  have total := Table.total_insert_of_some
    (fun _ faction => if faction.Flags.has FACTION_FLAG_VISIBLE then 1 else 0)
    mgr._factions k faction' faction replaced.found
  rw [visible] at total
  rw [numberVisible, replaced.factions, numberVisible]
  cases newly with
  | false => simpa [Nat.add_comm] using total
  | true =>
    rw [hidden rfl] at total
    simpa [Nat.add_comm] using total

lemma counted (before : Counted env mgr) : Counted env mgr' := by
  obtain ⟨newly, hidden, visible, count⟩ := replaced.visible
  constructor
  · intro k' faction₁ found
    rw [replaced.factions, Table.lookup_insert_iff] at found
    rcases found with ⟨rfl, rfl⟩ | ⟨-, found⟩
    · exact replaced.position
    · exact before.position k' faction₁ found
  · rw [count, before.visible, replaced.numberVisible_eq hidden visible, UInt8_ofNat_add_ite]
  · rw [replaced.honored, before.honored, updateCount_eq (replaced.number_add REP_HONORED)]
  · rw [replaced.revered, before.revered, updateCount_eq (replaced.number_add REP_REVERED)]
  · rw [replaced.exalted, before.exalted, updateCount_eq (replaced.number_add REP_EXALTED)]

end

lemma of_reflagged (position : faction.ReputationListID = k)
    (reflagged : faction.Reflagged faction')
    (found : mgr._factions.lookup k = some faction)
    (factions : mgr'._factions = mgr._factions.insert k faction')
    (visible : ∃ newly : Bool, (newly = true → faction.Flags.has FACTION_FLAG_VISIBLE = false) ∧
      faction'.Flags.has FACTION_FLAG_VISIBLE = (faction.Flags.has FACTION_FLAG_VISIBLE || newly) ∧
      mgr'._visibleFactionCount = mgr._visibleFactionCount + if newly then 1 else 0)
    (counters : mgr'._honoredFactionCount = mgr._honoredFactionCount ∧
      mgr'._reveredFactionCount = mgr._reveredFactionCount ∧
      mgr'._exaltedFactionCount = mgr._exaltedFactionCount) :
    Replaced env mgr mgr' k faction faction' := by
  have rank : rankAt env k faction' = rankAt env k faction := by
    rw [rankAt, reflagged.standing, rankAt]
  constructor
  · exact found
  · exact factions
  · exact reflagged.position.trans position
  · exact visible
  · rw [rank, updateCount_self, counters.1]
  · rw [rank, updateCount_self, counters.2.1]
  · rw [rank, updateCount_self, counters.2.2]

end Replaced

/-! ### Operations -/

lemma find_eq_some {reputationListID : ℤ} {faction : FactionState}
    (found : mgr.find reputationListID = some faction) :
    0 ≤ reputationListID ∧ mgr._factions.lookup reputationListID.toNat = some faction := by
  rw [ReputationMgr.find] at found
  split at found
  · next listed => exact ⟨listed, found⟩
  · exact absurd found.symm (Option.some_ne_none faction)

section

variable (counted : Counted env mgr)
include counted

lemma Counted.showFaction {k : ℕ} {faction : FactionState}
    (found : mgr._factions.lookup k = some faction) : Counted env (mgr.showFaction faction) := by
  have position := counted.position k faction found
  obtain ⟨reflagged, hidden, visible⟩ := faction.SetVisible_spec
  have factions : (mgr.showFaction faction)._factions =
      mgr._factions.insert k faction.SetVisible.1 := by
    rw [← position, ← reflagged.position]
    rfl
  have replaced : Replaced env mgr (mgr.showFaction faction) k faction faction.SetVisible.1 :=
    .of_reflagged position reflagged found factions ⟨_, hidden, visible, rfl⟩ ⟨rfl, rfl, rfl⟩
  exact replaced.counted counted

lemma Counted.SetVisible (factionEntry : FactionEntry) :
    Counted env (mgr.SetVisible factionEntry) := by
  rw [ReputationMgr.SetVisible]
  split
  · exact counted
  · next faction found => exact counted.showFaction (find_eq_some found).2

lemma Counted.update {k : ℕ} {faction faction' : FactionState}
    (found : mgr._factions.lookup k = some faction) (controlled : faction.Controlled faction') :
    Counted env (mgr.update faction') := by
  obtain ⟨reflagged, visible⟩ := controlled
  have position := counted.position k faction found
  have factions : (mgr.update faction')._factions = mgr._factions.insert k faction' := by
    rw [← position, ← reflagged.position]
    rfl
  have replaced : Replaced env mgr (mgr.update faction') k faction faction' :=
    .of_reflagged position reflagged found factions
      ⟨false, by simp, by simpa using visible, by simp [ReputationMgr.update]⟩ ⟨rfl, rfl, rfl⟩
  exact replaced.counted counted

lemma Counted.SetAtWar (FactionIndexID : ℕ) (atWar : Bool) :
    Counted env (mgr.SetAtWar FactionIndexID atWar) := by
  rw [ReputationMgr.SetAtWar]
  split
  · exact counted
  next faction found =>
    split
    · exact counted
    · exact counted.update found (faction.SetAtWar_spec atWar)

lemma Counted.SetInactive (FactionIndex : ℕ) (Status : Bool) :
    Counted env (mgr.SetInactive FactionIndex Status) := by
  rw [ReputationMgr.SetInactive]
  split
  · exact counted
  · next faction found => exact counted.update found (faction.SetInactive_spec Status)

end

/-! ### Standings -/

lemma newStanding_bounds (env : Environment) (factionEntry : FactionEntry) (faction : FactionState) (standing : ℤ)
    (incremental : Bool) :
    Reputation_Bottom ≤ ReputationMgr.newStanding env factionEntry faction standing incremental ∧
      ReputationMgr.newStanding env factionEntry faction standing incremental ≤ Reputation_Cap := by
  simp only [ReputationMgr.newStanding, Reputation_Bottom, Reputation_Cap]
  split <;> split <;> omega

/-- A standing that was set lies between the bottom and the cap, and a faction that is hostile is at
war unless it is kept at peace. -/
structure Settled (env : Environment) (mgr : ReputationMgr) (k : ℕ) (faction : FactionState) :
    Prop where
  found : mgr._factions.lookup k = some faction
  bottom : Reputation_Bottom ≤ int32 (faction.Standing + baseAt env k)
  cap : int32 (faction.Standing + baseAt env k) ≤ Reputation_Cap
  war : rankAt env k faction ≤ REP_HOSTILE → faction.Flags.has FACTION_FLAG_AT_WAR = true ∨
    faction.Flags.has FACTION_FLAG_PEACE_FORCED = true

/-- The faction is found and gets a standing, and no other faction changes. -/
structure SetOne (env : Environment) (mgr mgr' : ReputationMgr) : Prop where
  replaced : ∃ k faction faction', Replaced env mgr mgr' k faction faction' ∧
    Settled env mgr' k faction' ∧ mgr'.reputationChanged = k :: mgr.reputationChanged

lemma SetOneFactionReputation_cases (counted : Counted env mgr)
    (member : factionEntry ∈ env.store.entries) (standing : ℤ) (incremental : Bool) :
    (mgr.SetOneFactionReputation env factionEntry standing incremental).2 = mgr ∨
      SetOne env mgr (mgr.SetOneFactionReputation env factionEntry standing incremental).2 := by
  cases found : mgr.find factionEntry.reputationListID with
  | none => exact .inl (by simp only [ReputationMgr.SetOneFactionReputation, found])
  | some faction =>
    refine .inr ?_
    obtain ⟨listed, here⟩ := find_eq_some found
    have position := counted.position _ faction here
    have base : baseAt env factionEntry.reputationListID.toNat =
        env.GetBaseReputation factionEntry := by
      rw [baseAt, env.store.listEntry_eq member listed]
      rfl
    obtain ⟨bottom, cap⟩ := newStanding_bounds env factionEntry faction standing incremental
    -- the state of the faction after each of the changes to it
    let sum := ReputationMgr.newStanding env factionEntry faction standing incremental
    let risen : FactionState := { faction with
      Standing := int32 (sum - env.GetBaseReputation factionEntry)
      needSend := true
      needSave := true }
    let shown := risen.SetVisible.1
    let settled := if ReputationToRank sum ≤ REP_HOSTILE then shown.SetAtWar true else shown
    obtain ⟨shownFrom, hidden, visible⟩ := risen.SetVisible_spec
    have settledFrom : FactionState.Controlled shown settled := by
      by_cases hostile : ReputationToRank sum ≤ REP_HOSTILE
      · simpa only [settled, if_pos hostile] using shown.SetAtWar_spec true
      · rw [show settled = shown from if_neg hostile]
        exact .refl shown
    have from_ := shownFrom.trans settledFrom.toReflagged
    have reputation : int32 (settled.Standing + baseAt env factionEntry.reputationListID.toNat) =
        sum := by
      rw [from_.standing, base, add_comm, int32_add_int32, add_sub_cancel]
      refine int32_of_bounds ?_ ?_ <;> simp only [Reputation_Bottom, Reputation_Cap] at bottom cap <;>
        omega
    have rank : rankAt env factionEntry.reputationListID.toNat settled = ReputationToRank sum := by
      rw [rankAt, reputation]
    have old : rankAt env factionEntry.reputationListID.toNat faction =
        ReputationToRank (int32 (faction.Standing + env.GetBaseReputation factionEntry)) := by
      rw [rankAt, base]
    have result : (mgr.SetOneFactionReputation env factionEntry standing incremental).2 =
        ({ mgr.update settled with
          _visibleFactionCount := mgr._visibleFactionCount + if risen.SetVisible.2 then 1 else 0
          _sendFactionIncreased := mgr._sendFactionIncreased ||
            ReputationToRank (int32 (faction.Standing + env.GetBaseReputation factionEntry)) <
              ReputationToRank sum
          reputationChanged := settled.ReputationListID :: mgr.reputationChanged } :
          ReputationMgr).UpdateRankCounters
            (ReputationToRank (int32 (faction.Standing + env.GetBaseReputation factionEntry)))
            (ReputationToRank sum) := by
      simp only [ReputationMgr.SetOneFactionReputation, found]
      rfl
    have key : settled.ReputationListID = factionEntry.reputationListID.toNat :=
      from_.position.trans position
    rw [result]
    refine ⟨_, faction, settled, ⟨here, ?_, key, ⟨_, hidden, ?_, rfl⟩, ?_, ?_, ?_⟩,
      ⟨?_, ?_, ?_, ?_⟩, ?_⟩
    · rw [← key]
      rfl
    · exact settledFrom.visible.trans visible
    · rw [old, rank]
      rfl
    · rw [old, rank]
      rfl
    · rw [old, rank]
      rfl
    · rw [← key]
      exact AList.lookup_insert _
    · rwa [reputation]
    · rwa [reputation]
    · intro hostile
      rw [rank] at hostile
      simpa only [settled, if_pos hostile] using shown.SetAtWar_true
    · rw [← key]
      rfl

/-! ### Spillover -/

section Spillover

variable {I : ReputationMgr → Prop} {incremental : Bool}

lemma templateSpillover_keeps
    (one : ∀ mgr factionEntry standing, factionEntry ∈ env.store.entries → I mgr →
      I (mgr.SetOneFactionReputation env factionEntry standing incremental).2)
    (standing : ℤ) (repTemplate : List Spillover) (before : I mgr) :
    I (mgr.templateSpillover env standing incremental repTemplate) := by
  refine List.foldlRecOn repTemplate _ before ?_
  intro mgr before spill _
  split
  · split
    · exact before
    · next factionEntry found =>
      exact one mgr factionEntry _ (FactionStore.mem_of_LookupEntry found) before
  · exact before

lemma teamSpillover_keeps
    (one : ∀ mgr factionEntry standing, factionEntry ∈ env.store.entries → I mgr →
      I (mgr.SetOneFactionReputation env factionEntry standing incremental).2)
    (factionEntry : FactionEntry) (spillOverRepOut : ℚ) (flist : List ℕ) (before : I mgr) :
    I (mgr.teamSpillover env factionEntry spillOverRepOut incremental flist).2 := by
  refine List.foldlRecOn flist _ (motive := fun result : Bool × ReputationMgr => I result.2) before ?_
  rintro ⟨res, mgr⟩ before id _
  simp only
  split
  · exact before
  · next factionEntryCalc found =>
    split
    · exact before
    split
    · exact one mgr factionEntryCalc _ (FactionStore.mem_of_LookupEntry found) before
    · exact before

lemma defaultSpillover_keeps
    (one : ∀ mgr factionEntry standing, factionEntry ∈ env.store.entries → I mgr →
      I (mgr.SetOneFactionReputation env factionEntry standing incremental).2)
    (factionEntry : FactionEntry) (standing : ℤ) (before : I mgr) :
    I (mgr.defaultSpillover env factionEntry standing incremental).2 := by
  rw [ReputationMgr.defaultSpillover]
  split
  · exact teamSpillover_keeps one factionEntry standing _ before
  split
  · exact before
  split
  · exact before
  next parent found =>
    split
    · exact one mgr parent _ (FactionStore.mem_of_LookupEntry found) before
    split
    · exact before
    · exact teamSpillover_keeps one factionEntry _ _ before

lemma spillover_keeps
    (one : ∀ mgr factionEntry standing, factionEntry ∈ env.store.entries → I mgr →
      I (mgr.SetOneFactionReputation env factionEntry standing incremental).2)
    (factionEntry : FactionEntry) (standing : ℤ) (before : I mgr) :
    I (match env.GetRepSpilloverTemplate factionEntry.ID with
      | some repTemplate => (false, mgr.templateSpillover env standing incremental repTemplate)
      | none => mgr.defaultSpillover env factionEntry standing incremental).2 := by
  split
  · exact templateSpillover_keeps one _ _ before
  · exact defaultSpillover_keeps one factionEntry _ before

lemma SetReputation_keeps
    (one : ∀ mgr factionEntry standing, factionEntry ∈ env.store.entries → I mgr →
      I (mgr.SetOneFactionReputation env factionEntry standing incremental).2)
    (send : ∀ mgr, I mgr → I mgr.SendState) (member : factionEntry ∈ env.store.entries)
    (standing : ℤ) (before : I mgr) :
    I (mgr.SetReputation env factionEntry standing incremental).2 := by
  have spilled := spillover_keeps one factionEntry
    (env.OnPlayerReputationChange factionEntry standing incremental) before
  rw [ReputationMgr.SetReputation]
  simp only
  split
  · exact spilled
  · exact send _ (one _ factionEntry _ member spilled)

end Spillover

lemma lookup_SendState (mgr : ReputationMgr) (k : ℕ) : mgr.SendState._factions.lookup k =
    (mgr._factions.lookup k).map fun faction => { faction with needSend := false } :=
  Table.lookup_mapValues _ _ k

lemma Counted.SendState (counted : Counted env mgr) : Counted env mgr.SendState := by
  constructor
  · intro k faction found
    rw [lookup_SendState] at found
    obtain ⟨faction₀, before, rfl⟩ := Option.map_eq_some_iff.mp found
    exact counted.position k faction₀ before
  · rw [numberVisible, ReputationMgr.SendState, Table.total_mapValues]
    exact counted.visible
  · rw [number, ReputationMgr.SendState, Table.total_mapValues]
    exact counted.honored
  · rw [number, ReputationMgr.SendState, Table.total_mapValues]
    exact counted.revered
  · rw [number, ReputationMgr.SendState, Table.total_mapValues]
    exact counted.exalted

/-- The standings that were set since some state, in which there were others. -/
structure Changed (env : Environment) (before mgr : ReputationMgr) : Prop where
  counted : Counted env mgr
  settled : ∀ k ∈ mgr.reputationChanged, ∃ faction, Settled env mgr k faction
  same : ∀ k ∉ mgr.reputationChanged,
    (mgr._factions.lookup k).map (fun faction => (faction.Standing, faction.Flags)) =
      (before._factions.lookup k).map fun faction => (faction.Standing, faction.Flags)

lemma Changed.of_setOne {before : ReputationMgr} (changed : Changed env before mgr)
    (setOne : SetOne env mgr mgr') : Changed env before mgr' := by
  obtain ⟨k, faction, faction', replaced, settled, told⟩ := setOne.replaced
  have other : ∀ k' ≠ k, mgr'._factions.lookup k' = mgr._factions.lookup k' := by
    intro k' different
    rw [replaced.factions, AList.lookup_insert_ne different]
  constructor
  · exact replaced.counted changed.counted
  · intro k' member
    by_cases here : k' = k
    · rw [here]
      exact ⟨faction', settled⟩
    · rw [told] at member
      obtain ⟨faction₁, old⟩ := changed.settled k' ((List.mem_cons.mp member).resolve_left here)
      exact ⟨faction₁, by rw [other k' here]; exact old.found, old.bottom, old.cap, old.war⟩
  · intro k' absent
    rw [told, List.mem_cons, not_or] at absent
    rw [other k' absent.1]
    exact changed.same k' absent.2

lemma Changed.SendState {before : ReputationMgr} (changed : Changed env before mgr) :
    Changed env before mgr.SendState where
  counted := changed.counted.SendState
  settled k member := by
    obtain ⟨faction, settled⟩ := changed.settled k member
    refine ⟨{ faction with needSend := false }, ?_, settled.bottom, settled.cap, settled.war⟩
    rw [lookup_SendState, settled.found]
    rfl
  same k absent := by
    rw [lookup_SendState, Option.map_map]
    exact changed.same k absent

/-- The player is told of every faction whose standing or flags change, and its standing is
settled. -/
lemma changed_SetReputation (counted : Counted env mgr)
    (member : factionEntry ∈ env.store.entries) (standing : ℤ) (incremental : Bool)
    (nothing : mgr.reputationChanged = []) :
    Changed env mgr (mgr.SetReputation env factionEntry standing incremental).2 := by
  refine SetReputation_keeps ?_ (fun _ changed => changed.SendState) member standing
    ⟨counted, by simp [nothing], fun _ _ => rfl⟩
  intro mgr factionEntry standing member changed
  rcases SetOneFactionReputation_cases changed.counted member standing incremental with same | setOne
  · rwa [same]
  · exact changed.of_setOne setOne

/-! ### Initialization and loading -/

lemma Counted.addFaction (counted : Counted env mgr) (member : factionEntry ∈ env.store.entries)
    (absent : 0 ≤ factionEntry.reputationListID →
      mgr._factions.lookup factionEntry.reputationListID.toNat = none) :
    Counted env (mgr.addFaction env factionEntry) := by
  rw [ReputationMgr.addFaction]
  split
  · exact counted
  next canHave =>
    have listed : 0 ≤ factionEntry.reputationListID := by
      simpa [FactionEntry.CanHaveReputation] using canHave
    let flags : FactionFlags := BitVec.ofNat 8 (env.GetDefaultStateFlags factionEntry)
    let k := factionEntry.reputationListID.toNat
    let newFaction : FactionState := ⟨factionEntry.ID, k, 0, flags, true, true⟩
    have rank : rankAt env k newFaction =
        ReputationToRank (env.GetBaseReputation factionEntry) := by
      rw [rankAt, baseAt, env.store.listEntry_eq member listed]
      simp [newFaction, int32_base]
    have total (f : ℕ → FactionState → ℕ) :
        Table.total f (mgr._factions.insert k newFaction) =
          f k newFaction + Table.total f mgr._factions :=
      Table.total_insert_of_none f mgr._factions k newFaction (absent listed)
    -- no counter goes down, as the rank that the faction has come from is a low one
    have counter (rank' : ReputationRank) (high : REP_HOSTILE < rank') : updateCount
        (UInt8.ofNat (number env mgr rank')) rank' REP_HOSTILE
          (ReputationToRank (env.GetBaseReputation factionEntry)) =
        UInt8.ofNat (Table.total (fun k faction => if rank' ≤ rankAt env k faction then 1 else 0)
          (mgr._factions.insert k newFaction)) := by
      refine updateCount_eq ?_
      rw [if_neg (not_le.mpr high), total, rank, number, Nat.add_comm, Nat.zero_add, Nat.add_comm]
    constructor
    · intro k' faction found
      rcases (Table.lookup_insert_iff ..).mp found with ⟨rfl, rfl⟩ | ⟨-, found⟩
      · rfl
      · exact counted.position k' faction found
    · have visible := total fun _ faction => if faction.Flags.has FACTION_FLAG_VISIBLE then 1 else 0
      refine (congrArg (· + if flags.has FACTION_FLAG_VISIBLE then 1 else 0) counted.visible).trans ?_
      rw [← UInt8_ofNat_add_ite, Nat.add_comm]
      exact (congrArg UInt8.ofNat visible).symm
    · exact (congrArg (updateCount · _ _ _) counted.honored).trans (counter REP_HONORED (by decide))
    · exact (congrArg (updateCount · _ _ _) counted.revered).trans (counter REP_REVERED (by decide))
    · exact (congrArg (updateCount · _ _ _) counted.exalted).trans (counter REP_EXALTED (by decide))

/-- No standing has been set yet. -/
def Fresh (mgr : ReputationMgr) (k : ℕ) : Prop :=
  ∀ faction, mgr._factions.lookup k = some faction → faction.Standing = 0

lemma lookup_addFaction (mgr : ReputationMgr) (factionEntry : FactionEntry) (k : ℕ)
    (faction : FactionState)
    (found : (mgr.addFaction env factionEntry)._factions.lookup k = some faction) :
    mgr._factions.lookup k = some faction ∨
      factionEntry.CanHaveReputation = true ∧ k = factionEntry.reputationListID.toNat ∧
        faction.Standing = 0 := by
  rw [ReputationMgr.addFaction] at found
  split at found
  · exact .inl found
  next canHave =>
    rcases (Table.lookup_insert_iff ..).mp found with ⟨rfl, rfl⟩ | ⟨-, found⟩
    · exact .inr ⟨by simpa using canHave, rfl, rfl⟩
    · exact .inl found

lemma counted_addFactions (entries : List FactionEntry) : ∀ mgr : ReputationMgr,
    (∀ f ∈ entries, f ∈ env.store.entries) →
    ((entries.filter FactionEntry.CanHaveReputation).map FactionEntry.reputationListID).Nodup →
    (∀ f ∈ entries, f.CanHaveReputation = true →
      mgr._factions.lookup f.reputationListID.toNat = none) →
    Counted env mgr → (∀ k, Fresh mgr k) →
    Counted env (entries.foldl (ReputationMgr.addFaction env) mgr) ∧
      ∀ k, Fresh (entries.foldl (ReputationMgr.addFaction env) mgr) k := by
  induction entries with
  | nil => exact fun mgr _ _ _ counted fresh => ⟨counted, fresh⟩
  | cons f rest ih =>
    intro mgr members nodup absent counted fresh
    have here : 0 ≤ f.reputationListID → mgr._factions.lookup f.reputationListID.toNat = none := by
      intro listed
      exact absent f (List.mem_cons_self ..) (by simpa [FactionEntry.CanHaveReputation] using listed)
    refine ih _ (fun g member => members g (List.mem_cons_of_mem _ member)) ?_ ?_
      (counted.addFaction (members f (List.mem_cons_self ..)) here) ?_
    · refine List.Nodup.sublist (List.Sublist.map _ (List.Sublist.filter _ ?_)) nodup
      exact List.sublist_cons_self f rest
    · intro g member canHave
      by_contra present
      obtain ⟨faction, found⟩ := Option.ne_none_iff_exists'.mp present
      rcases lookup_addFaction mgr f _ faction found with old | ⟨fCanHave, same, -⟩
      · rw [absent g (List.mem_cons_of_mem _ member) canHave] at old
        exact Option.some_ne_none faction old.symm
      · -- two factions of the list do not share a position
        have positions : g.reputationListID = f.reputationListID := by
          simp only [FactionEntry.CanHaveReputation, decide_eq_true_eq] at canHave fCanHave
          omega
        rw [List.filter_cons_of_pos fCanHave, List.map_cons, List.nodup_cons] at nodup
        exact nodup.1 (positions ▸ List.mem_map_of_mem (List.mem_filter.mpr ⟨member, canHave⟩))
    · intro k faction found
      rcases lookup_addFaction mgr f k faction found with old | ⟨-, -, zero⟩
      · exact fresh k faction old
      · exact zero

lemma counted_Initialize (env : Environment) : Counted env (ReputationMgr.Initialize env) ∧
    ∀ k, Fresh (ReputationMgr.Initialize env) k := by
  refine counted_addFactions env.store.entries _ (fun _ member => member) env.store.listed ?_ ?_ ?_
  · exact fun _ _ _ => rfl
  · exact ⟨fun _ _ found => by simp at found, rfl, rfl, rfl, rfl⟩
  · exact fun k faction found => by simp at found

def Row.About (env : Environment) (row : Row) (k : ℕ) : Prop :=
  ∃ f, env.store.LookupEntry row.faction = some f ∧ f.reputationListID = k

lemma Counted.loadRow (counted : Counted env mgr) (row : Row)
    (fresh : ∀ k, row.About env k → Fresh mgr k) :
    Counted env (mgr.loadRow env row) ∧
      ∀ k, ¬ row.About env k → (mgr.loadRow env row)._factions.lookup k = mgr._factions.lookup k := by
  cases known : env.store.LookupEntry row.faction with
  | none => simp only [ReputationMgr.loadRow, known]; exact ⟨counted, fun _ _ => trivial⟩
  | some f =>
    cases found : mgr.find f.reputationListID with
    | none => simp only [ReputationMgr.loadRow, known, found]; exact ⟨counted, fun _ _ => trivial⟩
    | some faction =>
      obtain ⟨listed, here⟩ := find_eq_some found
      have about : row.About env f.reputationListID.toNat := ⟨f, known, by omega⟩
      have position := counted.position _ faction here
      have base : baseAt env f.reputationListID.toNat = env.GetBaseReputation f := by
        rw [baseAt, env.store.listEntry_eq (FactionStore.mem_of_LookupEntry known) listed]
        rfl
      let rank := ReputationToRank (int32 (env.GetBaseReputation f + row.standing))
      let loaded := { faction with Standing := row.standing }.loadFlags row.flags (rank ≤ REP_HOSTILE)
      obtain ⟨reflagged, hidden, visible⟩ := FactionState.loadFlags_spec
        { faction with Standing := row.standing } row.flags (rank ≤ REP_HOSTILE)
      have key : loaded.1.ReputationListID = f.reputationListID.toNat :=
        reflagged.position.trans position
      have old : rankAt env f.reputationListID.toNat faction =
          ReputationToRank (env.GetBaseReputation f) := by
        rw [rankAt, fresh _ about faction here, base, Int.zero_add, int32_base]
      have new : rankAt env f.reputationListID.toNat loaded.1 = rank := by
        rw [rankAt, reflagged.standing, base, Int.add_comm]
      have result : mgr.loadRow env row =
          { (mgr.UpdateRankCounters (ReputationToRank (env.GetBaseReputation f)) rank).update
              loaded.1 with
            _visibleFactionCount := mgr._visibleFactionCount + if loaded.2 then 1 else 0 } := by
        simp only [ReputationMgr.loadRow, known, found]
        rfl
      have replaced : Replaced env mgr (mgr.loadRow env row) f.reputationListID.toNat faction
          loaded.1 := by
        rw [result]
        refine ⟨here, ?_, key, ⟨_, hidden, visible, rfl⟩, ?_, ?_, ?_⟩
        · rw [← key]
          rfl
        · rw [old, new]
          rfl
        · rw [old, new]
          rfl
        · rw [old, new]
          rfl
      refine ⟨replaced.counted counted, fun k other => ?_⟩
      rw [replaced.factions, AList.lookup_insert_ne]
      rintro rfl
      exact other about

/-- There is at most one row for a faction, so that every row finds its faction without a
standing. -/
lemma counted_LoadFromDB (rows : List Row) (nodup : (rows.map Row.faction).Nodup) :
    Counted env (ReputationMgr.LoadFromDB env rows) := by
  suffices h : ∀ mgr : ReputationMgr, Counted env mgr →
      (∀ row ∈ rows, ∀ k, row.About env k → Fresh mgr k) →
      Counted env (rows.foldl (ReputationMgr.loadRow env) mgr) by
    obtain ⟨counted, fresh⟩ := counted_Initialize env
    exact h _ counted fun _ _ k _ => fresh k
  induction rows with
  | nil => exact fun mgr counted _ => counted
  | cons row rest ih =>
    intro mgr counted fresh
    obtain ⟨next, same⟩ := counted.loadRow row (fresh row (List.mem_cons_self ..))
    obtain ⟨first, others⟩ := List.nodup_cons.mp nodup
    refine ih others _ next fun row' member k about => ?_
    intro faction found
    refine fresh row' (List.mem_cons_of_mem _ member) k about faction ?_
    rw [← same k ?_]
    · exact found
    · rintro ⟨f, known, position⟩
      obtain ⟨f', known', position'⟩ := about
      have listed : f ∈ env.store.entries.filter FactionEntry.CanHaveReputation :=
        List.mem_filter.mpr ⟨FactionStore.mem_of_LookupEntry known,
          by simp [FactionEntry.CanHaveReputation, position]⟩
      have listed' : f' ∈ env.store.entries.filter FactionEntry.CanHaveReputation :=
        List.mem_filter.mpr ⟨FactionStore.mem_of_LookupEntry known',
          by simp [FactionEntry.CanHaveReputation, position']⟩
      have sameFaction := List.inj_on_of_nodup_map env.store.listed listed listed'
        (position.trans position'.symm)
      have id : f.ID = row.faction := by simpa using List.find?_some known
      have id' : f'.ID = row'.faction := by simpa using List.find?_some known'
      exact first (List.mem_map.mpr ⟨row', member, by rw [← id', ← id, sameFaction]⟩)

/-! ### Runs -/

lemma Counted.step (counted : Counted env mgr) (request : ReputationMgr.Request) :
    Counted env (mgr.step env request) := by
  have start : Counted env { mgr with reputationChanged := [] } :=
    ⟨counted.position, counted.visible, counted.honored, counted.revered, counted.exalted⟩
  cases request with
  | setReputation faction standing incremental =>
    simp only [ReputationMgr.step]
    split
    · exact start
    · next f known =>
      exact (changed_SetReputation start (FactionStore.mem_of_LookupEntry known) standing incremental
        rfl).counted
  | setVisible faction =>
    simp only [ReputationMgr.step]
    split
    · exact start
    · next f known => exact start.SetVisible f
  | setAtWar FactionIndexID => exact start.SetAtWar FactionIndexID true
  | setNotAtWar FactionIndexID => exact start.SetAtWar FactionIndexID false
  | setInactive FactionIndex Status => exact start.SetInactive FactionIndex Status

/-- In every state that requests lead to from what was loaded, the counters are the numbers of the
factions as far as eight bits hold them; and a request for a standing leaves every faction whose
standing or flags it changes between the bottom and the cap, and at war if it is hostile to the
player and not kept at peace. -/
theorem reputation_bookkeeping (env : Environment) (rows : List Row)
    (nodup : (rows.map Row.faction).Nodup) (requests : List ReputationMgr.Request) :
    let mgr := run (ReputationMgr.step env) (ReputationMgr.LoadFromDB env rows) requests
    (mgr._honoredFactionCount.toNat = number env mgr REP_HONORED % 2 ^ 8 ∧
      mgr._reveredFactionCount.toNat = number env mgr REP_REVERED % 2 ^ 8 ∧
      mgr._exaltedFactionCount.toNat = number env mgr REP_EXALTED % 2 ^ 8 ∧
      mgr._visibleFactionCount.toNat = numberVisible mgr % 2 ^ 8) ∧
    ∀ faction standing incremental,
      Changed env { mgr with reputationChanged := [] }
        (mgr.step env (.setReputation faction standing incremental)) := by
  intro mgr
  have counted : Counted env mgr :=
    run_keeps (Counted env) (fun _ request counted => counted.step request)
      (counted_LoadFromDB rows nodup) requests
  refine ⟨⟨?_, ?_, ?_, ?_⟩, fun faction standing incremental => ?_⟩
  · rw [counted.honored, UInt8.toNat_ofNat']
  · rw [counted.revered, UInt8.toNat_ofNat']
  · rw [counted.exalted, UInt8.toNat_ofNat']
  · rw [counted.visible, UInt8.toNat_ofNat']
  · have start : Counted env { mgr with reputationChanged := [] } :=
      ⟨counted.position, counted.visible, counted.honored, counted.revered, counted.exalted⟩
    simp only [ReputationMgr.step]
    split
    · exact ⟨start, by simp, fun _ _ => rfl⟩
    · next f known =>
      exact changed_SetReputation start (FactionStore.mem_of_LookupEntry known) standing incremental
        rfl

/-- Two cities of one side, each of which gets half of what the other gains. -/
def cityEntries : List FactionEntry :=
  [⟨469, -1, [], 0, 0, 0, 0⟩, ⟨72, 19, [⟨1, 0, 4000, 0x11⟩], 469, 1 / 2, 1, 7⟩,
    ⟨47, 20, [⟨1, 0, 3100, 0x01⟩], 469, 1 / 2, 1, 7⟩]

def cities : Environment where
  store := ⟨cityEntries, by decide, by decide⟩
  GetRepSpilloverTemplate _ := none
  raceMask := 1
  classMask := 1
  gain x := x
  mulFloat x y := x * y
  toInt32 x := x.num / x.den
  OnPlayerReputationChange _ standing _ := standing

def cityRows : List Row := [⟨72, 3000, 0x11⟩, ⟨47, 17000, 0x01⟩]

/-- A quest for the one city makes the player exalted in both; then its guards are killed. -/
def cityRequests : List ReputationMgr.Request :=
  [.setReputation 72 45000 true, .setAtWar 20, .setReputation 47 (-40000) false]

theorem reputation_bookkeeping_cities :
    let mgr := run (ReputationMgr.step cities) (ReputationMgr.LoadFromDB cities cityRows) cityRequests
    (mgr._honoredFactionCount.toNat = number cities mgr REP_HONORED % 2 ^ 8 ∧
      mgr._reveredFactionCount.toNat = number cities mgr REP_REVERED % 2 ^ 8 ∧
      mgr._exaltedFactionCount.toNat = number cities mgr REP_EXALTED % 2 ^ 8 ∧
      mgr._visibleFactionCount.toNat = numberVisible mgr % 2 ^ 8) ∧
    ∀ faction standing incremental,
      Changed cities { mgr with reputationChanged := [] }
        (mgr.step cities (.setReputation faction standing incremental)) :=
  reputation_bookkeeping cities cityRows (by decide) cityRequests

/-- As many factions as there are positions in the reputation list, all of them visible. -/
def crowdEntries : List FactionEntry :=
  (List.range 256).map fun i => ⟨i + 1, i, [⟨1, 0, 0, 1⟩], 0, 0, 0, 0⟩

lemma crowdEntries_distinct : (crowdEntries.map FactionEntry.ID).Nodup ∧
    ((crowdEntries.filter FactionEntry.CanHaveReputation).map
      FactionEntry.reputationListID).Nodup := by
  have canHave : ∀ f ∈ crowdEntries, f.CanHaveReputation = true := by
    simp [crowdEntries, FactionEntry.CanHaveReputation]
  rw [List.filter_eq_self.mpr canHave, crowdEntries, List.map_map, List.map_map]
  constructor
  · exact List.nodup_range.map fun i j same => Nat.succ_injective same
  · exact List.nodup_range.map fun i j same => Nat.cast_injective same

def crowd : Environment where
  store := ⟨crowdEntries, crowdEntries_distinct.1, crowdEntries_distinct.2⟩
  GetRepSpilloverTemplate _ := none
  raceMask := 1
  classMask := 1
  gain x := x
  mulFloat x y := x * y
  toInt32 x := x.num / x.den
  OnPlayerReputationChange _ standing _ := standing

/-- Eight bits do not hold the number of visible factions. -/
theorem visible_counter_wraps :
    (ReputationMgr.LoadFromDB crowd [])._visibleFactionCount.toNat ≠
      numberVisible (ReputationMgr.LoadFromDB crowd []) := by
  decide +kernel

end WorldServer.Reputation
