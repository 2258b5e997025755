import WorldServer.Guilds.RankTable

/-!
# A created guild and a loaded one

`Validate` replaces broken rank rows, moves ranks that are too high to the lowest
one and finds a leader. Its test for a rank that is too high lets the first one
outside the table pass.
-/
namespace WorldServer.Guilds

open WorldServer.Lib

/-- A guild as the loaders leave it: the rank rows come ordered by their key. -/
structure LoadedGuild extends Guild where
  sorted : (ranks.map (·.rankId)).Pairwise (· < ·)

namespace Guild

/-- Rank rows that are fit, whatever the members' ranks are. -/
structure RankRows (g : Guild) : Prop where
  ids : g.rankIds = List.range g.ranks.length
  least : 2 ≤ g.ranks.length
  most : g.ranks.length ≤ 10

variable {g : Guild} {lowguid : UInt32}

lemma RankRows.inv (rows : g.RankRows) (table : g.RankTable) : g.RankInv :=
  { toRankTable := table, least := rows.least, most := rows.most }

lemma RankRows.of_ranks {g' : Guild} (rows : g.RankRows) (hs : g'.ranks = g.ranks) :
    g'.RankRows := by
  refine ⟨?_, hs ▸ rows.least, hs ▸ rows.most⟩
  simpa [rankIds, hs] using rows.ids

lemma rankTable_iff (rows : g.RankRows) : g.RankTable ↔
    ∀ k m, g.members.lookup k = some m → m.rankId.toNat < g.ranks.length :=
  ⟨fun table => table.members, fun members => ⟨rows.ids, members⟩⟩

/-! ### Rank rows -/

lemma createDefaultGuildRanks_of_empty (w : World) (g : Guild) (empty : g.ranks = []) :
    (g.createDefaultGuildRanks w).rankIds = List.range 5 ∧
      (g.createDefaultGuildRanks w).members = g.members ∧
      (g.createDefaultGuildRanks w).leaderGuid = g.leaderGuid := by
  simp [createDefaultGuildRanks, createRank, getRanksSize, empty, guildRanksMaxCount, rankIds]
  decide

private lemma length_le_of_sorted {ids : List UInt8} (sorted : ids.Pairwise (· < ·)) :
    ids.length ≤ 256 := by
  have distinct : (ids.map UInt8.toNat).Nodup := by
    apply List.Nodup.map (fun a b same => UInt8.toNat_inj.mp same)
    exact sorted.imp fun below same => absurd (same ▸ below) (UInt8.lt_irrefl _)
  have inside : ids.map UInt8.toNat ⊆ List.range 256 := by
    intro n member
    obtain ⟨id, -, rfl⟩ := List.mem_map.mp member
    exact List.mem_range.mpr id.toNat_lt
  simpa using (List.subperm_of_subset distinct inside).length_le

def rankCount (g : Guild) : ℕ := if g.brokenRanks then 5 else g.ranks.length

lemma repairRanks_spec (w : World) (g : LoadedGuild) :
    (g.toGuild.repairRanks w).RankRows ∧
      (g.toGuild.repairRanks w).ranks.length = g.toGuild.rankCount ∧
      (g.toGuild.repairRanks w).members = g.members ∧
      (g.toGuild.repairRanks w).leaderGuid = g.leaderGuid := by
  unfold repairRanks rankCount
  split
  next broken =>
    obtain ⟨ids, members, leader⟩ :=
      createDefaultGuildRanks_of_empty w { g.toGuild with ranks := [] } rfl
    have length := congrArg List.length ids
    simp only [length_rankIds, List.length_range] at length
    exact ⟨⟨by rw [ids, length], by omega, by omega⟩, length, members, leader⟩
  next fit =>
    simp only [brokenRanks, Bool.or_eq_true, decide_eq_true_eq, List.any_eq_true, List.mem_range,
      not_or, not_exists, not_and, UInt8.lt_iff_toNat_lt] at fit
    obtain ⟨⟨least, most⟩, ids⟩ := fit
    have few : g.ranks.length ≤ 256 := by simpa using length_le_of_sorted g.sorted
    have size : g.toGuild.getRanksSize.toNat = g.ranks.length := by
      have bound : guildRanksMinCount.toNat = 2 := rfl
      simp only [getRanksSize, UInt8.toNat_ofNat'] at least ⊢
      rcases Nat.lt_or_ge g.ranks.length 256 with small | full
      · omega
      · -- 256 rows have the size zero on eight bits
        have : g.ranks.length = 256 := by omega
        omega
    rw [size] at least most ids
    have bounds : guildRanksMinCount.toNat = 2 ∧ guildRanksMaxCount.toNat = 10 := ⟨rfl, rfl⟩
    refine ⟨⟨?_, ?_, ?_⟩, by simp, rfl, rfl⟩
    · simp only [rankIds, List.map_map, List.length_map]
      apply List.ext_getElem (by simp)
      intro i inside _
      have here := ids i (by simpa using inside)
      simpa [List.getElem?_eq_getElem (show i < g.ranks.length by simpa using inside)] using here
    · simp only [List.length_map]; omega
    · simp only [List.length_map]; omega

/-! ### Members' ranks -/

lemma ranks_reRank (g : Guild) (newRank : UInt32 → Member → Option UInt8) :
    (g.reRank newRank).ranks = g.ranks := by
  unfold reRank
  generalize g.members.entries = entries
  induction entries generalizing g with
  | nil => rfl
  | cons e entries ih =>
    rw [List.foldl_cons, ih]
    cases newRank e.1 e.2 <;> simp

lemma leaderGuid_changeRank (g : Guild) (lowguid : UInt32) (newRank : UInt8) :
    (g.changeRank lowguid newRank).leaderGuid = g.leaderGuid := by
  unfold changeRank
  split <;> rfl

lemma leaderGuid_reRank (g : Guild) (newRank : UInt32 → Member → Option UInt8) :
    (g.reRank newRank).leaderGuid = g.leaderGuid := by
  unfold reRank
  generalize g.members.entries = entries
  induction entries generalizing g with
  | nil => rfl
  | cons e entries ih =>
    rw [List.foldl_cons, ih]
    cases newRank e.1 e.2 <;> simp [leaderGuid_changeRank]

private lemma lookup_changeRank_map (g : Guild) (lowguid k : UInt32) (newRank : UInt8) :
    (g.changeRank lowguid newRank).members.lookup k = (g.members.lookup k).map fun m =>
      if k = lowguid then { m with rankId := newRank } else m := by
  unfold changeRank
  by_cases same : k = lowguid
  · subst same
    split
    next old found => simp [AList.lookup_insert, found]
    next absent => simp [absent]
  · split
    next => simp [AList.lookup_insert_ne same, same]
    next => simp [same]

lemma lookup_reRank (g : Guild) (newRank : UInt32 → Member → Option UInt8) (k : UInt32) :
    (g.reRank newRank).members.lookup k = (g.members.lookup k).map fun m =>
      { m with rankId := (newRank k m).getD m.rankId } := by
  -- over a part of the entries: those done have their new ranks, the rest their old ones
  have partly : ∀ (entries : List (Sigma fun _ : UInt32 => Member)) (h : Guild),
      entries.NodupKeys → (∀ e ∈ entries, h.members.lookup e.1 = some e.2) →
      (entries.foldl (fun g e => (newRank e.1 e.2).elim g (g.changeRank e.1)) h).members.lookup k =
        (h.members.lookup k).map fun m =>
          if k ∈ entries.keys then { m with rankId := (newRank k m).getD m.rankId } else m := by
    intro entries
    induction entries with
    | nil => intro h _ _; simp
    | cons e entries ih =>
      intro h distinct stored
      obtain ⟨fresh, rest⟩ := List.nodupKeys_cons.mp distinct
      have here := stored e List.mem_cons_self
      have later : ∀ e' ∈ entries, e'.1 ≠ e.1 := fun e' hm hs =>
        fresh (hs ▸ List.mem_keys_of_mem hm)
      rw [List.foldl_cons]
      cases change : newRank e.1 e.2 with
      | none =>
        rw [Option.elim_none, ih h rest (fun e' hm => stored e' (List.mem_cons_of_mem e hm))]
        by_cases hs : k = e.1
        · subst hs
          simp [here, fresh, change]
        · simp [hs]
      | some rank =>
        rw [Option.elim_some, ih (h.changeRank e.1 rank) rest, lookup_changeRank_map]
        · by_cases hs : k = e.1
          · subst hs
            simp [here, fresh, change]
          · cases h.members.lookup k <;> simp [hs]
        · intro e' hm
          rw [lookup_changeRank_map, stored e' (List.mem_cons_of_mem e hm)]
          simp [later e' hm]
  have all := partly g.members.entries g g.members.nodupKeys fun e hm =>
    AList.mem_lookup_iff.mpr hm
  rw [reRank, all]
  cases hf : g.members.lookup k with
  | none => rfl
  | some m =>
    have hm : k ∈ g.members.entries.keys :=
      List.mem_keys_of_mem (AList.mem_lookup_iff.mp hf)
    simp [hm]

private lemma betterLeader_fold (lowguid : UInt32)
    (entries : List (Sigma fun _ : UInt32 => Member)) (best : Option (UInt32 × Member)) :
    (entries.foldl (betterLeader lowguid) best = none →
      best = none ∧ ∀ e ∈ entries, e.1 = lowguid) ∧
    ∀ b, entries.foldl (betterLeader lowguid) best = some b →
      (best = some b ∨ b.1 ≠ lowguid ∧ (⟨b.1, b.2⟩ : Sigma fun _ : UInt32 => Member) ∈ entries) ∧
      (∀ b', best = some b' → b.2.rankId ≤ b'.2.rankId) ∧
      ∀ e ∈ entries, e.1 ≠ lowguid → b.2.rankId ≤ e.2.rankId := by
  induction entries generalizing best with
  | nil =>
    refine ⟨fun none_ => ⟨none_, by simp⟩, fun b found => ⟨Or.inl found, ?_, by simp⟩⟩
    intro b' here
    obtain rfl : b = b' := Option.some.inj (found.symm.trans here)
    exact UInt8.le_refl _
  | cons e entries ih =>
    obtain ⟨without, with_⟩ := ih (betterLeader lowguid best e)
    rw [List.foldl_cons]
    by_cases skip : e.1 = lowguid
    · have same : betterLeader lowguid best e = best := if_pos skip
      rw [same] at without with_ ⊢
      constructor
      · intro stop
        exact ⟨(without stop).1, by simpa [skip] using (without stop).2⟩
      · intro b found
        obtain ⟨origin, least, rest⟩ := with_ b found
        refine ⟨origin.imp id (And.imp id (List.mem_cons_of_mem e)), least, ?_⟩
        simpa [skip] using rest
    · -- the step takes the lesser of the two, whichever it was
      have step : ∃ c, betterLeader lowguid best e = some c ∧
          (best = some c ∨ c = (e.1, e.2)) ∧ c.2.rankId ≤ e.2.rankId ∧
          ∀ b', best = some b' → c.2.rankId ≤ b'.2.rankId := by
        cases best with
        | none => exact ⟨(e.1, e.2), by simp [betterLeader, skip], Or.inr rfl, UInt8.le_refl _, by simp⟩
        | some b' =>
          by_cases less : e.2.rankId < b'.2.rankId
          · refine ⟨(e.1, e.2), by simp [betterLeader, skip, less], Or.inr rfl, UInt8.le_refl _, ?_⟩
            rintro _ ⟨⟩
            exact UInt8.le_of_lt less
          · refine ⟨b', by simp [betterLeader, skip, less], Or.inl rfl, UInt8.not_lt.mp less, ?_⟩
            rintro _ ⟨⟩
            exact UInt8.le_refl _
      obtain ⟨c, taken, origin, belowEntry, belowBest⟩ := step
      rw [taken] at without with_ ⊢
      constructor
      · intro stop
        cases (without stop).1
      · intro b found
        obtain ⟨source, least, rest⟩ := with_ b found
        have belowTaken := least c rfl
        refine ⟨?_, fun b' here => UInt8.le_trans belowTaken (belowBest b' here), ?_⟩
        · rcases source with ⟨⟨⟩⟩ | ⟨other, member⟩
          · rcases origin with before | rfl
            · exact Or.inl before
            · exact Or.inr ⟨skip, List.mem_cons_self⟩
          · exact Or.inr ⟨other, List.mem_cons_of_mem e member⟩
        · intro e' member other
          rcases List.mem_cons.mp member with rfl | member
          · exact UInt8.le_trans belowTaken belowEntry
          · exact rest e' member other

lemma newLeader_none (none_ : g.newLeader lowguid = none) (k : UInt32) (m : Member)
    (hf : g.members.lookup k = some m) : k = lowguid :=
  ((betterLeader_fold lowguid g.members.entries none).1 none_).2 ⟨k, m⟩
    (AList.mem_lookup_iff.mp hf)

lemma newLeader_some {k : UInt32} {m : Member} (some_ : g.newLeader lowguid = some (k, m)) :
    k ≠ lowguid ∧ g.members.lookup k = some m ∧
      ∀ k' m', k' ≠ lowguid → g.members.lookup k' = some m' → m.rankId ≤ m'.rankId := by
  obtain ⟨origin, -, least⟩ := (betterLeader_fold lowguid g.members.entries none).2 (k, m) some_
  rcases origin with ⟨⟨⟩⟩ | ⟨other, hm⟩
  refine ⟨other, AList.mem_lookup_iff.mpr hm, fun k' m' other' hf => ?_⟩
  exact least ⟨k', m'⟩ (AList.mem_lookup_iff.mp hf) other'

/-! ### Which loaded guilds come out with an intact table -/

/-- No member's rank is the number of ranks, unless that member is made the leader: the
recorded leader, or the only member where the recorded leader is none. -/
def LoadsHarmless (g : Guild) : Prop :=
  ∀ k m, g.members.lookup k = some m → m.rankId.toNat = g.rankCount →
    k = guidLopart g.leaderGuid ∨
      (g.isMember g.leaderGuid = false ∧ ∀ k' m', g.members.lookup k' = some m' → k' = k)

/-- Members whose ranks reach at most one past the table. -/
structure NearlyFit (g : Guild) : Prop extends RankRows g where
  near : ∀ k m, g.members.lookup k = some m → m.rankId.toNat ≤ g.ranks.length

/-- The table is intact once `crowned` has rank zero. -/
def FitButFor (g : Guild) (crowned : UInt32) : Prop :=
  ∀ k m, k ≠ crowned → g.members.lookup k = some m → m.rankId.toNat ≠ g.ranks.length

lemma reRank_secondMaster_iff (g : Guild) (rows : g.RankRows) :
    (g.reRank g.secondMaster).RankTable ↔ g.RankTable := by
  have least := rows.least
  rw [rankTable_iff rows, rankTable_iff (rows.of_ranks (ranks_reRank g g.secondMaster)), ranks_reRank]
  -- only members of rank zero change, and they become officers
  have officer : grOfficer.toNat = 1 := rfl
  have bound : ∀ k m, ((g.secondMaster k m).getD m.rankId).toNat < g.ranks.length ↔
      m.rankId.toNat < g.ranks.length := by
    intro k m
    unfold secondMaster
    split
    next demoted =>
      simp only [Member.isRank, Bool.and_eq_true, beq_iff_eq] at demoted
      simp only [Option.getD_some, demoted.1, officer, grGuildmaster, UInt8.toNat_zero]
      omega
    next => rfl
  constructor
  · intro after k m hf
    rw [← bound k m]
    exact after k { m with rankId := (g.secondMaster k m).getD m.rankId }
      (by rw [lookup_reRank, hf]; rfl)
  · intro before k m hf
    rw [lookup_reRank, Option.map_eq_some_iff] at hf
    obtain ⟨old, here, rfl⟩ := hf
    exact (bound k old).mpr (before k old here)

lemma setLeaderGuid_iff (g : Guild) (fit : g.NearlyFit) (k : UInt32) (leader : Member) :
    (g.setLeaderGuid k leader).RankTable ↔ g.FitButFor k := by
  have least := fit.least
  rw [rankTable_iff (fit.of_ranks (ranks_setLeaderGuid g k leader)), ranks_setLeaderGuid]
  constructor
  · intro table k' m other hf
    have below := table k' m ((lookup_changeRank _ k k' grGuildmaster m).mpr (Or.inr ⟨other, hf⟩))
    omega
  · intro fitting k' m hf
    rcases (lookup_changeRank _ k k' grGuildmaster m).mp hf with ⟨_, old, _, rfl⟩ | ⟨other, here⟩
    · simp only [grGuildmaster, UInt8.toNat_zero]
      omega
    · have near := fit.near k' m here
      have unequal := fitting k' m other here
      omega

lemma clamped_nearlyFit (g : Guild) (rows : g.RankRows) : (g.reRank g.tooHigh).NearlyFit := by
  have size := g.getRanksSize_toNat rows.most
  have fit : (g.reRank g.tooHigh).RankRows := rows.of_ranks (ranks_reRank g g.tooHigh)
  refine ⟨fit, fun k m hf => ?_⟩
  rw [lookup_reRank, Option.map_eq_some_iff] at hf
  obtain ⟨old, -, rfl⟩ := hf
  rw [ranks_reRank]
  unfold tooHigh
  split
  next high =>
    have least := rows.least
    have lowest := g.getLowestRankId_toNat rows.least rows.most
    simp only [Option.getD_some, lowest]
    omega
  next low =>
    rw [UInt8.lt_iff_toNat_lt, size] at low
    simpa using by omega

lemma clamped_past_iff (g : Guild) (rows : g.RankRows) (k : UInt32) :
    (∃ m, (g.reRank g.tooHigh).members.lookup k = some m ∧ m.rankId.toNat = g.ranks.length) ↔
      ∃ m, g.members.lookup k = some m ∧ m.rankId.toNat = g.ranks.length := by
  have size := g.getRanksSize_toNat rows.most
  have lowest := g.getLowestRankId_toNat rows.least rows.most
  have least := rows.least
  have hs : ∀ m, ((g.tooHigh k m).getD m.rankId).toNat = g.ranks.length ↔
      m.rankId.toNat = g.ranks.length := by
    intro m
    unfold tooHigh
    split
    next high =>
      rw [UInt8.lt_iff_toNat_lt, size] at high
      simp only [Option.getD_some, lowest]
      omega
    next => rfl
  simp only [lookup_reRank, Option.map_eq_some_iff]
  constructor
  · rintro ⟨m, ⟨old, hf, rfl⟩, past⟩
    exact ⟨old, hf, (hs old).mp past⟩
  · rintro ⟨old, hf, past⟩
    exact ⟨_, ⟨old, hf, rfl⟩, (hs old).mpr past⟩

lemma eraseMember_iff (rows : g.RankRows)
    (absent : ∀ k m, g.members.lookup k = some m → k ≠ lowguid) :
    (g.eraseMember lowguid).RankTable ↔ g.RankTable := by
  have erasedRows : (g.eraseMember lowguid).RankRows := rows.of_ranks rfl
  rw [rankTable_iff rows, rankTable_iff erasedRows]
  constructor
  · intro table k m hf
    exact table k m ((Table.lookup_erase_iff g.members lowguid k m).mpr ⟨absent k m hf, hf⟩)
  · intro table k m hf
    exact table k m ((Table.lookup_erase_iff g.members lowguid k m).mp hf).2

lemma repairLeader_iff (g : Guild) (fit : g.NearlyFit) :
    Holds RankTable g.repairLeader ↔ ∀ k m, g.members.lookup k = some m →
      m.rankId.toNat = g.ranks.length → k = guidLopart g.leaderGuid ∨
        (g.getMember g.leaderGuid = none ∧ ∀ k' m', g.members.lookup k' = some m' → k' = k) := by
  have least := fit.least
  unfold repairLeader
  cases leads : g.getMember g.leaderGuid with
  | some leader =>
    have crowned : Holds RankTable
        (if leader.isRank grGuildmaster then some g
          else some (g.setLeaderGuid (guidLopart g.leaderGuid) leader)) ↔
        g.FitButFor (guidLopart g.leaderGuid) := by
      split
      next master =>
        -- the recorded leader already has rank zero
        rw [holds_some, rankTable_iff fit.toRankRows]
        have zero : leader.rankId.toNat = 0 := by
          simp only [Member.isRank, beq_iff_eq] at master
          rw [master]; rfl
        constructor
        · intro table k m _ hf
          have below := table k m hf
          omega
        · intro fitting k m hf
          by_cases hs : k = guidLopart g.leaderGuid
          · subst hs
            obtain rfl : leader = m := Option.some.inj (leads.symm.trans hf)
            omega
          · have near := fit.near k m hf
            have unequal := fitting k m hs hf
            omega
      next => rw [holds_some, setLeaderGuid_iff g fit]
    simp only [crowned, reduceCtorEq, false_and, or_false]
    exact ⟨fun fitting k m hf past => by_contra fun other => fitting k m other hf past,
      fun only k m other hf past => other (only k m hf past)⟩
  | none =>
    have absent : ∀ k m, g.members.lookup k = some m → k ≠ guidLopart g.leaderGuid := by
      rintro k m hf rfl
      exact Option.some_ne_none m (hf.symm.trans leads)
    simp only [deleteMember, if_true, true_and]
    cases search : g.newLeader (guidLopart g.leaderGuid) with
    | none =>
      -- no successor means no members at all
      refine iff_of_true (holds_none _) fun k m hf => ?_
      exact absurd (newLeader_none search k m hf) (absent k m hf)
    | some successor =>
      obtain ⟨k₀, m₀⟩ := successor
      obtain ⟨other₀, hf₀, least₀⟩ := newLeader_some search
      have kept : (g.setLeaderGuid k₀ m₀).RankTable ↔ g.FitButFor k₀ := setLeaderGuid_iff g fit k₀ m₀
      have erased : ((g.setLeaderGuid k₀ m₀).eraseMember (guidLopart g.leaderGuid)).RankTable ↔
          (g.setLeaderGuid k₀ m₀).RankTable := by
        -- the recorded leader is no member, so nothing is erased
        apply eraseMember_iff (fit.of_ranks (ranks_setLeaderGuid g k₀ m₀))
        intro k m hf
        rcases (lookup_changeRank _ k₀ k grGuildmaster m).mp hf with ⟨rfl, _⟩ | ⟨_, here⟩
        · exact other₀
        · exact absent k m here
      simp only [Option.map_some, holds_some]
      rw [erased, kept]
      constructor
      · intro fitting k m hf past
        have chosen : k = k₀ := by_contra fun other => fitting k m other hf past
        subst chosen
        obtain rfl : m₀ = m := Option.some.inj (hf₀.symm.trans hf)
        refine Or.inr fun k' m' hf' => by_contra fun other => ?_
        -- a second member would be one past the table as well
        have near := fit.near k' m' hf'
        have above := UInt8.le_iff_toNat_le.mp (least₀ k' m' (absent k' m' hf') hf')
        exact fitting k' m' other hf' (by omega)
      · intro only k m other hf past
        rcases only k m hf past with rfl | alone
        · exact absent _ m hf rfl
        · exact other (alone k₀ m₀ hf₀).symm

lemma repairLeader_ranks (g : Guild) : Holds (fun g' => g'.ranks = g.ranks) g.repairLeader := by
  intro g' repaired
  unfold repairLeader at repaired
  split at repaired
  next missing =>
    simp only [deleteMember, if_true] at repaired
    obtain ⟨successor, -, rfl⟩ := Option.map_eq_some_iff.mp repaired
    exact ranks_setLeaderGuid g successor.1 successor.2
  next leader _ =>
    split at repaired
    · exact Option.some.inj repaired ▸ rfl
    · exact Option.some.inj repaired ▸ ranks_setLeaderGuid g (guidLopart g.leaderGuid) leader

lemma validate_rankRows (w : World) (g : LoadedGuild) : Holds RankRows (g.toGuild.validate w) := by
  obtain ⟨rows, -, -, -⟩ := repairRanks_spec w g
  intro g' validated
  simp only [validate, Option.map_eq_some_iff] at validated
  obtain ⟨h, led, rfl⟩ := validated
  have clamped := rows.of_ranks (ranks_reRank (g.toGuild.repairRanks w) (g.toGuild.repairRanks w).tooHigh)
  have fit := clamped.of_ranks (repairLeader_ranks _ h led)
  split
  · exact fit
  · exact fit.of_ranks (ranks_reRank _ _)

/-- A loaded guild comes out of validation with an intact table exactly when no member
that is not made leader has a rank one past it. -/
lemma validate_rankTable_iff (w : World) (g : LoadedGuild) :
    Holds RankTable (g.toGuild.validate w) ↔ g.toGuild.LoadsHarmless := by
  obtain ⟨rows, count, members, leader⟩ := repairRanks_spec w g
  generalize repaired : g.toGuild.repairRanks w = h at rows count members leader
  have clampedRows : (h.reRank h.tooHigh).RankRows := rows.of_ranks (ranks_reRank h h.tooHigh)
  have masters : Holds RankTable (g.toGuild.validate w) ↔
      Holds RankTable (h.reRank h.tooHigh).repairLeader := by
    simp only [validate, repaired]
    cases led : (h.reRank h.tooHigh).repairLeader with
    | none => simp
    | some g' =>
      have fit := clampedRows.of_ranks (repairLeader_ranks _ g' led)
      simp only [Option.map_some, holds_some]
      split
      · rfl
      · exact reRank_secondMaster_iff g' fit
  have lookups : ∀ k, (∃ m, (h.reRank h.tooHigh).members.lookup k = some m) ↔
      ∃ m, g.members.lookup k = some m := by
    intro k
    rw [lookup_reRank, members]
    cases g.members.lookup k <;> simp
  have past : ∀ k, (∃ m, (h.reRank h.tooHigh).members.lookup k = some m ∧
      m.rankId.toNat = (h.reRank h.tooHigh).ranks.length) ↔
      ∃ m, g.members.lookup k = some m ∧ m.rankId.toNat = g.toGuild.rankCount := by
    intro k
    rw [ranks_reRank, clamped_past_iff h rows, members, count]
  have missing : (h.reRank h.tooHigh).getMember (h.reRank h.tooHigh).leaderGuid = none ↔
      g.toGuild.isMember g.leaderGuid = false := by
    rw [getMember, leaderGuid_reRank, lookup_reRank, leader, members, isMember, getMember,
      Option.map_eq_none_iff, Option.isSome_eq_false_iff, Option.isNone_iff_eq_none]
  rw [masters, repairLeader_iff _ (clamped_nearlyFit h rows), leaderGuid_reRank, leader]
  rw [leaderGuid_reRank, leader] at missing
  constructor
  · intro crowned k m hf here
    obtain ⟨m', hf', here'⟩ := (past k).mpr ⟨m, hf, here⟩
    refine (crowned k m' hf' here').imp id (And.imp missing.mp ?_)
    intro alone k' n hm
    obtain ⟨n', hm'⟩ := (lookups k').mpr ⟨n, hm⟩
    exact alone k' n' hm'
  · intro crowned k m hf here
    obtain ⟨m', hf', here'⟩ := (past k).mp ⟨m, hf, here⟩
    refine (crowned k m' hf' here').imp id (And.imp missing.mpr ?_)
    intro alone k' n hm
    obtain ⟨n', hm'⟩ := (lookups k').mp ⟨n, hm⟩
    exact alone k' n' hm'

lemma RankInv.rows (inv : g.RankInv) : g.RankRows := ⟨inv.ids, inv.least, inv.most⟩

lemma create_rankInv {w : World} {leader : Character} (made : create w leader = some g) :
    g.RankInv := by
  unfold create at made
  dsimp only at made
  obtain ⟨ids, members, -⟩ := createDefaultGuildRanks_of_empty w
    { leaderGuid := leader.guid, level := 1, bankMoney := 0, ranks := [], members := ∅,
      bankTabs := [] } rfl
  generalize createDefaultGuildRanks w _ = h at made ids members
  have length : h.ranks.length = 5 := by
    have hs := congrArg List.length ids
    simpa using hs
  have inv : h.RankInv := {
    ids := by rw [ids, length]
    members := fun k m hf => by simp [members] at hf
    least := by omega
    most := by omega }
  rcases addMember_cases h leader grGuildmaster with refused | ⟨m, -, rank, entered⟩
  · simp [refused] at made
  · simp only [entered, Option.some.injEq] at made
    subst made
    apply inv.with_members
    intro k n hf
    rcases (Table.lookup_insert_iff h.members (guidLopart leader.guid) k m n).mp hf with
      ⟨_, rfl⟩ | ⟨_, before⟩
    · rw [rank, if_neg (by decide), length]
      decide
    · exact inv.members k n before

end Guild

end WorldServer.Guilds
