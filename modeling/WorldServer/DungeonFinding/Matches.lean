import WorldServer.DungeonFinding.Queue

/-!
# What a match is

A proposal comes from a check of some entries. The check counts players in eight bits, leaves out
those who ignore someone before them, searches roles and intersects the dungeons. Here the pieces
are put together: what holds of the players of every proposal a check creates.
-/
namespace WorldServer.DungeonFinding

open WorldServer.Lib

/-! ### The count -/

def LFGQueue.size (queue : LFGQueue) (guid : UInt64) : ℕ := (queue.data guid).roles.length

/-- The count with which a check goes on. -/
def Counted.accepted (counted : Counted) : Prop :=
  counted.numLfgGroups < 2 ∧ counted.numPlayers ≤ MAXGROUPSIZE

lemma Counted.accepted.five {counted : Counted} (accepted : counted.accepted) :
    counted.numPlayers.toNat ≤ 5 := UInt8.le_iff_toNat_le.mp accepted.2

section Count

variable {stores : Stores} {queue : LFGQueue} {counted counted' : Counted} {guid : UInt64}
  {check : List UInt64}

lemma countPlayers_cons (counts : countPlayers stores queue counted (guid :: check) = .ok counted')
    (accepted : counted'.accepted) :
    counted.accepted ∧ queue.QueueDataStore.lookup guid = some (queue.data guid) ∧
      countPlayers stores queue (counted.add stores guid (queue.data guid)) check =
        .ok counted' := by
  rw [countPlayers] at counts
  split at counts
  next goes =>
    split at counts
    · cases counts
    next data hf =>
      have here : queue.data guid = data := by simp [LFGQueue.data, hf]
      rw [here]
      exact ⟨goes, hf, counts⟩
  next stops =>
    cases counts
    exact absurd accepted stops

lemma countPlayers_accepted (counts : countPlayers stores queue counted check = .ok counted')
    (accepted : counted'.accepted) : counted.accepted := by
  cases check with
  | nil =>
    cases counts
    exact accepted
  | cons guid check => exact (countPlayers_cons counts accepted).1

lemma countPlayers_found (counts : countPlayers stores queue counted check = .ok counted')
    (accepted : counted'.accepted) :
    ∀ guid ∈ check, queue.QueueDataStore.lookup guid = some (queue.data guid) := by
  induction check generalizing counted with
  | nil => simp
  | cons guid check ih =>
    obtain ⟨-, hf, rest⟩ := countPlayers_cons counts accepted
    exact List.forall_mem_cons.mpr ⟨hf, ih rest⟩

lemma Counted.add_numPlayers (stores : Stores) (queue : LFGQueue) (guid : UInt64)
    (counted : Counted) :
    (counted.add stores guid (queue.data guid)).numPlayers.toNat =
      (counted.numPlayers.toNat + queue.size guid) % 256 := by
  simp [Counted.add, LFGQueue.size, UInt8.toNat_add, UInt8.toNat_ofNat']

/-- An entry that is not the last one has at most five players, if it is no larger than the count
can tell. -/
lemma countPlayers_first {next : UInt64}
    (counts : countPlayers stores queue counted (guid :: next :: check) = .ok counted')
    (accepted : counted'.accepted) (start : counted.numPlayers = 0)
    (small : queue.size guid ≤ 255) : queue.size guid ≤ 5 := by
  obtain ⟨-, -, rest⟩ := countPlayers_cons counts accepted
  have five := (countPlayers_accepted rest accepted).five
  rw [Counted.add_numPlayers, start, UInt8.toNat_zero, Nat.zero_add,
    Nat.mod_eq_of_lt (by omega)] at five
  exact five

/-- Where only the last entry may have more than five players, the count wraps at most once. -/
lemma countPlayers_total (counts : countPlayers stores queue counted check = .ok counted')
    (accepted : counted'.accepted) (some : check ≠ [])
    (others : ∀ guid ∈ check.dropLast, queue.size guid ≤ 5)
    (small : ∀ guid ∈ check, queue.size guid ≤ 255) :
    counted.numPlayers.toNat + (check.map queue.size).sum ≤ 260 ∧
      counted'.numPlayers.toNat =
        (counted.numPlayers.toNat + (check.map queue.size).sum) % 256 := by
  induction check generalizing counted with
  | nil => exact absurd rfl some
  | cons guid check ih =>
    obtain ⟨before, -, rest⟩ := countPlayers_cons counts accepted
    have five := before.five
    have added := Counted.add_numPlayers stores queue guid counted
    cases check with
    | nil =>
      cases rest
      have last := small guid List.mem_cons_self
      simp only [List.map_cons, List.map_nil, List.sum_cons, List.sum_nil, Nat.add_zero]
      exact ⟨by omega, added⟩
    | cons next check =>
      have here := others guid List.mem_cons_self
      have exact_ : (counted.add stores guid (queue.data guid)).numPlayers.toNat =
          counted.numPlayers.toNat + queue.size guid := by
        rw [added, Nat.mod_eq_of_lt (by omega)]
      have total := ih rest (List.cons_ne_nil _ _)
        (fun guid hm => others guid (List.mem_cons_of_mem _ hm))
        (fun guid hm => small guid (List.mem_cons_of_mem _ hm))
      rw [exact_, Nat.add_assoc] at total
      exact total

lemma countPlayers_groups (counts : countPlayers stores queue counted check = .ok counted')
    (accepted : counted'.accepted) :
    counted.numLfgGroups.toNat + check.countP stores.IsLfgGroup = counted'.numLfgGroups.toNat := by
  induction check generalizing counted with
  | nil =>
    cases counts
    rfl
  | cons guid check ih =>
    obtain ⟨before, -, rest⟩ := countPlayers_cons counts accepted
    have below : counted.numLfgGroups.toNat < 2 := UInt8.lt_iff_toNat_lt.mp before.1
    have total := ih rest
    by_cases isGroup : stores.IsLfgGroup guid
    · have next : (counted.add stores guid (queue.data guid)).numLfgGroups.toNat =
          counted.numLfgGroups.toNat + 1 := by
        simp only [Counted.add, isGroup, if_true]
        exact toNat_add_one (by omega)
      rw [List.countP_cons_of_pos isGroup]
      omega
    · have next : (counted.add stores guid (queue.data guid)).numLfgGroups =
          counted.numLfgGroups := by
        simp [Counted.add, isGroup]
      rw [next] at total
      rw [List.countP_cons_of_neg isGroup]
      exact total

end Count

/-! ### The players -/

/-- What holds of the roles gathered so far. -/
structure Gathered (w : World) (its groles : LfgRolesMap) : Prop where
  ordered : groles.Pairwise fun a b => a.1 < b.1
  friendly : ∀ a ∈ groles, ∀ b ∈ groles, a.1 ≠ b.1 → w.HasIgnore a.1 b.1 = false
  selected : ∀ it ∈ groles, it ∈ its
  few : groles.length ≤ its.length

variable {groles : LfgRolesMap} {proposal : LfgProposal} {queue' : LFGQueue}

lemma LfgRolesMap.mem_set {guid : UInt64} {role : UInt8} {it : UInt64 × UInt8}
    (hm : it ∈ groles.set guid role) : it = (guid, role) ∨ it ∈ groles := by
  induction groles with
  | nil => simpa [LfgRolesMap.set] using hm
  | cons head rest ih =>
    rw [LfgRolesMap.set] at hm
    split at hm
    · exact List.mem_cons.mp hm
    · split at hm
      · rcases List.mem_cons.mp hm with hs | inRest
        · exact .inl hs
        · exact .inr (List.mem_cons_of_mem _ inRest)
      · rcases List.mem_cons.mp hm with hs | inRest
        · exact .inr (hs ▸ List.mem_cons_self)
        · exact (ih inRest).imp_right (List.mem_cons_of_mem _)

lemma LfgRolesMap.length_set (groles : LfgRolesMap) (guid : UInt64) (role : UInt8) :
    (groles.set guid role).length ≤ groles.length + 1 := by
  induction groles with
  | nil => simp [LfgRolesMap.set]
  | cons head rest ih =>
    rw [LfgRolesMap.set]
    split
    · simp
    · split
      · simp
      · simpa using ih

lemma LfgRolesMap.set_ordered (ordered : groles.Pairwise fun a b => a.1 < b.1) (guid : UInt64)
    (role : UInt8) : (groles.set guid role).Pairwise fun a b => a.1 < b.1 := by
  induction groles with
  | nil => simp [LfgRolesMap.set]
  | cons head rest ih =>
    obtain ⟨first, ordered⟩ := List.pairwise_cons.mp ordered
    rw [LfgRolesMap.set]
    split
    next less =>
      refine List.pairwise_cons.mpr ⟨?_, List.pairwise_cons.mpr ⟨first, ordered⟩⟩
      refine List.forall_mem_cons.mpr ⟨less, fun it hm => ?_⟩
      exact UInt64.lt_trans less (first it hm)
    next notLess =>
      split
      next hs => exact List.pairwise_cons.mpr ⟨fun it hm => hs ▸ first it hm, ordered⟩
      next other =>
        have more : head.1 < guid := by
          rcases UInt64.lt_or_lt_of_ne other with less | more
          · exact absurd less notLess
          · exact more
        refine List.pairwise_cons.mpr ⟨fun it hm => ?_, ih ordered⟩
        rcases LfgRolesMap.mem_set hm with rfl | inRest
        · exact more
        · exact first it inRest

variable {its rest : LfgRolesMap} {again : LfgRolesMap → Option LfgRolesMap}

lemma Gathered.add {w : World} (gathered : Gathered w its groles) (it : UInt64 × UInt8) :
    Gathered w (its ++ [it]) (addPlayer w groles it) := by
  unfold addPlayer
  split
  · refine ⟨gathered.ordered, gathered.friendly, fun other hm => ?_, ?_⟩
    · exact List.mem_append_left _ (gathered.selected other hm)
    · have few := gathered.few
      simp only [List.length_append, List.length_singleton]
      omega
  next nobody =>
    have peace : ∀ other ∈ groles, it.1 ≠ other.1 → w.HasIgnore it.1 other.1 = false := by
      simpa using nobody
    refine ⟨LfgRolesMap.set_ordered gathered.ordered it.1 it.2, ?_, ?_, ?_⟩
    · intro a inA b inB other
      rcases LfgRolesMap.mem_set inA with rfl | inA <;> rcases LfgRolesMap.mem_set inB with rfl | inB
      · exact absurd rfl other
      · exact peace b inB other
      · rw [w.HasIgnore_symm]
        exact peace a inA other.symm
      · exact gathered.friendly a inA b inB other
    · intro other hm
      rcases LfgRolesMap.mem_set hm with rfl | hm
      · exact List.mem_append_right _ (List.mem_singleton_self _)
      · exact List.mem_append_left _ (gathered.selected other hm)
    · have few := gathered.few
      have more := groles.length_set it.1 it.2
      simp only [List.length_append, List.length_singleton]
      omega

lemma gathered_foldl {w : World} (gathered : Gathered w its groles) (more : LfgRolesMap) :
    Gathered w (its ++ more) (more.foldl (addPlayer w) groles) := by
  induction more generalizing its groles with
  | nil => simpa using gathered
  | cons it more ih => simpa using ih (gathered.add it)

lemma gatherRoles_gathered (w : World) (queue : LFGQueue) (check : List UInt64) :
    Gathered w (check.flatMap fun guid => (queue.data guid).roles) (gatherRoles w queue check) := by
  have empty : Gathered w [] [] :=
    ⟨.nil, fun a hm => absurd hm List.not_mem_nil,
      fun a hm => absurd hm List.not_mem_nil, le_rfl⟩
  have all := gathered_foldl empty (check.flatMap fun guid => (queue.data guid).roles)
  rwa [List.nil_append] at all

lemma length_gatherRoles (w : World) (queue : LFGQueue) (check : List UInt64) :
    (gatherRoles w queue check).length ≤ (check.map queue.size).sum := by
  have few := (gatherRoles_gathered w queue check).few
  rw [List.length_flatMap] at few
  exact few

lemma mem_gatherDungeons {queue : LFGQueue} {check : List UInt64} {dungeon : UInt32}
    (hm : dungeon ∈ gatherDungeons queue check) :
    ∀ guid ∈ check, dungeon ∈ (queue.data guid).dungeons := by
  have all : ∀ (check : List UInt64) (dungeons : List UInt32),
      dungeon ∈ check.foldl (fun dungeons guid =>
        dungeons.filter (· ∈ (queue.data guid).dungeons)) dungeons →
      dungeon ∈ dungeons ∧ ∀ guid ∈ check, dungeon ∈ (queue.data guid).dungeons := by
    intro check
    induction check with
    | nil => simp
    | cons guid check ih =>
      intro dungeons hm
      obtain ⟨kept, rest⟩ := ih _ hm
      obtain ⟨was, here⟩ := List.mem_filter.mp kept
      exact ⟨was, List.forall_mem_cons.mpr ⟨of_decide_eq_true here, rest⟩⟩
  cases check with
  | nil => simp
  | cons guid check =>
    obtain ⟨here, rest⟩ := all check _ hm
    exact List.forall_mem_cons.mpr ⟨here, rest⟩

lemma getD_pick {dungeons : List UInt32} (some : dungeons.isEmpty = false) (pick : ℕ) :
    dungeons.getD (pick % dungeons.length) 0 ∈ dungeons := by
  have positive : 0 < dungeons.length := by
    rw [List.length_pos_iff]
    rintro rfl
    cases some
  have inside := Nat.mod_lt pick positive
  rw [List.getD_eq_getElem _ _ inside]
  exact List.getElem_mem inside

/-! ### The proposal -/

/-- What is promised of a match: five players, none of whom ignores another, at most one group of
the finder, a dungeon that every entry selected, and for each player one of his roles. -/
structure Sound (w : World) (stores : Stores) (queue : LFGQueue) (proposal : LfgProposal) :
    Prop where
  five : proposal.players.length = 5
  distinct : (proposal.players.map Prod.fst).Nodup
  friendly : ∀ a ∈ proposal.players, ∀ b ∈ proposal.players, a.1 ≠ b.1 →
    w.HasIgnore a.1 b.1 = false
  oneGroup : proposal.queues.countP stores.IsLfgGroup ≤ 1
  dungeon : ∀ guid ∈ proposal.queues, ∃ data, queue.QueueDataStore.lookup guid = some data ∧
    proposal.dungeonId ∈ data.dungeons
  tank : (proposal.players.countP fun player => player.2.role = PLAYER_ROLE_TANK) = 1
  healer : (proposal.players.countP fun player => player.2.role = PLAYER_ROLE_HEALER) = 1
  damage : (proposal.players.countP fun player => player.2.role = PLAYER_ROLE_DAMAGE) = 3
  selected : ∀ player ∈ proposal.players, ∃ guid ∈ proposal.queues, ∃ data,
    queue.QueueDataStore.lookup guid = some data ∧ ∃ roles, (player.1, roles) ∈ data.roles ∧
      player.2.role &&& roles = player.2.role

/-- A check of several entries that does not find them incompatible. -/
def Verdict.accepts : Verdict → Bool
  | .missing _ => false
  | .compatibles found => !found.incompatible
  | .proposal _ => true

section Verdicts

variable {w : World} {stores : Stores} {queue : LFGQueue} {id : UInt32} {check : List UInt64}

lemma countPlayers_of_accepts (several : 1 < check.length)
    (accepts : (verdict w stores queue id check).accepts = true) :
    ∃ counted, countPlayers stores queue .init check = .ok counted ∧ counted.accepted := by
  rw [verdict] at accepts
  split at accepts
  · cases accepts
  next counted counts =>
    refine ⟨counted, counts, ?_⟩
    rw [if_neg (by omega)] at accepts
    split at accepts
    · cases accepts
    next groups =>
      split at accepts
      · cases accepts
      next players =>
        refine ⟨?_, UInt8.not_lt.mp players⟩
        rw [UInt8.lt_iff_toNat_lt] at groups ⊢
        have one : (1 : UInt8).toNat = 1 := rfl
        have two : (2 : UInt8).toNat = 2 := rfl
        omega

/-- A proposal from several entries. -/
structure Proposed (w : World) (stores : Stores) (queue : LFGQueue) (id : UInt32)
    (check : List UInt64) (counted : Counted) (proposal : LfgProposal) : Prop where
  counts : countPlayers stores queue .init check = .ok counted
  players : counted.numPlayers = MAXGROUPSIZE
  nobodyLeft : counted.numPlayers = UInt8.ofNat (gatherRoles w queue check).length
  roles : (CheckGroupRoles (gatherRoles w queue check)).2 = true
  dungeons : (gatherDungeons queue check).isEmpty = false
  made : proposal = makeProposal w stores id check counted (gatherDungeons queue check)
    (CheckGroupRoles (gatherRoles w queue check)).1

lemma proposed_of_verdict (several : 1 < check.length)
    (hf : verdict w stores queue id check = .proposal proposal) :
    ∃ counted, Proposed w stores queue id check counted proposal := by
  rw [verdict] at hf
  split at hf
  · cases hf
  next counted counts =>
    simp only [several, true_and, if_true] at hf
    rw [if_neg (by omega)] at hf
    refine ⟨counted, ?_⟩
    split at hf
    · cases hf
    · split at hf
      · cases hf
      · split at hf
        · cases hf
        next hs =>
          split at hf
          · cases hf
          next roles =>
            split at hf
            · cases hf
            next dungeons =>
              split at hf
              · cases hf
              next players =>
                split at hf
                · cases hf
                · cases hf
                  exact ⟨counts, not_not.mp players, by simpa [sub_eq_zero] using hs,
                    by simpa using roles, by simpa using dungeons, rfl⟩

end Verdicts

lemma countP_players (groles : LfgRolesMap) (f : UInt64 × UInt8 → LfgProposalPlayer)
    (hs : ∀ it, (f it).role = it.2) (bit : UInt8) :
    ((groles.map fun it => (it.1, f it)).countP fun player => player.2.role = bit) =
      groles.countRole bit := by
  rw [List.countP_map, LfgRolesMap.countRole]
  congr 1
  funext it
  simp [hs]

/-- Entries of which all but the last have at most five players make a sound proposal. -/
lemma Proposed.sound {w : World} {stores : Stores} {queue : LFGQueue} {id : UInt32}
    {check : List UInt64} {counted : Counted}
    (proposed : Proposed w stores queue id check counted proposal) (some : check ≠ [])
    (accepted : counted.accepted) (others : ∀ guid ∈ check.dropLast, queue.size guid ≤ 5)
    (small : ∀ guid ∈ check, queue.size guid ≤ 255) : Sound w stores queue proposal := by
  have gathered := gatherRoles_gathered w queue check
  have hf := countPlayers_found proposed.counts accepted
  obtain ⟨narrowed, fits⟩ := CheckGroupRoles_sound proposed.roles
  -- the count is exact, so nobody was left out
  have five : (gatherRoles w queue check).length = 5 := by
    obtain ⟨bound, total⟩ := countPlayers_total proposed.counts accepted some others small
    have few := length_gatherRoles w queue check
    have hs := proposed.nobodyLeft
    rw [proposed.players] at total hs
    have hs := congrArg UInt8.toNat hs
    rw [UInt8.toNat_ofNat'] at hs
    have start : Counted.init.numPlayers.toNat = 0 := rfl
    have full : MAXGROUPSIZE.toNat = 5 := rfl
    omega
  have length : (CheckGroupRoles (gatherRoles w queue check)).1.length = 5 :=
    narrowed.length_eq.symm.trans five
  obtain ⟨tank, healer, damage⟩ := fits.full length
  have back : ∀ player ∈ proposal.players,
      ∃ it ∈ gatherRoles w queue check, player.1 = it.1 ∧ player.2.role &&& it.2 = player.2.role := by
    intro player hm
    rw [proposed.made] at hm
    obtain ⟨new, inNew, rfl⟩ := List.mem_map.mp hm
    exact narrowed.selected inNew
  rw [proposed.made] at back ⊢
  refine
    { five := by simpa [makeProposal] using length
      distinct := ?_
      friendly := ?_
      oneGroup := ?_
      dungeon := fun guid hm => ⟨queue.data guid, hf guid hm,
        mem_gatherDungeons (getD_pick proposed.dungeons _) guid hm⟩
      tank := (countP_players _ _ (fun _ => rfl) _).trans tank
      healer := (countP_players _ _ (fun _ => rfl) _).trans healer
      damage := (countP_players _ _ (fun _ => rfl) _).trans damage
      selected := ?_ }
  · have keys : (makeProposal w stores id check counted (gatherDungeons queue check)
        (CheckGroupRoles (gatherRoles w queue check)).1).players.map Prod.fst =
        (gatherRoles w queue check).keys := by
      rw [← narrowed.keys_eq]
      simp [makeProposal, LfgRolesMap.keys]
    rw [keys]
    exact List.pairwise_map.mpr (gathered.ordered.imp UInt64.ne_of_lt)
  · intro a inA b inB other
    obtain ⟨it, inIts, sameA, -⟩ := back a inA
    obtain ⟨it', inIts', sameB, -⟩ := back b inB
    rw [sameA, sameB] at other ⊢
    exact gathered.friendly it inIts it' inIts' other
  · have groups := countPlayers_groups proposed.counts accepted
    have below : counted.numLfgGroups.toNat < 2 := UInt8.lt_iff_toNat_lt.mp accepted.1
    change check.countP stores.IsLfgGroup ≤ 1
    omega
  · intro player hm
    obtain ⟨it, inIts, hs, chosen⟩ := back player hm
    obtain ⟨guid, inCheck, selected⟩ := List.mem_flatMap.mp (gathered.selected it inIts)
    exact ⟨guid, inCheck, queue.data guid, hf guid inCheck, it.2, hs ▸ selected, chosen⟩

/-! ### A whole check -/

namespace LFGQueue

variable (queue : LFGQueue) (guid : UInt64)

@[simp] lemma leave_data (check : List UInt64) :
    (check.foldl (fun queue guid => (queue.RemoveFromNewQueue guid).RemoveFromCurrentQueue guid)
      queue).QueueDataStore = queue.QueueDataStore := by
  induction check generalizing queue with
  | nil => rfl
  | cons guid check ih => exact ih _

lemma RemoveFromQueue_data_of_none {guid : UInt64}
    (absent : queue.QueueDataStore.lookup guid = none) :
    (queue.RemoveFromQueue guid).QueueDataStore = queue.QueueDataStore :=
  queue.QueueDataStore.erase_of_none absent

end LFGQueue

lemma countPlayers_missing {stores : Stores} {queue : LFGQueue} {counted : Counted}
    {check : List UInt64} {guid : UInt64}
    (missing : countPlayers stores queue counted check = .error guid) :
    queue.QueueDataStore.lookup guid = none := by
  induction check generalizing counted with
  | nil => cases missing
  | cons guid' check ih =>
    rw [countPlayers] at missing
    split at missing
    · split at missing
      next absent =>
        cases missing
        exact absent
      · exact ih missing
    · cases missing

lemma verdict_missing {w : World} {stores : Stores} {queue : LFGQueue} {id : UInt32}
    {check : List UInt64} {guid : UInt64}
    (missing : verdict w stores queue id check = .missing guid) :
    queue.QueueDataStore.lookup guid = none := by
  rw [verdict] at missing
  split at missing
  next absent =>
    cases missing
    exact countPlayers_missing absent
  · dsimp only at missing
    split_ifs at missing

lemma Sound.congr {w : World} {stores : Stores} {queue : LFGQueue}
    (sound : Sound w stores queue' proposal) (hs : queue'.QueueDataStore = queue.QueueDataStore) :
    Sound w stores queue proposal := by
  refine { sound with dungeon := ?_, selected := ?_ }
  · have dungeon := sound.dungeon
    rwa [hs] at dungeon
  · have selected := sound.selected
    rwa [hs] at selected

namespace Matching

variable {w : World} {stores : Stores} {s : Matching} {check : List UInt64}

section

variable (w stores s check)

lemma checkThese_data :
    (s.checkThese w stores check).1.queue.QueueDataStore = s.queue.QueueDataStore := by
  unfold checkThese
  split
  next missing => exact s.queue.RemoveFromQueue_data_of_none (verdict_missing missing)
  · rfl
  · exact s.queue.leave_data check

lemma CheckCompatibility_data :
    (s.CheckCompatibility w stores check).1.queue.QueueDataStore = s.queue.QueueDataStore := by
  induction check with
  | nil => rfl
  | cons frontGuid rest ih =>
    rw [CheckCompatibility]
    dsimp only
    split
    · rfl
    · split
      · split
        · exact ih
        · exact (checkThese_data ..).trans ih
      · exact checkThese_data ..

end

lemma accepts_of_checkThese
    (compatible : (s.checkThese w stores check).2.incompatible = false) :
    (verdict w stores s.queue s.proposals.nextId check).accepts = true := by
  unfold checkThese at compatible
  split at compatible
  · cases compatible
  next hf => simpa [hf, Verdict.accepts] using compatible
  next hf => simp [hf, Verdict.accepts]

/-- No entry has more players than a count of eight bits can tell. -/
def Small (queue : LFGQueue) (check : List UInt64) : Prop :=
  ∀ guid ∈ check, ∀ data, queue.QueueDataStore.lookup guid = some data → data.roles.length ≤ 255

lemma Small.size {queue : LFGQueue} (small : Small queue check) :
    ∀ guid ∈ check, queue.size guid ≤ 255 := by
  intro guid hm
  cases hf : queue.QueueDataStore.lookup guid with
  | none => simp [LFGQueue.size, LFGQueue.data, hf]
  | some data => simpa [LFGQueue.size, LFGQueue.data, hf] using small guid hm data hf

lemma first_size {queue : LFGQueue} {id : UInt32} {guid next : UInt64} {rest : List UInt64}
    (small : Small queue (guid :: next :: rest))
    (accepts : (verdict w stores queue id (guid :: next :: rest)).accepts = true) :
    queue.size guid ≤ 5 := by
  obtain ⟨counted, counts, accepted⟩ := countPlayers_of_accepts (by simp) accepts
  exact countPlayers_first counts accepted rfl (small.size guid List.mem_cons_self)

lemma size_congr {queue : LFGQueue} (hs : queue'.QueueDataStore = queue.QueueDataStore) :
    queue'.size = queue.size := by
  funext guid
  rw [LFGQueue.size, LFGQueue.size, LFGQueue.data, LFGQueue.data, hs]

lemma Small.congr {queue : LFGQueue} (small : Small queue check)
    (hs : queue'.QueueDataStore = queue.QueueDataStore) : Small queue' check := by
  intro guid hm data hf
  rw [hs] at hf
  exact small guid hm data hf

/-- The checks within have seen every suffix, so that only the last entry can be large. -/
lemma others_small (small : Small s.queue check) (several : 1 < check.length)
    (compatible : (s.CheckCompatibility w stores check).2.incompatible = false) :
    ∀ guid ∈ check.dropLast, s.queue.size guid ≤ 5 := by
  induction check with
  | nil => simp
  | cons frontGuid rest ih =>
    cases rest with
    | nil => simp at several
    | cons next rest =>
      rw [CheckCompatibility] at compatible
      dsimp only at compatible
      split at compatible
      · cases compatible
      · have inRest : Small s.queue (next :: rest) :=
          fun guid hm => small guid (List.mem_cons_of_mem _ hm)
        split at compatible
        next three =>
          have data := CheckCompatibility_data w stores s (next :: rest)
          split at compatible
          next child => rw [child] at compatible; cases compatible
          next child =>
            have first := first_size (small.congr data) (accepts_of_checkThese compatible)
            rw [size_congr data] at first
            exact List.forall_mem_cons.mpr ⟨first,
              ih inRest (by simpa using three) (by simpa using child)⟩
        next two =>
          have first := first_size small (accepts_of_checkThese compatible)
          have last : rest = [] := by
            rw [List.length_cons, List.length_cons] at two
            exact List.length_eq_zero_iff.mp (by omega)
          subst last
          simpa using first

/-- A proposal that a step has put into the store. -/
def Created (s s' : Matching) (proposal : LfgProposal) : Prop :=
  ∃ id, s'.proposals.ProposalsStore.lookup id = some proposal ∧
    s.proposals.ProposalsStore.lookup id ≠ some proposal

lemma Created.cases {s s' s'' : Matching} (created : Created s s'' proposal) :
    Created s s' proposal ∨ Created s' s'' proposal := by
  obtain ⟨id, after, before⟩ := created
  by_cases between : s'.proposals.ProposalsStore.lookup id = some proposal
  · exact .inl ⟨id, between, before⟩
  · exact .inr ⟨id, after, between⟩

lemma Created.irrefl {s s' : Matching} (hs : s'.proposals = s.proposals) :
    ¬ Created s s' proposal := by
  rintro ⟨id, after, before⟩
  rw [hs] at after
  exact before after

lemma verdict_of_created (created : Created s (s.checkThese w stores check).1 proposal) :
    verdict w stores s.queue s.proposals.nextId check = .proposal proposal := by
  unfold checkThese at created
  split at created
  · exact absurd created (Created.irrefl rfl)
  · exact absurd created (Created.irrefl rfl)
  next made hf =>
    obtain ⟨id, after, before⟩ := created
    rcases (Table.lookup_insert_iff _ _ _ _ _).mp after with ⟨-, rfl⟩ | ⟨-, old⟩
    · exact hf
    · exact absurd old before

lemma sound_of_created (several : 1 < check.length) (small : Small s.queue check)
    (others : ∀ guid ∈ check.tail.dropLast, s.queue.size guid ≤ 5)
    (created : Created s (s.checkThese w stores check).1 proposal) :
    Sound w stores s.queue proposal := by
  have hf := verdict_of_created created
  obtain ⟨counted, proposed⟩ := proposed_of_verdict several hf
  have accepts : (verdict w stores s.queue s.proposals.nextId check).accepts = true := by
    rw [hf]
    rfl
  obtain ⟨counted', counts, accepted⟩ := countPlayers_of_accepts several accepts
  obtain rfl : counted' = counted := Except.ok.inj (counts.symm.trans proposed.counts)
  match check, several with
  | guid :: next :: rest, _ =>
    refine proposed.sound (List.cons_ne_nil _ _) accepted ?_ small.size
    exact List.forall_mem_cons.mpr ⟨first_size small accepts, others⟩

/-- Every proposal that a check of several entries creates is sound, also the proposals of the
checks within. -/
theorem CheckCompatibility_sound (w : World) (stores : Stores) (s : Matching)
    (check : List UInt64) (several : 2 ≤ check.length) (small : Small s.queue check)
    (proposal : LfgProposal) (created : Created s (s.CheckCompatibility w stores check).1 proposal) :
    Sound w stores s.queue proposal := by
  induction check with
  | nil => simp at several
  | cons frontGuid rest ih =>
    rw [CheckCompatibility] at created
    dsimp only at created
    split at created
    · exact absurd created (Created.irrefl rfl)
    · have inRest : Small s.queue rest :=
        fun guid member => small guid (List.mem_cons_of_mem _ member)
      split at created
      next three =>
        have two : 1 < rest.length := Nat.lt_of_succ_lt_succ three
        have data := CheckCompatibility_data w stores s rest
        split at created
        · exact ih two inRest created
        next child =>
          rcases created.cases with within | own
          · exact ih two inRest within
          · have compatible := Bool.eq_false_iff.mpr child
            have others := others_small inRest two compatible
            rw [← size_congr data] at others
            exact (sound_of_created several (small.congr data) others own).congr data
      next pair =>
        have short : rest.length ≤ 1 := by simpa using pair
        refine sound_of_created several small ?_ created
        have last : rest.dropLast = [] := by
          rw [← List.length_eq_zero_iff, List.length_dropLast]
          omega
        simp [last]

def groupGuid (counter : UInt64) : UInt64 := (HIGHGUID_GROUP <<< 52) ||| counter

def quiet : World where
  now := 0
  social _ := none
  pick _ := 0
  coin _ _ := false

def queuedStores : Stores where
  PlayersStore _ := ⟨.queued, .none, 0, 0⟩
  GroupsStore _ := ⟨.queued, .none, 0, []⟩

def paired : Matching where
  queue :=
    { QueueDataStore := (AList.insert 1 ⟨[5, 7], [(1, PLAYER_ROLE_TANK ||| PLAYER_ROLE_DAMAGE)]⟩
        ∅).insert (groupGuid 1) ⟨[7, 8], [(2, PLAYER_ROLE_HEALER), (3, PLAYER_ROLE_DAMAGE),
          (4, PLAYER_ROLE_DAMAGE), (5, PLAYER_ROLE_DAMAGE)]⟩
      CompatibleMapStore := ∅
      newToQueueStore := [1]
      currentQueueStore := [groupGuid 1] }
  proposals := ⟨∅, 0⟩

def pairedProposal : LfgProposal where
  id := 1
  dungeonId := 7
  state := .initiating
  group := 0
  leader := 1
  cancelTime := 45
  isNew := true
  queues := [1, groupGuid 1]
  players := [(1, ⟨PLAYER_ROLE_TANK, .pending, 0⟩), (2, ⟨PLAYER_ROLE_HEALER, .pending, groupGuid 1⟩),
    (3, ⟨PLAYER_ROLE_DAMAGE, .pending, groupGuid 1⟩),
    (4, ⟨PLAYER_ROLE_DAMAGE, .pending, groupGuid 1⟩),
    (5, ⟨PLAYER_ROLE_DAMAGE, .pending, groupGuid 1⟩)]

theorem CheckCompatibility_sound_paired :
    Sound quiet queuedStores paired.queue pairedProposal := by
  have created : Created paired
      (paired.CheckCompatibility quiet queuedStores [1, groupGuid 1]).1 pairedProposal :=
    ⟨1, by decide +kernel, by decide +kernel⟩
  have small : Small paired.queue [1, groupGuid 1] := by
    intro guid member data found
    have lengths : [1, groupGuid 1].all
        fun guid => (paired.queue.data guid).roles.length ≤ 255 := by
      decide +kernel
    have here := of_decide_eq_true (List.all_eq_true.mp lengths guid member)
    rwa [LFGQueue.data, found] at here
  exact CheckCompatibility_sound quiet queuedStores paired [1, groupGuid 1] (by decide) small
    pairedProposal created

end Matching

/-! ### An oversized match -/

def fullGroup : LfgRolesMap :=
  [(1, PLAYER_ROLE_TANK), (2, PLAYER_ROLE_HEALER), (3, PLAYER_ROLE_DAMAGE), (4, PLAYER_ROLE_DAMAGE),
    (5, PLAYER_ROLE_DAMAGE)]

def tankOrHealer : UInt8 := PLAYER_ROLE_TANK ||| PLAYER_ROLE_HEALER

/-- Players for whom there is no place beside a full group. -/
def Spare (rest : LfgRolesMap) : Prop :=
  ∀ it ∈ rest, it.2 = tankOrHealer ∨ it.2 = PLAYER_ROLE_TANK ∨ it.2 = PLAYER_ROLE_HEALER

lemma tryRole_skip {withRole : UInt8 → LfgRolesMap} {bit role : UInt8} (several : role ≠ bit)
    (fails : again (withRole (role - bit)) = none) (needed count : UInt8) :
    tryRole again withRole bit needed role count = .ok count := by
  unfold tryRole
  by_cases has : role &&& bit = 0
  · rw [if_pos has]
  · rw [if_neg has, if_pos several, fails]

/-- Beside a full group the search takes no role from a player, and does not count him, while he
has both. -/
lemma rolesLoop_spare (dead : ∀ rest, Spare rest → (∃ it ∈ rest, it.2 ≠ tankOrHealer) →
      again (fullGroup ++ rest) = none) {before todo : LfgRolesMap} (spare : Spare (before ++ todo)) :
    rolesLoop again (fullGroup ++ before) 3 1 1 todo =
      if (∀ it ∈ todo, it.2 = tankOrHealer) ∧ (before ++ todo).length % 256 = 0 then
        some (fullGroup ++ (before ++ todo)) else none := by
  induction todo generalizing before with
  | nil =>
    have five : fullGroup.length = 5 := rfl
    have counts : (1 : UInt8).toNat + (1 : UInt8).toNat + (3 : UInt8).toNat = 5 := rfl
    rw [rolesLoop, counts]
    simp only [List.append_nil, List.length_append, five, List.not_mem_nil, IsEmpty.forall_iff,
      implies_true, true_and]
    congr 1
    rw [eq_iff_iff]
    omega
  | cons it todo ih =>
    obtain ⟨guid, role⟩ := it
    have others : ∀ bit, bit = PLAYER_ROLE_TANK ∨ bit = PLAYER_ROLE_HEALER →
        again (fullGroup ++ before ++ (guid, bit) :: todo) = none := by
      intro bit single
      refine dead _ ?_ ⟨(guid, bit), by simp, ?_⟩
      · intro other hm
        rcases List.mem_append.mp hm with inBefore | inTail
        · exact spare other (List.mem_append_left _ inBefore)
        · rcases List.mem_cons.mp inTail with rfl | inTail
          · exact .inr single
          · exact spare other (List.mem_append_right _ (List.mem_cons_of_mem _ inTail))
      · change bit ≠ tankOrHealer
        rcases single with rfl | rfl <;> decide
    have ended : role ≠ tankOrHealer → ∀ hf : Option LfgRolesMap, hf = none →
        hf = if (∀ it ∈ (guid, role) :: todo, it.2 = tankOrHealer) ∧
          (before ++ (guid, role) :: todo).length % 256 = 0 then
            some (fullGroup ++ (before ++ (guid, role) :: todo)) else none := by
      intro single hf none
      rw [if_neg fun all => single (all.1 _ List.mem_cons_self), none]
    rcases spare (guid, role) (by simp) with both | single | single
    · subst both
      have skipHealer : tryRole again (fun r => fullGroup ++ before ++ (guid, r) :: todo)
          PLAYER_ROLE_HEALER LFG_HEALERS_NEEDED tankOrHealer 1 = .ok 1 :=
        tryRole_skip (by decide) (others PLAYER_ROLE_TANK (.inl rfl)) _ _
      have skipTank : tryRole again (fun r => fullGroup ++ before ++ (guid, r) :: todo)
          PLAYER_ROLE_TANK LFG_TANKS_NEEDED tankOrHealer 1 = .ok 1 :=
        tryRole_skip (by decide) (others PLAYER_ROLE_HEALER (.inr rfl)) _ _
      have goes : rolesLoop again (fullGroup ++ before) 3 1 1 ((guid, tankOrHealer) :: todo) =
          rolesLoop again (fullGroup ++ before ++ [(guid, tankOrHealer)]) 3 1 1 todo := by
        have skipDamage : tryRole again (fun r => fullGroup ++ before ++ (guid, r) :: todo)
            PLAYER_ROLE_DAMAGE LFG_DPS_NEEDED tankOrHealer 3 = .ok 3 := rfl
        rw [rolesLoop, if_neg (by decide)]
        simp only [skipDamage, skipHealer, skipTank]
      have hs : before ++ [(guid, tankOrHealer)] ++ todo = before ++ (guid, tankOrHealer) :: todo := by
        simp
      rw [goes, List.append_assoc, ih (by simpa using spare), hs]
      congr 1
      rw [List.forall_mem_cons, eq_self, true_and]
    · subst single
      exact ended (by decide) _ rfl
    · subst single
      exact ended (by decide) _ rfl

lemma checkRoles_spare (fuel : ℕ) (spare : Spare rest) (single : ∃ it ∈ rest, it.2 ≠ tankOrHealer) :
    checkRoles fuel (fullGroup ++ rest) = none := by
  induction fuel generalizing rest with
  | zero => rfl
  | succ fuel ih =>
    have hf : rolesLoop (checkRoles fuel) (fullGroup ++ []) 3 1 1 rest = _ :=
      rolesLoop_spare (fun _ => ih) spare
    obtain ⟨it, hm, other⟩ := single
    rw [if_neg fun all => other (all.1 it hm), List.append_nil] at hf
    exact hf

lemma CheckGroupRoles_spare (both : ∀ it ∈ rest, it.2 = tankOrHealer)
    (many : rest.length % 256 = 0) :
    CheckGroupRoles (fullGroup ++ rest) = (fullGroup ++ rest, true) := by
  have flags : removeLeaderFlag (fullGroup ++ rest) = fullGroup ++ rest := by
    have group : fullGroup.all fun it => it.2 &&& ~~~PLAYER_ROLE_LEADER = it.2 := by decide
    have keeps : tankOrHealer &&& ~~~PLAYER_ROLE_LEADER = tankOrHealer := by decide
    have hs : ∀ it ∈ fullGroup ++ rest, (it.1, it.2 &&& ~~~PLAYER_ROLE_LEADER) = it := by
      intro it hm
      refine Prod.ext rfl ?_
      rcases List.mem_append.mp hm with inGroup | inRest
      · exact of_decide_eq_true (List.all_eq_true.mp group it inGroup)
      · simp only [both it inRest, keeps]
    exact (List.map_congr_left hs).trans (List.map_id _)
  have spare : Spare rest := fun it hm => .inl (both it hm)
  have hf : checkRoles ((fullGroup ++ rest).weight + 1) (fullGroup ++ rest) =
      some (fullGroup ++ rest) := by
    have loop : rolesLoop (checkRoles (fullGroup ++ rest).weight) (fullGroup ++ []) 3 1 1 rest = _ :=
      rolesLoop_spare (fun _ => checkRoles_spare _) spare
    rw [if_pos ⟨both, many⟩, List.append_nil] at loop
    exact loop
  unfold CheckGroupRoles
  simp only [flags, hf]

lemma LfgRolesMap.set_last {guid : UInt64} (last : ∀ it ∈ groles, it.1 < guid) (role : UInt8) :
    groles.set guid role = groles ++ [(guid, role)] := by
  induction groles with
  | nil => rfl
  | cons head rest ih =>
    obtain ⟨here, last⟩ := List.forall_mem_cons.mp last
    rw [LfgRolesMap.set, if_neg (UInt64.lt_asymm here), if_neg (UInt64.ne_of_lt here).symm,
      ih last, List.cons_append]

lemma foldl_addPlayer {w : World} (peace : ∀ a b, w.HasIgnore a b = false) {more : LfgRolesMap}
    (ordered : (groles ++ more).Pairwise fun a b => a.1 < b.1) :
    more.foldl (addPlayer w) groles = groles ++ more := by
  induction more generalizing groles with
  | nil => simp
  | cons it more ih =>
    have last := (List.pairwise_append.mp ordered).2.2
    have added : addPlayer w groles it = groles ++ [it] := by
      unfold addPlayer
      rw [if_neg (by simp [peace])]
      exact LfgRolesMap.set_last (fun other hm => last other hm it List.mem_cons_self) it.2
    rw [List.foldl_cons, added, ih (by simpa using ordered)]
    simp

namespace Matching

def crowd : LfgRolesMap := (List.range 256).map fun i => (UInt64.ofNat (i + 6), tankOrHealer)

def oversized : Matching where
  queue :=
    { QueueDataStore := (AList.insert (groupGuid 1) ⟨[7], fullGroup⟩ ∅).insert (groupGuid 2)
        ⟨[7], crowd⟩
      CompatibleMapStore := ∅
      newToQueueStore := [groupGuid 1]
      currentQueueStore := [groupGuid 2] }
  proposals := ⟨∅, 0⟩

lemma length_crowd : crowd.length = 256 := by simp [crowd]

lemma crowd_ordered : (fullGroup ++ crowd).Pairwise fun a b => a.1 < b.1 := by
  have place : ∀ i < 256, (UInt64.ofNat (i + 6)).toNat = i + 6 := by
    intro i small
    exact Nat.mod_eq_of_lt (by omega)
  refine List.pairwise_append.mpr ⟨by decide, ?_, ?_⟩
  · rw [crowd, List.pairwise_map]
    refine List.pairwise_lt_range.imp_of_mem fun {i j} inI inJ less => ?_
    rw [UInt64.lt_iff_toNat_lt, place i (List.mem_range.mp inI), place j (List.mem_range.mp inJ)]
    omega
  · intro a inGroup b inCrowd
    obtain ⟨i, inI, rfl⟩ := List.mem_map.mp inCrowd
    have low : fullGroup.all fun it => it.1.toNat < 6 := by decide
    have here := of_decide_eq_true (List.all_eq_true.mp low a inGroup)
    rw [UInt64.lt_iff_toNat_lt, place i (List.mem_range.mp inI)]
    omega

lemma checkThese_proposes {w : World} {stores : Stores} {s : Matching} {check : List UInt64}
    (hf : verdict w stores s.queue s.proposals.nextId check = .proposal proposal) :
    (s.checkThese w stores check).1.proposals = s.proposals.AddProposal proposal := by
  rw [checkThese, hf]
  rfl

lemma CheckCompatibility_pair (w : World) (stores : Stores) (s : Matching) (a b : UInt64) :
    s.CheckCompatibility w stores [a, b] = s.checkThese w stores [a, b] := rfl

lemma oversized_found : ∃ counted, verdict quiet queuedStores oversized.queue 1
    [groupGuid 1, groupGuid 2] =
      .proposal (makeProposal quiet queuedStores 1 [groupGuid 1, groupGuid 2] counted [7]
        (fullGroup ++ crowd)) := by
  have other : groupGuid 1 ≠ groupGuid 2 := by decide
  have first : oversized.queue.QueueDataStore.lookup (groupGuid 1) = some ⟨[7], fullGroup⟩ := by
    rw [oversized, AList.lookup_insert_ne other, AList.lookup_insert]
  have second : oversized.queue.QueueDataStore.lookup (groupGuid 2) = some ⟨[7], crowd⟩ :=
    AList.lookup_insert _
  have firstData : oversized.queue.data (groupGuid 1) = ⟨[7], fullGroup⟩ := by
    simp [LFGQueue.data, first]
  have secondData : oversized.queue.data (groupGuid 2) = ⟨[7], crowd⟩ := by
    simp [LFGQueue.data, second]
  have noGroup : ∀ guid, queuedStores.IsLfgGroup guid = false := by
    intro guid
    simp [Stores.IsLfgGroup, queuedStores]
  have counts : ∃ counted, countPlayers queuedStores oversized.queue .init
      [groupGuid 1, groupGuid 2] = .ok counted ∧ counted.numPlayers = MAXGROUPSIZE ∧
        counted.numLfgGroups = 0 := by
    have five : UInt8.ofNat fullGroup.length = 5 := rfl
    have wraps : UInt8.ofNat crowd.length = 0 := by
      rw [length_crowd]
      rfl
    simp [countPlayers, first, second, Counted.add, Counted.init, noGroup, five, wraps,
      MAXGROUPSIZE]
  obtain ⟨counted, counts, five, none⟩ := counts
  have peace : ∀ a b, quiet.HasIgnore a b = false := fun _ _ => rfl
  have gathered : gatherRoles quiet oversized.queue [groupGuid 1, groupGuid 2] =
      fullGroup ++ crowd := by
    rw [gatherRoles, foldl_addPlayer peace] <;>
      simp only [List.flatMap_cons, List.flatMap_nil, firstData, secondData, List.append_nil,
        List.nil_append, crowd_ordered]
  have dungeons : gatherDungeons oversized.queue [groupGuid 1, groupGuid 2] = [7] := by
    simp [gatherDungeons, firstData, secondData]
  have roles : CheckGroupRoles (fullGroup ++ crowd) = (fullGroup ++ crowd, true) :=
    CheckGroupRoles_spare (by simp [crowd]) (by rw [length_crowd])
  have all : (fullGroup ++ crowd).length = 261 := by
    rw [List.length_append, length_crowd]
    rfl
  have queued : queuedStores.AllQueued [groupGuid 1, groupGuid 2] = true := by
    simp [Stores.AllQueued, Stores.GetState, queuedStores]
  refine ⟨counted, ?_⟩
  rw [verdict, counts]
  simp only [gathered, dungeons, roles, five, none, all, queued]
  rfl

/-- A check of two entries proposes a match of 261 players. -/
theorem oversized_match : ∃ proposal,
    Created oversized
      (oversized.CheckCompatibility quiet queuedStores [groupGuid 1, groupGuid 2]).1 proposal ∧
    proposal.players.length = 261 ∧ ¬ Sound quiet queuedStores oversized.queue proposal := by
  obtain ⟨counted, found⟩ := oversized_found
  have many : (makeProposal quiet queuedStores 1 [groupGuid 1, groupGuid 2] counted [7]
      (fullGroup ++ crowd)).players.length = 261 := by
    simp only [makeProposal, List.length_map, List.length_append, length_crowd]
    rfl
  refine ⟨_, ⟨1, ?_, nofun⟩, many, fun sound => ?_⟩
  · rw [CheckCompatibility_pair, checkThese_proposes found]
    exact AList.lookup_insert _
  · have five := sound.five
    omega

end Matching

end WorldServer.DungeonFinding
