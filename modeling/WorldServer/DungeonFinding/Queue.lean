import WorldServer.DungeonFinding.State

/-!
# The queue of the dungeon finder

New entries wait in `newToQueueStore` until they were tried against the others, and then in
`currentQueueStore`. A check of some entries is cached by their guids. Entries that make a full
group leave both lists for a proposal, and keep their queue data.
-/
namespace WorldServer.DungeonFinding

open WorldServer.Lib

/-- `std::map::operator[]`. -/
def LfgRolesMap.set (groles : LfgRolesMap) (guid : UInt64) (role : UInt8) : LfgRolesMap :=
  match groles with
  | [] => [(guid, role)]
  | it :: rest =>
    if guid < it.1 then (guid, role) :: it :: rest
    else if guid = it.1 then (guid, role) :: rest
    else it :: LfgRolesMap.set rest guid role

def decimal (guid : UInt64) : Guids := Nat.toDigits 10 guid.toNat

def ConcatenateGuids (check : List UInt64) : Guids :=
  ['|'].intercalate ((check.dedup.insertionSort (· ≤ ·)).map decimal)

namespace LFGQueue

variable (queue : LFGQueue)

def RemoveFromNewQueue (guid : UInt64) : LFGQueue :=
  { queue with newToQueueStore := queue.newToQueueStore.filter (· ≠ guid) }

def RemoveFromCurrentQueue (guid : UInt64) : LFGQueue :=
  { queue with currentQueueStore := queue.currentQueueStore.filter (· ≠ guid) }

def AddToCurrentQueue (guid : UInt64) : LFGQueue :=
  { queue with currentQueueStore := queue.currentQueueStore ++ [guid] }

def AddToQueue (guid : UInt64) : LFGQueue :=
  match queue.QueueDataStore.lookup guid with
  | none => queue
  | some _ => { queue with newToQueueStore := queue.newToQueueStore ++ [guid] }

def AddQueueData (guid : UInt64) (dungeons : List UInt32) (rolesMap : LfgRolesMap) : LFGQueue :=
  AddToQueue { queue with QueueDataStore := queue.QueueDataStore.insert guid ⟨dungeons, rolesMap⟩ }
    guid

/-- Every cached check is forgotten whose key has the digits of the guid in it. -/
def RemoveFromCompatibles (guid : UInt64) : LFGQueue :=
  { queue with
    CompatibleMapStore := queue.CompatibleMapStore.keep fun key _ => ¬ decimal guid <:+: key }

def RemoveFromQueue (guid : UInt64) : LFGQueue :=
  let queue := ((queue.RemoveFromNewQueue guid).RemoveFromCurrentQueue guid).RemoveFromCompatibles
    guid
  { queue with QueueDataStore := queue.QueueDataStore.erase guid }

def SetCompatibles (key : Guids) (compatibles : LfgCompatibility) : LFGQueue :=
  { queue with CompatibleMapStore := queue.CompatibleMapStore.insert key compatibles }

def GetCompatibles (key : Guids) : LfgCompatibility :=
  (queue.CompatibleMapStore.lookup key).getD .pending

def data (guid : UInt64) : LfgQueueData := (queue.QueueDataStore.lookup guid).getD ⟨[], []⟩

end LFGQueue

/-! ### The check of some entries -/

/-- What the first loop of a check has counted. -/
structure Counted where
  numPlayers : UInt8
  numLfgGroups : UInt8
  group : UInt64
  proposalGroups : Table UInt64 UInt64

def Counted.init : Counted := ⟨0, 0, 0, ∅⟩

def Counted.add (stores : Stores) (guid : UInt64) (data : LfgQueueData) (counted : Counted) :
    Counted where
  numPlayers := counted.numPlayers + UInt8.ofNat data.roles.length
  numLfgGroups := if stores.IsLfgGroup guid then counted.numLfgGroups + 1 else counted.numLfgGroups
  group := if stores.IsLfgGroup guid ∧ counted.numLfgGroups = 0 then guid else counted.group
  proposalGroups := data.roles.foldl (fun groups it =>
    groups.insert it.1 (if IS_GROUP_GUID guid then guid else 0)) counted.proposalGroups

/-- The loop ends with two groups of the finder or with too many players, and at an entry without
queue data. -/
def countPlayers (stores : Stores) (queue : LFGQueue) (counted : Counted) :
    List UInt64 → Except UInt64 Counted
  | [] => .ok counted
  | guid :: check =>
    if counted.numLfgGroups < 2 ∧ counted.numPlayers ≤ MAXGROUPSIZE then
      match queue.QueueDataStore.lookup guid with
      | none => .error guid
      | some data => countPlayers stores queue (counted.add stores guid data) check
    else .ok counted

/-- A player is left out if he and one of those before him ignore each other. -/
def addPlayer (w : World) (proposalRoles : LfgRolesMap) (it : UInt64 × UInt8) : LfgRolesMap :=
  if proposalRoles.any fun other => it.1 ≠ other.1 ∧ w.HasIgnore it.1 other.1 then proposalRoles
  else proposalRoles.set it.1 it.2

def gatherRoles (w : World) (queue : LFGQueue) (check : List UInt64) : LfgRolesMap :=
  (check.flatMap fun guid => (queue.data guid).roles).foldl (addPlayer w) []

def gatherDungeons (queue : LFGQueue) : List UInt64 → List UInt32
  | [] => []
  | guid :: check =>
    check.foldl (fun dungeons guid => dungeons.filter (· ∈ (queue.data guid).dungeons))
      (queue.data guid).dungeons

/-- The leader of a new group: a coin is thrown when there is one already. -/
def chooseLeader (w : World) (id : UInt32) (proposalRoles : LfgRolesMap) : UInt64 :=
  (proposalRoles.foldl (fun (leader, guid) it =>
    if it.2 &&& PLAYER_ROLE_LEADER ≠ 0 then
      (true, if !leader ∨ guid = 0 ∨ w.coin id it.1 then it.1 else guid)
    else (leader, if !leader ∧ (guid = 0 ∨ w.coin id it.1) then it.1 else guid)) (false, 0)).2

def makeProposal (w : World) (stores : Stores) (id : UInt32) (check : List UInt64)
    (counted : Counted) (proposalDungeons : List UInt32) (proposalRoles : LfgRolesMap) :
    LfgProposal :=
  let isNew := counted.numLfgGroups ≠ 1 ∨ stores.GetOldState (check.headD 0) ≠ .dungeon
  { id
    dungeonId := proposalDungeons.getD (w.pick id % proposalDungeons.length) 0
    state := .initiating
    group := counted.group
    leader := chooseLeader w id proposalRoles
    cancelTime := w.now + LFG_TIME_PROPOSAL
    isNew
    queues := check
    players := proposalRoles.map fun it =>
      let group := (counted.proposalGroups.lookup it.1).getD 0
      (it.1,
        { role := it.2
          accept := if ¬ isNew ∧ group ≠ 0 ∧ group = counted.group then .agree else .pending
          group }) }

/-- What a check of entries finds, apart from the check of all but the first. -/
inductive Verdict where
  | missing (guid : UInt64)
  | compatibles (found : LfgCompatibility)
  | proposal (proposal : LfgProposal)

/-- A check of one to five entries. `id` is the id that a new proposal gets. -/
def verdict (w : World) (stores : Stores) (queue : LFGQueue) (id : UInt32) (check : List UInt64) :
    Verdict :=
  match countPlayers stores queue .init check with
  | .error guid => .missing guid
  | .ok counted =>
    if check.length = 1 ∧ counted.numPlayers ≠ MAXGROUPSIZE then .compatibles .withLessPlayers
    else if 1 < counted.numLfgGroups then .compatibles .multipleLfgGroups
    else if MAXGROUPSIZE < counted.numPlayers then .compatibles .tooMuchPlayers
    else
      let gathered := gatherRoles w queue check
      let proposalRoles :=
        if 1 < check.length then CheckGroupRoles gathered
        else CheckGroupRoles (queue.data (check.headD 0)).roles
      let proposalDungeons := gatherDungeons queue check
      if 1 < check.length ∧ counted.numPlayers - UInt8.ofNat gathered.length ≠ 0 then
        .compatibles .hasIgnores
      else if 1 < check.length ∧ ¬ proposalRoles.2 then .compatibles .noRoles
      else if 1 < check.length ∧ proposalDungeons.isEmpty then .compatibles .noDungeons
      else if counted.numPlayers ≠ MAXGROUPSIZE then .compatibles .withLessPlayers
      else if ¬ stores.AllQueued check then .compatibles .badStates
      else .proposal (makeProposal w stores id check counted proposalDungeons proposalRoles.1)

/-! ### The search for groups -/

structure Matching where
  queue : LFGQueue
  proposals : Proposals

def Proposals.nextId (proposals : Proposals) : UInt32 := proposals.m_lfgProposalId + 1

def Proposals.AddProposal (proposals : Proposals) (proposal : LfgProposal) : Proposals where
  ProposalsStore := proposals.ProposalsStore.insert proposals.nextId proposal
  m_lfgProposalId := proposals.nextId

namespace Matching

variable (w : World) (stores : Stores)

def propose (s : Matching) (check : List UInt64) (proposal : LfgProposal) : Matching where
  queue := check.foldl (fun queue guid =>
    (queue.RemoveFromNewQueue guid).RemoveFromCurrentQueue guid) s.queue
  proposals := s.proposals.AddProposal proposal

/-- The part of `CheckCompatibility` after the check of all but the first. -/
def checkThese (s : Matching) (check : List UInt64) : Matching × LfgCompatibility :=
  match verdict w stores s.queue s.proposals.nextId check with
  | .missing guid => ({ s with queue := s.queue.RemoveFromQueue guid }, .pending)
  | .compatibles found =>
    ({ s with queue := s.queue.SetCompatibles (ConcatenateGuids check) found }, found)
  | .proposal proposal =>
    let s := s.propose check proposal
    ({ s with queue := s.queue.SetCompatibles (ConcatenateGuids check) .isMatch }, .isMatch)

/-- The check of all but the first comes before the check of all. -/
def CheckCompatibility (s : Matching) : List UInt64 → Matching × LfgCompatibility
  | [] => (s, .wrongGroupSize)
  | frontGuid :: rest =>
    let check := frontGuid :: rest
    if MAXGROUPSIZE.toNat < check.length then (s, .wrongGroupSize)
    else if 2 < check.length then
      let (s, child_compatibles) := CheckCompatibility s rest
      if child_compatibles.incompatible then
        ({ s with queue := s.queue.SetCompatibles (ConcatenateGuids check) child_compatibles },
          child_compatibles)
      else s.checkThese w stores check
    else s.checkThese w stores check

/-- The compatibility of some entries: cached, or from a check now. -/
def compatibility (s : Matching) (check : List UInt64) : Matching × LfgCompatibility :=
  let cached := s.queue.GetCompatibles (ConcatenateGuids check)
  if cached = .pending then s.CheckCompatibility w stores check else (s, cached)

/-- The first part of `FindNewGroups`. Bad states change to a match when everybody is queued. -/
def answer (s : Matching) (check : List UInt64) : Matching × LfgCompatibility :=
  let (s, compatibles) := s.compatibility w stores check
  if compatibles = .badStates ∧ stores.AllQueued check then
    ({ s with queue := s.queue.SetCompatibles (ConcatenateGuids check) .isMatch }, .isMatch)
  else (s, compatibles)

mutual

/-- `all` is passed by reference: what a call leaves of it comes back with the answer. -/
def FindNewGroups : ℕ → Matching → List UInt64 → List UInt64 →
    Matching × LfgCompatibility × List UInt64
  | 0, s, _, all => (s, .pending, all)
  | fuel + 1, s, check, all =>
    let (s, compatibles) := s.answer w stores check
    if compatibles ≠ .withLessPlayers then (s, compatibles, all)
    else matchQueued fuel s check all

/-- The loop of `FindNewGroups` over the other entries. -/
def matchQueued : ℕ → Matching → List UInt64 → List UInt64 →
    Matching × LfgCompatibility × List UInt64
  | 0, s, _, all => (s, .pending, all)
  | _ + 1, s, _, [] => (s, .withLessPlayers, [])
  | fuel + 1, s, check, other :: all =>
    let (s, subcompatibility, all) := FindNewGroups fuel s (check ++ [other]) all
    if subcompatibility = .isMatch then (s, .isMatch, all)
    else matchQueued fuel s check all

end

/-- A new entry is tried against those that wait. It waits as well, unless there is a match. -/
def tryFront (s : Matching) (frontguid : UInt64) : Matching × LfgCompatibility :=
  let s := { s with queue := s.queue.RemoveFromNewQueue frontguid }
  let temporalList := s.queue.currentQueueStore
  let (s, compatibles, _) :=
    s.FindNewGroups w stores (2 * temporalList.length + 2) [frontguid] temporalList
  if compatibles = .isMatch then (s, compatibles)
  else ({ s with queue := s.queue.AddToCurrentQueue frontguid }, compatibles)

/-- The loop of `FindGroups`: no entry comes to the new ones meanwhile. -/
def findGroupsLoop : ℕ → Matching → UInt8 → Matching × UInt8
  | 0, s, proposals => (s, proposals)
  | fuel + 1, s, proposals =>
    match s.queue.newToQueueStore with
    | [] => (s, proposals)
    | frontguid :: _ =>
      let (s, compatibles) := s.tryFront w stores frontguid
      findGroupsLoop fuel s (if compatibles = .isMatch then proposals + 1 else proposals)

def FindGroups (s : Matching) : Matching × UInt8 :=
  s.findGroupsLoop w stores s.queue.newToQueueStore.length 0

/-! ### The search ends -/

lemma leave_new (queue : LFGQueue) (check : List UInt64) :
    (check.foldl (fun queue guid => (queue.RemoveFromNewQueue guid).RemoveFromCurrentQueue guid)
      queue).newToQueueStore.Sublist queue.newToQueueStore := by
  induction check generalizing queue with
  | nil => exact List.Sublist.refl _
  | cons guid check ih => exact (ih _).trans List.filter_sublist

section

variable (s : Matching) (check : List UInt64)

lemma checkThese_new :
    (s.checkThese w stores check).1.queue.newToQueueStore.Sublist s.queue.newToQueueStore := by
  unfold checkThese
  split
  · exact List.filter_sublist
  · exact List.Sublist.refl _
  · exact leave_new s.queue check

lemma CheckCompatibility_new :
    (s.CheckCompatibility w stores check).1.queue.newToQueueStore.Sublist
      s.queue.newToQueueStore := by
  induction check with
  | nil => exact List.Sublist.refl _
  | cons frontGuid rest ih =>
    rw [CheckCompatibility]
    dsimp only
    split
    · exact List.Sublist.refl _
    · split
      · split
        · exact ih
        · exact (checkThese_new ..).trans ih
      · exact checkThese_new ..

lemma answer_new :
    (s.answer w stores check).1.queue.newToQueueStore.Sublist s.queue.newToQueueStore := by
  have part : (s.compatibility w stores check).1.queue.newToQueueStore.Sublist
      s.queue.newToQueueStore := by
    unfold compatibility
    dsimp only
    split
    · exact CheckCompatibility_new w stores s check
    · exact List.Sublist.refl _
  unfold answer
  dsimp only
  split <;> exact part

end

/-- A search leaves a part of the new entries and of the others that it was given. -/
lemma search_leaves (fuel : ℕ) :
    (∀ (s : Matching) (check all : List UInt64),
      (s.FindNewGroups w stores fuel check all).1.queue.newToQueueStore.Sublist
          s.queue.newToQueueStore ∧
        (s.FindNewGroups w stores fuel check all).2.2.Sublist all) ∧
    (∀ (s : Matching) (check all : List UInt64),
      (s.matchQueued w stores fuel check all).1.queue.newToQueueStore.Sublist
          s.queue.newToQueueStore ∧
        (s.matchQueued w stores fuel check all).2.2.Sublist all) := by
  induction fuel with
  | zero =>
    have nothing : ∀ (s : Matching) (all : List UInt64),
        s.queue.newToQueueStore.Sublist s.queue.newToQueueStore ∧ all.Sublist all :=
      fun s all => ⟨List.Sublist.refl _, List.Sublist.refl _⟩
    exact ⟨fun s _ all => nothing s all, fun s _ all => nothing s all⟩
  | succ fuel ih =>
    obtain ⟨search, loop⟩ := ih
    constructor
    · intro s check all
      rw [FindNewGroups]
      dsimp only
      split
      · exact ⟨answer_new w stores s check, List.Sublist.refl _⟩
      · obtain ⟨part, rest⟩ := loop (s.answer w stores check).1 check all
        exact ⟨part.trans (answer_new w stores s check), rest⟩
    · intro s check all
      cases all with
      | nil => exact ⟨List.Sublist.refl _, List.Sublist.refl _⟩
      | cons other all =>
        obtain ⟨part, rest⟩ := search s (check ++ [other]) all
        rw [matchQueued]
        dsimp only
        split
        · exact ⟨part, rest.cons other⟩
        · obtain ⟨part', rest'⟩ := loop (s.FindNewGroups w stores fuel (check ++ [other]) all).1
            check (s.FindNewGroups w stores fuel (check ++ [other]) all).2.2
          exact ⟨part'.trans part, (rest'.trans rest).cons other⟩

mutual

/-- The same search, and nothing where the calls nest deeper than `depth`. -/
def FindNewGroupsWithin : ℕ → Matching → List UInt64 → List UInt64 →
    Option (Matching × LfgCompatibility × List UInt64)
  | 0, _, _, _ => none
  | depth + 1, s, check, all =>
    let (s, compatibles) := s.answer w stores check
    if compatibles ≠ .withLessPlayers then some (s, compatibles, all)
    else matchQueuedWithin depth s check all

def matchQueuedWithin : ℕ → Matching → List UInt64 → List UInt64 →
    Option (Matching × LfgCompatibility × List UInt64)
  | 0, _, _, _ => none
  | _ + 1, s, _, [] => some (s, .withLessPlayers, [])
  | depth + 1, s, check, other :: all =>
    match FindNewGroupsWithin depth s (check ++ [other]) all with
    | none => none
    | some (s, subcompatibility, all) =>
      if subcompatibility = .isMatch then some (s, .isMatch, all)
      else matchQueuedWithin depth s check all

end

lemma within_eq (depth : ℕ) :
    (∀ (fuel : ℕ) (s : Matching) (check all : List UInt64), 2 * all.length + 2 ≤ depth →
      2 * all.length + 2 ≤ fuel →
      s.FindNewGroupsWithin w stores depth check all = some (s.FindNewGroups w stores fuel check all)) ∧
    (∀ (fuel : ℕ) (s : Matching) (check all : List UInt64), 2 * all.length + 1 ≤ depth →
      2 * all.length + 1 ≤ fuel →
      s.matchQueuedWithin w stores depth check all = some (s.matchQueued w stores fuel check all)) := by
  induction depth with
  | zero => exact ⟨fun _ _ _ _ enough => by omega, fun _ _ _ _ enough => by omega⟩
  | succ depth ih =>
    obtain ⟨search, loop⟩ := ih
    constructor
    · intro fuel s check all enough enough'
      cases fuel with
      | zero => omega
      | succ fuel =>
        rw [FindNewGroupsWithin, FindNewGroups]
        dsimp only
        rw [loop fuel _ check all (by omega) (by omega)]
        split <;> rfl
    · intro fuel s check all enough enough'
      cases fuel with
      | zero => omega
      | succ fuel =>
        cases all with
        | nil => rfl
        | cons other all =>
          rw [List.length_cons] at enough enough'
          -- what the inner call leaves of the list is no longer than what it got
          have fewer := ((search_leaves w stores fuel).1 s (check ++ [other]) all).2.length_le
          have rest := loop fuel (s.FindNewGroups w stores fuel (check ++ [other]) all).1 check
            (s.FindNewGroups w stores fuel (check ++ [other]) all).2.2 (by omega) (by omega)
          rw [matchQueuedWithin, matchQueued, search fuel s (check ++ [other]) all (by omega) (by omega)]
          dsimp only
          rw [rest]
          split <;> rfl

/-- For `n` entries to try the calls nest no deeper than `2 * n + 2`. -/
theorem search_ends (s : Matching) (check all : List UInt64) (extra : ℕ) :
    s.FindNewGroupsWithin w stores (2 * all.length + 2 + extra) check all =
      some (s.FindNewGroups w stores (2 * all.length + 2) check all) :=
  (within_eq w stores _).1 _ s check all (Nat.le_add_right _ _) le_rfl

lemma tryFront_new (s : Matching) (frontguid : UInt64) :
    (s.tryFront w stores frontguid).1.queue.newToQueueStore.Sublist
      (s.queue.newToQueueStore.filter (· ≠ frontguid)) := by
  have part := (search_leaves w stores (2 * s.queue.currentQueueStore.length + 2)).1
    { s with queue := s.queue.RemoveFromNewQueue frontguid } [frontguid] s.queue.currentQueueStore
  unfold tryFront
  dsimp only
  split <;> exact part.1

lemma FindGroups_new (s : Matching) :
    (s.FindGroups w stores).1.queue.newToQueueStore = [] := by
  have all : ∀ (fuel : ℕ) (s : Matching) (proposals : UInt8),
      s.queue.newToQueueStore.length ≤ fuel →
        (s.findGroupsLoop w stores fuel proposals).1.queue.newToQueueStore = [] := by
    intro fuel
    induction fuel with
    | zero => exact fun s _ empty => List.length_eq_zero_iff.mp (Nat.le_zero.mp empty)
    | succ fuel ih =>
      intro s proposals enough
      rw [findGroupsLoop]
      split
      next none => exact none
      next frontguid rest new =>
        have part := (tryFront_new w stores s frontguid).length_le
        rw [new, List.filter_cons_of_neg (by simp)] at part
        have fewer := List.length_filter_le (· ≠ frontguid) rest
        rw [new, List.length_cons] at enough
        exact ih _ _ ((part.trans fewer).trans (Nat.le_of_succ_le_succ enough))
  exact all _ s 0 le_rfl

end Matching

end WorldServer.DungeonFinding
