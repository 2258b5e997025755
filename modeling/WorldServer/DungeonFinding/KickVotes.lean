import WorldServer.DungeonFinding.Entries

/-!
# Votes to kick

The members of a group vote on one of them. The vote is compared with a poll: who was a member when
it began answers once, the first three of one mind decide, and nobody is left in the state of a vote
that is over.
-/
namespace WorldServer.DungeonFinding

open WorldServer.Lib

/-! ### The poll -/

inductive PollOutcome where
  | kicked
  | kept
  deriving DecidableEq

structure Poll where
  /-- The members when the poll began. -/
  members : Finset UInt64
  victim : UInt64
  cancelTime : ℕ
  agreed : Finset UInt64
  refused : Finset UInt64
  outcome : Option PollOutcome

variable {g kicker victim : UInt64}

namespace Poll

variable (poll : Poll) (guid : UInt64) (accept : Bool)

def begin (members : Finset UInt64) (kicker victim : UInt64) (cancelTime : ℕ) : Poll where
  members
  victim
  cancelTime
  agreed := {kicker}
  refused := {victim}
  outcome := none

def answered : Finset UInt64 := poll.agreed ∪ poll.refused

def record : Poll :=
  if accept then { poll with agreed := insert guid poll.agreed }
  else { poll with refused := insert guid poll.refused }

def decided : Poll :=
  { poll with
    outcome :=
      if 3 ≤ poll.agreed.card then some .kicked
      else if 3 ≤ poll.refused.card then some .kept
      else none }

def vote : Poll :=
  if poll.outcome = none ∧ guid ∈ poll.members ∧ guid ∉ poll.answered then
    (poll.record guid accept).decided
  else poll

def timeout (now : ℕ) : Poll :=
  if poll.outcome = none ∧ poll.cancelTime < now then { poll with outcome := some .kept } else poll

def ballot : Option LfgAnswer :=
  if guid ∈ poll.agreed then some .agree
  else if guid ∈ poll.refused then some .deny
  else if guid ∈ poll.members then some .pending
  else none

/-- Those who agree are members other than the victim, nobody is of two minds, and three of one
mind are the end. -/
structure Fair : Prop where
  agreed : poll.agreed ⊆ poll.members.erase poll.victim
  refused : poll.victim ∈ poll.refused ∧ poll.refused ⊆ poll.members
  once : Disjoint poll.agreed poll.refused
  undecided : poll.outcome = none → poll.agreed.card < 3 ∧ poll.refused.card < 3
  kicked : poll.outcome = some .kicked → 3 ≤ poll.agreed.card

variable {poll guid accept}

lemma vote_of_not_counted
    (not : ¬ (poll.outcome = none ∧ guid ∈ poll.members ∧ guid ∉ poll.answered)) :
    poll.vote guid accept = poll := if_neg not

lemma ballot_vote (isOpen : poll.outcome = none) (hm : guid ∈ poll.members)
    (unanswered : guid ∉ poll.answered) (g : UInt64) :
    (poll.vote guid accept).ballot g =
      if g = guid then some (if accept then .agree else .deny) else poll.ballot g := by
  have others := Finset.notMem_union.mp unanswered
  unfold vote
  rw [if_pos ⟨isOpen, hm, unanswered⟩]
  by_cases hs : g = guid
  · subst hs
    cases accept <;> simp [record, decided, ballot, others]
  · cases accept <;> simp [record, decided, ballot, hs]

lemma ballot_vote_of_answered (answered : g ∈ poll.answered) :
    (poll.vote guid accept).ballot g = poll.ballot g := by
  by_cases counted : poll.outcome = none ∧ guid ∈ poll.members ∧ guid ∉ poll.answered
  · rw [ballot_vote counted.1 counted.2.1 counted.2.2]
    exact if_neg fun hs : g = guid => counted.2.2 (hs ▸ answered)
  · rw [vote_of_not_counted counted]

lemma ballot_timeout (now : ℕ) (g : UInt64) : (poll.timeout now).ballot g = poll.ballot g := by
  unfold timeout
  split <;> rfl

lemma ballot_of_member (hm : guid ∈ poll.members) : (poll.ballot guid).isSome := by
  unfold ballot
  split_ifs <;> rfl

lemma members_timeout (now : ℕ) : (poll.timeout now).members = poll.members := by
  unfold timeout
  split <;> rfl

lemma frame_vote (guid : UInt64) (accept : Bool) :
    (poll.vote guid accept).members = poll.members ∧
      (poll.vote guid accept).victim = poll.victim ∧
      (poll.vote guid accept).cancelTime = poll.cancelTime := by
  unfold vote
  split
  · cases accept <;> exact ⟨rfl, rfl, rfl⟩
  · exact ⟨rfl, rfl, rfl⟩

lemma outcome_vote (counted : poll.outcome = none ∧ guid ∈ poll.members ∧ guid ∉ poll.answered) :
    (poll.vote guid accept).outcome =
      if 3 ≤ (poll.vote guid accept).agreed.card then some .kicked
      else if 3 ≤ (poll.vote guid accept).refused.card then some .kept
      else none := by
  unfold vote
  rw [if_pos counted]
  rfl

lemma card_vote (guid : UInt64) (accept : Bool) :
    (poll.vote guid accept).agreed.card ≤ poll.agreed.card + 1 ∧
      (poll.vote guid accept).refused.card ≤
        poll.refused.card + (if accept = true ∨ guid ∈ poll.answered then 0 else 1) := by
  by_cases counted : poll.outcome = none ∧ guid ∈ poll.members ∧ guid ∉ poll.answered
  · unfold vote
    rw [if_pos counted]
    have agreed := Finset.card_insert_le guid poll.agreed
    have refused := Finset.card_insert_le guid poll.refused
    cases accept <;> simp [record, decided, counted.2.2] <;> omega
  · rw [vote_of_not_counted counted]
    omega

lemma fair_begin {members : Finset UInt64} {cancelTime : ℕ} (isKicker : kicker ∈ members)
    (isVictim : victim ∈ members) (other : kicker ≠ victim) :
    (begin members kicker victim cancelTime).Fair where
  agreed := by simp [begin, isKicker, other]
  refused := by simp [begin, isVictim]
  once := by simp [begin, other]
  undecided _ := by simp [begin]
  kicked := nofun

lemma Fair.vote (fair : poll.Fair) (guid : UInt64) (accept : Bool) :
    (poll.vote guid accept).Fair := by
  by_cases counted : poll.outcome = none ∧ guid ∈ poll.members ∧ guid ∉ poll.answered
  · have hm := counted.2.1
    have others := Finset.notMem_union.mp counted.2.2
    have notVictim : guid ≠ poll.victim := fun hs => others.2 (hs ▸ fair.refused.1)
    unfold Poll.vote
    rw [if_pos counted]
    cases accept with
    | true =>
      refine ⟨?_, fair.refused, ?_, ?_, ?_⟩
      · exact Finset.insert_subset (Finset.mem_erase.mpr ⟨notVictim, hm⟩) fair.agreed
      · exact Finset.disjoint_insert_left.mpr ⟨others.2, fair.once⟩
      · simp only [decided, record, if_true]
        grind
      · simp only [decided, record, if_true]
        grind
    | false =>
      refine ⟨fair.agreed, ?_, ?_, ?_, ?_⟩
      · exact ⟨Finset.mem_insert_of_mem fair.refused.1,
          Finset.insert_subset hm fair.refused.2⟩
      · exact Finset.disjoint_insert_right.mpr ⟨others.1, fair.once⟩
      · simp only [decided, record]
        grind
      · simp only [decided, record]
        grind
  · rw [vote_of_not_counted counted]
    exact fair

lemma Fair.timeout (fair : poll.Fair) (now : ℕ) : (poll.timeout now).Fair := by
  unfold Poll.timeout
  split
  · exact ⟨fair.agreed, fair.refused, fair.once, nofun, nofun⟩
  · exact fair

end Poll

/-! ### The vote -/

namespace LFGMgr

variable (m : LFGMgr)

/-- The group and the victim that `UpdateBoot` calls `RemoveFromGroup` for. -/
def kicked (guid : UInt64) (accept : Bool) : Option (UInt64 × UInt64) :=
  let gguid := m.GetGroup guid
  if gguid = 0 then none
  else
    match m.BootsStore.lookup gguid with
    | none => none
    | some boot =>
      if boot.undecided guid accept then none
      else if LfgPlayerBoot.agreeNum (boot.answer guid accept) = LFG_GROUP_KICK_VOTES_NEEDED then
        some (gguid, boot.victim)
      else none

def expireBoots (w : World) : LFGMgr := m.BootsStore.sorted.foldl (expireBoot w) m

end LFGMgr

namespace LFGMgr

variable {m : LFGMgr} (kick : Stores → Stores) {guid gguid : UInt64} (accept : Bool)

lemma GetState_closeBoot (gguid : UInt64) (guids : List UInt64) (g : UInt64) :
    (m.closeBoot gguid guids).stores.GetState g =
      if g = gguid ∨ g ∈ guids then .dungeon else m.stores.GetState g := by
  have group := (m.SetStates guids .dungeon).stores.GetState_SetStates g [gguid] .dungeon
  have members := m.stores.GetState_SetStates g guids .dungeon
  refine group.trans ?_
  rw [show (m.SetStates guids .dungeon).stores.GetState g =
    if g ∈ guids then .dungeon else m.stores.GetState g from members]
  by_cases hs : g = gguid <;> simp [hs]

/-! ### One vote -/

lemma UpdateBoot_of_none (none : m.BootsStore.lookup (m.GetGroup guid) = none) :
    m.UpdateBoot kick guid accept = m ∧ m.kicked guid accept = Option.none := by
  unfold UpdateBoot kicked
  dsimp only
  rw [none]
  constructor <;> split <;> rfl

lemma UpdateBoot_other (other : m.GetGroup guid ≠ gguid) :
    (m.UpdateBoot kick guid accept).BootsStore.lookup gguid = m.BootsStore.lookup gguid ∧
      ∀ victim, m.kicked guid accept ≠ some (gguid, victim) := by
  unfold UpdateBoot kicked
  dsimp only
  constructor
  · split
    · rfl
    · split
      · rfl
      · split
        · exact AList.lookup_insert_ne other.symm
        · split <;> exact AList.lookup_erase_ne other.symm
  · intro victim
    split_ifs
    · exact nofun
    · split
      · exact nofun
      · split_ifs <;> simp [other]

variable {boot : LfgPlayerBoot} (group : m.GetGroup guid = gguid) (isGroup : gguid ≠ 0)
  (found : m.BootsStore.lookup gguid = some boot)
include group isGroup found

lemma UpdateBoot_undecided (undecided : boot.undecided guid accept) :
    m.UpdateBoot kick guid accept =
        { m with
          BootsStore := m.BootsStore.insert gguid
            { boot with votes := boot.answer guid accept } } ∧
      m.kicked guid accept = none := by
  unfold UpdateBoot kicked
  dsimp only
  rw [group, found]
  simp [isGroup, undecided]

lemma UpdateBoot_kick (decided : ¬ boot.undecided guid accept)
    (agreed : LfgPlayerBoot.agreeNum (boot.answer guid accept) = LFG_GROUP_KICK_VOTES_NEEDED) :
    (m.UpdateBoot kick guid accept).BootsStore = m.BootsStore.erase gguid ∧
      m.kicked guid accept = some (gguid, boot.victim) := by
  unfold UpdateBoot kicked
  dsimp only
  rw [group, found]
  simp [isGroup, decided, agreed, closeBoot]

lemma UpdateBoot_keep (decided : ¬ boot.undecided guid accept)
    (agreed : LfgPlayerBoot.agreeNum (boot.answer guid accept) ≠ LFG_GROUP_KICK_VOTES_NEEDED) :
    m.UpdateBoot kick guid accept =
        m.closeBoot gguid ((boot.answer guid accept).keys.filter (· ≠ boot.victim)) ∧
      m.kicked guid accept = none := by
  unfold UpdateBoot kicked
  dsimp only
  rw [group, found]
  simp [isGroup, decided, agreed]

end LFGMgr

/-! ### Time is up -/

namespace LFGMgr

lemma lookup_expireBoots (w : World) (gguid : UInt64) (boots : List (UInt64 × LfgPlayerBoot))
    (m : LFGMgr) :
    (boots.foldl (expireBoot w) m).BootsStore.lookup gguid =
      if ∃ it ∈ boots, it.1 = gguid ∧ it.2.cancelTime < w.now then none
      else m.BootsStore.lookup gguid := by
  induction boots generalizing m with
  | nil => simp
  | cons it boots ih =>
    rw [List.foldl_cons, ih]
    unfold expireBoot
    by_cases later : ∃ it ∈ boots, it.1 = gguid ∧ it.2.cancelTime < w.now
    · simp [later]
    · by_cases late : it.2.cancelTime < w.now
      · by_cases hs : it.1 = gguid
        · subst hs
          simp [late, later, closeBoot]
        · simp [late, later, closeBoot, hs, AList.lookup_erase_ne (Ne.symm hs)]
      · simp [late, later]

lemma GetState_expireBoots (w : World) (g : UInt64) (boots : List (UInt64 × LfgPlayerBoot))
    (m : LFGMgr)
    (back : m.stores.GetState g = .dungeon ∨
      ∃ it ∈ boots, it.2.cancelTime < w.now ∧ g ∈ it.2.votes.keys) :
    (boots.foldl (expireBoot w) m).stores.GetState g = .dungeon := by
  induction boots generalizing m with
  | nil => simpa using back
  | cons it boots ih =>
    apply ih
    unfold expireBoot
    obtain here | ⟨_, hm, late, isKey⟩ := back
    · left
      split
      · rw [GetState_closeBoot, here, ite_self]
      · exact here
    · obtain rfl | hm := List.mem_cons.mp hm
      · left
        rw [if_pos late, GetState_closeBoot, if_pos (.inr isKey)]
      · exact .inr ⟨_, hm, late, isKey⟩

end LFGMgr

/-- The vote of one group with its poll, and whom the group has lost by votes. -/
structure KickVote where
  manager : LFGMgr
  poll : Poll
  removed : List (UInt64 × UInt64)

/-- A player votes, time is up, or players join and leave groups. -/
inductive KickEvent where
  | vote (kick : Stores → Stores) (guid : UInt64) (accept : Bool)
  | timeout (w : World)
  | others (change : Stores → Stores)

namespace KickVote

def step (gguid : UInt64) (s : KickVote) : KickEvent → KickVote
  | .vote kick guid accept =>
    { manager := s.manager.UpdateBoot kick guid accept
      poll := if s.manager.GetGroup guid = gguid then s.poll.vote guid accept else s.poll
      removed := s.removed ++ (s.manager.kicked guid accept).toList }
  | .timeout w => { s with manager := s.manager.expireBoots w, poll := s.poll.timeout w.now }
  | .others change =>
    { s with manager := { s.manager with stores := change s.manager.stores } }

def begin (w : World) (m : LFGMgr) (gguid kicker victim : UInt64) : KickVote where
  manager := m.InitBoot w gguid kicker victim
  poll := .begin (m.GetPlayers gguid).toFinset kicker victim (w.now + LFG_TIME_BOOT)
  removed := []

/-- How the vote is called: by a member of a group, on another one, with no vote in progress. -/
structure Called (m : LFGMgr) (gguid kicker victim : UInt64) : Prop where
  isGroup : gguid ≠ 0
  noMember : gguid ∉ m.GetPlayers gguid
  isKicker : kicker ∈ m.GetPlayers gguid
  isVictim : victim ∈ m.GetPlayers gguid
  other : kicker ≠ victim
  free : m.BootsStore.lookup gguid = none

/-- What one event should do: the victim is removed when the poll says so, the votes are the poll's
ballots while it goes on, and everybody is back in the dungeon when it ends without a kick. -/
structure Right (gguid : UInt64) (s s' : KickVote) : Prop where
  fair : s'.poll.Fair
  once : ∀ guid ∈ s.poll.answered, s'.poll.ballot guid = s.poll.ballot guid
  removed : (gguid, s'.poll.victim) ∈ s'.removed ↔ s'.poll.outcome = some .kicked
  isOpen : (s'.manager.BootsStore.lookup gguid).isSome ↔ s'.poll.outcome = none
  votes : ∀ boot ∈ s'.manager.BootsStore.lookup gguid, ∀ guid,
    boot.votes.lookup guid = s'.poll.ballot guid
  returned : s.poll.outcome = none → s'.poll.outcome = some .kept →
    ∀ guid ∈ s'.poll.members, s'.manager.stores.GetState guid = .dungeon

/-- Nobody votes who came later, and no third refusal ends the vote, unless the victim already has
the state of a player in the dungeon. -/
def Calm (gguid : UInt64) (s : KickVote) : KickEvent → Prop
  | .vote _ guid accept =>
    s.manager.GetGroup guid = gguid → s.poll.outcome = none →
      guid ∈ s.poll.members ∧
      (accept = true ∨ guid ∈ s.poll.answered ∨ s.poll.refused.card < 2 ∨
        s.manager.stores.GetState s.poll.victim = .dungeon)
  | .timeout _ | .others _ => True

/-! ### The votes are the ballots -/

structure InProgress (gguid : UInt64) (s : KickVote) (boot : LfgPlayerBoot) : Prop where
  found : s.manager.BootsStore.lookup gguid = some boot
  victim : boot.victim = s.poll.victim
  cancelTime : boot.cancelTime = s.poll.cancelTime
  votes : ∀ guid, boot.votes.lookup guid = s.poll.ballot guid

/-- While the poll goes on there is a vote with its ballots, and then there is none. -/
structure Follows (gguid : UInt64) (s : KickVote) : Prop where
  fair : s.poll.Fair
  noMember : gguid ∉ s.poll.members
  progress : s.poll.outcome = none → ∃ boot, InProgress gguid s boot
  finished : s.poll.outcome ≠ none → s.manager.BootsStore.lookup gguid = none
  removed : (gguid, s.poll.victim) ∈ s.removed ↔ s.poll.outcome = some .kicked

end KickVote

namespace LfgPlayerBoot

lemma counts {votes : Table UInt64 LfgAnswer} {poll : Poll}
    (once : Disjoint poll.agreed poll.refused)
    (hs : ∀ guid, votes.lookup guid = poll.ballot guid) :
    agreeNum votes = UInt8.ofNat poll.agreed.card ∧
      votesNum votes = UInt8.ofNat (poll.agreed.card + poll.refused.card) := by
  have agreed : Table.count (· = .agree) votes = poll.agreed.card := by
    refine Table.count_eq_card _ _ _ fun guid => ?_
    rw [hs]
    unfold Poll.ballot
    split_ifs <;> simp_all
  have answered : Table.count (· ≠ .pending) votes = poll.answered.card := by
    refine Table.count_eq_card _ _ _ fun guid => ?_
    rw [hs]
    unfold Poll.ballot Poll.answered
    split_ifs <;> simp_all
  unfold agreeNum votesNum
  rw [agreed, answered, Poll.answered, Finset.card_union_of_disjoint once]
  exact ⟨rfl, rfl⟩

variable {boot : LfgPlayerBoot} {poll : Poll} {guid : UInt64} {accept : Bool}
  (votes : ∀ guid, boot.votes.lookup guid = poll.ballot guid)
include votes

variable (accept) in
lemma answer_of_answered (answered : guid ∈ poll.answered) :
    boot.undecided guid accept ∧
      ∀ g, (boot.answer guid accept).lookup g = poll.ballot g := by
  have known : boot.votes.lookup guid = some (boot.vote guid) ∧ boot.vote guid ≠ .pending := by
    unfold vote
    rw [votes]
    unfold Poll.ballot
    obtain agreed | refused := Finset.mem_union.mp answered
    · simp [agreed]
    · by_cases agreed : guid ∈ poll.agreed <;> simp [agreed, refused]
  refine ⟨.inl known.2, fun g => ?_⟩
  unfold answer
  rw [if_pos known.2]
  by_cases hs : g = guid
  · rw [hs, AList.lookup_insert, ← known.1, votes]
  · rw [AList.lookup_insert_ne hs, votes]

lemma vote_of_unanswered (hm : guid ∈ poll.members) (unanswered : guid ∉ poll.answered) :
    boot.vote guid = .pending := by
  have others := Finset.notMem_union.mp unanswered
  unfold vote
  rw [votes]
  simp [Poll.ballot, others, hm]

lemma answer_of_counted
    (counted : poll.outcome = none ∧ guid ∈ poll.members ∧ guid ∉ poll.answered) (g : UInt64) :
    (boot.answer guid accept).lookup g = (poll.vote guid accept).ballot g := by
  obtain ⟨isOpen, hm, unanswered⟩ := counted
  unfold answer
  rw [if_neg (not_not.mpr (vote_of_unanswered votes hm unanswered)),
    Poll.ballot_vote isOpen hm unanswered]
  by_cases hs : g = guid
  · rw [hs, AList.lookup_insert, if_pos rfl]
  · rw [AList.lookup_insert_ne hs, if_neg hs, votes]

variable (accept) in
lemma undecided_of_counted (fair : poll.Fair)
    (counted : poll.outcome = none ∧ guid ∈ poll.members ∧ guid ∉ poll.answered) :
    (boot.undecided guid accept ↔ (poll.vote guid accept).outcome = none) ∧
      (agreeNum (boot.answer guid accept) = LFG_GROUP_KICK_VOTES_NEEDED ↔
        (poll.vote guid accept).outcome = some .kicked) := by
  have pending := vote_of_unanswered votes counted.2.1 counted.2.2
  obtain ⟨agreeNum, votesNum⟩ := counts (fair.vote guid accept).once
    (answer_of_counted votes counted)
  have before := fair.undecided counted.1
  obtain ⟨agreed, refused⟩ := poll.card_vote guid accept
  have bounds : (poll.vote guid accept).agreed.card ≤ 3 ∧
      (poll.vote guid accept).refused.card ≤ 3 := by
    split at refused <;> omega
  rw [Poll.outcome_vote counted]
  unfold undecided LFG_GROUP_KICK_VOTES_NEEDED
  rw [agreeNum, votesNum]
  simp only [pending]
  generalize (poll.vote guid accept).agreed.card = a at bounds
  generalize (poll.vote guid accept).refused.card = r at bounds
  obtain ⟨small, small'⟩ := bounds
  revert r
  revert a
  decide

end LfgPlayerBoot

namespace KickVote

variable {gguid : UInt64} {s : KickVote}

/-! ### Every event follows the poll -/

variable {m : LFGMgr} {removed : List (UInt64 × UInt64)}

lemma Follows.same_poll (follows : Follows gguid s)
    (lookup : m.BootsStore.lookup gguid = s.manager.BootsStore.lookup gguid)
    (log : ∀ victim, (gguid, victim) ∈ removed ↔ (gguid, victim) ∈ s.removed) :
    Follows gguid ⟨m, s.poll, removed⟩ where
  fair := follows.fair
  noMember := follows.noMember
  progress isOpen := by
    obtain ⟨boot, progress⟩ := follows.progress isOpen
    exact ⟨boot, lookup.trans progress.found, progress.victim, progress.cancelTime, progress.votes⟩
  finished ended := lookup.trans (follows.finished ended)
  removed := (log _).trans follows.removed

lemma Follows.recorded {poll : Poll} {boot : LfgPlayerBoot} (follows : Follows gguid s)
    (progress : InProgress gguid s boot) (fair : poll.Fair) (isOpen : s.poll.outcome = none)
    (goesOn : poll.outcome = none) (victim : poll.victim = s.poll.victim)
    (members : poll.members = s.poll.members) (cancelTime : poll.cancelTime = s.poll.cancelTime)
    {votes : Table UInt64 LfgAnswer} (hs : ∀ g, votes.lookup g = poll.ballot g) :
    Follows gguid
      ⟨{ s.manager with BootsStore := s.manager.BootsStore.insert gguid { boot with votes } }, poll,
        s.removed⟩ where
  fair := fair
  noMember := members ▸ follows.noMember
  progress _ := ⟨{ boot with votes }, AList.lookup_insert _, progress.victim.trans victim.symm,
    progress.cancelTime.trans cancelTime.symm, hs⟩
  finished ended := absurd goesOn ended
  removed := by
    have before := follows.removed
    rw [isOpen] at before
    rw [victim, goesOn]
    exact before

lemma Follows.ended {poll : Poll} (follows : Follows gguid s) (fair : poll.Fair)
    (isOpen : s.poll.outcome = none) (finished : poll.outcome ≠ none)
    (victim : poll.victim = s.poll.victim) (members : poll.members = s.poll.members)
    (lookup : m.BootsStore.lookup gguid = none) (log : List (UInt64 × UInt64))
    (kicked : (gguid, s.poll.victim) ∈ log ↔ poll.outcome = some .kicked) :
    Follows gguid ⟨m, poll, s.removed ++ log⟩ where
  fair := fair
  noMember := members ▸ follows.noMember
  progress goesOn := absurd goesOn finished
  finished _ := lookup
  removed := by
    have before := follows.removed
    rw [isOpen] at before
    rw [victim, List.mem_append, before, kicked]
    simp

lemma follows_counted (isGroup : gguid ≠ 0) (follows : Follows gguid s) (kick : Stores → Stores)
    {guid : UInt64} (accept : Bool) (group : s.manager.GetGroup guid = gguid)
    {boot : LfgPlayerBoot} (progress : InProgress gguid s boot)
    (counted : s.poll.outcome = none ∧ guid ∈ s.poll.members ∧ guid ∉ s.poll.answered) :
    Follows gguid
      ⟨s.manager.UpdateBoot kick guid accept, s.poll.vote guid accept,
        s.removed ++ (s.manager.kicked guid accept).toList⟩ := by
  have fair := follows.fair.vote guid accept
  obtain ⟨undecided, agreed⟩ :=
    LfgPlayerBoot.undecided_of_counted accept progress.votes follows.fair counted
  obtain ⟨members, victim, cancelTime⟩ := s.poll.frame_vote guid accept
  have lookup : (s.manager.BootsStore.erase gguid).lookup gguid = none := AList.lookup_erase _ _
  cases outcome : (s.poll.vote guid accept).outcome with
  | none =>
    obtain ⟨vote, nobody⟩ := LFGMgr.UpdateBoot_undecided kick accept group isGroup progress.found
      (undecided.mpr outcome)
    rw [vote, nobody, Option.toList_none, List.append_nil]
    exact follows.recorded progress fair counted.1 outcome victim members cancelTime
      (LfgPlayerBoot.answer_of_counted progress.votes counted)
  | some result =>
    have decided : ¬ boot.undecided guid accept := by
      rw [undecided, outcome]
      exact nofun
    have finished : (s.poll.vote guid accept).outcome ≠ none := by
      rw [outcome]
      exact nofun
    cases result with
    | kicked =>
      obtain ⟨boots, somebody⟩ := LFGMgr.UpdateBoot_kick kick accept group isGroup progress.found
        decided (agreed.mpr outcome)
      refine follows.ended fair counted.1 finished victim members (by rw [boots, lookup]) _ ?_
      simp [somebody, progress.victim, outcome]
    | kept =>
      obtain ⟨closed, nobody⟩ := LFGMgr.UpdateBoot_keep kick accept group isGroup progress.found
        decided (mt agreed.mp (by rw [outcome]; exact nofun))
      rw [closed, nobody]
      refine follows.ended fair counted.1 finished victim members lookup _ ?_
      simp [outcome]

lemma follows_vote (isGroup : gguid ≠ 0) (follows : Follows gguid s) (kick : Stores → Stores)
    {guid : UInt64} (accept : Bool)
    (calm : s.manager.GetGroup guid = gguid → s.poll.outcome = none → guid ∈ s.poll.members) :
    Follows gguid (s.step gguid (.vote kick guid accept)) := by
  dsimp only [step]
  by_cases group : s.manager.GetGroup guid = gguid
  · rw [if_pos group]
    by_cases isOpen : s.poll.outcome = none
    · obtain ⟨boot, progress⟩ := follows.progress isOpen
      by_cases answered : guid ∈ s.poll.answered
      · obtain ⟨undecided, hs⟩ :=
          LfgPlayerBoot.answer_of_answered accept progress.votes answered
        obtain ⟨vote, none⟩ :=
          LFGMgr.UpdateBoot_undecided kick accept group isGroup progress.found undecided
        rw [vote, none, Poll.vote_of_not_counted fun counted => counted.2.2 answered]
        rw [Option.toList_none, List.append_nil]
        exact follows.recorded progress follows.fair isOpen isOpen rfl rfl rfl hs
      · exact follows_counted isGroup follows kick accept group progress
          ⟨isOpen, calm group isOpen, answered⟩
    · have missing : s.manager.BootsStore.lookup (s.manager.GetGroup guid) = none :=
        group ▸ follows.finished isOpen
      obtain ⟨vote, none⟩ := LFGMgr.UpdateBoot_of_none kick accept missing
      rw [vote, none, Poll.vote_of_not_counted fun counted => isOpen counted.1]
      rw [Option.toList_none, List.append_nil]
      exact follows
  · rw [if_neg group]
    obtain ⟨lookup, others⟩ := LFGMgr.UpdateBoot_other kick accept group
    refine follows.same_poll lookup fun victim => ?_
    simp [Option.mem_toList, others victim]

lemma follows_timeout (follows : Follows gguid s) (w : World) :
    Follows gguid (s.step gguid (.timeout w)) := by
  dsimp only [step]
  have expired := LFGMgr.lookup_expireBoots w gguid s.manager.BootsStore.sorted s.manager
  by_cases isOpen : s.poll.outcome = none
  · obtain ⟨boot, progress⟩ := follows.progress isOpen
    have late : (∃ it ∈ s.manager.BootsStore.sorted, it.1 = gguid ∧ it.2.cancelTime < w.now) ↔
        s.poll.cancelTime < w.now := by
      rw [← progress.cancelTime]
      constructor
      · rintro ⟨⟨_, other⟩, hm, rfl, late⟩
        rw [Table.mem_sorted, progress.found] at hm
        cases hm
        exact late
      · exact fun late =>
          ⟨(gguid, boot), (Table.mem_sorted _ _ _).mpr progress.found, rfl, late⟩
    have fair := follows.fair.timeout w.now
    simp only [late] at expired
    unfold Poll.timeout at fair ⊢
    by_cases finished : s.poll.cancelTime < w.now
    · rw [if_pos finished] at expired
      rw [if_pos ⟨isOpen, finished⟩] at fair ⊢
      rw [← List.append_nil s.removed]
      exact follows.ended fair isOpen nofun rfl rfl expired [] (by simp)
    · rw [if_neg finished] at expired
      rw [if_neg fun due => finished due.2]
      exact follows.same_poll expired fun _ => Iff.rfl
  · have missing := follows.finished isOpen
    unfold Poll.timeout
    rw [if_neg fun due => isOpen due.1]
    refine follows.same_poll (expired.trans ?_) fun _ => Iff.rfl
    rw [missing, ite_self]

lemma follows_others (follows : Follows gguid s) (change : Stores → Stores) :
    Follows gguid (s.step gguid (.others change)) :=
  follows.same_poll rfl fun _ => Iff.rfl

/-! ### Everybody is back -/

lemma mem_keys {votes : Table UInt64 LfgAnswer} {poll : Poll}
    (hs : ∀ g, votes.lookup g = poll.ballot g) (hm : g ∈ poll.members) : g ∈ votes.keys := by
  rw [← AList.mem_keys, ← AList.lookup_isSome, hs]
  exact Poll.ballot_of_member hm

lemma returned_timeout (follows : Follows gguid s) (w : World) (isOpen : s.poll.outcome = none)
    (ended : (s.poll.timeout w.now).outcome = some .kept) :
    ∀ guid ∈ s.poll.members, (s.manager.expireBoots w).stores.GetState guid = .dungeon := by
  obtain ⟨boot, progress⟩ := follows.progress isOpen
  have late : s.poll.cancelTime < w.now := by
    by_contra early
    rw [Poll.timeout, if_neg fun due => early due.2, isOpen] at ended
    cases ended
  intro guid hm
  refine LFGMgr.GetState_expireBoots w guid _ _ (.inr ⟨(gguid, boot), ?_, ?_, ?_⟩)
  · exact (Table.mem_sorted _ _ _).mpr progress.found
  · rw [progress.cancelTime]
    exact late
  · exact mem_keys progress.votes hm

lemma state_of_kept (isGroup : gguid ≠ 0) (follows : Follows gguid s) (kick : Stores → Stores)
    {guid : UInt64} {accept : Bool} (group : s.manager.GetGroup guid = gguid)
    (counted : s.poll.outcome = none ∧ guid ∈ s.poll.members ∧ guid ∉ s.poll.answered)
    (kept : (s.poll.vote guid accept).outcome = some .kept) (hm : g ∈ s.poll.members) :
    (s.manager.UpdateBoot kick guid accept).stores.GetState g =
      if g = s.poll.victim then s.manager.stores.GetState g else .dungeon := by
  obtain ⟨boot, progress⟩ := follows.progress counted.1
  obtain ⟨undecided, agreed⟩ :=
    LfgPlayerBoot.undecided_of_counted accept progress.votes follows.fair counted
  have decided : ¬ boot.undecided guid accept := by
    rw [undecided, kept]
    exact nofun
  obtain ⟨closed, -⟩ := LFGMgr.UpdateBoot_keep kick accept group isGroup progress.found
    decided (mt agreed.mp (by rw [kept]; exact nofun))
  have notGroup : g ≠ gguid := fun hs => follows.noMember (hs ▸ hm)
  have key : g ∈ (boot.answer guid accept).keys := by
    refine mem_keys (LfgPlayerBoot.answer_of_counted progress.votes counted) ?_
    rw [(s.poll.frame_vote guid accept).1]
    exact hm
  rw [closed, LFGMgr.GetState_closeBoot, ← progress.victim]
  by_cases isVictim : g = boot.victim <;> simp [isVictim, key, notGroup]
  exact fun hs => absurd (isVictim.trans hs) notGroup

lemma kept_iff {guid : UInt64} {accept : Bool} (fair : s.poll.Fair)
    (counted : s.poll.outcome = none ∧ guid ∈ s.poll.members ∧ guid ∉ s.poll.answered) :
    (s.poll.vote guid accept).outcome = some .kept ↔
      accept = false ∧ 2 ≤ s.poll.refused.card := by
  have others := Finset.notMem_union.mp counted.2.2
  have before := fair.undecided counted.1
  unfold Poll.vote
  rw [if_pos counted]
  cases accept with
  | true =>
    have few : ¬ 3 ≤ s.poll.refused.card := by omega
    simp [Poll.record, Poll.decided, few]
  | false =>
    have few : ¬ 3 ≤ s.poll.agreed.card := by omega
    have another := Finset.card_insert_of_notMem others.2
    have third : 3 ≤ (insert guid s.poll.refused).card ↔ 2 ≤ s.poll.refused.card := by omega
    by_cases enough : 2 ≤ s.poll.refused.card <;>
      simp [Poll.record, Poll.decided, few, third, enough]

lemma Follows.right {s' : KickVote} (follows : Follows gguid s')
    (once : ∀ guid ∈ s.poll.answered, s'.poll.ballot guid = s.poll.ballot guid)
    (returned : s.poll.outcome = none → s'.poll.outcome = some .kept →
      ∀ guid ∈ s'.poll.members, s'.manager.stores.GetState guid = .dungeon) :
    Right gguid s s' where
  fair := follows.fair
  once := once
  removed := follows.removed
  isOpen := by
    by_cases isOpen : s'.poll.outcome = none
    · obtain ⟨boot, progress⟩ := follows.progress isOpen
      simp [progress.found, isOpen]
    · simp [follows.finished isOpen, isOpen]
  votes boot found := by
    by_cases isOpen : s'.poll.outcome = none
    · obtain ⟨boot', progress⟩ := follows.progress isOpen
      rw [progress.found] at found
      cases found
      exact progress.votes
    · rw [follows.finished isOpen] at found
      cases found
  returned := returned

lemma member_of_right (isGroup : gguid ≠ 0) (follows : Follows gguid s)
    {kick : Stores → Stores} {guid : UInt64} {accept : Bool}
    (group : s.manager.GetGroup guid = gguid) (isOpen : s.poll.outcome = none)
    (right : Right gguid s (s.step gguid (.vote kick guid accept))) : guid ∈ s.poll.members := by
  obtain ⟨boot, progress⟩ := follows.progress isOpen
  by_contra later
  have nobody : s.poll.ballot guid = none := by
    have answers := follows.fair.agreed
    have refusals := follows.fair.refused.2
    unfold Poll.ballot
    rw [if_neg fun agreed => later (Finset.mem_of_mem_erase (answers agreed)),
      if_neg fun refused => later (refusals refused), if_neg later]
  have denied : boot.vote guid = .deny := by
    unfold LfgPlayerBoot.vote
    rw [progress.votes, nobody]
    rfl
  have voted : boot.vote guid ≠ .pending := by
    rw [denied]
    exact nofun
  obtain ⟨vote, -⟩ := LFGMgr.UpdateBoot_undecided kick accept group isGroup progress.found
    (.inl voted)
  have recorded := right.votes { boot with votes := boot.answer guid accept }
    (by rw [step, vote]; exact AList.lookup_insert _) guid
  rw [step, if_pos group, Poll.vote_of_not_counted fun counted => later counted.2.1, nobody]
    at recorded
  rw [LfgPlayerBoot.answer, AList.lookup_insert] at recorded
  cases recorded

lemma right_iff (isGroup : gguid ≠ 0) (follows : Follows gguid s) (e : KickEvent) :
    Right gguid s (s.step gguid e) ↔ Calm gguid s e := by
  cases e with
  | vote kick guid accept =>
    constructor
    · intro right group isOpen
      have hm := member_of_right isGroup follows group isOpen right
      refine ⟨hm, ?_⟩
      by_contra! third
      obtain ⟨refuses, unanswered, two, state⟩ := third
      have counted := And.intro isOpen (And.intro hm unanswered)
      have kept := (kept_iff follows.fair counted).mpr ⟨Bool.eq_false_iff.mpr refuses, two⟩
      have isVictim := follows.fair.refused.2 follows.fair.refused.1
      have returned := state_of_kept isGroup follows kick group counted kept isVictim
      obtain ⟨members, -⟩ := s.poll.frame_vote guid accept
      have back := right.returned isOpen (by rw [step, if_pos group]; exact kept) s.poll.victim (by
        rw [step, if_pos group, members]
        exact isVictim)
      rw [if_pos rfl] at returned
      exact state (returned.symm.trans back)
    · intro calm
      have follows' := follows_vote isGroup follows kick accept fun group isOpen =>
        (calm group isOpen).1
      refine follows'.right (fun g answered => ?_) fun isOpen ended g isMember => ?_
      · dsimp only [step]
        split
        · exact Poll.ballot_vote_of_answered answered
        · rfl
      dsimp only [step] at ended isMember ⊢
      by_cases group : s.manager.GetGroup guid = gguid
      · rw [if_pos group] at ended isMember
        rw [(s.poll.frame_vote guid accept).1] at isMember
        obtain ⟨hm, spared⟩ := calm group isOpen
        have unanswered : guid ∉ s.poll.answered := fun answered => by
          rw [Poll.vote_of_not_counted fun counted => counted.2.2 answered, isOpen] at ended
          cases ended
        have counted := And.intro isOpen (And.intro hm unanswered)
        obtain ⟨refuses, two⟩ := (kept_iff follows.fair counted).mp ended
        obtain agrees | answered | few | back := spared
        · rw [agrees] at refuses
          cases refuses
        · exact absurd answered unanswered
        · omega
        · rw [state_of_kept isGroup follows kick group counted ended isMember]
          split
          · next isVictim => rwa [isVictim]
          · rfl
      · rw [if_neg group, isOpen] at ended
        cases ended
  | timeout w =>
    refine iff_of_true ?_ trivial
    refine (follows_timeout follows w).right (fun guid _ => s.poll.ballot_timeout w.now guid)
      fun isOpen ended guid hm => ?_
    refine returned_timeout follows w isOpen ended guid ?_
    rwa [step, Poll.members_timeout] at hm
  | others change =>
    refine iff_of_true ?_ trivial
    refine (follows_others follows change).right (fun _ _ => rfl) fun isOpen ended => ?_
    rw [show (s.step gguid (.others change)).poll = s.poll from rfl, isOpen] at ended
    cases ended

/-! ### The beginning -/

lemma lookup_pending (players : List UInt64) (votes : Table UInt64 LfgAnswer) (g : UInt64) :
    (players.foldl (fun votes guid => votes.insert guid LfgAnswer.pending) votes).lookup g =
      if g ∈ players then some .pending else votes.lookup g := by
  induction players generalizing votes with
  | nil => rfl
  | cons guid players ih =>
    rw [List.foldl_cons, ih]
    by_cases here : g = guid
    · subst here
      simp
    · by_cases later : g ∈ players <;> simp [here, later]

lemma follows_begin (w : World) {m : LFGMgr} (called : Called m gguid kicker victim) :
    Follows gguid (begin w m gguid kicker victim) where
  fair := Poll.fair_begin (List.mem_toFinset.mpr called.isKicker)
    (List.mem_toFinset.mpr called.isVictim) called.other
  noMember := fun hm => called.noMember (List.mem_toFinset.mp hm)
  progress _ := by
    refine ⟨_, AList.lookup_insert _, rfl, rfl, fun g => ?_⟩
    rw [called.free]
    dsimp only [begin, Poll.begin, Poll.ballot]
    simp only [Finset.mem_singleton, List.mem_toFinset]
    by_cases isKicker : g = kicker
    · rw [isKicker, AList.lookup_insert, if_pos rfl]
    · rw [AList.lookup_insert_ne isKicker, if_neg isKicker]
      by_cases isVictim : g = victim
      · rw [isVictim, AList.lookup_insert, if_pos rfl]
      · rw [AList.lookup_insert_ne isVictim, if_neg isVictim, lookup_pending]
        rfl
  finished := fun ended => absurd rfl ended
  removed := by simp [begin, Poll.begin]

instance (s : KickVote) : DecidablePred (Calm gguid s)
  | .vote .. => inferInstanceAs (Decidable (_ → _ → _ ∧ (_ ∨ _ ∨ _ ∨ _)))
  | .timeout _ => isTrue trivial
  | .others _ => isTrue trivial

end KickVote

open KickVote

/-- A vote to kick goes as it should in exactly the runs where nobody votes who came later and no
third refusal ends it. -/
theorem kickVote_right_iff (w : World) (m : LFGMgr) {gguid kicker victim : UInt64}
    (called : Called m gguid kicker victim) (events : List KickEvent) :
    Along (step gguid) (fun s e => Right gguid s (s.step gguid e))
        (begin w m gguid kicker victim) events ↔
      Along (step gguid) (Calm gguid) (begin w m gguid kicker victim) events := by
  refine along_iff_of_invariant (Follows gguid) (fun s e follows calm => ?_)
    (fun s e follows => right_iff called.isGroup follows e) (follows_begin w called) events
  cases e with
  | vote kick guid accept =>
    exact follows_vote called.isGroup follows kick accept fun group isOpen =>
      (calm group isOpen).1
  | timeout w => exact follows_timeout follows w
  | others change => exact follows_others follows change

namespace KickVote

def dungeonGroup : LFGMgr where
  QueuesStore _ := ⟨∅, ∅, [], []⟩
  proposals := ⟨∅, 0⟩
  stores :=
    { PlayersStore := fun _ => ⟨.dungeon, .dungeon, 1, Matching.groupGuid 1⟩
      GroupsStore := fun _ => ⟨.dungeon, .dungeon, 1, [1, 2, 3, 4]⟩ }
  RoleChecksStore := ∅
  BootsStore := ∅
  queueIds := []
  enabled := true
  sent := []

lemma called_dungeonGroup : Called dungeonGroup (Matching.groupGuid 1) 1 2 := by
  constructor <;> decide +kernel

end KickVote

/-- The other two agree, and the victim is removed. -/
theorem kickVote_right_agreed :
    Along (step (Matching.groupGuid 1)) (fun s e => Right (Matching.groupGuid 1) s
        (s.step (Matching.groupGuid 1) e))
      (begin Matching.quiet dungeonGroup (Matching.groupGuid 1) 1 2)
      [.vote id 3 true, .vote id 4 true] :=
  (kickVote_right_iff Matching.quiet dungeonGroup called_dungeonGroup _).mpr (by decide +kernel)

/-- The other two refuse, and the victim keeps the state of a vote. -/
theorem kickVote_not_returned :
    ¬ ∀ (w : World) (m : LFGMgr) (gguid kicker victim : UInt64), Called m gguid kicker victim →
      ∀ events, Along (step gguid) (fun s e => Right gguid s (s.step gguid e))
        (begin w m gguid kicker victim) events := by
  intro all
  have right := all Matching.quiet dungeonGroup (Matching.groupGuid 1) 1 2 called_dungeonGroup
    [.vote id 3 false, .vote id 4 false]
  have back := right.2.1.returned (by decide +kernel) (by decide +kernel) 2 (by decide +kernel)
  exact absurd back (by decide +kernel)

end WorldServer.DungeonFinding
