import WorldServer.Guilds.MemberRequests

/-!
# Who may change whose rank

Promotion, demotion and removal compare the ranks of the two members, a direct rank set
does not. `Obeys` is what the comparisons are for; `WithinAuthority` says exactly which
requests obey.
-/
namespace WorldServer.Guilds

open WorldServer.Lib

/-- What a member asks for another one. -/
inductive MemberAction where
  | update (guid : UInt64) (demote : Bool)
  | set (guid : UInt64) (rank : UInt32)
  | remove (guid : UInt64)
deriving DecidableEq, Repr

def MemberAction.request (actor : UInt32) : MemberAction → RankRequest
  | .update guid demote => .updateMemberRank (playerGuid actor) guid demote
  | .set guid rank => .setMemberRank (playerGuid actor) guid rank
  | .remove guid => .remove (playerGuid actor) guid

namespace Guild

def rankOf (g : Guild) (lowguid : UInt32) : Option UInt8 :=
  (g.members.lookup lowguid).map (·.rankId)

/-- Every member is stored under its own guid. -/
def Enrolled (g : Guild) : Prop := ∀ k m, g.members.lookup k = some m → m.guid = playerGuid k

/-- Another member's rank changes only below the actor's, and is below it afterwards; no
rank is given that is as high as the actor's. -/
structure Outranked (g : Guild) (actor : UInt32) (g' : Guild) : Prop where
  others : ∀ k, k ≠ actor → g'.rankOf k ≠ g.rankOf k → ∃ mine old, g.rankOf actor = some mine ∧
    g.rankOf k = some old ∧ mine < old ∧ ∀ new, g'.rankOf k = some new → mine < new
  highest : ∀ mine, g.rankOf actor = some mine → ∀ k new, g'.rankOf k = some new → new ≤ mine →
    g.rankOf k = some new

/-- The guild goes on, and the actor has outranked whoever is changed. -/
def Obeys (w : World) (g : Guild) (actor : UInt32) (a : MemberAction) : Prop :=
  ∃ g', serve w (some g) (a.request actor) = some g' ∧ g.Outranked actor g'

/-- Requests that pass their checks without going past the actor's rank: no promotion by
the rank whose successor wraps to zero, no direct rank set from or to a rank the actor does
not outrank, and no removal that makes a member the leader. -/
def WithinAuthority (g : Guild) (actor : UInt32) : MemberAction → Prop
  | .update guid demote => demote = false → ∀ member, g.getMember guid = some member →
      ∀ memberMe, g.getMember (playerGuid actor) = some memberMe →
      g.mayUpdate (playerGuid actor) false member memberMe = true → memberMe.rankId ≠ 255
  | .set guid rank => ∀ member, g.getMember guid = some member →
      ∀ memberMe, g.getMember (playerGuid actor) = some memberMe →
      g.maySetRank (playerGuid actor) rank member = true → rank.toUInt8 = member.rankId ∨
      memberMe.rankId < member.rankId ∧ memberMe.rankId < rank.toUInt8
  | .remove guid => g.removesMember (playerGuid actor) guid = true → g.leaderGuid = guid →
      ∀ k m, g.newLeader (guidLopart guid) = some (k, m) → m.rankId = grGuildmaster

variable {g g' : Guild}

/-! ### What changes -/

lemma Enrolled.reassign (enrolled : g.Enrolled) (guid : UInt64) (newRank : Option UInt8) :
    (g.reassign guid newRank).Enrolled := by
  cases newRank with
  | none => exact enrolled
  | some rank =>
    intro k m hf
    rcases (lookup_changeRank g _ k rank m).mp hf with ⟨rfl, old, here, rfl⟩ | ⟨-, before⟩
    · exact enrolled _ old here
    · exact enrolled k m before

lemma rankOf_reassign (g : Guild) (guid : UInt64) (newRank : Option UInt8) (k : UInt32) :
    (g.reassign guid newRank).rankOf k =
      if k = guidLopart guid then (g.rankOf k).map newRank.getD else g.rankOf k := by
  cases newRank with
  | none => cases h : g.rankOf k <;> simp [reassign, h]
  | some rank =>
    simp only [reassign, Option.elim_some, rankOf]
    unfold changeRank
    by_cases hs : k = guidLopart guid
    · subst hs
      cases hf : g.members.lookup (guidLopart guid) <;> simp [hf]
    · cases hf : g.members.lookup (guidLopart guid) <;> simp [hs, AList.lookup_insert_ne]

variable {actor : UInt32} {guid : UInt64}

lemma outranked_reassign_iff {rank mine old : UInt8} (own : g.rankOf actor = some mine)
    (target : g.rankOf (guidLopart guid) = some old) (other : guidLopart guid ≠ actor) :
    g.Outranked actor (g.reassign guid (some rank)) ↔
      rank = old ∨ mine < old ∧ mine < rank := by
  have there : (g.reassign guid (some rank)).rankOf (guidLopart guid) = some rank := by
    rw [rankOf_reassign, if_pos rfl, target]
    rfl
  constructor
  · intro outranked
    by_cases hs : rank = old
    · exact Or.inl hs
    · right
      obtain ⟨mine', old', own', target', lower, below⟩ := outranked.others (guidLopart guid) other
        (by rw [there, target]; simpa using hs)
      obtain rfl := Option.some.inj (own.symm.trans own')
      obtain rfl := Option.some.inj (target.symm.trans target')
      exact ⟨lower, below rank there⟩
  · intro within
    constructor
    · intro k notActor changed
      rw [rankOf_reassign] at changed
      split at changed
      next here =>
        subst here
        rw [target] at changed
        obtain hs | ⟨lower, below⟩ := within
        · exact absurd (by simpa using hs) changed
        · exact ⟨mine, old, own, target, lower, fun new after => by
            obtain rfl := Option.some.inj (there.symm.trans after)
            exact below⟩
      next => exact absurd rfl changed
    · intro mine' own' k new after high
      obtain rfl := Option.some.inj (own.symm.trans own')
      rw [rankOf_reassign] at after
      split at after
      next here =>
        subst here
        rw [target] at after ⊢
        have given : rank = new := by simpa using after
        subst given
        obtain hs | ⟨-, below⟩ := within
        · rw [hs]
        · exact absurd high (UInt8.not_le.mpr below)
      next => exact after

lemma outranked_refl (g : Guild) (actor : UInt32) : g.Outranked actor g :=
  ⟨fun _ _ changed => absurd rfl changed, fun _ _ _ _ hs _ => hs⟩

lemma target_other (enrolled : g.Enrolled) {member : Member}
    (hf : g.getMember guid = some member)
    (notSame : member.isSamePlayer (playerGuid actor) = false) : guidLopart guid ≠ actor := by
  rintro hs
  rw [Member.isSamePlayer, beq_eq_false_iff_ne, enrolled _ member hf, hs] at notSame
  exact notSame rfl

/-! ### One request -/

lemma getMember_playerGuid (g : Guild) (k : UInt32) :
    g.getMember (playerGuid k) = g.members.lookup k := by
  rw [getMember, guidLopart_playerGuid]

lemma obeys_of_reassign {w : World} {a : MemberAction} {newRank : Option UInt8}
    (served : serve w (some g) (a.request actor) =
      some (g.reassign guid newRank)) :
    g.Obeys w actor a ↔ g.Outranked actor (g.reassign guid newRank) := by
  simp [Obeys, served]

lemma rankOf_of_found {k : UInt32} {m : Member} (hf : g.members.lookup k = some m) :
    g.rankOf k = some m.rankId := by
  rw [rankOf, hf]
  rfl

lemma update_obeys_iff (w : World) (enrolled : g.Enrolled) (actor : UInt32) (guid : UInt64)
    (demote : Bool) : g.Obeys w actor (.update guid demote) ↔ g.WithinAuthority actor (.update guid demote) := by
  have served : serve w (some g) ((MemberAction.update guid demote).request actor) =
      some (g.reassign guid (g.updatedRank (playerGuid actor) guid demote)) :=
    g.handleUpdateMemberRank_eq (playerGuid actor) guid demote
  rw [obeys_of_reassign served]
  simp only [WithinAuthority, updatedRank]
  cases hf : g.getMember guid with
  | none => simpa [reassign] using g.outranked_refl actor
  | some member =>
    cases foundMe : g.getMember (playerGuid actor) with
    | none => simpa [reassign] using g.outranked_refl actor
    | some memberMe =>
      simp only [Option.some.injEq, forall_eq']
      by_cases may : g.mayUpdate (playerGuid actor) demote member memberMe = true
      · have own : g.rankOf actor = some memberMe.rankId := by
          apply rankOf_of_found
          rw [← getMember_playerGuid, foundMe]
        have checks := may
        simp only [mayUpdate, Bool.and_eq_true, Bool.not_eq_true'] at checks
        have other := target_other enrolled hf checks.1.2
        rw [if_pos may, outranked_reassign_iff own (rankOf_of_found hf) other]
        cases demote with
        | true =>
          -- the demoted member is outranked before and after
          simp only [if_true, Bool.and_eq_true, decide_eq_true_eq] at checks ⊢
          have lower := checks.2.1
          have above := checks.2.2
          have size := g.getLowestRankId.toNat_lt
          rw [UInt8.lt_iff_toNat_lt] at above
          refine iff_of_true (Or.inr ⟨lower, ?_⟩) (by simp)
          rw [UInt8.lt_iff_toNat_lt] at lower ⊢
          rw [UInt8.toNat_add, UInt8.toNat_one]
          omega
        | false =>
          simp only [Bool.false_eq_true, if_false, decide_eq_true_eq] at checks ⊢
          have lower := checks.2
          have top := memberMe.rankId.toNat_lt
          have size := member.rankId.toNat_lt
          rw [UInt8.lt_iff_toNat_lt, UInt8.toNat_add, UInt8.toNat_one] at lower
          have one : (1 : UInt8) ≤ member.rankId := by
            rw [UInt8.le_iff_toNat_le, UInt8.toNat_one]
            omega
          have promoted := UInt8.toNat_sub_of_le _ _ one
          simp only [may, forall_const, ← UInt8.toNat_inj, UInt8.lt_iff_toNat_lt, promoted, ne_eq,
            UInt8.reduceToNat]
          rw [UInt8.le_iff_toNat_le, UInt8.toNat_one] at one
          omega
      · have refused : g.mayUpdate (playerGuid actor) demote member memberMe = false := by simpa using may
        rw [if_neg may]
        refine iff_of_true (by simpa [reassign] using g.outranked_refl actor) ?_
        rintro rfl passes
        rw [refused] at passes
        cases passes

lemma set_obeys_iff (w : World) (enrolled : g.Enrolled) (guid : UInt64) (rank : UInt32) :
    g.Obeys w actor (.set guid rank) ↔ g.WithinAuthority actor (.set guid rank) := by
  have served : serve w (some g) ((MemberAction.set guid rank).request actor) =
      some (g.reassign guid (g.setRank (playerGuid actor) guid rank)) :=
    g.handleSetMemberRank_eq (playerGuid actor) guid rank
  rw [obeys_of_reassign served]
  simp only [WithinAuthority, setRank]
  cases hf : g.getMember guid with
  | none => simpa [reassign] using g.outranked_refl actor
  | some member =>
    simp only [Option.some.injEq, forall_eq']
    by_cases may : g.maySetRank (playerGuid actor) rank member = true
    · have checks := may
      simp only [maySetRank, Bool.and_eq_true, Bool.not_eq_true'] at checks
      have other := target_other enrolled hf checks.2
      -- only a member has a right
      obtain ⟨memberMe, foundMe⟩ : ∃ memberMe, g.getMember (playerGuid actor) = some memberMe := by
        cases foundMe : g.getMember (playerGuid actor) with
        | none => simp [hasRankRight, foundMe] at checks
        | some memberMe => exact ⟨memberMe, rfl⟩
      have own : g.rankOf actor = some memberMe.rankId := by
        apply rankOf_of_found
        rw [← getMember_playerGuid, foundMe]
      simp only [may, if_true, foundMe, Option.some.injEq, forall_eq', forall_const]
      exact outranked_reassign_iff own (rankOf_of_found hf) other
    · rw [if_neg may]
      refine iff_of_true (by simpa [reassign] using g.outranked_refl actor) fun memberMe _ passes => ?_
      exact absurd passes may

/-- What a removal leaves: the removed member is gone, and where it was the recorded leader
the successor holds the first rank. -/
lemma rankOf_deleteMember (left : g.deleteMember guid = some g') (k : UInt32) :
    g'.rankOf k = if k = guidLopart guid then none
      else if g.leaderGuid = guid ∧ (g.newLeader (guidLopart guid)).map (·.1) = some k then some grGuildmaster
      else g.rankOf k := by
  simp only [deleteMember] at left
  split at left
  next leads =>
    obtain ⟨⟨k', new⟩, chosen, rfl⟩ := Option.map_eq_some_iff.mp left
    obtain ⟨other, hf, -⟩ := newLeader_some chosen
    simp only [leads, true_and, chosen, Option.map_some, Option.some.injEq, rankOf, eraseMember]
    by_cases gone : k = guidLopart guid
    · subst gone
      simp [AList.lookup_erase]
    · rw [if_neg gone, AList.lookup_erase_ne gone]
      by_cases crowned : k' = k
      · subst crowned
        have first := (lookup_changeRank { g with leaderGuid := new.guid } k' k' grGuildmaster _).mpr
          (Or.inl ⟨rfl, new, hf, rfl⟩)
        rw [if_pos rfl, setLeaderGuid, first]
        rfl
      · rw [if_neg crowned, setLeaderGuid]
        congr 1
        apply Option.ext
        intro m
        exact (lookup_changeRank { g with leaderGuid := new.guid } k' k grGuildmaster m).trans
          (by simp [Ne.symm crowned])
  next follows =>
    obtain rfl := Option.some.inj left
    simp only [follows, false_and, if_false, rankOf, eraseMember]
    by_cases gone : k = guidLopart guid
    · subst gone
      simp [AList.lookup_erase]
    · rw [if_neg gone, AList.lookup_erase_ne gone]

lemma removesMember_ranks (removes : g.removesMember (playerGuid actor) guid = true) : ∃ mine old,
      g.rankOf actor = some mine ∧ g.rankOf (guidLopart guid) = some old ∧ mine < old := by
  simp only [removesMember, Bool.and_eq_true] at removes
  split at removes
  next member memberMe hf foundMe =>
    simp only [Bool.and_eq_true, decide_eq_true_eq] at removes
    exact ⟨memberMe.rankId, member.rankId, rankOf_of_found (by rw [← getMember_playerGuid, foundMe]),
      rankOf_of_found hf, removes.2.2⟩
  next => cases removes.2

lemma deleteMember_of_removes (removes : g.removesMember (playerGuid actor) guid = true) :
    ∃ g', g.deleteMember guid = some g' := by
  obtain ⟨mine, old, own, target, lower⟩ := removesMember_ranks removes
  obtain ⟨me, foundMe, rank⟩ := Option.map_eq_some_iff.mp own
  unfold deleteMember
  split
  · cases chosen : g.newLeader (guidLopart guid) with
    | none =>
      have hs := newLeader_none chosen actor me foundMe
      rw [hs, target] at own
      exact absurd lower (by rw [Option.some.inj own]; exact UInt8.lt_irrefl _)
    | some leader => exact ⟨_, rfl⟩
  · exact ⟨_, rfl⟩

lemma remove_obeys_iff (w : World) (actor : UInt32) (guid : UInt64) :
    g.Obeys w actor (.remove guid) ↔ g.WithinAuthority actor (.remove guid) := by
  have served : serve w (some g) ((MemberAction.remove guid).request actor) = _ :=
    g.handleRemoveMember_eq (playerGuid actor) guid
  simp only [Obeys, served, WithinAuthority]
  by_cases removes : g.removesMember (playerGuid actor) guid = true
  · obtain ⟨g', left⟩ := deleteMember_of_removes removes
    obtain ⟨mine, old, own, target, lower⟩ := removesMember_ranks removes
    have after := rankOf_deleteMember left
    simp only [removes, if_true, left, Option.some.injEq, exists_eq_left', forall_const]
    constructor
    · intro outranked leads k m chosen
      obtain ⟨other, hf, -⟩ := newLeader_some chosen
      -- the successor's new rank is as high as any
      have crowned : g'.rankOf k = some grGuildmaster := by
        rw [after, if_neg other, if_pos ⟨leads, by rw [chosen]; rfl⟩]
      have before := outranked.highest mine own k grGuildmaster crowned UInt8.zero_le
      rw [rankOf_of_found hf] at before
      exact Option.some.inj before
    · intro within
      have kept : ∀ k, k ≠ guidLopart guid → g'.rankOf k = g.rankOf k := by
        intro k other
        rw [after, if_neg other]
        split
        next crowned =>
          obtain ⟨⟨k', m⟩, chosen, rfl⟩ := Option.map_eq_some_iff.mp crowned.2
          obtain ⟨-, hf, -⟩ := newLeader_some chosen
          rw [rankOf_of_found hf, within crowned.1 k' m chosen]
        next => rfl
      constructor
      · intro k _ changed
        by_cases gone : k = guidLopart guid
        · subst gone
          refine ⟨mine, old, own, target, lower, fun new there => ?_⟩
          rw [after, if_pos rfl] at there
          cases there
        · exact absurd (kept k gone) changed
      · intro mine' _ k new there _
        by_cases gone : k = guidLopart guid
        · rw [after, if_pos gone] at there
          cases there
        · rw [← kept k gone]
          exact there
  · simp only [removes, Bool.false_eq_true, if_false, Option.some.injEq, exists_eq_left', false_imp_iff,
      iff_true]
    exact g.outranked_refl actor

lemma obeys_iff (w : World) (enrolled : g.Enrolled) (actor : UInt32) (a : MemberAction) :
    g.Obeys w actor a ↔ g.WithinAuthority actor a := by
  cases a with
  | update guid demote => exact update_obeys_iff w enrolled actor guid demote
  | set guid rank => exact set_obeys_iff w enrolled guid rank
  | remove guid => exact remove_obeys_iff w actor guid

lemma serve_of_stranger (w : World) (stranger : g.rankOf actor = none) (a : MemberAction) :
    serve w (some g) (a.request actor) = some g := by
  have absent : g.getMember (playerGuid actor) = none := by
    rw [getMember_playerGuid]
    simpa [rankOf] using stranger
  have noRight : ∀ right, g.hasRankRight (playerGuid actor) right = false := fun right => by
    rw [hasRankRight, absent]
  cases a with
  | update guid demote =>
    rw [MemberAction.request, serve_some, handle, handleUpdateMemberRank_eq, updatedRank, absent]
    cases g.getMember guid <;> rfl
  | set guid rank =>
    rw [MemberAction.request, serve_some, handle, handleSetMemberRank_eq, setRank]
    cases g.getMember guid <;> simp [maySetRank, noRight, reassign]
  | remove guid =>
    rw [MemberAction.request, serve_some, handle, handleRemoveMember_eq]
    simp [removesMember, noRight]

lemma serve_enrolled {w : World} (enrolled : g.Enrolled) {a : MemberAction}
    (served : serve w (some g) (a.request actor) = some g') : g'.Enrolled := by
  cases a with
  | update guid demote =>
    rw [MemberAction.request, serve_some, handle, handleUpdateMemberRank_eq] at served
    exact Option.some.inj served ▸ enrolled.reassign guid _
  | set guid rank =>
    rw [MemberAction.request, serve_some, handle, handleSetMemberRank_eq] at served
    exact Option.some.inj served ▸ enrolled.reassign guid _
  | remove guid =>
    rw [MemberAction.request, serve_some, handle, handleRemoveMember_eq] at served
    split at served
    · intro k m hf
      simp only [deleteMember] at served
      split at served
      · obtain ⟨⟨k', new⟩, chosen, rfl⟩ := Option.map_eq_some_iff.mp served
        obtain ⟨-, there, -⟩ := newLeader_some chosen
        rcases (lookup_changeRank _ _ _ _ _).mp ((Table.lookup_erase_iff _ _ _ _).mp hf).2 with
          ⟨rfl, old, here, rfl⟩ | ⟨-, before⟩
        · exact enrolled _ old here
        · exact enrolled k m before
      · obtain rfl := Option.some.inj served
        exact enrolled k m ((Table.lookup_erase_iff _ _ _ _).mp hf).2
    · exact Option.some.inj served ▸ enrolled

end Guild

/-! ### A whole run -/

/-- A guild whose members are stored under their own guids. -/
structure EnrolledGuild extends Guild where
  enrolled : toGuild.Enrolled

def serveAction (w : World) (s : Option Guild) (x : UInt32 × MemberAction) : Option Guild :=
  serve w s (x.2.request x.1)

/-- Nobody has come to a rank of `bound` or above. -/
def NoneRaised (bound : UInt8) (start g : Guild) : Prop :=
  ∀ k rank, g.rankOf k = some rank → rank ≤ bound → start.rankOf k = some rank

lemma noneRaised_along (w : World) (start : EnrolledGuild) (bound : UInt8)
    (run_ : List (UInt32 × MemberAction))
    (actors : ∀ x ∈ run_, ∀ mine, start.rankOf x.1 = some mine → bound ≤ mine)
    (within : Along (serveAction w) (fun s x => Holds (fun g => g.WithinAuthority x.1 x.2) s)
      (some start.toGuild) run_) :
    Holds (NoneRaised bound start.toGuild) (run (serveAction w) (some start.toGuild) run_) := by
  -- over the rest of the run, from a state in which nobody has been raised
  suffices rest : ∀ (xs : List (UInt32 × MemberAction)) (g : Guild), g.Enrolled →
      NoneRaised bound start.toGuild g →
      (∀ x ∈ xs, ∀ mine, start.rankOf x.1 = some mine → bound ≤ mine) →
      Along (serveAction w) (fun s x => Holds (fun g => g.WithinAuthority x.1 x.2) s) (some g) xs →
      Holds (NoneRaised bound start.toGuild) (run (serveAction w) (some g) xs) from
    rest run_ start.toGuild start.enrolled (fun _ _ hs _ => hs) actors within
  intro xs
  induction xs with
  | nil =>
    intro g _ raised _ _
    simpa using raised
  | cons x xs ih =>
    intro g enrolled raised actors within
    obtain ⟨step, within⟩ := within
    rw [holds_some] at step
    obtain ⟨g', served, outranked⟩ := (Guild.obeys_iff w enrolled x.1 x.2).mpr step
    have served' : serveAction w (some g) x = some g' := served
    rw [run_cons, served']
    rw [served'] at within
    refine ih g' (Guild.serve_enrolled enrolled served) ?_
      (fun y hm => actors y (List.mem_cons_of_mem x hm)) within
    intro k rank there high
    cases own : g.rankOf x.1 with
    | none =>
      have unchanged := Guild.serve_of_stranger w own x.2
      rw [unchanged] at served
      obtain rfl := Option.some.inj served
      exact raised k rank there high
    | some mine =>
      have least : bound ≤ mine := by
        rcases UInt8.le_total mine bound with low | high'
        · exact actors x List.mem_cons_self mine (raised x.1 mine own low)
        · exact high'
      exact raised k rank (outranked.highest mine own k rank there (UInt8.le_trans high least)) high

/-- A request obeys exactly when it is within its actor's authority, and where all requests
of a run are, nobody is raised to the rank of the highest-ranking actor. -/
theorem authority_iff (w : World) :
    (∀ (g : EnrolledGuild) (actor : UInt32) (a : MemberAction),
      g.Obeys w actor a ↔ g.WithinAuthority actor a) ∧
    ∀ (start : EnrolledGuild) (bound : UInt8) (requests : List (UInt32 × MemberAction)),
      (∀ x ∈ requests, ∀ mine, start.rankOf x.1 = some mine → bound ≤ mine) →
      Along (serveAction w) (fun s x => Holds (fun g => g.WithinAuthority x.1 x.2) s)
        (some start.toGuild) requests →
      Holds (NoneRaised bound start.toGuild) (run (serveAction w) (some start.toGuild) requests) :=
  ⟨fun g actor a => g.toGuild.obeys_iff w g.enrolled actor a, noneRaised_along w⟩

private def plainWorld : World :=
  { stackable := fun _ => 1, undeletableLevel := 26, allowTwoSideInteraction := false,
    allowMultipleGuildMaster := false, teamOf := fun _ => 469, defaultRankName := fun _ => "" }

private def threeMembers : Guild :=
  Guild.createDefaultGuildRanks plainWorld
    { leaderGuid := 1, level := 1, bankMoney := 0, ranks := [], bankTabs := []
      members := (((∅ : Table UInt32 Member).insert 3
        { guid := 3, name := "Initiate", rankId := grInitiate }).insert 2
        { guid := 2, name := "Officer", rankId := grOfficer }).insert 1
        { guid := 1, name := "Leader", rankId := grGuildmaster } }

private lemma threeMembers_enrolled : threeMembers.Enrolled := by
  intro k m found
  change ((((∅ : Table UInt32 Member).insert 3 _).insert 2 _).insert 1 _).lookup k = some m at found
  simp only [Table.lookup_insert_iff] at found
  rcases found with ⟨rfl, rfl⟩ | ⟨-, ⟨rfl, rfl⟩ | ⟨-, ⟨rfl, rfl⟩ | ⟨-, found⟩⟩⟩
  · rfl
  · rfl
  · rfl
  · simp at found

/-- An officer makes an initiate guild master. -/
theorem officer_crowns_initiate : ¬ ∀ (w : World) (g : EnrolledGuild) (actor : UInt32) (a : MemberAction),
    g.Obeys w actor a := by
  intro claim
  obtain ⟨g', served, outranked⟩ := claim plainWorld ⟨threeMembers, threeMembers_enrolled⟩ 2 (.set 3 0)
  obtain rfl := Option.some.inj served
  have before := outranked.highest 1 rfl 3 0 rfl UInt8.zero_le
  cases before

end WorldServer.Guilds
