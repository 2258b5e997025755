import WorldServer.Battlegrounds.BattlegroundQueue

/-!
# Waiting times

Two teams may play a rated match when their ratings are near enough to the one that opponents are
searched for, or when they have waited long enough; and a premade group that has waited long enough
goes over to the normal queue. The time to wait is taken from the clock, a number of 32 bits, before
it is compared with the time of joining. While the clock shows less than the time to wait, which it
does after the start of the server and after each turn of the clock, this wraps, and everybody seems
to have waited.
-/
namespace WorldServer.Battlegrounds

namespace BattlegroundQueue

variable (q : BattlegroundQueue) (sv : Server) (u : QueueUpdate) (uptime : ℕ) (joined : ℕ → ℕ)

/-! ### The rules -/

/-- The clock shows the uptime in milliseconds, and so do the times at which the groups joined. -/
structure Clocked : Prop where
  now : sv.now = UInt32.ofNat uptime
  past : ∀ g, joined g ≤ uptime
  stamps : ∀ g, (q.groups g).JoinTime = UInt32.ofNat (joined g)

/-- No team waits in the queues of both factions, as one with members of both could. -/
def OneSided (bracketId : BattlegroundBracketId) : Prop :=
  ∀ g ∈ q.m_QueuedGroups (bracketId, .premade .alliance),
    ∀ h ∈ q.m_QueuedGroups (bracketId, .premade .horde),
      (q.groups g).ArenaTeamId ≠ (q.groups h).ArenaTeamId

/-- Queued groups have players. The matchmaker rating of a player has 16 bits, so have those of the
teams and the one that an update is asked for. -/
structure Admitted : Prop where
  players : ∀ at_, ∀ g ∈ q.m_QueuedGroups at_, (q.groups g).Players ≠ []
  ratings : ∀ at_, ∀ g ∈ q.m_QueuedGroups at_, (q.groups g).ArenaMatchmakerRating.toNat < 2 ^ 16
  asked : u.arenaRating.toNat < 2 ^ 16

def Near (difference rating arenaRating : UInt32) : Prop :=
  rating.toNat ≤ arenaRating.toNat + difference.toNat ∧
    arenaRating.toNat ≤ rating.toNat + difference.toNat

/-- The team is not invited, and its rating is near enough or it has waited long enough. -/
def MayPlay (arenaRating : UInt32) (g : ℕ) : Prop :=
  (q.groups g).uninvited = true ∧
    (Near sv.maxRatingDifference (q.groups g).ArenaMatchmakerRating arenaRating ∨
      sv.ratingDiscardTimer.toNat ≤ uptime - joined g)

structure WaitingRules (minPlayers maxPlayers : ℕ) : Prop where
  rated : ∀ arenaRating g h, q.ratingOf u = some arenaRating →
    q.findTeams sv u arenaRating = some (g, h) →
      (q.groups g).ArenaTeamId ≠ (q.groups h).ArenaTeamId ∧
        q.MayPlay sv uptime joined arenaRating g ∧ q.MayPlay sv uptime joined arenaRating h
  premade : ∀ t, ∀ g ∈ q.m_QueuedGroups (u.bracketId, .premade t),
    g ∉ (q.checkPremadeMatch sv u.bracketId minPlayers maxPlayers).1.m_QueuedGroups
      (u.bracketId, .premade t) →
      sv.premadeGroupWaitForMatch.toNat ≤ uptime - joined g ∨
        (q.groups g).Players.length < minPlayers

variable {q sv u uptime joined}

/-! ### The clock -/

lemma Clocked.waited (clocked : q.Clocked sv uptime joined) {timer : UInt32}
    (enough : timer ≤ sv.now) {g : ℕ} (before : (q.groups g).JoinTime < sv.now - timer) :
    timer.toNat ≤ uptime - joined g := by
  have past := clocked.past g
  rw [clocked.stamps g, clocked.now] at before
  rw [clocked.now] at enough
  rw [UInt32.lt_iff_toNat_lt, UInt32.toNat_sub_of_le _ _ enough, UInt32.toNat_ofNat',
    UInt32.toNat_ofNat'] at before
  omega

lemma before_of_wrap {now timer : UInt32} (wraps : now < timer) : now < now - timer := by
  rw [UInt32.lt_iff_toNat_lt, UInt32.toNat_sub]
  rw [UInt32.lt_iff_toNat_lt] at wraps
  have := timer.toNat_lt
  omega

lemma near_of_range {rating arenaRating difference : UInt32}
    (low : (if arenaRating ≤ difference then 0 else arenaRating - difference) ≤ rating)
    (high : rating ≤ arenaRating + difference) :
    Near difference rating arenaRating := by
  rw [Near]
  rw [UInt32.le_iff_toNat_le, UInt32.toNat_add] at high
  have := arenaRating.toNat_lt
  have := difference.toNat_lt
  split at low
  next small =>
    rw [UInt32.le_iff_toNat_le] at small
    omega
  next large =>
    have less : difference ≤ arenaRating := UInt32.le_of_lt (UInt32.not_le.mp large)
    rw [UInt32.le_iff_toNat_le, UInt32.toNat_sub_of_le _ _ less] at low
    omega

lemma Admitted.ratingOf (admitted : q.Admitted u) {arenaRating : UInt32}
    (hr : q.ratingOf u = some arenaRating) : arenaRating.toNat < 2 ^ 16 := by
  have front : ∀ t front, ((q.m_QueuedGroups (u.bracketId, .premade t)).head?).map q.groups = some front →
      front.ArenaMatchmakerRating.toNat < 2 ^ 16 := by
    intro t front hf
    obtain ⟨g, first, rfl⟩ := Option.map_eq_some_iff.mp hf
    exact admitted.ratings _ g (List.mem_of_head? first)
  unfold BattlegroundQueue.ratingOf at hr
  dsimp only at hr
  split at hr
  · exact Option.some.inj hr ▸ admitted.asked
  · split at hr
    next first second =>
      split at hr
      · exact Option.some.inj hr ▸ front _ _ first
      · exact Option.some.inj hr ▸ front _ _ second
    next first _ => exact Option.some.inj hr ▸ front _ _ first
    next _ second => exact Option.some.inj hr ▸ front _ _ second
    next => cases hr

lemma Clocked.mayPlay (clocked : q.Clocked sv uptime joined) {arenaRating : UInt32} {g : ℕ}
    (fits : 65535 ≤ sv.maxRatingDifference ∨ sv.ratingDiscardTimer ≤ sv.now)
    (reference : arenaRating.toNat < 2 ^ 16)
    (rating : (q.groups g).ArenaMatchmakerRating.toNat < 2 ^ 16)
    (suits : q.suits sv arenaRating g = true) : q.MayPlay sv uptime joined arenaRating g := by
  simp only [BattlegroundQueue.suits, Bool.and_eq_true, Bool.or_eq_true, decide_eq_true_eq] at suits
  refine ⟨suits.1, ?_⟩
  rcases suits.2 with ⟨low, high⟩ | before
  · exact .inl (near_of_range low high)
  · rcases fits with all | enough
    · left
      have all : 65535 ≤ sv.maxRatingDifference.toNat := UInt32.le_iff_toNat_le.mp all
      rw [Near]
      omega
    · exact .inr (clocked.waited enough before)

/-- Both teams are queued and suit, and only the queues of both factions may give the same team
twice. -/
lemma findTeams_suits {arenaRating : UInt32} {g h : ℕ}
    (hf : q.findTeams sv u arenaRating = some (g, h)) :
    (q.suits sv arenaRating g = true ∧ q.suits sv arenaRating h = true) ∧
      (∀ i, i = g ∨ i = h → ∃ t, i ∈ q.m_QueuedGroups (u.bracketId, .premade t)) ∧
      ((q.groups g).ArenaTeamId ≠ (q.groups h).ArenaTeamId ∨
        g ∈ q.m_QueuedGroups (u.bracketId, .premade .alliance) ∧
          h ∈ q.m_QueuedGroups (u.bracketId, .premade .horde)) := by
  have oneQueue : ∀ t g',
      (q.m_QueuedGroups (u.bracketId, .premade t)).find? (q.suits sv arenaRating) = some g' →
      ((((q.m_QueuedGroups (u.bracketId, .premade t)).dropWhile (· ≠ g')).find? fun h =>
        q.suits sv arenaRating h && (q.groups g').ArenaTeamId != (q.groups h).ArenaTeamId).map
          fun h => (g', h)) = some (g, h) →
      (q.suits sv arenaRating g = true ∧ q.suits sv arenaRating h = true) ∧
        (∀ i, i = g ∨ i = h → ∃ t, i ∈ q.m_QueuedGroups (u.bracketId, .premade t)) ∧
        (q.groups g).ArenaTeamId ≠ (q.groups h).ArenaTeamId := by
    intro t g' first second
    obtain ⟨h', here, pair⟩ := Option.map_eq_some_iff.mp second
    obtain ⟨rfl, rfl⟩ := Prod.mk.inj pair
    have differs := List.find?_some here
    rw [Bool.and_eq_true, bne_iff_ne] at differs
    refine ⟨⟨List.find?_some first, differs.1⟩, ?_, differs.2⟩
    rintro i (rfl | rfl)
    · exact ⟨t, List.mem_of_find?_eq_some first⟩
    · exact ⟨t, (List.dropWhile_sublist _).subset (List.mem_of_find?_eq_some here)⟩
  unfold findTeams at hf
  dsimp only at hf
  split at hf
  next first second =>
    obtain ⟨rfl, rfl⟩ := Prod.mk.inj (Option.some.inj hf)
    have queued := And.intro (List.mem_of_find?_eq_some first) (List.mem_of_find?_eq_some second)
    refine ⟨⟨List.find?_some first, List.find?_some second⟩, ?_, .inr queued⟩
    rintro i (rfl | rfl)
    · exact ⟨.alliance, queued.1⟩
    · exact ⟨.horde, queued.2⟩
  next first _ => exact (oneQueue .alliance _ first hf).imp_right (.imp_right .inl)
  next _ first => exact (oneQueue .horde _ first hf).imp_right (.imp_right .inl)
  · exact absurd hf (by simp)

/-! ### Premade groups -/

section Premade

variable {bracketId : BattlegroundBracketId} {timeBefore : UInt32} {minPlayersPerTeam : ℕ}

lemma groups_movePremade (t : Team) :
    (q.movePremade bracketId timeBefore minPlayersPerTeam t).groups = q.groups := by
  rw [movePremade]
  split
  · rfl
  · simp only
    split <;> rfl

lemma of_moved {t t' : Team} {g : ℕ} (here : g ∈ q.m_QueuedGroups (bracketId, .premade t))
    (gone : g ∉ (q.movePremade bracketId timeBefore minPlayersPerTeam t').m_QueuedGroups
      (bracketId, .premade t)) :
    (q.groups g).JoinTime < timeBefore ∨ (q.groups g).Players.length < minPlayersPerTeam := by
  rw [movePremade] at gone
  split at gone
  next => exact absurd here gone
  next front rest hs =>
    simp only at gone
    split at gone
    next moves =>
      by_cases own : t = t'
      · subst own
        have notRest : g ∉ rest := by simpa [setGroups] using gone
        rw [hs] at here
        obtain rfl := (List.mem_cons.mp here).resolve_right notRest
        exact moves.2
      · -- the queue of the other faction stays as it is
        have kept : g ∉ q.m_QueuedGroups (bracketId, .premade t) := by
          cases t <;> cases t' <;> simp_all [setGroups, GroupType.premade, GroupType.normal]
        exact absurd here kept
    next => exact absurd here gone

lemma of_gone {maxPlayersPerTeam : ℕ} {t : Team} {g : ℕ}
    (here : g ∈ q.m_QueuedGroups (bracketId, .premade t))
    (gone : g ∉ (q.checkPremadeMatch sv bracketId minPlayersPerTeam
      maxPlayersPerTeam).1.m_QueuedGroups (bracketId, .premade t)) :
    (q.groups g).JoinTime < sv.now - sv.premadeGroupWaitForMatch ∨
      (q.groups g).Players.length < minPlayersPerTeam := by
  rw [checkPremadeMatch] at gone
  split at gone
  · exact absurd here gone
  · simp only [List.foldl_cons, List.foldl_nil] at gone
    by_cases first : g ∈ (q.movePremade bracketId (sv.now - sv.premadeGroupWaitForMatch)
        minPlayersPerTeam .alliance).m_QueuedGroups (bracketId, .premade t)
    · have moved := of_moved first gone
      rwa [groups_movePremade] at moved
    · exact of_moved here first

end Premade

/-! ### When the rules hold -/

lemma Clocked.rules (clocked : q.Clocked sv uptime joined) (oneSided : q.OneSided u.bracketId)
    (admitted : q.Admitted u) (fits : 65535 ≤ sv.maxRatingDifference ∨ sv.ratingDiscardTimer ≤ sv.now)
    (premade : sv.premadeGroupWaitForMatch ≤ sv.now) (minPlayers maxPlayers : ℕ) :
    q.WaitingRules sv u uptime joined minPlayers maxPlayers where
  rated := by
    intro arenaRating g h hr hf
    obtain ⟨⟨first, second⟩, queued, different⟩ := findTeams_suits hf
    have reference := admitted.ratingOf hr
    have rating : ∀ i, i = g ∨ i = h → (q.groups i).ArenaMatchmakerRating.toNat < 2 ^ 16 := by
      intro i hi
      obtain ⟨t, here⟩ := queued i hi
      exact admitted.ratings _ i here
    refine ⟨different.elim id fun sides => oneSided g sides.1 h sides.2, ?_, ?_⟩
    · exact clocked.mayPlay fits reference (rating g (.inl rfl)) first
    · exact clocked.mayPlay fits reference (rating h (.inr rfl)) second
  premade := fun _ _ here gone => (of_gone here gone).imp_left (clocked.waited premade)

/-- The bracket of the highest level -/
def lastBracket : BattlegroundBracketId := Fin.last 16

/-- Two players join as a rated team, or as a premade group of a battleground. -/
def joinOf (t : Team) (leader : UInt64) (arenaType : UInt8) (rating arenateamid now : UInt32) : Join where
  leader := leader
  team := t
  grp := some [leader, leader + 1]
  bgTypeId := if arenaType = 0 then 2 else 6
  bracketId := lastBracket
  arenaType := arenaType
  isRated := arenaType != 0
  isPremade := arenaType == 0
  arenaRating := rating
  matchmakerRating := rating
  arenateamid := arenateamid
  now := now

/-- Two teams that join at a time with two ratings. -/
def twoTeams (now rating₁ rating₂ : UInt32) : BattlegroundQueue :=
  (init.addGroup (joinOf .alliance 1 2 rating₁ 1 now)).addGroup (joinOf .horde 3 2 rating₂ 2 now)

def onePremade (now : UInt32) : BattlegroundQueue := init.addGroup (joinOf .alliance 1 0 0 0 now)

/-- An update that the second team asks for. -/
def askedBy (rating : UInt32) : QueueUpdate := ⟨6, lastBracket, 2, true, rating⟩

section Joined

variable (now rating₁ rating₂ : UInt32)

lemma queues_twoTeams (at_ : BattlegroundBracketId × GroupType) :
    (twoTeams now rating₁ rating₂).m_QueuedGroups at_ =
      if at_ = (lastBracket, .premade .horde) then [1]
      else if at_ = (lastBracket, .premade .alliance) then [0] else [] := by
  have horde : (twoTeams now rating₁ rating₂).m_QueuedGroups = Function.update
      (Function.update (fun _ => []) (lastBracket, .premade .alliance) [0])
      (lastBracket, .premade .horde) [1] := rfl
  rw [horde, Function.update_apply, Function.update_apply]

lemma first_twoTeams : (twoTeams now rating₁ rating₂).groups 0 =
    ⟨[1, 2], .alliance, 6, true, 2, 1, now, 0, 0, rating₁, rating₁, 0, 0⟩ := rfl

lemma second_twoTeams : (twoTeams now rating₁ rating₂).groups 1 =
    ⟨[3, 4], .horde, 6, true, 2, 2, now, 0, 0, rating₂, rating₂, 0, 0⟩ := rfl

lemma queues_onePremade (at_ : BattlegroundBracketId × GroupType) :
    (onePremade now).m_QueuedGroups at_ =
      if at_ = (lastBracket, .premade .alliance) then [0] else [] := by
  have alliance : (onePremade now).m_QueuedGroups =
      Function.update (fun _ => []) (lastBracket, .premade .alliance) [0] := rfl
  rw [alliance, Function.update_apply]

lemma first_onePremade : (onePremade now).groups 0 =
    ⟨[1, 2], .alliance, 2, false, 0, 0, now, 0, 0, 0, 0, 0, 0⟩ := rfl

/-- The times at which the first groups joined. -/
def joinedNow (now : UInt32) (count g : ℕ) : ℕ := if g < count then now.toNat else 0

lemma joinedNow_le (count g : ℕ) : joinedNow now count g ≤ now.toNat := by
  unfold joinedNow
  split <;> omega

lemma twoTeams_clocked (sv : Server) :
    (twoTeams sv.now rating₁ rating₂).Clocked sv sv.now.toNat (joinedNow sv.now 2) where
  now := UInt32.ofNat_toNat.symm
  past := joinedNow_le sv.now 2
  stamps
    | 0 => UInt32.ofNat_toNat.symm
    | 1 => UInt32.ofNat_toNat.symm
    | _ + 2 => rfl

lemma onePremade_clocked (sv : Server) :
    (onePremade sv.now).Clocked sv sv.now.toNat (joinedNow sv.now 1) where
  now := UInt32.ofNat_toNat.symm
  past := joinedNow_le sv.now 1
  stamps
    | 0 => UInt32.ofNat_toNat.symm
    | _ + 1 => rfl

lemma twoTeams_oneSided : (twoTeams now rating₁ rating₂).OneSided lastBracket := by
  simp [OneSided, queues_twoTeams, first_twoTeams, second_twoTeams, GroupType.premade]

variable {rating₁ rating₂}

lemma twoTeams_admitted (small₁ : rating₁.toNat < 2 ^ 16) (small₂ : rating₂.toNat < 2 ^ 16) :
    (twoTeams now rating₁ rating₂).Admitted (askedBy rating₂) := by
  have each : ∀ at_, ∀ g ∈ (twoTeams now rating₁ rating₂).m_QueuedGroups at_, g = 0 ∨ g = 1 := by
    intro at_ g here
    rw [queues_twoTeams] at here
    split at here
    · exact .inr (List.mem_singleton.mp here)
    · split at here
      · exact .inl (List.mem_singleton.mp here)
      · cases here
  refine ⟨fun at_ g here => ?_, fun at_ g here => ?_, small₂⟩
  · rcases each at_ g here with rfl | rfl <;> simp [first_twoTeams, second_twoTeams]
  · rcases each at_ g here with rfl | rfl
    · exact small₁
    · exact small₂

lemma onePremade_admitted : (onePremade now).Admitted ⟨2, lastBracket, 0, false, 0⟩ := by
  have each : ∀ at_, ∀ g ∈ (onePremade now).m_QueuedGroups at_, g = 0 := by
    intro at_ g here
    rw [queues_onePremade] at here
    split at here
    · exact List.mem_singleton.mp here
    · cases here
  refine ⟨fun at_ g here => ?_, fun at_ g here => ?_, by decide⟩
  · rw [each at_ g here, first_onePremade]
    simp
  · rw [each at_ g here, first_onePremade]
    exact (by decide : (0 : UInt32).toNat < 2 ^ 16)

lemma twoTeams_found (sv : Server) (u : QueueUpdate) (bracket : u.bracketId = lastBracket)
    (arenaRating : UInt32) (wraps : sv.now < sv.ratingDiscardTimer) :
    (twoTeams sv.now rating₁ rating₂).findTeams sv u arenaRating = some (0, 1) := by
  have before := before_of_wrap wraps
  have first : (twoTeams sv.now rating₁ rating₂).suits sv arenaRating 0 = true := by
    simp [BattlegroundQueue.suits, first_twoTeams, GroupQueueInfo.uninvited, before]
  have second : (twoTeams sv.now rating₁ rating₂).suits sv arenaRating 1 = true := by
    simp [BattlegroundQueue.suits, second_twoTeams, GroupQueueInfo.uninvited, before]
  simp [findTeams, queues_twoTeams, bracket, GroupType.premade, first, second]

end Joined

/-- Every queue in which no team waits on both sides is served by the rules exactly if the clock
shows at least the times to wait, or no two ratings are too far apart. -/
theorem waiting_rules_iff (sv : Server) :
    (∀ (q : BattlegroundQueue) u uptime joined minPlayers maxPlayers,
      q.Clocked sv uptime joined → q.OneSided u.bracketId → q.Admitted u →
        q.WaitingRules sv u uptime joined minPlayers maxPlayers) ↔
      (65535 ≤ sv.maxRatingDifference ∨ sv.ratingDiscardTimer ≤ sv.now) ∧
        sv.premadeGroupWaitForMatch ≤ sv.now := by
  constructor
  · intro rules
    constructor
    · by_contra fails
      obtain ⟨differ, wraps⟩ := not_or.mp fails
      have late := UInt32.not_le.mp wraps
      have own := (rules (twoTeams sv.now 0 65535) (askedBy 65535) _ _ 2 2 (twoTeams_clocked _ _ sv)
        (twoTeams_oneSided _ _ _) (twoTeams_admitted _ (by decide) (by decide))).rated 65535 0 1 rfl
          (twoTeams_found sv _ rfl _ late)
      rcases own.2.1.2 with near | waited
      · -- the lowest and the highest rating
        have whole : 65535 ≤ (0 : ℕ) + sv.maxRatingDifference.toNat := near.2
        rw [UInt32.le_iff_toNat_le] at differ
        exact differ (by simpa using whole)
      · have here : joinedNow sv.now 2 0 = sv.now.toNat := rfl
        rw [here] at waited
        rw [UInt32.lt_iff_toNat_lt] at late
        omega
    · by_contra wraps
      have late := UInt32.not_le.mp wraps
      have before := before_of_wrap late
      have own := (rules (onePremade sv.now) ⟨2, lastBracket, 0, false, 0⟩ _ _ 2 10 (onePremade_clocked sv)
        (by simp [OneSided, queues_onePremade, GroupType.premade]) (onePremade_admitted _)).premade
          .alliance 0 (by simp [queues_onePremade]) (by
            simp [checkPremadeMatch, queues_onePremade, first_onePremade, GroupType.premade,
              GroupType.normal, movePremade, setGroups, GroupQueueInfo.uninvited, before])
      have here : joinedNow sv.now 1 0 = sv.now.toNat := rfl
      rw [here] at own
      rw [UInt32.lt_iff_toNat_lt] at late
      simp only [first_onePremade, List.length_cons, List.length_nil] at own
      omega
  · rintro ⟨fits, premade⟩ q u uptime joined minPlayers maxPlayers clocked oneSided admitted
    exact clocked.rules oneSided admitted fits premade minPlayers maxPlayers

/-- A server that has been up for a minute; ratings are to be discarded after ten. -/
def startUp : Server :=
  ⟨60000, 0, 1800000, 150, 600000, false, false, [], none, none, none, none, 0⟩

theorem rules_broken_at_start :
    let q := twoTeams startUp.now 1500 1800
    q.Clocked startUp 60000 (joinedNow 60000 2) ∧ q.OneSided lastBracket ∧ q.Admitted (askedBy 1800) ∧
      ¬ q.WaitingRules startUp (askedBy 1800) 60000 (joinedNow 60000 2) 2 2 := by
  refine ⟨twoTeams_clocked _ _ startUp, twoTeams_oneSided _ _ _,
    twoTeams_admitted _ (by decide) (by decide), fun rules => ?_⟩
  have own := rules.rated 1800 0 1 rfl (twoTeams_found startUp _ rfl _ (by decide))
  revert own
  simp [MayPlay, Near, first_twoTeams, startUp, joinedNow]

end BattlegroundQueue

end WorldServer.Battlegrounds
