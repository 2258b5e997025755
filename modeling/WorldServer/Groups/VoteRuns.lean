import WorldServer.Groups.RollSteps

/-!
# Votes in every run

Rolls are started, players vote and members leave, in any order. `Permitted` says what each of
these calls has to meet; along a run of permitted calls, and of no others, every open roll is
tallied and waits for a vote, and every roll that is counted has all its votes.
-/
namespace WorldServer.Groups

open Lib

inductive Call where
  | groupLoot (chances : World.Chances) (l : ℕ)
  | needBeforeGreed (chances : World.Chances) (l : ℕ)
  | vote (players : Players) (player : UInt64) (guid : ℕ) (choice : UInt8)
  | removeMember (players : Players) (alone : Bool) (guid : UInt64) (kick : Bool)

def World.perform (w : World) : Call → World
  | .groupLoot chances l => w.groupLoot chances l
  | .needBeforeGreed chances l => w.needBeforeGreed chances l
  | .vote players player guid choice => w.countRollVote players player guid choice
  | .removeMember players alone guid kick => w.removeMember players alone guid kick

/-- The rolls are tallied and wait for votes. -/
structure Sound (w : World) : Prop extends Numbered w where
  tallied : ∀ roll ∈ w.rollId, Tallied roll
  pending : ∀ roll ∈ w.rollId, Pending roll

def Waiting (w : World) : Prop := ∀ roll ∈ w.rollId, Tallied roll ∧ Pending roll

variable {w : World} {r : Roll}

lemma Sound.waiting (sound : Sound w) : Waiting w := fun roll mem =>
  ⟨sound.tallied roll mem, sound.pending roll mem⟩

/-- A group without open rolls. -/
structure Started (w : World) : Prop where
  closed : w.rollId = []
  different : ∀ g, w.group = some g → g.memberMgr.Nodup

lemma Started.sound (started : Started w) : Sound w where
  guids := by simp [started.closed]
  fresh := by simp [started.closed]
  different := started.different
  tallied := by simp [started.closed]
  pending := by simp [started.closed]

/-! ### What a call has to meet -/

def Roll.touched (r : Roll) : Call → Roll
  | .vote _ player guid choice => if r.itemGUID = guid then r.recordVote player choice else r
  | .removeMember _ _ guid _ => r.without guid
  | _ => r

/-- After the call every open roll is tallied and waits for a vote; a roll that is not open any
more had all its votes, unless the call disbanded the group. -/
structure KeptTallied (w : World) (call : Call) : Prop where
  tallied : ∀ roll ∈ (w.perform call).rollId, Tallied roll
  pending : ∀ roll ∈ (w.perform call).rollId, Pending roll
  notEarlier : ((w.perform call).group = none → w.group = none) → ∀ roll ∈ w.rollId,
    roll.itemGUID ∉ (w.perform call).rollId.map Roll.itemGUID → ¬ Pending (roll.touched call)

/-- Nobody is near, or no more players than a byte counts, one of whom does not pass at once. At
a multiple of 256 the counter of the players is zero, and no roll is made. -/
def Contested (c : World.Chances) (g : Group) (slot : UInt8) (quest : Bool) : Prop :=
  (c.rollers g slot).length % 256 = 0 ∨
    (c.rollers g slot).length ≤ 255 ∧
      ∃ player ∈ c.rollers g slot, (!quest && c.passOnGroupLoot player) = false

def ItemsContested (c : World.Chances) (g : Group) : List LootItem → UInt8 → Prop
  | [], _ => True
  | item :: rest, slot =>
    (!item.freeforall && g.lootThreshold ≤ c.quality item.itemid → Contested c g slot false) ∧
      ItemsContested c g rest (slot + 1)

def QuestItemsContested (c : World.Chances) (g : Group) : List LootItem → UInt8 → Prop
  | [], _ => True
  | item :: rest, slot =>
    (item.followLootRules → Contested c g slot true) ∧ QuestItemsContested c g rest (slot + 1)

def LootContested (w : World) (c : World.Chances) (l : ℕ) : Prop :=
  ∀ g, w.group = some g → ItemsContested c g (w.loots l).items 0 ∧
    QuestItemsContested c g (w.loots l).questItems (UInt8.ofNat (w.loots l).items.length)

/-- Rolls are contested, nobody votes twice, and who leaves a group that stays is not the last
one a roll waits for. -/
def Permitted (w : World) : Call → Prop
  | .groupLoot chances l => LootContested w chances l
  | .needBeforeGreed chances l => LootContested w chances l
  | .vote _ player guid choice =>
    choice < World.maxRollType → ∀ (i : ℕ) (roll : Roll) (vote : RollVote),
      w.getRoll guid = some i → w.rollId[i]? = some roll →
      (roll.loot.map fun l => (w.loots l).items) ≠ some [] →
      roll.playerVote.lookup player = some vote → vote = .notEmitedYet
  | .removeMember players alone guid kick =>
    ∀ g g', w.group = some g → g.removeMember players.online alone guid kick = .left g' false →
      ∀ roll ∈ w.rollId, roll.playerVote.lookup guid ≠ none →
        ∃ other, other ≠ guid ∧ roll.playerVote.lookup other = some .notEmitedYet

lemma keptTallied_iff_waiting {call : Call}
    (stays : ∀ roll ∈ w.rollId, roll.itemGUID ∈ (w.perform call).rollId.map Roll.itemGUID) :
    KeptTallied w call ↔ Waiting (w.perform call) := by
  constructor
  · exact fun kept roll mem => ⟨kept.tallied roll mem, kept.pending roll mem⟩
  · intro waiting
    exact ⟨fun roll mem => (waiting roll mem).1, fun roll mem => (waiting roll mem).2,
      fun _ roll mem closed => absurd (stays roll mem) closed⟩

/-! ### Starting -/

section

variable (c : World.Chances) (g : Group) (l : ℕ)

lemma waiting_startRoll_iff (different : g.memberMgr.Nodup) (w : World) (slot : UInt8)
    (quest : Bool) :
    Waiting (w.startRoll c g l slot quest) ↔ Waiting w ∧ Contested c g slot quest := by
  rw [Waiting, rollId_startRoll, Contested]
  split
  next nobody => exact (and_iff_left (.inl nobody)).symm
  next somebody =>
    rw [or_iff_right somebody, ← tallied_newRoll_iff c g w.nextItem l slot quest different,
      ← pending_newRoll_iff c g w.nextItem l slot quest]
    constructor
    · intro all
      exact ⟨fun roll old => all roll (List.mem_append_left _ old),
        all _ (List.mem_append_right _ (List.mem_singleton_self _))⟩
    · rintro ⟨waiting, new⟩ roll mem
      rcases List.mem_append.mp mem with old | here
      · exact waiting roll old
      · rw [List.mem_singleton.mp here]
        exact new

lemma waiting_rollItems_iff (different : g.memberMgr.Nodup) (items : List LootItem)
    (slot : UInt8) (w : World) :
    Waiting (World.rollItems c g l items slot w) ↔ Waiting w ∧ ItemsContested c g items slot := by
  induction items generalizing slot w with
  | nil => exact (and_iff_left trivial).symm
  | cons item rest ih =>
    rw [World.rollItems, ItemsContested]
    split
    next rolled =>
      rw [ih, waiting_startRoll_iff c g l different, and_assoc]
      simp [rolled]
    next skipped =>
      rw [ih, and_iff_right fun rolled => absurd rolled skipped]

lemma waiting_rollQuestItems_iff (different : g.memberMgr.Nodup) (items : List LootItem)
    (slot : UInt8) (w : World) :
    Waiting (World.rollQuestItems c g l items slot w) ↔
      Waiting w ∧ QuestItemsContested c g items slot := by
  induction items generalizing slot w with
  | nil => exact (and_iff_left trivial).symm
  | cons item rest ih =>
    rw [World.rollQuestItems, QuestItemsContested]
    split
    next rolled =>
      rw [ih, waiting_startRoll_iff c g l different, and_assoc]
      simp [rolled]
    next skipped =>
      rw [ih, and_iff_right fun rolled => absurd rolled skipped]

lemma waiting_startRolls_iff (sound : Sound w) :
    Waiting (World.startRolls c l w) ↔ LootContested w c l := by
  have waiting : Waiting w := fun roll mem => ⟨sound.tallied roll mem, sound.pending roll mem⟩
  rw [World.startRolls, LootContested]
  split
  next gone => simp [gone, waiting]
  next g here =>
    have different := sound.different g here
    rw [waiting_rollQuestItems_iff c g l different, waiting_rollItems_iff c g l different,
      and_iff_right waiting]
    simp [here]

end

/-! ### Votes -/

lemma recordVote_of_le {choice : UInt8} (none : ¬ choice < World.maxRollType) (player : UInt64) :
    r.recordVote player choice = r := by
  have large : 4 ≤ choice.toNat := by
    exact Nat.le_of_not_lt none
  rw [Roll.recordVote]
  split_ifs with pass need greed disenchant
  · rw [pass] at large
    exact absurd large (by decide)
  · rw [need] at large
    exact absurd large (by decide)
  · rw [greed] at large
    exact absurd large (by decide)
  · rw [disenchant] at large
    exact absurd large (by decide)
  · rfl

lemma recordVote_spec (tallied : Tallied r) (pending : Pending r) {choice : UInt8}
    (chosen : choice < World.maxRollType) (player : UInt64) :
    ∃ vote, vote ≠ .notEmitedYet ∧
      (r.recordVote player choice).playerVote = r.playerVote.insert player vote ∧
      (r.recordVote player choice).totalPlayersRolling = r.totalPlayersRolling ∧
      (r.recordVote player choice).totalPass.toNat + (r.recordVote player choice).totalNeed.toNat +
          (r.recordVote player choice).totalGreed.toNat =
        r.totalPass.toNat + r.totalNeed.toNat + r.totalGreed.toNat + 1 := by
  obtain ⟨roomPass, roomNeed, roomGreed⟩ := tallied.room pending
  rw [Roll.recordVote]
  split_ifs with pass need greed disenchant
  · refine ⟨.pass, by simp, rfl, rfl, ?_⟩
    have one := toNat_add_one roomPass
    dsimp only
    omega
  · refine ⟨.need, by simp, rfl, rfl, ?_⟩
    have one := toNat_add_one roomNeed
    dsimp only
    omega
  · refine ⟨.greed, by simp, rfl, rfl, ?_⟩
    have one := toNat_add_one roomGreed
    dsimp only
    omega
  · refine ⟨.disenchant, by simp, rfl, rfl, ?_⟩
    have one := toNat_add_one roomGreed
    dsimp only
    omega
  · -- there are four kinds of votes
    rw [← UInt8.toNat_inj] at pass need greed disenchant
    have few : choice.toNat < 4 := UInt8.lt_iff_toNat_lt.mp chosen
    change ¬ choice.toNat = 0 at pass
    change ¬ choice.toNat = 1 at need
    change ¬ choice.toNat = 2 at greed
    change ¬ choice.toNat = 3 at disenchant
    omega

lemma tallied_recordVote_iff (tallied : Tallied r) (pending : Pending r) {player : UInt64}
    {vote : RollVote} (voted : r.playerVote.lookup player = some vote) (choice : UInt8) :
    Tallied (r.recordVote player choice) ↔
      (choice < World.maxRollType → vote = .notEmitedYet) := by
  constructor
  · intro tallied' chosen
    obtain ⟨vote', cast, inserted, rolling, one⟩ := recordVote_spec tallied pending chosen player
    have able := count_able r.playerVote
    have able' := count_able (r.recordVote player choice).playerVote
    rw [← tallied.pass, ← tallied.need, ← tallied.greed, ← tallied.rolling] at able
    rw [← tallied'.pass, ← tallied'.need, ← tallied'.greed, ← tallied'.rolling, rolling] at able'
    have fewer := count_insert_of_some (· = .notEmitedYet) r.playerVote player vote' vote voted
    rw [← inserted] at fewer
    -- one counter is higher, so one vote less is missing
    by_contra again
    simp only [again, decide_false, Bool.false_eq_true, if_false] at fewer
    omega
  · intro first
    by_cases chosen : choice < World.maxRollType
    · exact tallied.recordVote (voted.trans (congrArg some (first chosen))) choice
    · rwa [recordVote_of_le chosen]

lemma Pending.recordVote (pending : Pending r) {player : UInt64} {vote : RollVote}
    (voted : r.playerVote.lookup player = some vote) (again : vote ≠ .notEmitedYet) (choice : UInt8) :
    Pending (r.recordVote player choice) := by
  obtain ⟨other, hf⟩ := pending
  have different : other ≠ player := by
    rintro rfl
    exact again (Option.some.inj (voted.symm.trans hf))
  refine ⟨other, ?_⟩
  rw [Roll.recordVote]
  split_ifs <;> simpa [AList.lookup_insert_ne different] using hf

lemma keptTallied_vote_iff (sound : Sound w) (players : Players) (player : UInt64) (guid : ℕ)
    (choice : UInt8) :
    KeptTallied w (.vote players player guid choice) ↔
      Permitted w (.vote players player guid choice) := by
  rcases countRollVote_cases players w player guid choice with
    ⟨hs, dropped⟩ | ⟨i, roll, vote, hf, here, named, filled, voted, recorded⟩
  · have unchanged : w.perform (.vote players player guid choice) = w := hs
    rw [keptTallied_iff_waiting fun roll mem => by
      rw [unchanged]
      exact List.mem_map_of_mem mem]
    rw [unchanged]
    refine iff_of_true sound.waiting ?_
    intro _ i roll vote hf here filled voted
    exact absurd ((dropped i roll hf here filled).symm.trans voted) (by simp)
  · have mem := List.mem_of_getElem? here
    have iff := tallied_recordVote_iff (sound.tallied roll mem) (sound.pending roll mem) voted choice
    -- the roll that is found is the only one the condition is about
    have permitted : Permitted w (.vote players player guid choice) ↔
        (choice < World.maxRollType → vote = .notEmitedYet) := by
      constructor
      · exact fun permitted chosen => permitted chosen i roll vote hf here filled voted
      · intro first chosen k other vote' hf' here' _ voted'
        cases Option.some.inj (hf.symm.trans hf')
        cases Option.some.inj (here.symm.trans here')
        cases Option.some.inj (voted.symm.trans voted')
        exact first chosen
    rw [permitted, ← iff]
    by_cases counted : (roll.recordVote player choice).allVoted
    · have rolls : (w.perform (.vote players player guid choice)).rollId =
          w.rollId.eraseIdx i := by
        rw [World.perform, recorded, if_pos counted, rollId_countTheRoll, List.eraseIdx_set_eq]
      have group : (w.perform (.vote players player guid choice)).group = w.group := by
        rw [World.perform, recorded, if_pos counted, group_countTheRoll]
      have closed : roll.touched (.vote players player guid choice) =
          roll.recordVote player choice := if_pos named
      constructor
      · intro kept
        rw [iff]
        intro chosen
        by_contra again
        have ended := kept.notEarlier (fun gone => group ▸ gone) roll mem (by
          rw [rolls]
          exact sound.itemGUID_notMem here)
        rw [closed] at ended
        exact ended ((sound.pending roll mem).recordVote voted again choice)
      · intro tallied
        refine ⟨?_, ?_, ?_⟩
        · rw [rolls]
          exact fun other rest => sound.tallied other (List.mem_of_mem_eraseIdx rest)
        · rw [rolls]
          exact fun other rest => sound.pending other (List.mem_of_mem_eraseIdx rest)
        · intro _ other mem' ended
          rw [rolls] at ended
          cases eq_of_closed here mem' ended
          rw [closed]
          exact tallied.allVoted_iff.mp counted
    · have rolls : (w.perform (.vote players player guid choice)).rollId =
          w.rollId.set i (roll.recordVote player choice) := by
        rw [World.perform, recorded, if_neg counted]
      rw [keptTallied_iff_waiting fun other mem' => by
        rw [rolls, map_itemGUID_set here (itemGUID_recordVote ..)]
        exact List.mem_map_of_mem mem']
      rw [Waiting, rolls]
      constructor
      · intro waiting
        exact (waiting _ (List.mem_set (List.getElem?_eq_some_iff.mp here).1 _)).1
      · intro tallied other mem'
        rcases List.mem_or_eq_of_mem_set mem' with old | rfl
        · exact sound.waiting other old
        · exact ⟨tallied, by_contra fun ended => counted (tallied.allVoted_iff.mpr ended)⟩

/-! ### Leaving -/

lemma Tallied.without (tallied : Tallied r) (guid : UInt64) : Tallied (r.without guid) := by
  rw [Roll.without]
  split
  next => exact tallied
  next vote voted => exact tallied.leave voted

lemma pending_without_iff (pending : Pending r) (guid : UInt64) :
    Pending (r.without guid) ↔ (r.playerVote.lookup guid ≠ none →
      ∃ other, other ≠ guid ∧ r.playerVote.lookup other = some .notEmitedYet) := by
  rw [Roll.without]
  split
  next absent => exact iff_of_true pending fun present => absurd absent present
  next vote voted =>
    have present : r.playerVote.lookup guid ≠ none := by simp [voted]
    simp only [present, not_false_eq_true, forall_const, ne_eq]
    refine exists_congr fun other => ?_
    rw [lookup_leave]
    by_cases hs : other = guid
    · simp [hs]
    · simp [hs]

lemma keptTallied_removeMember_iff (sound : Sound w) (players : Players) (alone : Bool)
    (guid : UInt64) (kick : Bool) :
    KeptTallied w (.removeMember players alone guid kick) ↔
      Permitted w (.removeMember players alone guid kick) := by
  rcases removeMember_cases sound.guids players alone guid kick with
    ⟨g, g', here, left, -, -, -, -, rolls⟩ | ⟨other, hs | ⟨g, here, -, gone, -, -, -, closed⟩⟩
  · have rolls : (w.perform (.removeMember players alone guid kick)).rollId =
        w.rollId.map (·.without guid) := rolls
    rw [keptTallied_iff_waiting fun roll mem => by
      rw [rolls, List.map_map]
      exact List.mem_map.mpr ⟨roll, mem, itemGUID_without roll guid⟩]
    have waiting : Waiting (w.perform (.removeMember players alone guid kick)) ↔
        ∀ roll ∈ w.rollId, Pending (roll.without guid) := by
      rw [Waiting, rolls, List.forall_mem_map]
      exact forall₂_congr fun roll mem =>
        and_iff_right ((sound.tallied roll mem).without guid)
    rw [waiting]
    constructor
    · intro pending g₀ g₁ _ _ roll mem
      exact (pending_without_iff (sound.pending roll mem) guid).mp (pending roll mem)
    · intro permitted roll mem
      exact (pending_without_iff (sound.pending roll mem) guid).mpr
        (permitted g g' here left roll mem)
  · have unchanged : w.perform (.removeMember players alone guid kick) = w := hs
    rw [keptTallied_iff_waiting fun roll mem => by
      rw [unchanged]
      exact List.mem_map_of_mem mem]
    rw [unchanged]
    exact iff_of_true sound.waiting fun g g' here left => absurd left (other g g' here)
  · have closed : (w.perform (.removeMember players alone guid kick)).rollId = [] := closed
    have before : w.group ≠ none := by simp [here]
    refine iff_of_true ⟨?_, ?_, fun stays => absurd (stays gone) before⟩
      fun g g' here left => absurd left (other g g' here)
    · rw [closed]
      exact fun roll mem => absurd mem List.not_mem_nil
    · rw [closed]
      exact fun roll mem => absurd mem List.not_mem_nil

/-! ### Runs -/

lemma Numbered.perform (numbered : Numbered w) (call : Call) : Numbered (w.perform call) := by
  cases call with
  | groupLoot c l => exact numbered.startRolls c l
  | needBeforeGreed c l => exact numbered.startRolls c l
  | vote players player guid choice =>
    rw [World.perform]
    rcases countRollVote_cases players w player guid choice with
      ⟨hs, -⟩ | ⟨i, roll, vote, -, here, -, -, -, recorded⟩
    · rwa [hs]
    · rw [recorded]
      have guids := map_itemGUID_set here (itemGUID_recordVote roll player choice)
      have voted : Numbered { w with rollId := w.rollId.set i (roll.recordVote player choice) } :=
        numbered.of_sublist (guids ▸ List.Sublist.refl _) rfl
          fun g' here' => ⟨g', here', List.Sublist.refl _⟩
      split
      · exact voted.countTheRoll players i
      · exact voted
  | removeMember players alone guid kick =>
    rw [World.perform]
    rcases removeMember_cases numbered.guids players alone guid kick with
      ⟨g, g', here, left, group, next, -, -, rolls⟩ |
        ⟨-, hs | ⟨-, -, -, gone, next, -, -, closed⟩⟩
    · refine numbered.of_sublist ?_ next fun g₀ here' => ⟨g, here, ?_⟩
      · rw [rolls, List.map_map]
        have guids : Roll.itemGUID ∘ (·.without guid) = Roll.itemGUID :=
          funext fun roll => itemGUID_without roll guid
        rw [guids]
      · cases Option.some.inj (group.symm.trans here')
        exact Group.memberMgr_removeMember left
    · rwa [hs]
    · refine numbered.of_sublist ?_ next fun g' here' => absurd (gone.symm.trans here') (by simp)
      rw [closed]
      exact List.nil_sublist _

lemma keptTallied_iff (sound : Sound w) (call : Call) :
    KeptTallied w call ↔ Permitted w call := by
  cases call with
  | groupLoot c l =>
    refine (keptTallied_iff_waiting fun roll mem => ?_).trans (waiting_startRolls_iff c l sound)
    exact List.mem_map_of_mem (rollId_startRolls c l w mem)
  | needBeforeGreed c l =>
    refine (keptTallied_iff_waiting fun roll mem => ?_).trans (waiting_startRolls_iff c l sound)
    exact List.mem_map_of_mem (rollId_startRolls c l w mem)
  | vote players player guid choice => exact keptTallied_vote_iff sound players player guid choice
  | removeMember players alone guid kick =>
    exact keptTallied_removeMember_iff sound players alone guid kick

lemma Sound.perform (sound : Sound w) {call : Call} (permitted : Permitted w call) :
    Sound (w.perform call) where
  toNumbered := sound.toNumbered.perform call
  tallied := ((keptTallied_iff sound call).mpr permitted).tallied
  pending := ((keptTallied_iff sound call).mpr permitted).pending

/-- In every run that starts without open rolls, all calls keep the tallies and resolve the rolls
at the last vote if and only if all calls are permitted. -/
theorem votes_keep_tallies_iff (w : World) (started : Started w) (calls : List Call) :
    Along World.perform KeptTallied w calls ↔ Along World.perform Permitted w calls :=
  along_iff_of_invariant Sound (fun _ _ sound permitted => sound.perform permitted)
    (fun _ call sound => keptTallied_iff sound call) started.sound calls

def pairWithLoot : World where
  group := some
    { memberSlots := [⟨1, 0, false⟩, ⟨2, 0, false⟩], memberMgr := [2, 1], leaderGuid := 1 }
  rollId := []
  loots _ := { items := [{ itemid := 50 }], unlootedCount := 1 }
  nextItem := 1

def allNear : World.Chances where
  near _ _ := true
  passOnGroupLoot _ := false
  quality _ := 3

def allOnline : Players where
  online _ := true
  canStore _ _ := true
  urand _ _ := 0

lemma started_pairWithLoot : Started pairWithLoot where
  closed := rfl
  different g here := by
    cases here
    decide

/-- Both vote once. -/
theorem votes_keep_tallies_iff_pair : Along World.perform KeptTallied pairWithLoot
    [.groupLoot allNear 0, .vote allOnline 1 1 1, .vote allOnline 2 1 2] := by
  refine (votes_keep_tallies_iff pairWithLoot started_pairWithLoot _).mpr ⟨?_, ?_, ?_, trivial⟩
  · intro g here
    cases here
    refine ⟨⟨fun _ => .inr ⟨by decide, 1, by decide, rfl⟩, trivial⟩, trivial⟩
  · intro _ i roll vote found here _ voted
    cases found
    cases here
    exact (Option.some.inj voted).symm
  · intro _ i roll vote found here _ voted
    cases found
    cases here
    exact (Option.some.inj voted).symm

/-- The first player votes twice, and the roll is over before the other one has voted. -/
theorem voteTwice_resolves_early : ¬ Along World.perform KeptTallied pairWithLoot
    [.groupLoot allNear 0, .vote allOnline 1 1 1, .vote allOnline 1 1 1] := by
  rintro ⟨-, -, kept, -⟩
  have ended := kept.notEarlier (fun gone => by cases gone) _ (List.mem_singleton_self _)
    List.not_mem_nil
  exact ended ⟨2, rfl⟩

end WorldServer.Groups
