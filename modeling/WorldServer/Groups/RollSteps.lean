import WorldServer.Groups.Tallies

/-!
# Steps on the open rolls

What starting rolls, counting one, recording a vote and leaving do to the list of open rolls. The
rolls are told apart by their guids.
-/
namespace WorldServer.Groups

open Lib

/-- The rolls have different guids that have been generated; the references are of different
players. -/
structure Numbered (w : World) : Prop where
  guids : (w.rollId.map Roll.itemGUID).Nodup
  fresh : ∀ roll ∈ w.rollId, roll.itemGUID < w.nextItem
  different : ∀ g, w.group = some g → g.memberMgr.Nodup

/-! ### Counting a roll -/

variable {i : ℕ} {rolls : List Roll} {roll : Roll}

section

variable (p : Players) (w : World)

lemma rollId_countTheRoll (i : ℕ) : (w.countTheRoll p i).rollId = w.rollId.eraseIdx i := by
  rw [World.countTheRoll]
  split
  next none => rw [List.eraseIdx_of_length_le (List.getElem?_eq_none_iff.mp none)]
  next => rfl

lemma group_countTheRoll (i : ℕ) : (w.countTheRoll p i).group = w.group := by
  rw [World.countTheRoll]
  split <;> rfl

lemma nextItem_countTheRoll (i : ℕ) : (w.countTheRoll p i).nextItem = w.nextItem := by
  rw [World.countTheRoll]
  split <;> rfl

lemma getRoll_eq_some {guid : ℕ} (hf : w.getRoll guid = some i) :
    ∃ roll, w.rollId[i]? = some roll ∧ roll.itemGUID = guid ∧ roll.loot.isSome := by
  obtain ⟨inside, hit, -⟩ := List.findIdx?_eq_some_iff_getElem.mp hf
  refine ⟨w.rollId[i], List.getElem?_eq_getElem inside, ?_⟩
  simpa using hit

/-- A vote is dropped, or recorded in a roll of the player that is then counted if all have
voted. -/
lemma countRollVote_cases (player : UInt64) (guid : ℕ) (choice : UInt8) :
    (w.countRollVote p player guid choice = w ∧
      ∀ (i : ℕ) (roll : Roll), w.getRoll guid = some i → w.rollId[i]? = some roll →
        (roll.loot.map fun l => (w.loots l).items) ≠ some [] →
        roll.playerVote.lookup player = none) ∨
      ∃ (i : ℕ) (roll : Roll) (vote : RollVote), w.getRoll guid = some i ∧
        w.rollId[i]? = some roll ∧ roll.itemGUID = guid ∧
        (roll.loot.map fun l => (w.loots l).items) ≠ some [] ∧
        roll.playerVote.lookup player = some vote ∧
        w.countRollVote p player guid choice =
          if (roll.recordVote player choice).allVoted then
            { w with rollId := w.rollId.set i (roll.recordVote player choice) }.countTheRoll p i
          else { w with rollId := w.rollId.set i (roll.recordVote player choice) } := by
  rw [World.countRollVote]
  split
  next missing => exact .inl ⟨rfl, fun i _ hf => absurd (missing.symm.trans hf) (by simp)⟩
  next i hf =>
    obtain ⟨roll, here, hs, -⟩ := getRoll_eq_some w hf
    have only : ∀ (k : ℕ) (other : Roll), w.getRoll guid = some k → w.rollId[k]? = some other →
        other = roll := by
      intro k other hf' here'
      cases Option.some.inj (hf.symm.trans hf')
      exact Option.some.inj (here'.symm.trans here)
    rw [here]
    dsimp only
    split
    next absent =>
      exact .inl ⟨rfl, fun k other hf' here' _ => only k other hf' here' ▸ absent⟩
    next present =>
      split
      next empty =>
        exact .inl ⟨rfl, fun k other hf' here' filled =>
          absurd (only k other hf' here' ▸ empty) filled⟩
      next filled =>
        obtain ⟨vote, voted⟩ := Option.ne_none_iff_exists'.mp present
        exact .inr ⟨i, roll, vote, hf, here, hs, filled, voted, rfl⟩

lemma countRollVote_of_absent (player : UInt64) (guid : ℕ) (choice : UInt8)
    (absent : ∀ roll ∈ w.rollId, roll.itemGUID = guid → roll.playerVote.lookup player = none) :
    w.countRollVote p player guid choice = w := by
  rcases countRollVote_cases p w player guid choice with
    ⟨hs, -⟩ | ⟨i, roll, vote, -, here, hs, -, voted, -⟩
  · exact hs
  · exact absurd ((absent roll (List.mem_of_getElem? here) hs).symm.trans voted) (by simp)

end

lemma itemGUID_recordVote (r : Roll) (player : UInt64) (choice : UInt8) :
    (r.recordVote player choice).itemGUID = r.itemGUID := by
  rw [Roll.recordVote]
  split_ifs <;> rfl

lemma itemGUID_leave (r : Roll) (player : UInt64) (vote : RollVote) :
    (r.leave player vote).itemGUID = r.itemGUID := by
  cases vote <;> rfl

lemma map_itemGUID_set {roll' : Roll} (here : rolls[i]? = some roll)
    (hs : roll'.itemGUID = roll.itemGUID) :
    (rolls.set i roll').map Roll.itemGUID = rolls.map Roll.itemGUID := by
  apply List.ext_getElem?
  intro k
  rw [List.getElem?_map, List.getElem?_map, List.getElem?_set]
  split
  next now =>
    subst now
    have inside := (List.getElem?_eq_some_iff.mp here).1
    rw [if_pos inside, here, Option.map_some, Option.map_some, hs]
  next => rfl

lemma index_eq_of_itemGUID_eq (guids : (rolls.map Roll.itemGUID).Nodup) {k : ℕ} {a b : Roll}
    (here : rolls[i]? = some a) (there : rolls[k]? = some b) (hs : a.itemGUID = b.itemGUID) :
    i = k := by
  have first : (rolls.map Roll.itemGUID)[i]? = some a.itemGUID := by
    rw [List.getElem?_map, here, Option.map_some]
  have second : (rolls.map Roll.itemGUID)[k]? = some a.itemGUID := by
    rw [List.getElem?_map, there, Option.map_some, hs]
  have inside : i < (rolls.map Roll.itemGUID).length := (List.getElem?_eq_some_iff.mp first).1
  exact (List.getElem?_inj inside guids).mp (first.trans second.symm)

lemma Numbered.itemGUID_notMem {w : World} (numbered : Numbered w)
    (here : w.rollId[i]? = some roll) :
    roll.itemGUID ∉ (w.rollId.eraseIdx i).map Roll.itemGUID := by
  intro again
  obtain ⟨other, mem, hs⟩ := List.mem_map.mp again
  obtain ⟨k, elsewhere, there⟩ := List.mem_eraseIdx_iff_getElem?.mp mem
  exact elsewhere (index_eq_of_itemGUID_eq numbered.guids there here hs)

lemma eq_of_closed {other : Roll} (here : rolls[i]? = some roll) (mem : other ∈ rolls)
    (closed : other.itemGUID ∉ (rolls.eraseIdx i).map Roll.itemGUID) : other = roll := by
  obtain ⟨k, there⟩ := List.mem_iff_getElem?.mp mem
  by_cases hs : k = i
  · subst hs
    exact Option.some.inj (there.symm.trans here)
  · exact absurd (List.mem_map_of_mem (List.mem_eraseIdx_iff_getElem?.mpr ⟨k, hs, there⟩)) closed

lemma Numbered.of_sublist {w w' : World} (numbered : Numbered w)
    (fewer : (w'.rollId.map Roll.itemGUID).Sublist (w.rollId.map Roll.itemGUID))
    (next : w'.nextItem = w.nextItem)
    (group : ∀ g', w'.group = some g' →
      ∃ g, w.group = some g ∧ g'.memberMgr.Sublist g.memberMgr) : Numbered w' where
  guids := numbered.guids.sublist fewer
  fresh roll mem := by
    obtain ⟨old, mem', hs⟩ := List.mem_map.mp (fewer.subset (List.mem_map_of_mem mem))
    rw [← hs, next]
    exact numbered.fresh old mem'
  different g' here := by
    obtain ⟨g, here', linked⟩ := group g' here
    exact (numbered.different g here').sublist linked

lemma Numbered.countTheRoll {w : World} (numbered : Numbered w) (p : Players) (i : ℕ) :
    Numbered (w.countTheRoll p i) := by
  refine numbered.of_sublist ?_ (nextItem_countTheRoll ..) fun g' here => ?_
  · rw [rollId_countTheRoll]
    exact (List.eraseIdx_sublist ..).map _
  · rw [group_countTheRoll] at here
    exact ⟨g', here, List.Sublist.refl _⟩

/-! ### Starting -/

section

variable (c : World.Chances) (g : Group) (l : ℕ)

lemma rollItems_keeps (P : World → Prop)
    (step : ∀ (w : World) (slot : UInt8), P w → P (w.startRoll c g l slot false))
    (items : List LootItem) (slot : UInt8) (w : World) (init : P w) :
    P (World.rollItems c g l items slot w) := by
  induction items generalizing slot w with
  | nil => exact init
  | cons item rest ih =>
    rw [World.rollItems]
    split
    · exact ih _ _ (step w slot init)
    · exact ih _ _ init

lemma rollQuestItems_keeps (P : World → Prop)
    (step : ∀ (w : World) (slot : UInt8), P w → P (w.startRoll c g l slot true))
    (items : List LootItem) (slot : UInt8) (w : World) (init : P w) :
    P (World.rollQuestItems c g l items slot w) := by
  induction items generalizing slot w with
  | nil => exact init
  | cons item rest ih =>
    rw [World.rollQuestItems]
    split
    · exact ih _ _ (step w slot init)
    · exact ih _ _ init

lemma startRolls_keeps (P : World → Prop) (w : World)
    (step : ∀ (g : Group) (w : World) (slot : UInt8) (quest : Bool), P w →
      P (w.startRoll c g l slot quest))
    (init : P w) : P (World.startRolls c l w) := by
  rw [World.startRolls]
  split
  next => exact init
  next g here =>
    exact rollQuestItems_keeps c g l P (fun w slot => step g w slot true) _ _ _
      (rollItems_keeps c g l P (fun w slot => step g w slot false) _ _ _ init)

section

variable (w : World) (slot : UInt8) (quest : Bool)

lemma rollId_startRoll :
    (w.startRoll c g l slot quest).rollId =
      if (c.rollers g slot).length % 256 = 0 then w.rollId
      else w.rollId ++ [World.newRoll c g w.nextItem l slot quest] := by
  have somebody : (World.newRoll c g w.nextItem l slot quest).totalPlayersRolling > 0 ↔
      ¬ (c.rollers g slot).length % 256 = 0 := by
    rw [gt_iff_lt, UInt8.lt_iff_toNat_lt, newRoll_rolling]
    exact Nat.pos_iff_ne_zero
  rw [World.startRoll]
  by_cases nobody : (c.rollers g slot).length % 256 = 0
  · rw [if_neg (mt somebody.mp (not_not_intro nobody)), if_pos nobody]
  · rw [if_pos (somebody.mpr nobody), if_neg nobody]

lemma group_startRoll : (w.startRoll c g l slot quest).group = w.group := by
  rw [World.startRoll]
  split <;> rfl

lemma nextItem_startRoll : (w.startRoll c g l slot quest).nextItem = w.nextItem + 1 := by
  rw [World.startRoll]
  split <;> rfl

end

lemma Numbered.startRoll {w : World} (numbered : Numbered w) (slot : UInt8) (quest : Bool) :
    Numbered (w.startRoll c g l slot quest) := by
  refine ⟨?_, fun roll mem => ?_, fun g here => ?_⟩
  · rw [rollId_startRoll]
    split
    · exact numbered.guids
    · rw [List.map_append, List.map_singleton, newRoll_itemGUID, List.nodup_append]
      refine ⟨numbered.guids, List.nodup_singleton _, fun guid old guid' new => ?_⟩
      obtain ⟨roll, mem, rfl⟩ := List.mem_map.mp old
      rw [List.mem_singleton.mp new]
      exact (numbered.fresh roll mem).ne
  · rw [nextItem_startRoll]
    rw [rollId_startRoll] at mem
    split at mem
    · exact (numbered.fresh roll mem).trans (Nat.lt_succ_self _)
    · rcases List.mem_append.mp mem with old | new
      · exact (numbered.fresh roll old).trans (Nat.lt_succ_self _)
      · rw [List.mem_singleton.mp new, newRoll_itemGUID]
        exact Nat.lt_succ_self _
  · rw [group_startRoll] at here
    exact numbered.different g here

end

lemma rollId_startRolls (c : World.Chances) (l : ℕ) (w : World) :
    w.rollId ⊆ (World.startRolls c l w).rollId := by
  refine startRolls_keeps c l (fun w' => w.rollId ⊆ w'.rollId) w ?_ (List.Subset.refl _)
  intro g w' slot quest kept
  rw [rollId_startRoll]
  split
  · exact kept
  · exact List.subset_append_of_subset_left _ kept

lemma Numbered.startRolls {w : World} (numbered : Numbered w) (c : World.Chances) (l : ℕ) :
    Numbered (World.startRolls c l w) :=
  startRolls_keeps c l Numbered w (fun g _ slot quest kept => kept.startRoll c g l slot quest)
    numbered

/-! ### Leaving -/

def Roll.without (r : Roll) (guid : UInt64) : Roll :=
  match r.playerVote.lookup guid with
  | none => r
  | some vote => r.leave guid vote

lemma itemGUID_without (r : Roll) (guid : UInt64) : (r.without guid).itemGUID = r.itemGUID := by
  rw [Roll.without]
  split
  · rfl
  · exact itemGUID_leave ..

lemma lookup_leave (r : Roll) (guid : UInt64) (vote : RollVote) (player : UInt64) :
    (r.leave guid vote).playerVote.lookup player =
      if player = guid then none else r.playerVote.lookup player := by
  have erased : (r.leave guid vote).playerVote = r.playerVote.erase guid := by
    cases vote <;> rfl
  rw [erased]
  by_cases hs : player = guid
  · rw [if_pos hs, hs]
    exact AList.lookup_erase ..
  · rw [if_neg hs]
    exact AList.lookup_erase_ne hs

/-- The first `n` rolls have been left; the vote of the player who left finds no player, so that
nothing is counted. -/
lemma removeFromRolls_spec {w : World} (guids : (w.rollId.map Roll.itemGUID).Nodup)
    (p : Players) (guid : UInt64) (n : ℕ) :
    (w.removeFromRolls p guid n).nextItem = w.nextItem ∧
      (w.removeFromRolls p guid n).loots = w.loots ∧
      (w.removeFromRolls p guid n).given = w.given ∧
      ∀ k : ℕ, (w.removeFromRolls p guid n).rollId[k]? =
        w.rollId[k]?.map fun roll => if k < n then roll.without guid else roll := by
  induction n with
  | zero => exact ⟨rfl, rfl, rfl, fun k => by simp [World.removeFromRolls]⟩
  | succ n ih =>
    rw [World.removeFromRolls]
    generalize w.removeFromRolls p guid n = w' at ih
    obtain ⟨next, loots, given, rolls⟩ := ih
    have old : w'.rollId[n]? = w.rollId[n]? := by
      rw [rolls n]
      simp
    -- the other rolls do not change
    have others : ∀ k ≠ n, w'.rollId[k]? =
        w.rollId[k]?.map fun roll => if k < n + 1 then roll.without guid else roll := by
      intro k other
      have bound : k < n + 1 ↔ k < n := by omega
      simp only [rolls k, bound]
    have guids' : (w'.rollId.map Roll.itemGUID).Nodup := by
      have hs : w'.rollId.map Roll.itemGUID = w.rollId.map Roll.itemGUID := by
        apply List.ext_getElem?
        intro k
        rw [List.getElem?_map, List.getElem?_map, rolls k, Option.map_map]
        congr 1
        funext roll
        split
        · exact itemGUID_without ..
        · rfl
      rw [hs]
      exact guids
    split
    next missing =>
      refine ⟨next, loots, given, fun k => ?_⟩
      by_cases here : k = n
      · subst here
        rw [missing, ← old, missing, Option.map_none]
      · exact others k here
    next roll here =>
      split
      next absent =>
        refine ⟨next, loots, given, fun k => ?_⟩
        by_cases hs : k = n
        · subst hs
          rw [← old, here, Option.map_some, if_pos (Nat.lt_succ_self _), Roll.without, absent]
        · exact others k hs
      next vote voted =>
        have left : roll.without guid = roll.leave guid vote := by rw [Roll.without, voted]
        rw [countRollVote_of_absent]
        · refine ⟨next, loots, given, fun k => ?_⟩
          by_cases hs : k = n
          · subst hs
            have inside := (List.getElem?_eq_some_iff.mp here).1
            rw [← old, here, Option.map_some, if_pos (Nat.lt_succ_self _), left,
              List.getElem?_set_self inside]
          · rw [List.getElem?_set_ne (Ne.symm hs)]
            exact others k hs
        · intro other mem named
          obtain ⟨k, there⟩ := List.mem_iff_getElem?.mp mem
          by_cases hs : k = n
          · subst hs
            rw [List.getElem?_set_self (List.getElem?_eq_some_iff.mp here).1] at there
            cases Option.some.inj there
            rw [lookup_leave, if_pos rfl]
          · rw [List.getElem?_set_ne (Ne.symm hs)] at there
            exact absurd (index_eq_of_itemGUID_eq guids' there here named) hs

lemma rollId_removeFromRolls {w : World} (guids : (w.rollId.map Roll.itemGUID).Nodup)
    (p : Players) (guid : UInt64) :
    (w.removeFromRolls p guid w.rollId.length).rollId = w.rollId.map (·.without guid) := by
  apply List.ext_getElem?
  intro k
  rw [(removeFromRolls_spec guids p guid _).2.2.2 k, List.getElem?_map]
  cases here : w.rollId[k]? with
  | none => rfl
  | some roll =>
    rw [Option.map_some, Option.map_some, if_pos (List.getElem?_eq_some_iff.mp here).1]

lemma Group.memberMgr_changeLeader (g : Group) (online : UInt64 → Bool) (guid : UInt64) :
    (g.changeLeader online guid).memberMgr = g.memberMgr := by
  rw [changeLeader]
  split
  · rfl
  · split <;> rfl

lemma Group.memberMgr_removeMember {g g' : Group} {online : UInt64 → Bool} {alone kick disbanded : Bool}
    {guid : UInt64} (left : g.removeMember online alone guid kick = .left g' disbanded) :
    g'.memberMgr.Sublist g.memberMgr := by
  rw [removeMember] at left
  split at left
  · cases left
  · split at left
    · have unlinked : (g.unlinkMember online guid).memberMgr.Sublist g.memberMgr := by
        rw [unlinkMember]
        split
        · exact List.erase_sublist
        · exact List.Sublist.refl _
      have removed : ∀ g : Group, (g.removeSlot guid).memberMgr = g.memberMgr := by
        intro g
        rw [removeSlot]
        split <;> rfl
      have picked : ∀ g : Group, (g.pickLeader online).memberMgr = g.memberMgr := by
        intro g
        rw [pickLeader]
        split
        · rfl
        · exact memberMgr_changeLeader ..
      injection left with hs
      rw [← hs]
      split
      · rwa [picked, removed]
      · rwa [removed]
    · cases left

/-- A removal lets the player leave all rolls, or changes nothing, or disbands the group. -/
lemma removeMember_cases {w : World} (guids : (w.rollId.map Roll.itemGUID).Nodup) (p : Players)
    (alone : Bool) (guid : UInt64) (kick : Bool) :
    (∃ g g', w.group = some g ∧ g.removeMember p.online alone guid kick = .left g' false ∧
        (w.removeMember p alone guid kick).group = some g' ∧
        (w.removeMember p alone guid kick).nextItem = w.nextItem ∧
        (w.removeMember p alone guid kick).loots = w.loots ∧
        (w.removeMember p alone guid kick).given = w.given ∧
        (w.removeMember p alone guid kick).rollId = w.rollId.map (·.without guid)) ∨
      (∀ g g', w.group = some g → g.removeMember p.online alone guid kick ≠ .left g' false) ∧
        (w.removeMember p alone guid kick = w ∨
          ∃ g, w.group = some g ∧ (g.removeMember p.online alone guid kick).disbands ∧
            (w.removeMember p alone guid kick).group = none ∧
            (w.removeMember p alone guid kick).nextItem = w.nextItem ∧
            (w.removeMember p alone guid kick).loots = w.loots ∧
            (w.removeMember p alone guid kick).given = w.given ∧
            (w.removeMember p alone guid kick).rollId = []) := by
  rw [World.removeMember]
  split
  next gone => exact .inr ⟨fun g g' here => absurd (gone.symm.trans here) (by simp), .inl rfl⟩
  next g here =>
    have only : ∀ g' : Group, w.group = some g' → g' = g := fun g' here' =>
      Option.some.inj (here'.symm.trans here)
    split
    next refused =>
      refine .inr ⟨fun g₀ g' here' left => ?_, .inl rfl⟩
      rw [only g₀ here', refused] at left
      cases left
    next g' disbanded left =>
      obtain ⟨next, loots, given, -⟩ := removeFromRolls_spec guids p guid w.rollId.length
      cases disbanded with
      | false =>
        exact .inl ⟨g, g', here, left, rfl, next, loots, given,
          rollId_removeFromRolls guids p guid⟩
      | true =>
        refine .inr ⟨fun g₀ g' here' left' => ?_,
          .inr ⟨g, here, by rw [left]; rfl, rfl, next, loots, given, rfl⟩⟩
        rw [only g₀ here', left] at left'
        cases left'
    next disbanded =>
      refine .inr ⟨fun g₀ g' here' left => ?_,
        .inr ⟨g, here, by rw [disbanded]; rfl, rfl, rfl, rfl, rfl, rfl⟩⟩
      rw [only g₀ here', disbanded] at left
      cases left

end WorldServer.Groups
