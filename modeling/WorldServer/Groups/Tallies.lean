import WorldServer.Groups.Rolls
import WorldServer.Lib.Run
import WorldServer.Lib.Word

/-!
# The tallies of the open rolls

The counters of a roll follow its votes as long as nobody votes twice. Then a roll is counted
by the last vote and not before, and it stays open while somebody still has to vote.
-/
namespace WorldServer.Groups

open Lib

/-! ### One roll -/

/-- The counters are the numbers of players with these votes. -/
structure Tallied (r : Roll) : Prop where
  need : r.totalNeed.toNat = r.playerVote.count (· = .need)
  greed : r.totalGreed.toNat = r.playerVote.count fun vote => vote = .greed || vote = .disenchant
  pass : r.totalPass.toNat = r.playerVote.count (· = .pass)
  rolling : r.totalPlayersRolling.toNat = r.playerVote.count (· ≠ .notValid)

/-- Somebody has not voted yet. -/
def Pending (r : Roll) : Prop := ∃ player, r.playerVote.lookup player = some .notEmitedYet

lemma count_able (t : Table UInt64 RollVote) :
    t.count (· ≠ .notValid) = t.count (· = .pass) + t.count (· = .need) +
      t.count (fun vote => vote = .greed || vote = .disenchant) + t.count (· = .notEmitedYet) := by
  simp only [Table.count, ← Table.total_add]
  congr 1
  funext player vote
  cases vote <;> rfl

lemma not_pending_iff (r : Roll) : ¬ Pending r ↔ r.playerVote.count (· = .notEmitedYet) = 0 := by
  rw [Table.count_eq_zero_iff, Pending, not_exists]
  constructor
  · intro none player vote hf
    rw [decide_eq_false_iff_not]
    rintro rfl
    exact none player hf
  · intro none player hf
    simpa using none player _ hf

variable {r : Roll} {player : UInt64}

lemma Tallied.allVoted_iff (tallied : Tallied r) : r.allVoted ↔ ¬ Pending r := by
  have able := count_able r.playerVote
  rw [not_pending_iff, Roll.allVoted, decide_eq_true_eq, tallied.need, tallied.greed, tallied.pass,
    tallied.rolling]
  omega

lemma count_insert_of_none (q : RollVote → Bool) (t : Table UInt64 RollVote) (player : UInt64)
    (vote : RollVote) (absent : t.lookup player = none) :
    Table.count q (t.insert player vote) = (if q vote then 1 else 0) + Table.count q t :=
  Table.total_insert_of_none _ t player vote absent

lemma count_insert_of_some (q : RollVote → Bool) (t : Table UInt64 RollVote) (player : UInt64)
    (vote old : RollVote) (hf : t.lookup player = some old) :
    Table.count q (t.insert player vote) + (if q old then 1 else 0) =
      (if q vote then 1 else 0) + Table.count q t :=
  Table.total_insert_of_some _ t player vote old hf

lemma count_erase (q : RollVote → Bool) (t : Table UInt64 RollVote) (player : UInt64)
    (vote : RollVote) (hf : t.lookup player = some vote) :
    Table.count q (t.erase player) + (if q vote then 1 else 0) = Table.count q t :=
  Table.total_erase _ t player vote hf

lemma Tallied.vote {r' : Roll} (tallied : Tallied r) (vote : RollVote)
    (hf : r.playerVote.lookup player = some .notEmitedYet)
    (voted : r'.playerVote = r.playerVote.insert player vote) (able : vote ≠ .notValid)
    (rolling : r'.totalPlayersRolling = r.totalPlayersRolling)
    (need : r'.totalNeed.toNat = r.totalNeed.toNat + if vote = .need then 1 else 0)
    (greed : r'.totalGreed.toNat = r.totalGreed.toNat +
      if vote = .greed ∨ vote = .disenchant then 1 else 0)
    (pass : r'.totalPass.toNat = r.totalPass.toNat + if vote = .pass then 1 else 0) :
    Tallied r' := by
  have counted : ∀ q : RollVote → Bool, q .notEmitedYet = false →
      r'.playerVote.count q = r.playerVote.count q + if q vote then 1 else 0 := by
    intro q other
    have replaced := count_insert_of_some q r.playerVote player vote _ hf
    rw [← voted, other, if_neg Bool.false_ne_true] at replaced
    omega
  refine ⟨?_, ?_, ?_, ?_⟩
  · rw [need, tallied.need, counted _ rfl]
    simp
  · rw [greed, tallied.greed, counted _ rfl]
    simp
  · rw [pass, tallied.pass, counted _ rfl]
    simp
  · have replaced := count_insert_of_some (· ≠ .notValid) r.playerVote player vote _ hf
    rw [← voted] at replaced
    simp only [ne_eq, able, not_false_eq_true, decide_true, if_true, reduceCtorEq] at replaced
    rw [rolling, tallied.rolling]
    simp only [ne_eq]
    omega

lemma Tallied.room (tallied : Tallied r) (pending : Pending r) :
    r.totalPass.toNat < 255 ∧ r.totalNeed.toNat < 255 ∧ r.totalGreed.toNat < 255 := by
  have able := count_able r.playerVote
  have some : r.playerVote.count (· = .notEmitedYet) ≠ 0 := fun none =>
    (not_pending_iff r).mpr none pending
  have bound := r.totalPlayersRolling.toNat_lt
  rw [tallied.rolling] at bound
  rw [tallied.pass, tallied.need, tallied.greed]
  omega

lemma Tallied.recordVote (tallied : Tallied r)
    (hf : r.playerVote.lookup player = some .notEmitedYet) (choice : UInt8) :
    Tallied (r.recordVote player choice) := by
  obtain ⟨roomPass, roomNeed, roomGreed⟩ := tallied.room ⟨player, hf⟩
  rw [Roll.recordVote]
  split_ifs
  · exact tallied.vote .pass hf rfl (by simp) rfl (by simp) (by simp)
      (by simpa using toNat_add_one roomPass)
  · exact tallied.vote .need hf rfl (by simp) rfl
      (by simpa using toNat_add_one roomNeed) (by simp) (by simp)
  · exact tallied.vote .greed hf rfl (by simp) rfl (by simp)
      (by simpa using toNat_add_one roomGreed) (by simp)
  · exact tallied.vote .disenchant hf rfl (by simp) rfl (by simp)
      (by simpa using toNat_add_one roomGreed) (by simp)
  · exact tallied

lemma Tallied.leave (tallied : Tallied r) {vote : RollVote}
    (hf : r.playerVote.lookup player = some vote) : Tallied (r.leave player vote) := by
  have erased := fun q => count_erase q r.playerVote player vote hf
  have one : ∀ {a : UInt8} (q : RollVote → Bool), a.toNat = r.playerVote.count q →
      q vote = true → (a - 1).toNat = Table.count q (r.playerVote.erase player) := by
    intro a q counter hit
    have less := erased q
    rw [hit, if_pos rfl] at less
    rw [toNat_sub_one (by omega)]
    omega
  have zero : ∀ {a : UInt8} (q : RollVote → Bool), a.toNat = r.playerVote.count q →
      q vote = false → a.toNat = Table.count q (r.playerVote.erase player) := by
    intro a q counter other
    have less := erased q
    rw [other, if_neg Bool.false_ne_true] at less
    omega
  obtain ⟨need, greed, pass, rolling⟩ := tallied
  cases vote with
  | pass => exact ⟨zero _ need rfl, zero _ greed rfl, one _ pass rfl, one _ rolling rfl⟩
  | need => exact ⟨one _ need rfl, zero _ greed rfl, zero _ pass rfl, one _ rolling rfl⟩
  | greed => exact ⟨zero _ need rfl, one _ greed rfl, zero _ pass rfl, one _ rolling rfl⟩
  | disenchant =>
    exact ⟨zero _ need rfl, one _ greed rfl, zero _ pass rfl, one _ rolling rfl⟩
  | notEmitedYet => exact ⟨zero _ need rfl, zero _ greed rfl, zero _ pass rfl, one _ rolling rfl⟩
  | notValid => exact ⟨zero _ need rfl, zero _ greed rfl, zero _ pass rfl, zero _ rolling rfl⟩

/-! ### A new roll -/

lemma Tallied.addPlayer (tallied : Tallied r) (passes : Bool)
    (absent : r.playerVote.lookup player = none) (room : r.totalPlayersRolling.toNat < 255) :
    Tallied (r.addPlayer player passes) := by
  have able := count_able r.playerVote
  have roomPass : r.totalPass.toNat < 255 := by
    rw [tallied.rolling] at room
    rw [tallied.pass]
    omega
  have added := fun vote q => count_insert_of_none q r.playerVote player vote absent
  obtain ⟨need, greed, pass, rolling⟩ := tallied
  cases passes with
  | true =>
    refine ⟨need.trans ?_, greed.trans ?_, (toNat_add_one roomPass).trans ?_,
      (toNat_add_one room).trans ?_⟩
    · exact ((added .pass _).trans (Nat.zero_add _)).symm
    · exact ((added .pass _).trans (Nat.zero_add _)).symm
    · rw [pass]
      exact ((added .pass _).trans (Nat.add_comm _ _)).symm
    · rw [rolling]
      exact ((added .pass _).trans (Nat.add_comm _ _)).symm
  | false =>
    refine ⟨need.trans ?_, greed.trans ?_, pass.trans ?_, (toNat_add_one room).trans ?_⟩
    · exact ((added .notEmitedYet _).trans (Nat.zero_add _)).symm
    · exact ((added .notEmitedYet _).trans (Nat.zero_add _)).symm
    · exact ((added .notEmitedYet _).trans (Nat.zero_add _)).symm
    · rw [rolling]
      exact ((added .notEmitedYet _).trans (Nat.add_comm _ _)).symm

def Roll.addPlayers (r : Roll) (passes : UInt64 → Bool) (players : List UInt64) : Roll :=
  players.foldl (fun r player => r.addPlayer player (passes player)) r

lemma lookup_addPlayer (r : Roll) (guid : UInt64) (passes : Bool) (player : UInt64) :
    (r.addPlayer guid passes).playerVote.lookup player =
      if player = guid then some (if passes then .pass else .notEmitedYet)
      else r.playerVote.lookup player := by
  by_cases hs : player = guid
  · subst hs
    cases passes <;> simp [Roll.addPlayer]
  · cases passes <;> simp [Roll.addPlayer, hs]

section

variable (passes : UInt64 → Bool) (players : List UInt64)

lemma addPlayers_fields (r : Roll) :
    (r.addPlayers passes players).itemGUID = r.itemGUID ∧
      (r.addPlayers passes players).loot = r.loot ∧
      (r.addPlayers passes players).itemSlot = r.itemSlot := by
  induction players generalizing r with
  | nil => exact ⟨rfl, rfl, rfl⟩
  | cons first rest ih =>
    obtain ⟨guid, loot, slot⟩ := ih (r.addPlayer first (passes first))
    refine ⟨guid.trans ?_, loot.trans ?_, slot.trans ?_⟩ <;> cases passes first <;> rfl

lemma lookup_addPlayers (r : Roll) (player : UInt64) :
    (r.addPlayers passes players).playerVote.lookup player =
      if player ∈ players then some (if passes player then .pass else .notEmitedYet)
      else r.playerVote.lookup player := by
  induction players generalizing r with
  | nil => rfl
  | cons first rest ih =>
    change ((r.addPlayer first (passes first)).addPlayers passes rest).playerVote.lookup player = _
    rw [ih, lookup_addPlayer]
    by_cases later : player ∈ rest
    · rw [if_pos later, if_pos (List.mem_cons_of_mem _ later)]
    · by_cases hs : player = first
      · subst hs
        rw [if_neg later, if_pos rfl, if_pos (List.mem_cons_self ..)]
      · rw [if_neg later, if_neg hs, if_neg (by simp [later, hs])]

lemma rolling_addPlayers (r : Roll) :
    (r.addPlayers passes players).totalPlayersRolling.toNat =
      (r.totalPlayersRolling.toNat + players.length) % 256 := by
  induction players generalizing r with
  | nil => exact (Nat.mod_eq_of_lt r.totalPlayersRolling.toNat_lt).symm
  | cons first rest ih =>
    change ((r.addPlayer first (passes first)).addPlayers passes rest).totalPlayersRolling.toNat = _
    have one : (r.addPlayer first (passes first)).totalPlayersRolling.toNat =
        (r.totalPlayersRolling.toNat + 1) % 256 := by
      cases passes first <;> exact UInt8.toNat_add _ _
    rw [ih, one, List.length_cons]
    omega

lemma absent_addPlayer {first : UInt64} {rest : List UInt64} (different : (first :: rest).Nodup)
    (absent : ∀ player ∈ first :: rest, r.playerVote.lookup player = none) (passes : Bool) :
    ∀ player ∈ rest, (r.addPlayer first passes).playerVote.lookup player = none := by
  intro player later
  have other : player ≠ first := fun hs => (List.nodup_cons.mp different).1 (hs ▸ later)
  rw [lookup_addPlayer, if_neg other]
  exact absent player (List.mem_cons_of_mem _ later)

lemma able_addPlayers (different : players.Nodup)
    (absent : ∀ player ∈ players, r.playerVote.lookup player = none) :
    (r.addPlayers passes players).playerVote.count (· ≠ .notValid) =
      r.playerVote.count (· ≠ .notValid) + players.length := by
  induction players generalizing r with
  | nil => rfl
  | cons first rest ih =>
    change ((r.addPlayer first (passes first)).addPlayers passes rest).playerVote.count _ = _
    rw [ih (List.nodup_cons.mp different).2 (absent_addPlayer different absent _), List.length_cons]
    have one : (r.addPlayer first (passes first)).playerVote.count (· ≠ .notValid) =
        1 + r.playerVote.count (· ≠ .notValid) := by
      have new := absent first (List.mem_cons_self ..)
      cases passes first
      · exact count_insert_of_none _ r.playerVote first .notEmitedYet new
      · exact count_insert_of_none _ r.playerVote first .pass new
    omega

lemma Tallied.addPlayers (tallied : Tallied r) (different : players.Nodup)
    (absent : ∀ player ∈ players, r.playerVote.lookup player = none)
    (room : r.totalPlayersRolling.toNat + players.length ≤ 255) :
    Tallied (r.addPlayers passes players) := by
  induction players generalizing r with
  | nil => exact tallied
  | cons first rest ih =>
    rw [List.length_cons] at room
    have new := absent first (List.mem_cons_self ..)
    have more : (r.addPlayer first (passes first)).totalPlayersRolling.toNat =
        r.totalPlayersRolling.toNat + 1 := by
      rw [← toNat_add_one (a := r.totalPlayersRolling) (by omega)]
      cases passes first <;> rfl
    change Tallied ((r.addPlayer first (passes first)).addPlayers passes rest)
    exact ih (tallied.addPlayer (passes first) new (by omega)) (List.nodup_cons.mp different).2
      (absent_addPlayer different absent _) (by omega)

end

lemma tallied_empty (guid l : ℕ) (slot : UInt8) :
    Tallied { itemGUID := guid, loot := some l, itemSlot := slot } :=
  ⟨rfl, rfl, rfl, rfl⟩

section

variable (c : World.Chances) (g : Group) (guid l : ℕ) (slot : UInt8) (quest : Bool)

def World.Chances.rollers : List UInt64 := g.memberMgr.filter (c.near slot)

lemma newRoll_eq :
    World.newRoll c g guid l slot quest =
      ({ itemGUID := guid, loot := some l, itemSlot := slot } : Roll).addPlayers
        (fun player => !quest && c.passOnGroupLoot player) (c.rollers g slot) := rfl

lemma newRoll_itemGUID : (World.newRoll c g guid l slot quest).itemGUID = guid :=
  (addPlayers_fields _ _ _).1

lemma newRoll_loot : (World.newRoll c g guid l slot quest).loot = some l :=
  (addPlayers_fields _ _ _).2.1

lemma newRoll_rolling :
    (World.newRoll c g guid l slot quest).totalPlayersRolling.toNat =
      (c.rollers g slot).length % 256 := by
  rw [newRoll_eq, rolling_addPlayers]
  exact congrArg (· % 256) (Nat.zero_add _)

lemma tallied_newRoll_iff (different : g.memberMgr.Nodup) :
    Tallied (World.newRoll c g guid l slot quest) ↔ (c.rollers g slot).length ≤ 255 := by
  have different' : (c.rollers g slot).Nodup := different.filter _
  constructor
  · intro tallied
    have rolling := tallied.rolling
    rw [newRoll_rolling, newRoll_eq, able_addPlayers _ _ different' fun _ _ => rfl] at rolling
    change _ = 0 + _ at rolling
    omega
  · intro few
    exact (tallied_empty guid l slot).addPlayers _ _ different' (fun _ _ => rfl)
      ((Nat.zero_add _).trans_le few)

lemma pending_newRoll_iff :
    Pending (World.newRoll c g guid l slot quest) ↔
      ∃ player ∈ c.rollers g slot, (!quest && c.passOnGroupLoot player) = false := by
  refine exists_congr fun player => ?_
  rw [newRoll_eq, lookup_addPlayers]
  by_cases takesPart : player ∈ c.rollers g slot
  · cases passes : !quest && c.passOnGroupLoot player <;> simp [takesPart]
  · simp [takesPart]

end

end WorldServer.Groups
