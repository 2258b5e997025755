import WorldServer.Groups.VoteRuns
import WorldServer.Groups.Winners

/-!
# What becomes of the items that are rolled for

A roll closes when all have voted, when the timer ends, or when the group is disbanded. `Allowed`
says what these steps have to meet; along a run of allowed steps the right player wins every roll
that is counted, and no item stays blocked whose roll is closed.
-/
namespace WorldServer.Groups

open Lib

inductive Event where
  | call (call : Call)
  | endRoll (players : Players) (l : ℕ)
  | clearLoot (l : ℕ)
  | disband

def World.happen (w : World) : Event → World
  | .call call => w.perform call
  | .endRoll players l => World.endRoll players l w.rollId.length w
  | .clearLoot l => w.clearLoot l
  | .disband => w.disband

def Roll.touchedBy (r : Roll) : Event → Roll
  | .call call => r.touched call
  | _ => r

def Event.players : Event → Option Players
  | .call (.vote players ..) => players
  | .call (.removeMember players ..) => players
  | .endRoll players _ => players
  | _ => none

/-- The item of the roll was given to somebody and marked as looted, or is not blocked. An item
whose loot was cleared is gone. -/
def Released (w : World) (r : Roll) : Prop :=
  ∀ l item, r.loot = some l → (w.loots l).item? r.itemSlot = some item →
    item.isLooted ∧ (∃ winner, (r.itemGUID, winner) ∈ w.given) ∨ item.isBlocked = false

/-- The right players win the rolls that are counted and get the items, and all rolls that are not
open any more have released their items. -/
structure Settled (w : World) (e : Event) : Prop where
  fair : ∀ p, e.players = some p → ((w.happen e).group = none → w.group = none) →
    ∀ roll ∈ w.rollId, roll.itemGUID ∉ (w.happen e).rollId.map Roll.itemGUID →
      roll.loot ≠ none → Roll.Fair p (roll.touchedBy e)
  given : ∀ entry ∈ (w.happen e).given, entry ∈ w.given ∨
    ∃ p roll vote number, e.players = some p ∧ roll ∈ w.rollId ∧ roll.itemGUID = entry.1 ∧
      (roll.touchedBy e).outcome p = .won entry.2 vote number
  released : ∀ roll ∈ w.rollId, roll.itemGUID ∉ (w.happen e).rollId.map Roll.itemGUID →
    Released (w.happen e) roll

/-! ### What a step has to meet -/

/-- The player with the first highest number of the class that wins is online. -/
structure WinnerOnline (p : Players) (r : Roll) : Prop where
  need : r.Voted RollVote.isNeed → ∀ best, FirstHighest (fun entry => entry.2.2)
    (r.numbers RollVote.isNeed (p.urand r.itemGUID)) best → p.online best.1
  greed : ¬ r.Voted RollVote.isNeed → ∀ best, FirstHighest (fun entry => entry.2.2)
    (r.numbers RollVote.isGreed (p.urand r.itemGUID)) best → p.online best.1

/-- The counters tell the class that wins, and the winner of a blocked item is online. -/
def Releasable (p : Players) (w : World) (r : Roll) : Prop :=
  ∀ l, r.loot = some l → (r.playerVote = ∅ ∨ r.Counted) ∧
    ∀ item, (w.loots l).item? r.itemSlot = some item → item.isBlocked →
      r.Counted ∧ WinnerOnline p r

def NothingBlocked (w : World) : Prop :=
  ∀ roll ∈ w.rollId, ∀ l item, roll.loot = some l →
    (w.loots l).item? roll.itemSlot = some item → item.isBlocked = false

/-- A roll is counted only when it can be released, and the group is disbanded only when no item
is blocked. -/
def Allowed (w : World) : Event → Prop
  | .call (.vote players player guid choice) =>
    ∀ (i : ℕ) (roll : Roll), w.getRoll guid = some i → w.rollId[i]? = some roll →
      (roll.loot.map fun l => (w.loots l).items) ≠ some [] →
      roll.playerVote.lookup player ≠ none → (roll.recordVote player choice).allVoted →
      Releasable players w (roll.recordVote player choice)
  | .call (.removeMember players alone guid kick) =>
    ∀ g, w.group = some g → (g.removeMember players.online alone guid kick).disbands →
      NothingBlocked w
  | .call _ => True
  | .endRoll players l => ∀ roll ∈ w.rollId, roll.loot = some l → Releasable players w roll
  | .clearLoot _ => True
  | .disband => NothingBlocked w

variable {item' : LootItem} {entry : ℕ × UInt64} {e : Event}

namespace Loot

variable (l : Loot)

lemma item?_modifyItem (slot slot' : UInt8) (f : LootItem → LootItem) :
    (l.modifyItem slot f).item? slot' =
      if slot = slot' then (l.item? slot').map f else l.item? slot' := by
  rw [modifyItem, item?, item?]
  by_cases quest : l.items.length ≤ slot.toNat
  · rw [if_pos quest]
    by_cases quest' : l.items.length ≤ slot'.toNat
    · rw [if_pos quest', if_pos quest', List.getElem?_modify]
      have hs : slot.toNat - l.items.length = slot'.toNat - l.items.length ↔ slot = slot' := by
        rw [← UInt8.toNat_inj]
        omega
      simp only [hs]
      split <;> simp
    · have other : slot ≠ slot' := by
        rintro rfl
        exact quest' quest
      rw [if_neg quest', if_neg quest', if_neg other]
  · rw [if_neg quest]
    rw [List.length_modify]
    by_cases quest' : l.items.length ≤ slot'.toNat
    · have other : slot ≠ slot' := by
        rintro rfl
        exact quest quest'
      rw [if_pos quest', if_pos quest', if_neg other]
    · rw [if_neg quest', if_neg quest', List.getElem?_modify]
      simp only [UInt8.toNat_inj]
      split <;> simp

lemma item?_handle {slot slot' : UInt8} {handling : Handling}
    (hf : (l.handle slot handling).item? slot' = some item') :
    ∃ item, l.item? slot' = some item ∧ (item.isLooted → item'.isLooted) ∧
      (item'.isBlocked → item.isBlocked) := by
  have modified : ∀ f : LootItem → LootItem,
      (∀ item, (item.isLooted → (f item).isLooted) ∧ ((f item).isBlocked → item.isBlocked)) →
      (l.modifyItem slot f).item? slot' = some item' →
      ∃ item, l.item? slot' = some item ∧ (item.isLooted → item'.isLooted) ∧
        (item'.isBlocked → item.isBlocked) := by
    intro f keeps hf
    rw [item?_modifyItem] at hf
    split at hf
    · obtain ⟨item, here, rfl⟩ := Option.map_eq_some_iff.mp hf
      exact ⟨item, here, keeps item⟩
    · exact ⟨item', hf, id, id⟩
  cases handling with
  | untouched => exact ⟨item', hf, id, id⟩
  | unblocked =>
    exact modified (fun item => { item with isBlocked := false })
      (fun item => ⟨id, fun blocked => absurd blocked Bool.false_ne_true⟩) hf
  | given winner =>
    exact modified (fun item => { item with isLooted := true }) (fun item => ⟨fun _ => rfl, id⟩)
      hf

end Loot

/-! ### Counting a roll -/

section

variable (p : Players) (w : World) (i : ℕ)

lemma countTheRoll_of_some {roll : Roll} (here : w.rollId[i]? = some roll) :
    w.countTheRoll p i =
      let handling := (roll.outcome p).handling p roll.itemGUID
      { w with
        rollId := w.rollId.eraseIdx i
        loots := match roll.loot with
          | none => w.loots
          | some l => Function.update w.loots l ((w.loots l).handle roll.itemSlot handling)
        given := match handling with
          | .given winner => (roll.itemGUID, winner) :: w.given
          | _ => w.given } := by
  have counted := World.countTheRoll.eq_1 p w i
  rw [here] at counted
  exact counted

lemma item?_countTheRoll {l : ℕ} {slot : UInt8}
    (hf : ((w.countTheRoll p i).loots l).item? slot = some item') :
    ∃ item, (w.loots l).item? slot = some item ∧ (item.isLooted → item'.isLooted) ∧
      (item'.isBlocked → item.isBlocked) := by
  cases here : w.rollId[i]? with
  | none =>
    rw [World.countTheRoll, here] at hf
    exact ⟨item', hf, id, id⟩
  | some roll =>
    rw [countTheRoll_of_some p w i here] at hf
    cases linked : roll.loot with
    | none =>
      simp only [linked] at hf
      exact ⟨item', hf, id, id⟩
    | some l' =>
      simp only [linked] at hf
      by_cases hs : l = l'
      · subst hs
        rw [Function.update_self] at hf
        exact Loot.item?_handle _ hf
      · rw [Function.update_of_ne hs] at hf
        exact ⟨item', hf, id, id⟩

variable {itemGUID : ℕ} {winner : UInt64} {r : Roll}

lemma eq_won_of_handling {outcome : Outcome}
    (handling : outcome.handling p itemGUID = .given winner) :
    ∃ vote number, outcome = .won winner vote number := by
  cases outcome with
  | won winner' vote number =>
    have hs : winner' = winner := by
      cases vote <;> simp only [Outcome.handling] at handling <;> split_ifs at handling <;>
        exact Handling.given.inj handling
    exact ⟨vote, number, by rw [hs]⟩
  | _ => cases handling

lemma given_countTheRoll : w.given ⊆ (w.countTheRoll p i).given := by
  cases here : w.rollId[i]? with
  | none => rw [World.countTheRoll, here]; exact List.Subset.refl _
  | some roll =>
    rw [countTheRoll_of_some p w i here]
    dsimp only
    split
    · exact List.subset_cons_self ..
    · exact List.Subset.refl _

variable {p w i}

lemma mem_given_countTheRoll (mem : entry ∈ (w.countTheRoll p i).given) :
    entry ∈ w.given ∨ ∃ roll vote number, w.rollId[i]? = some roll ∧ roll.itemGUID = entry.1 ∧
      roll.outcome p = .won entry.2 vote number := by
  cases here : w.rollId[i]? with
  | none =>
    rw [World.countTheRoll, here] at mem
    exact .inl mem
  | some roll =>
    rw [countTheRoll_of_some p w i here] at mem
    dsimp only at mem
    split at mem
    next winner handling =>
      rcases List.mem_cons.mp mem with rfl | old
      · obtain ⟨vote, number, won⟩ := eq_won_of_handling p handling
        exact .inr ⟨roll, vote, number, rfl, rfl, won⟩
      · exact .inl old
    next => exact .inl mem

lemma Released.countTheRoll (released : Released w r) : Released (w.countTheRoll p i) r := by
  intro l item' linked hf
  obtain ⟨item, here, looted, blocked⟩ := item?_countTheRoll p w i hf
  rcases released l item linked here with ⟨taken, winner, mem⟩ | free
  · exact .inl ⟨looted taken, winner, given_countTheRoll p w i mem⟩
  · exact .inr (Bool.eq_false_of_not_eq_true fun blocked' =>
      absurd ((blocked blocked').symm.trans free) (by simp))

lemma Releasable.countTheRoll (releasable : Releasable p w r) :
    Releasable p (w.countTheRoll p i) r := by
  intro l linked
  refine ⟨(releasable l linked).1, fun item' hf blocked' => ?_⟩
  obtain ⟨item, here, -, blocked⟩ := item?_countTheRoll p w i hf
  exact (releasable l linked).2 item here (blocked blocked')

lemma handling_of_online {vote : RollVote} {number : ℕ} (online : p.online winner)
    (valid : vote ≠ .notValid) :
    (Outcome.won winner vote number).handling p itemGUID ≠ .untouched := by
  simp only [Outcome.handling, online, if_true]
  split
  next => simp
  next => exact absurd rfl valid
  next => split <;> simp

lemma handling_ne_untouched (valid : r.loot ≠ none) (counted : r.Counted)
    (online : WinnerOnline p r) (itemGUID : ℕ) :
    (r.outcome p).handling p itemGUID ≠ .untouched := by
  rcases counted.outcome_cases (p := p) valid with
    ⟨need, best, won, high⟩ | ⟨noNeed, greed, best, won, high⟩ | ⟨-, -, passed⟩
  · rw [won]
    refine handling_of_online (online.need need best high) fun invalid => ?_
    have voted := (mem_numbers high.mem).2.1
    rw [invalid] at voted
    cases voted
  · rw [won]
    refine handling_of_online (online.greed noNeed best high) fun invalid => ?_
    have voted := (mem_numbers high.mem).2.1
    rw [invalid] at voted
    cases voted
  · rw [passed]
    simp [Outcome.handling]

lemma Releasable.released {roll : Roll} (here : w.rollId[i]? = some roll)
    (releasable : Releasable p w roll) : Released (w.countTheRoll p i) roll := by
  intro l item' linked hf
  rw [countTheRoll_of_some p w i here] at hf ⊢
  rw [linked] at hf
  dsimp only at hf
  rw [Function.update_self] at hf
  cases handling : (roll.outcome p).handling p roll.itemGUID with
  | untouched =>
    rw [handling] at hf
    refine .inr (Bool.eq_false_of_not_eq_true fun blocked => ?_)
    obtain ⟨counted, online⟩ := (releasable l linked).2 item' hf blocked
    have valid : roll.loot ≠ none := by simp [linked]
    exact handling_ne_untouched valid counted online _ handling
  | unblocked =>
    rw [handling, Loot.handle, Loot.unblock, Loot.item?_modifyItem, if_pos rfl] at hf
    obtain ⟨item, -, rfl⟩ := Option.map_eq_some_iff.mp hf
    exact .inr rfl
  | given winner =>
    rw [handling, Loot.handle, Loot.take] at hf
    change (((w.loots l).modifyItem _ _).item? _) = _ at hf
    rw [Loot.item?_modifyItem, if_pos rfl] at hf
    obtain ⟨item, -, rfl⟩ := Option.map_eq_some_iff.mp hf
    exact .inl ⟨rfl, winner, List.mem_cons_self ..⟩

lemma Releasable.fair (releasable : Releasable p w r) (valid : r.loot ≠ none) :
    Roll.Fair p r := by
  obtain ⟨l, linked⟩ := Option.ne_none_iff_exists'.mp valid
  exact (fair_iff valid).mpr (releasable l linked).1

end

/-! ### The timer -/

section

variable {p : Players} {l : ℕ}

lemma endRoll_keeps (P : World → Prop) (step : ∀ w i, P w → P (w.countTheRoll p i)) (n : ℕ)
    (w : World) (init : P w) : P (World.endRoll p l n w) := by
  induction n generalizing w with
  | zero => exact init
  | succ n ih =>
    rw [World.endRoll]
    split
    · exact init
    · exact ih _ (step w _ init)

lemma endRoll_releases (n : ℕ) (w : World)
    (releasable : ∀ roll ∈ w.rollId, roll.loot = some l → Releasable p w roll) :
    ∀ roll ∈ w.rollId, roll ∈ (World.endRoll p l n w).rollId ∨
      roll.loot = some l ∧ Released (World.endRoll p l n w) roll := by
  induction n generalizing w with
  | zero => exact fun roll mem => .inl mem
  | succ n ih =>
    intro roll mem
    rw [World.endRoll]
    split
    next => exact .inl mem
    next i hf =>
      obtain ⟨inside, linked, -⟩ := List.findIdx?_eq_some_iff_getElem.mp hf
      have here : w.rollId[i]? = some w.rollId[i] := List.getElem?_eq_getElem inside
      have rest := ih (w.countTheRoll p i) fun other mem' linked' => by
        rw [rollId_countTheRoll] at mem'
        exact (releasable other (List.mem_of_mem_eraseIdx mem') linked').countTheRoll
      obtain ⟨k, there⟩ := List.mem_iff_getElem?.mp mem
      by_cases hs : k = i
      · subst hs
        have linked' : roll.loot = some l := by
          rw [Option.some.inj (there.symm.trans here)]
          exact of_decide_eq_true linked
        have released := (releasable roll mem linked').released there
        exact .inr ⟨linked', endRoll_keeps (fun w => Released w roll)
          (fun _ _ released => released.countTheRoll) n _ released⟩
      · refine rest roll ?_
        rw [rollId_countTheRoll]
        exact List.mem_eraseIdx_iff_getElem?.mpr ⟨k, hs, there⟩

lemma mem_given_endRoll (n : ℕ) (w : World) (mem : entry ∈ (World.endRoll p l n w).given) :
    entry ∈ w.given ∨ ∃ roll vote number, roll ∈ w.rollId ∧ roll.itemGUID = entry.1 ∧
      roll.outcome p = .won entry.2 vote number := by
  induction n generalizing w with
  | zero => exact .inl mem
  | succ n ih =>
    rw [World.endRoll] at mem
    split at mem
    next => exact .inl mem
    next i hf =>
      rcases ih _ mem with mem | ⟨roll, vote, number, rest, named, won⟩
      · rcases mem_given_countTheRoll mem with mem | ⟨roll, vote, number, here, named, won⟩
        · exact .inl mem
        · exact .inr ⟨roll, vote, number, List.mem_of_getElem? here, named, won⟩
      · rw [rollId_countTheRoll] at rest
        exact .inr ⟨roll, vote, number, List.mem_of_mem_eraseIdx rest, named, won⟩

end

/-! ### Steps -/

lemma fields_recordVote (r : Roll) (player : UInt64) (choice : UInt8) :
    (r.recordVote player choice).loot = r.loot ∧
      (r.recordVote player choice).itemSlot = r.itemSlot := by
  rw [Roll.recordVote]
  split_ifs <;> exact ⟨rfl, rfl⟩

lemma itemGUID_clearLoot (w : World) (l : ℕ) :
    (w.clearLoot l).rollId.map Roll.itemGUID = w.rollId.map Roll.itemGUID := by
  rw [World.clearLoot, List.map_map]
  refine List.map_congr_left fun roll _ => ?_
  rw [Function.comp_apply]
  split <;> rfl

lemma given_startRolls (c : World.Chances) (l : ℕ) (w : World) :
    (World.startRolls c l w).given = w.given := by
  refine startRolls_keeps c l (fun w' => w'.given = w.given) w (fun g w' slot quest hs => ?_) rfl
  rw [← hs, World.startRoll]
  split <;> rfl

lemma settled_of_open {w : World}
    (stays : ∀ roll ∈ w.rollId, roll.itemGUID ∈ (w.happen e).rollId.map Roll.itemGUID)
    (given : (w.happen e).given = w.given) : Settled w e where
  fair _ _ _ roll mem closed := absurd (stays roll mem) closed
  given _ mem := .inl (given ▸ mem)
  released roll mem closed := absurd (stays roll mem) closed

lemma settled_of_disbanded {w : World} (nothing : NothingBlocked w) (before : w.group ≠ none)
    (gone : (w.happen e).group = none) (loots : (w.happen e).loots = w.loots)
    (given : (w.happen e).given = w.given) :
    Settled w e where
  fair _ _ stays := absurd (stays gone) before
  given _ mem := .inl (given ▸ mem)
  released roll mem _ l item linked hf := by
    rw [loots] at hf
    exact .inr (nothing roll mem l item linked hf)

lemma settled_vote {w : World} (players : Players) (player : UInt64)
    (guid : ℕ) (choice : UInt8)
    (allowed : Allowed w (.call (.vote players player guid choice))) :
    Settled w (.call (.vote players player guid choice)) := by
  rcases countRollVote_cases players w player guid choice with
    ⟨hs, -⟩ | ⟨i, roll, vote, hf, here, named, filled, voted, recorded⟩
  · have unchanged : w.happen (.call (.vote players player guid choice)) = w := hs
    refine settled_of_open (fun roll mem => ?_) (congrArg World.given unchanged)
    rw [unchanged]
    exact List.mem_map_of_mem mem
  · have recorded : w.happen (.call (.vote players player guid choice)) = _ := recorded
    by_cases counted : (roll.recordVote player choice).allVoted
    · rw [if_pos counted] at recorded
      have rolls : (w.happen (.call (.vote players player guid choice))).rollId =
          w.rollId.eraseIdx i := by
        rw [recorded, rollId_countTheRoll, List.eraseIdx_set_eq]
      have inside := (List.getElem?_eq_some_iff.mp here).1
      have here' := List.getElem?_set_self (a := roll.recordVote player choice) inside
      have touched : roll.touchedBy (.call (.vote players player guid choice)) =
          roll.recordVote player choice := if_pos named
      have releasable : Releasable players w (roll.recordVote player choice) :=
        allowed i roll hf here filled (by simp [voted]) counted
      obtain ⟨loot, slot⟩ := fields_recordVote roll player choice
      refine ⟨?_, ?_, ?_⟩
      · rintro p now - other mem closed valid
        cases Option.some.inj now
        rw [rolls] at closed
        cases eq_of_closed here mem closed
        rw [touched]
        exact releasable.fair (loot ▸ valid)
      · intro entry mem
        rw [recorded] at mem
        rcases mem_given_countTheRoll mem with old | ⟨roll', vote, number, there, named', won⟩
        · exact .inl old
        · cases Option.some.inj (here'.symm.trans there)
          refine .inr ⟨players, roll, vote, number, rfl, List.mem_of_getElem? here, ?_, ?_⟩
          · rw [← named', itemGUID_recordVote]
          · rw [touched]
            exact won
      · intro other mem closed
        rw [rolls] at closed
        cases eq_of_closed here mem closed
        rw [recorded]
        have released := Releasable.released (w := { w with
          rollId := w.rollId.set i (roll.recordVote player choice) }) here' releasable
        rw [Released, loot, slot, itemGUID_recordVote] at released
        exact released
    · rw [if_neg counted] at recorded
      refine settled_of_open (fun other mem => ?_) (by rw [recorded])
      rw [recorded, map_itemGUID_set here (itemGUID_recordVote ..)]
      exact List.mem_map_of_mem mem

lemma settled_removeMember {w : World} (numbered : Numbered w) (players : Players)
    (alone : Bool) (guid : UInt64) (kick : Bool)
    (allowed : Allowed w (.call (.removeMember players alone guid kick))) :
    Settled w (.call (.removeMember players alone guid kick)) := by
  rcases removeMember_cases numbered.guids players alone guid kick with
    ⟨g, g', here, left, -, -, -, given, rolls⟩ |
      ⟨-, hs | ⟨g, here, disbands, gone, -, loots, given, -⟩⟩
  · refine settled_of_open (fun roll mem => ?_) given
    have rolls : (w.happen (.call (.removeMember players alone guid kick))).rollId = _ := rolls
    rw [rolls, List.map_map]
    exact List.mem_map.mpr ⟨roll, mem, itemGUID_without roll guid⟩
  · have unchanged : w.happen (.call (.removeMember players alone guid kick)) = w := hs
    refine settled_of_open (fun roll mem => ?_) (congrArg World.given unchanged)
    rw [unchanged]
    exact List.mem_map_of_mem mem
  · exact settled_of_disbanded (allowed g here disbands) (by simp [here]) gone loots given

lemma settled_endRoll {w : World} (players : Players) (l : ℕ)
    (allowed : Allowed w (.endRoll players l)) : Settled w (.endRoll players l) := by
  have ended : ∀ roll ∈ w.rollId,
      roll.itemGUID ∉ (w.happen (.endRoll players l)).rollId.map Roll.itemGUID →
        roll.loot = some l ∧ Released (w.happen (.endRoll players l)) roll := by
    intro roll mem closed
    rcases endRoll_releases w.rollId.length w allowed roll mem with stays | ended
    · exact absurd (List.mem_map_of_mem stays) closed
    · exact ended
  refine ⟨?_, ?_, fun roll mem closed => (ended roll mem closed).2⟩
  · rintro p now - roll mem closed valid
    cases Option.some.inj now
    exact (allowed roll mem (ended roll mem closed).1).fair valid
  · intro entry mem
    rcases mem_given_endRoll _ w mem with old | ⟨roll, vote, number, here, named, won⟩
    · exact .inl old
    · exact .inr ⟨players, roll, vote, number, rfl, here, named, won⟩

lemma settled_of_allowed {w : World} (numbered : Numbered w) (allowed : Allowed w e) :
    Settled w e := by
  cases e with
  | call call =>
    cases call with
    | groupLoot c l =>
      exact settled_of_open (fun roll mem => List.mem_map_of_mem (rollId_startRolls c l w mem))
        (given_startRolls c l w)
    | needBeforeGreed c l =>
      exact settled_of_open (fun roll mem => List.mem_map_of_mem (rollId_startRolls c l w mem))
        (given_startRolls c l w)
    | vote players player guid choice => exact settled_vote players player guid choice allowed
    | removeMember players alone guid kick =>
      exact settled_removeMember numbered players alone guid kick allowed
  | endRoll players l => exact settled_endRoll players l allowed
  | clearLoot l =>
    refine settled_of_open (fun roll mem => ?_) rfl
    rw [World.happen, itemGUID_clearLoot]
    exact List.mem_map_of_mem mem
  | disband =>
    refine ⟨fun p now => absurd now (by simp [Event.players]), fun entry mem => .inl mem, ?_⟩
    exact fun roll mem _ l item linked hf => .inr (allowed roll mem l item linked hf)

/-! ### Runs -/

lemma Numbered.happen {w : World} (numbered : Numbered w) (e : Event) :
    Numbered (w.happen e) := by
  cases e with
  | call call => exact numbered.perform call
  | endRoll players l =>
    exact endRoll_keeps Numbered (fun _ i numbered => numbered.countTheRoll players i) _ _ numbered
  | clearLoot l =>
    refine numbered.of_sublist ?_ rfl fun g' here => ⟨g', here, List.Sublist.refl _⟩
    rw [World.happen, itemGUID_clearLoot]
  | disband =>
    exact numbered.of_sublist (List.nil_sublist _) rfl fun g' here => by cases here

/-- The right player wins a roll if and only if the counters tell the class that wins, or nobody
is left in it; and in every run of allowed steps the right players win the rolls that are counted,
and all closed rolls have released their items. -/
theorem rolls_settled (p : Players) (r : Roll) (valid : r.loot ≠ none) (w : World)
    (numbered : Numbered w) (events : List Event) :
    (Roll.Fair p r ↔ r.playerVote = ∅ ∨ r.Counted) ∧
      (Along World.happen Allowed w events → Along World.happen Settled w events) :=
  ⟨fair_iff valid, fun allowed =>
    along_of_invariant Numbered (fun _ e numbered _ => numbered.happen e)
      (fun _ _ numbered allowed => settled_of_allowed numbered allowed) numbered allowed⟩

/-- One of two players needs the item and gets it. -/
theorem rolls_settled_pair :
    (Roll.Fair allOnline (World.newRoll allNear {} 1 0 0 false) ↔
      (World.newRoll allNear {} 1 0 0 false).playerVote = ∅ ∨
        (World.newRoll allNear {} 1 0 0 false).Counted) ∧
    Along World.happen Settled pairWithLoot
      [.call (.groupLoot allNear 0), .call (.vote allOnline 1 1 1),
        .call (.vote allOnline 2 1 2)] := by
  have settled := rolls_settled allOnline (World.newRoll allNear {} 1 0 0 false)
    (by simp [newRoll_loot]) pairWithLoot started_pairWithLoot.sound.toNumbered
    [.call (.groupLoot allNear 0), .call (.vote allOnline 1 1 1), .call (.vote allOnline 2 1 2)]
  refine ⟨settled.1, settled.2 ⟨trivial, ?_, ?_, trivial⟩⟩
  · intro i roll found here _ _ all
    cases found
    cases here
    cases all
  · intro i roll found here _ _ _ l _
    cases found
    cases here
    suffices counted : Roll.Counted _ from
      ⟨.inr counted, fun _ _ _ => ⟨counted, fun _ _ _ => rfl, fun _ _ _ => rfl⟩⟩
    constructor
    · exact iff_of_true (by decide) ⟨1, .need, rfl, rfl⟩
    · exact fun none => absurd ⟨1, .need, rfl, rfl⟩ none

/-- One of two members leaves while a roll is open: the group is gone, the item stays blocked. -/
theorem leaving_pair_blocks_item : ¬ Along World.happen Settled pairWithLoot
    [.call (.groupLoot allNear 0), .call (.removeMember allOnline false 2 false)] := by
  rintro ⟨-, settled, -⟩
  rcases settled.released _ (List.mem_singleton_self _) List.not_mem_nil 0 _ rfl rfl with
    ⟨looted, -⟩ | free
  · cases looted
  · cases free


end WorldServer.Groups
