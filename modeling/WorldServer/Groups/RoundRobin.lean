import WorldServer.Groups.State
import WorldServer.Looting.LootMgr

/-!
# Taking turns with the loot

Where the loot goes round, the members come up in the order of the slots, and behind the last one
the first one follows. A member who is away from the looted object loses his turn.
-/
namespace WorldServer.Groups

open Looting (LootMethod)

structure LootGroup extends Group where
  lootMethod : LootMethod := .freeForAll
  looterGuid : UInt64 := 0
  updates : ℕ := 0

/-- The players in the world, seen from the looted object. No player has the guid 0. -/
structure Surroundings where
  findPlayer : UInt64 → Bool
  isWithinDistInMap : UInt64 → Bool
  nobody : findPlayer 0 = false

def Surroundings.eligible (s : Surroundings) (guid : UInt64) : Bool :=
  s.findPlayer guid && s.isWithinDistInMap guid

namespace LootGroup

variable (g : LootGroup) (s : Surroundings) (ifneed : Bool)

/-- `_getMemberCSlot`, as a place in the list. The place behind the last is the end. -/
def getMemberCSlot (guid : UInt64) : ℕ := g.memberSlots.findIdx fun slot => slot.guid = guid

def setLooterGuid (guid : UInt64) : LootGroup :=
  { g with looterGuid := guid, updates := g.updates + 1 }

def updateLooterGuid : LootGroup :=
  match g.lootMethod with
  | .masterLoot | .freeForAll => g
  | _ =>
    let oldLooterGUID := g.looterGuid
    let guid_itr := g.getMemberCSlot oldLooterGUID
    -- not update if only update if need and ok
    if guid_itr < g.memberSlots.length ∧ ifneed ∧ s.eligible oldLooterGUID then g
    else
      let guid_itr := if guid_itr < g.memberSlots.length then guid_itr + 1 else guid_itr
      let pNewLooter :=
        -- search next after current
        match (g.memberSlots.drop guid_itr).find? fun slot => s.eligible slot.guid with
        | some slot => some slot
        -- search from start
        | none => (g.memberSlots.take guid_itr).find? fun slot => s.eligible slot.guid
      match pNewLooter with
      | some slot => if oldLooterGUID ≠ slot.guid then g.setLooterGuid slot.guid else g
      | none => g.setLooterGuid 0

/-! ### Whose turn it is -/

lemma Surroundings.ne_zero_of_eligible {s : Surroundings} {guid : UInt64}
    (h : s.eligible guid = true) : guid ≠ 0 := by
  rintro rfl
  simp [Surroundings.eligible, s.nobody] at h

structure NextTurn (s : Surroundings) (slots : List MemberSlot) (looter next : UInt64) :
    Prop where
  /-- The members behind the looter come first, then those before him, and he comes last. -/
  after_member : ∀ before slot after, slots = before ++ slot :: after → slot.guid = looter →
    (∀ other ∈ before, other.guid ≠ looter) →
    next = match (after ++ before).find? fun other => s.eligible other.guid with
      | some other => other.guid
      | none => if s.eligible looter then looter else 0
  from_start : (∀ slot ∈ slots, slot.guid ≠ looter) →
    next = match slots.find? fun slot => s.eligible slot.guid with
      | some slot => slot.guid
      | none => 0
  zero_iff : next = 0 ↔ ∀ slot ∈ slots, s.eligible slot.guid = false

/-- The order in which `updateLooterGuid` asks the members. -/
def searchOrder (looter : UInt64) : List MemberSlot :=
  let guid_itr := g.getMemberCSlot looter
  let guid_itr := if guid_itr < g.memberSlots.length then guid_itr + 1 else guid_itr
  g.memberSlots.drop guid_itr ++ g.memberSlots.take guid_itr

lemma mem_searchOrder {looter : UInt64} {slot : MemberSlot} :
    slot ∈ g.searchOrder looter ↔ slot ∈ g.memberSlots := by
  simp only [searchOrder]
  rw [List.mem_append, or_comm, ← List.mem_append, List.take_append_drop]

lemma searchOrder_of_member {looter : UInt64} {before after : List MemberSlot}
    {slot : MemberSlot} (hslots : g.memberSlots = before ++ slot :: after)
    (hguid : slot.guid = looter) (first : ∀ other ∈ before, other.guid ≠ looter) :
    g.searchOrder looter = after ++ before ++ [slot] := by
  have place : g.getMemberCSlot looter = before.length := by
    have skipped : before.findIdx (fun other => decide (other.guid = looter)) = before.length :=
      List.findIdx_eq_length_of_false fun other hm => by simpa using first other hm
    rw [getMemberCSlot, hslots, List.findIdx_append, skipped]
    simp [List.findIdx_cons, hguid]
  have inside : before.length < g.memberSlots.length := by simp [hslots]
  have split : g.memberSlots = (before ++ [slot]) ++ after := by simp [hslots]
  have length : before.length + 1 = (before ++ [slot]).length := by simp
  simp only [searchOrder, place, if_pos inside]
  rw [split, length, List.drop_left, List.take_left, List.append_assoc]

lemma searchOrder_of_missing {looter : UInt64}
    (missing : ∀ slot ∈ g.memberSlots, slot.guid ≠ looter) :
    g.searchOrder looter = g.memberSlots := by
  have place : g.getMemberCSlot looter = g.memberSlots.length :=
    List.findIdx_eq_length_of_false fun slot hm => by simpa using missing slot hm
  simp [searchOrder, place]

lemma nextTurn_find (looter : UInt64) :
    NextTurn s g.memberSlots looter
      (match (g.searchOrder looter).find? fun slot => s.eligible slot.guid with
        | some slot => slot.guid
        | none => 0) where
  after_member before slot after hslots hguid first := by
    rw [g.searchOrder_of_member hslots hguid first, List.find?_append]
    cases (after ++ before).find? fun other => s.eligible other.guid with
    | some other => rfl
    | none =>
      -- He comes last, so his turn follows on his own when there is no one else.
      cases again : s.eligible looter <;> simp [hguid, again]
  from_start missing := by rw [g.searchOrder_of_missing missing]
  zero_iff := by
    cases found : (g.searchOrder looter).find? fun slot => s.eligible slot.guid with
    | some slot =>
      have eligible : s.eligible slot.guid = true := by simpa using List.find?_some found
      have hm : slot ∈ g.memberSlots :=
        g.mem_searchOrder.mp (List.mem_of_find?_eq_some found)
      constructor
      · intro zero
        exact absurd zero (Surroundings.ne_zero_of_eligible eligible)
      · intro nobody
        simp [nobody slot hm] at eligible
    | none =>
      have nobody : ∀ slot ∈ g.searchOrder looter, s.eligible slot.guid = false := by
        simpa using found
      simpa using fun slot hm => nobody slot (g.mem_searchOrder.mpr hm)

def stillLooter : Prop :=
  (∃ slot ∈ g.memberSlots, slot.guid = g.looterGuid) ∧ s.eligible g.looterGuid = true

lemma find?_searchOrder (looter : UInt64) :
    (g.searchOrder looter).find? (fun slot => s.eligible slot.guid) =
      let guid_itr := g.getMemberCSlot looter
      let guid_itr := if guid_itr < g.memberSlots.length then guid_itr + 1 else guid_itr
      match (g.memberSlots.drop guid_itr).find? fun slot => s.eligible slot.guid with
      | some slot => some slot
      | none => (g.memberSlots.take guid_itr).find? fun slot => s.eligible slot.guid := by
  simp only [searchOrder]
  rw [List.find?_append]
  generalize (g.memberSlots.drop _).find? (fun slot => s.eligible slot.guid) = behind
  cases behind with
  | some slot => rw [Option.some_or]
  | none => rw [Option.none_or]

lemma updateLooterGuid_of_round
    (round : g.lootMethod ≠ .masterLoot ∧ g.lootMethod ≠ .freeForAll) :
    ((ifneed ∧ g.stillLooter s) ∧ g.updateLooterGuid s ifneed = g) ∨
    (¬ (ifneed ∧ g.stillLooter s) ∧ ∃ updates, g.updateLooterGuid s ifneed =
      { g with
        looterGuid := match (g.searchOrder g.looterGuid).find? fun slot => s.eligible slot.guid with
          | some slot => slot.guid
          | none => 0
        updates }) := by
  have member_iff : g.getMemberCSlot g.looterGuid < g.memberSlots.length ↔
      ∃ slot ∈ g.memberSlots, slot.guid = g.looterGuid := by
    simp [getMemberCSlot, List.findIdx_lt_length]
  rw [updateLooterGuid]
  split
  next master => exact absurd master round.1
  next free => exact absurd free round.2
  next =>
    dsimp only
    rw [← find?_searchOrder]
    split
    next kept => exact .inl ⟨⟨kept.2.1, member_iff.mp kept.1, kept.2.2⟩, rfl⟩
    next lost =>
      refine .inr ⟨fun ⟨need, hm, eligible⟩ => lost ⟨member_iff.mpr hm, need, eligible⟩, ?_⟩
      cases (g.searchOrder g.looterGuid).find? fun slot => s.eligible slot.guid with
      | none => exact ⟨g.updates + 1, rfl⟩
      | some slot =>
        dsimp only
        split
        next => exact ⟨g.updates + 1, rfl⟩
        next hs => exact ⟨g.updates, by rw [← not_not.mp hs]⟩

/-- Where the loot goes round, the next eligible member behind the looter has the next turn, and
a looter who is asked for and near keeps his. The other methods have no turns. -/
theorem updateLooterGuid_spec :
    (g.lootMethod = .masterLoot ∨ g.lootMethod = .freeForAll → g.updateLooterGuid s ifneed = g) ∧
    (g.lootMethod ≠ .masterLoot ∧ g.lootMethod ≠ .freeForAll →
      ((ifneed ∧ g.stillLooter s) → g.updateLooterGuid s ifneed = g) ∧
      (¬ (ifneed ∧ g.stillLooter s) → ∃ next updates,
        g.updateLooterGuid s ifneed = { g with looterGuid := next, updates } ∧
        NextTurn s g.memberSlots g.looterGuid next) ∧
      ((g.updateLooterGuid s ifneed).looterGuid = 0 ↔
        ∀ slot ∈ g.memberSlots, s.eligible slot.guid = false)) := by
  constructor
  · rintro (method | method) <;> rw [updateLooterGuid, method]
  · intro round
    rcases g.updateLooterGuid_of_round s ifneed round with ⟨kept, same⟩ | ⟨lost, updates, moved⟩
    · have ⟨⟨slot, member, looter⟩, near⟩ := kept.2
      refine ⟨fun _ => same, fun lost => absurd kept lost, ?_⟩
      rw [same]
      constructor
      · intro zero
        exact absurd zero (Surroundings.ne_zero_of_eligible near)
      · intro nobody
        simp [← looter, nobody slot member] at near
    · have turn := g.nextTurn_find s g.looterGuid
      refine ⟨fun kept => absurd kept lost, fun _ => ⟨_, updates, moved, turn⟩, ?_⟩
      rw [moved]
      exact turn.zero_iff

/-- Everybody is near, and the first of two members has the loot of a group that is free for all. -/
theorem updateLooterGuid_free_stays :
    ∃ (g : LootGroup) (s : Surroundings),
      g.memberSlots = [⟨1, 0, false⟩, ⟨2, 0, false⟩] ∧ g.looterGuid = 1 ∧ s.eligible 2 = true ∧
      (g.updateLooterGuid s false).looterGuid = 1 :=
  ⟨{ memberSlots := [⟨1, 0, false⟩, ⟨2, 0, false⟩], looterGuid := 1 },
    ⟨fun guid => guid ≠ 0, fun _ => true, by decide⟩, rfl, rfl, by decide, rfl⟩

end LootGroup

end WorldServer.Groups
