import Mathlib.Data.List.Nodup
import WorldServer.Groups.Membership
import WorldServer.Lib.Run
import WorldServer.Lib.Word

/-!
# The books of a raid

The counters of the subgroups follow the slots through all operations. What can go wrong is a row
that is loaded, a member who joins twice or joins a full party, and a leader who leaves while
nobody is found to follow her.
-/
namespace WorldServer.Groups

open Lib

/-! ### Slots -/

def slotsIn (slots : List MemberSlot) (subGroup : UInt8) : ℕ :=
  slots.countP fun slot => slot.group = subGroup

/-- The counters of the eight subgroups are the numbers of their slots. -/
def Counts (counts : UInt8 → UInt8) (slots : List MemberSlot) : Prop :=
  ∀ subGroup : UInt8, subGroup.toNat < maxRaidSubgroups →
    (counts subGroup).toNat = slotsIn slots subGroup

/-- The members are booked right. -/
structure Booked (g : Group) : Prop where
  raid : g.subGroupsCounts.isSome = g.raid
  counters : ∀ counts, g.subGroupsCounts = some counts → Counts counts g.memberSlots
  small : ∀ subGroup, slotsIn g.memberSlots subGroup ≤ maxGroupSize
  range : ∀ slot ∈ g.memberSlots, slot.group.toNat < maxRaidSubgroups
  distinct : (g.memberSlots.map MemberSlot.guid).Nodup

structure Bookkept (g : Group) : Prop extends Booked g where
  leader : g.leaderGuid ∈ g.memberSlots.map MemberSlot.guid

section

variable (slots : List MemberSlot) (guid : UInt64)

lemma find?_guid_eq_none_iff :
    slots.find? (fun slot => slot.guid = guid) = none ↔ guid ∉ slots.map MemberSlot.guid := by
  simp [List.find?_eq_none]

section

variable (f : MemberSlot → MemberSlot)

lemma map_guid_updateFirst (hs : ∀ slot, (f slot).guid = slot.guid) :
    (Group.updateFirst guid f slots).map MemberSlot.guid = slots.map MemberSlot.guid := by
  induction slots with
  | nil => rfl
  | cons slot rest ih =>
    rw [Group.updateFirst]
    split
    · rw [List.map_cons, List.map_cons, hs]
    · rw [List.map_cons, List.map_cons, ih]

lemma updateFirst_of_absent (absent : guid ∉ slots.map MemberSlot.guid) :
    Group.updateFirst guid f slots = slots := by
  induction slots with
  | nil => rfl
  | cons slot rest ih =>
    rw [List.map_cons, List.mem_cons, not_or] at absent
    rw [Group.updateFirst, if_neg (Ne.symm absent.1), ih absent.2]

lemma slotsIn_updateFirst {slot : MemberSlot}
    (hf : slots.find? (fun slot => slot.guid = guid) = some slot) (subGroup : UInt8) :
    slotsIn (Group.updateFirst guid f slots) subGroup + (if slot.group = subGroup then 1 else 0) =
      slotsIn slots subGroup + if (f slot).group = subGroup then 1 else 0 := by
  induction slots with
  | nil => cases hf
  | cons first rest ih =>
    rw [Group.updateFirst]
    by_cases here : first.guid = guid
    · rw [if_pos here]
      rw [List.find?_cons_of_pos (by simpa using here)] at hf
      cases Option.some.inj hf
      simp only [slotsIn, List.countP_cons, decide_eq_true_eq]
      omega
    · rw [if_neg here]
      rw [List.find?_cons_of_neg (by simpa using here)] at hf
      have rest := ih hf
      simp only [slotsIn, List.countP_cons] at rest ⊢
      omega

lemma mem_updateFirst {slot' : MemberSlot} (mem : slot' ∈ Group.updateFirst guid f slots) :
    slot' ∈ slots ∨ ∃ slot ∈ slots, slot' = f slot := by
  induction slots with
  | nil => exact absurd mem List.not_mem_nil
  | cons first rest ih =>
    rw [Group.updateFirst] at mem
    split at mem
    · rcases List.mem_cons.mp mem with rfl | mem
      · exact .inr ⟨first, List.mem_cons_self .., rfl⟩
      · exact .inl (List.mem_cons_of_mem _ mem)
    · rcases List.mem_cons.mp mem with rfl | mem
      · exact .inl (List.mem_cons_self ..)
      · rcases ih mem with old | ⟨slot, old, hs⟩
        · exact .inl (List.mem_cons_of_mem _ old)
        · exact .inr ⟨slot, List.mem_cons_of_mem _ old, hs⟩

end

lemma slotsIn_eraseP {slot : MemberSlot}
    (hf : slots.find? (fun slot => slot.guid = guid) = some slot) (subGroup : UInt8) :
    slotsIn (slots.eraseP fun slot => slot.guid = guid) subGroup +
      (if slot.group = subGroup then 1 else 0) = slotsIn slots subGroup := by
  induction slots with
  | nil => cases hf
  | cons first rest ih =>
    by_cases here : first.guid = guid
    · rw [List.eraseP_cons_of_pos (by simpa using here)]
      rw [List.find?_cons_of_pos (by simpa using here)] at hf
      cases Option.some.inj hf
      simp [slotsIn, List.countP_cons]
    · rw [List.eraseP_cons_of_neg (by simpa using here)]
      rw [List.find?_cons_of_neg (by simpa using here)] at hf
      have rest := ih hf
      simp only [slotsIn, List.countP_cons] at rest ⊢
      omega

lemma map_guid_eraseP :
    (slots.eraseP fun slot => slot.guid = guid).map MemberSlot.guid =
      (slots.map MemberSlot.guid).erase guid := by
  induction slots with
  | nil => rfl
  | cons first rest ih =>
    rw [List.map_cons]
    by_cases here : first.guid = guid
    · rw [List.eraseP_cons_of_pos (by simpa using here), here, List.erase_cons_head]
    · rw [List.eraseP_cons_of_neg (by simpa using here), List.erase_cons_tail (by simpa using here),
        List.map_cons, ih]

lemma slotsIn_append (more : List MemberSlot) (subGroup : UInt8) :
    slotsIn (slots ++ more) subGroup = slotsIn slots subGroup + slotsIn more subGroup :=
  List.countP_append ..

end

/-! ### Counters -/

lemma toNat_increase (counts : UInt8 → UInt8) (slot : MemberSlot) (subGroup : UInt8) :
    (Group.increase counts slot subGroup).toNat =
      ((counts subGroup).toNat + slotsIn [slot] subGroup) % 256 := by
  rw [Group.increase, slotsIn, List.countP_singleton]
  by_cases here : slot.group = subGroup
  · subst here
    simp
  · rw [Function.update_of_ne (Ne.symm here)]
    simp [here]

lemma toNat_foldl_increase (counts : UInt8 → UInt8) (slots : List MemberSlot) (subGroup : UInt8) :
    (slots.foldl Group.increase counts subGroup).toNat =
      ((counts subGroup).toNat + slotsIn slots subGroup) % 256 := by
  induction slots generalizing counts with
  | nil =>
    simp [slotsIn]
  | cons first rest ih =>
    rw [List.foldl_cons, ih, toNat_increase]
    have split := slotsIn_append [first] rest subGroup
    rw [List.singleton_append] at split
    omega

variable {counts : UInt8 → UInt8} {g : Group}

lemma counts_of_mod {slots : List MemberSlot}
    (small : ∀ subGroup, slotsIn slots subGroup ≤ maxGroupSize)
    (counted : ∀ subGroup : UInt8, subGroup.toNat < maxRaidSubgroups →
      (counts subGroup).toNat = slotsIn slots subGroup % 256) : Counts counts slots := by
  intro subGroup below
  have few := small subGroup
  rw [counted subGroup below, Nat.mod_eq_of_lt]
  exact few.trans_lt (by decide)

lemma Counts.increase {slots : List MemberSlot} (counted : Counts counts slots)
    (slot : MemberSlot) (small : ∀ subGroup, slotsIn (slots ++ [slot]) subGroup ≤ maxGroupSize) :
    Counts (Group.increase counts slot) (slots ++ [slot]) := by
  refine counts_of_mod small fun subGroup below => ?_
  rw [toNat_increase, counted subGroup below, slotsIn_append]

lemma counts_initRaidSubGroupsCounter
    (small : ∀ subGroup, slotsIn g.memberSlots subGroup ≤ maxGroupSize)
    (here : g.initRaidSubGroupsCounter.subGroupsCounts = some counts) :
    Counts counts g.initRaidSubGroupsCounter.memberSlots := by
  cases Option.some.inj here
  refine counts_of_mod small fun subGroup below => ?_
  rw [toNat_foldl_increase, if_pos below]
  exact congrArg (· % 256) (Nat.zero_add _)

/-! ### Joining -/

/-- The player is not in the group yet, and the subgroup that is taken has a free slot. -/
def Joinable (g : Group) (guid : UInt64) : Prop :=
  ∀ subGroup, g.freeSubGroup = some subGroup →
    guid ∉ g.memberSlots.map MemberSlot.guid ∧ slotsIn g.memberSlots subGroup < maxGroupSize

lemma freeSubGroup_lt {subGroup : UInt8} (free : g.freeSubGroup = some subGroup) :
    subGroup.toNat < maxRaidSubgroups := by
  rw [Group.freeSubGroup] at free
  split at free
  · cases free
    decide
  · have below : ∀ subGroup ∈ Group.subGroups, subGroup.toNat < maxRaidSubgroups := by
      simp [Group.subGroups, maxRaidSubgroups]
    exact below subGroup (List.mem_of_find?_eq_some free)

lemma small_append {slots : List MemberSlot}
    (small : ∀ subGroup, slotsIn slots subGroup ≤ maxGroupSize) (slot : MemberSlot)
    (free : slotsIn slots slot.group < maxGroupSize) (subGroup : UInt8) :
    slotsIn (slots ++ [slot]) subGroup ≤ maxGroupSize := by
  rw [slotsIn_append]
  by_cases here : slot.group = subGroup
  · subst here
    have one : slotsIn [slot] slot.group = 1 := by simp [slotsIn]
    omega
  · have zero : slotsIn [slot] subGroup = 0 := by simp [slotsIn, here]
    rw [zero]
    exact small subGroup

lemma booked_addMember_iff (booked : Booked g) (guid : UInt64) :
    Booked (g.addMember guid) ↔ Joinable g guid := by
  rw [Group.addMember, Joinable]
  split
  next full => exact iff_of_true booked fun _ free => absurd (full.symm.trans free) (by simp)
  next subGroup hf =>
    constructor
    · intro booked' subGroup' hf'
      cases Option.some.inj (hf.symm.trans hf')
      have distinct := booked'.distinct
      have small := booked'.small subGroup
      rw [List.map_append, List.nodup_append] at distinct
      rw [slotsIn_append] at small
      have one : slotsIn [⟨guid, subGroup, false⟩] subGroup = 1 := by simp [slotsIn]
      refine ⟨fun again => ?_, by omega⟩
      exact distinct.2.2 guid again guid (List.mem_singleton_self _) rfl
    · intro joinable
      obtain ⟨new, free⟩ := joinable subGroup hf
      have small := small_append booked.small ⟨guid, subGroup, false⟩ free
      refine ⟨?_, ?_, small, ?_, ?_⟩
      · rw [Group.subGroupCounterIncrease, ← booked.raid]
        exact Option.isSome_map
      · intro counts here
        obtain ⟨old, before, rfl⟩ := Option.map_eq_some_iff.mp here
        exact (booked.counters old before).increase ⟨guid, subGroup, false⟩ small
      · intro slot mem
        rcases List.mem_append.mp mem with old | new
        · exact booked.range slot old
        · rw [List.mem_singleton.mp new]
          exact freeSubGroup_lt hf
      · rw [List.map_append, List.nodup_append]
        refine ⟨booked.distinct, List.nodup_singleton _, fun old mem added mem' hs => ?_⟩
        rw [hs, List.mem_singleton.mp mem'] at mem
        exact new mem

lemma guids_addMember (g : Group) (guid : UInt64) :
    (g.addMember guid).leaderGuid = g.leaderGuid ∧
      (g.addMember guid).memberSlots.map MemberSlot.guid =
        if g.freeSubGroup = none then g.memberSlots.map MemberSlot.guid
        else g.memberSlots.map MemberSlot.guid ++ [guid] := by
  rw [Group.addMember]
  split
  next full => exact ⟨rfl, (if_pos full).symm⟩
  next subGroup hf =>
    refine ⟨rfl, ?_⟩
    rw [if_neg (by simp [hf])]
    exact List.map_append

lemma bookkept_addMember_iff (kept : Bookkept g) (guid : UInt64) :
    Bookkept (g.addMember guid) ↔ Joinable g guid := by
  rw [← booked_addMember_iff kept.toBooked]
  refine ⟨Bookkept.toBooked, fun booked => ⟨booked, ?_⟩⟩
  obtain ⟨leader, guids⟩ := guids_addMember g guid
  rw [leader, guids]
  split
  · exact kept.leader
  · exact List.mem_append_left _ kept.leader

/-! ### New groups -/

lemma slotsIn_nil (subGroup : UInt8) : slotsIn [] subGroup = 0 := rfl

lemma bookkept_create (lfg bg bf : Bool) (leader : UInt64) :
    Bookkept (.create lfg bg bf leader) := by
  have first : ∀ g : Group, Booked g → g.memberSlots = [] → g.leaderGuid = leader →
      Bookkept (g.addMember leader) := by
    intro g booked nobody leads
    have joinable : Joinable g leader := fun subGroup _ => by
      rw [nobody]
      exact ⟨List.not_mem_nil, Nat.succ_pos _⟩
    have free : g.freeSubGroup ≠ none := by
      cases here : g.subGroupsCounts with
      | none => simp [Group.freeSubGroup, here]
      | some counts =>
        have zero := booked.counters counts here 0 (by decide)
        rw [nobody, slotsIn_nil] at zero
        simp [Group.freeSubGroup, here, Group.subGroups, zero, maxGroupSize]
    obtain ⟨hs, guids⟩ := guids_addMember g leader
    refine ⟨(booked_addMember_iff booked leader).mpr joinable, ?_⟩
    rw [hs, guids, if_neg free, leads]
    exact List.mem_append_right _ (List.mem_singleton_self _)
  rw [Group.create]
  split
  next raid =>
    refine first _ ⟨raid.symm, fun counts here => ?_, ?_, ?_, List.nodup_nil⟩ rfl rfl
    · exact counts_initRaidSubGroupsCounter (fun subGroup => Nat.zero_le _) here
    · exact fun subGroup => Nat.zero_le _
    · exact fun slot mem => absurd mem List.not_mem_nil
  next party =>
    refine first _ ⟨(Bool.eq_false_of_not_eq_true party).symm, fun counts here => ?_, ?_, ?_,
      List.nodup_nil⟩ rfl rfl
    · cases here
    · exact fun subGroup => Nat.zero_le _
    · exact fun slot mem => absurd mem List.not_mem_nil

/-- The rows of members who exist are different and fill the eight subgroups at most, and the
leader is among them. -/
structure Loadable (leader : UInt64) (rows : List MemberSlot) : Prop where
  small : ∀ subGroup, slotsIn rows subGroup ≤ maxGroupSize
  range : ∀ row ∈ rows, row.group.toNat < maxRaidSubgroups
  distinct : (rows.map MemberSlot.guid).Nodup
  leader : leader ∈ rows.map MemberSlot.guid

lemma foldl_loadMemberFromDB (named : UInt64 → Bool) (g : Group) (rows : List MemberSlot) :
    let loaded := rows.filter fun row => named row.guid
    let g' := rows.foldl (Group.loadMemberFromDB named) g
    g'.leaderGuid = g.leaderGuid ∧ g'.raid = g.raid ∧ g'.memberSlots = g.memberSlots ++ loaded ∧
      g'.subGroupsCounts = g.subGroupsCounts.map (loaded.foldl Group.increase) := by
  induction rows generalizing g with
  | nil => exact ⟨rfl, rfl, (List.append_nil _).symm, Option.map_id.symm ▸ rfl⟩
  | cons row rest ih =>
    obtain ⟨leader, raid, slots, counters⟩ := ih (Group.loadMemberFromDB named g row)
    dsimp only at leader raid slots counters ⊢
    rw [List.foldl_cons, leader, raid, slots, counters, Group.loadMemberFromDB]
    split
    next exists_ =>
      rw [List.filter_cons_of_pos (p := fun row : MemberSlot => named row.guid) exists_]
      refine ⟨rfl, rfl, List.append_assoc .., ?_⟩
      exact Option.map_map ..
    next missing =>
      rw [List.filter_cons_of_neg (p := fun row : MemberSlot => named row.guid) missing]
      exact ⟨rfl, rfl, rfl, rfl⟩

lemma bookkept_load_iff (named : UInt64 → Bool) (leader : UInt64) (raid lfg : Bool)
    (rows : List MemberSlot) :
    Bookkept (.load named leader raid lfg rows) ↔
      Loadable leader (rows.filter fun row => named row.guid) := by
  have start : (Group.loadGroupFromDB named leader raid lfg).leaderGuid = leader ∧
      (Group.loadGroupFromDB named leader raid lfg).memberSlots = [] ∧
      (Group.loadGroupFromDB named leader raid lfg).subGroupsCounts.isSome =
        (Group.loadGroupFromDB named leader raid lfg).raid ∧
      ∀ counts, (Group.loadGroupFromDB named leader raid lfg).subGroupsCounts = some counts →
        Counts counts [] := by
    rw [Group.loadGroupFromDB]
    split
    next =>
      split
      next here =>
        exact ⟨rfl, rfl, here.symm, fun counts =>
          counts_initRaidSubGroupsCounter fun subGroup => Nat.zero_le _⟩
      next party =>
        refine ⟨rfl, rfl, (Bool.eq_false_of_not_eq_true party).symm, fun counts here => ?_⟩
        cases here
    next =>
      refine ⟨rfl, rfl, rfl, fun counts here => ?_⟩
      cases here
  obtain ⟨leads, nobody, raids, counted⟩ := start
  obtain ⟨leads', raids', slots, counters⟩ :=
    foldl_loadMemberFromDB named (Group.loadGroupFromDB named leader raid lfg) rows
  rw [leads] at leads'
  rw [nobody, List.nil_append] at slots
  constructor
  · rintro ⟨⟨-, -, small, range, distinct⟩, leader'⟩
    rw [Group.load, slots] at small range distinct
    rw [Group.load, slots, leads'] at leader'
    exact ⟨small, range, distinct, leader'⟩
  · rintro ⟨small, range, distinct, leader'⟩
    refine ⟨⟨?_, ?_, ?_, ?_, ?_⟩, ?_⟩ <;> rw [Group.load]
    · rw [counters, raids', ← raids, Option.isSome_map]
    · intro counts here
      rw [counters] at here
      obtain ⟨old, before, rfl⟩ := Option.map_eq_some_iff.mp here
      rw [slots]
      refine counts_of_mod small fun subGroup below => ?_
      rw [toNat_foldl_increase, counted old before subGroup below, slotsIn_nil, Nat.zero_add]
    · rwa [slots]
    · rwa [slots]
    · rwa [slots]
    · rwa [slots, leads']

/-! ### Changing a slot -/

lemma Booked.updateSlot (booked : Booked g) (guid : UInt64) (f : MemberSlot → MemberSlot)
    (sameGuid : ∀ slot, (f slot).guid = slot.guid) (sameGroup : ∀ slot, (f slot).group = slot.group) :
    Booked (g.updateSlot guid f) := by
  have counted : ∀ subGroup, slotsIn (Group.updateFirst guid f g.memberSlots) subGroup =
      slotsIn g.memberSlots subGroup := by
    intro subGroup
    cases hf : g.memberSlots.find? (fun slot => slot.guid = guid) with
    | none =>
      have absent := (find?_guid_eq_none_iff g.memberSlots guid).mp hf
      rw [updateFirst_of_absent g.memberSlots guid f absent]
    | some slot =>
      have changed := slotsIn_updateFirst g.memberSlots guid f hf subGroup
      rw [sameGroup] at changed
      exact Nat.add_right_cancel changed
  refine ⟨booked.raid, fun counts here subGroup below => ?_, fun subGroup => ?_, ?_, ?_⟩
  · exact (booked.counters counts here subGroup below).trans (counted subGroup).symm
  · exact (counted subGroup).trans_le (booked.small subGroup)
  · intro slot mem
    rcases mem_updateFirst g.memberSlots guid f mem with old | ⟨slot', old, rfl⟩
    · exact booked.range slot old
    · rw [sameGroup]
      exact booked.range slot' old
  · rw [Group.updateSlot, map_guid_updateFirst _ _ f sameGuid]
    exact booked.distinct

lemma guids_updateSlot (g : Group) (guid : UInt64) (f : MemberSlot → MemberSlot)
    (sameGuid : ∀ slot, (f slot).guid = slot.guid) :
    (g.updateSlot guid f).memberSlots.map MemberSlot.guid = g.memberSlots.map MemberSlot.guid :=
  map_guid_updateFirst _ _ f sameGuid

lemma changeLeader_spec (booked : Booked g) (online : UInt64 → Bool) (guid : UInt64) :
    Booked (g.changeLeader online guid) ∧
      (g.changeLeader online guid).memberSlots.map MemberSlot.guid =
        g.memberSlots.map MemberSlot.guid ∧
      (g.changeLeader online guid).leaderGuid =
        if guid ∈ g.memberSlots.map MemberSlot.guid ∧ online guid then guid else g.leaderGuid := by
  rw [Group.changeLeader, Group.getMemberSlot]
  split
  next absent =>
    have absent := (find?_guid_eq_none_iff g.memberSlots guid).mp absent
    exact ⟨booked, rfl, (if_neg fun both => absent both.1).symm⟩
  next slot hf =>
    have hm : guid ∈ g.memberSlots.map MemberSlot.guid := by
      by_contra absent
      rw [(find?_guid_eq_none_iff g.memberSlots guid).mpr absent] at hf
      cases hf
    split
    next here =>
      have renamed : Booked { g with leaderGuid := guid } :=
        ⟨booked.raid, booked.counters, booked.small, booked.range, booked.distinct⟩
      refine ⟨renamed.updateSlot guid _ (fun _ => rfl) (fun _ => rfl),
        guids_updateSlot _ guid _ fun _ => rfl, ?_⟩
      exact (if_pos ⟨hm, here⟩).symm
    next away => exact ⟨booked, rfl, (if_neg fun both => away both.2).symm⟩

lemma Bookkept.changeLeader (kept : Bookkept g) (online : UInt64 → Bool) (guid : UInt64) :
    Bookkept (g.changeLeader online guid) := by
  obtain ⟨booked, guids, leads⟩ := changeLeader_spec kept.toBooked online guid
  refine ⟨booked, ?_⟩
  rw [guids, leads]
  split
  next both => exact both.1
  next => exact kept.leader

/-! ### Leaving -/

lemma Booked.removeSlot (booked : Booked g) (guid : UInt64) : Booked (g.removeSlot guid) := by
  rw [Group.removeSlot, Group.getMemberSlot]
  split
  next => exact booked
  next slot hf =>
    have erased := slotsIn_eraseP g.memberSlots guid hf
    refine ⟨?_, ?_, fun subGroup => ?_, ?_, ?_⟩
    · exact Option.isSome_map.trans booked.raid
    · intro counts here subGroup below
      obtain ⟨old, before, rfl⟩ := Option.map_eq_some_iff.mp here
      have counted := booked.counters old before subGroup below
      have less := erased subGroup
      by_cases hs : slot.group = subGroup
      · subst hs
        rw [if_pos rfl] at less
        rw [Function.update_self, toNat_sub_one (by omega)]
        dsimp only
        omega
      · rw [if_neg hs] at less
        rw [Function.update_of_ne (Ne.symm hs)]
        exact counted.trans less.symm
    · have less := erased subGroup
      have few := booked.small subGroup
      dsimp only
      omega
    · exact fun slot mem => booked.range slot (List.mem_of_mem_eraseP mem)
    · rw [map_guid_eraseP]
      exact booked.distinct.erase guid

lemma guids_removeSlot (g : Group) (guid : UInt64) :
    (g.removeSlot guid).leaderGuid = g.leaderGuid ∧
      (g.removeSlot guid).memberSlots.map MemberSlot.guid =
        (g.memberSlots.map MemberSlot.guid).erase guid := by
  rw [Group.removeSlot, Group.getMemberSlot]
  split
  next absent =>
    have absent := (find?_guid_eq_none_iff g.memberSlots guid).mp absent
    exact ⟨rfl, (List.erase_of_not_mem absent).symm⟩
  next => exact ⟨rfl, map_guid_eraseP ..⟩

lemma unlinkMember_eq (g : Group) (online : UInt64 → Bool) (guid : UInt64) :
    ∃ refs, g.unlinkMember online guid = { g with memberMgr := refs } := by
  rw [Group.unlinkMember]
  split
  · exact ⟨_, rfl⟩
  · exact ⟨_, rfl⟩

lemma pickLeader_spec (booked : Booked g) (online : UInt64 → Bool) :
    Booked (g.pickLeader online) ∧
      (g.pickLeader online).memberSlots.map MemberSlot.guid =
        g.memberSlots.map MemberSlot.guid ∧
      ((∃ slot ∈ g.memberSlots, online slot.guid) →
        (g.pickLeader online).leaderGuid ∈ g.memberSlots.map MemberSlot.guid) ∧
      ((¬ ∃ slot ∈ g.memberSlots, online slot.guid) →
        (g.pickLeader online).leaderGuid = g.leaderGuid) := by
  rw [Group.pickLeader]
  split
  next nobody =>
    refine ⟨booked, rfl, fun somebody => ?_, fun _ => rfl⟩
    obtain ⟨slot, mem, here⟩ := somebody
    exact absurd here (List.find?_eq_none.mp nobody slot mem)
  next slot found =>
    have mem := List.mem_of_find?_eq_some found
    have here := List.find?_some found
    have hm := List.mem_map_of_mem (f := MemberSlot.guid) mem
    obtain ⟨booked', guids, leads⟩ := changeLeader_spec booked online slot.guid
    refine ⟨booked', guids, fun _ => ?_, fun nobody => absurd ⟨slot, mem, here⟩ nobody⟩
    rw [leads, if_pos ⟨hm, here⟩]
    exact hm

lemma mem_removeSlot_iff (booked : Booked g) (guid : UInt64) (slot : MemberSlot) :
    slot ∈ (g.removeSlot guid).memberSlots ↔ slot ∈ g.memberSlots ∧ slot.guid ≠ guid := by
  have guids := (guids_removeSlot g guid).2
  constructor
  · intro mem
    have hm := List.mem_map_of_mem (f := MemberSlot.guid) mem
    rw [guids, booked.distinct.mem_erase_iff] at hm
    refine ⟨?_, hm.1⟩
    rw [Group.removeSlot] at mem
    split at mem
    · exact mem
    · exact List.mem_of_mem_eraseP mem
  · rintro ⟨mem, other⟩
    rw [Group.removeSlot]
    split
    · exact mem
    · exact (List.mem_eraseP_of_neg (by simpa using other)).mpr mem

/-- A group without a member is booked right, and has a leader if the member was not the leader or
somebody else is online. -/
lemma bookkept_left_iff {g' : Group} (kept : Bookkept g) {online : UInt64 → Bool}
    {alone kick disbanded : Bool} {guid : UInt64}
    (left : g.removeMember online alone guid kick = .left g' disbanded) :
    Bookkept g' ↔ (g.leaderGuid = guid →
      ∃ slot ∈ g.memberSlots, slot.guid ≠ guid ∧ online slot.guid) := by
  obtain ⟨refs, unlinked⟩ := unlinkMember_eq g online guid
  rw [Group.removeMember, unlinked] at left
  have unlinked : Booked { g with memberMgr := refs } :=
    ⟨kept.raid, kept.counters, kept.small, kept.range, kept.distinct⟩
  have booked := unlinked.removeSlot guid
  obtain ⟨leads, guids⟩ := guids_removeSlot { g with memberMgr := refs } guid
  have stays := mem_removeSlot_iff unlinked guid
  generalize Group.removeSlot { g with memberMgr := refs } guid = g₁ at left booked leads guids stays
  split at left
  · cases left
  split at left
  · injection left with hs
    rw [← hs]
    by_cases leader : g.leaderGuid = guid
    · rw [if_pos (leads.trans leader)]
      obtain ⟨booked', guids', hf, nobody⟩ := pickLeader_spec booked online
      have somebody : (∃ slot ∈ g.memberSlots, slot.guid ≠ guid ∧ online slot.guid) ↔
          ∃ slot ∈ g₁.memberSlots, online slot.guid := by
        refine exists_congr fun slot => ?_
        rw [stays slot, and_assoc]
      rw [forall_prop_of_true leader, somebody]
      constructor
      · intro kept'
        by_contra none
        -- the guid of the leader who left stays
        have member := kept'.leader
        rw [nobody none, guids', guids, leads, leader, kept.distinct.mem_erase_iff] at member
        exact member.1 rfl
      · intro online'
        refine ⟨booked', ?_⟩
        rw [guids']
        exact hf online'
    · rw [if_neg fun hs => leader (leads.symm.trans hs)]
      refine iff_of_true ⟨booked, ?_⟩ fun hs => absurd hs leader
      rw [leads, guids, kept.distinct.mem_erase_iff]
      exact ⟨leader, kept.leader⟩
  · cases left

/-! ### Conversions and moves -/

lemma Bookkept.convertToRaid (kept : Bookkept g) : Bookkept g.convertToRaid where
  raid := rfl
  counters _ here := counts_initRaidSubGroupsCounter (g := { g with raid := true }) kept.small here
  small := kept.small
  range := kept.range
  distinct := kept.distinct
  leader := kept.leader

lemma Bookkept.convertToGroup (kept : Bookkept g) : Bookkept g.convertToGroup := by
  rw [Group.convertToGroup]
  split
  · exact kept
  · refine ⟨⟨rfl, fun counts here => ?_, kept.small, kept.range, kept.distinct⟩, kept.leader⟩
    cases here

lemma Bookkept.changeMembersGroup (kept : Bookkept g) (guid : UInt64) {group : UInt8}
    (below : group.toNat < maxRaidSubgroups) (free : g.hasFreeSlotSubGroup group) :
    Bookkept (g.changeMembersGroup guid group) := by
  rw [Group.changeMembersGroup, Group.getMemberSlot]
  split
  next => exact kept
  split
  next => exact kept
  next slot hf =>
    split
    next => exact kept
    next moves =>
      obtain ⟨counts, here⟩ : ∃ counts, g.subGroupsCounts = some counts := by
        cases here : g.subGroupsCounts with
        | none => simp [Group.hasFreeSlotSubGroup, here] at free
        | some counts => exact ⟨counts, rfl⟩
      have few : slotsIn g.memberSlots group < maxGroupSize := by
        rw [← kept.counters counts here group below]
        simpa [Group.hasFreeSlotSubGroup, here] using free
      have moved := slotsIn_updateFirst g.memberSlots guid (fun slot => { slot with group }) hf
      have guids := map_guid_updateFirst g.memberSlots guid (fun slot => { slot with group })
        fun _ => rfl
      refine ⟨⟨?_, ?_, fun subGroup => ?_, ?_, guids ▸ kept.distinct⟩, guids ▸ kept.leader⟩
      · exact (Option.isSome_map.trans Option.isSome_map).trans kept.raid
      · intro counts' here' subGroup below'
        obtain ⟨more, increased, rfl⟩ := Option.map_eq_some_iff.mp here'
        obtain ⟨old, before, rfl⟩ := Option.map_eq_some_iff.mp increased
        cases Option.some.inj (here.symm.trans before)
        have counted := kept.counters counts here subGroup below'
        have changed := moved subGroup
        change _ = slotsIn (Group.updateFirst guid _ g.memberSlots) subGroup
        by_cases left : slot.group = subGroup
        · subst left
          rw [if_pos rfl, if_neg (Ne.symm moves)] at changed
          rw [Function.update_self, Function.update_of_ne moves, toNat_sub_one (by omega)]
          omega
        · rw [Function.update_of_ne (Ne.symm left)]
          rw [if_neg left] at changed
          by_cases entered : group = subGroup
          · subst entered
            rw [if_pos rfl] at changed
            have room : (counts group).toNat < 255 := by
              rw [counted]
              exact few.trans (by decide)
            rw [Function.update_self, toNat_add_one room]
            omega
          · rw [if_neg entered] at changed
            rw [Function.update_of_ne (Ne.symm entered)]
            omega
      · have small := kept.small subGroup
        have changed := moved subGroup
        change slotsIn (Group.updateFirst guid _ g.memberSlots) subGroup ≤ _
        by_cases hs : group = subGroup
        · subst hs
          rw [if_neg moves, if_pos rfl] at changed
          omega
        · rw [if_neg hs] at changed
          omega
      · intro slot' mem
        rcases mem_updateFirst g.memberSlots guid _ mem with old | ⟨old, -, rfl⟩
        · exact kept.range slot' old
        · exact below

lemma Bookkept.handleGroupChangeSubGroup (kept : Bookkept g) (sender guid : UInt64)
    (groupNr : UInt8) : Bookkept (g.handleGroupChangeSubGroup sender guid groupNr) := by
  rw [Group.handleGroupChangeSubGroup]
  split
  next => exact kept
  next below =>
    split
    next => exact kept
    next =>
      split
      next => exact kept
      next free =>
        exact kept.changeMembersGroup guid (Nat.lt_of_not_le below) (by simpa using free)

/-! ### Runs -/

def Proper : Option Group → GroupOp → Prop
  | _, .load named leader _ _ rows => Loadable leader (rows.filter fun row => named row.guid)
  | some g, .addMember guid => Joinable g guid
  | some g, .inviteResponse guid => g.leaderGuid ≠ guid → ¬ g.isFull → Joinable g guid
  | some g, .joinCommand guid => g.isFull → Joinable g guid
  | some g, .removeMember online alone guid kick =>
    ∀ g', g.removeMember online alone guid kick = .left g' false → g.leaderGuid = guid →
      ∃ slot ∈ g.memberSlots, slot.guid ≠ guid ∧ online slot.guid
  | _, _ => True

/-- The books of the group, if there is one, are right. -/
def AllBookkept (s : Option Group) : Prop := ∀ g, s = some g → Bookkept g

lemma allBookkept_some_iff (g : Group) : AllBookkept (some g) ↔ Bookkept g :=
  ⟨fun all => all g rfl, fun kept _ hs => Option.some.inj hs ▸ kept⟩

lemma allBookkept_none : AllBookkept none := fun _ gone => by cases gone

lemma allBookkept_removeMember_iff (kept : Bookkept g) (online : UInt64 → Bool) (alone : Bool)
    (guid : UInt64) (kick : Bool) :
    AllBookkept ((g.removeMember online alone guid kick).group g) ↔
      Proper (some g) (.removeMember online alone guid kick) := by
  cases left : g.removeMember online alone guid kick with
  | refused =>
    refine iff_of_true ((allBookkept_some_iff g).mpr kept) fun g' left' => ?_
    rw [left] at left'
    cases left'
  | left g' disbanded =>
    cases disbanded with
    | true =>
      refine iff_of_true allBookkept_none fun g' left' => ?_
      rw [left] at left'
      cases left'
    | false =>
      refine (allBookkept_some_iff g').trans ((bookkept_left_iff kept left).trans ?_)
      constructor
      · exact fun followed _ _ => followed
      · exact fun proper => proper g' left
  | disbanded =>
    refine iff_of_true allBookkept_none fun g' left' => ?_
    rw [left] at left'
    cases left'

lemma allBookkept_perform_iff {s : Option Group} (all : AllBookkept s) (op : GroupOp) :
    AllBookkept (GroupOp.perform s op) ↔ Proper s op := by
  cases s with
  | none =>
    cases op with
    | create lfg bg bf leader =>
      exact iff_of_true ((allBookkept_some_iff _).mpr (bookkept_create lfg bg bf leader)) trivial
    | load named leader raid lfg rows =>
      exact (allBookkept_some_iff _).trans (bookkept_load_iff named leader raid lfg rows)
    | _ => exact iff_of_true allBookkept_none trivial
  | some g =>
    have kept := all g rfl
    cases op with
    | create lfg bg bf leader =>
      exact iff_of_true ((allBookkept_some_iff _).mpr (bookkept_create lfg bg bf leader)) trivial
    | load named leader raid lfg rows =>
      exact (allBookkept_some_iff _).trans (bookkept_load_iff named leader raid lfg rows)
    | addMember guid => exact (allBookkept_some_iff _).trans (bookkept_addMember_iff kept guid)
    | inviteResponse guid =>
      refine (allBookkept_some_iff _).trans ?_
      rw [Group.handleGroupInviteResponse, Proper]
      split
      next leads => exact iff_of_true kept fun other => absurd leads other
      next other =>
        split
        next full => exact iff_of_true kept fun _ room => absurd full room
        next room =>
          rw [bookkept_addMember_iff kept]
          exact ⟨fun joinable _ _ => joinable, fun proper => proper other room⟩
    | joinCommand guid =>
      refine (allBookkept_some_iff _).trans ?_
      rw [Group.handleGroupJoinCommand, Proper]
      split
      next room => exact iff_of_true kept fun full => by simp [full] at room
      next full =>
        rw [bookkept_addMember_iff kept]
        exact ⟨fun joinable _ => joinable, fun proper => proper (by simpa using full)⟩
    | removeMember online alone guid kick =>
      exact allBookkept_removeMember_iff kept online alone guid kick
    | changeLeader online guid =>
      exact iff_of_true ((allBookkept_some_iff _).mpr (kept.changeLeader online guid)) trivial
    | convertToRaid => exact iff_of_true ((allBookkept_some_iff _).mpr kept.convertToRaid) trivial
    | convertToGroup =>
      exact iff_of_true ((allBookkept_some_iff _).mpr kept.convertToGroup) trivial
    | changeSubGroup sender guid groupNr =>
      exact iff_of_true
        ((allBookkept_some_iff _).mpr (kept.handleGroupChangeSubGroup sender guid groupNr)) trivial
    | swapSubGroup => exact iff_of_true ((allBookkept_some_iff _).mpr kept) trivial
    | login guid =>
      refine iff_of_true ((allBookkept_some_iff _).mpr ⟨⟨?_, ?_, ?_, ?_, ?_⟩, ?_⟩) trivial
      exacts [kept.raid, kept.counters, kept.small, kept.range, kept.distinct, kept.leader]
    | logout guid =>
      refine iff_of_true ((allBookkept_some_iff _).mpr ⟨⟨?_, ?_, ?_, ?_, ?_⟩, ?_⟩) trivial
      exacts [kept.raid, kept.counters, kept.small, kept.range, kept.distinct, kept.leader]
    | disband => exact iff_of_true allBookkept_none trivial

/-- After every step of a run the books are right if and only if all steps are proper. -/
theorem books_kept_iff (ops : List GroupOp) :
    Along GroupOp.perform (fun s op => AllBookkept (GroupOp.perform s op)) none ops ↔
      Along GroupOp.perform Proper none ops :=
  along_iff_of_invariant AllBookkept
    (fun _ op all proper => (allBookkept_perform_iff all op).mpr proper)
    (fun _ op all => allBookkept_perform_iff all op) allBookkept_none ops

/-- The command adds a sixth member to a party, where it should report that the group is full. -/
theorem joinCommand_overfills : ¬ Along GroupOp.perform
    (fun s op => AllBookkept (GroupOp.perform s op)) none
    [.create false false false 1, .inviteResponse 2, .inviteResponse 3, .inviteResponse 4,
      .inviteResponse 5, .joinCommand 6] := by
  rintro ⟨-, -, -, -, -, all, -⟩
  have small := (all _ rfl).small 0
  revert small
  decide

end WorldServer.Groups
