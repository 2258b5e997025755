import WorldServer.Guilds.GuildDay

/-!
# The counters and the log

`Accounted` is the invariant of a day: each counter of a member says what the log
says. Taking slots and gold keeps it, and so does every rank request.
-/
namespace WorldServer.Guilds

open WorldServer.Lib WorldServer.Entities

/-! ### Counters that agree with the log -/

@[simp] lemma goldTaken_cons (e : Withdrawal) (log : List Withdrawal) (k : UInt32) :
    goldTaken (e :: log) k = e.goldOf k + goldTaken log k := by
  simp [goldTaken]

@[simp] lemma rankedSlotsTaken_cons (e : Withdrawal) (log : List Withdrawal) (k : UInt32)
    (tabId : UInt8) : rankedSlotsTaken (e :: log) k tabId =
      e.rankedSlotOf k tabId + rankedSlotsTaken log k tabId := by
  simp [rankedSlotsTaken]

/-- Every member's counters say what the log says, the signed money counter modulo
`2 ^ 32`. -/
structure Accounted (g : Guild) (log : List Withdrawal) : Prop where
  tabs : g.bankTabs.length ≤ guildBankMaxTabs
  money : ∀ k m, g.members.lookup k = some m →
    m.bankWithdraw[guildBankMaxTabs]?.getD 0 = Int32.ofNat (goldTaken log k)
  slots : ∀ k m (tabId : UInt8), g.members.lookup k = some m → tabId.toNat < guildBankMaxTabs →
    (m.bankWithdraw[tabId.toNat]?.getD 0).toInt = rankedSlotsTaken log k tabId

variable {g g' : Guild} {log : List Withdrawal} {player amount : UInt64} {m : Member}
  {tabId : UInt8} {name : String}

lemma Accounted.perm {log' : List Withdrawal} (acc : Accounted g log) (hs : log.Perm log') :
    Accounted g log' where
  tabs := acc.tabs
  money k m hf := by
    have sum : goldTaken log k = goldTaken log' k := (hs.map _).sum_eq
    rw [← sum]
    exact acc.money k m hf
  slots k m tabId hf here := by
    have sum : rankedSlotsTaken log k tabId = rankedSlotsTaken log' k tabId :=
      (hs.map _).sum_eq
    rw [← sum]
    exact acc.slots k m tabId hf here

/-- The second guild has the tabs of the first, and no counter the first does not have. -/
structure CountersKept (g g' : Guild) : Prop where
  tabs : g'.bankTabs.length = g.bankTabs.length
  counters : ∀ k m', g'.members.lookup k = some m' →
    ∃ m, g.members.lookup k = some m ∧ m'.bankWithdraw = m.bankWithdraw

lemma CountersKept.refl (g : Guild) : CountersKept g g := ⟨rfl, fun _ m hf => ⟨m, hf, rfl⟩⟩

lemma CountersKept.trans {g₁ g₂ g₃ : Guild} (first : CountersKept g₁ g₂)
    (second : CountersKept g₂ g₃) : CountersKept g₁ g₃ where
  tabs := second.tabs.trans first.tabs
  counters k m₃ hf := by
    obtain ⟨m₂, hf₂, hs₂⟩ := second.counters k m₃ hf
    obtain ⟨m₁, hf₁, hs₁⟩ := first.counters k m₂ hf₂
    exact ⟨m₁, hf₁, hs₂.trans hs₁⟩

lemma CountersKept.of_eq (members : g'.members = g.members)
    (tabs : g'.bankTabs.length = g.bankTabs.length) : CountersKept g g' :=
  ⟨tabs, fun _ m hf => ⟨m, members ▸ hf, rfl⟩⟩

lemma Accounted.kept (acc : Accounted g log) (kept : CountersKept g g') : Accounted g' log where
  tabs := kept.tabs ▸ acc.tabs
  money k m' hf := by
    obtain ⟨m, there, hs⟩ := kept.counters k m' hf
    rw [hs]
    exact acc.money k m there
  slots k m' tabId hf here := by
    obtain ⟨m, there, hs⟩ := kept.counters k m' hf
    rw [hs]
    exact acc.slots k m tabId there here

lemma lookup_modifyMember (g : Guild) (guid : UInt64) (f : Member → Member) (k : UInt32) (m : Member) :
    (g.modifyMember guid f).members.lookup k = some m ↔
      (k = guidLopart guid ∧ ∃ old, g.getMember guid = some old ∧ m = f old) ∨
      (k ≠ guidLopart guid ∧ g.members.lookup k = some m) := by
  unfold Guild.modifyMember
  split
  next old hf => simp [Table.lookup_insert_iff, hf]
  next absent =>
    have nothing : g.members.lookup (guidLopart guid) = none := absent
    by_cases hs : k = guidLopart guid
    · subst hs
      simp [absent, nothing]
    · simp [hs]

lemma bankWithdraw_update (m : Member) (tabId : ℕ) (here : tabId ≤ guildBankMaxTabs)
    (amount : UInt32) (i : ℕ) :
    (m.updateBankWithdrawValue tabId amount).bankWithdraw[i]?.getD 0 =
      if i = tabId then m.bankWithdraw[tabId]?.getD 0 + amount.toInt32
      else m.bankWithdraw[i]?.getD 0 := by
  simp only [Member.updateBankWithdrawValue, Vector.getElem?_setIfInBounds]
  have bound : tabId < guildBankMaxTabs + 1 := by omega
  by_cases hs : i = tabId
  · subst hs
    simp [bound]
  · simp [hs, Ne.symm hs]

/-! ### Slots -/

lemma count_slot (acc : Accounted g log) (hf : g.getMember player = some m)
    (here : tabId.toNat < guildBankMaxTabs)
    (left : m.rankId ≠ grGuildmaster → (rankedSlotsTaken log (guidLopart player) tabId : ℤ) <
      (g.getRankBankTabSlotsPerDay m.rankId tabId).toInt) :
    Accounted (g.updateMemberWithdrawSlots player tabId)
      (.slot (guidLopart player) tabId (m.isRank grGuildmaster) :: log) where
  tabs := by simpa using acc.tabs
  money k m' after := by
    simp only [goldTaken_cons, Withdrawal.goldOf, Nat.zero_add]
    rcases (lookup_modifyMember g player _ k m').mp after with ⟨rfl, old, there, rfl⟩ | ⟨-, other⟩
    · have before := acc.money _ old there
      split
      · rw [bankWithdraw_update old tabId.toNat (by omega), if_neg (by omega)]
        exact before
      · exact before
    · exact acc.money k m' other
  slots k m' tab after inTabs := by
    rw [rankedSlotsTaken_cons]
    rcases (lookup_modifyMember g player _ k m').mp after with ⟨rfl, old, there, rfl⟩ | ⟨apart, other⟩
    · obtain rfl : m = old := Option.some.inj (hf.symm.trans there)
      have before := acc.slots _ m tab there inTabs
      by_cases master : m.rankId = grGuildmaster
      · have counted : m.isRank grGuildmaster = true := by simp [Member.isRank, master]
        simpa [master, counted, Withdrawal.rankedSlotOf] using before
      · have counted : m.isRank grGuildmaster = false := by simp [Member.isRank, master]
        have room := left master
        have value := acc.slots _ m tabId there here
        have grows : m.getBankWithdrawValue tabId.toNat <
            g.getRankBankTabSlotsPerDay m.rankId tabId := by
          rw [Member.getBankWithdrawValue, if_neg (by simp [counted]), Int32.lt_iff_toInt_lt, value]
          exact room
        rw [if_pos ⟨master, grows⟩, bankWithdraw_update m tabId.toNat (by omega)]
        by_cases hs : tab = tabId
        · subst hs
          -- the limit is a signed word, so one more does not wrap
          have upper := (g.getRankBankTabSlotsPerDay m.rankId tab).toInt_lt
          have one : (1 : UInt32).toInt32.toInt = 1 := rfl
          rw [if_pos rfl, Int32.toInt_add, value, one, Int.bmod_eq_of_le (by omega) (by omega)]
          simp only [Withdrawal.rankedSlotOf, counted, and_self, if_true]
          omega
        · have differs : tab.toNat ≠ tabId.toNat := fun eq => hs (UInt8.toNat_inj.mp eq)
          rw [if_neg differs, before]
          simp [Withdrawal.rankedSlotOf, Ne.symm hs]
    · rw [acc.slots k m' tab other inTabs]
      simp [Withdrawal.rankedSlotOf, Ne.symm apart]

/-- Two guilds that differ at most in what lies in the bank. -/
structure SameBooks (g g' : Guild) : Prop where
  members : g'.members = g.members
  ranks : g'.ranks = g.ranks
  tabs : g'.bankTabs.length = g.bankTabs.length

lemma SameBooks.trans {g₁ g₂ g₃ : Guild} (first : SameBooks g₁ g₂) (second : SameBooks g₂ g₃) :
    SameBooks g₁ g₃ :=
  ⟨second.members.trans first.members, second.ranks.trans first.ranks, second.tabs.trans first.tabs⟩

lemma SameBooks.kept (hs : SameBooks g g') : CountersKept g g' :=
  .of_eq hs.members hs.tabs

lemma SameBooks.getMember (hs : SameBooks g g') (player : UInt64) :
    g'.getMember player = g.getMember player := by
  rw [Guild.getMember, Guild.getMember, hs.members]

lemma slotsPerDay_congr (ranks : g'.ranks = g.ranks)
    (tabs : g'.bankTabs.length = g.bankTabs.length) (rankId tabId : UInt8) :
    g'.getRankBankTabSlotsPerDay rankId tabId = g.getRankBankTabSlotsPerDay rankId tabId := by
  unfold Guild.getRankBankTabSlotsPerDay Guild.getPurchasedTabsSize Guild.getRankInfo Guild.getRanksSize
  rw [ranks, tabs]

lemma SameBooks.update (hs : SameBooks g g') (player : UInt64) (tabId : UInt8) :
    SameBooks (g.updateMemberWithdrawSlots player tabId)
      (g'.updateMemberWithdrawSlots player tabId) := by
  refine ⟨?_, by simpa using hs.ranks, by simpa using hs.tabs⟩
  simp only [Guild.updateMemberWithdrawSlots, Guild.modifyMember, slotsPerDay_congr hs.ranks hs.tabs,
    hs.getMember]
  cases g.getMember player with
  | none => exact hs.members
  | some member => simp only [hs.members]

def Guild.countSlots (g : Guild) (player : UInt64) (tabs : List UInt8) : Guild :=
  tabs.foldl (fun g tabId => g.updateMemberWithdrawSlots player tabId) g

lemma SameBooks.countSlots (hs : SameBooks g g') (player : UInt64) (tabs : List UInt8) :
    SameBooks (g.countSlots player tabs) (g'.countSlots player tabs) := by
  induction tabs generalizing g g' with
  | nil => exact hs
  | cons tabId tabs ih => exact ih (hs.update player tabId)

lemma length_storeInBank (w : World) (tabs : List BankTab) (container : UInt8) (item : Item)
    (vec : List ItemPosCount) : (storeInBank w tabs container item vec).length = tabs.length := by
  induction vec generalizing tabs with
  | nil => rfl
  | cons p vec ih =>
    rw [storeInBank, ih, storeOne]
    split
    · simp [Bank.setItem]
    · dsimp only
      split
      · simp [Bank.setItem]
      · rfl

lemma storeItem_books (w : World) (g : Guild) (side : MoveItemData) (item : Item)
    (vec : List ItemPosCount) : SameBooks g (side.storeItem w g item vec) := by
  cases side with
  | bank container slotId => exact ⟨rfl, rfl, length_storeInBank w g.bankTabs container item vec⟩
  | player _ _ => exact ⟨rfl, rfl, rfl⟩

lemma removeItem_books (g : Guild) (player : UInt64) (side other : MoveItemData) (n : UInt32) :
    SameBooks (g.countSlots player (side.takenFrom other)) (side.removeItem g player other n) := by
  cases side with
  | player _ _ => exact ⟨rfl, rfl, rfl⟩
  | bank container slotId =>
    have emptied : ∀ left, SameBooks g
        { g with bankTabs := Bank.setItem g.bankTabs container slotId left } := fun left =>
      ⟨rfl, rfl, by simp [Bank.setItem]⟩
    simp only [MoveItemData.takenFrom, MoveItemData.removeItem]
    split
    · exact emptied _
    · exact (emptied _).update player container

variable {src dest side other : MoveItemData}

lemma doItemsMove_books {w : World} {srcItem : ItemRef} {destItem : Option ItemRef} {n : UInt32}
    (served : (g.doItemsMove w player src dest srcItem destItem n).2 = true) :
    SameBooks (g.countSlots player (src.takenFrom dest ++
        if destItem.isSome then dest.takenFrom src else []))
      (g.doItemsMove w player src dest srcItem destItem n).1 := by
  obtain ⟨destVec, srcVec, effect⟩ := doItemsMove_true served
  rw [effect, Guild.countSlots, List.foldl_append]
  have first := removeItem_books g player src dest n
  cases destItem with
  | none => exact first.trans (storeItem_books w _ dest srcItem.item destVec)
  | some destItem =>
    have second := removeItem_books (src.removeItem g player dest n) player dest src 0
    have both := (first.countSlots player (dest.takenFrom src)).trans second
    exact (both.trans (storeItem_books w _ dest srcItem.item destVec)).trans
      (storeItem_books w _ src destItem.item srcVec)

lemma moveItems_books (w : World) (g : Guild) (player : UInt64) (src dest : MoveItemData)
    (splitedAmount : UInt32) :
    SameBooks (g.countSlots player (g.tabsTaken w player src dest splitedAmount))
      (g.moveItems w player src dest splitedAmount) := by
  rw [moveItems_eq, Guild.tabsTaken]
  rcases moves : g.moved w player src dest splitedAmount with _ | ⟨srcItem, destItem, n⟩
  · exact ⟨rfl, rfl, rfl⟩
  · have books := doItemsMove_books (moved_rights moves).1
    cases destItem with
    | none => simpa using books
    | some destItem => simpa using books

lemma getMember_updateMemberWithdrawSlots (hf : g.getMember player = some m) (tabId : UInt8) :
    ∃ m', (g.updateMemberWithdrawSlots player tabId).getMember player = some m' ∧
      m'.rankId = m.rankId := by
  refine ⟨_, (lookup_modifyMember g player _ _ _).mpr (Or.inl ⟨rfl, m, hf, rfl⟩), ?_⟩
  split <;> rfl

lemma countSlots_accounted {tabs : List UInt8} (distinct : tabs.Nodup) (acc : Accounted g log)
    (hf : g.getMember player = some m)
    (left : ∀ tabId ∈ tabs, tabId.toNat < guildBankMaxTabs ∧ (m.rankId ≠ grGuildmaster →
      (rankedSlotsTaken log (guidLopart player) tabId : ℤ) <
        (g.getRankBankTabSlotsPerDay m.rankId tabId).toInt)) :
    Accounted (g.countSlots player tabs)
      (tabs.map (.slot (guidLopart player) · (m.isRank grGuildmaster)) ++ log) := by
  induction tabs generalizing g log m with
  | nil => exact acc
  | cons tabId tabs ih =>
    obtain ⟨fresh, distinct⟩ := List.nodup_cons.mp distinct
    obtain ⟨here, room⟩ := left tabId List.mem_cons_self
    have counted := count_slot acc hf here room
    obtain ⟨m', hf', rank⟩ := getMember_updateMemberWithdrawSlots hf tabId
    have flag : m'.isRank grGuildmaster = m.isRank grGuildmaster := by
      rw [Member.isRank, Member.isRank, rank]
    have rest := ih distinct counted hf' fun other hm => by
      obtain ⟨inTabs, enough⟩ := left other (List.mem_cons_of_mem tabId hm)
      have apart : ¬ tabId = other := fun hs => fresh (hs ▸ hm)
      refine ⟨inTabs, fun master => ?_⟩
      rw [rank] at master ⊢
      rw [slotsPerDay_congr (g.ranks_updateMemberWithdrawSlots player tabId) (by simp)]
      simpa [Withdrawal.rankedSlotOf, apart] using enough master
    rw [flag] at rest
    exact rest.perm List.perm_middle

/-- The signed limit the code compares with is the stored one, or `-1` for unlimited. -/
lemma slotsPerDay_signed (limits : g.SlotLimits) (m : Member) (tabId : UInt8) :
    ((g.getRankBankTabSlotsPerDay m.rankId tabId).toInt ≤ g.slotsPerDay m tabId) ∧
      -1 ≤ (g.getRankBankTabSlotsPerDay m.rankId tabId).toInt := by
  have none_ : (0 : Int32).toInt = 0 := rfl
  unfold Guild.getRankBankTabSlotsPerDay Guild.slotsPerDay
  split
  · cases info : g.getRankInfo m.rankId with
    | none => simp [none_]
    | some rank =>
      simp only [Option.map_some, Option.getD_some, Option.bind_some, RankInfo.getBankTabSlotsPerDay]
      cases stored : rank.bankTabRightsAndSlots[tabId.toNat]? with
      | none => simp [none_]
      | some r =>
        simp only [Option.map_some, Option.getD_some]
        have known : rank ∈ g.ranks := by
          unfold Guild.getRankInfo at info
          split at info
          · exact List.mem_of_getElem? info
          · cases info
        have inRank : r ∈ rank.bankTabRightsAndSlots := by
          obtain ⟨bound, rfl⟩ := Vector.getElem?_eq_some_iff.mp stored
          exact Vector.getElem_mem bound
        rcases limits rank known r inRank with small | unlimited
        · rw [toInt_toInt32 small]
          omega
        · have value : guildWithdrawUnlimited.toInt32.toInt = -1 := rfl
          rw [unlimited, value]
          omega
  · omega

lemma remaining_slots (acc : Accounted g log) (limits : g.SlotLimits)
    (hf : g.getMember player = some m) (here : tabId.toNat < guildBankMaxTabs)
    (left : g.getMemberRemainingSlots m tabId ≠ 0) (ranked : m.rankId ≠ grGuildmaster) :
    (rankedSlotsTaken log (guidLopart player) tabId : ℤ) <
      (g.getRankBankTabSlotsPerDay m.rankId tabId).toInt := by
  have plain : m.isRank grGuildmaster = false := by simp [Member.isRank, ranked]
  have counter := acc.slots _ m tabId hf here
  obtain ⟨-, least⟩ := slotsPerDay_signed limits m tabId
  simp only [Guild.getMemberRemainingSlots, ranked, if_false, Member.getBankWithdrawValue, plain,
    Bool.false_eq_true] at left
  split at left
  · split at left
    next more =>
      have upper := (g.getRankBankTabSlotsPerDay m.rankId tabId).toInt_lt
      have counterUpper := (m.bankWithdraw[tabId.toNat]?.getD 0).toInt_lt
      -- neither side is negative enough for the difference to wrap
      rw [Int32.lt_iff_toInt_lt, Int32.toInt_sub, counter,
        Int.bmod_eq_of_le (by omega) (by omega)] at more
      have zero : (0 : Int32).toInt = 0 := rfl
      omega
    · exact absurd rfl left
  · exact absurd rfl left

/-! ### The tabs a request takes from -/

lemma mem_takenFrom (hm : tabId ∈ side.takenFrom other) :
    ∃ slotId, side = .bank tabId slotId ∧ side.sameTab other = false := by
  cases side with
  | player _ _ => cases hm
  | bank container slotId =>
    simp only [MoveItemData.takenFrom] at hm
    split at hm
    · cases hm
    next apart =>
      obtain rfl := List.mem_singleton.mp hm
      exact ⟨slotId, rfl, Bool.eq_false_iff.mpr apart⟩

lemma nodup_takenFrom (src dest : MoveItemData) : (src.takenFrom dest ++ dest.takenFrom src).Nodup := by
  have single : ∀ side other : MoveItemData, (side.takenFrom other).Nodup := by
    intro side other
    cases side with
    | player _ _ => exact List.nodup_nil
    | bank container slotId =>
      simp only [MoveItemData.takenFrom]
      split <;> simp
  refine List.nodup_append.mpr ⟨single src dest, single dest src, fun a here b there => ?_⟩
  rintro rfl
  obtain ⟨slotId, rfl, apart⟩ := mem_takenFrom here
  obtain ⟨otherSlotId, rfl, -⟩ := mem_takenFrom there
  simp [MoveItemData.sameTab] at apart

lemma slots_left (rights : side.hasWithdrawRights g player other = true)
    (hm : tabId ∈ side.takenFrom other) :
    ∃ m, g.getMember player = some m ∧ g.getMemberRemainingSlots m tabId ≠ 0 := by
  obtain ⟨slotId, rfl, apart⟩ := mem_takenFrom hm
  simp only [MoveItemData.hasWithdrawRights, apart, Bool.false_or, bne_iff_ne, ne_eq] at rights
  cases hf : g.getMember player with
  | none => simp [hf] at rights
  | some m => exact ⟨m, rfl, by simpa [hf] using rights⟩

lemma tabsTaken_left {w : World} {splitedAmount : UInt32} :
    (g.tabsTaken w player src dest splitedAmount).Nodup ∧
    ∀ tabId ∈ g.tabsTaken w player src dest splitedAmount,
      (∃ slotId, src = .bank tabId slotId ∨ dest = .bank tabId slotId) ∧
      ∃ m, g.getMember player = some m ∧ g.getMemberRemainingSlots m tabId ≠ 0 := by
  unfold Guild.tabsTaken
  have distinct := nodup_takenFrom src dest
  rcases moves : g.moved w player src dest splitedAmount with _ | ⟨srcItem, destItem, n⟩
  · simp
  · obtain ⟨-, srcRights, destRights⟩ := moved_rights moves
    have fromSrc : ∀ tabId ∈ src.takenFrom dest,
        (∃ slotId, src = .bank tabId slotId ∨ dest = .bank tabId slotId) ∧
        ∃ m, g.getMember player = some m ∧ g.getMemberRemainingSlots m tabId ≠ 0 := by
      intro tabId hm
      obtain ⟨slotId, hs, -⟩ := mem_takenFrom hm
      exact ⟨⟨slotId, Or.inl hs⟩, slots_left srcRights hm⟩
    cases destItem with
    | none => exact ⟨distinct.of_append_left, fromSrc⟩
    | some destItem =>
      refine ⟨distinct, fun tabId hm => ?_⟩
      rcases List.mem_append.mp hm with here | there
      · exact fromSrc tabId here
      · obtain ⟨slotId, hs, -⟩ := mem_takenFrom there
        exact ⟨⟨slotId, Or.inr hs⟩, slots_left (destRights rfl) there⟩

/-! ### Rank requests keep the counters -/

lemma CountersKept.modifyRank (g : Guild) (rankId : UInt8) (f : RankInfo → RankInfo) :
    CountersKept g (g.modifyRank rankId f) :=
  .of_eq (g.members_modifyRank rankId f) (by unfold Guild.modifyRank; split <;> rfl)

lemma CountersKept.changeRank (g : Guild) (lowguid : UInt32) (newRank : UInt8) :
    CountersKept g (g.changeRank lowguid newRank) where
  tabs := by unfold Guild.changeRank; split <;> rfl
  counters k m' hf := by
    rcases (g.lookup_changeRank lowguid k newRank m').mp hf with ⟨rfl, old, there, rfl⟩ | ⟨-, other⟩
    · exact ⟨old, there, rfl⟩
    · exact ⟨m', other, rfl⟩

lemma CountersKept.setLeaderGuid (g : Guild) (lowguid : UInt32) (leader : Member) :
    CountersKept g (g.setLeaderGuid lowguid leader) := by
  have retitled : CountersKept g ({ g with leaderGuid := leader.guid } : Guild) := .of_eq rfl rfl
  exact retitled.trans (.changeRank _ lowguid grGuildmaster)

lemma handleAddNewRank_kept (served : g.handleAddNewRank player name = .ok g') :
    CountersKept g g' := by
  unfold Guild.handleAddNewRank at served
  split at served
  · exact Except.ok.inj served ▸ .refl g
  · split at served
    · cases served
    · obtain rfl := Except.ok.inj served
      exact .of_eq (by unfold Guild.createRank; split <;> rfl) (by unfold Guild.createRank; split <;> rfl)

lemma handleUpdateRank_kept {id : UInt32} {up : Bool}
    (served : g.handleUpdateRank player id up = .ok g') : CountersKept g g' := by
  unfold Guild.handleUpdateRank at served
  split at served
  · cases served
  · dsimp only at served
    split at served
    · split at served
      · exact Except.ok.inj served ▸ .of_eq rfl rfl
      · exact Except.ok.inj served ▸ .refl g
    · exact Except.ok.inj served ▸ .refl g

lemma setRankBankTabRightsAndSlots_kept (g : Guild) (rankId : UInt8) (r : GuildBankRightsAndSlots) :
    CountersKept g (g.setRankBankTabRightsAndSlots rankId r) := by
  unfold Guild.setRankBankTabRightsAndSlots
  split
  · exact .refl g
  · exact .modifyRank g rankId _

lemma handleSetRankInfo_kept {rankId : UInt8} {rights moneyPerDay : UInt32}
    {rightsAndSlots : Vector (UInt8 × UInt32) guildBankMaxTabs}
    (served : g.handleSetRankInfo player rankId name rights moneyPerDay rightsAndSlots = .ok g') :
    CountersKept g g' := by
  unfold Guild.handleSetRankInfo at served
  split at served
  · cases served
  · obtain rfl := Except.ok.inj served
    refine (CountersKept.modifyRank g rankId fun r =>
      ((r.setName name).setRights rights).setBankMoneyPerDay moneyPerDay).trans ?_
    generalize g.modifyRank rankId _ = g
    generalize rightsAndSlots.toList.zipIdx = tabs
    induction tabs generalizing g with
    | nil => exact .refl g
    | cons tab tabs ih =>
      exact (setRankBankTabRightsAndSlots_kept g rankId _).trans (ih _)

lemma handleUpdateMemberRank_kept {guid : UInt64} {demote : Bool}
    (served : g.handleUpdateMemberRank player guid demote = .ok g') : CountersKept g g' := by
  cases demote with
  | true =>
    simp only [Guild.handleUpdateMemberRank, if_true] at served
    split at served
    · cases served
    · split at served
      · split at served
        · cases served
        · split at served
          · cases served
          · split at served
            · cases served
            · exact Except.ok.inj served ▸ .changeRank g _ _
      · exact Except.ok.inj served ▸ .refl g
  | false =>
    simp only [Guild.handleUpdateMemberRank, Bool.false_eq_true, if_false] at served
    split at served
    · cases served
    · split at served
      · split at served
        · cases served
        · split at served
          · cases served
          · exact Except.ok.inj served ▸ .changeRank g _ _
      · exact Except.ok.inj served ▸ .refl g

lemma handleSetMemberRank_kept {guid : UInt64} {rank : UInt32}
    (served : g.handleSetMemberRank player guid rank = .ok g') : CountersKept g g' := by
  unfold Guild.handleSetMemberRank at served
  split at served
  · exact Except.ok.inj served ▸ .refl g
  · dsimp only at served
    generalize g.hasRankRight player _ = right at served
    cases right with
    | false => cases served
    | true =>
      simp only [Bool.not_true, Bool.false_eq_true, if_false] at served
      split at served
      · cases served
      · exact Except.ok.inj served ▸ .changeRank g _ _

lemma handleSetNewGuildMaster_kept (served : g.handleSetNewGuildMaster player name = .ok g') :
    CountersKept g g' := by
  unfold Guild.handleSetNewGuildMaster at served
  split at served
  · cases served
  · split at served
    · exact Except.ok.inj served ▸ (CountersKept.setLeaderGuid g _ _).trans (.changeRank _ _ _)
    · exact Except.ok.inj served ▸ .refl g

private lemma kept_of_answer {g : Guild} (answer : Except Refusal Guild)
    (keeps : ∀ g', answer = .ok g' → CountersKept g g') :
    CountersKept g ((settle g (answer.map some)).getD g) := by
  cases answer with
  | ok g' => exact keeps g' rfl
  | error e => exact .refl g

lemma handle_kept (w : World) (g : Guild) (r : RankRequest) (keeps : r.keepsMembers = true) :
    CountersKept g ((settle g (g.handle w r)).getD g) := by
  cases r with
  | addRank player name => exact kept_of_answer _ fun _ => handleAddNewRank_kept
  | removeRank player rankId =>
    refine kept_of_answer _ fun g' served => ?_
    unfold Guild.handleRemoveRank at served
    split at served
    · exact Except.ok.inj served ▸ .of_eq rfl rfl
    · exact Except.ok.inj served ▸ .refl g
  | updateRank player id up => exact kept_of_answer _ fun _ => handleUpdateRank_kept
  | setRankInfo player rankId name rights money tabs =>
    exact kept_of_answer _ fun _ => handleSetRankInfo_kept
  | updateMemberRank player guid demote =>
    exact kept_of_answer _ fun _ => handleUpdateMemberRank_kept
  | setMemberRank player guid rank => exact kept_of_answer _ fun _ => handleSetMemberRank_kept
  | changeMemberRank guid rank =>
    simp only [Guild.handle, settle_ok, Option.getD_some, Guild.changeMemberRank]
    split
    · exact .changeRank g _ _
    · exact .refl g
  | setNewGuildMaster player name => exact kept_of_answer _ fun _ => handleSetNewGuildMaster_kept
  | accept _ => cases keeps
  | enlist _ => cases keeps
  | leave _ => cases keeps
  | remove _ _ => cases keeps
  | delete _ => cases keeps
  | disband _ => cases keeps

/-! ### Gold -/

lemma count_gold (acc : Accounted g log) (player amount : UInt64) :
    Accounted (g.modifyMember player fun m => m.updateBankWithdrawValue guildBankMaxTabs amount.toUInt32)
      (.gold (guidLopart player) amount.toNat :: log) where
  tabs := by simpa using acc.tabs
  money k m' after := by
    rw [goldTaken_cons]
    rcases (lookup_modifyMember g player _ k m').mp after with ⟨rfl, old, there, rfl⟩ | ⟨apart, other⟩
    · rw [bankWithdraw_update old guildBankMaxTabs (le_refl _), if_pos rfl, acc.money _ old there,
        toInt32_toUInt32, Withdrawal.goldOf, if_pos rfl, Int32.ofNat_add, Int32.add_comm]
    · rw [acc.money k m' other, Withdrawal.goldOf, if_neg (Ne.symm apart), Nat.zero_add]
  slots k m' tabId after here := by
    rw [rankedSlotsTaken_cons]
    simp only [Withdrawal.rankedSlotOf, Nat.zero_add]
    rcases (lookup_modifyMember g player _ k m').mp after with ⟨rfl, old, there, rfl⟩ | ⟨-, other⟩
    · rw [bankWithdraw_update old guildBankMaxTabs (le_refl _), if_neg (by omega)]
      exact acc.slots _ old tabId there here
    · exact acc.slots k m' tabId other here

lemma withdraw_granted {t : Treasury} {repair : Bool}
    (granted : (t.handleMemberWithdrawMoney player amount repair).2 = true) :
    (∃ m, t.guild.getMember player = some m ∧
      ¬ (t.guild.getMemberRemainingMoney m).toInt64.toUInt64 < min amount maxMoneyAmount) ∧
    SameBooks (t.guild.modifyMember player fun m =>
        m.updateBankWithdrawValue guildBankMaxTabs (min amount maxMoneyAmount).toUInt32)
      (t.handleMemberWithdrawMoney player amount repair).1.guild := by
  revert granted
  unfold Treasury.handleMemberWithdrawMoney
  generalize min amount maxMoneyAmount = clamped
  dsimp only
  split
  · exact fun refused => absurd refused Bool.false_ne_true
  · split
    · exact fun refused => absurd refused Bool.false_ne_true
    next m hf =>
      split
      · exact fun refused => absurd refused Bool.false_ne_true
      next enough =>
        generalize (if repair = true then (t.gold player, true)
          else modifyMoney (t.gold player) clamped.toInt64) = paid
        split
        · exact fun refused => absurd refused Bool.false_ne_true
        · refine fun _ => ⟨⟨m, hf, enough⟩, ?_⟩
          dsimp only [Guild.modifyBankMoney]
          split
          · exact ⟨rfl, rfl, rfl⟩
          · split <;> exact ⟨rfl, rfl, rfl⟩

lemma withdraw_refused {t : Treasury} {repair : Bool}
    (refused : (t.handleMemberWithdrawMoney player amount repair).2 = false) :
    (t.handleMemberWithdrawMoney player amount repair).1 = t := by
  rcases t.withdraw_cases player amount repair with hs | ⟨t', granted, -⟩
  · rw [hs]
  · rw [granted] at refused
    cases refused

/-- A withdrawal within what remains keeps the day's gold within the limit, as long as the
gold taken before is not more than `2 ^ 31` beyond it. -/
lemma gold_within_limit (acc : Accounted g log) (hf : g.getMember player = some m)
    (ranked : m.rankId ≠ grGuildmaster) (positive : 0 < amount.toNat)
    (enough : ¬ (g.getMemberRemainingMoney m).toInt64.toUInt64 < amount)
    (near : goldTaken log (guidLopart player) ≤ g.moneyPerDay m + 2 ^ 31) :
    goldTaken log (guidLopart player) + amount.toNat ≤ g.moneyPerDay m := by
  have plain : m.isRank grGuildmaster = false := by simp [Member.isRank, ranked]
  obtain ⟨limit, signed, stored⟩ : ∃ limit : UInt32,
      g.getRankBankMoneyPerDay m.rankId = limit.toInt32 ∧ g.moneyPerDay m = limit.toNat := by
    unfold Guild.getRankBankMoneyPerDay Guild.moneyPerDay
    cases g.getRankInfo m.rankId with
    | none => exact ⟨0, rfl, rfl⟩
    | some rank => exact ⟨rank.bankMoneyPerDay, rfl, rfl⟩
  have counter := acc.money _ m hf
  have nothing : ¬ ((0 : Int32).toInt64.toUInt64 < amount) → False := by
    intro none_
    exact none_ positive
  simp only [Guild.getMemberRemainingMoney, ranked, if_false, Member.getBankWithdrawValue, plain,
    Bool.false_eq_true, signed, counter] at enough
  split at enough
  · split at enough
    next more =>
      have value := toInt_sub_counter limit (goldTaken log (guidLopart player))
      generalize limit.toInt32 - Int32.ofNat (goldTaken log (guidLopart player)) = remaining at *
      have above : 0 < remaining.toInt := by
        rw [Int32.lt_iff_toInt_lt] at more
        exact more
      have below := remaining.toInt_lt
      have word := toNat_toUInt64 remaining.toInt64
      rw [Int32.toInt_toInt64] at word
      rw [UInt64.lt_iff_toNat_lt] at enough
      -- the remainder is below the sign bit, so the counter has not run past the limit
      omega
    · exact absurd enough nothing
  · exact absurd enough nothing

end WorldServer.Guilds
