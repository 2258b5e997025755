import WorldServer.Guilds.Counters

/-!
# The daily limits of the guild bank

What a member who is not a guild master takes stays within the limits of the rank
the member then has, along every day.
-/
namespace WorldServer.Guilds

open WorldServer.Lib WorldServer.Entities

/-! ### One request of the day -/

namespace Day

/-- The limits hold for what a request takes, the gold limit as long as the gold taken
before is not more than `2 ^ 31` beyond it. -/
structure WithdrawLaw (w : World) (d : Day) (r : DayRequest) : Prop where
  gold : ∀ lowguid amount m, .gold lowguid amount ∈ d.withdrawals w r → 0 < amount →
    d.treasury.guild.members.lookup lowguid = some m → m.rankId ≠ grGuildmaster →
    goldTaken d.log lowguid ≤ d.treasury.guild.moneyPerDay m + 2 ^ 31 →
    goldTaken (d.serve w r).log lowguid ≤ d.treasury.guild.moneyPerDay m
  slots : ∀ lowguid tabId asMaster m, .slot lowguid tabId asMaster ∈ d.withdrawals w r →
    d.treasury.guild.members.lookup lowguid = some m → m.rankId ≠ grGuildmaster →
    rankedSlotsTaken (d.serve w r).log lowguid tabId ≤ d.treasury.guild.slotsPerDay m tabId

/-- The ranks' slot limits are in range when a request arrives. -/
def InRange (d : Day) (_ : DayRequest) : Prop := d.treasury.guild.SlotLimits

/-- The counters agree with the log. -/
def Counted (d : Day) : Prop := Accounted d.treasury.guild d.log

lemma answer_sides (w : World) (t : Treasury) (r : DayRequest)
    {player : UInt64} {src dest : MoveItemData} {splitedAmount : UInt32}
    (named : sides t.guild r = some (player, src, dest, splitedAmount)) :
    (answer w t r).guild = t.guild.moveItems w player src dest splitedAmount := by
  cases r with
  | money _ => cases named
  | rank _ _ => cases named
  | swapItems p tabId slotId destTabId destSlotId n =>
    simp only [sides] at named
    simp only [answer, Guild.swapItems]
    split at named
    · cases named
    next valid =>
      split at named
      · cases named
      next apart =>
        cases named
        rw [if_neg valid, if_neg apart]
  | swapItemsWithInventory p toChar tabId slotId item canStoreItem n =>
    simp only [sides] at named
    simp only [answer, Guild.swapItemsWithInventory]
    split at named
    · cases named
    next valid =>
      rw [if_neg valid]
      split at named
      next out =>
        cases named
        rw [if_pos out]
      next into =>
        cases named
        rw [if_neg into]

lemma sides_inBank {g : Guild} (few : g.bankTabs.length ≤ guildBankMaxTabs) {r : DayRequest}
    {player : UInt64} {src dest : MoveItemData} {splitedAmount : UInt32}
    (named : sides g r = some (player, src, dest, splitedAmount)) {tabId slotId : UInt8}
    (side : src = .bank tabId slotId ∨ dest = .bank tabId slotId) :
    tabId.toNat < guildBankMaxTabs := by
  have bound : ∀ tabId : UInt8, ¬ g.getPurchasedTabsSize ≤ tabId → tabId.toNat < guildBankMaxTabs := by
    intro tabId purchased
    rw [UInt8.le_iff_toNat_le, Guild.getPurchasedTabsSize, UInt8.toNat_ofNat'] at purchased
    omega
  cases r with
  | money _ => cases named
  | rank _ _ => cases named
  | swapItems p tabId slotId destTabId destSlotId n =>
    simp only [sides] at named
    split at named
    · cases named
    next valid =>
      rw [not_or, not_or, not_or] at valid
      split at named
      · cases named
      · cases named
        rcases side with here | there
        · cases here
          exact bound _ valid.1
        · cases there
          exact bound _ valid.2.2.1
  | swapItemsWithInventory p toChar tabId slotId item canStoreItem n =>
    simp only [sides] at named
    split at named
    · cases named
    next valid =>
      rw [not_or] at valid
      split at named
      · cases named
        rcases side with here | there
        · cases here
          exact bound _ valid.2
        · cases there
      · cases named
        rcases side with here | there
        · cases here
        · cases there
          exact bound _ valid.2

/-- What each kind of request comes to: money, a move between two sides, a rank request,
or nothing. -/
lemma serve_cases (w : World) (d : Day) (r : DayRequest) :
    (∃ q, r = .money q) ∨ (∃ q keeps, r = .rank q keeps) ∨
    ((d.serve w r).treasury.guild = d.treasury.guild ∧ d.withdrawals w r = []) ∨
    ∃ player src dest splitedAmount, sides d.treasury.guild r = some (player, src, dest, splitedAmount) ∧
      d.withdrawals w r =
        (d.treasury.guild.tabsTaken w player src dest splitedAmount).map fun tabId =>
          .slot (guidLopart player) tabId (d.treasury.guild.isMaster player) := by
  cases r with
  | money q => exact Or.inl ⟨q, rfl⟩
  | rank q keeps => exact Or.inr (Or.inl ⟨q, keeps, rfl⟩)
  | swapItems player tabId slotId destTabId destSlotId n =>
    refine Or.inr (Or.inr ?_)
    cases named : sides d.treasury.guild (.swapItems player tabId slotId destTabId destSlotId n) with
    | none =>
      refine Or.inl ⟨?_, by simp only [withdrawals, named]⟩
      simp only [sides] at named
      simp only [serve, answer, Guild.swapItems]
      split at named
      next out => rw [if_pos out]
      next inside =>
        split at named
        next hs => rw [if_neg inside, if_pos hs]
        · cases named
    | some found => exact Or.inr ⟨_, _, _, _, rfl, by simp only [withdrawals, named]⟩
  | swapItemsWithInventory player toChar tabId slotId item canStoreItem n =>
    refine Or.inr (Or.inr ?_)
    cases named : sides d.treasury.guild
        (.swapItemsWithInventory player toChar tabId slotId item canStoreItem n) with
    | none =>
      refine Or.inl ⟨?_, by simp only [withdrawals, named]⟩
      simp only [sides] at named
      simp only [serve, answer, Guild.swapItemsWithInventory]
      split at named
      next out => rw [if_pos out]
      · split at named <;> cases named
    | some found => exact Or.inr ⟨_, _, _, _, rfl, by simp only [withdrawals, named]⟩

private lemma rankedSlotsTaken_map (tabs : List UInt8) (k : UInt32) (asMaster : Bool)
    (tabId : UInt8) :
    rankedSlotsTaken (tabs.map (.slot k · asMaster)) k tabId ≤ tabs.count tabId := by
  induction tabs with
  | nil => exact Nat.zero_le _
  | cons tab tabs ih =>
    have one : (Withdrawal.slot k tab asMaster).rankedSlotOf k tabId ≤ if tab = tabId then 1 else 0 := by
      simp only [Withdrawal.rankedSlotOf, true_and]
      split
      next both => rw [if_pos both.1]
      · exact Nat.zero_le _
    simp only [List.map_cons, rankedSlotsTaken_cons, List.count_cons, beq_iff_eq]
    omega

lemma move_step {w : World} {d : Day} {r : DayRequest} (counted : d.Counted)
    (limits : d.treasury.guild.SlotLimits) {player : UInt64} {src dest : MoveItemData}
    {splitedAmount : UInt32}
    (named : sides d.treasury.guild r = some (player, src, dest, splitedAmount))
    (taken : d.withdrawals w r =
      (d.treasury.guild.tabsTaken w player src dest splitedAmount).map fun tabId =>
        .slot (guidLopart player) tabId (d.treasury.guild.isMaster player)) :
    (d.serve w r).Counted ∧ d.WithdrawLaw w r := by
  obtain ⟨distinct, allowed⟩ :
      (d.treasury.guild.tabsTaken w player src dest splitedAmount).Nodup ∧ _ := tabsTaken_left
  have books := moveItems_books w d.treasury.guild player src dest splitedAmount
  rw [← answer_sides w d.treasury r named] at books
  simp only [Counted, serve]
  rw [taken]
  generalize d.treasury.guild.tabsTaken w player src dest splitedAmount = tabs at *
  have room : ∀ tabId ∈ tabs, tabId.toNat < guildBankMaxTabs := fun tabId hm => by
    obtain ⟨⟨slotId, side⟩, -⟩ := allowed tabId hm
    exact sides_inBank counted.tabs named side
  constructor
  · cases tabs with
    | nil => exact counted.kept books.kept
    | cons tabId tabs =>
      obtain ⟨m, hf, -⟩ := (allowed tabId List.mem_cons_self).2
      have flag : d.treasury.guild.isMaster player = m.isRank grGuildmaster := by
        simp [Guild.isMaster, hf]
      rw [flag]
      refine (countSlots_accounted distinct counted hf fun other hm => ?_).kept books.kept
      obtain ⟨m', hf', left⟩ := (allowed other hm).2
      obtain rfl : m = m' := Option.some.inj (hf.symm.trans hf')
      exact ⟨room other hm, remaining_slots counted limits hf (room other hm) left⟩
  · constructor
    · intro lowguid amount m hm
      rw [taken] at hm
      simp at hm
    · intro lowguid tabId asMaster m hm hf ranked
      rw [taken] at hm
      obtain ⟨tab, inTabs, hs⟩ := List.mem_map.mp hm
      cases hs
      obtain ⟨m', hf', left⟩ := (allowed tabId inTabs).2
      obtain rfl : m = m' := Option.some.inj (hf.symm.trans hf')
      have before := remaining_slots counted limits hf' (room tabId inTabs) left ranked
      have stored := (slotsPerDay_signed limits m tabId).1
      -- every tab is taken from at most once in one request
      have once : rankedSlotsTaken (tabs.map fun tab =>
          Withdrawal.slot (guidLopart player) tab (d.treasury.guild.isMaster player))
          (guidLopart player) tabId ≤ 1 := by
        exact (rankedSlotsTaken_map tabs _ _ tabId).trans
          (List.nodup_iff_count_le_one.mp distinct tabId)
      have sum : rankedSlotsTaken (d.serve w r).log (guidLopart player) tabId =
          rankedSlotsTaken (tabs.map fun tab =>
            Withdrawal.slot (guidLopart player) tab (d.treasury.guild.isMaster player))
            (guidLopart player) tabId + rankedSlotsTaken d.log (guidLopart player) tabId := by
        simp [serve, taken, rankedSlotsTaken]
      omega

lemma gold_step {t : Treasury} {log : List Withdrawal} (acc : Accounted t.guild log)
    {player amount : UInt64} {repair : Bool}
    (granted : (t.handleMemberWithdrawMoney player amount repair).2 = true) :
    Accounted (t.handleMemberWithdrawMoney player amount repair).1.guild
      (.gold (guidLopart player) (min amount maxMoneyAmount).toNat :: log) ∧
    ∀ m, t.guild.getMember player = some m → m.rankId ≠ grGuildmaster →
      0 < (min amount maxMoneyAmount).toNat →
      goldTaken log (guidLopart player) ≤ t.guild.moneyPerDay m + 2 ^ 31 →
      goldTaken log (guidLopart player) + (min amount maxMoneyAmount).toNat ≤
        t.guild.moneyPerDay m := by
  obtain ⟨⟨m, hf, enough⟩, books⟩ := withdraw_granted granted
  refine ⟨(count_gold acc player (min amount maxMoneyAmount)).kept books.kept, ?_⟩
  intro m' hf' ranked positive near
  obtain rfl : m = m' := Option.some.inj (hf.symm.trans hf')
  exact gold_within_limit acc hf ranked positive enough near

lemma money_kept (t : Treasury) (r : MoneyRequest) (none_ : (r.takes && (t.serve r).2) = false) :
    CountersKept t.guild (t.serve r).1.guild := by
  have refused : ∀ player amount repair,
      (t.handleMemberWithdrawMoney player amount repair).2 = false →
      CountersKept t.guild (t.handleMemberWithdrawMoney player amount repair).1.guild := by
    intro player amount repair no
    rw [withdraw_refused no]
    exact .refl _
  cases r with
  | deposit player money nearBank =>
    simp only [Treasury.serve, Treasury.handleGuildBankDepositMoney]
    split
    · exact .of_eq rfl rfl
    · exact .refl _
  | cashFlow player guildGold => exact .of_eq rfl rfl
  | repair player costs => exact refused player costs.toUInt64 true none_
  | withdraw player money nearBank =>
    simp only [MoneyRequest.takes, Bool.true_and, Treasury.serve,
      Treasury.handleGuildBankWithdrawMoney] at none_ ⊢
    split
    next asked =>
      rw [if_pos asked] at none_
      exact refused player money false none_
    · exact .refl _

lemma money_step {w : World} {d : Day} {q : MoneyRequest} (counted : d.Counted) :
    (d.serve w (.money q)).Counted ∧ d.WithdrawLaw w (.money q) := by
  cases taken : q.takes && (d.treasury.serve q).2 with
  | false =>
    have nothing : d.withdrawals w (.money q) = [] := by
      simp [withdrawals, taken]
    constructor
    · have kept := counted.kept (money_kept d.treasury q taken)
      simpa only [Counted, serve, answer, nothing, List.nil_append] using kept
    · constructor
      · intro _ _ _ hm
        rw [nothing] at hm
        cases hm
      · intro _ _ _ _ hm
        rw [nothing] at hm
        cases hm
  | true =>
    -- a granted withdrawal is the one call, personal or for a repair
    obtain ⟨repair, call⟩ : ∃ repair, d.treasury.serve q =
        d.treasury.handleMemberWithdrawMoney q.player q.amount repair := by
      rw [Bool.and_eq_true] at taken
      cases q with
      | deposit _ _ _ => cases taken.1
      | cashFlow _ _ => cases taken.1
      | repair player costs => exact ⟨true, rfl⟩
      | withdraw player money nearBank =>
        refine ⟨false, ?_⟩
        have granted := taken.2
        simp only [Treasury.serve, Treasury.handleGuildBankWithdrawMoney] at granted ⊢
        split at granted
        next asked => exact if_pos asked
        · cases granted
    have granted : (d.treasury.handleMemberWithdrawMoney q.player q.amount repair).2 = true := by
      rw [← call]
      exact (Bool.and_eq_true _ _ ▸ taken).2
    obtain ⟨after, within⟩ := gold_step counted granted
    have log : d.withdrawals w (.money q) =
        [.gold (guidLopart q.player) (min q.amount maxMoneyAmount).toNat] := by
      simp only [withdrawals, taken, if_true]
    constructor
    · simpa only [Counted, serve, log, answer, call, List.singleton_append] using after
    · constructor
      · intro lowguid amount m hm positive hf ranked near
        rw [log, List.mem_singleton] at hm
        cases hm
        have limit := within m hf ranked positive near
        simp only [serve, log, List.singleton_append, goldTaken_cons, Withdrawal.goldOf, if_true]
        omega
      · intro _ _ _ _ hm
        rw [log, List.mem_singleton] at hm
        cases hm

lemma rank_step {w : World} {d : Day} {q : RankRequest} {keeps : q.keepsMembers = true}
    (counted : d.Counted) :
    (d.serve w (.rank q keeps)).Counted ∧ d.WithdrawLaw w (.rank q keeps) := by
  refine ⟨Accounted.kept counted (handle_kept w d.treasury.guild q keeps), ?_⟩
  constructor
  · intro _ _ _ hm
    cases hm
  · intro _ _ _ _ hm
    cases hm

lemma serve_step {w : World} {d : Day} {r : DayRequest} (counted : d.Counted)
    (limits : d.InRange r) : (d.serve w r).Counted ∧ d.WithdrawLaw w r := by
  rcases serve_cases w d r with ⟨q, rfl⟩ | ⟨q, keeps, rfl⟩ | ⟨hs, nothing⟩ | ⟨_, _, _, _, named, taken⟩
  · exact money_step counted
  · exact rank_step counted
  · constructor
    · change Accounted (d.serve w r).treasury.guild (d.withdrawals w r ++ d.log)
      rw [hs, nothing]
      exact counted
    · constructor
      · intro _ _ _ hm
        rw [nothing] at hm
        cases hm
      · intro _ _ _ _ hm
        rw [nothing] at hm
        cases hm
  · exact move_step counted limits named taken

lemma start_counted (t : Treasury) (few : t.guild.bankTabs.length ≤ guildBankMaxTabs) :
    (start t).Counted := by
  have zeroed : ∀ k m, (start t).treasury.guild.members.lookup k = some m →
      m.bankWithdraw = Vector.replicate (guildBankMaxTabs + 1) 0 := by
    intro k m hf
    simp only [start, Guild.resetTimes, Table.lookup_mapValues, Option.map_eq_some_iff] at hf
    obtain ⟨old, -, rfl⟩ := hf
    rfl
  exact {
    tabs := few
    money := fun k m hf => by
      rw [zeroed k m hf]
      rfl
    slots := fun k m tabId hf here => by
      have inside : tabId.toNat < guildBankMaxTabs + 1 := by omega
      rw [zeroed k m hf]
      simp [inside, start, rankedSlotsTaken] }

/-- Along every day of withdrawals and rank changes, whoever is not a guild master takes
no more gold that day than the rank's limit then is, counting all gold taken since the
reset, and no more slots from a tab than the rank's limit for it, counting those taken
while not a guild master. -/
theorem withdrawLaw_along (w : World) (t : Treasury)
    (few : t.guild.bankTabs.length ≤ guildBankMaxTabs) (requests : List DayRequest)
    (limits : Along (serve w) InRange (start t) requests) :
    Along (serve w) (WithdrawLaw w) (start t) requests :=
  along_of_invariant Counted (fun _ _ counted inRange => (serve_step counted inRange).1)
    (fun _ _ counted inRange => (serve_step counted inRange).2) (start_counted t few) limits

private def stackable20 : World :=
  { stackable := fun _ => 20, undeletableLevel := 0, allowTwoSideInteraction := false
    allowMultipleGuildMaster := false, teamOf := fun _ => 0, defaultRankName := fun _ => "" }

/-- The lowest rank may see the first tab, take one slot of it a day, and 100 copper. -/
private def oneSlotRank (rankId : UInt8) : RankInfo :=
  { rankId := rankId, name := "", rights := grRightWithdrawGold ||| grRightEmpty
    bankMoneyPerDay := 100
    bankTabRightsAndSlots := (Vector.replicate guildBankMaxTabs {}).setIfInBounds 0
      { tabId := 0, rights := guildBankRightViewTab, slots := 1 } }

/-- A guild master and an initiate, with two stacks in the bank. -/
private def oneTab : Treasury :=
  { guild :=
      { leaderGuid := 1, level := 1, bankMoney := 1000
        ranks := (List.range 5).map fun i => oneSlotRank (UInt8.ofNat i)
        members := (AList.singleton 1 { guid := 1, name := "a", rankId := 0 }).insert 2
          { guid := 2, name := "b", rankId := 4 }
        bankTabs := Bank.setItem (Bank.setItem [Vector.replicate guildBankMaxSlots none]
          0 0 (some ⟨10, 5, false⟩)) 0 1 (some ⟨11, 3, false⟩) }
    gold := fun _ => 100 }

private def take (player : UInt64) (slotId : UInt8) : DayRequest :=
  .swapItemsWithInventory player true 0 slotId none (fun _ _ => true) 0

instance (d : Day) (r : DayRequest) : Decidable (d.InRange r) :=
  inferInstanceAs (Decidable (∀ rank ∈ d.treasury.guild.ranks, ∀ r ∈ rank.bankTabRightsAndSlots,
    r.slots.toNat < 2 ^ 31 ∨ r.slots = guildWithdrawUnlimited))

/-- The initiate takes gold and a slot, and is promoted in between. -/
theorem withdrawLaw_along_oneTab :
    Along (serve stackable20) (WithdrawLaw stackable20) (start oneTab)
      [.money (.withdraw 2 60 true), .rank (.updateMemberRank 1 2 false) rfl, take 2 0,
        .money (.repair 2 60)] :=
  withdrawLaw_along stackable20 oneTab (by decide) _
    ⟨by decide +kernel, by decide +kernel, by decide +kernel, by decide +kernel, trivial⟩


/-- The slots a guild master takes are not counted against the rank the master is given
later. -/
theorem master_slots_not_counted :
    ¬ ∀ (w : World) (t : Treasury), t.guild.bankTabs.length ≤ guildBankMaxTabs →
      ∀ requests, Along (serve w) InRange (start t) requests →
      Along (serve w) (fun d r => ∀ lowguid tabId asMaster m,
        .slot lowguid tabId asMaster ∈ d.withdrawals w r →
        d.treasury.guild.members.lookup lowguid = some m → m.rankId ≠ grGuildmaster →
        slotsTaken (d.serve w r).log lowguid tabId ≤ d.treasury.guild.slotsPerDay m tabId)
      (start t) requests := by
  intro claim
  obtain ⟨-, -, third, -⟩ := claim stackable20 oneTab (by decide)
    [take 1 0, .rank (.setNewGuildMaster 1 "b") rfl, take 1 1]
    ⟨by decide +kernel, by decide +kernel, by decide +kernel, trivial⟩
  have within := third 1 0 false { guid := 1, name := "a", rankId := 4 }
    (by decide +kernel) (by decide +kernel) (by decide)
  revert within
  decide +kernel

end Day

end WorldServer.Guilds
