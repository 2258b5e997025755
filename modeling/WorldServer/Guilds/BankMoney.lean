import WorldServer.Entities.Money
import WorldServer.Guilds.State

/-!
# Money in the guild bank

A deposit and a withdrawal change the bank and the player's gold by separate
calls. The bank has no cap of its own; a withdrawal is bounded by the bank, by the
member's remaining daily amount and by the player's gold cap.
-/
namespace WorldServer.Guilds

open WorldServer.Lib WorldServer.Entities

/-! ### The daily counters -/

namespace Member

def updateBankWithdrawValue (m : Member) (tabId : ℕ) (amount : UInt32) : Member :=
  -- the signed counter is added to as an unsigned word
  { m with bankWithdraw :=
      m.bankWithdraw.setIfInBounds tabId ((m.bankWithdraw[tabId]?.getD 0) + amount.toInt32) }

/-- The guild master's counters are not read: both unlimited values are `-1`. -/
def getBankWithdrawValue (m : Member) (tabId : ℕ) : Int32 :=
  if m.isRank grGuildmaster then guildWithdrawUnlimited.toInt32 else m.bankWithdraw[tabId]?.getD 0

end Member

namespace Guild

def modifyMember (g : Guild) (guid : UInt64) (f : Member → Member) : Guild :=
  match g.getMember guid with
  | some member => { g with members := g.members.insert (guidLopart guid) (f member) }
  | none => g

/-- What may still be taken today, as a signed word; `-1` is no limit. -/
def getMemberRemainingMoney (g : Guild) (member : Member) : Int32 :=
  if member.rankId = grGuildmaster then guildWithdrawUnlimited.toInt32
  else if g.getRankRights member.rankId &&& (grRightWithdrawRepair ||| grRightWithdrawGold) ≠ 0 then
    let remaining := g.getRankBankMoneyPerDay member.rankId -
      member.getBankWithdrawValue guildBankMaxTabs
    if 0 < remaining then remaining else 0
  else 0

def getMemberRemainingSlots (g : Guild) (member : Member) (tabId : UInt8) : Int32 :=
  if member.rankId = grGuildmaster then guildWithdrawUnlimited.toInt32
  else if g.getRankBankTabRights member.rankId tabId &&& guildBankRightViewTab ≠ 0 then
    let remaining := g.getRankBankTabSlotsPerDay member.rankId tabId -
      member.getBankWithdrawValue tabId.toNat
    if 0 < remaining then remaining else 0
  else 0

def updateMemberWithdrawSlots (g : Guild) (guid : UInt64) (tabId : UInt8) : Guild :=
  g.modifyMember guid fun member =>
    if member.rankId ≠ grGuildmaster ∧
        member.getBankWithdrawValue tabId.toNat < g.getRankBankTabSlotsPerDay member.rankId tabId then
      member.updateBankWithdrawValue tabId.toNat 1
    else member

def memberHasTabRights (g : Guild) (guid : UInt64) (tabId : UInt8) (rights : UInt8) : Bool :=
  match g.getMember guid with
  | some member =>
    member.isRank grGuildmaster || g.leaderGuid == guid ||
      g.getRankBankTabRights member.rankId tabId &&& rights == rights
  | none => false

def modifyBankMoney (g : Guild) (amount : UInt64) (add : Bool) : Guild × Bool :=
  if add then ({ g with bankMoney := g.bankMoney + amount }, true)
  else if g.bankMoney < amount then (g, false)
  else ({ g with bankMoney := g.bankMoney - amount }, true)

section

variable (g : Guild) (guid : UInt64)

@[simp] lemma bankMoney_modifyMember (f : Member → Member) :
    (g.modifyMember guid f).bankMoney = g.bankMoney := by
  unfold modifyMember
  split <;> rfl

@[simp] lemma bankTabs_modifyMember (f : Member → Member) :
    (g.modifyMember guid f).bankTabs = g.bankTabs := by
  unfold modifyMember
  split <;> rfl

@[simp] lemma ranks_modifyMember (f : Member → Member) :
    (g.modifyMember guid f).ranks = g.ranks := by
  unfold modifyMember
  split <;> rfl

@[simp] lemma bankTabs_updateMemberWithdrawSlots (tabId : UInt8) :
    (g.updateMemberWithdrawSlots guid tabId).bankTabs = g.bankTabs :=
  g.bankTabs_modifyMember guid _

@[simp] lemma ranks_updateMemberWithdrawSlots (tabId : UInt8) :
    (g.updateMemberWithdrawSlots guid tabId).ranks = g.ranks :=
  g.ranks_modifyMember guid _

end

end Guild

/-! ### Deposits and withdrawals -/

/-- A guild and the gold of every player. -/
structure Treasury where
  guild : Guild
  gold : UInt64 → UInt64

namespace Treasury

def handleMemberDepositMoney (t : Treasury) (player amount : UInt64) (cashFlow : Bool) : Treasury :=
  { guild := (t.guild.modifyBankMoney amount true).1
    -- a cash flow award does not come out of the player's gold
    gold := if cashFlow then t.gold
      else Function.update t.gold player (modifyMoney (t.gold player) (-amount.toInt64)).1 }

def handleMemberWithdrawMoney (t : Treasury) (player amount : UInt64) (repair : Bool) :
    Treasury × Bool :=
  let amount := min amount maxMoneyAmount
  if t.guild.bankMoney < amount then (t, false)
  else match t.guild.getMember player with
    | none => (t, false)
    | some member =>
      if (t.guild.getMemberRemainingMoney member).toInt64.toUInt64 < amount then (t, false)
      else
        -- money spent on repairs is never the player's
        let paid := if repair then (t.gold player, true)
          else modifyMoney (t.gold player) amount.toInt64
        if !paid.2 then (t, false)
        else
          let guild := t.guild.modifyMember player fun m =>
            m.updateBankWithdrawValue guildBankMaxTabs amount.toUInt32
          ({ guild := (guild.modifyBankMoney amount false).1
             gold := Function.update t.gold player paid.1 }, true)

/-- The packet handler's checks; `nearBank` is the interaction with the bank object. -/
def handleGuildBankDepositMoney (t : Treasury) (player money : UInt64) (nearBank : Bool) :
    Treasury × Bool :=
  if nearBank && money != 0 && hasEnoughMoney (t.gold player) money then
    (t.handleMemberDepositMoney player money false, true)
  else (t, false)

def handleGuildBankWithdrawMoney (t : Treasury) (player money : UInt64) (nearBank : Bool) :
    Treasury × Bool :=
  if money != 0 && nearBank then t.handleMemberWithdrawMoney player money false else (t, false)

end Treasury

inductive MoneyRequest where
  | deposit (player money : UInt64) (nearBank : Bool)
  | withdraw (player money : UInt64) (nearBank : Bool)
  | repair (player : UInt64) (costs : UInt32)
  | cashFlow (player : UInt64) (guildGold : UInt32)

def MoneyRequest.player : MoneyRequest → UInt64
  | .deposit player _ _ => player
  | .withdraw player _ _ => player
  | .repair player _ => player
  | .cashFlow player _ => player

/-- What a granted request brings in from outside: nothing for deposits and personal
withdrawals, an award for a cash flow; a repair spends its costs. -/
def MoneyRequest.outside : MoneyRequest → ℤ
  | .repair _ costs => -costs.toNat
  | .cashFlow _ guildGold => guildGold.toNat
  | _ => 0

def MoneyRequest.takes : MoneyRequest → Bool
  | .withdraw _ _ _ => true
  | .repair _ _ => true
  | _ => false

namespace Treasury

def serve (t : Treasury) : MoneyRequest → Treasury × Bool
  | .deposit player money nearBank => t.handleGuildBankDepositMoney player money nearBank
  | .withdraw player money nearBank => t.handleGuildBankWithdrawMoney player money nearBank
  | .repair player costs => t.handleMemberWithdrawMoney player costs.toUInt64 true
  | .cashFlow player guildGold => (t.handleMemberDepositMoney player guildGold.toUInt64 true, true)

def total (t : Treasury) (players : Finset UInt64) : ℕ :=
  t.guild.bankMoney.toNat + ∑ p ∈ players, (t.gold p).toNat

/-- The law of one request: money is only exchanged with the outside, a refusal changes
nothing, and no withdrawal takes more than there is. -/
structure MoneyLaw (t : Treasury) (r : MoneyRequest) : Prop where
  conserved : ∀ players : Finset UInt64, r.player ∈ players →
    ((t.serve r).1.total players : ℤ) =
      t.total players + if (t.serve r).2 then r.outside else 0
  refused : (t.serve r).2 = false → (t.serve r).1 = t
  others : ∀ p, p ≠ r.player → (t.serve r).1.gold p = t.gold p
  covered : r.takes = true → (t.serve r).1.guild.bankMoney.toNat ≤ t.guild.bankMoney.toNat

/-- No player has more than the cap. -/
def Capped (t : Treasury) : Prop := ∀ p, (t.gold p).toNat ≤ maxMoneyAmount.toNat

def Fits (t : Treasury) : MoneyRequest → Prop
  | .deposit _ money _ => t.guild.bankMoney.toNat + money.toNat < 2 ^ 64
  | .cashFlow _ guildGold => t.guild.bankMoney.toNat + guildGold.toNat < 2 ^ 64
  | _ => True

instance (t : Treasury) (r : MoneyRequest) : Decidable (t.Fits r) :=
  match r with
  | .deposit _ money _ => Nat.decLt (t.guild.bankMoney.toNat + money.toNat) (2 ^ 64)
  | .cashFlow _ guildGold => Nat.decLt (t.guild.bankMoney.toNat + guildGold.toNat) (2 ^ 64)
  | .withdraw _ _ _ => .isTrue trivial
  | .repair _ _ => .isTrue trivial

/-! ### One request -/

lemma deposit_exact (t : Treasury) (capped : t.Capped) (player money : UInt64)
    (fits : t.guild.bankMoney.toNat + money.toNat < 2 ^ 64)
    (enough : money.toNat ≤ (t.gold player).toNat) :
    (t.handleMemberDepositMoney player money false).guild.bankMoney.toNat =
      t.guild.bankMoney.toNat + money.toNat ∧
    (t.handleMemberDepositMoney player money false).gold =
      Function.update t.gold player (modifyMoney (t.gold player) (-money.toInt64)).1 ∧
    (modifyMoney (t.gold player) (-money.toInt64)).1.toNat = (t.gold player).toNat - money.toNat := by
  have cap := capped player
  rw [maxMoneyAmount_toNat] at cap
  have value : money.toInt64.toInt = money.toNat := toInt_toInt64 (by omega)
  have negated : (-money.toInt64).toInt = -(money.toNat : ℤ) := by
    rw [toInt_neg (by omega), value]
  refine ⟨?_, by simp [handleMemberDepositMoney],
    (modifyMoney_debit_exact (t.gold player) (-money.toInt64) money.toNat negated enough).1⟩
  simp only [handleMemberDepositMoney, Guild.modifyBankMoney, if_true, UInt64.toNat_add]
  omega

/-- Either nothing happens, or the bank pays the clamped amount and only a personal
withdrawal reaches the player's gold. -/
lemma withdraw_cases (t : Treasury) (player amount : UInt64) (repair : Bool) :
    t.handleMemberWithdrawMoney player amount repair = (t, false) ∨
    ∃ t', t.handleMemberWithdrawMoney player amount repair = (t', true) ∧
      (min amount maxMoneyAmount).toNat ≤ t.guild.bankMoney.toNat ∧
      t'.guild.bankMoney.toNat = t.guild.bankMoney.toNat - (min amount maxMoneyAmount).toNat ∧
      (repair = true → t'.gold = t.gold) ∧
      (repair = false →
        (modifyMoney (t.gold player) (min amount maxMoneyAmount).toInt64).2 = true ∧
        t'.gold = Function.update t.gold player
          (modifyMoney (t.gold player) (min amount maxMoneyAmount).toInt64).1) := by
  unfold handleMemberWithdrawMoney
  generalize min amount maxMoneyAmount = clamped
  dsimp only
  split
  · exact Or.inl rfl
  next covered =>
    have enough := covered
    rw [UInt64.lt_iff_toNat_lt] at enough
    have bank : ∀ f, ((t.guild.modifyMember player f).modifyBankMoney clamped false).1.bankMoney.toNat =
        t.guild.bankMoney.toNat - clamped.toNat := by
      intro f
      simp only [Guild.modifyBankMoney, Bool.false_eq_true, if_false, Guild.bankMoney_modifyMember,
        covered]
      exact UInt64.toNat_sub_of_le t.guild.bankMoney clamped (UInt64.not_lt.mp covered)
    split
    · exact Or.inl rfl
    · split
      · exact Or.inl rfl
      · cases repair with
        | true =>
          refine Or.inr ⟨_, by simp; rfl, by omega, bank _, fun _ => ?_, by simp⟩
          simp
        | false =>
          cases paid : (modifyMoney (t.gold player) clamped.toInt64).2 with
          | false => exact Or.inl (by simp [paid])
          | true =>
            refine Or.inr ⟨_, by simp [paid]; rfl, by omega, bank _, by simp, fun _ => ?_⟩
            simp

lemma total_update (t t' : Treasury) (player gold : UInt64)
    (moved : t'.gold = Function.update t.gold player gold) (players : Finset UInt64)
    (hm : player ∈ players) :
    t'.total players + t.guild.bankMoney.toNat + (t.gold player).toNat =
      t.total players + t'.guild.bankMoney.toNat + gold.toNat := by
  have sum := sum_update players (fun p => (t.gold p).toNat) player gold.toNat hm
  have counted : ∀ p, (t'.gold p).toNat =
      Function.update (fun p => (t.gold p).toNat) player gold.toNat p := by
    intro p
    rw [moved]
    by_cases here : p = player
    · subst here; simp
    · simp [here]
  simp only [total, counted] at sum ⊢
  omega

lemma withdraw_credit (money amount : UInt64) (small : amount.toNat ≤ maxMoneyAmount.toNat)
    (paid : (modifyMoney money amount.toInt64).2 = true) :
    (modifyMoney money amount.toInt64).1.toNat = money.toNat + amount.toNat ∧
      (money.toNat ≤ maxMoneyAmount.toNat →
        (modifyMoney money amount.toInt64).1.toNat ≤ maxMoneyAmount.toNat) := by
  rw [maxMoneyAmount_toNat] at small ⊢
  have value : amount.toInt64.toInt = amount.toNat := toInt_toInt64 (by omega)
  rcases Nat.eq_zero_or_pos amount.toNat with zero | positive
  · have none_ : amount.toInt64 = 0 := Int64.toInt_inj.mp (by rw [value, zero]; rfl)
    rw [none_, modifyMoney_zero, zero]
    exact ⟨rfl, fun capped => capped⟩
  · obtain ⟨guard, credited, -⟩ := modifyMoney_credit money amount.toInt64 (by omega)
    have below := guard.mp paid
    rw [UInt64.toUInt64_toInt64, UInt64.toNat_sub, maxMoneyAmount_toNat] at below
    rw [credited paid, UInt64.toUInt64_toInt64, UInt64.toNat_add]
    omega

lemma clamped_small (amount : UInt64) :
    (min amount maxMoneyAmount).toNat ≤ maxMoneyAmount.toNat := by
  change (if amount ≤ maxMoneyAmount then amount else maxMoneyAmount).toNat ≤ _
  split
  next below => exact UInt64.le_iff_toNat_le.mp below
  next => exact Nat.le_refl _

section

variable (t : Treasury) (capped : t.Capped) (r : MoneyRequest) (fits : t.Fits r)
include capped fits

/-- What a request does: nothing, or one change of the bank and of the player's gold that
balance up to what comes from outside. -/
lemma serve_cases :
    t.serve r = (t, false) ∨
    ∃ t' gold, t.serve r = (t', true) ∧ t'.gold = Function.update t.gold r.player gold ∧
      gold.toNat ≤ maxMoneyAmount.toNat ∧
      (t'.guild.bankMoney.toNat + gold.toNat : ℤ) =
        t.guild.bankMoney.toNat + (t.gold r.player).toNat + r.outside ∧
      (r.takes = true → t'.guild.bankMoney.toNat ≤ t.guild.bankMoney.toNat) := by
  have cap := capped r.player
  cases r with
  | deposit player money nearBank =>
    by_cases granted : (nearBank && money != 0 && hasEnoughMoney (t.gold player) money) = true
    · have enough : money.toNat ≤ (t.gold player).toNat := by
        simp only [Bool.and_eq_true, hasEnoughMoney_iff] at granted
        exact granted.2
      obtain ⟨bank, gold, paid⟩ := deposit_exact t capped player money fits enough
      simp only [MoneyRequest.player] at cap ⊢
      refine Or.inr ⟨_, _, if_pos granted, gold, by omega, ?_, by simp [MoneyRequest.takes]⟩
      simp only [MoneyRequest.outside]
      omega
    · exact Or.inl (if_neg granted)
  | withdraw player money nearBank =>
    by_cases granted : (money != 0 && nearBank) = true
    · have asked : t.serve (.withdraw player money nearBank) =
          t.handleMemberWithdrawMoney player money false := if_pos granted
      rcases withdraw_cases t player money false with refused | ⟨t', served, enough, bank, -, gold⟩
      · exact Or.inl (asked.trans refused)
      · obtain ⟨paid, gold⟩ := gold rfl
        obtain ⟨credit, below⟩ := withdraw_credit (t.gold player) (min money maxMoneyAmount)
          (clamped_small money) paid
        refine Or.inr ⟨t', _, asked.trans served, gold, below cap, ?_, fun _ => by omega⟩
        simp only [credit, bank, MoneyRequest.outside, MoneyRequest.player]
        omega
    · exact Or.inl (if_neg granted)
  | repair player costs =>
    rcases withdraw_cases t player costs.toUInt64 true with refused | ⟨t', served, enough, bank, gold, -⟩
    · exact Or.inl refused
    · -- the costs of a repair are far below the clamp
      have clamp : (min costs.toUInt64 maxMoneyAmount).toNat = costs.toNat := by
        change (if costs.toUInt64 ≤ maxMoneyAmount then costs.toUInt64 else maxMoneyAmount).toNat = _
        have size := costs.toNat_lt
        rw [if_pos, UInt32.toNat_toUInt64]
        rw [UInt64.le_iff_toNat_le, UInt32.toNat_toUInt64, maxMoneyAmount_toNat]
        omega
      refine Or.inr ⟨t', t.gold player, served, ?_, cap, ?_, fun _ => by omega⟩
      · rw [gold rfl]
        exact (Function.update_eq_self player t.gold).symm
      · simp only [bank, MoneyRequest.outside, MoneyRequest.player]
        omega
  | cashFlow player guildGold =>
    have bank : (t.guild.bankMoney + guildGold.toUInt64).toNat =
        t.guild.bankMoney.toNat + guildGold.toNat := by
      simp only [Fits] at fits
      rw [UInt64.toNat_add, UInt32.toNat_toUInt64]
      omega
    refine Or.inr ⟨_, t.gold player, rfl, ?_, cap, ?_, by simp [MoneyRequest.takes]⟩
    · exact (Function.update_eq_self player t.gold).symm
    · simp only [handleMemberDepositMoney, Guild.modifyBankMoney, if_true, bank, MoneyRequest.outside,
        MoneyRequest.player]
      omega

lemma moneyLaw : t.MoneyLaw r := by
  rcases serve_cases t capped r fits with refused | ⟨t', gold, granted, moved, -, balance, covered⟩
  · exact {
      conserved := fun players _ => by simp [refused]
      refused := fun _ => by rw [refused]
      others := fun p _ => by rw [refused]
      covered := fun _ => by rw [refused] }
  · exact {
      conserved := fun players hm => by
        have counted := total_update t t' r.player gold moved players hm
        simp only [granted, if_true]
        omega
      refused := fun no => by simp [granted] at no
      others := fun p other => by rw [granted, moved, Function.update_of_ne other]
      covered := fun takes => by
        rw [granted]
        exact covered takes }

lemma serve_capped : (t.serve r).1.Capped := by
  intro p
  rcases serve_cases t capped r fits with refused | ⟨t', gold, granted, moved, below, -, -⟩
  · rw [refused]
    exact capped p
  · rw [granted, moved]
    by_cases here : p = r.player
    · subst here
      simpa using below
    · simpa [here] using capped p

end

/-! ### Whole runs -/

/-- Every request of a run obeys the money law, as long as what each adds to the bank
leaves it below `2 ^ 64`. -/
theorem moneyLaw_along (t : Treasury) (capped : t.Capped) (requests : List MoneyRequest)
    (fits : Along (fun t r => (t.serve r).1) Fits t requests) :
    Along (fun t r => (t.serve r).1) MoneyLaw t requests :=
  along_of_invariant Capped (fun t r capped fits => t.serve_capped capped r fits)
    (fun t r capped fits => t.moneyLaw capped r fits) capped fits

private def soloTreasury (bank : UInt64) : Treasury :=
  { guild :=
      { leaderGuid := 1, level := 1, bankMoney := bank
        ranks := [{ rankId := 0, name := "", rights := grRightAll }]
        members := AList.singleton 1 { guid := 1, name := "", rankId := 0 }, bankTabs := [] }
    gold := fun _ => 100 }

private lemma soloTreasury_capped (bank : UInt64) : (soloTreasury bank).Capped := by
  intro p
  change (100 : UInt64).toNat ≤ maxMoneyAmount.toNat
  decide

theorem moneyLaw_along_solo :
    Along (fun t r => (t.serve r).1) MoneyLaw (soloTreasury 500)
      [.withdraw 1 50 true, .deposit 1 150 true, .repair 1 7, .cashFlow 1 3] :=
  moneyLaw_along (soloTreasury 500) (soloTreasury_capped _) _
    ⟨trivial, by decide, trivial, by decide, trivial⟩

/-- A repair is paid by the bank alone, and a full bank wraps. -/
theorem repair_and_full_bank_not_conserved :
    ¬ (∀ (t : Treasury) (r : MoneyRequest), t.Capped → r.takes = true →
        (t.serve r).1.total {r.player} = t.total {r.player}) ∧
    ¬ (∀ (t : Treasury) (player money : UInt64), t.Capped →
        (t.serve (.deposit player money true)).1.total {player} = t.total {player}) := by
  constructor
  · intro claim
    have kept := claim (soloTreasury 500) (.repair 1 7) (soloTreasury_capped _) rfl
    revert kept
    decide
  · intro claim
    have kept := claim (soloTreasury 0xFFFFFFFFFFFFFFFF) 1 10 (soloTreasury_capped _)
    revert kept
    decide

end Treasury

end WorldServer.Guilds
