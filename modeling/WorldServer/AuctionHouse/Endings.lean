import Mathlib.Data.List.MinMax
import WorldServer.AuctionHouse.Effects

/-!
# Expired auctions and the invariant

The update and the start-up both walk over the rows that have run out. Whatever they
find there, they only take auctions away and put mails in front, and a sound state
stays sound under every step.
-/
namespace WorldServer.AuctionHouse

open WorldServer.Lib WorldServer.Entities

section Update

variable {r : Realm} {P : State → Prop} {now : ℕ}

/-- What holds before and is kept by every auction that ends holds after one map is done. -/
lemma foldl_endAuction_rule
    (valid : ∀ s, P s → ∀ id a, s.auctions.lookup id = some a → a.Valid r)
    (ends : ∀ s id a, P s → s.auctions.lookup id = some a → a.expireTime ≤ now + 60 →
      P (s.closed r id a))
    (auctionsMap : AuctionsMap) (ids : List ℕ) {s : State} (init : P s)
    (expired : ∀ id ∈ ids, ∀ a, s.auctions.lookup id = some a → a.expireTime ≤ now + 60) :
    P (ids.foldl (State.endAuction r auctionsMap) s) := by
  induction ids generalizing s with
  | nil => exact init
  | cons id ids ih =>
    rw [List.foldl_cons]
    rcases endAuction_cases (valid s init) auctionsMap id with same | ⟨a, found, served⟩
    · rw [same]
      exact ih init fun k later => expired k (List.mem_cons_of_mem id later)
    · rw [served]
      refine ih (ends s id a init found (expired id List.mem_cons_self a found)) fun k later b left => ?_
      -- what is left after an ending was there before it
      exact expired k (List.mem_cons_of_mem id later) b ((Table.lookup_erase_iff _ _ _ _).mp left).2

lemma update_rule (valid : ∀ s, P s → ∀ id a, s.auctions.lookup id = some a → a.Valid r)
    (ends : ∀ s id a, P s → s.auctions.lookup id = some a → a.expireTime ≤ now + 60 →
      P (s.closed r id a))
    {s : State} (init : P s) : P (s.update r now) := by
  have one : ∀ {s : State} (auctionsMap : AuctionsMap), P s → P (s.updateMap r now auctionsMap) :=
    fun auctionsMap init => foldl_endAuction_rule valid ends auctionsMap _ init
      fun _ selected _ found => selectByTime_expired selected found
  exact one _ (one _ (one _ init))

end Update

/-! ### Auctions only go away -/

/-- Auctions are gone, with mails about auctions that were there, and nothing else but the
items has changed. -/
structure Ends (s s' : State) : Prop where
  gold : s'.gold = s.gold
  inventory : s'.inventory = s.inventory
  auctionId : s'.auctionId = s.auctionId
  itemGuid : s'.itemGuid = s.itemGuid
  auctions : ∀ id a, s'.auctions.lookup id = some a → s.auctions.lookup id = some a
  mails : ∃ new, s'.mails = new ++ s.mails ∧ ∀ m ∈ new, ∃ a, s.auctions.lookup m.auctionId = some a

lemma Ends.refl (s : State) : Ends s s :=
  ⟨rfl, rfl, rfl, rfl, fun _ _ found => found, ⟨[], rfl, fun _ member => absurd member List.not_mem_nil⟩⟩

variable {id : ℕ} {a : AuctionEntry} {price : UInt64}

lemma mem_itemMail {s : State} {answer : MailAuctionAnswers} {receiver : UInt32} {m : AuctionMail}
    (member : m ∈ itemMail s id a answer receiver) :
    m.auctionId = id ∧ m.answer = answer ∧ m.receiver = receiver ∧ m.money = 0 := by
  unfold itemMail at member
  split at member
  · cases member
  · rw [List.mem_singleton] at member
    subst member
    exact ⟨rfl, rfl, rfl, rfl⟩

lemma mem_endMails {r : Realm} {s : State} {m : AuctionMail} (member : m ∈ endMails r s id a) :
    m.auctionId = id := by
  unfold endMails at member
  split at member
  · exact (mem_itemMail member).1
  · rcases List.mem_append.mp member with item | profit_
    · exact (mem_itemMail item).1
    · rw [List.mem_singleton] at profit_
      rw [profit_]

section Ends

variable {r : Realm} {s s' : State}

lemma Ends.cons (ends : Ends s s') (found : s'.auctions.lookup id = some a)
    {new : List AuctionMail} (own : ∀ m ∈ new, m.auctionId = id) (aItems : Table ℕ Item) :
    Ends s { s' with mails := new ++ s'.mails, auctions := s'.auctions.erase id, aItems := aItems } where
  gold := ends.gold
  inventory := ends.inventory
  auctionId := ends.auctionId
  itemGuid := ends.itemGuid
  auctions k b left := ends.auctions k b ((Table.lookup_erase_iff _ _ _ _).mp left).2
  mails := by
    obtain ⟨old, mails, law⟩ := ends.mails
    refine ⟨new ++ old, by rw [mails, List.append_assoc], fun m member => ?_⟩
    rcases List.mem_append.mp member with now_ | earlier
    · rw [own m now_]
      exact ⟨a, ends.auctions id a found⟩
    · exact law m earlier

section

variable (valid : ∀ id a, s.auctions.lookup id = some a → a.Valid r)
include valid

lemma update_ends (now : ℕ) : Ends s (s.update r now) :=
  update_rule (fun _ ends id a found => valid id a (ends.auctions id a found))
    (fun _ _ _ ends found _ => ends.cons found (fun _ member => mem_endMails member) _) (Ends.refl s)

end

end Ends

/-! ### The invariant is kept -/

lemma Paid.purse {gold gold' : UInt32 → UInt64} {player : UInt32} {n : ℕ}
    (paid : Paid gold gold' player n) (small : ∀ p, (gold p).toNat < 2 ^ 63) (p : UInt32) :
    (gold' p).toNat < 2 ^ 63 :=
  Nat.lt_of_le_of_lt (paid.le p) (small p)

lemma isBid_below (bid : a.isBid price = true) (buyout : a.buyout ≠ 0) :
    price.toNat < a.buyout.toNat := by
  simpa [AuctionEntry.isBid, buyout, UInt64.lt_iff_toNat_lt] using bid

lemma not_isBid (bought : a.isBid price = false) :
    a.buyout ≠ 0 ∧ a.buyout.toNat ≤ price.toNat := by
  simp only [AuctionEntry.isBid, Bool.or_eq_false_iff, decide_eq_false_iff_not, UInt64.not_lt,
    UInt64.le_iff_toNat_le, UInt32.toNat_toUInt64, beq_eq_false_iff_ne] at bought
  exact ⟨bought.2, bought.1⟩

lemma toUInt32_toNat (small : price.toNat < 2 ^ 32) : price.toUInt32.toNat = price.toNat := by
  exact Nat.mod_eq_of_lt small

section Runs

variable {r : Realm} {s : State}
variable (sound : s.Sound r)
include sound

lemma lookup_fresh : s.auctions.lookup s.auctionId = none := by
  cases found : s.auctions.lookup s.auctionId with
  | none => rfl
  | some a => exact absurd (sound.below _ a found) (Nat.lt_irrefl _)

lemma State.Sound.of_fewer {s' : State} (purse : ∀ p, (s'.gold p).toNat < 2 ^ 63)
    (auctionId : s'.auctionId = s.auctionId)
    (fewer : ∀ id a, s'.auctions.lookup id = some a → s.auctions.lookup id = some a) :
    s'.Sound r where
  purse := purse
  valid id a found := sound.valid id a (fewer id a found)
  below id a found := auctionId ▸ sound.below id a (fewer id a found)

lemma State.Sound.of_ends {s' : State} (ends : Ends s s') : s'.Sound r :=
  sound.of_fewer (fun p => by rw [ends.gold]; exact sound.purse p) ends.auctionId ends.auctions

lemma State.Sound.setHighestGuids (hiItemGuid : ℕ) : (s.setHighestGuids hiItemGuid).Sound r where
  purse := sound.purse
  valid := sound.valid
  below id a found := by
    have stored : id ∈ s.auctions.entries.map (·.1) :=
      List.mem_map.mpr ⟨⟨id, a⟩, AList.mem_lookup_iff.mp found, rfl⟩
    exact Nat.lt_succ_of_le (List.le_max_of_le' 0 stored le_rfl)

lemma listed_purse {s' : State} {player : UInt32} {p : SellRequest} {now : ℕ} {sale : Sale}
    {guid : ℕ} {item : Item} (listed : Listed r s s' player p now sale guid item) (q : UInt32) :
    (s'.gold q).toNat < 2 ^ 63 := by
  have before := sound.purse q
  rw [listed.gold]
  by_cases here : q = player
  · subst here
    have upper := (-sale.deposit.toInt32).toInt_lt
    have bound := modifyMoney_le (s.gold q) (-sale.deposit.toInt32).toInt64 (by
      rw [Int32.toInt_toInt64, maxMoneyAmount_toNat]
      omega)
    rw [Function.update_self]
    rw [maxMoneyAmount_toNat] at bound
    omega
  · rw [Function.update_of_ne here]
    exact before

lemma sell_sound (player : Actor r) (p : SellRequest) (now : ℕ) :
    (s.serve (.sell player p now)).Sound r := by
  rcases sell_listed r s player.guid p now with ⟨-, same⟩ | ⟨sale, guid, item, passes, listed⟩
  · rw [State.serve, same]
    exact sound
  · rw [State.serve]
    refine ⟨listed_purse sound listed, fun id a found => ?_, fun id a found => ?_⟩
    · rw [listed.auctions] at found
      rcases (Table.lookup_insert_iff _ _ _ _ _).mp found with ⟨-, rfl⟩ | ⟨-, other⟩
      · exact ⟨player.known, fun some_ => absurd rfl some_, fun _ => rfl, fun some_ => by
          exact UInt32.lt_iff_toNat_lt.mp (UInt32.pos_iff_ne_zero.mpr some_)⟩
      · exact sound.valid id a other
    · rw [listed.auctions] at found
      rw [listed.auctionId]
      rcases (Table.lookup_insert_iff _ _ _ _ _).mp found with ⟨rfl, -⟩ | ⟨-, other⟩
      · exact Nat.lt_succ_self _
      · exact Nat.lt_succ_of_lt (sound.below id a other)

lemma placeBid_sound (player : Actor r) (auctioneer : Option Auctioneer) (id : ℕ) (price : UInt64) :
    (s.serve (.placeBid player auctioneer id price)).Sound r := by
  rw [State.serve]
  rcases handleAuctionPlaceBid_cases r s player.guid auctioneer id price with
    same | ⟨a, passes, ⟨bid, served⟩ | ⟨bought, served⟩⟩
  · rw [same]
    exact sound
  · obtain ⟨found, -, higher, enough⟩ := checkBid_ok passes
    obtain ⟨took, auctions, -⟩ := placeBid_took sound player.nonzero found higher enough
    rw [served]
    refine ⟨took.paid.purse sound.purse, fun k b after => ?_, fun k b after => ?_⟩
    · rw [auctions] at after
      rcases (Table.lookup_insert_iff _ _ _ _ _).mp after with ⟨-, rfl⟩ | ⟨-, other⟩
      · refine ⟨(sound.valid id a found).owner, fun _ => player.known,
          fun none_ => absurd none_ player.nonzero, fun some_ => ?_⟩
        -- a bid below the buyout price has 32 bits
        have below := isBid_below bid some_
        have size := a.buyout.toNat_lt
        rw [toUInt32_toNat (by omega)]
        exact below
      · exact sound.valid k b other
    · rw [auctions] at after
      rw [took.auctionId]
      rcases (Table.lookup_insert_iff _ _ _ _ _).mp after with ⟨rfl, -⟩ | ⟨-, other⟩
      · exact sound.below _ a found
      · exact sound.below k b other
  · obtain ⟨found, -, higher, enough⟩ := checkBid_ok passes
    obtain ⟨buyout, priced⟩ := not_isBid bought
    obtain ⟨took, auctions, -⟩ := buyOut_took sound player.known found buyout (by omega)
    rw [served]
    refine sound.of_fewer (took.paid.purse sound.purse) took.auctionId fun k b after => ?_
    rw [auctions] at after
    exact ((Table.lookup_erase_iff _ _ _ _).mp after).2

lemma removeItem_sound (player : Actor r) (auctioneer : Option Auctioneer) (id : ℕ) :
    (s.serve (.removeItem player auctioneer id)).Sound r := by
  rw [State.serve]
  rcases handleAuctionRemoveItem_cases r s player.guid auctioneer id with
    same | ⟨a, item, found, own, -, enough, served⟩
  · rw [same]
    exact sound
  · rw [← own] at enough
    obtain ⟨took, auctions, -⟩ := cancelAuction_took sound found item enough
    rw [served, ← own]
    refine sound.of_fewer (took.paid.purse sound.purse) took.auctionId fun k b after => ?_
    rw [auctions] at after
    exact ((Table.lookup_erase_iff _ _ _ _).mp after).2

lemma serve_sound (step : AuctionStep r) : (s.serve step).Sound r := by
  cases step with
  | sell player p now => exact sell_sound sound player p now
  | placeBid player auctioneer id price => exact placeBid_sound sound player auctioneer id price
  | removeItem player auctioneer id => exact removeItem_sound sound player auctioneer id
  | update now => exact sound.of_ends (update_ends sound.valid now)

end Runs

def State.opened (gold : UInt32 → UInt64) (inventory : UInt32 → Table ℕ Item) (itemGuid : ℕ) : State :=
  { gold := gold, inventory := inventory, auctions := ∅, aItems := ∅, mails := [], auctionId := 1
    itemGuid := itemGuid }

lemma opened_sound (r : Realm) (gold : UInt32 → UInt64)
    (capped : ∀ p, (gold p).toNat ≤ maxMoneyAmount.toNat) (inventory : UInt32 → Table ℕ Item)
    (itemGuid : ℕ) : (State.opened gold inventory itemGuid).Sound r where
  purse p := by
    have below := capped p
    exact Nat.lt_of_le_of_lt below (by decide)
  valid _ _ found := by cases found
  below _ _ found := by cases found

end WorldServer.AuctionHouse
