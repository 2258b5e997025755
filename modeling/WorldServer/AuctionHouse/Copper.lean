import WorldServer.AuctionHouse.Endings

/-!
# Copper in the auction house

Copper is in the players' purses, in the bids of live auctions and in mails. A step
changes the sum by the deposits taken and returned and by the house cut, as long as
no amount is cut down to 32 bits on the way.
-/
namespace WorldServer.AuctionHouse

open WorldServer.Lib WorldServer.Entities

/-! ### The law -/

def mailed (mails : List AuctionMail) : ℕ := (mails.map (·.money.toNat)).sum

@[simp] lemma mailed_append (new mails : List AuctionMail) :
    mailed (new ++ mails) = mailed new + mailed mails := by
  simp [mailed]

namespace State

def escrow (s : State) : ℕ := Table.total (fun _ a => a.bid.toNat) s.auctions

/-- The gold of a set of players, the bids of live auctions and all copper in mails. -/
def copper (s : State) (players : Finset UInt32) : ℕ :=
  ∑ p ∈ players, (s.gold p).toNat + s.escrow + mailed s.mails

def deposits (s : State) : ℕ :=
  Table.total (fun _ a => if a.bidder = 0 then 0 else a.deposit.toNat) s.auctions

def cuts (r : Realm) (s : State) : ℕ :=
  Table.total (fun _ a => if a.bidder = 0 then 0 else (a.getAuctionCut r).toNat) s.auctions

end State

namespace AuctionStep

variable {r : Realm}

def sender : AuctionStep r → Option UInt32
  | .sell player _ _ => some player.guid
  | .placeBid player _ _ _ => some player.guid
  | .removeItem player _ _ => some player.guid
  | .update _ => none

def finalBid (a : AuctionEntry) : AuctionStep r → UInt32
  | .placeBid _ _ _ _ => a.buyout
  | _ => a.bid

/-- What a step brings in from outside: the deposit of a sale, the returned deposit less
the cut of a buyout and of every auction that ran out with a bidder, and the cut of a
cancelled auction that had one. -/
def outside (s : State) : AuctionStep r → ℤ
  | .sell player p _ =>
    match s.checkSale r player.guid p with
    | .ok sale => -sale.deposit.toNat
    | .error _ => 0
  | .placeBid player auctioneer id price =>
    match s.auctions.lookup id,
      (s.handleAuctionPlaceBid r player.guid auctioneer id price).1.auctions.lookup id with
    | some a, none => a.deposit.toNat - (r.auctionCut a.auctioneer.houseId a.buyout).toNat
    | _, _ => 0
  | .removeItem player auctioneer id =>
    match s.auctions.lookup id,
      (s.handleAuctionRemoveItem r player.guid auctioneer id).1.auctions.lookup id with
    | some a, none => -cancelCut r a
    | _, _ => 0
  | .update now =>
    (s.deposits - (s.update r now).deposits) - (s.cuts r - (s.update r now).cuts r)

end AuctionStep

/-- What a mail carries: a refund is the bid it gives back, to the bidder; the seller gets
what the auction is sold for, plus the deposit, less the cut; other mails carry nothing. -/
def MailLaw {r : Realm} (s : State) (step : AuctionStep r) (m : AuctionMail) : Prop :=
  ∃ a, s.auctions.lookup m.auctionId = some a ∧
    match m.answer with
    | .outbidded | .cancelledToBidder => m.receiver = a.bidder ∧ m.money.toNat = a.bid.toNat
    | .successful => m.receiver = a.owner ∧ (m.money.toNat : ℤ) =
        (step.finalBid a).toNat + a.deposit.toNat -
          (r.auctionCut a.auctioneer.houseId (step.finalBid a)).toNat
    | _ => m.money = 0

structure CopperLaw {r : Realm} (s : State) (step : AuctionStep r) : Prop where
  conserved : ∀ players : Finset UInt32, (∀ p, step.sender = some p → p ∈ players) →
    ((s.serve step).copper players : ℤ) = s.copper players + step.outside s
  bids : ∀ id a a', s.auctions.lookup id = some a → (s.serve step).auctions.lookup id = some a' →
    a' ≠ a → (s.gold a'.bidder).toNat + paidBefore a a'.bidder =
      ((s.serve step).gold a'.bidder).toNat + a'.bid.toNat
  /-- A buyout costs the buyout price, less an own earlier bid. -/
  buyouts : ∀ player auctioneer id price a, step = .placeBid player auctioneer id price →
    s.auctions.lookup id = some a → (s.serve step).auctions.lookup id = none →
    (s.gold player.guid).toNat + paidBefore a player.guid =
      ((s.serve step).gold player.guid).toNat + a.buyout.toNat
  mails : ∃ new, (s.serve step).mails = new ++ s.mails ∧ ∀ m ∈ new, MailLaw s step m

/-- The profit of a sale at this price is not negative and fits 32 bits. -/
def ProfitFits (r : Realm) (a : AuctionEntry) (price : UInt32) : Prop :=
  (r.auctionCut a.auctioneer.houseId price).toNat ≤ price.toNat + a.deposit.toNat ∧
    price.toNat + a.deposit.toNat < 2 ^ 32 + (r.auctionCut a.auctioneer.houseId price).toNat

/-- No amount of the step is cut down: a bid has 32 bits, a deposit is not above the sign
bit, and the profits of the auctions that are sold fit. -/
def AuctionStep.Exact {r : Realm} (s : State) : AuctionStep r → Prop
  | .sell player p _ => ∀ sale, s.checkSale r player.guid p = .ok sale → sale.deposit.toNat ≤ 2 ^ 31
  | .placeBid player auctioneer id price =>
    ∀ a, s.checkBid r player.guid auctioneer id price = .ok a →
      if a.isBid price then price.toNat < 2 ^ 32 else ProfitFits r a a.buyout
  | .removeItem _ _ _ => True
  | .update now => ∀ id a, s.auctions.lookup id = some a → a.expireTime ≤ now + 60 →
      a.bidder ≠ 0 → ProfitFits r a a.bid

lemma profit_toNat {r : Realm} {a : AuctionEntry} (fits : ProfitFits r a a.bid) :
    ((profit r a).toUInt64.toNat : ℤ) =
      a.bid.toNat + a.deposit.toNat - (r.auctionCut a.auctioneer.houseId a.bid).toNat := by
  obtain ⟨notNegative, small⟩ := fits
  have cutSize := (r.auctionCut a.auctioneer.houseId a.bid).toNat_lt
  rw [UInt32.toNat_toUInt64, profit, AuctionEntry.getAuctionCut, UInt32.toNat_sub, UInt32.toNat_add]
  omega

/-! ### Mails -/

lemma mailed_itemMail (s : State) (id : ℕ) (a : AuctionEntry) (answer : MailAuctionAnswers)
    (receiver : UInt32) : mailed (itemMail s id a answer receiver) = 0 := by
  unfold itemMail
  split <;> rfl

lemma mailed_outbidMail {r : Realm} {a : AuctionEntry} (valid : a.Valid r) (id : ℕ) (player : UInt32) :
    mailed (outbidMail id a player) + paidBefore a player = a.bid.toNat := by
  unfold outbidMail paidBefore
  by_cases own : a.bidder = player
  · simp [own, mailed]
  · by_cases none_ : a.bidder = 0
    · simp [none_, mailed, valid.noBid none_]
    · simp [none_, own, mailed]

variable {player : UInt32} {m : AuctionMail} {id : ℕ}

lemma mem_outbidMail {a : AuctionEntry} (member : m ∈ outbidMail id a player) :
    m = ⟨id, .outbidded, a.bidder, a.bid.toUInt64, none⟩ := by
  unfold outbidMail at member
  split at member
  · cases member
  · exact List.mem_singleton.mp member

lemma outbidMail_law {r : Realm} {s : State} {step : AuctionStep r} {a : AuctionEntry}
    (found : s.auctions.lookup id = some a) (member : m ∈ outbidMail id a player) :
    MailLaw s step m := by
  obtain rfl := mem_outbidMail member
  exact ⟨a, found, rfl, UInt32.toNat_toUInt64 _⟩

lemma itemMail_law {r : Realm} {s s₀ : State} {step : AuctionStep r} {a b : AuctionEntry}
    (found : s₀.auctions.lookup id = some b) {answer : MailAuctionAnswers}
    (plain : answer = .won ∨ answer = .expired) {receiver : UInt32}
    (member : m ∈ itemMail s id a answer receiver) : MailLaw s₀ step m := by
  obtain ⟨sameId, same, -, nothing⟩ := mem_itemMail member
  refine ⟨b, by rw [sameId]; exact found, ?_⟩
  rcases plain with rfl | rfl
  · rw [same]
    exact nothing
  · rw [same]
    exact nothing

/-! ### One packet -/

section Packets

variable {r : Realm} {s : State}

lemma CopperLaw.of_unchanged {step : AuctionStep r} (same : s.serve step = s)
    (nothing : step.outside s = 0) : CopperLaw s step where
  conserved players _ := by rw [same, nothing, add_zero]
  bids id a a' found after changed := by
    rw [same, found] at after
    exact absurd (Option.some.inj after).symm changed
  buyouts player auctioneer id price a _ found after := by
    rw [same, found] at after
    cases after
  mails := ⟨[], by rw [same]; rfl, fun _ member => absurd member List.not_mem_nil⟩

/-- The same copper before and after, with the gold, escrow and mails of the two states. -/
lemma copper_eq {s s' : State} {n : ℕ} {new : List AuctionMail} (took : Took s s' player n new)
    {players : Finset UInt32} (member : player ∈ players) :
    s'.copper players + n + s.escrow = s.copper players + s'.escrow + mailed new := by
  have sum := took.paid.sum member
  simp only [State.copper, took.mails, mailed_append]
  omega

lemma placeBid_law (sound : s.Sound r) (player : Actor r) (auctioneer : Option Auctioneer) (id : ℕ)
    (price : UInt64) (small : AuctionStep.Exact s (.placeBid player auctioneer id price)) :
    CopperLaw s (.placeBid player auctioneer id price) := by
  rcases handleAuctionPlaceBid_cases r s player.guid auctioneer id price with
    same | ⟨a, passes, ⟨bid, served⟩ | ⟨bought, served⟩⟩
  · have unchanged : s.serve (.placeBid player auctioneer id price) = s := same
    apply CopperLaw.of_unchanged unchanged
    rw [AuctionStep.outside, same]
    cases s.auctions.lookup id <;> rfl
  · -- a bid replaces the auction, and the old bid goes back
    obtain ⟨found, -, higher, enough⟩ := checkBid_ok passes
    have valid := sound.valid id a found
    have fits : price.toNat < 2 ^ 32 := by
      have here := small a passes
      rwa [if_pos bid] at here
    obtain ⟨took, auctions, -⟩ := placeBid_took sound player.nonzero found higher enough
    rw [← served] at took auctions
    have stays : (s.handleAuctionPlaceBid r player.guid auctioneer id price).1.auctions.lookup id =
        some { a with bidder := player.guid, bid := price.toUInt32 } := by
      rw [auctions, AList.lookup_insert]
    have refund := mailed_outbidMail valid id player.guid
    have stored := toUInt32_toNat fits
    exact {
      conserved := fun players senders => by
        have sum := copper_eq took (senders player.guid rfl)
        have replaced := Table.total_insert_of_some (fun _ a => a.bid.toNat) s.auctions id
          { a with bidder := player.guid, bid := price.toUInt32 } a found
        rw [← auctions] at replaced
        simp only [AuctionStep.outside, found, stays, State.serve, add_zero]
        simp only [State.escrow, stored] at sum replaced
        omega
      bids := fun id' b b' before after changed => by
        rw [State.serve, auctions] at after
        rcases (Table.lookup_insert_iff _ _ _ _ _).mp after with ⟨rfl, rfl⟩ | ⟨-, other⟩
        · obtain rfl := Option.some.inj (found.symm.trans before)
          have payer := took.paid.payer
          simp only [State.serve, stored]
          omega
        · exact absurd (Option.some.inj (other.symm.trans before)) changed
      buyouts := fun player' auctioneer' id' price' b step before after => by
        cases step
        rw [State.serve, stays] at after
        cases after
      mails := ⟨outbidMail id a player.guid, took.mails, fun m member => outbidMail_law found member⟩ }
  · -- a buyout removes the auction
    obtain ⟨found, -, higher, enough⟩ := checkBid_ok passes
    have valid := sound.valid id a found
    obtain ⟨buyout, priced⟩ := not_isBid bought
    have fits : ProfitFits r a a.buyout := by
      have here := small a passes
      rwa [if_neg (by simp [bought])] at here
    obtain ⟨took, auctions, -⟩ := buyOut_took sound player.known found buyout (by omega)
    rw [← served] at took auctions
    have gone : (s.handleAuctionPlaceBid r player.guid auctioneer id price).1.auctions.lookup id =
        none := by
      rw [auctions, AList.lookup_erase]
    have refund := mailed_outbidMail valid id player.guid
    have below := valid.belowBuyout buyout
    have sold := @profit_toNat r { a with bidder := player.guid, bid := a.buyout } fits
    dsimp only at sold
    exact {
      conserved := fun players senders => by
        have sum := copper_eq took (senders player.guid rfl)
        have removed := Table.total_erase (fun _ a => a.bid.toNat) s.auctions id a found
        rw [← auctions] at removed
        have sent : mailed (buyOutMails r s id a player.guid) =
            (profit r { a with bidder := player.guid, bid := a.buyout }).toUInt64.toNat +
              mailed (outbidMail id a player.guid) := by
          simp only [buyOutMails, mailed_append, mailed_itemMail]
          simp [mailed]
        simp only [AuctionStep.outside, found, gone, State.serve]
        simp only [State.escrow] at sum removed
        omega
      bids := fun id' b b' before after changed => by
        rw [State.serve, auctions] at after
        have other := ((Table.lookup_erase_iff _ _ _ _).mp after).2
        exact absurd (Option.some.inj (other.symm.trans before)) changed
      buyouts := fun player' auctioneer' id' price' b step before after => by
        cases step
        obtain rfl := Option.some.inj (found.symm.trans before)
        have payer := took.paid.payer
        simp only [State.serve]
        omega
      mails := ⟨buyOutMails r s id a player.guid, took.mails, fun m member => by
        simp only [buyOutMails, List.append_assoc, List.mem_append] at member
        rcases member with item | two | back
        · exact itemMail_law found (Or.inl rfl) item
        · rcases List.mem_cons.mp two with rfl | notice
          · exact ⟨a, found, rfl, sold⟩
          · rw [List.mem_singleton] at notice
            subst notice
            exact ⟨a, found, rfl⟩
        · exact outbidMail_law found back⟩ }

lemma listed_paid {s' : State} {p : SellRequest} {now : ℕ} {sale : Sale} {guid : ℕ} {item : Item}
    (listed : Listed r s s' player p now sale guid item) (small : sale.deposit.toNat ≤ 2 ^ 31) :
    Paid s.gold s'.gold player sale.deposit.toNat := by
  rw [listed.gold]
  exact debit_paid s player (toInt_neg_deposit small) listed.checked.deposit

lemma sell_law (sound : s.Sound r) (player : Actor r) (p : SellRequest) (now : ℕ)
    (small : AuctionStep.Exact s (.sell player p now)) : CopperLaw s (.sell player p now) := by
  rcases sell_listed r s player.guid p now with ⟨⟨e, rejected⟩, same⟩ | ⟨sale, guid, item, passes, listed⟩
  · have unchanged : s.serve (.sell player p now) = s := same
    apply CopperLaw.of_unchanged unchanged
    rw [AuctionStep.outside, rejected]
  · have paid := listed_paid listed (small sale passes)
    exact {
      conserved := fun players senders => by
        have sum := paid.sum (senders player.guid rfl)
        -- a new auction has no bid
        have added := Table.total_insert_of_none (fun _ a => a.bid.toNat) s.auctions s.auctionId
          (sale.auction player.guid p now guid item) (lookup_fresh sound)
        rw [← listed.auctions] at added
        have zero : (sale.auction player.guid p now guid item).bid.toNat = 0 := rfl
        simp only [AuctionStep.outside, passes, State.serve, State.copper, State.escrow, listed.mails]
        omega
      bids := fun id a a' before after changed => by
        rw [State.serve, listed.auctions] at after
        rcases (Table.lookup_insert_iff _ _ _ _ _).mp after with ⟨rfl, -⟩ | ⟨-, other⟩
        · rw [lookup_fresh sound] at before
          cases before
        · exact absurd (Option.some.inj (other.symm.trans before)) changed
      buyouts := fun _ _ _ _ _ step => by cases step
      mails := ⟨[], by rw [State.serve, listed.mails]; rfl,
        fun _ member => absurd member List.not_mem_nil⟩ }

lemma removeItem_law (sound : s.Sound r) (player : Actor r) (auctioneer : Option Auctioneer) (id : ℕ) :
    CopperLaw s (.removeItem player auctioneer id) := by
  rcases handleAuctionRemoveItem_cases r s player.guid auctioneer id with
    same | ⟨a, item, found, own, -, enough, served⟩
  · have unchanged : s.serve (.removeItem player auctioneer id) = s := same
    apply CopperLaw.of_unchanged unchanged
    rw [AuctionStep.outside, same]
    cases s.auctions.lookup id <;> rfl
  · have valid := sound.valid id a found
    rw [← own] at enough
    obtain ⟨took, auctions, -⟩ := cancelAuction_took sound found item enough
    rw [own, ← served] at took auctions
    have gone : (s.handleAuctionRemoveItem r player.guid auctioneer id).1.auctions.lookup id = none := by
      rw [auctions, AList.lookup_erase]
    exact {
      conserved := fun players senders => by
        have sum := copper_eq took (senders player.guid rfl)
        have removed := Table.total_erase (fun _ a => a.bid.toNat) s.auctions id a found
        rw [← auctions] at removed
        have sent : mailed (cancelMails id a item) = a.bid.toNat := by
          unfold cancelMails
          split
          next none_ => simp [mailed, valid.noBid none_]
          next => simp [mailed]
        simp only [AuctionStep.outside, found, gone, State.serve]
        simp only [State.escrow] at sum removed
        omega
      bids := fun id' b b' before after changed => by
        rw [State.serve, auctions] at after
        have other := ((Table.lookup_erase_iff _ _ _ _).mp after).2
        exact absurd (Option.some.inj (other.symm.trans before)) changed
      buyouts := fun _ _ _ _ _ step => by cases step
      mails := ⟨cancelMails id a item, took.mails, fun m member => by
        rcases List.mem_cons.mp member with rfl | back
        · exact ⟨a, found, rfl⟩
        · split at back
          · cases back
          · rw [List.mem_singleton] at back
            subst back
            exact ⟨a, found, rfl, UInt32.toNat_toUInt64 _⟩⟩ }

end Packets

/-! ### Expiry -/

/-- What some endings do: auctions go, and their bids become profits. -/
structure EndedBy {r : Realm} (step : AuctionStep r) (s s' : State) : Prop where
  auctions : ∀ id a, s'.auctions.lookup id = some a → s.auctions.lookup id = some a
  settled : s'.escrow + mailed s'.mails + s'.deposits + s.cuts r =
    s.escrow + mailed s.mails + s.deposits + s'.cuts r
  mails : ∃ new, s'.mails = new ++ s.mails ∧ ∀ m ∈ new, MailLaw s step m

section Expiry

variable {r : Realm} {s : State} {now : ℕ}

lemma EndedBy.refl (step : AuctionStep r) (s : State) : EndedBy step s s :=
  ⟨fun _ _ found => found, rfl, ⟨[], rfl, fun _ member => absurd member List.not_mem_nil⟩⟩

/-- One more auction ends, and its bid is what the winner is charged and the seller sent. -/
lemma EndedBy.closed {s' : State} (valid : ∀ id a, s.auctions.lookup id = some a → a.Valid r)
    (ended : EndedBy (.update now : AuctionStep r) s s') {a : AuctionEntry}
    (found : s'.auctions.lookup id = some a) (fits : a.bidder ≠ 0 → ProfitFits r a a.bid) :
    EndedBy (.update now : AuctionStep r) s (s'.closed r id a) := by
  have before := ended.auctions id a found
  have ok := valid id a before
  obtain ⟨new, mails, law⟩ := ended.mails
  have escrow := Table.total_erase (fun _ a => a.bid.toNat) s'.auctions id a found
  have deposits := Table.total_erase
    (fun _ a => if a.bidder = 0 then 0 else a.deposit.toNat) s'.auctions id a found
  have cuts := Table.total_erase
    (fun _ a => if a.bidder = 0 then 0 else (a.getAuctionCut r).toNat) s'.auctions id a found
  have settled := ended.settled
  refine ⟨fun k b after => ended.auctions k b ((Table.lookup_erase_iff _ _ _ _).mp after).2, ?_, ?_⟩
  · by_cases none_ : a.bidder = 0
    · have sent : mailed (endMails r s' id a) = 0 := by
        rw [endMails, if_pos none_, mailed_itemMail]
      have bid : a.bid.toNat = 0 := by rw [ok.noBid none_]; rfl
      simp only [none_, if_true] at deposits cuts
      simp only [State.closed, State.escrow, State.deposits, State.cuts, mailed_append, sent] at settled ⊢
      omega
    · have sent : mailed (endMails r s' id a) = (profit r a).toUInt64.toNat := by
        rw [endMails, if_neg none_, mailed_append, mailed_itemMail]
        simp [mailed]
      have sold := profit_toNat (fits none_)
      simp only [none_, if_false, AuctionEntry.getAuctionCut] at deposits cuts
      simp only [State.closed, State.escrow, State.deposits, State.cuts, mailed_append, sent,
        AuctionEntry.getAuctionCut] at settled ⊢
      omega
  · refine ⟨endMails r s' id a ++ new, by rw [State.closed, mails, List.append_assoc], fun m member => ?_⟩
    rcases List.mem_append.mp member with now_ | earlier
    · unfold endMails at now_
      split at now_
      · exact itemMail_law before (Or.inr rfl) now_
      next some_ =>
        rcases List.mem_append.mp now_ with item | profit_
        · exact itemMail_law before (Or.inl rfl) item
        · rw [List.mem_singleton] at profit_
          subst profit_
          exact ⟨a, before, rfl, profit_toNat (fits some_)⟩
    · exact law m earlier

lemma update_ended (valid : ∀ id a, s.auctions.lookup id = some a → a.Valid r)
    (fits : AuctionStep.Exact s (.update now : AuctionStep r)) :
    EndedBy (.update now : AuctionStep r) s (s.update r now) :=
  update_rule (fun _ ended id a found => valid id a (ended.auctions id a found))
    (fun _ id a ended found expired => ended.closed valid found
      (fits id a (ended.auctions id a found) expired)) (EndedBy.refl _ s)

lemma update_law (sound : s.Sound r) (fits : AuctionStep.Exact s (.update now : AuctionStep r)) :
    CopperLaw s (.update now : AuctionStep r) := by
  have ended := update_ended sound.valid fits
  have gold := (update_ends sound.valid now).gold
  exact {
    conserved := fun players _ => by
      have settled := ended.settled
      simp only [AuctionStep.outside, State.serve, State.copper, gold]
      omega
    bids := fun id a a' before after changed =>
      absurd (Option.some.inj ((ended.auctions id a' after).symm.trans before)) changed
    buyouts := fun _ _ _ _ _ step => by cases step
    mails := ended.mails }

end Expiry

/-! ### Whole runs -/

lemma serve_law {r : Realm} {s : State} (sound : s.Sound r) (step : AuctionStep r) (exact_ : step.Exact s) :
    CopperLaw s step := by
  cases step with
  | sell player p now => exact sell_law sound player p now exact_
  | placeBid player auctioneer id price => exact placeBid_law sound player auctioneer id price exact_
  | removeItem player auctioneer id => exact removeItem_law sound player auctioneer id
  | update now => exact update_law sound exact_

/-- In every run whose steps cut no amount down to 32 bits, every step obeys the copper
law. -/
theorem copperLaw_along (r : Realm) (gold : UInt32 → UInt64)
    (capped : ∀ p, (gold p).toNat ≤ maxMoneyAmount.toNat) (inventory : UInt32 → Table ℕ Item)
    (itemGuid : ℕ) (steps : List (AuctionStep r))
    (exact_ : Along State.serve (fun s step => step.Exact s) (.opened gold inventory itemGuid) steps) :
    Along State.serve CopperLaw (.opened gold inventory itemGuid) steps :=
  along_of_invariant (State.Sound r) (fun _ step sound _ => serve_sound sound step)
    (fun _ step sound exact_ => serve_law sound step exact_)
    (opened_sound r gold capped inventory itemGuid) exact_

instance (r : Realm) (a : AuctionEntry) (price : UInt32) : Decidable (ProfitFits r a price) :=
  inferInstanceAs (Decidable (_ ∧ _))

/-- A realm where every house cut and minimal raise is a twentieth. -/
def tradeRealm : Realm :=
  { isCharacter := fun _ => true, conjured := fun _ => false, maxStackCount := fun _ => 20
    auctionTime := fun etime => etime.toNat, auctionDeposit := fun _ _ _ _ => 100
    auctionCut := fun _ bid => bid / 20, fivePercent := fun bid => bid / 20 }

def trader (guid : UInt32) (nonzero : guid ≠ 0) : Actor tradeRealm := ⟨guid, nonzero, rfl⟩

def fairground (gold : UInt64) : State :=
  .opened (fun _ => gold)
    (fun _ => AList.singleton 5
      { entry := 100, count := 5, canBeTraded := true, isNotEmptyBag := false, expiration := 0 }) 10

def sellStack : AuctionStep tradeRealm :=
  .sell (trader 1 (by decide))
    { auctioneer := some ⟨.neutral, 7⟩, bid := 50, buyout := 0, etime := 720, items := [(5, 5)]
      fiveBits := by decide } 0

def bidOnStack (player : UInt32) (nonzero : player ≠ 0) (price : UInt64) :
    AuctionStep tradeRealm :=
  .placeBid (trader player nonzero) (some ⟨.neutral, 7⟩) 1 price

def firstBid : AuctionStep tradeRealm := bidOnStack 2 (by decide) 60

def outbid : AuctionStep tradeRealm := bidOnStack 3 (by decide) 70

/-- A sale, a bid, an outbid and the end of the auction. -/
theorem copperLaw_along_outbid :
    Along State.serve CopperLaw (fairground 1000)
      [sellStack, firstBid, outbid, .update 43200] := by
  refine copperLaw_along tradeRealm _ (fun _ => by decide) _ 10 _ ⟨fun sale passes => ?_, ?_, ?_, ?_, trivial⟩
  · have enough := (checkSale_ok passes).deposit
    exact Nat.le_trans enough (by decide)
  · intro a passes
    obtain ⟨found, -⟩ := checkBid_ok passes
    exact (by decide +kernel : ∀ a, a ∈ ((fairground 1000).serve sellStack).auctions.lookup 1 →
      if a.isBid 60 then (60 : UInt64).toNat < 2 ^ 32 else ProfitFits tradeRealm a a.buyout) a found
  · intro a passes
    obtain ⟨found, -⟩ := checkBid_ok passes
    exact (by decide +kernel : ∀ a, a ∈ (((fairground 1000).serve sellStack).serve
        firstBid).auctions.lookup 1 →
      if a.isBid 70 then (70 : UInt64).toNat < 2 ^ 32 else ProfitFits tradeRealm a a.buyout) a found
  · intro id a found expired bidden
    have fits : ∀ e ∈ ((((fairground 1000).serve sellStack).serve firstBid).serve
        outbid).auctions.entries, ProfitFits tradeRealm e.2 e.2.bid := by
      decide +kernel
    exact fits ⟨id, a⟩ (AList.mem_lookup_iff.mp found)

/-- A bid of five copper above `2 ^ 32` is taken whole and stored as five. -/
theorem wide_bid_not_conserved :
    ¬ ∀ (r : Realm) (gold : UInt32 → UInt64), (∀ p, (gold p).toNat ≤ maxMoneyAmount.toNat) →
      ∀ (inventory : UInt32 → Table ℕ Item) (itemGuid : ℕ) (steps : List (AuctionStep r)),
        Along State.serve CopperLaw (.opened gold inventory itemGuid) steps := by
  intro claim
  have laws : Along State.serve CopperLaw (fairground 9999999999)
      [sellStack, bidOnStack 2 (by decide) 4294967301] :=
    claim tradeRealm _ (fun _ => by decide) _ 10 _
  have kept := laws.2.1.conserved {2} fun p sender =>
    Finset.mem_singleton.mpr (Option.some.inj sender).symm
  revert kept
  decide +kernel

end WorldServer.AuctionHouse
