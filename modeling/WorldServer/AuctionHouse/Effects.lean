import WorldServer.AuctionHouse.Handlers

/-!
# What one step does

`Sound` is the invariant every step keeps. In a sound state each handler's change is
a debit of one player, some mails in front of the old ones, and one auction that is
added, replaced or removed.
-/
namespace WorldServer.AuctionHouse

open WorldServer.Lib WorldServer.Entities

structure AuctionEntry.Valid (r : Realm) (a : AuctionEntry) : Prop where
  owner : r.isCharacter a.owner = true
  bidder : a.bidder ≠ 0 → r.isCharacter a.bidder = true
  noBid : a.bidder = 0 → a.bid = 0
  belowBuyout : a.buyout ≠ 0 → a.bid.toNat < a.buyout.toNat

/-- Nobody's gold uses the sign bit, ids below the counter are taken, and every auction is
valid. -/
structure State.Sound (r : Realm) (s : State) : Prop where
  purse : ∀ p, (s.gold p).toNat < 2 ^ 63
  valid : ∀ id a, s.auctions.lookup id = some a → a.Valid r
  below : ∀ id a, s.auctions.lookup id = some a → id < s.auctionId

/-! ### Debits -/

/-- One player pays an amount, and nobody else's gold changes. -/
structure Paid (gold gold' : UInt32 → UInt64) (player : UInt32) (n : ℕ) : Prop where
  payer : (gold' player).toNat + n = (gold player).toNat
  others : ∀ p, p ≠ player → gold' p = gold p

lemma Paid.nothing (gold : UInt32 → UInt64) (player : UInt32) : Paid gold gold player 0 :=
  ⟨rfl, fun _ _ => rfl⟩

variable {player : UInt32} {n id : ℕ} {r : Realm} {s : State} {a : AuctionEntry}

lemma Paid.le {gold gold' : UInt32 → UInt64} (paid : Paid gold gold' player n) (p : UInt32) :
    (gold' p).toNat ≤ (gold p).toNat := by
  by_cases here : p = player
  · subst here
    have payer := paid.payer
    omega
  · rw [paid.others p here]

lemma Paid.sum {gold gold' : UInt32 → UInt64} (paid : Paid gold gold' player n)
    {players : Finset UInt32} (member : player ∈ players) :
    ∑ p ∈ players, (gold' p).toNat + n = ∑ p ∈ players, (gold p).toNat := by
  have moved := sum_update players (fun p => (gold p).toNat) player (gold' player).toNat member
  have same : ∀ p, (gold' p).toNat =
      Function.update (fun p => (gold p).toNat) player (gold' player).toNat p := by
    intro p
    by_cases here : p = player
    · subst here
      simp
    · simp [here, paid.others p here]
  have payer := paid.payer
  simp only [← same] at moved
  omega

lemma debit_paid (s : State) (player : UInt32) {amount : Int64} (value : amount.toInt = -n)
    (enough : n ≤ (s.gold player).toNat) : Paid s.gold (s.debit player amount).gold player n where
  payer := by
    have exact_ := (modifyMoney_debit_exact (s.gold player) amount n value enough).1
    simp only [State.debit, Function.update_self]
    omega
  others p other := Function.update_of_ne other _ _

lemma toInt_neg_toInt64 {x : UInt64} (small : x.toNat < 2 ^ 63) :
    (-x.toInt64).toInt = -(x.toNat : ℤ) := by
  have value := toInt_toInt64 small
  rw [toInt_neg (by omega), value]

lemma toInt_neg_deposit {x : UInt32} (small : x.toNat ≤ 2 ^ 31) :
    (-x.toInt32).toInt64.toInt = -(x.toNat : ℤ) := by
  have word := toInt_toInt32_mod x
  have lower := x.toInt32.le_toInt
  have upper := x.toInt32.toInt_lt
  rw [Int32.toInt_toInt64, Int32.toInt_neg]
  rcases Nat.lt_or_ge x.toNat (2 ^ 31) with below | above
  · rw [Int.bmod_eq_of_le (by omega) (by omega)]
    omega
  · have least : x.toInt32.toInt = -2 ^ 31 := by omega
    have top : x.toNat = 2 ^ 31 := by omega
    rw [least, top]
    decide

/-! ### Mails -/

def outbidMail (id : ℕ) (a : AuctionEntry) (player : UInt32) : List AuctionMail :=
  if a.bidder = 0 ∨ a.bidder = player then []
  else [⟨id, .outbidded, a.bidder, a.bid.toUInt64, none⟩]

def profit (r : Realm) (a : AuctionEntry) : UInt32 := a.bid + a.deposit - a.getAuctionCut r

def itemMail (s : State) (id : ℕ) (a : AuctionEntry) (answer : MailAuctionAnswers) (receiver : UInt32) :
    List AuctionMail :=
  match s.aItems.lookup a.itemGUIDLow with
  | none => []
  | some item => [⟨id, answer, receiver, 0, some (a.itemGUIDLow, item)⟩]

def endMails (r : Realm) (s : State) (id : ℕ) (a : AuctionEntry) : List AuctionMail :=
  if a.bidder = 0 then itemMail s id a .expired a.owner
  else itemMail s id a .won a.bidder ++ [⟨id, .successful, a.owner, (profit r a).toUInt64, none⟩]

lemma mailIfCharacter_known {m : AuctionMail} (known : r.isCharacter m.receiver = true) :
    s.mailIfCharacter r m = s.sendMailTo m :=
  if_pos known

lemma sendAuctionWonMail_mails (known : r.isCharacter a.bidder = true) :
    s.sendAuctionWonMail r id a =
      { s with mails := itemMail s id a .won a.bidder ++ s.mails } := by
  unfold State.sendAuctionWonMail itemMail State.getAItem
  cases s.aItems.lookup a.itemGUIDLow with
  | none => rfl
  | some item => exact mailIfCharacter_known known

lemma sendAuctionExpiredMail_mails (known : r.isCharacter a.owner = true) :
    s.sendAuctionExpiredMail r id a =
      { s with mails := itemMail s id a .expired a.owner ++ s.mails } := by
  unfold State.sendAuctionExpiredMail itemMail State.getAItem
  cases s.aItems.lookup a.itemGUIDLow with
  | none => rfl
  | some item => exact mailIfCharacter_known known

lemma sendEndMails_mails (valid : a.Valid r) :
    s.sendEndMails r id a = { s with mails := endMails r s id a ++ s.mails } := by
  unfold State.sendEndMails endMails
  split
  · exact sendAuctionExpiredMail_mails valid.owner
  next bidden =>
    have sold : s.sendAuctionSuccessfulMail r id a =
        { s with mails := ⟨id, .successful, a.owner, (profit r a).toUInt64, none⟩ :: s.mails } :=
      mailIfCharacter_known valid.owner
    rw [sold, sendAuctionWonMail_mails (valid.bidder bidden), List.append_assoc]
    rfl

/-! ### Bids and buyouts -/

def paidBefore (a : AuctionEntry) (player : UInt32) : ℕ := if a.bidder = player then a.bid.toNat else 0

/-- What changes when a bid or a buyout is taken: the player's gold and the mails, and what
the table of auctions becomes. -/
structure Took (s s' : State) (player : UInt32) (n : ℕ) (new : List AuctionMail) : Prop where
  paid : Paid s.gold s'.gold player n
  mails : s'.mails = new ++ s.mails
  inventory : s'.inventory = s.inventory
  auctionId : s'.auctionId = s.auctionId
  itemGuid : s'.itemGuid = s.itemGuid

lemma placeBid_took (sound : s.Sound r) (nonzero : player ≠ 0)
    (found : s.auctions.lookup id = some a) {price : UInt64} (higher : a.bid.toNat < price.toNat)
    (enough : price.toNat ≤ (s.gold player).toNat) :
    Took s (s.placeBid r player id a price) player (price.toNat - paidBefore a player)
      (outbidMail id a player) ∧
    (s.placeBid r player id a price).auctions =
      s.auctions.insert id { a with bidder := player, bid := price.toUInt32 } ∧
    (s.placeBid r player id a price).aItems = s.aItems := by
  have purse := sound.purse player
  have valid := sound.valid id a found
  unfold State.placeBid
  by_cases none_ : a.bidder = 0
  · have apart : ¬ (0 = player) := Ne.symm nonzero
    have zero : ¬ ((0 : UInt32) < 0) := by decide
    simp only [none_, zero, if_false, paidBefore, apart, outbidMail, true_or, if_true, Nat.sub_zero]
    have paid := debit_paid s player (toInt_neg_toInt64 (by omega)) enough
    exact ⟨⟨paid, rfl, rfl, rfl, rfl⟩, rfl, rfl⟩
  · have some_ : 0 < a.bidder := UInt32.pos_iff_ne_zero.mpr none_
    by_cases own : a.bidder = player
    · -- the same bidder only pays the difference
      have difference : (price - a.bid.toUInt64).toNat = price.toNat - a.bid.toNat := by
        rw [UInt64.toNat_sub_of_le, UInt32.toNat_toUInt64]
        rw [UInt64.le_iff_toNat_le, UInt32.toNat_toUInt64]
        omega
      have positive : 0 < player := own ▸ some_
      simp only [own, positive, if_true, paidBefore, outbidMail, or_true]
      have paid := debit_paid s player (toInt_neg_toInt64
        (show (price - a.bid.toUInt64).toNat < 2 ^ 63 by omega)) (by omega)
      rw [difference] at paid
      exact ⟨⟨paid, rfl, rfl, rfl, rfl⟩, rfl, rfl⟩
    · have known := valid.bidder none_
      simp only [some_, own, none_, if_true, if_false, paidBefore, outbidMail, false_or, Nat.sub_zero]
      rw [State.sendAuctionOutbiddedMail, mailIfCharacter_known known]
      have paid := debit_paid (s.sendMailTo ⟨id, .outbidded, a.bidder, a.bid.toUInt64, none⟩) player
        (toInt_neg_toInt64 (by omega)) enough
      exact ⟨⟨paid, rfl, rfl, rfl, rfl⟩, rfl, rfl⟩

/-- The mails of a buyout, newest first: the item, the profit, the notice, and the last
bidder's refund. -/
def buyOutMails (r : Realm) (s : State) (id : ℕ) (a : AuctionEntry) (player : UInt32) : List AuctionMail :=
  let bought := { a with bidder := player, bid := a.buyout }
  itemMail s id bought .won player ++
    [⟨id, .successful, a.owner, (profit r bought).toUInt64, none⟩, ⟨id, .salePending, a.owner, 0, none⟩] ++
    outbidMail id a player

lemma buyOut_took (sound : s.Sound r) (actor : r.isCharacter player = true)
    (found : s.auctions.lookup id = some a) (buyout : a.buyout ≠ 0)
    (enough : a.buyout.toNat ≤ (s.gold player).toNat) :
    Took s (s.buyOut r player id a) player (a.buyout.toNat - paidBefore a player)
      (buyOutMails r s id a player) ∧
    (s.buyOut r player id a).auctions = s.auctions.erase id ∧
    (s.buyOut r player id a).aItems = s.aItems.erase a.itemGUIDLow := by
  have purse := sound.purse player
  have valid := sound.valid id a found
  have below := valid.belowBuyout buyout
  have value : a.buyout.toUInt64.toNat = a.buyout.toNat := UInt32.toNat_toUInt64 _
  -- whoever bid before, the player's debit and the refund come first
  obtain ⟨paidState, paid_, refund, paid⟩ : ∃ paidState : State,
      (if player = a.bidder then s.debit player (-(a.buyout - a.bid).toUInt64.toInt64)
        else if a.bidder ≠ 0 then
          (s.debit player (-a.buyout.toUInt64.toInt64)).sendAuctionOutbiddedMail r id a
        else s.debit player (-a.buyout.toUInt64.toInt64)) = paidState ∧
      paidState = { s with gold := paidState.gold, mails := outbidMail id a player ++ s.mails } ∧
      Paid s.gold paidState.gold player (a.buyout.toNat - paidBefore a player) := by
    refine ⟨_, rfl, ?_⟩
    by_cases own : a.bidder = player
    · have difference : (a.buyout - a.bid).toUInt64.toNat = a.buyout.toNat - a.bid.toNat := by
        rw [UInt32.toNat_toUInt64, UInt32.toNat_sub_of_le]
        rw [UInt32.le_iff_toNat_le]
        omega
      simp only [own, if_true, outbidMail, or_true, paidBefore, List.nil_append]
      have paid := debit_paid s player (toInt_neg_toInt64
        (show (a.buyout - a.bid).toUInt64.toNat < 2 ^ 63 by omega)) (by omega)
      rw [difference] at paid
      exact ⟨rfl, paid⟩
    · have apart : ¬ player = a.bidder := Ne.symm own
      have paid := debit_paid s player (toInt_neg_toInt64
        (show a.buyout.toUInt64.toNat < 2 ^ 63 by omega)) (by omega)
      by_cases none_ : a.bidder = 0
      · have same := own
        rw [none_] at same
        simp only [none_, same, if_false, ne_eq, not_true_eq_false, outbidMail, true_or, if_true,
          List.nil_append, paidBefore, Nat.sub_zero]
        rw [none_] at apart
        rw [if_neg apart]
        exact ⟨rfl, paid⟩
      · have known := valid.bidder none_
        simp only [apart, own, none_, if_false, ne_eq, not_false_eq_true, if_true, outbidMail, false_or,
          paidBefore, Nat.sub_zero]
        rw [State.sendAuctionOutbiddedMail, mailIfCharacter_known known]
        exact ⟨rfl, paid⟩
  have bought : s.buyOut r player id a = { s with
      gold := paidState.gold
      mails := buyOutMails r s id a player ++ s.mails
      auctions := s.auctions.erase id
      aItems := s.aItems.erase a.itemGUIDLow } := by
    simp only [State.buyOut]
    rw [paid_, refund]
    simp only [State.sendAuctionSalePendingMail, State.sendAuctionSuccessfulMail]
    rw [mailIfCharacter_known valid.owner, mailIfCharacter_known valid.owner,
      sendAuctionWonMail_mails actor]
    simp [State.removeAuction, State.sendMailTo, buyOutMails, itemMail, profit]
  rw [bought]
  exact ⟨⟨paid, rfl, rfl, rfl, rfl⟩, rfl, rfl⟩

/-! ### Cancellation -/

def cancelMails (id : ℕ) (a : AuctionEntry) (item : Item) : List AuctionMail :=
  ⟨id, .canceled, a.owner, 0, some (a.itemGUIDLow, item)⟩ ::
    if a.bidder = 0 then [] else [⟨id, .cancelledToBidder, a.bidder, a.bid.toUInt64, none⟩]

def cancelCut (r : Realm) (a : AuctionEntry) : ℕ :=
  if a.bidder = 0 then 0 else (a.getAuctionCut r).toNat

lemma cancelAuction_took (sound : s.Sound r) (found : s.auctions.lookup id = some a) (item : Item)
    (enough : a.bidder ≠ 0 → (a.getAuctionCut r).toNat ≤ (s.gold a.owner).toNat) :
    Took s (s.cancelAuction r a.owner id a item) a.owner (cancelCut r a) (cancelMails id a item) ∧
    (s.cancelAuction r a.owner id a item).auctions = s.auctions.erase id ∧
    (s.cancelAuction r a.owner id a item).aItems = s.aItems.erase a.itemGUIDLow := by
  have valid := sound.valid id a found
  unfold State.cancelAuction
  by_cases none_ : a.bidder = 0
  · have zero : ¬ ((0 : UInt32) < 0) := by decide
    simp only [none_, zero, if_false, cancelCut, cancelMails, if_true]
    exact ⟨⟨.nothing _ _, rfl, rfl, rfl, rfl⟩, rfl, rfl⟩
  · have some_ : 0 < a.bidder := UInt32.pos_iff_ne_zero.mpr none_
    have value : (a.getAuctionCut r).toUInt64.toNat = (a.getAuctionCut r).toNat :=
      UInt32.toNat_toUInt64 _
    have size := (a.getAuctionCut r).toNat_lt
    simp only [some_, none_, if_true, if_false, cancelCut, cancelMails]
    rw [State.sendAuctionCancelledToBidderMail, mailIfCharacter_known (valid.bidder none_)]
    have paid := debit_paid (s.sendMailTo ⟨id, .cancelledToBidder, a.bidder, a.bid.toUInt64, none⟩)
      a.owner (toInt_neg_toInt64 (show (a.getAuctionCut r).toUInt64.toNat < 2 ^ 63 by omega))
      (by rw [value]; exact enough none_)
    exact ⟨⟨paid, rfl, rfl, rfl, rfl⟩, rfl, rfl⟩

/-! ### Selling and expiry -/

def Sale.auction (sale : Sale) (player : UInt32) (p : SellRequest) (now guid : ℕ) (item : Item) :
    AuctionEntry :=
  { auctioneer := sale.auctioneer, itemGUIDLow := guid, itemEntry := item.entry
    itemCount := item.count, owner := player, startbid := p.bid.toUInt32, bid := 0
    buyout := p.buyout.toUInt32, expireTime := now + sale.auctionTime, bidder := 0
    deposit := sale.deposit }

/-- A sale in three places: the deposit, the new auction, and its item. -/
structure Listed (r : Realm) (s s' : State) (player : UInt32) (p : SellRequest) (now : ℕ) (sale : Sale)
    (guid : ℕ) (item : Item) : Prop where
  checked : Checked r s player p sale
  gold : s'.gold = Function.update s.gold player
    (modifyMoney (s.gold player) (-sale.deposit.toInt32).toInt64).1
  mails : s'.mails = s.mails
  auctions : s'.auctions = s.auctions.insert s.auctionId (sale.auction player p now guid item)
  aItems : s'.aItems = s.aItems.insert guid item
  auctionId : s'.auctionId = s.auctionId + 1
  guid : (guid = sale.item.1 ∧ s'.itemGuid = s.itemGuid ∧
      s'.inventory = Function.update s.inventory player ((s.inventory player).erase guid)) ∨
    (guid = s.itemGuid ∧ s'.itemGuid = s.itemGuid + 1 ∧
      s'.inventory = Function.update s.inventory player
        (p.items.foldl removeSold (s.inventory player)))

lemma sell_listed (r : Realm) (s : State) (player : UInt32) (p : SellRequest) (now : ℕ) :
    ((∃ e, s.checkSale r player p = .error e) ∧ (s.handleAuctionSellItem r player p now).1 = s) ∨
    ∃ sale guid item, s.checkSale r player p = .ok sale ∧
      Listed r s (s.handleAuctionSellItem r player p now).1 player p now sale guid item := by
  rcases handleAuctionSellItem_cases r s player p now with
    rejected | ⟨sale, passes, moved | ⟨item, copied⟩⟩
  · exact Or.inl rejected
  · rw [moved]
    exact Or.inr ⟨sale, sale.item.1, sale.item.2, passes, checkSale_ok passes, rfl, rfl, rfl, rfl, rfl,
      Or.inl ⟨rfl, rfl, rfl⟩⟩
  · rw [copied]
    exact Or.inr ⟨sale, s.itemGuid, item, passes, checkSale_ok passes, rfl, rfl, rfl, rfl, rfl,
      Or.inr ⟨rfl, rfl, rfl⟩⟩

def State.closed (r : Realm) (s : State) (id : ℕ) (a : AuctionEntry) : State :=
  { s with
    mails := endMails r s id a ++ s.mails
    auctions := s.auctions.erase id
    aItems := s.aItems.erase a.itemGUIDLow }

lemma endAuction_cases (valid : ∀ id a, s.auctions.lookup id = some a → a.Valid r)
    (auctionsMap : AuctionsMap) (id : ℕ) :
    s.endAuction r auctionsMap id = s ∨
    ∃ a, s.auctions.lookup id = some a ∧ s.endAuction r auctionsMap id = s.closed r id a := by
  unfold State.endAuction
  split
  · exact Or.inl rfl
  next a found =>
    have here := getAuction_lookup found
    refine Or.inr ⟨a, here, ?_⟩
    rw [sendEndMails_mails (valid id a here)]
    rfl

end WorldServer.AuctionHouse
