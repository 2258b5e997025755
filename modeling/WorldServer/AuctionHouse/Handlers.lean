import WorldServer.AuctionHouse.SellItem

/-!
# Bids, cancellations and the end of auctions

Five ways lead out of the map of auctions: a buyout, a cancellation, the update with
and without a bidder, and the deletion of expired rows when the server starts. Each
sends its own mails.
-/
namespace WorldServer.AuctionHouse

open WorldServer.Lib WorldServer.Entities

namespace State

/-- The managers' mails are sent when the receiver exists, online or not. -/
def mailIfCharacter (r : Realm) (s : State) (m : AuctionMail) : State :=
  if r.isCharacter m.receiver then s.sendMailTo m else s

def sendAuctionOutbiddedMail (r : Realm) (s : State) (id : ℕ) (a : AuctionEntry) : State :=
  s.mailIfCharacter r ⟨id, .outbidded, a.bidder, a.bid.toUInt64, none⟩

def sendAuctionSalePendingMail (r : Realm) (s : State) (id : ℕ) (a : AuctionEntry) : State :=
  s.mailIfCharacter r ⟨id, .salePending, a.owner, 0, none⟩

def sendAuctionSuccessfulMail (r : Realm) (s : State) (id : ℕ) (a : AuctionEntry) : State :=
  let profit := a.bid + a.deposit - a.getAuctionCut r
  s.mailIfCharacter r ⟨id, .successful, a.owner, profit.toUInt64, none⟩

def sendAuctionWonMail (r : Realm) (s : State) (id : ℕ) (a : AuctionEntry) : State :=
  match s.getAItem a.itemGUIDLow with
  | none => s
  | some item => s.mailIfCharacter r ⟨id, .won, a.bidder, 0, some (a.itemGUIDLow, item)⟩

def sendAuctionExpiredMail (r : Realm) (s : State) (id : ℕ) (a : AuctionEntry) : State :=
  match s.getAItem a.itemGUIDLow with
  | none => s
  | some item => s.mailIfCharacter r ⟨id, .expired, a.owner, 0, some (a.itemGUIDLow, item)⟩

def sendAuctionCancelledToBidderMail (r : Realm) (s : State) (id : ℕ) (a : AuctionEntry) : State :=
  s.mailIfCharacter r ⟨id, .cancelledToBidder, a.bidder, a.bid.toUInt64, none⟩

/-! ### Bids -/

def placeBid (r : Realm) (s : State) (player : UInt32) (id : ℕ) (a : AuctionEntry) (price : UInt64) :
    State :=
  let s :=
    if 0 < a.bidder then
      if a.bidder = player then s.debit player (-(price - a.bid.toUInt64).toInt64)
      else (s.sendAuctionOutbiddedMail r id a).debit player (-price.toInt64)
    else s.debit player (-price.toInt64)
  -- the stored bid has 32 bits, the price that was taken has 64
  { s with auctions := s.auctions.insert id { a with bidder := player, bid := price.toUInt32 } }

def buyOut (r : Realm) (s : State) (player : UInt32) (id : ℕ) (a : AuctionEntry) : State :=
  let s :=
    if player = a.bidder then s.debit player (-(a.buyout - a.bid).toUInt64.toInt64)
    else
      let s := s.debit player (-a.buyout.toUInt64.toInt64)
      if a.bidder ≠ 0 then s.sendAuctionOutbiddedMail r id a else s
  let a := { a with bidder := player, bid := a.buyout }
  let s := s.sendAuctionSalePendingMail r id a
  let s := s.sendAuctionSuccessfulMail r id a
  let s := s.sendAuctionWonMail r id a
  s.removeAuction id a

def checkBid (r : Realm) (s : State) (player : UInt32) (auctioneer : Option Auctioneer)
    (auctionId : ℕ) (price : UInt64) : Except (Option AuctionError) AuctionEntry :=
  if auctionId = 0 ∨ price = 0 then .error none
  else match auctioneer with
    | none => .error none
    | some auctioneer =>
      match s.getAuction auctioneer.auctionsMap auctionId with
      | none => .error (some .bidOwn)
      | some a =>
        if a.owner = player then .error (some .bidOwn)
        else if price ≤ a.bid.toUInt64 ∨ price < a.startbid.toUInt64 then .error none
        else if a.isBid price && price < (a.bid + a.getAuctionOutBid r).toUInt64 then
          .error (some .higherBid)
        else if !hasEnoughMoney (s.gold player) price then .error (some .notEnoughtMoney)
        else .ok a

def handleAuctionPlaceBid (r : Realm) (s : State) (player : UInt32) (auctioneer : Option Auctioneer)
    (auctionId : ℕ) (price : UInt64) : State × Option AuctionError :=
  match s.checkBid r player auctioneer auctionId price with
  | .error e => (s, e)
  | .ok a =>
    if a.isBid price then (s.placeBid r player auctionId a price, some .ok)
    else (s.buyOut r player auctionId a, some .ok)

def cancelAuction (r : Realm) (s : State) (player : UInt32) (id : ℕ) (a : AuctionEntry) (item : Item) :
    State :=
  let s :=
    -- the owner pays the cut of a bid that has to be sent back
    if 0 < a.bidder then
      (s.sendAuctionCancelledToBidderMail r id a).debit player
        (-(a.getAuctionCut r).toUInt64.toInt64)
    else s
  let s := s.sendMailTo ⟨id, .canceled, player, 0, some (a.itemGUIDLow, item)⟩
  s.removeAuction id a

def handleAuctionRemoveItem (r : Realm) (s : State) (player : UInt32) (auctioneer : Option Auctioneer)
    (auctionId : ℕ) : State × Option AuctionError :=
  match auctioneer with
  | none => (s, none)
  | some auctioneer =>
    match s.getAuction auctioneer.auctionsMap auctionId with
    | none => (s, some .databaseError)
    | some a =>
      if a.owner ≠ player then (s, some .databaseError)
      else match s.getAItem a.itemGUIDLow with
        | none => (s, some .databaseError)
        | some item =>
          if 0 < a.bidder && !hasEnoughMoney (s.gold player) (a.getAuctionCut r).toUInt64 then
            (s, none)
          else (s.cancelAuction r player auctionId a item, some .ok)

/-! ### Expiry -/

def selectByTime (s : State) (time : ℕ) : List ℕ :=
  ((s.auctions.entries.filter fun e => e.2.expireTime ≤ time).insertionSort
    fun e f => e.2.expireTime ≤ f.2.expireTime).map (·.1)

def sendEndMails (r : Realm) (s : State) (id : ℕ) (a : AuctionEntry) : State :=
  if a.bidder = 0 then s.sendAuctionExpiredMail r id a
  else (s.sendAuctionSuccessfulMail r id a).sendAuctionWonMail r id a

def endAuction (r : Realm) (auctionsMap : AuctionsMap) (s : State) (id : ℕ) : State :=
  match s.getAuction auctionsMap id with
  | none => s
  | some a => (s.sendEndMails r id a).removeAuction id a

def updateMap (r : Realm) (now : ℕ) (s : State) (auctionsMap : AuctionsMap) : State :=
  (s.selectByTime (now + 60)).foldl (endAuction r auctionsMap) s

def update (r : Realm) (s : State) (now : ℕ) : State :=
  [AuctionsMap.horde, .alliance, .neutral].foldl (updateMap r now) s

/-- What the expired rows do at start-up: the mails are sent while no auction item is
loaded. -/
def deleteExpiredAuction (r : Realm) (s : State) (id : ℕ) : State :=
  match s.auctions.lookup id with
  | none => s
  | some a => { s.sendEndMails r id a with auctions := s.auctions.erase id }

def maxId (s : State) : ℕ := (s.auctions.entries.map (·.1)).foldr max 0

/-- The counters start behind what is stored, so the ids of the last auctions are given out
again. `hiItemGuid` is `MAX(guid) + 1` of all items of the realm. -/
def setHighestGuids (s : State) (hiItemGuid : ℕ) : State :=
  { s with auctionId := s.maxId + 1, itemGuid := hiItemGuid }

/-- Expired rows are deleted before the items are loaded, then the items and auctions of the
rows that are left. All queries join the rows with the stored items. -/
def loadAuctions (r : Realm) (s : State) (now : ℕ) : State :=
  let stored := s.aItems
  let joined := s.auctions.keep fun _ a => (stored.lookup a.itemGUIDLow).isSome
  let s := { s with aItems := ∅, auctions := joined }
  let s := (s.selectByTime (now + 60)).foldl (deleteExpiredAuction r) s
  { s with aItems := stored.keep fun guid _ =>
      s.auctions.entries.any fun e => e.2.itemGUIDLow == guid }

/-- A start of the server. -/
def startup (r : Realm) (s : State) (now hiItemGuid : ℕ) : State :=
  (s.setHighestGuids hiItemGuid).loadAuctions r now

end State

/-- Whoever sends a packet is a character. -/
structure Actor (r : Realm) where
  guid : UInt32
  nonzero : guid ≠ 0
  known : r.isCharacter guid = true

inductive AuctionStep (r : Realm) where
  | sell (player : Actor r) (p : SellRequest) (now : ℕ)
  | placeBid (player : Actor r) (auctioneer : Option Auctioneer) (auctionId : ℕ) (price : UInt64)
  | removeItem (player : Actor r) (auctioneer : Option Auctioneer) (auctionId : ℕ)
  | update (now : ℕ)

def State.serve {r : Realm} (s : State) : AuctionStep r → State
  | .sell player p now => (s.handleAuctionSellItem r player.guid p now).1
  | .placeBid player auctioneer auctionId price =>
    (s.handleAuctionPlaceBid r player.guid auctioneer auctionId price).1
  | .removeItem player auctioneer auctionId =>
    (s.handleAuctionRemoveItem r player.guid auctioneer auctionId).1
  | .update now => s.update r now

/-! ### What a packet comes to -/

variable {s : State} {id : ℕ} {a : AuctionEntry}

lemma getAuction_lookup {auctionsMap : AuctionsMap} (found : s.getAuction auctionsMap id = some a) :
    s.auctions.lookup id = some a :=
  (Option.filter_eq_some_iff.mp found).1

/-- A packet that passes becomes an auction of the stack, or of a copy with a new guid. -/
lemma handleAuctionSellItem_cases (r : Realm) (s : State) (player : UInt32) (p : SellRequest)
    (now : ℕ) :
    ((∃ e, s.checkSale r player p = .error e) ∧ (s.handleAuctionSellItem r player p now).1 = s) ∨
    ∃ sale, s.checkSale r player p = .ok sale ∧
      ((s.handleAuctionSellItem r player p now).1 =
          (s.setInventory player ((s.inventory player).erase sale.item.1)).addAuction player p sale
            now sale.item.1 sale.item.2 ∨
        ∃ newItem, (s.handleAuctionSellItem r player p now).1 =
          ((s.setInventory player (p.items.foldl removeSold (s.inventory player))).generateLowGuid
            |>.addAuction player p sale now s.itemGuid newItem)) := by
  unfold State.handleAuctionSellItem
  split
  next e rejected => exact Or.inl ⟨⟨e, rejected⟩, rfl⟩
  next sale passes =>
    dsimp only
    split
    · exact Or.inr ⟨sale, passes, Or.inl rfl⟩
    · have checked := checkSale_ok passes
      rw [checked.finalCount, cloneItem_count checked.nonzero checked.fits]
      exact Or.inr ⟨sale, passes, Or.inr ⟨_, rfl⟩⟩

lemma checkBid_ok {r : Realm} {player : UInt32} {auctioneer : Option Auctioneer} {price : UInt64}
    (passes : s.checkBid r player auctioneer id price = .ok a) :
    s.auctions.lookup id = some a ∧ a.owner ≠ player ∧ a.bid.toNat < price.toNat ∧
      price.toNat ≤ (s.gold player).toNat := by
  unfold State.checkBid at passes
  split at passes
  · cases passes
  split at passes
  · cases passes
  split at passes
  · cases passes
  next b found =>
    split at passes
    · cases passes
    next other =>
      split at passes
      · cases passes
      next higher =>
        split at passes
        · cases passes
        · split at passes
          · cases passes
          next enough =>
            obtain rfl := Except.ok.inj passes
            simp only [not_or, UInt64.not_le, UInt64.lt_iff_toNat_lt, UInt32.toNat_toUInt64] at higher
            simp only [Bool.not_eq_true', Bool.not_eq_false, hasEnoughMoney_iff] at enough
            exact ⟨getAuction_lookup found, other, higher.1, enough⟩

lemma handleAuctionPlaceBid_cases (r : Realm) (s : State) (player : UInt32)
    (auctioneer : Option Auctioneer) (id : ℕ) (price : UInt64) :
    (s.handleAuctionPlaceBid r player auctioneer id price).1 = s ∨
    ∃ a, s.checkBid r player auctioneer id price = .ok a ∧
      ((a.isBid price = true ∧ (s.handleAuctionPlaceBid r player auctioneer id price).1 =
          s.placeBid r player id a price) ∨
        (a.isBid price = false ∧ (s.handleAuctionPlaceBid r player auctioneer id price).1 =
          s.buyOut r player id a)) := by
  unfold State.handleAuctionPlaceBid
  split
  · exact Or.inl rfl
  next a passes =>
    refine Or.inr ⟨a, passes, ?_⟩
    split
    next bid => exact Or.inl ⟨bid, rfl⟩
    next buyout => exact Or.inr ⟨Bool.eq_false_iff.mpr buyout, rfl⟩

lemma handleAuctionRemoveItem_cases (r : Realm) (s : State) (player : UInt32)
    (auctioneer : Option Auctioneer) (id : ℕ) :
    (s.handleAuctionRemoveItem r player auctioneer id).1 = s ∨
    ∃ a item, s.auctions.lookup id = some a ∧ a.owner = player ∧
      s.aItems.lookup a.itemGUIDLow = some item ∧
      (a.bidder ≠ 0 → (a.getAuctionCut r).toNat ≤ (s.gold player).toNat) ∧
      (s.handleAuctionRemoveItem r player auctioneer id).1 = s.cancelAuction r player id a item := by
  unfold State.handleAuctionRemoveItem
  split
  · exact Or.inl rfl
  split
  · exact Or.inl rfl
  next a found =>
    split
    · exact Or.inl rfl
    next own =>
      split
      · exact Or.inl rfl
      next item stored =>
        split
        · exact Or.inl rfl
        next paid =>
          refine Or.inr ⟨a, item, getAuction_lookup found, not_not.mp own, stored, fun bidden => ?_, rfl⟩
          simp only [Bool.and_eq_true, decide_eq_true_eq, Bool.not_eq_true', not_and,
            Bool.not_eq_false, hasEnoughMoney_iff, UInt32.toNat_toUInt64] at paid
          exact paid (UInt32.pos_iff_ne_zero.mpr bidden)

lemma selectByTime_expired {time : ℕ} (selected : id ∈ s.selectByTime time)
    (found : s.auctions.lookup id = some a) : a.expireTime ≤ time := by
  obtain ⟨e, member, rfl⟩ := List.mem_map.mp selected
  rw [List.mem_insertionSort] at member
  obtain ⟨entry, expired⟩ := List.mem_filter.mp member
  have here : s.auctions.lookup e.1 = some e.2 := AList.mem_lookup_iff.mpr entry
  rw [Option.some.inj (found.symm.trans here)]
  exact of_decide_eq_true expired

end WorldServer.AuctionHouse
