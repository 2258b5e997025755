import WorldServer.Entities.Money
import WorldServer.Lib.Table

/-!
# The black market

The server puts items up for auction by templates. A bid is paid at once, and the bidder before it
gets his copper back by mail. An auction that has expired is removed, and its item is mailed to the
last bidder.
-/
namespace WorldServer.BlackMarket

open WorldServer.Lib WorldServer.Entities

structure BlackMarketAuctionTemplate where
  ItemEntry : UInt32
  Quantity : UInt32
  MinBid : UInt32
  Duration : UInt32
  /-- Whether the chance is at least a number from 1 to 100 -/
  drawn : ℕ → Bool

structure BlackMarketAuction where
  templateId : UInt32
  startTime : UInt32
  currentBidder : UInt32
  currentBid : UInt32
  minIncrement : UInt32
  numBids : UInt32
deriving DecidableEq, Repr

inductive BMMailAuctionAnswers where
  | OUTBIDDED
  | WON
deriving DecidableEq, Repr

/-- A mail of the market, with what its subject says -/
structure Mail where
  receiver : UInt32
  response : BMMailAuctionAnswers
  auctionId : UInt32
  templateId : UInt32
  money : UInt64
  /-- The entry and the count of the item -/
  item : Option (UInt32 × UInt32)
deriving DecidableEq, Repr

/-- What the market uses of the server -/
structure Realm where
  templates : Table UInt32 BlackMarketAuctionTemplate
  /-- The largest stack of an item. It is positive, which is checked when items are loaded. -/
  maxStackSize : UInt32 → Option UInt32
  /-- A price times `0.05f` -/
  fivePercent : UInt64 → UInt64
  maxAuctions : ℕ

structure Market where
  gold : Table UInt32 UInt64
  auctions : Table UInt32 BlackMarketAuction
  mails : List Mail

variable (r : Realm)

namespace BlackMarketAuction

variable (a : BlackMarketAuction)

def GetTemplate : Option BlackMarketAuctionTemplate := r.templates.lookup a.templateId

def MinBid : UInt32 := ((a.GetTemplate r).map (·.MinBid)).getD 0

def GetEndTime : UInt32 := a.startTime + ((a.GetTemplate r).map (·.Duration)).getD 0

def IsExpired (now : ℕ) : Bool := (a.GetEndTime r).toNat < now

end BlackMarketAuction

namespace Market

variable (m : Market)

def isCharacter (guid : UInt32) : Bool := (m.gold.lookup guid).isSome

/-! ### Bids -/

def SendAuctionOutbidded (auctionId : UInt32) (auction : BlackMarketAuction) : Market :=
  if m.isCharacter auction.currentBidder then
    { m with mails := m.mails ++
      [⟨auction.currentBidder, .OUTBIDDED, auctionId, auction.templateId,
        auction.currentBid.toUInt64, none⟩] }
  else m

/-- The new bid and its increment are cut down to 32 bits when they are stored. -/
def UpdateAuction (auctionId : UInt32) (auction : BlackMarketAuction)
    (newPrice requiredIncrement : UInt64) (newBidder : UInt32) : Market :=
  let currentBid := newPrice + requiredIncrement
  let minIncrement := r.fivePercent currentBid
  let m := if auction.currentBidder ≠ 0 then m.SendAuctionOutbidded auctionId auction else m
  { m with
    auctions := m.auctions.insert auctionId
      { auction with
        currentBid := currentBid.toUInt32
        currentBidder := newBidder
        minIncrement := minIncrement.toUInt32
        numBids := auction.numBids + 1 } }

def currentRequiredIncrement (auction : BlackMarketAuction) : UInt64 :=
  (auction.currentBid + auction.minIncrement).toUInt64

def admitted (auction : BlackMarketAuction) (player : UInt32) (BidAmount : UInt64) : Bool :=
  BidAmount ≠ 0 ∧ auction.currentBidder ≠ player ∧
    ¬ (auction.currentBid.toUInt64 > BidAmount ∧ BidAmount ≠ (auction.MinBid r).toUInt64) ∧
    ¬ currentRequiredIncrement auction > BidAmount

def HandleBlackMarketBidOnItem (player MarketID : UInt32) (BidAmount : UInt64) : Market :=
  match m.gold.lookup player, m.auctions.lookup MarketID with
  | some gold, some auction =>
    if admitted r auction player BidAmount then
      let newIncrement := BidAmount - currentRequiredIncrement auction
      let paid := modifyMoney gold (-BidAmount.toInt64)
      if paid.2 then
        { m with gold := m.gold.insert player paid.1 }.UpdateAuction r MarketID auction
          (currentRequiredIncrement auction) newIncrement player
      else m
    else m
  | _, _ => m

/-! ### Updates -/

def createItem (entry quantity : UInt32) : Option (UInt32 × UInt32) :=
  if quantity < 1 then none
  else (r.maxStackSize entry).map fun size => (entry, if quantity > size then size else quantity)

/-- The mails for an auction that was won. Nothing is sent for an item that does not exist. -/
def wonMails (auctionId : UInt32) (auction : BlackMarketAuction) : List Mail :=
  match auction.GetTemplate r with
  | none => []
  | some template =>
    if m.isCharacter auction.currentBidder ∧ (r.maxStackSize template.ItemEntry).isSome then
      [⟨auction.currentBidder, .WON, auctionId, auction.templateId, 0,
        createItem r template.ItemEntry template.Quantity⟩]
    else []

def expired (now : ℕ) : List (UInt32 × BlackMarketAuction) :=
  m.auctions.sorted.filter fun e => e.2.IsExpired r now

def deleteExpired (now : ℕ) : Market :=
  { m with
    auctions := m.auctions.keep fun _ a => !a.IsExpired r now
    mails := m.mails ++ (m.expired r now).flatMap fun e =>
      if e.2.currentBidder ≠ 0 then m.wonMails r e.1 e.2 else [] }

def GetFreeAuctionId : Option UInt32 :=
  ((List.range (m.auctions.entries.length + 1)).map fun n => UInt32.ofNat (n + 1)).find? fun id =>
    (m.auctions.lookup id).isNone

/-- What is drawn for a new auction: a number from 1 to 100, a place in the list of templates, and
the time of the start -/
structure Draw where
  rand : ℕ
  pick : ℕ
  startTime : UInt32

def templateList (rand : ℕ) : List (UInt32 × BlackMarketAuctionTemplate) :=
  r.templates.sorted.filter fun e =>
    e.2.drawn rand ∧ ∀ a ∈ m.auctions.entries, a.2.templateId ≠ e.1

def createAuction (draw : Draw) : Market :=
  let list := m.templateList r draw.rand
  match list[draw.pick % list.length]?, m.GetFreeAuctionId with
  | some (id, selTemplate), some auctionId =>
    { m with
      auctions := m.auctions.insert auctionId
        { templateId := id
          startTime := draw.startTime
          currentBidder := 0
          currentBid := selTemplate.MinBid
          minIncrement := (r.fivePercent selTemplate.MinBid.toUInt64).toUInt32
          numBids := 0 } }
  | _, _ => m

def CreateAuctions (number : ℕ) (draws : ℕ → Draw) : Market :=
  (List.range number).foldl (fun m i => m.createAuction r (draws i)) m

def Update (now : ℕ) (draws : ℕ → Draw) : Market :=
  let m := m.deleteExpired r now
  m.CreateAuctions r (r.maxAuctions - m.auctions.entries.length) draws

inductive Action where
  | bid (player MarketID : UInt32) (BidAmount : UInt64)
  | update (now : ℕ) (draws : ℕ → Draw)

def step (m : Market) : Action → Market
  | .bid player MarketID BidAmount => m.HandleBlackMarketBidOnItem r player MarketID BidAmount
  | .update now draws => m.Update r now draws

def opened (gold : Table UInt32 UInt64) : Market := ⟨gold, ∅, []⟩

end Market

end WorldServer.BlackMarket
