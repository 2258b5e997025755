import WorldServer.Entities.Money
import WorldServer.Lib.Table

/-!
# The auction house in memory

The maps of the three houses are one table here: they share one counter of ids, and an
auction names the house whose map it is in. The table stands for the rows of
`auctionhouse` as well, which every handler changes in the same transaction. Ids
are not wrapped, since the server stops when the counter runs out. A start sets the
counter to one past the largest id that is stored, so that ids of auctions that are over
are given out again.
-/
namespace WorldServer.AuctionHouse

open WorldServer.Lib

def maxAuctionItems : ℕ := 32

def minAuctionTime : UInt32 := 43200

inductive AuctionError where
  | ok | databaseError | notEnoughtMoney | itemNotFound | higherBid | bidOwn
deriving DecidableEq, Repr

inductive MailAuctionAnswers where
  | outbidded | won | successful | expired | cancelledToBidder | canceled | salePending
deriving DecidableEq, Repr

/-- Which of the manager's three maps. -/
inductive AuctionsMap where
  | horde | alliance | neutral
deriving DecidableEq, Repr

/-! ### Data -/

/-- What an auctioneer's faction gives: the map, and the entry that sets deposit and cut. -/
structure Auctioneer where
  auctionsMap : AuctionsMap
  houseId : UInt32
deriving DecidableEq, Repr

/-- What the handlers read of a stack. -/
structure Item where
  entry : UInt32
  count : UInt32
  canBeTraded : Bool
  isNotEmptyBag : Bool
  expiration : UInt32
deriving DecidableEq, Repr

structure AuctionEntry where
  auctioneer : Auctioneer
  itemGUIDLow : ℕ
  itemEntry : UInt32
  itemCount : UInt32
  owner : UInt32
  startbid : UInt32
  bid : UInt32
  buyout : UInt32
  expireTime : ℕ
  bidder : UInt32
  deposit : UInt32
deriving DecidableEq, Repr

structure AuctionMail where
  auctionId : ℕ
  answer : MailAuctionAnswers
  receiver : UInt32
  money : UInt64
  item : Option (ℕ × Item)
deriving DecidableEq, Repr

/-- What the auction house asks of the rest of the server. The amounts are computed with
floating point from the house's entry and the configured rates. -/
structure Realm where
  isCharacter : UInt32 → Bool
  conjured : UInt32 → Bool
  maxStackCount : UInt32 → UInt32
  auctionTime : UInt32 → ℕ
  auctionDeposit : (houseId time entry count : UInt32) → UInt32
  auctionCut : (houseId bid : UInt32) → UInt32
  fivePercent : UInt32 → UInt32

/-- The gold and the items of every player, the auctions with their items, and the
mails sent for them, the last one first. -/
structure State where
  gold : UInt32 → UInt64
  inventory : UInt32 → Table ℕ Item
  auctions : Table ℕ AuctionEntry
  aItems : Table ℕ Item
  mails : List AuctionMail
  auctionId : ℕ
  itemGuid : ℕ

namespace AuctionEntry

def getAuctionCut (r : Realm) (a : AuctionEntry) : UInt32 := r.auctionCut a.auctioneer.houseId a.bid

def getAuctionOutBid (r : Realm) (a : AuctionEntry) : UInt32 :=
  if r.fivePercent a.bid ≠ 0 then r.fivePercent a.bid else 1

def isBid (a : AuctionEntry) (price : UInt64) : Bool := price < a.buyout.toUInt64 || a.buyout == 0

end AuctionEntry

namespace State

def getAuction (s : State) (auctionsMap : AuctionsMap) (id : ℕ) : Option AuctionEntry :=
  (s.auctions.lookup id).filter fun a => a.auctioneer.auctionsMap == auctionsMap

def getAItem (s : State) (guid : ℕ) : Option Item := s.aItems.lookup guid

/-- The gold after `ModifyMoney`, whose result no handler here looks at. -/
def debit (s : State) (player : UInt32) (amount : Int64) : State :=
  { s with gold := Function.update s.gold player (Entities.modifyMoney (s.gold player) amount).1 }

def setInventory (s : State) (player : UInt32) (inventory : Table ℕ Item) : State :=
  { s with inventory := Function.update s.inventory player inventory }

def generateLowGuid (s : State) : State := { s with itemGuid := s.itemGuid + 1 }

def sendMailTo (s : State) (m : AuctionMail) : State := { s with mails := m :: s.mails }

def removeAuction (s : State) (id : ℕ) (a : AuctionEntry) : State :=
  { s with aItems := s.aItems.erase a.itemGUIDLow, auctions := s.auctions.erase id }

end State

end WorldServer.AuctionHouse
