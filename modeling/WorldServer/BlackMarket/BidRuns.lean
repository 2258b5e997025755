import WorldServer.BlackMarket.BlackMarketMgr

/-!
# Copper on the black market

A bid moves copper from the bidder into the auction, and from the auction to the bidder before. This
holds as long as the bidder has the copper and no number is cut down to 32 bits: neither the amount
nor the sum that it is compared with.
-/
namespace WorldServer.BlackMarket

open WorldServer.Lib WorldServer.Entities

variable {r : Realm}

/-! ### The law -/

def refund (auctionId : UInt32) (a : BlackMarketAuction) : Mail :=
  ⟨a.currentBidder, .OUTBIDDED, auctionId, a.templateId, a.currentBid.toUInt64, none⟩

def BlackMarketAuction.wonItem (r : Realm) (a : BlackMarketAuction) : Option (UInt32 × UInt32) :=
  (a.GetTemplate r).bind fun template =>
    Market.createItem r template.ItemEntry template.Quantity

def prizeMail (r : Realm) (e : UInt32 × BlackMarketAuction) : Mail :=
  ⟨e.2.currentBidder, .WON, e.1, e.2.templateId, 0, e.2.wonItem r⟩

namespace Market

variable {m m' : Market}

/-- The bidder pays what the auction stores, and the bidder before gets back what it stored. -/
def Paid (m m' : Market) (player MarketID : UInt32) : Prop :=
  ∃ gold gold' a a', m.gold.lookup player = some gold ∧ m.auctions.lookup MarketID = some a ∧
    m'.gold = m.gold.insert player gold' ∧ m'.auctions = m.auctions.insert MarketID a' ∧
    a'.currentBidder = player ∧ gold'.toNat + a'.currentBid.toNat = gold.toNat ∧
    0 < a'.currentBid.toNat ∧
    a.currentBid.toNat + a.minIncrement.toNat ≤ a'.currentBid.toNat ∧
    m'.mails = m.mails ++ if a.currentBidder = 0 then [] else [refund MarketID a]

def prizes (r : Realm) (m : Market) (now : ℕ) : List (UInt32 × BlackMarketAuction) :=
  (m.expired r now).filter fun e => e.2.currentBidder ≠ 0

/-- Every expired auction with a bidder is mailed and leaves; the others stay, and the new ones have
no bidder. -/
structure Settled (r : Realm) (m m' : Market) (now : ℕ) : Prop where
  gold : m'.gold = m.gold
  mails : m'.mails = m.mails ++ (m.prizes r now).map (prizeMail r)
  items : ∀ e ∈ m.prizes r now, (e.2.wonItem r).isSome = true
  kept : ∀ id a, m.auctions.lookup id = some a → a.IsExpired r now = false →
    m'.auctions.lookup id = some a
  left : ∀ id a, m'.auctions.lookup id = some a → a.currentBidder ≠ 0 →
    m.auctions.lookup id = some a ∧ a.IsExpired r now = false

def Conserves (r : Realm) (m : Market) : Action → Prop
  | .bid player MarketID BidAmount =>
    m.step r (.bid player MarketID BidAmount) = m ∨
      Paid m (m.step r (.bid player MarketID BidAmount)) player MarketID
  | .update now draws => Settled r m (m.step r (.update now draws)) now

/-- A bid that passes the checks fits into 32 bits, is covered by the gold, and is compared with a
sum that fits into 32 bits. The items of the expired auctions exist. -/
def Covered (r : Realm) (m : Market) : Action → Prop
  | .bid player MarketID BidAmount =>
    ∀ gold a, m.gold.lookup player = some gold → m.auctions.lookup MarketID = some a →
      admitted r a player BidAmount = true →
      BidAmount.toNat < 2 ^ 32 ∧ BidAmount.toNat ≤ gold.toNat ∧
        a.currentBid.toNat + a.minIncrement.toNat < 2 ^ 32
  | .update now _ =>
    ∀ id a, m.auctions.lookup id = some a → a.IsExpired r now = true → a.currentBidder ≠ 0 →
      ∃ template, a.GetTemplate r = some template ∧ 1 ≤ template.Quantity ∧
        (r.maxStackSize template.ItemEntry).isSome = true

/-- Every bidder is a character, and no character has the guid that stands for no bidder. -/
structure Sound (m : Market) : Prop where
  nobody : m.gold.lookup 0 = none
  bidder : ∀ id a, m.auctions.lookup id = some a → a.currentBidder ≠ 0 →
    m.isCharacter a.currentBidder = true

lemma sound_opened {gold : Table UInt32 UInt64} (nobody : gold.lookup 0 = none) :
    Sound (opened gold) where
  nobody := nobody
  bidder id a hf := by cases hf

/-! ### Bids -/

variable {player id : UInt32} {amount : UInt64} {a : BlackMarketAuction} {now : ℕ}

lemma isCharacter_insert (gold : Table UInt32 UInt64) (auctions : Table UInt32 BlackMarketAuction)
    (mails : List Mail) {guid : UInt32} {money : UInt64} (known : (gold.lookup guid).isSome = true) :
    isCharacter ⟨gold.insert player money, auctions, mails⟩ guid = true := by
  rw [isCharacter]
  by_cases hs : guid = player
  · rw [hs, AList.lookup_insert]
    rfl
  · rw [AList.lookup_insert_ne hs]
    exact known

lemma price_add_rest (required amount : UInt64) : required + (amount - required) = amount := by
  rw [UInt64.add_comm, UInt64.sub_add_cancel]

lemma modifyMoney_covered {gold : UInt64} (small : amount.toNat < 2 ^ 32)
    (covered : amount.toNat ≤ gold.toNat) :
    (modifyMoney gold (-amount.toInt64)).1.toNat = gold.toNat - amount.toNat ∧
      (modifyMoney gold (-amount.toInt64)).2 = true := by
  have value := toInt_toInt64 (x := amount) (by omega)
  apply modifyMoney_debit_exact gold (-amount.toInt64) amount.toNat _ covered
  rw [toInt_neg (by omega), value]

lemma UpdateAuction_eq {price rest : UInt64}
    (known : a.currentBidder ≠ 0 → m.isCharacter a.currentBidder = true) :
    m.UpdateAuction r id a price rest player =
      ⟨m.gold, m.auctions.insert id
        { a with
          currentBid := (price + rest).toUInt32
          currentBidder := player
          minIncrement := (r.fivePercent (price + rest)).toUInt32
          numBids := a.numBids + 1 },
        m.mails ++ if a.currentBidder = 0 then [] else [refund id a]⟩ := by
  rw [UpdateAuction]
  by_cases first : a.currentBidder = 0
  · simp [first]
  · simp only [ne_eq, first, not_false_eq_true, if_true, if_false, SendAuctionOutbidded,
      known first, refund]

lemma bid_eq {gold : UInt64} (h : Sound m) (isGold : m.gold.lookup player = some gold)
    (isAuction : m.auctions.lookup id = some a) (pass : admitted r a player amount = true)
    (ok : (modifyMoney gold (-amount.toInt64)).2 = true) :
    m.HandleBlackMarketBidOnItem r player id amount =
      ⟨m.gold.insert player (modifyMoney gold (-amount.toInt64)).1,
        m.auctions.insert id
          { a with
            currentBid := amount.toUInt32
            currentBidder := player
            minIncrement := (r.fivePercent amount).toUInt32
            numBids := a.numBids + 1 },
        m.mails ++ if a.currentBidder = 0 then [] else [refund id a]⟩ := by
  rw [HandleBlackMarketBidOnItem]
  simp only [isGold, isAuction, pass, ok, if_true]
  rw [UpdateAuction_eq, price_add_rest]
  intro bid
  exact isCharacter_insert _ _ _ (h.bidder id a isAuction bid)

lemma bid_refused
    (refused : ∀ gold a, m.gold.lookup player = some gold → m.auctions.lookup id = some a →
      admitted r a player amount = true → (modifyMoney gold (-amount.toInt64)).2 = false) :
    m.HandleBlackMarketBidOnItem r player id amount = m := by
  rw [HandleBlackMarketBidOnItem]
  cases isGold : m.gold.lookup player with
  | none => rfl
  | some gold =>
    cases isAuction : m.auctions.lookup id with
    | none => rfl
    | some a =>
      by_cases pass : admitted r a player amount = true
      · simp [pass, refused gold a isGold isAuction pass]
      · simp [pass]

lemma admitted_iff (fits : a.currentBid.toNat + a.minIncrement.toNat < 2 ^ 32)
    (pass : admitted r a player amount = true) :
    0 < amount.toNat ∧ a.currentBid.toNat + a.minIncrement.toNat ≤ amount.toNat := by
  simp only [admitted, decide_eq_true_eq] at pass
  obtain ⟨nonzero, _, _, enough⟩ := pass
  rw [gt_iff_lt, UInt64.lt_iff_toNat_lt, currentRequiredIncrement, UInt32.toNat_toUInt64,
    UInt32.toNat_add, Nat.mod_eq_of_lt fits] at enough
  have positive : amount.toNat ≠ 0 := fun zero => nonzero (UInt64.toNat_inj.mp zero)
  omega

lemma Sound.conserves_bid (h : Sound m) (covered : Covered r m (.bid player id amount)) :
    Conserves r m (.bid player id amount) := by
  rw [Conserves, step]
  by_cases taken : ∃ gold a, m.gold.lookup player = some gold ∧ m.auctions.lookup id = some a ∧
      admitted r a player amount = true
  · right
    obtain ⟨gold, a, isGold, isAuction, pass⟩ := taken
    obtain ⟨small, enough, fits⟩ := covered gold a isGold isAuction pass
    obtain ⟨rest, ok⟩ := modifyMoney_covered small enough
    obtain ⟨positive, atLeast⟩ := admitted_iff fits pass
    have stored : amount.toUInt32.toNat = amount.toNat := by
      rw [UInt64.toNat_toUInt32, Nat.mod_eq_of_lt small]
    rw [bid_eq h isGold isAuction pass ok]
    refine ⟨gold, _, a, _, isGold, isAuction, rfl, rfl, rfl, ?_, ?_, ?_, rfl⟩
    · rw [rest, stored]
      omega
    · rw [stored]
      exact positive
    · rw [stored]
      exact atLeast
  · left
    apply bid_refused
    intro gold a isGold isAuction pass
    exact absurd ⟨gold, a, isGold, isAuction, pass⟩ taken

lemma Sound.bid (h : Sound m) (player id : UInt32) (amount : UInt64) :
    Sound (m.HandleBlackMarketBidOnItem r player id amount) := by
  by_cases taken : ∃ gold a, m.gold.lookup player = some gold ∧ m.auctions.lookup id = some a ∧
      admitted r a player amount = true ∧ (modifyMoney gold (-amount.toInt64)).2 = true
  · obtain ⟨gold, a, isGold, isAuction, pass, ok⟩ := taken
    rw [bid_eq h isGold isAuction pass ok]
    constructor
    · have other : (0 : UInt32) ≠ player := by
        rintro rfl
        rw [h.nobody] at isGold
        cases isGold
      rw [AList.lookup_insert_ne other]
      exact h.nobody
    · intro id' a' hf bid
      rcases (Table.lookup_insert_iff _ _ _ _ _).mp hf with ⟨_, rfl⟩ | ⟨_, old⟩
      · simp [isCharacter]
      · exact isCharacter_insert _ _ _ (h.bidder id' a' old bid)
  · rw [bid_refused]
    · exact h
    · intro gold a isGold isAuction pass
      by_contra ok
      exact taken ⟨gold, a, isGold, isAuction, pass, by simpa using ok⟩

/-! ### Updates -/

/-- New auctions come to the old ones. They have no bidder. -/
structure Grows (m m' : Market) : Prop where
  gold : m'.gold = m.gold
  mails : m'.mails = m.mails
  kept : ∀ id a, m.auctions.lookup id = some a → m'.auctions.lookup id = some a
  new : ∀ id a, m'.auctions.lookup id = some a → a.currentBidder ≠ 0 →
    m.auctions.lookup id = some a

lemma Grows.refl (m : Market) : Grows m m := ⟨rfl, rfl, fun _ _ => id, fun _ _ hf _ => hf⟩

lemma Grows.trans {m₁ m₂ m₃ : Market} (first : Grows m₁ m₂) (second : Grows m₂ m₃) :
    Grows m₁ m₃ where
  gold := second.gold.trans first.gold
  mails := second.mails.trans first.mails
  kept id a hf := second.kept id a (first.kept id a hf)
  new id a hf bid := first.new id a (second.new id a hf bid) bid

lemma lookup_GetFreeAuctionId (free : m.GetFreeAuctionId = some id) :
    m.auctions.lookup id = none := by
  have isFree := List.find?_some free
  simpa using isFree

lemma grows_createAuction (draw : Draw) : Grows m (m.createAuction r draw) := by
  rw [createAuction]
  split
  next id template auctionId _ free =>
    have absent := lookup_GetFreeAuctionId free
    constructor
    · rfl
    · rfl
    · intro id' a hf
      apply (Table.lookup_insert_iff _ _ _ _ _).mpr
      refine .inr ⟨?_, hf⟩
      rintro rfl
      rw [absent] at hf
      cases hf
    · intro id' a hf bid
      rcases (Table.lookup_insert_iff _ _ _ _ _).mp hf with ⟨_, rfl⟩ | ⟨_, old⟩
      · exact absurd rfl bid
      · exact old
  next => exact .refl m

lemma grows_CreateAuctions (number : ℕ) (draws : ℕ → Draw) :
    Grows m (m.CreateAuctions r number draws) := by
  rw [CreateAuctions]
  generalize List.range number = turns
  induction turns generalizing m with
  | nil => exact .refl m
  | cons i turns ih =>
    exact (grows_createAuction (draws i)).trans ih

lemma mem_prizes {e : UInt32 × BlackMarketAuction} :
    e ∈ m.prizes r now ↔ m.auctions.lookup e.1 = some e.2 ∧ e.2.IsExpired r now = true ∧
      e.2.currentBidder ≠ 0 := by
  obtain ⟨id, a⟩ := e
  simp only [prizes, expired, List.mem_filter, Table.mem_sorted, decide_eq_true_eq, and_assoc]

lemma wonItem_isSome {template : BlackMarketAuctionTemplate}
    (isTemplate : a.GetTemplate r = some template) (some : 1 ≤ template.Quantity)
    (exist : (r.maxStackSize template.ItemEntry).isSome = true) : (a.wonItem r).isSome = true := by
  rw [BlackMarketAuction.wonItem, isTemplate, Option.bind_some, createItem,
    if_neg (UInt32.not_lt.mpr some), Option.isSome_map]
  exact exist

lemma Sound.deleteExpired_mails (h : Sound m) {draws : ℕ → Draw}
    (covered : Covered r m (.update now draws)) :
    (m.deleteExpired r now).mails = m.mails ++ (m.prizes r now).map (prizeMail r) := by
  have entries : ∀ e ∈ m.expired r now, m.auctions.lookup e.1 = some e.2 ∧
      e.2.IsExpired r now = true := by
    rintro ⟨id, a⟩ hm
    obtain ⟨sorted, isExpired⟩ := List.mem_filter.mp hm
    exact ⟨(Table.mem_sorted _ _ _).mp sorted, isExpired⟩
  rw [deleteExpired, prizes]
  apply congrArg (m.mails ++ ·)
  generalize m.expired r now = list at entries
  induction list with
  | nil => rfl
  | cons e list ih =>
    obtain ⟨hf, isExpired⟩ := entries e List.mem_cons_self
    have rest := ih fun e' hm => entries e' (List.mem_cons_of_mem _ hm)
    rw [List.flatMap_cons, rest]
    by_cases bid : e.2.currentBidder = 0
    · simp [bid]
    · rw [List.filter_cons_of_pos (by simpa using bid), List.map_cons]
      obtain ⟨template, isTemplate, _, exist⟩ := covered e.1 e.2 hf isExpired bid
      have known := h.bidder e.1 e.2 hf bid
      rw [if_pos bid, wonMails, isTemplate]
      simp only [known, exist, and_self, if_true, List.singleton_append, prizeMail,
        BlackMarketAuction.wonItem, isTemplate, Option.bind_some]

lemma Sound.conserves_update (h : Sound m) {draws : ℕ → Draw}
    (covered : Covered r m (.update now draws)) : Conserves r m (.update now draws) := by
  have grows := grows_CreateAuctions (m := m.deleteExpired r now) (r := r)
    (r.maxAuctions - (m.deleteExpired r now).auctions.entries.length) draws
  constructor
  · exact grows.gold
  · exact grows.mails.trans (h.deleteExpired_mails covered)
  · intro e hm
    obtain ⟨hf, isExpired, bid⟩ := mem_prizes.mp hm
    obtain ⟨template, isTemplate, some, exist⟩ := covered e.1 e.2 hf isExpired bid
    exact wonItem_isSome isTemplate some exist
  · intro id a hf running
    apply grows.kept
    exact (Table.lookup_keep_iff _ _ _ _).mpr ⟨hf, by simp [running]⟩
  · intro id a hf bid
    obtain ⟨before, running⟩ := (Table.lookup_keep_iff _ _ _ _).mp (grows.new id a hf bid)
    exact ⟨before, by simpa using running⟩

lemma Sound.update (h : Sound m) (now : ℕ) (draws : ℕ → Draw) : Sound (m.Update r now draws) := by
  have grows := grows_CreateAuctions (m := m.deleteExpired r now) (r := r)
    (r.maxAuctions - (m.deleteExpired r now).auctions.entries.length) draws
  constructor
  · rw [Update, grows.gold]
    exact h.nobody
  · intro id a hf bid
    obtain ⟨before, _⟩ := (Table.lookup_keep_iff _ _ _ _).mp (grows.new id a hf bid)
    rw [isCharacter, Update, grows.gold]
    exact h.bidder id a before bid

lemma Sound.step (h : Sound m) (a : Action) : Sound (m.step r a) := by
  cases a with
  | bid player id amount => exact h.bid player id amount
  | update now draws => exact h.update now draws

lemma Sound.conserves (h : Sound m) {a : Action} (covered : Covered r m a) : Conserves r m a := by
  cases a with
  | bid player id amount => exact h.conserves_bid covered
  | update now draws => exact h.conserves_update covered

/-- From a market without auctions, as long as the bids are covered -/
theorem copper_conservation (r : Realm) (gold : Table UInt32 UInt64) (as : List Action)
    (nobody : gold.lookup 0 = none) (covered : Along (step r) (Covered r) (opened gold) as) :
    Along (step r) (Conserves r) (opened gold) as := by
  apply along_of_invariant Sound _ _ (sound_opened nobody) covered
  · intro m a sound _
    exact sound.step a
  · intro m a sound isCovered
    exact sound.conserves isCovered

def oneItem : Realm where
  templates := (∅ : Table UInt32 BlackMarketAuctionTemplate).insert 1
    ⟨17, 1, 100, 60, fun _ => true⟩
  maxStackSize entry := if entry = 17 then some 1 else none
  fivePercent price := price / 20
  maxAuctions := 1

def purses : Table UInt32 UInt64 := ((∅ : Table UInt32 UInt64).insert 5 1000).insert 6 10

def rivals : Table UInt32 UInt64 := purses.insert 7 500

/-- A player bids 105, another one 120, and gets the item; the first one has his copper back. -/
def fairRun : List Action :=
  [.update 0 fun _ => ⟨1, 0, 0⟩, .bid 7 1 105, .bid 5 1 120, .update 61 fun _ => ⟨1, 0, 61⟩]

theorem copper_conservation_outbid :
    rivals.lookup 0 = none ∧
      Along (step oneItem) (Covered oneItem) (opened rivals) fairRun ∧
      Along (step oneItem) (Conserves oneItem) (opened rivals) fairRun := by
  have covered : Along (step oneItem) (Covered oneItem) (opened rivals) fairRun := by
    refine ⟨?_, ?_, ?_, ?_, trivial⟩
    · intro id a found
      cases found
    · intro gold a isGold isAuction _
      have rich : rivals.lookup 7 = some 500 := by decide
      cases rich.symm.trans isGold
      have offered : ((opened rivals).step oneItem (.update 0 fun _ => ⟨1, 0, 0⟩)).auctions.lookup 1 =
          some ⟨1, 0, 0, 100, 5, 0⟩ := by decide
      cases offered.symm.trans isAuction
      decide
    · intro gold a isGold isAuction _
      have rich : (((opened rivals).step oneItem (.update 0 fun _ => ⟨1, 0, 0⟩)).step oneItem
          (.bid 7 1 105)).gold.lookup 5 = some 1000 := by decide
      cases rich.symm.trans isGold
      have bid : (((opened rivals).step oneItem (.update 0 fun _ => ⟨1, 0, 0⟩)).step oneItem
          (.bid 7 1 105)).auctions.lookup 1 = some ⟨1, 0, 7, 105, 5, 1⟩ := by decide
      cases bid.symm.trans isAuction
      decide
    · intro id a found _ _
      have sold : ((((opened rivals).step oneItem (.update 0 fun _ => ⟨1, 0, 0⟩)).step oneItem
          (.bid 7 1 105)).step oneItem (.bid 5 1 120)).auctions.entries =
            [⟨1, ⟨1, 0, 5, 120, 6, 2⟩⟩] := by decide
      have member := AList.mem_lookup_iff.mp found
      rw [sold, List.mem_singleton] at member
      cases member
      exact ⟨_, rfl, by decide, by decide⟩
  exact ⟨by decide, covered, copper_conservation oneItem rivals fairRun (by decide) covered⟩

/-- The poor player bids 105 and has 10. -/
theorem not_copper_conservation : ¬ ∀ (r : Realm) (gold : Table UInt32 UInt64) (as : List Action),
    gold.lookup 0 = none → Along (step r) (Conserves r) (opened gold) as := by
  intro claim
  have run := claim oneItem purses [.update 0 fun _ => ⟨1, 0, 0⟩, .bid 6 1 105] (by decide)
  obtain ⟨_, refused | ⟨gold, gold', a, a', isGold, isAuction, _, auctions, _, debit, _⟩, _⟩ := run
  · exact absurd (congrArg (fun m => m.gold.lookup 6) refused) (by decide)
  · have poor : purses.lookup 6 = some 10 := by decide
    cases poor.symm.trans isGold
    have stored := congrArg (fun auctions : Table UInt32 BlackMarketAuction => auctions.lookup 1) auctions
    have bid : (((opened purses).step oneItem (.update 0 fun _ => ⟨1, 0, 0⟩)).step oneItem
        (.bid 6 1 105)).auctions.lookup 1 = some ⟨1, 0, 6, 105, 5, 1⟩ := by decide
    cases bid.symm.trans stored
    -- the auction holds 105, the poor player had 10
    revert debit
    simp

/-! ### What is on offer -/

def offered (m : Market) : List UInt32 := m.auctions.gather fun a => [a.templateId]

/-- There are not too many auctions, and no two of one template. -/
def Stocked (r : Realm) (m : Market) : Prop := m.offered.Nodup ∧ m.offered.length ≤ r.maxAuctions

lemma offered_eq : m.offered = m.auctions.entries.map fun e => e.2.templateId :=
  List.map_eq_flatMap.symm

lemma offered_bid (r : Realm) (m : Market) (player id : UInt32) (amount : UInt64) :
    (m.HandleBlackMarketBidOnItem r player id amount).offered.Perm m.offered := by
  rw [HandleBlackMarketBidOnItem]
  split
  next gold a _ isAuction =>
    -- the auction keeps its template
    have erased := Table.gather_erase (fun a => [a.templateId]) m.auctions isAuction
    dsimp only [UpdateAuction, SendAuctionOutbidded]
    split_ifs
    all_goals first | exact .refl _ | simpa only [offered, Table.gather_insert] using erased.symm
  next => exact .refl _

lemma offered_createAuction (h : m.offered.Nodup) (draw : Draw) :
    (m.createAuction r draw).offered.Nodup ∧
      (m.createAuction r draw).offered.length ≤ m.offered.length + 1 := by
  rw [createAuction]
  split
  next template selTemplate auctionId drawn free =>
    have unused : template ∉ m.offered := by
      have listed := (List.mem_filter.mp (List.mem_of_getElem? drawn)).2
      simp only [decide_eq_true_eq] at listed
      rw [offered_eq, List.mem_map]
      rintro ⟨e, member, same⟩
      exact listed.2 e member same
    simp only [offered, Table.gather_insert, Table.erase_of_none _ (lookup_GetFreeAuctionId free)]
    exact ⟨h.cons unused, le_rfl⟩
  next => exact ⟨h, Nat.le_succ _⟩

lemma offered_CreateAuctions (h : m.offered.Nodup) (number : ℕ) (draws : ℕ → Draw) :
    (m.CreateAuctions r number draws).offered.Nodup ∧
      (m.CreateAuctions r number draws).offered.length ≤ m.offered.length + number := by
  rw [CreateAuctions]
  induction number with
  | zero => exact ⟨h, le_rfl⟩
  | succ number ih =>
    rw [List.range_succ, List.foldl_append]
    obtain ⟨nodup, more⟩ := offered_createAuction (r := r) ih.1 (draws number)
    exact ⟨nodup, more.trans (Nat.succ_le_succ ih.2)⟩

lemma Stocked.step (h : Stocked r m) (a : Action) : Stocked r (m.step r a) := by
  cases a with
  | bid player id amount =>
    have same := offered_bid r m player id amount
    exact ⟨same.nodup_iff.mpr h.1, same.length_eq.trans_le h.2⟩
  | update now draws =>
    have left : (m.deleteExpired r now).offered.Sublist m.offered := by
      rw [offered_eq, offered_eq]
      exact List.filter_sublist.map _
    have count : (m.deleteExpired r now).auctions.entries.length =
        (m.deleteExpired r now).offered.length := by
      simp [offered_eq]
    obtain ⟨nodup, more⟩ := offered_CreateAuctions (r := r) (h.1.sublist left)
      (r.maxAuctions - (m.deleteExpired r now).auctions.entries.length) draws
    have few := left.length_le.trans h.2
    rw [count] at more
    exact ⟨nodup, by rw [Market.step, Update, count]; omega⟩

/-- In every run the market has at most as many auctions as it may have, and no two of one template. -/
theorem stocked (r : Realm) (gold : Table UInt32 UInt64) (as : List Action) :
    Stocked r (run (step r) (opened gold) as) :=
  run_keeps (Stocked r) (fun _ a h => h.step a) (by simp [Stocked, offered, opened]) as

end Market

end WorldServer.BlackMarket
