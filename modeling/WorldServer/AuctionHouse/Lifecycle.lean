import WorldServer.AuctionHouse.Copper

/-!
# The life of an auction

An auction and its item are listed together and leave together. `Book` remembers, next
to the state, what every player has paid for every auction, so that what was paid and
not sent back can be read off at any time. After a start of the server ids are given out
again, and the book begins anew for the auction that gets one.
-/
namespace WorldServer.AuctionHouse

open WorldServer.Lib WorldServer.Entities

inductive LifecycleStep (r : Realm) where
  | serve (step : AuctionStep r)
  | startup (now hiItemGuid : ℕ)

def State.live {r : Realm} (s : State) : LifecycleStep r → State
  | .serve step => s.serve step
  | .startup now hiItemGuid => s.startup r now hiItemGuid

def LifecycleStep.spends {r : Realm} (s : State) (step : LifecycleStep r) (id : ℕ) (p : UInt32) : ℤ :=
  match step with
  | .serve (.placeBid player _ auctionId _) =>
    if auctionId = id ∧ player.guid = p then (s.gold p).toNat - ((s.live step).gold p).toNat else 0
  | _ => 0

/-- The step is a sale that passes, and the auction gets this id. -/
def LifecycleStep.lists {r : Realm} (s : State) (id : ℕ) : LifecycleStep r → Bool
  | .serve (.sell player p _) => s.auctionId == id && (s.checkSale r player.guid p).isOk
  | _ => false

/-- A state, what every player has paid for the auction that got an id last, and how many
mails had been sent when it was listed. -/
structure Book where
  state : State
  spent : ℕ → UInt32 → ℤ
  since : ℕ → ℕ

def Book.live {r : Realm} (b : Book) (step : LifecycleStep r) : Book where
  state := b.state.live step
  spent id p := if step.lists b.state id then 0 else b.spent id p + step.spends b.state id p
  since id := if step.lists b.state id then b.state.mails.length else b.since id

def mailsOf (mails : List AuctionMail) (id : ℕ) : List AuctionMail :=
  mails.filter fun m => m.auctionId == id

/-- The mails about the auction that got the id last. -/
def Book.sent (b : Book) (id : ℕ) : List AuctionMail :=
  mailsOf (b.state.mails.take (b.state.mails.length - b.since id)) id

def itemMails (mails : List AuctionMail) : List AuctionMail := mails.filter fun m => m.item.isSome

def refund (p : UInt32) (m : AuctionMail) : ℕ :=
  if m.receiver = p ∧ (m.answer = .outbidded ∨ m.answer = .cancelledToBidder) then m.money.toNat else 0

def refunded (mails : List AuctionMail) (p : UInt32) : ℕ := (mails.map (refund p)).sum

def Book.handedOver (b : Book) (id : ℕ) : List AuctionMail := itemMails (b.sent id)

def Book.escrowed (b : Book) (id : ℕ) (p : UInt32) : ℤ :=
  b.spent id p - refunded (b.sent id) p

/-! ### The law -/

/-- Every auction has its item, and every item belongs to one auction. -/
structure State.Paired (s : State) : Prop where
  stored : ∀ id a, s.auctions.lookup id = some a → ∃ item, s.aItems.lookup a.itemGUIDLow = some item
  sole : ∀ guid item, s.aItems.lookup guid = some item →
    ∃! id, ∃ a, s.auctions.lookup id = some a ∧ a.itemGUIDLow = guid

/-- Who has bought an auction that leaves in the step, if anybody. -/
def LifecycleStep.winner {r : Realm} (a : AuctionEntry) : LifecycleStep r → UInt32
  | .serve (.placeBid player _ _ _) => player.guid
  | .serve (.removeItem _ _ _) => 0
  | _ => a.bidder

def AuctionEntry.heir (a : AuctionEntry) (winner : UInt32) : UInt32 :=
  if winner = 0 then a.owner else winner

/-- The item has gone to one party, and only the winner has paid. -/
structure Handed (s : State) (b' : Book) (id : ℕ) (a : AuctionEntry) (winner : UInt32) : Prop where
  item : ∃ item answer, s.aItems.lookup a.itemGUIDLow = some item ∧
    b'.handedOver id = [⟨id, answer, a.heir winner, 0, some (a.itemGUIDLow, item)⟩]
  settled : ∀ p, p ≠ winner → b'.escrowed id p = 0

/-- A bid that is not a buyout has 32 bits, and a start-up finds no row that has run out. Its
counter of items is above the items of the house and of the players. -/
def LifecycleStep.Kept {r : Realm} (s : State) : LifecycleStep r → Prop
  | .serve (.placeBid player auctioneer id price) =>
    ∀ a, s.checkBid r player.guid auctioneer id price = .ok a → a.isBid price = true →
      price.toNat < 2 ^ 32
  | .serve _ => True
  | .startup now hiItemGuid =>
    (∀ id a, s.auctions.lookup id = some a → now + 60 < a.expireTime) ∧
      (∀ guid item, s.aItems.lookup guid = some item → guid < hiItemGuid) ∧
      ∀ p guid item, (s.inventory p).lookup guid = some item → guid < hiItemGuid

/-! ### Mails and refunds -/

variable {new : List AuctionMail} {item : Item} {player : UInt32} {s' : State} {k : ℕ}
  {auctioneer : Option Auctioneer}

section Sent

variable {b b' : Book}

lemma sent_append (mails : b'.state.mails = new ++ b.state.mails) {id : ℕ} (since : b'.since id = b.since id)
    (past : b.since id ≤ b.state.mails.length) : b'.sent id = mailsOf new id ++ b.sent id := by
  rw [Book.sent, mails, since, List.length_append, Nat.add_sub_assoc past, List.take_length_add_append,
    mailsOf, List.filter_append]
  rfl

lemma sent_own (mails : b'.state.mails = new ++ b.state.mails) {id : ℕ} (since : b'.since id = b.since id)
    (past : b.since id ≤ b.state.mails.length) (own : ∀ m ∈ new, m.auctionId = id) :
    b'.sent id = new ++ b.sent id := by
  rw [sent_append mails since past, mailsOf,
    List.filter_eq_self.mpr fun m member => beq_iff_eq.mpr (own m member)]

lemma sent_other (mails : b'.state.mails = new ++ b.state.mails) {id : ℕ} (since : b'.since id = b.since id)
    (past : b.since id ≤ b.state.mails.length) (other : ∀ m ∈ new, m.auctionId ≠ id) :
    b'.sent id = b.sent id := by
  have none_ : mailsOf new id = [] :=
    List.filter_eq_nil_iff.mpr fun m member => by simpa using other m member
  rw [sent_append mails since past, none_, List.nil_append]

end Sent

lemma refunded_append (new mails : List AuctionMail) (p : UInt32) :
    refunded (new ++ mails) p = refunded new p + refunded mails p := by
  simp [refunded]

lemma itemMails_append (new mails : List AuctionMail) :
    itemMails (new ++ mails) = itemMails new ++ itemMails mails :=
  List.filter_append _ _

lemma refunded_itemMail {s : State} {id : ℕ} {a : AuctionEntry} {answer : MailAuctionAnswers}
    (receiver p : UInt32) : refunded (itemMail s id a answer receiver) p = 0 := by
  have nothing : ∀ n ∈ (itemMail s id a answer receiver).map (refund p), n = 0 := by
    intro n member
    obtain ⟨m, sent, rfl⟩ := List.mem_map.mp member
    rw [refund, (mem_itemMail sent).2.2.2]
    split <;> rfl
  exact List.sum_eq_zero nothing

/-- Auctions are added under the listed ids only, and mails are about auctions that were there. -/
structure Onward (s s' : State) (lists : ℕ → Bool) : Prop where
  gone : ∀ id, lists id = false → s.auctions.lookup id = none → s'.auctions.lookup id = none
  mails : ∃ new, s'.mails = new ++ s.mails ∧ ∀ m ∈ new, ∃ a, s.auctions.lookup m.auctionId = some a

section Onward

variable {r : Realm} {s : State} {lists : ℕ → Bool}

lemma Onward.refl (s : State) : Onward s s lists :=
  ⟨fun _ _ absent => absent, ⟨[], rfl, fun _ member => absurd member List.not_mem_nil⟩⟩

lemma Onward.of_ends (ends : Ends s s') : Onward s s' lists where
  gone id _ absent := by
    cases found : s'.auctions.lookup id with
    | none => rfl
    | some a => exact absurd ((ends.auctions id a found).symm.trans absent) (Option.some_ne_none a)
  mails := ends.mails

end Onward

/-! ### The invariant -/

/-- What holds of every book: auctions and items are paired, guids are below the counter,
and of a live auction no item has been mailed and only its bid is in the house. -/
structure Book.Lived (r : Realm) (b : Book) : Prop where
  sound : b.state.Sound r
  paired : b.state.Paired
  listed : ∀ guid item, b.state.aItems.lookup guid = some item → guid < b.state.itemGuid
  owned : ∀ p guid item, (b.state.inventory p).lookup guid = some item → guid < b.state.itemGuid
  kept : ∀ id a, b.state.auctions.lookup id = some a → b.handedOver id = []
  bids : ∀ id a, b.state.auctions.lookup id = some a → ∀ p,
    b.escrowed id p = ((if p = a.bidder then a.bid.toNat else 0 : ℕ) : ℤ)
  past : ∀ id, b.since id ≤ b.state.mails.length

section Paired

variable {s : State}

lemma State.Paired.same (paired : s.Paired) {id id' : ℕ} {a a' : AuctionEntry}
    (found : s.auctions.lookup id = some a) (found' : s.auctions.lookup id' = some a')
    (guid : a'.itemGUIDLow = a.itemGUIDLow) : id' = id := by
  obtain ⟨item, stored⟩ := paired.stored id a found
  obtain ⟨only, -, unique⟩ := paired.sole _ item stored
  rw [unique id ⟨a, found, rfl⟩, unique id' ⟨a', found', guid⟩]

lemma State.Paired.erase (paired : s.Paired) {id : ℕ} {a : AuctionEntry}
    (found : s.auctions.lookup id = some a) (auctions : s'.auctions = s.auctions.erase id)
    (aItems : s'.aItems = s.aItems.erase a.itemGUIDLow) : s'.Paired where
  stored k b left := by
    rw [auctions] at left
    obtain ⟨other, before⟩ := (Table.lookup_erase_iff _ _ _ _).mp left
    obtain ⟨item, stored⟩ := paired.stored k b before
    refine ⟨item, ?_⟩
    rw [aItems, Table.lookup_erase_iff]
    exact ⟨fun same => other (paired.same found before same), stored⟩
  sole guid item stored := by
    rw [aItems] at stored
    obtain ⟨other, before⟩ := (Table.lookup_erase_iff _ _ _ _).mp stored
    obtain ⟨k, ⟨b, foundB, ofB⟩, unique⟩ := paired.sole guid item before
    have apart : k ≠ id := by
      rintro rfl
      obtain rfl := Option.some.inj (found.symm.trans foundB)
      exact other ofB.symm
    refine ⟨k, ⟨b, ?_, ofB⟩, ?_⟩
    · rw [auctions, Table.lookup_erase_iff]
      exact ⟨apart, foundB⟩
    · rintro k' ⟨b', found', of'⟩
      rw [auctions] at found'
      exact unique k' ⟨b', ((Table.lookup_erase_iff _ _ _ _).mp found').2, of'⟩

lemma State.Paired.insert (paired : s.Paired) {id : ℕ} {a : AuctionEntry}
    (newId : s.auctions.lookup id = none) (newGuid : s.aItems.lookup a.itemGUIDLow = none)
    (auctions : s'.auctions = s.auctions.insert id a)
    (aItems : s'.aItems = s.aItems.insert a.itemGUIDLow item) : s'.Paired where
  stored k b there := by
    rw [auctions] at there
    rw [aItems]
    rcases (Table.lookup_insert_iff _ _ _ _ _).mp there with ⟨rfl, rfl⟩ | ⟨-, before⟩
    · exact ⟨item, AList.lookup_insert _⟩
    · obtain ⟨old, stored⟩ := paired.stored k b before
      have other : b.itemGUIDLow ≠ a.itemGUIDLow := by
        intro same
        rw [same, newGuid] at stored
        cases stored
      exact ⟨old, by rw [AList.lookup_insert_ne other]; exact stored⟩
  sole guid old stored := by
    rw [aItems] at stored
    rw [auctions]
    rcases (Table.lookup_insert_iff _ _ _ _ _).mp stored with ⟨rfl, -⟩ | ⟨other, before⟩
    · refine ⟨id, ⟨a, AList.lookup_insert _, rfl⟩, ?_⟩
      rintro k ⟨b, there, same⟩
      rcases (Table.lookup_insert_iff _ _ _ _ _).mp there with ⟨rfl, -⟩ | ⟨-, earlier⟩
      · rfl
      · obtain ⟨oldItem, there'⟩ := paired.stored k b earlier
        rw [same, newGuid] at there'
        cases there'
    · obtain ⟨k, ⟨b, foundB, ofB⟩, unique⟩ := paired.sole guid old before
      have apart : k ≠ id := by
        rintro rfl
        rw [newId] at foundB
        cases foundB
      refine ⟨k, ⟨b, by rw [AList.lookup_insert_ne apart]; exact foundB, ofB⟩, ?_⟩
      rintro k' ⟨b', there, of'⟩
      rcases (Table.lookup_insert_iff _ _ _ _ _).mp there with ⟨-, rfl⟩ | ⟨-, earlier⟩
      · exact absurd of'.symm other
      · exact unique k' ⟨b', earlier, of'⟩

lemma State.Paired.replace (paired : s.Paired) {id : ℕ} {a a' : AuctionEntry}
    (found : s.auctions.lookup id = some a) (guid : a'.itemGUIDLow = a.itemGUIDLow)
    (auctions : s'.auctions = s.auctions.insert id a') (aItems : s'.aItems = s.aItems) :
    s'.Paired := by
  -- the auctions of an item are the same before and after
  have same : ∀ k g, (∃ b, s'.auctions.lookup k = some b ∧ b.itemGUIDLow = g) ↔
      ∃ b, s.auctions.lookup k = some b ∧ b.itemGUIDLow = g := by
    intro k g
    rw [auctions]
    by_cases here : k = id
    · subst here
      rw [AList.lookup_insert, found]
      simp [guid]
    · rw [AList.lookup_insert_ne here]
  constructor
  · intro k b there
    obtain ⟨b₀, before, ofB⟩ := (same k b.itemGUIDLow).mp ⟨b, there, rfl⟩
    rw [aItems, ← ofB]
    exact paired.stored k b₀ before
  · intro g item stored
    rw [aItems] at stored
    simp only [same]
    exact paired.sole g item stored

end Paired

/-! ### One auction closes -/

/-- The end of one auction, whichever of the ways it takes. -/
structure Closes (b b' : Book) (id : ℕ) (a : AuctionEntry) (winner : UInt32) : Prop where
  found : b.state.auctions.lookup id = some a
  auctions : b'.state.auctions = b.state.auctions.erase id
  aItems : b'.state.aItems = b.state.aItems.erase a.itemGUIDLow
  inventory : b'.state.inventory = b.state.inventory
  since : b'.since = b.since
  itemGuid : b'.state.itemGuid = b.state.itemGuid
  spent : ∀ k, k ≠ id → ∀ p, b'.spent k p = b.spent k p
  mails : ∃ new, b'.state.mails = new ++ b.state.mails ∧ (∀ m ∈ new, m.auctionId = id) ∧
    (∃ answer, itemMails new = itemMail b.state id a answer (a.heir winner)) ∧
    ∀ p, p ≠ winner → b'.spent id p = b.spent id p ∧
      refunded new p = if p = a.bidder then a.bid.toNat else 0

section Closes

variable {r : Realm} {b b' : Book} {id : ℕ} {a : AuctionEntry} {winner : UInt32}

lemma Closes.handed (closes : Closes b b' id a winner) (lived : b.Lived r) :
    Handed b.state b' id a winner := by
  obtain ⟨new, mails, own, ⟨answer, items⟩, back⟩ := closes.mails
  have about : b'.sent id = new ++ b.sent id :=
    sent_own mails (congrFun closes.since id) (lived.past id) own
  constructor
  · obtain ⟨item, stored⟩ := lived.paired.stored id a closes.found
    refine ⟨item, answer, stored, ?_⟩
    have before := lived.kept id a closes.found
    rw [Book.handedOver] at before
    rw [Book.handedOver, about, itemMails_append, items, before, itemMail, stored]
    rfl
  · intro p other
    obtain ⟨spent, refund⟩ := back p other
    have before := lived.bids id a closes.found p
    rw [Book.escrowed] at before
    rw [Book.escrowed, about, refunded_append, spent, refund]
    omega

lemma Closes.other (closes : Closes b b' id a winner) (lived : b.Lived r) (other : k ≠ id) :
    b'.handedOver k = b.handedOver k ∧ ∀ p, b'.escrowed k p = b.escrowed k p := by
  obtain ⟨new, mails, own, -, -⟩ := closes.mails
  have same : b'.sent k = b.sent k :=
    sent_other mails (congrFun closes.since k) (lived.past k)
      fun m member about => other ((own m member).symm.trans about).symm
  refine ⟨?_, fun p => ?_⟩
  · rw [Book.handedOver, same, Book.handedOver]
  · rw [Book.escrowed, same, closes.spent k other p, Book.escrowed]

lemma Closes.lived (closes : Closes b b' id a winner) (lived : b.Lived r) (sound : b'.state.Sound r) :
    b'.Lived r where
  sound := sound
  paired := lived.paired.erase closes.found closes.auctions closes.aItems
  listed guid item stored := by
    rw [closes.aItems] at stored
    rw [closes.itemGuid]
    exact lived.listed guid item ((Table.lookup_erase_iff _ _ _ _).mp stored).2
  owned p guid item there := by
    rw [closes.inventory] at there
    rw [closes.itemGuid]
    exact lived.owned p guid item there
  kept k c left := by
    rw [closes.auctions] at left
    obtain ⟨other, before⟩ := (Table.lookup_erase_iff _ _ _ _).mp left
    rw [(closes.other lived other).1]
    exact lived.kept k c before
  bids k c left p := by
    rw [closes.auctions] at left
    obtain ⟨other, before⟩ := (Table.lookup_erase_iff _ _ _ _).mp left
    rw [(closes.other lived other).2 p]
    exact lived.bids k c before p
  past k := by
    obtain ⟨new, mails, -⟩ := closes.mails
    have before := lived.past k
    rw [closes.since, mails, List.length_append]
    omega

end Closes

/-! ### The ways an auction closes -/

lemma itemMails_itemMail (s : State) (id : ℕ) (a : AuctionEntry) (answer : MailAuctionAnswers)
    (receiver : UInt32) :
    itemMails (itemMail s id a answer receiver) = itemMail s id a answer receiver := by
  unfold itemMail
  split <;> rfl

section Ways

variable {r : Realm} {b : Book}

lemma closes_closed {s : State} {id : ℕ} {a : AuctionEntry} (found : s.auctions.lookup id = some a) :
    Closes { b with state := s } { b with state := s.closed r id a } id a a.bidder := by
  refine ⟨found, rfl, rfl, rfl, rfl, rfl, fun _ _ _ => rfl,
    ⟨endMails r s id a, rfl, fun m member => mem_endMails member, ?_, fun p other => ⟨rfl, ?_⟩⟩⟩
  · by_cases none_ : a.bidder = 0
    · refine ⟨.expired, ?_⟩
      rw [endMails, if_pos none_, itemMails_itemMail, AuctionEntry.heir, if_pos none_]
    · refine ⟨.won, ?_⟩
      rw [endMails, if_neg none_, itemMails_append, itemMails_itemMail, AuctionEntry.heir, if_neg none_]
      simp [itemMails]
  · rw [if_neg other, endMails]
    split
    · exact refunded_itemMail _ p
    · rw [refunded_append, refunded_itemMail]
      simp [refunded, refund]

end Ways

/-! ### One step -/

/-- After a step: the invariant, and what became of the auctions that left. -/
structure Lives (r : Realm) (b b' : Book) (winner : AuctionEntry → UInt32) : Prop where
  lived : b'.Lived r
  left : ∀ id a, b.state.auctions.lookup id = some a → b'.state.auctions.lookup id = none →
    b'.state.inventory = b.state.inventory ∧ Handed b.state b' id a (winner a)

section Step

variable {r : Realm} {b : Book}

lemma Lives.refl (lived : b.Lived r) (winner : AuctionEntry → UInt32) : Lives r b b winner :=
  ⟨lived, fun _ a found absent => absurd (found.symm.trans absent) (Option.some_ne_none a)⟩

variable {guid : ℕ}

/-- Partway through the update, every auction is where it was, with its item, or has been
handed over. -/
structure Partway (r : Realm) (b : Book) (s : State) : Prop where
  lived : Book.Lived r { b with state := s }
  inventory : s.inventory = b.state.inventory
  each : ∀ id a, b.state.auctions.lookup id = some a →
    (s.auctions.lookup id = some a ∧
      s.aItems.lookup a.itemGUIDLow = b.state.aItems.lookup a.itemGUIDLow) ∨
    Handed b.state { b with state := s } id a a.bidder

lemma Partway.closed {s : State} (partway : Partway r b s) {c : AuctionEntry}
    (foundC : s.auctions.lookup k = some c) : Partway r b (s.closed r k c) := by
  have lived := partway.lived
  have closes : Closes { b with state := s } { b with state := s.closed r k c } k c c.bidder :=
    closes_closed foundC
  have sound : (s.closed r k c).Sound r := lived.sound.of_fewer lived.sound.purse rfl
    fun k' c' left => ((Table.lookup_erase_iff _ _ _ _).mp left).2
  refine ⟨closes.lived lived sound, partway.inventory, fun id a found => ?_⟩
  by_cases here : id = k
  · subst here
    rcases partway.each id a found with ⟨stays, item⟩ | handed
    · obtain rfl := Option.some.inj (stays.symm.trans foundC)
      obtain ⟨⟨stack, answer, stored, mail⟩, settled⟩ := closes.handed lived
      exact Or.inr ⟨⟨stack, answer, item ▸ stored, mail⟩, settled⟩
    · -- what has been handed over is not in the map
      obtain ⟨stack, answer, -, mail⟩ := handed.item
      rw [lived.kept id c foundC] at mail
      cases mail
  · have other := closes.other lived here
    rcases partway.each id a found with ⟨stays, item⟩ | ⟨⟨stack, answer, stored, mail⟩, settled⟩
    · refine Or.inl ⟨?_, ?_⟩
      · rw [State.closed, AList.lookup_erase_ne here]
        exact stays
      · have apart : a.itemGUIDLow ≠ c.itemGUIDLow := fun same =>
          here (lived.paired.same foundC stays same)
        rw [State.closed, AList.lookup_erase_ne apart]
        exact item
    · exact Or.inr ⟨⟨stack, answer, stored, other.1.trans mail⟩,
        fun p loser => (other.2 p).trans (settled p loser)⟩

end Step

/-! ### Whole runs -/

def Book.opened (gold : UInt32 → UInt64) (inventory : UInt32 → Table ℕ Item) (itemGuid : ℕ) : Book :=
  ⟨.opened gold inventory itemGuid, fun _ _ => 0, fun _ => 0⟩

end WorldServer.AuctionHouse
