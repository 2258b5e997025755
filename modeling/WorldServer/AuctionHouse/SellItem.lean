import Mathlib.Data.UInt
import WorldServer.AuctionHouse.State

/-!
# Selling at the auction house

The packet is a list of stacks and counts. It is checked stack by stack, then all
counts are put on one item: the stack itself if it is sold whole and alone, else a
copy of the first stack with the sum of all counts. Nothing adds up the counts that
name the same stack.
-/
namespace WorldServer.AuctionHouse

open WorldServer.Lib WorldServer.Entities

/-- The number of stacks is sent in five bits. -/
structure SellRequest where
  auctioneer : Option Auctioneer
  bid : UInt64
  buyout : UInt64
  etime : UInt32
  items : List (ℕ × UInt32)
  fiveBits : items.length < 2 ^ 5

/-- A packet that has passed all checks. -/
structure Sale where
  auctioneer : Auctioneer
  item : ℕ × Item
  finalCount : UInt32
  auctionTime : ℕ
  deposit : UInt32
deriving DecidableEq, Repr

def SellRequest.readCheck (p : SellRequest) : Option (Option AuctionError) :=
  if p.bid = 0 ∨ p.etime = 0 then some none
  else if maxMoneyAmount < p.bid ∨ maxMoneyAmount < p.buyout then some (some .databaseError)
  else if maxAuctionItems < p.items.length then some (some .databaseError)
  else if p.items.any fun x => x.1 == 0 || x.2 == 0 || 1000 < x.2 then some none
  else none

/-- The stack behind one entry of the packet, if it can be sold. -/
def State.checkItem (r : Realm) (s : State) (player : UInt32) (x : ℕ × UInt32) :
    Except AuctionError (ℕ × Item) :=
  match (s.inventory player).lookup x.1 with
  | none => .error .itemNotFound
  | some item =>
    if (s.getAItem x.1).isSome || !item.canBeTraded || item.isNotEmptyBag || r.conjured item.entry ||
        item.expiration != 0 || item.count < x.2 then .error .databaseError
    else .ok (x.1, item)

def SellRequest.finalCount (p : SellRequest) : UInt32 := (p.items.map (·.2)).sum

def State.checkSale (r : Realm) (s : State) (player : UInt32) (p : SellRequest) :
    Except (Option AuctionError) Sale :=
  match p.readCheck with
  | some e => .error e
  | none =>
    match p.auctioneer with
    | none => .error none
    | some auctioneer =>
      let etime := p.etime * 60
      if etime ≠ minAuctionTime ∧ etime ≠ 2 * minAuctionTime ∧ etime ≠ 4 * minAuctionTime then
        .error none
      else match p.items.mapM (s.checkItem r player) with
        | .error e => .error (some e)
        | .ok items =>
          if p.finalCount = 0 then .error (some .databaseError)
          else if items.any fun x => r.maxStackCount x.2.entry < p.finalCount then
            .error (some .databaseError)
          else match items with
            | [] => .error (some .databaseError)
            | item :: _ =>
              let deposit := r.auctionDeposit auctioneer.houseId etime item.2.entry p.finalCount
              if !hasEnoughMoney (s.gold player) deposit.toUInt64 then
                .error (some .notEnoughtMoney)
              else .ok ⟨auctioneer, item, p.finalCount, r.auctionTime etime, deposit⟩

def Item.cloneItem (r : Realm) (item : Item) (count : UInt32) : Option Item :=
  if count < 1 then none
  else some { item with
    count := if r.maxStackCount item.entry < count then r.maxStackCount item.entry else count }

def removeSold (inventory : Table ℕ Item) (x : ℕ × UInt32) : Table ℕ Item :=
  match inventory.lookup x.1 with
  -- a stack that has already left the inventory is changed outside of it
  | none => inventory
  | some item =>
    if item.count = x.2 then inventory.erase x.1
    else inventory.insert x.1 { item with count := item.count - x.2 }

def State.addAuction (s : State) (player : UInt32) (p : SellRequest) (sale : Sale) (now guid : ℕ)
    (item : Item) : State :=
  let auction : AuctionEntry :=
    { auctioneer := sale.auctioneer, itemGUIDLow := guid, itemEntry := item.entry
      itemCount := item.count, owner := player, startbid := p.bid.toUInt32, bid := 0
      buyout := p.buyout.toUInt32, expireTime := now + sale.auctionTime, bidder := 0
      deposit := sale.deposit }
  ({ s with
    aItems := s.aItems.insert guid item
    auctions := s.auctions.insert s.auctionId auction
    auctionId := s.auctionId + 1 } : State).debit player (-sale.deposit.toInt32).toInt64

/-- The state after the packet; the error sent back is `none` where the packet is dropped. -/
def State.handleAuctionSellItem (r : Realm) (s : State) (player : UInt32) (p : SellRequest)
    (now : ℕ) : State × Option AuctionError :=
  match s.checkSale r player p with
  | .error e => (s, e)
  | .ok sale =>
    let (guid, item) := sale.item
    if p.items.map (·.2) = [item.count] then
      -- the stack is sold whole and is just moved
      let s := s.setInventory player ((s.inventory player).erase guid)
      (s.addAuction player p sale now guid item, some .ok)
    else match item.cloneItem r sale.finalCount with
      | none => (s, some .databaseError)
      | some newItem =>
        let newGuid := s.itemGuid
        let s := s.setInventory player (p.items.foldl removeSold (s.inventory player))
        (s.generateLowGuid.addAuction player p sale now newGuid newItem, some .ok)

/-! ### What is removed and what was asked for -/

def countOf (entry : UInt32) (_ : ℕ) (item : Item) : ℕ :=
  if item.entry = entry then item.count.toNat else 0

/-- The count of a template in the player's inventory and in the auction house. -/
def State.held (s : State) (player entry : UInt32) : ℕ :=
  Table.total (countOf entry) (s.inventory player) + Table.total (countOf entry) s.aItems

def asked (items : List (ℕ × UInt32)) (guid : ℕ) : ℕ :=
  (items.map fun x => if x.1 = guid then x.2.toNat else 0).sum

def askedOf (templateOf : ℕ → UInt32) (entry : UInt32) (items : List (ℕ × UInt32)) : ℕ :=
  (items.map fun x => if templateOf x.1 = entry then x.2.toNat else 0).sum

@[simp] lemma asked_cons (x : ℕ × UInt32) (items : List (ℕ × UInt32)) (guid : ℕ) :
    asked (x :: items) guid = (if x.1 = guid then x.2.toNat else 0) + asked items guid := by
  simp [asked]

@[simp] lemma askedOf_cons (templateOf : ℕ → UInt32) (entry : UInt32) (x : ℕ × UInt32)
    (items : List (ℕ × UInt32)) : askedOf templateOf entry (x :: items) =
      (if templateOf x.1 = entry then x.2.toNat else 0) + askedOf templateOf entry items := by
  simp [askedOf]

variable {items : List (ℕ × UInt32)} {templateOf : ℕ → UInt32} {inventory : Table ℕ Item}
  {r : Realm} {s : State} {player : UInt32} {p : SellRequest} {sale : Sale}

lemma named_of_asked {guid : ℕ} (some_ : 0 < asked items guid) : ∃ x ∈ items, x.1 = guid := by
  induction items with
  | nil => exact absurd some_ (Nat.lt_irrefl 0)
  | cons x items ih =>
    by_cases here : x.1 = guid
    · exact ⟨x, List.mem_cons_self, here⟩
    · rw [asked_cons, if_neg here, Nat.zero_add] at some_
      obtain ⟨y, later, named⟩ := ih some_
      exact ⟨y, List.mem_cons_of_mem x later, named⟩

def Covered (templateOf : ℕ → UInt32) (entry : UInt32) (inventory : Table ℕ Item)
    (items : List (ℕ × UInt32)) : Prop :=
  ∀ guid, templateOf guid = entry → 0 < asked items guid →
    ∃ item, inventory.lookup guid = some item ∧ asked items guid ≤ item.count.toNat

/-- Every stack is of the template its guid had at first. -/
def Templates (templateOf : ℕ → UInt32) (inventory : Table ℕ Item) : Prop :=
  ∀ guid item, inventory.lookup guid = some item → item.entry = templateOf guid

lemma removeSold_templates (templates : Templates templateOf inventory) (x : ℕ × UInt32) :
    Templates templateOf (removeSold inventory x) := by
  unfold removeSold
  split
  · exact templates
  next item hf =>
    split
    · intro guid other there
      exact templates guid other ((Table.lookup_erase_iff _ _ _ _).mp there).2
    · intro guid other there
      rcases (Table.lookup_insert_iff _ _ _ _ _).mp there with ⟨rfl, rfl⟩ | ⟨-, before⟩
      · exact templates x.1 item hf
      · exact templates guid other before

lemma lookup_removeSold_other (inventory : Table ℕ Item) (x : ℕ × UInt32) (guid : ℕ)
    (other : guid ≠ x.1) : (removeSold inventory x).lookup guid = inventory.lookup guid := by
  unfold removeSold
  split
  · rfl
  · split
    · exact AList.lookup_erase_ne other
    · exact AList.lookup_insert_ne other

/-- One removal never takes more than it was asked to, and takes exactly that when the
stack is there and is large enough. -/
lemma removeSold_total (templates : Templates templateOf inventory) (entry : UInt32)
    (x : ℕ × UInt32) (positive : 0 < x.2.toNat) :
    (templateOf x.1 ≠ entry → Table.total (countOf entry) (removeSold inventory x) =
      Table.total (countOf entry) inventory) ∧
    (templateOf x.1 = entry →
      Table.total (countOf entry) inventory ≤
        Table.total (countOf entry) (removeSold inventory x) + x.2.toNat ∧
      (Table.total (countOf entry) (removeSold inventory x) + x.2.toNat =
          Table.total (countOf entry) inventory ↔
        ∃ item, inventory.lookup x.1 = some item ∧ x.2.toNat ≤ item.count.toNat)) := by
  unfold removeSold
  cases hf : inventory.lookup x.1 with
  | none =>
    dsimp only
    refine ⟨fun _ => rfl, fun _ => ⟨by omega, ?_⟩⟩
    simp only [reduceCtorEq, false_and, exists_false, iff_false]
    omega
  | some item =>
    have template := templates x.1 item hf
    dsimp only
    by_cases whole : item.count = x.2
    · rw [if_pos whole]
      have removed := Table.total_erase (countOf entry) inventory x.1 item hf
      simp only [countOf, template, whole] at removed
      constructor
      · intro other
        rw [if_neg other] at removed
        omega
      · intro hs
        rw [if_pos hs] at removed
        refine ⟨by omega, ?_⟩
        simp only [Option.some.injEq, exists_eq_left', whole, le_refl, iff_true]
        omega
    · rw [if_neg whole]
      have replaced := Table.total_insert_of_some (countOf entry) inventory x.1
        { item with count := item.count - x.2 } item hf
      generalize inventory.insert x.1 { item with count := item.count - x.2 } = after at replaced ⊢
      simp only [countOf, template] at replaced
      -- a stack that is too small wraps to a large one
      have left : (item.count - x.2).toNat = if x.2.toNat ≤ item.count.toNat
          then item.count.toNat - x.2.toNat else 2 ^ 32 + item.count.toNat - x.2.toNat := by
        have small := x.2.toNat_lt
        have size := item.count.toNat_lt
        rw [UInt32.toNat_sub]
        split <;> omega
      rw [left] at replaced
      have size := x.2.toNat_lt
      constructor
      · intro other
        rw [if_neg other, if_neg other] at replaced
        omega
      · intro hs
        simp only [if_pos hs] at replaced
        simp only [Option.some.injEq, exists_eq_left']
        split at replaced
        next enough => exact ⟨by omega, by constructor <;> intro _ <;> omega⟩
        next short => exact ⟨by omega, by constructor <;> intro _ <;> omega⟩

lemma covered_cons (templateOf : ℕ → UInt32) {entry : UInt32} {x : ℕ × UInt32}
    (hs : templateOf x.1 = entry) (positive : 0 < x.2.toNat) (inventory : Table ℕ Item)
    (items : List (ℕ × UInt32)) :
    (∃ item, inventory.lookup x.1 = some item ∧ x.2.toNat ≤ item.count.toNat) ∧
        Covered templateOf entry (removeSold inventory x) items ↔
      Covered templateOf entry inventory (x :: items) := by
  constructor
  · rintro ⟨⟨item, hf, enough⟩, rest⟩ guid template some_
    rw [asked_cons] at some_ ⊢
    by_cases here : x.1 = guid
    · subst here
      rw [if_pos rfl] at some_ ⊢
      refine ⟨item, hf, ?_⟩
      rcases Nat.eq_zero_or_pos (asked items x.1) with none_ | more
      · omega
      · obtain ⟨left, leftFound, leftEnough⟩ := rest x.1 template more
        unfold removeSold at leftFound
        simp only [hf] at leftFound
        split at leftFound
        · rw [AList.lookup_erase] at leftFound
          cases leftFound
        · rw [AList.lookup_insert] at leftFound
          obtain rfl := Option.some.inj leftFound
          have difference : (item.count - x.2).toNat = item.count.toNat - x.2.toNat :=
            UInt32.toNat_sub_of_le _ _ (UInt32.le_iff_toNat_le.mpr enough)
          simp only [difference] at leftEnough
          omega
    · rw [if_neg here, Nat.zero_add] at some_ ⊢
      obtain ⟨other, otherFound, otherEnough⟩ := rest guid template some_
      rw [lookup_removeSold_other inventory x guid (Ne.symm here)] at otherFound
      exact ⟨other, otherFound, otherEnough⟩
  · intro covered
    obtain ⟨item, hf, enough⟩ := covered x.1 hs (by rw [asked_cons, if_pos rfl]; omega)
    rw [asked_cons, if_pos rfl] at enough
    refine ⟨⟨item, hf, by omega⟩, fun guid template some_ => ?_⟩
    by_cases here : guid = x.1
    · subst here
      have difference : (item.count - x.2).toNat = item.count.toNat - x.2.toNat :=
        UInt32.toNat_sub_of_le _ _ (UInt32.le_iff_toNat_le.mpr (by omega))
      have part : item.count ≠ x.2 := by
        intro whole
        rw [whole] at enough
        omega
      refine ⟨{ item with count := item.count - x.2 }, ?_, by simp only [difference]; omega⟩
      simp [removeSold, hf, part]
    · obtain ⟨other, otherFound, otherEnough⟩ := covered guid template
        (by rw [asked_cons, if_neg (Ne.symm here), Nat.zero_add]; exact some_)
      rw [asked_cons, if_neg (Ne.symm here), Nat.zero_add] at otherEnough
      rw [lookup_removeSold_other inventory x guid here]
      exact ⟨other, otherFound, otherEnough⟩

/-- The whole loop takes what was asked for exactly when no stack is asked for more than
it has; otherwise it takes less. -/
lemma foldl_removeSold_total (entry : UInt32) (items : List (ℕ × UInt32))
    (positive : ∀ x ∈ items, 0 < x.2.toNat) (templates : Templates templateOf inventory) :
    Table.total (countOf entry) inventory ≤
      Table.total (countOf entry) (items.foldl removeSold inventory) +
        askedOf templateOf entry items ∧
    (Table.total (countOf entry) (items.foldl removeSold inventory) +
        askedOf templateOf entry items = Table.total (countOf entry) inventory ↔
      Covered templateOf entry inventory items) := by
  induction items generalizing inventory with
  | nil => simp [askedOf, Covered, asked]
  | cons x items ih =>
    obtain ⟨atMost, exactly⟩ := ih (fun y hm => positive y (List.mem_cons_of_mem x hm))
      (removeSold_templates templates x)
    obtain ⟨others, here⟩ := removeSold_total templates entry x (positive x List.mem_cons_self)
    rw [List.foldl_cons, askedOf_cons]
    by_cases hs : templateOf x.1 = entry
    · obtain ⟨less, took⟩ := here hs
      rw [if_pos hs]
      refine ⟨by omega, ?_⟩
      -- both the step and the rest have to be exact
      have split_ : Table.total (countOf entry) (items.foldl removeSold (removeSold inventory x)) +
            (x.2.toNat + askedOf templateOf entry items) = Table.total (countOf entry) inventory ↔
          (∃ item, inventory.lookup x.1 = some item ∧ x.2.toNat ≤ item.count.toNat) ∧
            Covered templateOf entry (removeSold inventory x) items := by
        rw [← took, ← exactly]
        omega
      rw [split_]
      exact covered_cons templateOf hs (positive x List.mem_cons_self) inventory items
    · rw [if_neg hs, Nat.zero_add, ← others hs]
      refine ⟨atMost, exactly.trans ?_⟩
      apply forall_congr'
      intro guid
      apply imp_congr_right
      intro template
      have apart : x.1 ≠ guid := by
        rintro rfl
        exact hs template
      rw [asked_cons, if_neg apart, Nat.zero_add,
        lookup_removeSold_other inventory x guid (Ne.symm apart)]

/-! ### What the checks give -/

/-- What is known of a packet that has passed. -/
structure Checked (r : Realm) (s : State) (player : UInt32) (p : SellRequest) (sale : Sale) : Prop where
  counts : ∀ x ∈ p.items, 0 < x.2.toNat ∧ x.2.toNat ≤ 1000
  owned : ∀ x ∈ p.items, ∃ item, (s.inventory player).lookup x.1 = some item ∧
    s.aItems.lookup x.1 = none ∧ x.2.toNat ≤ item.count.toNat
  first : ∃ n rest, p.items = (sale.item.1, n) :: rest
  item : (s.inventory player).lookup sale.item.1 = some sale.item.2
  finalCount : sale.finalCount = p.finalCount
  nonzero : p.finalCount ≠ 0
  fits : p.finalCount.toNat ≤ (r.maxStackCount sale.item.2.entry).toNat
  deposit : sale.deposit.toNat ≤ (s.gold player).toNat

lemma checkItem_ok {x : ℕ × UInt32} {y : ℕ × Item} (ok : s.checkItem r player x = .ok y) :
    y.1 = x.1 ∧
      (s.inventory player).lookup x.1 = some y.2 ∧ s.aItems.lookup x.1 = none ∧
      x.2.toNat ≤ y.2.count.toNat := by
  unfold State.checkItem at ok
  split at ok
  · cases ok
  next item hf =>
    split at ok
    · cases ok
    next passed =>
      obtain rfl := Except.ok.inj ok
      simp only [Bool.or_eq_true, not_or, decide_eq_true_eq, State.getAItem, Bool.not_eq_true,
        Option.isSome_eq_false_iff, Option.isNone_iff_eq_none, UInt32.not_lt,
        UInt32.le_iff_toNat_le] at passed
      exact ⟨rfl, hf, passed.1.1.1.1.1, passed.2⟩

lemma mapM_checkItem {results : List (ℕ × Item)}
    (ok : items.mapM (s.checkItem r player) = .ok results) :
    (∀ x ∈ items, ∃ y ∈ results, s.checkItem r player x = .ok y) ∧
    ∀ y rest, results = y :: rest →
      ∃ x tail, items = x :: tail ∧ s.checkItem r player x = .ok y := by
  induction items generalizing results with
  | nil =>
    obtain rfl : [] = results := by simpa [pure, Except.pure] using ok
    exact ⟨by simp, by simp⟩
  | cons x items ih =>
    cases first : s.checkItem r player x with
    | error e => simp [first, bind, Except.bind] at ok
    | ok y =>
      cases others : items.mapM (s.checkItem r player) with
      | error e => simp [first, others, bind, Except.bind] at ok
      | ok ys =>
        obtain rfl : y :: ys = results := by
          simpa [first, others, bind, Except.bind, pure, Except.pure] using ok
        refine ⟨fun z hm => ?_, ?_⟩
        · rcases List.mem_cons.mp hm with rfl | later
          · exact ⟨y, List.mem_cons_self, first⟩
          · obtain ⟨result, among, passed⟩ := (ih others).1 z later
            exact ⟨result, List.mem_cons_of_mem y among, passed⟩
        · rintro _ _ ⟨⟩
          exact ⟨x, items, rfl, first⟩

lemma checkSale_ok (ok : s.checkSale r player p = .ok sale) : Checked r s player p sale := by
  unfold State.checkSale at ok
  split at ok
  · cases ok
  next read =>
    have counts : ∀ x ∈ p.items, 0 < x.2.toNat ∧ x.2.toNat ≤ 1000 := by
      intro x hm
      unfold SellRequest.readCheck at read
      split at read
      · cases read
      · split at read
        · cases read
        · split at read
          · cases read
          · split at read
            · cases read
            next each =>
              simp only [List.any_eq_true, not_exists, not_and, Bool.or_eq_true, beq_iff_eq,
                decide_eq_true_eq, not_or, UInt32.not_lt, UInt32.le_iff_toNat_le] at each
              obtain ⟨⟨-, nonzero⟩, small⟩ := each x hm
              have positive : x.2.toNat ≠ 0 := fun zero =>
                nonzero (UInt32.toNat_inj.mp (zero.trans UInt32.toNat_zero.symm))
              have thousand : (1000 : UInt32).toNat = 1000 := rfl
              omega
    split at ok
    · cases ok
    · dsimp only at ok
      split at ok
      · cases ok
      · split at ok
        · cases ok
        next items checked =>
          split at ok
          · cases ok
          next nonzero =>
            split at ok
            · cases ok
            next fits =>
              split at ok
              · cases ok
              next item rest =>
                split at ok
                · cases ok
                next enough =>
                  obtain rfl := Except.ok.inj ok
                  obtain ⟨all, first⟩ := mapM_checkItem checked
                  obtain ⟨x, tail, head, passed⟩ := first item rest rfl
                  obtain ⟨hs, hf, -, -⟩ := checkItem_ok passed
                  simp only [List.any_cons, Bool.or_eq_true, decide_eq_true_eq, not_or,
                    UInt32.not_lt, UInt32.le_iff_toNat_le] at fits
                  simp only [Bool.not_eq_true', Bool.not_eq_false, hasEnoughMoney_iff,
                    UInt32.toNat_toUInt64] at enough
                  exact {
                    counts := counts
                    owned := fun x hm => by
                      obtain ⟨y, -, accepted⟩ := all x hm
                      obtain ⟨-, stack, fresh, covers⟩ := checkItem_ok accepted
                      exact ⟨y.2, stack, fresh, covers⟩
                    first := ⟨x.2, tail, by rw [head, hs]⟩
                    item := by rw [hs]; exact hf
                    finalCount := rfl
                    nonzero := nonzero
                    fits := fits.1
                    deposit := enough }

/-! ### The sum of the counts -/

lemma sum_toNat (counts : List UInt32) (small : (counts.map (·.toNat)).sum < 2 ^ 32) :
    counts.sum.toNat = (counts.map (·.toNat)).sum := by
  induction counts with
  | nil => rfl
  | cons n counts ih =>
    rw [List.map_cons, List.sum_cons] at small
    rw [List.sum_cons, List.map_cons, List.sum_cons, UInt32.toNat_add, ih (by omega)]
    omega

lemma finalCount_toNat (checked : Checked r s player p sale) :
    p.finalCount.toNat = (p.items.map (·.2.toNat)).sum := by
  have bound : ∀ items : List (ℕ × UInt32), (∀ x ∈ items, x.2.toNat ≤ 1000) →
      (items.map (·.2.toNat)).sum ≤ 1000 * items.length := by
    intro items small
    induction items with
    | nil => simp
    | cons x items ih =>
      have rest := ih fun y hm => small y (List.mem_cons_of_mem x hm)
      have here := small x List.mem_cons_self
      rw [List.map_cons, List.sum_cons, List.length_cons]
      omega
  have most := bound p.items fun x hm => (checked.counts x hm).2
  have few := p.fiveBits
  rw [SellRequest.finalCount, sum_toNat _ (by rw [List.map_map]; simp only [Function.comp_def]; omega),
    List.map_map]
  rfl

lemma askedOf_le (templateOf : ℕ → UInt32) (entry : UInt32) (items : List (ℕ × UInt32)) :
    askedOf templateOf entry items ≤ (items.map (·.2.toNat)).sum := by
  induction items with
  | nil => exact Nat.le_refl _
  | cons x items ih =>
    rw [askedOf_cons, List.map_cons, List.sum_cons]
    split <;> omega

lemma askedOf_eq_iff (templateOf : ℕ → UInt32) (entry : UInt32) (items : List (ℕ × UInt32))
    (positive : ∀ x ∈ items, 0 < x.2.toNat) :
    askedOf templateOf entry items = (items.map (·.2.toNat)).sum ↔
      ∀ x ∈ items, templateOf x.1 = entry := by
  induction items with
  | nil => simp [askedOf]
  | cons x items ih =>
    have rest := ih fun y hm => positive y (List.mem_cons_of_mem x hm)
    have least := askedOf_le templateOf entry items
    have here := positive x List.mem_cons_self
    rw [askedOf_cons, List.map_cons, List.sum_cons, List.forall_mem_cons, ← rest]
    split
    next hs =>
      simp only [hs, true_and]
      omega
    next other =>
      simp only [other, false_and, iff_false]
      omega

lemma askedOf_of_other {entry other : UInt32} (all : ∀ x ∈ items, templateOf x.1 = entry)
    (apart : entry ≠ other) : askedOf templateOf other items = 0 := by
  induction items with
  | nil => rfl
  | cons x items ih =>
    rw [askedOf_cons, all x List.mem_cons_self, if_neg apart,
      ih fun y hm => all y (List.mem_cons_of_mem x hm)]

/-! ### The law and when it holds -/

/-- The packet neither creates nor loses an item, and changes nothing if it is rejected. -/
structure SellLaw (r : Realm) (s : State) (player : UInt32) (p : SellRequest) (now : ℕ) : Prop where
  conserved : ∀ entry,
    (s.handleAuctionSellItem r player p now).1.held player entry = s.held player entry
  rejected : (s.handleAuctionSellItem r player p now).2 ≠ some .ok →
    (s.handleAuctionSellItem r player p now).1.inventory player = s.inventory player ∧
      (s.handleAuctionSellItem r player p now).1.gold player = s.gold player

/-- All stacks are of one template, and none is asked for more than it has. -/
structure SellRequest.Fair (p : SellRequest) (inventory : Table ℕ Item) : Prop where
  oneTemplate : ∀ x ∈ p.items, ∀ y ∈ p.items, ∀ i j, inventory.lookup x.1 = some i →
    inventory.lookup y.1 = some j → i.entry = j.entry
  covered : ∀ guid item, inventory.lookup guid = some item →
    asked p.items guid ≤ item.count.toNat

lemma held_addAuction (s : State) (player : UInt32) (p : SellRequest) (sale : Sale)
    (now guid : ℕ) (item : Item) (fresh : s.aItems.lookup guid = none) (entry : UInt32) :
    (s.addAuction player p sale now guid item).held player entry =
      s.held player entry + countOf entry guid item := by
  simp only [State.addAuction, State.debit, State.held,
    Table.total_insert_of_none (countOf entry) s.aItems guid item fresh]
  omega

def templateIn (inventory : Table ℕ Item) (guid : ℕ) : UInt32 :=
  ((inventory.lookup guid).map (·.entry)).getD 0

lemma templateIn_templates (inventory : Table ℕ Item) : Templates (templateIn inventory) inventory := by
  intro guid item hf
  simp [templateIn, hf]

/-- Covering every stack of the first one's template, with nothing of another template, is
fairness. -/
lemma fair_iff (checked : Checked r s player p sale) :
    p.Fair (s.inventory player) ↔
      (∀ x ∈ p.items, templateIn (s.inventory player) x.1 = sale.item.2.entry) ∧
      Covered (templateIn (s.inventory player)) sale.item.2.entry (s.inventory player) p.items := by
  obtain ⟨n, rest, head⟩ := checked.first
  constructor
  · intro fair
    constructor
    · intro x hm
      obtain ⟨item, hf, -, -⟩ := checked.owned x hm
      rw [← templateIn_templates _ x.1 item hf]
      exact fair.oneTemplate x hm (sale.item.1, n) (by simp [head]) item sale.item.2 hf checked.item
    · intro guid _ some_
      -- a guid with a count is named by an entry, so it has a stack
      obtain ⟨x, hm, rfl⟩ := named_of_asked some_
      obtain ⟨item, hf, -, -⟩ := checked.owned x hm
      exact ⟨item, hf, fair.covered x.1 item hf⟩
  · rintro ⟨all, covered⟩
    constructor
    · intro x inX y inY i j foundX foundY
      rw [templateIn_templates _ x.1 i foundX, templateIn_templates _ y.1 j foundY, all x inX, all y inY]
    · intro guid item hf
      rcases Nat.eq_zero_or_pos (asked p.items guid) with zero | some_
      · omega
      · obtain ⟨x, hm, rfl⟩ := named_of_asked some_
        obtain ⟨other, otherFound, enough⟩ := covered x.1 (all x hm) some_
        obtain rfl : item = other := Option.some.inj (hf.symm.trans otherFound)
        exact enough

/-- Putting all counts on a copy of the first stack conserves every template exactly when
the packet is fair. -/
lemma copied_iff (checked : Checked r s player p sale) :
    (∀ entry, Table.total (countOf entry) (p.items.foldl removeSold (s.inventory player)) +
        (if sale.item.2.entry = entry then p.finalCount.toNat else 0) =
      Table.total (countOf entry) (s.inventory player)) ↔ p.Fair (s.inventory player) := by
  have positive := fun x hm => (checked.counts x hm).1
  have templates := templateIn_templates (s.inventory player)
  have sum := finalCount_toNat checked
  rw [fair_iff checked]
  constructor
  · intro conserved
    obtain ⟨atMost, exactly⟩ := foldl_removeSold_total sale.item.2.entry p.items positive templates
    have least := askedOf_le (templateIn (s.inventory player)) sale.item.2.entry p.items
    have first := conserved sale.item.2.entry
    rw [if_pos rfl] at first
    exact ⟨(askedOf_eq_iff _ _ p.items positive).mp (by omega), exactly.mp (by omega)⟩
  · rintro ⟨all, covered⟩ entry
    by_cases hs : sale.item.2.entry = entry
    · subst hs
      have exactly := (foldl_removeSold_total sale.item.2.entry p.items positive templates).2.mpr covered
      have whole := (askedOf_eq_iff _ _ p.items positive).mpr all
      rw [if_pos rfl]
      omega
    · have none_ := askedOf_of_other all hs
      have exactly := (foldl_removeSold_total entry p.items positive templates).2.mpr fun guid template some_ => by
        -- no entry names a stack of another template
        obtain ⟨x, hm, rfl⟩ := named_of_asked some_
        exact absurd ((all x hm).symm.trans template) hs
      rw [if_neg hs]
      omega

lemma cloneItem_count {item : Item} {count : UInt32} (nonzero : count ≠ 0)
    (fits : count.toNat ≤ (r.maxStackCount item.entry).toNat) :
    item.cloneItem r count = some { item with count := count } := by
  have some_ : ¬ count < 1 := by
    have apart : count.toNat ≠ 0 := fun zero =>
      nonzero (UInt32.toNat_inj.mp (zero.trans UInt32.toNat_zero.symm))
    rw [UInt32.lt_iff_toNat_lt]
    simp only [UInt32.reduceToNat]
    omega
  have below : ¬ r.maxStackCount item.entry < count := by
    rw [UInt32.lt_iff_toNat_lt]
    omega
  simp [Item.cloneItem, some_, below]

lemma fair_of_whole (checked : Checked r s player p sale)
    (whole : p.items.map (·.2) = [sale.item.2.count]) : p.Fair (s.inventory player) := by
  obtain ⟨n, rest, head⟩ := checked.first
  rw [head, List.map_cons, List.cons.injEq, List.map_eq_nil_iff] at whole
  obtain ⟨rfl, rfl⟩ := whole
  constructor
  · intro x inX y inY i j foundX foundY
    rw [head, List.mem_singleton] at inX inY
    subst inX inY
    rw [Option.some.inj (foundX.symm.trans foundY)]
  · intro guid item hf
    rw [head, asked_cons]
    split
    next hs =>
      subst hs
      obtain rfl : item = sale.item.2 := Option.some.inj (hf.symm.trans checked.item)
      exact Nat.le_refl _
    · exact Nat.zero_le _

/-- The packet conserves items exactly when it does not pass the checks, or is fair: all
stacks of one template, and no stack asked for more than it has. -/
theorem sellLaw_iff (r : Realm) (s : State) (player : UInt32) (p : SellRequest) (now : ℕ)
    (newGuid : s.aItems.lookup s.itemGuid = none) :
    SellLaw r s player p now ↔
      ∀ sale, s.checkSale r player p = .ok sale → p.Fair (s.inventory player) := by
  cases passes : s.checkSale r player p with
  | error e =>
    have same : (s.handleAuctionSellItem r player p now).1 = s := by
      simp only [State.handleAuctionSellItem, passes]
    constructor
    · intro _ _ absurd_
      cases absurd_
    · intro _
      exact ⟨fun entry => by rw [same], fun _ => by rw [same]; exact ⟨rfl, rfl⟩⟩
  | ok sale =>
    have checked := checkSale_ok passes
    by_cases whole : p.items.map (·.2) = [sale.item.2.count]
    · have fair := fair_of_whole checked whole
      have moved : s.handleAuctionSellItem r player p now =
          ((s.setInventory player ((s.inventory player).erase sale.item.1)).addAuction player p sale
            now sale.item.1 sale.item.2, some .ok) := by
        simp only [State.handleAuctionSellItem, passes, whole, if_true]
      refine ⟨fun _ _ _ => fair, fun _ => ⟨fun entry => ?_, fun no => ?_⟩⟩
      · obtain ⟨n, rest, head⟩ := checked.first
        obtain ⟨item, -, fresh, -⟩ := checked.owned (sale.item.1, n) (by simp [head])
        have removed := Table.total_erase (countOf entry) (s.inventory player) sale.item.1
          sale.item.2 checked.item
        have added := held_addAuction (s.setInventory player ((s.inventory player).erase sale.item.1))
          player p sale now sale.item.1 sale.item.2 fresh entry
        rw [moved]
        rw [added]
        simp only [State.held, State.setInventory, Function.update_self]
        omega
      · rw [moved] at no
        exact absurd rfl no
    · have clone := cloneItem_count checked.nonzero checked.fits
      have copied : s.handleAuctionSellItem r player p now =
          ((s.setInventory player (p.items.foldl removeSold (s.inventory player))).generateLowGuid
            |>.addAuction player p sale now s.itemGuid { sale.item.2 with count := p.finalCount },
            some .ok) := by
        simp only [State.handleAuctionSellItem, passes, whole, if_false, checked.finalCount, clone]
      have totals : (∀ entry,
            (s.handleAuctionSellItem r player p now).1.held player entry = s.held player entry) ↔
          p.Fair (s.inventory player) := by
        rw [← copied_iff checked]
        apply forall_congr'
        intro entry
        have added := held_addAuction
          (s.setInventory player (p.items.foldl removeSold (s.inventory player))).generateLowGuid
          player p sale now s.itemGuid { sale.item.2 with count := p.finalCount } newGuid entry
        rw [copied]
        rw [added]
        simp only [State.held, State.generateLowGuid, State.setInventory, Function.update_self, countOf]
        omega
      constructor
      · intro law _ _
        exact totals.mp law.conserved
      · intro fair
        refine ⟨totals.mpr (fair sale rfl), fun no => ?_⟩
        rw [copied] at no
        exact absurd rfl no

private def plainRealm : Realm :=
  { isCharacter := fun _ => true, conjured := fun _ => false, maxStackCount := fun _ => 20
    auctionTime := fun etime => etime.toNat, auctionDeposit := fun _ _ _ _ => 100
    auctionCut := fun _ bid => bid / 20, fivePercent := fun bid => bid / 20 }

private def stackOf (entry count : UInt32) : Item :=
  { entry := entry, count := count, canBeTraded := true, isNotEmptyBag := false, expiration := 0 }

/-- Everybody has two stacks of different templates and a purse of 1000 copper. -/
private def twoTemplates : State :=
  { gold := fun _ => 1000
    inventory := fun _ => (AList.singleton 5 (stackOf 100 5)).insert 6 (stackOf 200 5)
    auctions := ∅, aItems := ∅, mails := [], auctionId := 1, itemGuid := 10 }

private def sellFor12Hours (items : List (ℕ × UInt32)) (fiveBits : items.length < 2 ^ 5) : SellRequest :=
  { auctioneer := some ⟨.neutral, 7⟩, bid := 50, buyout := 90, etime := 720, items := items
    fiveBits := fiveBits }

/-- Part of one stack can be sold. -/
theorem sellLaw_iff_part :
    SellLaw plainRealm twoTemplates 3 (sellFor12Hours [(5, 2)] (by decide)) 0 := by
  refine (sellLaw_iff plainRealm twoTemplates 3 _ 0 rfl).mpr fun _ _ => ⟨?_, ?_⟩
  · intro x inX y inY i j foundX foundY
    rw [List.mem_singleton.mp inX] at foundX
    rw [List.mem_singleton.mp inY] at foundY
    rw [Option.some.inj (foundX.symm.trans foundY)]
  · intro guid item found
    by_cases here : guid = 5
    · subst here
      obtain rfl : stackOf 100 5 = item := Option.some.inj found
      decide
    · have other : ¬ (5 = guid) := Ne.symm here
      simp [sellFor12Hours, asked, other]

/-- Two stacks of five and five, of two templates, become ten of the first one. -/
theorem two_templates_not_conserved :
    ¬ ∀ (r : Realm) (s : State) (player : UInt32) (p : SellRequest) (now : ℕ),
      s.aItems.lookup s.itemGuid = none → SellLaw r s player p now := by
  intro claim
  have kept := (claim plainRealm twoTemplates 3 (sellFor12Hours [(5, 5), (6, 5)] (by decide)) 0
    rfl).conserved 100
  revert kept
  decide

end WorldServer.AuctionHouse
