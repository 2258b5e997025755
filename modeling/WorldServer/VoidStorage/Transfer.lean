import WorldServer.Items.Counts
import WorldServer.VoidStorage.VoidStorageHandler
import Mathlib.Algebra.BigOperators.Fin

/-!
# What a transfer keeps

The entries of the storage count as one item each. A deposit keeps the count of every item if the
item is a single one and holds nothing, a withdrawal always does. A request that is refused before
it has begun changes nothing, but the items that have been deposited and withdrawn, and the payment,
are not taken back when one cannot be stored.
-/
namespace WorldServer.VoidStorage

open WorldServer.Lib WorldServer.Items WorldServer.Entities

/-! ### Counts -/

abbrev VoidItems := Fin VOID_STORAGE_MAX_SLOT → Option VoidStorageItem

def entryCount (entry : ℕ) (itemVS : Option VoidStorageItem) : ℕ :=
  if itemVS.any fun itemVS => itemVS.ItemEntry = entry then 1 else 0

def voidCount (voidItems : VoidItems) (entry : ℕ) : ℕ := ∑ i, entryCount entry (voidItems i)

def freeCount (itemVS : Option VoidStorageItem) : ℕ := if itemVS.isNone then 1 else 0

def freeSlots (voidItems : VoidItems) : ℕ := ∑ i, freeCount (voidItems i)

@[simp] lemma entryCount_none (entry : ℕ) : entryCount entry none = 0 := rfl

@[simp] lemma entryCount_some (entry : ℕ) (itemVS : VoidStorageItem) :
    entryCount entry (some itemVS) = if itemVS.ItemEntry = entry then 1 else 0 := by
  simp [entryCount]

@[simp] lemma freeCount_none : freeCount none = 1 := rfl

@[simp] lemma freeCount_some (itemVS : VoidStorageItem) : freeCount (some itemVS) = 0 := rfl

lemma sum_setVoidItem (f : Option VoidStorageItem → ℕ) (voidItems : VoidItems)
    (slot : Fin VOID_STORAGE_MAX_SLOT) (itemVS : Option VoidStorageItem) :
    ∑ i, f (Function.update voidItems slot itemVS i) + f (voidItems slot) =
      ∑ i, f (voidItems i) + f itemVS := by
  rw [← sum_update Finset.univ (fun i => f (voidItems i)) slot (f itemVS) (Finset.mem_univ slot)]
  refine congrArg (· + f (voidItems slot)) (Finset.sum_congr rfl fun i _ => ?_)
  by_cases here : i = slot
  · rw [here, Function.update_self, Function.update_self]
  · rw [Function.update_of_ne here, Function.update_of_ne here]

variable {slot : Fin VOID_STORAGE_MAX_SLOT}

namespace State

variable {s : State}

/-- How many of an item there are in the inventory and in the storage. -/
def count (s : State) (entry : ℕ) : ℕ := s.inv.total entry + voidCount s.voidItems entry

lemma freeSlots_eq (s : State) : s.GetNumOfVoidStorageFreeSlots = freeSlots s.voidItems := by
  have counts (slots : List (Fin VOID_STORAGE_MAX_SLOT)) :
      slots.countP (fun i => (s.voidItems i).isNone) =
        (slots.map fun i => freeCount (s.voidItems i)).sum := by
    induction slots with
    | nil => rfl
    | cons i slots ih =>
      rw [List.countP_cons, List.map_cons, List.sum_cons, ih, add_comm, freeCount]
  rw [GetNumOfVoidStorageFreeSlots, counts, freeSlots, Fin.sum_univ_def]

lemma free_of_next (next : s.GetNextVoidStorageFreeSlot = some slot) :
    s.voidItems slot = none := by
  simpa using List.find?_some next

lemma next_of_free (free : 0 < freeSlots s.voidItems) :
    ∃ slot, s.GetNextVoidStorageFreeSlot = some slot := by
  rw [← freeSlots_eq] at free
  obtain ⟨slot, member, isFree⟩ := List.countP_pos_iff.mp free
  exact Option.isSome_iff_exists.mp (List.find?_isSome.mpr ⟨slot, member, isFree⟩)

lemma stored_of_GetVoidStorageItem {id : ℕ} {itemVS : VoidStorageItem}
    (found : s.GetVoidStorageItem id = some (slot, itemVS)) : s.voidItems slot = some itemVS := by
  obtain ⟨i, -, here⟩ := List.exists_of_findSome?_eq_some found
  obtain ⟨item, stored, fits⟩ := Option.bind_eq_some_iff.mp here
  split at fits
  · obtain ⟨rfl, rfl⟩ := Prod.mk.inj (Option.some.inj fits)
    exact stored
  · cases fits

end State

namespace Transfer

variable (player : Player)

/-! ### Deposits -/

/-- What is deposited is a single item, and holds nothing. -/
def Single (t : Transfer) (guid : ℕ) : Prop :=
  ∀ item, t.inv.GetItemByGuid player guid = some item →
    item.count = 1 ∧ t.inv.IsNotEmptyBag player item = false

variable {player}

structure Deposits (player : Player) (t t' : Transfer) (item : Item) : Prop where
  placed : t'.inv.Placed player
  depositCount : t'.depositCount = t.depositCount + 1
  answers : t'.answers = t.answers
  money : t'.money = t.money
  free : freeSlots t'.voidItems + 1 = freeSlots t.voidItems
  count_le : ∀ entry, t'.count entry ≤ t.count entry
  count_eq_iff : (∀ entry, t'.count entry = t.count entry) ↔
    item.count = 1 ∧ t.inv.IsNotEmptyBag player item = false

lemma deposit_eq {t : Transfer} {guid : ℕ} {item : Item}
    (found : t.inv.GetItemByGuid player guid = some item)
    (next : t.GetNextVoidStorageFreeSlot = some slot) : t.deposit player guid =
      { t with
        nextItemId := t.nextItemId + 1
        voidItems := Function.update t.voidItems slot (some ⟨t.nextItemId, item.entry⟩)
        depositCount := t.depositCount + 1
        inv := t.inv.DestroyItem player (t.inv.GetBagSlot player item, item.m_slot) } := by
  have next' : { t with nextItemId := t.nextItemId + 1 }.GetNextVoidStorageFreeSlot = some slot :=
    next
  rw [deposit, found]
  dsimp only
  rw [AddVoidStorageItem, next']
  rfl

lemma deposit_spec {t : Transfer} (placed : t.inv.Placed player) {guid : ℕ} {item : Item}
    (found : t.inv.GetItemByGuid player guid = some item) (free : 0 < freeSlots t.voidItems) :
    Deposits player t (t.deposit player guid) item := by
  obtain ⟨slot, next⟩ := State.next_of_free free
  obtain ⟨place, here, inRange⟩ := Inventory.place_of_GetItemByGuid found
  have destroyed := Inventory.DestroyItem_spec placed here inRange
  have positive := placed.positive place item here
  have stored := State.free_of_next next
  -- the entry counts for the item itself
  have counts (entry : ℕ) : voidCount (Function.update t.voidItems slot
      (some ⟨t.nextItemId, item.entry⟩)) entry =
        voidCount t.voidItems entry + if item.entry = entry then 1 else 0 := by
    have changed := sum_setVoidItem (entryCount entry) t.voidItems slot
      (some ⟨t.nextItemId, item.entry⟩)
    rw [stored, entryCount_none, entryCount_some, add_zero] at changed
    exact changed
  rw [deposit_eq found next]
  refine ⟨destroyed.placed, rfl, rfl, rfl, ?_, fun entry => ?_, ?_⟩
  · have changed := sum_setVoidItem freeCount t.voidItems slot (some ⟨t.nextItemId, item.entry⟩)
    rw [stored, freeCount_none, freeCount_some, add_zero] at changed
    exact changed
  · have taken := destroyed.taken entry
    rw [State.count, State.count, counts]
    dsimp only
    split at taken
    next same =>
      rw [if_pos same]
      omega
    next different =>
      rw [if_neg different]
      omega
  · constructor
    · intro kept
      have exactly (entry : ℕ) := kept entry
      simp only [State.count, counts] at exactly
      have isEmpty : t.inv.IsNotEmptyBag player item = false := by
        by_contra notEmpty
        obtain ⟨entry, lost⟩ := destroyed.lost_of_notEmpty (by simpa using notEmpty)
        have same := exactly entry
        split at lost
        next isEntry =>
          rw [if_pos isEntry] at same
          omega
        next notEntry =>
          rw [if_neg notEntry] at same
          omega
      have taken := destroyed.taken item.entry
      have same := exactly item.entry
      rw [if_pos rfl] at taken same
      exact ⟨by omega, isEmpty⟩
    · rintro ⟨one, isEmpty⟩ entry
      have taken := destroyed.exact_of_empty isEmpty entry
      rw [State.count, State.count, counts]
      dsimp only
      rw [one] at taken
      omega

/-- What all deposits of a request do, with free slots for them. -/
structure AllDeposits (player : Player) (t t' : Transfer) (itemGuids : List ℕ) : Prop where
  placed : t'.inv.Placed player
  answers : t'.answers = t.answers
  money : t'.money = t.money
  depositCount : t.depositCount ≤ t'.depositCount ∧
    t'.depositCount ≤ t.depositCount + itemGuids.length
  none_iff : t'.depositCount = t.depositCount ↔
    ∀ guid ∈ itemGuids, t.inv.GetItemByGuid player guid = none
  same_of_none : t'.depositCount = t.depositCount → t' = t
  count_le : ∀ entry, t'.count entry ≤ t.count entry
  count_eq_iff : (∀ entry, t'.count entry = t.count entry) ↔
    Along (Transfer.deposit player) (Single player) t itemGuids

lemma deposits_spec (itemGuids : List ℕ) : ∀ {t : Transfer}, t.inv.Placed player →
    itemGuids.length ≤ freeSlots t.voidItems →
    AllDeposits player t (itemGuids.foldl (Transfer.deposit player) t) itemGuids := by
  induction itemGuids with
  | nil =>
    intro t placed _
    exact ⟨placed, rfl, rfl, ⟨le_rfl, le_rfl⟩, by simp, fun _ => rfl, fun _ => le_rfl, by simp⟩
  | cons guid itemGuids ih =>
    intro t placed room
    rw [List.length_cons] at room
    cases found : t.inv.GetItemByGuid player guid with
    | none =>
      have skipped : t.deposit player guid = t := by rw [deposit, found]
      have rest := ih placed (by omega)
      rw [List.foldl_cons, skipped]
      refine ⟨rest.placed, rest.answers, rest.money, ?_, ?_, rest.same_of_none, rest.count_le, ?_⟩
      · have bounds := rest.depositCount
        rw [List.length_cons]
        omega
      · rw [rest.none_iff, List.forall_mem_cons, and_iff_right found]
      · rw [rest.count_eq_iff, along_cons, skipped, and_iff_right]
        intro item here
        rw [found] at here
        cases here
    | some item =>
      have one := deposit_spec placed found (by omega)
      have free := one.free
      have rest := ih one.placed (by omega)
      rw [List.foldl_cons]
      have bounds := rest.depositCount
      have counted := one.depositCount
      refine ⟨rest.placed, rest.answers.trans one.answers, rest.money.trans one.money, ?_, ?_,
        fun same => ?_, fun entry => (rest.count_le entry).trans (one.count_le entry), ?_⟩
      · rw [List.length_cons]
        omega
      · refine iff_of_false (by omega) fun all => ?_
        rw [all guid (List.mem_cons_self ..)] at found
        cases found
      · omega
      · have single : Single player t guid ↔
            item.count = 1 ∧ t.inv.IsNotEmptyBag player item = false := by
          rw [Single, found]
          simp
        rw [along_cons, single, ← one.count_eq_iff, ← rest.count_eq_iff]
        -- nothing that a deposit loses comes back
        constructor
        · intro kept
          have first (entry : ℕ) : (t.deposit player guid).count entry = t.count entry :=
            le_antisymm (one.count_le entry) ((kept entry).symm.trans_le (rest.count_le entry))
          exact ⟨first, fun entry => (kept entry).trans (first entry).symm⟩
        · rintro ⟨first, then_⟩ entry
          exact (then_ entry).trans (first entry)

/-! ### Withdrawals -/

variable (player) in
/-- There is room for what is withdrawn. -/
def HasRoom (t : Transfer) (id : ℕ) : Prop :=
  ∀ slot itemVS, t.GetVoidStorageItem id = some (slot, itemVS) →
    (t.inv.CanStoreNewItem player (NULL_BAG, NULL_SLOT) [] itemVS.ItemEntry 1).1 = .ok

variable (player) in
def FirstRefused (t : Transfer) (itemIds : List ℕ) : Prop :=
  ∃ id, itemIds.find? (fun id => (t.GetVoidStorageItem id).isSome) = some id ∧
    ¬ HasRoom player t id

def withdrawn (player : Player) (t : Transfer) (id : ℕ) : Transfer := (t.withdraw player id).getD t

/-- A withdrawal of an item. -/
structure Withdraws (player : Player) (t t' : Transfer) : Prop where
  placed : t'.inv.Placed player
  depositCount : t'.depositCount = t.depositCount
  answers : t'.answers = t.answers
  money : t'.money = t.money
  free : freeSlots t'.voidItems = freeSlots t.voidItems + 1
  count : ∀ entry, t'.count entry = t.count entry

lemma withdraw_cases {t : Transfer} (placed : t.inv.Placed player) (id : ℕ) :
    (t.GetVoidStorageItem id = none ∧ t.withdraw player id = some t ∧ HasRoom player t id) ∨
    ((t.GetVoidStorageItem id).isSome = true ∧ HasRoom player t id ∧
      ∃ t', t.withdraw player id = some t' ∧ Withdraws player t t') ∨
    ((t.GetVoidStorageItem id).isSome = true ∧ ¬ HasRoom player t id ∧
      t.withdraw player id = none) := by
  rw [withdraw]
  cases found : t.GetVoidStorageItem id with
  | none =>
    refine .inl ⟨rfl, rfl, fun slot itemVS here => ?_⟩
    rw [found] at here
    cases here
  | some entry =>
    obtain ⟨slot, itemVS⟩ := entry
    have hasRoom : HasRoom player t id ↔
        (t.inv.CanStoreNewItem player (NULL_BAG, NULL_SLOT) [] itemVS.ItemEntry 1).1 = .ok := by
      rw [HasRoom, found]
      simp
    rw [hasRoom]
    dsimp only
    cases check : t.inv.CanStoreNewItem player (NULL_BAG, NULL_SLOT) [] itemVS.ItemEntry 1 with
    | mk res dest =>
      by_cases ok : res = .ok
      · subst ok
        refine .inr (.inl ⟨rfl, rfl, _, rfl, ?_⟩)
        have stores := Inventory.CanStoreNewItem_stores placed Nat.one_pos (by decide) check
        have stored := State.stored_of_GetVoidStorageItem found
        refine ⟨stores.placed, rfl, rfl, rfl, ?_, fun entry => ?_⟩
        · have changed := sum_setVoidItem freeCount t.voidItems slot none
          rw [stored, freeCount_none, freeCount_some, add_zero] at changed
          exact changed
        · have changed := sum_setVoidItem (entryCount entry) t.voidItems slot none
          rw [stored, entryCount_none, entryCount_some, add_zero] at changed
          have total := stores.total entry
          rw [State.count, State.count]
          change (t.inv.StoreNewItem player dest itemVS.ItemEntry).total entry +
            voidCount (Function.update t.voidItems slot none) entry = _
          rw [voidCount, voidCount]
          omega
      · refine .inr (.inr ⟨rfl, ok, ?_⟩)
        cases res <;> first | rfl | exact absurd rfl ok

/-- What all withdrawals of a request do. -/
structure AllWithdrawals (player : Player) (t t' : Transfer) (itemIds : List ℕ) : Prop where
  money : t'.money = t.money
  depositCount : t'.depositCount = t.depositCount
  count : ∀ entry, t'.count entry = t.count entry
  free_le : freeSlots t.voidItems ≤ freeSlots t'.voidItems
  done : Along (withdrawn player) (HasRoom player) t itemIds → t'.answers = t.answers ++ [.noError]
  refused : ¬ Along (withdrawn player) (HasRoom player) t itemIds →
    t'.answers = t.answers ++ [.inventoryFull]
  unchanged : FirstRefused player t itemIds → t'.toState = t.toState
  changed : ¬ Along (withdrawn player) (HasRoom player) t itemIds →
    ¬ FirstRefused player t itemIds → freeSlots t.voidItems < freeSlots t'.voidItems

lemma withdrawals_spec (itemIds : List ℕ) : ∀ {t : Transfer}, t.inv.Placed player →
    AllWithdrawals player t (t.withdrawAll player itemIds) itemIds := by
  induction itemIds with
  | nil =>
    intro t placed
    exact ⟨rfl, rfl, fun _ => rfl, le_rfl, fun _ => rfl, fun refused => absurd trivial refused,
      fun _ => rfl, fun refused => absurd trivial refused⟩
  | cons id itemIds ih =>
    intro t placed
    rcases withdraw_cases placed id with ⟨absent, skipped, room⟩ |
      ⟨present, room, t', stored, withdraws⟩ | ⟨present, noRoom, refused⟩
    · have first : FirstRefused player t (id :: itemIds) ↔ FirstRefused player t itemIds := by
        rw [FirstRefused, List.find?_cons_of_neg (by simp [absent]), FirstRefused]
      have along : Along (withdrawn player) (HasRoom player) t (id :: itemIds) ↔
          Along (withdrawn player) (HasRoom player) t itemIds := by
        rw [along_cons, and_iff_right room, withdrawn, skipped, Option.getD_some]
      rw [withdrawAll, skipped]
      have rest := ih placed
      exact ⟨rest.money, rest.depositCount, rest.count, rest.free_le,
        fun fits => rest.done (along.mp fits), fun refused => rest.refused (mt along.mpr refused),
        fun refused => rest.unchanged (first.mp refused),
        fun refused notFirst => rest.changed (mt along.mpr refused) (mt first.mpr notFirst)⟩
    · have along : Along (withdrawn player) (HasRoom player) t (id :: itemIds) ↔
          Along (withdrawn player) (HasRoom player) t' itemIds := by
        rw [along_cons, and_iff_right room, withdrawn, stored, Option.getD_some]
      have notFirst : ¬ FirstRefused player t (id :: itemIds) := by
        rw [FirstRefused, List.find?_cons_of_pos (by simpa using present)]
        rintro ⟨id', same, refused⟩
        obtain rfl := Option.some.inj same
        exact refused room
      rw [withdrawAll, stored]
      dsimp only
      have rest := ih withdraws.placed
      have free := withdraws.free
      have more := rest.free_le
      refine ⟨rest.money.trans withdraws.money, ?_, ?_, by omega, fun fits => ?_, fun refused => ?_,
        fun refused => absurd refused notFirst, fun _ _ => by omega⟩
      · exact rest.depositCount.trans withdraws.depositCount
      · exact fun entry => (rest.count entry).trans (withdraws.count entry)
      · rw [rest.done (along.mp fits), withdraws.answers]
      · rw [rest.refused (mt along.mpr refused), withdraws.answers]
    · rw [withdrawAll, refused]
      have first : FirstRefused player t (id :: itemIds) := by
        rw [FirstRefused, List.find?_cons_of_pos (by simpa using present)]
        exact ⟨id, rfl, noRoom⟩
      exact ⟨rfl, rfl, fun _ => rfl, le_rfl, fun fits => absurd fits.1 noRoom, fun _ => rfl,
        fun _ => rfl, fun _ notFirst => absurd first notFirst⟩

/-! ### The payment -/

section Pay

variable (t : Transfer)

/-- The payment changes the gold only. What is left of it has a name here, so that nobody computes
it. -/
lemma pay_eq {money : UInt64} (paid : (modifyMoney t.money
    (-Int64.ofNat (t.depositCount * VOID_STORAGE_STORE_ITEM))).1 = money) :
    t.pay = { t with money := money } := by
  unfold pay
  dsimp only
  rw [paid]

lemma exists_pay_eq : ∃ money, (modifyMoney t.money
    (-Int64.ofNat (t.depositCount * VOID_STORAGE_STORE_ITEM))).1 = money ∧
      t.pay = { t with money := money } :=
  ⟨_, rfl, t.pay_eq rfl⟩

lemma pay_fields : t.pay.inv = t.inv ∧ t.pay.voidItems = t.voidItems ∧
    t.pay.depositCount = t.depositCount ∧ t.pay.answers = t.answers := by
  obtain ⟨money, -, paid⟩ := t.exists_pay_eq
  rw [paid]
  exact ⟨rfl, rfl, rfl, rfl⟩

@[simp] lemma pay_inv : t.pay.inv = t.inv := t.pay_fields.1

@[simp] lemma pay_depositCount : t.pay.depositCount = t.depositCount := t.pay_fields.2.2.1

@[simp] lemma pay_answers : t.pay.answers = t.answers := t.pay_fields.2.2.2

@[simp] lemma pay_count (entry : ℕ) : t.pay.count entry = t.count entry := by
  rw [State.count, State.count, pay_inv, t.pay_fields.2.1]

end Pay

lemma pay_of_none {t : Transfer} (none : t.depositCount = 0) : t.pay = t := by
  have free : (modifyMoney t.money
      (-Int64.ofNat (t.depositCount * VOID_STORAGE_STORE_ITEM))).1 = t.money := by
    rw [none, Nat.zero_mul]
    rfl
  exact t.pay_eq free

lemma pay_money {t : Transfer} (few : t.depositCount ≤ VOID_STORAGE_MAX_DEPOSIT)
    (enough : t.depositCount * VOID_STORAGE_STORE_ITEM ≤ t.money.toNat) :
    t.pay.money.toNat + t.depositCount * VOID_STORAGE_STORE_ITEM = t.money.toNat := by
  rw [VOID_STORAGE_MAX_DEPOSIT] at few
  rw [VOID_STORAGE_STORE_ITEM] at enough ⊢
  have cost : (-Int64.ofNat (t.depositCount * 250000)).toInt =
      -((t.depositCount * 250000 : ℕ) : ℤ) := by
    rw [Int64.toInt_neg, Int64.toInt_ofNat_of_lt (by omega)]
    exact Int.bmod_eq_of_le (by omega) (by omega)
  have exact := (modifyMoney_debit_exact t.money _ _ cost enough).1
  obtain ⟨money, left, paid⟩ := t.exists_pay_eq
  rw [VOID_STORAGE_STORE_ITEM] at left
  rw [left] at exact
  rw [paid]
  dsimp only
  omega

end Transfer

/-! ### The request -/

section Request

variable (player : Player) (s : State) (packet : Packet)

/-- All items are kept, the payment is for what has been deposited, and an error means that nothing
has been done. -/
structure Correct : Prop where
  kept : ∀ entry, (HandleVoidStorageTransfer player s packet).count entry = s.count entry
  paid : (HandleVoidStorageTransfer player s packet).money.toNat +
    (HandleVoidStorageTransfer player s packet).depositCount * VOID_STORAGE_STORE_ITEM =
      s.money.toNat
  undone : ∀ error ∈ (HandleVoidStorageTransfer player s packet).answers, error ≠ .noError →
    (HandleVoidStorageTransfer player s packet).inv.items = s.inv.items ∧
      (HandleVoidStorageTransfer player s packet).voidItems = s.voidItems ∧
      (HandleVoidStorageTransfer player s packet).money = s.money

def start : Transfer := { toState := s }

def paid : Transfer := (packet.itemGuids.foldl (Transfer.deposit player) (start s)).pay

variable {player s packet}

lemma refusal_eq_none (begins : refusal player s packet = none) :
    packet.itemGuids.length ≤ VOID_STORAGE_MAX_DEPOSIT ∧
      packet.itemGuids.length ≤ freeSlots s.voidItems ∧
      packet.itemGuids.length * VOID_STORAGE_STORE_ITEM ≤ s.money.toNat := by
  rw [refusal] at begins
  split_ifs at begins with few _ _ _ room _ enough
  have few := not_lt.mp few
  refine ⟨few, ?_, ?_⟩
  · rw [← State.freeSlots_eq]
    exact not_lt.mp room
  · rw [Bool.not_eq_true', Bool.not_eq_false, hasEnoughMoney_iff] at enough
    rw [VOID_STORAGE_MAX_DEPOSIT] at few
    rw [VOID_STORAGE_STORE_ITEM] at enough ⊢
    rwa [UInt64.toNat_ofNat_of_lt' (by simp only [UInt64.size]; omega)] at enough

variable (player s packet)

def Singles : Prop :=
  Along (Transfer.deposit player) (Transfer.Single player) (start s) packet.itemGuids

def Roomy : Prop :=
  Along (Transfer.withdrawn player) (Transfer.HasRoom player) (paid player s packet) packet.itemIds

/-- Nothing is deposited, and the first item to be withdrawn is refused. -/
def RefusedAtOnce : Prop :=
  (∀ guid ∈ packet.itemGuids, s.inv.GetItemByGuid player guid = none) ∧
    Transfer.FirstRefused player (start s) packet.itemIds

variable {player s packet}

/-- A request that is begun, step by step. -/
structure Begun (player : Player) (s : State) (packet : Packet) : Prop where
  result : HandleVoidStorageTransfer player s packet =
    (paid player s packet).withdrawAll player packet.itemIds
  deposits : Transfer.AllDeposits player (start s)
    (packet.itemGuids.foldl (Transfer.deposit player) (start s)) packet.itemGuids
  payment : (paid player s packet).money.toNat +
    (paid player s packet).depositCount * VOID_STORAGE_STORE_ITEM = s.money.toNat
  withdrawals : Transfer.AllWithdrawals player (paid player s packet)
    ((paid player s packet).withdrawAll player packet.itemIds) packet.itemIds

lemma begun (placed : s.inv.Placed player) (begins : refusal player s packet = none) :
    Begun player s packet := by
  obtain ⟨few, room, enough⟩ := refusal_eq_none begins
  have deposits := Transfer.deposits_spec packet.itemGuids (t := start s) placed room
  have placed' : (paid player s packet).inv.Placed player := by
    rw [paid, Transfer.pay_inv]
    exact deposits.placed
  refine ⟨?_, deposits, ?_, Transfer.withdrawals_spec packet.itemIds placed'⟩
  · rw [HandleVoidStorageTransfer, begins]
    rfl
  · have bound : (packet.itemGuids.foldl (Transfer.deposit player) (start s)).depositCount ≤
        packet.itemGuids.length := by
      simpa [start] using deposits.depositCount.2
    have money : (packet.itemGuids.foldl (Transfer.deposit player) (start s)).money = s.money :=
      deposits.money
    have payment := Transfer.pay_money (bound.trans few)
      ((Nat.mul_le_mul_right VOID_STORAGE_STORE_ITEM bound).trans (money ▸ enough))
    rw [money] at payment
    rw [paid, Transfer.pay_depositCount]
    exact payment

section

variable (begun : Begun player s packet)
include begun

lemma Begun.kept_iff :
    (∀ entry, (HandleVoidStorageTransfer player s packet).count entry = s.count entry) ↔
      Singles player s packet := by
  rw [Singles, ← begun.deposits.count_eq_iff, begun.result]
  refine forall_congr' fun entry => ?_
  rw [begun.withdrawals.count entry, paid, Transfer.pay_count]
  rfl

lemma Begun.none_iff :
    (paid player s packet).depositCount = 0 ↔
      ∀ guid ∈ packet.itemGuids, s.inv.GetItemByGuid player guid = none := by
  rw [paid, Transfer.pay_depositCount]
  exact begun.deposits.none_iff

lemma Begun.paid_of_none (none : (paid player s packet).depositCount = 0) :
    paid player s packet = start s := by
  rw [paid, Transfer.pay_depositCount] at none
  have same := begun.deposits.same_of_none none
  rw [paid, same]
  exact Transfer.pay_of_none rfl

lemma Begun.undone_iff :
    (∀ error ∈ (HandleVoidStorageTransfer player s packet).answers, error ≠ .noError →
      (HandleVoidStorageTransfer player s packet).inv.items = s.inv.items ∧
        (HandleVoidStorageTransfer player s packet).voidItems = s.voidItems ∧
        (HandleVoidStorageTransfer player s packet).money = s.money) ↔
      Roomy player s packet ∨ RefusedAtOnce player s packet := by
  have withdrawals := begun.withdrawals
  have answers : (paid player s packet).answers = [] := by
    rw [paid, Transfer.pay_answers]
    exact begun.deposits.answers
  rw [begun.result]
  by_cases roomy : Roomy player s packet
  · refine iff_of_true (fun error member notDone => ?_) (.inl roomy)
    rw [withdrawals.done roomy, answers, List.nil_append, List.mem_singleton] at member
    exact absurd member notDone
  rw [or_iff_right roomy]
  constructor
  · intro undone
    obtain ⟨-, voidItems, money⟩ := undone .inventoryFull
      (by rw [withdrawals.refused roomy, answers]; exact List.mem_singleton_self _) (by simp)
    have payment := begun.payment
    rw [← withdrawals.money, money, VOID_STORAGE_STORE_ITEM] at payment
    have none : (paid player s packet).depositCount = 0 := by omega
    refine ⟨begun.none_iff.mp none, ?_⟩
    rw [← begun.paid_of_none none]
    by_contra notFirst
    have more := withdrawals.changed roomy notFirst
    rw [voidItems, begun.paid_of_none none] at more
    exact lt_irrefl _ more
  · rintro ⟨none, first⟩ _ _ _
    have same := begun.paid_of_none (begun.none_iff.mpr none)
    rw [withdrawals.unchanged (same.symm ▸ first), same]
    exact ⟨rfl, rfl, rfl⟩

end

variable (player s packet)

/-- A transfer is correct if it is not begun, or if all that is deposited are single items, and then
either everything that is withdrawn has room or nothing happens before the first refusal. -/
theorem transfer_correct_iff (placed : s.inv.Placed player) :
    Correct player s packet ↔ (refusal player s packet = none →
      Singles player s packet ∧ (Roomy player s packet ∨ RefusedAtOnce player s packet)) := by
  cases begins : refusal player s packet with
  | some answers =>
    have result : HandleVoidStorageTransfer player s packet =
        { toState := s, answers := answers } := by
      rw [HandleVoidStorageTransfer, begins]
    refine iff_of_true ?_ nofun
    constructor
    · intro entry
      rw [result]
    · rw [result, Nat.zero_mul, Nat.add_zero]
    · intro _ _ _
      rw [result]
      exact ⟨rfl, rfl, rfl⟩
  | none =>
    have begun := begun placed begins
    rw [← begun.kept_iff, ← begun.undone_iff, forall_prop_of_true rfl]
    constructor
    · exact fun correct => ⟨correct.kept, correct.undone⟩
    · rintro ⟨kept, undone⟩
      refine ⟨kept, ?_, undone⟩
      rw [begun.result, begun.withdrawals.money, begun.withdrawals.depositCount]
      exact begun.payment

end Request

/-! ### A stack and a keeper of the vault -/

def clothTemplate : ItemTemplate where
  Class := 7
  SubClass := 5
  InventoryType := .nonEquip
  MaxCount := 0
  Stackable := 20
  ContainerSlots := 0
  BagFamily := 0
  ItemLimitCategory := 0
  GemProperties := false

def tailor : Player where
  GetItemTemplate _ := clothTemplate
  bagSizes _ := by decide
  limitCategory _ := none
  GetGemCountWithID _ _ := 0
  IsBindedNotWith _ := false
  CanDualWield := false
  CanTitanGrip := false
  wearsRelics := false
  GetBankBagSlotCount := 0
  IsAlive := true
  CanUseItem _ := .ok
  CanEquipUniqueItem _ _ _ := .ok
  canEquipNow _ := .ok
  canUnequipNow _ := .ok

/-- So many of an item in the first slot of the backpack, and nothing else. -/
def stackOf (count : ℕ) : State where
  inv := {
    items := (∅ : Table Place Item).insert (.slot 23) ⟨1, 2589, count, 23, none, false, false⟩
    mailed := []
    loose := []
    nextGuid := 2 }
  money := 1000000
  nextItemId := 7

/-- Of a stack that is deposited one is kept. -/
theorem stack_is_lost : ¬ Correct tailor (stackOf 5) { itemGuids := [1], itemIds := [] } := by
  intro correct
  have kept := correct.kept 2589
  revert kept
  decide +kernel

lemma stackOf_placed (count : ℕ) (some : 0 < count) : (stackOf count).inv.Placed tailor := by
  have only {place : Place} {item : Item}
      (here : (stackOf count).inv.items.lookup place = .some item) :
      place = .slot 23 ∧ item = ⟨1, 2589, count, 23, none, false, false⟩ := by
    rcases (Table.lookup_insert_iff ..).mp here with same | ⟨-, absent⟩
    · exact same
    · cases absent
  constructor
  · intro place item here
    obtain ⟨rfl, rfl⟩ := only here
    rfl
  · intro place place' item item' here here' _
    rw [(only here).1, (only here').1]
  · intro bag i item here
    cases (only here).1
  · intro place item here
    obtain ⟨rfl, rfl⟩ := only here
    exact Nat.lt_succ_self 1
  · intro place item here
    obtain ⟨rfl, rfl⟩ := only here
    exact some

/-- A single item in the backpack, and another one in the storage. -/
def exchanged : State := { stackOf 1 with
  voidItems := Function.update (fun _ => none) ⟨3, by decide⟩ (some ⟨5, 4306⟩) }

def exchange : Packet where
  itemGuids := [1]
  itemIds := [5]

/-- The one is deposited and paid for and the other is withdrawn, and the transfer is correct. -/
theorem transfer_correct_iff_exchange :
    Correct tailor exchanged exchange ∧
      (HandleVoidStorageTransfer tailor exchanged exchange).inv.total 4306 = 1 := by
  refine ⟨(transfer_correct_iff tailor exchanged exchange (stackOf_placed 1 (by decide))).mpr
    fun _ => ⟨⟨fun item found => ?_, trivial⟩, .inl ⟨fun slot itemVS found => ?_, trivial⟩⟩,
    by decide +kernel⟩
  · have here : exchanged.inv.GetItemByGuid tailor 1 =
        some ⟨1, 2589, 1, 23, none, false, false⟩ := by
      decide +kernel
    obtain rfl := Option.some.inj (found.symm.trans here)
    exact ⟨rfl, rfl⟩
  · have here : (paid tailor exchanged exchange).GetVoidStorageItem 5 =
        some (⟨3, by decide⟩, ⟨5, 4306⟩) := by
      decide +kernel
    obtain ⟨rfl, rfl⟩ := Prod.mk.inj (Option.some.inj (found.symm.trans here))
    decide +kernel

end WorldServer.VoidStorage
