import Mathlib.Algebra.Order.BigOperators.Group.Finset
import WorldServer.Items.Placement

/-!
# What the searches of a check offer

A search of a check either fails, whatever is reserved already, or comes to some positions in an
order and takes what they have room for, as long as something is left. So a whole check is one list
of positions, and an answer for the case that their room does not suffice.
-/
namespace WorldServer.Items

open WorldServer.Lib

namespace Reserve

variable {room : Pos → ℕ} {r : Reserve} {count : ℕ} {positions : List Pos} {pos : Pos}

variable (room) in
/-- Takes what the positions have room for, one after the other. -/
def takeAll : List Pos → Reserve → Reserve
  | [], r => r
  | pos :: rest, r =>
    let r' := r.take pos (room pos)
    if r.dest.length < r'.dest.length ∧ r'.count = 0 then r' else takeAll rest r'

/-- Reservations out of a count. While something is left, all the room is taken. -/
structure Took (room : Pos → ℕ) (count : ℕ) (r : Reserve) : Prop where
  once : (r.dest.map Prod.fst).Nodup
  sum : (r.dest.map Prod.snd).sum + r.count = count
  within : ∀ x ∈ r.dest, 0 < x.2 ∧ x.2 ≤ room x.1
  full : r.count ≠ 0 → ∀ x ∈ r.dest, x.2 = room x.1

lemma took_nil (count : ℕ) : Took room count ⟨[], count⟩ :=
  ⟨List.nodup_nil, by simp, by simp, by simp⟩

lemma Took.take (took : Took room count r) (left : 0 < r.count) (some_ : 0 < room pos) :
    Took room count (r.take pos (room pos)) ∧
      (∀ p, p ∈ (r.take pos (room pos)).dest.map Prod.fst ↔ p ∈ r.dest.map Prod.fst ∨ p = pos) ∧
      (r.take pos (room pos) = r ∨
        r.dest.length < (r.take pos (room pos)).dest.length) := by
  unfold Reserve.take
  split
  next again =>
    refine ⟨took, fun p => ⟨.inl, ?_⟩, .inl rfl⟩
    rintro (before | rfl)
    · exact before
    · exact again
  next new =>
    refine ⟨⟨?_, ?_, ?_, ?_⟩, by simp, .inr (by simp)⟩
    · rw [List.map_append, List.nodup_append]
      refine ⟨took.once, List.nodup_singleton pos, fun a here b at_ hs => ?_⟩
      rw [List.map_cons, List.map_nil, List.mem_singleton] at at_
      subst at_ hs
      exact new here
    · have sum := took.sum
      simp only [List.map_append, List.map_cons, List.map_nil, List.sum_append, List.sum_cons,
        List.sum_nil]
      omega
    · intro x hm
      rcases List.mem_append.mp hm with before | last
      · exact took.within x before
      · rw [List.mem_singleton.mp last]
        dsimp only
        omega
    · intro more x hm
      rcases List.mem_append.mp hm with before | last
      · exact took.full left.ne' x before
      · rw [List.mem_singleton.mp last]
        dsimp only at more ⊢
        omega

lemma Took.takeAll (took : Took room count r) (left : 0 < r.count)
    (some_ : ∀ p ∈ positions, 0 < room p) :
    Took room count (r.takeAll room positions) ∧
      (∀ p ∈ (r.takeAll room positions).dest.map Prod.fst,
        p ∈ r.dest.map Prod.fst ∨ p ∈ positions) ∧
      ((r.takeAll room positions).count ≠ 0 → ∀ p ∈ r.dest.map Prod.fst ++ positions,
        p ∈ (r.takeAll room positions).dest.map Prod.fst) := by
  induction positions generalizing r with
  | nil => exact ⟨took, fun p hm => .inl hm, by simp [Reserve.takeAll]⟩
  | cons pos rest ih =>
    obtain ⟨took', reserved, change⟩ := took.take left (some_ pos List.mem_cons_self)
    unfold Reserve.takeAll
    dsimp only
    split_ifs with done
    · refine ⟨took', fun p hm => ?_, fun more => absurd done.2 more⟩
      exact ((reserved p).mp hm).imp_right fun hs => List.mem_cons.mpr (.inl hs)
    · have left' : 0 < (r.take pos (room pos)).count := by
        rcases change with hs | longer
        · rwa [hs]
        · exact Nat.pos_of_ne_zero fun none_ => done ⟨longer, none_⟩
      obtain ⟨tookAll, inside, all⟩ :=
        ih took' left' fun p hm => some_ p (List.mem_cons_of_mem _ hm)
      refine ⟨tookAll, fun p hm => ?_, fun more p hm => all more p ?_⟩
      · rcases inside p hm with before | later
        · exact ((reserved p).mp before).imp_right fun hs => List.mem_cons.mpr (.inl hs)
        · exact .inr (List.mem_cons_of_mem _ later)
      · rw [List.mem_append, reserved]
        rw [List.mem_append, List.mem_cons] at hm
        tauto

lemma takeAll_count (left : 0 < count) (some_ : ∀ p ∈ positions, 0 < room p) :
    (takeAll room positions ⟨[], count⟩).count = count - ∑ p ∈ positions.toFinset, room p := by
  obtain ⟨took, inside, all⟩ := (took_nil count).takeAll left some_
  generalize takeAll room positions ⟨[], count⟩ = r at *
  have sum := took.sum
  have rooms : ∑ p ∈ (r.dest.map Prod.fst).toFinset, room p =
      (r.dest.map fun x => room x.1).sum := by
    rw [List.sum_toFinset _ took.once, List.map_map]
    rfl
  by_cases none_ : r.count = 0
  · have less : (r.dest.map Prod.snd).sum ≤ ∑ p ∈ positions.toFinset, room p := by
      refine (List.sum_le_sum fun x hm => (took.within x hm).2).trans ?_
      rw [← rooms]
      refine Finset.sum_le_sum_of_subset fun p hm => ?_
      rw [List.mem_toFinset] at hm ⊢
      exact (inside p hm).resolve_left (by simp)
    omega
  · have hs : (r.dest.map Prod.fst).toFinset = positions.toFinset := by
      ext p
      simp only [List.mem_toFinset]
      exact ⟨fun hm => (inside p hm).resolve_left (by simp),
        fun hm => all none_ p (List.mem_append_right _ hm)⟩
    have equal : (r.dest.map Prod.snd).sum = ∑ p ∈ positions.toFinset, room p := by
      rw [← hs, rooms]
      exact congrArg List.sum (List.map_congr_left fun x hm => took.full none_ x hm)
    omega

lemma takeAll_append {before after : List Pos} (left : 0 < r.count)
    (some_ : ∀ p ∈ before, 0 < room p) (took : Took room count r) :
    r.takeAll room (before ++ after) =
      if (r.takeAll room before).count = 0 then r.takeAll room before
      else (r.takeAll room before).takeAll room after := by
  induction before generalizing r with
  | nil =>
    rw [List.nil_append, takeAll, if_neg left.ne']
  | cons pos rest ih =>
    obtain ⟨took', -, change⟩ := took.take left (some_ pos List.mem_cons_self)
    simp only [List.cons_append, takeAll]
    by_cases done : r.dest.length < (r.take pos (room pos)).dest.length ∧
        (r.take pos (room pos)).count = 0
    · simp [done]
    · simp only [done, if_false]
      refine ih ?_ (fun p hm => some_ p (List.mem_cons_of_mem _ hm)) took'
      rcases change with hs | longer
      · rwa [hs]
      · exact Nat.pos_of_ne_zero fun none_ => done ⟨longer, none_⟩

end Reserve

/-! ### Searches -/

section Steps

variable {room : Pos → ℕ} {full : InventoryResult} {steps : List (SearchStep × List Pos)}
  {r : Reserve} {count : ℕ}

/-- What is reserved already does not matter for an error, nor for the positions. -/
def Offers (room : Pos → ℕ) (positions : List Pos)
    (search : Reserve → Except InventoryResult Reserve) : Prop :=
  ∀ r, search r = (search ⟨[], 0⟩).map fun _ => r.takeAll room positions

def SearchStep.Offers (room : Pos → ℕ) (positions : List Pos) : SearchStep → Prop
  | .must search | .may search => Items.Offers room positions search
  | .refuse _ _ => True

/-- The positions of the searches up to the end of the check, and its answer then. -/
def plan (full : InventoryResult) : List (SearchStep × List Pos) → List Pos × InventoryResult
  | [] => ([], full)
  | (.must search, positions) :: steps =>
    match search ⟨[], 0⟩ with
    | .error res => ([], res)
    | .ok _ => (positions ++ (plan full steps).1, (plan full steps).2)
  | (.may search, positions) :: steps =>
    match search ⟨[], 0⟩ with
    | .error _ => plan full steps
    | .ok _ => (positions ++ (plan full steps).1, (plan full steps).2)
  | (.refuse refused res, _) :: steps => if refused then ([], res) else plan full steps

/-- What a check computes step by step: `done` when everything is reserved, and `left` when the
check ends with something left. -/
structure Checks {α : Type} (full : InventoryResult) (done : Reserve → α)
    (left : InventoryResult → Reserve → α) (f : List SearchStep → Reserve → α) : Prop where
  nil : ∀ r, f [] r = left full r
  must : ∀ search steps r, f (.must search :: steps) r =
    match search r with
    | .error res => left res r
    | .ok r' => if r'.count = 0 then done r' else f steps r'
  may : ∀ search steps r, f (.may search :: steps) r =
    match search r with
    | .error _ => f steps r
    | .ok r' => if r'.count = 0 then done r' else f steps r'
  refuse : ∀ refused res steps r, f (.refuse refused res :: steps) r =
    if refused then left res r else f steps r

lemma searchSteps_checks (no_similar_count : ℕ) :
    Checks full (fun r => (if no_similar_count = 0 then .ok else .itemMaxCount, r.dest))
      (fun res r => (res, r.dest)) (searchSteps full no_similar_count) :=
  ⟨fun _ => rfl, fun _ _ _ => rfl, fun _ _ _ => rfl, fun _ _ _ _ => rfl⟩

variable {α : Type} {done : Reserve → α} {left : InventoryResult → Reserve → α}
  {f : List SearchStep → Reserve → α}

lemma Checks.eq (checks : Checks full done left f) (offers : ∀ e ∈ steps, e.1.Offers room e.2)
    (some_ : ∀ p ∈ (plan full steps).1, 0 < room p) (more : 0 < r.count)
    (took : Reserve.Took room count r) :
    f (steps.map Prod.fst) r =
      if (r.takeAll room (plan full steps).1).count = 0 then
        done (r.takeAll room (plan full steps).1)
      else left (plan full steps).2 (r.takeAll room (plan full steps).1) := by
  induction steps generalizing r with
  | nil => simp [checks.nil, plan, Reserve.takeAll, more.ne']
  | cons e steps ih =>
    obtain ⟨step, positions⟩ := e
    have offersStep := offers _ List.mem_cons_self
    have ih {r : Reserve} := @ih r fun e hm => offers e (List.mem_cons_of_mem _ hm)
    -- a search that takes what it can, and then the rest if something is left
    have accepted (some_ : ∀ p ∈ positions ++ (plan full steps).1, 0 < room p) :
        (if (r.takeAll room positions).count = 0 then done (r.takeAll room positions)
          else f (steps.map Prod.fst) (r.takeAll room positions)) =
        if (r.takeAll room (positions ++ (plan full steps).1)).count = 0 then
          done (r.takeAll room (positions ++ (plan full steps).1))
        else left (plan full steps).2 (r.takeAll room (positions ++ (plan full steps).1)) := by
      have now : ∀ p ∈ positions, 0 < room p :=
        fun p hm => some_ p (List.mem_append_left _ hm)
      rw [Reserve.takeAll_append more now took]
      by_cases none_ : (r.takeAll room positions).count = 0
      · simp [none_]
      · simp only [none_, if_false]
        exact ih (fun p hm => some_ p (List.mem_append_right _ hm))
          (Nat.pos_of_ne_zero none_) (took.takeAll more now).1
    cases step with
    | must search =>
      rw [plan] at some_ ⊢
      rw [List.map_cons, checks.must, offersStep r]
      cases hf : search ⟨[], 0⟩ with
      | error res => simp [Except.map, Reserve.takeAll, more.ne']
      | ok _ =>
        rw [hf] at some_
        exact accepted some_
    | may search =>
      rw [plan] at some_ ⊢
      rw [List.map_cons, checks.may, offersStep r]
      cases hf : search ⟨[], 0⟩ with
      | error res =>
        rw [hf] at some_
        exact ih some_ more took
      | ok _ =>
        rw [hf] at some_
        exact accepted some_
    | refuse refused res =>
      rw [plan] at some_ ⊢
      rw [List.map_cons, checks.refuse]
      by_cases refusing : refused = true
      · simp [refusing, Reserve.takeAll, more.ne']
      · simp only [refusing] at some_ ⊢
        exact ih some_ more took

def SearchStep.Accepts : SearchStep → Prop
  | .must search | .may search => ∃ r, search ⟨[], 0⟩ = .ok r
  | .refuse _ _ => False

def SearchStep.Ends (res : InventoryResult) : SearchStep → Prop
  | .must search => search ⟨[], 0⟩ = .error res
  | .may _ => False
  | .refuse refused res' => refused = true ∧ res' = res

lemma mem_plan {p : Pos} (hm : p ∈ (plan full steps).1) :
    ∃ e ∈ steps, e.1.Accepts ∧ p ∈ e.2 := by
  induction steps with
  | nil => simp [plan] at hm
  | cons e steps ih =>
    obtain ⟨step, positions⟩ := e
    have later (hm : p ∈ (plan full steps).1) :
        ∃ e ∈ (step, positions) :: steps, e.1.Accepts ∧ p ∈ e.2 := by
      obtain ⟨e, inSteps, accepts⟩ := ih hm
      exact ⟨e, List.mem_cons_of_mem _ inSteps, accepts⟩
    cases step with
    | must search =>
      rw [plan] at hm
      split at hm
      · simp at hm
      next r accepted =>
        rcases List.mem_append.mp hm with now | hm
        · exact ⟨_, List.mem_cons_self, ⟨r, accepted⟩, now⟩
        · exact later hm
    | may search =>
      rw [plan] at hm
      split at hm
      · exact later hm
      next r accepted =>
        rcases List.mem_append.mp hm with now | hm
        · exact ⟨_, List.mem_cons_self, ⟨r, accepted⟩, now⟩
        · exact later hm
    | refuse refused res =>
      rw [plan] at hm
      split_ifs at hm
      · simp at hm
      · exact later hm

lemma plan_ends : (plan full steps).2 = full ∨ ∃ e ∈ steps, e.1.Ends (plan full steps).2 := by
  induction steps with
  | nil => exact .inl rfl
  | cons e steps ih =>
    obtain ⟨step, positions⟩ := e
    have later : (plan full steps).2 = full ∨
        ∃ e ∈ (step, positions) :: steps, e.1.Ends (plan full steps).2 :=
      ih.imp_right fun ⟨e, inSteps, ends⟩ => ⟨e, List.mem_cons_of_mem _ inSteps, ends⟩
    cases step with
    | must search =>
      rw [plan]
      split
      next failed => exact .inr ⟨_, List.mem_cons_self, failed⟩
      · exact later
    | may search =>
      rw [plan]
      split <;> exact later
    | refuse refused res =>
      rw [plan]
      split_ifs with refusing
      · exact .inr ⟨_, List.mem_cons_self, refusing, rfl⟩
      · exact later

end Steps

/-! ### The searches of a check -/

/-- What a check is asked. -/
structure StoreRequest where
  player : Player
  inv : Inventory
  entry : ℕ
  pItem : Option Item
  pos : Pos
  swap : Bool

namespace StoreRequest

open Inventory

section Searches

variable (q : StoreRequest) (merge : Bool) (bag : ℕ) (p : Pos)

def proto : ItemTemplate := q.player.GetItemTemplate q.entry

def otherAt : Option Item := q.inv.otherAt q.player q.pItem p

/-- How many a position takes: a stack of the item until it is full, and nothing of another item.
With a swap the position that is asked for is free. -/
def roomAt : ℕ :=
  match if q.swap ∧ p = q.pos then none else q.otherAt p with
  | none => q.proto.GetMaxStackSize
  | some item =>
    if item.CanBeMergedPartlyWith q.proto q.entry = .ok then q.proto.GetMaxStackSize - item.count
    else 0

/-- A search for stacks comes to stacks with room, a search for free slots to free ones. -/
def searched : Bool :=
  match q.otherAt p with
  | none => !merge
  | some item => merge ∧ item.CanBeMergedPartlyWith q.proto q.entry = .ok

def slotsOf : List Pos :=
  match q.inv.GetBagByPos q.player bag with
  | none => []
  | some pBag => (List.range (GetBagSize q.player pBag)).map fun slot => (bag, slot)

def slots : List ℕ := slotsFrom INVENTORY_SLOT_ITEM_START INVENTORY_SLOT_ITEM_END

def backpack : List Pos := slots.map fun slot => (INVENTORY_SLOT_BAG_0, slot)

def inBag : List Pos := (q.slotsOf bag).filter fun p => p.2 ≠ q.pos.2 ∧ q.searched merge p

def inBackpack : List Pos := backpack.filter fun p => p ≠ q.pos ∧ q.searched merge p

def searchSpecific : Reserve → Except InventoryResult Reserve :=
  q.inv.CanStoreItem_InSpecificSlot q.player q.proto q.entry q.pItem q.pos q.swap

def searchThisBag : Reserve → Except InventoryResult Reserve :=
  q.inv.CanStoreItem_InThisBag q.player q.proto q.entry q.pItem q.pos.1 merge q.pos.2

def searchBackpack : Reserve → Except InventoryResult Reserve :=
  q.inv.CanStoreItem_InInventorySlots q.player q.proto q.entry q.pItem slots merge q.pos.1 q.pos.2

def searchBag (non_specialized : Bool) (skip_bag : ℕ) : Reserve → Except InventoryResult Reserve :=
  q.inv.CanStoreItem_InBag q.player q.proto q.entry q.pItem bag merge non_specialized skip_bag
    q.pos.2

def refusesBag : Bool := q.inv.movesNotEmptyBag q.player q.pItem

def searchHere : SearchStep × List Pos :=
  if q.pos.1 = INVENTORY_SLOT_BAG_0 then (.must (q.searchBackpack merge), q.inBackpack merge)
  else (.must (q.searchThisBag merge), q.inBag merge q.pos.1)

def searchBags (non_specialized : Bool) : List (SearchStep × List Pos) :=
  equippedBags.map fun bag =>
    (.may (q.searchBag merge bag non_specialized q.pos.1), q.inBag merge bag)

def searches : List (SearchStep × List Pos) :=
  (if q.pos.1 ≠ NULL_BAG ∧ q.pos.2 ≠ NULL_SLOT then
    [(.must q.searchSpecific, [q.pos])] else []) ++
  (if q.pos.1 ≠ NULL_BAG then
    (if q.proto.Stackable ≠ 1 then [q.searchHere true] else []) ++ [q.searchHere false] else []) ++
  ((if q.proto.Stackable ≠ 1 then
    (.must (q.searchBackpack true), q.inBackpack true) ::
      (if q.proto.BagFamily ≠ 0 then q.searchBags true false else []) ++ q.searchBags true true
    else []) ++
  (if q.proto.BagFamily ≠ 0 then q.searchBags false false else [])) ++
  (.refuse q.refusesBag .bagInBag, []) ::
    (.must (q.searchBackpack false), q.inBackpack false) :: q.searchBags false true

def similar (count : ℕ) : InventoryResult × ℕ :=
  q.inv.CanTakeMoreSimilarItems q.player q.entry count q.pItem

end Searches

variable {q : StoreRequest} {merge : Bool} {bag count : ℕ} {p : Pos} {r r' : Reserve}
  {res : InventoryResult}

lemma canStore_eq (dest : List (Pos × ℕ)) :
    q.inv.canStore q.player q.pos dest q.entry count q.pItem q.swap =
      if q.pItem.any Item.m_lootGenerated then (.lootGone, dest)
      else if q.pItem.any q.player.IsBindedNotWith then (.notOwner, dest)
      else if (q.similar count).1 ≠ .ok ∧ count = (q.similar count).2 then
        ((q.similar count).1, dest)
      else searchSteps .invFull (q.similar count).2 (q.searches.map Prod.fst)
        ⟨dest, (count + 2 ^ 32 - (q.similar count).2) % 2 ^ 32⟩ := by
  have steps : q.searches.map Prod.fst =
      (if q.pos.1 ≠ NULL_BAG ∧ q.pos.2 ≠ NULL_SLOT then [.must q.searchSpecific] else []) ++
      (if q.pos.1 ≠ NULL_BAG then
        q.inv.stepsInBag q.player q.proto q.entry q.pItem q.pos slots else []) ++
      q.inv.stepsInBags q.player q.proto q.entry q.pItem q.pos slots equippedBags ++
      .refuse q.refusesBag .bagInBag ::
        q.inv.stepsFree q.player q.proto q.entry q.pItem q.pos slots equippedBags := by
    unfold searches stepsInBag stepsInBags stepsFree searchHere searchBags searchBackpack
      searchThisBag searchBag
    split_ifs <;> simp [Function.comp_def]
  rw [steps]
  rfl

/-! ### What they offer -/

lemma searchAll_eq (skip : Pos → Bool) (positions : List Pos)
    (skips : ∀ p ∈ positions, p = q.pos → skip p = true) (r : Reserve) :
    q.inv.searchAll q.player q.proto q.entry q.pItem merge skip positions r =
      r.takeAll q.roomAt (positions.filter fun p => !skip p && q.searched merge p) := by
  induction positions generalizing r with
  | nil => rfl
  | cons p rest ih =>
    have ih := ih fun p hm => skips p (List.mem_cons_of_mem _ hm)
    rw [searchAll]
    by_cases skipped : skip p = true
    · rw [if_pos skipped, List.filter_cons_of_neg (by simp [skipped]), ih]
    · have other : p ≠ q.pos := fun hs => skipped (skips p List.mem_cons_self hs)
      have here : q.roomAt p = match q.otherAt p with
          | none => q.proto.GetMaxStackSize
          | some item =>
            if item.CanBeMergedPartlyWith q.proto q.entry = .ok then
              q.proto.GetMaxStackSize - item.count
            else 0 := by
        rw [roomAt, if_neg (by simp [other])]
      rw [if_neg skipped]
      unfold searchPos
      cases hf : q.otherAt p with
      | none =>
        rw [hf] at here
        rw [otherAt] at hf
        cases merge with
        | true => simp [searched, otherAt, hf, ih]
        | false =>
          rw [List.filter_cons_of_pos (by simp [searched, otherAt, hf, skipped]),
            Reserve.takeAll, here]
          simp [hf, ih]
      | some item =>
        rw [hf] at here
        rw [otherAt] at hf
        rw [hf]
        dsimp only at here ⊢
        by_cases merges : merge = true ∧ item.CanBeMergedPartlyWith q.proto q.entry = .ok
        · rw [if_pos merges.2] at here
          rw [List.filter_cons_of_pos (by simp [searched, otherAt, hf, skipped, merges]),
            Reserve.takeAll, here, if_pos merges]
          simp [ih]
        · rw [List.filter_cons_of_neg
            (by simpa [searched, otherAt, hf] using fun _ => not_and.mp merges)]
          simp only [merges, if_false, lt_self_iff_false, false_and, ih]

lemma searchBag_offers (non_specialized : Bool) (skip_bag : ℕ) :
    Offers q.roomAt (q.inBag merge bag) (q.searchBag merge bag non_specialized skip_bag) := by
  intro r
  unfold searchBag CanStoreItem_InBag inBag slotsOf
  cases q.inv.GetBagByPos q.player bag with
  | none => split_ifs <;> rfl
  | some pBag =>
    have all : q.inv.searchAll q.player q.proto q.entry q.pItem merge (fun p => p.2 = q.pos.2)
        ((List.range (GetBagSize q.player pBag)).map fun slot => (bag, slot)) r = _ :=
      searchAll_eq _ _ (fun p _ hs => by simp [hs]) r
    dsimp only
    split_ifs
    · rfl
    · rfl
    · rfl
    · rfl
    · rfl
    · rw [all]
      simp [Except.map]

lemma searchThisBag_offers : Offers q.roomAt (q.inBag merge q.pos.1) (q.searchThisBag merge) := by
  intro r
  have offers (non_specialized : Bool) : Offers q.roomAt (q.inBag merge q.pos.1)
      (q.searchBag merge q.pos.1 non_specialized NULL_BAG) := searchBag_offers non_specialized NULL_BAG
  have special := offers false r
  have plain := offers true r
  unfold searchBag at special plain
  unfold searchThisBag CanStoreItem_InThisBag
  rw [special, plain]
  cases q.inv.CanStoreItem_InBag q.player q.proto q.entry q.pItem q.pos.1 merge false NULL_BAG
      q.pos.2 ⟨[], 0⟩ with
  | ok _ => rfl
  | error _ => rfl

lemma searchBackpack_offers : Offers q.roomAt (q.inBackpack merge) (q.searchBackpack merge) := by
  intro r
  have all : q.inv.searchAll q.player q.proto q.entry q.pItem merge
      (fun p => INVENTORY_SLOT_BAG_0 = q.pos.1 ∧ p.2 = q.pos.2) backpack r = _ :=
    searchAll_eq _ _ (fun p hm hs => by
      obtain ⟨slot, -, rfl⟩ := List.mem_map.mp hm
      simp [← hs]) r
  have hs : backpack.filter (fun p => !decide (INVENTORY_SLOT_BAG_0 = q.pos.1 ∧
      p.2 = q.pos.2) && q.searched merge p) = q.inBackpack merge := by
    refine List.filter_congr fun p hm => ?_
    obtain ⟨slot, -, rfl⟩ := List.mem_map.mp hm
    simp [Prod.ext_iff]
  rw [hs, backpack] at all
  unfold searchBackpack CanStoreItem_InInventorySlots
  split_ifs
  · rfl
  · rw [all]
    rfl

lemma searchSpecific_offers : Offers q.roomAt [q.pos] q.searchSpecific := by
  intro r
  have one : r.takeAll q.roomAt [q.pos] = r.take q.pos (q.roomAt q.pos) := by
    simp [Reserve.takeAll]
  rw [one]
  unfold searchSpecific CanStoreItem_InSpecificSlot roomAt otherAt
  simp only [and_true]
  generalize (if q.swap = true then none else q.inv.otherAt q.player q.pItem q.pos) = other
  by_cases moves : q.inv.movesNotEmptyBag q.player q.pItem ∧ ¬ IsBagPos q.pos
  · rw [if_pos moves, if_pos moves]
    rfl
  rw [if_neg moves, if_neg moves]
  cases other with
  | some item =>
    dsimp only
    cases item.CanBeMergedPartlyWith q.proto q.entry <;> rfl
  | none =>
    cases q.inv.GetBagByPos q.player q.pos.1 with
    | none => split_ifs <;> rfl
    | some pBag =>
      dsimp only
      split_ifs <;> rfl

lemma mem_searches {e : SearchStep × List Pos} : e ∈ q.searches ↔
    ((q.pos.1 ≠ NULL_BAG ∧ q.pos.2 ≠ NULL_SLOT) ∧ e = (.must q.searchSpecific, [q.pos])) ∨
    (q.pos.1 ≠ NULL_BAG ∧ ∃ merge, (merge = true → q.proto.Stackable ≠ 1) ∧
      e = q.searchHere merge) ∨
    (∃ merge, (merge = true → q.proto.Stackable ≠ 1) ∧
      e = (.must (q.searchBackpack merge), q.inBackpack merge)) ∨
    (∃ merge non_specialized, (merge = true → q.proto.Stackable ≠ 1) ∧
      (non_specialized = false → q.proto.BagFamily ≠ 0) ∧
      e ∈ q.searchBags merge non_specialized) ∨
    e = (.refuse q.refusesBag .bagInBag, []) := by
  simp only [searches, List.mem_append, List.mem_cons, List.mem_ite_nil_right, List.not_mem_nil,
    or_false, Bool.exists_bool, Bool.false_eq_true, false_imp_iff, true_and, forall_const]
  constructor <;> grind

lemma searches_cases {motive : SearchStep × List Pos → Prop}
    (specific : motive (.must q.searchSpecific, [q.pos]))
    (thisBag : q.pos.1 ≠ NULL_BAG → q.pos.1 ≠ INVENTORY_SLOT_BAG_0 →
      ∀ merge, motive (.must (q.searchThisBag merge), q.inBag merge q.pos.1))
    (inSlots : ∀ merge, motive (.must (q.searchBackpack merge), q.inBackpack merge))
    (bags : ∀ bag merge non_specialized,
      motive (.may (q.searchBag merge bag non_specialized q.pos.1), q.inBag merge bag))
    (refuse : motive (.refuse q.refusesBag .bagInBag, [])) : ∀ e ∈ q.searches, motive e := by
  intro e hm
  rcases mem_searches.mp hm with
    ⟨-, rfl⟩ | ⟨asked, merge, -, rfl⟩ | ⟨merge, -, rfl⟩ | ⟨merge, special, -, -, inBags⟩ | rfl
  · exact specific
  · unfold searchHere
    split_ifs with own
    · exact inSlots merge
    · exact thisBag asked own merge
  · exact inSlots merge
  · obtain ⟨bag, -, rfl⟩ := List.mem_map.mp inBags
    exact bags bag merge special
  · exact refuse

lemma searches_offer : ∀ e ∈ q.searches, e.1.Offers q.roomAt e.2 :=
  searches_cases searchSpecific_offers (fun _ _ _ => searchThisBag_offers)
    (fun _ => searchBackpack_offers)
    (fun _ _ non_specialized => searchBag_offers non_specialized q.pos.1) trivial

/-! ### The positions -/

/-- A position stands for a place, and has room. -/
def Roomy (q : StoreRequest) (p : Pos) : Prop :=
  (∃ place, q.inv.placeOf q.player p = some place) ∧ 0 < q.roomAt p

lemma merges {item : Item} {proto : ItemTemplate} {entry : ℕ}
    (ok : item.CanBeMergedPartlyWith proto entry = .ok) :
    item.entry = entry ∧ item.count < proto.GetMaxStackSize := by
  rw [Item.CanBeMergedPartlyWith] at ok
  split_ifs at ok with looted different full
  exact ⟨not_not.mp different, Nat.not_le.mp full⟩

lemma roomAt_le : q.roomAt p ≤ q.proto.GetMaxStackSize := by
  unfold roomAt
  split
  · exact le_rfl
  · split_ifs <;> omega

lemma stack_of_roomAt {item : Item} (other : ¬ (q.swap = true ∧ p = q.pos))
    (here : q.otherAt p = some item) (some_ : 0 < q.roomAt p) :
    item.entry = q.entry ∧ item.count + q.roomAt p = q.proto.GetMaxStackSize := by
  rw [roomAt, if_neg other, here] at some_ ⊢
  dsimp only at some_ ⊢
  split_ifs at some_ ⊢ with ok
  · obtain ⟨hs, room⟩ := merges ok
    exact ⟨hs, by omega⟩
  · exact absurd some_ (lt_irrefl 0)

lemma roomAt_of_searched (other : p ≠ q.pos) (hf : q.searched merge p = true) :
    0 < q.roomAt p := by
  unfold searched at hf
  rw [roomAt, if_neg (by simp [other])]
  cases here : q.otherAt p with
  | none => exact q.proto.GetMaxStackSize_pos
  | some item =>
    rw [here] at hf
    have ok := (of_decide_eq_true hf).2
    dsimp only
    rw [if_pos ok]
    exact Nat.sub_pos_of_lt (merges ok).2

lemma mem_slotsOf : p ∈ q.slotsOf bag ↔ ∃ pBag,
    q.inv.GetBagByPos q.player bag = some pBag ∧ p.1 = bag ∧ p.2 < GetBagSize q.player pBag := by
  unfold slotsOf
  cases q.inv.GetBagByPos q.player bag with
  | none => simp
  | some pBag =>
    simp only [List.mem_map, List.mem_range, Option.some.injEq, exists_eq_left']
    exact ⟨fun ⟨slot, less, hs⟩ => hs ▸ ⟨rfl, less⟩,
      fun ⟨own, less⟩ => ⟨p.2, less, Prod.ext own.symm rfl⟩⟩

lemma roomy_inBag (hm : p ∈ q.inBag merge bag) : q.Roomy p := by
  obtain ⟨inside, searched⟩ := List.mem_filter.mp hm
  obtain ⟨other, hf⟩ := of_decide_eq_true searched
  obtain ⟨pBag, isBag, rfl, less⟩ := mem_slotsOf.mp inside
  exact ⟨⟨_, placeOf_eq_inBag.mpr ⟨pBag, isBag, rfl, rfl, less⟩⟩,
    roomAt_of_searched (fun hs => other (congrArg Prod.snd hs)) hf⟩

lemma roomy_inBackpack (hm : p ∈ q.inBackpack merge) : q.Roomy p := by
  obtain ⟨inside, searched⟩ := List.mem_filter.mp hm
  obtain ⟨other, hf⟩ := of_decide_eq_true searched
  obtain ⟨slot, inRange, rfl⟩ := List.mem_map.mp inside
  have less := (mem_slotsFrom.mp inRange).2
  rw [INVENTORY_SLOT_ITEM_END] at less
  refine ⟨⟨_, placeOf_eq_slot.mpr ⟨rfl, ?_⟩⟩, roomAt_of_searched other hf⟩
  rw [BANK_SLOT_BAG_END]
  omega

lemma roomy_searchSpecific (hf : q.searchSpecific r = .ok r') : q.Roomy q.pos := by
  unfold searchSpecific CanStoreItem_InSpecificSlot at hf
  unfold Roomy roomAt otherAt
  simp only [and_true]
  split at hf
  · cases hf
  cases other : (if q.swap = true then none else q.inv.otherAt q.player q.pItem q.pos) with
  | some item =>
    rw [other] at hf
    have isThere : q.inv.GetItemByPos q.player q.pos = some item := by
      split at other
      · cases other
      · exact (Option.filter_eq_some_iff.mp other).1
    obtain ⟨place, here, -⟩ := Option.bind_eq_some_iff.mp isThere
    dsimp only at hf ⊢
    split at hf
    next ok =>
      rw [if_pos ok]
      exact ⟨⟨place, here⟩, Nat.sub_pos_of_lt (merges ok).2⟩
    next => cases hf
  | none =>
    rw [other] at hf
    refine ⟨?_, q.proto.GetMaxStackSize_pos⟩
    dsimp only at hf
    split_ifs at hf with own buyback
    · exact ⟨_, placeOf_eq_slot.mpr ⟨Prod.ext own rfl, Nat.not_le.mp buyback⟩⟩
    · split at hf
      next => cases hf
      next pBag isBag =>
        split_ifs at hf with outside
        exact ⟨_, placeOf_eq_inBag.mpr ⟨pBag, isBag, rfl, rfl, Nat.not_le.mp outside⟩⟩

lemma roomy_of_search : ∀ e ∈ q.searches, e.1.Accepts → ∀ p ∈ e.2, q.Roomy p := by
  refine searches_cases ?_ ?_ ?_ ?_ ?_
  · rintro ⟨r, hf⟩ p hm
    rw [List.mem_singleton.mp hm]
    exact roomy_searchSpecific hf
  · exact fun _ _ merge _ p => roomy_inBag
  · exact fun merge _ p => roomy_inBackpack
  · exact fun bag merge non_specialized _ p => roomy_inBag
  · exact False.elim

lemma plan_roomy {full : InventoryResult} : ∀ p ∈ (plan full q.searches).1, q.Roomy p := by
  intro p hm
  obtain ⟨e, isSearch, accepts, here⟩ := mem_plan hm
  exact roomy_of_search e isSearch accepts p here

/-! ### The errors -/

def Refusal (res : InventoryResult) : Prop :=
  res = .wrongBagType ∨ res = .destroyNonemptyBag ∨ res = .lootGone ∨ res = .cantStack

lemma searchBag_refusal {non_specialized : Bool} {skip_bag : ℕ}
    (failed : q.searchBag merge bag non_specialized skip_bag r = .error res) : Refusal res := by
  unfold searchBag CanStoreItem_InBag at failed
  unfold Refusal
  split at failed
  · cases failed
    simp
  · split at failed
    · cases failed
      simp
    · dsimp only at failed
      split_ifs at failed <;> cases failed <;> simp

lemma searchSpecific_refusal (failed : q.searchSpecific r = .error res) : Refusal res := by
  unfold searchSpecific CanStoreItem_InSpecificSlot at failed
  unfold Refusal
  split at failed
  · cases failed
    simp
  split at failed
  · unfold Item.CanBeMergedPartlyWith at failed
    split_ifs at failed <;> cases failed <;> simp
  · split at failed
    · split_ifs at failed
      cases failed
      simp
    · split at failed
      · cases failed
        simp
      · split_ifs at failed <;> cases failed <;> simp

lemma searches_ends : ∀ e ∈ q.searches, e.1.Ends res →
    Refusal res ∨ (q.refusesBag = true ∧ res = .bagInBag) := by
  refine searches_cases ?_ ?_ ?_ ?_ ?_
  · exact fun failed => .inl (searchSpecific_refusal failed)
  · intro _ _ merge failed
    unfold SearchStep.Ends searchThisBag CanStoreItem_InThisBag at failed
    dsimp only at failed
    split at failed
    · cases failed
    next => exact .inl (searchBag_refusal failed)
  · intro merge failed
    unfold SearchStep.Ends searchBackpack CanStoreItem_InInventorySlots at failed
    dsimp only at failed
    split_ifs at failed
    cases failed
    exact .inl (.inr (.inl rfl))
  · exact fun _ _ _ => False.elim
  · exact fun ends => .inr ⟨ends.1, ends.2.symm⟩

/-! ### The whole check -/

lemma similar_of_ok (ok : (q.similar count).1 = .ok) : (q.similar count).2 = 0 := by
  unfold similar CanTakeMoreSimilarItems at ok ⊢
  dsimp only at ok ⊢
  split_ifs at ok ⊢
  · rfl
  · rfl
  · split at ok
    · cases ok
    · split_ifs at ok ⊢
      simp

lemma similar_lt (word : count < 2 ^ 32) : (q.similar count).2 < 2 ^ 32 := by
  have less := Nat.mod_lt (q.inv.GetItemCount q.player q.entry q.pItem + count)
    (show 0 < 2 ^ 32 by decide)
  unfold similar CanTakeMoreSimilarItems
  dsimp only
  split_ifs
  · decide
  · decide
  · omega
  · decide
  · split
    · exact word
    next limitEntry _ =>
      have less' := Nat.mod_lt (q.inv.GetItemCountWithLimitCategory q.player
        (q.player.GetItemTemplate q.entry).ItemLimitCategory q.pItem + count)
        (show 0 < 2 ^ 32 by decide)
      split_ifs
      · omega
      · decide

/-- What the check looks for: more than what may be stored if the player has too many already. -/
lemma left_pos (some_ : 0 < count) (word : count < 2 ^ 32)
    (goesOn : ¬ ((q.similar count).1 ≠ .ok ∧ count = (q.similar count).2)) :
    0 < (count + 2 ^ 32 - (q.similar count).2) % 2 ^ 32 := by
  have less := q.similar_lt word
  by_cases ok : (q.similar count).1 = .ok
  · rw [similar_of_ok ok]
    omega
  · have other : count ≠ (q.similar count).2 := fun hs => goesOn ⟨ok, hs⟩
    omega

/-- The positions of the check, and its answer where they have no room. -/
def outcome (q : StoreRequest) : List Pos × InventoryResult := plan .invFull q.searches

lemma outcome_ne_ok : q.outcome.2 ≠ .ok := by
  unfold outcome
  rcases plan_ends with full | ⟨e, isSearch, ends⟩
  · rw [full]
    decide
  · rcases searches_ends e isSearch ends with refusal | ⟨-, refused⟩
    · rcases refusal with res | res | res | res <;> rw [res] <;> decide
    · rw [refused]
      decide

lemma checks_outcome {α : Type} {done : Reserve → α} {left : InventoryResult → Reserve → α}
    {f : List SearchStep → Reserve → α} (checks : Checks .invFull done left f)
    (some_ : 0 < count) :
    f (q.searches.map Prod.fst) ⟨[], count⟩ =
      if (Reserve.takeAll q.roomAt q.outcome.1 ⟨[], count⟩).count = 0 then
        done (Reserve.takeAll q.roomAt q.outcome.1 ⟨[], count⟩)
      else left q.outcome.2 (Reserve.takeAll q.roomAt q.outcome.1 ⟨[], count⟩) :=
  checks.eq searches_offer (fun p hm => (plan_roomy p hm).2) some_ (Reserve.took_nil count)

lemma took (left : 0 < count) :
    Reserve.Took q.roomAt count (Reserve.takeAll q.roomAt q.outcome.1 ⟨[], count⟩) :=
  ((Reserve.took_nil count).takeAll left fun p hm => (plan_roomy p hm).2).1

lemma count_left (left : 0 < count) :
    (Reserve.takeAll q.roomAt q.outcome.1 ⟨[], count⟩).count =
      count - ∑ p ∈ q.outcome.1.toFinset, q.roomAt p :=
  Reserve.takeAll_count left fun p hm => (plan_roomy p hm).2

lemma mem_of_taken (left : 0 < count) {x : Pos × ℕ}
    (hm : x ∈ (Reserve.takeAll q.roomAt q.outcome.1 ⟨[], count⟩).dest) : x.1 ∈ q.outcome.1 := by
  obtain ⟨-, inside, -⟩ := (Reserve.took_nil count).takeAll left
    fun p hm => ((plan_roomy p hm).2 : 0 < q.roomAt p)
  exact (inside x.1 (List.mem_map_of_mem hm)).resolve_left (by simp)

lemma canStore_ok (some_ : 0 < count) (word : count < 2 ^ 32) {dest : List (Pos × ℕ)}
    (ok : q.inv.canStore q.player q.pos [] q.entry count q.pItem q.swap = (.ok, dest)) :
    Reserve.Took q.roomAt count ⟨dest, 0⟩ ∧ ∀ x ∈ dest, q.Roomy x.1 := by
  rw [canStore_eq] at ok
  split_ifs at ok with looted bound tooMany
  · cases ok
  · cases ok
  · exact absurd (Prod.mk.inj ok).1 tooMany.1
  have left := left_pos some_ word tooMany
  rw [checks_outcome (searchSteps_checks _) left] at ok
  split_ifs at ok with done none_
  · obtain ⟨-, rfl⟩ := Prod.mk.inj ok
    have all := took left (q := q)
    have reserved := fun x => mem_of_taken left (q := q) (x := x)
    rw [none_, Nat.sub_zero, Nat.add_mod_right, Nat.mod_eq_of_lt word] at all reserved done ⊢
    generalize Reserve.takeAll q.roomAt q.outcome.1 ⟨[], count⟩ = r at *
    obtain ⟨dest, left⟩ := r
    subst done
    exact ⟨all, fun x hm => plan_roomy _ (reserved x hm)⟩
  · cases (Prod.mk.inj ok).1
  · exact absurd (Prod.mk.inj ok).1 outcome_ne_ok

end StoreRequest

end WorldServer.Items
