import WorldServer.Items.FullInventory

/-!
# The count that finds no space

A check also tells how many of the items find no space, so that a caller stores the others. With
what is reserved this adds up to the count, unless the player already has more of the item than he
may have: then more is too much than was asked for, and the difference of unsigned counts is huge.
-/
namespace WorldServer.Items

open WorldServer.Lib

/-- What is written to `*no_space_count` when something is left. Nothing is, where a bag with
something in it cannot be put into a bag. -/
def unstored (no_similar_count : ℕ) (res : InventoryResult) (r : Reserve) : ℕ :=
  if res = .bagInBag then 0 else (r.count + no_similar_count) % 2 ^ 32

def noSpace (full : InventoryResult) (no_similar_count : ℕ) : List SearchStep → Reserve → ℕ
  | [], r => unstored no_similar_count full r
  | step :: steps, r =>
    let found (r' : Reserve) :=
      if r'.count = 0 then no_similar_count else noSpace full no_similar_count steps r'
    match step with
    | .must search =>
      match search r with
      | .error res => unstored no_similar_count res r
      | .ok r' => found r'
    | .may search =>
      match search r with
      | .error _ => noSpace full no_similar_count steps r
      | .ok r' => found r'
    | .refuse refused res =>
      if refused then unstored no_similar_count res r else noSpace full no_similar_count steps r

lemma noSpace_checks (full : InventoryResult) (no_similar_count : ℕ) :
    Checks full (fun _ => no_similar_count) (unstored no_similar_count)
      (noSpace full no_similar_count) :=
  ⟨fun _ => rfl, fun _ _ _ => rfl, fun _ _ _ => rfl, fun _ _ _ _ => rfl⟩

def begins : List (SearchStep × List Pos) → Bool
  | [] => false
  | (.must search, _) :: _ => (search ⟨[], 0⟩).isOk
  | (.may search, _) :: steps => (search ⟨[], 0⟩).isOk || begins steps
  | (.refuse refused _, _) :: steps => !refused && begins steps

variable {full : InventoryResult} {room : Pos → ℕ} {steps : List (SearchStep × List Pos)}

lemma Checks.zero {α : Type} {done : Reserve → α} {left : InventoryResult → Reserve → α}
    {f : List SearchStep → Reserve → α} (checks : Checks full done left f)
    (offers : ∀ e ∈ steps, e.1.Offers room e.2) :
    (begins steps = true ∧ ∃ e ∈ steps, e.1.Accepts ∧
      f (steps.map Prod.fst) ⟨[], 0⟩ = done (Reserve.takeAll room e.2 ⟨[], 0⟩)) ∨
    (begins steps = false ∧ f (steps.map Prod.fst) ⟨[], 0⟩ = left (plan full steps).2 ⟨[], 0⟩) := by
  have none_ (positions : List Pos) : (Reserve.takeAll room positions ⟨[], 0⟩).count = 0 := by
    cases positions <;> simp [Reserve.takeAll, Reserve.take]
  induction steps with
  | nil => exact .inr ⟨rfl, checks.nil _⟩
  | cons e steps ih =>
    obtain ⟨step, positions⟩ := e
    have offersStep := offers _ List.mem_cons_self
    have ih := ih fun e hm => offers e (List.mem_cons_of_mem _ hm)
    have later : (begins steps = true ∧ ∃ e ∈ (step, positions) :: steps, e.1.Accepts ∧
        f (steps.map Prod.fst) ⟨[], 0⟩ = done (Reserve.takeAll room e.2 ⟨[], 0⟩)) ∨
        (begins steps = false ∧
          f (steps.map Prod.fst) ⟨[], 0⟩ = left (plan full steps).2 ⟨[], 0⟩) := by
      refine ih.imp_left ?_
      rintro ⟨begun, e, isStep, rest⟩
      exact ⟨begun, e, List.mem_cons_of_mem _ isStep, rest⟩
    cases step with
    | must search =>
      rw [List.map_cons, checks.must, offersStep, begins, plan]
      cases hf : search ⟨[], 0⟩ with
      | error res => exact .inr ⟨rfl, rfl⟩
      | ok r => exact .inl ⟨rfl, _, List.mem_cons_self, ⟨r, hf⟩, if_pos (none_ positions)⟩
    | may search =>
      rw [List.map_cons, checks.may, offersStep, begins, plan]
      cases hf : search ⟨[], 0⟩ with
      | error res => exact later
      | ok r => exact .inl ⟨rfl, _, List.mem_cons_self, ⟨r, hf⟩, if_pos (none_ positions)⟩
    | refuse refused res =>
      rw [List.map_cons, checks.refuse, begins, plan]
      cases refused with
      | true => exact .inr ⟨rfl, rfl⟩
      | false => exact later

namespace StoreRequest

open Inventory

section Account

variable (q : StoreRequest) (count : ℕ)

def answer : InventoryResult × List (Pos × ℕ) :=
  q.inv.canStore q.player q.pos [] q.entry count q.pItem q.swap

def early : Bool :=
  q.pItem.any Item.m_lootGenerated || q.pItem.any q.player.IsBindedNotWith ||
    ((q.similar count).1 ≠ .ok ∧ count = (q.similar count).2)

def wanted : ℕ := (count + 2 ^ 32 - (q.similar count).2) % 2 ^ 32

def no_space_count : ℕ :=
  if q.early count then count
  else noSpace .invFull (q.similar count).2 (q.searches.map Prod.fst) ⟨[], q.wanted count⟩

/-- What else is at a position. A swap empties the position that is asked for. -/
def occupant (p : Pos) : Option Item := if q.swap ∧ p = q.pos then none else q.otherAt p

/-- An empty slot that may hold the item: one of the player's own slots, apart from the buyback, or
one in an existing bag that accepts the item and does not move itself. -/
def MayHold (p : Pos) : Prop :=
  (p.1 = INVENTORY_SLOT_BAG_0 ∧ p.2 < BUYBACK_SLOT_START) ∨
    (q.takesBag p.1 = true ∧ p ∈ q.slotsOf p.1)

def Takes (p : Pos) (n : ℕ) : Prop :=
  match q.occupant p with
  | none => q.MayHold p ∧ n ≤ q.proto.GetMaxStackSize
  | some item => item.entry = q.entry ∧ item.count + n ≤ q.proto.GetMaxStackSize

structure Accounts : Prop where
  sum : ((q.answer count).2.map Prod.snd).sum + q.no_space_count count = count
  ok_iff : (q.answer count).1 = .ok ↔ q.no_space_count count = 0
  once : ((q.answer count).2.map Prod.fst).Nodup
  takes : ∀ x ∈ (q.answer count).2, q.Takes x.1 x.2

/-- The position that is asked for is a free one in the bag that moves. -/
def Inside : Prop :=
  q.Specific ∧ (∃ r, q.searchSpecific ⟨[], 0⟩ = .ok r) ∧ q.occupant q.pos = none ∧
    q.pos.1 ≠ INVENTORY_SLOT_BAG_0 ∧ q.takesBag q.pos.1 = false

/-- No bag is asked for, and what moves is a bag with something in it that does not stack. -/
def RefusesInside : Prop :=
  q.pos.1 = NULL_BAG ∧ q.proto.Stackable = 1 ∧ q.refusesBag = true

def searchedRoom : ℕ := ∑ p ∈ q.outcome.1.toFinset, q.roomAt p

end Account

variable {q : StoreRequest} {merge : Bool} {bag count n : ℕ} {p : Pos}

lemma roomAt_le_of_occupant {item : Item} (here : q.occupant p = some item)
    (some_ : 0 < q.roomAt p) :
    item.entry = q.entry ∧ item.count + q.roomAt p = q.proto.GetMaxStackSize := by
  unfold occupant at here
  split_ifs at here with swapped
  exact stack_of_roomAt swapped here some_

/-- What is within the room of a position can be taken there, if the slot may hold the item. -/
lemma takes_of_roomAt (roomy : q.Roomy p) (few : n ≤ q.roomAt p)
    (free : q.occupant p = none → q.MayHold p) : q.Takes p n := by
  unfold Takes
  cases here : q.occupant p with
  | none => exact ⟨free here, few.trans roomAt_le⟩
  | some item =>
    obtain ⟨hs, full⟩ := roomAt_le_of_occupant here roomy.2
    exact ⟨hs, by omega⟩

lemma mayHold_of_backpack (inside : p ∈ backpack) : q.MayHold p := by
  obtain ⟨slot, inRange, rfl⟩ := List.mem_map.mp inside
  have less := (mem_slotsFrom.mp inRange).2
  rw [INVENTORY_SLOT_ITEM_END] at less
  refine .inl ⟨rfl, ?_⟩
  rw [BUYBACK_SLOT_START]
  omega

lemma mayHold_of_slotsOf (takes : q.takesBag bag = true) (inside : p ∈ q.slotsOf bag) :
    q.MayHold p := by
  obtain ⟨-, -, rfl, -⟩ := mem_slotsOf.mp inside
  exact .inr ⟨takes, inside⟩

variable {r : Reserve} {positions : List Pos}

lemma mayHold_specific (specific : q.Specific) (outside : ¬ q.Inside)
    (hf : q.searchSpecific ⟨[], 0⟩ = .ok r) (free : q.occupant q.pos = none) :
    q.MayHold q.pos := by
  by_cases own : q.pos.1 = INVENTORY_SLOT_BAG_0
  · obtain ⟨⟨place, here⟩, -⟩ := roomy_searchSpecific hf
    refine .inl ⟨own, ?_⟩
    cases place with
    | slot slot =>
      obtain ⟨hs, less⟩ := placeOf_eq_slot.mp here
      rw [hs]
      exact less
    | inBag bag i =>
      obtain ⟨pBag, isBag, -⟩ := placeOf_eq_inBag.mp here
      exact absurd own (ne_of_isBagSlot (GetBagByPos_eq_some.mp isBag).1)
  · have takes : q.takesBag q.pos.1 = true := by
      by_contra refused
      exact outside ⟨specific, ⟨r, hf⟩, free, own, Bool.not_eq_true _ ▸ refused⟩
    obtain ⟨⟨place, here⟩, -⟩ := roomy_searchSpecific hf
    cases place with
    | slot slot => exact absurd (congrArg Prod.fst (placeOf_eq_slot.mp here).1) own
    | inBag bag i =>
      obtain ⟨pBag, isBag, -, rfl, less⟩ := placeOf_eq_inBag.mp here
      exact .inr ⟨takes, mem_slotsOf.mpr ⟨pBag, isBag, rfl, less⟩⟩

lemma mayHold_of_search (outside : ¬ q.Inside) {e : SearchStep × List Pos}
    (isSearch : e ∈ q.searches) (accepts : e.1.Accepts) (here : p ∈ e.2)
    (free : q.occupant p = none) : q.MayHold p := by
  rcases mem_searches.mp isSearch with
    ⟨specific, rfl⟩ | ⟨asked, merge, -, rfl⟩ | ⟨merge, -, rfl⟩ |
      ⟨merge, special, -, -, inBags⟩ | rfl
  · obtain ⟨r, hf⟩ := accepts
    obtain rfl := List.mem_singleton.mp here
    exact mayHold_specific specific outside hf free
  · unfold searchHere at accepts here
    split_ifs at accepts here with own
    · exact mayHold_of_backpack (mem_inBackpack.mp here).1
    · have takes := ((searchThisBag_accepts_iff asked).mp accepts).2
      exact mayHold_of_slotsOf takes (mem_inBag.mp here).1
  · exact mayHold_of_backpack (mem_inBackpack.mp here).1
  · obtain ⟨bag, -, rfl⟩ := List.mem_map.mp inBags
    exact mayHold_of_slotsOf (searchBag_accepts_iff.mp accepts).2.2.1 (mem_inBag.mp here).1
  · exact accepts.elim

/-! ### What is reserved -/

lemma answer_of_early (isEarly : q.early count = true) :
    (q.answer count).1 ≠ .ok ∧ (q.answer count).2 = [] := by
  unfold early at isEarly
  unfold answer
  rw [canStore_eq]
  split_ifs with looted bound tooMany
  · simp
  · simp
  · exact ⟨tooMany.1, rfl⟩
  · simp [looted, bound] at isEarly
    exact absurd isEarly tooMany

lemma answer_of_late (late : q.early count = false) :
    q.answer count = searchSteps .invFull (q.similar count).2 (q.searches.map Prod.fst)
      ⟨[], q.wanted count⟩ := by
  unfold early at late
  simp only [Bool.or_eq_false_iff, decide_eq_false_iff_not] at late
  unfold answer wanted
  rw [canStore_eq, late.1.1, late.1.2, if_neg (by simp), if_neg (by simp), if_neg late.2]

lemma accounts_early_iff (isEarly : q.early count = true) : q.Accounts count ↔ count ≠ 0 := by
  obtain ⟨isError, nothing⟩ := answer_of_early isEarly
  have unstored : q.no_space_count count = count := if_pos isEarly
  constructor
  · rintro accounts rfl
    exact isError (accounts.ok_iff.mpr unstored)
  · intro some_
    exact {
      sum := by simp [nothing, unstored]
      ok_iff := iff_of_false isError (unstored.symm ▸ some_)
      once := by simp [nothing]
      takes := by simp [nothing] }

lemma dest_takeAll : r.dest <+: (r.takeAll room positions).dest := by
  induction positions generalizing r with
  | nil => exact List.prefix_refl _
  | cons pos rest ih =>
    have now : r.dest <+: (r.take pos (room pos)).dest := by
      unfold Reserve.take
      split
      · exact List.prefix_refl _
      · exact List.prefix_append _ _
    unfold Reserve.takeAll
    dsimp only
    split_ifs
    · exact now
    · exact now.trans ih

lemma specific_taken (specific : q.Specific) (hf : q.searchSpecific ⟨[], 0⟩ = .ok r) :
    q.pos ∈ (Reserve.takeAll q.roomAt q.outcome.1 ⟨[], n⟩).dest.map Prod.fst := by
  have first : q.pos.1 ≠ NULL_BAG ∧ q.pos.2 ≠ NULL_SLOT := specific
  obtain ⟨rest, hs⟩ : ∃ rest, q.outcome.1 = q.pos :: rest := by
    rw [outcome, searches, if_pos first]
    simp only [List.cons_append, List.nil_append, plan, hf]
    exact ⟨_, rfl⟩
  rw [hs, Reserve.takeAll]
  have now : q.pos ∈ (Reserve.take ⟨[], n⟩ q.pos (q.roomAt q.pos)).dest.map Prod.fst := by
    simp [Reserve.take]
  split_ifs
  · exact now
  · exact (dest_takeAll.sublist.map _).subset now

lemma takes_iff (few : ∀ x ∈ (Reserve.takeAll q.roomAt q.outcome.1 ⟨[], n⟩).dest,
    x.2 ≤ q.roomAt x.1 ∧ x.1 ∈ q.outcome.1) :
    (∀ x ∈ (Reserve.takeAll q.roomAt q.outcome.1 ⟨[], n⟩).dest, q.Takes x.1 x.2) ↔ ¬ q.Inside := by
  constructor
  · rintro takes ⟨specific, ⟨r, hf⟩, free, own, itself⟩
    obtain ⟨x, hm, hs⟩ := List.mem_map.mp (specific_taken specific hf)
    have taken := takes x hm
    rw [hs, Takes, free] at taken
    rcases taken.1 with ⟨own', -⟩ | ⟨takes, -⟩
    · exact own own'
    · rw [itself] at takes
      cases takes
  · intro outside x hm
    obtain ⟨within, isOffered⟩ := few x hm
    obtain ⟨e, isSearch, accepts, here⟩ := mem_plan isOffered
    exact takes_of_roomAt (plan_roomy _ isOffered) within
      (mayHold_of_search outside isSearch accepts here)

/-! ### A bag in a bag -/

lemma plan_must_refused {res : InventoryResult}
    {search : Reserve → Except InventoryResult Reserve} (failed : search ⟨[], 0⟩ = .error res) :
    (plan full ((.must search, positions) :: steps)).2 = res := by
  rw [plan, failed]

lemma plan_searchBags {special : Bool} (steps : List (SearchStep × List Pos)) :
    (plan .invFull (q.searchBags merge special ++ steps)).2 = (plan .invFull steps).2 := by
  unfold searchBags
  induction equippedBags with
  | nil => rfl
  | cons bag bags ih =>
    rw [List.map_cons, List.cons_append, plan]
    split
    · exact ih
    · exact ih

lemma plan_searchHere (asked : q.pos.1 ≠ NULL_BAG) (refuses : q.refusesBag = true)
    (steps : List (SearchStep × List Pos)) :
    (plan .invFull (q.searchHere merge :: steps)).2 ≠ .bagInBag := by
  have isSearch : ∃ search positions res, q.searchHere merge = (.must search, positions) ∧
      search ⟨[], 0⟩ = .error res ∧ res ≠ .bagInBag := by
    unfold searchHere
    split_ifs with own
    · refine ⟨_, _, .destroyNonemptyBag, rfl, ?_, by decide⟩
      exact if_pos refuses
    · cases hf : q.searchThisBag merge ⟨[], 0⟩ with
      | ok r =>
        have accepts := (searchThisBag_accepts_iff asked).mp ⟨r, hf⟩
        rw [accepts.1] at refuses
        cases refuses
      | error res =>
        refine ⟨_, _, res, rfl, hf, ?_⟩
        unfold searchThisBag CanStoreItem_InThisBag at hf
        split at hf
        · cases hf
        · rcases searchBag_refusal (q := q) hf with hs | hs | hs | hs <;> simp [hs]
  obtain ⟨search, positions, res, here, failed, other⟩ := isSearch
  rw [here, plan_must_refused failed]
  exact other

lemma outcome_bagInBag_iff : q.outcome.2 = .bagInBag ↔ q.RefusesInside := by
  constructor
  · intro inBag
    have refuses : q.refusesBag = true := by
      have outcome : q.outcome.2 = .invFull ∨ ∃ e ∈ q.searches, e.1.Ends q.outcome.2 := plan_ends
      rcases outcome with full | ⟨e, isSearch, ends⟩
      · exact absurd (inBag.symm.trans full) (by decide)
      · rw [inBag] at ends
        rcases searches_ends e isSearch ends with refusal | ⟨refuses, -⟩
        · rcases refusal with hs | hs | hs | hs <;> cases hs
        · exact refuses
    unfold outcome at inBag
    by_cases asked : q.pos.1 = NULL_BAG
    · refine ⟨asked, ?_, refuses⟩
      by_contra mergeable
      have failed : q.searchBackpack true ⟨[], 0⟩ = .error .destroyNonemptyBag := if_pos refuses
      obtain ⟨steps, first⟩ : ∃ steps, q.searches =
          (.must (q.searchBackpack true), q.inBackpack true) :: steps := by
        simp [searches, asked, mergeable]
      rw [first, plan_must_refused failed] at inBag
      cases inBag
    · exfalso
      obtain ⟨merge, steps, first⟩ : ∃ merge steps, q.searches =
          (if q.pos.2 ≠ NULL_SLOT then [(.must q.searchSpecific, [q.pos])] else []) ++
            q.searchHere merge :: steps := by
        by_cases single : q.proto.Stackable = 1
        · exact ⟨false, by simp [searches, asked, single]⟩
        · exact ⟨true, by simp [searches, asked, single]⟩
      rw [first] at inBag
      split_ifs at inBag
      · rw [List.cons_append, List.nil_append] at inBag
        cases hf : q.searchSpecific ⟨[], 0⟩ with
        | error res =>
          rw [plan_must_refused hf] at inBag
          rcases searchSpecific_refusal hf with hs | hs | hs | hs <;>
            rw [inBag] at hs <;> cases hs
        | ok r =>
          rw [plan, hf] at inBag
          exact plan_searchHere asked refuses steps inBag
      · exact plan_searchHere asked refuses steps inBag
  · rintro ⟨asked, single, refuses⟩
    unfold outcome searches
    simp only [asked, single, refuses, ne_eq, not_true_eq_false, false_and, if_false,
      List.nil_append]
    split_ifs
    · rfl
    · rw [plan_searchBags]
      rfl

lemma searchedRoom_refuses (refuses : q.RefusesInside) : q.searchedRoom = 0 := by
  obtain ⟨asked, -, refuses⟩ := refuses
  refine Finset.sum_eq_zero fun p hm => ?_
  obtain ⟨e, isSearch, accepts, here⟩ := mem_plan (List.mem_toFinset.mp hm)
  exfalso
  have notEmpty : q.refusesBag = false := by
    rcases mem_searches.mp isSearch with
      ⟨specific, -⟩ | ⟨bag, -⟩ | ⟨merge, -, rfl⟩ | ⟨merge, special, -, -, inBags⟩ | rfl
    · exact absurd asked specific.1
    · exact absurd asked bag
    · exact searchBackpack_accepts_iff.mp accepts
    · obtain ⟨bag, -, rfl⟩ := List.mem_map.mp inBags
      exact (searchBag_accepts_iff.mp accepts).2.1
    · exact accepts.elim
  rw [notEmpty] at refuses
  cases refuses

/-! ### The account -/

lemma accounts_iff_of_wanted (late : q.early count = false) (word : count < 2 ^ 32)
    (some_ : 0 < q.wanted count) :
    q.Accounts count ↔ ¬ q.Inside ∧
      ((q.similar count).2 ≤ count ∨ q.searchedRoom < count) ∧
        ¬ q.RefusesInside := by
  rw [← outcome_bagInBag_iff]
  have less := q.similar_lt word
  have took := took some_ (q := q)
  have left := count_left some_ (q := q)
  have answer := (answer_of_late late).trans (checks_outcome (searchSteps_checks _) some_)
  have unstored : q.no_space_count count = _ :=
    (if_neg (by simp [late])).trans (checks_outcome (noSpace_checks _ _) some_)
  have takes := takes_iff (q := q) (n := q.wanted count) fun x hm =>
    ⟨(took.within x hm).2, mem_of_taken some_ hm⟩
  change _ = _ - q.searchedRoom at left
  have sum := took.sum
  rw [← takes]
  generalize Reserve.takeAll q.roomAt q.outcome.1 ⟨[], q.wanted count⟩ = r at *
  have reserved : (q.answer count).2 = r.dest := by
    rw [answer]
    split_ifs <;> rfl
  have parts : q.Accounts count ↔ (∀ x ∈ r.dest, q.Takes x.1 x.2) ∧
      (r.dest.map Prod.snd).sum + q.no_space_count count = count ∧
        ((q.answer count).1 = .ok ↔ q.no_space_count count = 0) := by
    refine ⟨fun accounts => ?_, fun ⟨takes, sum, ok⟩ => ⟨?_, ok, ?_, ?_⟩⟩
    · rw [← reserved]
      exact ⟨accounts.takes, accounts.sum, accounts.ok_iff⟩
    · rwa [reserved]
    · rw [reserved]
      exact took.once
    · rwa [reserved]
  rw [parts, answer, unstored]
  refine and_congr_right fun _ => ?_
  unfold wanted at *
  have notInside : r.count = 0 → ¬ q.outcome.2 = .bagInBag := fun none_ inBag => by
    have empty := searchedRoom_refuses (outcome_bagInBag_iff.mp inBag)
    omega
  by_cases none_ : r.count = 0
  · have all : (if (q.similar count).2 = 0 then InventoryResult.ok else .itemMaxCount) = .ok ↔
        (q.similar count).2 = 0 := by
      split_ifs with none_ <;> simp [none_]
    simp only [none_, if_true, all, notInside, not_false_eq_true, and_true]
    omega
  · simp only [none_, if_false, outcome_ne_ok, false_iff, Items.unstored]
    split_ifs with inBag
    · simp [inBag]
    · simp only [inBag, not_false_eq_true, and_true]
      omega

lemma accounts_zero_iff (late : q.early count = false) (word : count < 2 ^ 32)
    (none_ : q.wanted count = 0) : q.Accounts count ↔ ¬ q.Inside ∧ begins q.searches = true := by
  have less := q.similar_lt word
  have ok : (q.similar count).1 = .ok := by
    by_contra isError
    have hs : count = (q.similar count).2 := by
      unfold wanted at none_
      omega
    rw [early, Bool.or_eq_false_iff, decide_eq_false_iff_not] at late
    exact late.2 ⟨isError, hs⟩
  have similar := similar_of_ok ok
  have answer := answer_of_late late
  have unstored : q.no_space_count count = _ := if_neg (by simp [late])
  obtain rfl : count = 0 := by
    unfold wanted at none_
    omega
  rw [similar, none_] at answer unstored
  replace unstored : q.no_space_count 0 = 0 := by
    rw [unstored]
    rcases (noSpace_checks .invFull 0).zero searches_offer with ⟨-, _, -, -, eq⟩ | ⟨-, eq⟩
    · exact eq
    · rw [eq, Items.unstored]
      split_ifs <;> rfl
  rcases (searchSteps_checks 0).zero (searches_offer (q := q)) with
    ⟨begun, e, isSearch, accepts, eq⟩ | ⟨notBegun, eq⟩
  · rw [eq, if_pos rfl] at answer
    refine ⟨fun accounts => ⟨?_, begun⟩, fun ⟨outside, _⟩ => ?_⟩
    · rintro ⟨specific, ⟨r, hf⟩, free, own, itself⟩
      have first : q.pos.1 ≠ NULL_BAG ∧ q.pos.2 ≠ NULL_SLOT := specific
      have reserved : (q.answer 0).2 = [(q.pos, 0)] := by
        rw [answer_of_late late, similar, none_, searches, if_pos first]
        simp only [List.cons_append, List.nil_append, List.map_cons, searchSteps]
        rw [searchSpecific_offers, hf]
        simp [Except.map, Reserve.takeAll, Reserve.take]
      have taken := accounts.takes (q.pos, 0) (reserved ▸ List.mem_singleton.mpr rfl)
      rw [Takes, free] at taken
      rcases taken.1 with ⟨own', -⟩ | ⟨takes, -⟩
      · exact own own'
      · rw [itself] at takes
        cases takes
    · have reserved : (q.answer 0).2 = (Reserve.takeAll q.roomAt e.2 ⟨[], 0⟩).dest := by rw [answer]
      have roomy := roomy_of_search e isSearch accepts
      have holds := fun p => mayHold_of_search outside isSearch accepts (p := p)
      cases positions : e.2 with
      | nil =>
        rw [positions, Reserve.takeAll] at reserved
        exact ⟨by simp [reserved, unstored], by simp [answer, unstored], by simp [reserved],
          by simp [reserved]⟩
      | cons p rest =>
        have one : (q.answer 0).2 = [(p, 0)] := by
          simp [reserved, positions, Reserve.takeAll, Reserve.take]
        rw [positions] at roomy holds
        refine ⟨by simp [one, unstored], by simp [answer, unstored], by simp [one], ?_⟩
        intro x hm
        rw [one, List.mem_singleton] at hm
        rw [hm]
        exact takes_of_roomAt (roomy p List.mem_cons_self) (Nat.zero_le _)
          (holds p List.mem_cons_self)
  · rw [eq] at answer
    refine iff_of_false (fun accounts => ?_) fun ⟨_, begun⟩ => ?_
    · exact outcome_ne_ok ((congrArg Prod.fst answer).symm.trans (accounts.ok_iff.mpr unstored))
    · rw [notBegun] at begun
      cases begun

/-- The condition under which a check accounts for its count. -/
def AccountsWhen (q : StoreRequest) (count : ℕ) : Prop :=
  if q.early count then count ≠ 0
  else ¬ q.Inside ∧
    if q.wanted count = 0 then begins q.searches = true
    else ((q.similar count).2 ≤ count ∨ q.searchedRoom < count) ∧
      ¬ q.RefusesInside

/-- A check accounts for its count exactly when the player has no more of the item than he may
have, or finds less room than was asked for, the check does not end with a bag in a bag, and the
position that is asked for is not in the bag that moves. -/
theorem canStore_accounts_iff (q : StoreRequest) (count : UInt32) :
    q.Accounts count.toNat ↔ q.AccountsWhen count.toNat := by
  unfold AccountsWhen
  cases late : q.early count.toNat with
  | true => simpa using accounts_early_iff late
  | false =>
    by_cases none_ : q.wanted count.toNat = 0
    · simpa [none_] using accounts_zero_iff late count.toNat_lt none_
    · simpa [none_] using accounts_iff_of_wanted late count.toNat_lt (Nat.pos_of_ne_zero none_)

end StoreRequest

/-- Nobody may have two of the item, but this player has. One more is given to him. -/
def secondCopy : StoreRequest where
  player := { traveller with
    GetItemTemplate := fun _ => { slotTemplate .nonEquip 7 0 with MaxCount := 1 }
    bagSizes := fun _ => by decide }
  inv := {
    items := ((∅ : Table Place Item).insert (.slot 23) ⟨1, 2, 1, 23, none, false, false⟩).insert
      (.slot 24) ⟨2, 2, 1, 24, none, false, false⟩
    mailed := []
    loose := []
    nextGuid := 3 }
  entry := 2
  pItem := none
  pos := (NULL_BAG, NULL_SLOT)
  swap := false

/-- Two are too many, so that minus one is searched for, and the whole backpack is reserved. -/
theorem backpack_reserved : ¬ secondCopy.Accounts 1 := by
  intro accounts
  exact absurd accounts.sum (by decide +kernel)

end WorldServer.Items
