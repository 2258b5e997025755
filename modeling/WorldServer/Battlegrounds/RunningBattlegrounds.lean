import WorldServer.Battlegrounds.BattlegroundQueue

/-!
# Filling a running battleground

`FillPlayersToBG` takes groups from the normal queue of each team as long as they find room. When
the invitations are balanced it then kicks groups of the fuller team, and takes smaller ones from
further behind in the queue, until both teams have about the same room left or one has nobody to
kick. Kicks and refills end, whatever stands in the queues.
-/
namespace WorldServer.Battlegrounds

variable {groups : ℕ → GroupQueueInfo} {queue rest : List ℕ} {free : ℕ} {pool : SelectionPool}

/-! ### One pool -/

structure SelectionPool.Selects (groups : ℕ → GroupQueueInfo) (queue : List ℕ) (free : ℕ)
    (pool : SelectionPool) (rest : List ℕ) : Prop where
  scanned : ∃ seen, seen ++ rest = queue ∧ pool.SelectedGroups.Sublist seen
  uninvited : ∀ g ∈ pool.SelectedGroups, (groups g).uninvited = true
  counted : pool.PlayerCount = (pool.SelectedGroups.map fun g => (groups g).Players.length).sum
  room : pool.PlayerCount ≤ free

namespace SelectionPool

/-- What a pool can still go through: a group in the queue may be selected and then kicked. -/
def work (pool : SelectionPool) (rest : List ℕ) : ℕ := pool.SelectedGroups.length + 2 * rest.length

lemma selects_init (queue : List ℕ) : Selects groups queue free init queue :=
  ⟨⟨[], rfl, List.Sublist.refl []⟩, by simp [init], rfl, Nat.zero_le free⟩

lemma Selects.pass {g : ℕ} (selects : Selects groups queue free pool (g :: rest)) :
    Selects groups queue free pool rest := by
  obtain ⟨seen, parts, chosen⟩ := selects.scanned
  refine { selects with scanned := ⟨seen ++ [g], ?_, chosen.trans (List.sublist_append_left _ _)⟩ }
  rw [List.append_assoc]
  exact parts

lemma Selects.take {g : ℕ} (selects : Selects groups queue free pool (g :: rest))
    (uninvited : (groups g).uninvited = true)
    (fits : pool.PlayerCount + (groups g).Players.length ≤ free) :
    Selects groups queue free
      ⟨pool.SelectedGroups ++ [g], pool.PlayerCount + (groups g).Players.length⟩ rest where
  scanned := by
    obtain ⟨seen, parts, chosen⟩ := selects.scanned
    refine ⟨seen ++ [g], ?_, chosen.append (List.Sublist.refl [g])⟩
    rw [List.append_assoc]
    exact parts
  uninvited other hm := by
    rcases List.mem_append.mp hm with earlier | last
    · exact selects.uninvited other earlier
    · rwa [List.mem_singleton.mp last]
  counted := by simp [selects.counted]
  room := fits

lemma Selects.addGroups {desiredCount : ℕ} (selects : Selects groups queue free pool rest)
    (bound : desiredCount ≤ free) :
    Selects groups queue free (pool.addGroups groups desiredCount rest).1
      (pool.addGroups groups desiredCount rest).2 := by
  induction rest generalizing pool with
  | nil => exact selects
  | cons g rest ih =>
    unfold SelectionPool.addGroups addGroup
    dsimp only
    split_ifs with fits
    · exact ih (selects.take fits.1 (fits.2.trans bound))
    · by_cases more : pool.PlayerCount < desiredCount
      · simpa only [more, decide_true] using ih selects.pass
      · simpa only [more, decide_false] using selects

lemma work_addGroups (desiredCount : ℕ) :
    (pool.addGroups groups desiredCount rest).1.work (pool.addGroups groups desiredCount rest).2 ≤
      pool.work rest := by
  induction rest generalizing pool with
  | nil => exact le_rfl
  | cons g rest ih =>
    unfold SelectionPool.addGroups addGroup
    dsimp only
    split_ifs with fits
    · refine ih.trans ?_
      simp only [work, List.length_append, List.length_cons, List.length_nil]
      omega
    · by_cases more : pool.PlayerCount < desiredCount
      · simp only [more, decide_true]
        refine ih.trans ?_
        simp only [work, List.length_cons]
        omega
      · simp [more]

lemma PlayerCount_addGroups_le (desiredCount : ℕ) :
    (pool.addGroups groups desiredCount rest).1.PlayerCount ≤
      max pool.PlayerCount desiredCount := by
  induction rest generalizing pool with
  | nil => exact le_max_left _ _
  | cons g rest ih =>
    unfold SelectionPool.addGroups addGroup
    dsimp only
    split_ifs with fits
    · exact ih.trans (max_le (fits.2.trans (le_max_right _ _)) (le_max_right _ _))
    · by_cases more : pool.PlayerCount < desiredCount
      · simpa only [more, decide_true] using ih
      · simp [more]

lemma groupToKick_lt {sizes : List ℕ} (some_ : sizes ≠ []) (size : ℕ) :
    groupToKick sizes size < sizes.length := by
  refine List.foldlRecOn (motive := fun kick : ℕ × Bool => kick.1 < sizes.length) _ _
    (List.length_pos_of_ne_nil some_) fun kick inside here hm => ?_
  have place := (List.mem_zipIdx' hm).1
  dsimp only
  split_ifs
  · exact place
  · exact place
  · exact inside

lemma kickGroup_of_empty (none_ : pool.PlayerCount = 0) (size : ℕ) :
    pool.kickGroup groups size = (pool, true) := by
  unfold kickGroup
  dsimp only
  split
  · simp [none_]
  · rfl

section

variable (selects : Selects groups queue free pool rest)
include selects

lemma Selects.kickGroup (size : ℕ) :
    Selects groups queue free (pool.kickGroup groups size).1 rest := by
  unfold SelectionPool.kickGroup
  dsimp only
  split
  · rename_i g here
    split_ifs with somebody
    · obtain ⟨seen, parts, chosen⟩ := selects.scanned
      obtain ⟨inside, here⟩ := List.getElem?_eq_some_iff.mp here
      refine ⟨⟨seen, parts, (List.eraseIdx_sublist _ _).trans chosen⟩,
        fun other hm => selects.uninvited other (List.mem_of_mem_eraseIdx hm), ?_,
        (Nat.sub_le _ _).trans selects.room⟩
      have perm := (List.getElem_cons_eraseIdx_perm inside).map fun g => (groups g).Players.length
      rw [here, List.map_cons] at perm
      have total := perm.sum_eq
      rw [List.sum_cons, ← selects.counted] at total
      dsimp only
      omega
    · exact selects
  · exact selects

lemma Selects.work_kickGroup (somebody : pool.PlayerCount ≠ 0) (size : ℕ) :
    (pool.kickGroup groups size).1.work rest < pool.work rest := by
  have some_ : pool.SelectedGroups ≠ [] := fun none_ => by
    rw [selects.counted, none_] at somebody
    exact somebody rfl
  have inside := groupToKick_lt
    (mt (List.map_eq_nil_iff (f := fun g => (groups g).Players.length)).mp some_) size
  rw [List.length_map] at inside
  unfold SelectionPool.kickGroup
  simp only [List.getElem?_eq_getElem inside, somebody, ne_eq, not_false_eq_true, if_true, work,
    List.length_eraseIdx_of_lt inside]
  omega

lemma work_kickGroup_le (size : ℕ) :
    (pool.kickGroup groups size).1.work rest ≤ pool.work rest := by
  by_cases none_ : pool.PlayerCount = 0
  · rw [kickGroup_of_empty none_]
  · exact (selects.work_kickGroup none_ size).le

def replaceGroup (groups : ℕ → GroupQueueInfo) (size desiredCount : ℕ) (pool : SelectionPool)
    (rest : List ℕ) : SelectionPool × List ℕ :=
  let (pool, again) := pool.kickGroup groups size
  if again then pool.addGroups groups desiredCount rest else (pool, rest)

lemma Selects.replaceGroup {desiredCount : ℕ} (size : ℕ) (bound : desiredCount ≤ free) :
    Selects groups queue free (pool.replaceGroup groups size desiredCount rest).1
      (pool.replaceGroup groups size desiredCount rest).2 := by
  unfold SelectionPool.replaceGroup
  dsimp only
  split
  · exact (selects.kickGroup size).addGroups bound
  · exact selects.kickGroup size

lemma Selects.work_replaceGroup (somebody : pool.PlayerCount ≠ 0) (size desiredCount : ℕ) :
    (pool.replaceGroup groups size desiredCount rest).1.work
      (pool.replaceGroup groups size desiredCount rest).2 < pool.work rest := by
  unfold SelectionPool.replaceGroup
  dsimp only
  split
  · exact (work_addGroups desiredCount).trans_lt (selects.work_kickGroup somebody size)
  · exact selects.work_kickGroup somebody size

end

lemma PlayerCount_replaceGroup_of_empty (none_ : pool.PlayerCount = 0) (size : ℕ) :
    (pool.replaceGroup groups size 0 rest).1.PlayerCount = 0 := by
  unfold SelectionPool.replaceGroup
  rw [kickGroup_of_empty none_]
  have nobody : (pool.addGroups groups 0 rest).1.PlayerCount ≤ max pool.PlayerCount 0 :=
    PlayerCount_addGroups_le 0
  simpa [none_] using nobody

end SelectionPool

/-! ### The balancing loop -/

namespace Filling

variable {free : Team → ℕ} {f f' : Filling} {queue : Team → List ℕ}

/-- The condition of the loop. -/
def Uneven (free : Team → ℕ) (f : Filling) : Prop :=
  1 < (f.diff free .alliance - f.diff free .horde).natAbs ∧
    (0 < (f.pools .horde).PlayerCount ∨ 0 < (f.pools .alliance).PlayerCount)

instance : Decidable (Uneven free f) := inferInstanceAs (Decidable (_ ∧ _))

def fuller (free : Team → ℕ) (f : Filling) : Team :=
  if f.diff free .alliance < f.diff free .horde then .alliance else .horde

def turn (groups : ℕ → GroupQueueInfo) (free : Team → ℕ) (f : Filling) : Filling × Bool :=
  let t := f.fuller free
  let size := (f.diff free t.other - f.diff free t).toNat
  let filled := (f.pools t).replaceGroup groups size (free t - f.diff free t.other).toNat (f.rest t)
  let f' : Filling := ⟨Function.update f.pools t filled.1, Function.update f.rest t filled.2⟩
  if filled.1.PlayerCount = 0 then
    if free t ≤ f.diff free t.other + 1 then (f', false)
    else
      let kicked := (f.pools t.other).kickGroup groups size
      ({ f' with pools := Function.update f'.pools t.other kicked.1 }, true)
  else (f', true)

lemma balance_succ (fuel : ℕ) :
    f.balance groups free (fuel + 1) =
      if Uneven free f then
        if (f.turn groups free).2 then (f.turn groups free).1.balance groups free fuel
        else (f.turn groups free).1
      else f := by
  refine if_congr Iff.rfl ?_ rfl
  unfold turn SelectionPool.replaceGroup fuller
  dsimp only
  split_ifs <;> first | rfl | tauto

/-- The loop, started in one filling, ends in another. -/
inductive Balances (groups : ℕ → GroupQueueInfo) (free : Team → ℕ) : Filling → Filling → Prop
  | exit {f : Filling} (even : ¬ Uneven free f) : Balances groups free f f
  | break_ {f : Filling} (uneven : Uneven free f) (breaks : (f.turn groups free).2 = false) :
      Balances groups free f (f.turn groups free).1
  | turn {f f' : Filling} (uneven : Uneven free f) (goesOn : (f.turn groups free).2 = true)
      (rest : Balances groups free (f.turn groups free).1 f') : Balances groups free f f'

def Selects (groups : ℕ → GroupQueueInfo) (queue : Team → List ℕ) (free : Team → ℕ)
    (f : Filling) : Prop :=
  ∀ t, (f.pools t).Selects groups (queue t) (free t) (f.rest t)

def work (f : Filling) : ℕ :=
  (f.pools .alliance).work (f.rest .alliance) + (f.pools .horde).work (f.rest .horde)

lemma work_eq (t : Team) :
    f.work = (f.pools t).work (f.rest t) + (f.pools t.other).work (f.rest t.other) := by
  cases t
  · rfl
  · exact Nat.add_comm _ _

lemma Selects.diff_nonneg (selects : f.Selects groups queue free) (t : Team) :
    0 ≤ f.diff free t := by
  have room := (selects t).room
  unfold diff
  omega

lemma Uneven.fuller_lt (uneven : Uneven free f) :
    f.diff free (f.fuller free) + 1 < f.diff free (f.fuller free).other := by
  have apart := uneven.1
  unfold fuller
  split_ifs with less
  · change f.diff free .alliance + 1 < f.diff free .horde
    omega
  · change f.diff free .horde + 1 < f.diff free .alliance
    omega

lemma turn_of_empty (uneven : Uneven free f)
    (none_ : (f.pools (f.fuller free)).PlayerCount = 0) : (f.turn groups free).2 = false := by
  have less := uneven.fuller_lt
  have all : f.diff free (f.fuller free) = free (f.fuller free) := by simp [diff, none_]
  have nobody : (free (f.fuller free) - f.diff free (f.fuller free).other).toNat = 0 := by omega
  unfold turn
  dsimp only
  rw [nobody, if_pos (SelectionPool.PlayerCount_replaceGroup_of_empty none_ _), if_pos (by omega)]

lemma Selects.turn (selects : f.Selects groups queue free) :
    (f.turn groups free).1.Selects groups queue free := by
  have nonneg := selects.diff_nonneg (f.fuller free).other
  have refilled := (selects (f.fuller free)).replaceGroup
    (f.diff free (f.fuller free).other - f.diff free (f.fuller free)).toNat
    (show (free (f.fuller free) - f.diff free (f.fuller free).other).toNat ≤ _ by omega)
  have kicked := (selects (f.fuller free).other).kickGroup
    (f.diff free (f.fuller free).other - f.diff free (f.fuller free)).toNat
  have others := selects (f.fuller free).other
  unfold Filling.turn
  dsimp only
  generalize f.fuller free = t at *
  split_ifs <;> intro t' <;> cases t <;> cases t' <;>
    simp_all [Team.other, Function.update]

lemma Selects.work_turn (selects : f.Selects groups queue free) (uneven : Uneven free f)
    (goesOn : (f.turn groups free).2 = true) : (f.turn groups free).1.work < f.work := by
  have somebody : (f.pools (f.fuller free)).PlayerCount ≠ 0 := fun none_ => by
    rw [turn_of_empty uneven none_] at goesOn
    exact Bool.false_ne_true goesOn
  have replaced := (selects (f.fuller free)).work_replaceGroup somebody
    (f.diff free (f.fuller free).other - f.diff free (f.fuller free)).toNat
    (free (f.fuller free) - f.diff free (f.fuller free).other).toNat
  have kicked := SelectionPool.work_kickGroup_le (selects (f.fuller free).other)
    (f.diff free (f.fuller free).other - f.diff free (f.fuller free)).toNat
  rw [work_eq (f.fuller free), work_eq (f := f) (f.fuller free)]
  have apart : (f.fuller free).other ≠ f.fuller free := by cases f.fuller free <;> decide
  unfold Filling.turn
  dsimp only
  generalize f.fuller free = t at *
  split_ifs <;> simp only [Function.update_self, Function.update_of_ne apart,
    Function.update_of_ne apart.symm] <;> omega

lemma Selects.balances (selects : f.Selects groups queue free) {fuel : ℕ}
    (enough : f.work < fuel) : Balances groups free f (f.balance groups free fuel) := by
  induction fuel generalizing f with
  | zero => omega
  | succ fuel ih =>
    rw [balance_succ]
    split_ifs with uneven goesOn
    · have less := selects.work_turn uneven goesOn
      exact .turn uneven goesOn (ih selects.turn (by omega))
    · exact .break_ uneven (Bool.not_eq_true _ ▸ goesOn)
    · exact .exit uneven

lemma Balances.selects (balances : Balances groups free f f')
    (selects : f.Selects groups queue free) : f'.Selects groups queue free := by
  induction balances with
  | exit => exact selects
  | break_ => exact selects.turn
  | turn _ _ _ ih => exact ih selects.turn

lemma turn_breaks (breaks : (f.turn groups free).2 = false) :
    (((f.turn groups free).1).pools (f.fuller free)).PlayerCount = 0 := by
  revert breaks
  unfold turn
  dsimp only
  split_ifs with nobody
  · intro _
    simpa only [Function.update_self] using nobody
  · simp
  · simp

lemma Balances.even (balances : Balances groups free f f') :
    (f'.diff free .alliance - f'.diff free .horde).natAbs ≤ 1 ∨
      ∃ t, (f'.pools t).PlayerCount = 0 := by
  induction balances with
  | @exit f even =>
    by_cases near : 1 < (f.diff free .alliance - f.diff free .horde).natAbs
    · refine .inr ⟨.horde, ?_⟩
      by_contra somebody
      exact even ⟨near, .inl (Nat.pos_of_ne_zero somebody)⟩
    · exact .inl (Nat.le_of_not_lt near)
  | break_ _ breaks => exact .inr ⟨_, turn_breaks breaks⟩
  | turn _ _ _ ih => exact ih

end Filling

/-! ### The whole function -/

namespace BattlegroundQueue

variable (q : BattlegroundQueue) (sv : Server) (bg : Battleground)
  (bracketId : BattlegroundBracketId)

def firstFilling : Filling where
  pools t := (SelectionPool.init.addGroups q.groups (bg.freeSlotsForTeam t)
    (q.m_QueuedGroups (bracketId, .normal t))).1
  rest t := (SelectionPool.init.addGroups q.groups (bg.freeSlotsForTeam t)
    (q.m_QueuedGroups (bracketId, .normal t))).2

lemma selects_firstFilling :
    (q.firstFilling bg bracketId).Selects q.groups
      (fun t => q.m_QueuedGroups (bracketId, .normal t)) bg.freeSlotsForTeam :=
  fun _ => (SelectionPool.selects_init _).addGroups le_rfl

lemma work_firstFilling_le :
    (q.firstFilling bg bracketId).work ≤
      2 * ((q.m_QueuedGroups (bracketId, .normal .alliance)).length +
        (q.m_QueuedGroups (bracketId, .normal .horde)).length) := by
  have used : ∀ t, ((q.firstFilling bg bracketId).pools t).work
      ((q.firstFilling bg bracketId).rest t) ≤
        SelectionPool.init.work (q.m_QueuedGroups (bracketId, .normal t)) :=
    fun t => SelectionPool.work_addGroups (bg.freeSlotsForTeam t)
  have alliance := used .alliance
  have horde := used .horde
  rw [Filling.work, mul_add]
  simp only [SelectionPool.work, SelectionPool.init, List.length_nil] at *
  omega

def players (selected : List ℕ) : ℕ := (selected.map fun g => (q.groups g).Players.length).sum

/-- What is selected to fill a running battleground. -/
structure Fills (pools : Team → SelectionPool) : Prop where
  ends : ∃ rest, if sv.invitationType = 0 then ⟨pools, rest⟩ = q.firstFilling bg bracketId
    else Filling.Balances q.groups bg.freeSlotsForTeam (q.firstFilling bg bracketId) ⟨pools, rest⟩
  places : ∀ t, (pools t).SelectedGroups.Sublist (q.m_QueuedGroups (bracketId, .normal t))
  once : (q.m_QueuedGroups (bracketId, .normal .alliance) ++
      q.m_QueuedGroups (bracketId, .normal .horde)).Nodup →
    ((pools .alliance).SelectedGroups ++ (pools .horde).SelectedGroups).Nodup
  uninvited : ∀ t, ∀ g ∈ (pools t).SelectedGroups, (q.groups g).uninvited = true
  counted : ∀ t, (pools t).PlayerCount = q.players (pools t).SelectedGroups
  room : ∀ t, q.players (pools t).SelectedGroups ≤ bg.freeSlotsForTeam t
  even : sv.invitationType ≠ 0 →
    ((bg.freeSlotsForTeam .alliance - q.players (pools .alliance).SelectedGroups : ℤ) -
        (bg.freeSlotsForTeam .horde - q.players (pools .horde).SelectedGroups)).natAbs ≤ 1 ∨
      ∃ t, q.players (pools t).SelectedGroups = 0 ∧
        ((∀ g ∈ q.m_QueuedGroups (bracketId, .normal t), (q.groups g).Players ≠ []) →
          (pools t).SelectedGroups = [])

lemma eq_nil_of_players {selected queue : List ℕ} (chosen : selected.Sublist queue)
    (nobody : q.players selected = 0) (somebody : ∀ g ∈ queue, (q.groups g).Players ≠ []) :
    selected = [] := by
  refine List.eq_nil_iff_forall_not_mem.mpr fun g hm => ?_
  have none_ := List.sum_eq_zero_iff_forall_eq_nat.mp nobody _ (List.mem_map_of_mem hm)
  exact somebody g (chosen.subset hm) (List.length_eq_zero_iff.mp none_)

lemma Fills.of_selects {last : Filling}
    (ends : if sv.invitationType = 0 then last = q.firstFilling bg bracketId
      else Filling.Balances q.groups bg.freeSlotsForTeam (q.firstFilling bg bracketId) last)
    (selects : last.Selects q.groups (fun t => q.m_QueuedGroups (bracketId, .normal t))
      bg.freeSlotsForTeam) : q.Fills sv bg bracketId last.pools := by
  have places : ∀ t, (last.pools t).SelectedGroups.Sublist
      (q.m_QueuedGroups (bracketId, .normal t)) := fun t => by
    obtain ⟨seen, parts, chosen⟩ := (selects t).scanned
    dsimp only at parts
    rw [← parts]
    exact chosen.trans (List.sublist_append_left seen _)
  have counted : ∀ t, (last.pools t).PlayerCount = q.players (last.pools t).SelectedGroups :=
    fun t => (selects t).counted
  exact {
    ends := ⟨last.rest, ends⟩
    places := places
    once := fun distinct => distinct.sublist ((places .alliance).append (places .horde))
    uninvited := fun t => (selects t).uninvited
    counted := counted
    room := fun t => counted t ▸ (selects t).room
    even := fun balanced => by
      rw [if_neg balanced] at ends
      refine ends.even.imp (fun near => ?_) fun ⟨t, nobody⟩ => ⟨t, ?_, ?_⟩
      · simpa only [Filling.diff, counted] using near
      · rwa [← counted]
      · exact q.eq_nil_of_players (places t) (counted t ▸ nobody) }

/-- Whatever stands in the queues, whatever room there is and however players are invited: the
function ends and selects groups of the queue that are not invited yet, none of them twice and no
more players than find room; with balanced invitations both teams keep about the same room or one
of the pools is empty. -/
theorem fillPlayersToBG_fills :
    q.Fills sv bg bracketId (q.initPools.fillPlayersToBG sv bg bracketId).m_SelectionPools := by
  have first := q.selects_firstFilling bg bracketId
  unfold fillPlayersToBG
  split_ifs with all
  · exact Fills.of_selects q sv bg bracketId (if_pos all ▸ rfl) first
  · have balances := first.balances (Nat.lt_succ_of_le (q.work_firstFilling_le bg bracketId))
    exact Fills.of_selects q sv bg bracketId (by rw [if_neg all]; exact balances)
      (balances.selects first)

end BattlegroundQueue

end WorldServer.Battlegrounds
