import WorldServer.Combat.ThreatLists

/-!
# The order of the threat list

The online container is sorted when it is read, if it is marked dirty. A threat that changes
marks it only when the current victim loses or another reference gains threat, and a reference
that comes back marks it only when it overtakes the current victim. With threat taken as exact
numbers, the list is read in order along a run if and only if every change that leaves no mark
stays in its place.
-/
namespace WorldServer.Combat

open WorldServer.Lib

namespace ThreatManager

variable {s s' : ThreatManager ℚ} {p : ℕ} {t : ℚ}

/-- By non-increasing threat. -/
def Descending (s : ThreatManager ℚ) : Prop :=
  s.iThreatContainer.iThreatList.Pairwise fun a b => s.threatOf b ≤ s.threatOf a

/-- With the threat `t` the reference would be where it is in the list. -/
def StaysInPlace (s : ThreatManager ℚ) (ref : ℕ) (t : ℚ) : Prop :=
  ∀ before after, s.iThreatContainer.iThreatList = before ++ ref :: after →
    (∀ q ∈ before, t ≤ s.threatOf q) ∧ ∀ q ∈ after, s.threatOf q ≤ t

/-- With the threat `t` the last place of the list is the right one. -/
def Lowest (s : ThreatManager ℚ) (t : ℚ) : Prop :=
  ∀ q ∈ s.iThreatContainer.iThreatList, t ≤ s.threatOf q

def Overtaken (s : ThreatManager ℚ) (t : ℚ) : Prop :=
  ∃ victim ∈ s.iCurrentVictim, tenths 11 * s.threatOf victim < t

/-- The list is marked, or it needs no mark. -/
def InOrder (s : ThreatManager ℚ) : Prop := s.iThreatContainer.iDirty = true ∨ s.Descending

lemma update_descending_iff (s : ThreatManager ℚ) : s.update.Descending ↔ s.InOrder := by
  have threats : ∀ q, s.update.threatOf q = s.threatOf q := fun _ => rfl
  unfold Descending InOrder
  simp only [threats]
  cases dirty : s.iThreatContainer.iDirty with
  | false => simp [update, dirty, Descending]
  | true =>
    simp only [true_or, iff_true]
    by_cases several : 1 < s.iThreatContainer.iThreatList.length
    · have total : Std.Total fun a b => ¬ s.threatOf a < s.threatOf b :=
        ⟨fun a b => by simpa only [not_lt] using le_total (s.threatOf b) (s.threatOf a)⟩
      have trans : IsTrans ℕ fun a b => ¬ s.threatOf a < s.threatOf b :=
        ⟨fun a b c first second => not_lt.mpr ((not_lt.mp second).trans (not_lt.mp first))⟩
      have sorted := List.pairwise_insertionSort (fun a b => ¬ s.threatOf a < s.threatOf b)
        s.iThreatContainer.iThreatList
      simpa [update, dirty, several] using sorted
    · simp only [update, dirty, several, and_false, if_false]
      match list : s.iThreatContainer.iThreatList with
      | [] => exact List.Pairwise.nil
      | [_] => exact List.pairwise_singleton _ _
      | _ :: _ :: _ => simp [list] at several

/-! ### One change -/

/-- A list stays in order with another threat for one of its references if and only if that one
stays in its place. -/
lemma pairwise_update_iff {list : List ℕ} {threat threat' : ℕ → ℚ} (nodup : list.Nodup)
    (descending : list.Pairwise fun a b => threat b ≤ threat a) (listed : p ∈ list)
    (here : threat' p = t) (other : ∀ q, q ≠ p → threat' q = threat q) :
    (list.Pairwise fun a b => threat' b ≤ threat' a) ↔
      ∀ before after, list = before ++ p :: after →
        (∀ q ∈ before, t ≤ threat q) ∧ ∀ q ∈ after, threat q ≤ t := by
  obtain ⟨before, after, rfl⟩ := List.append_of_mem listed
  have apart : p ∉ before ∧ p ∉ after := by
    have split := List.nodup_middle.mp nodup
    simpa using (List.nodup_cons.mp split).1
  have hs : ∀ q, q ∈ before ∨ q ∈ after → threat' q = threat q := fun q hm =>
    other q fun is => hm.elim (fun inside => apart.1 (is ▸ inside)) fun inside =>
      apart.2 (is ▸ inside)
  obtain ⟨front, back, across⟩ := List.pairwise_append.mp descending
  obtain ⟨-, rest⟩ := List.pairwise_cons.mp back
  constructor
  · intro pairwise before' after' split
    obtain ⟨rfl, -, rfl⟩ := (List.append_cons_inj_of_notMem apart.1 apart.2).mp split
    obtain ⟨-, back', across'⟩ := List.pairwise_append.mp pairwise
    refine ⟨fun q hm => ?_, fun q hm => ?_⟩
    · rw [← hs q (Or.inl hm), ← here]
      exact across' q hm p List.mem_cons_self
    · rw [← hs q (Or.inr hm), ← here]
      exact (List.pairwise_cons.mp back').1 q hm
  · intro stays
    obtain ⟨above, below⟩ := stays before after rfl
    refine List.pairwise_append.mpr ⟨?_, List.pairwise_cons.mpr ⟨?_, ?_⟩, ?_⟩
    · exact front.imp_of_mem fun {a b} inA inB le => by
        rwa [hs a (Or.inl inA), hs b (Or.inl inB)]
    · intro q hm
      rw [here, hs q (Or.inr hm)]
      exact below q hm
    · exact rest.imp_of_mem fun {a b} inA inB le => by
        rwa [hs a (Or.inr inA), hs b (Or.inr inB)]
    · intro q hm r memberR
      rcases List.mem_cons.mp memberR with rfl | memberR
      · rw [here, hs q (Or.inl hm)]
        exact above q hm
      · rw [hs q (Or.inl hm), hs r (Or.inr memberR)]
        exact across q hm r (List.mem_cons_of_mem _ memberR)

/-- One more reference at the end keeps a list in order if and only if it has the lowest threat. -/
lemma pairwise_append_iff {list : List ℕ} {threat threat' : ℕ → ℚ}
    (descending : list.Pairwise fun a b => threat b ≤ threat a) (here : threat' p = t)
    (inside : ∀ q ∈ list, threat' q = threat q) :
    ((list ++ [p]).Pairwise fun a b => threat' b ≤ threat' a) ↔ ∀ q ∈ list, t ≤ threat q := by
  rw [List.pairwise_append]
  constructor
  · intro split q hm
    rw [← inside q hm, ← here]
    exact split.2.2 q hm p (List.mem_singleton_self p)
  · intro lowest
    refine ⟨descending.imp_of_mem fun {a b} inA inB le => ?_, List.pairwise_singleton _ _, ?_⟩
    · rwa [inside a inA, inside b inB]
    · intro q hm r last
      rw [List.mem_singleton.mp last, here, inside q hm]
      exact lowest q hm

/-- Links and accessibility may differ. -/
structure SameOrder (s s' : ThreatManager ℚ) : Prop extends SameLists s s' where
  dirty : s'.iThreatContainer.iDirty = s.iThreatContainer.iDirty
  threat : ∀ q, s'.threatOf q = s.threatOf q

lemma SameOrder.inOrder (hs : SameOrder s s') : s'.InOrder ↔ s.InOrder := by
  simp only [InOrder, Descending, hs.dirty, hs.online, hs.threat]

lemma modifyRef_sameOrder (s : ThreatManager ℚ) (ref : ℕ)
    {f : HostileReference ℚ → HostileReference ℚ} (guid : ∀ r, (f r).iUnitGuid = r.iUnitGuid)
    (state : ∀ r, (f r).iOnline = r.iOnline) (threat : ∀ r, (f r).iThreat = r.iThreat) :
    SameOrder s (s.modifyRef ref f) := by
  refine ⟨modifyRef_same s ref guid state, rfl, fun q => ?_⟩
  by_cases here : q = ref <;> simp [threatOf, refs_modifyRef, here, threat]

lemma SameOrder.trans {s₁ s₂ s₃ : ThreatManager ℚ} (first : SameOrder s₁ s₂)
    (second : SameOrder s₂ s₃) : SameOrder s₁ s₃ :=
  ⟨first.toSameLists.trans second.toSameLists, second.dirty.trans first.dirty,
    fun q => (second.threat q).trans (first.threat q)⟩

lemma setAccessibleState_sameOrder (s : ThreatManager ℚ) (ref : ℕ) (isAccessible : Bool) :
    SameOrder s (HostileReference.setAccessibleState s ref isAccessible) := by
  unfold HostileReference.setAccessibleState
  split
  · exact modifyRef_sameOrder (f := fun r => { r with iAccessible := isAccessible }) s ref
      (fun _ => rfl) (fun _ => rfl) fun _ => rfl
  · exact ⟨SameLists.refl s, rfl, fun _ => rfl⟩

/-! ### A reference comes online -/

/-- A reference that comes online leaves the list marked or in order. -/
def ReturnsInOrder (s : ThreatManager ℚ) (ref : ℕ) (isOnline : Bool) : Prop :=
  isOnline = true → (s.refs ref).iOnline = false →
    s.iThreatContainer.iDirty = true ∨ s.Overtaken (s.threatOf ref) ∨ s.Lowest (s.threatOf ref)

lemma inOrder_setOnlineOfflineState (held : s.InOrder) (isOnline : Bool) :
    (HostileReference.setOnlineOfflineState s p isOnline).InOrder ↔
      s.ReturnsInOrder p isOnline := by
  by_cases hs : (s.refs p).iOnline = isOnline
  · rw [setOnlineOfflineState_same hs]
    exact iff_of_true held fun on off => by simp [hs, on] at off
  cases isOnline with
  | false =>
    have threats : ∀ q, ((s.modifyRef p fun r => { r with iOnline := false, iAccessible := false }
        ).refs q).iThreat = s.threatOf q := fun q => by
      by_cases here : q = p <;> simp [refs_modifyRef, here, threatOf]
    rw [setOffline_eq (by simpa using hs)]
    refine iff_of_true ?_ fun on => absurd on Bool.false_ne_true
    rcases held with dirty | descending
    · exact Or.inl (by simp [dirty])
    · right
      unfold Descending threatOf
      simp only [threats]
      exact descending.filter _
  | true =>
    have threats : ∀ q, ((s.modifyRef p fun r => { r with iOnline := true }).refs q).iThreat =
        s.threatOf q := fun q => by
      by_cases here : q = p <;> simp [refs_modifyRef, here, threatOf]
    have offline : (s.refs p).iOnline = false := by simpa using hs
    rw [setOnline_eq offline]
    unfold ReturnsInOrder InOrder Descending threatOf
    simp only [threats, Bool.or_eq_true, decide_eq_true_eq, offline, forall_const, or_assoc]
    cases dirty : s.iThreatContainer.iDirty with
    | true => simp
    | false =>
      have descending : s.Descending := held.resolve_left (by simp [dirty])
      exact or_congr Iff.rfl (or_congr Iff.rfl
        (pairwise_append_iff descending rfl fun _ _ => rfl))

end ThreatManager

def World.finds (w : World ℚ) (r : HostileReference ℚ) : Bool :=
  (r.isValid || w.getUnit r.iUnitGuid) && (w.reachable r.iUnitGuid).1

namespace ThreatManager

variable {s s' : ThreatManager ℚ} {p : ℕ} {t : ℚ} {w : World ℚ}

lemma updateOnlineStatus_eq (w : World ℚ) (s : ThreatManager ℚ) (p : ℕ) :
    ∃ s', SameOrder s s' ∧ HostileReference.updateOnlineStatus w s p =
      HostileReference.setOnlineOfflineState s' p (w.finds (s.refs p)) := by
  have linked := modifyRef_sameOrder (f := fun r => { r with
    isValid := r.isValid || w.getUnit (s.refs p).iUnitGuid }) s p (fun _ => rfl) (fun _ => rfl)
    fun _ => rfl
  have marked := setAccessibleState_sameOrder (s.modifyRef p fun r => { r with
    isValid := r.isValid || w.getUnit (s.refs p).iUnitGuid }) p
    (if (s.refs p).isValid || w.getUnit (s.refs p).iUnitGuid then
      w.reachable (s.refs p).iUnitGuid else (false, false)).2
  refine ⟨_, linked.trans marked, ?_⟩
  unfold HostileReference.updateOnlineStatus World.finds
  simp only [refs_modifyRef, if_true]
  cases (s.refs p).isValid || w.getUnit (s.refs p).iUnitGuid with
  | true => simp
  | false => simp

lemma SameOrder.returnsInOrder (hs : SameOrder s s') (isOnline : Bool) :
    s'.ReturnsInOrder p isOnline ↔ s.ReturnsInOrder p isOnline := by
  simp only [ReturnsInOrder, Overtaken, Lowest, hs.state, hs.dirty, hs.threat, hs.victim,
    hs.online]

lemma inOrder_updateOnlineStatus (held : s.InOrder) :
    (HostileReference.updateOnlineStatus w s p).InOrder ↔
      s.ReturnsInOrder p (w.finds (s.refs p)) := by
  obtain ⟨s', hs, moved⟩ := updateOnlineStatus_eq w s p
  rw [moved, inOrder_setOnlineOfflineState (hs.inOrder.mpr held), hs.returnsInOrder]

/-! ### Threat is added -/

/-- Threat added to a reference leaves the list marked or in order: the event marks it, the
reference stays in its place, or it comes back and is marked or last. -/
def AddsInOrder (w : World ℚ) (s : ThreatManager ℚ) (ref : ℕ) (modThreat : ℚ) : Prop :=
  s.iThreatContainer.iDirty = true ∨
    if (s.refs ref).iOnline then
      s.marks ref modThreat ∨ s.StaysInPlace ref (s.threatOf ref + modThreat)
    else w.finds (s.refs ref) = true →
      0 < modThreat ∨ s.Overtaken (s.threatOf ref + modThreat) ∨
        s.Lowest (s.threatOf ref + modThreat)

lemma inOrder_threatChange (s : ThreatManager ℚ) (ref : ℕ) (modThreat : ℚ) :
    (if modThreat != 0 then s.processThreatEvent (.threatChange ref modThreat) else s).InOrder ↔
      s.InOrder ∨ s.marks ref modThreat := by
  have nonzero : s.marks ref modThreat → modThreat ≠ 0 := by
    rintro (⟨-, neg⟩ | ⟨-, pos⟩)
    · exact neg.ne
    · exact pos.ne'
  by_cases marks : s.marks ref modThreat
  · simp [nonzero marks, processThreatEvent, marks, InOrder, setDirty]
  · simp [processThreatEvent, marks]

lemma threatOf_added (s : ThreatManager ℚ) (ref q : ℕ) (modThreat : ℚ) :
    (s.modifyRef ref fun r => { r with iThreat := r.iThreat + modThreat }).threatOf q =
      if q = ref then s.threatOf ref + modThreat else s.threatOf q := by
  by_cases here : q = ref <;> simp [threatOf, refs_modifyRef, here]

/-- What stands in the list is judged by the same threats when one outside gains some. -/
lemma outside_congr (kept : s.ListsKept) (state : (s.refs p).iOnline = false)
    (hs : SameLists s s') (threats : ∀ q, q ≠ p → s'.threatOf q = s.threatOf q) :
    (s'.Descending ↔ s.Descending) ∧ (∀ t, s'.Lowest t ↔ s.Lowest t) ∧
      ∀ t, s'.Overtaken t ↔ s.Overtaken t := by
  have inside : ∀ q ∈ s.iThreatContainer.iThreatList, s'.threatOf q = s.threatOf q := by
    intro q hm
    refine threats q fun here => ?_
    have online := ((kept.mem_online q).mp hm).2
    rw [here, state] at online
    exact Bool.false_ne_true online
  refine ⟨?_, fun t => ?_, fun t => ?_⟩
  · unfold Descending
    rw [hs.online]
    exact List.Pairwise.iff_of_mem fun {a b} inA inB => by rw [inside a inA, inside b inB]
  · unfold Lowest
    rw [hs.online]
    exact forall₂_congr fun q hm => by rw [inside q hm]
  · unfold Overtaken
    rw [hs.victim]
    refine exists_congr fun victim => and_congr_right fun current => ?_
    rw [inside victim (kept.victim victim current)]

lemma inOrder_addThreat (kept : s.ListsKept) (held : s.InOrder) (hm : p ∈ s.live)
    (modThreat : ℚ) : (HostileReference.addThreat w s p modThreat).1.InOrder ↔
      AddsInOrder w s p modThreat := by
  unfold HostileReference.addThreat AddsInOrder
  simp only
  have added := modifyRef_same (f := fun r => { r with iThreat := r.iThreat + modThreat }) s p
    (fun _ => rfl) fun _ => rfl
  have threats := fun q => threatOf_added s p q modThreat
  have dirty : (s.modifyRef p fun r => { r with iThreat := r.iThreat + modThreat }
    ).iThreatContainer.iDirty = s.iThreatContainer.iDirty := rfl
  have finds : w.finds ((s.modifyRef p fun r => { r with iThreat := r.iThreat + modThreat }).refs p)
      = w.finds (s.refs p) := by simp [refs_modifyRef, World.finds]
  generalize s.modifyRef p _ = s₁ at added threats dirty finds ⊢
  have here : s₁.threatOf p = s.threatOf p + modThreat := by rw [threats, if_pos rfl]
  have other : ∀ q, q ≠ p → s₁.threatOf q = s.threatOf q := fun q apart => by
    rw [threats, if_neg apart]
  rw [inOrder_threatChange]
  cases state : (s.refs p).iOnline with
  | true =>
    have marks : s₁.marks p modThreat ↔ s.marks p modThreat := by
      simp only [ThreatManager.marks, added.victim]
    have place : s₁.InOrder ↔ s.iThreatContainer.iDirty = true ∨
        s.StaysInPlace p (s.threatOf p + modThreat) := by
      cases mark : s.iThreatContainer.iDirty with
      | true => simp [InOrder, dirty, mark]
      | false =>
        have descending : s.Descending := held.resolve_left (by simp [mark])
        simp only [InOrder, dirty, mark, Bool.false_eq_true, false_or]
        unfold Descending
        rw [added.online]
        exact pairwise_update_iff kept.onlineNodup descending
          ((kept.mem_online p).mpr ⟨hm, state⟩) here other
    simp only [added.state, state, if_true, marks, place]
    tauto
  | false =>
    obtain ⟨descends, lowest, overtaken⟩ := outside_congr kept state added other
    have held₁ : s₁.InOrder := by rwa [InOrder, dirty, descends]
    obtain ⟨s₂, hs, moved⟩ := updateOnlineStatus_eq w s₁ p
    have notVictim : (HostileReference.updateOnlineStatus w s₁ p).iCurrentVictim ≠ some p := by
      intro current
      rw [moved] at current
      have before : s₂.iCurrentVictim = some p := by
        by_cases stays : (s₂.refs p).iOnline = w.finds (s₁.refs p)
        · rwa [setOnlineOfflineState_same stays] at current
        · exact ((setOnlineOfflineState_moved stays).victim p current).1
      rw [hs.victim, added.victim] at before
      have online := ((kept.mem_online p).mp (kept.victim p before)).2
      rw [state] at online
      exact Bool.false_ne_true online
    have marks : (HostileReference.updateOnlineStatus w s₁ p).marks p modThreat ↔ 0 < modThreat := by
      simp [ThreatManager.marks, notVictim]
    simp only [added.state, state, Bool.false_eq_true, if_false, marks,
      inOrder_updateOnlineStatus held₁, finds, ReturnsInOrder, dirty, here, lowest, overtaken,
      forall_const]
    tauto

/-! ### The other functions -/

/-- A new reference with some threat leaves the list marked or in order. -/
def EntersInOrder (s : ThreatManager ℚ) (threat : ℚ) : Prop :=
  s.iThreatContainer.iDirty = true ∨ 0 < threat ∨ s.Lowest threat

lemma threatOf_newReference (s : ThreatManager ℚ) (victim : UInt64) (q : ℕ) :
    (s.newReference victim).threatOf q = if q = s.newRef then 0 else s.threatOf q := by
  by_cases here : q = s.newRef
  · subst here
    simp [threatOf, newReference]
  · simp [threatOf, newReference, here]

lemma inOrder_newReference (kept : s.ListsKept) (held : s.InOrder) (victim : UInt64)
    (threat : ℚ) :
    (HostileReference.addThreat w (s.newReference victim) s.newRef threat).1.InOrder ↔
      s.EntersInOrder threat := by
  have fresh : s.newRef ∉ s.iThreatContainer.iThreatList := fun listed =>
    (kept.allocated _ ((kept.mem_online _).mp listed).1).false
  have notVictim : s.iCurrentVictim ≠ some s.newRef := fun current =>
    fresh (kept.victim _ current)
  unfold HostileReference.addThreat
  have threats := fun q => threatOf_added (s.newReference victim) s.newRef q threat
  have online : (((s.newReference victim).modifyRef s.newRef fun r =>
      { r with iThreat := r.iThreat + threat }).refs s.newRef).iOnline = true := by
    simp [refs_modifyRef, newReference]
  have list : ((s.newReference victim).modifyRef s.newRef fun r =>
      { r with iThreat := r.iThreat + threat }).iThreatContainer =
      ⟨s.iThreatContainer.iThreatList ++ [s.newRef], s.iThreatContainer.iDirty⟩ := rfl
  have current : ((s.newReference victim).modifyRef s.newRef fun r =>
      { r with iThreat := r.iThreat + threat }).iCurrentVictim = s.iCurrentVictim := rfl
  generalize (s.newReference victim).modifyRef s.newRef _ = s₁ at threats online list current ⊢
  have here : s₁.threatOf s.newRef = threat := by
    rw [threats, if_pos rfl, threatOf_newReference, if_pos rfl, zero_add]
  have inside : ∀ q ∈ s.iThreatContainer.iThreatList, s₁.threatOf q = s.threatOf q := by
    intro q hm
    have apart : q ≠ s.newRef := fun hs => fresh (hs ▸ hm)
    rw [threats, if_neg apart, threatOf_newReference, if_neg apart]
  have marks : s₁.marks s.newRef threat ↔ 0 < threat := by
    simp [ThreatManager.marks, current, notVictim]
  rw [inOrder_threatChange, if_pos online, marks, EntersInOrder]
  cases mark : s.iThreatContainer.iDirty with
  | true => simp [InOrder, list, mark]
  | false =>
    have descending : s.Descending := held.resolve_left (by simp [mark])
    have last := pairwise_append_iff descending here inside
    simp only [InOrder, Descending, list, mark, Bool.false_eq_true, false_or, last, Lowest]
    tauto

lemma inOrder_removeReference (held : s.InOrder) :
    (HostileReference.removeReference s p).InOrder := by
  have offline : (HostileReference.setOnlineOfflineState s p false).InOrder :=
    (inOrder_setOnlineOfflineState held false).mpr fun on => absurd on Bool.false_ne_true
  unfold HostileReference.removeReference
  dsimp only
  generalize HostileReference.setOnlineOfflineState s p false = s₁ at offline ⊢
  have cut := modifyRef_sameOrder (f := fun r => { r with isValid := false }) s₁ p
    (fun _ => rfl) (fun _ => rfl) fun _ => rfl
  have held₂ := cut.inOrder.mpr offline
  generalize s₁.modifyRef p _ = s₂ at held₂ ⊢
  have left : (s₂.leave p).InOrder := by
    unfold leave
    split
    · exact Or.inl rfl
    · exact held₂
  unfold processThreatEvent
  dsimp only
  generalize s₂.leave p = s₃ at left ⊢
  split
  · rcases left with dirty | descending
    · exact Or.inl dirty
    · exact Or.inr (descending.filter _)
  · exact left

lemma inOrder_getHostilTarget (held : s.InOrder) : (s.getHostilTarget w).InOrder :=
  Or.inr ((update_descending_iff s).mpr held)

lemma inOrder_tauntApply (kept : s.ListsKept) (held : s.InOrder) (taunter : UInt64) :
    (s.tauntApply w taunter).1.InOrder := by
  unfold tauntApply
  split
  next victim ref current found =>
    split
    next below =>
      have listed := (kept.mem_online ref).mp (getReferenceByTarget_some found).1
      have stored := modifyRef_sameOrder (f := fun r => { r with
        iTempThreatModifier := s.threatOf victim - s.threatOf ref }) s ref (fun _ => rfl)
        (fun _ => rfl) fun _ => rfl
      unfold HostileReference.setTempThreat
      dsimp only
      generalize s.modifyRef ref _ = s₁ at stored ⊢
      have held₁ := stored.inOrder.mpr held
      split
      · refine (inOrder_addThreat (kept.same stored.toSameLists) held₁
          (stored.live ▸ listed.1) _).mpr (Or.inr ?_)
        rw [if_pos ((stored.state ref).trans listed.2)]
        refine Or.inl (Or.inr ⟨?_, sub_pos.mpr below.1⟩)
        rw [stored.victim, current]
        rintro ⟨⟩
        exact below.1.false
      · exact held₁
    · exact held
  · exact held

end ThreatManager

open ThreatManager

/-! ### Runs -/

def Call.marksDirty : Call ℚ → Bool
  | .setDirty | .resetAllAggro _ => true
  | _ => false

/-- What a request must meet for the list to be in order after it. The requests that are not
named leave the order alone or mark the list. -/
def Request.KeepsOrder (w : World ℚ) (s : ThreatManager ℚ) : Request ℚ → Prop
  | .modifyThreatPercent victim percent =>
    ∀ ref ∈ s.getReferenceByTarget s.iThreatContainer victim,
      AddsInOrder w s ref (calculatePct (s.threatOf ref) (percent.toInt : ℚ))
  | .addThreatPercent ref percent =>
    AddsInOrder w s ref (calculatePct (s.threatOf ref) (percent.toInt : ℚ))
  | .tauntFadeOut taunter =>
    ∀ ref ∈ s.getReferenceByTarget s.iThreatContainer taunter,
      (s.refs ref).iTempThreatModifier ≠ 0 → AddsInOrder w s ref (-(s.refs ref).iTempThreatModifier)
  | .updateOnlineStatus ref => s.ReturnsInOrder ref (w.finds (s.refs ref))
  | .setOnlineOfflineState ref isOnline => s.ReturnsInOrder ref isOnline
  | _ => True

/-- What a call must meet for the list to be in order after it. -/
def Call.KeepsOrder (w : World ℚ) (s : ThreatManager ℚ) : Call ℚ → Prop
  | ._addThreat victim threat =>
    match s.getReferenceByTarget s.iThreatContainer victim,
      s.getReferenceByTarget s.iThreatOfflineContainer victim with
    | some ref, _ => AddsInOrder w s ref threat
    | none, some ref => AddsInOrder w s ref threat
    | none, none => s.EntersInOrder threat
  | .setOnlineOfflineState ref isOnline => s.ReturnsInOrder ref isOnline
  | _ => True

lemma addThreatPercent_eq (w : World ℚ) (s : ThreatManager ℚ) (ref : ℕ) (percent : Int32) :
    HostileReference.addThreatPercent w s ref percent =
      HostileReference.addThreat w s ref (calculatePct (s.threatOf ref) (percent.toInt : ℚ)) :=
  congrArg (HostileReference.addThreat w s ref) (add_sub_cancel_left _ _)

variable {s : ThreatManager ℚ} {w : World ℚ}

lemma unmarked_ownerThreat (w : World ℚ) (s : ThreatManager ℚ) (ref : ℕ) (modThreat : ℚ) :
    ∀ c ∈ HostileReference.ownerThreat w s ref modThreat, c.marksDirty = false := by
  intro c hm
  unfold HostileReference.ownerThreat at hm
  split at hm
  · split at hm
    · split at hm
      · rw [List.mem_singleton.mp hm]
        rfl
      · exact absurd hm List.not_mem_nil
    · exact absurd hm List.not_mem_nil
  · exact absurd hm List.not_mem_nil

/-- What is left of a call or request is in order, or a call that is left marks the list. -/
def Result.OrderHeld (r : Result ℚ) : Prop :=
  (∃ c ∈ r.2, c.marksDirty = true) ∨ r.1.InOrder

lemma orderHeld_iff {r : Result ℚ} (unmarked : ∀ c ∈ r.2, c.marksDirty = false) :
    r.OrderHeld ↔ r.1.InOrder := by
  have none_ : ¬ ∃ c ∈ r.2, c.marksDirty = true := by
    rintro ⟨c, hm, marks⟩
    rw [unmarked c hm] at marks
    exact Bool.false_ne_true marks
  simp [Result.OrderHeld, none_]

lemma orderHeld_andThen {r : Result ℚ} {c : Call ℚ} (unmarked : c.marksDirty = false) :
    Result.OrderHeld (r.1, r.2 ++ [c]) ↔ r.OrderHeld := by
  simp [Result.OrderHeld, or_and_right, exists_or, unmarked]

lemma orderHeld_silent (s : ThreatManager ℚ) : Result.OrderHeld (s, []) ↔ s.InOrder :=
  orderHeld_iff fun _ hm => absurd hm List.not_mem_nil

lemma orderHeld_addThreat (kept : s.ListsKept) (held : s.InOrder) {ref : ℕ}
    (hm : ref ∈ s.live) (modThreat : ℚ) :
    (HostileReference.addThreat w s ref modThreat).OrderHeld ↔ AddsInOrder w s ref modThreat := by
  rw [orderHeld_iff (unmarked_ownerThreat w _ ref modThreat)]
  exact inOrder_addThreat kept held hm modThreat

lemma orderHeld_resetTempThreat (kept : s.ListsKept) (held : s.InOrder) {ref : ℕ}
    (hm : ref ∈ s.live) : (HostileReference.resetTempThreat w s ref).OrderHeld ↔
      ((s.refs ref).iTempThreatModifier ≠ 0 →
        AddsInOrder w s ref (-(s.refs ref).iTempThreatModifier)) := by
  unfold HostileReference.resetTempThreat
  by_cases unused : (s.refs ref).iTempThreatModifier = 0
  · simp [unused, orderHeld_silent, held]
  · rw [if_pos (by simpa using unused)]
    refine (orderHeld_andThen rfl).trans ?_
    simpa [unused] using orderHeld_addThreat kept held hm (-(s.refs ref).iTempThreatModifier)

lemma orderHeld_doAddThreat (held : s.InOrder) (victim : UInt64) (threat : ℚ) :
    (s.doAddThreat w victim threat).OrderHeld := by
  unfold doAddThreat
  dsimp only
  split
  · split <;> exact Or.inr held
  · exact Or.inr held

lemma orderHeld_valid (held : s.InOrder) (victim : UInt64) (threat : ℚ) (schoolMask : UInt32)
    (threatSpell : Option (ThreatSpell ℚ)) :
    (s.addThreat w victim threat schoolMask threatSpell).OrderHeld := by
  unfold ThreatManager.addThreat
  split
  · exact orderHeld_doAddThreat held victim _
  · exact Or.inr held

/-- A request leaves the list in order, or a call that will mark it, if and only if it meets what
is asked of it. -/
lemma orderHeld_serve (kept : s.ListsKept) (held : s.InOrder) (r : Request ℚ)
    (addressed : ∀ ref ∈ r.ref, ref ∈ s.live) :
    (r.serve w s).OrderHeld ↔ r.KeepsOrder w s := by
  cases r with
  | addThreat victim threat schoolMask threatSpell =>
    exact iff_of_true (orderHeld_valid held victim threat schoolMask threatSpell) trivial
  | doAddThreat victim threat => exact iff_of_true (orderHeld_doAddThreat held victim threat) trivial
  | modifyThreatPercent victim percent =>
    simp only [Request.serve, modifyThreatPercent, Request.KeepsOrder]
    cases hf : s.getReferenceByTarget s.iThreatContainer victim with
    | none => simp [orderHeld_silent, held]
    | some ref =>
      simpa [addThreatPercent_eq] using
        orderHeld_addThreat kept held (Result.live_of_found kept hf) _
  | addThreatPercent ref percent =>
    simp only [Request.serve, addThreatPercent_eq, Request.KeepsOrder]
    exact orderHeld_addThreat kept held (addressed ref rfl) _
  | tauntApply taunter => exact iff_of_true (Or.inr (inOrder_tauntApply kept held taunter)) trivial
  | tauntFadeOut taunter =>
    simp only [Request.serve, tauntFadeOut, Request.KeepsOrder]
    cases hf : s.getReferenceByTarget s.iThreatContainer taunter with
    | none => simp [orderHeld_silent, held]
    | some ref =>
      simpa using orderHeld_resetTempThreat kept held (Result.live_of_found kept hf)
  | updateOnlineStatus ref => exact (orderHeld_silent _).trans (inOrder_updateOnlineStatus held)
  | setOnlineOfflineState ref isOnline =>
    exact (orderHeld_silent _).trans (inOrder_setOnlineOfflineState held isOnline)
  | removeReference ref => exact iff_of_true (Or.inr (inOrder_removeReference held)) trivial
  | clearReferences => exact iff_of_true (Or.inr (Or.inr List.Pairwise.nil)) trivial
  | resetAllAggro =>
    refine iff_of_true ?_ trivial
    simp only [Request.serve, resetAllAggro]
    split
    · exact Or.inr held
    · exact Or.inl ⟨_, List.mem_singleton_self _, rfl⟩
  | resetAggro predicate => exact iff_of_true (Or.inr held) trivial
  | getHostilTarget => exact iff_of_true (Or.inr (inOrder_getHostilTarget held)) trivial
  | forceVictim taunter =>
    refine iff_of_true ?_ trivial
    simp only [Request.serve]
    split <;> exact Or.inr held

lemma orderHeld_create (kept : s.ListsKept) (held : s.InOrder) (victim : UInt64) (threat : ℚ) :
    (s._addThreat w victim threat).OrderHeld ↔ (Call._addThreat victim threat).KeepsOrder w s := by
  simp only [ThreatManager._addThreat, Call.KeepsOrder]
  cases found : s.getReferenceByTarget s.iThreatContainer victim with
  | some ref =>
    simpa only using orderHeld_addThreat kept held (Result.live_of_found kept found) threat
  | none =>
    cases found' : s.getReferenceByTarget s.iThreatOfflineContainer victim with
    | some ref =>
      have listed := (getReferenceByTarget_some found').1
      simpa only using orderHeld_addThreat kept held ((kept.mem_offline ref).mp listed).1 threat
    | none =>
      have entered : (HostileReference.addThreat w (s.newReference victim) s.newRef
          threat).OrderHeld ↔ s.EntersInOrder threat :=
        (orderHeld_iff (unmarked_ownerThreat w _ s.newRef threat)).trans
          (inOrder_newReference kept held victim threat)
      simp only
      split
      · exact (orderHeld_andThen rfl).trans entered
      · exact entered

/-- A call that does not mark the list by itself leaves it in order, or a call that will mark it,
if and only if it meets what is asked of it. -/
lemma orderHeld_make (kept : s.ListsKept) (held : s.InOrder) (c : Call ℚ)
    (unmarked : c.marksDirty = false) :
    (c.make w s).OrderHeld ↔ c.KeepsOrder w s := by
  cases c with
  | addThreat victim threat => exact iff_of_true (orderHeld_valid held victim threat 1 none) trivial
  | _addThreat victim threat => exact orderHeld_create kept held victim threat
  | setOnlineOfflineState ref isOnline =>
    exact (orderHeld_silent _).trans (inOrder_setOnlineOfflineState held isOnline)
  | clearTempThreatModifier ref =>
    have cleared := modifyRef_sameOrder (f := fun r => { r with iTempThreatModifier := 0 }) s ref
      (fun _ => rfl) (fun _ => rfl) fun _ => rfl
    exact iff_of_true (Or.inr (cleared.inOrder.mpr held)) trivial
  | setDirty => exact absurd unmarked (by simp [Call.marksDirty])
  | resetAllAggro next => exact absurd unmarked (by simp [Call.marksDirty])
  | resetAggro predicate next =>
    refine iff_of_true ?_ trivial
    simp only [Call.make, resetAggroFrom]
    split
    · split
      · exact Or.inl ⟨.setDirty, by simp, rfl⟩
      · exact Or.inr held
    · exact Or.inr held

lemma orderHeld_marking {c : Call ℚ} (marks : c.marksDirty = true) : (c.make w s).OrderHeld := by
  cases c with
  | setDirty => exact Or.inr (Or.inl rfl)
  | resetAllAggro next =>
    simp only [Call.make, resetAllAggroFrom]
    split
    · exact Or.inl ⟨.resetAllAggro (next + 1), by simp, rfl⟩
    · exact Or.inr (Or.inl rfl)
  | addThreat | _addThreat | setOnlineOfflineState | clearTempThreatModifier | resetAggro =>
    exact absurd marks (by simp [Call.marksDirty])

namespace Machine

def WillMark (m : Machine ℚ) : Prop := ∃ c ∈ m.calls, c.marksDirty = true

/-- Sorted or not, the list is in order when it is read: after `update` it is sorted, unless the
request under way is about to mark it. -/
def OrderHeld (m : Machine ℚ) : Prop := m.WillMark ∨ m.manager.update.Descending

/-- What a step must meet: the request or call changes no place of the list without a mark, or
comes before a mark of the same request. -/
def KeepsOrder (m : Machine ℚ) : Action ℚ → Prop
  | .serve w r =>
    m.calls = [] → (∀ ref ∈ r.ref, ref ∈ m.manager.live) → r.KeepsOrder w m.manager
  | .advance => ∀ call ∈ m.calls.head?, m.WillMark ∨ call.KeepsOrder m.world m.manager

lemma orderHeld_rest (r : Result ℚ) (rest : List (Call ℚ)) (w : World ℚ) :
    (⟨r.1, r.2 ++ rest, w⟩ : Machine ℚ).OrderHeld ↔
      r.OrderHeld ∨ ∃ c ∈ rest, c.marksDirty = true := by
  simp only [OrderHeld, WillMark, List.mem_append, update_descending_iff, Result.OrderHeld,
    or_and_right, exists_or]
  exact or_right_comm

lemma orderHeld_step_iff {m : Machine ℚ} (kept : m.Kept) (held : m.OrderHeld) (a : Action ℚ) :
    (m.step a).OrderHeld ↔ m.KeepsOrder a := by
  cases a with
  | serve w r =>
    simp only [step, KeepsOrder]
    split
    next asked =>
      have idle : m.calls = [] := List.isEmpty_iff.mp asked.1
      have order : m.manager.InOrder := by
        refine (update_descending_iff _).mp (held.resolve_left ?_)
        rintro ⟨c, hm, -⟩
        rw [idle] at hm
        exact absurd hm List.not_mem_nil
      have served := orderHeld_serve (w := w) kept.lists order r asked.2
      have after := orderHeld_rest (r.serve w m.manager) [] w
      simp only [List.append_nil, List.not_mem_nil, false_and, exists_false, or_false] at after
      rw [after, served]
      exact ⟨fun keeps _ _ => keeps, fun keeps => keeps idle asked.2⟩
    next refused =>
      refine iff_of_true held fun idle addressed => ?_
      exact absurd ⟨List.isEmpty_iff.mpr idle, addressed⟩ refused
  | advance =>
    simp only [step, KeepsOrder]
    split
    next idle => exact iff_of_true held (by simp [idle])
    next call rest here =>
      have after := orderHeld_rest (call.make m.world m.manager) rest m.world
      have waits : m.WillMark ↔ call.marksDirty = true ∨ ∃ c ∈ rest, c.marksDirty = true := by
        simp [WillMark, here]
      rw [after]
      simp only [here, List.head?_cons, Option.mem_some_iff, forall_eq', waits]
      cases marks : call.marksDirty with
      | true => exact iff_of_true (Or.inl (orderHeld_marking marks)) (Or.inl (Or.inl rfl))
      | false =>
        by_cases later : ∃ c ∈ rest, c.marksDirty = true
        · simp [later]
        · have order : m.manager.InOrder := by
            refine (update_descending_iff _).mp (held.resolve_left ?_)
            rw [waits, marks]
            simpa using later
          rw [orderHeld_make kept.lists order call marks]
          simp [later]

/-- Whatever is asked of a threat manager: the list is in order when it is read, after every step
of the run, if and only if every change that comes without a mark stays in its place. -/
theorem threatOrder_iff (w : World ℚ) (actions : List (Action ℚ)) :
    Along step (fun m a => (m.step a).OrderHeld) (init w) actions ↔
      Along step KeepsOrder (init w) actions := by
  refine along_iff_of_invariant (fun m : Machine ℚ => m.Kept ∧ m.OrderHeld) ?_ ?_ ?_ actions
  · exact fun m a inv guard => ⟨inv.1.step a, (orderHeld_step_iff inv.1 inv.2 a).mpr guard⟩
  · exact fun m a inv => orderHeld_step_iff inv.1 inv.2 a
  · exact ⟨⟨ListsKept.init, fun c member => absurd member List.not_mem_nil⟩,
      Or.inr ((update_descending_iff _).mpr (Or.inr List.Pairwise.nil))⟩

/-- Of three players, the one in the middle loses threat and is not the current victim. -/
def middleLoses : List (Action ℚ) :=
  [.serve (soloPlayers ℚ) (.addThreat 1 100 1 none), .advance,
    .serve (soloPlayers ℚ) (.addThreat 2 90 1 none), .advance,
    .serve (soloPlayers ℚ) (.addThreat 3 80 1 none), .advance,
    .serve (soloPlayers ℚ) .getHostilTarget,
    .serve (soloPlayers ℚ) (.addThreat 2 (-20) 1 none), .advance]

/-- The list is then read out of order. -/
theorem middle_loses_unsorted :
    ¬ ∀ (w : World ℚ) (actions : List (Action ℚ)), (run step (init w) actions).calls = [] →
      (run step (init w) actions).manager.update.Descending := by
  intro claimed
  have idle : (run step (init (soloPlayers ℚ)) middleLoses).calls = [] :=
    List.isEmpty_iff.mp (by decide +kernel)
  have sorted := claimed _ _ idle
  revert sorted
  unfold Descending
  decide +kernel

end Machine

end WorldServer.Combat
