import WorldServer.Combat.ThreatManager

/-!
# Every reference is in one container

A reference moves between the containers when its online state changes, and only then; a unit
gets a reference only when neither container has one; the current victim is let go of when it
leaves the online container.
-/
namespace WorldServer.Combat

variable {T : Type} {s₁ : ThreatManager T} {guid : UInt64}

namespace ThreatManager

/-- Every unit has at most one reference, every reference is in the container of its online state
once, and the current victim is in the online container. -/
structure ListsKept (s : ThreatManager T) : Prop where
  oneReference : ∀ p ∈ s.live, ∀ q ∈ s.live,
    (s.refs p).iUnitGuid = (s.refs q).iUnitGuid → p = q
  mem_online : ∀ p, p ∈ s.iThreatContainer.iThreatList ↔ p ∈ s.live ∧ (s.refs p).iOnline = true
  mem_offline : ∀ p,
    p ∈ s.iThreatOfflineContainer.iThreatList ↔ p ∈ s.live ∧ (s.refs p).iOnline = false
  onlineNodup : s.iThreatContainer.iThreatList.Nodup
  offlineNodup : s.iThreatOfflineContainer.iThreatList.Nodup
  victim : ∀ p, s.iCurrentVictim = some p → p ∈ s.iThreatContainer.iThreatList
  allocated : ∀ p ∈ s.live, p < s.newRef

variable {s s' : ThreatManager T} {p : ℕ}

/-! ### What leaves the lists alone -/

/-- Threats, accessibility, links and the dirty mark may differ. -/
structure SameLists (s s' : ThreatManager T) : Prop where
  live : s'.live = s.live
  newRef : s'.newRef = s.newRef
  online : s'.iThreatContainer.iThreatList = s.iThreatContainer.iThreatList
  offline : s'.iThreatOfflineContainer.iThreatList = s.iThreatOfflineContainer.iThreatList
  victim : s'.iCurrentVictim = s.iCurrentVictim
  guid : ∀ p, (s'.refs p).iUnitGuid = (s.refs p).iUnitGuid
  state : ∀ p, (s'.refs p).iOnline = (s.refs p).iOnline

lemma SameLists.refl (s : ThreatManager T) : SameLists s s :=
  ⟨rfl, rfl, rfl, rfl, rfl, fun _ => rfl, fun _ => rfl⟩

lemma SameLists.trans {s₂ s₃ : ThreatManager T} (first : SameLists s₁ s₂)
    (second : SameLists s₂ s₃) : SameLists s₁ s₃ where
  live := second.live.trans first.live
  newRef := second.newRef.trans first.newRef
  online := second.online.trans first.online
  offline := second.offline.trans first.offline
  victim := second.victim.trans first.victim
  guid p := (second.guid p).trans (first.guid p)
  state p := (second.state p).trans (first.state p)

lemma ListsKept.same (kept : s.ListsKept) (hs : SameLists s s') : s'.ListsKept where
  oneReference := by simpa only [hs.live, hs.guid] using kept.oneReference
  mem_online := by simpa only [hs.live, hs.online, hs.state] using kept.mem_online
  mem_offline := by simpa only [hs.live, hs.offline, hs.state] using kept.mem_offline
  onlineNodup := by simpa only [hs.online] using kept.onlineNodup
  offlineNodup := by simpa only [hs.offline] using kept.offlineNodup
  victim := by simpa only [hs.victim, hs.online] using kept.victim
  allocated := by simpa only [hs.live, hs.newRef] using kept.allocated

lemma refs_modifyRef (s : ThreatManager T) (ref q : ℕ)
    (f : HostileReference T → HostileReference T) :
    (s.modifyRef ref f).refs q = if q = ref then f (s.refs ref) else s.refs q := by
  simp [modifyRef, Function.update_apply]

lemma modifyRef_same (s : ThreatManager T) (ref : ℕ)
    {f : HostileReference T → HostileReference T} (guid : ∀ r, (f r).iUnitGuid = r.iUnitGuid)
    (state : ∀ r, (f r).iOnline = r.iOnline) : SameLists s (s.modifyRef ref f) := by
  refine ⟨rfl, rfl, rfl, rfl, rfl, fun q => ?_, fun q => ?_⟩
  all_goals
    rw [refs_modifyRef]
    split
    next here => simp only [here, guid, state]
    · rfl

lemma setDirty_same (s : ThreatManager T) (isDirty : Bool) : SameLists s (s.setDirty isDirty) :=
  ⟨rfl, rfl, rfl, rfl, rfl, fun _ => rfl, fun _ => rfl⟩

lemma ListsKept.setCurrentVictim (kept : s.ListsKept) {victim : Option ℕ}
    (listed : ∀ p, victim = some p → p ∈ s.iThreatContainer.iThreatList) :
    (s.setCurrentVictim victim).ListsKept :=
  { kept with victim := listed }

variable {c : ThreatContainer} {current : Option ℕ} {all : List ℕ} {isOnline : Bool}

lemma getReferenceByTarget_some {ref : ℕ} (found : s.getReferenceByTarget c guid = some ref) :
    ref ∈ c.iThreatList ∧ (s.refs ref).iUnitGuid = guid :=
  ⟨List.mem_of_find?_eq_some found, by simpa using List.find?_some found⟩

lemma getReferenceByTarget_none (missing : s.getReferenceByTarget c guid = none) :
    ∀ ref ∈ c.iThreatList, (s.refs ref).iUnitGuid ≠ guid := by
  simpa [getReferenceByTarget] using missing

/-! ### Choosing a victim -/

variable [ThreatValue T]

lemma ListsKept.init : (init : ThreatManager T).ListsKept where
  oneReference p member := by simp [ThreatManager.init] at member
  mem_online p := by simp [ThreatManager.init]
  mem_offline p := by simp [ThreatManager.init]
  onlineNodup := List.nodup_nil
  offlineNodup := List.nodup_nil
  victim p hs := by simp [ThreatManager.init] at hs
  allocated p member := by simp [ThreatManager.init] at member

lemma threatChange_same (s : ThreatManager T) (ref : ℕ) (fValue : T) :
    SameLists s (s.processThreatEvent (.threatChange ref fValue)) := by
  unfold processThreatEvent
  dsimp only
  split
  · exact setDirty_same s true
  · exact SameLists.refl s

lemma choice_listed {w : World T} {ref chosen : ℕ} (member : ref ∈ all)
    (listed : ∀ p, current = some p → p ∈ all) (stops : choice w s current ref = some chosen) :
    chosen ∈ all := by
  unfold choice at stops
  dsimp only at stops
  split at stops
  · split at stops
    next victim =>
      split at stops
      · split at stops
        · exact listed chosen stops
        · exact Option.some.inj stops ▸ member
      · split at stops
        · exact Option.some.inj stops ▸ member
        · exact absurd stops (by simp)
    · exact Option.some.inj stops ▸ member
  · exact absurd stops (by simp)

lemma selectPreferred_listed {w : World T} {list : List ℕ} {chosen : ℕ}
    (inside : ∀ ref ∈ list, ref ∈ all) (listed : ∀ p, current = some p → p ∈ all)
    (stops : selectPreferred w s all current list = some chosen) : chosen ∈ all := by
  induction list generalizing current with
  | nil => simp [selectPreferred] at stops
  | cons ref rest ih =>
    have tail : ∀ q ∈ rest, q ∈ all := fun q member => inside q (List.mem_cons_of_mem _ member)
    unfold selectPreferred at stops
    split at stops
    · split at stops
      · obtain ⟨q, member, chosen_⟩ := List.exists_of_findSome?_eq_some stops
        exact choice_listed member listed chosen_
      · refine ih tail (fun p hs => ?_) stops
        split at hs
        · exact absurd hs (by simp)
        · exact listed p hs
    · split at stops
      next first =>
        exact choice_listed (inside ref List.mem_cons_self) listed (first.trans stops)
      · exact ih tail listed stops

lemma update_perm (s : ThreatManager T) :
    s.update.iThreatContainer.iThreatList.Perm s.iThreatContainer.iThreatList := by
  unfold update
  dsimp only
  split
  · exact List.perm_insertionSort _ _
  · exact List.Perm.refl _

lemma ListsKept.update (kept : s.ListsKept) : s.update.ListsKept where
  oneReference := kept.oneReference
  mem_online p := (update_perm s).mem_iff.trans (kept.mem_online p)
  mem_offline := kept.mem_offline
  onlineNodup := (update_perm s).nodup_iff.mpr kept.onlineNodup
  offlineNodup := kept.offlineNodup
  victim p hs := (update_perm s).mem_iff.mpr (kept.victim p hs)
  allocated := kept.allocated

lemma ListsKept.getHostilTarget (kept : s.ListsKept) (w : World T) :
    (s.getHostilTarget w).ListsKept :=
  kept.update.setCurrentVictim fun _ chosen =>
    selectPreferred_listed (fun _ member => member) kept.update.victim chosen

/-! ### A reference changes containers -/

/-- The reference `p` went online or offline, and nothing else of the lists changed. -/
structure Moved (s s' : ThreatManager T) (p : ℕ) (isOnline : Bool) : Prop where
  live : s'.live = s.live
  newRef : s'.newRef = s.newRef
  guid : ∀ q, (s'.refs q).iUnitGuid = (s.refs q).iUnitGuid
  state : ∀ q, (s'.refs q).iOnline = if q = p then isOnline else (s.refs q).iOnline
  online : s'.iThreatContainer.iThreatList =
    if isOnline then s.iThreatContainer.iThreatList ++ [p]
    else s.iThreatContainer.iThreatList.filter (· ≠ p)
  offline : s'.iThreatOfflineContainer.iThreatList =
    if isOnline then s.iThreatOfflineContainer.iThreatList.filter (· ≠ p)
    else s.iThreatOfflineContainer.iThreatList ++ [p]
  victim : ∀ q, s'.iCurrentVictim = some q → s.iCurrentVictim = some q ∧ (isOnline ∨ q ≠ p)

omit [ThreatValue T] in
lemma ListsKept.moved (kept : s.ListsKept) (member : p ∈ s.live)
    (changes : (s.refs p).iOnline ≠ isOnline) (moved : Moved s s' p isOnline) :
    s'.ListsKept where
  oneReference := by simpa only [moved.live, moved.guid] using kept.oneReference
  mem_online q := by
    rw [moved.online, moved.live, moved.state]
    by_cases hs : q = p
    · subst hs
      cases isOnline with
      | true => simp [member]
      | false => simp
    · cases isOnline with
      | true => simp [hs, kept.mem_online q]
      | false => simp [hs, kept.mem_online q]
  mem_offline q := by
    rw [moved.offline, moved.live, moved.state]
    by_cases hs : q = p
    · subst hs
      cases isOnline with
      | true => simp
      | false => simp [member]
    · cases isOnline with
      | true => simp [hs, kept.mem_offline q]
      | false => simp [hs, kept.mem_offline q]
  onlineNodup := by
    rw [moved.online]
    cases isOnline with
    | true =>
      have absent : p ∉ s.iThreatContainer.iThreatList :=
        fun listed => changes ((kept.mem_online p).mp listed).2
      exact kept.onlineNodup.append (List.nodup_singleton p) (List.disjoint_singleton.mpr absent)
    | false => exact kept.onlineNodup.filter _
  offlineNodup := by
    rw [moved.offline]
    cases isOnline with
    | true => exact kept.offlineNodup.filter _
    | false =>
      have absent : p ∉ s.iThreatOfflineContainer.iThreatList :=
        fun listed => changes ((kept.mem_offline p).mp listed).2
      exact kept.offlineNodup.append (List.nodup_singleton p) (List.disjoint_singleton.mpr absent)
  victim q hs := by
    obtain ⟨before, stays⟩ := moved.victim q hs
    have listed := kept.victim q before
    rw [moved.online]
    cases isOnline with
    | true => simp [listed]
    | false => simpa [listed] using stays
  allocated := by simpa only [moved.live, moved.newRef] using kept.allocated

lemma setAccessibleState_same (s : ThreatManager T) (ref : ℕ) (isAccessible : Bool) :
    SameLists s (HostileReference.setAccessibleState s ref isAccessible) := by
  unfold HostileReference.setAccessibleState
  split
  · exact modifyRef_same (f := fun r => { r with iAccessible := isAccessible }) s ref
      (fun _ => rfl) fun _ => rfl
  · exact SameLists.refl s

/-- Coming online puts the reference last, and marks the list when it overtakes the victim. -/
lemma setOnline_eq (offline : (s.refs p).iOnline = false) :
    HostileReference.setOnlineOfflineState s p true =
      { s.modifyRef p fun r => { r with iOnline := true } with
        iThreatContainer := ⟨s.iThreatContainer.iThreatList ++ [p],
          s.iThreatContainer.iDirty || decide (s.overtakes p)⟩
        iThreatOfflineContainer := s.iThreatOfflineContainer.remove p } := by
  have threat : ∀ q, (s.modifyRef p fun r => { r with iOnline := true }).threatOf q =
      s.threatOf q := by
    intro q
    simp only [threatOf, refs_modifyRef]
    split
    next here => rw [here]
    · rfl
  have hs : (s.modifyRef p fun r => { r with iOnline := true }).overtakes p ↔ s.overtakes p := by
    simp only [overtakes, threat]
    rfl
  unfold HostileReference.setOnlineOfflineState
  rw [if_pos (by simp [offline])]
  simp only [if_true, processThreatEvent, refs_modifyRef, hs, ThreatContainer.addReference]
  by_cases above : s.overtakes p
  · simp [above, setDirty, modifyRef]
  · simp [above, modifyRef]

/-- Going offline lets go of the victim, and marks the list when the reference was the victim. -/
lemma setOffline_eq (online : (s.refs p).iOnline = true) :
    HostileReference.setOnlineOfflineState s p false =
      { s.modifyRef p fun r => { r with iOnline := false, iAccessible := false } with
        iThreatContainer := ⟨s.iThreatContainer.iThreatList.filter (· ≠ p),
          s.iThreatContainer.iDirty || decide (s.iCurrentVictim = some p)⟩
        iThreatOfflineContainer := s.iThreatOfflineContainer.addReference p
        iCurrentVictim := if s.iCurrentVictim = some p then none else s.iCurrentVictim } := by
  have inaccessible : HostileReference.setAccessibleState
      (s.modifyRef p fun r => { r with iOnline := false }) p false =
      s.modifyRef p fun r => { r with iOnline := false, iAccessible := false } := by
    unfold HostileReference.setAccessibleState
    cases accessible : (s.refs p).iAccessible with
    | true => simp [accessible, modifyRef, processThreatEvent]
    | false => simp [accessible, modifyRef]
  unfold HostileReference.setOnlineOfflineState
  rw [if_pos (by simp [online])]
  simp only [Bool.false_eq_true, if_false, processThreatEvent, inaccessible, refs_modifyRef, if_true,
    leave, ThreatContainer.remove]
  by_cases here : s.iCurrentVictim = some p
  · simp [here, setDirty, modifyRef, ThreatManager.setCurrentVictim]
  · simp [here, modifyRef]

lemma setOnlineOfflineState_moved (changes : (s.refs p).iOnline ≠ isOnline) :
    Moved s (HostileReference.setOnlineOfflineState s p isOnline) p isOnline := by
  cases isOnline with
  | true =>
    rw [setOnline_eq (by simpa using changes)]
    refine ⟨rfl, rfl, fun q => ?_, fun q => ?_, rfl, rfl, fun q hs => ⟨hs, Or.inl rfl⟩⟩
    · by_cases here : q = p <;> simp [refs_modifyRef, here]
    · by_cases here : q = p <;> simp [refs_modifyRef, here]
  | false =>
    rw [setOffline_eq (by simpa using changes)]
    refine ⟨rfl, rfl, fun q => ?_, fun q => ?_, rfl, rfl, fun q hs => ?_⟩
    · by_cases here : q = p <;> simp [refs_modifyRef, here]
    · by_cases here : q = p <;> simp [refs_modifyRef, here]
    · split at hs
      · exact absurd hs (by simp)
      next other => exact ⟨hs, Or.inr fun here => other (here ▸ hs)⟩

lemma setOnlineOfflineState_same (hs : (s.refs p).iOnline = isOnline) :
    HostileReference.setOnlineOfflineState s p isOnline = s := by
  unfold HostileReference.setOnlineOfflineState
  rw [if_neg (not_not.mpr hs)]

/-! ### What each function keeps -/

lemma ListsKept.setOnlineOfflineState (kept : s.ListsKept) (member : p ∈ s.live)
    (isOnline : Bool) :
    (HostileReference.setOnlineOfflineState s p isOnline).ListsKept ∧
      (HostileReference.setOnlineOfflineState s p isOnline).live = s.live := by
  by_cases changes : (s.refs p).iOnline = isOnline
  · rw [setOnlineOfflineState_same changes]
    exact ⟨kept, rfl⟩
  · have moved := setOnlineOfflineState_moved changes
    exact ⟨kept.moved member changes moved, moved.live⟩

lemma ListsKept.updateOnlineStatus (kept : s.ListsKept) (member : p ∈ s.live) (w : World T) :
    (HostileReference.updateOnlineStatus w s p).ListsKept ∧
      (HostileReference.updateOnlineStatus w s p).live = s.live := by
  unfold HostileReference.updateOnlineStatus
  dsimp only
  have linked := modifyRef_same (f := fun r => { r with
    isValid := r.isValid || w.getUnit (s.refs p).iUnitGuid }) s p (fun _ => rfl) fun _ => rfl
  generalize s.modifyRef p _ = s₁ at linked ⊢
  generalize (if (s₁.refs p).isValid = true then w.reachable (s.refs p).iUnitGuid
    else (false, false)) = hf
  have marked := linked.trans (setAccessibleState_same s₁ p hf.2)
  have moved := (kept.same marked).setOnlineOfflineState (marked.live ▸ member) hf.1
  exact ⟨moved.1, moved.2.trans marked.live⟩

lemma ListsKept.addThreat (kept : s.ListsKept) (member : p ∈ s.live) (w : World T)
    (modThreat : T) :
    (HostileReference.addThreat w s p modThreat).1.ListsKept ∧
      (HostileReference.addThreat w s p modThreat).1.live = s.live := by
  unfold HostileReference.addThreat
  dsimp only
  have added := modifyRef_same (f := fun r => { r with iThreat := r.iThreat + modThreat }) s p
    (fun _ => rfl) fun _ => rfl
  generalize s.modifyRef p _ = s₁ at added ⊢
  have kept₁ := kept.same added
  have moved : (if (s₁.refs p).iOnline then s₁ else
      HostileReference.updateOnlineStatus w s₁ p).ListsKept ∧
      (if (s₁.refs p).iOnline then s₁ else
      HostileReference.updateOnlineStatus w s₁ p).live = s₁.live := by
    split
    · exact ⟨kept₁, rfl⟩
    · exact kept₁.updateOnlineStatus (added.live ▸ member) w
  generalize (if (s₁.refs p).iOnline then s₁ else _) = s₂ at moved ⊢
  split
  · have fired := threatChange_same s₂ p modThreat
    exact ⟨moved.1.same fired, fired.live.trans (moved.2.trans added.live)⟩
  · exact ⟨moved.1, moved.2.trans added.live⟩

lemma ListsKept.newReference (kept : s.ListsKept) {victim : UInt64}
    (unknown : ∀ p ∈ s.live, (s.refs p).iUnitGuid ≠ victim) :
    (s.newReference victim).ListsKept := by
  have fresh : s.newRef ∉ s.live := fun member => (kept.allocated _ member).false
  have other : ∀ q ∈ s.live, q ≠ s.newRef := fun q member hs => fresh (hs ▸ member)
  have before : ∀ q, q ≠ s.newRef → (s.newReference victim).refs q = s.refs q := fun q apart =>
    Function.update_of_ne apart _ _
  have here : (s.newReference victim).refs s.newRef = ⟨0, 0, victim, true, true, true⟩ :=
    Function.update_self _ _ _
  refine ⟨?_, ?_, ?_, ?_, kept.offlineNodup, ?_, ?_⟩
  · intro p memberP q memberQ hs
    rcases Finset.mem_insert.mp memberP with rfl | memberP <;>
      rcases Finset.mem_insert.mp memberQ with rfl | memberQ
    · rfl
    · rw [here, before q (other q memberQ)] at hs
      exact absurd hs.symm (unknown q memberQ)
    · rw [here, before p (other p memberP)] at hs
      exact absurd hs (unknown p memberP)
    · rw [before p (other p memberP), before q (other q memberQ)] at hs
      exact kept.oneReference p memberP q memberQ hs
  · intro p
    change p ∈ s.iThreatContainer.iThreatList ++ [s.newRef] ↔ p ∈ insert s.newRef s.live ∧ _
    by_cases hs : p = s.newRef
    · subst hs
      simp [here]
    · simp [hs, before p hs, kept.mem_online p]
  · intro p
    change p ∈ s.iThreatOfflineContainer.iThreatList ↔ p ∈ insert s.newRef s.live ∧ _
    by_cases hs : p = s.newRef
    · subst hs
      simp [here, kept.mem_offline, fresh]
    · simp [hs, before p hs, kept.mem_offline p]
  · refine kept.onlineNodup.append (List.nodup_singleton _) (List.disjoint_singleton.mpr ?_)
    exact fun listed => fresh ((kept.mem_online _).mp listed).1
  · exact fun p hs => List.mem_append_left _ (kept.victim p hs)
  · intro p member
    change p < s.newRef + 1
    rcases Finset.mem_insert.mp member with rfl | member
    · exact Nat.lt_succ_self _
    · exact Nat.lt_succ_of_lt (kept.allocated p member)

lemma ListsKept.removeReference (kept : s.ListsKept) (member : p ∈ s.live) :
    (HostileReference.removeReference s p).ListsKept := by
  obtain ⟨kept₁, live₁⟩ := kept.setOnlineOfflineState member false
  have offline : ((HostileReference.setOnlineOfflineState s p false).refs p).iOnline = false := by
    by_cases was : (s.refs p).iOnline = false
    · rwa [setOnlineOfflineState_same was]
    · rw [(setOnlineOfflineState_moved was).state, if_pos rfl]
  unfold HostileReference.removeReference
  dsimp only
  generalize HostileReference.setOnlineOfflineState s p false = s₁ at kept₁ live₁ offline ⊢
  have cut := modifyRef_same (f := fun r => { r with isValid := false }) s₁ p
    (fun _ => rfl) fun _ => rfl
  have kept₂ := kept₁.same cut
  rw [← cut.state] at offline
  generalize s₁.modifyRef p _ = s₂ at cut kept₂ offline ⊢
  have notVictim : s₂.iCurrentVictim ≠ some p := fun victim => by
    have online := ((kept₂.mem_online p).mp (kept₂.victim p victim)).2
    rw [offline] at online
    exact Bool.false_ne_true online
  have left : s₂.leave p = s₂ := if_neg notVictim
  simp only [processThreatEvent, left, offline, Bool.false_eq_true, if_false]
  exact {
    oneReference := fun q memberQ r memberR => kept₂.oneReference q (Finset.mem_of_mem_erase memberQ)
      r (Finset.mem_of_mem_erase memberR)
    mem_online := fun q => by
      rw [kept₂.mem_online q]
      by_cases hs : q = p
      · subst hs
        simp [offline]
      · simp [hs]
    mem_offline := fun q => by
      by_cases hs : q = p
      · subst hs
        simp [ThreatContainer.remove]
      · simp [ThreatContainer.remove, hs, kept₂.mem_offline q]
    onlineNodup := kept₂.onlineNodup
    offlineNodup := kept₂.offlineNodup.filter _
    victim := kept₂.victim
    allocated := fun q memberQ => kept₂.allocated q (Finset.mem_of_mem_erase memberQ) }

omit [ThreatValue T] in
lemma ListsKept.cleared (s : ThreatManager T) : s.clearReferences.ListsKept where
  oneReference p member := absurd member (Finset.notMem_empty p)
  mem_online p := by simp [ThreatManager.clearReferences]
  mem_offline p := by simp [ThreatManager.clearReferences]
  onlineNodup := List.nodup_nil
  offlineNodup := List.nodup_nil
  victim p hs := by simp [ThreatManager.clearReferences] at hs
  allocated p member := absurd member (Finset.notMem_empty p)

/-! ### Results of functions and the calls they leave -/

end ThreatManager

/-- The reference that a call is about, when it is not looked up. -/
def Call.ref : Call T → Option ℕ
  | .setOnlineOfflineState ref _ | .clearTempThreatModifier ref => some ref
  | _ => none

namespace Result

/-- After a function the lists are kept, the references there were are still there, and the calls
it leaves are about references there are. -/
structure Sound (s : ThreatManager T) (r : Result T) : Prop where
  lists : r.1.ListsKept
  live : s.live ⊆ r.1.live
  addressed : ∀ c ∈ r.2, ∀ ref ∈ c.ref, ref ∈ r.1.live

variable {s s' : ThreatManager T} {p : ℕ}

lemma Sound.silent (lists : s'.ListsKept) (live : s'.live = s.live) : Sound s (s', []) :=
  ⟨lists, live.ge, fun _ member => absurd member List.not_mem_nil⟩

variable {calls : List (Call T)}

lemma Sound.start (kept : s.ListsKept) (unaddressed : ∀ c ∈ calls, c.ref = none) :
    Sound s (s, calls) :=
  ⟨kept, Finset.Subset.refl _, fun c member ref about => by simp [unaddressed c member] at about⟩

lemma Sound.andThen {r : Result T} (sound : Sound s r)
    (addressed : ∀ c ∈ calls, ∀ ref ∈ c.ref, ref ∈ r.1.live) : Sound s (r.1, r.2 ++ calls) :=
  ⟨sound.lists, sound.live, fun c member =>
    (List.mem_append.mp member).elim (sound.addressed c) (addressed c)⟩

lemma Sound.from {r : Result T} (sound : Sound s₁ r) (live : s.live ⊆ s₁.live) : Sound s r :=
  ⟨sound.lists, live.trans sound.live, sound.addressed⟩

variable [ThreatValue T]

lemma ref_ownerThreat (w : World T) (s : ThreatManager T) (ref : ℕ) (modThreat : T) :
    ∀ c ∈ HostileReference.ownerThreat w s ref modThreat, c.ref = none := by
  intro c member
  unfold HostileReference.ownerThreat at member
  split at member
  · split at member
    · split at member
      · rw [List.mem_singleton.mp member]
        rfl
      · exact absurd member List.not_mem_nil
    · exact absurd member List.not_mem_nil
  · exact absurd member List.not_mem_nil

section

variable (kept : s.ListsKept) (member : p ∈ s.live) (w : World T)
include kept member

lemma sound_addThreat (modThreat : T) : Sound s (HostileReference.addThreat w s p modThreat) := by
  have added := kept.addThreat member w modThreat
  refine ⟨added.1, added.2.ge, fun c inside ref about => ?_⟩
  have none_ := ref_ownerThreat w _ p modThreat c inside
  simp [none_] at about

lemma sound_setTempThreat (threat : T) :
    Sound s (HostileReference.setTempThreat w s p threat) := by
  unfold HostileReference.setTempThreat
  dsimp only
  have stored := ThreatManager.modifyRef_same (f := fun r => { r with
    iTempThreatModifier := threat - s.threatOf p }) s p (fun _ => rfl) fun _ => rfl
  split
  · exact (sound_addThreat (kept.same stored) (stored.live ▸ member) w _).from stored.live.ge
  · exact Sound.silent (kept.same stored) stored.live

lemma sound_resetTempThreat : Sound s (HostileReference.resetTempThreat w s p) := by
  unfold HostileReference.resetTempThreat
  dsimp only
  split
  · have added := sound_addThreat kept member w (-(s.refs p).iTempThreatModifier)
    refine added.andThen fun c inside ref about => ?_
    rw [List.mem_singleton.mp inside] at about
    exact Option.some.inj about ▸ added.live member
  · exact Sound.silent kept rfl

end

omit [ThreatValue T] in
lemma live_of_found (kept : s.ListsKept)
    (found : s.getReferenceByTarget s.iThreatContainer guid = some p) : p ∈ s.live :=
  ((kept.mem_online p).mp (ThreatManager.getReferenceByTarget_some found).1).1

section

variable (kept : s.ListsKept) (w : World T)
include kept

lemma sound_create (victim : UInt64) (threat : T) : Sound s (s._addThreat w victim threat) := by
  unfold ThreatManager._addThreat
  split
  next ref found => exact sound_addThreat kept (live_of_found kept found) w threat
  next missing =>
    split
    next ref found =>
      have listed := (ThreatManager.getReferenceByTarget_some found).1
      exact sound_addThreat kept ((kept.mem_offline ref).mp listed).1 w threat
    next missing' =>
      have unknown : ∀ q ∈ s.live, (s.refs q).iUnitGuid ≠ victim := by
        intro q member
        cases state : (s.refs q).iOnline with
        | true =>
          exact ThreatManager.getReferenceByTarget_none missing q
            ((kept.mem_online q).mpr ⟨member, state⟩)
        | false =>
          exact ThreatManager.getReferenceByTarget_none missing' q
            ((kept.mem_offline q).mpr ⟨member, state⟩)
      have created := sound_addThreat (kept.newReference unknown)
        (Finset.mem_insert_self s.newRef s.live) w threat
      have sound := created.from (Finset.subset_insert s.newRef s.live)
      split
      · refine sound.andThen fun c inside ref about => ?_
        rw [List.mem_singleton.mp inside] at about
        exact Option.some.inj about ▸ created.live (Finset.mem_insert_self s.newRef s.live)
      · exact sound

lemma sound_doAddThreat (victim : UInt64) (threat : T) :
    Sound s (s.doAddThreat w victim threat) := by
  unfold ThreatManager.doAddThreat
  dsimp only
  split
  · split <;> exact Sound.start kept (by simp [Call.ref])
  · exact Sound.start kept (by simp [Call.ref])

lemma sound_addThreat_valid (victim : UInt64) (threat : T) (schoolMask : UInt32)
    (threatSpell : Option (ThreatSpell T)) :
    Sound s (s.addThreat w victim threat schoolMask threatSpell) := by
  unfold ThreatManager.addThreat
  split
  · exact sound_doAddThreat kept w victim _
  · exact Sound.silent kept rfl

lemma sound_resetAllAggroFrom (next : ℕ) : Sound s (s.resetAllAggroFrom w next) := by
  unfold ThreatManager.resetAllAggroFrom
  split
  next ref here =>
    have member := ((kept.mem_online ref).mp (List.mem_of_getElem? here)).1
    exact (sound_addThreat kept member w _).andThen (by simp [Call.ref])
  · exact Sound.silent (kept.same (ThreatManager.setDirty_same s true)) rfl

lemma sound_resetAggroFrom (predicate : UInt64 → Bool) (next : ℕ) :
    Sound s (s.resetAggroFrom w predicate next) := by
  unfold ThreatManager.resetAggroFrom
  split
  next ref here =>
    have member := ((kept.mem_online ref).mp (List.mem_of_getElem? here)).1
    split
    · exact (sound_addThreat kept member w _).andThen (by simp [Call.ref])
    · exact Sound.start kept (by simp [Call.ref])
  · exact Sound.silent kept rfl

lemma sound_make (c : Call T) (addressed : ∀ ref ∈ c.ref, ref ∈ s.live) :
    Sound s (c.make w s) := by
  cases c with
  | addThreat victim threat => exact sound_addThreat_valid kept w victim threat 1 none
  | _addThreat victim threat => exact sound_create kept w victim threat
  | setOnlineOfflineState ref isOnline =>
    have moved := kept.setOnlineOfflineState (addressed ref rfl) isOnline
    exact Sound.silent moved.1 moved.2
  | clearTempThreatModifier ref =>
    have cleared := ThreatManager.modifyRef_same (f := fun r => { r with iTempThreatModifier := 0 })
      s ref (fun _ => rfl) fun _ => rfl
    exact Sound.silent (kept.same cleared) cleared.live
  | setDirty => exact Sound.silent (kept.same (ThreatManager.setDirty_same s true)) rfl
  | resetAllAggro next => exact sound_resetAllAggroFrom kept w next
  | resetAggro predicate next => exact sound_resetAggroFrom kept w predicate next

lemma sound_modifyThreatPercent (victim : UInt64) (percent : Int32) :
    Sound s (s.modifyThreatPercent w victim percent) := by
  unfold ThreatManager.modifyThreatPercent
  split
  next ref hf => exact sound_addThreat kept (live_of_found kept hf) w _
  · exact Sound.silent kept rfl

lemma sound_tauntApply (taunter : UInt64) : Sound s (s.tauntApply w taunter) := by
  unfold ThreatManager.tauntApply
  split
  next hf =>
    split
    · exact sound_setTempThreat kept (live_of_found kept hf) w _
    · exact Sound.silent kept rfl
  · exact Sound.silent kept rfl

lemma sound_tauntFadeOut (taunter : UInt64) : Sound s (s.tauntFadeOut w taunter) := by
  unfold ThreatManager.tauntFadeOut
  split
  next ref hf => exact sound_resetTempThreat kept (live_of_found kept hf) w
  · exact Sound.silent kept rfl

end

omit [ThreatValue T] in
lemma sound_resetAllAggro (kept : s.ListsKept) : Sound s s.resetAllAggro := by
  unfold ThreatManager.resetAllAggro
  split
  · exact Sound.silent kept rfl
  · exact Sound.start kept (by simp [Call.ref])

lemma sound_forceVictim (kept : s.ListsKept) (w : World T) (taunter : UInt64) :
    Sound s ((Request.forceVictim taunter).serve w s) := by
  unfold Request.serve
  dsimp only
  split
  next ref found =>
    refine Sound.silent (kept.setCurrentVictim fun p hs => ?_) rfl
    exact Option.some.inj hs ▸ (ThreatManager.getReferenceByTarget_some found).1
  · exact Sound.silent kept rfl

lemma served (kept : s.ListsKept) (w : World T) (r : Request T)
    (addressed : ∀ ref ∈ r.ref, ref ∈ s.live) :
    (r.serve w s).1.ListsKept ∧
      ∀ c ∈ (r.serve w s).2, ∀ ref ∈ c.ref, ref ∈ (r.serve w s).1.live := by
  have settled : ∀ {result : Result T}, Sound s result →
      result.1.ListsKept ∧ ∀ c ∈ result.2, ∀ ref ∈ c.ref, ref ∈ result.1.live :=
    fun sound => ⟨sound.lists, sound.addressed⟩
  have silent : ∀ {s' : ThreatManager T}, s'.ListsKept →
      s'.ListsKept ∧ ∀ c ∈ ([] : List (Call T)), ∀ ref ∈ c.ref, ref ∈ s'.live :=
    fun lists => ⟨lists, fun _ member => absurd member List.not_mem_nil⟩
  cases r with
  | addThreat victim threat schoolMask threatSpell =>
    exact settled (sound_addThreat_valid kept w victim threat schoolMask threatSpell)
  | doAddThreat victim threat => exact settled (sound_doAddThreat kept w victim threat)
  | modifyThreatPercent victim percent =>
    exact settled (sound_modifyThreatPercent kept w victim percent)
  | addThreatPercent ref percent => exact settled (sound_addThreat kept (addressed ref rfl) w _)
  | tauntApply taunter => exact settled (sound_tauntApply kept w taunter)
  | tauntFadeOut taunter => exact settled (sound_tauntFadeOut kept w taunter)
  | updateOnlineStatus ref => exact silent (kept.updateOnlineStatus (addressed ref rfl) w).1
  | setOnlineOfflineState ref isOnline =>
    exact silent (kept.setOnlineOfflineState (addressed ref rfl) isOnline).1
  | removeReference ref => exact silent (kept.removeReference (addressed ref rfl))
  | clearReferences => exact silent (ThreatManager.ListsKept.cleared s)
  | resetAllAggro => exact settled (sound_resetAllAggro kept)
  | resetAggro predicate => exact settled (Sound.start kept (by simp [Call.ref]))
  | getHostilTarget => exact silent (kept.getHostilTarget w)
  | forceVictim taunter => exact settled (sound_forceVictim kept w taunter)

end Result

namespace Machine

open WorldServer.Lib

variable [ThreatValue T]

/-- The lists are kept, and the calls that wait are about references there are. -/
structure Kept (m : Machine T) : Prop where
  lists : m.manager.ListsKept
  addressed : ∀ c ∈ m.calls, ∀ ref ∈ c.ref, ref ∈ m.manager.live

lemma Kept.step {m : Machine T} (kept : m.Kept) (a : Action T) : (m.step a).Kept := by
  cases a with
  | serve w r =>
    unfold Machine.step
    dsimp only
    split
    next asked =>
      obtain ⟨lists, addressed⟩ := Result.served kept.lists w r asked.2
      exact ⟨lists, addressed⟩
    · exact kept
  | advance =>
    unfold Machine.step
    dsimp only
    split
    · exact kept
    next call rest here =>
      have waiting := here ▸ kept.addressed
      have made := Result.sound_make kept.lists m.world call (waiting call List.mem_cons_self)
      refine ⟨made.lists, fun c member ref about => ?_⟩
      rcases List.mem_append.mp member with new | old
      · exact made.addressed c new ref about
      · exact made.live (waiting c (List.mem_cons_of_mem _ old) ref about)

/-- Whatever is asked of a threat manager, in whatever world and order, a unit has at most one
reference, a reference is in the container of its online state once and in no other, and the
current victim is in the online container. -/
theorem threatLists_kept (w : World T) (actions : List (Action T)) :
    (run step (init w) actions).manager.ListsKept := by
  have start : (init w).Kept :=
    ⟨ThreatManager.ListsKept.init, fun c member => absurd member List.not_mem_nil⟩
  exact (run_keeps Kept (fun _ a kept => kept.step a) start actions).lists

end Machine

end WorldServer.Combat
