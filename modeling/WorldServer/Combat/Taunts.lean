import Mathlib.Tactic.Ring
import WorldServer.Combat.ThreatOrder

/-!
# Taunts leave no threat behind

A taunt raises a reference to the threat of the current victim and remembers by how much, and its
fade takes that amount back. A fade finds the reference only while it is online, and a reset takes
the threat away but not the amount. A `TauntBook` records beside a run what the references were
given apart from taunts, and which taunts have not faded. With threat taken as exact numbers, the
books are right along every run in which no reset meets a raised reference and no last fade comes
while the reference is offline.
-/
namespace WorldServer.Combat

open WorldServer.Lib

variable {amount : ℚ}

namespace ThreatManager

variable {s s' : ThreatManager ℚ} {p : ℕ}

def tempThreatOf (s : ThreatManager ℚ) (ref : ℕ) : ℚ := (s.refs ref).iTempThreatModifier

def referenceOf (s : ThreatManager ℚ) (guid : UInt64) : Option ℕ :=
  match s.getReferenceByTarget s.iThreatContainer guid with
  | some ref => some ref
  | none => s.getReferenceByTarget s.iThreatOfflineContainer guid

/-! ### What leaves the amounts alone -/

/-- Lists, links and states may differ. -/
structure SameAmounts (s s' : ThreatManager ℚ) : Prop where
  threat : ∀ q, s'.threatOf q = s.threatOf q
  tempThreat : ∀ q, s'.tempThreatOf q = s.tempThreatOf q

lemma SameAmounts.trans {s₁ s₂ s₃ : ThreatManager ℚ} (first : SameAmounts s₁ s₂)
    (second : SameAmounts s₂ s₃) : SameAmounts s₁ s₃ :=
  ⟨fun q => (second.threat q).trans (first.threat q),
    fun q => (second.tempThreat q).trans (first.tempThreat q)⟩

lemma sameAmounts_of_refs (refs : s'.refs = s.refs) : SameAmounts s s' :=
  ⟨fun q => by simp only [threatOf, refs], fun q => by simp only [tempThreatOf, refs]⟩

section

variable (s)

lemma modifyRef_sameAmounts (ref : ℕ) {f : HostileReference ℚ → HostileReference ℚ}
    (threat : ∀ r, (f r).iThreat = r.iThreat)
    (tempThreat : ∀ r, (f r).iTempThreatModifier = r.iTempThreatModifier) :
    SameAmounts s (s.modifyRef ref f) := by
  refine ⟨fun q => ?_, fun q => ?_⟩
  · by_cases here : q = ref <;> simp [threatOf, refs_modifyRef, here, threat]
  · by_cases here : q = ref <;> simp [tempThreatOf, refs_modifyRef, here, tempThreat]

lemma refs_processThreatEvent (e : ThreatRefStatusChangeEvent ℚ) :
    (s.processThreatEvent e).refs = s.refs := by
  cases e with
  | onlineStatus ref =>
    unfold processThreatEvent leave
    dsimp only
    split
    · split <;> rfl
    · split <;> rfl
  | threatChange ref fValue =>
    unfold processThreatEvent
    dsimp only
    split <;> rfl
  | removeFromList ref =>
    unfold processThreatEvent leave
    dsimp only
    split
    · split <;> rfl
    · split <;> rfl
  | accessibleStatus ref => rfl

lemma setAccessibleState_sameAmounts (ref : ℕ) (isAccessible : Bool) :
    SameAmounts s (HostileReference.setAccessibleState s ref isAccessible) := by
  unfold HostileReference.setAccessibleState
  split
  · exact (modifyRef_sameAmounts (f := fun r => { r with iAccessible := isAccessible }) s ref
      (fun _ => rfl) fun _ => rfl).trans (sameAmounts_of_refs (refs_processThreatEvent _ _))
  · exact sameAmounts_of_refs rfl

lemma setOnlineOfflineState_sameAmounts (ref : ℕ) (isOnline : Bool) :
    SameAmounts s (HostileReference.setOnlineOfflineState s ref isOnline) := by
  have set_ := modifyRef_sameAmounts (f := fun r => { r with iOnline := isOnline }) s ref
    (fun _ => rfl) fun _ => rfl
  unfold HostileReference.setOnlineOfflineState
  split
  · refine SameAmounts.trans ?_ (sameAmounts_of_refs (refs_processThreatEvent _ _))
    split
    · exact set_
    · exact set_.trans (setAccessibleState_sameAmounts _ ref false)
  · exact sameAmounts_of_refs rfl

end

lemma updateOnlineStatus_sameAmounts (w : World ℚ) (s : ThreatManager ℚ) (ref : ℕ) :
    SameAmounts s (HostileReference.updateOnlineStatus w s ref) := by
  have linked := modifyRef_sameAmounts (f := fun r => { r with
    isValid := r.isValid || w.getUnit (s.refs ref).iUnitGuid }) s ref (fun _ => rfl) fun _ => rfl
  exact linked.trans ((setAccessibleState_sameAmounts _ ref _).trans
    (setOnlineOfflineState_sameAmounts _ ref _))

lemma removeReference_sameAmounts (s : ThreatManager ℚ) (ref : ℕ) :
    SameAmounts s (HostileReference.removeReference s ref) := by
  have cut := modifyRef_sameAmounts (f := fun r => { r with isValid := false })
    (HostileReference.setOnlineOfflineState s ref false) ref (fun _ => rfl) fun _ => rfl
  have sent := sameAmounts_of_refs (refs_processThreatEvent
    ((HostileReference.setOnlineOfflineState s ref false).modifyRef ref fun r =>
      { r with isValid := false }) (.removeFromList ref))
  have removed := (setOnlineOfflineState_sameAmounts s ref false).trans (cut.trans sent)
  exact ⟨removed.threat, removed.tempThreat⟩

/-! ### What is added -/

/-- The reference `p` was given the threat `amount`, and no other amount changed. -/
structure Added (s s' : ThreatManager ℚ) (p : ℕ) (amount : ℚ) : Prop where
  here : s'.threatOf p = s.threatOf p + amount
  other : ∀ q, q ≠ p → s'.threatOf q = s.threatOf q
  tempThreat : ∀ q, s'.tempThreatOf q = s.tempThreatOf q

lemma Added.same {s₁ : ThreatManager ℚ} (added : Added s s₁ p amount) (hs : SameAmounts s₁ s') :
    Added s s' p amount :=
  ⟨(hs.threat p).trans added.here, fun q apart => (hs.threat q).trans (added.other q apart),
    fun q => (hs.tempThreat q).trans (added.tempThreat q)⟩

lemma added_addThreat (w : World ℚ) (s : ThreatManager ℚ) (p : ℕ) (modThreat : ℚ) :
    Added s (HostileReference.addThreat w s p modThreat).1 p modThreat := by
  have threats := fun q => threatOf_added s p q modThreat
  have start : Added s (s.modifyRef p fun r => { r with iThreat := r.iThreat + modThreat }) p
      modThreat := by
    refine ⟨?_, fun q apart => ?_, fun q => ?_⟩
    · rw [threats, if_pos rfl]
    · rw [threats, if_neg apart]
    · by_cases here : q = p <;> simp [tempThreatOf, refs_modifyRef, here]
  unfold HostileReference.addThreat
  generalize s.modifyRef p _ = s₁ at start ⊢
  have linked : SameAmounts s₁
      (if (s₁.refs p).iOnline then s₁ else HostileReference.updateOnlineStatus w s₁ p) := by
    split
    · exact sameAmounts_of_refs rfl
    · exact updateOnlineStatus_sameAmounts w s₁ p
  have told : ∀ s₂ : ThreatManager ℚ, SameAmounts s₂
      (if modThreat != 0 then s₂.processThreatEvent (.threatChange p modThreat) else s₂) := by
    intro s₂
    split
    · exact sameAmounts_of_refs (refs_processThreatEvent _ _)
    · exact sameAmounts_of_refs rfl
  exact start.same (linked.trans (told _))

end ThreatManager

/-! ### The book -/

def Call.resets (s : ThreatManager ℚ) : Call ℚ → Option ℕ
  | .resetAllAggro next => s.iThreatContainer.iThreatList[next]?
  | .resetAggro predicate next =>
    s.iThreatContainer.iThreatList[next]?.filter fun ref => predicate (s.refs ref).iUnitGuid
  | _ => none

/-- What a request adds by itself. A reset of all threat is one of the offline references too. -/
def Request.record (s : ThreatManager ℚ) (additions : ℕ → ℚ) : Request ℚ → ℕ → ℚ
  | .modifyThreatPercent victim percent =>
    match s.getReferenceByTarget s.iThreatContainer victim with
    | some ref => Function.update additions ref
        (additions ref + calculatePct (s.threatOf ref) (percent.toInt : ℚ))
    | none => additions
  | .addThreatPercent ref percent => Function.update additions ref
      (additions ref + calculatePct (s.threatOf ref) (percent.toInt : ℚ))
  | .resetAllAggro =>
    fun ref => if ref ∈ s.iThreatOfflineContainer.iThreatList then 0 else additions ref
  | _ => additions

def Call.record (s : ThreatManager ℚ) (additions : ℕ → ℚ) : Call ℚ → ℕ → ℚ
  | ._addThreat victim threat =>
    match s.referenceOf victim with
    | some ref => Function.update additions ref (additions ref + threat)
    | none => Function.update additions s.newRef threat
  | c =>
    match c.resets s with
    | some ref => Function.update additions ref 0
    | none => additions

/-- The taunts of each reference that have not faded. One is applied to a reference that is online,
and fades wherever the reference is then. -/
def Request.countTaunts (s : ThreatManager ℚ) (taunts : ℕ → ℕ) : Request ℚ → ℕ → ℕ
  | .tauntApply taunter =>
    match s.getReferenceByTarget s.iThreatContainer taunter with
    | some ref => Function.update taunts ref (taunts ref + 1)
    | none => taunts
  | .tauntFadeOut taunter =>
    match s.referenceOf taunter with
    | some ref => Function.update taunts ref (taunts ref - 1)
    | none => taunts
  | _ => taunts

/-- A machine, with what happened to its references. -/
structure TauntBook where
  machine : Machine ℚ
  /-- The threat a reference was given since the last reset, apart from taunts. -/
  additions : ℕ → ℚ
  taunts : ℕ → ℕ

namespace TauntBook

def init (w : World ℚ) : TauntBook := ⟨.init w, fun _ => 0, fun _ => 0⟩

def step (b : TauntBook) : Action ℚ → TauntBook
  | .serve w r =>
    if b.machine.calls.isEmpty ∧ ∀ ref ∈ r.ref, ref ∈ b.machine.manager.live then
      ⟨b.machine.step (.serve w r), r.record b.machine.manager b.additions,
        r.countTaunts b.machine.manager b.taunts⟩
    else b
  | .advance =>
    match b.machine.calls with
    | [] => b
    | call :: _ =>
      ⟨b.machine.step .advance, call.record b.machine.manager b.additions, b.taunts⟩

/-- Between two requests, a reference whose taunts have all faded has the threat it was given. -/
def Neutral (b : TauntBook) : Prop :=
  b.machine.calls = [] → ∀ ref ∈ b.machine.manager.live, b.taunts ref = 0 →
    b.machine.manager.threatOf ref = b.additions ref ∧ b.machine.manager.tempThreatOf ref = 0

end TauntBook

/-- A fade that does not find its reference online had raised nothing, or is not the last. A reset
of all threat leaves the offline references nothing but what a taunt has raised them by. -/
def Request.KeepsTaunts (s : ThreatManager ℚ) (taunts : ℕ → ℕ) : Request ℚ → Prop
  | .tauntFadeOut taunter => s.getReferenceByTarget s.iThreatContainer taunter = none →
      ∀ ref ∈ s.getReferenceByTarget s.iThreatOfflineContainer taunter,
        s.tempThreatOf ref = 0 ∨ 1 < taunts ref
  | .resetAllAggro =>
    ∀ ref ∈ s.iThreatOfflineContainer.iThreatList, s.threatOf ref = s.tempThreatOf ref
  | _ => True

instance (s : ThreatManager ℚ) (taunts : ℕ → ℕ) : ∀ r, Decidable (Request.KeepsTaunts s taunts r)
  | .tauntFadeOut _ => inferInstanceAs (Decidable (_ → ∀ _ ∈ _, _))
  | .resetAllAggro => inferInstanceAs (Decidable (∀ _ ∈ _, _))
  | .addThreat .. | .doAddThreat .. | .modifyThreatPercent .. | .addThreatPercent ..
  | .tauntApply _ | .updateOnlineStatus _ | .setOnlineOfflineState .. | .removeReference _
  | .clearReferences | .resetAggro _ | .getHostilTarget | .forceVictim _ => isTrue trivial

/-- A reset does not meet a raised reference. -/
def Call.KeepsTaunts (s : ThreatManager ℚ) (c : Call ℚ) : Prop :=
  ∀ ref ∈ c.resets s, s.tempThreatOf ref = 0

instance (s : ThreatManager ℚ) (c : Call ℚ) : Decidable (c.KeepsTaunts s) :=
  inferInstanceAs (Decidable (∀ _ ∈ _, _))

/-! ### The balance -/

open ThreatManager

/-- A fading reference has given back what it was raised by, and its modifier is about to be
cleared. Every other reference has what it was given and what it was raised by, and was raised
only by a taunt that has not faded. -/
structure Balanced (s : ThreatManager ℚ) (calls : List (Call ℚ)) (additions : ℕ → ℚ)
    (taunts : ℕ → ℕ) : Prop where
  fading : ∀ p, .clearTempThreatModifier p ∈ calls → s.threatOf p = additions p
  settled : ∀ p, .clearTempThreatModifier p ∉ calls →
    s.threatOf p = additions p + s.tempThreatOf p ∧ (s.tempThreatOf p ≠ 0 → 0 < taunts p)

namespace Balanced

variable {s s' : ThreatManager ℚ} {calls calls' : List (Call ℚ)} {additions additions' : ℕ → ℚ}
  {taunts taunts' : ℕ → ℕ} {p : ℕ} {w : World ℚ}

def SameFading (calls calls' : List (Call ℚ)) : Prop :=
  ∀ p, .clearTempThreatModifier p ∈ calls' ↔ .clearTempThreatModifier p ∈ calls

section

variable (balanced : Balanced s calls additions taunts)
include balanced

lemma same (amounts : SameAmounts s s') (fades : SameFading calls calls') :
    Balanced s' calls' additions taunts where
  fading q clears := (amounts.threat q).trans (balanced.fading q ((fades q).mp clears))
  settled q kept := by
    rw [amounts.threat, amounts.tempThreat]
    exact balanced.settled q fun clears => kept ((fades q).mpr clears)

lemma added (given : Added s s' p amount) (fades : SameFading calls calls') :
    Balanced s' calls' (Function.update additions p (additions p + amount)) taunts := by
  constructor
  · intro q clears
    have before := balanced.fading q ((fades q).mp clears)
    by_cases here : q = p
    · subst here
      rw [given.here, Function.update_self, before]
    · rw [given.other q here, Function.update_of_ne here, before]
  · intro q kept
    obtain ⟨sum, raised⟩ := balanced.settled q fun clears => kept ((fades q).mpr clears)
    rw [given.tempThreat]
    by_cases here : q = p
    · subst here
      refine ⟨?_, raised⟩
      rw [given.here, Function.update_self, sum]
      ring
    · rw [given.other q here, Function.update_of_ne here]
      exact ⟨sum, raised⟩

lemma reset (given : Added s s' p (0 - s.threatOf p)) (unraised : s.tempThreatOf p = 0)
    (fades : SameFading calls calls') :
    Balanced s' calls' (Function.update additions p 0) taunts := by
  have emptied : s'.threatOf p = 0 := by rw [given.here]; ring
  constructor
  · intro q clears
    by_cases here : q = p
    · rw [here, emptied, Function.update_self]
    · rw [given.other q here, Function.update_of_ne here]
      exact balanced.fading q ((fades q).mp clears)
  · intro q kept
    rw [given.tempThreat]
    by_cases here : q = p
    · rw [here, emptied, Function.update_self, unraised]
      exact ⟨(add_zero 0).symm, fun raised => absurd rfl raised⟩
    · rw [given.other q here, Function.update_of_ne here]
      exact balanced.settled q fun clears => kept ((fades q).mpr clears)

end

lemma cleared (balanced : Balanced s (.clearTempThreatModifier p :: calls) additions taunts) :
    Balanced (s.modifyRef p fun r => { r with iTempThreatModifier := 0 }) calls additions taunts := by
  have threat : ∀ q, (s.modifyRef p fun r => { r with iTempThreatModifier := 0 }).threatOf q =
      s.threatOf q := by
    intro q
    by_cases here : q = p <;> simp [threatOf, refs_modifyRef, here]
  have tempThreat : ∀ q, (s.modifyRef p fun r => { r with iTempThreatModifier := 0 }).tempThreatOf q
      = if q = p then 0 else s.tempThreatOf q := by
    intro q
    by_cases here : q = p <;> simp [tempThreatOf, refs_modifyRef, here]
  constructor
  · intro q clears
    rw [threat]
    exact balanced.fading q (List.mem_cons_of_mem _ clears)
  · intro q kept
    rw [threat, tempThreat]
    by_cases here : q = p
    · subst here
      simp [balanced.fading q List.mem_cons_self]
    · rw [if_neg here]
      refine balanced.settled q fun clears => ?_
      rcases List.mem_cons.mp clears with hs | later
      · exact here (Call.clearTempThreatModifier.inj hs)
      · exact kept later

lemma raised (balanced : Balanced s [] additions taunts) (unraised : s.tempThreatOf p = 0)
    (here : s'.threatOf p = s.threatOf p + amount) (modifier : s'.tempThreatOf p = amount)
    (other : ∀ q, q ≠ p → s'.threatOf q = s.threatOf q ∧ s'.tempThreatOf q = s.tempThreatOf q)
    (unfading : SameFading [] calls) :
    Balanced s' calls additions (Function.update taunts p (taunts p + 1)) := by
  constructor
  · intro q clears
    exact absurd ((unfading q).mp clears) List.not_mem_nil
  · intro q _
    obtain ⟨sum, counted⟩ := balanced.settled q List.not_mem_nil
    by_cases hs : q = p
    · subst hs
      rw [here, modifier, sum, unraised, Function.update_self, add_zero]
      exact ⟨rfl, fun _ => Nat.succ_pos _⟩
    · rw [(other q hs).1, (other q hs).2, Function.update_of_ne hs]
      exact ⟨sum, counted⟩

lemma counted (balanced : Balanced s calls additions taunts) (p : ℕ) :
    Balanced s calls additions (Function.update taunts p (taunts p + 1)) := by
  refine ⟨balanced.fading, fun q kept => ?_⟩
  obtain ⟨sum, counted⟩ := balanced.settled q kept
  refine ⟨sum, fun raised => ?_⟩
  by_cases hs : q = p
  · rw [hs, Function.update_self]
    exact Nat.succ_pos _
  · rw [Function.update_of_ne hs]
    exact counted raised

lemma faded (balanced : Balanced s calls additions taunts)
    (spared : s.tempThreatOf p = 0 ∨ 1 < taunts p) :
    Balanced s calls additions (Function.update taunts p (taunts p - 1)) := by
  refine ⟨balanced.fading, fun q kept => ?_⟩
  obtain ⟨sum, counted⟩ := balanced.settled q kept
  refine ⟨sum, fun raised => ?_⟩
  by_cases hs : q = p
  · subst hs
    rw [Function.update_self]
    have several := spared.resolve_left raised
    omega
  · rw [Function.update_of_ne hs]
    exact counted raised

lemma returned (balanced : Balanced s [] additions taunts)
    (given : Added s s' p (-s.tempThreatOf p))
    (fades : ∀ q, .clearTempThreatModifier q ∈ calls ↔ q = p) :
    Balanced s' calls additions (Function.update taunts p (taunts p - 1)) := by
  constructor
  · intro q clears
    rw [(fades q).mp clears, given.here, (balanced.settled p List.not_mem_nil).1]
    ring
  · intro q kept
    have apart : q ≠ p := fun hs => kept ((fades q).mpr hs)
    rw [given.other q apart, given.tempThreat, Function.update_of_ne apart]
    exact balanced.settled q List.not_mem_nil

lemma created (balanced : Balanced s calls additions taunts) {victim : UInt64}
    (given : Added (s.newReference victim) s' s.newRef amount) (fades : SameFading calls calls') :
    Balanced s' calls' (Function.update additions s.newRef amount) taunts := by
  have fresh : (s.newReference victim).threatOf s.newRef = 0 ∧
      (s.newReference victim).tempThreatOf s.newRef = 0 := by
    simp [threatOf, tempThreatOf, newReference]
  have old : ∀ q, q ≠ s.newRef → (s.newReference victim).threatOf q = s.threatOf q ∧
      (s.newReference victim).tempThreatOf q = s.tempThreatOf q := by
    intro q apart
    simp [threatOf, tempThreatOf, newReference, apart]
  constructor
  · intro q clears
    by_cases here : q = s.newRef
    · rw [here, given.here, fresh.1, Function.update_self, zero_add]
    · rw [given.other q here, (old q here).1, Function.update_of_ne here]
      exact balanced.fading q ((fades q).mp clears)
  · intro q kept
    rw [given.tempThreat]
    by_cases here : q = s.newRef
    · rw [here, given.here, fresh.1, fresh.2, Function.update_self]
      exact ⟨by ring, fun raised => absurd rfl raised⟩
    · rw [given.other q here, (old q here).1, (old q here).2, Function.update_of_ne here]
      exact balanced.settled q fun clears => kept ((fades q).mpr clears)

lemma forgotten {offline : List ℕ} (balanced : Balanced s [] additions taunts)
    (emptied : ∀ q ∈ offline, s.threatOf q = s.tempThreatOf q) (unfading : SameFading [] calls) :
    Balanced s calls (fun q => if q ∈ offline then 0 else additions q) taunts := by
  constructor
  · intro q clears
    exact absurd ((unfading q).mp clears) List.not_mem_nil
  · intro q _
    obtain ⟨sum, counted⟩ := balanced.settled q List.not_mem_nil
    refine ⟨?_, counted⟩
    split
    next outside => rw [emptied q outside, zero_add]
    · exact sum

/-! ### Requests and calls -/

lemma notMem_ownerThreat (w : World ℚ) (s : ThreatManager ℚ) (ref : ℕ) (modThreat : ℚ) (q : ℕ) :
    .clearTempThreatModifier q ∉ HostileReference.ownerThreat w s ref modThreat := by
  intro clears
  have unaddressed := Result.ref_ownerThreat w s ref modThreat _ clears
  simp [Call.ref] at unaddressed

lemma notMem_addThreat (w : World ℚ) (s : ThreatManager ℚ) (ref : ℕ) (modThreat : ℚ) (q : ℕ) :
    .clearTempThreatModifier q ∉ (HostileReference.addThreat w s ref modThreat).2 :=
  notMem_ownerThreat w _ ref modThreat q

lemma notMem_doAddThreat (w : World ℚ) (s : ThreatManager ℚ) (victim : UInt64) (threat : ℚ)
    (q : ℕ) : .clearTempThreatModifier q ∉ (s.doAddThreat w victim threat).2 := by
  unfold ThreatManager.doAddThreat
  dsimp only
  split
  · split <;> simp
  · simp

lemma manager_doAddThreat (w : World ℚ) (s : ThreatManager ℚ) (victim : UInt64) (threat : ℚ) :
    (s.doAddThreat w victim threat).1 = s := by
  unfold ThreatManager.doAddThreat
  dsimp only
  split
  · split <;> rfl
  · rfl

lemma addThreat_calls (w : World ℚ) (s : ThreatManager ℚ) (victim : UInt64) (threat : ℚ)
    (schoolMask : UInt32) (threatSpell : Option (ThreatSpell ℚ)) :
    (s.addThreat w victim threat schoolMask threatSpell).1 = s ∧
      ∀ q, .clearTempThreatModifier q ∉
        (s.addThreat w victim threat schoolMask threatSpell).2 := by
  unfold ThreatManager.addThreat
  split
  · exact ⟨manager_doAddThreat w s victim _, notMem_doAddThreat w s victim _⟩
  · exact ⟨rfl, fun q => List.not_mem_nil⟩

lemma sameFading_nil (unfading : ∀ q, .clearTempThreatModifier q ∉ calls) :
    SameFading [] calls :=
  fun q => iff_of_false (unfading q) List.not_mem_nil

variable {rest : List (Call ℚ)}

lemma sameFading_made {c : Call ℚ} (keeps : ∀ q, c ≠ .clearTempThreatModifier q)
    (unfading : ∀ q, .clearTempThreatModifier q ∉ calls) :
    SameFading (c :: rest) (calls ++ rest) := by
  intro q
  rw [List.mem_append, List.mem_cons]
  exact or_congr (iff_of_false (unfading q) fun hs => keeps q hs.symm) Iff.rfl

lemma make_create {victim : UInt64} {threat : ℚ}
    (balanced : Balanced s (._addThreat victim threat :: rest) additions taunts) :
    Balanced (s._addThreat w victim threat).1 ((s._addThreat w victim threat).2 ++ rest)
      ((Call._addThreat victim threat).record s additions) taunts := by
  have to_ : ∀ ref, Balanced (HostileReference.addThreat w s ref threat).1
      ((HostileReference.addThreat w s ref threat).2 ++ rest)
      (Function.update additions ref (additions ref + threat)) taunts := fun ref =>
    balanced.added (added_addThreat w s ref threat)
      (sameFading_made (by simp) (notMem_addThreat w s ref threat))
  cases hf : s.getReferenceByTarget s.iThreatContainer victim with
  | some ref => simpa only [ThreatManager._addThreat, Call.record, referenceOf, hf] using to_ ref
  | none =>
    cases hf' : s.getReferenceByTarget s.iThreatOfflineContainer victim with
    | some ref =>
      simpa only [ThreatManager._addThreat, Call.record, referenceOf, hf, hf'] using to_ ref
    | none =>
      have given := added_addThreat w (s.newReference victim) s.newRef threat
      have unfading := notMem_addThreat w (s.newReference victim) s.newRef threat
      simp only [ThreatManager._addThreat, Call.record, referenceOf, hf, hf']
      split
      · refine balanced.created given (sameFading_made (by simp) fun q => ?_)
        rw [List.mem_append, not_or]
        exact ⟨unfading q, by simp⟩
      · exact balanced.created given (sameFading_made (by simp) unfading)

lemma make {c : Call ℚ} (balanced : Balanced s (c :: rest) additions taunts)
    (keeps : c.KeepsTaunts s) :
    Balanced (c.make w s).1 ((c.make w s).2 ++ rest) (c.record s additions) taunts := by
  have unchanged : ∀ {s' : ThreatManager ℚ}, SameAmounts s s' → (∀ q, c ≠ .clearTempThreatModifier q) →
      Balanced s' ([] ++ rest) additions taunts := fun amounts kept =>
    balanced.same amounts (sameFading_made kept fun _ => List.not_mem_nil)
  have emptied : ∀ ref ∈ c.resets s, (∀ q, c ≠ .clearTempThreatModifier q) →
      ∀ next : List (Call ℚ), (∀ q, .clearTempThreatModifier q ∉ next) →
      Balanced (HostileReference.setThreat w s ref 0).1
        ((HostileReference.setThreat w s ref 0).2 ++ next ++ rest)
        (Function.update additions ref 0) taunts := by
    intro ref reset kept next unfading
    refine balanced.reset (added_addThreat w s ref _) (keeps ref reset) (sameFading_made kept ?_)
    intro q
    rw [List.mem_append, not_or]
    exact ⟨notMem_addThreat w s ref _ q, unfading q⟩
  cases c with
  | addThreat victim threat =>
    obtain ⟨hs, unfading⟩ := addThreat_calls w s victim threat 1 none
    exact balanced.same (sameAmounts_of_refs (congrArg refs hs))
      (sameFading_made (by simp) unfading)
  | _addThreat victim threat => exact balanced.make_create
  | setOnlineOfflineState ref isOnline =>
    exact unchanged (setOnlineOfflineState_sameAmounts s ref isOnline) (by simp)
  | clearTempThreatModifier ref => exact balanced.cleared
  | setDirty => exact unchanged (sameAmounts_of_refs rfl) (by simp)
  | resetAllAggro next =>
    simp only [Call.make, resetAllAggroFrom]
    cases here : s.iThreatContainer.iThreatList[next]? with
    | none =>
      have idle : (Call.resetAllAggro next).resets s = none := here
      simp only [Call.record, idle]
      have marked : SameAmounts s (s.setDirty true) := sameAmounts_of_refs rfl
      exact unchanged marked (by simp)
    | some ref =>
      have reset : (Call.resetAllAggro next).resets s = some ref := here
      simp only [Call.record, reset]
      exact emptied ref reset (by simp) [.resetAllAggro (next + 1)] (by simp)
  | resetAggro predicate next =>
    have skipped : SameFading (.resetAggro predicate next :: rest)
        ([.resetAggro predicate (next + 1)] ++ rest) := sameFading_made (by simp) (by simp)
    simp only [Call.make, resetAggroFrom]
    cases here : s.iThreatContainer.iThreatList[next]? with
    | none =>
      have idle : (Call.resetAggro predicate next).resets s = none := by simp [Call.resets, here]
      simp only [Call.record, idle]
      exact unchanged (sameAmounts_of_refs rfl) (by simp)
    | some ref =>
      by_cases chosen : predicate (s.refs ref).iUnitGuid = true
      · have reset : (Call.resetAggro predicate next).resets s = some ref := by
          simp [Call.resets, here, chosen]
        simp only [Call.record, reset, chosen, if_true]
        exact emptied ref reset (by simp) [.setDirty, .resetAggro predicate (next + 1)] (by simp)
      · have idle : (Call.resetAggro predicate next).resets s = none := by
          simp [Call.resets, here, chosen]
        simp only [Call.record, idle, chosen, Bool.false_eq_true, if_false]
        exact balanced.same (sameAmounts_of_refs rfl) skipped

lemma serve_tauntApply (balanced : Balanced s [] additions taunts) (taunter : UInt64) :
    Balanced (s.tauntApply w taunter).1 (s.tauntApply w taunter).2 additions
      ((Request.tauntApply taunter).countTaunts s taunts) := by
  simp only [ThreatManager.tauntApply, Request.countTaunts]
  cases s.getReferenceByTarget s.iThreatContainer taunter with
  | none => cases s.iCurrentVictim <;> exact balanced
  | some ref =>
    cases s.iCurrentVictim with
    | none => exact balanced.counted ref
    | some victim =>
      dsimp only
      split
      next lower =>
        have unraised : s.tempThreatOf ref = 0 := by simpa [tempThreatOf] using lower.2
        have positive : s.threatOf victim - s.threatOf ref ≠ 0 := (sub_pos.mpr lower.1).ne'
        unfold HostileReference.setTempThreat
        rw [if_pos (by simpa using positive)]
        generalize modified : s.modifyRef ref _ = s₁
        have stored : ∀ q, s₁.threatOf q = s.threatOf q ∧ s₁.tempThreatOf q =
            if q = ref then s.threatOf victim - s.threatOf ref else s.tempThreatOf q := by
          intro q
          subst modified
          by_cases here : q = ref <;> simp [threatOf, tempThreatOf, refs_modifyRef, here]
        have given := added_addThreat w s₁ ref (s.threatOf victim - s.threatOf ref)
        have raised : (HostileReference.addThreat w s₁ ref (s.threatOf victim - s.threatOf ref)
            ).1.threatOf ref = s.threatOf ref + (s.threatOf victim - s.threatOf ref) := by
          rw [given.here, (stored ref).1]
        refine balanced.raised unraised raised ?_ ?_ (sameFading_nil (notMem_addThreat w s₁ ref _))
        · rw [given.tempThreat, (stored ref).2, if_pos rfl]
        · intro q apart
          rw [given.other q apart, given.tempThreat, (stored q).1, (stored q).2, if_neg apart]
          exact ⟨rfl, rfl⟩
      · exact balanced.counted ref

lemma serve_tauntFadeOut (balanced : Balanced s [] additions taunts) (taunter : UInt64)
    (keeps : (Request.tauntFadeOut taunter).KeepsTaunts s taunts) :
    Balanced (s.tauntFadeOut w taunter).1 (s.tauntFadeOut w taunter).2 additions
      ((Request.tauntFadeOut taunter).countTaunts s taunts) := by
  simp only [ThreatManager.tauntFadeOut, Request.countTaunts, referenceOf]
  cases hf : s.getReferenceByTarget s.iThreatContainer taunter with
  | none =>
    cases hf' : s.getReferenceByTarget s.iThreatOfflineContainer taunter with
    | none => exact balanced
    | some ref => exact balanced.faded (keeps hf ref hf')
  | some ref =>
    unfold HostileReference.resetTempThreat
    dsimp only
    by_cases unraised : s.tempThreatOf ref = 0
    · rw [if_neg (by simpa [tempThreatOf] using unraised)]
      exact balanced.faded (Or.inl unraised)
    · rw [if_pos (by simpa [tempThreatOf] using unraised)]
      refine balanced.returned (added_addThreat w s ref _) fun q => ?_
      rw [List.mem_append, List.mem_singleton]
      exact (or_iff_right (notMem_addThreat w s ref _ q)).trans
        ⟨fun hs => Call.clearTempThreatModifier.inj hs, fun hs => congrArg _ hs⟩

lemma serve (balanced : Balanced s [] additions taunts) (r : Request ℚ)
    (keeps : r.KeepsTaunts s taunts) :
    Balanced (r.serve w s).1 (r.serve w s).2 (r.record s additions) (r.countTaunts s taunts) := by
  have silent : ∀ {s' : ThreatManager ℚ}, SameAmounts s s' → Balanced s' [] additions taunts :=
    fun amounts => balanced.same amounts fun _ => Iff.rfl
  have given : ∀ ref amount, Balanced (HostileReference.addThreat w s ref amount).1
      (HostileReference.addThreat w s ref amount).2
      (Function.update additions ref (additions ref + amount)) taunts := fun ref amount =>
    balanced.added (added_addThreat w s ref amount)
      (sameFading_nil (notMem_addThreat w s ref amount))
  cases r with
  | addThreat victim threat schoolMask threatSpell =>
    obtain ⟨hs, unfading⟩ := addThreat_calls w s victim threat schoolMask threatSpell
    exact balanced.same (sameAmounts_of_refs (congrArg refs hs)) (sameFading_nil unfading)
  | doAddThreat victim threat =>
    exact balanced.same (sameAmounts_of_refs (congrArg refs (manager_doAddThreat w s victim threat)))
      (sameFading_nil (notMem_doAddThreat w s victim threat))
  | modifyThreatPercent victim percent =>
    simp only [Request.serve, modifyThreatPercent, Request.record]
    cases s.getReferenceByTarget s.iThreatContainer victim with
    | none => exact balanced
    | some ref =>
      simp only [addThreatPercent_eq]
      exact given ref _
  | addThreatPercent ref percent =>
    simp only [Request.serve, addThreatPercent_eq]
    exact given ref _
  | tauntApply taunter => exact balanced.serve_tauntApply taunter
  | tauntFadeOut taunter => exact balanced.serve_tauntFadeOut taunter keeps
  | updateOnlineStatus ref => exact silent (updateOnlineStatus_sameAmounts w s ref)
  | setOnlineOfflineState ref isOnline =>
    exact silent (setOnlineOfflineState_sameAmounts s ref isOnline)
  | removeReference ref => exact silent (removeReference_sameAmounts s ref)
  | clearReferences => exact silent (sameAmounts_of_refs rfl)
  | resetAllAggro =>
    simp only [Request.serve, ThreatManager.resetAllAggro]
    split
    · exact balanced.forgotten keeps (sameFading_nil fun _ => List.not_mem_nil)
    · exact balanced.forgotten keeps (sameFading_nil (by simp))
  | resetAggro predicate =>
    exact balanced.same (sameAmounts_of_refs rfl) (sameFading_nil (by simp [Request.serve]))
  | getHostilTarget => exact silent (sameAmounts_of_refs rfl)
  | forceVictim taunter =>
    simp only [Request.serve]
    split
    · exact silent (sameAmounts_of_refs rfl)
    · exact balanced

end Balanced

/-! ### Runs -/

namespace TauntBook

/-- What a step must meet: the request or call keeps to the taunts that have not faded. -/
def KeepsTaunts (b : TauntBook) : Action ℚ → Prop
  | .serve _ r => b.machine.calls = [] → (∀ ref ∈ r.ref, ref ∈ b.machine.manager.live) →
      r.KeepsTaunts b.machine.manager b.taunts
  | .advance => ∀ call ∈ b.machine.calls.head?, call.KeepsTaunts b.machine.manager

instance (b : TauntBook) : ∀ a, Decidable (b.KeepsTaunts a)
  | .serve _ _ => inferInstanceAs (Decidable (_ → _ → Request.KeepsTaunts _ _ _))
  | .advance => inferInstanceAs (Decidable (∀ _ ∈ _, Call.KeepsTaunts _ _))

def Kept (b : TauntBook) : Prop :=
  Balanced b.machine.manager b.machine.calls b.additions b.taunts

lemma Kept.step {b : TauntBook} (kept : b.Kept) (a : Action ℚ) (keeps : b.KeepsTaunts a) :
    (b.step a).Kept := by
  cases a with
  | serve w r =>
    unfold TauntBook.step
    dsimp only
    split
    next asked =>
      have idle : b.machine.calls = [] := List.isEmpty_iff.mp asked.1
      have start : Balanced b.machine.manager [] b.additions b.taunts := idle ▸ kept
      have served := start.serve (w := w) r (keeps idle asked.2)
      unfold Kept Machine.step
      dsimp only
      rw [if_pos asked]
      exact served
    · exact kept
  | advance =>
    unfold TauntBook.step
    dsimp only
    split
    · exact kept
    next call rest here =>
      have start : Balanced b.machine.manager (call :: rest) b.additions b.taunts := here ▸ kept
      have made := start.make (w := b.machine.world) (keeps call (by simp [here]))
      unfold Kept Machine.step
      rw [here]
      exact made

lemma Kept.neutral {b : TauntBook} (kept : b.Kept) : b.Neutral := by
  intro idle ref _ faded
  obtain ⟨sum, counted⟩ := kept.settled ref (by rw [idle]; exact List.not_mem_nil)
  have unraised : b.machine.manager.tempThreatOf ref = 0 := by
    by_contra raised
    exact absurd faded (counted raised).ne'
  rw [unraised, add_zero] at sum
  exact ⟨sum, unraised⟩

lemma kept_init (w : World ℚ) : (init w).Kept :=
  ⟨fun _ _ => rfl, fun _ _ => ⟨(add_zero 0).symm, fun raised => absurd rfl raised⟩⟩

/-- Whatever is asked of a threat manager: as long as no reset meets a raised reference and no
last fade comes offline, every reference has the threat it was given once its taunts have
faded. -/
theorem tauntNeutral_along (w : World ℚ) (actions : List (Action ℚ))
    (guarded : Along step KeepsTaunts (init w) actions) :
    Along step (fun b a => (b.step a).Neutral) (init w) actions :=
  along_of_invariant Kept (fun _ a kept keeps => kept.step a keeps)
    (fun _ a kept keeps => (kept.step a keeps).neutral) (kept_init w) guarded

/-- Of two players, the second taunts the creature away from the first. -/
def taunted : List (Action ℚ) :=
  [.serve (soloPlayers ℚ) (.addThreat 1 100 1 none), .advance,
    .serve (soloPlayers ℚ) (.addThreat 2 10 1 none), .advance,
    .serve (soloPlayers ℚ) .getHostilTarget,
    .serve (soloPlayers ℚ) (.tauntApply 2)]

theorem tauntNeutral_along_taunted :
    Along step (fun b a => (b.step a).Neutral) (init (soloPlayers ℚ))
      (taunted ++ [.serve (soloPlayers ℚ) (.addThreat 2 5 1 none), .advance,
        .serve (soloPlayers ℚ) (.tauntFadeOut 2), .advance]) :=
  tauntNeutral_along _ _ (by decide +kernel)

/-- A reset while the taunt lasts leaves the second player with less than no threat. -/
theorem reset_of_taunted_leaves_debt :
    ¬ ∀ (w : World ℚ) (actions : List (Action ℚ)), (run step (init w) actions).Neutral := by
  intro claimed
  have neutral := claimed (soloPlayers ℚ) (taunted ++
    [.serve (soloPlayers ℚ) .resetAllAggro, .advance, .advance, .advance,
      .serve (soloPlayers ℚ) (.tauntFadeOut 2), .advance])
  revert neutral
  unfold Neutral
  decide +kernel

end TauntBook

end WorldServer.Combat
