import WorldServer.Conditions.ConditionMgr

/-!
# Lists of conditions are disjunctions of conjunctions

A list is evaluated as far down as references lead. The evaluation ends, with the value of the
disjunction over the groups, if the references from the list end somewhere; if they run in a circle
it need not end, and does not end for an object that meets every condition. A reference to a
template that is not there is passed over, as if the template were met.
-/
namespace WorldServer.Conditions

open WorldServer.Lib Relation

section Semantics

variable (store : ConditionReferenceContainer) (meets : Condition → Bool)

/-- The evaluation of a list ends with a value. -/
def Evaluates (conditions : ConditionList) (b : Bool) : Prop :=
  ∃ depth, IsObjectMeetToConditionList store meets depth conditions = some b

/-- The evaluation takes the condition, or the reference, for true. -/
def Counts (c : Condition) : Prop :=
  ∃ depth, passes store meets (IsObjectMeetToConditionList store meets depth) c = some true

def RefersTo (conditions conditions' : ConditionList) : Prop :=
  ∃ c ∈ conditions, c.ReferenceId ≠ 0 ∧ store.lookup c.ReferenceId = some conditions'

def LeadsTo : ConditionList → ConditionList → Prop := ReflTransGen (RefersTo store)

/-- All chains of references from the list end. -/
def Grounded (conditions : ConditionList) : Prop :=
  Acc (fun conditions' conditions => RefersTo store conditions conditions') conditions

def Complete (conditions : ConditionList) : Prop :=
  ∀ conditions', LeadsTo store conditions conditions' →
    ∀ c ∈ conditions', c.ReferenceId ≠ 0 → (store.lookup c.ReferenceId).isSome

/-- The evaluation ends, and the list counts as the disjunction over its groups of the conjunctions
of their conditions, where a reference counts as the list that it refers to. -/
structure Disjunction (conditions : ConditionList) : Prop where
  terminates : ∃ b, Evaluates store meets conditions b
  groups : Evaluates store meets conditions true ↔
    ∃ g, (∃ c ∈ conditions.filter Condition.isLoaded, c.ElseGroup = g) ∧
      ∀ c ∈ conditions.filter Condition.isLoaded, c.ElseGroup = g → Counts store meets c
  references : ∀ c ∈ conditions, c.ReferenceId ≠ 0 → (Counts store meets c ↔
    ∃ conditions', store.lookup c.ReferenceId = some conditions' ∧
      Evaluates store meets conditions' true)
  conditions : ∀ c ∈ conditions, c.ReferenceId = 0 → (Counts store meets c ↔ meets c = true)

/-- Every template has a condition that is not passed over. -/
def Loaded : Prop :=
  ∀ r conditions, store.lookup r = some conditions → ∃ c ∈ conditions, c.isLoaded = true

end Semantics

lemma Condition.isLoaded_of_reference {c : Condition} (reference : c.ReferenceId ≠ 0) :
    c.isLoaded = true := by
  simp [isLoaded, reference]

lemma prime_eq_true : Alternatives.Prime (fun b : Bool => b = true) where
  top := rfl
  bot := Bool.false_ne_true
  inf _ _ := Bool.and_eq_true_iff
  sup _ _ := Bool.or_eq_true_iff

variable {store : ConditionReferenceContainer} {meets : Condition → Bool}
variable {conditions conditions' : ConditionList} {b : Bool}

/-! ### Depth -/

variable {depth : ℕ}

section Depth

variable {β : Type} {missing : Option β} {normal : Condition → Option β} {c : Condition}

lemma Condition.valueWith_mono {evaluate evaluate' : ConditionList → Option β}
    (more : ∀ conditions b, evaluate conditions = some b → evaluate' conditions = some b) {b : β}
    (value : c.valueWith store missing evaluate normal = some b) :
    c.valueWith store missing evaluate' normal = some b := by
  by_cases reference : c.ReferenceId ≠ 0
  · cases hf : store.lookup c.ReferenceId with
    | none => simpa only [valueWith, if_pos reference, hf] using value
    | some conditions =>
      simp only [valueWith, if_pos reference, hf] at value ⊢
      exact more conditions b value
  · simpa only [valueWith, if_neg reference] using value

/-- An evaluation to some depth, of which more depth does not change the values. -/
def Deepening (evaluate : ℕ → ConditionList → Option β) : Prop :=
  ∀ depth conditions b, evaluate depth conditions = some b →
    evaluate (depth + 1) conditions = some b

variable {evaluate : ℕ → ConditionList → Option β} {depth' : ℕ}

section

variable (deepening : Deepening evaluate)
include deepening

lemma Deepening.le (le : depth ≤ depth') {conditions : ConditionList} {b : β}
    (value : evaluate depth conditions = some b) : evaluate depth' conditions = some b := by
  induction depth', le using Nat.le_induction with
  | base => exact value
  | succ depth' _ ih => exact deepening depth' conditions b ih

lemma Deepening.valueWith_le (le : depth ≤ depth') {b : β}
    (value : c.valueWith store missing (evaluate depth) normal = some b) :
    c.valueWith store missing (evaluate depth') normal = some b :=
  Condition.valueWith_mono (fun _ _ => deepening.le le) value

lemma Deepening.unique {b b' : β} (value : evaluate depth conditions = some b)
    (value' : evaluate depth' conditions = some b') : b = b' := by
  have left := deepening.le (le_max_left depth depth') value
  have right := deepening.le (le_max_right depth depth') value'
  exact Option.some.inj (left.symm.trans right)

lemma Deepening.valueWith_unique {b b' : β}
    (value : c.valueWith store missing (evaluate depth) normal = some b)
    (value' : c.valueWith store missing (evaluate depth') normal = some b') : b = b' := by
  have left := deepening.valueWith_le (le_max_left depth depth') value
  have right := deepening.valueWith_le (le_max_right depth depth') value'
  exact Option.some.inj (left.symm.trans right)

/-- Some depth is enough for all conditions of a list, if it is for the lists it refers to. -/
lemma Deepening.exists_depth
    (there : ∀ c ∈ conditions, c.ReferenceId ≠ 0 → store.lookup c.ReferenceId = none →
      missing.isSome) (normals : ∀ c, (normal c).isSome)
    (evaluated : ∀ conditions', RefersTo store conditions conditions' →
      ∃ b depth, evaluate depth conditions' = some b) :
    ∃ depth, ∀ c ∈ conditions, (c.valueWith store missing (evaluate depth) normal).isSome := by
  have each : ∀ c ∈ conditions, ∃ depth,
      (c.valueWith store missing (evaluate depth) normal).isSome := by
    intro c hm
    by_cases reference : c.ReferenceId ≠ 0
    · cases hf : store.lookup c.ReferenceId with
      | none =>
        refine ⟨0, ?_⟩
        simpa [Condition.valueWith, reference, hf] using there c hm reference hf
      | some conditions' =>
        obtain ⟨b, depth, value⟩ := evaluated conditions' ⟨c, hm, reference, hf⟩
        exact ⟨depth, by simp [Condition.valueWith, reference, hf, value]⟩
    · refine ⟨0, ?_⟩
      rw [Condition.valueWith, if_neg reference]
      exact normals c
  clear evaluated there
  induction conditions with
  | nil => exact ⟨0, by simp⟩
  | cons c rest ih =>
    obtain ⟨depth, first⟩ := each c (List.mem_cons_self ..)
    obtain ⟨depth', others⟩ := ih fun c hm => each c (List.mem_cons_of_mem _ hm)
    refine ⟨max depth depth', List.forall_mem_cons.mpr ⟨?_, fun c hm => ?_⟩⟩
    · obtain ⟨b, value⟩ := Option.isSome_iff_exists.mp first
      exact Option.isSome_iff_exists.mpr ⟨b, deepening.valueWith_le (le_max_left ..) value⟩
    · obtain ⟨b, value⟩ := Option.isSome_iff_exists.mp (others c hm)
      exact Option.isSome_iff_exists.mpr ⟨b, deepening.valueWith_le (le_max_right ..) value⟩

end

end Depth

lemma deepening_meet : Deepening (IsObjectMeetToConditionList store meets) := by
  intro depth
  induction depth with
  | zero => simp [IsObjectMeetToConditionList]
  | succ depth ih =>
    exact fun conditions b => Alternatives.answer_mono fun c b => Condition.valueWith_mono ih

lemma counts_iff {c : Condition}
    (value : passes store meets (IsObjectMeetToConditionList store meets depth) c = some b) :
    b = true ↔ Counts store meets c := by
  constructor
  · rintro rfl
    exact ⟨depth, value⟩
  · rintro ⟨depth', value'⟩
    exact deepening_meet.valueWith_unique value value'

/-! ### Lists whose references end -/

lemma Grounded.evaluates (grounded : Grounded store conditions) :
    ∃ b, Evaluates store meets conditions b := by
  induction grounded with
  | intro conditions _ ih =>
    have enough : ∃ depth, ∀ c ∈ conditions,
        (passes store meets (IsObjectMeetToConditionList store meets depth) c).isSome :=
      deepening_meet.exists_depth (fun _ _ _ _ => rfl) (fun _ => rfl) ih
    obtain ⟨depth, values⟩ := enough
    have answered :
        (IsObjectMeetToConditionList store meets (depth + 1) conditions).isSome :=
      Alternatives.answer_isSome fun c hm => values c (List.mem_filter.mp hm).1
    obtain ⟨b, value⟩ := Option.isSome_iff_exists.mp answered
    exact ⟨b, depth + 1, value⟩

lemma Grounded.of_leadsTo (grounded : Grounded store conditions)
    (leads : LeadsTo store conditions conditions') : Grounded store conditions' := by
  induction leads with
  | refl => exact grounded
  | tail _ refers ih => exact ih.inv refers

lemma Grounded.not_circular (grounded : Grounded store conditions) :
    ¬ TransGen (fun conditions' conditions => RefersTo store conditions conditions')
      conditions conditions := by
  have ends := grounded.transGen
  clear grounded
  induction ends with
  | intro conditions _ ih => exact fun circular => ih conditions circular circular

lemma evaluates_true_iff (evaluates : ∃ b, Evaluates store meets conditions b) :
    Evaluates store meets conditions true ↔
      ∃ g, (∃ c ∈ conditions.filter Condition.isLoaded, c.ElseGroup = g) ∧
        ∀ c ∈ conditions.filter Condition.isLoaded, c.ElseGroup = g → Counts store meets c := by
  obtain ⟨b, depth, value⟩ := evaluates
  cases depth with
  | zero => exact absurd value (by simp [IsObjectMeetToConditionList])
  | succ depth =>
    have alternatives := prime_eq_true.answer_iff (V := Counts store meets)
      (fun c _ b value => counts_iff value) value
    rw [← alternatives]
    constructor
    · rintro ⟨depth', value'⟩
      exact deepening_meet.unique value value'
    · rintro rfl
      exact ⟨depth + 1, value⟩

lemma counts_reference_iff {c : Condition} (reference : c.ReferenceId ≠ 0)
    (hf : store.lookup c.ReferenceId = some conditions) :
    Counts store meets c ↔ Evaluates store meets conditions true := by
  simp only [Counts, passes, Condition.valueWith, if_pos reference, hf, Evaluates]

lemma counts_missing {c : Condition} (reference : c.ReferenceId ≠ 0)
    (missing : store.lookup c.ReferenceId = none) : Counts store meets c :=
  ⟨0, by simp [passes, Condition.valueWith, reference, missing]⟩

lemma counts_normal_iff {c : Condition} (normal : c.ReferenceId = 0) :
    Counts store meets c ↔ meets c = true := by
  simp [Counts, passes, Condition.valueWith, normal]

lemma disjunction_of_grounded (grounded : Grounded store conditions)
    (complete : ∀ c ∈ conditions, c.ReferenceId ≠ 0 → (store.lookup c.ReferenceId).isSome) :
    Disjunction store meets conditions where
  terminates := grounded.evaluates
  groups := evaluates_true_iff grounded.evaluates
  references c hm reference := by
    obtain ⟨conditions', hf⟩ := Option.isSome_iff_exists.mp (complete c hm reference)
    rw [counts_reference_iff reference hf]
    simp [hf]
  conditions _ _ normal := counts_normal_iff normal

/-- For such an object no list that is evaluated has a reference that does not end, as no reference
is passed over. -/
lemma grounded_of_evaluate (loaded : Loaded store) (depth : ℕ) : ∀ conditions b,
    IsObjectMeetToConditionList store (fun _ => true) depth conditions = some b →
      ((∃ c ∈ conditions, c.isLoaded = true) → b = true) ∧ Grounded store conditions := by
  induction depth with
  | zero => simp [IsObjectMeetToConditionList]
  | succ depth ih =>
    intro conditions b value
    have top : ∀ c ∈ conditions.filter Condition.isLoaded, ∀ b,
        passes store (fun _ => true)
          (IsObjectMeetToConditionList store (fun _ => true) depth) c = some b → b = true := by
      intro c _ b value
      rw [passes, Condition.valueWith] at value
      split at value
      · split at value
        · next conditions' hf => exact (ih conditions' b value).1 (loaded _ _ hf)
        · exact (Option.some.inj value).symm
      · exact (Option.some.inj value).symm
    constructor
    · rintro ⟨c, hm, isLoaded⟩
      refine (prime_eq_true.answer_iff (V := fun _ => True) ?_ value).mpr ?_
      · exact fun c hm b value => iff_true_intro (top c hm b value)
      · exact ⟨c.ElseGroup, ⟨c, List.mem_filter.mpr ⟨hm, isLoaded⟩, rfl⟩, fun _ _ _ => trivial⟩
    · refine Acc.intro conditions ?_
      rintro conditions' ⟨c, hm, reference, hf⟩
      have isLoaded := Condition.isLoaded_of_reference reference
      have evaluated := Alternatives.isSome_of_answer top value c
        (List.mem_filter.mpr ⟨hm, isLoaded⟩)
      simp only [passes, Condition.valueWith, if_pos reference, hf] at evaluated
      obtain ⟨b', value'⟩ := Option.isSome_iff_exists.mp evaluated
      exact (ih conditions' b' value').2

/-! ### What is loaded -/

structure Row.Accepted (stores : Stores) (row : Row) (cond : Condition) : Prop where
  condition : row.condition = some cond
  template : row.iSourceTypeOrReferenceId < 0
  valid : row.iConditionTypeOrReference < 0 ∨ cond.isConditionTypeValid stores = true

lemma Row.Accepted.isLoaded {stores : Stores} {row : Row} {cond : Condition}
    (accepted : row.Accepted stores cond) : cond.isLoaded = true := by
  have here := accepted.condition
  rw [Row.condition] at here
  split at here
  · next reference =>
    obtain rfl := Option.some.inj here
    exact Condition.isLoaded_of_reference (by simpa using reference.ne)
  · next normal =>
    have valid := accepted.valid.resolve_left normal
    simp only [Condition.isConditionTypeValid, Bool.and_eq_true_iff, decide_eq_true_eq] at valid
    simp [Condition.isLoaded, valid.1.1]

lemma ConditionMgr.loadRow_references (stores : Stores) (mgr : ConditionMgr) (row : Row) :
    (mgr.loadRow stores row).ConditionReferenceStore = mgr.ConditionReferenceStore ∨
      ∃ cond r, row.Accepted stores cond ∧ mgr.loadRow stores row = mgr.addReference r cond := by
  rw [loadRow]
  split
  · exact .inl rfl
  next cond here =>
    simp only
    split
    · exact .inl rfl
    split
    · exact .inl rfl
    next valid =>
      split
      · next template =>
        refine .inr ⟨cond, _, ⟨here, template, ?_⟩, rfl⟩
        by_contra! neither
        exact valid ⟨not_lt.mpr neither.1, by simpa using neither.2⟩
      split
      · exact .inl rfl
      split
      · exact .inl rfl
      split
      · exact .inl rfl
      split <;> exact .inl rfl

lemma templates_accepted (stores : Stores) (rows : List Row) {r : ℕ}
    {conditions : ConditionList}
    (hf : (ConditionMgr.LoadConditions stores rows).ConditionReferenceStore.lookup r =
      some conditions) :
    conditions ≠ [] ∧ ∀ c ∈ conditions, ∃ row : Row, row.Accepted stores c := by
  revert r conditions
  refine List.foldlRecOn rows (ConditionMgr.loadRow stores) ?_ ?_
    (motive := fun mgr => ∀ {r conditions}, mgr.ConditionReferenceStore.lookup r =
      some conditions → conditions ≠ [] ∧ ∀ c ∈ conditions, ∃ row : Row, row.Accepted stores c)
  · intro r conditions hf
    simp at hf
  · intro mgr before row _ r conditions hf
    rcases mgr.loadRow_references stores row with hs | ⟨cond, r', accepted, added⟩
    · rw [hs] at hf
      exact before hf
    · rw [added, ConditionMgr.addReference, Table.lookup_insert_iff] at hf
      rcases hf with ⟨-, rfl⟩ | ⟨-, hf⟩
      · refine ⟨by simp, fun c hm => ?_⟩
        rcases List.mem_append.mp hm with old | new
        · cases stored : mgr.ConditionReferenceStore.lookup r' with
          | none => simp [stored] at old
          | some conditions' =>
            rw [stored] at old
            exact (before stored).2 c old
        · obtain rfl := List.mem_singleton.mp new
          exact ⟨row, accepted⟩
      · exact before hf

lemma loaded_LoadConditions (stores : Stores) (rows : List Row) :
    Loaded (ConditionMgr.LoadConditions stores rows).ConditionReferenceStore := by
  intro r conditions hf
  obtain ⟨listed, accepted⟩ := templates_accepted stores rows hf
  obtain ⟨c, hm⟩ := List.exists_mem_of_ne_nil conditions listed
  obtain ⟨row, accepted⟩ := accepted c hm
  exact ⟨c, hm, accepted.isLoaded⟩

/-! ### The result -/

/-- A list is evaluated as a disjunction of conjunctions, and so are the lists that it leads to, if
its chains of references end and lead to no template that is missing. For the templates of any rows
that are loaded, there is no other list of which that is true for every object. -/
theorem IsObjectMeetToConditionList_disjunction (store : ConditionReferenceContainer)
    (conditions : ConditionList) :
    (Grounded store conditions ∧ Complete store conditions →
      ∀ meets conditions', LeadsTo store conditions conditions' →
        Disjunction store meets conditions') ∧
    ∀ stores rows, store = (ConditionMgr.LoadConditions stores rows).ConditionReferenceStore →
      ((∀ meets conditions', LeadsTo store conditions conditions' →
          Disjunction store meets conditions') ↔
        Grounded store conditions ∧ Complete store conditions) := by
  have enough : Grounded store conditions ∧ Complete store conditions →
      ∀ meets conditions', LeadsTo store conditions conditions' →
        Disjunction store meets conditions' := by
    rintro ⟨grounded, complete⟩ meets conditions' leads
    exact disjunction_of_grounded (grounded.of_leadsTo leads) (complete conditions' leads)
  refine ⟨enough, fun stores rows isStore => ⟨fun disjunctions => ⟨?_, ?_⟩, enough⟩⟩
  · obtain ⟨b, depth, value⟩ := (disjunctions (fun _ => true) conditions .refl).terminates
    have loaded : Loaded store := isStore ▸ loaded_LoadConditions stores rows
    exact (grounded_of_evaluate loaded depth conditions b value).2
  · intro conditions' leads c member reference
    by_contra absent
    have missing : store.lookup c.ReferenceId = none := by simpa using absent
    have disjunction := disjunctions (fun _ => true) conditions' leads
    obtain ⟨_, found, -⟩ :=
      (disjunction.references c member reference).mp (counts_missing reference missing)
    exact Option.some_ne_none _ (found.symm.trans missing)

def referenceRow (source template : ℤ) : Row :=
  ⟨source, 0, 0, 0, 0, template, 0, 0, 0, 0, false, 0⟩

def circle (stores : Stores) : ConditionReferenceContainer :=
  (ConditionMgr.LoadConditions stores
    [referenceRow (-1) (-2), referenceRow (-2) (-1)]).ConditionReferenceStore

def reference (template : ℕ) : Condition :=
  ⟨0, 0, 0, 0, 0, .none, 0, 0, 0, template, 0, 0, false⟩

lemma circle_refersTo (stores : Stores) :
    RefersTo (circle stores) [reference 1] [reference 2] ∧
      RefersTo (circle stores) [reference 2] [reference 1] :=
  ⟨⟨reference 1, by simp, by decide, rfl⟩, ⟨reference 2, by simp, by decide, rfl⟩⟩

/-- Both rows are loaded, and the evaluation of a reference to one of them never ends. -/
theorem circle_not_evaluated :
    ¬ ∀ stores rows meets conditions, (∀ c ∈ conditions, c.isLoaded = true) →
      ∃ b, Evaluates (ConditionMgr.LoadConditions stores rows).ConditionReferenceStore meets
        conditions b := by
  intro evaluates
  let stores : Stores := ⟨fun _ => true, fun _ => true, fun _ => true, fun _ => true, fun _ => true,
    450, fun _ => true, fun _ => true, fun _ => true, fun _ => true, fun _ => true, fun _ => true,
    fun _ => 1, fun _ => true, fun _ => true, fun _ => true⟩
  obtain ⟨b, depth, value⟩ := evaluates stores [referenceRow (-1) (-2), referenceRow (-2) (-1)]
    (fun _ => true) [reference 1] (by decide)
  have grounded := (grounded_of_evaluate (loaded_LoadConditions stores _) depth _ b value).2
  obtain ⟨forth, back⟩ := circle_refersTo stores
  exact grounded.not_circular (.head back (.single forth))

end WorldServer.Conditions
