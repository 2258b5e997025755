import Mathlib.Tactic.Lemma

/-!
# Runs of a total step function

A server handles one request after another. `Along` says that every step of a
run has a property in the state where the step is taken, and the rules below
carry a fact proved of one step to every step of a run.
-/
namespace WorldServer.Lib

variable {σ α : Type}

/-- The state after the steps `as`, taken in order. -/
def run (step : σ → α → σ) (s : σ) (as : List α) : σ := as.foldl step s

@[simp] lemma run_nil (step : σ → α → σ) (s : σ) : run step s [] = s := rfl

@[simp] lemma run_cons (step : σ → α → σ) (s : σ) (a : α) (as : List α) :
    run step s (a :: as) = run step (step s a) as := rfl

/-- Every step of the run has `P` in the state where it is taken. -/
def Along (step : σ → α → σ) (P : σ → α → Prop) : σ → List α → Prop
  | _, [] => True
  | s, a :: as => P s a ∧ Along step P (step s a) as

@[simp] lemma along_nil (step : σ → α → σ) (P : σ → α → Prop) (s : σ) :
    Along step P s [] := trivial

@[simp] lemma along_cons (step : σ → α → σ) (P : σ → α → Prop) (s : σ) (a : α) (as : List α) :
    Along step P s (a :: as) ↔ P s a ∧ Along step P (step s a) as := Iff.rfl

instance decidableAlong (step : σ → α → σ) (P : σ → α → Prop) [∀ s a, Decidable (P s a)] :
    ∀ s as, Decidable (Along step P s as)
  | _, [] => isTrue trivial
  | s, a :: as =>
    have := decidableAlong step P (step s a) as
    inferInstanceAs (Decidable (P s a ∧ Along step P (step s a) as))

lemma along_append (step : σ → α → σ) (P : σ → α → Prop) (s : σ) (as bs : List α) :
    Along step P s (as ++ bs) ↔ Along step P s as ∧ Along step P (run step s as) bs := by
  induction as generalizing s with
  | nil => simp
  | cons a as ih => simp [ih, and_assoc]

lemma along_and {step : σ → α → σ} {P Q : σ → α → Prop} {s : σ} {as : List α} :
    Along step (fun s a => P s a ∧ Q s a) s as ↔ Along step P s as ∧ Along step Q s as := by
  induction as generalizing s with
  | nil => simp
  | cons a as ih =>
    rw [along_cons, along_cons, along_cons, ih]
    exact and_and_and_comm

lemma along_of_forall {step : σ → α → σ} {P : α → Prop} {s : σ} {as : List α}
    (all : ∀ a ∈ as, P a) : Along step (fun _ a => P a) s as := by
  induction as generalizing s with
  | nil => trivial
  | cons a as ih =>
    obtain ⟨here, later⟩ := List.forall_mem_cons.mp all
    exact ⟨here, ih later⟩

section Invariant

variable {step : σ → α → σ} (Inv : σ → Prop) {Guard P : σ → α → Prop}

lemma run_keeps (keeps : ∀ s a, Inv s → Inv (step s a)) {s : σ} (init : Inv s)
    (as : List α) : Inv (run step s as) := by
  induction as generalizing s with
  | nil => exact init
  | cons a as ih => exact ih (keeps s a init)

lemma run_invariant (keeps : ∀ s a, Inv s → Guard s a → Inv (step s a))
    {s : σ} (init : Inv s) {as : List α} (guarded : Along step Guard s as) :
    Inv (run step s as) := by
  induction as generalizing s with
  | nil => exact init
  | cons a as ih => exact ih (keeps s a init guarded.1) guarded.2

lemma along_of_invariant (keeps : ∀ s a, Inv s → Guard s a → Inv (step s a))
    (gives : ∀ s a, Inv s → Guard s a → P s a)
    {s : σ} (init : Inv s) {as : List α} (guarded : Along step Guard s as) :
    Along step P s as := by
  induction as generalizing s with
  | nil => trivial
  | cons a as ih =>
    exact ⟨gives s a init guarded.1, ih (keeps s a init guarded.1) guarded.2⟩

lemma along_of_keeps (keeps : ∀ s a, Inv s → Inv (step s a)) (gives : ∀ s a, Inv s → P s a)
    {s : σ} (init : Inv s) (as : List α) : Along step P s as := by
  induction as generalizing s with
  | nil => trivial
  | cons a as ih => exact ⟨gives s a init, ih (keeps s a init)⟩

/-- Where guard and property agree on every state of the invariant, they agree on
every run. -/
lemma along_iff_of_invariant (keeps : ∀ s a, Inv s → Guard s a → Inv (step s a))
    (agrees : ∀ s a, Inv s → (P s a ↔ Guard s a)) {s : σ} (init : Inv s) (as : List α) :
    Along step P s as ↔ Along step Guard s as := by
  induction as generalizing s with
  | nil => simp
  | cons a as ih =>
    simp only [along_cons, agrees s a init]
    exact and_congr_right fun guard => ih (keeps s a init guard)

end Invariant

end WorldServer.Lib
