import Mathlib.Dynamics.PeriodicPts.Lemmas

/-!
# Following pointers

Every point has at most one pointer to a next one. Following the pointers from a point either
ends or enters one cycle, and each cycle is closed at the pointer through which the walk comes
back to the point where it entered. Taking away one pointer of every cycle leaves no cycle.
-/
namespace WorldServer.Lib

open Relation

variable {α : Type} {next : α → Option α} {a b c m m' i : α}

def Points (next : α → Option α) (a b : α) : Prop := next a = some b

def Leads (next : α → Option α) : α → α → Prop := ReflTransGen (Points next)

def OnCycle (next : α → Option α) (a : α) : Prop := TransGen (Points next) a a

/-- `m` is the first point of its cycle on the way from `i`. -/
def Enters (next : α → Option α) (i m : α) : Prop :=
  m = i ∨ ∃ x, Leads next i x ∧ ¬ OnCycle next x ∧ Points next x m

def Closes (next : α → Option α) (i c : α) : Prop :=
  OnCycle next c ∧ Leads next i c ∧ ∃ m, Points next c m ∧ Enters next i m

lemma points_unique : Relator.RightUnique (Points next) := fun _ _ _ left right =>
  Option.some.inj (left.symm.trans right)

lemma Points.getD_eq (points : Points next a b) : (next a).getD a = b := by
  rw [show next a = some b from points]
  rfl

lemma Leads.total (left : Leads next a b) (right : Leads next a c) :
    Leads next b c ∨ Leads next c b :=
  ReflTransGen.total_of_right_unique points_unique left right

lemma OnCycle.back (cycle : OnCycle next a) (points : Points next a b) : Leads next b a := by
  obtain ⟨c, first, back⟩ := TransGen.head'_iff.mp cycle
  rwa [points_unique points first]

lemma onCycle_of_points (points : Points next a b) (back : Leads next b a) : OnCycle next a :=
  TransGen.head' points back

lemma OnCycle.of_leads (cycle : OnCycle next a) (leads : Leads next a b) :
    OnCycle next b ∧ Leads next b a := by
  induction leads with
  | refl => exact ⟨cycle, .refl⟩
  | tail _ points ih =>
    have back := ih.1.back points
    exact ⟨TransGen.tail' back points, back.trans ih.2⟩

lemma Leads.not_onCycle (leads : Leads next i a) (last : next a = none)
    (way : Leads next i b) : ¬ OnCycle next b := by
  intro cycle
  have ends : ∀ c, ¬ Points next a c := by
    intro c points
    rw [Points, last] at points
    exact Option.some_ne_none c points.symm
  have here : OnCycle next a := by
    rcases leads.total way with forward | back
    · rcases ReflTransGen.cases_head forward with rfl | ⟨c, points, -⟩
      · exact cycle
      · exact absurd points (ends c)
    · exact (cycle.of_leads back).1
  obtain ⟨c, points, -⟩ := TransGen.head'_iff.mp here
  exact ends c points

lemma Enters.unique (first : Enters next i m) (second : Enters next i m')
    (cycle : OnCycle next m) (cycle' : OnCycle next m') : m = m' := by
  -- from a start on the cycle nothing outside is reached
  have inside : ∀ {m x}, OnCycle next m → m = i → Leads next i x → OnCycle next x := by
    rintro m x cycle rfl leads
    exact (cycle.of_leads leads).1
  have next_eq : ∀ {x y m m'}, Leads next x y → Points next x m → OnCycle next m →
      ¬ OnCycle next y → Points next y m' → m = m' := by
    intro x y m m' leads points cycle outside points'
    rcases ReflTransGen.cases_head leads with rfl | ⟨z, first, rest⟩
    · exact points_unique points points'
    · obtain rfl := points_unique points first
      exact absurd (cycle.of_leads rest).1 outside
  rcases first with start | ⟨x, leads, outside, points⟩
  · rcases second with start' | ⟨y, leads', outside', -⟩
    · rw [start, start']
    · exact absurd (inside cycle start leads') outside'
  · rcases second with start' | ⟨y, leads', outside', points'⟩
    · exact absurd (inside cycle' start' leads) outside
    · rcases leads.total leads' with forward | back
      · exact next_eq forward points cycle outside' points'
      · exact (next_eq back points' cycle' outside points).symm

lemma OnCycle.points_inj (cycle : OnCycle next a) (cycle' : OnCycle next b)
    (left : Points next a m) (right : Points next b m) : a = b := by
  have periodic : ∀ {x}, OnCycle next x →
      x ∈ Function.periodicPts fun a => (next a).getD a := by
    intro x cycle
    have steps : ∀ {y}, TransGen (Points next) x y →
        ∃ n, 0 < n ∧ (fun a => (next a).getD a)^[n] x = y := by
      intro y path
      induction path with
      | single points => exact ⟨1, Nat.one_pos, points.getD_eq⟩
      | tail _ points ih =>
        obtain ⟨n, _, eq⟩ := ih
        refine ⟨n + 1, Nat.succ_pos n, ?_⟩
        rw [Function.iterate_succ_apply', eq, points.getD_eq]
    obtain ⟨n, positive, eq⟩ := steps cycle
    exact ⟨n, positive, eq⟩
  refine (Function.bijOn_periodicPts (f := fun a => (next a).getD a)).injOn (periodic cycle)
    (periodic cycle') ?_
  exact left.getD_eq.trans right.getD_eq.symm

lemma Closes.unique (left : Closes next i a) (right : Closes next i b) : a = b := by
  obtain ⟨cycle, leads, m, points, enters⟩ := left
  obtain ⟨cycle', leads', m', points', enters'⟩ := right
  have on := (cycle.of_leads (.single points)).1
  have on' := (cycle'.of_leads (.single points')).1
  obtain rfl := enters.unique enters' on on'
  exact cycle.points_inj cycle' points points'

/-! ### Fewer pointers -/

section

variable {kept : α → Option α} (fewer : ∀ a b, Points kept a b → Points next a b)

include fewer

lemma Leads.of_fewer (leads : Leads kept a b) : Leads next a b := ReflTransGen.mono fewer _ _ leads

lemma OnCycle.of_fewer (cycle : OnCycle kept a) : OnCycle next a :=
  TransGen.mono fewer _ _ cycle

lemma OnCycle.leads_kept (cycle : OnCycle kept a) (leads : Leads next a b) :
    Leads kept a b := by
  induction leads with
  | refl => exact .refl
  | tail _ points ih =>
    obtain ⟨c, points', -⟩ := TransGen.head'_iff.mp (cycle.of_leads ih).1
    rw [points_unique points (fewer _ _ points')]
    exact ih.tail points'

end

lemma Leads.kept {kept : α → Option α}
    (all : ∀ x y, Leads next a x → Points next x y → Points kept x y) (leads : Leads next a b) :
    Leads kept a b := by
  induction leads with
  | refl => exact .refl
  | tail leads points ih => exact ih.tail (all _ _ leads points)

lemma OnCycle.kept {kept : α → Option α}
    (all : ∀ x y, Leads next a x → Points next x y → Points kept x y) (leads : Leads next a b)
    (cycle : OnCycle next b) : OnCycle kept b := by
  obtain ⟨c, points, back⟩ := TransGen.head'_iff.mp cycle
  refine onCycle_of_points (all _ _ leads points) (Leads.kept (fun x y leads' => ?_) back)
  exact all x y ((leads.tail points).trans leads')

end WorldServer.Lib
