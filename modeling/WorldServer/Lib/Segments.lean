import Mathlib.Data.List.Basic

/-!
# Streams that arrive in pieces

A machine takes one packet after another from what it has buffered, until it stops: because a packet
is not complete, or because it is closed. If each turn does the same when more is buffered, the
machine ends in the same state however the stream is cut.
-/
namespace WorldServer.Lib

/-- A turn takes a packet, or it is the last one for the moment. -/
inductive Turn (σ α : Type) where
  | again (s : σ) (rest : List α)
  | stop (s : σ) (rest : List α)
deriving DecidableEq, Repr

/-- A machine that reads a stream; each packet has at least one byte. -/
structure Reader (σ α : Type) where
  turn : σ → List α → Turn σ α
  closed : σ → Bool
  shrinks : ∀ s buffer t rest, turn s buffer = .again t rest → rest.length < buffer.length

namespace Reader

variable {σ α : Type} (m : Reader σ α)

def turns : ℕ → σ → List α → σ × List α
  | 0, s, buffer => (s, buffer)
  | fuel + 1, s, buffer =>
    match m.turn s buffer with
    | .again t rest => turns fuel t rest
    | .stop t rest => (t, rest)

def drain (s : σ) (buffer : List α) : σ × List α := m.turns (buffer.length + 1) s buffer

def feed (p : σ × List α) (piece : List α) : σ × List α :=
  if m.closed p.1 then p else m.drain p.1 (p.2 ++ piece)

lemma turns_of_enough {fuel : ℕ} (s : σ) (buffer : List α) (enough : buffer.length < fuel) :
    m.turns fuel s buffer = m.drain s buffer := by
  suffices all : ∀ (n fuel : ℕ) (s : σ) (buffer : List α), buffer.length < n →
      buffer.length < fuel → m.turns n s buffer = m.turns fuel s buffer from
    (all (buffer.length + 1) fuel s buffer (Nat.lt_succ_self _) enough).symm
  intro n
  induction n with
  | zero => exact fun _ _ _ none => absurd none (Nat.not_lt_zero _)
  | succ n ih =>
    intro fuel s buffer enough enough'
    cases fuel with
    | zero => exact absurd enough' (Nat.not_lt_zero _)
    | succ fuel =>
      rw [turns, turns]
      cases taken : m.turn s buffer with
      | stop t rest => rfl
      | again t rest =>
        have shorter := m.shrinks s buffer t rest taken
        exact ih fuel t rest (by omega) (by omega)

lemma drain_eq (s : σ) (buffer : List α) : m.drain s buffer =
    match m.turn s buffer with
    | .again t rest => m.drain t rest
    | .stop t rest => (t, rest) := by
  rw [drain, turns]
  cases taken : m.turn s buffer with
  | stop t rest => rfl
  | again t rest => exact m.turns_of_enough t rest (m.shrinks s buffer t rest taken)

/-- More bytes do not change a turn: a packet is taken in the same way, a machine that closes does
so, and one that waits has taken nothing. -/
def Steady (s : σ) (buffer : List α) : Prop :=
  match m.turn s buffer with
  | .again t rest =>
    m.closed t = false ∧ ∀ more, m.turn s (buffer ++ more) = .again t (rest ++ more)
  | .stop t rest =>
    (t = s ∧ rest = buffer) ∨
      (m.closed t = true ∧ ∀ more, m.turn s (buffer ++ more) = .stop t (rest ++ more))

variable (Fine : σ → List α → Prop)

inductive Drains : σ → List α → Prop
  | stop {s t : σ} {buffer rest : List α} (fine : Fine s buffer)
      (taken : m.turn s buffer = .stop t rest) : Drains s buffer
  | again {s t : σ} {buffer rest : List α} (fine : Fine s buffer)
      (taken : m.turn s buffer = .again t rest) (next : Drains t rest) : Drains s buffer

def Finely : σ × List α → List (List α) → Prop
  | _, [] => True
  | _, [_] => True
  | p, piece :: pieces =>
    m.closed p.1 = true ∨
      (m.Drains Fine p.1 (p.2 ++ piece) ∧ Finely (m.feed p piece) pieces)

/-- The same state, and the same buffer as long as it is open. -/
def Same (p q : σ × List α) : Prop :=
  p.1 = q.1 ∧ (m.closed p.1 = false → p.2 = q.2)

lemma Same.refl (p : σ × List α) : m.Same p p := ⟨rfl, fun _ => rfl⟩

variable {m Fine}

lemma Drains.append (steady : ∀ s buffer, m.closed s = false → Fine s buffer → m.Steady s buffer)
    {s : σ} {buffer : List α} (drains : m.Drains Fine s buffer) (opened : m.closed s = false)
    (more : List α) : m.Same (m.feed (m.drain s buffer) more) (m.drain s (buffer ++ more)) := by
  induction drains with
  | @stop s t buffer rest fine taken =>
    have steady := steady s buffer opened fine
    rw [Steady, taken] at steady
    rw [m.drain_eq s buffer, taken]
    rcases steady with ⟨rfl, rfl⟩ | ⟨closed, hs⟩
    · rw [feed, opened]
      exact .refl m _
    · have whole : m.drain s (buffer ++ more) = (t, rest ++ more) := by
        rw [m.drain_eq, hs]
      rw [whole, feed, if_pos closed]
      refine ⟨rfl, fun isOpen => ?_⟩
      cases closed.symm.trans isOpen
  | @again s t buffer rest fine taken next ih =>
    have steady := steady s buffer opened fine
    rw [Steady, taken] at steady
    rw [m.drain_eq s buffer, taken, m.drain_eq s (buffer ++ more), steady.2]
    exact ih steady.1

lemma Same.trans {p q r : σ × List α} (first : m.Same p q) (second : m.Same q r) :
    m.Same p r := by
  refine ⟨first.1.trans second.1, fun isOpen => ?_⟩
  exact (first.2 isOpen).trans (second.2 (first.1 ▸ isOpen))

lemma foldl_closed {p : σ × List α} (closed : m.closed p.1 = true) (pieces : List (List α)) :
    pieces.foldl m.feed p = p := by
  induction pieces with
  | nil => rfl
  | cons piece pieces ih => rw [List.foldl_cons, feed, if_pos closed, ih]

lemma foldl_feed_same (steady : ∀ s buffer, m.closed s = false → Fine s buffer → m.Steady s buffer)
    {p : σ × List α} {first : List α} {pieces : List (List α)}
    (finely : m.Finely Fine p (first :: pieces)) :
    m.Same ((first :: pieces).foldl m.feed p) (m.feed p (first :: pieces).flatten) := by
  induction pieces generalizing p first with
  | nil =>
    rw [List.foldl_cons, List.foldl_nil, List.flatten_cons, List.flatten_nil, List.append_nil]
    exact .refl m _
  | cons second pieces ih =>
    rw [Finely] at finely
    · cases closed : m.closed p.1 with
      | true =>
        rw [foldl_closed closed, feed, if_pos closed]
        exact .refl m _
      | false =>
        rcases finely with isClosed | ⟨drains, rest⟩
        · cases closed.symm.trans isClosed
        · rw [List.foldl_cons, List.flatten_cons]
          apply (ih rest).trans
          have one : m.feed p first = m.drain p.1 (p.2 ++ first) := by
            rw [feed, closed]
            rfl
          have both : m.feed p (first ++ (second :: pieces).flatten) =
              m.drain p.1 (p.2 ++ first ++ (second :: pieces).flatten) := by
            rw [feed, closed, List.append_assoc]
            rfl
          rw [one, both]
          exact drains.append steady closed _
    · exact List.cons_ne_nil _ _

end Reader

end WorldServer.Lib
