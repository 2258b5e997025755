import WorldServer.Lib.Table

/-!
# Statements about the rows of a table

An object that is kept in memory is written back with a list of statements. A
statement names one row. What becomes of a row depends on the statements that
name it and on nothing else, so a write-back is understood key by key.
-/
namespace WorldServer.Lib

/-- A statement about one row. `insert` does nothing where the row is there, `update` where it is
not. -/
inductive Statement (κ β : Type) where
  | insert (key : κ) (row : β)
  | replace (key : κ) (row : β)
  | update (key : κ) (row : β)
  | delete (key : κ)
deriving DecidableEq

namespace Statement

variable {κ κ' β γ : Type} [DecidableEq κ] [DecidableEq κ']

def key : Statement κ β → κ
  | insert k _ => k
  | replace k _ => k
  | update k _ => k
  | delete k => k

def effect : Statement κ β → Option β → Option β
  | insert _ row, old => old.or (some row)
  | replace _ row, _ => some row
  | update _ row, old => old.map fun _ => row
  | delete _, _ => none

def exec (rows : Table κ β) : Statement κ β → Table κ β
  | insert k row => if rows.lookup k = none then rows.insert k row else rows
  | replace k row => rows.insert k row
  | update k row => if rows.lookup k = none then rows else rows.insert k row
  | delete k => rows.erase k

def execAll (rows : Table κ β) (sts : List (Statement κ β)) : Table κ β := sts.foldl exec rows

section

variable (rows : Table κ β)

@[simp] lemma execAll_nil : execAll rows [] = rows := rfl

@[simp] lemma execAll_cons (st : Statement κ β) (sts : List (Statement κ β)) :
    execAll rows (st :: sts) = execAll (exec rows st) sts := rfl

lemma execAll_append (sts sts' : List (Statement κ β)) :
    execAll rows (sts ++ sts') = execAll (execAll rows sts) sts' :=
  List.foldl_append

lemma lookup_exec (st : Statement κ β) (k : κ) :
    (exec rows st).lookup k =
      if st.key = k then st.effect (rows.lookup k) else rows.lookup k := by
  by_cases here : st.key = k
  · subst here
    cases st with
    | insert j row =>
      cases hf : rows.lookup j with
      | none => simp [exec, key, effect, hf]
      | some old => simp [exec, key, effect, hf]
    | replace j row => simp [exec, key, effect]
    | update j row =>
      cases hf : rows.lookup j with
      | none => simp [exec, key, effect, hf]
      | some old => simp [exec, key, effect, hf]
    | delete j => simp [exec, key, effect]
  · rw [if_neg here]
    have other : k ≠ st.key := Ne.symm here
    cases st with
    | insert j row =>
      rw [exec]
      split
      · exact AList.lookup_insert_ne other
      · rfl
    | replace j row => exact AList.lookup_insert_ne other
    | update j row =>
      rw [exec]
      split
      · rfl
      · exact AList.lookup_insert_ne other
    | delete j => exact AList.lookup_erase_ne other

lemma lookup_execAll_of_others {sts : List (Statement κ β)} {k : κ}
    (others : ∀ st ∈ sts, st.key ≠ k) : (execAll rows sts).lookup k = rows.lookup k := by
  induction sts generalizing rows with
  | nil => rfl
  | cons st sts ih =>
    rw [execAll_cons, ih (exec rows st) fun st' hm => others st' (List.mem_cons_of_mem _ hm)]
    rw [lookup_exec, if_neg (others st List.mem_cons_self)]

lemma lookup_execAll_of_own {sts : List (Statement κ β)} {k : κ} (own : ∀ st ∈ sts, st.key = k) :
    (execAll rows sts).lookup k = sts.foldl (fun row st => st.effect row) (rows.lookup k) := by
  induction sts generalizing rows with
  | nil => rfl
  | cons st sts ih =>
    rw [execAll_cons, ih (exec rows st) fun st' hm => own st' (List.mem_cons_of_mem _ hm)]
    rw [lookup_exec, if_pos (own st List.mem_cons_self), List.foldl_cons]

end

/-! ### Writing a table back -/

/-- The statements for every entry of a table, in the order of the entries -/
def flush (t : Table κ γ) (write : κ → γ → List (Statement κ' β)) : List (Statement κ' β) :=
  t.entries.flatMap fun e => write e.1 e.2

variable {write : κ → γ → List (Statement κ' β)} {rowOf : κ → κ'}

lemma lookup_flush_of_none (rows : Table κ' β) (t : Table κ γ)
    (own : ∀ k c, ∀ st ∈ write k c, st.key = rowOf k) {j : κ'}
    (none : ∀ k c, t.lookup k = some c → rowOf k ≠ j) :
    (execAll rows (flush t write)).lookup j = rows.lookup j := by
  apply lookup_execAll_of_others
  intro st hm
  obtain ⟨e, entry, wrote⟩ := List.mem_flatMap.mp hm
  rw [own e.1 e.2 st wrote]
  exact none e.1 e.2 (AList.mem_lookup_iff.mpr entry)

/-- The row of an entry takes the effects of the statements for that entry, where no other entry
has the same row. -/
lemma lookup_flush (rows : Table κ' β) (t : Table κ γ)
    (own : ∀ k c, ∀ st ∈ write k c, st.key = rowOf k) {k : κ} {c : γ}
    (hf : t.lookup k = some c)
    (alone : ∀ k' c', t.lookup k' = some c' → rowOf k' = rowOf k → k' = k) :
    (execAll rows (flush t write)).lookup (rowOf k) =
      (write k c).foldl (fun row st => st.effect row) (rows.lookup (rowOf k)) := by
  -- the entry splits the list: what is before it and after it names other rows
  have hm : ⟨k, c⟩ ∈ t.entries := AList.mem_lookup_iff.mp hf
  obtain ⟨before, after, split⟩ := List.append_of_mem hm
  have distinct := t.nodupKeys
  rw [split, List.NodupKeys, List.keys, List.map_append, List.map_cons, List.nodup_append] at distinct
  obtain ⟨_, later, apart⟩ := distinct
  have notBefore : ∀ e ∈ before, e.1 ≠ k := by
    intro e inBefore
    exact apart e.1 (List.mem_map_of_mem inBefore) k List.mem_cons_self
  have notAfter : ∀ e ∈ after, e.1 ≠ k := by
    intro e inAfter hs
    have again : e.1 ∈ after.map Sigma.fst := List.mem_map_of_mem inAfter
    rw [hs] at again
    exact (List.nodup_cons.mp later).1 again
  have others : ∀ es : List (Sigma fun _ : κ => γ), (∀ e ∈ es, e ∈ t.entries) →
      (∀ e ∈ es, e.1 ≠ k) → ∀ st ∈ es.flatMap (fun e => write e.1 e.2), st.key ≠ rowOf k := by
    intro es entries other st wrote hs
    obtain ⟨e, entry, ofEntry⟩ := List.mem_flatMap.mp wrote
    rw [own e.1 e.2 st ofEntry] at hs
    exact other e entry (alone e.1 e.2 (AList.mem_lookup_iff.mpr (entries e entry)) hs)
  have inEntries : ∀ e, e ∈ before ∨ e ∈ after → e ∈ t.entries := by
    intro e side
    rw [split, List.mem_append, List.mem_cons]
    tauto
  rw [flush, split, List.flatMap_append, List.flatMap_cons, execAll_append, execAll_append]
  rw [lookup_execAll_of_others _ (others after (fun e h => inEntries e (.inr h)) notAfter)]
  rw [lookup_execAll_of_own _ (own k c)]
  rw [lookup_execAll_of_others _ (others before (fun e h => inEntries e (.inl h)) notBefore)]

end Statement

end WorldServer.Lib
