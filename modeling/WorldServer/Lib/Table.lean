import Mathlib.Algebra.BigOperators.Group.Finset.Piecewise
import Mathlib.Algebra.Order.Ring.Int
import Mathlib.Data.List.AList
import Mathlib.Data.List.Sort

/-!
# Tables and totals

A `Table` is a finite map with an iteration order, as a store of objects keyed by
id is. `total` adds a measure of every entry; the rules say what an insertion, a
removal or an overwritten cell does to it.
-/
namespace WorldServer.Lib

/-- The members are tried, also where the type itself is finite. -/
instance decidableForallMem {α : Type} (p : α → Prop) [DecidablePred p] (as : List α) :
    Decidable (∀ a ∈ as, p a) := List.decidableBAll p as

abbrev Table (κ β : Type) := AList (fun _ : κ => β)

namespace Table

section Total

variable {κ β : Type}

def total (f : κ → β → ℕ) (t : Table κ β) : ℕ :=
  (t.entries.map fun e => f e.1 e.2).sum

@[simp] lemma total_empty (f : κ → β → ℕ) : total f (∅ : Table κ β) = 0 := rfl

lemma total_add (f g : κ → β → ℕ) (t : Table κ β) :
    total (fun k b => f k b + g k b) t = total f t + total g t := by
  simp [total]

def count (p : β → Bool) (t : Table κ β) : ℕ := total (fun _ b => if p b then 1 else 0) t

@[simp] lemma count_empty (p : β → Bool) : count p (∅ : Table κ β) = 0 := rfl

def gather {γ : Type} (f : β → List γ) (t : Table κ β) : List γ :=
  t.entries.flatMap fun e => f e.2

@[simp] lemma gather_empty {γ : Type} (f : β → List γ) : gather f (∅ : Table κ β) = [] := rfl

def mapValues (f : β → β) (t : Table κ β) : Table κ β :=
  ⟨t.entries.map fun e => ⟨e.1, f e.2⟩, by
    have keys : (t.entries.map fun e => (⟨e.1, f e.2⟩ : Sigma fun _ : κ => β)).keys =
        t.entries.keys := by
      simp [List.keys, Function.comp_def]
    rw [List.NodupKeys, keys]
    exact t.nodupKeys⟩

lemma total_mapValues (f : κ → β → ℕ) (g : β → β) (t : Table κ β) :
    total f (t.mapValues g) = total (fun k b => f k (g b)) t := by
  simp only [total, mapValues, List.map_map, Function.comp_def]

def keep (t : Table κ β) (p : κ → β → Bool) : Table κ β :=
  ⟨t.entries.filter fun e => p e.1 e.2, t.nodupKeys.sublist List.filter_sublist⟩

def filterMap {γ : Type} (t : Table κ β) (f : κ → β → Option γ) : Table κ γ :=
  ⟨t.entries.filterMap fun e => (f e.1 e.2).map fun c => ⟨e.1, c⟩, by
    refine List.Nodup.sublist ?_ t.nodupKeys
    generalize t.entries = entries
    induction entries with
    | nil => exact List.Sublist.refl _
    | cons e entries ih =>
      cases new : f e.1 e.2 with
      | none => simpa [List.keys, new] using ih.cons e.1
      | some c => simpa [List.keys, new] using ih.cons_cons e.1⟩

end Total

variable {κ β : Type} [DecidableEq κ]

lemma lookup_keep_iff (t : Table κ β) (p : κ → β → Bool) (k : κ) (b : β) :
    (t.keep p).lookup k = some b ↔ t.lookup k = some b ∧ p k b = true := by
  rw [← Option.mem_def, ← Option.mem_def, AList.mem_lookup_iff, AList.mem_lookup_iff]
  exact List.mem_filter

lemma lookup_filterMap {γ : Type} (t : Table κ β) (f : κ → β → Option γ) (k : κ) :
    (t.filterMap f).lookup k = (t.lookup k).bind (f k) := by
  obtain ⟨entries, nodup⟩ := t
  simp only [filterMap, AList.lookup]
  induction entries with
  | nil => rfl
  | cons e entries ih =>
    have rest := ih (List.nodupKeys_cons.mp nodup).2
    by_cases here : e.1 = k
    · subst here
      rw [List.dlookup_cons_eq]
      cases new : f e.1 e.2 with
      | some c => simp [new]
      | none =>
        -- the key does not come again
        have absent := List.dlookup_eq_none.mpr (List.nodupKeys_cons.mp nodup).1
        rw [absent] at rest
        simpa [new] using rest
    · rw [List.dlookup_cons_ne _ _ (Ne.symm here)]
      cases new : f e.1 e.2 with
      | some c => simpa [new, List.dlookup_cons_ne, Ne.symm here] using rest
      | none => simpa [new] using rest

def sorted [LE κ] [DecidableLE κ] (t : Table κ β) : List (κ × β) :=
  (t.entries.map fun e => (e.1, e.2)).insertionSort fun a b => a.1 ≤ b.1

section

variable (t : Table κ β)

lemma mem_sorted [LE κ] [DecidableLE κ] (k : κ) (b : β) :
    (k, b) ∈ t.sorted ↔ t.lookup k = some b := by
  rw [sorted, List.mem_insertionSort, ← Option.mem_def, AList.mem_lookup_iff, List.mem_map]
  constructor
  · rintro ⟨e, hm, hs⟩
    cases hs
    exact hm
  · exact fun hm => ⟨⟨k, b⟩, hm, rfl⟩

lemma entries_erase (k : κ) : (t.erase k).entries = t.entries.kerase k := rfl

lemma length_erase_lt {k : κ} {b : β} (hf : t.lookup k = some b) :
    (t.erase k).entries.length < t.entries.length := by
  have hm : (⟨k, b⟩ : Sigma fun _ : κ => β) ∈ t.entries := AList.mem_lookup_iff.mp hf
  obtain ⟨c, before, after, -, entries, erased⟩ :=
    List.exists_of_kerase (List.mem_keys_of_mem hm)
  rw [entries_erase, erased, entries]
  simp

lemma erase_of_none {k : κ} (absent : t.lookup k = none) : t.erase k = t := by
  have missing : k ∉ t.entries.keys := fun hm =>
    AList.lookup_eq_none.mp absent (AList.mem_keys.mpr hm)
  exact AList.ext (List.kerase_of_notMem_keys missing)

lemma lookup_insert_iff (k k' : κ) (b c : β) :
    (t.insert k b).lookup k' = some c ↔ (k' = k ∧ c = b) ∨ (k' ≠ k ∧ t.lookup k' = some c) := by
  by_cases hs : k' = k
  · subst hs
    simp [AList.lookup_insert, eq_comm]
  · simp [AList.lookup_insert_ne hs, hs]

lemma lookup_erase_iff (k k' : κ) (c : β) :
    (t.erase k).lookup k' = some c ↔ k' ≠ k ∧ t.lookup k' = some c := by
  by_cases hs : k' = k
  · subst hs
    simp [AList.lookup_erase]
  · simp [AList.lookup_erase_ne hs, hs]

end

lemma lookup_mapValues (f : β → β) (t : Table κ β) (k : κ) :
    (t.mapValues f).lookup k = (t.lookup k).map f := by
  obtain ⟨entries, nodup⟩ := t
  simp only [mapValues, AList.lookup]
  clear nodup
  induction entries with
  | nil => rfl
  | cons e entries ih =>
    by_cases here : e.1 = k
    · subst here
      rw [List.map_cons, List.dlookup_cons_eq, List.dlookup_cons_eq]
      rfl
    · simpa [List.dlookup_cons_ne, Ne.symm here] using ih

section

variable (f : κ → β → ℕ) (t : Table κ β) (k : κ)

lemma total_erase (b : β) (hf : t.lookup k = some b) :
    total f (t.erase k) + f k b = total f t := by
  have hm : (⟨k, b⟩ : Sigma fun _ : κ => β) ∈ t.entries := AList.mem_lookup_iff.mp hf
  obtain ⟨c, before, after, -, entries, erased⟩ :=
    List.exists_of_kerase (List.mem_keys_of_mem hm)
  have hs : c = b := by
    have here : t.lookup k = some c := by
      apply AList.mem_lookup_iff.mpr
      rw [entries]
      simp
    rw [hf] at here
    exact (Option.some.inj here).symm
  subst hs
  have rest : (t.erase k).entries = before ++ after := erased
  simp only [total, rest, entries, List.map_append, List.map_cons, List.sum_append, List.sum_cons]
  omega

lemma total_erase_of_none (absent : t.lookup k = none) : total f (t.erase k) = total f t := by
  rw [erase_of_none t absent]

lemma total_insert (b : β) : total f (t.insert k b) = f k b + total f (t.erase k) := by
  simp [total, AList.entries_insert, entries_erase]

lemma total_insert_of_none (b : β) (absent : t.lookup k = none) :
    total f (t.insert k b) = f k b + total f t := by
  rw [total_insert, total_erase_of_none f t k absent]

end

lemma gather_insert {γ : Type} (f : β → List γ) (t : Table κ β) (k : κ) (b : β) :
    gather f (t.insert k b) = f b ++ gather f (t.erase k) := by
  simp [gather, AList.entries_insert, entries_erase]

lemma gather_erase {γ : Type} (f : β → List γ) (t : Table κ β) {k : κ} {b : β}
    (hf : t.lookup k = some b) : (gather f t).Perm (f b ++ gather f (t.erase k)) := by
  have hm : (⟨k, b⟩ : Sigma fun _ : κ => β) ∈ t.entries := AList.mem_lookup_iff.mp hf
  have entries : t.entries.Perm (⟨k, b⟩ :: (t.erase k).entries) := by
    obtain ⟨c, before, after, -, here, erased⟩ :=
      List.exists_of_kerase (List.mem_keys_of_mem hm)
    have hs : c = b := by
      have lookup : t.lookup k = some c := AList.mem_lookup_iff.mpr (by simp [here])
      exact Option.some.inj (lookup.symm.trans hf)
    rw [entries_erase, erased, here, hs]
    exact List.perm_middle
  exact entries.flatMap_right _

lemma count_eq_zero_iff (p : β → Bool) (t : Table κ β) :
    count p t = 0 ↔ ∀ k b, t.lookup k = some b → p b = false := by
  simp only [count, total, List.sum_eq_zero_iff_forall_eq_nat, List.mem_map, forall_exists_index, and_imp,
    forall_apply_eq_imp_iff₂]
  constructor
  · intro none k b hf
    have zero := none ⟨k, b⟩ (AList.mem_lookup_iff.mp hf)
    simpa using zero
  · intro none e hm
    have missing := none e.1 e.2 (AList.mem_lookup_iff.mpr hm)
    simp [missing]

lemma count_eq_card (p : β → Bool) (t : Table κ β) (s : Finset κ)
    (hs : ∀ k, k ∈ s ↔ ∃ b, t.lookup k = some b ∧ p b = true) : count p t = s.card := by
  have counted : count p t = ((t.keep fun _ b => p b).keys).length := by
    have sum : ∀ entries : List (Sigma fun _ : κ => β),
        (entries.map fun e => if p e.2 then 1 else 0).sum =
          (entries.filter fun e => p e.2).length := fun entries => by
      induction entries with
      | nil => rfl
      | cons e entries ih => cases has : p e.2 <;> simp [has, ih, Nat.add_comm]
    rw [count, total, sum, AList.keys, List.keys, List.length_map]
    rfl
  have keys : s = (t.keep fun _ b => p b).keys.toFinset := by
    ext k
    rw [hs, List.mem_toFinset, ← AList.mem_keys, ← AList.lookup_isSome, Option.isSome_iff_exists]
    simp only [lookup_keep_iff]
  rw [counted, keys, List.toFinset_card_of_nodup (AList.keys_nodup _)]

lemma total_insert_of_some (f : κ → β → ℕ) (t : Table κ β) (k : κ) (b c : β)
    (hf : t.lookup k = some c) : total f (t.insert k b) + f k c = f k b + total f t := by
  rw [total_insert, ← total_erase f t k c hf]
  omega

end Table

lemma sum_map_set {α : Type} (f : α → ℕ) (as : List α) (i : ℕ) (a b : α)
    (here : as[i]? = some a) : ((as.set i b).map f).sum + f a = (as.map f).sum + f b := by
  induction as generalizing i with
  | nil => simp at here
  | cons c as ih =>
    cases i with
    | zero =>
      obtain rfl : c = a := by simpa using here
      simp only [List.set_cons_zero, List.map_cons, List.sum_cons]
      omega
    | succ i =>
      have rest := ih i (by simpa using here)
      simp only [List.set_cons_succ, List.map_cons, List.sum_cons]
      omega

lemma sum_update {ι : Type} [DecidableEq ι] (s : Finset ι) (f : ι → ℕ) (i : ι) (n : ℕ)
    (hm : i ∈ s) : ∑ j ∈ s, Function.update f i n j + f i = ∑ j ∈ s, f j + n := by
  rw [Finset.sum_update_of_mem hm, ← Finset.add_sum_erase s f hm,
    Finset.sdiff_singleton_eq_erase]
  omega

end WorldServer.Lib
