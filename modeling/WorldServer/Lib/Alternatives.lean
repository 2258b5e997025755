import WorldServer.Lib.Table

/-!
# Alternatives

Requirements come in one list, and each belongs to a group. The groups are alternatives of each
other, and of a group all requirements count: the answer is the join over the groups of the meet of
their values. A value may be missing, as its computation may not end; nothing is computed any more
for a group that has come down to `⊥`.
-/
namespace WorldServer.Lib

namespace Alternatives

variable {γ β : Type} [Lattice β] [BoundedOrder β] [DecidableEq β]
variable (group : γ → ℕ) (value : γ → Option β)

/-- The value of a group, which is `⊤` as long as there is none. -/
def groupValue (groups : Table ℕ β) (g : ℕ) : β := (groups.lookup g).getD ⊤

def add (groups : Table ℕ β) (c : γ) : Option (Table ℕ β) :=
  if groupValue groups (group c) = ⊥ then some groups
  else (value c).map fun b => groups.insert (group c) (groupValue groups (group c) ⊓ b)

def addAll : List γ → Table ℕ β → Option (Table ℕ β)
  | [], groups => some groups
  | c :: rest, groups => (add group value groups c).bind (addAll rest)

def join (groups : Table ℕ β) : β := (groups.entries.map Sigma.snd).foldr (· ⊔ ·) ⊥

def answer (requirements : List γ) : Option β :=
  (addAll group value requirements ∅).map join

variable {group value}

@[simp] lemma addAll_nil (groups : Table ℕ β) : addAll group value [] groups = some groups := rfl

lemma addAll_cons (c : γ) (rest : List γ) (groups : Table ℕ β) :
    addAll group value (c :: rest) groups =
      (add group value groups c).bind (addAll group value rest) := rfl

omit [DecidableEq β] in
lemma groupValue_insert (groups : Table ℕ β) (g h : ℕ) (b : β) :
    groupValue (groups.insert g b) h = if h = g then b else groupValue groups h := by
  by_cases hs : h = g
  · subst hs
    simp [groupValue, AList.lookup_insert]
  · simp [groupValue, AList.lookup_insert_ne hs, hs]

variable {groups groups' : Table ℕ β} {requirements : List γ} {r : β}

lemma add_eq_some {c : γ} (added : add group value groups c = some groups') :
    (groupValue groups (group c) = ⊥ ∧ groups' = groups) ∨
      ∃ b, value c = some b ∧
        groups' = groups.insert (group c) (groupValue groups (group c) ⊓ b) := by
  rw [add] at added
  split at added
  · next bottom => exact .inl ⟨bottom, (Option.some.inj added).symm⟩
  · obtain ⟨b, here, new⟩ := Option.map_eq_some_iff.mp added
    exact .inr ⟨b, here, new.symm⟩

lemma answer_mono {value' : γ → Option β} (more : ∀ c b, value c = some b → value' c = some b)
    (answered : answer group value requirements = some r) :
    answer group value' requirements = some r := by
  obtain ⟨groups, all, joined⟩ := Option.map_eq_some_iff.mp answered
  suffices h : ∀ groups₀ : Table ℕ β, addAll group value requirements groups₀ = some groups →
      addAll group value' requirements groups₀ = some groups by
    exact Option.map_eq_some_iff.mpr ⟨groups, h ∅ all, joined⟩
  clear all answered
  induction requirements with
  | nil => exact fun _ all => all
  | cons c rest ih =>
    intro groups₀ all
    obtain ⟨groups₁, added, all⟩ := Option.bind_eq_some_iff.mp all
    refine Option.bind_eq_some_iff.mpr ⟨groups₁, ?_, ih groups₁ all⟩
    rcases add_eq_some added with ⟨bottom, rfl⟩ | ⟨b, here, rfl⟩
    · rw [add, if_pos bottom]
    · rw [add] at added ⊢
      simpa only [here, more c b here] using added

lemma answer_isSome (values : ∀ c ∈ requirements, (value c).isSome) :
    (answer group value requirements).isSome := by
  suffices h : ∀ groups : Table ℕ β, (addAll group value requirements groups).isSome by
    simpa [answer] using h ∅
  induction requirements with
  | nil => exact fun _ => rfl
  | cons c rest ih =>
    intro groups
    have added : (add group value groups c).isSome := by
      rw [add]
      split
      · rfl
      · simpa using values c (List.mem_cons_self ..)
    obtain ⟨groups', added⟩ := Option.isSome_iff_exists.mp added
    rw [addAll_cons, added]
    exact ih (fun c hm => values c (List.mem_cons_of_mem _ hm)) groups'

/-! ### What an answer says -/

section Prime

/-- A property that a meet has if both sides have it, and a join if one of them has it. -/
structure Prime (P : β → Prop) : Prop where
  top : P ⊤
  bot : ¬ P ⊥
  inf : ∀ a b, P (a ⊓ b) ↔ P a ∧ P b
  sup : ∀ a b, P (a ⊔ b) ↔ P a ∨ P b

variable {P : β → Prop} {V : γ → Prop}

omit [DecidableEq β] in
lemma Prime.join_iff (prime : Prime P) (groups : Table ℕ β) :
    P (join groups) ↔ ∃ g b, groups.lookup g = some b ∧ P b := by
  have entries : ∀ bs : List β, P (bs.foldr (· ⊔ ·) ⊥) ↔ ∃ b ∈ bs, P b := by
    intro bs
    induction bs with
    | nil => simpa using prime.bot
    | cons b bs ih => simp [prime.sup, ih]
  rw [join, entries]
  constructor
  · rintro ⟨b, hm, holds⟩
    obtain ⟨⟨g, b⟩, entry, rfl⟩ := List.mem_map.mp hm
    exact ⟨g, b, AList.mem_lookup_iff.mpr entry, holds⟩
  · rintro ⟨g, b, hf, holds⟩
    exact ⟨b, List.mem_map.mpr ⟨⟨g, b⟩, AList.mem_lookup_iff.mp hf, rfl⟩, holds⟩

/-- The requirements that were added: their groups are there, and what is true of the value of a
group is what is required in it. -/
structure Added (group : γ → ℕ) (P : β → Prop) (V : γ → Prop) (done : List γ)
    (groups : Table ℕ β) : Prop where
  occurs : ∀ g, (groups.lookup g).isSome ↔ ∃ c ∈ done, group c = g
  holds : ∀ g, P (groupValue groups g) ↔ ∀ c ∈ done, group c = g → V c

lemma Added.of_add (prime : Prime P) {done : List γ} {c : γ} (state : Added group P V done groups)
    (means : ∀ b, value c = some b → (P b ↔ V c)) (added : add group value groups c = some groups') :
    Added group P V (done ++ [c]) groups' := by
  rcases add_eq_some added with ⟨bottom, rfl⟩ | ⟨b, here, rfl⟩
  · -- the group is lost already, for something that was required before
    have lost : ¬ ∀ c' ∈ done, group c' = group c → V c' := by
      rw [← state.holds, bottom]
      exact prime.bot
    obtain ⟨c', hm, hs, -⟩ : ∃ c' ∈ done, group c' = group c ∧ ¬ V c' := by
      simpa using lost
    constructor
    · intro g
      rw [state.occurs]
      constructor
      · rintro ⟨c₁, hm₁, eq⟩
        exact ⟨c₁, List.mem_append_left _ hm₁, eq⟩
      · rintro ⟨c₁, hm₁, eq⟩
        rcases List.mem_append.mp hm₁ with old | new
        · exact ⟨c₁, old, eq⟩
        · obtain rfl := List.mem_singleton.mp new
          exact ⟨c', hm, hs.trans eq⟩
    · intro g
      rw [state.holds]
      constructor
      · intro all c₁ hm₁ eq
        rcases List.mem_append.mp hm₁ with old | new
        · exact all c₁ old eq
        · obtain rfl := List.mem_singleton.mp new
          exact absurd (by rwa [eq]) lost
      · exact fun all c₁ hm₁ eq => all c₁ (List.mem_append_left _ hm₁) eq
  · constructor
    · intro g
      by_cases hs : g = group c
      · subst hs
        simp [AList.lookup_insert]
      · simp [AList.lookup_insert_ne hs, state.occurs, or_and_right, exists_or, Ne.symm hs]
    · intro g
      rw [groupValue_insert]
      by_cases hs : g = group c
      · subst hs
        simp [prime.inf, state.holds, means b here, or_imp, forall_and]
      · simp [hs, Ne.symm hs, state.holds, or_imp, forall_and]

lemma Added.of_addAll (prime : Prime P) {done rest : List γ} (state : Added group P V done groups)
    (means : ∀ c ∈ rest, ∀ b, value c = some b → (P b ↔ V c))
    (added : addAll group value rest groups = some groups') :
    Added group P V (done ++ rest) groups' := by
  induction rest generalizing done groups with
  | nil =>
    obtain rfl := Option.some.inj added
    simpa using state
  | cons c rest ih =>
    obtain ⟨groups₁, first, others⟩ := Option.bind_eq_some_iff.mp added
    have next := state.of_add prime (means c (List.mem_cons_self ..)) first
    simpa using ih next (fun c hm => means c (List.mem_cons_of_mem _ hm)) others

lemma Prime.answer_iff (prime : Prime P)
    (means : ∀ c ∈ requirements, ∀ b, value c = some b → (P b ↔ V c))
    (answered : answer group value requirements = some r) :
    P r ↔ ∃ g, (∃ c ∈ requirements, group c = g) ∧ ∀ c ∈ requirements, group c = g → V c := by
  obtain ⟨groups, all, rfl⟩ := Option.map_eq_some_iff.mp answered
  have nothing : Added group P V [] (∅ : Table ℕ β) := by
    constructor
    · simp
    · simpa [groupValue] using prime.top
  have state := nothing.of_addAll prime means all
  rw [prime.join_iff]
  constructor
  · rintro ⟨g, b, hf, holds⟩
    refine ⟨g, (state.occurs g).mp (by simp [hf]), (state.holds g).mp ?_⟩
    simpa [groupValue, hf] using holds
  · rintro ⟨g, occurs, holds⟩
    obtain ⟨b, hf⟩ := Option.isSome_iff_exists.mp ((state.occurs g).mpr occurs)
    refine ⟨g, b, hf, ?_⟩
    simpa [groupValue, hf] using (state.holds g).mpr holds

end Prime

lemma isSome_of_answer [Nontrivial β] (top : ∀ c ∈ requirements, ∀ b, value c = some b → b = ⊤)
    (answered : answer group value requirements = some r) :
    ∀ c ∈ requirements, (value c).isSome := by
  obtain ⟨groups, all, -⟩ := Option.map_eq_some_iff.mp answered
  suffices h : ∀ groups₀ : Table ℕ β, (∀ g, groupValue groups₀ g = ⊤) →
      addAll group value requirements groups₀ = some groups →
      ∀ c ∈ requirements, (value c).isSome by
    exact h ∅ (fun _ => by simp [groupValue]) all
  clear all answered
  induction requirements with
  | nil => simp
  | cons c rest ih =>
    intro groups₀ full all
    obtain ⟨groups₁, added, others⟩ := Option.bind_eq_some_iff.mp all
    rcases add_eq_some added with ⟨bottom, -⟩ | ⟨b, here, rfl⟩
    · exact absurd (bottom.symm.trans (full _)) bot_ne_top
    · refine List.forall_mem_cons.mpr ⟨by simp [here], ?_⟩
      refine ih (fun c hm => top c (List.mem_cons_of_mem _ hm)) _ ?_ others
      intro g
      rw [groupValue_insert, full, full, top c (List.mem_cons_self ..) b here]
      simp

end Alternatives

end WorldServer.Lib
