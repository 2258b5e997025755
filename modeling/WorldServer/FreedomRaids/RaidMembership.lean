import WorldServer.FreedomRaids.FRaid

/-!
# Who is in which raid

A player is in one raid at most, and the leader of a raid is one of its members and an assistant.
Every command keeps this, except that an invite can be accepted by a player who has made a raid of
his own since he was invited.
-/
namespace WorldServer.FreedomRaids

open WorldServer.Lib

namespace FRaid

variable {rows rows' : RaidTable}

lemma any_entries_iff (q : UInt32 × UInt32 → RaidRow → Prop) [∀ key row, Decidable (q key row)] :
    (rows.entries.any fun e => q e.1 e.2) = true ↔ ∃ key row, rows.lookup key = some row ∧ q key row := by
  rw [List.any_eq_true]
  constructor
  · rintro ⟨⟨key, row⟩, hm, holds⟩
    exact ⟨key, row, AList.mem_lookup_iff.mpr hm, by simpa using holds⟩
  · rintro ⟨key, row, hf, holds⟩
    exact ⟨⟨key, row⟩, AList.mem_lookup_iff.mp hf, by simpa using holds⟩

variable {p l q leader m : UInt32} {row : RaidRow}

lemma isInRaid_iff : IsInRaid rows p = true ↔ ∃ l row, rows.lookup (l, p) = some row := by
  rw [IsInRaid, any_entries_iff fun key _ => key.2 = p]
  constructor
  · rintro ⟨⟨l, m⟩, row, hf, rfl⟩
    exact ⟨l, row, hf⟩
  · rintro ⟨l, row, hf⟩
    exact ⟨(l, p), row, hf, rfl⟩

lemma isRaidLeader_iff : IsRaidLeader rows p = true ↔ ∃ m row, rows.lookup (p, m) = some row := by
  rw [IsRaidLeader, any_entries_iff fun key _ => key.1 = p]
  constructor
  · rintro ⟨⟨l, m⟩, row, hf, rfl⟩
    exact ⟨m, row, hf⟩
  · rintro ⟨m, row, hf⟩
    exact ⟨(p, m), row, hf, rfl⟩

lemma isAssistant_iff :
    IsAssistant rows p = true ↔ ∃ l row, rows.lookup (l, p) = some row ∧ row.assistant = 1 := by
  rw [IsAssistant, any_entries_iff fun key row => key.2 = p ∧ row.assistant = 1]
  constructor
  · rintro ⟨⟨l, m⟩, row, hf, rfl, assistant⟩
    exact ⟨l, row, hf, assistant⟩
  · rintro ⟨l, row, hf, assistant⟩
    exact ⟨(l, p), row, hf, rfl, assistant⟩

/-! ### Consistent tables -/

/-- One raid for a player, and the leader's own row in every raid -/
structure Consistent (rows : RaidTable) : Prop where
  named : ∀ l m row, rows.lookup (l, m) = some row → l ≠ 0 ∧ m ≠ 0
  unique : ∀ l l' m row row', rows.lookup (l, m) = some row → rows.lookup (l', m) = some row' → l = l'
  led : ∀ l m row, rows.lookup (l, m) = some row →
    ∃ own, rows.lookup (l, l) = some own ∧ own.assistant = 1

/-- What the queries say of a player in a raid -/
structure Answers (rows : RaidTable) (l p : UInt32) (row : RaidRow) : Prop where
  inRaid : IsInRaid rows p = true
  leaderGuid : GetLeaderGuid rows p = l
  subgroup : GetSubgroup rows p = row.subgroup
  assistant : IsAssistant rows p = true ↔ row.assistant = 1
  leader : IsRaidLeader rows p = true ↔ p = l

lemma Consistent.rowOf (h : Consistent rows) (hf : rows.lookup (l, p) = some row) :
    FRaid.rowOf rows p = some ⟨(l, p), row⟩ := by
  cases first : FRaid.rowOf rows p with
  | none =>
    have none := List.find?_eq_none.mp first ⟨(l, p), row⟩ (AList.mem_lookup_iff.mp hf)
    simp at none
  | some e =>
    obtain ⟨⟨l', m⟩, row'⟩ := e
    have hm := AList.mem_lookup_iff.mpr (List.mem_of_find?_eq_some first)
    have hs := List.find?_some first
    obtain rfl : m = p := by simpa using hs
    obtain rfl := h.unique l l' m row row' hf hm
    rw [hf] at hm
    cases hm
    rfl

lemma Consistent.answers (h : Consistent rows) (hf : rows.lookup (l, p) = some row) :
    Answers rows l p row where
  inRaid := isInRaid_iff.mpr ⟨l, row, hf⟩
  leaderGuid := by rw [GetLeaderGuid, h.rowOf hf]; rfl
  subgroup := by rw [GetSubgroup, h.rowOf hf]; rfl
  assistant := by
    rw [isAssistant_iff]
    constructor
    · rintro ⟨l', row', hf', assistant⟩
      obtain rfl := h.unique l l' p row row' hf hf'
      rw [hf] at hf'
      cases hf'
      exact assistant
    · intro assistant
      exact ⟨l, row, hf, assistant⟩
  leader := by
    rw [isRaidLeader_iff]
    constructor
    · rintro ⟨m, row', hf'⟩
      obtain ⟨own, isOwn, _⟩ := h.led p m row' hf'
      exact h.unique p l p own row isOwn hf
    · rintro rfl
      exact ⟨p, row, hf⟩

lemma lookup_none_of_not_inRaid (absent : IsInRaid rows p = false) (l : UInt32) :
    rows.lookup (l, p) = none := by
  by_contra there
  obtain ⟨row, hf⟩ := Option.ne_none_iff_exists'.mp there
  rw [isInRaid_iff.mpr ⟨l, row, hf⟩] at absent
  cases absent

lemma getLeaderGuid_of_none (absent : IsInRaid rows p = false) : GetLeaderGuid rows p = 0 := by
  have none : FRaid.rowOf rows p = none := by
    apply List.find?_eq_none.mpr
    intro e hm isP
    have there : IsInRaid rows p = true := List.any_eq_true.mpr ⟨e, hm, isP⟩
    rw [absent] at there
    cases there
  rw [GetLeaderGuid, none]
  rfl

lemma Consistent.same_raid (h : Consistent rows) (hf : rows.lookup (l, p) = some row)
    (hs : GetLeaderGuid rows p = GetLeaderGuid rows q) :
    ∃ row', rows.lookup (l, q) = some row' := by
  rw [(h.answers hf).leaderGuid] at hs
  cases inRaid : IsInRaid rows q with
  | false =>
    rw [getLeaderGuid_of_none inRaid] at hs
    exact absurd hs (h.named l p row hf).1
  | true =>
    obtain ⟨l', row', hf'⟩ := isInRaid_iff.mp inRaid
    rw [(h.answers hf').leaderGuid] at hs
    exact ⟨row', hs ▸ hf'⟩

lemma consistent_empty : Consistent ∅ where
  named l m row hf := by cases hf
  unique l l' m row row' hf := by cases hf
  led l m row hf := by cases hf

/-! ### Who writes -/

/-- Rows are written by the player himself or by a leader or assistant of his raid, and only a leader
takes an assistant out. -/
structure Owned (source : UInt32) (rows rows' : RaidTable) : Prop where
  changed : ∀ l q, rows'.lookup (l, q) ≠ rows.lookup (l, q) → q = source ∨
    ∃ l' row own, rows.lookup (l', q) = some row ∧ rows.lookup (l', source) = some own ∧
      (source = l' ∨ own.assistant = 1)
  removed : ∀ l q row, rows.lookup (l, q) = some row → row.assistant = 1 →
    (∀ l', rows'.lookup (l', q) = none) → q = source ∨ source = l

lemma Owned.refl (source : UInt32) (rows : RaidTable) : Owned source rows rows where
  changed l q change := absurd rfl change
  removed l q row hf _ gone := by
    rw [gone l] at hf
    cases hf

lemma owned_of_self {source : UInt32}
    (others : ∀ l q, q ≠ source → rows'.lookup (l, q) = rows.lookup (l, q)) :
    Owned source rows rows' where
  changed l q change := by
    left
    by_contra other
    exact change (others l q other)
  removed l q row hf _ gone := by
    left
    by_contra other
    rw [← others l q other, gone l] at hf
    cases hf

lemma owned_of_leader {source : UInt32} {own : RaidRow} (isOwn : rows.lookup (source, source) = some own)
    (others : ∀ l q, rows.lookup (source, q) = none → rows'.lookup (l, q) = rows.lookup (l, q))
    (unique : ∀ l q row row', rows.lookup (source, q) = some row → rows.lookup (l, q) = some row' →
      source = l) :
    Owned source rows rows' where
  changed l q change := by
    right
    cases hf : rows.lookup (source, q) with
    | none => exact absurd (others l q hf) change
    | some row => exact ⟨source, row, own, hf, isOwn, .inl rfl⟩
  removed l q row hf _ gone := by
    right
    cases mine : rows.lookup (source, q) with
    | none =>
      rw [← others l q mine, gone l] at hf
      cases hf
    | some row' => exact unique l q row' row mine hf

/-! ### The statements -/

lemma lookup_keep_eq (q : UInt32 × UInt32 → Bool) (key : UInt32 × UInt32) :
    (rows.keep fun key _ => q key).lookup key = if q key then rows.lookup key else none := by
  ext row
  rw [Table.lookup_keep_iff]
  split
  next holds => simp [holds]
  next fails => simp [fails]

lemma lookup_DeleteMember (m l q : UInt32) :
    (DeleteMember rows m).lookup (l, q) = if q = m then none else rows.lookup (l, q) := by
  rw [DeleteMember, lookup_keep_eq fun key => key.2 ≠ m]
  by_cases hs : q = m <;> simp [hs]

lemma lookup_DeleteRaid (leader l q : UInt32) :
    (DeleteRaid rows leader).lookup (l, q) = if l = leader then none else rows.lookup (l, q) := by
  rw [DeleteRaid, lookup_keep_eq fun key => key.1 ≠ leader]
  by_cases hs : l = leader <;> simp [hs]

lemma lookup_updateMember (p : UInt32) (f : RaidRow → RaidRow) (l q : UInt32) :
    (updateMember rows p f).lookup (l, q) =
      (rows.lookup (l, q)).map fun row => if q = p then f row else row := by
  rw [updateMember, Table.lookup_filterMap]
  cases rows.lookup (l, q) <;> rfl

lemma lookup_InsertRaidMember (absent : rows.lookup (leader, m) = none) (assistant : UInt8)
    (subgroup : String) (l q : UInt32) :
    (InsertRaidMember rows leader m assistant subgroup).lookup (l, q) =
      if l = leader ∧ q = m then some ⟨subgroup, assistant⟩ else rows.lookup (l, q) := by
  rw [InsertRaidMember, Statement.lookup_exec]
  by_cases hs : l = leader ∧ q = m
  · obtain ⟨rfl, rfl⟩ := hs
    simp [Statement.key, Statement.effect, absent]
  · rw [if_neg, if_neg hs]
    intro equal
    cases equal
    exact hs ⟨rfl, rfl⟩

lemma lookup_InsertRaidMember_of_some (there : rows.lookup (leader, m) = some row)
    (assistant : UInt8) (subgroup : String) :
    InsertRaidMember rows leader m assistant subgroup = rows := by
  rw [InsertRaidMember, Statement.exec, if_neg]
  rw [there]
  exact Option.some_ne_none row

lemma Consistent.insert (h : Consistent rows) {assistant : UInt8} (subgroup : String)
    (leaderNamed : leader ≠ 0) (named : m ≠ 0) (absent : ∀ l, rows.lookup (l, m) = none)
    (led : leader = m ∧ assistant = 1 ∨ ∃ q row, rows.lookup (leader, q) = some row) :
    Consistent (InsertRaidMember rows leader m assistant subgroup) := by
  have lookup := lookup_InsertRaidMember (absent leader) assistant subgroup
  constructor
  · intro l q row hf
    rw [lookup] at hf
    split at hf
    next hs =>
      obtain ⟨rfl, rfl⟩ := hs
      exact ⟨leaderNamed, named⟩
    next => exact h.named l q row hf
  · intro l l' q row row' hf hf'
    rw [lookup] at hf hf'
    by_cases hs : q = m
    · subst hs
      simp only [absent, and_true] at hf hf'
      split at hf
      next isLeader =>
        split at hf'
        next isLeader' => rw [isLeader, isLeader']
        next => cases hf'
      next => cases hf
    · simp only [hs, and_false, if_false] at hf hf'
      exact h.unique l l' q row row' hf hf'
  · intro l q row hf
    have old : ∀ q row, rows.lookup (l, q) = some row →
        ∃ own, (InsertRaidMember rows leader m assistant subgroup).lookup (l, l) = some own ∧
          own.assistant = 1 := by
      intro q row hf
      obtain ⟨own, isOwn, assists⟩ := h.led l q row hf
      refine ⟨own, ?_, assists⟩
      rw [lookup, if_neg]
      · exact isOwn
      · rintro ⟨_, rfl⟩
        rw [absent] at isOwn
        cases isOwn
    rw [lookup] at hf
    split at hf
    next hs =>
      obtain ⟨rfl, rfl⟩ := hs
      rcases led with ⟨rfl, assists⟩ | ⟨q', row', hm⟩
      · refine ⟨⟨subgroup, assistant⟩, ?_, assists⟩
        rw [lookup, if_pos ⟨rfl, rfl⟩]
      · exact old q' row' hm
    next => exact old q row hf

lemma Consistent.deleteMember (h : Consistent rows) (notLeader : IsRaidLeader rows m = false) :
    Consistent (DeleteMember rows m) := by
  have kept : ∀ {l q row}, (DeleteMember rows m).lookup (l, q) = some row →
      rows.lookup (l, q) = some row := by
    intro l q row hf
    rw [lookup_DeleteMember] at hf
    split at hf
    · cases hf
    · exact hf
  constructor
  · intro l q row hf
    exact h.named l q row (kept hf)
  · intro l l' q row row' hf hf'
    exact h.unique l l' q row row' (kept hf) (kept hf')
  · intro l q row hf
    obtain ⟨own, isOwn, assists⟩ := h.led l q row (kept hf)
    refine ⟨own, ?_, assists⟩
    rw [lookup_DeleteMember, if_neg]
    · exact isOwn
    · rintro rfl
      have leads : IsRaidLeader rows l = true := isRaidLeader_iff.mpr ⟨l, own, isOwn⟩
      rw [notLeader] at leads
      cases leads

lemma Consistent.deleteRaid (h : Consistent rows) (leader : UInt32) :
    Consistent (DeleteRaid rows leader) := by
  have kept : ∀ {l q row}, (DeleteRaid rows leader).lookup (l, q) = some row →
      l ≠ leader ∧ rows.lookup (l, q) = some row := by
    intro l q row hf
    rw [lookup_DeleteRaid] at hf
    split at hf
    · cases hf
    next other => exact ⟨other, hf⟩
  constructor
  · intro l q row hf
    exact h.named l q row (kept hf).2
  · intro l l' q row row' hf hf'
    exact h.unique l l' q row row' (kept hf).2 (kept hf').2
  · intro l q row hf
    obtain ⟨other, before⟩ := kept hf
    obtain ⟨own, isOwn, assists⟩ := h.led l q row before
    refine ⟨own, ?_, assists⟩
    rw [lookup_DeleteRaid, if_neg other]
    exact isOwn

lemma Consistent.updateMember (h : Consistent rows) {f : RaidRow → RaidRow}
    (keeps : ∀ row, rows.lookup (p, p) = some row → row.assistant = 1 → (f row).assistant = 1) :
    Consistent (updateMember rows p f) := by
  have before : ∀ {l q row}, (FRaid.updateMember rows p f).lookup (l, q) = some row →
      ∃ old, rows.lookup (l, q) = some old := by
    intro l q row hf
    rw [lookup_updateMember] at hf
    obtain ⟨old, isOld, _⟩ := Option.map_eq_some_iff.mp hf
    exact ⟨old, isOld⟩
  constructor
  · intro l q row hf
    obtain ⟨old, isOld⟩ := before hf
    exact h.named l q old isOld
  · intro l l' q row row' hf hf'
    obtain ⟨old, isOld⟩ := before hf
    obtain ⟨old', isOld'⟩ := before hf'
    exact h.unique l l' q old old' isOld isOld'
  · intro l q row hf
    obtain ⟨old, isOld⟩ := before hf
    obtain ⟨own, isOwn, assists⟩ := h.led l q old isOld
    refine ⟨if l = p then f own else own, ?_, ?_⟩
    · rw [lookup_updateMember, isOwn, Option.map_some]
    · split
      next hs =>
        subst hs
        exact keeps own isOwn assists
      next => exact assists

/-! ### A new leader -/

lemma mem_members : (q, row) ∈ members rows l ↔ rows.lookup (l, q) = some row := by
  rw [members, List.mem_map]
  constructor
  · rintro ⟨⟨⟨l', q'⟩, row'⟩, hm, hs⟩
    obtain ⟨entry, isLeader⟩ := List.mem_filter.mp hm
    cases hs
    obtain rfl : l' = l := by simpa using isLeader
    exact AList.mem_lookup_iff.mpr entry
  · intro hf
    refine ⟨⟨(l, q), row⟩, ?_, rfl⟩
    exact List.mem_filter.mpr ⟨AList.mem_lookup_iff.mp hf, by simp⟩

lemma nodup_members (rows : RaidTable) (l : UInt32) : ((members rows l).map Prod.fst).Nodup := by
  rw [members, List.map_map]
  apply List.Nodup.map_on
  · rintro ⟨⟨l₁, q₁⟩, row₁⟩ hm₁ ⟨⟨l₂, q₂⟩, row₂⟩ hm₂ hs
    obtain ⟨entry₁, isLeader₁⟩ := List.mem_filter.mp hm₁
    obtain ⟨entry₂, isLeader₂⟩ := List.mem_filter.mp hm₂
    obtain rfl : l₁ = l := by simpa using isLeader₁
    obtain rfl : l₂ = l₁ := by simpa using isLeader₂
    obtain rfl : q₁ = q₂ := hs
    have one := AList.mem_lookup_iff.mpr entry₁
    rw [AList.mem_lookup_iff.mpr entry₂] at one
    cases one
    rfl
  · exact (List.Nodup.of_map _ rows.nodupKeys).filter _

lemma lookup_transferMember (new m : UInt32) (row : RaidRow) (l q : UInt32) :
    (State.transferMember new rows (m, row)).lookup (l, q) =
      if q = m then (if l = new then some row else none) else rows.lookup (l, q) := by
  have absent : (DeleteMember rows m).lookup (new, m) = none := by
    rw [lookup_DeleteMember, if_pos rfl]
  rw [State.transferMember, lookup_InsertRaidMember absent, lookup_DeleteMember]
  by_cases hm : q = m
  · by_cases leader : l = new <;> simp [hm, leader]
  · simp [hm]

lemma lookup_transfer_of_not_mem (new : UInt32) {list : List (UInt32 × RaidRow)}
    (other : q ∉ list.map Prod.fst) (l : UInt32) :
    (list.foldl (State.transferMember new) rows).lookup (l, q) = rows.lookup (l, q) := by
  induction list generalizing rows with
  | nil => rfl
  | cons e list ih =>
    rw [List.map_cons, List.mem_cons, not_or] at other
    rw [List.foldl_cons, ih other.2, lookup_transferMember, if_neg other.1]

lemma lookup_transfer_of_mem (new : UInt32) {list : List (UInt32 × RaidRow)}
    (distinct : (list.map Prod.fst).Nodup) (hm : (q, row) ∈ list) (l : UInt32) :
    (list.foldl (State.transferMember new) rows).lookup (l, q) =
      if l = new then some row else none := by
  induction list generalizing rows with
  | nil => cases hm
  | cons e list ih =>
    rw [List.map_cons, List.nodup_cons] at distinct
    rw [List.foldl_cons]
    rcases List.mem_cons.mp hm with rfl | later
    · rw [lookup_transfer_of_not_mem new distinct.1, lookup_transferMember, if_pos rfl]
    · exact ih distinct.2 later

def transferred (rows : RaidTable) (source target : UInt32) : RaidTable :=
  let subgroup := GetSubgroup rows target
  let rows := InsertRaidMember (DeleteMember rows target) target target 1 subgroup
  let rows := (members rows source).foldl (State.transferMember target) rows
  DeleteRaid rows source

variable {source target : UInt32}

/-- The new leader has his own row, the members of the raid have theirs with him as leader, and the
other raids are as they were. -/
lemma lookup_transferred (other : source ≠ target) (l q : UInt32) :
    (transferred rows source target).lookup (l, q) =
      if q = target then (if l = target then some ⟨GetSubgroup rows target, 1⟩ else none)
      else match rows.lookup (source, q) with
        | some row => if l = target then some row else none
        | none => rows.lookup (l, q) := by
  have absent : (DeleteMember rows target).lookup (target, target) = none := by
    rw [lookup_DeleteMember, if_pos rfl]
  have first : ∀ l q, (InsertRaidMember (DeleteMember rows target) target target 1
      (GetSubgroup rows target)).lookup (l, q) =
      if q = target then (if l = target then some ⟨GetSubgroup rows target, 1⟩ else none)
      else rows.lookup (l, q) := by
    intro l q
    rw [lookup_InsertRaidMember absent, lookup_DeleteMember]
    by_cases hm : q = target
    · by_cases leader : l = target <;> simp [hm, leader]
    · simp [hm]
  rw [transferred, lookup_DeleteRaid]
  generalize InsertRaidMember (DeleteMember rows target) target target 1
    (GetSubgroup rows target) = rows₁ at first
  have distinct := nodup_members rows₁ source
  have inRaid := first source q
  cases moved : rows₁.lookup (source, q) with
  | some row =>
    rw [lookup_transfer_of_mem target distinct (mem_members.mpr moved)]
    rw [moved] at inRaid
    by_cases isTarget : q = target
    · rw [if_pos isTarget, if_neg other] at inRaid
      cases inRaid
    · rw [if_neg isTarget] at inRaid ⊢
      rw [← inRaid]
      by_cases leader : l = source
      · simp [leader, other]
      · simp [leader]
  | none =>
    have notMember : q ∉ (members rows₁ source).map Prod.fst := by
      intro hm
      obtain ⟨⟨q', row⟩, hf, rfl⟩ := List.mem_map.mp hm
      rw [mem_members.mp hf] at moved
      cases moved
    rw [lookup_transfer_of_not_mem target notMember, first]
    rw [moved] at inRaid
    by_cases isTarget : q = target
    · by_cases leader : l = source
      · simp [isTarget, leader, other]
      · simp [isTarget, leader]
    · rw [if_neg isTarget] at inRaid
      simp only [if_neg isTarget, ← inRaid]
      by_cases leader : l = source
      · rw [if_pos leader, leader, ← inRaid]
      · rw [if_neg leader]

/-- A row after a transfer: the new leader's, one of his raid, or one of another raid -/
lemma transferred_cases (other : source ≠ target)
    (hf : (transferred rows source target).lookup (l, q) = some row) :
    (q = target ∧ l = target) ∨
      (q ≠ target ∧ l = target ∧ rows.lookup (source, q) = some row) ∨
      (q ≠ target ∧ rows.lookup (source, q) = none ∧ rows.lookup (l, q) = some row) := by
  rw [lookup_transferred other] at hf
  by_cases isTarget : q = target
  · rw [if_pos isTarget] at hf
    split at hf
    next leader => exact .inl ⟨isTarget, leader⟩
    next => cases hf
  · rw [if_neg isTarget] at hf
    right
    cases moved : rows.lookup (source, q) with
    | some row' =>
      simp only [moved] at hf
      split at hf
      next leader => exact .inl ⟨isTarget, leader, hf⟩
      next => cases hf
    | none =>
      rw [moved] at hf
      exact .inr ⟨isTarget, rfl, hf⟩

lemma Consistent.transferred (h : Consistent rows) (other : source ≠ target)
    (named : target ≠ 0) : Consistent (transferred rows source target) := by
  constructor
  · intro l q row hf
    rcases transferred_cases other hf with ⟨rfl, rfl⟩ | ⟨_, rfl, moved⟩ | ⟨_, _, kept⟩
    · exact ⟨named, named⟩
    · exact ⟨named, (h.named source q row moved).2⟩
    · exact h.named l q row kept
  · intro l l' q row row' hf hf'
    rcases transferred_cases other hf with ⟨rfl, rfl⟩ | ⟨isOther, rfl, moved⟩ | ⟨isOther, left, kept⟩
    · rcases transferred_cases other hf' with ⟨_, rfl⟩ | ⟨isOther, _⟩ | ⟨isOther, _⟩
      · rfl
      · exact absurd rfl isOther
      · exact absurd rfl isOther
    · rcases transferred_cases other hf' with ⟨isTarget, _⟩ | ⟨_, rfl, _⟩ | ⟨_, left, _⟩
      · exact absurd isTarget isOther
      · rfl
      · rw [left] at moved
        cases moved
    · rcases transferred_cases other hf' with ⟨isTarget, _⟩ | ⟨_, _, moved⟩ | ⟨_, _, kept'⟩
      · exact absurd isTarget isOther
      · rw [left] at moved
        cases moved
      · exact h.unique l l' q row row' kept kept'
  · intro l q row hf
    have own : ∃ own, (FRaid.transferred rows source target).lookup (target, target) = some own ∧
        own.assistant = 1 := by
      refine ⟨⟨GetSubgroup rows target, 1⟩, ?_, rfl⟩
      rw [lookup_transferred other, if_pos rfl, if_pos rfl]
    rcases transferred_cases other hf with ⟨_, rfl⟩ | ⟨_, rfl, _⟩ | ⟨isOther, left, kept⟩
    · exact own
    · exact own
    · by_cases isTarget : l = target
      · rw [isTarget]
        exact own
      · -- a raid that is not the source's keeps its leader
        obtain ⟨leader, isLeader, assists⟩ := h.led l q row kept
        refine ⟨leader, ?_, assists⟩
        rw [lookup_transferred other, if_neg isTarget]
        cases moved : rows.lookup (source, l) with
        | none => exact isLeader
        | some row' =>
          obtain rfl := h.unique source l l row' leader moved isLeader
          rw [left] at kept
          cases kept

end FRaid

/-! ### The commands -/

namespace State

open FRaid

variable {s : State} {source target : Player}

/-- What a command should do: a consistent table again, in which every query of a player in a raid
finds his raid, and only rows that the player may write are written -/
structure Conforms (s : State) (a : Action) : Prop where
  consistent : Consistent (s.step a).rows
  answers : ∀ l p row, (s.step a).rows.lookup (l, p) = some row → Answers (s.step a).rows l p row
  owned : Owned a.source s.rows (s.step a).rows

def Unbound (s : State) (a : Action) : Prop :=
  match a.command with
  | .accept =>
    ¬ (s.invites a.source).expire < a.time →
    IsInRaid s.rows (s.invites a.source).leaderGuid = true →
    IsRaidLeader s.rows (s.invites a.source).leaderGuid = true →
      IsInRaid s.rows a.source = false ∨
        GetLeaderGuid s.rows a.source = (s.invites a.source).leaderGuid
  | _ => True

/-- What a command keeps -/
def Keeps (source : UInt32) (rows rows' : RaidTable) : Prop :=
  Consistent rows' ∧ Owned source rows rows'

section

variable (h : Consistent s.rows)
include h

lemma keeps_refl : Keeps source s.rows s.rows :=
  ⟨h, .refl _ _⟩

lemma keeps_unless {c : Prop} [Decidable c] {s' : State}
    (keeps : ¬ c → Keeps source s.rows s'.rows) :
    Keeps source s.rows (if c then s else s').rows := by
  split
  next => exact keeps_refl h
  next goes => exact keeps goes

lemma keeps_create : Keeps source s.rows (s.HandleRaidCreateCommand source).rows := by
  refine keeps_unless h fun inRaid => ?_
  have absent := lookup_none_of_not_inRaid (Bool.eq_false_of_not_eq_true inRaid)
  constructor
  · exact h.insert DEFAULT_SUBGROUP source.2 source.2 absent (.inl ⟨rfl, rfl⟩)
  · apply owned_of_self
    intro l q other
    rw [withRows, lookup_InsertRaidMember (absent source), if_neg]
    exact fun hs => other hs.2

lemma keeps_disband : Keeps source s.rows (s.HandleRaidDisbandCommand source).rows := by
  refine keeps_unless h fun leads => ?_
  obtain ⟨q, row, hm⟩ := isRaidLeader_iff.mp (by simpa using leads)
  obtain ⟨own, isOwn, _⟩ := h.led _ q row hm
  constructor
  · exact h.deleteRaid source
  · apply owned_of_leader isOwn
    · intro l q none
      rw [withRows, lookup_DeleteRaid]
      split
      next hs => rw [hs, none]
      next => rfl
    · intro l q row row' hf hf'
      exact h.unique _ l q row row' hf hf'

lemma keeps_leave : Keeps source s.rows (s.HandleRaidLeaveCommand source).rows := by
  refine keeps_unless h fun _ => keeps_unless h fun leads => ?_
  constructor
  · exact h.deleteMember (Bool.eq_false_of_not_eq_true leads)
  · apply owned_of_self
    intro l q other
    rw [withRows, lookup_DeleteMember, if_neg other]

lemma keeps_accept {time : ℕ} (unbound : Unbound s ⟨source, time, .accept⟩) :
    Keeps source s.rows (s.HandleRaidAcceptCommand source time).rows := by
  rw [HandleRaidAcceptCommand]
  generalize invited : (s.invites source).leaderGuid = leader_guid
  by_cases expired : (s.invites source).expire < time
  · simp only [if_pos expired]
    exact keeps_refl h
  · simp only [if_neg expired, withInvite]
    by_cases inRaid : IsInRaid s.rows leader_guid = true
    · by_cases leads : IsRaidLeader s.rows leader_guid = true
      · simp only [inRaid, leads, Bool.not_true, Bool.or_self, Bool.false_eq_true, if_false, withRows]
        obtain ⟨q, row, hm⟩ := isRaidLeader_iff.mp leads
        have free := unbound expired (by rw [invited]; exact inRaid) (by rw [invited]; exact leads)
        rw [invited] at free
        rcases free with free | hs
        · have absent := lookup_none_of_not_inRaid free
          constructor
          · exact h.insert DEFAULT_SUBGROUP (h.named _ q row hm).1 source.2 absent
              (.inr ⟨q, row, hm⟩)
          · apply owned_of_self
            intro l p other
            rw [lookup_InsertRaidMember (absent leader_guid), if_neg]
            exact fun hs => other hs.2
        · -- in that raid already, and the database refuses a second row
          obtain ⟨own, isOwn, _⟩ := h.led _ q row hm
          have hs : GetLeaderGuid s.rows leader_guid = GetLeaderGuid s.rows source := by
            rw [hs, (h.answers isOwn).leaderGuid]
          obtain ⟨row', there⟩ := h.same_raid isOwn hs
          rw [lookup_InsertRaidMember_of_some there]
          exact keeps_refl h
      · simp only [leads, Bool.not_false, Bool.or_true, if_true]
        exact keeps_refl h
    · simp only [inRaid, Bool.not_false, Bool.true_or, if_true]
      exact keeps_refl h

lemma assistant_of (assists : IsAssistant s.rows source = true)
    (hs : GetLeaderGuid s.rows source = GetLeaderGuid s.rows target) :
    ∃ l own row, s.rows.lookup (l, source.1) = some own ∧ own.assistant = 1 ∧
      s.rows.lookup (l, target.1) = some row := by
  obtain ⟨l, own, isOwn, assists⟩ := isAssistant_iff.mp assists
  obtain ⟨row, isRow⟩ := h.same_raid isOwn hs
  exact ⟨l, own, row, isOwn, assists, isRow⟩

lemma keeps_kick : Keeps source s.rows (s.HandleRaidKickCommand source target).rows := by
  refine keeps_unless h fun _ => keeps_unless h fun assists => keeps_unless h fun hs =>
    keeps_unless h fun _ => keeps_unless h fun leader => keeps_unless h fun entitled => ?_
  obtain ⟨l, own, row, isOwn, assists, isRow⟩ :=
    assistant_of h (by simpa using assists) (not_not.mp hs)
  constructor
  · exact h.deleteMember (Bool.eq_false_of_not_eq_true leader)
  · constructor
    · intro l' q change
      rw [withRows, lookup_DeleteMember] at change
      by_cases isTarget : q = target
      · subst isTarget
        exact .inr ⟨l, row, own, isRow, isOwn, .inr assists⟩
      · rw [if_neg isTarget] at change
        exact absurd rfl change
    · intro l' q row' hf assistant gone
      have isTarget : q = target.1 := by
        by_contra other
        have gone := gone l'
        rw [withRows, lookup_DeleteMember, if_neg other, hf] at gone
        cases gone
      subst isTarget
      obtain rfl := h.unique l l' _ row row' isRow hf
      -- an assistant is taken out by the leader
      have leads : IsRaidLeader s.rows source = true := by
        rw [isAssistant_iff.mpr ⟨l, row', hf, assistant⟩] at entitled
        simpa using entitled
      exact .inr ((h.answers isOwn).leader.mp leads)

lemma keeps_updateMember {f : RaidRow → RaidRow} (assists : IsAssistant s.rows source = true)
    (hs : GetLeaderGuid s.rows source = GetLeaderGuid s.rows target)
    (keeps : ∀ row, s.rows.lookup (target.1, target.1) = some row → row.assistant = 1 →
      (f row).assistant = 1) : Keeps source s.rows (updateMember s.rows target f) := by
  obtain ⟨l, own, row, isOwn, assists, isRow⟩ := assistant_of h assists hs
  constructor
  · exact h.updateMember keeps
  · constructor
    · intro l' q change
      rw [lookup_updateMember] at change
      by_cases isTarget : q = target
      · subst isTarget
        exact .inr ⟨l, row, own, isRow, isOwn, .inr assists⟩
      · simp only [if_neg isTarget, Option.map_id'] at change
        exact absurd rfl change
    · intro l' q row' hf _ gone
      have gone := gone l'
      rw [lookup_updateMember, hf] at gone
      cases gone

lemma keeps_move {subgroup : String} :
    Keeps source s.rows (s.HandleRaidMoveCommand source target subgroup).rows := by
  refine keeps_unless h fun _ => keeps_unless h fun assists => keeps_unless h fun hs => ?_
  exact keeps_updateMember (f := fun row => { row with subgroup := subgroup.map Char.toUpper })
    h (by simpa using assists) (not_not.mp hs) fun row _ assistant => assistant

lemma leader_assists (leads : IsRaidLeader s.rows source = true) :
    IsAssistant s.rows source = true := by
  obtain ⟨q, row, hm⟩ := isRaidLeader_iff.mp leads
  obtain ⟨own, isOwn, assists⟩ := h.led _ q row hm
  exact isAssistant_iff.mpr ⟨source, own, isOwn, assists⟩

lemma keeps_promote : Keeps source s.rows (s.HandleRaidPromoteCommand source target).rows := by
  refine keeps_unless h fun _ => keeps_unless h fun leads => keeps_unless h fun hs =>
    keeps_unless h fun _ => keeps_unless h fun _ => ?_
  exact keeps_updateMember (f := fun row => { row with assistant := 1 })
    h (leader_assists h (by simpa using leads)) (not_not.mp hs) fun _ _ _ => rfl

lemma keeps_demote : Keeps source s.rows (s.HandleRaidDemoteCommand source target).rows := by
  refine keeps_unless h fun _ => keeps_unless h fun leads => keeps_unless h fun hs =>
    keeps_unless h fun self => keeps_unless h fun _ => ?_
  have leads : IsRaidLeader s.rows source = true := by simpa using leads
  have hs := not_not.mp hs
  apply keeps_updateMember (f := fun row => { row with assistant := 0 })
    h (leader_assists h leads) hs
  -- the other player does not lead a raid of his own
  intro row isRow _
  obtain ⟨q, row', hm⟩ := isRaidLeader_iff.mp leads
  obtain ⟨own, isOwn, _⟩ := h.led _ q row' hm
  rw [(h.answers isOwn).leaderGuid, (h.answers isRow).leaderGuid] at hs
  exact absurd (Subtype.ext hs) self

lemma keeps_leader : Keeps source s.rows (s.HandleRaidLeaderCommand source target).rows := by
  refine keeps_unless h fun _ => keeps_unless h fun leads => keeps_unless h fun hs =>
    keeps_unless h fun self => ?_
  have other : source.1 ≠ target.1 := fun equal => self (Subtype.ext equal)
  obtain ⟨q, row, hm⟩ := isRaidLeader_iff.mp (by simpa using leads)
  obtain ⟨own, isOwn, _⟩ := h.led _ q row hm
  have ofRaid : GetLeaderGuid s.rows source = GetLeaderGuid s.rows target := by
    rw [(h.answers isOwn).leaderGuid, not_not.mp hs]
  obtain ⟨row', isRow⟩ := h.same_raid isOwn ofRaid
  constructor
  · exact h.transferred other target.2
  · apply owned_of_leader isOwn
    · intro l p none
      have notTarget : p ≠ target.1 := by
        rintro rfl
        rw [none] at isRow
        cases isRow
      change (transferred s.rows source target).lookup (l, p) = _
      rw [lookup_transferred other, if_neg notTarget, none]
    · intro l p row row' hf hf'
      exact h.unique _ l p row row' hf hf'

lemma keeps_invite {time : ℕ} :
    Keeps source s.rows (s.HandleRaidInviteCommand source target time).rows := by
  have rows : (s.HandleRaidInviteCommand source target time).rows = s.rows := by
    rw [HandleRaidInviteCommand]
    split_ifs <;> rfl
  rw [rows]
  exact keeps_refl h

lemma keeps_step {a : Action} (unbound : Unbound s a) :
    Keeps a.source s.rows (s.step a).rows := by
  obtain ⟨source, time, command⟩ := a
  cases command with
  | create => exact keeps_create h
  | disband => exact keeps_disband h
  | invite target => exact keeps_invite h
  | accept => exact keeps_accept h unbound
  | leave => exact keeps_leave h
  | kick target => exact keeps_kick h
  | move subgroup target => exact keeps_move h
  | promote target => exact keeps_promote h
  | demote target => exact keeps_demote h
  | leader target => exact keeps_leader h

lemma unbound_of_consistent {a : Action} (after : Consistent (s.step a).rows) : Unbound s a := by
  obtain ⟨source, time, command⟩ := a
  cases command with
  | accept =>
    intro valid inRaid leads
    cases free : IsInRaid s.rows source with
    | false => exact .inl rfl
    | true =>
      right
      obtain ⟨l, row, hf⟩ := isInRaid_iff.mp free
      rw [(h.answers hf).leaderGuid]
      by_contra other
      have absent : s.rows.lookup ((s.invites source).leaderGuid, source.1) = none := by
        by_contra there
        obtain ⟨row', hf'⟩ := Option.ne_none_iff_exists'.mp there
        exact other (h.unique _ _ _ row row' hf hf')
      have lookup := lookup_InsertRaidMember absent 0 DEFAULT_SUBGROUP
      have rows : (s.step ⟨source, time, .accept⟩).rows =
          InsertRaidMember s.rows (s.invites source).leaderGuid source 0 DEFAULT_SUBGROUP := by
        simp only [step, HandleRaidAcceptCommand, if_neg valid, withInvite, inRaid, leads,
          Bool.not_true, Bool.or_self, Bool.false_eq_true, if_false, withRows]
      rw [rows] at after
      apply other
      apply after.unique l (s.invites source).leaderGuid source row ⟨DEFAULT_SUBGROUP, 0⟩
      · rw [lookup, if_neg, hf]
        exact fun hs => other hs.1
      · rw [lookup, if_pos ⟨rfl, rfl⟩]
  | _ => trivial

lemma conforms_iff (a : Action) : Conforms s a ↔ Unbound s a := by
  constructor
  · intro conforms
    exact unbound_of_consistent h conforms.consistent
  · intro unbound
    obtain ⟨consistent, owned⟩ := keeps_step h unbound
    exact ⟨consistent, fun l p row hf => consistent.answers hf, owned⟩

end

/-- Every command does what it should in a run from the empty table just where no player accepts an
invite while in another raid. -/
theorem raid_membership (invites : Player → Invite) (as : List Action) :
    Along step Conforms (initial invites) as ↔ Along step Unbound (initial invites) as :=
  along_iff_of_invariant (fun s : State => Consistent s.rows)
    (fun _ _ h unbound => (keeps_step h unbound).1) (fun _ a h => conforms_iff h a)
    consistent_empty as

/-- The first player invites the second, who makes a raid of his own and then accepts. -/
theorem not_raid_membership :
    let one : Player := ⟨1, by decide⟩
    let two : Player := ⟨2, by decide⟩
    let as : List Action := [⟨one, 0, .create⟩, ⟨one, 0, .invite two⟩, ⟨two, 1, .create⟩, ⟨two, 2, .accept⟩]
    let rows := (run step (initial fun _ => ⟨0, 0⟩) as).rows
    rows.lookup (1, 2) = some ⟨DEFAULT_SUBGROUP, 0⟩ ∧ rows.lookup (2, 2) = some ⟨DEFAULT_SUBGROUP, 1⟩ ∧
      ¬ Along step Conforms (initial fun _ => ⟨0, 0⟩) as := by
  refine ⟨by decide, by decide, ?_⟩
  rintro ⟨_, _, _, conforms, _⟩
  have both := conforms.consistent.unique 1 2 2 ⟨DEFAULT_SUBGROUP, 0⟩ ⟨DEFAULT_SUBGROUP, 1⟩
    (by decide) (by decide)
  cases both

end State

end WorldServer.FreedomRaids
