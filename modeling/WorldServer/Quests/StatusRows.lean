import WorldServer.Quests.QuestLog

/-!
# The rows after a save

A quest that is marked for the save has its row written or deleted, by whether it is active.
-/
namespace WorldServer.Quests

open WorldServer.Lib

namespace Player

variable {mgr : ObjectMgr} {p : Player} {gameTime : UInt32}

lemma lookup_saved_status (q : UInt32) :
    (p._SaveQuestStatus mgr gameTime).rows.status.lookup q =
      match p.m_QuestStatusSave.lookup q with
      | none => p.rows.status.lookup q
      | some marked => (p.statusStatements mgr q gameTime marked).foldl (fun row st => st.effect row)
          (p.rows.status.lookup q) := by
  have own : ∀ k marked, ∀ st ∈ p.statusStatements mgr k gameTime marked, st.key = id k := by
    intro k marked st member
    rw [statusStatements] at member
    split at member
    · split at member
      · split at member
        · rw [List.mem_singleton.mp member]
          rfl
        · cases member
      · cases member
    · rw [List.mem_singleton.mp member]
      rfl
  change (Statement.execAll p.rows.status _).lookup (id q) = _
  cases marked : p.m_QuestStatusSave.lookup q with
  | none =>
    apply Statement.lookup_flush_of_none _ _ own
    rintro k _ found rfl
    rw [show p.m_QuestStatusSave.lookup (id k) = _ from found] at marked
    cases marked
  | some b => exact Statement.lookup_flush _ _ own marked fun k' _ _ same => same

lemma lookup_saved_status_of_inactive {q : UInt32} (inactive : p.m_QuestStatus.lookup q = none) :
    (p._SaveQuestStatus mgr gameTime).rows.status.lookup q =
      if p.m_QuestStatusSave.lookup q = some false then none else p.rows.status.lookup q := by
  rw [lookup_saved_status]
  cases p.m_QuestStatusSave.lookup q with
  | none => rfl
  | some marked =>
    cases marked with
    | false => rfl
    | true =>
      simp only [statusStatements, inactive, if_true]
      rfl

lemma mem_saveRewarded (marks : ∀ q b, p.m_RewardedQuestsSave.lookup q = some b → b = true)
    (rows : Finset UInt32) (q : UInt32) :
    q ∈ p.saveRewarded mgr rows ↔ q ∈ rows ∨ (p.m_RewardedQuestsSave.lookup q).isSome := by
  have fold : ∀ (entries : List (Sigma fun _ : UInt32 => Bool)) (rows : Finset UInt32),
      (∀ e ∈ entries, e.2 = true) →
      (q ∈ entries.foldl (fun rows e => if e.2 then insert e.1 rows
        else if !mgr.keepAbandoned then rows.erase e.1 else rows) rows ↔
        q ∈ rows ∨ ∃ e ∈ entries, e.1 = q) := by
    intro entries
    induction entries with
    | nil =>
      intro rows _
      simp
    | cons e entries ih =>
      intro rows marked
      rw [List.foldl_cons, ih _ fun e' member => marked e' (List.mem_cons_of_mem e member)]
      rw [if_pos (marked e List.mem_cons_self)]
      simp only [Finset.mem_insert, List.mem_cons, exists_eq_or_imp, eq_comm (a := q)]
      tauto
  rw [saveRewarded, fold]
  · apply or_congr_right
    constructor
    · rintro ⟨e, member, rfl⟩
      rw [AList.mem_lookup_iff.mpr member]
      rfl
    · intro some
      obtain ⟨b, found⟩ := Option.isSome_iff_exists.mp some
      exact ⟨⟨q, b⟩, AList.mem_lookup_iff.mp found, rfl⟩
  · intro e member
    exact marks e.1 e.2 (AList.mem_lookup_iff.mpr member)

end Player

end WorldServer.Quests
