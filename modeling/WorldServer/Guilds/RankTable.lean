import WorldServer.Guilds.Ranks

/-!
# The rank table

A member's rank is looked up by index, so the ids stored in the table have to be
the indices and every member's rank has to be one of them. Three requests and the
validation of a loaded guild can break this; the rest keep it.
-/
namespace WorldServer.Guilds

open WorldServer.Lib

/-- What holds of a guild, unless it is gone. -/
def Holds (P : Guild → Prop) (s : Option Guild) : Prop := ∀ g, s = some g → P g

@[simp] lemma holds_none (P : Guild → Prop) : Holds P none := by intro g gone; cases gone

@[simp] lemma holds_some (P : Guild → Prop) (g : Guild) : Holds P (some g) ↔ P g := by
  simp [Holds]

namespace Guild

def rankIds (g : Guild) : List ℕ := g.ranks.map (·.rankId.toNat)

/-- The rank at index `i` has id `i`, and every member's rank is in the table. -/
structure RankTable (g : Guild) : Prop where
  ids : g.rankIds = List.range g.ranks.length
  members : ∀ lowguid m, g.members.lookup lowguid = some m → m.rankId.toNat < g.ranks.length

/-- The table, with the size the handlers keep it at. -/
structure RankInv (g : Guild) : Prop extends RankTable g where
  least : 2 ≤ g.ranks.length
  most : g.ranks.length ≤ 10

@[simp] lemma length_rankIds (g : Guild) : g.rankIds.length = g.ranks.length := by
  simp [rankIds]

lemma getRanksSize_toNat (g : Guild) (most : g.ranks.length ≤ 10) :
    g.getRanksSize.toNat = g.ranks.length := by
  simp only [getRanksSize, UInt8.toNat_ofNat']
  omega

lemma getLowestRankId_toNat (g : Guild) (least : 2 ≤ g.ranks.length)
    (most : g.ranks.length ≤ 10) : g.getLowestRankId.toNat = g.ranks.length - 1 := by
  have size := g.getRanksSize_toNat most
  have one : (1 : UInt8) ≤ g.getRanksSize := by
    rw [UInt8.le_iff_toNat_le, size]
    simpa using by omega
  rw [getLowestRankId, show UInt8.ofNat g.ranks.length = g.getRanksSize from rfl,
    UInt8.toNat_sub_of_le _ _ one, size]
  rfl

variable {g g' : Guild}

lemma RankInv.of_same_ids (inv : g.RankInv) (ids : g'.rankIds = g.rankIds)
    (members : ∀ lowguid m, g'.members.lookup lowguid = some m →
      m.rankId.toNat < g.ranks.length) : g'.RankInv := by
  have length : g'.ranks.length = g.ranks.length := by
    rw [← length_rankIds, ids, length_rankIds]
  exact {
    ids := by rw [ids, inv.ids, length]
    members := fun lowguid m hf => length ▸ members lowguid m hf
    least := length ▸ inv.least
    most := length ▸ inv.most }

lemma RankInv.with_members (inv : g.RankInv) (members : Table UInt32 Member)
    (bound : ∀ lowguid m, members.lookup lowguid = some m → m.rankId.toNat < g.ranks.length) :
    ({ g with members := members } : Guild).RankInv :=
  inv.of_same_ids rfl bound

/-! ### What the changes of one rank or one member do -/

lemma rankIds_modify (g : Guild) (i : ℕ) (f : RankInfo → RankInfo)
    (keeps : ∀ info, (f info).rankId = info.rankId) :
    (g.ranks.modify i f).map (·.rankId.toNat) = g.rankIds := by
  apply List.ext_getElem?
  intro j
  simp only [rankIds, List.getElem?_map, List.getElem?_modify]
  cases g.ranks[j]? with
  | none => simp
  | some info => by_cases here : i = j <;> simp [here, keeps]

lemma rankIds_modifyRank (g : Guild) (rankId : UInt8) (f : RankInfo → RankInfo)
    (keeps : ∀ info, (f info).rankId = info.rankId) : (g.modifyRank rankId f).rankIds = g.rankIds := by
  unfold modifyRank
  split
  · exact rankIds_modify g rankId.toNat f keeps
  · rfl

lemma RankInv.modifyRank (inv : g.RankInv) (rankId : UInt8) (f : RankInfo → RankInfo)
    (keeps : ∀ info, (f info).rankId = info.rankId) : (g.modifyRank rankId f).RankInv := by
  apply inv.of_same_ids (rankIds_modifyRank g rankId f keeps)
  simpa using inv.members

lemma rankTable_changeRank_iff (g : Guild) (table : g.RankTable) (lowguid : UInt32) (old : Member)
    (hf : g.members.lookup lowguid = some old) (newRank : UInt8) :
    (g.changeRank lowguid newRank).RankTable ↔ newRank.toNat < g.ranks.length := by
  constructor
  · intro changed
    have here := changed.members lowguid { old with rankId := newRank }
      ((lookup_changeRank g lowguid lowguid newRank _).mpr (Or.inl ⟨rfl, old, hf, rfl⟩))
    simpa using here
  · intro bound
    refine ⟨by simpa [rankIds] using table.ids, fun k m hm => ?_⟩
    rw [ranks_changeRank]
    rcases (lookup_changeRank g lowguid k newRank m).mp hm with
      ⟨_, old, _, rfl⟩ | ⟨_, before⟩
    · exact bound
    · exact table.members k m before

lemma RankInv.changeRank (inv : g.RankInv) (lowguid : UInt32) (newRank : UInt8)
    (bound : newRank.toNat < g.ranks.length) : (g.changeRank lowguid newRank).RankInv := by
  apply inv.of_same_ids (by simp [rankIds])
  intro k m hm
  rcases (lookup_changeRank g lowguid k newRank m).mp hm with ⟨_, old, _, rfl⟩ | ⟨_, before⟩
  · exact bound
  · exact inv.members k m before

lemma RankInv.setLeaderGuid (inv : g.RankInv) (lowguid : UInt32) (leader : Member) :
    (g.setLeaderGuid lowguid leader).RankInv := by
  have hs : ({ g with leaderGuid := leader.guid } : Guild).RankInv :=
    inv.of_same_ids rfl inv.members
  apply hs.changeRank
  have least := inv.least
  exact Nat.lt_of_lt_of_le (by decide) least

lemma RankInv.eraseMember (inv : g.RankInv) (lowguid : UInt32) :
    (g.eraseMember lowguid).RankInv := by
  apply inv.with_members
  intro k m hm
  exact inv.members k m ((Table.lookup_erase_iff g.members lowguid k m).mp hm).2

lemma RankInv.deleteMember (inv : g.RankInv) (guid : UInt64)
    (left : g.deleteMember guid = some g') : g'.RankInv := by
  unfold Guild.deleteMember at left
  split at left
  next leads =>
    obtain ⟨successor, -, rfl⟩ := Option.map_eq_some_iff.mp left
    exact (inv.setLeaderGuid successor.1 successor.2).eraseMember (guidLopart guid)
  next follows =>
    obtain rfl := Option.some.inj left
    exact inv.eraseMember (guidLopart guid)

/-- Joining either changes nothing or enters a new member with the given rank, or the
lowest one when none is given. -/
lemma addMember_cases (g : Guild) (c : Character) (rankId : UInt8) :
    g.addMember c rankId = (g, false) ∨
    ∃ m : Member, m.guid = c.guid ∧
      m.rankId = (if rankId = guildRankNone then g.getLowestRankId else rankId) ∧
      g.addMember c rankId = ({ g with members := g.members.insert (guidLopart c.guid) m }, true) := by
  unfold Guild.addMember
  split
  · exact Or.inl rfl
  · dsimp only
    split
    · exact Or.inr ⟨_, rfl, rfl, rfl⟩
    · exact Or.inl rfl

lemma RankInv.addMember (inv : g.RankInv) (c : Character) : (g.addMember c).1.RankInv := by
  rcases addMember_cases g c guildRankNone with refused | ⟨m, -, rank, entered⟩
  · rw [refused]
    exact inv
  · rw [entered]
    apply inv.with_members
    intro k n hm
    rcases (Table.lookup_insert_iff g.members (guidLopart c.guid) k m n).mp hm with
      ⟨_, rfl⟩ | ⟨_, before⟩
    · -- a new member gets the lowest rank of the table
      have lowest := g.getLowestRankId_toNat inv.least inv.most
      have least := inv.least
      rw [rank, if_pos rfl, lowest]
      omega
    · exact inv.members k n before

lemma RankInv.createRank (inv : g.RankInv) (name : String) (rights : UInt32) :
    (g.createRank name rights).RankInv := by
  unfold Guild.createRank
  split
  · exact inv
  next room =>
    have size := g.getRanksSize_toNat inv.most
    have short : g.ranks.length < 10 := by
      simp only [ge_iff_le, UInt8.le_iff_toNat_le, not_le, size] at room
      exact room
    exact {
      ids := by
        have ids := inv.ids
        simp only [rankIds] at ids
        simp [rankIds, ids, size, List.range_succ]
      members := fun lowguid m hf => by
        have := inv.members lowguid m hf
        simp only [List.length_append, List.length_singleton]
        omega
      least := by
        have := inv.least
        simp only [List.length_append]
        omega
      most := by
        simp only [List.length_append, List.length_singleton]
        omega }

lemma range_eraseIdx_eq_iff {n i : ℕ} (bound : i < n) :
    (List.range n).eraseIdx i = List.range (n - 1) ↔ i + 1 = n := by
  constructor
  · intro hs
    by_contra inner
    -- behind the removed index every entry is one too large
    have entry := congrArg (fun l : List ℕ => l[i]?) hs
    simp only [List.getElem?_eraseIdx, Nat.lt_irrefl, if_false] at entry
    rw [List.getElem?_range (by omega), List.getElem?_range (by omega)] at entry
    simp at entry
  · rintro rfl
    simp [List.range_succ, List.eraseIdx_append_of_length_le]

/-- Removing a rank keeps the table exactly when it is the last one and nobody holds it. -/
lemma rankTable_eraseIdx_iff (g : Guild) (table : g.RankTable) (i : ℕ) (bound : i < g.ranks.length) :
    ({ g with ranks := g.ranks.eraseIdx i } : Guild).RankTable ↔
      i + 1 = g.ranks.length ∧
        ∀ lowguid m, g.members.lookup lowguid = some m → m.rankId.toNat ≠ i := by
  have ids : ({ g with ranks := g.ranks.eraseIdx i } : Guild).rankIds =
      (List.range g.ranks.length).eraseIdx i := by
    rw [← table.ids]
    simp [rankIds, List.eraseIdx_map]
  have length : (g.ranks.eraseIdx i).length = g.ranks.length - 1 :=
    List.length_eraseIdx_of_lt bound
  constructor
  · intro erased
    have last : i + 1 = g.ranks.length := by
      rw [← range_eraseIdx_eq_iff bound, ← ids, erased.ids, length]
    refine ⟨last, fun lowguid m hf => ?_⟩
    have below := erased.members lowguid m hf
    simp only [length] at below
    omega
  · rintro ⟨last, unheld⟩
    refine ⟨?_, fun lowguid m hf => ?_⟩
    · rw [ids, (range_eraseIdx_eq_iff bound).mpr last, length]
    · have below := table.members lowguid m hf
      have other := unheld lowguid m hf
      simp only [length]
      omega

lemma RankInv.eraseIdx (inv : g.RankInv) (i : ℕ) (bound : i < g.ranks.length)
    (more : 2 < g.ranks.length) (table : ({ g with ranks := g.ranks.eraseIdx i } : Guild).RankTable) :
    ({ g with ranks := g.ranks.eraseIdx i } : Guild).RankInv := by
  have length : (g.ranks.eraseIdx i).length = g.ranks.length - 1 :=
    List.length_eraseIdx_of_lt bound
  have most := inv.most
  exact { toRankTable := table, least := by simp only [length]; omega, most := by simp only [length]; omega }

lemma RankInv.handleUpdateRank (inv : g.RankInv) (player : UInt64) (id : UInt32) (up : Bool)
    (served : g.handleUpdateRank player id up = .ok g') : g'.RankInv := by
  unfold Guild.handleUpdateRank at served
  split at served
  · cases served
  · dsimp only at served
    split at served
    next i j _ _ =>
      split at served
      next rank1 rank2 _ _ =>
        obtain rfl := Except.ok.inj served
        -- names and rights are exchanged, ids stay
        apply inv.of_same_ids
        · have first := rankIds_modify g j (fun r => (r.setName rank1.name).setRights rank1.rights)
            (fun _ => rfl)
          have second := rankIds_modify
            { g with ranks := g.ranks.modify j fun r => (r.setName rank1.name).setRights rank1.rights }
            i (fun r => (r.setName rank2.name).setRights rank2.rights) (fun _ => rfl)
          exact second.trans first
        · exact inv.members
      next => obtain rfl := Except.ok.inj served; exact inv
    next => obtain rfl := Except.ok.inj served; exact inv

lemma RankInv.setRankBankTabRightsAndSlots (inv : g.RankInv) (rankId : UInt8)
    (r : GuildBankRightsAndSlots) : (g.setRankBankTabRightsAndSlots rankId r).RankInv := by
  unfold Guild.setRankBankTabRightsAndSlots
  split
  · exact inv
  · exact inv.modifyRank rankId _ (fun _ => rfl)

lemma RankInv.handleSetRankInfo (inv : g.RankInv) (player : UInt64) (rankId : UInt8)
    (name : String) (rights moneyPerDay : UInt32)
    (rightsAndSlots : Vector (UInt8 × UInt32) guildBankMaxTabs)
    (served : g.handleSetRankInfo player rankId name rights moneyPerDay rightsAndSlots = .ok g') :
    g'.RankInv := by
  unfold Guild.handleSetRankInfo at served
  split at served
  · cases served
  · obtain rfl := Except.ok.inj served
    have start := inv.modifyRank rankId
      (fun r => ((r.setName name).setRights rights).setBankMoneyPerDay moneyPerDay) (fun _ => rfl)
    revert start
    generalize g.modifyRank rankId _ = g
    generalize rightsAndSlots.toList.zipIdx = tabs
    intro start
    induction tabs generalizing g with
    | nil => exact start
    | cons tab tabs ih =>
      exact ih _ (start.setRankBankTabRightsAndSlots rankId _)

lemma RankInv.handleUpdateMemberRank (inv : g.RankInv) (player guid : UInt64) (demote : Bool)
    (served : g.handleUpdateMemberRank player guid demote = .ok g') : g'.RankInv := by
  have most := inv.most
  cases demote with
  | true =>
    simp only [Guild.handleUpdateMemberRank, if_true] at served
    split at served
    · cases served
    split at served
    next member memberMe hf foundMe =>
      have here := inv.members (guidLopart guid) member hf
      split at served
      · cases served
      split at served
      · cases served
      split at served
      · cases served
      next above =>
        obtain rfl := Except.ok.inj served
        -- below the lowest rank, so the next one is still in the table
        have lowest := g.getLowestRankId_toNat inv.least inv.most
        have least := inv.least
        rw [UInt8.le_iff_toNat_le, lowest] at above
        apply inv.changeRank
        rw [UInt8.toNat_add, show (1 : UInt8).toNat = 1 from rfl]
        omega
    next => obtain rfl := Except.ok.inj served; exact inv
  | false =>
    simp only [Guild.handleUpdateMemberRank, Bool.false_eq_true, if_false] at served
    split at served
    · cases served
    split at served
    next member memberMe hf foundMe =>
      have here := inv.members (guidLopart guid) member hf
      split at served
      · cases served
      split at served
      · cases served
      next lower =>
        obtain rfl := Except.ok.inj served
        -- not rank zero, so one less does not wrap
        simp only [Member.isRankNotLower, decide_eq_true_eq, UInt8.le_iff_toNat_le] at lower
        have one : (1 : UInt8) ≤ member.rankId := by
          rw [UInt8.le_iff_toNat_le, show (1 : UInt8).toNat = 1 from rfl]
          omega
        apply inv.changeRank
        rw [UInt8.toNat_sub_of_le _ _ one]
        omega
    next => obtain rfl := Except.ok.inj served; exact inv

end Guild

end WorldServer.Guilds
