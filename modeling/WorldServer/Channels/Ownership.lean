import WorldServer.Channels.Channel
import WorldServer.Lib.Run

/-!
# Members and owners of custom channels

A custom channel exists from the first request to join it until a member leaves it empty. Its
members are the players who have it in their lists of channels. As long as it has members one of
them is its owner, unless the owner kicks or bans himself: then his entry comes back without a
player, or the channel stays without members and remembers him as its owner.
-/
namespace WorldServer.Channels

open WorldServer.Lib

/-! ### Entries -/

namespace Channel

variable (ch : Channel) (g h : ℕ) (f : PlayerInfo → PlayerInfo)

@[simp] lemma IsOn_modify : (ch.modify g f).IsOn h = (decide (h = g) || ch.IsOn h) := by
  rcases eq_or_ne h g with rfl | other
  · simp [IsOn, modify]
  · simp [IsOn, modify, other, AList.lookup_insert_ne other]

@[simp] lemma info_modify :
    (ch.modify g f).info h = if h = g then f (ch.info g) else ch.info h := by
  rcases eq_or_ne h g with rfl | other
  · simp [info, modify]
  · simp [info, modify, other, AList.lookup_insert_ne other]

@[simp] lemma IsOn_erase : (ch.erase g).IsOn h = (!decide (h = g) && ch.IsOn h) := by
  rcases eq_or_ne h g with rfl | other
  · simp [IsOn, erase]
  · simp [IsOn, erase, other, AList.lookup_erase_ne other]

lemma info_erase (other : h ≠ g) : (ch.erase g).info h = ch.info h := by
  simp [info, erase, AList.lookup_erase_ne other]

@[simp] lemma modify_ownerGUID : (ch.modify g f)._ownerGUID = ch._ownerGUID := rfl
@[simp] lemma erase_ownerGUID : (ch.erase g)._ownerGUID = ch._ownerGUID := rfl

lemma exists_isOn_iff : (∃ g, ch.IsOn g = true) ↔ ch.playersStore.entries ≠ [] := by
  constructor
  · rintro ⟨g, isOn⟩ none
    obtain ⟨info, hf⟩ := Option.isSome_iff_exists.mp isOn
    have hm := AList.mem_lookup_iff.mp (Option.mem_def.mpr hf)
    rw [none] at hm
    cases hm
  · intro some
    obtain ⟨entry, hm⟩ := List.exists_mem_of_ne_nil _ some
    refine ⟨entry.1, ?_⟩
    rw [IsOn, Option.mem_def.mp (AList.mem_lookup_iff.mpr hm)]
    rfl

lemma begin_spec : match ch.begin with
    | none => ∀ g, ch.IsOn g = false
    | some info => ∃ g, ch.IsOn g = true ∧ ch.info g = info := by
  rw [begin]
  cases first : ch.playersStore.sorted with
  | nil =>
    intro g
    rw [IsOn, Option.isSome_eq_false_iff, Option.isNone_iff_eq_none]
    cases hf : ch.playersStore.lookup g with
    | none => rfl
    | some info =>
      have hm := (Table.mem_sorted ch.playersStore g info).mpr hf
      rw [first] at hm
      cases hm
  | cons entry rest =>
    have hf := (Table.mem_sorted ch.playersStore entry.1 entry.2).mp (first ▸ List.mem_cons_self)
    exact ⟨entry.1, by rw [IsOn, hf]; rfl, by rw [info, hf]; rfl⟩

end Channel

/-! ### The channel of a name -/

/-- What a new custom channel with owners takes from the database. -/
structure Stored where
  announce : Bool
  password : String
  banned : List ℕ
deriving DecidableEq, Repr

/-- The channel of a name, if it exists, and the players who have it in their lists. -/
structure Slot where
  channel : Option Channel
  joined : Finset ℕ

def Channel.create (stored : Stored) : Channel :=
  ⟨stored.announce, true, CHANNEL_FLAG_CUSTOM, 0, 0, stored.password, ∅, stored.banned.toFinset⟩

def track (joined : Finset ℕ) : Call → Finset ℕ
  | .JoinedChannel guid => insert guid joined
  | .LeftChannel guid => joined.erase guid
  | _ => joined

def Slot.accept (s : Slot) (reply : Reply) : Slot :=
  ⟨some reply.channel, reply.calls.foldl track s.joined⟩

@[simp] lemma track_announce (p : Prop) [Decidable p] (notify : Notify) (joined : Finset ℕ) :
    (if p then [Call.SendToAll notify] else []).foldl track joined = joined := by
  split <;> rfl

@[simp] lemma track_tell (p : Prop) [Decidable p] (notify : Notify) (who : ℕ)
    (joined : Finset ℕ) :
    (if p then [] else [Call.SendToOne notify who]).foldl track joined = joined := by
  split <;> rfl

/-- `ChannelMgr::LeftChannel`: the channel is deleted if it is empty. -/
def Slot.LeftChannel (s : Slot) : Slot :=
  match s.channel with
  | none => s
  | some ch =>
    if ch.playersStore.entries = [] ∧ !ch.IsConstant then { s with channel := none } else s

inductive Request where
  | join (player : Player) (pass : String) (stored : Stored)
  | leave (player : Player)
  | logout (player : Player)
  | kickOrBan (player : Player) (world : List Player) (badname : String) (ban : Bool)
  | unban (player : Player) (world : List Player) (badname : String)
  | setMode (player : Player) (world : List Player) (p2n : String) (mod set : Bool)
  | setOwner (player : Player) (world : List Player) (newname : String)

def Slot.request (s : Slot) (f : Channel → Reply) : Slot :=
  match s.channel with
  | none => s
  | some ch => s.accept (f ch)

def step (s : Slot) : Request → Slot
  | .join player pass stored =>
    s.accept ((s.channel.getD (.create stored)).JoinChannel player pass)
  | .leave player => (s.request fun ch => ch.LeaveChannel player true).LeftChannel
  | .logout player =>
    if player.guid ∈ s.joined then
      (({ s with joined := s.joined.erase player.guid }).request
        fun ch => ch.LeaveChannel player false).LeftChannel
    else s
  | .kickOrBan player world badname ban =>
    s.request fun ch => ch.KickOrBan player world badname ban
  | .unban player world badname => s.request fun ch => ch.UnBan player world badname
  | .setMode player world p2n mod set => s.request fun ch => ch.SetMode player world p2n mod set
  | .setOwner player world newname => s.request fun ch => ch.SetOwnerByName player world newname

/-! ### What holds of a channel -/

structure Channel.Owned (ch : Channel) : Prop where
  member : ch.IsOn ch._ownerGUID = true
  flag : ∀ g, ch.IsOn g = true → ((ch.info g).IsOwner = true ↔ g = ch._ownerGUID)
  moderator : (ch.info ch._ownerGUID).IsModerator = true

/-- The members are the players who joined and have not left, no member is banned, and a channel
with members has an owner. -/
structure Channel.Sound (ch : Channel) (joined : Finset ℕ) : Prop where
  members : ∀ g, ch.IsOn g = true ↔ g ∈ joined
  banned : ∀ g ∈ ch.bannedStore, ch.IsOn g = false
  owned : ch.playersStore.entries ≠ [] → ch.Owned

def Slot.Sound (s : Slot) : Prop :=
  match s.channel with
  | none => s.joined = ∅
  | some ch => ch.Sound s.joined

/-- The members of a custom channel with owners, each in an entry that names him. -/
structure Channel.Listed (ch : Channel) (joined : Finset ℕ) : Prop where
  members : ∀ g, ch.IsOn g = true ↔ g ∈ joined
  banned : ∀ g ∈ ch.bannedStore, ch.IsOn g = false
  custom : ch._channelId = 0
  ownership : ch._ownership = true
  nonzero : 0 ∉ joined
  keys : ∀ g, ch.IsOn g = true → (ch.info g).player = g

structure Channel.Kept (ch : Channel) (joined : Finset ℕ) : Prop extends ch.Listed joined where
  owned : ch.playersStore.entries ≠ [] → ch.Owned

def Slot.Kept (s : Slot) : Prop :=
  match s.channel with
  | none => s.joined = ∅
  | some ch => ch.Kept s.joined

/-! ### A new owner -/

namespace Channel

variable {ch : Channel} {joined : Finset ℕ} {guid : ℕ} {exclaim : Bool}

/-- Only the old owner may have the flag before. -/
def Flagged (ch : Channel) : Prop :=
  ∀ g, ch.IsOn g = true → (ch.info g).IsOwner = true → g = ch._ownerGUID ∧ g ≠ 0

lemma IsOn_clearOwner (g : ℕ) : ch.clearOwner.IsOn g = ch.IsOn g := by
  rw [clearOwner]
  split
  next there =>
    by_cases hs : g = ch._ownerGUID
    · simp [hs, there.2]
    · simp [hs]
  · rfl

lemma Flagged.clearOwner (flagged : ch.Flagged) (g : ℕ) (isOn : ch.IsOn g = true) :
    (ch.clearOwner.info g).IsOwner = false := by
  rw [Channel.clearOwner]
  split
  next there =>
    rw [info_modify]
    split
    · simp
    next other =>
      by_contra flag
      exact other (flagged g isOn (by simpa using flag)).1
  next gone =>
    by_contra flag
    obtain ⟨rfl, nonzero⟩ := flagged g isOn (by simpa using flag)
    exact gone ⟨nonzero, isOn⟩

lemma SetOwner_channel (nonzero : guid ≠ 0) : (ch.SetOwner guid exclaim).channel =
    (({ ch.clearOwner with _ownerGUID := guid } : Channel).modify guid (.SetModerator true)).modify
      guid (.SetOwner true) := by
  rw [SetOwner]
  simp [nonzero]

lemma track_SetOwner : (ch.SetOwner guid exclaim).calls.foldl track joined = joined := by
  rw [SetOwner]
  by_cases nonzero : guid = 0
  · simp [nonzero]
  · cases exclaim with
    | true => simp [nonzero, track]
    | false => simp [nonzero]

lemma Flagged.owned (flagged : ch.Flagged) (nonzero : guid ≠ 0) :
    (ch.SetOwner guid exclaim).channel.Owned := by
  rw [SetOwner_channel nonzero]
  refine ⟨by simp, fun g isOn => ?_, by simp⟩
  by_cases hs : g = guid
  · simp [hs]
  · have wasOn : ch.IsOn g = true := by
      rw [IsOn_modify, IsOn_modify, decide_eq_false hs, Bool.false_or, Bool.false_or] at isOn
      exact (IsOn_clearOwner g).symm.trans isOn
    rw [info_modify, if_neg hs, info_modify, if_neg hs]
    have cleared : (({ ch.clearOwner with _ownerGUID := guid } : Channel).info g).IsOwner = false :=
      flagged.clearOwner g wasOn
    simp [cleared, hs]

/-! ### Who is listed -/

section

variable (listed : ch.Listed joined)
include listed

lemma Listed.modify (f : PlayerInfo → PlayerInfo) (hm : guid ∈ joined)
    (hs : ∀ info, (f info).player = info.player) :
    (ch.modify guid f).Listed joined where
  members g := by
    have isOn := (listed.members guid).mpr hm
    rw [IsOn_modify, ← listed.members]
    by_cases here : g = guid
    · simp [here, isOn]
    · simp [here]
  banned g hm' := by
    have absent := listed.banned g hm'
    have isOn := (listed.members guid).mpr hm
    have other : g ≠ guid := fun here => by
      rw [here, isOn] at absent
      cases absent
    simp [other, absent]
  custom := listed.custom
  ownership := listed.ownership
  nonzero := listed.nonzero
  keys g isOn := by
    rw [info_modify]
    split
    next here =>
      rw [hs, here]
      exact listed.keys guid ((listed.members guid).mpr hm)
    next other =>
      rw [IsOn_modify, decide_eq_false other, Bool.false_or] at isOn
      exact listed.keys g isOn

lemma Listed.ownerGUID (guid : ℕ) : ({ ch with _ownerGUID := guid } : Channel).Listed joined :=
  ⟨listed.members, listed.banned, listed.custom, listed.ownership, listed.nonzero, listed.keys⟩

lemma Listed.clearOwner : ch.clearOwner.Listed joined := by
  rw [Channel.clearOwner]
  split
  next there => exact listed.modify _ ((listed.members _).mp there.2) fun info => rfl
  · exact listed

lemma Listed.SetOwner (hm : guid ∈ joined) :
    (ch.SetOwner guid exclaim).channel.Listed joined := by
  have nonzero : guid ≠ 0 := fun zero => listed.nonzero (zero ▸ hm)
  rw [SetOwner_channel nonzero]
  apply Listed.modify
  · apply Listed.modify
    · exact listed.clearOwner.ownerGUID guid
    · exact hm
    · exact fun info => rfl
  · exact hm
  · exact fun info => rfl

lemma Listed.erase (guid : ℕ) :
    (ch.erase guid).Listed (joined.erase guid) where
  members g := by
    rw [IsOn_erase, Finset.mem_erase, ← listed.members]
    simp
  banned g hm := by
    have absent := listed.banned g hm
    simp [absent]
  custom := listed.custom
  ownership := listed.ownership
  nonzero hm := listed.nonzero (Finset.mem_of_mem_erase hm)
  keys g isOn := by
    rw [IsOn_erase, Bool.and_eq_true, Bool.not_eq_true', decide_eq_false_iff_not] at isOn
    rw [info_erase _ _ _ isOn.1]
    exact listed.keys g isOn.2

end

lemma Kept.flagged (kept : ch.Kept joined) : ch.Flagged := by
  intro g isOn flag
  have owned := kept.owned ((exists_isOn_iff ch).mp ⟨g, isOn⟩)
  refine ⟨(owned.flag g isOn).mp flag, fun zero => kept.nonzero ?_⟩
  rw [← zero]
  exact (kept.members g).mp isOn

lemma Listed.kept_SetOwner (listed : ch.Listed joined) (flagged : ch.Flagged)
    (hm : guid ∈ joined) : (ch.SetOwner guid exclaim).channel.Kept joined where
  toListed := listed.SetOwner hm
  owned := fun _ => flagged.owned fun zero => listed.nonzero (zero ▸ hm)

lemma Flagged.modify_moderator (flagged : ch.Flagged) (isOn : ch.IsOn guid = true) :
    (ch.modify guid (.SetModerator true)).Flagged := by
  intro g isOn' flag
  rw [info_modify] at flag
  have wasOn : ch.IsOn g = true := by
    by_cases hs : g = guid
    · rw [hs]
      exact isOn
    · simpa [hs] using isOn'
  apply flagged g wasOn
  split at flag
  next hs =>
    rw [hs]
    simpa using flag
  · exact flag

lemma Listed.kept_promote (listed : ch.Listed joined) (flagged : ch.Flagged)
    (hm : guid ∈ joined) :
    ((ch.modify guid (.SetModerator true)).SetOwner guid exclaim).channel.Kept joined :=
  (listed.modify (.SetModerator true) hm fun _ => rfl).kept_SetOwner
    (flagged.modify_moderator ((listed.members guid).mpr hm)) hm

lemma Flagged.erase (flagged : ch.Flagged) (guid : ℕ) : (ch.erase guid).Flagged := by
  intro g isOn flag
  rw [IsOn_erase, Bool.and_eq_true, Bool.not_eq_true', decide_eq_false_iff_not] at isOn
  rw [info_erase _ _ _ isOn.1] at flag
  exact flagged g isOn.2 flag

lemma Kept.modify (kept : ch.Kept joined) (f : PlayerInfo → PlayerInfo) (hm : guid ∈ joined)
    (player : ∀ info, (f info).player = info.player)
    (owner : ∀ info, (f info).IsOwner = info.IsOwner)
    (moderator : guid = ch._ownerGUID → (f (ch.info guid)).IsModerator = true) :
    (ch.modify guid f).Kept joined where
  toListed := kept.toListed.modify f hm player
  owned _ := by
    have isOn := (kept.members guid).mpr hm
    obtain ⟨ownerOn, flag, isModerator⟩ := kept.owned ((exists_isOn_iff ch).mp ⟨guid, isOn⟩)
    refine ⟨?_, fun g isOn' => ?_, ?_⟩
    · rw [IsOn_modify, modify_ownerGUID, ownerOn, Bool.or_true]
    · rw [modify_ownerGUID, info_modify]
      split
      next hs =>
        rw [owner, hs]
        exact flag guid isOn
      next other =>
        rw [IsOn_modify, decide_eq_false other, Bool.false_or] at isOn'
        exact flag g isOn'
    · rw [modify_ownerGUID, info_modify]
      split
      next hs => exact moderator hs.symm
      · exact isModerator

lemma Kept.erase (kept : ch.Kept joined) (other : guid ≠ ch._ownerGUID) :
    (ch.erase guid).Kept (joined.erase guid) where
  toListed := kept.toListed.erase guid
  owned some := by
    obtain ⟨g, isOn⟩ := (exists_isOn_iff _).mpr some
    rw [IsOn_erase, Bool.and_eq_true] at isOn
    obtain ⟨ownerOn, flag, isModerator⟩ := kept.owned ((exists_isOn_iff ch).mp ⟨g, isOn.2⟩)
    refine ⟨?_, fun g isOn => ?_, ?_⟩
    · rw [IsOn_erase, erase_ownerGUID, ownerOn, decide_eq_false other.symm]
      rfl
    · rw [IsOn_erase, Bool.and_eq_true, Bool.not_eq_true', decide_eq_false_iff_not] at isOn
      rw [info_erase _ _ _ isOn.1]
      exact flag g isOn.2
    · rw [erase_ownerGUID, info_erase _ _ _ other.symm]
      exact isModerator

lemma Listed.insert (listed : ch.Listed joined) (nonzero : guid ≠ 0)
    (allowed : guid ∉ ch.bannedStore) :
    (ch.modify guid fun _ => ⟨guid, MEMBER_FLAG_NONE⟩).Listed (insert guid joined) where
  members g := by
    rw [IsOn_modify, Finset.mem_insert, Bool.or_eq_true, decide_eq_true_eq, listed.members]
  banned g hm := by
    have other : g ≠ guid := fun hs => allowed (hs ▸ hm)
    simp [other, listed.banned g hm]
  custom := listed.custom
  ownership := listed.ownership
  nonzero hm := by
    rcases Finset.mem_insert.mp hm with zero | old
    · exact nonzero zero.symm
    · exact listed.nonzero old
  keys g isOn := by
    rw [info_modify]
    split
    next hs => exact hs.symm
    next other =>
      rw [IsOn_modify, decide_eq_false other, Bool.false_or] at isOn
      exact listed.keys g isOn

/-! ### Joining -/

variable {player : Player} {pass : String}

/-- The checks of `JoinChannel`. -/
def Accepts (ch : Channel) (player : Player) (pass : String) : Prop :=
  ch.IsOn player.guid = false ∧ player.guid ∉ ch.bannedStore ∧
    ¬ (ch._password ≠ "" ∧ pass ≠ ch._password) ∧
    ¬ (ch.HasFlag CHANNEL_FLAG_LFG = true ∧ player.restrictedInLfg = true)

def enter (ch : Channel) (player : Player) : Channel :=
  ch.modify player.guid fun _ => ⟨player.guid, MEMBER_FLAG_NONE⟩

lemma JoinChannel_of_not_accepts (joined : Finset ℕ) (refused : ¬ ch.Accepts player pass) :
    (ch.JoinChannel player pass).channel = ch ∧
      (ch.JoinChannel player pass).calls.foldl track joined = joined := by
  rw [JoinChannel]
  by_cases isOn : ch.IsOn player.guid = true
  · simp [isOn]
  · by_cases isBanned : player.guid ∈ ch.bannedStore
    · simp [isOn, IsBanned, isBanned, track]
    · by_cases password : ch._password ≠ "" ∧ pass ≠ ch._password
      · simp [isOn, IsBanned, isBanned, password, track]
      · by_cases lfg : ch.HasFlag CHANNEL_FLAG_LFG = true ∧ player.restrictedInLfg = true
        · simp [isOn, IsBanned, isBanned, password, lfg, track]
        · exact absurd ⟨by simpa using isOn, isBanned, password, lfg⟩ refused

lemma JoinChannel_of_accepts (joined : Finset ℕ) (accepted : ch.Accepts player pass)
    (custom : ch._channelId = 0) (ownership : ch._ownership = true) :
    (ch.JoinChannel player pass).channel = (if ch._ownerGUID = 0 then
      ((ch.enter player).SetOwner player.guid
        (decide ((ch.enter player).playersStore.entries.length > 1))).channel.modify player.guid
          (.SetModerator true)
      else ch.enter player) ∧
    (ch.JoinChannel player pass).calls.foldl track joined = insert player.guid joined := by
  obtain ⟨absent, allowed, password, lfg⟩ := accepted
  have constant : ch.IsConstant = false := by simp [IsConstant, custom]
  rw [JoinChannel]
  simp only [absent, IsBanned, allowed, password, lfg, constant, ownership, decide_false,
    Bool.false_eq_true, if_false, Bool.not_false, true_and, and_true]
  by_cases zero : ch._ownerGUID = 0
  · simp [zero, enter, track, track_SetOwner]
  · simp [zero, enter, track]

lemma Kept.JoinChannel (kept : ch.Kept joined)
    (fresh : ch.Accepts player pass → ch.playersStore.entries = [] → ch._ownerGUID = 0) :
    (ch.JoinChannel player pass).channel.Kept
      ((ch.JoinChannel player pass).calls.foldl track joined) := by
  by_cases accepted : ch.Accepts player pass
  · obtain ⟨channel, tracked⟩ := JoinChannel_of_accepts joined accepted kept.custom
      kept.ownership
    have listed := kept.toListed.insert player.valid accepted.2.1
    have hm : player.guid ∈ insert player.guid joined := Finset.mem_insert_self ..
    rw [channel, tracked]
    split
    next zero =>
      -- the channel has no members, or one of them would be its owner
      have none : ∀ g, ch.IsOn g = false := by
        intro g
        by_contra isOn
        have owned := kept.owned ((exists_isOn_iff ch).mp ⟨g, by simpa using isOn⟩)
        exact kept.nonzero (zero ▸ (kept.members _).mp owned.member)
      have flagged : (ch.enter player).Flagged := by
        intro g isOn flag
        rw [enter, info_modify] at flag
        split at flag
        · exact absurd flag (by simp)
        next other =>
          rw [enter, IsOn_modify, none, decide_eq_false other] at isOn
          cases isOn
      apply (listed.kept_SetOwner flagged hm).modify (.SetModerator true) hm
        (fun _ => rfl)
      · exact fun info => info.IsOwner_SetModerator true
      · exact fun _ => PlayerInfo.IsModerator_SetModerator _ true
    next nonzero =>
      refine ⟨listed, fun _ => ?_⟩
      have some : ch.playersStore.entries ≠ [] := fun none => nonzero (fresh accepted none)
      obtain ⟨ownerOn, flag, isModerator⟩ := kept.owned some
      have other : ch._ownerGUID ≠ player.guid := fun hs => by
        rw [hs, accepted.1] at ownerOn
        cases ownerOn
      refine ⟨?_, fun g isOn => ?_, ?_⟩
      · simp [enter, ownerOn]
      · rw [enter, info_modify]
        split
        next hs => exact iff_of_false (by simp) fun isOwner => other (isOwner.symm.trans hs)
        next different =>
          rw [enter, IsOn_modify, decide_eq_false different, Bool.false_or] at isOn
          exact flag g isOn
      · simp [enter, other, isModerator]
  · obtain ⟨channel, tracked⟩ := JoinChannel_of_not_accepts joined accepted
    rw [channel, tracked]
    exact kept

lemma track_LeaveChannel (joined : Finset ℕ) (send : Bool) :
    (ch.LeaveChannel player send).calls.foldl track joined =
      if ch.IsOn player.guid = true ∧ send = true then joined.erase player.guid else joined := by
  rw [LeaveChannel]
  by_cases isOn : ch.IsOn player.guid = true
  · simp only [isOn, Bool.not_true, Bool.false_eq_true, if_false]
    have told : ∀ calls, (∀ joined : Finset ℕ, calls.foldl track joined = joined) →
        (((if send = true then [Call.SendToOne .YouLeft player.guid, .LeftChannel player.guid]
          else []) ++ (if ch._announce = true ∧
            (!player.HasPermission RBAC_PERM_SILENTLY_JOIN_CHANNEL) = true then
              [Call.SendToAll (.Left player.guid)] else []) ++ [Call.LeaveNotify player.guid] ++
          calls).foldl track joined) = if True ∧ send = true then joined.erase player.guid
            else joined := by
      intro calls silent
      rw [List.foldl_append, silent, List.foldl_append, List.foldl_append, track_announce]
      cases send <;> rfl
    split
    · split
      · simpa using told [] fun _ => rfl
      · exact told _ fun joined => track_SetOwner
    · simpa using told [] fun _ => rfl
  · cases send <;> simp [isOn, track]

lemma Kept.LeaveChannel (kept : ch.Kept joined) (player : Player) (send : Bool) :
    (ch.LeaveChannel player send).channel.Kept (joined.erase player.guid) := by
  rw [Channel.LeaveChannel]
  by_cases isOn : ch.IsOn player.guid = true
  · simp only [isOn, Bool.not_true, Bool.false_eq_true, if_false]
    have owned := kept.owned ((exists_isOn_iff ch).mp ⟨_, isOn⟩)
    split
    next changes =>
      -- the flag is the owner's
      have first := (ch.erase player.guid).begin_spec
      cases begins : (ch.erase player.guid).begin with
      | none =>
        rw [begins] at first
        refine ⟨kept.toListed.erase _, fun some => ?_⟩
        obtain ⟨g, isOn'⟩ := (exists_isOn_iff _).mpr some
        rw [first g] at isOn'
        cases isOn'
      | some info =>
        rw [begins] at first
        obtain ⟨g, isOn', hs⟩ := first
        have listed := kept.toListed.erase player.guid
        have key : info.player = g := by
          rw [← hs]
          exact listed.keys g isOn'
        simp only
        rw [key]
        exact listed.kept_promote (kept.flagged.erase _) ((listed.members g).mp isOn')
    next stays =>
      apply kept.erase
      intro isOwner
      refine stays ⟨?_, (owned.flag _ isOn).mpr isOwner, kept.ownership⟩
      rw [IsConstant, kept.custom]
      rfl
  · have absent : player.guid ∉ joined := fun hm => isOn ((kept.members _).mpr hm)
    rw [Finset.erase_eq_of_notMem absent]
    simp only [isOn]
    exact kept

/-! ### Kicking and banning -/

variable {world : List Player} {badname : String} {ban : Bool} {bad : Player}

/-- The victim's entry is gone, and he is banned if that is asked. -/
def takeOut (ch : Channel) (victim : ℕ) (ban : Bool) : Channel :=
  { ch.erase victim with
    bannedStore := if ban && !ch.IsBanned victim then insert victim ch.bannedStore
      else ch.bannedStore }

/-- What is checked before somebody is taken out. -/
def Allows (ch : Channel) (player bad : Player) : Prop :=
  ch.IsOn player.guid = true ∧ ch.mayChange player = true ∧ ch.IsOn bad.guid = true ∧
    ¬ (player.HasPermission RBAC_PERM_CHANGE_CHANNEL_NOT_MODERATOR = false ∧
      ch._ownerGUID = bad.guid ∧ player.guid ≠ ch._ownerGUID)

lemma KickOrBan_of_allows (ban : Bool) (joined : Finset ℕ)
    (hf : FindPlayerByName world badname = some bad)
    (allowed : ch.Allows player bad) (ownership : ch._ownership = true) :
    (ch.KickOrBan player world badname ban).channel =
      (if ch._ownerGUID = bad.guid ∧ (ch.takeOut bad.guid ban).playersStore.entries ≠ [] then
        (((ch.takeOut bad.guid ban).modify player.guid (.SetModerator true)).SetOwner player.guid
          true).channel
      else ch.takeOut bad.guid ban) ∧
    (ch.KickOrBan player world badname ban).calls.foldl track joined =
      joined.erase bad.guid := by
  obtain ⟨isOn, may, victimOn, owner⟩ := allowed
  rw [KickOrBan]
  simp only [isOn, may, hf, victimOn, ownership, Bool.not_true, Bool.false_eq_true, if_false,
    true_and, beq_iff_eq, Bool.not_eq_true', owner]
  have told : ∀ (p q : Prop) [Decidable p] [Decidable q] (n n' : Notify),
      ((if p then [] else if q then [Call.SendToAll n] else [Call.SendToAll n']).foldl track
        joined) = joined := by
    intro p q _ _ n n'
    split
    · rfl
    · split <;> rfl
  by_cases changes : ch._ownerGUID = bad.guid ∧
      (ch.takeOut bad.guid ban).playersStore.entries ≠ []
  · rw [takeOut] at changes
    simp only [changes, takeOut, and_self, ne_eq, not_false_eq_true, if_true]
    refine ⟨trivial, ?_⟩
    rw [List.foldl_append, List.foldl_append, told, track_SetOwner]
    rfl
  · rw [if_neg changes]
    rw [takeOut] at changes
    rw [if_neg changes]
    refine ⟨rfl, ?_⟩
    rw [List.foldl_append, told]
    rfl

lemma KickOrBan_of_not_allows (ban : Bool) (joined : Finset ℕ)
    (refused : ∀ bad, FindPlayerByName world badname = some bad → ¬ ch.Allows player bad) :
    (ch.KickOrBan player world badname ban).channel = ch ∧
      (ch.KickOrBan player world badname ban).calls.foldl track joined = joined := by
  rw [KickOrBan]
  by_cases isOn : ch.IsOn player.guid = true
  · by_cases may : ch.mayChange player = true
    · cases hf : FindPlayerByName world badname with
      | none => simp [isOn, may, track]
      | some bad =>
        by_cases victimOn : ch.IsOn bad.guid = true
        · by_cases owner : player.HasPermission RBAC_PERM_CHANGE_CHANNEL_NOT_MODERATOR = false ∧
              ch._ownerGUID = bad.guid ∧ player.guid ≠ ch._ownerGUID
          · simp only [isOn, may, victimOn, Bool.not_true, Bool.false_eq_true, if_false,
              beq_iff_eq, Bool.not_eq_true']
            rw [if_pos owner]
            exact ⟨rfl, rfl⟩
          · exact absurd ⟨isOn, may, victimOn, owner⟩ (refused bad hf)
        · simp [isOn, may, victimOn, track]
    · simp [isOn, may, track]
  · simp [isOn, track]

lemma Kept.takeOut (kept : ch.Kept joined) (victim : ℕ) (ban : Bool) :
    (ch.takeOut victim ban).Listed (joined.erase victim) := by
  have listed := kept.toListed.erase victim
  refine ⟨listed.members, fun g hm => ?_, listed.custom, listed.ownership, listed.nonzero,
    listed.keys⟩
  rw [Channel.takeOut] at hm
  split at hm
  · rcases Finset.mem_insert.mp hm with rfl | old
    · exact (IsOn_erase ch g g).trans (by simp)
    · exact listed.banned g old
  · exact listed.banned g hm

lemma Kept.KickOrBan (kept : ch.Kept joined)
    (last : ∀ bad, FindPlayerByName world badname = some bad → ch.Allows player bad →
      bad.guid = player.guid → ch._ownerGUID = player.guid →
        ∀ g, ch.IsOn g = true → g = player.guid) :
    (ch.KickOrBan player world badname ban).channel.Kept
      ((ch.KickOrBan player world badname ban).calls.foldl track joined) := by
  by_cases allowed : ∃ bad, FindPlayerByName world badname = some bad ∧ ch.Allows player bad
  · obtain ⟨bad, hf, allowed⟩ := allowed
    obtain ⟨channel, tracked⟩ := KickOrBan_of_allows ban joined hf allowed
      kept.ownership
    have listed := kept.takeOut bad.guid ban
    rw [channel, tracked]
    split
    next changes =>
      apply listed.kept_promote (kept.flagged.erase bad.guid)
      rw [Finset.mem_erase, ← kept.members]
      refine ⟨fun hs => ?_, allowed.1⟩
      -- somebody is left, who is not the owner
      obtain ⟨g, isOn⟩ := (exists_isOn_iff _).mpr changes.2
      change (ch.erase bad.guid).IsOn g = true at isOn
      rw [IsOn_erase, Bool.and_eq_true, Bool.not_eq_true', decide_eq_false_iff_not] at isOn
      have isLast := last bad hf allowed hs.symm (changes.1.trans hs.symm) g isOn.2
      exact isOn.1 (isLast.trans hs)
    next stays =>
      refine ⟨listed, fun some => ?_⟩
      have other : bad.guid ≠ ch._ownerGUID := fun hs => stays ⟨hs.symm, some⟩
      have owned := (kept.erase other).owned some
      exact ⟨owned.member, owned.flag, owned.moderator⟩
  · obtain ⟨channel, tracked⟩ := KickOrBan_of_not_allows ban joined
      fun bad hf may => allowed ⟨bad, hf, may⟩
    rw [channel, tracked]
    exact kept

lemma Kept.KickOrBan_self (kept : ch.Kept joined)
    (hf : FindPlayerByName world badname = some bad)
    (allowed : ch.Allows player bad) (self : bad.guid = player.guid)
    (isOwner : ch._ownerGUID = player.guid) {g : ℕ} (isOn : ch.IsOn g = true)
    (other : g ≠ player.guid) :
    ¬ (ch.KickOrBan player world badname ban).channel.Sound
      ((ch.KickOrBan player world badname ban).calls.foldl track joined) := by
  intro sound
  obtain ⟨channel, tracked⟩ := KickOrBan_of_allows ban joined hf allowed
    kept.ownership
  have some : (ch.takeOut bad.guid ban).playersStore.entries ≠ [] := by
    refine (exists_isOn_iff _).mp ⟨g, ?_⟩
    change (ch.erase bad.guid).IsOn g = true
    simp [self, other, isOn]
  rw [channel, tracked, if_pos ⟨isOwner.trans self.symm, some⟩] at sound
  have back := (sound.members player.guid).mp (by
    rw [SetOwner_channel player.valid]
    simp)
  rw [self] at back
  exact absurd rfl (Finset.mem_erase.mp back).1

lemma Kept.JoinChannel_stale (kept : ch.Kept joined) (accepted : ch.Accepts player pass)
    (none : ch.playersStore.entries = []) (stale : ch._ownerGUID ≠ 0) :
    ¬ (ch.JoinChannel player pass).channel.Sound
      ((ch.JoinChannel player pass).calls.foldl track joined) := by
  intro sound
  obtain ⟨channel, -⟩ := JoinChannel_of_accepts joined accepted kept.custom
    kept.ownership
  rw [channel, if_neg stale] at sound
  have isOn : (ch.enter player).IsOn player.guid = true := by simp [enter]
  have owned := sound.owned ((exists_isOn_iff _).mp ⟨_, isOn⟩)
  -- the only entry has no flags
  have absent : ∀ g, ch.IsOn g = false := by
    intro g
    by_contra isOn
    exact (exists_isOn_iff ch).mp ⟨g, by simpa using isOn⟩ none
  have hs : ch._ownerGUID = player.guid := by
    have hm := owned.member
    rw [enter, IsOn_modify, absent, Bool.or_false, decide_eq_true_eq] at hm
    exact hm
  have flag := (owned.flag player.guid isOn).mpr hs.symm
  rw [enter, info_modify, if_pos rfl, PlayerInfo.IsOwner_none] at flag
  cases flag

/-! ### The other requests -/

variable {name : String} {mod set : Bool}

section

variable (kept : ch.Kept joined)
include kept

lemma Kept.UnBan : (ch.UnBan player world name).channel.Kept
    ((ch.UnBan player world name).calls.foldl track joined) := by
  rw [Channel.UnBan]
  split
  · exact kept
  · split
    · exact kept
    · cases FindPlayerByName world name with
      | none => exact kept
      | some bad =>
        simp only
        split
        · exact kept
        · refine ⟨⟨kept.members, fun g hm => ?_, kept.custom, kept.ownership, kept.nonzero,
            kept.keys⟩, fun some => ?_⟩
          · exact kept.banned g (Finset.mem_of_mem_erase hm)
          · have owned := kept.owned some
            exact ⟨owned.member, owned.flag, owned.moderator⟩

lemma Kept.SetOwnerByName :
    (ch.SetOwnerByName player world name).channel.Kept
      ((ch.SetOwnerByName player world name).calls.foldl track joined) := by
  rw [Channel.SetOwnerByName]
  split
  · exact kept
  · split
    · exact kept
    · cases FindPlayerByName world name with
      | none => exact kept
      | some newp =>
        simp only
        split
        · exact kept
        next may =>
          rw [not_or, Bool.not_eq_true', Bool.not_eq_false] at may
          rw [track_SetOwner]
          exact kept.toListed.kept_promote kept.flagged ((kept.members _).mp may.1)

/-- The owner keeps the flag of a moderator unless he takes it by another spelling of his name. -/
lemma Kept.SetModerator {guid : ℕ} (isOn : ch.IsOn guid = true)
    (still : guid = ch._ownerGUID → set = true) :
    (ch.SetModerator guid set).channel.Kept
      ((ch.SetModerator guid set).calls.foldl track joined) := by
  rw [Channel.SetModerator]
  split
  · apply kept.modify (.SetModerator set) ((kept.members _).mp isOn)
    · exact fun _ => rfl
    · exact fun info => info.IsOwner_SetModerator set
    · exact fun isOwner => (PlayerInfo.IsModerator_SetModerator _ set).trans (still isOwner)
  · exact kept

lemma Kept.SetMute {guid : ℕ} (isOn : ch.IsOn guid = true) :
    (ch.SetMute guid set).channel.Kept ((ch.SetMute guid set).calls.foldl track joined) := by
  rw [Channel.SetMute]
  split
  · apply kept.modify (.SetMuted set) ((kept.members _).mp isOn)
    · exact fun _ => rfl
    · exact fun info => info.IsOwner_SetMuted set
    · intro isOwner
      rw [PlayerInfo.IsModerator_SetMuted, isOwner]
      exact (kept.owned ((exists_isOn_iff ch).mp ⟨_, isOn⟩)).moderator
  · exact kept

/-- The owner, found by another spelling of his name, gives up the flag of a moderator. -/
def Resigns (ch : Channel) (player : Player) (world : List Player) (p2n : String)
    (mod set : Bool) : Prop :=
  mod = true ∧ set = false ∧ p2n ≠ player.name ∧ ch.IsOn player.guid = true ∧
    ch._ownerGUID = player.guid ∧
      ∃ newp, FindPlayerByName world p2n = some newp ∧ newp.guid = player.guid ∧
        oneSide player newp = true

lemma Kept.SetMode (stays : ¬ ch.Resigns player world name mod set) :
    (ch.SetMode player world name mod set).channel.Kept
      ((ch.SetMode player world name mod set).calls.foldl track joined) := by
  rw [Channel.SetMode]
  split
  · exact kept
  next isOn =>
    split
    · exact kept
    next may =>
      split
      · exact kept
      next notSelf =>
        cases hf : FindPlayerByName world name with
        | none => exact kept
        | some newp =>
          simp only
          split
          · exact kept
          next sides =>
            rw [not_or, Bool.not_eq_true', Bool.not_eq_false, Bool.not_eq_true',
              Bool.not_eq_false] at sides
            split
            · exact kept
            next notOwner =>
              split
              next isMod =>
                apply kept.SetModerator sides.1
                intro isOwner
                have own : ch._ownerGUID = player.guid := by
                  by_contra other
                  exact notOwner ⟨isOwner.symm, other⟩
                by_contra unset
                refine stays ⟨isMod, by simpa using unset, fun hs => ?_, by simpa using isOn, own,
                  newp, hf, isOwner.trans own, sides.2⟩
                exact notSelf ⟨own.symm, hs, isMod⟩
              next => exact kept.SetMute sides.1

lemma Kept.SetMode_resigns (resigns : ch.Resigns player world name mod set) :
    ¬ (ch.SetMode player world name mod set).channel.Sound
      ((ch.SetMode player world name mod set).calls.foldl track joined) := by
  intro sound
  obtain ⟨rfl, rfl, spelling, isOn, isOwner, newp, hf, hs, sides⟩ := resigns
  have owned := kept.owned ((exists_isOn_iff ch).mp ⟨_, isOn⟩)
  have isModerator : (ch.info player.guid).IsModerator = true := isOwner ▸ owned.moderator
  have channel : (ch.SetMode player world name true false).channel =
      ch.modify player.guid (.SetModerator false) := by
    simp [Channel.SetMode, isOn, mayChange, isModerator, spelling, hf, hs, sides, isOwner,
      Channel.SetModerator]
  rw [channel] at sound
  have after := sound.owned ((exists_isOn_iff _).mp ⟨player.guid, by simp⟩)
  have lost := after.moderator
  rw [modify_ownerGUID, isOwner, info_modify, if_pos rfl,
    PlayerInfo.IsModerator_SetModerator] at lost
  cases lost

/-- The owner kicks or bans himself from a channel with other members. -/
def OustsSelf (ch : Channel) (player : Player) (world : List Player) (badname : String) : Prop :=
  ∃ bad, FindPlayerByName world badname = some bad ∧ ch.Allows player bad ∧
    bad.guid = player.guid ∧ ch._ownerGUID = player.guid ∧
      ∃ g, ch.IsOn g = true ∧ g ≠ player.guid

lemma Kept.sound : ch.Sound joined :=
  ⟨kept.members, kept.banned, kept.owned⟩

end

lemma create_kept (stored : Stored) : (create stored).Kept ∅ where
  members g := by simp [create, IsOn]
  banned g _ := by simp [create, IsOn]
  custom := rfl
  ownership := rfl
  nonzero := Finset.notMem_empty 0
  keys g isOn := by simp [create, IsOn] at isOn
  owned some := absurd rfl some

end Channel

/-! ### Runs -/

namespace Slot

variable {s : Slot}

def Orderly (s : Slot) : Request → Prop
  | .join player pass stored =>
    let ch := s.channel.getD (.create stored)
    -- a channel without members has forgotten its owner
    ch.Accepts player pass → ch.playersStore.entries = [] → ch._ownerGUID = 0
  | .kickOrBan player world badname _ =>
    ∀ ch, s.channel = some ch → ¬ ch.OustsSelf player world badname
  | .setMode player world p2n mod set =>
    ∀ ch, s.channel = some ch → ¬ ch.Resigns player world p2n mod set
  | _ => True

section

variable (kept : s.Kept)
include kept

lemma Kept.sound : s.Sound := by
  rw [Slot.Kept] at kept
  rw [Slot.Sound]
  cases hf : s.channel with
  | none => simpa only [hf] using kept
  | some ch =>
    simp only [hf] at kept ⊢
    exact kept.sound

lemma Kept.getD_create (stored : Stored) : (s.channel.getD (.create stored)).Kept s.joined := by
  rw [Slot.Kept] at kept
  cases hf : s.channel with
  | none =>
    simp only [hf] at kept
    rw [kept]
    exact Channel.create_kept stored
  | some ch =>
    simp only [hf] at kept
    exact kept

lemma Kept.request {f : Channel → Reply} (keeps : ∀ ch, s.channel = some ch → ch.Kept s.joined →
      (f ch).channel.Kept ((f ch).calls.foldl track s.joined)) : (s.request f).Kept := by
  rw [Slot.request]
  cases hf : s.channel with
  | none => exact kept
  | some ch =>
    rw [Slot.Kept, hf] at kept
    exact keeps ch hf kept

lemma Kept.LeftChannel : s.LeftChannel.Kept := by
  rw [Slot.LeftChannel]
  cases hf : s.channel with
  | none => exact kept
  | some ch =>
    simp only
    split
    next empty =>
      rw [Slot.Kept, hf] at kept
      rw [Slot.Kept]
      apply Finset.eq_empty_of_forall_notMem
      intro g hm
      have isOn := (kept.members g).mpr hm
      exact (ch.exists_isOn_iff.mp ⟨g, isOn⟩) empty.1
    · exact kept

lemma Kept.leave (player : Player) : (step s (.leave player)).Kept := by
  apply Kept.LeftChannel
  apply kept.request
  intro ch _ kept
  have left := kept.LeaveChannel player true
  rw [Channel.track_LeaveChannel]
  split
  · exact left
  next absent =>
    -- the list of the player does not have the channel
    have absent : player.guid ∉ s.joined := fun hm =>
      absent ⟨(kept.members _).mpr hm, rfl⟩
    rw [Finset.erase_eq_of_notMem absent] at left
    exact left

lemma Kept.logout (player : Player) : (step s (.logout player)).Kept := by
  rw [step]
  split
  next hm =>
    apply Kept.LeftChannel
    rw [Slot.request]
    cases hf : s.channel with
    | none =>
      rw [Slot.Kept, hf] at kept
      rw [kept] at hm
      cases hm
    | some ch =>
      rw [Slot.Kept, hf] at kept
      have left := kept.LeaveChannel player false
      have tracked : (ch.LeaveChannel player false).calls.foldl track (s.joined.erase player.guid) =
          s.joined.erase player.guid := by
        rw [Channel.track_LeaveChannel]
        simp
      simp only [Slot.accept, tracked]
      exact left
  · exact kept

lemma Kept.step (r : Request) (orderly : s.Orderly r) : (Channels.step s r).Kept := by
  cases r with
  | join player pass stored => exact (kept.getD_create stored).JoinChannel orderly
  | leave player => exact kept.leave player
  | logout player => exact kept.logout player
  | kickOrBan player world badname ban =>
    apply kept.request
    intro ch hf kept
    apply kept.KickOrBan
    intro bad isBad allowed self isOwner g isOn
    by_contra other
    exact orderly ch hf ⟨bad, isBad, allowed, self, isOwner, g, isOn, other⟩
  | unban player world badname => exact kept.request fun ch _ kept => kept.UnBan
  | setMode player world p2n mod set =>
    exact kept.request fun ch hf kept => kept.SetMode (orderly ch hf)
  | setOwner player world newname => exact kept.request fun ch _ kept => kept.SetOwnerByName

lemma Kept.sound_step_iff (r : Request) : (Channels.step s r).Sound ↔ s.Orderly r := by
  constructor
  · intro sound
    cases r with
    | join player pass stored =>
      intro accepted none
      by_contra stale
      exact (kept.getD_create stored).JoinChannel_stale accepted none stale sound
    | kickOrBan player world badname ban =>
      rintro ch hf ⟨bad, isBad, allowed, self, isOwner, g, isOn, other⟩
      rw [Slot.Kept, hf] at kept
      apply kept.KickOrBan_self isBad allowed self isOwner isOn other
      simpa only [Channels.step, Slot.request, hf, Slot.accept, Slot.Sound] using sound
    | setMode player world p2n mod set =>
      intro ch hf resigns
      rw [Slot.Kept, hf] at kept
      apply kept.SetMode_resigns resigns
      simpa only [Channels.step, Slot.request, hf, Slot.accept, Slot.Sound] using sound
    | leave player => trivial
    | logout player => trivial
    | unban player world badname => trivial
    | setOwner player world newname => trivial
  · exact fun orderly => (kept.step r orderly).sound

end

def empty : Slot := ⟨none, ∅⟩

lemma empty_kept : empty.Kept := rfl

/-- After every request the members are the players who joined, none of them is banned and one is
the owner, if and only if every request meets its condition. -/
theorem channel_sound_iff (requests : List Request) :
    Along Channels.step (fun s r => (Channels.step s r).Sound) empty requests ↔
      Along Channels.step Orderly empty requests := by
  apply along_iff_of_invariant Slot.Kept
  · exact fun s r kept orderly => kept.step r orderly
  · exact fun s r kept => kept.sound_step_iff r
  · exact empty_kept

def anna : Player := ⟨1, "Anna", 67, [], false, by decide⟩
def bert : Player := ⟨2, "Bert", 67, [], false, by decide⟩
def noStored : Stored := ⟨true, "", []⟩

/-- The owner of a channel with another member kicks himself, and is a member again. -/
theorem not_channel_sound : ¬ ∀ requests : List Request,
    Along Channels.step (fun s r => (Channels.step s r).Sound) empty requests := by
  intro sound
  have last := (sound [.join anna "" noStored, .join bert "" noStored,
    .kickOrBan anna [anna, bert] "Anna" false]).2.2.1
  have kept : (run Channels.step empty [.join anna "" noStored, .join bert "" noStored]).Kept := by
    apply run_invariant Slot.Kept (fun s r kept orderly => kept.step r orderly) empty_kept
    refine ⟨fun _ _ => rfl, fun _ none => ?_, trivial⟩
    revert none
    decide
  have orderly := (kept.sound_step_iff _).mp last
  apply orderly _ rfl
  refine ⟨anna, by simp [FindPlayerByName, anna], ?_, rfl, ?_, 2, ?_⟩
  · unfold Channel.Allows
    decide
  · decide
  · decide

end Slot

end WorldServer.Channels
