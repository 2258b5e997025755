import WorldServer.Calendar.Handlers

/-!
# Ids of events and invites

The ids of the live events and those that are free are the ids up to the largest one, each of them
once, after every run of requests. The same is true of the invites with the ids that are lost: an
invite to an announcement takes an id and is not stored, so that its id does not come back.
-/
namespace WorldServer.Calendar.CalendarMgr

open WorldServer.Lib

/-! ### What the stores hold -/

variable {invite : CalendarInvite}

section Stores

variable (mgr : CalendarMgr)

def liveEvents : List ℕ := mgr._events.map CalendarEvent._eventId

def stored : List CalendarInvite := mgr._invites.gather id

def storedInvites : List ℕ := mgr.stored.map CalendarInvite._inviteId

def storedElsewhere (eventId : ℕ) : List CalendarInvite := Table.gather id (mgr._invites.erase eventId)

lemma stored_perm (eventId : ℕ) :
    mgr.stored.Perm (mgr.GetEventInvites eventId ++ mgr.storedElsewhere eventId) := by
  cases hf : mgr._invites.lookup eventId with
  | none =>
    rw [GetEventInvites, hf, storedElsewhere, Table.erase_of_none _ hf]
    exact List.Perm.refl _
  | some invites =>
    rw [GetEventInvites, hf]
    exact Table.gather_erase id mgr._invites hf

def setStore (eventId : ℕ) (invites : List CalendarInvite) : CalendarMgr :=
  { mgr with _invites := mgr._invites.insert eventId invites }

variable (eventId : ℕ) (invites : List CalendarInvite)

lemma stored_setStore :
    (mgr.setStore eventId invites).stored = invites ++ mgr.storedElsewhere eventId :=
  Table.gather_insert id mgr._invites eventId invites

lemma stored_append (invite : CalendarInvite) :
    (mgr.setStore eventId (mgr.GetEventInvites eventId ++ [invite])).stored.Perm
      (invite :: mgr.stored) := by
  refine ((List.perm_append_singleton invite _).append_right _).trans ?_
  exact (mgr.stored_perm eventId).symm.cons invite

lemma mem_stored {mgr : CalendarMgr} :
    invite ∈ mgr.stored ↔ ∃ k, invite ∈ mgr.GetEventInvites k := by
  constructor
  · intro hm
    obtain ⟨e, here, inside⟩ := List.mem_flatMap.mp hm
    refine ⟨e.1, ?_⟩
    rw [GetEventInvites, show mgr._invites.lookup e.1 = some e.2 from AList.mem_lookup_iff.mpr here]
    exact inside
  · rintro ⟨k, hm⟩
    exact (mgr.stored_perm k).mem_iff.mpr (List.mem_append_left _ hm)

@[simp] lemma GetEventInvites_setStore (k : ℕ) : (mgr.setStore eventId invites).GetEventInvites k =
    if k = eventId then invites else mgr.GetEventInvites k := by
  split
  next hs =>
    subst hs
    simp [setStore, GetEventInvites, AList.lookup_insert]
  next other => simp [setStore, GetEventInvites, AList.lookup_insert_ne other]

end Stores

/-- The ids in use are distinct, every id up to the largest one is in use or free once, and the
next id is not in use. -/
structure Recycled (ids : Recycler) (used : List ℕ) : Prop where
  distinct : used.Nodup
  once : ∀ id, 1 ≤ id → id ≤ ids.max →
    (id ∈ used ∧ id ∉ ids.free) ∨ (id ∉ used ∧ ids.free.count id = 1)
  fresh : (ids.take 64).1 ∉ used

structure Consistent (mgr : CalendarMgr) : Prop where
  events : Recycled mgr.eventIds mgr.liveEvents
  invites : Recycled mgr.inviteIds mgr.storedInvites
  placed : ∀ eventId, ∀ invite ∈ mgr.GetEventInvites eventId,
    invite._eventId = eventId ∧ eventId ∈ mgr.liveEvents

/-! ### The invariant -/

structure Filed (mgr : CalendarMgr) (live lost : List ℕ) : Prop where
  room : mgr.inviteIds.max < 2 ^ 64
  tracks : mgr.inviteIds.Tracks (mgr.storedInvites ++ lost)
  placed : ∀ eventId, ∀ invite ∈ mgr.GetEventInvites eventId,
    invite._eventId = eventId ∧ eventId ∈ live

structure Kept (mgr : CalendarMgr) (lost : List ℕ) : Prop where
  filed : Filed mgr mgr.liveEvents lost
  room : mgr.eventIds.max < 2 ^ 64
  tracks : mgr.eventIds.Tracks mgr.liveEvents

variable {used : List ℕ} {mgr' : CalendarMgr}

lemma recycled_of_tracks {ids : Recycler} (tracks : ids.Tracks used) (room : ids.max < 2 ^ 64) :
    Recycled ids used :=
  ⟨(List.nodup_append'.mp tracks.nodup).1, fun _ => tracks.once, tracks.take_notMem room⟩

lemma Kept.consistent_iff_noneLost {mgr : CalendarMgr} {lost : List ℕ} (kept : Kept mgr lost) :
    Consistent mgr ↔ lost = [] := by
  constructor
  · intro consistent
    refine kept.filed.tracks.lost fun id lower upper => ?_
    rcases consistent.invites.once id lower upper with ⟨here, -⟩ | ⟨-, free⟩
    · exact .inl here
    · exact .inr (List.count_pos_iff.mp (by omega))
  · rintro rfl
    have invites := kept.filed.tracks
    rw [List.append_nil] at invites
    exact ⟨recycled_of_tracks kept.tracks kept.room, recycled_of_tracks invites kept.filed.room,
      kept.filed.placed⟩

section Operations

variable {mgr : CalendarMgr} {live lost : List ℕ}

/-! ### What the operations do with the ids -/

lemma Filed.setStore (filed : Filed mgr live lost) (eventId : ℕ) {invites : List CalendarInvite}
    (ids : (invites.map CalendarInvite._inviteId).Perm
      ((mgr.GetEventInvites eventId).map CalendarInvite._inviteId))
    (placed : ∀ invite ∈ invites, invite._eventId = eventId ∧ eventId ∈ live) :
    Filed (mgr.setStore eventId invites) live lost := by
  refine ⟨filed.room, filed.tracks.perm (List.Perm.append_right lost ?_), ?_⟩
  · have before := (mgr.stored_perm eventId).map CalendarInvite._inviteId
    rw [List.map_append] at before
    rw [storedInvites, stored_setStore, List.map_append]
    exact (ids.append_right _).trans before.symm
  · intro k invite hm
    rw [GetEventInvites_setStore] at hm
    split at hm
    next hs => exact hs ▸ placed invite hm
    next => exact filed.placed k invite hm

lemma Filed.modifyInvite (filed : Filed mgr live lost) (place : InvitePlace)
    {f : CalendarInvite → CalendarInvite} (inviteId : ∀ invite, (f invite)._inviteId = invite._inviteId)
    (eventId : ∀ invite, (f invite)._eventId = invite._eventId) :
    Filed (mgr.modifyInvite place f) live lost := by
  refine filed.setStore place.key (List.Perm.of_eq ?_) ?_
  · -- the ids at the places are the same
    refine List.ext_getElem? fun i => ?_
    rw [List.getElem?_map, List.getElem?_map, List.getElem?_modify]
    cases (mgr.GetEventInvites place.key)[i]? with
    | none => rfl
    | some invite =>
      rw [Option.map_eq_map, Option.map_some, Option.map_some, Option.map_some]
      split
      · rw [inviteId]
      · rfl
  · intro invite hm
    obtain ⟨i, here⟩ := List.mem_iff_getElem?.mp hm
    rw [List.getElem?_modify] at here
    obtain ⟨old, hf, rfl⟩ := Option.map_eq_some_iff.mp here
    have before := filed.placed place.key old (List.mem_of_getElem? hf)
    split
    · rwa [eventId]
    · exact before

lemma Filed.addNewInvite (filed : Filed mgr live lost) (room : mgr.inviteIds.max + 1 < 2 ^ 64)
    (calendarEvent : CalendarEvent) {eventId : ℕ} (hm : eventId ∈ live)
    {invite : ℕ → CalendarInvite} (inviteId : ∀ id, (invite id)._inviteId = id)
    (event : ∀ id, (invite id)._eventId = eventId) :
    Filed (mgr.addNewInvite calendarEvent invite) live
      (if calendarEvent.IsGuildAnnouncement then mgr.GetFreeInviteId.1 :: lost else lost) := by
  have taken := filed.tracks.take room
  have less : (mgr.inviteIds.take 64).2.max < 2 ^ 64 :=
    lt_of_le_of_lt (Recycler.take_max_le _) room
  rw [CalendarMgr.addNewInvite, AddInvite]
  split
  · exact ⟨less, taken.perm List.perm_middle, filed.placed⟩
  · -- the invite comes to the end of the store of its event
    rw [event]
    let invites := mgr.GetEventInvites eventId ++ [invite mgr.GetFreeInviteId.1]
    have added : (mgr.GetFreeInviteId.2.setStore eventId invites).storedInvites.Perm
        (mgr.GetFreeInviteId.1 :: mgr.storedInvites) := by
      have ids := (mgr.stored_append eventId (invite mgr.GetFreeInviteId.1)).map
        CalendarInvite._inviteId
      rwa [List.map_cons, inviteId] at ids
    refine ⟨less, taken.perm (added.append_right lost), ?_⟩
    intro k i here
    have here' : i ∈ (mgr.setStore eventId invites).GetEventInvites k := here
    rw [GetEventInvites_setStore] at here'
    split at here'
    next hs =>
      subst hs
      rcases List.mem_append.mp here' with old | new
      · exact filed.placed k i old
      · rw [List.mem_singleton] at new
        exact ⟨new ▸ event _, hm⟩
    next => exact filed.placed k i here'

lemma addNewInvite_frame (mgr : CalendarMgr) (calendarEvent : CalendarEvent)
    (invite : ℕ → CalendarInvite) :
    (mgr.addNewInvite calendarEvent invite)._events = mgr._events ∧
    (mgr.addNewInvite calendarEvent invite).eventIds = mgr.eventIds ∧
    (mgr.addNewInvite calendarEvent invite).inviteIds.max ≤ mgr.inviteIds.max + 1 := by
  rw [CalendarMgr.addNewInvite, AddInvite]
  split
  · exact ⟨rfl, rfl, Recycler.take_max_le _⟩
  · exact ⟨rfl, rfl, Recycler.take_max_le _⟩

variable {α : Type}

lemma Filed.addNewInvites (calendarEvent : CalendarEvent) {eventId : ℕ} (hm : eventId ∈ live)
    {invite : α → ℕ → CalendarInvite} (inviteId : ∀ a id, (invite a id)._inviteId = id)
    (event : ∀ a id, (invite a id)._eventId = eventId) (as : List α) :
    ∀ {mgr : CalendarMgr} {lost : List ℕ}, Filed mgr live lost →
      mgr.inviteIds.max + as.length < 2 ^ 64 →
      let added := as.foldl (fun mgr a => mgr.addNewInvite calendarEvent (invite a)) mgr
      added._events = mgr._events ∧ added.eventIds = mgr.eventIds ∧
      ∃ lost', Filed added live lost' ∧
        lost'.length = lost.length + if calendarEvent.IsGuildAnnouncement then as.length else 0 := by
  induction as with
  | nil => exact fun filed _ => ⟨rfl, rfl, _, filed, by simp⟩
  | cons a as ih =>
    intro mgr lost filed room
    rw [List.length_cons] at room
    have one := filed.addNewInvite (by omega) calendarEvent hm (inviteId a) (event a)
    obtain ⟨events, eventIds, max⟩ := mgr.addNewInvite_frame calendarEvent (invite a)
    obtain ⟨events', eventIds', lost', filed', length⟩ := ih one (by omega)
    refine ⟨events'.trans events, eventIds'.trans eventIds, lost', filed', ?_⟩
    rw [length]
    split
    · rw [List.length_cons, List.length_cons]
      omega
    · rfl

lemma foldl_deleteInvite (invites : List CalendarInvite)
    (positive : ∀ invite ∈ invites, invite._inviteId ≠ 0) : ∀ mgr : CalendarMgr,
    invites.foldl deleteInvite mgr = { mgr with
      inviteIds := (invites.map CalendarInvite._inviteId).foldl (Recycler.release 64)
        mgr.inviteIds } := by
  induction invites with
  | nil => exact fun _ => rfl
  | cons invite invites ih =>
    intro mgr
    rw [List.foldl_cons, ih fun i hm => positive i (List.mem_cons_of_mem _ hm),
      deleteInvite, if_pos (positive invite (List.mem_cons_self ..))]
    rfl

lemma Filed.positive (filed : Filed mgr live lost) {eventId : ℕ}
    (hm : invite ∈ mgr.GetEventInvites eventId) : invite._inviteId ≠ 0 := by
  have here : invite ∈ mgr.stored :=
    (mgr.stored_perm eventId).mem_iff.mpr (List.mem_append_left _ hm)
  have used : invite._inviteId ∈ mgr.storedInvites ++ lost :=
    List.mem_append_left _ (List.mem_map_of_mem here)
  have lower := ((filed.tracks.mem_iff _).mp (.inl used)).1
  omega

lemma GetEvent_mem {eventId : ℕ} {calendarEvent : CalendarEvent}
    (found : mgr.GetEvent eventId = some calendarEvent) :
    calendarEvent._eventId = eventId ∧ eventId ∈ mgr.liveEvents := by
  have hs : calendarEvent._eventId = eventId := by simpa using List.find?_some found
  exact ⟨hs, hs ▸ List.mem_map_of_mem (List.mem_of_find?_eq_some found)⟩

lemma perm_eraseP {p : α → Bool} {l : List α} {a : α} (hf : l.find? p = some a) :
    l.Perm (a :: l.eraseP p) := by
  induction l with
  | nil => simp at hf
  | cons b l ih =>
    cases here : p b with
    | true =>
      rw [List.find?_cons_of_pos here, Option.some.injEq] at hf
      rw [List.eraseP_cons_of_pos here, hf]
    | false =>
      rw [List.find?_cons_of_neg (by simp [here])] at hf
      rw [List.eraseP_cons_of_neg (by simp [here])]
      exact ((ih hf).cons b).trans (List.Perm.swap a b _)

lemma Kept.addEvent (kept : Kept mgr lost) (room : mgr.eventIds.max + 1 < 2 ^ 64)
    (calendarEvent : CalendarEvent) (free : calendarEvent._eventId = mgr.GetFreeEventId.1)
    (invite : α → ℕ → CalendarInvite) (inviteId : ∀ a id, (invite a id)._inviteId = id)
    (event : ∀ a id, (invite a id)._eventId = calendarEvent._eventId) (as : List α)
    (inviteRoom : mgr.inviteIds.max + as.length < 2 ^ 64) :
    let added := as.foldl (fun mgr a => mgr.addNewInvite calendarEvent (invite a))
      mgr.GetFreeEventId.2
    ∃ lost', Kept (added.AddEvent calendarEvent) lost' ∧
      lost'.length = lost.length + if calendarEvent.IsGuildAnnouncement then as.length else 0 := by
  intro added
  let live := mgr.liveEvents ++ [calendarEvent._eventId]
  have start : Filed mgr.GetFreeEventId.2 live lost := by
    refine ⟨kept.filed.room, kept.filed.tracks, fun k i hm => ?_⟩
    obtain ⟨own, here⟩ := kept.filed.placed k i hm
    exact ⟨own, List.mem_append_left _ here⟩
  have last : calendarEvent._eventId ∈ live := List.mem_append_right _ (List.mem_singleton_self _)
  obtain ⟨events, eventIds, lost', filed, length⟩ :=
    Filed.addNewInvites calendarEvent last inviteId event as start inviteRoom
  have liveEvents : (added.AddEvent calendarEvent).liveEvents = live := by
    simp only [CalendarMgr.liveEvents, AddEvent, List.map_append, List.map_singleton, live]
    exact congrArg (· ++ _) (congrArg (List.map CalendarEvent._eventId) events)
  refine ⟨lost', ⟨?_, ?_, ?_⟩, length⟩
  · rw [liveEvents]
    exact ⟨filed.room, filed.tracks, filed.placed⟩
  · change added.eventIds.max < 2 ^ 64
    rw [eventIds]
    exact lt_of_le_of_lt (Recycler.take_max_le _) room
  · rw [liveEvents]
    change added.eventIds.Tracks live
    rw [eventIds]
    refine (kept.tracks.take room).perm ?_
    simp only [live, free]
    exact List.perm_append_singleton _ _

lemma Kept.removeEvent (kept : Kept mgr lost) {eventId : ℕ}
    (removed : mgr.RemoveEvent eventId = .ok mgr') : Kept mgr' lost := by
  cases hf : mgr.GetEvent eventId with
  | none => simp [RemoveEvent, hf] at removed
  | some calendarEvent =>
    obtain ⟨hs, -⟩ := GetEvent_mem hf
    simp only [RemoveEvent, hf, Except.ok.injEq, deleteEvent, FreeEventId] at removed
    rw [foldl_deleteInvite _ fun _ hm => kept.filed.positive hm] at removed
    subst removed
    -- the event is erased from the live ones
    have live := (perm_eraseP hf).map CalendarEvent._eventId
    rw [List.map_cons, hs] at live
    constructor
    · have stored := (mgr.stored_perm eventId).map CalendarInvite._inviteId
      rw [List.map_append] at stored
      have all := kept.filed.tracks.perm (stored.symm.append_right lost)
      rw [List.append_assoc] at all
      refine ⟨Recycler.releases_max_lt _ kept.filed.room, all.releases kept.filed.room, ?_⟩
      intro k invite hm
      by_cases here : k = eventId
      · subst here
        simp [GetEventInvites, AList.lookup_erase] at hm
      · have before : invite ∈ mgr.GetEventInvites k := by
          simpa [GetEventInvites, AList.lookup_erase_ne here] using hm
        obtain ⟨own, alive⟩ := kept.filed.placed k invite before
        refine ⟨own, (List.mem_cons.mp (live.mem_iff.mp alive)).resolve_left here⟩
    · exact Recycler.release_max_lt kept.room _
    · rw [hs]
      exact (kept.tracks.perm live.symm).release kept.room

lemma Kept.removeInvite (kept : Kept mgr lost) (inviteId eventId : ℕ) :
    Kept (mgr.RemoveInvite inviteId eventId) lost := by
  rw [RemoveInvite]
  split
  · exact kept
  dsimp only
  split
  · exact kept
  next invite found =>
    obtain ⟨own, alive⟩ := kept.filed.placed eventId invite (List.mem_of_find?_eq_some found)
    have ids : mgr.storedInvites.Perm (invite._inviteId :: (mgr.setStore eventId
        ((mgr.GetEventInvites eventId).eraseP fun invite =>
          invite._inviteId = inviteId)).storedInvites) := by
      refine ((mgr.stored_perm eventId).map CalendarInvite._inviteId).trans ?_
      exact ((perm_eraseP found).append_right _).map CalendarInvite._inviteId
    rw [deleteInvite, if_pos (kept.filed.positive (List.mem_of_find?_eq_some found))]
    refine ⟨⟨?_, ?_, ?_⟩, kept.room, kept.tracks⟩
    · exact Recycler.release_max_lt kept.filed.room _
    · exact (kept.filed.tracks.perm (ids.symm.append_right lost)).release kept.filed.room
    · intro k i hm
      have hm' : i ∈ (mgr.setStore eventId ((mgr.GetEventInvites eventId).eraseP fun invite =>
          invite._inviteId = inviteId)).GetEventInvites k := hm
      rw [GetEventInvites_setStore] at hm'
      split at hm'
      next hs => exact hs ▸ kept.filed.placed eventId i (List.mem_of_mem_eraseP hm')
      next => exact kept.filed.placed k i hm'

end Operations

/-! ### Requests -/

section Conditions

variable (mgr : CalendarMgr) (world : World) (player : Player)

/-- Whether the event is an announcement, to which no invite is stored. -/
def announces (eventId : ℕ) : Bool :=
  match mgr.GetEvent eventId with
  | none => false
  | some calendarEvent => calendarEvent.IsGuildAnnouncement

def mayInvite (eventId : ℕ) (name : String) : Bool :=
  match mgr.GetEvent eventId with
  | none => false
  | some calendarEvent =>
    match world.FindPlayerByName name with
    | none => false
    | some invitee =>
      invitee.guid ≠ 0 &&
        !(player.team ≠ invitee.team && !world.CONFIG_ALLOW_TWO_SIDE_INTERACTION_CALENDAR) &&
        !world.ignores invitee.guid player.guid && !(calendarEvent._eventTime < world.time) &&
        !(calendarEvent.IsGuildEvent && calendarEvent._guildId = invitee.guildId)

def maySignUp (eventId : ℕ) : Bool :=
  match mgr.GetEvent eventId with
  | none => false
  | some calendarEvent => !(calendarEvent.IsGuildEvent && calendarEvent._guildId ≠ player.guildId)

def newInvites (request : Request) : ℕ :=
  match request.packet with
  | .addEvent _ invites => invites.length
  | .copyEvent eventId _ => (mgr.GetEventInvites eventId).length
  | .eventInvite eventId name isPreInvite _ =>
    if !isPreInvite && mgr.mayInvite request.world request.player eventId name then 1 else 0
  | .eventSignup eventId _ => if mgr.maySignUp request.player eventId then 1 else 0
  | _ => 0

/-- The request does not add an invite to an announcement. -/
def Stores (request : Request) : Prop :=
  match request.packet with
  | .copyEvent eventId _ | .eventInvite eventId _ _ _ | .eventSignup eventId _ =>
    mgr.announces eventId = true → mgr.newInvites request = 0
  | _ => True

/-- There are ids for the request that 64 bits hold. -/
def Room (request : Request) : Prop :=
  mgr.eventIds.max + 1 < 2 ^ 64 ∧ mgr.inviteIds.max + mgr.newInvites request < 2 ^ 64

end Conditions

section Requests

variable {mgr : CalendarMgr} {lost : List ℕ}

/-- What a request may do to the ids: it loses the ids of invites to an announcement. -/
def StepKeeps (mgr : CalendarMgr) (lost : List ℕ) (request : Request) : Prop :=
  ∃ lost', Kept (mgr.step request) lost' ∧ lost.length ≤ lost'.length ∧
    (lost'.length = lost.length ↔ mgr.Stores request)

variable {request : Request}

lemma Kept.unchanged (kept : Kept mgr lost) (hs : mgr.step request = mgr)
    (stores : mgr.Stores request) : StepKeeps mgr lost request := by
  refine ⟨lost, ?_, le_refl _, iff_of_true rfl stores⟩
  rwa [hs]

/-- A handler adds one invite to an event, or it changes nothing. -/
def AddsOne (mgr : CalendarMgr) (result : Except CalendarError CalendarMgr) (eventId : ℕ)
    (adds : Bool) : Prop :=
  if adds then ∃ calendarEvent invite, mgr.GetEvent eventId = some calendarEvent ∧
    result = .ok (mgr.addNewInvite calendarEvent invite) ∧
    (∀ id, (invite id)._inviteId = id) ∧ ∀ id, (invite id)._eventId = eventId
  else result = .ok mgr ∨ ∃ error, result = .error error

section

variable (mgr) (world : World) (player : Player) (eventId : ℕ)

lemma addsOne_eventInvite (name : String) (isPreInvite isGuildEvent : Bool) :
    AddsOne mgr (mgr.HandleCalendarEventInvite world player eventId name isPreInvite isGuildEvent)
      eventId (!isPreInvite && mgr.mayInvite world player eventId name) := by
  rw [AddsOne]
  split
  next may =>
    simp only [Bool.and_eq_true, Bool.not_eq_true', mayInvite] at may
    obtain ⟨notPre, may⟩ := may
    split at may
    · cases may
    next calendarEvent hf =>
      split at may
      · cases may
      next invitee named =>
        simp only [Bool.and_eq_true, Bool.not_eq_true', decide_eq_true_eq] at may
        obtain ⟨⟨⟨⟨known, allied⟩, notIgnored⟩, notPast⟩, notGuild⟩ := may
        refine ⟨calendarEvent, fun inviteId => ⟨inviteId, eventId, invitee.guid, player.guid, 0,
          CALENDAR_STATUS_INVITED, CALENDAR_RANK_PLAYER, ""⟩, hf, ?_, fun _ => rfl, fun _ => rfl⟩
        simp only [HandleCalendarEventInvite, named, hf, if_neg known, allied, notIgnored, notPre,
          notGuild, of_decide_eq_false notPast]
        rfl
  next may =>
    rw [HandleCalendarEventInvite]
    split
    · exact .inr ⟨_, rfl⟩
    next invitee named =>
      -- one check after another refuses the invite
      split
      · exact .inr ⟨_, rfl⟩
      next known =>
      split
      · exact .inr ⟨_, rfl⟩
      next allied =>
      split
      · exact .inr ⟨_, rfl⟩
      next notIgnored =>
      split
      · split
        · exact .inr ⟨_, rfl⟩
        next calendarEvent hf =>
        split
        · exact .inr ⟨_, rfl⟩
        next notPast =>
        split
        · exact .inr ⟨_, rfl⟩
        next notPre notGuild =>
        exact absurd (by simp_all [mayInvite]) may
      · split
        · exact .inr ⟨_, rfl⟩
        · -- the invite that is only sent has no id to give back
          exact .inl (by simp [deleteInvite])

lemma addsOne_eventSignup (tentative : Bool) :
    AddsOne mgr (mgr.HandleCalendarEventSignup world player eventId tentative)
      eventId (mgr.maySignUp player eventId) := by
  rw [AddsOne, maySignUp, HandleCalendarEventSignup]
  cases hf : mgr.GetEvent eventId with
  | none => exact .inr ⟨_, rfl⟩
  | some calendarEvent =>
    dsimp only
    split
    next may =>
      refine ⟨calendarEvent, fun inviteId => ⟨inviteId, eventId, player.guid, player.guid, world.time,
        _, CALENDAR_RANK_PLAYER, ""⟩, rfl, if_neg ?_, fun _ => rfl, fun _ => rfl⟩
      simpa only [Bool.not_eq_true, Bool.not_eq_true'] using may
    next mayNot =>
      refine .inr ⟨_, if_pos ?_⟩
      simpa only [Bool.not_eq_true, Bool.not_eq_false'] using mayNot

end

/-! A handler that changes an invite changes the one that it finds, if it finds one. -/

def rsvpTarget (mgr : CalendarMgr) (eventId inviteId : ℕ) (status : UInt8) : Option InvitePlace :=
  match mgr.GetEvent eventId with
  | none => none
  | some calendarEvent =>
    if status ≠ CALENDAR_STATUS_REMOVED && calendarEvent._flags.has CALENDAR_FLAG_INVITES_LOCKED then
      none
    else mgr.GetInvite inviteId

def statusTarget (mgr : CalendarMgr) (eventId inviteId : ℕ) : Option InvitePlace :=
  match mgr.GetEvent eventId with
  | none => none
  | some _ => mgr.GetInvite inviteId

def moderatorStatusTarget (mgr : CalendarMgr) (eventId inviteId : ℕ) : Option InvitePlace :=
  match mgr.GetEvent eventId with
  | none => none
  | some calendarEvent => if calendarEvent.IsGuildEvent then none else mgr.GetInvite inviteId

def modifyTarget (mgr : CalendarMgr) (target : Option InvitePlace)
    (change : CalendarInvite → CalendarInvite) : CalendarMgr :=
  match target with
  | none => mgr
  | some place => mgr.modifyInvite place change

def Modifies (mgr : CalendarMgr) (result : Except CalendarError CalendarMgr)
    (target : Option InvitePlace) (change : CalendarInvite → CalendarInvite) : Prop :=
  match target with
  | none => ∃ error, result = .error error
  | some place => result = .ok (mgr.modifyInvite place change)

lemma modifies_eventRsvp (mgr : CalendarMgr) (world : World) (eventId inviteId : ℕ)
    (status : UInt8) : Modifies mgr (mgr.HandleCalendarEventRsvp world eventId inviteId status)
      (mgr.rsvpTarget eventId inviteId status)
      fun invite => { invite with _status := status, _statusTime := world.time } := by
  rw [HandleCalendarEventRsvp, rsvpTarget]
  cases mgr.GetEvent eventId with
  | none => exact ⟨_, rfl⟩
  | some calendarEvent =>
    dsimp only
    split
    · exact ⟨_, rfl⟩
    · cases mgr.GetInvite inviteId with
      | none => exact ⟨_, rfl⟩
      | some place => exact rfl

lemma modifies_eventStatus (mgr : CalendarMgr) (eventId inviteId : ℕ) (status : UInt8) :
    Modifies mgr (mgr.HandleCalendarEventStatus eventId inviteId status)
      (mgr.statusTarget eventId inviteId) fun invite => { invite with _status := status } := by
  rw [HandleCalendarEventStatus, statusTarget]
  cases mgr.GetEvent eventId with
  | none => exact ⟨_, rfl⟩
  | some calendarEvent =>
    cases mgr.GetInvite inviteId with
    | none => exact ⟨_, rfl⟩
    | some place => exact rfl

lemma modifies_eventModeratorStatus (mgr : CalendarMgr) (eventId inviteId : ℕ) (rank : UInt8) :
    Modifies mgr (mgr.HandleCalendarEventModeratorStatus eventId inviteId rank)
      (mgr.moderatorStatusTarget eventId inviteId) fun invite => { invite with _rank := rank } := by
  rw [HandleCalendarEventModeratorStatus, moderatorStatusTarget]
  cases mgr.GetEvent eventId with
  | none => exact ⟨_, rfl⟩
  | some calendarEvent =>
    dsimp only
    split
    · exact ⟨_, rfl⟩
    · cases mgr.GetInvite inviteId with
      | none => exact ⟨_, rfl⟩
      | some place => exact rfl

lemma step_eq (handled : mgr.handle request = .ok mgr') : mgr.step request = mgr' := by
  rw [step, handled]

lemma step_of_error {error : CalendarError} (handled : mgr.handle request = .error error) :
    mgr.step request = mgr := by
  rw [step, handled]

variable {target : Option InvitePlace} {change : CalendarInvite → CalendarInvite}

lemma step_of_modifies (modifies : Modifies mgr (mgr.handle request) target change) :
    mgr.step request = mgr.modifyTarget target change := by
  cases target with
  | none =>
    obtain ⟨error, refused⟩ := modifies
    exact step_of_error refused
  | some place => exact step_eq modifies

/-- A request that can add one invite loses the id of it if the event is an announcement. -/
lemma Kept.addsOne (kept : Kept mgr lost) (room : mgr.Room request) {eventId : ℕ} {adds : Bool}
    (one : AddsOne mgr (mgr.handle request) eventId adds)
    (count : mgr.newInvites request = if adds then 1 else 0)
    (stores : mgr.Stores request ↔ (mgr.announces eventId = true → mgr.newInvites request = 0)) :
    StepKeeps mgr lost request := by
  cases adds with
  | false =>
    have none : mgr.Stores request := stores.mpr fun _ => count
    rcases one with handled | ⟨error, handled⟩
    · exact kept.unchanged (step_eq handled) none
    · exact kept.unchanged (step_of_error handled) none
  | true =>
    obtain ⟨calendarEvent, invite, hf, handled, inviteId, event⟩ := one
    obtain ⟨hs, alive⟩ := GetEvent_mem hf
    have enough : mgr.inviteIds.max + 1 < 2 ^ 64 := by
      have inviteRoom := room.2
      rwa [count] at inviteRoom
    have filed := kept.filed.addNewInvite enough calendarEvent alive inviteId event
    obtain ⟨events, eventIds, -⟩ := mgr.addNewInvite_frame calendarEvent invite
    have live : (mgr.addNewInvite calendarEvent invite).liveEvents = mgr.liveEvents :=
      congrArg (List.map CalendarEvent._eventId) events
    have announces : mgr.announces eventId = calendarEvent.IsGuildAnnouncement := by
      rw [CalendarMgr.announces, hf]
    rw [StepKeeps, step_eq handled, stores, announces, count]
    refine ⟨_, ⟨live.symm ▸ filed, ?_, ?_⟩, ?_, ?_⟩
    · rw [eventIds]
      exact kept.room
    · rw [eventIds, live]
      exact kept.tracks
    · split
      · exact Nat.le_succ _
      · exact le_refl _
    · cases calendarEvent.IsGuildAnnouncement <;> simp

lemma Kept.modifies (kept : Kept mgr lost)
    (modifies : Modifies mgr (mgr.handle request) target change)
    (inviteId : ∀ invite, (change invite)._inviteId = invite._inviteId)
    (eventId : ∀ invite, (change invite)._eventId = invite._eventId) (stores : mgr.Stores request) :
    StepKeeps mgr lost request := by
  have hs := step_of_modifies modifies
  cases target with
  | none => exact kept.unchanged hs stores
  | some place =>
    refine ⟨lost, ?_, le_refl _, iff_of_true rfl stores⟩
    rw [hs]
    exact ⟨kept.filed.modifyInvite place inviteId eventId, kept.room, kept.tracks⟩

lemma event_frame (world : World) (player : Player) (info : EventInfo) (eventId : ℕ) :
    (EventInfo.event world player info eventId)._eventId = eventId := by
  rw [EventInfo.event]
  split
  · split
    · rfl
    · rfl
  · rfl

lemma Kept.addEventHandled (kept : Kept mgr lost) (room : mgr.eventIds.max + 1 < 2 ^ 64)
    (world : World) (player : Player) (info : EventInfo) (invites : List CalendarInvitePacketInfo)
    (inviteRoom : mgr.inviteIds.max + invites.length < 2 ^ 64) :
    ∃ lost', Kept (mgr.HandleCalendarAddEvent world player info invites) lost' ∧
      lost'.length = lost.length := by
  let calendarEvent := EventInfo.event world player info mgr.GetFreeEventId.1
  let invite (info : CalendarInvitePacketInfo) (inviteId : ℕ) : CalendarInvite :=
    ⟨inviteId, calendarEvent._eventId, info.Guid, player.guid, 0, info.Status,
      info.ModerationRank, ""⟩
  have free := event_frame world player info mgr.GetFreeEventId.1
  rw [HandleCalendarAddEvent]
  split
  next announcement =>
    obtain ⟨lost', added, length⟩ := kept.addEvent room calendarEvent free invite (fun _ _ => rfl)
      (fun _ _ => rfl) [] (by rw [List.length_nil]; omega)
    rw [AddInvite, if_pos announcement]
    exact ⟨lost', added, by simpa using length⟩
  next stored =>
    obtain ⟨lost', added, length⟩ := kept.addEvent room calendarEvent free invite (fun _ _ => rfl)
      (fun _ _ => rfl) invites inviteRoom
    rw [if_neg stored] at length
    exact ⟨lost', added, length⟩

lemma liveEvents_updateEvent {eventId : ℕ} {info : EventInfo}
    (updated : mgr.HandleCalendarUpdateEvent eventId info = .ok mgr') :
    mgr'.liveEvents = mgr.liveEvents ∧
      mgr' = { mgr with _events := mgr'._events } := by
  rw [HandleCalendarUpdateEvent] at updated
  split at updated
  · cases updated
  · obtain rfl := Except.ok.inj updated
    refine ⟨List.ext_getElem? fun i => ?_, rfl⟩
    simp only [CalendarMgr.liveEvents, List.getElem?_map, List.getElem?_modify]
    cases mgr._events[i]? with
    | none => rfl
    | some calendarEvent =>
      split
      · rfl
      · rfl

lemma Kept.step (kept : Kept mgr lost) (request : Request) (room : mgr.Room request) :
    StepKeeps mgr lost request := by
  obtain ⟨world, player, packet⟩ := request
  cases packet with
  | addEvent info invites =>
    obtain ⟨lost', added, length⟩ := kept.addEventHandled room.1 world player info invites room.2
    refine ⟨lost', ?_, length.ge, iff_of_true length trivial⟩
    exact added
  | updateEvent eventId info =>
    cases updated : mgr.handle ⟨world, player, .updateEvent eventId info⟩ with
    | error error => exact kept.unchanged (step_of_error updated) trivial
    | ok mgr' =>
      obtain ⟨live, rest⟩ := liveEvents_updateEvent updated
      refine ⟨lost, ?_, le_refl _, iff_of_true rfl trivial⟩
      rw [step_eq updated]
      constructor
      · rw [live, rest]
        exact ⟨kept.filed.room, kept.filed.tracks, kept.filed.placed⟩
      · rw [rest]
        exact kept.room
      · rw [live, rest]
        exact kept.tracks
  | removeEvent eventId =>
    cases removed : mgr.handle ⟨world, player, .removeEvent eventId⟩ with
    | error error => exact kept.unchanged (step_of_error removed) trivial
    | ok mgr' =>
      refine ⟨lost, ?_, le_refl _, iff_of_true rfl trivial⟩
      rw [step_eq removed]
      exact kept.removeEvent removed
  | copyEvent eventId time =>
    cases hf : mgr.GetEvent eventId with
    | none =>
      have refused : mgr.handle ⟨world, player, .copyEvent eventId time⟩ = .error .eventInvalid := by
        simp only [handle, HandleCalendarCopyEvent, hf]
      refine kept.unchanged (step_of_error refused) fun announces => ?_
      simp [CalendarMgr.announces, hf] at announces
    | some oldEvent =>
      let newEvent :=
        { oldEvent.copy mgr.GetFreeEventId.1 player.guid with _eventTime := time }
      obtain ⟨lost', copied, length⟩ := kept.addEvent room.1 newEvent rfl
        (fun invite inviteId => invite.copy inviteId newEvent._eventId player.guid)
        (fun _ _ => rfl) (fun _ _ => rfl) (mgr.GetEventInvites eventId) room.2
      have handled : mgr.handle ⟨world, player, .copyEvent eventId time⟩ =
          .ok (((mgr.GetEventInvites eventId).foldl (fun mgr invite => mgr.addNewInvite newEvent
            fun inviteId => invite.copy inviteId newEvent._eventId player.guid)
              mgr.GetFreeEventId.2).AddEvent newEvent) := by
        simp only [handle, HandleCalendarCopyEvent, hf]
        rfl
      refine ⟨lost', ?_, ?_, ?_⟩
      · rw [step_eq handled]
        exact copied
      · omega
      · simp only [Stores, CalendarMgr.announces, hf, newInvites]
        change _ ↔ (newEvent.IsGuildAnnouncement = true → _)
        rw [length]
        cases newEvent.IsGuildAnnouncement <;> simp
  | eventInvite eventId name isPreInvite isGuildEvent =>
    exact kept.addsOne room (addsOne_eventInvite ..) rfl Iff.rfl
  | eventSignup eventId tentative =>
    exact kept.addsOne room (addsOne_eventSignup ..) rfl Iff.rfl
  | eventRsvp eventId inviteId status =>
    exact kept.modifies (modifies_eventRsvp ..) (fun _ => rfl) (fun _ => rfl) trivial
  | eventRemoveInvite eventId inviteId invitee =>
    cases removed : mgr.handle ⟨world, player, .eventRemoveInvite eventId inviteId invitee⟩ with
    | error error => exact kept.unchanged (step_of_error removed) trivial
    | ok mgr' =>
      refine ⟨lost, ?_, le_refl _, iff_of_true rfl trivial⟩
      rw [step_eq removed]
      simp only [handle, HandleCalendarEventRemoveInvite] at removed
      split at removed
      · cases removed
      split at removed
      · cases removed
      · exact Except.ok.inj removed ▸ kept.removeInvite inviteId eventId
  | eventStatus eventId inviteId status =>
    exact kept.modifies (modifies_eventStatus ..) (fun _ => rfl) (fun _ => rfl) trivial
  | eventModeratorStatus eventId inviteId rank =>
    exact kept.modifies (modifies_eventModeratorStatus ..) (fun _ => rfl) (fun _ => rfl) trivial

end Requests

/-! ### Loading -/

section Loading

variable {mgr : CalendarMgr}

/-- The largest id in use. -/
def Largest (max : ℕ) (used : List ℕ) : Prop :=
  (∀ id ∈ used, id ≤ max) ∧ (max = 0 ∨ max ∈ used)

variable {max : ℕ}

lemma Largest.concat (largest : Largest max used) (id : ℕ) :
    Largest (Max.max max id) (used ++ [id]) := by
  constructor
  · intro id' hm
    rcases List.mem_append.mp hm with before | last
    · exact (largest.1 id' before).trans (le_max_left _ _)
    · rw [List.mem_singleton.mp last]
      exact le_max_right _ _
  · rcases le_total max id with less | less
    · rw [max_eq_right less]
      exact .inr (List.mem_append_right _ (List.mem_singleton_self _))
    · rw [max_eq_left less]
      exact largest.2.imp_right (List.mem_append_left _)

lemma Largest.perm {used' : List ℕ} (largest : Largest max used) (hs : used'.Perm used) :
    Largest max used' :=
  ⟨fun id hm => largest.1 id (hs.mem_iff.mp hm), largest.2.imp_right hs.mem_iff.mpr⟩

lemma loadEvents_spec (GetGuildIdFromDB : ℕ → ℕ) (rows : List EventRow) : ∀ mgr : CalendarMgr,
    Largest mgr.eventIds.max mgr.liveEvents →
    let loaded := rows.foldl (loadEvent GetGuildIdFromDB) mgr
    loaded.liveEvents = mgr.liveEvents ++ rows.map EventRow.id ∧
      Largest loaded.eventIds.max loaded.liveEvents ∧ loaded._invites = mgr._invites ∧
      loaded.inviteIds = mgr.inviteIds := by
  induction rows with
  | nil => exact fun mgr largest => ⟨(List.append_nil _).symm, largest, rfl, rfl⟩
  | cons row rows ih =>
    intro mgr largest
    have live : (mgr.loadEvent GetGuildIdFromDB row).liveEvents = mgr.liveEvents ++ [row.id] := by
      simp [liveEvents, loadEvent, EventRow.load]
    obtain ⟨events, largest', invites, inviteIds⟩ := ih (mgr.loadEvent GetGuildIdFromDB row)
      (live ▸ largest.concat row.id)
    refine ⟨?_, largest', invites, inviteIds⟩
    rw [List.foldl_cons, events, live, List.map_cons, List.append_assoc, List.singleton_append]

lemma loadInvites_spec (rows : List InviteRow) : ∀ mgr : CalendarMgr,
    Largest mgr.inviteIds.max mgr.storedInvites →
    let loaded := rows.foldl loadInvite mgr
    loaded.storedInvites.Perm (mgr.storedInvites ++ rows.map InviteRow.id) ∧
      Largest loaded.inviteIds.max loaded.storedInvites ∧
      (∀ k, ∀ invite ∈ loaded.GetEventInvites k, invite ∈ mgr.GetEventInvites k ∨
        invite._eventId = k ∧ k ∈ rows.map InviteRow.event) ∧
      loaded._events = mgr._events ∧ loaded.eventIds = mgr.eventIds := by
  induction rows with
  | nil =>
    refine fun mgr largest => ⟨?_, largest, fun k invite hm => .inl hm, rfl, rfl⟩
    rw [List.map_nil, List.append_nil]
    exact List.Perm.refl _
  | cons row rows ih =>
    intro mgr largest
    have stored : (mgr.loadInvite row).storedInvites.Perm (mgr.storedInvites ++ [row.id]) :=
      ((mgr.stored_append row.event row.load).map CalendarInvite._inviteId).trans
        (List.perm_append_singleton _ _).symm
    obtain ⟨invites, largest', placed, events, eventIds⟩ := ih (mgr.loadInvite row)
      ((largest.concat row.id).perm stored)
    refine ⟨?_, largest', fun k invite hm => ?_, events, eventIds⟩
    · refine invites.trans ((stored.append_right _).trans ?_)
      rw [List.map_cons, List.append_assoc, List.singleton_append]
    · rcases placed k invite hm with before | ⟨own, here⟩
      · have before' : invite ∈ (mgr.setStore row.event
            (mgr.GetEventInvites row.event ++ [row.load])).GetEventInvites k := before
        rw [GetEventInvites_setStore] at before'
        split at before'
        next hs =>
          subst hs
          rcases List.mem_append.mp before' with old | new
          · exact .inl old
          · rw [List.mem_singleton.mp new]
            exact .inr ⟨rfl, List.mem_cons_self ..⟩
        next => exact .inl before'
      · exact .inr ⟨own, List.mem_cons_of_mem _ here⟩

lemma GetEvent_isNone (mgr : CalendarMgr) (id : ℕ) :
    (mgr.GetEvent id).isNone = decide (id ∉ mgr.liveEvents) := by
  rw [Bool.eq_iff_iff]
  simp [GetEvent, liveEvents, List.find?_eq_none]

lemma GetInvite_isNone (mgr : CalendarMgr) (id : ℕ) :
    (mgr.GetInvite id).isNone = decide (id ∉ mgr.storedInvites) := by
  rw [Bool.eq_iff_iff, Option.isNone_iff_eq_none, decide_eq_true_eq, GetInvite,
    List.findSome?_eq_none_iff]
  simp only [Option.map_eq_none_iff, List.findIdx?_eq_none_iff, decide_eq_false_iff_not]
  constructor
  · intro none here
    obtain ⟨invite, hm, hs⟩ := List.mem_map.mp here
    obtain ⟨k, under⟩ := mem_stored.mp hm
    cases hf : mgr._invites.lookup k with
    | none => simp [GetEventInvites, hf] at under
    | some invites =>
      rw [GetEventInvites, hf] at under
      exact none (k, invites) ((Table.mem_sorted ..).mpr hf) invite under hs
  · intro absent store hm invite under hs
    have hf := (Table.mem_sorted mgr._invites store.1 store.2).mp hm
    refine absent (List.mem_map.mpr ⟨invite, mem_stored.mpr ⟨store.1, ?_⟩, hs⟩)
    rw [GetEventInvites, hf]
    exact under

structure Rows where
  events : List EventRow
  invites : List InviteRow
  /-- Tables of the server hold ids that it has given out. -/
  eventIds : ∀ row ∈ events, 1 ≤ row.id ∧ row.id < 2 ^ 64
  inviteIds : ∀ row ∈ invites, 1 ≤ row.id ∧ row.id < 2 ^ 64
  eventsDistinct : (events.map EventRow.id).Nodup
  invitesDistinct : (invites.map InviteRow.id).Nodup
  refers : ∀ row ∈ invites, row.event ∈ events.map EventRow.id

lemma Largest.lt (largest : Largest max used) (less : ∀ id ∈ used, id < 2 ^ 64) :
    max < 2 ^ 64 := by
  rcases largest.2 with zero | here
  · omega
  · exact less max here

lemma kept_LoadFromDB (GetGuildIdFromDB : ℕ → ℕ) (rows : Rows) :
    Kept (LoadFromDB GetGuildIdFromDB rows.events rows.invites) [] := by
  obtain ⟨live, largest, noInvites, noIds⟩ :=
    loadEvents_spec GetGuildIdFromDB rows.events {} ⟨by simp [liveEvents], .inl rfl⟩
  let withEvents := rows.events.foldl (loadEvent GetGuildIdFromDB) {}
  have none : withEvents.storedInvites = [] := by
    simp only [withEvents, storedInvites, stored, noInvites]
    rfl
  obtain ⟨stored, largestInvite, placed, events, eventIds⟩ :=
    loadInvites_spec rows.invites withEvents (by
      rw [none, noIds]
      exact ⟨by simp, .inl rfl⟩)
  let loaded := rows.invites.foldl loadInvite withEvents
  have liveEvents : loaded.liveEvents = rows.events.map EventRow.id := by
    rw [CalendarMgr.liveEvents, events]
    exact live
  rw [none, List.nil_append] at stored
  -- the ids of the rows are the ids in use
  have eventBounds : ∀ id ∈ loaded.liveEvents, 1 ≤ id ∧ id < 2 ^ 64 := by
    rw [liveEvents]
    intro id hm
    obtain ⟨row, here, rfl⟩ := List.mem_map.mp hm
    exact rows.eventIds row here
  have inviteBounds : ∀ id ∈ loaded.storedInvites, 1 ≤ id ∧ id < 2 ^ 64 := by
    intro id hm
    obtain ⟨row, here, rfl⟩ := List.mem_map.mp (stored.mem_iff.mp hm)
    exact rows.inviteIds row here
  have largestEvent : Largest loaded.eventIds.max loaded.liveEvents := by
    rw [liveEvents, eventIds, ← List.nil_append (rows.events.map EventRow.id)]
    exact (show withEvents.liveEvents = [] ++ rows.events.map EventRow.id from live) ▸ largest
  refine ⟨⟨largestInvite.lt fun id hm => (inviteBounds id hm).2, ?_, ?_⟩,
    largestEvent.lt fun id hm => (eventBounds id hm).2, ?_⟩
  · rw [List.append_nil]
    simp only [LoadFromDB, listFreeIds, GetInvite_isNone]
    exact Recycler.tracks_missing (stored.nodup_iff.mpr rows.invitesDistinct)
      (fun id hm => (inviteBounds id hm).1) _ largestInvite.1 largestInvite.2
  · intro k invite hm
    rcases placed k invite hm with before | ⟨own, here⟩
    · have empty : withEvents.GetEventInvites k = [] := by
        simp [GetEventInvites, withEvents, noInvites]
      rw [empty] at before
      cases before
    · obtain ⟨row, inside, rfl⟩ := List.mem_map.mp here
      refine ⟨own, ?_⟩
      have alive := rows.refers row inside
      rwa [← liveEvents] at alive
  · simp only [LoadFromDB, listFreeIds, GetEvent_isNone]
    refine Recycler.tracks_missing ?_ (fun id hm => (eventBounds id hm).1) _
      largestEvent.1 largestEvent.2
    rw [liveEvents]
    exact rows.eventsDistinct

end Loading

/-! ### Runs -/

lemma kept_run (requests : List Request) : ∀ {mgr : CalendarMgr} {lost : List ℕ}, Kept mgr lost →
    Along CalendarMgr.step Room mgr requests →
    ∃ lost', Kept (run CalendarMgr.step mgr requests) lost' ∧ lost.length ≤ lost'.length ∧
      (lost'.length = lost.length ↔ Along CalendarMgr.step Stores mgr requests) := by
  induction requests with
  | nil => exact fun kept _ => ⟨_, kept, le_refl _, by simp⟩
  | cons request requests ih =>
    intro mgr lost kept room
    obtain ⟨lost₁, kept₁, grows₁, hs₁⟩ := kept.step request room.1
    obtain ⟨lost₂, kept₂, grows₂, hs₂⟩ := ih kept₁ room.2
    refine ⟨lost₂, kept₂, grows₁.trans grows₂, ?_⟩
    rw [along_cons, ← hs₁, ← hs₂]
    omega

/-- The calendar is consistent after a run if and only if no request of the run has added an invite
to an announcement, where 64 bits hold the ids. -/
theorem consistent_iff (GetGuildIdFromDB : ℕ → ℕ) (rows : Rows) (requests : List Request)
    (room : Along CalendarMgr.step Room
      (LoadFromDB GetGuildIdFromDB rows.events rows.invites) requests) :
    Consistent (run CalendarMgr.step
        (LoadFromDB GetGuildIdFromDB rows.events rows.invites) requests) ↔
      Along CalendarMgr.step Stores
        (LoadFromDB GetGuildIdFromDB rows.events rows.invites) requests := by
  obtain ⟨lost, kept, -, same⟩ := kept_run requests (kept_LoadFromDB GetGuildIdFromDB rows) room
  rw [kept.consistent_iff_noneLost, ← same, List.length_nil, List.length_eq_zero_iff]

def emptyWorld : World := ⟨0, fun _ => none, fun _ => none, fun _ _ => false, true⟩

def noRows : Rows := ⟨[], [], by simp, by simp, by simp, by simp, by simp⟩

def newEvent (flags : CalendarFlags) : Packet := .addEvent ⟨0, -1, 0, flags, "", ""⟩ []

/-- A player announces something to the guild, and another one signs up for it. -/
def signupForAnnouncement : List Request :=
  [⟨emptyWorld, ⟨1, 0, 0⟩, newEvent CALENDAR_FLAG_WITHOUT_INVITES⟩,
    ⟨emptyWorld, ⟨2, 0, 0⟩, .eventSignup 1 false⟩]

theorem consistent_iff_signup :
    let mgr := LoadFromDB (fun _ => 0) noRows.events noRows.invites
    Consistent (run CalendarMgr.step mgr signupForAnnouncement) ↔
      Along CalendarMgr.step Stores mgr signupForAnnouncement :=
  consistent_iff (fun _ => 0) noRows signupForAnnouncement
    ⟨⟨by decide, by decide⟩, ⟨by decide, by decide⟩, trivial⟩

/-- The id of the invite is neither in use nor free. -/
theorem signup_loses_id : ¬ Consistent (run CalendarMgr.step (LoadFromDB (fun _ => 0) [] [])
    signupForAnnouncement) := by
  intro consistent
  have once := consistent.invites.once 1 (by decide) (by decide)
  exact absurd once (by decide)

end WorldServer.Calendar.CalendarMgr
