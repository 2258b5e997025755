import WorldServer.Calendar.Ids

/-!
# Which invites a packet changes

A packet about an invite carries the id of an event and the id of an invite. The event decides
whether the request is refused, but the invite is found by its own id among all invites, so that it
may belong to another event. Only a removal looks for it under the event.
-/
namespace WorldServer.Calendar.CalendarMgr

open WorldServer.Lib

/-! ### Invites stay under their events -/

def Own (mgr : CalendarMgr) : Prop :=
  ∀ eventId, ∀ invite ∈ mgr.GetEventInvites eventId, invite._eventId = eventId

variable {eventId : ℕ} {mgr' : CalendarMgr} {change : CalendarInvite → CalendarInvite}
  {target : Option InvitePlace}

section Own

variable {mgr : CalendarMgr}

lemma Own.setStore (own : Own mgr) {invites : List CalendarInvite}
    (here : ∀ invite ∈ invites, invite._eventId = eventId) :
    Own (mgr.setStore eventId invites) := by
  intro k invite hm
  rw [GetEventInvites_setStore] at hm
  split at hm
  next hs => exact hs ▸ here invite hm
  next => exact own k invite hm

lemma Own.of_invites (own : Own mgr) (hs : mgr'._invites = mgr._invites) : Own mgr' := by
  intro k invite hm
  rw [GetEventInvites, hs] at hm
  exact own k invite hm

lemma Own.push (own : Own mgr) (invite : CalendarInvite) :
    Own (mgr.setStore invite._eventId (mgr.GetEventInvites invite._eventId ++ [invite])) := by
  refine own.setStore fun i hm => ?_
  rcases List.mem_append.mp hm with old | new
  · exact own _ i old
  · rw [List.mem_singleton.mp new]

lemma Own.AddInvite (own : Own mgr) (calendarEvent : CalendarEvent) (invite : CalendarInvite) :
    Own (mgr.AddInvite calendarEvent invite) := by
  rw [CalendarMgr.AddInvite]
  split
  · exact own
  · exact own.push invite

lemma Own.addNewInvites {α : Type} (own : Own mgr) (calendarEvent : CalendarEvent)
    (invite : α → ℕ → CalendarInvite) (as : List α) :
    Own (as.foldl (fun mgr a => mgr.addNewInvite calendarEvent (invite a)) mgr) := by
  induction as generalizing mgr with
  | nil => exact own
  | cons a as ih =>
    have free : Own mgr.GetFreeInviteId.2 := own.of_invites rfl
    exact ih (free.AddInvite calendarEvent (invite a mgr.GetFreeInviteId.1))

lemma Own.modifyInvite (own : Own mgr) (place : InvitePlace)
    (eventId : ∀ invite, (change invite)._eventId = invite._eventId) :
    Own (mgr.modifyInvite place change) := by
  refine own.setStore fun invite hm => ?_
  obtain ⟨i, here⟩ := List.mem_iff_getElem?.mp hm
  rw [List.getElem?_modify] at here
  obtain ⟨old, hf, rfl⟩ := Option.map_eq_some_iff.mp here
  have before := own place.key old (List.mem_of_getElem? hf)
  split
  · rwa [eventId]
  · exact before

variable {result : Except CalendarError CalendarMgr}

lemma Own.modifies (own : Own mgr) (modifies : Modifies mgr result target change)
    (eventId : ∀ invite, (change invite)._eventId = invite._eventId) (handled : result = .ok mgr') :
    Own mgr' := by
  cases target with
  | none =>
    obtain ⟨error, refused⟩ := modifies
    rw [refused] at handled
    cases handled
  | some place =>
    obtain rfl := Except.ok.inj (handled.symm.trans modifies)
    exact own.modifyInvite place eventId

lemma Own.addsOne (own : Own mgr) {adds : Bool} (one : AddsOne mgr result eventId adds)
    (handled : result = .ok mgr') : Own mgr' := by
  cases adds with
  | false =>
    rcases one with hs | ⟨error, refused⟩
    · exact Except.ok.inj (hs.symm.trans handled) ▸ own
    · rw [refused] at handled
      cases handled
  | true =>
    obtain ⟨calendarEvent, invite, -, added, -, -⟩ := one
    obtain rfl := Except.ok.inj (handled.symm.trans added)
    exact own.addNewInvites calendarEvent (fun _ : Unit => invite) [()]

lemma Own.removeEvent (own : Own mgr) (removed : mgr.RemoveEvent eventId = .ok mgr') :
    Own mgr' := by
  rw [RemoveEvent] at removed
  split at removed
  · cases removed
  · obtain rfl := Except.ok.inj removed
    intro k invite hm
    by_cases here : k = eventId
    · subst here
      simp [GetEventInvites, AList.lookup_erase] at hm
    · refine own k invite ?_
      simpa [GetEventInvites, AList.lookup_erase_ne here] using hm

lemma Own.removeInvite (own : Own mgr) (inviteId eventId : ℕ) :
    Own (mgr.RemoveInvite inviteId eventId) := by
  rw [RemoveInvite]
  split
  · exact own
  dsimp only
  split
  · exact own
  · have rest : Own (mgr.setStore eventId ((mgr.GetEventInvites eventId).eraseP fun invite =>
        invite._inviteId = inviteId)) :=
      own.setStore fun invite hm => own eventId invite (List.mem_of_mem_eraseP hm)
    exact rest.of_invites rfl

lemma Own.step (own : Own mgr) (request : Request) : Own (mgr.step request) := by
  obtain ⟨world, player, packet⟩ := request
  rw [CalendarMgr.step]
  split
  swap
  · exact own
  next mgr' handled =>
  cases packet with
  | addEvent info invites =>
    have free : Own mgr.GetFreeEventId.2 := own.of_invites rfl
    rw [← Except.ok.inj handled, HandleCalendarAddEvent]
    split
    · exact (free.AddInvite _ _).of_invites rfl
    · exact (free.addNewInvites _ _ invites).of_invites rfl
  | updateEvent eventId info =>
    have hs := congrArg CalendarMgr._invites (liveEvents_updateEvent handled).2
    exact own.of_invites hs
  | removeEvent eventId => exact own.removeEvent handled
  | copyEvent eventId time =>
    have free : Own mgr.GetFreeEventId.2 := own.of_invites rfl
    simp only [handle, HandleCalendarCopyEvent] at handled
    split at handled
    · cases handled
    · rw [← Except.ok.inj handled]
      exact (free.addNewInvites _ _ (mgr.GetEventInvites eventId)).of_invites rfl
  | eventInvite eventId name isPreInvite isGuildEvent =>
    exact own.addsOne (addsOne_eventInvite ..) handled
  | eventSignup eventId tentative => exact own.addsOne (addsOne_eventSignup ..) handled
  | eventRsvp eventId inviteId status =>
    exact own.modifies (modifies_eventRsvp ..) (fun _ => rfl) handled
  | eventRemoveInvite eventId inviteId invitee =>
    simp only [handle, HandleCalendarEventRemoveInvite] at handled
    split at handled
    · cases handled
    split at handled
    · cases handled
    · exact Except.ok.inj handled ▸ own.removeInvite inviteId eventId
  | eventStatus eventId inviteId status =>
    exact own.modifies (modifies_eventStatus ..) (fun _ => rfl) handled
  | eventModeratorStatus eventId inviteId rank =>
    exact own.modifies (modifies_eventModeratorStatus ..) (fun _ => rfl) handled

lemma own_LoadFromDB (GetGuildIdFromDB : ℕ → ℕ) (events : List EventRow)
    (invites : List InviteRow) : Own (LoadFromDB GetGuildIdFromDB events invites) := by
  have loaded (mgr : CalendarMgr) (own : Own mgr) : Own (invites.foldl loadInvite mgr) := by
    induction invites generalizing mgr with
    | nil => exact own
    | cons row rows ih => exact ih _ ((own.push row.load).of_invites rfl)
  have noInvites (mgr : CalendarMgr) (own : Own mgr) :
      Own (events.foldl (loadEvent GetGuildIdFromDB) mgr) := by
    induction events generalizing mgr with
    | nil => exact own
    | cons row rows ih => exact ih _ (own.of_invites rfl)
  refine (loaded _ (noInvites {} ?_)).of_invites rfl
  intro k invite hm
  cases hm

end Own

/-! ### What a packet changes -/

def Packet.named : Packet → Option ℕ
  | .eventRsvp eventId _ _ | .eventRemoveInvite eventId _ _ | .eventStatus eventId _ _
  | .eventModeratorStatus eventId _ _ => some eventId
  | _ => none

/-- The invites to an event, with what a packet may change of them. -/
def standings (mgr : CalendarMgr) (eventId : ℕ) :
    List (ℕ × CalendarInviteStatus × CalendarModerationRank) :=
  (mgr.GetEventInvites eventId).map fun invite => (invite._inviteId, invite._status, invite._rank)

/-- A packet about an invite changes no invite of an event that it does not name. -/
def ChangesNamed (mgr : CalendarMgr) (request : Request) : Prop :=
  ∀ eventId, Packet.named request.packet = some eventId →
    ∀ k ≠ eventId, (mgr.step request).standings k = mgr.standings k

def InviteAt (mgr : CalendarMgr) (place : InvitePlace) : Option CalendarInvite :=
  (mgr.GetEventInvites place.key)[place.index]?

/-- The invite that a packet finds belongs to the event that it names, or it has the status or the
rank already. -/
def Tied (mgr : CalendarMgr) (request : Request) : Prop :=
  match request.packet with
  | .eventRsvp eventId inviteId status =>
    ∀ place invite, mgr.rsvpTarget eventId inviteId status = some place →
      mgr.InviteAt place = some invite → invite._eventId = eventId ∨ invite._status = status
  | .eventStatus eventId inviteId status =>
    ∀ place invite, mgr.statusTarget eventId inviteId = some place →
      mgr.InviteAt place = some invite → invite._eventId = eventId ∨ invite._status = status
  | .eventModeratorStatus eventId inviteId rank =>
    ∀ place invite, mgr.moderatorStatusTarget eventId inviteId = some place →
      mgr.InviteAt place = some invite → invite._eventId = eventId ∨ invite._rank = rank
  | _ => True

section Changes

variable {mgr : CalendarMgr}

lemma standings_modifyInvite (mgr : CalendarMgr) (place : InvitePlace)
    (change : CalendarInvite → CalendarInvite) (k : ℕ) :
    (mgr.modifyInvite place change).standings k = if k = place.key then
      ((mgr.GetEventInvites k).modify place.index change).map fun invite =>
        (invite._inviteId, invite._status, invite._rank)
      else mgr.standings k := by
  change ((mgr.setStore place.key _).GetEventInvites k).map _ = _
  rw [GetEventInvites_setStore]
  split
  next hs => rw [hs]
  next => rfl

/-- A change of the invite at a place keeps the invites of the other events if and only if it is
under the named event or nothing changes. -/
lemma Own.changes_iff (own : Own mgr) (request : Request)
    (modifies : Modifies mgr (mgr.handle request) target change) (eventId : ℕ) :
    (∀ k ≠ eventId, (mgr.step request).standings k = mgr.standings k) ↔
      ∀ place invite, target = some place → mgr.InviteAt place = some invite →
        invite._eventId = eventId ∨ ((change invite)._inviteId, (change invite)._status,
          (change invite)._rank) = (invite._inviteId, invite._status, invite._rank) := by
  rw [step_of_modifies modifies]
  cases target with
  | none => simp [modifyTarget]
  | some place =>
    simp only [modifyTarget, standings_modifyInvite]
    constructor
    · intro hs target invite hf here
      cases hf
      by_cases named : place.key = eventId
      · exact .inl (named ▸ own place.key invite (List.mem_of_getElem? here))
      · have unchanged := congrArg (·[place.index]?) (hs place.key named)
        rw [InviteAt] at here
        simp only [if_pos, standings, List.getElem?_map, List.getElem?_modify, here] at unchanged
        exact .inr (Option.some.inj unchanged)
    · intro tied k other
      split
      next hs =>
        subst hs
        refine List.ext_getElem? fun i => ?_
        rw [standings, List.getElem?_map, List.getElem?_map, List.getElem?_modify]
        cases here : (mgr.GetEventInvites place.key)[i]? with
        | none => rfl
        | some invite =>
          rw [Option.map_eq_map, Option.map_some, Option.map_some, Option.map_some]
          split
          next index =>
            have hf : mgr.InviteAt place = some invite := by
              rw [InviteAt, index]
              exact here
            rcases tied place invite rfl hf with named | hs
            · exact absurd ((own place.key invite (List.mem_of_getElem? here)).symm.trans named) other
            · rw [hs]
          next => rfl
      next => rfl

variable {k : ℕ}

lemma standings_RemoveInvite (mgr : CalendarMgr) (inviteId : ℕ) (other : k ≠ eventId) :
    (mgr.RemoveInvite inviteId eventId).standings k = mgr.standings k := by
  rw [RemoveInvite]
  split
  · rfl
  dsimp only
  split
  · rfl
  · change ((mgr.setStore eventId _).GetEventInvites k).map _ = _
    rw [GetEventInvites_setStore, if_neg other]
    rfl

lemma Own.changesNamed_iff (own : Own mgr) (request : Request) :
    ChangesNamed mgr request ↔ Tied mgr request := by
  obtain ⟨world, player, packet⟩ := request
  cases packet with
  | eventRsvp eventId inviteId status =>
    have changes := own.changes_iff ⟨world, player, .eventRsvp eventId inviteId status⟩
      (modifies_eventRsvp mgr world eventId inviteId status) eventId
    simpa [ChangesNamed, Packet.named, Tied, eq_comm] using changes
  | eventStatus eventId inviteId status =>
    have changes := own.changes_iff ⟨world, player, .eventStatus eventId inviteId status⟩
      (modifies_eventStatus mgr eventId inviteId status) eventId
    simpa [ChangesNamed, Packet.named, Tied, eq_comm] using changes
  | eventModeratorStatus eventId inviteId rank =>
    have changes := own.changes_iff ⟨world, player, .eventModeratorStatus eventId inviteId rank⟩
      (modifies_eventModeratorStatus mgr eventId inviteId rank) eventId
    simpa [ChangesNamed, Packet.named, Tied, eq_comm] using changes
  | eventRemoveInvite eventId inviteId invitee =>
    refine iff_of_true ?_ trivial
    rintro named hs k other
    obtain rfl := Option.some.inj hs
    rw [CalendarMgr.step, handle]
    dsimp only
    rw [HandleCalendarEventRemoveInvite]
    cases mgr.GetEvent eventId with
    | none => rfl
    | some calendarEvent =>
      dsimp only
      split
      next mgr' handled =>
        split at handled
        · cases handled
        · rw [← Except.ok.inj handled, standings_RemoveInvite mgr inviteId other]
      next => rfl
  | _ => simp [ChangesNamed, Packet.named, Tied]

/-! ### Locked events and guild events -/

def Locked (mgr : CalendarMgr) (eventId : ℕ) : Prop :=
  ∃ calendarEvent, mgr.GetEvent eventId = some calendarEvent ∧
    calendarEvent._flags.has CALENDAR_FLAG_INVITES_LOCKED = true

/-- The invites to an event are the same, and their statuses too, unless an invitee has removed
himself. -/
def StatusesStay (mgr mgr' : CalendarMgr) (eventId : ℕ) : Prop :=
  ∀ (i : ℕ) (invite : CalendarInvite), (mgr.GetEventInvites eventId)[i]? = some invite →
    ∃ invite', (mgr'.GetEventInvites eventId)[i]? = some invite' ∧
      invite'._inviteId = invite._inviteId ∧
      (invite'._status = invite._status ∨ invite'._status = CALENDAR_STATUS_REMOVED)

lemma statusesStay_of_standings (hs : mgr'.standings k = mgr.standings k) :
    StatusesStay mgr mgr' k := by
  intro i invite hf
  have here := congrArg (·[i]?) hs
  simp only [standings, List.getElem?_map, hf, Option.map_some] at here
  obtain ⟨invite', hf', equal⟩ := Option.map_eq_some_iff.mp here
  simp only [Prod.mk.injEq] at equal
  exact ⟨invite', hf', equal.1, .inl equal.2.1⟩

lemma StatusesStay.trans {a b c : CalendarMgr} (first : StatusesStay a b k)
    (second : StatusesStay b c k) : StatusesStay a c k := by
  intro i invite hf
  obtain ⟨invite', hf', id, status⟩ := first i invite hf
  obtain ⟨invite'', hf'', id', status'⟩ := second i invite' hf'
  refine ⟨invite'', hf'', id'.trans id, ?_⟩
  rcases status' with hs | removed
  · rw [hs]
    exact status
  · exact .inr removed

/-- The answer to one invitation. -/
def IsRsvp (request : Request) : Prop :=
  ∃ eventId inviteId status, request.packet = .eventRsvp eventId inviteId status

section

variable (mgr) (world : World) (player : Player) (eventId) (inviteId : ℕ)

lemma step_rsvp (status : UInt8) : mgr.step ⟨world, player, .eventRsvp eventId inviteId status⟩ =
      mgr.modifyTarget (mgr.rsvpTarget eventId inviteId status) fun invite =>
        { invite with _status := status, _statusTime := world.time } :=
  step_of_modifies (modifies_eventRsvp mgr world eventId inviteId status)

lemma step_moderatorStatus (rank : UInt8) :
    mgr.step ⟨world, player, .eventModeratorStatus eventId inviteId rank⟩ =
      mgr.modifyTarget (mgr.moderatorStatusTarget eventId inviteId) fun invite =>
        { invite with _rank := rank } :=
  step_of_modifies (modifies_eventModeratorStatus mgr eventId inviteId rank)

end

variable {request : Request}

lemma Locked.step (locked : Locked mgr k) (rsvp : IsRsvp request) :
    Locked (mgr.step request) k := by
  obtain ⟨world, player, packet⟩ := request
  obtain ⟨eventId, inviteId, status, rfl⟩ := rsvp
  rw [step_rsvp]
  cases mgr.rsvpTarget eventId inviteId status with
  | none => exact locked
  | some place => exact locked

lemma Own.rsvp_locked (own : Own mgr) (request : Request) (rsvp : IsRsvp request)
    (tied : Tied mgr request) (locked : Locked mgr k) : StatusesStay mgr (mgr.step request) k := by
  have changes := (own.changesNamed_iff request).mpr tied
  obtain ⟨world, player, packet⟩ := request
  obtain ⟨eventId, inviteId, status, rfl⟩ := rsvp
  by_cases named : k = eventId
  swap
  · exact statusesStay_of_standings (changes eventId rfl k named)
  subst named
  obtain ⟨calendarEvent, hf, flag⟩ := locked
  rw [step_rsvp]
  by_cases removed : status = CALENDAR_STATUS_REMOVED
  · cases mgr.rsvpTarget k inviteId status with
    | none => exact statusesStay_of_standings rfl
    | some place =>
      -- the invite at the place is removed, and the others stay
      intro i invite here
      change ∃ invite', ((mgr.setStore place.key _).GetEventInvites k)[i]? = some invite' ∧ _
      rw [GetEventInvites_setStore]
      split
      next hs =>
        rw [List.getElem?_modify, ← hs, here]
        refine ⟨_, rfl, ?_⟩
        split
        · exact ⟨rfl, .inr removed⟩
        · exact ⟨rfl, .inl rfl⟩
      next => exact ⟨invite, here, rfl, .inl rfl⟩
  · -- the answer is refused
    have refused : mgr.rsvpTarget k inviteId status = none := by
      simp [rsvpTarget, hf, flag, removed]
    rw [refused]
    exact statusesStay_of_standings rfl

lemma Own.rsvps_locked (rsvps : List Request) : ∀ {mgr : CalendarMgr}, Own mgr →
    (∀ request ∈ rsvps, IsRsvp request) → Along CalendarMgr.step Tied mgr rsvps →
    ∀ {k : ℕ}, Locked mgr k → StatusesStay mgr (run CalendarMgr.step mgr rsvps) k := by
  induction rsvps with
  | nil => exact fun _ _ _ _ _ => statusesStay_of_standings rfl
  | cons request rsvps ih =>
    intro mgr own all tied k locked
    have rsvp := all request (List.mem_cons_self ..)
    have first := own.rsvp_locked request rsvp tied.1 locked
    exact first.trans (ih (own.step request) (fun r hm => all r (List.mem_cons_of_mem _ hm))
      tied.2 (locked.step rsvp))

lemma Own.moderator_guildEvent (own : Own mgr) {inviteId : ℕ} {rank : UInt8}
    (moderator : request.packet = .eventModeratorStatus eventId inviteId rank)
    (tied : Tied mgr request) {calendarEvent : CalendarEvent}
    (hf : mgr.GetEvent k = some calendarEvent) (guild : calendarEvent.IsGuildEvent = true) :
    (mgr.step request).standings k = mgr.standings k := by
  have changes := (own.changesNamed_iff request).mpr tied
  obtain ⟨world, player, packet⟩ := request
  obtain rfl := moderator
  by_cases named : k = eventId
  · subst named
    have refused : mgr.moderatorStatusTarget k inviteId = none := by
      simp [moderatorStatusTarget, hf, guild]
    rw [step_moderatorStatus, refused]
    rfl
  · exact changes eventId rfl k named

end Changes

/-! ### Runs -/

lemma own_run (GetGuildIdFromDB : ℕ → ℕ) (events : List EventRow) (invites : List InviteRow)
    (requests : List Request) :
    Own (run CalendarMgr.step (LoadFromDB GetGuildIdFromDB events invites) requests) :=
  run_keeps Own (fun _ request own => own.step request)
    (own_LoadFromDB GetGuildIdFromDB events invites) requests

/-- In every state that requests lead to, a packet about an invite changes only invites of the event
that it names if and only if the invite that it finds is one of them. As long as this is so, answers
do not change the statuses in a locked event, and ranks in a guild event do not change. -/
theorem invites_change_iff (GetGuildIdFromDB : ℕ → ℕ) (events : List EventRow)
    (invites : List InviteRow) (requests : List Request) :
    let mgr := run CalendarMgr.step (LoadFromDB GetGuildIdFromDB events invites) requests
    Own mgr ∧ (∀ request, ChangesNamed mgr request ↔ Tied mgr request) ∧
    (∀ rsvps, (∀ request ∈ rsvps, IsRsvp request) → Along CalendarMgr.step Tied mgr rsvps →
      ∀ k, Locked mgr k → StatusesStay mgr (run CalendarMgr.step mgr rsvps) k) ∧
    ∀ request eventId inviteId rank, request.packet = .eventModeratorStatus eventId inviteId rank →
      Tied mgr request → ∀ k calendarEvent, mgr.GetEvent k = some calendarEvent →
      calendarEvent.IsGuildEvent = true → (mgr.step request).standings k = mgr.standings k := by
  intro mgr
  have own : Own mgr := own_run GetGuildIdFromDB events invites requests
  refine ⟨own, own.changesNamed_iff, ?_, ?_⟩
  · exact fun rsvps all tied k locked => own.rsvps_locked rsvps all tied locked
  · exact fun request eventId inviteId rank moderator tied k calendarEvent found guild =>
      own.moderator_guildEvent moderator tied found guild

def lockedEvent : List Request :=
  [⟨emptyWorld, ⟨1, 0, 0⟩, newEvent 0⟩,
    ⟨emptyWorld, ⟨2, 0, 0⟩, .addEvent ⟨0, -1, 0, CALENDAR_FLAG_INVITES_LOCKED, "", ""⟩
      [⟨3, CALENDAR_STATUS_CONFIRMED, CALENDAR_RANK_PLAYER⟩]⟩]

/-- The one who is invited removes himself. -/
theorem invites_change_iff_removed :
    let mgr := run CalendarMgr.step (LoadFromDB (fun _ => 0) [] []) lockedEvent
    StatusesStay mgr (run CalendarMgr.step mgr
      [⟨emptyWorld, ⟨3, 0, 0⟩, .eventRsvp 2 1 CALENDAR_STATUS_REMOVED⟩]) 2 := by
  let removal : Request := ⟨emptyWorld, ⟨3, 0, 0⟩, .eventRsvp 2 1 CALENDAR_STATUS_REMOVED⟩
  refine (invites_change_iff (fun _ => 0) [] [] lockedEvent).2.2.1 [removal] ?_ ⟨?_, trivial⟩ 2
    ⟨_, rfl, by decide⟩
  · intro request member
    exact ⟨2, 1, CALENDAR_STATUS_REMOVED, by rw [List.mem_singleton.mp member]⟩
  · intro place invite found here
    obtain rfl : (⟨2, 0⟩ : InvitePlace) = place := Option.some.inj found
    obtain rfl := Option.some.inj here
    exact .inl rfl

/-- An answer that names the first event changes the invite to the locked one. -/
theorem rsvp_changes_locked :
    ¬ ChangesNamed (run CalendarMgr.step (LoadFromDB (fun _ => 0) [] []) lockedEvent)
      ⟨emptyWorld, ⟨4, 0, 0⟩, .eventRsvp 1 1 CALENDAR_STATUS_DECLINED⟩ := by
  intro changes
  have same := changes 1 rfl 2 (by decide)
  exact absurd same (by decide)

end WorldServer.Calendar.CalendarMgr
