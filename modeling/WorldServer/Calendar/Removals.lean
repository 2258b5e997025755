import WorldServer.Calendar.Invites

/-!
# Removing a player from the calendar

When a character is deleted or leaves a guild, his events are removed in a loop over the set of
events, and then his invites. The removal of an event erases it from the set, at which the iterator
of the loop stands.
-/
namespace WorldServer.Calendar

open WorldServer.Lib

namespace CalendarMgr

/-- The events that match are removed one after another. There is no outcome if the body has erased
the event from which the iterator goes on. -/
def removeEvents (isMatch : CalendarEvent → Bool) : List CalendarEvent → CalendarMgr →
    Option CalendarMgr
  | [], mgr => some mgr
  | calendarEvent :: rest, mgr =>
    -- an event that has been erased before is not come to
    if calendarEvent ∉ mgr._events then removeEvents isMatch rest mgr
    else
      let mgr' :=
        if isMatch calendarEvent then
          match mgr.RemoveEvent calendarEvent._eventId with
          | .ok mgr' => mgr'
          | .error _ => mgr
        else mgr
      if calendarEvent ∈ mgr'._events then removeEvents isMatch rest mgr' else none

def GetPlayerInvites (mgr : CalendarMgr) (guid : ℕ) : List CalendarInvite :=
  mgr._invites.sorted.flatMap fun store => store.2.filter fun invite => invite._invitee = guid

def RemoveAllPlayerEventsAndInvites (mgr : CalendarMgr) (guid : ℕ) : Option CalendarMgr :=
  (mgr.removeEvents (fun calendarEvent => calendarEvent._creatorGUID = guid) mgr._events).map
    fun mgr => (mgr.GetPlayerInvites guid).foldl
      (fun mgr invite => mgr.RemoveInvite invite._inviteId invite._eventId) mgr

def RemovePlayerGuildEventsAndSignups (mgr : CalendarMgr) (guid guildId : ℕ) :
    Option CalendarMgr :=
  (mgr.removeEvents (fun calendarEvent => calendarEvent._creatorGUID = guid &&
      (calendarEvent.IsGuildEvent || calendarEvent.IsGuildAnnouncement)) mgr._events).map
    fun mgr => (mgr.GetPlayerInvites guid).foldl
      (fun mgr invite =>
        if (mgr.GetEvent invite._eventId).any fun calendarEvent =>
          calendarEvent.IsGuildEvent && calendarEvent._guildId = guildId
        then mgr.RemoveInvite invite._inviteId invite._eventId else mgr) mgr

end CalendarMgr

open CalendarMgr

/-- A calendar in which the ids of the events, and those of the invites to an event, are distinct,
and every invite is under its own event. -/
structure SoundCalendar extends CalendarMgr where
  events_distinct : toCalendarMgr.liveEvents.Nodup
  invites_distinct : ∀ k, ((toCalendarMgr.GetEventInvites k).map CalendarInvite._inviteId).Nodup
  own : Own toCalendarMgr

def CalendarMgr.Kept.calendar {mgr : CalendarMgr} {lost : List ℕ} (kept : Kept mgr lost) :
    SoundCalendar where
  toCalendarMgr := mgr
  events_distinct := (List.nodup_append'.mp kept.tracks.nodup).1
  invites_distinct k := by
    have used := (List.nodup_append'.mp kept.filed.tracks.nodup).1
    have ids := (List.nodup_append'.mp used).1
    have split := ((mgr.stored_perm k).map CalendarInvite._inviteId).nodup_iff.mp ids
    rw [List.map_append] at split
    exact (List.nodup_append'.mp split).1
  own k invite member := (kept.filed.placed k invite member).1

/-- The loops run to their end, and just the events that are `gone` with their invites and the
invites that are `dropped` are removed. -/
def Clears (mgr : CalendarMgr) (gone : CalendarEvent → Bool) (dropped : CalendarInvite → Bool)
    (result : Option CalendarMgr) : Prop :=
  ∃ mgr', result = some mgr' ∧
    mgr'._events = mgr._events.filter (fun calendarEvent => !gone calendarEvent) ∧
    ∀ k, mgr'.GetEventInvites k = (mgr.GetEventInvites k).filter fun invite =>
      !dropped invite && !mgr._events.any fun calendarEvent =>
        gone calendarEvent && calendarEvent._eventId = k

def ClearsPlayer (c : SoundCalendar) (guid : ℕ) : Prop :=
  Clears c.toCalendarMgr (fun calendarEvent => calendarEvent._creatorGUID = guid)
    (fun invite => invite._invitee = guid) (c.RemoveAllPlayerEventsAndInvites guid)

def ClearsGuild (c : SoundCalendar) (guid guildId : ℕ) : Prop :=
  Clears c.toCalendarMgr (fun calendarEvent => calendarEvent._creatorGUID = guid &&
      (calendarEvent.IsGuildEvent || calendarEvent.IsGuildAnnouncement))
    (fun invite => invite._invitee = guid && (c.GetEvent invite._eventId).any
      fun calendarEvent => calendarEvent.IsGuildEvent && calendarEvent._guildId = guildId)
    (c.RemovePlayerGuildEventsAndSignups guid guildId)

section Events

variable {mgr : CalendarMgr} {calendarEvent : CalendarEvent} {isMatch : CalendarEvent → Bool}

lemma RemoveEvent_erases (distinct : mgr.liveEvents.Nodup)
    (hm : calendarEvent ∈ mgr._events) :
    ∃ mgr', mgr.RemoveEvent calendarEvent._eventId = .ok mgr' ∧ calendarEvent ∉ mgr'._events := by
  rw [RemoveEvent]
  cases found : mgr.GetEvent calendarEvent._eventId with
  | none => simpa using List.find?_eq_none.mp found calendarEvent hm
  | some other =>
    refine ⟨_, rfl, fun still => ?_⟩
    have perm := (perm_eraseP found).map CalendarEvent._eventId
    have apart := (List.nodup_cons.mp (perm.nodup_iff.mp distinct)).1
    have hs : other._eventId = calendarEvent._eventId := by
      simpa using List.find?_some found
    rw [hs] at apart
    exact apart (List.mem_map_of_mem still)

lemma removeEvents_eq (distinct : mgr.liveEvents.Nodup) (rest : List CalendarEvent)
    (subset : ∀ calendarEvent ∈ rest, calendarEvent ∈ mgr._events) :
    mgr.removeEvents isMatch rest = if rest.any isMatch then none else some mgr := by
  induction rest with
  | nil => rfl
  | cons calendarEvent rest ih =>
    have hm := subset calendarEvent (by simp)
    have ih := ih fun other inside => subset other (by simp [inside])
    rw [removeEvents, if_neg (not_not.mpr hm)]
    cases here : isMatch calendarEvent with
    | false => simpa [here, hm] using ih
    | true =>
      obtain ⟨mgr', removed, absent⟩ := RemoveEvent_erases distinct hm
      simp [here, removed, absent]

end Events

/-! ### The loop over the invites -/

section Invites

variable {mgr : CalendarMgr} {invite : CalendarInvite}

/-- What the loop keeps: the invites with the id of one that is to be removed are this one. -/
structure Apart (mgr : CalendarMgr) (invites : List CalendarInvite) : Prop where
  own : Own mgr
  nodup : ∀ k, (mgr.GetEventInvites k).Nodup
  only : ∀ invite ∈ invites, ∀ other ∈ mgr.GetEventInvites invite._eventId,
    other._inviteId = invite._inviteId → other = invite

lemma eraseP_eq_filter {invites : List CalendarInvite} (nodup : invites.Nodup)
    (only : ∀ other ∈ invites, other._inviteId = invite._inviteId → other = invite) :
    (invites.eraseP fun other => other._inviteId = invite._inviteId) =
      invites.filter (· ≠ invite) := by
  induction invites with
  | nil => rfl
  | cons other invites ih =>
    obtain ⟨absent, nodup⟩ := List.nodup_cons.mp nodup
    by_cases here : other._inviteId = invite._inviteId
    · obtain rfl := only other (by simp) here
      -- the invite does not come again
      have rest : invites.filter (fun later => !decide (later = other)) = invites := by
        refine List.filter_eq_self.mpr fun later hm => ?_
        simpa using ne_of_mem_of_not_mem hm absent
      simp [rest]
    · have ne : other ≠ invite := fun hs => here (congrArg _ hs)
      rw [List.eraseP_cons_of_neg (by simpa using here),
        List.filter_cons_of_pos (by simpa using ne)]
      exact congrArg _ (ih nodup fun later hm => only later (by simp [hm]))

lemma RemoveInvite_events (inviteId eventId : ℕ) :
    (mgr.RemoveInvite inviteId eventId)._events = mgr._events := by
  rw [RemoveInvite]
  split
  · rfl
  · dsimp only
    split
    · rfl
    · rw [deleteInvite]
      split <;> rfl

lemma Apart.removes {invites : List CalendarInvite} (apart : Apart mgr invites)
    (hm : invite ∈ invites) (k : ℕ) :
    (mgr.RemoveInvite invite._inviteId invite._eventId).GetEventInvites k =
      (mgr.GetEventInvites k).filter fun other =>
        !((mgr.GetEvent invite._eventId).isSome && other = invite) := by
  have others : k ≠ invite._eventId → ∀ other ∈ mgr.GetEventInvites k, other ≠ invite :=
    fun ne other inside hs => ne ((apart.own k other inside).symm.trans (hs ▸ rfl))
  have erased := eraseP_eq_filter (apart.nodup invite._eventId) (apart.only invite hm)
  have absent : (mgr.GetEventInvites invite._eventId).find?
      (fun other => other._inviteId = invite._inviteId) = none →
      ∀ other ∈ mgr.GetEventInvites invite._eventId, other ≠ invite :=
    fun none other inside hs => by simpa [hs] using List.find?_eq_none.mp none other inside
  rw [RemoveInvite]
  cases hf : mgr.GetEvent invite._eventId with
  | none => simp
  | some calendarEvent =>
    dsimp only
    split
    next none =>
      refine (List.filter_eq_self.mpr fun other inside => ?_).symm
      by_cases here : k = invite._eventId
      · simpa using absent none other (here ▸ inside)
      · simpa using others here other inside
    next =>
      change (mgr.setStore _ _).GetEventInvites k = _
      rw [GetEventInvites_setStore, erased]
      split
      next here =>
        subst here
        simp
      next here =>
        refine (List.filter_eq_self.mpr fun other inside => ?_).symm
        simpa using others here other inside

/-- Invites that are looked for one after another, if they are `chosen`, are removed. -/
lemma Apart.foldl (chosen : CalendarInvite → Bool)
    (step : CalendarMgr → CalendarInvite → CalendarMgr) {events : List CalendarEvent}
    (invites : List CalendarInvite)
    (steps : ∀ mgr : CalendarMgr, mgr._events = events → ∀ invite, step mgr invite =
      if chosen invite then mgr.RemoveInvite invite._inviteId invite._eventId else mgr)
    (exist : ∀ mgr : CalendarMgr, mgr._events = events → ∀ invite, chosen invite →
      (mgr.GetEvent invite._eventId).isSome)
    (hs : mgr._events = events) (apart : Apart mgr invites) :
    (invites.foldl step mgr)._events = events ∧ ∀ k,
      (invites.foldl step mgr).GetEventInvites k = (mgr.GetEventInvites k).filter fun other =>
        !(chosen other && decide (other ∈ invites)) := by
  induction invites generalizing mgr with
  | nil => simp [hs]
  | cons invite invites ih =>
    rw [List.foldl_cons, steps mgr hs]
    by_cases here : chosen invite = true
    · have removes := apart.removes (List.mem_cons_self (a := invite) (l := invites))
      simp only [exist mgr hs invite here, Bool.true_and] at removes
      have rest : Apart (mgr.RemoveInvite invite._inviteId invite._eventId) invites := by
        refine ⟨apart.own.removeInvite _ _, fun k => ?_, fun later hm other inside => ?_⟩
        · rw [removes]
          exact (apart.nodup k).filter _
        · rw [removes] at inside
          exact apart.only later (by simp [hm]) other (List.mem_of_mem_filter inside)
      obtain ⟨events, left⟩ := ih ((RemoveInvite_events ..).trans hs) rest
      rw [if_pos here]
      refine ⟨events, fun k => ?_⟩
      rw [left, removes, List.filter_filter]
      refine List.filter_congr fun other _ => ?_
      by_cases first : other = invite
      · simp [first, here]
      · simp [first]
    · rw [if_neg here]
      obtain ⟨events, left⟩ := ih hs ⟨apart.own, apart.nodup, fun later hm =>
        apart.only later (by simp [hm])⟩
      refine ⟨events, fun k => ?_⟩
      rw [left]
      refine List.filter_congr fun other _ => ?_
      by_cases first : other = invite
      · simp [first, here]
      · simp [first]

lemma mem_GetPlayerInvites (guid : ℕ) : invite ∈ mgr.GetPlayerInvites guid ↔
    (∃ k, invite ∈ mgr.GetEventInvites k) ∧ invite._invitee = guid := by
  simp only [GetPlayerInvites, List.mem_flatMap, List.mem_filter, decide_eq_true_eq]
  constructor
  · rintro ⟨store, hm, inside, invitee⟩
    refine ⟨⟨store.1, ?_⟩, invitee⟩
    rw [GetEventInvites, (Table.mem_sorted mgr._invites store.1 store.2).mp hm]
    exact inside
  · rintro ⟨⟨k, inside⟩, invitee⟩
    rw [GetEventInvites] at inside
    cases hf : mgr._invites.lookup k with
    | none => simp [hf] at inside
    | some invites =>
      rw [hf] at inside
      exact ⟨(k, invites), (Table.mem_sorted ..).mpr hf, inside, invitee⟩

end Invites

/-! ### Both functions -/

section Clears

variable {c : SoundCalendar} {guid : ℕ} {gone : CalendarEvent → Bool}

lemma SoundCalendar.apart (c : SoundCalendar) (guid : ℕ) :
    Apart c.toCalendarMgr (c.GetPlayerInvites guid) := by
  refine ⟨c.own, fun k => (c.invites_distinct k).of_map _, ?_⟩
  intro invite hm other inside hs
  obtain ⟨⟨k, here⟩, -⟩ := (mem_GetPlayerInvites guid).mp hm
  have under := c.own k invite here
  subst under
  exact List.inj_on_of_nodup_map (c.invites_distinct _) inside here hs

lemma SoundCalendar.removeEvents_eq (c : SoundCalendar) (isMatch : CalendarEvent → Bool) :
    c.removeEvents isMatch c._events =
      if c._events.any isMatch then none else some c.toCalendarMgr :=
  Calendar.removeEvents_eq c.events_distinct c._events fun _ hm => hm

lemma clears_iff {mgr' : CalendarMgr} {dropped : CalendarInvite → Bool}
    (stays : ∀ calendarEvent ∈ c._events, gone calendarEvent = false)
    (events : mgr'._events = c._events) : Clears c.toCalendarMgr gone dropped (some mgr') ↔
      ∀ k, mgr'.GetEventInvites k = (c.GetEventInvites k).filter fun invite => !dropped invite := by
  have none (k : ℕ) : (c._events.any fun calendarEvent =>
      gone calendarEvent && calendarEvent._eventId = k) = false :=
    List.any_eq_false.mpr fun calendarEvent hm => by simp [stays calendarEvent hm]
  have all : c._events.filter (fun calendarEvent => !gone calendarEvent) = c._events :=
    List.filter_eq_self.mpr fun calendarEvent hm => by simp [stays calendarEvent hm]
  simp only [Clears, none, all, Bool.not_false, Bool.and_true, Option.some.injEq]
  exact ⟨fun ⟨_, hs, _, invites⟩ => hs ▸ invites, fun invites => ⟨mgr', rfl, events, invites⟩⟩

lemma not_clears_none {mgr : CalendarMgr} {dropped : CalendarInvite → Bool} :
    ¬Clears mgr gone dropped none := by
  rintro ⟨_, absurd, -⟩
  cases absurd

variable (c guid)

/-- All of the player is removed if and only if he has created no event, and the events of the
invites to him exist. -/
lemma SoundCalendar.clearsPlayer_iff : ClearsPlayer c guid ↔
    (∀ calendarEvent ∈ c._events, calendarEvent._creatorGUID ≠ guid) ∧
      ∀ k, ∀ invite ∈ c.GetEventInvites k, invite._invitee = guid → (c.GetEvent k).isSome := by
  rw [ClearsPlayer, RemoveAllPlayerEventsAndInvites, c.removeEvents_eq]
  split
  next created =>
    obtain ⟨calendarEvent, hm, own⟩ := List.any_eq_true.mp created
    exact iff_of_false not_clears_none fun both =>
      both.1 calendarEvent hm (of_decide_eq_true own)
  next created =>
    have stays : ∀ calendarEvent ∈ c._events, calendarEvent._creatorGUID ≠ guid := by
      simpa using created
    obtain ⟨events, left⟩ := Apart.foldl (fun invite => (c.GetEvent invite._eventId).isSome)
      (fun mgr invite => mgr.RemoveInvite invite._inviteId invite._eventId)
      (c.GetPlayerInvites guid)
      (fun mgr hs invite => by
        split
        · rfl
        next absent =>
          -- nothing is looked for where the event is missing
          rw [GetEvent, ← hs] at absent
          rw [RemoveInvite, GetEvent, Option.not_isSome_iff_eq_none.mp absent])
      (fun mgr hs invite hf => by rwa [GetEvent, hs]) rfl (c.apart guid)
    rw [Option.map_some, clears_iff (by simpa using stays) events, and_iff_right stays]
    refine forall_congr' fun k => ?_
    have under (invite : CalendarInvite) (hm : invite ∈ c.GetEventInvites k) :
        invite._eventId = k ∧ (invite ∈ c.GetPlayerInvites guid ↔ invite._invitee = guid) :=
      ⟨c.own k invite hm, (mem_GetPlayerInvites guid).trans (and_iff_right ⟨k, hm⟩)⟩
    rw [left k]
    constructor
    · intro hs invite hm his
      by_contra absent
      -- the invite is still there
      have still : invite ∈ (c.GetEventInvites k).filter
          fun invite => !decide (invite._invitee = guid) :=
        hs ▸ List.mem_filter.mpr ⟨hm, by simp [(under invite hm).1, absent]⟩
      simp [his] at still
    · intro exist
      refine List.filter_congr fun invite hm => ?_
      obtain ⟨own, listed⟩ := under invite hm
      have hf := exist invite hm
      by_cases his : invite._invitee = guid
      · simp [own, listed, his, hf his]
      · simp [listed, his]

lemma SoundCalendar.clearsGuild_iff (guildId : ℕ) : ClearsGuild c guid guildId ↔
    ∀ calendarEvent ∈ c._events, calendarEvent._creatorGUID = guid →
      ¬(calendarEvent.IsGuildEvent ∨ calendarEvent.IsGuildAnnouncement) := by
  rw [ClearsGuild, RemovePlayerGuildEventsAndSignups, c.removeEvents_eq]
  split
  next created =>
    obtain ⟨calendarEvent, hm, own⟩ := List.any_eq_true.mp created
    simp only [Bool.and_eq_true, Bool.or_eq_true, decide_eq_true_eq] at own
    exact iff_of_false not_clears_none fun stays => stays calendarEvent hm own.1 own.2
  next created =>
    have stays : ∀ calendarEvent ∈ c._events, calendarEvent._creatorGUID = guid →
        ¬(calendarEvent.IsGuildEvent ∨ calendarEvent.IsGuildAnnouncement) := by
      simpa using created
    obtain ⟨events, left⟩ := Apart.foldl
      (fun invite => (c.GetEvent invite._eventId).any fun calendarEvent =>
        calendarEvent.IsGuildEvent && calendarEvent._guildId = guildId)
      (fun mgr invite =>
        if (mgr.GetEvent invite._eventId).any fun calendarEvent =>
          calendarEvent.IsGuildEvent && calendarEvent._guildId = guildId
        then mgr.RemoveInvite invite._inviteId invite._eventId else mgr)
      (c.GetPlayerInvites guid)
      (fun mgr hs invite => by rw [GetEvent, hs, ← GetEvent])
      (fun mgr hs invite hf => by
        rw [GetEvent, hs]
        exact Option.isSome_of_any hf) rfl (c.apart guid)
    rw [Option.map_some, clears_iff (by simpa using stays) events]
    refine iff_of_true (fun k => ?_) stays
    rw [left k]
    refine List.filter_congr fun invite hm => ?_
    have listed : invite ∈ c.GetPlayerInvites guid ↔ invite._invitee = guid :=
      (mem_GetPlayerInvites guid).trans (and_iff_right ⟨k, hm⟩)
    simp [listed, Bool.and_comm]

end Clears

/-- A character is removed from the calendar if and only if no event of his is to be removed, from
which the loop would go on. -/
theorem clears_iff_none_created (c : SoundCalendar) (guid guildId : ℕ) :
    (ClearsPlayer c guid ↔
      (∀ calendarEvent ∈ c._events, calendarEvent._creatorGUID ≠ guid) ∧
      ∀ k, ∀ invite ∈ c.GetEventInvites k, invite._invitee = guid → (c.GetEvent k).isSome) ∧
    (ClearsGuild c guid guildId ↔
      ∀ calendarEvent ∈ c._events, calendarEvent._creatorGUID = guid →
        ¬(calendarEvent.IsGuildEvent ∨ calendarEvent.IsGuildAnnouncement)) :=
  ⟨c.clearsPlayer_iff guid, c.clearsGuild_iff guid guildId⟩

def oneEvent : SoundCalendar where
  _events := [⟨1, 1, 0, 0, -1, 0, 0, "", ""⟩]
  events_distinct := by simp [liveEvents]
  invites_distinct _ := by simp [GetEventInvites]
  own _ _ member := by simp [GetEventInvites] at member

theorem creator_not_cleared : ¬∀ (c : SoundCalendar) (guid guildId : ℕ),
    ClearsPlayer c guid ∧ ClearsGuild c guid guildId := by
  intro all
  have clears := (all oneEvent 1 0).1
  exact not_clears_none clears

end WorldServer.Calendar
