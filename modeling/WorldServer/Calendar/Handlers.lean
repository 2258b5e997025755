import WorldServer.Calendar.CalendarMgr
import WorldServer.Lib.Run

/-!
# Calendar requests

The handlers of the calendar packets. A request that is refused leaves the calendar as it is. The
packets that tell the players about a change are left out.
-/
namespace WorldServer.Calendar

open WorldServer.Lib

/-- What is looked up of a player: the one who sends a packet, or one who is invited. -/
structure Player where
  guid : ℕ
  team : ℕ
  guildId : ℕ
deriving DecidableEq, Repr

/-- What the handlers look up elsewhere, at the time of a packet. -/
structure World where
  time : ℕ
  FindPlayerByName : String → Option Player
  FindPlayer : ℕ → Option ℕ
  ignores : ℕ → ℕ → Bool
  CONFIG_ALLOW_TWO_SIDE_INTERACTION_CALENDAR : Bool

structure CalendarInvitePacketInfo where
  Guid : ℕ
  Status : UInt8
  ModerationRank : UInt8
deriving DecidableEq, Repr

/-- What a packet says about an event. -/
structure EventInfo where
  type : UInt8
  dungeonId : ℤ
  eventPackedTime : ℕ
  flags : CalendarFlags
  title : String
  description : String
deriving DecidableEq, Repr

inductive Packet
  | addEvent (info : EventInfo) (invites : List CalendarInvitePacketInfo)
  | updateEvent (eventId : ℕ) (info : EventInfo)
  | removeEvent (eventId : ℕ)
  | copyEvent (eventId time : ℕ)
  | eventInvite (eventId : ℕ) (name : String) (isPreInvite isGuildEvent : Bool)
  | eventSignup (eventId : ℕ) (tentative : Bool)
  | eventRsvp (eventId inviteId : ℕ) (status : UInt8)
  | eventRemoveInvite (eventId inviteId invitee : ℕ)
  | eventStatus (eventId inviteId : ℕ) (status : UInt8)
  | eventModeratorStatus (eventId inviteId : ℕ) (rank : UInt8)
deriving DecidableEq, Repr

structure Request where
  world : World
  player : Player
  packet : Packet

namespace CalendarMgr

def addNewInvite (mgr : CalendarMgr) (calendarEvent : CalendarEvent)
    (invite : ℕ → CalendarInvite) : CalendarMgr :=
  mgr.GetFreeInviteId.2.AddInvite calendarEvent (invite mgr.GetFreeInviteId.1)

section Handlers

variable (mgr : CalendarMgr) (world : World) (player : Player)

def EventInfo.event (info : EventInfo) (eventId : ℕ) : CalendarEvent :=
  let calendarEvent : CalendarEvent :=
    { _eventId := eventId, _creatorGUID := player.guid, _guildId := 0, _type := info.type,
      _dungeonId := info.dungeonId, _eventTime := info.eventPackedTime, _flags := info.flags,
      _title := info.title, _description := info.description }
  if calendarEvent.IsGuildEvent || calendarEvent.IsGuildAnnouncement then
    match world.FindPlayer player.guid with
    | some guildId => { calendarEvent with _guildId := guildId }
    | none => calendarEvent
  else calendarEvent

def HandleCalendarAddEvent (info : EventInfo) (calendarInviteList : List CalendarInvitePacketInfo) :
    CalendarMgr :=
  let calendarEvent := EventInfo.event world player info mgr.GetFreeEventId.1
  let mgr := mgr.GetFreeEventId.2
  let invited :=
    if calendarEvent.IsGuildAnnouncement then
      -- the invite of an announcement takes no id
      mgr.AddInvite calendarEvent ⟨0, calendarEvent._eventId, 0, player.guid, 0,
        CALENDAR_STATUS_NOT_SIGNED_UP, CALENDAR_RANK_PLAYER, ""⟩
    else calendarInviteList.foldl (fun mgr info => mgr.addNewInvite calendarEvent fun inviteId =>
      ⟨inviteId, calendarEvent._eventId, info.Guid, player.guid, 0, info.Status,
        info.ModerationRank, ""⟩) mgr
  invited.AddEvent calendarEvent

def HandleCalendarUpdateEvent (eventId : ℕ) (info : EventInfo) :
    Except CalendarError CalendarMgr :=
  match mgr.GetEvent eventId with
  | none => .error .eventInvalid
  | some _ =>
    .ok { mgr with
      _events := mgr._events.modify
        (mgr._events.findIdx fun calendarEvent => calendarEvent._eventId = eventId)
        fun calendarEvent => { calendarEvent with
          _type := info.type, _flags := info.flags, _eventTime := info.eventPackedTime,
          _dungeonId := info.dungeonId, _title := info.title, _description := info.description } }

def HandleCalendarRemoveEvent (eventId : ℕ) : Except CalendarError CalendarMgr :=
  mgr.RemoveEvent eventId

def HandleCalendarCopyEvent (eventId time : ℕ) : Except CalendarError CalendarMgr :=
  match mgr.GetEvent eventId with
  | none => .error .eventInvalid
  | some oldEvent =>
    let newEvent := { oldEvent.copy mgr.GetFreeEventId.1 player.guid with _eventTime := time }
    let copied := (mgr.GetEventInvites eventId).foldl
      (fun mgr invite => mgr.addNewInvite newEvent fun inviteId =>
        invite.copy inviteId newEvent._eventId player.guid) mgr.GetFreeEventId.2
    .ok (copied.AddEvent newEvent)

def HandleCalendarEventInvite (eventId : ℕ) (name : String) (isPreInvite isGuildEvent : Bool) :
    Except CalendarError CalendarMgr :=
  match world.FindPlayerByName name with
  | none => .error .playerNotFound
  | some invitee =>
    if invitee.guid = 0 then .error .playerNotFound
    else if player.team ≠ invitee.team && !world.CONFIG_ALLOW_TWO_SIDE_INTERACTION_CALENDAR then
      .error .notAllied
    else if world.ignores invitee.guid player.guid then .error (.ignoringYou name)
    else if !isPreInvite then
      match mgr.GetEvent eventId with
      | none => .error .eventInvalid
      | some calendarEvent =>
        if calendarEvent._eventTime < world.time then .error .eventPassed
        else if calendarEvent.IsGuildEvent && calendarEvent._guildId = invitee.guildId then
          .error .noGuildInvites
        else
          .ok (mgr.addNewInvite calendarEvent fun inviteId => ⟨inviteId, eventId, invitee.guid,
            player.guid, 0, CALENDAR_STATUS_INVITED, CALENDAR_RANK_PLAYER, ""⟩)
    else if isGuildEvent && player.guildId = invitee.guildId then .error .noGuildInvites
    else
      -- the invite lives until it has been sent
      .ok (mgr.deleteInvite ⟨0, 0, invitee.guid, player.guid, 0, CALENDAR_STATUS_INVITED,
        CALENDAR_RANK_PLAYER, ""⟩)

def HandleCalendarEventSignup (eventId : ℕ) (tentative : Bool) :
    Except CalendarError CalendarMgr :=
  match mgr.GetEvent eventId with
  | none => .error .eventInvalid
  | some calendarEvent =>
    if calendarEvent.IsGuildEvent && calendarEvent._guildId ≠ player.guildId then
      .error .guildPlayerNotInGuild
    else
      let status := if tentative then CALENDAR_STATUS_TENTATIVE else CALENDAR_STATUS_SIGNED_UP
      .ok (mgr.addNewInvite calendarEvent fun inviteId => ⟨inviteId, eventId, player.guid,
        player.guid, world.time, status, CALENDAR_RANK_PLAYER, ""⟩)

def HandleCalendarEventRsvp (eventId inviteId : ℕ) (status : UInt8) :
    Except CalendarError CalendarMgr :=
  match mgr.GetEvent eventId with
  | none => .error .eventInvalid
  | some calendarEvent =>
    if status ≠ CALENDAR_STATUS_REMOVED && calendarEvent._flags.has CALENDAR_FLAG_INVITES_LOCKED then
      .error .eventLocked
    else
      match mgr.GetInvite inviteId with
      | none => .error .noInvite
      | some place => .ok (mgr.modifyInvite place fun invite =>
          { invite with _status := status, _statusTime := world.time })

def HandleCalendarEventRemoveInvite (eventId inviteId invitee : ℕ) :
    Except CalendarError CalendarMgr :=
  match mgr.GetEvent eventId with
  | none => .error .noInvite
  | some calendarEvent =>
    if calendarEvent._creatorGUID = invitee then .error .deleteCreatorFailed
    else .ok (mgr.RemoveInvite inviteId eventId)

def HandleCalendarEventStatus (eventId inviteId : ℕ) (status : UInt8) :
    Except CalendarError CalendarMgr :=
  match mgr.GetEvent eventId with
  | none => .error .eventInvalid
  | some _ =>
    match mgr.GetInvite inviteId with
    | none => .error .noInvite
    | some place => .ok (mgr.modifyInvite place fun invite => { invite with _status := status })

def HandleCalendarEventModeratorStatus (eventId inviteId : ℕ) (rank : UInt8) :
    Except CalendarError CalendarMgr :=
  match mgr.GetEvent eventId with
  | none => .error .eventInvalid
  | some calendarEvent =>
    if calendarEvent.IsGuildEvent then .error .noModerator
    else
      match mgr.GetInvite inviteId with
      | none => .error .noInvite
      | some place => .ok (mgr.modifyInvite place fun invite => { invite with _rank := rank })

end Handlers

def handle (mgr : CalendarMgr) (request : Request) : Except CalendarError CalendarMgr :=
  match request.packet with
  | .addEvent info invites =>
    .ok (mgr.HandleCalendarAddEvent request.world request.player info invites)
  | .updateEvent eventId info => mgr.HandleCalendarUpdateEvent eventId info
  | .removeEvent eventId => mgr.HandleCalendarRemoveEvent eventId
  | .copyEvent eventId time => mgr.HandleCalendarCopyEvent request.player eventId time
  | .eventInvite eventId name isPreInvite isGuildEvent =>
    mgr.HandleCalendarEventInvite request.world request.player eventId name isPreInvite isGuildEvent
  | .eventSignup eventId tentative =>
    mgr.HandleCalendarEventSignup request.world request.player eventId tentative
  | .eventRsvp eventId inviteId status =>
    mgr.HandleCalendarEventRsvp request.world eventId inviteId status
  | .eventRemoveInvite eventId inviteId invitee =>
    mgr.HandleCalendarEventRemoveInvite eventId inviteId invitee
  | .eventStatus eventId inviteId status => mgr.HandleCalendarEventStatus eventId inviteId status
  | .eventModeratorStatus eventId inviteId rank =>
    mgr.HandleCalendarEventModeratorStatus eventId inviteId rank

def step (mgr : CalendarMgr) (request : Request) : CalendarMgr :=
  match mgr.handle request with
  | .ok mgr' => mgr'
  | .error _ => mgr

end CalendarMgr

end WorldServer.Calendar
