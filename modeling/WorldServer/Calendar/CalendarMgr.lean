import WorldServer.Lib.Recycler
import WorldServer.Lib.Table

/-!
# The calendar manager

The manager holds the events and, under the id of an event, the invites to it. Ids of both are
recycled: an event or an invite gives its id back when it is destroyed. An announcement to a guild
has no invites, and what is added to it is not stored.
-/
namespace WorldServer.Calendar

open WorldServer.Lib

abbrev CalendarFlags := BitVec 32

def CALENDAR_FLAG_INVITES_LOCKED : CalendarFlags := 0x010
def CALENDAR_FLAG_WITHOUT_INVITES : CalendarFlags := 0x040
def CALENDAR_FLAG_GUILD_EVENT : CalendarFlags := 0x400

def CalendarFlags.has (flags flag : CalendarFlags) : Bool := flags &&& flag ≠ 0

/-- Packets and rows carry any byte for a rank and for a status. -/
abbrev CalendarModerationRank := UInt8

def CALENDAR_RANK_PLAYER : CalendarModerationRank := 0
def CALENDAR_RANK_MODERATOR : CalendarModerationRank := 1
def CALENDAR_RANK_OWNER : CalendarModerationRank := 2

abbrev CalendarInviteStatus := UInt8

def CALENDAR_STATUS_INVITED : CalendarInviteStatus := 0
def CALENDAR_STATUS_DECLINED : CalendarInviteStatus := 2
def CALENDAR_STATUS_CONFIRMED : CalendarInviteStatus := 3
def CALENDAR_STATUS_SIGNED_UP : CalendarInviteStatus := 6
def CALENDAR_STATUS_NOT_SIGNED_UP : CalendarInviteStatus := 7
def CALENDAR_STATUS_TENTATIVE : CalendarInviteStatus := 8
def CALENDAR_STATUS_REMOVED : CalendarInviteStatus := 9

inductive CalendarError
  | eventInvalid
  | guildPlayerNotInGuild
  | playerNotFound
  | notAllied
  | ignoringYou (name : String)
  | eventPassed
  | eventLocked
  | deleteCreatorFailed
  | noInvite
  | noGuildInvites
  | noModerator
deriving DecidableEq, Repr

structure CalendarInvite where
  _inviteId : ℕ
  _eventId : ℕ
  _invitee : ℕ
  _senderGUID : ℕ
  _statusTime : ℕ
  _status : CalendarInviteStatus
  _rank : CalendarModerationRank
  _text : String
deriving DecidableEq, Repr

structure CalendarEvent where
  _eventId : ℕ
  _creatorGUID : ℕ
  _guildId : ℕ
  _type : UInt8
  _dungeonId : ℤ
  _eventTime : ℕ
  _flags : CalendarFlags
  _title : String
  _description : String
deriving DecidableEq, Repr

/-- The invite of a copied event: its creator owns the copy, and other owners become moderators. -/
def CalendarInvite.copy (calendarInvite : CalendarInvite) (inviteId eventId creatorGuid : ℕ) :
    CalendarInvite where
  _inviteId := inviteId
  _eventId := eventId
  _invitee := calendarInvite._invitee
  _senderGUID := creatorGuid
  _statusTime := 0
  _status := if creatorGuid = calendarInvite._invitee then CALENDAR_STATUS_CONFIRMED
    else CALENDAR_STATUS_INVITED
  _rank := if creatorGuid = calendarInvite._invitee then CALENDAR_RANK_OWNER
    else if calendarInvite._rank = CALENDAR_RANK_OWNER then CALENDAR_RANK_MODERATOR
    else calendarInvite._rank
  _text := calendarInvite._text

namespace CalendarEvent

def copy (calendarEvent : CalendarEvent) (eventId newCreatorGuid : ℕ) : CalendarEvent :=
  { calendarEvent with _eventId := eventId, _creatorGUID := newCreatorGuid }

def IsGuildEvent (calendarEvent : CalendarEvent) : Bool :=
  calendarEvent._flags.has CALENDAR_FLAG_GUILD_EVENT

def IsGuildAnnouncement (calendarEvent : CalendarEvent) : Bool :=
  calendarEvent._flags.has CALENDAR_FLAG_WITHOUT_INVITES

end CalendarEvent

structure CalendarMgr where
  _events : List CalendarEvent := []
  _invites : Table ℕ (List CalendarInvite) := ∅
  eventIds : Recycler := ⟨[], 0⟩
  /-- `_freeInviteIds` and `_maxInviteId`. -/
  inviteIds : Recycler := ⟨[], 0⟩

namespace CalendarMgr

def FreeEventId (mgr : CalendarMgr) (id : ℕ) : CalendarMgr :=
  { mgr with eventIds := mgr.eventIds.release 64 id }

def GetFreeEventId (mgr : CalendarMgr) : ℕ × CalendarMgr :=
  ((mgr.eventIds.take 64).1, { mgr with eventIds := (mgr.eventIds.take 64).2 })

def FreeInviteId (mgr : CalendarMgr) (id : ℕ) : CalendarMgr :=
  { mgr with inviteIds := mgr.inviteIds.release 64 id }

def GetFreeInviteId (mgr : CalendarMgr) : ℕ × CalendarMgr :=
  ((mgr.inviteIds.take 64).1, { mgr with inviteIds := (mgr.inviteIds.take 64).2 })

def deleteInvite (mgr : CalendarMgr) (invite : CalendarInvite) : CalendarMgr :=
  if invite._inviteId ≠ 0 then mgr.FreeInviteId invite._inviteId else mgr

def deleteEvent (mgr : CalendarMgr) (calendarEvent : CalendarEvent) : CalendarMgr :=
  mgr.FreeEventId calendarEvent._eventId

def GetEvent (mgr : CalendarMgr) (eventId : ℕ) : Option CalendarEvent :=
  mgr._events.find? fun calendarEvent => calendarEvent._eventId = eventId

def GetEventInvites (mgr : CalendarMgr) (eventId : ℕ) : List CalendarInvite :=
  (mgr._invites.lookup eventId).getD []

/-- Where an invite is stored: under which id, and how many are before it. -/
structure InvitePlace where
  key : ℕ
  index : ℕ
deriving DecidableEq, Repr

/-- The first invite with the id, over all stores in the order of their keys. -/
def GetInvite (mgr : CalendarMgr) (inviteId : ℕ) : Option InvitePlace :=
  mgr._invites.sorted.findSome? fun store =>
    (store.2.findIdx? fun invite => invite._inviteId = inviteId).map fun i => ⟨store.1, i⟩

def modifyInvite (mgr : CalendarMgr) (place : InvitePlace)
    (f : CalendarInvite → CalendarInvite) : CalendarMgr :=
  { mgr with
    _invites := mgr._invites.insert place.key
      ((mgr.GetEventInvites place.key).modify place.index f) }

def AddEvent (mgr : CalendarMgr) (calendarEvent : CalendarEvent) : CalendarMgr :=
  { mgr with _events := mgr._events ++ [calendarEvent] }

def AddInvite (mgr : CalendarMgr) (calendarEvent : CalendarEvent) (invite : CalendarInvite) :
    CalendarMgr :=
  if calendarEvent.IsGuildAnnouncement then mgr
  else { mgr with
    _invites := mgr._invites.insert invite._eventId
      (mgr.GetEventInvites invite._eventId ++ [invite]) }

def RemoveEvent (mgr : CalendarMgr) (eventId : ℕ) : Except CalendarError CalendarMgr :=
  match mgr.GetEvent eventId with
  | none => .error .eventInvalid
  | some calendarEvent =>
    let deleted := (mgr.GetEventInvites eventId).foldl deleteInvite mgr
    .ok { deleted.deleteEvent calendarEvent with
      _invites := mgr._invites.erase eventId
      _events := mgr._events.eraseP fun calendarEvent => calendarEvent._eventId = eventId }

def RemoveInvite (mgr : CalendarMgr) (inviteId eventId : ℕ) : CalendarMgr :=
  match mgr.GetEvent eventId with
  | none => mgr
  | some _ =>
    let invites := mgr.GetEventInvites eventId
    match invites.find? fun invite => invite._inviteId = inviteId with
    | none => mgr
    | some invite =>
      { mgr.deleteInvite invite with
        _invites := mgr._invites.insert eventId
          (invites.eraseP fun invite => invite._inviteId = inviteId) }

/-! ### Loading -/

structure EventRow where
  id : ℕ
  creator : ℕ
  title : String
  description : String
  type : UInt8
  dungeon : ℤ
  eventtime : ℕ
  flags : CalendarFlags
deriving DecidableEq, Repr

structure InviteRow where
  id : ℕ
  event : ℕ
  invitee : ℕ
  sender : ℕ
  status : CalendarInviteStatus
  statustime : ℕ
  rank : CalendarModerationRank
  text : String
deriving DecidableEq, Repr

/-- The guid of a player is the number that the rows keep of it. -/
def EventRow.load (GetGuildIdFromDB : ℕ → ℕ) (row : EventRow) : CalendarEvent where
  _eventId := row.id
  _creatorGUID := row.creator
  _guildId := if row.flags.has CALENDAR_FLAG_GUILD_EVENT ||
      row.flags.has CALENDAR_FLAG_WITHOUT_INVITES then GetGuildIdFromDB row.creator else 0
  _type := row.type
  _dungeonId := row.dungeon
  _eventTime := row.eventtime
  _flags := row.flags
  _title := row.title
  _description := row.description

def InviteRow.load (row : InviteRow) : CalendarInvite where
  _inviteId := row.id
  _eventId := row.event
  _invitee := row.invitee
  _senderGUID := row.sender
  _statusTime := row.statustime
  _status := row.status
  _rank := row.rank
  _text := row.text

def loadEvent (GetGuildIdFromDB : ℕ → ℕ) (mgr : CalendarMgr) (row : EventRow) : CalendarMgr :=
  { mgr with
    _events := mgr._events ++ [row.load GetGuildIdFromDB]
    eventIds := { mgr.eventIds with max := max mgr.eventIds.max row.id } }

def loadInvite (mgr : CalendarMgr) (row : InviteRow) : CalendarMgr :=
  { mgr with
    _invites := mgr._invites.insert row.event (mgr.GetEventInvites row.event ++ [row.load])
    inviteIds := { mgr.inviteIds with max := max mgr.inviteIds.max row.id } }

/-- The ids below the largest one that are not in use are listed as free. -/
def listFreeIds (mgr : CalendarMgr) : CalendarMgr :=
  { mgr with
    eventIds := { mgr.eventIds with
      free := (List.range' 1 (mgr.eventIds.max - 1)).filter fun i => (mgr.GetEvent i).isNone }
    inviteIds := { mgr.inviteIds with
      free := (List.range' 1 (mgr.inviteIds.max - 1)).filter fun i => (mgr.GetInvite i).isNone } }

def LoadFromDB (GetGuildIdFromDB : ℕ → ℕ) (events : List EventRow) (invites : List InviteRow) :
    CalendarMgr :=
  (invites.foldl loadInvite (events.foldl (loadEvent GetGuildIdFromDB) {})).listFreeIds

end CalendarMgr

end WorldServer.Calendar
