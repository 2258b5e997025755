import WorldServer.Lib.Table
import WorldServer.Lib.Word

/-!
# Chat channels

A channel keeps its members with their flags, the ids of banned players and the id of its owner. A
member asks for a change with the name of another player. The members are a map that is also read
with the operator that inserts a missing key. What a request does to the players (packets and their
own lists of channels) is returned beside the channel.
-/
namespace WorldServer.Channels

open WorldServer.Lib

def MEMBER_FLAG_NONE : UInt8 := 0x00
def MEMBER_FLAG_OWNER : UInt8 := 0x01
def MEMBER_FLAG_MODERATOR : UInt8 := 0x02
def MEMBER_FLAG_MUTED : UInt8 := 0x08

def CHANNEL_FLAG_CUSTOM : UInt8 := 0x01
def CHANNEL_FLAG_LFG : UInt8 := 0x40

def RBAC_PERM_TWO_SIDE_INTERACTION_CHANNEL : ℕ := 26
def RBAC_PERM_SILENTLY_JOIN_CHANNEL : ℕ := 45
def RBAC_PERM_CHANGE_CHANNEL_NOT_MODERATOR : ℕ := 46

structure Player where
  guid : ℕ
  name : String
  team : ℕ
  permissions : List ℕ
  /-- The account is a player's, in a group, and the configuration keeps these from the channel. -/
  restrictedInLfg : Bool
  valid : guid ≠ 0
deriving DecidableEq, Repr

def Player.HasPermission (player : Player) (permission : ℕ) : Bool :=
  player.permissions.contains permission

/-- `ObjectAccessor::FindPlayerByName` among the players in the world. -/
def FindPlayerByName (world : List Player) (name : String) : Option Player :=
  world.find? fun player => player.name.map Char.toLower == name.map Char.toLower

structure PlayerInfo where
  player : ℕ
  flags : UInt8
deriving DecidableEq, Repr

namespace PlayerInfo

def hasFlag (mask : UInt8) (info : PlayerInfo) : Bool := info.flags &&& mask != 0

def setFlag (mask : UInt8) (state : Bool) (info : PlayerInfo) : PlayerInfo :=
  { info with flags := if state then info.flags ||| mask else info.flags &&& ~~~mask }

def IsOwner (info : PlayerInfo) : Bool := hasFlag MEMBER_FLAG_OWNER info
def SetOwner (state : Bool) (info : PlayerInfo) : PlayerInfo := setFlag MEMBER_FLAG_OWNER state info

def IsModerator (info : PlayerInfo) : Bool := hasFlag MEMBER_FLAG_MODERATOR info
def SetModerator (state : Bool) (info : PlayerInfo) : PlayerInfo :=
  setFlag MEMBER_FLAG_MODERATOR state info

def IsMuted (info : PlayerInfo) : Bool := hasFlag MEMBER_FLAG_MUTED info
def SetMuted (state : Bool) (info : PlayerInfo) : PlayerInfo := setFlag MEMBER_FLAG_MUTED state info

variable (info : PlayerInfo) (state : Bool)

lemma hasFlag_setFlag {mask : UInt8} (nonzero : mask ≠ 0) :
    hasFlag mask (setFlag mask state info) = state := by
  cases state with
  | true => simpa [hasFlag, setFlag, or_and_mask] using nonzero
  | false =>
    have cleared : (info.flags &&& ~~~mask) &&& mask = 0 := by
      rw [UInt8.and_assoc, UInt8.not_and_self, UInt8.and_zero]
    simp [hasFlag, setFlag, cleared]

lemma hasFlag_setFlag_other {mask other : UInt8} (apart : other &&& mask = 0) :
    hasFlag mask (setFlag other state info) = hasFlag mask info := by
  obtain ⟨set, cleared⟩ := and_mask_of_disjoint apart info.flags
  cases state with
  | true => simp [hasFlag, setFlag, set]
  | false => simp [hasFlag, setFlag, cleared]

@[simp] lemma IsOwner_none (guid : ℕ) : IsOwner ⟨guid, MEMBER_FLAG_NONE⟩ = false := by
  simp [IsOwner, hasFlag, MEMBER_FLAG_NONE]

@[simp] lemma IsOwner_SetOwner : (info.SetOwner state).IsOwner = state :=
  hasFlag_setFlag info state (by decide)

@[simp] lemma IsModerator_SetModerator : (info.SetModerator state).IsModerator = state :=
  hasFlag_setFlag info state (by decide)

@[simp] lemma IsModerator_SetOwner : (info.SetOwner state).IsModerator = info.IsModerator :=
  hasFlag_setFlag_other info state (by decide)

@[simp] lemma IsOwner_SetModerator : (info.SetModerator state).IsOwner = info.IsOwner :=
  hasFlag_setFlag_other info state (by decide)

@[simp] lemma IsOwner_SetMuted : (info.SetMuted state).IsOwner = info.IsOwner :=
  hasFlag_setFlag_other info state (by decide)

@[simp] lemma IsModerator_SetMuted : (info.SetMuted state).IsModerator = info.IsModerator :=
  hasFlag_setFlag_other info state (by decide)

end PlayerInfo

/-- What a packet of the channel says. -/
inductive Notify where
  | Joined (guid : ℕ)
  | Left (guid : ℕ)
  | YouJoined
  | YouLeft
  | WrongPassword
  | NotMember
  | NotModerator
  | OwnerChanged (guid : ℕ)
  | PlayerNotFound (name : String)
  | NotOwner
  | ModeChange (guid : ℕ) (oldflags newflags : UInt8)
  | PlayerKicked (bad good : ℕ)
  | Banned
  | PlayerBanned (bad good : ℕ)
  | PlayerUnbanned (bad good : ℕ)
  | PlayerAlreadyMember (guid : ℕ)
  | NotInLfg
deriving DecidableEq, Repr

/-- What a channel does to players: packets, and entries of their lists of channels. -/
inductive Call where
  | SendToOne (notify : Notify) (who : ℕ)
  | SendToAll (notify : Notify)
  | JoinNotify (guid : ℕ)
  | LeaveNotify (guid : ℕ)
  | JoinedChannel (guid : ℕ)
  | LeftChannel (guid : ℕ)
deriving DecidableEq, Repr

structure Channel where
  _announce : Bool
  _ownership : Bool
  _flags : UInt8
  _channelId : ℕ
  _ownerGUID : ℕ
  _password : String
  playersStore : Table ℕ PlayerInfo
  bannedStore : Finset ℕ

structure Reply where
  channel : Channel
  calls : List Call

namespace Channel

variable (ch : Channel)

def IsConstant : Bool := ch._channelId != 0

def HasFlag (flag : UInt8) : Bool := ch._flags &&& flag != 0

def IsOn (who : ℕ) : Bool := (ch.playersStore.lookup who).isSome

def IsBanned (guid : ℕ) : Bool := decide (guid ∈ ch.bannedStore)

/-- `playersStore[guid]` as a value; a missing entry is one of zeros. -/
def info (guid : ℕ) : PlayerInfo := (ch.playersStore.lookup guid).getD ⟨0, MEMBER_FLAG_NONE⟩

/-- `playersStore[guid]` as a reference: a missing entry is inserted first. -/
def modify (guid : ℕ) (f : PlayerInfo → PlayerInfo) : Channel :=
  { ch with playersStore := ch.playersStore.insert guid (f (ch.info guid)) }

def erase (guid : ℕ) : Channel := { ch with playersStore := ch.playersStore.erase guid }

def GetPlayerFlags (guid : ℕ) : UInt8 :=
  match ch.playersStore.lookup guid with
  | some info => info.flags
  | none => 0

def MakeModeChange (guid : ℕ) (oldflags : UInt8) : Notify :=
  .ModeChange guid oldflags (ch.GetPlayerFlags guid)

def clearOwner : Channel :=
  if ch._ownerGUID ≠ 0 ∧ ch.IsOn ch._ownerGUID then ch.modify ch._ownerGUID (.SetOwner false)
  else ch

def SetOwner (guid : ℕ) (exclaim : Bool) : Reply :=
  let ch : Channel := { ch.clearOwner with _ownerGUID := guid }
  if guid ≠ 0 then
    let oldFlag := ch.GetPlayerFlags guid
    let ch := (ch.modify guid (.SetModerator true)).modify guid (.SetOwner true)
    ⟨ch, if exclaim then [.SendToAll (ch.MakeModeChange guid oldFlag),
      .SendToAll (.OwnerChanged guid)] else []⟩
  else ⟨ch, []⟩

def SetModerator (guid : ℕ) (set : Bool) : Reply :=
  if (ch.info guid).IsModerator != set then
    let oldFlag := ch.GetPlayerFlags guid
    let ch := ch.modify guid (.SetModerator set)
    ⟨ch, [.SendToAll (ch.MakeModeChange guid oldFlag)]⟩
  else ⟨ch, []⟩

def SetMute (guid : ℕ) (set : Bool) : Reply :=
  if (ch.info guid).IsMuted != set then
    let oldFlag := ch.GetPlayerFlags guid
    let ch := ch.modify guid (.SetMuted set)
    ⟨ch, [.SendToAll (ch.MakeModeChange guid oldFlag)]⟩
  else ⟨ch, []⟩

def mayChange (player : Player) : Bool :=
  (ch.info player.guid).IsModerator || player.HasPermission RBAC_PERM_CHANGE_CHANNEL_NOT_MODERATOR

/-- Both players may talk across the factions, or they are of one. -/
def oneSide (player newp : Player) : Bool :=
  player.team == newp.team ||
    (player.HasPermission RBAC_PERM_TWO_SIDE_INTERACTION_CHANNEL &&
      newp.HasPermission RBAC_PERM_TWO_SIDE_INTERACTION_CHANNEL)

def JoinChannel (player : Player) (pass : String) : Reply :=
  let guid := player.guid
  if ch.IsOn guid then
    ⟨ch, if ch.IsConstant then [] else [.SendToOne (.PlayerAlreadyMember guid) guid]⟩
  else if ch.IsBanned guid then ⟨ch, [.SendToOne .Banned guid]⟩
  else if ch._password ≠ "" ∧ pass ≠ ch._password then ⟨ch, [.SendToOne .WrongPassword guid]⟩
  else if ch.HasFlag CHANNEL_FLAG_LFG ∧ player.restrictedInLfg then
    ⟨ch, [.SendToOne .NotInLfg guid]⟩
  else
    let joined := ch.modify guid fun _ => ⟨guid, MEMBER_FLAG_NONE⟩
    let calls := .JoinedChannel guid ::
      (if ch._announce ∧ !player.HasPermission RBAC_PERM_SILENTLY_JOIN_CHANNEL then
        [.SendToAll (.Joined guid)] else []) ++ [.SendToOne .YouJoined guid, .JoinNotify guid]
    if !ch.IsConstant ∧ ch._ownerGUID = 0 ∧ ch._ownership then
      let owned := joined.SetOwner guid (decide (joined.playersStore.entries.length > 1))
      ⟨owned.channel.modify guid (.SetModerator true), calls ++ owned.calls⟩
    else ⟨joined, calls⟩

/-- The first member in the order of the ids; its entry names the player. -/
def begin : Option PlayerInfo := (ch.playersStore.sorted.head?).map Prod.snd

def LeaveChannel (player : Player) (send : Bool) : Reply :=
  let guid := player.guid
  if !ch.IsOn guid then ⟨ch, if send then [.SendToOne .NotMember guid] else []⟩
  else
    let changeowner := (ch.info guid).IsOwner
    let left := ch.erase guid
    let calls := (if send then [.SendToOne .YouLeft guid, .LeftChannel guid] else []) ++
      (if ch._announce ∧ !player.HasPermission RBAC_PERM_SILENTLY_JOIN_CHANNEL then
        [.SendToAll (.Left guid)] else []) ++ [.LeaveNotify guid]
    if !ch.IsConstant ∧ changeowner ∧ ch._ownership then
      match left.begin with
      | none => ⟨left, calls⟩
      | some first =>
        let newowner := first.player
        let owned := (left.modify newowner (.SetModerator true)).SetOwner newowner true
        ⟨owned.channel, calls ++ owned.calls⟩
    else ⟨left, calls⟩

def KickOrBan (player : Player) (world : List Player) (badname : String) (ban : Bool) : Reply :=
  let good := player.guid
  if !ch.IsOn good then ⟨ch, [.SendToOne .NotMember good]⟩
  else if !ch.mayChange player then ⟨ch, [.SendToOne .NotModerator good]⟩
  else
    match FindPlayerByName world badname with
    | none => ⟨ch, [.SendToOne (.PlayerNotFound badname) good]⟩
    | some bad =>
      let victim := bad.guid
      if !ch.IsOn victim then ⟨ch, [.SendToOne (.PlayerNotFound badname) good]⟩
      else
        let changeowner := ch._ownerGUID == victim
        if !player.HasPermission RBAC_PERM_CHANGE_CHANNEL_NOT_MODERATOR ∧ changeowner ∧
            good ≠ ch._ownerGUID then ⟨ch, [.SendToOne .NotOwner good]⟩
        else
          let banned := ban && !ch.IsBanned victim
          let out : Channel := { ch.erase victim with
            bannedStore := if banned then insert victim ch.bannedStore else ch.bannedStore }
          let calls := (if player.HasPermission RBAC_PERM_SILENTLY_JOIN_CHANNEL then []
            else if banned then [.SendToAll (.PlayerBanned victim good)]
            else [.SendToAll (.PlayerKicked victim good)]) ++ [.LeftChannel victim]
          if changeowner ∧ ch._ownership ∧ out.playersStore.entries ≠ [] then
            -- the entry of the new owner is inserted if he has just been taken out
            let owned := (out.modify good (.SetModerator true)).SetOwner good true
            ⟨owned.channel, calls ++ owned.calls⟩
          else ⟨out, calls⟩

def UnBan (player : Player) (world : List Player) (badname : String) : Reply :=
  let good := player.guid
  if !ch.IsOn good then ⟨ch, [.SendToOne .NotMember good]⟩
  else if !ch.mayChange player then ⟨ch, [.SendToOne .NotModerator good]⟩
  else
    match FindPlayerByName world badname with
    | none => ⟨ch, [.SendToOne (.PlayerNotFound badname) good]⟩
    | some bad =>
      let victim := bad.guid
      if !ch.IsBanned victim then ⟨ch, [.SendToOne (.PlayerNotFound badname) good]⟩
      else
        ⟨{ ch with bannedStore := ch.bannedStore.erase victim },
          [.SendToAll (.PlayerUnbanned victim good)]⟩

def SetMode (player : Player) (world : List Player) (p2n : String) (mod set : Bool) : Reply :=
  let guid := player.guid
  if !ch.IsOn guid then ⟨ch, [.SendToOne .NotMember guid]⟩
  else if !ch.mayChange player then ⟨ch, [.SendToOne .NotModerator guid]⟩
  else if guid = ch._ownerGUID ∧ p2n = player.name ∧ mod then ⟨ch, []⟩
  else
    match FindPlayerByName world p2n with
    | none => ⟨ch, [.SendToOne (.PlayerNotFound p2n) guid]⟩
    | some newp =>
      let victim := newp.guid
      if !ch.IsOn victim ∨ !oneSide player newp then
        ⟨ch, [.SendToOne (.PlayerNotFound p2n) guid]⟩
      else if ch._ownerGUID = victim ∧ ch._ownerGUID ≠ guid then ⟨ch, [.SendToOne .NotOwner guid]⟩
      else if mod then ch.SetModerator newp.guid set
      else ch.SetMute newp.guid set

def SetOwnerByName (player : Player) (world : List Player) (newname : String) : Reply :=
  let guid := player.guid
  if !ch.IsOn guid then ⟨ch, [.SendToOne .NotMember guid]⟩
  else if !player.HasPermission RBAC_PERM_CHANGE_CHANNEL_NOT_MODERATOR ∧ guid ≠ ch._ownerGUID then
    ⟨ch, [.SendToOne .NotOwner guid]⟩
  else
    match FindPlayerByName world newname with
    | none => ⟨ch, [.SendToOne (.PlayerNotFound newname) guid]⟩
    | some newp =>
      let victim := newp.guid
      if !ch.IsOn victim ∨ !oneSide player newp then
        ⟨ch, [.SendToOne (.PlayerNotFound newname) guid]⟩
      else (ch.modify victim (.SetModerator true)).SetOwner victim true

end Channel

end WorldServer.Channels
