import WorldServer.Lib.Bytes
import WorldServer.Lib.Segments

/-!
# Logins

A client of the login server names an account in a challenge and answers with a proof, or takes up a
session with a second kind of challenge and proof; then it may ask for the realms. Each handler
reads what it needs from the buffered input and returns false if it stops the loop of `OnRead`.
SHA-1, random numbers and the token of the second factor are functions of the environment.
-/
namespace WorldServer.Auth

open WorldServer.Lib

abbrev Bytes := List UInt8

inductive AuthResult where
  | WOW_SUCCESS
  | WOW_FAIL_BANNED
  | WOW_FAIL_UNKNOWN_ACCOUNT
  | WOW_FAIL_VERSION_INVALID
  | WOW_FAIL_SUSPENDED
  | WOW_FAIL_LOCKED_ENFORCED
  | WOW_FAIL_UNLOCKABLE_LOCK
deriving DecidableEq, Repr

def AuthResult.code : AuthResult → UInt8
  | WOW_SUCCESS => 0x00
  | WOW_FAIL_BANNED => 0x03
  | WOW_FAIL_UNKNOWN_ACCOUNT => 0x04
  | WOW_FAIL_VERSION_INVALID => 0x09
  | WOW_FAIL_SUSPENDED => 0x0C
  | WOW_FAIL_LOCKED_ENFORCED => 0x10
  | WOW_FAIL_UNLOCKABLE_LOCK => 0x19

def POST_BC_EXP_FLAG : ℕ := 0x2
def PRE_BC_EXP_FLAG : ℕ := 0x1
def NO_VALID_EXP_FLAG : ℕ := 0x0

def PostBcAcceptedClientBuilds : List ℕ :=
  [18414, 18291, 18019, 17956, 17930, 17898, 17688, 17658, 17538, 17399, 17128, 16769, 16357, 16309,
    16135, 15595, 14545, 13623, 12340, 11723, 11403, 11159, 10505, 9947, 8606]

def PreBcAcceptedClientBuilds : List ℕ := [6141, 6005, 5875]

def IsPostBCAcceptedClientBuild (build : ℕ) : Bool := PostBcAcceptedClientBuilds.contains build
def IsPreBCAcceptedClientBuild (build : ℕ) : Bool := PreBcAcceptedClientBuilds.contains build

def IsAcceptedClientBuild (build : ℕ) : Bool :=
  IsPostBCAcceptedClientBuild build || IsPreBCAcceptedClientBuild build

def expversion (build : ℕ) : ℕ :=
  if IsPostBCAcceptedClientBuild build then POST_BC_EXP_FLAG
  else if IsPreBCAcceptedClientBuild build then PRE_BC_EXP_FLAG
  else NO_VALID_EXP_FLAG

/-! ### The database -/

/-- A row of `account`; the hexadecimal texts are the numbers they stand for. A text of `sessionkey`
can be empty: there is no session. -/
structure Account where
  id : ℕ
  username : Bytes
  sha_pass_hash : ℕ
  sessionkey : Option ℕ
  v : ℕ
  s : ℕ
  token_key : Bytes
  locked : ℕ
  lock_country : Bytes
  last_ip : Bytes
  gmlevel : Option ℕ
  failed_logins : ℕ
  locale : ℕ
  os : Bytes
deriving DecidableEq, Repr

/-- A ban of an address or of an account. -/
structure Ban (α : Type) where
  whom : α
  bandate : ℕ
  unbandate : ℕ
  active : Bool
deriving DecidableEq, Repr

def Ban.expired {α : Type} (ban : Ban α) (now : ℕ) : Bool :=
  ban.unbandate != ban.bandate && decide (ban.unbandate ≤ now)

structure Database where
  accounts : List Account
  ip_banned : List (Ban Bytes)
  account_banned : List (Ban ℕ)
  ip2nation : List (ℕ × Bytes)
  /-- `UNIX_TIMESTAMP()` -/
  now : ℕ

structure Digest where
  bytes : Bytes
  length : bytes.length = 20

/-- What the login server takes from outside. -/
structure Environment where
  SHA1 : Bytes → Digest
  SetRand : ℕ → ℕ → ℕ
  GenerateToken : Bytes → ℕ → ℕ
  sameName : Bytes → Bytes → Bool
  inet_addr : Bytes → ℕ
  /-- Memory that has not been written. -/
  garbage : ℕ → UInt8
  realmList : ℕ → ℕ → ℕ → ℕ → Bytes
  MaxWrongPassCount : ℕ
  WrongPassBanTime : ℕ
  /-- The account is banned, not the address. -/
  WrongPassBanType : Bool

namespace Database

variable (env : Environment) (db : Database)

def account (name : Bytes) : Option Account :=
  db.accounts.find? fun account => env.sameName account.username name

def updateAccount (name : Bytes) (f : Account → Account) : Database :=
  { db with
    accounts := db.accounts.map fun account =>
      if env.sameName account.username name then f account else account }

def deleteExpiredIpBans : Database :=
  { db with ip_banned := db.ip_banned.filter fun ban => !ban.expired db.now }

def expireAccountBans : Database :=
  { db with
    account_banned := db.account_banned.map fun ban =>
      if ban.active ∧ ban.expired db.now then { ban with active := false } else ban }

/-- LOGIN_SEL_LOGON_COUNTRY: the country of the highest range that begins below the address. -/
def country (ip : ℕ) : Option Bytes :=
  (db.ip2nation.foldl (fun best range =>
    if range.1 < ip ∧ (best.all fun b => b.1 < range.1) then some range
    else best) none).map Prod.snd

def lock (address : Bytes) (account : Account) : Option AuthResult :=
  if account.locked = 1 then
    if account.last_ip ≠ address then some .WOW_FAIL_LOCKED_ENFORCED else none
  else if account.lock_country = [] ∨ account.lock_country = [0x30, 0x30] then none
  else
    match db.country (env.inet_addr address) with
    | none => none
    | some loginCountry =>
      if loginCountry ≠ account.lock_country then some .WOW_FAIL_UNLOCKABLE_LOCK else none

/-- The checks of a logon challenge: the account, or the answer if it is refused. -/
def admission (address login : Bytes) : Database × Except AuthResult Account :=
  let db := db.deleteExpiredIpBans
  if db.ip_banned.any fun ban => ban.whom == address then (db, .error .WOW_FAIL_BANNED)
  else
    match db.account env login with
    | none => (db, .error .WOW_FAIL_UNKNOWN_ACCOUNT)
    | some account =>
      match db.lock env address account with
      | some answer => (db, .error answer)
      | none =>
        let db := db.expireAccountBans
        match db.account_banned.find? fun ban => ban.whom == account.id && ban.active with
        | some ban =>
          (db, .error (if ban.bandate = ban.unbandate then .WOW_FAIL_BANNED
            else .WOW_FAIL_SUSPENDED))
        | none => (db, .ok account)

end Database

/-! ### The connection -/

def N : ℕ := 0x894B645E89E1535BBDAD5B8B290650530801B18EBFBF5E8FAB3C82872A3E9BB7
def g : ℕ := 7

def s_BYTE_SIZE : ℕ := 32
def SEC_PLAYER : ℕ := 0
def SEC_ADMINISTRATOR : ℕ := 3

/-- The values of the password exchange. -/
structure Srp where
  s : ℕ
  v : ℕ
  b : ℕ
  B : ℕ
deriving DecidableEq, Repr

structure AuthSocket where
  srp : Srp
  K : ℕ
  _reconnectProof : ℕ
  _authed : Bool
  _login : Bytes
  _tokenKey : Bytes
  _localizationName : Bytes
  _os : Bytes
  _build : ℕ
  _expversion : ℕ
  _accountSecurityLevel : ℕ
deriving DecidableEq, Repr

def AuthSocket.new : AuthSocket where
  srp := ⟨0, 0, 0, 0⟩
  K := 0
  _reconnectProof := 0
  _authed := false
  _login := []
  _tokenKey := []
  _localizationName := []
  _os := []
  _build := 0
  _expversion := NO_VALID_EXP_FLAG
  _accountSecurityLevel := SEC_PLAYER

/-- What the handlers have done, for the statements about them. -/
inductive Event where
  /-- A logon challenge has set the account's name; no answer if it was not understood. -/
  | challenge (login : Bytes) (answer : Option AuthResult) (srp : Option Srp)
  | reconnectChallenge (login : Bytes)
  /-- A logon proof has set `_authed`. -/
  | proof (login : Bytes) (srp : Srp)
  | reconnectProof (login : Bytes)
  /-- A token was sent and accepted. -/
  | token (login : Bytes)
  | realmList (login : Bytes)
deriving DecidableEq, Repr

/-- A connection and the database. -/
structure State where
  session : AuthSocket
  db : Database
  random : ℕ
  address : Bytes
  shut : Bool
  sent : List Bytes
  calls : List Bytes
  events : List Event

namespace State

variable (env : Environment) (st : State)

def connect (db : Database) (random : ℕ) (address : Bytes) : State where
  session := .new
  db := db
  random := random
  address := address
  shut := false
  sent := []
  calls := []
  events := []

/-- Nothing is sent after `shutdown`. -/
def send (bytes : Bytes) : State := if st.shut then st else { st with sent := st.sent ++ [bytes] }

def shutdown : State := { st with shut := true }

def note (event : Event) : State := { st with events := event :: st.events }

def rand (bits : ℕ) : ℕ × State :=
  (env.SetRand st.random bits, { st with random := st.random + 1 })

def withSession (f : AuthSocket → AuthSocket) : State := { st with session := f st.session }

variable {env st}

lemma send_eq (bytes : Bytes) : ∃ sent, st.send bytes = { st with sent := sent } := by
  rw [send]
  split
  · exact ⟨st.sent, rfl⟩
  · exact ⟨st.sent ++ [bytes], rfl⟩

@[simp] lemma send_shut (bytes : Bytes) : (st.send bytes).shut = st.shut := by
  obtain ⟨sent, hs⟩ := st.send_eq bytes
  rw [hs]

@[simp] lemma send_session (bytes : Bytes) : (st.send bytes).session = st.session := by
  obtain ⟨sent, hs⟩ := st.send_eq bytes
  rw [hs]

@[simp] lemma send_events (bytes : Bytes) : (st.send bytes).events = st.events := by
  obtain ⟨sent, hs⟩ := st.send_eq bytes
  rw [hs]

@[simp] lemma send_db (bytes : Bytes) : (st.send bytes).db = st.db := by
  obtain ⟨sent, hs⟩ := st.send_eq bytes
  rw [hs]

@[simp] lemma shutdown_shut : st.shutdown.shut = true := rfl

@[simp] lemma note_shut (event : Event) : (st.note event).shut = st.shut := rfl

@[simp] lemma note_session (event : Event) : (st.note event).session = st.session := rfl

@[simp] lemma note_events (event : Event) : (st.note event).events = event :: st.events := rfl

@[simp] lemma note_db (event : Event) : (st.note event).db = st.db := rfl

@[simp] lemma rand_shut (bits : ℕ) : (st.rand env bits).2.shut = st.shut := rfl

@[simp] lemma rand_session (bits : ℕ) : (st.rand env bits).2.session = st.session := rfl

@[simp] lemma rand_events (bits : ℕ) : (st.rand env bits).2.events = st.events := rfl

@[simp] lemma rand_db (bits : ℕ) : (st.rand env bits).2.db = st.db := rfl

section

variable (f : AuthSocket → AuthSocket)

@[simp] lemma withSession_shut : (st.withSession f).shut = st.shut := rfl

@[simp] lemma withSession_session : (st.withSession f).session = f st.session := rfl

@[simp] lemma withSession_events : (st.withSession f).events = st.events := rfl

@[simp] lemma withSession_db : (st.withSession f).db = st.db := rfl

end

end State

/-- `_SetVSFields`: a new salt, and the verifier of the password's hash. -/
def SetVSFields (env : Environment) (st : State) (rI : ℕ) : State :=
  let (s, st) := st.rand env (s_BYTE_SIZE * 8)
  let I := asBytes 0 rI
  let mDigest := (if I.length ≤ 20 then I ++ List.replicate (20 - I.length) 0
    else List.replicate 20 0).reverse
  let x := ofBytes (env.SHA1 (asBytes 0 s ++ mDigest)).bytes
  let v := modExp g x N
  { st with
    session := { st.session with srp := { st.session.srp with s := s, v := v } }
    db := st.db.updateAccount env st.session._login fun account => { account with v := v, s := s } }

/-! ### Packets -/

def sizeofChallenge : ℕ := 35

/-- The text that begins at an offset and ends before the next zero. -/
def cstring (buf : Bytes) (offset : ℕ) : Bytes := (buf.drop offset).takeWhile (· != 0)

structure Challenge where
  build : ℕ
  os : Bytes
  country : Bytes
  I : Bytes
deriving DecidableEq, Repr

def Challenge.parse (buf : Bytes) : Challenge where
  build := ofBytes ((buf.drop 11).take 2)
  os := cstring buf 17
  country := (buf.drop 21).take 4
  I := cstring buf 34

/-- The two `recv` of a challenge. The header is taken before the length of the rest is checked. -/
def recvChallenge (input : Bytes) : Bytes × Option Bytes :=
  if input.length < sizeofChallenge then (input, none)
  else
    let header := input.take 4
    let input := input.drop 4
    let remaining := ofBytes (header.drop 2)
    if remaining < sizeofChallenge - 4 ∨ input.length < remaining then (input, none)
    else (input.drop remaining, some (header ++ input.take remaining))

structure LogonProof where
  A : Bytes
  M1 : Bytes
  securityFlags : UInt8
deriving DecidableEq, Repr

def sizeofLogonProof : ℕ := 75

def LogonProof.parse (buf : Bytes) : LogonProof where
  A := (buf.drop 1).take 32
  M1 := (buf.drop 33).take 20
  securityFlags := (buf.drop 74).headD 0

structure ReconnectProof where
  R1 : Bytes
  R2 : Bytes
deriving DecidableEq, Repr

def sizeofReconnectProof : ℕ := 58

def ReconnectProof.parse (buf : Bytes) : ReconnectProof where
  R1 := (buf.drop 1).take 16
  R2 := (buf.drop 17).take 20

/-! ### Handlers -/

/-- What a handler leaves: the state, the rest of the input and its return value. -/
abbrev Handled := State × Bytes × Bool

/-- The fields that both challenges take from the packet after the account's name. -/
def AuthSocket.withClient (ch : Challenge) (a : AuthSocket) : AuthSocket :=
  { a with _build := ch.build, _expversion := expversion ch.build, _os := ch.os }

def securityLevel (account : Account) : ℕ := min (account.gmlevel.getD 0) SEC_ADMINISTRATOR

/-- The second half of a logon challenge that is not refused: the values of the exchange. -/
def State.exchange (env : Environment) (st : State) (account : Account) : State :=
  let st :=
    if numBytes account.v ≠ s_BYTE_SIZE ∨ numBytes account.s ≠ s_BYTE_SIZE then
      SetVSFields env st account.sha_pass_hash
    else st.withSession fun a => { a with srp := { a.srp with s := account.s, v := account.v } }
  let (b, st) := st.rand env (19 * 8)
  let gmod := modExp g b N
  st.withSession fun a => { a with srp := { a.srp with b := b, B := (a.srp.v * 3 + gmod) % N } }

def exchangeAnswer (build : ℕ) : AuthResult :=
  if IsAcceptedClientBuild build then .WOW_SUCCESS else .WOW_FAIL_VERSION_INVALID

def challengePacket (answer : AuthResult) (srp : Srp) (unk3 : ℕ) (tokenKey : Bytes) : Bytes :=
  let securityFlags : UInt8 := if tokenKey = [] then 0 else 4
  [0x00, 0x00, answer.code] ++ (asBytes 32 srp.B).take 32 ++ [1] ++ (asBytes 0 g).take 1 ++ [32] ++
    (asBytes 32 N).take 32 ++ asBytes 0 srp.s ++ (asBytes 16 unk3).take 16 ++ [securityFlags] ++
    (if securityFlags &&& 0x04 ≠ 0 then [1] else [])

/-- A logon challenge that has been read, and the return value of its handler. -/
def State.logonChallenge (env : Environment) (st : State) (buf : Bytes) : State × Bool :=
  let ch := Challenge.parse buf
  let st := st.withSession fun a => { a.withClient ch with _login := ch.I }
  if ch.os.length > 4 then (st.note (.challenge ch.I none none), false)
  else
    let st := st.withSession fun a => { a with _os := a._os.reverse }
    match st.db.admission env st.address ch.I with
    | (db, .error answer) =>
      let st := { st with db := db }.note (.challenge ch.I (some answer) none)
      (st.send [0x00, 0x00, answer.code], true)
    | (db, .ok account) =>
      let st := { st with db := db }.exchange env account
      let answer := exchangeAnswer ch.build
      let (unk3, st) := st.rand env (16 * 8)
      let st := st.withSession fun a =>
        { a with
          _tokenKey := account.token_key
          _accountSecurityLevel := securityLevel account
          _localizationName := ch.country.reverse }
      let st := st.note (.challenge ch.I (some answer) (some st.session.srp))
      (st.send (challengePacket answer st.session.srp unk3 account.token_key), true)

/-- A handler whose packet begins with an `sAuthLogonChallenge_C`. -/
def handleChallenge (body : Bytes → State × Bool) (st : State) (input : Bytes) : Handled :=
  match recvChallenge input with
  | (rest, none) => (st, rest, false)
  | (rest, some buf) => ((body buf).1, rest, (body buf).2)

def HandleLogonChallenge (env : Environment) (st : State) (input : Bytes) : Handled :=
  handleChallenge (st.logonChallenge env) st input

def interleave (first second : Bytes) : Bytes :=
  (List.range 20).flatMap fun i => [(first.drop i).headD 0, (second.drop i).headD 0]

/-- The session key that the server computes for the client's `A`. -/
@[irreducible] def sessionKey (env : Environment) (srp : Srp) (A : ℕ) : ℕ :=
  let u := ofBytes (env.SHA1 (asBytes 0 A ++ asBytes 0 srp.B)).bytes
  let S := modExp (A * modExp srp.v u N) srp.b N
  let t := (asBytes 32 S).take 32
  let half := fun odd => (List.range 16).map fun i => (t.drop (i * 2 + odd)).headD 0
  ofBytes (interleave (env.SHA1 (half 0)).bytes (env.SHA1 (half 1)).bytes)

@[irreducible] def proofDigest (env : Environment) (login : Bytes) (srp : Srp) (A K : ℕ) : Digest :=
  let hash := List.zipWith (· ^^^ ·) (env.SHA1 (asBytes 0 N)).bytes (env.SHA1 (asBytes 0 g)).bytes
  let t3 := ofBytes hash
  let t4 := (env.SHA1 login).bytes
  env.SHA1 (asBytes 0 t3 ++ t4 ++ asBytes 0 srp.s ++ asBytes 0 A ++ asBytes 0 srp.B ++ asBytes 0 K)

/-- `memcmp(M.AsByteArray().get(), lp.M1, 20)`, which reads on if `M` has fewer bytes. -/
def proofMatches (env : Environment) (digest : Digest) (M1 : Bytes) : Bool :=
  let M := asBytes 0 (ofBytes digest.bytes)
  (M ++ (List.range 20).map env.garbage).take 20 == M1

/-- `atoi`, as an unsigned number -/
def atoi (text : Bytes) : ℕ :=
  let text := text.dropWhile fun c => c = 0x20 ∨ (0x09 ≤ c ∧ c ≤ 0x0D)
  let negative := text.head? = some 0x2D
  let text := if text.head? = some 0x2D ∨ text.head? = some 0x2B then text.drop 1 else text
  let digits := text.takeWhile fun c => 0x30 ≤ c ∧ c ≤ 0x39
  let value := digits.foldl (fun n c => n * 10 + (c.toNat - 0x30)) 0
  if negative then (2 ^ 32 - min value (2 ^ 63) % 2 ^ 32) % 2 ^ 32
  else min value (2 ^ 63 - 1) % 2 ^ 32

/-- The two `recv` of a token. What is not received is read from memory that was not written. -/
def recvToken (env : Environment) (input : Bytes) : Bytes × Bytes :=
  let size := (input.headD (env.garbage 0)).toNat
  let rest := input.drop 1
  let (text, rest) := if rest.length < size then ((List.range size).map env.garbage, rest)
    else (rest.take size, rest.drop size)
  (text.takeWhile (· != 0), rest)

def proofPacket (expversion : ℕ) (M2 : Digest) : Bytes :=
  [0x01, 0] ++ M2.bytes ++
    (if expversion &&& POST_BC_EXP_FLAG ≠ 0 then toBytes 4 0x00800000 ++ toBytes 4 0 ++ toBytes 2 0
    else toBytes 4 0)

def failPacket : Bytes := [0x01, AuthResult.WOW_FAIL_UNKNOWN_ACCOUNT.code, 3, 0]

def localeNames : List String :=
  ["enUS", "koKR", "frFR", "deDE", "zhCN", "zhTW", "esES", "esMX", "ruRU", "itIT", "ptBR", "ptPT"]

def GetLocaleByName (name : Bytes) : ℕ :=
  (localeNames.findIdx? fun locale => locale.toUTF8.toList == name).getD 0

def State.storeKey (env : Environment) (st : State) (K : ℕ) : State :=
  let update := fun account : Account =>
    { account with
      sessionkey := some K
      last_ip := st.address
      locale := GetLocaleByName st.session._localizationName
      failed_logins := 0
      os := st.session._os }
  { st with db := st.db.updateAccount env st.session._login update }

def State.countFailure (env : Environment) (st : State) : State :=
  if env.MaxWrongPassCount > 0 then
    let db := st.db.updateAccount env st.session._login fun account =>
      { account with failed_logins := account.failed_logins + 1 }
    match db.account env st.session._login with
    | none => { st with db := db }
    | some account =>
      if account.failed_logins ≥ env.MaxWrongPassCount then
        let unbandate := db.now + env.WrongPassBanTime
        if env.WrongPassBanType then
          { st with
            db := { db with account_banned := db.account_banned ++
              [⟨account.id, db.now, unbandate, true⟩] } }
        else
          { st with
            db := { db with ip_banned := db.ip_banned ++
              [⟨st.address, db.now, unbandate, true⟩] } }
      else { st with db := db }
  else st

lemma State.countFailure_eq (env : Environment) (st : State) :
    ∃ db, st.countFailure env = { st with db := db } := by
  rw [countFailure]
  split
  · simp only
    split
    · exact ⟨_, rfl⟩
    · split
      · split <;> exact ⟨_, rfl⟩
      · exact ⟨_, rfl⟩
  · exact ⟨st.db, rfl⟩

def State.accept (env : Environment) (st : State) (digest : Digest) (A : ℕ) : State :=
  let M2 := env.SHA1 (asBytes 0 A ++ asBytes 0 (ofBytes digest.bytes) ++ asBytes 0 st.session.K)
  let st := st.send (proofPacket st.session._expversion M2)
  (st.withSession fun a => { a with _authed := true }).note
    (.proof st.session._login st.session.srp)

namespace LogonProof

variable (env : Environment) (lp : LogonProof) (a : AuthSocket)

def number : ℕ := ofBytes lp.A

def key : ℕ := sessionKey env a.srp lp.number

def digest : Digest := proofDigest env a._login a.srp lp.number (lp.key env a)

def right : Bool := proofMatches env (lp.digest env a) lp.M1

def asksToken : Bool := lp.securityFlags &&& 0x04 != 0 || a._tokenKey != []

end LogonProof

/-- A logon proof that has been read. If a token is needed, the client is not yet in; the session
key is stored before. -/
def State.logonProof (env : Environment) (st : State) (lp : LogonProof) : State × Bool :=
  let a := st.session
  if a._expversion = NO_VALID_EXP_FLAG ∨ lp.number = 0 then (st.shutdown, false)
  else
    let st := st.withSession fun a => { a with K := lp.key env a }
    if lp.right env a then
      let st := st.storeKey env (lp.key env a)
      if lp.asksToken a then (st, true) else (st.accept env (lp.digest env a) lp.number, false)
    else ((st.send failPacket).countFailure env, false)

def HandleLogonProof (env : Environment) (st : State) (input : Bytes) : Handled :=
  if input.length < sizeofLogonProof then (st, input, false)
  else
    let lp := LogonProof.parse (input.take sizeofLogonProof)
    let rest := input.drop sizeofLogonProof
    match st.logonProof env lp with
    | (t, false) => (t, rest, true)
    | (t, true) =>
      let (token, rest) := recvToken env rest
      if env.GenerateToken t.session._tokenKey t.db.now ≠ atoi token then
        (t.send failPacket, rest, false)
      else
        ((t.note (.token t.session._login)).accept env (lp.digest env st.session) lp.number,
          rest, true)

def reconnectPacket (reconnectProof : ℕ) : Bytes :=
  [0x02, 0x00] ++ (asBytes 16 reconnectProof).take 16 ++ toBytes 8 0 ++ toBytes 8 0

def State.reconnectChallenge (env : Environment) (st : State) (buf : Bytes) : State × Bool :=
  let ch := Challenge.parse buf
  let st := (st.withSession fun a => { a with _login := ch.I }).note (.reconnectChallenge ch.I)
  match st.db.account env ch.I with
  | none => (st.shutdown, false)
  | some account =>
    let st := st.withSession fun a => a.withClient ch
    if ch.os.length > 4 then (st, false)
    else
      let (reconnectProof, st) := st.rand env (16 * 8)
      let st := st.withSession fun a =>
        { a with
          _os := a._os.reverse
          _accountSecurityLevel := securityLevel account
          -- `BN_hex2bn` of an empty text leaves the number as it is
          K := account.sessionkey.getD a.K
          _reconnectProof := reconnectProof }
      (st.send (reconnectPacket reconnectProof), true)

def HandleReconnectChallenge (env : Environment) (st : State) (input : Bytes) : Handled :=
  handleChallenge (st.reconnectChallenge env) st input

def handleFixed (size : ℕ) (body : Bytes → State × Bool) (st : State) (input : Bytes) : Handled :=
  if input.length < size then (st, input, false)
  else ((body (input.take size)).1, input.drop size, (body (input.take size)).2)

def State.reconnectProof (env : Environment) (st : State) (buf : Bytes) : State × Bool :=
  let lp := ReconnectProof.parse buf
  let a := st.session
  if a._login = [] ∨ a._reconnectProof = 0 ∨ a.K = 0 then (st, false)
  else
    let t1 := ofBytes lp.R1
    let digest :=
      env.SHA1 (a._login ++ asBytes 0 t1 ++ asBytes 0 a._reconnectProof ++ asBytes 0 a.K)
    if digest.bytes = lp.R2 then
      let st := st.send ([0x03, 0x00] ++ toBytes 2 0)
      ((st.withSession fun a => { a with _authed := true }).note (.reconnectProof a._login), true)
    else (st.shutdown, false)

def HandleReconnectProof (env : Environment) (st : State) (input : Bytes) : Handled :=
  handleFixed sizeofReconnectProof (st.reconnectProof env) st input

def State.realmList (env : Environment) (st : State) : State × Bool :=
  match st.db.account env st.session._login with
  | none => (st.shutdown, false)
  | some account =>
    let realms := env.realmList account.id st.session._build st.session._expversion
      st.session._accountSecurityLevel
    ((st.note (.realmList st.session._login)).send realms, true)

def HandleRealmList (env : Environment) (st : State) (input : Bytes) : Handled :=
  handleFixed 5 (fun _ => st.realmList env) st input

/-- `_HandleXferAccept` and `_HandleXferResume`: there is never a patch. -/
def HandleXfer (_ : Environment) (st : State) (input : Bytes) : Handled := (st, input, false)

def HandleXferCancel (_ : Environment) (st : State) (input : Bytes) : Handled :=
  (st.shutdown, input.drop 1, true)

/-! ### The loop -/

inductive Command where
  | logonChallenge
  | logonProof
  | reconnectChallenge
  | reconnectProof
  | realmList
  | xferAccept
  | xferResume
  | xferCancel
deriving DecidableEq, Repr

def Command.handler : Command → Environment → State → Bytes → Handled
  | logonChallenge => HandleLogonChallenge
  | logonProof => HandleLogonProof
  | reconnectChallenge => HandleReconnectChallenge
  | reconnectProof => HandleReconnectProof
  | realmList => HandleRealmList
  | xferAccept => HandleXfer
  | xferResume => HandleXfer
  | xferCancel => HandleXferCancel

/-- The table of commands: the byte, and whether the connection has to be authed. -/
def table : List (UInt8 × Bool × Command) :=
  [(0x00, false, .logonChallenge), (0x01, false, .logonProof), (0x02, false, .reconnectChallenge),
    (0x03, false, .reconnectProof), (0x10, true, .realmList), (0x32, false, .xferAccept),
    (0x33, false, .xferResume), (0x34, false, .xferCancel)]

def command (cmd : UInt8) (authed : Bool) : Option Command :=
  (table.find? fun entry => entry.1 == cmd && (!entry.2.1 || authed)).map fun entry => entry.2.2

/-- One turn of the loop of `OnRead`, without the limit of challenges. -/
def turn (env : Environment) (st : State) (input : Bytes) : Turn State UInt8 :=
  match input with
  | [] => .stop st []
  | cmd :: _ =>
    match command cmd st.session._authed with
    | none => .stop st.shutdown input
    | some c =>
      match c.handler env st input with
      | (t, rest, true) =>
        .again { t with calls := t.calls ++ [input.take (input.length - rest.length)] } rest
      | (t, rest, false) => .stop t rest

def MAX_AUTH_LOGON_CHALLENGES_IN_A_ROW : ℕ := 3

/-- `OnRead`; a limit of the logon challenges shuts the connection. -/
def OnRead (env : Environment) (limit : Option ℕ) : ℕ → ℕ → State → Bytes → State × Bytes
  | 0, _, st, input => (st, input)
  | fuel + 1, challengesInARow, st, input =>
    let challengesInARow :=
      if input.head? = some 0x00 then challengesInARow + 1 else challengesInARow
    if input.head? = some 0x00 ∧ limit = some challengesInARow then (st.shutdown, input)
    else
      match turn env st input with
      | .again t rest => OnRead env limit fuel challengesInARow t rest
      | .stop t rest => (t, rest)

def handleInput (env : Environment) (limit : Option ℕ) (p : State × Bytes) (received : Bytes) :
    State × Bytes :=
  if p.1.shut then p
  else OnRead env limit ((p.2 ++ received).length + 1) 0 p.1 (p.2 ++ received)

end WorldServer.Auth
