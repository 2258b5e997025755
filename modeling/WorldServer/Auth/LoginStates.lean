import WorldServer.Lib.Run
import WorldServer.Auth.AuthSocket

/-!
# Whose login is accepted

The name of the account, the values of the password exchange and the mark of an accepted login are
separate fields of a connection. A proof is accepted for the account that passed the checks if the
last challenge and the last exchange are about the same account, and only then.
-/
namespace WorldServer.Auth

open WorldServer.Lib

variable {env : Environment} {st t : State} {input buf : Bytes} {proof : Prop}

/-! ### Histories -/

/-- The last logon challenge that went as far as an exchange: its account, its answer and the
values; the latest event comes first. -/
def producer : List Event → Option (Bytes × AuthResult × Srp)
  | [] => none
  | .challenge login (some answer) (some srp) :: _ => some (login, answer, srp)
  | _ :: older => producer older

def lastNamed : List Event → Bytes
  | [] => []
  | .challenge login _ _ :: _ => login
  | .reconnectChallenge login :: _ => login
  | _ :: older => lastNamed older

/-- The account of the last proof of either kind that was accepted. -/
def lastAccepted : List Event → Option Bytes
  | [] => none
  | .proof login _ :: _ => some login
  | .reconnectProof login :: _ => some login
  | _ :: older => lastAccepted older

/-- A logon proof is accepted with the values that a successful logon challenge for its account has
produced, and the realms are listed for the account whose proof was accepted. -/
def Sound : List Event → Prop
  | [] => True
  | .proof login srp :: older =>
    producer older = some (login, .WOW_SUCCESS, srp) ∧ Sound older
  | .realmList login :: older => lastAccepted older = some login ∧ Sound older
  | _ :: older => Sound older

/-! ### Actions -/

/-- What happens to a connection: bytes arrive, the loop of `OnRead` makes a turn, its limit shuts
the connection, and others write to the database. -/
inductive Action where
  | receive (bytes : Bytes)
  | turn
  | limit
  | database (db : Database)

def after : Turn State UInt8 → State × Bytes
  | .again t rest => (t, rest)
  | .stop t rest => (t, rest)

lemma after_again (t : State) (rest : Bytes) : after (.again t rest) = (t, rest) := rfl

def step (env : Environment) (p : State × Bytes) : Action → State × Bytes
  | .receive bytes => (p.1, p.2 ++ bytes)
  | .turn => after (turn env p.1 p.2)
  | .limit => (p.1.shutdown, p.2)
  | .database db => ({ p.1 with db := db }, p.2)

lemma OnRead_eq_run (env : Environment) (limit : Option ℕ) (fuel challengesInARow : ℕ)
    (st : State) (input : Bytes) :
    ∃ actions, OnRead env limit fuel challengesInARow st input =
      run (step env) (st, input) actions := by
  induction fuel generalizing challengesInARow st input with
  | zero => exact ⟨[], rfl⟩
  | succ fuel ih =>
    rw [OnRead]
    generalize (if input.head? = some 0x00 then challengesInARow + 1 else challengesInARow) = inARow
    split
    · exact ⟨[.limit], rfl⟩
    · cases taken : turn env st input with
      | stop t rest =>
        refine ⟨[.turn], ?_⟩
        rw [run_cons, step, taken]
        rfl
      | again t rest =>
        obtain ⟨actions, hs⟩ := ih inARow t rest
        refine ⟨.turn :: actions, ?_⟩
        rw [run_cons, step, taken]
        exact hs

lemma handleInput_eq_run (limit : Option ℕ) (p : State × Bytes) (received : Bytes) :
    ∃ actions, handleInput env limit p received = run (step env) p actions := by
  rw [handleInput]
  split
  · exact ⟨[], rfl⟩
  · obtain ⟨actions, hs⟩ := OnRead_eq_run env limit
      ((p.2 ++ received).length + 1) 0 p.1 (p.2 ++ received)
    exact ⟨.receive received :: actions, hs⟩

/-! ### What a turn does -/

/-- A reconnect proof is right for the connection's account. -/
def State.reconnects (env : Environment) (st : State) (lp : ReconnectProof) : Prop :=
  ¬ (st.session._login = [] ∨ st.session._reconnectProof = 0 ∨ st.session.K = 0) ∧
    (env.SHA1 (st.session._login ++ asBytes 0 (ofBytes lp.R1) ++
      asBytes 0 st.session._reconnectProof ++ asBytes 0 st.session.K)).bytes = lp.R2

/-- The connection's account and exchange, and the new event, if no logon proof is accepted and no
realms are listed. A reconnect proof is accepted only if `proof` holds. -/
inductive Moves (proof : Prop) (st t : State) : Prop
  | idle (events : t.events = st.events) (login : t.session._login = st.session._login)
      (srp : t.session.srp = st.session.srp)
  | challenged (login : Bytes) (answer : Option AuthResult)
      (events : t.events = .challenge login answer none :: st.events)
      (named : t.session._login = login) (srp : t.session.srp = st.session.srp)
  | exchanged (login : Bytes) (answer : AuthResult) (srp : Srp)
      (events : t.events = .challenge login (some answer) (some srp) :: st.events)
      (named : t.session._login = login) (produced : t.session.srp = srp)
  | reconnecting (login : Bytes) (events : t.events = .reconnectChallenge login :: st.events)
      (named : t.session._login = login) (srp : t.session.srp = st.session.srp)
  | reconnected (accepted : proof)
      (events : t.events = .reconnectProof st.session._login :: st.events)
      (login : t.session._login = st.session._login) (srp : t.session.srp = st.session.srp)

lemma Moves.mono {p q : Prop} (imp : p → q) (moves : Moves p st t) : Moves q st t := by
  cases moves with
  | idle events login srp => exact .idle events login srp
  | challenged login answer events named srp => exact .challenged login answer events named srp
  | exchanged login answer srp events named produced =>
    exact .exchanged login answer srp events named produced
  | reconnecting login events named srp => exact .reconnecting login events named srp
  | reconnected accepted events login srp =>
    exact .reconnected (imp accepted) events login srp

def ProofAccepted (env : Environment) (st : State) (input : Bytes) : Prop :=
  input.head? = some 0x01 ∧ sizeofLogonProof ≤ input.length ∧
    let lp := LogonProof.parse (input.take sizeofLogonProof)
    ¬ (st.session._expversion = NO_VALID_EXP_FLAG ∨ lp.number = 0) ∧
      lp.right env st.session = true ∧
      (lp.asksToken st.session = true → env.GenerateToken st.session._tokenKey st.db.now =
        atoi (recvToken env (input.drop sizeofLogonProof)).1)

def ReconnectAccepted (env : Environment) (st : State) (input : Bytes) : Prop :=
  input.head? = some 0x03 ∧ sizeofReconnectProof ≤ input.length ∧
    st.reconnects env (ReconnectProof.parse (input.take sizeofReconnectProof))

def RealmsListed (env : Environment) (st : State) (input : Bytes) : Prop :=
  input.head? = some 0x10 ∧ st.session._authed = true ∧ 5 ≤ input.length ∧
    (st.db.account env st.session._login).isSome = true

lemma RealmsListed.not_accepted (served : RealmsListed env st input) :
    ¬ ProofAccepted env st input ∧ ¬ ReconnectAccepted env st input := by
  constructor
  · intro accepted
    have first := accepted.1
    rw [served.1] at first
    cases first
  · intro accepted
    have first := accepted.1
    rw [served.1] at first
    cases first

namespace State

@[simp] lemma exchange_events (account : Account) :
    (st.exchange env account).events = st.events := by
  rw [exchange]
  by_cases stored : numBytes account.v ≠ s_BYTE_SIZE ∨ numBytes account.s ≠ s_BYTE_SIZE
  · simp [stored, SetVSFields]
  · simp [stored]

@[simp] lemma exchange_login (account : Account) :
    (st.exchange env account).session._login = st.session._login := by
  rw [exchange]
  by_cases stored : numBytes account.v ≠ s_BYTE_SIZE ∨ numBytes account.s ≠ s_BYTE_SIZE
  · simp [stored, SetVSFields]
  · simp [stored]

lemma logonChallenge_moves : Moves proof st (st.logonChallenge env buf).1 := by
  rw [logonChallenge]
  split
  · exact .challenged (Challenge.parse buf).I none rfl rfl rfl
  · simp only
    split
    next db answer _ =>
      apply Moves.challenged (Challenge.parse buf).I (some answer)
      · simp
      · simp
      · simp [AuthSocket.withClient]
    next db account _ =>
      refine .exchanged (Challenge.parse buf).I (exchangeAnswer (Challenge.parse buf).build) _
        ?_ ?_ rfl
      · simp
      · simp

lemma reconnectChallenge_moves : Moves proof st (st.reconnectChallenge env buf).1 := by
  rw [reconnectChallenge]
  split
  · exact .reconnecting _ rfl rfl rfl
  · split
    · exact .reconnecting _ rfl rfl rfl
    · apply Moves.reconnecting (Challenge.parse buf).I
      · simp
      · simp [AuthSocket.withClient]
      · simp [AuthSocket.withClient]

lemma reconnectProof_moves :
    Moves (st.reconnects env (ReconnectProof.parse buf)) st (st.reconnectProof env buf).1 := by
  rw [reconnectProof]
  simp only
  split
  · exact .idle rfl rfl rfl
  next ready =>
    split
    next right =>
      apply Moves.reconnected ⟨ready, right⟩
      · simp
      · simp
      · simp
    · exact .idle rfl rfl rfl

end State

/-- A logon proof has been accepted, perhaps after its token. -/
structure Proved (st t : State) : Prop where
  events : t.events = .proof st.session._login st.session.srp :: st.events ∨
    t.events = .proof st.session._login st.session.srp :: .token st.session._login :: st.events
  login : t.session._login = st.session._login
  srp : t.session.srp = st.session.srp

structure Listed (st t : State) : Prop where
  events : t.events = .realmList st.session._login :: st.events
  login : t.session._login = st.session._login
  srp : t.session.srp = st.session.srp

structure State.SameMoves (t' t : State) : Prop where
  events : t'.events = t.events
  session : t'.session = t.session

namespace State.SameMoves

variable {t' : State}

lemma moves (hs : t'.SameMoves t) (moves : Moves proof st t) :
    Moves proof st t' := by
  cases moves with
  | idle events login srp =>
    exact .idle (hs.events.trans events) (hs.session ▸ login) (hs.session ▸ srp)
  | challenged login answer events named srp =>
    exact .challenged login answer (hs.events.trans events) (hs.session ▸ named)
      (hs.session ▸ srp)
  | exchanged login answer srp events named produced =>
    exact .exchanged login answer srp (hs.events.trans events) (hs.session ▸ named)
      (hs.session ▸ produced)
  | reconnecting login events named srp =>
    exact .reconnecting login (hs.events.trans events) (hs.session ▸ named)
      (hs.session ▸ srp)
  | reconnected accepted events login srp =>
    exact .reconnected accepted (hs.events.trans events) (hs.session ▸ login)
      (hs.session ▸ srp)

lemma proved (hs : t'.SameMoves t) (proved : Proved st t) : Proved st t' where
  events := by
    rw [hs.events]
    exact proved.events
  login := hs.session ▸ proved.login
  srp := hs.session ▸ proved.srp

lemma listed (hs : t'.SameMoves t) (listed : Listed st t) : Listed st t' where
  events := hs.events.trans listed.events
  login := hs.session ▸ listed.login
  srp := hs.session ▸ listed.srp

end State.SameMoves

variable {lp : LogonProof} {cmd : UInt8}

lemma logonProof_unmoved (not : (st.session._expversion = NO_VALID_EXP_FLAG ∨ lp.number = 0) ∨
      lp.right env st.session = false ∨ lp.asksToken st.session = true) :
    (st.logonProof env lp).1.events = st.events ∧
      (st.logonProof env lp).1.session._login = st.session._login ∧
        (st.logonProof env lp).1.session.srp = st.session.srp := by
  rw [State.logonProof]
  simp only
  split
  · exact ⟨rfl, rfl, rfl⟩
  next valid =>
    split
    next right =>
      split
      · exact ⟨rfl, rfl, rfl⟩
      next silent =>
        rcases not with invalid | wrong | asks
        · exact absurd invalid valid
        · rw [wrong] at right
          cases right
        · exact absurd asks silent
    · obtain ⟨db, counted⟩ :=
        ((st.withSession fun a => { a with K := lp.key env a }).send failPacket).countFailure_eq env
      rw [counted]
      simp

/-- Whether a token is asked for; then nothing has changed that the token depends on. -/
lemma logonProof_asks (env : Environment) (st : State) (lp : LogonProof) :
    ((st.logonProof env lp).2 = true ↔
      ¬ (st.session._expversion = NO_VALID_EXP_FLAG ∨ lp.number = 0) ∧
        lp.right env st.session = true ∧ lp.asksToken st.session = true) ∧
    ((st.logonProof env lp).2 = true →
      (st.logonProof env lp).1.session._tokenKey = st.session._tokenKey ∧
        (st.logonProof env lp).1.db.now = st.db.now) := by
  rw [State.logonProof]
  split
  next invalid => simp [invalid]
  next valid =>
    split
    next right =>
      split
      next asks =>
        refine ⟨iff_of_true rfl ⟨valid, right, asks⟩, fun _ => ⟨rfl, rfl⟩⟩
      next silent =>
        constructor
        · exact iff_of_false Bool.false_ne_true fun asks => silent asks.2.2
        · exact fun asks => by cases asks
    next wrong =>
      constructor
      · exact iff_of_false Bool.false_ne_true fun asks => wrong asks.2.1
      · exact fun asks => by cases asks

lemma State.accept_proved (env : Environment) (st : State) (digest : Digest) (A : ℕ) :
    (st.accept env digest A).events = .proof st.session._login st.session.srp :: st.events ∧
      (st.accept env digest A).session._login = st.session._login ∧
        (st.accept env digest A).session.srp = st.session.srp := by
  rw [State.accept]
  simp

lemma logonProof_proved (valid : ¬ (st.session._expversion = NO_VALID_EXP_FLAG ∨ lp.number = 0))
    (right : lp.right env st.session = true) (silent : lp.asksToken st.session = false) :
    Proved st (st.logonProof env lp).1 := by
  rw [State.logonProof]
  simp only [valid, right, silent, if_false, if_true, Bool.false_eq_true]
  obtain ⟨events, login, srp⟩ := State.accept_proved env
    ((st.withSession fun a => { a with K := lp.key env a }).storeKey env (lp.key env st.session))
    (lp.digest env st.session) lp.number
  exact ⟨.inl events, login, srp⟩

section

variable (env st input)

lemma HandleLogonProof_moves (first : input.head? = some 0x01) :
    (ProofAccepted env st input ∧ Proved st (HandleLogonProof env st input).1) ∨
      (¬ ProofAccepted env st input ∧ Moves proof st (HandleLogonProof env st input).1) := by
  by_cases short : input.length < sizeofLogonProof
  · right
    refine ⟨fun accepted => absurd accepted.2.1 (Nat.not_le.mpr short), ?_⟩
    rw [HandleLogonProof, if_pos short]
    exact .idle rfl rfl rfl
  · have long := Nat.not_lt.mp short
    rw [HandleLogonProof, if_neg short]
    generalize isLp : LogonProof.parse (input.take sizeofLogonProof) = lp
    have asks := logonProof_asks env st lp
    have unmoved := @logonProof_unmoved env st lp
    have proved := @logonProof_proved env st lp
    simp only
    rcases result : st.logonProof env lp with ⟨t, asked⟩
    rw [result] at asks unmoved proved
    cases asked with
    | false =>
      by_cases accepted : ProofAccepted env st input
      · left
        refine ⟨accepted, ?_⟩
        obtain ⟨_, _, conditions⟩ := accepted
        rw [isLp] at conditions
        apply proved conditions.1 conditions.2.1
        by_contra asking
        have asked := asks.1.mpr ⟨conditions.1, conditions.2.1, by simpa using asking⟩
        cases asked
      · right
        refine ⟨accepted, ?_⟩
        have not : (st.session._expversion = NO_VALID_EXP_FLAG ∨ lp.number = 0) ∨
            lp.right env st.session = false ∨ lp.asksToken st.session = true := by
          by_contra all
          obtain ⟨valid, notWrong⟩ := not_or.mp all
          obtain ⟨right, silent⟩ := not_or.mp notWrong
          apply accepted
          refine ⟨first, long, ?_⟩
          rw [isLp]
          exact ⟨valid, by simpa using right, fun asking => absurd asking silent⟩
        obtain ⟨events, login, srp⟩ := unmoved not
        exact .idle events login srp
    | true =>
      obtain ⟨⟨valid, right, asking⟩, tokenKey, now⟩ := And.intro (asks.1.mp rfl) (asks.2 rfl)
      obtain ⟨events, login, srp⟩ := unmoved (.inr (.inr asking))
      simp only at events login srp tokenKey now ⊢
      by_cases token : env.GenerateToken t.session._tokenKey t.db.now =
          atoi (recvToken env (input.drop sizeofLogonProof)).1
      · left
        rw [if_neg (not_not_intro token)]
        rw [tokenKey, now] at token
        constructor
        · refine ⟨first, long, ?_⟩
          rw [isLp]
          exact ⟨valid, right, fun _ => token⟩
        · obtain ⟨events', login', srp'⟩ := State.accept_proved env
            (t.note (.token t.session._login)) (lp.digest env st.session) lp.number
          refine ⟨.inr ?_, login'.trans login, srp'.trans srp⟩
          rw [events', State.note_session, State.note_events, events, login, srp]
      · right
        rw [if_pos token]
        rw [tokenKey, now] at token
        constructor
        · rintro ⟨_, _, conditions⟩
          rw [isLp] at conditions
          exact token (conditions.2.2 asking)
        · apply Moves.idle
          · exact (State.send_events _).trans events
          · rw [State.send_session]
            exact login
          · rw [State.send_session]
            exact srp

lemma HandleRealmList_moves (first : input.head? = some 0x10) (authed : st.session._authed = true) :
    (RealmsListed env st input ∧ Listed st (HandleRealmList env st input).1) ∨
      (¬ RealmsListed env st input ∧ Moves proof st (HandleRealmList env st input).1) := by
  by_cases short : input.length < 5
  · right
    refine ⟨fun listed => absurd listed.2.2.1 (Nat.not_le.mpr short), ?_⟩
    rw [HandleRealmList, handleFixed, if_pos short]
    exact .idle rfl rfl rfl
  · rw [HandleRealmList, handleFixed, if_neg short]
    rw [State.realmList]
    cases hf : st.db.account env st.session._login with
    | none =>
      right
      refine ⟨fun listed => ?_, .idle rfl rfl rfl⟩
      have known := listed.2.2.2
      rw [hf] at known
      cases known
    | some account =>
      left
      refine ⟨⟨first, authed, Nat.not_lt.mp short, by rw [hf]; rfl⟩, ?_, ?_, ?_⟩
      · simp
      · simp
      · simp

end

lemma handleChallenge_moves {body : Bytes → State × Bool}
    (moves : ∀ buf, Moves proof st (body buf).1) :
    Moves proof st (handleChallenge body st input).1 := by
  rw [handleChallenge]
  split
  · exact .idle rfl rfl rfl
  · exact moves _

lemma HandleReconnectProof_moves (env : Environment) (st : State) (input : Bytes)
    (first : input.head? = some 0x03) :
    Moves (ReconnectAccepted env st input) st (HandleReconnectProof env st input).1 := by
  rw [HandleReconnectProof, handleFixed]
  split
  · exact .idle rfl rfl rfl
  next long =>
    exact State.reconnectProof_moves.mono fun right => ⟨first, Nat.not_lt.mp long, right⟩

def Command.byte : Command → UInt8
  | logonChallenge => 0x00
  | logonProof => 0x01
  | reconnectChallenge => 0x02
  | reconnectProof => 0x03
  | realmList => 0x10
  | xferAccept => 0x32
  | xferResume => 0x33
  | xferCancel => 0x34

lemma command_spec {authed : Bool} {c : Command} (hf : command cmd authed = some c) :
    cmd = c.byte ∧ (c = .realmList → authed = true) := by
  rw [command, Option.map_eq_some_iff] at hf
  obtain ⟨⟨cmd', needed, c'⟩, is, rfl⟩ := hf
  have hm := List.mem_of_find?_eq_some is
  have holds := List.find?_some is
  rw [Bool.and_eq_true, beq_iff_eq] at holds
  obtain ⟨rfl, allowed⟩ := holds
  have entries : ∀ entry ∈ table,
      entry.1 = entry.2.2.byte ∧ (entry.2.2 = .realmList → entry.2.1 = true) := by decide
  obtain ⟨byte, isNeeded⟩ := entries _ hm
  refine ⟨byte, fun isList => ?_⟩
  rw [show needed = true from isNeeded isList] at allowed
  simpa using allowed

inductive Turned (env : Environment) (st : State) (input : Bytes) (t : State) : Prop
  | proved (accepted : ProofAccepted env st input) (proved : Proved st t)
  | listed (served : RealmsListed env st input) (listed : Listed st t)
  | others (noProof : ¬ ProofAccepted env st input) (noRealms : ¬ RealmsListed env st input)
      (moves : Moves (ReconnectAccepted env st input) st t)

lemma State.SameMoves.turned {t' : State} (hs : t'.SameMoves t)
    (turned : Turned env st input t) : Turned env st input t' := by
  cases turned with
  | proved accepted proved => exact .proved accepted (hs.proved proved)
  | listed served listed => exact .listed served (hs.listed listed)
  | others noProof noRealms moves => exact .others noProof noRealms (hs.moves moves)

lemma turned_of_other {tail : Bytes} (notProof : cmd ≠ 0x01) (notRealms : cmd ≠ 0x10)
    (moves : Moves (ReconnectAccepted env st (cmd :: tail)) st t) :
    Turned env st (cmd :: tail) t := by
  apply Turned.others
  · exact fun accepted => notProof (Option.some.inj accepted.1)
  · exact fun served => notRealms (Option.some.inj served.1)
  · exact moves

lemma handler_turned (env : Environment) (st : State) (c : Command) (tail : Bytes)
    (allowed : c = .realmList → st.session._authed = true) :
    Turned env st (c.byte :: tail) (c.handler env st (c.byte :: tail)).1 := by
  cases c with
  | logonChallenge =>
    apply turned_of_other (by decide) (by decide)
    exact handleChallenge_moves fun _ => State.logonChallenge_moves
  | logonProof =>
    rcases HandleLogonProof_moves env st (_ :: tail) rfl with ⟨accepted, proved⟩ | ⟨not, moves⟩
    · exact .proved accepted proved
    · exact .others not (fun served => (by cases served.1)) moves
  | reconnectChallenge =>
    apply turned_of_other (by decide) (by decide)
    exact handleChallenge_moves fun _ => State.reconnectChallenge_moves
  | reconnectProof =>
    apply turned_of_other (by decide) (by decide)
    exact HandleReconnectProof_moves env st (_ :: tail) rfl
  | realmList =>
    rcases HandleRealmList_moves env st (_ :: tail) rfl (allowed rfl) with
      ⟨served, listed⟩ | ⟨not, moves⟩
    · exact .listed served listed
    · exact .others (fun accepted => (by cases accepted.1)) not moves
  | xferAccept => exact turned_of_other (by decide) (by decide) (.idle rfl rfl rfl)
  | xferResume => exact turned_of_other (by decide) (by decide) (.idle rfl rfl rfl)
  | xferCancel => exact turned_of_other (by decide) (by decide) (.idle rfl rfl rfl)

/-- A turn with a command of the table does what its handler does; only the list of calls grows. -/
lemma after_turn (env : Environment) {c : Command}
    (hf : command cmd st.session._authed = some c) (tail : Bytes) :
    ∃ calls, (after (turn env st (cmd :: tail))).1 =
      { (c.handler env st (cmd :: tail)).1 with calls := calls } := by
  rw [turn, hf]
  simp only
  rcases c.handler env st (cmd :: tail) with ⟨t, rest, ok⟩
  cases ok with
  | true => exact ⟨_, rfl⟩
  | false => exact ⟨t.calls, rfl⟩

lemma turn_turned (env : Environment) (st : State) (input : Bytes) :
    Turned env st input (after (turn env st input)).1 := by
  cases input with
  | nil =>
    apply Turned.others
    · exact fun accepted => (by cases accepted.1)
    · exact fun served => (by cases served.1)
    · exact .idle rfl rfl rfl
  | cons cmd tail =>
    cases hf : command cmd st.session._authed with
    | none =>
      rw [turn, hf]
      refine .others (fun accepted => ?_) (fun served => ?_) (.idle rfl rfl rfl)
      · obtain rfl : cmd = 0x01 := Option.some.inj accepted.1
        cases authed : st.session._authed <;> rw [authed] at hf <;> cases hf
      · obtain rfl : cmd = 0x10 := Option.some.inj served.1
        rw [served.2.1] at hf
        cases hf
    | some c =>
      obtain ⟨calls, hs⟩ := after_turn env hf tail
      obtain ⟨rfl, allowed⟩ := command_spec hf
      have turned := handler_turned env st c tail allowed
      rw [hs]
      have sameMoves : State.SameMoves { (c.handler env st (c.byte :: tail)).1 with calls := calls }
          (c.handler env st (c.byte :: tail)).1 := ⟨rfl, rfl⟩
      exact sameMoves.turned turned

/-! ### Runs -/

/-- The fields of a connection are those that its history gives, and every acceptance was right. -/
structure Kept (p : State × Bytes) : Prop where
  login : p.1.session._login = lastNamed p.1.events
  srp : p.1.session.srp = (producer p.1.events).elim ⟨0, 0, 0, 0⟩ fun produced => produced.2.2
  sound : Sound p.1.events

/-- If a proof is accepted, the last exchange was for the account that the last challenge named, and
was answered with success; if the realms are listed, that account's proof was accepted. -/
def Agree (env : Environment) (p : State × Bytes) : Action → Prop
  | .turn =>
    (ProofAccepted env p.1 p.2 →
      ∃ srp, producer p.1.events = some (lastNamed p.1.events, .WOW_SUCCESS, srp)) ∧
    (RealmsListed env p.1 p.2 → lastAccepted p.1.events = some (lastNamed p.1.events))
  | _ => True

lemma Kept.connect (db : Database) (random : ℕ) (address : Bytes) :
    Kept (.connect db random address, []) := ⟨rfl, rfl, trivial⟩

namespace Kept

variable {p : State × Bytes}
variable (kept : Kept p)
include kept

lemma moves (moves : Moves proof p.1 t) (rest : Bytes) : Kept (t, rest) := by
  cases moves with
  | idle events login srp =>
    constructor
    · rw [login, events]
      exact kept.login
    · rw [srp, events]
      exact kept.srp
    · rw [events]
      exact kept.sound
  | challenged login answer events named srp =>
    constructor
    · rw [named, events]
      rfl
    · rw [srp, events]
      cases answer <;> exact kept.srp
    · rw [events]
      exact kept.sound
  | exchanged login answer srp events named produced =>
    constructor
    · rw [named, events]
      rfl
    · rw [produced, events]
      rfl
    · rw [events]
      exact kept.sound
  | reconnecting login events named srp =>
    constructor
    · rw [named, events]
      rfl
    · rw [srp, events]
      exact kept.srp
    · rw [events]
      exact kept.sound
  | reconnected _ events login srp =>
    constructor
    · rw [login, events]
      exact kept.login
    · rw [srp, events]
      exact kept.srp
    · rw [events]
      exact kept.sound

lemma proved_iff (proved : Proved p.1 t) :
    Sound t.events ↔
      ∃ srp, producer p.1.events = some (lastNamed p.1.events, .WOW_SUCCESS, srp) := by
  -- the token leaves no trace in what `producer` and `lastNamed` read
  have sound : Sound t.events ↔
      producer p.1.events = some (p.1.session._login, .WOW_SUCCESS, p.1.session.srp) ∧
        Sound p.1.events := by
    rcases proved.events with events | events <;> rw [events] <;> rfl
  rw [sound, kept.login]
  constructor
  · exact fun produced => ⟨p.1.session.srp, produced.1⟩
  · rintro ⟨srp, produced⟩
    have hs : p.1.session.srp = srp := by
      rw [kept.srp, produced]
      rfl
    rw [hs]
    exact ⟨produced, kept.sound⟩

lemma proved (proved : Proved p.1 t) (sound : Sound t.events) (rest : Bytes) :
    Kept (t, rest) := by
  constructor
  · rw [proved.login, kept.login]
    rcases proved.events with events | events <;> rw [events] <;> rfl
  · rw [proved.srp, kept.srp]
    rcases proved.events with events | events <;> rw [events] <;> rfl
  · exact sound

lemma listed_iff (listed : Listed p.1 t) :
    Sound t.events ↔ lastAccepted p.1.events = some (lastNamed p.1.events) := by
  rw [listed.events, Sound, kept.login, and_iff_left kept.sound]

lemma listed (listed : Listed p.1 t) (sound : Sound t.events) (rest : Bytes) :
    Kept (t, rest) := by
  constructor
  · rw [listed.login, kept.login, listed.events]
    rfl
  · rw [listed.srp, kept.srp, listed.events]
    rfl
  · exact sound

lemma sound_iff_agree (a : Action) : Sound (step env p a).1.events ↔ Agree env p a := by
  cases a with
  | receive bytes => exact iff_of_true kept.sound trivial
  | limit => exact iff_of_true kept.sound trivial
  | database db => exact iff_of_true kept.sound trivial
  | turn =>
    rw [step, Agree]
    cases turn_turned env p.1 p.2 with
    | proved accepted proved =>
      have notListed : ¬ RealmsListed env p.1 p.2 := fun served => served.not_accepted.1 accepted
      rw [kept.proved_iff proved]
      constructor
      · exact fun produced => ⟨fun _ => produced, fun served => absurd served notListed⟩
      · exact fun agree => agree.1 accepted
    | listed served listed =>
      have notAccepted := served.not_accepted.1
      rw [kept.listed_iff listed]
      constructor
      · exact fun last => ⟨fun accepted => absurd accepted notAccepted, fun _ => last⟩
      · exact fun agree => agree.2 served
    | others noProof noRealms moves =>
      apply iff_of_true (kept.moves moves []).sound
      exact ⟨fun accepted => absurd accepted noProof, fun served => absurd served noRealms⟩

lemma step {a : Action} (agree : Agree env p a) : Kept (step env p a) := by
  have sound := (kept.sound_iff_agree a).mpr agree
  cases a with
  | receive bytes => exact ⟨kept.login, kept.srp, kept.sound⟩
  | limit => exact ⟨kept.login, kept.srp, kept.sound⟩
  | database db => exact ⟨kept.login, kept.srp, kept.sound⟩
  | turn =>
    cases turn_turned env p.1 p.2 with
    | proved _ proved => exact kept.proved proved sound _
    | listed _ listed => exact kept.listed listed sound _
    | others _ _ moves => exact kept.moves moves _

end Kept

/-- On a new connection, whatever is received and whatever is written to the database: each proof is
accepted with the values of a successful challenge for its account, and each list of realms is
served to the account that was accepted, if and only if every turn agrees with the challenges
before. -/
theorem login_states (env : Environment) (db : Database) (random : ℕ) (address : Bytes)
    (actions : List Action) :
    Along (step env) (fun p a => Sound (step env p a).1.events) (.connect db random address, [])
        actions ↔
      Along (step env) (Agree env) (.connect db random address, []) actions := by
  apply along_iff_of_invariant Kept
  · exact fun _ _ kept agree => kept.step agree
  · exact fun _ a kept => kept.sound_iff_agree a
  · exact Kept.connect db random address

def uniform : Environment where
  SHA1 _ := ⟨List.replicate 20 1, rfl⟩
  SetRand _ _ := 1
  GenerateToken _ _ := 0
  sameName name name' := name == name'
  inet_addr _ := 0
  garbage _ := 0
  realmList _ _ _ _ := []
  MaxWrongPassCount := 0
  WrongPassBanTime := 600
  WrongPassBanType := false

lemma right_uniform (a : AuthSocket) (M1 : lp.M1 = List.replicate 20 1) :
    lp.right uniform a = true := by
  have digest : lp.digest uniform a = ⟨List.replicate 20 1, rfl⟩ := by
    rw [LogonProof.digest, proofDigest]
    rfl
  rw [LogonProof.right, proofMatches, digest, asBytes_ofBytes (by decide) (by decide), M1]
  decide

/-- A challenge with the build 18414 for the account AB, and a proof. -/
def challengeThenProof : Bytes :=
  [0x00, 0x08, 32, 0, 0x57, 0x6F, 0x57, 0, 5, 4, 8, 0xEE, 0x47, 0x36, 0x38, 0x78, 0, 0x6E, 0x69,
    0x57, 0, 0x53, 0x55, 0x6E, 0x65, 0, 0, 0, 0, 127, 0, 0, 1, 2, 0x41, 0x42] ++
  [0x01] ++ List.replicate 32 1 ++ List.replicate 20 1 ++ List.replicate 22 0

/-- A proof is accepted after a challenge for an account that does not exist. -/
theorem not_login_states : ¬ ∀ (env : Environment) (db : Database) (random : ℕ) (address : Bytes)
    (actions : List Action),
    Along (step env) (fun p a => Sound (step env p a).1.events) (.connect db random address, [])
      actions := by
  intro law
  have along := law uniform ⟨[], [], [], [], 0⟩ 0 [] [.receive challengeThenProof, .turn, .turn]
  obtain ⟨_, _, sound, _⟩ := along
  have agreeing : Along (step uniform) (Agree uniform)
      (.connect ⟨[], [], [], [], 0⟩ 0 [], []) [.receive challengeThenProof, .turn] := by
    refine ⟨trivial, ⟨fun accepted => ?_, fun listed => ?_⟩, trivial⟩
    · cases accepted.1
    · cases listed.1
  have kept := run_invariant Kept (fun _ _ kept agree => Kept.step kept agree)
    (Kept.connect ⟨[], [], [], [], 0⟩ 0 []) agreeing
  obtain ⟨srp, produced⟩ := ((kept.sound_iff_agree .turn).mp sound).1 <| by
    refine ⟨rfl, by decide, by decide, right_uniform _ rfl, fun asks => ?_⟩
    revert asks
    decide
  revert produced
  exact nofun

end WorldServer.Auth
