import WorldServer.Auth.LoginStates

/-!
# The second factor

An account with a token key should need a token. The key of the session is stored before the token
is asked for, and whether it is asked for depends on the last exchange of the connection, not on the
account; a reconnect proof is checked with whatever key the connection has, which is that of another
account if the named one has no session. A client without a token gets in with two packets that need
no secret at all.
-/
namespace WorldServer.Auth

open WorldServer.Lib

variable {env : Environment} {st t : State} {input buf username : Bytes}

/-! ### Session keys in the database -/

variable {account : Account}

namespace Database

variable {db : Database}

def sessionKeyOf (db : Database) (username : Bytes) : Option (Option ℕ) :=
  (db.accounts.find? fun account => account.username == username).map Account.sessionkey

variable {f : Account → Account}

lemma find?_map_username (named : ∀ a, (f a).username = a.username) (q : Bytes → Bool)
    (accounts : List Account) :
    (accounts.map f).find? (fun a => q a.username) =
      (accounts.find? fun a => q a.username).map f := by
  induction accounts with
  | nil => rfl
  | cons a accounts ih =>
    rw [List.map_cons, List.find?_cons, List.find?_cons, named]
    cases q a.username with
    | true => rfl
    | false => exact ih

lemma sessionKeyOf_updateAccount {name : Bytes} (named : ∀ a, (f a).username = a.username) :
    (db.updateAccount env name f).sessionKeyOf username =
      (db.accounts.find? fun a => a.username == username).map fun a =>
        if env.sameName username name then (f a).sessionkey else a.sessionkey := by
  rw [sessionKeyOf, updateAccount]
  rw [find?_map_username (fun a => by split <;> simp [named]) (· == username), Option.map_map]
  cases found : db.accounts.find? fun a => a.username == username with
  | none => rfl
  | some a =>
    have isNamed : a.username = username := by simpa using List.find?_some found
    rw [Option.map_some, Option.map_some, Function.comp_apply, isNamed]
    split <;> rfl

lemma sessionKeyOf_updateAccount_of_key {name : Bytes} (named : ∀ a, (f a).username = a.username)
    (key : ∀ a, (f a).sessionkey = a.sessionkey) :
    (db.updateAccount env name f).sessionKeyOf username = db.sessionKeyOf username := by
  rw [sessionKeyOf_updateAccount named, sessionKeyOf]
  congr 1
  funext a
  rw [key, ite_self]

lemma sameName_of_account {name : Bytes} (found : db.account env name = some account) :
    env.sameName account.username name = true := by
  have hs := List.find?_some found
  simpa using hs

lemma sessionKeyOf_account {name : Bytes} (found : db.account env name = some account) :
    db.sessionKeyOf account.username = some account.sessionkey := by
  rw [Database.account] at found
  rw [sessionKeyOf]
  generalize db.accounts = accounts at found
  induction accounts with
  | nil => cases found
  | cons a accounts ih =>
    rw [List.find?_cons] at found ⊢
    cases hs : env.sameName a.username name with
    | true =>
      rw [hs] at found
      cases found
      simp
    | false =>
      rw [hs] at found
      have other : (a.username == account.username) = false := by
        rw [beq_eq_false_iff_ne]
        intro equal
        have isSame := List.find?_some found
        rw [← equal, hs] at isSame
        cases isSame
      rw [other]
      exact ih found

lemma sessionKeyOf_congr {db' : Database} (hs : db'.accounts = db.accounts) :
    db'.sessionKeyOf username = db.sessionKeyOf username := by
  rw [sessionKeyOf, sessionKeyOf, hs]

/-- The stored session key is none of the `known` ones. -/
def Unknown (known : ℕ → Prop) (username : Bytes) (db : Database) : Prop :=
  ∀ key, db.sessionKeyOf username = some (some key) → ¬ known key

lemma admission_accounts (env : Environment) (db : Database) (address login : Bytes) :
    (db.admission env address login).1.accounts = db.accounts := by
  rw [admission]
  simp only
  split
  · rfl
  · split
    · rfl
    · split
      · rfl
      · split <;> rfl

end Database

/-! ### What changes the session key of an account -/

def PasswordRight (env : Environment) (st : State) (input : Bytes) : Prop :=
  input.head? = some 0x01 ∧ sizeofLogonProof ≤ input.length ∧
    let lp := LogonProof.parse (input.take sizeofLogonProof)
    ¬ (st.session._expversion = NO_VALID_EXP_FLAG ∨ lp.number = 0) ∧
      lp.right env st.session = true

lemma ProofAccepted.passwordRight (accepted : ProofAccepted env st input) :
    PasswordRight env st input := by
  obtain ⟨first, long, valid, right, _⟩ := accepted
  exact ⟨first, long, valid, right⟩

namespace State

/-- The session key of an account is the same. -/
def KeepsKey (username : Bytes) (st t : State) : Prop :=
  t.db.sessionKeyOf username = st.db.sessionKeyOf username

lemma exchange_keepsKey (account : Account) : KeepsKey username st (st.exchange env account) := by
  rw [exchange]
  by_cases stored : numBytes account.v ≠ s_BYTE_SIZE ∨ numBytes account.s ≠ s_BYTE_SIZE
  · simp only [stored, if_true, KeepsKey, withSession_db, rand_db, SetVSFields]
    exact Database.sessionKeyOf_updateAccount_of_key (fun _ => rfl) fun _ => rfl
  · simp [stored, KeepsKey]

lemma logonChallenge_keepsKey : KeepsKey username st (st.logonChallenge env buf).1 := by
  rw [logonChallenge]
  split
  · rfl
  · have accounts := Database.admission_accounts env st.db st.address (Challenge.parse buf).I
    simp only
    split
    next db answer refused =>
      replace refused : st.db.admission env st.address (Challenge.parse buf).I = _ := refused
      rw [refused] at accounts
      rw [KeepsKey, send_db, note_db]
      exact Database.sessionKeyOf_congr accounts
    next db account admitted =>
      replace admitted : st.db.admission env st.address (Challenge.parse buf).I = _ := admitted
      rw [admitted] at accounts
      rw [KeepsKey, send_db, note_db, withSession_db, rand_db, exchange_keepsKey]
      exact Database.sessionKeyOf_congr accounts

lemma reconnectChallenge_keepsKey : KeepsKey username st (st.reconnectChallenge env buf).1 := by
  rw [reconnectChallenge]
  split
  · rfl
  · split
    · rfl
    · simp [KeepsKey]

lemma reconnectProof_keepsKey : KeepsKey username st (st.reconnectProof env buf).1 := by
  rw [reconnectProof]
  simp only
  split
  · rfl
  · split
    · simp [KeepsKey]
    · rfl

lemma realmList_keepsKey : KeepsKey username st (st.realmList env).1 := by
  rw [realmList]
  split
  · rfl
  · simp [KeepsKey]

lemma countFailure_keepsKey : KeepsKey username st (st.countFailure env) := by
  have counted : (st.db.updateAccount env st.session._login fun account =>
      { account with failed_logins := account.failed_logins + 1 }).sessionKeyOf username =
        st.db.sessionKeyOf username :=
    Database.sessionKeyOf_updateAccount_of_key (fun _ => rfl) fun _ => rfl
  rw [countFailure]
  split
  · simp only
    split
    · exact counted
    · split
      · split <;> exact counted
      · exact counted
  · rfl

lemma accept_db (digest : Digest) (A : ℕ) : (st.accept env digest A).db = st.db := by
  simp [accept]

lemma logonProof_db (lp : LogonProof)
    (valid : ¬ (st.session._expversion = NO_VALID_EXP_FLAG ∨ lp.number = 0))
    (right : lp.right env st.session = true) :
    (st.logonProof env lp).1.db = (st.storeKey env (lp.key env st.session)).db := by
  rw [logonProof]
  simp only [valid, right, if_false, if_true]
  split
  · rfl
  · rw [accept_db]
    rfl

lemma storeKey_sessionKeyOf (K : ℕ) :
    (st.storeKey env K).db.sessionKeyOf username =
      if env.sameName username st.session._login = true then
        (st.db.sessionKeyOf username).map fun _ => some K
      else st.db.sessionKeyOf username := by
  apply (Database.sessionKeyOf_updateAccount _).trans
  · split
    · rw [Database.sessionKeyOf, Option.map_map]
      rfl
    · rfl
  · exact fun _ => rfl

end State

section

variable (env st input)

lemma HandleLogonProof_db :
    (HandleLogonProof env st input).1.db =
      if input.length < sizeofLogonProof then st.db
      else (st.logonProof env (LogonProof.parse (input.take sizeofLogonProof))).1.db := by
  rw [HandleLogonProof]
  split
  · rfl
  · simp only
    rcases st.logonProof env (LogonProof.parse (input.take sizeofLogonProof)) with ⟨t, asked⟩
    cases asked with
    | false => rfl
    | true =>
      simp only
      split
      · rw [State.send_db]
      · rw [State.accept_db, State.note_db]

/-- The handler of a logon proof changes the session key of an account only if the password is
right. -/
lemma HandleLogonProof_keepsKey (username : Bytes) (first : input.head? = some 0x01) :
    State.KeepsKey username st (HandleLogonProof env st input).1 ∨
      (PasswordRight env st input ∧ env.sameName username st.session._login = true) := by
  rw [State.KeepsKey, HandleLogonProof_db]
  split
  · exact .inl rfl
  next enough =>
    have long := Nat.not_lt.mp enough
    generalize isLp : LogonProof.parse (input.take sizeofLogonProof) = lp
    by_cases invalid : st.session._expversion = NO_VALID_EXP_FLAG ∨ lp.number = 0
    · left
      rw [State.logonProof]
      simp only [invalid, if_true]
      rfl
    · cases right : lp.right env st.session with
      | false =>
        left
        rw [State.logonProof]
        simp only [invalid, right, if_false, Bool.false_eq_true]
        apply State.countFailure_keepsKey.trans
        rw [State.send_db, State.withSession_db]
      | true =>
        rw [State.logonProof_db lp invalid right, State.storeKey_sessionKeyOf]
        split
        next hs => exact .inr ⟨⟨first, long, by rw [isLp]; exact ⟨invalid, right⟩⟩, hs⟩
        next other => exact .inl rfl

end

lemma handleChallenge_keepsKey {body : Bytes → State × Bool}
    (keeps : ∀ buf, State.KeepsKey username st (body buf).1) :
    State.KeepsKey username st (handleChallenge body st input).1 := by
  rw [handleChallenge]
  split
  · rfl
  · exact keeps _

lemma handleFixed_keepsKey {size : ℕ} {body : Bytes → State × Bool}
    (keeps : ∀ buf, State.KeepsKey username st (body buf).1) :
    State.KeepsKey username st (handleFixed size body st input).1 := by
  rw [handleFixed]
  split
  · rfl
  · exact keeps _

lemma turn_keepsKey (env : Environment) (st : State) (input username : Bytes) :
    State.KeepsKey username st (after (turn env st input)).1 ∨
      (PasswordRight env st input ∧ env.sameName username st.session._login = true) := by
  cases input with
  | nil => exact .inl rfl
  | cons cmd tail =>
    cases hf : command cmd st.session._authed with
    | none =>
      left
      rw [turn, hf]
      rfl
    | some c =>
      obtain ⟨calls, hs⟩ := after_turn env hf tail
      obtain ⟨rfl, _⟩ := command_spec hf
      rw [hs]
      cases c with
      | logonProof => exact HandleLogonProof_keepsKey env st _ username rfl
      | logonChallenge =>
        exact .inl (handleChallenge_keepsKey fun _ => State.logonChallenge_keepsKey)
      | reconnectChallenge =>
        exact .inl (handleChallenge_keepsKey fun _ => State.reconnectChallenge_keepsKey)
      | reconnectProof => exact .inl (handleFixed_keepsKey fun _ => State.reconnectProof_keepsKey)
      | realmList => exact .inl (handleFixed_keepsKey fun _ => State.realmList_keepsKey)
      | xferAccept => exact .inl rfl
      | xferResume => exact .inl rfl
      | xferCancel => exact .inl rfl

/-- With the right password the key of the proof is stored, also if a token is needed and is not
sent. -/
lemma PasswordRight.stores (right : PasswordRight env st input) (username : Bytes)
    (hs : env.sameName username st.session._login = true) :
    (after (turn env st input)).1.db.sessionKeyOf username =
      (st.db.sessionKeyOf username).map fun _ =>
        some ((LogonProof.parse (input.take sizeofLogonProof)).key env st.session) := by
  obtain ⟨first, long, valid, right⟩ := right
  cases input with
  | nil => cases first
  | cons cmd tail =>
    obtain rfl : cmd = 0x01 := Option.some.inj first
    have hf : command 0x01 st.session._authed = some .logonProof := by
      cases st.session._authed <;> rfl
    obtain ⟨calls, isAfter⟩ := after_turn env hf tail
    rw [isAfter]
    refine (congrArg (Database.sessionKeyOf · username) (HandleLogonProof_db env st _)).trans ?_
    rw [if_neg (Nat.not_lt.mpr long), State.logonProof_db _ valid right,
      State.storeKey_sessionKeyOf, if_pos hs]

/-! ### What is accepted for an account -/

def Event.accepts (env : Environment) (username : Bytes) : Event → Bool
  | .proof login _ => env.sameName username login
  | .reconnectProof login => env.sameName username login
  | _ => false

/-- No login was accepted for an account. -/
def State.Outside (env : Environment) (username : Bytes) (st : State) : Prop :=
  ∀ event ∈ st.events, event.accepts env username = false

lemma reconnect_accepted (accepted : ReconnectAccepted env st input) :
    (after (turn env st input)).1.events = .reconnectProof st.session._login :: st.events := by
  obtain ⟨first, long, ready, right⟩ := accepted
  cases input with
  | nil => cases first
  | cons cmd tail =>
    obtain rfl : cmd = 0x03 := Option.some.inj first
    have hf : command 0x03 st.session._authed = some .reconnectProof := by
      cases st.session._authed <;> rfl
    obtain ⟨calls, hs⟩ := after_turn env hf tail
    rw [hs, Command.handler, HandleReconnectProof, handleFixed, if_neg (Nat.not_lt.mpr long),
      State.reconnectProof]
    simp only [ready, if_false]
    rw [if_pos right]
    simp

lemma State.outside_cons {event : Event} (events : t.events = event :: st.events)
    (outside : st.Outside env username) :
    t.Outside env username ↔ event.accepts env username = false := by
  rw [State.Outside, events, List.forall_mem_cons]
  exact and_iff_left outside

/-- A turn accepts a login for the account if and only if a proof is accepted while the account is
named. -/
lemma turn_outside_iff (input : Bytes) (outside : st.Outside env username) :
    (after (turn env st input)).1.Outside env username ↔
      (env.sameName username st.session._login = true →
        ¬ ProofAccepted env st input ∧ ¬ ReconnectAccepted env st input) := by
  by_cases reconnect : ReconnectAccepted env st input
  · rw [State.outside_cons (reconnect_accepted reconnect) outside, Event.accepts]
    constructor
    · intro other hs
      rw [other] at hs
      cases hs
    · intro not
      by_contra hs
      exact (not (by simpa using hs)).2 reconnect
  · cases turn_turned env st input with
    | proved accepted proved =>
      have outside_iff : (after (turn env st input)).1.Outside env username ↔
          env.sameName username st.session._login = false := by
        rcases proved.events with events | events
        · exact State.outside_cons events outside
        · rw [State.Outside, events, List.forall_mem_cons, List.forall_mem_cons]
          exact and_iff_left ⟨rfl, outside⟩
      rw [outside_iff]
      constructor
      · intro other hs
        rw [other] at hs
        cases hs
      · intro not
        by_contra hs
        exact (not (by simpa using hs)).1 accepted
    | listed served listed =>
      rw [State.outside_cons listed.events outside]
      exact iff_of_true rfl fun _ => served.not_accepted
    | others noProof _ moves =>
      refine iff_of_true ?_ fun _ => ⟨noProof, reconnect⟩
      cases moves with
      | idle events =>
        rw [State.Outside, events]
        exact outside
      | challenged login answer events => exact (State.outside_cons events outside).mpr rfl
      | exchanged login answer srp events => exact (State.outside_cons events outside).mpr rfl
      | reconnecting login events => exact (State.outside_cons events outside).mpr rfl
      | reconnected accepted => exact absurd accepted reconnect

/-! ### A client without a token -/

variable {known : ℕ → Prop} {p : State × Bytes}

/-- What a client can do: it knows the key of each proof that is right. Others who write to the
database keep the account and store no key that the client knows. -/
def Client (env : Environment) (known : ℕ → Prop) (username : Bytes) (p : State × Bytes) :
    Action → Prop
  | .turn =>
    (PasswordRight env p.1 p.2 →
      known ((LogonProof.parse (p.2.take sizeofLogonProof)).key env p.1.session)) ∧
    (ReconnectAccepted env p.1 p.2 → known p.1.session.K)
  | .database db => (db.sessionKeyOf username).isSome ∧ db.Unknown known username
  | _ => True

/-- While the connection names the account, no logon proof with the right password comes, and a
right reconnect proof comes only for the key that is stored. -/
def StoredKeyOnly (env : Environment) (username : Bytes) (p : State × Bytes) : Action → Prop
  | .turn =>
    env.sameName username p.1.session._login = true →
      ¬ PasswordRight env p.1 p.2 ∧
        (ReconnectAccepted env p.1 p.2 → p.1.db.sessionKeyOf username = some (some p.1.session.K))
  | _ => True

lemma StoredKeyOnly.keepsKey (only : StoredKeyOnly env username p .turn) :
    State.KeepsKey username p.1 (after (turn env p.1 p.2)).1 := by
  rcases turn_keepsKey env p.1 p.2 username with keeps | ⟨right, hs⟩
  · exact keeps
  · exact absurd right (only hs).1

/-- The client gets in with a key it knows, or stores one; both are what the condition excludes. -/
lemma turn_protected_iff (outside : p.1.Outside env username)
    (stored : (p.1.db.sessionKeyOf username).isSome) (unknown : p.1.db.Unknown known username)
    (client : Client env known username p .turn) :
    ((after (turn env p.1 p.2)).1.Outside env username ∧
        (after (turn env p.1 p.2)).1.db.Unknown known username) ↔
      StoredKeyOnly env username p .turn := by
  have accepts := turn_outside_iff p.2 outside
  constructor
  · rintro ⟨out, hidden⟩ hs
    refine ⟨fun right => ?_, fun accepted => absurd accepted (accepts.mp out hs).2⟩
    obtain ⟨text, isText⟩ := Option.isSome_iff_exists.mp stored
    have stores := right.stores username hs
    rw [isText, Option.map_some] at stores
    exact hidden _ stores (client.1 right)
  · intro only
    constructor
    · apply accepts.mpr
      intro hs
      refine ⟨fun accepted => (only hs).1 accepted.passwordRight, fun accepted => ?_⟩
      exact unknown _ ((only hs).2 accepted) (client.2 accepted)
    · intro key isKey
      rw [only.keepsKey] at isKey
      exact unknown key isKey

/-! ### The server -/

/-- The login server: the database, and any number of connections with their input. -/
structure Server where
  db : Database
  random : ℕ
  connections : ℕ → State × Bytes

namespace Server

def start (db : Database) (random : ℕ) (addresses : ℕ → Bytes) : Server where
  db := db
  random := random
  connections i := (.connect db random (addresses i), [])

/-- A connection, with the database and the random numbers as they are now. -/
def connection (s : Server) (i : ℕ) : State × Bytes :=
  ({ (s.connections i).1 with db := s.db, random := s.random }, (s.connections i).2)

@[simp] lemma connection_db (s : Server) (i : ℕ) : (s.connection i).1.db = s.db := rfl

@[simp] lemma connection_events (s : Server) (i : ℕ) :
    (s.connection i).1.events = (s.connections i).1.events := rfl

def step (env : Environment) (s : Server) (a : ℕ × Action) : Server :=
  let p := Auth.step env (s.connection a.1) a.2
  { db := p.1.db, random := p.1.random, connections := Function.update s.connections a.1 p }

/-- No login was accepted for the account on any connection. -/
def Outside (env : Environment) (username : Bytes) (s : Server) : Prop :=
  ∀ i, (s.connections i).1.Outside env username

/-- After the step nobody is in for the account, and no key that the client knows is stored. -/
def Protected (env : Environment) (known : ℕ → Prop) (username : Bytes) (s : Server)
    (a : ℕ × Action) : Prop :=
  (s.step env a).Outside env username ∧ (s.step env a).db.Unknown known username

def Client (env : Environment) (known : ℕ → Prop) (username : Bytes) (s : Server)
    (a : ℕ × Action) : Prop :=
  Auth.Client env known username (s.connection a.1) a.2

def StoredKeyOnly (env : Environment) (username : Bytes) (s : Server) (a : ℕ × Action) : Prop :=
  Auth.StoredKeyOnly env username (s.connection a.1) a.2

structure Guarded (env : Environment) (known : ℕ → Prop) (username : Bytes) (s : Server) :
    Prop where
  outside : s.Outside env username
  stored : (s.db.sessionKeyOf username).isSome
  unknown : s.db.Unknown known username

lemma outside_step_iff {s : Server} (outside : s.Outside env username) (a : ℕ × Action) :
    (s.step env a).Outside env username ↔
      (Auth.step env (s.connection a.1) a.2).1.Outside env username := by
  constructor
  · intro all
    have here := all a.1
    rw [step] at here
    simpa using here
  · intro here i
    rw [step]
    by_cases hs : i = a.1
    · subst hs
      simpa using here
    · simpa [hs] using outside i

lemma Guarded.protected_iff {s : Server} (guarded : s.Guarded env known username)
    {a : ℕ × Action} (client : s.Client env known username a) :
    s.Protected env known username a ↔ s.StoredKeyOnly env username a := by
  have here : (s.connection a.1).1.Outside env username := guarded.outside a.1
  rw [Protected, outside_step_iff guarded.outside]
  obtain ⟨i, a⟩ := a
  cases a with
  | receive bytes => exact iff_of_true ⟨here, guarded.unknown⟩ trivial
  | limit => exact iff_of_true ⟨here, guarded.unknown⟩ trivial
  | database db => exact iff_of_true ⟨here, client.2⟩ trivial
  | turn => exact turn_protected_iff here guarded.stored guarded.unknown client

lemma Guarded.step {s : Server} (guarded : s.Guarded env known username) {a : ℕ × Action}
    (client : s.Client env known username a) (only : s.StoredKeyOnly env username a) :
    (s.step env a).Guarded env known username := by
  obtain ⟨outside, unknown⟩ := (guarded.protected_iff client).mpr only
  refine ⟨outside, ?_, unknown⟩
  obtain ⟨i, a⟩ := a
  cases a with
  | receive bytes => exact guarded.stored
  | limit => exact guarded.stored
  | database db => exact client.1
  | turn =>
    have keeps := only.keepsKey
    exact keeps.symm ▸ guarded.stored

lemma along_protected_iff {db : Database} {random : ℕ} {addresses : ℕ → Bytes}
    {actions : List (ℕ × Action)} (stored : (db.sessionKeyOf username).isSome)
    (unknown : db.Unknown known username)
    (client : Along (step env) (Client env known username) (start db random addresses) actions) :
    Along (step env) (Protected env known username) (start db random addresses) actions ↔
      Along (step env) (StoredKeyOnly env username) (start db random addresses) actions := by
  have guarded : (start db random addresses).Guarded env known username :=
    ⟨fun i event hm => absurd hm List.not_mem_nil, stored, unknown⟩
  have agree : Along (step env) (fun s a => s.Client env known username a ∧
        s.Protected env known username a) (start db random addresses) actions ↔
      Along (step env) (fun s a => s.Client env known username a ∧
        s.StoredKeyOnly env username a) (start db random addresses) actions := by
    apply along_iff_of_invariant (Guarded env known username)
    · exact fun s a guarded guard => guarded.step guard.1 guard.2
    · exact fun s a guarded => and_congr_right guarded.protected_iff
    · exact guarded
  rw [along_and, along_and] at agree
  constructor
  · exact fun along => (agree.mp ⟨client, along⟩).2
  · exact fun along => (agree.mpr ⟨client, along⟩).2

lemma run_connection (env : Environment) (s : Server) (i : ℕ) (as : List Action) :
    (run (step env) s (as.map fun a => (i, a))).connection i =
        run (Auth.step env) (s.connection i) as ∧
      ∀ j ≠ i, (run (step env) s (as.map fun a => (i, a))).connections j = s.connections j := by
  induction as generalizing s with
  | nil => exact ⟨rfl, fun _ _ => rfl⟩
  | cons a as ih =>
    obtain ⟨acts, others⟩ := ih (s.step env (i, a))
    have stepped : (s.step env (i, a)).connection i = Auth.step env (s.connection i) a := by
      simp [step, connection]
    rw [List.map_cons, run_cons, run_cons, acts, stepped]
    refine ⟨rfl, fun j other => ?_⟩
    rw [others j other]
    exact Function.update_of_ne other _ _

lemma along_connection {Q : State × Bytes → Action → Prop} (s : Server) (i : ℕ)
    {as : List Action} (along : Along (Auth.step env) Q (s.connection i) as) :
    Along (step env) (fun s a => Q (s.connection a.1) a.2) s (as.map fun a => (i, a)) := by
  induction as generalizing s with
  | nil => trivial
  | cons a as ih =>
    refine ⟨along.1, ih _ ?_⟩
    have stepped : (s.step env (i, a)).connection i = Auth.step env (s.connection i) a := by
      simp [step, connection]
    rw [stepped]
    exact along.2

end Server

/-! ### A client without a secret -/

/-- The fields of a challenge between its size and the name: the build is 18414. -/
def clientFields : Bytes :=
  [0x57, 0x6F, 0x57, 0, 5, 4, 8, 0xEE, 0x47, 0x36, 0x38, 0x78, 0, 0x6E, 0x69, 0x57, 0, 0x53, 0x55,
    0x6E, 0x65, 0, 0, 0, 0, 127, 0, 0, 1, 2]

def reconnectChallengePacket (name : Bytes) : Bytes :=
  [0x02, 0x00] ++ toBytes 2 (31 + name.length) ++ clientFields ++ name ++ [0]

lemma recvChallenge_append {header body rest : Bytes} (four : header.length = 4)
    (size : ofBytes (header.drop 2) = body.length) (long : 31 ≤ body.length) :
    recvChallenge (header ++ (body ++ rest)) = (rest, some (header ++ body)) := by
  have enough : ¬ (header ++ (body ++ rest)).length < sizeofChallenge := by
    simp [sizeofChallenge]
    omega
  have whole : ¬ (body.length < sizeofChallenge - 4 ∨ (body ++ rest).length < body.length) := by
    simp [sizeofChallenge]
    omega
  rw [recvChallenge, if_neg enough]
  simp only [List.take_left' four, List.drop_left' four, size, if_neg whole, List.drop_left,
    List.take_left]

lemma recvChallenge_packet {name : Bytes} (rest : Bytes) (short : name.length ≤ 65504) :
    recvChallenge (reconnectChallengePacket name ++ rest) =
      (rest, some (reconnectChallengePacket name)) := by
  have packet : reconnectChallengePacket name =
      ([0x02, 0x00] ++ toBytes 2 (31 + name.length)) ++ (clientFields ++ name ++ [0]) := by
    simp [reconnectChallengePacket]
  have body : (clientFields ++ name ++ [0]).length = 31 + name.length := by
    simp [clientFields]
    omega
  rw [packet, List.append_assoc]
  apply recvChallenge_append
  · simp
  · rw [body, List.drop_left' (by rfl), ofBytes_toBytes]
    exact Nat.mod_eq_of_lt (by omega)
  · omega

lemma parse_packet {name : Bytes} (text : 0 ∉ name) :
    Challenge.parse (reconnectChallengePacket name) =
      ⟨18414, [0x6E, 0x69, 0x57], [0x53, 0x55, 0x6E, 0x65], name⟩ := by
  have isName : cstring (reconnectChallengePacket name) 34 = name := by
    have header : ([0x02, 0x00] ++ toBytes 2 (31 + name.length) ++ clientFields).length = 34 := by
      simp [clientFields]
    rw [cstring, reconnectChallengePacket, List.append_assoc _ name, List.drop_left' header,
      List.takeWhile_append_of_pos]
    · simp
    · intro c hm
      have nonzero : c ≠ 0 := fun zero => text (zero ▸ hm)
      simpa using nonzero
  rw [Challenge.parse, isName]
  -- the other fields come before the name
  simp only [reconnectChallengePacket, clientFields, toBytes, cstring]
  simp
  decide

def own (SHA1 : Bytes → Digest) : Environment := { uniform with SHA1 := SHA1 }

@[simp] lemma own_SHA1 (SHA1 : Bytes → Digest) : (own SHA1).SHA1 = SHA1 := rfl

def intruderKey (SHA1 : Bytes → Digest) (A : ℕ) : ℕ := sessionKey (own SHA1) ⟨0, 0, 0, 0⟩ A

def intruderDigest (SHA1 : Bytes → Digest) (name : Bytes) (A : ℕ) : Digest :=
  proofDigest (own SHA1) name ⟨0, 0, 0, 0⟩ A (intruderKey SHA1 A)

/-- What the server compares with the digest and the memory behind it. -/
def intruderM1 (SHA1 : Bytes → Digest) (garbage : ℕ → UInt8) (name : Bytes) (A : ℕ) : Bytes :=
  (asBytes 0 (ofBytes (intruderDigest SHA1 name A).bytes) ++ (List.range 20).map garbage).take 20

def intruderProof (SHA1 : Bytes → Digest) (garbage : ℕ → UInt8) (name : Bytes) (A : ℕ) : Bytes :=
  [0x01] ++ toBytes 32 A ++ intruderM1 SHA1 garbage name A ++ List.replicate 22 0

/-- A reconnect challenge and a logon proof, on the first connection. -/
def intruder (SHA1 : Bytes → Digest) (garbage : ℕ → UInt8) (name : Bytes) (A : ℕ) :
    List (ℕ × Action) :=
  [.receive (reconnectChallengePacket name ++ intruderProof SHA1 garbage name A), .turn,
    .turn].map fun a => (0, a)

lemma reconnectChallenge_packet {name : Bytes} (hf : st.db.account env name = some account)
    (text : 0 ∉ name) :
    ∃ t, st.reconnectChallenge env (reconnectChallengePacket name) = (t, true) ∧ t.db = st.db ∧
      t.events = .reconnectChallenge name :: st.events ∧ t.session._login = name ∧
      t.session.srp = st.session.srp ∧ t.session._tokenKey = st.session._tokenKey ∧
      t.session._expversion = POST_BC_EXP_FLAG := by
  rw [State.reconnectChallenge, parse_packet text]
  simp only [State.note_db, State.withSession_db, hf]
  refine ⟨_, rfl, ?_, ?_, ?_, ?_, ?_, ?_⟩
  · simp
  · simp
  · simp [AuthSocket.withClient]
  · simp [AuthSocket.withClient]
  · simp [AuthSocket.withClient]
  · simp [AuthSocket.withClient]
    decide

/-- The challenge is answered: it names the account and leaves the values of the exchange and the
key of the token as they are. -/
lemma turn_reconnectChallengePacket (env : Environment) (st : State) {name : Bytes} (rest : Bytes)
    (hf : st.db.account env name = some account) (text : 0 ∉ name) (short : name.length ≤ 65504) :
    ∃ t, turn env st (reconnectChallengePacket name ++ rest) = .again t rest ∧ t.db = st.db ∧
      t.events = .reconnectChallenge name :: st.events ∧ t.session._login = name ∧
      t.session.srp = st.session.srp ∧ t.session._tokenKey = st.session._tokenKey ∧
      t.session._expversion = POST_BC_EXP_FLAG := by
  have command : command 0x02 st.session._authed = some .reconnectChallenge := by
    cases st.session._authed <;> rfl
  obtain ⟨tail, isCons⟩ : ∃ tail, reconnectChallengePacket name ++ rest = 0x02 :: tail := ⟨_, rfl⟩
  obtain ⟨t, handled, db, events, login, srp, tokenKey, expversion⟩ :=
    reconnectChallenge_packet hf text
  have handler : Command.handler .reconnectChallenge env st (0x02 :: tail) = (t, rest, true) := by
    rw [← isCons, Command.handler, HandleReconnectChallenge, handleChallenge,
      recvChallenge_packet rest short]
    simp only [handled]
  rw [isCons, turn, command]
  simp only [handler]
  exact ⟨_, rfl, db, events, login, srp, tokenKey, expversion⟩

lemma key_own (env : Environment) (srp : Srp) (A : ℕ) :
    sessionKey (own env.SHA1) srp A = sessionKey env srp A := by
  delta sessionKey
  simp

lemma digest_own (env : Environment) (login : Bytes) (srp : Srp) (A K : ℕ) :
    proofDigest (own env.SHA1) login srp A K = proofDigest env login srp A K := by
  rw [proofDigest, proofDigest, own_SHA1]

lemma parse_append {A M1 : Bytes} (isA : A.length = 32) (isM1 : M1.length = 20) (rest : Bytes) :
    LogonProof.parse ([0x01] ++ (A ++ (M1 ++ rest))) = ⟨A, M1, (rest.drop 21).headD 0⟩ := by
  have afterA : ∀ n, ([0x01] ++ (A ++ (M1 ++ rest))).drop (1 + (32 + n)) = (M1 ++ rest).drop n := by
    intro n
    rw [← List.drop_drop, List.drop_left' (by rfl), ← List.drop_drop, List.drop_left' isA]
  have flags : (M1 ++ rest).drop (20 + 21) = rest.drop 21 := by
    rw [← List.drop_drop, List.drop_left' isM1]
  rw [LogonProof.parse]
  congr 1
  · rw [List.drop_left' (by rfl), List.take_left' isA]
  · rw [afterA 0, List.drop_zero, List.take_left' isM1]
  · rw [afterA 41, flags]

section Packet

variable (SHA1 : Bytes → Digest) (garbage : ℕ → UInt8) (name : Bytes) (A : ℕ)

lemma length_intruderM1 : (intruderM1 SHA1 garbage name A).length = 20 := by
  simp [intruderM1]

lemma length_intruderProof : (intruderProof SHA1 garbage name A).length = sizeofLogonProof := by
  simp [intruderProof, length_intruderM1, sizeofLogonProof]

lemma parse_intruderProof :
    LogonProof.parse (intruderProof SHA1 garbage name A) =
      ⟨toBytes 32 A, intruderM1 SHA1 garbage name A, 0⟩ := by
  exact parse_append (length_toBytes 32 A) (length_intruderM1 SHA1 garbage name A) _

end Packet

lemma turn_silent (accepted : ProofAccepted env st input)
    (silent : (LogonProof.parse (input.take sizeofLogonProof)).asksToken st.session = false) :
    (after (turn env st input)).1.events =
      .proof st.session._login st.session.srp :: st.events := by
  obtain ⟨first, long, valid, right, _⟩ := accepted
  cases input with
  | nil => cases first
  | cons cmd tail =>
    obtain rfl : cmd = 0x01 := Option.some.inj first
    have hf : command 0x01 st.session._authed = some .logonProof := by
      cases st.session._authed <;> rfl
    obtain ⟨calls, isAfter⟩ := after_turn env hf tail
    rw [isAfter, Command.handler, HandleLogonProof, if_neg (Nat.not_lt.mpr long)]
    simp only [State.logonProof, valid, right, silent, if_false, if_true, Bool.false_eq_true]
    exact (State.accept_proved env _ _ _).1

/-- With no exchange and no token key the proof of the client is right, and no token is asked
for. -/
lemma intruderProof_accepted {name : Bytes} {A : ℕ} (positive : 0 < A) (small : A < 256 ^ 32)
    (login : st.session._login = name) (srp : st.session.srp = ⟨0, 0, 0, 0⟩)
    (tokenKey : st.session._tokenKey = [])
    (expversion : st.session._expversion = POST_BC_EXP_FLAG) :
    ProofAccepted env st (intruderProof env.SHA1 env.garbage name A) := by
  have enough := (length_intruderProof env.SHA1 env.garbage name A).symm.le
  refine ⟨rfl, enough, ?_⟩
  rw [List.take_of_length_le (length_intruderProof ..).le, parse_intruderProof]
  have number : ofBytes (toBytes 32 A) = A := by
    rw [ofBytes_toBytes, Nat.mod_eq_of_lt small]
  have digest : LogonProof.digest env ⟨toBytes 32 A, intruderM1 env.SHA1 env.garbage name A, 0⟩
      st.session = intruderDigest env.SHA1 name A := by
    rw [LogonProof.digest, LogonProof.key, LogonProof.number, number, login, srp, intruderDigest,
      intruderKey, digest_own, key_own]
  refine ⟨?_, ?_, ?_⟩
  · rw [expversion, LogonProof.number, number]
    rintro (none | zero)
    · cases none
    · exact absurd zero positive.ne'
  · rw [LogonProof.right, digest, proofMatches, intruderM1]
    simp
  · intro asks
    rw [LogonProof.asksToken, tokenKey] at asks
    simp at asks

lemma client_of_other {cmd : UInt8} {tail : Bytes} (notProof : cmd ≠ 0x01)
    (notReconnect : cmd ≠ 0x03) : Client env known username (st, cmd :: tail) .turn := by
  constructor
  · exact fun right => absurd (Option.some.inj right.1) notProof
  · exact fun accepted => absurd (Option.some.inj accepted.1) notReconnect

lemma intruderProof_key {name : Bytes} {A : ℕ} (small : A < 256 ^ 32)
    (srp : st.session.srp = ⟨0, 0, 0, 0⟩) :
    (LogonProof.parse ((intruderProof env.SHA1 env.garbage name A).take sizeofLogonProof)).key env
      st.session = intruderKey env.SHA1 A := by
  rw [List.take_of_length_le (length_intruderProof ..).le, parse_intruderProof, LogonProof.key,
    LogonProof.number, ofBytes_toBytes, Nat.mod_eq_of_lt small, srp, intruderKey, key_own]

lemma intruder_turns (env : Environment) (db : Database) (random : ℕ) (address : Bytes)
    (name : Bytes) (hf : db.account env name = some account) (text : 0 ∉ name)
    (short : name.length ≤ 65504) (A : ℕ) (positive : 0 < A) (small : A < 256 ^ 32) :
    let actions := [.receive (reconnectChallengePacket name ++
      intruderProof env.SHA1 env.garbage name A), .turn, .turn]
    let p := run (step env) (.connect db random address, []) actions
    Along (step env) (Client env (· = intruderKey env.SHA1 A) account.username)
        (.connect db random address, []) actions ∧
      p.1.events = [.proof name ⟨0, 0, 0, 0⟩, .reconnectChallenge name] ∧
      p.1.db.sessionKeyOf account.username = some (some (intruderKey env.SHA1 A)) := by
  -- the challenge, then the proof
  obtain ⟨t, challenged, isDb, events, login, srp, tokenKey, expversion⟩ :=
    turn_reconnectChallengePacket env (.connect db random address)
      (intruderProof env.SHA1 env.garbage name A) hf text short
  have accepted : ProofAccepted env t (intruderProof env.SHA1 env.garbage name A) :=
    intruderProof_accepted positive small login srp tokenKey expversion
  have isProof : (intruderProof env.SHA1 env.garbage name A).take sizeofLogonProof =
      intruderProof env.SHA1 env.garbage name A :=
    List.take_of_length_le (length_intruderProof ..).le
  have isKey := @intruderProof_key env t name A small srp
  simp only [run_cons, run_nil, along_cons, along_nil, step, List.nil_append, challenged,
    after_again]
  refine ⟨⟨trivial, client_of_other (by decide) (by decide), ⟨fun _ => isKey, ?_⟩, trivial⟩, ?_, ?_⟩
  · exact fun accepted => absurd (Option.some.inj accepted.1) (by decide)
  · have silent : (LogonProof.parse ((intruderProof env.SHA1 env.garbage name A).take
        sizeofLogonProof)).asksToken t.session = false := by
      rw [isProof, parse_intruderProof, LogonProof.asksToken, tokenKey]
      simp [State.connect, AuthSocket.new]
    rw [turn_silent accepted silent, events, login, srp]
    rfl
  · have hs := Database.sameName_of_account hf
    rw [accepted.passwordRight.stores account.username (login ▸ hs), isDb, isKey, State.connect,
      Database.sessionKeyOf_account hf, Option.map_some]

lemma intruder_in (env : Environment) (db : Database) (random : ℕ) (addresses : ℕ → Bytes)
    (name : Bytes) (hf : db.account env name = some account) (text : 0 ∉ name)
    (short : name.length ≤ 65504) (A : ℕ) (positive : 0 < A) (small : A < 256 ^ 32) :
    let s := run (Server.step env) (.start db random addresses)
      (intruder env.SHA1 env.garbage name A)
    Along (Server.step env) (Server.Client env (· = intruderKey env.SHA1 A) account.username)
        (.start db random addresses) (intruder env.SHA1 env.garbage name A) ∧
      (∀ i login, .token login ∉ (s.connections i).1.events) ∧
      ¬ s.Outside env account.username ∧
      s.db.sessionKeyOf account.username = some (some (intruderKey env.SHA1 A)) := by
  intro s
  obtain ⟨alone, others⟩ := Server.run_connection env (.start db random addresses) 0
    [.receive (reconnectChallengePacket name ++ intruderProof env.SHA1 env.garbage name A), .turn,
      .turn]
  obtain ⟨client, history, stored⟩ := intruder_turns env db random (addresses 0) name hf text short
    A positive small
  have ends : s.connection 0 = run (step env) (.connect db random (addresses 0), [])
      [.receive (reconnectChallengePacket name ++ intruderProof env.SHA1 env.garbage name A),
        .turn, .turn] := alone
  rw [← ends, Server.connection_events] at history
  rw [← ends, Server.connection_db] at stored
  refine ⟨Server.along_connection (.start db random addresses) 0 client, fun i login hm => ?_,
    fun outside => ?_, stored⟩
  · by_cases first : i = 0
    · rw [first, history] at hm
      simp at hm
    · rw [show s.connections i = _ from others i first] at hm
      cases hm
  · have refused := outside 0 (.proof name ⟨0, 0, 0, 0⟩) (by rw [history]; simp)
    rw [Event.accepts, Database.sameName_of_account hf] at refused
    cases refused

/-- In every run of any connections by a client that knows the keys of its proofs: nobody is in for
the account and no key that the client knows is stored, if and only if no logon proof with the right
password comes for it and a right reconnect proof only with the key that is stored. No account is
protected by its token: for each that can be named, two packets that depend on no secret log in and
store a key that the client has computed. -/
theorem second_factor (env : Environment) (db : Database) (random : ℕ) (addresses : ℕ → Bytes) :
    (∀ (known : ℕ → Prop) (username : Bytes), (db.sessionKeyOf username).isSome →
      db.Unknown known username → ∀ actions : List (ℕ × Action),
        Along (Server.step env) (Server.Client env known username) (.start db random addresses)
          actions →
        (Along (Server.step env) (Server.Protected env known username) (.start db random addresses)
            actions ↔
          Along (Server.step env) (Server.StoredKeyOnly env username) (.start db random addresses)
            actions)) ∧
    ∀ (name : Bytes) (account : Account), db.account env name = some account → 0 ∉ name →
      name.length ≤ 65504 → ∀ A : ℕ, 0 < A → A < 256 ^ 32 →
        let s := run (Server.step env) (.start db random addresses)
          (intruder env.SHA1 env.garbage name A)
        Along (Server.step env) (Server.Client env (· = intruderKey env.SHA1 A) account.username)
            (.start db random addresses) (intruder env.SHA1 env.garbage name A) ∧
          (∀ i login, .token login ∉ (s.connections i).1.events) ∧
          ¬ s.Outside env account.username ∧
          s.db.sessionKeyOf account.username = some (some (intruderKey env.SHA1 A)) := by
  constructor
  · intro known username stored unknown actions client
    exact Server.along_protected_iff stored unknown client
  · intro name account found text short A positive small
    exact intruder_in env db random addresses name found text short A positive small

/-- AB has a token key, and the session key 9. -/
def tokenAB : Database where
  accounts :=
    [{ id := 1, username := [0x41, 0x42], sha_pass_hash := 5, sessionkey := some 9, v := 0, s := 0,
       token_key := [0x51], locked := 0, lock_country := [], last_ip := [], gmlevel := none,
       failed_logins := 0, locale := 0, os := [] }]
  ip_banned := []
  account_banned := []
  ip2nation := []
  now := 0

def wrongReconnectProof : Bytes := 0x03 :: List.replicate 57 0

/-- A reconnect challenge for AB, and a reconnect proof without the key. -/
def guess : List (ℕ × Action) :=
  [.receive (reconnectChallengePacket [0x41, 0x42] ++ wrongReconnectProof), .turn, .turn].map
    fun a => (0, a)

/-- Neither packet of the guess is a proof that is right. -/
lemma guess_turns {Q : State × Bytes → Action → Prop} (receives : ∀ p bytes, Q p (.receive bytes))
    (turns : ∀ p, ¬ PasswordRight uniform p.1 p.2 → ¬ ReconnectAccepted uniform p.1 p.2 →
      Q p .turn) :
    Along (Server.step uniform) (fun s a => Q (s.connection a.1) a.2) (.start tokenAB 0 fun _ => [])
      guess := by
  obtain ⟨account, isAB⟩ : ∃ account, tokenAB.account uniform [0x41, 0x42] = some account :=
    ⟨_, rfl⟩
  obtain ⟨t, challenged, _⟩ := turn_reconnectChallengePacket uniform (.connect tokenAB 0 [])
    wrongReconnectProof isAB (by decide) (by decide)
  have steps : step uniform (.connect tokenAB 0 [], reconnectChallengePacket [0x41, 0x42] ++
      wrongReconnectProof) .turn = (t, wrongReconnectProof) := by
    rw [step, challenged, after_again]
  apply Server.along_connection (.start tokenAB 0 fun _ => []) 0
  refine ⟨receives _ _, turns _ (fun right => ?_) fun accepted => ?_, ?_, trivial⟩
  · cases right.1
  · cases accepted.1
  change Q (step uniform (.connect tokenAB 0 [], reconnectChallengePacket [0x41, 0x42] ++
      wrongReconnectProof) .turn) .turn
  rw [steps]
  apply turns
  · rintro ⟨first, _⟩
    cases first
  · rintro ⟨_, _, _, right⟩
    have wrong : List.replicate 20 1 ≠
        (ReconnectProof.parse (wrongReconnectProof.take sizeofReconnectProof)).R2 := by decide
    exact wrong right

lemma intruderKey_uniform : intruderKey uniform.SHA1 1 ≠ 9 := by
  have isKey : intruderKey uniform.SHA1 1 =
      ofBytes (interleave (List.replicate 20 1) (List.replicate 20 1)) := by
    rw [intruderKey]
    delta sessionKey
    rfl
  rw [isKey]
  decide

theorem second_factor_tokenAB :
    Along (Server.step uniform) (Server.Protected uniform (· ≠ 9) [0x41, 0x42])
      (.start tokenAB 0 fun _ => []) guess ∧
    let s := run (Server.step uniform) (.start tokenAB 0 fun _ => [])
      (intruder uniform.SHA1 uniform.garbage [0x41, 0x42] 1)
    (∀ i login, .token login ∉ (s.connections i).1.events) ∧
      ¬ s.Outside uniform [0x41, 0x42] ∧
      s.db.sessionKeyOf [0x41, 0x42] = some (some (intruderKey uniform.SHA1 1)) := by
  obtain ⟨agree, never⟩ := second_factor uniform tokenAB 0 fun _ => []
  constructor
  · have unknown : tokenAB.Unknown (· ≠ 9) [0x41, 0x42] := by
      intro key stored other
      cases stored
      exact other rfl
    apply (agree (· ≠ 9) [0x41, 0x42] rfl unknown guess _).mpr
    · exact guess_turns (fun _ _ => trivial) fun p right accepted _ =>
        ⟨right, fun isRight => absurd isRight accepted⟩
    · exact guess_turns (fun _ _ => trivial) fun p right accepted =>
        ⟨fun isRight => absurd isRight right, fun isRight => absurd isRight accepted⟩
  · exact (never [0x41, 0x42] _ rfl (by decide) (by decide) 1 (by decide) (by decide)).2

/-- Somebody is in for AB without a token. -/
theorem not_second_factor : ¬ ∀ (env : Environment) (db : Database) (random : ℕ)
    (addresses : ℕ → Bytes) (known : ℕ → Prop) (account : Account), account ∈ db.accounts →
    account.token_key ≠ [] → db.Unknown known account.username →
    ∀ actions : List (ℕ × Action),
      Along (Server.step env) (Server.Client env known account.username)
        (.start db random addresses) actions →
      (∀ i login, .token login ∉ ((run (Server.step env) (.start db random addresses)
        actions).connections i).1.events) →
      Along (Server.step env) (Server.Protected env known account.username)
        (.start db random addresses) actions := by
  intro law
  obtain ⟨client, tokenless, within, _⟩ := intruder_in uniform tokenAB 0 (fun _ => []) [0x41, 0x42]
    rfl (by decide) (by decide) 1 (by decide) (by decide)
  have unknown : tokenAB.Unknown (· = intruderKey uniform.SHA1 1) [0x41, 0x42] := by
    intro key stored isKey
    cases stored
    exact intruderKey_uniform isKey.symm
  have along := law uniform tokenAB 0 (fun _ => []) _ _ (.head _) (by decide) unknown _ client
    tokenless
  exact within along.2.2.1.1

end WorldServer.Auth
