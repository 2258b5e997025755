import WorldServer.Auth.AuthSocket

/-!
# Cutting the stream of a login

A handler that waits for more bytes should leave the input as it is. Some take the header of a
packet before they find that the rest is missing, or go on without it; others shut the connection
and let the loop run on. Where none of this happens the connection does the same however its stream
is cut.
-/
namespace WorldServer.Auth

open WorldServer.Lib

variable {env : Environment} {st : State} {input buf more : Bytes}

/-! ### Shutting -/

namespace State

@[simp] lemma storeKey_shut (K : ℕ) : (st.storeKey env K).shut = st.shut := rfl

@[simp] lemma exchange_shut (account : Account) : (st.exchange env account).shut = st.shut := by
  rw [exchange]
  by_cases stored : numBytes account.v ≠ s_BYTE_SIZE ∨ numBytes account.s ≠ s_BYTE_SIZE
  · simp [stored, SetVSFields]
  · simp [stored]

@[simp] lemma countFailure_shut : (st.countFailure env).shut = st.shut := by
  obtain ⟨db, hs⟩ := st.countFailure_eq env
  rw [hs]

@[simp] lemma accept_shut (digest : Digest) (A : ℕ) :
    (st.accept env digest A).shut = st.shut := by
  simp [accept]

lemma logonChallenge_shut : (st.logonChallenge env buf).1.shut = st.shut := by
  rw [logonChallenge]
  split
  · rfl
  · simp only
    split <;> simp

/-- A logon challenge that has been read is answered unless the system's name is too long. -/
lemma logonChallenge_ok (short : (Challenge.parse buf).os.length ≤ 4) :
    (st.logonChallenge env buf).2 = true := by
  rw [logonChallenge]
  simp only [Nat.not_lt.mpr short, if_false]
  split <;> rfl

lemma reconnectChallenge_shut (done : (st.reconnectChallenge env buf).2 = true) :
    (st.reconnectChallenge env buf).1.shut = st.shut := by
  rw [reconnectChallenge] at done ⊢
  split at done
  · cases done
  · split at done
    · cases done
    next short => simp [short]

lemma reconnectChallenge_fails (failed : (st.reconnectChallenge env buf).2 = false)
    (short : (Challenge.parse buf).os.length ≤ 4 ∨
      st.db.account env (Challenge.parse buf).I = none) :
    (st.reconnectChallenge env buf).1.shut = true := by
  rw [reconnectChallenge] at failed ⊢
  cases hf : st.db.account env (Challenge.parse buf).I with
  | none =>
    have absent : ((st.withSession fun a => { a with _login := (Challenge.parse buf).I }).note
      (.reconnectChallenge (Challenge.parse buf).I)).db.account env (Challenge.parse buf).I =
        none := hf
    simp only [absent, shutdown_shut]
  | some account =>
    have present : ((st.withSession fun a => { a with _login := (Challenge.parse buf).I }).note
      (.reconnectChallenge (Challenge.parse buf).I)).db.account env (Challenge.parse buf).I =
        some account := hf
    rw [hf] at short
    have short : ¬ (Challenge.parse buf).os.length > 4 := by
      rcases short with short | none
      · exact Nat.not_lt.mpr short
      · cases none
    simp only [present, short, if_false] at failed
    cases failed

lemma reconnectProof_shut (done : (st.reconnectProof env buf).2 = true) :
    (st.reconnectProof env buf).1.shut = st.shut := by
  rw [reconnectProof] at done ⊢
  simp only at done ⊢
  split at done
  · cases done
  next challenged =>
    split at done
    next accepted =>
      rw [if_neg challenged, if_pos accepted]
      simp
    · cases done

lemma reconnectProof_fails (failed : (st.reconnectProof env buf).2 = false)
    (challenged : ¬ (st.session._login = [] ∨ st.session._reconnectProof = 0 ∨ st.session.K = 0)) :
    (st.reconnectProof env buf).1.shut = true := by
  rw [reconnectProof] at failed ⊢
  simp only [challenged, if_false] at failed ⊢
  split at failed
  · cases failed
  next wrong => rw [if_neg wrong, shutdown_shut]

lemma realmList_shut (done : (st.realmList env).2 = true) :
    (st.realmList env).1.shut = st.shut := by
  rw [realmList] at done ⊢
  split at done
  · cases done
  · simp

lemma realmList_fails (failed : (st.realmList env).2 = false) :
    (st.realmList env).1.shut = true := by
  rw [realmList] at failed ⊢
  split at failed
  · rfl
  · cases failed

variable {lp : LogonProof}

def TokenRight (env : Environment) (st : State) (rest : Bytes) : Prop :=
  ∃ size text, rest = size :: text ∧ size.toNat ≤ text.length ∧
    env.GenerateToken st.session._tokenKey st.db.now =
      atoi ((text.take size.toNat).takeWhile (· != 0))

lemma logonProof_shut (env : Environment)
    (valid : ¬ (st.session._expversion = NO_VALID_EXP_FLAG ∨ lp.number = 0)) :
    (st.logonProof env lp).1.shut = st.shut := by
  rw [logonProof]
  simp only [valid, if_false]
  split
  · split <;> simp
  · simp

lemma logonProof_token (env : Environment) (st : State) (lp : LogonProof)
    (asks : (st.logonProof env lp).2 = true) :
    lp.right env st.session = true ∧ lp.asksToken st.session = true ∧
      (st.logonProof env lp).1.session._tokenKey = st.session._tokenKey ∧
        (st.logonProof env lp).1.db.now = st.db.now := by
  rw [logonProof] at asks ⊢
  split at asks
  · cases asks
  next valid =>
    split at asks
    next right =>
      split at asks
      next needs =>
        rw [if_neg valid, if_pos right, if_pos needs]
        exact ⟨right, needs, rfl, rfl⟩
      · cases asks
    · cases asks

end State

/-! ### Handlers -/

/-- More bytes do not change what the handler does: it leaves the input as it is, or it does the
same, and the connection is open if and only if it has returned true. -/
def SteadyHandler (h : Bytes → Handled) (st : State) (input : Bytes) : Prop :=
  match h input with
  | (t, rest, true) =>
    t.shut = false ∧ ∀ more, h (input ++ more) = (t, rest ++ more, true)
  | (t, rest, false) =>
    (t = st ∧ rest = input) ∨
      (t.shut = true ∧ ∀ more, h (input ++ more) = (t, rest ++ more, false))

lemma SteadyHandler.of_body {h : Bytes → Handled} (rest : Bytes) (r : State × Bool)
    (reads : ∀ more, h (input ++ more) = (r.1, rest ++ more, r.2))
    (done : r.2 = true → r.1.shut = false) (failed : r.2 = false → r.1.shut = true) :
    SteadyHandler h st input := by
  have here := reads []
  rw [List.append_nil, List.append_nil] at here
  rw [SteadyHandler, here]
  obtain ⟨t, ok⟩ := r
  cases ok with
  | true => exact ⟨done rfl, reads⟩
  | false => exact .inr ⟨failed rfl, reads⟩

variable {body : Bytes → State × Bool}

lemma handleFixed_steady {size : ℕ}
    (done : size ≤ input.length → (body (input.take size)).2 = true →
      (body (input.take size)).1.shut = false)
    (failed : size ≤ input.length → (body (input.take size)).2 = false →
      (body (input.take size)).1.shut = true) :
    SteadyHandler (handleFixed size body st) st input := by
  by_cases short : input.length < size
  · rw [SteadyHandler, handleFixed, if_pos short]
    exact .inl ⟨rfl, rfl⟩
  · have long : size ≤ input.length := Nat.not_lt.mp short
    apply SteadyHandler.of_body (input.drop size) (body (input.take size))
    · intro more
      rw [handleFixed, if_neg (by rw [List.length_append]; omega),
        List.take_append_of_le_length long, List.drop_append_of_le_length long]
    · exact done long
    · exact failed long

/-- The rest of the challenge's packet is there. -/
def ChallengeThere (input : Bytes) : Prop :=
  sizeofChallenge - 4 ≤ ofBytes ((input.take 4).drop 2) ∧
    4 + ofBytes ((input.take 4).drop 2) ≤ input.length

def challengeBuf (input : Bytes) : Bytes :=
  input.take (4 + ofBytes ((input.take 4).drop 2))

lemma recvChallenge_of_there (there : ChallengeThere input) (more : Bytes) :
    recvChallenge (input ++ more) =
      (input.drop (challengeBuf input).length ++ more, some (challengeBuf input)) := by
  obtain ⟨least, fits⟩ := there
  rw [sizeofChallenge] at least
  have four : 4 ≤ input.length := by omega
  have length : (challengeBuf input).length = 4 + ofBytes ((input.take 4).drop 2) := by
    rw [challengeBuf, List.length_take]
    omega
  have rest : (input.drop 4 ++ more).length ≥ ofBytes ((input.take 4).drop 2) := by
    rw [List.length_append, List.length_drop]
    omega
  have body : ofBytes ((input.take 4).drop 2) ≤ (input.drop 4).length := by
    rw [List.length_drop]
    omega
  rw [recvChallenge, if_neg (by rw [List.length_append, sizeofChallenge]; omega)]
  simp only [List.take_append_of_le_length four, List.drop_append_of_le_length four]
  rw [if_neg (by rw [sizeofChallenge]; omega), List.take_append_of_le_length body,
    List.drop_append_of_le_length body, List.drop_drop, length, challengeBuf, List.take_add]

lemma handleChallenge_steady (there : sizeofChallenge ≤ input.length → ChallengeThere input)
    (done : sizeofChallenge ≤ input.length → (body (challengeBuf input)).2 = true →
      (body (challengeBuf input)).1.shut = false)
    (failed : sizeofChallenge ≤ input.length → (body (challengeBuf input)).2 = false →
      (body (challengeBuf input)).1.shut = true) :
    SteadyHandler (handleChallenge body st) st input := by
  by_cases short : input.length < sizeofChallenge
  · rw [SteadyHandler, handleChallenge, recvChallenge, if_pos short]
    exact .inl ⟨rfl, rfl⟩
  · have long : sizeofChallenge ≤ input.length := Nat.not_lt.mp short
    apply SteadyHandler.of_body (input.drop (challengeBuf input).length)
      (body (challengeBuf input))
    · intro more
      rw [handleChallenge, recvChallenge_of_there (there long)]
    · exact done long
    · exact failed long

lemma recvToken_append (env : Environment) {size : UInt8} {text : Bytes}
    (there : size.toNat ≤ text.length) (more : Bytes) :
    recvToken env (size :: text ++ more) =
      ((text.take size.toNat).takeWhile (· != 0), text.drop size.toNat ++ more) := by
  rw [recvToken]
  simp only [List.cons_append, List.headD_cons, List.drop_succ_cons, List.drop_zero]
  rw [if_neg (by rw [List.length_append]; omega), List.take_append_of_le_length there,
    List.drop_append_of_le_length there]

lemma HandleLogonProof_append (env : Environment) (st : State) (long : sizeofLogonProof ≤ input.length)
    (more : Bytes) : HandleLogonProof env st (input ++ more) =
      match st.logonProof env (LogonProof.parse (input.take sizeofLogonProof)) with
      | (t, false) => (t, input.drop sizeofLogonProof ++ more, true)
      | (t, true) =>
        let (token, rest) := recvToken env (input.drop sizeofLogonProof ++ more)
        if env.GenerateToken t.session._tokenKey t.db.now ≠ atoi token then
          (t.send failPacket, rest, false)
        else
          ((t.note (.token t.session._login)).accept env
            ((LogonProof.parse (input.take sizeofLogonProof)).digest env st.session)
            (LogonProof.parse (input.take sizeofLogonProof)).number, rest, true) := by
  have enough : ¬ (input ++ more).length < sizeofLogonProof := by
    rw [List.length_append]
    omega
  have taken : (input ++ more).take sizeofLogonProof = input.take sizeofLogonProof :=
    List.take_append_of_le_length long
  have dropped : (input ++ more).drop sizeofLogonProof = input.drop sizeofLogonProof ++ more :=
    List.drop_append_of_le_length long
  rw [← taken, ← dropped]
  exact if_neg enough

lemma HandleLogonProof_steady (opened : st.shut = false)
    (whole : sizeofLogonProof ≤ input.length →
      let lp := LogonProof.parse (input.take sizeofLogonProof)
      ¬ (st.session._expversion = NO_VALID_EXP_FLAG ∨ lp.number = 0) ∧
        (lp.right env st.session = true → lp.asksToken st.session = true →
          st.TokenRight env (input.drop sizeofLogonProof))) :
    SteadyHandler (HandleLogonProof env st) st input := by
  by_cases short : input.length < sizeofLogonProof
  · rw [SteadyHandler, HandleLogonProof, if_pos short]
    exact .inl ⟨rfl, rfl⟩
  · have long : sizeofLogonProof ≤ input.length := Nat.not_lt.mp short
    obtain ⟨valid, right⟩ := whole long
    have shut := State.logonProof_shut env valid
    have asks := State.logonProof_token env st
      (LogonProof.parse (input.take sizeofLogonProof))
    have reads := HandleLogonProof_append env st long
    rcases result : st.logonProof env (LogonProof.parse (input.take sizeofLogonProof)) with
      ⟨t, asked⟩
    rw [result, opened] at shut
    rw [result] at asks
    rw [result] at reads
    cases asked with
    | false =>
      apply SteadyHandler.of_body (input.drop sizeofLogonProof) (t, true) reads
      · exact fun _ => shut
      · exact fun failed => by cases failed
    | true =>
      obtain ⟨isRight, needs, key, now⟩ := asks rfl
      obtain ⟨size, text, isText, there, token⟩ := right isRight needs
      rw [isText] at reads
      simp only at key now
      apply SteadyHandler.of_body (text.drop size.toNat)
        ((t.note (.token t.session._login)).accept env
          ((LogonProof.parse (input.take sizeofLogonProof)).digest env st.session)
          (LogonProof.parse (input.take sizeofLogonProof)).number, true)
      · intro more
        rw [reads, recvToken_append env there]
        simp [key, now, token]
      · intro _
        simp only [State.accept_shut, State.note_shut]
        exact shut
      · exact fun failed => by cases failed

lemma HandleXferCancel_length (env : Environment) (st : State) (some : input ≠ []) :
    (HandleXferCancel env st input).2.1.length < input.length := by
  have positive := List.length_pos_iff.mpr some
  rw [HandleXferCancel, List.length_drop]
  omega

lemma handleFixed_length {size : ℕ} (positive : 0 < size)
    (done : (handleFixed size body st input).2.2 = true) :
    (handleFixed size body st input).2.1.length < input.length := by
  rw [handleFixed] at done ⊢
  split at done
  · cases done
  next long =>
    rw [if_neg long, List.length_drop]
    omega

lemma recvChallenge_length {rest : Bytes} (read : recvChallenge input = (rest, some buf)) :
    rest.length < input.length := by
  rw [recvChallenge] at read
  split at read
  · cases read
  next long =>
    rw [sizeofChallenge] at long
    simp only at read
    split at read
    · cases read
    next there =>
      cases read
      rw [List.length_drop, List.length_drop]
      omega

lemma handleChallenge_length (done : (handleChallenge body st input).2.2 = true) :
    (handleChallenge body st input).2.1.length < input.length := by
  rw [handleChallenge] at done ⊢
  rcases read : recvChallenge input with ⟨rest, buf⟩
  rw [read] at done
  cases buf with
  | none => cases done
  | some buf => exact recvChallenge_length read

lemma recvToken_length (env : Environment) (input : Bytes) :
    (recvToken env input).2.length ≤ input.length := by
  rw [recvToken]
  simp only
  split <;> simp only [List.length_drop] <;> omega

lemma HandleLogonProof_length (done : (HandleLogonProof env st input).2.2 = true) :
    (HandleLogonProof env st input).2.1.length < input.length := by
  by_cases short : input.length < sizeofLogonProof
  · rw [HandleLogonProof, if_pos short] at done
    cases done
  · have fixed : (input.drop sizeofLogonProof).length < input.length := by
      rw [sizeofLogonProof] at short ⊢
      rw [List.length_drop]
      omega
    have token := recvToken_length env (input.drop sizeofLogonProof)
    rw [HandleLogonProof, if_neg short] at done ⊢
    rcases result : st.logonProof env (LogonProof.parse (input.take sizeofLogonProof)) with
      ⟨t, asked⟩
    simp only [result] at done ⊢
    cases asked with
    | false => exact fixed
    | true =>
      simp only at done ⊢
      split at done
      · cases done
      next right =>
        rw [if_neg right]
        exact token.trans_lt fixed

lemma handler_length (env : Environment) (st : State) (c : Command) (some : input ≠ [])
    (done : (c.handler env st input).2.2 = true) :
    (c.handler env st input).2.1.length < input.length := by
  cases c with
  | logonChallenge => exact handleChallenge_length done
  | logonProof => exact HandleLogonProof_length done
  | reconnectChallenge => exact handleChallenge_length done
  | reconnectProof => exact handleFixed_length (by decide) done
  | realmList => exact handleFixed_length (by decide) done
  | xferAccept => cases done
  | xferResume => cases done
  | xferCancel => exact HandleXferCancel_length env st some

/-! ### The loop as a reader -/

def reader (env : Environment) : Reader State UInt8 where
  turn := turn env
  closed := State.shut
  shrinks st input t rest taken := by
    cases input with
    | nil => cases taken
    | cons cmd tail =>
      rw [turn] at taken
      cases found : command cmd st.session._authed with
      | none =>
        rw [found] at taken
        cases taken
      | some c =>
        have shorter := handler_length env st c (List.cons_ne_nil cmd tail)
        rw [found] at taken
        rcases result : c.handler env st (cmd :: tail) with ⟨t', rest', ok⟩
        rw [result] at shorter
        simp only [result] at taken
        cases ok with
        | true =>
          cases taken
          exact shorter rfl
        | false => cases taken

@[simp] lemma reader_turn : (reader env).turn = turn env := rfl

lemma OnRead_none (fuel challengesInARow : ℕ) (st : State) (input : Bytes) :
    OnRead env none fuel challengesInARow st input = (reader env).turns fuel st input := by
  induction fuel generalizing challengesInARow st input with
  | zero => rfl
  | succ fuel ih =>
    rw [OnRead, Reader.turns]
    have noLimit : ¬ (input.head? = some 0x00 ∧ (none : Option ℕ) =
        some (if input.head? = some 0x00 then challengesInARow + 1 else challengesInARow)) := by
      rintro ⟨_, limit⟩
      cases limit
    simp only [noLimit, if_false, reader_turn]
    cases turn env st input with
    | again t rest => exact ih _ t rest
    | stop t rest => rfl

lemma handleInput_none (p : State × Bytes) (received : Bytes) :
    handleInput env none p received = (reader env).feed p received := by
  rw [handleInput, Reader.feed, Reader.drain, OnRead_none]
  rfl

/-! ### What the handlers need -/

/-- The condition of a handler's call: when it begins to take its packet, the packet is there, and
the call does not end the loop with an open connection or go on with a closed one. -/
def Command.Whole (env : Environment) (st : State) (input : Bytes) : Command → Prop
  | logonChallenge => sizeofChallenge ≤ input.length →
    ChallengeThere input ∧ (Challenge.parse (challengeBuf input)).os.length ≤ 4
  | reconnectChallenge => sizeofChallenge ≤ input.length →
    ChallengeThere input ∧
      ((Challenge.parse (challengeBuf input)).os.length ≤ 4 ∨
        st.db.account env (Challenge.parse (challengeBuf input)).I = none)
  | logonProof => sizeofLogonProof ≤ input.length →
    let lp := LogonProof.parse (input.take sizeofLogonProof)
    ¬ (st.session._expversion = NO_VALID_EXP_FLAG ∨ lp.number = 0) ∧
      (lp.right env st.session = true → lp.asksToken st.session = true →
        st.TokenRight env (input.drop sizeofLogonProof))
  | reconnectProof => sizeofReconnectProof ≤ input.length →
    ¬ (st.session._login = [] ∨ st.session._reconnectProof = 0 ∨ st.session.K = 0)
  | realmList => True
  | xferAccept => True
  | xferResume => True
  | xferCancel => False

/-- The condition of a turn -/
def Whole (env : Environment) (st : State) (input : Bytes) : Prop :=
  ∀ cmd ∈ input.head?, ∀ c ∈ command cmd st.session._authed, c.Whole env st input

lemma Command.Whole.steady {c : Command} (whole : c.Whole env st input)
    (opened : st.shut = false) :
    SteadyHandler (c.handler env st) st input := by
  cases c with
  | logonChallenge =>
    apply handleChallenge_steady
    · exact fun long => (whole long).1
    · exact fun _ _ => State.logonChallenge_shut.trans opened
    · intro long failed
      rw [State.logonChallenge_ok (whole long).2] at failed
      cases failed
  | logonProof => exact HandleLogonProof_steady opened whole
  | reconnectChallenge =>
    apply handleChallenge_steady
    · exact fun long => (whole long).1
    · exact fun _ done => (State.reconnectChallenge_shut done).trans opened
    · exact fun long failed => State.reconnectChallenge_fails failed (whole long).2
  | reconnectProof =>
    apply handleFixed_steady
    · exact fun _ done => (State.reconnectProof_shut done).trans opened
    · exact fun long failed => State.reconnectProof_fails failed (whole long)
  | realmList =>
    change SteadyHandler (handleFixed 5 (fun _ => st.realmList env) st) st input
    apply handleFixed_steady
    · exact fun _ done => (State.realmList_shut done).trans opened
    · exact fun _ failed => State.realmList_fails failed
  | xferAccept => exact .inl ⟨rfl, rfl⟩
  | xferResume => exact .inl ⟨rfl, rfl⟩
  | xferCancel => exact whole.elim

lemma turn_cons (env : Environment) (st : State) (cmd : UInt8) (tail more : Bytes) :
    (reader env).turn st (cmd :: tail ++ more) =
      match command cmd st.session._authed with
      | none => .stop st.shutdown (cmd :: tail ++ more)
      | some c =>
        match c.handler env st (cmd :: tail ++ more) with
        | (t, rest, true) =>
          .again { t with calls := t.calls ++ [(cmd :: tail ++ more).take
            ((cmd :: tail ++ more).length - rest.length)] } rest
        | (t, rest, false) => .stop t rest := rfl

lemma Whole.steady (opened : st.shut = false) (whole : Whole env st input) :
    (reader env).Steady st input := by
  cases input with
  | nil => exact .inl ⟨rfl, rfl⟩
  | cons cmd tail =>
    have hs := turn_cons env st cmd tail
    have here := hs []
    rw [List.append_nil] at here
    rw [Reader.Steady, here]
    cases hf : command cmd st.session._authed with
    | none =>
      rw [hf] at hs
      exact .inr ⟨rfl, hs⟩
    | some c =>
      have steady := Command.Whole.steady (whole cmd rfl c hf) opened
      have length := handler_length env st c (List.cons_ne_nil cmd tail)
      rw [hf] at hs
      rw [SteadyHandler] at steady
      simp only
      rcases result : c.handler env st (cmd :: tail) with ⟨t, rest, ok⟩
      rw [result] at steady length
      cases ok with
      | true =>
        obtain ⟨isOpen, again⟩ := steady
        refine ⟨isOpen, fun more => ?_⟩
        rw [hs more]
        simp only [again more]
        -- the packet of the call is the same
        have taken : (cmd :: tail ++ more).length - (rest ++ more).length =
            (cmd :: tail).length - rest.length := by
          rw [List.length_append, List.length_append]
          omega
        rw [taken, List.take_append_of_le_length (Nat.sub_le _ _)]
      | false =>
        rcases steady with waits | ⟨closed, again⟩
        · exact .inl waits
        · refine .inr ⟨closed, fun more => ?_⟩
          rw [hs more]
          simp only [again more]

/-- However the stream is cut, the connection and the database end in the same state, with the same
calls and responses: if each turn, but on the last piece, has what it needs. The limit of challenges
is left out. -/
theorem segmentation (p : State × Bytes) (first : Bytes) (pieces : List Bytes)
    (whole : (reader env).Finely (Whole env) p (first :: pieces)) :
    (reader env).Same ((first :: pieces).foldl (handleInput env none) p)
      (handleInput env none p (first :: pieces).flatten) := by
  have feed : handleInput env none = (reader env).feed := by
    funext p received
    exact handleInput_none p received
  rw [feed]
  exact Reader.foldl_feed_same (fun _ _ opened whole => Whole.steady opened whole) whole

def quiet : Environment where
  SHA1 _ := ⟨List.replicate 20 0, rfl⟩
  SetRand _ _ := 1
  GenerateToken _ _ := 0
  sameName name name' := name == name'
  inet_addr _ := 0
  garbage _ := 0
  realmList _ _ _ _ := []
  MaxWrongPassCount := 0
  WrongPassBanTime := 600
  WrongPassBanType := false

def nobody : State := .connect ⟨[], [], [], [], 0⟩ 0 []

/-- The challenge of a client with the build 18414 for the account AB, without its last byte. -/
def challengeAB : Bytes :=
  [0x00, 0x08, 32, 0, 0x57, 0x6F, 0x57, 0, 5, 4, 8, 0xEE, 0x47, 0x36, 0x38, 0x78, 0, 0x6E, 0x69,
    0x57, 0, 0x53, 0x55, 0x6E, 0x65, 0, 0, 0, 0, 127, 0, 0, 1, 2, 0x41]

/-- The first 20 bytes and then the rest. -/
theorem segmentation_challengeAB :
    (reader quiet).Same
      ([challengeAB.take 20, challengeAB.drop 20 ++ [0x42]].foldl (handleInput quiet none)
        (nobody, []))
      (handleInput quiet none (nobody, [])
        [challengeAB.take 20, challengeAB.drop 20 ++ [0x42]].flatten) := by
  apply segmentation
  refine .inr ⟨.stop ?_ rfl, trivial⟩
  intro cmd isFirst c found
  obtain rfl : cmd = 0x00 := (Option.some.inj isFirst).symm
  obtain rfl : c = .logonChallenge := (Option.some.inj found).symm
  exact fun long => absurd long (by decide)

/-- If all but the last byte come first, the challenge is not answered. -/
theorem not_segmentation : ¬ ∀ (env : Environment) (p : State × Bytes) (first : Bytes)
    (pieces : List Bytes),
    (reader env).Same ((first :: pieces).foldl (handleInput env none) p)
      (handleInput env none p (first :: pieces).flatten) := by
  intro law
  have same := law quiet (nobody, []) challengeAB [[0x42]]
  have sent := congrArg State.sent same.1
  revert sent
  decide

end WorldServer.Auth
