import Mathlib.Tactic.NormNum.Prime
import Mathlib.Tactic.ReduceModChar
import WorldServer.Auth.AuthSocket
import WorldServer.Lib.Primality

/-!
# The password exchange

From the client's `A` and its own verifier and secret the server computes a number that the client
computes from the server's `B` and the password's hash; the session key is hashed from it. The two
agree. Since a client could send an `A` that makes the number zero whatever the password is, the
handler refuses zero; but the numbers count modulo `N`, and `N` itself fits into the 32 bytes too.
-/
namespace WorldServer.Auth

open WorldServer.Lib

/-! ### The modulus -/

lemma prime_2194081313 : Nat.Prime 2194081313 := by
  have first := dvd_pred_of_power (n := 2194081313) (k := 360928) 2 1369642448
    (show Nat.Prime 6079 by norm_num) (by reduce_mod_char) (by reduce_mod_char)
  have second := dvd_pred_of_power (n := 2194081313) (k := 194528) 2 1657146425
    (show Nat.Prime 11279 by norm_num) (by reduce_mod_char) (by reduce_mod_char)
  refine prime_of_part (6079 * 11279) (by norm_num) (by norm_num) ?_
  intro p factor divides
  exact Nat.Coprime.mul_dvd_of_dvd_of_dvd (by norm_num) (first p factor divides)
    (second p factor divides)

lemma prime_1573682880936379 : Nat.Prime 1573682880936379 := by
  have smaller : Nat.Prime 6099546050141 := prime_of_part _ (by norm_num) (by norm_num)
    (dvd_pred_of_power (k := 2780) 2 2582555015269 prime_2194081313 (by reduce_mod_char)
      (by reduce_mod_char))
  exact prime_of_part _ (by norm_num) (by norm_num)
    (dvd_pred_of_power (k := 258) 2 996982822270978 smaller (by reduce_mod_char)
      (by reduce_mod_char))

lemma prime_2279079126837977412406933585396045119937459 :
    Nat.Prime 2279079126837977412406933585396045119937459 := by
  have first := dvd_pred_of_power (n := 2279079126837977412406933585396045119937459)
    (k := 1448245484809411381273069302) 2 107985112481952257481138871615578606717626
    prime_1573682880936379 (by reduce_mod_char) (by reduce_mod_char)
  have second := dvd_pred_of_power (n := 2279079126837977412406933585396045119937459)
    (k := 81143636476525163904523765711457946) 2 1114723922799501388080254412356831337137899
    (show Nat.Prime 28086973 by norm_num) (by reduce_mod_char) (by reduce_mod_char)
  refine prime_of_part (1573682880936379 * 28086973) (by norm_num) (by norm_num) ?_
  intro p factor divides
  exact Nat.Coprime.mul_dvd_of_dvd_of_dvd (by norm_num) (first p factor divides)
    (second p factor divides)

lemma prime_N : N.Prime := by
  have half : Nat.Prime
      31050033254578008671034748070451474931624879168000398464283220585146864324059 :=
    prime_of_part _ (by norm_num) (by norm_num)
      (dvd_pred_of_power (k := 13623938234060881027464828223702462) 2
        13602639573707913569147509216913392466171507344570586265448762545027988230786
        prime_2279079126837977412406933585396045119937459 (by reduce_mod_char)
        (by reduce_mod_char))
  exact prime_of_part _ (by norm_num [N]) (by norm_num [N])
    (dvd_pred_of_power (n := N) (k := 2) 2
      20700022169718672447356498713634316621083252778666932309522147056764576216040 half
      (by unfold N; reduce_mod_char) (by unfold N; reduce_mod_char))

/-! ### The number that both sides compute -/

/-- What the server computes for the scrambler `u`. -/
def Srp.S (srp : Srp) (A u : ℕ) : ℕ := modExp (A * modExp srp.v u N) srp.b N

/-- What the client computes from its secret `a` and the password's hash `x`. -/
def clientS (B x a u : ℕ) : ℤ := ((B : ℤ) - 3 * (g : ℤ) ^ x) ^ (a + u * x) % (N : ℤ)

/-- The session key from the number: the digests of its even and of its odd bytes, in turn. -/
def hashS (env : Environment) (S : ℕ) : ℕ :=
  let t := (asBytes 32 S).take 32
  let half := fun odd => (List.range 16).map fun i => (t.drop (i * 2 + odd)).headD 0
  ofBytes (interleave (env.SHA1 (half 0)).bytes (env.SHA1 (half 1)).bytes)

namespace LogonProof

variable (env : Environment) (lp : LogonProof) (a : AuthSocket)

def u : ℕ := ofBytes (env.SHA1 (asBytes 0 lp.number ++ asBytes 0 a.srp.B)).bytes

end LogonProof

/-- The handler closes the connection before it computes anything. -/
def AuthSocket.rejects (a : AuthSocket) (lp : LogonProof) : Prop :=
  a._expversion = NO_VALID_EXP_FLAG ∨ lp.number = 0

section Handler

variable (env : Environment) (st : State) (lp : LogonProof) (a : AuthSocket)

/-- The key of a proof is hashed from the server's number. -/
lemma LogonProof.key_eq : lp.key env a = hashS env (a.srp.S lp.number (lp.u env a)) := by
  unfold LogonProof.key sessionKey
  rfl

variable {st lp}

lemma State.logonProof_of_rejects (rejects : st.session.rejects lp) :
    st.logonProof env lp = (st.shutdown, false) := by
  rw [State.logonProof]
  exact if_pos rejects

/-- Unless it closes the connection, the handler leaves the key of its number in the session. -/
lemma State.logonProof_K (goesOn : ¬ st.session.rejects lp) :
    (st.logonProof env lp).1.session.K =
      hashS env (st.session.srp.S lp.number (lp.u env st.session)) := by
  rw [AuthSocket.rejects] at goesOn
  rw [State.logonProof, if_neg goesOn, ← LogonProof.key_eq]
  split
  · dsimp only
    split
    · rfl
    · simp [State.accept, State.storeKey]
  · obtain ⟨db, counted⟩ :=
      ((st.withSession fun a => { a with K := lp.key env a }).send failPacket).countFailure_eq env
    simp [counted]

end Handler

/-- The server's values fit the password's hash `x`. -/
structure Srp.For (srp : Srp) (x : ℕ) : Prop where
  v : srp.v = modExp g x N
  B : srp.B = (srp.v * 3 + modExp g srp.b N) % N

lemma Srp.S_eq (srp : Srp) (A u : ℕ) : srp.S A u = (A * srp.v ^ u) ^ srp.b % N := by
  rw [Srp.S, modExp_eq, modExp_eq, Nat.pow_mod, Nat.mul_mod, Nat.mod_mod, ← Nat.mul_mod,
    ← Nat.pow_mod]

lemma Srp.For.agree {srp : Srp} {x : ℕ} (for_ : srp.For x) (a u : ℕ) :
    (srp.S (modExp g a N) u : ℤ) = clientS srp.B x a u := by
  have verifier : (srp.v : ZMod N) = (g : ZMod N) ^ x := by
    rw [for_.v, modExp_eq, ZMod.natCast_mod, Nat.cast_pow]
  have public_ : (srp.B : ZMod N) = 3 * (g : ZMod N) ^ x + (g : ZMod N) ^ srp.b := by
    rw [for_.B, modExp_eq, ZMod.natCast_mod, Nat.cast_add, ZMod.natCast_mod, Nat.cast_mul, verifier,
      Nat.cast_pow, mul_comm]
    rfl
  rw [Srp.S_eq, clientS, modExp_eq, Int.natCast_mod]
  apply (ZMod.intCast_eq_intCast_iff' _ _ N).mp
  -- both are the power of g with the exponent b * (a + u * x)
  simp only [Int.cast_natCast, Nat.cast_pow, Nat.cast_mul, ZMod.natCast_mod, Int.cast_pow,
    Int.cast_sub, Int.cast_mul, Int.cast_ofNat, verifier, public_, add_sub_cancel_left]
  rw [← pow_mul, ← pow_add, ← pow_mul, ← pow_mul]
  congr 1
  ring

lemma Srp.dvd_S_iff (srp : Srp) (A u : ℕ) (verifier : ¬ N ∣ srp.v) :
    N ∣ srp.S A u ↔ N ∣ A ∧ srp.b ≠ 0 := by
  rw [Srp.S_eq, Nat.dvd_mod_iff dvd_rfl]
  by_cases zero : srp.b = 0
  · simp [zero, prime_N.one_lt.ne']
  · rw [prime_N.prime.dvd_pow_iff_dvd zero, prime_N.dvd_mul]
    have power : ¬ N ∣ srp.v ^ u := fun divides => verifier (prime_N.dvd_of_dvd_pow divides)
    simp [zero, power]

lemma LogonProof.dvd_number_iff {lp : LogonProof} (long : lp.A.length = 32) :
    N ∣ lp.number ↔ lp.number = 0 ∨ lp.number = N := by
  have less : lp.number < 2 * N := by
    have := ofBytes_lt lp.A
    rw [long] at this
    exact this.trans (by norm_num [N])
  constructor
  · rintro ⟨times, hs⟩
    have few : times < 2 := by
      by_contra more
      have := Nat.mul_le_mul_left N (not_lt.mp more)
      omega
    interval_cases times <;> simp [hs]
  · rintro (zero | hs)
    · simp [zero]
    · simp [hs]

/-- The two sides agree for all secrets. What the handler computes for a client of 32 bytes that it
does not refuse is not zero modulo `N` but for `N` itself. -/
theorem exchange_sound_iff (srp : Srp) (x a u : ℕ) (session : AuthSocket) (lp : LogonProof) :
    (srp.For x → (srp.S (modExp g a N) u : ℤ) = clientS srp.B x a u) ∧
    (lp.A.length = 32 → ¬ N ∣ session.srp.v →
      ((¬ session.rejects lp → ¬ N ∣ session.srp.S lp.number u) ↔
        (lp.number ≠ N ∨ session.srp.b = 0 ∨ session._expversion = NO_VALID_EXP_FLAG))) := by
  refine ⟨fun for_ => for_.agree a u, ?_⟩
  intro long verifier
  rw [Srp.dvd_S_iff _ _ _ verifier, LogonProof.dvd_number_iff long, AuthSocket.rejects]
  have nonzero : N ≠ 0 := by norm_num [N]
  grind

/-- A session after the challenge of an account whose password's hash is 1; the secret has 152 bits
and is odd, as the random number is drawn. -/
def challenged : AuthSocket :=
  let b := 2 ^ 151 + 1
  { AuthSocket.new with
    srp := ⟨0, 7, b, (7 * 3 + modExp g b N) % N⟩
    _expversion := POST_BC_EXP_FLAG }

/-- The client sends `N`, and the server's number is zero. -/
theorem modulus_accepted :
    let lp : LogonProof := ⟨toBytes 32 N, [], 0⟩
    challenged.srp.For 1 ∧ lp.A.length = 32 ∧ ¬ challenged.rejects lp ∧ ¬ N ∣ challenged.srp.v ∧
      ∀ u, N ∣ challenged.srp.S lp.number u := by
  have number : ofBytes (toBytes 32 N) = N := by
    norm_num [N]
  have verifier : ¬ N ∣ challenged.srp.v := by norm_num [N, challenged]
  refine ⟨⟨?_, ?_⟩, length_toBytes 32 N, ?_, verifier, ?_⟩
  · rw [modExp_eq]
    norm_num [N, g, challenged]
  · simp only [challenged]
  · rw [AuthSocket.rejects, LogonProof.number, number]
    norm_num [N, challenged, POST_BC_EXP_FLAG, NO_VALID_EXP_FLAG]
  · intro u
    rw [LogonProof.number, number, Srp.dvd_S_iff _ _ _ verifier]
    exact ⟨dvd_rfl, by norm_num [challenged]⟩

end WorldServer.Auth
