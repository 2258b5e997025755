import WorldServer.Auth.PasswordExchange

/-!
# Big numbers in arrays of a fixed width

A number is read from bytes in little endian and written to an array with a minimal size. The array
is filled from the wrong end: what is missing to the minimal size comes out before the lowest byte.
Where no minimal size is given an array may be shorter than the copy that is made of it.
-/
namespace WorldServer.Auth

open WorldServer.Lib

def SHA_DIGEST_LENGTH : ℕ := 20

/-- The number of an array that begins with the highest byte -/
def bin2bn (bytes : Bytes) : ℕ := bytes.foldl (fun n b => n * 256 + b.toNat) 0

def SetBinary (bytes : Bytes) : ℕ := bin2bn bytes.reverse

lemma SetBinary_eq (bytes : Bytes) : SetBinary bytes = ofBytes bytes := by
  rw [SetBinary, bin2bn, List.foldl_reverse]
  induction bytes with
  | nil => rfl
  | cons b bytes ih =>
    rw [List.foldr_cons, ih, ofBytes]
    omega

/-! ### What is copied and compared -/

/-- A copy or a comparison of so many bytes from the beginning of an array -/
structure Access where
  array : Bytes
  count : ℕ
deriving DecidableEq, Repr

def Access.Inside (access : Access) : Prop := access.count ≤ access.array.length

/-- A number as `UpdateBigNumbers` reads it: all bytes of it. -/
def wholeNumber (n : ℕ) : Access := ⟨asBytes 0 n, numBytes n⟩

def setVSFieldsAccesses (rI s : ℕ) : List Access :=
  (if numBytes rI ≤ SHA_DIGEST_LENGTH then [wholeNumber rI] else []) ++ [wholeNumber s]

def logonChallengeAccesses (srp : Srp) (unk3 : ℕ) : List Access :=
  [⟨asBytes 32 srp.B, 32⟩, ⟨asBytes 0 g, 1⟩, ⟨asBytes 32 N, 32⟩, wholeNumber srp.s,
    ⟨asBytes 16 unk3, 16⟩]

namespace LogonProof

variable (env : Environment) (lp : LogonProof) (a : AuthSocket)

instance : Decidable (a.rejects lp) :=
  inferInstanceAs (Decidable (a._expversion = NO_VALID_EXP_FLAG ∨ lp.number = 0))

def t3 : ℕ :=
  SetBinary (List.zipWith (· ^^^ ·) (env.SHA1 (asBytes 0 N)).bytes (env.SHA1 (asBytes 0 g)).bytes)

def M : ℕ := SetBinary (lp.digest env a).bytes

/-- The comparison with `M1` takes the bytes of `M` without a minimal size. -/
def accesses : List Access :=
  if a.rejects lp then []
  else
    [wholeNumber lp.number, wholeNumber a.srp.B, ⟨asBytes 32 (a.srp.S lp.number (lp.u env a)), 32⟩,
      wholeNumber N, wholeNumber g, wholeNumber (t3 env), wholeNumber a.srp.s,
      wholeNumber lp.number, wholeNumber a.srp.B, wholeNumber (lp.key env a),
      ⟨asBytes 0 (lp.M env a), 20⟩] ++
    if lp.right env a then
      [wholeNumber lp.number, wholeNumber (lp.M env a), wholeNumber (lp.key env a)]
    else []

end LogonProof

/-! ### Widths -/

lemma numBytes_le_iff (n k : ℕ) : numBytes n ≤ k ↔ n < 256 ^ k := by
  rw [numBytes, Nat.digits_length_le_iff (by decide)]

lemma ofBytes_append_zeros (k : ℕ) (bytes : Bytes) :
    ofBytes (List.replicate k 0 ++ bytes) = 256 ^ k * ofBytes bytes := by
  induction k with
  | zero => simp
  | succ k ih =>
    rw [List.replicate_succ, List.cons_append, ofBytes, ih, pow_succ']
    simp [mul_assoc]

/-- Each byte that is missing multiplies the number that is read back. -/
lemma ofBytes_asBytes (minSize n : ℕ) :
    ofBytes (asBytes minSize n) = 256 ^ (minSize - numBytes n) * n := by
  have less : n < 256 ^ numBytes n := (numBytes_le_iff n _).mp le_rfl
  rw [asBytes_eq, ofBytes_append_zeros, ofBytes_toBytes, Nat.mod_eq_of_lt less]

lemma SetBinary_asBytes_iff (minSize n : ℕ) :
    SetBinary (asBytes minSize n) = n ↔ n = 0 ∨ minSize ≤ numBytes n := by
  rw [SetBinary_eq, ofBytes_asBytes]
  constructor
  · intro same
    by_contra! wide
    have factor : 1 < 256 ^ (minSize - numBytes n) := Nat.one_lt_pow (by omega) (by decide)
    have := Nat.mul_lt_mul_of_pos_right factor (Nat.pos_of_ne_zero wide.1)
    omega
  · rintro (zero | narrow)
    · rw [zero, mul_zero]
    · rw [Nat.sub_eq_zero_of_le narrow, pow_zero, one_mul]

lemma numBytes_eq_length_iff {bytes : Bytes} (some_ : bytes ≠ []) :
    numBytes (ofBytes bytes) = bytes.length ↔ bytes.getLast? ≠ some 0 := by
  rw [List.getLast?_eq_some_getLast some_]
  constructor
  · intro full zero
    rw [Option.some_inj] at zero
    -- the last byte counts for nothing
    have shorter : ofBytes bytes = ofBytes bytes.dropLast := by
      have append : ∀ front : Bytes, ofBytes (front ++ [0]) = ofBytes front := by
        intro front
        induction front with
        | nil => rfl
        | cons b front ih => rw [List.cons_append, ofBytes, ofBytes, ih]
      conv_lhs => rw [← List.dropLast_append_getLast some_, zero, append]
    have less := ofBytes_lt bytes.dropLast
    rw [← shorter, ← numBytes_le_iff, full, List.length_dropLast] at less
    have := List.length_pos_of_ne_nil some_
    omega
  · intro last
    exact numBytes_ofBytes some_ fun zero => last (by rw [zero])

lemma ofBytes_eq_zero_iff (bytes : Bytes) : ofBytes bytes = 0 ↔ ∀ b ∈ bytes, b = 0 := by
  induction bytes with
  | nil => simp [ofBytes]
  | cons b bytes ih =>
    rw [ofBytes, List.forall_mem_cons, ← ih, Nat.add_eq_zero_iff, Nat.mul_eq_zero]
    simp [← UInt8.toNat_inj]

lemma asBytes_SetBinary_iff (bytes : Bytes) :
    asBytes bytes.length (SetBinary bytes) = bytes ↔
      bytes.getLast? ≠ some 0 ∨ ∀ b ∈ bytes, b = 0 := by
  rw [SetBinary_eq]
  by_cases some_ : bytes = []
  · rw [some_]
    decide
  have small : numBytes (ofBytes bytes) ≤ bytes.length :=
    (numBytes_le_iff _ _).mpr (ofBytes_lt bytes)
  rw [← numBytes_eq_length_iff some_, ← ofBytes_eq_zero_iff]
  constructor
  · intro same
    have back := (SetBinary_asBytes_iff bytes.length (ofBytes bytes)).mp (by
      rw [same, SetBinary_eq])
    omega
  · rintro (full | zero)
    · rw [asBytes_eq, full, Nat.sub_self, List.replicate_zero, List.nil_append, toBytes_ofBytes]
    · have all := (ofBytes_eq_zero_iff bytes).mp zero
      rw [zero, asBytes_eq]
      simpa [numBytes, toBytes] using (List.eq_replicate_of_mem all).symm

/-! ### Accesses -/

lemma inside_wholeNumber (n : ℕ) : (wholeNumber n).Inside := by
  rw [Access.Inside, wholeNumber, length_asBytes]
  exact le_max_right 0 _

lemma inside_of_le {minSize count : ℕ} (wide : count ≤ minSize) (n : ℕ) :
    Access.Inside ⟨asBytes minSize n, count⟩ := by
  rw [Access.Inside, length_asBytes]
  exact wide.trans (le_max_left _ _)

lemma inside_setVSFields (rI s : ℕ) : ∀ access ∈ setVSFieldsAccesses rI s, access.Inside := by
  intro access hm
  rw [setVSFieldsAccesses, List.mem_append, List.mem_singleton] at hm
  rcases hm with first | rfl
  · split at first
    · rw [List.mem_singleton.mp first]
      exact inside_wholeNumber rI
    · cases first
  · exact inside_wholeNumber s

lemma inside_logonChallenge (srp : Srp) (unk3 : ℕ) :
    ∀ access ∈ logonChallengeAccesses srp unk3, access.Inside := by
  have one : Access.Inside ⟨asBytes 0 g, 1⟩ := by
    rw [Access.Inside, length_asBytes]
    norm_num [numBytes, g]
  simp only [logonChallengeAccesses, List.forall_mem_cons]
  exact ⟨inside_of_le le_rfl _, one, inside_of_le le_rfl _, inside_wholeNumber _,
    inside_of_le le_rfl _, List.forall_mem_nil _⟩

namespace LogonProof

variable {env : Environment} {lp : LogonProof} {a : AuthSocket}

/-- Only the comparison with `M1` may leave its array. -/
lemma inside_accesses_iff :
    (∀ access ∈ lp.accesses env a, access.Inside) ↔
      a.rejects lp ∨ (lp.digest env a).bytes.getLast? ≠ some 0 := by
  rw [accesses]
  by_cases rejects : a.rejects lp
  · simp [rejects]
  have length := (lp.digest env a).length
  have some_ : (lp.digest env a).bytes ≠ [] := by
    intro empty
    rw [empty] at length
    cases length
  have small : numBytes (lp.M env a) ≤ 20 := by
    rw [numBytes_le_iff, M, SetBinary_eq, ← length]
    exact ofBytes_lt _
  have compared : Access.Inside ⟨asBytes 0 (lp.M env a), 20⟩ ↔
      (lp.digest env a).bytes.getLast? ≠ some 0 := by
    rw [← numBytes_eq_length_iff some_, ← SetBinary_eq, length, Access.Inside, length_asBytes]
    change 20 ≤ max 0 (numBytes (lp.M env a)) ↔ numBytes (lp.M env a) = 20
    omega
  have answered : ∀ access ∈ (if lp.right env a then
      [wholeNumber lp.number, wholeNumber (lp.M env a), wholeNumber (lp.key env a)] else []),
      access.Inside := by
    intro access hm
    split at hm
    · simp only [List.mem_cons, List.not_mem_nil, or_false] at hm
      rcases hm with rfl | rfl | rfl <;> exact inside_wholeNumber _
    · cases hm
  rw [if_neg rejects, ← compared]
  simp only [List.forall_mem_append, List.forall_mem_cons, inside_wholeNumber, inside_of_le le_rfl,
    true_and, List.not_mem_nil, false_imp_iff, implies_true, and_true, rejects, false_or]
  exact and_iff_left answered

end LogonProof

/-- An array comes back if its highest byte is not zero, or if all its bytes are. A number comes
back from the array of a minimal size if it fills it, or is zero. No copy leaves its array, and the
comparison does not if the highest byte of the digest is not zero. -/
theorem fixedWidth_iff (bytes : Bytes) (minSize n rI s unk3 : ℕ) (srp : Srp) (env : Environment)
    (lp : LogonProof) (a : AuthSocket) :
    (asBytes bytes.length (SetBinary bytes) = bytes ↔
      bytes.getLast? ≠ some 0 ∨ ∀ b ∈ bytes, b = 0) ∧
    (SetBinary (asBytes minSize n) = n ↔ n = 0 ∨ minSize ≤ numBytes n) ∧
    (∀ access ∈ setVSFieldsAccesses rI s ++ logonChallengeAccesses srp unk3, access.Inside) ∧
    ((∀ access ∈ lp.accesses env a, access.Inside) ↔
      a.rejects lp ∨ (lp.digest env a).bytes.getLast? ≠ some 0) := by
  refine ⟨asBytes_SetBinary_iff bytes, SetBinary_asBytes_iff minSize n, ?_,
    LogonProof.inside_accesses_iff⟩
  rw [List.forall_mem_append]
  exact ⟨inside_setVSFields rI s, inside_logonChallenge srp unk3⟩

/-- The number 1 in two bytes becomes the number 256. -/
theorem high_zero_moves :
    asBytes 2 (SetBinary [1, 0]) = [0, 1] ∧ SetBinary (asBytes 2 1) = 256 := by
  have one : numBytes 1 = 1 := by norm_num [numBytes]
  have number : SetBinary [1, 0] = 1 := rfl
  refine ⟨?_, ?_⟩
  · rw [number, asBytes_eq, one]
    rfl
  · rw [SetBinary_eq, ofBytes_asBytes, one]
    norm_num

end WorldServer.Auth
