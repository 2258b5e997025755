import WorldServer.Chat.Commands

/-!
# The command that a word selects

A line calls at most one handler, and only a command's that the caller may use. An entry that a word
names, capitals apart, is passed over for an abbreviated one where the word is not spelled exactly
as any entry, and for any entry that the word fits where it cannot be used itself.
-/
namespace WorldServer.Chat

open WorldServer.Lib

/-! ### Handlers -/

def Effect.call? : Effect → Option ChatCommand
  | .handler cmd _ => some cmd
  | _ => none

/-- The commands whose handlers are called -/
def calls (effects : List Effect) : List ChatCommand := effects.filterMap Effect.call?

@[simp] lemma calls_nil : calls [] = [] := rfl

@[simp] lemma calls_append (effects more : List Effect) :
    calls (effects ++ more) = calls effects ++ calls more := List.filterMap_append

/-- At most one handler is called, and its command is one that the caller may use. -/
def Authorized (caller : Caller) (effects : List Effect) : Prop :=
  (calls effects).length ≤ 1 ∧ ∀ c ∈ calls effects, isAvailable caller c

lemma authorized_nil (caller : Caller) : Authorized caller [] := ⟨Nat.zero_le 1, nofun⟩

/-- Messages change nothing. -/
lemma Authorized.append {caller : Caller} {effects messages : List Effect}
    (authorized : Authorized caller effects) (silent : calls messages = []) :
    Authorized caller (effects ++ messages) := by
  rw [Authorized, calls_append, silent, List.append_nil]
  exact authorized

section

variable (handlers : Handlers) (caller : Caller)

lemma calls_afterHandler (c : ChatCommand) (handler : ℕ) (args fullcmd : Text) :
    calls (afterHandler handlers caller c handler args fullcmd) = [] := by
  fun_cases afterHandler handlers caller c handler args fullcmd <;> rfl

lemma taken_of_selected {table : List ChatCommand} {cmd : Text} {c : ChatCommand}
    (found : ((selected caller table cmd).bind fun i => table[i]?) = some c) :
    taken caller table cmd c = true := by
  obtain ⟨i, place, entry⟩ := Option.bind_eq_some_iff.mp found
  obtain ⟨inside, fits, -⟩ := List.findIdx?_eq_some_iff_getElem.mp place
  rw [List.getElem?_eq_getElem inside, Option.some_inj] at entry
  rwa [← entry]

lemma authorized_ExecuteCommandInTable (table : List ChatCommand) (text fullcmd : Text) :
    Authorized caller (ExecuteCommandInTable handlers caller table text fullcmd).2 := by
  fun_induction ExecuteCommandInTable handlers caller table text fullcmd with
  | case1 => exact authorized_nil caller
  | case2 table text _ _ c found children has sub _ ih => exact ih
  | case3 table text _ _ c found children has sub _ _ ih => exact ih.append rfl
  | case4 table text cmd rest c found none_ handler has args =>
    have fits := taken_of_selected caller found
    have called : calls (.handler c args :: afterHandler handlers caller c handler args fullcmd) =
        [c] := by
      have after := calls_afterHandler handlers caller c handler args fullcmd
      rw [calls] at after ⊢
      rw [List.filterMap_cons, after]
      rfl
    rw [Authorized, called]
    simp only [taken, none_, Option.isSome_none, Bool.false_or, Bool.and_eq_true] at fits
    exact ⟨le_rfl, fun c hm => List.mem_singleton.mp hm ▸ fits.2.2⟩
  | case5 => exact authorized_nil caller

lemma authorized_ParseCommands (table : List ChatCommand) (text : Text) :
    Authorized caller (ParseCommands handlers caller table text).2 := by
  fun_cases ParseCommands handlers caller table text with
  | case1 => exact authorized_nil caller
  | case2 command => exact authorized_ExecuteCommandInTable handlers caller table command text
  | case3 command => exact authorized_ExecuteCommandInTable handlers caller table command text
  | case4 command =>
    exact (authorized_ExecuteCommandInTable handlers caller table command text).append rfl

end

/-! ### Names -/

lemma startsWith_iff (name part : Text) :
    startsWith name part ↔ part.map tolower <+: name.map tolower := by
  induction part generalizing name with
  | nil => cases name <;> simp [startsWith]
  | cons p part ih =>
    cases name with
    | nil => simp [startsWith]
    | cons n name =>
      rw [startsWith, List.map_cons, List.map_cons, List.cons_prefix_cons, ← ih, Bool.and_eq_true,
        beq_iff_eq, eq_comm]

/-- The word is the beginning of the name, capitals apart; an empty name fits every word, and an
empty word no other name. -/
def Fits (name cmd : Text) : Prop :=
  name = [] ∨ cmd ≠ [] ∧ cmd.map tolower <+: name.map tolower

lemma hasStringAbbr_iff (name part : Text) : hasStringAbbr name part ↔ Fits name part := by
  rw [hasStringAbbr, Fits, ← startsWith_iff]
  by_cases empty : name = []
  · simp [empty]
  · by_cases none_ : part = [] <;> simp [empty, none_]

lemma fits_self (cmd : Text) : Fits cmd cmd := by
  by_cases empty : cmd = []
  · exact Or.inl empty
  · exact Or.inr ⟨empty, List.prefix_rfl⟩

section

variable (caller : Caller) (table : List ChatCommand) (cmd : Text)

/-- An entry has the word as its name, in the same spelling. -/
def Spelled : Prop := ∃ c ∈ table, c.Name = cmd

/-- The entry has subcommands, or a handler that the caller may use. -/
def Usable (c : ChatCommand) : Prop :=
  c.ChildCommands.isSome ∨ c.Handler.isSome ∧ isAvailable caller c

/-- An entry that a word may select: it can be used and the word fits it, and is not only an
abbreviation of it where an entry is spelled as the word. -/
def Rival (c : ChatCommand) : Prop :=
  Usable caller c ∧ Fits c.Name cmd ∧ (c.Name.length ≤ cmd.length ∨ ¬ Spelled table cmd)

lemma exactMatch_iff : exactMatch table cmd ↔ Spelled table cmd := by
  simp only [exactMatch, List.any_eq_true, Bool.and_eq_true, beq_iff_eq, Spelled]
  constructor
  · rintro ⟨c, hm, -, same⟩
    exact ⟨c, hm, same⟩
  · rintro ⟨c, hm, same⟩
    exact ⟨c, hm, (hasStringAbbr_iff _ _).mpr (same ▸ fits_self _), same⟩

lemma taken_iff (c : ChatCommand) : taken caller table cmd c ↔ Rival caller table cmd c := by
  have spelled := exactMatch_iff table cmd
  rw [taken, Rival, Usable, ← hasStringAbbr_iff, ← spelled]
  simp only [Bool.and_eq_true, Bool.or_eq_true, Bool.not_eq_true', Bool.and_eq_false_iff,
    decide_eq_false_iff_not, not_lt, Bool.not_eq_true]
  tauto

/-- The word selects no entry but the one at a place. -/
def NotShadowed (k : ℕ) : Prop := ∀ i, selected caller table cmd = some i → i = k

variable {caller table cmd}

/-- An entry that the word names, capitals apart, is a rival itself if it can be used. -/
lemma rival_of_named {c : ChatCommand} (named : c.Name.map tolower = cmd.map tolower)
    (usable : Usable caller c) : Rival caller table cmd c := by
  have length : c.Name.length = cmd.length := by
    rw [← List.length_map tolower, named, List.length_map]
  refine ⟨usable, ?_, Or.inl length.le⟩
  by_cases empty : cmd = []
  · rw [empty, List.length_nil, List.length_eq_zero_iff] at length
    exact Or.inl length
  · exact Or.inr ⟨empty, named ▸ List.prefix_rfl⟩

lemma notShadowed_iff {k : ℕ} (inside : k < table.length)
    (named : table[k].Name.map tolower = cmd.map tolower) :
    NotShadowed caller table cmd k ↔
      ∀ i (hi : i < table.length), i ≠ k → Rival caller table cmd table[i] →
        k < i ∧ Usable caller table[k] := by
  constructor
  · intro alone i hi other rival
    have taken_i := (taken_iff caller table cmd _).mpr rival
    -- the loop ends at the rival at the latest
    have ends : (selected caller table cmd).isSome := by
      rw [selected, List.findIdx?_isSome, List.any_eq_true]
      exact ⟨_, List.getElem_mem hi, taken_i⟩
    obtain ⟨j, place⟩ := Option.isSome_iff_exists.mp ends
    obtain ⟨hj, fits, before⟩ := List.findIdx?_eq_some_iff_getElem.mp place
    have first : ¬ i < j := fun less => before i less taken_i
    obtain rfl := alone j place
    exact ⟨by omega, ((taken_iff caller table cmd _).mp fits).1⟩
  · intro behind i place
    obtain ⟨hi, fits, before⟩ := List.findIdx?_eq_some_iff_getElem.mp place
    by_contra other
    obtain ⟨less, usable⟩ := behind i hi other ((taken_iff caller table cmd _).mp fits)
    exact before k less ((taken_iff caller table cmd _).mpr (rival_of_named named usable))

end

/-- The lookup ends, with at most one call, of a command that the caller may use. An entry that the
word names, capitals apart, is not shadowed exactly if every rival stands behind it, and there is
none if it cannot be used itself. -/
theorem dispatch (handlers : Handlers) (caller : Caller) (table : List ChatCommand)
    (text fullcmd : Text) :
    Authorized caller (ExecuteCommandInTable handlers caller table text fullcmd).2 ∧
    Authorized caller (ParseCommands handlers caller table text).2 ∧
    ∀ k (inside : k < table.length),
      table[k].Name.map tolower = (splitWord text).1.map tolower →
      (NotShadowed caller table (splitWord text).1 k ↔
        ∀ i (hi : i < table.length), i ≠ k →
          Rival caller table (splitWord text).1 table[i] → k < i ∧ Usable caller table[k]) :=
  ⟨authorized_ExecuteCommandInTable handlers caller table text fullcmd,
    authorized_ParseCommands handlers caller table text, fun _ => notShadowed_iff⟩

/-- A part of the table with the commands of all kinds -/
def commandTable : List ChatCommand :=
  [⟨ascii "saveall", 525, true, some 0, [], none⟩, ⟨ascii "save", 524, false, some 1, [], none⟩]

/-- Who may use both commands and types `Save` saves all. -/
theorem saveall_shadows_save :
    commandTable[1].Name.map tolower = (ascii "Save").map tolower ∧
      ¬ NotShadowed (.session (fun _ => true) false) commandTable (ascii "Save") 1 := by
  refine ⟨by decide, fun alone => ?_⟩
  have first : selected (.session (fun _ => true) false) commandTable (ascii "Save") = some 0 := by
    decide
  exact absurd (alone 0 first) (by decide)

end WorldServer.Chat
