import WorldServer.Lib.Bytes

/-!
# Chat commands

The first word of a line is looked up in a table of commands, the next one in the table of its
subcommands. A word may be an abbreviation: the first entry that it fits is taken, unless a longer
name is only abbreviated and another entry is spelled exactly as the word. Abbreviations do not
distinguish capitals; spelling does.
-/
namespace WorldServer.Chat

open WorldServer.Lib

abbrev Text := List UInt8

def tolower (c : UInt8) : UInt8 := if 65 ≤ c ∧ c ≤ 90 then c + 32 else c

/-- A command; its handler is named by a number. The table of the subcommands has no end mark. -/
structure ChatCommand where
  Name : Text
  Permission : ℕ
  AllowConsole : Bool
  Handler : Option ℕ
  Help : Text
  ChildCommands : Option (List ChatCommand)

/-- Who sends a command: a session with its permissions, which may be a player's, or the console -/
inductive Caller where
  | session (HasPermission : ℕ → Bool) (IsPlayerAccount : Bool)
  | console

def isAvailable : Caller → ChatCommand → Bool
  | .session HasPermission _, cmd => HasPermission cmd.Permission
  | .console, cmd => cmd.AllowConsole

/-- What a handler makes of its arguments: its return value, and whether it has sent an error
message -/
structure Handlers where
  returns : ℕ → Text → Bool
  HasSentErrorMessage : ℕ → Text → Bool

def LANG_NO_CMD : ℕ := 6
def LANG_NO_SUBCMD : ℕ := 7
def LANG_CMD_SYNTAX : ℕ := 10

inductive Effect where
  | handler (cmd : ChatCommand) (args : Text)
  | outCommand (fullcmd : Text)
  | SendSysMessage (entry : ℕ)
  | sendHelp (help : Text)
  | ShowHelpForCommand (table : List ChatCommand) (cmd : Text)

/-! ### The lookup -/

/-- The loop of `hasStringAbbr` -/
def startsWith : Text → Text → Bool
  | _, [] => true
  | [], _ :: _ => false
  | n :: name, p :: part => tolower n == tolower p && startsWith name part

def hasStringAbbr (name part : Text) : Bool :=
  if name ≠ [] then if part = [] then false else startsWith name part
  -- an empty name is allowed with anything
  else true

section

variable (caller : Caller) (table : List ChatCommand) (cmd : Text)

/-- The second scan of the table -/
def exactMatch : Bool := table.any fun c => hasStringAbbr c.Name cmd && c.Name == cmd

/-- The loop ends at the entry. -/
def taken (c : ChatCommand) : Bool :=
  hasStringAbbr c.Name cmd && !(decide (c.Name.length > cmd.length) && exactMatch table cmd) &&
    (c.ChildCommands.isSome || (c.Handler.isSome && isAvailable caller c))

/-- The place of the entry at which the loop ends -/
def selected : Option ℕ := table.findIdx? (taken caller table cmd)

end

lemma sizeOf_children {table children : List ChatCommand} {c : ChatCommand} {place : Option ℕ}
    (found : (place.bind fun i => table[i]?) = some c) (has : c.ChildCommands = some children) :
    sizeOf children < sizeOf table := by
  obtain ⟨i, -, entry⟩ := Option.bind_eq_some_iff.mp found
  have inside := List.sizeOf_lt_of_mem (List.mem_of_getElem? entry)
  have below : sizeOf children < sizeOf c := by
    cases c
    simp only at has
    simp [has]
    omega
  omega

/-- The word before the first space, and what follows the spaces behind it -/
def splitWord (text : Text) : Text × Text :=
  (text.takeWhile (· != 32), (text.dropWhile (· != 32)).dropWhile (· == 32))

/-- What follows a handler: a line of the log, or a message if the handler has failed without one -/
def afterHandler (handlers : Handlers) (caller : Caller) (c : ChatCommand) (handler : ℕ)
    (args fullcmd : Text) : List Effect :=
  if handlers.returns handler args then
    match caller with
    | .session _ false => [.outCommand fullcmd]
    | .session _ true => []
    | .console => []
  else if handlers.HasSentErrorMessage handler args then []
  else if c.Help ≠ [] then [.sendHelp c.Help]
  else [.SendSysMessage LANG_CMD_SYNTAX]

def ExecuteCommandInTable (handlers : Handlers) (caller : Caller) (table : List ChatCommand)
    (text fullcmd : Text) : Bool × List Effect :=
  let cmd := (splitWord text).1
  let rest := (splitWord text).2
  match _found : (selected caller table cmd).bind fun i => table[i]? with
  | none => (false, [])
  | some c =>
    match has : c.ChildCommands with
    | some children =>
      let sub := ExecuteCommandInTable handlers caller children rest fullcmd
      let message := if rest ≠ [] then LANG_NO_SUBCMD else LANG_CMD_SYNTAX
      if sub.1 then (true, sub.2)
      else (true, sub.2 ++ [.SendSysMessage message, .ShowHelpForCommand children rest])
    | none =>
      match c.Handler with
      | some handler =>
        -- an empty name is a special case: the original text is sent to the handler
        let args := if c.Name ≠ [] then rest else text
        (true, .handler c args :: afterHandler handlers caller c handler args fullcmd)
      | none => (true, [])
termination_by sizeOf table
decreasing_by exact sizeOf_children _found has

/-- Whether a line is a command at all, and what is looked up of it -/
def commandText (caller : Caller) (text : Text) : Option Text :=
  let marks : List UInt8 := [33, 46]
  let plain : Bool := match caller with
    | .session .. => text.head?.all (· ∉ marks)
    | .console => false
  if plain ∨ text.length < 2 then none
  else if text.take 2 = [46, 46] ∨ text.take 2 = [33, 33] then none
  else if text.head?.any (· ∈ marks) then some text.tail
  else some text

def RBAC_PERM_COMMANDS_NOTIFY_COMMAND_NOT_FOUND_ERROR : ℕ := 33

/-- Whether a player is not told that there is no such command -/
def silent : Caller → Bool
  | .session HasPermission _ => !HasPermission RBAC_PERM_COMMANDS_NOTIFY_COMMAND_NOT_FOUND_ERROR
  | .console => false

def ParseCommands (handlers : Handlers) (caller : Caller) (table : List ChatCommand)
    (text : Text) : Bool × List Effect :=
  match commandText caller text with
  | none => (false, [])
  | some command =>
    let done := ExecuteCommandInTable handlers caller table command text
    if done.1 then (true, done.2)
    else if silent caller then (false, done.2)
    else (true, done.2 ++ [.SendSysMessage LANG_NO_CMD])

end WorldServer.Chat
