import TeamConsole.CommandLine.Error
import TeamConsole.Text.Digits
import TeamConsole.Workflow.Status

/-!
The shapes of commands: which options, arguments and subcommands a command has, and of what kind
their values are.
-/

namespace TeamConsole.CommandLine

inductive ValueKind where
  | text
  /-- The path of a file, which is not empty. -/
  | path
  /-- A signed integer of 64 bits. -/
  | integer
  /-- An unsigned integer of 64 bits. -/
  | natural
  | status
  | outcome
deriving DecidableEq, Repr

/-- The value of an argument; a flag that is given has the value `set`. -/
inductive Value where
  | set
  | text (s : String)
  | integer (i : Int)
  | natural (n : Nat)
  | status (s : TaskStatus)
  | outcome (o : Outcome)
deriving DecidableEq, Repr

def ValueKind.read (argument word : String) : ValueKind → Except UsageError Value
  | text => .ok (.text word)
  | path => if word = "" then .error (.emptyValue argument) else .ok (.text word)
  | integer => orBad ((Text.int64? word).map .integer)
  | natural => orBad ((Text.nat64? word).map .natural)
  | status => orBad ((TaskStatus.ofName? word).map .status)
  | outcome => .ok (.outcome (.ofName word))
where
  /-- The value, or the complaint that the word is none. -/
  orBad : Option Value → Except UsageError Value
    | some v => .ok v
    | none => .error (.badValue argument word)

inductive OptionKind where
  | flag
  | valued (k : ValueKind)
  | help
  | version
deriving DecidableEq, Repr

/-- An option, given as two dashes and its name or as a dash and its letter. -/
structure OptionShape where
  name : String
  letter : Option Char := none
  kind : OptionKind
deriving DecidableEq, Repr

/-- An argument that is told by its position. -/
structure Positional where
  name : String
  kind : ValueKind
  required : Bool := true
deriving DecidableEq, Repr

/-- A command with its options, arguments and subcommands. -/
structure Shape where
  name : String
  options : List OptionShape := []
  positionals : List Positional := []
  subcommands : List Shape := []

namespace Shape

/-- The name of the subcommand that tells about the others. Every command with subcommands has
it. -/
def helpName : String := "help"

def helpOption : OptionShape := ⟨"help", some 'h', .help⟩

def option? (s : Shape) (name : String) : Option OptionShape :=
  s.options.find? (·.name = name)

def letter? (s : Shape) (letter : Char) : Option OptionShape :=
  s.options.find? (·.letter = some letter)

def subcommand? (s : Shape) (name : String) : Option Shape :=
  s.subcommands.find? (·.name = name)

def asksHelp (s : Shape) (word : String) : Bool :=
  !s.subcommands.isEmpty && word = helpName

/-- The answer to a request for help about the subcommand that words lead to. -/
def helpAbout (s : Shape) : (words : List String) → UsageError
  | [] => .helpRequested
  | word :: rest =>
    match s.subcommand? word with
    | some sub => sub.helpAbout rest
    | none =>
      if s.asksHelp word ∧ rest.isEmpty then .helpRequested
      else .unknownSubcommand ((rest.head?.filter fun _ => s.asksHelp word).getD word)

/-- The refusal of a word for which the command has no place. A subcommand that comes too late
is an argument like others. -/
def unplaced (s : Shape) (onlyPositionals : Bool) (word : String) : UsageError :=
  let named := (s.subcommand? word).isSome || s.asksHelp word
  if s.subcommands.isEmpty || (onlyPositionals && named) then .unknownArgument word
  else .unknownSubcommand word

end Shape

end TeamConsole.CommandLine
