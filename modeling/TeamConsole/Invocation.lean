import TeamConsole.Command
import TeamConsole.CommandLine.Reader

/-!
The command line of the console: the options for all commands, and how each command is written.
-/

namespace TeamConsole

open CommandLine

/-- The options that every command takes, at any level of the command line. -/
def globalOptions : List OptionShape :=
  [⟨"debug", some 'd', .flag⟩,
   ⟨"config", some 'c', .valued .path⟩,
   ⟨"api-base", none, .valued .text⟩,
   ⟨"team", some 't', .valued .text⟩,
   ⟨"task-limit", none, .valued .natural⟩,
   Shape.helpOption]

/-- The shape of a command that takes the global options besides its own. -/
def commandShape (name : String) (positionals : List Positional) (options : List OptionShape) :
    Shape :=
  ⟨name, options ++ globalOptions, positionals, []⟩

/-- A command on the command line: its shape, and the command that some arguments make. -/
structure CommandForm where
  shape : Shape
  build : (String → Option Value) → Option Command

namespace CommandForm

def text? (given : String → Option Value) (name : String) : Option String :=
  match given name with
  | some (.text s) => some s
  | _ => none

/-- The signed integer of an argument. -/
def integer? (given : String → Option Value) (name : String) : Option Int :=
  match given name with
  | some (.integer i) => some i
  | _ => none

/-- The unsigned integer of an argument. -/
def natural? (given : String → Option Value) (name : String) : Option Nat :=
  match given name with
  | some (.natural n) => some n
  | _ => none

def status? (given : String → Option Value) (name : String) : Option TaskStatus :=
  match given name with
  | some (.status s) => some s
  | _ => none

def outcome? (given : String → Option Value) (name : String) : Option Outcome :=
  match given name with
  | some (.outcome o) => some o
  | _ => none

def isSet (given : String → Option Value) (name : String) : Bool :=
  (given name).isSome

/-- The number of a task as an argument. -/
def taskId : Positional := ⟨"task_id", .integer, true⟩

/-- A command without arguments. -/
def bare (c : Command) : CommandForm :=
  ⟨commandShape c.name [] [], fun _ => some c⟩

def onTask (c : Int → Command) : CommandForm :=
  ⟨commandShape (c 0).name [taskId] [], fun given => do return c (← integer? given "task_id")⟩

/-- Every command but the one with subcommands of its own. -/
def simple : List CommandForm :=
  [bare .watch,
   bare .teams,
   ⟨commandShape "tasks" [] [⟨"json", none, .flag⟩],
    fun given => some (.tasks (isSet given "json"))⟩,
   ⟨commandShape "move" [taskId, ⟨"to", .status, true⟩] [],
    fun given => do return .move (← integer? given "task_id") (← status? given "to")⟩,
   ⟨commandShape "outcome" [taskId, ⟨"outcome", .outcome, true⟩] [],
    fun given => do return .outcome (← integer? given "task_id") (← outcome? given "outcome")⟩,
   ⟨commandShape "approve" [taskId, ⟨"outcome", .outcome, false⟩] [],
    fun given => do
      return .approve (← integer? given "task_id") ((outcome? given "outcome").getD .approved)⟩,
   onTask .requestReview,
   ⟨commandShape "create" [⟨"title", .text, true⟩] [⟨"in-progress", none, .flag⟩],
    fun given => do return .create (← text? given "title") (isSet given "in-progress")⟩,
   ⟨commandShape "assign" [taskId, ⟨"assignee", .text, false⟩] [],
    fun given => do return .assign (← integer? given "task_id") (text? given "assignee")⟩,
   bare .approvals,
   onTask .reviews,
   ⟨commandShape "review" [taskId, ⟨"outcome", .outcome, true⟩]
      [⟨"reviewer", none, .valued .text⟩, ⟨"comments", none, .valued .text⟩],
    fun given => do
      return .review (← integer? given "task_id") (← outcome? given "outcome")
        (text? given "reviewer") (text? given "comments")⟩,
   onTask .diff,
   ⟨commandShape "chat" [⟨"agent", .text, true⟩, ⟨"message", .text, false⟩] [],
    fun given => do return .chat (← text? given "agent") (text? given "message")⟩,
   bare .charter,
   ⟨commandShape "journal" [⟨"agent", .text, true⟩] [⟨"limit-bytes", none, .valued .natural⟩],
    fun given => do return .journal (← text? given "agent") (natural? given "limit-bytes")⟩,
   ⟨commandShape "agent-config" [⟨"agent", .text, true⟩] [],
    fun given => do return .agentConfig (← text? given "agent")⟩]

/-- The actions on the allowlist, by name. -/
def networkActions : List (Shape × ((String → Option Value) → Option NetworkAction)) :=
  [(commandShape "list" [] [], fun _ => some .list),
   (commandShape "allow" [⟨"domain", .text, true⟩] [],
    fun given => do return .allow (← text? given "domain")),
   (commandShape "disallow" [⟨"domain", .text, true⟩] [],
    fun given => do return .disallow (← text? given "domain")),
   (commandShape "reset" [] [], fun _ => some .reset)]

def networkShape : Shape :=
  { commandShape "network" [] [] with subcommands := networkActions.map (·.1) }

def rootShape : Shape :=
  { name := "console"
    options := ⟨"version", some 'V', .version⟩ :: globalOptions
    subcommands := networkShape :: simple.map (·.shape) }

/-- The action on the allowlist that the levels below the command name; none if they name none. -/
def networkAction? (given : String → Option Value) : List Level → Option (Option NetworkAction)
  | [] => some none
  | l :: _ => do
    let (_, build) ← networkActions.find? (·.1.name = l.name)
    return some (← build given)

/-- The command that the levels below the root name. -/
def command? (given : String → Option Value) : List Level → Option (Option Command)
  | [] => some none
  | l :: deeper =>
    if l.name = networkShape.name then do return some (.network (← networkAction? given deeper))
    else do
      let form ← simple.find? (·.shape.name = l.name)
      return some (← form.build given)

end CommandForm

structure Invocation where
  debug : Bool
  config : Option String
  apiBase : Option String
  team : Option String
  taskLimit : Option Nat
  command : Option Command
deriving DecidableEq, Repr

namespace Invocation

open CommandForm

/-- The invocation that the levels of a command line make. -/
def ofLevels? (levels : List Level) : Option Invocation := do
  let given := CommandLine.value? levels
  return {
    debug := isSet given "debug"
    config := text? given "config"
    apiBase := text? given "api-base"
    team := text? given "team"
    taskLimit := natural? given "task-limit"
    command := ← command? given levels.tail }

/-- Reads the words of a command line. -/
def ofWords (words : List String) : Except UsageError Invocation := do
  match ofLevels? (← CommandLine.read rootShape words) with
  | some i => return i
  | none => throw (.missingArgument rootShape.name)

end Invocation

end TeamConsole
