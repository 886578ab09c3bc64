import TeamConsole.CommandLine.Shape

/-!
Reading the words of a command line. A value is looked at only when the next argument begins or
the command ends, so of two faults in a command line the one found first is not always the one
that stands first: a word that has no place comes before a bad value next to it, and the faults
of a subcommand come before a bad value at the end of the words before it.
-/

namespace TeamConsole.CommandLine

abbrev Given := List (String × Value)

/-- An argument whose value is still to be looked at. -/
structure Pending where
  name : String
  kind : OptionKind
  /-- No word yet stands for an option that waits for its value. -/
  word : Option String
deriving DecidableEq, Repr

/-- How far the words of a command are read. -/
structure Progress where
  given : Given := []
  pending : Option Pending := none
  /-- The positional arguments still to come. -/
  positionals : List Positional
  /-- Whether two dashes alone have ended the options. -/
  onlyPositionals : Bool := false
deriving DecidableEq, Repr

namespace Progress

/-- Takes an argument with its word. -/
def assign (p : Progress) (name : String) (kind : OptionKind) (word : Option String) :
    Except UsageError Progress := do
  let take (v : Value) : Progress := { p with given := (name, v) :: p.given }
  let isGiven := (p.given.lookup name).isSome
  match kind, word with
  | .help, _ => throw .helpRequested
  | .version, _ => throw .versionRequested
  | .flag, _ => if isGiven then throw (.repeated name) else return take .set
  | .valued _, none => throw (.emptyValue name)
  | .valued k, some w => if isGiven then throw (.repeated name) else return take (← k.read name w)

/-- Looks at the value that is pending. -/
def settle (p : Progress) : Except UsageError Progress :=
  match p.pending with
  | none => .ok p
  | some a => ({ p with pending := none } : Progress).assign a.name a.kind a.word

/-- Whether the last word was an option without its value. -/
def awaitsValue (p : Progress) : Bool :=
  !p.onlyPositionals && p.pending.any (·.word.isNone)

/-- Reads an option with the value that is attached to it, if there is one. -/
def readOption (p : Progress) (o : OptionShape) (attached : Option String) :
    Except UsageError Progress := do
  match o.kind, attached with
  | .valued _, none => return { ← p.settle with pending := some ⟨o.name, o.kind, none⟩ }
  | .valued _, some w => (← p.settle).assign o.name o.kind (some w)
  | _, some w => throw (.unneededValue o.name w)
  | _, none => (← p.settle).assign o.name o.kind none

/-- Reads the letters after a dash: flags, and at most one option whose value is the rest. -/
def readLetters (s : Shape) (p : Progress) : List Char → Except UsageError Progress
  | [] => .ok p
  | c :: rest =>
    match s.letter? c with
    | none => .error (.unknownArgument (String.ofList ['-', c]))
    | some o =>
      match o.kind, rest with
      | .valued _, [] => p.readOption o none
      | .valued _, '=' :: value => p.readOption o (some (String.ofList value))
      | .valued _, value => p.readOption o (some (String.ofList value))
      | _, _ => do readLetters s (← p.readOption o none) rest

/-- Reads the name of an option and the value after an equals sign. -/
def readNamed (s : Shape) (p : Progress) (body : List Char) : Except UsageError Progress :=
  let name := String.ofList (body.takeWhile (· ≠ '='))
  match s.option? name with
  | none => .error (.unknownArgument ("--" ++ name))
  | some o => p.readOption o (((body.dropWhile (· ≠ '=')).tail?).map String.ofList)

/-- Reads a word that is no option: the value that an option waits for, or the next positional
argument. -/
def readPlain (s : Shape) (p : Progress) (word : String) : Except UsageError Progress :=
  if p.awaitsValue then
    .ok { p with pending := p.pending.map fun a => { a with word := some word } }
  else
    match p.positionals with
    | [] => .error (s.unplaced p.onlyPositionals word)
    | next :: positionals => do
      return { ← p.settle with
        positionals, pending := some ⟨next.name, .valued next.kind, some word⟩ }

/-- Reads a word that names no subcommand. A single dash is a plain word. -/
def readWord (s : Shape) (p : Progress) (word : String) : Except UsageError Progress :=
  if p.onlyPositionals then p.readPlain s word
  else
    match word.toList with
    | ['-', '-'] => .ok { p with onlyPositionals := true }
    | '-' :: '-' :: body => p.readNamed s body
    | '-' :: c :: letters => p.readLetters s (c :: letters)
    | _ => p.readPlain s word

/-- The arguments of a command at the end of its words. -/
def finish (s : Shape) (p : Progress) : Except UsageError Given := do
  let p ← p.settle
  if p.positionals.any (·.required) then throw (.missingArgument s.name)
  return p.given

end Progress

/-- A command on the command line: its name and what was given to it. -/
structure Level where
  name : String
  given : Given
deriving DecidableEq, Repr

/-- Reads the words after a command's name: the command itself, and the subcommands on the way,
the outermost first. -/
def readFrom (s : Shape) (p : Progress) : (words : List String) → Except UsageError (List Level)
  | [] => do return [⟨s.name, ← p.finish s⟩]
  | word :: rest =>
    let mayName := !p.onlyPositionals && !p.awaitsValue
    if mayName && s.asksHelp word then .error (s.helpAbout rest)
    else
      match if mayName then s.subcommand? word else none with
      | some sub => do
        let deeper ← readFrom sub { positionals := sub.positionals } rest
        return ⟨s.name, ← p.finish s⟩ :: deeper
      | none => do readFrom s (← p.readWord s word) rest

def read (s : Shape) (words : List String) : Except UsageError (List Level) :=
  readFrom s { positionals := s.positionals } words

/-- The value of an argument; the innermost command at which it was given counts. -/
def value? (levels : List Level) (name : String) : Option Value :=
  levels.reverse.findSome? (·.given.lookup name)

end TeamConsole.CommandLine
