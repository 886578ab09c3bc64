import TeamConsole.CommandLine.Shape

/-!
How a command is written: the text that tells its subcommands, arguments and options.
-/

namespace TeamConsole.CommandLine

/-- An argument as it is shown: one that can be left out stands in brackets. -/
def Positional.usage (p : Positional) : String :=
  if p.required then "<" ++ p.name ++ ">" else "[" ++ p.name ++ "]"

/-- An option as it is shown, with its letter if it has one. -/
def OptionShape.usage (o : OptionShape) : String :=
  let letter := (o.letter.map fun c => "-" ++ String.singleton c ++ ", ").getD ""
  let value := match o.kind with
    | .valued _ => " <" ++ o.name ++ ">"
    | _ => ""
  letter ++ "--" ++ o.name ++ value

namespace Shape

/-- A command with its arguments. -/
def synopsis (s : Shape) : String :=
  " ".intercalate (s.name :: s.positionals.map (·.usage))

/-- The lines that tell how a command is written. -/
def usage (s : Shape) : List String :=
  let subcommands := if s.subcommands.isEmpty then []
    else "" :: "Commands:" :: s.subcommands.map fun sub => "  " ++ sub.synopsis
  let options := if s.options.isEmpty then []
    else "" :: "Options:" :: s.options.map fun o => "  " ++ o.usage
  ("Usage: " ++ s.synopsis ++ " [options]" ++ (if s.subcommands.isEmpty then "" else " [command]"))
    :: subcommands ++ options

end Shape

end TeamConsole.CommandLine
