/-!
Why a command line leads to no command.
-/

namespace TeamConsole

/-- The refusal of a command line, or the request for a text about the program. -/
inductive UsageError where
  | helpRequested
  | versionRequested
  /-- A word that has no place, or an option that the command does not know. -/
  | unknownArgument (word : String)
  | unknownSubcommand (word : String)
  | missingArgument (command : String)
  | badValue (argument word : String)
  | emptyValue (argument : String)
  /-- An argument that is given twice to one command. -/
  | repeated (argument : String)
  | unneededValue (argument word : String)
deriving DecidableEq, Repr

namespace UsageError

/-- The text of a refusal. -/
def message : UsageError → String
  | helpRequested => "help was requested"
  | versionRequested => "the version was requested"
  | unknownArgument word => "unexpected argument '" ++ word ++ "' found"
  | unknownSubcommand word => "unrecognized subcommand '" ++ word ++ "'"
  | missingArgument command => "a required argument of '" ++ command ++ "' was not provided"
  | badValue argument word => "invalid value '" ++ word ++ "' for '" ++ argument ++ "'"
  | emptyValue argument => "a value is required for '" ++ argument ++ "' but none was supplied"
  | repeated argument => "the argument '" ++ argument ++ "' cannot be used multiple times"
  | unneededValue argument word => "unexpected value '" ++ word ++ "' for '" ++ argument ++ "'"

end UsageError

end TeamConsole
