import TeamConsole.Json.Basic

/-!
JSON texts of values: on one line without blanks, or with one item or member a line.
-/

namespace TeamConsole.Json

/-- A control character as an escaped unit of four digits. -/
def unitEscape (n : Nat) : List Char :=
  ['\\', 'u', '0', '0', Text.hexDigit 'a' (n / 16), Text.hexDigit 'a' (n % 16)]

/-- A character within a string: quotes, backslashes and control characters are escaped. -/
def escapeChar (c : Char) : List Char :=
  match c with
  | '"' => ['\\', '"']
  | '\\' => ['\\', '\\']
  | '\x08' => ['\\', 'b']
  | '\x0c' => ['\\', 'f']
  | '\n' => ['\\', 'n']
  | '\r' => ['\\', 'r']
  | '\t' => ['\\', 't']
  | c => if c.toNat < 0x20 then unitEscape c.toNat else [c]

/-- A string within quotes. -/
def quote (s : String) : String :=
  "\"" ++ String.ofList (s.toList.flatMap escapeChar) ++ "\""

def scalarText : Json → String
  | .bool true => "true"
  | .bool false => "false"
  | .num n => n.write
  | .str s => quote s
  | _ => "null"

mutual

/-- The text of a value, on one line. -/
def compact : Json → String
  | .arr items => "[" ++ ",".intercalate (compactItems items) ++ "]"
  | .obj members => "\x7b" ++ ",".intercalate (compactMembers members) ++ "\x7d"
  | scalar => scalarText scalar

def compactItems : List Json → List String
  | [] => []
  | j :: rest => compact j :: compactItems rest

def compactMembers : List (String × Json) → List String
  | [] => []
  | (name, j) :: rest => (quote name ++ ":" ++ compact j) :: compactMembers rest

end

/-- Lines within a pair of brackets, two blanks further in than they stand; brackets around
nothing stay together. -/
def block (opening closing : String) (indent : Nat) (lines : List String) : String :=
  if lines.isEmpty then opening ++ closing
  else
    let margin (n : Nat) := "\n" ++ String.ofList (List.replicate (2 * n) ' ')
    opening ++ margin (indent + 1) ++ ("," ++ margin (indent + 1)).intercalate lines
      ++ margin indent ++ closing

mutual

/-- The text of a value, one item or member a line, that stands `indent` levels in. -/
def pretty (indent : Nat) : Json → String
  | .arr items => block "[" "]" indent (prettyItems (indent + 1) items)
  | .obj members => block "\x7b" "\x7d" indent (prettyMembers (indent + 1) members)
  | scalar => scalarText scalar

def prettyItems (indent : Nat) : List Json → List String
  | [] => []
  | j :: rest => pretty indent j :: prettyItems indent rest

def prettyMembers (indent : Nat) : List (String × Json) → List String
  | [] => []
  | (name, j) :: rest => (quote name ++ ": " ++ pretty indent j) :: prettyMembers indent rest

end

end TeamConsole.Json
