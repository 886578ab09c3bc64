import TeamConsole.Text.Digits

/-!
The tokens of a TOML text. The scanner takes one piece of the text at a time, a character or the
end of a line, so its state says all there is to know of what was read.
-/

namespace TeamConsole.Toml

inductive Piece where
  | char (c : Char)
  | lineEnd (chars : List Char)

/-- The pieces of a text. A carriage return stands only before a line feed. -/
def pieces? : List Char → Option (List Piece)
  | [] => some []
  | '\n' :: cs => (pieces? cs).map (.lineEnd ['\n'] :: ·)
  | '\r' :: '\n' :: cs => (pieces? cs).map (.lineEnd ['\r', '\n'] :: ·)
  | c :: cs => if c = '\r' then none else (pieces? cs).map (.char c :: ·)

inductive Token where
  | dot
  | equals
  | comma
  | openBracket
  | closeBracket
  | openBrace
  | closeBrace
  /-- Blanks; the flag tells a single space. -/
  | blank (space : Bool)
  | newline
  /-- A quoted text; the flag tells that its quotes are single ones, for a text on one line. -/
  | text (value : String) (oneLine : Bool)
  /-- A run of other characters. -/
  | word (chars : List Char)
deriving DecidableEq, Repr

/-- Where the scanner stands. Characters of a token are listed with the last first, and `quote`
is the mark around a text. -/
inductive Scan where
  | between
  | blank (space : Bool)
  | word (chars : List Char)
  | comment
  | quotes (quote : Char) (two : Bool)
  | line (quote : Char) (chars : List Char)
  /-- After the three quotes that open a block; the end of a line is dropped here. -/
  | opened (quote : Char)
  /-- In a block, after this many quotes that may end it. -/
  | block (quote : Char) (chars : List Char) (quotes : Nat)
  | escape (inBlock : Bool) (chars : List Char)
  /-- In the number of a character, of which `left` digits are to come. -/
  | code (inBlock : Bool) (chars : List Char) (left value : Nat)
  /-- After a backslash at the end of a line, where blanks and ends of lines are dropped;
  `broken` tells that the line has ended. -/
  | join (chars : List Char) (broken : Bool)

def mark? (c : Char) : Option Token :=
  match c with
  | '.' => some .dot
  | '=' => some .equals
  | ',' => some .comma
  | '[' => some .openBracket
  | ']' => some .closeBracket
  | '\x7b' => some .openBrace
  | '\x7d' => some .closeBrace
  | _ => none

/-- Whether a character is a blank within a line. -/
def isBlank (c : Char) : Bool :=
  c = ' ' || c = '\t'

/-- Whether a character encloses texts. -/
def isQuote (c : Char) : Bool :=
  c = '"' || c = '\''

/-- Whether a character belongs to words. -/
def isWordChar (c : Char) : Bool :=
  !(isBlank c || isQuote c || c = '#' || (mark? c).isSome)

/-- Whether a character may stand for itself in a comment or a text. -/
def isPlain (c : Char) : Bool :=
  c = '\t' || (0x20 ≤ c.toNat && c.toNat ≠ 0x7F)

/-- The character of an escape of one letter. -/
def simpleEscape? (c : Char) : Option Char :=
  match c with
  | 'b' => some '\x08'
  | 't' => some '\t'
  | 'n' => some '\n'
  | 'f' => some '\x0c'
  | 'r' => some '\r'
  | 'e' => some '\x1b'
  | '"' => some '"'
  | '\\' => some '\\'
  | _ => none

/-- How many digits follow the letter of an escape by number. -/
def codeLength? (c : Char) : Option Nat :=
  match c with
  | 'x' => some 2
  | 'u' => some 4
  | 'U' => some 8
  | _ => none

/-- The token of a text whose characters are listed with the last first. -/
def Token.ofChars (chars : List Char) (oneLine : Bool) : Token :=
  .text (String.ofList chars.reverse) oneLine

namespace Scan

/-- Back in a text after an escape. -/
def resume (inBlock : Bool) (chars : List Char) : Scan :=
  if inBlock then .block '"' chars 0 else .line '"' chars

def start (tokens : List Token) : Piece → Scan × List Token
  | .lineEnd _ => (.between, .newline :: tokens)
  | .char c =>
    match mark? c with
    | some t => (.between, t :: tokens)
    | none =>
      if isBlank c then (.blank (c = ' '), tokens)
      else if c = '#' then (.comment, tokens)
      else if isQuote c then (.quotes c false, tokens)
      else (.word [c], tokens)

def stepLine? (quote : Char) (chars : List Char) (tokens : List Token) :
    Piece → Option (Scan × List Token)
  | .lineEnd _ => none
  | .char c =>
    if c = quote then some (.between, .ofChars chars true :: tokens)
    else if c = '\\' ∧ quote = '"' then some (.escape false chars, tokens)
    else if isPlain c then some (.line quote (c :: chars), tokens)
    else none

def stepBlock? (quote : Char) (chars : List Char) (tokens : List Token) :
    Piece → Option (Scan × List Token)
  | .lineEnd cs => some (.block quote (cs.reverse ++ chars) 0, tokens)
  | .char c =>
    if c = quote then some (.block quote chars 1, tokens)
    else if c = '\\' ∧ quote = '"' then some (.escape true chars, tokens)
    else if isPlain c then some (.block quote (c :: chars) 0, tokens)
    else none

/-- Reads a piece after a backslash. -/
def stepEscape? (inBlock : Bool) (chars : List Char) : Piece → Option Scan
  | .lineEnd _ => if inBlock then some (.join chars true) else none
  | .char c =>
    match simpleEscape? c, codeLength? c with
    | some e, _ => some (resume inBlock (e :: chars))
    | none, some n => some (.code inBlock chars n 0)
    | none, none => if inBlock ∧ isBlank c then some (.join chars false) else none

/-- Reads a digit of the number of a character. -/
def stepCode? (inBlock : Bool) (chars : List Char) (left value : Nat) : Piece → Option Scan
  | .lineEnd _ => none
  | .char c => do
    let value := 16 * value + (← Text.hexDigit? c)
    if 1 < left then return .code inBlock chars (left - 1) value
    guard value.isValidChar
    return resume inBlock (Char.ofNat value :: chars)

/-- Reads one piece of the text. At most two quotes belong to a block before the three that end
it. -/
def step? : Scan × List Token → Piece → Option (Scan × List Token)
  | (.between, tokens), p => some (start tokens p)
  | (.blank space, tokens), p =>
    match p with
    | .char c =>
      if isBlank c then some (.blank false, tokens) else some (start (.blank space :: tokens) p)
    | .lineEnd _ => some (start (.blank space :: tokens) p)
  | (.word chars, tokens), p =>
    match p with
    | .char c =>
      if isWordChar c then some (.word (c :: chars), tokens)
      else some (start (.word chars.reverse :: tokens) p)
    | .lineEnd _ => some (start (.word chars.reverse :: tokens) p)
  | (.comment, tokens), p =>
    match p with
    | .char c => if isPlain c then some (.comment, tokens) else none
    | .lineEnd _ => some (start tokens p)
  | (.quotes quote two, tokens), p =>
    match p, two with
    | .char c, false =>
      if c = quote then some (.quotes quote true, tokens) else stepLine? quote [] tokens p
    | .char c, true =>
      if c = quote then some (.opened quote, tokens)
      else some (start (.ofChars [] true :: tokens) p)
    | .lineEnd _, false => none
    | .lineEnd _, true => some (start (.ofChars [] true :: tokens) p)
  | (.line quote chars, tokens), p => stepLine? quote chars tokens p
  | (.opened quote, tokens), p =>
    match p with
    | .lineEnd _ => some (.block quote [] 0, tokens)
    | .char _ => stepBlock? quote [] tokens p
  | (.block quote chars count, tokens), p =>
    let isEnd : Bool := match p with
      | .char c => c = quote
      | .lineEnd _ => false
    if isEnd then
      if count = 4 then some (.between, .ofChars (quote :: quote :: chars) false :: tokens)
      else some (.block quote chars (count + 1), tokens)
    else if 3 ≤ count then
      some (start (.ofChars (List.replicate (count - 3) quote ++ chars) false :: tokens) p)
    else stepBlock? quote (List.replicate count quote ++ chars) tokens p
  | (.escape inBlock chars, tokens), p => (stepEscape? inBlock chars p).map (·, tokens)
  | (.code inBlock chars left value, tokens), p =>
    (stepCode? inBlock chars left value p).map (·, tokens)
  | (.join chars broken, tokens), p =>
    match p with
    | .lineEnd _ => some (.join chars true, tokens)
    | .char c =>
      if isBlank c then some (.join chars broken, tokens)
      else if broken then stepBlock? '"' chars tokens p
      else none

/-- The tokens of all that was read, if it does not stop within a text; the last line is ended. -/
def finish? : Scan × List Token → Option (List Token)
  | (.between, tokens) | (.blank _, tokens) | (.comment, tokens) =>
    some (.newline :: tokens).reverse
  | (.word chars, tokens) => some (.newline :: .word chars.reverse :: tokens).reverse
  | (.quotes _ true, tokens) => some (.newline :: .ofChars [] true :: tokens).reverse
  | (.block quote chars count, tokens) =>
    if 3 ≤ count then
      some (.newline :: .ofChars (List.replicate (count - 3) quote ++ chars) false
        :: tokens).reverse
    else none
  | _ => none

end Scan

def tokens? (cs : List Char) : Option (List Token) := do
  Scan.finish? (← (← pieces? cs).foldlM Scan.step? (.between, []))

end TeamConsole.Toml
