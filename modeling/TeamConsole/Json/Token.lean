import TeamConsole.Json.Numeral
import TeamConsole.Text.Utf8

/-!
The tokens of a JSON text. The scanner takes one piece of the text at a time, so its state says
all there is to know of what was read: it stands between tokens, in a word (a literal or a
number, which ends where no letter, digit, sign or point follows), or in a string.
-/

namespace TeamConsole.Json

open Text.Utf8 (Piece)

/-- A token; a string or a number that has no value is none. -/
inductive Token where
  | openArray
  | closeArray
  | openObject
  | closeObject
  | colon
  | comma
  | string (value : Option String)
  | scalar (value : Json)

/-- What stands in a string: a character or error as it came, or an escaped UTF-16 unit. -/
inductive StringPart where
  | piece (p : Piece)
  | unit (u : Nat)

/-- The text of the parts of a string. Units of a surrogate pair belong together; an error and a
surrogate without its partner have no text. -/
def assemble : List StringPart → Option (List Char)
  | [] => some []
  | .piece none :: _ => none
  | .piece (some c) :: rest => (assemble rest).map (c :: ·)
  | .unit u :: rest =>
    if u < 0xD800 ∨ 0xDFFF < u then (assemble rest).map (Char.ofNat u :: ·)
    else
      match rest with
      | .unit v :: rest =>
        if u ≤ 0xDBFF ∧ 0xDC00 ≤ v ∧ v ≤ 0xDFFF then
          (assemble rest).map
            (Char.ofNat (0x10000 + (u - 0xD800) * 0x400 + (v - 0xDC00)) :: ·)
        else none
      | _ => none

def Token.ofWord? (word : List Char) : Option Token :=
  if word = ['n', 'u', 'l', 'l'] then some (.scalar .null)
  else if word = ['t', 'r', 'u', 'e'] then some (.scalar (.bool true))
  else if word = ['f', 'a', 'l', 's', 'e'] then some (.scalar (.bool false))
  else (Numeral.ofWord? word).map fun n =>
    .scalar (match n.value? with
      | some v => .num v
      | none => .unreadable)

/-- Where the scanner stands. What belongs to a token is listed with the last first. -/
inductive Scan where
  | between
  | word (chars : List Char)
  | string (parts : List StringPart)
  | escape (parts : List StringPart)
  | unit (parts : List StringPart) (digits value : Nat)

/-- Whether a character belongs to words. -/
def isWordChar (c : Char) : Bool :=
  c.isAlphanum || c = '-' || c = '+' || c = '.'

/-- The character of an escape of one letter. -/
def simpleEscape? (c : Char) : Option Char :=
  match c with
  | '"' => some '"'
  | '\\' => some '\\'
  | '/' => some '/'
  | 'b' => some '\x08'
  | 'f' => some '\x0c'
  | 'n' => some '\n'
  | 'r' => some '\r'
  | 't' => some '\t'
  | _ => none

/-- Reads a character between tokens. -/
def Scan.start? (tokens : List Token) (c : Char) : Option (Scan × List Token) :=
  match c with
  | ' ' | '\t' | '\n' | '\r' => some (.between, tokens)
  | '[' => some (.between, .openArray :: tokens)
  | ']' => some (.between, .closeArray :: tokens)
  | '\x7b' => some (.between, .openObject :: tokens)
  | '\x7d' => some (.between, .closeObject :: tokens)
  | ':' => some (.between, .colon :: tokens)
  | ',' => some (.between, .comma :: tokens)
  | '"' => some (.string [], tokens)
  | _ => if isWordChar c then some (.word [c], tokens) else none

/-- Reads one piece of the text. Outside of strings every piece has to be a character; in a
string no control character stands for itself. -/
def Scan.step? : Scan × List Token → Piece → Option (Scan × List Token)
  | (.between, tokens), p => do Scan.start? tokens (← p)
  | (.word chars, tokens), p => do
    let c ← p
    if isWordChar c then return (.word (c :: chars), tokens)
    Scan.start? ((← Token.ofWord? chars.reverse) :: tokens) c
  | (.string parts, tokens), p =>
    if p = some '"' then
      some (.between, .string ((assemble parts.reverse).map String.ofList) :: tokens)
    else if p = some '\\' then some (.escape parts, tokens)
    else if p.any (·.toNat < 0x20) then none
    else some (.string (.piece p :: parts), tokens)
  | (.escape parts, tokens), p => do
    let c ← p
    if c = 'u' then return (.unit parts 0 0, tokens)
    return (.string (.piece (some (← simpleEscape? c)) :: parts), tokens)
  | (.unit parts digits value, tokens), p => do
    let value := 16 * value + (← Text.hexDigit? (← p))
    if digits = 3 then return (.string (.unit value :: parts), tokens)
    return (.unit parts (digits + 1) value, tokens)

/-- The tokens of all that was read, if it does not stop within a string. -/
def Scan.finish? : Scan × List Token → Option (List Token)
  | (.between, tokens) => some tokens.reverse
  | (.word chars, tokens) => do return ((← Token.ofWord? chars.reverse) :: tokens).reverse
  | _ => none

def tokens? (text : List Piece) : Option (List Token) :=
  text.foldlM Scan.step? (.between, []) >>= Scan.finish?

end TeamConsole.Json
