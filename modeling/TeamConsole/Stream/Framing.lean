import TeamConsole.Text.Utf8

/-!
The messages of a stream of events. A line ends with a line feed, a carriage return or both; a
carriage return counts once the character after it has come. An empty line ends an event, and
the event is a message if it has a line of data. An event that no empty line ends is lost, and
nothing is read from the first bytes on that are no text.
-/

namespace TeamConsole.Stream

/-- How far a stream of events is read. -/
structure Framing where
  /-- Whether nothing was read yet. -/
  fresh : Bool := true
  /-- The characters of the line so far, with the last first. -/
  line : List Char := []
  /-- Whether the last character was a carriage return. -/
  returned : Bool := false
  /-- The lines of data of the event so far, with the last first. -/
  data : List String := []
deriving DecidableEq, Repr

namespace Framing

def dataField : List Char := ['d', 'a', 't', 'a']

/-- The value of a line of data: what stands after the colon, less one space. -/
def dataValue? (line : List Char) : Option String :=
  if line.takeWhile (· ≠ ':') = dataField then
    some <| String.ofList <| match line.dropWhile (· ≠ ':') with
      | ':' :: ' ' :: value => value
      | ':' :: value => value
      | _ => []
  else none

/-- Ends the line: an empty one ends the event, and one of data adds to it. Other fields and
comments change nothing. -/
def endLine (f : Framing) : Framing × Option String :=
  let line := f.line.reverse
  let next := { f with line := [], returned := false }
  if line.isEmpty then
    ({ next with data := [] },
      if f.data.isEmpty then none else some ("\n".intercalate f.data.reverse))
  else
    match dataValue? line with
    | some value => ({ next with data := value :: f.data }, none)
    | none => (next, none)

/-- Takes a character that is no line feed into the line. -/
def extend (f : Framing) (c : Char) : Framing :=
  if c = '\r' then { f with returned := true } else { f with line := c :: f.line }

/-- Reads one character; tells the message that ends with it. A mark of byte order before all
else is passed over. -/
def step (f : Framing) (c : Char) : Framing × Option String :=
  if f.fresh ∧ c = '\uFEFF' then ({ f with fresh := false }, none)
  else
    let f := { f with fresh := false }
    if f.returned then
      let (ended, message) := f.endLine
      (if c = '\n' then ended else ended.extend c, message)
    else if c = '\n' then f.endLine
    else (f.extend c, none)

end Framing

/-- How far the bytes of a stream are read. -/
structure Inflow where
  /-- The character of which bytes are still to come. -/
  pending : Option Text.Utf8.Pending := none
  framing : Framing := {}
  /-- Whether bytes came that are no text. Nothing is read after them. -/
  broken : Bool := false

namespace Inflow

/-- Reads what the bytes of a character turned out to be. -/
def takePiece (f : Inflow) : Text.Utf8.Piece → Inflow × Option String
  | some c =>
    let (framing, message) := f.framing.step c
    ({ f with framing }, message)
  | none => ({ f with broken := true }, none)

/-- Reads one byte; tells the message that ends with it. -/
def step (f : Inflow) (b : UInt8) : Inflow × Option String :=
  if f.broken then (f, none)
  else
    let r := Text.Utf8.Reading.step ⟨[], f.pending⟩ b
    match r.pieces.getLast? with
    | some piece => { f with pending := r.pending }.takePiece piece
    | none => ({ f with pending := r.pending }, none)

/-- The messages among bytes that follow. -/
def messages (f : Inflow) : List UInt8 → List String
  | [] => []
  | b :: bs =>
    let (next, message) := f.step b
    message.toList ++ next.messages bs

end Inflow

def messages (body : List UInt8) : List String :=
  Inflow.messages {} body

end TeamConsole.Stream
