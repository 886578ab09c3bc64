import TeamConsole.Time.Date
import TeamConsole.Text.Blank

/-!
Instants in coordinated universal time. They are written as RFC 3339 asks and read more freely:
blanks may stand before each number and each mark, the letter between date and time may be
small or a blank, and the name of the zone may stand for its offset. An instant with an offset is
moved to universal time, which changes the day by at most one.
-/

namespace TeamConsole

/-- A second of a day and the nanoseconds after its start. Within a leap second the nanoseconds
go on from 10 ^ 9. -/
structure Instant where
  date : Date
  second : Nat
  nanosecond : Nat
deriving DecidableEq, Repr

namespace Instant

/-- The digits after the decimal point of the seconds: none, three, six or nine, as few as tell
all nanoseconds. -/
def writeFraction (nano : Nat) : String :=
  if nano = 0 then ""
  else if nano % 1000000 = 0 then "." ++ Text.padded 3 (nano / 1000000)
  else if nano % 1000 = 0 then "." ++ Text.padded 6 (nano / 1000)
  else "." ++ Text.padded 9 nano

/-- Hours and minutes. -/
def writeMinute (t : Instant) : String :=
  Text.padded 2 (t.second / 3600) ++ ":" ++ Text.padded 2 (t.second / 60 % 60)

/-- The instant as RFC 3339 writes it in universal time. A leap second is second 60. -/
def write (t : Instant) : String :=
  let leap := t.nanosecond / 1000000000
  t.date.write ++ "T" ++ t.writeMinute ++ ":" ++ Text.padded 2 (t.second % 60 + leap)
    ++ writeFraction (t.nanosecond % 1000000000) ++ "Z"

/-- The minute of an instant, for a line of text. -/
def writeShort (t : Instant) : String :=
  t.date.write ++ " " ++ t.writeMinute

def readNatural (limit : Nat) (cs : List Char) : Option (Nat × List Char) :=
  let digits := (cs.take limit).takeWhile fun c => (Text.digit? c).isSome
  (Text.natural? digits).map (·, cs.drop digits.length)

/-- A number of one or two digits, after blanks. -/
def readPair (cs : List Char) : Option (Nat × List Char) :=
  readNatural 2 (Text.trimStartChars cs)

/-- A year, after blanks: up to four digits, or any number of them after a sign. -/
def readYear (cs : List Char) : Option (Int × List Char) :=
  match Text.trimStartChars cs with
  | '-' :: rest => (readNatural rest.length rest).map fun (n, rest) => (-(n : Int), rest)
  | '+' :: rest => (readNatural rest.length rest).map fun (n, rest) => ((n : Int), rest)
  | rest => (readNatural 4 rest).map fun (n, rest) => ((n : Int), rest)

/-- A mark, after blanks. -/
def readMark (mark : Char) (cs : List Char) : Option (List Char) :=
  match Text.trimStartChars cs with
  | c :: rest => if c = mark then some rest else none
  | [] => none

/-- A date: year, month and day with hyphens between them. -/
def readDate (cs : List Char) : Option (Date × List Char) := do
  let (year, cs) ← readYear cs
  let (month, cs) ← readPair (← readMark '-' cs)
  let (day, cs) ← readPair (← readMark '-' cs)
  return (← Date.check? ⟨year, month, day⟩, cs)

/-- The nanoseconds after the point of the seconds; digits after the ninth do not count. -/
def readFraction (cs : List Char) : Option (Nat × List Char) :=
  match cs with
  | '.' :: rest => do
    let (n, after) ← readNatural 9 rest
    let used := rest.length - after.length
    return (n * Nat.pow 10 (9 - used), after.dropWhile fun c => (Text.digit? c).isSome)
  | _ => some (0, cs)

/-- A time of day as its second and the nanoseconds after its start. Second 60 is the leap
second after second 59. -/
def readTime (cs : List Char) : Option ((Nat × Nat) × List Char) := do
  let (hour, cs) ← readPair cs
  let (minute, cs) ← readPair (← readMark ':' cs)
  let (second, cs) ← readPair (← readMark ':' cs)
  let (nano, cs) ← readFraction cs
  guard (hour < 24 ∧ minute < 60 ∧ second ≤ 60)
  let start := hour * 3600 + minute * 60
  return if second = 60 then ((start + 59, 1000000000 + nano), cs)
    else ((start + second, nano), cs)

/-- Two digits, with nothing before them. -/
def readTwoDigits : List Char → Option (Nat × List Char)
  | a :: b :: rest => do return (10 * (← Text.digit? a) + (← Text.digit? b), rest)
  | _ => none

/-- The seconds by which a zone is ahead of universal time: `Z`, `UTC`, or a sign, hours and
minutes with colons or blanks between them. -/
def readOffset (cs : List Char) : Option (Int × List Char) :=
  match cs with
  | 'Z' :: rest | 'z' :: rest => some (0, rest)
  | _ =>
    if (cs.take 3).map Char.toUpper = ['U', 'T', 'C'] then some (0, cs.drop 3)
    else
      match cs with
      | [] => none
      | sign :: rest => do
        guard (sign = '+' ∨ sign = '-' ∨ sign = '−')
        let (hours, rest) ← readTwoDigits rest
        let (minutes, rest) ← readTwoDigits (rest.dropWhile fun c => c = ':' || Text.isBlank c)
        guard (hours < 24 ∧ minutes < 60)
        let seconds : Int := hours * 3600 + minutes * 60
        return (if sign = '+' then seconds else -seconds, rest)

/-- The instant at which clocks ahead by `offset` seconds show a date and a time. -/
def ofLocal? (date : Date) (second nanosecond : Nat) (offset : Int) : Option Instant := do
  let s : Int := second - offset
  let date ← if s < 0 then date.previous? else if s < 86400 then some date else date.next?
  return ⟨date, (s % 86400).toNat, nanosecond⟩

def ofString? (text : String) : Option Instant := do
  let (date, cs) ← readDate text.toList
  match cs with
  | [] => none
  | c :: cs =>
    guard (c = 't' ∨ c = 'T' ∨ c = ' ')
    let ((second, nano), cs) ← readTime cs
    let (offset, cs) ← readOffset (Text.trimStartChars cs)
    guard ((Text.trimStartChars cs).isEmpty)
    ofLocal? date second nano offset

end Instant

end TeamConsole
