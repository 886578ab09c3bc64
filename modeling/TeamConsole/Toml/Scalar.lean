import TeamConsole.Json.Numeral
import TeamConsole.Time.Date
import TeamConsole.Toml.Basic

/-!
Values that are written without quotes: numbers, truth values, dates and times.
-/

namespace TeamConsole.Toml

/-- Reads digits between which single underscores may stand. -/
def digitsBy? (digit? : Char → Option Nat) : List Char → Option (List Nat)
  | [] => none
  | [c] => (digit? c).map ([·])
  | c :: '_' :: cs => do return (← digit? c) :: (← digitsBy? digit? cs)
  | c :: cs => do return (← digit? c) :: (← digitsBy? digit? cs)

def digitsOf? (base : Nat) (cs : List Char) : Option (List Nat) :=
  digitsBy? (fun c => (Text.hexDigit? c).filter (· < base)) cs

/-- Reads decimal digits of which the first is no zero unless it stands alone. -/
def wholeDigits? (cs : List Char) : Option (List Nat) := do
  let ds ← digitsOf? 10 cs
  guard (ds.head? = some 0 → ds.length = 1)
  return ds

/-- The sign at the front of a number, and what follows it. -/
def splitSign : List Char → Bool × List Char
  | '+' :: cs => (false, cs)
  | '-' :: cs => (true, cs)
  | cs => (false, cs)

/-- Reads an integer: decimal with an optional sign, or without a sign after the mark of another
base. -/
def integer? : List Char → Option Int
  | '0' :: 'x' :: cs => (digitsOf? 16 cs).map fun ds => (Text.ofDigits 16 ds : Int)
  | '0' :: 'o' :: cs => (digitsOf? 8 cs).map fun ds => (Text.ofDigits 8 ds : Int)
  | '0' :: 'b' :: cs => (digitsOf? 2 cs).map fun ds => (Text.ofDigits 2 ds : Int)
  | cs => do
    let (negative, cs) := splitSign cs
    let n := Text.ofDigits 10 (← wholeDigits? cs)
    return if negative then -n else n

def isExponentMark (c : Char) : Bool :=
  c = 'e' || c = 'E'

/-- The parts of a decimal number with a point or an exponent, without its sign. -/
structure Decimal where
  whole : List Nat
  fraction : List Nat
  exponent : Int

/-- Reads the exponent of a number after its mark. -/
def exponent? (cs : List Char) : Option Int := do
  let (negative, cs) := splitSign cs
  let n := Text.ofDigits 10 (← digitsOf? 10 cs)
  return if negative then -n else n

/-- Reads a decimal number that has a point, an exponent or both. -/
def decimal? (cs : List Char) : Option Decimal := do
  let (_, cs) := splitSign cs
  let mantissa := cs.takeWhile (!isExponentMark ·)
  let after := cs.dropWhile (!isExponentMark ·)
  let exponent ← match after with
    | [] => some 0
    | _ :: cs => exponent? cs
  let whole ← wholeDigits? (mantissa.takeWhile (· ≠ '.'))
  match mantissa.dropWhile (· ≠ '.') with
  | [] =>
    guard (after ≠ [])
    return ⟨whole, [], exponent⟩
  | _ :: cs => return ⟨whole, ← digitsOf? 10 cs, exponent⟩

/-- Whether the binary number nearest to a decimal one is finite. Far from the limit the position
of the leading digit decides. -/
def Decimal.isFinite (d : Decimal) : Bool :=
  let digits := (d.whole ++ d.fraction).dropWhile (· = 0)
  let exponent := d.exponent - d.fraction.length
  let leading := exponent + digits.length
  if digits.isEmpty ∨ leading < 309 then true
  else if 309 < leading then false
  else
    let n := Text.ofDigits 10 digits
    let (num, den) := if 0 ≤ exponent then (n * Nat.pow 10 exponent.toNat, 1)
      else (n, Nat.pow 10 (-exponent).toNat)
    (Binary64.ofRatio? false num den).isSome

/-- Whether a word stands for an infinite number, or for none. -/
def isSpecialFloat (cs : List Char) : Bool :=
  let (_, cs) := splitSign cs
  cs = ['i', 'n', 'f'] || cs = ['n', 'a', 'n']

/-- The number of two digits at the front of a text, and what follows them. -/
def twoDigits? : List Char → Option (Nat × List Char)
  | a :: b :: cs => do return (10 * (← Text.digit? a) + (← Text.digit? b), cs)
  | _ => none

/-- What follows a character at the front of a text. -/
def after? (c : Char) : List Char → Option (List Char)
  | [] => none
  | d :: cs => if d = c then some cs else none

/-- Reads a date: year, month and day of the month. Tells what follows it. -/
def date? (cs : List Char) : Option (List Char) := do
  let (century, cs) ← twoDigits? cs
  let (year, cs) ← twoDigits? cs
  let (month, cs) ← twoDigits? (← after? '-' cs)
  let (day, cs) ← twoDigits? (← after? '-' cs)
  let _ ← Date.check? ⟨(100 * century + year : Nat), month, day⟩
  return cs

/-- Reads the seconds of a time, with a fraction of any length. Seconds may be left out. -/
def seconds? : List Char → Option (List Char)
  | ':' :: cs => do
    let (second, cs) ← twoDigits? cs
    guard (second ≤ 60)
    match cs with
    | '.' :: cs =>
      guard ((cs.head? >>= Text.digit?).isSome)
      return cs.dropWhile fun c => (Text.digit? c).isSome
    | cs => return cs
  | cs => some cs

/-- Reads a time of the day. Tells what follows it. -/
def time? (cs : List Char) : Option (List Char) := do
  let (hour, cs) ← twoDigits? cs
  let (minute, cs) ← twoDigits? (← after? ':' cs)
  guard (hour ≤ 23 ∧ minute ≤ 59)
  seconds? cs

/-- Whether a text is the distance of a local time from universal time. -/
def isOffset : List Char → Bool
  | ['Z'] | ['z'] => true
  | c :: cs => (c = '+' ∨ c = '-') && ((do
      let (hour, cs) ← twoDigits? cs
      let (minute, cs) ← twoDigits? (← after? ':' cs)
      guard (hour ≤ 23 ∧ minute ≤ 59 ∧ cs.isEmpty)) : Option Unit).isSome
  | [] => false

/-- Whether a text is a date alone. -/
def isDate (cs : List Char) : Bool :=
  date? cs = some []

/-- Whether a text is a date, a time, or a date with a time and perhaps an offset. -/
def isDateTime (cs : List Char) : Bool :=
  match date? cs with
  | none => time? cs = some []
  | some [] => true
  | some (c :: cs) =>
    (c = 'T' || c = 't' || c = ' ') && (time? cs).any fun rest => rest.isEmpty || isOffset rest

/-- The value of a text without quotes. -/
def scalar? (cs : List Char) : Option Toml :=
  if cs = ['t', 'r', 'u', 'e'] then some (.boolean true)
  else if cs = ['f', 'a', 'l', 's', 'e'] then some (.boolean false)
  else if isDateTime cs then some (.dateTime cs)
  else
    match integer? cs with
    | some i => some (.integer i)
    | none =>
      if isSpecialFloat cs || (decimal? cs).isSome then some (.float (cs.filter (· ≠ '_')))
      else none

end TeamConsole.Toml
