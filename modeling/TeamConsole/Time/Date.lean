import TeamConsole.Text.Digits

/-!
Days of the proleptic Gregorian calendar.
-/

namespace TeamConsole

/-- A day of the calendar; year 0 is the year before year 1. -/
structure Date where
  year : Int
  month : Nat
  day : Nat
deriving DecidableEq, Repr

namespace Date

/-- Whether a year has a 29th of February. -/
def isLeapYear (year : Int) : Bool :=
  year % 4 = 0 ∧ (year % 100 ≠ 0 ∨ year % 400 = 0)

def daysInMonth (year : Int) (month : Nat) : Nat :=
  match month with
  | 2 => if isLeapYear year then 29 else 28
  | 4 | 6 | 9 | 11 => 30
  | _ => 31

/-- The first and the last year in use. -/
def yearRange : Int × Int := (-262143, 262142)

/-- Whether the day exists and lies in the years in use. -/
def isValid (d : Date) : Bool :=
  yearRange.1 ≤ d.year ∧ d.year ≤ yearRange.2 ∧ 1 ≤ d.month ∧ d.month ≤ 12 ∧ 1 ≤ d.day ∧
    d.day ≤ daysInMonth d.year d.month

def check? (d : Date) : Option Date :=
  if d.isValid then some d else none

/-- The day after, if it is in use. -/
def next? (d : Date) : Option Date :=
  check? <|
    if d.day < daysInMonth d.year d.month then { d with day := d.day + 1 }
    else if d.month < 12 then ⟨d.year, d.month + 1, 1⟩
    else ⟨d.year + 1, 1, 1⟩

/-- The day before, if it is in use. -/
def previous? (d : Date) : Option Date :=
  check? <|
    if 1 < d.day then { d with day := d.day - 1 }
    else if 1 < d.month then ⟨d.year, d.month - 1, daysInMonth d.year (d.month - 1)⟩
    else ⟨d.year - 1, 12, 31⟩

/-- A year in four digits; beyond them, and before year 0, it has a sign. -/
def writeYear (year : Int) : String :=
  if 0 ≤ year ∧ year ≤ 9999 then Text.padded 4 year.toNat
  else (if year < 0 then "-" else "+") ++ Text.padded 4 year.natAbs

/-- Year, month and day, joined by hyphens. -/
def write (d : Date) : String :=
  writeYear d.year ++ "-" ++ Text.padded 2 d.month ++ "-" ++ Text.padded 2 d.day

end Date

end TeamConsole
