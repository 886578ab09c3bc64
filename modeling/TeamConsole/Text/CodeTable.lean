import TeamConsole.Text.Digits
import TeamConsole.Text.Split

/-!
Tables of characters. They are written as words of hexadecimal numbers, a range as its two ends
with a hyphen between them.
-/

namespace TeamConsole.Text

/-- A range of the numbers of characters, with both ends included. -/
abbrev CodeRange := Nat × Nat

/-- The number that hexadecimal digits write. -/
def hexNumber (cs : List Char) : Nat :=
  ofDigits 16 (cs.filterMap hexDigit?)

def readRange (word : List Char) : CodeRange :=
  match cut '-' word with
  | (first, []) => (hexNumber first, hexNumber first)
  | (first, last) => (hexNumber first, hexNumber last)

def readRanges (text : String) : List CodeRange :=
  (words text).map readRange

/-- Whether a character lies in one of some ranges. -/
def inRanges (ranges : List CodeRange) (c : Char) : Bool :=
  ranges.any fun r => r.1 ≤ c.toNat && c.toNat ≤ r.2

end TeamConsole.Text
