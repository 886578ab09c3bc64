import TeamConsole.Number.Binary64
import TeamConsole.Text.Digits

/-!
The shortest decimal of a binary number: of the decimals that round to the number, those with
the fewest digits, and of these the nearest to it. The search runs over the decimal grids of
one to seventeen digits; a number's two neighbours on a grid are the only candidates.
-/

namespace TeamConsole.Binary64

/-- The decimal `digits` · 10 ^ `exponent`. -/
structure Decimal where
  digits : Nat
  exponent : Int
deriving DecidableEq, Repr

/-- The power of ten `k` with 10 ^ `k` ≤ `num` / `den` < 10 ^ (`k` + 1), for a ratio that is
not zero. -/
def ratioLog10 (num den : Nat) : Int :=
  if num ≥ den then ((Nat.toDigits 10 (num / den)).length : Int) - 1
  else
    let k := (Nat.toDigits 10 (den / num)).length
    if den ≤ num * Nat.pow 10 (k - 1) then -((k : Int) - 1) else -(k : Int)

/-- The ratio of two numbers, times a power of ten. -/
def timesTenPow (num den : Nat) (e : Int) : Nat × Nat :=
  if 0 ≤ e then (num * Nat.pow 10 e.toNat, den) else (num, den * Nat.pow 10 (-e).toNat)

/-- The decimals that round to a number: between `low` / `den` and `high` / `den`, the ends
included when the significand is even. -/
structure RoundingInterval where
  low : Nat
  high : Nat
  den : Nat
  closed : Bool

/-- The rounding interval of a number that is not zero. Below a power of two the next number is
half as far away as above it. -/
def roundingInterval (x : Binary64) : RoundingInterval :=
  let below := if x.significand = Nat.pow 2 52 ∧ x.exponent > -1074 then 1 else 2
  let scale : Nat := if 0 ≤ x.exponent then Nat.pow 2 x.exponent.toNat else 1
  let den : Nat := if 0 ≤ x.exponent then 4 else 4 * Nat.pow 2 (-x.exponent).toNat
  { low := (4 * x.significand - below) * scale
    high := (4 * x.significand + 2) * scale
    den
    closed := x.significand % 2 = 0 }

def RoundingInterval.holds (r : RoundingInterval) (d : Decimal) : Bool :=
  let (num, den) := timesTenPow d.digits 1 d.exponent
  if r.closed then r.low * den ≤ num * r.den ∧ num * r.den ≤ r.high * den
  else r.low * den < num * r.den ∧ num * r.den < r.high * den

/-- The decimal of at most `count` digits nearest to the number, if one rounds to it; of two
equally near ones the even. -/
def onGrid? (x : Binary64) (count : Nat) : Option Decimal :=
  let (num, den) := x.ratio
  let e := ratioLog10 num den - (count - 1 : Nat)
  let (num, den) := timesTenPow num den (-e)
  let q := num / den
  let twice := 2 * (num % den)
  let low : Decimal := ⟨q, e⟩
  let high : Decimal := ⟨q + 1, e⟩
  let lowFirst := twice < den ∨ (twice = den ∧ q % 2 = 0)
  let interval := x.roundingInterval
  let candidates := if lowFirst then [low, high] else [high, low]
  candidates.find? interval.holds

/-- A decimal without zeros at its end; at most `fuel` of them are taken off. -/
def Decimal.trimZeros (d : Decimal) : Nat → Decimal
  | 0 => d
  | fuel + 1 =>
    if d.digits ≠ 0 ∧ d.digits % 10 = 0 then
      Decimal.trimZeros ⟨d.digits / 10, d.exponent + 1⟩ fuel
    else d

/-- The shortest decimal that rounds to the magnitude of the number. -/
def shortest (x : Binary64) : Decimal :=
  if x.significand = 0 then ⟨0, 0⟩
  else
    let found := (List.range 17).findSome? fun n => x.onGrid? (n + 1)
    (found.getD ⟨0, 0⟩).trimZeros 17

/-- How decimals are written: those whose leading digit stands for a power of ten from
`positionalFrom` to `positionalTo` positionally, the others with an exponent. -/
structure DecimalFormat where
  positionalFrom : Int
  positionalTo : Int

/-- Writes a decimal. A positional number has a point with a digit on each side of it; an
exponent has a sign of its own, and the digits before it have a point only if there are two. -/
def DecimalFormat.write (f : DecimalFormat) (negative : Bool) (d : Decimal) : String :=
  let sign := if negative then "-" else ""
  let digits := Nat.toDigits 10 d.digits
  let lead : Int := d.exponent + digits.length - 1
  if d.digits = 0 then sign ++ "0.0"
  else if f.positionalFrom ≤ lead ∧ lead ≤ f.positionalTo then
    if 0 ≤ d.exponent then
      sign ++ String.ofList (digits ++ List.replicate d.exponent.toNat '0') ++ ".0"
    else if 0 ≤ lead then
      let whole := lead.toNat + 1
      sign ++ String.ofList (digits.take whole) ++ "." ++ String.ofList (digits.drop whole)
    else
      sign ++ "0." ++ String.ofList (List.replicate (-lead - 1).toNat '0' ++ digits)
  else
    let rest := digits.drop 1
    let mantissa := digits.take 1 ++ (if rest.isEmpty then [] else '.' :: rest)
    let mark := if lead < 0 then "e-" else "e+"
    sign ++ String.ofList mantissa ++ mark ++ Text.natural lead.natAbs

end TeamConsole.Binary64
