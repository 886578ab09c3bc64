/-!
Finite binary floating-point numbers of 64 bits, with the arithmetic that reading a decimal
needs: rounding a ratio to the nearest number, a tie to the even significand, and products and
quotients rounded in the same way. All of it is exact arithmetic on natural numbers.
-/

namespace TeamConsole

/-- The finite number ± `significand` · 2 ^ `exponent`. Numbers made here have a significand
below 2 ^ 53 and an exponent from -1074 to 971, and below 2 ^ 52 only with exponent -1074. -/
structure Binary64 where
  negative : Bool
  significand : Nat
  exponent : Int
deriving DecidableEq, Repr

namespace Binary64

/-- The quotient rounded to the nearest integer, a tie to the even one. -/
def roundDiv (num den : Nat) : Nat :=
  let q := num / den
  let twice := 2 * (num % den)
  if twice < den then q
  else if den < twice then q + 1
  else if q % 2 = 0 then q else q + 1

/-- The power of two `k` with 2 ^ `k` ≤ `num` / `den` < 2 ^ (`k` + 1). -/
def ratioLog2 (num den : Nat) : Int :=
  let k : Int := (num.log2 : Int) - den.log2
  let below := if 0 ≤ k then num < den * Nat.pow 2 k.toNat else num * Nat.pow 2 (-k).toNat < den
  if below then k - 1 else k

/-- The number nearest to a ratio, unless that is beyond the finite numbers. -/
def ofRatio? (negative : Bool) (num den : Nat) : Option Binary64 :=
  if num = 0 then some ⟨negative, 0, -1074⟩
  else
    let e := max (ratioLog2 num den - 52) (-1074)
    let m := if 0 ≤ e then roundDiv num (den * Nat.pow 2 e.toNat)
      else roundDiv (num * Nat.pow 2 (-e).toNat) den
    let (m, e) := if m = Nat.pow 2 53 then (Nat.pow 2 52, e + 1) else (m, e)
    if e > 971 then none else some ⟨negative, m, e⟩

def ratio (x : Binary64) : Nat × Nat :=
  if 0 ≤ x.exponent then (x.significand * Nat.pow 2 x.exponent.toNat, 1)
  else (x.significand, Nat.pow 2 (-x.exponent).toNat)

/-- The nearest number to `x` times a natural number. -/
def mul? (x : Binary64) (n : Binary64) : Option Binary64 :=
  ofRatio? x.negative (x.ratio.1 * n.ratio.1) (x.ratio.2 * n.ratio.2)

/-- The nearest number to `x` divided by a positive one. -/
def div? (x : Binary64) (n : Binary64) : Option Binary64 :=
  ofRatio? x.negative (x.ratio.1 * n.ratio.2) (x.ratio.2 * n.ratio.1)

/-- The number nearest to a power of ten. -/
def tenPow? (n : Nat) : Option Binary64 :=
  ofRatio? false (Nat.pow 10 n) 1

/-- Divides by 10 ^ 308 as often as an exponent below -308 asks for, at most until nothing is
left, then by the rest of the power. -/
def scaleDown? (x : Binary64) (e : Nat) : Option Binary64 :=
  if e ≤ 308 then do x.div? (← tenPow? e)
  else if x.significand = 0 then some x
  else do scaleDown? (← x.div? (← tenPow? 308)) (e - 308)
termination_by e

/-- The value of `digits` · 10 ^ `exponent`: the digits are rounded first, the scaled number is
rounded again; none if it is beyond the finite numbers. -/
def ofDecimal? (negative : Bool) (digits : Nat) (exponent : Int) : Option Binary64 := do
  let x ← ofRatio? negative digits 1
  if exponent < 0 then x.scaleDown? exponent.natAbs
  else if x.significand = 0 then some x
  else if exponent > 308 then none
  else x.mul? (← tenPow? exponent.natAbs)

end Binary64

end TeamConsole
