import TeamConsole.Json.Basic

/-!
The numbers of JSON texts. A numeral without point and exponent that fits 64 bits is an
integer; of any other, the leading digits that fit an unsigned word of 64 bits count and the
digits after them only shift the exponent.
-/

namespace TeamConsole.Json

/-- The parts of a numeral: sign, digits before and after the point, and the exponent. -/
structure Numeral where
  negative : Bool
  whole : List Nat
  /-- The digits after the point, if there is one. -/
  fraction : Option (List Nat)
  exponent : Option Int

/-- The digits at the front of a text, and what follows them. -/
def spanDigits : List Char → List Nat × List Char
  | [] => ([], [])
  | c :: cs =>
    match Text.digit? c with
    | some d => let (ds, rest) := spanDigits cs; (d :: ds, rest)
    | none => ([], c :: cs)

/-- The exponent that makes up the rest of a numeral. -/
def exponent? : List Char → Option (Option Int)
  | [] => some none
  | c :: cs =>
    if c = 'e' ∨ c = 'E' then
      match cs with
      | '+' :: ds => (Text.natural? ds).map fun n => some (Int.ofNat n)
      | '-' :: ds => (Text.natural? ds).map fun n => some (-Int.ofNat n)
      | ds => (Text.natural? ds).map fun n => some (Int.ofNat n)
    else none

/-- The digits of a point and what follows it, and the rest of a numeral. -/
def fraction? : List Char → Option (Option (List Nat) × List Char)
  | '.' :: cs =>
    match spanDigits cs with
    | ([], _) => none
    | (ds, rest) => some (some ds, rest)
  | cs => some (none, cs)

/-- The numeral that makes up a word: no sign but minus, no zero before another digit, and a
digit on each side of the point. -/
def Numeral.ofWord? (word : List Char) : Option Numeral := do
  let (negative, cs) := match word with
    | '-' :: cs => (true, cs)
    | cs => (false, cs)
  let (whole, cs) := spanDigits cs
  guard (whole ≠ [] ∧ (whole.head? = some 0 → whole.length = 1))
  let (fraction, cs) ← fraction? cs
  let exponent ← exponent? cs
  return ⟨negative, whole, fraction, exponent⟩

/-- Appends digits to a number while it fits 64 bits; the result, and the digits left over. -/
def absorb (n : Nat) : List Nat → Nat × List Nat
  | [] => (n, [])
  | d :: ds => if 10 * n + d < Nat.pow 2 64 then absorb (10 * n + d) ds else (n, d :: ds)

/-- The value of a numeral, unless it is beyond the finite binary numbers. -/
def Numeral.value? (n : Numeral) : Option Number :=
  let (digits, beyond) := absorb 0 n.whole
  let plain := beyond.isEmpty ∧ n.fraction.isNone ∧ n.exponent.isNone
  if plain ∧ !n.negative then some (.int digits)
  else if plain ∧ 0 < digits ∧ digits ≤ Nat.pow 2 63 then some (.int (-digits))
  else
    let fraction := n.fraction.getD []
    let (digits, unused) := absorb digits fraction
    let shift : Int := beyond.length - (fraction.length - unused.length : Nat)
    (Binary64.ofDecimal? n.negative digits (shift + n.exponent.getD 0)).map .binary

end TeamConsole.Json
