/-!
Punycode (RFC 3492): labels of domain names in ASCII. The characters beyond ASCII are listed in
the order of their numbers, each as the distance from the one before, in a number system whose
digits weigh the less the more often large distances occur.
-/

namespace TeamConsole.Url.Punycode

/-- The digit of a value below 36: letters, then decimal digits. -/
def digit (d : Nat) : Char :=
  if d < 26 then Char.ofNat ('a'.toNat + d) else Char.ofNat ('0'.toNat + (d - 26))

/-- The value of a digit, with letters of either case. -/
def digitValue? (c : Char) : Option Nat :=
  if 'a' ≤ c ∧ c ≤ 'z' then some (c.toNat - 'a'.toNat)
  else if 'A' ≤ c ∧ c ≤ 'Z' then some (c.toNat - 'A'.toNat)
  else if '0' ≤ c ∧ c ≤ '9' then some (c.toNat - '0'.toNat + 26)
  else none

/-- The threshold of the digit at position `k`, counted in steps of 36. -/
def threshold (k bias : Nat) : Nat :=
  if k ≤ bias then 1 else if bias + 26 ≤ k then 26 else k - bias

/-- Divides a distance by 35 until it is small; the rest, and 36 for each division. -/
def shrink (delta k : Nat) : Nat × Nat :=
  if 455 < delta then shrink (delta / 35) (k + 36) else (delta, k)
termination_by delta
decreasing_by omega

/-- The bias after a distance, of which `count` characters are written. -/
def adapt (delta count : Nat) (first : Bool) : Nat :=
  let delta := if first then delta / 700 else delta / 2
  let (delta, k) := shrink (delta + delta / count) 0
  k + 36 * delta / (delta + 38)

/-- The digits of a distance. -/
def encodeNumber (bias k q : Nat) : List Char :=
  let t := threshold k bias
  if q < t then [digit q]
  else digit (t + (q - t) % (36 - t)) :: encodeNumber bias (k + 36) ((q - t) / (36 - t))
termination_by q
decreasing_by
  have h : 1 ≤ threshold k bias := by unfold threshold; split <;> (try split) <;> omega
  exact Nat.lt_of_le_of_lt (Nat.div_le_self _ _) (by omega)

/-- Where the encoder stands: the next number to write, the distance so far, the bias, and how
many characters are written. -/
structure Encoder where
  n : Nat
  delta : Nat
  bias : Nat
  done : Nat
  out : List Char

/-- Writes each character with the number `n`, and counts the smaller ones. -/
def Encoder.pass (basic : Nat) (e : Encoder) (input : List Nat) : Encoder :=
  input.foldl (fun e c =>
    if c < e.n then { e with delta := e.delta + 1 }
    else if c = e.n then
      { e with
        out := e.out ++ encodeNumber e.bias 36 e.delta
        bias := adapt e.delta (e.done + 1) (e.done = basic)
        delta := 0
        done := e.done + 1 }
    else e) e

def encode (label : List Char) : List Char :=
  let input := label.map Char.toNat
  let basic := label.filter (·.toNat < 128)
  let beyond := (input.filter (128 ≤ ·)).mergeSort.eraseDups
  let start : Encoder :=
    ⟨128, 0, 72, basic.length, if basic.isEmpty then [] else basic ++ ['-']⟩
  (beyond.foldl (fun e n =>
    let e := { e with delta := e.delta + (n - e.n) * (e.done + 1), n }
    let e := e.pass basic.length input
    { e with delta := e.delta + 1, n := e.n + 1 }) start).out

/-- Reads the digits of a distance, from position `k` on, with `weight` the weight of the next. -/
def decodeNumber? (bias : Nat) (k weight i : Nat) : List Char → Option (Nat × List Char)
  | [] => none
  | c :: rest => do
    let d ← digitValue? c
    let i := i + d * weight
    let t := threshold k bias
    if d < t then return (i, rest)
    if Nat.pow 2 32 ≤ max i (weight * (36 - t)) then none
    else decodeNumber? bias (k + 36) (weight * (36 - t)) i rest

/-- Inserts characters by the distances that follow, at most `fuel` of them. -/
def insertAll? (n i bias : Nat) (first : Bool) (out : List Nat) (cs : List Char) :
    (fuel : Nat) → Option (List Nat)
  | 0 => if cs.isEmpty then some out else none
  | fuel + 1 =>
    if cs.isEmpty then some out
    else do
      let (j, rest) ← decodeNumber? bias 36 1 i cs
      let count := out.length + 1
      let n := n + j / count
      let place := j % count
      guard (n < 0x110000 ∧ ¬(0xD800 ≤ n ∧ n ≤ 0xDFFF))
      insertAll? n (place + 1) (adapt (j - i) count first) false
        (out.take place ++ n :: out.drop place) rest fuel

/-- The label of a Punycode text. The last hyphen parts the ASCII characters from the rest, unless
it is the first character. -/
def decode? (text : List Char) : Option (List Char) := do
  let beyond := (text.reverse.takeWhile (· ≠ '-')).reverse
  let basic := text.take (text.length - beyond.length - 1)
  let beyond := if basic.isEmpty then text else beyond
  guard (basic.all (·.toNat < 128))
  let out ← insertAll? 128 0 72 true (basic.map Char.toNat) beyond beyond.length
  return out.map Char.ofNat

end TeamConsole.Url.Punycode
