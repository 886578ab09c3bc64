/-!
Numbers written in decimal digits: reading digits and signed words, and writing a number with
a least count of digits.
-/

namespace TeamConsole.Text

/-- The value of a decimal digit. -/
def digit? (c : Char) : Option Nat :=
  if '0' ≤ c ∧ c ≤ '9' then some (c.toNat - '0'.toNat) else none

/-- The value of a hexadecimal digit of either case. -/
def hexDigit? (c : Char) : Option Nat :=
  if '0' ≤ c ∧ c ≤ '9' then some (c.toNat - '0'.toNat)
  else if 'a' ≤ c ∧ c ≤ 'f' then some (c.toNat - 'a'.toNat + 10)
  else if 'A' ≤ c ∧ c ≤ 'F' then some (c.toNat - 'A'.toNat + 10)
  else none

/-- The digit of a value below sixteen, with letters for the values from ten. -/
def hexDigit (letterTen : Char) (n : Nat) : Char :=
  if n < 10 then Char.ofNat ('0'.toNat + n) else Char.ofNat (letterTen.toNat + (n - 10))

/-- The number of a list of digits of base `base`, the most significant first. -/
def ofDigits (base : Nat) (digits : List Nat) : Nat :=
  digits.foldl (fun n d => base * n + d) 0

/-- A nonempty run of digits and nothing else. -/
def natural? (cs : List Char) : Option Nat :=
  if cs.isEmpty then none else (cs.mapM digit?).map (ofDigits 10)

/-- Digits after an optional sign. -/
def integer? : List Char → Option Int
  | '+' :: cs => (natural? cs).map Int.ofNat
  | '-' :: cs => (natural? cs).map fun n => -Int.ofNat n
  | cs => (natural? cs).map Int.ofNat

/-- The least and the greatest signed integer of 64 bits. -/
def int64Range : Int × Int := (-9223372036854775808, 9223372036854775807)

/-- The least and the greatest unsigned integer of 64 bits. -/
def nat64Range : Int × Int := (0, 18446744073709551615)

/-- The least and the greatest unsigned integer of 32 bits. -/
def nat32Range : Int × Int := (0, 4294967295)

/-- The integer, if it lies in a range with both ends included. -/
def within? (range : Int × Int) (i : Int) : Option Int :=
  if range.1 ≤ i ∧ i ≤ range.2 then some i else none

/-- A signed integer of 64 bits, written with an optional sign and digits. -/
def int64? (s : String) : Option Int :=
  integer? s.toList >>= within? int64Range

/-- An unsigned integer of 64 bits, written with an optional plus sign and digits. -/
def nat64? (s : String) : Option Nat :=
  match s.toList with
  | '-' :: _ => none
  | cs => ((integer? cs >>= within? nat64Range)).map Int.toNat

/-- The decimal digits of a number, after as many zeros as bring them to `width`. -/
def padded (width n : Nat) : String :=
  let digits := Nat.toDigits 10 n
  String.ofList (List.replicate (width - digits.length) '0' ++ digits)

/-- The decimal digits of a number. -/
def natural (n : Nat) : String :=
  String.ofList (Nat.toDigits 10 n)

/-- The decimal digits of a number, after a minus sign if it is negative. -/
def integer (i : Int) : String :=
  if i < 0 then "-" ++ natural i.natAbs else natural i.natAbs

end TeamConsole.Text
