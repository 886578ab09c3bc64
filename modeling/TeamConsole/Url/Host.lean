import TeamConsole.Text.Digits
import TeamConsole.Text.Utf8
import TeamConsole.Url.Domain
import TeamConsole.Url.Error
import TeamConsole.Url.Percent

/-!
The hosts of URLs: domain names in ASCII, and addresses of the two versions of IP. A name whose
last label is a number is an address of version 4, or a mistake.
-/

namespace TeamConsole.Url

inductive Host where
  | domain (name : String)
  | ipv4 (address : Nat)
  /-- Eight pieces of 16 bits. -/
  | ipv6 (pieces : List Nat)
deriving DecidableEq, Repr

namespace Ipv4

/-- A part of an address: hexadecimal after `0x`, octal after `0`, else decimal. -/
def number? (cs : List Char) : Option Nat :=
  let digits (base : Nat) (ds : List Char) : Option Nat :=
    (ds.mapM fun c => (Text.hexDigit? c).filter (· < base)).map (Text.ofDigits base)
  match cs with
  | [] => none
  | '0' :: 'x' :: rest | '0' :: 'X' :: rest => digits 16 rest
  | '0' :: c :: rest => digits 8 (c :: rest)
  | _ => digits 10 cs

/-- Whether the last label of a name, but for an empty one at its end, is a number. -/
def endsInNumber (name : List Char) : Bool :=
  let isNumber (last : List Char) : Bool :=
    (!last.isEmpty && last.all Char.isDigit) || (number? last).isSome
  match (Text.splitOn '.' name).reverse with
  | [[]] => false
  | [] :: last :: _ => isNumber last
  | last :: _ => isNumber last
  | [] => false

/-- The address of at most four numbers; the last one fills all bytes that are left. -/
def parse? (name : List Char) : Option Nat := do
  let parts := Text.splitOn '.' name
  let parts := if parts.getLast? = some [] then parts.dropLast else parts
  guard (parts.length ≤ 4)
  let numbers ← parts.mapM number?
  let last ← numbers.getLast?
  let first := numbers.dropLast
  let room := Nat.pow 256 (4 - first.length)
  guard (first.all (· ≤ 255) ∧ last < room)
  return Text.ofDigits 256 first * room + last

/-- The four bytes of an address, with points between them. -/
def write (address : Nat) : String :=
  ".".intercalate ([3, 2, 1, 0].map fun i => Text.natural (address / Nat.pow 256 i % 256))

end Ipv4

namespace Ipv6

/-- A piece of one to four hexadecimal digits. -/
def piece? (cs : List Char) : Option Nat :=
  if cs.isEmpty ∨ 4 < cs.length then none
  else (cs.mapM Text.hexDigit?).map (Text.ofDigits 16)

/-- Two pieces written as four bytes, which have no zeros before them. -/
def bytes? (cs : List Char) : Option (List Nat) := do
  let bytes ← (Text.splitOn '.' cs).mapM fun part => do
    guard (part.length = 1 ∨ part.head? ≠ some '0')
    (Text.natural? part).filter (· ≤ 255)
  match bytes with
  | [a, b, c, d] => return [256 * a + b, 256 * c + d]
  | _ => none

/-- Pieces with colons between them; the last two may be written as bytes if `tail`. -/
def pieces? (cs : List Char) (tail : Bool) : Option (List Nat) :=
  if cs.isEmpty then some []
  else
    let parts := Text.splitOn ':' cs
    let last := parts.getLast?.getD []
    if tail && last.contains '.' then do
      let first ← parts.dropLast.mapM piece?
      return first ++ (← bytes? last)
    else parts.mapM piece?

/-- The text before the first pair of colons, and the text after it. -/
def splitPair (cs : List Char) : Option (List Char × List Char) :=
  match cs with
  | ':' :: ':' :: rest => some ([], rest)
  | c :: rest => (splitPair rest).map fun (a, b) => (c :: a, b)
  | [] => none

/-- The eight pieces of an address; a pair of colons stands for one or more that are zero. -/
def parse? (cs : List Char) : Option (List Nat) :=
  match splitPair cs with
  | none => (pieces? cs true).filter (·.length = 8)
  | some (left, right) => do
    let left ← pieces? left false
    let right ← pieces? right true
    guard (left.length + right.length ≤ 7)
    return left ++ List.replicate (8 - left.length - right.length) 0 ++ right

/-- The length of the run of zeros at the front. -/
def zeros (pieces : List Nat) : Nat :=
  (pieces.takeWhile (· = 0)).length

/-- The start and the length of the first of the longest runs of zeros. -/
def longestZeros (pieces : List Nat) : Nat × Nat :=
  (List.range pieces.length).foldl (fun best i =>
    let n := zeros (pieces.drop i)
    if best.2 < n then (i, n) else best) (0, 0)

/-- The hexadecimal digits of pieces, with colons between them. -/
def join (pieces : List Nat) : String :=
  ":".intercalate (pieces.map fun p => String.ofList (Nat.toDigits 16 p))

/-- An address within brackets; the longest run of two or more zero pieces becomes a pair of
colons. -/
def write (pieces : List Nat) : String :=
  let (start, n) := longestZeros pieces
  let text := if n < 2 then join pieces
    else join (pieces.take start) ++ "::" ++ join (pieces.drop (start + n))
  "[" ++ text ++ "]"

end Ipv6

def Host.ofBracketed (cs : List Char) : Except UrlError Host :=
  match cs.getLast?, Ipv6.parse? (cs.drop 1).dropLast with
  | some ']', some pieces => .ok (.ipv6 pieces)
  | _, _ => .error .invalidIpv6

/-- Reads the host of a scheme with known rules. -/
def Host.parse (cs : List Char) : Except UrlError Host :=
  if cs.head? = some '[' then Host.ofBracketed cs
  else
    match (Text.Utf8.decode? (percentDecode cs)).bind fun s => domainToAscii? s.toList with
    | none => .error .invalidDomain
    | some [] => .error .emptyHost
    | some name =>
      if Ipv4.endsInNumber name then
        match Ipv4.parse? name with
        | some address => .ok (.ipv4 address)
        | none => .error .invalidIpv4
      else .ok (.domain (String.ofList name))

/-- Checks the host of a scheme without known rules. -/
def Host.checkOpaque (cs : List Char) : Except UrlError Unit :=
  if cs.head? = some '[' then do
    let _ ← Host.ofBracketed cs
  else if cs.any fun c => c = '\x00' || (c != '%' && forbiddenInDomain.contains c) then
    .error .invalidHostCharacter
  else .ok ()

def Host.write : Host → String
  | domain name => name
  | ipv4 address => Ipv4.write address
  | ipv6 pieces => Ipv6.write pieces

end TeamConsole.Url
