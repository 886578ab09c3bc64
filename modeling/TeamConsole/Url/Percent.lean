import TeamConsole.Text.Digits
import TeamConsole.Text.Utf8

/-!
Percent-encoding: a byte as a percent sign and two digits. Which ASCII characters are encoded
depends on the part of the URL; characters beyond ASCII always are. A query is written in the
form encoding, where a blank becomes a plus sign.
-/

namespace TeamConsole.Url

def percentByte (b : UInt8) : List Char :=
  ['%', Text.hexDigit 'A' (b.toNat / 16), Text.hexDigit 'A' (b.toNat % 16)]

/-- All bytes of a character, percent-encoded. -/
def percentChar (c : Char) : List Char :=
  (String.utf8EncodeChar c).flatMap percentByte

/-- The ASCII characters that a part of a URL encodes besides the control characters. -/
structure EncodeSet where
  special : List Char

namespace EncodeSet

def encodes (s : EncodeSet) (c : Char) : Bool :=
  c.toNat < 0x20 || 0x7E < c.toNat || s.special.contains c

/-- A character as the part of the URL writes it. -/
def encodeChar (s : EncodeSet) (c : Char) : List Char :=
  if s.encodes c then percentChar c else [c]

/-- Characters as the part of the URL writes them. -/
def encode (s : EncodeSet) (cs : List Char) : List Char :=
  cs.flatMap s.encodeChar

def fragment : EncodeSet := ⟨[' ', '"', '<', '>', '\x60']⟩

def query : EncodeSet := ⟨[' ', '"', '#', '<', '>', '\'']⟩

def path : EncodeSet := ⟨fragment.special ++ ['#', '?', '\x7b', '\x7d']⟩

/-- The set of a path segment that is given by itself, whose slashes and percent signs mean
nothing. -/
def segment : EncodeSet := ⟨path.special ++ ['/', '%', '\\']⟩

/-- The set of user names and passwords. -/
def userinfo : EncodeSet :=
  ⟨path.special ++ ['/', ':', ';', '=', '@', '[', '\\', ']', '^', '|']⟩

end EncodeSet

/-- The bytes of a text in which percent signs with two digits stand for bytes; a percent sign
without them stands for itself. -/
def percentDecode : List Char → List UInt8
  | '%' :: a :: b :: rest =>
    match Text.hexDigit? a, Text.hexDigit? b with
    | some x, some y => UInt8.ofNat (16 * x + y) :: percentDecode rest
    | _, _ => String.utf8EncodeChar '%' ++ percentDecode (a :: b :: rest)
  | c :: rest => String.utf8EncodeChar c ++ percentDecode rest
  | [] => []

/-- A character in the form encoding. -/
def formChar (c : Char) : List Char :=
  if c.isAlphanum || c = '*' || c = '-' || c = '.' || c = '_' then [c]
  else if c = ' ' then ['+']
  else percentChar c

/-- A text in the form encoding. -/
def formEncode (s : String) : String :=
  String.ofList (s.toList.flatMap formChar)

end TeamConsole.Url
