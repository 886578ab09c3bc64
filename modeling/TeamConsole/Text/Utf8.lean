/-!
UTF-8: the characters of a sequence of bytes. A byte sequence that is no character is taken
apart into the longest pieces that begin one, so that each piece stands for one error.
-/

namespace TeamConsole.Text.Utf8

/-- What stands in a text that came as bytes: a character, or bytes that form none. -/
abbrev Piece := Option Char

/-- The form of a character, told by its first byte: how many bytes follow, the bits that the
first byte adds, and the range of the second byte. -/
structure Lead where
  more : Nat
  bits : Nat
  low : Nat
  high : Nat

/-- The lead bytes of characters beyond ASCII. The ranges of the second byte exclude longer
spellings, surrogates and numbers above the last character. -/
def lead? (b : UInt8) : Option Lead :=
  let n := b.toNat
  if n < 0xC2 then none
  else if n < 0xE0 then some ⟨1, n - 0xC0, 0x80, 0xBF⟩
  else if n = 0xE0 then some ⟨2, 0, 0xA0, 0xBF⟩
  else if n = 0xED then some ⟨2, 0xD, 0x80, 0x9F⟩
  else if n < 0xF0 then some ⟨2, n - 0xE0, 0x80, 0xBF⟩
  else if n = 0xF0 then some ⟨3, 0, 0x90, 0xBF⟩
  else if n < 0xF4 then some ⟨3, n - 0xF0, 0x80, 0xBF⟩
  else if n = 0xF4 then some ⟨3, 4, 0x80, 0x8F⟩
  else none

/-- A character of which bytes are still to come: their number, the bits so far, and the range
of the next byte. -/
structure Pending where
  more : Nat
  bits : Nat
  low : Nat
  high : Nat

/-- Pieces read so far, the last first, and the character being read. -/
structure Reading where
  pieces : List Piece
  pending : Option Pending

/-- Reads a byte at which a character may begin. -/
def Reading.start (pieces : List Piece) (b : UInt8) : Reading :=
  if b < 0x80 then ⟨some (Char.ofNat b.toNat) :: pieces, none⟩
  else match lead? b with
    | some l => ⟨pieces, some ⟨l.more, l.bits, l.low, l.high⟩⟩
    | none => ⟨none :: pieces, none⟩

/-- Reads one byte. A byte that cannot continue the character being read ends it as an error,
and is read again as a first byte. -/
def Reading.step (r : Reading) (b : UInt8) : Reading :=
  match r.pending with
  | none => .start r.pieces b
  | some p =>
    if p.low ≤ b.toNat ∧ b.toNat ≤ p.high then
      let bits := p.bits * 64 + (b.toNat - 0x80)
      if p.more ≤ 1 then ⟨some (Char.ofNat bits) :: r.pieces, none⟩
      else ⟨r.pieces, some ⟨p.more - 1, bits, 0x80, 0xBF⟩⟩
    else .start (none :: r.pieces) b

/-- The pieces of all that was read; a character cut short is an error. -/
def Reading.finish (r : Reading) : List Piece :=
  match r.pending with
  | none => r.pieces.reverse
  | some _ => (none :: r.pieces).reverse

/-- The characters and errors of a sequence of bytes. -/
def pieces (bytes : List UInt8) : List Piece :=
  (bytes.foldl Reading.step ⟨[], none⟩).finish

def decode? (bytes : List UInt8) : Option String :=
  ((pieces bytes).mapM id).map String.ofList

/-- The text of a sequence of bytes, with U+FFFD in place of each error. -/
def decodeLossy (bytes : List UInt8) : String :=
  String.ofList ((pieces bytes).map (·.getD '\uFFFD'))

/-- The bytes of a list of characters. -/
def encodeChars (cs : List Char) : List UInt8 :=
  cs.flatMap String.utf8EncodeChar

def encode (s : String) : List UInt8 :=
  encodeChars s.toList

end TeamConsole.Text.Utf8
