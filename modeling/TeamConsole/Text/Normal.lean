import TeamConsole.Text.CombiningClass
import TeamConsole.Text.Composition

/-!
The composed normal form of texts (Unicode's form C). A text is taken apart into characters that
stand for no others, marks on one character are put in the order of their classes, and then pairs
are written as one character wherever there is one.
-/

namespace TeamConsole.Text.Normal

/-- How often the parts of a character are taken apart in turn. -/
def maxDepth : Nat := 4

/-- The characters for which a character stands, in the end. -/
def takeApart : (depth : Nat) → Nat → List Nat
  | 0, n => [n]
  | depth + 1, n =>
    match parts? n with
    | some parts => parts.flatMap (takeApart depth)
    | none => [n]

/-- The characters for which the characters of a text stand. -/
def decompose (cs : List Char) : List Char :=
  cs.flatMap fun c =>
    if c.toNat < 0xC0 then [c] else (takeApart maxDepth c.toNat).map Char.ofNat

/-! ## Order -/

/-- Puts a character of a class after the characters so far, the last of which comes first. A
mark goes before marks of greater classes. -/
def place (k : Nat) (c : Char) : List (Nat × Char) → List (Nat × Char)
  | [] => [(k, c)]
  | (l, d) :: rest => if 0 < k ∧ k < l then (l, d) :: place k c rest else (k, c) :: (l, d) :: rest

/-- The characters of a text with their classes, with the marks in order. -/
def order (cs : List Char) : List (Nat × Char) :=
  (cs.foldl (fun done c => place (combiningClass c) c done) []).reverse

/-! ## Composition -/

structure Composing where
  /-- The characters before the last one that is no mark, with the last first. -/
  done : List Char := []
  /-- The last character that is no mark. -/
  base : Option Char := none
  /-- The marks after it, with the last first. -/
  marks : List Char := []
  lastClass : Nat := 0

namespace Composing

/-- All characters so far, with the last first. -/
def all (s : Composing) : List Char :=
  s.marks ++ s.base.toList ++ s.done

/-- Whether nothing stands between the base and a character of a class. -/
def reaches (s : Composing) (k : Nat) : Bool :=
  s.marks.isEmpty || s.lastClass < k

/-- Takes a character that does not compose with the base. -/
def push (s : Composing) (k : Nat) (c : Char) : Composing :=
  if k = 0 then { done := s.all, base := some c }
  else { s with marks := c :: s.marks, lastClass := k }

/-- Takes a character of a class. -/
def step (s : Composing) (next : Nat × Char) : Composing :=
  let (k, c) := next
  match s.base.bind (compose? · c) with
  | some made => if s.reaches k then { s with base := some made } else s.push k c
  | none => s.push k c

end Composing

/-- Writes pairs as one character. -/
def compose (cs : List (Nat × Char)) : List Char :=
  (cs.foldl Composing.step {}).all.reverse

def form (cs : List Char) : List Char :=
  if cs.all (·.toNat < 0xC0) then cs else compose (order (decompose cs))

end TeamConsole.Text.Normal
