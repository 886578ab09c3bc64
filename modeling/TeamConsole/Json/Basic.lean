import TeamConsole.Number.Shortest

/-!
JSON values as a text holds them. An object keeps its members in order and with duplicates,
because a reader of a typed record refuses what a reader of plain data resolves. A text may
hold scalars that have a form but no value: `unreadable` stands for them, and for an object one
of whose names is such a scalar; they can be passed over and not be kept.
-/

namespace TeamConsole

/-- A number: an integer of 64 bits, with or without sign, or any other number as binary. -/
inductive Json.Number where
  | int (value : Int)
  | binary (value : Binary64)
deriving DecidableEq, Repr

inductive Json where
  | null
  | bool (value : Bool)
  | num (value : Json.Number)
  | str (value : String)
  | arr (items : List Json)
  | obj (members : List (String × Json))
  | unreadable

namespace Json

instance : Inhabited Json := ⟨null⟩

def int (i : Int) : Json :=
  .num (.int i)

/-- Natural numbers as JSON. -/
def nat (n : Nat) : Json :=
  .num (.int n)

def text? (s : Option String) : Json :=
  (s.map str).getD null

/-- Doubles are written positionally while the leading digit stands for 10 ^ -5 to 10 ^ 15. -/
def doubleFormat : Binary64.DecimalFormat where
  positionalFrom := -5
  positionalTo := 15

def Number.write : Number → String
  | .int i => Text.integer i
  | .binary x => doubleFormat.write x.negative x.shortest

/-- The value of the last member of this name. -/
def get? (j : Json) (name : String) : Option Json :=
  match j with
  | .obj members => (members.reverse.find? (·.1 = name)).map Prod.snd
  | _ => none

def lastOfEach (members : List (String × Json)) : List (String × Json) :=
  members.foldr (fun m rest => if rest.any (·.1 = m.1) then rest else m :: rest) []

/-- The deepest nesting of arrays and objects that a reader of plain data follows. -/
def maxDepth : Nat := 127

mutual

/-- Whether a value is plain data, read where `room` more levels of nesting are allowed: every
scalar has a value and no nesting is too deep. -/
def isPlain (room : Nat) : Json → Bool
  | .arr items => room ≠ 0 && arePlain (room - 1) items
  | .obj members => room ≠ 0 && arePlainMembers (room - 1) members
  | .unreadable => false
  | _ => true

/-- Whether all items are plain data. -/
def arePlain (room : Nat) : List Json → Bool
  | [] => true
  | j :: rest => isPlain room j && arePlain room rest

def arePlainMembers (room : Nat) : List (String × Json) → Bool
  | [] => true
  | (_, j) :: rest => isPlain room j && arePlainMembers room rest

end

mutual

/-- The value with the last of the members of one name in place of all of them, at every depth. -/
def resolve : Json → Json
  | .arr items => .arr (resolveItems items)
  | .obj members => .obj (lastOfEach (resolveMembers members))
  | j => j

/-- The items, each with its members resolved. -/
def resolveItems : List Json → List Json
  | [] => []
  | j :: rest => resolve j :: resolveItems rest

def resolveMembers : List (String × Json) → List (String × Json)
  | [] => []
  | (name, j) :: rest => (name, resolve j) :: resolveMembers rest

end

/-- The value as plain data, read where `room` more levels of nesting are allowed. -/
def keep? (room : Nat) (j : Json) : Option Json :=
  if j.isPlain room then some j.resolve else none

end Json

end TeamConsole
