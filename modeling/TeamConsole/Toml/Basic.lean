/-!
TOML values. A table remembers how it came about, because that decides what may still be added
to it; so does an array that consists of tables with headers.
-/

namespace TeamConsole

/-- How a table came about. -/
inductive Toml.TableKind where
  /-- By the header of a table below it. -/
  | implied
  /-- By a key with dots. -/
  | dotted
  /-- By a header of its own; the table of the whole text counts as one. -/
  | headed
  /-- In braces. -/
  | inline
deriving DecidableEq, Repr

inductive Toml where
  | text (s : String)
  | integer (i : Int)
  /-- A number with a point or an exponent, or one that is none, as it is written but for
  underscores. -/
  | float (chars : List Char)
  | boolean (b : Bool)
  | dateTime (chars : List Char)
  /-- The flag tells that the items are tables with headers. -/
  | array (ofHeaders : Bool) (items : List Toml)
  | table (kind : Toml.TableKind) (entries : List (String × Toml))
deriving Repr

namespace Toml

instance : Inhabited Toml := ⟨.table .headed []⟩

def replaceLast (items : List Toml) (t : Toml) : List Toml :=
  items.dropLast ++ [t]

/-- The entries with a value for a name, in the place where the name stands. -/
def put (name : String) (value : Toml) : List (String × Toml) → List (String × Toml)
  | [] => [(name, value)]
  | (n, v) :: rest => if n = name then (n, value) :: rest else (n, v) :: put name value rest

/-- A new table on the way to another one: by a key with dots, or by a header. -/
def fresh (byDots : Bool) : Toml :=
  .table (if byDots then .dotted else .implied) []

/-- Whether the way to a table may lead through this one. Tables in braces are closed, and a key
with dots does not lead into a table with a header of its own. -/
def TableKind.leadsOn (byDots : Bool) : TableKind → Bool
  | implied | dotted => true
  | headed => !byDots
  | inline => false

/-- Changes the table to which a path leads, and makes the tables on the way. The path leads
into the last table of an array of tables with headers. -/
def descend (byDots : Bool) (change : Toml → Option Toml) : (path : List String) → Toml →
    Option Toml
  | [], t => change t
  | name :: path, .table kind entries =>
    match entries.lookup name with
    | none => do
      return .table kind (put name (← descend byDots change path (fresh byDots)) entries)
    | some (.table inner held) => do
      guard (inner.leadsOn byDots)
      return .table kind (put name (← descend byDots change path (.table inner held)) entries)
    | some (.array true items) => do
      let last ← descend byDots change path (← items.getLast?)
      return .table kind (put name (.array true (replaceLast items last)) entries)
    | some _ => none
  | _, _ => none

/-- Adds an entry for a key with dots. The parts before the last lead to a table that has no
header of its own. -/
def assign (path : List String) (value : Toml) (t : Toml) : Option Toml := do
  let name ← path.getLast?
  let add : Toml → Option Toml
    | .table kind entries => do
      guard ((path.length = 1 ∨ kind.leadsOn true) ∧ (entries.lookup name).isNone)
      return .table kind (put name value entries)
    | _ => none
  descend true add path.dropLast t

/-- Opens the table of a header. It may be there only as a table on the way to others. -/
def openTable (path : List String) (t : Toml) : Option Toml := do
  let name ← path.getLast?
  let add : Toml → Option Toml
    | .table kind entries =>
      match entries.lookup name with
      | none => some (.table kind (put name (.table .headed []) entries))
      | some (.table .implied held) => some (.table kind (put name (.table .headed held) entries))
      | some _ => none
    | _ => none
  descend false add path.dropLast t

/-- Opens the next table of an array of tables. -/
def openItem (path : List String) (t : Toml) : Option Toml := do
  let name ← path.getLast?
  let add : Toml → Option Toml
    | .table kind entries =>
      match entries.lookup name with
      | none => some (.table kind (put name (.array true [.table .headed []]) entries))
      | some (.array true items) =>
        some (.table kind (put name (.array true (items ++ [.table .headed []])) entries))
      | some _ => none
    | _ => none
  descend false add path.dropLast t

end Toml

end TeamConsole
