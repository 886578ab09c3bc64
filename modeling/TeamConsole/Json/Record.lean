import TeamConsole.Json.Basic
import TeamConsole.Time.Instant

/-!
Records in JSON. A record is an object whose members are the fields, each under one of its names
and at most once, among members that do not count; or an array of the fields in their order,
where fields at the end may be missing. What stands in a field is read by a function that
fails on what the field cannot hold.
-/

namespace TeamConsole.Json

/-- A field and the other names under which it may come. -/
structure Field where
  name : String
  aliases : List String := []

def Field.goesBy (f : Field) (name : String) : Bool :=
  f.name = name || f.aliases.contains name

/-- What stands in the fields of a record that are given. -/
abbrev Record := List (String × Json)

def record? (fields : List Field) : Json → Option Record
  | .arr items =>
    if items.length ≤ fields.length then some ((fields.map Field.name).zip items) else none
  | .obj members =>
    let given := members.filterMap fun m =>
      (fields.find? (·.goesBy m.1)).map fun f => (f.name, m.2)
    if (given.map Prod.fst).Nodup then some given else none
  | _ => none

namespace Record

/-- What stands in a field. -/
def get? (r : Record) (name : String) : Option Json :=
  (r.find? (·.1 = name)).map Prod.snd

/-- Reads a field that has to be given. -/
def required {α : Type} (r : Record) (name : String) (read : Json → Option α) : Option α :=
  r.get? name >>= read

/-- Reads a field that has a value when it is missing. -/
def withDefault {α : Type} (r : Record) (name : String) (default : α) (read : Json → Option α) :
    Option α :=
  match r.get? name with
  | none => some default
  | some j => read j

end Record

def nullAs {α : Type} (default : α) (read : Json → Option α) : Json → Option α
  | .null => some default
  | j => read j

def orNull {α : Type} (read : Json → Option α) : Json → Option (Option α) :=
  nullAs none fun j => (read j).map some

/-- Reads a field that may be missing or null. -/
def Record.optional {α : Type} (r : Record) (name : String) (read : Json → Option α) :
    Option (Option α) :=
  r.withDefault name none (orNull read)

def readText : Json → Option String
  | .str s => some s
  | _ => none

/-- Reads a truth value. -/
def readBool : Json → Option Bool
  | .bool b => some b
  | _ => none

/-- Reads an integer of a range. A number with point or exponent is none. -/
def readInt (range : Int × Int) : Json → Option Int
  | .num (.int i) => Text.within? range i
  | _ => none

/-- Reads a signed integer of 64 bits. -/
def readInt64 : Json → Option Int :=
  readInt Text.int64Range

/-- Reads an unsigned integer of 64 bits. -/
def readNat64 (j : Json) : Option Nat :=
  (readInt Text.nat64Range j).map Int.toNat

/-- Reads an unsigned integer of 32 bits. -/
def readNat32 (j : Json) : Option Nat :=
  (readInt Text.nat32Range j).map Int.toNat

def readInstant (j : Json) : Option Instant :=
  readText j >>= Instant.ofString?

def readList {α : Type} (read : Json → Option α) : Json → Option (List α)
  | .arr items => items.mapM read
  | _ => none

/-- Reads the name of a choice without contents: a text, or an object with null under that
name. -/
def readName : Json → Option String
  | .str s => some s
  | .obj [(name, .null)] => some name
  | _ => none

/-- An optional instant as its text or null. -/
def instant? (t : Option Instant) : Json :=
  text? (t.map Instant.write)

end TeamConsole.Json
