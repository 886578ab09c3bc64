import TeamConsole.Json.Record

/-!
Messages between the operator and the agents, and the plain documents of a team.
-/

namespace TeamConsole

structure Message where
  id : Option Int
  sender : String
  recipient : Option String
  content : String
  createdAt : Option Instant
deriving DecidableEq, Repr

namespace Message

def fields : List Json.Field :=
  [⟨"message_id", []⟩, ⟨"sender", []⟩, ⟨"recipient", []⟩, ⟨"content", []⟩, ⟨"created_at", []⟩]

def ofJson? (j : Json) : Option Message := do
  let r ← j.record? fields
  return {
    id := ← r.optional "message_id" Json.readInt64
    sender := ← r.required "sender" Json.readText
    recipient := ← r.optional "recipient" Json.readText
    content := ← r.required "content" Json.readText
    createdAt := ← r.optional "created_at" Json.readInstant }

def toJson (m : Message) : Json :=
  .obj [
    ("message_id", (m.id.map Json.int).getD .null),
    ("sender", .str m.sender),
    ("recipient", .text? m.recipient),
    ("content", .str m.content),
    ("created_at", .instant? m.createdAt)]

end Message

/-- The changes on the branch of a task. -/
structure TaskDiff where
  diff : String
deriving DecidableEq, Repr

/-- Reads the changes on the branch of a task. -/
def TaskDiff.ofJson? (j : Json) : Option TaskDiff := do
  let r ← j.record? [⟨"diff", []⟩]
  return ⟨← r.withDefault "diff" "" Json.readText⟩

structure TextDocument where
  content : String
deriving DecidableEq, Repr

def TextDocument.ofJson? (j : Json) : Option TextDocument := do
  let r ← j.record? [⟨"content", []⟩]
  return ⟨← r.withDefault "content" "" Json.readText⟩

end TeamConsole
