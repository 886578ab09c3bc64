import TeamConsole.Json.Record
import TeamConsole.Workflow.Stage

/-!
Statuses, outcomes, stages and their edges in JSON.
-/

namespace TeamConsole

def TaskStatus.ofJson? (j : Json) : Option TaskStatus :=
  Json.readName j >>= ofName?

def StageKind.ofJson? (j : Json) : Option StageKind :=
  Json.readName j >>= ofName?

def Outcome.ofJson? (j : Json) : Option Outcome :=
  (Json.readText j).map ofName

namespace Stage

def fields : List Json.Field :=
  [⟨"name", []⟩, ⟨"kind", []⟩, ⟨"outcomes", []⟩]

def ofJson? (j : Json) : Option Stage := do
  let r ← j.record? fields
  return {
    name := ← r.required "name" Json.readText
    kind := ← r.required "kind" StageKind.ofJson?
    outcomes := ← r.withDefault "outcomes" [] (Json.readList Outcome.ofJson?) }

def toJson (s : Stage) : Json :=
  .obj [("name", .str s.name), ("kind", .str s.kind.name),
    ("outcomes", .arr (s.outcomes.map fun o => .str o.name))]

end Stage

namespace StageEdge

def fields : List Json.Field :=
  [⟨"from", []⟩, ⟨"outcome", []⟩, ⟨"to", []⟩]

/-- Reads an edge between stages. -/
def ofJson? (j : Json) : Option StageEdge := do
  let r ← j.record? fields
  return {
    source := ← r.required "from" Json.readText
    label := ← r.required "outcome" Outcome.ofJson?
    target := ← r.required "to" Json.readText }

/-- Writes an edge between stages. -/
def toJson (e : StageEdge) : Json :=
  .obj [("from", .str e.source), ("outcome", .str e.label.name), ("to", .str e.target)]

end StageEdge

end TeamConsole
