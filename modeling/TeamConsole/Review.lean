import TeamConsole.Workflow.Encoding

/-!
Reviews of tasks: as the server lists them, as a reviewer submits them, and the answers to the
operations of a stage workflow.
-/

namespace TeamConsole

structure TaskReview where
  id : Int
  taskId : Int
  reviewer : String
  outcome : Outcome
  comments : String
  createdAt : Option Instant
deriving DecidableEq, Repr

namespace TaskReview

def fields : List Json.Field :=
  [⟨"review_id", []⟩, ⟨"task_id", []⟩, ⟨"reviewer_agent", []⟩, ⟨"outcome", []⟩,
   ⟨"comments", []⟩, ⟨"created_at", []⟩]

def ofJson? (j : Json) : Option TaskReview := do
  let r ← j.record? fields
  return {
    id := ← r.required "review_id" Json.readInt64
    taskId := ← r.required "task_id" Json.readInt64
    reviewer := ← r.withDefault "reviewer_agent" "" Json.readText
    outcome := ← r.required "outcome" Outcome.ofJson?
    comments := ← r.withDefault "comments" "" Json.readText
    createdAt := ← r.optional "created_at" Json.readInstant }

def toJson (v : TaskReview) : Json :=
  .obj [
    ("review_id", .int v.id),
    ("task_id", .int v.taskId),
    ("reviewer_agent", .str v.reviewer),
    ("outcome", .str v.outcome.name),
    ("comments", .str v.comments),
    ("created_at", .instant? v.createdAt)]

end TaskReview

structure ReviewSubmission where
  reviewer : String
  outcome : Outcome
  comments : Option String
deriving DecidableEq, Repr

/-- Writes a review to be submitted; comments that are absent are left out. -/
def ReviewSubmission.toJson (s : ReviewSubmission) : Json :=
  .obj ([("reviewer_agent", .str s.reviewer), ("outcome", .str s.outcome.name)] ++
    (s.comments.map fun c => ("comments", Json.str c)).toList)

/-- Whether an operation was carried out. -/
structure Ack where
  ok : Bool
deriving DecidableEq, Repr

/-- Reads whether an operation was carried out. -/
def Ack.ofJson? (j : Json) : Option Ack := do
  let r ← j.record? [⟨"ok", []⟩]
  return ⟨← r.withDefault "ok" false Json.readBool⟩

structure StageResponse where
  ok : Bool
  currentStage : Option String
deriving DecidableEq, Repr

/-- Reads whether a task moved to another stage. -/
def StageResponse.ofJson? (j : Json) : Option StageResponse := do
  let r ← j.record? [⟨"ok", []⟩, ⟨"current_stage", []⟩]
  return {
    ok := ← r.withDefault "ok" false Json.readBool
    currentStage := ← r.optional "current_stage" Json.readText }

end TeamConsole
