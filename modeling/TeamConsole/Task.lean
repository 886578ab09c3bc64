import TeamConsole.Workflow.Encoding

/-!
Tasks. The server names the fields of a task in two ways, and a row may use both; the
capitalised name wins where it holds a value. A task is written with the small names only.
-/

namespace TeamConsole

structure Task where
  id : Int
  title : String
  status : TaskStatus
  assignee : Option String
  /-- The agent directly responsible. -/
  dri : Option String
  workflowId : Option String
  currentStage : Option String
  createdAt : Option Instant
  updatedAt : Option Instant
deriving DecidableEq, Repr

/-- The fields of a task as they arrive, of which any may be missing. -/
structure TaskRow where
  id : Option Int
  title : Option String
  status : Option TaskStatus
  assignee : Option String
  dri : Option String
  workflowId : Option String
  currentStage : Option String
  createdAt : Option Instant
  updatedAt : Option Instant
deriving DecidableEq, Repr

namespace TaskRow

/-- The names of the fields, capitalised and small. -/
def names : List (String × String) :=
  [("TaskID", "task_id"), ("Title", "title"), ("Status", "status"), ("Assignee", "assignee"),
   ("DRI", "dri"), ("WorkflowID", "workflow_id"), ("CurrentStage", "current_stage"),
   ("CreatedAt", "created_at"), ("UpdatedAt", "updated_at")]

/-- Every name is a field of its own. -/
def fields : List Json.Field :=
  names.flatMap fun n => [⟨n.1, []⟩, ⟨n.2, []⟩]

def field {α : Type} (r : Json.Record) (capital small : String) (read : Json → Option α) :
    Option (Option α) := do
  let first ← r.optional capital read
  let second ← r.optional small read
  return first <|> second

/-- Reads a row. As an array it has to be complete. -/
def ofJson? (j : Json) : Option TaskRow := do
  let r ← j.record? fields
  if let .arr items := j then guard (items.length = fields.length)
  return {
    id := ← field r "TaskID" "task_id" Json.readInt64
    title := ← field r "Title" "title" Json.readText
    status := ← field r "Status" "status" TaskStatus.ofJson?
    assignee := ← field r "Assignee" "assignee" Json.readText
    dri := ← field r "DRI" "dri" Json.readText
    workflowId := ← field r "WorkflowID" "workflow_id" Json.readText
    currentStage := ← field r "CurrentStage" "current_stage" Json.readText
    createdAt := ← field r "CreatedAt" "created_at" Json.readInstant
    updatedAt := ← field r "UpdatedAt" "updated_at" Json.readInstant }

end TaskRow

namespace Task

def ofRow? (row : TaskRow) : Option Task := do
  return {
    id := ← row.id
    title := row.title.getD ""
    status := row.status.getD .todo
    assignee := row.assignee
    dri := row.dri
    workflowId := row.workflowId
    currentStage := row.currentStage
    createdAt := row.createdAt
    updatedAt := row.updatedAt }

def ofJson? (j : Json) : Option Task :=
  TaskRow.ofJson? j >>= ofRow?

/-- The tasks of a list of rows. A row that is no task is left out, so that it does not hide the
others. -/
def normalizeAll (rows : List Json) : List Task :=
  rows.filterMap ofJson?

def toJson (t : Task) : Json :=
  .obj [
    ("task_id", .int t.id),
    ("title", .str t.title),
    ("status", .str t.status.name),
    ("assignee", .text? t.assignee),
    ("dri", .text? t.dri),
    ("workflow_id", .text? t.workflowId),
    ("current_stage", .text? t.currentStage),
    ("created_at", .instant? t.createdAt),
    ("updated_at", .instant? t.updatedAt)]

/-- Whether the task waits for a human decision. -/
def isPendingApproval (t : Task) : Bool :=
  t.status = .inApproval ∨ t.currentStage = some Workflow.approvalStage

end Task

/-- What the server tells of a task after a change to it; it may tell nothing. -/
structure TaskUpdate where
  id : Option Int
  status : Option TaskStatus
  assignee : Option String
  currentStage : Option String
deriving DecidableEq, Repr

namespace TaskUpdate

/-- What a row tells of a change. -/
def ofRow (row : TaskRow) : TaskUpdate :=
  ⟨row.id, row.status, row.assignee, row.currentStage⟩

/-- Reads the answer to a change. -/
def ofJson? (j : Json) : Option TaskUpdate :=
  (TaskRow.ofJson? j).map ofRow

/-- What a whole task tells of a change. -/
def ofTask (t : Task) : TaskUpdate :=
  ⟨some t.id, some t.status, t.assignee, t.currentStage⟩

end TaskUpdate

structure NewTask where
  title : String
  status : TaskStatus
deriving DecidableEq, Repr

/-- Writes a task to be created. -/
def NewTask.toJson (t : NewTask) : Json :=
  .obj [("title", .str t.title), ("status", .str t.status.name)]

/-- A change to a task; what is absent stays as it is. An assignee of `some none` is taken off. -/
structure TaskPatch where
  status : Option TaskStatus
  assignee : Option (Option String)
deriving DecidableEq, Repr

namespace TaskPatch

/-- A change of the status alone. -/
def ofStatus (s : TaskStatus) : TaskPatch :=
  ⟨some s, none⟩

/-- A change of the assignee alone. -/
def ofAssignee (a : Option String) : TaskPatch :=
  ⟨none, some a⟩

/-- Writes a change. -/
def toJson (p : TaskPatch) : Json :=
  .obj ((p.status.map fun s => ("status", Json.str s.name)).toList ++
    (p.assignee.map fun a => ("assignee", Json.text? a)).toList)

end TaskPatch

/-- The answer to the creation of a task. -/
structure CreatedTask where
  id : Int
deriving DecidableEq, Repr

/-- Reads the answer to the creation of a task. -/
def CreatedTask.ofJson? (j : Json) : Option CreatedTask := do
  let r ← j.record? [⟨"task_id", []⟩]
  return ⟨← r.required "task_id" Json.readInt64⟩

end TeamConsole
