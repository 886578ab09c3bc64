import TeamConsole.ApprovalQueue
import TeamConsole.Gateway.Call
import TeamConsole.Sync.Refresh

/-!
Changes to tasks. A change is checked against the workflow rules first; one that fails its check
is refused without a call. One that passes makes a single call, and what the server confirms is
shown at once.
-/

namespace TeamConsole

/-- Why a change to a task was not made. -/
inductive TransitionError where
  /-- The workflow has no such edge; nothing was sent. -/
  | workflow (e : WorkflowError)
  /-- The request makes no sense; nothing was sent. -/
  | invalidInput (reason : String)
  | gateway (e : GatewayError)
  /-- The server refused the change. -/
  | rejected (id : Int)
deriving DecidableEq, Repr

/-- The text of a refusal. -/
def TransitionError.message : TransitionError → String
  | workflow e => e.message
  | invalidInput reason => "invalid input: " ++ reason
  | gateway e => e.message
  | rejected id => "server rejected the transition of task " ++ Text.integer id

/-- A change that an operator asks for. -/
inductive Transition where
  /-- Moves a task on the board. -/
  | move (team : String) (id : Int) (current next : TaskStatus)
  | applyOutcome (team : String) (id : Int) (current : TaskStatus) (outcome : Outcome)
  /-- Decides a task that waits for approval. -/
  | approve (team : String) (task : Task) (outcome : Outcome)
  | requestReview (team : String) (task : Task)
  /-- Records a verdict on a task. -/
  | submitReview (team : String) (task : Task) (reviewer : String) (outcome : Outcome)
      (comments : Option String)
  | create (team title : String) (status : TaskStatus)
  | assign (team : String) (id : Int) (assignee : Option String)

/-- A change that passed its check, with what it is expected to lead to. -/
inductive Submission where
  /-- A new status; `decides` tells that the task leaves the approval queue. -/
  | status (team : String) (id : Int) (target : TaskStatus) (decides : Bool)
  /-- An approval decision on a task with a stage. -/
  | decision (team : String) (id : Int) (outcome : Outcome) (predicted : String)
  /-- A request for review of a task with a stage. -/
  | review (team : String) (id : Int) (predicted : String)
  /-- A verdict; a task with a stage is expected to move. -/
  | verdict (team : String) (id : Int) (review : ReviewSubmission) (predicted : Option String)
  | newTask (team : String) (task : NewTask)
  | assignee (team : String) (id : Int) (assignee : Option String)
deriving DecidableEq, Repr

/-- A workflow refusal as the refusal of a change. -/
def refusing {α : Type} (e : Except WorkflowError α) : Except TransitionError α :=
  e.mapError .workflow

namespace Transition

/-- The outcomes that are verdicts of a review. -/
def verdicts : List Outcome :=
  [.approved, .changesRequested]

def initialStatuses : List TaskStatus :=
  [.todo, .inProgress]

def checkOutcome (team : String) (id : Int) (current : TaskStatus) (outcome : Outcome)
    (decides : Bool) : Except TransitionError Submission := do
  let target ← refusing (Outcome.moves.next current outcome)
  return .status team id target decides

def check : Transition → Except TransitionError Submission
  | move team id current next => do
    let target ← refusing (TaskStatus.moves.next current next)
    return .status team id target false
  | applyOutcome team id current outcome => checkOutcome team id current outcome false
  | approve team task outcome =>
    match task.currentStage with
    | none => checkOutcome team task.id task.status outcome true
    | some stage => do
      let predicted ← refusing (Workflow.review.nextStage stage outcome)
      return .decision team task.id outcome predicted
  | requestReview team task =>
    match task.currentStage with
    | none => checkOutcome team task.id task.status .submitForReview false
    | some stage => do
      let predicted ← refusing (Workflow.review.nextStage stage .submitForReview)
      return .review team task.id predicted
  | submitReview team task reviewer outcome comments => do
    let some reviewer := Text.nonblank? reviewer
      | throw (.invalidInput "reviewer is empty")
    unless verdicts.contains outcome do
      throw (.invalidInput (outcome.name ++ " is not a review verdict"))
    let predicted ← task.currentStage.mapM fun stage =>
      refusing (Workflow.review.nextStage stage outcome)
    return .verdict team task.id ⟨reviewer, outcome, comments.bind Text.nonblank?⟩ predicted
  | create team title status => do
    let some title := Text.nonblank? title
      | throw (.invalidInput "task title is empty")
    unless initialStatuses.contains status do
      throw (.invalidInput ("new tasks start in todo or in_progress, not " ++ status.name))
    return .newTask team ⟨title, status⟩
  | assign team id assignee => return .assignee team id (assignee.bind Text.nonblank?)

end Transition

/-- What the server confirmed of a change. -/
structure Confirmation where
  team : String
  id : Int
  status : Option TaskStatus
  currentStage : Option String
deriving DecidableEq, Repr

/-- The view of the server together with the queue of tasks to approve. -/
structure Desk where
  view : Sync.State := {}
  queue : ApprovalQueue := {}
deriving Repr

namespace Submission

/-- The call that makes the change. -/
def call : Submission → Call
  | status team id target _ => .patchTask team id (.ofStatus target)
  | decision team id outcome _ => .approveTask team id outcome
  | review team id _ => .requestReview team id
  | verdict team id submitted _ => .submitReview team id submitted
  | newTask team task => .createTask team task
  | assignee team id a => .patchTask team id (.ofAssignee a)

def showStatus (d : Desk) (team : String) (id : Int) (status : TaskStatus) :
    Desk × List Sync.Event :=
  let (view, _, events) := d.view.confirmStatus team id status
  ({ d with view }, events)

def showStage (d : Desk) (team : String) (id : Int) (stage : String) :
    Desk × List Sync.Event :=
  let (view, _, events) := d.view.confirmStage team id stage
  ({ d with view }, events)

/-- Takes a task off the approval queue. -/
def decide (d : Desk) (team : String) (id : Int) : Desk :=
  { d with queue := d.queue.remove team id }

/-- Takes the answer to a change: shows what the server confirms, its own word before what was
expected. -/
def settle (d : Desk) : (s : Submission) → s.call.Answer →
    Except TransitionError (Desk × List Sync.Event × Confirmation)
  | status team id target decides, (answer : TaskUpdate) =>
    let confirmed := answer.status.getD target
    let (d, events) := showStatus d team id confirmed
    let d := if decides then decide d team id else d
    .ok (d, events, ⟨team, id, some confirmed, none⟩)
  | decision team id _ predicted, (answer : StageResponse) =>
    if answer.ok then
      let confirmed := answer.currentStage.getD predicted
      let (d, events) := showStage (decide d team id) team id confirmed
      .ok (d, events, ⟨team, id, none, some confirmed⟩)
    else .error (.rejected id)
  | review team id predicted, (answer : StageResponse) =>
    if answer.ok then
      let confirmed := answer.currentStage.getD predicted
      let (d, events) := showStage d team id confirmed
      .ok (d, events, ⟨team, id, none, some confirmed⟩)
    else .error (.rejected id)
  | verdict team id _ predicted, (answer : Ack) =>
    if answer.ok then
      let d := decide d team id
      let (d, events) := match predicted with
        | some stage => showStage d team id stage
        | none => (d, [])
      .ok (d, events, ⟨team, id, none, predicted⟩)
    else .error (.rejected id)
  | newTask team task, (answer : CreatedTask) =>
    .ok (d, [], ⟨team, answer.id, some task.status, none⟩)
  | assignee team id _, (_ : TaskUpdate) => .ok (d, [], ⟨team, id, none, none⟩)

end Submission

end TeamConsole
