import TeamConsole.Workflow.Table

/-!
The statuses of a task, the outcomes of working on it, and the two tables over statuses: the
moves an operator may ask for on the board, and the outcomes that a task without a stage
accepts.
-/

namespace TeamConsole

inductive TaskStatus where
  | todo
  | inProgress
  | inReview
  | inApproval
  | merging
  | done
  | failed
  /-- Set by the server only; it is no column of the board. -/
  | cancelled
deriving DecidableEq, Repr

namespace TaskStatus

/-- Every status, the columns of the board first. -/
def all : List TaskStatus :=
  [todo, inProgress, inReview, inApproval, merging, done, failed, cancelled]

/-- The columns of the board, from left to right. -/
def board : List TaskStatus :=
  [todo, inProgress, inReview, inApproval, merging, done, failed]

def name : TaskStatus → String
  | todo => "todo"
  | inProgress => "in_progress"
  | inReview => "in_review"
  | inApproval => "in_approval"
  | merging => "merging"
  | done => "done"
  | failed => "failed"
  | cancelled => "cancelled"

instance : Named TaskStatus := ⟨name⟩

def ofName? (text : String) : Option TaskStatus :=
  all.find? (·.name = text)

/-- The status of a name that an operator gave. -/
def parse (text : String) : Except WorkflowError TaskStatus :=
  match ofName? text with
  | some s => .ok s
  | none => .error (.unknownStatus text)

/-- The heading of a column: the name with blanks for its underscores. -/
def displayName (s : TaskStatus) : String :=
  s.name.map fun c => if c = '_' then ' ' else c

/-- The moves allowed on the board; the label of a move is the status asked for. -/
def moves : TransitionTable TaskStatus TaskStatus :=
  .builtIn
    [⟨todo, inProgress, inProgress⟩,
     ⟨inProgress, inReview, inReview⟩, ⟨inProgress, failed, failed⟩,
     ⟨inReview, inApproval, inApproval⟩, ⟨inReview, inProgress, inProgress⟩,
     ⟨inApproval, merging, merging⟩, ⟨inApproval, inProgress, inProgress⟩,
     ⟨merging, done, done⟩, ⟨merging, failed, failed⟩,
     ⟨failed, todo, todo⟩]
    [done, cancelled] rfl

/-- The statuses one move away. -/
def nextStatuses (s : TaskStatus) : List TaskStatus :=
  moves.labelsFrom s

/-- Whether no move leaves the status. -/
def isTerminal (s : TaskStatus) : Bool :=
  moves.isTerminal s

end TaskStatus

inductive Outcome where
  /-- The work is ready to be reviewed. -/
  | submitForReview
  /-- The work was accepted. -/
  | approved
  /-- The work was sent back. -/
  | changesRequested
  /-- The stage is complete. -/
  | done
  /-- A label that only the server knows. -/
  | other (label : String)
deriving DecidableEq, Repr

namespace Outcome

def name : Outcome → String
  | submitForReview => "submit_for_review"
  | approved => "approved"
  | changesRequested => "changes_requested"
  | done => "done"
  | other label => label

instance : Named Outcome := ⟨name⟩

/-- The outcomes with a meaning of their own. -/
def known : List Outcome :=
  [submitForReview, approved, changesRequested, done]

def ofName (text : String) : Outcome :=
  (known.find? (·.name = text)).getD (other text)

/-- The outcomes that a task without a stage accepts in each status. -/
def moves : TransitionTable TaskStatus Outcome :=
  .builtIn
    [⟨.inProgress, submitForReview, .inReview⟩,
     ⟨.inReview, approved, .inApproval⟩, ⟨.inReview, changesRequested, .inProgress⟩,
     ⟨.inApproval, approved, .merging⟩, ⟨.inApproval, changesRequested, .inProgress⟩,
     ⟨.merging, done, .done⟩]
    [.done, .cancelled] rfl

end Outcome

theorem TaskStatus.moves_checked :
    ∃ table, TransitionTable.ofEdges TaskStatus.moves.edges = .ok table ∧
      table.withTerminal TaskStatus.moves.terminal = .ok TaskStatus.moves :=
  ⟨_, rfl, rfl⟩

/-- The checks made on every table accept the outcomes of a task without a stage. -/
theorem Outcome.moves_checked :
    ∃ table, TransitionTable.ofEdges Outcome.moves.edges = .ok table ∧
      table.withTerminal Outcome.moves.terminal = .ok Outcome.moves :=
  ⟨_, rfl, rfl⟩

end TeamConsole
