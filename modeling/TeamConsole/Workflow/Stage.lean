import TeamConsole.Workflow.Status

/-!
Stage workflows: named stages joined by edges that carry outcomes. A workflow is built from a
list of stages and a list of edges, and refused with the first fault found: edge by edge an
undeclared stage or outcome, then two edges that contradict each other, then an edge that
leaves a terminal stage.
-/

namespace TeamConsole

inductive StageKind where
  | agent
  | human
  /-- The server advances the stage by itself. -/
  | auto
  | merge
  | terminal
deriving DecidableEq, Repr

namespace StageKind

def all : List StageKind :=
  [agent, human, auto, merge, terminal]

def name : StageKind → String
  | agent => "agent"
  | human => "human"
  | auto => "auto"
  | merge => "merge"
  | terminal => "terminal"

instance : Named StageKind := ⟨name⟩

def ofName? (text : String) : Option StageKind :=
  all.find? (·.name = text)

end StageKind

/-- A stage and the outcomes it may produce. -/
structure Stage where
  name : String
  kind : StageKind
  outcomes : List Outcome
deriving DecidableEq, Repr

abbrev StageEdge := Edge String Outcome

/-- Stages in the order of their declaration, with the table of their edges. -/
structure Workflow where
  stages : List Stage
  table : TransitionTable String Outcome
deriving Repr

namespace Workflow

def findStage? (stages : List Stage) (name : String) : Option Stage :=
  stages.find? (·.name = name)

def checkEdge (stages : List Stage) (e : StageEdge) : Except WorkflowError Unit :=
  match findStage? stages e.source, findStage? stages e.target with
  | none, _ => .error (.unknownStage e.source)
  | some _, none => .error (.unknownStage e.target)
  | some s, some _ =>
    if e.label ∈ s.outcomes then .ok ()
    else .error (.undeclaredOutcome e.source e.label.name)

def ofStages (stages : List Stage) (edges : List StageEdge) : Except WorkflowError Workflow := do
  edges.forM (checkEdge stages)
  let table ← TransitionTable.ofEdges edges
  let table ← table.withTerminal ((stages.filter (·.kind = .terminal)).map Stage.name)
  return ⟨stages, table⟩

def stage? (w : Workflow) (name : String) : Option Stage :=
  findStage? w.stages name

def nextStage (w : Workflow) (source : String) (outcome : Outcome) :
    Except WorkflowError String :=
  match w.stage? source with
  | none => .error (.unknownStage source)
  | some _ => w.table.next source outcome

def outcomesFrom (w : Workflow) (stage : String) : List Outcome :=
  w.table.labelsFrom stage

/-- The stage declared first, where work begins. -/
def initialStage? (w : Workflow) : Option Stage :=
  w.stages.head?

def isTerminal (w : Workflow) (stage : String) : Bool :=
  w.table.isTerminal stage

/-- The edges in the order of their declaration. -/
def transitions (w : Workflow) : List StageEdge :=
  w.table.edges

/-- The name of the stage at which a human approves the work. -/
def approvalStage : String := "InApproval"

/-- The review workflow that tasks follow unless the server says otherwise. -/
def review : Workflow :=
  (ofStages
    [⟨"Coding", .agent, [.submitForReview, .done]⟩,
     ⟨"InReview", .agent, [.approved, .changesRequested]⟩,
     ⟨"InApproval", .human, [.approved, .changesRequested]⟩,
     ⟨"Merging", .merge, [.done]⟩,
     ⟨"Done", .terminal, []⟩]
    [⟨"Coding", .submitForReview, "InReview"⟩,
     ⟨"Coding", .done, "Done"⟩,
     ⟨"InReview", .approved, "InApproval"⟩,
     ⟨"InReview", .changesRequested, "Coding"⟩,
     ⟨"InApproval", .approved, "Merging"⟩,
     ⟨"InApproval", .changesRequested, "Coding"⟩,
     ⟨"Merging", .done, "Done"⟩]).toOption.get rfl

theorem review_checked : ofStages review.stages review.transitions = .ok review := by
  rfl

end Workflow

end TeamConsole
