import TeamConsole.Dict
import TeamConsole.Workflow.Error

/-!
Transition tables: finite partial functions from a state and a label to a state, given by a
list of edges and checked when they are built. The board moves of a task, the review outcomes
and the stage workflows are all looked up here, so a legal move is defined once.

A table keeps its edges twice: in an index, in which the target of a state and a label is looked
up, and in a list, which tells what leaves a state.
-/

namespace TeamConsole

/-- Types whose values have a name that is sent, shown and compared as text. -/
class Named (α : Type) where
  name : α → String

instance : Named String := ⟨id⟩

/-- One edge of a table: under `label`, `source` goes to `target`. -/
structure Edge (S L : Type) where
  source : S
  label : L
  target : S
deriving DecidableEq, Repr

structure TransitionTable (S L : Type) where
  /-- The targets by state and then by label. -/
  index : Dict S (Dict L S) := {}
  /-- The edges in the order of their declaration. -/
  edges : List (Edge S L) := []
  /-- The states that end the process. -/
  terminal : List S := []
deriving Repr

namespace TransitionTable

variable {S L : Type} [DecidableEq S]

/-- The targets that the index has for a state, by label. -/
def targets (table : TransitionTable S L) (source : S) : Dict L S :=
  (table.index.get? source).getD {}

/-- Declares states terminal, in order; one with an edge out of it is refused. -/
def withTerminal [Named S] (table : TransitionTable S L) (states : List S) :
    Except WorkflowError (TransitionTable S L) :=
  match states.find? fun s => !(table.targets s).isEmpty with
  | some s => .error (.terminalHasExits (Named.name s))
  | none => .ok { table with terminal := table.terminal ++ states }

/-- The labels of the edges that leave `source`, in the order of their declaration. -/
def labelsFrom (table : TransitionTable S L) (source : S) : List L :=
  (table.edges.filter (·.source = source)).map Edge.label

def isTerminal (table : TransitionTable S L) (state : S) : Bool :=
  table.terminal.contains state

variable [DecidableEq L]

/-- Enters an edge in the index and at the end of the list. -/
def enter (table : TransitionTable S L) (e : Edge S L) : TransitionTable S L :=
  { table with
    index := table.index.insert e.source ((table.targets e.source).insert e.label e.target)
    edges := table.edges ++ [e] }

/-- Adds an edge to those already accepted: an edge that is there already is dropped, one with
another target is refused. -/
def addEdge [Named S] [Named L] (table : TransitionTable S L) (e : Edge S L) :
    Except WorkflowError (TransitionTable S L) :=
  match (table.targets e.source).get? e.label with
  | none => .ok (table.enter e)
  | some t =>
    if t = e.target then .ok table
    else .error (.ambiguous (Named.name e.source) (Named.name e.label) (Named.name t)
      (Named.name e.target))

def ofEdges [Named S] [Named L] (edges : List (Edge S L)) :
    Except WorkflowError (TransitionTable S L) :=
  edges.foldlM addEdge {}

/-- The table of edges and terminal states that are known to pass the checks. -/
def builtIn [Named S] [Named L] (edges : List (Edge S L)) (terminal : List S)
    (h : ((ofEdges edges).bind (·.withTerminal terminal)).toOption.isSome) : TransitionTable S L :=
  ((ofEdges edges).bind (·.withTerminal terminal)).toOption.get h

def next [Named S] [Named L] (table : TransitionTable S L) (source : S) (label : L) :
    Except WorkflowError S :=
  match (table.targets source).get? label with
  | some t => .ok t
  | none => .error (.notPermitted (Named.name source) (Named.name label))

def permits (table : TransitionTable S L) (source : S) (label : L) : Bool :=
  ((table.targets source).get? label).isSome

end TransitionTable

end TeamConsole
