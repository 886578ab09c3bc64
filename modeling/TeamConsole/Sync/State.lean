import TeamConsole.Bootstrap

/-!
The operator's view of the server: the selected team with its tasks and agents, and the numbers
that tell which of the answers still on their way may change it.
-/

namespace TeamConsole.Sync

/-- How far the lists of the selected team are loaded. -/
inductive Phase where
  | idle
  | loading
  | ready
  /-- The last load failed; older lists stay. -/
  | error
deriving DecidableEq, Repr

namespace Phase

def all : List Phase :=
  [idle, loading, ready, error]

def name : Phase → String
  | idle => "idle"
  | loading => "loading"
  | ready => "ready"
  | error => "error"

end Phase

/-- What the operator sees. -/
structure Snapshot where
  selectedTeam : Option String := none
  teams : List TeamSummary := []
  tasks : List Task := []
  agents : List Agent := []
deriving Repr

def Snapshot.task? (s : Snapshot) (id : Int) : Option Task :=
  s.tasks.find? (·.id = id)

/-- The numbers of the requests for a list that is loaded on its own: the last one issued, and
the newest one whose answer is held. -/
structure ListSeq where
  issued : Nat := 0
  committed : Nat := 0
deriving DecidableEq, Repr

namespace ListSeq

/-- Issues a request and tells its number. -/
def issue (s : ListSeq) : ListSeq × Nat :=
  ({ s with issued := s.issued + 1 }, s.issued + 1)

/-- Takes the answer to a request, unless the answer to a newer one is held. -/
def commit? (s : ListSeq) (seq : Nat) : Option ListSeq :=
  if seq ≤ s.committed then none else some { s with committed := seq }

end ListSeq

structure State where
  snapshot : Snapshot := {}
  phase : Phase := .idle
  lastError : Option String := none
  config : Option ServerConfig := none
  network : NetworkAllowlist := ⟨[]⟩
  /-- Counts the changes of the selected team. -/
  epoch : Nat := 0
  /-- The number of the last refresh issued. -/
  seq : Nat := 0
  /-- Answers to refreshes up to this number come too late. -/
  floor : Nat := 0
  /-- The tasks that show a change the server confirmed before any refresh brought it. -/
  optimistic : List Int := []
  teamsSeq : ListSeq := {}
  networkSeq : ListSeq := {}
deriving Repr

namespace State

/-- Selects a team, or none, and drops all that belonged to the team before. -/
def switchTeam (s : State) (team : Option String) : State :=
  { s with
    epoch := s.epoch + 1
    floor := s.seq
    snapshot := { s.snapshot with selectedTeam := team, tasks := [], agents := [] }
    optimistic := []
    lastError := none
    phase := if team.isSome then .loading else .idle }

end State

end TeamConsole.Sync
