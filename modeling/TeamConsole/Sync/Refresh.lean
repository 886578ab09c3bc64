import TeamConsole.Sync.State
import TeamConsole.Gateway.Error

/-!
Loading the lists of the selected team. A refresh carries the number and the epoch under which
it was issued; its answer counts only while the team has stayed selected and nothing newer was
committed or confirmed. Each function here is one step: no answer and no other operation comes
between its parts.
-/

namespace TeamConsole.Sync

/-- What observers of the view are told. -/
inductive Event where
  | snapshotUpdated (team : Option String)
  | teamsUpdated
  | phaseChanged (phase : Phase)
  | refreshFailed (team : Option String) (message : String)
  | networkUpdated
deriving DecidableEq, Repr

inductive Outcome where
  | noTeam
  | committed
  /-- The answer came too late. -/
  | stale
  | failed (message : String)
deriving DecidableEq, Repr

def Outcome.isFailed : Outcome → Bool
  | failed _ => true
  | _ => false

/-- A refresh on its way: its team, and the epoch and number under which it was issued. -/
structure Ticket where
  team : String
  epoch : Nat
  seq : Nat
deriving DecidableEq, Repr

structure Options where
  /-- The number of tasks asked for. -/
  taskLimit : Nat
  /-- How often a failed refresh is tried again. -/
  retryAttempts : Nat
  /-- The milliseconds before the first retry. -/
  retryInitialMs : Nat
deriving DecidableEq, Repr

def phaseEvent (before after : Phase) : List Event :=
  if before = after then [] else [.phaseChanged after]

namespace State

/-- Whether the answer to a refresh still counts. -/
def isCurrent (s : State) (t : Ticket) : Bool :=
  s.epoch = t.epoch ∧ s.snapshot.selectedTeam = some t.team ∧ s.floor < t.seq

/-- Issues a refresh of the selected team, if there is one. -/
def issueTicket? (s : State) : Option (State × Ticket × List Event) :=
  s.snapshot.selectedTeam.map fun team =>
    ({ s with seq := s.seq + 1, phase := .loading }, ⟨team, s.epoch, s.seq + 1⟩,
      phaseEvent s.phase .loading)

def commit (s : State) (t : Ticket) (tasks : List Task) (agents : List Agent) :
    State × Outcome × List Event :=
  if s.isCurrent t then
    ({ s with
        snapshot := { s.snapshot with tasks, agents }
        floor := t.seq
        optimistic := []
        lastError := none
        phase := .ready },
      .committed, .snapshotUpdated (some t.team) :: phaseEvent s.phase .ready)
  else (s, .stale, [])

def fail (s : State) (t : Ticket) (e : GatewayError) : State × Outcome × List Event :=
  if s.isCurrent t then
    ({ s with lastError := some e.shortMessage, phase := .error },
      .failed e.shortMessage,
      .refreshFailed (some t.team) e.shortMessage :: phaseEvent s.phase .error)
  else (s, .stale, [])

/-- Takes the answer to a refresh. -/
def settleRefresh (s : State) (t : Ticket) :
    Except GatewayError (List Task × List Agent) → State × Outcome × List Event
  | .ok (tasks, agents) => s.commit t tasks agents
  | .error e => s.fail t e

/-- Selects the team of a name, without the blanks around it; a blank name selects none. -/
def select (s : State) (name : String) : State × List Event :=
  let team := Text.nonblank? name
  if s.snapshot.selectedTeam = team then (s, [])
  else
    let s := s.switchTeam team
    (s, [.snapshotUpdated team, .phaseChanged s.phase])

def updateFirst (tasks : List Task) (id : Int) (change : Task → Task) : List Task :=
  match tasks with
  | [] => []
  | t :: rest => if t.id = id then change t :: rest else t :: updateFirst rest id change

/-- Shows a change to a task that the server confirmed. Refreshes issued before it can no longer
commit, for their answers may not know of it. Tells whether the task is held. -/
def overlay (s : State) (team : String) (id : Int) (change : Task → Task) :
    State × Bool × List Event :=
  if s.snapshot.selectedTeam = some team then
    let s := { s with floor := s.seq }
    if s.snapshot.tasks.any (·.id = id) then
      ({ s with
          snapshot := { s.snapshot with tasks := updateFirst s.snapshot.tasks id change }
          optimistic := if s.optimistic.contains id then s.optimistic else id :: s.optimistic },
        true, [.snapshotUpdated (some team)])
    else (s, false, [])
  else (s, false, [])

def confirmStatus (s : State) (team : String) (id : Int) (status : TaskStatus) :
    State × Bool × List Event :=
  s.overlay team id fun t => { t with status }

def confirmStage (s : State) (team : String) (id : Int) (stage : String) :
    State × Bool × List Event :=
  s.overlay team id fun t => { t with currentStage := some stage }

/-- Whether a task shows a confirmed change that no refresh has brought yet. -/
def isOptimistic (s : State) (id : Int) : Bool :=
  s.optimistic.contains id

end State

/-- A retry of a failed refresh: the epoch and floor at the failure, and how many retries came
before this one. -/
structure Retry where
  epoch : Nat
  floor : Nat
  attempt : Nat
deriving DecidableEq, Repr

/-- The longest wait before a retry, in milliseconds. -/
def maxRetryDelayMs : Nat := 2000

/-- The milliseconds before a retry: twice as many from one retry to the next, up to the longest
wait. The product is kept within 64 bits. -/
def retryDelay (initialMs attempt : Nat) : Nat :=
  min (min (initialMs * Nat.pow 2 (min attempt 16)) (Nat.pow 2 64 - 1)) maxRetryDelayMs

/-- Whether a retry has lost its point: another team is selected, or something was committed or
confirmed since. -/
def State.supersedes (s : State) (r : Retry) : Bool :=
  s.epoch ≠ r.epoch ∨ s.floor ≠ r.floor

end TeamConsole.Sync
