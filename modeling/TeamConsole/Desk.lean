import TeamConsole.Notification
import TeamConsole.Sync.Lists
import TeamConsole.Transition

/-!
The operations of the console, cut at the places where they wait. An operation that waits for
the server or for a retry's delay is a value, so any number of operations can be under way, and
their answers can arrive in any order. Each of `Desk.start`, `Desk.resume` and `Desk.wake` is one
step, which nothing else interrupts.
-/

namespace TeamConsole

/-- What an operator or the stream asks of the console. -/
inductive Operation where
  /-- Begins the session. -/
  | bootstrap
  | select (team : String)
  | refresh
  /-- Refreshes, and tries again later if that fails. -/
  | refreshWithRetry
  | refreshTeams
  | refreshNetwork
  | loadQueue (team : String)
  | notify (n : Notification)
  | change (t : Transition)

/-- The end of a change. -/
structure Receipt where
  id : Int
  status : Option TaskStatus
  currentStage : Option String
  /-- How the refresh after the change ended. -/
  refresh : Sync.Outcome
  /-- Whether a retry of that refresh was started. -/
  retry : Bool
deriving DecidableEq, Repr

/-- How an operation ended. -/
inductive Result where
  | refreshed (o : Sync.Outcome)
  | refreshedWithRetry (o : Sync.Outcome) (retry : Bool)
  /-- Whether a list was taken, or came too late. -/
  | installed (taken : Bool)
  | notified (a : NotifyAction)
  | changed (r : Receipt)
  | refused (e : TransitionError)
  | failed (e : GatewayError)
deriving DecidableEq, Repr

inductive AfterRefresh where
  | finish
  /-- A failure starts a retry. -/
  | finishWithRetry
  | notified (a : NotifyAction)
  /-- A failure starts a retry, and the change is reported. -/
  | confirmed (c : Confirmation)
  /-- A failure leads to the next retry, if one is left. -/
  | retry (r : Sync.Retry)
deriving DecidableEq, Repr

/-- An operation that waits for the server. -/
inductive Waiting where
  | bootstrap (teamsSeq networkSeq : Nat)
  | refresh (t : Sync.Ticket) (after : AfterRefresh)
  /-- A list of teams; asked for by a notification, or by itself. -/
  | teams (seq : Nat) (notified : Bool)
  | network (seq : Nat) (notified : Bool)
  | queue (team : String) (epoch : Nat)
  | change (s : Submission)
deriving DecidableEq, Repr

namespace Waiting

def calls (o : Sync.Options) : Waiting → List Call
  | bootstrap .. => [.bootstrap]
  | refresh t _ => [.tasks t.team o.taskLimit, .agents t.team]
  | teams .. => [.teams]
  | network .. => [.network]
  | queue team _ => [.tasks team o.taskLimit]
  | change s => [s.call]

/-- What an operation needs to go on. -/
def Answer : Waiting → Type
  | bootstrap .. => Bootstrap
  | refresh .. => List Task × List Agent
  | teams .. => List TeamSummary
  | network .. => NetworkAllowlist
  | queue .. => List Task
  | change s => s.call.Answer

abbrev Reply (w : Waiting) := Except GatewayError w.Answer

/-- The reply to a refresh. Of two failures, that of the tasks counts. -/
def both (tasks : Except GatewayError (List Task)) (agents : Except GatewayError (List Agent)) :
    Except GatewayError (List Task × List Agent) := do
  return (← tasks, ← agents)

/-- Puts the replies to an operation's calls together. -/
def gather (o : Sync.Options) (reply : (c : Call) → Call.Reply c) : (w : Waiting) → w.Reply
  | bootstrap .. => reply .bootstrap
  | refresh t _ => both (reply (.tasks t.team o.taskLimit)) (reply (.agents t.team))
  | teams .. => reply .teams
  | network .. => reply .network
  | queue team _ => reply (.tasks team o.taskLimit)
  | change s => reply s.call

end Waiting

/-- An operation asks the server at most twice before it ends or sleeps: for what it is about,
and for a refresh. -/
def Operation.maxRounds : Nat := 2

/-- How an operation goes on after a step. -/
inductive Next where
  /-- It has ended; a retry may go on by itself. -/
  | done (r : Result) (retry : Option Sync.Retry)
  | wait (w : Waiting)
  | sleep (r : Sync.Retry)

/-- One step of an operation: the desk after it, what observers are told, and how it goes on. -/
structure Step where
  desk : Desk
  events : List Sync.Event
  next : Next

namespace Desk

/-- The retry of a refresh that failed just now, if retries are made. -/
def retryOf (o : Sync.Options) (d : Desk) (outcome : Sync.Outcome) : Option Sync.Retry :=
  if outcome.isFailed ∧ 0 < o.retryAttempts then some ⟨d.view.epoch, d.view.floor, 0⟩ else none

def afterRefresh (o : Sync.Options) (d : Desk) (outcome : Sync.Outcome) : AfterRefresh → Next
  | .finish => .done (.refreshed outcome) none
  | .finishWithRetry =>
    let retry := d.retryOf o outcome
    .done (.refreshedWithRetry outcome retry.isSome) retry
  | .notified a => .done (.notified a) none
  | .confirmed c =>
    let retry := d.retryOf o outcome
    .done (.changed ⟨c.id, c.status, c.currentStage, outcome, retry.isSome⟩) retry
  | .retry r =>
    if outcome.isFailed ∧ r.attempt + 1 < o.retryAttempts then
      .sleep { r with attempt := r.attempt + 1 }
    else .done (.refreshed outcome) none

/-- Refreshes the selected team as part of a step that told observers of `events`. -/
def refresh (o : Sync.Options) (d : Desk) (events : List Sync.Event) (after : AfterRefresh) :
    Step :=
  match d.view.issueTicket? with
  | none => ⟨d, events, d.afterRefresh o .noTeam after⟩
  | some (view, ticket, more) => ⟨{ d with view }, events ++ more, .wait (.refresh ticket after)⟩

/-- Asks for the list of teams. -/
def requestTeams (d : Desk) (notified : Bool) : Step :=
  let (view, seq) := d.view.issueTeams
  ⟨{ d with view }, [], .wait (.teams seq notified)⟩

/-- Asks for the allowlist. -/
def requestNetwork (d : Desk) (notified : Bool) : Step :=
  let (view, seq) := d.view.issueNetwork
  ⟨{ d with view }, [], .wait (.network seq notified)⟩

def start (o : Sync.Options) (d : Desk) : Operation → Step
  | .bootstrap =>
    let (view, teamsSeq) := d.view.issueTeams
    let (view, networkSeq) := view.issueNetwork
    ⟨{ d with view }, [], .wait (.bootstrap teamsSeq networkSeq)⟩
  | .select team =>
    let (view, events) := d.view.select team
    refresh o { d with view } events .finish
  | .refresh => d.refresh o [] .finish
  | .refreshWithRetry => d.refresh o [] .finishWithRetry
  | .refreshTeams => d.requestTeams false
  | .refreshNetwork => d.requestNetwork false
  | .loadQueue team =>
    let queue := d.queue.issueLoad team
    ⟨{ d with queue }, [], .wait (.queue team queue.epoch)⟩
  | .notify n =>
    match NotifyAction.plan d.view.snapshot.selectedTeam n with
    | .refreshSelected => d.refresh o [] (.notified .refreshSelected)
    | .refreshTeams => d.requestTeams true
    | .refreshNetwork => d.requestNetwork true
    | .ignore => ⟨d, [], .done (.notified .ignore) none⟩
  | .change t =>
    match t.check with
    | .ok s => ⟨d, [], .wait (.change s)⟩
    | .error e => ⟨d, [], .done (.refused e) none⟩

/-- The step after a change was confirmed: the team is refreshed if it is the selected one. -/
def report (o : Sync.Options) (d : Desk) (events : List Sync.Event) (c : Confirmation) : Step :=
  if d.view.snapshot.selectedTeam = some c.team then d.refresh o events (.confirmed c)
  else ⟨d, events, .done (.changed ⟨c.id, c.status, c.currentStage, .noTeam, false⟩) none⟩

/-- A step of an operation that ends without a change. -/
def ended (d : Desk) (r : Result) : Step :=
  ⟨d, [], .done r none⟩

def resume (o : Sync.Options) (d : Desk) : (w : Waiting) → w.Reply → Step
  | .bootstrap _ _, .error e =>
    let (view, events) := d.view.failBootstrap e
    ⟨{ d with view }, events, .done (.failed e) none⟩
  | .bootstrap teamsSeq networkSeq, .ok (b : Bootstrap) =>
    let (view, events) := d.view.begin teamsSeq networkSeq b
    let d := { d with view }
    match b.initialTeamName, b.tasks with
    | some _, some _ => ⟨d, events, .done (.refreshed .committed) none⟩
    | _, _ => d.refresh o events .finish
  | .refresh t after, reply =>
    let (view, outcome, events) := d.view.settleRefresh t reply
    let d := { d with view }
    ⟨d, events, d.afterRefresh o outcome after⟩
  | .teams seq notified, reply =>
    match reply with
    | .error e => d.ended (if notified then .notified .refreshTeams else .failed e)
    | .ok (teams : List TeamSummary) =>
      let (d, events, taken) := match d.view.installTeams? seq teams with
        | some view => ({ d with view }, [Sync.Event.teamsUpdated], true)
        | none => (d, [], false)
      ⟨d, events, .done (if notified then .notified .refreshTeams else .installed taken) none⟩
  | .network seq notified, reply =>
    match reply with
    | .error e => d.ended (if notified then .notified .refreshNetwork else .failed e)
    | .ok (network : NetworkAllowlist) =>
      let (d, events, taken) := match d.view.installNetwork? seq network with
        | some view => ({ d with view }, [Sync.Event.networkUpdated], true)
        | none => (d, [], false)
      ⟨d, events, .done (if notified then .notified .refreshNetwork else .installed taken) none⟩
  | .queue _ epoch, reply =>
    match reply with
    | .error e => d.ended (.failed e)
    | .ok (found : List Task) =>
      match d.queue.install? epoch found with
      | some queue => ⟨{ d with queue }, [], .done (.installed true) none⟩
      | none => d.ended (.installed false)
  | .change s, reply =>
    match reply with
    | .error e => d.ended (.refused (.gateway e))
    | .ok answer =>
      match s.settle d answer with
      | .ok (d, events, c) => d.report o events c
      | .error e => d.ended (.refused e)

/-- Goes on with a retry after its delay, unless it has lost its point. -/
def wake (o : Sync.Options) (d : Desk) (r : Sync.Retry) : Step :=
  if d.view.supersedes r then d.ended (.refreshed .stale)
  else d.refresh o [] (.retry r)

end Desk

end TeamConsole
