import TeamConsole.Board
import TeamConsole.Dialogue
import TeamConsole.Gateway.Http
import TeamConsole.Json.Printer
import TeamConsole.Stream.Client

/-!
The console: it carries out one command in a dialogue with the server and tells the text to
print. Every command but those for the allowlist begins a session first, and selects the team
that the command line names.
-/

namespace TeamConsole

/-- The texts of a failure, the outermost first. -/
abbrev Failure := List String

/-- A dialogue that may fail. -/
abbrev Attempt (α : Type) := ExceptT Failure Dialogue α

/-- Makes a call. Its failure is told after the texts of `context`. -/
def Attempt.ask (context : List String) (c : Call) : Attempt c.Answer :=
  ExceptT.adapt (fun e : GatewayError => context ++ [e.message]) (ExceptT.mk (.ask c))

/-- A change on one line: the status that it led to, or else the stage. -/
def Receipt.line (r : Receipt) : String :=
  "#" ++ Text.integer r.id ++ match r.status, r.currentStage with
    | some status, _ => " is now " ++ status.name
    | none, some stage => " is now at stage " ++ stage
    | none, none => " updated"

/-- Lines with their ends. -/
def unlines (lines : List String) : String :=
  String.join (lines.map (· ++ "\n"))

/-- A console: its settings, and the team that the command line names. -/
structure Console where
  settings : Settings
  team : Option String

namespace Console

def server? (k : Console) : Except Failure Server :=
  (Server.ofAddress k.settings.apiBase).mapError fun e =>
    ["Invalid api_base: " ++ k.settings.apiBase, e.message]

/-- How a console refreshes its view. -/
def options (k : Console) : Sync.Options :=
  k.settings.syncOptions

/-- Carries out an action on the allowlist, and shows the allowlist. -/
def network (action : NetworkAction) : Attempt String := do
  match action with
  | .list => pure ()
  | .allow domain => discard (Attempt.ask [] (.networkAllow domain))
  | .disallow domain => discard (Attempt.ask [] (.networkDisallow domain))
  | .reset => discard (Attempt.ask [] .networkReset)
  let hosts : NetworkAllowlist ← Attempt.ask [] .network
  return unlines (if hosts.allowlist.isEmpty then ["(allowlist empty)"] else hosts.allowlist)

/-- Begins a session. -/
def bootstrap (k : Console) : Attempt Desk := do
  let s ← Desk.perform k.options {} .bootstrap
  match s.next with
  | .done (.failed e) _ => throw ["Failed to load bootstrap data", e.message]
  | _ => return s.desk

/-- Selects the team that the command line names. -/
def selectTeam (k : Console) (d : Desk) : Attempt Desk := do
  match k.team with
  | none => return d
  | some team =>
    let s ← d.perform k.options (.select team)
    match s.next with
    | .done (.refreshed (.failed message)) _ =>
      throw ["Failed to load team " ++ team ++ ": " ++ message]
    | _ => return s.desk

/-- The task of an id: the one at hand, or else the one that the server knows. -/
def findTask (d : Desk) (team : String) (id : Int) : Attempt Task :=
  match d.view.snapshot.task? id with
  | some t => return t
  | none => Attempt.ask ["Task #" ++ Text.integer id ++ " not found in " ++ team] (.task team id)

/-- Makes a change and tells what it led to. A retry of the refresh after it is waited for. -/
def change (k : Console) (d : Desk) (t : Transition) : Attempt String := do
  let s ← d.perform k.options (.change t)
  match s.next with
  | .done (.changed r) retry =>
    match retry with
    | some retry => discard (s.desk.performRetry k.options retry k.options.retryAttempts)
    | none => pure ()
    return unlines [r.line]
  | .done (.refused e) _ => throw [e.message]
  | _ => throw []

/-- Shows the tasks of a team that wait for approval. -/
def approvals (k : Console) (d : Desk) (team : String) : Attempt String := do
  let s ← d.perform k.options (.loadQueue team)
  match s.next with
  | .done (.failed e) _ => throw ["Failed to load approval queue", e.message]
  | _ =>
    let waiting := s.desk.queue.tasks
    return unlines
      (if waiting.isEmpty then ["Nothing waiting for approval in " ++ team]
        else waiting.map Task.line)

def board (d : Desk) : String :=
  Board.render d.view.snapshot d.view.phase

/-- A desk that follows a stream. -/
structure Watch where
  desk : Desk
  client : Stream.Client Unit := { slot := some () }

/-- Takes what the stream tells; tells the board as often as it changed. -/
def hear (k : Console) (w : Watch) (e : Stream.SourceEvent) : Dialogue (Watch × String) := do
  let (client, delivery) := w.client.step (fun h _ => some h) (.source e)
  match delivery with
  | none => return ({ w with client }, "")
  | some delivery =>
    let s ← w.desk.perform k.options (.notify delivery.notification)
    let shown := s.events.filter fun
      | .snapshotUpdated _ => true
      | _ => false
    return (⟨s.desk, client⟩, String.join (shown.map fun _ => board s.desk))

/-- Takes all that the stream tells. -/
def follow (k : Console) (w : Watch) : (feed : List Stream.SourceEvent) → Dialogue String
  | [] => return ""
  | e :: feed => do
    let (w, shown) ← k.hear w e
    return shown ++ (← k.follow w feed)

/-- Shows the board, and again whenever it changes while the stream lasts. -/
def watch (k : Console) (d : Desk) (feed : List Stream.SourceEvent) : Dialogue String := do
  return board d ++ (← k.follow { desk := d } feed)

/-- The name under which the operator chats. -/
def senderName (k : Console) (d : Desk) : String :=
  ServerConfig.senderName k.settings.humanName d.view.config

/-- Carries out a command on a team. The commands without a team have no text here. -/
def onTeam (k : Console) (d : Desk) (team : String) : Command → Attempt String
  | .tasks json =>
    if json then return unlines [Json.pretty 0 (.arr (d.view.snapshot.tasks.map Task.toJson))]
    else return board d
  | .move id target => do
    let t ← findTask d team id
    k.change d (.move team id t.status target)
  | .outcome id outcome => do
    let t ← findTask d team id
    k.change d (.applyOutcome team id t.status outcome)
  | .approve id outcome => do
    let t ← findTask d team id
    k.change d (.approve team t outcome)
  | .requestReview id => do
    let t ← findTask d team id
    k.change d (.requestReview team t)
  | .create title inProgress =>
    k.change d (.create team title (if inProgress then .inProgress else .todo))
  | .assign id assignee => k.change d (.assign team id assignee)
  | .approvals => k.approvals d team
  | .review id outcome reviewer comments => do
    let t ← findTask d team id
    k.change d (.submitReview team t (reviewer.getD (k.senderName d)) outcome comments)
  | .reviews id => do
    let reviews : List TaskReview ← Attempt.ask [] (.taskReviews team id)
    return unlines (reviews.map TaskReview.line)
  | .diff id => do
    let changes : TaskDiff ← Attempt.ask [] (.taskDiff team id)
    return changes.diff
  | .chat agent (some message) => do
    discard (Attempt.ask [] (.sendMessage team agent message))
    return ""
  | .chat agent none => do
    let inbox : List Message ← Attempt.ask [] (.messages team (k.senderName d))
    return unlines ((inbox.filter (·.sender = agent)).map Message.line)
  | .charter => do
    let document : TextDocument ← Attempt.ask [] (.charter team)
    return unlines [document.content]
  | .journal agent limit => do
    let document : TextDocument ← Attempt.ask [] (.journal team agent limit)
    return document.content
  | .agentConfig agent => do
    let c : AgentConfig ← Attempt.ask [] (.agentConfig team agent)
    return unlines ["model: " ++ c.model, "max_tokens: " ++ Text.natural c.maxTokens]
  | .watch | .teams | .network _ => return ""

/-- Begins a session on the team that the command line names. -/
def openDesk (k : Console) : Attempt Desk := do
  k.selectTeam (← k.bootstrap)

/-- Carries out a command. `feed` is what the stream tells while it is watched. -/
def run (k : Console) (feed : List Stream.SourceEvent) (c : Command) : Attempt String := do
  if let .network action := c then
    return ← network (action.getD .list)
  let d ← k.openDesk
  match c with
  | .teams => return unlines (d.view.snapshot.teams.map TeamSummary.line)
  | .watch => k.watch d feed
  | c =>
    match d.view.snapshot.selectedTeam with
    | some team => k.onTeam d team c
    | none => throw ["No team available; pass --team"]

end Console

end TeamConsole
