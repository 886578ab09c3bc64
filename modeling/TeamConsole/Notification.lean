import TeamConsole.Json.Reader
import TeamConsole.Json.Record

/-!
Notifications that the server pushes, one JSON object a frame. Only the envelope decides whether
a frame is one: an object with a text as its type. The other fields are read for what they are
worth, and a value of an unexpected form counts as absent.
-/

namespace TeamConsole

inductive NotificationKind where
  | taskUpdate
  | teamUpdate
  | agentUpdate
  | networkUpdate
  | message
  /-- A kind that calls for no action. -/
  | other (name : String)
deriving DecidableEq, Repr

namespace NotificationKind

def name : NotificationKind → String
  | taskUpdate => "task_update"
  | teamUpdate => "team_update"
  | agentUpdate => "agent_update"
  | networkUpdate => "network_update"
  | message => "message"
  | other name => name

/-- The kinds with a meaning of their own. -/
def known : List NotificationKind :=
  [taskUpdate, teamUpdate, agentUpdate, networkUpdate, message]

def ofName (text : String) : NotificationKind :=
  (known.find? (·.name = text)).getD (other text)

end NotificationKind

/-- A notification. The status is text, so that one this library does not know is no obstacle. -/
structure Notification where
  kind : NotificationKind
  team : Option String
  taskId : Option Int
  status : Option String
  currentStage : Option String
  assignee : Option String
  agent : Option String
  messageId : Option Int
deriving DecidableEq, Repr

/-- What a frame of the stream carries. -/
inductive Inbound where
  /-- The server's greeting. -/
  | connected
  | notification (n : Notification)
deriving DecidableEq, Repr

namespace Notification

/-- The text in a field: a text, or a number as it is written. -/
def looseText : Json → Option String
  | .str s => some s
  | .num n => some n.write
  | _ => none

/-- The id in a field: an integer, or a text that spells one between blanks. -/
def looseId : Json → Option Int
  | .num (.int i) => Text.within? Text.int64Range i
  | .str s => Text.int64? (Text.trim s)
  | _ => none

/-- Reads a loose field that may be missing and holds plain data. -/
def loose {α : Type} (r : Json.Record) (name : String) (read : Json → Option α) :
    Option (Option α) :=
  r.withDefault name none fun j => (j.keep? (Json.maxDepth - 1)).map read

def fields : List Json.Field :=
  [⟨"type", []⟩, ⟨"team", []⟩, ⟨"task_id", []⟩, ⟨"status", []⟩, ⟨"current_stage", []⟩,
   ⟨"assignee", []⟩, ⟨"agent", []⟩, ⟨"message_id", []⟩]

def ofJson? (j : Json) : Option Notification := do
  let r ← j.record? fields
  return {
    kind := ← r.required "type" fun j => (Json.readText j).map NotificationKind.ofName
    team := ← loose r "team" looseText
    taskId := ← loose r "task_id" looseId
    status := ← loose r "status" looseText
    currentStage := ← loose r "current_stage" looseText
    assignee := ← loose r "assignee" looseText
    agent := ← loose r "agent" looseText
    messageId := ← loose r "message_id" looseId }

def toJson (n : Notification) : Json :=
  .obj [
    ("type", .str n.kind.name),
    ("team", .text? n.team),
    ("task_id", (n.taskId.map Json.int).getD .null),
    ("status", .text? n.status),
    ("current_stage", .text? n.currentStage),
    ("assignee", .text? n.assignee),
    ("agent", .text? n.agent),
    ("message_id", (n.messageId.map Json.int).getD .null)]

def isForTeam (n : Notification) (team : String) : Bool :=
  n.team = some team

end Notification

def Inbound.decode? (data : String) : Option Inbound := do
  let j ← (← Json.ofString? data).keep? Json.maxDepth
  let kind ← j.get? "type" >>= Json.readText
  if kind = "connected" then return .connected
  return .notification (← Notification.ofJson? j)

/-- What a notification asks to be done. -/
inductive NotifyAction where
  /-- The tasks and agents of the selected team are out of date. -/
  | refreshSelected
  | refreshTeams
  | refreshNetwork
  | ignore
deriving DecidableEq, Repr

namespace NotifyAction

/-- The action for a notification that comes while a team is selected, or none is. -/
def plan (selected : Option String) (n : Notification) : NotifyAction :=
  match n.kind with
  | .taskUpdate | .agentUpdate =>
    if selected.any n.isForTeam then .refreshSelected else .ignore
  | .teamUpdate => .refreshTeams
  | .networkUpdate => .refreshNetwork
  | .message | .other _ => .ignore

end NotifyAction

end TeamConsole
