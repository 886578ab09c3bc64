import TeamConsole.Gateway.Error
import TeamConsole.Message
import TeamConsole.Review
import TeamConsole.Bootstrap

/-!
The calls that the console makes to the server, and how each reads its answer from JSON.
-/

namespace TeamConsole

inductive Call where
  | bootstrap
  | teams
  | tasks (team : String) (limit : Nat)
  | task (team : String) (id : Int)
  | agents (team : String)
  | createTask (team : String) (task : NewTask)
  | patchTask (team : String) (id : Int) (patch : TaskPatch)
  | approveTask (team : String) (id : Int) (outcome : Outcome)
  | requestReview (team : String) (id : Int)
  | submitReview (team : String) (id : Int) (review : ReviewSubmission)
  | taskReviews (team : String) (id : Int)
  | taskDiff (team : String) (id : Int)
  | messages (team recipient : String)
  | sendMessage (team recipient content : String)
  | charter (team : String)
  | journal (team agent : String) (limit : Option Nat)
  | agentConfig (team agent : String)
  | network
  | networkAllow (domain : String)
  | networkDisallow (domain : String)
  | networkReset
deriving DecidableEq, Repr

namespace Call

def Answer : Call → Type
  | bootstrap => Bootstrap
  | teams => List TeamSummary
  | tasks .. => List Task
  | task .. => Task
  | agents .. => List Agent
  | createTask .. => CreatedTask
  | patchTask .. => TaskUpdate
  | approveTask .. => StageResponse
  | requestReview .. => StageResponse
  | submitReview .. => Ack
  | taskReviews .. => List TaskReview
  | taskDiff .. => TaskDiff
  | messages .. => List Message
  | sendMessage .. => Unit
  | charter .. => TextDocument
  | journal .. => TextDocument
  | agentConfig .. => AgentConfig
  | network => NetworkAllowlist
  | networkAllow .. => Ack
  | networkDisallow .. => Ack
  | networkReset => Ack

/-- Whether a call changes something on the server. -/
def isMutation : Call → Bool
  | createTask .. | patchTask .. | approveTask .. | requestReview .. | submitReview ..
  | sendMessage .. | networkAllow .. | networkDisallow .. | networkReset => true
  | _ => false

def team? : Call → Option String
  | tasks team _ | task team _ | agents team | createTask team _ | patchTask team _ _
  | approveTask team _ _ | requestReview team _ | submitReview team _ _ | taskReviews team _
  | taskDiff team _ | messages team _ | sendMessage team _ _ | charter team | journal team _ _
  | agentConfig team _ => some team
  | _ => none

/-- Reads the rows of tasks: those of an array that are tasks, and none of any other value. -/
def readTasks (j : Json) : Option (List Task) :=
  (j.keep? Json.maxDepth).map fun
    | .arr rows => Task.normalizeAll rows
    | _ => []

/-- Reads the messages in a field of an object. An array is not taken for the fields of one. -/
def readWrapped : Json → Option (List Message)
  | .obj members => do
    let r ← (Json.obj members).record? [⟨"messages", []⟩]
    r.withDefault "messages" [] (Json.readList Message.ofJson?)
  | _ => none

/-- Reads a list of messages, which may stand in a field of its own. The whole body has to be
plain data. -/
def readMessages (j : Json) : Option (List Message) := do
  guard (j.isPlain Json.maxDepth)
  Json.nullAs [] (fun j => Json.readList Message.ofJson? j <|> readWrapped j) j

def readReviews (j : Json) : Option (List TaskReview) := do
  let r ← j.record? [⟨"reviews", []⟩]
  return (← r.optional "reviews" (Json.readList TaskReview.ofJson?)).getD []

def readAnswer : (c : Call) → Json → Option c.Answer
  | bootstrap => Bootstrap.ofJson?
  | teams => Json.nullAs [] (Json.readList TeamSummary.ofJson?)
  | tasks .. => readTasks
  | task .. => Task.ofJson?
  | agents .. => Json.nullAs [] (Json.readList Agent.ofJson?)
  | createTask .. => CreatedTask.ofJson?
  | patchTask .. => TaskUpdate.ofJson?
  | approveTask .. => StageResponse.ofJson?
  | requestReview .. => StageResponse.ofJson?
  | submitReview .. => Ack.ofJson?
  | taskReviews .. => readReviews
  | taskDiff .. => TaskDiff.ofJson?
  | messages .. => readMessages
  | sendMessage .. => fun _ => some ()
  | charter .. => TextDocument.ofJson?
  | journal .. => TextDocument.ofJson?
  | agentConfig .. => AgentConfig.ofJson?
  | network => NetworkAllowlist.ofJson?
  | networkAllow .. => Ack.ofJson?
  | networkDisallow .. => Ack.ofJson?
  | networkReset => Ack.ofJson?

abbrev Reply (c : Call) := Except GatewayError c.Answer

def replyOfJson (c : Call) (j : Json) : Reply c :=
  match c.readAnswer j with
  | some a => .ok a
  | none => .error .undecodable

end Call

end TeamConsole
