import TeamConsole.Workflow.Status

/-!
The commands of the console.
-/

namespace TeamConsole

/-- What to do with the allowlist. -/
inductive NetworkAction where
  | list
  | allow (domain : String)
  | disallow (domain : String)
  | reset
deriving DecidableEq, Repr

inductive Command where
  /-- Shows the board again whenever it changes. -/
  | watch
  | teams
  | tasks (json : Bool)
  | move (id : Int) (target : TaskStatus)
  | outcome (id : Int) (outcome : Outcome)
  | approve (id : Int) (outcome : Outcome)
  | requestReview (id : Int)
  | create (title : String) (inProgress : Bool)
  | assign (id : Int) (assignee : Option String)
  | approvals
  | reviews (id : Int)
  | review (id : Int) (outcome : Outcome) (reviewer comments : Option String)
  | diff (id : Int)
  /-- Shows what an agent wrote, or sends it a message. -/
  | chat (agent : String) (message : Option String)
  /-- No action stands for showing the allowlist. -/
  | network (action : Option NetworkAction)
  | charter
  | journal (agent : String) (limitBytes : Option Nat)
  | agentConfig (agent : String)
deriving DecidableEq, Repr

namespace Command

/-- The word that stands for a command. -/
def name : Command → String
  | watch => "watch"
  | teams => "teams"
  | tasks _ => "tasks"
  | move .. => "move"
  | .outcome .. => "outcome"
  | approve .. => "approve"
  | requestReview _ => "request-review"
  | create .. => "create"
  | assign .. => "assign"
  | approvals => "approvals"
  | reviews _ => "reviews"
  | review .. => "review"
  | diff _ => "diff"
  | chat .. => "chat"
  | network _ => "network"
  | charter => "charter"
  | journal .. => "journal"
  | agentConfig _ => "agent-config"

/-- Whether a command may change something on the server. -/
def mayMutate : Command → Bool
  | move .. | .outcome .. | approve .. | requestReview _ | create .. | assign .. | review .. => true
  | chat _ message => message.isSome
  | network action => action.any (· ≠ .list)
  | _ => false

end Command

end TeamConsole
