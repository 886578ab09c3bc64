import TeamConsole.Task

/-!
The tasks of one team that wait for a human decision, as the last load found them.
-/

namespace TeamConsole

/-- The queue, and the number of the last load issued; answers to older loads come too late. -/
structure ApprovalQueue where
  team : Option String := none
  epoch : Nat := 0
  tasks : List Task := []
deriving Repr

namespace ApprovalQueue

/-- Issues a load for a team; another team's tasks are dropped. -/
def issueLoad (q : ApprovalQueue) (team : String) : ApprovalQueue :=
  { team := some team
    epoch := q.epoch + 1
    tasks := if q.team = some team then q.tasks else [] }

/-- Takes the tasks that a load found; none if it came too late. -/
def install? (q : ApprovalQueue) (epoch : Nat) (found : List Task) : Option ApprovalQueue :=
  if q.epoch = epoch then some { q with tasks := found.filter Task.isPendingApproval } else none

/-- Drops a task of a team once it is decided. -/
def remove (q : ApprovalQueue) (team : String) (id : Int) : ApprovalQueue :=
  if q.team = some team then { q with tasks := q.tasks.filter (·.id ≠ id) } else q

/-- Whether a task is queued. -/
def contains (q : ApprovalQueue) (id : Int) : Bool :=
  q.tasks.any (·.id = id)

/-- Whether dropping a task of a team would change the queue. -/
def holds (q : ApprovalQueue) (team : String) (id : Int) : Bool :=
  q.team = some team && q.contains id

end ApprovalQueue

end TeamConsole
