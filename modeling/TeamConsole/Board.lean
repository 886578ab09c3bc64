import TeamConsole.Sync.State
import TeamConsole.Review
import TeamConsole.Message

/-!
Lines of text for the terminal: the board with one block a column, and single lines for tasks,
teams, reviews and messages.
-/

namespace TeamConsole

/-- A task on one line: number, status and title, then assignee and stage if it has them. -/
def Task.line (t : Task) : String :=
  let extras := (t.assignee.map ("@" ++ ·)).toList ++ (t.currentStage.map ("stage " ++ ·)).toList
  "#" ++ Text.integer t.id ++ " [" ++ t.status.name ++ "] " ++ t.title
    ++ (if extras.isEmpty then "" else " (" ++ ", ".intercalate extras ++ ")")

def TeamSummary.line (t : TeamSummary) : String :=
  t.name ++ " (" ++ Text.natural t.agentCount ++ " agents, " ++ Text.natural t.taskCount
    ++ " tasks)"

/-- The minute of an optional instant. -/
def Instant.column (t : Option Instant) : String :=
  (t.map writeShort).getD "-"

def TaskReview.line (v : TaskReview) : String :=
  Instant.column v.createdAt ++ " " ++ v.outcome.name ++ " by " ++ v.reviewer
    ++ (if v.comments = "" then "" else ": " ++ v.comments)

def Message.line (m : Message) : String :=
  Instant.column m.createdAt ++ " <" ++ m.sender ++ "> " ++ m.content

namespace Board

def columns : List TaskStatus :=
  TaskStatus.board ++ [.cancelled]

/-- The lines of a column: a heading with the number of its tasks, and a line a task. A column
without tasks has none. -/
def columnLines (tasks : List Task) (status : TaskStatus) : List String :=
  let held := tasks.filter (·.status = status)
  if held.isEmpty then []
  else (status.displayName ++ " (" ++ Text.natural held.length ++ ")")
    :: held.map fun t => "  " ++ t.line

/-- The first line of the board. -/
def header (team : Option String) (phase : Sync.Phase) : String :=
  "== " ++ team.getD "(no team)" ++ " [" ++ phase.name ++ "] =="

def lines (snapshot : Sync.Snapshot) (phase : Sync.Phase) : List String :=
  header snapshot.selectedTeam phase :: columns.flatMap (columnLines snapshot.tasks)
    ++ (if snapshot.tasks.isEmpty then ["  no tasks"] else [])

/-- The board, each line with its end. -/
def render (snapshot : Sync.Snapshot) (phase : Sync.Phase) : String :=
  String.join ((lines snapshot phase).map (· ++ "\n"))

end Board

end TeamConsole
