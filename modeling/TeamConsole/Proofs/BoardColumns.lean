import Mathlib.Data.List.Basic
import TeamConsole.Board

/-!
# The board shows every task once

The board goes through the columns one after the other and picks the tasks of each out of the whole
list. That shows every task once because the columns are all the statuses, each of them once. What
is shown is then no other order than that of a stable sort.

* **`Block`**: a column as it is shown. **`blocks`**: those of a list of tasks.
* **`mem_columns`**, **`columns_ascend`**: every status is a column, and none is twice.
* **`filter_mergeSort`**: to sort by column moves no task past another one of its column.
* **`flatMap_filter_of_sorted`**: a list sorted by column is its columns, one after the other.
* **`no_tasks_mem_lines_iff`**: no other line can be mistaken for the one of an empty board.
* **`board_shows_each_task_once`**: the headline.
-/

namespace TeamConsole.Board

/-! ## Blocks -/

/-- A column as it is shown: a status, and the tasks that have it. -/
structure Block where
  status : TaskStatus
  tasks : List Task

/-- The heading of a block with the number of its tasks, and a line a task. -/
def Block.lines (b : Block) : List String :=
  (b.status.displayName ++ " (" ++ Text.natural b.tasks.length ++ ")")
    :: b.tasks.map fun t => "  " ++ t.line

/-- The blocks of a list of tasks: the columns that have tasks, each with its own in their order. -/
def blocks (tasks : List Task) : List Block :=
  (columns.filter fun s => tasks.any (·.status = s)).map fun s =>
    ⟨s, tasks.filter (·.status = s)⟩

theorem any_status_iff (tasks : List Task) (s : TaskStatus) :
    tasks.any (·.status = s) = true ↔ ¬ (tasks.filter (·.status = s)).isEmpty := by
  rw [List.isEmpty_iff, List.filter_eq_nil_iff]
  simp

/-- What a column adds to the board is what its block does, if it has one. -/
theorem flatMap_blocks {α : Type} (tasks : List Task) (f : Block → List α) :
    (blocks tasks).flatMap f
      = columns.flatMap fun s =>
          if tasks.any (·.status = s) then f ⟨s, tasks.filter (·.status = s)⟩ else [] := by
  unfold blocks
  rw [List.flatMap_map]
  induction columns with
  | nil => rfl
  | cons s rest ih =>
    rw [List.filter_cons, List.flatMap_cons, ← ih]
    split
    · rw [List.flatMap_cons]
    · rfl

theorem flatMap_columnLines (tasks : List Task) :
    columns.flatMap (columnLines tasks) = (blocks tasks).flatMap Block.lines := by
  rw [flatMap_blocks]
  congr 1
  funext s
  unfold columnLines
  by_cases h : tasks.any (·.status = s) = true
  · rw [if_pos h, if_neg ((any_status_iff tasks s).mp h)]
    rfl
  · rw [if_neg h, if_pos (by simpa using mt (any_status_iff tasks s).mpr h)]

/-- The shown tasks, column by column. -/
theorem flatMap_tasks (tasks : List Task) :
    (blocks tasks).flatMap (·.tasks) = columns.flatMap fun s => tasks.filter (·.status = s) := by
  rw [flatMap_blocks]
  congr 1
  funext s
  split
  · rfl
  · rename_i h
    have hempty := mt (any_status_iff tasks s).mpr h
    rw [Decidable.not_not, List.isEmpty_iff] at hempty
    exact hempty.symm

/-! ## The columns and their order -/

/-- The place of a column, counted from the left. -/
def place (s : TaskStatus) : Nat :=
  columns.idxOf s

/-- The order of tasks by column. -/
def noLater (t u : Task) : Bool :=
  place t.status ≤ place u.status

theorem mem_columns (s : TaskStatus) : s ∈ columns := by
  cases s <;> decide

theorem columns_ascend : columns.Pairwise fun s s' => place s < place s' := by
  decide

theorem noLater_trans (t u v : Task) (h : noLater t u = true) (h' : noLater u v = true) :
    noLater t v = true :=
  decide_eq_true (Nat.le_trans (of_decide_eq_true h) (of_decide_eq_true h'))

theorem noLater_total (t u : Task) : (noLater t u || noLater u t) = true := by
  simpa [noLater] using Nat.le_total (place t.status) (place u.status)

/-- A stable sort by column keeps the order within each column. -/
theorem filter_mergeSort (tasks : List Task) (s : TaskStatus) :
    (tasks.mergeSort noLater).filter (·.status = s) = tasks.filter (·.status = s) := by
  have hlength : ((tasks.mergeSort noLater).filter (·.status = s)).length
      = (tasks.filter (·.status = s)).length :=
    ((List.mergeSort_perm tasks noLater).filter _).length_eq
  -- the tasks of one column are sorted as they stand, and a stable sort keeps such a sublist
  have hsorted : (tasks.filter (·.status = s)).Pairwise fun t u => noLater t u = true := by
    refine List.pairwise_of_forall_mem_list fun t ht u hu => ?_
    have hsame : t.status = u.status :=
      (of_decide_eq_true (List.mem_filter.mp ht).2).trans
        (of_decide_eq_true (List.mem_filter.mp hu).2).symm
    exact decide_eq_true (Nat.le_of_eq (congrArg place hsame))
  have hsublist : (tasks.filter (·.status = s)).Sublist (tasks.mergeSort noLater) :=
    List.sublist_mergeSort noLater_trans noLater_total hsorted List.filter_sublist
  have hfiltered := hsublist.filter (·.status = s)
  rw [List.filter_filter] at hfiltered
  simp only [Bool.and_self] at hfiltered
  exact (hfiltered.eq_of_length hlength.symm).symm

/-- Tasks of later columns have none in an earlier one. -/
theorem filter_eq_nil_of_later {t : Task} {tasks : List Task}
    (hlater : ∀ u ∈ tasks, noLater t u = true) {s : TaskStatus} (hs : place s < place t.status) :
    tasks.filter (·.status = s) = [] := by
  refine List.filter_eq_nil_iff.mpr fun u hu hus => ?_
  rw [← of_decide_eq_true hus] at hs
  exact Nat.not_lt.mpr (of_decide_eq_true (hlater u hu)) hs

/-- **A list sorted by column is its columns, one after the other.** Induction on the tasks: the
first one heads its own column, and the columns before that one have no task. -/
theorem flatMap_filter_of_sorted {tasks : List Task}
    (h : tasks.Pairwise fun t u => noLater t u = true) :
    (columns.flatMap fun s => tasks.filter (·.status = s)) = tasks := by
  induction tasks with
  | nil => exact List.flatMap_eq_nil_iff.mpr fun _ _ => rfl
  | cons t tasks ih =>
    obtain ⟨hfirst, hrest⟩ := List.pairwise_cons.mp h
    obtain ⟨before, after, hcolumns⟩ := List.append_of_mem (mem_columns t.status)
    have hascend := columns_ascend
    rw [hcolumns, List.pairwise_append, List.pairwise_cons] at hascend
    obtain ⟨_, ⟨hlater, _⟩, hearlier⟩ := hascend
    have hall : ∀ u ∈ t :: tasks, noLater t u = true :=
      List.forall_mem_cons.mpr ⟨decide_eq_true (Nat.le_refl _), hfirst⟩
    have hbefore : ∀ l : List Task, (∀ u ∈ l, noLater t u = true) →
        (before.flatMap fun s => l.filter (·.status = s)) = [] := fun l hl =>
      List.flatMap_eq_nil_iff.mpr fun s hs =>
        filter_eq_nil_of_later hl (hearlier s hs _ List.mem_cons_self)
    have hown : (t :: tasks).filter (·.status = t.status)
        = t :: tasks.filter (·.status = t.status) := List.filter_cons_of_pos (decide_eq_true rfl)
    have hafter : (after.flatMap fun s => (t :: tasks).filter (·.status = s))
        = after.flatMap fun s => tasks.filter (·.status = s) := by
      refine List.flatMap_congr fun s hs => List.filter_cons_of_neg fun hts => ?_
      have hlt := hlater s hs
      rw [of_decide_eq_true hts] at hlt
      exact Nat.lt_irrefl _ hlt
    have ih := ih hrest
    rw [hcolumns, List.flatMap_append, List.flatMap_cons] at ih ⊢
    rw [hbefore tasks hfirst] at ih
    rw [hbefore (t :: tasks) hall, hown, hafter]
    exact congrArg (t :: ·) ih

/-- What is shown is the stable sort by column. -/
theorem flatMap_tasks_eq_mergeSort (tasks : List Task) :
    (blocks tasks).flatMap (·.tasks) = tasks.mergeSort noLater := by
  have hsorted : (tasks.mergeSort noLater).Pairwise fun t u => noLater t u = true :=
    List.pairwise_mergeSort noLater_trans noLater_total tasks
  rw [flatMap_tasks, ← flatMap_filter_of_sorted hsorted]
  exact List.flatMap_congr fun s _ => (filter_mergeSort tasks s).symm

/-! ## The line of an empty board -/

theorem header_ne (team : Option String) (phase : Sync.Phase) : header team phase ≠ "  no tasks" := by
  intro h
  have hchars := congrArg String.toList h
  simp [header] at hchars

theorem heading_ne (b : Block) :
    b.status.displayName ++ " (" ++ Text.natural b.tasks.length ++ ")" ≠ "  no tasks" := by
  intro h
  have hlast : (b.status.displayName ++ " (" ++ Text.natural b.tasks.length
      ++ ")").toList.getLast? = some ')' := by
    rw [String.toList_append]
    exact List.getLast?_concat
  rw [h] at hlast
  exact absurd hlast (by decide)

theorem task_line_ne (t : Task) : "  " ++ t.line ≠ "  no tasks" := by
  intro h
  have hchars := congrArg String.toList h
  simp [Task.line] at hchars

theorem no_tasks_not_mem_blocks (tasks : List Task) :
    "  no tasks" ∉ (blocks tasks).flatMap Block.lines := by
  intro h
  obtain ⟨b, _, hline⟩ := List.mem_flatMap.mp h
  rcases List.mem_cons.mp hline with hheading | htask
  · exact heading_ne b hheading.symm
  · obtain ⟨t, _, ht⟩ := List.mem_map.mp htask
    exact task_line_ne t ht

theorem lines_eq (snapshot : Sync.Snapshot) (phase : Sync.Phase) :
    lines snapshot phase
      = header snapshot.selectedTeam phase :: (blocks snapshot.tasks).flatMap Block.lines
          ++ (if snapshot.tasks = [] then ["  no tasks"] else []) := by
  unfold lines
  rw [flatMap_columnLines]
  simp only [List.isEmpty_iff]

theorem no_tasks_mem_lines_iff (snapshot : Sync.Snapshot) (phase : Sync.Phase) :
    "  no tasks" ∈ lines snapshot phase ↔ snapshot.tasks = [] := by
  rw [lines_eq, List.mem_append, List.mem_cons]
  constructor
  · rintro ((hheader | hblock) | hempty)
    · exact absurd hheader.symm (header_ne _ _)
    · exact absurd hblock (no_tasks_not_mem_blocks _)
    · split at hempty
      · assumption
      · cases hempty
  · intro hempty
    rw [if_pos hempty]
    exact Or.inr List.mem_cons_self

/-! ## The headline -/

/-- **The board shows every task once.** For any snapshot and phase there are blocks, one for each
status that has a task, in the order of the board with the cancelled ones last; each holds the tasks
of its status in the order of the snapshot. The text is the first line, the lines of these blocks,
and the line of an empty board if the snapshot has no task, each with its end; that line is there
for no other reason. All blocks together are the stable sort of the tasks by column, so they are the
tasks of the snapshot, each as often as it is there. -/
theorem board_shows_each_task_once (snapshot : Sync.Snapshot) (phase : Sync.Phase) :
    ∃ shown : List Block,
      shown.map (·.status)
          = (TaskStatus.board ++ [TaskStatus.cancelled]).filter
              (fun s => snapshot.tasks.any (·.status = s))
        ∧ (∀ b ∈ shown, b.tasks = snapshot.tasks.filter (·.status = b.status))
        ∧ render snapshot phase = String.join ((lines snapshot phase).map (· ++ "\n"))
        ∧ lines snapshot phase
            = header snapshot.selectedTeam phase :: shown.flatMap Block.lines
                ++ (if snapshot.tasks = [] then ["  no tasks"] else [])
        ∧ ("  no tasks" ∈ lines snapshot phase ↔ snapshot.tasks = [])
        ∧ shown.flatMap (·.tasks) = snapshot.tasks.mergeSort noLater
        ∧ (shown.flatMap (·.tasks)).Perm snapshot.tasks := by
  have hsort := flatMap_tasks_eq_mergeSort snapshot.tasks
  refine ⟨blocks snapshot.tasks, ?_, ?_, rfl, lines_eq snapshot phase,
    no_tasks_mem_lines_iff snapshot phase, hsort, ?_⟩
  · unfold blocks columns
    rw [List.map_map]
    exact List.map_id _
  · intro b hb
    obtain ⟨s, _, rfl⟩ := List.mem_map.mp hb
    rfl
  · rw [hsort]
    exact List.mergeSort_perm _ _

/-- Two tasks of one column and one of a later column, the later column first in the list. -/
example :
    lines ⟨some "alpha", [], [⟨2, "b", .done, none, none, none, none, none, none⟩,
        ⟨1, "a", .todo, none, none, none, none, none, none⟩,
        ⟨3, "c", .todo, none, none, none, none, none, none⟩], []⟩ .ready
      = ["== alpha [ready] ==", "todo (2)", "  #1 [todo] a", "  #3 [todo] c", "done (1)",
          "  #2 [done] b"] := by
  cbv

end TeamConsole.Board
