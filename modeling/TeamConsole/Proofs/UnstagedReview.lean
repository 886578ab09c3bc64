import TeamConsole.Proofs.DecidedTask
import TeamConsole.Proofs.UnstagedTask

/-!
# What a review of a task without a stage changes

A review does not move a task without a stage: there is no stage to show, and the verdict is only
recorded. The view agrees with that, for it changes by the refresh that follows and by nothing
else. The approval queue does not: as soon as the review is recorded the task is taken off, as if
it had been decided.

* **`Visit.Refreshes`**: a step that only refreshes.
* **`refreshes_of_following`**, **`resume_verdict_view`**: all steps of such a review are.
* **`remove_eq_self_iff`**, **`resume_verdict_queue`**: what it does to the queue.
* **`unstaged_review_refreshes_and_dequeues`**: the headline, with the exact condition under which
  the queue is kept.
* **`reviewed_task_no_longer_waits`**: a task that still waits for a decision, and is not listed.
-/

namespace TeamConsole

open Sync (State)

/-! ## Steps that only refresh -/

/-- **A step that only refreshes.** It leaves the view as it found it, issues a refresh, or takes
the answer to the refresh for which the step before it asked. -/
inductive Visit.Refreshes (o : Sync.Options) (x : Meanwhile) (u v : Visit) : Prop where
  | keeps (hview : v.step.desk.view = v.found.view)
  | issues (hview : v.step.desk.view = withRefresh v.found.view)
  | takes {t : Sync.Ticket} {after : AfterRefresh} (hasked : u.step.asks = some (.refresh t after))
      (hview : v.step.desk.view
        = (v.found.view.settleRefresh t ((Waiting.refresh t after).gather o x.reply)).1)

theorem Visit.refreshes_of_closes {o : Sync.Options} {x : Meanwhile} {u v : Visit}
    {told : List Sync.Event} (h : Closes v.found.view told v.step.turn) : u.Refreshes o x v :=
  h.view_cases.elim .keeps .issues

/-- What follows a step that refreshes only refreshes, too. -/
theorem refreshes_of_following {o : Sync.Options} {x : Meanwhile} {u v : Visit}
    (hu : u.step.next.Refreshing) (h : u.step.following o x = some v) : u.Refreshes o x v := by
  unfold Step.following at h
  split at h
  · rename_i w hw
    cases h
    have hrefresh : w.isRefresh = true := isRefresh_of_refreshing hu hw
    cases w with
    | refresh t after => exact .takes hw rfl
    | _ => cases hrefresh
  · obtain ⟨r, _, rfl⟩ := Option.map_eq_some_iff.mp h
    exact Visit.refreshes_of_closes (closes_wake o _ r)

/-- The answer to a refresh marks no task as optimistic. -/
theorem optimistic_settleRefresh (s : State) (t : Sync.Ticket)
    (reply : Except GatewayError (List Task × List Agent)) :
    ∀ i ∈ (s.settleRefresh t reply).1.optimistic, i ∈ s.optimistic := by
  cases hcurrent : s.isCurrent t with
  | false =>
    rw [settleRefresh_stale hcurrent]
    exact fun _ h => h
  | true =>
    cases reply with
    | error e =>
      rw [settleRefresh_error hcurrent]
      exact fun _ h => h
    | ok lists =>
      rw [settleRefresh_ok hcurrent lists.1 lists.2]
      exact fun _ h => nomatch h

theorem Visit.Refreshes.optimistic {o : Sync.Options} {x : Meanwhile} {u v : Visit}
    (h : u.Refreshes o x v) :
    ∀ i ∈ v.step.desk.view.optimistic, i ∈ v.found.view.optimistic := by
  cases h with
  | keeps hview =>
    rw [hview]
    exact fun _ h => h
  | issues hview =>
    rw [hview]
    exact fun _ h => h
  | takes _ hview =>
    rw [hview]
    exact optimistic_settleRefresh _ _ _

/-! ## Taking a task off the queue -/

theorem remove_eq_self_iff (q : ApprovalQueue) (team : String) (id : Int) :
    q.remove team id = q ↔ q.holds team id = false := by
  constructor
  · intro h
    rw [← Bool.not_eq_true, ← h]
    exact not_holds_remove q team id
  · intro h
    have habsent : ¬ (q.team = some team ∧ ∃ t ∈ q.tasks, t.id = id) := by
      rw [← holds_iff, h]
      exact Bool.false_ne_true
    unfold ApprovalQueue.remove
    split
    · rename_i hteam
      have hall : q.tasks.filter (·.id ≠ id) = q.tasks :=
        List.filter_eq_self.mpr fun t ht =>
          decide_eq_true fun hid => habsent ⟨hteam, t, ht, hid⟩
      rw [hall]
    · rfl

/-! ## The answer to the review -/

section Verdict

variable (o : Sync.Options) (d : Desk) (team : String) (id : Int) (submitted : ReviewSubmission)

/-- A verdict on a task without a stage shows nothing, whatever the server answers. -/
theorem resume_verdict_view (reply : (Waiting.change (.verdict team id submitted none)).Reply) :
    Closes d.view [] (d.resume o (.change (.verdict team id submitted none)) reply).turn := by
  have hcloses := closes_resume o d (.change (.verdict team id submitted none)) reply
  have hidle : (Waiting.change (.verdict team id submitted none)).deed reply = .idle := by
    cases reply with
    | error e => rfl
    | ok answer =>
      obtain ⟨ok⟩ := answer
      cases ok <;> rfl
  rw [hidle] at hcloses
  exact hcloses

/-- It takes the task off the queue all the same, unless the server refuses. -/
theorem resume_verdict_queue (reply : (Waiting.change (.verdict team id submitted none)).Reply) :
    (d.resume o (.change (.verdict team id submitted none)) reply).desk.queue =
      if (d.resume o (.change (.verdict team id submitted none)) reply).isRefused = false then
        d.queue.remove team id
      else d.queue := by
  cases reply with
  | error e => exact (if_neg (fun h => nomatch h)).symm
  | ok answer =>
    obtain ⟨ok⟩ := answer
    cases ok with
    | false => exact (if_neg (fun h => nomatch h)).symm
    | true =>
      have hrefused : (d.resume o (.change (.verdict team id submitted none))
          (.ok (⟨true⟩ : Ack))).isRefused = false :=
        isRefused_of_refreshing (refreshing_report o _ _ _)
      rw [queue_resume]
      exact (if_pos hrefused).symm

end Verdict

/-! ## The whole review -/

/-- **A review that is only recorded**, but for the queue: its first step leaves the desk alone,
all later ones only refresh, and none marks a task as optimistic. The step that takes the answer
takes the task off the queue, unless it ends in a refusal; no other step writes the queue. -/
structure Recorded (o : Sync.Options) (team : String) (id : Int) (xs : List Meanwhile)
    (steps : List Visit) : Prop where
  first : ∀ v, steps[0]? = some v → v.step.desk = v.found
  refreshes : ∀ n u v x, steps[n]? = some u → steps[n + 1]? = some v → xs[n]? = some x →
    u.Refreshes o x v
  optimistic : ∀ v ∈ steps, ∀ i ∈ v.step.desk.view.optimistic, i ∈ v.found.view.optimistic
  queue : ∀ n v, steps[n]? = some v →
    v.step.desk.queue =
      if n = 1 ∧ v.step.isRefused = false then v.found.queue.remove team id else v.found.queue

/-- A review stopped by its check is recorded nowhere. -/
theorem recorded_refused (o : Sync.Options) (d : Desk) (e : TransitionError) (team : String)
    (id : Int) (xs : List Meanwhile) : Recorded o team id xs [⟨d, d.ended (.refused e)⟩] where
  first _ h := by
    cases h
    rfl
  refreshes _ _ _ _ _ h := nomatch h
  optimistic _ h _ hi := by
    rw [List.mem_singleton.mp h] at hi ⊢
    exact hi
  queue n v h := by
    obtain rfl : n = 0 := Nat.lt_one_iff.mp (List.getElem?_eq_some_iff.mp h).1
    cases h
    exact (if_neg (fun hn => nomatch hn.1)).symm

theorem refreshes_of_verdict {o : Sync.Options} {d : Desk} {team : String} {id : Int}
    {submitted : ReviewSubmission} {xs : List Meanwhile} {n : Nat} {u v : Visit} {x : Meanwhile}
    (hu : (Submission.execution o d (.verdict team id submitted none) xs)[n]? = some u)
    (hv : (Submission.execution o d (.verdict team id submitted none) xs)[n + 1]? = some v)
    (hx : xs[n]? = some x) : u.Refreshes o x v := by
  cases Submission.visits hv with
  | @answered y _ =>
    exact Visit.refreshes_of_closes (resume_verdict_view o (y.leaves d) team id submitted _)
  | refreshes hu' hrefreshing hx' hfollowing =>
    cases hu.symm.trans hu'
    cases hx.symm.trans hx'
    exact refreshes_of_following hrefreshing hfollowing

theorem recorded_verdict (o : Sync.Options) (d : Desk) (team : String) (id : Int)
    (submitted : ReviewSubmission) (xs : List Meanwhile) :
    Recorded o team id xs (Submission.execution o d (.verdict team id submitted none) xs) where
  first _ h := by
    cases h
    rfl
  refreshes _ _ _ _ := refreshes_of_verdict
  optimistic v hv := by
    obtain ⟨n, hn⟩ := List.mem_iff_getElem?.mp hv
    cases n with
    | zero =>
      cases hn
      exact fun _ h => h
    | succ n =>
      obtain ⟨u, x, hu, hx, _⟩ := exists_following d hn
      exact (refreshes_of_verdict hu hn hx).optimistic
  queue n v h := by
    cases Submission.visits h with
    | asks => exact (if_neg (fun hn => nomatch hn.1)).symm
    | @answered y _ => simpa using resume_verdict_queue o (y.leaves d) team id submitted _
    | refreshes _ hrefreshing _ hfollowing =>
      rw [if_neg (fun hn => by omega)]
      exact (following_of_refreshing hrefreshing hfollowing).2

/-- The check of a review never predicts a stage for a task that has none. -/
theorem check_submitReview_unstaged {task : Task} (hstage : task.currentStage = none)
    (team reviewer : String) (outcome : Outcome) (comments : Option String) :
    (∃ e, (Transition.submitReview team task reviewer outcome comments).check = .error e)
      ∨ ∃ submitted, (Transition.submitReview team task reviewer outcome comments).check
          = .ok (.verdict team task.id submitted none) := by
  simp only [Transition.check, hstage]
  cases Text.nonblank? reviewer with
  | none => exact Or.inl ⟨_, rfl⟩
  | some name =>
    cases hverdict : Transition.verdicts.contains outcome with
    | false => exact Or.inl ⟨_, rfl⟩
    | true => exact Or.inr ⟨_, rfl⟩

theorem recorded_review {task : Task} (hstage : task.currentStage = none) (o : Sync.Options)
    (d : Desk) (team reviewer : String) (outcome : Outcome) (comments : Option String)
    (xs : List Meanwhile) :
    Recorded o team task.id xs
      (execution o d (.change (.submitReview team task reviewer outcome comments)) xs) := by
  rcases check_submitReview_unstaged hstage team reviewer outcome comments with
    ⟨e, hcheck⟩ | ⟨submitted, hcheck⟩
  · rw [execution_refused o d hcheck]
    exact recorded_refused o d e team task.id xs
  · rw [execution_passed o d hcheck]
    exact recorded_verdict o d team task.id submitted xs

theorem Recorded.queue_kept_iff {o : Sync.Options} {team : String} {id : Int}
    {xs : List Meanwhile} {steps : List Visit} (h : Recorded o team id xs steps) {n : Nat}
    {v : Visit} (hv : steps[n]? = some v) :
    v.step.desk.queue = v.found.queue ↔
      ¬ (n = 1 ∧ v.step.isRefused = false ∧ v.found.queue.holds team id = true) := by
  rw [h.queue n v hv]
  split
  · rename_i hanswer
    rw [remove_eq_self_iff, ← Bool.not_eq_true]
    exact not_congr ⟨fun hheld => ⟨hanswer.1, hanswer.2, hheld⟩, fun hall => hall.2.2⟩
  · rename_i hanswer
    exact iff_of_true rfl fun hall => hanswer ⟨hall.1, hall.2.1⟩

/-! ## The headline -/

/-- **A review of a task without a stage refreshes, and takes the task off the queue.** On any desk,
with any server and whatever happens in between, the view changes by the issue and the answer of the
refresh that follows the review and by nothing else, and no task is marked as optimistic. The queue
is kept by every step, except that the step which takes an answer that is no refusal drops the task
if it is queued; it is not listed then, whatever its status says. -/
theorem unstaged_review_refreshes_and_dequeues {task : Task} (hstage : task.currentStage = none)
    (o : Sync.Options) (d : Desk) (team reviewer : String) (outcome : Outcome)
    (comments : Option String) (xs : List Meanwhile) :
    Recorded o team task.id xs
        (execution o d (.change (.submitReview team task reviewer outcome comments)) xs)
      ∧ ∀ n v,
          (execution o d (.change (.submitReview team task reviewer outcome comments)) xs)[n]?
            = some v →
          (v.step.desk.queue = v.found.queue ↔
              ¬ (n = 1 ∧ v.step.isRefused = false ∧ v.found.queue.holds team task.id = true))
            ∧ (n = 1 → v.step.isRefused = false →
                v.step.desk.queue.holds team task.id = false) := by
  have hrecorded := recorded_review hstage o d team reviewer outcome comments xs
  refine ⟨hrecorded, fun n v hv => ⟨hrecorded.queue_kept_iff hv, fun hn hrefused => ?_⟩⟩
  rw [hrecorded.queue n v hv, if_pos ⟨hn, hrefused⟩, ← Bool.not_eq_true]
  exact not_holds_remove _ team task.id

/-- A desk that shows a task and has it queued for a decision. -/
def reviewing : Desk where
  view := { snapshot := ⟨some "alpha", [], [undecided], []⟩, phase := .ready, epoch := 1,
            seq := 1, floor := 1 }
  queue := ⟨some "alpha", 1, [undecided]⟩

/-- The server records the review, and still lists the task as waiting. -/
def recording : Meanwhile where
  view := id
  queue := id
  reply
    | .submitReview .. => .ok (⟨true⟩ : Ack)
    | .tasks .. => .ok [undecided]
    | .agents .. => .ok ([] : List Agent)
    | _ => .error (.transport "down")

/-- The queued task is dropped, and the view only begins to refresh. -/
theorem review_drops_queued_task :
    undecided.currentStage = none
      ∧ ∃ v, (execution ⟨200, 3, 200⟩ reviewing
            (.change (.submitReview "alpha" undecided "qa" .changesRequested none))
            [recording, recording])[1]? = some v
          ∧ v.step.isRefused = false
          ∧ v.found.queue.holds "alpha" 7 = true
          ∧ v.step.desk.queue.holds "alpha" 7 = false
          ∧ ∀ i ∈ v.step.desk.view.optimistic, i ∈ v.found.view.optimistic := by
  have hstage : undecided.currentStage = none := rfl
  obtain ⟨hrecorded, hqueue⟩ := unstaged_review_refreshes_and_dequeues hstage ⟨200, 3, 200⟩
    reviewing "alpha" "qa" .changesRequested none [recording, recording]
  exact ⟨hstage, _, rfl, rfl, by decide, (hqueue 1 _ rfl).2 rfl rfl,
    hrecorded.optimistic _ (List.mem_cons_of_mem _ List.mem_cons_self)⟩

/-- After the review was recorded and the team refreshed, the shown task waits for a decision, as
it did before, and the queue is empty. -/
theorem reviewed_task_no_longer_waits :
    undecided.currentStage = none ∧ undecided.isPendingApproval = true
      ∧ reviewing.queue.tasks = [undecided]
      ∧ ∃ v, (execution ⟨200, 3, 200⟩ reviewing
            (.change (.submitReview "alpha" undecided "qa" .changesRequested none))
            [recording, recording])[2]? = some v
          ∧ v.step.result? = some (.changed ⟨7, none, none, .committed, false⟩)
          ∧ v.step.desk.view.snapshot.tasks = [undecided]
          ∧ v.step.desk.queue.tasks = [] :=
  ⟨rfl, rfl, rfl, _, rfl, by decide, rfl, by decide⟩

end TeamConsole
