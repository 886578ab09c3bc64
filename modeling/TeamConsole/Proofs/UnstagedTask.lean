import Mathlib.Data.List.Forall2
import TeamConsole.Proofs.Confirmation
import TeamConsole.Proofs.Execution
import TeamConsole.Proofs.Queue

/-!
# One task, several ways to move it

A task without a stage can be moved along the board, by an outcome, by a decision or by a request
for review. These are different operations of the console, but for such a task they are one: as long
as the tables agree, they make the same calls, show the same things and end the same way, whatever
happens in between and whatever the server answers.

* **`Visit.Alike`**: two steps show and tell the same, and make the same calls.
* **`following_withQueue`**: what follows a refresh does not look at the queue.
* **`alike_of_refreshing`**: so two operations that go on with the same refresh stay alike.
* **`Submission.visits`**: the steps of a change, by their number.
* **`resume_decides`**, **`status_queue`**: the one thing that a decision does besides.
* **`outcome_edges_are_moves`**: what links the two tables.
* **`unstaged_ways_agree`**: the headline.
-/

namespace TeamConsole

/-! ## Steps that look alike -/

/-- How an operation ends in a step. -/
def Step.result? (s : Step) : Option Result :=
  match s.next with
  | .done r _ => some r
  | _ => none

/-- **Two steps look alike.** They find and leave the same view, tell observers the same, and go on
with the same calls, the same delay or the same result. Of the queue nothing is said. -/
structure Visit.Alike (o : Sync.Options) (v v' : Visit) : Prop where
  found : v.found.view = v'.found.view
  view : v.step.desk.view = v'.step.desk.view
  events : v.step.events = v'.step.events
  calls : v.calls o = v'.calls o
  sleeps : v.step.sleeps = v'.step.sleeps
  result : v.step.result? = v'.step.result?

theorem Visit.Alike.refl (o : Sync.Options) (v : Visit) : v.Alike o v :=
  ⟨rfl, rfl, rfl, rfl, rfl, rfl⟩

/-- The step, on a desk with another queue. -/
def Step.withQueue (s : Step) (q : ApprovalQueue) : Step :=
  { s with desk := { s.desk with queue := q } }

/-- The visit, with another queue on the desk that it finds and leaves. -/
def Visit.withQueue (v : Visit) (q : ApprovalQueue) : Visit :=
  ⟨{ v.found with queue := q }, v.step.withQueue q⟩

theorem Visit.alike_withQueue (o : Sync.Options) (v : Visit) (q : ApprovalQueue) :
    (v.withQueue q).Alike o v :=
  ⟨rfl, rfl, rfl, rfl, rfl, rfl⟩

/-! ### Steps that do not look at the queue -/

theorem refresh_withQueue (o : Sync.Options) (d : Desk) (q : ApprovalQueue)
    (told : List Sync.Event) (after : AfterRefresh) :
    Desk.refresh o { d with queue := q } told after = (d.refresh o told after).withQueue q := by
  unfold Desk.refresh
  cases d.view.issueTicket? with
  | none => cases after <;> rfl
  | some issued => rfl

theorem report_withQueue (o : Sync.Options) (d : Desk) (q : ApprovalQueue)
    (told : List Sync.Event) (c : Confirmation) :
    Desk.report o { d with queue := q } told c = (d.report o told c).withQueue q := by
  unfold Desk.report
  split
  · exact refresh_withQueue o d q told _
  · rfl

theorem wake_withQueue (o : Sync.Options) (d : Desk) (q : ApprovalQueue) (r : Sync.Retry) :
    Desk.wake o { d with queue := q } r = (d.wake o r).withQueue q := by
  unfold Desk.wake
  split
  · rfl
  · exact refresh_withQueue o d q [] _

theorem resume_withQueue (o : Sync.Options) (d : Desk) (q : ApprovalQueue) {w : Waiting}
    (hw : w.isRefresh = true) (reply : w.Reply) :
    Desk.resume o { d with queue := q } w reply = (d.resume o w reply).withQueue q := by
  cases w with
  | refresh t after => cases after <;> rfl
  | _ => cases hw

/-- Whatever follows a refresh is the same with another queue, whatever became of that queue. -/
theorem following_withQueue (o : Sync.Options) {s : Step} (hs : s.next.Refreshing)
    (q : ApprovalQueue) (x : Meanwhile) :
    (s.withQueue q).following o x = (s.following o x).map (·.withQueue (x.queue q)) := by
  obtain ⟨d, told, next⟩ := s
  cases next with
  | wait w =>
    exact congrArg some (congrArg (Visit.mk _)
      (resume_withQueue o (x.leaves d) (x.queue q) hs (w.gather o x.reply)))
  | sleep r =>
    exact congrArg some (congrArg (Visit.mk _) (wake_withQueue o (x.leaves d) (x.queue q) r))
  | done result retry =>
    cases retry with
    | none => rfl
    | some r =>
      exact congrArg some (congrArg (Visit.mk _) (wake_withQueue o (x.leaves d) (x.queue q) r))

/-- What follows a refresh is again a refresh, and leaves the queue as it was found. -/
theorem following_of_refreshing {o : Sync.Options} {s : Step} (hs : s.next.Refreshing)
    {x : Meanwhile} {v : Visit} (h : s.following o x = some v) :
    v.step.next.Refreshing ∧ v.step.desk.queue = v.found.queue := by
  unfold Step.following at h
  split at h
  · rename_i w hw
    cases h
    have hrefresh : w.isRefresh = true := isRefresh_of_refreshing hs hw
    refine ⟨refreshing_resume o _ hrefresh _, ?_⟩
    cases w with
    | refresh t after => rfl
    | _ => cases hrefresh
  · obtain ⟨r, _, rfl⟩ := Option.map_eq_some_iff.mp h
    exact ⟨refreshing_wake o _ r, queue_wake o _ r⟩

/-! ### And so on, to the end -/

theorem alike_of_refreshing (o : Sync.Options) {s : Step} (hs : s.next.Refreshing)
    (q : ApprovalQueue) (xs : List Meanwhile) :
    List.Forall₂ (Visit.Alike o) ((s.withQueue q).later o xs) (s.later o xs) := by
  induction xs generalizing s q with
  | nil => exact .nil
  | cons x xs ih =>
    have hfollowing := following_withQueue o hs q x
    cases hs' : s.following o x with
    | none =>
      rw [hs'] at hfollowing
      rw [later_of_following_eq_none o hs', later_of_following_eq_none o hfollowing]
      exact .nil
    | some v =>
      rw [hs'] at hfollowing
      rw [later_cons o hs', later_cons o hfollowing]
      exact .cons (v.alike_withQueue o _) (ih (following_of_refreshing hs hs').1 _)

/-! ## The steps of a change, by their number -/

/-- Each step of an execution but the first follows the one before it. -/
theorem exists_following {o : Sync.Options} {s : Step} {xs : List Meanwhile} {n : Nat} {v : Visit}
    (d : Desk) (h : (s.later o xs)[n]? = some v) :
    ∃ u x, (⟨d, s⟩ :: s.later o xs : List Visit)[n]? = some u ∧ xs[n]? = some x
      ∧ u.step.following o x = some v := by
  induction xs generalizing s d n with
  | nil => cases h
  | cons x xs ih =>
    cases hs : s.following o x with
    | none =>
      rw [later_of_following_eq_none o hs] at h
      cases h
    | some first =>
      rw [later_cons o hs] at h ⊢
      cases n with
      | zero =>
        obtain rfl : first = v := Option.some.inj h
        exact ⟨⟨d, s⟩, x, rfl, rfl, hs⟩
      | succ n => exact ih first.found h

/-- **The steps of a change that passed its check.** It asks the server, takes the answer, and
goes on with refreshes, if at all. -/
inductive Submission.Visits (o : Sync.Options) (d : Desk) (s : Submission) (xs : List Meanwhile) :
    Nat → Visit → Prop where
  | asks : Visits o d s xs 0 ⟨d, d, [], .wait (.change s)⟩
  | answered {x : Meanwhile} (hx : xs[0]? = some x) :
      Visits o d s xs 1 ⟨x.leaves d, (x.leaves d).resume o (.change s) (x.reply s.call)⟩
  | refreshes {n : Nat} {x : Meanwhile} {u v : Visit}
      (hu : (s.execution o d xs)[n + 1]? = some u) (hrefreshing : u.step.next.Refreshing)
      (hx : xs[n + 1]? = some x) (h : u.step.following o x = some v) : Visits o d s xs (n + 2) v

theorem Submission.visits {o : Sync.Options} {d : Desk} {s : Submission} {xs : List Meanwhile}
    {n : Nat} {v : Visit} (h : (s.execution o d xs)[n]? = some v) : s.Visits o d xs n v := by
  induction n generalizing v with
  | zero =>
    cases h
    exact .asks
  | succ n ih =>
    obtain ⟨u, x, hu, hx, hfollowing⟩ := exists_following d h
    cases ih hu with
    | asks =>
      cases hfollowing
      exact .answered hx
    | @answered y _ =>
      rcases resume_change o (y.leaves d) s (y.reply s.call) with ⟨e, hrefused⟩ | hrefreshing
      · -- nothing follows a refusal
        rw [hrefused] at hfollowing
        cases hfollowing
      · exact .refreshes hu hrefreshing hx hfollowing
    | refreshes _ hrefreshing _ hprevious =>
      exact .refreshes hu (following_of_refreshing hrefreshing hprevious).1 hx hfollowing

/-! ## The ways to move a task -/

/-- **The one difference.** A decision takes the task off the queue, and does nothing else that an
outcome does not do. -/
theorem resume_decides (o : Sync.Options) (d : Desk) (team : String) (id : Int)
    (target : TaskStatus) (answer : TaskUpdate) :
    d.resume o (.change (.status team id target true)) (.ok answer)
      = (d.resume o (.change (.status team id target false)) (.ok answer)).withQueue
          (d.queue.remove team id) :=
  report_withQueue o ⟨_, d.queue⟩ (d.queue.remove team id) _ _

/-- Whether the operation ends in a refusal. -/
def Step.isRefused (s : Step) : Bool :=
  match s.next with
  | .done (.refused _) _ => true
  | _ => false

theorem isRefused_of_refreshing {s : Step} (hs : s.next.Refreshing) : s.isRefused = false := by
  obtain ⟨d, told, next⟩ := s
  cases next with
  | done result retry =>
    cases result with
    | refused e => exact absurd rfl (hs e)
    | _ => rfl
  | _ => rfl

/-- The executions of a decision and of an outcome that lead to the same status. -/
theorem decision_alike (o : Sync.Options) (d : Desk) (team : String) (id : Int)
    (target : TaskStatus) (xs : List Meanwhile) :
    List.Forall₂ (Visit.Alike o) (Submission.execution o d (.status team id target true) xs)
      (Submission.execution o d (.status team id target false) xs) := by
  refine .cons ⟨rfl, rfl, rfl, rfl, rfl, rfl⟩ ?_
  cases xs with
  | nil => exact .nil
  | cons x xs =>
    let decided := (x.leaves d).resume o (.change (.status team id target true))
      (x.reply (.patchTask team id (.ofStatus target)))
    let applied := (x.leaves d).resume o (.change (.status team id target false))
      (x.reply (.patchTask team id (.ofStatus target)))
    show List.Forall₂ (Visit.Alike o) (⟨x.leaves d, decided⟩ :: decided.later o xs)
      (⟨x.leaves d, applied⟩ :: applied.later o xs)
    cases hreply : x.reply (.patchTask team id (.ofStatus target)) with
    | error e =>
      -- the two refusals are one step, and nothing follows it
      have hdecided : decided = (x.leaves d).ended (.refused (.gateway e)) := by
        simp only [decided, hreply]
        rfl
      have happlied : applied = (x.leaves d).ended (.refused (.gateway e)) := by
        simp only [applied, hreply]
        rfl
      rw [hdecided, happlied, later_ended]
      exact .cons (.refl o _) .nil
    | ok answer =>
      -- from here on the queue is the whole difference
      have hrefreshing : applied.next.Refreshing := by
        simp only [applied, hreply]
        exact refreshing_report o _ _ _
      have hdecided : decided = applied.withQueue ((x.leaves d).queue.remove team id) := by
        simp only [decided, applied, hreply]
        exact resume_decides o (x.leaves d) team id target answer
      rw [hdecided]
      exact .cons ⟨rfl, rfl, rfl, rfl, rfl, rfl⟩ (alike_of_refreshing o hrefreshing _ xs)

theorem resume_status_queue (o : Sync.Options) (d : Desk) (team : String) (id : Int)
    (target : TaskStatus) (decides : Bool)
    (reply : (Waiting.change (.status team id target decides)).Reply) :
    (d.resume o (.change (.status team id target decides)) reply).desk.queue =
      if decides = true ∧
          (d.resume o (.change (.status team id target decides)) reply).isRefused = false then
        d.queue.remove team id
      else d.queue := by
  cases reply with
  | error e => exact (if_neg (fun h => nomatch h.2)).symm
  | ok answer =>
    have hrefused :
        (d.resume o (.change (.status team id target decides)) (.ok answer)).isRefused = false :=
      isRefused_of_refreshing (refreshing_report o _ _ _)
    rw [queue_resume]
    cases decides with
    | false => exact (if_neg (fun h => Bool.false_ne_true h.1)).symm
    | true => exact (if_pos ⟨rfl, hrefused⟩).symm

/-- **The queue.** Only the step that takes the answer to a decision writes it. -/
theorem status_queue (o : Sync.Options) (d : Desk) (team : String) (id : Int)
    (target : TaskStatus) (decides : Bool) (xs : List Meanwhile) {n : Nat} {v : Visit}
    (h : (Submission.execution o d (.status team id target decides) xs)[n]? = some v) :
    v.step.desk.queue =
      if decides = true ∧ n = 1 ∧ v.step.isRefused = false then v.found.queue.remove team id
      else v.found.queue := by
  cases Submission.visits h with
  | asks => exact (if_neg (fun hn => nomatch hn.2.1)).symm
  | @answered x _ => simpa using resume_status_queue o (x.leaves d) team id target decides _
  | refreshes _ hrefreshing _ hfollowing =>
    rw [if_neg (fun hn => by omega)]
    exact (following_of_refreshing hrefreshing hfollowing).2

/-! ### The same, with the check -/

/-- The outcome table decides alone whether a change passes, not what it is for. -/
theorem checkOutcome_cases (team : String) (id : Int) (current : TaskStatus) (outcome : Outcome) :
    (∃ e, ∀ decides, Transition.checkOutcome team id current outcome decides = .error e)
      ∨ ∃ target, ∀ decides, Transition.checkOutcome team id current outcome decides
          = .ok (.status team id target decides) := by
  unfold Transition.checkOutcome
  cases Outcome.moves.next current outcome with
  | error e => exact Or.inl ⟨.workflow e, fun _ => rfl⟩
  | ok target => exact Or.inr ⟨target, fun _ => rfl⟩

section Checked

variable {team : String} {id : Int} {current : TaskStatus} {outcome : Outcome}

theorem alike_of_checkOutcome (o : Sync.Options) (d : Desk) {t t' : Transition}
    (ht : t.check = Transition.checkOutcome team id current outcome true)
    (ht' : t'.check = Transition.checkOutcome team id current outcome false)
    (xs : List Meanwhile) :
    List.Forall₂ (Visit.Alike o) (execution o d (.change t) xs)
      (execution o d (.change t') xs) := by
  rcases checkOutcome_cases team id current outcome with ⟨e, he⟩ | ⟨target, hok⟩
  · rw [execution_refused o d (ht.trans (he true)), execution_refused o d (ht'.trans (he false))]
    exact .cons (.refl o _) .nil
  · rw [execution_passed o d (ht.trans (hok true)), execution_passed o d (ht'.trans (hok false))]
    exact decision_alike o d team id target xs

theorem queue_of_checkOutcome (o : Sync.Options) (d : Desk) {t : Transition} {decides : Bool}
    (ht : t.check = Transition.checkOutcome team id current outcome decides)
    (xs : List Meanwhile) {n : Nat} {v : Visit}
    (h : (execution o d (.change t) xs)[n]? = some v) :
    v.step.desk.queue =
      if decides = true ∧ n = 1 ∧ v.step.isRefused = false then v.found.queue.remove team id
      else v.found.queue := by
  rcases checkOutcome_cases team id current outcome with ⟨e, he⟩ | ⟨target, hok⟩
  · -- the check is the only step, and it has not asked the server
    rw [execution_refused o d (ht.trans (he decides))] at h
    obtain rfl : n = 0 := Nat.lt_one_iff.mp (List.getElem?_eq_some_iff.mp h).1
    cases h
    exact (if_neg (fun hn => nomatch hn.2.1)).symm
  · rw [execution_passed o d (ht.trans (hok decides))] at h
    exact status_queue o d team id target decides xs h

end Checked

/-! ### The link between the tables -/

theorem outcome_edges_are_moves :
    ∀ e ∈ Outcome.moves.edges, ⟨e.source, e.target, e.target⟩ ∈ TaskStatus.moves.edges := by
  decide

/-- A move along the board passes with the target of an outcome. -/
theorem check_move_of_outcome (team : String) (id : Int) {current target : TaskStatus}
    {outcome : Outcome} (h : Outcome.moves.next current outcome = .ok target) :
    (Transition.move team id current target).check
      = (Transition.applyOutcome team id current outcome).check := by
  have hedge : ⟨current, outcome, target⟩ ∈ Outcome.moves.edges :=
    Outcome.moves_agrees.next_eq_ok_iff.mp h
  have hmove : TaskStatus.moves.next current target = .ok target :=
    TaskStatus.moves_agrees.next_eq_ok_iff.mpr (outcome_edges_are_moves _ hedge)
  rw [Transition.check, hmove]
  exact (checkOutcome_of_edge team id false hedge).symm

/-! ## The headline -/

/-- **The ways to move a task without a stage agree.** On any desk, with any server and whatever
happens in between, a decision and an outcome show and tell the same, make the same calls and end
the same way. An outcome leaves the queue as it finds it; a decision takes the task off when its
answer has come and is no refusal, and leaves the queue alone otherwise. A move along the board to
the target of an outcome, and a request for review, are that outcome. -/
theorem unstaged_ways_agree {task : Task} (hstage : task.currentStage = none) (o : Sync.Options)
    (d : Desk) (team : String) (outcome : Outcome) (xs : List Meanwhile) :
    List.Forall₂ (Visit.Alike o) (execution o d (.change (.approve team task outcome)) xs)
        (execution o d (.change (.applyOutcome team task.id task.status outcome)) xs)
      ∧ (∀ v ∈ execution o d (.change (.applyOutcome team task.id task.status outcome)) xs,
          v.step.desk.queue = v.found.queue)
      ∧ (∀ n v, (execution o d (.change (.approve team task outcome)) xs)[n]? = some v →
          v.step.desk.queue =
            if n = 1 ∧ v.step.isRefused = false then v.found.queue.remove team task.id
            else v.found.queue)
      ∧ (∀ target, Outcome.moves.next task.status outcome = .ok target →
          execution o d (.change (.move team task.id task.status target)) xs
            = execution o d (.change (.applyOutcome team task.id task.status outcome)) xs)
      ∧ execution o d (.change (.requestReview team task)) xs
          = execution o d
              (.change (.applyOutcome team task.id task.status .submitForReview)) xs := by
  have happrove : (Transition.approve team task outcome).check
      = Transition.checkOutcome team task.id task.status outcome true := by
    rw [check_approve, Task.checkGoing, hstage]
  have hreview : (Transition.requestReview team task).check
      = (Transition.applyOutcome team task.id task.status .submitForReview).check := by
    rw [check_requestReview, Task.checkGoing, hstage]
    rfl
  refine ⟨alike_of_checkOutcome o d happrove rfl xs, ?_, ?_, ?_, ?_⟩
  · intro v hv
    obtain ⟨n, hn⟩ := List.mem_iff_getElem?.mp hv
    rw [queue_of_checkOutcome o d rfl xs hn]
    exact if_neg (fun h => Bool.false_ne_true h.1)
  · intro n v hn
    simpa using queue_of_checkOutcome o d happrove xs hn
  · intro target hnext
    exact execution_of_check o d (check_move_of_outcome team task.id hnext) xs
  · exact execution_of_check o d hreview xs

/-- A task that waits for a decision, and is queued for it. -/
def undecided : Task :=
  { openTask with status := .inApproval }

def deciding : Desk where
  queue := ⟨some "alpha", 1, [undecided]⟩

/-- Nobody else does anything, and the server takes any status. -/
def takingAny : Meanwhile where
  view := id
  queue := id
  reply
    | .patchTask .. => .ok (⟨none, none, none, none⟩ : TaskUpdate)
    | _ => .error (.transport "down")

/-- Decided or moved, the task is merged next; only the decision takes it off the queue. -/
theorem decided_or_moved_alike :
    undecided.currentStage = none
      ∧ (∃ v, (execution ⟨200, 3, 200⟩ deciding (.change (.approve "alpha" undecided .approved))
            [takingAny])[1]? = some v
          ∧ v.step.result? = some (.changed ⟨7, some .merging, none, .noTeam, false⟩)
          ∧ v.step.desk.queue.tasks = [])
      ∧ ∃ v, (execution ⟨200, 3, 200⟩ deciding (.change (.move "alpha" 7 .inApproval .merging))
            [takingAny])[1]? = some v
          ∧ v.step.result? = some (.changed ⟨7, some .merging, none, .noTeam, false⟩)
          ∧ v.step.desk.queue.tasks = [undecided] := by
  have hstage : undecided.currentStage = none := rfl
  obtain ⟨_, hkept, hdecided, hmoved, _⟩ :=
    unstaged_ways_agree hstage ⟨200, 3, 200⟩ deciding "alpha" .approved [takingAny]
  refine ⟨hstage, ⟨_, rfl, rfl, ?_⟩, ?_⟩
  · rw [hdecided 1 _ rfl]
    decide
  · -- the move is the outcome, which keeps the queue
    have hmove := hmoved .merging (by decide)
    change execution _ deciding (.change (.move "alpha" 7 .inApproval .merging)) _ = _ at hmove
    rw [hmove]
    refine ⟨_, rfl, rfl, ?_⟩
    rw [hkept _ (List.mem_cons_of_mem _ List.mem_cons_self)]
    rfl

end TeamConsole
