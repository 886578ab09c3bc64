import TeamConsole.Proofs.Run
import TeamConsole.Proofs.Trimming
import TeamConsole.Proofs.WorkflowRun

/-!
# Changes are checked, sent once, and all or nothing

An operation that changes a task goes through three stages: its check, the call that makes the
change, and a refresh with the retries that may follow. Between any two of them other operations
may do to the desk what they like.

* **`Transition.Permitted`**: what the rules allow, said with the edges of the three tables and
  the characters of the texts.
* **`checked`**: the check passes exactly the permitted changes, and leads to a call addressed to
  the same team and task.
* **`Course`**: the steps of one operation, on whatever desks it finds.
* **`Shape`**: the invariant, the three ways in which the course of a change can look.
* **`change_checked_sent_once_or_nothing`**: the headline.
-/

namespace TeamConsole

/-! ## What the rules allow -/

/-- An edge leaves `source` under `label`. -/
def TransitionTable.HasEdge {S L : Type} (table : TransitionTable S L) (source : S) (label : L) :
    Prop :=
  ∃ e ∈ table.edges, e.source = source ∧ e.label = label

/-- A task may leave its stage with an outcome, or its status if it has no stage. -/
def Task.Leaves (t : Task) (outcome : Outcome) : Prop :=
  match t.currentStage with
  | none => Outcome.moves.HasEdge t.status outcome
  | some stage => Workflow.review.table.HasEdge stage outcome

namespace Transition

/-- The changes that the rules allow. -/
def Permitted : Transition → Prop
  | move _ _ current next => TaskStatus.moves.HasEdge current next
  | applyOutcome _ _ current outcome => Outcome.moves.HasEdge current outcome
  | approve _ task outcome => task.Leaves outcome
  | requestReview _ task => task.Leaves .submitForReview
  | submitReview _ task reviewer outcome _ =>
    (¬ Text.Blank reviewer ∧ (outcome = .approved ∨ outcome = .changesRequested))
      ∧ ∀ stage, task.currentStage = some stage → Workflow.review.table.HasEdge stage outcome
  | create _ title status => ¬ Text.Blank title ∧ (status = .todo ∨ status = .inProgress)
  | assign .. => True

/-- The team of a change. -/
def team : Transition → String
  | move team .. | applyOutcome team .. | approve team .. | requestReview team ..
  | submitReview team .. | create team .. | assign team .. => team

/-- The task of a change; a task that is to be created has no id yet. -/
def taskId? : Transition → Option Int
  | move _ id .. | applyOutcome _ id .. | assign _ id _ => some id
  | approve _ task _ | requestReview _ task | submitReview _ task .. => some task.id
  | create .. => none

end Transition

/-- The task to which a call is addressed. -/
def Call.taskId? : Call → Option Int
  | task _ id | patchTask _ id _ | approveTask _ id _ | requestReview _ id | submitReview _ id _
  | taskReviews _ id | taskDiff _ id => some id
  | _ => none

/-- A call that makes a change: it is a mutation, and addressed to the team and task of the
change. -/
structure Call.Makes (c : Call) (t : Transition) : Prop where
  mutation : c.isMutation = true
  team : c.team? = some t.team
  task : c.taskId? = t.taskId?

/-- The refusals of a check. -/
def TransitionError.IsLocal : TransitionError → Prop
  | workflow _ | invalidInput _ => True
  | gateway _ | rejected _ => False

/-! ## The check passes exactly what the rules allow -/

/-- **What a check decides.** It passes if `p`, with a value as `post` says, and is a refusal of
its own otherwise. -/
inductive Checked {α : Type} (p : Prop) (post : α → Prop) :
    Except TransitionError α → Prop where
  | pass (hp : p) {a : α} (ha : post a) : Checked p post (.ok a)
  | refuse (hp : ¬ p) {e : TransitionError} (he : e.IsLocal) : Checked p post (.error e)

theorem Checked.map {α β : Type} {p : Prop} {post : α → Prop} {post' : β → Prop}
    {x : Except TransitionError α} {f : α → β} (h : Checked p post x)
    (hf : ∀ a, post a → post' (f a)) : Checked p post' (x.map f) := by
  cases h with
  | pass hp ha => exact .pass hp (hf _ ha)
  | refuse hp he => exact .refuse hp he

theorem Checked.congr {α : Type} {p q : Prop} {post : α → Prop} {x : Except TransitionError α}
    (h : Checked p post x) (hpq : p ↔ q) : Checked q post x :=
  propext hpq ▸ h

/-- A lookup that finds the edges of a table passes the moves along them. -/
theorem checked_of_ok_iff {S L : Type} {table : TransitionTable S L} {source : S} {label : L}
    {x : Except WorkflowError S} (h : ∀ t, x = .ok t ↔ ⟨source, label, t⟩ ∈ table.edges) :
    Checked (table.HasEdge source label) (fun _ => True) (refusing x) := by
  cases x with
  | ok t => exact .pass ⟨_, (h t).mp rfl, rfl, rfl⟩ trivial
  | error e =>
    refine .refuse ?_ trivial
    rintro ⟨⟨s, l, t⟩, he, rfl, rfl⟩
    cases (h t).mpr he

/-- A table passes the moves along its edges. -/
theorem checked_next {S L : Type} [DecidableEq S] [DecidableEq L] [Named S] [Named L]
    {table : TransitionTable S L} (h : table.Agrees) (source : S) (label : L) :
    Checked (table.HasEdge source label) (fun _ => True) (refusing (table.next source label)) :=
  checked_of_ok_iff fun _ => h.next_eq_ok_iff

/-- The review workflow passes the outcomes along its edges. -/
theorem checked_nextStage (stage : String) (outcome : Outcome) :
    Checked (Workflow.review.table.HasEdge stage outcome) (fun _ => True)
      (refusing (Workflow.review.nextStage stage outcome)) :=
  checked_of_ok_iff fun _ => Workflow.review_accepted.nextStage_eq_ok_iff

/-- A task may leave its status or its stage as the rules say. -/
theorem checked_outcome (team : String) (id : Int) (current : TaskStatus) (outcome : Outcome)
    (decides : Bool) {t : Transition} (hteam : t.team = team) (htask : t.taskId? = some id) :
    Checked (Outcome.moves.HasEdge current outcome) (fun s => s.call.Makes t)
      (Transition.checkOutcome team id current outcome decides) :=
  (checked_next Outcome.moves_agrees current outcome).map fun _ _ =>
    ⟨rfl, congrArg some hteam.symm, htask.symm⟩

/-- A task without a stage has none to leave; any other has to follow an edge. -/
theorem checked_predicted (stage? : Option String) (outcome : Outcome) :
    Checked (∀ stage, stage? = some stage → Workflow.review.table.HasEdge stage outcome)
      (fun _ => True)
      (stage?.mapM fun stage => refusing (Workflow.review.nextStage stage outcome)) := by
  cases stage? with
  | none => exact .pass (fun _ h => nomatch h) trivial
  | some stage =>
    have hedge : (∀ s, some stage = some s → Workflow.review.table.HasEdge s outcome)
        ↔ Workflow.review.table.HasEdge stage outcome :=
      ⟨fun h => h stage rfl, fun h s hs => Option.some.inj hs ▸ h⟩
    exact ((checked_nextStage stage outcome).map (f := some) fun _ _ => trivial).congr hedge.symm

/-- **A check passes exactly the permitted changes**, and leads to a call that makes the
change. -/
theorem checked (t : Transition) :
    Checked t.Permitted (fun s => s.call.Makes t) t.check := by
  cases t with
  | move team id current next =>
    exact (checked_next TaskStatus.moves_agrees current next).map fun _ _ => ⟨rfl, rfl, rfl⟩
  | applyOutcome team id current outcome =>
    exact checked_outcome team id current outcome false rfl rfl
  | approve team task outcome =>
    simp only [Transition.Permitted, Task.Leaves, Transition.check]
    cases task.currentStage with
    | none => exact checked_outcome team task.id task.status outcome true rfl rfl
    | some stage => exact (checked_nextStage stage outcome).map fun _ _ => ⟨rfl, rfl, rfl⟩
  | requestReview team task =>
    simp only [Transition.Permitted, Task.Leaves, Transition.check]
    cases task.currentStage with
    | none => exact checked_outcome team task.id task.status .submitForReview false rfl rfl
    | some stage => exact (checked_nextStage stage .submitForReview).map fun _ _ => ⟨rfl, rfl, rfl⟩
  | submitReview team task reviewer outcome comments =>
    simp only [Transition.check]
    cases hreviewer : Text.nonblank? reviewer with
    | none =>
      have hblank := (Text.nonblank?_eq_none_iff reviewer).mp hreviewer
      exact .refuse (fun h => h.1.1 hblank) trivial
    | some name =>
      have hnonblank : ¬ Text.Blank reviewer := by
        rw [← Text.nonblank?_eq_none_iff, hreviewer]
        exact Option.some_ne_none name
      by_cases hverdict : outcome = .approved ∨ outcome = .changesRequested
      · have hcontains : Transition.verdicts.contains outcome = true := by
          rcases hverdict with rfl | rfl <;> rfl
        simp only [hcontains]
        refine Checked.congr ?_ (and_iff_right ⟨hnonblank, hverdict⟩).symm
        exact (checked_predicted task.currentStage outcome).map fun _ _ => ⟨rfl, rfl, rfl⟩
      · have hcontains : Transition.verdicts.contains outcome = false := by
          simpa [Transition.verdicts] using hverdict
        simp only [hcontains]
        exact .refuse (fun h => hverdict h.1.2) trivial
  | create team title status =>
    simp only [Transition.check]
    cases htitle : Text.nonblank? title with
    | none =>
      have hblank := (Text.nonblank?_eq_none_iff title).mp htitle
      exact .refuse (fun h => h.1 hblank) trivial
    | some name =>
      have hnonblank : ¬ Text.Blank title := by
        rw [← Text.nonblank?_eq_none_iff, htitle]
        exact Option.some_ne_none name
      by_cases hstatus : status = .todo ∨ status = .inProgress
      · have hcontains : Transition.initialStatuses.contains status = true := by
          rcases hstatus with rfl | rfl <;> rfl
        simp only [hcontains]
        exact .pass ⟨hnonblank, hstatus⟩ ⟨rfl, rfl, rfl⟩
      · have hcontains : Transition.initialStatuses.contains status = false := by
          simpa [Transition.initialStatuses] using hstatus
        simp only [hcontains]
        exact .refuse (fun h => hstatus h.2) trivial
  | assign team id assignee => exact .pass trivial ⟨rfl, rfl, rfl⟩

/-! ## The course of an operation -/

/-- One step of an operation, with the desk that it found. -/
structure Visit where
  found : Desk
  step : Step

/-- **The courses of an operation**, the latest step first. Each step finds whatever desk the
other operations have left in the meantime, and any reply may come. -/
inductive Course (o : Sync.Options) (op : Operation) : List Visit → Prop where
  | start (d : Desk) : Course o op [⟨d, d.start o op⟩]
  | resume {v : Visit} {earlier : List Visit} {w : Waiting} (h : Course o op (v :: earlier))
      (hw : v.step.asks = some w) (reply : w.Reply) (d : Desk) :
      Course o op (⟨d, d.resume o w reply⟩ :: v :: earlier)
  | wake {v : Visit} {earlier : List Visit} {r : Sync.Retry} (h : Course o op (v :: earlier))
      (hr : v.step.sleeps = some r) (d : Desk) :
      Course o op (⟨d, d.wake o r⟩ :: v :: earlier)

/-- The calls on which a step waits. -/
def Visit.calls (o : Sync.Options) (v : Visit) : List Call :=
  v.step.asks.toList.flatMap (·.calls o)

/-- The calls of a course, in their order. -/
def callsOf (o : Sync.Options) (course : List Visit) : List Call :=
  course.reverse.flatMap (·.calls o)

/-! ### After the server has accepted a change

Only refreshes are waited for from then on, and no refusal can follow. -/

/-- How an operation goes on that only refreshes. -/
def Next.Refreshing : Next → Prop
  | .done result _ => ∀ e, result ≠ .refused e
  | .wait w => w.isRefresh = true
  | .sleep _ => True

theorem refreshing_afterRefresh (o : Sync.Options) (d : Desk) (outcome : Sync.Outcome)
    (after : AfterRefresh) : (d.afterRefresh o outcome after).Refreshing := by
  cases after with
  | retry r =>
    simp only [Desk.afterRefresh]
    split
    · trivial
    · exact fun _ h => nomatch h
  | _ => exact fun _ h => nomatch h

theorem refreshing_refresh (o : Sync.Options) (d : Desk) (told : List Sync.Event)
    (after : AfterRefresh) : (d.refresh o told after).next.Refreshing := by
  unfold Desk.refresh
  cases d.view.issueTicket? with
  | none => exact refreshing_afterRefresh o d .noTeam after
  | some issued => rfl

theorem refreshing_report (o : Sync.Options) (d : Desk) (told : List Sync.Event)
    (c : Confirmation) : (d.report o told c).next.Refreshing := by
  unfold Desk.report
  split
  · exact refreshing_refresh o d told _
  · exact fun _ h => nomatch h

theorem refreshing_wake (o : Sync.Options) (d : Desk) (r : Sync.Retry) :
    (d.wake o r).next.Refreshing := by
  unfold Desk.wake
  split
  · exact fun _ h => nomatch h
  · exact refreshing_refresh o d [] _

theorem refreshing_resume (o : Sync.Options) (d : Desk) {w : Waiting} (hw : w.isRefresh = true)
    (reply : w.Reply) : (d.resume o w reply).next.Refreshing := by
  cases w with
  | refresh t after =>
    exact refreshing_afterRefresh o { d with view := (d.view.settleRefresh t reply).1 } _ after
  | _ => cases hw

/-- **The answer to a change** leads to a refusal that leaves the desk as it was found, or to
refreshes only. -/
theorem resume_change (o : Sync.Options) (d : Desk) (s : Submission)
    (reply : (Waiting.change s).Reply) :
    (∃ e, d.resume o (.change s) reply = ⟨d, [], .done (.refused e) none⟩)
      ∨ (d.resume o (.change s) reply).next.Refreshing := by
  cases reply with
  | error e => exact Or.inl ⟨_, rfl⟩
  | ok answer =>
    simp only [Desk.resume]
    cases s.settle d answer with
    | error e => exact Or.inl ⟨e, rfl⟩
    | ok settled =>
      obtain ⟨d', told, c⟩ := settled
      exact Or.inr (refreshing_report o d' told c)

/-! ### The shapes of a course -/

/-- **The shapes of the course of a change.** It was stopped by its check; or it waits for the
call that makes it, was refused by the answer, or goes on with refreshes. -/
inductive Shape (t : Transition) : List Visit → Prop where
  | stopped {e : TransitionError} (hcheck : t.check = .error e) (d : Desk) :
      Shape t [⟨d, d, [], .done (.refused e) none⟩]
  | asked {s : Submission} (hcheck : t.check = .ok s) (d : Desk) :
      Shape t [⟨d, d, [], .wait (.change s)⟩]
  | refused {s : Submission} (hcheck : t.check = .ok s) (d d' : Desk) (e : TransitionError) :
      Shape t [⟨d', d', [], .done (.refused e) none⟩, ⟨d, d, [], .wait (.change s)⟩]
  | refreshing {s : Submission} (hcheck : t.check = .ok s) (d : Desk) {v : Visit}
      {later : List Visit} (hall : ∀ x ∈ v :: later, x.step.next.Refreshing) :
      Shape t (v :: (later ++ [⟨d, d, [], .wait (.change s)⟩]))

/-- Every course of a change has one of the shapes. Induction on its steps. -/
theorem shape_of_course {o : Sync.Options} {t : Transition} {course : List Visit}
    (h : Course o (.change t) course) : Shape t course := by
  induction h with
  | start d =>
    simp only [Desk.start]
    cases hcheck : t.check with
    | ok s => exact .asked hcheck d
    | error e => exact .stopped hcheck d
  | resume _ hw reply d ih =>
    cases ih with
    | stopped => cases hw
    | asked hcheck d₀ =>
      -- it waits for its own call, so the reply is the answer to the change
      cases hw
      rcases resume_change o d _ reply with ⟨e, hrefused⟩ | hrefreshing
      · rw [hrefused]
        exact .refused hcheck d₀ d e
      · exact Shape.refreshing hcheck d₀ (List.forall_mem_singleton.mpr hrefreshing)
    | refused => cases hw
    | refreshing hcheck d₀ hall =>
      have hlast := hall _ List.mem_cons_self
      rw [next_of_asks hw] at hlast
      exact .refreshing hcheck d₀
        (List.forall_mem_cons.mpr ⟨refreshing_resume o d hlast reply, hall⟩)
  | wake _ hr d ih =>
    cases ih with
    | stopped => cases hr
    | asked => cases hr
    | refused => cases hr
    | refreshing hcheck d₀ hall =>
      exact .refreshing hcheck d₀ (List.forall_mem_cons.mpr ⟨refreshing_wake o d _, hall⟩)

/-! ### The calls of a course -/

theorem not_isMutation_of_refreshing (o : Sync.Options) {v : Visit}
    (h : v.step.next.Refreshing) : ∀ call ∈ v.calls o, call.isMutation = false := by
  intro call hcall
  obtain ⟨w, hw, hcall⟩ := List.mem_flatMap.mp hcall
  rw [next_of_asks (Option.mem_toList.mp hw)] at h
  cases w with
  | refresh t after =>
    rcases List.mem_cons.mp hcall with rfl | hcall
    · rfl
    · rw [List.mem_singleton.mp hcall]
      rfl
  | _ => cases h

theorem callsOf_concat (o : Sync.Options) (later : List Visit) (first : Visit) :
    callsOf o (later ++ [first]) = first.calls o ++ callsOf o later := by
  unfold callsOf
  rw [List.reverse_append, List.flatMap_append]
  simp only [List.reverse_singleton, List.flatMap_singleton]

/-- A course that waited for the call of a change made this call first. -/
theorem callsOf_asked (o : Sync.Options) (later : List Visit) (d : Desk) (s : Submission) :
    callsOf o (later ++ [⟨d, d, [], .wait (.change s)⟩]) = s.call :: callsOf o later := by
  rw [callsOf_concat]
  rfl

theorem not_isMutation_of_callsOf (o : Sync.Options) {later : List Visit}
    (h : ∀ x ∈ later, x.step.next.Refreshing) :
    ∀ call ∈ callsOf o later, call.isMutation = false := by
  intro call hcall
  obtain ⟨x, hx, hcall⟩ := List.mem_flatMap.mp hcall
  exact not_isMutation_of_refreshing o (h x (List.mem_reverse.mp hx)) call hcall

/-! ## The headline -/

/-- A step left the desk as it found it, told observers nothing, and issued no refresh. -/
structure Visit.Inert (v : Visit) : Prop where
  desk : v.step.desk = v.found
  events : v.step.events = []
  noRefresh : ∀ w, v.step.asks = some w → w.isRefresh = false
  noRetry : v.step.sleeps = none

theorem inert_refused (d : Desk) (e : TransitionError) :
    Visit.Inert ⟨d, d, [], .done (.refused e) none⟩ :=
  ⟨rfl, rfl, (fun _ h => nomatch h), rfl⟩

theorem inert_asked (d : Desk) (s : Submission) : Visit.Inert ⟨d, d, [], .wait (.change s)⟩ :=
  ⟨rfl, rfl, (fun _ h => Option.some.inj h ▸ rfl), rfl⟩

theorem of_check_ok {t : Transition} {s : Submission} (h : t.check = .ok s) :
    t.Permitted ∧ s.call.Makes t := by
  have hchecked := checked t
  rw [h] at hchecked
  cases hchecked with
  | pass hp hs => exact ⟨hp, hs⟩

theorem of_check_error {t : Transition} {e : TransitionError} (h : t.check = .error e) :
    ¬ t.Permitted ∧ e.IsLocal := by
  have hchecked := checked t
  rw [h] at hchecked
  cases hchecked with
  | refuse hp he => exact ⟨hp, he⟩

/-- A change that is not permitted is stopped by its check. -/
theorem stopped_of_not_permitted {t : Transition} {course : List Visit} (h : Shape t course)
    (hp : ¬ t.Permitted) :
    ∃ d e, course = [⟨d, d, [], .done (.refused e) none⟩] ∧ e.IsLocal := by
  cases h with
  | stopped hcheck d => exact ⟨d, _, rfl, (of_check_error hcheck).2⟩
  | asked hcheck => exact absurd (of_check_ok hcheck).1 hp
  | refused hcheck => exact absurd (of_check_ok hcheck).1 hp
  | refreshing hcheck => exact absurd (of_check_ok hcheck).1 hp

/-- A permitted change makes its call first, and reads only after it. -/
theorem calls_of_permitted (o : Sync.Options) {t : Transition} {course : List Visit}
    (h : Shape t course) (hp : t.Permitted) :
    ∃ call reads, callsOf o course = call :: reads ∧ call.Makes t
      ∧ ∀ read ∈ reads, read.isMutation = false := by
  cases h with
  | stopped hcheck => exact absurd hp (of_check_error hcheck).1
  | @asked s hcheck d => exact ⟨s.call, [], rfl, (of_check_ok hcheck).2, fun _ h => nomatch h⟩
  | @refused s hcheck d d' e =>
    exact ⟨s.call, [], rfl, (of_check_ok hcheck).2, fun _ h => nomatch h⟩
  | @refreshing s hcheck d v later hall =>
    exact ⟨s.call, callsOf o (v :: later), callsOf_asked o (v :: later) d s,
      (of_check_ok hcheck).2, not_isMutation_of_callsOf o hall⟩

/-- A course that ends with a refusal did nothing. -/
theorem inert_of_refused {t : Transition} {v : Visit} {earlier : List Visit}
    {e : TransitionError} {retry : Option Sync.Retry} (h : Shape t (v :: earlier))
    (hlast : v.step.next = .done (.refused e) retry) : ∀ x ∈ v :: earlier, x.Inert := by
  cases h with
  | stopped _ d => exact List.forall_mem_singleton.mpr (inert_refused d _)
  | asked => cases hlast
  | refused _ d d' =>
    exact List.forall_mem_cons.mpr
      ⟨inert_refused d' _, List.forall_mem_singleton.mpr (inert_asked d _)⟩
  | refreshing _ _ hall =>
    -- refreshes end, but never with a refusal
    have hrefreshing := hall v List.mem_cons_self
    rw [hlast] at hrefreshing
    exact absurd rfl (hrefreshing e)

/-- **A change is checked, sent once, or nothing.** Whatever its arguments, the desks that its
steps find and the replies that come, a change that the rules do not permit is refused by its
check, without a call. A permitted one first makes one call, a mutation addressed to its team and
task, and reads only after it. Whenever it is refused, at its check or later, all its steps left
the desk as they found it, told observers nothing, and issued no refresh. -/
theorem change_checked_sent_once_or_nothing {o : Sync.Options} {t : Transition}
    {course : List Visit} (h : Course o (.change t) course) :
    (¬ t.Permitted →
        (∃ d e, course = [⟨d, d, [], .done (.refused e) none⟩] ∧ e.IsLocal)
          ∧ callsOf o course = [])
      ∧ (t.Permitted →
          ∃ call reads, callsOf o course = call :: reads ∧ call.Makes t
            ∧ ∀ read ∈ reads, read.isMutation = false)
      ∧ ∀ v earlier e retry, course = v :: earlier → v.step.next = .done (.refused e) retry →
          ∀ x ∈ course, x.Inert := by
  have hshape := shape_of_course h
  refine ⟨?_, calls_of_permitted o hshape, ?_⟩
  · intro hp
    obtain ⟨d, e, rfl, he⟩ := stopped_of_not_permitted hshape hp
    exact ⟨⟨d, e, rfl, he⟩, rfl⟩
  · rintro v earlier e retry rfl hlast
    exact inert_of_refused hshape hlast

def waitingTask : Task :=
  ⟨7, "ship", .inApproval, none, none, none, some "InApproval", none, none⟩

def approvalDesk : Desk where
  view := { snapshot := ⟨some "alpha", [], [waitingTask], []⟩, phase := .ready, epoch := 1,
            seq := 1, floor := 1 }

/-- The rules permit to approve the task, and the server refuses all the same. -/
def refusedApproval : List Visit :=
  [⟨approvalDesk, approvalDesk.resume ⟨200, 3, 200⟩
      (.change (.decision "alpha" 7 .approved "Merging")) (.ok (⟨false, none⟩ : StageResponse))⟩,
    ⟨approvalDesk, approvalDesk.start ⟨200, 3, 200⟩
      (.change (.approve "alpha" waitingTask .approved))⟩]

/-- The one call was made, and nothing was changed. -/
theorem refused_approval_is_inert :
    (∃ call reads, callsOf ⟨200, 3, 200⟩ refusedApproval = call :: reads
        ∧ call.taskId? = some 7 ∧ ∀ read ∈ reads, read.isMutation = false)
      ∧ ∀ x ∈ refusedApproval, x.Inert := by
  have hcourse : Course ⟨200, 3, 200⟩ (.change (.approve "alpha" waitingTask .approved))
      refusedApproval := .resume (.start approvalDesk) rfl _ approvalDesk
  have hpermitted : (Transition.approve "alpha" waitingTask .approved).Permitted :=
    ⟨⟨"InApproval", .approved, "Merging"⟩, by decide, rfl, rfl⟩
  obtain ⟨_, hcalls, hinert⟩ := change_checked_sent_once_or_nothing hcourse
  obtain ⟨call, reads, heq, hmakes, hreads⟩ := hcalls hpermitted
  exact ⟨⟨call, reads, heq, hmakes.task, hreads⟩, hinert _ _ (.rejected 7) none rfl rfl⟩

end TeamConsole
