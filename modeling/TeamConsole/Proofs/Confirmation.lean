import TeamConsole.Proofs.Change
import TeamConsole.Proofs.ConfirmedValue
import TeamConsole.Proofs.QuietSpan
import TeamConsole.Proofs.WorkflowRun

/-!
# What the server confirms is reported and shown

An operator moves a task along the board, applies an outcome, decides an approval or requests a
review. The tables say where that leads; the server may answer with something else, or with nothing.
The receipt, the board and the refresh that follows have to agree on the answer, whatever it is.

* **`Transition.Leads`**: where a change leads by the tables (`leads_unique`, `leads_of_check`).
* **`Call.reported?`**, **`Call.accepts`**: what the answer to a call says.
* **`Brings`**: the requests behind the four changes, and the value that they expect
  (`check_of_leads`).
* **`answered_of_brings`**: the answer to such a request, the same for all of them.
* **`resume_aside`**, **`resume_shown`**: the answer while another team is selected, and while the
  team of the task is.
* **`lists_kept_until_failure`**: the board when the refresh that follows fails.
* **`confirmed_value_is_reported_and_shown`**: the headline.
-/

namespace TeamConsole

open Sync (State)

/-! ## The value that is confirmed -/

/-- The value, if it is a status. -/
def Confirmed.status? : Confirmed → Option TaskStatus
  | status s => some s
  | stage _ => none

/-- The value, if it is a stage. -/
def Confirmed.stage? : Confirmed → Option String
  | status _ => none
  | stage s => some s

/-- A task goes with an outcome to another stage, or to another status if it has no stage. -/
inductive Task.Goes (t : Task) (outcome : Outcome) : Confirmed → Prop where
  | status {target : TaskStatus} (hstage : t.currentStage = none)
      (hedge : ⟨t.status, outcome, target⟩ ∈ Outcome.moves.edges) :
      Task.Goes t outcome (.status target)
  | stage {stage target : String} (hstage : t.currentStage = some stage)
      (hedge : ⟨stage, outcome, target⟩ ∈ Workflow.review.transitions) :
      Task.Goes t outcome (.stage target)

/-- **Where a change leads.** The four changes that move a task follow an edge of their table; the
others lead nowhere. -/
inductive Transition.Leads : Transition → Confirmed → Prop where
  | move {team : String} {id : Int} {current next target : TaskStatus}
      (hedge : ⟨current, next, target⟩ ∈ TaskStatus.moves.edges) :
      Transition.Leads (.move team id current next) (.status target)
  | applyOutcome {team : String} {id : Int} {current target : TaskStatus} {outcome : Outcome}
      (hedge : ⟨current, outcome, target⟩ ∈ Outcome.moves.edges) :
      Transition.Leads (.applyOutcome team id current outcome) (.status target)
  | approve {team : String} {task : Task} {outcome : Outcome} {v : Confirmed}
      (hgoes : task.Goes outcome v) : Transition.Leads (.approve team task outcome) v
  | requestReview {team : String} {task : Task} {v : Confirmed}
      (hgoes : task.Goes .submitForReview v) : Transition.Leads (.requestReview team task) v

/-- The changes that move a task, to another status or to another stage. -/
def Transition.MovesTask : Transition → Prop
  | move .. | applyOutcome .. | approve .. | requestReview .. => True
  | submitReview .. | create .. | assign .. => False

/-- The value that the answer to a call reports. -/
def Call.reported? : (c : Call) → c.Answer → Option Confirmed
  | patchTask .., (answer : TaskUpdate) => answer.status.map .status
  | approveTask .., (answer : StageResponse) => answer.currentStage.map .stage
  | requestReview .., (answer : StageResponse) => answer.currentStage.map .stage
  | _, _ => none

/-- Whether the answer to a call accepts the change. An update has no word for a refusal. -/
def Call.accepts : (c : Call) → c.Answer → Bool
  | approveTask .., (answer : StageResponse) => answer.ok
  | requestReview .., (answer : StageResponse) => answer.ok
  | _, _ => true

/-! ## The tables -/

theorem Task.Goes.unique {t : Task} {outcome : Outcome} {v v' : Confirmed}
    (h : t.Goes outcome v) (h' : t.Goes outcome v') : v' = v := by
  cases h with
  | status hstage hedge =>
    cases h' with
    | status _ hedge' => rw [Outcome.moves_agrees.deterministic.target_eq hedge hedge']
    | stage hstage' => cases hstage.symm.trans hstage'
  | stage hstage hedge =>
    cases h' with
    | status hstage' => cases hstage.symm.trans hstage'
    | stage hstage' hedge' =>
      obtain rfl := Option.some.inj (hstage.symm.trans hstage')
      rw [Workflow.review_accepted.sound.deterministic.target_eq hedge hedge']

/-- A change leads to one value only. -/
theorem leads_unique {t : Transition} {v v' : Confirmed} (h : t.Leads v) (h' : t.Leads v') :
    v' = v := by
  cases h with
  | move hedge =>
    cases h' with
    | move hedge' => rw [TaskStatus.moves_agrees.deterministic.target_eq hedge hedge']
  | applyOutcome hedge =>
    cases h' with
    | applyOutcome hedge' => rw [Outcome.moves_agrees.deterministic.target_eq hedge hedge']
  | approve hgoes =>
    cases h' with
    | approve hgoes' => exact hgoes.unique hgoes'
  | requestReview hgoes =>
    cases h' with
    | requestReview hgoes' => exact hgoes.unique hgoes'

/-! ## The requests -/

/-- **A request for a value of a task.** It is an update of the status, an approval decision or a
request for review. -/
inductive Brings (team : String) (id : Int) : Submission → Confirmed → Prop where
  | status (target : TaskStatus) (decides : Bool) :
      Brings team id (.status team id target decides) (.status target)
  | decision (outcome : Outcome) (predicted : String) :
      Brings team id (.decision team id outcome predicted) (.stage predicted)
  | review (predicted : String) : Brings team id (.review team id predicted) (.stage predicted)

theorem checkOutcome_of_edge (team : String) (id : Int) {current target : TaskStatus}
    {outcome : Outcome} (decides : Bool)
    (h : ⟨current, outcome, target⟩ ∈ Outcome.moves.edges) :
    Transition.checkOutcome team id current outcome decides
      = .ok (.status team id target decides) := by
  rw [Transition.checkOutcome, Outcome.moves_agrees.next_eq_ok_iff.mpr h]
  rfl

/-- The check of a decision, and of a request for review: by the stage of the task, or by its status
if it has none. -/
def Task.checkGoing (t : Task) (team : String) (outcome : Outcome) (decides : Bool)
    (request : String → Submission) : Except TransitionError Submission :=
  match t.currentStage with
  | none => Transition.checkOutcome team t.id t.status outcome decides
  | some stage => do
    let predicted ← refusing (Workflow.review.nextStage stage outcome)
    return request predicted

theorem check_approve (team : String) (task : Task) (outcome : Outcome) :
    (Transition.approve team task outcome).check
      = task.checkGoing team outcome true (.decision team task.id outcome) :=
  rfl

theorem check_requestReview (team : String) (task : Task) :
    (Transition.requestReview team task).check
      = task.checkGoing team .submitForReview false (.review team task.id) :=
  rfl

theorem checkGoing_of_goes {task : Task} {outcome : Outcome} {v : Confirmed}
    (hgoes : task.Goes outcome v) (team : String) (decides : Bool)
    {request : String → Submission}
    (hrequest : ∀ target, Brings team task.id (request target) (.stage target)) :
    ∃ s, task.checkGoing team outcome decides request = .ok s ∧ Brings team task.id s v := by
  unfold Task.checkGoing
  cases hgoes with
  | status hstage hedge =>
    rw [hstage]
    exact ⟨_, checkOutcome_of_edge team task.id decides hedge, .status _ decides⟩
  | stage hstage hedge =>
    rw [hstage]
    simp only [Workflow.review_accepted.nextStage_eq_ok_iff.mpr hedge]
    exact ⟨_, rfl, hrequest _⟩

/-- The check of such a change passes, with a request for the value to which it leads. -/
theorem check_of_leads {t : Transition} {v : Confirmed} (h : t.Leads v) :
    ∃ s id, t.check = .ok s ∧ t.taskId? = some id ∧ Brings t.team id s v := by
  cases h with
  | @move team id current next target hedge =>
    refine ⟨.status team id target false, id, ?_, rfl, .status target false⟩
    rw [Transition.check, TaskStatus.moves_agrees.next_eq_ok_iff.mpr hedge]
    rfl
  | @applyOutcome team id current target outcome hedge =>
    exact ⟨_, id, checkOutcome_of_edge team id false hedge, rfl, .status target false⟩
  | @approve team task outcome v hgoes =>
    rw [check_approve]
    obtain ⟨s, hcheck, hs⟩ := checkGoing_of_goes hgoes team true (.decision outcome)
    exact ⟨s, task.id, hcheck, rfl, hs⟩
  | @requestReview team task v hgoes =>
    rw [check_requestReview]
    obtain ⟨s, hcheck, hs⟩ := checkGoing_of_goes hgoes team false .review
    exact ⟨s, task.id, hcheck, rfl, hs⟩

theorem ok_of_refusing {α : Type} {x : Except WorkflowError α} {request : α → Submission}
    {s : Submission} (h : (do let a ← refusing x; return request a) = Except.ok s) :
    ∃ a, x = .ok a := by
  cases x with
  | error e => cases h
  | ok a => exact ⟨a, rfl⟩

theorem goes_of_checkGoing {task : Task} {team : String} {outcome : Outcome} {decides : Bool}
    {request : String → Submission} {s : Submission}
    (h : task.checkGoing team outcome decides request = .ok s) : ∃ v, task.Goes outcome v := by
  unfold Task.checkGoing at h
  cases hstage : task.currentStage with
  | none =>
    rw [hstage] at h
    obtain ⟨target, htarget⟩ := ok_of_refusing h
    exact ⟨_, .status hstage (Outcome.moves_agrees.next_eq_ok_iff.mp htarget)⟩
  | some stage =>
    rw [hstage] at h
    obtain ⟨target, htarget⟩ := ok_of_refusing h
    exact ⟨_, .stage hstage (Workflow.review_accepted.nextStage_eq_ok_iff.mp htarget)⟩

/-- A change that moves a task passes its check only if it leads somewhere. -/
theorem leads_of_check {t : Transition} (hmoves : t.MovesTask) {s : Submission}
    (h : t.check = .ok s) : ∃ v, t.Leads v := by
  cases t with
  | move team id current next =>
    obtain ⟨target, htarget⟩ := ok_of_refusing h
    exact ⟨_, .move (TaskStatus.moves_agrees.next_eq_ok_iff.mp htarget)⟩
  | applyOutcome team id current outcome =>
    obtain ⟨target, htarget⟩ := ok_of_refusing h
    exact ⟨_, .applyOutcome (Outcome.moves_agrees.next_eq_ok_iff.mp htarget)⟩
  | approve team task outcome =>
    rw [check_approve] at h
    obtain ⟨v, hgoes⟩ := goes_of_checkGoing h
    exact ⟨v, .approve hgoes⟩
  | requestReview team task =>
    rw [check_requestReview] at h
    obtain ⟨v, hgoes⟩ := goes_of_checkGoing h
    exact ⟨v, .requestReview hgoes⟩
  | _ => exact absurd hmoves not_false

/-! ## The answer -/

/-- The value that counts: what the answer reports, or else what was expected. -/
def Submission.confirmed (s : Submission) (answer : s.call.Answer) (expected : Confirmed) :
    Confirmed :=
  (s.call.reported? answer).getD expected

/-- What is told of a value of a task. -/
def Confirmed.told (v : Confirmed) (team : String) (id : Int) : Confirmation :=
  ⟨team, id, v.status?, v.stage?⟩

/-- **How such a request is answered.** It is refused; or the value that counts is laid over the
view and reported, whichever request it was, and only the queue may change besides. -/
inductive Answered (team : String) (id : Int) (s : Submission) (expected : Confirmed) (d : Desk)
    (answer : s.call.Answer) : Prop where
  | refused (hrefuses : s.call.accepts answer = false)
      (hsettle : s.settle d answer = .error (.rejected id))
  | taken (haccepts : s.call.accepts answer = true) {queue : ApprovalQueue}
      (hsettle : s.settle d answer
        = .ok (⟨(d.view.overlay team id (s.confirmed answer expected).apply).1, queue⟩,
            (d.view.overlay team id (s.confirmed answer expected).apply).2.2,
            (s.confirmed answer expected).told team id))
      (hdeed : s.deed answer = .overlay team id (s.confirmed answer expected))

theorem answered_of_brings {team : String} {id : Int} {s : Submission} {expected : Confirmed}
    (hs : Brings team id s expected) (d : Desk) (answer : s.call.Answer) :
    Answered team id s expected d answer := by
  cases hs with
  | status target decides =>
    obtain ⟨_, status, _, _⟩ := (answer : TaskUpdate)
    cases status <;> cases decides <;> exact .taken rfl rfl rfl
  | decision outcome predicted =>
    obtain ⟨ok, stage⟩ := (answer : StageResponse)
    cases ok with
    | false => exact .refused rfl rfl
    | true => cases stage <;> exact .taken rfl rfl rfl
  | review predicted =>
    obtain ⟨ok, stage⟩ := (answer : StageResponse)
    cases ok with
    | false => exact .refused rfl rfl
    | true => cases stage <;> exact .taken rfl rfl rfl

/-- A refusing answer changes nothing. -/
theorem resume_of_refusing (o : Sync.Options) {team : String} {id : Int} {s : Submission}
    {expected : Confirmed} (hs : Brings team id s expected) (d : Desk) (answer : s.call.Answer)
    (hrefuses : s.call.accepts answer = false) :
    d.resume o (.change s) (.ok answer) = d.ended (.refused (.rejected id)) := by
  cases answered_of_brings hs d answer with
  | refused _ hsettle => simp only [Desk.resume, hsettle]
  | taken haccepts => cases hrefuses.symm.trans haccepts

theorem settle_of_accepting {team : String} {id : Int} {s : Submission} {expected : Confirmed}
    (hs : Brings team id s expected) (d : Desk) (answer : s.call.Answer)
    (haccepts : s.call.accepts answer = true) :
    s.deed answer = .overlay team id (s.confirmed answer expected)
      ∧ ∃ queue, s.settle d answer
          = .ok (⟨(d.view.overlay team id (s.confirmed answer expected).apply).1, queue⟩,
              (d.view.overlay team id (s.confirmed answer expected).apply).2.2,
              (s.confirmed answer expected).told team id) := by
  cases answered_of_brings hs d answer with
  | refused hrefuses => cases hrefuses.symm.trans haccepts
  | taken _ hsettle hdeed => exact ⟨hdeed, _, hsettle⟩

/-! ### What the overlay changes -/

theorem updateFirst_of_split {before after : List Task} {x : Task} {id : Int} (hx : x.id = id)
    (hbefore : ∀ y ∈ before, y.id ≠ id) (change : Task → Task) :
    State.updateFirst (before ++ x :: after) id change = before ++ change x :: after := by
  induction before with
  | nil =>
    show (if x.id = id then _ else _) = _
    rw [if_pos hx]
    rfl
  | cons y before ih =>
    obtain ⟨hy, hbefore⟩ := List.forall_mem_cons.mp hbefore
    show (if y.id = id then _ else _) = _
    rw [if_neg hy]
    exact congrArg (y :: ·) (ih hbefore)

/-- Of the tasks, only the first one with the id is changed. -/
theorem overlay_held {s : State} {team : String} (hteam : s.snapshot.selectedTeam = some team)
    {before after : List Task} {x : Task} {id : Int}
    (hsplit : s.snapshot.tasks = before ++ x :: after) (hx : x.id = id)
    (hbefore : ∀ y ∈ before, y.id ≠ id) (change : Task → Task) :
    (s.overlay team id change).1 =
      { s with
        snapshot := { s.snapshot with tasks := before ++ change x :: after }
        floor := s.seq
        optimistic := if s.optimistic.contains id then s.optimistic else id :: s.optimistic } := by
  have hheld : s.snapshot.tasks.any (·.id = id) = true := by
    rw [hsplit, List.any_eq_true]
    exact ⟨x, List.mem_append_right before List.mem_cons_self, decide_eq_true hx⟩
  rw [overlay_selected hteam, if_pos hheld, hsplit, updateFirst_of_split hx hbefore]

theorem overlay_absent {s : State} {team : String} (hteam : s.snapshot.selectedTeam = some team)
    {id : Int} (habsent : ∀ y ∈ s.snapshot.tasks, y.id ≠ id) (change : Task → Task) :
    (s.overlay team id change).1 = { s with floor := s.seq } := by
  have hheld : ¬ s.snapshot.tasks.any (·.id = id) = true := by
    rw [List.any_eq_true]
    rintro ⟨y, hy, hid⟩
    exact habsent y hy (of_decide_eq_true hid)
  rw [overlay_selected hteam, if_neg hheld]

theorem overlay_numbers {s : State} {team : String} (hteam : s.snapshot.selectedTeam = some team)
    (id : Int) (change : Task → Task) :
    (s.overlay team id change).1.snapshot.selectedTeam = some team
      ∧ (s.overlay team id change).1.epoch = s.epoch
      ∧ (s.overlay team id change).1.seq = s.seq
      ∧ (s.overlay team id change).1.floor = s.seq := by
  rw [overlay_selected hteam]
  split <;> exact ⟨hteam, rfl, rfl, rfl⟩

/-! ### The rest of the step -/

/-- **The answer while another team is selected.** The view stays as it is, and no refresh is
issued. -/
theorem resume_aside (o : Sync.Options) {team : String} {id : Int} {s : Submission}
    {expected : Confirmed} (hs : Brings team id s expected) (d : Desk) (answer : s.call.Answer)
    (haccepts : s.call.accepts answer = true)
    (hteam : d.view.snapshot.selectedTeam ≠ some team) :
    ∃ queue, d.resume o (.change s) (.ok answer)
      = ⟨⟨d.view, queue⟩, [], .done (.changed ⟨id, (s.confirmed answer expected).status?,
          (s.confirmed answer expected).stage?, .noTeam, false⟩) none⟩ := by
  obtain ⟨_, queue, hsettle⟩ := settle_of_accepting hs d answer haccepts
  rw [overlay_other hteam] at hsettle
  refine ⟨queue, ?_⟩
  simp only [Desk.resume, hsettle]
  exact if_neg hteam

/-- **The answer while the team is selected.** The value is laid over the view, and a refresh is
issued. -/
theorem resume_shown (o : Sync.Options) {team : String} {id : Int} {s : Submission}
    {expected : Confirmed} (hs : Brings team id s expected) (d : Desk) (answer : s.call.Answer)
    (haccepts : s.call.accepts answer = true)
    (hteam : d.view.snapshot.selectedTeam = some team) :
    ∃ queue told, d.resume o (.change s) (.ok answer)
      = ⟨⟨withRefresh (d.view.overlay team id (s.confirmed answer expected).apply).1, queue⟩, told,
          .wait (.refresh ⟨team, d.view.epoch, d.view.seq + 1⟩
            (.confirmed ((s.confirmed answer expected).told team id)))⟩ := by
  obtain ⟨_, queue, hsettle⟩ := settle_of_accepting hs d answer haccepts
  obtain ⟨hselected, hepoch, hseq, _⟩ :=
    overlay_numbers hteam id (s.confirmed answer expected).apply
  have hstep : d.resume o (.change s) (.ok answer)
      = Desk.refresh o ⟨(d.view.overlay team id (s.confirmed answer expected).apply).1, queue⟩
          (d.view.overlay team id (s.confirmed answer expected).apply).2.2
          (.confirmed ((s.confirmed answer expected).told team id)) := by
    simp only [Desk.resume, hsettle]
    exact if_pos hselected
  rw [hstep, refresh_of_selected o hselected]
  exact ⟨queue, _, by rw [hepoch, hseq]⟩

/-! ## The refresh that follows -/

/-- **Nothing is lost before a failure.** If the refresh that a moment issued just above the floor
fails in time, then nothing has been superseded since, and the lists are as the moment left
them. -/
theorem lists_kept_until_failure {o : Sync.Options} {later earlier : List Moment} {m : Moment}
    {c : Scene} {t : Sync.Ticket} {after : AfterRefresh}
    {reply : (Waiting.refresh t after).Reply} (h : Run o (later ++ m :: earlier) c)
    (hm : m.issues o t) (hfloor : (m.after o).view.floor = m.scene.view.seq)
    (hfailed : (c.view.settleRefresh t reply).2.1.isFailed = true) :
    SameLists (m.after o).view (c.after o (.answer (.refresh t after) reply)).view := by
  obtain ⟨hcurrent, e, rfl⟩ := of_settleRefresh_failed hfailed
  obtain ⟨hepoch, _, habove⟩ := (isCurrent_iff _ _).mp hcurrent
  obtain ⟨_, htepoch, htseq, hview⟩ := ticket_of_issues hm
  obtain ⟨_, hgrown, _⟩ := h.after_guard_le
  rw [seq_done] at htseq
  have hseq : (m.after o).view.seq = m.scene.view.seq + 1 := by
    rw [hview]
    exact congrArg (· + 1) (seq_done m)
  -- between the floor of the moment and its own number the floor cannot have risen
  have hquiet := (guard_kept_iff_quiet h (by omega)).mp ⟨by rw [after_epoch]; omega, by omega⟩
  refine (h.sameLists hquiet).trans ?_
  show SameLists c.view (c.view.settleRefresh t (.error e)).1
  rw [settleRefresh_error hcurrent]
  exact ⟨rfl, rfl, rfl, rfl⟩

/-! ## The headline -/

/-- **Confirmed aside.** The step leaves the view alone and tells observers nothing; the receipt has
the value, no refresh and no retry. -/
structure Step.ConfirmsAside (step : Step) (s : State) (id : Int) (v : Confirmed) : Prop where
  view : step.desk.view = s
  events : step.events = []
  receipt : step.next = .done (.changed ⟨id, v.status?, v.stage?, .noTeam, false⟩) none

/-- **Confirmed and shown.** The moment lays the value over the first task with the id and issues
the refresh `t`; nothing else of the view changes. -/
structure Moment.ConfirmsShown (o : Sync.Options) (m : Moment) (team : String) (id : Int)
    (v : Confirmed) (t : Sync.Ticket) : Prop where
  asks : (m.scene.turn o m.action).asks = some (.refresh t (.confirmed (v.told team id)))
  held : ∀ before x after, m.scene.view.snapshot.tasks = before ++ x :: after → x.id = id →
    (∀ y ∈ before, y.id ≠ id) →
    (m.after o).view =
      { m.scene.view with
        snapshot := { m.scene.view.snapshot with tasks := before ++ v.apply x :: after }
        floor := m.scene.view.seq
        optimistic :=
          if m.scene.view.optimistic.contains id then m.scene.view.optimistic
          else id :: m.scene.view.optimistic
        seq := m.scene.view.seq + 1
        phase := .loading }
  absent : (∀ y ∈ m.scene.view.snapshot.tasks, y.id ≠ id) →
    (m.after o).view =
      { m.scene.view with
        floor := m.scene.view.seq
        seq := m.scene.view.seq + 1
        phase := .loading }
  /-- However the refresh ends, the receipt has the value and that end. -/
  receipt : ∀ (d : Desk) (reply : (Waiting.refresh t (.confirmed (v.told team id))).Reply),
    ∃ retry, (d.resume o (.refresh t (.confirmed (v.told team id))) reply).next
      = .done (.changed ⟨id, v.status?, v.stage?, (d.view.settleRefresh t reply).2.1,
          retry.isSome⟩) retry
  /-- If the refresh fails, the board shows what it showed after the moment. -/
  failure : ∀ later earlier c (reply : (Waiting.refresh t (.confirmed (v.told team id))).Reply),
    Run o (later ++ m :: earlier) c → (c.view.settleRefresh t reply).2.1.isFailed = true →
    SameLists (m.after o).view
        (c.after o (.answer (.refresh t (.confirmed (v.told team id))) reply)).view
      ∧ ((∃ x ∈ m.scene.view.snapshot.tasks, x.id = id) →
          Shows (c.after o (.answer (.refresh t (.confirmed (v.told team id))) reply)).view id v)

theorem confirmsShown_of_brings (o : Sync.Options) {team : String} {id : Int} {s : Submission}
    {expected : Confirmed} (hs : Brings team id s expected) (c : Scene) (answer : s.call.Answer)
    (haccepts : s.call.accepts answer = true)
    (hteam : c.view.snapshot.selectedTeam = some team) :
    Moment.ConfirmsShown o ⟨c, .answer (.change s) (.ok answer)⟩ team id
      (s.confirmed answer expected) ⟨team, c.view.epoch, c.view.seq + 1⟩ := by
  obtain ⟨queue, told, hstep⟩ := resume_shown o hs c.desk answer haccepts hteam
  let v := s.confirmed answer expected
  let m : Moment := ⟨c, .answer (.change s) (.ok answer)⟩
  have hasks : (c.turn o m.action).asks
      = some (.refresh ⟨team, c.view.epoch, c.view.seq + 1⟩ (.confirmed (v.told team id))) := by
    show (c.desk.resume o (.change s) (.ok answer)).asks = _
    rw [hstep]
    rfl
  have hview : (m.after o).view = withRefresh (c.view.overlay team id v.apply).1 := by
    show (c.desk.resume o (.change s) (.ok answer)).desk.view = _
    rw [hstep]
  refine ⟨hasks, ?_, ?_, fun d reply => ⟨_, rfl⟩, ?_⟩
  · intro before x after hsplit hx hbefore
    rw [hview, overlay_held hteam hsplit hx hbefore]
    rfl
  · intro habsent
    rw [hview, overlay_absent hteam habsent]
    rfl
  · intro later earlier c' reply hrun hfailed
    -- the overlay has raised the floor to the numbers issued so far, so the refresh is the next one
    have hdeed := (settle_of_accepting hs c.desk answer haccepts).1
    have hoverlays : m.overlays id v := ⟨team, hdeed, hteam⟩
    have hfloor : (m.after o).view.floor = c.view.seq := by
      rw [after_floor]
      exact (guard_of_overlays hoverlays).2.2
    have hsame := lists_kept_until_failure hrun ⟨_, hasks⟩ hfloor hfailed
    refine ⟨hsame, fun ⟨x, hx, hid⟩ => ?_⟩
    have hheld : c.view.snapshot.tasks.any (·.id = id) = true :=
      List.any_eq_true.mpr ⟨x, hx, decide_eq_true hid⟩
    exact (shows_after (shows_of_overlays hoverlays hheld)).of_eq hsame.tasks hsame.optimistic

/-- **What the server confirms is reported and shown.** A change that moves a task, and passes its
check, leads to one value by its table, and starts with a request that leaves the desk as it is.
Once the server accepts it, the value that counts is the one that the server reports, or else the one of
the table. If another team is selected then, the view stays as it is, and the receipt has the value
with no refresh and no retry. If the team of the task is selected, the value is laid over the first
task with its id, which is marked as optimistic; nothing else changes but the numbers and the phase,
with which a refresh is issued. The receipt has the value and the end of that refresh; and if the
refresh fails in time, the board still shows the value, in any run. -/
theorem confirmed_value_is_reported_and_shown {t : Transition} (hmoves : t.MovesTask)
    {s : Submission} (hcheck : t.check = .ok s) (o : Sync.Options) :
    ∃ expected id, t.Leads expected ∧ (∀ v, t.Leads v → v = expected) ∧ t.taskId? = some id
      ∧ (∀ d : Desk, d.start o (.change t) = ⟨d, [], .wait (.change s)⟩)
      ∧ ∀ (c : Scene) (answer : s.call.Answer),
          (s.call.accepts answer = false →
            c.desk.resume o (.change s) (.ok answer) = c.desk.ended (.refused (.rejected id)))
            ∧ (s.call.accepts answer = true →
                (c.view.snapshot.selectedTeam ≠ some t.team →
                  (c.desk.resume o (.change s) (.ok answer)).ConfirmsAside c.view id
                    (s.confirmed answer expected))
                  ∧ (c.view.snapshot.selectedTeam = some t.team →
                      ∃ ticket, Moment.ConfirmsShown o ⟨c, .answer (.change s) (.ok answer)⟩
                        t.team id (s.confirmed answer expected) ticket)) := by
  obtain ⟨expected, hleads⟩ := leads_of_check hmoves hcheck
  obtain ⟨s', id, hcheck', htask, hs⟩ := check_of_leads hleads
  obtain rfl : s' = s := Except.ok.inj (hcheck'.symm.trans hcheck)
  refine ⟨expected, id, hleads, fun v h => leads_unique hleads h, htask, fun d => ?_,
    fun c answer => ⟨resume_of_refusing o hs c.desk answer,
      fun haccepts => ⟨fun hteam => ?_, fun hteam => ?_⟩⟩⟩
  · simp only [Desk.start, hcheck]
  · obtain ⟨queue, hstep⟩ := resume_aside o hs c.desk answer haccepts hteam
    rw [hstep]
    exact ⟨rfl, rfl, rfl⟩
  · exact ⟨_, confirmsShown_of_brings o hs c answer haccepts hteam⟩

/-- A task is moved to the next column. -/
def asking : List Moment × Scene :=
  played ⟨200, 3, 200⟩
    [.start (.change (.move "alpha" 7 .todo .inProgress)),
      .answer (.refresh ⟨"alpha", 1, 1⟩ .finish) (.ok ([openTask], [])), .start (.select "alpha")]

/-- The server has moved the task further than that. -/
def movedFurther : Moment where
  scene := asking.2
  action := .answer (.change (.status "alpha" 7 .inProgress false))
    (.ok (⟨some 7, some .inReview, none, none⟩ : TaskUpdate))

/-- The status that the server reported is shown, though the refresh that follows fails. -/
theorem reported_status_outlives_failure :
    (Transition.move "alpha" 7 .todo .inProgress).MovesTask
      ∧ (Transition.move "alpha" 7 .todo .inProgress).check
          = .ok (.status "alpha" 7 .inProgress false)
      ∧ (movedFurther.after ⟨200, 3, 200⟩).view.snapshot.tasks
          = [{ openTask with status := .inReview }]
      ∧ Shows ((movedFurther.after ⟨200, 3, 200⟩).after ⟨200, 3, 200⟩
          (.answer (.refresh ⟨"alpha", 1, 2⟩ (.confirmed ⟨"alpha", 7, some .inReview, none⟩))
            (.error (.transport "down")))).view 7 (.status .inReview) := by
  have hmoves : (Transition.move "alpha" 7 .todo .inProgress).MovesTask := trivial
  have hcheck : (Transition.move "alpha" 7 .todo .inProgress).check
      = .ok (.status "alpha" 7 .inProgress false) := rfl
  have hasked : Run ⟨200, 3, 200⟩ asking.1 asking.2 := run_played (by decide)
  have hrun : Run ⟨200, 3, 200⟩ (movedFurther :: asking.1) (movedFurther.after ⟨200, 3, 200⟩) :=
    .act _ hasked (by decide)
  obtain ⟨expected, id, _, hunique, hid, _, hanswer⟩ :=
    confirmed_value_is_reported_and_shown hmoves hcheck ⟨200, 3, 200⟩
  obtain rfl : .status .inProgress = expected := hunique _ (.move (by decide))
  obtain rfl : 7 = id := Option.some.inj hid
  obtain ⟨_, hshown⟩ :=
    (hanswer asking.2 (⟨some 7, some .inReview, none, none⟩ : TaskUpdate)).2 rfl
  obtain ⟨ticket, hticket⟩ := hshown rfl
  obtain rfl : ⟨"alpha", 1, 2⟩ = ticket := by
    obtain ⟨heq, _⟩ := Waiting.refresh.inj (Option.some.inj hticket.asks)
    exact heq
  have hview := hticket.held [] openTask [] rfl rfl (fun _ h => nomatch h)
  have hfailure := hticket.failure [] asking.1 _ (.error (.transport "down")) hrun (by decide)
  exact ⟨hmoves, hcheck, congrArg (·.snapshot.tasks) hview,
    hfailure.2 ⟨openTask, by decide, rfl⟩⟩

end TeamConsole
