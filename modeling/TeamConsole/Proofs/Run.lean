import TeamConsole.Desk

/-!
# Runs of the console

`Desk.start`, `Desk.resume` and `Desk.wake` are one step each. A run is any interleaving of such
steps: operations start, replies come in any order, retries wake at any time, and a value that
the server confirmed may be shown in between. This module says what a run is, and reads off each
action what it does to the view.

* **`Scene`**: the desk, the operations that wait for the server, and the retries that sleep.
* **`Scene.turn`**: one action, as the desk after it, what observers are told, and for what the
  operation waits or sleeps from then on.
* **`Run`**: the runs from a fresh console, with the moments that led to the scene reached.
* **`Scene.deed`**: the one thing that an action does to the view before it may issue a refresh.
  There are nine of them, far fewer than actions, and the proofs about runs are by the deeds.
* **`closes_turn`**: a turn is its deed, followed by the issue of a refresh or by nothing.
-/

namespace TeamConsole

/-! ## Scenes and actions -/

/-- A value of a task that the server has confirmed. -/
inductive Confirmed where
  | status (s : TaskStatus)
  | stage (s : String)
deriving DecidableEq, Repr

/-- The task with the value in its place. -/
def Confirmed.apply : Confirmed → Task → Task
  | status s, t => { t with status := s }
  | stage s, t => { t with currentStage := some s }

theorem Confirmed.apply_id (v : Confirmed) (t : Task) : (v.apply t).id = t.id := by
  cases v <;> rfl

/-- The task shows the value. -/
def Confirmed.ShownBy : Confirmed → Task → Prop
  | status s, t => t.status = s
  | stage s, t => t.currentStage = some s

/-- The desk and the operations under way. -/
structure Scene where
  desk : Desk := {}
  /-- The operations that wait for the server. -/
  waiting : List Waiting := []
  /-- The retries that wait for their delay. -/
  asleep : List Sync.Retry := []

/-- The view of the server in a scene. -/
abbrev Scene.view (c : Scene) : Sync.State :=
  c.desk.view

/-- What can happen next. -/
inductive Action where
  | start (op : Operation)
  /-- The replies for which an operation waits have come. -/
  | answer (w : Waiting) (reply : w.Reply)
  /-- The delay of a retry is over. -/
  | wake (r : Sync.Retry)
  /-- A value is shown that the server confirmed outside of any operation. -/
  | confirm (team : String) (id : Int) (v : Confirmed)
  /-- A task is taken off the approval queue outside of any operation. -/
  | drop (team : String) (id : Int)

/-- Whether an action shows a value that no operation brought. -/
def Action.isConfirm : Action → Bool
  | confirm .. => true
  | _ => false

/-- What one action does: the desk after it, what observers are told, and for what its operation
waits or sleeps from then on. -/
structure Turn where
  desk : Desk
  events : List Sync.Event
  asks : Option Waiting
  sleeps : Option Sync.Retry

/-- The operation for which the server is asked after a step. -/
def Step.asks (s : Step) : Option Waiting :=
  match s.next with
  | .wait w => some w
  | _ => none

theorem next_of_asks {s : Step} {w : Waiting} (h : s.asks = some w) : s.next = .wait w := by
  obtain ⟨d, told, next⟩ := s
  cases next <;> cases h
  rfl

/-- The retry that sleeps after a step: the operation itself, or one that it leaves behind. -/
def Step.sleeps (s : Step) : Option Sync.Retry :=
  match s.next with
  | .sleep r => some r
  | .done _ retry => retry
  | .wait _ => none

/-- A step without the result that it may have. -/
def Step.turn (s : Step) : Turn :=
  ⟨s.desk, s.events, s.asks, s.sleeps⟩

namespace Scene

/-- One action. -/
def turn (o : Sync.Options) (c : Scene) : Action → Turn
  | .start op => (c.desk.start o op).turn
  | .answer w reply => (c.desk.resume o w reply).turn
  | .wake r => (c.desk.wake o r).turn
  | .confirm team id (.status s) =>
    let (view, _, events) := c.view.confirmStatus team id s
    ⟨{ c.desk with view }, events, none, none⟩
  | .confirm team id (.stage s) =>
    let (view, _, events) := c.view.confirmStage team id s
    ⟨{ c.desk with view }, events, none, none⟩
  | .drop team id => ⟨{ c.desk with queue := c.desk.queue.remove team id }, [], none, none⟩

/-- An action can happen: what it answers waits, and what it wakes sleeps. -/
def Allows (c : Scene) : Action → Prop
  | .answer w _ => w ∈ c.waiting
  | .wake r => r ∈ c.asleep
  | _ => True

/-- The operations that go on waiting while an action happens. -/
def stillWaiting (c : Scene) : Action → List Waiting
  | .answer w _ => c.waiting.erase w
  | _ => c.waiting

/-- The retries that go on sleeping while an action happens. -/
def stillAsleep (c : Scene) : Action → List Sync.Retry
  | .wake r => c.asleep.erase r
  | _ => c.asleep

/-- The scene after an action. -/
def after (o : Sync.Options) (c : Scene) (a : Action) : Scene where
  desk := (c.turn o a).desk
  waiting := (c.turn o a).asks.toList ++ c.stillWaiting a
  asleep := (c.turn o a).sleeps.toList ++ c.stillAsleep a

end Scene

/-- An action, with the scene in which it happened. -/
structure Moment where
  scene : Scene
  action : Action

/-- **The runs of the console.** `Run o past c` says that the moments of `past`, the latest one
first, lead from a fresh console to the scene `c`. -/
inductive Run (o : Sync.Options) : List Moment → Scene → Prop where
  | fresh : Run o [] {}
  | act {past : List Moment} {c : Scene} (a : Action) (hrun : Run o past c) (ha : c.Allows a) :
      Run o (⟨c, a⟩ :: past) (c.after o a)

/-! ### Runs by their actions

The actions of a run determine its moments, so runs can be computed. -/

instance (c : Scene) (a : Action) : Decidable (c.Allows a) :=
  match a with
  | .start _ => isTrue trivial
  | .answer w _ => inferInstanceAs (Decidable (w ∈ c.waiting))
  | .wake r => inferInstanceAs (Decidable (r ∈ c.asleep))
  | .confirm .. => isTrue trivial
  | .drop .. => isTrue trivial

/-- The run whose actions are listed, the latest one first; none if one of them cannot happen. -/
def play (o : Sync.Options) : List Action → Option (List Moment × Scene)
  | [] => some ([], {})
  | a :: earlier =>
    (play o earlier).bind fun (past, c) =>
      if c.Allows a then some (⟨c, a⟩ :: past, c.after o a) else none

theorem run_of_play {o : Sync.Options} {actions : List Action} {past : List Moment} {c : Scene}
    (h : play o actions = some (past, c)) : Run o past c := by
  induction actions generalizing past c with
  | nil => cases h; exact .fresh
  | cons a earlier ih =>
    obtain ⟨⟨past', c'⟩, hearlier, hlast⟩ := Option.bind_eq_some_iff.mp h
    by_cases ha : c'.Allows a
    · simp only [if_pos ha] at hlast
      cases hlast
      exact .act a (ih hearlier) ha
    · simp only [if_neg ha] at hlast
      cases hlast

/-- The moments and the last scene of the run whose actions are listed. -/
def played (o : Sync.Options) (actions : List Action) : List Moment × Scene :=
  (play o actions).getD ([], {})

theorem run_played {o : Sync.Options} {actions : List Action}
    (h : (play o actions).isSome = true) : Run o (played o actions).1 (played o actions).2 := by
  obtain ⟨run, hplay⟩ := Option.isSome_iff_exists.mp h
  rw [played, hplay]
  exact run_of_play hplay

/-! ## The deed of an action

An action does at most one thing to the view before it issues a refresh. The deed names it with
all its data; `Deed.apply` says what it does. -/

/-- What an action does to the view, the issue of a refresh apart. -/
inductive Deed where
  | idle
  /-- The list of teams is asked for, or the allowlist, or both. -/
  | ask (teams network : Bool)
  | takeTeams (seq : Nat) (teams : List TeamSummary)
  | takeNetwork (seq : Nat) (network : NetworkAllowlist)
  | begin (teamsSeq networkSeq : Nat) (b : Bootstrap)
  | failBegin (e : GatewayError)
  | select (name : String)
  | settle (t : Sync.Ticket) (reply : Except GatewayError (List Task × List Agent))
  | overlay (team : String) (id : Int) (v : Confirmed)

/-- The view after a deed, and what observers are told. -/
def Deed.apply (s : Sync.State) : Deed → Sync.State × List Sync.Event
  | idle => (s, [])
  | ask teams network =>
    let s := if teams then s.issueTeams.1 else s
    (if network then s.issueNetwork.1 else s, [])
  | takeTeams seq teams =>
    match s.installTeams? seq teams with
    | some s => (s, [.teamsUpdated])
    | none => (s, [])
  | takeNetwork seq network =>
    match s.installNetwork? seq network with
    | some s => (s, [.networkUpdated])
    | none => (s, [])
  | begin teamsSeq networkSeq b => s.begin teamsSeq networkSeq b
  | failBegin e => s.failBootstrap e
  | select name => s.select name
  | settle t reply =>
    let (s, _, events) := s.settleRefresh t reply
    (s, events)
  | overlay team id v =>
    let (s, _, events) := s.overlay team id v.apply
    (s, events)

/-- What the answer to a change does to the view: the value that the server confirmed is shown,
its own word before what was expected. -/
def Submission.deed : (s : Submission) → s.call.Answer → Deed
  | status team id target _, (answer : TaskUpdate) =>
    .overlay team id (.status (answer.status.getD target))
  | decision team id _ predicted, (answer : StageResponse) =>
    if answer.ok then .overlay team id (.stage (answer.currentStage.getD predicted)) else .idle
  | review team id predicted, (answer : StageResponse) =>
    if answer.ok then .overlay team id (.stage (answer.currentStage.getD predicted)) else .idle
  | verdict team id _ predicted, (answer : Ack) =>
    match answer.ok, predicted with
    | true, some stage => .overlay team id (.stage stage)
    | _, _ => .idle
  | newTask .., _ => .idle
  | assignee .., _ => .idle

/-- The deed with which an operation starts while a team is selected, or none is. -/
def Operation.deed (selected : Option String) : Operation → Deed
  | bootstrap => .ask true true
  | select name => .select name
  | refreshTeams => .ask true false
  | refreshNetwork => .ask false true
  | notify n =>
    match NotifyAction.plan selected n with
    | .refreshTeams => .ask true false
    | .refreshNetwork => .ask false true
    | _ => .idle
  | refresh | refreshWithRetry | loadQueue _ | change _ => .idle

/-- The deed with which an operation goes on after a reply. -/
def Waiting.deed : (w : Waiting) → w.Reply → Deed
  | bootstrap .., .error e => .failBegin e
  | bootstrap teamsSeq networkSeq, .ok (b : Bootstrap) => .begin teamsSeq networkSeq b
  | refresh t _, reply => .settle t reply
  | teams seq _, .ok (found : List TeamSummary) => .takeTeams seq found
  | network seq _, .ok (found : NetworkAllowlist) => .takeNetwork seq found
  | change s, .ok answer => s.deed answer
  | _, _ => .idle

/-- The deed of an action. -/
def Scene.deed (c : Scene) : Action → Deed
  | .start op => op.deed c.view.snapshot.selectedTeam
  | .answer w reply => w.deed reply
  | .wake _ => .idle
  | .confirm team id v => .overlay team id v
  | .drop .. => .idle

/-- The view after the deed of an action, before a refresh is issued. -/
def Scene.done (c : Scene) (a : Action) : Sync.State :=
  ((c.deed a).apply c.view).1

/-- Whether it is the lists of the selected team that are waited for. -/
def Waiting.isRefresh : Waiting → Bool
  | refresh .. => true
  | _ => false

/-- **How a turn closes.** After its deed a turn either issues a refresh of the selected team and
waits for it, or leaves the view as it is and waits for no refresh. -/
inductive Closes (s : Sync.State) (told : List Sync.Event) (turn : Turn) : Prop where
  | issue {view : Sync.State} {t : Sync.Ticket} {more : List Sync.Event} {after : AfterRefresh}
      (hissue : s.issueTicket? = some (view, t, more)) (hview : turn.desk.view = view)
      (htold : turn.events = told ++ more) (hasks : turn.asks = some (.refresh t after))
  | rest (hview : turn.desk.view = s) (htold : turn.events = told)
      (hasks : ∀ w, turn.asks = some w → w.isRefresh = false)

/-! ### Every turn closes on its deed

One lemma for each way in which a step can go on, then one for each of `Desk.start`,
`Desk.resume` and `Desk.wake`. -/

theorem closes_done (d : Desk) (told : List Sync.Event) (r : Result) (retry : Option Sync.Retry) :
    Closes d.view told (Step.turn ⟨d, told, .done r retry⟩) :=
  .rest rfl rfl (fun _ h => nomatch h)

theorem closes_sleep (d : Desk) (told : List Sync.Event) (r : Sync.Retry) :
    Closes d.view told (Step.turn ⟨d, told, .sleep r⟩) :=
  .rest rfl rfl (fun _ h => nomatch h)

theorem closes_wait (d : Desk) (told : List Sync.Event) {w : Waiting} (hw : w.isRefresh = false) :
    Closes d.view told (Step.turn ⟨d, told, .wait w⟩) :=
  .rest rfl rfl (fun _ h => Option.some.inj h ▸ hw)

theorem closes_afterRefresh (o : Sync.Options) (d d' : Desk) (told : List Sync.Event)
    (outcome : Sync.Outcome) (after : AfterRefresh) :
    Closes d.view told (Step.turn ⟨d, told, d'.afterRefresh o outcome after⟩) := by
  cases after with
  | retry r =>
    unfold Desk.afterRefresh
    by_cases h : outcome.isFailed ∧ r.attempt + 1 < o.retryAttempts
    · simp only [if_pos h]
      exact closes_sleep d told _
    · simp only [if_neg h]
      exact closes_done d told _ _
  | _ => exact closes_done d told _ _

theorem closes_refresh (o : Sync.Options) (d : Desk) (told : List Sync.Event)
    (after : AfterRefresh) : Closes d.view told (d.refresh o told after).turn := by
  unfold Desk.refresh
  cases h : d.view.issueTicket? with
  | none =>
    -- no team is selected, and the operation goes on as if refreshed
    exact closes_afterRefresh o d d told .noTeam after
  | some issued =>
    obtain ⟨view, t, more⟩ := issued
    exact .issue h rfl rfl rfl

theorem closes_start (o : Sync.Options) (d : Desk) (op : Operation) :
    Closes ((op.deed d.view.snapshot.selectedTeam).apply d.view).1
      ((op.deed d.view.snapshot.selectedTeam).apply d.view).2 (d.start o op).turn := by
  cases op with
  | bootstrap => exact closes_wait { d with view := d.view.issueTeams.1.issueNetwork.1 } [] rfl
  | select name => exact closes_refresh o { d with view := (d.view.select name).1 } _ _
  | refresh => exact closes_refresh o d [] _
  | refreshWithRetry => exact closes_refresh o d [] _
  | refreshTeams => exact closes_wait { d with view := d.view.issueTeams.1 } [] rfl
  | refreshNetwork => exact closes_wait { d with view := d.view.issueNetwork.1 } [] rfl
  | loadQueue team => exact closes_wait { d with queue := d.queue.issueLoad team } [] rfl
  | notify n =>
    simp only [Desk.start, Operation.deed]
    cases NotifyAction.plan d.view.snapshot.selectedTeam n with
    | refreshSelected => exact closes_refresh o d [] _
    | refreshTeams => exact closes_wait { d with view := d.view.issueTeams.1 } [] rfl
    | refreshNetwork => exact closes_wait { d with view := d.view.issueNetwork.1 } [] rfl
    | ignore => exact closes_done d [] _ _
  | change t =>
    simp only [Desk.start, Operation.deed]
    cases t.check with
    | ok s => exact closes_wait d [] rfl
    | error e => exact closes_done d [] _ _

theorem closes_report (o : Sync.Options) (d : Desk) (told : List Sync.Event) (c : Confirmation) :
    Closes d.view told (d.report o told c).turn := by
  unfold Desk.report
  by_cases h : d.view.snapshot.selectedTeam = some c.team
  · rw [if_pos h]
    exact closes_refresh o d told _
  · rw [if_neg h]
    exact closes_done d told _ _

/-- **What the answer to a change comes to.** The server refused it, and the view stays; or the
view becomes what the deed says, and the change is reported for the team of its overlay. A task
may leave the queue besides. -/
inductive Settles (d : Desk) (deed : Deed) :
    Except TransitionError (Desk × List Sync.Event × Confirmation) → Prop where
  | refused {e : TransitionError} (hdeed : deed = .idle) : Settles d deed (.error e)
  | confirmed {d' : Desk} {told : List Sync.Event} {c : Confirmation}
      (happly : deed.apply d.view = (d'.view, told))
      (hteam : ∀ team id v, deed = .overlay team id v → c.team = team) :
      Settles d deed (.ok (d', told, c))

theorem settles (d : Desk) (s : Submission) (answer : s.call.Answer) :
    Settles d (s.deed answer) (s.settle d answer) := by
  cases s with
  | status team id target decides =>
    -- the view is the same, whether or not the task leaves the queue
    simp only [Submission.settle, Submission.deed]
    cases decides <;> exact .confirmed rfl (by rintro _ _ _ ⟨⟩; rfl)
  | decision team id outcome predicted =>
    simp only [Submission.settle, Submission.deed]
    split
    · exact .confirmed rfl (by rintro _ _ _ ⟨⟩; rfl)
    · exact .refused rfl
  | review team id predicted =>
    simp only [Submission.settle, Submission.deed]
    split
    · exact .confirmed rfl (by rintro _ _ _ ⟨⟩; rfl)
    · exact .refused rfl
  | verdict team id submitted predicted =>
    -- only a task with a stage is expected to move
    obtain ⟨ok⟩ := answer
    cases ok with
    | false => cases predicted <;> exact .refused rfl
    | true =>
      cases predicted with
      | none => exact .confirmed rfl (by rintro _ _ _ ⟨⟩)
      | some stage => exact .confirmed rfl (by rintro _ _ _ ⟨⟩; rfl)
  | newTask team task => exact .confirmed rfl (by rintro _ _ _ ⟨⟩)
  | assignee team id a => exact .confirmed rfl (by rintro _ _ _ ⟨⟩)

theorem closes_resume (o : Sync.Options) (d : Desk) (w : Waiting) (reply : w.Reply) :
    Closes ((w.deed reply).apply d.view).1 ((w.deed reply).apply d.view).2
      (d.resume o w reply).turn := by
  cases w with
  | bootstrap teamsSeq networkSeq =>
    cases reply with
    | error e => exact closes_done { d with view := (d.view.failBootstrap e).1 } _ _ _
    | ok b =>
      simp only [Desk.resume]
      split
      · -- the tasks of the team came along, so no refresh follows
        exact closes_done { d with view := (d.view.begin teamsSeq networkSeq b).1 } _ _ _
      · exact closes_refresh o { d with view := (d.view.begin teamsSeq networkSeq b).1 } _ _
  | refresh t after =>
    exact closes_afterRefresh o { d with view := (d.view.settleRefresh t reply).1 } _ _ _ _
  | teams seq notified =>
    cases reply with
    | error e => exact closes_done d [] _ _
    | ok found =>
      simp only [Desk.resume, Waiting.deed, Deed.apply]
      cases d.view.installTeams? seq found with
      | none => exact closes_done d [] _ _
      | some view => exact closes_done { d with view } _ _ _
  | network seq notified =>
    cases reply with
    | error e => exact closes_done d [] _ _
    | ok found =>
      simp only [Desk.resume, Waiting.deed, Deed.apply]
      cases d.view.installNetwork? seq found with
      | none => exact closes_done d [] _ _
      | some view => exact closes_done { d with view } _ _ _
  | queue team epoch =>
    cases reply with
    | error e => exact closes_done d [] _ _
    | ok found =>
      simp only [Desk.resume, Waiting.deed, Deed.apply]
      cases d.queue.install? epoch found with
      | none => exact closes_done d [] _ _
      | some queue => exact closes_done { d with queue } _ _ _
  | change s =>
    cases reply with
    | error e => exact closes_done d [] _ _
    | ok answer =>
      simp only [Desk.resume, Waiting.deed]
      have hsettles := settles d s answer
      cases h : s.settle d answer with
      | error e =>
        rw [h] at hsettles
        cases hsettles with
        | refused hdeed =>
          rw [hdeed]
          exact closes_done d [] _ _
      | ok settled =>
        rw [h] at hsettles
        cases hsettles with
        | @confirmed d' told c happly =>
          rw [happly]
          exact closes_report o d' told c

theorem closes_wake (o : Sync.Options) (d : Desk) (r : Sync.Retry) :
    Closes d.view [] (d.wake o r).turn := by
  unfold Desk.wake
  by_cases h : d.view.supersedes r
  · rw [if_pos h]
    exact closes_done d [] _ _
  · rw [if_neg h]
    exact closes_refresh o d [] _

/-- **Every turn closes on its deed.** -/
theorem closes_turn (o : Sync.Options) (c : Scene) (a : Action) :
    Closes (c.done a) ((c.deed a).apply c.view).2 (c.turn o a) := by
  cases a with
  | start op => exact closes_start o c.desk op
  | answer w reply => exact closes_resume o c.desk w reply
  | wake r => exact closes_wake o c.desk r
  | confirm team id v => cases v <;> exact .rest rfl rfl (fun _ h => nomatch h)
  | drop team id => exact .rest rfl rfl (fun _ h => nomatch h)

end TeamConsole
