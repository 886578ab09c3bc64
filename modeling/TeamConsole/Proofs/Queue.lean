import TeamConsole.Proofs.Change
import TeamConsole.Proofs.Freshness

/-!
# What a run does to the approval queue

The queue is written in three places only: where a load is issued, where its answer is installed,
and where a decided task is taken off. This module names them as deeds on the queue and follows
the numbers of the loads through a run.

* **`QueueDeed`**: what an action does to the queue, as data; `queue_turn` says that it is all.
* **`Moment.takesOff`**, **`Moment.loads`**, **`Moment.reports`**: a task is taken off, a load is
  issued, a load is answered with a task that waits for a decision.
* **`Numbered`**: the loads under way have numbers that were issued, and the one with the last
  number was issued for the team of the queue.
-/

namespace TeamConsole

/-! ## The deed of an action on the queue -/

/-- What an action does to the approval queue. -/
inductive QueueDeed where
  | keep
  | load (team : String)
  | install (epoch : Nat) (found : List Task)
  | takeOff (team : String) (id : Int)

def QueueDeed.apply (q : ApprovalQueue) : QueueDeed → ApprovalQueue
  | keep => q
  | load team => q.issueLoad team
  | install epoch found => (q.install? epoch found).getD q
  | takeOff team id => q.remove team id

/-- What the answer to a change does to the queue: a decision that the server took takes its task
off. -/
def Submission.queueDeed : (s : Submission) → s.call.Answer → QueueDeed
  | status team id _ decides, (_ : TaskUpdate) => if decides then .takeOff team id else .keep
  | decision team id _ _, (answer : StageResponse) =>
    if answer.ok then .takeOff team id else .keep
  | verdict team id _ _, (answer : Ack) => if answer.ok then .takeOff team id else .keep
  | review .., _ | newTask .., _ | assignee .., _ => .keep

/-- The deed with which an operation goes on after a reply. -/
def Waiting.queueDeed : (w : Waiting) → w.Reply → QueueDeed
  | queue _ epoch, .ok (found : List Task) => .install epoch found
  | change s, .ok answer => s.queueDeed answer
  | _, _ => .keep

def Action.queueDeed : Action → QueueDeed
  | .start (.loadQueue team) => .load team
  | .answer w reply => w.queueDeed reply
  | .drop team id => .takeOff team id
  | _ => .keep

theorem queue_refresh (o : Sync.Options) (d : Desk) (told : List Sync.Event)
    (after : AfterRefresh) : (d.refresh o told after).desk.queue = d.queue := by
  unfold Desk.refresh
  cases d.view.issueTicket? <;> rfl

theorem queue_report (o : Sync.Options) (d : Desk) (told : List Sync.Event) (c : Confirmation) :
    (d.report o told c).desk.queue = d.queue := by
  unfold Desk.report
  split
  · exact queue_refresh o d told _
  · rfl

theorem queue_wake (o : Sync.Options) (d : Desk) (r : Sync.Retry) :
    (d.wake o r).desk.queue = d.queue := by
  unfold Desk.wake
  split
  · rfl
  · exact queue_refresh o d [] _

theorem queue_start (o : Sync.Options) (d : Desk) (op : Operation) :
    (d.start o op).desk.queue = (Action.start op).queueDeed.apply d.queue := by
  cases op with
  | select name => exact queue_refresh o { d with view := (d.view.select name).1 } _ _
  | refresh => exact queue_refresh o d [] _
  | refreshWithRetry => exact queue_refresh o d [] _
  | notify n =>
    simp only [Desk.start]
    split
    · exact queue_refresh o d [] _
    all_goals rfl
  | change t =>
    simp only [Desk.start]
    split <;> rfl
  | _ => rfl

/-- A change that the server refused keeps the queue; any other does its deed. -/
theorem queue_settle (d : Desk) (s : Submission) (answer : s.call.Answer) :
    match s.settle d answer with
    | .ok (d', _, _) => d'.queue = (s.queueDeed answer).apply d.queue
    | .error _ => s.queueDeed answer = .keep := by
  cases s with
  | status team id target decides => cases decides <;> rfl
  | decision team id outcome predicted =>
    obtain ⟨ok, stage⟩ := answer
    cases ok <;> rfl
  | review team id predicted =>
    obtain ⟨ok, stage⟩ := answer
    cases ok <;> rfl
  | verdict team id submitted predicted =>
    obtain ⟨ok⟩ := answer
    cases ok <;> cases predicted <;> rfl
  | newTask team task => rfl
  | assignee team id a => rfl

theorem queue_resume (o : Sync.Options) (d : Desk) (w : Waiting) (reply : w.Reply) :
    (d.resume o w reply).desk.queue = (w.queueDeed reply).apply d.queue := by
  cases w with
  | bootstrap teamsSeq networkSeq =>
    cases reply with
    | error e => rfl
    | ok b =>
      simp only [Desk.resume]
      split
      · rfl
      · exact queue_refresh o { d with view := (d.view.begin teamsSeq networkSeq b).1 } _ _
  | refresh t after => rfl
  | teams seq notified =>
    cases reply with
    | error e => rfl
    | ok found =>
      simp only [Desk.resume]
      cases d.view.installTeams? seq found <;> rfl
  | network seq notified =>
    cases reply with
    | error e => rfl
    | ok found =>
      simp only [Desk.resume]
      cases d.view.installNetwork? seq found <;> rfl
  | queue team epoch =>
    cases reply with
    | error e => rfl
    | ok found =>
      simp only [Desk.resume, Waiting.queueDeed, QueueDeed.apply]
      cases d.queue.install? epoch found <;> rfl
  | change s =>
    cases reply with
    | error e => rfl
    | ok answer =>
      have hsettle := queue_settle d s answer
      simp only [Desk.resume, Waiting.queueDeed]
      cases h : s.settle d answer with
      | error e =>
        -- refused by the server: no deed, and no refresh
        rw [h] at hsettle
        rw [hsettle]
        rfl
      | ok settled =>
        obtain ⟨d', told, c⟩ := settled
        rw [h] at hsettle
        exact (queue_report o d' told c).trans hsettle

/-- **A turn does its deed on the queue, and nothing else.** -/
theorem queue_turn (o : Sync.Options) (c : Scene) (a : Action) :
    (c.turn o a).desk.queue = a.queueDeed.apply c.desk.queue := by
  cases a with
  | start op => exact queue_start o c.desk op
  | answer w reply => exact queue_resume o c.desk w reply
  | wake r => exact queue_wake o c.desk r
  | confirm team id v => cases v <;> rfl
  | drop team id => rfl

theorem queue_after (o : Sync.Options) (m : Moment) :
    (m.after o).desk.queue = m.action.queueDeed.apply m.scene.desk.queue :=
  queue_turn o m.scene m.action

/-! ## Loads under way -/

namespace Moment

/-- A decided task is taken off the queue. -/
def takesOff (m : Moment) (team : String) (id : Int) : Prop :=
  m.action.queueDeed = .takeOff team id

/-- A load of a team is issued, under the number that follows the last one. -/
def loads (m : Moment) (team : String) (epoch : Nat) : Prop :=
  m.action = .start (.loadQueue team) ∧ epoch = m.scene.desk.queue.epoch + 1

/-- The answer to a load tells of a task that waits for a decision. -/
def reports (m : Moment) (team : String) (epoch : Nat) (id : Int) : Prop :=
  ∃ found : List Task, m.action = .answer (.queue team epoch) (.ok found)
    ∧ ∃ t ∈ found, t.isPendingApproval = true ∧ t.id = id

end Moment

/-! Only the start of a load asks for one: after a reply or a delay, nothing but a refresh is asked
for. -/

theorem isRefresh_of_refreshing {s : Step} (hs : s.next.Refreshing) {w : Waiting}
    (h : s.asks = some w) : w.isRefresh = true := by
  rw [next_of_asks h] at hs
  exact hs

theorem isRefresh_of_resume_asks {o : Sync.Options} {d : Desk} {w : Waiting} {reply : w.Reply}
    {w' : Waiting} (h : (d.resume o w reply).asks = some w') : w'.isRefresh = true := by
  cases w with
  | bootstrap teamsSeq networkSeq =>
    cases reply with
    | error e => cases h
    | ok b =>
      simp only [Desk.resume] at h
      split at h
      · cases h
      · exact isRefresh_of_refreshing (refreshing_refresh o _ _ _) h
  | refresh t after => exact isRefresh_of_refreshing (refreshing_resume o d rfl reply) h
  | teams seq notified => cases reply <;> cases h
  | network seq notified => cases reply <;> cases h
  | queue team epoch =>
    cases reply with
    | error e => cases h
    | ok found =>
      simp only [Desk.resume] at h
      split at h <;> cases h
  | change s =>
    rcases resume_change o d s reply with ⟨e, hrefused⟩ | hrefreshing
    · rw [hrefused] at h
      cases h
    · exact isRefresh_of_refreshing hrefreshing h

theorem loads_of_asks {o : Sync.Options} {m : Moment} {team : String} {epoch : Nat}
    (h : (m.scene.turn o m.action).asks = some (.queue team epoch)) : m.loads team epoch := by
  obtain ⟨c, a⟩ := m
  cases a with
  | start op =>
    cases op with
    | loadQueue team' =>
      cases h
      exact ⟨rfl, rfl⟩
    | bootstrap => cases h
    | select name => cases isRefresh_of_refreshing (refreshing_refresh o _ _ _) h
    | refresh => cases isRefresh_of_refreshing (refreshing_refresh o _ _ _) h
    | refreshWithRetry => cases isRefresh_of_refreshing (refreshing_refresh o _ _ _) h
    | refreshTeams => cases h
    | refreshNetwork => cases h
    | notify n =>
      -- a notification may ask for a list, but never for the queue
      simp only [Scene.turn, Desk.start] at h
      split at h
      · cases isRefresh_of_refreshing (refreshing_refresh o _ _ _) h
      all_goals cases h
    | change t =>
      simp only [Scene.turn, Desk.start] at h
      split at h <;> cases h
  | answer w reply => cases isRefresh_of_resume_asks h
  | wake r => cases isRefresh_of_refreshing (refreshing_wake o c.desk r) h
  | confirm team' id v => cases v <;> cases h
  | drop team' id => cases h

theorem load_waiting_after {o : Sync.Options} {m : Moment} {team : String} {epoch : Nat}
    (h : .queue team epoch ∈ (m.after o).waiting) :
    .queue team epoch ∈ m.scene.waiting ∨ m.loads team epoch :=
  (waiting_or_asks h).imp_right loads_of_asks

/-! ### The numbers of the loads -/

/-- Only a load moves the number and the team of the queue. -/
theorem guard_of_not_load {d : QueueDeed} (hd : ∀ team, d ≠ .load team) (q : ApprovalQueue) :
    (d.apply q).epoch = q.epoch ∧ (d.apply q).team = q.team := by
  cases d with
  | keep => exact ⟨rfl, rfl⟩
  | load team => exact absurd rfl (hd team)
  | install epoch found =>
    rw [QueueDeed.apply, ApprovalQueue.install?]
    by_cases h : q.epoch = epoch
    · rw [if_pos h]
      exact ⟨rfl, rfl⟩
    · rw [if_neg h]
      exact ⟨rfl, rfl⟩
  | takeOff team id =>
    rw [QueueDeed.apply, ApprovalQueue.remove]
    by_cases h : q.team = some team
    · rw [if_pos h]
      exact ⟨rfl, rfl⟩
    · rw [if_neg h]
      exact ⟨rfl, rfl⟩

theorem queue_guard_after {o : Sync.Options} {m : Moment}
    (hm : ∀ team, m.action.queueDeed ≠ .load team) :
    (m.after o).desk.queue.epoch = m.scene.desk.queue.epoch
      ∧ (m.after o).desk.queue.team = m.scene.desk.queue.team := by
  rw [queue_after]
  exact guard_of_not_load hm m.scene.desk.queue

theorem load_waiting_before {o : Sync.Options} {m : Moment}
    (hm : ∀ team, m.action.queueDeed ≠ .load team) {team : String} {epoch : Nat}
    (h : .queue team epoch ∈ (m.after o).waiting) : .queue team epoch ∈ m.scene.waiting := by
  refine (load_waiting_after h).resolve_right ?_
  rintro ⟨haction, _⟩
  exact hm team (by rw [haction]; rfl)

/-- **Numbered.** No load under way has a number above that of the queue, and the one that has
this number was issued for the team of the queue. -/
structure Numbered (c : Scene) : Prop where
  le : ∀ {team : String} {epoch : Nat},
    .queue team epoch ∈ c.waiting → epoch ≤ c.desk.queue.epoch
  last : ∀ {team : String},
    .queue team c.desk.queue.epoch ∈ c.waiting → c.desk.queue.team = some team

/-- The answer to a change takes its task off the queue, or keeps the queue. -/
theorem Submission.queueDeed_cases (s : Submission) (answer : s.call.Answer) :
    s.queueDeed answer = .keep ∨ ∃ team id, s.queueDeed answer = .takeOff team id := by
  cases s with
  | status team id target decides =>
    cases decides with
    | false => exact Or.inl rfl
    | true => exact Or.inr ⟨team, id, rfl⟩
  | decision team id outcome predicted =>
    obtain ⟨ok, stage⟩ := answer
    cases ok with
    | false => exact Or.inl rfl
    | true => exact Or.inr ⟨team, id, rfl⟩
  | verdict team id submitted predicted =>
    obtain ⟨ok⟩ := answer
    cases ok with
    | false => exact Or.inl rfl
    | true => exact Or.inr ⟨team, id, rfl⟩
  | _ => exact Or.inl rfl

/-- The action behind each deed on the queue. -/
inductive QueueSource : Action → QueueDeed → Prop where
  | keep (a : Action) : QueueSource a .keep
  | load (team : String) : QueueSource (.start (.loadQueue team)) (.load team)
  | install (team : String) (epoch : Nat) (found : List Task) :
      QueueSource (.answer (.queue team epoch) (.ok found)) (.install epoch found)
  | decide {s : Submission} {answer : s.call.Answer} {team : String} {id : Int}
      (hs : s.queueDeed answer = .takeOff team id) :
      QueueSource (.answer (.change s) (.ok answer)) (.takeOff team id)
  | drop (team : String) (id : Int) : QueueSource (.drop team id) (.takeOff team id)

theorem queueDeed_source (a : Action) : QueueSource a a.queueDeed := by
  cases a with
  | start op =>
    cases op with
    | loadQueue team => exact .load team
    | _ => exact .keep _
  | answer w reply =>
    cases w with
    | queue team epoch =>
      cases reply with
      | error e => exact .keep _
      | ok found => exact .install team epoch found
    | change s =>
      cases reply with
      | error e => exact .keep _
      | ok answer =>
        change QueueSource _ (s.queueDeed answer)
        rcases s.queueDeed_cases answer with hkeep | ⟨team, id, htake⟩
        · rw [hkeep]
          exact .keep _
        · rw [htake]
          exact .decide htake
    | bootstrap teamsSeq networkSeq => cases reply <;> exact .keep _
    | refresh t after => cases reply <;> exact .keep _
    | teams seq notified => cases reply <;> exact .keep _
    | network seq notified => cases reply <;> exact .keep _
  | wake r => exact .keep _
  | confirm team id v => exact .keep _
  | drop team id => exact .drop team id

theorem Moment.queueSource {m : Moment} {d : QueueDeed} (h : m.action.queueDeed = d) :
    QueueSource m.action d :=
  h ▸ queueDeed_source m.action

theorem numbered_after (o : Sync.Options) {m : Moment} (h : Numbered m.scene) :
    Numbered (m.after o) := by
  have hqueue := queue_after o m
  by_cases hload : ∃ team, m.action.queueDeed = .load team
  · -- the load takes the next number, above those of all that were under way
    obtain ⟨team, hdeed⟩ := hload
    have hsource := Moment.queueSource hdeed
    rw [hdeed] at hqueue
    have hepoch : (m.after o).desk.queue.epoch = m.scene.desk.queue.epoch + 1 := by
      rw [hqueue]
      rfl
    refine ⟨?_, ?_⟩
    · intro team' epoch hwaiting
      rw [hepoch]
      rcases load_waiting_after hwaiting with hold | ⟨_, rfl⟩
      · exact Nat.le_succ_of_le (h.le hold)
      · exact Nat.le_refl _
    · intro team' hwaiting
      rw [hepoch] at hwaiting
      rcases load_waiting_after hwaiting with hold | ⟨hstart, _⟩
      · exact absurd (h.le hold) (Nat.not_succ_le_self _)
      · rw [hstart] at hsource
        cases hsource
        rw [hqueue]
        rfl
  · have hnone : ∀ team, m.action.queueDeed ≠ .load team := fun team hdeed => hload ⟨team, hdeed⟩
    obtain ⟨hepoch, hteam⟩ := queue_guard_after (o := o) hnone
    refine ⟨?_, ?_⟩
    · intro team epoch hwaiting
      rw [hepoch]
      exact h.le (load_waiting_before hnone hwaiting)
    · intro team hwaiting
      rw [hepoch] at hwaiting
      rw [hteam]
      exact h.last (load_waiting_before hnone hwaiting)

theorem Run.numbered {o : Sync.Options} {past : List Moment} {c : Scene} (h : Run o past c) :
    Numbered c := by
  induction h with
  | fresh => exact ⟨(fun h => nomatch h), (fun h => nomatch h)⟩
  | act a _ _ ih => exact numbered_after o (m := ⟨_, a⟩) ih

end TeamConsole
