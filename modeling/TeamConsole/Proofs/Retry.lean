import TeamConsole.Proofs.Loading
import TeamConsole.Proofs.QuietSpan
import TeamConsole.Proofs.RetryOrigin

/-!
# A retry stops as soon as it has lost its point

A retry sleeps, refreshes, and sleeps again if that fails too, while anything else may happen in
between. All that it remembers of the failure is the epoch and the floor, and all that it does when
it wakes is to compare them with those of the view. Here its course among the moments of a run is
held against the history since the failure.

* **`Follows`**: the course of one retry, with the refreshes that it issues (`Try`).
* **`wakes`**, **`next_of_try`**: its two steps.
* **`Follows.stands`**: how many tries there are, and how they ended, by the state of the retry.
* **`wake_issues_iff`**: it issues exactly if all moments since the failure were quiet.
* **`Follows.timely`**: every try was issued in time.
* **`Run.follows`**: every run has the course of its retry.
* **`retry_stops_when_pointless`**: the headline.
-/

namespace TeamConsole

open Sync (State)

theorem Run.drop {o : Sync.Options} {later past : List Moment} {c : Scene}
    (h : Run o (later ++ past) c) : ∃ c', Run o past c' := by
  induction later generalizing c with
  | nil => exact ⟨c, h⟩
  | cons x later ih => exact ih h.last.1

/-! ## The course of a retry -/

/-- A refresh that a retry has issued. -/
structure Try where
  ticket : Sync.Ticket
  /-- The moments between the failure and the issue, the latest one first. -/
  since : List Moment
  /-- How the refresh ended, once it has. -/
  outcome : Option Sync.Outcome

/-- How far a retry has come. -/
inductive RetryState where
  | asleep (r : Sync.Retry)
  | waiting (t : Sync.Ticket) (r : Sync.Retry)
  | ended (outcome : Sync.Outcome)

/-- The retry goes on sleeping or waiting while the moment happens. Another retry that looks the
same may wake in it. -/
def RetryState.RestsIn (m : Moment) : RetryState → Prop
  | asleep r => r ∈ m.scene.stillAsleep m.action
  | waiting t r => .refresh t (.retry r) ∈ m.scene.stillWaiting m.action
  | ended _ => True

/-- **The course of a retry.** While the moments `later` happen, the latest one first, the retry
that slept as `r₀` before them issues `tries`, the latest one first, and comes to the state. -/
inductive Follows (o : Sync.Options) (r₀ : Sync.Retry) :
    List Moment → List Try → RetryState → Prop where
  | sleeps : Follows o r₀ [] [] (.asleep r₀)
  /-- Something else happens. -/
  | rests {later : List Moment} {tries : List Try} {s : RetryState} {m : Moment}
      (h : Follows o r₀ later tries s) (hm : s.RestsIn m) : Follows o r₀ (m :: later) tries s
  | issues {later : List Moment} {tries : List Try} {c : Scene} {r : Sync.Retry} {t : Sync.Ticket}
      (h : Follows o r₀ later tries (.asleep r))
      (hnext : (c.desk.wake o r).next = .wait (.refresh t (.retry r))) :
      Follows o r₀ (⟨c, .wake r⟩ :: later) (⟨t, later, none⟩ :: tries) (.waiting t r)
  /-- The retry wakes and issues nothing. -/
  | quits {later : List Moment} {tries : List Try} {c : Scene} {r : Sync.Retry}
      {outcome : Sync.Outcome} (h : Follows o r₀ later tries (.asleep r))
      (hnext : (c.desk.wake o r).next = .done (.refreshed outcome) none) :
      Follows o r₀ (⟨c, .wake r⟩ :: later) tries (.ended outcome)
  | sleepsAgain {later since : List Moment} {tries : List Try} {c : Scene} {r r' : Sync.Retry}
      {t : Sync.Ticket} {reply : (Waiting.refresh t (.retry r)).Reply}
      (h : Follows o r₀ later (⟨t, since, none⟩ :: tries) (.waiting t r))
      (hnext : (c.desk.resume o (.refresh t (.retry r)) reply).next = .sleep r') :
      Follows o r₀ (⟨c, .answer (.refresh t (.retry r)) reply⟩ :: later)
        (⟨t, since, some (c.view.settleRefresh t reply).2.1⟩ :: tries) (.asleep r')
  | ends {later since : List Moment} {tries : List Try} {c : Scene} {r : Sync.Retry}
      {t : Sync.Ticket} {reply : (Waiting.refresh t (.retry r)).Reply} {outcome : Sync.Outcome}
      (h : Follows o r₀ later (⟨t, since, none⟩ :: tries) (.waiting t r))
      (hnext : (c.desk.resume o (.refresh t (.retry r)) reply).next
        = .done (.refreshed outcome) none) :
      Follows o r₀ (⟨c, .answer (.refresh t (.retry r)) reply⟩ :: later)
        (⟨t, since, some (c.view.settleRefresh t reply).2.1⟩ :: tries) (.ended outcome)

/-! ### One step of a retry -/

/-- **A retry wakes.** It ends as too late if the numbers have changed, and otherwise refreshes the
selected team, if there is one. -/
inductive Wakes (o : Sync.Options) (d : Desk) (r : Sync.Retry) : Next → Prop where
  | late (h : d.view.supersedes r = true) : Wakes o d r (.done (.refreshed .stale) none)
  | unselected (h : d.view.supersedes r = false) (hteam : d.view.snapshot.selectedTeam = none) :
      Wakes o d r (.done (.refreshed .noTeam) none)
  | issue {team : String} (h : d.view.supersedes r = false)
      (hteam : d.view.snapshot.selectedTeam = some team) :
      Wakes o d r (.wait (.refresh ⟨team, d.view.epoch, d.view.seq + 1⟩ (.retry r)))

theorem wakes (o : Sync.Options) (d : Desk) (r : Sync.Retry) :
    Wakes o d r (d.wake o r).next := by
  unfold Desk.wake
  cases hlate : d.view.supersedes r with
  | true => exact .late hlate
  | false =>
    rw [if_neg Bool.false_ne_true]
    unfold Desk.refresh State.issueTicket?
    cases hteam : d.view.snapshot.selectedTeam with
    | none => exact .unselected hlate hteam
    | some team => exact .issue hlate hteam

/-- **A try has ended.** The retry sleeps again after a failure, as long as tries are left. -/
theorem next_of_try (o : Sync.Options) (d : Desk) {t : Sync.Ticket} {r : Sync.Retry}
    (reply : (Waiting.refresh t (.retry r)).Reply) :
    (d.resume o (.refresh t (.retry r)) reply).next =
      if (d.view.settleRefresh t reply).2.1.isFailed ∧ r.attempt + 1 < o.retryAttempts then
        .sleep { r with attempt := r.attempt + 1 }
      else .done (.refreshed (d.view.settleRefresh t reply).2.1) none :=
  rfl

/-! ### How many tries there are, and how they ended -/

def AllFailed (tries : List Try) : Prop :=
  ∀ a ∈ tries, ∃ message, a.outcome = some (.failed message)

theorem AllFailed.cons {a : Try} {tries : List Try} (h : AllFailed tries) {outcome : Sync.Outcome}
    (ha : a.outcome = some outcome) (hfailed : outcome.isFailed = true) :
    AllFailed (a :: tries) := by
  refine List.forall_mem_cons.mpr ⟨?_, h⟩
  cases outcome with
  | failed message => exact ⟨message, ha⟩
  | _ => cases hfailed

/-- **The tries by the state.** A retry that sleeps has failed as often as it has tried, and has a
try left; one that waits does so for its latest try; and one that has ended did so with its latest
try, or before it could try again. -/
def RetryState.Stands (o : Sync.Options) (r₀ : Sync.Retry) (tries : List Try) : RetryState → Prop
  | asleep r =>
    r = { r₀ with attempt := tries.length } ∧ tries.length < o.retryAttempts ∧ AllFailed tries
  | waiting t r => ∃ since older, tries = ⟨t, since, none⟩ :: older
      ∧ r = { r₀ with attempt := older.length } ∧ older.length < o.retryAttempts
      ∧ AllFailed older
  | ended outcome => tries.length ≤ o.retryAttempts
      ∧ ((AllFailed tries ∧ (outcome = .stale ∨ outcome = .noTeam))
        ∨ ∃ a older, tries = a :: older ∧ a.outcome = some outcome ∧ AllFailed older)

/-- By induction on the course; a try is counted in the step that issues it. -/
theorem Follows.stands {o : Sync.Options} {r₀ : Sync.Retry} {later : List Moment} {m : Moment}
    {tries : List Try} {s : RetryState} (h : Follows o r₀ later tries s)
    (hstart : StartsFrom o m r₀) : s.Stands o r₀ tries := by
  induction h with
  | sleeps =>
    obtain ⟨hallowed, rfl, _, _⟩ := hstart
    exact ⟨rfl, hallowed, fun _ h => nomatch h⟩
  | rests _ _ ih => exact ih
  | issues _ _ ih =>
    obtain ⟨hr, hleft, hfailed⟩ := ih
    exact ⟨_, _, rfl, hr, hleft, hfailed⟩
  | @quits later tries c r outcome _ hnext ih =>
    obtain ⟨_, hleft, hfailed⟩ := ih
    refine ⟨Nat.le_of_lt hleft, Or.inl ⟨hfailed, ?_⟩⟩
    -- without a refresh of its own a retry ends as too late or without a team
    have hwakes := wakes o c.desk r
    rw [hnext] at hwakes
    cases hwakes with
    | late => exact Or.inl rfl
    | unselected => exact Or.inr rfl
  | sleepsAgain _ hnext ih =>
    obtain ⟨_, older, htries, rfl, _, hfailed⟩ := ih
    obtain ⟨_, rfl⟩ := List.cons.inj htries
    rw [next_of_try] at hnext
    split at hnext
    · rename_i hagain
      cases hnext
      exact ⟨rfl, hagain.2, hfailed.cons rfl hagain.1⟩
    · cases hnext
  | ends _ hnext ih =>
    obtain ⟨_, older, htries, rfl, hleft, hfailed⟩ := ih
    obtain ⟨_, rfl⟩ := List.cons.inj htries
    rw [next_of_try] at hnext
    split at hnext
    · cases hnext
    · cases hnext
      exact ⟨hleft, Or.inr ⟨_, _, rfl, rfl, hfailed⟩⟩

/-! ### Every try is issued in time -/

/-- **A try was issued in time.** After the failure in the moment `m`, nothing happened that would
make the try pointless; it is for the team and the epoch of the failure. -/
structure Try.Timely (o : Sync.Options) (m : Moment) (later : List Moment) (a : Try) : Prop where
  issued : ∃ newer x, later = newer ++ x :: a.since ∧ x.issues o a.ticket
  team : (m.after o).view.snapshot.selectedTeam = some a.ticket.team
  epoch : (m.after o).view.epoch = a.ticket.epoch
  quiet : ∀ x ∈ a.since, x.Quiet
  /-- If the try is said to have committed, it has. -/
  committed : a.outcome = some .committed → ∃ x ∈ later, x.commits a.ticket

theorem Try.Timely.later {o : Sync.Options} {m : Moment} {later : List Moment} {a : Try}
    (h : a.Timely o m later) (x : Moment) : a.Timely o m (x :: later) := by
  obtain ⟨newer, y, rfl, hy⟩ := h.issued
  refine ⟨⟨x :: newer, y, rfl, hy⟩, h.team, h.epoch, h.quiet, fun hcommitted => ?_⟩
  obtain ⟨z, hz, hcommit⟩ := h.committed hcommitted
  exact ⟨z, List.mem_cons_of_mem x hz, hcommit⟩

/-- A try stays timely when its answer comes. -/
theorem Try.Timely.answered {o : Sync.Options} {m : Moment} {later since : List Moment}
    {c : Scene} {t : Sync.Ticket} {r : Sync.Retry} {reply : (Waiting.refresh t (.retry r)).Reply}
    (h : Try.Timely o m later ⟨t, since, none⟩) :
    Try.Timely o m (⟨c, .answer (.refresh t (.retry r)) reply⟩ :: later)
      ⟨t, since, some (c.view.settleRefresh t reply).2.1⟩ := by
  have h' := h.later ⟨c, .answer (.refresh t (.retry r)) reply⟩
  refine ⟨h'.issued, h.team, h.epoch, h.quiet, fun hcommitted => ?_⟩
  exact ⟨_, List.mem_cons_self, reply, rfl, Option.some.inj hcommitted⟩

theorem supersedes_eq_false_iff {s : State} {r : Sync.Retry} :
    s.supersedes r = false ↔ s.epoch = r.epoch ∧ s.floor = r.floor := by
  simp [State.supersedes]

/-- **A retry that wakes issues exactly if nothing has happened since the failure.** It may have
tried before; that changes neither of its numbers. -/
theorem wake_issues_iff {o : Sync.Options} {later earlier : List Moment} {m : Moment} {c : Scene}
    {r₀ : Sync.Retry} (h : Run o (later ++ m :: earlier) c) (hstart : StartsFrom o m r₀)
    (attempt : Nat) :
    (∃ t, (c.desk.wake o { r₀ with attempt }).next
        = .wait (.refresh t (.retry { r₀ with attempt }))) ↔ ∀ x ∈ later, x.Quiet := by
  obtain ⟨team, hteam⟩ := hstart.team
  have hkept : c.desk.view.supersedes { r₀ with attempt } = false ↔ ∀ x ∈ later, x.Quiet := by
    rw [← guard_kept_iff_quiet h hstart.gap, supersedes_eq_false_iff, hstart.numbers]
  have hwakes := wakes o c.desk { r₀ with attempt }
  generalize (c.desk.wake o { r₀ with attempt }).next = next at hwakes
  rw [← hkept]
  cases hwakes with
  | late hlate => simp [hlate]
  | issue hnot => simp [hnot]
  | unselected hnot hnone =>
    -- the selection would have been switched since
    have hsame := (h.sameLists (hkept.mp hnot)).selectedTeam
    rw [hteam] at hsame
    cases hsame.symm.trans hnone

theorem timely_of_wake {o : Sync.Options} {later earlier : List Moment} {m : Moment} {c : Scene}
    {r₀ : Sync.Retry} {t : Sync.Ticket} {attempt : Nat} (h : Run o (later ++ m :: earlier) c)
    (hstart : StartsFrom o m r₀)
    (hnext : (c.desk.wake o { r₀ with attempt }).next
      = .wait (.refresh t (.retry { r₀ with attempt }))) :
    Try.Timely o m (⟨c, .wake { r₀ with attempt }⟩ :: later) ⟨t, later, none⟩ := by
  have hquiet := (wake_issues_iff h hstart attempt).mp ⟨t, hnext⟩
  have hasks : (c.turn o (.wake { r₀ with attempt })).asks
      = some (.refresh t (.retry { r₀ with attempt })) := by
    show (c.desk.wake o { r₀ with attempt }).asks = _
    rw [Step.asks, hnext]
  have hwakes := wakes o c.desk { r₀ with attempt }
  rw [hnext] at hwakes
  cases hwakes with
  | issue hkept hteam =>
    refine ⟨⟨[], _, rfl, _, hasks⟩, ?_, ?_, hquiet, fun hnone => nomatch hnone⟩
    · rw [← (h.sameLists hquiet).selectedTeam]
      exact hteam
    · exact ((guard_kept_iff_quiet h hstart.gap).mpr hquiet).1.symm

theorem Follows.timely {o : Sync.Options} {later earlier : List Moment} {m : Moment} {c : Scene}
    {r₀ : Sync.Retry} {tries : List Try} {s : RetryState} (h : Follows o r₀ later tries s)
    (hrun : Run o (later ++ m :: earlier) c) (hstart : StartsFrom o m r₀) :
    ∀ a ∈ tries, a.Timely o m later := by
  induction h generalizing c with
  | sleeps => exact fun _ ha => nomatch ha
  | rests _ _ ih => exact fun a ha => (ih hrun.last.1 a ha).later _
  | issues hbefore hnext ih =>
    have hlast := hrun.last.1
    -- the retry still has the numbers with which it began
    obtain ⟨rfl, _, _⟩ := hbefore.stands hstart
    exact List.forall_mem_cons.mpr
      ⟨timely_of_wake hlast hstart hnext, fun a ha => (ih hlast a ha).later _⟩
  | quits _ _ ih => exact fun a ha => (ih hrun.last.1 a ha).later _
  | sleepsAgain _ _ ih =>
    obtain ⟨hlatest, holder⟩ := List.forall_mem_cons.mp (ih hrun.last.1)
    exact List.forall_mem_cons.mpr ⟨hlatest.answered, fun a ha => (holder a ha).later _⟩
  | ends _ _ ih =>
    obtain ⟨hlatest, holder⟩ := List.forall_mem_cons.mp (ih hrun.last.1)
    exact List.forall_mem_cons.mpr ⟨hlatest.answered, fun a ha => (holder a ha).later _⟩

/-! ### Every run has the course of its retry -/

/-- The retry is where its state says that it is. -/
def RetryState.UnderWay (c : Scene) : RetryState → Prop
  | asleep r => r ∈ c.asleep
  | waiting t r => .refresh t (.retry r) ∈ c.waiting
  | ended _ => True

theorem mem_stillAsleep {c : Scene} {a : Action} {r : Sync.Retry} (hr : r ∈ c.asleep)
    (ha : a ≠ .wake r) : r ∈ c.stillAsleep a := by
  cases a with
  | wake r' =>
    have hne : r ≠ r' := by
      rintro rfl
      exact ha rfl
    exact (List.mem_erase_of_ne hne).mpr hr
  | _ => exact hr

/-- Whatever happens while the retry rests, it is still there afterwards. -/
theorem RetryState.RestsIn.underWay {o : Sync.Options} {m : Moment} {s : RetryState}
    (h : s.RestsIn m) : s.UnderWay (m.after o) := by
  cases s with
  | asleep r => exact List.mem_append_right _ h
  | waiting t r => exact List.mem_append_right _ h
  | ended outcome => trivial

/-- A retry that wakes goes on. -/
theorem follows_wake {o : Sync.Options} {r₀ r : Sync.Retry} {later : List Moment}
    {tries : List Try} {c : Scene} (h : Follows o r₀ later tries (.asleep r)) :
    ∃ tries' s, Follows o r₀ (⟨c, .wake r⟩ :: later) tries' s
      ∧ s.UnderWay (c.after o (.wake r)) := by
  have hwakes := wakes o c.desk r
  generalize hnext : (c.desk.wake o r).next = next at hwakes
  cases hwakes with
  | late => exact ⟨_, _, .quits h hnext, trivial⟩
  | unselected => exact ⟨_, _, .quits h hnext, trivial⟩
  | issue =>
    refine ⟨_, _, .issues h hnext, List.mem_append_left _ (Option.mem_toList.mpr ?_)⟩
    show (c.desk.wake o r).asks = _
    rw [Step.asks, hnext]

/-- A retry that gets its answer goes on. -/
theorem follows_answer {o : Sync.Options} {r₀ r : Sync.Retry} {later since : List Moment}
    {tries : List Try} {c : Scene} {t : Sync.Ticket}
    (h : Follows o r₀ later (⟨t, since, none⟩ :: tries) (.waiting t r))
    (reply : (Waiting.refresh t (.retry r)).Reply) :
    ∃ tries' s, Follows o r₀ (⟨c, .answer (.refresh t (.retry r)) reply⟩ :: later) tries' s
      ∧ s.UnderWay (c.after o (.answer (.refresh t (.retry r)) reply)) := by
  have hnext := next_of_try o c.desk reply
  split at hnext
  · refine ⟨_, _, .sleepsAgain h hnext, List.mem_append_left _ (Option.mem_toList.mpr ?_)⟩
    show (c.desk.resume o (.refresh t (.retry r)) reply).sleeps = _
    rw [Step.sleeps, hnext]
  · exact ⟨_, _, .ends h hnext, trivial⟩

/-- **A run has the course of the retry.** By induction on the moments since the failure: each is a
step of the retry, or leaves it where it is. -/
theorem Run.follows {o : Sync.Options} {later earlier : List Moment} {m : Moment} {c : Scene}
    {r₀ : Sync.Retry} (h : Run o (later ++ m :: earlier) c) (hr₀ : m.spawned o = some r₀) :
    ∃ tries s, Follows o r₀ later tries s ∧ s.UnderWay c := by
  obtain ⟨_, hfailure⟩ := h.drop
  have hstart := startsFrom_of_spawned hfailure hr₀
  induction later generalizing c with
  | nil =>
    obtain ⟨_, _, rfl⟩ := h.last
    exact ⟨_, _, .sleeps, sleeps_of_spawned hr₀⟩
  | cons x later ih =>
    obtain ⟨hrun, _, rfl⟩ := h.last
    obtain ⟨tries, s, hfollows, hthere⟩ := ih hrun
    obtain ⟨scene, action⟩ := x
    cases s with
    | ended outcome => exact ⟨_, _, .rests hfollows trivial, trivial⟩
    | asleep r =>
      by_cases hown : action = .wake r
      · subst hown
        exact follows_wake hfollows
      · have hrests : (RetryState.asleep r).RestsIn ⟨scene, action⟩ := mem_stillAsleep hthere hown
        exact ⟨_, _, .rests hfollows hrests, hrests.underWay⟩
    | waiting t r =>
      by_cases hown : ∃ reply, action = .answer (.refresh t (.retry r)) reply
      · obtain ⟨reply, rfl⟩ := hown
        obtain ⟨_, _, rfl, _⟩ := hfollows.stands hstart
        exact follows_answer hfollows reply
      · have hrests : (RetryState.waiting t r).RestsIn ⟨scene, action⟩ :=
          mem_stillWaiting hthere fun reply haction => hown ⟨reply, haction⟩
        exact ⟨_, _, .rests hfollows hrests, hrests.underWay⟩

/-! ## The headline -/

/-- A try that waits, or whose failure is not the end, leaves nothing but failures behind it. -/
theorem RetryState.Stands.outcomes {o : Sync.Options} {r₀ : Sync.Retry} {tries : List Try}
    {s : RetryState} (h : s.Stands o r₀ tries) :
    tries.length ≤ o.retryAttempts
      ∧ AllFailed tries.tail
      ∧ (∀ a ∈ tries, ∀ outcome, a.outcome = some outcome → outcome.isFailed = false →
          s = .ended outcome)
      ∧ (s = .ended .committed → ∃ a ∈ tries, a.outcome = some .committed) := by
  -- a failure is no other outcome
  have hnot : ∀ {older : List Try}, AllFailed older → ∀ a ∈ older, ∀ outcome,
      a.outcome = some outcome → outcome.isFailed = false → s = .ended outcome := by
    intro older hfailed a ha outcome hout hgood
    obtain ⟨message, hmessage⟩ := hfailed a ha
    rw [hmessage] at hout
    cases hout
    cases hgood
  cases s with
  | asleep r =>
    obtain ⟨_, hleft, hfailed⟩ := h
    refine ⟨Nat.le_of_lt hleft, fun a ha => hfailed a (List.mem_of_mem_tail ha), hnot hfailed, ?_⟩
    exact fun hended => nomatch hended
  | waiting t r =>
    obtain ⟨since, older, rfl, _, hleft, hfailed⟩ := h
    refine ⟨hleft, hfailed, ?_, fun hended => nomatch hended⟩
    exact List.forall_mem_cons.mpr ⟨(fun _ hnone => nomatch hnone), hnot hfailed⟩
  | ended outcome =>
    obtain ⟨hlength, ⟨hfailed, hout⟩ | ⟨a, older, rfl, ha, hfailed⟩⟩ := h
    · refine ⟨hlength, fun a ha => hfailed a (List.mem_of_mem_tail ha), hnot hfailed, ?_⟩
      rintro ⟨⟩
      rcases hout with hout | hout <;> cases hout
    · refine ⟨hlength, hfailed, List.forall_mem_cons.mpr ⟨?_, hnot hfailed⟩, ?_⟩
      · intro outcome' ha' _
        rw [ha] at ha'
        cases ha'
        rfl
      · rintro ⟨⟩
        exact ⟨a, List.mem_cons_self, ha⟩

/-- **A retry stops as soon as it has lost its point.** A retry is left behind exactly by a failure
in time of a refresh that is tried again, if any tries are allowed. Every run from there on has a
course of the retry, and of each course the following holds. There are at most as many tries as
allowed. Each was issued for the team and the epoch of the failure, while nothing since had switched
the selection, committed or been laid over the view; and a retry that wakes issues exactly then. All
tries but the latest failed, and one that ends in any other way ends the retry with its outcome. If
the retry ends as committed, one of its own refreshes was committed. -/
theorem retry_stops_when_pointless {o : Sync.Options} {later earlier : List Moment} {m : Moment}
    {c : Scene} {r₀ : Sync.Retry} (h : Run o (later ++ m :: earlier) c)
    (hr₀ : m.spawned o = some r₀) :
    (∀ (x : Moment) (r : Sync.Retry), x.spawned o = some r ↔
        ∃ t after reply, x.action = .answer (.refresh t after) reply
          ∧ after.retries = true
          ∧ (x.scene.view.settleRefresh t reply).2.1.isFailed = true
          ∧ 0 < o.retryAttempts
          ∧ r = ⟨x.done.epoch, x.done.floor, 0⟩)
      ∧ (∃ tries s, Follows o r₀ later tries s ∧ s.UnderWay c)
      ∧ ∀ tries s, Follows o r₀ later tries s →
          tries.length ≤ o.retryAttempts
            ∧ (∀ a ∈ tries, a.Timely o m later)
            ∧ (∀ r, s = .asleep r →
                ((∃ t, (c.desk.wake o r).next = .wait (.refresh t (.retry r))) ↔
                  ∀ x ∈ later, x.Quiet))
            ∧ (∀ a ∈ tries.tail, ∃ message, a.outcome = some (.failed message))
            ∧ (∀ a ∈ tries, ∀ outcome, a.outcome = some outcome → outcome.isFailed = false →
                s = .ended outcome)
            ∧ (s = .ended .committed →
                ∃ a ∈ tries, a.outcome = some .committed ∧ ∃ x ∈ later, x.commits a.ticket) := by
  refine ⟨fun x r => spawned_eq_some_iff, h.follows hr₀, ?_⟩
  intro tries s hfollows
  obtain ⟨_, hfailure⟩ := h.drop
  have hstart := startsFrom_of_spawned hfailure hr₀
  have hstands := hfollows.stands hstart
  have htimely := hfollows.timely h hstart
  obtain ⟨hlength, hfailed, hended, hcommitted⟩ := hstands.outcomes
  refine ⟨hlength, htimely, ?_, hfailed, hended, ?_⟩
  · rintro r rfl
    obtain ⟨rfl, _, _⟩ := hstands
    exact wake_issues_iff h hstart _
  · intro hs
    obtain ⟨a, ha, hout⟩ := hcommitted hs
    exact ⟨a, ha, hout, (htimely a ha).committed hout⟩

/-- The refresh of a team fails, and may be tried again. -/
def outage : Moment where
  scene := (played ⟨200, 2, 200⟩ [.start .refreshWithRetry, .start (.select "alpha")]).2
  action := .answer (.refresh ⟨"alpha", 1, 2⟩ .finishWithRetry) (.error (.transport "down"))

/-- The first retry fails too, and the second brings the lists; teams are asked for in between. -/
def recovery : List Moment × Scene :=
  played ⟨200, 2, 200⟩
    [.answer (.refresh ⟨"alpha", 1, 4⟩ (.retry ⟨1, 0, 1⟩)) (.ok ([], [])), .wake ⟨1, 0, 1⟩,
      .answer (.refresh ⟨"alpha", 1, 3⟩ (.retry ⟨1, 0, 0⟩)) (.error (.transport "down")),
      .start .refreshTeams, .wake ⟨1, 0, 0⟩, outage.action, .start .refreshWithRetry,
      .start (.select "alpha")]

theorem second_try_commits :
    outage.spawned ⟨200, 2, 200⟩ = some ⟨1, 0, 0⟩
      ∧ ∃ tries, Follows ⟨200, 2, 200⟩ ⟨1, 0, 0⟩ (recovery.1.take 5) tries (.ended .committed)
          ∧ tries.map Try.ticket = [⟨"alpha", 1, 4⟩, ⟨"alpha", 1, 3⟩]
          ∧ tries.length ≤ 2
          ∧ (∀ a ∈ tries, ∀ x ∈ a.since, x.Quiet)
          ∧ ∃ a ∈ tries, ∃ x ∈ recovery.1.take 5, x.commits a.ticket := by
  have hplayed : Run ⟨200, 2, 200⟩ recovery.1 recovery.2 := run_played (by decide)
  have hrun : Run ⟨200, 2, 200⟩ (recovery.1.take 5 ++ outage :: recovery.1.drop 6) recovery.2 :=
    hplayed
  have hspawned : outage.spawned ⟨200, 2, 200⟩ = some ⟨1, 0, 0⟩ := rfl
  -- the retry wakes, is left alone, fails, wakes and commits
  have hleft : (RetryState.waiting ⟨"alpha", 1, 3⟩ ⟨1, 0, 0⟩).RestsIn
      ⟨(played ⟨200, 2, 200⟩ [.wake ⟨1, 0, 0⟩, outage.action, .start .refreshWithRetry,
        .start (.select "alpha")]).2, .start .refreshTeams⟩ := by
    show _ ∈ Scene.waiting _
    decide
  have hfollows : Follows ⟨200, 2, 200⟩ ⟨1, 0, 0⟩ (recovery.1.take 5) _ (.ended .committed) :=
    .ends (.issues (.sleepsAgain (.rests (.issues .sleeps rfl) hleft) rfl) rfl) rfl
  obtain ⟨_, _, hcourse⟩ := retry_stops_when_pointless hrun hspawned
  obtain ⟨hlength, htimely, _, _, _, hcommitted⟩ := hcourse _ _ hfollows
  obtain ⟨a, ha, _, hcommit⟩ := hcommitted rfl
  exact ⟨hspawned, _, hfollows, rfl, hlength, fun a ha => (htimely a ha).quiet, a, ha, hcommit⟩

end TeamConsole
