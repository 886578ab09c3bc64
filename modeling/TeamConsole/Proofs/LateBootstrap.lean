import TeamConsole.Proofs.Coherence
import TeamConsole.Proofs.ConfirmedValue

/-!
# The answer to a bootstrap is never too late

The answer to a refresh counts only while the view it was asked for is still shown. A bootstrap
has no such ticket. It numbers the list of teams and the allowlist that it brings, but not the
selection and the lists of its team, so whenever its answer comes these replace what is shown.

* **`Bootstrap.lists`**: the lists that a bootstrap leaves behind for its team.
* **`view_of_bootstrap`**: the view after the answer depends on the answer alone.
* **`Keeps`**, **`Bootstrap.Restates`**: an answer that takes nothing away, and one that tells
  what is shown.
* **`bootstrap_keeps_iff_restates`**: the headline, that these are the same answers.
* **`late_bootstrap_takes_over`**: an operator selects a team and changes a task of it, and the
  answer to an older bootstrap takes both away.
-/

namespace TeamConsole

open Sync (State)

/-- The tasks and the agents that are shown after a bootstrap: those that came along for its team,
or none. -/
def Bootstrap.lists (b : Bootstrap) : List Task × List Agent :=
  match b.initialTeamName, b.tasks with
  | some _, some tasks => (tasks, b.agents.getD [])
  | _, _ => ([], [])

theorem lists_preseed (s : State) (b : Bootstrap) :
    (preseed (s.switchTeam b.initialTeamName) b).snapshot.tasks = b.lists.1
      ∧ (preseed (s.switchTeam b.initialTeamName) b).snapshot.agents = b.lists.2
      ∧ (preseed (s.switchTeam b.initialTeamName) b).optimistic = [] := by
  unfold preseed Bootstrap.lists
  cases b.initialTeamName with
  | none => exact ⟨rfl, rfl, rfl⟩
  | some name =>
    cases b.tasks with
    | none => exact ⟨rfl, rfl, rfl⟩
    | some tasks => exact ⟨rfl, rfl, rfl⟩

/-- The scene after the answer to a bootstrap. -/
def Scene.begun (o : Sync.Options) (c : Scene) (teamsSeq networkSeq : Nat) (b : Bootstrap) :
    Scene :=
  c.after o (.answer (.bootstrap teamsSeq networkSeq) (.ok b))

/-- **What a bootstrap shows.** Its team is selected, with the lists that came along and without
marks, and every refresh issued so far is too late. -/
theorem view_of_bootstrap (o : Sync.Options) (c : Scene) (teamsSeq networkSeq : Nat)
    (b : Bootstrap) :
    (c.begun o teamsSeq networkSeq b).view.snapshot.selectedTeam = b.initialTeamName
      ∧ (c.begun o teamsSeq networkSeq b).view.snapshot.tasks = b.lists.1
      ∧ (c.begun o teamsSeq networkSeq b).view.snapshot.agents = b.lists.2
      ∧ (c.begun o teamsSeq networkSeq b).view.optimistic = []
      ∧ (c.begun o teamsSeq networkSeq b).view.floor = c.view.seq := by
  let m : Moment := ⟨c, .answer (.bootstrap teamsSeq networkSeq) (.ok b)⟩
  have hdone : SameTeam (preseed (c.view.switchTeam b.initialTeamName) b) m.done :=
    sameTeam_begin c.view teamsSeq networkSeq b
  obtain ⟨htasks, hagents, hmarks⟩ := lists_preseed c.view b
  have hteam : m.done.snapshot.selectedTeam = b.initialTeamName := by
    rw [hdone.selectedTeam, preseed_selectedTeam]
    rfl
  have hfloor : m.done.floor = c.view.seq := by
    rw [hdone.floor, preseed_floor]
    rfl
  -- the refresh that may follow touches none of these
  show (m.after o).view.snapshot.selectedTeam = _ ∧ (m.after o).view.snapshot.tasks = _
    ∧ (m.after o).view.snapshot.agents = _ ∧ (m.after o).view.optimistic = _
    ∧ (m.after o).view.floor = _
  rw [← htasks, ← hagents, ← hmarks, ← hdone.tasks, ← hdone.agents, ← hdone.optimistic, ← hteam,
    ← hfloor]
  rcases after_view_cases o m with hview | hview
  · rw [hview]
    exact ⟨rfl, rfl, rfl, rfl, rfl⟩
  · rw [hview]
    exact ⟨rfl, rfl, rfl, rfl, rfl⟩

/-! ## What an answer takes away -/

/-- The selection and the lists of the selected team stay from one view to the next. -/
structure Keeps (s s' : State) : Prop where
  selectedTeam : s'.snapshot.selectedTeam = s.snapshot.selectedTeam
  tasks : s'.snapshot.tasks = s.snapshot.tasks
  agents : s'.snapshot.agents = s.snapshot.agents

/-- A bootstrap tells what the view shows: its team is the selected one, and its lists are those
of the team. -/
structure Bootstrap.Restates (b : Bootstrap) (s : State) : Prop where
  selectedTeam : b.initialTeamName = s.snapshot.selectedTeam
  tasks : b.lists.1 = s.snapshot.tasks
  agents : b.lists.2 = s.snapshot.agents

/-- A marked task shows its status. -/
theorem Coherent.shows {s : State} (h : Coherent s) {id : Int} (hmarked : id ∈ s.optimistic) :
    ∃ v, Shows s id v := by
  obtain ⟨t, ht, hid⟩ := h.optimistic id hmarked
  have hheld : (s.snapshot.task? id).isSome = true :=
    List.find?_isSome.mpr ⟨t, ht, decide_eq_true hid⟩
  obtain ⟨first, hfirst⟩ := Option.isSome_iff_exists.mp hheld
  exact ⟨.status first.status, ⟨first, hfirst, rfl⟩, List.contains_iff_mem.mpr hmarked⟩

theorem not_shows_of_unmarked {s : State} (h : s.optimistic = []) (id : Int) (v : Confirmed) :
    ¬ Shows s id v := by
  intro hshows
  have hmarked := hshows.optimistic
  rw [State.isOptimistic, h] at hmarked
  cases hmarked

/-- When all marks go, no value stays shown as confirmed. -/
theorem shown_kept_iff {s s' : State} (h : Coherent s) (hmarks : s'.optimistic = []) :
    (∀ id v, Shows s id v → Shows s' id v) ↔ s.optimistic = [] := by
  constructor
  · intro hkept
    -- a marked task is held, so it shows a value, which would have to stay marked
    refine List.eq_nil_iff_forall_not_mem.mpr fun id hmarked => ?_
    obtain ⟨v, hshows⟩ := h.shows hmarked
    exact not_shows_of_unmarked hmarks id v (hkept id v hshows)
  · intro hunmarked id v hshows
    exact absurd hshows (not_shows_of_unmarked hunmarked id v)

/-! ## The headline -/

/-- **The answer to a bootstrap takes over, whenever it comes.** Take any run, and the answer to
a bootstrap, whatever happened since it was asked for. The selection and the lists stay exactly if
the answer tells what is shown. Every task shows what the answer tells of it, whatever the server
has confirmed since; no value stays marked as confirmed, and no refresh issued before the answer
counts after it. -/
theorem bootstrap_keeps_iff_restates {o : Sync.Options} {past : List Moment} {c : Scene}
    (h : Run o past c) (teamsSeq networkSeq : Nat) (b : Bootstrap) :
    (Keeps c.view (c.begun o teamsSeq networkSeq b).view ↔ b.Restates c.view)
      ∧ (∀ id, (c.begun o teamsSeq networkSeq b).view.snapshot.task? id
          = b.lists.1.find? (·.id = id))
      ∧ ((∀ id v, Shows c.view id v → Shows (c.begun o teamsSeq networkSeq b).view id v)
          ↔ c.view.optimistic = [])
      ∧ ∀ t after, .refresh t after ∈ c.waiting →
          (c.begun o teamsSeq networkSeq b).view.isCurrent t = false := by
  obtain ⟨hteam, htasks, hagents, hmarks, hfloor⟩ :=
    view_of_bootstrap o c teamsSeq networkSeq b
  refine ⟨⟨?_, ?_⟩, ?_, shown_kept_iff h.coherent hmarks, ?_⟩
  · intro hkeeps
    exact ⟨hteam.symm.trans hkeeps.selectedTeam, htasks.symm.trans hkeeps.tasks,
      hagents.symm.trans hkeeps.agents⟩
  · intro hrestates
    exact ⟨hteam.trans hrestates.selectedTeam, htasks.trans hrestates.tasks,
      hagents.trans hrestates.agents⟩
  · intro id
    rw [Sync.Snapshot.task?, htasks]
  · intro t after hwaiting
    -- its number is not above the floor, to which the answer raised all numbers issued
    have hseq := h.ordered.seq_le hwaiting
    rw [← Bool.not_eq_true, isCurrent_iff, hfloor]
    omega

/-- A task of the second team, and one of the first. -/
def betaTask : Task :=
  ⟨9, "test", .todo, none, none, none, none, none, none⟩

def alphaTask : Task :=
  ⟨7, "ship", .todo, none, none, none, none, none, none⟩

/-- An operator selects a team while the bootstrap is under way, and its lists arrive. -/
def selecting : List Action :=
  [.answer (.refresh ⟨"beta", 1, 1⟩ .finish) (.ok ([betaTask], [])), .start (.select "beta"),
    .start .bootstrap]

def selected : List Moment × Scene :=
  played ⟨200, 3, 200⟩ selecting

/-- Bootstraps that begin with the one team, and with the other. -/
def betaBootstrap : Bootstrap :=
  ⟨none, [], some "beta", some [betaTask], none, none⟩

def alphaBootstrap : Bootstrap :=
  ⟨none, [], some "alpha", some [alphaTask], none, none⟩

/-- A bootstrap that tells what is shown takes nothing away. -/
theorem matching_bootstrap_keeps :
    .bootstrap 1 1 ∈ selected.2.waiting
      ∧ Keeps selected.2.view (selected.2.begun ⟨200, 3, 200⟩ 1 1 betaBootstrap).view := by
  have hrun : Run ⟨200, 3, 200⟩ selected.1 selected.2 := run_played (by decide)
  have hkeeps := (bootstrap_keeps_iff_restates hrun 1 1 betaBootstrap).1
  exact ⟨by decide, hkeeps.mpr ⟨rfl, rfl, rfl⟩⟩

/-- The server confirms besides that the task was taken up. -/
def takenUp : List Moment × Scene :=
  played ⟨200, 3, 200⟩ (.confirm "beta" 9 (.status .inProgress) :: selecting)

/-- **A late bootstrap takes over.** The team was selected and the status confirmed after the
bootstrap was asked for. If its answer names another team, that one is selected instead; if it
names the same team, the older lists hide the confirmed status. -/
theorem late_bootstrap_takes_over :
    Run ⟨200, 3, 200⟩ takenUp.1 takenUp.2
      ∧ .bootstrap 1 1 ∈ takenUp.2.waiting
      ∧ takenUp.2.view.snapshot.selectedTeam = some "beta"
      ∧ takenUp.2.view.snapshot.tasks = [{ betaTask with status := .inProgress }]
      ∧ (takenUp.2.begun ⟨200, 3, 200⟩ 1 1 alphaBootstrap).view.snapshot.selectedTeam
          = some "alpha"
      ∧ (takenUp.2.begun ⟨200, 3, 200⟩ 1 1 alphaBootstrap).view.snapshot.tasks = [alphaTask]
      ∧ (takenUp.2.begun ⟨200, 3, 200⟩ 1 1 betaBootstrap).view.snapshot.tasks = [betaTask] :=
  ⟨run_played (by decide), by decide, rfl, rfl, rfl, rfl, rfl⟩

end TeamConsole
