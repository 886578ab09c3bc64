import TeamConsole.Proofs.Freshness

/-!
# The fields of the view fit together

The phase, the selection, the last error, the lists and the optimistic ids are separate fields of
the view, and each deed writes only some of them. Read together they never contradict each other:
there is nothing to show while no team is selected, an error has its text, and what is marked as
optimistic is held.

* **`Coherent`**: what the fields say of each other.
* **`coherent_switchTeam`**, **`coherent_preseed`**, **`coherent_withLists`**,
  **`coherent_overlay`**: the writes after which it has to be shown anew.
* **`coherent_done`**, **`coherent_after`**: kept by every deed, and by every moment.
* **`view_is_coherent`**: the headline, with the numbers that only grow.
-/

namespace TeamConsole

open Sync (State)

/-- What a phase says of the selected team and of the last error. -/
def Sync.Phase.Fits (team error : Option String) : Sync.Phase → Prop
  | .idle => team = none ∧ error = none
  | .loading => team ≠ none
  | .ready => team ≠ none ∧ error = none
  | .error => error ≠ none

/-- **Coherent.** What the fields of a view say of each other. -/
structure Coherent (s : State) : Prop where
  phase : s.phase.Fits s.snapshot.selectedTeam s.lastError
  unselected : s.snapshot.selectedTeam = none →
    s.snapshot.tasks = [] ∧ s.snapshot.agents = [] ∧ s.optimistic = []
  optimistic : ∀ id ∈ s.optimistic, ∃ t ∈ s.snapshot.tasks, t.id = id

theorem Coherent.of_sameTeam {s s' : State} (h : Coherent s) (hsame : SameTeam s s') :
    Coherent s' := by
  refine ⟨?_, ?_, ?_⟩
  · rw [hsame.phase, hsame.selectedTeam, hsame.lastError]
    exact h.phase
  · rw [hsame.selectedTeam, hsame.tasks, hsame.agents, hsame.optimistic]
    exact h.unselected
  · rw [hsame.optimistic, hsame.tasks]
    exact h.optimistic

/-- Without a team no load can be under way or have succeeded. -/
theorem Coherent.idle_or_error {s : State} (h : Coherent s)
    (hteam : s.snapshot.selectedTeam = none) : s.phase = .idle ∨ s.phase = .error := by
  have hfits := h.phase
  cases hphase : s.phase with
  | idle => exact Or.inl rfl
  | loading =>
    rw [hphase] at hfits
    exact absurd hteam hfits
  | ready =>
    rw [hphase] at hfits
    exact absurd hteam hfits.1
  | error => exact Or.inr rfl

/-! ## The writes -/

/-- A switch leaves nothing behind of the team before, not even its error. -/
theorem coherent_switchTeam (s : State) (team : Option String) : Coherent (s.switchTeam team) := by
  refine ⟨?_, fun _ => ⟨rfl, rfl, rfl⟩, fun _ h => nomatch h⟩
  cases team with
  | none => exact ⟨rfl, rfl⟩
  | some team => exact Option.some_ne_none team

/-- A ready view is coherent if it has a team and nothing is wrong or optimistic. -/
theorem coherent_of_ready {s : State} (hphase : s.phase = .ready)
    (hteam : s.snapshot.selectedTeam ≠ none) (herror : s.lastError = none)
    (hoptimistic : s.optimistic = []) : Coherent s := by
  refine ⟨?_, fun hnone => absurd hnone hteam, ?_⟩
  · rw [hphase]
    exact ⟨hteam, herror⟩
  · rw [hoptimistic]
    exact fun _ h => nomatch h

/-- Lists come along with a bootstrap only for the team that it selects. -/
theorem coherent_preseed (s : State) (b : Bootstrap) :
    Coherent (preseed (s.switchTeam b.initialTeamName) b) := by
  unfold preseed
  split
  · rename_i team tasks hteam htasks
    refine coherent_of_ready rfl ?_ rfl rfl
    show b.initialTeamName ≠ none
    rw [hteam]
    exact Option.some_ne_none team
  · exact coherent_switchTeam s b.initialTeamName

theorem coherent_failed {s : State} (h : Coherent s) (message : String) :
    Coherent { s with lastError := some message, phase := .error } :=
  ⟨Option.some_ne_none message, h.unselected, h.optimistic⟩

/-- Only the selected team has lists to be loaded. -/
theorem coherent_withLists {s : State} {t : Sync.Ticket} (hcurrent : s.isCurrent t = true)
    (tasks : List Task) (agents : List Agent) : Coherent (withLists s t tasks agents) := by
  refine coherent_of_ready rfl ?_ rfl rfl
  show s.snapshot.selectedTeam ≠ none
  rw [((isCurrent_iff s t).mp hcurrent).2.1]
  exact Option.some_ne_none t.team

/-- A change that keeps the id of its task loses no id. -/
theorem exists_mem_updateFirst {tasks : List Task} {id : Int} {change : Task → Task}
    (hid : ∀ t, (change t).id = t.id) {id' : Int} (h : ∃ t ∈ tasks, t.id = id') :
    ∃ t ∈ State.updateFirst tasks id change, t.id = id' := by
  induction tasks with
  | nil => exact h
  | cons t rest ih =>
    unfold State.updateFirst
    obtain ⟨u, hu, hid'⟩ := h
    rcases List.mem_cons.mp hu with rfl | hrest
    · split
      · exact ⟨change u, List.mem_cons_self, (hid u).trans hid'⟩
      · exact ⟨u, List.mem_cons_self, hid'⟩
    · split
      · exact ⟨u, List.mem_cons_of_mem _ hrest, hid'⟩
      · obtain ⟨w, hw, hwid⟩ := ih ⟨u, hrest, hid'⟩
        exact ⟨w, List.mem_cons_of_mem _ hw, hwid⟩

/-- Only a held task becomes optimistic, and it stays held. -/
theorem coherent_overlay {s : State} {team : String} (h : Coherent s)
    (hteam : s.snapshot.selectedTeam = some team) (id : Int) (v : Confirmed) :
    Coherent (s.overlay team id v.apply).1 := by
  rw [overlay_selected hteam]
  split
  · rename_i hheld
    refine ⟨h.phase, ?_, ?_⟩
    · exact fun hnone => nomatch hteam.symm.trans hnone
    · intro id' hmem
      refine exists_mem_updateFirst v.apply_id ?_
      -- the marked ids are those marked before, and perhaps the one that is held
      have hmarked : id' = id ∨ id' ∈ s.optimistic := by
        simp only at hmem
        split at hmem
        · exact Or.inr hmem
        · exact List.mem_cons.mp hmem
      rcases hmarked with rfl | hbefore
      · obtain ⟨t, ht, hidt⟩ := List.any_eq_true.mp hheld
        exact ⟨t, ht, of_decide_eq_true hidt⟩
      · exact h.optimistic id' hbefore
  · exact ⟨h.phase, h.unselected, h.optimistic⟩

theorem coherent_withRefresh {s : State} (h : Coherent s)
    (hteam : s.snapshot.selectedTeam ≠ none) : Coherent (withRefresh s) :=
  ⟨hteam, h.unselected, h.optimistic⟩

/-! ## Every moment keeps it -/

/-- **The step lemma.** One case for each effect of a deed. -/
theorem coherent_done {m : Moment} (h : Coherent m.scene.view) : Coherent m.done := by
  cases moment_effect m with
  | leaves hsame => exact h.of_sameTeam hsame
  | selects _ _ hdone =>
    rw [hdone]
    exact coherent_switchTeam _ _
  | begins _ _ hdone => exact (coherent_preseed _ _).of_sameTeam hdone
  | fails hdone =>
    rw [hdone]
    exact coherent_failed h _
  | commits _ hcommit hdone =>
    rw [hdone]
    exact coherent_withLists (guard_of_commits hcommit).1 _ _
  | overlays _ hteam hdone =>
    rw [hdone]
    exact coherent_overlay h hteam _ _

theorem coherent_after (o : Sync.Options) {m : Moment} (h : Coherent m.scene.view) :
    Coherent (m.after o).view := by
  have hdone := coherent_done h
  cases closes_turn o m.scene m.action with
  | issue hissue hview =>
    obtain ⟨hteam, _, _, rfl⟩ := issueTicket?_eq_some hissue
    have hselected : m.done.snapshot.selectedTeam ≠ none := fun hnone =>
      nomatch hteam.symm.trans hnone
    show Coherent (m.scene.turn o m.action).desk.view
    rw [hview]
    exact coherent_withRefresh hdone hselected
  | rest hview =>
    show Coherent (m.scene.turn o m.action).desk.view
    rw [hview]
    exact hdone

theorem coherent_fresh : Coherent {} :=
  ⟨⟨rfl, rfl⟩, fun _ => ⟨rfl, rfl, rfl⟩, fun _ h => nomatch h⟩

theorem Run.coherent {o : Sync.Options} {past : List Moment} {c : Scene} (h : Run o past c) :
    Coherent c.view := by
  induction h with
  | fresh => exact coherent_fresh
  | act a _ _ ih => exact coherent_after o (m := ⟨_, a⟩) ih

/-! ## The headline -/

/-- Neither the epoch nor the floor was higher at any moment of the past. -/
theorem Run.guard_le {o : Sync.Options} {past : List Moment} {c : Scene} (h : Run o past c) :
    ∀ m ∈ past, m.scene.view.epoch ≤ c.view.epoch ∧ m.scene.view.floor ≤ c.view.floor := by
  induction h with
  | fresh => exact fun _ hm => nomatch hm
  | @act past c a hrun _ ih =>
    have hepoch : c.view.epoch ≤ (c.after o a).view.epoch := by
      show c.view.epoch ≤ (Moment.after o ⟨c, a⟩).view.epoch
      rw [after_epoch]
      exact (epoch_done_le ⟨c, a⟩).1
    have hfloor : c.view.floor ≤ (c.after o a).view.floor := by
      show c.view.floor ≤ (Moment.after o ⟨c, a⟩).view.floor
      rw [after_floor]
      exact floor_le_done (m := ⟨c, a⟩) hrun.ordered
    intro m hm
    rcases List.mem_cons.mp hm with rfl | hbefore
    · exact ⟨hepoch, hfloor⟩
    · obtain ⟨hepoch', hfloor'⟩ := ih m hbefore
      exact ⟨Nat.le_trans hepoch' hepoch, Nat.le_trans hfloor' hfloor⟩

/-- **The view is coherent.** In every run the floor and the numbers of all refreshes under way
were issued, the fields of the view fit together (so that without a team the phase is idle or
error), and neither the epoch nor the floor was ever higher before. -/
theorem view_is_coherent {o : Sync.Options} {past : List Moment} {c : Scene} (h : Run o past c) :
    (c.view.floor ≤ c.view.seq ∧ ∀ t after, .refresh t after ∈ c.waiting → t.seq ≤ c.view.seq)
      ∧ Coherent c.view
      ∧ (c.view.snapshot.selectedTeam = none → c.view.phase = .idle ∨ c.view.phase = .error)
      ∧ ∀ m ∈ past, m.scene.view.epoch ≤ c.view.epoch ∧ m.scene.view.floor ≤ c.view.floor := by
  refine ⟨⟨h.ordered.floor_le, ?_⟩, h.coherent, h.coherent.idle_or_error, h.guard_le⟩
  exact fun t after hwaiting => h.ordered.seq_le hwaiting

/-- A task is confirmed as done, then one of two refreshes fails while the other is under way. -/
def failing : List Moment × Scene :=
  played ⟨200, 3, 200⟩
    [.answer (.refresh ⟨"alpha", 1, 2⟩ .finish) (.error (.transport "down")), .start .refresh,
      .start .refresh, .confirm "alpha" 7 (.status .done),
      .answer (.refresh ⟨"alpha", 1, 1⟩ .finish)
        (.ok ([⟨7, "ship", .todo, none, none, none, none, none, none⟩], [])),
      .start (.select "alpha")]

theorem failing_view_is_coherent :
    (failing.2.view.phase = .error ∧ failing.2.view.lastError ≠ none)
      ∧ (7 ∈ failing.2.view.optimistic ∧ ∃ t ∈ failing.2.view.snapshot.tasks, t.id = 7)
      ∧ .refresh ⟨"alpha", 1, 3⟩ .finish ∈ failing.2.waiting ∧ 3 ≤ failing.2.view.seq := by
  have hrun : Run ⟨200, 3, 200⟩ failing.1 failing.2 := run_played (by decide)
  have herror : failing.2.view.phase = .error := by decide
  have hmarked : 7 ∈ failing.2.view.optimistic := by decide
  have hwaiting : .refresh ⟨"alpha", 1, 3⟩ .finish ∈ failing.2.waiting := by decide
  obtain ⟨⟨_, hseq⟩, hcoherent, _, _⟩ := view_is_coherent hrun
  have hfits := hcoherent.phase
  rw [herror] at hfits
  exact ⟨⟨herror, hfits⟩, ⟨hmarked, hcoherent.optimistic 7 hmarked⟩, hwaiting, hseq _ _ hwaiting⟩

end TeamConsole
