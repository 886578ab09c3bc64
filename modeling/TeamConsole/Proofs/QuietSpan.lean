import TeamConsole.Proofs.Freshness

/-!
# Spans of a run in which nothing is superseded

A moment is quiet if it neither switches, nor commits, nor lays a value over the view. Between two
scenes of a run all moments may have been quiet, and then the lists are as they were. The console
tells this without a history, from two of its numbers.

* **`Run.after_guard_le`**: the numbers only grow.
* **`guard_kept_iff_quiet`**: the epoch and the floor are still the same exactly if all moments
  since were quiet, provided that a refresh was issued above the floor.
* **`Run.sameLists`**: quiet moments keep the selection, the lists and the optimistic ids.
-/

namespace TeamConsole

open Sync (State)

/-! ## The numbers -/

/-- The numbers of the guard, and that of the last refresh, only grow after a moment. -/
theorem Run.after_guard_le {o : Sync.Options} {later earlier : List Moment} {m : Moment}
    {c : Scene} (h : Run o (later ++ m :: earlier) c) :
    (m.after o).view.epoch ≤ c.view.epoch ∧ (m.after o).view.floor ≤ c.view.floor
      ∧ (m.after o).view.seq ≤ c.view.seq := by
  induction later generalizing c with
  | nil =>
    obtain ⟨_, _, rfl⟩ := h.last
    exact ⟨Nat.le_refl _, Nat.le_refl _, Nat.le_refl _⟩
  | cons x later ih =>
    obtain ⟨hrun, _, rfl⟩ := h.last
    obtain ⟨hepoch, hfloor, hseq⟩ := ih hrun
    have hepoch' : x.scene.view.epoch ≤ (x.after o).view.epoch := by
      rw [after_epoch]
      exact (epoch_done_le x).1
    have hfloor' : x.scene.view.floor ≤ (x.after o).view.floor := by
      rw [after_floor]
      exact floor_le_done hrun.ordered
    have hseq' := (after_seq_le o x).1
    omega

/-- **The epoch and the floor tell whether anything happened.** They are those after the moment `m`
exactly if no moment since has switched, committed or been laid over the view, provided that some
refresh was issued above the floor. Induction on the moments since; both numbers only grow. -/
theorem guard_kept_iff_quiet {o : Sync.Options} {later earlier : List Moment} {m : Moment}
    {c : Scene} (h : Run o (later ++ m :: earlier) c)
    (hgap : (m.after o).view.floor < (m.after o).view.seq) :
    c.view.epoch = (m.after o).view.epoch ∧ c.view.floor = (m.after o).view.floor ↔
      ∀ x ∈ later, x.Quiet := by
  induction later generalizing c with
  | nil =>
    obtain ⟨_, _, rfl⟩ := h.last
    exact ⟨(fun _ _ hx => nomatch hx), fun _ => ⟨rfl, rfl⟩⟩
  | cons x later ih =>
    obtain ⟨hrun, _, rfl⟩ := h.last
    rw [List.forall_mem_cons, ← ih hrun, after_epoch, after_floor]
    obtain ⟨hepoch, hfloor, hseq⟩ := hrun.after_guard_le
    have hepoch' := (epoch_done_le x).1
    have hfloor' := floor_le_done hrun.ordered
    rcases guard_cases x with hx | ⟨id, v, hx⟩ | ⟨t, hx⟩ | hx
    · -- a switch counts the epoch up
      have hcount := (guard_of_switches hx).1
      have hnot : ¬ x.Quiet := fun hquiet => hquiet.switch hx
      simp only [hnot, false_and, iff_false]
      omega
    · -- what is laid over the view raises the floor to a number that was issued above it
      have hraised := (guard_of_overlays hx).2.2
      have hnot : ¬ x.Quiet := fun hquiet => hquiet.overlay id v hx
      simp only [hnot, false_and, iff_false]
      omega
    · -- a commit raises the floor to its own number
      obtain ⟨hcurrent, _, _, hraised⟩ := guard_of_commits hx
      have habove := ((isCurrent_iff _ _).mp hcurrent).2.2
      have hnot : ¬ x.Quiet := fun hquiet => hquiet.commit t hx
      simp only [hnot, false_and, iff_false]
      omega
    · obtain ⟨hsame, _, hsame'⟩ := guard_of_quiet hx
      simp only [hx, true_and, hsame, hsame']

/-! ## The lists -/

/-- Two views show the same team with the same lists. -/
structure SameLists (s s' : State) : Prop where
  selectedTeam : s'.snapshot.selectedTeam = s.snapshot.selectedTeam
  tasks : s'.snapshot.tasks = s.snapshot.tasks
  agents : s'.snapshot.agents = s.snapshot.agents
  optimistic : s'.optimistic = s.optimistic

theorem SameLists.refl (s : State) : SameLists s s :=
  ⟨rfl, rfl, rfl, rfl⟩

theorem SameLists.trans {s s' s'' : State} (h : SameLists s s') (h' : SameLists s' s'') :
    SameLists s s'' :=
  ⟨h'.selectedTeam.trans h.selectedTeam, h'.tasks.trans h.tasks, h'.agents.trans h.agents,
    h'.optimistic.trans h.optimistic⟩

/-- The issue of a refresh changes no list. -/
theorem sameLists_after (o : Sync.Options) (m : Moment) :
    SameLists m.done (m.after o).view := by
  rcases after_view_cases o m with h | h
  · rw [h]
    exact .refl _
  · rw [h]
    exact ⟨rfl, rfl, rfl, rfl⟩

theorem Moment.Quiet.sameLists {m : Moment} (h : m.Quiet) : SameLists m.scene.view m.done := by
  cases moment_effect m with
  | leaves hsame => exact ⟨hsame.selectedTeam, hsame.tasks, hsame.agents, hsame.optimistic⟩
  | fails hdone =>
    rw [hdone]
    exact ⟨rfl, rfl, rfl, rfl⟩
  | selects _ hswitch => exact absurd hswitch h.switch
  | begins _ hswitch => exact absurd hswitch h.switch
  | commits _ hcommit => exact absurd hcommit (h.commit _)
  | overlays hdeed hteam => exact absurd ⟨_, hdeed, hteam⟩ (h.overlay _ _)

theorem Run.sameLists {o : Sync.Options} {later earlier : List Moment} {m : Moment} {c : Scene}
    (h : Run o (later ++ m :: earlier) c) (hquiet : ∀ x ∈ later, x.Quiet) :
    SameLists (m.after o).view c.view := by
  induction later generalizing c with
  | nil =>
    obtain ⟨_, _, rfl⟩ := h.last
    exact .refl _
  | cons x later ih =>
    obtain ⟨hrun, _, rfl⟩ := h.last
    obtain ⟨hx, hlater⟩ := List.forall_mem_cons.mp hquiet
    exact ((ih hrun hlater).trans hx.sameLists).trans (sameLists_after o x)

end TeamConsole
