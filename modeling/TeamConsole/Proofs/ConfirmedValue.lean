import TeamConsole.Proofs.Freshness

/-!
# A confirmed value stays shown

When the server has confirmed a change to a task, the operator sees the new value at once and does
not lose sight of it again: answers that were asked for before the change are discarded, failures
leave the lists alone, and changes to other tasks do not touch this one. Only a refresh issued
afterwards, a switch of the selection or another change of the same task may take the value away.

* **`Shows`**: the first task with the id shows the value and is marked as optimistic.
* **`shows_of_overlays`**, **`shows_done`**: a value laid over a task is shown, and every moment
  keeps it shown that neither switches, nor commits, nor overlays the same task.
* **`Undisturbed`**: what may not happen to the value.
* **`confirmed_value_stays_shown`**: the headline.
-/

namespace TeamConsole

open Sync (State)

/-! ## The first task with an id -/

theorem find?_updateFirst_self {id : Int} {change : Task → Task}
    (hid : ∀ t, (change t).id = t.id) (tasks : List Task) :
    (State.updateFirst tasks id change).find? (·.id = id)
      = (tasks.find? (·.id = id)).map change := by
  induction tasks with
  | nil => rfl
  | cons t rest ih =>
    by_cases h : t.id = id
    · rw [State.updateFirst, if_pos h, List.find?_cons_of_pos (by simp [hid, h]),
        List.find?_cons_of_pos (by simp [h])]
      rfl
    · rw [State.updateFirst, if_neg h, List.find?_cons_of_neg (by simp [h]),
        List.find?_cons_of_neg (by simp [h]), ih]

theorem find?_updateFirst_other {id id' : Int} (hne : id' ≠ id) {change : Task → Task}
    (hid : ∀ t, (change t).id = t.id) (tasks : List Task) :
    (State.updateFirst tasks id' change).find? (·.id = id) = tasks.find? (·.id = id) := by
  induction tasks with
  | nil => rfl
  | cons t rest ih =>
    by_cases h : t.id = id'
    · have ht : t.id ≠ id := fun h' => hne (h.symm.trans h')
      rw [State.updateFirst, if_pos h, List.find?_cons_of_neg (by simp [hid, ht]),
        List.find?_cons_of_neg (by simp [ht])]
    · rw [State.updateFirst, if_neg h, List.find?_cons, List.find?_cons, ih]

/-! ## Showing a value -/

theorem Confirmed.shownBy_apply (v : Confirmed) (t : Task) : v.ShownBy (v.apply t) := by
  cases v <;> rfl

/-- The first task with the id shows the value, and is marked as optimistic. -/
structure Shows (s : State) (id : Int) (v : Confirmed) : Prop where
  task : ∃ t, s.snapshot.task? id = some t ∧ v.ShownBy t
  optimistic : s.isOptimistic id = true

/-- Whether a value is shown depends on the tasks and the optimistic ids only. -/
theorem Shows.of_eq {s s' : State} {id : Int} {v : Confirmed} (h : Shows s id v)
    (htasks : s'.snapshot.tasks = s.snapshot.tasks) (hoptimistic : s'.optimistic = s.optimistic) :
    Shows s' id v := by
  refine ⟨?_, ?_⟩
  · rw [Sync.Snapshot.task?, htasks]
    exact h.task
  · rw [State.isOptimistic, hoptimistic]
    exact h.optimistic

theorem Shows.of_sameTeam {s s' : State} {id : Int} {v : Confirmed} (h : Shows s id v)
    (hsame : SameTeam s s') : Shows s' id v :=
  h.of_eq hsame.tasks hsame.optimistic

theorem Shows.withRefresh {s : State} {id : Int} {v : Confirmed} (h : Shows s id v) :
    Shows (withRefresh s) id v :=
  h.of_eq rfl rfl

/-- **A value laid over a held task is shown.** -/
theorem shows_of_overlays {m : Moment} {id : Int} {v : Confirmed} (h : m.overlays id v)
    (hheld : m.scene.view.snapshot.tasks.any (·.id = id) = true) : Shows m.done id v := by
  obtain ⟨team, hdeed, hteam⟩ := h
  unfold Moment.deed at hdeed
  unfold Moment.done Scene.done
  rw [hdeed, Deed.apply, overlay_selected hteam, if_pos hheld]
  refine ⟨?_, ?_⟩
  · -- the held task that is found is the one that is changed
    have hfound := List.find?_isSome.mpr (List.any_eq_true.mp hheld)
    obtain ⟨t, ht⟩ := Option.isSome_iff_exists.mp hfound
    refine ⟨v.apply t, ?_, v.shownBy_apply t⟩
    rw [Sync.Snapshot.task?, find?_updateFirst_self v.apply_id, ht]
    rfl
  · show List.contains (if m.scene.view.optimistic.contains id then m.scene.view.optimistic
      else id :: m.scene.view.optimistic) id = true
    split
    · assumption
    · exact List.contains_iff_mem.mpr List.mem_cons_self

/-- A value of another task does not take a shown value away. -/
theorem shows_overlay_other {s : State} {id id' : Int} {v : Confirmed} (h : Shows s id v)
    (hne : id' ≠ id) {team : String} (hteam : s.snapshot.selectedTeam = some team)
    (v' : Confirmed) : Shows (s.overlay team id' v'.apply).1 id v := by
  rw [overlay_selected hteam]
  split
  · refine ⟨?_, ?_⟩
    · rw [Sync.Snapshot.task?, find?_updateFirst_other hne v'.apply_id]
      exact h.task
    · show List.contains (if s.optimistic.contains id' then s.optimistic
        else id' :: s.optimistic) id = true
      split
      · exact h.optimistic
      · have hmem := List.contains_iff_mem.mp h.optimistic
        exact List.contains_iff_mem.mpr (List.mem_cons_of_mem _ hmem)
  · exact h.of_eq rfl rfl

/-- **A shown value stays shown** in every deed but a switch, a commit and an overlay of the same
task. -/
theorem shows_done {m : Moment} {id : Int} {v : Confirmed} (h : Shows m.scene.view id v)
    (hswitch : ¬ m.switches) (hoverlay : ∀ v', ¬ m.overlays id v') (hcommit : ∀ t, ¬ m.commits t) :
    Shows m.done id v := by
  cases moment_effect m with
  | leaves hsame => exact h.of_sameTeam hsame
  | selects _ hswitch' => exact absurd hswitch' hswitch
  | begins _ hswitch' => exact absurd hswitch' hswitch
  | fails hdone =>
    rw [hdone]
    exact h.of_eq rfl rfl
  | commits _ hcommit' => exact absurd hcommit' (hcommit _)
  | @overlays team id' v' hdeed hteam hdone =>
    have hne : id' ≠ id := fun heq => hoverlay v' ⟨team, heq ▸ hdeed, hteam⟩
    rw [hdone]
    exact shows_overlay_other h hne hteam v'

theorem shows_after {o : Sync.Options} {m : Moment} {id : Int} {v : Confirmed}
    (h : Shows m.done id v) : Shows (m.after o).view id v := by
  rcases after_view_cases o m with hview | hview
  · rw [hview]
    exact h
  · rw [hview]
    exact h.withRefresh

/-! ## Runs after the confirmation -/

/-- **Undisturbed.** After the moment `m`, in which a value of a task was laid over the view, the
selection did not switch, nothing else was laid over the task, and every refresh that was
committed had been issued before. -/
structure Undisturbed (o : Sync.Options) (later : List Moment) (m : Moment) (id : Int) :
    Prop where
  switch : ∀ x ∈ later, ¬ x.switches
  overlay : ∀ x ∈ later, ∀ v, ¬ x.overlays id v
  commit : ∀ x ∈ later, ∀ t, x.commits t → ∀ y ∈ later ++ [m], ¬ y.issues o t

theorem Undisturbed.tail {o : Sync.Options} {later : List Moment} {x m : Moment} {id : Int}
    (h : Undisturbed o (x :: later) m id) : Undisturbed o later m id :=
  ⟨fun y hy => h.switch y (List.mem_cons_of_mem _ hy),
    fun y hy => h.overlay y (List.mem_cons_of_mem _ hy),
    fun y hy t ht z hz => h.commit y (List.mem_cons_of_mem _ hy) t ht z (List.mem_cons_of_mem _ hz)⟩

/-- While the floor is at the last number issued before `m`, no refresh issued before `m` can be
committed; so a commit after `m` is one of a refresh issued in `m` or after it. -/
theorem issued_since {o : Sync.Options} {later earlier : List Moment} {m x : Moment}
    {t : Sync.Ticket} (hrun : Run o (later ++ m :: earlier) x.scene)
    (ha : x.scene.Allows x.action) (hfloor : m.scene.view.seq ≤ x.scene.view.floor)
    (ht : x.commits t) : ∃ y ∈ later ++ [m], y.issues o t := by
  obtain ⟨after, hwaiting⟩ := waiting_of_commits ht ha
  obtain ⟨later', y, earlier', hpast, hy⟩ := hrun.issued_of_waiting hwaiting
  have habove := ((isCurrent_iff _ _).mp (guard_of_commits ht).1).2.2
  have hmem : y ∈ (later ++ [m]) ++ earlier := by
    rw [List.append_assoc, List.singleton_append, hpast]
    exact List.mem_append_right _ List.mem_cons_self
  rcases List.mem_append.mp hmem with hsince | hbefore
  · exact ⟨y, hsince, hy⟩
  -- issued before `m`, its number is not above the floor
  · obtain ⟨a, b, rfl⟩ := List.append_of_mem hbefore
    have hle := (hrun.before.issued_le hy).2
    omega

/-- **The run lemma.** Induction on the moments since; the value is shown as long as the floor
keeps away the refreshes issued before, and no moment lowers the floor. -/
theorem shows_of_undisturbed {o : Sync.Options} {later earlier : List Moment} {m : Moment}
    {c : Scene} {id : Int} {v : Confirmed} (h : Run o (later ++ m :: earlier) c)
    (hm : m.overlays id v) (hheld : m.scene.view.snapshot.tasks.any (·.id = id) = true)
    (hun : Undisturbed o later m id) :
    Shows c.view id v ∧ m.scene.view.seq ≤ c.view.floor := by
  induction later generalizing c with
  | nil =>
    obtain ⟨_, _, rfl⟩ := h.last
    have hfloor := (guard_of_overlays hm).2.2
    refine ⟨shows_after (shows_of_overlays hm hheld), ?_⟩
    rw [after_floor]
    exact Nat.le_of_eq hfloor.symm
  | cons x later ih =>
    obtain ⟨hrun, ha, rfl⟩ := h.last
    obtain ⟨hshown, hfloor⟩ := ih hrun hun.tail
    -- a refresh that commits now was issued since, and that is excluded
    have hcommit : ∀ t, ¬ x.commits t := by
      intro t ht
      obtain ⟨y, hy, hissued⟩ := issued_since hrun ha hfloor ht
      exact hun.commit x List.mem_cons_self t ht y (List.mem_cons_of_mem _ hy) hissued
    refine ⟨shows_after (shows_done hshown (hun.switch x List.mem_cons_self)
      (hun.overlay x List.mem_cons_self) hcommit), ?_⟩
    rw [after_floor]
    exact Nat.le_trans hfloor (floor_le_done hrun.ordered)

theorem isOptimistic_of_commits {o : Sync.Options} {m : Moment} {t : Sync.Ticket}
    (h : m.commits t) (id : Int) : (m.after o).view.isOptimistic id = false := by
  obtain ⟨_, tasks, agents, hdone⟩ := done_of_commits h
  rcases after_view_cases o m with hview | hview
  · rw [hview, hdone]
    rfl
  · rw [hview, hdone]
    rfl

/-! ## The headline -/

/-- **A confirmed value stays shown.** In any run, a value that was laid over a held task of the
selected team is still shown, and its task still marked as optimistic, unless a refresh issued
since was committed, the selection switched, or another value was laid over the task. After a
commit no task is marked as optimistic. -/
theorem confirmed_value_stays_shown {o : Sync.Options} {past : List Moment} {c : Scene}
    (h : Run o past c) :
    (∀ later m earlier id v, past = later ++ m :: earlier → m.overlays id v →
        m.scene.view.snapshot.tasks.any (·.id = id) = true → Undisturbed o later m id →
        (∃ t, c.view.snapshot.task? id = some t ∧ v.ShownBy t)
          ∧ c.view.isOptimistic id = true)
      ∧ ∀ m earlier t, past = m :: earlier → m.commits t →
          ∀ id, c.view.isOptimistic id = false := by
  constructor
  · intro later m earlier id v hpast hm hheld hun
    subst hpast
    obtain ⟨htask, hoptimistic⟩ := (shows_of_undisturbed h hm hheld hun).1
    exact ⟨htask, hoptimistic⟩
  · intro m earlier t hpast hm id
    subst hpast
    obtain ⟨_, _, rfl⟩ := h.last
    exact isOptimistic_of_commits hm id

def openTask : Task :=
  ⟨7, "ship", .todo, none, none, none, none, none, none⟩

/-- A task is confirmed as done while a refresh is under way that still finds it to be done. -/
def confirming : List Moment × Scene :=
  played ⟨200, 3, 200⟩
    [.confirm "alpha" 7 (.status .done), .start .refresh,
      .answer (.refresh ⟨"alpha", 1, 1⟩ .finish) (.ok ([openTask], [])), .start (.select "alpha")]

/-- The late answer to the refresh. -/
def lateAnswer : Moment :=
  ⟨confirming.2, .answer (.refresh ⟨"alpha", 1, 2⟩ .finish) (.ok ([openTask], []))⟩

/-- The late answer does not take the confirmed status away. -/
theorem status_outlives_late_answer :
    ∃ t, (lateAnswer.after ⟨200, 3, 200⟩).view.snapshot.task? 7 = some t ∧ t.status = .done := by
  have hrun : Run ⟨200, 3, 200⟩ confirming.1 confirming.2 := run_played (by decide)
  have hnext : Run ⟨200, 3, 200⟩ (lateAnswer :: confirming.1) (lateAnswer.after ⟨200, 3, 200⟩) :=
    .act _ hrun (by decide)
  have hcommit : ∀ t, ¬ lateAnswer.commits t := by
    intro t ht
    have hcurrent := (guard_of_commits ht).1
    obtain ⟨reply, hdeed, _⟩ := ht
    cases hdeed
    exact absurd hcurrent (by decide)
  have hun : ∀ m, Undisturbed ⟨200, 3, 200⟩ [lateAnswer] m 7 := by
    refine fun m => ⟨?_, ?_, ?_⟩
    · exact List.forall_mem_singleton.mpr id
    · refine List.forall_mem_singleton.mpr fun v h => ?_
      obtain ⟨_, hdeed, _⟩ := h
      cases hdeed
    · exact List.forall_mem_singleton.mpr fun t ht => absurd ht (hcommit t)
  obtain ⟨hstays, _⟩ := confirmed_value_stays_shown hnext
  exact (hstays [lateAnswer] _ _ 7 (.status .done) rfl ⟨"alpha", rfl, rfl⟩ (by decide) (hun _)).1

end TeamConsole
