import TeamConsole.Proofs.Queue

/-!
# Whether a decided task comes back

A decided task is taken off the approval queue at once. It is queued again when the answer to a
load tells of it. A load that was issued after the decision knows of it; a load that was already
under way may not, and its answer is installed all the same, for only a later load makes a load
too late.

* **`ReportedSince`**, **`ReportedLate`**: a load told of the task that was issued since the
  decision, or one that was under way then.
* **`holds_after_cases`**, **`back_through_load`**: nothing else brings a task back, in one moment
  and in any run.
* **`stays_off_iff_no_load_under_way`**: the headline, that the decision lasts exactly if no load
  was under way whose answer could still be installed.
* **`decided_task_comes_back`**: a run in which one was.
-/

namespace TeamConsole

/-! ## What each deed does to a queued task -/

theorem holds_iff (q : ApprovalQueue) (team : String) (id : Int) :
    q.holds team id = true ↔ q.team = some team ∧ ∃ t ∈ q.tasks, t.id = id := by
  simp [ApprovalQueue.holds, ApprovalQueue.contains]

theorem not_holds_remove (q : ApprovalQueue) (team : String) (id : Int) :
    ¬ (q.remove team id).holds team id = true := by
  rw [holds_iff, ApprovalQueue.remove]
  split
  · -- the tasks that are left have other ids
    rintro ⟨_, t, ht, hid⟩
    obtain ⟨_, hne⟩ := List.mem_filter.mp ht
    exact of_decide_eq_true hne hid
  · rename_i hteam
    exact fun h => hteam h.1

theorem holds_of_remove {q : ApprovalQueue} {team team' : String} {id id' : Int}
    (h : (q.remove team' id').holds team id = true) : q.holds team id = true := by
  rw [holds_iff] at h ⊢
  unfold ApprovalQueue.remove at h
  split at h
  · obtain ⟨hteam, t, ht, hid⟩ := h
    exact ⟨hteam, t, (List.mem_filter.mp ht).1, hid⟩
  · exact h

/-- The issue of a load queues nothing; the tasks of another team go. -/
theorem holds_of_issueLoad {q : ApprovalQueue} {team team' : String} {id : Int}
    (h : (q.issueLoad team').holds team id = true) : q.holds team id = true := by
  rw [holds_iff] at h ⊢
  obtain ⟨hteam, t, ht, hid⟩ := h
  cases Option.some.inj hteam
  simp only [ApprovalQueue.issueLoad] at ht
  split at ht
  · rename_i hsame
    exact ⟨hsame, t, ht, hid⟩
  · cases ht

/-- An answer that is installed leaves what it tells of, and nothing else. -/
theorem holds_install_iff (q : ApprovalQueue) (found : List Task) (team : String) (id : Int) :
    (QueueDeed.apply q (.install q.epoch found)).holds team id = true ↔
      q.team = some team ∧ ∃ t ∈ found, t.isPendingApproval = true ∧ t.id = id := by
  rw [QueueDeed.apply, ApprovalQueue.install?, if_pos rfl, holds_iff]
  refine and_congr_right fun _ => ?_
  constructor
  · rintro ⟨t, ht, hid⟩
    obtain ⟨hfound, hpending⟩ := List.mem_filter.mp ht
    exact ⟨t, hfound, hpending, hid⟩
  · rintro ⟨t, hfound, hpending, hid⟩
    exact ⟨t, List.mem_filter.mpr ⟨hfound, hpending⟩, hid⟩

theorem apply_install_late {q : ApprovalQueue} {epoch : Nat} (h : q.epoch ≠ epoch)
    (found : List Task) : QueueDeed.apply q (.install epoch found) = q := by
  rw [QueueDeed.apply, ApprovalQueue.install?, if_neg h]
  rfl

/-- **One moment.** A task that is queued after a moment was queued before it, or the moment is
the answer to the last load issued, and told of the task. -/
theorem holds_after_cases {o : Sync.Options} {m : Moment} (hm : Numbered m.scene)
    (ha : m.scene.Allows m.action) {team : String} {id : Int}
    (h : (m.after o).desk.queue.holds team id = true) :
    m.scene.desk.queue.holds team id = true
      ∨ m.reports team m.scene.desk.queue.epoch id
        ∧ .queue team m.scene.desk.queue.epoch ∈ m.scene.waiting := by
  rw [queue_after] at h
  have hsource := queueDeed_source m.action
  generalize m.action.queueDeed = deed at h hsource
  generalize haction : m.action = a at hsource
  cases hsource with
  | keep => exact Or.inl h
  | load => exact Or.inl (holds_of_issueLoad h)
  | decide => exact Or.inl (holds_of_remove h)
  | drop => exact Or.inl (holds_of_remove h)
  | install team' epoch found =>
    by_cases hlast : m.scene.desk.queue.epoch = epoch
    · subst hlast
      obtain ⟨hteam, t, ht, hpending, hid⟩ := (holds_install_iff _ _ _ _).mp h
      have hwaiting := ha
      rw [haction] at hwaiting
      -- the load has the number of the queue, so it is for the queue's team
      have hsame : some team' = some team := (hm.last hwaiting).symm.trans hteam
      cases hsame
      exact Or.inr ⟨⟨found, haction, t, ht, hpending, hid⟩, hwaiting⟩
    · rw [apply_install_late hlast] at h
      exact Or.inl h

/-! ## Runs after a decision -/

/-- A load under way was under way when the moment `m` was over, or was issued since. -/
theorem Run.load_waiting_since {o : Sync.Options} {later earlier : List Moment} {m : Moment}
    {c : Scene} (h : Run o (later ++ m :: earlier) c) {team : String} {epoch : Nat}
    (hw : .queue team epoch ∈ c.waiting) :
    .queue team epoch ∈ (m.after o).waiting ∨ ∃ y ∈ later, y.loads team epoch := by
  induction later generalizing c with
  | nil =>
    obtain ⟨_, _, rfl⟩ := h.last
    exact Or.inl hw
  | cons x later ih =>
    obtain ⟨hrun, _, rfl⟩ := h.last
    rcases load_waiting_after hw with hold | hloads
    · refine (ih hrun hold).imp_right ?_
      rintro ⟨y, hy, hloads⟩
      exact ⟨y, List.mem_cons_of_mem _ hy, hloads⟩
    · exact Or.inr ⟨x, List.mem_cons_self, hloads⟩

theorem queue_epoch_le (o : Sync.Options) (m : Moment) :
    m.scene.desk.queue.epoch ≤ (m.after o).desk.queue.epoch := by
  by_cases hload : ∃ team, m.action.queueDeed = .load team
  · obtain ⟨team, hdeed⟩ := hload
    rw [queue_after, hdeed]
    exact Nat.le_succ _
  · exact Nat.le_of_eq (queue_guard_after fun team hdeed => hload ⟨team, hdeed⟩).1.symm

theorem Run.queue_epoch_le {o : Sync.Options} {later earlier : List Moment} {m : Moment}
    {c : Scene} (h : Run o (later ++ m :: earlier) c) :
    m.scene.desk.queue.epoch ≤ c.desk.queue.epoch := by
  induction later generalizing c with
  | nil =>
    obtain ⟨_, _, rfl⟩ := h.last
    exact TeamConsole.queue_epoch_le o m
  | cons x later ih =>
    obtain ⟨hrun, _, rfl⟩ := h.last
    exact Nat.le_trans (ih hrun) (TeamConsole.queue_epoch_le o x)

theorem not_load_of_takesOff {m : Moment} {team : String} {id : Int} (hm : m.takesOff team id)
    (team' : String) : m.action.queueDeed ≠ .load team' := by
  rw [Moment.takesOff] at hm
  rw [hm]
  rintro ⟨⟩

/-- A decision leaves the loads under way alone. -/
theorem load_waiting_iff_of_takesOff {o : Sync.Options} {m : Moment} {team : String} {id : Int}
    (hm : m.takesOff team id) (team' : String) (epoch : Nat) :
    .queue team' epoch ∈ (m.after o).waiting ↔ .queue team' epoch ∈ m.scene.waiting := by
  refine ⟨load_waiting_before (not_load_of_takesOff hm), fun hw => ?_⟩
  refine List.mem_append_right _ ?_
  -- at most the change that is answered stops waiting
  have hsource := Moment.queueSource hm
  generalize m.action = a at hsource
  cases hsource with
  | @decide s =>
    have hother : Waiting.queue team' epoch ≠ .change s := by rintro ⟨⟩
    exact (List.mem_erase_of_ne hother).mpr hw
  | drop => exact hw

/-- Among the moments `later`, the latest one first, a load was issued for the team, and later on
its answer told of the task. -/
def ReportedSince (later : List Moment) (team : String) (id : Int) : Prop :=
  ∃ after x before epoch, later = after ++ x :: before ∧ x.reports team epoch id
    ∧ ∃ y ∈ before, y.loads team epoch

/-- Among the moments `later`, the answer to the last load issued before `m` told of the task; at
`m` it was still under way. -/
def ReportedLate (later : List Moment) (m : Moment) (team : String) (id : Int) : Prop :=
  .queue team m.scene.desk.queue.epoch ∈ m.scene.waiting
    ∧ ∃ x ∈ later, x.reports team m.scene.desk.queue.epoch id

/-- A report takes two moments, the issue of the load and its answer. -/
theorem not_reportedSince_singleton (x : Moment) (team : String) (id : Int) :
    ¬ ReportedSince [x] team id := by
  rintro ⟨after, y, before, epoch, hsplit, _, z, hz, _⟩
  have hlength := congrArg List.length hsplit
  have hpos := List.length_pos_of_mem hz
  simp only [List.length_append, List.length_cons, List.length_nil] at hlength
  omega

theorem ReportedSince.cons {later : List Moment} {team : String} {id : Int}
    (h : ReportedSince later team id) (x : Moment) : ReportedSince (x :: later) team id := by
  obtain ⟨after, y, before, epoch, rfl, hreports, hload⟩ := h
  exact ⟨x :: after, y, before, epoch, rfl, hreports, hload⟩

theorem ReportedLate.cons {later : List Moment} {m : Moment} {team : String} {id : Int}
    (h : ReportedLate later m team id) (x : Moment) : ReportedLate (x :: later) m team id := by
  obtain ⟨hwaiting, y, hy, hreports⟩ := h
  exact ⟨hwaiting, y, List.mem_cons_of_mem _ hy, hreports⟩

/-- **What brings a task back.** A task that is queued after its decision was told of by a load
issued since, or by the one that was under way at the decision. -/
theorem back_through_load {o : Sync.Options} {later earlier : List Moment} {m : Moment}
    {c : Scene} (h : Run o (later ++ m :: earlier) c) {team : String} {id : Int}
    (hm : m.takesOff team id) (hqueued : c.desk.queue.holds team id = true) :
    ReportedSince later team id ∨ ReportedLate later m team id := by
  induction later generalizing c with
  | nil =>
    obtain ⟨_, _, rfl⟩ := h.last
    rw [queue_after, hm] at hqueued
    exact absurd hqueued (not_holds_remove _ team id)
  | cons x later ih =>
    obtain ⟨hrun, ha, rfl⟩ := h.last
    rcases holds_after_cases hrun.numbered ha hqueued with hbefore | ⟨hreports, hwaiting⟩
    · exact (ih hrun hbefore).imp (·.cons x) (·.cons x)
    · rcases hrun.load_waiting_since hwaiting with hold | hissued
      · -- issued before the decision: the queue's number has not moved since
        rw [load_waiting_iff_of_takesOff hm] at hold
        have hepoch : x.scene.desk.queue.epoch = m.scene.desk.queue.epoch :=
          Nat.le_antisymm (hrun.before.numbered.le hold) hrun.queue_epoch_le
        rw [hepoch] at hold hreports
        exact Or.inr ⟨hold, x, List.mem_cons_self, hreports⟩
      · exact Or.inl ⟨[], x, later, _, rfl, hreports, hissued⟩

/-! ## The headline -/

/-- **A decision lasts exactly if no load was under way that could still be installed.** Take any
run up to the decision of a task. If the last load issued is not under way then, the task is in
the queue again, however the run goes on, only after a load issued since has told of it. If it is
under way, its own answer can bring the task back. -/
theorem stays_off_iff_no_load_under_way {o : Sync.Options} {earlier : List Moment} {m : Moment}
    (h : Run o earlier m.scene) (ha : m.scene.Allows m.action) {team : String} {id : Int}
    (hm : m.takesOff team id) :
    (∀ later c, Run o (later ++ m :: earlier) c → c.desk.queue.holds team id = true →
        ReportedSince later team id)
      ↔ .queue team m.scene.desk.queue.epoch ∉ m.scene.waiting := by
  constructor
  · intro hlasts hwaiting
    have hrun : Run o (m :: earlier) (m.after o) := .act m.action h ha
    obtain ⟨hepoch, hteam⟩ := queue_guard_after (o := o) (not_load_of_takesOff hm)
    have hnumbered := h.numbered.last hwaiting
    rw [← load_waiting_iff_of_takesOff (o := o) hm, ← hepoch] at hwaiting
    rw [← hteam] at hnumbered
    -- answer the load at once, with the task as it was before the decision
    let t : Task := ⟨id, "", .inApproval, none, none, none, none, none, none⟩
    let reply : Action := .answer (.queue team (m.after o).desk.queue.epoch) (.ok [t])
    have hback : ((m.after o).after o reply).desk.queue.holds team id = true := by
      rw [show ((m.after o).after o reply).desk.queue = _ from queue_turn o _ reply]
      exact (holds_install_iff _ _ _ _).mpr ⟨hnumbered, t, List.mem_cons_self, rfl, rfl⟩
    exact not_reportedSince_singleton _ team id
      (hlasts [⟨m.after o, reply⟩] _ (.act reply hrun hwaiting) hback)
  · intro hnone later c hrun hqueued
    exact (back_through_load hrun hm hqueued).resolve_right fun hlate => hnone hlate.1

/-- A task that waits for approval. -/
def awaited : Task :=
  ⟨7, "ship", .inApproval, none, none, none, none, none, none⟩

/-- The task is found by a load, and its approval is sent. -/
def approving : List Action :=
  [.start (.change (.approve "alpha" awaited .approved)),
    .answer (.queue "alpha" 1) (.ok [awaited]), .start (.loadQueue "alpha")]

/-- The server takes the approval. -/
def approval : Action :=
  .answer (.change (.status "alpha" 7 .merging true))
    (.ok (⟨some 7, none, none, none⟩ : TaskUpdate))

/-- The scene in which the approval is answered; no load is under way. -/
def approved : List Moment × Scene :=
  played ⟨200, 3, 200⟩ approving

/-- After the approval the queue is loaded again, and the server tells of the task once more. -/
def reopened : List Moment × Scene :=
  played ⟨200, 3, 200⟩
    (.answer (.queue "alpha" 2) (.ok [awaited]) :: .start (.loadQueue "alpha") :: approval
      :: approving)

/-- The task is queued again because the load issued after the approval told of it. -/
theorem reopened_task_was_reported :
    reopened.2.desk.queue.holds "alpha" 7 = true
      ∧ ReportedSince (reopened.1.take 2) "alpha" 7 := by
  have hrun : Run ⟨200, 3, 200⟩ approved.1 approved.2 := run_played (by decide)
  have hqueued : reopened.2.desk.queue.holds "alpha" 7 = true := by decide
  have hdecides : Moment.takesOff ⟨approved.2, approval⟩ "alpha" 7 := rfl
  have hlasts := stays_off_iff_no_load_under_way hrun (by decide) hdecides
  have hsplit : reopened.1 = reopened.1.take 2 ++ ⟨approved.2, approval⟩ :: approved.1 := rfl
  have hlater : Run ⟨200, 3, 200⟩ reopened.1 reopened.2 := run_played (by decide)
  rw [hsplit] at hlater
  exact ⟨hqueued, hlasts.mpr (by decide) _ _ hlater hqueued⟩

/-- A second load is under way when the approval is answered. -/
def reloading : List Moment × Scene :=
  played ⟨200, 3, 200⟩ (.start (.loadQueue "alpha") :: approving)

/-- Its answer is from before the approval. -/
def raced : List Moment × Scene :=
  played ⟨200, 3, 200⟩
    (.answer (.queue "alpha" 2) (.ok [awaited]) :: approval :: .start (.loadQueue "alpha")
      :: approving)

/-- **A decided task comes back.** The answer of a load that was issued before the approval puts
the task into the queue again, though no load was issued since. -/
theorem decided_task_comes_back :
    raced.1 = raced.1.take 1 ++ ⟨reloading.2, approval⟩ :: reloading.1
      ∧ Run ⟨200, 3, 200⟩ raced.1 raced.2
      ∧ Moment.takesOff ⟨reloading.2, approval⟩ "alpha" 7
      ∧ raced.2.desk.queue.holds "alpha" 7 = true
      ∧ ¬ ReportedSince (raced.1.take 1) "alpha" 7 :=
  ⟨rfl, run_played (by decide), rfl, by decide, not_reportedSince_singleton _ "alpha" 7⟩

end TeamConsole
