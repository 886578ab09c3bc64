import TeamConsole.Proofs.DecidedTask

/-!
# Where the queued tasks come from

The team of the approval queue is switched when a load is issued, but its tasks arrive with the
answer, when other loads may have been issued for other teams, may have failed, and tasks may have
been decided. The number of the queue counts the loads issued, so it tells whether an answer is
that to the last one.

* **`Run.queue_epoch_eq`**, **`Run.last_load_iff`**: the number of the queue against the history.
* **`FromAnswer`**: the tasks are some of those that one answer brought, to a load for the team of
  the queue; kept by each deed (`fromAnswer_after`).
* **`Receives`**: how the answer to a load is received.
* **`queue_follows_last_load`**: the headline.
-/

namespace TeamConsole

/-! ## The loads of a run -/

def Moment.isLoad (m : Moment) : Bool :=
  match m.action with
  | .start (.loadQueue _) => true
  | _ => false

theorem isLoad_iff (m : Moment) :
    m.isLoad = true ↔ ∃ team, m.action.queueDeed = .load team := by
  obtain ⟨c, a⟩ := m
  constructor
  · intro h
    unfold Moment.isLoad at h
    split at h
    · exact ⟨_, congrArg Action.queueDeed ‹_›⟩
    · cases h
  · rintro ⟨team, hdeed⟩
    have hsource := Moment.queueSource hdeed
    generalize haction : Moment.action ⟨c, a⟩ = action at hsource
    cases hsource
    unfold Moment.isLoad
    rw [haction]

theorem queue_epoch_after (o : Sync.Options) (m : Moment) :
    (m.after o).desk.queue.epoch
      = m.scene.desk.queue.epoch + if m.isLoad = true then 1 else 0 := by
  by_cases hload : m.isLoad = true
  · obtain ⟨team, hdeed⟩ := (isLoad_iff m).mp hload
    rw [if_pos hload, queue_after, hdeed]
    rfl
  · rw [if_neg hload]
    exact (queue_guard_after fun team hdeed => hload ((isLoad_iff m).mpr ⟨team, hdeed⟩)).1

/-- **The number of the queue counts the loads issued.** -/
theorem Run.queue_epoch_eq {o : Sync.Options} {past : List Moment} {c : Scene} (h : Run o past c) :
    c.desk.queue.epoch = past.countP Moment.isLoad := by
  induction h with
  | fresh => rfl
  | @act past c a _ _ ih =>
    rw [List.countP_cons, ← ih]
    exact queue_epoch_after o ⟨c, a⟩

/-- The number of the queue is that of a load exactly if no load was issued after it. -/
theorem Run.last_load_iff {o : Sync.Options} {later earlier : List Moment} {m : Moment}
    {c : Scene} (h : Run o (later ++ m :: earlier) c) {team : String} {epoch : Nat}
    (hm : m.loads team epoch) :
    c.desk.queue.epoch = epoch ↔ ∀ y ∈ later, y.isLoad = false := by
  obtain ⟨haction, hepoch⟩ := hm
  have hload : m.isLoad = true := by
    unfold Moment.isLoad
    rw [haction]
  have hnow : c.desk.queue.epoch = later.countP Moment.isLoad + epoch := by
    rw [h.queue_epoch_eq, hepoch, h.before.queue_epoch_eq, List.countP_append,
      List.countP_cons_of_pos hload]
  have hzero : later.countP Moment.isLoad = 0 ↔ ∀ y ∈ later, y.isLoad = false := by
    simp only [List.countP_eq_zero, Bool.not_eq_true]
  rw [← hzero]
  omega

theorem Run.load_issued {o : Sync.Options} {past : List Moment} {c : Scene} (h : Run o past c)
    {team : String} {epoch : Nat} (hw : .queue team epoch ∈ c.waiting) :
    ∃ y ∈ past, y.loads team epoch := by
  induction h with
  | fresh => exact nomatch hw
  | @act past c a _ _ ih =>
    rcases load_waiting_after (m := ⟨c, a⟩) hw with hold | hloads
    · obtain ⟨y, hy, hloads⟩ := ih hold
      exact ⟨y, List.mem_cons_of_mem _ hy, hloads⟩
    · exact ⟨⟨c, a⟩, List.mem_cons_self, hloads⟩

/-! ## The source of the tasks -/

/-- **From an answer.** The queue is empty, or its tasks are some of those that wait for a decision
among what one answer brought, in its order, and that load was issued for the team of the queue. -/
inductive FromAnswer (past : List Moment) (q : ApprovalQueue) : Prop where
  | empty (htasks : q.tasks = [])
  | found {team : String} {epoch : Nat} {found : List Task} {later earlier : List Moment}
      {x : Moment} (hpast : past = later ++ x :: earlier)
      (hanswer : x.action = .answer (.queue team epoch) (.ok found))
      (hissued : ∃ y ∈ earlier, y.loads team epoch) (hteam : q.team = some team)
      (htasks : q.tasks.Sublist (found.filter Task.isPendingApproval))

theorem FromAnswer.pending {past : List Moment} {q : ApprovalQueue} (h : FromAnswer past q)
    {t : Task} (ht : t ∈ q.tasks) : t.isPendingApproval = true := by
  cases h with
  | empty htasks =>
    rw [htasks] at ht
    cases ht
  | found _ _ _ _ htasks => exact (List.mem_filter.mp (htasks.subset ht)).2

theorem FromAnswer.of_sublist {past : List Moment} {q q' : ApprovalQueue} (h : FromAnswer past q)
    (m : Moment) (hteam : q'.team = q.team) (htasks : q'.tasks.Sublist q.tasks) :
    FromAnswer (m :: past) q' := by
  cases h with
  | empty hnil =>
    rw [hnil] at htasks
    exact .empty (List.sublist_nil.mp htasks)
  | @found team epoch found later earlier x hpast hanswer hissued hqteam hqtasks =>
    have hpast' : m :: past = (m :: later) ++ x :: earlier := by rw [hpast, List.cons_append]
    exact .found hpast' hanswer hissued (hteam.trans hqteam) (htasks.trans hqtasks)

theorem apply_takeOff (q : ApprovalQueue) (team : String) (id : Int) :
    QueueDeed.apply q (.takeOff team id) =
      if q.team = some team then { q with tasks := q.tasks.filter (·.id ≠ id) } else q :=
  rfl

theorem FromAnswer.takeOff {past : List Moment} {q : ApprovalQueue} (h : FromAnswer past q)
    (m : Moment) (team : String) (id : Int) :
    FromAnswer (m :: past) (QueueDeed.apply q (.takeOff team id)) := by
  rw [apply_takeOff]
  split
  · exact h.of_sublist m rfl List.filter_sublist
  · exact h.of_sublist m rfl (.refl _)

theorem fromAnswer_after {o : Sync.Options} {past : List Moment} {m : Moment}
    (hrun : Run o past m.scene) (ha : m.scene.Allows m.action)
    (h : FromAnswer past m.scene.desk.queue) : FromAnswer (m :: past) (m.after o).desk.queue := by
  rw [queue_after]
  have hsource := queueDeed_source m.action
  generalize m.action.queueDeed = deed at hsource ⊢
  generalize haction : m.action = a at hsource
  cases hsource with
  | keep => exact h.of_sublist m rfl (.refl _)
  | load team =>
    by_cases hteam : m.scene.desk.queue.team = some team
    · refine h.of_sublist m hteam.symm ?_
      simp only [QueueDeed.apply, ApprovalQueue.issueLoad, if_pos hteam]
      exact .refl _
    · -- the tasks of another team are dropped at once, before any answer
      refine .empty ?_
      simp only [QueueDeed.apply, ApprovalQueue.issueLoad, if_neg hteam]
  | install team epoch found =>
    by_cases hlast : m.scene.desk.queue.epoch = epoch
    · -- the last load issued: the queue has its team since then
      subst hlast
      have hwaiting : .queue team m.scene.desk.queue.epoch ∈ m.scene.waiting := by
        rw [haction] at ha
        exact ha
      have hpast : m :: past = [] ++ m :: past := rfl
      refine .found hpast haction (hrun.load_issued hwaiting) ?_ ?_
      · rw [QueueDeed.apply, ApprovalQueue.install?, if_pos rfl]
        exact hrun.numbered.last hwaiting
      · rw [QueueDeed.apply, ApprovalQueue.install?, if_pos rfl]
        exact .refl _
    · rw [apply_install_late hlast]
      exact h.of_sublist m rfl (.refl _)
  | @decide s answer team id => exact h.takeOff m team id
  | drop team id => exact h.takeOff m team id

theorem Run.fromAnswer {o : Sync.Options} {past : List Moment} {c : Scene} (h : Run o past c) :
    FromAnswer past c.desk.queue := by
  induction h with
  | fresh => exact .empty rfl
  | act a hrun ha ih => exact fromAnswer_after (m := ⟨_, a⟩) hrun ha ih

/-! ## How an answer is received -/

/-- The queue is the one that a moment left, with the deeds since then. -/
theorem Run.queue_since {o : Sync.Options} {later earlier : List Moment} {m : Moment} {c : Scene}
    (h : Run o (later ++ m :: earlier) c) :
    c.desk.queue = later.foldr (fun x q => x.action.queueDeed.apply q) (m.after o).desk.queue := by
  induction later generalizing c with
  | nil =>
    obtain ⟨_, _, rfl⟩ := h.last
    rfl
  | cons x later ih =>
    obtain ⟨hrun, _, rfl⟩ := h.last
    rw [queue_after, ih hrun]
    rfl

/-- **How a scene receives the answer** to a load for a team that is under way, was issued on the
queue `issued` under a number, and was followed by the moments `later`. It is installed exactly if
no load was issued since, even if that one has failed. A failed load changes nothing: the queue is
as the issue left it, with what other moments did since. -/
structure Receives (o : Sync.Options) (later : List Moment) (issued : ApprovalQueue) (c : Scene)
    (team : String) (epoch : Nat) : Prop where
  last : (∀ y ∈ later, y.isLoad = false) → ∀ found : List Task,
    c.desk.resume o (.queue team epoch) (.ok found) =
      ⟨{ c.desk with queue := ⟨some team, epoch, found.filter Task.isPendingApproval⟩ }, [],
        .done (.installed true) none⟩
  late : (∃ y ∈ later, y.isLoad = true) → ∀ found : List Task,
    c.desk.resume o (.queue team epoch) (.ok found) = c.desk.ended (.installed false)
  failed : ∀ e, c.desk.resume o (.queue team epoch) (.error e) = c.desk.ended (.failed e)
  since : c.desk.queue
    = later.foldr (fun x q => x.action.queueDeed.apply q) (issued.issueLoad team)

theorem Run.receives {o : Sync.Options} {later earlier : List Moment} {m : Moment} {c : Scene}
    (h : Run o (later ++ m :: earlier) c) {team : String} {epoch : Nat} (hm : m.loads team epoch)
    (hwaiting : .queue team epoch ∈ c.waiting) :
    Receives o later m.scene.desk.queue c team epoch := by
  have hlast := h.last_load_iff hm
  refine ⟨?_, ?_, fun _ => rfl, ?_⟩
  · intro hnone found
    have hepoch : c.desk.queue.epoch = epoch := hlast.mpr hnone
    have hteam : c.desk.queue.team = some team := by
      rw [← hepoch] at hwaiting
      exact h.numbered.last hwaiting
    have hinstall : c.desk.queue.install? epoch found
        = some ⟨some team, epoch, found.filter Task.isPendingApproval⟩ := by
      rw [ApprovalQueue.install?, if_pos hepoch, hteam, hepoch]
    simp only [Desk.resume, hinstall]
  · rintro ⟨y, hy, hload⟩ found
    have hepoch : c.desk.queue.epoch ≠ epoch := by
      intro hepoch
      rw [hlast.mp hepoch y hy] at hload
      cases hload
    simp only [Desk.resume, ApprovalQueue.install?, if_neg hepoch]
  · rw [h.queue_since, queue_after, hm.1]
    rfl

/-! ## The headline -/

/-- **The queue follows the last load issued.** In every scene of every run each queued task waits
for a decision, and the queue comes from one answer, to a load for its team. The answer to a load
under way is installed exactly if no other was issued since; otherwise, or if it failed, it changes
nothing. A task that is taken off leaves the queue of another team alone; from the queue of its own
team exactly the tasks of its number go, and the others keep their order. -/
theorem queue_follows_last_load {o : Sync.Options} {past : List Moment} {c : Scene}
    (h : Run o past c) :
    (∀ t ∈ c.desk.queue.tasks, t.isPendingApproval = true)
      ∧ FromAnswer past c.desk.queue
      ∧ (∀ later m earlier team epoch, past = later ++ m :: earlier → m.loads team epoch →
          .queue team epoch ∈ c.waiting → Receives o later m.scene.desk.queue c team epoch)
      ∧ ∀ a team id, Moment.takesOff ⟨c, a⟩ team id →
          (c.after o a).desk.queue =
            if c.desk.queue.team = some team then
              { c.desk.queue with tasks := c.desk.queue.tasks.filter (·.id ≠ id) }
            else c.desk.queue := by
  refine ⟨fun _ => h.fromAnswer.pending, h.fromAnswer, ?_, ?_⟩
  · rintro later m earlier team epoch rfl hm hwaiting
    exact h.receives hm hwaiting
  · intro a team id htakes
    rw [← apply_takeOff, ← htakes]
    exact queue_after o ⟨c, a⟩

/-- A load is issued for one team, then one for another, which fails. -/
def superseded : List Moment × Scene :=
  played ⟨200, 3, 200⟩
    [.answer (.queue "beta" 2) (.error (.transport "down")), .start (.loadQueue "beta"),
      .start (.loadQueue "alpha")]

/-- The older load comes too late, though the newer one has failed. -/
theorem failed_load_supersedes :
    .queue "alpha" 1 ∈ superseded.2.waiting
      ∧ superseded.2.desk.resume ⟨200, 3, 200⟩ (.queue "alpha" 1) (.ok [awaited])
          = superseded.2.desk.ended (.installed false) := by
  have hrun : Run ⟨200, 3, 200⟩ superseded.1 superseded.2 := run_played (by decide)
  have hwaiting : .queue "alpha" 1 ∈ superseded.2.waiting := by decide
  have hsplit : superseded.1
      = superseded.1.take 2 ++ ⟨{}, .start (.loadQueue "alpha")⟩ :: [] := rfl
  obtain ⟨_, _, hreceives, _⟩ := queue_follows_last_load hrun
  have hload := hreceives _ _ _ "alpha" 1 hsplit ⟨rfl, rfl⟩ hwaiting
  exact ⟨hwaiting, hload.late ⟨_, List.mem_cons_of_mem _ List.mem_cons_self, rfl⟩ [awaited]⟩

end TeamConsole
