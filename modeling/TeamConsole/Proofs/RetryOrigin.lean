import TeamConsole.Proofs.Freshness

/-!
# Where a retry comes from

Many operations refresh, but only two go on in the background when the refresh fails: a refresh
that was asked to try again, and the one that follows a change. This module goes through all steps
once and says which of them leave a retry behind, and what that retry starts from.

* **`Moment.spawned`**: the retry that a moment leaves behind.
* **`leftBehind_start`**, **`leftBehind_wake`**, **`leftBehind_resume`**: the steps that leave none.
* **`spawned_eq_some_iff`**: the moments that leave one.
* **`startsFrom_of_spawned`**: the numbers that it remembers, and the refresh issued above them.
* **`sleeps_of_spawned`**: it sleeps after the moment.
-/

namespace TeamConsole

open Sync (State)

/-! ## The retry that is left behind -/

/-- The retry that an operation leaves behind where it ends. -/
def Next.leftBehind : Next → Option Sync.Retry
  | .done _ retry => retry
  | _ => none

/-- Whether a failure of the refresh leaves a retry behind. -/
def AfterRefresh.retries : AfterRefresh → Bool
  | .finishWithRetry | .confirmed _ => true
  | _ => false

/-- The retry that an action leaves behind. -/
def Scene.spawned (o : Sync.Options) (c : Scene) : Action → Option Sync.Retry
  | .start op => (c.desk.start o op).next.leftBehind
  | .answer w reply => (c.desk.resume o w reply).next.leftBehind
  | .wake r => (c.desk.wake o r).next.leftBehind
  | .confirm .. | .drop .. => none

def Moment.spawned (o : Sync.Options) (m : Moment) : Option Sync.Retry :=
  m.scene.spawned o m.action

theorem leftBehind_afterRefresh (o : Sync.Options) (d : Desk) (outcome : Sync.Outcome)
    (after : AfterRefresh) :
    (d.afterRefresh o outcome after).leftBehind
      = if after.retries then d.retryOf o outcome else none := by
  cases after with
  | retry r =>
    simp only [Desk.afterRefresh]
    split <;> rfl
  | _ => rfl

theorem retryOf_eq_some_iff {o : Sync.Options} {d : Desk} {outcome : Sync.Outcome}
    {r : Sync.Retry} :
    d.retryOf o outcome = some r ↔
      outcome.isFailed = true ∧ 0 < o.retryAttempts ∧ r = ⟨d.view.epoch, d.view.floor, 0⟩ := by
  unfold Desk.retryOf
  split
  · rename_i h
    simp [h, eq_comm]
  · rename_i h
    simp only [reduceCtorEq, false_iff]
    exact fun ⟨hfailed, hpos, _⟩ => h ⟨hfailed, hpos⟩

/-- A refresh that is issued has not failed, and one without a team does not fail. -/
theorem leftBehind_refresh (o : Sync.Options) (d : Desk) (told : List Sync.Event)
    (after : AfterRefresh) : (d.refresh o told after).next.leftBehind = none := by
  unfold Desk.refresh
  cases d.view.issueTicket? with
  | none =>
    have hnone : d.retryOf o .noTeam = none := if_neg fun h => nomatch h.1
    show (d.afterRefresh o .noTeam after).leftBehind = none
    rw [leftBehind_afterRefresh, hnone, ite_self]
  | some issued => rfl

theorem leftBehind_start (o : Sync.Options) (d : Desk) (op : Operation) :
    (d.start o op).next.leftBehind = none := by
  cases op with
  | select name => exact leftBehind_refresh o _ _ _
  | refresh => exact leftBehind_refresh o d _ _
  | refreshWithRetry => exact leftBehind_refresh o d _ _
  | notify n =>
    simp only [Desk.start]
    split
    · exact leftBehind_refresh o d _ _
    · rfl
    · rfl
    · rfl
  | change t =>
    simp only [Desk.start]
    split <;> rfl
  | _ => rfl

theorem leftBehind_wake (o : Sync.Options) (d : Desk) (r : Sync.Retry) :
    (d.wake o r).next.leftBehind = none := by
  unfold Desk.wake
  split
  · rfl
  · exact leftBehind_refresh o d _ _

theorem leftBehind_report (o : Sync.Options) (d : Desk) (told : List Sync.Event)
    (c : Confirmation) : (d.report o told c).next.leftBehind = none := by
  unfold Desk.report
  split
  · exact leftBehind_refresh o d _ _
  · rfl

/-- Only the answer to a refresh leaves a retry behind. -/
theorem leftBehind_resume (o : Sync.Options) (d : Desk) {w : Waiting} (reply : w.Reply)
    (hw : w.isRefresh = false) : (d.resume o w reply).next.leftBehind = none := by
  cases w with
  | refresh t after => cases hw
  | bootstrap teamsSeq networkSeq =>
    cases reply with
    | error e => rfl
    | ok b =>
      simp only [Desk.resume]
      split
      · rfl
      · exact leftBehind_refresh o _ _ _
  | teams seq notified => cases reply <;> rfl
  | network seq notified => cases reply <;> rfl
  | queue team epoch =>
    cases reply with
    | error e => rfl
    | ok found =>
      simp only [Desk.resume]
      split <;> rfl
  | change s =>
    cases reply with
    | error e => rfl
    | ok answer =>
      simp only [Desk.resume]
      split
      · exact leftBehind_report o _ _ _
      · rfl

theorem leftBehind_resume_refresh (o : Sync.Options) (d : Desk) (t : Sync.Ticket)
    (after : AfterRefresh) (reply : (Waiting.refresh t after).Reply) :
    (d.resume o (.refresh t after) reply).next.leftBehind
      = if after.retries then
          Desk.retryOf o { d with view := (d.view.settleRefresh t reply).1 }
            (d.view.settleRefresh t reply).2.1
        else none :=
  leftBehind_afterRefresh o _ _ after

theorem eq_refresh_of_isRefresh {w : Waiting} (h : w.isRefresh = true) :
    ∃ t after, w = .refresh t after := by
  cases w with
  | refresh t after => exact ⟨t, after, rfl⟩
  | _ => cases h

/-- **Which moments leave a retry behind.** The answer to a refresh has to come in time and to be
a failure, the refresh has to be one that is tried again, and tries have to be allowed. -/
theorem spawned_eq_some_iff {o : Sync.Options} {m : Moment} {r : Sync.Retry} :
    m.spawned o = some r ↔
      ∃ t after reply, m.action = .answer (.refresh t after) reply
        ∧ after.retries = true
        ∧ (m.scene.view.settleRefresh t reply).2.1.isFailed = true
        ∧ 0 < o.retryAttempts
        ∧ r = ⟨m.done.epoch, m.done.floor, 0⟩ := by
  obtain ⟨c, a⟩ := m
  constructor
  · intro h
    change c.spawned o a = some r at h
    cases a with
    | start op =>
      rw [Scene.spawned, leftBehind_start] at h
      cases h
    | wake r' =>
      rw [Scene.spawned, leftBehind_wake] at h
      cases h
    | confirm team id v => cases h
    | drop team id => cases h
    | answer w reply =>
      rw [Scene.spawned] at h
      cases hw : w.isRefresh with
      | false =>
        rw [leftBehind_resume o _ reply hw] at h
        cases h
      | true =>
        obtain ⟨t, after, rfl⟩ := eq_refresh_of_isRefresh hw
        rw [leftBehind_resume_refresh] at h
        split at h
        · rename_i hretries
          obtain ⟨hfailed, hpos, hr⟩ := retryOf_eq_some_iff.mp h
          exact ⟨t, after, reply, rfl, hretries, hfailed, hpos, hr⟩
        · cases h
  · rintro ⟨t, after, reply, rfl, hretries, hfailed, hpos, rfl⟩
    show c.spawned o (.answer (.refresh t after) reply) = _
    rw [Scene.spawned, leftBehind_resume_refresh, if_pos hretries]
    exact retryOf_eq_some_iff.mpr ⟨hfailed, hpos, rfl⟩

/-- **What a retry starts from.** It has the numbers that the moment leaves, a refresh was issued
above the floor, and a team is selected. -/
structure StartsFrom (o : Sync.Options) (m : Moment) (r : Sync.Retry) : Prop where
  allowed : 0 < o.retryAttempts
  numbers : r = ⟨(m.after o).view.epoch, (m.after o).view.floor, 0⟩
  gap : (m.after o).view.floor < (m.after o).view.seq
  team : ∃ team, (m.after o).view.snapshot.selectedTeam = some team

/-- The refresh above the floor is the one that failed. -/
theorem startsFrom_of_spawned {o : Sync.Options} {earlier : List Moment} {m : Moment} {c : Scene}
    {r : Sync.Retry} (h : Run o (m :: earlier) c) (hr : m.spawned o = some r) :
    StartsFrom o m r := by
  obtain ⟨hrun, ha, _⟩ := h.last
  obtain ⟨t, after, reply, haction, _, hfailed, hpos, rfl⟩ := spawned_eq_some_iff.mp hr
  obtain ⟨hcurrent, e, rfl⟩ := of_settleRefresh_failed hfailed
  obtain ⟨_, hteam, habove⟩ := (isCurrent_iff _ _).mp hcurrent
  -- a failure is recorded, and leaves the numbers and the selection alone
  have hdone : m.done
      = { m.scene.view with lastError := some e.shortMessage, phase := .error } := by
    unfold Moment.done Scene.done
    rw [haction]
    show (m.scene.view.settleRefresh t (.error e)).1 = _
    rw [settleRefresh_error hcurrent]
  rw [haction] at ha
  have hissued : t.seq ≤ m.scene.view.seq := hrun.ordered.seq_le ha
  have hseq := (after_seq_le o m).1
  refine ⟨hpos, by rw [after_epoch, after_floor], ?_, t.team, ?_⟩
  · have hfloor : (m.after o).view.floor = m.scene.view.floor := by rw [after_floor, hdone]
    omega
  · rw [after_selectedTeam, hdone]
    exact hteam

theorem sleeps_of_leftBehind {s : Step} {r : Sync.Retry} (h : s.next.leftBehind = some r) :
    s.turn.sleeps = some r := by
  obtain ⟨d, told, next⟩ := s
  cases next with
  | done result retry => exact h
  | wait w => cases h
  | sleep r' => cases h

theorem sleeps_of_spawned {o : Sync.Options} {m : Moment} {r : Sync.Retry}
    (h : m.spawned o = some r) : r ∈ (m.after o).asleep := by
  obtain ⟨c, a⟩ := m
  have hsleeps : (c.turn o a).sleeps = some r := by
    cases a with
    | start op => exact sleeps_of_leftBehind h
    | answer w reply => exact sleeps_of_leftBehind h
    | wake r' => exact sleeps_of_leftBehind h
    | confirm team id v => cases h
    | drop team id => cases h
  exact List.mem_append_left _ (Option.mem_toList.mpr hsleeps)

end TeamConsole
