import TeamConsole.Proofs.Deed

/-!
# Answers that come too late

Any number of refreshes are under way at a time, and their answers arrive in any order. An answer
may change the view only if the view it was asked for is still the one that is shown. The code
decides this with three numbers of the view; here the decision is compared with the history of
the run.

* **`Ordered`**: the invariant of the numbers, kept by every moment (`ordered_after`).
* **`InTime`**: what the history says of a refresh that may still count.
* **`isCurrent_iff_later`**: the three numbers tell exactly what happened since the issue.
* **`answer_counts_iff_inTime`**: the headline.
-/

namespace TeamConsole

open Sync (State)

/-! ## The numbers of a run -/

/-- The floor is a number that was issued, and so is that of every refresh under way. -/
structure Ordered (c : Scene) : Prop where
  floor_le : c.view.floor ≤ c.view.seq
  seq_le : ∀ {t : Sync.Ticket} {after : AfterRefresh},
    .refresh t after ∈ c.waiting → t.seq ≤ c.view.seq

theorem waiting_of_commits {m : Moment} {t : Sync.Ticket} (h : m.commits t)
    (ha : m.scene.Allows m.action) : ∃ after, .refresh t after ∈ m.scene.waiting := by
  obtain ⟨reply, hdeed, _⟩ := h
  obtain ⟨after, haction⟩ := action_of_settle hdeed
  rw [haction] at ha
  exact ⟨after, ha⟩

theorem seq_le_of_commits {m : Moment} {t : Sync.Ticket} (h : Ordered m.scene)
    (ha : m.scene.Allows m.action) (ht : m.commits t) : t.seq ≤ m.scene.view.seq := by
  obtain ⟨after, hwaiting⟩ := waiting_of_commits ht ha
  exact h.seq_le hwaiting

/-- A deed leaves the floor within the numbers issued before it. -/
theorem floor_done_le {m : Moment} (h : Ordered m.scene) (ha : m.scene.Allows m.action) :
    m.done.floor ≤ m.scene.view.seq := by
  rcases guard_cases m with hswitch | ⟨id, v, hoverlay⟩ | ⟨t, hcommit⟩ | hquiet
  · exact Nat.le_of_eq (guard_of_switches hswitch).2
  · exact Nat.le_of_eq (guard_of_overlays hoverlay).2.2
  · rw [(guard_of_commits hcommit).2.2.2]
    exact seq_le_of_commits h ha hcommit
  · rw [(guard_of_quiet hquiet).2.2]
    exact h.floor_le

theorem floor_le_done {m : Moment} (h : Ordered m.scene) :
    m.scene.view.floor ≤ m.done.floor := by
  rcases guard_cases m with hswitch | ⟨id, v, hoverlay⟩ | ⟨t, hcommit⟩ | hquiet
  · rw [(guard_of_switches hswitch).2]
    exact h.floor_le
  · rw [(guard_of_overlays hoverlay).2.2]
    exact h.floor_le
  · obtain ⟨hcurrent, _, _, hfloor⟩ := guard_of_commits hcommit
    rw [hfloor]
    exact Nat.le_of_lt ((isCurrent_iff _ _).mp hcurrent).2.2
  · exact Nat.le_of_eq (guard_of_quiet hquiet).2.2.symm

theorem ordered_after (o : Sync.Options) {m : Moment} (h : Ordered m.scene)
    (ha : m.scene.Allows m.action) : Ordered (m.after o) := by
  have hseq := (after_seq_le o m).1
  refine ⟨?_, ?_⟩
  · rw [after_floor]
    exact Nat.le_trans (floor_done_le h ha) hseq
  · intro t after hwaiting
    rcases mem_waiting_after hwaiting with hold | hissued
    · exact Nat.le_trans (h.seq_le hold) hseq
    · obtain ⟨_, _, ht, hview⟩ := ticket_of_issues hissued
      rw [hview, ht]
      exact Nat.le_refl _

theorem Run.ordered {o : Sync.Options} {past : List Moment} {c : Scene} (h : Run o past c) :
    Ordered c := by
  induction h with
  | fresh => exact ⟨Nat.le_refl _, fun h => nomatch h⟩
  | act a _ ha ih => exact ordered_after o (m := ⟨_, a⟩) ih ha

/-- The numbers of a run are at most that of its moments, so none of them outgrows a machine word
before the run has as many moments. -/
theorem Run.numbers_le_length {o : Sync.Options} {past : List Moment} {c : Scene}
    (h : Run o past c) : c.view.epoch ≤ past.length ∧ c.view.seq ≤ past.length := by
  induction h with
  | fresh => exact ⟨Nat.le_refl _, Nat.le_refl _⟩
  | @act past c a _ _ ih =>
    have hepoch := (epoch_done_le ⟨c, a⟩).2
    have hseq := (after_seq_le o ⟨c, a⟩).2
    rw [List.length_cons]
    refine ⟨?_, Nat.le_trans hseq (Nat.succ_le_succ ih.2)⟩
    show (Moment.after o ⟨c, a⟩).view.epoch ≤ past.length + 1
    rw [after_epoch]
    exact Nat.le_trans hepoch (Nat.succ_le_succ ih.1)

/-- The last moment of a run happened in a scene to which the rest of the run leads. -/
theorem Run.last {o : Sync.Options} {m : Moment} {past : List Moment} {c : Scene}
    (h : Run o (m :: past) c) :
    Run o past m.scene ∧ m.scene.Allows m.action ∧ c = m.after o := by
  cases h with
  | act a hrun ha => exact ⟨hrun, ha, rfl⟩

theorem Run.before {o : Sync.Options} {later earlier : List Moment} {m : Moment} {c : Scene}
    (h : Run o (later ++ m :: earlier) c) : Run o earlier m.scene := by
  induction later generalizing c with
  | nil => exact h.last.1
  | cons x later ih => exact ih h.last.1

/-- The numbers of a ticket are never ahead of those of the view. -/
theorem Run.issued_le {o : Sync.Options} {later earlier : List Moment} {m : Moment} {c : Scene}
    {t : Sync.Ticket} (h : Run o (later ++ m :: earlier) c) (hm : m.issues o t) :
    t.epoch ≤ c.view.epoch ∧ t.seq ≤ c.view.seq := by
  induction later generalizing c with
  | nil =>
    obtain ⟨_, _, rfl⟩ := h.last
    obtain ⟨_, hepoch, hseq, hview⟩ := ticket_of_issues hm
    rw [hview, hepoch, hseq]
    exact ⟨Nat.le_refl _, Nat.le_refl _⟩
  | cons x later ih =>
    obtain ⟨hrun, _, rfl⟩ := h.last
    have hx := ih hrun
    refine ⟨?_, Nat.le_trans hx.2 (after_seq_le o x).1⟩
    rw [after_epoch]
    exact Nat.le_trans hx.1 (epoch_done_le x).1

theorem Run.committed_le {o : Sync.Options} {past : List Moment} {c : Scene} (h : Run o past c) :
    ∀ x ∈ past, ∀ t, x.commits t → t.seq ≤ c.view.seq := by
  induction h with
  | fresh => exact fun _ hx => nomatch hx
  | @act past c a hrun ha ih =>
    intro x hx t ht
    refine Nat.le_trans ?_ (after_seq_le o ⟨c, a⟩).1
    rcases List.mem_cons.mp hx with rfl | hx
    · exact seq_le_of_commits hrun.ordered ha ht
    · exact ih x hx t ht

/-- Every refresh under way was issued in a moment of the run. -/
theorem Run.issued_of_waiting {o : Sync.Options} {past : List Moment} {c : Scene}
    (h : Run o past c) {t : Sync.Ticket} {after : AfterRefresh}
    (hw : .refresh t after ∈ c.waiting) :
    ∃ later m earlier, past = later ++ m :: earlier ∧ m.issues o t := by
  induction h with
  | fresh => exact nomatch hw
  | @act past c a _ _ ih =>
    rcases mem_waiting_after (m := ⟨c, a⟩) hw with hold | hissued
    · obtain ⟨later, m, earlier, rfl, hm⟩ := ih hold
      exact ⟨⟨c, a⟩ :: later, m, earlier, rfl, hm⟩
    · exact ⟨[], ⟨c, a⟩, past, rfl, hissued⟩

/-! ## The numbers against the history -/

/-- **Since the issue.** The moments `later` came after a refresh of `t.team` was issued, and
`past` is the whole run. The selection did not switch since, nothing was laid over the view since,
and every committed refresh has a lower number. -/
structure Unsuperseded (past later : List Moment) (t : Sync.Ticket) : Prop where
  switch : ∀ x ∈ later, ¬ x.switches
  overlay : ∀ x ∈ later, ∀ id v, ¬ x.overlays id v
  commit : ∀ x ∈ past, ∀ t', x.commits t' → t'.seq < t.seq

/-- What superseded nothing up to a moment supersedes nothing after it, unless the moment does. -/
theorem unsuperseded_cons_iff {past later : List Moment} {x : Moment} {t : Sync.Ticket} :
    Unsuperseded (x :: past) (x :: later) t ↔
      (¬ x.switches ∧ (∀ id v, ¬ x.overlays id v) ∧ ∀ t', x.commits t' → t'.seq < t.seq)
        ∧ Unsuperseded past later t := by
  constructor
  · intro ⟨hswitch, hoverlay, hcommit⟩
    obtain ⟨hs, hswitch⟩ := List.forall_mem_cons.mp hswitch
    obtain ⟨ho, hoverlay⟩ := List.forall_mem_cons.mp hoverlay
    obtain ⟨hc, hcommit⟩ := List.forall_mem_cons.mp hcommit
    exact ⟨⟨hs, ho, hc⟩, ⟨hswitch, hoverlay, hcommit⟩⟩
  · intro ⟨⟨hs, ho, hc⟩, ⟨hswitch, hoverlay, hcommit⟩⟩
    exact ⟨List.forall_mem_cons.mpr ⟨hs, hswitch⟩, List.forall_mem_cons.mpr ⟨ho, hoverlay⟩,
      List.forall_mem_cons.mpr ⟨hc, hcommit⟩⟩

/-- **The three numbers tell the history.** A refresh that the moment `m` issued is current in the
scene reached exactly if its team is selected and nothing superseded it. Induction on the moments
since the issue; each of the four kinds of moments moves both sides alike. -/
theorem isCurrent_iff_later {o : Sync.Options} {later earlier : List Moment} {m : Moment}
    {c : Scene} {t : Sync.Ticket} (h : Run o (later ++ m :: earlier) c) (hm : m.issues o t) :
    c.view.isCurrent t = true ↔
      c.view.snapshot.selectedTeam = some t.team
        ∧ Unsuperseded (later ++ m :: earlier) later t := by
  rw [isCurrent_iff]
  induction later generalizing c with
  | nil =>
    obtain ⟨hrun, ha, rfl⟩ := h.last
    obtain ⟨hteam, hepoch, hseq, _⟩ := ticket_of_issues hm
    have hfloor := floor_done_le hrun.ordered ha
    rw [seq_done] at hseq
    -- at its issue a refresh is current, and nothing has happened since
    have hcommit : ∀ x ∈ m :: earlier, ∀ t', x.commits t' → t'.seq < t.seq := by
      intro x hx t' ht'
      rw [hseq]
      rcases List.mem_cons.mp hx with rfl | hx
      · exact Nat.lt_succ_of_le (seq_le_of_commits hrun.ordered ha ht')
      · exact Nat.lt_succ_of_le (hrun.committed_le x hx t' ht')
    rw [after_epoch, after_selectedTeam, after_floor]
    constructor
    · intro ⟨_, hselected, _⟩
      exact ⟨hselected, ⟨(fun _ hx => nomatch hx), (fun _ hx => nomatch hx), hcommit⟩⟩
    · intro ⟨hselected, _⟩
      exact ⟨hepoch.symm, hselected, by omega⟩
  | cons x later ih =>
    obtain ⟨hrun, ha, rfl⟩ := h.last
    have hle := hrun.issued_le hm
    have hih := ih hrun
    rw [after_epoch, after_selectedTeam, after_floor]
    rcases guard_cases x with hx | ⟨id, v, hx⟩ | ⟨t', hx⟩ | hx
    · -- a switch leaves the epoch of the ticket behind
      obtain ⟨hepoch, _⟩ := guard_of_switches hx
      constructor
      · intro ⟨h', _, _⟩
        omega
      · intro ⟨_, hun⟩
        exact absurd hx (hun.switch x List.mem_cons_self)
    · -- an overlay raises the floor to the last number issued
      obtain ⟨_, _, hfloor⟩ := guard_of_overlays hx
      constructor
      · intro ⟨_, _, h'⟩
        omega
      · intro ⟨_, hun⟩
        exact absurd hx (hun.overlay x List.mem_cons_self id v)
    · -- a commit raises the floor to its own number, which was above the floor
      obtain ⟨hcurrent, hepoch, hteam, hfloor⟩ := guard_of_commits hx
      have habove := ((isCurrent_iff _ _).mp hcurrent).2.2
      rw [hepoch, hteam, hfloor]
      constructor
      · intro ⟨h₁, h₂, h₃⟩
        obtain ⟨_, hun⟩ := hih.mp ⟨h₁, h₂, by omega⟩
        refine ⟨h₂, unsuperseded_cons_iff.mpr ⟨⟨not_switches_of_commits hx,
          not_overlays_of_commits hx, ?_⟩, hun⟩⟩
        intro t'' ht''
        rw [commits_unique hx ht'']
        exact h₃
      · intro ⟨h₂, hun⟩
        obtain ⟨⟨_, _, hc⟩, hun⟩ := unsuperseded_cons_iff.mp hun
        obtain ⟨h₁, _, _⟩ := hih.mpr ⟨h₂, hun⟩
        exact ⟨h₁, h₂, hc t' hx⟩
    · -- any other moment moves neither side
      obtain ⟨hepoch, hteam, hfloor⟩ := guard_of_quiet hx
      rw [hepoch, hteam, hfloor, hih]
      refine and_congr_right fun _ => ?_
      constructor
      · intro hun
        exact unsuperseded_cons_iff.mpr
          ⟨⟨hx.switch, hx.overlay, fun t' ht' => absurd ht' (hx.commit t')⟩, hun⟩
      · intro hun
        exact (unsuperseded_cons_iff.mp hun).2

/-! ## The headline -/

/-- **A refresh in time.** It was issued for the team that is selected now, and nothing superseded
it since. -/
def InTime (o : Sync.Options) (past : List Moment) (c : Scene) (t : Sync.Ticket) : Prop :=
  c.view.snapshot.selectedTeam = some t.team
    ∧ ∃ later m earlier, past = later ++ m :: earlier ∧ m.issues o t ∧ Unsuperseded past later t

theorem isCurrent_iff_inTime {o : Sync.Options} {past : List Moment} {c : Scene}
    (h : Run o past c) {t : Sync.Ticket} {after : AfterRefresh}
    (hw : .refresh t after ∈ c.waiting) :
    c.view.isCurrent t = true ↔ InTime o past c t := by
  constructor
  · intro hcurrent
    obtain ⟨later, m, earlier, rfl, hm⟩ := h.issued_of_waiting hw
    obtain ⟨hteam, hun⟩ := (isCurrent_iff_later h hm).mp hcurrent
    exact ⟨hteam, later, m, earlier, rfl, hm, hun⟩
  · intro ⟨hteam, later, m, earlier, hpast, hm, hun⟩
    subst hpast
    exact (isCurrent_iff_later h hm).mpr ⟨hteam, hun⟩

/-- **An answer counts exactly if its refresh is in time.** In any run, the answer to a refresh
under way is committed, or recorded as a failure, exactly if the refresh was issued for the team
selected now, without a switch or an overlay since, and with a number above those of all
committed refreshes. It then shows its lists, or its failure. Any other answer leaves the desk as
it was, and observers are told nothing. -/
theorem answer_counts_iff_inTime {o : Sync.Options} {past : List Moment} {c : Scene}
    (h : Run o past c) {t : Sync.Ticket} {after : AfterRefresh}
    (hw : .refresh t after ∈ c.waiting)
    (reply : Except GatewayError (List Task × List Agent)) :
    ((c.view.settleRefresh t reply).2.1 ≠ .stale ↔ InTime o past c t)
      ∧ ((c.view.settleRefresh t reply).2.1 ≠ .stale →
          match reply with
          | .ok (tasks, agents) =>
            (c.after o (.answer (.refresh t after) reply)).view.snapshot.tasks = tasks
              ∧ (c.after o (.answer (.refresh t after) reply)).view.snapshot.agents = agents
          | .error e =>
            (c.after o (.answer (.refresh t after) reply)).view.lastError = some e.shortMessage)
      ∧ ((c.view.settleRefresh t reply).2.1 = .stale →
          (c.turn o (.answer (.refresh t after) reply)).desk = c.desk
            ∧ (c.turn o (.answer (.refresh t after) reply)).events = []) := by
  -- what the turn leaves of the desk and tells is what settling the refresh does
  have hdesk : (c.turn o (.answer (.refresh t after) reply)).desk
      = { c.desk with view := (c.view.settleRefresh t reply).1 } := rfl
  have htold : (c.turn o (.answer (.refresh t after) reply)).events
      = (c.view.settleRefresh t reply).2.2 := rfl
  have hcount := settleRefresh_ne_stale_iff c.view t reply
  refine ⟨hcount.trans (isCurrent_iff_inTime h hw), ?_, ?_⟩
  · intro hne
    have hcurrent := hcount.mp hne
    have hview : (c.after o (.answer (.refresh t after) reply)).view
        = (c.view.settleRefresh t reply).1 := rfl
    cases reply with
    | ok lists =>
      rw [hview, settleRefresh_ok hcurrent lists.1 lists.2]
      exact ⟨rfl, rfl⟩
    | error e => rw [hview, settleRefresh_error hcurrent]
  · intro hstale
    have hcurrent : c.view.isCurrent t = false := by
      cases hc : c.view.isCurrent t with
      | false => rfl
      | true => exact absurd hstale (hcount.mpr hc)
    rw [hdesk, htold, settleRefresh_stale hcurrent]
    exact ⟨rfl, rfl⟩

/-- Two refreshes of one team are under way, and the later one is answered first. -/
def overtaking : List Moment × Scene :=
  played ⟨200, 3, 200⟩
    [.answer (.refresh ⟨"alpha", 1, 2⟩ .finish) (.ok ([], [])), .start .refresh,
      .start (.select "alpha")]

/-- The answer to the refresh that was overtaken is too late, though its team is still selected. -/
theorem overtaken_answer_too_late :
    Run ⟨200, 3, 200⟩ overtaking.1 overtaking.2
      ∧ .refresh ⟨"alpha", 1, 1⟩ .finish ∈ overtaking.2.waiting
      ∧ overtaking.2.view.snapshot.selectedTeam = some "alpha"
      ∧ ¬ InTime ⟨200, 3, 200⟩ overtaking.1 overtaking.2 ⟨"alpha", 1, 1⟩
      ∧ (overtaking.2.turn ⟨200, 3, 200⟩
          (.answer (.refresh ⟨"alpha", 1, 1⟩ .finish) (.ok ([], [])))).events = [] := by
  have hrun : Run ⟨200, 3, 200⟩ overtaking.1 overtaking.2 := run_played (by decide)
  have hwaiting : .refresh ⟨"alpha", 1, 1⟩ .finish ∈ overtaking.2.waiting := by decide
  have hstale : (overtaking.2.view.settleRefresh ⟨"alpha", 1, 1⟩ (.ok ([], []))).2.1 = .stale := by
    decide
  obtain ⟨hcounts, _, hlate⟩ := answer_counts_iff_inTime hrun hwaiting (.ok ([], []))
  exact ⟨hrun, hwaiting, rfl, fun hin => hcounts.mpr hin hstale, (hlate hstale).2⟩

end TeamConsole
