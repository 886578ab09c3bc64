import TeamConsole.Proofs.Announcement
import TeamConsole.Proofs.Change
import TeamConsole.Proofs.Coherence

/-!
# Clearing the selection

A blank name selects no team. The view is empty then, and the answers that are still on their way
come too late. Whether it is idle is another matter: to clear a selection that is clear already
changes nothing, and without a team there is one thing that can have left an error behind, a
bootstrap that failed.

* **`BeganInVain`**: a bootstrap failed, and the selection has not switched since.
* **`sameTeam_of_unselected`**: without a team, nothing but a switch and such a failure reaches the
  team's part of the view.
* **`Run.lastError_iff_beganInVain`**: so the last error tells of exactly these failures.
* **`exists_switch_since`**, **`not_current_after`**: a refresh is too late once its team was
  deselected, also when the team is selected again.
* **`cleared_is_idle_iff`**: the headline.
* **`failed_bootstrap_outlives_clearing`**: a run in which the view is not idle.
-/

namespace TeamConsole

open Sync (State)

/-! ## What can have happened without a team -/

/-- The answer to a bootstrap is a failure. -/
def Moment.failsToBegin (m : Moment) (e : GatewayError) : Prop :=
  ∃ teamsSeq networkSeq, m.action = .answer (.bootstrap teamsSeq networkSeq) (.error e)

/-- **Begun in vain.** Of the moments, the latest one first, one is the failure `e` of a bootstrap,
and since then no other bootstrap has failed and the selection has not switched. -/
inductive BeganInVain : List Moment → GatewayError → Prop where
  | fails {m : Moment} {e : GatewayError} (h : m.failsToBegin e) (past : List Moment) :
      BeganInVain (m :: past) e
  | since {m : Moment} {past : List Moment} {e : GatewayError} (h : BeganInVain past e)
      (hfails : ∀ e', ¬ m.failsToBegin e') (hswitch : ¬ m.switches) : BeganInVain (m :: past) e

theorem deed_of_failsToBegin {m : Moment} {e : GatewayError} (h : m.failsToBegin e) :
    m.deed = .failBegin e := by
  obtain ⟨teamsSeq, networkSeq, haction⟩ := h
  unfold Moment.deed
  rw [haction]
  rfl

theorem failsToBegin_of_deed {m : Moment} {e : GatewayError} (h : m.deed = .failBegin e) :
    m.failsToBegin e := by
  have hsource := Moment.source h
  unfold Moment.failsToBegin
  generalize m.action = a at hsource
  cases hsource with
  | failBegin teamsSeq networkSeq => exact ⟨teamsSeq, networkSeq, rfl⟩

theorem not_switches_of_failsToBegin {m : Moment} {e : GatewayError} (h : m.failsToBegin e) :
    ¬ m.switches := by
  unfold Moment.switches
  rw [deed_of_failsToBegin h]
  exact not_false

/-- A switch clears the last error. -/
theorem lastError_of_switches {m : Moment} (h : m.switches) : m.done.lastError = none := by
  unfold Moment.switches Moment.deed at h
  unfold Moment.done Scene.done
  split at h
  · rename_i name hdeed
    rw [hdeed, Deed.apply, select_fst, if_neg h]
    rfl
  · rename_i teamsSeq networkSeq b hdeed
    rw [hdeed, Deed.apply, (sameTeam_begin m.scene.view teamsSeq networkSeq b).lastError]
    unfold preseed
    split <;> rfl
  · exact absurd h not_false

/-- A moment that does not switch keeps the selected team. -/
theorem selectedTeam_of_not_switches {m : Moment} (h : ¬ m.switches) :
    m.done.snapshot.selectedTeam = m.scene.view.snapshot.selectedTeam := by
  rcases guard_cases m with hswitch | ⟨id, v, hoverlay⟩ | ⟨t, hcommit⟩ | hquiet
  · exact absurd hswitch h
  · exact (guard_of_overlays hoverlay).2.1
  · exact (guard_of_commits hcommit).2.2.1
  · exact (guard_of_quiet hquiet).2.1

/-- **Without a team.** No refresh is current then and nothing can be laid over the view, so a
moment that neither switches nor fails to begin leaves the team's part alone. -/
theorem sameTeam_of_unselected {m : Moment} (hteam : m.scene.view.snapshot.selectedTeam = none)
    (hswitch : ¬ m.switches) (hfails : ∀ e, ¬ m.failsToBegin e) :
    SameTeam m.scene.view m.done := by
  have hdone : m.done = (m.deed.apply m.scene.view).1 := rfl
  rw [hdone]
  cases hdeed : m.deed with
  | idle => exact .refl _
  | ask teams network => exact sameTeam_ask _ teams network
  | takeTeams seq teams => exact sameTeam_takeTeams _ seq teams
  | takeNetwork seq network => exact sameTeam_takeNetwork _ seq network
  | begin teamsSeq networkSeq b =>
    refine absurd ?_ hswitch
    rw [Moment.switches, hdeed]
    trivial
  | failBegin e => exact absurd (failsToBegin_of_deed hdeed) (hfails e)
  | select name =>
    rw [Moment.switches, hdeed] at hswitch
    rw [Deed.apply, select_fst, if_pos (Decidable.not_not.mp hswitch)]
    exact .refl _
  | settle t reply =>
    have hstale : m.scene.view.isCurrent t = false := by
      rw [← Bool.not_eq_true, isCurrent_iff, hteam]
      rintro ⟨_, hnone, _⟩
      cases hnone
    rw [Deed.apply, settleRefresh_stale hstale]
    exact .refl _
  | overlay team id v =>
    have hother : m.scene.view.snapshot.selectedTeam ≠ some team := by
      rw [hteam]
      exact (Option.some_ne_none team).symm
    rw [Deed.apply, overlay_other hother]
    exact .refl _

/-- **The last error without a team** is the message of a bootstrap that failed and was not made
good by a switch since. Induction on the run; only the two moments named above write it. -/
theorem Run.lastError_iff_beganInVain {o : Sync.Options} {past : List Moment} {c : Scene}
    (h : Run o past c) (hteam : c.view.snapshot.selectedTeam = none) (message : String) :
    c.view.lastError = some message ↔ ∃ e, BeganInVain past e ∧ e.shortMessage = message := by
  induction h with
  | fresh => exact iff_of_false nofun fun ⟨_, h, _⟩ => nomatch h
  | @act past c a _ _ ih =>
    let m : Moment := ⟨c, a⟩
    have hafter : (c.after o a).view.lastError = m.done.lastError := after_lastError o m
    have hdone : m.done.snapshot.selectedTeam = none := (after_selectedTeam o m).symm.trans hteam
    rw [hafter]
    by_cases hswitch : m.switches
    · rw [lastError_of_switches hswitch]
      refine iff_of_false nofun fun ⟨e, hvain, _⟩ => ?_
      cases hvain with
      | fails hfails => exact not_switches_of_failsToBegin hfails hswitch
      | since _ _ hnot => exact hnot hswitch
    by_cases hfails : ∃ e, m.failsToBegin e
    · obtain ⟨e, hfails⟩ := hfails
      have herror : m.done.lastError = some e.shortMessage := by
        show (m.deed.apply c.view).1.lastError = _
        rw [deed_of_failsToBegin hfails]
        rfl
      rw [herror]
      constructor
      · intro h
        exact ⟨e, .fails hfails past, Option.some.inj h⟩
      · rintro ⟨e', hvain, rfl⟩
        cases hvain with
        | fails hfails' =>
          cases (deed_of_failsToBegin hfails).symm.trans (deed_of_failsToBegin hfails')
          rfl
        | since _ hnot => exact absurd hfails (hnot e)
    · have hnot : ∀ e, ¬ m.failsToBegin e := not_exists.mp hfails
      have hbefore : c.view.snapshot.selectedTeam = none :=
        (selectedTeam_of_not_switches hswitch).symm.trans hdone
      rw [(sameTeam_of_unselected hbefore hswitch hnot).lastError]
      refine (ih hbefore).trans (exists_congr fun e => and_congr_left fun _ => ?_)
      constructor
      · exact fun hvain => hvain.since hnot hswitch
      · intro hvain
        cases hvain with
        | fails hfails => exact absurd hfails (hnot e)
        | since hvain => exact hvain

theorem Run.lastError_eq_none_iff {o : Sync.Options} {past : List Moment} {c : Scene}
    (h : Run o past c) (hteam : c.view.snapshot.selectedTeam = none) :
    c.view.lastError = none ↔ ∀ e, ¬ BeganInVain past e := by
  rw [Option.eq_none_iff_forall_ne_some]
  constructor
  · intro hnone e hvain
    exact hnone _ ((h.lastError_iff_beganInVain hteam _).mpr ⟨e, hvain, rfl⟩)
  · intro hnever message hsome
    obtain ⟨e, hvain, _⟩ := (h.lastError_iff_beganInVain hteam message).mp hsome
    exact hnever e hvain

/-! ## Answers that are still on their way -/

/-- If a refresh was issued for another team than the selected one, the selection has switched
since. -/
theorem exists_switch_since {o : Sync.Options} {later earlier : List Moment} {m : Moment}
    {c : Scene} {t : Sync.Ticket} (h : Run o (later ++ m :: earlier) c) (hm : m.issues o t)
    (hteam : c.view.snapshot.selectedTeam ≠ some t.team) : ∃ x ∈ later, x.switches := by
  induction later generalizing c with
  | nil =>
    obtain ⟨_, _, rfl⟩ := h.last
    rw [after_selectedTeam] at hteam
    exact absurd (ticket_of_issues hm).1 hteam
  | cons x later ih =>
    obtain ⟨hrun, _, rfl⟩ := h.last
    by_cases hswitch : x.switches
    · exact ⟨x, List.mem_cons_self, hswitch⟩
    · rw [after_selectedTeam, selectedTeam_of_not_switches hswitch] at hteam
      obtain ⟨y, hy, hswitch⟩ := ih hrun hteam
      exact ⟨y, List.mem_cons_of_mem x hy, hswitch⟩

/-- **Too late for good.** A refresh that is under way while its team is not selected never
becomes current again, whatever is selected later. -/
theorem not_current_after {o : Sync.Options} {later past : List Moment} {c last : Scene}
    (h : Run o past c) (hlast : Run o (later ++ past) last) {t : Sync.Ticket}
    {after : AfterRefresh} (hw : .refresh t after ∈ c.waiting)
    (hteam : c.view.snapshot.selectedTeam ≠ some t.team) : last.view.isCurrent t = false := by
  obtain ⟨since, m, earlier, rfl, hm⟩ := h.issued_of_waiting hw
  obtain ⟨x, hx, hswitch⟩ := exists_switch_since h hm hteam
  rw [← List.append_assoc] at hlast
  rw [← Bool.not_eq_true, isCurrent_iff_later hlast hm]
  exact fun ⟨_, hun⟩ => hun.switch x (List.mem_append_right later hx) hswitch

/-- An operation that gets the answer to a refresh too late ends there. -/
theorem resume_late (o : Sync.Options) {d : Desk} {t : Sync.Ticket}
    (hlate : d.view.isCurrent t = false) (after : AfterRefresh)
    (reply : (Waiting.refresh t after).Reply) :
    ∃ r, d.resume o (.refresh t after) reply = d.ended r := by
  have hsettle : d.view.settleRefresh t reply = (d.view, .stale, []) := settleRefresh_stale hlate _
  simp only [Desk.resume, hsettle]
  cases after with
  | retry r => exact ⟨.refreshed .stale, rfl⟩
  | finish => exact ⟨.refreshed .stale, rfl⟩
  | finishWithRetry => exact ⟨.refreshedWithRetry .stale false, rfl⟩
  | notified a => exact ⟨.notified a, rfl⟩
  | confirmed c => exact ⟨.changed ⟨c.id, c.status, c.currentStage, .stale, false⟩, rfl⟩

/-! ## The headline -/

/-- Nothing is shown: no team is selected, the lists are empty, and no task is marked. -/
structure Cleared (s : State) : Prop where
  selectedTeam : s.snapshot.selectedTeam = none
  tasks : s.snapshot.tasks = []
  agents : s.snapshot.agents = []
  optimistic : s.optimistic = []

/-- A view with nothing to wait for, and nothing wrong. -/
structure Idle (s : State) : Prop where
  phase : s.phase = .idle
  lastError : s.lastError = none

theorem Coherent.cleared {s : State} (h : Coherent s) (hteam : s.snapshot.selectedTeam = none) :
    Cleared s := by
  obtain ⟨htasks, hagents, hoptimistic⟩ := h.unselected hteam
  exact ⟨hteam, htasks, hagents, hoptimistic⟩

/-- Without a team the phase tells no more than the last error. -/
theorem Coherent.idle_iff {s : State} (h : Coherent s) (hteam : s.snapshot.selectedTeam = none) :
    Idle s ↔ s.lastError = none := by
  refine ⟨Idle.lastError, fun herror => ⟨?_, herror⟩⟩
  rcases h.idle_or_error hteam with hidle | hphase
  · exact hidle
  · have hfits := h.phase
    rw [hphase] at hfits
    exact absurd herror hfits

/-- The step with which a blank name is selected. It is the last one of its operation. -/
theorem start_select_blank (o : Sync.Options) (d : Desk) {name : String}
    (hblank : Text.Blank name) :
    (d.start o (.select name)).next = .done (.refreshed .noTeam) none
      ∧ (d.start o (.select name)).desk.view =
        if d.view.snapshot.selectedTeam = none then d.view else d.view.switchTeam none := by
  have hview : (d.view.select name).1 =
      if d.view.snapshot.selectedTeam = none then d.view else d.view.switchTeam none := by
    rw [select_fst, (Text.nonblank?_eq_none_iff name).mpr hblank]
  have hteam : (d.view.select name).1.snapshot.selectedTeam = none := by
    rw [hview]
    split
    · assumption
    · rfl
  have hissue : (d.view.select name).1.issueTicket? = none := by
    rw [State.issueTicket?, hteam]
    rfl
  simp only [Desk.start, Desk.refresh, hissue]
  exact ⟨rfl, hview⟩

/-- **A cleared selection is idle, unless a bootstrap failed while nothing was selected.** In any
run, to select a blank name ends at once, without a call, and nothing is shown afterwards. The view
is idle and without an error exactly if a team was selected before, or no bootstrap has failed
since the selection last switched; otherwise it keeps the failure. The answers to refreshes that
are under way then do nothing whenever they come, also after a team was selected again. -/
theorem cleared_is_idle_iff {o : Sync.Options} {past : List Moment} {c : Scene} (h : Run o past c)
    {name : String} (hblank : Text.Blank name) :
    (c.desk.start o (.select name)).next = .done (.refreshed .noTeam) none
      ∧ Cleared (c.after o (.start (.select name))).view
      ∧ (Idle (c.after o (.start (.select name))).view ↔
          c.view.snapshot.selectedTeam ≠ none ∨ ∀ e, ¬ BeganInVain past e)
      ∧ (c.view.snapshot.selectedTeam = none → ∀ e, BeganInVain past e →
          (c.after o (.start (.select name))).view.phase = .error
            ∧ (c.after o (.start (.select name))).view.lastError = some e.shortMessage)
      ∧ ∀ later last, Run o (later ++ ⟨c, .start (.select name)⟩ :: past) last →
          ∀ t after, .refresh t after ∈ c.waiting → ∀ reply,
            ∃ r, last.desk.resume o (.refresh t after) reply = last.desk.ended r := by
  obtain ⟨hends, hview⟩ := start_select_blank o c.desk hblank
  have hafter : (c.after o (.start (.select name))).view = _ := hview
  have hrun : Run o (⟨c, .start (.select name)⟩ :: past) (c.after o (.start (.select name))) :=
    .act _ h trivial
  have hnone : (c.after o (.start (.select name))).view.snapshot.selectedTeam = none := by
    rw [hafter]
    split
    · assumption
    · rfl
  refine ⟨hends, hrun.coherent.cleared hnone, ?_, ?_, ?_⟩
  · rw [hrun.coherent.idle_iff hnone, hafter]
    by_cases hteam : c.view.snapshot.selectedTeam = none
    · rw [if_pos hteam, or_iff_right (not_not_intro hteam)]
      exact h.lastError_eq_none_iff hteam
    · rw [if_neg hteam]
      exact iff_of_true rfl (Or.inl hteam)
  · intro hteam e hvain
    have herror := (h.lastError_iff_beganInVain hteam _).mpr ⟨e, hvain, rfl⟩
    rw [hafter, if_pos hteam]
    refine ⟨(h.coherent.idle_or_error hteam).resolve_left fun hidle => ?_, herror⟩
    have hfits := h.coherent.phase
    rw [hidle] at hfits
    cases hfits.2.symm.trans herror
  · intro later last hlast t after hw reply
    -- under way before the selection was cleared, and so after it
    have hw' : .refresh t after ∈ (c.after o (.start (.select name))).waiting :=
      List.mem_append_right _ hw
    refine resume_late o (not_current_after hrun hlast hw' ?_) after reply
    rw [hnone]
    exact nofun

/-- A refresh of the team fails while another one is under way. -/
def troubled : List Moment × Scene :=
  played ⟨200, 3, 200⟩
    [.answer (.refresh ⟨"alpha", 1, 1⟩ .finish) (.error (.status 503 "down")), .start .refresh,
      .start (.select "alpha")]

/-- The selection is cleared, and the same team selected again. -/
def reselected : List Moment × Scene :=
  played ⟨200, 3, 200⟩
    [.start (.select "alpha"), .start (.select " "),
      .answer (.refresh ⟨"alpha", 1, 1⟩ .finish) (.error (.status 503 "down")), .start .refresh,
      .start (.select "alpha")]

/-- The failure is gone with the selection, and the answer to the other refresh does nothing. -/
theorem troubled_view_is_cleared :
    (troubled.2.view.phase = .error ∧ Text.Blank " ")
      ∧ Idle (troubled.2.after ⟨200, 3, 200⟩ (.start (.select " "))).view
      ∧ .refresh ⟨"alpha", 1, 2⟩ .finish ∈ troubled.2.waiting
      ∧ ∃ r, reselected.2.desk.resume ⟨200, 3, 200⟩ (.refresh ⟨"alpha", 1, 2⟩ .finish)
          (.ok ([], [])) = reselected.2.desk.ended r := by
  have hrun : Run ⟨200, 3, 200⟩ troubled.1 troubled.2 := run_played (by decide)
  have hlast : Run ⟨200, 3, 200⟩ reselected.1 reselected.2 := run_played (by decide)
  have hblank : Text.Blank " " := (Text.nonblank?_eq_none_iff " ").mp (by decide)
  have hwaiting : .refresh ⟨"alpha", 1, 2⟩ .finish ∈ troubled.2.waiting := by decide
  have hteam : troubled.2.view.snapshot.selectedTeam ≠ none := by decide
  have hsplit : reselected.1 = reselected.1.take 1
      ++ ⟨troubled.2, .start (.select " ")⟩ :: troubled.1 := rfl
  rw [hsplit] at hlast
  obtain ⟨_, _, hidle, _, hlate⟩ := cleared_is_idle_iff hrun hblank
  exact ⟨⟨by decide, hblank⟩, hidle.mpr (Or.inl hteam), hwaiting, hlate _ _ hlast _ _ hwaiting _⟩

/-- A bootstrap fails before any team was selected. -/
def begunInVain : List Moment × Scene :=
  played ⟨200, 3, 200⟩
    [.answer (.bootstrap 1 1) (.error (.transport "connection refused")), .start .bootstrap]

/-- **A failed bootstrap outlives the clearing.** The selection is clear already, so to clear it
changes nothing, and the view keeps showing the error. -/
theorem failed_bootstrap_outlives_clearing :
    Run ⟨200, 3, 200⟩ begunInVain.1 begunInVain.2
      ∧ Text.Blank " "
      ∧ (begunInVain.2.after ⟨200, 3, 200⟩ (.start (.select " "))).view.phase = .error
      ∧ (begunInVain.2.after ⟨200, 3, 200⟩ (.start (.select " "))).view.lastError
          = some "request failed: connection refused" :=
  ⟨run_played (by decide), (Text.nonblank?_eq_none_iff " ").mp (by decide), by decide, by decide⟩

end TeamConsole
