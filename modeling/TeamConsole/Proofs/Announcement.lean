import TeamConsole.Proofs.Deed

/-!
# Observers can follow the view

Observers hear of the view by events and by nothing else. An observer that keeps the last phase it
was told, looks at the lists again when it is told that they changed, and writes down each failure
it is told of, has the phase, the lists and the failures of the view after every step.

* **`lastPhase`**: the phase that an observer has after some events.
* **`Announces`**: what the events of a step say of the views before and after it. Every deed
  announces what it does (`announces_apply`), and so does the issue of a refresh that may follow
  (`Announces.issue`).
* **`Deed.fault?`**: the failure that a deed records, as observers are told of it
  (`refreshFailed_mem_apply_iff`) and as it is written to the view (`lastError_apply_iff`).
* **`observers_can_follow_the_view`**: the headline.
-/

namespace TeamConsole

open Sync (State Phase)

/-! ## What observers make of the events -/

/-- The phase that an event tells. -/
def Sync.Event.phase? : Sync.Event → Option Phase
  | phaseChanged p => some p
  | _ => none

/-- The last phase told, or the one known before if none was. -/
def lastPhase (known : Phase) (told : List Sync.Event) : Phase :=
  (told.filterMap Sync.Event.phase?).getLastD known

@[simp] theorem lastPhase_nil (known : Phase) : lastPhase known [] = known := rfl

@[simp] theorem lastPhase_cons (known : Phase) (e : Sync.Event) (told : List Sync.Event) :
    lastPhase known (e :: told) = lastPhase (e.phase?.getD known) told := by
  cases h : e.phase? with
  | none => simp [lastPhase, h]
  | some p => simp only [lastPhase, List.filterMap_cons, h, List.getLastD_cons, Option.getD_some]

theorem lastPhase_append (known : Phase) (told more : List Sync.Event) :
    lastPhase known (told ++ more) = lastPhase (lastPhase known told) more := by
  induction told generalizing known with
  | nil => rfl
  | cons e told ih => rw [List.cons_append, lastPhase_cons, ih, lastPhase_cons]

@[simp] theorem lastPhase_phaseEvent (before after : Phase) :
    lastPhase before (Sync.phaseEvent before after) = after := by
  unfold Sync.phaseEvent
  by_cases h : before = after
  · rw [if_pos h]
    exact h
  · rw [if_neg h]
    rfl

/-- What a snapshot shows of the selected team. -/
def Sync.Snapshot.ofTeam (s : Sync.Snapshot) : Option String × List Task × List Agent :=
  (s.selectedTeam, s.tasks, s.agents)

/-! ## Every step announces what it does -/

/-- **Announced.** Who knew the phase of the view `s` and was `told` these events knows that of
`s'`; and if the two show a different team or different lists of it, the events say so. -/
structure Announces (s s' : State) (told : List Sync.Event) : Prop where
  phase : s'.phase = lastPhase s.phase told
  snapshot : s'.snapshot.ofTeam ≠ s.snapshot.ofTeam →
    .snapshotUpdated s'.snapshot.selectedTeam ∈ told

/-- What leaves the team's part alone has no phase and no lists to announce. -/
theorem Announces.of_sameTeam {s s' : State} {told : List Sync.Event} (h : SameTeam s s')
    (htold : lastPhase s.phase told = s.phase) : Announces s s' told := by
  refine ⟨h.phase.trans htold.symm, fun hchanged => absurd ?_ hchanged⟩
  unfold Sync.Snapshot.ofTeam
  rw [h.selectedTeam, h.tasks, h.agents]

theorem told_begin (s : State) (teamsSeq networkSeq : Nat) (b : Bootstrap) :
    (s.begin teamsSeq networkSeq b).2
      = .teamsUpdated :: Sync.phaseEvent s.phase (s.begin teamsSeq networkSeq b).1.phase
        ++ [.snapshotUpdated b.initialTeamName] := rfl

theorem announces_begin (s : State) (teamsSeq networkSeq : Nat) (b : Bootstrap) :
    Announces s (s.begin teamsSeq networkSeq b).1 (s.begin teamsSeq networkSeq b).2 := by
  have hteam : (s.begin teamsSeq networkSeq b).1.snapshot.selectedTeam = b.initialTeamName := by
    rw [(sameTeam_begin s teamsSeq networkSeq b).selectedTeam, preseed_selectedTeam]
    rfl
  rw [told_begin]
  refine ⟨?_, fun _ => ?_⟩
  · rw [lastPhase_append, lastPhase_cons]
    exact (lastPhase_phaseEvent _ _).symm
  · rw [hteam]
    exact List.mem_append_right _ List.mem_cons_self

theorem announces_failBootstrap (s : State) (e : GatewayError) :
    Announces s (s.failBootstrap e).1 (s.failBootstrap e).2 := by
  refine ⟨?_, fun hchanged => absurd rfl hchanged⟩
  show Phase.error = lastPhase s.phase (Sync.phaseEvent s.phase .error ++ [_])
  rw [lastPhase_append, lastPhase_phaseEvent]
  rfl

theorem announces_switchTeam (s : State) (team : Option String) :
    Announces s (s.switchTeam team)
      [.snapshotUpdated team, .phaseChanged (s.switchTeam team).phase] :=
  ⟨rfl, fun _ => List.mem_cons_self⟩

theorem announces_select (s : State) (name : String) :
    Announces s (s.select name).1 (s.select name).2 := by
  unfold State.select
  by_cases h : s.snapshot.selectedTeam = Text.nonblank? name
  · simp only [if_pos h]
    exact .of_sameTeam (.refl s) rfl
  · simp only [if_neg h]
    exact announces_switchTeam s _

theorem announces_settle (s : State) (t : Sync.Ticket)
    (reply : Except GatewayError (List Task × List Agent)) :
    Announces s (s.settleRefresh t reply).1 (s.settleRefresh t reply).2.2 := by
  cases hcurrent : s.isCurrent t with
  | false =>
    rw [settleRefresh_stale hcurrent]
    exact .of_sameTeam (.refl s) rfl
  | true =>
    cases reply with
    | error e =>
      rw [settleRefresh_error hcurrent]
      refine ⟨?_, fun hchanged => absurd rfl hchanged⟩
      rw [lastPhase_cons]
      exact (lastPhase_phaseEvent _ _).symm
    | ok lists =>
      -- the lists are those of the team for which they were asked, and it is selected
      have hteam := ((isCurrent_iff s t).mp hcurrent).2.1
      rw [settleRefresh_ok hcurrent lists.1 lists.2]
      refine ⟨?_, fun _ => ?_⟩
      · rw [lastPhase_cons]
        exact (lastPhase_phaseEvent _ _).symm
      · show Sync.Event.snapshotUpdated s.snapshot.selectedTeam ∈ _
        rw [hteam]
        exact List.mem_cons_self

theorem announces_overlay (s : State) (team : String) (id : Int) (change : Task → Task) :
    Announces s (s.overlay team id change).1 (s.overlay team id change).2.2 := by
  unfold State.overlay
  by_cases hteam : s.snapshot.selectedTeam = some team
  · by_cases hheld : s.snapshot.tasks.any (·.id = id) = true
    · simp only [if_pos hteam, if_pos hheld]
      refine ⟨rfl, fun _ => ?_⟩
      rw [← hteam]
      exact List.mem_cons_self
    · -- the floor rises, but there is nothing to show
      simp only [if_pos hteam, if_neg hheld]
      exact ⟨rfl, fun hchanged => absurd rfl hchanged⟩
  · simp only [if_neg hteam]
    exact .of_sameTeam (.refl s) rfl

/-- **Every deed announces what it does.** -/
theorem announces_apply (s : State) (d : Deed) : Announces s (d.apply s).1 (d.apply s).2 := by
  cases d with
  | idle => exact .of_sameTeam (.refl s) rfl
  | ask teams network => exact .of_sameTeam (sameTeam_ask s teams network) rfl
  | takeTeams seq teams =>
    refine .of_sameTeam (sameTeam_takeTeams s seq teams) ?_
    simp only [Deed.apply]
    split <;> rfl
  | takeNetwork seq network =>
    refine .of_sameTeam (sameTeam_takeNetwork s seq network) ?_
    simp only [Deed.apply]
    split <;> rfl
  | begin teamsSeq networkSeq b => exact announces_begin s teamsSeq networkSeq b
  | failBegin e => exact announces_failBootstrap s e
  | select name => exact announces_select s name
  | settle t reply => exact announces_settle s t reply
  | overlay team id v => exact announces_overlay s team id v.apply

/-- The issue of a refresh announces that the lists are loading, unless they were before. -/
theorem Announces.issue {s s' : State} {told : List Sync.Event} (h : Announces s s' told) :
    Announces s (withRefresh s') (told ++ Sync.phaseEvent s'.phase .loading) := by
  refine ⟨?_, fun hchanged => List.mem_append_left _ (h.snapshot hchanged)⟩
  rw [lastPhase_append, ← h.phase, lastPhase_phaseEvent]
  rfl

/-! ### Turns -/

/-- What observers are told in a moment. -/
def Moment.told (o : Sync.Options) (m : Moment) : List Sync.Event :=
  (m.scene.turn o m.action).events

/-- What the deed of a moment tells. -/
def Moment.announced (m : Moment) : List Sync.Event :=
  (m.deed.apply m.scene.view).2

/-- A moment tells what its deed does, and then that a refresh was issued if one was. -/
theorem told_cases (o : Sync.Options) (m : Moment) :
    ((m.after o).view = m.done ∧ m.told o = m.announced)
      ∨ ((m.after o).view = withRefresh m.done
          ∧ m.told o = m.announced ++ Sync.phaseEvent m.done.phase .loading) := by
  cases closes_turn o m.scene m.action with
  | issue hissue hview htold =>
    obtain ⟨team, _, hissued⟩ := Option.map_eq_some_iff.mp hissue
    cases hissued
    exact Or.inr ⟨hview, htold⟩
  | rest hview htold => exact Or.inl ⟨hview, htold⟩

/-- **The step lemma.** Every moment announces what it does. -/
theorem announces_after (o : Sync.Options) (m : Moment) :
    Announces m.scene.view (m.after o).view (m.told o) := by
  have hdeed : Announces m.scene.view m.done m.announced := announces_apply m.scene.view m.deed
  rcases told_cases o m with ⟨hview, htold⟩ | ⟨hview, htold⟩
  · rw [hview, htold]
    exact hdeed
  · rw [hview, htold]
    exact hdeed.issue

/-- All that observers were told in the course of a run, in order. -/
def toldIn (o : Sync.Options) (past : List Moment) : List Sync.Event :=
  past.reverse.flatMap (Moment.told o)

theorem toldIn_cons (o : Sync.Options) (m : Moment) (past : List Moment) :
    toldIn o (m :: past) = toldIn o past ++ m.told o := by
  simp [toldIn]

/-- **The run lemma.** Who was told all of a run knows the phase. -/
theorem Run.phase_told {o : Sync.Options} {past : List Moment} {c : Scene} (h : Run o past c) :
    c.view.phase = lastPhase .idle (toldIn o past) := by
  induction h with
  | fresh => rfl
  | @act past c a _ _ ih =>
    rw [toldIn_cons, lastPhase_append, ← ih]
    exact (announces_after o ⟨c, a⟩).phase

/-! ## Failures

A failure is recorded by writing its message over the last error. The same message may stand there
already, so a failure cannot be seen by comparing the views before and after it. -/

/-- The message of the failure that a deed records. -/
def Deed.fault? (s : State) : Deed → Option String
  | failBegin e => some e.shortMessage
  | settle t (.error e) => if s.isCurrent t then some e.shortMessage else none
  | _ => none

theorem not_refreshFailed_mem_phaseEvent (before after : Phase) (team : Option String)
    (message : String) : .refreshFailed team message ∉ Sync.phaseEvent before after := by
  unfold Sync.phaseEvent
  split <;> simp

/-- Observers are told of a failure exactly if the deed records it. -/
theorem refreshFailed_mem_apply_iff (s : State) (d : Deed) (message : String) :
    (∃ team, .refreshFailed team message ∈ (d.apply s).2) ↔ d.fault? s = some message := by
  have hphase := not_refreshFailed_mem_phaseEvent
  cases d with
  | idle => simp [Deed.apply, Deed.fault?]
  | ask teams network => simp [Deed.apply, Deed.fault?]
  | takeTeams seq teams =>
    simp only [Deed.apply, Deed.fault?]
    split <;> simp
  | takeNetwork seq network =>
    simp only [Deed.apply, Deed.fault?]
    split <;> simp
  | begin teamsSeq networkSeq b => simp [Deed.apply, Deed.fault?, State.begin, hphase]
  | failBegin e => simp [Deed.apply, Deed.fault?, State.failBootstrap, hphase, eq_comm]
  | select name =>
    simp only [Deed.apply, Deed.fault?, State.select]
    split <;> simp
  | settle t reply =>
    cases hcurrent : s.isCurrent t with
    | false =>
      rw [Deed.apply, settleRefresh_stale hcurrent]
      cases reply <;> simp [Deed.fault?, hcurrent]
    | true =>
      cases reply with
      | error e =>
        rw [Deed.apply, settleRefresh_error hcurrent]
        simp [Deed.fault?, hcurrent, hphase, eq_comm]
      | ok lists =>
        rw [Deed.apply, settleRefresh_ok hcurrent lists.1 lists.2]
        simp [Deed.fault?, hphase]
  | overlay team id v =>
    simp only [Deed.apply, Deed.fault?, State.overlay]
    split
    · split <;> simp
    · simp

/-- A deed that records no failure leaves the last error, or clears it. -/
theorem lastError_apply_of_not_fault {s : State} {d : Deed} (h : d.fault? s = none) :
    (d.apply s).1.lastError = s.lastError ∨ (d.apply s).1.lastError = none := by
  cases d with
  | idle => exact Or.inl rfl
  | ask teams network => exact Or.inl (sameTeam_ask s teams network).lastError
  | takeTeams seq teams => exact Or.inl (sameTeam_takeTeams s seq teams).lastError
  | takeNetwork seq network => exact Or.inl (sameTeam_takeNetwork s seq network).lastError
  | begin teamsSeq networkSeq b =>
    refine Or.inr ((sameTeam_begin s teamsSeq networkSeq b).lastError.trans ?_)
    unfold preseed
    split <;> rfl
  | failBegin e => cases h
  | select name =>
    rw [Deed.apply, select_fst]
    split
    · exact Or.inl rfl
    · exact Or.inr rfl
  | settle t reply =>
    cases hcurrent : s.isCurrent t with
    | false =>
      rw [Deed.apply, settleRefresh_stale hcurrent]
      exact Or.inl rfl
    | true =>
      cases reply with
      | error e =>
        rw [Deed.fault?, if_pos hcurrent] at h
        cases h
      | ok lists =>
        rw [Deed.apply, settleRefresh_ok hcurrent lists.1 lists.2]
        exact Or.inr rfl
  | overlay team id v =>
    refine Or.inl ?_
    by_cases hteam : s.snapshot.selectedTeam = some team
    · rw [Deed.apply, overlay_selected hteam]
      split <;> rfl
    · rw [Deed.apply, overlay_other hteam]

theorem lastError_apply_of_fault {s : State} {d : Deed} {message : String}
    (h : d.fault? s = some message) : (d.apply s).1.lastError = some message := by
  unfold Deed.fault? at h
  split at h
  · exact h
  · rename_i t e
    by_cases hcurrent : s.isCurrent t = true
    · rw [if_pos hcurrent] at h
      rw [Deed.apply, settleRefresh_error hcurrent]
      exact h
    · rw [if_neg hcurrent] at h
      cases h
  · cases h

/-- The moment as it would be if the last error were another one, or none. -/
def Moment.withError (m : Moment) (error : Option String) : Moment :=
  { m with scene.desk.view.lastError := error }

/-- **Recorded.** The moment writes a message as the last error, whatever stood there before. -/
def Moment.Records (o : Sync.Options) (m : Moment) (message : String) : Prop :=
  ∀ error, ((m.withError error).after o).view.lastError = some message

theorem after_lastError (o : Sync.Options) (m : Moment) :
    (m.after o).view.lastError = m.done.lastError := by
  rcases after_view_cases o m with h | h
  · rw [h]
  · rw [h]
    rfl

/-- The last error decides nothing, least of all what is recorded. -/
theorem done_withError (m : Moment) (error : Option String) :
    (m.withError error).done = (m.deed.apply (m.withError error).scene.view).1 := rfl

theorem fault?_withError (m : Moment) (error : Option String) (d : Deed) :
    d.fault? (m.withError error).scene.view = d.fault? m.scene.view := rfl

theorem records_iff (o : Sync.Options) (m : Moment) (message : String) :
    m.Records o message ↔ m.deed.fault? m.scene.view = some message := by
  unfold Moment.Records
  constructor
  · intro h
    have hnone := h none
    rw [after_lastError, done_withError] at hnone
    cases hfault : m.deed.fault? m.scene.view with
    | none =>
      -- where no error stood before, none stands now
      rcases lastError_apply_of_not_fault ((fault?_withError m none m.deed).trans hfault)
        with hkept | hcleared
      · rw [hkept] at hnone
        cases hnone
      · rw [hcleared] at hnone
        cases hnone
    | some message' =>
      rw [lastError_apply_of_fault ((fault?_withError m none m.deed).trans hfault)] at hnone
      exact hnone
  · intro h error
    rw [after_lastError, done_withError]
    exact lastError_apply_of_fault ((fault?_withError m error m.deed).trans h)

/-- No message comes to stand as the last error without being recorded. -/
theorem records_of_lastError {o : Sync.Options} {m : Moment} {message : String}
    (hafter : (m.after o).view.lastError = some message)
    (hbefore : m.scene.view.lastError ≠ some message) : m.Records o message := by
  have happly : (m.deed.apply m.scene.view).1.lastError = some message := by
    rw [← hafter, after_lastError]
    rfl
  rw [records_iff]
  cases hfault : m.deed.fault? m.scene.view with
  | none =>
    rcases lastError_apply_of_not_fault hfault with hkept | hcleared
    · exact absurd (hkept.symm.trans happly) hbefore
    · rw [hcleared] at happly
      cases happly
  | some message' =>
    rw [lastError_apply_of_fault hfault] at happly
    exact happly

theorem refreshFailed_mem_told_iff (o : Sync.Options) (m : Moment) (message : String) :
    (∃ team, .refreshFailed team message ∈ m.told o) ↔ m.Records o message := by
  rw [records_iff, ← refreshFailed_mem_apply_iff]
  refine exists_congr fun team => ?_
  rcases told_cases o m with ⟨_, htold⟩ | ⟨_, htold⟩
  · rw [htold]
    rfl
  · -- that a refresh was issued is no failure
    rw [htold, List.mem_append, or_iff_left (not_refreshFailed_mem_phaseEvent _ _ _ _)]
    rfl

/-! ## The headline -/

/-- **Observers can follow the view.** After every run the phase is the last one that observers
were told, idle if they were told none. Every moment of a run that shows another team, or other
tasks or agents, tells of the team that it shows from then on. Observers are told of a failure
exactly if its message is recorded as the last error, and no message gets there in another way. -/
theorem observers_can_follow_the_view {o : Sync.Options} {past : List Moment} {c : Scene}
    (h : Run o past c) :
    c.view.phase = lastPhase .idle (toldIn o past)
      ∧ ∀ m ∈ past,
        ((m.after o).view.snapshot.ofTeam ≠ m.scene.view.snapshot.ofTeam →
            .snapshotUpdated (m.after o).view.snapshot.selectedTeam ∈ m.told o)
          ∧ ∀ message,
            ((∃ team, .refreshFailed team message ∈ m.told o) ↔ m.Records o message)
              ∧ ((m.after o).view.lastError = some message →
                  m.scene.view.lastError ≠ some message → m.Records o message) := by
  refine ⟨h.phase_told, fun m _ => ⟨(announces_after o m).snapshot, fun message => ?_⟩⟩
  exact ⟨refreshFailed_mem_told_iff o m message, records_of_lastError⟩

/-- Two refreshes of a team fail, one after the other, for the same reason. -/
def failingTwice : List Moment × Scene :=
  played ⟨200, 3, 200⟩
    [.answer (.refresh ⟨"alpha", 1, 2⟩ .finish) (.error (.status 503 "down")), .start .refresh,
      .answer (.refresh ⟨"alpha", 1, 1⟩ .finish) (.error (.status 503 "down")),
      .start (.select "alpha")]

/-- The second failure is told as the first one was, though its message stands there already. -/
theorem second_failure_is_told :
    failingTwice.2.view.phase = .error
      ∧ lastPhase .idle (toldIn ⟨200, 3, 200⟩ failingTwice.1) = .error
      ∧ ∃ m ∈ failingTwice.1, m.scene.view.lastError = (m.after ⟨200, 3, 200⟩).view.lastError
        ∧ ∃ team, .refreshFailed team "down" ∈ m.told ⟨200, 3, 200⟩ := by
  have hrun : Run ⟨200, 3, 200⟩ failingTwice.1 failingTwice.2 := run_played (by decide)
  have herror : failingTwice.2.view.phase = .error := by decide
  obtain ⟨hphase, hmoments⟩ := observers_can_follow_the_view hrun
  let m := failingTwice.1.head (by decide)
  have hlast : m ∈ failingTwice.1 := List.head_mem _
  have hsame : m.scene.view.lastError = (m.after ⟨200, 3, 200⟩).view.lastError := by decide
  have hrecords : m.Records ⟨200, 3, 200⟩ "down" := (records_iff _ m "down").mpr (by decide)
  exact ⟨herror, hphase.symm.trans herror, m, hlast, hsame,
    ((hmoments m hlast).2 "down").1.mpr hrecords⟩

end TeamConsole
