import TeamConsole.Proofs.Run

/-!
# What the deeds of a run do to the view

A view has a part that belongs to the selected team (its lists, the phase, the last error and the
numbers that guard them) and a part that belongs to no team. Only five deeds reach the first part,
and this module says how:

* **`sameTeam_ask`**, **`sameTeam_takeTeams`**, **`sameTeam_takeNetwork`**:
  the others leave it alone (`SameTeam`).
* **`moment_effect`**: the six effects that a moment may have on it, with the view after each.
* **`Moment.switches`**, **`Moment.overlays`**, **`Moment.commits`**, **`Moment.issues`**: what a
  moment of a run may do that matters for the refreshes under way.
* **`guard_of_switches`**, **`guard_of_overlays`**, **`guard_of_commits`**, **`guard_of_quiet`**:
  the epoch, the selection and the floor after each of them, and after any other moment.
* **`after_view_cases`**, **`mem_waiting_after`**, **`ticket_of_issues`**: the issue of a refresh
  that may close a turn.
-/

namespace TeamConsole

open Sync (State)

/-! ## The part of the view that belongs to the selected team -/

/-- Two views agree on all that belongs to the selected team. -/
structure SameTeam (s s' : State) : Prop where
  selectedTeam : s'.snapshot.selectedTeam = s.snapshot.selectedTeam
  tasks : s'.snapshot.tasks = s.snapshot.tasks
  agents : s'.snapshot.agents = s.snapshot.agents
  phase : s'.phase = s.phase
  lastError : s'.lastError = s.lastError
  epoch : s'.epoch = s.epoch
  seq : s'.seq = s.seq
  floor : s'.floor = s.floor
  optimistic : s'.optimistic = s.optimistic

theorem SameTeam.refl (s : State) : SameTeam s s :=
  ⟨rfl, rfl, rfl, rfl, rfl, rfl, rfl, rfl, rfl⟩

theorem SameTeam.trans {s s' s'' : State} (h : SameTeam s s') (h' : SameTeam s' s'') :
    SameTeam s s'' :=
  ⟨h'.selectedTeam.trans h.selectedTeam, h'.tasks.trans h.tasks, h'.agents.trans h.agents,
    h'.phase.trans h.phase, h'.lastError.trans h.lastError, h'.epoch.trans h.epoch,
    h'.seq.trans h.seq, h'.floor.trans h.floor, h'.optimistic.trans h.optimistic⟩

theorem sameTeam_installTeams {s s' : State} {seq : Nat} {teams : List TeamSummary}
    (h : s.installTeams? seq teams = some s') : SameTeam s s' := by
  obtain ⟨_, _, rfl⟩ := Option.map_eq_some_iff.mp h
  exact ⟨rfl, rfl, rfl, rfl, rfl, rfl, rfl, rfl, rfl⟩

theorem sameTeam_installNetwork {s s' : State} {seq : Nat} {network : NetworkAllowlist}
    (h : s.installNetwork? seq network = some s') : SameTeam s s' := by
  obtain ⟨_, _, rfl⟩ := Option.map_eq_some_iff.mp h
  exact ⟨rfl, rfl, rfl, rfl, rfl, rfl, rfl, rfl, rfl⟩

theorem sameTeam_getD {s : State} {s' : Option State} (h : ∀ t, s' = some t → SameTeam s t) :
    SameTeam s (s'.getD s) := by
  cases s' with
  | none => exact .refl s
  | some t => exact h t rfl

theorem sameTeam_ask (s : State) (teams network : Bool) :
    SameTeam s ((Deed.ask teams network).apply s).1 := by
  cases teams <;> cases network <;> exact ⟨rfl, rfl, rfl, rfl, rfl, rfl, rfl, rfl, rfl⟩

theorem sameTeam_takeTeams (s : State) (seq : Nat) (teams : List TeamSummary) :
    SameTeam s ((Deed.takeTeams seq teams).apply s).1 := by
  simp only [Deed.apply]
  cases h : s.installTeams? seq teams with
  | none => exact .refl s
  | some s' => exact sameTeam_installTeams h

theorem sameTeam_takeNetwork (s : State) (seq : Nat) (network : NetworkAllowlist) :
    SameTeam s ((Deed.takeNetwork seq network).apply s).1 := by
  simp only [Deed.apply]
  cases h : s.installNetwork? seq network with
  | none => exact .refl s
  | some s' => exact sameTeam_installNetwork h

/-! ## The five deeds that reach the team's part -/

/-- The view with the lists that a bootstrap brought along for its team, if it brought any. -/
def preseed (s : State) (b : Bootstrap) : State :=
  match b.initialTeamName, b.tasks with
  | some _, some tasks =>
    { s with snapshot := { s.snapshot with tasks, agents := b.agents.getD [] }, phase := .ready }
  | _, _ => s

theorem sameTeam_preseed {s s' : State} (h : SameTeam s s') (b : Bootstrap) :
    SameTeam (preseed s b) (preseed s' b) := by
  unfold preseed
  split
  · exact ⟨h.selectedTeam, rfl, rfl, rfl, h.lastError, h.epoch, h.seq, h.floor, h.optimistic⟩
  · exact h

/-- **A bootstrap switches.** Apart from the lists of no team, a bootstrap selects its team and
shows the lists that came along for it. -/
theorem sameTeam_begin (s : State) (teamsSeq networkSeq : Nat) (b : Bootstrap) :
    SameTeam (preseed (s.switchTeam b.initialTeamName) b) (s.begin teamsSeq networkSeq b).1 := by
  -- the view after the lists of no team were taken, as far as they came in time
  let s₁ := (s.installTeams? teamsSeq b.teams).getD s
  let s₂ : State := { s₁ with config := b.config <|> s₁.config }
  let s₃ := (b.network.bind (s₂.installNetwork? networkSeq)).getD s₂
  have h₁ : SameTeam s s₁ := sameTeam_getD fun _ h => sameTeam_installTeams h
  have h₂ : SameTeam s₁ s₂ := ⟨rfl, rfl, rfl, rfl, rfl, rfl, rfl, rfl, rfl⟩
  have h₃ : SameTeam s₂ s₃ := sameTeam_getD fun _ h => by
    obtain ⟨_, _, hnetwork⟩ := Option.bind_eq_some_iff.mp h
    exact sameTeam_installNetwork hnetwork
  -- a switch keeps none of these but the two numbers, so it makes the views agree
  have hs := (h₁.trans h₂).trans h₃
  have hswitch : SameTeam (s.switchTeam b.initialTeamName) (s₃.switchTeam b.initialTeamName) :=
    ⟨rfl, rfl, rfl, rfl, rfl, congrArg (· + 1) hs.epoch, hs.seq, hs.seq, rfl⟩
  exact sameTeam_preseed hswitch b

@[simp] theorem preseed_selectedTeam (s : State) (b : Bootstrap) :
    (preseed s b).snapshot.selectedTeam = s.snapshot.selectedTeam := by
  unfold preseed
  split <;> rfl

@[simp] theorem preseed_epoch (s : State) (b : Bootstrap) : (preseed s b).epoch = s.epoch := by
  unfold preseed
  split <;> rfl

@[simp] theorem preseed_seq (s : State) (b : Bootstrap) : (preseed s b).seq = s.seq := by
  unfold preseed
  split <;> rfl

@[simp] theorem preseed_floor (s : State) (b : Bootstrap) : (preseed s b).floor = s.floor := by
  unfold preseed
  split <;> rfl

/-- A selection of another team, or of none, switches; any other changes nothing. -/
theorem select_fst (s : State) (name : String) :
    (s.select name).1 = if s.snapshot.selectedTeam = Text.nonblank? name then s
      else s.switchTeam (Text.nonblank? name) := by
  by_cases h : s.snapshot.selectedTeam = Text.nonblank? name <;> simp [State.select, h]

/-- The answer to a refresh that no longer counts changes nothing. -/
theorem settleRefresh_stale {s : State} {t : Sync.Ticket} (h : s.isCurrent t = false)
    (reply : Except GatewayError (List Task × List Agent)) :
    s.settleRefresh t reply = (s, .stale, []) := by
  cases reply with
  | error e => simp [State.settleRefresh, State.fail, h]
  | ok lists => simp [State.settleRefresh, State.commit, h]

theorem settleRefresh_error {s : State} {t : Sync.Ticket} (h : s.isCurrent t = true)
    (e : GatewayError) :
    s.settleRefresh t (.error e) =
      ({ s with lastError := some e.shortMessage, phase := .error }, .failed e.shortMessage,
        .refreshFailed (some t.team) e.shortMessage :: Sync.phaseEvent s.phase .error) := by
  simp [State.settleRefresh, State.fail, h]

/-- The view with the lists that a refresh brought. -/
def withLists (s : State) (t : Sync.Ticket) (tasks : List Task) (agents : List Agent) : State :=
  { s with
    snapshot := { s.snapshot with tasks, agents }
    floor := t.seq
    optimistic := []
    lastError := none
    phase := .ready }

theorem settleRefresh_ok {s : State} {t : Sync.Ticket} (h : s.isCurrent t = true)
    (tasks : List Task) (agents : List Agent) :
    s.settleRefresh t (.ok (tasks, agents)) =
      (withLists s t tasks agents, .committed,
        .snapshotUpdated (some t.team) :: Sync.phaseEvent s.phase .ready) := by
  simp [State.settleRefresh, State.commit, withLists, h]

/-- An answer counts exactly if its refresh is still current. -/
theorem settleRefresh_ne_stale_iff (s : State) (t : Sync.Ticket)
    (reply : Except GatewayError (List Task × List Agent)) :
    (s.settleRefresh t reply).2.1 ≠ .stale ↔ s.isCurrent t = true := by
  cases h : s.isCurrent t with
  | false => simp [settleRefresh_stale h]
  | true =>
    cases reply with
    | error e => simp [settleRefresh_error h]
    | ok lists => simp [settleRefresh_ok h lists.1 lists.2]

/-- Only answers with lists commit, and only those to a current refresh. -/
theorem of_settleRefresh_committed {s : State} {t : Sync.Ticket}
    {reply : Except GatewayError (List Task × List Agent)}
    (h : (s.settleRefresh t reply).2.1 = .committed) :
    s.isCurrent t = true ∧ ∃ tasks agents, reply = .ok (tasks, agents) := by
  have hcurrent : s.isCurrent t = true :=
    (settleRefresh_ne_stale_iff s t reply).mp (by rw [h]; exact fun h => nomatch h)
  cases reply with
  | error e => rw [settleRefresh_error hcurrent] at h; cases h
  | ok lists => exact ⟨hcurrent, lists.1, lists.2, rfl⟩

/-- Only failures of current refreshes are recorded. -/
theorem of_settleRefresh_failed {s : State} {t : Sync.Ticket}
    {reply : Except GatewayError (List Task × List Agent)}
    (h : (s.settleRefresh t reply).2.1.isFailed = true) :
    s.isCurrent t = true ∧ ∃ e, reply = .error e := by
  have hcurrent : s.isCurrent t = true := by
    refine (settleRefresh_ne_stale_iff s t reply).mp fun hstale => ?_
    rw [hstale] at h
    cases h
  cases reply with
  | error e => exact ⟨hcurrent, e, rfl⟩
  | ok lists =>
    rw [settleRefresh_ok hcurrent lists.1 lists.2] at h
    cases h

theorem isCurrent_iff (s : State) (t : Sync.Ticket) :
    s.isCurrent t = true ↔
      s.epoch = t.epoch ∧ s.snapshot.selectedTeam = some t.team ∧ s.floor < t.seq := by
  simp [State.isCurrent]

/-- A change to a task of another team is not shown. -/
theorem overlay_other {s : State} {team : String} (h : s.snapshot.selectedTeam ≠ some team)
    (id : Int) (change : Task → Task) : s.overlay team id change = (s, false, []) := by
  unfold State.overlay
  rw [if_neg h]

/-- A change to a task of the selected team raises the floor, and is shown if the task is held. -/
theorem overlay_selected {s : State} {team : String} (h : s.snapshot.selectedTeam = some team)
    (id : Int) (change : Task → Task) :
    (s.overlay team id change).1 =
      if s.snapshot.tasks.any (·.id = id) then
        { s with
          floor := s.seq
          snapshot := { s.snapshot with tasks := State.updateFirst s.snapshot.tasks id change }
          optimistic := if s.optimistic.contains id then s.optimistic else id :: s.optimistic }
      else { s with floor := s.seq } := by
  by_cases hheld : s.snapshot.tasks.any (·.id = id) = true <;> simp [State.overlay, h, hheld]

/-! ## Moments of a run -/

namespace Moment

/-- The deed of a moment. -/
def deed (m : Moment) : Deed :=
  m.scene.deed m.action

/-- The view after the deed of a moment, before a refresh is issued. -/
def done (m : Moment) : State :=
  m.scene.done m.action

/-- The scene after a moment. -/
def after (o : Sync.Options) (m : Moment) : Scene :=
  m.scene.after o m.action

/-- The selection switches: an operator selects another team, or none, or a bootstrap selects the
team with which it begins. -/
def switches (m : Moment) : Prop :=
  match m.deed with
  | .select name => m.scene.view.snapshot.selectedTeam ≠ Text.nonblank? name
  | .begin .. => True
  | _ => False

/-- A value that the server confirmed of a task of the selected team is laid over the view. -/
def overlays (m : Moment) (id : Int) (v : Confirmed) : Prop :=
  ∃ team, m.deed = .overlay team id v ∧ m.scene.view.snapshot.selectedTeam = some team

/-- The answer to a refresh is committed. -/
def commits (m : Moment) (t : Sync.Ticket) : Prop :=
  ∃ reply, m.deed = .settle t reply ∧ (m.scene.view.settleRefresh t reply).2.1 = .committed

/-- The moment does none of the three. -/
structure Quiet (m : Moment) : Prop where
  switch : ¬ m.switches
  overlay : ∀ id v, ¬ m.overlays id v
  commit : ∀ t, ¬ m.commits t

/-- A refresh is issued. -/
def issues (o : Sync.Options) (m : Moment) (t : Sync.Ticket) : Prop :=
  ∃ after, (m.scene.turn o m.action).asks = some (.refresh t after)

end Moment

/-! ### Where a deed comes from -/

/-- The action behind each deed. -/
inductive Source : Action → Deed → Prop where
  | idle (a : Action) : Source a .idle
  | ask (a : Action) (teams network : Bool) : Source a (.ask teams network)
  | takeTeams (seq : Nat) (notified : Bool) (teams : List TeamSummary) :
      Source (.answer (.teams seq notified) (.ok teams)) (.takeTeams seq teams)
  | takeNetwork (seq : Nat) (notified : Bool) (network : NetworkAllowlist) :
      Source (.answer (.network seq notified) (.ok network)) (.takeNetwork seq network)
  | begin (teamsSeq networkSeq : Nat) (b : Bootstrap) :
      Source (.answer (.bootstrap teamsSeq networkSeq) (.ok b)) (.begin teamsSeq networkSeq b)
  | failBegin (teamsSeq networkSeq : Nat) (e : GatewayError) :
      Source (.answer (.bootstrap teamsSeq networkSeq) (.error e)) (.failBegin e)
  | select (name : String) : Source (.start (.select name)) (.select name)
  | settle (t : Sync.Ticket) (after : AfterRefresh)
      (reply : Except GatewayError (List Task × List Agent)) :
      Source (.answer (.refresh t after) reply) (.settle t reply)
  | change {s : Submission} {answer : s.call.Answer} {team : String} {id : Int} {v : Confirmed}
      (hs : s.deed answer = .overlay team id v) :
      Source (.answer (.change s) (.ok answer)) (.overlay team id v)
  | confirm (team : String) (id : Int) (v : Confirmed) :
      Source (.confirm team id v) (.overlay team id v)

/-- The answer to a change lays a value over the view, or does nothing to it. -/
theorem Submission.deed_cases (s : Submission) (answer : s.call.Answer) :
    s.deed answer = .idle ∨ ∃ team id v, s.deed answer = .overlay team id v := by
  cases s with
  | status team id target decides => exact Or.inr ⟨_, _, _, rfl⟩
  | decision team id outcome predicted =>
    simp only [Submission.deed]
    split
    · exact Or.inr ⟨_, _, _, rfl⟩
    · exact Or.inl rfl
  | review team id predicted =>
    simp only [Submission.deed]
    split
    · exact Or.inr ⟨_, _, _, rfl⟩
    · exact Or.inl rfl
  | verdict team id submitted predicted =>
    simp only [Submission.deed]
    split
    · exact Or.inr ⟨_, _, _, rfl⟩
    · exact Or.inl rfl
  | newTask team task => exact Or.inl rfl
  | assignee team id a => exact Or.inl rfl

/-- **Every deed has its source.** -/
theorem deed_source (c : Scene) (a : Action) : Source a (c.deed a) := by
  cases a with
  | start op =>
    cases op with
    | select name => exact .select name
    | notify n =>
      -- a notification asks for a list, or does no more than refresh
      simp only [Scene.deed, Operation.deed]
      split
      · exact .ask _ _ _
      · exact .ask _ _ _
      · exact .idle _
    | bootstrap => exact .ask _ _ _
    | refreshTeams => exact .ask _ _ _
    | refreshNetwork => exact .ask _ _ _
    | _ => exact .idle _
  | answer w reply =>
    cases w with
    | bootstrap teamsSeq networkSeq =>
      cases reply with
      | error e => exact .failBegin teamsSeq networkSeq e
      | ok b => exact .begin teamsSeq networkSeq b
    | refresh t after => exact .settle t after reply
    | teams seq notified =>
      cases reply with
      | error e => exact .idle _
      | ok teams => exact .takeTeams seq notified teams
    | network seq notified =>
      cases reply with
      | error e => exact .idle _
      | ok network => exact .takeNetwork seq notified network
    | queue team epoch => cases reply <;> exact .idle _
    | change s =>
      cases reply with
      | error e => exact .idle _
      | ok answer =>
        simp only [Scene.deed, Waiting.deed]
        rcases s.deed_cases answer with h | ⟨team, id, v, h⟩
        · rw [h]
          exact .idle _
        · rw [h]
          exact .change h
  | wake r => exact .idle _
  | confirm team id v => exact .confirm team id v
  | drop team id => exact .idle _

theorem Moment.source {m : Moment} {d : Deed} (h : m.deed = d) : Source m.action d :=
  h ▸ deed_source m.scene m.action

/-- Only a refresh that waits is settled. -/
theorem action_of_settle {m : Moment} {t : Sync.Ticket}
    {reply : Except GatewayError (List Task × List Agent)} (h : m.deed = .settle t reply) :
    ∃ after, m.action = .answer (.refresh t after) reply := by
  obtain ⟨c, a⟩ := m
  cases Moment.source h with
  | settle t after reply => exact ⟨after, rfl⟩

/-! ### What a moment does to the team's part

Every deed is looked at once, here; the lemmas below are by the six kinds of effects. -/

/-- **The effects of a moment** on what belongs to the selected team. -/
inductive Effect (m : Moment) : Prop where
  /-- Nothing changes. An answer that is taken comes too late. -/
  | leaves (hsame : SameTeam m.scene.view m.done)
      (hlate : ∀ t reply, m.deed = .settle t reply → m.scene.view.isCurrent t = false)
  /-- An operator selects another team, or none. -/
  | selects {name : String} (hdeed : m.deed = .select name) (hswitch : m.switches)
      (hdone : m.done = m.scene.view.switchTeam (Text.nonblank? name))
  /-- A bootstrap selects its team. -/
  | begins {teamsSeq networkSeq : Nat} {b : Bootstrap}
      (hdeed : m.deed = .begin teamsSeq networkSeq b) (hswitch : m.switches)
      (hdone : SameTeam (preseed (m.scene.view.switchTeam b.initialTeamName) b) m.done)
  /-- A failure is recorded; the lists stay. -/
  | fails {message : String}
      (hdone : m.done = { m.scene.view with lastError := some message, phase := .error })
  /-- The lists that a refresh brought are taken. -/
  | commits {t : Sync.Ticket} {tasks : List Task} {agents : List Agent}
      (hdeed : m.deed = .settle t (.ok (tasks, agents))) (hcommit : m.commits t)
      (hdone : m.done = withLists m.scene.view t tasks agents)
  /-- A confirmed value of a task of the selected team is shown, if the task is held. -/
  | overlays {team : String} {id : Int} {v : Confirmed} (hdeed : m.deed = .overlay team id v)
      (hteam : m.scene.view.snapshot.selectedTeam = some team)
      (hdone : m.done = (m.scene.view.overlay team id v.apply).1)

theorem Effect.of_sameTeam {m : Moment} {d : Deed} (hdeed : m.deed = d)
    (hsame : SameTeam m.scene.view (d.apply m.scene.view).1)
    (hlate : ∀ t reply, d = .settle t reply → m.scene.view.isCurrent t = false) : Effect m := by
  subst hdeed
  exact .leaves hsame hlate

/-- **Every moment has one of the six effects.** -/
theorem moment_effect (m : Moment) : Effect m := by
  have hdone : m.done = (m.deed.apply m.scene.view).1 := rfl
  -- by the deeds; the first four never reach the team's part
  cases hdeed : m.deed with
  | idle => exact .of_sameTeam hdeed (.refl _) (by rintro _ _ ⟨⟩)
  | ask teams network =>
    exact .of_sameTeam hdeed (sameTeam_ask _ teams network) (by rintro _ _ ⟨⟩)
  | takeTeams seq teams =>
    exact .of_sameTeam hdeed (sameTeam_takeTeams _ seq teams) (by rintro _ _ ⟨⟩)
  | takeNetwork seq network =>
    exact .of_sameTeam hdeed (sameTeam_takeNetwork _ seq network) (by rintro _ _ ⟨⟩)
  | begin teamsSeq networkSeq b =>
    rw [hdeed] at hdone
    refine .begins hdeed ?_ (hdone ▸ sameTeam_begin m.scene.view teamsSeq networkSeq b)
    rw [Moment.switches, hdeed]
    trivial
  | failBegin e =>
    rw [hdeed] at hdone
    exact .fails hdone
  | select name =>
    rw [hdeed, Deed.apply, select_fst] at hdone
    by_cases hsame : m.scene.view.snapshot.selectedTeam = Text.nonblank? name
    · rw [if_pos hsame] at hdone
      refine .leaves (hdone ▸ .refl _) fun t reply h => ?_
      cases hdeed.symm.trans h
    · rw [if_neg hsame] at hdone
      refine .selects hdeed ?_ hdone
      rw [Moment.switches, hdeed]
      exact hsame
  | settle t reply =>
    rw [hdeed, Deed.apply] at hdone
    cases hcurrent : m.scene.view.isCurrent t with
    | false =>
      rw [settleRefresh_stale hcurrent] at hdone
      refine .leaves (hdone ▸ .refl _) fun t' reply' h => ?_
      cases hdeed.symm.trans h
      exact hcurrent
    | true =>
      -- an answer in time ends the loading, one way or the other
      cases reply with
      | error e =>
        rw [settleRefresh_error hcurrent] at hdone
        exact .fails hdone
      | ok lists =>
        rw [settleRefresh_ok hcurrent lists.1 lists.2] at hdone
        exact .commits hdeed ⟨_, hdeed, by rw [settleRefresh_ok hcurrent lists.1 lists.2]⟩ hdone
  | overlay team id v =>
    rw [hdeed] at hdone
    by_cases hteam : m.scene.view.snapshot.selectedTeam = some team
    · exact .overlays hdeed hteam hdone
    · rw [Deed.apply, overlay_other hteam] at hdone
      refine .leaves (hdone ▸ .refl _) fun t reply h => ?_
      cases hdeed.symm.trans h

/-! ### The guard after a moment

The epoch, the selection and the floor decide which answers still count. One lemma for each kind
of moment that moves them, and one for all the others. -/

theorem guard_of_switches {m : Moment} (h : m.switches) :
    m.done.epoch = m.scene.view.epoch + 1 ∧ m.done.floor = m.scene.view.seq := by
  unfold Moment.switches Moment.deed at h
  unfold Moment.done Scene.done
  split at h
  · rename_i name hdeed
    rw [hdeed, Deed.apply, select_fst, if_neg h]
    exact ⟨rfl, rfl⟩
  · -- what a bootstrap does besides its switch leaves both numbers alone
    rename_i teamsSeq networkSeq b hdeed
    have hbegin := sameTeam_begin m.scene.view teamsSeq networkSeq b
    rw [hdeed, Deed.apply, hbegin.epoch, hbegin.floor, preseed_epoch, preseed_floor]
    exact ⟨rfl, rfl⟩
  · exact absurd h id

theorem guard_of_overlays {m : Moment} {id : Int} {v : Confirmed} (h : m.overlays id v) :
    m.done.epoch = m.scene.view.epoch
      ∧ m.done.snapshot.selectedTeam = m.scene.view.snapshot.selectedTeam
      ∧ m.done.floor = m.scene.view.seq := by
  obtain ⟨team, hdeed, hteam⟩ := h
  unfold Moment.deed at hdeed
  unfold Moment.done Scene.done
  rw [hdeed, Deed.apply, overlay_selected hteam]
  split <;> exact ⟨rfl, rfl, rfl⟩

theorem done_of_commits {m : Moment} {t : Sync.Ticket} (h : m.commits t) :
    m.scene.view.isCurrent t = true
      ∧ ∃ tasks agents, m.done = withLists m.scene.view t tasks agents := by
  obtain ⟨reply, hdeed, hcommitted⟩ := h
  obtain ⟨hcurrent, tasks, agents, rfl⟩ := of_settleRefresh_committed hcommitted
  refine ⟨hcurrent, tasks, agents, ?_⟩
  show ((m.deed).apply m.scene.view).1 = _
  rw [hdeed, Deed.apply, settleRefresh_ok hcurrent]

theorem guard_of_commits {m : Moment} {t : Sync.Ticket} (h : m.commits t) :
    m.scene.view.isCurrent t = true
      ∧ m.done.epoch = m.scene.view.epoch
      ∧ m.done.snapshot.selectedTeam = m.scene.view.snapshot.selectedTeam
      ∧ m.done.floor = t.seq := by
  obtain ⟨hcurrent, tasks, agents, hdone⟩ := done_of_commits h
  rw [hdone]
  exact ⟨hcurrent, rfl, rfl, rfl⟩

theorem guard_of_quiet {m : Moment} (h : m.Quiet) :
    m.done.epoch = m.scene.view.epoch
      ∧ m.done.snapshot.selectedTeam = m.scene.view.snapshot.selectedTeam
      ∧ m.done.floor = m.scene.view.floor := by
  cases moment_effect m with
  | leaves hsame => exact ⟨hsame.epoch, hsame.selectedTeam, hsame.floor⟩
  | selects _ hswitch => exact absurd hswitch h.switch
  | begins _ hswitch => exact absurd hswitch h.switch
  | fails hdone =>
    rw [hdone]
    exact ⟨rfl, rfl, rfl⟩
  | commits _ hcommit => exact absurd hcommit (h.commit _)
  | overlays hdeed hteam => exact absurd ⟨_, hdeed, hteam⟩ (h.overlay _ _)

/-- **Four kinds of moments.** A moment switches, overlays, commits, or does none of the three. -/
theorem guard_cases (m : Moment) :
    m.switches ∨ (∃ id v, m.overlays id v) ∨ (∃ t, m.commits t) ∨ m.Quiet := by
  by_cases hswitch : m.switches
  · exact Or.inl hswitch
  by_cases hoverlay : ∃ id v, m.overlays id v
  · exact Or.inr (Or.inl hoverlay)
  by_cases hcommit : ∃ t, m.commits t
  · exact Or.inr (Or.inr (Or.inl hcommit))
  · exact Or.inr (Or.inr (Or.inr ⟨hswitch, fun id v h => hoverlay ⟨id, v, h⟩,
      fun t h => hcommit ⟨t, h⟩⟩))

theorem not_switches_of_commits {m : Moment} {t : Sync.Ticket} (h : m.commits t) :
    ¬ m.switches := by
  obtain ⟨reply, hdeed, _⟩ := h
  unfold Moment.switches
  rw [hdeed]
  exact id

theorem not_overlays_of_commits {m : Moment} {t : Sync.Ticket} (h : m.commits t) (id : Int)
    (v : Confirmed) : ¬ m.overlays id v := by
  obtain ⟨reply, hdeed, _⟩ := h
  rintro ⟨team, hdeed', _⟩
  rw [hdeed] at hdeed'
  cases hdeed'

theorem commits_unique {m : Moment} {t t' : Sync.Ticket} (h : m.commits t) (h' : m.commits t') :
    t' = t := by
  obtain ⟨reply, hdeed, _⟩ := h
  obtain ⟨reply', hdeed', _⟩ := h'
  rw [hdeed] at hdeed'
  cases hdeed'
  rfl

/-- A moment counts the epoch up by one if it switches, and not at all otherwise. -/
theorem epoch_done_le (m : Moment) :
    m.scene.view.epoch ≤ m.done.epoch ∧ m.done.epoch ≤ m.scene.view.epoch + 1 := by
  rcases guard_cases m with h | ⟨id, v, h⟩ | ⟨t, h⟩ | h
  · rw [(guard_of_switches h).1]
    omega
  · rw [(guard_of_overlays h).1]
    omega
  · rw [(guard_of_commits h).2.1]
    omega
  · rw [(guard_of_quiet h).1]
    omega

/-- No deed uses up a number; only the issue of a refresh does. -/
theorem seq_done (m : Moment) : m.done.seq = m.scene.view.seq := by
  cases moment_effect m with
  | leaves hsame => exact hsame.seq
  | selects _ _ hdone =>
    rw [hdone]
    rfl
  | begins _ _ hdone =>
    rw [hdone.seq, preseed_seq]
    rfl
  | fails hdone => rw [hdone]
  | commits _ _ hdone =>
    rw [hdone]
    rfl
  | overlays _ hteam hdone =>
    rw [hdone, overlay_selected hteam]
    split <;> rfl

/-! ### The issue of a refresh

It takes the next number, shows that the lists are loading, and touches nothing else. -/

/-- The view with one more refresh issued. -/
def withRefresh (s : State) : State :=
  { s with seq := s.seq + 1, phase := .loading }

theorem issueTicket?_eq_some {s view : State} {t : Sync.Ticket} {more : List Sync.Event}
    (h : s.issueTicket? = some (view, t, more)) :
    s.snapshot.selectedTeam = some t.team ∧ t.epoch = s.epoch ∧ t.seq = s.seq + 1
      ∧ view = withRefresh s := by
  obtain ⟨team, hteam, hissued⟩ := Option.map_eq_some_iff.mp h
  cases hissued
  exact ⟨hteam, rfl, rfl, rfl⟩

theorem refresh_of_selected (o : Sync.Options) {d : Desk} {team : String}
    (hteam : d.view.snapshot.selectedTeam = some team) (told : List Sync.Event)
    (after : AfterRefresh) :
    d.refresh o told after
      = ⟨{ d with view := withRefresh d.view }, told ++ Sync.phaseEvent d.view.phase .loading,
          .wait (.refresh ⟨team, d.view.epoch, d.view.seq + 1⟩ after)⟩ := by
  have hissue : d.view.issueTicket? = some (withRefresh d.view,
      ⟨team, d.view.epoch, d.view.seq + 1⟩, Sync.phaseEvent d.view.phase .loading) := by
    unfold State.issueTicket?
    rw [hteam]
    rfl
  unfold Desk.refresh
  rw [hissue]

/-- **A moment that issues.** The ticket of a refresh is that of the view which its deed leaves. -/
theorem ticket_of_issues {o : Sync.Options} {m : Moment} {t : Sync.Ticket} (h : m.issues o t) :
    m.done.snapshot.selectedTeam = some t.team ∧ t.epoch = m.done.epoch ∧ t.seq = m.done.seq + 1
      ∧ (m.after o).view = withRefresh m.done := by
  obtain ⟨after, hasks⟩ := h
  cases closes_turn o m.scene m.action with
  | issue hissue hview _ hasks' =>
    obtain ⟨hteam, hepoch, hseq, rfl⟩ := issueTicket?_eq_some hissue
    rw [hasks'] at hasks
    cases hasks
    exact ⟨hteam, hepoch, hseq, hview⟩
  | rest _ _ hrest => exact nomatch hrest _ hasks

/-- A turn leaves the view as its deed made it, unless it issues a refresh. -/
theorem Closes.view_cases {s : State} {told : List Sync.Event} {turn : Turn}
    (h : Closes s told turn) : turn.desk.view = s ∨ turn.desk.view = withRefresh s := by
  cases h with
  | issue hissue hview =>
    obtain ⟨_, _, _, rfl⟩ := issueTicket?_eq_some hissue
    exact Or.inr hview
  | rest hview => exact Or.inl hview

theorem after_view_cases (o : Sync.Options) (m : Moment) :
    (m.after o).view = m.done ∨ (m.after o).view = withRefresh m.done :=
  (closes_turn o m.scene m.action).view_cases

@[simp] theorem after_epoch (o : Sync.Options) (m : Moment) :
    (m.after o).view.epoch = m.done.epoch := by
  rcases after_view_cases o m with h | h
  · rw [h]
  · rw [h]
    rfl

@[simp] theorem after_selectedTeam (o : Sync.Options) (m : Moment) :
    (m.after o).view.snapshot.selectedTeam = m.done.snapshot.selectedTeam := by
  rcases after_view_cases o m with h | h
  · rw [h]
  · rw [h]
    rfl

@[simp] theorem after_floor (o : Sync.Options) (m : Moment) :
    (m.after o).view.floor = m.done.floor := by
  rcases after_view_cases o m with h | h
  · rw [h]
  · rw [h]
    rfl

theorem after_seq_le (o : Sync.Options) (m : Moment) :
    m.scene.view.seq ≤ (m.after o).view.seq ∧ (m.after o).view.seq ≤ m.scene.view.seq + 1 := by
  rw [← seq_done m]
  rcases after_view_cases o m with h | h <;> rw [h]
  · exact ⟨Nat.le_refl _, Nat.le_succ _⟩
  · exact ⟨Nat.le_succ _, Nat.le_refl _⟩

/-- What waits after a moment waited before it, or is what the moment itself asks for. -/
theorem waiting_or_asks {o : Sync.Options} {m : Moment} {w : Waiting}
    (h : w ∈ (m.after o).waiting) :
    w ∈ m.scene.waiting ∨ (m.scene.turn o m.action).asks = some w := by
  rcases List.mem_append.mp h with hasks | hwaiting
  · exact Or.inr (Option.mem_toList.mp hasks)
  · refine Or.inl ?_
    unfold Scene.stillWaiting at hwaiting
    split at hwaiting
    · exact List.mem_of_mem_erase hwaiting
    · exact hwaiting

/-- A refresh that waits after a moment waited before it or was issued in it. -/
theorem mem_waiting_after {o : Sync.Options} {m : Moment} {t : Sync.Ticket} {after : AfterRefresh}
    (h : .refresh t after ∈ (m.after o).waiting) :
    .refresh t after ∈ m.scene.waiting ∨ m.issues o t :=
  (waiting_or_asks h).imp_right fun hasks => ⟨after, hasks⟩

end TeamConsole
