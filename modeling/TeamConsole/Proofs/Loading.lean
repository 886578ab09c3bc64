import TeamConsole.Proofs.Freshness

/-!
# A view that loads is waited for

While the phase says that the lists are loading, some refresh is under way whose answer will count
and end the phase. Two kinds of deeds make every refresh under way too late: a switch and an
overlay. Neither leaves the view loading with nobody to end it, for the turn goes on to issue a
new refresh.

* **`issues_of_select`**, **`issues_of_begin`**, **`issues_of_overlay`**: it is issued on every
  path on which the phase does not end by itself.
* **`Attended`**: the invariant, kept by every moment (`attended_after`).
* **`loading_is_attended`**: the headline.
-/

namespace TeamConsole

open Sync (State)

/-! ## A refresh follows in the same turn -/

theorem asks_refresh (o : Sync.Options) {d : Desk} {team : String}
    (hteam : d.view.snapshot.selectedTeam = some team) (told : List Sync.Event)
    (after : AfterRefresh) :
    ∃ t, (d.refresh o told after).turn.asks = some (.refresh t after) := by
  rw [refresh_of_selected o hteam]
  exact ⟨_, rfl⟩

theorem issues_of_select (o : Sync.Options) {m : Moment} {name team : String}
    (hdeed : m.deed = .select name) (hteam : m.done.snapshot.selectedTeam = some team) :
    ∃ t, m.issues o t := by
  obtain ⟨c, a⟩ := m
  cases Moment.source hdeed
  obtain ⟨t, hasks⟩ := asks_refresh o (d := { c.desk with view := (c.view.select name).1 }) hteam
    (c.view.select name).2 .finish
  exact ⟨t, _, hasks⟩

/-- A bootstrap that selects a team and does not bring its tasks along is followed by a
refresh. -/
theorem issues_of_begin (o : Sync.Options) {m : Moment} {teamsSeq networkSeq : Nat}
    {b : Bootstrap} {team : String} (hdeed : m.deed = .begin teamsSeq networkSeq b)
    (htasks : b.tasks = none) (hteam : m.done.snapshot.selectedTeam = some team) :
    ∃ t, m.issues o t := by
  obtain ⟨c, a⟩ := m
  cases Moment.source hdeed
  obtain ⟨t, hasks⟩ := asks_refresh o
    (d := { c.desk with view := (c.view.begin teamsSeq networkSeq b).1 }) hteam
    (c.view.begin teamsSeq networkSeq b).2 .finish
  refine ⟨t, .finish, ?_⟩
  show ((c.desk.resume o (.bootstrap teamsSeq networkSeq) (.ok b)).turn).asks = _
  simp only [Desk.resume, htasks]
  cases b.initialTeamName <;> exact hasks

/-- A change of an operation that is laid over the selected team is followed by a refresh. -/
theorem issues_of_overlay (o : Sync.Options) {m : Moment} {team : String} {id : Int}
    {v : Confirmed} (hdeed : m.deed = .overlay team id v) (hoperation : m.action.isConfirm = false)
    (hteam : m.done.snapshot.selectedTeam = some team) : ∃ t, m.issues o t := by
  obtain ⟨c, a⟩ := m
  cases Moment.source hdeed with
  | confirm => cases hoperation
  | @change s answer _ _ _ hs =>
    have hsettles := settles c.desk s answer
    rw [hs] at hsettles
    generalize hsettle : s.settle c.desk answer = settled at hsettles
    cases hsettles with
    | refused hdeed' => cases hdeed'
    | @confirmed d told confirmed happly hconfirmed =>
      -- the change is reported for its own team, which is selected
      have hview : d.view.snapshot.selectedTeam = some confirmed.team := by
        rw [hconfirmed team id v rfl, ← hteam]
        show d.view.snapshot.selectedTeam = ((s.deed answer).apply c.view).1.snapshot.selectedTeam
        rw [hs, happly]
      obtain ⟨t, hasks⟩ := asks_refresh o hview told (.confirmed confirmed)
      refine ⟨t, .confirmed confirmed, ?_⟩
      show ((c.desk.resume o (.change s) (.ok answer)).turn).asks = _
      simp only [Desk.resume, hsettle, Desk.report, if_pos hview]
      exact hasks

/-! ## The invariant -/

/-- **Attended.** If the phase is loading, a refresh is under way whose answer still counts. -/
def Attended (c : Scene) : Prop :=
  c.view.phase = .loading → ∃ t after, .refresh t after ∈ c.waiting ∧ c.view.isCurrent t = true

theorem attended_of_issues {o : Sync.Options} {m : Moment} {t : Sync.Ticket}
    (h : Ordered m.scene) (ha : m.scene.Allows m.action) (hm : m.issues o t) :
    Attended (m.after o) := by
  intro _
  obtain ⟨hteam, hepoch, hseq, _⟩ := ticket_of_issues hm
  obtain ⟨after, hasks⟩ := hm
  have hfloor := floor_done_le h ha
  rw [seq_done] at hseq
  refine ⟨t, after, List.mem_append_left _ (Option.mem_toList.mpr hasks), ?_⟩
  rw [isCurrent_iff, after_epoch, after_selectedTeam, after_floor]
  exact ⟨hepoch.symm, hteam, by omega⟩

theorem mem_stillWaiting {c : Scene} {a : Action} {w : Waiting} (hw : w ∈ c.waiting)
    (ha : ∀ reply : w.Reply, a ≠ .answer w reply) : w ∈ c.stillWaiting a := by
  cases a with
  | answer w' reply =>
    have hne : w ≠ w' := by
      rintro rfl
      exact ha reply rfl
    exact (List.mem_erase_of_ne hne).mpr hw
  | _ => exact hw

/-- A moment that leaves the team's part alone leaves the refreshes that count under way. -/
theorem attended_of_leaves {o : Sync.Options} {m : Moment} (h : Attended m.scene)
    (hview : (m.after o).view = m.done) (hsame : SameTeam m.scene.view m.done)
    (hlate : ∀ t reply, m.deed = .settle t reply → m.scene.view.isCurrent t = false) :
    Attended (m.after o) := by
  intro hloading
  rw [hview, hsame.phase] at hloading
  obtain ⟨t, after, hwaiting, hcurrent⟩ := h hloading
  refine ⟨t, after, List.mem_append_right _ (mem_stillWaiting hwaiting fun reply haction => ?_), ?_⟩
  · -- were it this refresh that is answered, its answer would come too late
    have hdeed : m.deed = .settle t reply := by
      unfold Moment.deed
      rw [haction]
      rfl
    rw [hlate t reply hdeed] at hcurrent
    cases hcurrent
  · rw [hview, isCurrent_iff, hsame.epoch, hsame.selectedTeam, hsame.floor]
    exact (isCurrent_iff _ _).mp hcurrent

/-- A view that is loading after a bootstrap has a team whose tasks did not come along. -/
theorem of_preseed_loading {s : State} {b : Bootstrap}
    (h : (preseed (s.switchTeam b.initialTeamName) b).phase = .loading) :
    b.tasks = none ∧ ∃ team, b.initialTeamName = some team := by
  unfold preseed at h
  cases hteam : b.initialTeamName with
  | none =>
    rw [hteam] at h
    cases h
  | some team =>
    rw [hteam] at h
    cases htasks : b.tasks with
    | none => exact ⟨rfl, team, rfl⟩
    | some tasks =>
      rw [htasks] at h
      cases h

/-- **The step lemma.** One case for each effect; where the refreshes under way come too late, a
new one follows, and where the phase ends, there is nothing to show. -/
theorem attended_after (o : Sync.Options) {m : Moment} (h : Attended m.scene)
    (hordered : Ordered m.scene) (ha : m.scene.Allows m.action)
    (hoperation : m.action.isConfirm = false) : Attended (m.after o) := by
  by_cases hissues : ∃ t, m.issues o t
  · obtain ⟨t, hissued⟩ := hissues
    exact attended_of_issues hordered ha hissued
  -- without an issue the view is as the deed left it
  have hview : (m.after o).view = m.done := by
    cases closes_turn o m.scene m.action with
    | issue _ _ _ hasks => exact absurd ⟨_, _, hasks⟩ hissues
    | rest hview => exact hview
  cases moment_effect m with
  | leaves hsame hlate => exact attended_of_leaves h hview hsame hlate
  | @selects name hdeed _ hdone =>
    intro hloading
    rw [hview, hdone] at hloading
    cases hteam : Text.nonblank? name with
    | none =>
      rw [hteam] at hloading
      cases hloading
    | some team =>
      have hselected : m.done.snapshot.selectedTeam = some team := by
        rw [hdone, hteam]
        rfl
      exact absurd (issues_of_select o hdeed hselected) hissues
  | begins hdeed _ hdone =>
    intro hloading
    rw [hview, hdone.phase] at hloading
    obtain ⟨htasks, team, hteam⟩ := of_preseed_loading hloading
    have hselected : m.done.snapshot.selectedTeam = some team := by
      rw [hdone.selectedTeam, preseed_selectedTeam, hteam]
      rfl
    exact absurd (issues_of_begin o hdeed htasks hselected) hissues
  | fails hdone =>
    intro hloading
    rw [hview, hdone] at hloading
    cases hloading
  | commits _ _ hdone =>
    intro hloading
    rw [hview, hdone] at hloading
    cases hloading
  | overlays hdeed hteam =>
    -- the floor has risen over every refresh under way
    have hselected := (guard_of_overlays ⟨_, hdeed, hteam⟩).2.1.trans hteam
    exact absurd (issues_of_overlay o hdeed hoperation hselected) hissues

/-! ## The headline -/

/-- **Loading is attended.** In any run whose confirmed values are all those of operations, a
view that is loading has a refresh under way that is still current. So once no refresh is under
way, the phase is idle, ready or error. -/
theorem loading_is_attended {o : Sync.Options} {past : List Moment} {c : Scene} (h : Run o past c)
    (hoperations : ∀ m ∈ past, m.action.isConfirm = false) :
    (c.view.phase = .loading →
        ∃ t after, .refresh t after ∈ c.waiting ∧ c.view.epoch = t.epoch
          ∧ c.view.snapshot.selectedTeam = some t.team ∧ c.view.floor < t.seq)
      ∧ ((∀ w ∈ c.waiting, w.isRefresh = false) →
          c.view.phase = .idle ∨ c.view.phase = .ready ∨ c.view.phase = .error) := by
  have hattended : Attended c := by
    induction h with
    | fresh => exact fun h => nomatch h
    | act a hrun ha ih =>
      obtain ⟨hlast, hbefore⟩ := List.forall_mem_cons.mp hoperations
      exact attended_after o (m := ⟨_, a⟩) (ih hbefore) hrun.ordered ha hlast
  constructor
  · intro hloading
    obtain ⟨t, after, hwaiting, hcurrent⟩ := hattended hloading
    exact ⟨t, after, hwaiting, (isCurrent_iff _ _).mp hcurrent⟩
  · intro hanswered
    cases hphase : c.view.phase with
    | idle => exact Or.inl rfl
    | loading =>
      obtain ⟨t, after, hwaiting, _⟩ := hattended hphase
      cases hanswered _ hwaiting
    | ready => exact Or.inr (Or.inl rfl)
    | error => exact Or.inr (Or.inr rfl)

/-- A task is moved while the first refresh of its team is under way, and the refresh is answered
last. -/
def moving : List Moment × Scene :=
  played ⟨200, 3, 200⟩
    [.answer (.refresh ⟨"alpha", 1, 1⟩ .finish) (.ok ([], [])),
      .answer (.change (.status "alpha" 7 .inProgress false))
        (.ok (⟨none, none, none, none⟩ : TaskUpdate)),
      .start (.change (.move "alpha" 7 .todo .inProgress)), .start (.select "alpha")]

/-- The move made the first refresh too late, and a second one attends to the loading view. -/
theorem moving_is_attended :
    moving.2.view.phase = .loading
      ∧ ∃ t after, .refresh t after ∈ moving.2.waiting ∧ moving.2.view.floor < t.seq := by
  have hrun : Run ⟨200, 3, 200⟩ moving.1 moving.2 := run_played (by decide)
  have hoperations : ∀ m ∈ moving.1, m.action.isConfirm = false := by decide
  have hloading : moving.2.view.phase = .loading := by decide
  obtain ⟨t, after, hwaiting, _, _, hfloor⟩ := (loading_is_attended hrun hoperations).1 hloading
  exact ⟨hloading, t, after, hwaiting, hfloor⟩

end TeamConsole
