import TeamConsole.Proofs.Change
import TeamConsole.Proofs.Deed
import TeamConsole.Proofs.Transcript

/-!
# One command, at most one mutation, on the right team

A command is carried out in several parts: the bootstrap and the selection of a team, the search
for a task, the operation with its refreshes, and the retry that may follow. Each makes calls of
its own, and each can fail. Their replies decide which calls come next, so the law is about every
transcript that the console can leave behind.

* **`reads_follow`**, **`perform_change_mutatesOnce`**: only the first call of a change is a
  mutation; all rounds after a reply read.
* **`onTeam_mutatesOnce`**, **`reads_onTeam`**: the commands on a team.
* **`loads_of_runs`**: a load in which a call failed ends with a failure. At the beginning of a
  session no answer can come too late, since nothing else is under way.
* **`of_runs_openDesk`**: what the transcript of a session that began looks like, and the team on
  which it works from then on.
* **`one_mutation_on_the_right_team`**: the headline.
-/

namespace TeamConsole

open Dialogue (Runs)

/-! ## Operations -/

/-- How an operation goes on that has no change to make. -/
def Next.Reading : Next → Prop
  | .wait (.change _) => False
  | _ => True

theorem Next.Refreshing.reading {n : Next} (h : n.Refreshing) : n.Reading := by
  cases n with
  | done | sleep => trivial
  | wait w =>
    cases w with
    | change => cases h
    | _ => trivial

/-- Once it is answered, an operation has no change to make any more. -/
theorem reading_resume (o : Sync.Options) (d : Desk) (w : Waiting) (reply : w.Reply) :
    (d.resume o w reply).next.Reading := by
  cases w with
  | bootstrap teamsSeq networkSeq =>
    cases reply with
    | error e => trivial
    | ok b =>
      simp only [Desk.resume]
      split
      · trivial
      · exact (refreshing_refresh o _ _ .finish).reading
  | refresh t after => exact (refreshing_resume o d rfl reply).reading
  | teams seq notified => cases reply <;> trivial
  | network seq notified => cases reply <;> trivial
  | queue team epoch =>
    cases reply with
    | error e => trivial
    | ok found =>
      simp only [Desk.resume]
      split <;> trivial
  | change s =>
    rcases resume_change o d s reply with ⟨e, hrefused⟩ | hrefreshing
    · rw [hrefused]
      trivial
    · exact hrefreshing.reading

theorem reads_converse (o : Sync.Options) {w : Waiting} (h : (Next.wait w).Reading) :
    (w.converse o).Reads := by
  cases w with
  | refresh t after => exact .call rfl fun _ => .call rfl fun _ => .done _
  | change s => cases h
  | _ => exact .call rfl fun _ => .done _

theorem reads_follow (o : Sync.Options) (rounds : Nat) {s : Step} (h : s.next.Reading) :
    (s.follow o rounds).Reads := by
  induction rounds generalizing s with
  | zero => exact .done _
  | succ rounds ih =>
    -- a reply never leads to a change, so the next round reads as well
    unfold Step.follow
    cases hnext : s.next with
    | done | sleep => exact .done _
    | wait w =>
      rw [hnext] at h
      exact (reads_converse o h).bind fun reply => ih (reading_resume o s.desk w reply)

theorem reading_start (o : Sync.Options) (d : Desk) {op : Operation} (h : ∀ t, op ≠ .change t) :
    (d.start o op).next.Reading := by
  cases op with
  | bootstrap | refreshTeams | refreshNetwork | loadQueue => trivial
  | select | refresh | refreshWithRetry => exact (refreshing_refresh o _ _ _).reading
  | notify n =>
    simp only [Desk.start]
    split
    · exact (refreshing_refresh o _ _ _).reading
    all_goals trivial
  | change t => exact absurd rfl (h t)

theorem reads_perform (o : Sync.Options) (d : Desk) {op : Operation} (h : ∀ t, op ≠ .change t) :
    (d.perform o op).Reads :=
  reads_follow o _ (reading_start o d h)

theorem reads_performRetry (o : Sync.Options) (d : Desk) (r : Sync.Retry) (left : Nat) :
    (d.performRetry o r left).Reads := by
  induction left generalizing d r with
  | zero => exact .done _
  | succ left ih =>
    unfold Desk.performRetry
    refine .pause ((reads_follow o _ (refreshing_wake o d r).reading).bind fun s => ?_)
    split
    · exact ih s.desk _
    · exact .done _

/-- A change makes its call, if its check lets it pass, and reads only after it. -/
theorem perform_change_mutatesOnce (o : Sync.Options) (d : Desk) (t : Transition) :
    (d.perform o (.change t)).MutatesOnce (·.team? = some t.team) := by
  unfold Desk.perform
  simp only [Desk.start]
  cases hcheck : t.check with
  | error e => exact .done _
  | ok s =>
    have hteam : s.call.team? = some t.team := (of_check_ok hcheck).2.team
    exact .mutate hteam fun reply => reads_follow o _ (reading_resume o d (.change s) reply)

/-! ## Commands -/

namespace Console

variable (k : Console) (d : Desk) (team : String)

theorem reads_findTask (id : Int) : (findTask d team id).run.Reads := by
  unfold findTask
  split
  · exact .done _
  · exact Attempt.everyCall_ask _ rfl

theorem reads_approvals : (k.approvals d team).run.Reads := by
  unfold approvals
  refine Attempt.everyCall_bind
    (Attempt.everyCall_lift (reads_perform k.options d fun _ h => nomatch h)) fun s => ?_
  split
  · exact .done _
  · exact .done _

theorem change_mutatesOnce {t : Transition} (hteam : t.team = team) :
    (k.change d t).run.MutatesOnce (·.team? = some team) := by
  unfold change
  rw [← hteam]
  refine Attempt.mutatesOnce_bind
    (Attempt.mutatesOnce_lift (perform_change_mutatesOnce k.options d t)) fun s => ?_
  split
  · rename_i r retry _
    cases retry with
    | none => exact .done _
    | some retry =>
      have hretry := reads_performRetry k.options s.desk retry k.options.retryAttempts
      exact Attempt.everyCall_bind (Attempt.everyCall_discard (Attempt.everyCall_lift hretry))
        fun _ => .done _
  · exact .done _
  · exact .done _

/-- A change of a task reads the task first. -/
theorem findTask_change_mutatesOnce (id : Int) (t : Task → Transition)
    (hteam : ∀ task, (t task).team = team) :
    (findTask d team id >>= fun task => k.change d (t task)).run.MutatesOnce
      (·.team? = some team) :=
  Attempt.bind_mutatesOnce (reads_findTask d team id) fun task =>
    change_mutatesOnce k d team (hteam task)

theorem reads_onTeam {c : Command} (h : c.mayMutate = false) : (k.onTeam d team c).run.Reads := by
  cases c with
  | tasks json => cases json <;> exact .done _
  | approvals => exact reads_approvals k d team
  | reviews | diff | charter | journal | agentConfig =>
    exact Attempt.everyCall_bind (Attempt.everyCall_ask [] rfl) fun _ => .done _
  | chat agent message =>
    cases message with
    | none => exact Attempt.everyCall_bind (Attempt.everyCall_ask [] rfl) fun _ => .done _
    | some message => cases h
  | watch | teams | network => exact .done _
  | move | outcome | approve | requestReview | create | assign | review => cases h

/-- **One command on a team.** Its calls come to at most one mutation, which is addressed to the
team. -/
theorem onTeam_mutatesOnce (c : Command) :
    (k.onTeam d team c).run.MutatesOnce (·.team? = some team) := by
  cases hc : c.mayMutate with
  | false => exact (reads_onTeam k d team hc).mutatesOnce
  | true =>
    cases c with
    | move id target =>
      exact findTask_change_mutatesOnce k d team id (fun t => .move team id t.status target)
        fun _ => rfl
    | outcome id outcome =>
      exact findTask_change_mutatesOnce k d team id
        (fun t => .applyOutcome team id t.status outcome) fun _ => rfl
    | approve id outcome =>
      exact findTask_change_mutatesOnce k d team id (fun t => .approve team t outcome) fun _ => rfl
    | requestReview id =>
      exact findTask_change_mutatesOnce k d team id (fun t => .requestReview team t) fun _ => rfl
    | review id outcome reviewer comments =>
      exact findTask_change_mutatesOnce k d team id
        (fun t => .submitReview team t (reviewer.getD (k.senderName d)) outcome comments)
        fun _ => rfl
    | create | assign =>
      rw [onTeam]
      exact change_mutatesOnce k d team rfl
    | chat agent message =>
      cases message with
      | none => cases hc
      | some message => exact .mutate rfl fun r => by cases r <;> exact .done _
    | network => exact .done _
    | watch | teams | tasks | approvals | reviews | diff | charter | journal | agentConfig =>
      cases hc

/-! ### The allowlist -/

/-- The allowlist is shown last, by a call that changes nothing and concerns no team. -/
theorem everyCall_network_list {p : Call → Prop} (h : p .network) :
    (network .list).run.EveryCall p :=
  Attempt.everyCall_bind (Attempt.everyCall_ask [] h) fun _ => .done _

/-- Commands for the allowlist begin no session and concern no team. -/
theorem everyCall_network (action : NetworkAction) :
    (network action).run.EveryCall fun c => c ≠ .bootstrap ∧ c.team? = none := by
  have hlist := everyCall_network_list (p := fun c => c ≠ .bootstrap ∧ c.team? = none) ⟨nofun, rfl⟩
  cases action with
  | list => exact hlist
  | allow | disallow | reset =>
    exact Attempt.everyCall_bind (Attempt.everyCall_discard (Attempt.everyCall_ask [] ⟨nofun, rfl⟩))
      fun _ => hlist

theorem network_mutatesOnce (action : NetworkAction) :
    (network action).run.MutatesOnce fun _ => True := by
  have hlist : (network .list).run.Reads := everyCall_network_list rfl
  cases action with
  | list => exact hlist.mutatesOnce
  | allow | disallow | reset =>
    refine Attempt.mutatesOnce_bind ?_ fun _ => hlist
    exact .mutate trivial fun r => by cases r <;> exact .done _

/-! ### A session -/

theorem reads_hear (w : Watch) (e : Stream.SourceEvent) : (k.hear w e).Reads := by
  unfold hear
  simp only
  split
  · exact .done _
  · refine (reads_perform k.options w.desk ?_).bind fun _ => .done _
    exact fun _ h => nomatch h

theorem reads_follow_feed (w : Watch) (feed : List Stream.SourceEvent) :
    (k.follow w feed).Reads := by
  induction feed generalizing w with
  | nil => exact .done _
  | cons e feed ih =>
    unfold follow
    exact (reads_hear k w e).bind fun heard => (ih heard.1).bind fun _ => .done _

/-- Carries out a command on the selected team, if there is one. -/
def onSelected (c : Command) : Attempt String :=
  match d.view.snapshot.selectedTeam with
  | some team => k.onTeam d team c
  | none => throw ["No team available; pass --team"]

theorem onSelected_mutatesOnce (c : Command) :
    (k.onSelected d c).run.MutatesOnce (·.team? = d.view.snapshot.selectedTeam) := by
  unfold onSelected
  cases d.view.snapshot.selectedTeam with
  | none => exact .done _
  | some team => exact onTeam_mutatesOnce k d team c

theorem reads_onSelected {c : Command} (h : c.mayMutate = false) :
    (k.onSelected d c).run.Reads := by
  unfold onSelected
  split
  · exact reads_onTeam k d _ h
  · exact .done _

/-- **A command of a session.** It begins the session, and what it does then comes to at most one
mutation, which is addressed to the team that the session selected. -/
theorem run_opens (feed : List Stream.SourceEvent) {c : Command}
    (hc : ∀ action, c ≠ .network action) :
    ∃ rest : Desk → Attempt String, k.run feed c = k.openDesk >>= rest
      ∧ ∀ d, (rest d).run.MutatesOnce (·.team? = d.view.snapshot.selectedTeam)
          ∧ (c.mayMutate = false → (rest d).run.Reads) := by
  cases c with
  | network action => exact absurd rfl (hc action)
  | teams => exact ⟨_, rfl, fun d => ⟨.done _, fun _ => .done _⟩⟩
  | watch =>
    have hreads (d : Desk) : (ExceptT.run (liftM (k.watch d feed) : Attempt String)).Reads :=
      Attempt.everyCall_lift ((reads_follow_feed k { desk := d } feed).bind fun _ => .done _)
    exact ⟨_, rfl, fun d => ⟨(hreads d).mutatesOnce, fun _ => hreads d⟩⟩
  | _ =>
    exact ⟨fun d => k.onSelected d _, rfl,
      fun d => ⟨onSelected_mutatesOnce k d _, reads_onSelected k d⟩⟩

end Console

/-! ## The beginning of a session -/

/-- The calls that load the lists of a team. -/
def Sync.Options.loads (o : Sync.Options) : Option String → List Call
  | none => []
  | some team => [.tasks team o.taskLimit, .agents team]

/-- The calls that a bootstrap makes after its own: none if the tasks came along. -/
def Bootstrap.loads (o : Sync.Options) (b : Bootstrap) : List Call :=
  match b.initialTeamName, b.tasks with
  | some _, some _ => []
  | team, _ => o.loads team

/-- **A load of the selected team**: its calls, and what it leaves. A load in which a call failed
tells so, for nothing newer can have made it too late. -/
structure Loads (o : Sync.Options) (d : Desk) (es : List Exchange) (s : Step) : Prop where
  calls : es.map (·.call) = o.loads d.view.snapshot.selectedTeam
  team : s.desk.view.snapshot.selectedTeam = d.view.snapshot.selectedTeam
  floor_le : s.desk.view.floor ≤ s.desk.view.seq
  failed : (∃ e ∈ es, e.Failed) → ∃ m, s.next = .done (.refreshed (.failed m)) none

theorem follow_of_done {o : Sync.Options} {rounds : Nat} {s : Step} {r : Result}
    {retry : Option Sync.Retry} (h : s.next = .done r retry) : s.follow o rounds = .done s := by
  cases rounds with
  | zero => rfl
  | succ rounds =>
    unfold Step.follow
    rw [h]

/-- The answer to a refresh that is current leaves the team and the order of the numbers. If it is
a failure, so is the outcome. -/
theorem settleRefresh_current {s : Sync.State} {t : Sync.Ticket} (hcurrent : s.isCurrent t = true)
    (hfloor : s.floor ≤ s.seq) (hseq : t.seq ≤ s.seq)
    (reply : Except GatewayError (List Task × List Agent)) :
    (s.settleRefresh t reply).1.snapshot.selectedTeam = s.snapshot.selectedTeam
      ∧ (s.settleRefresh t reply).1.floor ≤ (s.settleRefresh t reply).1.seq
      ∧ ∀ e, reply = .error e → ∃ m, (s.settleRefresh t reply).2.1 = .failed m := by
  cases reply with
  | error e =>
    rw [settleRefresh_error hcurrent]
    exact ⟨rfl, hfloor, fun _ _ => ⟨_, rfl⟩⟩
  | ok lists =>
    rw [settleRefresh_ok hcurrent lists.1 lists.2]
    exact ⟨rfl, hseq, fun _ h => nomatch h⟩

/-- A refresh of which a call failed is answered with a failure. -/
theorem both_eq_error {team : String} {limit : Nat} {tasks : (Call.tasks team limit).Reply}
    {agents : (Call.agents team).Reply}
    (h : ∃ e ∈ [⟨.tasks team limit, some tasks⟩, ⟨.agents team, some agents⟩], Exchange.Failed e) :
    ∃ e, Waiting.both tasks agents = .error e := by
  obtain ⟨x, hx, e, he⟩ := h
  rcases List.mem_cons.mp hx with rfl | hx
  · have htasks : tasks = .error e := Option.some.inj he
    rw [htasks]
    exact ⟨e, rfl⟩
  · cases List.mem_singleton.mp hx
    have hagents : agents = .error e := Option.some.inj he
    rw [hagents]
    cases tasks with
    | error e' => exact ⟨e', rfl⟩
    | ok found => exact ⟨e, rfl⟩

/-- A refresh that is issued is two calls and a step that takes their replies. -/
theorem follow_refresh (o : Sync.Options) {d : Desk} {view : Sync.State} {t : Sync.Ticket}
    {told more : List Sync.Event} (hissue : d.view.issueTicket? = some (view, t, more))
    (rounds : Nat) :
    (d.refresh o told .finish).follow o (rounds + 1) =
      .call (.tasks t.team o.taskLimit) fun tasks => .call (.agents t.team) fun agents =>
        let (view, outcome, events) := view.settleRefresh t (Waiting.both tasks agents)
        .done ⟨{ d with view }, told ++ more ++ events, .done (.refreshed outcome) none⟩ := by
  unfold Desk.refresh
  rw [hissue]
  refine congrArg (Dialogue.call _) (funext fun tasks => ?_)
  exact congrArg (Dialogue.call _) (funext fun agents => follow_of_done rfl)

theorem loads_of_runs {o : Sync.Options} {d : Desk} {told : List Sync.Event} {rounds : Nat}
    {es : List Exchange} {s : Step} (hfloor : d.view.floor ≤ d.view.seq)
    (h : Runs ((d.refresh o told .finish).follow o (rounds + 1)) es (some s)) :
    Loads o d es s := by
  cases hissue : d.view.issueTicket? with
  | none =>
    have hteam : d.view.snapshot.selectedTeam = none := Option.map_eq_none_iff.mp hissue
    unfold Desk.refresh at h
    rw [hissue] at h
    cases h
    exact ⟨by rw [hteam]; rfl, rfl, hfloor, fun ⟨_, he, _⟩ => nomatch he⟩
  | some issued =>
    obtain ⟨view, t, more⟩ := issued
    rw [follow_refresh o hissue] at h
    obtain ⟨hteam, hepoch, hseq, rfl⟩ := issueTicket?_eq_some hissue
    -- nothing else is under way, so the refresh just issued is the newest
    have hcurrent : (withRefresh d.view).isCurrent t = true := by
      rw [isCurrent_iff, hseq]
      exact ⟨hepoch.symm, hteam, Nat.lt_succ_of_le hfloor⟩
    cases h with
    | answered tasks h =>
      cases h with
      | answered agents h =>
        obtain ⟨hteam', hfloor', hfailed⟩ := settleRefresh_current hcurrent
          (Nat.le_succ_of_le hfloor) (Nat.le_of_eq hseq) (Waiting.both tasks agents)
        cases h
        refine ⟨by rw [hteam]; rfl, hteam', hfloor', fun he => ?_⟩
        obtain ⟨e, herror⟩ := both_eq_error he
        obtain ⟨m, hm⟩ := hfailed e herror
        exact ⟨m, congrArg (fun outcome => Next.done (.refreshed outcome) none) hm⟩

/-- A bootstrap selects its team, and lets no refresh issued before count. -/
theorem of_begin (s : Sync.State) (teamsSeq networkSeq : Nat) (b : Bootstrap) :
    (s.begin teamsSeq networkSeq b).1.snapshot.selectedTeam = b.initialTeamName
      ∧ (s.begin teamsSeq networkSeq b).1.floor ≤ (s.begin teamsSeq networkSeq b).1.seq := by
  have hsame := sameTeam_begin s teamsSeq networkSeq b
  rw [hsame.selectedTeam, hsame.floor, hsame.seq, preseed_selectedTeam, preseed_floor, preseed_seq]
  exact ⟨rfl, Nat.le_refl s.seq⟩

/-- What follows the answer to a bootstrap: the load of its team, unless the tasks came along. -/
theorem of_runs_resume_bootstrap {o : Sync.Options} {d : Desk} {teamsSeq networkSeq rounds : Nat}
    {b : Bootstrap} {es : List Exchange} {s : Step}
    (h : Runs ((d.resume o (.bootstrap teamsSeq networkSeq) (.ok b)).follow o (rounds + 1)) es
      (some s)) :
    es.map (·.call) = b.loads o ∧ s.desk.view.snapshot.selectedTeam = b.initialTeamName
      ∧ s.desk.view.floor ≤ s.desk.view.seq := by
  obtain ⟨hselected, hfloor⟩ := of_begin d.view teamsSeq networkSeq b
  have hrefresh {told : List Sync.Event}
      (h : Runs ((Desk.refresh o { d with view := (d.view.begin teamsSeq networkSeq b).1 } told
        .finish).follow o (rounds + 1)) es (some s)) :
      es.map (·.call) = o.loads b.initialTeamName
        ∧ s.desk.view.snapshot.selectedTeam = b.initialTeamName
        ∧ s.desk.view.floor ≤ s.desk.view.seq := by
    have hload := loads_of_runs hfloor h
    exact ⟨hload.calls.trans (congrArg o.loads hselected), hload.team.trans hselected,
      hload.floor_le⟩
  simp only [Desk.resume] at h
  unfold Bootstrap.loads
  cases hteam : b.initialTeamName with
  | none =>
    rw [hteam] at h hrefresh
    exact hrefresh h
  | some team =>
    cases htasks : b.tasks with
    | none =>
      rw [hteam, htasks] at h
      rw [hteam] at hrefresh
      exact hrefresh h
    | some tasks =>
      rw [hteam, htasks, follow_of_done rfl] at h
      cases h
      exact ⟨rfl, hselected.trans hteam, hfloor⟩

theorem of_select {s : Sync.State} (hfloor : s.floor ≤ s.seq) (name : String) :
    (s.select name).1.snapshot.selectedTeam = Text.nonblank? name
      ∧ (s.select name).1.floor ≤ (s.select name).1.seq := by
  rw [select_fst]
  generalize Text.nonblank? name = team
  split
  · rename_i hselected
    exact ⟨hselected, hfloor⟩
  · exact ⟨rfl, Nat.le_refl s.seq⟩

namespace Console

/-- The team that the command line names, without the blanks around it; a blank name is none. -/
def named (k : Console) : Option String :=
  k.team.bind Text.nonblank?

/-- The team on which a session works after a bootstrap. -/
def selects (k : Console) (b : Bootstrap) : Option String :=
  if k.team.isSome then k.named else b.initialTeamName

variable {k : Console} {es : List Exchange}

/-- **A bootstrap that succeeds** has its answer, loads the team of that answer if need be, and
leaves this team selected. -/
theorem of_runs_bootstrap {d : Desk} (h : Runs k.bootstrap.run es (some (.ok d))) :
    ∃ b own, es = ⟨.bootstrap, some (.ok b)⟩ :: own ∧ own.map (·.call) = b.loads k.options
      ∧ d.view.snapshot.selectedTeam = b.initialTeamName ∧ d.view.floor ≤ d.view.seq := by
  obtain ⟨s, first, rest, rfl, hfirst, hrest⟩ := Attempt.runs_bind_ok h
  have hfollow := Attempt.runs_lift_ok hfirst
  -- the bootstrap's own call
  change Runs (.call .bootstrap _) first (some s) at hfollow
  cases hfollow with
  | @answered _ _ own _ reply hnext =>
    cases reply with
    | error e =>
      -- the failure ends the attempt
      change Runs (.done _) own (some s) at hnext
      cases hnext
      cases hrest
    | ok b =>
      have hloads := of_runs_resume_bootstrap hnext
      have hd : rest = [] ∧ d = s.desk := by
        split at hrest
        · cases hrest
        · cases hrest
          exact ⟨rfl, rfl⟩
      rw [hd.1, hd.2, List.append_nil]
      exact ⟨b, own, rfl, hloads⟩

/-- **A selection that succeeds** loads the team that the command line names, if it names one, and
no call of this load failed. -/
theorem of_runs_selectTeam {d d' : Desk} (hfloor : d.view.floor ≤ d.view.seq)
    (h : Runs (k.selectTeam d).run es (some (.ok d'))) :
    es.map (·.call) = k.options.loads k.named ∧ (∀ e ∈ es, ¬ e.Failed)
      ∧ d'.view.snapshot.selectedTeam =
          if k.team.isSome then k.named else d.view.snapshot.selectedTeam := by
  unfold selectTeam at h
  unfold named
  cases hteam : k.team with
  | none =>
    rw [hteam] at h
    cases h
    exact ⟨rfl, (fun _ he => nomatch he), rfl⟩
  | some name =>
    rw [hteam] at h
    simp only [Option.bind_some, Option.isSome_some, if_true]
    obtain ⟨s, first, rest, rfl, hfirst, hrest⟩ := Attempt.runs_bind_ok h
    obtain ⟨hselected, hfloor'⟩ := of_select hfloor name
    have hload : Loads k.options { d with view := (d.view.select name).1 } first s :=
      loads_of_runs hfloor' (Attempt.runs_lift_ok hfirst)
    have hd : rest = [] ∧ d' = s.desk ∧ ∀ m retry, s.next ≠ .done (.refreshed (.failed m)) retry := by
      split at hrest
      · cases hrest
      · rename_i hnot
        cases hrest
        exact ⟨rfl, rfl, hnot⟩
    obtain ⟨rfl, rfl, hnot⟩ := hd
    have hcalls : first.map (·.call) = k.options.loads (Text.nonblank? name) := by
      rw [hload.calls, hselected]
    -- had a call failed, the load would have, and the selection with it
    have hloaded : ∀ e ∈ first, ¬ e.Failed := fun e he hfailed => by
      obtain ⟨m, hm⟩ := hload.failed ⟨e, he, hfailed⟩
      exact hnot m none hm
    rw [List.append_nil]
    exact ⟨hcalls, hloaded, hload.team.trans hselected⟩

/-- **A session that began**: the answer to its bootstrap, the calls that follow from it, and the
load of the team that the command line names. -/
structure Opened (k : Console) (b : Bootstrap) (own load : List Exchange) : Prop where
  own_calls : own.map (·.call) = b.loads k.options
  load_calls : load.map (·.call) = k.options.loads k.named
  loaded : ∀ e ∈ load, ¬ e.Failed

theorem of_runs_openDesk {d : Desk} (h : Runs k.openDesk.run es (some (.ok d))) :
    ∃ b own load, es = ⟨.bootstrap, some (.ok b)⟩ :: (own ++ load) ∧ k.Opened b own load
      ∧ d.view.snapshot.selectedTeam = k.selects b := by
  obtain ⟨d₀, first, load, rfl, hfirst, hrest⟩ := Attempt.runs_bind_ok h
  obtain ⟨b, own, rfl, hown, hselected, hfloor⟩ := of_runs_bootstrap hfirst
  obtain ⟨hload, hloaded, hteam⟩ := of_runs_selectTeam hfloor hrest
  rw [hselected] at hteam
  exact ⟨b, own, load, rfl, ⟨hown, hload, hloaded⟩, hteam⟩

theorem reads_openDesk (k : Console) : k.openDesk.run.Reads := by
  unfold openDesk
  refine Attempt.everyCall_bind ?_ fun d => ?_
  · refine Attempt.everyCall_bind
      (Attempt.everyCall_lift (reads_perform k.options {} fun _ h => nomatch h)) fun s => ?_
    split <;> exact .done _
  · unfold selectTeam
    split
    · exact .done _
    · refine Attempt.everyCall_bind
        (Attempt.everyCall_lift (reads_perform k.options d fun _ h => nomatch h)) fun s => ?_
      split <;> exact .done _

/-! ## The headline -/

/-- **A session that did not begin**: the bootstrap failed, or a call failed in the load of the
team that the command line names. -/
inductive NotOpened (k : Console) : List Exchange → Prop where
  | bootstrap (e : GatewayError) (later : List Exchange) :
      NotOpened k (⟨.bootstrap, some (.error e)⟩ :: later)
  | load {b : Bootstrap} {own load : List Exchange} (later : List Exchange)
      (hown : own.map (·.call) = b.loads k.options)
      (hload : load.map (·.call) = k.options.loads k.named)
      (hfailed : ∃ e ∈ load, e.Failed) :
      NotOpened k (⟨.bootstrap, some (.ok b)⟩ :: (own ++ load ++ later))

/-- **The right team** of a transcript: the one that the command line names, without the blanks
around it, or else the one that the answer to the bootstrap selects. -/
def RightTeam (k : Console) (es : List Exchange) (team : String) : Prop :=
  match k.team with
  | some name => team = Text.trim name
  | none => ∃ b later, es = ⟨.bootstrap, some (.ok b)⟩ :: later ∧ b.initialTeamName = some team

theorem length_eq_of_calls {es fs : List Exchange} (h : es.map (·.call) = fs.map (·.call)) :
    es.length = fs.length := by
  simpa only [List.length_map] using congrArg List.length h

theorem Opened.not_notOpened {b : Bootstrap} {own load rest : List Exchange}
    (h : k.Opened b own load) :
    ¬ k.NotOpened (⟨.bootstrap, some (.ok b)⟩ :: (own ++ load ++ rest)) := by
  generalize hes : (⟨.bootstrap, some (.ok b)⟩ : Exchange) :: (own ++ load ++ rest) = es
  intro hnot
  cases hnot with
  | bootstrap => cases hes
  | @load b' own' load' later hown hload hfailed =>
    obtain ⟨hanswer, htail⟩ := List.cons.inj hes
    cases hanswer
    -- both transcripts show the same calls up to the end of the load, so they agree up to there
    rw [List.append_assoc, List.append_assoc] at htail
    obtain ⟨_, htail⟩ := List.append_inj htail (length_eq_of_calls (h.own_calls.trans hown.symm))
    obtain ⟨rfl, _⟩ := List.append_inj htail (length_eq_of_calls (h.load_calls.trans hload.symm))
    obtain ⟨e, he, hfailed⟩ := hfailed
    exact h.loaded e he hfailed

theorem rightTeam_of_selects {b : Bootstrap} {later : List Exchange} {team : String}
    (h : k.selects b = some team) :
    k.RightTeam (⟨.bootstrap, some (.ok b)⟩ :: later) team := by
  unfold selects named at h
  unfold RightTeam
  cases hteam : k.team with
  | none =>
    rw [hteam] at h
    exact ⟨b, later, rfl, h⟩
  | some name =>
    rw [hteam] at h
    simp only [Option.isSome_some, if_true, Option.bind_some, Text.nonblank?,
      Option.ite_none_left_eq_some, Option.some.injEq] at h
    exact h.2.symm

/-- **Orderly.** What a transcript of a command shows: at most one mutation, none if the command is
only to show something, and none if its session did not begin. A mutation that concerns a team is
addressed to the right one. Commands for the allowlist begin no session and concern no team. -/
structure Orderly (k : Console) (c : Command) (es : List Exchange) : Prop where
  once : (mutations es).length ≤ 1
  reads : c.mayMutate = false → mutations es = []
  opened : k.NotOpened es → mutations es = []
  rightTeam : ∀ e ∈ mutations es, ∀ team, e.call.team? = some team → k.RightTeam es team
  network : ∀ action, c = .network action → ∀ e ∈ es, e.call ≠ .bootstrap ∧ e.call.team? = none

theorem orderly_of_network {action : Option NetworkAction} {feed : List Stream.SourceEvent}
    {o : Option (Except Failure String)} (h : Runs (k.run feed (.network action)).run es o) :
    k.Orderly (.network action) es := by
  have hrun : Runs (network (action.getD .list)).run es o := h
  have hcalls := (everyCall_network (action.getD .list)).of_runs hrun
  refine ⟨((network_mutatesOnce _).of_runs hrun).1, fun hreads => ?_,
    fun hnot => ?_, fun e he team hteam => ?_, fun _ _ => hcalls⟩
  · have hlist : action.getD .list = .list := by
      cases action with
      | none => rfl
      | some action => simpa [Command.mayMutate] using hreads
    rw [hlist] at hrun
    exact Dialogue.Reads.of_runs (everyCall_network_list rfl) hrun
  · -- no session was begun, so none failed to begin
    cases hnot with
    | bootstrap | load => exact absurd rfl (hcalls _ List.mem_cons_self).1
  · have hnone := (hcalls e (mem_of_mem_mutations he)).2
    rw [hteam] at hnone
    cases hnone

/-- What comes before the session has begun changes nothing, and what comes after is about the
team that it selected. -/
theorem orderly_of_session {c : Command} (hc : ∀ action, c ≠ .network action)
    {feed : List Stream.SourceEvent} {o : Option (Except Failure String)}
    (h : Runs (k.run feed c).run es o) : k.Orderly c es := by
  obtain ⟨rest, hrun, hrest⟩ := run_opens k feed hc
  rw [hrun] at h
  rcases Attempt.runs_bind h with ⟨⟨o', hopening⟩, _⟩ | ⟨d, first, later, rfl, hopening, hlater⟩
  · -- all that happened was the beginning
    have hnone : mutations es = [] := Dialogue.Reads.of_runs (reads_openDesk k) hopening
    refine ⟨?_, fun _ => hnone, fun _ => hnone, ?_, fun action h => absurd h (hc action)⟩
    · rw [hnone]
      exact Nat.zero_le 1
    · rw [hnone]
      exact fun _ he => nomatch he
  · -- the mutation, if any, is in what came later
    have hfirst : mutations first = [] := Dialogue.Reads.of_runs (reads_openDesk k) hopening
    have heq : mutations (first ++ later) = mutations later := by
      rw [mutations_append, hfirst, List.nil_append]
    obtain ⟨b, own, load, rfl, hopened, hselected⟩ := of_runs_openDesk hopening
    obtain ⟨hmutates, hreads⟩ := hrest d
    obtain ⟨honce, hteams⟩ := hmutates.of_runs hlater
    refine ⟨?_, fun hc => ?_, fun hnot => ?_, fun e he team hteam => ?_,
      fun action h => absurd h (hc action)⟩
    · rw [heq]
      exact honce
    · rw [heq]
      exact Dialogue.Reads.of_runs (hreads hc) hlater
    · exact absurd hnot hopened.not_notOpened
    · rw [heq] at he
      have hteam' : d.view.snapshot.selectedTeam = some team := (hteams e he).symm.trans hteam
      exact rightTeam_of_selects (hselected.symm.trans hteam')

/-- **One command, at most one mutation, on the right team.** Whatever the settings, the team on the
command line, the command and the replies, and wherever the dialogue breaks off, the transcript is
orderly. -/
theorem one_mutation_on_the_right_team {feed : List Stream.SourceEvent} {c : Command}
    {o : Option (Except Failure String)} (h : Runs (k.run feed c).run es o) :
    k.Orderly c es := by
  by_cases hnetwork : ∃ action, c = .network action
  · obtain ⟨action, rfl⟩ := hnetwork
    exact orderly_of_network h
  · exact orderly_of_session (fun action hc => hnetwork ⟨action, hc⟩) h

/-- A console whose command line names a team, with blanks around it. -/
def betaConsole : Console := ⟨{}, some " beta "⟩

/-- The server would choose another team, and sends its tasks along. -/
def alphaFirst : Bootstrap := ⟨none, [], some "alpha", some [], none, none⟩

/-- A task is created, and the refresh after it is never answered. -/
def creating : List Exchange :=
  [⟨.bootstrap, some (.ok alphaFirst)⟩, ⟨.tasks "beta" 200, some (.ok ([] : List Task))⟩,
    ⟨.agents "beta", some (.ok ([] : List Agent))⟩,
    ⟨.createTask "beta" ⟨"ship", .todo⟩, some (.ok (⟨7⟩ : CreatedTask))⟩,
    ⟨.tasks "beta" 200, none⟩]

/-- The team is not there, so there is nothing more to do. -/
def unloaded : List Exchange :=
  [⟨.bootstrap, some (.ok alphaFirst)⟩, ⟨.tasks "beta" 200, some (.error .undecodable)⟩,
    ⟨.agents "beta", some (.ok ([] : List Agent))⟩]

theorem task_is_created_on_beta :
    ((mutations creating).map (·.call) = [.createTask "beta" ⟨"ship", .todo⟩]
        ∧ "beta" = Text.trim " beta ")
      ∧ betaConsole.NotOpened unloaded ∧ mutations unloaded = [] := by
  have hcreating : Runs (betaConsole.run [] (.create "ship" false)).run creating none :=
    .answered _ (.answered _ (.answered _ (.answered _ (.unanswered _ _))))
  have hunloaded : Runs (betaConsole.run [] (.create "ship" false)).run unloaded none :=
    .answered _ (.answered _ (.answered _ (.brokenOff _)))
  have hnot : betaConsole.NotOpened unloaded :=
    @NotOpened.load _ alphaFirst [] unloaded.tail [] rfl rfl ⟨_, List.mem_cons_self, _, rfl⟩
  have hteam : ∀ e ∈ mutations creating, ∀ team, e.call.team? = some team →
      team = Text.trim " beta " := (one_mutation_on_the_right_team hcreating).rightTeam
  exact ⟨⟨rfl, hteam _ List.mem_cons_self "beta" rfl⟩, hnot,
    (one_mutation_on_the_right_team hunloaded).opened hnot⟩

end Console

end TeamConsole
