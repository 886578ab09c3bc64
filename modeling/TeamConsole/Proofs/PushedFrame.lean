import TeamConsole.Proofs.Change
import TeamConsole.Proofs.Deed
import TeamConsole.Proofs.Delivery

/-!
# What a pushed frame may touch

A frame comes through the stream and is handed to the console only if the console's handler is in
the slot and the frame is a notification. The console then carries out one operation: it looks up
what the notification asks for, makes at most two calls, and takes their answer. Between the two
steps other operations may do to the desk what they like.

* **`Handling`**: the steps with which the console handles a frame.
* **`reaction`**: the first step, one case for each thing that a notification may ask for.
* **`course_of_notify`**: the answer is taken in one step, after which nothing follows.
* **`pushed_frame_touches_only_what_it_names`**: the headline.
-/

namespace TeamConsole

open Sync (State)

variable {o : Sync.Options} {n : Notification}

/-! ## What a step leaves alone -/

/-- A step leaves the selection, the config and the approval queue as it found them. -/
structure Visit.Spares (v : Visit) : Prop where
  selectedTeam : v.step.desk.view.snapshot.selectedTeam = v.found.view.snapshot.selectedTeam
  epoch : v.step.desk.view.epoch = v.found.view.epoch
  config : v.step.desk.view.config = v.found.view.config
  queue : v.step.desk.queue = v.found.queue

/-- A step changes the list of teams and the numbers of its requests, if anything. -/
def Visit.OnlyTeams (v : Visit) : Prop :=
  ∃ teams teamsSeq, v.step.desk = { v.found with view := { v.found.view with
    teamsSeq, snapshot := { v.found.view.snapshot with teams } } }

/-- A step changes the allowlist and the numbers of its requests, if anything. -/
def Visit.OnlyNetwork (v : Visit) : Prop :=
  ∃ network networkSeq, v.step.desk = { v.found with view := { v.found.view with
    networkSeq, network } }

theorem Visit.OnlyTeams.spares {v : Visit} (h : v.OnlyTeams) : v.Spares := by
  obtain ⟨teams, teamsSeq, h⟩ := h
  constructor <;> rw [h]

theorem Visit.OnlyNetwork.spares {v : Visit} (h : v.OnlyNetwork) : v.Spares := by
  obtain ⟨network, networkSeq, h⟩ := h
  constructor <;> rw [h]

theorem Visit.Inert.spares {v : Visit} (h : v.Inert) : v.Spares := by
  constructor <;> rw [h.desk]

theorem settleRefresh_spares (s : State) (t : Sync.Ticket)
    (reply : Except GatewayError (List Task × List Agent)) :
    (s.settleRefresh t reply).1.snapshot.selectedTeam = s.snapshot.selectedTeam
      ∧ (s.settleRefresh t reply).1.epoch = s.epoch
      ∧ (s.settleRefresh t reply).1.config = s.config := by
  cases hcurrent : s.isCurrent t with
  | false =>
    rw [settleRefresh_stale hcurrent]
    exact ⟨rfl, rfl, rfl⟩
  | true =>
    cases reply with
    | error e =>
      rw [settleRefresh_error hcurrent]
      exact ⟨rfl, rfl, rfl⟩
    | ok lists =>
      rw [settleRefresh_ok hcurrent lists.1 lists.2]
      exact ⟨rfl, rfl, rfl⟩

theorem spares_resume_refresh (d : Desk) (t : Sync.Ticket) (after : AfterRefresh)
    (reply : (Waiting.refresh t after).Reply) :
    Visit.Spares ⟨d, d.resume o (.refresh t after) reply⟩ := by
  obtain ⟨hteam, hepoch, hconfig⟩ := settleRefresh_spares d.view t reply
  exact ⟨hteam, hepoch, hconfig, rfl⟩

theorem onlyTeams_resume (d : Desk) (seq : Nat) (notified : Bool)
    (reply : (Waiting.teams seq notified).Reply) :
    Visit.OnlyTeams ⟨d, d.resume o (.teams seq notified) reply⟩ := by
  cases reply with
  | error e => exact ⟨_, _, rfl⟩
  | ok teams =>
    simp only [Visit.OnlyTeams, Desk.resume]
    cases htaken : d.view.installTeams? seq teams with
    | none => exact ⟨_, _, rfl⟩
    | some view =>
      obtain ⟨teamsSeq, _, rfl⟩ := Option.map_eq_some_iff.mp htaken
      exact ⟨teams, teamsSeq, rfl⟩

theorem onlyNetwork_resume (d : Desk) (seq : Nat) (notified : Bool)
    (reply : (Waiting.network seq notified).Reply) :
    Visit.OnlyNetwork ⟨d, d.resume o (.network seq notified) reply⟩ := by
  cases reply with
  | error e => exact ⟨_, _, rfl⟩
  | ok network =>
    simp only [Visit.OnlyNetwork, Desk.resume]
    cases htaken : d.view.installNetwork? seq network with
    | none => exact ⟨_, _, rfl⟩
    | some view =>
      obtain ⟨networkSeq, _, rfl⟩ := Option.map_eq_some_iff.mp htaken
      exact ⟨network, networkSeq, rfl⟩

/-! ## The first step -/

/-- A notification is about the lists of a team that is selected. -/
structure Notification.Concerns (n : Notification) (selected : Option String) (team : String) :
    Prop where
  kind : n.kind = .taskUpdate ∨ n.kind = .agentUpdate
  addressed : n.team = some team
  selected : selected = some team

/-- **What a notification starts**, on the desk that it finds. -/
inductive Reaction (n : Notification) (d : Desk) : Step → Prop where
  | lists {team : String} (h : n.Concerns d.view.snapshot.selectedTeam team) :
      Reaction n d ⟨{ d with view := withRefresh d.view }, Sync.phaseEvent d.view.phase .loading,
        .wait (.refresh ⟨team, d.view.epoch, d.view.seq + 1⟩ (.notified .refreshSelected))⟩
  | teams (h : n.kind = .teamUpdate) : Reaction n d (d.requestTeams true)
  | network (h : n.kind = .networkUpdate) : Reaction n d (d.requestNetwork true)
  | nothing (hlists : ∀ team, ¬ n.Concerns d.view.snapshot.selectedTeam team)
      (hteams : n.kind ≠ .teamUpdate) (hnetwork : n.kind ≠ .networkUpdate) :
      Reaction n d (d.ended (.notified .ignore))

theorem concerns_iff {selected : Option String}
    (hkind : n.kind = .taskUpdate ∨ n.kind = .agentUpdate) :
    selected.any n.isForTeam = true ↔ ∃ team, n.Concerns selected team := by
  cases selected with
  | none => exact iff_of_false nofun fun ⟨_, h⟩ => nomatch h.selected
  | some team =>
    simp only [Option.any_some, Notification.isForTeam, decide_eq_true_eq]
    exact ⟨fun h => ⟨team, hkind, h, rfl⟩, fun ⟨_, h⟩ => h.addressed.trans h.selected.symm⟩

theorem reaction (o : Sync.Options) (n : Notification) (d : Desk) :
    Reaction n d (d.start o (.notify n)) := by
  by_cases hlists : n.kind = .taskUpdate ∨ n.kind = .agentUpdate
  · have hplan : NotifyAction.plan d.view.snapshot.selectedTeam n
        = if d.view.snapshot.selectedTeam.any n.isForTeam then .refreshSelected else .ignore := by
      unfold NotifyAction.plan
      obtain hkind | hkind := hlists <;> rw [hkind]
    have hnot : n.kind ≠ .teamUpdate ∧ n.kind ≠ .networkUpdate := by
      obtain hkind | hkind := hlists <;> simp [hkind]
    simp only [Desk.start, hplan]
    by_cases hany : d.view.snapshot.selectedTeam.any n.isForTeam = true
    · obtain ⟨team, hconcerns⟩ := (concerns_iff hlists).mp hany
      simp only [hany, if_true, refresh_of_selected o hconcerns.selected, List.nil_append]
      exact .lists hconcerns
    · simp only [hany]
      exact .nothing (fun team h => hany ((concerns_iff hlists).mpr ⟨team, h⟩)) hnot.1 hnot.2
  · have hnone : ∀ team, ¬ n.Concerns d.view.snapshot.selectedTeam team :=
      fun team h => hlists h.kind
    simp only [Desk.start, NotifyAction.plan]
    cases hkind : n.kind with
    | taskUpdate => exact absurd (Or.inl hkind) hlists
    | agentUpdate => exact absurd (Or.inr hkind) hlists
    | teamUpdate => exact .teams hkind
    | networkUpdate => exact .network hkind
    | message => exact .nothing hnone (by simp [hkind]) (by simp [hkind])
    | other name => exact .nothing hnone (by simp [hkind]) (by simp [hkind])

/-! ## The answer

It is taken in one step, after which the operation waits for nothing and sleeps no more. -/

/-- What a notification waits for is over with the answer to it. -/
theorem ends_with_answer {d : Desk} {w : Waiting} (h : (d.start o (.notify n)).asks = some w)
    (d' : Desk) (reply : w.Reply) :
    (d'.resume o w reply).asks = none ∧ (d'.resume o w reply).sleeps = none := by
  have hreaction := reaction o n d
  generalize d.start o (.notify n) = step at h hreaction
  cases hreaction with
  | lists | teams | network =>
    cases h
    cases reply <;> exact ⟨rfl, rfl⟩
  | nothing => cases h

/-- **The courses of a notification** have at most two steps. -/
theorem course_of_notify {visits : List Visit} (h : Course o (.notify n) visits) :
    ∃ d, visits = [⟨d, d.start o (.notify n)⟩] ∨
      ∃ w d' reply, (d.start o (.notify n)).asks = some w
        ∧ visits = [⟨d', d'.resume o w reply⟩, ⟨d, d.start o (.notify n)⟩] := by
  have hnever : ∀ d : Desk, (d.start o (.notify n)).sleeps = none := by
    intro d
    have hreaction := reaction o n d
    generalize d.start o (.notify n) = step at hreaction
    cases hreaction <;> rfl
  induction h with
  | start d => exact ⟨d, Or.inl rfl⟩
  | resume _ hw reply d ih =>
    obtain ⟨first, hfirst | ⟨w, d', answer, hasks, hboth⟩⟩ := ih
    · cases hfirst
      exact ⟨first, Or.inr ⟨_, d, reply, hw, rfl⟩⟩
    · -- after the answer there is nothing to wait for
      cases hboth
      exact nomatch (ends_with_answer hasks d' answer).1.symm.trans hw
  | wake _ hr d ih =>
    obtain ⟨first, hfirst | ⟨w, d', answer, hasks, hboth⟩⟩ := ih
    · cases hfirst
      exact nomatch (hnever first).symm.trans hr
    · cases hboth
      exact nomatch (ends_with_answer hasks d' answer).2.symm.trans hr

/-- The calls of a notification are those of its first step, and any other step takes the
answer. -/
theorem steps_of_notify {visits : List Visit} {first : Visit} (h : Course o (.notify n) visits)
    (hfirst : visits.getLast? = some first) :
    Reaction n first.found first.step ∧ callsOf o visits = first.calls o
      ∧ ∀ v ∈ visits, v = first
        ∨ ∃ w d reply, first.step.asks = some w ∧ v = ⟨d, d.resume o w reply⟩ := by
  obtain ⟨d, rfl | ⟨w, d', reply, hasks, rfl⟩⟩ := course_of_notify h
  · cases hfirst
    exact ⟨reaction o n d, by simp [callsOf], fun v hv => Or.inl (List.mem_singleton.mp hv)⟩
  · cases hfirst
    -- the second step waits for nothing, so it adds no call
    have hnone : Visit.calls o ⟨d', d'.resume o w reply⟩ = [] := by
      simp [Visit.calls, (ends_with_answer hasks d' reply).1]
    refine ⟨reaction o n d, by simp [callsOf, hnone], fun v hv => ?_⟩
    obtain rfl | hv := List.mem_cons.mp hv
    · exact Or.inr ⟨w, d', reply, hasks, rfl⟩
    · exact Or.inl (List.mem_singleton.mp hv)

/-! ## The headline -/

theorem Notification.Concerns.kind_ne {selected : Option String} {team : String}
    (h : n.Concerns selected team) : n.kind ≠ .teamUpdate ∧ n.kind ≠ .networkUpdate := by
  obtain hkind | hkind := h.kind <;> simp [hkind]

/-- **What the handling of a notification amounts to**, for the team that was selected when it
began. -/
structure Notification.Touches (n : Notification) (o : Sync.Options) (selected : Option String)
    (visits : List Visit) : Prop where
  reads : ∀ call ∈ callsOf o visits, call.isMutation = false
  spares : ∀ v ∈ visits, v.Spares
  /-- The lists of a team are fetched if the notification concerns it. -/
  lists : ∀ team, callsOf o visits = [.tasks team o.taskLimit, .agents team] ↔
    n.Concerns selected team
  teams : callsOf o visits = [.teams] ↔ n.kind = .teamUpdate
  network : callsOf o visits = [.network] ↔ n.kind = .networkUpdate
  onlyTeams : n.kind = .teamUpdate → ∀ v ∈ visits, v.OnlyTeams
  onlyNetwork : n.kind = .networkUpdate → ∀ v ∈ visits, v.OnlyNetwork
  /-- Any other notification has no effect at all. -/
  nothing : (∀ team, ¬ n.Concerns selected team) → n.kind ≠ .teamUpdate →
    n.kind ≠ .networkUpdate → callsOf o visits = [] ∧ ∀ v ∈ visits, v.Inert

section

variable {selected : Option String} {visits : List Visit}

theorem touches_of_concerns {team : String} (h : n.Concerns selected team)
    (hcalls : callsOf o visits = [.tasks team o.taskLimit, .agents team])
    (hspares : ∀ v ∈ visits, v.Spares) : n.Touches o selected visits where
  reads := hcalls ▸ by simp [Call.isMutation]
  spares := hspares
  lists other := by
    rw [hcalls]
    constructor
    · intro hcall
      obtain rfl : team = other := by simpa using hcall
      exact h
    · intro hother
      obtain rfl := Option.some.inj (h.addressed.symm.trans hother.addressed)
      rfl
  teams := hcalls ▸ iff_of_false nofun h.kind_ne.1
  network := hcalls ▸ iff_of_false nofun h.kind_ne.2
  onlyTeams hkind := absurd hkind h.kind_ne.1
  onlyNetwork hkind := absurd hkind h.kind_ne.2
  nothing hnone := absurd h (hnone team)

theorem touches_of_teamUpdate (hkind : n.kind = .teamUpdate) (hcalls : callsOf o visits = [.teams])
    (honly : ∀ v ∈ visits, v.OnlyTeams) : n.Touches o selected visits where
  reads := hcalls ▸ by simp [Call.isMutation]
  spares v hv := (honly v hv).spares
  lists _ := hcalls ▸ iff_of_false nofun fun h => h.kind_ne.1 hkind
  teams := iff_of_true hcalls hkind
  network := hcalls ▸ iff_of_false nofun (by simp [hkind])
  onlyTeams _ := honly
  onlyNetwork h := nomatch hkind.symm.trans h
  nothing _ hne := absurd hkind hne

theorem touches_of_networkUpdate (hkind : n.kind = .networkUpdate)
    (hcalls : callsOf o visits = [.network]) (honly : ∀ v ∈ visits, v.OnlyNetwork) :
    n.Touches o selected visits where
  reads := hcalls ▸ by simp [Call.isMutation]
  spares v hv := (honly v hv).spares
  lists _ := hcalls ▸ iff_of_false nofun fun h => h.kind_ne.2 hkind
  teams := hcalls ▸ iff_of_false nofun (by simp [hkind])
  network := iff_of_true hcalls hkind
  onlyTeams h := nomatch hkind.symm.trans h
  onlyNetwork _ := honly
  nothing _ _ hne := absurd hkind hne

theorem touches_of_nothing (hlists : ∀ team, ¬ n.Concerns selected team)
    (hteams : n.kind ≠ .teamUpdate) (hnetwork : n.kind ≠ .networkUpdate)
    (hcalls : callsOf o visits = []) (hinert : ∀ v ∈ visits, v.Inert) :
    n.Touches o selected visits where
  reads := hcalls ▸ nofun
  spares v hv := (hinert v hv).spares
  lists team := iff_of_false (fun h => nomatch hcalls.symm.trans h) (hlists team)
  teams := iff_of_false (fun h => nomatch hcalls.symm.trans h) hteams
  network := iff_of_false (fun h => nomatch hcalls.symm.trans h) hnetwork
  onlyTeams h := absurd h hteams
  onlyNetwork h := absurd h hnetwork
  nothing _ _ _ := ⟨hcalls, hinert⟩

end

/-- Every course of a notification touches what its first step asks for. -/
theorem touches_of_course {visits : List Visit} {first : Visit}
    (h : Course o (.notify n) visits) (hfirst : visits.getLast? = some first) :
    n.Touches o first.found.view.snapshot.selectedTeam visits := by
  obtain ⟨hreaction, hcalls, hsteps⟩ := steps_of_notify h hfirst
  -- a property of the first step and of every answer to it is one of all steps
  have hall : ∀ p : Visit → Prop, p first → (∀ w, first.step.asks = some w → ∀ d reply,
      p ⟨d, d.resume o w reply⟩) → ∀ v ∈ visits, p v := by
    intro p hp hanswer v hv
    obtain rfl | ⟨w, d, reply, hasks, rfl⟩ := hsteps v hv
    · exact hp
    · exact hanswer w hasks d reply
  obtain ⟨d, step⟩ := first
  simp only at hreaction
  cases hreaction with
  | lists hconcerns =>
    refine touches_of_concerns hconcerns hcalls ?_
    refine hall _ ⟨rfl, rfl, rfl, rfl⟩ fun w hasks d' reply => ?_
    cases hasks
    exact spares_resume_refresh d' _ _ reply
  | teams hkind =>
    refine touches_of_teamUpdate hkind hcalls ?_
    refine hall _ ⟨_, _, rfl⟩ fun w hasks d' reply => ?_
    cases hasks
    exact onlyTeams_resume d' _ _ reply
  | network hkind =>
    refine touches_of_networkUpdate hkind hcalls ?_
    refine hall _ ⟨_, _, rfl⟩ fun w hasks d' reply => ?_
    cases hasks
    exact onlyNetwork_resume d' _ _ reply
  | nothing hlists hteams hnetwork =>
    exact touches_of_nothing hlists hteams hnetwork hcalls
      (hall _ ⟨rfl, rfl, nofun, rfl⟩ fun w hasks => nomatch hasks)

/-- **The handling of a frame** that comes through the stream of a client. The frame is handed to
whatever handler is in the slot; if that is the console's, its operation begins. -/
inductive Handling {η : Type} (react : η → Notification → Option η) (console : η)
    (o : Sync.Options) (c : Stream.Client η) (data : String) : List Visit → Prop where
  | unheard (h : ∀ d, (c.step react (.source (.message data))).2 = some d → d.handler ≠ console) :
      Handling react console o c data []
  | heard {d : Stream.Delivery η} {visits : List Visit}
      (hdelivery : (c.step react (.source (.message data))).2 = some d)
      (hconsole : d.handler = console) (hcourse : Course o (.notify d.notification) visits) :
      Handling react console o c data visits

/-- A frame is handed to the handler in the slot of an open stream if it is a notification. -/
theorem delivery_iff {η : Type} {react : η → Notification → Option η} {c : Stream.Client η}
    {data : String} {d : Stream.Delivery η} :
    (c.step react (.source (.message data))).2 = some d ↔
      c.state ≠ .closed ∧ c.slot = some d.handler ∧ c.state = d.state
        ∧ Inbound.decode? data = some (.notification d.notification) := by
  have hbrings : ∀ n, (Stream.Input.source (η := η) (.message data)).notification? = some n ↔
      Inbound.decode? data = some (.notification n) := by
    intro n
    simp only [Stream.Input.notification?]
    split <;> simp_all
  rw [Stream.Client.step]
  split
  · rename_i hclosed
    exact iff_of_false (Option.some_ne_none d).symm fun h => h.1 hclosed
  · rename_i hopen
    rw [Stream.Client.takeEvent_delivery]
    simp only [Option.bind_eq_bind, Option.bind_eq_some_iff, hbrings, Option.pure_def,
      Option.some.injEq]
    constructor
    · rintro ⟨n, hn, handler, hslot, rfl⟩
      exact ⟨hopen, hslot, rfl, hn⟩
    · rintro ⟨_, hslot, hstate, hn⟩
      exact ⟨d.notification, hn, d.handler, hslot, by rw [hstate]⟩

/-- **What a pushed frame may touch.** The console acts on a frame exactly if the frame is a
notification and comes through an open stream while the console's handler is in the slot. It
never makes a change on the server, and never touches the selection, the epoch, the config or the
approval queue. It fetches the lists of the selected team exactly if the notification is about
tasks or agents of that team, the teams and the allowlist exactly if it is about these, and changes
nothing else then; and any other notification leaves everything as it is. -/
theorem pushed_frame_touches_only_what_it_names {η : Type}
    {react : η → Notification → Option η} {console : η} {o : Sync.Options} {c : Stream.Client η}
    {data : String} {visits : List Visit} (h : Handling react console o c data visits) :
    (visits ≠ [] ↔ c.state ≠ .closed ∧ c.slot = some console
        ∧ ∃ n, Inbound.decode? data = some (.notification n))
      ∧ ∀ n first, Inbound.decode? data = some (.notification n) → visits.getLast? = some first →
          n.Touches o first.found.view.snapshot.selectedTeam visits := by
  cases h with
  | unheard hnot =>
    refine ⟨iff_of_false (fun h => h rfl) ?_, fun _ _ _ hfirst => nomatch hfirst⟩
    rintro ⟨hopen, hslot, n, hn⟩
    exact hnot ⟨console, c.state, n⟩ (delivery_iff.mpr ⟨hopen, hslot, rfl, hn⟩) rfl
  | @heard d visits hdelivery hconsole hcourse =>
    obtain ⟨hopen, hslot, _, hd⟩ := delivery_iff.mp hdelivery
    refine ⟨iff_of_true ?_ ⟨hopen, hconsole ▸ hslot, _, hd⟩, fun n first hn hfirst => ?_⟩
    · cases hcourse <;> exact List.cons_ne_nil _ _
    · cases hd.symm.trans hn
      exact touches_of_course hcourse hfirst

/-- A frame that gives the team by a number, and a desk with the team of that name. -/
def numberedFrame : String :=
  "\x7b\"type\":\"agent_update\",\"team\":7\x7d"

def numberedDesk : Desk where
  view := { snapshot := ⟨some "7", [], [], []⟩, phase := .ready, epoch := 1 }

theorem numbered_team_is_fetched :
    let n : Notification := ⟨.agentUpdate, some "7", none, none, none, none, none, none⟩
    callsOf ⟨200, 3, 200⟩ [⟨numberedDesk, numberedDesk.start ⟨200, 3, 200⟩ (.notify n)⟩]
      = [.tasks "7" 200, .agents "7"] := by
  intro n
  have hread : Json.ofString? numberedFrame
      = some (.obj [("type", .str "agent_update"), ("team", .num (.int 7))]) := rfl
  have hdecoded : Inbound.decode? numberedFrame = some (.notification n) := by
    rw [Inbound.decode?, hread]
    decide
  have hdelivery : (Stream.Client.step (fun h _ => some h) ⟨.connected, some ()⟩
      (.source (.message numberedFrame))).2 = some ⟨(), .connected, n⟩ :=
    delivery_iff.mpr ⟨by decide, rfl, rfl, hdecoded⟩
  have hhandling : Handling (fun h _ => some h) () ⟨200, 3, 200⟩ ⟨.connected, some ()⟩
      numberedFrame [⟨numberedDesk, numberedDesk.start ⟨200, 3, 200⟩ (.notify n)⟩] :=
    .heard hdelivery rfl (.start numberedDesk)
  have htouches := (pushed_frame_touches_only_what_it_names hhandling).2 n _ hdecoded rfl
  exact (htouches.lists "7").mpr ⟨Or.inr rfl, rfl, rfl⟩

end TeamConsole
