import Mathlib.Data.List.Perm.Subperm
import TeamConsole.Session
import TeamConsole.Proofs.Run

/-!
# Sessions are runs

A session numbers its calls, takes standing answers, and lets its retries go on by the clock. A
run knows nothing of these: what waits may be answered, and what sleeps may wake. Whatever a
session does is a run, so what holds in all runs holds in all sessions.

* **`Mirrors`**: the threads of a session against what is under way in a scene.
* **`isRun_follow`**: a step, with all the rounds that standing answers allow.
* **`isRun_wakeDue`**: the retries whose time has come.
* **`Session.Reached`**, **`session_isRun`**: the headline.
-/

namespace TeamConsole

/-- For what a thread waits. -/
def Thread.waiting? : Thread → Option Waiting
  | calling _ w _ _ => some w
  | asleep .. => none

/-- The retry that a thread sleeps for. -/
def Thread.retry? : Thread → Option Sync.Retry
  | calling .. => none
  | asleep _ _ r => some r

/-- **The threads of a session in a scene.** They wait for what is under way, and every retry
among them sleeps there; a retry that its session did not take up may sleep there besides. -/
structure Mirrors (waiting : List Waiting) (asleep : List Sync.Retry) (threads : List Thread) :
    Prop where
  waiting : waiting.Perm (threads.filterMap Thread.waiting?)
  asleep : (threads.filterMap Thread.retry?).Subperm asleep

theorem Mirrors.perm {waiting : List Waiting} {asleep : List Sync.Retry}
    {threads threads' : List Thread} (h : Mirrors waiting asleep threads)
    (hperm : threads.Perm threads') : Mirrors waiting asleep threads' :=
  ⟨h.waiting.trans (hperm.filterMap _), (hperm.filterMap _).subperm_right.mp h.asleep⟩

theorem Mirrors.calling {waiting : List Waiting} {asleep : List Sync.Retry}
    {threads : List Thread} (h : Mirrors waiting asleep threads) (owner : Owner) (w : Waiting)
    (missing : List (Nat × Call)) (arrived : List (Call × RawReply)) :
    Mirrors (w :: waiting) asleep (threads ++ [.calling owner w missing arrived]) := by
  have hcons : Mirrors (w :: waiting) asleep (.calling owner w missing arrived :: threads) :=
    ⟨h.waiting.cons w, h.asleep⟩
  exact hcons.perm (List.perm_append_singleton _ threads).symm

theorem Mirrors.sleeping {waiting : List Waiting} {asleep : List Sync.Retry}
    {threads : List Thread} (h : Mirrors waiting asleep threads) (owner : Owner) (due : Nat)
    (r : Sync.Retry) : Mirrors waiting (r :: asleep) (threads ++ [.asleep owner due r]) := by
  have hcons : Mirrors waiting (r :: asleep) (.asleep owner due r :: threads) :=
    ⟨h.waiting, (List.subperm_cons r).mpr h.asleep⟩
  exact hcons.perm (List.perm_append_singleton _ threads).symm

/-- A session is in a state to which some run leads. -/
def Session.IsRun (s : Session) : Prop :=
  ∃ past c, Run s.options past c ∧ c.desk = s.desk ∧ Mirrors c.waiting c.asleep s.threads

/-! ## Following a step -/

/-- Calls change neither the desk nor the threads. -/
theorem issueAll_keeps (s : Session) (calls : List Call) :
    (s.issueAll calls).1.options = s.options ∧ (s.issueAll calls).1.desk = s.desk
      ∧ (s.issueAll calls).1.threads = s.threads := by
  induction calls generalizing s with
  | nil => exact ⟨rfl, rfl, rfl⟩
  | cons c rest ih =>
    have hrest : ((s.issue c).1.issueAll rest).1.options = s.options
        ∧ ((s.issue c).1.issueAll rest).1.desk = s.desk
        ∧ ((s.issue c).1.issueAll rest).1.threads = s.threads := ih (s.issue c).1
    unfold Session.issueAll
    cases hreply : (s.issue c).2.2 <;> simpa only [hreply] using hrest

/-- **How a session waits.** It makes the calls of what it waits for. Then a thread waits for the
replies, or all of them are in and it goes on at once. -/
theorem follow_wait (s : Session) (owner : Owner) (desk : Desk) (told : List Sync.Event)
    (w : Waiting) (rounds : Nat) :
    ∃ s' : Session, s'.options = s.options ∧ s'.desk = desk ∧ s'.threads = s.threads
      ∧ ((∃ missing arrived, s.follow owner ⟨desk, told, .wait w⟩ rounds
            = { s' with threads := s'.threads ++ [.calling owner w missing arrived] })
        ∨ ∃ n reply, rounds = n + 1 ∧ s.follow owner ⟨desk, told, .wait w⟩ rounds
            = s'.follow owner (s'.desk.resume s'.options w reply) n) := by
  let s₁ : Session :=
    { s with desk, record := { s.record with events := s.record.events ++ told } }
  obtain ⟨hoptions, hdesk, hthreads⟩ := issueAll_keeps s₁ (w.calls s.options)
  refine ⟨(s₁.issueAll (w.calls s.options)).1, hoptions, hdesk, hthreads, ?_⟩
  rw [Session.follow.eq_def s owner]
  simp only []
  split
  · rename_i hmissing
    refine Or.inr ⟨_, _, rfl, rfl⟩
  · exact Or.inl ⟨_, _, rfl⟩

/-- A step after which nothing is waited for is the last one of its turn. -/
theorem isRun_ended {past : List Moment} {waiting : List Waiting} {asleep : List Sync.Retry}
    {s : Session} {owner : Owner} {step : Step} {rounds : Nat} (hnext : step.asks = none)
    (hrun : Run s.options past ⟨step.desk, waiting, step.sleeps.toList ++ asleep⟩)
    (h : Mirrors waiting asleep s.threads) : (s.follow owner step rounds).IsRun := by
  obtain ⟨desk, told, next⟩ := step
  cases next with
  | done r retry =>
    cases retry with
    | none => cases rounds <;> exact ⟨past, _, hrun, rfl, h⟩
    | some retry =>
      cases owner with
      | job n => cases rounds <;> exact ⟨past, _, hrun, rfl, h.sleeping _ _ _⟩
      | retry n => cases rounds <;> exact ⟨past, _, hrun, rfl, h.waiting, h.asleep.cons_right _⟩
      | stream => cases rounds <;> exact ⟨past, _, hrun, rfl, h.waiting, h.asleep.cons_right _⟩
  | sleep r => cases rounds <;> exact ⟨past, _, hrun, rfl, h.sleeping _ _ _⟩
  | wait w => cases hnext

/-- **A followed step is part of the run.** Induction on the rounds that standing answers may
still take; each such round is an answer in the run. -/
theorem isRun_follow {past : List Moment} {waiting : List Waiting} {asleep : List Sync.Retry}
    {s : Session} {owner : Owner} {step : Step} {rounds : Nat}
    (hrun : Run s.options past
      ⟨step.desk, step.asks.toList ++ waiting, step.sleeps.toList ++ asleep⟩)
    (h : Mirrors waiting asleep s.threads) : (s.follow owner step rounds).IsRun := by
  induction rounds using Nat.strongRecOn generalizing past waiting asleep s step with
  | ind rounds ih =>
    cases hasks : step.asks with
    | none =>
      rw [hasks] at hrun
      exact isRun_ended hasks hrun h
    | some w =>
      obtain ⟨desk, told, next⟩ := step
      cases next_of_asks hasks
      obtain ⟨s', hoptions, rfl, hthreads, hgoes⟩ := follow_wait s owner desk told w rounds
      rw [← hthreads] at h
      rw [← hoptions] at hrun
      rcases hgoes with ⟨missing, arrived, hfollow⟩ | ⟨n, reply, hrounds, hfollow⟩
      · rw [hfollow]
        exact ⟨past, _, hrun, rfl, h.calling owner w missing arrived⟩
      · rw [hfollow]
        have hanswer := Run.act (.answer w reply) hrun List.mem_cons_self
        have hothers : Scene.stillWaiting ⟨s'.desk, w :: waiting, asleep⟩ (.answer w reply)
            = waiting := List.erase_cons_head w waiting
        unfold Scene.after at hanswer
        exact ih n (by omega) (hothers ▸ hanswer) h

/-- An action of the run is a step that the session follows. -/
theorem isRun_act {past : List Moment} {c : Scene} {a : Action} {s : Session} {owner : Owner}
    {step : Step} {rounds : Nat} (hrun : Run s.options past c) (ha : c.Allows a)
    (hturn : c.turn s.options a = step.turn)
    (h : Mirrors (c.stillWaiting a) (c.stillAsleep a) s.threads) :
    (s.follow owner step rounds).IsRun := by
  have hafter := Run.act a hrun ha
  unfold Scene.after at hafter
  rw [hturn] at hafter
  exact isRun_follow hafter h

/-! ## Waking -/

theorem takeDue_perm {now : Nat} {threads : List Thread} {owner : Owner} {r : Sync.Retry}
    {others : List Thread} (h : Session.takeDue now threads = some (owner, r, others)) :
    ∃ due, threads.Perm (.asleep owner due r :: others) := by
  induction threads generalizing others with
  | nil => cases h
  | cons t rest ih =>
    cases t with
    | calling o w missing arrived =>
      obtain ⟨⟨o', q, rest'⟩, hrest, heq⟩ := Option.map_eq_some_iff.mp h
      cases heq
      obtain ⟨due, hperm⟩ := ih hrest
      exact ⟨due, (hperm.cons _).trans (.swap _ _ _)⟩
    | asleep o due q =>
      unfold Session.takeDue at h
      split at h
      · cases h
        exact ⟨due, .refl _⟩
      · obtain ⟨⟨o', q', rest'⟩, hrest, heq⟩ := Option.map_eq_some_iff.mp h
        cases heq
        obtain ⟨due', hperm⟩ := ih hrest
        exact ⟨due', (hperm.cons _).trans (.swap _ _ _)⟩

/-- The retries whose time has come go on as retries of the run that wake. -/
theorem isRun_wakeDue {s : Session} (h : s.IsRun) (limit : Nat) : (s.wakeDue limit).IsRun := by
  induction limit generalizing s with
  | zero => exact h
  | succ limit ih =>
    unfold Session.wakeDue
    cases hdue : Session.takeDue s.now s.threads with
    | none => exact h
    | some due =>
      obtain ⟨owner, r, others⟩ := due
      obtain ⟨past, c, hrun, hdesk, hmirrors⟩ := h
      obtain ⟨_, hperm⟩ := takeDue_perm hdue
      have hwoken := hmirrors.perm hperm
      have hmem : r ∈ c.asleep := hwoken.asleep.subset List.mem_cons_self
      refine ih (isRun_act (a := .wake r) (s := { s with threads := others }) hrun hmem ?_ ?_)
      · rw [← hdesk]
        rfl
      · refine ⟨hwoken.waiting, ?_⟩
        have hrest : (r :: others.filterMap Thread.retry?).erase r
            = others.filterMap Thread.retry? := List.erase_cons_head r _
        show (others.filterMap Thread.retry?).Subperm (c.asleep.erase r)
        rw [← hrest]
        exact hwoken.asleep.erase r

theorem isRun_settle {s : Session} (h : s.IsRun) : s.settle.IsRun :=
  isRun_wakeDue h _

/-! ## The ways to drive a session -/

theorem isRun_run {s : Session} (h : s.IsRun) (owner : Owner) (op : Operation) :
    (s.run owner op).IsRun := by
  obtain ⟨past, c, hrun, hdesk, hmirrors⟩ := h
  refine isRun_settle (isRun_act (a := .start op) hrun trivial ?_ hmirrors)
  rw [← hdesk]
  rfl

theorem takeWaiting_perm {id : Nat} {threads : List Thread} {owner : Owner} {w : Waiting}
    {missing : List (Nat × Call)} {arrived : List (Call × RawReply)} {others : List Thread}
    (h : Session.takeWaiting id threads = some (owner, w, missing, arrived, others)) :
    threads.Perm (.calling owner w missing arrived :: others) := by
  induction threads generalizing others with
  | nil => cases h
  | cons t rest ih =>
    cases t with
    | calling o v m b =>
      unfold Session.takeWaiting at h
      split at h
      · cases h
        exact .refl _
      · obtain ⟨⟨o', v', m', b', rest'⟩, hrest, heq⟩ := Option.map_eq_some_iff.mp h
        cases heq
        exact ((ih hrest).cons _).trans (.swap _ _ _)
    | asleep o due q =>
      obtain ⟨⟨o', v', m', b', rest'⟩, hrest, heq⟩ := Option.map_eq_some_iff.mp h
      cases heq
      exact ((ih hrest).cons _).trans (.swap _ _ _)

/-- A reply that is not the last one missing changes nothing of the run; the last one is an
answer. -/
theorem isRun_deliver {s s' : Session} {id : Nat} {reply : RawReply} (h : s.IsRun)
    (hdeliver : s.deliver? id reply = some s') : s'.IsRun := by
  obtain ⟨⟨owner, w, missing, arrived, others⟩, hwaiting, rfl⟩ :=
    Option.map_eq_some_iff.mp hdeliver
  obtain ⟨past, c, hrun, hdesk, hmirrors⟩ := h
  have hfound := hmirrors.perm (takeWaiting_perm hwaiting)
  have hmem : w ∈ c.waiting := hfound.waiting.mem_iff.mpr List.mem_cons_self
  have hothers : Mirrors (c.waiting.erase w) c.asleep others := by
    have hrest : (w :: others.filterMap Thread.waiting?).erase w
        = others.filterMap Thread.waiting? := List.erase_cons_head w _
    refine ⟨?_, hfound.asleep⟩
    rw [← hrest]
    exact hfound.waiting.erase w
  let arrived' := arrived ++ (missing.filter (·.1 = id)).map fun m => (m.2, reply)
  simp only
  split
  · let answer := w.gather s.options (Session.replyTo arrived')
    refine isRun_settle (isRun_act (a := .answer w answer) (s := { s with threads := others })
      hrun hmem ?_ hothers)
    rw [← hdesk]
    rfl
  · have hback := hothers.calling owner w (missing.filter (·.1 ≠ id)) arrived'
    exact ⟨past, c, hrun, hdesk, (List.perm_cons_erase hmem).trans hback.waiting, hback.asleep⟩

theorem isRun_advance {s : Session} (h : s.IsRun) (ms : Nat) : (s.advance ms).IsRun := by
  induction ms generalizing s with
  | zero => exact h
  | succ ms ih => exact ih (isRun_settle (s := { s with now := s.now + 1 }) h)

theorem isRun_dispatch {s : Session} (h : s.IsRun) (n : Notification) :
    (s.dispatch n).1.IsRun := by
  unfold Session.dispatch
  split
  · exact isRun_run h .stream (.notify n)
  · exact h

theorem isRun_overlay {s : Session} (h : s.IsRun) (team : String) (id : Int) (v : Confirmed) :
    (s.overlay team id v.apply).1.IsRun := by
  obtain ⟨past, ⟨_, waiting, asleep⟩, hrun, rfl, hmirrors⟩ := h
  refine ⟨_, _, .act (.confirm team id v) hrun trivial, ?_, ?_⟩
  · cases v <;> rfl
  · cases v <;> exact hmirrors

theorem isRun_dropQueued {s : Session} (h : s.IsRun) (team : String) (id : Int) :
    (s.dropQueued team id).1.IsRun := by
  obtain ⟨past, ⟨_, waiting, asleep⟩, hrun, rfl, hmirrors⟩ := h
  exact ⟨_, _, .act (.drop team id) hrun trivial, rfl, hmirrors⟩

/-! ## The headline -/

/-- **The states of a session** that begins with the options `o`. -/
inductive Session.Reached (o : Sync.Options) : Session → Prop where
  | fresh : Reached o { options := o }
  | start {s : Session} (h : Reached o s) (op : Operation) : Reached o (s.start op)
  /-- A job that names no operation uses up its number all the same. -/
  | takeJob {s : Session} (h : Reached o s) : Reached o s.takeJob
  | deliver {s s' : Session} {id : Nat} {reply : RawReply} (h : Reached o s)
      (hdeliver : s.deliver? id reply = some s') : Reached o s'
  | advance {s : Session} (h : Reached o s) (ms : Nat) : Reached o (s.advance ms)
  | stand {s : Session} (h : Reached o s) (a : Standing) : Reached o (s.stand a)
  | clearStanding {s : Session} (h : Reached o s) : Reached o { s with standing := [] }
  | attach {s : Session} (h : Reached o s) (attached : Bool) : Reached o { s with attached }
  | dispatch {s : Session} (h : Reached o s) (n : Notification) : Reached o (s.dispatch n).1
  | overlay {s : Session} (h : Reached o s) (team : String) (id : Int) (v : Confirmed) :
      Reached o (s.overlay team id v.apply).1
  | dropQueued {s : Session} (h : Reached o s) (team : String) (id : Int) :
      Reached o (s.dropQueued team id).1
  | clearRecord {s : Session} (h : Reached o s) : Reached o s.clearRecord

/-- **Whatever a session does is a run.** The desk of every state that a session reaches is that
of a scene to which a run leads, and its threads wait for what is under way there. -/
theorem session_isRun {o : Sync.Options} {s : Session} (h : Session.Reached o s) : s.IsRun := by
  induction h with
  | fresh => exact ⟨[], {}, .fresh, rfl, .refl _, List.Subperm.refl _⟩
  | start _ op ih => exact isRun_run (s := Session.takeJob _) ih _ op
  | takeJob _ ih => exact ih
  | deliver _ hdeliver ih => exact isRun_deliver ih hdeliver
  | advance _ ms ih => exact isRun_advance ih ms
  | stand _ a ih => exact ih
  | clearStanding _ ih => exact ih
  | attach _ attached ih => exact ih
  | dispatch _ n ih => exact isRun_dispatch ih n
  | overlay _ team id v ih => exact isRun_overlay ih team id v
  | dropQueued _ team id ih => exact isRun_dropQueued ih team id
  | clearRecord _ ih => exact ih

end TeamConsole
