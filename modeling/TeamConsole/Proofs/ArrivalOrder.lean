import Mathlib.Data.List.Nodup
import Mathlib.Data.List.Perm.Subperm
import TeamConsole.Proofs.Freshness

/-!
# The order in which refreshes arrive

Any number of refreshes of the selected team are under way, and their answers arrive in an order
that nothing controls. Each answer that is taken makes those of older refreshes too late, and a
failed one makes none too late. So what is shown when all have arrived is decided by the answers
alone.

* **`Scene.deliver`**: the scene after answers that arrive one by one, with nothing in between.
* **`Decided`**: what the answers decide on, told without an order.
* **`decided_settled`**: whatever the order, that is shown; by induction on the answers.
* **`Run.ticket_seq_nodup`**: refreshes under way have different numbers, so it is one outcome.
* **`arrival_order_is_irrelevant`**: the headline.
-/

namespace TeamConsole

open Sync (State)

/-! ## Answers that arrive one by one -/

/-- What a refresh brings to the view: its lists, the tasks that show a confirmed change, and the
number up to which other answers come too late. -/
structure Shown where
  tasks : List Task
  agents : List Agent
  optimistic : List Int
  floor : Nat

def shownOf (s : State) : Shown :=
  ⟨s.snapshot.tasks, s.snapshot.agents, s.optimistic, s.floor⟩

/-- A refresh under way, with the answer that will arrive. -/
structure Arrival where
  ticket : Sync.Ticket
  after : AfterRefresh
  reply : Except GatewayError (List Task × List Agent)

namespace Arrival

def waiting (a : Arrival) : Waiting :=
  .refresh a.ticket a.after

def action (a : Arrival) : Action :=
  .answer (.refresh a.ticket a.after) a.reply

def settle (s : State) (a : Arrival) : State :=
  (s.settleRefresh a.ticket a.reply).1

/-- The answer brings lists, to a refresh that is current. -/
def Counts (s : State) (a : Arrival) : Prop :=
  s.isCurrent a.ticket = true ∧ ∃ lists, a.reply = .ok lists

end Arrival

/-- The scene after answers that arrive in this order, with nothing in between. -/
def Scene.deliver (o : Sync.Options) (c : Scene) (arrivals : List Arrival) : Scene :=
  arrivals.foldl (fun c a => c.after o a.action) c

theorem view_deliver (o : Sync.Options) (c : Scene) (arrivals : List Arrival) :
    (c.deliver o arrivals).view = arrivals.foldl Arrival.settle c.view := by
  induction arrivals generalizing c with
  | nil => rfl
  | cons a rest ih => exact ih (c.after o a.action)

theorem asks_afterRefresh (o : Sync.Options) (d d' : Desk) (told : List Sync.Event)
    (outcome : Sync.Outcome) (after : AfterRefresh) :
    Step.asks ⟨d', told, d.afterRefresh o outcome after⟩ = none := by
  cases after with
  | retry r =>
    unfold Desk.afterRefresh
    by_cases h : outcome.isFailed ∧ r.attempt + 1 < o.retryAttempts
    · simp only [if_pos h]
      rfl
    · simp only [if_neg h]
      rfl
  | _ => rfl

theorem waiting_after_arrival (o : Sync.Options) (c : Scene) (a : Arrival) :
    (c.after o a.action).waiting = c.waiting.erase a.waiting := by
  have hasks : (c.turn o a.action).asks = none := asks_afterRefresh o _ _ _ _ a.after
  show (c.turn o a.action).asks.toList ++ c.waiting.erase a.waiting = _
  rw [hasks]
  rfl

/-- Refreshes under way can be answered in any order. -/
theorem Run.deliver {o : Sync.Options} {past : List Moment} {c : Scene} (h : Run o past c)
    {arrivals : List Arrival} (hwaiting : (arrivals.map Arrival.waiting).Subperm c.waiting) :
    ∃ more, Run o (more ++ past) (c.deliver o arrivals) := by
  induction arrivals generalizing past c with
  | nil => exact ⟨[], h⟩
  | cons a rest ih =>
    have ha : a.waiting ∈ c.waiting := hwaiting.subset List.mem_cons_self
    have hrest : (rest.map Arrival.waiting).Subperm (c.after o a.action).waiting := by
      have herase := hwaiting.erase a.waiting
      rwa [List.map_cons, List.erase_cons_head, ← waiting_after_arrival o] at herase
    obtain ⟨more, hmore⟩ := ih (.act a.action h ha) hrest
    refine ⟨more ++ [⟨c, a.action⟩], ?_⟩
    rwa [List.append_assoc]

/-! ## What the answers decide on -/

/-- **What answers decide on**, in whatever order they arrive: the lists of the newest refresh that
was current and answered with lists, or else what was shown before. -/
inductive Decided (s : State) (arrivals : List Arrival) : Shown → Prop where
  | kept (hnone : ∀ a ∈ arrivals, ¬ a.Counts s) : Decided s arrivals (shownOf s)
  | newest {a : Arrival} {tasks : List Task} {agents : List Agent} (ha : a ∈ arrivals)
      (hcurrent : s.isCurrent a.ticket = true) (hreply : a.reply = .ok (tasks, agents))
      (hnewest : ∀ b ∈ arrivals, b.Counts s → b.ticket.seq ≤ a.ticket.seq) :
      Decided s arrivals ⟨tasks, agents, [], a.ticket.seq⟩

theorem settle_of_not_counts {s : State} {a : Arrival} (h : ¬ a.Counts s) :
    shownOf (a.settle s) = shownOf s ∧ ∀ t, (a.settle s).isCurrent t = s.isCurrent t := by
  obtain ⟨t, after, reply⟩ := a
  cases hcurrent : s.isCurrent t with
  | false =>
    have hsettle : Arrival.settle s ⟨t, after, reply⟩ = s := by
      rw [Arrival.settle, settleRefresh_stale hcurrent]
    rw [hsettle]
    exact ⟨rfl, fun _ => rfl⟩
  | true =>
    cases reply with
    | error e =>
      -- a failure is told, but makes no other answer too late
      rw [Arrival.settle, settleRefresh_error hcurrent]
      exact ⟨rfl, fun _ => rfl⟩
    | ok lists => exact absurd ⟨hcurrent, lists, rfl⟩ h

/-- After an answer that counts, those count that counted before and are newer. -/
theorem counts_withLists_iff {s : State} {t : Sync.Ticket} (ht : s.isCurrent t = true)
    (tasks : List Task) (agents : List Agent) (b : Arrival) :
    b.Counts (withLists s t tasks agents) ↔ b.Counts s ∧ t.seq < b.ticket.seq := by
  have hfloor := ((isCurrent_iff s t).mp ht).2.2
  unfold Arrival.Counts
  rw [isCurrent_iff, isCurrent_iff]
  show (s.epoch = b.ticket.epoch ∧ s.snapshot.selectedTeam = some b.ticket.team
    ∧ t.seq < b.ticket.seq) ∧ _ ↔ _
  constructor
  · rintro ⟨⟨hepoch, hteam, hnewer⟩, hreply⟩
    exact ⟨⟨⟨hepoch, hteam, Nat.lt_trans hfloor hnewer⟩, hreply⟩, hnewer⟩
  · rintro ⟨⟨⟨hepoch, hteam, _⟩, hreply⟩, hnewer⟩
    exact ⟨⟨hepoch, hteam, hnewer⟩, hreply⟩

/-- The first answer counts: it is the newest, or one of those that count after it is. -/
theorem decided_cons_of_counts {s : State} {a : Arrival} {rest : List Arrival} {shown : Shown}
    {tasks : List Task} {agents : List Agent} (hcurrent : s.isCurrent a.ticket = true)
    (hreply : a.reply = .ok (tasks, agents))
    (hrest : Decided (withLists s a.ticket tasks agents) rest shown) :
    Decided s (a :: rest) shown := by
  have hiff := counts_withLists_iff hcurrent tasks agents
  cases hrest with
  | kept hnone =>
    refine .newest List.mem_cons_self hcurrent hreply ?_
    intro b hb hcounts
    rcases List.mem_cons.mp hb with rfl | hb
    · exact Nat.le_refl _
    · exact Nat.le_of_not_lt fun hnewer => hnone b hb ((hiff b).mpr ⟨hcounts, hnewer⟩)
  | @newest b _ _ hb hbcurrent hbreply hnewest =>
    obtain ⟨hbcounts, hnewer⟩ := (hiff b).mp ⟨hbcurrent, _, hbreply⟩
    refine .newest (List.mem_cons_of_mem _ hb) hbcounts.1 hbreply ?_
    intro x hx hcounts
    rcases List.mem_cons.mp hx with rfl | hx
    · exact Nat.le_of_lt hnewer
    · -- an answer that the first made too late is older than the newest
      by_cases hxnewer : a.ticket.seq < x.ticket.seq
      · exact hnewest x hx ((hiff x).mpr ⟨hcounts, hxnewer⟩)
      · exact Nat.le_trans (Nat.le_of_not_lt hxnewer) (Nat.le_of_lt hnewer)

/-- The first answer does not count: the others decide. -/
theorem decided_cons_of_not_counts {s : State} {a : Arrival} {rest : List Arrival} {shown : Shown}
    (ha : ¬ a.Counts s) (hrest : Decided (a.settle s) rest shown) :
    Decided s (a :: rest) shown := by
  obtain ⟨hshown, hsame⟩ := settle_of_not_counts ha
  have hiff (b : Arrival) : b.Counts (a.settle s) ↔ b.Counts s := by
    unfold Arrival.Counts
    rw [hsame]
  cases hrest with
  | kept hnone =>
    rw [hshown]
    refine .kept fun b hb => ?_
    rcases List.mem_cons.mp hb with rfl | hb
    · exact ha
    · exact fun hcounts => hnone b hb ((hiff b).mpr hcounts)
  | @newest b _ _ hb hbcurrent hbreply hnewest =>
    refine .newest (List.mem_cons_of_mem _ hb) (hsame b.ticket ▸ hbcurrent) hbreply ?_
    intro x hx hcounts
    rcases List.mem_cons.mp hx with rfl | hx
    · exact absurd hcounts ha
    · exact hnewest x hx ((hiff x).mpr hcounts)

/-- **In every order the answers settle on what they decide on.** Induction on the answers. -/
theorem decided_settled (s : State) (arrivals : List Arrival) :
    Decided s arrivals (shownOf (arrivals.foldl Arrival.settle s)) := by
  induction arrivals generalizing s with
  | nil => exact .kept (fun _ h => nomatch h)
  | cons a rest ih =>
    rw [List.foldl_cons]
    have hrest := ih (a.settle s)
    by_cases ha : a.Counts s
    · obtain ⟨hcurrent, ⟨tasks, agents⟩, hreply⟩ := ha
      have hsettle : a.settle s = withLists s a.ticket tasks agents := by
        rw [Arrival.settle, hreply, settleRefresh_ok hcurrent]
      rw [hsettle] at hrest ⊢
      exact decided_cons_of_counts hcurrent hreply hrest
    · exact decided_cons_of_not_counts ha hrest

/-- Answers to refreshes of different numbers decide on one outcome, whatever their order. -/
theorem decided_unique {s : State} {arrivals arrivals' : List Arrival} {shown shown' : Shown}
    (hperm : arrivals'.Perm arrivals) (hseq : (arrivals.map (·.ticket.seq)).Nodup)
    (h : Decided s arrivals shown) (h' : Decided s arrivals' shown') : shown' = shown := by
  cases h with
  | kept hnone =>
    cases h' with
    | kept _ => rfl
    | newest ha hcurrent hreply _ =>
      exact absurd ⟨hcurrent, _, hreply⟩ (hnone _ (hperm.mem_iff.mp ha))
  | @newest a tasks agents ha hcurrent hreply hnewest =>
    cases h' with
    | kept hnone => exact absurd ⟨hcurrent, _, hreply⟩ (hnone _ (hperm.mem_iff.mpr ha))
    | @newest b tasks' agents' hb hbcurrent hbreply hbnewest =>
      -- each is the newest, so they have the same number and are one
      have hle := hbnewest a (hperm.mem_iff.mpr ha) ⟨hcurrent, _, hreply⟩
      have hge := hnewest b (hperm.mem_iff.mp hb) ⟨hbcurrent, _, hbreply⟩
      obtain rfl : a = b :=
        List.inj_on_of_nodup_map hseq ha (hperm.mem_iff.mp hb) (Nat.le_antisymm hle hge)
      cases hreply.symm.trans hbreply
      rfl

/-! ## The numbers of the refreshes under way -/

def Waiting.ticketSeq? : Waiting → Option Nat
  | refresh t _ => some t.seq
  | _ => none

theorem ticketSeq_le {c : Scene} (h : Ordered c) {n : Nat}
    (hn : n ∈ c.waiting.filterMap Waiting.ticketSeq?) : n ≤ c.view.seq := by
  obtain ⟨w, hw, hseq⟩ := List.mem_filterMap.mp hn
  cases w with
  | refresh t after =>
    cases hseq
    exact h.seq_le hw
  | _ => cases hseq

/-- **Refreshes under way have different numbers.** -/
theorem Run.ticket_seq_nodup {o : Sync.Options} {past : List Moment} {c : Scene}
    (h : Run o past c) : (c.waiting.filterMap Waiting.ticketSeq?).Nodup := by
  induction h with
  | fresh => exact List.nodup_nil
  | @act past c a hrun ha ih =>
    have hstill : ((c.stillWaiting a).filterMap Waiting.ticketSeq?).Sublist
        (c.waiting.filterMap Waiting.ticketSeq?) := by
      unfold Scene.stillWaiting
      split
      · exact List.erase_sublist.filterMap _
      · exact .refl _
    show (((c.turn o a).asks.toList ++ c.stillWaiting a).filterMap Waiting.ticketSeq?).Nodup
    cases hasks : (c.turn o a).asks with
    | none => exact ih.sublist hstill
    | some w =>
      cases w with
      | refresh t after =>
        have hseq : t.seq = c.view.seq + 1 := by
          rw [← seq_done ⟨c, a⟩]
          exact (ticket_of_issues (m := ⟨c, a⟩) ⟨after, hasks⟩).2.2.1
        -- the new number is above those of all that wait
        refine List.nodup_cons.mpr ⟨fun hmem => ?_, ih.sublist hstill⟩
        have hle := ticketSeq_le hrun.ordered (hstill.subset hmem)
        omega
      | _ => exact ih.sublist hstill

theorem nodup_of_waiting {arrivals : List Arrival} {waiting : List Waiting}
    (h : (arrivals.map Arrival.waiting).Subperm waiting)
    (hnodup : (waiting.filterMap Waiting.ticketSeq?).Nodup) :
    (arrivals.map (·.ticket.seq)).Nodup := by
  obtain ⟨l, hperm, hsub⟩ := h
  have hseqs : (arrivals.map Arrival.waiting).filterMap Waiting.ticketSeq?
      = arrivals.map (·.ticket.seq) := by
    rw [List.filterMap_map, ← List.filterMap_eq_map]
    rfl
  rw [← hseqs, ← (hperm.filterMap _).nodup_iff]
  exact hnodup.sublist (hsub.filterMap _)

/-! ## The headline -/

/-- **The order in which refreshes arrive does not matter.** In any scene of a run, let some of
the refreshes under way be answered, well or badly, with nothing in between. One outcome is decided
before the first of them arrives, and every order of the answers can happen and leads to it: the
tasks, agents, confirmed changes and floor of the newest refresh that was current and answered with
lists, or what was shown already. -/
theorem arrival_order_is_irrelevant {o : Sync.Options} {past : List Moment} {c : Scene}
    (h : Run o past c) {arrivals : List Arrival}
    (hwaiting : (arrivals.map Arrival.waiting).Subperm c.waiting) :
    ∃ shown, Decided c.view arrivals shown
      ∧ ∀ arrivals', arrivals'.Perm arrivals →
        (∃ more, Run o (more ++ past) (c.deliver o arrivals'))
          ∧ shownOf (c.deliver o arrivals').view = shown := by
  refine ⟨_, decided_settled c.view arrivals, fun arrivals' hperm => ⟨?_, ?_⟩⟩
  · exact h.deliver ((hperm.map _).subperm.trans hwaiting)
  · rw [view_deliver]
    exact decided_unique hperm (nodup_of_waiting hwaiting h.ticket_seq_nodup)
      (decided_settled c.view arrivals) (decided_settled c.view arrivals')

/-- Three refreshes are under way. -/
def threeUnderWay : List Moment × Scene :=
  played ⟨200, 3, 200⟩ [.start .refresh, .start .refresh, .start (.select "beta")]

/-- Of their answers the newest is a failure. -/
def answers : List Arrival :=
  [⟨⟨"beta", 1, 1⟩, .finish, .ok ([⟨9, "test", .todo, none, none, none, none, none, none⟩], [])⟩,
    ⟨⟨"beta", 1, 2⟩, .finish, .ok ([], [])⟩,
    ⟨⟨"beta", 1, 3⟩, .finish, .error (.transport "down")⟩]

/-- The second refresh wins, also if its answer arrives before that of the first. -/
theorem second_refresh_wins :
    shownOf (threeUnderWay.2.deliver ⟨200, 3, 200⟩ answers).view = ⟨[], [], [], 2⟩
      ∧ shownOf (threeUnderWay.2.deliver ⟨200, 3, 200⟩ answers.reverse).view = ⟨[], [], [], 2⟩ := by
  have hrun : Run ⟨200, 3, 200⟩ threeUnderWay.1 threeUnderWay.2 := run_played (by decide)
  have hwaiting : (answers.map Arrival.waiting).Subperm threeUnderWay.2.waiting :=
    (List.reverse_perm (answers.map Arrival.waiting)).symm.subperm
  obtain ⟨shown, _, hall⟩ := arrival_order_is_irrelevant hrun hwaiting
  have hforth : shownOf (threeUnderWay.2.deliver ⟨200, 3, 200⟩ answers).view = shown :=
    (hall answers (.refl _)).2
  have hback := (hall answers.reverse (List.reverse_perm answers)).2
  exact ⟨rfl, hback.trans hforth.symm⟩

end TeamConsole
