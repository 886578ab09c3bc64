import Mathlib.Logic.Function.Basic
import TeamConsole.Proofs.Change

/-!
# Executions of one operation

The course of an operation depends on the desk that it starts on and on what happens while it waits:
what others do to the desk, and what the server replies. Given all of that, its steps are computed.

* **`Meanwhile`**: what happens between two steps.
* **`execution`**: the steps of an operation.
* **`course_of_execution`**, **`exists_execution_of_course`**: the executions of an operation are
  its courses, and all of them.
* **`execution_refused`**, **`execution_passed`**: a change depends on its check alone.
-/

namespace TeamConsole

open Sync (State)

/-! ## What happens in between -/

/-- What happens while an operation waits or sleeps: what others do to the desk, and what the server
replies. -/
structure Meanwhile where
  view : State → State
  queue : ApprovalQueue → ApprovalQueue
  reply : (c : Call) → c.Reply

/-- The desk that the operation finds afterwards. -/
def Meanwhile.leaves (x : Meanwhile) (d : Desk) : Desk :=
  ⟨x.view d.view, x.queue d.queue⟩

/-- The step that follows a step, if any does. -/
def Step.following (o : Sync.Options) (s : Step) (x : Meanwhile) : Option Visit :=
  match s.asks with
  | some w => some ⟨x.leaves s.desk, (x.leaves s.desk).resume o w (w.gather o x.reply)⟩
  | none => s.sleeps.map fun r => ⟨x.leaves s.desk, (x.leaves s.desk).wake o r⟩

/-- The steps after a step, as long as something follows. -/
def Step.later (o : Sync.Options) (s : Step) : List Meanwhile → List Visit
  | [] => []
  | x :: xs =>
    match s.following o x with
    | some v => v :: v.step.later o xs
    | none => []

/-- The steps of an operation that starts on a desk. -/
def execution (o : Sync.Options) (d : Desk) (op : Operation) (xs : List Meanwhile) : List Visit :=
  ⟨d, d.start o op⟩ :: (d.start o op).later o xs

theorem later_cons (o : Sync.Options) {s : Step} {x : Meanwhile} {v : Visit}
    (h : s.following o x = some v) (xs : List Meanwhile) :
    s.later o (x :: xs) = v :: v.step.later o xs := by
  rw [Step.later, h]

theorem later_of_following_eq_none (o : Sync.Options) {s : Step} {x : Meanwhile}
    (h : s.following o x = none) (xs : List Meanwhile) : s.later o (x :: xs) = [] := by
  rw [Step.later, h]

theorem asks_of_sleeps {s : Step} {r : Sync.Retry} (h : s.sleeps = some r) : s.asks = none := by
  obtain ⟨d, told, next⟩ := s
  cases next with
  | wait w => cases h
  | _ => rfl

theorem course_of_later {o : Sync.Options} {op : Operation} {v : Visit} {earlier : List Visit}
    (h : Course o op (v :: earlier)) (xs : List Meanwhile) :
    Course o op ((v.step.later o xs).reverse ++ v :: earlier) := by
  induction xs generalizing v earlier with
  | nil => exact h
  | cons x xs ih =>
    cases hfollowing : v.step.following o x with
    | none =>
      rw [later_of_following_eq_none o hfollowing]
      exact h
    | some v' =>
      rw [later_cons o hfollowing, List.reverse_cons, List.append_assoc]
      refine ih ?_
      unfold Step.following at hfollowing
      split at hfollowing
      · rename_i w hw
        cases hfollowing
        exact .resume h hw _ _
      · obtain ⟨r, hr, rfl⟩ := Option.map_eq_some_iff.mp hfollowing
        exact .wake h hr _

/-- An execution is a course of its operation. -/
theorem course_of_execution (o : Sync.Options) (d : Desk) (op : Operation)
    (xs : List Meanwhile) : Course o op (execution o d op xs).reverse := by
  rw [execution, List.reverse_cons]
  exact course_of_later (.start d) xs

/-- Any reply to what an operation waits for is put together from replies to its calls. -/
theorem exists_gather (o : Sync.Options) (w : Waiting) (reply : w.Reply) :
    ∃ replies : (c : Call) → c.Reply, w.gather o replies = reply := by
  let silent : (c : Call) → c.Reply := fun _ => .error (.transport "")
  have single (c : Call) (r : c.Reply) : ∃ replies : (c : Call) → c.Reply, replies c = r :=
    ⟨Function.update silent c r, Function.update_self c r silent⟩
  cases w with
  | bootstrap teamsSeq networkSeq => exact single .bootstrap reply
  | teams seq notified => exact single .teams reply
  | network seq notified => exact single .network reply
  | queue team epoch => exact single (.tasks team o.taskLimit) reply
  | change s => exact single s.call reply
  | refresh t after =>
    -- two calls, and the reply to the tasks says already what fails
    let tasks : (Call.tasks t.team o.taskLimit).Reply := reply.map (·.1)
    let agents : (Call.agents t.team).Reply := reply.map (·.2)
    let replies := Function.update (Function.update silent _ tasks) _ agents
    have hne : Call.tasks t.team o.taskLimit ≠ .agents t.team := fun h => nomatch h
    have htasks : replies (.tasks t.team o.taskLimit) = tasks :=
      (Function.update_of_ne hne agents _).trans (Function.update_self _ _ _)
    have hagents : replies (.agents t.team) = agents := Function.update_self _ _ _
    refine ⟨replies, ?_⟩
    rw [Waiting.gather, htasks, hagents]
    cases reply <;> rfl

theorem later_append {o : Sync.Options} {s : Step} {d : Desk} {xs : List Meanwhile}
    (hlength : (s.later o xs).length = xs.length) {v : Visit}
    (hlast : (⟨d, s⟩ :: s.later o xs : List Visit).getLast? = some v) {x : Meanwhile} {v' : Visit}
    (h : v.step.following o x = some v') : s.later o (xs ++ [x]) = s.later o xs ++ [v'] := by
  induction xs generalizing s d with
  | nil =>
    obtain rfl : (⟨d, s⟩ : Visit) = v := Option.some.inj hlast
    exact later_cons o h []
  | cons y xs ih =>
    cases hy : s.following o y with
    | none =>
      rw [later_of_following_eq_none o hy] at hlength
      cases hlength
    | some u =>
      rw [later_cons o hy] at hlength hlast ⊢
      rw [List.getLast?_cons_cons] at hlast
      rw [List.cons_append, later_cons o hy, ih (Nat.succ.inj hlength) hlast, List.cons_append]

theorem execution_append {o : Sync.Options} {op : Operation} {d : Desk} {xs : List Meanwhile}
    {v v' : Visit} {earlier : List Visit} {x : Meanwhile}
    (hexecution : execution o d op xs = (v :: earlier).reverse)
    (hlength : xs.length = earlier.length) (hx : v.step.following o x = some v') :
    execution o d op (xs ++ [x]) = (v' :: v :: earlier).reverse := by
  have hlast : (execution o d op xs).getLast? = some v := by
    rw [hexecution, List.getLast?_reverse]
    rfl
  have hlater : ((d.start o op).later o xs).length = xs.length := by
    have hall := congrArg List.length hexecution
    rw [List.length_reverse] at hall
    rw [hlength]
    exact Nat.succ.inj hall
  rw [List.reverse_cons, ← hexecution, execution, later_append hlater hlast hx]
  rfl

/-- Nothing is lost: every course of an operation is one of its executions. -/
theorem exists_execution_of_course {o : Sync.Options} {op : Operation} {visits : List Visit}
    (h : Course o op visits) :
    ∃ d xs, execution o d op xs = visits.reverse ∧ xs.length + 1 = visits.length := by
  -- what happens before a step is set to leave the desk that the step found
  induction h with
  | start d => exact ⟨d, [], rfl, rfl⟩
  | @resume v earlier w _ hw reply d ih =>
    obtain ⟨d₀, xs, hexecution, hlength⟩ := ih
    obtain ⟨replies, hreplies⟩ := exists_gather o w reply
    let x : Meanwhile := ⟨fun _ => d.view, fun _ => d.queue, replies⟩
    have hx : v.step.following o x = some ⟨d, d.resume o w reply⟩ := by
      rw [← hreplies]
      simp only [Step.following, hw]
      rfl
    refine ⟨d₀, xs ++ [x], execution_append hexecution (Nat.succ.inj hlength) hx, ?_⟩
    rw [List.length_append]
    exact congrArg (· + 1) hlength
  | @wake v earlier r _ hr d ih =>
    obtain ⟨d₀, xs, hexecution, hlength⟩ := ih
    let x : Meanwhile := ⟨fun _ => d.view, fun _ => d.queue, fun _ => .error (.transport "")⟩
    have hx : v.step.following o x = some ⟨d, d.wake o r⟩ := by
      simp only [Step.following, asks_of_sleeps hr, hr]
      rfl
    refine ⟨d₀, xs ++ [x], execution_append hexecution (Nat.succ.inj hlength) hx, ?_⟩
    rw [List.length_append]
    exact congrArg (· + 1) hlength

/-! ## Changes -/

/-- Only the check of a change decides how it goes on. -/
theorem execution_of_check (o : Sync.Options) (d : Desk) {t t' : Transition}
    (h : t.check = t'.check) (xs : List Meanwhile) :
    execution o d (.change t) xs = execution o d (.change t') xs := by
  simp only [execution, Desk.start, h]

theorem execution_refused (o : Sync.Options) (d : Desk) {t : Transition} {e : TransitionError}
    (h : t.check = .error e) (xs : List Meanwhile) :
    execution o d (.change t) xs = [⟨d, d.ended (.refused e)⟩] := by
  simp only [execution, Desk.start, h]
  cases xs <;> rfl

/-- The execution of a change that passed its check. -/
def Submission.execution (o : Sync.Options) (d : Desk) (s : Submission) (xs : List Meanwhile) :
    List Visit :=
  ⟨d, d, [], .wait (.change s)⟩ :: Step.later o ⟨d, [], .wait (.change s)⟩ xs

theorem execution_passed (o : Sync.Options) (d : Desk) {t : Transition} {s : Submission}
    (h : t.check = .ok s) (xs : List Meanwhile) :
    execution o d (.change t) xs = s.execution o d xs := by
  simp only [TeamConsole.execution, Desk.start, h, Submission.execution]

theorem later_ended (o : Sync.Options) (d : Desk) (r : Result) (xs : List Meanwhile) :
    (d.ended r).later o xs = [] := by
  cases xs <;> rfl

end TeamConsole
