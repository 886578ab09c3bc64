import TeamConsole.Desk

/-!
Dialogues with the server: calls and pauses one after the other, each call chosen in the light of
the replies before it. What answers the calls is left open, so a dialogue can be held over a
network, or with any replies at all.
-/

namespace TeamConsole

/-- A dialogue that ends with a value. -/
inductive Dialogue (α : Type) where
  | done (a : α)
  | call (c : Call) (next : c.Reply → Dialogue α)
  | pause (ms : Nat) (next : Dialogue α)

namespace Dialogue

/-- Goes on after a dialogue. -/
def bind {α β : Type} (d : Dialogue α) (f : α → Dialogue β) : Dialogue β :=
  match d with
  | .done a => f a
  | .call c next => .call c fun r => (next r).bind f
  | .pause ms next => .pause ms (next.bind f)

instance : Monad Dialogue where
  pure := .done
  bind := .bind

def ask (c : Call) : Dialogue c.Reply :=
  .call c .done

/-- Going on with nothing changes nothing. -/
theorem bind_done {α : Type} (d : Dialogue α) : d.bind .done = d := by
  induction d with
  | done a => rfl
  | call c next ih => simp only [Dialogue.bind, ih]
  | pause ms next ih => simp only [Dialogue.bind, ih]

/-- Going on twice is going on with both, one after the other. -/
theorem bind_assoc {α β γ : Type} (d : Dialogue α) (f : α → Dialogue β) (g : β → Dialogue γ) :
    (d.bind f).bind g = d.bind fun a => (f a).bind g := by
  induction d with
  | done a => rfl
  | call c next ih => simp only [Dialogue.bind, ih]
  | pause ms next ih => simp only [Dialogue.bind, ih]

instance : LawfulMonad Dialogue :=
  LawfulMonad.mk' Dialogue bind_done (fun _ _ => rfl) bind_assoc

def hold {α : Type} {m : Type → Type} [Monad m] (answer : (c : Call) → m c.Reply)
    (sleep : Nat → m Unit) : Dialogue α → m α
  | .done a => pure a
  | .call c next => do hold answer sleep (next (← answer c))
  | .pause ms next => do
    sleep ms
    hold answer sleep next

/-- A dialogue that goes on is held to its end, and then what it goes on with is held. -/
theorem hold_bind {α β : Type} {m : Type → Type} [Monad m] [LawfulMonad m]
    (answer : (c : Call) → m c.Reply) (sleep : Nat → m Unit) (d : Dialogue α)
    (f : α → Dialogue β) :
    (d.bind f).hold answer sleep = d.hold answer sleep >>= fun a => (f a).hold answer sleep := by
  induction d with
  | done a => simp [Dialogue.bind, hold]
  | call c next ih => simp [Dialogue.bind, hold, ih]
  | pause ms next ih => simp [Dialogue.bind, hold, ih]

end Dialogue

def Waiting.converse (o : Sync.Options) : (w : Waiting) → Dialogue w.Reply
  | .bootstrap .. => .ask .bootstrap
  | .refresh t _ => do
    let tasks ← .ask (.tasks t.team o.taskLimit)
    return Waiting.both tasks (← .ask (.agents t.team))
  | .teams .. => .ask .teams
  | .network .. => .ask .network
  | .queue team _ => .ask (.tasks team o.taskLimit)
  | .change s => .ask s.call

namespace Step

/-- Goes on after a step through at most `rounds` rounds of calls. The last step tells the events
of all. -/
def follow (o : Sync.Options) : (rounds : Nat) → Step → Dialogue Step
  | 0, s => .done s
  | rounds + 1, s =>
    match s.next with
    | .wait w => do
      let next := s.desk.resume o w (← w.converse o)
      follow o rounds { next with events := s.events ++ next.events }
    | _ => .done s

end Step

namespace Desk

/-- Performs an operation until it has ended or sleeps. -/
def perform (o : Sync.Options) (d : Desk) (op : Operation) : Dialogue Step :=
  (d.start o op).follow o Operation.maxRounds

def performRetry (o : Sync.Options) (d : Desk) (r : Sync.Retry) : (left : Nat) → Dialogue Desk
  | 0 => .done d
  | left + 1 => .pause (Sync.retryDelay o.retryInitialMs r.attempt) <| do
    let s ← (d.wake o r).follow o Operation.maxRounds
    match s.next with
    | .sleep r => performRetry o s.desk r left
    | _ => return s.desk

end Desk

end TeamConsole
