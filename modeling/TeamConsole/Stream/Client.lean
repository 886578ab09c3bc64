import TeamConsole.Notification
import TeamConsole.Stream.Source

/-!
The client of a stream: the state of its connection, and the slot for the handler of
notifications. The slot can be filled and cleared at any time, also by the handler while it
runs; each notification goes to the handler that is in the slot when it comes.
-/

namespace TeamConsole.Stream

inductive ConnectionState where
  | connecting
  | connected
  /-- The connection is lost and will be tried again. -/
  | disconnected
  /-- The stream has ended for good. -/
  | closed
deriving DecidableEq, Repr

def ConnectionState.name : ConnectionState → String
  | connecting => "connecting"
  | connected => "connected"
  | disconnected => "disconnected"
  | closed => "closed"

inductive Input (η : Type) where
  /-- The source tells something. -/
  | source (e : SourceEvent)
  | setHandler (h : η)
  | clearHandler
  /-- The owner closes the stream. -/
  | shutdown

/-- A client, with the handler in its slot. -/
structure Client (η : Type) where
  state : ConnectionState := .connecting
  slot : Option η := none
deriving DecidableEq, Repr

/-- A notification that was handed over, with the state of the connection at that time. -/
structure Delivery (η : Type) where
  handler : η
  state : ConnectionState
  notification : Notification
deriving DecidableEq, Repr

namespace Client

variable {η : Type}

/-- Hands a notification to the handler in the slot. `react` tells what is in the slot after a
handler has run. -/
def dispatch (react : η → Notification → Option η) (c : Client η) (n : Notification) :
    Client η × Option (Delivery η) :=
  match c.slot with
  | some h => ({ c with slot := react h n }, some ⟨h, c.state, n⟩)
  | none => (c, none)

/-- Takes what the source of an open stream tells. Messages that are no notifications are
dropped. -/
def takeEvent (react : η → Notification → Option η) (c : Client η) :
    SourceEvent → Client η × Option (Delivery η)
  | .opened => ({ c with state := .connected }, none)
  | .failed | .ended => ({ c with state := .disconnected }, none)
  | .exhausted => ({ c with state := .closed }, none)
  | .message data =>
    match Inbound.decode? data with
    | some .connected => ({ c with state := .connected }, none)
    | some (.notification n) => c.dispatch react n
    | none => (c, none)

def step (react : η → Notification → Option η) (c : Client η) :
    Input η → Client η × Option (Delivery η)
  | .source e => if c.state = .closed then (c, none) else c.takeEvent react e
  | .setHandler h => ({ c with slot := some h }, none)
  | .clearHandler => ({ c with slot := none }, none)
  | .shutdown => ({ c with state := .closed }, none)

/-- A client after some inputs, with what was delivered on the way. -/
def run (react : η → Notification → Option η) (c : Client η) :
    List (Input η) → Client η × List (Delivery η)
  | [] => (c, [])
  | i :: rest =>
    let (next, delivery) := c.step react i
    let (last, more) := next.run react rest
    (last, delivery.toList ++ more)

/-- Inputs that follow others are taken by the client as the others leave it. -/
theorem run_append (react : η → Notification → Option η) (c : Client η) (xs ys : List (Input η)) :
    c.run react (xs ++ ys) =
      let (middle, first) := c.run react xs
      let (last, second) := middle.run react ys
      (last, first ++ second) := by
  induction xs generalizing c with
  | nil => rfl
  | cons i rest ih => simp only [List.cons_append, run, ih, List.append_assoc]

end Client

end TeamConsole.Stream
