import TeamConsole.Desk

/-!
A session: operations under way side by side. The calls of a session are numbered as they are
made. A call waits for its answer to be delivered, unless an answer was set out for it before;
such a standing answer comes at once. Time passes in milliseconds, and the retries whose delay
is over go on in the order in which they went to sleep.
-/

namespace TeamConsole

/-- A reply as it comes, before it is read as the answer to a call. -/
abbrev RawReply := Except GatewayError Json

def Call.reply (c : Call) (r : RawReply) : c.Reply :=
  r.bind c.replyOfJson

/-- The operation of which a thread is part. -/
inductive Owner where
  | job (n : Nat)
  /-- The retry that a job left behind. -/
  | retry (n : Nat)
  /-- A notification that came through the stream. -/
  | stream
deriving DecidableEq, Repr

/-- A standing answer: to which calls it goes, and how often it may still be given. -/
structure Standing where
  answers : Call → Bool
  /-- No number stands for any number of times. -/
  uses : Option Nat
  reply : RawReply

/-- An operation under way. -/
inductive Thread where
  /-- It waits for the replies to the calls listed with their numbers; the others are in. -/
  | calling (owner : Owner) (w : Waiting) (missing : List (Nat × Call))
      (arrived : List (Call × RawReply))
  /-- It waits for a time. -/
  | asleep (owner : Owner) (due : Nat) (r : Sync.Retry)

/-- A call that was made, with its number and whether a standing answer came. -/
structure IssuedCall where
  id : Nat
  call : Call
  standing : Bool

/-- The end of a job or of its retry. -/
inductive Ending where
  | job (n : Nat) (r : Result)
  | retry (n : Nat) (o : Sync.Outcome)

/-- What happened since the record was last cleared. -/
structure Record where
  calls : List IssuedCall := []
  endings : List Ending := []
  events : List Sync.Event := []

structure Session where
  options : Sync.Options
  desk : Desk := {}
  threads : List Thread := []
  standing : List Standing := []
  lastCall : Nat := 0
  lastJob : Nat := 0
  now : Nat := 0
  /-- Whether notifications of the stream reach the console. -/
  attached : Bool := false
  record : Record := {}

namespace Session

/-- Takes the first standing answer for a call. -/
def takeStanding (standing : List Standing) (c : Call) : Option (RawReply × List Standing) :=
  match standing with
  | [] => none
  | s :: rest =>
    if s.answers c && s.uses != some 0 then
      some (s.reply, { s with uses := s.uses.map (· - 1) } :: rest)
    else (takeStanding rest c).map fun (r, rest) => (r, s :: rest)

/-- Makes a call: tells its number, and the standing answer if there is one. -/
def issue (s : Session) (c : Call) : Session × Nat × Option RawReply :=
  let id := s.lastCall + 1
  let (reply, standing) := match takeStanding s.standing c with
    | some (r, standing) => (some r, standing)
    | none => (none, s.standing)
  ({ s with
      standing
      lastCall := id
      record := { s.record with calls := s.record.calls ++ [⟨id, c, reply.isSome⟩] } },
    id, reply)

/-- Makes calls in their order: those without a standing answer, and the answers of the others. -/
def issueAll (s : Session) : List Call → Session × List (Nat × Call) × List (Call × RawReply)
  | [] => (s, [], [])
  | c :: rest =>
    let (s, id, reply) := s.issue c
    let (s, missing, arrived) := s.issueAll rest
    match reply with
    | some r => (s, missing, (c, r) :: arrived)
    | none => (s, (id, c) :: missing, arrived)

def replyTo (arrived : List (Call × RawReply)) (c : Call) : c.Reply :=
  match arrived.find? (·.1 = c) with
  | some (_, r) => c.reply r
  | none => .error .undecodable

def sleep (s : Session) (owner : Owner) (r : Sync.Retry) : Session :=
  let due := s.now + Sync.retryDelay s.options.retryInitialMs r.attempt
  { s with threads := s.threads ++ [.asleep owner due r] }

/-- Records the end of an operation. -/
def finish (s : Session) (owner : Owner) (r : Result) : Session :=
  let ending := match owner, r with
    | .job n, r => [Ending.job n r]
    | .retry n, .refreshed o => [Ending.retry n o]
    | _, _ => []
  { s with record := { s.record with endings := s.record.endings ++ ending } }

/-- Goes on after a step, through as many rounds of calls with standing answers as allowed. -/
def follow (s : Session) (owner : Owner) (step : Step) (rounds : Nat) : Session :=
  let s := { s with
    desk := step.desk
    record := { s.record with events := s.record.events ++ step.events } }
  match step.next with
  | .done r none => s.finish owner r
  | .done r (some retry) =>
    let s := s.finish owner r
    match owner with
    | .job n => s.sleep (.retry n) retry
    | _ => s
  | .sleep r => s.sleep owner r
  | .wait w =>
    let (s, missing, arrived) := s.issueAll (w.calls s.options)
    match missing, rounds with
    | [], rounds + 1 =>
      s.follow owner (s.desk.resume s.options w (w.gather s.options (replyTo arrived))) rounds
    | _, _ => { s with threads := s.threads ++ [.calling owner w missing arrived] }

/-- The first retry whose time has come, and the other threads. -/
def takeDue (now : Nat) : List Thread → Option (Owner × Sync.Retry × List Thread)
  | [] => none
  | .asleep owner due r :: rest =>
    if due ≤ now then some (owner, r, rest)
    else (takeDue now rest).map fun (o, q, rest) => (o, q, .asleep owner due r :: rest)
  | t :: rest => (takeDue now rest).map fun (o, q, rest) => (o, q, t :: rest)

/-- Lets at most `limit` retries go on whose time has come. -/
def wakeDue (s : Session) : (limit : Nat) → Session
  | 0 => s
  | limit + 1 =>
    match takeDue s.now s.threads with
    | none => s
    | some (owner, r, threads) =>
      let s := { s with threads }
      (s.follow owner (s.desk.wake s.options r) Operation.maxRounds).wakeDue limit

/-- Lets every retry go on whose time has come. A thread is woken at most once an attempt. -/
def settle (s : Session) : Session :=
  s.wakeDue ((s.threads.length + 1) * (s.options.retryAttempts + 1))

def run (s : Session) (owner : Owner) (op : Operation) : Session :=
  (s.follow owner (s.desk.start s.options op) Operation.maxRounds).settle

/-- Uses up the number of a job. -/
def takeJob (s : Session) : Session :=
  { s with lastJob := s.lastJob + 1 }

def start (s : Session) (op : Operation) : Session :=
  let s := s.takeJob
  s.run (.job s.lastJob) op

/-- The thread that waits for a call, with the call, and the other threads. -/
def takeWaiting (id : Nat) : List Thread → Option (Owner × Waiting × List (Nat × Call) ×
    List (Call × RawReply) × List Thread)
  | [] => none
  | .calling owner w missing arrived :: rest =>
    if missing.any (·.1 = id) then some (owner, w, missing, arrived, rest)
    else (takeWaiting id rest).map fun (o, v, m, a, rest) =>
      (o, v, m, a, .calling owner w missing arrived :: rest)
  | t :: rest => (takeWaiting id rest).map fun (o, v, m, a, rest) => (o, v, m, a, t :: rest)

/-- Delivers the reply to a call; none if nothing waits for it. -/
def deliver? (s : Session) (id : Nat) (reply : RawReply) : Option Session :=
  (takeWaiting id s.threads).map fun (owner, w, missing, arrived, threads) =>
    let s := { s with threads }
    let arrived := arrived ++ (missing.filter (·.1 = id)).map fun m => (m.2, reply)
    match missing.filter (·.1 ≠ id) with
    | [] =>
      (s.follow owner (s.desk.resume s.options w (w.gather s.options (replyTo arrived)))
        Operation.maxRounds).settle
    | missing => { s with threads := s.threads ++ [.calling owner w missing arrived] }

/-- Lets milliseconds pass, one after the other. -/
def advance (s : Session) : (ms : Nat) → Session
  | 0 => s
  | ms + 1 => ({ s with now := s.now + 1 } : Session).settle.advance ms

/-- Sets out a standing answer after those that are there. -/
def stand (s : Session) (a : Standing) : Session :=
  { s with standing := s.standing ++ [a] }

/-- Passes on a notification of the stream; tells whether the console is attached to it. -/
def dispatch (s : Session) (n : Notification) : Session × Bool :=
  if s.attached then (s.run .stream (.notify n), true) else (s, false)

/-- Shows a change to a task that the server confirmed outside of any operation; tells whether
the task is held. -/
def overlay (s : Session) (team : String) (id : Int) (change : Task → Task) : Session × Bool :=
  let (view, held, events) := s.desk.view.overlay team id change
  ({ s with
      desk := { s.desk with view }
      record := { s.record with events := s.record.events ++ events } },
    held)

/-- Drops a task from the approval queue; tells whether it was there. -/
def dropQueued (s : Session) (team : String) (id : Int) : Session × Bool :=
  ({ s with desk := { s.desk with queue := s.desk.queue.remove team id } },
    s.desk.queue.holds team id)

def clearRecord (s : Session) : Session :=
  { s with record := {} }

end Session

end TeamConsole
