import TeamConsole.CommandLine.Usage
import TeamConsole.Connection
import TeamConsole.Console

/-!
The program: it reads the command line and the settings, and carries out the command. Settings are
looked for under the name by which the program is called.
-/

namespace TeamConsole

def version : String := "0.3.0"

def SettingsFile.ofPath (path : String) : IO SettingsFile := do
  try
    return .content (← IO.FS.readBinFile path).toList
  catch
    | .noFileOrDirectory .. => return .missing
    | _ => return .unreadable

def SettingsFile.ofPath? (path : Option String) : IO SettingsFile :=
  match path with
  | some path => ofPath path
  | none => return .missing

/-- The places at which a program finds its settings. A directory for configuration counts only
if its path starts at the root. -/
def SettingsPlaces.ofProgram (program : String) (custom : Option String) : IO SettingsPlaces := do
  let home ← IO.getEnv "HOME"
  let named := (← IO.getEnv "XDG_CONFIG_HOME").filter (·.startsWith "/")
  let file := "/" ++ program ++ "/config.toml"
  return {
    custom := ← SettingsFile.ofPath? custom
    configDir := ← SettingsFile.ofPath? ((named <|> home.map (· ++ "/.config")).map (· ++ file))
    homeConfig := ← SettingsFile.ofPath? (home.map (· ++ "/.config" ++ file))
    home := ← SettingsFile.ofPath? (home.map (· ++ "/." ++ program ++ ".toml")) }

/-- Lets some milliseconds pass. -/
def sleep (ms : Nat) : IO Unit :=
  IO.sleep (.ofNat (min ms (UInt32.size - 1)))

/-- Prints a text at once. -/
def putText (text : String) : IO Unit := do
  let out ← IO.getStdout
  out.putStr text
  out.flush

def Dialogue.holdWith {α : Type} (s : Server) (d : Dialogue α) : IO α :=
  d.hold (Call.make s Network.connections) sleep

/-- A console that follows the stream of its server. -/
structure Follower where
  console : Console
  server : Server
  watch : Console.Watch

namespace Follower

/-- Takes what the stream tells, and shows the board if it changed. -/
def hear (f : Follower) (e : Stream.SourceEvent) : IO Follower := do
  let (watch, shown) ← (f.console.hear f.watch e).holdWith f.server
  putText shown
  return { f with watch }

/-- Takes all of some events. -/
def hearAll (f : Follower) (events : List Stream.SourceEvent) : IO Follower :=
  events.foldlM hear f

def read (s : Follower × Stream.Inflow) (bytes : List UInt8) : IO (Follower × Stream.Inflow) :=
  bytes.foldlM (fun (f, inflow) b => do
    let (inflow, message) := inflow.step b
    return (← f.hearAll (message.map .message).toList, inflow)) s

/-- Asks for the stream, and follows at most `left` redirects. -/
def request? : (left : Nat) → HttpRequest → IO (Option Incoming)
  | left, q => do
    let some i ← Incoming.ofRequest? Stream.mediaType q | return none
    match left, q.redirected? i.withoutBody with
    | _, none => return some i
    | 0, some _ => return none
    | left + 1, some next => request? left next

/-- Listens to one connection; tells whether the stream was open. -/
def listen (f : Follower) : IO (Follower × Bool) := do
  let q := HttpRequest.make .get f.server.streamUrl none
  match ← request? HttpRequest.maxRedirects q with
  | none => return (← f.hearAll (Stream.Response.events none), false)
  | some i =>
    let r : Stream.Response := ⟨i.head.status, i.head.field? "content-type", [], .open⟩
    let f ← f.hearAll (Stream.Response.events (some r))
    if !r.isStream then return (f, false)
    let ((f, _), whole) ← i.content read (f, {})
    return (← f.hear (if whole then .ended else .failed), true)

/-- Follows the stream for good. `last` is the delay before this attempt to connect, if the one
before it failed. -/
partial def run (f : Follower) (last : Option Nat) : IO Unit := do
  let (f, opened) ← f.listen
  if f.watch.client.state = .closed then return
  let delay := Stream.retryDelay f.console.settings.stream (if opened then none else last)
  sleep delay
  f.run (some delay)

end Follower

/-- Prints a failure, the outermost text first. -/
def complain (failure : Failure) : IO UInt32 := do
  let causes := failure.drop 1
  IO.eprintln ("Error: " ++ failure.headD "")
  if !causes.isEmpty then
    IO.eprint ("\nCaused by:\n" ++ unlines (causes.map ("    " ++ ·)))
  return 1

def Console.carryOut (k : Console) (c : Command) : IO UInt32 := do
  match k.server? with
  | .error failure => complain failure
  | .ok server =>
    if c = .watch then
      match ← k.openDesk.run.holdWith server with
      | .error failure => complain failure
      | .ok desk =>
        putText (board desk)
        Follower.run ⟨k, server, { desk }⟩ none
        return 0
    else
      match ← (k.run [] c).run.holdWith server with
      | .error failure => complain failure
      | .ok text =>
        putText text
        return 0

/-- Prints why a command line is refused, or the text that it asks for. -/
def refuse (program : String) : UsageError → IO UInt32
  | .helpRequested => do
    putText (unlines { CommandForm.rootShape with name := program }.usage)
    return 0
  | .versionRequested => do
    putText (program ++ " " ++ version ++ "\n")
    return 0
  | e => do
    IO.eprintln ("error: " ++ e.message)
    return 2

def runProgram (program : String) (words : List String) : IO UInt32 := do
  match Invocation.ofWords words with
  | .error e => refuse program e
  | .ok i =>
    let address ← IO.getEnv (String.ofList (program.toList.map Char.toUpper) ++ "_API_BASE")
    match Settings.load (← SettingsPlaces.ofProgram program i.config) address with
    | .error e => complain [e.message]
    | .ok s =>
      let k : Console := ⟨(s.withInvocation i).normalize, i.team⟩
      k.carryOut (i.command.getD .watch)

end TeamConsole

def main (words : List String) : IO UInt32 := do
  let program := (← IO.appPath).fileStem.getD "console"
  TeamConsole.runProgram program words
