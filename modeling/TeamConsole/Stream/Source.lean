import TeamConsole.Settings
import TeamConsole.Stream.Framing
import TeamConsole.Url.Basic

/-!
The source of events behind a stream: it connects, tells the messages as they come, and connects
again after a loss. A response that is no stream of events ends it for good.
-/

namespace TeamConsole.Stream

inductive SourceEvent where
  | opened
  | message (data : String)
  /-- The connection could not be made, or was lost. -/
  | failed
  /-- The connection came to its end. -/
  | ended
  /-- There will be no more connections. -/
  | exhausted
deriving DecidableEq, Repr

/-- How the body of a response stops. -/
inductive BodyEnd where
  | complete
  /-- Before its announced length. -/
  | cut
  /-- It does not: the connection stays open. -/
  | open
deriving DecidableEq, Repr

structure Response where
  status : Nat
  contentType : Option String
  body : List UInt8
  bodyEnd : BodyEnd
deriving Repr

/-- The type of the content of a stream, without parameters. -/
def mediaType : String := "text/event-stream"

/-- The type that a content type names, in lower case and without its parameters. -/
def essence (contentType : String) : String :=
  let cs := contentType.toList.takeWhile (· ≠ ';')
  String.ofList ((cs.reverse.dropWhile (· = ' ')).reverse.map Char.toLower)

namespace Response

def isStream (r : Response) : Bool :=
  r.status = 200 && (r.contentType.map essence) = some mediaType

def events : Option Response → List SourceEvent
  | none => [.failed]
  | some r =>
    if r.isStream then
      .opened :: (messages r.body).map .message ++ match r.bodyEnd with
        | .complete => [.ended]
        | .cut => [.failed]
        | .open => []
    else [.failed, .exhausted]

end Response

/-- The milliseconds before the next attempt to connect, after the delay before the last attempt
if one failed just now. Delays double up to the greatest. -/
def retryDelay (s : StreamSettings) (last : Option Nat) : Nat :=
  match last with
  | none => s.retryInitialMs
  | some ms => min (2 * ms) s.retryMaxMs

/-- Why no stream can be opened. -/
inductive StreamError where
  | invalidUrl (url : String) (fault : UrlError)
deriving DecidableEq, Repr

def StreamError.message : StreamError → String
  | invalidUrl url fault => "invalid stream url: " ++ url ++ ": " ++ fault.message

def checkUrl (url : String) : Except StreamError Unit :=
  match Url.parse url with
  | .ok _ => .ok ()
  | .error fault => .error (.invalidUrl url fault)

end TeamConsole.Stream
