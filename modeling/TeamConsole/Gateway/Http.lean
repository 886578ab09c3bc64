import TeamConsole.Gateway.Server
import TeamConsole.Json.Reader
import TeamConsole.Text.Base64
import TeamConsole.Url.Relative

/-!
Calls over HTTP: the requests of a call and of the redirects that it meets, and what the last
response tells. The network is any function that answers a request or leaves it unanswered,
whatever the effects it has.
-/

namespace TeamConsole

structure HttpRequest where
  method : Method
  url : Url
  body : Option Json
  authorization : Option String

/-- A response over HTTP. A body that is cut short cannot be read. -/
structure HttpResponse where
  status : Nat
  location : Option String
  body : List UInt8
  complete : Bool
deriving Repr

/-- A network whose answers are effects of `m`; it may leave a request without a response. -/
abbrev Network (m : Type → Type) := HttpRequest → m (Option HttpResponse)

/-- How the requests of a call ended. -/
inductive Final where
  /-- The request to a URL had no response. -/
  | unanswered (url : Url)
  | tooManyRedirects (url : Url)
  | answered (r : HttpResponse)

namespace HttpRequest

def credentials? (u : Url) : Option String := do
  let name ← Text.Utf8.decode? (Url.percentDecode u.username.toList)
  let password := u.password.bind fun p => Text.Utf8.decode? (Url.percentDecode p.toList)
  guard (name ≠ "" ∨ password.isSome)
  let text := name ++ ":" ++ password.getD ""
  return "Basic " ++ String.ofList (Text.Base64.encode (Text.Utf8.encode text))

def make (method : Method) (url : Url) (body : Option Json) : HttpRequest :=
  match credentials? url with
  | some a => ⟨method, { url with username := "", password := none }, body, some a⟩
  | none => ⟨method, url, body, none⟩

def ofCall (s : Server) (c : Call) : HttpRequest :=
  make c.method (s.callUrl c) c.body?

/-- The request to which a redirect leads. A permanent or temporary move of a posted form is
followed by asking for the new place, as is the order to look elsewhere. Credentials stay with
their host. -/
def redirected? (q : HttpRequest) (r : HttpResponse) : Option HttpRequest := do
  let url ← r.location >>= q.url.resolve?
  let sameServer := url.host = q.url.host ∧ url.scheme = q.url.scheme ∧ url.port = q.url.port
  let next := { q with url, authorization := if sameServer then q.authorization else none }
  let asked := { next with method := .get, body := none }
  match r.status with
  | 301 | 302 => return if q.method = .post then asked else next
  | 303 => return asked
  | 307 | 308 => return next
  | _ => none

/-- How many redirects are followed. -/
def maxRedirects : Nat := 10

def send {m : Type → Type} [Monad m] (network : Network m) : (left : Nat) → HttpRequest → m Final
  | 0, q => do
    let some r ← network q | return .unanswered q.url
    return if (q.redirected? r).isSome then .tooManyRedirects q.url else .answered r
  | left + 1, q => do
    let some r ← network q | return .unanswered q.url
    match q.redirected? r with
    | some next => send network left next
    | none => return .answered r

end HttpRequest

namespace HttpResponse

/-- Whether the status tells of success. -/
def isSuccess (r : HttpResponse) : Bool :=
  200 ≤ r.status ∧ r.status < 300

/-- The server's words on a failure: the text in the field `error` of an error body, else the
body without the blanks at its ends. -/
def reason (r : HttpResponse) : String :=
  let body := if r.complete then Text.Utf8.decodeLossy r.body else ""
  let named : Option String := do
    let j ← Json.ofString? body
    let record ← j.record? [⟨"error", []⟩]
    record.required "error" Json.readText
  named.getD (Text.trim body)

/-- The JSON value in the body. -/
def json? (r : HttpResponse) : Option Json :=
  if r.complete then Json.ofBytes? r.body else none

end HttpResponse

namespace Call

/-- The reply to a call whose response has this status and body. A message is sent whatever the
body says, and an inbox that the server refuses to show is empty. -/
def replyOfResponse (c : Call) (r : HttpResponse) : Reply c :=
  if r.isSuccess then
    match c with
    | .sendMessage .. => .ok ()
    | c => match r.json? with
      | some j => c.replyOfJson j
      | none => .error .undecodable
  else match c with
    | .messages .. => .ok []
    | _ => .error (.status r.status r.reason)

/-- The reply to a call whose requests ended so. -/
def replyOfFinal (c : Call) : Final → Reply c
  | .unanswered url =>
    .error (.transport ("error sending request for url (" ++ url.write ++ ")"))
  | .tooManyRedirects url =>
    .error (.transport ("error following redirect for url (" ++ url.write ++ ")"))
  | .answered r => c.replyOfResponse r

def make {m : Type → Type} [Monad m] (s : Server) (network : Network m) (c : Call) : m c.Reply := do
  return c.replyOfFinal (← HttpRequest.send network HttpRequest.maxRedirects (.ofCall s c))

end Call

end TeamConsole
