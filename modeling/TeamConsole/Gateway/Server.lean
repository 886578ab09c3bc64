import TeamConsole.Gateway.Request
import TeamConsole.Url.Basic

/-!
The address of the server, and the URLs below it.
-/

namespace TeamConsole

/-- The server to which calls are made. -/
structure Server where
  base : Url
deriving Repr

namespace Server

def ofAddress (address : String) : Except GatewayError Server :=
  match Url.parse address with
  | .error e => .error (.invalidBaseUrl (address ++ ": " ++ e.message))
  | .ok none => .error (.invalidBaseUrl address)
  | .ok (some base) => .ok ⟨base⟩

def url (s : Server) (segments : List String) : Url :=
  s.base.extend segments

def streamUrl (s : Server) : Url :=
  s.url ["stream"]

def callUrl (s : Server) (c : Call) : Url :=
  let u := s.url c.segments
  match c.query? with
  | some (name, value) => u.appendQuery name value
  | none => u

end Server

end TeamConsole
