import TeamConsole.Text.Digits

/-!
Why a call to the server has no answer.
-/

namespace TeamConsole

/-- The failure of a call. -/
inductive GatewayError where
  /-- No response came. -/
  | transport (reason : String)
  /-- The response has a status that tells of no success. -/
  | status (code : Nat) (reason : String)
  /-- The body of the response does not have the form expected. -/
  | decode (reason : String)
  /-- The address of the server cannot be used. -/
  | invalidBaseUrl (reason : String)
deriving DecidableEq, Repr

namespace GatewayError

/-- The text of a failure. -/
def message : GatewayError → String
  | transport reason => "request failed: " ++ reason
  | status code reason => "server returned " ++ Text.natural code ++ ": " ++ reason
  | decode reason => "invalid response body: " ++ reason
  | invalidBaseUrl reason => "invalid base url: " ++ reason

/-- The text of a failure for a status line, where the server's own words stand alone. -/
def shortMessage : GatewayError → String
  | status code reason => if reason = "" then "server returned " ++ Text.natural code else reason
  | e => e.message

/-- The body of a response does not decode. -/
def undecodable : GatewayError :=
  .decode "error decoding response body"

end GatewayError

end TeamConsole
