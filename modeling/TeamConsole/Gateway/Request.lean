import TeamConsole.Gateway.Call

/-!
The requests that calls make: method, path below the server's address, query and body.
-/

namespace TeamConsole

inductive Method where
  | get
  | post
  | patch
deriving DecidableEq, Repr

def Method.name : Method → String
  | get => "GET"
  | post => "POST"
  | patch => "PATCH"

namespace Call

def method : Call → Method
  | createTask .. | approveTask .. | requestReview .. | submitReview .. | sendMessage ..
  | networkAllow .. | networkDisallow .. | networkReset => .post
  | patchTask .. => .patch
  | _ => .get

def segments : Call → List String
  | bootstrap => ["bootstrap"]
  | teams => ["teams"]
  | tasks team _ => ["teams", team, "tasks"]
  | task team id => ["teams", team, "tasks", Text.integer id]
  | agents team => ["teams", team, "agents"]
  | createTask team _ => ["teams", team, "tasks"]
  | patchTask team id _ => ["teams", team, "tasks", Text.integer id]
  | approveTask team id _ => ["teams", team, "tasks", Text.integer id, "approve"]
  | requestReview team id => ["teams", team, "tasks", Text.integer id, "request-review"]
  | submitReview team id _ => ["teams", team, "tasks", Text.integer id, "submit-review"]
  | taskReviews team id => ["teams", team, "tasks", Text.integer id, "reviews"]
  | taskDiff team id => ["teams", team, "tasks", Text.integer id, "diff"]
  | messages team _ => ["teams", team, "messages"]
  | sendMessage team _ _ => ["teams", team, "messages"]
  | charter team => ["teams", team, "charter"]
  | journal team agent _ => ["teams", team, "agents", agent, "journal"]
  | agentConfig team agent => ["teams", team, "agents", agent, "config"]
  | network => ["network"]
  | networkAllow _ => ["network", "allow"]
  | networkDisallow _ => ["network", "disallow"]
  | networkReset => ["network", "reset"]

/-- The name and value in the query of a call's request. A journal without a limit, or with the
limit 0, is asked for whole. -/
def query? : Call → Option (String × String)
  | tasks _ limit => some ("limit", Text.natural limit)
  | messages _ recipient => some ("recipient", recipient)
  | journal _ _ (some limit) => if limit = 0 then none else some ("limit", Text.natural limit)
  | _ => none

def body? : Call → Option Json
  | createTask _ row => some row.toJson
  | patchTask _ _ patch => some patch.toJson
  | approveTask _ _ outcome => some (.obj [("outcome", .str outcome.name)])
  | requestReview .. => some (.obj [])
  | submitReview _ _ review => some review.toJson
  | sendMessage _ recipient content =>
    some (.obj [("recipient", .str recipient), ("content", .str content)])
  | networkAllow domain => some (.obj [("domain", .str domain)])
  | networkDisallow domain => some (.obj [("domain", .str domain)])
  | _ => none

end Call

end TeamConsole
