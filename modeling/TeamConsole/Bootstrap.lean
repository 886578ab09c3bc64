import TeamConsole.Task
import TeamConsole.Team

/-!
What the server says about itself: its identity, the hosts its agents may reach, and the
payload with which a session begins.
-/

namespace TeamConsole

structure ServerConfig where
  humanName : String
  hcHome : String
  bootstrapId : String
deriving DecidableEq, Repr

namespace ServerConfig

def fields : List Json.Field :=
  [⟨"human_name", []⟩, ⟨"hc_home", []⟩, ⟨"bootstrap_id", []⟩]

/-- Reads a server's identity. -/
def ofJson? (j : Json) : Option ServerConfig := do
  let r ← j.record? fields
  return {
    humanName := ← r.withDefault "human_name" "" Json.readText
    hcHome := ← r.withDefault "hc_home" "" Json.readText
    bootstrapId := ← r.withDefault "bootstrap_id" "" Json.readText }

/-- Writes a server's identity. -/
def toJson (c : ServerConfig) : Json :=
  .obj [("human_name", .str c.humanName), ("hc_home", .str c.hcHome),
    ("bootstrap_id", .str c.bootstrapId)]

/-- The name under which the operator chats: the one in the settings, else the one the server
knows, else `human`. A blank name counts as none. -/
def senderName (configured : Option String) (server : Option ServerConfig) : String :=
  let named (name : String) : Bool := Text.trim name ≠ ""
  (configured.filter named <|> (server.map humanName).filter named).getD "human"

end ServerConfig

/-- The hosts that agents may reach. -/
structure NetworkAllowlist where
  allowlist : List String
deriving DecidableEq, Repr

namespace NetworkAllowlist

def ofJson? (j : Json) : Option NetworkAllowlist := do
  let r ← j.record? [⟨"allowlist", []⟩]
  return ⟨← r.withDefault "allowlist" [] (Json.nullAs [] (Json.readList Json.readText))⟩

def toJson (n : NetworkAllowlist) : Json :=
  .obj [("allowlist", .arr (n.allowlist.map .str))]

end NetworkAllowlist

/-- What a session starts from. -/
structure Bootstrap where
  config : Option ServerConfig
  teams : List TeamSummary
  initialTeam : Option String
  /-- The tasks of the initial team, if the server sends them along. -/
  tasks : Option (List Task)
  agents : Option (List Agent)
  network : Option NetworkAllowlist
deriving Repr

namespace Bootstrap

def fields : List Json.Field :=
  [⟨"config", []⟩, ⟨"teams", []⟩, ⟨"initial_team", []⟩, ⟨"tasks", []⟩, ⟨"agents", []⟩,
   ⟨"network", []⟩]

/-- Reads the rows of tasks within the payload, of which any may be no task. -/
def readTasks (j : Json) : Option (List Task) := do
  match ← j.keep? (Json.maxDepth - 1) with
  | .arr rows => return Task.normalizeAll rows
  | _ => none

/-- Reads a bootstrap payload. -/
def ofJson? (j : Json) : Option Bootstrap := do
  let r ← j.record? fields
  return {
    config := ← r.optional "config" ServerConfig.ofJson?
    teams := ← r.withDefault "teams" [] (Json.nullAs [] (Json.readList TeamSummary.ofJson?))
    initialTeam := ← r.optional "initial_team" Json.readText
    tasks := ← r.optional "tasks" readTasks
    agents := ← r.optional "agents" (Json.readList Agent.ofJson?)
    network := ← r.optional "network" NetworkAllowlist.ofJson? }

/-- The team to select first: the one the server chose, else the first. -/
def initialTeamName (b : Bootstrap) : Option String :=
  match b.initialTeam with
  | some t => if t = "" then b.teams.head?.map TeamSummary.name else some t
  | none => b.teams.head?.map TeamSummary.name

end Bootstrap

end TeamConsole
