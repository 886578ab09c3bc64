import TeamConsole.Json.Record

/-!
Teams and their agents.
-/

namespace TeamConsole

structure TeamSummary where
  id : String
  name : String
  createdAt : Option Instant
  agentCount : Nat
  taskCount : Nat
deriving DecidableEq, Repr

namespace TeamSummary

def fields : List Json.Field :=
  [⟨"team_id", ["TeamID"]⟩, ⟨"name", ["Name"]⟩, ⟨"created_at", ["CreatedAt"]⟩,
   ⟨"agent_count", ["AgentCount"]⟩, ⟨"task_count", ["TaskCount"]⟩]

def ofJson? (j : Json) : Option TeamSummary := do
  let r ← j.record? fields
  return {
    id := ← r.withDefault "team_id" "" (Json.nullAs "" Json.readText)
    name := ← r.required "name" Json.readText
    createdAt := ← r.optional "created_at" Json.readInstant
    agentCount := ← r.withDefault "agent_count" 0 Json.readNat32
    taskCount := ← r.withDefault "task_count" 0 Json.readNat32 }

def toJson (t : TeamSummary) : Json :=
  .obj [
    ("team_id", .str t.id),
    ("name", .str t.name),
    ("created_at", .instant? t.createdAt),
    ("agent_count", .nat t.agentCount),
    ("task_count", .nat t.taskCount)]

end TeamSummary

structure Agent where
  name : String
  role : String
  createdAt : Option Instant
deriving DecidableEq, Repr

namespace Agent

def fields : List Json.Field :=
  [⟨"name", ["Name"]⟩, ⟨"role", ["Role"]⟩, ⟨"created_at", ["CreatedAt"]⟩]

def ofJson? (j : Json) : Option Agent := do
  let r ← j.record? fields
  return {
    name := ← r.required "name" Json.readText
    role := ← r.withDefault "role" "" (Json.nullAs "" Json.readText)
    createdAt := ← r.optional "created_at" Json.readInstant }

def toJson (a : Agent) : Json :=
  .obj [("name", .str a.name), ("role", .str a.role), ("created_at", .instant? a.createdAt)]

end Agent

/-- The model settings of an agent. -/
structure AgentConfig where
  model : String
  maxTokens : Nat
deriving DecidableEq, Repr

/-- Reads the model settings of an agent. -/
def AgentConfig.ofJson? (j : Json) : Option AgentConfig := do
  let r ← j.record? [⟨"model", []⟩, ⟨"max_tokens", []⟩]
  return {
    model := ← r.withDefault "model" "" Json.readText
    maxTokens := ← r.withDefault "max_tokens" 0 Json.readNat64 }

end TeamConsole
