import TeamConsole.Sync.Refresh

/-!
The lists that do not belong to a team: the teams themselves and the hosts agents may reach. An
answer is taken unless that of a newer request is held. The payload with which a session begins
brings both, and selects the first team.
-/

namespace TeamConsole.Sync.State

def issueTeams (s : State) : State × Nat :=
  let (seq, n) := s.teamsSeq.issue
  ({ s with teamsSeq := seq }, n)

/-- Issues a request for the allowlist. -/
def issueNetwork (s : State) : State × Nat :=
  let (seq, n) := s.networkSeq.issue
  ({ s with networkSeq := seq }, n)

/-- Takes a list of teams; none if it came too late. -/
def installTeams? (s : State) (seq : Nat) (teams : List TeamSummary) : Option State :=
  (s.teamsSeq.commit? seq).map fun teamsSeq =>
    { s with teamsSeq, snapshot := { s.snapshot with teams } }

/-- Takes an allowlist; none if it came too late. -/
def installNetwork? (s : State) (seq : Nat) (network : NetworkAllowlist) : Option State :=
  (s.networkSeq.commit? seq).map fun networkSeq => { s with networkSeq, network }

/-- Takes the payload of a bootstrap whose requests for the lists had these numbers, and selects
its team. Tasks that came along are shown at once; if none did, the team is to be refreshed. -/
def begin (s : State) (teamsSeq networkSeq : Nat) (b : Bootstrap) : State × List Event :=
  let before := s.phase
  let team := b.initialTeamName
  let s := (s.installTeams? teamsSeq b.teams).getD s
  let s := { s with config := b.config <|> s.config }
  let s := (b.network.bind (s.installNetwork? networkSeq)).getD s
  let s := s.switchTeam team
  let s := match team, b.tasks with
    | some _, some tasks =>
      { s with
        snapshot := { s.snapshot with tasks, agents := b.agents.getD [] }
        phase := .ready }
    | _, _ => s
  (s, .teamsUpdated :: phaseEvent before s.phase ++ [.snapshotUpdated team])

def failBootstrap (s : State) (e : GatewayError) : State × List Event :=
  ({ s with lastError := some e.shortMessage, phase := .error },
    phaseEvent s.phase .error ++ [.refreshFailed none e.shortMessage])

end TeamConsole.Sync.State
