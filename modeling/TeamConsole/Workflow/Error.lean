/-!
Refusals of the workflow rules, and the one-line text an operator reads for each of them.
-/

namespace TeamConsole

/-- Why a workflow rule refuses a table, a stage or a move. -/
inductive WorkflowError where
  | notPermitted (source label : String)
  /-- Two edges leave `source` under `label`, towards different targets. -/
  | ambiguous (source label first second : String)
  /-- A state that ends the workflow has an edge out of it. -/
  | terminalHasExits (state : String)
  /-- A stage is used that no stage list declares. -/
  | unknownStage (stage : String)
  /-- An edge carries an outcome that its stage does not list. -/
  | undeclaredOutcome (stage outcome : String)
  /-- The text names no task status. -/
  | unknownStatus (status : String)
deriving DecidableEq, Repr

/-- The text of a refusal. -/
def WorkflowError.message : WorkflowError → String
  | .notPermitted source label => s!"transition not permitted: {source} --{label}-->"
  | .ambiguous source label first second =>
    s!"ambiguous transition {source} --{label}--> {first} / {second}"
  | .terminalHasExits state => s!"terminal state {state} has outgoing transitions"
  | .unknownStage stage => s!"unknown stage: {stage}"
  | .undeclaredOutcome stage outcome => s!"stage {stage} does not produce outcome {outcome}"
  | .unknownStatus status => s!"unknown task status: {status}"

end TeamConsole
