import TeamConsole.Proofs.WorkflowFaults

/-!
# An accepted workflow keeps to its declaration

Work goes through the stages of a workflow outcome by outcome. What was checked of the stages and
edges given holds of those that the workflow has kept (`Accepted`), and its index still agrees with
its edges, so the answers to later outcomes can be read off the workflow itself.

* **`Accepted`**: the invariant. Building a workflow gives it (`accepted_of_ofStages`).
* **`rebuilds_of_ofStages`**: the edges kept make the same workflow again.
* **`Accepted.nextStage_eq_error_iff`**, **`Accepted.nextStage_eq_ok_iff`**: one outcome.
* **`advance`**, **`reached`**: a run of outcomes; it stays among the declared stages
  (`Accepted.declares_reached`, by induction on the outcomes).
* **`accepted_workflow_keeps_to_its_declaration`**: the headline.
-/

namespace TeamConsole.Workflow

variable {w : Workflow} {source : String} {o : Outcome}

/-! ## What the construction has established -/

/-- **Accepted.** The edges that a workflow lists are sound for its stages, its index agrees with
them, and the names that end it are those declared terminal. -/
structure Accepted (w : Workflow) : Prop where
  sound : Sound w.stages w.transitions
  agrees : w.table.Agrees
  terminal : w.table.terminal = terminalNames w.stages

theorem Sound.of_mem_iff {stages : List Stage} {edges edges' : List StageEdge}
    (h : ∀ e, e ∈ edges' ↔ e ∈ edges) (hsound : Sound stages edges) : Sound stages edges' where
  fits e he := hsound.fits e ((h e).mp he)
  deterministic := (deterministic_congr h).mpr hsound.deterministic
  terminal s hs := fun ⟨hkind, e, he, hsource⟩ =>
    hsound.terminal s hs ⟨hkind, e, (h e).mp he, hsource⟩

theorem accepted_of_ofStages {stages : List Stage} {edges : List StageEdge}
    (h : ofStages stages edges = .ok w) : Accepted w := by
  obtain ⟨hsound, table, htable, rfl⟩ := ofStages_eq_ok_iff.mp h
  have hgiven := TransitionTable.isTableOf_of_ofEdges htable
  have hclosed := withTerminal_of_no_exit hgiven hsound.terminal
  exact ⟨hsound.of_mem_iff fun _ => hgiven.mem_iff, hgiven.agrees.withTerminal hclosed, rfl⟩

theorem review_accepted : Accepted review :=
  accepted_of_ofStages review_checked

/-- Building a workflow again from its own stages and edges gives it back. -/
theorem rebuilds_of_ofStages {stages : List Stage} {edges : List StageEdge}
    (h : ofStages stages edges = .ok w) : ofStages w.stages w.transitions = .ok w := by
  have hsound := (accepted_of_ofStages h).sound
  obtain ⟨_, table, htable, rfl⟩ := ofStages_eq_ok_iff.mp h
  have hrebuilds := (TransitionTable.isTableOf_of_ofEdges htable).rebuilds
  exact ofStages_eq_ok_iff.mpr ⟨hsound, table, hrebuilds, rfl⟩

/-! ## One outcome -/

theorem nextStage_of_declares (h : Declares w.stages source) :
    w.nextStage source o = w.table.next source o := by
  obtain ⟨s, hs⟩ := h.exists_first
  rw [nextStage, stage?, findStage?_eq_some_iff.mpr hs]

theorem nextStage_of_not_declares (h : ¬ Declares w.stages source) :
    w.nextStage source o = .error (.unknownStage source) := by
  rw [nextStage, stage?, findStage?_eq_none_iff.mpr h]

/-- **A refusal.** Either no stage has that name, or the outcome is not among those that can be
applied there; each has an error of its own. -/
theorem Accepted.nextStage_eq_error_iff (hw : Accepted w) {err : WorkflowError} :
    w.nextStage source o = .error err ↔
      (¬ Declares w.stages source ∧ err = .unknownStage source)
        ∨ (Declares w.stages source ∧ o ∉ w.outcomesFrom source
            ∧ err = .notPermitted source o.name) := by
  by_cases h : Declares w.stages source
  · rw [nextStage_of_declares h, hw.agrees.next_eq_error_iff]
    simp only [h, not_true_eq_false, false_and, true_and, false_or]
    rfl
  · rw [nextStage_of_not_declares h]
    simp [h, eq_comm]

/-- In an accepted workflow an outcome is accepted exactly along an edge. -/
theorem Accepted.nextStage_eq_ok_iff (h : Accepted w) {target : String} :
    w.nextStage source o = .ok target ↔ ⟨source, o, target⟩ ∈ w.transitions := by
  by_cases hsource : Declares w.stages source
  · rw [nextStage_of_declares hsource]
    exact h.agrees.next_eq_ok_iff
  · rw [nextStage_of_not_declares hsource]
    -- an edge would have to leave a declared stage
    have hnone : ⟨source, o, target⟩ ∉ w.transitions :=
      fun he => hsource (h.sound.fits _ he).source
    simp [hnone]

/-- A stage ends an accepted workflow if one of its name is declared terminal, whatever else is
declared under that name. -/
theorem Accepted.isTerminal_iff (h : Accepted w) {stage : String} :
    w.isTerminal stage = true ↔ ∃ s ∈ w.stages, s.kind = .terminal ∧ s.name = stage := by
  rw [← mem_terminalNames_iff, ← h.terminal]
  exact List.contains_iff_mem

theorem Accepted.outcomesFrom_of_isTerminal (h : Accepted w) {stage : String}
    (hterminal : w.isTerminal stage = true) : w.outcomesFrom stage = [] := by
  obtain ⟨s, hs, hkind, rfl⟩ := h.isTerminal_iff.mp hterminal
  refine List.eq_nil_iff_forall_not_mem.mpr fun o ho => ?_
  obtain ⟨target, he⟩ := TransitionTable.mem_labelsFrom_iff.mp ho
  exact h.sound.terminal s hs ⟨hkind, _, he, rfl⟩

/-! ## A run of outcomes -/

/-- The stage of the work after an outcome. One that is refused leaves it where it is. -/
def advance (w : Workflow) (stage : String) (o : Outcome) : String :=
  match w.nextStage stage o with
  | .ok target => target
  | .error _ => stage

/-- The stage that is reached from a stage when outcomes come in one after the other. -/
def reached (w : Workflow) (start : String) (outcomes : List Outcome) : String :=
  outcomes.foldl w.advance start

theorem Accepted.declares_advance (h : Accepted w) (hsource : Declares w.stages source) :
    Declares w.stages (w.advance source o) := by
  rw [advance]
  cases hnext : w.nextStage source o with
  | error _ => exact hsource -- the work stays
  | ok target => exact (h.sound.fits _ (h.nextStage_eq_ok_iff.mp hnext)).target

theorem Accepted.declares_reached (h : Accepted w) {start : String}
    (hstart : Declares w.stages start) (outcomes : List Outcome) :
    Declares w.stages (w.reached start outcomes) := by
  induction outcomes generalizing start with
  | nil => exact hstart
  -- the run goes on from the stage after the first outcome
  | cons o outcomes ih => exact ih (h.declares_advance hstart)

/-! ## The headline -/

/-- **An accepted workflow keeps to its declaration.** Whatever outcomes come in from a declared
stage on, the stage that is reached is declared, and an outcome accepted there follows an edge of
the workflow; it is offered at that stage, and the stage of that name lists it. An outcome is
refused for an unknown stage exactly if no stage has the name, and as not permitted exactly if a
stage has it but does not offer the outcome. A stage that ends the workflow offers nothing and
refuses every outcome. The workflow built again from its own stages and edges is the same. -/
theorem accepted_workflow_keeps_to_its_declaration {stages : List Stage} {edges : List StageEdge}
    {w : Workflow} (h : ofStages stages edges = .ok w) :
    (∀ start, Declares w.stages start → ∀ outcomes,
        Declares w.stages (w.reached start outcomes)
          ∧ ∀ o target, w.nextStage (w.reached start outcomes) o = .ok target →
              Declares w.stages target
                ∧ ⟨w.reached start outcomes, o, target⟩ ∈ w.transitions
                ∧ o ∈ w.outcomesFrom (w.reached start outcomes)
                ∧ ∃ s, w.stage? (w.reached start outcomes) = some s ∧ o ∈ s.outcomes)
      ∧ (∀ source o err, w.nextStage source o = .error err ↔
          (¬ Declares w.stages source ∧ err = .unknownStage source)
            ∨ (Declares w.stages source ∧ o ∉ w.outcomesFrom source
                ∧ err = .notPermitted source o.name))
      ∧ (∀ stage, w.isTerminal stage = true →
          w.outcomesFrom stage = []
            ∧ ∀ o, w.nextStage stage o = .error (.notPermitted stage o.name))
      ∧ ofStages w.stages w.transitions = .ok w := by
  have hw : Accepted w := accepted_of_ofStages h
  refine ⟨fun start hstart outcomes => ⟨hw.declares_reached hstart outcomes, ?_⟩,
    fun _ _ _ => hw.nextStage_eq_error_iff, fun stage hterminal => ?_, rebuilds_of_ofStages h⟩
  · intro o target hnext
    have hedge := hw.nextStage_eq_ok_iff.mp hnext
    obtain ⟨_, htarget, s, hs, hlisted⟩ := hw.sound.fits _ hedge
    exact ⟨htarget, hedge, TransitionTable.mem_labelsFrom_iff.mpr ⟨target, hedge⟩, s,
      findStage?_eq_some_iff.mpr hs, hlisted⟩
  · have hnone := hw.outcomesFrom_of_isTerminal hterminal
    obtain ⟨s, hs, _, hname⟩ := hw.isTerminal_iff.mp hterminal
    refine ⟨hnone, fun o => hw.nextStage_eq_error_iff.mpr (Or.inr ⟨⟨s, hs, hname⟩, ?_, rfl⟩)⟩
    rw [hnone]
    exact List.not_mem_nil

/-- The review workflow from its first stage to its last. In between the work is sent back once,
and outcomes come in that the stage does not offer. -/
theorem review_run_ends :
    review.reached "Coding"
        [.submitForReview, .changesRequested, .approved, .submitForReview, .approved, .done,
          .approved, .done] = "Done"
      ∧ Declares review.stages "Done"
      ∧ review.outcomesFrom "Done" = []
      ∧ (∀ o, review.nextStage "Done" o = .error (.notPermitted "Done" o.name))
      ∧ review.nextStage "Triage" .approved = .error (.unknownStage "Triage") := by
  obtain ⟨hrun, herror, hterminal, _⟩ :=
    accepted_workflow_keeps_to_its_declaration review_checked
  obtain ⟨hnone, hrefused⟩ := hterminal "Done" rfl
  have hcoding : Declares review.stages "Coding" := ⟨_, List.mem_cons_self, rfl⟩
  have hdone := (hrun "Coding" hcoding
    [.submitForReview, .changesRequested, .approved, .submitForReview, .approved, .done,
      .approved, .done]).1
  have htriage : ∀ s ∈ review.stages, s.name ≠ "Triage" := by decide
  refine ⟨rfl, hdone, hnone, hrefused, (herror "Triage" .approved _).mpr (Or.inl ⟨?_, rfl⟩)⟩
  rintro ⟨s, hs, hname⟩
  exact htriage s hs hname

end TeamConsole.Workflow
