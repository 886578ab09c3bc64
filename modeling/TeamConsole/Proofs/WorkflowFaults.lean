import TeamConsole.Proofs.EdgeTable
import TeamConsole.Workflow.Stage

/-!
# A workflow is refused for its first fault

A workflow is built from stages and edges that the server or an operator wrote down. It is checked
in three passes: every edge by itself, then the edges against each other, then the terminal stages
against the edges. The first fault found in the earliest pass is the one that is reported.

* **`Fits`**, **`EdgeFault`**: an edge by itself. Either it fits or it has one fault
  (`checkEdge_eq_ok_iff`, `checkEdge_eq_error_iff`).
* **`Sound`**, **`Fault`**: all three passes; a declaration is sound or has a fault
  (`sound_or_fault`).
* **`ofStages_of_sound`**, **`ofStages_of_fault`**: what is built, and what is reported.
* **`workflow_is_refused_for_its_first_fault`**: the headline.
-/

namespace TeamConsole.Workflow

/-! ## Stages by their names -/

/-- A stage of that name is declared. -/
def Declares (stages : List Stage) (name : String) : Prop :=
  ∃ s ∈ stages, s.name = name

/-- Of the stages of that name, the one declared first. -/
def DeclaredFirst (stages : List Stage) (name : String) (s : Stage) : Prop :=
  s.name = name ∧ ∃ before after, stages = before ++ s :: after ∧ ∀ r ∈ before, r.name ≠ name

theorem findStage?_eq_some_iff {stages : List Stage} {name : String} {s : Stage} :
    findStage? stages name = some s ↔ DeclaredFirst stages name s := by
  simp [findStage?, DeclaredFirst, List.find?_eq_some_iff_append]

theorem findStage?_eq_none_iff {stages : List Stage} {name : String} :
    findStage? stages name = none ↔ ¬ Declares stages name := by
  simp [findStage?, Declares]

theorem Declares.exists_first {stages : List Stage} {name : String}
    (h : Declares stages name) : ∃ s, DeclaredFirst stages name s := by
  cases hfound : findStage? stages name with
  | none => exact absurd h (findStage?_eq_none_iff.mp hfound)
  | some s => exact ⟨s, findStage?_eq_some_iff.mp hfound⟩

/-! ## An edge by itself -/

/-- **An edge fits.** It joins declared stages and carries an outcome that its source lists. Where
several stages share a name, the list of the first one counts. -/
structure Fits (stages : List Stage) (e : StageEdge) : Prop where
  source : Declares stages e.source
  target : Declares stages e.target
  label : ∃ s, DeclaredFirst stages e.source s ∧ e.label ∈ s.outcomes

/-- The fault of an edge. The source is looked at before the target, and both before the
outcome. -/
inductive EdgeFault (stages : List Stage) (e : StageEdge) : WorkflowError → Prop where
  | source (h : ¬ Declares stages e.source) : EdgeFault stages e (.unknownStage e.source)
  | target (hsource : Declares stages e.source) (h : ¬ Declares stages e.target) :
      EdgeFault stages e (.unknownStage e.target)
  | outcome {s : Stage} (hsource : DeclaredFirst stages e.source s)
      (htarget : Declares stages e.target) (h : e.label ∉ s.outcomes) :
      EdgeFault stages e (.undeclaredOutcome e.source e.label.name)

theorem checkEdge_of_fits {stages : List Stage} {e : StageEdge} (h : Fits stages e) :
    checkEdge stages e = .ok () := by
  obtain ⟨s, hsource, hlabel⟩ := h.label
  obtain ⟨t, htarget⟩ := h.target.exists_first
  rw [checkEdge, findStage?_eq_some_iff.mpr hsource, findStage?_eq_some_iff.mpr htarget]
  exact if_pos hlabel

theorem checkEdge_of_fault {stages : List Stage} {e : StageEdge} {err : WorkflowError}
    (h : EdgeFault stages e err) : checkEdge stages e = .error err := by
  rw [checkEdge]
  cases h with
  | source h => rw [findStage?_eq_none_iff.mpr h]
  | target hsource h =>
    obtain ⟨s, hs⟩ := hsource.exists_first
    rw [findStage?_eq_some_iff.mpr hs, findStage?_eq_none_iff.mpr h]
  | outcome hsource htarget h =>
    obtain ⟨t, ht⟩ := htarget.exists_first
    rw [findStage?_eq_some_iff.mpr hsource, findStage?_eq_some_iff.mpr ht]
    exact if_neg h

theorem fits_or_fault (stages : List Stage) (e : StageEdge) :
    Fits stages e ∨ ∃ err, EdgeFault stages e err := by
  by_cases hsource : Declares stages e.source
  · by_cases htarget : Declares stages e.target
    · obtain ⟨s, hs⟩ := hsource.exists_first
      by_cases hlabel : e.label ∈ s.outcomes
      · exact Or.inl ⟨hsource, htarget, s, hs, hlabel⟩
      · exact Or.inr ⟨_, .outcome hs htarget hlabel⟩
    · exact Or.inr ⟨_, .target hsource htarget⟩
  · exact Or.inr ⟨_, .source hsource⟩

/-! ## A declaration as a whole -/

/-- An edge leaves the name of a stage that is declared terminal. -/
def HasExit (edges : List StageEdge) (s : Stage) : Prop :=
  s.kind = .terminal ∧ ∃ e ∈ edges, e.source = s.name

instance (edges : List StageEdge) (s : Stage) : Decidable (HasExit edges s) :=
  inferInstanceAs (Decidable (s.kind = .terminal ∧ ∃ e ∈ edges, e.source = s.name))

/-- **Sound.** Every edge fits, no two edges contradict each other, and no edge leaves a name
under which any stage is declared terminal. -/
structure Sound (stages : List Stage) (edges : List StageEdge) : Prop where
  fits : ∀ e ∈ edges, Fits stages e
  deterministic : Deterministic edges
  terminal : ∀ s ∈ stages, ¬ HasExit edges s

/-- **The fault that is reported.** That of the first edge which does not fit; if all fit, that of
the first edge which contradicts one before it; if none does, that of the first terminal stage
which has an exit. -/
inductive Fault (stages : List Stage) (edges : List StageEdge) : WorkflowError → Prop where
  | edge {before after : List StageEdge} {e : StageEdge} {err : WorkflowError}
      (hedges : edges = before ++ e :: after) (hbefore : ∀ b ∈ before, Fits stages b)
      (hfault : EdgeFault stages e err) : Fault stages edges err
  | ambiguous {p e : StageEdge} (hfits : ∀ e ∈ edges, Fits stages e)
      (hconflict : FirstConflict edges p e) :
      Fault stages edges (.ambiguous e.source e.label.name p.target e.target)
  | exits {before after : List Stage} {s : Stage} (hfits : ∀ e ∈ edges, Fits stages e)
      (hdet : Deterministic edges) (hstages : stages = before ++ s :: after)
      (hbefore : ∀ r ∈ before, ¬ HasExit edges r) (hexit : HasExit edges s) :
      Fault stages edges (.terminalHasExits s.name)

theorem forall_or_first {α : Type} (p : α → Prop) (l : List α) :
    (∀ a ∈ l, p a) ∨ ∃ before a after, l = before ++ a :: after ∧ (∀ b ∈ before, p b) ∧ ¬ p a := by
  induction l with
  | nil => exact Or.inl fun _ h => nomatch h
  | cons a l ih =>
    by_cases ha : p a
    · rcases ih with hall | ⟨before, a', after, rfl, hbefore, ha'⟩
      · exact Or.inl (List.forall_mem_cons.mpr ⟨ha, hall⟩)
      · exact Or.inr ⟨a :: before, a', after, rfl, List.forall_mem_cons.mpr ⟨ha, hbefore⟩, ha'⟩
    · exact Or.inr ⟨[], a, l, rfl, (fun _ h => nomatch h), ha⟩

/-- One pass after the other, each ends well or finds its first fault. -/
theorem sound_or_fault (stages : List Stage) (edges : List StageEdge) :
    Sound stages edges ∨ ∃ err, Fault stages edges err := by
  rcases forall_or_first (Fits stages) edges with hfits | ⟨before, e, after, hedges, hbefore, he⟩
  · rcases deterministic_or_firstConflict edges with hdet | ⟨p, e, hconflict⟩
    · rcases forall_or_first (¬ HasExit edges ·) stages with
        hterminal | ⟨before, s, after, hstages, hbefore, hs⟩
      · exact Or.inl ⟨hfits, hdet, hterminal⟩
      · exact Or.inr ⟨_, .exits hfits hdet hstages hbefore (not_not.mp hs)⟩
    · exact Or.inr ⟨_, .ambiguous hfits hconflict⟩
  · obtain ⟨err, hfault⟩ := (fits_or_fault stages e).resolve_left he
    exact Or.inr ⟨err, .edge hedges hbefore hfault⟩

/-! ## What is built, and what is reported -/

/-- The names under which a stage is declared terminal. -/
def terminalNames (stages : List Stage) : List String :=
  (stages.filter (·.kind = .terminal)).map Stage.name

theorem mem_terminalNames_iff {stages : List Stage} {name : String} :
    name ∈ terminalNames stages ↔ ∃ s ∈ stages, s.kind = .terminal ∧ s.name = name := by
  simp [terminalNames, and_assoc]

theorem forM_checkEdge_of_fits {stages : List Stage} {edges : List StageEdge}
    (h : ∀ e ∈ edges, Fits stages e) : edges.forM (checkEdge stages) = .ok () := by
  induction edges with
  | nil => rfl
  | cons e edges ih =>
    obtain ⟨he, hedges⟩ := List.forall_mem_cons.mp h
    show ((checkEdge stages e).bind fun _ => edges.forM (checkEdge stages)) = _
    rw [checkEdge_of_fits he]
    exact ih hedges

theorem forM_checkEdge_of_fault {stages : List Stage} {before after : List StageEdge}
    {e : StageEdge} {err : WorkflowError} (hbefore : ∀ b ∈ before, Fits stages b)
    (hfault : EdgeFault stages e err) :
    (before ++ e :: after).forM (checkEdge stages) = .error err := by
  induction before with
  | nil =>
    -- the error ends the loop, so nothing is asked of the edges after `e`
    show ((checkEdge stages e).bind fun _ => after.forM (checkEdge stages)) = _
    rw [checkEdge_of_fault hfault]
    rfl
  | cons b before ih =>
    obtain ⟨hb, hbefore⟩ := List.forall_mem_cons.mp hbefore
    show ((checkEdge stages b).bind fun _ =>
      (before ++ e :: after).forM (checkEdge stages)) = _
    rw [checkEdge_of_fits hb]
    exact ih hbefore

/-- Once every edge fits, the table decides. -/
theorem ofStages_of_fits {stages : List Stage} {edges : List StageEdge}
    (h : ∀ e ∈ edges, Fits stages e) :
    ofStages stages edges = (do
      let table ← TransitionTable.ofEdges edges
      let table ← table.withTerminal (terminalNames stages)
      return ⟨stages, table⟩) := by
  rw [ofStages, forM_checkEdge_of_fits h]
  rfl

section Table

variable {stages : List Stage} {edges : List StageEdge} {table : TransitionTable String Outcome}

/-- The first terminal name that an edge leaves is that of the first terminal stage with an
exit. -/
theorem find?_terminalNames (h : TransitionTable.IsTableOf edges table) (stages : List Stage) :
    ((terminalNames stages).find? fun name => !(table.targets name).isEmpty)
      = (stages.find? (HasExit edges ·)).map Stage.name := by
  rw [terminalNames, List.find?_map, List.find?_filter]
  -- the two searches are for the same stage: the table has the edges given
  congr 2
  funext s
  rw [Bool.eq_iff_iff, decide_eq_true_iff (p := HasExit edges s)]
  simp [HasExit, h.agrees.isEmpty_targets_eq_false_iff, h.mem_iff]

theorem withTerminal_of_no_exit (htable : TransitionTable.IsTableOf edges table)
    (h : ∀ s ∈ stages, ¬ HasExit edges s) :
    table.withTerminal (terminalNames stages)
      = .ok { table with terminal := terminalNames stages } := by
  have hfind : stages.find? (HasExit edges ·) = none :=
    List.find?_eq_none.mpr fun s hs => by simpa using h s hs
  rw [TransitionTable.withTerminal, find?_terminalNames htable, hfind, htable.terminal]
  rfl

theorem withTerminal_of_exit {before after : List Stage} {s : Stage}
    (htable : TransitionTable.IsTableOf edges table) (hbefore : ∀ r ∈ before, ¬ HasExit edges r)
    (hexit : HasExit edges s) :
    table.withTerminal (terminalNames (before ++ s :: after))
      = .error (.terminalHasExits s.name) := by
  have hfind : (before ++ s :: after).find? (HasExit edges ·) = some s :=
    List.find?_eq_some_iff_append.mpr
      ⟨decide_eq_true hexit, before, after, rfl, fun r hr => by simpa using hbefore r hr⟩
  rw [TransitionTable.withTerminal, find?_terminalNames htable, hfind]
  rfl

end Table

/-- The table of sound edges, closed at the terminal stages. -/
theorem ofStages_of_sound {stages : List Stage} {edges : List StageEdge}
    (h : Sound stages edges) :
    ∃ table, TransitionTable.ofEdges edges = .ok table
      ∧ ofStages stages edges
          = .ok ⟨stages, { table with terminal := terminalNames stages }⟩ := by
  obtain ⟨table, htable⟩ := TransitionTable.exists_ofEdges_of_deterministic h.deterministic
  refine ⟨table, htable, ?_⟩
  rw [ofStages_of_fits h.fits, htable]
  show ((table.withTerminal (terminalNames stages)).bind
    fun table => .ok (Workflow.mk stages table)) = _
  rw [withTerminal_of_no_exit (TransitionTable.isTableOf_of_ofEdges htable) h.terminal]
  rfl

theorem ofStages_of_fault {stages : List Stage} {edges : List StageEdge} {err : WorkflowError}
    (h : Fault stages edges err) : ofStages stages edges = .error err := by
  cases h with
  | edge hedges hbefore hfault =>
    rw [ofStages, hedges, forM_checkEdge_of_fault hbefore hfault]
    rfl
  | ambiguous hfits hconflict =>
    rw [ofStages_of_fits hfits, TransitionTable.ofEdges_of_firstConflict hconflict]
    rfl
  | exits hfits hdet hstages hbefore hexit =>
    obtain ⟨table, htable⟩ := TransitionTable.exists_ofEdges_of_deterministic hdet
    rw [ofStages_of_fits hfits, htable, hstages]
    show ((table.withTerminal (terminalNames _)).bind
      fun table => .ok (Workflow.mk _ table)) = _
    rw [withTerminal_of_exit (TransitionTable.isTableOf_of_ofEdges htable) hbefore hexit]
    rfl

/-! ## The headline -/

theorem ofStages_eq_ok_iff {stages : List Stage} {edges : List StageEdge} {w : Workflow} :
    ofStages stages edges = .ok w ↔
      Sound stages edges ∧ ∃ table, TransitionTable.ofEdges edges = .ok table
        ∧ w = ⟨stages, { table with terminal := terminalNames stages }⟩ := by
  constructor
  · intro h
    rcases sound_or_fault stages edges with hsound | ⟨err, hfault⟩
    · obtain ⟨table, htable, hbuilt⟩ := ofStages_of_sound hsound
      rw [hbuilt] at h
      exact ⟨hsound, table, htable, (Except.ok.inj h).symm⟩
    · rw [ofStages_of_fault hfault] at h
      cases h
  · rintro ⟨hsound, table, htable, rfl⟩
    obtain ⟨table', htable', hbuilt⟩ := ofStages_of_sound hsound
    obtain rfl := Except.ok.inj (htable.symm.trans htable')
    exact hbuilt

/-- **A workflow is refused for its first fault.** Stages and edges make a workflow exactly if
every edge joins declared stages and carries an outcome that the first stage of its source's name
lists, no source has two targets under one outcome, and no edge leaves the name of a terminal
stage. Otherwise the error is that of the first edge that does not fit; only if all edges fit, that
of the first edge that contradicts one before it; and only if none does, that of the first terminal
stage with an exit. -/
theorem workflow_is_refused_for_its_first_fault (stages : List Stage) (edges : List StageEdge) :
    ((∃ w, ofStages stages edges = .ok w) ↔ Sound stages edges)
      ∧ ∀ err, ofStages stages edges = .error err ↔ Fault stages edges err := by
  refine ⟨?_, fun err => ⟨fun h => ?_, ofStages_of_fault⟩⟩
  · constructor
    · rintro ⟨w, h⟩
      exact (ofStages_eq_ok_iff.mp h).1
    · intro hsound
      obtain ⟨table, _, hbuilt⟩ := ofStages_of_sound hsound
      exact ⟨_, hbuilt⟩
  · rcases sound_or_fault stages edges with hsound | ⟨err', hfault⟩
    · obtain ⟨table, _, hbuilt⟩ := ofStages_of_sound hsound
      rw [hbuilt] at h
      cases h
    · rw [ofStages_of_fault hfault] at h
      rw [← Except.error.inj h]
      exact hfault

/-- The last edge does not fit, and is reported before the contradiction of the two before it. -/
example :
    ofStages [⟨"Draft", .human, [.approved]⟩, ⟨"Published", .terminal, []⟩]
        [⟨"Draft", .approved, "Published"⟩, ⟨"Draft", .approved, "Draft"⟩,
          ⟨"Draft", .done, "Published"⟩]
      = .error (.undeclaredOutcome "Draft" "done") :=
  rfl

end TeamConsole.Workflow
