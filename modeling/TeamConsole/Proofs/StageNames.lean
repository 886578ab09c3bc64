import TeamConsole.Proofs.WorkflowRun

/-!
# What the name of a stage tells

Stages are declared as a list, and everything is asked of them by name. Three passes over the list
read a name in three ways: a lookup, and the check of an outcome, take the first stage of the name,
while the name ends the workflow if any stage of the name is terminal. Nothing checks that a name
is given out once, so the three agree only where it is.

* **`SpeaksFor`**: the name of a stage tells the whole stage.
* **`Unambiguous`**: every stage of the workflow speaks for its name.
* **`Accepted.speaksFor_of_only`**, **`SpeaksFor.eq_of_name_eq`**: a stage speaks for its name if
  no other stage has the name, and two stages never speak for one name.
* **`unambiguous_iff_names_distinct`**: the headline.
-/

namespace TeamConsole.Workflow

variable {w : Workflow}

/-- **A stage speaks for its name.** Asking for the name gives the stage, the name ends the
workflow exactly if the stage is terminal, and the stage lists every outcome that leaves it. -/
structure SpeaksFor (w : Workflow) (s : Stage) : Prop where
  found : w.stage? s.name = some s
  terminal : w.isTerminal s.name = true ↔ s.kind = .terminal
  listed : ∀ e ∈ w.transitions, e.source = s.name → e.label ∈ s.outcomes

/-- Every stage of the workflow speaks for its name. -/
def Unambiguous (w : Workflow) : Prop :=
  ∀ s ∈ w.stages, w.SpeaksFor s

/-- No two different stages have one name. -/
def NamesDistinct (stages : List Stage) : Prop :=
  ∀ s ∈ stages, ∀ r ∈ stages, s.name = r.name → s = r

instance (stages : List Stage) : Decidable (NamesDistinct stages) :=
  inferInstanceAs (Decidable (∀ s ∈ stages, ∀ r ∈ stages, s.name = r.name → s = r))

/-! ## The stage declared first

Whatever else has its name, the first one is found and checked. -/

theorem DeclaredFirst.mem {stages : List Stage} {name : String} {s : Stage}
    (h : DeclaredFirst stages name s) : s ∈ stages := by
  obtain ⟨_, before, after, rfl, _⟩ := h
  exact List.mem_append_right before List.mem_cons_self

theorem DeclaredFirst.unique {stages : List Stage} {name : String} {s r : Stage}
    (hs : DeclaredFirst stages name s) (hr : DeclaredFirst stages name r) : s = r := by
  have hfound := findStage?_eq_some_iff.mpr hs
  rw [findStage?_eq_some_iff.mpr hr] at hfound
  exact (Option.some.inj hfound).symm

/-- The outcomes that leave a name are those that its first stage lists. -/
theorem Accepted.listed_by_first (h : Accepted w) {name : String} {first : Stage}
    (hfirst : DeclaredFirst w.stages name first) :
    ∀ e ∈ w.transitions, e.source = name → e.label ∈ first.outcomes := by
  rintro e he rfl
  obtain ⟨s, hs, hlabel⟩ := (h.sound.fits e he).label
  rwa [← hs.unique hfirst]

/-! ## Other stages of the name -/

theorem Accepted.speaksFor_of_only (h : Accepted w) {s : Stage} (hs : s ∈ w.stages)
    (honly : ∀ r ∈ w.stages, r.name = s.name → r = s) : w.SpeaksFor s := by
  have hdeclared : Declares w.stages s.name := ⟨s, hs, rfl⟩
  obtain ⟨first, hfirst⟩ := hdeclared.exists_first
  -- the first stage of the name is the only one
  obtain rfl : first = s := honly first hfirst.mem hfirst.1
  refine ⟨findStage?_eq_some_iff.mpr hfirst, ?_, h.listed_by_first hfirst⟩
  rw [h.isTerminal_iff]
  constructor
  · rintro ⟨r, hr, hkind, hname⟩
    rwa [← honly r hr hname]
  · exact fun hkind => ⟨first, hs, hkind, rfl⟩

theorem SpeaksFor.eq_of_name_eq {s r : Stage} (hs : w.SpeaksFor s) (hr : w.SpeaksFor r)
    (hname : s.name = r.name) : s = r := by
  have hfound : w.stage? s.name = some r := hname ▸ hr.found
  exact Option.some.inj (hs.found.symm.trans hfound)

/-! ## The headline -/

/-- **A workflow is unambiguous exactly if its names are distinct.** The stages of an accepted
workflow are those given, and each speaks for its name exactly if no two different stages have one
name. Whether or not they have, the first stage of a name is the one found, and lists every outcome
that leaves the name; the name ends the workflow exactly if one of its stages is terminal, and
then nothing leaves it. -/
theorem unambiguous_iff_names_distinct {stages : List Stage} {edges : List StageEdge}
    (h : ofStages stages edges = .ok w) :
    (w.stages = stages ∧ (Unambiguous w ↔ NamesDistinct stages))
      ∧ ∀ s ∈ stages, ∃ first, DeclaredFirst stages s.name first
          ∧ w.stage? s.name = some first
          ∧ (∀ e ∈ w.transitions, e.source = s.name → e.label ∈ first.outcomes)
          ∧ (w.isTerminal s.name = true ↔ ∃ r ∈ stages, r.kind = .terminal ∧ r.name = s.name)
          ∧ (w.isTerminal s.name = true → ∀ e ∈ w.transitions, e.source ≠ s.name) := by
  have hw : Accepted w := accepted_of_ofStages h
  obtain rfl : w.stages = stages := by
    obtain ⟨_, _, _, rfl⟩ := ofStages_eq_ok_iff.mp h
    rfl
  refine ⟨⟨rfl, ?_⟩, ?_⟩
  · constructor
    · intro hspeak s hs r hr hname
      exact (hspeak s hs).eq_of_name_eq (hspeak r hr) hname
    · intro hdistinct s hs
      exact hw.speaksFor_of_only hs fun r hr hname => hdistinct r hr s hs hname
  · intro s hs
    have hdeclared : Declares w.stages s.name := ⟨s, hs, rfl⟩
    obtain ⟨first, hfirst⟩ := hdeclared.exists_first
    refine ⟨first, hfirst, findStage?_eq_some_iff.mpr hfirst, hw.listed_by_first hfirst,
      hw.isTerminal_iff, ?_⟩
    intro hterminal e he hsource
    obtain ⟨r, hr, hkind, hname⟩ := hw.isTerminal_iff.mp hterminal
    exact hw.sound.terminal r hr ⟨hkind, e, he, hsource.trans hname.symm⟩

theorem review_names_distinct : NamesDistinct review.stages := by
  decide

theorem review_is_unambiguous :
    review.SpeaksFor ⟨"InApproval", .human, [.approved, .changesRequested]⟩
      ∧ review.stage? "Merging" = some ⟨"Merging", .merge, [.done]⟩
      ∧ ∀ e ∈ review.transitions, e.source ≠ "Done" := by
  obtain ⟨⟨_, hiff⟩, hnames⟩ := unambiguous_iff_names_distinct review_checked
  have hspeaks := hiff.mpr review_names_distinct
  have happroval : ⟨"InApproval", .human, [.approved, .changesRequested]⟩ ∈ review.stages := by
    decide
  have hmerging : ⟨"Merging", .merge, [.done]⟩ ∈ review.stages := by decide
  have hdone : ⟨"Done", .terminal, []⟩ ∈ review.stages := by decide
  obtain ⟨_, _, _, _, _, hexit⟩ := hnames _ hdone
  exact ⟨hspeaks _ happroval, (hspeaks _ hmerging).found, hexit rfl⟩

/-- Coding is declared twice, and so is a stage that once ends the workflow and once does not. -/
def declaredTwice : List Stage :=
  [⟨"Coding", .agent, [.approved]⟩, ⟨"Done", .terminal, []⟩, ⟨"Coding", .human, []⟩,
    ⟨"Parked", .auto, []⟩, ⟨"Parked", .terminal, []⟩]

/-- Names may be given out twice. The second stage of a name is not found, an outcome leaves its
name that it does not list, and a name may end the workflow though its first stage does not. -/
theorem declared_twice_is_accepted :
    ∃ w, ofStages declaredTwice [⟨"Coding", .approved, "Done"⟩] = .ok w
      ∧ (∃ s ∈ w.stages, w.stage? s.name ≠ some s
          ∧ ∃ e ∈ w.transitions, e.source = s.name ∧ e.label ∉ s.outcomes)
      ∧ (∃ s ∈ w.stages, w.isTerminal s.name = true ∧ s.kind ≠ .terminal)
      ∧ ¬ Unambiguous w := by
  let table : TransitionTable String Outcome :=
    { index := { entries := [("Coding", { entries := [(.approved, "Done")] })] }
      edges := [⟨"Coding", .approved, "Done"⟩]
      terminal := ["Done", "Parked"] }
  refine ⟨⟨declaredTwice, table⟩, rfl, ?_, ?_, ?_⟩
  · exact ⟨⟨"Coding", .human, []⟩, by decide, by decide, _, List.mem_cons_self, rfl, by decide⟩
  · exact ⟨⟨"Parked", .auto, []⟩, by decide, rfl, by decide⟩
  · intro hspeak
    have hfound := (hspeak ⟨"Coding", .human, []⟩ (by decide)).found
    exact absurd hfound (by decide)

end TeamConsole.Workflow
