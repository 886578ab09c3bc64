import Mathlib.Data.List.Induction
import Mathlib.Data.List.Nodup
import TeamConsole.Workflow.Status

/-!
# A table is the relation of its edges

A transition table is built from edges one at a time. An edge that is there already is dropped, and
one that leads the same state under the same label somewhere else is refused. What is accepted is
entered twice, in the index by state and label and at the end of the list. Moves are looked up in
the index and offered from the list, so a table can be relied on only while the two say the same.

* **`Edge.Contradicts`**, **`Deterministic`**, **`FirstConflict`**: what a list says; it is
  deterministic or has a first conflict (`deterministic_or_firstConflict`).
* **`Agrees`**: the index has the targets of the edges in the list, and no others. Then what is
  looked up is what is listed (`Agrees.next_eq_ok_iff`, `Agrees.permits_iff`).
* **`addEdge_eq_ok_iff`**, **`Agrees.addEdge`**: one edge more, and it keeps the agreement.
* **`IsTableOf`**: the table of the edges given so far, the invariant of the loop. One edge keeps
  it (`IsTableOf.addEdge`), and so do all (`isTableOf_of_ofEdges`, by induction on the list).
* **`exists_ofEdges_of_deterministic`**, **`ofEdges_of_firstConflict`**: how the loop ends.
* **`table_is_its_edges`**: the headline.
-/

namespace TeamConsole

variable {S L : Type}

/-! ## Lists of edges -/

/-- Two edges leave one state under one label, towards different targets. -/
def Edge.Contradicts (p e : Edge S L) : Prop :=
  p.source = e.source ∧ p.label = e.label ∧ p.target ≠ e.target

/-- No two edges of the list contradict each other. -/
def Deterministic (edges : List (Edge S L)) : Prop :=
  ∀ p ∈ edges, ∀ e ∈ edges, ¬ p.Contradicts e

/-- **The first conflict.** The edge `e` contradicts `p`, which stands before it in the list, and
no edge before `e` contradicts another. -/
def FirstConflict (edges : List (Edge S L)) (p e : Edge S L) : Prop :=
  ∃ before after, edges = before ++ e :: after ∧ Deterministic before
    ∧ p ∈ before ∧ p.Contradicts e

theorem Edge.Contradicts.symm {p e : Edge S L} (h : p.Contradicts e) : e.Contradicts p :=
  ⟨h.1.symm, h.2.1.symm, h.2.2.symm⟩

theorem Deterministic.target_eq {edges : List (Edge S L)} (h : Deterministic edges)
    {source : S} {label : L} {t u : S} (ht : ⟨source, label, t⟩ ∈ edges)
    (hu : ⟨source, label, u⟩ ∈ edges) : t = u :=
  Classical.byContradiction fun hne => h _ ht _ hu ⟨rfl, rfl, hne⟩

theorem deterministic_congr {edges edges' : List (Edge S L)}
    (h : ∀ e, e ∈ edges ↔ e ∈ edges') : Deterministic edges ↔ Deterministic edges' := by
  simp only [Deterministic, h]

theorem deterministic_concat_iff {edges : List (Edge S L)} {e : Edge S L} :
    Deterministic (edges ++ [e]) ↔ Deterministic edges ∧ ∀ p ∈ edges, ¬ p.Contradicts e := by
  constructor
  · intro h
    exact ⟨fun p hp e' he' => h p (List.mem_append_left _ hp) e' (List.mem_append_left _ he'),
      fun p hp => h p (List.mem_append_left _ hp) e List.mem_concat_self⟩
  · intro ⟨hedges, hlast⟩ p hp e' he'
    -- the new edge may be neither of the two, one of them, or both
    rcases List.mem_append.mp hp with hp | hp <;> rcases List.mem_append.mp he' with he' | he'
    · exact hedges p hp e' he'
    · rw [List.mem_singleton.mp he']
      exact hlast p hp
    · rw [List.mem_singleton.mp hp]
      exact fun hc => hlast e' he' hc.symm
    · rw [List.mem_singleton.mp hp, List.mem_singleton.mp he']
      exact fun hc => hc.2.2 rfl

/-- A list that is not deterministic has a first edge that says so. -/
theorem deterministic_or_firstConflict (edges : List (Edge S L)) :
    Deterministic edges ∨ ∃ p e, FirstConflict edges p e := by
  induction edges using List.reverseRecOn with
  | nil => exact Or.inl fun _ h => nomatch h
  | append_singleton edges e ih =>
    rcases ih with hedges | ⟨p, e', before, after, rfl, hconflict⟩
    · by_cases hlast : ∃ p ∈ edges, p.Contradicts e
      · obtain ⟨p, hp, hc⟩ := hlast
        exact Or.inr ⟨p, e, edges, [], rfl, hedges, hp, hc⟩
      · exact Or.inl (deterministic_concat_iff.mpr ⟨hedges, fun p hp hc => hlast ⟨p, hp, hc⟩⟩)
    · refine Or.inr ⟨p, e', before, after ++ [e], ?_, hconflict⟩
      rw [List.append_assoc, List.cons_append]

theorem eraseDups_concat {α : Type} [DecidableEq α] (l : List α) (a : α) :
    (l ++ [a]).eraseDups = if a ∈ l then l.eraseDups else l.eraseDups ++ [a] := by
  rw [List.eraseDups_append]
  by_cases h : a ∈ l
  · simp [List.removeAll, h]
  · simp [List.removeAll, h, List.eraseDups_cons]

/-! ## The index and the list -/

namespace TransitionTable

variable [DecidableEq S]

theorem mem_labelsFrom_iff {table : TransitionTable S L} {source : S} {label : L} :
    label ∈ table.labelsFrom source ↔ ∃ t, ⟨source, label, t⟩ ∈ table.edges := by
  simp only [labelsFrom, List.mem_map, List.mem_filter, decide_eq_true_eq]
  constructor
  · rintro ⟨e, ⟨he, rfl⟩, rfl⟩
    exact ⟨e.target, he⟩
  · rintro ⟨t, ht⟩
    exact ⟨_, ⟨ht, rfl⟩, rfl⟩

variable [DecidableEq L]

/-- **The index agrees with the list.** A state has a target under a label in the index exactly if
the list has the edge. The list has every edge once. -/
structure Agrees (table : TransitionTable S L) : Prop where
  target : ∀ source label t,
    (table.targets source).get? label = some t ↔ ⟨source, label, t⟩ ∈ table.edges
  nodup : table.edges.Nodup

namespace Agrees

variable {table : TransitionTable S L} {source : S} {label : L}

theorem deterministic (h : table.Agrees) : Deterministic table.edges := by
  rintro ⟨s, l, t⟩ hp ⟨_, _, u⟩ he ⟨rfl, rfl, hne⟩
  -- the index has one target for a state and a label
  have ht := (h.target s l t).mpr hp
  rw [(h.target s l u).mpr he] at ht
  exact hne (Option.some.inj ht).symm

theorem get?_eq_none_iff (h : table.Agrees) :
    (table.targets source).get? label = none ↔ ∀ t, ⟨source, label, t⟩ ∉ table.edges := by
  simp only [Option.eq_none_iff_forall_not_mem, Option.mem_def, h.target]

/-- The index has targets for the states that an edge of the list leaves. -/
theorem isEmpty_targets_eq_false_iff (h : table.Agrees) :
    (table.targets source).isEmpty = false ↔ ∃ e ∈ table.edges, e.source = source := by
  rw [← Bool.not_eq_true, Dict.isEmpty_iff]
  simp only [h.get?_eq_none_iff, not_forall, not_not]
  constructor
  · rintro ⟨label, t, he⟩
    exact ⟨_, he, rfl⟩
  · rintro ⟨e, he, rfl⟩
    exact ⟨e.label, e.target, he⟩

theorem permits_iff (h : table.Agrees) :
    table.permits source label = true ↔ label ∈ table.labelsFrom source := by
  simp only [permits, Option.isSome_iff_exists, h.target, mem_labelsFrom_iff]

theorem nodup_labelsFrom (h : table.Agrees) (source : S) : (table.labelsFrom source).Nodup := by
  refine List.Nodup.map_on ?_ (h.nodup.filter _)
  -- two edges of the state under one label are one edge, or they would contradict each other
  rintro ⟨s, l, t⟩ he ⟨s', l', t'⟩ he' rfl
  obtain ⟨hmem, hs⟩ := List.mem_filter.mp he
  obtain ⟨hmem', hs'⟩ := List.mem_filter.mp he'
  obtain rfl : s = source := of_decide_eq_true hs
  obtain rfl : s' = s := of_decide_eq_true hs'
  rw [h.deterministic.target_eq hmem hmem']

theorem withTerminal [Named S] {table' : TransitionTable S L} {states : List S}
    (h : table.Agrees) (hterminal : table.withTerminal states = .ok table') : table'.Agrees := by
  rw [TransitionTable.withTerminal] at hterminal
  split at hterminal
  · cases hterminal
  · obtain rfl := Except.ok.inj hterminal
    exact ⟨h.target, h.nodup⟩ -- neither the index nor the list is touched

section Names

variable [Named S] [Named L]

theorem next_eq_ok_iff (h : table.Agrees) {t : S} :
    table.next source label = .ok t ↔ ⟨source, label, t⟩ ∈ table.edges := by
  rw [← h.target, next]
  cases (table.targets source).get? label <;> simp

/-- What is not listed is refused, and nothing else is. -/
theorem next_eq_error_iff (h : table.Agrees) {err : WorkflowError} :
    table.next source label = .error err ↔
      label ∉ table.labelsFrom source
        ∧ err = .notPermitted (Named.name source) (Named.name label) := by
  rw [mem_labelsFrom_iff, next]
  cases hfound : (table.targets source).get? label with
  | none =>
    have hnone := not_exists.mpr (h.get?_eq_none_iff.mp hfound)
    simp [hnone, eq_comm]
  | some t =>
    have hsome : ∃ t, ⟨source, label, t⟩ ∈ table.edges := ⟨t, (h.target _ _ _).mp hfound⟩
    simp [hsome]

end Names

end Agrees

/-! ## One edge more -/

theorem agrees_empty : ({} : TransitionTable S L).Agrees where
  target _ _ _ := by simp [targets]
  nodup := List.nodup_nil

theorem targets_enter (table : TransitionTable S L) (e : Edge S L) (source : S) :
    (table.enter e).targets source =
      if source = e.source then (table.targets e.source).insert e.label e.target
      else table.targets source := by
  rw [targets, enter, Dict.get?_insert]
  split <;> rfl

/-- **An edge is entered in both.** The index must have no target in its place. -/
theorem Agrees.enter {table : TransitionTable S L} {e : Edge S L} (h : table.Agrees)
    (hnew : (table.targets e.source).get? e.label = none) : (table.enter e).Agrees where
  target source label t := by
    have hlisted : ⟨source, label, t⟩ ∈ (table.enter e).edges
        ↔ ⟨source, label, t⟩ ∈ table.edges ∨ ⟨source, label, t⟩ = e :=
      List.mem_append.trans (or_congr_right List.mem_singleton)
    rw [hlisted, ← h.target, targets_enter]
    obtain ⟨s, l, u⟩ := e
    by_cases hsource : source = s
    · subst hsource
      by_cases hlabel : label = l
      · subst hlabel
        -- the place of the new edge was empty
        simp [hnew, eq_comm]
      · simp [hlabel]
    · simp [hsource]
  nodup := by
    refine List.nodup_append.mpr ⟨h.nodup, List.nodup_singleton e, ?_⟩
    rintro p hp _ he rfl
    rw [List.mem_singleton.mp he] at hp
    exact h.get?_eq_none_iff.mp hnew e.target hp

variable [Named S] [Named L]

/-- The refusal of an edge that contradicts one accepted before. -/
def contradiction (p e : Edge S L) : WorkflowError :=
  .ambiguous (Named.name e.source) (Named.name e.label) (Named.name p.target)
    (Named.name e.target)

/-- **An edge accepted.** Its place in the index was empty and it is entered, or it was there with
the same target and nothing changes. -/
theorem addEdge_eq_ok_iff {table table' : TransitionTable S L} {e : Edge S L} :
    table.addEdge e = .ok table' ↔
      ((table.targets e.source).get? e.label = none ∧ table' = table.enter e)
        ∨ ((table.targets e.source).get? e.label = some e.target ∧ table' = table) := by
  rw [addEdge]
  cases (table.targets e.source).get? e.label with
  | none => simp [eq_comm]
  | some t =>
    by_cases ht : t = e.target
    · simp [ht, eq_comm]
    · simp [ht]

theorem Agrees.addEdge {table table' : TransitionTable S L} {e : Edge S L} (h : table.Agrees)
    (hadd : table.addEdge e = .ok table') : table'.Agrees := by
  rcases addEdge_eq_ok_iff.mp hadd with ⟨hnew, rfl⟩ | ⟨_, rfl⟩
  · exact h.enter hnew
  · exact h

theorem Agrees.exists_addEdge {table : TransitionTable S L} {e : Edge S L} (h : table.Agrees)
    (hlast : ∀ p ∈ table.edges, ¬ p.Contradicts e) : ∃ table', table.addEdge e = .ok table' := by
  cases hfound : (table.targets e.source).get? e.label with
  | none => exact ⟨_, addEdge_eq_ok_iff.mpr (Or.inl ⟨hfound, rfl⟩)⟩
  | some t =>
    have hmem := (h.target _ _ _).mp hfound
    have ht : t = e.target := Classical.byContradiction fun hne => hlast _ hmem ⟨rfl, rfl, hne⟩
    exact ⟨_, addEdge_eq_ok_iff.mpr (Or.inr ⟨ht ▸ hfound, rfl⟩)⟩

theorem Agrees.addEdge_of_contradicts {table : TransitionTable S L} {p e : Edge S L}
    (h : table.Agrees) (hp : p ∈ table.edges) (hc : p.Contradicts e) :
    table.addEdge e = .error (contradiction p e) := by
  obtain ⟨hsource, hlabel, htarget⟩ := hc
  have hfound : (table.targets e.source).get? e.label = some p.target := by
    rw [h.target, ← hsource, ← hlabel]
    exact hp
  rw [TransitionTable.addEdge, hfound]
  exact if_neg htarget

/-! ## All edges -/

theorem ofEdges_concat (edges : List (Edge S L)) (e : Edge S L) :
    ofEdges (edges ++ [e]) = (ofEdges edges).bind (·.addEdge e) := by
  rw [ofEdges, List.foldlM_append]
  exact congrArg (ofEdges edges).bind (funext fun table => bind_pure (table.addEdge e))

/-- **The table of the edges given so far.** Its index agrees with its list, its list has the edges
given without repetitions, and it is the table of the edges in its list. -/
structure IsTableOf (given : List (Edge S L)) (table : TransitionTable S L) : Prop where
  agrees : table.Agrees
  edges : table.edges = given.eraseDups
  terminal : table.terminal = []
  rebuilds : ofEdges table.edges = .ok table

theorem IsTableOf.mem_iff {given : List (Edge S L)} {table : TransitionTable S L}
    (h : IsTableOf given table) {e : Edge S L} : e ∈ table.edges ↔ e ∈ given := by
  rw [h.edges]
  exact List.mem_eraseDups

theorem IsTableOf.addEdge {given : List (Edge S L)} {table table' : TransitionTable S L}
    {e : Edge S L} (h : IsTableOf given table) (hadd : table.addEdge e = .ok table') :
    IsTableOf (given ++ [e]) table' := by
  have hagrees := h.agrees.addEdge hadd
  rcases addEdge_eq_ok_iff.mp hadd with ⟨hnew, rfl⟩ | ⟨hfound, rfl⟩
  -- a new edge goes to the end of the list, and is accepted there again
  · have hmem : e ∉ given := fun he =>
      h.agrees.get?_eq_none_iff.mp hnew e.target (h.mem_iff.mpr he)
    refine ⟨hagrees, ?_, h.terminal, ?_⟩
    · rw [eraseDups_concat, if_neg hmem, ← h.edges]
      rfl
    · show ofEdges (table.edges ++ [e]) = _
      rw [ofEdges_concat, h.rebuilds]
      exact hadd
  -- a repeated edge is dropped on both sides
  · have hmem : e ∈ given := h.mem_iff.mp ((h.agrees.target _ _ _).mp hfound)
    refine ⟨hagrees, ?_, h.terminal, h.rebuilds⟩
    rw [eraseDups_concat, if_pos hmem, h.edges]

/-- **The loop keeps index and list together.** Whatever was given, they agree on what has become
of it. -/
theorem isTableOf_of_ofEdges {edges : List (Edge S L)} {table : TransitionTable S L}
    (h : ofEdges edges = .ok table) : IsTableOf edges table := by
  induction edges using List.reverseRecOn generalizing table with
  | nil =>
    obtain rfl : {} = table := Except.ok.inj h
    exact ⟨agrees_empty, rfl, rfl, rfl⟩
  | append_singleton edges e ih =>
    rw [ofEdges_concat] at h
    cases hbefore : ofEdges edges with
    | error err =>
      rw [hbefore] at h
      cases h
    | ok before =>
      rw [hbefore] at h
      exact (ih hbefore).addEdge h

theorem exists_ofEdges_of_deterministic {edges : List (Edge S L)} (h : Deterministic edges) :
    ∃ table, ofEdges edges = .ok table := by
  induction edges using List.reverseRecOn with
  | nil => exact ⟨{}, rfl⟩
  | append_singleton edges e ih =>
    obtain ⟨hedges, hlast⟩ := deterministic_concat_iff.mp h
    obtain ⟨table, htable⟩ := ih hedges
    have hgiven := isTableOf_of_ofEdges htable
    rw [ofEdges_concat, htable]
    exact hgiven.agrees.exists_addEdge fun p hp => hlast p (hgiven.mem_iff.mp hp)

theorem deterministic_of_ofEdges {edges : List (Edge S L)} {table : TransitionTable S L}
    (h : ofEdges edges = .ok table) : Deterministic edges :=
  (deterministic_congr fun _ => (isTableOf_of_ofEdges h).mem_iff).mp
    (isTableOf_of_ofEdges h).agrees.deterministic

/-- The first conflict ends the construction, whatever comes after it. -/
theorem ofEdges_of_firstConflict {edges : List (Edge S L)} {p e : Edge S L}
    (h : FirstConflict edges p e) : ofEdges edges = .error (contradiction p e) := by
  obtain ⟨before, after, rfl, hbefore, hp, hc⟩ := h
  obtain ⟨table, htable⟩ := exists_ofEdges_of_deterministic hbefore
  have hgiven := isTableOf_of_ofEdges htable
  -- the edges before `e` are all accepted, and those after it are not looked at
  rw [ofEdges, List.foldlM_append]
  show ((ofEdges before).bind fun t => (t.addEdge e).bind fun t => after.foldlM addEdge t) = _
  rw [htable]
  show ((table.addEdge e).bind fun t => after.foldlM addEdge t) = _
  rw [hgiven.agrees.addEdge_of_contradicts (hgiven.mem_iff.mpr hp) hc]
  rfl

/-- **A list is refused exactly for its first conflict.** -/
theorem ofEdges_eq_error_iff {edges : List (Edge S L)} {err : WorkflowError} :
    ofEdges edges = .error err ↔ ∃ p e, FirstConflict edges p e ∧ err = contradiction p e := by
  constructor
  · intro h
    rcases deterministic_or_firstConflict edges with hdet | ⟨p, e, hconflict⟩
    · obtain ⟨table, htable⟩ := exists_ofEdges_of_deterministic hdet
      rw [htable] at h
      cases h
    · rw [ofEdges_of_firstConflict hconflict] at h
      exact ⟨p, e, hconflict, (Except.error.inj h).symm⟩
  · rintro ⟨p, e, hconflict, rfl⟩
    exact ofEdges_of_firstConflict hconflict

/-! ## The headline -/

/-- **A table is its edges.** A table is built from a list of edges exactly if no two of them lead
one state under one label to different targets. It then has the edges in their order, each where
it stands first, and goes from a state under a label wherever an edge of the list goes; it permits
the labels under which it goes somewhere, and lists each of them once. A list is refused for the
earliest edge that contradicts one before it, with the target of the one before named first. -/
theorem table_is_its_edges (edges : List (Edge S L)) :
    ((∃ table, ofEdges edges = .ok table) ↔ Deterministic edges)
      ∧ (∀ table, ofEdges edges = .ok table →
          table.edges = edges.eraseDups
            ∧ ∀ source label,
              (∀ t, table.next source label = .ok t ↔ ⟨source, label, t⟩ ∈ edges)
                ∧ (table.permits source label = true ↔ ∃ t, table.next source label = .ok t)
                ∧ (table.permits source label = true ↔ label ∈ table.labelsFrom source)
                ∧ (table.labelsFrom source).Nodup)
      ∧ ∀ err, ofEdges edges = .error err →
          ∃ before p e after, edges = before ++ e :: after ∧ Deterministic before
            ∧ p ∈ before ∧ p.Contradicts e
            ∧ err = .ambiguous (Named.name e.source) (Named.name e.label) (Named.name p.target)
                (Named.name e.target) := by
  refine ⟨⟨?_, exists_ofEdges_of_deterministic⟩, ?_, ?_⟩
  · rintro ⟨table, h⟩
    exact deterministic_of_ofEdges h
  · intro table h
    have hgiven := isTableOf_of_ofEdges h
    have hagrees := hgiven.agrees
    refine ⟨hgiven.edges, fun source label => ⟨fun t => ?_, ?_, hagrees.permits_iff,
      hagrees.nodup_labelsFrom source⟩⟩
    · exact hagrees.next_eq_ok_iff.trans hgiven.mem_iff
    · rw [hagrees.permits_iff, mem_labelsFrom_iff]
      exact exists_congr fun t => hagrees.next_eq_ok_iff.symm
  · intro err h
    obtain ⟨p, e, ⟨before, after, hedges, hbefore, hp, hc⟩, herr⟩ := ofEdges_eq_error_iff.mp h
    exact ⟨before, p, e, after, hedges, hbefore, hp, hc, herr⟩

end TransitionTable

theorem TaskStatus.moves_agrees : TaskStatus.moves.Agrees := by
  obtain ⟨table, hbuilt, hterminal⟩ := TaskStatus.moves_checked
  exact (TransitionTable.isTableOf_of_ofEdges hbuilt).agrees.withTerminal hterminal

theorem Outcome.moves_agrees : Outcome.moves.Agrees := by
  obtain ⟨table, hbuilt, hterminal⟩ := Outcome.moves_checked
  exact (TransitionTable.isTableOf_of_ofEdges hbuilt).agrees.withTerminal hterminal

/-- An edge that is repeated, and one that contradicts it afterwards. -/
def repeatedThenContradicted : List (Edge String String) :=
  [⟨"draft", "done", "review"⟩, ⟨"review", "back", "draft"⟩, ⟨"draft", "done", "review"⟩,
    ⟨"draft", "done", "published"⟩, ⟨"review", "back", "published"⟩]

/-- The edges before the contradiction make a table with each of them once; all of them together
are refused, for the edge that is the first to contradict another. -/
theorem contradiction_ends_the_table :
    (∃ table, TransitionTable.ofEdges (repeatedThenContradicted.take 3) = .ok table
        ∧ table.edges = repeatedThenContradicted.take 2
        ∧ table.next "draft" "done" = .ok "review")
      ∧ ¬ Deterministic repeatedThenContradicted
      ∧ ∃ before p e after, repeatedThenContradicted = before ++ e :: after
          ∧ Deterministic before ∧ p ∈ before ∧ p.Contradicts e ∧ e.target = "published" := by
  have haccepted : ∃ table, TransitionTable.ofEdges (repeatedThenContradicted.take 3)
      = .ok table := ⟨_, rfl⟩
  obtain ⟨table, hbuilt⟩ := haccepted
  have hrefused : TransitionTable.ofEdges repeatedThenContradicted
      = .error (.ambiguous "draft" "done" "review" "published") := rfl
  obtain ⟨_, htable, _⟩ := TransitionTable.table_is_its_edges (repeatedThenContradicted.take 3)
  obtain ⟨hdet, _, hconflict⟩ := TransitionTable.table_is_its_edges repeatedThenContradicted
  obtain ⟨hedges, hlookup⟩ := htable _ hbuilt
  refine ⟨⟨_, hbuilt, hedges.trans (by decide), ?_⟩, ?_, ?_⟩
  · exact ((hlookup "draft" "done").1 "review").mpr (by decide)
  · intro h
    obtain ⟨table, hok⟩ := hdet.mpr h
    rw [hrefused] at hok
    cases hok
  · obtain ⟨before, p, e, after, hsplit, hbefore, hp, hc, herr⟩ := hconflict _ hrefused
    obtain ⟨_, _, _, htarget⟩ := WorkflowError.ambiguous.inj herr
    exact ⟨before, p, e, after, hsplit, hbefore, hp, hc, htarget.symm⟩

end TeamConsole
