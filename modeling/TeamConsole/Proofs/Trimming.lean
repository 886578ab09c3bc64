import Mathlib.Data.List.TakeWhile
import TeamConsole.Text.Blank

/-!
# Blanks at the ends of a text

Names, numbers and addresses count without the blanks around them. Trimming takes off the blanks at
both ends, and what it leaves neither begins nor ends with one.

* **`exists_blanks`**: every text is what trimming leaves of it, between blanks.
* **`trim_between`**: blanks around a text that neither begins nor ends with one are taken off.
* **`nonblank?_eq_none_iff`**, **`nonblank?_eq_some_iff`**: a trimmed text that may be missing.
-/

namespace TeamConsole.Text

/-- A text of blanks only. -/
def Blank (s : String) : Prop :=
  ∀ c ∈ s.toList, isBlank c = true

/-- **Trimmed.** The text `t` is what is left of `s` without the blanks at its ends, and something
is left. -/
structure Trimmed (s t : String) : Prop where
  nonempty : t ≠ ""
  ends : ∃ before after, (∀ c ∈ before, isBlank c = true) ∧ (∀ c ∈ after, isBlank c = true)
    ∧ s.toList = before ++ t.toList ++ after
  head : ∀ c ∈ t.toList.head?, isBlank c = false
  last : ∀ c ∈ t.toList.getLast?, isBlank c = false

theorem trimStartChars_of_not_isBlank {c : Char} (h : isBlank c = false) (cs : List Char) :
    trimStartChars (c :: cs) = c :: cs := by
  simp [trimStartChars, h]

theorem trimStartChars_of_head? {cs : List Char} (h : ∀ c ∈ cs.head?, isBlank c = false) :
    trimStartChars cs = cs := by
  cases cs with
  | nil => rfl
  | cons c cs => exact trimStartChars_of_not_isBlank (h c rfl) cs

theorem isBlank_of_head?_trimStartChars (cs : List Char) :
    ∀ c ∈ (trimStartChars cs).head?, isBlank c = false := by
  intro c hc
  have hhead := List.head?_dropWhile_not isBlank cs
  rw [trimStartChars] at hc
  rw [Option.mem_def.mp hc] at hhead
  exact hhead

/-- From the end it is the same text backwards. -/
theorem trimEndChars_eq (cs : List Char) :
    trimEndChars cs = (trimStartChars cs.reverse).reverse :=
  rfl

theorem trimEndChars_append {core after : List Char} (hafter : ∀ c ∈ after, isBlank c = true)
    (hlast : ∀ c ∈ core.getLast?, isBlank c = false) : trimEndChars (core ++ after) = core := by
  rw [List.getLast?_eq_head?_reverse] at hlast
  rw [trimEndChars_eq, List.reverse_append, trimStartChars,
    List.dropWhile_append_of_pos fun c hc => hafter c (List.mem_reverse.mp hc), ← trimStartChars,
    trimStartChars_of_head? hlast, List.reverse_reverse]

theorem trimEndChars_prefix (cs : List Char) : trimEndChars cs <+: cs := by
  have hsuffix : trimStartChars cs.reverse <:+ cs.reverse := List.dropWhile_suffix _
  simpa only [trimEndChars_eq, List.reverse_reverse] using List.reverse_prefix.mpr hsuffix

/-- Blanks around a text that neither begins nor ends with one are taken off. -/
theorem trim_between {before core after : List Char} (hbefore : ∀ c ∈ before, isBlank c = true)
    (hafter : ∀ c ∈ after, isBlank c = true) (hne : core ≠ [])
    (hhead : ∀ c ∈ core.head?, isBlank c = false)
    (hlast : ∀ c ∈ core.getLast?, isBlank c = false) :
    trimEndChars (trimStartChars (before ++ core ++ after)) = core := by
  have hstart : trimStartChars (before ++ core ++ after) = core ++ after := by
    obtain ⟨c, cs, rfl⟩ := List.exists_cons_of_ne_nil hne
    rw [List.append_assoc, trimStartChars, List.dropWhile_append_of_pos hbefore]
    exact trimStartChars_of_not_isBlank (hhead c rfl) (cs ++ after)
  rw [hstart, trimEndChars_append hafter hlast]

/-- Every text is what trimming leaves of it, between blanks. -/
theorem exists_blanks (cs : List Char) :
    ∃ before after, (∀ c ∈ before, isBlank c = true) ∧ (∀ c ∈ after, isBlank c = true)
      ∧ cs = before ++ trimEndChars (trimStartChars cs) ++ after := by
  have hblank : ∀ ds : List Char, ∀ c ∈ ds.takeWhile isBlank, isBlank c = true :=
    fun ds => List.all_eq_true.mp List.all_takeWhile
  let rest := trimStartChars cs
  refine ⟨cs.takeWhile isBlank, (rest.reverse.takeWhile isBlank).reverse, hblank cs,
    fun c hc => hblank _ c (List.mem_reverse.mp hc), ?_⟩
  have hrest : trimEndChars rest ++ (rest.reverse.takeWhile isBlank).reverse = rest := by
    rw [trimEndChars, ← List.reverse_append, List.takeWhile_append_dropWhile, List.reverse_reverse]
  rw [List.append_assoc, hrest]
  exact List.takeWhile_append_dropWhile.symm

/-! ## A trimmed text that may be missing -/

theorem nonblank?_eq_none_iff (s : String) : nonblank? s = none ↔ Blank s := by
  have htrim : nonblank? s = none ↔ trimEndChars (trimStartChars s.toList) = [] := by
    unfold nonblank? trim
    rw [← String.ofList_eq_empty_iff]
    simp only [ite_eq_left_iff, reduceCtorEq, imp_false, Decidable.not_not]
  rw [htrim, trimEndChars, List.reverse_eq_nil_iff, List.dropWhile_eq_nil_iff]
  -- nothing is left from the end exactly if nothing was left from the start
  constructor
  · intro h c hc
    rw [← List.takeWhile_append_dropWhile (p := isBlank) (l := s.toList)] at hc
    rcases List.mem_append.mp hc with hstart | hrest
    · exact List.mem_takeWhile_imp hstart
    · exact h c (List.mem_reverse.mpr hrest)
  · intro h c hc
    exact h c ((List.dropWhile_sublist _).subset (List.mem_reverse.mp hc))

theorem trimmed_trim {s : String} (h : trim s ≠ "") : Trimmed s (trim s) where
  nonempty := h
  ends := by
    rw [trim, String.toList_ofList]
    exact exists_blanks s.toList
  head c hc := by
    rw [trim, String.toList_ofList] at hc
    obtain ⟨rest, hrest⟩ := trimEndChars_prefix (trimStartChars s.toList)
    refine isBlank_of_head?_trimStartChars s.toList c ?_
    rw [← hrest, List.head?_append, Option.mem_def.mp hc]
    rfl
  last c hc := by
    rw [trim, String.toList_ofList, trimEndChars_eq, List.getLast?_reverse] at hc
    exact isBlank_of_head?_trimStartChars _ c hc

theorem nonblank?_eq_some_iff {s t : String} : nonblank? s = some t ↔ Trimmed s t := by
  constructor
  · intro h
    rw [nonblank?] at h
    split at h
    · cases h
    · rename_i hne
      obtain rfl := Option.some.inj h
      exact trimmed_trim hne
  · rintro ⟨hne, ⟨before, after, hbefore, hafter, hs⟩, hhead, hlast⟩
    have hchars : t.toList ≠ [] := fun hnil => hne (String.toList_eq_nil_iff.mp hnil)
    have htrim : trim s = t := by
      rw [trim, hs, trim_between hbefore hafter hchars hhead hlast, String.ofList_toList]
    rw [nonblank?, htrim]
    exact if_neg hne

end TeamConsole.Text
