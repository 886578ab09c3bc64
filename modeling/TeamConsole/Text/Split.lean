/-!
Texts in parts: between the places where a character stands, or before and after the first of
them.
-/

namespace TeamConsole.Text

/-- Puts a character before the first part, or starts a part if it is the separator. -/
def splitStep (sep c : Char) (parts : List (List Char)) : List (List Char) :=
  if c = sep then [] :: parts
  else match parts with
    | [] => [[c]]
    | part :: parts => (c :: part) :: parts

/-- The parts of a text between the places where a character stands. -/
def splitOn (sep : Char) (cs : List Char) : List (List Char) :=
  cs.foldr (splitStep sep) [[]]

/-- The part of a text before the first place where a character stands, and the part after it. -/
def cut (sep : Char) (cs : List Char) : List Char × List Char :=
  (cs.takeWhile (· ≠ sep), (cs.dropWhile (· ≠ sep)).drop 1)

/-- The words of a text, which blanks and the ends of lines part. -/
def words (text : String) : List (List Char) :=
  ((splitOn '\n' text.toList).flatMap (splitOn ' ')).filter (!·.isEmpty)

@[simp] theorem splitOn_nil (sep : Char) : splitOn sep [] = [[]] := rfl

/-- A separator starts a new part. -/
theorem splitOn_cons_self (sep : Char) (cs : List Char) :
    splitOn sep (sep :: cs) = [] :: splitOn sep cs := by
  simp [splitOn, splitStep]

/-- A text has at least one part. -/
theorem splitOn_ne_nil (sep : Char) (cs : List Char) : splitOn sep cs ≠ [] := by
  cases cs with
  | nil => simp
  | cons c cs =>
    simp only [splitOn, List.foldr_cons, splitStep]
    split
    · simp
    · split <;> simp

/-- No part holds the separator. -/
theorem not_mem_of_mem_splitOn {sep : Char} {cs part : List Char} (h : part ∈ splitOn sep cs) :
    sep ∉ part := by
  induction cs generalizing part with
  | nil => simp_all
  | cons c cs ih =>
    simp only [splitOn, List.foldr_cons] at ih h
    generalize List.foldr (splitStep sep) [[]] cs = parts at ih h
    unfold splitStep at h
    grind

/-- The parts, with separators between them, are the text. -/
theorem intercalate_splitOn (sep : Char) (cs : List Char) :
    [sep].intercalate (splitOn sep cs) = cs := by
  induction cs with
  | nil => rfl
  | cons c cs ih =>
    have h := splitOn_ne_nil sep cs
    simp only [splitOn, List.foldr_cons] at ih h ⊢
    generalize List.foldr (splitStep sep) [[]] cs = parts at ih h
    cases parts with
    | nil => exact absurd rfl h
    | cons part parts =>
      unfold splitStep
      split
      · next e => subst e; simpa [List.intercalate, List.intersperse] using ih
      · cases parts with
        | nil => simpa [List.intercalate, List.intersperse] using ih
        | cons p ps => simpa [List.intercalate, List.intersperse] using ih

end TeamConsole.Text
