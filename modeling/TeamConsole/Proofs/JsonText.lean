import Mathlib.Data.Option.Basic
import TeamConsole.Json.Printer
import TeamConsole.Proofs.JsonGrammar
import TeamConsole.Proofs.ReadBack

/-!
# The texts of values

A value is written on one line or with one item a line, and both texts spell it in the grammar.
They differ only in the blanks between tokens, so each form of a value is treated once, for any
blanks.

* **`ofWord?_integer`**: the digits of a number that fits are a word that is read as the number.
* **`inside_escapeChar`**: an escaped character is one part of a string.
* **`Begins`**: a text that has its tokens whatever comes after it.
* **`ofString?_compact`**, **`ofString?_pretty`**: the headlines.
-/

namespace TeamConsole.Json

/-! ## Numbers -/

theorem spanDigits_of_mapM {cs : List Char} {ds : List Nat} (h : cs.mapM Text.digit? = some ds) :
    spanDigits cs = (ds, []) := by
  rw [mapM_eq_some_iff] at h
  induction h with
  | nil => rfl
  | cons hc _ ih => simp only [spanDigits, hc, ih]

theorem le_foldl_digits (ds : List Nat) (n : Nat) : n ≤ ds.foldl (fun n d => 10 * n + d) n := by
  induction ds generalizing n with
  | nil => exact Nat.le_refl n
  | cons d ds ih =>
    have hstep : 10 * n + d ≤ (d :: ds).foldl (fun n d => 10 * n + d) n := ih _
    omega

/-- Digits are absorbed as long as their number fits. -/
theorem absorb_eq {ds : List Nat} {n : Nat}
    (h : ds.foldl (fun n d => 10 * n + d) n < Nat.pow 2 64) :
    absorb n ds = (ds.foldl (fun n d => 10 * n + d) n, []) := by
  induction ds generalizing n with
  | nil => rfl
  | cons d ds ih =>
    have hfits : 10 * n + d < Nat.pow 2 64 := Nat.lt_of_le_of_lt (le_foldl_digits ds _) h
    rw [absorb, if_pos hfits]
    exact ih h

theorem head?_toDigits {n : Nat} (h : 0 < n) : (Nat.toDigits 10 n).head? ≠ some '0' := by
  induction n using Nat.strongRecOn with
  | ind n ih =>
    rw [Nat.toDigits_eq_if (by decide)]
    split
    · rename_i hsmall
      have hnone : ∀ d : Fin 10, 0 < d.val → d.val.digitChar ≠ '0' := by decide
      simpa using hnone ⟨n, hsmall⟩ h
    · rename_i hlarge
      rw [List.head?_append_of_ne_nil _ Nat.toDigits_ne_nil]
      exact ih (n / 10) (by omega) (by omega)

/-- The digits of a number, as values; no zero stands before another digit. -/
theorem exists_digits (n : Nat) : ∃ ds, (Nat.toDigits 10 n).mapM Text.digit? = some ds
    ∧ ds.foldl (fun n d => 10 * n + d) 0 = n ∧ ds ≠ [] ∧ (ds.head? = some 0 → ds.length = 1) := by
  have hread := Text.natural?_toDigits n
  rw [Text.natural?, if_neg (by simp [Nat.toDigits_ne_nil])] at hread
  obtain ⟨ds, hds, hvalue⟩ := Option.map_eq_some_iff.mp hread
  have hmatch := mapM_eq_some_iff.mp hds
  refine ⟨ds, hds, hvalue, ?_, fun hzero => ?_⟩
  · rintro rfl
    exact Nat.toDigits_ne_nil (List.forall₂_nil_right_iff.mp hmatch)
  · rw [← hmatch.length_eq]
    by_cases hn : n = 0
    · rw [hn]
      rfl
    · -- a first digit of value zero is the character zero
      refine absurd ?_ (head?_toDigits (Nat.pos_of_ne_zero hn))
      generalize Nat.toDigits 10 n = cs at hmatch
      cases hmatch with
      | nil => cases hzero
      | @cons c d cs ds hc _ =>
        cases hzero
        obtain ⟨hdigit, hval⟩ := Text.digit?_eq_some_iff.mp hc
        have hrange := Text.range_of_isDigit hdigit
        have hcode : c.toNat = '0'.toNat := by
          have hzero : '0'.toNat = 48 := rfl
          omega
        rw [List.head?_cons, Char.toNat_inj.mp hcode]

theorem numeral_natural (n : Nat) : ∃ ds, Numeral.ofWord? (Nat.toDigits 10 n)
      = some ⟨false, ds, none, none⟩
    ∧ Numeral.ofWord? ('-' :: Nat.toDigits 10 n) = some ⟨true, ds, none, none⟩
    ∧ ds.foldl (fun n d => 10 * n + d) 0 = n := by
  obtain ⟨ds, hds, hvalue, hne, hzero⟩ := exists_digits n
  have hspan := spanDigits_of_mapM hds
  have hsign : ∀ cs, Nat.toDigits 10 n ≠ '-' :: cs := by
    intro cs hcs
    have hminus : '-' ∈ Nat.toDigits 10 n := hcs ▸ List.mem_cons_self
    exact absurd (Nat.isDigit_of_mem_toDigits (by omega) (by omega) hminus) (by decide)
  -- no zero stands before another digit, so the word is a number
  have hguard : ds ≠ [] ∧ (ds.head? = some 0 → ds.length = 1) := ⟨hne, hzero⟩
  refine ⟨ds, ?_, ?_, hvalue⟩
  · unfold Numeral.ofWord?
    split
    rename_i negative cs hcs
    split at hcs
    · rename_i heq
      exact absurd heq (hsign _)
    · cases hcs
      simp only [hspan, guard, if_pos hguard]
      rfl
  · simp only [Numeral.ofWord?, hspan, guard, if_pos hguard]
    rfl

theorem ofWord?_of_numeral {word : List Char} {n : Numeral} {v : Number}
    (h : Numeral.ofWord? word = some n) (hv : n.value? = some v) :
    Token.ofWord? word = some (.scalar (.num v)) := by
  unfold Token.ofWord?
  split
  · rename_i hword
    rw [hword] at h
    cases h
  split
  · rename_i hword
    rw [hword] at h
    cases h
  split
  · rename_i hword
    rw [hword] at h
    cases h
  · rw [h]
    simp only [Option.map_some, hv]

/-- The integer has 64 bits, with or without sign. -/
def Fits (i : Int) : Prop :=
  Text.int64Range.1 ≤ i ∧ i ≤ Text.nat64Range.2

theorem value?_plain {ds : List Nat} {n : Nat} (h : absorb 0 ds = (n, [])) :
    Numeral.value? ⟨false, ds, none, none⟩ = some (.int n) := by
  simp [Numeral.value?, h]

theorem value?_minus {ds : List Nat} {n : Nat} (h : absorb 0 ds = (n, []))
    (hrange : 0 < n ∧ n ≤ Nat.pow 2 63) :
    Numeral.value? ⟨true, ds, none, none⟩ = some (.int (-n)) := by
  simp [Numeral.value?, h, hrange]

/-- **Integers are read back.** -/
theorem ofWord?_integer {i : Int} (h : Fits i) :
    Token.ofWord? (Text.integer i).toList = some (.scalar (int i)) := by
  obtain ⟨ds, hplain, hminus, hvalue⟩ := numeral_natural i.natAbs
  obtain ⟨hlow, hhigh⟩ : -9223372036854775808 ≤ i ∧ i ≤ 18446744073709551615 := h
  have hpow : Nat.pow 2 64 = 18446744073709551616 ∧ Nat.pow 2 63 = 9223372036854775808 := by decide
  -- within 64 bits all digits are absorbed
  have habsorb : absorb 0 ds = (i.natAbs, []) := by
    rw [absorb_eq (by rw [hvalue, hpow.1]; omega), hvalue]
  unfold Text.integer
  split
  · rename_i hneg
    have htext : ("-" ++ Text.natural i.natAbs).toList = '-' :: Nat.toDigits 10 i.natAbs := by
      simp [Text.natural]
    have hrange : 0 < i.natAbs ∧ i.natAbs ≤ Nat.pow 2 63 := by
      rw [hpow.2]
      omega
    have hint : -(i.natAbs : Int) = i := by omega
    have hnumber := value?_minus habsorb hrange
    rw [hint] at hnumber
    rw [htext]
    exact ofWord?_of_numeral hminus hnumber
  · rename_i hpos
    have hint : (i.natAbs : Int) = i := by omega
    have hnumber := value?_plain habsorb
    rw [hint] at hnumber
    rw [Text.natural, String.toList_ofList]
    exact ofWord?_of_numeral hplain hnumber

theorem isWordChar_integer {i : Int} {c : Char} (h : c ∈ (Text.integer i).toList) :
    isWordChar c = true := by
  rcases Text.mem_integer h with rfl | hdigit
  · rfl
  · simp [isWordChar, Char.isAlphanum, hdigit]

/-! ## Strings -/

theorem hexDigit?_hexDigit {n : Nat} (h : n < 16) :
    Text.hexDigit? (Text.hexDigit 'a' n) = some n := by
  have hall : ∀ k : Fin 16, Text.hexDigit? (Text.hexDigit 'a' k) = some k.val := by decide
  exact hall ⟨n, h⟩

/-- **One character** is one part of a string, which stands for the character. -/
theorem inside_escapeChar (c : Char) : ∃ part, (∀ cs ps, Inside cs ps →
      Inside (escapeChar c ++ cs) (part :: ps))
    ∧ ∀ ps, assemble (part :: ps) = (assemble ps).map (c :: ·) := by
  have hescape : ∀ e : Char, e ≠ 'u' → simpleEscape? e = some c → ∃ part,
      (∀ cs ps, Inside cs ps → Inside (['\\', e] ++ cs) (part :: ps))
        ∧ ∀ ps, assemble (part :: ps) = (assemble ps).map (c :: ·) :=
    fun e hunit hletter =>
      ⟨.piece (some c), fun _ _ h => .escape hunit hletter h, fun _ => rfl⟩
  unfold escapeChar
  split
  · exact hescape '"' (by decide) rfl
  · exact hescape '\\' (by decide) rfl
  · exact hescape 'b' (by decide) rfl
  · exact hescape 'f' (by decide) rfl
  · exact hescape 'n' (by decide) rfl
  · exact hescape 'r' (by decide) rfl
  · exact hescape 't' (by decide) rfl
  · rename_i hquote hbackslash _ _ _ _ _
    split
    · -- a control character is a unit
      rename_i hcontrol
      have hvalue : 16 * (16 * (16 * 0 + 0) + c.toNat / 16) + c.toNat % 16 = c.toNat := by omega
      refine ⟨.unit c.toNat, fun cs ps h => ?_, fun ps => ?_⟩
      · have hunit := Inside.unit (a := '0') (b := '0') (w := 0) (x := 0) rfl rfl
          (hexDigit?_hexDigit (n := c.toNat / 16) (by omega))
          (hexDigit?_hexDigit (n := c.toNat % 16) (by omega)) h
        rw [hvalue] at hunit
        exact hunit
      · conv_lhs => unfold assemble
        simp only [if_pos (show c.toNat < 0xD800 ∨ 0xDFFF < c.toNat by omega), Char.ofNat_toNat]
    · rename_i hcontrol
      exact ⟨.piece (some c), fun _ _ h => .plain hquote hbackslash hcontrol h, fun _ => rfl⟩

theorem inside_escaped (cs : List Char) :
    ∃ ps, Inside (cs.flatMap escapeChar) ps ∧ assemble ps = some cs := by
  induction cs with
  | nil => exact ⟨[], .nil, rfl⟩
  | cons c cs ih =>
    obtain ⟨ps, hps, hcs⟩ := ih
    obtain ⟨part, hinside, hpart⟩ := inside_escapeChar c
    refine ⟨part :: ps, ?_, ?_⟩
    · rw [List.flatMap_cons]
      exact hinside _ _ hps
    · rw [hpart, hcs]
      rfl

/-- A quoted text is a string token, whatever comes after it. -/
theorem lexes_quote (s : String) {cs : List Char} {ts : List Token} (h : Lexes cs ts) :
    Lexes ((quote s).toList ++ cs) (.string (some s) :: ts) := by
  obtain ⟨ps, hps, hs⟩ := inside_escaped s.toList
  have hstring := Lexes.string hps h
  rw [hs, Option.map_some, String.ofList_toList] at hstring
  simpa [quote] using hstring

/-! ## Values -/

/-- A text that has these tokens if no character follows that would belong to its last word. -/
def Begins (cs : List Char) (ts : List Token) : Prop :=
  ∀ rest us, EndsWord rest → Lexes rest us → Lexes (cs ++ rest) (ts ++ us)

theorem lexes_gap {gap cs : List Char} {ts : List Token} (hgap : ∀ c ∈ gap, isSpace c = true)
    (h : Lexes cs ts) : Lexes (gap ++ cs) ts := by
  induction gap with
  | nil => exact h
  | cons c gap ih =>
    obtain ⟨hc, hgap⟩ := List.forall_mem_cons.mp hgap
    exact .space hc (ih hgap)

theorem endsWord_mark {c : Char} {t : Token} (h : mark? c = some t) (cs : List Char) :
    EndsWord (c :: cs) := by
  rintro d hd
  cases hd
  exact not_isWordChar_of_mark h

theorem endsWord_gap {gap cs : List Char} (hgap : ∀ c ∈ gap, isSpace c = true)
    (h : EndsWord cs) : EndsWord (gap ++ cs) := by
  cases gap with
  | nil => exact h
  | cons c gap =>
    rintro d hd
    cases hd
    exact not_isWordChar_of_isSpace (hgap c List.mem_cons_self)

theorem begins_word {word : List Char} {t : Token} (hne : word ≠ [])
    (hword : ∀ c ∈ word, isWordChar c = true) (ht : Token.ofWord? word = some t) :
    Begins word [t] :=
  fun _ _ hend h => .word hne hword ht hend h

theorem begins_quote (s : String) : Begins (quote s).toList [.string (some s)] :=
  fun _ _ _ h => lexes_quote s h

/-- Texts with commas between them have their tokens with commas between them. -/
theorem begins_intercalate {gap : List Char} (hgap : ∀ c ∈ gap, isSpace c = true)
    {texts : List (List Char)} {tokens : List (List Token)}
    (h : List.Forall₂ Begins texts tokens) :
    Begins ((',' :: gap).intercalate texts) ([Token.comma].intercalate tokens) := by
  induction h with
  | nil => exact fun _ _ _ h => h
  | @cons cs ts texts tokens hcs htexts ih =>
    intro rest us hend hrest
    cases htexts with
    | nil =>
      rw [List.intercalate_singleton, List.intercalate_singleton]
      exact hcs _ _ hend hrest
    | cons _ _ =>
      rw [List.intercalate_cons_cons, List.intercalate_cons_cons]
      have hmore := lexes_gap hgap (ih rest us hend hrest)
      have hcomma := hcs _ _ (endsWord_mark rfl _) (.mark (c := ',') rfl hmore)
      simpa using hcomma

/-- A text between brackets has its tokens between the brackets'. -/
theorem begins_bracketed {opening closing : Char} {o c : Token} (ho : mark? opening = some o)
    (hc : mark? closing = some c) {first last cs : List Char} {ts : List Token}
    (hfirst : ∀ c ∈ first, isSpace c = true) (hlast : ∀ c ∈ last, isSpace c = true)
    (h : Begins cs ts) :
    Begins (opening :: (first ++ cs ++ last ++ [closing])) (o :: (ts ++ [c])) := by
  intro rest us _ hrest
  have hend := lexes_gap hlast (.mark hc hrest)
  have hinner := h _ _ (endsWord_gap hlast (endsWord_mark hc rest)) hend
  have hall := Lexes.mark ho (lexes_gap hfirst hinner)
  simpa using hall

/-- A text that is read as the value, as far as it goes. -/
def Written (cs : List Char) (j : Json) : Prop :=
  ∃ ts, Begins cs ts ∧ Value ts j

/-- The text of a member: its name, a colon and its value. -/
def WrittenMember (cs : List Char) (m : String × Json) : Prop :=
  ∃ gap value, (∀ c ∈ gap, isSpace c = true) ∧ cs = (quote m.1).toList ++ ':' :: (gap ++ value)
    ∧ Written value m.2

theorem written_word {word : List Char} {j : Json} (hne : word ≠ [])
    (hword : ∀ c ∈ word, isWordChar c = true) (ht : Token.ofWord? word = some (.scalar j)) :
    Written word j :=
  ⟨_, begins_word hne hword ht, .scalar j⟩

/-- Items are written with any blanks around them. -/
theorem written_array {gap first last : List Char} (hgap : ∀ c ∈ gap, isSpace c = true)
    (hfirst : ∀ c ∈ first, isSpace c = true) (hlast : ∀ c ∈ last, isSpace c = true)
    {texts : List (List Char)} {items : List Json} (h : List.Forall₂ Written texts items) :
    Written ('[' :: (first ++ (',' :: gap).intercalate texts ++ last ++ [']'])) (.arr items) := by
  -- the tokens of each item beside its value
  have hitems : ∃ its : List Item, List.Forall₂ Begins texts (its.map Prod.fst)
      ∧ (∀ i ∈ its, Value i.1 i.2) ∧ its.map Prod.snd = items := by
    induction h with
    | nil => exact ⟨[], .nil, by simp, rfl⟩
    | @cons cs j texts items hj _ ih =>
      obtain ⟨ts, hts, hvalue⟩ := hj
      obtain ⟨its, hbegin, hvalues, rfl⟩ := ih
      exact ⟨(ts, j) :: its, .cons hts hbegin, List.forall_mem_cons.mpr ⟨hvalue, hvalues⟩, rfl⟩
  obtain ⟨its, hbegin, hvalues, rfl⟩ := hitems
  exact ⟨_, begins_bracketed rfl rfl hfirst hlast (begins_intercalate hgap hbegin),
    .array hvalues⟩

theorem objectOf_some (members : List (String × Json)) :
    objectOf (members.map fun m => (some m.1, m.2)).reverse = .obj members := by
  have hread : ((members.map fun m => (some m.1, m.2)).mapM fun m : Option String × Json =>
      m.1.map (·, m.2)) = some members := by
    rw [mapM_eq_some_iff, List.forall₂_map_left_iff, List.forall₂_same]
    exact fun m _ => rfl
  unfold objectOf
  rw [List.reverse_reverse, hread]

theorem begins_member {name : String} {gap cs : List Char} {ts : List Token}
    (hgap : ∀ c ∈ gap, isSpace c = true) (h : Begins cs ts) :
    Begins ((quote name).toList ++ ':' :: (gap ++ cs)) (.string (some name) :: .colon :: ts) := by
  intro rest us hend hrest
  have hvalue := lexes_gap hgap (h rest us hend hrest)
  have hmember := lexes_quote name (.mark (c := ':') rfl hvalue)
  simpa using hmember

theorem written_object {gap first last : List Char} (hgap : ∀ c ∈ gap, isSpace c = true)
    (hfirst : ∀ c ∈ first, isSpace c = true) (hlast : ∀ c ∈ last, isSpace c = true)
    {texts : List (List Char)} {members : List (String × Json)}
    (h : List.Forall₂ WrittenMember texts members) :
    Written ('\x7b' :: (first ++ (',' :: gap).intercalate texts ++ last ++ ['\x7d']))
      (.obj members) := by
  have hmembers : ∃ ms : List Member, List.Forall₂ Begins texts (ms.map Member.tokens)
      ∧ (∀ m ∈ ms, Value m.2.1 m.2.2)
      ∧ (ms.map fun m => (m.1, m.2.2)) = members.map fun m => (some m.1, m.2) := by
    induction h with
    | nil => exact ⟨[], .nil, by simp, rfl⟩
    | @cons cs m texts members hm _ ih =>
      obtain ⟨blanks, value, hblanks, rfl, ts, hts, hvalue⟩ := hm
      obtain ⟨ms, hbegin, hvalues, hms⟩ := ih
      refine ⟨(some m.1, ts, m.2) :: ms, .cons (begins_member hblanks hts) hbegin,
        List.forall_mem_cons.mpr ⟨hvalue, hvalues⟩, ?_⟩
      rw [List.map_cons, hms]
      rfl
  obtain ⟨ms, hbegin, hvalues, hms⟩ := hmembers
  have hobject := Value.object hvalues
  rw [hms, objectOf_some] at hobject
  exact ⟨_, begins_bracketed rfl rfl hfirst hlast (begins_intercalate hgap hbegin), hobject⟩

/-- A value of which every number is an integer that fits. -/
inductive Printable : Json → Prop
  | null : Printable .null
  | bool (b : Bool) : Printable (.bool b)
  | int {i : Int} (h : Fits i) : Printable (.int i)
  | str (s : String) : Printable (.str s)
  | arr {items : List Json} (h : ∀ j ∈ items, Printable j) : Printable (.arr items)
  | obj {members : List (String × Json)} (h : ∀ m ∈ members, Printable m.2) :
      Printable (.obj members)

theorem written_int {i : Int} (h : Fits i) : Written (Text.integer i).toList (.int i) := by
  refine written_word ?_ (fun _ => isWordChar_integer) (ofWord?_integer h)
  intro hnil
  have hread := ofWord?_integer h
  rw [hnil] at hread
  cases hread

theorem written_bool (b : Bool) : Written (scalarText (.bool b)).toList (.bool b) := by
  cases b <;> exact written_word (by decide) (List.all_eq_true.mp rfl) rfl

theorem written_null : Written "null".toList .null :=
  written_word (by decide) (List.all_eq_true.mp rfl) rfl

theorem compactItems_eq_map (items : List Json) : compactItems items = items.map compact := by
  induction items with
  | nil => rfl
  | cons j items ih => rw [compactItems, ih, List.map_cons]

theorem compactMembers_eq_map (members : List (String × Json)) :
    compactMembers members = members.map fun m => quote m.1 ++ ":" ++ compact m.2 := by
  induction members with
  | nil => rfl
  | cons m members ih => rw [compactMembers, ih, List.map_cons]

theorem prettyItems_eq_map (indent : Nat) (items : List Json) :
    prettyItems indent items = items.map (pretty indent) := by
  induction items with
  | nil => rfl
  | cons j items ih => rw [prettyItems, ih, List.map_cons]

theorem prettyMembers_eq_map (indent : Nat) (members : List (String × Json)) :
    prettyMembers indent members = members.map fun m => quote m.1 ++ ": " ++ pretty indent m.2 := by
  induction members with
  | nil => rfl
  | cons m members ih => rw [prettyMembers, ih, List.map_cons]

theorem written_compact {j : Json} (h : Printable j) : Written (compact j).toList j := by
  -- there are no blanks around the marks
  have hnone : ∀ c ∈ ([] : List Char), isSpace c = true := fun _ h => nomatch h
  induction h with
  | null => exact written_null
  | bool b => exact written_bool b
  | int h => exact written_int h
  | str s => exact ⟨_, begins_quote s, .text s⟩
  | @arr items _ ih =>
    have hitems : List.Forall₂ Written (items.map fun j => (compact j).toList) items :=
      List.forall₂_map_left_iff.mpr (List.forall₂_same.mpr ih)
    have harray := written_array hnone hnone hnone hitems
    simpa [compact, compactItems_eq_map, String.toList_intercalate, Function.comp_def] using harray
  | @obj members _ ih =>
    have hmembers : List.Forall₂ WrittenMember
        (members.map fun m => (quote m.1 ++ ":" ++ compact m.2).toList) members := by
      refine List.forall₂_map_left_iff.mpr (List.forall₂_same.mpr fun m hm => ?_)
      exact ⟨[], _, by simp, by simp, ih m hm⟩
    have hobject := written_object hnone hnone hnone hmembers
    simpa [compact, compactMembers_eq_map, String.toList_intercalate, Function.comp_def]
      using hobject

/-- A block is its lines between blanks. -/
theorem toList_block (opening closing : String) (indent : Nat) (lines : List String) :
    ∃ gap first last : List Char, (∀ c ∈ gap, isSpace c = true) ∧ (∀ c ∈ first, isSpace c = true)
      ∧ (∀ c ∈ last, isSpace c = true)
      ∧ (block opening closing indent lines).toList = opening.toList ++
        (first ++ (',' :: gap).intercalate (lines.map String.toList) ++ last ++ closing.toList) := by
  have hmargin : ∀ n, ∀ c ∈ '\n' :: List.replicate (2 * n) ' ', isSpace c = true := by
    intro n c hc
    rcases List.mem_cons.mp hc with rfl | hc
    · rfl
    · rw [List.eq_of_mem_replicate hc]
      rfl
  cases lines with
  | nil => exact ⟨[], [], [], by simp, by simp, by simp, by simp [block]⟩
  | cons line lines =>
    refine ⟨_, _, _, hmargin (indent + 1), hmargin (indent + 1), hmargin indent, ?_⟩
    simp [block, String.toList_intercalate]

theorem written_pretty {j : Json} (h : Printable j) (indent : Nat) :
    Written (pretty indent j).toList j := by
  induction h generalizing indent with
  | null => exact written_null
  | bool b => exact written_bool b
  | int h => exact written_int h
  | str s => exact ⟨_, begins_quote s, .text s⟩
  | @arr items _ ih =>
    have hitems : List.Forall₂ Written
        ((items.map (pretty (indent + 1))).map String.toList) items := by
      rw [List.map_map]
      exact List.forall₂_map_left_iff.mpr (List.forall₂_same.mpr fun j hj => ih j hj (indent + 1))
    obtain ⟨gap, first, last, hgap, hfirst, hlast, htext⟩ :=
      toList_block "[" "]" indent (items.map (pretty (indent + 1)))
    rw [pretty, prettyItems_eq_map, htext]
    exact written_array hgap hfirst hlast hitems
  | @obj members _ ih =>
    have hmembers : List.Forall₂ WrittenMember ((members.map fun m =>
        quote m.1 ++ ": " ++ pretty (indent + 1) m.2).map String.toList) members := by
      rw [List.map_map]
      refine List.forall₂_map_left_iff.mpr (List.forall₂_same.mpr fun m hm => ?_)
      exact ⟨[' '], _, List.forall_mem_singleton.mpr rfl, by simp, ih m hm (indent + 1)⟩
    obtain ⟨gap, first, last, hgap, hfirst, hlast, htext⟩ :=
      toList_block "\x7b" "\x7d" indent
        (members.map fun m => quote m.1 ++ ": " ++ pretty (indent + 1) m.2)
    rw [pretty, prettyMembers_eq_map, htext]
    exact written_object hgap hfirst hlast hmembers

/-- A text that spells a value is read as it, with blanks after it or without. -/
theorem Written.ofString? {cs gap : List Char} {j : Json} (h : Written cs j)
    (hgap : ∀ c ∈ gap, isSpace c = true) : Json.ofString? (String.ofList (cs ++ gap)) = some j := by
  obtain ⟨ts, hts, hvalue⟩ := h
  have hempty : EndsWord [] := fun _ hd => by cases hd
  have hend : EndsWord (gap ++ []) := endsWord_gap hgap hempty
  have htext := hts _ _ hend (lexes_gap hgap .nil)
  rw [List.append_nil, List.append_nil] at htext
  rw [ofString?_eq_some_iff, String.toList_ofList]
  exact ⟨ts, htext, hvalue⟩

/-- **A value on one line is read back.** -/
theorem ofString?_compact {j : Json} (h : Printable j) : ofString? (compact j) = some j := by
  have hnone : ∀ c ∈ ([] : List Char), isSpace c = true := fun _ h => nomatch h
  have hread := (written_compact h).ofString? hnone
  rwa [List.append_nil, String.ofList_toList] at hread

/-- **A value with one item a line is read back**, with a line feed after it. -/
theorem ofString?_pretty {j : Json} (h : Printable j) (indent : Nat) :
    ofString? (pretty indent j ++ "\n") = some j := by
  have hfeed : ∀ c ∈ ['\n'], isSpace c = true := List.forall_mem_singleton.mpr rfl
  have hread := (written_pretty h indent).ofString? hfeed
  rwa [String.ofList_append, String.ofList_toList] at hread

end TeamConsole.Json
