import TeamConsole.Json.Reader

/-!
# The grammar of JSON texts

A JSON text is read by two machines, one over characters and one over tokens. This module says
without them which texts there are and what each of them says.

* **`Lexes`**: a text as tokens with blanks between them. A word goes on as far as it can.
* **`Value`**: the tokens of a value, one rule for each form of it.
* **`tokens?_eq_some_iff`**, **`ofTokens?_eq_some_iff`**: each machine reads what its rules allow
  and nothing else, in both directions by the text that is still to come.
* **`ofString?_eq_some_iff`**: the headline, that a text has a value exactly if the rules spell it.
-/

namespace TeamConsole.Json

/-! ## Texts as tokens -/

def isSpace (c : Char) : Bool :=
  c = ' ' || c = '\t' || c = '\n' || c = '\r'

/-- The token that a character is by itself. -/
def mark? : Char → Option Token
  | '[' => some .openArray
  | ']' => some .closeArray
  | '\x7b' => some .openObject
  | '\x7d' => some .closeObject
  | ':' => some .colon
  | ',' => some .comma
  | _ => none

/-- What stands between the quotes of a string, and its parts. -/
inductive Inside : List Char → List StringPart → Prop
  | nil : Inside [] []
  | plain {c : Char} {cs : List Char} {ps : List StringPart} (hquote : c ≠ '"')
      (hescape : c ≠ '\\') (hcontrol : ¬ c.toNat < 0x20) (hrest : Inside cs ps) :
      Inside (c :: cs) (.piece (some c) :: ps)
  | escape {e c : Char} {cs : List Char} {ps : List StringPart} (hunit : e ≠ 'u')
      (hletter : simpleEscape? e = some c) (hrest : Inside cs ps) :
      Inside ('\\' :: e :: cs) (.piece (some c) :: ps)
  | unit {a b c d : Char} {w x y z : Nat} {cs : List Char} {ps : List StringPart}
      (ha : Text.hexDigit? a = some w) (hb : Text.hexDigit? b = some x)
      (hc : Text.hexDigit? c = some y) (hd : Text.hexDigit? d = some z) (hrest : Inside cs ps) :
      Inside ('\\' :: 'u' :: a :: b :: c :: d :: cs)
        (.unit (16 * (16 * (16 * w + x) + y) + z) :: ps)

/-- No character follows that would belong to a word before it. -/
def EndsWord (cs : List Char) : Prop :=
  ∀ c ∈ cs.head?, isWordChar c = false

/-- The tokens of a text. -/
inductive Lexes : List Char → List Token → Prop
  | nil : Lexes [] []
  | space {c : Char} {cs : List Char} {ts : List Token} (hc : isSpace c = true)
      (hrest : Lexes cs ts) : Lexes (c :: cs) ts
  | mark {c : Char} {t : Token} {cs : List Char} {ts : List Token} (hc : mark? c = some t)
      (hrest : Lexes cs ts) : Lexes (c :: cs) (t :: ts)
  | word {w : List Char} {t : Token} {cs : List Char} {ts : List Token} (hne : w ≠ [])
      (hw : ∀ c ∈ w, isWordChar c = true) (ht : Token.ofWord? w = some t) (hend : EndsWord cs)
      (hrest : Lexes cs ts) : Lexes (w ++ cs) (t :: ts)
  | string {body : List Char} {ps : List StringPart} {cs : List Char} {ts : List Token}
      (hbody : Inside body ps) (hrest : Lexes cs ts) :
      Lexes ('"' :: (body ++ '"' :: cs)) (.string ((assemble ps).map String.ofList) :: ts)

/-! ## The scanner -/

/-- The tokens of a text whose beginning brought the scanner where it stands. -/
def scan (s : Scan × List Token) (cs : List Char) : Option (List Token) :=
  (cs.map some).foldlM Scan.step? s >>= Scan.finish?

theorem scan_cons (s : Scan × List Token) (c : Char) (cs : List Char) :
    scan s (c :: cs) = Scan.step? s (some c) >>= fun s => scan s cs := by
  simp only [scan, List.map_cons, List.foldlM_cons, bind_assoc]

theorem not_isWordChar_of_isSpace {c : Char} (h : isSpace c = true) : isWordChar c = false := by
  simp only [isSpace, Bool.or_eq_true, decide_eq_true_eq] at h
  rcases h with ((rfl | rfl) | rfl) | rfl <;> decide

theorem not_isWordChar_of_mark {c : Char} {t : Token} (h : mark? c = some t) :
    isWordChar c = false := by
  unfold mark? at h
  split at h
  all_goals first | rfl | cases h

theorem start?_space {c : Char} (h : isSpace c = true) (ts : List Token) :
    Scan.start? ts c = some (.between, ts) := by
  simp only [isSpace, Bool.or_eq_true, decide_eq_true_eq] at h
  rcases h with ((rfl | rfl) | rfl) | rfl <;> rfl

theorem start?_mark {c : Char} {t : Token} (h : mark? c = some t) (ts : List Token) :
    Scan.start? ts c = some (.between, t :: ts) := by
  unfold mark? at h
  split at h
  all_goals first | (cases h; rfl) | cases h

theorem start?_word {c : Char} (h : isWordChar c = true) (ts : List Token) :
    Scan.start? ts c = some (.word [c], ts) := by
  unfold Scan.start?
  split
  all_goals first | (rw [if_pos h]) | (exact absurd h (by decide))

/-- Between tokens the scanner takes a blank, a mark, a quote or the beginning of a word. -/
theorem start?_cases {ts : List Token} {c : Char} {s : Scan × List Token}
    (h : Scan.start? ts c = some s) :
    isSpace c = true ∧ s = (.between, ts)
      ∨ (∃ t, mark? c = some t ∧ s = (.between, t :: ts))
      ∨ c = '"' ∧ s = (.string [], ts)
      ∨ isWordChar c = true ∧ s = (.word [c], ts) := by
  by_cases hspace : isSpace c = true
  · rw [start?_space hspace] at h
    exact Or.inl ⟨hspace, (Option.some.inj h).symm⟩
  cases hmark : mark? c with
  | some t =>
    rw [start?_mark hmark] at h
    exact Or.inr (Or.inl ⟨t, rfl, (Option.some.inj h).symm⟩)
  | none =>
    by_cases hword : isWordChar c = true
    · rw [start?_word hword] at h
      exact Or.inr (Or.inr (Or.inr ⟨hword, (Option.some.inj h).symm⟩))
    by_cases hquote : c = '"'
    · rw [hquote] at h
      exact Or.inr (Or.inr (Or.inl ⟨hquote, (Option.some.inj h).symm⟩))
    · -- nothing begins with any other character
      unfold Scan.start? at h
      split at h
      all_goals first
        | exact absurd rfl hspace
        | exact absurd rfl hquote
        | exact absurd hmark (Option.some_ne_none _)
        | (rw [if_neg hword] at h; cases h)

/-- A word goes on to the first character that is none of its own, or to the end. -/
theorem scan_word {w cs : List Char} (hw : ∀ c ∈ w, isWordChar c = true) (hend : EndsWord cs)
    (chars : List Char) (acc : List Token) :
    scan (.word chars, acc) (w ++ cs) =
      Token.ofWord? (chars.reverse ++ w) >>= fun t => scan (.between, t :: acc) cs := by
  induction w generalizing chars with
  | nil =>
    rw [List.nil_append, List.append_nil]
    cases cs with
    | nil => cases h : Token.ofWord? chars.reverse <;> simp [scan, Scan.finish?, h]
    | cons c cs =>
      have hc : isWordChar c = false := hend c rfl
      cases h : Token.ofWord? chars.reverse <;> simp [scan_cons, Scan.step?, hc, h]
  | cons c w ih =>
    have hc : isWordChar c = true := hw c List.mem_cons_self
    have hstep : scan (.word chars, acc) (c :: (w ++ cs))
        = scan (.word (c :: chars), acc) (w ++ cs) := by simp [scan_cons, Scan.step?, hc]
    rw [List.cons_append, hstep, ih (fun d hd => hw d (List.mem_cons_of_mem c hd))]
    simp

theorem scan_inside {body : List Char} {ps : List StringPart} (hbody : Inside body ps)
    (parts : List StringPart) (acc : List Token) (cs : List Char) :
    scan (.string parts, acc) (body ++ '"' :: cs) =
      scan (.between, .string ((assemble (parts.reverse ++ ps)).map String.ofList) :: acc) cs := by
  induction hbody generalizing parts with
  | nil => simp [scan_cons, Scan.step?]
  | plain hquote hescape hcontrol _ ih =>
    simp [scan_cons, Scan.step?, hquote, hescape, hcontrol, ih]
  | escape hunit hletter _ ih =>
    simp [scan_cons, Scan.step?, hunit, hletter, ih]
  | unit ha hb hc hd _ ih =>
    simp [scan_cons, Scan.step?, ha, hb, hc, hd, ih]

theorem unit_of_scan {parts : List StringPart} {acc ts : List Token} {n v : Nat} {cs : List Char}
    (h : scan (.unit parts n v, acc) cs = some ts) :
    ∃ c d rest, cs = c :: rest ∧ Text.hexDigit? c = some d
      ∧ scan (if n = 3 then .string (.unit (16 * v + d) :: parts)
          else .unit parts (n + 1) (16 * v + d), acc) rest = some ts := by
  cases cs with
  | nil => simp [scan, Scan.finish?] at h
  | cons c rest =>
    rw [scan_cons] at h
    cases hd : Text.hexDigit? c with
    | none => simp [Scan.step?, hd] at h
    | some d =>
      refine ⟨c, d, rest, rfl, hd, ?_⟩
      by_cases hn : n = 3
      · simpa [Scan.step?, hd, hn] using h
      · simpa [Scan.step?, hd, hn] using h

/-- After a backslash come the characters of one part. -/
theorem escape_of_scan {parts : List StringPart} {acc ts : List Token} {cs : List Char}
    (h : scan (.escape parts, acc) cs = some ts) :
    ∃ part letters rest, cs = letters ++ rest
      ∧ scan (.string (part :: parts), acc) rest = some ts
      ∧ ∀ body ps, Inside body ps → Inside ('\\' :: (letters ++ body)) (part :: ps) := by
  cases cs with
  | nil => simp [scan, Scan.finish?] at h
  | cons e cs =>
    by_cases hunit : e = 'u'
    · -- four digits follow
      have hdigits : scan (.unit parts 0 0, acc) cs = some ts := by
        simpa [scan_cons, Scan.step?, hunit] using h
      obtain ⟨a, w, _, rfl, ha, h₁⟩ := unit_of_scan hdigits
      obtain ⟨b, x, _, rfl, hb, h₂⟩ := unit_of_scan h₁
      obtain ⟨c, y, _, rfl, hc, h₃⟩ := unit_of_scan h₂
      obtain ⟨d, z, rest, rfl, hd, h₄⟩ := unit_of_scan h₃
      refine ⟨.unit (16 * (16 * (16 * w + x) + y) + z), ['u', a, b, c, d], rest, by rw [hunit]; rfl,
        by simpa using h₄, fun body ps hbody => .unit ha hb hc hd hbody⟩
    · cases hletter : simpleEscape? e with
      | none => simp [scan_cons, Scan.step?, hunit, hletter] at h
      | some c =>
        refine ⟨.piece (some c), [e], cs, rfl, ?_, fun body ps hbody => .escape hunit hletter hbody⟩
        simpa [scan_cons, Scan.step?, hunit, hletter] using h

/-- In a string the scanner needs a quote, with the inside of a string before it. -/
theorem inside_of_scan {parts : List StringPart} {acc ts : List Token} {cs : List Char}
    (h : scan (.string parts, acc) cs = some ts) :
    ∃ body ps rest, Inside body ps ∧ cs = body ++ '"' :: rest := by
  -- by the length of the text, since an escape takes several characters
  induction hn : cs.length using Nat.strongRecOn generalizing parts cs with
  | ind n ih =>
    cases cs with
    | nil => simp [scan, Scan.finish?] at h
    | cons c cs =>
      rw [List.length_cons] at hn
      by_cases hquote : c = '"'
      · exact ⟨[], [], cs, .nil, by rw [hquote]; rfl⟩
      by_cases hescape : c = '\\'
      · have hletters : scan (.escape parts, acc) cs = some ts := by
          simpa [scan_cons, Scan.step?, hescape] using h
        obtain ⟨part, letters, tail, hcs, htail, hinside⟩ := escape_of_scan hletters
        have hlen : tail.length < n := by
          rw [← hn, hcs, List.length_append]
          omega
        obtain ⟨body, ps, rest, hbody, hrest⟩ := ih _ hlen htail rfl
        exact ⟨_, _, rest, hinside body ps hbody, by rw [hescape, hcs, hrest]; simp⟩
      · by_cases hcontrol : c.toNat < 0x20
        · simp [scan_cons, Scan.step?, hquote, hescape, hcontrol] at h
        · have htail : scan (.string (.piece (some c) :: parts), acc) cs = some ts := by
            simpa [scan_cons, Scan.step?, hquote, hescape, hcontrol] using h
          obtain ⟨body, ps, rest, hbody, hrest⟩ := ih _ (by omega) htail rfl
          exact ⟨_, _, rest, .plain hquote hescape hcontrol hbody, by rw [hrest]; rfl⟩

theorem scan_of_lexes {cs : List Char} {ts : List Token} (h : Lexes cs ts) (acc : List Token) :
    scan (.between, acc) cs = some (acc.reverse ++ ts) := by
  induction h generalizing acc with
  | nil => simp [scan, Scan.finish?]
  | space hc _ ih => simp [scan_cons, Scan.step?, start?_space hc, ih]
  | mark hc _ ih => simp [scan_cons, Scan.step?, start?_mark hc, ih]
  | @word w t cs ts hne hw ht hend _ ih =>
    cases w with
    | nil => exact absurd rfl hne
    | cons c w =>
      have hc : isWordChar c = true := hw c List.mem_cons_self
      have hrest := scan_word (fun d hd => hw d (List.mem_cons_of_mem c hd)) hend [c] acc
      simp only [List.reverse_cons, List.reverse_nil, List.nil_append, List.singleton_append,
        ht] at hrest
      rw [List.cons_append, scan_cons]
      simp [Scan.step?, start?_word hc, hrest, ih]
  | string hbody _ ih =>
    rw [scan_cons]
    simp [Scan.step?, Scan.start?, scan_inside hbody, ih]

theorem lexes_of_scan {acc r : List Token} {cs : List Char}
    (h : scan (.between, acc) cs = some r) : ∃ ts, Lexes cs ts := by
  induction hn : cs.length using Nat.strongRecOn generalizing acc cs with
  | ind n ih =>
    cases cs with
    | nil => exact ⟨[], .nil⟩
    | cons c cs =>
      rw [List.length_cons] at hn
      rw [scan_cons] at h
      obtain ⟨s, hs, h⟩ := Option.bind_eq_some_iff.mp h
      rcases start?_cases hs with ⟨hc, rfl⟩ | ⟨t, hc, rfl⟩ | ⟨rfl, rfl⟩ | ⟨hc, rfl⟩
      · -- a blank
        obtain ⟨ts, hts⟩ := ih _ (by omega) h rfl
        exact ⟨ts, .space hc hts⟩
      · -- a mark
        obtain ⟨ts, hts⟩ := ih _ (by omega) h rfl
        exact ⟨t :: ts, .mark hc hts⟩
      · -- a string
        obtain ⟨body, ps, rest, hbody, rfl⟩ := inside_of_scan h
        rw [scan_inside hbody] at h
        rw [List.length_append, List.length_cons] at hn
        obtain ⟨ts, hts⟩ := ih _ (by omega) h rfl
        exact ⟨_ :: ts, .string hbody hts⟩
      · -- a word, which goes on as far as its characters do
        have hw : ∀ d ∈ cs.takeWhile isWordChar, isWordChar d = true :=
          List.all_eq_true.mp List.all_takeWhile
        have hend : EndsWord (cs.dropWhile isWordChar) := by
          intro d hd
          have hhead := List.head?_dropWhile_not isWordChar cs
          rw [Option.mem_def.mp hd] at hhead
          simpa using hhead
        have hcs : cs.takeWhile isWordChar ++ cs.dropWhile isWordChar = cs :=
          List.takeWhile_append_dropWhile
        rw [← hcs, scan_word hw hend] at h
        obtain ⟨t, ht, h⟩ := Option.bind_eq_some_iff.mp h
        have hlen : (cs.dropWhile isWordChar).length < n := by
          have hle := (List.dropWhile_sublist isWordChar (l := cs)).length_le
          omega
        obtain ⟨ts, hts⟩ := ih _ hlen h rfl
        refine ⟨t :: ts, ?_⟩
        rw [← hcs]
        exact .word (List.cons_ne_nil c _) (List.forall_mem_cons.mpr ⟨hc, hw⟩) ht hend hts

/-- **Texts as tokens.** -/
theorem tokens?_eq_some_iff {cs : List Char} {ts : List Token} :
    tokens? (cs.map some) = some ts ↔ Lexes cs ts := by
  constructor
  · intro h
    obtain ⟨ts', hts⟩ := lexes_of_scan h
    have hscan := scan_of_lexes hts []
    cases h.symm.trans hscan
    exact hts
  · exact fun h => scan_of_lexes h []

/-! ## Tokens as values -/

/-- An item of an array: its tokens and its value. -/
abbrev Item := List Token × Json

/-- The tokens of items, with commas between them. -/
def itemTokens (items : List Item) : List Token :=
  [Token.comma].intercalate (items.map Prod.fst)

theorem itemTokens_one (i : Item) : itemTokens [i] = i.1 := by
  simp [itemTokens]

theorem itemTokens_more (i j : Item) (items : List Item) :
    itemTokens (i :: j :: items) = i.1 ++ .comma :: itemTokens (j :: items) := by
  simp [itemTokens, List.intercalate_cons_cons]

/-- A member of an object: its name, and the tokens and the value under it. -/
abbrev Member := Option String × Item

def Member.tokens (m : Member) : List Token :=
  .string m.1 :: .colon :: m.2.1

/-- The tokens of members, with commas between them. -/
def memberTokens (members : List Member) : List Token :=
  [Token.comma].intercalate (members.map Member.tokens)

theorem memberTokens_one (m : Member) : memberTokens [m] = m.tokens := by
  simp [memberTokens]

theorem memberTokens_more (m n : Member) (members : List Member) :
    memberTokens (m :: n :: members) = m.tokens ++ .comma :: memberTokens (n :: members) := by
  simp [memberTokens, List.intercalate_cons_cons]

/-- The tokens of a value. -/
inductive Value : List Token → Json → Prop
  | scalar (v : Json) : Value [.scalar v] v
  | text (s : String) : Value [.string (some s)] (.str s)
  | noText : Value [.string none] .unreadable
  | array {items : List Item} (h : ∀ i ∈ items, Value i.1 i.2) :
      Value (.openArray :: (itemTokens items ++ [.closeArray])) (.arr (items.map Prod.snd))
  | object {members : List Member} (h : ∀ m ∈ members, Value m.2.1 m.2.2) :
      Value (.openObject :: (memberTokens members ++ [.closeObject]))
        (objectOf (members.map fun m => (m.1, m.2.2)).reverse)

/-! ## The reader -/

namespace Reader

/-- The value of tokens whose beginning brought the reader where it stands. -/
def read (r : Reader) (ts : List Token) : Option Json :=
  ts.foldlM step? r >>= finish?

theorem read_cons (r : Reader) (t : Token) (ts : List Token) :
    read r (t :: ts) = step? r t >>= fun r => read r ts := by
  simp only [read, List.foldlM_cons, bind_assoc]

/-- Tokens that are read as one value, whatever follows. -/
def Reads (ts : List Token) (j : Json) : Prop :=
  ∀ frames rest, read (.value frames) (ts ++ rest) = read (.settled j frames) rest

/-- After an opening bracket any token but a closing one begins the first item. -/
theorem read_opened {t : Token} (h : t ≠ .closeArray) (frames : List Frame) (ts : List Token) :
    read (.opened frames) (t :: ts) = read (.value (.array [] :: frames)) (t :: ts) := by
  rw [read_cons, read_cons]
  cases t <;> first | rfl | exact absurd rfl h

theorem read_items {item : Item} {items : List Item}
    (h : ∀ i ∈ item :: items, Reads i.1 i.2) (done : List Json) (frames : List Frame)
    (rest : List Token) :
    read (.value (.array done :: frames)) (itemTokens (item :: items) ++ .closeArray :: rest) =
      read (.settled (.arr (done.reverse ++ (item :: items).map Prod.snd)) frames) rest := by
  induction items generalizing item done with
  | nil =>
    have hitem := h item List.mem_cons_self
    rw [itemTokens_one, hitem, read_cons]
    simp [step?]
  | cons next items ih =>
    have hitem := h item List.mem_cons_self
    have hmore := ih (fun i hi => h i (List.mem_cons_of_mem _ hi)) (item.2 :: done)
    rw [itemTokens_more, List.append_assoc, List.cons_append, hitem, read_cons]
    simp [step?, hmore]

theorem read_named {m : Member} (h : Reads m.2.1 m.2.2) (done : List (Option String × Json))
    (frames : List Frame) (rest : List Token) :
    read (.member done frames) (m.tokens ++ rest) =
      read (.settled m.2.2 (.object m.1 done :: frames)) rest := by
  rw [← h]
  rfl

theorem read_members {member : Member} {members : List Member}
    (h : ∀ m ∈ member :: members, Reads m.2.1 m.2.2) (done : List (Option String × Json))
    (frames : List Frame) (rest : List Token) :
    read (.member done frames) (memberTokens (member :: members) ++ .closeObject :: rest) =
      read (.settled (objectOf (((member :: members).map fun m => (m.1, m.2.2)).reverse ++ done))
        frames) rest := by
  induction members generalizing member done with
  | nil =>
    rw [memberTokens_one, read_named (h member List.mem_cons_self), read_cons]
    rfl
  | cons next members ih =>
    have hmore := ih (fun m hm => h m (List.mem_cons_of_mem _ hm)) ((member.1, member.2.2) :: done)
    rw [memberTokens_more, List.append_assoc, List.cons_append,
      read_named (h member List.mem_cons_self), read_cons]
    simp [step?, hmore]

theorem head_of_value {ts : List Token} {j : Json} (h : Value ts j) :
    ∃ t us, ts = t :: us ∧ t ≠ .closeArray := by
  cases h <;> exact ⟨_, _, rfl, Token.noConfusion⟩

theorem reads_of_value {ts : List Token} {j : Json} (h : Value ts j) : Reads ts j := by
  induction h with
  | scalar v => exact fun _ _ => rfl
  | text s => exact fun _ _ => rfl
  | noText => exact fun _ _ => rfl
  | @array items hitems ih =>
    intro frames rest
    cases items with
    | nil => rfl
    | cons item items =>
      have hread := read_items ih [] frames rest
      -- an item does not begin with the closing bracket, so the array is not taken for empty
      obtain ⟨t, us, hhead, ht⟩ := head_of_value (hitems item List.mem_cons_self)
      have hopened : read (.opened frames) (itemTokens (item :: items) ++ .closeArray :: rest)
          = read (.value (.array [] :: frames))
              (itemTokens (item :: items) ++ .closeArray :: rest) := by
        cases items <;>
          simp only [itemTokens_one, itemTokens_more, hhead, List.cons_append, read_opened ht]
      rw [← hopened] at hread
      rw [List.cons_append, List.append_assoc]
      exact hread
  | @object members hmembers ih =>
    intro frames rest
    cases members with
    | nil => rfl
    | cons member members =>
      have hread := read_members ih [] frames rest
      rw [List.append_nil] at hread
      have hopened : read (.openedObject frames)
            (memberTokens (member :: members) ++ .closeObject :: rest)
          = read (.member [] frames) (memberTokens (member :: members) ++ .closeObject :: rest) := by
        cases members <;> simp only [memberTokens_one, memberTokens_more] <;> rfl
      rw [← hopened] at hread
      rw [List.cons_append, List.append_assoc]
      exact hread

/-- If these tokens are read where a value has to come, they begin with one. -/
def BeginsWithValue (ts : List Token) : Prop :=
  ∀ frames j, read (.value frames) ts = some j → ∃ us v rest, Value us v ∧ ts = us ++ rest

/-- Where an item has to come, what is read begins with items and a closing bracket. -/
theorem items_of_read {n : Nat} (hvalue : ∀ us : List Token, us.length ≤ n → BeginsWithValue us)
    {done : List Json} {frames : List Frame} {ts : List Token} {j : Json} (hn : ts.length ≤ n)
    (h : read (.value (.array done :: frames)) ts = some j) :
    ∃ item items rest, (∀ i ∈ item :: items, Value i.1 i.2)
      ∧ ts = itemTokens (item :: items) ++ .closeArray :: rest := by
  induction hlen : ts.length using Nat.strongRecOn generalizing ts done with
  | ind k ih =>
    -- one item, and after a comma there are fewer tokens left for the others
    obtain ⟨us, v, rest, hv, rfl⟩ := hvalue ts hn _ _ h
    rw [reads_of_value hv] at h
    cases rest with
    | nil => cases h
    | cons t rest =>
      rw [List.length_append, List.length_cons] at hn hlen
      rw [read_cons] at h
      cases t with
      | comma =>
        obtain ⟨item, items, rest, hall, rfl⟩ := ih _ (by omega) (by omega) h rfl
        refine ⟨(us, v), item :: items, rest, List.forall_mem_cons.mpr ⟨hv, hall⟩, ?_⟩
        rw [itemTokens_more, List.append_assoc]
        rfl
      | closeArray =>
        refine ⟨(us, v), [], rest, List.forall_mem_singleton.mpr hv, ?_⟩
        rw [itemTokens_one]
      | _ => cases h

/-- Where a member has to come, what is read begins with members and a closing brace. -/
theorem members_of_read {n : Nat} (hvalue : ∀ us : List Token, us.length ≤ n → BeginsWithValue us)
    {done : List (Option String × Json)} {frames : List Frame} {ts : List Token} {j : Json}
    (hn : ts.length ≤ n) (h : read (.member done frames) ts = some j) :
    ∃ member members rest, (∀ m ∈ member :: members, Value m.2.1 m.2.2)
      ∧ ts = memberTokens (member :: members) ++ .closeObject :: rest := by
  induction hlen : ts.length using Nat.strongRecOn generalizing ts done with
  | ind k ih =>
    have hname : ∃ name us, ts = .string name :: .colon :: us
        ∧ read (.value (.object name done :: frames)) us = some j := by
      match ts, h with
      | .string name :: .colon :: us, h => exact ⟨name, us, rfl, h⟩
    clear h
    obtain ⟨name, ts, rfl, h⟩ := hname
    simp only [List.length_cons] at hn hlen
    obtain ⟨us, v, rest, hv, rfl⟩ := hvalue ts (by omega) _ _ h
    rw [reads_of_value hv] at h
    cases rest with
    | nil => cases h
    | cons t rest =>
      rw [List.length_append, List.length_cons] at hn hlen
      rw [read_cons] at h
      cases t with
      | comma =>
        obtain ⟨member, members, rest, hall, rfl⟩ := ih _ (by omega) (by omega) h rfl
        refine ⟨(name, us, v), member :: members, rest, List.forall_mem_cons.mpr ⟨hv, hall⟩, ?_⟩
        rw [memberTokens_more, List.append_assoc]
        rfl
      | closeObject =>
        refine ⟨(name, us, v), [], rest, List.forall_mem_singleton.mpr hv, ?_⟩
        rw [memberTokens_one]
        rfl
      | _ => cases h

theorem value_of_read (ts : List Token) : BeginsWithValue ts := by
  induction hn : ts.length using Nat.strongRecOn generalizing ts with
  | ind n ih =>
    intro frames j h
    cases ts with
    | nil => cases h
    | cons t ts =>
      rw [List.length_cons] at hn
      -- within brackets there are fewer tokens, so for them it is known
      have hshorter : ∀ us : List Token, us.length ≤ ts.length → BeginsWithValue us :=
        fun us hus => ih us.length (by omega) us rfl
      rw [read_cons] at h
      cases t with
      | scalar v => exact ⟨_, v, ts, .scalar v, rfl⟩
      | string s =>
        cases s with
        | none => exact ⟨_, _, ts, .noText, rfl⟩
        | some s => exact ⟨_, _, ts, .text s, rfl⟩
      | openArray =>
        cases ts with
        | nil => cases h
        | cons t ts =>
          by_cases ht : t = .closeArray
          · exact ⟨_, _, ts, @Value.array [] (by simp), by rw [ht]; rfl⟩
          · have hitem : read (.value (.array [] :: frames)) (t :: ts) = some j := by
              rw [← read_opened ht]
              exact h
            obtain ⟨item, items, rest, hall, hts⟩ := items_of_read hshorter (Nat.le_refl _) hitem
            exact ⟨_, _, rest, .array hall, by rw [hts]; simp⟩
      | openObject =>
        cases ts with
        | nil => cases h
        | cons t ts =>
          by_cases ht : t = .closeObject
          · exact ⟨_, _, ts, @Value.object [] (by simp), by rw [ht]; rfl⟩
          · have hmember : read (.member [] frames) (t :: ts) = some j := by
              cases t <;> first | exact h | exact absurd rfl ht
            obtain ⟨member, members, rest, hall, hts⟩ :=
              members_of_read hshorter (Nat.le_refl _) hmember
            exact ⟨_, _, rest, .object hall, by rw [hts]; simp⟩
      | _ => cases h

end Reader

/-- **Tokens as values.** -/
theorem ofTokens?_eq_some_iff {ts : List Token} {j : Json} :
    ofTokens? ts = some j ↔ Value ts j := by
  constructor
  · intro h
    obtain ⟨us, v, rest, hv, rfl⟩ := Reader.value_of_read ts [] j h
    have hrest : Reader.read (.settled v []) rest = some j := by
      rw [← Reader.reads_of_value hv]
      exact h
    cases rest with
    | nil =>
      cases hrest
      rw [List.append_nil]
      exact hv
    | cons t rest => cases hrest
  · intro h
    have hread := Reader.reads_of_value h [] []
    rw [List.append_nil] at hread
    exact hread

/-- The text is a value with blanks around and within it. -/
def Spells (cs : List Char) (j : Json) : Prop :=
  ∃ ts, Lexes cs ts ∧ Value ts j

/-- **The values of texts.** A text is read exactly if the rules spell it, and then as what they
say. -/
theorem ofString?_eq_some_iff {s : String} {j : Json} :
    ofString? s = some j ↔ Spells s.toList j := by
  unfold ofString?
  rw [Option.bind_eq_bind, Option.bind_eq_some_iff]
  exact exists_congr fun ts => and_congr tokens?_eq_some_iff ofTokens?_eq_some_iff

end TeamConsole.Json
