import Mathlib.Data.List.Forall2
import TeamConsole.Text.Blank
import TeamConsole.Text.Split
import TeamConsole.Url.Percent

/-!
# Texts that are read back

What goes into a request is written in layers: numbers as digits, characters as bytes, bytes
behind percent signs, parts between slashes. Each layer can be read back, so two requests that
read alike were written from the same values.

* **`integer_injective`**: the digits of a number tell the number.
* **`decode?_encode`**: the bytes of a text are read as the text.
* **`percentDecode_encode`**: what was percent-encoded decodes to its bytes, provided that percent
  signs are encoded too.
* **`splitOn_flatMap_cons`**: parts that hold no separator are told apart by it.
-/

namespace TeamConsole

/-- All items of a list are read exactly if each of them is. -/
theorem mapM_eq_some_iff {α β : Type} {f : α → Option β} {xs : List α} {ys : List β} :
    xs.mapM f = some ys ↔ List.Forall₂ (fun x y => f x = some y) xs ys := by
  induction xs generalizing ys with
  | nil => cases ys <;> simp
  | cons x xs ih =>
    cases ys with
    | nil => simp [List.mapM_cons, Option.bind_eq_some_iff]
    | cons y ys => simp [List.mapM_cons, Option.bind_eq_some_iff, ih]

namespace Text

/-! ## Numbers -/

theorem natural_injective {m n : Nat} (h : natural m = natural n) : m = n := by
  have hdigits : Nat.toDigits 10 m = Nat.toDigits 10 n := String.ofList_inj.mp h
  rw [← Nat.ofDigitChars_ten_toDigits (n := m), hdigits, Nat.ofDigitChars_ten_toDigits]

theorem isDigit_of_mem_natural {n : Nat} {c : Char} (h : c ∈ (natural n).toList) :
    c.isDigit = true := by
  rw [natural, String.toList_ofList] at h
  exact Nat.isDigit_of_mem_toDigits (by omega) (by omega) h

/-- No digit is a minus sign, so a negative number is not written like another. -/
theorem natural_ne_minus (n m : Nat) : natural n ≠ "-" ++ natural m := by
  intro h
  have hmem : '-' ∈ (natural n).toList := by
    rw [h, String.toList_append]
    exact List.mem_append_left _ (by decide)
  exact absurd (isDigit_of_mem_natural hmem) (by decide)

theorem integer_injective {i j : Int} (h : integer i = integer j) : i = j := by
  unfold integer at h
  by_cases hi : i < 0 <;> by_cases hj : j < 0
  · rw [if_pos hi, if_pos hj] at h
    have habs := natural_injective (String.append_right_inj _ |>.mp h)
    omega
  · rw [if_pos hi, if_neg hj] at h
    exact absurd h.symm (natural_ne_minus _ _)
  · rw [if_neg hi, if_pos hj] at h
    exact absurd h (natural_ne_minus _ _)
  · rw [if_neg hi, if_neg hj] at h
    have habs := natural_injective h
    omega

theorem mem_integer {i : Int} {c : Char} (h : c ∈ (integer i).toList) :
    c = '-' ∨ c.isDigit = true := by
  unfold integer at h
  split at h
  · rw [String.toList_append] at h
    rcases List.mem_append.mp h with hsign | hdigit
    · exact Or.inl (List.mem_singleton.mp hsign)
    · exact Or.inr (isDigit_of_mem_natural hdigit)
  · exact Or.inr (isDigit_of_mem_natural h)

theorem digit?_eq_some_iff {c : Char} {d : Nat} :
    digit? c = some d ↔ c.isDigit = true ∧ c.toNat - '0'.toNat = d := by
  simp [digit?, Char.isDigit, Char.le_def]

/-- Digits, and nothing else, are read as the number that they spell. -/
theorem natural?_eq_some_iff {cs : List Char} {n : Nat} :
    natural? cs = some n ↔
      cs ≠ [] ∧ (∀ c ∈ cs, c.isDigit = true) ∧ Nat.ofDigitChars 10 cs 0 = n := by
  have hread : ∀ ds, cs.mapM digit? = some ds ↔
      (∀ c ∈ cs, c.isDigit = true) ∧ cs.map (fun c => c.toNat - '0'.toNat) = ds := by
    intro ds
    simp only [mapM_eq_some_iff, digit?_eq_some_iff]
    rw [List.forall₂_and_left, ← List.forall₂_map_left_iff (R := Eq), List.forall₂_eq_eq_eq]
  have hvalue : ofDigits 10 (cs.map fun c => c.toNat - '0'.toNat) = Nat.ofDigitChars 10 cs 0 := by
    rw [ofDigits, Nat.ofDigitChars, List.foldl_map]
  unfold natural?
  by_cases hempty : cs = []
  · simp [hempty]
  · rw [if_neg (by simpa using hempty), Option.map_eq_some_iff]
    constructor
    · rintro ⟨ds, hds, rfl⟩
      obtain ⟨hdigits, rfl⟩ := (hread ds).mp hds
      exact ⟨hempty, hdigits, hvalue.symm⟩
    · rintro ⟨_, hdigits, rfl⟩
      exact ⟨_, (hread _).mpr ⟨hdigits, rfl⟩, hvalue⟩

theorem range_of_isDigit {c : Char} (h : c.isDigit = true) : 48 ≤ c.toNat ∧ c.toNat ≤ 57 := by
  simpa [Char.isDigit, Char.le_def, UInt32.le_iff_toNat_le] using h

theorem not_isBlank_of_isDigit {c : Char} (h : c.isDigit = true) : isBlank c = false := by
  have hrange := range_of_isDigit h
  simp only [isBlank, blankRanges, List.any_cons, List.any_nil, Bool.or_false,
    Bool.or_eq_false_iff, decide_eq_false_iff_not]
  omega

theorem natural?_toDigits (n : Nat) : natural? (Nat.toDigits 10 n) = some n := by
  have hdigits : ∀ c ∈ Nat.toDigits 10 n, c.isDigit = true := fun c hc =>
    Nat.isDigit_of_mem_toDigits (by omega) (by omega) hc
  exact natural?_eq_some_iff.mpr
    ⟨Nat.toDigits_ne_nil, hdigits, Nat.ofDigitChars_ten_toDigits⟩

/-! ## Parts -/

/-- A part without the separator is split off whole. -/
theorem splitOn_append_cons {sep : Char} {part : List Char} (h : sep ∉ part) (rest : List Char) :
    splitOn sep (part ++ sep :: rest) = part :: splitOn sep rest := by
  induction part with
  | nil => exact splitOn_cons_self sep rest
  | cons c part ih =>
    have hc : c ≠ sep := fun hc => h (hc ▸ List.mem_cons_self)
    have hrest := ih fun hmem => h (List.mem_cons_of_mem _ hmem)
    show splitStep sep c (splitOn sep (part ++ sep :: rest)) = _
    rw [hrest, splitStep, if_neg hc]

theorem splitOn_of_not_mem {sep : Char} {part : List Char} (h : sep ∉ part) :
    splitOn sep part = [part] := by
  induction part with
  | nil => rfl
  | cons c part ih =>
    have hc : c ≠ sep := fun hc => h (hc ▸ List.mem_cons_self)
    have hrest := ih fun hmem => h (List.mem_cons_of_mem _ hmem)
    show splitStep sep c (splitOn sep part) = _
    rw [hrest, splitStep, if_neg hc]

/-- **Parts are told apart.** Of parts each after a separator, none of which holds it, the
separator gives back the parts. -/
theorem splitOn_flatMap_cons {sep : Char} {parts : List (List Char)}
    (h : ∀ part ∈ parts, sep ∉ part) :
    splitOn sep (parts.flatMap (sep :: ·)) = [] :: parts := by
  -- by the part before, which starts out empty
  suffices hpart : ∀ part, sep ∉ part →
      splitOn sep (part ++ parts.flatMap (sep :: ·)) = part :: parts from
    hpart [] List.not_mem_nil
  induction parts with
  | nil =>
    intro part hpart
    rw [List.flatMap_nil, List.append_nil]
    exact splitOn_of_not_mem hpart
  | cons next parts ih =>
    intro part hpart
    obtain ⟨hnext, hrest⟩ := List.forall_mem_cons.mp h
    rw [List.flatMap_cons, List.cons_append, splitOn_append_cons hpart, ih hrest next hnext]

/-! ## Characters as bytes

The reader is a machine over bytes; the bytes of one character take it from any state between two
characters to the next one. -/

namespace Utf8

/-- The numbers of characters are those of UTF-8, without the surrogates. -/
theorem toNat_cases (c : Char) :
    c.val.toNat < 0xD800 ∨ 0xDFFF < c.val.toNat ∧ c.val.toNat < 0x110000 :=
  c.valid

theorem start_ascii (ps : List Piece) {n : Nat} (h : n < 0x80) :
    Reading.start ps (UInt8.ofNat n) = ⟨some (Char.ofNat n) :: ps, none⟩ := by
  have hn : (UInt8.ofNat n).toNat = n := by
    rw [UInt8.toNat_ofNat']
    omega
  have hlt : UInt8.ofNat n < 0x80 := by
    rw [UInt8.lt_iff_toNat_lt, hn]
    exact h
  rw [Reading.start, if_pos hlt, hn]

theorem start_lead (ps : List Piece) {b : UInt8} {more bits low high : Nat}
    (h : lead? b = some ⟨more, bits, low, high⟩) :
    Reading.start ps b = ⟨ps, some ⟨more, bits, low, high⟩⟩ := by
  have hlarge : ¬ b < 0x80 := by
    intro hlt
    rw [UInt8.lt_iff_toNat_lt] at hlt
    have hsmall : b.toNat < 0xC2 := Nat.lt_trans hlt (by decide)
    rw [lead?] at h
    simp [hsmall] at h
  rw [Reading.start, if_neg hlarge, h]

/-- A byte in the range that is expected adds its bits. -/
theorem step_within (ps : List Piece) {more bits low high n : Nat} (hlow : low ≤ 0x80 + n)
    (hhigh : 0x80 + n ≤ high) (hn : n < 64) :
    Reading.step ⟨ps, some ⟨more, bits, low, high⟩⟩ (UInt8.ofNat (n + 0x80)) =
      if more ≤ 1 then ⟨some (Char.ofNat (bits * 64 + n)) :: ps, none⟩
      else ⟨ps, some ⟨more - 1, bits * 64 + n, 0x80, 0xBF⟩⟩ := by
  have hb : (UInt8.ofNat (n + 0x80)).toNat = 0x80 + n := by
    rw [UInt8.toNat_ofNat']
    omega
  have hbits : bits * 64 + (0x80 + n - 0x80) = bits * 64 + n := by omega
  rw [Reading.step]
  simp only [hb, hlow, hhigh, and_self, if_true, hbits]

/-- Any byte that goes on is expected after the second one. -/
theorem step_next (ps : List Piece) (more bits : Nat) {n : Nat} (hn : n < 64) :
    Reading.step ⟨ps, some ⟨more + 2, bits, 0x80, 0xBF⟩⟩ (UInt8.ofNat (n + 0x80)) =
      ⟨ps, some ⟨more + 1, bits * 64 + n, 0x80, 0xBF⟩⟩ := by
  rw [step_within ps (Nat.le_add_right _ _) (by omega) hn, if_neg (by omega)]
  rfl

theorem step_last (ps : List Piece) (bits : Nat) {n : Nat} (hn : n < 64) :
    Reading.step ⟨ps, some ⟨1, bits, 0x80, 0xBF⟩⟩ (UInt8.ofNat (n + 0x80)) =
      ⟨some (Char.ofNat (bits * 64 + n)) :: ps, none⟩ := by
  rw [step_within ps (Nat.le_add_right _ _) (by omega) hn, if_pos (Nat.le_refl 1)]

theorem lead?_two {n : Nat} (hlow : 2 ≤ n) (hhigh : n < 32) :
    lead? (UInt8.ofNat (n + 0xC0)) = some ⟨1, n, 0x80, 0xBF⟩ := by
  have hb : (UInt8.ofNat (n + 0xC0)).toNat = n + 0xC0 := by
    rw [UInt8.toNat_ofNat']
    omega
  simp only [lead?, hb]
  rw [if_neg (by omega), if_pos (by omega), Nat.add_sub_cancel]

/-- The first byte of three leaves room for the second, as no character is a surrogate and none
is spelled longer than needed. -/
theorem lead?_three {n k : Nat} (hn : n < 16) (hk : k < 64) (hlong : 0x800 ≤ n * 4096 + k * 64 + 63)
    (hchar : n * 4096 + k * 64 < 0xD800 ∨ 0xDFFF < n * 4096 + k * 64 + 63) :
    ∃ low high, lead? (UInt8.ofNat (n + 0xE0)) = some ⟨2, n, low, high⟩
      ∧ low ≤ 0x80 + k ∧ 0x80 + k ≤ high := by
  have hb : (UInt8.ofNat (n + 0xE0)).toNat = n + 0xE0 := by
    rw [UInt8.toNat_ofNat']
    omega
  simp only [lead?, hb]
  rw [if_neg (by omega), if_neg (by omega)]
  by_cases hzero : n = 0
  · rw [if_pos (by omega), hzero]
    exact ⟨_, _, rfl, by omega, by omega⟩
  · rw [if_neg (by omega)]
    by_cases hd : n = 0xD
    · rw [if_pos (by omega), hd]
      exact ⟨_, _, rfl, by omega, by omega⟩
    · rw [if_neg (by omega), if_pos (by omega), Nat.add_sub_cancel]
      exact ⟨_, _, rfl, by omega, by omega⟩

theorem lead?_four {n k : Nat} (hk : k < 64) (hlong : 0x10000 ≤ n * 262144 + k * 4096 + 4095)
    (hlast : n * 262144 + k * 4096 < 0x110000) :
    ∃ low high, lead? (UInt8.ofNat (n + 0xF0)) = some ⟨3, n, low, high⟩
      ∧ low ≤ 0x80 + k ∧ 0x80 + k ≤ high := by
  have hb : (UInt8.ofNat (n + 0xF0)).toNat = n + 0xF0 := by
    rw [UInt8.toNat_ofNat']
    omega
  simp only [lead?, hb]
  rw [if_neg (by omega), if_neg (by omega), if_neg (by omega), if_neg (by omega),
    if_neg (by omega)]
  by_cases hzero : n = 0
  · rw [if_pos (by omega), hzero]
    exact ⟨_, _, rfl, by omega, by omega⟩
  · rw [if_neg (by omega)]
    by_cases hfour : n = 4
    · rw [if_neg (by omega), if_pos (by omega), hfour]
      exact ⟨_, _, rfl, by omega, by omega⟩
    · rw [if_pos (by omega), Nat.add_sub_cancel]
      exact ⟨_, _, rfl, by omega, by omega⟩

/-- **One character.** Its bytes are read as the character. -/
theorem foldl_step_utf8EncodeChar (c : Char) (ps : List Piece) :
    (String.utf8EncodeChar c).foldl Reading.step ⟨ps, none⟩ = ⟨some c :: ps, none⟩ := by
  have hchar := toNat_cases c
  have hc : Char.ofNat c.val.toNat = c := Char.ofNat_toNat c
  unfold String.utf8EncodeChar
  generalize c.val.toNat = v at hchar hc ⊢
  simp only
  split
  · -- one byte
    show Reading.start ps (UInt8.ofNat v) = _
    rw [start_ascii ps (by omega), hc]
  split
  · -- two bytes
    have hlead := lead?_two (n := v / 64 % 32) (by omega) (by omega)
    have hbits : v / 64 % 32 * 64 + v % 64 = v := by omega
    show Reading.step (Reading.start ps _) _ = _
    rw [start_lead ps hlead, step_last ps _ (by omega), hbits, hc]
  split
  · -- three bytes
    obtain ⟨low, high, hlead, hlow, hhigh⟩ := lead?_three (n := v / 4096 % 16) (k := v / 64 % 64)
      (by omega) (by omega) (by omega) (by omega)
    have hbits : (v / 4096 % 16 * 64 + v / 64 % 64) * 64 + v % 64 = v := by omega
    show Reading.step (Reading.step (Reading.start ps _) _) _ = _
    rw [start_lead ps hlead, step_within ps hlow hhigh (by omega), if_neg (by omega),
      step_last ps _ (by omega), hbits, hc]
  · -- four bytes
    obtain ⟨low, high, hlead, hlow, hhigh⟩ := lead?_four (n := v / 262144 % 8)
      (k := v / 4096 % 64) (by omega) (by omega) (by omega)
    have hbits : ((v / 262144 % 8 * 64 + v / 4096 % 64) * 64 + v / 64 % 64) * 64 + v % 64 = v := by
      omega
    show Reading.step (Reading.step (Reading.step (Reading.start ps _) _) _) _ = _
    rw [start_lead ps hlead, step_within ps hlow hhigh (by omega), if_neg (by omega),
      step_next ps 0 _ (by omega), step_last ps _ (by omega), hbits, hc]

theorem foldl_step_encodeChars (cs : List Char) (ps : List Piece) :
    (encodeChars cs).foldl Reading.step ⟨ps, none⟩ = ⟨(cs.map some).reverse ++ ps, none⟩ := by
  induction cs generalizing ps with
  | nil => rfl
  | cons c cs ih =>
    have hcons : encodeChars (c :: cs) = String.utf8EncodeChar c ++ encodeChars cs := rfl
    rw [hcons, List.foldl_append, foldl_step_utf8EncodeChar, ih]
    simp

theorem pieces_encodeChars (cs : List Char) : pieces (encodeChars cs) = cs.map some := by
  rw [pieces, foldl_step_encodeChars, Reading.finish, List.append_nil, List.reverse_reverse]

theorem decode?_encodeChars (cs : List Char) :
    decode? (encodeChars cs) = some (String.ofList cs) := by
  have hread : (cs.map some).mapM id = some cs := by
    rw [List.mapM_map, show id ∘ some = fun c : Char => (pure (id c) : Option Char) from rfl,
      List.mapM_pure, List.map_id]
    rfl
  rw [decode?, pieces_encodeChars, hread]
  rfl

/-- **Bytes are read back.** -/
theorem decode?_encode (s : String) : decode? (encode s) = some s := by
  rw [encode, decode?_encodeChars, String.ofList_toList]

theorem decodeLossy_encode (s : String) : decodeLossy (encode s) = s := by
  have hchars : (s.toList.map some).map (·.getD '\uFFFD') = s.toList := by
    rw [List.map_map, show (·.getD '\uFFFD') ∘ some = @id Char from rfl, List.map_id]
  rw [decodeLossy, encode, pieces_encodeChars, hchars, String.ofList_toList]

theorem encodeChars_injective {cs cs' : List Char} (h : encodeChars cs = encodeChars cs') :
    cs = cs' := by
  have hread := congrArg decode? h
  rw [decode?_encodeChars, decode?_encodeChars] at hread
  exact String.ofList_inj.mp (Option.some.inj hread)

end Utf8

end Text

/-! ## Bytes behind percent signs -/

namespace Url

open Text (hexDigit hexDigit?)

theorem hexDigit?_hexDigit {n : Nat} (h : n < 16) : hexDigit? (hexDigit 'A' n) = some n := by
  have hall : ∀ k : Fin 16, hexDigit? (hexDigit 'A' k) = some k.val := by decide
  exact hall ⟨n, h⟩

theorem percentDecode_percentByte (b : UInt8) (rest : List Char) :
    percentDecode (percentByte b ++ rest) = b :: percentDecode rest := by
  have hb : b.toNat < 256 := b.toNat_lt
  have hvalue : UInt8.ofNat (16 * (b.toNat / 16) + b.toNat % 16) = b := by
    rw [Nat.div_add_mod, UInt8.ofNat_toNat]
  show percentDecode ('%' :: hexDigit 'A' (b.toNat / 16) :: hexDigit 'A' (b.toNat % 16) :: rest) = _
  rw [percentDecode]
  simp only [hexDigit?_hexDigit (n := b.toNat / 16) (by omega),
    hexDigit?_hexDigit (n := b.toNat % 16) (by omega), hvalue]

theorem percentDecode_percentBytes (bytes : List UInt8) (rest : List Char) :
    percentDecode (bytes.flatMap percentByte ++ rest) = bytes ++ percentDecode rest := by
  induction bytes with
  | nil => rfl
  | cons b bytes ih =>
    rw [List.flatMap_cons, List.append_assoc, percentDecode_percentByte, ih, List.cons_append]

theorem percentDecode_cons {c : Char} (h : c ≠ '%') (rest : List Char) :
    percentDecode (c :: rest) = String.utf8EncodeChar c ++ percentDecode rest := by
  rw [percentDecode]
  exact fun _ _ _ hc => absurd hc h

namespace EncodeSet

theorem percentDecode_encodeChar {s : EncodeSet} (hs : '%' ∈ s.special) (c : Char)
    (rest : List Char) :
    percentDecode (s.encodeChar c ++ rest) = String.utf8EncodeChar c ++ percentDecode rest := by
  unfold encodeChar
  split
  · exact percentDecode_percentBytes _ rest
  · rename_i hplain
    refine percentDecode_cons ?_ rest
    rintro rfl
    simp [encodes, hs] at hplain

/-- **What was percent-encoded decodes to its bytes**, if percent signs are encoded too. -/
theorem percentDecode_encode {s : EncodeSet} (hs : '%' ∈ s.special) (cs : List Char) :
    percentDecode (s.encode cs) = Text.Utf8.encodeChars cs := by
  induction cs with
  | nil => rfl
  | cons c cs ih =>
    have hcons : s.encode (c :: cs) = s.encodeChar c ++ s.encode cs := rfl
    rw [hcons, percentDecode_encodeChar hs, ih]
    rfl

/-- An encoded text holds characters that may stand by themselves, percent signs and digits. -/
theorem mem_encode {s : EncodeSet} {cs : List Char} {c : Char} (h : c ∈ s.encode cs) :
    s.encodes c = false ∨ c = '%' ∨ ∃ n < 16, c = hexDigit 'A' n := by
  obtain ⟨d, _, hd⟩ := List.mem_flatMap.mp h
  unfold encodeChar at hd
  split at hd
  · obtain ⟨b, _, hb⟩ := List.mem_flatMap.mp hd
    have hlt : b.toNat < 256 := b.toNat_lt
    simp only [percentByte, List.mem_cons, List.not_mem_nil, or_false] at hb
    rcases hb with rfl | rfl | rfl
    · exact Or.inr (Or.inl rfl)
    · exact Or.inr (Or.inr ⟨_, by omega, rfl⟩)
    · exact Or.inr (Or.inr ⟨_, by omega, rfl⟩)
  · rename_i hplain
    cases List.mem_singleton.mp hd
    exact Or.inl (Bool.eq_false_iff.mpr hplain)

end EncodeSet

end Url

end TeamConsole
