import Mathlib.Algebra.Group.Nat.Defs
import Mathlib.Data.Option.Basic
import TeamConsole.Proofs.ReadBack
import TeamConsole.Proofs.Trimming
import TeamConsole.Time.Instant

/-!
# The texts of instants

An instant is read from many texts and written as one of them. What a text of that one form is
read as is stated first, without the writer; then the writer is shown to keep to the form.

* **`Rfc3339`**: date, hour, minute and second of an instant in universal time, in the form of
  RFC 3339. Second 60 is a leap second, and the fraction has three, six or nine digits.
* **`Sound`**: what every instant that was read keeps to.
* **`ofString?_rfc3339`**, **`rfc3339_write`**, **`sound_of_ofString?`**: the three lemmas from which
  the headline is put together.
* **`ofString?_write`**: the headline, that an instant is read back from its text.
-/

namespace TeamConsole

/-! ## Digits -/

namespace Text

/-- So many digits, which spell the number. -/
def Digits (width n : Nat) (cs : List Char) : Prop :=
  cs.length = width ∧ natural? cs = some n

theorem Digits.head {width n : Nat} {cs : List Char} (h : Digits width n cs) :
    ∃ c ds, cs = c :: ds ∧ c.isDigit = true := by
  obtain ⟨hne, hdigits, _⟩ := natural?_eq_some_iff.mp h.2
  obtain ⟨c, ds, rfl⟩ := List.exists_cons_of_ne_nil hne
  exact ⟨c, ds, rfl, hdigits c List.mem_cons_self⟩

theorem isSome_digit? {c : Char} : (digit? c).isSome = c.isDigit := by
  cases hdigit : c.isDigit with
  | true => rw [digit?_eq_some_iff.mpr ⟨hdigit, rfl⟩]; rfl
  | false =>
    rw [Option.isSome_eq_false_iff, Option.isNone_iff_eq_none, Option.eq_none_iff_forall_ne_some]
    intro d hd
    rw [(digit?_eq_some_iff.mp hd).1] at hdigit
    cases hdigit

theorem natural?_padded (width n : Nat) : natural? (padded width n).toList = some n := by
  have hread := natural?_eq_some_iff.mp (natural?_toDigits n)
  rw [padded, String.toList_ofList, natural?_eq_some_iff]
  refine ⟨List.append_ne_nil_of_right_ne_nil _ hread.1, fun c hc => ?_, ?_⟩
  · rcases List.mem_append.mp hc with hzero | hdigit
    · rw [List.eq_of_mem_replicate hzero]
      rfl
    · exact hread.2.1 c hdigit
  · -- zeros in front add nothing
    rw [Nat.ofDigitChars_append, Nat.ofDigitChars_replicate_zero, Nat.mul_zero]
    exact hread.2.2

theorem length_padded (width n : Nat) :
    (padded width n).toList.length = max width (Nat.toDigits 10 n).length := by
  rw [padded, String.toList_ofList, List.length_append, List.length_replicate]
  omega

theorem digits_padded {width n : Nat} (hwidth : 0 < width) (h : n < 10 ^ width) :
    Digits width n (padded width n).toList := by
  have hlen := (Nat.length_toDigits_le_iff (b := 10) (by decide) hwidth).mpr h
  exact ⟨by rw [length_padded]; omega, natural?_padded width n⟩

theorem ofDigitChars_lt {cs : List Char} (h : ∀ c ∈ cs, c.isDigit = true) (n : Nat) :
    Nat.ofDigitChars 10 cs n < (n + 1) * 10 ^ cs.length := by
  induction cs generalizing n with
  | nil => simp [Nat.ofDigitChars]
  | cons c cs ih =>
    obtain ⟨hc, hcs⟩ := List.forall_mem_cons.mp h
    have hrange := range_of_isDigit hc
    have hzero : '0'.toNat = 48 := rfl
    rw [Nat.ofDigitChars_cons, List.length_cons, Nat.pow_succ, ← Nat.mul_assoc, Nat.mul_right_comm]
    refine Nat.lt_of_lt_of_le (ih hcs _) (Nat.mul_le_mul_right _ ?_)
    omega

theorem natural?_lt {cs : List Char} {n : Nat} (h : natural? cs = some n) :
    n < 10 ^ cs.length := by
  obtain ⟨_, hdigits, rfl⟩ := natural?_eq_some_iff.mp h
  simpa using ofDigitChars_lt hdigits 0

end Text

namespace Instant

open Text (Digits natural? padded)

/-! ## The form -/

/-- A year: four digits, and a sign before year 0 and after year 9999. -/
inductive YearText : Int → List Char → Prop
  | plain {n : Nat} {cs : List Char} (h : Digits 4 n cs) : YearText n cs
  | before {n : Nat} {cs : List Char} (hlen : 4 ≤ cs.length) (h : natural? cs = some n)
      (hn : 0 < n) : YearText (-n) ('-' :: cs)
  | after {n : Nat} {cs : List Char} (hlen : 4 ≤ cs.length) (h : natural? cs = some n)
      (hn : 9999 < n) : YearText n ('+' :: cs)

/-- The nanoseconds after the start of a second: none, or a point and three, six or nine
digits. -/
inductive FractionText : Nat → List Char → Prop
  | whole : FractionText 0 []
  | digits {width n nano : Nat} {cs : List Char} (hwidth : width = 3 ∨ width = 6 ∨ width = 9)
      (h : Digits width n cs) (hnano : nano = n * 10 ^ (9 - width)) :
      FractionText nano ('.' :: cs)

/-- The instant at which a clock shows this. Second 60 is the leap second after second 59. -/
def ofClock (date : Date) (hour minute second nano : Nat) : Instant :=
  if second = 60 then ⟨date, hour * 3600 + minute * 60 + 59, 1000000000 + nano⟩
  else ⟨date, hour * 3600 + minute * 60 + second, nano⟩

/-- The text is the instant as RFC 3339 has it, in universal time. -/
inductive Rfc3339 : Instant → List Char → Prop
  | intro {date : Date} {hour minute second nano : Nat} {y mo d h mi s f : List Char}
      (hyear : YearText date.year y) (hmonth : Digits 2 date.month mo) (hday : Digits 2 date.day d)
      (hhour : Digits 2 hour h) (hminute : Digits 2 minute mi) (hsecond : Digits 2 second s)
      (hfraction : FractionText nano f) (hclock : hour < 24 ∧ minute < 60 ∧ second ≤ 60) :
      Rfc3339 (ofClock date hour minute second nano)
        (y ++ '-' :: (mo ++ '-' :: (d ++ 'T' :: (h ++ ':' :: (mi ++ ':' :: (s ++ (f ++ ['Z'])))))))

/-! ## Reading the form -/

/-- Digits are read up to the limit, or up to a character that is none. -/
theorem readNatural_append {limit n : Nat} {digits rest : List Char}
    (h : natural? digits = some n) (hlen : digits.length ≤ limit)
    (hstop : digits.length < limit → ∀ c ∈ rest.head?, c.isDigit = false) :
    readNatural limit (digits ++ rest) = some (n, rest) := by
  have hdigits := (Text.natural?_eq_some_iff.mp h).2.1
  -- after the digits either the limit is reached or no digit comes
  have htail : (rest.take (limit - digits.length)).takeWhile
      (fun c => (Text.digit? c).isSome) = [] := by
    by_cases hfull : digits.length = limit
    · rw [hfull, Nat.sub_self, List.take_zero, List.takeWhile_nil]
    · cases rest with
      | nil => simp
      | cons c rest =>
        have hc : c.isDigit = false := hstop (by omega) c rfl
        rw [List.take_cons (by omega), List.takeWhile_cons]
        simp [Text.isSome_digit?, hc]
  have hrun : ((digits ++ rest).take limit).takeWhile (fun c => (Text.digit? c).isSome) = digits := by
    rw [List.take_append, List.take_of_length_le hlen, List.takeWhile_append_of_pos, htail,
      List.append_nil]
    exact fun c hc => by rw [Text.isSome_digit?, hdigits c hc]
  simp only [readNatural, hrun, h, Option.map_some, List.drop_left]

theorem readNatural_digits {width n : Nat} {digits : List Char} (h : Digits width n digits)
    (rest : List Char) : readNatural width (digits ++ rest) = some (n, rest) :=
  readNatural_append h.2 (Nat.le_of_eq h.1) fun hlt => absurd h.1 (Nat.ne_of_lt hlt)

theorem trimStartChars_digits {width n : Nat} {digits : List Char} (h : Digits width n digits)
    (rest : List Char) : Text.trimStartChars (digits ++ rest) = digits ++ rest := by
  obtain ⟨c, ds, rfl, hc⟩ := h.head
  exact Text.trimStartChars_of_not_isBlank (Text.not_isBlank_of_isDigit hc) _

theorem readPair_digits {n : Nat} {digits : List Char} (h : Digits 2 n digits)
    (rest : List Char) : readPair (digits ++ rest) = some (n, rest) := by
  rw [readPair, trimStartChars_digits h, readNatural_digits h]

theorem readMark_cons {mark : Char} (h : Text.isBlank mark = false) (rest : List Char) :
    readMark mark (mark :: rest) = some rest := by
  rw [readMark, Text.trimStartChars_of_not_isBlank h]
  exact if_pos rfl

theorem readYear_append {year : Int} {cs : List Char} (h : YearText year cs) (rest : List Char) :
    readYear (cs ++ '-' :: rest) = some (year, '-' :: rest) := by
  have hsigned : ∀ {n : Nat} {ds : List Char}, natural? ds = some n →
      readNatural (ds ++ '-' :: rest).length (ds ++ '-' :: rest) = some (n, '-' :: rest) := by
    intro n ds hds
    refine readNatural_append hds (by simp) fun _ c hc => ?_
    cases hc
    rfl
  cases h with
  | before hlen h hn =>
    rw [List.cons_append, readYear, Text.trimStartChars_of_not_isBlank (by decide)]
    simp only [hsigned h, Option.map_some]
  | after hlen h hn =>
    rw [List.cons_append, readYear, Text.trimStartChars_of_not_isBlank (by decide)]
    simp only [hsigned h, Option.map_some]
  | plain h =>
    rw [readYear, trimStartChars_digits h]
    have hread := readNatural_digits h ('-' :: rest)
    -- no digit is a sign
    obtain ⟨c, ds, rfl, hc⟩ := h.head
    split
    · rename_i heq
      rw [(List.cons.inj heq).1] at hc
      exact absurd hc (by decide)
    · rename_i heq
      rw [(List.cons.inj heq).1] at hc
      exact absurd hc (by decide)
    · rw [hread, Option.map_some]

theorem readFraction_append {nano : Nat} {cs : List Char} (h : FractionText nano cs)
    (rest : List Char) : readFraction (cs ++ 'Z' :: rest) = some (nano, 'Z' :: rest) := by
  cases h with
  | whole => rfl
  | @digits width n _ cs hwidth h hnano =>
    have hread : readNatural 9 (cs ++ 'Z' :: rest) = some (n, 'Z' :: rest) := by
      refine readNatural_append h.2 (by rw [h.1]; omega) fun _ c hc => ?_
      cases hc
      rfl
    have hused : (cs ++ 'Z' :: rest).length - ('Z' :: rest).length = width := by
      rw [List.length_append, h.1]
      omega
    rw [List.cons_append, readFraction, hread]
    simp only [Option.bind_eq_bind, Option.bind_some, hused, hnano]
    rfl

theorem readDate_append {date : Date} {y mo d : List Char} (hyear : YearText date.year y)
    (hmonth : Digits 2 date.month mo) (hday : Digits 2 date.day d) (hdate : date.isValid = true)
    (rest : List Char) :
    readDate (y ++ '-' :: (mo ++ '-' :: (d ++ rest))) = some (date, rest) := by
  have hyphen : ∀ cs, readMark '-' ('-' :: cs) = some cs := readMark_cons (by decide)
  simp only [readDate, Option.bind_eq_bind, Option.bind_some, readYear_append hyear, hyphen,
    readPair_digits hmonth, readPair_digits hday, Date.check?, hdate, if_true, Option.pure_def]

theorem readTime_append {hour minute second nano : Nat} {h mi s f : List Char}
    (hhour : Digits 2 hour h) (hminute : Digits 2 minute mi) (hsecond : Digits 2 second s)
    (hfraction : FractionText nano f) (hclock : hour < 24 ∧ minute < 60 ∧ second ≤ 60)
    (date : Date) (rest : List Char) :
    readTime (h ++ ':' :: (mi ++ ':' :: (s ++ (f ++ 'Z' :: rest)))) =
      some (((ofClock date hour minute second nano).second,
        (ofClock date hour minute second nano).nanosecond), 'Z' :: rest) := by
  have hcolon : ∀ cs, readMark ':' (':' :: cs) = some cs := readMark_cons (by decide)
  simp only [readTime, Option.bind_eq_bind, Option.bind_some, hcolon, readPair_digits hhour,
    readPair_digits hminute, readPair_digits hsecond, readFraction_append hfraction, guard,
    if_pos hclock, Option.pure_def, ofClock]
  split <;> rfl

theorem ofLocal?_zero {t : Instant} (h : t.second < 86400) :
    ofLocal? t.date t.second t.nanosecond 0 = some t := by
  have hrange : ¬ (t.second : Int) < 0 ∧ (t.second : Int) < 86400 := by omega
  have hsecond : ((t.second : Int) % 86400).toNat = t.second := by omega
  simp only [ofLocal?, Int.sub_zero, if_neg hrange.1, if_pos hrange.2, hsecond]
  rfl

theorem ofClock_date (date : Date) (hour minute second nano : Nat) :
    (ofClock date hour minute second nano).date = date := by
  unfold ofClock
  split <;> rfl

theorem ofClock_second_lt {hour minute second : Nat}
    (h : hour < 24 ∧ minute < 60 ∧ second ≤ 60) (date : Date) (nano : Nat) :
    (ofClock date hour minute second nano).second < 86400 := by
  unfold ofClock
  split <;> simp only <;> omega

/-- A date, a time and an offset are read one after the other. -/
theorem ofString?_of_parts {cs after zone : List Char} {date : Date} {second nano : Nat}
    {offset : Int} (hdate : readDate cs = some (date, 'T' :: after))
    (htime : readTime after = some ((second, nano), zone))
    (hoffset : readOffset (Text.trimStartChars zone) = some (offset, [])) :
    ofString? (String.ofList cs) = ofLocal? date second nano offset := by
  unfold ofString?
  rw [String.toList_ofList, hdate]
  show (readTime after >>= fun p => readOffset (Text.trimStartChars p.2) >>= fun q =>
    guard (Text.trimStartChars q.2).isEmpty >>= fun _ => ofLocal? date p.1.1 p.1.2 q.1) = _
  rw [htime, Option.bind_eq_bind, Option.bind_some, hoffset]
  rfl

/-- **The form is read** as the instant, if its date exists. -/
theorem ofString?_rfc3339 {t : Instant} {cs : List Char} (h : Rfc3339 t cs)
    (hdate : t.date.isValid = true) : ofString? (String.ofList cs) = some t := by
  obtain @⟨date, hour, minute, second, nano, y, mo, d, h, mi, s, f, hyear, hmonth, hday, hhour,
    hminute, hsecond, hfraction, hclock⟩ := h
  have hsame := ofClock_date date hour minute second nano
  rw [hsame] at hdate
  have htime := readTime_append hhour hminute hsecond hfraction hclock date []
  rw [ofString?_of_parts (readDate_append hyear hmonth hday hdate _) htime rfl]
  have hlocal := ofLocal?_zero (ofClock_second_lt hclock date nano)
  rw [hsame] at hlocal
  exact hlocal

/-! ## Writing the form -/

/-- An instant of a day that exists, in a second of the day; nanoseconds go on only in the last
second of a minute. -/
structure Sound (t : Instant) : Prop where
  date : t.date.isValid = true
  second : t.second < 86400
  nanosecond : t.nanosecond < 1000000000 ∨ t.second % 60 = 59 ∧ t.nanosecond < 2000000000

theorem yearText_writeYear (year : Int) : YearText year (Date.writeYear year).toList := by
  have hwidth : ∀ n, 4 ≤ (padded 4 n).toList.length := fun n => by
    rw [Text.length_padded]
    omega
  unfold Date.writeYear
  by_cases hplain : 0 ≤ year ∧ year ≤ 9999
  · have hdigits : Text.Digits 4 year.toNat (padded 4 year.toNat).toList :=
      Text.digits_padded (by decide) (by omega)
    have hyear : (year.toNat : Int) = year := by omega
    rw [if_pos hplain]
    exact hyear ▸ .plain hdigits
  · -- a sign stands before the years that have more than four digits or lie before year 0
    have hread := Text.natural?_padded 4 year.natAbs
    rw [if_neg hplain, String.toList_append]
    by_cases hneg : year < 0
    · have hyear : year = -(year.natAbs : Int) := by omega
      rw [if_pos hneg]
      conv_lhs => rw [hyear]
      exact .before (hwidth _) hread (by omega)
    · have hyear : year = (year.natAbs : Int) := by omega
      rw [if_neg hneg]
      conv_lhs => rw [hyear]
      exact .after (hwidth _) hread (by omega)

theorem fractionText_writeFraction {nano : Nat} (h : nano < 1000000000) :
    FractionText nano (writeFraction nano).toList := by
  unfold writeFraction
  split
  · rename_i hzero
    rw [hzero]
    exact .whole
  split
  · have hdigits : Text.Digits 3 (nano / 1000000) (padded 3 (nano / 1000000)).toList :=
      Text.digits_padded (by decide) (by omega)
    have hnano : nano = nano / 1000000 * 10 ^ (9 - 3) := by omega
    rw [String.toList_append]
    exact .digits (Or.inl rfl) hdigits hnano
  split
  · have hdigits : Text.Digits 6 (nano / 1000) (padded 6 (nano / 1000)).toList :=
      Text.digits_padded (by decide) (by omega)
    have hnano : nano = nano / 1000 * 10 ^ (9 - 6) := by omega
    rw [String.toList_append]
    exact .digits (Or.inr (Or.inl rfl)) hdigits hnano
  · have hdigits : Text.Digits 9 nano (padded 9 nano).toList :=
      Text.digits_padded (by decide) (by omega)
    have hnano : nano = nano * 10 ^ (9 - 9) := by omega
    rw [String.toList_append]
    exact .digits (Or.inr (Or.inr rfl)) hdigits hnano

theorem month_day_lt {d : Date} (h : d.isValid = true) : d.month < 100 ∧ d.day < 100 := by
  have hdays : d.day ≤ Date.daysInMonth d.year d.month := by
    simp only [Date.isValid, decide_eq_true_eq] at h
    exact h.2.2.2.2.2
  have hmonth : d.month ≤ 12 := by
    simp only [Date.isValid, decide_eq_true_eq] at h
    exact h.2.2.2.1
  have hlast : Date.daysInMonth d.year d.month ≤ 31 := by
    unfold Date.daysInMonth
    split
    · split <;> omega
    all_goals omega
  omega

theorem eq_ofClock {t : Instant} (h : t.Sound) :
    t = ofClock t.date (t.second / 3600) (t.second / 60 % 60)
      (t.second % 60 + t.nanosecond / 1000000000) (t.nanosecond % 1000000000) := by
  obtain ⟨-, -, hnano⟩ := h
  unfold ofClock
  split
  · have hsecond : t.second / 3600 * 3600 + t.second / 60 % 60 * 60 + 59 = t.second := by omega
    have hrest : 1000000000 + t.nanosecond % 1000000000 = t.nanosecond := by omega
    rw [hsecond, hrest]
  · have hsecond : t.second / 3600 * 3600 + t.second / 60 % 60 * 60
        + (t.second % 60 + t.nanosecond / 1000000000) = t.second := by omega
    have hrest : t.nanosecond % 1000000000 = t.nanosecond := by omega
    rw [hsecond, hrest]

/-- **Instants are written in the form.** -/
theorem rfc3339_write {t : Instant} (h : t.Sound) : Rfc3339 t t.write.toList := by
  obtain ⟨hmonth, hday⟩ := month_day_lt h.date
  have hclock := eq_ofClock h
  obtain ⟨-, hsecond, hnano⟩ := h
  have htwo : ∀ n, n < 100 → Digits 2 n (padded 2 n).toList := fun n hn =>
    Text.digits_padded (by decide) hn
  have hfraction : FractionText (t.nanosecond % 1000000000)
      (writeFraction (t.nanosecond % 1000000000)).toList := fractionText_writeFraction (by omega)
  have hform := Rfc3339.intro (yearText_writeYear t.date.year) (htwo _ hmonth) (htwo _ hday)
    (htwo (t.second / 3600) (by omega)) (htwo (t.second / 60 % 60) (by omega))
    (htwo (t.second % 60 + t.nanosecond / 1000000000) (by omega))
    hfraction (by omega)
  rw [← hclock] at hform
  simpa [write, Date.write, writeMinute] using hform

/-! ## What was read -/

theorem lt_of_readNatural {limit n : Nat} {cs rest : List Char}
    (h : readNatural limit cs = some (n, rest)) :
    n < 10 ^ (cs.length - rest.length) ∧ cs.length - rest.length ≤ limit := by
  unfold readNatural at h
  obtain ⟨k, hk, heq⟩ := Option.map_eq_some_iff.mp h
  cases heq
  have hlen : ((cs.take limit).takeWhile fun c => (Text.digit? c).isSome).length
      ≤ (cs.take limit).length := (List.takeWhile_sublist _).length_le
  rw [List.length_take] at hlen
  rw [List.length_drop]
  have hused : cs.length - (cs.length - ((cs.take limit).takeWhile fun c =>
      (Text.digit? c).isSome).length)
      = ((cs.take limit).takeWhile fun c => (Text.digit? c).isSome).length := by omega
  rw [hused]
  exact ⟨Text.natural?_lt hk, by omega⟩

theorem lt_of_readFraction {cs rest : List Char} {nano : Nat}
    (h : readFraction cs = some (nano, rest)) : nano < 1000000000 := by
  unfold readFraction at h
  split at h
  · rename_i digits
    obtain ⟨⟨n, after⟩, hn, heq⟩ := Option.bind_eq_some_iff.mp h
    obtain ⟨hlt, hlimit⟩ := lt_of_readNatural hn
    cases heq
    -- the digits that count and the zeros in place of the others are nine
    have hpow : 10 ^ (digits.length - after.length) * 10 ^ (9 - (digits.length - after.length))
        = 1000000000 := by
      rw [← Nat.pow_add, Nat.add_sub_cancel' hlimit]
    calc n * 10 ^ (9 - (digits.length - after.length))
        < 10 ^ (digits.length - after.length) * 10 ^ (9 - (digits.length - after.length)) :=
          Nat.mul_lt_mul_of_pos_right hlt (Nat.pow_pos (by decide))
      _ = 1000000000 := hpow
  · cases h
    decide

theorem of_guard {p : Prop} [Decidable p] {u : Unit} (h : guard p = some u) : p := by
  by_cases hp : p
  · exact hp
  · rw [guard, if_neg hp] at h
    cases h

theorem of_readTime {cs rest : List Char} {second nano : Nat}
    (h : readTime cs = some ((second, nano), rest)) :
    second < 86400 ∧ (nano < 1000000000 ∨ second % 60 = 59 ∧ nano < 2000000000) := by
  simp only [readTime, Option.bind_eq_bind, Option.bind_eq_some_iff, Prod.exists] at h
  obtain ⟨hour, _, -, _, -, minute, _, -, _, -, sec, _, -, n, after, hn, _, hclock, h⟩ := h
  have hrange := of_guard hclock
  have hnano := lt_of_readFraction hn
  split at h
  · cases h
    omega
  · cases h
    omega

/-- No zone is ahead or behind by a day, or by a part of a minute. -/
theorem of_readOffset {cs rest : List Char} {offset : Int}
    (h : readOffset cs = some (offset, rest)) :
    offset % 60 = 0 ∧ -86400 < offset ∧ offset < 86400 := by
  unfold readOffset at h
  split at h
  · cases h
    decide
  · cases h
    decide
  split at h
  · cases h
    decide
  split at h
  · cases h
  · simp only [Option.bind_eq_bind, Option.bind_eq_some_iff, Prod.exists] at h
    obtain ⟨_, -, hours, _, -, minutes, after, -, _, hrange, h⟩ := h
    have hbound := of_guard hrange
    split at h
    · cases h
      omega
    · cases h
      omega

theorem isValid_of_check? {d e : Date} (h : d.check? = some e) : e.isValid = true := by
  unfold Date.check? at h
  split at h
  · rename_i hvalid
    cases h
    exact hvalid
  · cases h

/-- An instant stays sound when its zone is taken off. -/
theorem sound_of_ofLocal? {date : Date} {second nano : Nat} {offset : Int} {t : Instant}
    (h : ofLocal? date second nano offset = some t) (hdate : date.isValid = true)
    (hnano : nano < 1000000000 ∨ second % 60 = 59 ∧ nano < 2000000000)
    (hoffset : offset % 60 = 0) : t.Sound := by
  have hsound : ∀ d : Date, d.isValid = true →
      some ⟨d, (((second : Int) - offset) % 86400).toNat, nano⟩ = some t → t.Sound := by
    rintro d hd ⟨⟩
    exact ⟨hd, by simp only; omega, by simp only; omega⟩
  unfold ofLocal? at h
  simp only at h
  -- the day before, the day itself or the day after
  split at h
  · obtain ⟨d, hd, h⟩ := Option.bind_eq_some_iff.mp h
    exact hsound d (isValid_of_check? hd) h
  split at h
  · exact hsound date hdate h
  · obtain ⟨d, hd, h⟩ := Option.bind_eq_some_iff.mp h
    exact hsound d (isValid_of_check? hd) h

/-- **Instants that were read are sound.** -/
theorem sound_of_ofString? {text : String} {t : Instant} (h : ofString? text = some t) :
    t.Sound := by
  obtain ⟨⟨date, cs⟩, hdate, h⟩ := Option.bind_eq_some_iff.mp h
  have hvalid : date.isValid = true := by
    simp only [readDate, Option.bind_eq_bind, Option.bind_eq_some_iff, Prod.exists] at hdate
    obtain ⟨_, _, -, _, -, _, _, -, _, -, _, _, -, d, hd, heq⟩ := hdate
    cases heq
    exact isValid_of_check? hd
  cases cs with
  | nil => cases h
  | cons c cs =>
    simp only [Option.bind_eq_bind, Option.bind_eq_some_iff, Prod.exists] at h
    obtain ⟨_, -, second, nano, zone, htime, offset, after, hoffset, _, -, hlocal⟩ := h
    exact sound_of_ofLocal? hlocal hvalid (of_readTime htime).2 (of_readOffset hoffset).1

/-- **Instants are read back.** -/
theorem ofString?_write {t : Instant} (h : t.Sound) : ofString? t.write = some t := by
  have hread := ofString?_rfc3339 (rfc3339_write h) h.date
  rwa [String.ofList_toList] at hread

end Instant

end TeamConsole
