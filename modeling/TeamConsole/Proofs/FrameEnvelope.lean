import TeamConsole.Notification
import TeamConsole.Proofs.JsonGrammar
import TeamConsole.Proofs.ReadBack
import TeamConsole.Proofs.Records
import TeamConsole.Proofs.Trimming

/-!
# What a frame of the stream is read as

A frame is read twice, first as plain data and then as a notification, and the second reading
could refuse what the first took. It never does: only the envelope decides.

* **`int64?_trim_eq_some_iff`**: a text is an id if it spells a number of 64 bits between blanks.
* **`exists_loose`**: a loose field is read whatever stands in it, and as its last member.
* **`ofJson?_kept`**: the object that plain data keeps is a notification if its type is a text.
* **`dropped_or_envelope`**: a text has an envelope or lacks some part of one.
* **`frame_is_read_by_envelope`**: the headline.
-/

namespace TeamConsole

/-! ## Numbers between blanks -/

namespace Text

/-- A number in decimal digits after an optional sign. -/
inductive Decimal : List Char → Int → Prop
  | plain {cs : List Char} {n : Nat} (h : natural? cs = some n) : Decimal cs n
  | plus {cs : List Char} {n : Nat} (h : natural? cs = some n) : Decimal ('+' :: cs) n
  | minus {cs : List Char} {n : Nat} (h : natural? cs = some n) : Decimal ('-' :: cs) (-n)

theorem integer?_eq_some_iff {cs : List Char} {i : Int} :
    integer? cs = some i ↔ Decimal cs i := by
  constructor
  · intro h
    unfold integer? at h
    split at h
    all_goals
      obtain ⟨n, hn, rfl⟩ := Option.map_eq_some_iff.mp h
    · exact .plus hn
    · exact .minus hn
    · exact .plain hn
  · intro h
    cases h with
    | plus h => simp [integer?, h]
    | minus h => simp [integer?, h]
    | @plain cs n h =>
      -- a digit is no sign
      obtain ⟨hne, hdigits, _⟩ := natural?_eq_some_iff.mp h
      unfold integer?
      split
      · exact absurd (hdigits '+' List.mem_cons_self) (by decide)
      · exact absurd (hdigits '-' List.mem_cons_self) (by decide)
      · rw [h]
        rfl

theorem decimal_integer (i : Int) : Decimal (integer i).toList i := by
  have hread := natural?_toDigits i.natAbs
  unfold integer
  split
  · rename_i hneg
    have hvalue : i = -(i.natAbs : Int) := by omega
    have htext : ("-" ++ natural i.natAbs).toList = '-' :: Nat.toDigits 10 i.natAbs := by
      simp [natural]
    rw [htext]
    conv_rhs => rw [hvalue]
    exact .minus hread
  · rename_i hpos
    have hvalue : i = (i.natAbs : Int) := by omega
    rw [natural, String.toList_ofList]
    conv_rhs => rw [hvalue]
    exact .plain hread

theorem Decimal.not_isBlank {cs : List Char} {i : Int} (h : Decimal cs i) :
    cs ≠ [] ∧ ∀ c ∈ cs, isBlank c = false := by
  have hdigits : ∀ {ds : List Char} {n : Nat}, natural? ds = some n →
      ∀ c ∈ ds, isBlank c = false := fun hn c hc =>
    not_isBlank_of_isDigit ((natural?_eq_some_iff.mp hn).2.1 c hc)
  cases h with
  | plain h => exact ⟨(natural?_eq_some_iff.mp h).1, hdigits h⟩
  | plus h => exact ⟨List.cons_ne_nil _ _, List.forall_mem_cons.mpr ⟨by decide, hdigits h⟩⟩
  | minus h => exact ⟨List.cons_ne_nil _ _, List.forall_mem_cons.mpr ⟨by decide, hdigits h⟩⟩

theorem within?_eq_some_iff {range : Int × Int} {i j : Int} :
    within? range i = some j ↔ (range.1 ≤ i ∧ i ≤ range.2) ∧ i = j := by
  simp [within?]

/-- The integer has 64 bits, with sign. -/
def IsInt64 (i : Int) : Prop :=
  int64Range.1 ≤ i ∧ i ≤ int64Range.2

/-- The text is a number of 64 bits between blanks. -/
def SpellsInt64 (s : String) (i : Int) : Prop :=
  IsInt64 i ∧ ∃ before numeral after, s.toList = before ++ numeral ++ after
    ∧ (∀ c ∈ before, isBlank c = true) ∧ (∀ c ∈ after, isBlank c = true) ∧ Decimal numeral i

theorem int64?_trim_eq_some_iff {s : String} {i : Int} :
    int64? (trim s) = some i ↔ SpellsInt64 s i := by
  have hread : int64? (trim s) = some i
      ↔ IsInt64 i ∧ Decimal (trimEndChars (trimStartChars s.toList)) i := by
    rw [int64?, trim, String.toList_ofList, Option.bind_eq_bind, Option.bind_eq_some_iff]
    constructor
    · rintro ⟨k, hk, hrange⟩
      obtain ⟨hk64, rfl⟩ := within?_eq_some_iff.mp hrange
      exact ⟨hk64, integer?_eq_some_iff.mp hk⟩
    · rintro ⟨hrange, hi⟩
      exact ⟨i, integer?_eq_some_iff.mpr hi, within?_eq_some_iff.mpr ⟨hrange, rfl⟩⟩
  rw [hread]
  refine and_congr_right fun _ => ?_
  constructor
  · intro h
    obtain ⟨before, after, hbefore, hafter, hs⟩ := exists_blanks s.toList
    exact ⟨before, _, after, hs, hbefore, hafter, h⟩
  · rintro ⟨before, numeral, after, hs, hbefore, hafter, h⟩
    obtain ⟨hne, hcore⟩ := h.not_isBlank
    rw [hs, trim_between hbefore hafter hne (fun c hc => hcore c (List.mem_of_mem_head? hc))
      fun c hc => hcore c (List.mem_of_mem_getLast? hc)]
    exact h

end Text

/-! ## The object that is kept -/

namespace Json

/-- The text is one JSON value, and all of it is plain data. -/
def IsPlainText (data : String) (j : Json) : Prop :=
  Spells data.toList j ∧ j.isPlain maxDepth = true

/-- The members of an object as plain data has them. -/
def kept (members : List (String × Json)) : List (String × Json) :=
  lastOfEach (resolveMembers members)

theorem mem_kept_iff {members : List (String × Json)} {name : String} {j : Json} :
    (name, j) ∈ kept members ↔ ∃ i, LastMember members name i ∧ i.resolve = j := by
  rw [kept, mem_lastOfEach_iff, resolveMembers_eq_map]
  exact lastMember_map_iff

theorem nodup_kept (members : List (String × Json)) : ((kept members).map Prod.fst).Nodup :=
  nodup_lastOfEach _

theorem kept_of_isPlainText {data : String} {j : Json} (h : IsPlainText data j) :
    (ofString? data >>= fun j => j.keep? maxDepth) = some j.resolve := by
  rw [ofString?_eq_some_iff.mpr h.1]
  show j.keep? maxDepth = _
  rw [keep?, if_pos h.2]

theorem isPlainText_of_kept {data : String} {k : Json}
    (h : (ofString? data >>= fun j => j.keep? maxDepth) = some k) :
    ∃ j, IsPlainText data j ∧ j.resolve = k := by
  obtain ⟨j, hj, hk⟩ := Option.bind_eq_some_iff.mp h
  unfold keep? at hk
  split at hk
  · rename_i hplain
    exact ⟨j, ⟨ofString?_eq_some_iff.mp hj, hplain⟩, Option.some.inj hk⟩
  · cases hk

/-- Of two members of one name only one can be the last. -/
theorem LastMember.unique {members : List (String × Json)} {name : String} {i j : Json}
    (hi : LastMember members name i) (hj : LastMember members name j) : i = j := by
  induction members with
  | nil => exact absurd hi.mem List.not_mem_nil
  | cons m members ih =>
    rcases lastMember_cons_iff.mp hi with hi' | ⟨hmi, hnone⟩
    · rcases lastMember_cons_iff.mp hj with hj' | ⟨_, hnone⟩
      · exact ih hi' hj'
      · exact absurd rfl (hnone (name, i) hi'.mem)
    · rcases lastMember_cons_iff.mp hj with hj' | ⟨hmj, _⟩
      · exact absurd rfl (hnone (name, j) hj'.mem)
      · exact (Prod.mk.inj (hmi.symm.trans hmj)).2

/-- A look-up in what is kept of an object finds the last member of the name. -/
theorem get?_kept_eq_some_iff {members : List (String × Json)} {name : String} {j : Json} :
    (Json.obj (kept members)).get? name = some j ↔
      ∃ i, LastMember members name i ∧ i.resolve = j := by
  rw [← mem_kept_iff]
  have hnodup : ((kept members).reverse.map Prod.fst).Nodup := by
    rw [List.map_reverse]
    exact List.nodup_reverse.mpr (nodup_kept members)
  constructor
  · intro h
    exact List.mem_reverse.mp (Record.mem_of_get? h)
  · intro h
    exact Record.get?_of_nodup hnodup (List.mem_reverse.mpr h)

end Json

/-! ## Loose fields -/

namespace Notification

open Json (LastMember)

theorem looseText_resolve (j : Json) : looseText j.resolve = looseText j := by
  cases j <;> rfl

theorem looseId_resolve (j : Json) : looseId j.resolve = looseId j := by
  cases j <;> rfl

/-- **A loose field is read whatever stands in it**, and as its last member is. -/
theorem exists_loose {α : Type} {members : List (String × Json)} {r : Json.Record}
    (hplain : Json.arePlainMembers (Json.maxDepth - 1) members = true) {name : String}
    (hr : ∀ j, r.get? name = some j ↔ (name, j) ∈ Json.kept members) {read : Json → Option α}
    (hread : ∀ j : Json, read j.resolve = read j) :
    ∃ v, loose r name read = some v
      ∧ ∀ x, v = some x ↔ ∃ i, LastMember members name i ∧ read i = some x := by
  unfold loose Json.Record.withDefault
  cases hget : r.get? name with
  | none =>
    -- a member of the name would be among those that are kept
    refine ⟨none, rfl, fun x => iff_of_false (Option.some_ne_none x).symm ?_⟩
    rintro ⟨i, hi, _⟩
    have hsome := (hr _).mpr (Json.mem_kept_iff.mpr ⟨i, hi, rfl⟩)
    rw [hget] at hsome
    cases hsome
  | some j =>
    obtain ⟨i, hi, rfl⟩ := Json.mem_kept_iff.mp ((hr j).mp hget)
    have hkeep : i.resolve.keep? (Json.maxDepth - 1) = some i.resolve.resolve :=
      if_pos (Json.isPlain_resolve i (Json.arePlainMembers_iff.mp hplain _ hi.mem))
    refine ⟨read i, by simp [hkeep, hread], fun x => ?_⟩
    constructor
    · exact fun h => ⟨i, hi, h⟩
    · rintro ⟨i', hi', h⟩
      rw [hi.unique hi']
      exact h

/-- The field is the text of the last member of its name, or the digits of its number. -/
def HoldsText (members : List (String × Json)) (name : String) (field : Option String) : Prop :=
  ∀ s, field = some s ↔
    LastMember members name (.str s) ∨ ∃ n, LastMember members name (.num n) ∧ s = n.write

/-- The field is the integer of 64 bits that the last member of its name is, or that it spells. -/
def HoldsId (members : List (String × Json)) (name : String) (field : Option Int) : Prop :=
  ∀ i, field = some i ↔
    (Text.IsInt64 i ∧ LastMember members name (.int i))
      ∨ ∃ s, LastMember members name (.str s) ∧ Text.SpellsInt64 s i

theorem looseText_eq_some_iff {j : Json} {s : String} :
    looseText j = some s ↔ j = .str s ∨ ∃ n, j = .num n ∧ s = n.write := by
  cases j <;> simp [looseText, eq_comm]

theorem looseId_eq_some_iff {j : Json} {i : Int} :
    looseId j = some i ↔
      (Text.IsInt64 i ∧ j = .int i) ∨ ∃ s, j = .str s ∧ Text.SpellsInt64 s i := by
  cases j with
  | str s => simp [looseId, Text.int64?_trim_eq_some_iff, Json.int]
  | num n =>
    cases n with
    | int k =>
      simp only [looseId, Text.within?_eq_some_iff, Json.int, Json.num.injEq,
        Json.Number.int.injEq, reduceCtorEq, false_and, exists_const, or_false]
      constructor
      · rintro ⟨hk, rfl⟩
        exact ⟨hk, rfl⟩
      · rintro ⟨hi, rfl⟩
        exact ⟨hi, rfl⟩
    | binary x => simp [looseId, Json.int]
  | _ => simp [looseId, Json.int]

theorem exists_text {members : List (String × Json)} {r : Json.Record}
    (hplain : Json.arePlainMembers (Json.maxDepth - 1) members = true) {name : String}
    (hr : ∀ j, r.get? name = some j ↔ (name, j) ∈ Json.kept members) :
    ∃ v, loose r name looseText = some v ∧ HoldsText members name v := by
  obtain ⟨v, hv, hfield⟩ := exists_loose hplain hr looseText_resolve
  refine ⟨v, hv, fun s => ?_⟩
  rw [hfield]
  constructor
  · rintro ⟨i, hi, h⟩
    rcases looseText_eq_some_iff.mp h with rfl | ⟨n, rfl, rfl⟩
    · exact Or.inl hi
    · exact Or.inr ⟨n, hi, rfl⟩
  · rintro (hi | ⟨n, hi, rfl⟩)
    · exact ⟨_, hi, rfl⟩
    · exact ⟨_, hi, rfl⟩

theorem exists_id {members : List (String × Json)} {r : Json.Record}
    (hplain : Json.arePlainMembers (Json.maxDepth - 1) members = true) {name : String}
    (hr : ∀ j, r.get? name = some j ↔ (name, j) ∈ Json.kept members) :
    ∃ v, loose r name looseId = some v ∧ HoldsId members name v := by
  obtain ⟨v, hv, hfield⟩ := exists_loose hplain hr looseId_resolve
  refine ⟨v, hv, fun i => ?_⟩
  rw [hfield]
  constructor
  · rintro ⟨j, hj, h⟩
    rcases looseId_eq_some_iff.mp h with ⟨hi, rfl⟩ | ⟨s, rfl, hs⟩
    · exact Or.inl ⟨hi, hj⟩
    · exact Or.inr ⟨s, hj, hs⟩
  · rintro (⟨hi, hj⟩ | ⟨s, hj, hs⟩)
    · exact ⟨_, hj, looseId_eq_some_iff.mpr (Or.inl ⟨hi, rfl⟩)⟩
    · exact ⟨_, hj, looseId_eq_some_iff.mpr (Or.inr ⟨s, rfl, hs⟩)⟩

/-- The text fields of a notification under their names. -/
def texts (n : Notification) : List (String × Option String) :=
  [("team", n.team), ("status", n.status), ("current_stage", n.currentStage),
   ("assignee", n.assignee), ("agent", n.agent)]

/-- The ids of a notification under their names. -/
def ids (n : Notification) : List (String × Option Int) :=
  [("task_id", n.taskId), ("message_id", n.messageId)]

/-- What the members of a frame say is what the notification holds. -/
structure Restates (n : Notification) (members : List (String × Json)) (kind : String) : Prop where
  name : n.kind.name = kind
  kind : n.kind = .ofName kind
  texts : ∀ f ∈ n.texts, HoldsText members f.1 f.2
  ids : ∀ f ∈ n.ids, HoldsId members f.1 f.2

theorem name_ofName (kind : String) : (NotificationKind.ofName kind).name = kind := by
  unfold NotificationKind.ofName
  cases hfound : NotificationKind.known.find? (·.name = kind) with
  | none => rfl
  | some k => simpa using List.find?_some hfound

/-- **The object that is kept is a notification** if its type is a text. -/
theorem ofJson?_kept {members : List (String × Json)} {kind : String}
    (hplain : Json.arePlainMembers (Json.maxDepth - 1) members = true)
    (hkind : LastMember members "type" (.str kind)) :
    ∃ n, ofJson? (.obj (Json.kept members)) = some n ∧ n.Restates members kind := by
  have hnames : ∀ f ∈ fields, f.aliases = [] := by decide
  obtain ⟨r, hr, hget⟩ := Json.exists_record (Json.nodup_kept members) hnames
  have htype : r.get? "type" = some (.str kind) :=
    (hget ⟨"type", []⟩ (by simp [fields]) _).mpr (Json.mem_kept_iff.mpr ⟨_, hkind, rfl⟩)
  obtain ⟨team, hteam, hteam'⟩ := exists_text hplain (hget ⟨"team", []⟩ (by simp [fields]))
  obtain ⟨task, htask, htask'⟩ := exists_id hplain (hget ⟨"task_id", []⟩ (by simp [fields]))
  obtain ⟨status, hstatus, hstatus'⟩ := exists_text hplain (hget ⟨"status", []⟩ (by simp [fields]))
  obtain ⟨stage, hstage, hstage'⟩ := exists_text hplain (hget ⟨"current_stage", []⟩ (by simp [fields]))
  obtain ⟨assignee, hassignee, hassignee'⟩ :=
    exists_text hplain (hget ⟨"assignee", []⟩ (by simp [fields]))
  obtain ⟨agent, hagent, hagent'⟩ := exists_text hplain (hget ⟨"agent", []⟩ (by simp [fields]))
  obtain ⟨message, hmessage, hmessage'⟩ :=
    exists_id hplain (hget ⟨"message_id", []⟩ (by simp [fields]))
  refine ⟨⟨.ofName kind, team, task, status, stage, assignee, agent, message⟩, ?_,
    name_ofName kind, rfl, ?_, ?_⟩
  · simp only at hteam htask hstatus hstage hassignee hagent hmessage
    simp [ofJson?, hr, Json.Record.required, htype, Json.readText, hteam, htask, hstatus, hstage,
      hassignee, hagent, hmessage]
  · simp only [Notification.texts, List.forall_mem_cons, List.not_mem_nil]
    exact ⟨hteam', hstatus', hstage', hassignee', hagent', fun _ h => h.elim⟩
  · simp only [Notification.ids, List.forall_mem_cons, List.not_mem_nil]
    exact ⟨htask', hmessage', fun _ h => h.elim⟩

end Notification

/-! ## Frames -/

namespace Inbound

open Json (IsPlainText LastMember)

/-- The text is an object of plain data, and its last type is a text. -/
structure Envelope (data : String) (members : List (String × Json)) (kind : String) : Prop where
  object : IsPlainText data (.obj members)
  kind : LastMember members "type" (.str kind)

/-- Why a text has no envelope. -/
inductive Dropped (data : String) : Prop
  | noValue (h : ∀ j, ¬ IsPlainText data j)
  | noObject {j : Json} (h : IsPlainText data j) (hobject : ∀ members, j ≠ .obj members)
  | noType {members : List (String × Json)} (h : IsPlainText data (.obj members))
      (hmissing : ∀ j, ¬ LastMember members "type" j)
  | typeNoText {members : List (String × Json)} {j : Json} (h : IsPlainText data (.obj members))
      (htype : LastMember members "type" j) (htext : ∀ kind, j ≠ .str kind)

/-- The member gives this id, as an integer or as its digits between blanks. -/
def GivesId (members : List (String × Json)) (name : String) (i : Int) : Prop :=
  LastMember members name (.int i) ∨ ∃ before after : List Char,
    (∀ c ∈ before, Text.isBlank c = true) ∧ (∀ c ∈ after, Text.isBlank c = true)
      ∧ LastMember members name (.str (String.ofList (before ++ (Text.integer i).toList ++ after)))

/-- What is read of the data that is kept. -/
def ofKept? (k : Json) : Option Inbound := do
  let kind ← k.get? "type" >>= Json.readText
  if kind = "connected" then return .connected
  return .notification (← Notification.ofJson? k)

theorem decode?_eq (data : String) :
    decode? data = (Json.ofString? data >>= fun j => j.keep? Json.maxDepth) >>= ofKept? := by
  rw [bind_assoc]
  rfl

theorem decode?_of_isPlainText {data : String} {j : Json} (h : IsPlainText data j) :
    decode? data = ofKept? j.resolve := by
  rw [decode?_eq, Json.kept_of_isPlainText h]
  rfl

theorem type_eq_some_iff {members : List (String × Json)} {kind : String} :
    ((Json.obj members).resolve.get? "type" >>= Json.readText) = some kind ↔
      LastMember members "type" (.str kind) := by
  rw [Option.bind_eq_bind, Option.bind_eq_some_iff]
  constructor
  · rintro ⟨j, hj, hread⟩
    obtain ⟨i, hi, rfl⟩ := Json.get?_kept_eq_some_iff.mp hj
    cases i with
    | str s =>
      cases hread
      exact hi
    | _ => cases hread
  · exact fun h => ⟨.str kind, Json.get?_kept_eq_some_iff.mpr ⟨_, h, rfl⟩, rfl⟩

theorem Envelope.decode? {data kind : String} {members : List (String × Json)}
    (h : Envelope data members kind) :
    Inbound.decode? data = if kind = "connected" then some .connected
      else (Notification.ofJson? (.obj (Json.kept members))).map .notification := by
  rw [decode?_of_isPlainText h.object, ofKept?, type_eq_some_iff.mpr h.kind]
  split
  · rename_i hkind
    simp [hkind]
  · rename_i hkind
    simp only [Option.bind_eq_bind, Option.bind_some, if_neg hkind]
    exact Option.map_eq_bind.symm

theorem Envelope.plain {data kind : String} {members : List (String × Json)}
    (h : Envelope data members kind) :
    Json.arePlainMembers (Json.maxDepth - 1) members = true := by
  have hplain := h.object.2
  simp only [Json.isPlain, Bool.and_eq_true] at hplain
  exact hplain.2

theorem Dropped.decode? {data : String} (h : Dropped data) : Inbound.decode? data = none := by
  cases h with
  | noValue h =>
    rw [decode?_eq]
    cases hkept : (Json.ofString? data >>= fun j => j.keep? Json.maxDepth) with
    | none => rfl
    | some k =>
      obtain ⟨j, hj, _⟩ := Json.isPlainText_of_kept hkept
      exact absurd hj (h j)
  | @noObject j h hobject =>
    rw [decode?_of_isPlainText h, ofKept?]
    cases j with
    | obj members => exact absurd rfl (hobject members)
    | _ => rfl
  | @noType members h hmissing =>
    rw [decode?_of_isPlainText h, ofKept?]
    cases htype : ((Json.obj members).resolve.get? "type" >>= Json.readText) with
    | none => rfl
    | some kind => exact absurd (type_eq_some_iff.mp htype) (hmissing _)
  | @typeNoText members j h hj htext =>
    rw [decode?_of_isPlainText h, ofKept?]
    cases htype : ((Json.obj members).resolve.get? "type" >>= Json.readText) with
    | none => rfl
    | some kind => exact absurd (hj.unique (type_eq_some_iff.mp htype)) (htext kind)

/-- A text has an envelope or lacks some part of one. -/
theorem dropped_or_envelope (data : String) :
    Dropped data ∨ ∃ members kind, Envelope data members kind := by
  by_cases hvalue : ∃ j, IsPlainText data j
  · obtain ⟨j, hj⟩ := hvalue
    by_cases hobject : ∃ members, j = .obj members
    · obtain ⟨members, rfl⟩ := hobject
      by_cases htype : ∃ i, LastMember members "type" i
      · obtain ⟨i, hi⟩ := htype
        by_cases htext : ∃ kind, i = .str kind
        · obtain ⟨kind, rfl⟩ := htext
          exact Or.inr ⟨members, kind, hj, hi⟩
        · exact Or.inl (.typeNoText hj hi fun kind hkind => htext ⟨kind, hkind⟩)
      · exact Or.inl (.noType hj fun i hi => htype ⟨i, hi⟩)
    · exact Or.inl (.noObject hj fun members hmembers => hobject ⟨members, hmembers⟩)
  · exact Or.inl (.noValue fun j hj => hvalue ⟨j, hj⟩)

/-- **An object with a text as its type is a notification**, whatever its other members hold. -/
theorem Envelope.exists_notification {data kind : String} {members : List (String × Json)}
    (h : Envelope data members kind) (hkind : kind ≠ "connected") :
    ∃ n, Inbound.decode? data = some (.notification n) ∧ n.Restates members kind := by
  obtain ⟨n, hn, hrestates⟩ := Notification.ofJson?_kept h.plain h.kind
  refine ⟨n, ?_, hrestates⟩
  rw [h.decode?, if_neg hkind, hn]
  rfl

/-- An integer of 64 bits and its digits between blanks are one id. -/
theorem eq_of_givesId {members : List (String × Json)} {name : String} {field : Option Int}
    {i : Int} (hfield : Notification.HoldsId members name field) (hi : Text.IsInt64 i)
    (h : GivesId members name i) : field = some i := by
  rw [hfield]
  rcases h with hint | ⟨before, after, hbefore, hafter, hstr⟩
  · exact Or.inl ⟨hi, hint⟩
  · exact Or.inr ⟨_, hstr, hi, before, _, after, String.toList_ofList, hbefore, hafter,
      Text.decimal_integer i⟩

/-- **Only the envelope decides.** A text is dropped exactly if it has none, it is a greeting
exactly if its type says so, and any other is a notification that holds what the members say, in
which an integer and its digits are one id. -/
theorem frame_is_read_by_envelope (data : String) :
    (Inbound.decode? data = none ↔ Dropped data)
    ∧ (Inbound.decode? data = some .connected ↔ ∃ members, Envelope data members "connected")
    ∧ ∀ members kind, Envelope data members kind → kind ≠ "connected" →
        ∃ n, Inbound.decode? data = some (.notification n) ∧ n.Restates members kind
          ∧ ∀ f ∈ n.ids, ∀ i, Text.IsInt64 i → GivesId members f.1 i → f.2 = some i := by
  refine ⟨⟨fun h => ?_, Dropped.decode?⟩, ⟨fun h => ?_, ?_⟩, ?_⟩
  · -- a text with an envelope is not dropped
    rcases dropped_or_envelope data with hdropped | ⟨members, kind, henvelope⟩
    · exact hdropped
    · by_cases hkind : kind = "connected"
      · rw [henvelope.decode?, if_pos hkind] at h
        cases h
      · obtain ⟨n, hn, _⟩ := henvelope.exists_notification hkind
        rw [hn] at h
        cases h
  · -- and one of another type is no greeting
    rcases dropped_or_envelope data with hdropped | ⟨members, kind, henvelope⟩
    · rw [hdropped.decode?] at h
      cases h
    · by_cases hkind : kind = "connected"
      · exact ⟨members, hkind ▸ henvelope⟩
      · obtain ⟨n, hn, _⟩ := henvelope.exists_notification hkind
        rw [hn] at h
        cases h
  · rintro ⟨members, henvelope⟩
    rw [henvelope.decode?, if_pos rfl]
  · intro members kind henvelope hkind
    obtain ⟨n, hn, hrestates⟩ := henvelope.exists_notification hkind
    exact ⟨n, hn, hrestates, fun f hf i hi hgives =>
      eq_of_givesId (hrestates.ids f hf) hi hgives⟩

/-- A frame with a team that is given twice and an id as text. -/
def oddFrame : String :=
  "\x7b\"type\":\"task_update\",\"team\":[],\"task_id\":\" 7\\t\",\"team\":\"a\"\x7d"

def oddMembers : List (String × Json) :=
  [("type", .str "task_update"), ("team", .arr []), ("task_id", .str " 7\t"), ("team", .str "a")]

theorem odd_update_is_read :
    ∃ n, Inbound.decode? oddFrame = some (.notification n)
      ∧ n.kind = .taskUpdate ∧ n.team = some "a" ∧ n.taskId = some 7 := by
  have henvelope : Envelope oddFrame oddMembers "task_update" :=
    ⟨⟨Json.ofString?_eq_some_iff.mp rfl, rfl⟩, [], oddMembers.tail, rfl, by decide⟩
  obtain ⟨n, hn, hrestates, hids⟩ :=
    (frame_is_read_by_envelope oddFrame).2.2 oddMembers _ henvelope (by decide)
  have hteam : LastMember oddMembers "team" (.str "a") := ⟨oddMembers.take 3, [], rfl, by decide⟩
  have htask : LastMember oddMembers "task_id" (.str " 7\t") :=
    ⟨oddMembers.take 2, oddMembers.drop 3, rfl, by decide⟩
  exact ⟨n, hn, hrestates.kind.trans (by decide),
    (hrestates.texts ("team", n.team) (by simp [Notification.texts]) "a").mpr (Or.inl hteam),
    hids ("task_id", n.taskId) (by simp [Notification.ids]) 7 ⟨by decide, by decide⟩
      (Or.inr ⟨[' '], ['\t'], List.forall_mem_singleton.mpr rfl, List.forall_mem_singleton.mpr rfl,
        htask⟩)⟩

end Inbound

end TeamConsole
