import Mathlib.Data.List.Forall2
import TeamConsole.Proofs.RowReading
import TeamConsole.Team

/-!
# Two spellings of a key

The server spells its keys in two ways. Teams and agents have one field for both spellings, a row
has a field for each; so a team may not be named twice, while a row may hold both, and then the
capital one counts unless it is null.

* **`Respelled`**: the same members, each under either spelling of its key.
* **`TaskRow.ofJson?_obj_iff`**: a row is read from the members themselves, if no field is repeated.
* **`TaskRow.field_of_givenAs`**: a field that is given once is read from what is given.
* **`key_spelling_does_not_matter`**: the headline.
-/

namespace TeamConsole

variable {members members' : List (String × Json)}

namespace Json

/-! ## Spellings -/

/-- The keys that have two spellings, capitalised and small. -/
def spellings : List (String × String) :=
  TaskRow.names ++ [("TeamID", "team_id"), ("Name", "name"), ("AgentCount", "agent_count"),
    ("TaskCount", "task_count"), ("Role", "role")]

/-- Whether a name is one of two spellings. -/
def spells (p : String × String) (name : String) : Bool :=
  name = p.1 ∨ name = p.2

/-- Whether two names are the same key. -/
def SameKey (a b : String) : Prop :=
  a = b ∨ (a, b) ∈ spellings ∨ (b, a) ∈ spellings

/-- The same members in the same order, where a key may be spelled the other way. -/
def Respelled (members members' : List (String × Json)) : Prop :=
  List.Forall₂ (fun m m' => SameKey m.1 m'.1 ∧ m.2 = m'.2) members members'

/-- What is given under either spelling. -/
def givenAs (p : String × String) (members : List (String × Json)) : List Json :=
  (members.filter fun m => spells p m.1).map Prod.snd

/-- Whether every one of the keys is given at most once, in either spelling. -/
def GivenOnce (keys : List (String × String)) (members : List (String × Json)) : Prop :=
  ∀ p ∈ keys, (givenAs p members).length ≤ 1

/-- The only member of a name. -/
def OnlyMember (members : List (String × Json)) (name : String) (j : Json) : Prop :=
  members.filter (·.1 = name) = [(name, j)]

/-- The members of all names but one. -/
def without (name : String) (members : List (String × Json)) : List (String × Json) :=
  members.filter (·.1 ≠ name)

/-- No name is a spelling of two keys. -/
theorem spells_of_sameKey {p : String × String} (hp : p ∈ spellings) {a b : String}
    (h : SameKey a b) : spells p a = spells p b := by
  -- over all pairs of keys of the table
  have hall : ∀ p ∈ spellings, ∀ q ∈ spellings, spells p q.1 = spells p q.2 := by decide
  obtain rfl | hab | hba := h
  · rfl
  · exact hall p hp _ hab
  · exact (hall p hp _ hba).symm

theorem Respelled.givenAs_eq (h : Respelled members members') {p : String × String}
    (hp : p ∈ spellings) : givenAs p members = givenAs p members' := by
  induction h with
  | nil => rfl
  | @cons m m' members members' hm _ ih =>
    obtain ⟨hkey, hvalue⟩ := hm
    have hspells : spells p m.1 = spells p m'.1 := spells_of_sameKey hp hkey
    unfold givenAs at ih ⊢
    rw [List.filter_cons, List.filter_cons, hspells]
    split
    · rw [List.map_cons, List.map_cons, hvalue, ih]
    · exact ih

/-! ## One member of a name -/

theorem OnlyMember.get? {name : String} {j : Json} (h : OnlyMember members name j) :
    Record.get? members name = some j := by
  unfold OnlyMember at h
  rw [Record.get?, ← List.head?_filter, h]
  rfl

theorem get?_without_self (members : List (String × Json)) (name : String) :
    Record.get? (without name members) name = none := by
  unfold without Record.get?
  rw [List.find?_filter]
  simp

theorem get?_without_other (members : List (String × Json)) {name other : String}
    (h : other ≠ name) : Record.get? (without name members) other = Record.get? members other :=
  Record.get?_filter members (q := fun n => n ≠ name) (decide_eq_true h)

/-! ## One field for both spellings -/

/-- **A record does not depend on the spelling** if it has one field for both. -/
theorem Respelled.record?_eq (h : Respelled members members') {fields : List Field}
    (hfields : ∀ p ∈ spellings, (fields.find? (·.goesBy p.1)).map Field.name
      = (fields.find? (·.goesBy p.2)).map Field.name) :
    record? fields (.obj members) = record? fields (.obj members') := by
  have hfield : ∀ {a b : String}, SameKey a b → (fields.find? (·.goesBy a)).map Field.name
      = (fields.find? (·.goesBy b)).map Field.name := by
    rintro a b (rfl | hab | hba)
    · rfl
    · exact hfields _ hab
    · exact (hfields _ hba).symm
  have hgiven :
      (members.filterMap fun m => (fields.find? (·.goesBy m.1)).map fun f => (f.name, m.2))
        = members'.filterMap fun m => (fields.find? (·.goesBy m.1)).map fun f => (f.name, m.2) := by
    induction h with
    | nil => rfl
    | @cons m m' members members' hm _ ih =>
      obtain ⟨hkey, hvalue⟩ := hm
      have hhead : (fields.find? (·.goesBy m.1)).map (fun f => (f.name, m.2))
          = (fields.find? (·.goesBy m'.1)).map fun f => (f.name, m'.2) := by
        have hname := congrArg (Option.map fun name => (name, m'.2)) (hfield hkey)
        rw [Option.map_map, Option.map_map] at hname
        rw [hvalue]
        exact hname
      rw [List.filterMap_cons, List.filterMap_cons, hhead, ih]
  unfold record?
  simp only [hgiven]

end Json

open Json

theorem TeamSummary.ofJson?_respelled (h : Respelled members members') :
    ofJson? (.obj members) = ofJson? (.obj members') := by
  unfold ofJson?
  rw [h.record?_eq (by decide)]

theorem Agent.ofJson?_respelled (h : Respelled members members') :
    ofJson? (.obj members) = ofJson? (.obj members') := by
  unfold ofJson?
  rw [h.record?_eq (by decide)]

/-! ## A field for each spelling -/

namespace TaskRow

/-- Whether a row has a field of this name. -/
def known (name : String) : Bool :=
  (fields.map Field.name).contains name

theorem known_iff {name : String} : known name = true ↔ ∃ p ∈ names, spells p name = true := by
  simp only [known, fields, spells, List.contains_iff_mem, List.mem_map, List.mem_flatMap,
    decide_eq_true_eq]
  constructor
  · rintro ⟨f, ⟨p, hp, hf⟩, rfl⟩
    obtain rfl | rfl : f = ⟨p.1, []⟩ ∨ f = ⟨p.2, []⟩ := by simpa using hf
    · exact ⟨p, hp, Or.inl rfl⟩
    · exact ⟨p, hp, Or.inr rfl⟩
  · rintro ⟨p, hp, rfl | rfl⟩
    · exact ⟨⟨p.1, []⟩, ⟨p, hp, by simp⟩, rfl⟩
    · exact ⟨⟨p.2, []⟩, ⟨p, hp, by simp⟩, rfl⟩

theorem known_names (k : Key) : known k.names.1 = true ∧ known k.names.2 = true := by
  cases k <;> decide

/-- Whether no field has two members of its name. -/
def Unrepeated (members : List (String × Json)) : Prop :=
  ∀ name, known name = true → members.countP (·.1 = name) ≤ 1

theorem nodup_known_iff :
    ((members.filter fun m => known m.1).map Prod.fst).Nodup ↔ Unrepeated members := by
  have hcount : ∀ name, List.count name ((members.filter fun m => known m.1).map Prod.fst)
      = if known name = true then members.countP (·.1 = name) else 0 := by
    intro name
    rw [List.count_eq_countP, List.countP_map, List.countP_filter]
    split
    · rename_i hknown
      refine List.countP_congr fun m _ => ?_
      by_cases hm : m.1 = name <;> simp [hm, hknown]
    · rename_i hknown
      refine List.countP_eq_zero.mpr fun m _ => ?_
      by_cases hm : m.1 = name <;> simp [hm, hknown]
  rw [List.nodup_iff_count_le_one]
  refine forall_congr' fun name => ?_
  rw [hcount]
  by_cases hknown : known name = true <;> simp [hknown]

/-- A field is read from the members of its two names. -/
theorem field_filter {α : Type} {read : Json → Option α} {capital small : String}
    {q : String → Bool} (hcapital : q capital = true) (hsmall : q small = true) :
    field (members.filter fun m => q m.1) capital small read
      = field members capital small read := by
  simp only [field, Record.optional, Record.withDefault, Record.get?_filter members hcapital,
    Record.get?_filter members hsmall]

/-- **A row is read from the members of an object** of which no field is repeated. -/
theorem ofJson?_obj_iff {row : TaskRow} :
    ofJson? (.obj members) = some row ↔ Unrepeated members ∧ ofRecord? members = some row := by
  have hrecord : ofRecord? (members.filter fun m => known m.1) = ofRecord? members :=
    ofRecord?_congr fun k => field_filter (known_names k).1 (known_names k).2
  rw [ofJson?_obj, record?_of_no_aliases no_aliases, ← nodup_known_iff, ← hrecord]
  split
  · rename_i hnodup
    exact (and_iff_right hnodup).symm
  · rename_i hnodup
    exact iff_of_false nofun fun h => hnodup h.1

/-- Two objects give the same row if the fields hold the same and both are without repetition or
neither is. -/
theorem ofJson?_congr
    (hrepeated : Unrepeated members ↔ Unrepeated members')
    (hhold : ∀ k : Key, k.hold? members = k.hold? members') :
    ofJson? (.obj members) = ofJson? (.obj members') := by
  refine Option.ext fun row => ?_
  rw [ofJson?_obj_iff, ofJson?_obj_iff, hrepeated, ofRecord?_congr hhold]

/-! ### A field given once -/

theorem unrepeated_of_givenOnce (h : GivenOnce names members) : Unrepeated members := by
  intro name hknown
  obtain ⟨p, hp, hspells⟩ := known_iff.mp hknown
  calc members.countP (·.1 = name)
      ≤ members.countP (fun m => spells p m.1) :=
        List.countP_mono_left fun m _ hm => by rw [of_decide_eq_true hm]; exact hspells
    _ = (givenAs p members).length := by rw [givenAs, List.length_map, List.countP_eq_length_filter]
    _ ≤ 1 := h p hp

/-- **A field given once** is read from what is given. -/
theorem field_of_givenAs {α : Type} {p : String × String} (hp : p.1 ≠ p.2)
    (h : (givenAs p members).length ≤ 1) (read : Json → Option α) :
    field members p.1 p.2 read = (givenAs p members).head?.elim (some none) (orNull read) := by
  have hspells : spells p p.1 = true ∧ spells p p.2 = true := by simp [spells]
  -- nothing is left but the one member, if any
  rw [← field_filter hspells.1 hspells.2]
  unfold givenAs at h ⊢
  cases hgiven : members.filter fun m => spells p m.1 with
  | nil => rfl
  | cons m rest =>
    obtain rfl : rest = [] := by
      rw [hgiven] at h
      simpa using h
    have hmember : m ∈ members.filter fun m => spells p m.1 := by
      rw [hgiven]
      exact List.mem_singleton_self m
    have hm : spells p m.1 = true := (List.mem_filter.mp hmember).2
    obtain hm | hm : m.1 = p.1 ∨ m.1 = p.2 := by simpa [spells] using hm
    · cases horNull : orNull read m.2 <;>
        simp [field, Record.optional, Record.withDefault, hm, hp, horNull]
    · cases horNull : orNull read m.2 <;>
        simp [field, Record.optional, Record.withDefault, hm, hp.symm, horNull]

theorem mem_spellings {p : String × String} (hp : p ∈ names) : p ∈ spellings :=
  List.mem_append_left _ hp

theorem names_ne (k : Key) : k.names.1 ≠ k.names.2 := by
  cases k <;> decide

/-- **A row does not depend on the spelling** if every field is given once. -/
theorem ofJson?_respelled (h : Respelled members members') (honce : GivenOnce names members) :
    ofJson? (.obj members) = ofJson? (.obj members') := by
  have honce' : GivenOnce names members' := fun p hp =>
    h.givenAs_eq (mem_spellings hp) ▸ honce p hp
  refine ofJson?_congr
    (iff_of_true (unrepeated_of_givenOnce honce) (unrepeated_of_givenOnce honce')) fun k => ?_
  unfold Key.hold?
  rw [field_of_givenAs (names_ne k) (honce _ k.names_mem),
    field_of_givenAs (names_ne k) (honce' _ k.names_mem), h.givenAs_eq (mem_spellings k.names_mem)]

/-! ### A field given in both spellings -/

/-- A field loses its repetition with a member only if there were two. -/
theorem unrepeated_without_iff {name : String} {j : Json} (h : OnlyMember members name j) :
    Unrepeated (without name members) ↔ Unrepeated members := by
  refine forall_congr' fun other => imp_congr_right fun _ => ?_
  unfold without
  rw [List.countP_filter]
  by_cases hother : other = name
  · -- one member of this name goes, and one is no repetition
    subst hother
    have hone : members.countP (·.1 = other) = 1 := by
      rw [List.countP_eq_length_filter, h]
      rfl
    have hnone : (members.countP fun m => decide (m.1 = other) && decide (m.1 ≠ other)) = 0 :=
      List.countP_eq_zero.mpr fun m _ => by simp
    rw [hone, hnone]
    simp
  · have hsame : (members.countP fun m => decide (m.1 = other) && decide (m.1 ≠ name))
        = members.countP (·.1 = other) :=
      List.countP_congr fun m _ => by
        by_cases hm : m.1 = other <;> simp [hm, hother]
    rw [hsame]

theorem not_spells_of_ne {k other : Key} (h : other ≠ k) :
    spells other.names k.names.1 = false ∧ spells other.names k.names.2 = false := by
  cases k <;> cases other <;> first | exact absurd rfl h | decide

/-- A row does without one of two spellings if its field does. -/
theorem ofJson?_without {k : Key} {name : String} {j : Json}
    (hname : name = k.names.1 ∨ name = k.names.2) (honly : OnlyMember members name j)
    (hhold : k.hold? members = k.hold? (without name members)) :
    ofJson? (.obj members) = ofJson? (.obj (without name members)) := by
  refine ofJson?_congr (unrepeated_without_iff honly).symm fun other => ?_
  by_cases hother : other = k
  · rw [hother]
    exact hhold
  · -- the other fields have names of their own
    have hspells : spells other.names name = false := by
      obtain rfl | rfl := hname
      · exact (not_spells_of_ne hother).1
      · exact (not_spells_of_ne hother).2
    obtain ⟨hcapital, hsmall⟩ : name ≠ other.names.1 ∧ name ≠ other.names.2 := by
      simpa [spells, not_or] using hspells
    exact (field_filter (q := fun n => n ≠ name) (decide_eq_true hcapital.symm)
      (decide_eq_true hsmall.symm)).symm

theorem optional_of_get? {α : Type} {read : Json → Option α} {r : Record} {name : String} {v : Json}
    (h : r.get? name = some v) : r.optional name read = orNull read v := by
  rw [Record.optional, Record.withDefault, h]

theorem optional_of_missing {α : Type} {read : Json → Option α} {r : Record} {name : String}
    (h : r.get? name = none) : r.optional name read = some none := by
  rw [Record.optional, Record.withDefault, h]

/-- The capital spelling counts unless it is null. -/
theorem field_of_capital {α : Type} {read : Json → Option α} {r : Record} {capital small : String}
    {v : Json} (hv : r.get? capital = some v) (hne : v ≠ .null)
    (hsmall : (r.optional small read).isSome = true) :
    field r capital small read = orNull read v := by
  obtain ⟨second, hsecond⟩ := Option.isSome_iff_exists.mp hsmall
  rw [field, optional_of_get? hv, hsecond]
  cases hfirst : orNull read v with
  | none => rfl
  | some first =>
    cases first with
    | none => exact absurd (orNull_eq_none_iff.mp hfirst) hne
    | some value => rfl

theorem field_of_no_capital {α : Type} {read : Json → Option α} {r : Record}
    {capital small : String} (h : r.optional capital read = some none) :
    field r capital small read = r.optional small read := by
  rw [field, h]
  cases r.optional small read <;> rfl

variable {k : Key} {v w : Json}

theorem capital_counts (hv : OnlyMember members k.names.1 v) (hw : OnlyMember members k.names.2 w)
    (hne : v ≠ .null) (hreadable : (orNull k.read w).isSome = true) :
    k.hold? members = orNull k.read v
      ∧ ofJson? (.obj members) = ofJson? (.obj (without k.names.2 members)) := by
  have hboth : k.hold? members = orNull k.read v :=
    field_of_capital hv.get? hne (by rw [optional_of_get? hw.get?]; exact hreadable)
  have hone : k.hold? (without k.names.2 members) = orNull k.read v :=
    field_of_capital ((get?_without_other members (names_ne k)).trans hv.get?) hne
      (by rw [optional_of_missing (get?_without_self members _)]; rfl)
  exact ⟨hboth, ofJson?_without (Or.inr rfl) hw (hboth.trans hone.symm)⟩

theorem small_counts (hv : OnlyMember members k.names.1 .null)
    (hw : OnlyMember members k.names.2 w) :
    k.hold? members = orNull k.read w
      ∧ ofJson? (.obj members) = ofJson? (.obj (without k.names.1 members)) := by
  have hboth : k.hold? members = orNull k.read w :=
    (field_of_no_capital (optional_of_get? hv.get?)).trans (optional_of_get? hw.get?)
  have hone : k.hold? (without k.names.1 members) = orNull k.read w :=
    (field_of_no_capital (optional_of_missing (get?_without_self members _))).trans
      (optional_of_get? ((get?_without_other members (names_ne k).symm).trans hw.get?))
  exact ⟨hboth, ofJson?_without (Or.inl rfl) hv (hboth.trans hone.symm)⟩

theorem value_of_hold? {row : TaskRow} {held : Option (Option k.Value)}
    (hheld : k.hold? members = held) (h : ofJson? (.obj members) = some row) :
    held = some (k.value row) :=
  hheld.symm.trans (ofRecord?_eq_some_iff.mp (ofJson?_obj_iff.mp h).2 k)

end TaskRow

/-- **The spelling of a key does not matter.** Teams and agents are read alike from two objects that
differ in the spelling of keys, and so are tasks and answers if no field is given twice. If one is
given in both spellings, each once, the capital one is read and the other does not count, unless the
capital one is null. -/
theorem key_spelling_does_not_matter :
    (∀ members members', Respelled members members' →
      TeamSummary.ofJson? (.obj members) = TeamSummary.ofJson? (.obj members')
        ∧ Agent.ofJson? (.obj members) = Agent.ofJson? (.obj members')
        ∧ (GivenOnce TaskRow.names members →
          Task.ofJson? (.obj members) = Task.ofJson? (.obj members')
            ∧ TaskUpdate.ofJson? (.obj members) = TaskUpdate.ofJson? (.obj members')))
    ∧ ∀ members (k : TaskRow.Key) v w,
      OnlyMember members k.names.1 v → OnlyMember members k.names.2 w →
      (v ≠ .null → (orNull k.read w).isSome = true →
        Task.ofJson? (.obj members) = Task.ofJson? (.obj (without k.names.2 members))
          ∧ TaskUpdate.ofJson? (.obj members)
            = TaskUpdate.ofJson? (.obj (without k.names.2 members))
          ∧ ∀ row, TaskRow.ofJson? (.obj members) = some row →
            orNull k.read v = some (k.value row))
      ∧ (v = .null →
        Task.ofJson? (.obj members) = Task.ofJson? (.obj (without k.names.1 members))
          ∧ TaskUpdate.ofJson? (.obj members)
            = TaskUpdate.ofJson? (.obj (without k.names.1 members))
          ∧ ∀ row, TaskRow.ofJson? (.obj members) = some row →
            orNull k.read w = some (k.value row)) := by
  have hreadings : ∀ {a b : Json}, TaskRow.ofJson? a = TaskRow.ofJson? b →
      Task.ofJson? a = Task.ofJson? b ∧ TaskUpdate.ofJson? a = TaskUpdate.ofJson? b := by
    intro a b hrow
    unfold Task.ofJson? TaskUpdate.ofJson?
    rw [hrow]
    exact ⟨rfl, rfl⟩
  constructor
  · intro members members' h
    exact ⟨TeamSummary.ofJson?_respelled h, Agent.ofJson?_respelled h,
      fun honce => hreadings (TaskRow.ofJson?_respelled h honce)⟩
  · intro members k v w hv hw
    constructor
    · intro hne hreadable
      obtain ⟨hheld, hrow⟩ := TaskRow.capital_counts hv hw hne hreadable
      obtain ⟨htask, hupdate⟩ := hreadings hrow
      exact ⟨htask, hupdate, fun _ => TaskRow.value_of_hold? hheld⟩
    · rintro rfl
      obtain ⟨hheld, hrow⟩ := TaskRow.small_counts hv hw
      obtain ⟨htask, hupdate⟩ := hreadings hrow
      exact ⟨htask, hupdate, fun _ => TaskRow.value_of_hold? hheld⟩

/-- An id under either name, under both, and under both with null for the capital one. -/
theorem either_task_id_is_read :
    Task.ofJson? (.obj [("TaskID", .num (.int 7)), ("Title", .str "ship")])
        = Task.ofJson? (.obj [("task_id", .num (.int 7)), ("Title", .str "ship")])
      ∧ Task.ofJson? (.obj [("task_id", .num (.int 8)), ("TaskID", .num (.int 7))])
        = some ⟨7, "", .todo, none, none, none, none, none, none⟩
      ∧ Task.ofJson? (.obj [("task_id", .num (.int 8)), ("TaskID", .null)])
        = some ⟨8, "", .todo, none, none, none, none, none, none⟩ := by
  have hrespelled : Respelled [("TaskID", .num (.int 7)), ("Title", .str "ship")]
      [("task_id", .num (.int 7)), ("Title", .str "ship")] :=
    .cons ⟨Or.inr (Or.inl (by decide)), rfl⟩ (.cons ⟨Or.inl rfl, rfl⟩ .nil)
  have honce : GivenOnce TaskRow.names [("TaskID", .num (.int 7)), ("Title", .str "ship")] := by
    unfold GivenOnce
    decide
  obtain ⟨halike, hboth⟩ := key_spelling_does_not_matter
  refine ⟨((halike _ _ hrespelled).2.2 honce).1, ?_, ?_⟩
  · have hcapital := hboth [("task_id", .num (.int 8)), ("TaskID", .num (.int 7))] .id
      (.num (.int 7)) (.num (.int 8)) rfl rfl
    exact (hcapital.1 nofun rfl).1.trans (by decide)
  · have hnull := hboth [("task_id", .num (.int 8)), ("TaskID", .null)] .id .null
      (.num (.int 8)) rfl rfl
    exact (hnull.2 rfl).1.trans (by decide)

end TeamConsole
