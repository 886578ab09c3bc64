import Mathlib.Data.List.Nodup
import TeamConsole.Json.Record

/-!
# Members and records

An object keeps its members as they came, also those of one name. Plain data has the last of
them, and a record the only one. The lemmas here say which member that is.

* **`mem_lastOfEach_iff`**: plain data has the last member of each name.
* **`record?_filter`**, **`get?_of_mem`**: the members that a record has no field for, and those
  that it has one for.
* **`record?_of_no_aliases`**: a record of fields with one name each, as a choice of members.
* **`exists_record`**: an object without repeated names is a record, whatever its members hold.
* **`PlainWithin`**, **`isPlain_iff`**: the values that a reader of plain data holds, by rules.
-/

namespace TeamConsole.Json

/-! ## The last member of a name -/

/-- The member of this name after which no other comes. -/
def LastMember (members : List (String × Json)) (name : String) (j : Json) : Prop :=
  ∃ before after, members = before ++ (name, j) :: after ∧ ∀ m ∈ after, m.1 ≠ name

theorem LastMember.mem {members : List (String × Json)} {name : String} {j : Json}
    (h : LastMember members name j) : (name, j) ∈ members := by
  obtain ⟨before, after, rfl, _⟩ := h
  simp

theorem lastMember_cons_iff {m : String × Json} {members : List (String × Json)} {name : String}
    {j : Json} :
    LastMember (m :: members) name j ↔
      LastMember members name j ∨ m = (name, j) ∧ ∀ n ∈ members, n.1 ≠ name := by
  constructor
  · rintro ⟨before, after, hsplit, hafter⟩
    cases before with
    | nil =>
      obtain ⟨rfl, rfl⟩ := List.cons.inj hsplit
      exact Or.inr ⟨rfl, hafter⟩
    | cons b before =>
      obtain ⟨rfl, rfl⟩ := List.cons.inj hsplit
      exact Or.inl ⟨before, after, rfl, hafter⟩
  · rintro (⟨before, after, rfl, hafter⟩ | ⟨rfl, hafter⟩)
    · exact ⟨m :: before, after, rfl, hafter⟩
    · exact ⟨[], members, rfl, hafter⟩

theorem any_lastOfEach (members : List (String × Json)) (name : String) :
    (lastOfEach members).any (·.1 = name) = members.any (·.1 = name) := by
  induction members generalizing name with
  | nil => rfl
  | cons m members ih =>
    have hcons : lastOfEach (m :: members) = if (lastOfEach members).any (·.1 = m.1)
        then lastOfEach members else m :: lastOfEach members := rfl
    rw [hcons, ih]
    split
    · rename_i hany
      rw [ih, List.any_cons]
      by_cases hname : m.1 = name
      · simp [← hname, hany]
      · simp [hname]
    · rw [List.any_cons, List.any_cons, ih]

theorem lastOfEach_cons (m : String × Json) (members : List (String × Json)) :
    lastOfEach (m :: members) =
      if m.1 ∈ members.map Prod.fst then lastOfEach members else m :: lastOfEach members := by
  have hany : (lastOfEach members).any (·.1 = m.1) = true ↔ m.1 ∈ members.map Prod.fst := by
    rw [any_lastOfEach]
    simp
  show (if (lastOfEach members).any (·.1 = m.1) = true then _ else _) = _
  simp only [hany]
  rfl

theorem nodup_lastOfEach (members : List (String × Json)) :
    ((lastOfEach members).map Prod.fst).Nodup := by
  induction members with
  | nil => exact List.nodup_nil
  | cons m members ih =>
    rw [lastOfEach_cons]
    split
    · exact ih
    · rename_i hm
      refine List.nodup_cons.mpr ⟨fun hmem => hm ?_, ih⟩
      have hany : (lastOfEach members).any (·.1 = m.1) = true := by simpa using hmem
      rw [any_lastOfEach] at hany
      simpa using hany

/-- **The members of plain data** are the last ones. -/
theorem mem_lastOfEach_iff {members : List (String × Json)} {name : String} {j : Json} :
    (name, j) ∈ lastOfEach members ↔ LastMember members name j := by
  induction members with
  | nil => exact ⟨fun h => absurd h List.not_mem_nil, fun h => absurd h.mem List.not_mem_nil⟩
  | cons m members ih =>
    rw [lastOfEach_cons, lastMember_cons_iff, ← ih]
    split
    · rename_i hm
      refine ⟨Or.inl, fun h => h.elim id ?_⟩
      rintro ⟨rfl, hnone⟩
      obtain ⟨n, hn, hname⟩ := List.mem_map.mp hm
      exact absurd hname (hnone n hn)
    · rename_i hm
      rw [List.mem_cons]
      constructor
      · rintro (rfl | h)
        · refine Or.inr ⟨rfl, fun n hn hname => hm ?_⟩
          exact List.mem_map.mpr ⟨n, hn, hname⟩
        · exact Or.inl h
      · rintro (h | ⟨rfl, _⟩)
        · exact Or.inr h
        · exact Or.inl rfl

/-! ## Records -/

@[simp] theorem Record.get?_cons (m : String × Json) (r : Record) (name : String) :
    Record.get? (m :: r) name = if m.1 = name then some m.2 else r.get? name := by
  unfold Record.get?
  by_cases h : m.1 = name <;> simp [h]

@[simp] theorem Record.get?_nil (name : String) : Record.get? [] name = none :=
  rfl

/-- A member for which a record has no field does not count. -/
theorem record?_filter {fields : List Field} {name : String}
    (h : ∀ f ∈ fields, f.goesBy name = false) (members : List (String × Json)) :
    record? fields (.obj (members.filter (·.1 ≠ name))) = record? fields (.obj members) := by
  have hnone : fields.find? (·.goesBy name) = none :=
    List.find?_eq_none.mpr fun f hf => by simp [h f hf]
  unfold record?
  simp only [List.filterMap_filter]
  rw [List.filterMap_congr fun m _ => ?_]
  by_cases hname : m.1 = name
  · simp [hname, hnone]
  · simp [hname]

theorem Record.get?_of_nodup {r : Record} (hr : (r.map Prod.fst).Nodup) {name : String} {j : Json}
    (h : (name, j) ∈ r) : r.get? name = some j := by
  unfold Record.get?
  cases hfound : r.find? (·.1 = name) with
  | none => exact absurd (decide_eq_true rfl) (List.find?_eq_none.mp hfound _ h)
  | some x =>
    have hname : x.1 = name := by simpa using List.find?_some hfound
    rw [List.inj_on_of_nodup_map hr (List.mem_of_find?_eq_some hfound) h hname]
    rfl

theorem Record.mem_of_get? {r : Record} {name : String} {j : Json} (h : r.get? name = some j) :
    (name, j) ∈ r := by
  obtain ⟨m, hm, rfl⟩ := Option.map_eq_some_iff.mp h
  have hname : m.1 = name := by simpa using List.find?_some hm
  rw [← hname]
  exact List.mem_of_find?_eq_some hm

/-- What a member says stands in its field. -/
theorem get?_of_mem {fields : List Field} {f : Field} {name : String} {j : Json}
    {members : List (String × Json)} {r : Record}
    (hfield : fields.find? (·.goesBy name) = some f) (hmember : (name, j) ∈ members)
    (hr : record? fields (.obj members) = some r) : r.get? f.name = some j := by
  unfold record? at hr
  simp only at hr
  split at hr
  · rename_i hnodup
    cases hr
    exact Record.get?_of_nodup hnodup
      (List.mem_filterMap.mpr ⟨(name, j), hmember, by rw [hfield]; rfl⟩)
  · cases hr

theorem Record.get?_filter (r : Record) {q : String → Bool} {name : String} (h : q name = true) :
    Record.get? (r.filter fun m => q m.1) name = r.get? name := by
  unfold Record.get?
  rw [List.find?_filter]
  congr 2
  funext m
  by_cases hm : m.1 = name
  · simp [hm, h]
  · simp [hm]

/-- A record of fields that have one name each keeps the members that go by these names, if none of
them is repeated. -/
theorem record?_of_no_aliases {fields : List Field} (hfields : ∀ f ∈ fields, f.aliases = [])
    (members : List (String × Json)) :
    record? fields (.obj members) =
      if ((members.filter fun m => (fields.map Field.name).contains m.1).map Prod.fst).Nodup then
        some (members.filter fun m => (fields.map Field.name).contains m.1)
      else none := by
  -- a member stands under its own name or not at all
  have hgiven : ∀ m : String × Json,
      ((fields.find? (·.goesBy m.1)).map fun f => (f.name, m.2)) =
        if (fields.map Field.name).contains m.1 then some m else none := by
    intro m
    cases hfound : fields.find? (·.goesBy m.1) with
    | none =>
      have hnone : ¬ (fields.map Field.name).contains m.1 = true := by
        intro hcontains
        obtain ⟨f, hf, hname⟩ := List.mem_map.mp (List.contains_iff_mem.mp hcontains)
        exact List.find?_eq_none.mp hfound f hf (by simp [Field.goesBy, hname])
      rw [if_neg hnone]
      rfl
    | some f =>
      have hf : f ∈ fields := List.mem_of_find?_eq_some hfound
      have hgoes : f.goesBy m.1 = true :=
        List.find?_some (p := fun f : Field => f.goesBy m.1) hfound
      have hname : f.name = m.1 := by simpa [Field.goesBy, hfields f hf] using hgoes
      have hcontains : (fields.map Field.name).contains m.1 = true :=
        List.contains_iff_mem.mpr (List.mem_map.mpr ⟨f, hf, hname⟩)
      rw [if_pos hcontains, Option.map_some, hname]
  have hfilter : (members.filterMap fun m =>
        (fields.find? (·.goesBy m.1)).map fun f => (f.name, m.2))
      = members.filter fun m => (fields.map Field.name).contains m.1 := by
    simp only [hgiven, ← List.filterMap_eq_filter]
    rfl
  unfold record?
  simp only [hfilter]

/-- **An object without repeated names is a record** of fields that have one name each, and the
members are what stands in the fields. -/
theorem exists_record {fields : List Field} {members : List (String × Json)}
    (hmembers : (members.map Prod.fst).Nodup) (hfields : ∀ f ∈ fields, f.aliases = []) :
    ∃ r, record? fields (.obj members) = some r
      ∧ ∀ f ∈ fields, ∀ j, r.get? f.name = some j ↔ (f.name, j) ∈ members := by
  have hnodup : ((members.filter fun m => (fields.map Field.name).contains m.1).map
      Prod.fst).Nodup := hmembers.sublist (List.filter_sublist.map Prod.fst)
  refine ⟨_, (record?_of_no_aliases hfields members).trans (if_pos hnodup), fun f hf j => ?_⟩
  rw [Record.get?_filter members (List.contains_iff_mem.mpr (List.mem_map_of_mem hf))]
  exact ⟨Record.mem_of_get?, Record.get?_of_nodup hmembers⟩

/-! ## Plain data -/

theorem resolveMembers_eq_map (members : List (String × Json)) :
    resolveMembers members = members.map fun m => (m.1, m.2.resolve) := by
  induction members with
  | nil => rfl
  | cons m members ih => rw [resolveMembers, ih, List.map_cons]

theorem arePlainMembers_iff {room : Nat} {members : List (String × Json)} :
    arePlainMembers room members = true ↔ ∀ m ∈ members, m.2.isPlain room = true := by
  induction members with
  | nil => simp [arePlainMembers]
  | cons m members ih => simp [arePlainMembers, ih]

theorem arePlain_iff {room : Nat} {items : List Json} :
    arePlain room items = true ↔ ∀ j ∈ items, j.isPlain room = true := by
  induction items with
  | nil => simp [arePlain]
  | cons j items ih => simp [arePlain, ih]

/-- **Plain data within so many levels of nesting.** Every scalar has a value, and every array or
object around it takes a level. -/
inductive PlainWithin : Nat → Json → Prop where
  | null {room : Nat} : PlainWithin room .null
  | bool {room : Nat} (b : Bool) : PlainWithin room (.bool b)
  | num {room : Nat} (n : Number) : PlainWithin room (.num n)
  | str {room : Nat} (s : String) : PlainWithin room (.str s)
  | arr {room : Nat} {items : List Json} (h : ∀ j ∈ items, PlainWithin room j) :
      PlainWithin (room + 1) (.arr items)
  | obj {room : Nat} {members : List (String × Json)} (h : ∀ m ∈ members, PlainWithin room m.2) :
      PlainWithin (room + 1) (.obj members)

/-- The levels are counted down, so the recursion is on them and not on the value. -/
theorem isPlain_iff : (room : Nat) → (j : Json) → (j.isPlain room = true ↔ PlainWithin room j)
  | _, .null => ⟨fun _ => .null, fun _ => rfl⟩
  | _, .bool b => ⟨fun _ => .bool b, fun _ => rfl⟩
  | _, .num n => ⟨fun _ => .num n, fun _ => rfl⟩
  | _, .str s => ⟨fun _ => .str s, fun _ => rfl⟩
  | _, .unreadable | 0, .arr _ | 0, .obj _ => by
    constructor <;> intro h <;> cases h
  | room + 1, .arr items => by
    have hitems : (arr items).isPlain (room + 1) = arePlain room items := rfl
    rw [hitems, arePlain_iff]
    constructor
    · exact fun h => .arr fun j hj => (isPlain_iff room j).mp (h j hj)
    · intro h
      cases h with
      | arr h => exact fun j hj => (isPlain_iff room j).mpr (h j hj)
  | room + 1, .obj members => by
    have hmembers : (obj members).isPlain (room + 1) = arePlainMembers room members := rfl
    rw [hmembers, arePlainMembers_iff]
    constructor
    · exact fun h => .obj fun m hm => (isPlain_iff room m.2).mp (h m hm)
    · intro h
      cases h with
      | obj h => exact fun m hm => (isPlain_iff room m.2).mpr (h m hm)

theorem lastMember_map_iff {members : List (String × Json)} {g : Json → Json} {name : String}
    {j : Json} :
    LastMember (members.map fun m => (m.1, g m.2)) name j ↔
      ∃ i, LastMember members name i ∧ g i = j := by
  induction members with
  | nil =>
    constructor
    · exact fun h => absurd h.mem List.not_mem_nil
    · rintro ⟨i, h, _⟩
      exact absurd h.mem List.not_mem_nil
  | cons m members ih =>
    rw [List.map_cons, lastMember_cons_iff, ih]
    simp only [lastMember_cons_iff, List.forall_mem_map]
    constructor
    · rintro (⟨i, hi, rfl⟩ | ⟨hm, hnone⟩)
      · exact ⟨i, Or.inl hi, rfl⟩
      · cases hm
        exact ⟨m.2, Or.inr ⟨rfl, hnone⟩, rfl⟩
    · rintro ⟨i, hi | ⟨rfl, hnone⟩, rfl⟩
      · exact Or.inl ⟨i, hi, rfl⟩
      · exact Or.inr ⟨rfl, hnone⟩

mutual

/-- Plain data stays plain when only the last members of each name are kept. -/
theorem isPlain_resolve {room : Nat} : (j : Json) → j.isPlain room = true →
    j.resolve.isPlain room = true
  | .arr items, h => by
    simp only [isPlain, resolve, Bool.and_eq_true] at h ⊢
    exact ⟨h.1, arePlain_resolveItems items h.2⟩
  | .obj members, h => by
    simp only [isPlain, resolve, Bool.and_eq_true] at h ⊢
    have hall := arePlainMembers_resolveMembers members h.2
    rw [arePlainMembers_iff] at hall ⊢
    exact ⟨h.1, fun m hm => hall m (mem_lastOfEach_iff.mp hm).mem⟩
  | .null, _ | .bool _, _ | .num _, _ | .str _, _ => rfl
  | .unreadable, h => h

theorem arePlain_resolveItems {room : Nat} : (items : List Json) → arePlain room items = true →
    arePlain room (resolveItems items) = true
  | [], _ => rfl
  | j :: items, h => by
    simp only [arePlain, resolveItems, Bool.and_eq_true] at h ⊢
    exact ⟨isPlain_resolve j h.1, arePlain_resolveItems items h.2⟩

theorem arePlainMembers_resolveMembers {room : Nat} : (members : List (String × Json)) →
    arePlainMembers room members = true → arePlainMembers room (resolveMembers members) = true
  | [], _ => rfl
  | (name, j) :: members, h => by
    simp only [arePlainMembers, resolveMembers, Bool.and_eq_true] at h ⊢
    exact ⟨isPlain_resolve j h.1, arePlainMembers_resolveMembers members h.2⟩

end

end TeamConsole.Json
