import Mathlib.Algebra.Group.Int.Defs
import Mathlib.Algebra.Group.Nat.Defs
import Mathlib.Data.Option.Basic
import TeamConsole.Settings

/-!
# What the entries of a record state

Settings are read from a TOML value by the names of its entries. An entry that is there states the
value of its field and has to be of the right kind; one that is not there states nothing, and leaves
the field to its default. Entries of other names are passed over.

* **`IsRecord`**: the entries that a value has for a list of fields (`record?_eq_some_iff`).
* **`Field`**: what these entries state of one field. A field is read with a default exactly if they
  state something of the right kind, or nothing (`withDefault_eq_some_iff`).
* **`HoldsText`**, **`HoldsNat`**: the kinds of values (`readText_eq_some_iff`,
  `readNat_eq_some_iff`).
-/

namespace TeamConsole.Toml

/-! ## Records -/

/-- **A value to be passed over.** No number in it is too large. -/
inductive Passable : Toml → Prop where
  | text (s : String) : Passable (.text s)
  | integer {i : Int} (hlow : -2 ^ 127 ≤ i) (hhigh : i < 2 ^ 128) : Passable (.integer i)
  | float {chars : List Char} (h : ∀ d, decimal? chars = some d → d.isFinite = true) :
      Passable (.float chars)
  | boolean (b : Bool) : Passable (.boolean b)
  | dateTime (chars : List Char) : Passable (.dateTime chars)
  | array {ofHeaders : Bool} {items : List Toml} (h : ∀ t ∈ items, Passable t) :
      Passable (.array ofHeaders items)
  | table {kind : TableKind} {entries : List (String × Toml)} (h : ∀ e ∈ entries, Passable e.2) :
      Passable (.table kind entries)

/-- **The value is a record of these fields**: a table, whose other entries are passed over, or an
array of the fields in their order. A date or time is a record without a field. -/
inductive IsRecord (fields : List String) : Toml → List (String × Toml) → Prop where
  | table {kind : TableKind} {entries : List (String × Toml)}
      (h : ∀ e ∈ entries, e.1 ∉ fields → e.2.Passable) :
      IsRecord fields (.table kind entries) entries
  | array (ofHeaders : Bool) (items : List Toml) :
      IsRecord fields (.array ofHeaders items) (fields.zip items)
  | dateTime (chars : List Char) : IsRecord fields (.dateTime chars) []

/-- **What a record states of a field**: nothing if it has no entry of the name, and otherwise what
stands in the first one. -/
inductive Field {α : Type} (r : List (String × Toml)) (name : String) (holds : Toml → α → Prop) :
    Option α → Prop where
  | absent (h : r.lookup name = none) : Field r name holds none
  | present {t : Toml} {a : α} (h : r.lookup name = some t) (hholds : holds t a) :
      Field r name holds (some a)

/-- The value is this text. -/
def HoldsText (t : Toml) (s : String) : Prop :=
  t = .text s

/-- The value is this number, which fits in so many bits. -/
def HoldsNat (bits : Nat) (t : Toml) (n : Nat) : Prop :=
  t = .integer n ∧ n < 2 ^ bits

/-! ## How they are read -/

theorem arePassable_iff {items : List Toml} :
    arePassable items = true ↔ ∀ t ∈ items, t.isPassable = true := by
  induction items with
  | nil => simp [arePassable]
  | cons t items ih => simp [arePassable, ih]

theorem arePassableEntries_iff {entries : List (String × Toml)} :
    arePassableEntries entries = true ↔ ∀ e ∈ entries, e.2.isPassable = true := by
  induction entries with
  | nil => simp [arePassableEntries]
  | cons e entries ih => simp [arePassableEntries, ih]

theorem within?_isSome_iff {range : Int × Int} {i : Int} :
    (Text.within? range i).isSome = true ↔ range.1 ≤ i ∧ i ≤ range.2 := by
  simp [Text.within?]

theorem sizeOf_snd_lt_of_mem {entries : List (String × Toml)} {e : String × Toml}
    (h : e ∈ entries) : sizeOf e.2 < sizeOf entries := by
  have hentry : sizeOf e.2 < sizeOf e := by
    obtain ⟨name, t⟩ := e
    simp only [Prod.mk.sizeOf_spec]
    omega
  exact Nat.lt_trans hentry (List.sizeOf_lt_of_mem h)

/-- The items of a value are smaller than the value, so the recursion is on its size. -/
theorem isPassable_iff : (t : Toml) → (t.isPassable = true ↔ t.Passable)
  | .text s => ⟨fun _ => .text s, fun _ => by simp [isPassable]⟩
  | .boolean b => ⟨fun _ => .boolean b, fun _ => by simp [isPassable]⟩
  | .dateTime chars => ⟨fun _ => .dateTime chars, fun _ => by simp [isPassable]⟩
  | .integer i => by
    rw [isPassable, within?_isSome_iff]
    constructor
    · exact fun ⟨hlow, hhigh⟩ => .integer hlow (Int.lt_of_le_sub_one hhigh)
    · intro h
      cases h with
      | integer hlow hhigh => exact ⟨hlow, Int.le_sub_one_of_lt hhigh⟩
  | .float chars => by
    have hall : (decimal? chars).all Decimal.isFinite = true
        ↔ ∀ d, decimal? chars = some d → d.isFinite = true := by
      cases decimal? chars <;> simp
    rw [isPassable, hall]
    constructor
    · exact .float
    · intro h
      cases h with
      | float h => exact h
  | .array ofHeaders items => by
    rw [isPassable, arePassable_iff]
    constructor
    · exact fun h => .array fun t ht => (isPassable_iff t).mp (h t ht)
    · intro h
      cases h with
      | array h => exact fun t ht => (isPassable_iff t).mpr (h t ht)
  | .table kind entries => by
    rw [isPassable, arePassableEntries_iff]
    constructor
    · intro h
      refine .table fun e he => ?_
      have hsize := sizeOf_snd_lt_of_mem he
      exact (isPassable_iff e.2).mp (h e he)
    · intro h
      cases h with
      | table h =>
        intro e he
        have hsize := sizeOf_snd_lt_of_mem he
        exact (isPassable_iff e.2).mpr (h e he)

theorem record?_eq_some_iff {fields : List String} {t : Toml} {r : List (String × Toml)} :
    t.record? fields = some r ↔ IsRecord fields t r := by
  cases t with
  | table kind entries =>
    have hothers :
        ((entries.filter fun e => !fields.contains e.1).all fun e => e.2.isPassable) = true
        ↔ ∀ e ∈ entries, e.1 ∉ fields → e.2.Passable := by
      rw [List.all_eq_true]
      simp only [List.mem_filter, Bool.not_eq_true', List.contains_eq_mem, decide_eq_false_iff_not,
        and_imp, isPassable_iff]
    simp only [record?, Option.bind_eq_bind, Option.bind_eq_some_iff, Option.guard_eq_some']
    rw [hothers]
    constructor
    · rintro ⟨_, h, hr⟩
      obtain rfl := Option.some.inj hr
      exact .table h
    · intro h
      cases h with
      | table h => exact ⟨(), h, rfl⟩
  | array ofHeaders items =>
    constructor
    · intro h
      obtain rfl := Option.some.inj h
      exact .array ofHeaders items
    · intro h
      cases h
      rfl
  | dateTime chars =>
    constructor
    · intro h
      obtain rfl := Option.some.inj h
      exact .dateTime chars
    · intro h
      cases h
      rfl
  | _ => constructor <;> intro h <;> cases h

theorem readText_eq_some_iff (t : Toml) (s : String) : readText t = some s ↔ HoldsText t s := by
  cases t <;> simp [readText, HoldsText]

theorem readNat_eq_some_iff {bits : Nat} {t : Toml} {n : Nat} :
    readNat (0, ((2 ^ bits : Nat) : Int) - 1) t = some n ↔ HoldsNat bits t n := by
  cases t with
  | integer i =>
    simp only [readNat, HoldsNat, Text.within?, integer.injEq, Option.map_eq_some_iff,
      Option.ite_none_right_eq_some, Option.some.injEq]
    constructor
    · rintro ⟨_, ⟨⟨hlow, hhigh⟩, rfl⟩, rfl⟩
      omega
    · rintro ⟨rfl, hn⟩
      exact ⟨n, ⟨by omega, rfl⟩, Int.toNat_natCast n⟩
  | _ => simp [readNat, HoldsNat]

theorem readNat64_eq_some_iff (t : Toml) (n : Nat) :
    readNat Text.nat64Range t = some n ↔ HoldsNat 64 t n := by
  have hrange : Text.nat64Range = (0, ((2 ^ 64 : Nat) : Int) - 1) := rfl
  rw [hrange, readNat_eq_some_iff]

theorem readNat32_eq_some_iff (t : Toml) (n : Nat) :
    readNat Text.nat32Range t = some n ↔ HoldsNat 32 t n := by
  have hrange : Text.nat32Range = (0, ((2 ^ 32 : Nat) : Int) - 1) := rfl
  rw [hrange, readNat_eq_some_iff]

/-- A default is what stands for a field that is not stated, and for nothing else. -/
theorem withDefault_eq_some_iff {α β : Type} {r : List (String × Toml)} {name : String}
    {default b : β} {read : Toml → Option β} {holds : Toml → α → Prop} {f : α → β}
    (hread : ∀ t b, read t = some b ↔ ∃ a, holds t a ∧ f a = b) :
    withDefault r name default read = some b ↔
      ∃ stated, Field r name holds stated ∧ (stated.map f).getD default = b := by
  rw [withDefault]
  cases hfound : r.lookup name with
  | none =>
    constructor
    · intro h
      exact ⟨none, .absent hfound, Option.some.inj h⟩
    · rintro ⟨_, _ | ⟨h, _⟩, hb⟩
      · exact congrArg some hb
      · cases hfound.symm.trans h
  | some t =>
    rw [hread]
    constructor
    · rintro ⟨a, ha, hb⟩
      exact ⟨some a, .present hfound ha, hb⟩
    · rintro ⟨_, h | ⟨h, ha⟩, hb⟩
      · cases hfound.symm.trans h
      · obtain rfl := Option.some.inj (hfound.symm.trans h)
        exact ⟨_, ha, hb⟩

theorem withDefault_self_eq_some_iff {α : Type} {r : List (String × Toml)} {name : String}
    {default a : α} {read : Toml → Option α} {holds : Toml → α → Prop}
    (hread : ∀ t a, read t = some a ↔ holds t a) :
    withDefault r name default read = some a ↔
      ∃ stated, Field r name holds stated ∧ stated.getD default = a := by
  rw [withDefault_eq_some_iff (f := id) fun t b => by simpa using hread t b]
  simp only [Option.map_id_fun, id]

end TeamConsole.Toml
