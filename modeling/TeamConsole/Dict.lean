/-!
Maps from keys to values, as lists of entries. A map is read through the value of a key only: the
order of its entries means nothing.
-/

namespace TeamConsole

/-- Entries, one for each key that has a value. -/
structure Dict (K V : Type) where
  entries : List (K × V) := []
  distinct : (entries.map Prod.fst).Nodup := by simp
deriving Repr

namespace Dict

variable {K V : Type}

/-- Whether no key has a value. -/
def isEmpty (d : Dict K V) : Bool :=
  d.entries.isEmpty

variable [DecidableEq K]

def get? (d : Dict K V) (k : K) : Option V :=
  d.entries.lookup k

/-- Gives a key a value, in the place of the one it may have. -/
def insert (d : Dict K V) (k : K) (v : V) : Dict K V where
  entries := (k, v) :: d.entries.filter (·.1 ≠ k)
  distinct := by
    have hothers : ((d.entries.filter (·.1 ≠ k)).map Prod.fst).Nodup :=
      d.distinct.sublist (List.filter_sublist.map Prod.fst)
    exact List.nodup_cons.mpr ⟨by simp, hothers⟩

@[simp] theorem get?_empty (k : K) : ({} : Dict K V).get? k = none :=
  rfl

theorem lookup_filter_ne {entries : List (K × V)} {k k' : K} (h : k' ≠ k) :
    (entries.filter (·.1 ≠ k)).lookup k' = entries.lookup k' := by
  induction entries with
  | nil => rfl
  | cons entry entries ih =>
    obtain ⟨k₀, v₀⟩ := entry
    by_cases hk : k₀ = k
    · have hne : (k' == k₀) = false := beq_eq_false_iff_ne.mpr (hk ▸ h)
      rw [List.filter_cons_of_neg (by simpa using hk), ih, List.lookup_cons, hne]
    · rw [List.filter_cons_of_pos (by simpa using hk), List.lookup_cons, List.lookup_cons, ih]

@[simp] theorem get?_insert (d : Dict K V) (k : K) (v : V) (k' : K) :
    (d.insert k v).get? k' = if k' = k then some v else d.get? k' := by
  by_cases h : k' = k
  · simp [insert, get?, h]
  · rw [if_neg h, get?, insert, List.lookup_cons, beq_eq_false_iff_ne.mpr h]
    exact lookup_filter_ne h

theorem isEmpty_iff {d : Dict K V} : d.isEmpty = true ↔ ∀ k, d.get? k = none := by
  obtain ⟨entries, _⟩ := d
  cases entries with
  | nil => simp [isEmpty, get?]
  | cons entry entries =>
    obtain ⟨k, v⟩ := entry
    constructor
    · intro h
      cases h
    · intro h
      have hk := h k
      simp [get?] at hk

end Dict

end TeamConsole
