/-!
# Tables

A finite table from keys to values in which every key has one value. Defining a key again replaces
its value (`get?_insert`, `insert_insert`), and no key ever leaves a table (`contains_insert`).
-/

namespace GerberMask.Gerber

/-- A finite table: entries with distinct keys. -/
structure Table (κ ν : Type) where
  entries : List (κ × ν)
  nodup : (entries.map Prod.fst).Nodup

namespace Table

variable {κ ν : Type} [DecidableEq κ]

/-- The table without entries. -/
def empty : Table κ ν := ⟨[], .nil⟩

/-- The value of a key. -/
def get? (t : Table κ ν) (k : κ) : Option ν :=
  t.entries.lookup k

/-- Whether a key has a value. -/
def contains (t : Table κ ν) (k : κ) : Bool :=
  (t.get? k).isSome

/-- The number of keys. -/
def size (t : Table κ ν) : Nat :=
  t.entries.length

/-- Gives a key a value, in place of the one it may have had. -/
def insert (t : Table κ ν) (k : κ) (v : ν) : Table κ ν where
  entries := (k, v) :: t.entries.filter (·.1 != k)
  nodup := by
    have h : (t.entries.filter (·.1 != k)).map Prod.fst = (t.entries.map Prod.fst).filter (· != k) := by
      rw [List.filter_map]; rfl
    simp only [List.map_cons, h, List.nodup_cons]
    exact ⟨by simp, t.nodup.filter _⟩

/-! ### What an insertion does -/

@[simp] theorem get?_empty (k : κ) : (empty : Table κ ν).get? k = none := rfl

private theorem lookup_filter_ne (es : List (κ × ν)) {k k' : κ} (h : k' ≠ k) :
    (es.filter (·.1 != k)).lookup k' = es.lookup k' := by
  induction es with
  | nil => rfl
  | cons e es ih =>
    obtain ⟨a, v⟩ := e
    by_cases ha : a = k
    · subst ha
      simp [List.lookup_cons, ih, beq_eq_false_iff_ne.2 h]
    · simp [ha, List.lookup_cons, ih]

theorem get?_insert (t : Table κ ν) (k k' : κ) (v : ν) :
    (t.insert k v).get? k' = if k' = k then some v else t.get? k' := by
  by_cases h : k' = k
  · subst h; simp [get?, insert]
  · simp [get?, insert, List.lookup_cons, beq_eq_false_iff_ne.2 h, h, lookup_filter_ne _ h]

theorem contains_insert (t : Table κ ν) (k k' : κ) (v : ν) :
    (t.insert k v).contains k' = (k' == k || t.contains k') := by
  by_cases h : k' = k <;> simp [contains, get?_insert, h]

/-- Of two insertions with one key, the second remains. -/
theorem insert_insert (t : Table κ ν) (k : κ) (v v' : ν) :
    (t.insert k v).insert k v' = t.insert k v' := by
  simp [insert, List.filter_filter]

end Table

end GerberMask.Gerber
