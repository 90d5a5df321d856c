/-!
# Tables

A table assigns values to keys and remembers the order in which its keys were entered. The lemmas
say what each operation does to a look-up; nothing else about a table matters to those who use it,
apart from the order of its entries.
-/

namespace MessageBroker

/-- Values by key, in the order of entry. -/
structure Table (κ α : Type) where
  entries : List (κ × α)
deriving Repr, DecidableEq

namespace Table

variable {κ α : Type} [DecidableEq κ]

/-- The table without entries. -/
def empty : Table κ α := ⟨[]⟩

instance : Inhabited (Table κ α) := ⟨empty⟩

/-- The value of a key. -/
def get? (t : Table κ α) (k : κ) : Option α :=
  t.entries.lookup k

/-- Whether a key has a value. -/
def contains (t : Table κ α) (k : κ) : Bool :=
  (t.get? k).isSome

/-- The table without a key. -/
def erase (t : Table κ α) (k : κ) : Table κ α :=
  ⟨t.entries.filter fun entry => entry.1 ≠ k⟩

/-- Give a key a value; a new key comes last, and so does one that had a value before. -/
def insert (t : Table κ α) (k : κ) (a : α) : Table κ α :=
  ⟨(t.erase k).entries ++ [(k, a)]⟩

/-- Entries with the value of a key replaced where it stands; a new key comes last. -/
def assign (k : κ) (a : α) (entries : List (κ × α)) : List (κ × α) :=
  if (entries.lookup k).isSome then
    entries.map fun entry => if entry.1 = k then (k, a) else entry
  else entries ++ [(k, a)]

/-- The table with every value changed. -/
def map (t : Table κ α) (f : α → α) : Table κ α :=
  ⟨t.entries.map fun entry => (entry.1, f entry.2)⟩

/-- The keys in the order of entry. -/
def keys (t : Table κ α) : List κ :=
  t.entries.map Prod.fst

/-- The values in the order of entry. -/
def values (t : Table κ α) : List α :=
  t.entries.map Prod.snd

/-- The number of keys. -/
def size (t : Table κ α) : Nat :=
  t.entries.length

@[simp] theorem get?_empty (k : κ) : (empty : Table κ α).get? k = none := rfl

theorem lookup_filter_ne (entries : List (κ × α)) (k j : κ) :
    (entries.filter fun entry => entry.1 ≠ k).lookup j =
      if j = k then none else entries.lookup j := by
  induction entries with
  | nil => simp
  | cons entry rest ih =>
    obtain ⟨key, a⟩ := entry
    by_cases hk : key = k
    · subst hk
      by_cases hj : j = key
      · simpa [hj] using ih
      · have hne : (j == key) = false := by simpa using hj
        simpa [List.lookup_cons, hne, hj] using ih
    · by_cases hj : j = key
      · subst hj
        simp [hk]
      · have hne : (j == key) = false := by simpa using hj
        simpa [hk, List.lookup_cons, hne] using ih

theorem get?_erase (t : Table κ α) (k j : κ) :
    (t.erase k).get? j = if j = k then none else t.get? j :=
  lookup_filter_ne t.entries k j

theorem get?_insert (t : Table κ α) (k j : κ) (a : α) :
    (t.insert k a).get? j = if j = k then some a else t.get? j := by
  have h : (t.insert k a).get? j = ((t.erase k).get? j).or ([(k, a)].lookup j) := by
    simp only [get?, insert, List.lookup_append]
  rw [h, get?_erase]
  by_cases hj : j = k
  · simp [hj]
  · have hne : (j == k) = false := by simpa using hj
    simp [hj, List.lookup_cons, hne]

end Table

end MessageBroker
