import Mathlib.Data.List.Nodup
import MessageBroker.Table

/-!
# Entries of tables

In a table whose keys are entered once, the values are those of its look-ups, each counted once: an
entry that is erased takes its own value with it and no other.
-/

namespace MessageBroker.Table

variable {κ α : Type} [DecidableEq κ]

theorem keys_erase (t : Table κ α) (k : κ) : (t.erase k).keys = t.keys.filter (· ≠ k) := by
  rw [keys, keys, List.filter_map]
  rfl

theorem keys_insert (t : Table κ α) (k : κ) (a : α) :
    (t.insert k a).keys = t.keys.filter (· ≠ k) ++ [k] := by
  rw [← keys_erase]
  exact List.map_append

omit [DecidableEq κ] in
theorem keys_map (t : Table κ α) (f : α → α) : (t.map f).keys = t.keys := by
  rw [keys, map, List.map_map]
  rfl

omit [DecidableEq κ] in
@[simp] theorem length_keys (t : Table κ α) : t.keys.length = t.size :=
  List.length_map _

theorem mem_keys {t : Table κ α} {k : κ} : k ∈ t.keys ↔ ∃ a, t.get? k = some a := by
  rw [keys, get?, List.mem_map]
  constructor
  · rintro ⟨entry, listed, rfl⟩
    cases found : t.entries.lookup entry.1 with
    | some a => exact ⟨a, rfl⟩
    | none =>
        have missing := List.lookup_eq_none_iff.1 found entry listed
        simp at missing
  · rintro ⟨a, found⟩
    obtain ⟨before, since, entries, -⟩ := List.lookup_eq_some_iff.1 found
    exact ⟨(k, a), by simp [entries], rfl⟩

theorem mem_values_of_get? {t : Table κ α} {k : κ} {a : α} (found : t.get? k = some a) :
    a ∈ t.values := by
  obtain ⟨before, since, entries, -⟩ := List.lookup_eq_some_iff.1 found
  exact List.mem_map.2 ⟨(k, a), by simp [entries], rfl⟩

theorem nodup_keys_erase {t : Table κ α} (once : t.keys.Nodup) (k : κ) : (t.erase k).keys.Nodup := by
  rw [keys_erase]
  exact once.filter _

theorem nodup_keys_insert {t : Table κ α} (once : t.keys.Nodup) (k : κ) (a : α) :
    (t.insert k a).keys.Nodup := by
  rw [keys_insert, List.nodup_append]
  refine ⟨once.filter _, List.nodup_singleton _, ?_⟩
  intro j listed j' new
  rw [List.mem_singleton.1 new]
  simpa using (List.mem_filter.1 listed).2

/-- To erase a key takes away the key, and no other. -/
theorem keys_perm_erase {t : Table κ α} (once : t.keys.Nodup) {k : κ} (listed : k ∈ t.keys) :
    t.keys.Perm (k :: (t.erase k).keys) := by
  have erased : (t.erase k).keys = t.keys.erase k := by
    rw [keys_erase, once.erase_eq_filter]
    exact List.filter_congr fun j _ => Bool.eq_iff_iff.2 (by rw [decide_eq_true_iff, bne_iff_ne])
  rw [erased]
  exact List.perm_cons_erase listed

/-- A new value of a key moves the key to the end. -/
theorem keys_perm_insert {t : Table κ α} (once : t.keys.Nodup) {k : κ} (listed : k ∈ t.keys)
    (a : α) : (t.insert k a).keys.Perm t.keys := by
  rw [keys_insert, ← keys_erase]
  exact (List.perm_append_singleton _ _).trans (keys_perm_erase once listed).symm

/-- In a table whose keys are entered once the entries are the look-ups. -/
theorem mem_entries {t : Table κ α} (once : t.keys.Nodup) {k : κ} {a : α} :
    (k, a) ∈ t.entries ↔ t.get? k = some a := by
  obtain ⟨entries⟩ := t
  induction entries with
  | nil => simp [get?]
  | cons entry rest ih =>
      obtain ⟨key, b⟩ := entry
      obtain ⟨new, once⟩ := List.nodup_cons.1 once
      by_cases same : k = key
      · subst same
        have absent : (k, a) ∉ rest := fun listed => new (List.mem_map.2 ⟨_, listed, rfl⟩)
        simp [get?, absent, eq_comm]
      · have differs : (k == key) = false := by simpa using same
        have later := ih once
        simp only [get?] at later
        simp [get?, List.lookup_cons, differs, same, later]

theorem mem_values {t : Table κ α} (once : t.keys.Nodup) {a : α} :
    a ∈ t.values ↔ ∃ k, t.get? k = some a := by
  constructor
  · intro listed
    obtain ⟨⟨k, a⟩, entry, rfl⟩ := List.mem_map.1 listed
    exact ⟨k, (mem_entries once).1 entry⟩
  · rintro ⟨k, found⟩
    exact mem_values_of_get? found

theorem get?_map (t : Table κ α) (f : α → α) (k : κ) : (t.map f).get? k = (t.get? k).map f := by
  obtain ⟨entries⟩ := t
  induction entries with
  | nil => rfl
  | cons entry rest ih =>
      obtain ⟨key, b⟩ := entry
      simp only [get?, map] at ih
      simp only [get?, map, List.map_cons, List.lookup_cons]
      cases k == key with
      | true => rfl
      | false => exact ih

theorem erase_of_not_mem {t : Table κ α} {k : κ} (new : k ∉ t.keys) : t.erase k = t := by
  have kept : t.entries.filter (fun entry => entry.1 ≠ k) = t.entries := by
    rw [List.filter_eq_self]
    intro entry listed
    have other : entry.1 ≠ k := fun same => new (List.mem_map.2 ⟨entry, listed, same⟩)
    simpa using other
  rw [erase, kept]

theorem erase_empty (k : κ) : (empty : Table κ α).erase k = empty := rfl

/-- To forget a key that has just been entered is to forget what it was. -/
theorem erase_insert (t : Table κ α) (k : κ) (a : α) : (t.insert k a).erase k = t.erase k := by
  simp [insert, erase]

theorem values_insert {t : Table κ α} {k : κ} (new : k ∉ t.keys) (a : α) :
    (t.insert k a).values = t.values ++ [a] := by
  rw [insert, erase_of_not_mem new]
  exact List.map_append

/-- To erase a key takes away its value, once. -/
theorem values_perm_erase {t : Table κ α} (once : t.keys.Nodup) {k : κ} {a : α}
    (found : t.get? k = some a) : t.values.Perm (a :: (t.erase k).values) := by
  obtain ⟨entries⟩ := t
  induction entries with
  | nil => exact absurd found (by simp [get?])
  | cons entry rest ih =>
      obtain ⟨key, b⟩ := entry
      obtain ⟨new, once⟩ := List.nodup_cons.1 once
      by_cases same : k = key
      · have head : a = b := by simpa [get?, same, eq_comm] using found
        have kept := erase_of_not_mem (t := ⟨rest⟩) new
        have erased : (⟨(key, b) :: rest⟩ : Table κ α).erase k = ⟨rest⟩ := by
          rw [← kept]
          simp [erase, same]
        rw [erased, head]
        exact .refl _
      · have later : (⟨rest⟩ : Table κ α).get? k = some a := by
          have differs : (k == key) = false := by simpa using same
          simpa [get?, List.lookup_cons, differs] using found
        have erased : ((⟨(key, b) :: rest⟩ : Table κ α).erase k).values =
            b :: ((⟨rest⟩ : Table κ α).erase k).values := by
          simp [erase, values, Ne.symm same]
        rw [erased]
        exact ((ih once later).cons b).trans (.swap _ _ _)

end MessageBroker.Table
