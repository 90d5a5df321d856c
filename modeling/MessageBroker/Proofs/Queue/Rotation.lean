import Mathlib.Data.List.Rotate
import MessageBroker.Queue.Roster

/-!
# Whose turn it is

The places of a roster are counted in a circle. A selection goes round this circle once, from the
place that the turn counter points to, and stops at the first member with room. So it finds nobody
exactly if nobody has room, which is when the first member with room does not exist either, and a
member with room at the place where it begins is chosen.
-/

namespace MessageBroker.Queue.Roster

variable {members : List Member} {r : Roster} {hasRoom : Nat → Bool} {start k : Nat} {m : Member}

/-- Round the circle from a place on, the first member with room is `m`, which stands `k` places
further. -/
structure Finds (members : List Member) (hasRoom : Nat → Bool) (start k : Nat) (m : Member) :
    Prop where
  short : k < members.length
  place : members[(start + k) % members.length]? = some m
  room : hasRoom m.client = true
  passed : ∀ j < k, ∀ m', members[(start + j) % members.length]? = some m' →
    hasRoom m'.client = false

namespace Finds

/-- A member with room where the round begins is found at once. -/
theorem here (place : members[start % members.length]? = some m) (room : hasRoom m.client = true) :
    Finds members hasRoom start 0 m :=
  ⟨List.length_pos_of_mem (List.mem_of_getElem? place), place, room, nofun⟩

/-- Places are counted round the circle. -/
theorem of_mod {start' : Nat} (same : start % members.length = start' % members.length)
    (finds : Finds members hasRoom start k m) : Finds members hasRoom start' k m := by
  have places : ∀ j, (start' + j) % members.length = (start + j) % members.length := fun j => by
    rw [Nat.add_mod, ← same, ← Nat.add_mod]
  exact ⟨finds.short, places k ▸ finds.place, finds.room,
    fun j before m' place => finds.passed j before m' (places j ▸ place)⟩

theorem mod_iff {start' : Nat} (same : start % members.length = start' % members.length) :
    Finds members hasRoom start k m ↔ Finds members hasRoom start' k m :=
  ⟨of_mod same, of_mod same.symm⟩

end Finds

theorem cycle_eq_rotate (h : start ≤ r.size) : r.cycle start = r.members.rotate start :=
  (List.rotate_eq_drop_append_take h).symm

theorem getElem?_cycle (h : start ≤ r.size) (short : k < r.size) :
    (r.cycle start)[k]? = r.members[(start + k) % r.size]? := by
  rw [cycle_eq_rotate h, List.getElem?_rotate short, Nat.add_comm k start, size]

theorem mem_cycle : m ∈ r.cycle start ↔ m ∈ r.members := by
  rw [cycle, List.mem_append, Or.comm, ← List.mem_append, List.take_append_drop]

theorem length_cycle (h : start ≤ r.size) : (r.cycle start).length = r.size := by
  rw [cycle_eq_rotate h, List.length_rotate, size]

/-- The search through the members in cyclic order. -/
theorem find?_cycle_eq_some (h : start ≤ r.size) :
    (r.cycle start).find? (fun m => hasRoom m.client) = some m ↔
      ∃ k, Finds r.members hasRoom start k m := by
  rw [List.find?_eq_some_iff_getElem]
  constructor
  · rintro ⟨room, k, short, found, earlier⟩
    rw [length_cycle h] at short
    refine ⟨k, short, ?_, room, fun j before m' place => ?_⟩
    · rw [← found]
      exact (getElem?_cycle h short).symm.trans (List.getElem?_eq_getElem _)
    · replace place := (getElem?_cycle h (Nat.lt_trans before short)).trans place
      obtain ⟨_, rfl⟩ := List.getElem?_eq_some_iff.1 place
      simpa using earlier j before
  · rintro ⟨k, finds⟩
    obtain ⟨short, found⟩ :=
      List.getElem?_eq_some_iff.1 ((getElem?_cycle h finds.short).trans finds.place)
    refine ⟨finds.room, k, short, found, fun j before => ?_⟩
    have within : j < (r.cycle start).length := Nat.lt_trans before short
    have passed := finds.passed j before _ ((getElem?_cycle h (length_cycle h ▸ within)).symm.trans
      (List.getElem?_eq_getElem within))
    simp [passed]

/-! ## Selections -/

@[simp] theorem members_select (r : Roster) (hasRoom : Nat → Bool) :
    (r.select hasRoom).2.members = r.members := by
  unfold select
  split <;> rfl

/-- Every selection moves the counter on, as long as there is anybody to choose from. -/
theorem turn_select (r : Roster) (hasRoom : Nat → Bool) :
    (r.select hasRoom).2.turn = if r.members = [] then r.turn else r.turn + 1 := by
  unfold select
  cases r.members <;> rfl

theorem select_fst (r : Roster) (hasRoom : Nat → Bool) :
    (r.select hasRoom).1 =
      (r.cycle (r.turn.toNat % r.size)).find? (fun m => hasRoom m.client) := by
  unfold select
  split
  · rename_i nobody
    simp [cycle, List.isEmpty_iff.1 nobody]
  · rfl

/-- A selection chooses the first member with room from the place of the counter on. -/
theorem select_eq_some_iff :
    (r.select hasRoom).1 = some m ↔ ∃ k, Finds r.members hasRoom r.turn.toNat k m := by
  rw [select_fst]
  by_cases nobody : r.members = []
  · simp only [cycle, nobody, List.drop_nil, List.take_nil, List.append_nil, List.find?_nil]
    exact iff_of_false nofun fun ⟨_, finds⟩ => absurd finds.short (Nat.not_lt_zero _)
  · have within : r.turn.toNat % r.size < r.size := Nat.mod_lt _ (List.length_pos_iff.2 nobody)
    rw [find?_cycle_eq_some (Nat.le_of_lt within)]
    exact exists_congr fun _ => Finds.mod_iff (Nat.mod_mod _ _)

/-- Nobody is chosen exactly if nobody has room. -/
theorem select_eq_none_iff :
    (r.select hasRoom).1 = none ↔ ∀ m ∈ r.members, hasRoom m.client = false := by
  simp only [select_fst, List.find?_eq_none, mem_cycle, Bool.not_eq_true]

theorem firstFree_eq_none_iff :
    r.firstFree hasRoom = none ↔ ∀ m ∈ r.members, hasRoom m.client = false := by
  simp only [firstFree, List.find?_eq_none, Bool.not_eq_true]

/-- Whom a selection chooses is listed and has room. -/
theorem mem_of_select (chosen : (r.select hasRoom).1 = some m) :
    m ∈ r.members ∧ hasRoom m.client = true := by
  obtain ⟨k, finds⟩ := select_eq_some_iff.1 chosen
  exact ⟨List.mem_of_getElem? finds.place, finds.room⟩

/-- One of as many places in a row as there are in the circle is a given one. -/
theorem exists_add_mod_eq {size place : Nat} (within : place < size) (start : Nat) :
    ∃ i < size, (start + i) % size = place := by
  refine ⟨(place + (size - start % size)) % size, Nat.mod_lt _ (by omega), ?_⟩
  have rest := Nat.mod_lt start (Nat.zero_lt_of_lt within)
  have whole := Nat.mod_add_div start size
  have round : start + (place + (size - start % size)) = place + size * (start / size + 1) := by
    rw [Nat.mul_succ]
    omega
  rw [Nat.add_mod_mod, round, Nat.add_mul_mod_self_left, Nat.mod_eq_of_lt within]

end MessageBroker.Queue.Roster
