import Mathlib.Algebra.GroupWithZero.Nat
import Mathlib.Data.Nat.Log
import Mathlib.Order.Bounds.Basic
import MessageBroker.Lease.Buffer
import MessageBroker.Proofs.Lease.Lending

/-!
# Size classes

The classes of a buffer pool have the sizes `least`, `2 * least`, `4 * least` and so on, and the
place of a class in this row is found from the size that is asked for by arithmetic alone. A pool is
in order if its classes stand in this row and each keeps none but buffers of its own size. Then it
hands out a buffer of the smallest class that is large enough, and beyond the largest class one of
exactly the size asked for.

A buffer finds the way back to its class by the number of the pool on its tag. So what a pool needs
of a buffer that is given back is that its size is that of the class with this number. The catalog
of a buffer pool lists these numbers with their sizes.
-/

namespace MessageBroker.Lease

theorem log2_pred_succ {n : Nat} (h : 1 < n) : Nat.log2 (n - 1) + 1 = Nat.clog 2 n := by
  apply Nat.le_antisymm
  · rw [Nat.succ_le_iff, Nat.lt_clog_iff_pow_lt (by decide)]
    have below := Nat.log2_self_le (n := n - 1) (by omega)
    omega
  · rw [Nat.clog_le_iff_le_pow (by decide)]
    have above := Nat.lt_log2_self (n := n - 1)
    omega

/-- The least power of two that is large enough has the logarithm, rounded up, for its exponent. -/
theorem powerAtLeast?_eq (n : Nat) :
    powerAtLeast? n = if 2 ^ Nat.clog 2 n < wordBound then some (2 ^ Nat.clog 2 n) else none := by
  have power : (if n ≤ 1 then 1 else 1 <<< (Nat.log2 (n - 1) + 1)) = 2 ^ Nat.clog 2 n := by
    split
    · rename_i small
      rw [Nat.clog_of_right_le_one small, Nat.pow_zero]
    · rename_i large
      rw [Nat.one_shiftLeft, log2_pred_succ (by omega)]
  rw [powerAtLeast?, power]

theorem Pool.accept_eq_ok {α : Type} {p p' : Pool α} {tag : Option Tag}
    (accepted : p.accept tag = .ok p') : p'.id = p.id ∧ p'.idle = p.idle := by
  unfold accept at accepted
  split at accepted
  · cases accepted
    exact ⟨rfl, rfl⟩
  · split at accepted
    · split at accepted
      · cases accepted
      · split at accepted <;> cases accepted
        exact ⟨rfl, rfl⟩
    · cases accepted

/-- Whether a pool checks its returns or not, what it keeps is what it is given, wiped. -/
theorem Pool.mem_idle_giveBack {α : Type} {reset : α → α} {p p' : Pool α} {leased : Leased α}
    (accepted : p.giveBack reset leased = .ok p') :
    p'.id = p.id ∧ ∀ b ∈ p'.idle, b ∈ p.idle ∨ b.item = reset leased.item := by
  unfold giveBack at accepted
  cases result : p.accept leased.tag with
  | error v =>
    rw [result] at accepted
    cases accepted
  | ok q =>
    rw [result] at accepted
    cases accepted
    obtain ⟨id, idle⟩ := Pool.accept_eq_ok result
    refine ⟨(q.id_shelve _).trans id, fun b listed => ?_⟩
    rcases q.mem_idle_shelve listed with before | rfl
    · exact .inl (idle ▸ before)
    · exact .inr rfl

namespace BufferPool

variable {p p' : BufferPool} {n : Nat}

/-- The sizes of the classes. -/
def sizes (p : BufferPool) : List Nat :=
  p.classes.map SizeClass.size

/-- The numbers of the pools of the classes, with the sizes of their buffers. -/
def catalog (p : BufferPool) : List (Nat × Nat) :=
  p.classes.map fun c => (c.pool.id, c.size)

theorem map_snd_catalog (p : BufferPool) : p.catalog.map Prod.snd = p.sizes := by
  simp [catalog, sizes]

theorem mem_sizes {s : Nat} :
    s ∈ p.sizes ↔ ∃ (i : Nat) (c : SizeClass), p.classes[i]? = some c ∧ c.size = s := by
  rw [sizes, List.mem_map]
  constructor
  · rintro ⟨c, listed, size⟩
    obtain ⟨i, found⟩ := List.mem_iff_getElem?.1 listed
    exact ⟨i, c, found, size⟩
  · rintro ⟨i, c, found, size⟩
    exact ⟨c, List.mem_of_getElem? found, size⟩

/-- The classes stand in a row from the least size on, each of twice the size of the one before. -/
structure Graded (p : BufferPool) : Prop where
  power : ∃ e, p.least = 2 ^ e
  first : p.classes ≠ []
  size : ∀ {i : Nat} {c}, p.classes[i]? = some c → c.size = p.least * 2 ^ i
  word : ∀ {i : Nat} {c}, p.classes[i]? = some c → c.size < wordBound

namespace Graded

theorem least_pos (graded : p.Graded) : 0 < p.least := by
  obtain ⟨e, least⟩ := graded.power
  rw [least]
  exact Nat.two_pow_pos e

theorem length_pos (graded : p.Graded) : 0 < p.classes.length :=
  List.length_pos_iff.2 graded.first

/-- The largest pooled size is that of the last class. -/
theorem last (graded : p.Graded) :
    ∃ c, p.classes[p.classes.length - 1]? = some c ∧ p.maxPooledSize = c.size := by
  have short : p.classes.length - 1 < p.classes.length := by
    have positive := graded.length_pos
    omega
  have found := List.getElem?_eq_getElem short
  refine ⟨_, found, ?_⟩
  rw [maxPooledSize, List.getLast?_eq_getElem?, found]

theorem maxPooledSize_eq (graded : p.Graded) :
    p.maxPooledSize = p.least * 2 ^ (p.classes.length - 1) := by
  obtain ⟨c, found, largest⟩ := graded.last
  rw [largest, graded.size found]

theorem least_le_maxPooledSize (graded : p.Graded) : p.least ≤ p.maxPooledSize := by
  rw [graded.maxPooledSize_eq]
  exact Nat.le_mul_of_pos_right _ (Nat.two_pow_pos _)

theorem maxPooledSize_lt (graded : p.Graded) : p.maxPooledSize < wordBound := by
  obtain ⟨c, found, largest⟩ := graded.last
  rw [largest]
  exact graded.word found

theorem size_le_maxPooledSize (graded : p.Graded) {i : Nat} {c : SizeClass}
    (found : p.classes[i]? = some c) : c.size ≤ p.maxPooledSize := by
  have short := (List.getElem?_eq_some_iff.1 found).1
  rw [graded.size found, graded.maxPooledSize_eq]
  exact Nat.mul_le_mul_left _ (Nat.pow_le_pow_right (by decide) (by omega))

/-- The place of a class is found from logarithms. -/
theorem classFor?_eq {e : Nat} (least : p.least = 2 ^ e) (n : Nat) :
    e ≤ Nat.clog 2 (max n p.least) ∧
      p.classFor? n =
        if 2 ^ Nat.clog 2 (max n p.least) < wordBound ∧
            Nat.clog 2 (max n p.least) - e < p.classes.length then
          some (Nat.clog 2 (max n p.least) - e)
        else none := by
  have above : e ≤ Nat.clog 2 (max n p.least) := by
    rw [← Nat.clog_pow 2 e (by decide), ← least]
    exact Nat.clog_mono_right 2 (Nat.le_max_right n p.least)
  refine ⟨above, ?_⟩
  have place : Nat.log2 (2 ^ Nat.clog 2 (max n p.least) / p.least) =
      Nat.clog 2 (max n p.least) - e := by
    rw [least, Nat.pow_div (least ▸ above) (by decide), Nat.log2_two_pow]
  rw [classFor?, powerAtLeast?_eq]
  by_cases word : 2 ^ Nat.clog 2 (max n p.least) < wordBound <;> simp [word, place]

/-- A request for no more than the largest size is served by the first class that is large
enough. -/
theorem classFor?_of_le (graded : p.Graded) (h : n ≤ p.maxPooledSize) :
    ∃ i, p.classFor? n = some i ∧ i < p.classes.length ∧ n ≤ p.least * 2 ^ i ∧
      ∀ j < i, p.least * 2 ^ j < n := by
  obtain ⟨e, least⟩ := graded.power
  obtain ⟨above, place⟩ := classFor?_eq least n
  have positive := graded.length_pos
  have largest := graded.maxPooledSize_eq
  rw [least, ← Nat.pow_add] at largest
  have fits : Nat.clog 2 (max n p.least) ≤ e + (p.classes.length - 1) := by
    rw [Nat.clog_le_iff_le_pow (by decide), ← largest]
    exact Nat.max_le.2 ⟨h, graded.least_le_maxPooledSize⟩
  have word : 2 ^ Nat.clog 2 (max n p.least) < wordBound := by
    refine Nat.lt_of_le_of_lt (Nat.pow_le_pow_right (by decide) fits) ?_
    rw [← largest]
    exact graded.maxPooledSize_lt
  refine ⟨Nat.clog 2 (max n p.least) - e, ?_, by omega, ?_, ?_⟩
  · rw [place, if_pos ⟨word, by omega⟩]
  · rw [least, ← Nat.pow_add, Nat.add_sub_cancel' (least ▸ above)]
    exact Nat.le_trans (Nat.le_max_left _ _) (Nat.le_pow_clog (by decide) _)
  · intro j before
    have smaller : p.least * 2 ^ j < max n p.least := by
      rw [least, ← Nat.pow_add, ← Nat.lt_clog_iff_pow_lt (by decide), ← least]
      omega
    have positive := Nat.le_mul_of_pos_right p.least (Nat.two_pow_pos j)
    omega

/-- No class serves a request for more than the largest size. -/
theorem classFor?_of_lt (graded : p.Graded) (h : p.maxPooledSize < n) : p.classFor? n = none := by
  obtain ⟨e, least⟩ := graded.power
  obtain ⟨above, place⟩ := classFor?_eq least n
  have positive := graded.length_pos
  have beyond : e + (p.classes.length - 1) < Nat.clog 2 (max n p.least) := by
    rw [Nat.lt_clog_iff_pow_lt (by decide), Nat.pow_add, ← least, ← graded.maxPooledSize_eq]
    exact Nat.lt_of_lt_of_le h (Nat.le_max_left _ _)
  rw [place, if_neg]
  omega

end Graded

/-- The classes are graded, and each keeps none but buffers of its own size. -/
structure InOrder (p : BufferPool) : Prop where
  graded : p.Graded
  idle : ∀ c ∈ p.classes, ∀ b ∈ c.pool.idle, b.item.capacity = c.size

/-- A size that a request for `n` bytes may be served with: that of the smallest class that is large
enough, or `n` beyond the largest. -/
def Serves (p : BufferPool) (n capacity : Nat) : Prop :=
  if n ≤ p.maxPooledSize then IsLeast {s | s ∈ p.sizes ∧ n ≤ s} capacity else capacity = n

theorem Serves.le {capacity : Nat} (serves : p.Serves n capacity) : n ≤ capacity := by
  unfold Serves at serves
  split at serves
  · exact serves.1.2
  · exact Nat.le_of_eq serves.symm

/-- A size that buffers have which are handed out: that of a class, or one beyond all classes. -/
def Regular (sizes : List Nat) (s : Nat) : Prop :=
  s ∈ sizes ∨ ∀ size ∈ sizes, size < s

namespace Graded

theorem mem_sizes_iff (graded : p.Graded) {s : Nat} :
    s ∈ p.sizes ↔ ∃ i < p.classes.length, s = p.least * 2 ^ i := by
  rw [mem_sizes]
  constructor
  · rintro ⟨i, c, found, rfl⟩
    exact ⟨i, (List.getElem?_eq_some_iff.1 found).1, graded.size found⟩
  · rintro ⟨i, short, rfl⟩
    have found := List.getElem?_eq_getElem short
    exact ⟨i, _, found, graded.size found⟩

theorem regular_pos (graded : p.Graded) {s : Nat} (regular : Regular p.sizes s) : 0 < s := by
  have positive := graded.least_pos
  rcases regular with listed | beyond
  · obtain ⟨i, -, rfl⟩ := graded.mem_sizes_iff.1 listed
    exact Nat.mul_pos positive (Nat.two_pow_pos i)
  · exact Nat.lt_of_le_of_lt (Nat.zero_le _)
      (beyond p.least (graded.mem_sizes_iff.2 ⟨0, graded.length_pos, by simp⟩))

/-- Twice the size of a class is the size of the next one, or beyond all classes. -/
theorem regular_double (graded : p.Graded) {s : Nat} (regular : Regular p.sizes s) :
    Regular p.sizes (s * 2) := by
  rcases regular with listed | beyond
  · obtain ⟨i, -, rfl⟩ := graded.mem_sizes_iff.1 listed
    have twice : p.least * 2 ^ i * 2 = p.least * 2 ^ (i + 1) := by
      rw [Nat.mul_assoc, ← Nat.pow_succ]
    rw [twice]
    rcases Nat.lt_or_ge (i + 1) p.classes.length with next | last
    · exact .inl (graded.mem_sizes_iff.2 ⟨i + 1, next, rfl⟩)
    · refine .inr fun size listed => ?_
      obtain ⟨j, short, rfl⟩ := graded.mem_sizes_iff.1 listed
      have power : 2 ^ j < 2 ^ (i + 1) := Nat.pow_lt_pow_right (by decide) (by omega)
      exact Nat.mul_lt_mul_of_pos_left power graded.least_pos
  · refine .inr fun size listed => ?_
    have smaller := beyond size listed
    omega

/-- From any regular size on there is one within twice what is asked for. -/
theorem exists_regular (graded : p.Graded) {s : Nat} (regular : Regular p.sizes s) (h : s ≤ n) :
    ∃ s', Regular p.sizes s' ∧ n ≤ s' ∧ s' ≤ 2 * n := by
  have positive := graded.regular_pos regular
  induction rest : n - s using Nat.strongRecOn generalizing s with
  | _ k ih =>
    by_cases enough : n ≤ s * 2
    · exact ⟨s * 2, graded.regular_double regular, enough, by omega⟩
    · exact ih (n - s * 2) (by omega) (graded.regular_double regular) (by omega) (by omega) rfl

end Graded

theorem Serves.regular (graded : p.Graded) {capacity : Nat} (serves : p.Serves n capacity) :
    Regular p.sizes capacity := by
  unfold Serves at serves
  split at serves
  · exact .inl serves.1.1
  · rename_i beyond
    refine .inr fun size listed => ?_
    obtain ⟨i, c, found, rfl⟩ := mem_sizes.1 listed
    have bound := graded.size_le_maxPooledSize found
    omega

/-- No regular size that is large enough is smaller than the one a request is served with. -/
theorem Serves.le_of_regular {capacity s : Nat} (serves : p.Serves n capacity)
    (regular : Regular p.sizes s) (h : n ≤ s) : capacity ≤ s := by
  unfold Serves at serves
  split at serves
  · rcases regular with listed | beyond
    · exact serves.2 ⟨listed, h⟩
    · exact Nat.le_of_lt (beyond capacity serves.1.1)
  · exact Nat.le_trans (Nat.le_of_eq serves) h

/-- The size of a buffer with a tag is that of its class. -/
def Fits (catalog : List (Nat × Nat)) (b : Leased Buffer) : Prop :=
  ∀ t, b.tag = some t → (t.pool, b.item.capacity) ∈ catalog

/-- What the buffer holds does not matter. -/
theorem Fits.congr {catalog : List (Nat × Nat)} {b b' : Leased Buffer} (fits : Fits catalog b)
    (tag : b'.tag = b.tag) (capacity : b'.item.capacity = b.item.capacity) : Fits catalog b' := by
  intro t own
  rw [capacity]
  exact fits t (tag ▸ own)

/-- Replace the pool of a class. -/
def setPool (p : BufferPool) (i : Nat) (c : SizeClass) (pool : Pool Buffer) : BufferPool :=
  { p with classes := p.classes.set i { c with pool } }

section SetPool

variable {i : Nat} {c : SizeClass} {pool : Pool Buffer}

theorem getElem?_setPool (found : p.classes[i]? = some c) {j : Nat} {d : SizeClass}
    (found' : (p.setPool i c pool).classes[j]? = some d) :
    ∃ d', p.classes[j]? = some d' ∧ d.size = d'.size := by
  simp only [setPool, List.getElem?_set] at found'
  split at found'
  · rename_i same
    split at found'
    · obtain rfl := Option.some.inj found'
      exact ⟨c, same ▸ found, rfl⟩
    · cases found'
  · exact ⟨d, found', rfl⟩

theorem Graded.setPool (graded : p.Graded) (found : p.classes[i]? = some c) (pool : Pool Buffer) :
    (p.setPool i c pool).Graded where
  power := graded.power
  first := by
    rw [BufferPool.setPool, ← List.length_pos_iff, List.length_set]
    exact graded.length_pos
  size := by
    intro j d found'
    obtain ⟨d', before, size⟩ := getElem?_setPool found found'
    rw [size]
    exact graded.size before
  word := by
    intro j d found'
    obtain ⟨d', before, size⟩ := getElem?_setPool found found'
    rw [size]
    exact graded.word before

theorem catalog_setPool (found : p.classes[i]? = some c) (id : pool.id = c.pool.id) :
    (p.setPool i c pool).catalog = p.catalog := by
  obtain ⟨short, rfl⟩ := List.getElem?_eq_some_iff.1 found
  apply List.ext_getElem?
  intro j
  by_cases same : i = j
  · subst same
    simp [catalog, setPool, short, id]
  · simp [catalog, setPool, same]

theorem InOrder.setPool (order : p.InOrder) (found : p.classes[i]? = some c)
    (idle : ∀ b ∈ pool.idle, b.item.capacity = c.size) : (p.setPool i c pool).InOrder where
  graded := order.graded.setPool found pool
  idle := by
    intro d listed
    rcases List.mem_or_eq_of_mem_set listed with before | rfl
    · exact order.idle d before
    · exact idle

end SetPool

theorem rent_of_le (order : p.InOrder) (h : n ≤ p.maxPooledSize) :
    ∃ i c, p.classes[i]? = some c ∧ IsLeast {s | s ∈ p.sizes ∧ n ≤ s} c.size ∧
      p.rent n = ((c.pool.rent (.zeros c.size)).1,
        p.setPool i c (c.pool.rent (.zeros c.size)).2) := by
  obtain ⟨i, place, short, enough, least⟩ := order.graded.classFor?_of_le h
  have found := List.getElem?_eq_getElem short
  have size := order.graded.size found
  refine ⟨i, p.classes[i], found, ⟨⟨mem_sizes.2 ⟨i, _, found, rfl⟩, size ▸ enough⟩, ?_⟩, ?_⟩
  · rintro s ⟨listed, enough'⟩
    obtain ⟨j, c, found', rfl⟩ := mem_sizes.1 listed
    rw [order.graded.size found'] at enough' ⊢
    rw [size]
    refine Nat.mul_le_mul_left _ (Nat.pow_le_pow_right (by decide) ?_)
    by_contra before
    exact absurd enough' (Nat.not_le.2 (least j (Nat.not_le.1 before)))
  · simp only [rent, place, Option.bind_some, found, Option.map_some, setPool]

theorem rent_of_lt (order : p.InOrder) (h : p.maxPooledSize < n) :
    p.rent n = (⟨.zeros n, none⟩, p) := by
  simp only [rent, order.graded.classFor?_of_lt h, Option.bind_none]

/-- A pool in order serves every request, with a buffer whose tag leads back to its class, and is in
order after it. -/
theorem InOrder.rent (order : p.InOrder) (n : Nat) :
    p.Serves n (p.rent n).1.item.capacity ∧
      ((p.rent n).1.tag = none ↔ p.maxPooledSize < n) ∧
      Fits p.catalog (p.rent n).1 ∧
      (p.rent n).2.InOrder ∧ (p.rent n).2.catalog = p.catalog := by
  by_cases h : n ≤ p.maxPooledSize
  · obtain ⟨i, c, found, least, rented⟩ := rent_of_le order h
    obtain ⟨x, idle, created, lent, source⟩ := c.pool.rent_cases (.zeros c.size)
    have kept := order.idle c (List.mem_of_getElem? found)
    have capacity : x.capacity = c.size ∧ ∀ b ∈ idle, b.item.capacity = c.size := by
      rcases source with ⟨-, rfl, rfl, -⟩ | ⟨waiting, split, rfl, -⟩
      · exact ⟨rfl, nofun⟩
      · rw [split] at kept
        exact ⟨kept waiting List.mem_cons_self,
          fun b listed => kept b (List.mem_cons_of_mem _ listed)⟩
    rw [rented, lent]
    refine ⟨?_, ?_, ?_, order.setPool found capacity.2, catalog_setPool found rfl⟩
    · rw [Serves, if_pos h]
      exact capacity.1.symm ▸ least
    · simp [h]
    · intro t tag
      rw [← Option.some.inj tag]
      exact List.mem_map.2 ⟨c, List.mem_of_getElem? found, by rw [capacity.1]; rfl⟩
  · have beyond := Nat.not_le.1 h
    rw [rent_of_lt order beyond]
    refine ⟨?_, by simp [beyond], nofun, order, rfl⟩
    rw [Serves, if_neg h]
    rfl

/-- The buffers that wait could all be allocated. -/
def Housed (p : BufferPool) : Prop :=
  ∀ c ∈ p.classes, ∀ b ∈ c.pool.idle, b.item.capacity < allocationBound

theorem Housed.setPool (housed : p.Housed) {i : Nat} {c : SizeClass} {pool : Pool Buffer}
    (idle : ∀ b ∈ pool.idle, b.item.capacity < allocationBound) :
    (p.setPool i c pool).Housed := by
  intro d listed
  rcases List.mem_or_eq_of_mem_set listed with before | rfl
  · exact housed d before
  · exact idle

theorem housed_new? {firstId least most : Nat} {checks : Bool}
    (built : new? firstId least most checks = some p) : p.Housed := by
  obtain ⟨start, -, rest⟩ := Option.bind_eq_some_iff.1 built
  obtain ⟨sizes, -, rfl⟩ := Option.map_eq_some_iff.1 rest
  intro c listed
  obtain ⟨i, -, rfl⟩ := List.mem_mapIdx.1 listed
  exact nofun

/-- A request goes to a class or past all of them, whether allocation is a concern or not. -/
theorem rent_cases (p : BufferPool) (n : Nat) :
    (∃ i c, p.classes[i]? = some c ∧
      p.rent n = ((c.pool.rent (.zeros c.size)).1,
        p.setPool i c (c.pool.rent (.zeros c.size)).2) ∧
      p.rent? n = ((c.pool.rent? (Buffer.allocate? c.size)).1,
        p.setPool i c (c.pool.rent? (Buffer.allocate? c.size)).2)) ∨
    p.rent n = (⟨.zeros n, none⟩, p) ∧
      p.rent? n = ((Buffer.allocate? n).map (⟨·, none⟩), p) := by
  unfold rent rent?
  cases place : (p.classFor? n).bind fun i => p.classes[i]?.map (i, ·) with
  | none => exact .inr ⟨rfl, rfl⟩
  | some found =>
    obtain ⟨i, c⟩ := found
    obtain ⟨j, -, paired⟩ := Option.bind_eq_some_iff.1 place
    obtain ⟨d, listed, same⟩ := Option.map_eq_some_iff.1 paired
    obtain ⟨rfl, rfl⟩ := Prod.mk.inj same
    exact .inl ⟨j, d, listed, rfl, rfl⟩

theorem eq_zeros_of_allocate? {size : Nat} {b : Buffer} (made : Buffer.allocate? size = some b) :
    b = .zeros size := by
  unfold Buffer.allocate? at made
  split at made <;> cases made
  rfl

/-- What is handed out where allocation may fail is what is handed out where it cannot. -/
theorem eq_rent_of_rent? {b : Leased Buffer} (handed : (p.rent? n).1 = some b) :
    b = (p.rent n).1 := by
  rcases p.rent_cases n with ⟨i, c, -, rented, rented?⟩ | ⟨rented, rented?⟩
  · rw [rented?] at handed
    rw [rented]
    exact Pool.eq_rent_of_rent? (fun _ => eq_zeros_of_allocate?) handed
  · rw [rented?] at handed
    obtain ⟨fresh, made, rfl⟩ := Option.map_eq_some_iff.1 handed
    rw [rented, eq_zeros_of_allocate? made]

theorem InOrder.rent? (order : p.InOrder) (n : Nat) :
    (p.rent? n).2.InOrder ∧ (p.rent? n).2.catalog = p.catalog := by
  rcases p.rent_cases n with ⟨i, c, found, -, rented?⟩ | ⟨-, rented?⟩
  · rw [rented?]
    exact ⟨order.setPool found fun b listed =>
        order.idle c (List.mem_of_getElem? found) b (c.pool.mem_idle_rent? _ listed),
      catalog_setPool found (c.pool.id_rent? _)⟩
  · rw [rented?]
    exact ⟨order, rfl⟩

theorem Housed.rent? (housed : p.Housed) (n : Nat) : (p.rent? n).2.Housed := by
  rcases p.rent_cases n with ⟨i, c, found, -, rented?⟩ | ⟨-, rented?⟩
  · rw [rented?]
    exact housed.setPool fun b listed =>
      housed c (List.mem_of_getElem? found) b (c.pool.mem_idle_rent? _ listed)
  · rw [rented?]
    exact housed

/-- Where the buffer can be allocated, allocation is no concern. -/
theorem rent?_of_lt (small : (p.rent n).1.item.capacity < allocationBound) :
    p.rent? n = (some (p.rent n).1, (p.rent n).2) := by
  rcases p.rent_cases n with ⟨i, c, found, rented, rented?⟩ | ⟨rented, rented?⟩
  · rw [rented] at small ⊢
    rw [rented?]
    unfold Pool.rent at small ⊢
    unfold Pool.rent?
    cases idle : c.pool.idle with
    | nil =>
      simp only [idle] at small
      have small' : c.size < allocationBound := small
      simp only [Buffer.allocate?, if_pos small']
    | cons waiting rest => rfl
  · rw [rented] at small ⊢
    have small' : n < allocationBound := small
    rw [rented?, Buffer.allocate?, if_pos small', Option.map_some]

/-- A buffer is handed out unless it is too large to be allocated. -/
theorem Housed.fst_rent? (housed : p.Housed) (n : Nat) :
    (p.rent? n).1 =
      if (p.rent n).1.item.capacity < allocationBound then some (p.rent n).1 else none := by
  split
  · rename_i small
    rw [rent?_of_lt small]
  · rename_i large
    rcases p.rent_cases n with ⟨i, c, found, rented, rented?⟩ | ⟨rented, rented?⟩
    · rw [rented] at large
      rw [rented?]
      unfold Pool.rent at large
      unfold Pool.rent?
      cases idle : c.pool.idle with
      | nil =>
        simp only [idle] at large
        have large' : ¬ c.size < allocationBound := large
        simp only [Buffer.allocate?, if_neg large']
      | cons waiting rest =>
        simp only [idle] at large
        exact absurd (housed c (List.mem_of_getElem? found) waiting (idle ▸ List.mem_cons_self))
          large
    · rw [rented] at large
      have large' : ¬ n < allocationBound := large
      rw [rented?, Buffer.allocate?, if_neg large', Option.map_none]

/-- A buffer that is taken back goes to the class that its tag names, or to none. -/
theorem giveBack_cases {b : Leased Buffer} (accepted : p.giveBack b = .ok p') :
    p' = p ∨ ∃ t i c pool, b.tag = some t ∧ p.classes[i]? = some c ∧ c.pool.id = t.pool ∧
      c.pool.giveBack id b = .ok pool ∧ p' = p.setPool i c pool := by
  unfold BufferPool.giveBack at accepted
  split at accepted
  · cases accepted
    exact .inl rfl
  · rename_i t tag
    split at accepted
    · rename_i i place
      obtain ⟨short, number, -⟩ := List.findIdx?_eq_some_iff_getElem.1 place
      have found := List.getElem?_eq_getElem short
      rw [found] at accepted
      simp only at accepted
      split at accepted <;> cases accepted
      rename_i pool result
      exact .inr ⟨t, i, _, pool, tag, found, of_decide_eq_true number, result, rfl⟩
    · split at accepted <;> cases accepted
      exact .inl rfl

/-- A buffer is taken back into the class whose size it has. -/
theorem InOrder.giveBack (order : p.InOrder) {b : Leased Buffer}
    (own : ∀ t s, b.tag = some t → (t.pool, s) ∈ p.catalog → b.item.capacity = s)
    (accepted : p.giveBack b = .ok p') :
    p'.InOrder ∧ p'.catalog = p.catalog := by
  rcases giveBack_cases accepted with rfl | ⟨t, i, c, pool, tag, found, number, result, rfl⟩
  · exact ⟨order, rfl⟩
  · have listed := List.mem_of_getElem? found
    have capacity := own t c.size tag (List.mem_map.2 ⟨c, listed, by rw [number]⟩)
    obtain ⟨id, kept⟩ := Pool.mem_idle_giveBack result
    refine ⟨order.setPool found fun b' waits => ?_, catalog_setPool found id⟩
    rcases kept b' waits with before | same
    · exact order.idle c listed b' before
    · rw [same]
      exact capacity

theorem Housed.giveBack (housed : p.Housed) {b : Leased Buffer}
    (small : b.tag ≠ none → b.item.capacity < allocationBound)
    (accepted : p.giveBack b = .ok p') : p'.Housed := by
  rcases giveBack_cases accepted with rfl | ⟨t, i, c, pool, tag, found, -, result, rfl⟩
  · exact housed
  · refine housed.setPool fun b' waits => ?_
    rcases (Pool.mem_idle_giveBack result).2 b' waits with before | same
    · exact housed c (List.mem_of_getElem? found) b' before
    · rw [same]
      exact small (by simp [tag])

/-- Sizes that are built double from one to the next and stay in the word range. -/
theorem sizes?_eq_some {most steps start : Nat} {sizes : List Nat}
    (built : sizes? most steps start = some sizes) (word : start < wordBound) :
    sizes ≠ [] ∧ ∀ (i : Nat) s, sizes[i]? = some s → s = start * 2 ^ i ∧ s < wordBound := by
  induction steps generalizing start sizes with
  | zero => cases built
  | succ steps ih =>
    unfold sizes? at built
    split at built
    · cases built
      refine ⟨List.cons_ne_nil _ _, fun i s found => ?_⟩
      cases i with
      | zero =>
        cases found
        exact ⟨(Nat.mul_one start).symm, word⟩
      | succ i => cases found
    · split at built
      · rename_i word'
        obtain ⟨rest, built', rfl⟩ := Option.map_eq_some_iff.1 built
        obtain ⟨-, later⟩ := ih built' word'
        refine ⟨List.cons_ne_nil _ _, fun i s found => ?_⟩
        cases i with
        | zero =>
          cases found
          exact ⟨(Nat.mul_one start).symm, word⟩
        | succ i =>
          obtain ⟨size, bound⟩ := later i s found
          exact ⟨by rw [size, Nat.pow_succ', Nat.mul_assoc], bound⟩
      · cases built

/-- A pool that is built is in order, and its classes are numbered in a row. -/
theorem inOrder_new? {firstId least most : Nat} {checks : Bool}
    (built : new? firstId least most checks = some p) :
    p.InOrder ∧ p.catalog.map Prod.fst = List.range' firstId p.classes.length := by
  obtain ⟨start, power, rest⟩ := Option.bind_eq_some_iff.1 built
  obtain ⟨sizes, row, rfl⟩ := Option.map_eq_some_iff.1 rest
  rw [powerAtLeast?_eq] at power
  split at power
  · rename_i word
    obtain rfl := Option.some.inj power
    obtain ⟨first, double⟩ := sizes?_eq_some row word
    have sized : ∀ {i : Nat} {c : SizeClass},
        (sizes.mapIdx fun i size =>
          (⟨size, Pool.new (firstId + i) ⟨classMaxIdle, checks⟩⟩ : SizeClass))[i]? = some c →
        c.pool.idle = [] ∧ c.size = 2 ^ Nat.clog 2 (max least 64) * 2 ^ i ∧ c.size < wordBound := by
      intro i c found
      rw [List.getElem?_mapIdx] at found
      obtain ⟨s, found', rfl⟩ := Option.map_eq_some_iff.1 found
      exact ⟨rfl, double i s found'⟩
    refine ⟨⟨⟨⟨_, rfl⟩, ?_, fun found => (sized found).2.1, fun found => (sized found).2.2⟩, ?_⟩,
      ?_⟩
    · simpa using first
    · intro c listed b idle
      obtain ⟨i, found⟩ := List.mem_iff_getElem?.1 listed
      rw [(sized found).1] at idle
      cases idle
    · apply List.ext_getElem <;> simp [catalog, Pool.new]
  · cases power

end BufferPool

end MessageBroker.Lease
