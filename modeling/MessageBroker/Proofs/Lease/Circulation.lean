import MessageBroker.Proofs.Lease.Classes

/-!
# Buffers in circulation

Several buffer pools are in use, and their users hold buffers: rented ones, copies of these, and
buffers that belong to no pool. A user may write into a buffer and give it to any of the pools, the
wrong one included, and a pool need not check what it is given.

Whatever users do, the tag of a buffer leads to the class that has its size, or to none. The main
statement follows: every buffer that waits in a class has the size of the class, for ever, and a
request is served with a buffer of the smallest class that is large enough. A request whose buffer
would be too large to be allocated is not served: no buffer of that size ever existed, so none can
wait in a class.
-/

namespace MessageBroker.Lease

/-- The buffer pools in use, and the buffers in the hands of their users. -/
structure Circulation where
  pools : List BufferPool
  nextId : Nat
  held : List (Leased Buffer)

namespace Circulation

/-- Something that is done with buffers. -/
inductive Move where
  /-- A buffer pool is built, if sizes allow. Some numbers of pools may be in use elsewhere. -/
  | build (skipped least most : Nat) (checks : Bool)
  | rent (k n : Nat)
  /-- A held buffer is given to a pool. -/
  | giveBack (k i : Nat)
  /-- Data is put into a held buffer, if there is room for it. -/
  | fill (i start : Nat) (data : Bytes)
  | handle (h : Handling Buffer)

/-- The buffer with data put into it. -/
def filled (start : Nat) (data : Bytes) (b : Leased Buffer) : Leased Buffer :=
  if start + data.length ≤ b.item.capacity then { b with item := b.item.write start data } else b

/-- Put a pool in the place of another. -/
def setPool (s : Circulation) (k : Nat) (p : BufferPool) : Circulation :=
  { s with pools := s.pools.set k p }

/-- What a move leads to. A pool that does not exist and a buffer that nobody holds change
nothing. -/
def apply (s : Circulation) : Move → Circulation
  | .build skipped least most checks =>
    match BufferPool.new? (s.nextId + skipped) least most checks with
    | none => s
    | some p =>
      { s with pools := s.pools ++ [p], nextId := s.nextId + skipped + p.classes.length }
  | .rent k n =>
    match s.pools[k]? with
    | none => s
    | some p =>
      let (b, p) := p.rent? n
      { s.setPool k p with held := s.held ++ b.toList }
  | .giveBack k i =>
    match s.pools[k]?, s.held[i]? with
    | some p, some b =>
      let s := { s with held := s.held.eraseIdx i }
      match p.giveBack b with
      | .ok p => s.setPool k p
      | .error _ => s
    | _, _ => s
  | .fill i start data => { s with held := s.held.modify i (filled start data) }
  | .handle h => { s with held := h.apply s.held }

/-- What moves lead to. -/
def after (s : Circulation) (moves : List Move) : Circulation :=
  moves.foldl apply s

/-- No pool and no buffer. -/
def start : Circulation := ⟨[], 0, []⟩

/-- The catalogs of the buffer pools. -/
def catalogs (s : Circulation) : List (List (Nat × Nat)) :=
  s.pools.map BufferPool.catalog

/-- The numbers of the pools of all classes, with the sizes of their buffers. -/
def catalog (s : Circulation) : List (Nat × Nat) :=
  s.catalogs.flatten

section SetPool

variable {s : Circulation} {k : Nat} {p : BufferPool}

theorem setPool_self (found : s.pools[k]? = some p) : s.setPool k p = s := by
  obtain ⟨short, rfl⟩ := List.getElem?_eq_some_iff.1 found
  simp [setPool]

theorem setPool_setPool (s : Circulation) (k : Nat) (p p' : BufferPool) :
    (s.setPool k p).setPool k p' = s.setPool k p' := by
  simp [setPool]

theorem getElem?_setPool (found : s.pools[k]? = some p) (p' : BufferPool) :
    (s.setPool k p').pools[k]? = some p' := by
  obtain ⟨short, -⟩ := List.getElem?_eq_some_iff.1 found
  simp [setPool, short]

end SetPool

theorem catalog_congr {s s' : Circulation} (same : s'.catalogs = s.catalogs) :
    s'.catalog = s.catalog :=
  congrArg List.flatten same

/-- The pools are in order, no number stands for two sizes, and the tag of a buffer leads to its
size. -/
structure Sound (s : Circulation) : Prop where
  order : ∀ p ∈ s.pools, p.InOrder
  numbers : (s.catalog.map Prod.fst).Nodup
  known : ∀ entry ∈ s.catalog, entry.1 < s.nextId
  fits : ∀ b ∈ s.held, BufferPool.Fits s.catalog b

namespace Sound

variable {s : Circulation} {k : Nat} {p p' : BufferPool}

theorem start : Circulation.start.Sound :=
  ⟨nofun, List.nodup_nil, nofun, nofun⟩

theorem catalog_subset (found : s.pools[k]? = some p) : p.catalog ⊆ s.catalog := fun _ listed =>
  List.mem_flatten.2 ⟨_, List.mem_map_of_mem (List.mem_of_getElem? found), listed⟩

/-- A tag leads to one size only. -/
theorem size_unique (sound : s.Sound) {b : Leased Buffer} (fits : BufferPool.Fits s.catalog b)
    (found : s.pools[k]? = some p) {t : Tag} {size : Nat} (tag : b.tag = some t)
    (listed : (t.pool, size) ∈ p.catalog) : b.item.capacity = size := by
  have same := List.inj_on_of_nodup_map sound.numbers (fits t tag) (catalog_subset found listed) rfl
  exact congrArg Prod.snd same

theorem catalogs_setPool (found : s.pools[k]? = some p) (same : p'.catalog = p.catalog) :
    (s.setPool k p').catalogs = s.catalogs := by
  obtain ⟨short, rfl⟩ := List.getElem?_eq_some_iff.1 found
  apply List.ext_getElem?
  intro j
  by_cases here : k = j
  · subst here
    simp [catalogs, Circulation.setPool, short, same]
  · simp [catalogs, Circulation.setPool, here]

/-- A pool may change as long as its classes keep their numbers and sizes. -/
theorem setPool (sound : s.Sound) (found : s.pools[k]? = some p) (order : p'.InOrder)
    (same : p'.catalog = p.catalog) :
    (s.setPool k p').Sound ∧ (s.setPool k p').catalogs = s.catalogs := by
  have catalogs := catalogs_setPool found same
  have catalog := catalog_congr catalogs
  refine ⟨⟨?_, catalog ▸ sound.numbers, catalog ▸ sound.known, catalog ▸ sound.fits⟩, catalogs⟩
  intro q listed
  rcases List.mem_or_eq_of_mem_set listed with before | rfl
  · exact sound.order q before
  · exact order

/-- Users may hold whatever buffers fit. -/
theorem hold (sound : s.Sound) {held : List (Leased Buffer)}
    (fits : ∀ b ∈ held, BufferPool.Fits s.catalog b) : Sound { s with held } :=
  ⟨sound.order, sound.numbers, sound.known, fits⟩

theorem rent (sound : s.Sound) (found : s.pools[k]? = some p) (n : Nat) :
    (s.setPool k (p.rent n).2).Sound ∧ (s.setPool k (p.rent n).2).catalogs = s.catalogs ∧
      BufferPool.Fits s.catalog (p.rent n).1 := by
  have order := sound.order p (List.mem_of_getElem? found)
  obtain ⟨-, -, fits, order', same⟩ := order.rent n
  obtain ⟨sound', catalogs⟩ := sound.setPool found order' same
  exact ⟨sound', catalogs, fun t tag => catalog_subset found (fits t tag)⟩

theorem rent? (sound : s.Sound) (found : s.pools[k]? = some p) (n : Nat) :
    (s.setPool k (p.rent? n).2).Sound ∧ (s.setPool k (p.rent? n).2).catalogs = s.catalogs ∧
      ∀ b, (p.rent? n).1 = some b → BufferPool.Fits s.catalog b := by
  obtain ⟨order, same⟩ := (sound.order p (List.mem_of_getElem? found)).rent? n
  obtain ⟨sound', catalogs⟩ := sound.setPool found order same
  refine ⟨sound', catalogs, fun b handed => ?_⟩
  rw [BufferPool.eq_rent_of_rent? handed]
  exact (sound.rent found n).2.2

theorem giveBack (sound : s.Sound) (found : s.pools[k]? = some p) {b : Leased Buffer}
    (fits : BufferPool.Fits s.catalog b) (accepted : p.giveBack b = .ok p') :
    (s.setPool k p').Sound ∧ (s.setPool k p').catalogs = s.catalogs := by
  have order := sound.order p (List.mem_of_getElem? found)
  obtain ⟨order', same⟩ :=
    order.giveBack (fun t size tag listed => sound.size_unique fits found tag listed) accepted
  exact sound.setPool found order' same

theorem fits_filled {catalog : List (Nat × Nat)} {b : Leased Buffer}
    (fits : BufferPool.Fits catalog b) (start : Nat) (data : Bytes) :
    BufferPool.Fits catalog (filled start data b) := by
  unfold filled
  split
  · exact fits
  · exact fits

theorem fits_handled {catalog : List (Nat × Nat)} {held : List (Leased Buffer)}
    (fits : ∀ b ∈ held, BufferPool.Fits catalog b) (h : Handling Buffer) :
    ∀ b ∈ h.apply held, BufferPool.Fits catalog b := by
  intro b listed
  cases h with
  | create x =>
    rcases List.mem_append.1 listed with before | new
    · exact fits b before
    · rw [List.mem_singleton.1 new]
      nofun
  | copy i =>
    rcases List.mem_append.1 listed with before | new
    · exact fits b before
    · exact fits b (List.mem_of_getElem? (Option.mem_toList.1 new))
  | discard i => exact fits b (List.mem_of_mem_eraseIdx listed)

/-- The classes of a new pool have numbers that no tag carries. -/
theorem build (sound : s.Sound) {skipped least most : Nat} {checks : Bool}
    (built : BufferPool.new? (s.nextId + skipped) least most checks = some p) :
    Sound { s with
      pools := s.pools ++ [p], nextId := s.nextId + skipped + p.classes.length } := by
  obtain ⟨order, row⟩ := BufferPool.inOrder_new? built
  have catalog : ((s.pools ++ [p]).map BufferPool.catalog).flatten = s.catalog ++ p.catalog := by
    simp [Circulation.catalog, catalogs]
  have numbered : ∀ entry ∈ p.catalog,
      s.nextId + skipped ≤ entry.1 ∧ entry.1 < s.nextId + skipped + p.classes.length := by
    intro entry listed
    have number : entry.1 ∈ p.catalog.map Prod.fst := List.mem_map_of_mem listed
    rwa [row, List.mem_range'_1] at number
  constructor
  case order =>
    intro q listed
    rcases List.mem_append.1 listed with before | new
    · exact sound.order q before
    · rw [List.mem_singleton.1 new]
      exact order
  case numbers =>
    rw [Circulation.catalog, catalogs, catalog, List.map_append, row]
    refine List.nodup_append.2 ⟨sound.numbers, List.nodup_range', fun k before k' new => ?_⟩
    obtain ⟨entry, listed, rfl⟩ := List.mem_map.1 before
    have known := sound.known entry listed
    have above := (List.mem_range'_1.1 new).1
    omega
  case known =>
    rw [Circulation.catalog, catalogs, catalog]
    intro entry listed
    rcases List.mem_append.1 listed with before | new
    · have known := sound.known entry before
      simp only
      omega
    · exact (numbered entry new).2
  case fits =>
    rw [Circulation.catalog, catalogs, catalog]
    exact fun b listed t tag => List.mem_append_left _ (sound.fits b listed t tag)

/-- After a move the pools there were are there still, with the same classes. -/
theorem step (sound : s.Sound) (move : Move) :
    (s.apply move).Sound ∧ s.catalogs <+: (s.apply move).catalogs := by
  have unchanged : s.Sound ∧ s.catalogs <+: s.catalogs := ⟨sound, List.prefix_rfl⟩
  cases move with
  | build skipped least most checks =>
    cases built : BufferPool.new? (s.nextId + skipped) least most checks with
    | none => simpa only [apply, built] using unchanged
    | some p =>
      simp only [apply, built]
      exact ⟨sound.build built, [p.catalog], by simp [catalogs]⟩
  | rent k n =>
    cases found : s.pools[k]? with
    | none => simpa only [apply, found] using unchanged
    | some p =>
      obtain ⟨sound', same, fits⟩ := sound.rent? found n
      simp only [apply, found]
      refine ⟨sound'.hold fun b listed => ?_, same ▸ List.prefix_rfl⟩
      rw [catalog_congr same]
      rcases List.mem_append.1 listed with before | new
      · exact sound.fits b before
      · exact fits b (Option.mem_toList.1 new)
  | giveBack k i =>
    cases found : s.pools[k]? with
    | none => simpa only [apply, found] using unchanged
    | some p =>
      cases item : s.held[i]? with
      | none => simpa only [apply, found, item] using unchanged
      | some b =>
        have fits := sound.fits b (List.mem_of_getElem? item)
        have rest := sound.hold fun b listed =>
          sound.fits b (List.mem_of_mem_eraseIdx (i := i) listed)
        simp only [apply, found, item]
        cases result : p.giveBack b with
        | error v => exact ⟨rest, List.prefix_rfl⟩
        | ok p' =>
          obtain ⟨sound', same⟩ := rest.giveBack found fits result
          exact ⟨sound', same ▸ List.prefix_rfl⟩
  | fill i start data =>
    refine ⟨sound.hold fun b listed => ?_, List.prefix_rfl⟩
    obtain ⟨j, found⟩ := List.mem_iff_getElem?.1 listed
    rw [List.getElem?_modify] at found
    obtain ⟨b', found', rfl⟩ := Option.map_eq_some_iff.1 found
    have fits := sound.fits b' (List.mem_of_getElem? found')
    split
    · exact fits_filled fits start data
    · exact fits
  | handle h => exact ⟨sound.hold (fits_handled sound.fits h), List.prefix_rfl⟩

end Sound

theorem sound_after (moves : List Move) : (start.after moves).Sound := by
  induction moves using List.reverseRecOn with
  | nil => exact .start
  | append_singleton moves move ih =>
    rw [after, List.foldl_append]
    exact (ih.step move).1

/-- Whatever waits in a pool, and whatever may yet come to wait, could be allocated. -/
structure Housed (s : Circulation) : Prop where
  pools : ∀ p ∈ s.pools, p.Housed
  held : ∀ b ∈ s.held, b.tag ≠ none → b.item.capacity < allocationBound

namespace Housed

variable {s : Circulation}

theorem setPool (housed : s.Housed) (k : Nat) {p : BufferPool} (new : p.Housed) :
    (s.setPool k p).Housed where
  pools := by
    intro q listed
    rcases List.mem_or_eq_of_mem_set listed with before | rfl
    · exact housed.pools q before
    · exact new
  held := housed.held

theorem hold (housed : s.Housed) {held : List (Leased Buffer)}
    (small : ∀ b ∈ held, b.tag ≠ none → b.item.capacity < allocationBound) :
    Housed { s with held } :=
  ⟨housed.pools, small⟩

theorem step (housed : s.Housed) (move : Move) : (s.apply move).Housed := by
  cases move with
  | build skipped least most checks =>
    cases built : BufferPool.new? (s.nextId + skipped) least most checks with
    | none => simpa only [apply, built] using housed
    | some p =>
      simp only [apply, built]
      refine ⟨fun q listed => ?_, housed.held⟩
      rcases List.mem_append.1 listed with before | new
      · exact housed.pools q before
      · rw [List.mem_singleton.1 new]
        exact BufferPool.housed_new? built
  | rent k n =>
    cases found : s.pools[k]? with
    | none => simpa only [apply, found] using housed
    | some p =>
      have known := housed.pools p (List.mem_of_getElem? found)
      simp only [apply, found]
      refine (housed.setPool k (known.rent? n)).hold fun b listed tag => ?_
      rcases List.mem_append.1 listed with before | new
      · exact housed.held b before tag
      · have handed := Option.mem_toList.1 new
        rw [known.fst_rent? n] at handed
        split at handed <;> cases handed
        assumption
  | giveBack k i =>
    cases found : s.pools[k]? with
    | none => simpa only [apply, found] using housed
    | some p =>
      cases item : s.held[i]? with
      | none => simpa only [apply, found, item] using housed
      | some b =>
        have small := housed.held b (List.mem_of_getElem? item)
        have rest := housed.hold fun b listed =>
          housed.held b (List.mem_of_mem_eraseIdx (i := i) listed)
        simp only [apply, found, item]
        cases result : p.giveBack b with
        | error v => exact rest
        | ok p' =>
          exact rest.setPool k
            ((housed.pools p (List.mem_of_getElem? found)).giveBack small result)
  | fill i start data =>
    refine housed.hold fun b listed tag => ?_
    obtain ⟨j, found⟩ := List.mem_iff_getElem?.1 listed
    rw [List.getElem?_modify] at found
    obtain ⟨b', found', rfl⟩ := Option.map_eq_some_iff.1 found
    have small := housed.held b' (List.mem_of_getElem? found')
    unfold filled at tag ⊢
    split_ifs at tag ⊢ <;> exact small tag
  | handle h =>
    refine housed.hold fun b listed tag => ?_
    cases h with
    | create x =>
      rcases List.mem_append.1 listed with before | new
      · exact housed.held b before tag
      · rw [List.mem_singleton.1 new] at tag
        exact absurd rfl tag
    | copy i =>
      rcases List.mem_append.1 listed with before | new
      · exact housed.held b before tag
      · exact housed.held b (List.mem_of_getElem? (Option.mem_toList.1 new)) tag
    | discard i => exact housed.held b (List.mem_of_mem_eraseIdx listed) tag

end Housed

theorem housed_after (moves : List Move) : (start.after moves).Housed := by
  induction moves using List.reverseRecOn with
  | nil => exact ⟨nofun, nofun⟩
  | append_singleton moves move ih =>
    rw [after, List.foldl_append]
    exact ih.step move

/-- Rented buffers are large enough, whatever is done with buffers before and whether pools check
their returns or not: a request that is pooled gets a buffer of the smallest class that is large
enough, and a larger one gets a buffer of exactly the size asked for, which belongs to no pool. Such
a buffer is had exactly if it is not too large to be allocated. A class never keeps a buffer of
another size. -/
theorem rented_buffers_large_enough (moves : List Move) {p : BufferPool}
    (listed : p ∈ (start.after moves).pools) :
    (∀ n, n ≤ p.maxPooledSize →
      ∃ size, IsLeast {size | size ∈ p.sizes ∧ n ≤ size} size ∧
        if size < allocationBound then
          ∃ b, (p.rent? n).1 = some b ∧ b.item.capacity = size ∧ b.tag ≠ none
        else (p.rent? n).1 = none) ∧
    (∀ n, p.maxPooledSize < n →
      (p.rent? n).1 = if n < allocationBound then some ⟨.zeros n, none⟩ else none) ∧
    ∀ c ∈ p.classes, ∀ b ∈ c.pool.idle, b.item.capacity = c.size := by
  have order := (sound_after moves).order p listed
  have housed := (housed_after moves).pools p listed
  refine ⟨fun n small => ?_, fun n large => ?_, order.idle⟩
  · obtain ⟨serves, tag, -⟩ := order.rent n
    rw [BufferPool.Serves, if_pos small] at serves
    refine ⟨_, serves, ?_⟩
    rw [housed.fst_rent? n]
    split
    · exact ⟨_, rfl, rfl, fun none' => Nat.not_lt.2 small (tag.1 none')⟩
    · rfl
  · rw [housed.fst_rent? n, BufferPool.rent_of_lt order large]
    rfl

/-- A pool that does not check its returns takes a buffer and then its copy, and hands out both. -/
def doubling : List Move :=
  [.build 0 1 200 false, .rent 0 65, .handle (.copy 0), .giveBack 0 0, .giveBack 0 0, .rent 0 100]

/-- Both come from the class of 128 bytes; a request beyond the largest class goes past all. -/
theorem rented_buffers_large_enough_twice :
    ∃ p, (start.after doubling).pools = [p] ∧ p.sizes = [64, 128, 256] ∧
      p.classes.map (·.pool.idle.length) = [0, 1, 0] ∧
      (∃ b, (p.rent? 65).1 = some b ∧ b.item.capacity = 128) ∧
      (p.rent? 257).1 = some ⟨.zeros 257, none⟩ := by
  obtain ⟨p, pools⟩ : ∃ p, (start.after doubling).pools = [p] := ⟨_, rfl⟩
  have known : [p.sizes] = [[64, 128, 256]] ∧ [p.maxPooledSize] = [256] ∧
      [p.classes.map (·.pool.idle.length)] = [[0, 1, 0]] := by
    change List.map _ [p] = _ ∧ List.map _ [p] = _ ∧
      List.map (fun p : BufferPool => p.classes.map (·.pool.idle.length)) [p] = _
    rw [← pools]
    decide
  simp only [List.cons.injEq, and_true] at known
  obtain ⟨sizes, largest, idle⟩ := known
  obtain ⟨pooled, single, -⟩ :=
    rented_buffers_large_enough doubling (pools ▸ List.mem_cons_self : p ∈ _)
  obtain ⟨size, ⟨⟨listed, enough⟩, least⟩, served⟩ := pooled 65 (by omega)
  have bound : size ≤ 128 := least ⟨by simp [sizes], by decide⟩
  have exact_ : size = 128 := by
    simp only [sizes, List.mem_cons, List.not_mem_nil, or_false] at listed
    omega
  rw [exact_, if_pos (by decide)] at served
  obtain ⟨b, handed, capacity, -⟩ := served
  refine ⟨p, pools, sizes, idle, ⟨b, handed, capacity⟩, ?_⟩
  rw [single 257 (by omega), if_pos (by decide)]

/-- Half of the words are sizes that cannot be allocated. A request for such a size is not served
where it is beyond the largest class, and neither is a small one where it falls to a class of such a
size. -/
theorem rent_refused_beyond_allocation :
    (∃ p, (start.after [.build 0 64 1024 true]).pools = [p] ∧ p.sizes = [64, 128, 256, 512, 1024] ∧
      (p.rent? 0x8000000000000000).1 = none) ∧
    ∃ p, (start.after [.build 0 0x8000000000000000 1 true]).pools = [p] ∧
      p.sizes = [0x8000000000000000] ∧ (p.rent? 1).1 = none := by
  refine ⟨⟨_, rfl, ?_, ?_⟩, _, rfl, ?_, ?_⟩ <;> decide

end Circulation

end MessageBroker.Lease
