import MessageBroker.Proofs.Broker.Stakes

/-!
# What each operation does with stakes

Each operation of a broker is a passage of its books. To publish gives a stake to every queue that
the message goes to; a worker moves a stake from its queue to a delivery; a delivery that ends gives
its stake up or takes it back to the queue; to delete a queue gives up all stakes that wait in it.
-/

namespace MessageBroker

open Books

namespace Store.Depot

variable {d : Depot}

theorem use_of_works {α : Type} {call : Call} (works : d.failuresOf call = 0)
    (task : Messages → Except Error α × Messages) :
    d.use call task = ((task d.messages).1, { d with messages := (task d.messages).2 }) := by
  rw [use, works]

theorem get?_of_works (works : ∀ call, d.failuresOf call = 0) (id : CorrelationId) :
    d.get? id = (.ok (d.messages.get? id), d) :=
  use_of_works (works _) _

theorem delete_of_works (works : ∀ call, d.failuresOf call = 0) (id : CorrelationId) :
    d.delete id = (.ok (d.messages.delete id).1, { d with messages := (d.messages.delete id).2 }) :=
  use_of_works (works _) _

end Store.Depot

namespace Broker

variable {b : Broker} {loose : Multiset Stake}

theorem books_release_last {m : CorrelationId} (count : b.references.counts.get? m = some 1)
    (works : ∀ call, b.depot.failuresOf call = 0) :
    (b.release m).books =
      { b.books with
        references := ⟨b.references.counts.erase m⟩
        depot := { b.depot with messages := (b.depot.messages.delete m).2 }
        events := .messageRetired m :: b.books.events } := by
  simp only [release, References.release, count, Nat.le_refl, if_true,
    Store.Depot.delete_of_works works]
  rfl

theorem books_release_more {m : CorrelationId} {n : Nat}
    (count : b.references.counts.get? m = some (n + 2)) :
    (b.release m).books =
      { b.books with references := ⟨b.references.counts.insert m (n + 1)⟩ } := by
  have more : ¬n + 2 ≤ 1 := by omega
  simp only [release, References.release, count, if_neg more]
  rfl

/-- One stake in a message is given up, and with the last one the message is retired. -/
theorem release_passage {k : Nat} {m : CorrelationId}
    (balanced : b.books.Balanced ((k, m) ::ₘ loose)) :
    Passage b.books ((k, m) ::ₘ loose) {(k, m)} (b.release m).books loose := by
  have count : b.references.counts.get? m = some (tally m (b.books.stakes + loose) + 1) := by
    have counted := balanced.counted m
    rwa [Multiset.add_cons, tally_cons, if_pos rfl, if_neg (Nat.succ_ne_zero _)] at counted
  cases left : tally m (b.books.stakes + loose) with
  | zero =>
      rw [left] at count
      rw [books_release_last count balanced.works]
      refine .giveUp balanced rfl balanced.closed balanced.works ?_ ?_ ?_
      · intro id
        rw [left, if_pos rfl]
        exact Table.get?_erase _ _ _
      · intro id
        simp only [left, and_true]
        exact Table.get?_erase _ _ _
      · rw [left]
        rfl
  | succ n =>
      rw [left] at count
      rw [books_release_more count]
      refine .giveUp balanced rfl balanced.closed balanced.works ?_ ?_ ?_
      · intro id
        rw [left, if_neg (Nat.succ_ne_zero n)]
        exact Table.get?_insert _ _ _ _
      · intro id
        rw [left, if_neg fun h => Nat.succ_ne_zero n h.2]
      · rw [left]
        rfl

/-- A loose stake goes to the shelf of its queue, which is open. -/
theorem shelve_passage {s : Books} {k : Nat} {m : CorrelationId}
    (balanced : s.Balanced ((k, m) ::ₘ loose)) (opened : s.isOpen k = true) {g : Shelf → Shelf}
    (adds : ∀ shelf, ((g shelf).pending : Multiset CorrelationId) = m ::ₘ ↑shelf.pending)
    (closed : ∀ shelf, (g shelf).isClosed = shelf.isClosed) :
    Passage s ((k, m) ::ₘ loose) 0 { s with shelves := s.shelves.modify k g } loose := by
  obtain ⟨shelf, found, free⟩ := isOpen_iff.1 opened
  refine .shelve balanced found ?_ ?_
  · rw [← Multiset.map_coe, adds, Multiset.map_cons, Multiset.map_coe, Multiset.cons_add,
      Multiset.add_cons]
  · intro shut
    rw [closed, free] at shut
    exact Bool.noConfusion shut

theorem enqueue_passage {k : Nat} {m : CorrelationId}
    (balanced : b.books.Balanced ((k, m) ::ₘ loose)) (opened : b.books.isOpen k = true) :
    Passage b.books ((k, m) ::ₘ loose) 0 (b.enqueue k m).2.books loose := by
  rw [(b.books_enqueue k m).2, if_pos opened]
  refine shelve_passage balanced opened ?_ fun _ => rfl
  intro shelf
  rw [Shelf.append, ← Multiset.coe_add, add_comm, Multiset.coe_singleton, Multiset.singleton_add]

/-- An open queue takes a message back; a closed one settles it. -/
theorem requeue_passage {k : Nat} {m : CorrelationId}
    (balanced : b.books.Balanced ((k, m) ::ₘ loose)) :
    Passage b.books ((k, m) ::ₘ loose) (if b.books.isOpen k then 0 else {(k, m)})
      (b.requeue k m).books loose := by
  obtain ⟨b', books, requeued⟩ := b.requeue_eq k m
  rw [requeued]
  cases opened : b.books.isOpen k with
  | true =>
      simp only [opened, if_true] at books ⊢
      rw [books]
      exact shelve_passage balanced opened (fun _ => rfl) fun _ => rfl
  | false =>
      simp only [opened, Bool.false_eq_true, if_false] at books ⊢
      rw [← books] at balanced ⊢
      exact release_passage balanced

theorem isOpen_enqueue (b : Broker) (j k : Nat) (m : CorrelationId) :
    (b.enqueue k m).2.books.isOpen j = b.books.isOpen j := by
  rw [(b.books_enqueue k m).2]
  split
  · simp only [isOpen, List.getElem?_modify]
    cases b.books.shelves[j]? with
    | none => rfl
    | some shelf => by_cases same : k = j <;> simp [same, Shelf.append]
  · rfl

theorem shelves_release (b : Broker) (m : CorrelationId) :
    (b.release m).books.shelves = b.books.shelves := by
  unfold release
  dsimp only
  split
  · split <;> rfl
  · rfl

/-- The queues among certain lanes that do not take a message any more. -/
def shutAmong (s : Books) (lanes : List Nat) : List Nat :=
  lanes.filter fun k => !s.isOpen k

/-- Of the queues that a message is meant for the open ones take it, and the others give up their
stake in it. -/
theorem fanOutEach_passage {m : CorrelationId} {lanes : List Nat}
    (balanced : b.books.Balanced (↑(lanes.map fun k => (k, m)) + loose)) (count : Nat) :
    (lanes.foldl (fanOutTo m) (count, b)).1 = count + (lanes.filter b.books.isOpen).length ∧
      Passage b.books (↑(lanes.map fun k => (k, m)) + loose)
        ↑((shutAmong b.books lanes).map fun k => (k, m))
        (lanes.foldl (fanOutTo m) (count, b)).2.books loose := by
  induction lanes generalizing b count with
  | nil =>
      rw [List.map_nil, Multiset.coe_nil, zero_add] at balanced ⊢
      exact ⟨rfl, .refl balanced⟩
  | cons k lanes ih =>
      have whole : (↑((k :: lanes).map fun k => (k, m)) : Multiset Stake) + loose =
          (k, m) ::ₘ (↑(lanes.map fun k => (k, m)) + loose) := by
        rw [List.map_cons, ← Multiset.cons_coe, Multiset.cons_add]
      rw [whole] at balanced ⊢
      have same := isOpen_enqueue b (k := k) (m := m)
      have taken := (b.books_enqueue k m).1
      rw [List.foldl_cons, fanOutTo]
      cases opened : b.books.isOpen k with
      | true =>
          have first := enqueue_passage balanced opened
          obtain ⟨counted, rest⟩ := ih first.balanced (count + 1)
          simp only [shutAmong, funext same] at counted rest
          simp only [taken, opened, if_true, shutAmong, List.filter_cons, Bool.not_true,
            Bool.false_eq_true, if_false, List.length_cons]
          refine ⟨by rw [counted, Nat.add_assoc, Nat.add_comm 1], ?_⟩
          exact first.onward rest
      | false =>
          have idle : (b.enqueue k m).2.books = b.books := by
            rw [(b.books_enqueue k m).2, if_neg (by simp [opened])]
          rw [← idle] at balanced
          have first := release_passage balanced
          obtain ⟨counted, rest⟩ := ih first.balanced count
          have same' : ∀ j, ((b.enqueue k m).2.release m).books.isOpen j = b.books.isOpen j := by
            intro j
            rw [← same, isOpen, isOpen, shelves_release]
          simp only [shutAmong, funext same'] at counted rest
          rw [idle] at first
          simp only [taken, opened, Bool.false_eq_true, if_false, shutAmong, List.filter_cons,
            Bool.not_false, if_true, List.map_cons]
          refine ⟨counted, ?_⟩
          rw [← Multiset.cons_coe, ← Multiset.singleton_add]
          exact first.trans rest

/-- A queue gives up its stakes in several messages, one after the other. -/
theorem releaseEach_passage {k : Nat} {ids : List CorrelationId}
    (balanced : b.books.Balanced (↑(ids.map fun m => (k, m)) + loose)) :
    Passage b.books (↑(ids.map fun m => (k, m)) + loose) ↑(ids.map fun m => (k, m))
      (ids.foldl release b).books loose := by
  induction ids generalizing b with
  | nil =>
      rw [List.map_nil, Multiset.coe_nil, zero_add] at balanced ⊢
      exact .refl balanced
  | cons m ids ih =>
      have whole : (↑((m :: ids).map fun m => (k, m)) : Multiset Stake) + loose =
          (k, m) ::ₘ (↑(ids.map fun m => (k, m)) + loose) := by
        rw [List.map_cons, ← Multiset.cons_coe, Multiset.cons_add]
      rw [whole] at balanced ⊢
      have first := release_passage balanced
      have rest := ih first.balanced
      rw [List.map_cons, ← Multiset.cons_coe, ← Multiset.singleton_add]
      exact first.trans rest

/-- A queue that is declared begins without stakes. -/
theorem declare_passage (balanced : b.books.Balanced loose) (name route : String) :
    Passage b.books loose 0 (b.declare name route).2.books loose := by
  unfold declare
  split
  · exact .refl balanced
  · split
    · exact .refl balanced
    · rename_i pattern _
      split
      · split <;> exact .refl balanced
      · rw [books_later_work]
        have shelves : (Broker.books { b with
            lanes := b.lanes ++ [⟨Queue.new name pattern, b.settings.backoff, .due⟩] }).shelves =
            b.books.shelves ++ [⟨false, []⟩] := List.map_append
        refine .transfer balanced ?_ rfl rfl rfl ?_
        · have same : shelved 0 (b.books.shelves ++ [⟨false, []⟩]) = shelved 0 b.books.shelves := by
            rw [shelved_append, List.map_nil, Multiset.coe_nil, add_zero]
          rw [stakes, shelves, same]
          rfl
        · intro shelf listed shut
          rw [shelves, List.mem_append, List.mem_singleton] at listed
          rcases listed with before | new
          · exact balanced.closed shelf before shut
          · rw [new]

/-- A declared queue has stakes in different messages. -/
theorem nodup_pending (balanced : b.books.Balanced loose) {k : Nat} {lane : Lane}
    (found : b.lanes[k]? = some lane) : lane.queue.pending.Nodup := by
  have shelf : b.books.shelves[k]? = some lane.shelf := by
    simp [books, found]
  obtain ⟨others, before, -⟩ := shelved_modify shelf 0
  rw [Nat.zero_add] at before
  have once := balanced.once
  rw [stakes, before, add_assoc, add_assoc, add_assoc] at once
  exact (Multiset.coe_nodup.1 (Multiset.nodup_add.1 once).1).of_map

/-- The stakes that wait in the queue of a name, all of which are given up when it is deleted. -/
def stakesIn (b : Broker) (name : String) : Multiset Stake :=
  match b.lane? name with
  | some (k, lane) => ↑(lane.queue.pending.map fun m => (k, m))
  | none => 0

/-- A queue that is deleted is closed and emptied, and then gives up what waited in it. -/
theorem delete_cases (b : Broker) (name : String) :
    b.lane? name = none ∧ (b.delete name).2 = b ∨
      ∃ k lane b', b.lane? name = some (k, lane) ∧ b.books.shelves[k]? = some lane.shelf ∧
        b'.books = { b.books with shelves := b.books.shelves.modify k Shelf.abolish } ∧
        (b.delete name).2 = lane.queue.pending.foldl release b' := by
  unfold delete
  cases found : b.lane? name with
  | none => exact .inl ⟨rfl, rfl⟩
  | some entry =>
      obtain ⟨k, lane⟩ := entry
      have shelf : b.books.shelves[k]? = some lane.shelf := by
        simp [books, (lane?_eq_some found).1]
      refine .inr ⟨k, lane, _, rfl, shelf, ?_, rfl⟩
      rw [books_withSessions]
      exact b.books_abolish k

theorem delete_passage (balanced : b.books.Balanced loose) (name : String) :
    Passage b.books loose (b.stakesIn name) (b.delete name).2.books loose := by
  unfold stakesIn
  rcases b.delete_cases name with ⟨missing, same⟩ | ⟨k, lane, b', found, shelf, closed, same⟩
  · rw [missing, same]
    exact .refl balanced
  · have first : Passage b.books loose 0
        { b.books with shelves := b.books.shelves.modify k Shelf.abolish }
        (↑(lane.queue.pending.map fun m => (k, m)) + loose) := by
      refine .shelve balanced shelf ?_ fun _ => rfl
      rw [Shelf.abolish, List.map_nil, Multiset.coe_nil, zero_add]
      rfl
    rw [← closed] at first
    rw [found, same]
    exact first.onward (releaseEach_passage first.balanced)

/-- What a worker has taken from its queue goes on its way to a subscriber. -/
theorem books_sendOff {k c : Nat} {m : CorrelationId} {message : Store.Message}
    (works : ∀ call, b.depot.failuresOf call = 0)
    (stored : b.depot.messages.get? m = some message) :
    (b.sendOff k c m).2.books = { b.books with
      sends := b.books.sends ++ [⟨b.mint b.minted, k, c, m, message.route, message.payload⟩] } := by
  have found : b.depot.get? m = (.ok (some message), b.depot) := by
    rw [Store.Depot.get?_of_works works]
    exact congrArg (fun found => (Except.ok found, b.depot)) stored
  simp only [sendOff, found, books_later, Task.delivery?, Task.ticket?, Task.publication?,
    Option.toList_some, Option.toList_none, List.append_nil]
  rfl

/-- An attempt of a worker to deliver leaves the books as they are, or takes the message at the head of
its queue and sends it off. -/
theorem offer_cases (b : Broker) (k : Nat) : (b.offer k).2.books = b.books ∨
    ∃ (shelf : Shelf) (m : CorrelationId) (rest : List CorrelationId) (c : Nat) (b' : Broker),
      b.books.shelves[k]? = some shelf ∧ shelf.pending = m :: rest ∧
        b'.books = { b.books with shelves := b.books.shelves.modify k Shelf.behead } ∧
        (b.offer k).2 = (b'.sendOff k c m).2 := by
  unfold offer
  cases found : b.lanes[k]? with
  | none => exact .inl rfl
  | some lane =>
      have shelf : b.books.shelves[k]? = some lane.shelf := by
        simp [books, found]
      cases pending : lane.queue.pending with
      | nil =>
          left
          simp only [pending]
      | cons m rest =>
          simp only [pending]
          have chosen := b.books_modifyQueue_of_shelf k
            (f := fun queue => { queue with roster := (lane.queue.roster.select b.hasRoom).2 })
            fun _ => ⟨rfl, rfl⟩
          cases (lane.queue.roster.select b.hasRoom).1 with
          | none => exact .inl chosen
          | some member =>
              refine .inr ⟨lane.shelf, m, rest, member.client, _, shelf, pending, ?_, rfl⟩
              have same := (books_modifyClient _ member.client Peer.Client.occupy).trans chosen
              generalize modifyClient _ member.client Peer.Client.occupy = b' at same
              rw [← same]
              apply b'.books_modifyQueue k
              intro lane' found'
              have shelf' : b'.books.shelves[k]? = some lane'.shelf := by
                simp [books, found']
              rw [same, shelf] at shelf'
              rw [← Option.some.inj shelf', Shelf.behead, Lane.shelf, pending, List.tail_cons]
              exact congrArg (Shelf.mk · rest) (congrArg Shelf.isClosed (Option.some.inj shelf')).symm

/-- The work of a worker leaves the books as they are, or as an attempt to deliver leaves them. -/
theorem work_cases (b : Broker) (k : Nat) : (b.work k).books = b.books ∨
    ∃ b' : Broker, b'.books = b.books ∧ (b.work k).books = (b'.offer k).2.books := by
  cases found : (b.stepAside k).lanes[k]? with
  | none => exact .inl (by rw [work_of_none found, books_stepAside])
  | some lane =>
      cases closed : lane.queue.isClosed with
      | true => exact .inl (by rw [work_of_closed found closed, books_setStage, books_stepAside])
      | false =>
          refine .inr ⟨(b.stepAside k).modifyQueue k fun queue =>
            { queue with gate := queue.gate.block }, ?_, ?_⟩
          · exact ((b.stepAside k).books_modifyQueue_of_shelf k
              (f := fun queue => { queue with gate := queue.gate.block }) fun _ => ⟨rfl, rfl⟩).trans
              (b.books_stepAside k)
          · change _ = (b.attempt k).2.books
            rw [work_of_open found closed]
            split <;> rename_i b' tried <;> rw [tried]
            · rw [books_next_work]
              exact b'.books_modifyLane_of_shelf k fun _ => rfl
            · rw [books_await]
            · rw [books_await]
              exact b'.books_modifyLane_of_shelf k fun _ => rfl

theorem sendOff_passage {k c : Nat} {m : CorrelationId}
    (balanced : b.books.Balanced ((k, m) ::ₘ loose)) :
    Passage b.books ((k, m) ::ₘ loose) 0 (b.sendOff k c m).2.books loose := by
  have held : tally m (b.books.stakes + ((k, m) ::ₘ loose)) ≠ 0 :=
    tally_pos.2 ⟨(k, m), Multiset.mem_add.2 (.inr (Multiset.mem_cons_self _ _)), rfl⟩
  obtain ⟨message, stored⟩ := balanced.stored m held
  rw [books_sendOff balanced.works stored]
  refine .sends balanced ?_ _ _
  rw [List.map_append, ← Multiset.coe_add, Multiset.add_cons]
  change _ + {(k, m)} + loose = _
  rw [add_assoc, Multiset.singleton_add, Multiset.add_cons]

/-- An attempt of a worker moves at most the stake at the head of its queue. -/
theorem offer_passage (balanced : b.books.Balanced loose) (k : Nat) :
    Passage b.books loose 0 (b.offer k).2.books loose := by
  rcases b.offer_cases k with same | ⟨shelf, m, rest, c, b', found, pending, popped, same⟩
  · rw [same]
    exact .refl balanced
  · have taken : Passage b.books loose 0
        { b.books with shelves := b.books.shelves.modify k Shelf.behead } ((k, m) ::ₘ loose) := by
      refine .shelve balanced found ?_ ?_
      · simp only [Shelf.behead, pending, List.tail_cons, List.map_cons]
        rw [← Multiset.cons_coe, Multiset.cons_add, Multiset.add_cons]
      · intro shut
        have empty := balanced.closed shelf (List.mem_of_getElem? found) shut
        rw [pending] at empty
        exact absurd empty (List.cons_ne_nil m rest)
    rw [← popped] at taken
    rw [same]
    exact taken.onward (sendOff_passage taken.balanced)

theorem work_passage (balanced : b.books.Balanced loose) (k : Nat) :
    Passage b.books loose 0 (b.work k).books loose := by
  rcases b.work_cases k with same | ⟨b', books, same⟩
  · rw [same]
    exact .refl balanced
  · rw [same]
    rw [← books] at balanced ⊢
    exact offer_passage balanced k

end Broker

end MessageBroker
