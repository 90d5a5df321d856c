import MessageBroker.Proofs.Broker.Settlement

/-!
# Conservation of references

When a broker has nothing left to do before the clock moves, a message is in one of two kinds of
places: it waits in a declared queue, or a delivery of it waits for an outcome. Its references count
these places. This holds at all times before the broker is shut down, whatever has been declared,
deleted, published, recovered, lost or rejected before.
-/

namespace MessageBroker.Broker

open Books

variable {b : Broker} {answered : List Nat}

/-- How often a message waits in declared queues. -/
def waitingCount (b : Broker) (id : CorrelationId) : Nat :=
  ((b.lanes.filter fun lane => !lane.queue.isClosed).map fun lane =>
    lane.queue.pending.count id).sum

/-- How many deliveries of a message wait for an outcome. -/
def awaitedCount (b : Broker) (id : CorrelationId) : Nat :=
  b.flights.entries.countP fun (ticket, d) => b.ledger.isWaiting ticket && d.message = id

/-- How many deliveries of a message wait for an outcome that were taken from a given queue. -/
def awaitedFrom (b : Broker) (k : Nat) (id : CorrelationId) : Nat :=
  b.flights.entries.countP fun (ticket, d) =>
    b.ledger.isWaiting ticket && d.message = id && d.lane = k

/-- In how many places a message is. -/
def placeCount (b : Broker) (id : CorrelationId) : Nat :=
  b.waitingCount id + b.awaitedCount id

theorem tally_shelved (id : CorrelationId) (k : Nat) (shelves : List Shelf) :
    tally id (shelved k shelves) = (shelves.map fun shelf => shelf.pending.count id).sum := by
  induction shelves generalizing k with
  | nil => rfl
  | cons shelf shelves ih =>
      rw [shelved, tally_add, ih, ← card_holders, holders_of_ids, Multiset.card_replicate,
        List.map_cons, List.sum_cons]

/-- Closed queues are empty, so that it does not matter whether they are counted. -/
theorem waitingCount_eq (order : b.InOrder answered) (id : CorrelationId) :
    b.waitingCount id = tally id (shelved 0 b.books.shelves) := by
  have closed : ∀ lane ∈ b.lanes, lane.queue.isClosed = true → lane.queue.pending = [] := by
    intro lane listed shut
    exact order.balanced.closed lane.shelf (List.mem_map_of_mem listed) shut
  rw [waitingCount, tally_shelved, books, List.map_map]
  generalize b.lanes = lanes at closed
  induction lanes with
  | nil => rfl
  | cons lane lanes ih =>
      have rest := ih fun lane' listed => closed lane' (List.mem_cons_of_mem lane listed)
      rw [List.map_cons, List.sum_cons, ← rest]
      cases shut : lane.queue.isClosed with
      | false =>
          rw [List.filter_cons_of_pos (by simp [shut]), List.map_cons, List.sum_cons]
          rfl
      | true =>
          have empty := closed lane List.mem_cons_self shut
          rw [List.filter_cons_of_neg (by simp [shut])]
          simp [Lane.shelf, empty]

theorem awaitedCount_eq (order : b.InOrder answered) (rest : b.tasks = []) (id : CorrelationId) :
    b.awaitedCount id = tally id ↑(b.flights.values.map Delivery.stake) := by
  have flown : tally id ↑(b.flights.values.map Delivery.stake) =
      b.flights.entries.countP fun entry => entry.2.message = id := by
    rw [tally, Multiset.coe_countP, List.countP_map, Table.values, List.countP_map]
    rfl
  rw [flown, awaitedCount]
  apply List.countP_congr
  rintro ⟨ticket, d⟩ listed
  have waits := order.waits_of_rest rest (List.mem_map.2 ⟨(ticket, d), listed, rfl⟩)
  simp [waits]

/-- At rest the places of a message are the stakes in it. -/
theorem placeCount_eq (order : b.InOrder answered) (rest : b.tasks = []) (id : CorrelationId) :
    b.placeCount id = tally id b.books.stakes := by
  have none' : b.books.sends = [] := by rw [books, rest]; rfl
  rw [placeCount, waitingCount_eq order, awaitedCount_eq order rest, stakes, none', tally_add,
    tally_add]
  rfl

/-- A queue object has a message at most once, be it that the message waits in it or that a delivery
taken from it waits for an outcome. -/
theorem once_of_rest (order : b.InOrder answered) {k : Nat} {lane : Lane}
    (found : b.lanes[k]? = some lane) (id : CorrelationId) :
    lane.queue.pending.count id + b.awaitedFrom k id ≤ 1 := by
  have shelf : b.books.shelves[k]? = some lane.shelf := by
    simp [books, found]
  obtain ⟨others, before, -⟩ := shelved_modify shelf 0
  rw [Nat.zero_add] at before
  have once := order.balanced.once
  rw [add_zero] at once
  have here := Multiset.nodup_iff_count_le_one.1 once (k, id)
  rw [stakes, before, Multiset.count_add, Multiset.count_add, Multiset.count_add] at here
  have waits : Multiset.count (k, id) ↑(lane.shelf.pending.map fun m => (k, m)) =
      lane.queue.pending.count id := by
    rw [Multiset.count, Multiset.coe_countP, List.countP_map, List.count_eq_countP]
    apply List.countP_congr
    intro m _
    simp only [Function.comp_apply, decide_eq_true_eq, Prod.mk.injEq, true_and, beq_iff_eq]
    exact eq_comm
  have flies : b.awaitedFrom k id ≤ Multiset.count (k, id) ↑(b.flights.values.map Delivery.stake) := by
    rw [Multiset.count, Multiset.coe_countP, List.countP_map, Table.values, List.countP_map]
    apply List.countP_mono_left
    rintro ⟨ticket, d⟩ _ held
    simp only [Bool.and_eq_true, decide_eq_true_eq] at held
    simp [Delivery.stake, held.1.2, held.2]
  rw [waits] at here
  change lane.queue.pending.count id + Multiset.count (k, id) others + _ +
    Multiset.count (k, id) ↑(b.flights.values.map Delivery.stake) ≤ 1 at here
  omega

/-- References count the places of a message, in every state that a broker gets to. -/
theorem references_conserved {settings : Settings.Engine} {mint : Nat → CorrelationId}
    {calendar : Nat} {messages : Store.Messages} {start b : Broker}
    (started : Broker.new? settings mint calendar (.holding messages) = some start)
    (reached : Reaches start b) (rest : b.tasks = []) (id : CorrelationId) :
    b.references.outstanding id = (if b.placeCount id = 0 then none else some (b.placeCount id)) ∧
      (b.placeCount id ≠ 0 → ∃ message, b.depot.messages.get? id = some message) ∧
      ∀ k lane, b.lanes[k]? = some lane → lane.queue.pending.count id + b.awaitedFrom k id ≤ 1 := by
  obtain ⟨moves, rfl⟩ := reached
  have order := (InOrder.start started).after moves
  have counted := order.balanced.counted id
  have stored := order.balanced.stored id
  rw [add_zero, ← placeCount_eq order rest] at counted stored
  exact ⟨counted, stored, fun k lane found => once_of_rest order found id⟩

/-- One of two queues is deleted while a delivery from it waits for its outcome. -/
def parting : List Move :=
  [.declare "left" "news", .declare "right" "news", .connect "reader" .reliable,
    .subscribe "reader" "left" none, .publish ⟨.ofNat 1, "news", [7], none, 0⟩, .task, .task, .task,
    .task, .delete "left", .task, .task]

/-- The delivery keeps its reference. -/
theorem references_conserved_parting :
    (sample.after parting).tasks = [] ∧
      (sample.after parting).references.outstanding (.ofNat 1) = some 2 ∧
      (sample.after parting).waitingCount (.ofNat 1) = 1 :=
  have rest : (sample.after parting).tasks = [] := rfl
  ⟨rest, (references_conserved new?_sample ⟨parting, rfl⟩ rest (.ofNat 1)).1, rfl⟩

end MessageBroker.Broker
