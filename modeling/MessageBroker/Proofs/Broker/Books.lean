import MessageBroker.Broker.Schedule

/-!
# The books of a broker

What becomes of messages depends on little of what a broker keeps: what waits in its queues, which
deliveries are going to be written or have an outcome, what is tracked, the references, the store
and the announcements. This is what its books show. Most of what a broker does leaves them as they
are; the rest is described here by the entries it changes.
-/

namespace MessageBroker

/-- What a queue keeps about messages. -/
structure Shelf where
  isClosed : Bool
  pending : List CorrelationId
deriving DecidableEq, Repr

/-- The shelf of a lane. -/
def Lane.shelf (lane : Lane) : Shelf := ⟨lane.queue.isClosed, lane.queue.pending⟩

namespace Task

/-- The delivery that a task is going to write. -/
def delivery? : Task → Option Delivery
  | send d => some d
  | _ => none

/-- The ticket of the delivery that a task is going to conclude. -/
def ticket? : Task → Option Nat
  | conclude ticket => some ticket
  | _ => none

/-- The publication that a task lets into the store. -/
def publication? : Task → Option Publication
  | resume p => some p
  | _ => none

end Task

/-- What a broker keeps about messages. -/
structure Books where
  shelves : List Shelf
  /-- The deliveries that are going to be written. -/
  sends : List Delivery
  /-- The tickets of deliveries that are going to be concluded. -/
  concludes : List Nat
  resumes : List Publication
  flights : Table Nat Delivery
  ledger : Ledger
  references : References
  depot : Store.Depot
  /-- The announcements, latest first. -/
  events : List Event
  isShutDown : Bool

namespace Broker

/-- The books of a broker. -/
def books (b : Broker) : Books where
  shelves := b.lanes.map Lane.shelf
  sends := b.tasks.filterMap Task.delivery?
  concludes := b.tasks.filterMap Task.ticket?
  resumes := b.tasks.filterMap Task.publication?
  flights := b.flights
  ledger := b.ledger
  references := b.references
  depot := b.depot
  events := Record.events b.log
  isShutDown := b.isShutDown

/-- A queue that is found under a name is declared under it. -/
theorem lane?_eq_some {b : Broker} {name : String} {k : Nat} {lane : Lane}
    (found : b.lane? name = some (k, lane)) :
    b.lanes[k]? = some lane ∧ lane.queue.isClosed = false ∧ lane.queue.name = name := by
  have listed := List.mem_of_find?_eq_some found
  have holds := List.find?_some found
  obtain ⟨j, place⟩ := List.mem_iff_getElem?.1 listed
  rw [List.getElem?_mapIdx, Option.map_eq_some_iff] at place
  obtain ⟨lane', found', same⟩ := place
  obtain ⟨rfl, rfl⟩ := Prod.mk.inj same
  exact ⟨found', by simpa using holds⟩

/-- What is done to a lane is done to its shelf. -/
theorem books_modifyLane (b : Broker) (k : Nat) {f : Lane → Lane} {g : Shelf → Shelf}
    (does : ∀ lane, b.lanes[k]? = some lane → (f lane).shelf = g lane.shelf) :
    (b.modifyLane k f).books = { b.books with shelves := b.books.shelves.modify k g } := by
  have shelves : (b.lanes.modify k f).map Lane.shelf = (b.lanes.map Lane.shelf).modify k g := by
    apply List.ext_getElem?
    intro j
    rw [List.getElem?_map, List.getElem?_modify, List.getElem?_modify, List.getElem?_map]
    by_cases same : k = j
    · subst same
      cases found : b.lanes[k]? with
      | none => rfl
      | some lane => simpa using does lane found
    · simp [same]
  simp only [books, modifyLane, shelves]

theorem books_modifyLane_of_shelf (b : Broker) (k : Nat) {f : Lane → Lane}
    (same : ∀ lane, (f lane).shelf = lane.shelf) : (b.modifyLane k f).books = b.books := by
  rw [b.books_modifyLane k (g := id) fun lane _ => same lane, List.modify_id]

/-- What is done to a queue is done to its shelf. -/
theorem books_modifyQueue (b : Broker) (k : Nat) {f : Queue → Queue} {g : Shelf → Shelf}
    (does : ∀ lane, b.lanes[k]? = some lane →
      (⟨(f lane.queue).isClosed, (f lane.queue).pending⟩ : Shelf) = g lane.shelf) :
    (b.modifyQueue k f).books = { b.books with shelves := b.books.shelves.modify k g } :=
  b.books_modifyLane k does

theorem books_modifyQueue_of_shelf (b : Broker) (k : Nat) {f : Queue → Queue}
    (same : ∀ q, (f q).isClosed = q.isClosed ∧ (f q).pending = q.pending) :
    (b.modifyQueue k f).books = b.books :=
  b.books_modifyLane_of_shelf k fun lane => by simp only [Lane.shelf, same lane.queue]

@[simp] theorem books_modifyClient (b : Broker) (c : Nat) (f : Peer.Client → Peer.Client) :
    (b.modifyClient c f).books = b.books := rfl

@[simp] theorem books_withSessions (b : Broker) (sessions : Table String Peer.Session) :
    Broker.books { b with sessions } = b.books := rfl

@[simp] theorem books_setAlarm (b : Broker) (due : Nat) (sleeper : Sleeper) :
    (b.setAlarm due sleeper).books = b.books := rfl

@[simp] theorem books_dropAlarm (b : Broker) (sleeper : Sleeper) :
    (b.dropAlarm sleeper).books = b.books := rfl

theorem books_announce (b : Broker) (e : Event) :
    (b.announce e).books = { b.books with events := e :: b.books.events } := rfl

theorem books_later (b : Broker) (t : Task) :
    (b.later t).books =
      { b.books with
        sends := b.books.sends ++ t.delivery?.toList
        concludes := b.books.concludes ++ t.ticket?.toList
        resumes := b.books.resumes ++ t.publication?.toList } := by
  cases t <;> simp [books, later, Task.delivery?, Task.ticket?, Task.publication?]

@[simp] theorem books_later_work (b : Broker) (k : Nat) :
    (b.later (.work k)).books = b.books := by
  simp [books_later, Task.delivery?, Task.ticket?, Task.publication?]

@[simp] theorem books_next_work (b : Broker) (k : Nat) :
    (b.next (.work k)).books = b.books := rfl

@[simp] theorem books_rouse (b : Broker) (k : Nat) : (b.rouse k).books = b.books := by
  unfold rouse
  split
  · split
    · rw [books_later_work, books_dropAlarm]
      exact b.books_modifyLane_of_shelf k fun _ => rfl
    · rfl
  · rfl

@[simp] theorem books_openGate (b : Broker) (k : Nat) : (b.openGate k).books = b.books := by
  rw [openGate, books_rouse]
  exact b.books_modifyQueue_of_shelf k fun _ => ⟨rfl, rfl⟩

@[simp] theorem books_write (b : Broker) (c : Nat) (frame : Wire.Frame) :
    (b.write c frame).2.books = b.books := by
  unfold write
  cases b.clients[c]? with
  | none => rfl
  | some client =>
      dsimp only
      cases (client.sendFrame frame).1 <;> rfl

@[simp] theorem books_setStage (b : Broker) (k : Nat) (stage : WorkerStage) :
    (b.setStage k stage).books = b.books :=
  b.books_modifyLane_of_shelf k fun _ => rfl

@[simp] theorem books_stepAside (b : Broker) (k : Nat) : (b.stepAside k).books = b.books := by
  apply books_modifyQueue_of_shelf
  intro q
  cases q.gate.waiter <;> exact ⟨rfl, rfl⟩

@[simp] theorem books_await (b : Broker) (k : Nat) (until? : Option Nat) :
    (b.await k until?).books = b.books := by
  unfold await
  split
  · rfl
  · rename_i lane found
    have arrived := b.books_modifyQueue_of_shelf k
      (f := fun queue => { queue with gate := (lane.queue.gate.arrive ()).2 }) fun _ => ⟨rfl, rfl⟩
    dsimp only
    split
    · rw [books_next_work, arrived]
    · rw [books_setStage, arrived]
    · split
      · rw [books_setAlarm, books_setStage, arrived]
      · rw [books_setStage, arrived]

@[simp] theorem books_arm (b : Broker) (ticket : Nat) : (b.arm ticket).books = b.books := by
  unfold arm
  split <;> rfl

/-! ## The steps of a worker and of a send -/

/-- A worker closes its gate and tries to deliver. -/
def attempt (b : Broker) (k : Nat) : Progress × Broker :=
  ((b.stepAside k).modifyQueue k fun queue => { queue with gate := queue.gate.block }).offer k

theorem work_of_none {b : Broker} {k : Nat} (nobody : (b.stepAside k).lanes[k]? = none) :
    b.work k = b.stepAside k := by
  simp only [work, nobody]

theorem work_of_closed {b : Broker} {k : Nat} {lane : Lane} (found : (b.stepAside k).lanes[k]? = some lane)
    (closed : lane.queue.isClosed = true) : b.work k = (b.stepAside k).setStage k .stopped := by
  simp only [work, found, closed, if_true]

/-- A worker whose queue is open goes on after its attempt as that went. -/
theorem work_of_open {b : Broker} {k : Nat} {lane : Lane} (found : (b.stepAside k).lanes[k]? = some lane)
    (opened : lane.queue.isClosed = false) :
    b.work k = match b.attempt k with
      | (.delivered, b') =>
        (b'.modifyLane k fun lane => { lane with backoff := lane.backoff.reset }).next (.work k)
      | (.idle, b') => b'.await k none
      | (.saturated, b') =>
        (b'.modifyLane k fun l => { l with backoff := lane.backoff.next.2 }).await k
          (some (b'.now + lane.backoff.next.1.ceilMillis)) := by
  cases tried : b.attempt k with
  | mk progress b' =>
      rw [attempt] at tried
      cases progress <;> simp only [work, found, opened, tried, Bool.false_eq_true, if_false]

/-- A send takes the place of one under the same id, and is tracked before it is written. -/
theorem send_eq (b : Broker) (d : Delivery) :
    b.send d =
      (((b.resolve d.id (some .cancelled)).2.launch d).2).dispatch d
        ((b.resolve d.id (some .cancelled)).2.launch d).1 := rfl

theorem books_launch (b : Broker) (d : Delivery) :
    (b.launch d).2.books =
      { b.books with
        flights := b.flights.insert (b.launch d).1 d
        ledger := (b.ledger.setUp d.id true).2
        concludes := b.books.concludes } := by
  simp only [launch, books_modifyClient, books_later, Task.delivery?, Task.ticket?,
    Task.publication?, Option.toList_none, List.append_nil]
  rfl

@[simp] theorem books_strike (b : Broker) (id name : String) :
    (b.strike id name).books = b.books := by
  unfold strike
  split
  · rfl
  · exact b.books_modifyQueue_of_shelf _ fun _ => ⟨rfl, rfl⟩

@[simp] theorem books_reply (b : Broker) (c : Nat) (id : CorrelationId)
    (result : Except RequestError Unit) : (b.reply c id result).books = b.books := by
  cases result <;> exact books_write ..

@[simp] theorem books_subscribe (b : Broker) (id name : String) (ceiling : Option Nat) :
    (b.subscribe id name ceiling).2.books = b.books := by
  unfold subscribe
  cases b.sessions.get? id with
  | none => rfl
  | some session =>
      cases b.lane? name with
      | none => rfl
      | some entry =>
          obtain ⟨k, lane⟩ := entry
          have capped : ∀ b' : Broker, b'.books = b.books → ∀ roster : Queue.Roster,
              (b'.modifyQueue k fun queue => { queue with roster }).books = b.books := by
            intro b' same roster
            rw [← same]
            exact b'.books_modifyQueue_of_shelf k fun _ => ⟨rfl, rfl⟩
          dsimp only
          cases lane.queue.roster.add? ⟨session.client, id⟩ with
          | none => cases ceiling <;> rfl
          | some roster =>
              simp only [books_openGate]
              cases ceiling with
              | none => exact capped b rfl roster
              | some n => exact capped (b.modifyClient _ _) rfl roster

@[simp] theorem books_unsubscribe (b : Broker) (id name : String) :
    (b.unsubscribe id name).2.books = b.books := by
  unfold unsubscribe
  split
  · rfl
  · split
    · rfl
    · rw [books_strike]
      rfl

@[simp] theorem books_call (b : Broker) (sleeper : Sleeper) : (b.call sleeper).books = b.books := by
  cases sleeper with
  | worker k => rw [call, books_later_work, books_setStage]
  | limit ticket => simp [call, books_later, Task.delivery?, Task.ticket?, Task.publication?]

@[simp] theorem books_ring (b : Broker) : b.ring.books = b.books := by
  have called : ∀ (alarms : List Alarm) (b : Broker),
      (alarms.foldl (fun b a => b.call a.sleeper) b).books = b.books := by
    intro alarms
    induction alarms with
    | nil => exact fun _ => rfl
    | cons alarm alarms ih => exact fun b => (ih _).trans (b.books_call alarm.sleeper)
  exact called _ _

/-! ## What changes the books -/

end Broker

/-- Whether a queue takes messages. -/
def Books.isOpen (s : Books) (k : Nat) : Bool :=
  s.shelves[k]?.any fun shelf => !shelf.isClosed

namespace Shelf

/-- A shelf with an id at the back. -/
def append (id : CorrelationId) (shelf : Shelf) : Shelf :=
  { shelf with pending := shelf.pending ++ [id] }

/-- A shelf with an id at the head. -/
def prepend (id : CorrelationId) (shelf : Shelf) : Shelf :=
  { shelf with pending := id :: shelf.pending }

/-- A shelf without the id at its head. -/
def behead (shelf : Shelf) : Shelf :=
  { shelf with pending := shelf.pending.tail }

/-- A shelf that is closed. -/
def close (shelf : Shelf) : Shelf :=
  { shelf with isClosed := true }

/-- A shelf that is closed and empty. -/
def abolish (_ : Shelf) : Shelf := ⟨true, []⟩

end Shelf

namespace Broker

theorem isOpen_of_lane {b : Broker} {k : Nat} {lane : Lane} (found : b.lanes[k]? = some lane) :
    b.books.isOpen k = !lane.queue.isClosed := by
  simp [Books.isOpen, books, found, Lane.shelf]

theorem isOpen_of_none {b : Broker} {k : Nat} (missing : b.lanes[k]? = none) :
    b.books.isOpen k = false := by
  simp [Books.isOpen, books, missing]

/-- A queue that was asked to take an id: it does so if it is open, and then its worker learns of
it. -/
theorem books_take {b : Broker} {k : Nat} {lane : Lane} (found : b.lanes[k]? = some lane)
    {a : Bool × Queue} {g : Shelf → Shelf}
    (refuses : lane.queue.isClosed = true → a = (false, lane.queue))
    (takes : lane.queue.isClosed = false →
      a.1 = true ∧ (⟨a.2.isClosed, a.2.pending⟩ : Shelf) = g lane.shelf) :
    a.1 = b.books.isOpen k ∧
      ((b.modifyQueue k fun _ => a.2).rouse k).books =
        if b.books.isOpen k then { b.books with shelves := b.books.shelves.modify k g }
        else b.books := by
  rw [isOpen_of_lane found, books_rouse]
  cases closed : lane.queue.isClosed with
  | true =>
      rw [refuses closed]
      refine ⟨rfl, ?_⟩
      rw [b.books_modifyQueue k (g := id), List.modify_id]
      · rfl
      · intro lane' found'
        rw [Option.some.inj (found'.symm.trans found)]
        rfl
  | false =>
      obtain ⟨taken, shelf⟩ := takes closed
      refine ⟨taken, ?_⟩
      apply b.books_modifyQueue k
      intro lane' found'
      rw [Option.some.inj (found'.symm.trans found)]
      exact shelf

/-- A queue that is open takes an id at the back. -/
theorem books_enqueue (b : Broker) (k : Nat) (m : CorrelationId) :
    (b.enqueue k m).1 = b.books.isOpen k ∧
      (b.enqueue k m).2.books =
        if b.books.isOpen k then
          { b.books with shelves := b.books.shelves.modify k (Shelf.append m) }
        else b.books := by
  unfold enqueue
  cases found : b.lanes[k]? with
  | none => simp [isOpen_of_none found]
  | some lane =>
      apply books_take found
      · intro closed
        rw [Queue.enqueue, if_pos closed]
      · intro opened
        rw [Queue.enqueue, if_neg (by simp [opened])]
        exact ⟨rfl, rfl⟩

/-- A queue that is open takes an id back at its head; a closed one gives the reference up. -/
theorem requeue_eq (b : Broker) (k : Nat) (m : CorrelationId) :
    ∃ b' : Broker,
      b'.books =
        (if b.books.isOpen k then
          { b.books with shelves := b.books.shelves.modify k (Shelf.prepend m) }
        else b.books) ∧
      b.requeue k m = if b.books.isOpen k then b' else b'.release m := by
  unfold requeue
  cases found : b.lanes[k]? with
  | none => exact ⟨b, by simp [isOpen_of_none found]⟩
  | some lane =>
      obtain ⟨taken, books⟩ := books_take found (a := lane.queue.requeue m)
        (g := Shelf.prepend m)
        (fun closed => by rw [Queue.requeue, if_pos closed])
        (fun opened => by
          rw [Queue.requeue, if_neg (by simp [opened])]
          exact ⟨rfl, rfl⟩)
      refine ⟨_, books, ?_⟩
      simp only [taken]

theorem books_closeLane (b : Broker) (k : Nat) : (b.closeLane k).books =
    { b.books with shelves := b.books.shelves.modify k Shelf.close } := by
  rw [closeLane, books_rouse]
  exact b.books_modifyQueue k fun _ _ => rfl

/-- A queue that is closed and emptied. -/
theorem books_abolish (b : Broker) (k : Nat) :
    ((b.closeLane k).modifyQueue k fun queue =>
      { queue with roster := queue.roster.clear, pending := [] }).books =
      { b.books with shelves := b.books.shelves.modify k Shelf.abolish } := by
  rw [books_modifyQueue _ k (g := fun shelf => ⟨shelf.isClosed, []⟩) fun _ _ => rfl,
    b.books_closeLane k]
  simp only [List.modify_modify_eq]
  rfl

end Broker

end MessageBroker
