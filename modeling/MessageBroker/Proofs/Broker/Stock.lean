import Mathlib.Algebra.Order.BigOperators.Group.List
import Mathlib.Algebra.Order.Group.Nat
import MessageBroker.Proofs.Broker.Deliveries

/-!
# The stock of a broker

Whatever a broker has to do some time is a good that it has in stock: a message that waits in a
declared queue, a task in the line, an alarm, a delivery on its way, a send that is tracked. So are
the declared queues and the delays of their workers, the clock, and the frames that were written. A
good may have any price. An operation adds to what the stock is worth no more than the prices of the
goods that it makes, and what it uses up it takes away. Since this holds at all prices, it says
which goods can be in stock as well as how many.
-/

namespace MessageBroker

/-- Something that a broker has in stock. -/
inductive Good where
  /-- The clock. -/
  | hour (now : Nat)
  /-- A declared queue. -/
  | board (pattern : Pattern)
  /-- The delays of a worker. -/
  | loop (backoff : Time.Backoff)
  /-- A message in a declared queue. -/
  | waiting
  | work
  | send
  | arm (ticket : Nat)
  | expire (ticket : Nat)
  | conclude (ticket : Nat)
  | publish (route : String)
  /-- A publication that goes on, for so many queues. -/
  | resume (queues : Nat)
  | alarm (due : Nat) (sleeper : Sleeper)
  /-- A delivery on its way. -/
  | flight (ticket : Nat)
  /-- A send that waits for its outcome. -/
  | tracked (ticket : Nat)
  /-- A frame that was written. -/
  | written

/-- What a task is in stock. -/
def Task.good : Task → Good
  | work _ => .work
  | send _ => .send
  | arm ticket => .arm ticket
  | expire ticket => .expire ticket
  | conclude ticket => .conclude ticket
  | publish _ m => .publish m.route
  | resume p => .resume p.lanes.length

/-- What a lane has in stock. -/
def Lane.goods (lane : Lane) : List Good :=
  .loop lane.backoff ::
    if lane.queue.isClosed then []
    else .board lane.queue.pattern :: lane.queue.pending.map fun _ => .waiting

/-- What an alarm is in stock. -/
def Alarm.good (a : Alarm) : Good :=
  .alarm a.due a.sleeper

/-- What an alarm leads to. -/
def Sleeper.good : Sleeper → Good
  | worker _ => .work
  | limit ticket => .expire ticket

/-- What a tracked send is in stock. -/
def Tracked.good (t : Tracked) : Good :=
  .tracked t.ticket

/-- What a record is in stock. -/
def Record.good? : Record → Option Good
  | wrote .. => some .written
  | announced _ | refused .. => none

/-- What goods cost at given prices. -/
def cost (price : Good → Nat) (goods : List Good) : Nat :=
  (goods.map price).sum

variable {price : Good → Nat}

@[simp] theorem cost_nil : cost price [] = 0 := rfl

@[simp] theorem cost_cons (g : Good) (goods : List Good) :
    cost price (g :: goods) = price g + cost price goods := by
  simp [cost]

@[simp] theorem cost_append (goods more : List Good) :
    cost price (goods ++ more) = cost price goods + cost price more := by
  simp [cost]

theorem cost_le_of_sublist {goods more : List Good} (part : goods.Sublist more) :
    cost price goods ≤ cost price more :=
  (part.map price).sum_le_sum fun _ _ => Nat.zero_le _

theorem price_le_cost {g : Good} {goods : List Good} (listed : g ∈ goods) :
    price g ≤ cost price goods := by
  obtain ⟨before, since, rfl⟩ := List.append_of_mem listed
  simp only [cost_append, cost_cons]
  omega

theorem cost_eq_zero {goods : List Good} (free : ∀ g ∈ goods, price g = 0) :
    cost price goods = 0 := by
  induction goods with
  | nil => rfl
  | cons g goods ih =>
      rw [cost_cons, free g List.mem_cons_self,
        ih fun g' listed => free g' (List.mem_cons_of_mem g listed)]

theorem cost_map_eq_zero {α : Type} {f : α → Good} (free : ∀ a, price (f a) = 0) (as : List α) :
    cost price (as.map f) = 0 := by
  refine cost_eq_zero fun g listed => ?_
  obtain ⟨a, -, rfl⟩ := List.mem_map.1 listed
  exact free a

@[simp] theorem cost_waiting (ids : List CorrelationId) :
    cost price (ids.map fun _ => Good.waiting) = ids.length * price .waiting := by
  induction ids with
  | nil => simp
  | cons id ids ih =>
      rw [List.map_cons, cost_cons, ih, List.length_cons, Nat.succ_mul, Nat.add_comm]

theorem cost_filter_ne {tickets : List Nat} {ticket : Nat} (listed : ticket ∈ tickets) :
    cost price ((tickets.filter (· ≠ ticket)).map Good.flight) + price (.flight ticket) ≤
      cost price (tickets.map Good.flight) := by
  obtain ⟨before, since, rfl⟩ := List.append_of_mem listed
  have fewer : ∀ part : List Nat, cost price ((part.filter (· ≠ ticket)).map Good.flight) ≤
      cost price (part.map Good.flight) := fun _ => cost_le_of_sublist (List.filter_sublist.map _)
  have first := fewer before
  have last := fewer since
  simp only [List.filter_append, List.map_append, cost_append, List.map_cons, cost_cons]
    at first last ⊢
  rw [List.filter_cons_of_neg (by simp)]
  omega

/-- What becomes of the goods of a lane becomes of those of all lanes. -/
theorem cost_modify {lanes : List Lane} {k : Nat} {lane : Lane} (found : lanes[k]? = some lane)
    (f : Lane → Lane) :
    cost price ((lanes.modify k f).flatMap Lane.goods) + cost price lane.goods =
      cost price (lanes.flatMap Lane.goods) + cost price (f lane).goods := by
  induction lanes generalizing k with
  | nil => cases found
  | cons first lanes ih =>
      cases k with
      | zero =>
          cases found
          simp only [List.modify_zero_cons, List.flatMap_cons, cost_append]
          omega
      | succ k =>
          have later := ih found
          simp only [List.modify_succ_cons, List.flatMap_cons, cost_append]
          omega

namespace Ledger

theorem pending_resolve (l : Ledger) (id : CorrelationId) (outcome : Outcome) :
    (l.resolve id outcome).2.pending.Sublist l.pending := by
  unfold resolve
  split
  · exact List.filter_sublist
  · exact .refl _

theorem pending_expire (l : Ledger) (ticket : Nat) :
    (l.expire ticket).pending.Sublist l.pending := by
  unfold expire
  split
  · exact List.filter_sublist
  · exact .refl _

theorem pending_written (l : Ledger) (id : CorrelationId) :
    (l.written id).2.pending.Sublist l.pending := by
  unfold written
  split
  · split
    · exact .refl _
    · exact List.filter_sublist
  · exact .refl _

end Ledger

namespace Broker

/-- What a broker has in stock. -/
def stock (b : Broker) : List Good :=
  .hour b.now :: (b.lanes.flatMap Lane.goods ++ b.tasks.map Task.good ++ b.alarms.map Alarm.good ++
    b.flights.keys.map Good.flight ++ b.ledger.pending.map Tracked.good ++
    b.log.filterMap Record.good?)

theorem mem_stock {b : Broker} {g : Good} : g ∈ b.stock ↔ g = .hour b.now ∨
    (∃ lane ∈ b.lanes, g ∈ lane.goods) ∨ (∃ t ∈ b.tasks, t.good = g) ∨
    (∃ a ∈ b.alarms, a.good = g) ∨ (∃ n ∈ b.flights.keys, .flight n = g) ∨
    (∃ p ∈ b.ledger.pending, p.good = g) ∨ ∃ r ∈ b.log, r.good? = some g := by
  simp only [stock, List.mem_cons, List.mem_append, List.mem_flatMap, List.mem_map,
    List.mem_filterMap, or_assoc]

theorem loop_mem_stock {b : Broker} {k : Nat} {lane : Lane} (found : b.lanes[k]? = some lane) :
    .loop lane.backoff ∈ b.stock :=
  mem_stock.2 (.inr (.inl ⟨lane, List.mem_of_getElem? found, List.mem_cons_self⟩))

theorem head_mem_stock {b : Broker} {task : Task} {rest : List Task}
    (line : b.tasks = task :: rest) : task.good ∈ b.stock :=
  mem_stock.2 (.inr (.inr (.inl ⟨task, line ▸ List.mem_cons_self, rfl⟩)))

theorem alarm_mem_stock {b : Broker} {a : Alarm} (listed : a ∈ b.alarms) : a.good ∈ b.stock :=
  mem_stock.2 (.inr (.inr (.inr (.inl ⟨a, listed, rfl⟩))))

theorem tracked_mem_stock {b : Broker} {p : Tracked} (waits : p ∈ b.ledger.pending) :
    p.good ∈ b.stock :=
  mem_stock.2 (.inr (.inr (.inr (.inr (.inr (.inl ⟨p, waits, rfl⟩))))))

/-- There is one clock. -/
theorem hour_mem_stock {b : Broker} {now : Nat} : .hour now ∈ b.stock ↔ now = b.now := by
  constructor
  · intro listed
    rcases mem_stock.1 listed with same | ⟨lane, -, here⟩ | ⟨t, -, same⟩ | ⟨a, -, same⟩ |
      ⟨n, -, same⟩ | ⟨p, -, same⟩ | ⟨r, -, same⟩
    · exact Good.hour.inj same
    · unfold Lane.goods at here
      split at here <;> simp at here
    · cases t <;> cases same
    · cases same
    · cases same
    · cases same
    · cases r <;> cases same
  · rintro rfl
    exact mem_stock.2 (.inl rfl)

/-- What the stock of a broker is worth at given prices. -/
def worth (price : Good → Nat) (b : Broker) : Nat :=
  cost price b.stock

theorem worth_eq (price : Good → Nat) (b : Broker) :
    b.worth price = price (.hour b.now) + (cost price (b.lanes.flatMap Lane.goods) +
      cost price (b.tasks.map Task.good) + cost price (b.alarms.map Alarm.good) +
      cost price (b.flights.keys.map Good.flight) + cost price (b.ledger.pending.map Tracked.good) +
      cost price (b.log.filterMap Record.good?)) := by
  simp only [worth, stock, cost_cons, cost_append]

variable (price : Good → Nat) (b : Broker)

/-! ## Lanes, tasks and alarms -/

theorem worth_modifyLane {k : Nat} {lane : Lane} (found : b.lanes[k]? = some lane)
    (f : Lane → Lane) :
    (b.modifyLane k f).worth price + cost price lane.goods =
      b.worth price + cost price (f lane).goods := by
  have lanes : cost price ((b.lanes.modify k f).flatMap Lane.goods) + _ = _ := cost_modify found f
  simp only [worth_eq, modifyLane]
  omega

theorem worth_modifyLane_of_none {k : Nat} (nobody : b.lanes[k]? = none) (f : Lane → Lane) :
    (b.modifyLane k f).worth price = b.worth price := by
  have beyond : b.lanes.length ≤ k := List.getElem?_eq_none_iff.1 nobody
  have lanes : b.lanes.modify k f = b.lanes := by
    rw [List.modify_eq_self]
    exact beyond
  rw [modifyLane, lanes]

/-- A change of a lane that leaves its goods alone. -/
theorem worth_modifyLane_of_goods (k : Nat) {f : Lane → Lane}
    (same : ∀ lane, (f lane).goods = lane.goods) :
    (b.modifyLane k f).worth price = b.worth price := by
  cases found : b.lanes[k]? with
  | none => exact b.worth_modifyLane_of_none price found f
  | some lane =>
      have moved := b.worth_modifyLane price found f
      rw [same] at moved
      exact Nat.add_right_cancel moved

/-- A change of a queue that leaves its pattern and what waits in it alone. -/
theorem worth_modifyQueue_of_goods (k : Nat) {f : Queue → Queue}
    (same : ∀ q, (f q).isClosed = q.isClosed ∧ (f q).pattern = q.pattern ∧
      (f q).pending = q.pending) : (b.modifyQueue k f).worth price = b.worth price := by
  apply b.worth_modifyLane_of_goods price k
  intro lane
  obtain ⟨closed, pattern, pending⟩ := same lane.queue
  simp only [Lane.goods, closed, pattern, pending]

@[simp] theorem worth_modifyClient (c : Nat) (f : Peer.Client → Peer.Client) :
    (b.modifyClient c f).worth price = b.worth price := rfl

@[simp] theorem worth_announce (e : Event) : (b.announce e).worth price = b.worth price := rfl

@[simp] theorem worth_later (t : Task) :
    (b.later t).worth price = b.worth price + price t.good := by
  simp only [worth_eq, later, List.map_append, List.map_singleton, cost_append, cost_cons, cost_nil]
  omega

@[simp] theorem worth_next (t : Task) : (b.next t).worth price = b.worth price + price t.good := by
  simp only [worth_eq, next, List.map_cons, cost_cons]
  omega

@[simp] theorem worth_setAlarm (due : Nat) (sleeper : Sleeper) :
    (b.setAlarm due sleeper).worth price = b.worth price + price (.alarm due sleeper) := by
  simp only [worth_eq, setAlarm, List.map_append, List.map_singleton, Alarm.good, cost_append,
    cost_cons, cost_nil]
  omega

theorem worth_dropAlarm (sleeper : Sleeper) :
    (b.dropAlarm sleeper).worth price ≤ b.worth price := by
  have fewer : cost price ((b.dropAlarm sleeper).alarms.map Alarm.good) ≤
      cost price (b.alarms.map Alarm.good) := cost_le_of_sublist (List.filter_sublist.map _)
  simp only [worth_eq, dropAlarm] at fewer ⊢
  omega

/-- A task that comes out of the line. -/
theorem worth_pop {task : Task} {rest : List Task} (line : b.tasks = task :: rest) :
    b.worth price = worth price { b with tasks := rest } + price task.good := by
  simp only [worth_eq, line, List.map_cons, cost_cons]
  omega

theorem worth_rouse (k : Nat) : (b.rouse k).worth price ≤ b.worth price + price .work := by
  unfold rouse
  split
  · split
    · have called := worth_dropAlarm price (b.modifyLane k fun lane => { lane with stage := .due })
        (.worker k)
      have stays := b.worth_modifyLane_of_goods price k
        (f := fun lane => { lane with stage := .due }) fun _ => rfl
      rw [stays] at called
      rw [worth_later]
      exact Nat.add_le_add_right called _
    · exact Nat.le_add_right _ _
  · exact Nat.le_add_right _ _

theorem worth_openGate (k : Nat) : (b.openGate k).worth price ≤ b.worth price + price .work := by
  have called := worth_rouse price (b.modifyQueue k Queue.openGate) k
  have stays := b.worth_modifyQueue_of_goods price k (f := Queue.openGate) fun _ => ⟨rfl, rfl, rfl⟩
  rwa [stays] at called

@[simp] theorem worth_setStage (k : Nat) (stage : WorkerStage) :
    (b.setStage k stage).worth price = b.worth price :=
  b.worth_modifyLane_of_goods price k fun _ => rfl

@[simp] theorem worth_stepAside (k : Nat) : (b.stepAside k).worth price = b.worth price := by
  apply b.worth_modifyQueue_of_goods price k
  intro q
  cases q.gate.waiter <;> exact ⟨rfl, rfl, rfl⟩

/-! ## Messages -/

@[simp] theorem worth_release (m : CorrelationId) : (b.release m).worth price = b.worth price := by
  unfold release
  dsimp only
  split
  · split <;> rfl
  · rfl

@[simp] theorem worth_releaseEach (ids : List CorrelationId) :
    (ids.foldl release b).worth price = b.worth price := by
  induction ids generalizing b with
  | nil => rfl
  | cons m ids ih => rw [List.foldl_cons, ih, worth_release]

/-- A queue that takes a message, or does not, and its worker, who may be called. -/
theorem worth_take {k : Nat} {lane : Lane} (found : b.lanes[k]? = some lane) {q : Queue}
    (takes : q = lane.queue ∨ lane.queue.isClosed = false ∧ q.isClosed = false ∧
      q.pattern = lane.queue.pattern ∧ q.pending.length = lane.queue.pending.length + 1) :
    ((b.modifyQueue k fun _ => q).rouse k).worth price ≤
      b.worth price + price .waiting + price .work := by
  have roused := worth_rouse price (b.modifyQueue k fun _ => q) k
  have moved := b.worth_modifyLane price found fun lane => { lane with queue := q }
  have placed : cost price ({ lane with queue := q } : Lane).goods ≤
      cost price lane.goods + price .waiting := by
    rcases takes with rfl | ⟨opened, opened', pattern, longer⟩
    · exact Nat.le_add_right _ _
    · simp only [Lane.goods, opened, opened', pattern, Bool.false_eq_true, if_false, cost_cons,
        cost_waiting, longer, Nat.succ_mul]
      omega
  rw [modifyQueue] at roused ⊢
  omega

theorem worth_enqueue (k : Nat) (m : CorrelationId) :
    (b.enqueue k m).2.worth price ≤ b.worth price + price .waiting + price .work := by
  unfold enqueue
  cases found : b.lanes[k]? with
  | none => exact Nat.le_trans (Nat.le_add_right _ _) (Nat.le_add_right _ _)
  | some lane =>
      refine b.worth_take price found ?_
      cases closed : lane.queue.isClosed with
      | true => exact .inl (by simp [Queue.enqueue, closed])
      | false => exact .inr (by simp [Queue.enqueue, Queue.openGate, closed])

theorem worth_requeue (k : Nat) (m : CorrelationId) :
    (b.requeue k m).worth price ≤ b.worth price + price .waiting + price .work := by
  unfold requeue
  cases found : b.lanes[k]? with
  | none =>
      simp only [worth_release]
      omega
  | some lane =>
      have taken := b.worth_take price (q := (lane.queue.requeue m).2) found (by
        cases closed : lane.queue.isClosed with
        | true => exact .inl (by simp [Queue.requeue, closed])
        | false => exact .inr (by simp [Queue.requeue, Queue.openGate, closed]))
      dsimp only
      split
      · exact taken
      · rwa [worth_release]

theorem worth_fanOut (m : CorrelationId) (lanes : List Nat) :
    (b.fanOut m lanes).2.worth price ≤
      b.worth price + lanes.length * (price .waiting + price .work) := by
  have each : ∀ (lanes : List Nat) (count : Nat) (b : Broker),
      (lanes.foldl (fanOutTo m) (count, b)).2.worth price ≤
        b.worth price + lanes.length * (price .waiting + price .work) := by
    intro lanes
    induction lanes with
    | nil => exact fun _ _ => Nat.le_add_right _ _
    | cons k lanes ih =>
        intro count b
        have taken := b.worth_enqueue price k m
        rw [List.foldl_cons, fanOutTo, List.length_cons, Nat.succ_mul]
        dsimp only
        split
        · have later := ih (count + 1) (b.enqueue k m).2
          omega
        · have later := ih count ((b.enqueue k m).2.release m)
          rw [worth_release] at later
          omega
  exact each lanes 0 { b with references := b.references.setUp m lanes.length }

theorem worth_bring (m : Store.Message) (lanes : List Nat) :
    (b.bring m lanes).2.worth price ≤
      b.worth price + lanes.length * (price .waiting + price .work) := by
  unfold bring
  split
  · exact Nat.le_add_right _ _
  · rename_i depot _
    have spread := worth_fanOut price { b with depot } m.id lanes
    dsimp only
    split <;> exact spread

theorem worth_publish (m : Store.Message) :
    (b.publish m).2.worth price ≤
      b.worth price + (b.matching m.route).length * (price .waiting + price .work) := by
  unfold publish
  split
  · exact Nat.le_add_right _ _
  · exact b.worth_bring price m _

theorem worth_beginPublish (tag : String) (m : Store.Message) :
    (b.beginPublish tag m).worth price ≤
      b.worth price + (b.matching m.route).length * (price .waiting + price .work) := by
  unfold beginPublish
  split
  · exact Nat.le_add_right _ _
  · split
    · exact Nat.le_add_right _ _
    · exact b.worth_bring price m _

theorem worth_resumePublish (p : Publication) :
    (b.resumePublish p).worth price ≤
      b.worth price + p.lanes.length * (price .waiting + price .work) :=
  b.worth_bring price p.message p.lanes

/-! ## Deliveries -/

/-- Sends that are tracked no longer leave the stock. -/
theorem worth_withLedger (ledger : Ledger) (fewer : ledger.pending.Sublist b.ledger.pending) :
    worth price { b with ledger } ≤ b.worth price := by
  have settled : cost price (ledger.pending.map Tracked.good) ≤
      cost price (b.ledger.pending.map Tracked.good) := cost_le_of_sublist (fewer.map _)
  simp only [worth_eq]
  omega

theorem worth_resolve (id : CorrelationId) (outcome : Outcome) :
    (b.resolve id outcome).2.worth price ≤
      b.worth price + cost price ((b.ledger.ticketsOf id).map Good.conclude) := by
  unfold resolve Ledger.ticketsOf
  cases b.ledger.find? id with
  | none => exact Nat.le_add_right _ _
  | some t =>
      have dropped := worth_dropAlarm price { b with ledger := b.ledger.settle t outcome }
        (.limit t.ticket)
      have settled := b.worth_withLedger price (b.ledger.settle t outcome) List.filter_sublist
      dsimp only
      rw [worth_later]
      simp only [Task.good, Option.toList_some, List.map_cons, List.map_nil, cost_cons, cost_nil]
      omega

theorem worth_write (c : Nat) (frame : Wire.Frame) :
    ((b.write c frame).1 = none →
        (b.write c frame).2.worth price = b.worth price + price .written) ∧
      ((b.write c frame).1 ≠ none → (b.write c frame).2.worth price = b.worth price) := by
  unfold write
  cases b.clients[c]? with
  | none => exact ⟨fun h => absurd h (Option.some_ne_none _), fun _ => rfl⟩
  | some client =>
      dsimp only
      cases (client.sendFrame frame).1 with
      | ok bytes =>
          refine ⟨fun _ => ?_, fun refused => absurd rfl refused⟩
          simp only [worth_eq, note, List.filterMap_cons, Record.good?, cost_cons]
          omega
      | error e => exact ⟨fun h => absurd h (Option.some_ne_none _), fun _ => rfl⟩

theorem worth_follow (d : Delivery) (outcome : Outcome) :
    (b.follow d outcome).worth price ≤ b.worth price + price .waiting + price .work := by
  unfold follow
  split
  · simp only [worth_release, worth_announce]
    omega
  · simp only [worth_release, worth_announce]
    omega
  · rename_i failure _
    dsimp only
    split
    · rw [worth_announce]
      omega
    · exact worth_requeue price (b.announce _) d.lane d.message

/-- A delivery that is over leaves the stock and may put its message back. -/
theorem worth_conclude (ticket : Nat) : b.conclude ticket = b ∨ ∀ price,
    (b.conclude ticket).worth price + price (.flight ticket) ≤
      b.worth price + price .waiting + price .work + price .work := by
  unfold conclude
  cases flown : b.flights.get? ticket with
  | none => exact .inl rfl
  | some d =>
      obtain ⟨pending, -⟩ := Ledger.collect_snd b.ledger ticket
      cases collected : b.ledger.collect ticket with
      | mk outcome? ledger =>
        cases outcome? with
        | none => exact .inl rfl
        | some outcome =>
            refine .inr fun price => ?_
            dsimp only
            generalize ended : modifyClient { b with ledger, flights := b.flights.erase ticket }
              d.client (fun client => (client.untrack d.id).2.release) = b'
            have followed := (b'.openGate d.lane).worth_follow price d outcome
            have opened := b'.worth_openGate price d.lane
            have landed : b'.worth price + price (.flight ticket) ≤ b.worth price := by
              have listed : ticket ∈ b.flights.keys := Table.mem_keys.2 ⟨d, flown⟩
              have fewer : cost price ((b.flights.erase ticket).keys.map Good.flight) +
                  price (.flight ticket) ≤ cost price (b.flights.keys.map Good.flight) := by
                rw [Table.keys_erase]
                exact cost_filter_ne listed
              have pending' : ledger.pending = b.ledger.pending := by
                rw [collected] at pending
                exact pending
              rw [← ended, worth_modifyClient]
              simp only [worth_eq, pending']
              omega
            omega

/-- A delivery that is tracked under an id that nothing waits under. -/
theorem worth_launch {d : Delivery} (unused : ∀ q ∈ b.ledger.pending, q.id ≠ d.id) :
    (b.launch d).2.worth price ≤ b.worth price + price (.arm b.ledger.issued) +
      price (.flight b.ledger.issued) + price (.tracked b.ledger.issued) := by
  have ledger : (b.ledger.setUp d.id true).2 = _ :=
    ledger_launch unused
  have ticket : (b.ledger.setUp d.id true).1 = b.ledger.issued :=
    launch_fst unused
  have flights : cost price ((b.flights.insert b.ledger.issued d).keys.map Good.flight) ≤
      cost price (b.flights.keys.map Good.flight) + price (.flight b.ledger.issued) := by
    have kept : cost price ((b.flights.keys.filter (· ≠ b.ledger.issued)).map Good.flight) ≤
        cost price (b.flights.keys.map Good.flight) :=
      cost_le_of_sublist (List.filter_sublist.map _)
    rw [Table.keys_insert, List.map_append, cost_append, List.map_singleton, cost_cons, cost_nil]
    omega
  simp only [launch, ticket, ledger, worth_modifyClient, worth_later, Task.good]
  simp only [worth_eq, List.map_append, List.map_singleton, cost_append, cost_cons, cost_nil,
    Tracked.good, trackedAs] at flights ⊢
  omega

/-- A delivery is written, or it is over and its message may be put back. -/
theorem worth_dispatch (d : Delivery) (ticket : Nat) :
    (∀ price, (b.dispatch d ticket).worth price ≤ b.worth price + price .written) ∨
      ∀ price, (b.dispatch d ticket).worth price ≤
        b.worth price + price .waiting + price .work + price .work := by
  have written := fun price => b.worth_write price d.client d.frame
  unfold dispatch
  split <;> rename_i b' went <;> rw [went] at written
  · refine .inl fun price => ?_
    have spent := b'.worth_withLedger price _ (b'.ledger.pending_written d.id)
    have said : b'.worth price = b.worth price + price .written := (written price).1 rfl
    omega
  · refine .inr fun price => ?_
    have spent := b'.worth_withLedger price (b'.ledger.unwritten d.id).2
      (b'.ledger.pending_resolve d.id (some .sendFailed))
    have said : b'.worth price = b.worth price := (written price).2 nofun
    rcases worth_conclude { b' with ledger := (b'.ledger.unwritten d.id).2 } ticket with
      same | landed
    · rw [same]
      omega
    · have ended := landed price
      omega

end Broker

end MessageBroker
