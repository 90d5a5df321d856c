import MessageBroker.Proofs.Broker.Passages
import MessageBroker.Proofs.Broker.Stock

/-!
# What the tasks make of the stock

A task uses some goods up and makes others, and there are few ways in which it may do so. A worker
that finds a message and a subscriber with a free slot turns the message into a delivery, a delivery
that is refused turns into a message again, and so on. With a store that answers, a worker that has
nothing to deliver leaves the line until its gate opens or its alarm goes off.
-/

namespace MessageBroker

/-- Messages in queues, with the work of their workers. -/
def copies (n : Nat) : List Good :=
  (List.replicate n [Good.waiting, Good.work]).flatten

theorem mem_copies {n : Nat} {g : Good} (listed : g ∈ copies n) : g = .waiting ∨ g = .work := by
  obtain ⟨goods, here, listed⟩ := List.mem_flatten.1 listed
  rw [(List.mem_replicate.1 here).2] at listed
  simpa using listed

@[simp] theorem cost_copies (price : Good → Nat) (n : Nat) :
    cost price (copies n) = n * (price .waiting + price .work) := by
  induction n with
  | zero => simp [copies]
  | succ n ih =>
      rw [copies] at ih
      rw [copies, List.replicate_succ, List.flatten_cons, cost_append, ih]
      simp only [cost_cons, cost_nil, Nat.succ_mul]
      omega

namespace Broker

/-- The ways in which a task of a broker may use up goods and make others. -/
inductive Exchange (b : Broker) : Task → (spent made : List Good) → Prop where
  /-- Nothing comes of it. -/
  | quiet {task : Task} (other : task.delivery? = none) : Exchange b task [] []
  /-- A worker finds nobody with a free slot. -/
  | retry {k : Nat} {lane : Lane} (found : b.lanes[k]? = some lane) :
      Exchange b (.work k) [.loop lane.backoff]
        [.loop lane.backoff.next.2, .alarm (b.now + lane.backoff.next.1.ceilMillis) (.worker k)]
  /-- A worker finds a message that is not stored any more. -/
  | passOver {k : Nat} {lane : Lane} (found : b.lanes[k]? = some lane) :
      Exchange b (.work k) [.loop lane.backoff, .waiting] [.loop lane.backoff.reset, .work]
  /-- A worker has a message delivered. -/
  | deliver {k : Nat} {lane : Lane} (found : b.lanes[k]? = some lane) :
      Exchange b (.work k) [.loop lane.backoff, .waiting] [.loop lane.backoff.reset, .work, .send]
  /-- A delivery is written. -/
  | write (d : Delivery) :
      Exchange b (.send d) []
        [.arm b.ledger.issued, .flight b.ledger.issued,
          .tracked b.ledger.issued, .written]
  /-- A delivery cannot be written. -/
  | refuse (d : Delivery) :
      Exchange b (.send d) []
        [.arm b.ledger.issued, .flight b.ledger.issued,
          .tracked b.ledger.issued, .waiting, .work, .work]
  | arm {p : Tracked} (waits : p ∈ b.ledger.pending) :
      Exchange b (.arm p.ticket) []
        [.alarm (b.now + b.settings.ackTimeoutMs) (.limit p.ticket)]
  | expire (ticket : Nat) : Exchange b (.expire ticket) [] [.conclude ticket]
  | conclude (ticket : Nat) :
      Exchange b (.conclude ticket) [.flight ticket] [.waiting, .work, .work]
  | publish (tag : String) (m : Store.Message) :
      Exchange b (.publish tag m) [] (copies (b.matching m.route).length)
  | resume (p : Publication) : Exchange b (.resume p) [] (copies p.lanes.length)

/-- A broker turns into another with goods that are used up and others that are made. -/
def Trades (b b' : Broker) (spent made : List Good) : Prop :=
  ∀ price, b'.worth price + cost price spent ≤ b.worth price + cost price made

variable {b b' : Broker} {k : Nat} {lane : Lane}

/-! ## Workers -/

theorem lane_modifyLane (found : b.lanes[k]? = some lane) (f : Lane → Lane) :
    (b.modifyLane k f).lanes[k]? = some (f lane) := by
  rw [modifyLane, List.getElem?_modify_eq, found]
  rfl

theorem lane_modifyQueue (found : b.lanes[k]? = some lane) (f : Queue → Queue) :
    (b.modifyQueue k f).lanes[k]? = some { lane with queue := f lane.queue } :=
  lane_modifyLane found _

/-- A worker that steps away from its gate leaves its place there. -/
theorem lane_stepAside (found : b.lanes[k]? = some lane) :
    ∃ gate : Queue.Gate Unit, gate.waiter = none ∧
      (b.stepAside k).lanes[k]? = some { lane with queue := { lane.queue with gate } } := by
  rw [stepAside, lane_modifyQueue found]
  cases place : lane.queue.gate.waiter with
  | none => exact ⟨lane.queue.gate, place, rfl⟩
  | some waiter =>
      refine ⟨if lane.queue.gate.isOpen then (lane.queue.gate.look ()).2 else lane.queue.gate.leave,
        ?_, rfl⟩
      cases up : lane.queue.gate.isOpen <;> simp [Queue.Gate.look, Queue.Gate.leave, up]

/-- A worker that comes to its gate when that is closed and its place is free waits there. -/
theorem worth_await (price : Good → Nat) (found : b.lanes[k]? = some lane)
    (shut : lane.queue.gate.isOpen = false) (place : lane.queue.gate.waiter = none)
    (until? : Option Nat) :
    (b.await k until?).worth price =
      b.worth price + cost price (until?.toList.map fun due => .alarm due (.worker k)) := by
  have stands : ∀ gate : Queue.Gate Unit,
      (b.modifyQueue k fun queue => { queue with gate }).worth price = b.worth price :=
    fun gate => b.worth_modifyQueue_of_goods price k fun _ => ⟨rfl, rfl, rfl⟩
  simp only [await, found, Queue.Gate.arrive, shut, place, Bool.false_eq_true, if_false,
    Option.isSome_none]
  cases until? with
  | none => simp [stands]
  | some due => simp [stands]

/-- A worker that finds nobody with a free slot waits longer the next time. -/
theorem worth_retry (price : Good → Nat) (found : b.lanes[k]? = some lane)
    (shut : lane.queue.gate.isOpen = false) (place : lane.queue.gate.waiter = none)
    (backoff : Time.Backoff) (due : Nat) :
    ((b.modifyLane k fun l => { l with backoff }).await k (some due)).worth price +
        price (.loop lane.backoff) =
      b.worth price + price (.loop backoff) + price (.alarm due (.worker k)) := by
  have slower := b.worth_modifyLane price found fun l => { l with backoff }
  have seat : (b.modifyLane k fun l => { l with backoff }).lanes[k]? =
      some { lane with backoff } := lane_modifyLane found _
  rw [worth_await price seat shut place]
  simp only [Lane.goods, Option.toList_some, List.map_cons, List.map_nil, cost_cons, cost_nil]
    at slower ⊢
  omega

/-- A worker that has dealt with a message goes on. -/
theorem worth_goOn (price : Good → Nat) (found : b.lanes[k]? = some lane) :
    ((b.modifyLane k fun l => { l with backoff := l.backoff.reset }).next (.work k)).worth price +
        price (.loop lane.backoff) =
      b.worth price + price (.loop lane.backoff.reset) + price .work := by
  have rested := b.worth_modifyLane price found fun l => { l with backoff := l.backoff.reset }
  simp only [Lane.goods, worth_next, Task.good, cost_cons] at rested ⊢
  omega

theorem lanes_release (b : Broker) (m : CorrelationId) : (b.release m).lanes = b.lanes := by
  unfold release
  dsimp only
  split
  · split <;> rfl
  · rfl

/-- A message is taken from its queue when the slot of a subscriber is reserved. -/
theorem trades_take (found : b.lanes[k]? = some lane) (opened : lane.queue.isClosed = false)
    {m : CorrelationId} {rest : List CorrelationId} (waiting : lane.queue.pending = m :: rest)
    (roster : Queue.Roster) (c : Nat) :
    Trades b (((b.modifyQueue k fun queue => { queue with roster }).modifyClient c
      Peer.Client.occupy).modifyQueue k fun queue => { queue with pending := rest })
        [.waiting] [] := by
  intro price
  have seated := b.worth_modifyQueue_of_goods price k (f := fun queue => { queue with roster })
    fun _ => ⟨rfl, rfl, rfl⟩
  have seat : ((b.modifyQueue k fun queue => { queue with roster }).modifyClient c
      Peer.Client.occupy).lanes[k]? = some { lane with queue := { lane.queue with roster } } :=
    lane_modifyQueue found fun queue => { queue with roster }
  have popped := worth_modifyLane price _ seat fun l =>
    { l with queue := { l.queue with pending := rest } }
  rw [modifyQueue]
  simp only [Lane.goods, opened, waiting, Bool.false_eq_true, if_false, cost_cons, cost_waiting,
    cost_nil, List.length_cons, Nat.succ_mul, worth_modifyClient] at popped ⊢
  omega

/-- A message that a worker has taken is sent off if it is stored. -/
theorem worth_sendOff (works : ∀ call, b.depot.failuresOf call = 0) (k c : Nat) (m : CorrelationId) :
    ∃ b', b.sendOff k c m = (.delivered, b') ∧ b'.lanes = b.lanes ∧
      ((∀ price, b'.worth price = b.worth price) ∨
        ∀ price, b'.worth price = b.worth price + price .send) := by
  have fetched : b.depot.get? m = (.ok (b.depot.messages.get? m), b.depot) :=
    Store.Depot.get?_of_works works m
  rw [sendOff, fetched]
  cases stored : b.depot.messages.get? m with
  | some message => exact ⟨_, rfl, rfl, .inr fun price => worth_later price _ _⟩
  | none => exact ⟨_, rfl, lanes_release _ m, .inl fun price => worth_release price _ m⟩

/-- What a worker finds: nothing waits, or nobody has a free slot, or a message is taken from the
queue and sent off if it is stored. -/
theorem offer_goods (works : ∀ call, b.depot.failuresOf call = 0) (found : b.lanes[k]? = some lane)
    (opened : lane.queue.isClosed = false) :
    b.offer k = (.idle, b) ∨
      ∃ progress b' lane', b.offer k = (progress, b') ∧ b'.lanes[k]? = some lane' ∧
        lane'.backoff = lane.backoff ∧
        (progress = .saturated ∧ lane'.queue.gate = lane.queue.gate ∧ b'.now = b.now ∧
            (∀ price, b'.worth price = b.worth price) ∨
          progress = .delivered ∧
            (Trades b b' [.waiting] [] ∨ Trades b b' [.waiting] [.send])) := by
  cases waiting : lane.queue.pending with
  | nil => exact .inl (by simp only [offer, found, waiting])
  | cons m rest =>
      right
      generalize seated : lane.queue.roster.select b.hasRoom = selection
      obtain ⟨chosen, roster⟩ := selection
      cases chosen with
      | none =>
          refine ⟨.saturated, _, _, by simp only [offer, found, waiting, seated],
            lane_modifyQueue found fun queue => { queue with roster }, rfl,
            .inl ⟨rfl, rfl, rfl, fun price => ?_⟩⟩
          exact b.worth_modifyQueue_of_goods price k fun _ => ⟨rfl, rfl, rfl⟩
      | some member =>
          have spent := trades_take found opened waiting roster member.client
          have taken := lane_modifyQueue (b := (b.modifyQueue k fun queue =>
            { queue with roster }).modifyClient member.client Peer.Client.occupy)
              (lane_modifyQueue found fun queue => { queue with roster })
                fun queue => { queue with pending := rest }
          obtain ⟨b', went, lanes, worth⟩ := worth_sendOff (b := ((b.modifyQueue k fun queue =>
            { queue with roster }).modifyClient member.client Peer.Client.occupy).modifyQueue k
              fun queue => { queue with pending := rest }) works k member.client m
          refine ⟨.delivered, b', _, by simp only [offer, found, waiting, seated, went],
            (congrArg (·[k]?) lanes).trans taken, rfl, .inr ⟨rfl, ?_⟩⟩
          refine worth.imp (fun same price => ?_) fun more price => ?_
          · rw [same]
            exact spent price
          · have used := spent price
            rw [more]
            simp only [cost_cons, cost_nil] at used ⊢
            omega

/-- A worker closes its gate before it looks what waits. -/
theorem approach_spec (found : b.lanes[k]? = some lane) :
    ∃ (b₁ : Broker) (lane₁ : Lane), b.attempt k = b₁.offer k ∧ b₁.lanes[k]? = some lane₁ ∧
      lane₁.backoff = lane.backoff ∧ lane₁.queue.isClosed = lane.queue.isClosed ∧
      lane₁.queue.gate.isOpen = false ∧ lane₁.queue.gate.waiter = none ∧
      b₁.now = b.now ∧ b₁.depot = b.depot ∧ ∀ price, b₁.worth price = b.worth price := by
  obtain ⟨gate, place, aside⟩ := lane_stepAside found
  refine ⟨(b.stepAside k).modifyQueue k fun queue => { queue with gate := queue.gate.block },
    { lane with queue := { lane.queue with gate := gate.block } }, rfl, ?_, rfl, rfl, rfl, place,
    rfl, rfl, fun price => ?_⟩
  · exact lane_modifyQueue aside _
  · rw [worth_modifyQueue_of_goods price _ k (f := fun queue =>
      { queue with gate := queue.gate.block }) fun _ => ⟨rfl, rfl, rfl⟩, worth_stepAside]

/-- What the work of a worker makes of the stock. -/
theorem exchange_work (works : ∀ call, b.depot.failuresOf call = 0) (k : Nat) :
    ∃ spent made, b.Exchange (.work k) spent made ∧ Trades b (b.work k) spent made := by
  cases found : b.lanes[k]? with
  | none =>
      have nobody : (b.stepAside k).lanes[k]? = none := by
        simp [stepAside, modifyQueue, modifyLane, found]
      refine ⟨[], [], .quiet rfl, fun price => ?_⟩
      rw [work_of_none nobody, worth_stepAside]
  | some lane =>
      obtain ⟨gate, -, aside⟩ := lane_stepAside found
      cases closed : lane.queue.isClosed with
      | true =>
          refine ⟨[], [], .quiet rfl, fun price => ?_⟩
          rw [work_of_closed aside closed, worth_setStage, worth_stepAside]
      | false =>
          obtain ⟨b₁, lane₁, attempted, lanes, backoff, opened, shut, place, now, depot, worth⟩ :=
            approach_spec found
          rw [work_of_open aside closed, attempted]
          rcases offer_goods (depot ▸ works) lanes (opened.trans closed) with
            idle | ⟨progress, b₂, lane₂, went, lanes', backoff', found' | found'⟩
          · refine ⟨[], [], .quiet rfl, fun price => ?_⟩
            rw [idle]
            dsimp only
            rw [worth_await price lanes shut place none, worth]
            exact Nat.le_refl _
          · obtain ⟨rfl, gate', now', worth'⟩ := found'
            refine ⟨_, _, .retry found, fun price => ?_⟩
            have retried := worth_retry price lanes' (gate'.symm ▸ shut) (gate'.symm ▸ place)
              lane.backoff.next.2 (b.now + lane.backoff.next.1.ceilMillis)
            rw [went]
            dsimp only
            rw [now', now]
            rw [backoff', backoff, worth', worth] at retried
            simp only [cost_cons, cost_nil]
            omega
          · obtain ⟨rfl, trades⟩ := found'
            have rested := fun price => worth_goOn price lanes'
            rw [went]
            dsimp only
            rw [backoff', backoff] at rested
            rcases trades with dropped | sent
            · refine ⟨_, _, .passOver found, fun price => ?_⟩
              have spent := dropped price
              have goes := rested price
              rw [worth] at spent
              simp only [cost_cons, cost_nil] at spent ⊢
              omega
            · refine ⟨_, _, .deliver found, fun price => ?_⟩
              have spent := sent price
              have goes := rested price
              rw [worth] at spent
              simp only [cost_cons, cost_nil] at spent ⊢
              omega

/-! ## Deliveries and publications -/

/-- What a delivery that is written, or cannot be, makes of the stock. -/
theorem exchange_send {d : Delivery} (unused : ∀ q ∈ b.ledger.pending, q.id ≠ d.id) :
    ∃ spent made, b.Exchange (.send d) spent made ∧ Trades b (b.send d) spent made := by
  have nobody : b.ledger.find? d.id = none := by
    rw [Ledger.find?, List.find?_eq_none]
    intro q waits
    simpa using unused q waits
  have same : (b.resolve d.id (some .cancelled)).2 = b := by rw [resolve, nobody]
  have launched := fun price => b.worth_launch price unused
  rw [send_eq, same]
  rcases (b.launch d).2.worth_dispatch d (b.launch d).1 with written | refused
  · refine ⟨_, _, .write d, fun price => ?_⟩
    have first := launched price
    have then' := written price
    simp only [cost_cons, cost_nil]
    omega
  · refine ⟨_, _, .refuse d, fun price => ?_⟩
    have first := launched price
    have then' := refused price
    simp only [cost_cons, cost_nil]
    omega

theorem exchange_arm (b : Broker) (ticket : Nat) :
    ∃ spent made, b.Exchange (.arm ticket) spent made ∧ Trades b (b.arm ticket) spent made := by
  unfold arm
  split
  · rename_i waiting
    obtain ⟨p, waits, rfl⟩ := Ledger.isWaiting_iff.1 waiting
    refine ⟨_, _, .arm waits, fun price => ?_⟩
    simp
  · exact ⟨[], [], .quiet rfl, fun _ => Nat.le_refl _⟩

theorem exchange_expire (b : Broker) (ticket : Nat) :
    ∃ spent made, b.Exchange (.expire ticket) spent made ∧
      Trades b (b.expire ticket) spent made := by
  unfold expire
  split
  · refine ⟨_, _, .expire ticket, fun price => ?_⟩
    have settled := b.worth_withLedger price _ (b.ledger.pending_expire ticket)
    rw [worth_later]
    simp only [Task.good, cost_cons, cost_nil]
    omega
  · exact ⟨[], [], .quiet rfl, fun _ => Nat.le_refl _⟩

theorem exchange_conclude (b : Broker) (ticket : Nat) :
    ∃ spent made, b.Exchange (.conclude ticket) spent made ∧
      Trades b (b.conclude ticket) spent made := by
  rcases b.worth_conclude ticket with same | landed
  · rw [same]
    exact ⟨[], [], .quiet rfl, fun _ => Nat.le_refl _⟩
  · refine ⟨_, _, .conclude ticket, fun price => ?_⟩
    have ended := landed price
    simp only [cost_cons, cost_nil]
    omega

/-- With a store that answers, every task makes of the stock what it may make, if a delivery that is
going to be written has an id that nothing waits under. -/
theorem exchange_perform (works : ∀ call, b.depot.failuresOf call = 0) {task : Task}
    (unused : ∀ d, task = .send d → ∀ q ∈ b.ledger.pending, q.id ≠ d.id) :
    ∃ spent made, b.Exchange task spent made ∧ Trades b (b.perform task) spent made := by
  cases task with
  | work k => exact exchange_work works k
  | send d => exact exchange_send (unused d rfl)
  | arm ticket => exact b.exchange_arm ticket
  | expire ticket => exact b.exchange_expire ticket
  | conclude ticket => exact b.exchange_conclude ticket
  | publish tag m =>
      refine ⟨_, _, .publish tag m, fun price => ?_⟩
      rw [cost_copies, cost_nil, Nat.add_zero, perform]
      exact b.worth_beginPublish price tag m
  | resume p =>
      refine ⟨_, _, .resume p, fun price => ?_⟩
      rw [cost_copies, cost_nil, Nat.add_zero, perform]
      exact b.worth_resumePublish price p

/-! ## Alarms -/

theorem worth_call (price : Good → Nat) (b : Broker) (sleeper : Sleeper) :
    (b.call sleeper).worth price = b.worth price + price sleeper.good := by
  cases sleeper with
  | worker k => rw [call, worth_later, worth_setStage]; rfl
  | limit ticket => exact worth_later price b (.expire ticket)

/-- The alarms that are due. -/
def ringing (b : Broker) : List Alarm :=
  b.alarms.filter fun a => a.due ≤ b.now

/-- The alarms that are due turn into what they lead to. -/
theorem trades_ring (b : Broker) :
    Trades b b.ring (b.ringing.map Alarm.good) (b.ringing.map fun a => a.sleeper.good) := by
  intro price
  have called : ∀ (alarms : List Alarm) (b : Broker),
      (alarms.foldl (fun b a => b.call a.sleeper) b).worth price =
        b.worth price + cost price (alarms.map fun a => a.sleeper.good) := by
    intro alarms
    induction alarms with
    | nil => exact fun _ => rfl
    | cons a alarms ih =>
        intro b
        rw [List.foldl_cons, ih, worth_call, List.map_cons, cost_cons]
        omega
  have parted : cost price (b.ringing.map Alarm.good) +
      cost price ((b.alarms.filter fun a => !decide (a.due ≤ b.now)).map Alarm.good) =
        cost price (b.alarms.map Alarm.good) := by
    have perm := (List.filter_append_perm (fun a : Alarm => decide (a.due ≤ b.now)) b.alarms).map
      (fun a => price a.good)
    have whole := perm.sum_eq
    simpa [cost, ringing, Function.comp_def] using whole
  have rung : b.ring.worth price = worth price { b with
      alarms := b.alarms.filter fun a => !decide (a.due ≤ b.now) } +
        cost price (b.ringing.map fun a => a.sleeper.good) := by
    rw [ring, List.partition_eq_filter_filter]
    exact called _ _
  rw [rung]
  simp only [worth_eq] at parted ⊢
  omega

end Broker

end MessageBroker
