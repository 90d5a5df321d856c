import MessageBroker.Proofs.Broker.Upkeep

/-!
# What is left to do at a standing clock

As long as the clock stands, a good in stock leads to a limited number of turns of the broker and of
frames that are written. Two tariffs say how many. In turns every task, and every alarm that goes
off, is worth more than what it makes, except that a delivery that is going to be written may be
worth less by as much as a message that is delivered once more. In frames nothing is ever worth less
than what it makes.

What makes this true is that nothing that is tracked from the beginning of the run on can time out
before the clock moves. A delivery that was tracked before may, and its message is delivered again.
-/

namespace MessageBroker

/-- The clock and the declared queues stay as they are when a task is performed. -/
def Good.isFixture : Good → Bool
  | .hour _ | .board _ => true
  | _ => false

namespace Broker

variable {b₀ b b' : Broker} {task : Task} {spent made : List Good}

/-! ## Fixtures -/

theorem Exchange.no_fixture (exchange : b.Exchange task spent made) :
    ∀ g ∈ made, g.isFixture = false := by
  have copied : ∀ k, ∀ g ∈ copies k, g.isFixture = false := by
    intro k g listed
    rcases mem_copies listed with rfl | rfl <;> rfl
  cases exchange with
  | publish tag m => exact copied _
  | resume p => exact copied _
  | quiet | retry | passOver | deliver | write | refuse | arm | expire | conclude =>
      simp [Good.isFixture]

/-- The price of the queues that accept a route. -/
def accepting (route : String) : Good → Nat
  | .board pattern => if pattern.accepts route then 1 else 0
  | _ => 0

/-- The queues that a route belongs to, as goods in stock. -/
theorem worth_accepting (b : Broker) (route : String) :
    b.worth (accepting route) = (b.matching route).length := by
  have lanes : ∀ lanes : List Lane, cost (accepting route) (lanes.flatMap Lane.goods) =
      lanes.countP fun lane => !lane.queue.isClosed && lane.queue.pattern.accepts route := by
    intro lanes
    induction lanes with
    | nil => rfl
    | cons lane lanes ih =>
        have here : cost (accepting route) lane.goods =
            if !lane.queue.isClosed && lane.queue.pattern.accepts route then 1 else 0 := by
          cases closed : lane.queue.isClosed <;>
            simp only [Lane.goods, closed, cost_cons, cost_nil, cost_waiting, accepting,
              Bool.false_eq_true, if_true, if_false] <;> simp
        rw [List.flatMap_cons, cost_append, here, ih, List.countP_cons, Nat.add_comm]
  have matching : (b.matching route).length =
      b.lanes.countP fun lane => !lane.queue.isClosed && lane.queue.pattern.accepts route := by
    have seats : (b.lanes.mapIdx fun k lane => (k, lane)).map Prod.snd = b.lanes :=
      List.ext_getElem? fun k => by simp
    rw [Broker.matching, List.length_filterMap_eq_countP]
    conv_rhs => rw [← seats, List.countP_map]
    refine List.countP_congr ?_
    rintro ⟨k, lane⟩ -
    dsimp only [Function.comp]
    split <;> simp_all
  have tasks : cost (accepting route) (b.tasks.map Task.good) = 0 :=
    cost_map_eq_zero (fun t => by cases t <;> rfl) _
  have alarms : cost (accepting route) (b.alarms.map Alarm.good) = 0 :=
    cost_map_eq_zero (fun _ => rfl) _
  have flights : cost (accepting route) (b.flights.keys.map Good.flight) = 0 :=
    cost_map_eq_zero (fun _ => rfl) _
  have tracked : cost (accepting route) (b.ledger.pending.map Tracked.good) = 0 :=
    cost_map_eq_zero (fun _ => rfl) _
  have records : cost (accepting route) (b.log.filterMap Record.good?) = 0 := by
    refine cost_eq_zero fun g listed => ?_
    obtain ⟨r, -, found⟩ := List.mem_filterMap.1 listed
    cases r <;> cases found
    rfl
  rw [worth_eq, lanes, tasks, alarms, flights, tracked, records, matching]
  simp [accepting]

/-! ## States of a run -/

/-- A state of a run that began with a broker. The clock has not moved since: whatever has come into
the stock has time left, or was tracked before. -/
structure Underway (b₀ b : Broker) : Prop where
  now : b.now = b₀.now
  issued : b₀.ledger.issued ≤ b.ledger.issued
  goods : ∀ g ∈ b.stock, g.Sound b₀.ledger.issued (b₀.now < ·)
  boards : ∀ route, (b.matching route).length ≤ (b₀.matching route).length
  patience : 1 ≤ b.settings.ackTimeoutMs

namespace Underway

theorem start (stocked : b.Stocked b.ledger.issued) (patience : 1 ≤ b.settings.ackTimeoutMs) :
    Underway b b where
  now := rfl
  issued := Nat.le_refl _
  goods := fun g listed => (stocked g listed).mono (Nat.le_refl _) fun _ => False.elim
  boards := fun _ => Nat.le_refl _
  patience

theorem pop {rest : List Task} (underway : Underway b₀ b) (line : b.tasks = task :: rest) :
    Underway b₀ { b with tasks := rest } :=
  { underway with goods := all_of_pop line underway.goods }

/-- The time of a delivery that is tracked now is not over before the clock moves. -/
theorem lasts (underway : Underway b₀ b) : b₀.now < b.now + b.settings.ackTimeoutMs := by
  rw [underway.now]
  exact Nat.lt_add_of_pos_right underway.patience

/-- What is traded leaves the clock and the declared queues alone. -/
theorem trade (underway : Underway b₀ b) (trades : Trades b b' spent made)
    (fixed : ∀ g ∈ made, g.isFixture = false)
    (goods : ∀ g ∈ made, g.Sound b₀.ledger.issued (b₀.now < ·))
    (issued : b.ledger.issued ≤ b'.ledger.issued) (settings : b'.settings = b.settings) :
    Underway b₀ b' where
  now := by
    have hours : ∀ g ∈ b'.stock, ∀ now, g = .hour now → now = b.now := by
      refine trades.all ?_ fun g listed => ?_
      · rintro g listed now rfl
        exact hour_mem_stock.1 listed
      · rintro now rfl
        cases fixed _ listed
    exact (hours _ (hour_mem_stock.2 rfl) b'.now rfl).trans underway.now
  issued := Nat.le_trans underway.issued issued
  goods := trades.all underway.goods goods
  boards := by
    intro route
    have traded := trades (accepting route)
    have nothing : cost (accepting route) made = 0 := by
      refine cost_eq_zero fun g listed => ?_
      have other := fixed g listed
      cases g with
      | hour | board => cases other
      | _ => rfl
    rw [worth_accepting, worth_accepting, nothing] at traded
    have before := underway.boards route
    omega
  patience := settings ▸ underway.patience

/-- A task of a run. -/
theorem perform {rest : List Task} (underway : Underway b₀ b) (line : b.tasks = task :: rest)
    (exchange : Exchange { b with tasks := rest } task spent made)
    (trades : Trades b (b.apply .task) (task.good :: spent) made)
    (issued : b.ledger.issued ≤ (b.apply .task).ledger.issued) : Underway b₀ (b.apply .task) := by
  refine underway.trade trades exchange.no_fixture ?_ issued ?_
  · exact exchange.sound (underway.pop line).goods (underway.goods _ (head_mem_stock line))
      (fun _ _ => .inr ⟨_, (underway.pop line).lasts⟩) fun _ _ => (underway.pop line).lasts
  · have grows := grows_perform { b with tasks := rest } task
    simp only [apply, line]
    exact grows.settings

/-- Only what was tracked before the run may time out in it. -/
theorem ring (underway : Underway b₀ b) : Underway b₀ b.ring := by
  have settings : b.ring.settings = b.settings := congrArg Front.settings b.front_ring
  have ledger : b.ring.ledger = b.ledger := congrArg Desk.ledger b.desk_ring
  have issued : b.ledger.issued ≤ b.ring.ledger.issued := Nat.le_of_eq (congrArg _ ledger.symm)
  refine underway.trade b.trades_ring ?_ ?_ issued settings
  · intro g listed
    obtain ⟨⟨due, sleeper⟩, -, rfl⟩ := List.mem_map.1 listed
    cases sleeper <;> rfl
  · intro g listed
    obtain ⟨⟨due, sleeper⟩, rings, rfl⟩ := List.mem_map.1 listed
    obtain ⟨alarm, elapsed⟩ := List.mem_filter.1 rings
    cases sleeper with
    | worker k => trivial
    | limit ticket =>
        have passed : due ≤ b₀.now := underway.now ▸ of_decide_eq_true elapsed
        have given : ticket < b₀.ledger.issued :=
          (underway.goods _ (alarm_mem_stock alarm)).resolve_right (Nat.not_lt.2 passed)
        exact given

end Underway

/-! ## Turns -/

/-- How many turns a good may lead to in a run that begins with a broker. -/
def turns (b₀ : Broker) : Good → Nat
  | .waiting => 3
  | .send => 2
  | .work => 1
  | .conclude _ => 6
  | .expire _ => 7
  | .alarm due _ => if due ≤ b₀.now then 8 else 0
  | .arm _ => 1
  | .publish route => 1 + 4 * (b₀.matching route).length
  | .resume queues => 1 + 4 * queues
  | _ => 0

theorem turns_pos (b₀ : Broker) (task : Task) : 1 ≤ turns b₀ task.good := by
  cases task with
  | work | send | arm | expire | conclude => exact Nat.succ_le_succ (Nat.zero_le _)
  | publish tag m => exact Nat.le_add_right 1 _
  | resume p => exact Nat.le_add_right 1 _

/-- A task takes a turn. Writing a delivery may lead to five more. -/
theorem Exchange.turns_le (exchange : b.Exchange task spent made) (underway : Underway b₀ b) :
    cost (turns b₀) made + 1 ≤
      turns b₀ task.good + cost (turns b₀) spent + 5 * task.delivery?.toList.length := by
  cases exchange with
  | quiet =>
      have one := turns_pos b₀ task
      simp only [cost_nil]
      omega
  | @retry k lane found =>
      have lasting : lane.backoff.Lasting := underway.goods _ (loop_mem_stock found)
      -- The worker is not called again before the clock moves.
      have later : ¬b.now + lane.backoff.next.1.ceilMillis ≤ b₀.now := by
        rw [underway.now]
        have delay := lasting.ceilMillis_next_pos
        omega
      simp [turns, Task.good, later]
  | passOver found | deliver found => simp [turns, Task.good, Task.delivery?]
  | write d | refuse d => simp [turns, Task.good, Task.delivery?]
  | arm waits =>
      -- The time of a delivery is not over before the clock moves.
      have later : ¬b.now + b.settings.ackTimeoutMs ≤ b₀.now := Nat.not_le.2 underway.lasts
      simp [turns, Task.good, later]
  | expire ticket | conclude ticket => simp [turns, Task.good]
  | publish tag m =>
      have fewer := underway.boards m.route
      simp only [cost_copies, turns, Task.good, cost_nil]
      omega
  | resume p =>
      simp only [cost_copies, turns, Task.good, cost_nil]
      omega

/-- Alarms that go off take a turn together. -/
theorem turns_ring_lt (now : b.now = b₀.now) (ringing : b.isRinging = true) :
    cost (turns b₀) (b.ringing.map fun a => a.sleeper.good) + 1 ≤
      cost (turns b₀) (b.ringing.map Alarm.good) := by
  have each : ∀ alarms : List Alarm, (∀ a ∈ alarms, a.due ≤ b₀.now) →
      cost (turns b₀) (alarms.map fun a => a.sleeper.good) + alarms.length ≤
        cost (turns b₀) (alarms.map Alarm.good) := by
    intro alarms
    induction alarms with
    | nil => exact fun _ => Nat.le_refl _
    | cons a alarms ih =>
        intro elapsed
        have others := ih fun a' listed => elapsed a' (List.mem_cons_of_mem a listed)
        have due := elapsed a List.mem_cons_self
        have one : turns b₀ a.sleeper.good + 1 ≤ turns b₀ a.good := by
          cases called : a.sleeper <;> simp [turns, Alarm.good, Sleeper.good, due]
        simp only [List.map_cons, cost_cons, List.length_cons]
        omega
  have elapsed : ∀ a ∈ b.ringing, a.due ≤ b₀.now := fun a listed =>
    now ▸ of_decide_eq_true (List.mem_filter.1 listed).2
  have some' : 0 < b.ringing.length := by
    obtain ⟨a, listed, due⟩ := List.any_eq_true.1 ringing
    exact List.length_pos_of_mem (List.mem_filter.2 ⟨listed, due⟩)
  have all := each b.ringing elapsed
  omega

/-! ## Frames -/

/-- How many frames a good may lead to in a run that begins with a broker, refusals aside. A frame
that was written is one itself. -/
def frames (b₀ : Broker) : Good → Nat
  | .waiting | .send | .written => 1
  | .flight ticket => if ticket < b₀.ledger.issued then 1 else 0
  | .publish route => (b₀.matching route).length
  | .resume queues => queues
  | _ => 0

/-- A task leads to no more frames than it was worth. -/
theorem Exchange.frames_le (exchange : b.Exchange task spent made) (underway : Underway b₀ b)
    (self : task.good.Sound b₀.ledger.issued (b₀.now < ·)) :
    cost (frames b₀) made ≤ frames b₀ task.good + cost (frames b₀) spent := by
  cases exchange with
  | quiet => exact Nat.zero_le _
  | retry found | passOver found | deliver found => simp [frames, Task.good]
  | write d | refuse d =>
      have new : ¬b.ledger.issued < b₀.ledger.issued := Nat.not_lt.2 underway.issued
      simp [frames, Task.good, new]
  | arm waits | expire ticket => simp [frames]
  | conclude ticket =>
      have given : ticket < b₀.ledger.issued := self
      simp [frames, Task.good, given]
  | publish tag m =>
      have fewer := underway.boards m.route
      simpa [frames, Task.good] using fewer
  | resume p => simp [frames, Task.good]

theorem frames_ring (b₀ b : Broker) :
    cost (frames b₀) (b.ringing.map fun a => a.sleeper.good) = 0 :=
  cost_map_eq_zero (fun a => by cases a.sleeper <;> rfl) _

end Broker

end MessageBroker
