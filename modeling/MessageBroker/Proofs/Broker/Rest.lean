import MessageBroker.Proofs.Broker.Tariffs
import MessageBroker.Proofs.Wire.Sizes

/-!
# Coming to rest

A broker whose clock stands runs out of things to do, as long as only so many frames cannot be
written. On the way it tries to write no more frames than there are messages in its queues and on
their way, and one more for each that could not be written. A message whose frame could not be
written goes back to the head of its queue and is delivered again at once; nothing but a limit to
such failures keeps this from going on for ever.

The links of clients may run out of refusals. A frame whose length the wire format cannot express
fails whatever the link does, and so a message that is as long as this keeps a broker busy for ever.
-/

namespace MessageBroker

/-- Whether a link refused a frame. -/
def Record.isRefusal : Record → Bool
  | refused _ frame => frame.encode?.isOk
  | announced _ | wrote .. => false

/-- Whether a frame was too long to be written. -/
def Record.isOverrun : Record → Bool
  | refused _ frame => !frame.encode?.isOk
  | announced _ | wrote .. => false

/-- No frame can hold a message. -/
def Store.Message.Overlong (m : Store.Message) : Prop :=
  Wire.lengthBound ≤ Wire.countedHeader + (Wire.Body.message m.route m.payload).encode.length

theorem Store.Message.Overlong.encode? {m : Store.Message} (long : m.Overlong) (id : CorrelationId) :
    ∃ e, (Wire.Frame.message id m.route m.payload).encode? = .error e :=
  ⟨_, Wire.Frame.encode?_of_large long⟩

namespace Broker

/-- How many frames a broker has tried to write. -/
def attempts (b : Broker) : Nat :=
  b.front.attempts.length

/-- How many frames the links of a broker refused. -/
def refusals (b : Broker) : Nat :=
  b.log.countP Record.isRefusal

/-- How many frames of a broker were too long to be written. -/
def overruns (b : Broker) : Nat :=
  b.log.countP Record.isOverrun

/-- The occurrences of messages: those that wait in declared queues, and those of deliveries that
are not over yet. -/
def inHand (b : Broker) : Nat :=
  (b.lanes.map fun lane => if lane.queue.isClosed then 0 else lane.queue.pending.length).sum +
    b.docket.sends.length + b.flights.size

/-- The queues that a publication in the line comes to. -/
def destinations (b : Broker) : Task → Nat
  | .publish _ m => (b.matching m.route).length
  | .resume p => p.lanes.length
  | _ => 0

/-- The occurrences of messages that are going to be published on their own. -/
def arriving (b : Broker) : Nat :=
  (b.tasks.map b.destinations).sum

variable {b₀ b b' : Broker}

/-! ## Frames in stock -/

theorem attempts_eq (b : Broker) :
    b.attempts = (b.log.filterMap Record.good?).length + b.refusals + b.overruns := by
  have each : ∀ log : List Record, (log.filterMap Record.attempt?).length =
      (log.filterMap Record.good?).length + log.countP Record.isRefusal +
        log.countP Record.isOverrun := by
    intro log
    induction log with
    | nil => rfl
    | cons r log ih =>
        simp only [List.filterMap_cons, List.countP_cons, Record.isRefusal, Record.isOverrun]
        cases r with
        | announced e => exact ih
        | wrote c frame bytes =>
            simp only [Record.attempt?, Record.good?, List.length_cons, ih, Bool.false_eq_true, if_false]
            omega
        | refused c frame =>
            simp only [Record.attempt?, Record.good?, List.length_cons, ih]
            by_cases short : frame.encode?.isOk = true <;> simp [short] <;> omega
  rw [attempts, front, List.filterMap_reverse, List.length_reverse, each, refusals, overruns]

theorem cost_frames_log (b₀ : Broker) (log : List Record) :
    cost (frames b₀) (log.filterMap Record.good?) = (log.filterMap Record.good?).length := by
  induction log with
  | nil => rfl
  | cons r log ih =>
      cases r <;>
        simp only [List.filterMap_cons, Record.good?, cost_cons, List.length_cons, ih, frames]
      omega

/-- Frames that were written are in stock. -/
theorem written_le_worth (b₀ b : Broker) :
    (b.log.filterMap Record.good?).length ≤ b.worth (frames b₀) := by
  rw [worth_eq, cost_frames_log]
  omega

/-- At the beginning of a run the frames in stock are those that were written and the occurrences of
messages. -/
theorem worth_frames (filed : b.docket.Filed) :
    b.worth (frames b) = (b.log.filterMap Record.good?).length + b.inHand + b.arriving := by
  have lanes : ∀ lanes : List Lane, cost (frames b) (lanes.flatMap Lane.goods) =
      (lanes.map fun lane => if lane.queue.isClosed then 0 else lane.queue.pending.length).sum := by
    intro lanes
    induction lanes with
    | nil => rfl
    | cons lane lanes ih =>
        rw [List.flatMap_cons, cost_append, ih, List.map_cons, List.sum_cons]
        cases closed : lane.queue.isClosed with
        | true => simp [Lane.goods, closed, frames]
        | false => simp [Lane.goods, closed, cost_waiting, frames, -List.map_const']
  have tasks : ∀ tasks : List Task, cost (frames b) (tasks.map Task.good) =
      (tasks.filterMap Task.delivery?).length + (tasks.map b.destinations).sum := by
    intro tasks
    induction tasks with
    | nil => rfl
    | cons t tasks ih =>
        cases t <;>
          simp only [List.map_cons, cost_cons, ih, Task.good, frames, List.filterMap_cons,
            Task.delivery?, List.length_cons, List.sum_cons, destinations] <;> omega
  have alarms : cost (frames b) (b.alarms.map Alarm.good) = 0 := cost_map_eq_zero (fun _ => rfl) _
  have flights : ∀ keys : List Nat, (∀ n ∈ keys, n < b.ledger.issued) →
      cost (frames b) (keys.map Good.flight) = keys.length := by
    intro keys
    induction keys with
    | nil => exact fun _ => rfl
    | cons n keys ih =>
        intro given
        have here : n < b.ledger.issued := given n List.mem_cons_self
        have others := ih fun k listed => given k (List.mem_cons_of_mem n listed)
        rw [List.map_cons, cost_cons, others, frames, if_pos here, List.length_cons, Nat.add_comm]
  have tracked : cost (frames b) (b.ledger.pending.map Tracked.good) = 0 :=
    cost_map_eq_zero (fun _ => rfl) _
  have size : b.flights.keys.length = b.flights.size := List.length_map _
  rw [worth_eq, lanes, tasks, alarms, flights b.flights.keys filed.issued, tracked, cost_frames_log,
    size, inHand, arriving]
  simp only [frames, docket, Desk.docket, desk]
  omega

/-! ## One turn -/

/-- The docket and the books of a broker are in kept. -/
structure WellKept (b : Broker) : Prop where
  backed : b.books.Backed 0
  filed : b.docket.Filed
  named : b.docket.Named

/-- A turn of a run: it is paid for by the turns in stock, or by a frame that is tried to be
written, and no frame comes from nowhere. -/
structure Turn (b₀ b b' : Broker) : Prop where
  underway : Underway b₀ b'
  turns : b'.worth (turns b₀) + 1 + 5 * b.attempts ≤ b.worth (turns b₀) + 5 * b'.attempts
  frames : b'.worth (frames b₀) ≤ b.worth (frames b₀)

/-- A delivery that is performed is tried to be written. -/
theorem attempts_task {task : Task} {rest : List Task} (filed : b.docket.Filed)
    (line : b.tasks = task :: rest) :
    (b.apply .task).attempts = b.attempts + task.delivery?.toList.length := by
  have grows := grows_perform { b with tasks := rest } task
  simp only [attempts, apply, line, grows.attempts, List.length_append]
  refine congrArg (b.front.attempts.length + ·) ?_
  cases task with
  | send d =>
      have aboard : d.client < b.clients.length :=
        filed.aboard d (mem_sends.2 (line ▸ List.mem_cons_self))
      simp [toward, aboard, Task.delivery?]
  | _ => rfl

theorem turn_task {task : Task} {rest : List Task} (kept : b.WellKept) (underway : Underway b₀ b)
    (line : b.tasks = task :: rest) : Turn b₀ b (b.apply .task) := by
  obtain ⟨spent, made, exchange, trades⟩ :=
    exchange_task kept.backed kept.filed kept.named line
  have popped := underway.pop line
  refine ⟨underway.perform line exchange trades (leads_apply kept.filed.sound .task).issued, ?_, ?_⟩
  · have paid := exchange.turns_le popped
    have traded := trades (turns b₀)
    rw [attempts_task kept.filed line]
    rw [cost_cons] at traded
    omega
  · have paid := exchange.frames_le popped (underway.goods _ (head_mem_stock line))
    have traded := trades (frames b₀)
    rw [cost_cons] at traded
    omega

theorem turn_ring (underway : Underway b₀ b) (ringing : b.isRinging = true) : Turn b₀ b b.ring := by
  refine ⟨underway.ring, ?_, ?_⟩
  · have paid := turns_ring_lt underway.now ringing
    have traded := b.trades_ring (turns b₀)
    rw [attempts, attempts, b.front_ring]
    omega
  · have traded := b.trades_ring (frames b₀)
    rw [frames_ring] at traded
    omega

/-! ## Runs -/

theorem run_of_rest (n : Nat) (rest : b.isAtRest = true) : run n b = b := by
  obtain ⟨line, quiet⟩ := Bool.and_eq_true_iff.1 rest
  have empty : b.tasks = [] := List.isEmpty_iff.1 line
  cases n with
  | zero => rfl
  | succ n => simp_all [run]

theorem run_task (n : Nat) {task : Task} {rest : List Task} (line : b.tasks = task :: rest) :
    run (n + 1) b = run n (b.apply .task) := by
  simp only [run, apply, line]

theorem run_ring (n : Nat) (line : b.tasks = []) (ringing : b.isRinging = true) :
    run (n + 1) b = run n b.ring := by
  simp only [run, line, ringing, if_true]

/-- What a broker does next: it performs a task, or lets alarms go off, or it is at rest. -/
theorem turn_cases (b : Broker) : b.isAtRest = true ∨ (∃ task rest, b.tasks = task :: rest) ∨
    b.tasks = [] ∧ b.isRinging = true := by
  cases line : b.tasks with
  | cons task rest => exact .inr (.inl ⟨task, rest, rfl⟩)
  | nil =>
      cases ringing : b.isRinging with
      | true => exact .inr (.inr ⟨rfl, rfl⟩)
      | false => exact .inl (by simp [isAtRest, line, ringing])

/-- A run is one turn after the other. -/
theorem run_succ (n : Nat) (b : Broker) : run (n + 1) b = run 1 (run n b) := by
  induction n generalizing b with
  | zero => rfl
  | succ n ih =>
      rcases b.turn_cases with still | ⟨task, rest, line⟩ | ⟨line, ringing⟩
      · rw [run_of_rest _ still, run_of_rest _ still, run_of_rest _ still]
      · rw [run_task _ line, run_task _ line, ih]
      · rw [run_ring _ line ringing, run_ring _ line ringing, ih]

/-- A broker that is at rest stays there. -/
theorem run_of_le {n m : Nat} (still : (run n b).isAtRest = true) (later : n ≤ m) :
    run m b = run n b := by
  induction m, later using Nat.le_induction with
  | base => rfl
  | succ m _ ih => rw [run_succ, ih, run_of_rest 1 still]

/-- What a run has come to after `n` turns: unless it was at rest before, the turns are paid for. -/
structure Run (b : Broker) (n : Nat) : Prop where
  underway : Underway b (run n b)
  turns : (∀ m < n, (run m b).isAtRest = false) →
    (run n b).worth (turns b) + n + 5 * b.attempts ≤ b.worth (turns b) + 5 * (run n b).attempts
  frames : (run n b).worth (frames b) ≤ b.worth (frames b)

theorem run_spec (kept : ∀ n, (run n b).WellKept) (underway : Underway b b) (n : Nat) :
    Run b n := by
  -- The last turn is split off, so that all turns are charged to the broker that began.
  induction n with
  | zero => exact ⟨underway, fun _ => Nat.le_refl _, Nat.le_refl _⟩
  | succ n ih =>
      have onward : ∀ b', run (n + 1) b = b' → Turn b (run n b) b' → Run b (n + 1) := by
        rintro _ rfl turn
        refine ⟨turn.underway, fun awake => ?_, Nat.le_trans turn.frames ih.frames⟩
        have before := ih.turns fun m early => awake m (Nat.lt_succ_of_lt early)
        have now := turn.turns
        omega
      rcases (run n b).turn_cases with still | ⟨task, rest, line⟩ | ⟨line, ringing⟩
      · have same : run (n + 1) b = run n b := (run_succ n b).trans (run_of_rest 1 still)
        refine ⟨same ▸ ih.underway, fun awake => ?_, same ▸ ih.frames⟩
        rw [awake n (Nat.lt_succ_self n)] at still
        cases still
      · exact onward _ ((run_succ n b).trans (run_task 0 line))
          (turn_task (kept n) ih.underway line)
      · exact onward _ ((run_succ n b).trans (run_ring 0 line ringing))
          (turn_ring ih.underway ringing)

/-- If no more than `spare` frames are refused on the way and no more than `long` are too long, a run
tries to write no more frames than there are occurrences of messages, and as many more. -/
theorem attempts_run_le (kept : ∀ n, (run n b).WellKept) (underway : Underway b b)
    {spare long : Nat} (refused : ∀ n, (run n b).refusals ≤ b.refusals + spare)
    (overran : ∀ n, (run n b).overruns ≤ b.overruns + long) (n : Nat) :
    (run n b).attempts ≤ b.attempts + b.inHand + b.arriving + spare + long := by
  -- Frames that were written were in stock from the beginning; the others could not be written.
  have written := Nat.le_trans (written_le_worth b (run n b)) (run_spec kept underway n).frames
  have more := refused n
  have longer := overran n
  rw [worth_frames (b := b) (kept 0).filed] at written
  rw [attempts_eq, attempts_eq]
  omega

/-- A run comes to rest. -/
theorem rest_of_run (kept : ∀ n, (run n b).WellKept) (underway : Underway b b) {spare long : Nat}
    (refused : ∀ n, (run n b).refusals ≤ b.refusals + spare)
    (overran : ∀ n, (run n b).overruns ≤ b.overruns + long) :
    ∃ n, n ≤ b.worth (turns b) + 5 * (b.inHand + b.arriving + spare + long) ∧
      (run n b).isAtRest = true := by
  -- A run without rest takes more turns than the stock and the attempts pay for.
  by_contra endless
  have awake : ∀ m < b.worth (turns b) + 5 * (b.inHand + b.arriving + spare + long) + 1,
      (run m b).isAtRest = false := by
    intro m early
    rw [← Bool.not_eq_true]
    exact fun rest => endless ⟨m, Nat.le_of_lt_succ early, rest⟩
  have paid := (run_spec kept underway _).turns awake
  have tried := attempts_run_le kept underway refused overran
    (b.worth (turns b) + 5 * (b.inHand + b.arriving + spare + long) + 1)
  omega

variable {settings : Settings.Engine} {mint : Nat → CorrelationId} {calendar : Nat}
  {messages : Store.Messages} {start : Broker} {life : List Episode}

/-- What a broker runs through is a part of its life. -/
theorem wellKept_run
    (started : Broker.new? settings mint calendar (.holding messages) = some start)
    (spares : ∀ e ∈ life, e.sparesStore = true) {n : Nat}
    (fresh : (run n (start.through life)).docket.Fresh) :
    (run n (start.through life)).WellKept := by
  obtain ⟨moves, ran⟩ := reaches_run n (start.through life)
  rw [← through_moves, ← through_append] at ran
  rw [← ran] at fresh ⊢
  refine ⟨backed_through started (List.forall_mem_append.2 ⟨spares, ?_⟩), filed_through started _,
    named_through started fresh⟩
  intro e listed
  obtain ⟨m, -, rfl⟩ := List.mem_map.1 listed
  rfl

/-- Whatever a broker whose store is in memory has lived through, if no delay and no time limit is
zero, its links refuse no more than `spare` frames and no more than `long` are too long, it comes to
rest while the clock stands, after a number of turns that is known from the beginning. On the way it
tries to write no more frames than there were occurrences of messages in declared queues and in
deliveries, with those that publications in the line are going to make, and `spare` and `long`
more. -/
theorem comes_to_rest
    (started : Broker.new? settings mint calendar (.holding messages) = some start)
    (spares : ∀ e ∈ life, e.sparesStore = true) (base : 1 ≤ settings.backoffBaseMs)
    (ceiling : 1 ≤ settings.backoffMaxMs) (patience : 1 ≤ settings.ackTimeoutMs)
    (fresh : ∀ n, (run n (start.through life)).docket.Fresh) {spare long : Nat}
    (refused : ∀ n, (run n (start.through life)).refusals ≤ (start.through life).refusals + spare)
    (overran : ∀ n, (run n (start.through life)).overruns ≤ (start.through life).overruns + long) :
    let b := start.through life
    (∃ n, n ≤ b.worth (turns b) + 5 * (b.inHand + b.arriving + spare + long) ∧
      (run n b).isAtRest = true) ∧
    ∀ n, (run n b).now = b.now ∧
      (run n b).attempts ≤ b.attempts + b.inHand + b.arriving + spare + long := by
  intro b
  have kept : ∀ n, (run n b).WellKept := fun n => wellKept_run started spares (fresh n)
  have underway : Underway b b := by
    refine .start (stocked_through started spares (fresh 0) base ceiling) ?_
    rw [settings_through started life]
    exact patience
  exact ⟨rest_of_run kept underway refused overran, fun n =>
    ⟨(run_spec kept underway n).underway.now, attempts_run_le kept underway refused overran n⟩⟩

/-- A message is published to a subscriber that is going to refuse one frame. -/
def reluctant : List Episode :=
  [.stir (.move (.declare "orders" "orders")), .stir (.move (.connect "reader" .reliable)),
    .stir (.move (.subscribe "reader" "orders" none)),
    .stir (.move (.tamper 0 (Peer.Link.reliable.failing 1 (.failed "busy")))),
    .stir (.move (.publish ⟨.ofNat 1, "orders", [7], none, 0⟩))]

/-- The message is delivered twice, after which the broker is at rest. -/
theorem comes_to_rest_reluctant :
    let b := sample.through reluctant
    (∃ n, (run n b).isAtRest = true) ∧ b.inHand = 1 ∧ b.arriving = 0 ∧ (run 8 b).refusals = 1 ∧
      (∀ n, (run n b).attempts ≤ b.attempts + 2) ∧ (run 8 b).attempts = b.attempts + 2 := by
  intro b
  have spares : ∀ e ∈ reluctant, e.sparesStore = true := by decide
  have still : (run 8 b).isAtRest = true := by decide
  have all : ∀ {P : Broker → Prop}, (∀ n < 9, P (run n b)) → ∀ n, P (run n b) := by
    intro P early n
    rcases Nat.lt_or_ge n 9 with before | since
    · exact early n before
    · rw [run_of_le still (Nat.le_of_lt since)]
      exact early 8 (by decide)
  have fresh : ∀ n, (run n b).docket.Fresh := by
    have apart : ∀ i < 3, ∀ j < 3, CorrelationId.fresh i = CorrelationId.fresh j → i = j := by
      decide
    have few : ∀ n, (run n b).minted ≤ 3 := all (P := fun b => b.minted ≤ 3) (by decide)
    intro n i j first second same
    obtain ⟨moves, ran⟩ := reaches_run n b
    have leads := leads_through (filed_through new?_sample reluctant)
      (moves.map fun m => .stir (.move m))
    rw [← ran, ← through_moves, leads.mint.1] at same
    exact apart i (Nat.lt_of_lt_of_le first (few n)) j (Nat.lt_of_lt_of_le second (few n)) same
  have refused : ∀ n, (run n b).refusals ≤ b.refusals + 1 :=
    all (P := fun b' => b'.refusals ≤ b.refusals + 1) (by decide)
  have overran : ∀ n, (run n b).overruns ≤ b.overruns + 0 :=
    all (P := fun b' => b'.overruns ≤ b.overruns + 0) (by decide)
  obtain ⟨⟨n, -, rest⟩, bound⟩ :=
    comes_to_rest new?_sample spares (by decide) (by decide) (by decide) fresh refused overran
  exact ⟨⟨n, rest⟩, rfl, rfl, by decide, fun n => (bound n).2, by decide⟩

/-! ## A message that no frame can hold -/

/-- A queue that a single client reads, with its worker. -/
def readAlone (queue : Queue) (reader : String) (turn : UInt64) (pending : List CorrelationId)
    (gate : Queue.Gate Unit) (backoff : Time.Backoff) (stage : WorkerStage) : Lane :=
  ⟨{ queue with pending, roster := ⟨[⟨0, reader⟩], turn⟩, gate }, backoff, stage⟩

/-- A client without deliveries that it remembers. -/
def bare (client : Peer.Client) (inFlight : Nat) : Peer.Client :=
  { client with inFlight, deliveries := [] }

/-- A broker with a single lane and a single client, and with nothing on its way. -/
def lone (b : Broker) (lane : Lane) (client : Peer.Client) (tasks : List Task) (minted issued : Nat)
    (log : List Record) : Broker :=
  { b with
    lanes := [lane]
    clients := [client]
    flights := .empty
    ledger := ⟨[], issued, .empty⟩
    alarms := []
    isShutDown := false
    tasks, minted, log }

section Round

variable {queue : Queue} {m : Store.Message} {client : Peer.Client} {waiter : Option (Queue.Waiter Unit)}
  {turn : UInt64} {permit : Bool} {backoff : Time.Backoff} {stage : WorkerStage} {id : CorrelationId}
  {ticket minted issued : Nat} {log : List Record}

/-- The worker makes a delivery of the message. -/
theorem run_due (opened : queue.isClosed = false) (room : 0 < client.ceiling)
    (stored : b.depot.get? m.id = (.ok (some m), b.depot)) :
    run 1 (b.lone (readAlone queue client.id turn [m.id] ⟨true, true, waiter⟩ backoff .due)
        (bare client 0) [.work 0] minted issued log) =
      b.lone (readAlone queue client.id (turn + 1) [] ⟨false, waiter.isNone, none⟩ backoff.reset .due)
        (bare client 1) [.work 0, .send ⟨b.mint minted, 0, 0, m.id, m.route, m.payload⟩] (minted + 1)
        issued log := by
  cases waiter <;>
    simp [run, lone, readAlone, bare, perform, work, stepAside, modifyQueue, modifyLane, opened,
      Queue.Gate.look, Queue.Gate.block, offer, Queue.Roster.select, Queue.Roster.cycle,
      Queue.Roster.size, Nat.mod_one, hasRoom, Peer.Client.hasRoom, room, modifyClient,
      Peer.Client.occupy, sendOff, stored, mintId, later, next]

/-- Nothing is left for the worker, and it waits. -/
theorem run_made (opened : queue.isClosed = false) {task : Task} :
    run 1 (b.lone (readAlone queue client.id turn [] ⟨false, permit, none⟩ backoff .due)
        (bare client 1) [.work 0, task] minted issued log) =
      b.lone (readAlone queue client.id turn [] ⟨false, false, some ⟨(), false⟩⟩ backoff .waiting)
        (bare client 1) [task] minted issued log := by
  simp [run, lone, readAlone, bare, perform, work, stepAside, modifyQueue, modifyLane, opened,
    Queue.Gate.block, offer, await, Queue.Gate.arrive, setStage]

/-- The delivery cannot be written: the message goes back to its queue, and the worker is called. -/
theorem run_waiting (opened : queue.isClosed = false) {e : Wire.Error}
    (long : (Wire.Frame.message id m.route m.payload).encode? = .error e) :
    run 1 (b.lone (readAlone queue client.id turn [] ⟨false, false, some ⟨(), false⟩⟩ backoff .waiting)
        (bare client 1) [.send ⟨id, 0, 0, m.id, m.route, m.payload⟩] minted issued log) =
      b.lone (readAlone queue client.id turn [m.id] ⟨true, true, some ⟨(), true⟩⟩ backoff .due)
        (bare client 0) [.arm issued, .work 0] minted (issued + 1)
        (.announced (.deliveryFailed m.id queue.name Failure.sendFailed.message) ::
          .refused 0 (.message id m.route m.payload) :: log) := by
  simp [run, lone, readAlone, bare, perform, send, launch, dispatch, resolve, Ledger.find?,
    Ledger.setUp, Ledger.resolve, later, modifyClient, Peer.Client.track, write, Delivery.frame,
    Peer.Client.sendFrame, long, note, Ledger.unwritten, Ledger.settle, conclude, Table.get?_insert,
    Table.erase_insert, Table.erase_empty, Ledger.collect, Peer.Client.untrack, Peer.Client.release,
    openGate, rouse, modifyQueue, modifyLane, Queue.openGate, Queue.Gate.unblock, Queue.Gate.calling,
    dropAlarm, follow, announce, queueName, requeue, Queue.requeue, opened]

/-- The time limit of a delivery that has an outcome does not begin. -/
theorem run_failed {lane : Lane} :
    run 1 (b.lone lane client [.arm ticket, .work 0] minted issued log) =
      b.lone lane client [.work 0] minted issued log := rfl

end Round

/-- The stages of the round that a broker makes with a message that no frame can hold, while its links
have refused so many frames. -/
inductive Spinning (b : Broker) (queue : Queue) (m : Store.Message) (client : Peer.Client)
    (refusals : Nat) : Broker → Prop where
  | due {waiter turn backoff minted issued log} (kept : log.countP Record.isRefusal = refusals) :
    Spinning b queue m client refusals (b.lone
      (readAlone queue client.id turn [m.id] ⟨true, true, waiter⟩ backoff .due) (bare client 0)
      [.work 0] minted issued log)
  | made {turn permit backoff id minted issued log}
    (kept : log.countP Record.isRefusal = refusals) :
    Spinning b queue m client refusals (b.lone
      (readAlone queue client.id turn [] ⟨false, permit, none⟩ backoff .due) (bare client 1)
      [.work 0, .send ⟨id, 0, 0, m.id, m.route, m.payload⟩] minted issued log)
  | waiting {turn backoff id minted issued log} (kept : log.countP Record.isRefusal = refusals) :
    Spinning b queue m client refusals (b.lone
      (readAlone queue client.id turn [] ⟨false, false, some ⟨(), false⟩⟩ backoff .waiting)
      (bare client 1) [.send ⟨id, 0, 0, m.id, m.route, m.payload⟩] minted issued log)
  | failed {turn backoff ticket minted issued log}
    (kept : log.countP Record.isRefusal = refusals) :
    Spinning b queue m client refusals (b.lone
      (readAlone queue client.id turn [m.id] ⟨true, true, some ⟨(), true⟩⟩ backoff .due)
      (bare client 0) [.arm ticket, .work 0] minted issued log)

section Spinning

variable {queue : Queue} {m : Store.Message} {client : Peer.Client} {refusals : Nat}
  (opened : queue.isClosed = false) (room : 0 < client.ceiling)
  (stored : b.depot.get? m.id = (.ok (some m), b.depot)) (long : m.Overlong)
include opened room stored long

/-- One stage leads to the next. -/
theorem Spinning.run_one (spinning : Spinning b queue m client refusals b') :
    Spinning b queue m client refusals (run 1 b') := by
  cases spinning with
  | due kept =>
      rw [run_due opened room stored]
      exact .made kept
  | made kept =>
      rw [run_made opened]
      exact .waiting kept
  | @waiting turn backoff id minted issued log kept =>
      obtain ⟨e, overrun⟩ := long.encode? id
      rw [run_waiting opened overrun]
      refine .failed ?_
      simpa [Record.isRefusal, overrun, Except.isOk, Except.toBool] using kept
  | failed kept =>
      rw [run_failed]
      exact .due kept

/-- A broker whose only message no frame can hold never comes to rest, and no link refuses anything. -/
theorem Spinning.endless (spinning : Spinning b queue m client refusals b') (n : Nat) :
    (run n b').isAtRest = false ∧ (run n b').refusals = refusals := by
  have still : Spinning b queue m client refusals (run n b') := by
    induction n with
    | zero => exact spinning
    | succ n ih =>
        rw [run_succ]
        exact ih.run_one opened room stored long
  generalize run n b' = b'' at still
  cases still <;> exact ⟨rfl, ‹_›⟩

end Spinning

/-- The queue of a reader. -/
def orders : Queue :=
  .new "orders" ⟨"orders", rfl⟩

/-- A reader. -/
def reader : Peer.Client :=
  .new "reader" .reliable 16

/-- A broker whose queue has a reader. -/
def attended : Broker :=
  sample.through [.stir (.move (.declare "orders" "orders")),
    .stir (.move (.connect "reader" .reliable)), .stir (.move (.subscribe "reader" "orders" none))]

/-- A message that the queue gets. -/
def parcel (payload : Bytes) : Store.Message :=
  ⟨.ofNat 1, "orders", payload, none, 0⟩

theorem overlong_parcel {payload : Bytes}
    (long : Wire.lengthBound ≤ Wire.countedHeader + payload.length) : (parcel payload).Overlong := by
  have part : payload.length ≤ (Wire.Body.message "orders" payload).encode.length := by
    rw [Wire.Body.length_encode_eq_messageSize, Wire.Body.messageSize]
    omega
  exact Nat.le_trans long (Nat.add_le_add_left part _)

theorem apply_parcel (payload : Bytes) :
    attended.apply (.publish (parcel payload)) =
      Broker.lone { attended with
          depot := .holding ⟨⟨[(.ofNat 1, parcel payload)]⟩⟩
          references := attended.references.setUp (.ofNat 1) 1 }
        (readAlone orders "reader" 0 [.ofNat 1] ⟨true, true, none⟩ (Settings.Engine.backoff {}) .due)
        (bare reader 0) [.work 0] 1 1 (.announced (.messageStored (.ofNat 1) 1) :: attended.log) := by
  have matching : attended.matching "orders" = [0] := by rfl
  have routed : attended.matching (parcel payload).route = [0] := matching
  have works : attended.depot = .holding .empty := by rfl
  have added : attended.depot.add (parcel payload) =
      (.ok (), .holding ⟨⟨[(.ofNat 1, parcel payload)]⟩⟩) := by
    rw [works]
    rfl
  have lanes : attended.lanes = [readAlone orders "reader" 0 [] ⟨true, true, none⟩
      (Settings.Engine.backoff {}) .due] := by rfl
  have clients : attended.clients = [bare reader 0] := by rfl
  have idle : attended.minted = 1 ∧ attended.ledger = ⟨[], 1, .empty⟩ ∧ attended.flights = .empty ∧
      attended.tasks = [.work 0] ∧ attended.alarms = [] ∧ attended.isShutDown = false :=
    ⟨rfl, rfl, rfl, rfl, rfl, rfl⟩
  have id : (parcel payload).id = .ofNat 1 := rfl
  simp [apply, publish, routed, bring, added, fanOut, fanOutTo, enqueue, lanes, readAlone, orders,
    Queue.enqueue, Queue.new, Queue.openGate, Queue.Gate.unblock, modifyQueue, modifyLane, rouse,
    announce, note, lone, clients, idle, id]

/-- Once a message of all the bytes that a binary string can have is published, it is delivered again
and again while the clock stands. -/
theorem never_at_rest_with_parcel :
    let b := attended.apply (.publish (parcel (List.replicate (Wire.lengthBound - 1) 0)))
    ∀ n, (run n b).isAtRest = false ∧ (run n b).refusals = 0 := by
  intro b
  have long : (parcel (List.replicate (Wire.lengthBound - 1) 0)).Overlong := by
    refine overlong_parcel ?_
    rw [List.length_replicate]
    decide
  intro n
  rw [show b = _ from apply_parcel _]
  have room : 0 < reader.ceiling := by decide
  exact (Spinning.due rfl).endless rfl room rfl long n

end Broker

end MessageBroker
