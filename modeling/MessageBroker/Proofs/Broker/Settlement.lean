import MessageBroker.Proofs.Broker.Arrivals
import MessageBroker.Proofs.Broker.Connections
import MessageBroker.Proofs.Broker.Moves

/-!
# What a move settles

A queue settles a message in three ways. A delivery from it is concluded that its peer has answered;
it is deleted while the message waits in it; or a delivery from it fails after it was deleted, be it
that its time is over, that it could not be written or that its connection is gone. A move that does
none of this to a message settles nothing, and what no queue settles stays where it is.
-/

namespace MessageBroker

open Books Cargo

namespace Wire.Frame

/-- The request that a frame makes, if it makes one. -/
def request? (frame : Frame) : Option Body :=
  match frame.kind with
  | .ack | .nack | .ready => none
  | kind => (frame.bodyAs (Shape.ofKind kind)).toOption

/-- Whether a frame is the answer of a peer. A Nack with a reason that cannot be read is not. -/
def isAnswer (frame : Frame) : Bool :=
  match frame.kind with
  | .ack => true
  | .nack => (Broker.reasonOf frame).isOk
  | _ => false

end Wire.Frame

namespace Wire.Body

/-- The message that a request publishes, by the id of its frame, its connection and the calendar. -/
def publication? (body : Body) (id : CorrelationId) (connection : String) (calendar : Nat) :
    Option Store.Message :=
  match body with
  | message route payload => some ⟨id, route, payload, some connection, calendar⟩
  | _ => none

/-- The name of the queue that a request deletes. -/
def deletion? : Body → Option String
  | delete name => some name
  | _ => none

end Wire.Body

namespace Broker

/-- Whether the queue of a lane is declared: it is not, once it was deleted. -/
def isDeclared (b : Broker) (k : Nat) : Bool :=
  b.lanes[k]?.any fun lane => !lane.queue.isClosed

/-- The message that is published with a move. -/
def publication? (b : Broker) : Move → Option Store.Message
  | .publish p => some p
  | .frame id =>
    (b.nextFrame? id).bind fun (session, frame) =>
      frame.request?.bind fun body => body.publication? frame.id session.id b.calendar
  | .task =>
    match b.tasks with
    | .publish _ p :: _ => if b.depot.holdsUp then none else some p
    | _ => none
  | _ => none

/-- The name of the queue that is deleted with a move. -/
def deletion? (b : Broker) : Move → Option String
  | .delete name => some name
  | .frame id =>
    (b.nextFrame? id).bind fun (_, frame) => frame.request?.bind Wire.Body.deletion?
  | _ => none

/-- The tickets of the deliveries that a peer answers with a move: there is one if a send waits
under the id of the answer. -/
def answersOf (b : Broker) : Move → List Nat
  | .frame id =>
    match b.nextFrame? id with
    | some (_, frame) => if frame.isAnswer then b.ledger.ticketsOf frame.id else []
    | none => []
  | _ => []

/-- The queues that get a message if another, or the same, is published. -/
def takersOf (b : Broker) (p? : Option Store.Message) (id : CorrelationId) : List Nat :=
  match p? with
  | some p => if p.id = id then b.takers p else []
  | none => []

/-- The queues that get a message with a move. -/
def fansOut (b : Broker) (m : Move) (id : CorrelationId) : List Nat :=
  match m with
  | .recover =>
    if id ∈ b.depot.messages.oldest b.settings.recoveryBatchLimit then b.heirs id else []
  | m => b.takersOf (b.publication? m) id

/-- The queue that settles a message when the delivery of a ticket is concluded: its peer has
answered, or it failed and the queue was deleted. -/
def settledByEnd (b : Broker) (answered : List Nat) (ticket : Nat) (id : CorrelationId) : List Nat :=
  match b.flights.get? ticket with
  | some d =>
    if d.message = id ∧ (ticket ∈ answered ∨ b.isDeclared d.lane = false) then [d.lane] else []
  | none => []

/-- The queue that settles a message when a delivery is written: it cannot be written and the queue
was deleted. -/
def settledByWrite (b : Broker) (d : Delivery) (id : CorrelationId) : List Nat :=
  if d.message = id ∧ b.refuses d.client d.frame = true ∧ b.isDeclared d.lane = false then [d.lane] else []

/-- The queue that settles a message when it is deleted. -/
def settledByDeletion (b : Broker) (name? : Option String) (id : CorrelationId) : List Nat :=
  match name?.bind b.lane? with
  | some (k, lane) => if id ∈ lane.queue.pending then [k] else []
  | none => []

/-- The queues that settle a message with a move, if peers have answered certain tickets before. -/
def settledBy (b : Broker) (answered : List Nat) (m : Move) (id : CorrelationId) : List Nat :=
  match m with
  | .task =>
    match b.tasks with
    | .conclude ticket :: _ => b.settledByEnd answered ticket id
    | .send d :: _ => b.settledByWrite d id
    | _ => []
  | m => b.settledByDeletion (b.deletion? m) id

/-- The books are in order between two moves. -/
structure InOrder (b : Broker) (answered : List Nat) : Prop where
  balanced : b.books.Balanced 0
  aloft : b.books.cargo.Aloft [] answered

variable {b b' : Broker} {answered : List Nat} {resumes : List Publication}
  {down : Bool}

theorem isOpen_books (b : Broker) (k : Nat) : b.books.isOpen k = b.isDeclared k := by
  cases found : b.lanes[k]? with
  | none => rw [isOpen_of_none found, isDeclared, found, Option.any_none]
  | some lane => rw [isOpen_of_lane found, isDeclared, found, Option.any_some]

theorem holders_stakeGiven (b : Broker) (answered : List Nat) (ticket : Nat) (id : CorrelationId) :
    holders id (b.stakeGiven answered ticket) = ↑(b.settledByEnd answered ticket id) := by
  unfold stakeGiven settledByEnd
  cases b.flights.get? ticket with
  | none => rfl
  | some d =>
      dsimp only
      rw [isOpen_books]
      by_cases settles : ticket ∈ answered ∨ b.isDeclared d.lane = false
      · rw [if_pos settles, Delivery.stake, holders_singleton]
        by_cases same : d.message = id <;> simp [same, settles]
      · rw [if_neg settles, if_neg fun h => settles h.2]
        rfl

theorem holders_stakeLost (b : Broker) (d : Delivery) (id : CorrelationId) :
    holders id (b.stakeLost d) = ↑(b.settledByWrite d id) := by
  unfold stakeLost settledByWrite
  rw [isOpen_books]
  by_cases settles : b.refuses d.client d.frame = true ∧ b.isDeclared d.lane = false
  · rw [if_pos settles, Delivery.stake, holders_singleton]
    by_cases same : d.message = id <;> simp [same, settles]
  · rw [if_neg settles, if_neg fun h => settles h.2]
    rfl

theorem holders_stakesIn (balanced : b.books.Balanced 0) (name : String) (id : CorrelationId) :
    holders id (b.stakesIn name) = ↑(b.settledByDeletion (some name) id) := by
  unfold stakesIn settledByDeletion
  rw [Option.bind_some]
  cases found : b.lane? name with
  | none => rfl
  | some entry =>
      obtain ⟨k, lane⟩ := entry
      have once := nodup_pending balanced (lane?_eq_some found).1
      dsimp only
      rw [holders_of_ids]
      by_cases waits : id ∈ lane.queue.pending
      · rw [if_pos waits, List.count_eq_one_of_mem once waits]
        rfl
      · rw [if_neg waits, List.count_eq_zero_of_not_mem waits]
        rfl

/-- What a request gives to queues, and what they settle with it. -/
theorem request_turn (balanced : b.books.Balanced 0) (connection : String) (id : CorrelationId)
    (body : Wire.Body) :
    Turn b.books (b.takersOf (body.publication? id connection b.calendar))
      (b.settledByDeletion body.deletion?) (b.request connection id body).2.books := by
  cases body with
  | message route payload =>
      exact publish_turn balanced ⟨id, route, payload, some connection, b.calendar⟩
  | subscribe queue ceiling =>
      rw [request, books_subscribe]
      exact .refl balanced
  | unsubscribe queue =>
      rw [request, books_unsubscribe]
      exact .refl balanced
  | declare name route => exact .ofPassage (declare_passage balanced name route) fun _ => rfl
  | delete name =>
      exact .ofPassage (delete_passage balanced name) (holders_stakesIn balanced name)
  | nack reason => exact .refl balanced

theorem cargo_request (b : Broker) (connection : String) (id : CorrelationId) (body : Wire.Body) :
    (b.request connection id body).2.books.cargo = b.books.cargo := by
  cases body with
  | message route payload => exact b.cargo_publish _
  | subscribe queue ceiling => rw [request, books_subscribe]
  | unsubscribe queue => rw [request, books_unsubscribe]
  | declare name route => exact b.cargo_declare _ _
  | delete name => exact b.cargo_delete _
  | nack reason => rfl

/-- What a frame gives to queues when it is handled, and what they settle with it. -/
theorem handle_turn (balanced : b.books.Balanced 0) (session : Peer.Session) (frame : Wire.Frame) :
    Turn b.books
      (b.takersOf (frame.request?.bind fun body => body.publication? frame.id session.id b.calendar))
      (b.settledByDeletion (frame.request?.bind Wire.Body.deletion?))
      (b.handle session frame).2.books := by
  unfold handle Wire.Frame.request?
  cases kind : frame.kind with
  | ack => exact .ofPassage (resolve_passage balanced _ _) fun _ => rfl
  | nack =>
      dsimp only
      cases reasonOf frame with
      | error e => exact .refl balanced
      | ok reason => exact .ofPassage (resolve_passage balanced _ _) fun _ => rfl
  | ready =>
      dsimp only
      rw [books_reply]
      exact .refl balanced
  | _ =>
      dsimp only
      cases frame.bodyAs (.ofKind _) with
      | error e => exact .refl balanced
      | ok body =>
          dsimp only
          rw [books_reply]
          exact request_turn balanced session.id frame.id body

/-- Only the answer of a peer concerns deliveries on their way. -/
theorem handle_aloft (aloft : b.books.cargo.Aloft [] answered resumes down) (session : Peer.Session)
    (frame : Wire.Frame) :
    (b.handle session frame).2.books.cargo.Aloft []
      (answered ++ if frame.isAnswer then b.ledger.ticketsOf frame.id else []) resumes down := by
  have resolved : ∀ outcome : Outcome, outcome.isAnswer = true →
      (b.resolve frame.id outcome).2.books.cargo.Aloft []
        (answered ++ b.ledger.ticketsOf frame.id) resumes down := by
    intro outcome answers
    have aloft := resolve_aloft aloft frame.id outcome
    rwa [heardOf, if_pos answers] at aloft
  have quiet : b.books.cargo.Aloft [] (answered ++ []) resumes down := by
    rw [List.append_nil]
    exact aloft
  unfold handle Wire.Frame.isAnswer
  cases kind : frame.kind with
  | ack => exact resolved none rfl
  | nack =>
      dsimp only
      cases reasonOf frame with
      | error e => exact quiet
      | ok reason => exact resolved (some (.rejected reason)) rfl
  | ready =>
      dsimp only
      rw [books_reply]
      exact quiet
  | _ =>
      dsimp only
      cases frame.bodyAs (.ofKind _) with
      | error e => exact quiet
      | ok body =>
          dsimp only
          rw [books_reply, cargo_request]
          exact quiet

/-- A publication in a task of its own is like any other, unless the store holds it up. -/
theorem beginPublish_turn (balanced : b.books.Balanced 0) (tag : String) (p : Store.Message) :
    Turn b.books (b.takersOf (if b.depot.holdsUp then none else some p)) (fun _ => [])
      (b.beginPublish tag p).books := by
  unfold beginPublish
  cases matched : b.matching p.route with
  | nil =>
      have nobody : b.takersOf (if b.depot.holdsUp then none else some p) = fun _ => [] := by
        funext id
        cases b.depot.holdsUp <;> simp [takersOf, takers, matched]
      rw [nobody]
      exact .refl balanced
  | cons k lanes =>
      have some' : b.matching p.route ≠ [] := by
        rw [matched]
        exact List.cons_ne_nil k lanes
      have turn := bring_turn balanced some'
      rw [matched] at turn
      cases b.depot.holdsUp with
      | true => exact .refl balanced
      | false => exact turn

theorem cargo_beginPublish (b : Broker) (tag : String) (p : Store.Message) :
    (b.beginPublish tag p).books.cargo = b.books.cargo := by
  unfold beginPublish
  split
  · rfl
  · split
    · rfl
    · exact cargo_bring b p _

/-- The books when a task comes out of the line. -/
theorem books_pop {task : Task} {rest : List Task} (line : b.tasks = task :: rest) :
    b.books = { Broker.books { b with tasks := rest } with
      sends := task.delivery?.toList ++ (Broker.books { b with tasks := rest }).sends
      concludes := task.ticket?.toList ++ (Broker.books { b with tasks := rest }).concludes
      resumes := task.publication?.toList ++ (Broker.books { b with tasks := rest }).resumes } := by
  simp only [books, line]
  cases task <;> rfl

/-- A delivery that is going to be written comes out of the line with its stake. -/
theorem pop_send_passage (balanced : b.books.Balanced 0) {d : Delivery} {rest : List Task}
    (line : b.tasks = .send d :: rest) :
    Passage b.books 0 0 (Broker.books { b with tasks := rest }) (d.stake ::ₘ 0) := by
  have sends : b.books.sends = d :: (Broker.books { b with tasks := rest }).sends :=
    congrArg Books.sends (books_pop line)
  have popped : Broker.books { b with tasks := rest } = { b.books with
      sends := (Broker.books { b with tasks := rest }).sends
      concludes := (Broker.books { b with tasks := rest }).concludes
      resumes := (Broker.books { b with tasks := rest }).resumes } := rfl
  rw [popped]
  refine .sends balanced ?_ _ _
  rw [sends, List.map_cons, ← Multiset.cons_coe, Multiset.cons_add, Multiset.add_cons]

/-- The delivery that is going to be concluded comes out of the line. -/
theorem pop_conclude_aloft (aloft : b.books.cargo.Aloft [] answered resumes down) {ticket : Nat}
    {rest : List Task} (line : b.tasks = .conclude ticket :: rest) :
    (Broker.books { b with tasks := rest }).cargo.Aloft [ticket] answered resumes down := by
  have popped := books_pop line
  have concludes : b.books.concludes = ticket :: (Broker.books { b with tasks := rest }).concludes :=
    congrArg Books.concludes popped
  have cargo : (Broker.books { b with tasks := rest }).cargo = { b.books.cargo with
      concludes := (Broker.books { b with tasks := rest }).concludes } := by
    rw [popped]
    rfl
  rw [cargo]
  exact aloft.depart concludes

/-- What a task gives to queues when it is performed, and what they settle with it. -/
theorem task_turn (balanced : b.books.Balanced 0) (aloft : b.books.cargo.Aloft [] answered resumes)
    {task : Task} {rest : List Task} (line : b.tasks = task :: rest)
    (other : ∀ p, task ≠ .resume p) :
    Turn b.books (b.fansOut .task) (b.settledBy answered .task)
      (perform { b with tasks := rest } task).books := by
  have popped := books_pop line
  have gains : b.fansOut .task = b.takersOf (b.publication? .task) := rfl
  have losses : b.settledBy answered .task = fun id =>
      match b.tasks with
      | .conclude ticket :: _ => b.settledByEnd answered ticket id
      | .send d :: _ => b.settledByWrite d id
      | _ => [] := rfl
  rw [gains, losses, publication?, line]
  cases task with
  | work k =>
      rw [show b.books = Broker.books { b with tasks := rest } from popped] at balanced ⊢
      exact .ofPassage (work_passage balanced k) fun _ => rfl
  | arm ticket =>
      rw [show b.books = Broker.books { b with tasks := rest } from popped] at balanced ⊢
      dsimp only [perform]
      rw [books_arm]
      exact .refl balanced
  | expire ticket =>
      rw [show b.books = Broker.books { b with tasks := rest } from popped] at balanced ⊢
      exact .ofPassage (expire_passage balanced ticket) fun _ => rfl
  | publish tag p =>
      rw [show b.books = Broker.books { b with tasks := rest } from popped] at balanced ⊢
      exact beginPublish_turn balanced tag p
  | send d =>
      have taken := pop_send_passage balanced line
      have cargo : (Broker.books { b with tasks := rest }).cargo = b.books.cargo := by
        rw [popped]
        rfl
      rw [← cargo] at aloft
      exact .ofPassage (taken.onward (send_passage taken.balanced aloft)) (holders_stakeLost b d)
  | conclude ticket =>
      have taken : Passage b.books 0 0 (Broker.books { b with tasks := rest }) 0 :=
        .transfer balanced (by rw [popped]; rfl) rfl rfl rfl balanced.closed
      have passage := conclude_passage taken.balanced (pop_conclude_aloft aloft line)
        (List.mem_append_right _ List.mem_cons_self)
      exact .ofPassage (taken.onward passage) (holders_stakeGiven b answered ticket)
  | resume p => exact absurd rfl (other p)

/-- What a task does to deliveries on their way. -/
theorem task_aloft (aloft : b.books.cargo.Aloft [] answered resumes down) {task : Task}
    {rest : List Task} (line : b.tasks = task :: rest) (other : ∀ p, task ≠ .resume p) :
    (perform { b with tasks := rest } task).books.cargo.Aloft [] answered resumes down := by
  have popped := books_pop line
  cases task with
  | work k =>
      rw [show b.books = Broker.books { b with tasks := rest } from popped] at aloft
      dsimp only [perform]
      rw [cargo_work]
      exact aloft
  | arm ticket =>
      rw [show b.books = Broker.books { b with tasks := rest } from popped] at aloft
      dsimp only [perform]
      rw [books_arm]
      exact aloft
  | expire ticket =>
      rw [show b.books = Broker.books { b with tasks := rest } from popped] at aloft
      exact expire_aloft aloft ticket
  | publish tag p =>
      rw [show b.books = Broker.books { b with tasks := rest } from popped] at aloft
      dsimp only [perform]
      rw [cargo_beginPublish]
      exact aloft
  | send d =>
      have cargo : (Broker.books { b with tasks := rest }).cargo = b.books.cargo := by
        rw [popped]
        rfl
      rw [← cargo] at aloft
      exact send_aloft aloft
  | conclude ticket =>
      have landed := conclude_aloft (pop_conclude_aloft aloft line)
        (List.mem_append_right _ List.mem_cons_self)
      have ended : [ticket].filter (· ≠ ticket) = [] := by simp
      rwa [ended] at landed
  | resume p => exact absurd rfl (other p)

/-- A publication that the store has let go is resumed with a move. -/
def Resumes (b : Broker) (m : Move) : Prop :=
  m = .task ∧ ∃ p rest, b.tasks = .resume p :: rest

/-- What a move gives to queues, and what they settle with it. -/
theorem move_turn (balanced : b.books.Balanced 0) (aloft : b.books.cargo.Aloft [] answered resumes)
    (m : Move) (other : ¬b.Resumes m) :
    Turn b.books (b.fansOut m) (b.settledBy answered m) (b.apply m).books := by
  cases m with
  | connect id link => exact .ofPassage (connect_passage balanced aloft.tracked id link) fun _ => rfl
  | disconnect id => exact .ofPassage (disconnect_passage balanced id) fun _ => rfl
  | feed id data =>
      have same : (b.apply (.feed id data)).books = b.books := by
        simp only [apply]
        cases b.sessions.get? id <;> rfl
      rw [same]
      exact .refl balanced
  | frame id =>
      simp only [apply]
      have gains : b.fansOut (.frame id) = b.takersOf (b.publication? (.frame id)) := rfl
      have losses : b.settledBy answered (.frame id) =
          b.settledByDeletion (b.deletion? (.frame id)) := rfl
      rw [gains, losses, publication?, deletion?]
      cases found : b.nextFrame? id with
      | none => exact .refl balanced
      | some entry =>
          obtain ⟨session, frame⟩ := entry
          exact handle_turn (b := { b with sessions := b.sessions.insert id session }) balanced
            session frame
  | declare name route => exact .ofPassage (declare_passage balanced name route) fun _ => rfl
  | delete name => exact .ofPassage (delete_passage balanced name) (holders_stakesIn balanced name)
  | subscribe id name ceiling =>
      simp only [apply, books_subscribe]
      exact .refl balanced
  | unsubscribe id name =>
      simp only [apply, books_unsubscribe]
      exact .refl balanced
  | publish p => exact publish_turn balanced p
  | publishLater tag p =>
      have same : (b.apply (.publishLater tag p)).books = b.books := by
        simp only [apply, books_later, Task.delivery?, Task.ticket?, Task.publication?,
          Option.toList_none, List.append_nil]
      rw [same]
      exact .refl balanced
  | recover => exact recover_turn balanced
  | tamper c link => exact .refl balanced
  | task =>
      cases line : b.tasks with
      | nil =>
          have gains : b.fansOut .task = fun _ => [] := by
            funext id
            simp [fansOut, publication?, line, takersOf]
          have losses : b.settledBy answered .task = fun _ => [] := by
            funext id
            simp [settledBy, line]
          rw [gains, losses]
          simp only [apply, line]
          exact .refl balanced
      | cons task rest =>
          have turn := task_turn balanced aloft line fun p same =>
            other ⟨rfl, p, rest, same ▸ line⟩
          simpa only [apply, line] using turn
  | ring =>
      simp only [apply, books_ring]
      exact .refl balanced
  | tick now => exact .refl balanced

/-- What a move does to deliveries on their way. -/
theorem move_aloft (aloft : b.books.cargo.Aloft [] answered resumes down) (m : Move)
    (other : ¬b.Resumes m) :
    (b.apply m).books.cargo.Aloft [] (answered ++ b.answersOf m) resumes down := by
  have quiet : b.books.cargo.Aloft [] (answered ++ []) resumes down := by
    rw [List.append_nil]
    exact aloft
  cases m with
  | connect id link => exact connect_aloft quiet id link
  | disconnect id => exact disconnect_aloft quiet id
  | feed id data =>
      have same : (b.apply (.feed id data)).books = b.books := by
        simp only [apply]
        cases b.sessions.get? id <;> rfl
      rw [same]
      exact quiet
  | frame id =>
      simp only [apply, answersOf]
      cases found : b.nextFrame? id with
      | none => exact quiet
      | some entry =>
          obtain ⟨session, frame⟩ := entry
          exact handle_aloft (b := { b with sessions := b.sessions.insert id session }) aloft
            session frame
  | declare name route =>
      simp only [apply, answersOf, cargo_declare]
      exact quiet
  | delete name =>
      simp only [apply, answersOf, cargo_delete]
      exact quiet
  | subscribe id name ceiling =>
      simp only [apply, answersOf, books_subscribe]
      exact quiet
  | unsubscribe id name =>
      simp only [apply, answersOf, books_unsubscribe]
      exact quiet
  | publish p =>
      simp only [apply, answersOf, cargo_publish]
      exact quiet
  | publishLater tag p =>
      have same : (b.apply (.publishLater tag p)).books = b.books := by
        simp only [apply, books_later, Task.delivery?, Task.ticket?, Task.publication?,
          Option.toList_none, List.append_nil]
      rw [same]
      exact quiet
  | recover =>
      simp only [apply, answersOf, cargo_recover]
      exact quiet
  | tamper c link => exact quiet
  | task =>
      simp only [apply, answersOf, List.append_nil]
      cases line : b.tasks with
      | nil => exact aloft
      | cons task rest =>
          exact task_aloft aloft line fun p same => other ⟨rfl, p, rest, same ▸ line⟩
  | ring =>
      simp only [apply, answersOf, books_ring]
      exact quiet
  | tick now => exact quiet

/-- Nothing is resumed as long as the store lets nothing go. -/
theorem not_resumes (aloft : b.books.cargo.Aloft [] answered) (m : Move) : ¬b.Resumes m := by
  rintro ⟨-, p, rest, line⟩
  have free : b.books.resumes = [] := aloft.resumed
  rw [books_pop line] at free
  exact absurd free (List.cons_ne_nil p _)

theorem apply_turn (order : b.InOrder answered) (m : Move) :
    Turn b.books (b.fansOut m) (b.settledBy answered m) (b.apply m).books ∧
      (b.apply m).books.cargo.Aloft [] (answered ++ b.answersOf m) :=
  ⟨move_turn order.balanced order.aloft m (not_resumes order.aloft m),
    move_aloft order.aloft m (not_resumes order.aloft m)⟩

/-! ## Runs -/

/-- The tickets of the deliveries that peers answer with several moves, in this order. -/
def heard (b : Broker) : List Move → List Nat
  | [] => []
  | m :: moves => b.answersOf m ++ (b.apply m).heard moves

/-- The queues that get a message with several moves, in this order. -/
def arrivals (b : Broker) (id : CorrelationId) : List Move → List Nat
  | [] => []
  | m :: moves => b.fansOut m id ++ (b.apply m).arrivals id moves

/-- The queues that settle a message with several moves, in this order, if peers have answered
certain tickets before. -/
def settlements (b : Broker) (answered : List Nat) (id : CorrelationId) : List Move → List Nat
  | [] => []
  | m :: moves =>
    b.settledBy answered m id ++ (b.apply m).settlements (answered ++ b.answersOf m) id moves

theorem settlements_append (b : Broker) (answered : List Nat) (id : CorrelationId)
    (moves more : List Move) :
    b.settlements answered id (moves ++ more) = b.settlements answered id moves ++
      (b.after moves).settlements (answered ++ b.heard moves) id more := by
  induction moves generalizing b answered with
  | nil => rw [heard, List.append_nil]; rfl
  | cons m moves ih =>
      rw [List.cons_append, settlements, ih, settlements, heard, List.append_assoc,
        List.append_assoc]
      rfl

/-- When a broker starts nothing is on its way. -/
theorem start_aloft {settings : Settings.Engine} {mint : Nat → CorrelationId} {calendar : Nat}
    {depot : Store.Depot} (started : Broker.new? settings mint calendar depot = some b) :
    b.books.cargo.Aloft [] [] := by
  unfold new? at started
  split at started
  · obtain ⟨buffers, -, rfl⟩ := Option.map_eq_some_iff.1 started
    refine ⟨Ledger.sound_empty, List.nodup_nil, ?_, ?_, ?_, ?_, ?_, rfl, rfl⟩
    all_goals
      intro n listed
      exact absurd listed List.not_mem_nil
  · cases started

/-- When nothing is left in the line, all deliveries on their way wait for an outcome. -/
theorem waits_of_done (aloft : b.books.cargo.Aloft [] answered resumes down) (done : b.tasks = [])
    {ticket : Nat} (flown : ticket ∈ b.flights.keys) : b.ledger.isWaiting ticket = true := by
  by_contra ended
  have due := aloft.due ticket flown (Bool.not_eq_true _ ▸ ended)
  have none' : b.books.concludes = [] := by rw [books, done]; rfl
  rw [show b.books.cargo.concludes = [] from none'] at due
  exact absurd due List.not_mem_nil

namespace InOrder

/-- A broker is in order when it starts, whatever its store holds. -/
theorem start {settings : Settings.Engine} {mint : Nat → CorrelationId} {calendar : Nat}
    {messages : Store.Messages}
    (started : Broker.new? settings mint calendar (.holding messages) = some b) :
    b.InOrder [] := by
  refine ⟨?_, start_aloft started⟩
  unfold new? at started
  split at started
  · obtain ⟨buffers, -, rfl⟩ := Option.map_eq_some_iff.1 started
    refine ⟨Multiset.nodup_zero, ?_, ?_, ?_, ?_⟩
    · intro id
      rfl
    · intro id held
      exact absurd rfl held
    · intro shelf listed
      exact absurd listed List.not_mem_nil
    · intro call
      rfl
  · cases started

theorem apply (order : b.InOrder answered) (m : Move) :
    (b.apply m).InOrder (answered ++ b.answersOf m) :=
  ⟨(apply_turn order m).1.balanced, (apply_turn order m).2⟩

/-- A broker stays in order. -/
theorem after (order : b.InOrder answered) (moves : List Move) :
    (b.after moves).InOrder (answered ++ b.heard moves) := by
  induction moves generalizing b answered with
  | nil =>
      rw [heard, List.append_nil]
      exact order
  | cons m moves ih =>
      rw [heard, ← List.append_assoc]
      exact ih (order.apply m)

theorem waits_of_rest (order : b.InOrder answered) (rest : b.tasks = []) {ticket : Nat}
    (flown : ticket ∈ b.flights.keys) : b.ledger.isWaiting ticket = true :=
  waits_of_done order.aloft rest flown

/-- When nothing is left in the line, none of the deliveries on their way is answered. -/
theorem unanswered_of_rest (order : b.InOrder answered) (rest : b.tasks = []) {ticket : Nat}
    (heard : ticket ∈ answered) : b.flights.get? ticket = none := by
  by_contra some'
  obtain ⟨d, found⟩ := Option.ne_none_iff_exists'.1 some'
  have flown : ticket ∈ b.flights.keys := Table.mem_keys.2 ⟨d, found⟩
  obtain ⟨p, waits, rfl⟩ := Ledger.isWaiting_iff.1 (order.waits_of_rest rest flown)
  exact order.aloft.unanswered waits flown heard

end InOrder

end Broker

end MessageBroker
