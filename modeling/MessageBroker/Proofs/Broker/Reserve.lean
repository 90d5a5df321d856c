import MessageBroker.Proofs.Broker.Desk
import MessageBroker.Proofs.Broker.Moves

/-!
# What a desk has in reserve

The ids that a broker makes up, the deliveries that it is going to write and the publications that its
store holds up are touched by few operations: a connection that begins takes a new id, a worker that
sends a message off takes one for its delivery, and a publication that begins may be held up.
-/

namespace MessageBroker

/-- The ids that are made up, in the order of use, how many of them have been used, the deliveries
that are going to be written, and the publications that are held up. -/
structure Reserve where
  mint : Nat → CorrelationId
  minted : Nat
  sends : List Delivery
  heldUp : List Publication

/-- What a desk has in reserve. -/
def Desk.reserve (d : Desk) : Reserve :=
  ⟨d.mint, d.minted, d.sends, d.heldUp⟩

namespace Broker

/-- What a broker has in reserve. -/
def reserve (b : Broker) : Reserve :=
  b.desk.reserve

variable {b b' : Broker}

/-! ## Operations that touch nothing of it -/

theorem reserve_of_desk (same : b'.desk = b.desk) : b'.reserve = b.reserve :=
  congrArg Desk.reserve same

theorem reserve_resolve (b : Broker) (id : CorrelationId) (outcome : Outcome) :
    (b.resolve id outcome).2.reserve = b.reserve :=
  (congrArg Desk.reserve (b.desk_resolve id outcome)).trans rfl

theorem reserve_write (b : Broker) (c : Nat) (frame : Wire.Frame) :
    (b.write c frame).2.reserve = b.reserve :=
  (congrArg Desk.reserve (b.desk_write c frame)).trans rfl

theorem reserve_strike (b : Broker) (id name : String) : (b.strike id name).reserve = b.reserve := by
  refine (congrArg Desk.reserve (b.desk_strike id name)).trans ?_
  cases b.lane? name <;> rfl

theorem reserve_delete (b : Broker) (name : String) : (b.delete name).2.reserve = b.reserve := by
  refine (congrArg Desk.reserve (b.desk_delete name)).trans ?_
  cases b.lane? name <;> rfl

theorem reserve_declare (b : Broker) (name route : String) :
    (b.declare name route).2.reserve = b.reserve := by
  rcases b.desk_declare name route with same | ⟨-, link', same⟩ <;> exact (congrArg Desk.reserve same).trans rfl

theorem reserve_subscribe (b : Broker) (id name : String) (ceiling : Option Nat) :
    (b.subscribe id name ceiling).2.reserve = b.reserve := by
  have capped : ∀ c, (b.desk.recap c ceiling).reserve = b.reserve := by
    intro c
    cases ceiling <;> rfl
  rcases b.desk_subscribe id name ceiling with ⟨-, same⟩ |
    ⟨session, _, _, -, -, ⟨-, same⟩ | ⟨-, same⟩⟩
  · exact reserve_of_desk same
  all_goals exact (congrArg Desk.reserve same).trans (capped session.client)

theorem reserve_unsubscribe (b : Broker) (id name : String) :
    (b.unsubscribe id name).2.reserve = b.reserve := by
  rcases b.desk_unsubscribe id name with ⟨-, same⟩ | ⟨session, -, -, same⟩
  · exact reserve_of_desk same
  · refine (congrArg Desk.reserve same).trans ?_
    exact reserve_strike { b with sessions := b.sessions.insert id (session.unsubscribe name).2 } id name

theorem reserve_disconnect (b : Broker) (id : String) : (b.disconnect id).reserve = b.reserve := by
  have struck : ∀ (names : List String) (b : Broker),
      (names.foldl (fun b name => b.strike id name) b).reserve = b.reserve := by
    intro names
    induction names with
    | nil => exact fun _ => rfl
    | cons name names ih => exact fun b => (ih _).trans (b.reserve_strike id name)
  rcases b.desk_disconnect id with same | ⟨session, -, same⟩
  · exact reserve_of_desk same
  · exact (congrArg Desk.reserve same).trans
      (struck session.subscriptions { b with sessions := b.sessions.erase id })

theorem reserve_request (b : Broker) (connection : String) (id : CorrelationId) (body : Wire.Body) :
    (b.request connection id body).2.reserve = b.reserve := by
  cases body with
  | message route payload => exact reserve_of_desk (b.desk_publish _)
  | subscribe queue ceiling => exact b.reserve_subscribe _ _ _
  | unsubscribe queue => exact b.reserve_unsubscribe _ _
  | declare name route => exact b.reserve_declare _ _
  | delete name => exact b.reserve_delete _
  | nack reason => rfl

theorem reserve_handle (b : Broker) (session : Peer.Session) (frame : Wire.Frame) :
    (b.handle session frame).2.reserve = b.reserve := by
  have replied : ∀ (b : Broker) (result : Except RequestError Unit),
      (b.reply session.client frame.id result).reserve = b.reserve := by
    intro b result
    cases result <;> exact b.reserve_write session.client _
  unfold handle
  split
  · exact b.reserve_resolve _ _
  · split
    · rfl
    · exact b.reserve_resolve _ _
  · exact replied b _
  · split
    · rfl
    · exact (replied _ _).trans (b.reserve_request _ _ _)

theorem reserve_conclude (b : Broker) (ticket : Nat) : (b.conclude ticket).reserve = b.reserve := by
  rcases b.desk_conclude ticket with same | ⟨_, _, -, -, same⟩ <;> exact (congrArg Desk.reserve same).trans rfl

theorem reserve_send (b : Broker) (d : Delivery) : (b.send d).reserve = b.reserve := by
  have dispatched : ∀ (b : Broker) (ticket : Nat), (b.dispatch d ticket).reserve = b.reserve := by
    intro b ticket
    have written := b.reserve_write d.client d.frame
    unfold dispatch
    split <;> rename_i b' went <;> rw [went] at written
    · exact written
    · exact (reserve_conclude { b' with ledger := (b'.ledger.unwritten d.id).2 } ticket).trans written
  rw [send_eq, dispatched]
  exact (congrArg Desk.reserve (desk_launch _ d)).trans (b.reserve_resolve _ _)

theorem reserve_shutDown (b : Broker) : b.shutDown.reserve = b.reserve :=
  shutDown_induction (P := fun b' => b'.reserve = b.reserve) rfl
    (fun {b'} k same => (congrArg Desk.reserve (b'.desk_closeLane k)).trans same)
    (fun {b'} id same => (b'.reserve_resolve id (some .cancelled)).trans same)
    (fun _ same => same)

/-! ## Moves -/

/-- A publication begins with the queues that match, and the store holds it up. -/
structure Begins (b : Broker) (task : Task) (p : Publication) : Prop where
  task : task = .publish p.tag p.message
  lanes : p.lanes = b.matching p.message.route
  some : p.lanes ≠ []

/-- A worker has taken a slot of a subscriber of its queue that had one free, for a delivery under a
new id. -/
structure Takes (b : Broker) (task : Task) (x : Delivery) : Prop where
  task : task = .work x.lane
  room : b.hasRoom x.client = true
  id : x.id = b.mint b.minted

/-- A task starts a delivery of a stored message, begins a publication that is held up, or does
neither. -/
theorem reserve_perform (b : Broker) (task : Task) :
    (b.perform task).reserve = b.reserve ∨
      (∃ x, b.Takes task x ∧ (∃ stored, b.depot.messages.get? x.message = some stored) ∧
        (b.perform task).reserve =
          { b.reserve with minted := b.minted + 1, sends := b.desk.sends ++ [x] }) ∨
      ∃ p, b.Begins task p ∧
        (b.perform task).reserve = { b.reserve with heldUp := b.heldUp ++ [p] } := by
  cases task with
  | work k =>
      rcases b.desk_work k with idle | ⟨_, _, _, stored, -, -, -, room, fetched, went⟩
      · exact .inl (reserve_of_desk idle)
      · exact .inr (.inl ⟨_, ⟨rfl, room, rfl⟩, ⟨stored, fetched⟩, congrArg Desk.reserve went⟩)
  | send d => exact .inl (b.reserve_send d)
  | arm ticket => exact .inl (reserve_of_desk (b.desk_arm ticket))
  | expire ticket => exact .inl ((congrArg Desk.reserve (b.desk_expire ticket)).trans rfl)
  | conclude ticket => exact .inl (b.reserve_conclude ticket)
  | resume p => exact .inl (reserve_of_desk (b.desk_resumePublish p))
  | publish tag m =>
      rcases b.desk_beginPublish tag m with idle | ⟨some', held⟩
      · exact .inl (reserve_of_desk idle)
      · exact .inr (.inr ⟨⟨tag, m, b.matching m.route⟩, ⟨rfl, rfl, some'⟩, congrArg Desk.reserve held⟩)

/-- A move takes an id to greet a connection, performs a task, or touches nothing of the reserve. -/
theorem reserve_apply (b : Broker) (m : Move) :
    (b.apply m).reserve = b.reserve ∨
      (b.apply m).reserve = { b.reserve with minted := b.minted + 1 } ∨
      m = .task ∧ ∃ task rest, b.tasks = task :: rest ∧
        b.apply m = { b with tasks := rest }.perform task := by
  cases m with
  | connect id link =>
      rcases b.desk_connect id link with same | ⟨-, link', same⟩
      · exact .inl (reserve_of_desk same)
      · exact .inr (.inl (congrArg Desk.reserve same))
  | disconnect id => exact .inl (b.reserve_disconnect id)
  | feed id data =>
      left
      simp only [apply]
      split <;> rfl
  | frame id =>
      left
      simp only [apply]
      split
      · rfl
      · rename_i session frame _
        exact reserve_handle { b with sessions := b.sessions.insert id session } session frame
  | declare name route => exact .inl (b.reserve_declare name route)
  | delete name => exact .inl (b.reserve_delete name)
  | subscribe id name ceiling => exact .inl (b.reserve_subscribe id name ceiling)
  | unsubscribe id name => exact .inl (b.reserve_unsubscribe id name)
  | publish m => exact .inl (reserve_of_desk (b.desk_publish m))
  | publishLater tag m => exact .inl (reserve_of_desk (b.desk_later_of_other rfl))
  | recover => exact .inl (reserve_of_desk b.desk_recover)
  | tamper c link => exact .inl rfl
  | task =>
      cases line : b.tasks with
      | nil =>
          have idle : b.apply .task = b := by simp only [apply, line]
          rw [idle]
          exact .inl rfl
      | cons task rest =>
          exact .inr (.inr ⟨rfl, task, rest, rfl, by simp only [apply, line]⟩)
  | ring => exact .inl (reserve_of_desk b.desk_ring)
  | tick now => exact .inl rfl

/-- When a task comes out of the line, only a delivery that it is going to write leaves the desk. -/
theorem desk_pop {task : Task} {rest : List Task} (line : b.tasks = task :: rest) :
    b.desk = { Broker.desk { b with tasks := rest } with
      sends := task.delivery?.toList ++ (Broker.desk { b with tasks := rest }).sends } := by
  simp only [desk, line]
  cases task <;> rfl

/-- Only a task that begins a publication adds to what is held up. -/
theorem heldUp_apply (b : Broker) (m : Move) : ∀ p ∈ (b.apply m).heldUp,
    p ∈ b.heldUp ∨ m = .task ∧ ∃ task ∈ b.tasks.head?, b.Begins task p := by
  intro p listed
  have same : (b.apply m).heldUp = b.heldUp → p ∈ b.heldUp := fun kept => kept ▸ listed
  rcases b.reserve_apply m with kept | took | ⟨which, task, rest, line, performed⟩
  · exact .inl (same (congrArg Reserve.heldUp kept))
  · exact .inl (same (congrArg Reserve.heldUp took))
  · rw [performed] at same listed
    rcases reserve_perform { b with tasks := rest } task with kept | ⟨x, -, -, took⟩ | ⟨q, begins, held⟩
    · exact .inl (same (congrArg Reserve.heldUp kept))
    · exact .inl (same (congrArg Reserve.heldUp took))
    · rw [show (perform { b with tasks := rest } task).heldUp = b.heldUp ++ [q] from
        congrArg Reserve.heldUp held, List.mem_append, List.mem_singleton] at listed
      rcases listed with before | rfl
      · exact .inl before
      · exact .inr ⟨which, task, by rw [line]; rfl, begins.task, begins.lanes, begins.some⟩

end Broker

end MessageBroker
