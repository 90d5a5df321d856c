import MessageBroker.Proofs.Broker.Settlement

/-!
# Answered deliveries

A delivery stays on its way until the task that concludes it is performed; nothing else that happens
takes it back. One that its peer has answered is therefore settled by its queue as soon as nothing is
left in the line, whatever comes between the answer and its conclusion.
-/

namespace MessageBroker

open Books

theorem Ledger.setUp_fst (l : Ledger) (id : CorrelationId) (awaitsPeer : Bool) :
    (l.setUp id awaitsPeer).1 = l.issued := by
  unfold setUp resolve
  split <;> rfl

namespace Broker

variable {b : Broker} {answered : List Nat} {ticket : Nat} {d : Delivery}

/-! ## What leaves deliveries on their way -/

theorem flights_resolve (b : Broker) (id : CorrelationId) (outcome : Outcome) :
    (b.resolve id outcome).2.flights = b.flights :=
  congrArg Books.flights (b.books_resolve id outcome)

theorem issued_resolve (b : Broker) (id : CorrelationId) (outcome : Outcome) :
    (b.resolve id outcome).2.ledger.issued = b.ledger.issued := by
  unfold resolve
  split <;> rfl

theorem flights_greet (b : Broker) (c : Nat) : (b.greet c).flights = b.flights := by
  have resolved := flights_resolve b.mintId.2 b.mintId.1 (some .cancelled)
  unfold greet
  dsimp only
  generalize (b.mintId.2.resolve b.mintId.1 (some .cancelled)).2 = b' at *
  generalize b'.ledger.setUp b.mintId.1 false = entry
  have written := congrArg Books.flights
    (books_write { b' with ledger := entry.2 } c (.ready b.mintId.1))
  generalize write { b' with ledger := entry.2 } c (.ready b.mintId.1) = answer at *
  obtain ⟨failure, b''⟩ := answer
  cases failure <;> exact written.trans resolved

theorem flights_connect (b : Broker) (id : String) (link : Peer.Link) :
    (b.connect id link).2.flights = b.flights := by
  unfold connect
  dsimp only
  split
  · rfl
  · exact flights_greet _ _

theorem flights_disconnect (b : Broker) (id : String) : (b.disconnect id).flights = b.flights := by
  have struck : ∀ (names : List String) (b : Broker),
      (names.foldl (fun b name => b.strike id name) b).flights = b.flights := by
    intro names
    induction names with
    | nil => exact fun _ => rfl
    | cons name names ih =>
        exact fun b => (ih _).trans (congrArg Books.flights (b.books_strike id name))
  have resolved : ∀ (ids : List CorrelationId) (b : Broker),
      (ids.foldl (fun b id => (b.resolve id (some .sendFailed)).2) b).flights = b.flights := by
    intro ids
    induction ids with
    | nil => exact fun _ => rfl
    | cons id ids ih => exact fun b => (ih _).trans (flights_resolve b id _)
  unfold disconnect
  cases b.sessions.get? id with
  | none => rfl
  | some session => exact (resolved _ _).trans (struck session.subscriptions _)

theorem flights_handle (b : Broker) (session : Peer.Session) (frame : Wire.Frame) :
    (b.handle session frame).2.flights = b.flights := by
  have replied : ∀ (b : Broker) (result : Except RequestError Unit),
      (b.reply session.client frame.id result).flights = b.flights :=
    fun b result => congrArg Books.flights (b.books_reply _ _ result)
  unfold handle
  split
  · exact b.flights_resolve _ _
  · split
    · rfl
    · exact b.flights_resolve _ _
  · exact replied b _
  · split
    · rfl
    · exact (replied _ _).trans (congrArg Cargo.flights (b.cargo_request _ _ _))

theorem flights_frame (b : Broker) (id : String) : (b.apply (.frame id)).flights = b.flights := by
  simp only [apply]
  split
  · rfl
  · exact flights_handle _ _ _

/-- To conclude a delivery leaves the others on their way. -/
theorem get?_flights_conclude (b : Broker) {n : Nat} (other : ticket ≠ n) :
    (b.conclude n).flights.get? ticket = b.flights.get? ticket := by
  unfold conclude
  split
  · rfl
  · split
    · rfl
    · rename_i d _ _ outcome ledger _
      have followed := congrArg Cargo.flights (cargo_follow (Broker.openGate (modifyClient { b with
        ledger, flights := b.flights.erase n } d.client fun client => (client.untrack d.id).2.release)
          d.lane) d outcome)
      rw [books_openGate] at followed
      refine (congrArg (Table.get? · ticket) followed).trans ?_
      exact (Table.get?_erase _ _ _).trans (if_neg other)

/-- So does to track another one. -/
theorem get?_flights_launch (b : Broker) (d : Delivery) (given : ticket < b.ledger.issued) :
    (b.launch d).2.flights.get? ticket = b.flights.get? ticket := by
  have other : ticket ≠ (b.ledger.setUp d.id true).1 := by
    rw [Ledger.setUp_fst]
    exact Nat.ne_of_lt given
  exact (Table.get?_insert _ _ _ _).trans (if_neg other)

/-- So does to write another one. -/
theorem get?_flights_dispatch (b : Broker) (d : Delivery) {n : Nat} (other : ticket ≠ n) :
    (b.dispatch d n).flights.get? ticket = b.flights.get? ticket := by
  have written := congrArg Books.flights (books_write b d.client d.frame)
  unfold dispatch
  generalize b.write d.client d.frame = answer at written ⊢
  obtain ⟨failure, b'⟩ := answer
  have same := congrArg (Table.get? · ticket) written
  cases failure with
  | none => exact same
  | some e => exact (get?_flights_conclude _ other).trans same

/-- A delivery that is sent has a new ticket. -/
theorem get?_flights_send (b : Broker) (d : Delivery) (given : ticket < b.ledger.issued) :
    (b.send d).flights.get? ticket = b.flights.get? ticket := by
  rw [← issued_resolve b d.id (some .cancelled)] at given
  rw [← flights_resolve b d.id (some .cancelled)]
  have other : ticket ≠ ((b.resolve d.id (some .cancelled)).2.launch d).1 := by
    unfold launch
    rw [Ledger.setUp_fst]
    exact Nat.ne_of_lt given
  exact (get?_flights_dispatch _ d other).trans (get?_flights_launch _ d given)

/-- A task either leaves an answered delivery on its way or lets its queue settle the message. -/
theorem flown_or_settled_of_task (order : b.InOrder answered)
    (flown : b.flights.get? ticket = some d) (heard : ticket ∈ answered) {task : Task}
    {rest : List Task} (line : b.tasks = task :: rest) :
    (perform { b with tasks := rest } task).flights.get? ticket = some d ∨
      d.lane ∈ b.settledBy answered .task d.message := by
  have kept : ∀ b' : Broker, b'.flights.get? ticket = b.flights.get? ticket →
      b'.flights.get? ticket = some d := fun b' same => same.trans flown
  have given : ticket < b.ledger.issued :=
    order.aloft.issued ticket (Table.mem_keys.2 ⟨d, flown⟩)
  cases task with
  | work k =>
      exact .inl (kept _ (congrArg (fun c : Cargo => c.flights.get? ticket) (cargo_work _ k)))
  | send other => exact .inl (kept _ (get?_flights_send { b with tasks := rest } other given))
  | arm n => exact .inl (kept _ (congrArg (fun s : Books => s.flights.get? ticket) (books_arm _ n)))
  | expire n =>
      exact .inl (kept _ (congrArg (fun s : Books => s.flights.get? ticket) (books_expire _ n)))
  | conclude n =>
      by_cases same : ticket = n
      · refine .inr ?_
        simp only [settledBy, line, settledByEnd, ← same, flown]
        rw [if_pos ⟨trivial, .inl heard⟩]
        exact List.mem_cons_self
      · exact .inl (kept _ (get?_flights_conclude _ same))
  | publish tag p =>
      refine .inl (kept _ ?_)
      simp only [perform, beginPublish]
      split
      · rfl
      · split
        · rfl
        · exact congrArg (fun c : Cargo => c.flights.get? ticket) (cargo_bring _ p _)
  | resume p =>
      exact .inl (kept _ (congrArg (fun c : Cargo => c.flights.get? ticket) (cargo_bring _ _ _)))

/-- A delivery that its peer has answered stays on its way until its queue settles the message. -/
theorem flown_or_settled (order : b.InOrder answered) (flown : b.flights.get? ticket = some d)
    (heard : ticket ∈ answered) (m : Move) :
    (b.apply m).flights.get? ticket = some d ∨ d.lane ∈ b.settledBy answered m d.message := by
  have kept : ∀ b' : Broker, b'.flights = b.flights → b'.flights.get? ticket = some d := by
    intro b' same
    rw [same]
    exact flown
  cases m with
  | connect id link => exact .inl (kept _ (b.flights_connect id link))
  | disconnect id => exact .inl (kept _ (b.flights_disconnect id))
  | feed id data =>
      refine .inl (kept _ ?_)
      simp only [apply]
      split <;> rfl
  | frame id => exact .inl (kept _ (b.flights_frame id))
  | declare name route => exact .inl (kept _ (congrArg Cargo.flights (b.cargo_declare name route)))
  | delete name => exact .inl (kept _ (congrArg Cargo.flights (b.cargo_delete name)))
  | subscribe id name ceiling =>
      exact .inl (kept _ (congrArg Books.flights (b.books_subscribe id name ceiling)))
  | unsubscribe id name => exact .inl (kept _ (congrArg Books.flights (b.books_unsubscribe id name)))
  | publish p => exact .inl (kept _ (congrArg Cargo.flights (b.cargo_publish p)))
  | publishLater tag p => exact .inl flown
  | recover => exact .inl (kept _ (congrArg Cargo.flights b.cargo_recover))
  | tamper c link => exact .inl flown
  | task =>
      simp only [apply]
      cases line : b.tasks with
      | nil => exact .inl flown
      | cons task rest =>
          exact flown_or_settled_of_task order flown heard line
  | ring => exact .inl (kept _ (congrArg Books.flights b.books_ring))
  | tick now => exact .inl flown

/-- A queue whose delivery was answered has settled the message when nothing is left in the line. -/
theorem answered_settles (order : b.InOrder answered) (flown : b.flights.get? ticket = some d)
    (heard : ticket ∈ answered) (moves : List Move) (rest : (b.after moves).tasks = []) :
    d.lane ∈ b.settlements answered d.message moves := by
  induction moves generalizing b answered with
  | nil =>
      rw [order.unanswered_of_rest rest heard] at flown
      exact absurd flown (Option.some_ne_none d).symm
  | cons m moves ih =>
      rw [settlements, List.mem_append]
      rcases flown_or_settled order flown heard m with flies | settles
      · exact .inr (ih (order.apply m) flies (List.mem_append_left _ heard) rest)
      · exact .inl settles

/-- A peer answers, with a move, a delivery of a message that was taken from a queue. -/
def isAnswered (b : Broker) (m : Move) (k : Nat) (id : CorrelationId) : Prop :=
  ∃ ticket ∈ b.answersOf m, ∃ d, b.flights.get? ticket = some d ∧ d.lane = k ∧ d.message = id

/-- A queue whose delivery is answered on the way has settled the message at rest. -/
theorem settles_of_isAnswered (order : b.InOrder answered) {earlier later : List Move} {m : Move}
    {k : Nat} {id : CorrelationId} (answers : (b.after earlier).isAnswered m k id)
    (rest : (b.after (earlier ++ m :: later)).tasks = []) :
    k ∈ b.settlements answered id (earlier ++ m :: later) := by
  obtain ⟨ticket, heard, d, flown, rfl, rfl⟩ := answers
  have order' := order.after earlier
  rw [after_append] at rest
  rw [settlements_append, settlements]
  generalize b.after earlier = b' at *
  have flies : (b'.apply m).flights.get? ticket = some d := by
    cases m with
    | frame id =>
        rw [flights_frame]
        exact flown
    | _ => exact absurd heard List.not_mem_nil
  have settles := answered_settles (order'.apply m) flies (List.mem_append_right _ heard) later rest
  exact List.mem_append_right _ (List.mem_append_right _ settles)

end Broker

end MessageBroker
