import MessageBroker.Proofs.Broker.Flights
import MessageBroker.Proofs.Broker.Passages

/-!
# What becomes of deliveries

A delivery that is written keeps its stake until it has an outcome. When it is concluded the stake is
given up if the peer had the last word or the queue is closed, and goes back to the queue otherwise.
-/

namespace MessageBroker

open Books Cargo

namespace Ledger

variable {l : Ledger}

/-- The ticket of the send that waits under an id, if one does. -/
def ticketsOf (l : Ledger) (id : CorrelationId) : List Nat :=
  (l.find? id).toList.map Tracked.ticket

/-- A ticket that does not wait has an outcome to be collected. -/
theorem reading_of_ended {ticket : Nat} (ended : l.isWaiting ticket = false) :
    ∃ outcome, l.reading ticket = some outcome := by
  rw [reading_eq, ended]
  cases l.outcomes.get? ticket with
  | some outcome => exact ⟨outcome, rfl⟩
  | none => exact ⟨_, rfl⟩

/-- To let a send run out of time settles it, if it waits. -/
theorem expire_settles (sound : l.Sound) (ticket : Nat) :
    Settles l (fun p => if p.ticket = ticket then some (some .timedOut) else none)
      (l.expire ticket) := by
  unfold expire
  cases found : l.pending.find? fun t => t.ticket = ticket with
  | none =>
      refine (Settles.refl sound).congr ?_
      intro p waits
      have other := List.find?_eq_none.1 found p waits
      rw [if_neg (by simpa using other)]
  | some q =>
      have waits := List.mem_of_find?_eq_some found
      have same : q.ticket = ticket := by simpa using List.find?_some found
      refine (settle_settles sound waits _).congr ?_
      intro p waits'
      by_cases h : p = q
      · rw [if_pos h, if_pos (h ▸ same)]
      · rw [if_neg h, if_neg fun h' => h (sound.eq_of_ticket waits' waits (h'.trans same.symm))]

theorem setUp_of_unused {id : CorrelationId} (unused : ∀ p ∈ l.pending, p.id ≠ id)
    (awaitsPeer : Bool) :
    l.setUp id awaitsPeer =
      (l.issued,
        { l with
          pending := l.pending ++ [⟨id, l.issued, awaitsPeer⟩]
          issued := l.issued + 1 }) := by
  have missing : l.find? id = none := by simpa [find?] using unused
  simp only [setUp, resolve, missing]

/-- A write leaves a send that waits for its peer as it is. -/
theorem written_of_awaitsPeer (sound : l.Sound) {p : Tracked} (waits : p ∈ l.pending)
    (awaits : p.awaitsPeer = true) : (l.written p.id).2 = l := by
  rw [written, sound.find?_eq waits]
  simp [awaits]

end Ledger

namespace Broker

variable {b : Broker} {loose : Multiset Stake} {landing answered : List Nat}
  {resumes : List Publication} {down : Bool}

theorem books_resolve (b : Broker) (id : CorrelationId) (outcome : Outcome) :
    (b.resolve id outcome).2.books =
      { b.books with
        ledger := (b.ledger.resolve id outcome).2
        concludes := b.books.concludes ++ b.ledger.ticketsOf id } := by
  unfold resolve Ledger.resolve Ledger.ticketsOf
  cases b.ledger.find? id with
  | none => simp [books]
  | some t =>
      dsimp only
      rw [books_later, books_dropAlarm]
      simp [books, Task.delivery?, Task.ticket?, Task.publication?]

theorem books_expire (b : Broker) (ticket : Nat) :
    (b.expire ticket).books =
      { b.books with
        ledger := b.ledger.expire ticket
        concludes := b.books.concludes ++ if b.ledger.isWaiting ticket then [ticket] else [] } := by
  unfold expire
  cases waiting : b.ledger.isWaiting ticket with
  | true =>
      rw [if_pos rfl, books_later]
      simp [books, Task.delivery?, Task.ticket?, Task.publication?]
  | false =>
      have nothing : b.ledger.expire ticket = b.ledger := by
        have missing : b.ledger.pending.find? (fun t => t.ticket = ticket) = none := by
          simpa [Ledger.isWaiting] using waiting
        rw [Ledger.expire, missing]
      simp [nothing, books]

theorem resolve_passage (balanced : b.books.Balanced loose) (id : CorrelationId)
    (outcome : Outcome) :
    Passage b.books loose 0 (b.resolve id outcome).2.books loose := by
  rw [books_resolve]
  exact .flights balanced rfl _ _

/-- The tickets that an outcome of an id answers. -/
def heardOf (b : Broker) (id : CorrelationId) (outcome : Outcome) : List Nat :=
  if outcome.isAnswer then b.ledger.ticketsOf id else []

theorem resolve_aloft (aloft : b.books.cargo.Aloft landing answered resumes down) (id : CorrelationId)
    (outcome : Outcome) :
    (b.resolve id outcome).2.books.cargo.Aloft landing (answered ++ b.heardOf id outcome)
      resumes down := by
  have settles := Ledger.resolve_settles aloft.tracked id outcome
  have ours : ∀ p ∈ b.ledger.pending, p.ticket ∈ b.ledger.ticketsOf id ↔ p.id = id := by
    intro p waits
    rw [Ledger.ticketsOf, List.mem_map]
    constructor
    · rintro ⟨q, found, same⟩
      obtain ⟨waits', id'⟩ := Ledger.mem_of_find? (Option.mem_toList.1 found)
      rwa [← aloft.tracked.eq_of_ticket waits' waits same]
    · rintro rfl
      exact ⟨p, Option.mem_toList.2 (aloft.tracked.find?_eq waits), rfl⟩
  have waited : ∀ n ∈ b.ledger.ticketsOf id, ∃ p ∈ b.ledger.pending, p.ticket = n ∧ p.id = id := by
    intro n listed
    obtain ⟨p, found, rfl⟩ := List.mem_map.1 listed
    obtain ⟨waits, same⟩ := Ledger.mem_of_find? (Option.mem_toList.1 found)
    exact ⟨p, waits, rfl, same⟩
  rw [books_resolve]
  refine aloft.settle settles _ _ _ ?_ ?_ ?_ ?_ ?_
  · intro n lands
    exact List.mem_append_right _ lands
  · intro n listed
    rcases List.mem_append.1 listed with settled | lands
    · obtain ⟨p, waits, ticket, same⟩ := waited n settled
      exact .inr ⟨p, waits, ticket, by simp [same]⟩
    · exact .inl lands
  · intro p waits decided
    rw [ne_eq, ite_eq_right_iff, Classical.not_imp] at decided
    exact List.mem_append_left _ ((ours p waits).2 decided.1)
  · intro p waits
    unfold heardOf
    cases answers : outcome.isAnswer with
    | true =>
        rw [if_pos rfl, ours p waits]
        by_cases same : p.id = id <;> simp [same, answers]
    | false =>
        rw [if_neg Bool.false_ne_true]
        by_cases same : p.id = id <;> simp [same, answers]
  · intro n hears
    rw [heardOf] at hears
    split at hears
    · obtain ⟨p, waits, ticket, -⟩ := waited n hears
      exact Ledger.isWaiting_iff.2 ⟨p, waits, ticket⟩
    · exact absurd hears List.not_mem_nil

/-- To resolve a send without the word of its peer answers nothing. -/
theorem resolve_aloft_of_failure (aloft : b.books.cargo.Aloft landing answered resumes down)
    (id : CorrelationId) {outcome : Outcome} (failed : outcome.isAnswer = false) :
    (b.resolve id outcome).2.books.cargo.Aloft landing answered resumes down := by
  have whole := resolve_aloft aloft id outcome
  rwa [heardOf, failed, if_neg Bool.false_ne_true, List.append_nil] at whole

/-- Nothing waits under an id that was just resolved. -/
theorem unused_of_resolve (sound : b.ledger.Sound) (id : CorrelationId) (outcome : Outcome) :
    ∀ q ∈ (b.resolve id outcome).2.ledger.pending, q.id ≠ id := by
  intro q waits same
  rw [show (b.resolve id outcome).2.ledger = (b.ledger.resolve id outcome).2 from
    congrArg Books.ledger (b.books_resolve id _)] at waits
  have spared := ((Ledger.resolve_settles sound id outcome).mem_pending.1 waits).2
  rw [if_pos same] at spared
  exact Option.some_ne_none _ spared

theorem expire_passage (balanced : b.books.Balanced loose) (ticket : Nat) :
    Passage b.books loose 0 (b.expire ticket).books loose := by
  rw [books_expire]
  exact .flights balanced rfl _ _

theorem expire_aloft (aloft : b.books.cargo.Aloft landing answered resumes down) (ticket : Nat) :
    (b.expire ticket).books.cargo.Aloft landing answered resumes down := by
  rw [books_expire, ← List.append_nil answered]
  refine aloft.settle (Ledger.expire_settles aloft.tracked ticket) _ _ _ ?_ ?_ ?_ ?_ (by simp)
  · intro n lands
    exact List.mem_append_right _ lands
  · intro n listed
    rcases List.mem_append.1 listed with settled | lands
    · cases waiting : b.ledger.isWaiting ticket with
      | false => simp [waiting] at settled
      | true =>
          simp only [waiting, if_true, List.mem_singleton] at settled
          obtain ⟨p, waits, same⟩ := Ledger.isWaiting_iff.1 waiting
          exact .inr ⟨p, waits, same.trans settled.symm, by simp [same]⟩
    · exact .inl lands
  · intro p waits decided
    have same : p.ticket = ticket := by
      rw [ne_eq, ite_eq_right_iff, Classical.not_imp] at decided
      exact decided.1
    have waiting : b.ledger.isWaiting ticket = true := Ledger.isWaiting_iff.2 ⟨p, waits, same⟩
    rw [waiting, if_pos rfl, same]
    exact List.mem_append_left _ List.mem_cons_self
  · intro p _
    by_cases same : p.ticket = ticket <;> simp [same, Outcome.isAnswer]

/-- What follows from an outcome: the stake of the delivery is given up if this is the word of the
peer or the queue is closed, and else goes back to the queue. -/
theorem follow_passage {d : Delivery} (balanced : b.books.Balanced (d.stake ::ₘ loose))
    (kept : b.isShutDown = false) (outcome : Outcome) :
    Passage b.books (d.stake ::ₘ loose)
      (if Outcome.isAnswer outcome = true ∨ b.books.isOpen d.lane = false then {d.stake} else 0)
      (b.follow d outcome).books loose := by
  have held : tally d.message (b.books.stakes + (d.stake ::ₘ loose)) ≠ 0 :=
    tally_pos.2 ⟨d.stake, Multiset.mem_add.2 (.inr (Multiset.mem_cons_self _ _)), rfl⟩
  have told : ∀ e : Event, e.message? = some d.message → e ≠ .messageRetired d.message →
      Passage b.books (d.stake ::ₘ loose) 0 (b.announce e).books (d.stake ::ₘ loose) := by
    intro e about other
    rw [books_announce]
    refine .announce balanced ?_
    intro id about'
    obtain rfl : d.message = id := Option.some.inj (about.symm.trans about')
    exact ⟨other, held⟩
  have settled : ∀ e : Event, e.message? = some d.message → e ≠ .messageRetired d.message →
      Passage b.books (d.stake ::ₘ loose) {d.stake} ((b.announce e).release d.message).books
        loose := by
    intro e about other
    have first := told e about other
    exact first.onward (release_passage first.balanced)
  have back : ∀ e : Event, e.message? = some d.message → e ≠ .messageRetired d.message →
      Passage b.books (d.stake ::ₘ loose) (if b.books.isOpen d.lane then 0 else {d.stake})
        ((b.announce e).requeue d.lane d.message).books loose := by
    intro e about other
    have first := told e about other
    exact first.onward (requeue_passage first.balanced)
  have unanswered : (if False ∨ b.books.isOpen d.lane = false then ({d.stake} : Multiset Stake)
      else 0) = if b.books.isOpen d.lane then 0 else {d.stake} := by
    cases b.books.isOpen d.lane <;> simp
  cases outcome with
  | none =>
      rw [if_pos (.inl rfl)]
      exact settled _ rfl Event.noConfusion
  | some failure =>
      cases answers : Outcome.isAnswer (some failure) with
      | true =>
          cases failure with
          | rejected reason =>
              rw [if_pos (.inl rfl)]
              exact settled _ rfl Event.noConfusion
          | _ => exact absurd answers Bool.false_ne_true
      | false =>
          have follows : b.follow d (some failure) =
              (b.announce (.deliveryFailed d.message (b.queueName d.lane) failure.message)).requeue
                d.lane d.message := by
            cases failure with
            | rejected reason => exact absurd answers.symm Bool.false_ne_true
            | _ => simp [follow, announce, note, kept]
          rw [follows]
          simp only [Bool.false_eq_true, unanswered]
          exact back _ rfl Event.noConfusion

theorem cargo_follow (b : Broker) (d : Delivery) (outcome : Outcome) :
    (b.follow d outcome).books.cargo = b.books.cargo := by
  have told : ∀ e : Event, (b.announce e).books.cargo = b.books.cargo := fun _ => rfl
  unfold follow
  split
  · rw [cargo_release, told]
  · rw [cargo_release, told]
  · dsimp only
    split
    · rw [told]
    · rw [cargo_requeue, told]

/-- What a delivery gives up when it is concluded: its stake if its peer answered or its queue is
closed. -/
def stakeGiven (b : Broker) (answered : List Nat) (ticket : Nat) : Multiset Stake :=
  match b.flights.get? ticket with
  | some d => if ticket ∈ answered ∨ b.books.isOpen d.lane = false then {d.stake} else 0
  | none => 0

/-- The books while a delivery that has an outcome is concluded, before what follows from it. -/
theorem books_ending (b : Broker) (d : Delivery) (ticket : Nat) :
    (Broker.openGate (modifyClient { b with
        ledger := (b.ledger.collect ticket).2
        flights := b.flights.erase ticket }
      d.client fun client => (client.untrack d.id).2.release) d.lane).books =
      { b.books with
        flights := b.flights.erase ticket
        ledger := (b.ledger.collect ticket).2
        concludes := b.books.concludes } := by
  rw [books_openGate, books_modifyClient]
  rfl

/-- A delivery that has an outcome is concluded. -/
theorem conclude_eq {ticket : Nat} {d : Delivery} (flown : b.flights.get? ticket = some d)
    (ended : b.ledger.isWaiting ticket = false) :
    ∃ outcome, b.ledger.reading ticket = some outcome ∧
      b.conclude ticket = (Broker.openGate (modifyClient { b with
          ledger := (b.ledger.collect ticket).2
          flights := b.flights.erase ticket }
        d.client fun client => (client.untrack d.id).2.release) d.lane).follow d outcome := by
  obtain ⟨outcome, reading⟩ := Ledger.reading_of_ended ended
  have collected : b.ledger.collect ticket = (some outcome, (b.ledger.collect ticket).2) :=
    Prod.ext reading rfl
  refine ⟨outcome, reading, ?_⟩
  rw [conclude, flown, collected]

theorem conclude_of_missing {ticket : Nat} (missing : b.flights.get? ticket = none) :
    b.conclude ticket = b := by
  rw [conclude, missing]

/-- A delivery that waits for its outcome is not concluded. -/
theorem conclude_of_waiting (sound : b.ledger.Sound) {ticket : Nat}
    (waiting : b.ledger.isWaiting ticket = true) : b.conclude ticket = b := by
  obtain ⟨p, pending, rfl⟩ := Ledger.isWaiting_iff.1 waiting
  have reading : (b.ledger.collect p.ticket).1 = none := sound.reading_of_mem pending
  unfold conclude
  split
  · rfl
  · split
    · rfl
    · rename_i outcome ledger collected
      rw [collected] at reading
      cases reading

/-- The tickets of deliveries on their way and of those to be concluded are kept in order. -/
theorem conclude_aloft {ticket : Nat} (aloft : b.books.cargo.Aloft landing answered resumes down)
    (lands : ticket ∈ b.books.concludes ++ landing) :
    (b.conclude ticket).books.cargo.Aloft (landing.filter (· ≠ ticket)) answered resumes down := by
  cases flown : b.flights.get? ticket with
  | none =>
      rw [conclude_of_missing flown]
      refine aloft.clear ?_
      intro listed
      obtain ⟨d, found⟩ := Table.mem_keys.1 listed
      rw [show b.books.cargo.flights = b.flights from rfl, flown] at found
      exact absurd found (Option.some_ne_none d).symm
  | some d =>
      obtain ⟨outcome, -, concluded⟩ := conclude_eq flown (aloft.ended ticket lands).2
      rw [concluded, cargo_follow, books_ending]
      exact aloft.land ticket

/-- What becomes of the stake of a delivery that is concluded. -/
theorem conclude_passage {ticket : Nat} (balanced : b.books.Balanced loose)
    (aloft : b.books.cargo.Aloft landing answered resumes)
    (lands : ticket ∈ b.books.concludes ++ landing) :
    Passage b.books loose (b.stakeGiven answered ticket) (b.conclude ticket).books loose := by
  unfold stakeGiven
  cases flown : b.flights.get? ticket with
  | none =>
      rw [conclude_of_missing flown]
      exact .refl balanced
  | some d =>
      obtain ⟨outcome, reading, concluded⟩ := conclude_eq flown (aloft.ended ticket lands).2
      have erased : Passage b.books loose 0
          { b.books with
            flights := b.flights.erase ticket
            ledger := (b.ledger.collect ticket).2
            concludes := b.books.concludes } (d.stake ::ₘ loose) := by
        refine .flights balanced ?_ _ _
        have values : (b.flights.values.map Delivery.stake).Perm
            (d.stake :: (b.flights.erase ticket).values.map Delivery.stake) :=
          (Table.values_perm_erase aloft.keys flown).map _
        change _ = (↑(b.flights.values.map Delivery.stake) : Multiset Stake) + loose
        rw [Multiset.coe_eq_coe.2 values, ← Multiset.cons_coe, Multiset.cons_add, Multiset.add_cons]
      have now := b.books_ending d ticket
      rw [concluded]
      generalize Broker.openGate _ d.lane = b' at now ⊢
      have kept : b'.isShutDown = false := (congrArg Books.isShutDown now).trans aloft.kept
      rw [← now] at erased
      have whole := erased.onward (follow_passage erased.balanced kept outcome)
      have decided : Outcome.isAnswer outcome = true ↔ ticket ∈ answered := by
        rw [← aloft.answers ticket (Table.mem_keys.2 ⟨d, flown⟩),
          show b.books.cargo.ledger.reading ticket = some outcome from reading, Option.any_some]
      simp only [now, decided] at whole
      exact whole

/-- Whether a frame is going to fail to be written to a client. -/
def refuses (b : Broker) (c : Nat) (frame : Wire.Frame) : Bool :=
  match b.clients[c]? with
  | some client => !(client.sendFrame frame).1.isOk
  | none => true

theorem write_isSome (b : Broker) (c : Nat) (frame : Wire.Frame) :
    (b.write c frame).1.isSome = b.refuses c frame := by
  unfold write refuses
  cases b.clients[c]? with
  | none => rfl
  | some client =>
      dsimp only
      cases (client.sendFrame frame).1 <;> rfl

theorem refuses_track (b : Broker) (c : Nat) (id : CorrelationId) (frame : Wire.Frame) :
    (b.modifyClient c fun client => client.track id).refuses c frame = b.refuses c frame := by
  simp only [refuses, modifyClient, List.getElem?_modify, if_pos]
  cases b.clients[c]? with
  | none => rfl
  | some client =>
      simp only [Option.map_eq_map, Option.map_some, Peer.Client.sendFrame, Peer.Client.track]
      split <;> split <;> rfl

theorem refuses_resolve (b : Broker) (c : Nat) (frame : Wire.Frame) (id : CorrelationId)
    (outcome : Outcome) : (b.resolve id outcome).2.refuses c frame = b.refuses c frame := by
  unfold resolve
  split <;> rfl

/-- What a delivery gives up when it is written: its stake if it cannot be written and its queue is
closed. -/
def stakeLost (b : Broker) (d : Delivery) : Multiset Stake :=
  if b.refuses d.client d.frame = true ∧ b.books.isOpen d.lane = false then {d.stake} else 0

/-- A delivery that cannot be written has an outcome at once. -/
theorem unwritten_aloft {d : Delivery} {p : Tracked}
    (aloft : b.books.cargo.Aloft [] answered resumes down) (waits : p ∈ b.ledger.pending)
    (id : p.id = d.id) :
    (Broker.books { b with ledger := (b.ledger.unwritten d.id).2 }).cargo.Aloft [p.ticket] answered
      resumes down := by
  have settles := Ledger.resolve_settles aloft.tracked d.id (some .sendFailed)
  have settled := aloft.settle settles [] [p.ticket] [] (by simp)
    (by
      intro n listed
      obtain rfl : n = p.ticket := by simpa using listed
      exact .inr ⟨p, waits, rfl, by simp [id]⟩)
    (by
      intro q waits' decided
      have same : q.id = p.id := by
        rw [ne_eq, ite_eq_right_iff, Classical.not_imp] at decided
        exact decided.1.trans id.symm
      simp [aloft.tracked.eq_of_id waits' waits same])
    (by
      intro q _
      by_cases same : q.id = d.id <;> simp [same, Outcome.isAnswer])
    (by simp)
  rwa [List.append_nil, List.append_nil] at settled

/-- A write that succeeds changes nothing about a delivery that waits for its peer; one that fails
is an outcome. -/
theorem dispatch_eq {d : Delivery} {p : Tracked} (sound : b.ledger.Sound)
    (waits : p ∈ b.ledger.pending) (id : p.id = d.id) (awaits : p.awaitsPeer = true) :
    b.dispatch d p.ticket =
      if b.refuses d.client d.frame then
        { (b.write d.client d.frame).2 with ledger := (b.ledger.unwritten d.id).2 }.conclude p.ticket
      else (b.write d.client d.frame).2 := by
  have ledger : (b.write d.client d.frame).2.ledger = b.ledger :=
    congrArg Books.ledger (b.books_write d.client d.frame)
  have kept : (b.ledger.written d.id).2 = b.ledger := by
    rw [← id]
    exact Ledger.written_of_awaitsPeer sound waits awaits
  unfold dispatch
  rw [← b.write_isSome d.client d.frame]
  generalize b.write d.client d.frame = written at ledger ⊢
  obtain ⟨failure, b'⟩ := written
  dsimp only at ledger ⊢
  rw [← ledger] at kept ⊢
  cases failure with
  | some e => rfl
  | none =>
      simp only [kept]
      rfl

theorem dispatch_aloft {d : Delivery} {p : Tracked}
    (aloft : b.books.cargo.Aloft [] answered resumes down) (waits : p ∈ b.ledger.pending)
    (id : p.id = d.id) (awaits : p.awaitsPeer = true) :
    (b.dispatch d p.ticket).books.cargo.Aloft [] answered resumes down := by
  have books := b.books_write d.client d.frame
  rw [dispatch_eq aloft.tracked waits id awaits]
  generalize (b.write d.client d.frame).2 = b' at books ⊢
  rw [← books] at aloft
  rw [show b.ledger = b'.ledger from (congrArg Books.ledger books).symm] at waits ⊢
  split
  · have lands := conclude_aloft (unwritten_aloft aloft waits id)
      (List.mem_append_right _ List.mem_cons_self)
    simpa using lands
  · exact aloft

theorem dispatch_passage {d : Delivery} {p : Tracked} (balanced : b.books.Balanced loose)
    (aloft : b.books.cargo.Aloft [] answered resumes) (waits : p ∈ b.ledger.pending)
    (id : p.id = d.id) (awaits : p.awaitsPeer = true) (flown : b.flights.get? p.ticket = some d) :
    Passage b.books loose (b.stakeLost d) (b.dispatch d p.ticket).books loose := by
  have books := b.books_write d.client d.frame
  rw [dispatch_eq aloft.tracked waits id awaits]
  generalize (b.write d.client d.frame).2 = b' at books ⊢
  unfold stakeLost
  rw [← books] at balanced aloft ⊢
  rw [show b.ledger = b'.ledger from (congrArg Books.ledger books).symm] at waits ⊢
  rw [show b.flights = b'.flights from (congrArg Books.flights books).symm] at flown
  cases b.refuses d.client d.frame with
  | false =>
      simp only [Bool.false_eq_true, false_and, if_false]
      exact .refl balanced
  | true =>
      have failed : Passage b'.books loose 0
          (Broker.books { b' with ledger := (b'.ledger.unwritten d.id).2 }) loose :=
        .flights balanced rfl _ _
      have unanswered := aloft.unanswered waits (Table.mem_keys.2 ⟨d, flown⟩)
      have passage := conclude_passage failed.balanced (unwritten_aloft aloft waits id)
        (List.mem_append_right _ List.mem_cons_self)
      have given : stakeGiven { b' with ledger := (b'.ledger.unwritten d.id).2 } answered p.ticket =
          if b'.books.isOpen d.lane = false then {d.stake} else 0 := by
        simp only [stakeGiven, flown, unanswered, false_or]
        rfl
      have whole := failed.onward passage
      rw [given] at whole
      simp only [if_true, true_and]
      exact whole

/-- The record of a send that is tracked under a new ticket. -/
def trackedAs (b : Broker) (d : Delivery) : Tracked :=
  ⟨d.id, b.ledger.issued, true⟩

theorem launch_fst {d : Delivery} (unused : ∀ q ∈ b.ledger.pending, q.id ≠ d.id) :
    (b.launch d).1 = (b.trackedAs d).ticket :=
  congrArg Prod.fst (Ledger.setUp_of_unused unused true)

theorem ledger_launch {d : Delivery} (unused : ∀ q ∈ b.ledger.pending, q.id ≠ d.id) :
    (b.launch d).2.ledger = { b.ledger with
      pending := b.ledger.pending ++ [b.trackedAs d]
      issued := b.ledger.issued + 1 } :=
  congrArg Prod.snd (Ledger.setUp_of_unused unused true)

theorem launched_waits {d : Delivery} (unused : ∀ q ∈ b.ledger.pending, q.id ≠ d.id) :
    b.trackedAs d ∈ (b.launch d).2.ledger.pending := by
  rw [ledger_launch unused]
  exact List.mem_append_right _ List.mem_cons_self

theorem launch_aloft {d : Delivery} (aloft : b.books.cargo.Aloft [] answered resumes down)
    (unused : ∀ q ∈ b.ledger.pending, q.id ≠ d.id) :
    (b.launch d).2.books.cargo.Aloft [] answered resumes down := by
  have launched := aloft.takeOff (p := b.trackedAs d) rfl unused d
  rw [books_launch, launch_fst unused, Books.cargo]
  rw [show (b.ledger.setUp d.id true).2 = _ from
    ledger_launch unused]
  exact launched

/-- A delivery that is tracked takes its stake with it. -/
theorem launch_passage {d : Delivery} (balanced : b.books.Balanced (d.stake ::ₘ loose))
    (aloft : b.books.cargo.Aloft [] answered resumes)
    (unused : ∀ q ∈ b.ledger.pending, q.id ≠ d.id) :
    Passage b.books (d.stake ::ₘ loose) 0 (b.launch d).2.books loose := by
  rw [books_launch, launch_fst unused]
  refine .flights balanced ?_ _ _
  have new : (b.trackedAs d).ticket ∉ b.flights.keys := by
    intro flown
    exact Nat.lt_irrefl _ (aloft.issued _ flown)
  rw [Table.values_insert new, List.map_append, ← Multiset.coe_add, add_assoc]
  rfl

/-- A delivery that is written is on its way, or is concluded at once. -/
theorem send_aloft {d : Delivery} (aloft : b.books.cargo.Aloft [] answered resumes down) :
    (b.send d).books.cargo.Aloft [] answered resumes down := by
  have aloft' := resolve_aloft_of_failure aloft d.id
    (show Outcome.isAnswer (some .cancelled) = false from rfl)
  have unused := unused_of_resolve aloft.tracked d.id (some .cancelled)
  rw [send_eq]
  generalize (b.resolve d.id (some .cancelled)).2 = b' at *
  rw [launch_fst unused]
  exact dispatch_aloft (launch_aloft aloft' unused) (launched_waits unused) rfl rfl

theorem send_passage {d : Delivery} (balanced : b.books.Balanced (d.stake ::ₘ loose))
    (aloft : b.books.cargo.Aloft [] answered resumes) :
    Passage b.books (d.stake ::ₘ loose) (b.stakeLost d) (b.send d).books loose := by
  have replaced := resolve_passage balanced d.id (some .cancelled)
  have aloft' := resolve_aloft_of_failure aloft d.id
    (show Outcome.isAnswer (some .cancelled) = false from rfl)
  have unused := unused_of_resolve aloft.tracked d.id (some .cancelled)
  have lost : b.stakeLost d = (b.resolve d.id (some .cancelled)).2.stakeLost d := by
    rw [stakeLost, stakeLost, refuses_resolve, books_resolve]
    rfl
  rw [lost, send_eq]
  generalize (b.resolve d.id (some .cancelled)).2 = b' at *
  have tracked := launch_passage replaced.balanced aloft' unused
  have lost' : (b'.launch d).2.stakeLost d = b'.stakeLost d := by
    rw [stakeLost, books_launch, launch, refuses_track]
    rfl
  have flown : (b'.launch d).2.flights.get? (b'.trackedAs d).ticket = some d := by
    rw [← launch_fst unused]
    exact (Table.get?_insert _ _ _ _).trans (if_pos rfl)
  have passage := dispatch_passage tracked.balanced (launch_aloft aloft' unused)
    (launched_waits unused) rfl rfl flown
  rw [launch_fst unused, ← lost']
  exact (replaced.onward tracked).onward passage

end Broker

end MessageBroker
