import MessageBroker.Proofs.Broker.Docket

/-!
# Who confirms a delivery

The answer of a peer is matched with the deliveries by its id alone. It reaches the delivery that
waits under that id, whichever connection it arrives on and whichever connection the delivery went to,
and leaves all others as they are: they wait as before, their slots stay in use, nothing is announced
about them and their messages keep their references. A peer that knows the id of a delivery to another
can therefore confirm it.
-/

namespace MessageBroker.Broker

open Wire

variable {b : Broker}

/-- An answer gives its outcome to the send that waits under its id, if one does, and has that
concluded. -/
theorem resolve_eq (b : Broker) (id : CorrelationId) (outcome : Outcome) :
    (b.resolve id outcome).2 = { b with
      ledger := (b.ledger.resolve id outcome).2
      alarms := b.alarms.filter fun a => a.sleeper ∉ (b.ledger.ticketsOf id).map Sleeper.limit
      tasks := b.tasks ++ (b.ledger.ticketsOf id).map Task.conclude } := by
  unfold resolve Ledger.resolve Ledger.ticketsOf
  cases b.ledger.find? id with
  | none => simp
  | some t => simp [later, dropAlarm]

/-- What an answer does to a delivery on its way. -/
def Answered (b b' : Broker) (id : CorrelationId) (outcome : Outcome) (ticket : Nat) (d : Delivery) :
    Prop :=
  if b.ledger.isWaiting ticket = true ∧ d.id = id then
    b'.ledger.reading ticket = some outcome ∧ .conclude ticket ∈ b'.tasks
  else
    b'.ledger.isWaiting ticket = b.ledger.isWaiting ticket ∧
      b'.ledger.reading ticket = b.ledger.reading ticket ∧
      (.conclude ticket ∈ b'.tasks → .conclude ticket ∈ b.tasks)

theorem answered_resolve (filed : b.docket.Filed) (id : CorrelationId) (outcome : Outcome)
    {ticket : Nat} {d : Delivery} (flown : b.flights.get? ticket = some d) :
    Answered b (b.resolve id outcome).2 id outcome ticket d := by
  have sound : b.ledger.Sound := filed.sound
  have settles := Ledger.resolve_settles sound id outcome
  rw [resolve_eq]
  -- A send that waits with the ticket of the delivery waits under its id.
  have own : ∀ p ∈ b.ledger.pending, p.ticket = ticket → p.id = d.id := by
    intro p waits same
    obtain ⟨x, found, id⟩ := filed.flown p waits
    rw [same] at found
    rw [← id, Option.some.inj (found.symm.trans flown)]
  have named : ∀ n ∈ b.ledger.ticketsOf id, ∃ p ∈ b.ledger.pending, p.ticket = n ∧ p.id = id := by
    intro n listed
    obtain ⟨p, found, same⟩ := List.mem_map.1 listed
    obtain ⟨waits, id⟩ := Ledger.mem_of_find? (Option.mem_toList.1 found)
    exact ⟨p, waits, same, id⟩
  have line : Task.conclude ticket ∈ b.tasks ++ (b.ledger.ticketsOf id).map Task.conclude ↔
      Task.conclude ticket ∈ b.tasks ∨ ticket ∈ b.ledger.ticketsOf id := by
    simp
  unfold Answered
  dsimp only
  split
  · rename_i hit
    obtain ⟨p, waits, same⟩ := Ledger.isWaiting_iff.1 hit.1
    have id := (own p waits same).trans hit.2
    refine ⟨?_, line.2 (.inr ?_)⟩
    · rw [← same]
      exact settles.settled p waits outcome (if_pos id)
    · rw [← same, ← id]
      exact List.mem_map_of_mem (Option.mem_toList.2 (sound.find?_eq waits))
  · rename_i missed
    have apart : ∀ p ∈ b.ledger.pending, p.ticket = ticket → p.id ≠ id := by
      intro p waits same clash
      exact missed ⟨Ledger.isWaiting_iff.2 ⟨p, waits, same⟩, (own p waits same).symm.trans clash⟩
    have waiting : (b.ledger.resolve id outcome).2.isWaiting ticket = b.ledger.isWaiting ticket := by
      rw [Bool.eq_iff_iff, Ledger.isWaiting_iff, Ledger.isWaiting_iff]
      constructor
      · rintro ⟨p, waits, same⟩
        exact ⟨p, (settles.mem_pending.1 waits).1, same⟩
      · rintro ⟨p, waits, same⟩
        exact ⟨p, settles.mem_pending.2 ⟨waits, if_neg (apart p waits same)⟩, same⟩
    refine ⟨waiting, ?_, fun listed => ?_⟩
    · cases waits : b.ledger.isWaiting ticket with
      | false =>
          refine settles.reading_of_not_waiting fun p listed same => ?_
          rw [Ledger.isWaiting_iff.2 ⟨p, listed, same⟩] at waits
          cases waits
      | true =>
          obtain ⟨p, listed, rfl⟩ := Ledger.isWaiting_iff.1 waits
          have still := settles.mem_pending.2 ⟨listed, if_neg (apart p listed rfl)⟩
          rw [sound.reading_of_mem listed, (settles.sound sound).reading_of_mem still]
    · rcases line.1 listed with before | hit
      · exact before
      · obtain ⟨p, waits, same, clash⟩ := named ticket hit
        exact absurd clash (apart p waits same)

/-- Whatever has happened before, an Ack or a Nack that arrives on a connection reaches the delivery
that waits under its id and no other. For all other deliveries, and for the slots, the references, the
store and what was announced, nothing changes. The connection that it arrives on makes no
difference. -/
theorem answer_reaches_its_id_only {settings : Settings.Engine} {mint : Nat → CorrelationId}
    {calendar : Nat} {depot : Store.Depot} {start : Broker}
    (started : Broker.new? settings mint calendar depot = some start) (life : List Episode)
    {connection : String} {session : Peer.Session} {frame : Frame} {outcome : Outcome}
    (arrived : (start.through life).nextFrame? connection = some (session, frame))
    (answers : frame.purport = .answer outcome) :
    let b := start.through life
    let b' := b.apply (.frame connection)
    (b'.lanes = b.lanes ∧ b'.clients = b.clients ∧ b'.references = b.references ∧
      b'.depot = b.depot ∧ b'.flights = b.flights ∧ b'.log = b.log ∧ b.tasks <+: b'.tasks) ∧
    ∀ ticket d, b.flights.get? ticket = some d → Answered b b' frame.id outcome ticket d := by
  intro b b'
  have filed : b.docket.Filed := filed_through started life
  have same : b' = ({ b with sessions := b.sessions.insert connection session }.resolve frame.id
      outcome).2 := by
    simp only [b', apply, show b.nextFrame? connection = some (session, frame) from arrived, handle_eq,
      answers]
  rw [same]
  refine ⟨?_, fun ticket d flown => answered_resolve (b := { b with
    sessions := b.sessions.insert connection session }) filed frame.id outcome flown⟩
  rw [resolve_eq]
  exact ⟨rfl, rfl, rfl, rfl, rfl, rfl, List.prefix_append _ _⟩

/-- Two connections, of which one is a subscriber and has got a delivery, and an Ack under some id that
has arrived on the other. -/
def bystanding (id : CorrelationId) : List Episode :=
  [.stir (.move (.declare "orders" "orders")), .stir (.move (.connect "bystander" .reliable)),
    .stir (.move (.connect "reader" .reliable)), .stir (.move (.subscribe "reader" "orders" none)),
    .stir (.move (.publish ⟨.ofNat 1, "orders", [7], none, 0⟩)), .stir (.move .task),
    .stir (.move .task), .stir (.move .task), .stir (.move .task),
    .stir (.move (.feed "bystander" (Frame.ack id).encode))]

/-- An Ack under another id leaves the delivery to the subscriber as it is. -/
theorem answer_reaches_its_id_only_elsewhere :
    ((sample.through (bystanding (.ofNat 9))).apply (.frame "bystander")).ledger.isWaiting 2 = true := by
  obtain ⟨session, frame, arrived, answers, other⟩ : ∃ session frame,
      (sample.through (bystanding (.ofNat 9))).nextFrame? "bystander" = some (session, frame) ∧
        frame.purport = .answer none ∧ frame.id = .ofNat 9 := ⟨_, _, rfl, rfl, rfl⟩
  obtain ⟨d, flown, id⟩ : ∃ d, (sample.through (bystanding (.ofNat 9))).flights.get? 2 = some d ∧
      d.id = .fresh 2 := ⟨_, rfl, rfl⟩
  have kept := (answer_reaches_its_id_only new?_sample (bystanding (.ofNat 9)) arrived answers).2 2 d
    flown
  have apart : d.id ≠ frame.id := by
    rw [id, other]
    decide
  rw [Answered, if_neg fun h => apart h.2] at kept
  exact kept.1.trans rfl

/-- An Ack under the id of the delivery, on a connection that the delivery did not go to, confirms it:
the slot of the subscriber is free, and its message is reported as delivered to it and retired. -/
theorem bystander_confirms_delivery :
    let b := sample.through (bystanding (.fresh 2))
    let b' := (b.apply (.frame "bystander")).apply .task
    (b.flights.get? 2).map (fun d => b.clientName d.client) = some "reader" ∧
      b.ledger.isWaiting 2 = true ∧ b.clients.map Peer.Client.inFlight = [0, 1] ∧
      b.references.outstanding (.ofNat 1) = some 1 ∧
      (b.apply (.frame "bystander")).ledger.isWaiting 2 = false ∧
      b'.clients.map Peer.Client.inFlight = [0, 0] ∧ b'.references.outstanding (.ofNat 1) = none ∧
      Record.events b'.log =
        [.messageRetired (.ofNat 1), .messageDelivered (.ofNat 1) "orders" "reader"] ++
          Record.events b.log := by
  decide

end MessageBroker.Broker
