import MessageBroker.Proofs.Broker.Provenance

/-!
# The line before a queue

Messages wait in a queue in one line. Those that arrive stand behind the others. The worker takes the
one in front; a delivery that fails puts its message in front again, unless the broker is shut down or
the queue is gone. Nobody else touches the line, until the queue is deleted or closed with the broker,
and then it is gone for good.
-/

namespace MessageBroker

open Books Desk

/-- Whether a task may take somebody out of a line or put somebody in front. -/
def Task.isAtFront : Task → Bool
  | .work _ | .send _ | .conclude _ => true
  | _ => false

namespace Broker

/-- Whether the queue of a lane was declared once and is closed by now. -/
def isGone (b : Broker) (k : Nat) : Bool :=
  b.lanes[k]?.any fun lane => lane.queue.isClosed

/-- A queue that is gone stays gone. If it is not gone in the end, whoever waited waits still, in the
same order and before all others. -/
structure Lengthens (k : Nat) (b b' : Broker) : Prop where
  gone : b.isGone k = true → b'.isGone k = true
  front : b'.isGone k = true ∨ b.waitingIn k <+: b'.waitingIn k

variable {b b' b'' : Broker} {k : Nat}

theorem isGone_eq (b : Broker) (k : Nat) :
    b.isGone k = b.books.shelves[k]?.any Shelf.isClosed := by
  simp only [isGone, books, List.getElem?_map, Option.any_map]
  rfl

theorem isGone_of_shelves (same : b'.books.shelves = b.books.shelves) (k : Nat) :
    b'.isGone k = b.isGone k := by
  rw [isGone_eq, isGone_eq, same]

theorem isGone_of_notices (same : b'.desk.notices = b.desk.notices) (k : Nat) :
    b'.isGone k = b.isGone k := by
  have shown : ∀ b : Broker, b.isGone k = b.desk.notices[k]?.any Notice.isClosed := by
    intro b
    simp only [isGone, desk, List.getElem?_map, Option.any_map]
    rfl
  rw [shown, shown, same]

/-- A queue that is not gone is open, if there is one. -/
theorem isOpen_of_not_gone (here : b.isGone k = false) :
    b.books.isOpen k = true ↔ k < b.lanes.length := by
  cases found : b.lanes[k]? with
  | none =>
      rw [isOpen_of_none found]
      simpa using found
  | some lane =>
      have opened : lane.queue.isClosed = false := by simpa [isGone, found] using here
      rw [isOpen_of_lane found, opened]
      exact iff_of_true rfl (List.getElem?_eq_some_iff.1 found).1

namespace Lengthens

theorem of_shelves (same : b'.books.shelves = b.books.shelves) : Lengthens k b b' :=
  ⟨fun gone => (isGone_of_shelves same k).trans gone,
    .inr (waitingIn_of_shelves same k ▸ List.prefix_rfl)⟩

theorem refl (b : Broker) : Lengthens k b b := of_shelves rfl

theorem trans (first : Lengthens k b b') (second : Lengthens k b' b'') : Lengthens k b b'' := by
  refine ⟨fun gone => second.gone (first.gone gone), ?_⟩
  rcases second.front with gone | after
  · exact .inl gone
  · exact first.front.imp second.gone fun before => before.trans after

/-- Another queue is changed, or this one takes something at its end or is closed. -/
theorem of_modify {j : Nat} {g : Shelf → Shelf}
    (shelves : b'.books.shelves = b.books.shelves.modify j g)
    (grows : j = k → ∀ shelf : Shelf, (shelf.isClosed = true → (g shelf).isClosed = true) ∧
      ((g shelf).isClosed = true ∨ shelf.pending <+: (g shelf).pending)) : Lengthens k b b' := by
  by_cases own : j = k
  · subst own
    have grown := grows rfl
    constructor
    · rw [isGone_eq, isGone_eq, shelves, List.getElem?_modify_eq]
      cases b.books.shelves[j]? with
      | none => exact id
      | some shelf => exact (grown shelf).1
    · rw [isGone_eq, waitingIn_eq, waitingIn_eq, shelves, List.getElem?_modify_eq]
      cases b.books.shelves[j]? with
      | none => exact .inr List.prefix_rfl
      | some shelf => exact (grown shelf).2
  · have same : b'.books.shelves[k]? = b.books.shelves[k]? := by
      rw [shelves, List.getElem?_modify]
      simp [own]
    constructor
    · rw [isGone_eq, isGone_eq, same]
      exact id
    · rw [waitingIn_eq, waitingIn_eq, same]
      exact .inr List.prefix_rfl

end Lengthens

/-! ## Arrivals -/

theorem lengthens_enqueue (b : Broker) (j : Nat) (m : CorrelationId) :
    Lengthens k b (b.enqueue j m).2 := by
  have books := (b.books_enqueue j m).2
  split at books
  · exact .of_modify (congrArg Books.shelves books) fun _ shelf =>
      ⟨id, .inr (List.prefix_append shelf.pending [m])⟩
  · exact .of_shelves (congrArg Books.shelves books)

theorem lengthens_fanOut (b : Broker) (m : CorrelationId) (lanes : List Nat) :
    Lengthens k b (b.fanOut m lanes).2 := by
  have each : ∀ (lanes : List Nat) (count : Nat) (b : Broker),
      Lengthens k b (lanes.foldl (fanOutTo m) (count, b)).2 := by
    intro lanes
    induction lanes with
    | nil => exact fun _ b => .refl b
    | cons j lanes ih =>
        intro count b
        have one : Lengthens k b (fanOutTo m (count, b) j).2 := by
          have taken := b.lengthens_enqueue (k := k) j m
          unfold fanOutTo
          dsimp only
          split
          · exact taken
          · exact taken.trans (.of_shelves (shelves_release _ m))
        exact one.trans (ih _ _)
  have counted : Lengthens k b { b with references := b.references.setUp m lanes.length } :=
    .of_shelves rfl
  exact counted.trans (each lanes 0 _)

theorem lengthens_bring (b : Broker) (m : Store.Message) (lanes : List Nat) :
    Lengthens k b (b.bring m lanes).2 := by
  unfold bring
  split
  · exact .of_shelves rfl
  · rename_i depot _
    have stored : Lengthens k b { b with depot } := .of_shelves rfl
    have spread := stored.trans (lengthens_fanOut { b with depot } m.id lanes)
    dsimp only
    split
    · exact spread
    · exact spread.trans (.of_shelves rfl)

theorem lengthens_publish (b : Broker) (m : Store.Message) : Lengthens k b (b.publish m).2 := by
  unfold publish
  split
  · exact .refl b
  · exact b.lengthens_bring m _

theorem lengthens_resumePublish (b : Broker) (p : Publication) :
    Lengthens k b (b.resumePublish p) :=
  (b.lengthens_bring p.message p.lanes).trans (.of_shelves rfl)

theorem lengthens_beginPublish (b : Broker) (tag : String) (m : Store.Message) :
    Lengthens k b (b.beginPublish tag m) := by
  unfold beginPublish
  split
  · exact .of_shelves rfl
  · split
    · exact .of_shelves rfl
    · exact (b.lengthens_bring m _).trans (.of_shelves rfl)

theorem lengthens_recoverOne (b : Broker) (report : Recovery) (m : CorrelationId) :
    Lengthens k b (b.recoverOne report m).2 := by
  unfold recoverOne
  split
  · exact .refl b
  · split
    · exact .of_shelves rfl
    · exact .of_shelves rfl
    · rename_i depot _
      have looked : Lengthens k b { b with depot } := .of_shelves rfl
      dsimp only
      split
      · exact looked
      · split <;> exact looked.trans (lengthens_fanOut { b with depot } m _)

theorem lengthens_recover (b : Broker) : Lengthens k b b.recover.2 := by
  have each : ∀ (ids : List CorrelationId) (report : Recovery) (b : Broker),
      Lengthens k b (b.recoverEach report ids).2 := by
    intro ids
    induction ids with
    | nil => exact fun _ b => .refl b
    | cons id ids ih =>
        intro report b
        have one := b.lengthens_recoverOne (k := k) report id
        unfold recoverEach
        split <;> rename_i went <;> rw [went] at one
        · exact one
        · exact one.trans (ih _ _)
  unfold recover
  split
  · exact .of_shelves rfl
  · rename_i ids depot _
    have read : Lengthens k b { b with depot } := .of_shelves rfl
    exact read.trans (each ids {} _)

/-! ## Requests and connections -/

/-- The queues that there are stay as they are, and others come. -/
theorem Lengthens.of_known (known : ∀ lane, b.lanes[k]? = some lane → b'.lanes[k]? = some lane) :
    Lengthens k b b' := by
  cases found : b.lanes[k]? with
  | none =>
      have nobody : b.waitingIn k = [] := by simp [waitingIn, found]
      refine ⟨fun gone => ?_, .inr (nobody ▸ List.nil_prefix)⟩
      simp [isGone, found] at gone
  | some lane =>
      have same : b'.lanes[k]? = b.lanes[k]? := (known lane found).trans found.symm
      refine ⟨fun gone => ?_, .inr ?_⟩
      · rwa [isGone, same]
      · have waiting : b'.waitingIn k = b.waitingIn k := by rw [waitingIn, waitingIn, same]
        exact waiting ▸ List.prefix_rfl

theorem lengthens_declare (b : Broker) (name route : String) :
    Lengthens k b (b.declare name route).2 := by
  unfold declare
  split
  · exact .refl b
  · split
    · exact .refl b
    · split
      · split <;> exact .refl b
      · refine Lengthens.of_known fun lane found => ?_
        exact List.getElem?_append_left (List.getElem?_eq_some_iff.1 found).1 ▸ found

theorem shelves_releaseEach (b : Broker) (ids : List CorrelationId) :
    (ids.foldl release b).books.shelves = b.books.shelves := by
  induction ids generalizing b with
  | nil => rfl
  | cons id ids ih => exact (ih _).trans (b.shelves_release id)

theorem lengthens_delete (b : Broker) (name : String) : Lengthens k b (b.delete name).2 := by
  rcases b.delete_cases name with ⟨-, same⟩ | ⟨j, lane, b', -, -, closed, same⟩
  · rw [same]
    exact .refl b
  · rw [same]
    have abolished : Lengthens k b b' :=
      .of_modify (congrArg Books.shelves closed) fun _ _ => ⟨fun _ => rfl, .inl rfl⟩
    exact abolished.trans (.of_shelves (b'.shelves_releaseEach _))

theorem lengthens_request (b : Broker) (connection : String) (id : CorrelationId)
    (body : Wire.Body) : Lengthens k b (b.request connection id body).2 := by
  cases body with
  | message route payload => exact b.lengthens_publish _
  | subscribe queue ceiling =>
      exact .of_shelves (congrArg Books.shelves (b.books_subscribe connection queue _))
  | unsubscribe queue =>
      exact .of_shelves (congrArg Books.shelves (b.books_unsubscribe connection queue))
  | declare name route => exact b.lengthens_declare name route
  | delete name => exact b.lengthens_delete name
  | nack reason => exact .refl b

theorem shelves_resolve (b : Broker) (id : CorrelationId) (outcome : Outcome) :
    (b.resolve id outcome).2.books.shelves = b.books.shelves := by
  rw [books_resolve]

theorem lengthens_handle (b : Broker) (session : Peer.Session) (frame : Wire.Frame) :
    Lengthens k b (b.handle session frame).2 := by
  have replied : ∀ (b : Broker) (result : Except RequestError Unit),
      Lengthens k b (b.reply session.client frame.id result) := fun b result =>
    .of_shelves (congrArg Books.shelves (b.books_reply session.client frame.id result))
  rw [handle_eq]
  cases frame.purport with
  | answer outcome => exact .of_shelves (b.shelves_resolve _ _)
  | call => exact replied b (.ok ())
  | request body => exact (b.lengthens_request _ _ body).trans (replied _ _)
  | offence e => exact .refl b

theorem shelves_connect (sound : b.ledger.Sound) (id : String) (link : Peer.Link) :
    (b.connect id link).2.books.shelves = b.books.shelves := by
  have greeted : ∀ (b : Broker) (c : Nat), b.ledger.Sound →
      (b.greet c).books.shelves = b.books.shelves := by
    intro b c sound
    obtain ⟨ledger, books, -⟩ := books_greet sound c
    exact (congrArg Books.shelves books).trans (b.mintId.2.shelves_resolve _ _)
  unfold connect
  dsimp only
  split
  · rfl
  · exact greeted _ _ sound

theorem shelves_disconnect (b : Broker) (id : String) :
    (b.disconnect id).books.shelves = b.books.shelves := by
  have each : ∀ (ids : List CorrelationId) (b : Broker),
      (ids.foldl (fun b id => (b.resolve id (some .sendFailed)).2) b).books.shelves =
        b.books.shelves := by
    intro ids
    induction ids with
    | nil => exact fun _ => rfl
    | cons id ids ih => exact fun b => (ih _).trans (b.shelves_resolve id _)
  rcases b.books_disconnect id with same | ⟨b', ids, books, same⟩
  · rw [same]
  · rw [same, books_announce, ← books]
    exact each ids b'

/-! ## Workers -/

theorem shelves_requeue (b : Broker) (j : Nat) (m : CorrelationId) :
    (b.requeue j m).books.shelves =
      if b.books.isOpen j then b.books.shelves.modify j (Shelf.prepend m) else b.books.shelves := by
  obtain ⟨b', books, requeued⟩ := b.requeue_eq j m
  rw [requeued]
  cases opened : b.books.isOpen j with
  | true =>
      simp only [opened, if_true] at books ⊢
      rw [books]
  | false =>
      simp only [opened, Bool.false_eq_true, if_false] at books ⊢
      rw [shelves_release, books]

theorem shelves_requeue_congr (same : b'.books.shelves = b.books.shelves) (j : Nat)
    (m : CorrelationId) : (b'.requeue j m).books.shelves = (b.requeue j m).books.shelves := by
  have opened : b'.books.isOpen j = b.books.isOpen j := by rw [isOpen, isOpen, same]
  rw [shelves_requeue, shelves_requeue, opened, same]

theorem waitingIn_requeue (b : Broker) (j : Nat) (m : CorrelationId) (k : Nat) :
    (b.requeue j m).waitingIn k =
      if j = k ∧ b.books.isOpen k = true then m :: b.waitingIn k else b.waitingIn k := by
  rw [waitingIn_eq, waitingIn_eq, shelves_requeue]
  by_cases own : j = k
  · subst own
    cases opened : b.books.isOpen j with
    | true =>
        obtain ⟨shelf, found, -⟩ := isOpen_iff.1 opened
        simp [found, Shelf.prepend]
    | false => simp
  · cases b.books.isOpen j <;> simp [own]

/-- What the work of a worker does to the lines and to the deliveries that are going to be written. -/
inductive Service (j : Nat) (s s' : Books) : Prop
  /-- Nobody leaves the line. -/
  | idle (shelves : s'.shelves = s.shelves) (sends : s'.sends = s.sends)
  /-- The message in front is not stored any more, or it cannot be put back. -/
  | miss {m : CorrelationId} {shelf : Shelf} {rest : List CorrelationId}
      (found : s.shelves[j]? = some shelf) (front : shelf.pending = m :: rest)
      (missing : s.depot.messages.get? m = none ∨ s.isOpen j = false)
      (shelves : s'.shelves = s.shelves.modify j Shelf.behead) (sends : s'.sends = s.sends)
  /-- The message in front is going to be written. -/
  | take {x : Delivery} {shelf : Shelf} {rest : List CorrelationId} (lane : x.lane = j)
      (found : s.shelves[j]? = some shelf) (front : shelf.pending = x.message :: rest)
      (shelves : s'.shelves = s.shelves.modify j Shelf.behead) (sends : s'.sends = s.sends ++ [x])

/-- A message that is put back where it was taken from leaves the line as it was. -/
theorem prepend_behead {shelves : List Shelf} {j : Nat} {shelf : Shelf} {m : CorrelationId}
    {rest : List CorrelationId} (found : shelves[j]? = some shelf) (front : shelf.pending = m :: rest) :
    (shelves.modify j Shelf.behead).modify j (Shelf.prepend m) = shelves := by
  apply List.ext_getElem?
  intro i
  rw [List.getElem?_modify, List.getElem?_modify]
  by_cases own : j = i
  · subst own
    have whole : Shelf.prepend m shelf.behead = shelf := by
      rw [Shelf.prepend, Shelf.behead, front, List.tail_cons, ← front]
    simp [found, whole]
  · simp [own]

theorem waitingIn_behead {j : Nat} (shelves : b'.books.shelves = b.books.shelves.modify j Shelf.behead)
    (k : Nat) : b'.waitingIn k = if j = k then (b.waitingIn k).tail else b.waitingIn k := by
  rw [waitingIn_eq, waitingIn_eq, shelves, List.getElem?_modify]
  by_cases own : j = k
  · subst own
    cases b.books.shelves[j]? <;> simp [Shelf.behead]
  · simp [own]

theorem offer_service (b : Broker) (j : Nat) : Service j b.books (b.offer j).2.books := by
  rcases b.offer_cases j with same | ⟨shelf, m, rest, c, b', found, front, popped, same⟩
  · rw [same]
    exact .idle rfl rfl
  · have shelves : b'.books.shelves = b.books.shelves.modify j Shelf.behead := by rw [popped]
    have sends : b'.books.sends = b.books.sends := by rw [popped]
    have messages : b'.depot.messages = b.depot.messages :=
      congrArg (fun s : Books => s.depot.messages) popped
    have opened : b'.books.isOpen j = b.books.isOpen j := by
      rw [isOpen, isOpen, shelves, List.getElem?_modify_eq, found]
      rfl
    rw [same, sendOff]
    split
    · rename_i stored depot _
      refine .take (x := ⟨b'.mint b'.minted, j, c, m, stored.route, stored.payload⟩) rfl found front
        ?_ ?_
      · dsimp only
        rw [books_later]
        exact shelves
      · dsimp only
        rw [books_later]
        exact congrArg (· ++ _) sends
    · rename_i depot looked
      have missing := Store.Depot.stored_of_get? looked
      refine .miss found front (.inl (messages ▸ missing)) ?_ ?_
      · rw [shelves_release]
        exact shelves
      · have released := congrArg Desk.sends ((giveSlotBack { b' with depot } c).desk_release m)
        exact released.trans sends
    · rename_i e depot _
      have requeued := congrArg Desk.sends ((giveSlotBack { b' with depot } c).desk_requeue j m)
      have line := (giveSlotBack { b' with depot } c).shelves_requeue j m
      rw [show (giveSlotBack { b' with depot } c).books.shelves = _ from shelves] at line
      rw [show (giveSlotBack { b' with depot } c).books.isOpen j = _ from opened] at line
      split at line
      · exact .idle (line.trans (prepend_behead found front)) (requeued.trans sends)
      · rename_i closed
        exact .miss found front (.inr (Bool.not_eq_true _ ▸ closed)) line (requeued.trans sends)

theorem work_service (b : Broker) (j : Nat) : Service j b.books (b.work j).books := by
  rcases b.work_cases j with same | ⟨b', books, same⟩
  · rw [same]
    exact .idle rfl rfl
  · rw [same, ← books]
    exact b'.offer_service j

/-- A queue is open and a subscriber of it has room. -/
def HasTaker (b : Broker) (j : Nat) : Prop :=
  ∃ notice member, b.desk.notices[j]? = some notice ∧ notice.isClosed = false ∧
    member ∈ notice.members ∧ b.hasRoom member.client = true

theorem offer_taker (b : Broker) {j : Nat} {lane : Lane} (found : b.lanes[j]? = some lane)
    (opened : lane.queue.isClosed = false) :
    (b.offer j).2.books.shelves = b.books.shelves ∨ b.HasTaker j := by
  have chosen : ∀ m, (lane.queue.roster.select b.hasRoom).1 = some m →
      m ∈ lane.queue.roster.members ∧ b.hasRoom m.client = true :=
    fun _ => Queue.Roster.mem_of_select
  unfold offer
  rw [found]
  dsimp only
  cases lane.queue.pending with
  | nil => exact .inl rfl
  | cons m rest =>
      dsimp only
      generalize lane.queue.roster.select b.hasRoom = selected at chosen
      obtain ⟨member?, roster⟩ := selected
      cases member? with
      | none =>
          have listed := b.books_modifyQueue_of_shelf j
            (f := fun queue => { queue with roster }) fun _ => ⟨rfl, rfl⟩
          exact .inl (congrArg Books.shelves listed)
      | some member =>
          obtain ⟨listed, room⟩ := chosen member rfl
          refine .inr ⟨lane.notice, member, ?_, opened, listed, room⟩
          simp only [desk, List.getElem?_map, found, Option.map_some]

/-- A worker that takes somebody out of the line has found a subscriber with room. -/
theorem work_taker (b : Broker) (j : Nat) :
    (b.work j).books.shelves = b.books.shelves ∨ b.HasTaker j := by
  cases found : (b.stepAside j).lanes[j]? with
  | none => exact .inl (by rw [work_of_none found, books_stepAside])
  | some lane =>
      cases closed : lane.queue.isClosed with
      | true => exact .inl (by rw [work_of_closed found closed, books_setStage, books_stepAside])
      | false =>
          have tried : (b.work j).books = (b.attempt j).2.books := by
            rw [work_of_open found closed]
            split <;> rename_i b' tried <;> rw [tried]
            · rw [books_next_work]
              exact b'.books_modifyLane_of_shelf j fun _ => rfl
            · rw [books_await]
            · rw [books_await]
              exact b'.books_modifyLane_of_shelf j fun _ => rfl
          rw [tried, attempt]
          -- The gate is closed before the attempt, which nobody sees.
          have books := ((b.stepAside j).books_modifyQueue_of_shelf j
            (f := fun queue => { queue with gate := queue.gate.block }) fun _ => ⟨rfl, rfl⟩).trans
            (b.books_stepAside j)
          have desk : ((b.stepAside j).modifyQueue j fun queue =>
              { queue with gate := queue.gate.block }).desk = b.desk := by
            rw [← b.desk_stepAside j]
            exact desk_modifyLane_of_notice _ j fun _ _ => rfl
          have here : ((b.stepAside j).modifyQueue j fun queue =>
              { queue with gate := queue.gate.block }).lanes[j]? =
              some { lane with queue := { lane.queue with gate := lane.queue.gate.block } } := by
            simp only [modifyQueue, modifyLane, List.getElem?_modify_eq, found]
            rfl
          generalize (b.stepAside j).modifyQueue j _ = b₁ at books desk here
          rcases b₁.offer_taker here closed with same | ⟨notice, member, posted, opened, listed, room⟩
          · exact .inl (same.trans (congrArg Books.shelves books))
          · refine .inr ⟨notice, member, desk ▸ posted, opened, listed, ?_⟩
            rwa [hasRoom, show b₁.clients = b.clients from congrArg Desk.clients desk] at room

/-- A worker that takes somebody out of the line but no delivery in hand has found that the message is
not stored any more: one that it cannot read is put back, since the queue is open. -/
theorem work_misses (b : Broker) {j : Nat} (silent : (b.work j).books.sends = b.books.sends) :
    (b.work j).books.shelves = b.books.shelves ∨
      ∃ m rest, b.waitingIn j = m :: rest ∧ (b.work j).waitingIn j = rest ∧
        b.depot.messages.get? m = none := by
  cases b.work_service j with
  | idle shelves _ => exact .inl shelves
  | @miss m shelf rest found front missing shelves _ =>
      rcases b.work_taker j with same | ⟨notice, _, posted, opened, -⟩
      · exact .inl same
      · obtain ⟨lane, here, rfl⟩ := lane_of_notice posted
        have opened' : b.books.isOpen j = true := by
          rw [isOpen_of_lane here, show lane.queue.isClosed = false from opened]
          rfl
        have waiting : b.waitingIn j = m :: rest := by
          rw [waitingIn_eq, found, Option.map_some, Option.getD_some, front]
        refine .inr ⟨m, rest, waiting, ?_, missing.resolve_right (by simp [opened'])⟩
        rw [waitingIn_behead shelves, if_pos rfl, waiting, List.tail_cons]
  | @take x _ _ _ _ _ _ more =>
      rw [silent] at more
      simp at more

/-! ## Deliveries -/

/-- What follows from an outcome: a delivery that its peer has not answered puts its message in front
again, unless the broker is shut down. -/
theorem shelves_follow (b : Broker) (d : Delivery) (outcome : Outcome) :
    (b.follow d outcome).books.shelves =
      if Outcome.isAnswer outcome = true ∨ b.isShutDown = true then b.books.shelves
      else (b.requeue d.lane d.message).books.shelves := by
  unfold follow
  split
  · exact shelves_release _ _
  · exact shelves_release _ _
  · rename_i failure other
    have unanswered : Outcome.isAnswer (some failure) = false := by
      cases failure with
      | rejected reason => exact absurd rfl (other reason)
      | _ => rfl
    dsimp only
    have told : ∀ e : Event, (b.announce e).books.shelves = b.books.shelves := fun _ => rfl
    rw [unanswered]
    cases down : b.isShutDown with
    | true =>
        rw [if_pos (by simp [announce, note, down]), if_pos (.inr rfl)]
        exact told _
    | false =>
        rw [if_neg (by simp [announce, note, down]), if_neg (by simp)]
        exact shelves_requeue_congr (told _) d.lane d.message

/-- A delivery that is concluded is not outstanding any more, and its message is in front again if no
peer has answered it and the broker is not shut down. -/
theorem conclude_cases {landing answered : List Nat} {resumes : List Publication} {down : Bool}
    {ticket : Nat} (aloft : b.books.cargo.Aloft landing answered resumes down)
    (lands : ticket ∈ b.books.concludes ++ landing) :
    b.flights.get? ticket = none ∧ b.conclude ticket = b ∨
      ∃ d, b.flights.get? ticket = some d ∧
        b.desk.outstanding.Perm (d :: (b.conclude ticket).desk.outstanding) ∧
        (b.conclude ticket).books.shelves =
          if ticket ∈ answered ∨ down = true then b.books.shelves
          else (b.requeue d.lane d.message).books.shelves := by
  cases flown : b.flights.get? ticket with
  | none => exact .inl ⟨rfl, conclude_of_missing flown⟩
  | some d =>
      have known : ticket ∈ b.flights.keys := Table.mem_keys.2 ⟨d, flown⟩
      obtain ⟨outcome, reading, concluded⟩ := conclude_eq flown (aloft.ended ticket lands).2
      have answers : Outcome.isAnswer outcome = true ↔ ticket ∈ answered := by
        rw [← aloft.answers ticket known, show b.books.cargo.ledger.reading ticket = _ from reading]
        rfl
      have desk := (congrArg Broker.desk concluded).trans (desk_follow _ d outcome)
      rw [desk_openGate] at desk
      have books := b.books_ending d ticket
      generalize Broker.openGate _ _ = b' at concluded books
      refine .inr ⟨d, rfl, ?_, ?_⟩
      · rw [desk]
        exact outstanding_perm_erase aloft.keys flown
      · have down' : b'.isShutDown = down := (congrArg Books.isShutDown books).trans aloft.kept
        have shelves : b'.books.shelves = b.books.shelves := by rw [books]
        rw [concluded, shelves_follow, shelves, shelves_requeue_congr shelves, down']
        simp only [answers]

theorem outstanding_launch {d : Delivery} (unused : ∀ q ∈ b.ledger.pending, q.id ≠ d.id)
    (new : (b.trackedAs d).ticket ∉ b.flights.keys) :
    (d :: b.desk.outstanding).Perm (b.launch d).2.desk.outstanding := by
  have perm := outstanding_perm_insert (d := b.desk) (x := d) new
  rw [desk_launch, launch_fst unused]
  exact List.perm_middle.symm.trans perm

/-- A delivery whose write fails is concluded at once. -/
theorem dispatch_cases {answered : List Nat} {resumes : List Publication} {down : Bool}
    {d : Delivery} {p : Tracked} (aloft : b.books.cargo.Aloft [] answered resumes down)
    (waits : p ∈ b.ledger.pending) (id : p.id = d.id) (awaits : p.awaitsPeer = true)
    (flown : b.flights.get? p.ticket = some d) :
    (b.dispatch d p.ticket).desk.outstanding = b.desk.outstanding ∧
        (b.dispatch d p.ticket).books.shelves = b.books.shelves ∨
      b.desk.outstanding.Perm (d :: (b.dispatch d p.ticket).desk.outstanding) ∧
        (b.dispatch d p.ticket).books.shelves = if down = true then b.books.shelves
          else (b.requeue d.lane d.message).books.shelves := by
  have unheard : p.ticket ∉ answered := aloft.unanswered waits (Table.mem_keys.2 ⟨d, flown⟩)
  have outstanding : (b.write d.client d.frame).2.desk.outstanding = b.desk.outstanding := by
    rw [desk_write]
    rfl
  have books := b.books_write d.client d.frame
  rw [dispatch_eq aloft.tracked waits id awaits]
  generalize (b.write d.client d.frame).2 = b' at *
  have shelves : b'.books.shelves = b.books.shelves := congrArg Books.shelves books
  split
  · rw [← books] at aloft
    rw [show b.ledger = b'.ledger from (congrArg Books.ledger books).symm] at waits ⊢
    rw [show b.flights = b'.flights from (congrArg Books.flights books).symm] at flown
    have failed : (Broker.books { b' with ledger := (b'.ledger.unwritten d.id).2 }).shelves =
        b.books.shelves := shelves
    rcases conclude_cases (unwritten_aloft aloft waits id)
        (List.mem_append_right _ List.mem_cons_self) with
      ⟨missing, -⟩ | ⟨d', flown', landed, line⟩
    · exact absurd (flown.symm.trans missing) (Option.some_ne_none d)
    · obtain rfl : d' = d := Option.some.inj (flown'.symm.trans flown)
      refine .inr ⟨outstanding ▸ landed, ?_⟩
      simp only [unheard, false_or] at line
      rw [line, failed, shelves_requeue_congr failed]
  · exact .inl ⟨outstanding, shelves⟩

/-- A delivery that is written is on its way then, or its message is in front again, unless the broker
is shut down. -/
theorem send_cases {answered : List Nat} {resumes : List Publication} {down : Bool} {d : Delivery}
    (aloft : b.books.cargo.Aloft [] answered resumes down) :
    (d :: b.desk.outstanding).Perm (b.send d).desk.outstanding ∧
        (b.send d).books.shelves = b.books.shelves ∨
      b.desk.outstanding.Perm (b.send d).desk.outstanding ∧
        (b.send d).books.shelves = if down = true then b.books.shelves
          else (b.requeue d.lane d.message).books.shelves := by
  have aloft' := resolve_aloft_of_failure aloft d.id
    (show Outcome.isAnswer (some .cancelled) = false from rfl)
  have unused := unused_of_resolve aloft.tracked d.id (some .cancelled)
  have same : (b.resolve d.id (some .cancelled)).2.desk.outstanding = b.desk.outstanding := by
    rw [desk_resolve]
    rfl
  have line := b.shelves_resolve d.id (some .cancelled)
  rw [send_eq]
  generalize (b.resolve d.id (some .cancelled)).2 = b' at *
  have new : (b'.trackedAs d).ticket ∉ b'.flights.keys := fun flown =>
    Nat.lt_irrefl _ (aloft'.issued _ flown)
  have off := outstanding_launch unused new
  have shelves : (b'.launch d).2.books.shelves = b.books.shelves := by
    rw [books_launch, ← line]
  have flown : (b'.launch d).2.flights.get? (b'.trackedAs d).ticket = some d := by
    rw [← launch_fst unused]
    exact (Table.get?_insert _ _ _ _).trans (if_pos rfl)
  rw [same] at off
  rw [launch_fst unused]
  rcases dispatch_cases (launch_aloft aloft' unused) (launched_waits unused) rfl rfl flown with
    ⟨kept, line⟩ | ⟨back, line⟩
  · exact .inl ⟨kept ▸ off, line.trans shelves⟩
  · rw [shelves, shelves_requeue_congr shelves] at line
    exact .inr ⟨(off.trans back).cons_inv, line⟩

/-! ## Episodes -/

/-- The task that is performed in an episode. -/
def performs? (b : Broker) : Episode → Option Task
  | .stir (.move .task) => b.tasks.head?
  | _ => none

theorem performs_of_line {task : Task} {rest : List Task} (line : b.tasks = task :: rest) :
    b.performs? (.stir (.move .task)) = some task := by
  rw [performs?, line]
  rfl

theorem live_of_line {task : Task} {rest : List Task} (line : b.tasks = task :: rest) :
    b.live (.stir (.move .task)) = perform { b with tasks := rest } task := by
  simp only [live, stir, apply, line]

theorem task_of_performs {task : Task} {e : Episode} (which : b.performs? e = some task) :
    ∃ rest, b.tasks = task :: rest ∧ e = .stir (.move .task) := by
  unfold performs? at which
  split at which
  · obtain ⟨rest, line⟩ := List.head?_eq_some_iff.1 which
    exact ⟨rest, line, rfl⟩
  · cases which

theorem lengthens_shutDown (b : Broker) : Lengthens k b b.shutDown := by
  refine shutDown_induction (P := Lengthens k b) (.of_shelves rfl) ?_ ?_ ?_
  · intro b' j before
    have shelves : (b'.closeLane j).books.shelves = b'.books.shelves.modify j Shelf.close := by
      rw [books_closeLane]
    exact before.trans (.of_modify shelves fun _ _ => ⟨fun _ => rfl, .inl rfl⟩)
  · exact fun {b'} id before => before.trans (.of_shelves (b'.shelves_resolve id _))
  · exact fun _ before => before.trans (.of_shelves rfl)

theorem lengthens_perform (b : Broker) {task : Task} (calm : task.isAtFront = false) :
    Lengthens k b (b.perform task) := by
  cases task with
  | work j => cases calm
  | send d => cases calm
  | conclude ticket => cases calm
  | arm ticket => exact .of_shelves (congrArg Books.shelves (b.books_arm ticket))
  | expire ticket => exact .of_shelves (by rw [perform, books_expire])
  | publish tag m => exact b.lengthens_beginPublish tag m
  | resume p => exact b.lengthens_resumePublish p

/-- No task closes a queue. -/
theorem isGone_perform (b : Broker) (task : Task) (k : Nat) :
    (b.perform task).isGone k = b.isGone k :=
  isGone_of_notices (congrArg Register.notices (register_perform b task)) k

theorem lengthens_apply (sound : b.ledger.Sound) {m : Move} (other : m ≠ .task) :
    Lengthens k b (b.apply m) := by
  cases m with
  | connect id link => exact .of_shelves (shelves_connect sound id link)
  | disconnect id => exact .of_shelves (b.shelves_disconnect id)
  | feed id data =>
      simp only [apply]
      split
      · exact .refl b
      · exact .of_shelves rfl
  | frame id =>
      simp only [apply]
      split
      · exact .refl b
      · rename_i session frame _
        have read : Lengthens k b { b with sessions := b.sessions.insert id session } :=
          .of_shelves rfl
        exact read.trans (lengthens_handle _ session frame)
  | declare name route => exact b.lengthens_declare name route
  | delete name => exact b.lengthens_delete name
  | subscribe id name ceiling =>
      exact .of_shelves (congrArg Books.shelves (b.books_subscribe id name ceiling))
  | unsubscribe id name =>
      exact .of_shelves (congrArg Books.shelves (b.books_unsubscribe id name))
  | publish m => exact b.lengthens_publish m
  | publishLater tag m => exact .of_shelves rfl
  | recover => exact b.lengthens_recover
  | tamper c link => exact .of_shelves rfl
  | task => exact absurd rfl other
  | ring => exact .of_shelves (congrArg Books.shelves b.books_ring)
  | tick now => exact .of_shelves rfl

/-- An episode performs the task at the head of the line of tasks, or no worker and no delivery is
concerned. -/
theorem live_cases (sound : b.ledger.Sound) (k : Nat) (e : Episode) :
    (b.performs? e = none ∧ Lengthens k b (b.live e)) ∨
      ∃ task rest, b.tasks = task :: rest ∧ e = .stir (.move .task) ∧
        b.live e = { b with tasks := rest }.perform task := by
  cases e with
  | store depot => exact .inl ⟨rfl, .of_shelves rfl⟩
  | shutDown => exact .inl ⟨rfl, b.lengthens_shutDown⟩
  | stir s =>
      cases s with
      | holdUp holdsUp => exact .inl ⟨rfl, by cases holdsUp <;> exact .of_shelves rfl⟩
      | letGo n =>
          refine .inl ⟨rfl, ?_⟩
          simp only [live, stir]
          split
          · exact .refl b
          · rename_i p _
            have left : Lengthens k b { b with heldUp := b.heldUp.eraseIdx n } := .of_shelves rfl
            exact left.trans (lengthens_resumePublish _ p)
      | move m =>
          by_cases other : m = .task
          · subst other
            cases line : b.tasks with
            | nil =>
                simp only [performs?, live, stir, apply, line]
                exact .inl ⟨rfl, .refl b⟩
            | cons task rest => exact .inr ⟨task, rest, rfl, rfl, live_of_line line⟩
          · refine .inl ⟨?_, lengthens_apply sound other⟩
            unfold performs?
            split
            · rename_i same
              cases same
              exact absurd rfl other
            · rfl

/-- A queue that is gone stays gone. -/
theorem isGone_live (sound : b.ledger.Sound) (gone : b.isGone k = true) (e : Episode) :
    (b.live e).isGone k = true := by
  rcases live_cases sound k e with ⟨-, lengthens⟩ | ⟨task, rest, -, -, performed⟩
  · exact lengthens.gone gone
  · rw [performed, isGone_perform]
    exact gone

end Broker

end MessageBroker
