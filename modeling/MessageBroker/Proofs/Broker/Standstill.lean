import MessageBroker.Proofs.Broker.Provenance
import MessageBroker.Proofs.Broker.Wakeups

/-!
# The standstill after the shutdown

A broker is shut down when no delivery is going to be written, no publication goes on, and no delivery
on its way has been answered by its peer. No queue is declared afterwards. From then on its queues are
closed, no delivery is going to be written, and no send waits for an outcome. That is kept by whatever
is done to it, and it is enough for the rest: there is no queue to publish to, a worker that goes on
stops, a delivery that is concluded is not put back, and answers, time limits and connections that end
find nothing to settle.
-/

namespace MessageBroker

namespace Store.Depot

/-- A call that is only to look leaves what is stored. -/
theorem messages_use {α : Type} (d : Depot) (call : Call) (look : Messages → Except Error α) :
    (d.use call fun messages => (look messages, messages)).2.messages = d.messages := by
  unfold use
  split <;> rfl

theorem messages_get? (d : Depot) (id : CorrelationId) : (d.get? id).2.messages = d.messages :=
  d.messages_use .get fun messages => .ok (messages.get? id)

theorem messages_oldest (d : Depot) (limit : Nat) : (d.oldest limit).2.messages = d.messages :=
  d.messages_use .pending fun messages => .ok (messages.oldest limit)

end Store.Depot

/-- No outcome of a ticket is the word of a peer. -/
def Ledger.Unanswered (l : Ledger) (ticket : Nat) : Prop :=
  ∀ outcome : Outcome, l.outcomes.get? ticket = some outcome → outcome.isAnswer = false

/-- A send that waits has no outcome yet. -/
theorem Ledger.unanswered_of_isWaiting {l : Ledger} (sound : l.Sound) {ticket : Nat}
    (waits : l.isWaiting ticket = true) : l.Unanswered ticket := by
  obtain ⟨p, pending, rfl⟩ := Ledger.isWaiting_iff.1 waits
  intro outcome settled
  rw [sound.unread p pending] at settled
  cases settled

/-- What is settled without a peer is not answered. -/
theorem Ledger.Unanswered.resolveEach {l : Ledger} {ticket : Nat} (unanswered : l.Unanswered ticket)
    {outcome : Outcome} (failed : outcome.isAnswer = false) (ids : List CorrelationId) :
    (ids.foldl (fun l id => (l.resolve id outcome).2) l).Unanswered ticket := by
  induction ids generalizing l with
  | nil => exact unanswered
  | cons id ids ih =>
      refine ih ?_
      dsimp only
      unfold Ledger.resolve
      split
      · intro outcome' settled
        rw [Ledger.settle, Table.get?_insert] at settled
        split at settled
        · exact Option.some.inj settled ▸ failed
        · exact unanswered outcome' settled
      · exact unanswered

/-- Whether something that is said is a delivery. -/
def Front.isDelivery (said : Nat × Wire.Frame) : Bool :=
  said.2.kind = .message

/-- Nothing is taken out of the books or put into them any more. -/
structure Books.Frozen (s₀ s : Books) : Prop where
  down : s.isShutDown = true
  closed : ∀ shelf ∈ s.shelves, shelf.isClosed = true
  shelves : s.shelves.map Shelf.pending = s₀.shelves.map Shelf.pending
  messages : s.depot.messages = s₀.depot.messages
  references : s.references = s₀.references
  sends : s.sends = []
  resumes : s.resumes = []
  settled : s.ledger.pending = []
  flown : ∀ n d, s.flights.get? n = some d → s₀.flights.get? n = some d
  unanswered : ∀ n ∈ s.flights.keys, s.ledger.Unanswered n

namespace Broker

open Books

variable {b b' : Broker} {s₀ : Books}

/-! ## What finds nothing to do -/

/-- The shelf of a lane is in the books. -/
theorem shelf_mem {k : Nat} {lane : Lane} (found : b.lanes[k]? = some lane) :
    lane.shelf ∈ b.books.shelves :=
  List.mem_map_of_mem (List.mem_of_getElem? found)

theorem matching_of_frozen (frozen : s₀.Frozen b.books) (route : String) :
    b.matching route = [] := by
  refine List.eq_nil_iff_forall_not_mem.2 fun k listed => ?_
  obtain ⟨⟨j, lane⟩, place, matched⟩ := List.mem_filterMap.1 listed
  obtain ⟨i, found⟩ := List.mem_iff_getElem?.1 place
  rw [List.getElem?_mapIdx, Option.map_eq_some_iff] at found
  obtain ⟨lane', found', same⟩ := found
  obtain ⟨-, rfl⟩ := Prod.mk.inj same
  have closed : lane'.queue.isClosed = true := frozen.closed _ (shelf_mem found')
  simp [closed] at matched

theorem lane?_of_frozen (frozen : s₀.Frozen b.books) (name : String) : b.lane? name = none := by
  cases declared : b.lane? name with
  | none => rfl
  | some entry =>
      obtain ⟨k, lane⟩ := entry
      obtain ⟨found, opened, -⟩ := lane?_eq_some declared
      have closed : lane.queue.isClosed = true := frozen.closed _ (shelf_mem found)
      rw [opened] at closed
      cases closed

theorem resolve_of_frozen (frozen : s₀.Frozen b.books) (id : CorrelationId) (outcome : Outcome) :
    (b.resolve id outcome).2 = b := by
  have nothing : b.ledger.find? id = none := by
    rw [Ledger.find?, show b.ledger.pending = [] from frozen.settled]
    rfl
  rw [resolve, nothing]

theorem resolveEach_of_frozen (frozen : s₀.Frozen b.books) (outcome : Outcome)
    (ids : List CorrelationId) : ids.foldl (fun b id => (b.resolve id outcome).2) b = b := by
  induction ids with
  | nil => rfl
  | cons id ids ih => rw [List.foldl_cons, resolve_of_frozen frozen, ih]

theorem nobody_waits (frozen : s₀.Frozen b.books) (ticket : Nat) :
    b.ledger.isWaiting ticket = false := by
  rw [Ledger.isWaiting, show b.ledger.pending = [] from frozen.settled]
  rfl

theorem publish_of_frozen (frozen : s₀.Frozen b.books) (m : Store.Message) :
    b.publish m = (.error (.noMatchingQueue m.route), b) := by
  rw [publish, matching_of_frozen frozen]

/-- A worker that goes on finds its queue closed. -/
theorem work_of_frozen (frozen : s₀.Frozen b.books) (k : Nat) :
    b.work k = b.stepAside k ∨ b.work k = (b.stepAside k).setStage k .stopped := by
  have aside : s₀.Frozen (b.stepAside k).books := by
    rw [books_stepAside]
    exact frozen
  cases found : (b.stepAside k).lanes[k]? with
  | none => exact .inl (work_of_none found)
  | some lane => exact .inr (work_of_closed found (aside.closed _ (shelf_mem found)))

/-- A delivery that has no answer is not put back. -/
theorem follow_of_down (down : b.isShutDown = true) (d : Delivery) {outcome : Outcome}
    (failed : outcome.isAnswer = false) : ∃ e, b.follow d outcome = b.announce e := by
  cases outcome with
  | none => cases failed
  | some failure =>
      cases failure with
      | rejected reason => cases failed
      | _ => exact ⟨_, if_pos down⟩

/-- A delivery that is concluded gives its slot back, and that is all. -/
theorem conclude_of_frozen (frozen : s₀.Frozen b.books) (ticket : Nat) :
    b.conclude ticket = b ∨ ∃ (d : Delivery) (e : Event), b.conclude ticket =
      (Broker.openGate (modifyClient { b with
          ledger := (b.ledger.collect ticket).2
          flights := b.flights.erase ticket }
        d.client fun client => (client.untrack d.id).2.release) d.lane).announce e := by
  cases flown : b.flights.get? ticket with
  | none => exact .inl (conclude_of_missing flown)
  | some d =>
      obtain ⟨outcome, reading, concluded⟩ := conclude_eq flown (nobody_waits frozen ticket)
      have failed : outcome.isAnswer = false := by
        rw [Ledger.reading_eq, nobody_waits frozen ticket] at reading
        split at reading
        · rename_i settled
          exact frozen.unanswered ticket (Table.mem_keys.2 ⟨d, flown⟩) outcome (reading ▸ settled)
        · obtain rfl := Option.some.inj reading
          rfl
      have down : (Broker.openGate (modifyClient { b with
          ledger := (b.ledger.collect ticket).2
          flights := b.flights.erase ticket }
        d.client fun client => (client.untrack d.id).2.release) d.lane).isShutDown = true :=
        (congrArg Books.isShutDown (b.books_ending d ticket)).trans frozen.down
      obtain ⟨e, told⟩ := follow_of_down down d failed
      exact .inr ⟨d, e, concluded.trans told⟩

/-! ## One move -/

theorem frozen_announce (frozen : s₀.Frozen b.books) (e : Event) :
    s₀.Frozen (b.announce e).books :=
  { frozen with }

/-- Calls of the store that fail or work leave what it holds. -/
theorem frozen_depot (frozen : s₀.Frozen b.books) {depot : Store.Depot}
    (same : depot.messages = b.depot.messages) : s₀.Frozen (Broker.books { b with depot }) :=
  { frozen with messages := same.trans frozen.messages }

theorem frozen_greet (frozen : s₀.Frozen b.books) (sound : b.ledger.Sound) (c : Nat) :
    s₀.Frozen (b.greet c).books := by
  obtain ⟨ledger, books, pending, -, outcomes⟩ := books_greet sound c
  have idle := resolve_of_frozen (b := b.mintId.2) frozen b.mintId.1 (some .cancelled)
  rw [idle] at books pending outcomes
  rw [books]
  refine { frozen with settled := pending.trans frozen.settled, unanswered := ?_ }
  intro n flown outcome
  rw [outcomes]
  exact frozen.unanswered n flown outcome

theorem frozen_connect (frozen : s₀.Frozen b.books) (sound : b.ledger.Sound) (id : String)
    (link : Peer.Link) : s₀.Frozen (b.connect id link).2.books := by
  unfold connect
  dsimp only
  split
  · exact frozen
  · exact frozen_greet (b := Broker.announce { b with
      buffers := (Stream.Assembler.new b.buffers b.settings.initialBufferSize
        b.settings.maxBodySize).2
      clients := b.clients ++ [Peer.Client.new id link b.settings.defaultMaxConcurrency]
      sessions := b.sessions.insert id ⟨id, b.clients.length, (Stream.Assembler.new b.buffers
        b.settings.initialBufferSize b.settings.maxBodySize).1, []⟩ } (.connected id))
      (frozen_announce frozen _) sound _

theorem frozen_disconnect (frozen : s₀.Frozen b.books) (id : String) :
    s₀.Frozen (b.disconnect id).books := by
  rcases b.books_disconnect id with same | ⟨b', ids, books, same⟩
  · rw [same]
    exact frozen
  · rw [← books] at frozen
    rw [same, resolveEach_of_frozen frozen]
    exact frozen_announce frozen _

theorem frozen_delete (frozen : s₀.Frozen b.books) (name : String) :
    s₀.Frozen (b.delete name).2.books := by
  rw [delete, lane?_of_frozen frozen]
  exact frozen

/-- A declaration that is granted gives a queue its lane. -/
theorem declare_cases (b : Broker) (name route : String) : (b.declare name route).2 = b ∨
    (b.declare name route).2.lanes.length = b.lanes.length + 1 := by
  unfold declare
  split
  · exact .inl rfl
  · split
    · exact .inl rfl
    · split
      · split <;> exact .inl rfl
      · exact .inr (List.length_append.trans rfl)

theorem frozen_declare (frozen : s₀.Frozen b.books) {name route : String}
    (still : (b.declare name route).2.lanes.length = b.lanes.length) :
    s₀.Frozen (b.declare name route).2.books := by
  rcases b.declare_cases name route with same | more
  · rw [same]
    exact frozen
  · exact absurd (more.symm.trans still) (Nat.succ_ne_self _)

theorem frozen_request (frozen : s₀.Frozen b.books) (connection : String) (id : CorrelationId)
    {body : Wire.Body}
    (still : (b.request connection id body).2.lanes.length = b.lanes.length) :
    s₀.Frozen (b.request connection id body).2.books := by
  cases body with
  | message route payload =>
      rw [request, publish_of_frozen frozen]
      exact frozen
  | subscribe queue ceiling =>
      rw [request, books_subscribe]
      exact frozen
  | unsubscribe queue =>
      rw [request, books_unsubscribe]
      exact frozen
  | declare name route => exact frozen_declare frozen still
  | delete name => exact frozen_delete frozen name
  | nack reason => exact frozen

theorem lanes_length_of_desk {d : Desk} (same : b.desk = d) :
    b.lanes.length = d.notices.length := by
  rw [← same, desk, List.length_map]

theorem lanes_length_reply (b : Broker) (c : Nat) (id : CorrelationId)
    (result : Except RequestError Unit) : (b.reply c id result).lanes.length = b.lanes.length := by
  cases result <;> exact (lanes_length_of_desk (b.desk_write c _)).trans (List.length_map _)

theorem frozen_handle (frozen : s₀.Frozen b.books) (session : Peer.Session) (frame : Wire.Frame)
    (still : (b.handle session frame).2.lanes.length = b.lanes.length) :
    s₀.Frozen (b.handle session frame).2.books := by
  rw [handle_eq] at still ⊢
  cases purport : frame.purport with
  | answer outcome =>
      rw [resolve_of_frozen frozen]
      exact frozen
  | call =>
      rw [books_reply]
      exact frozen
  | request body =>
      simp only [purport, lanes_length_reply] at still
      rw [books_reply]
      exact frozen_request frozen session.id frame.id still
  | offence e => exact frozen

theorem frozen_recoverOne (frozen : s₀.Frozen b.books) (report : Recovery) (id : CorrelationId) :
    s₀.Frozen (b.recoverOne report id).2.books := by
  have looked : (b.depot.get? id).2.messages = b.depot.messages := b.depot.messages_get? id
  unfold recoverOne
  split
  · exact frozen
  · split <;> rename_i depot got <;> rw [got] at looked <;>
      have frozen' := frozen_depot frozen looked
    · exact frozen'
    · exact frozen'
    · dsimp only
      rw [matching_of_frozen frozen']
      exact frozen'

/-- A recovery finds no queue for what is stored. -/
theorem frozen_recover (frozen : s₀.Frozen b.books) : s₀.Frozen b.recover.2.books := by
  have each : ∀ (ids : List CorrelationId) (report : Recovery) (b : Broker), s₀.Frozen b.books →
      s₀.Frozen (b.recoverEach report ids).2.books := by
    intro ids
    induction ids with
    | nil => exact fun _ _ frozen => frozen
    | cons id ids ih =>
        intro report b frozen
        have one := frozen_recoverOne frozen report id
        rw [recoverEach]
        split <;> rename_i looked <;> rw [looked] at one
        · exact one
        · exact ih _ _ one
  have listed := b.depot.messages_oldest b.settings.recoveryBatchLimit
  unfold recover
  split <;> rename_i depot found <;> rw [found] at listed
  · exact frozen_depot frozen listed
  · exact each _ _ _ (frozen_depot frozen listed)

/-! ## One task -/

/-- The task at the head of the line is not to write a delivery or to go on with a publication. -/
theorem frozen_pop (frozen : s₀.Frozen b.books) {task : Task} {rest : List Task}
    (line : b.tasks = task :: rest) :
    task.delivery? = none ∧ task.publication? = none ∧
      s₀.Frozen (Broker.books { b with tasks := rest }) := by
  have books := books_pop line
  have sends := frozen.sends
  have resumes := frozen.resumes
  rw [show b.books.sends = _ from congrArg Books.sends books, List.append_eq_nil_iff,
    Option.toList_eq_nil_iff] at sends
  rw [show b.books.resumes = _ from congrArg Books.resumes books, List.append_eq_nil_iff,
    Option.toList_eq_nil_iff] at resumes
  exact ⟨sends.1, resumes.1, { frozen with sends := sends.2, resumes := resumes.2 }⟩

theorem frozen_conclude (frozen : s₀.Frozen b.books) (ticket : Nat) :
    s₀.Frozen (b.conclude ticket).books := by
  obtain ⟨pending, -, outcomes⟩ := Ledger.collect_snd b.ledger ticket
  rcases conclude_of_frozen frozen ticket with same | ⟨d, e, same⟩
  · rw [same]
    exact frozen
  · rw [same]
    refine frozen_announce ?_ e
    rw [books_ending]
    refine { frozen with settled := pending.trans frozen.settled, flown := ?_, unanswered := ?_ }
    · intro n d' flown
      rw [Table.get?_erase] at flown
      split at flown
      · cases flown
      · exact frozen.flown n d' flown
    · intro n flown outcome settled
      rw [Table.keys_erase, List.mem_filter] at flown
      rw [outcomes] at settled
      split at settled
      · cases settled
      · exact frozen.unanswered n flown.1 outcome settled

theorem frozen_task (frozen : s₀.Frozen b.books) {task : Task} {rest : List Task}
    (line : b.tasks = task :: rest) :
    s₀.Frozen (perform { b with tasks := rest } task).books := by
  obtain ⟨unsent, fresh, popped⟩ := frozen_pop frozen line
  cases task with
  | work k =>
      rcases work_of_frozen popped k with same | same <;> rw [perform, same]
      · rw [books_stepAside]
        exact popped
      · rw [books_setStage, books_stepAside]
        exact popped
  | send d => cases unsent
  | arm ticket =>
      rw [perform, books_arm]
      exact popped
  | expire ticket =>
      rw [perform, expire, nobody_waits popped]
      exact popped
  | conclude ticket => exact frozen_conclude popped ticket
  | publish tag m =>
      rw [perform, beginPublish, matching_of_frozen popped]
      exact popped
  | resume p => cases fresh

/-- Whatever is done, the books stay frozen as long as no queue is declared. -/
theorem frozen_apply (frozen : s₀.Frozen b.books) (sound : b.ledger.Sound) (m : Move)
    (still : (b.apply m).lanes.length = b.lanes.length) : s₀.Frozen (b.apply m).books := by
  cases m with
  | connect id link => exact frozen_connect frozen sound id link
  | disconnect id => exact frozen_disconnect frozen id
  | feed id data =>
      simp only [apply]
      split <;> exact frozen
  | frame id =>
      cases found : b.nextFrame? id with
      | none =>
          simp only [apply, found]
          exact frozen
      | some taken =>
          simp only [apply, found] at still ⊢
          exact frozen_handle (b := { b with sessions := b.sessions.insert id taken.1 }) frozen
            taken.1 taken.2 still
  | declare name route => exact frozen_declare frozen still
  | delete name => exact frozen_delete frozen name
  | subscribe id name ceiling =>
      rw [apply, books_subscribe]
      exact frozen
  | unsubscribe id name =>
      rw [apply, books_unsubscribe]
      exact frozen
  | publish m =>
      rw [apply, publish_of_frozen frozen]
      exact frozen
  | publishLater tag m =>
      rw [apply, books_later]
      simpa [Task.delivery?, Task.ticket?, Task.publication?] using frozen
  | recover => exact frozen_recover frozen
  | tamper c link => exact frozen
  | task =>
      cases line : b.tasks with
      | nil =>
          simp only [apply, line]
          exact frozen
      | cons task rest =>
          simp only [apply, line]
          exact frozen_task frozen line
  | ring =>
      rw [apply, books_ring]
      exact frozen
  | tick now => exact frozen

/-- Nothing that is said is a delivery. -/
theorem utters_of_frozen (frozen : s₀.Frozen b.books) (e : Episode) :
    (b.utters e).filter Front.isDelivery = [] := by
  refine List.filter_eq_nil_iff.2 fun ⟨c, frame⟩ said delivered => ?_
  obtain ⟨-, d, first, -⟩ := sends_of_utters said (of_decide_eq_true delivered)
  have listed : d ∈ b.books.sends := mem_sends.2 (List.mem_of_mem_head? first)
  rw [frozen.sends] at listed
  exact List.not_mem_nil listed

/-! ## The shutdown -/

/-- Queues are closed one after the other. -/
theorem books_closeEach (b : Broker) (n : Nat) : ∃ shelves : List Shelf,
    ((List.range n).foldl closeLane b).books = { b.books with shelves } ∧ ∀ j, shelves[j]? =
      if j < n then b.books.shelves[j]?.map Shelf.close else b.books.shelves[j]? := by
  induction n with
  | zero => exact ⟨_, rfl, fun _ => rfl⟩
  | succ n ih =>
      obtain ⟨shelves, books, places⟩ := ih
      refine ⟨shelves.modify n Shelf.close, ?_, fun j => ?_⟩
      · rw [List.range_succ, List.foldl_append, List.foldl_cons, List.foldl_nil, books_closeLane,
          books]
      · rw [List.getElem?_modify, places]
        rcases Nat.lt_trichotomy j n with before | rfl | after
        · rw [if_pos before, if_pos (Nat.lt_succ_of_lt before)]
          simp [Nat.ne_of_gt before]
        · simp
        · rw [if_neg (Nat.not_lt.2 (Nat.le_of_lt after)), if_neg (by omega)]
          simp [Nat.ne_of_lt after]

theorem books_closeAll (b : Broker) : ((List.range b.lanes.length).foldl closeLane b).books =
    { b.books with shelves := b.books.shelves.map Shelf.close } := by
  obtain ⟨shelves, books, places⟩ := b.books_closeEach b.lanes.length
  have whole : shelves = b.books.shelves.map Shelf.close := by
    apply List.ext_getElem?
    intro j
    rw [places, List.getElem?_map]
    split
    · rfl
    · rename_i beyond
      have missing : b.books.shelves[j]? = none := by
        rw [List.getElem?_eq_none_iff, Broker.books, List.length_map]
        exact Nat.not_lt.1 beyond
      rw [missing]
      rfl
  rw [books, whole]

theorem books_resolveEach (b : Broker) (outcome : Outcome) (ids : List CorrelationId) :
    (ids.foldl (fun b id => (b.resolve id outcome).2) b).books =
      { b.books with
        ledger := ids.foldl (fun l id => (l.resolve id outcome).2) b.ledger
        concludes := (ids.foldl (fun b id => (b.resolve id outcome).2) b).books.concludes } := by
  induction ids generalizing b with
  | nil => rfl
  | cons id ids ih =>
      have one := b.books_resolve id outcome
      have ledger : (b.resolve id outcome).2.ledger = (b.ledger.resolve id outcome).2 :=
        congrArg Books.ledger one
      rw [List.foldl_cons, ih, one, ledger]
      rfl

/-- The shutdown closes all queues and cancels all sends that wait for an outcome. -/
theorem books_shutDown (b : Broker) : b.shutDown.books = { b.books with
    shelves := b.books.shelves.map Shelf.close
    ledger := (b.ledger.pending.map Tracked.id).foldl
      (fun l id => (l.resolve id (some .cancelled)).2) b.ledger
    concludes := b.shutDown.books.concludes
    isShutDown := true } := by
  have unlinked : ∀ (sessions : List Peer.Session) (b : Broker),
      (sessions.foldl (fun b session => b.modifyClient session.client fun client =>
        { client with link := client.link.close }) b).books = b.books := by
    intro sessions
    induction sessions with
    | nil => exact fun _ => rfl
    | cons session sessions ih => exact fun b => ih _
  have closed := books_closeAll { b with isShutDown := true }
  unfold shutDown
  dsimp only at closed ⊢
  rw [unlinked]
  generalize (List.range b.lanes.length).foldl closeLane { b with isShutDown := true } = b'
    at closed ⊢
  have ledger : b'.ledger = b.ledger := congrArg Books.ledger closed
  rw [ledger, books_resolveEach, closed, ledger]
  rfl

/-- A broker stands still after the shutdown if no delivery is going to be written, no publication goes
on and no delivery on its way has been answered. -/
theorem frozen_shutDown (unsent : b.books.sends = []) (fresh : b.books.resumes = [])
    (sound : b.ledger.Sound) (unanswered : ∀ n ∈ b.flights.keys, b.ledger.Unanswered n) :
    b.books.Frozen b.shutDown.books := by
  rw [books_shutDown]
  refine ⟨rfl, ?_, ?_, rfl, rfl, unsent, fresh, ?_, fun _ _ flown => flown, ?_⟩
  · intro shelf listed
    obtain ⟨before, -, rfl⟩ := List.mem_map.1 listed
    rfl
  · rw [List.map_map]
    rfl
  · refine List.eq_nil_iff_forall_not_mem.2 fun p pending => ?_
    obtain ⟨before, spared⟩ := (Ledger.mem_resolveEach sound _ _).1 pending
    exact spared (List.mem_map_of_mem before)
  · exact fun n flown => (unanswered n flown).resolveEach rfl _

/-- A second shutdown finds all queues closed and no send that waits. -/
theorem frozen_again (frozen : s₀.Frozen b.books) : s₀.Frozen b.shutDown.books := by
  have settled : b.ledger.pending = [] := frozen.settled
  rw [books_shutDown, settled]
  refine { frozen with down := rfl, closed := ?_, shelves := ?_ }
  · intro shelf listed
    obtain ⟨before, -, rfl⟩ := List.mem_map.1 listed
    rfl
  · rw [← frozen.shelves, List.map_map]
    rfl

/-- In no episode that spares the store are the books changed, as long as no queue is declared. -/
theorem frozen_live (frozen : s₀.Frozen b.books) (sound : b.ledger.Sound) {e : Episode}
    (spares : e.sparesStore = true) (still : (b.live e).lanes.length = b.lanes.length) :
    s₀.Frozen (b.live e).books := by
  cases e with
  | store depot => cases spares
  | shutDown => exact frozen_again frozen
  | stir s =>
      cases s with
      | move m => exact frozen_apply frozen sound m still
      | holdUp holdsUp => cases spares
      | letGo n => cases spares

/-! ## Workers -/

theorem kept_shutDown (kept : b.watch.Kept) : b.shutDown.watch.Kept := by
  refine shutDown_induction (P := fun b => b.watch.Kept) kept ?_ ?_ ?_
  · exact fun k kept => kept_closeLane kept k
  · intro b id kept
    rw [watch_resolve]
    exact kept
  · exact fun _ kept => kept

/-- Every episode leaves all workers doing their duty, unless it turns the clock back. -/
theorem kept_live (kept : b.watch.Kept) (e : Episode) (onward : b.now ≤ (b.live e).now) :
    (b.live e).watch.Kept := by
  cases e with
  | store depot => exact kept
  | shutDown => exact kept_shutDown kept
  | stir s =>
      cases s with
      | move m => exact kept_apply kept m onward
      | holdUp holdsUp =>
          have same : (b.setHoldUp holdsUp).watch = b.watch := by
            refine watch_eq (fun k => ?_) ?_ ?_ <;> cases holdsUp <;>
              simp [setHoldUp, duty, List.count_eq_zero]
          rw [live, stir, same]
          exact kept
      | letGo n =>
          simp only [live, stir]
          split
          · exact kept
          · exact kept_bring (b := { b with heldUp := b.heldUp.eraseIdx n }) kept _ _

/-- The worker of a closed queue does not wait. -/
theorem stage_of_closed (kept : b.watch.Kept) {k : Nat} {lane : Lane}
    (found : b.lanes[k]? = some lane) (closed : lane.queue.isClosed = true) :
    lane.stage ≠ .waiting := by
  have stands := (kept k).stands
  have own : b.watch.duty k = ⟨some lane.post, b.tasks.count (.work k), b.alarmsOf k⟩ := by
    simp [watch, duty, found, alarmsOf]
  rw [own] at stands
  intro waiting
  generalize b.tasks.count (.work k) = tasks, b.alarmsOf k = alarms at stands
  cases stands with
  | due stage => simp_all [Lane.post]
  | idle stage isOpen => simp_all [Lane.post]
  | retrying stage isOpen => simp_all [Lane.post]
  | stopped stage => simp_all [Lane.post]

/-- A worker that does not wait is not called. -/
theorem tasks_openGate {k : Nat} (calm : ∀ lane, b.lanes[k]? = some lane → lane.stage ≠ .waiting) :
    (b.openGate k).tasks = b.tasks := by
  unfold openGate rouse
  split
  · rename_i lane found
    have away : ¬(lane.stage = .waiting ∧ lane.queue.gate.calling = true) := by
      rintro ⟨waiting, -⟩
      rw [modifyQueue, modifyLane, List.getElem?_modify] at found
      obtain ⟨before, there, same⟩ := Option.map_eq_some_iff.1 found
      rw [if_pos rfl] at same
      exact calm before there ((congrArg Lane.stage same).trans waiting)
    rw [if_neg away]
    rfl
  · rfl

/-- A task that is performed adds none to the line. -/
theorem tasks_of_frozen (frozen : s₀.Frozen b.books) (kept : b.watch.Kept) {task : Task}
    {rest : List Task} (line : b.tasks = task :: rest) :
    (perform { b with tasks := rest } task).tasks = rest := by
  obtain ⟨unsent, fresh, popped⟩ := frozen_pop frozen line
  cases task with
  | work k => rcases work_of_frozen popped k with same | same <;> rw [perform, same] <;> rfl
  | send d => cases unsent
  | arm ticket =>
      rw [perform, arm, nobody_waits popped]
      rfl
  | expire ticket =>
      rw [perform, expire, nobody_waits popped]
      rfl
  | conclude ticket =>
      rcases conclude_of_frozen popped ticket with same | ⟨d, e, same⟩ <;> rw [perform, same]
      refine tasks_openGate fun lane found => ?_
      exact stage_of_closed kept found (frozen.closed _ (shelf_mem found))
  | publish tag m =>
      rw [perform, beginPublish, matching_of_frozen popped]
      rfl
  | resume p => cases fresh

end Broker

end MessageBroker
