import MessageBroker.Proofs.Broker.Effects
import MessageBroker.Proofs.Broker.Placement
import MessageBroker.Proofs.Broker.Retirement
import MessageBroker.Proofs.Wire.Bodies

/-!
# The provenance of deliveries

Every delivery that a broker tries to write goes back to a message that a queue received, by a
publication or a recovery, and has not settled since. The queue accepts the route of the message, a
slot of one of its subscribers was reserved for the delivery, and the frame carries the route and the
payload that the message was published with. And a message that is published comes to every declared
queue that accepts its route, once, and to no other.
-/

namespace MessageBroker

open Books

/-- Whether an episode leaves the store to itself. A store in memory does not fail and holds nothing
up. -/
def Episode.sparesStore : Episode → Bool
  | .stir (.move _) | .shutDown => true
  | _ => false

namespace Broker

open Wire

/-- The queue of a lane is declared and its pattern accepts a route. -/
def Accepts (b : Broker) (k : Nat) (route : String) : Prop :=
  ∃ lane, b.lanes[k]? = some lane ∧ lane.queue.isClosed = false ∧
    lane.queue.pattern.accepts route = true

/-- A queue receives a message under an id with a move: the message is published, or it is stored and
recovered. The queue accepts the route, no queue had the message before, and the store has it
afterwards. -/
structure Receives (b : Broker) (m : Move) (k : Nat) (id : CorrelationId) (p : Store.Message) :
    Prop where
  source : b.publication? m = some p ∧ p.id = id ∨
    m = .recover ∧ b.depot.messages.get? id = some p
  accepts : b.Accepts k p.route
  new : ∀ j, ¬b.owes j id
  stored : (b.apply m).depot.messages.get? id = some p

/-- With the next task a worker reserves a slot of a subscriber of its queue, which is declared, and
starts a delivery under a new id. -/
structure Reserves (b : Broker) (d : Delivery) : Prop where
  worker : b.tasks.head? = some (.work d.lane)
  subscribed : ∃ lane, b.lanes[d.lane]? = some lane ∧ lane.queue.isClosed = false ∧
    ∃ member ∈ lane.queue.roster.members, member.client = d.client
  room : b.hasRoom d.client = true
  id : d.id = b.mint b.minted
  started : .send d ∈ (b.apply .task).tasks

variable {b start : Broker} {life : List Episode} {k : Nat} {id : CorrelationId}
  {p : Store.Message}

/-! ## Messages that queues have -/

/-- A queue that gets a message receives it. -/
theorem receives_of_fansOut (backed : b.books.Backed 0) (filed : b.docket.Filed) {m : Move}
    (gets : k ∈ b.fansOut m id) : ∃ p, b.Receives m k id p := by
  have step := move_step backed filed m
  have some' : b.fansOut m id ≠ [] := List.ne_nil_of_mem gets
  have new : ∀ j, ¬b.owes j id := fun j owes =>
    tally_ne_zero_of_mem (owes_iff.1 owes) (step.begun id some')
  have stored := step.stored id some'
  by_cases which : m = .recover
  · subst which
    simp only [fansOut] at gets
    split at gets
    · unfold heirs at gets
      split at gets
      · rename_i p _ found
        exact ⟨p, .inr ⟨rfl, found⟩, mem_matching.1 gets, new, stored.trans found⟩
      · cases gets
    · cases gets
  · have published : b.fansOut m = b.takersOf (b.publication? m) ∧
        b.brings m id = b.publication? m := by
      cases m <;> first | exact ⟨rfl, rfl⟩ | exact absurd rfl which
    rw [published.1] at gets
    rw [published.2] at stored
    cases source : b.publication? m with
    | none =>
        rw [source] at gets
        cases gets
    | some p =>
        rw [source] at gets stored
        simp only [takersOf] at gets
        split at gets
        · rename_i same
          simp only [takers] at gets
          split at gets
          · exact ⟨p, .inl ⟨source, same⟩, mem_matching.1 gets, new, stored⟩
          · cases gets
        · cases gets

/-- A queue has a message that it received at some point of a life, and has had it ever since. -/
def Holds (start : Broker) (life : List Episode) (k : Nat) (id : CorrelationId)
    (p : Store.Message) : Prop :=
  ∃ early m late, life = early ++ .stir (.move m) :: late ∧
    (start.through early).Receives m k id p ∧
    ∀ since, since <+: late → (start.through (early ++ .stir (.move m) :: since)).owes k id

theorem Holds.extend (holds : Holds start life k id p) {e : Episode}
    (owes : (start.through (life ++ [e])).owes k id) : Holds start (life ++ [e]) k id p := by
  obtain ⟨early, m, late, rfl, receives, owed⟩ := holds
  refine ⟨early, m, late ++ [e], by simp, receives, fun since front => ?_⟩
  rcases List.prefix_concat_iff.1 front with rfl | before
  · simpa using owes
  · exact owed since before

theorem through_concat (start : Broker) (life : List Episode) (e : Episode) :
    start.through (life ++ [e]) = (start.through life).live e :=
  start.through_append life [e]

/-- What an episode that spares the store does to stakes. -/
theorem live_step (backed : b.books.Backed 0) (filed : b.docket.Filed) {e : Episode}
    (spares : e.sparesStore = true) :
    (∃ m, e = .stir (.move m) ∧ Step b.books (b.fansOut m) (b.brings m) (b.live e).books) ∨
      Step b.books (fun _ => []) (fun _ => none) (b.live e).books := by
  cases e with
  | store depot => cases spares
  | shutDown => exact .inr (shutDown_bears backed).step
  | stir s =>
      cases s with
      | move m => exact .inl ⟨m, rfl, move_step backed filed m⟩
      | holdUp holdsUp => cases spares
      | letGo n => cases spares

variable {settings : Settings.Engine} {mint : Nat → CorrelationId} {calendar : Nat}
  {messages : Store.Messages}

theorem backed_through
    (started : Broker.new? settings mint calendar (.holding messages) = some start)
    (spares : ∀ e ∈ life, e.sparesStore = true) : (start.through life).books.Backed 0 := by
  induction life using List.reverseRecOn with
  | nil => exact (backed_start started).1
  | append_singleton life e ih =>
      obtain ⟨before, spared⟩ := List.forall_mem_append.1 spares
      rw [List.forall_mem_singleton] at spared
      have backed := ih before
      rw [through_concat]
      rcases live_step backed (filed_through started life) spared with ⟨m, -, step⟩ | step
      · exact step.backed
      · exact step.backed

/-- What a queue has it received, and the store has it as it was received. -/
theorem holds_of_owes
    (started : Broker.new? settings mint calendar (.holding messages) = some start)
    (spares : ∀ e ∈ life, e.sparesStore = true) (owes : (start.through life).owes k id) :
    ∃ p, (start.through life).depot.messages.get? id = some p ∧ Holds start life k id p := by
  induction life using List.reverseRecOn with
  | nil =>
      have held := owes_iff.1 owes
      rw [show (start.through []).books.stakes = 0 from (backed_start started).2] at held
      exact absurd held (Multiset.notMem_zero _)
  | append_singleton life e ih =>
      obtain ⟨before, spared⟩ := List.forall_mem_append.1 spares
      rw [List.forall_mem_singleton] at spared
      have backed := backed_through started before
      have filed : (start.through life).docket.Filed := filed_through started life
      have held := owes_iff.1 owes
      -- What the queue had before it has still, with the same content.
      have kept : ∀ {gained : CorrelationId → List Nat} {brought},
          Step (start.through life).books gained brought (start.through (life ++ [e])).books →
          (k, id) ∈ (start.through life).books.stakes →
          ∃ p, (start.through (life ++ [e])).depot.messages.get? id = some p ∧
            Holds start (life ++ [e]) k id p := by
        intro gained brought step earlier
        obtain ⟨p, stored, holds⟩ := ih before (owes_iff.2 earlier)
        exact ⟨p, (step.kept k id held earlier).trans stored, holds.extend owes⟩
      have live := through_concat start life e
      rcases live_step backed filed spared with ⟨m, which, step⟩ | step
      · rw [← live] at step
        rcases step.traced k id held with earlier | gets
        · exact kept step earlier
        · obtain ⟨p, receives⟩ := receives_of_fansOut backed filed gets
          subst which
          refine ⟨p, ?_, life, m, [], rfl, receives, fun since front => ?_⟩
          · rw [live]
            exact receives.stored
          · rw [List.prefix_nil.1 front]
            exact owes
      · rw [← live] at step
        rcases step.traced k id held with earlier | nowhere
        · exact kept step earlier
        · cases nowhere

/-! ## Deliveries that are going to be written -/

theorem mem_sends {d : Delivery} : d ∈ b.desk.sends ↔ .send d ∈ b.tasks := by
  rw [desk, List.mem_filterMap]
  constructor
  · rintro ⟨task, queued, same⟩
    cases task <;> cases same
    exact queued
  · exact fun queued => ⟨_, queued, rfl⟩

theorem owes_of_sends {d : Delivery} (listed : d ∈ b.desk.sends) : b.owes d.lane d.message :=
  .inr ⟨d, .inl (mem_sends.1 listed), rfl, rfl⟩

theorem mem_sends_of_reserve {b' : Broker} (same : b'.reserve.sends = b.reserve.sends) {d : Delivery}
    (listed : d ∈ b'.desk.sends) : d ∈ b.desk.sends := by
  rwa [show b'.desk.sends = b.desk.sends from same] at listed

theorem lane_of_notice {j : Nat} {notice : Notice} (posted : b.desk.notices[j]? = some notice) :
    ∃ lane, b.lanes[j]? = some lane ∧ lane.notice = notice := by
  simpa only [desk, List.getElem?_map, Option.map_eq_some_iff] using posted

/-- A delivery that a task starts was started by a worker, which has reserved a slot for it, and its
content is what is stored. -/
theorem reserves_of_task {d : Delivery} (listed : d ∈ (b.apply .task).desk.sends) :
    d ∈ b.desk.sends ∨ b.Reserves d ∧ ∃ stored, b.depot.messages.get? d.message = some stored ∧
      d.route = stored.route ∧ d.payload = stored.payload := by
  have started := mem_sends.1 listed
  cases line : b.tasks with
  | nil =>
      simp only [apply, line] at listed
      exact .inl listed
  | cons task rest =>
      simp only [apply, line] at listed
      have before : d ∈ (Broker.desk { b with tasks := rest }).sends → d ∈ b.desk.sends := by
        intro queued
        rw [desk_pop line]
        exact List.mem_append_right _ queued
      rcases reserve_perform { b with tasks := rest } task with kept | ⟨x, takes, -, -⟩ | ⟨p, -, held⟩
      · exact .inl (before (mem_sends_of_reserve (congrArg Reserve.sends kept) listed))
      · rw [takes.task] at listed line
        rcases desk_work { b with tasks := rest } x.lane with idle |
          ⟨notice, member, message, stored, shown, opened, mem, room, fetched, went⟩
        · exact .inl (before (congrArg Desk.sends idle ▸ listed))
        · have sends := congrArg Desk.sends went
          rw [perform, sends, List.mem_append, List.mem_singleton] at listed
          rcases listed with queued | rfl
          · exact .inl (before queued)
          · obtain ⟨lane, found, rfl⟩ := lane_of_notice shown
            exact .inr ⟨⟨by rw [line]; rfl, ⟨lane, found, opened, member, mem, rfl⟩, room, rfl,
              started⟩, stored, fetched, rfl, rfl⟩
      · exact .inl (before (mem_sends_of_reserve ((congrArg Reserve.sends held).trans rfl) listed))

/-- A delivery that an episode adds to those that are going to be written is added by a worker. -/
theorem sends_of_live {e : Episode} {d : Delivery} (listed : d ∈ (b.live e).desk.sends) :
    d ∈ b.desk.sends ∨ e = .stir (.move .task) ∧ b.Reserves d ∧
      ∃ stored, b.depot.messages.get? d.message = some stored ∧
        d.route = stored.route ∧ d.payload = stored.payload := by
  cases e with
  | store depot => exact .inl listed
  | shutDown => exact .inl (mem_sends_of_reserve (congrArg Reserve.sends b.reserve_shutDown) listed)
  | stir s =>
      cases s with
      | holdUp holdsUp =>
          refine .inl (mem_sends.2 ?_)
          have queued := mem_sends.1 listed
          cases holdsUp with
          | true => exact queued
          | false => simpa [live, stir, setHoldUp] using queued
      | letGo n =>
          left
          rw [live, stir] at listed
          split at listed
          · exact listed
          · rename_i p _
            have left := desk_resumePublish { b with heldUp := b.heldUp.eraseIdx n } p
            rw [left] at listed
            exact listed
      | move m =>
          rcases b.reserve_apply m with kept | greeted | ⟨rfl, -⟩
          · exact .inl (mem_sends_of_reserve (congrArg Reserve.sends kept) listed)
          · exact .inl (mem_sends_of_reserve ((congrArg Reserve.sends greeted).trans rfl) listed)
          · exact (reserves_of_task listed).imp id fun started => ⟨rfl, started⟩

/-- The course of a delivery: its queue received the message, after a while a slot was reserved for
it, and in all that time and since the queue has not settled the message. The content is that of the
message. -/
structure Course (start : Broker) (d : Delivery) (p : Store.Message) (early : List Episode) (m : Move)
    (mid late : List Episode) : Prop where
  received : (start.through early).Receives m d.lane d.message p
  reserved : (start.through (early ++ .stir (.move m) :: mid)).Reserves d
  owed : ∀ since, since <+: mid ++ .stir (.move .task) :: late →
    (start.through (early ++ .stir (.move m) :: since)).owes d.lane d.message
  route : d.route = p.route
  payload : d.payload = p.payload

/-- Whatever is going to be written has come this way. -/
theorem course_of_sends
    (started : Broker.new? settings mint calendar (.holding messages) = some start)
    (spares : ∀ e ∈ life, e.sparesStore = true) {d : Delivery}
    (listed : d ∈ (start.through life).desk.sends) :
    ∃ p early m mid late, life = early ++ .stir (.move m) :: mid ++ .stir (.move .task) :: late ∧
      Course start d p early m mid late := by
  induction life using List.reverseRecOn with
  | nil =>
      have empty : start.tasks = [] := by
        unfold new? at started
        split at started
        · obtain ⟨buffers, -, rfl⟩ := Option.map_eq_some_iff.1 started
          rfl
        · cases started
      rw [mem_sends, show (start.through []).tasks = start.tasks from rfl, empty] at listed
      cases listed
  | append_singleton life e ih =>
      obtain ⟨before, spared⟩ := List.forall_mem_append.1 spares
      rw [List.forall_mem_singleton] at spared
      have owes := owes_of_sends listed
      have live := through_concat start life e
      rw [live] at listed
      rcases sends_of_live listed with queued | ⟨rfl, reserves, stored, fetched, route, payload⟩
      · obtain ⟨p, early, m, mid, late, rfl, course⟩ := ih before queued
        refine ⟨p, early, m, mid, late ++ [e], by simp,
          { course with owed := fun since front => ?_ }⟩
        rw [← List.cons_append, ← List.append_assoc] at front
        rcases List.prefix_concat_iff.1 front with rfl | shorter
        · simpa using owes
        · exact course.owed since shorter
      · have backed := backed_through started before
        have filed : (start.through life).docket.Filed := filed_through started life
        -- The worker makes the delivery of a message that its queue has got, and no queue gets one.
        have held : (start.through life).owes d.lane d.message := by
          have step := move_step backed filed .task
          have there := owes_iff.1 (owes_of_sends listed)
          rcases step.traced _ _ there with earlier | gets
          · exact owes_iff.2 earlier
          · have line := reserves.worker
            simp only [fansOut, publication?] at gets
            cases tasks : (start.through life).tasks with
            | nil =>
                rw [tasks] at line
                cases line
            | cons task rest =>
                rw [tasks] at line
                cases line
                simp only [tasks, takersOf] at gets
                cases gets
        obtain ⟨p, held', early, m, mid, rfl, received, owed⟩ := holds_of_owes started before held
        obtain rfl := Option.some.inj (fetched.symm.trans held')
        refine ⟨stored, early, m, mid, [], rfl, received, reserves, fun since front => ?_, route, payload⟩
        rcases List.prefix_concat_iff.1 front with rfl | shorter
        · simpa using owes
        · exact owed since shorter

/-! ## Publications -/

/-- With a move that publishes a message the books change as by its publication. -/
theorem books_of_publication {m : Move} (published : b.publication? m = some p) :
    ∃ b' : Broker, b'.lanes = b.lanes ∧ b'.depot = b.depot ∧ (b.apply m).books = (b'.publish p).2.books := by
  cases m with
  | publish p' =>
      cases published
      exact ⟨b, rfl, rfl, rfl⟩
  | frame id =>
      obtain ⟨⟨session, frame⟩, next, found⟩ := Option.bind_eq_some_iff.1 published
      obtain ⟨body, requests, about⟩ := Option.bind_eq_some_iff.1 found
      refine ⟨{ b with sessions := b.sessions.insert id session }, rfl, rfl, ?_⟩
      simp only [apply, next, handle_eq, Frame.request?_eq_some.1 requests, books_reply]
      cases body <;> cases about
      rfl
  | task =>
      cases line : b.tasks with
      | nil => simp [publication?, line] at published
      | cons task rest =>
          simp only [publication?, line] at published
          split at published
          · rename_i tag p' rest' same
            split at published
            · cases published
            · rename_i prompt
              cases same
              cases published
              refine ⟨{ b with tasks := rest }, rfl, rfl, ?_⟩
              simp only [apply, line, perform, beginPublish, if_neg prompt, publish]
              cases matching { b with tasks := rest } p.route <;> rfl
          · cases published
  | _ => cases published

/-- A publication that succeeds puts its message at the back of every queue that accepts the route,
and nowhere else. No queue had it before. -/
theorem placed_of_publication (backed : b.books.Backed 0) {m : Move}
    (published : b.publication? m = some p) {n : Nat} (granted : (b.publish p).1 = .ok n) :
    ∀ k, ¬b.owes k p.id ∧
      (b.Accepts k p.route → (b.apply m).waitingIn k = b.waitingIn k ++ [p.id]) ∧
      (¬b.Accepts k p.route → (b.apply m).waitingIn k = b.waitingIn k) := by
  have works : ∀ call, b.depot.failuresOf call = 0 := backed.works
  obtain ⟨b', lanes, depot, books⟩ := books_of_publication published
  have matching : b'.matching p.route = b.matching p.route := by simp only [Broker.matching, lanes]
  have takers : b'.takers p = b.takers p := by simp only [Broker.takers, depot, matching]
  have granted' : (b'.publish p).1 = .ok n := by
    rw [publish_eq_ok (depot ▸ works), takers]
    exact (publish_eq_ok works).1 granted
  obtain ⟨-, new, -, placed⟩ := publish_granted granted'
  have nobody := backed.new (depot ▸ new)
  rw [add_zero] at nobody
  intro k
  have here := placed k
  rw [matching, ← waitingIn_of_shelves (congrArg Books.shelves books)] at here
  rw [here, show b'.waitingIn k = b.waitingIn k by rw [waitingIn, lanes, waitingIn]]
  refine ⟨fun owes => tally_ne_zero_of_mem (owes_iff.1 owes) nobody, fun accepts => ?_,
    fun refuses => ?_⟩
  · rw [if_pos (mem_matching.2 accepts)]
  · rw [if_neg fun listed => refuses (mem_matching.1 listed), List.append_nil]

/-! ## Deliveries that are written -/

/-- A frame that carries a message is a delivery that was going to be written. -/
theorem sends_of_utters {e : Episode} {c : Nat} {frame : Frame} (said : (c, frame) ∈ b.utters e)
    (kind : frame.kind = .message) :
    e = .stir (.move .task) ∧ ∃ d, b.tasks.head? = some (.send d) ∧ d.client = c ∧ frame = d.frame := by
  have of_toward : ∀ {c' : Nat} {frame' : Frame}, (c, frame) ∈ b.toward c' frame' →
      c' = c ∧ frame = frame' := by
    intro c' frame' listed
    rw [toward] at listed
    split at listed
    · obtain ⟨rfl, rfl⟩ := Prod.mk.inj (List.mem_singleton.1 listed)
      exact ⟨rfl, rfl⟩
    · cases listed
  unfold utters at said
  split at said
  · split at said
    · cases said
    · cases List.mem_singleton.1 said
      cases kind
  · rename_i id
    split at said
    · rename_i session taken next
      cases answer : (b.reading (.stir (.move (.frame id)))).answer? session taken with
      | none =>
          rw [answer] at said
          cases said
      | some reply =>
          rw [answer] at said
          obtain ⟨-, rfl⟩ := of_toward said
          unfold answer? at answer
          split at answer <;> cases answer
          · cases kind
          · unfold verdict at kind
            split at kind <;> cases kind
    · cases said
  · split at said
    · rename_i d rest line
      obtain ⟨client, same⟩ := of_toward said
      exact ⟨rfl, d, by rw [line]; rfl, client, same⟩
    · cases said
  · cases said

/-- Whatever a broker whose store is in memory has lived through, a frame that carries a message goes
back to a queue that received this message, by a publication or a recovery, and that has not settled
it. The queue accepts the route, and the client of the frame was a subscriber when a slot of it was
reserved. The frame is the one for the route and the payload that were published, and a frame that can
be written at all is read back as these. And a publication that succeeds puts its message at the back
of every declared queue that accepts the route, and nowhere else. -/
theorem delivered_as_published
    (started : Broker.new? settings mint calendar (.holding messages) = some start)
    (spares : ∀ e ∈ life, e.sparesStore = true) :
    (∀ e c frame, (c, frame) ∈ (start.through life).utters e → frame.kind = .message →
      ∃ d p early m mid late,
        life = early ++ .stir (.move m) :: mid ++ .stir (.move .task) :: late ∧
        Course start d p early m mid late ∧ d.client = c ∧
        frame = Frame.message d.id p.route p.payload ∧
        ((∃ whole, frame.encode? = .ok whole) →
          frame.bodyAs .message = .ok (.message p.route p.payload))) ∧
    ∀ m p n, (start.through life).publication? m = some p →
      ((start.through life).publish p).1 = .ok n →
      ∀ k, ¬(start.through life).owes k p.id ∧
        ((start.through life).Accepts k p.route →
          ((start.through life).apply m).waitingIn k = (start.through life).waitingIn k ++ [p.id]) ∧
        (¬(start.through life).Accepts k p.route →
          ((start.through life).apply m).waitingIn k = (start.through life).waitingIn k) := by
  refine ⟨?_, fun m p n published granted =>
    placed_of_publication (backed_through started spares) published granted⟩
  intro e c frame said kind
  obtain ⟨-, d, first, client, rfl⟩ := sends_of_utters said kind
  have queued : d ∈ (start.through life).desk.sends := mem_sends.2 (List.mem_of_mem_head? first)
  obtain ⟨p, early, m, mid, late, divided, course⟩ := course_of_sends started spares queued
  refine ⟨d, p, early, m, mid, late, divided, course, client, ?_, ?_⟩
  · rw [Delivery.frame, course.route, course.payload]
  · rintro ⟨whole, written⟩
    rw [Delivery.frame, course.route, course.payload] at written ⊢
    have short : (Body.message p.route p.payload).encode.length < 2 ^ 32 := by
      have counted := (Frame.encode?_eq_ok.1 written).1
      exact Nat.lt_of_le_of_lt (Nat.le_add_left _ _) counted
    have read := Body.decode?_encode (Body.fits_of_length short) []
    rw [List.append_nil] at read
    rw [Frame.bodyAs, show (Frame.message d.id p.route p.payload).body =
      (Body.message p.route p.payload).encode from rfl, show Shape.message =
      (Body.message p.route p.payload).shape from rfl, read]

/-- A message whose first delivery is not answered in time, up to the task that writes the second. -/
def redelivering : List Episode :=
  [.stir (.move (.declare "orders" "orders")), .stir (.move (.connect "reader" .reliable)),
    .stir (.move (.subscribe "reader" "orders" none)),
    .stir (.move (.publish ⟨.ofNat 1, "orders", [7], none, 0⟩)), .stir (.move .task),
    .stir (.move .task), .stir (.move .task), .stir (.move .task), .stir (.move (.tick 60000)),
    .stir (.move .ring), .stir (.move .task), .stir (.move .task), .stir (.move .task),
    .stir (.move .task)]

/-- The second delivery has a new id and the content of the first. A message that is published then
waits behind it. -/
theorem delivered_as_published_again :
    (∃ d p early m mid late,
      redelivering = early ++ .stir (.move m) :: mid ++ .stir (.move .task) :: late ∧
      Course sample d p early m mid late ∧ d.client = 0 ∧
      Frame.message (.fresh 2) "orders" [7] = Frame.message d.id p.route p.payload) ∧
    ((sample.through redelivering).apply
      (.publish ⟨.ofNat 2, "orders", [8], none, 0⟩)).waitingIn 0 = [.ofNat 2] := by
  have spares : ∀ e ∈ redelivering, e.sparesStore = true := by decide
  have said : (0, Frame.message (.fresh 2) "orders" [7]) ∈
      (sample.through redelivering).utters (.stir (.move .task)) := by decide
  obtain ⟨written, placed⟩ := delivered_as_published new?_sample spares
  obtain ⟨d, p, early, m, mid, late, divided, course, client, same, -⟩ :=
    written (.stir (.move .task)) 0 (Frame.message (.fresh 2) "orders" [7]) said rfl
  have granted : ((sample.through redelivering).publish ⟨.ofNat 2, "orders", [8], none, 0⟩).1 =
    .ok 1 := rfl
  have accepts : (sample.through redelivering).Accepts 0 "orders" := ⟨_, rfl, rfl, rfl⟩
  exact ⟨⟨d, p, early, m, mid, late, divided, course, client, same⟩,
    (placed (.publish _) _ 1 rfl granted 0).2.1 accepts⟩

end Broker

end MessageBroker
