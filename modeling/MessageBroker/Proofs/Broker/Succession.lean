import MessageBroker.Proofs.Broker.Accounting
import MessageBroker.Proofs.Broker.Exchanges
import MessageBroker.Proofs.Broker.Lineup
import MessageBroker.Proofs.Broker.Pacing
import MessageBroker.Proofs.Broker.Standstill

/-!
# A queue that is read alone

A queue that one connection reads, with one slot, sends its messages in the order in which they came
in, and none of them before the one in front of it is settled. Whatever came in is settled, or under
way, or waits, in this order; one delivery at most is under way, since it has the only slot, and if it
fails its message goes back to the front before the slot can be used again, or is given up for good when
the broker is shut down.
-/

namespace MessageBroker

open Books Desk

/-- What is put down about a queue. -/
structure Minutes where
  /-- The messages that came to the queue, in order. -/
  enqueued : List CorrelationId := []
  /-- The tickets of the deliveries, from whichever queue, that their peers have acknowledged or
  rejected. -/
  answered : List Nat := []
  /-- The messages that the queue is done with: the delivery has come to an end and was answered or is
  given up, or the message was not stored any more when its turn came. -/
  settled : List CorrelationId := []
  /-- Those of them that are given up: the delivery was not answered, and the broker is shut down. -/
  givenUp : List CorrelationId := []
  /-- Those of them that were not stored any more. -/
  missing : List CorrelationId := []
  /-- The messages of the deliveries that were written, or could not be written, in order. -/
  sent : List CorrelationId := []

namespace Broker

variable {b b' start : Broker} {k : Nat} {reader : String} {m m' : Minutes} {e : Episode}
  {life : List Episode}

/-! ## The minutes of a queue -/

/-- The messages that come to a queue in an episode: those that wait behind the others then. -/
def joins (b : Broker) (k : Nat) (e : Episode) : List CorrelationId :=
  if (b.performs? e).any Task.isAtFront then []
  else ((b.live e).waitingIn k).drop (b.waitingIn k).length

/-- The deliveries from a queue that have not come to an end. -/
def bound (b : Broker) (k : Nat) : List Delivery :=
  b.desk.outstanding.filter fun x => x.lane = k

/-- The messages of the deliveries from a queue that come to an end in an episode. -/
def ends (b : Broker) (k : Nat) (e : Episode) : List CorrelationId :=
  ((b.bound k).filter fun x => x ∉ (b.live e).bound k).map Delivery.message

/-- Whether a delivery is concluded in an episode that was answered before. -/
def concludesAnswered (b : Broker) (answered : List Nat) (e : Episode) : Bool :=
  match b.performs? e with
  | some (.conclude ticket) => ticket ∈ answered
  | _ => false

/-- The messages that a queue is done with in an episode because a delivery ends. -/
def settlesIn (b : Broker) (answered : List Nat) (k : Nat) (e : Episode) : List CorrelationId :=
  if b.concludesAnswered answered e = true ∨ b.isShutDown = true then b.ends k e else []

/-- The messages that are given up in an episode. -/
def givesUp (b : Broker) (answered : List Nat) (k : Nat) (e : Episode) : List CorrelationId :=
  if b.concludesAnswered answered e = false ∧ b.isShutDown = true then b.ends k e else []

/-- The message that a worker takes out of the line without a delivery of it being going to be
written. -/
def misses (b : Broker) (k : Nat) (e : Episode) : List CorrelationId :=
  match b.performs? e with
  | some (.work j) =>
    if j = k ∧ (b.live e).desk.sends = b.desk.sends then
      (b.waitingIn k).take ((b.waitingIn k).length - ((b.live e).waitingIn k).length)
    else []
  | _ => []

/-- The delivery that is written in an episode, or that cannot be written then. -/
def writes? (b : Broker) (e : Episode) : Option Delivery :=
  (b.performs? e).bind Task.delivery?

/-- What an episode adds to the minutes of a queue. -/
def minute (b : Broker) (k : Nat) (m : Minutes) (e : Episode) : Minutes where
  enqueued := m.enqueued ++ b.joins k e
  answered := m.answered ++ b.answersIn e
  settled := m.settled ++ b.settlesIn m.answered k e ++ b.misses k e
  givenUp := m.givenUp ++ b.givesUp m.answered k e
  missing := m.missing ++ b.misses k e
  sent := m.sent ++ ((b.writes? e).filter fun d => d.lane = k).toList.map Delivery.message

/-- The minutes of a queue after a life, if they were begun before. -/
def minutes (k : Nat) : Broker → Minutes → List Episode → Minutes
  | _, m, [] => m
  | b, m, e :: life => minutes k (b.live e) (b.minute k m e) life

/-! ## Deliveries under way -/

/-- Whoever is subscribed to a queue is so under one connection id, and has one slot at most. -/
def ReadsAlone (b : Broker) (k : Nat) (reader : String) : Prop :=
  ∀ lane ∈ b.lanes[k]?, ∀ member ∈ lane.queue.roster.members, member.id = reader ∧
    ∀ client ∈ b.clients[member.client]?, client.ceiling ≤ 1

instance (b : Broker) (k : Nat) (reader : String) : Decidable (b.ReadsAlone k reader) :=
  inferInstanceAs (Decidable (∀ lane ∈ b.lanes[k]?, ∀ member ∈ lane.queue.roster.members, _))

/-- A delivery from a queue is for the connection that reads it, if that is still the one that it was
when the delivery was started, and for nobody else who is connected. -/
structure Tied (b : Broker) (k : Nat) (reader : String) (x : Delivery) : Prop where
  placed : k < b.lanes.length
  own : ∀ id c, b.desk.seat? id = some c → (id = reader ↔ c = x.client)

/-- What came to a queue is settled, or is under way, or waits, in this order. -/
structure InLine (b : Broker) (k : Nat) (reader : String) (m : Minutes) : Prop where
  line : m.enqueued = m.settled ++ (b.bound k).map Delivery.message ++ b.waitingIn k
  single : (b.bound k).length ≤ 1
  tied : ∀ x ∈ b.bound k, b.Tied k reader x

theorem Tied.congr {x : Delivery} (tied : b.Tied k reader x)
    (lanes : b.lanes.length ≤ b'.lanes.length)
    (seats : ∀ id c, b'.desk.seat? id = some c → b.desk.seat? id = some c) : b'.Tied k reader x :=
  ⟨Nat.lt_of_lt_of_le tied.placed lanes, fun id c here => tied.own id c (seats id c here)⟩

/-- What was under way is so still, and the line grows at its end. -/
theorem InLine.keep (line : b.InLine k reader m) (lengthens : Lengthens k b b')
    (here : b'.isGone k = false) (bound : b'.bound k = b.bound k)
    (tied : ∀ x ∈ b.bound k, b.Tied k reader x → b'.Tied k reader x)
    (enqueued : m'.enqueued = m.enqueued ++ (b'.waitingIn k).drop (b.waitingIn k).length)
    (settled : m'.settled = m.settled) : b'.InLine k reader m' := by
  have front := lengthens.front.resolve_left (by simp [here])
  obtain ⟨more, waiting⟩ := front
  refine ⟨?_, bound ▸ line.single, bound ▸ fun x under => tied x under (line.tied x under)⟩
  rw [enqueued, settled, bound, line.line, ← waiting, List.drop_left, List.append_assoc]

theorem bound_of_perm (single : (b.bound k).length ≤ 1) (perm : (b.bound k).Perm (b'.bound k)) :
    b'.bound k = b.bound k := by
  match under : b.bound k with
  | [] =>
      rw [under] at perm
      exact List.nil_perm.1 perm
  | [x] =>
      rw [under] at perm
      exact (List.singleton_perm.1 perm).symm
  | _ :: _ :: _ => simp [under] at single

theorem bound_eq_singleton (single : (b.bound k).length ≤ 1) {x : Delivery}
    (under : x ∈ b.bound k) : b.bound k = [x] := by
  match only : b.bound k with
  | [] => simp [only] at under
  | [y] => simpa [only, eq_comm] using under
  | _ :: _ :: _ => simp [only] at single

/-- Whoever is subscribed to a queue that is read alone is its reader, and connected. -/
theorem reads_of_listed (attended : b.desk.Attended) (alone : b.ReadsAlone k reader)
    {notice : Notice} {member : Queue.Member} (posted : b.desk.notices[k]? = some notice)
    (opened : notice.isClosed = false) (listed : member ∈ notice.members) {id : String} {c : Nat}
    (seated : b.desk.seat? id = some c) : id = reader ↔ c = member.client := by
  obtain ⟨lane, found, rfl⟩ := lane_of_notice posted
  obtain ⟨rfl, -⟩ := alone lane found member listed
  obtain ⟨session, here, client, -⟩ :=
    attended.roll.listed lane.notice (List.mem_of_getElem? posted) opened member listed
  have own := seat?_of_get? here
  rw [client] at own
  constructor
  · rintro rfl
    exact Option.some.inj (seated.symm.trans own)
  · rintro rfl
    exact attended.roll.eq_of_seat seated own

/-- Nothing from the queue is under way when its worker finds a subscriber with room: a delivery would
have the only slot. -/
theorem bound_eq_nil (attended : b.desk.Attended) (line : b.InLine k reader m)
    (alone : b.ReadsAlone k reader) {notice : Notice} {member : Queue.Member}
    (posted : b.desk.notices[k]? = some notice) (opened : notice.isClosed = false)
    (listed : member ∈ notice.members) (room : b.hasRoom member.client = true) :
    b.bound k = [] := by
  obtain ⟨lane, found, rfl⟩ := lane_of_notice posted
  obtain ⟨rfl, ceiling⟩ := alone lane found member listed
  obtain ⟨client, here, free⟩ := client_of_hasRoom room
  have slots := attended.slotted.slots _ client here
  have none' : b.desk.load member.client = 0 := by
    have low := ceiling client here
    omega
  obtain ⟨session, seated, client', -⟩ :=
    attended.roll.listed lane.notice (List.mem_of_getElem? posted) opened member listed
  refine List.eq_nil_iff_forall_not_mem.2 fun x under => ?_
  have tied := line.tied x under
  have own := (tied.own member.id session.client (seat?_of_get? seated)).1 rfl
  have busy := load_pos (List.mem_filter.1 under).1
  rw [← own, client', none'] at busy
  exact Nat.lt_irrefl 0 busy

theorem ends_eq_nil (kept : b.bound k ⊆ (b.live e).bound k) : b.ends k e = [] := by
  have none' : ∀ x ∈ b.bound k, ¬x ∉ (b.live e).bound k := fun x under gone => gone (kept under)
  rw [ends, List.filter_eq_nil_iff.2 (by simpa using none'), List.map_nil]

/-- The delivery that is going to be written is that of the first message that is not settled. -/
theorem InLine.next (line : b.InLine k reader m) {d : Delivery} (listed : d ∈ b.desk.sends)
    (own : d.lane = k) : m.settled ++ [d.message] <+: m.enqueued := by
  have under : d ∈ b.bound k :=
    List.mem_filter.2 ⟨List.mem_append_right _ listed, decide_eq_true own⟩
  rw [line.line, bound_eq_singleton line.single under]
  exact List.prefix_append _ _

/-! ## Ends -/

section Ends

variable (queued : b.InLine k reader m)
include queued

/-- What is under way stays so, and so does the line. -/
theorem InLine.still (tied : ∀ x, b.Tied k reader x → b'.Tied k reader x)
    (bound : b'.bound k = b.bound k) (waiting : b'.waitingIn k = b.waitingIn k)
    (enqueued : m'.enqueued = m.enqueued) (settled : m'.settled = m.settled) :
    b'.InLine k reader m' := by
  refine ⟨?_, bound ▸ queued.single, bound ▸ fun x under => tied x (queued.tied x under)⟩
  rw [enqueued, settled, bound, waiting]
  exact queued.line

/-- The message in front leaves the line for good while nothing is under way. -/
theorem InLine.pass (idle : b.bound k = []) (bound : b'.bound k = b.bound k)
    (waiting : b'.waitingIn k = (b.waitingIn k).tail) (enqueued : m'.enqueued = m.enqueued)
    (settled : m'.settled = m.settled ++ (b.waitingIn k).take 1) : b'.InLine k reader m' := by
  rw [idle] at bound
  refine ⟨?_, by simp [bound], by simp [bound]⟩
  rw [enqueued, settled, bound, waiting, queued.line, idle]
  cases b.waitingIn k <;> simp

/-- The message in front is taken out of the line while nothing is under way. -/
theorem InLine.take {x : Delivery} (idle : b.bound k = []) (bound : b'.bound k = [x])
    (tied : b'.Tied k reader x) (waiting : b.waitingIn k = x.message :: b'.waitingIn k)
    (enqueued : m'.enqueued = m.enqueued) (settled : m'.settled = m.settled) :
    b'.InLine k reader m' := by
  refine ⟨?_, by simp [bound], by simpa [bound] using tied⟩
  rw [enqueued, settled, bound, queued.line, idle, waiting]
  simp

variable {d : Delivery} (landed : b.desk.outstanding.Perm (d :: b'.desk.outstanding))
include landed

theorem InLine.bound_of_own (own : d.lane = k) : b.bound k = [d] ∧ b'.bound k = [] := by
  have perm : (b.bound k).Perm (d :: b'.bound k) := by
    have filtered := landed.filter fun x => decide (x.lane = k)
    rwa [List.filter_cons_of_pos (by simpa using own)] at filtered
  have only := bound_eq_singleton queued.single (perm.mem_iff.2 List.mem_cons_self)
  rw [only] at perm
  exact ⟨only, List.nil_perm.1 perm.cons_inv⟩

theorem InLine.bound_of_other (other : d.lane ≠ k) : b'.bound k = b.bound k := by
  refine bound_of_perm queued.single ?_
  have filtered := landed.filter fun x => decide (x.lane = k)
  rwa [List.filter_cons_of_neg (by simpa using other)] at filtered

omit landed in
theorem InLine.ends_eq (landed : b.desk.outstanding.Perm (d :: (b.live e).desk.outstanding)) :
    b.ends k e = if d.lane = k then [d.message] else [] := by
  by_cases own : d.lane = k
  · obtain ⟨only, nothing⟩ := queued.bound_of_own landed own
    simp [ends, only, nothing, own]
  · have same := queued.bound_of_other landed own
    rw [ends_eq_nil (List.Perm.of_eq same.symm).subset, if_neg own]

variable (tied : ∀ x, b.Tied k reader x → b'.Tied k reader x)
include tied

/-- A delivery that was answered has come to an end, or one that is given up. -/
theorem InLine.land (waiting : b'.waitingIn k = b.waitingIn k)
    (enqueued : m'.enqueued = m.enqueued)
    (settled : m'.settled = m.settled ++ if d.lane = k then [d.message] else []) :
    b'.InLine k reader m' := by
  by_cases own : d.lane = k
  · obtain ⟨only, nothing⟩ := queued.bound_of_own landed own
    refine ⟨?_, by simp [nothing], by simp [nothing]⟩
    rw [enqueued, settled, if_pos own, nothing, waiting, queued.line, only]
    simp
  · rw [if_neg own, List.append_nil] at settled
    exact queued.still tied (queued.bound_of_other landed own) waiting enqueued settled

/-- The message of a delivery that has failed is in front again. -/
theorem InLine.fail (here : b.isGone k = false)
    (shelves : b'.books.shelves = (b.requeue d.lane d.message).books.shelves)
    (enqueued : m'.enqueued = m.enqueued) (settled : m'.settled = m.settled) :
    b'.InLine k reader m' := by
  have waiting := (waitingIn_of_shelves shelves k).trans (b.waitingIn_requeue d.lane d.message k)
  by_cases own : d.lane = k
  · obtain ⟨only, nothing⟩ := queued.bound_of_own landed own
    have placed := (queued.tied d (only ▸ List.mem_cons_self)).placed
    rw [if_pos ⟨own, (isOpen_of_not_gone here).2 placed⟩] at waiting
    refine ⟨?_, by simp [nothing], by simp [nothing]⟩
    rw [enqueued, settled, nothing, waiting, queued.line, only]
    simp
  · rw [if_neg fun both => own both.1] at waiting
    exact queued.still tied (queued.bound_of_other landed own) waiting enqueued settled

end Ends

/-! ## Tasks -/

theorem bound_work (b : Broker) (j k : Nat) {more : List Delivery}
    (sends : (b.work j).books.sends = b.books.sends ++ more) :
    (b.work j).bound k = b.bound k ++ more.filter fun x => x.lane = k := by
  have flights : (b.work j).flights = b.flights := congrArg Cargo.flights (b.cargo_work j)
  have outstanding : (b.work j).desk.outstanding = b.desk.outstanding ++ more := by
    rw [Desk.outstanding, show (b.work j).desk.flights = b.desk.flights from flights,
      show (b.work j).desk.sends = b.desk.sends ++ more from sends, ← List.append_assoc]
    rfl
  rw [bound, outstanding, List.filter_append, bound]

/-- No delivery comes to an end while a worker works. -/
theorem bound_work_subset (b : Broker) (j k : Nat) : b.bound k ⊆ (b.work j).bound k := by
  obtain ⟨more, sends⟩ : ∃ more, (b.work j).books.sends = b.books.sends ++ more := by
    cases b.work_service j with
    | idle shelves sends => exact ⟨[], sends.trans (List.append_nil _).symm⟩
    | miss _ _ _ shelves sends => exact ⟨[], sends.trans (List.append_nil _).symm⟩
    | @take x shelf rest lane found front shelves sends => exact ⟨[x], sends⟩
  rw [b.bound_work j k sends]
  exact List.subset_append_left _ _

theorem Tied.perform {x : Delivery} (tied : b.Tied k reader x) (task : Task) :
    (b.perform task).Tied k reader x := by
  have lanes := (b.grows_perform task).titles.length_le
  simp only [front, List.length_map] at lanes
  have sessions : (b.perform task).sessions = b.sessions :=
    congrArg Register.sessions (register_perform b task)
  refine tied.congr lanes fun id c seated => ?_
  rwa [seat?, show (b.perform task).desk.sessions = b.desk.sessions from sessions] at seated

/-- The worker of a queue that is read alone takes the message in front when nothing is under way. -/
theorem inLine_work (attended : b.desk.Attended)
    (line : b.InLine k reader m) (alone : b.ReadsAlone k reader) {j : Nat}
    (enqueued : m'.enqueued = m.enqueued)
    (settled : m'.settled = m.settled ++
      if j = k ∧ (b.work j).desk.sends = b.desk.sends then
        (b.waitingIn k).take ((b.waitingIn k).length - ((b.work j).waitingIn k).length)
      else []) : (b.work j).InLine k reader m' := by
  have tied : ∀ x, b.Tied k reader x → (b.work j).Tied k reader x := fun x tied =>
    tied.perform (.work j)
  -- Nobody leaves the line, or it is another line.
  have still : (b.work j).bound k = b.bound k → (b.work j).waitingIn k = b.waitingIn k →
      (b.work j).InLine k reader m' := by
    intro bound waiting
    refine line.still tied bound waiting enqueued ?_
    rw [settled, waiting, Nat.sub_self, List.take_zero, ite_self, List.append_nil]
  have unsent : (b.work j).books.sends = b.books.sends → (b.work j).bound k = b.bound k := by
    intro sends
    rw [b.bound_work j k (sends.trans (List.append_nil _).symm)]
    exact List.append_nil _
  cases b.work_service j with
  | idle shelves sends =>
      exact still (unsent sends) (waitingIn_of_shelves shelves k)
  | miss _ _ _ shelves sends =>
      have left := waitingIn_behead shelves k
      by_cases own : j = k
      · subst own
        rw [if_pos rfl] at left
        rcases b.work_taker j with same | ⟨notice, member, posted, opened, listed, room⟩
        · exact still (unsent sends) (waitingIn_of_shelves same j)
        · have idle := bound_eq_nil attended line alone posted opened listed room
          refine line.pass idle (unsent sends) left enqueued ?_
          rw [settled, if_pos ⟨rfl, sends⟩, left]
          cases b.waitingIn j <;> simp
      · exact still (unsent sends) (left.trans (if_neg own))
  | @take x shelf rest lane found front shelves sends =>
      have left := waitingIn_behead shelves k
      have more := b.bound_work j k sends
      have longer : (b.work j).desk.sends ≠ b.desk.sends := by
        rw [show (b.work j).desk.sends = b.desk.sends ++ [x] from sends]
        simp
      by_cases own : j = k
      · subst own
        have waits : b.waitingIn j = x.message :: rest := by
          rw [waitingIn_eq, found, Option.map_some, Option.getD_some, front]
        rw [if_pos rfl, waits, List.tail_cons] at left
        obtain ⟨placed, -⟩ := List.getElem?_eq_some_iff.1 found
        rcases b.desk_work j with same | ⟨notice, member, _, _, posted, opened, listed, room, -, went⟩
        · exact absurd (congrArg Desk.sends same) longer
        · have client : x.client = member.client := by
            have both := (show b.desk.sends ++ [x] = (b.work j).desk.sends from sends.symm).trans
              (congrArg Desk.sends went)
            rw [List.singleton_inj.1 (List.append_cancel_left both)]
          have idle := bound_eq_nil attended line alone posted opened listed room
          have under : (b.work j).bound j = [x] := by
            rw [more, idle]
            simp [lane]
          have own : b.Tied j reader x := by
            refine ⟨by simpa [books] using placed, fun id c seated => ?_⟩
            rw [client]
            exact reads_of_listed attended alone posted opened listed seated
          refine line.take idle under (tied x own) (left ▸ waits) enqueued ?_
          rw [settled, if_neg fun same => longer same.2, List.append_nil]
      · refine still ?_ (left.trans (if_neg own))
        rw [more]
        simp [lane, own]

/-! ## Episodes without a task -/

/-- What a frame is answered with is no greeting. -/
theorem kind_of_answer {session : Peer.Session} {frame reply : Wire.Frame}
    (answered : b.answer? session frame = some reply) : reply.kind ≠ .ready := by
  have said : reply.kind = .ack ∨ reply.kind = .nack := by
    unfold answer? at answered
    split at answered
    · exact .inl (Option.some.inj answered ▸ rfl)
    · obtain rfl := Option.some.inj answered
      unfold verdict
      split
      · exact .inl rfl
      · exact .inr rfl
    · cases answered
  rcases said with kind | kind <;> rw [kind] <;> decide

/-- Nobody is greeted who does not connect. -/
theorem length_clients_of_plain (plain : e.connects = false) :
    (b.live e).clients.length = b.clients.length := by
  have seats : (b.live e).clients.length = b.clients.length + (b.utters e).countP Front.isGreeting :=
    (b.grows_live e).seats
  have toward : ∀ (b : Broker) (c : Nat) {frame : Wire.Frame}, frame.kind ≠ .ready →
      (b.toward c frame).countP Front.isGreeting = 0 := by
    intro b c frame other
    unfold Broker.toward
    split <;> simp [Front.isGreeting, other]
  have nobody : (b.utters e).countP Front.isGreeting = 0 := by
    unfold utters
    split
    · cases plain
    · split
      · rename_i session frame _
        cases answered : (b.reading _).answer? session frame with
        | none => rfl
        | some reply => exact toward b session.client (kind_of_answer answered)
      · rfl
    · split
      · rename_i d _ _
        have kind : d.frame.kind ≠ .ready := by
          rw [show d.frame.kind = .message from rfl]
          decide
        exact toward b d.client kind
      · rfl
    · rfl
  rw [seats, nobody, Nat.add_zero]

/-- A connection that is registered after an episode was so before, unless it was made in it. -/
theorem seat_of_plain (regular : b.Regular) (plain : e.connects = false) {id : String} {c : Nat}
    (seated : (b.live e).desk.seat? id = some c) : b.desk.seat? id = some c := by
  have old := lt_of_seat (regular.live e) seated
  rw [length_clients_of_plain plain] at old
  obtain ⟨session, found, rfl⟩ := Option.map_eq_some_iff.1 seated
  rcases live_spec regular found with ⟨before, here, same, -⟩ | ⟨-, new⟩
  · rw [← same]
    exact seat?_of_get? here
  · exact absurd old (Nat.not_lt.2 new)

theorem flights_apply {move : Move} (other : move ≠ .task) : (b.apply move).flights = b.flights := by
  cases move with
  | connect id link => exact b.flights_connect id link
  | disconnect id => exact b.flights_disconnect id
  | feed id data =>
      simp only [apply]
      split <;> rfl
  | frame id => exact b.flights_frame id
  | declare name route => exact congrArg Cargo.flights (b.cargo_declare name route)
  | delete name => exact congrArg Cargo.flights (b.cargo_delete name)
  | subscribe id name ceiling => exact congrArg Books.flights (b.books_subscribe id name ceiling)
  | unsubscribe id name => exact congrArg Books.flights (b.books_unsubscribe id name)
  | publish message => exact congrArg Cargo.flights (b.cargo_publish message)
  | publishLater tag message => rfl
  | recover => exact congrArg Cargo.flights b.cargo_recover
  | tamper c link => rfl
  | task => exact absurd rfl other
  | ring => exact congrArg Books.flights b.books_ring
  | tick now => rfl

/-- Without a task nothing is sent off, written or concluded. -/
theorem desk_of_idle (idle : b.performs? e = none) :
    (b.live e).flights = b.flights ∧ (b.live e).desk.sends = b.desk.sends := by
  cases e with
  | store depot => exact ⟨rfl, rfl⟩
  | shutDown =>
      refine ⟨?_, congrArg Reserve.sends b.reserve_shutDown⟩
      change b.shutDown.books.flights = b.flights
      rw [books_shutDown]
      rfl
  | stir s =>
      cases s with
      | holdUp holdsUp =>
          cases holdsUp <;> simp [live, stir, setHoldUp, desk, Task.delivery?]
      | letGo n =>
          simp only [live, stir]
          split
          · exact ⟨rfl, rfl⟩
          · rename_i p _
            have resumed := desk_resumePublish { b with heldUp := b.heldUp.eraseIdx n } p
            rw [resumed]
            exact ⟨congrArg Desk.flights resumed, rfl⟩
      | move move =>
          by_cases other : move = .task
          · subst other
            have done : b.tasks = [] := List.head?_eq_none_iff.1 idle
            simp only [live, stir, apply, done, and_self]
          · exact ⟨flights_apply other, sends_apply other⟩

theorem outstanding_of_idle (idle : b.performs? e = none) :
    (b.live e).desk.outstanding = b.desk.outstanding := by
  obtain ⟨flights, sends⟩ := desk_of_idle idle
  rw [Desk.outstanding, sends, show (b.live e).desk.flights = b.desk.flights from flights]
  rfl

/-- What is not called closes no queue. -/
theorem isGone_of_uncalled (idle : b.performs? e = none) (uncalled : e.isCall = false) (k : Nat) :
    (b.live e).isGone k = b.isGone k := by
  cases e with
  | store depot => rfl
  | shutDown => cases uncalled
  | stir s =>
      cases s with
      | holdUp holdsUp => cases holdsUp <;> rfl
      | letGo n =>
          simp only [live, stir]
          split
          · rfl
          · exact isGone_of_notices (congrArg Desk.notices (desk_resumePublish _ _)) k
      | move move =>
          cases move with
          | task =>
              have done : b.tasks = [] := List.head?_eq_none_iff.1 idle
              simp only [live, stir, apply, done]
          | ring => exact isGone_of_notices (congrArg Desk.notices b.desk_ring) k
          | tick now => rfl
          | _ => cases uncalled

theorem length_lanes_live (b : Broker) (e : Episode) : b.lanes.length ≤ (b.live e).lanes.length := by
  have lanes := (b.grows_live e).titles.length_le
  simpa only [front, List.length_map] using lanes

/-- A delivery stays tied to the connection that it is for. When somebody connects nothing is left to
do, so that every delivery under way is for somebody who is connected still. -/
theorem InLine.tied_live {answered : List Nat} {resumes : List Publication} {down : Bool}
    (queued : b.InLine k reader m) (regular : b.Regular) (attended : b.desk.Attended)
    (aloft : b.books.cargo.Aloft [] answered resumes down) (ready : b.IsReadyFor e) :
    ∀ x ∈ b.bound k, (b.live e).Tied k reader x := by
  intro x under
  have tied := queued.tied x under
  cases connects : e.connects with
  | false => exact tied.congr (b.length_lanes_live e) fun id c => seat_of_plain regular connects
  | true =>
      have done := ready.2 connects
      obtain rfl : resumes = [] := by
        rw [← aloft.resumed]
        simp [books, Books.cargo, done]
      have listed : x ∈ b.desk.outstanding := (List.mem_filter.1 under).1
      have flown : x ∈ b.flights.values := by rwa [outstanding_of_done done] at listed
      obtain ⟨id', here⟩ := seated_of_done attended aloft done x flown
      have own : id' = reader := (tied.own id' x.client here).2 rfl
      have aboard := attended.slotted.aboard x listed
      refine ⟨Nat.lt_of_lt_of_le tied.placed (b.length_lanes_live e), fun id c seated => ?_⟩
      unfold Episode.connects at connects
      split at connects
      · rename_i id₀ link
        rcases b.desk_connect id₀ link with same | ⟨new, link', same⟩
        · rw [live, stir, apply, same] at seated
          exact tied.own id c seated
        · have seats : (b.connect id₀ link).2.desk.sessions = _ := congrArg Desk.sessions same
          rw [live, stir, apply, seat?, seats, Table.get?_insert] at seated
          split at seated
          · rename_i fresh
            obtain rfl := Option.some.inj seated
            -- The reader is connected, so this is somebody else, with a record of its own.
            refine iff_of_false ?_ (Nat.ne_of_gt aboard)
            intro same
            rw [own, ← same, fresh, seat?, show b.desk.sessions.get? id₀ = none from new] at here
            cases here
          · exact tied.own id c seated
      · cases connects

/-! ## One episode -/

/-- A queue that is read alone is not gone, and what came to it is in line. -/
structure InService (b : Broker) (k : Nat) (reader : String) (m : Minutes) : Prop where
  attended : b.desk.Attended
  here : b.isGone k = false
  queued : b.InLine k reader m

/-- A queue is gone, and nothing from it is going to be written. -/
structure OutOfService (b : Broker) (k : Nat) : Prop where
  gone : b.isGone k = true
  silent : ∀ d ∈ b.desk.sends, d.lane ≠ k

theorem OutOfService.live (out : b.OutOfService k) (sound : b.ledger.Sound) (e : Episode) :
    (b.live e).OutOfService k := by
  refine ⟨isGone_live sound out.gone e, fun d listed own => ?_⟩
  rcases live_cases sound k e with ⟨idle, -⟩ | ⟨task, rest, line, rfl, performed⟩
  · rw [(desk_of_idle idle).2] at listed
    exact out.silent d listed own
  · rcases reserves_of_task listed with before | ⟨reserves, -⟩
    · exact out.silent d before own
    · obtain ⟨lane, found, opened, -⟩ := reserves.subscribed
      have gone := out.gone
      rw [isGone, ← own, found] at gone
      exact absurd (gone.symm.trans opened) Bool.false_ne_true.symm

/-- As long as no delivery from the queue comes to an end, it is done only with what is missing. -/
theorem settled_of_kept (kept : b.bound k ⊆ (b.live e).bound k) :
    (b.minute k m e).settled = m.settled ++ b.misses k e := by
  simp [minute, settlesIn, ends_eq_nil kept]

/-- What comes to a queue without a task stands behind the others. -/
theorem inLine_of_idle {answered : List Nat} {resumes : List Publication} {down : Bool}
    (queued : b.InLine k reader m) (regular : b.Regular) (attended : b.desk.Attended)
    (aloft : b.books.cargo.Aloft [] answered resumes down) (ready : b.IsReadyFor e)
    (idle : b.performs? e = none) (lengthens : Lengthens k b (b.live e))
    (here : (b.live e).isGone k = false) : (b.live e).InLine k reader (b.minute k m e) := by
  have tied := queued.tied_live regular attended aloft ready
  have same : (b.live e).bound k = b.bound k := by
    rw [bound, outstanding_of_idle idle, bound]
  refine queued.keep lengthens here same (fun x under _ => tied x under) ?_ ?_
  · simp [minute, joins, idle]
  · rw [settled_of_kept (List.Perm.of_eq same.symm).subset]
    simp [misses, idle]

theorem outstanding_of_calm {task : Task} (calm : task.isAtFront = false) :
    (b.perform task).desk.outstanding = b.desk.outstanding := by
  cases task with
  | arm ticket => exact congrArg Desk.outstanding (b.desk_arm ticket)
  | expire ticket =>
      rw [show (b.perform (.expire ticket)).desk = _ from b.desk_expire ticket]
      rfl
  | publish tag message =>
      rcases b.desk_beginPublish tag message with same | ⟨-, same⟩
      · exact congrArg Desk.outstanding same
      · rw [show (b.perform (.publish tag message)).desk = _ from same]
        rfl
  | resume p => exact congrArg Desk.outstanding (b.desk_resumePublish p)
  | _ => cases calm

/-! ## The task at the head of the line -/

theorem misses_of_other (other : ∀ j, b.performs? e ≠ some (.work j)) : b.misses k e = [] := by
  unfold misses
  split
  · rename_i j which
    exact absurd which (other j)
  · rfl

section Line

variable {task : Task} {rest : List Task} (line : b.tasks = task :: rest)
include line

theorem bound_of_line (other : task.delivery? = none) :
    bound { b with tasks := rest } k = b.bound k := by
  have popped := desk_pop line
  rw [other] at popped
  rw [bound, show Broker.desk { b with tasks := rest } = b.desk from popped.symm, bound]

theorem Tied.next {x : Delivery} (tied : b.Tied k reader x) :
    (b.live (.stir (.move .task))).Tied k reader x := by
  rw [live_of_line line]
  exact Tied.perform (b := { b with tasks := rest }) ⟨tied.placed, tied.own⟩ task

/-- Nobody joins a line while somebody may leave it or come back. -/
theorem enqueued_of_front (front : task.isAtFront = true) :
    (b.minute k m (.stir (.move .task))).enqueued = m.enqueued := by
  simp [minute, joins, performs_of_line line, front]

/-- As long as no delivery from the queue comes to an end, only a worker settles anything. -/
theorem settled_of_same (same : (b.live (.stir (.move .task))).bound k = b.bound k)
    (other : ∀ j, task ≠ .work j) : (b.minute k m (.stir (.move .task))).settled = m.settled := by
  have missed : b.misses k (.stir (.move .task)) = [] := by
    refine misses_of_other fun j which => other j ?_
    rw [performs_of_line line] at which
    exact Option.some.inj which
  rw [settled_of_kept (List.Perm.of_eq same.symm).subset, missed, List.append_nil]

/-- Whoever comes to the queue stands behind the others. -/
theorem inLine_of_calm (queued : b.InLine k reader m) (here : b.isGone k = false)
    (calm : task.isAtFront = false) :
    (b.live (.stir (.move .task))).InLine k reader (b.minute k m (.stir (.move .task))) := by
  have other : task.delivery? = none ∧ ∀ j, task ≠ .work j := by
    cases task with
    | work | send | conclude => cases calm
    | arm | expire | publish | resume => exact ⟨rfl, nofun⟩
  have same : (b.live (.stir (.move .task))).bound k = b.bound k := by
    rw [live_of_line line, bound, outstanding_of_calm calm, ← bound_of_line line other.1, bound]
  have lengthens : Lengthens k b (b.live (.stir (.move .task))) := by
    have popped : Lengthens k b { b with tasks := rest } := .of_shelves rfl
    rw [live_of_line line]
    exact popped.trans (lengthens_perform _ calm)
  have here' : (b.live (.stir (.move .task))).isGone k = false := by
    rw [live_of_line line, isGone_perform]
    exact here
  refine queued.keep lengthens here' same (fun x _ tied => tied.next line) ?_
    (settled_of_same line same other.2)
  simp [minute, joins, performs_of_line line, calm]

end Line

theorem inLine_of_work (queued : b.InLine k reader m) (attended : b.desk.Attended)
    (alone : b.ReadsAlone k reader) {j : Nat} {rest : List Task} (line : b.tasks = .work j :: rest) :
    (b.live (.stir (.move .task))).InLine k reader (b.minute k m (.stir (.move .task))) := by
  have performed : b.live (.stir (.move .task)) = work { b with tasks := rest } j := live_of_line line
  have same : Broker.desk { b with tasks := rest } = b.desk := (desk_pop line).symm
  have bound := bound_of_line (k := k) line rfl
  have queued' : InLine { b with tasks := rest } k reader m :=
    ⟨bound ▸ queued.line, bound ▸ queued.single,
      bound ▸ fun x under => ⟨(queued.tied x under).placed, (queued.tied x under).own⟩⟩
  have kept : b.bound k ⊆ (b.live (.stir (.move .task))).bound k := by
    rw [performed, ← bound]
    exact bound_work_subset _ j k
  have settled := settled_of_kept (m := m) kept
  rw [performed]
  refine inLine_work (b := { b with tasks := rest }) (same.symm ▸ attended) queued' alone
    (enqueued_of_front line rfl) ?_
  rw [settled]
  simp only [misses, performs_of_line line, performed]
  rw [same]
  rfl

theorem inLine_of_send {resumes : List Publication} {down : Bool} (queued : b.InLine k reader m)
    (aloft : b.books.cargo.Aloft [] m.answered resumes down) (here : b.isGone k = false)
    {d : Delivery} {rest : List Task} (line : b.tasks = .send d :: rest) :
    (b.live (.stir (.move .task))).InLine k reader (b.minute k m (.stir (.move .task))) := by
  have which := performs_of_line line
  have shut : b.isShutDown = down := aloft.kept
  have shelved : (Broker.books { b with tasks := rest }).shelves = b.books.shelves := rfl
  have cargo : (Broker.books { b with tasks := rest }).cargo = b.books.cargo := by
    rw [books_pop line]
    rfl
  have whole : b.desk.outstanding.Perm (d :: (Broker.desk { b with tasks := rest }).outstanding) := by
    rw [desk_pop line]
    exact List.perm_middle
  have sent := send_cases (d := d) (cargo ▸ aloft)
  rw [← show b.live (.stir (.move .task)) = send { b with tasks := rest } d from live_of_line line]
    at sent
  rcases sent with ⟨off, shelves⟩ | ⟨back, shelves⟩
  · have same := bound_of_perm queued.single ((whole.trans off).filter _)
    have waiting := waitingIn_of_shelves (shelves.trans shelved) k
    exact queued.still (fun x tied => tied.next line) same waiting (enqueued_of_front line rfl)
      (settled_of_same line same nofun)
  · have landed := whole.trans (back.cons d)
    rw [shelves_requeue_congr shelved] at shelves
    cases down with
    | true =>
        refine queued.land landed (fun x tied => tied.next line) (waitingIn_of_shelves shelves k)
          (enqueued_of_front line rfl) ?_
        simp [minute, settlesIn, misses, which, shut, queued.ends_eq landed]
    | false =>
        refine queued.fail landed (fun x tied => tied.next line) here shelves
          (enqueued_of_front line rfl) ?_
        simp [minute, settlesIn, misses, which, shut, concludesAnswered]

theorem inLine_of_conclude {resumes : List Publication} {down : Bool} (queued : b.InLine k reader m)
    (aloft : b.books.cargo.Aloft [] m.answered resumes down) (here : b.isGone k = false)
    {ticket : Nat} {rest : List Task} (line : b.tasks = .conclude ticket :: rest) :
    (b.live (.stir (.move .task))).InLine k reader (b.minute k m (.stir (.move .task))) := by
  have which := performs_of_line line
  have shut : b.isShutDown = down := aloft.kept
  have shelved : (Broker.books { b with tasks := rest }).shelves = b.books.shelves := rfl
  have concluded := conclude_cases (pop_conclude_aloft aloft line)
    (List.mem_append_right _ List.mem_cons_self)
  rw [← show b.live (.stir (.move .task)) = conclude { b with tasks := rest } ticket from
    live_of_line line, show Broker.desk { b with tasks := rest } = b.desk from (desk_pop line).symm]
    at concluded
  rcases concluded with ⟨-, idle⟩ | ⟨d, -, landed, shelves⟩
  · have same := (congrArg (bound · k) idle).trans (bound_of_line line rfl)
    have waiting : (b.live (.stir (.move .task))).waitingIn k = b.waitingIn k := by
      rw [idle]
      rfl
    exact queued.still (fun x tied => tied.next line) same waiting (enqueued_of_front line rfl)
      (settled_of_same line same nofun)
  · rw [shelves_requeue_congr shelved] at shelves
    by_cases done : ticket ∈ m.answered ∨ down = true
    · rw [if_pos done] at shelves
      refine queued.land landed (fun x tied => tied.next line)
        (waitingIn_of_shelves (shelves.trans shelved) k) (enqueued_of_front line rfl) ?_
      simp [minute, settlesIn, misses, which, concludesAnswered, shut, done, queued.ends_eq landed]
    · rw [if_neg done] at shelves
      refine queued.fail landed (fun x tied => tied.next line) here shelves
        (enqueued_of_front line rfl) ?_
      simp [minute, settlesIn, misses, which, concludesAnswered, shut, done]

/-- A task moves the queue on by one step. -/
theorem inLine_of_task {resumes : List Publication} {down : Bool} (queued : b.InLine k reader m)
    (attended : b.desk.Attended) (aloft : b.books.cargo.Aloft [] m.answered resumes down)
    (here : b.isGone k = false) (alone : b.ReadsAlone k reader) {task : Task} {rest : List Task}
    (line : b.tasks = task :: rest) :
    (b.live (.stir (.move .task))).InLine k reader (b.minute k m (.stir (.move .task))) := by
  cases task with
  | work j => exact inLine_of_work queued attended alone line
  | send d => exact inLine_of_send queued aloft here line
  | conclude ticket => exact inLine_of_conclude queued aloft here line
  | arm | expire | publish | resume => exact inLine_of_calm line queued here rfl

end Broker

end MessageBroker
