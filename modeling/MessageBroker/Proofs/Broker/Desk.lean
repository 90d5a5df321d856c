import MessageBroker.Proofs.Broker.Books
import MessageBroker.Proofs.Queue.Rotation

/-!
# The desk of a broker

The desk keeps what concerns the peers: who is listed at which queue, the client records and the
sessions, the deliveries that are going to be written or are on their way, the ids that were made
up, and the publications that the store holds up. The traffic of messages between the store and the
queues leaves all of it as it is; what the other operations change is said here entry by entry.
-/

namespace MessageBroker

/-- What a queue shows of itself to subscribers. -/
structure Notice where
  name : String
  isClosed : Bool
  members : List Queue.Member
deriving DecidableEq, Repr

/-- The notice of a lane. -/
def Lane.notice (lane : Lane) : Notice :=
  ⟨lane.queue.name, lane.queue.isClosed, lane.queue.roster.members⟩

namespace Notice

/-- The queue is deleted: it is closed and nobody is listed any more. -/
def abolish (n : Notice) : Notice := { n with isClosed := true, members := [] }

/-- A subscriber is listed. -/
def add (n : Notice) (m : Queue.Member) : Notice := { n with members := n.members ++ [m] }

/-- A connection is not listed any more. -/
def strike (n : Notice) (id : String) : Notice :=
  { n with members := n.members.filter fun m => m.id != id }

end Notice

/-- What a broker keeps about its peers. -/
structure Desk where
  notices : List Notice
  clients : List Peer.Client
  sessions : Table String Peer.Session
  ledger : Ledger
  flights : Table Nat Delivery
  sends : List Delivery
  mint : Nat → CorrelationId
  minted : Nat
  heldUp : List Publication

namespace Desk

/-- A change of a client. -/
def modifyClient (d : Desk) (c : Nat) (f : Peer.Client → Peer.Client) : Desk :=
  { d with clients := d.clients.modify c f }

/-- A change of a notice. -/
def modifyNotice (d : Desk) (k : Nat) (g : Notice → Notice) : Desk :=
  { d with notices := d.notices.modify k g }

/-- A client gets the ceiling that is asked for, if one is, but at least one slot. -/
def recap (d : Desk) (c : Nat) : (ceiling : Option Nat) → Desk
  | some n => d.modifyClient c fun client => client.setCeiling (max n 1)
  | none => d

end Desk

namespace Broker

/-- The desk of a broker. -/
def desk (b : Broker) : Desk where
  notices := b.lanes.map Lane.notice
  clients := b.clients
  sessions := b.sessions
  ledger := b.ledger
  flights := b.flights
  sends := b.tasks.filterMap Task.delivery?
  mint := b.mint
  minted := b.minted
  heldUp := b.heldUp

variable (b : Broker)

/-! ## Lanes, tasks and alarms -/

/-- What is done to a lane is done to its notice. -/
theorem desk_modifyLane (k : Nat) {f : Lane → Lane} {g : Notice → Notice}
    (does : ∀ lane, b.lanes[k]? = some lane → (f lane).notice = g lane.notice) :
    (b.modifyLane k f).desk = b.desk.modifyNotice k g := by
  have notices : (b.lanes.modify k f).map Lane.notice = (b.lanes.map Lane.notice).modify k g := by
    apply List.ext_getElem?
    intro j
    rw [List.getElem?_map, List.getElem?_modify, List.getElem?_modify, List.getElem?_map]
    by_cases same : k = j
    · subst same
      cases found : b.lanes[k]? with
      | none => rfl
      | some lane => simpa using does lane found
    · simp [same]
  simp only [desk, modifyLane, Desk.modifyNotice, notices]

/-- A change that a notice does not show. -/
theorem desk_modifyLane_of_notice (k : Nat) {f : Lane → Lane}
    (same : ∀ lane, b.lanes[k]? = some lane → (f lane).notice = lane.notice) :
    (b.modifyLane k f).desk = b.desk := by
  rw [b.desk_modifyLane k (g := id) same, Desk.modifyNotice, List.modify_id]

@[simp] theorem desk_modifyClient (c : Nat) (f : Peer.Client → Peer.Client) :
    (b.modifyClient c f).desk = b.desk.modifyClient c f := rfl

@[simp] theorem desk_announce (e : Event) : (b.announce e).desk = b.desk := rfl

@[simp] theorem desk_setAlarm (due : Nat) (sleeper : Sleeper) :
    (b.setAlarm due sleeper).desk = b.desk := rfl

@[simp] theorem desk_dropAlarm (sleeper : Sleeper) : (b.dropAlarm sleeper).desk = b.desk := rfl

theorem desk_later (t : Task) :
    (b.later t).desk = { b.desk with sends := b.desk.sends ++ t.delivery?.toList } := by
  cases t <;> simp [desk, later, Task.delivery?]

/-- A task that is not to write a delivery. -/
theorem desk_later_of_other {t : Task} (other : t.delivery? = none) :
    (b.later t).desk = b.desk := by
  rw [desk_later, other, Option.toList_none, List.append_nil]

@[simp] theorem desk_next_work (k : Nat) : (b.next (.work k)).desk = b.desk := by
  simp only [desk, next]
  rfl

@[simp] theorem desk_rouse (k : Nat) : (b.rouse k).desk = b.desk := by
  unfold rouse
  split
  · split
    · rw [desk_later_of_other _ rfl, desk_dropAlarm]
      exact b.desk_modifyLane_of_notice k fun _ _ => rfl
    · rfl
  · rfl

@[simp] theorem desk_openGate (k : Nat) : (b.openGate k).desk = b.desk := by
  rw [openGate, desk_rouse]
  exact b.desk_modifyLane_of_notice k fun _ _ => rfl

/-! ## Messages -/

@[simp] theorem desk_release (m : CorrelationId) : (b.release m).desk = b.desk := by
  unfold release
  dsimp only
  split
  · split <;> rfl
  · rfl

@[simp] theorem desk_releaseEach (ids : List CorrelationId) :
    (ids.foldl release b).desk = b.desk := by
  induction ids generalizing b with
  | nil => rfl
  | cons m ids ih => rw [List.foldl_cons, ih, desk_release]

/-- A queue that takes an id, or does not, stays listed as it is. -/
theorem desk_take {k : Nat} {lane : Lane} (found : b.lanes[k]? = some lane) {q : Queue}
    (same : q.name = lane.queue.name ∧ q.isClosed = lane.queue.isClosed ∧
      q.roster = lane.queue.roster) :
    ((b.modifyQueue k fun _ => q).rouse k).desk = b.desk := by
  rw [desk_rouse]
  apply b.desk_modifyLane_of_notice k
  intro lane' found'
  cases found'.symm.trans found
  simp only [Lane.notice, same]

@[simp] theorem desk_enqueue (k : Nat) (m : CorrelationId) : (b.enqueue k m).2.desk = b.desk := by
  unfold enqueue
  cases found : b.lanes[k]? with
  | none => rfl
  | some lane =>
      refine b.desk_take found ?_
      unfold Queue.enqueue
      split <;> exact ⟨rfl, rfl, rfl⟩

@[simp] theorem desk_requeue (k : Nat) (m : CorrelationId) : (b.requeue k m).desk = b.desk := by
  unfold requeue
  cases found : b.lanes[k]? with
  | none => exact b.desk_release m
  | some lane =>
      have taken := b.desk_take (q := (lane.queue.requeue m).2) found (by
        unfold Queue.requeue
        split <;> exact ⟨rfl, rfl, rfl⟩)
      dsimp only
      split
      · exact taken
      · rw [desk_release]
        exact taken

@[simp] theorem desk_fanOut (m : CorrelationId) (lanes : List Nat) :
    (b.fanOut m lanes).2.desk = b.desk := by
  have each : ∀ (lanes : List Nat) (count : Nat) (b : Broker),
      (lanes.foldl (fanOutTo m) (count, b)).2.desk = b.desk := by
    intro lanes
    induction lanes with
    | nil => exact fun _ _ => rfl
    | cons k lanes ih =>
        intro count b
        rw [List.foldl_cons, ih, fanOutTo]
        dsimp only
        split
        · exact b.desk_enqueue k m
        · rw [desk_release]
          exact b.desk_enqueue k m
  exact each lanes 0 _

@[simp] theorem desk_bring (m : Store.Message) (lanes : List Nat) :
    (b.bring m lanes).2.desk = b.desk := by
  unfold bring
  split
  · rfl
  · rename_i depot _
    have spread := desk_fanOut { b with depot } m.id lanes
    dsimp only
    split
    · exact spread
    · exact spread

@[simp] theorem desk_publish (m : Store.Message) : (b.publish m).2.desk = b.desk := by
  unfold publish
  split
  · rfl
  · exact b.desk_bring m _

/-- The publications that the store holds up from the beginning of another on. -/
theorem desk_beginPublish (tag : String) (m : Store.Message) :
    (b.beginPublish tag m).desk = b.desk ∨
      b.matching m.route ≠ [] ∧ (b.beginPublish tag m).desk =
        { b.desk with heldUp := b.heldUp ++ [⟨tag, m, b.matching m.route⟩] } := by
  unfold beginPublish
  split
  · exact .inl rfl
  · rename_i some'
    split
    · exact .inr ⟨some', rfl⟩
    · exact .inl (b.desk_bring m _)

@[simp] theorem desk_resumePublish (p : Publication) : (b.resumePublish p).desk = b.desk :=
  b.desk_bring p.message p.lanes

@[simp] theorem desk_recoverOne (report : Recovery) (m : CorrelationId) :
    (b.recoverOne report m).2.desk = b.desk := by
  unfold recoverOne
  split
  · rfl
  · split
    · rfl
    · rfl
    · rename_i depot _
      dsimp only
      split
      · rfl
      · split <;> exact desk_fanOut { b with depot } m _

@[simp] theorem desk_recover : b.recover.2.desk = b.desk := by
  have each : ∀ (ids : List CorrelationId) (report : Recovery) (b : Broker),
      (b.recoverEach report ids).2.desk = b.desk := by
    intro ids
    induction ids with
    | nil => exact fun _ _ => rfl
    | cons m ids ih =>
        intro report b
        have one := b.desk_recoverOne report m
        rw [recoverEach]
        split <;> rename_i looked <;> rw [looked] at one
        · exact one
        · rw [ih]
          exact one
  unfold recover
  split
  · rfl
  · exact each _ _ _

/-! ## Workers -/

@[simp] theorem desk_setStage (k : Nat) (stage : WorkerStage) :
    (b.setStage k stage).desk = b.desk :=
  b.desk_modifyLane_of_notice k fun _ _ => rfl

@[simp] theorem desk_stepAside (k : Nat) : (b.stepAside k).desk = b.desk := by
  apply b.desk_modifyLane_of_notice k
  intro lane _
  cases place : lane.queue.gate.waiter <;> simp [Lane.notice, place]

@[simp] theorem desk_await (k : Nat) (until? : Option Nat) : (b.await k until?).desk = b.desk := by
  unfold await
  split
  · rfl
  · rename_i lane _
    have arrived : (b.modifyQueue k fun queue =>
        { queue with gate := (lane.queue.gate.arrive ()).2 }).desk = b.desk :=
      b.desk_modifyLane_of_notice k fun _ _ => rfl
    dsimp only
    split
    · rw [desk_next_work, arrived]
    · rw [desk_setStage, arrived]
    · split
      · rw [desk_setAlarm, desk_setStage, arrived]
      · rw [desk_setStage, arrived]

/-- A slot that is taken and given back. -/
theorem modify_release_occupy (clients : List Peer.Client) (c : Nat) :
    (clients.modify c Peer.Client.occupy).modify c Peer.Client.release = clients := by
  apply List.ext_getElem?
  intro j
  rw [List.getElem?_modify, List.getElem?_modify]
  by_cases same : c = j
  · cases clients[j]? <;> simp [same, Peer.Client.occupy, Peer.Client.release]
  · simp [same]

end Broker

/-- What is fetched is what is stored, if anything is. -/
theorem Store.Depot.stored_of_get? {d d' : Depot} {id : CorrelationId} {found : Option Message}
    (fetched : d.get? id = (.ok found, d')) : d.messages.get? id = found := by
  rw [get?, use] at fetched
  split at fetched
  · exact Except.ok.inj (Prod.mk.inj fetched).1
  · cases fetched

namespace Broker

variable (b : Broker)

/-- What becomes of a slot that was taken: a delivery of a stored message, under a new id, is going to
be written to its client, or the slot is given back. -/
theorem desk_sendOff {d : Desk} {k c : Nat} (m : CorrelationId)
    (taken : b.desk = d.modifyClient c Peer.Client.occupy) :
    (b.sendOff k c m).2.desk = d ∨ ∃ stored, b.depot.messages.get? m = some stored ∧
      (b.sendOff k c m).2.desk =
        { d.modifyClient c Peer.Client.occupy with
          sends := d.sends ++ [⟨d.mint d.minted, k, c, m, stored.route, stored.payload⟩]
          minted := d.minted + 1 } := by
  have back : b.desk.modifyClient c Peer.Client.release = d := by
    rw [taken, Desk.modifyClient, Desk.modifyClient, modify_release_occupy]
  unfold sendOff
  split
  · rename_i message depot fetched
    refine .inr ⟨message, Store.Depot.stored_of_get? fetched, ?_⟩
    have sends : b.desk.sends = d.sends := by rw [taken, Desk.modifyClient]
    have minted : b.desk.minted = d.minted := by rw [taken, Desk.modifyClient]
    have mint : b.desk.mint = d.mint := by rw [taken, Desk.modifyClient]
    dsimp only [mintId]
    rw [desk_later, ← taken, ← sends, ← minted, ← mint]
    rfl
  · rw [desk_release]
    exact .inl back
  · rw [desk_requeue]
    exact .inl back

/-- An attempt to deliver leaves the desk as it is, or takes a slot of a client that is listed and
has room and is going to write a delivery of a stored message, under a new id. -/
theorem desk_offer (k : Nat) : (b.offer k).2.desk = b.desk ∨
    ∃ lane member message stored, b.lanes[k]? = some lane ∧
      member ∈ lane.queue.roster.members ∧ b.hasRoom member.client = true ∧
      b.depot.messages.get? message = some stored ∧
      (b.offer k).2.desk =
        { b.desk.modifyClient member.client Peer.Client.occupy with
          sends := b.desk.sends ++
            [⟨b.mint b.minted, k, member.client, message, stored.route, stored.payload⟩]
          minted := b.minted + 1 } := by
  unfold offer
  cases found : b.lanes[k]? with
  | none => exact .inl rfl
  | some lane =>
      dsimp only
      cases waiting : lane.queue.pending with
      | nil => exact .inl rfl
      | cons m rest =>
          have members := lane.queue.roster.members_select b.hasRoom
          have chosen : ∀ m, (lane.queue.roster.select b.hasRoom).1 = some m →
              m ∈ lane.queue.roster.members ∧ b.hasRoom m.client = true :=
            fun _ => Queue.Roster.mem_of_select
          dsimp only
          generalize lane.queue.roster.select b.hasRoom = selected at members chosen
          obtain ⟨member?, roster⟩ := selected
          have listed : (b.modifyQueue k fun queue => { queue with roster }).desk = b.desk := by
            refine b.desk_modifyLane_of_notice k ?_
            intro lane' found'
            cases found'.symm.trans found
            simp only [Lane.notice]
            rw [members]
          cases member? with
          | none => exact .inl listed
          | some member =>
              obtain ⟨mem, room⟩ := chosen member rfl
              dsimp only
              have taken : (((b.modifyQueue k fun queue => { queue with roster }).modifyClient
                  member.client Peer.Client.occupy).modifyQueue k fun queue =>
                    { queue with pending := rest }).desk =
                  b.desk.modifyClient member.client Peer.Client.occupy := by
                rw [← listed, ← desk_modifyClient]
                exact desk_modifyLane_of_notice _ k fun _ _ => rfl
              rcases desk_sendOff _ (k := k) m taken with same | ⟨stored, fetched, went⟩
              · exact .inl same
              · exact .inr ⟨lane, member, m, stored, rfl, mem, room, fetched, went⟩

/-- The work of a worker leaves the desk as it is, or takes a slot of a client that is listed at its
queue, which is open, and has room. -/
theorem desk_work (k : Nat) : (b.work k).desk = b.desk ∨
    ∃ notice member message stored, b.desk.notices[k]? = some notice ∧
      notice.isClosed = false ∧ member ∈ notice.members ∧ b.hasRoom member.client = true ∧
      b.depot.messages.get? message = some stored ∧
      (b.work k).desk =
        { b.desk.modifyClient member.client Peer.Client.occupy with
          sends := b.desk.sends ++
            [⟨b.mint b.minted, k, member.client, message, stored.route, stored.payload⟩]
          minted := b.minted + 1 } := by
  have aside := b.desk_stepAside k
  cases found : (b.stepAside k).lanes[k]? with
  | none => exact .inl (work_of_none found ▸ aside)
  | some lane =>
      cases closed : lane.queue.isClosed with
      | true =>
          rw [work_of_closed found closed, desk_setStage]
          exact .inl aside
      | false =>
          have blocked : ((b.stepAside k).modifyQueue k fun queue =>
              { queue with gate := queue.gate.block }).desk = b.desk := by
            rw [← aside]
            exact desk_modifyLane_of_notice _ k fun _ _ => rfl
          have tried : (b.work k).desk = (b.attempt k).2.desk := by
            rw [work_of_open found closed]
            split <;> rename_i b' went
            · rw [desk_next_work, went]
              exact b'.desk_modifyLane_of_notice k fun _ _ => rfl
            · rw [desk_await, went]
            · rw [desk_await, went]
              exact b'.desk_modifyLane_of_notice k fun _ _ => rfl
          rw [tried, attempt]
          rcases desk_offer ((b.stepAside k).modifyQueue k fun queue =>
            { queue with gate := queue.gate.block }) k with same | offered
          · exact .inl (same.trans blocked)
          · obtain ⟨lane', member, message, stored, found', listed, room, fetched, offered⟩ := offered
            rw [blocked] at offered
            have shown : b.desk.notices[k]? = some lane'.notice := by
              rw [← blocked]
              simp only [desk, List.getElem?_map, found', Option.map_some]
            have same : lane'.queue.isClosed = false := by
              simp only [modifyQueue, modifyLane, List.getElem?_modify_eq, found] at found'
              obtain rfl := Option.some.inj found'
              exact closed
            exact .inr ⟨lane'.notice, member, message, stored, shown, same, listed, room, fetched,
              offered⟩

/-! ## Deliveries -/

@[simp] theorem desk_arm (ticket : Nat) : (b.arm ticket).desk = b.desk := by
  unfold arm
  split <;> rfl

theorem desk_resolve (id : CorrelationId) (outcome : Outcome) :
    (b.resolve id outcome).2.desk = { b.desk with ledger := (b.ledger.resolve id outcome).2 } := by
  unfold resolve Ledger.resolve
  cases b.ledger.find? id with
  | none => rfl
  | some t =>
      dsimp only
      rw [desk_later_of_other _ rfl]
      rfl

theorem desk_expire (ticket : Nat) :
    (b.expire ticket).desk = { b.desk with ledger := b.ledger.expire ticket } := by
  unfold expire
  split
  · rw [desk_later_of_other _ rfl]
    rfl
  · rename_i ended
    have missing : b.ledger.pending.find? (fun t => t.ticket = ticket) = none := by
      simpa [Ledger.isWaiting] using ended
    rw [Ledger.expire, missing]
    rfl

theorem desk_write (c : Nat) (frame : Wire.Frame) :
    (b.write c frame).2.desk = b.desk.modifyClient c fun client =>
      { client with link := (client.sendFrame frame).2.link } := by
  have set : ∀ client, b.clients[c]? = some client → b.clients.set c (client.sendFrame frame).2 =
      b.clients.modify c fun client => { client with link := (client.sendFrame frame).2.link } := by
    intro client found
    rw [client.sendFrame_snd]
    apply List.ext_getElem?
    intro j
    rw [List.getElem?_modify, List.getElem?_set]
    by_cases same : c = j
    · subst same
      obtain ⟨here, rfl⟩ := List.getElem?_eq_some_iff.1 found
      simp [here]
    · simp [same]
  unfold write
  cases found : b.clients[c]? with
  | none =>
      have none' : b.clients.length ≤ c := List.getElem?_eq_none_iff.1 found
      simp only [Desk.modifyClient]
      rw [List.modify_eq_self (show b.desk.clients.length ≤ c from none')]
  | some client =>
      have same := set client found
      dsimp only
      cases (client.sendFrame frame).1 <;> simp only [same] <;> rfl

@[simp] theorem desk_follow (d : Delivery) (outcome : Outcome) :
    (b.follow d outcome).desk = b.desk := by
  unfold follow
  split
  · rw [desk_release, desk_announce]
  · rw [desk_release, desk_announce]
  · dsimp only
    split
    · rfl
    · rw [desk_requeue, desk_announce]

/-- A delivery is concluded if it is on its way and has an outcome. -/
theorem desk_conclude (ticket : Nat) : (b.conclude ticket).desk = b.desk ∨
    ∃ d outcome, b.flights.get? ticket = some d ∧ (b.ledger.collect ticket).1 = some outcome ∧
      (b.conclude ticket).desk =
        { b.desk.modifyClient d.client fun client => (client.untrack d.id).2.release with
          ledger := (b.ledger.collect ticket).2
          flights := b.flights.erase ticket } := by
  unfold conclude
  cases flown : b.flights.get? ticket with
  | none => exact .inl rfl
  | some d =>
      dsimp only
      cases collected : b.ledger.collect ticket with
      | mk outcome? ledger =>
        cases outcome? with
        | none => exact .inl rfl
        | some outcome =>
            refine .inr ⟨d, outcome, rfl, rfl, ?_⟩
            dsimp only
            rw [desk_follow, desk_openGate]
            rfl

theorem desk_launch (d : Delivery) :
    (b.launch d).2.desk = { b.desk.modifyClient d.client fun client => client.track d.id with
      ledger := (b.ledger.setUp d.id true).2
      flights := b.flights.insert (b.launch d).1 d } := by
  dsimp only [launch]
  rw [desk_modifyClient, desk_later_of_other _ rfl]
  rfl

/-! ## Connections -/

/-- A greeting takes an id and leaves nothing but changes of the ledger behind. -/
theorem desk_greet (c : Nat) : (b.greet c).desk =
    { b.desk.modifyClient c fun client =>
        { client with link := (client.sendFrame (.ready b.mintId.1)).2.link } with
      ledger := (b.greet c).ledger
      minted := b.minted + 1 } := by
  have resolved := b.mintId.2.desk_resolve b.mintId.1 (some .cancelled)
  unfold greet
  dsimp only
  generalize (b.mintId.2.resolve b.mintId.1 (some .cancelled)).2 = b' at resolved
  generalize (b'.ledger.setUp b.mintId.1 false) = tracked
  have written := desk_write { b' with ledger := tracked.2 } c (.ready b.mintId.1)
  have same : Broker.desk { b' with ledger := tracked.2 } =
      { b.desk with ledger := tracked.2, minted := b.minted + 1 } :=
    congrArg (fun d : Desk => { d with ledger := tracked.2 }) resolved
  rw [same] at written
  split <;> rename_i b'' went <;> rw [went] at written
  · exact congrArg (fun d : Desk => { d with
      ledger := ((b''.ledger.written b.mintId.1).2.collect tracked.1).2 }) written
  · exact congrArg (fun d : Desk => { d with
      ledger := ((b''.ledger.unwritten b.mintId.1).2.collect tracked.1).2 }) written

/-! ## Requests -/

/-- A queue that is declared is announced behind the others, if its name is legal and there was none
of its name. -/
theorem desk_declare (name route : String) : (b.declare name route).2.desk = b.desk ∨
    Queue.nameFault? name = none ∧ b.lane? name = none ∧ (b.declare name route).2.desk =
      { b.desk with notices := b.desk.notices ++ [⟨name, false, []⟩] } := by
  unfold declare
  split
  · exact .inl rfl
  · rename_i legal
    split
    · exact .inl rfl
    · split
      · split <;> exact .inl rfl
      · rename_i missing
        refine .inr ⟨legal, missing, ?_⟩
        dsimp only
        rw [desk_later_of_other _ rfl]
        simp only [desk, List.map_append, List.map_cons, List.map_nil]
        rfl

theorem desk_closeLane (k : Nat) :
    (b.closeLane k).desk = b.desk.modifyNotice k fun n => { n with isClosed := true } := by
  rw [closeLane, desk_rouse]
  exact b.desk_modifyLane k fun _ _ => rfl

/-- A queue that is deleted is taken down, and no session lists it any more. -/
theorem desk_delete (name : String) : (b.delete name).2.desk =
    match b.lane? name with
    | none => b.desk
    | some (k, _) =>
      { b.desk.modifyNotice k Notice.abolish with
        sessions := b.sessions.map fun s => (s.unsubscribe name).2 } := by
  unfold delete
  cases b.lane? name with
  | none => rfl
  | some entry =>
      obtain ⟨k, lane⟩ := entry
      have cleared : ((b.closeLane k).modifyQueue k fun queue =>
          { queue with roster := queue.roster.clear, pending := [] }).desk =
          b.desk.modifyNotice k Notice.abolish := by
        rw [modifyQueue, desk_modifyLane _ k (g := fun n => { n with members := [] }) fun _ _ => rfl,
          desk_closeLane, Desk.modifyNotice, Desk.modifyNotice]
        simp only [List.modify_modify_eq]
        rfl
      dsimp only
      rw [desk_releaseEach]
      have kept : ((b.closeLane k).modifyQueue k fun queue =>
          { queue with roster := queue.roster.clear, pending := [] }).sessions = b.sessions :=
        congrArg Desk.sessions cleared
      rw [kept]
      exact congrArg (fun d : Desk => { d with
        sessions := b.sessions.map fun s => (s.unsubscribe name).2 }) cleared

/-- A connection is struck off the list of a declared queue. -/
theorem desk_strike (id name : String) : (b.strike id name).desk =
    match b.lane? name with
    | none => b.desk
    | some (k, _) => b.desk.modifyNotice k fun n => n.strike id := by
  unfold strike
  cases b.lane? name with
  | none => rfl
  | some entry => exact b.desk_modifyLane _ fun _ _ => rfl

/-- A subscriber is listed at a queue. -/
theorem desk_enlist {lane : Lane} {k : Nat} (found : b.lanes[k]? = some lane) {m : Queue.Member}
    {roster : Queue.Roster} (added : lane.queue.roster.add? m = some roster)
    (sessions : Table String Peer.Session) :
    Broker.desk { b.modifyQueue k fun queue => { queue with roster } with sessions } =
      { b.desk.modifyNotice k fun n => n.add m with sessions } := by
  have members : roster.members = lane.queue.roster.members ++ [m] := by
    unfold Queue.Roster.add? at added
    split at added
    · cases added
    · cases added
      rfl
  have listed : (b.modifyQueue k fun queue => { queue with roster }).desk =
      b.desk.modifyNotice k fun n => n.add m := by
    refine b.desk_modifyLane k ?_
    intro lane' found'
    cases found'.symm.trans found
    simp only [Lane.notice, Notice.add, members]
  exact congrArg (fun d : Desk => { d with sessions }) listed

/-- A subscription lists the client of the session, and changes the ceiling of the client also if it
is refused. -/
theorem desk_subscribe (id name : String) (ceiling : Option Nat) :
    (b.subscribe id name ceiling).1 ≠ .ok () ∧ (b.subscribe id name ceiling).2.desk = b.desk ∨
      ∃ session k lane, b.sessions.get? id = some session ∧ b.lane? name = some (k, lane) ∧
        ((b.subscribe id name ceiling).1 ≠ .ok () ∧
            (b.subscribe id name ceiling).2.desk = b.desk.recap session.client ceiling ∨
          lane.queue.roster.contains id = false ∧ (b.subscribe id name ceiling).2.desk =
            { (b.desk.recap session.client ceiling).modifyNotice k fun n =>
                n.add ⟨session.client, id⟩ with
              sessions := b.sessions.insert id (session.subscribe name).2 }) := by
  unfold subscribe
  cases found : b.sessions.get? id with
  | none => exact .inl ⟨nofun, rfl⟩
  | some session =>
      cases declared : b.lane? name with
      | none => exact .inl ⟨nofun, rfl⟩
      | some entry =>
          obtain ⟨k, lane⟩ := entry
          have place := (lane?_eq_some declared).1
          refine .inr ⟨session, k, lane, rfl, rfl, ?_⟩
          cases added : lane.queue.roster.add? ⟨session.client, id⟩ with
          | none => cases ceiling <;> exact .inl (by simp only [added]; exact ⟨nofun, rfl⟩)
          | some roster =>
              have new : lane.queue.roster.contains id = false := by
                unfold Queue.Roster.add? at added
                split at added
                · cases added
                · rename_i missing
                  exact Bool.eq_false_iff.2 missing
              refine .inr ⟨new, ?_⟩
              cases ceiling with
              | none =>
                  simp only [added]
                  rw [desk_openGate, b.desk_enlist place added]
                  rfl
              | some n =>
                  simp only [added]
                  rw [desk_openGate, desk_enlist (b := b.modifyClient session.client _) place added]
                  rfl

/-- A subscription ends: the session forgets the queue, and the queue forgets the connection. -/
theorem desk_unsubscribe (id name : String) :
    (b.unsubscribe id name).1 ≠ .ok () ∧ (b.unsubscribe id name).2.desk = b.desk ∨
      ∃ session, b.sessions.get? id = some session ∧ session.isSubscribed name = true ∧
        (b.unsubscribe id name).2.desk = (Broker.strike { b with
          sessions := b.sessions.insert id (session.unsubscribe name).2 } id name).desk := by
  unfold unsubscribe
  cases found : b.sessions.get? id with
  | none => exact .inl ⟨nofun, rfl⟩
  | some session =>
      dsimp only
      cases left : session.unsubscribe name with
      | mk listed session' =>
        cases listed with
        | false => exact .inl ⟨nofun, rfl⟩
        | true => exact .inr ⟨session, rfl, congrArg Prod.fst left, by rw [left]⟩

theorem modify_length_append {α : Type} (xs : List α) (x : α) (f : α → α) :
    (xs ++ [x]).modify xs.length f = xs ++ [f x] := by
  induction xs with
  | nil => rfl
  | cons y xs ih => rw [List.cons_append, List.length_cons, List.modify_succ_cons, ih]; rfl

/-- A connection is registered with a client of its own, unless its id is taken. -/
theorem desk_connect (id : String) (link : Peer.Link) : (b.connect id link).2.desk = b.desk ∨
    b.sessions.get? id = none ∧ ∃ link', (b.connect id link).2.desk =
      { b.desk with
        clients := b.clients ++ [Peer.Client.new id link' b.settings.defaultMaxConcurrency]
        sessions := b.sessions.insert id ⟨id, b.clients.length, (Stream.Assembler.new b.buffers
          b.settings.initialBufferSize b.settings.maxBodySize).1, []⟩
        ledger := (b.connect id link).2.ledger
        minted := b.minted + 1 } := by
  unfold connect
  dsimp only
  split
  · exact .inl rfl
  · rename_i new
    have missing : b.sessions.get? id = none := by
      rw [Table.contains, Bool.not_eq_true, Option.isSome_eq_false_iff, Option.isNone_iff_eq_none] at new
      exact new
    refine .inr ⟨missing, ((Peer.Client.new id link b.settings.defaultMaxConcurrency).sendFrame
      (.ready b.mintId.1)).2.link, ?_⟩
    rw [desk_greet]
    dsimp only [announce, note, Desk.modifyClient, desk]
    rw [modify_length_append]
    rfl

/-- Sends are resolved one after the other. -/
theorem desk_resolveEach (ids : List CorrelationId) (outcome : Outcome) :
    (ids.foldl (fun b id => (b.resolve id outcome).2) b).desk =
      { b.desk with ledger := ids.foldl (fun l id => (l.resolve id outcome).2) b.ledger } := by
  induction ids generalizing b with
  | nil => rfl
  | cons id ids ih =>
      have one := b.desk_resolve id outcome
      have ledger : (b.resolve id outcome).2.ledger = (b.ledger.resolve id outcome).2 :=
        congrArg Desk.ledger one
      rw [List.foldl_cons, ih, one, ledger]
      rfl

/-- A connection that ends loses its session and its places on the lists, and its deliveries are
resolved. -/
theorem desk_disconnect (id : String) : (b.disconnect id).desk = b.desk ∨
    ∃ session, b.sessions.get? id = some session ∧ (b.disconnect id).desk =
      { (session.subscriptions.foldl (fun (b : Broker) name => b.strike id name)
          { b with sessions := b.sessions.erase id }).desk.modifyClient session.client
            fun client => client.takeDeliveries.2 with
        ledger := ((b.clients[session.client]?.map Peer.Client.deliveries).getD []).foldl
          (fun l d => (l.resolve d (some .sendFailed)).2) b.ledger } := by
  unfold disconnect
  cases found : b.sessions.get? id with
  | none => exact .inl rfl
  | some session =>
      refine .inr ⟨session, rfl, ?_⟩
      have struck : ∀ (names : List String) (b : Broker),
          (names.foldl (fun b name => b.strike id name) b).clients = b.clients ∧
            (names.foldl (fun b name => b.strike id name) b).ledger = b.ledger := by
        intro names
        induction names with
        | nil => exact fun _ => ⟨rfl, rfl⟩
        | cons name names ih =>
            intro b
            have one := b.desk_strike id name
            have clients : (b.strike id name).clients = b.clients := by
              refine (congrArg Desk.clients one).trans ?_
              cases b.lane? name <;> rfl
            have ledger : (b.strike id name).ledger = b.ledger := by
              refine (congrArg Desk.ledger one).trans ?_
              cases b.lane? name <;> rfl
            rw [List.foldl_cons, (ih _).1, (ih _).2, clients, ledger]
            exact ⟨rfl, rfl⟩
      obtain ⟨clients, ledger⟩ := struck session.subscriptions
        { b with sessions := b.sessions.erase id }
      dsimp only
      rw [clients]
      generalize session.subscriptions.foldl (fun b name => b.strike id name)
        { b with sessions := b.sessions.erase id } = b' at ledger ⊢
      refine (desk_resolveEach _ _ _).trans ?_
      rw [desk_modifyClient, show (b'.modifyClient _ _).ledger = b.ledger from ledger]

/-! ## Alarms -/

@[simp] theorem desk_call (sleeper : Sleeper) : (b.call sleeper).desk = b.desk := by
  cases sleeper with
  | worker k => rw [call, desk_later_of_other _ rfl, desk_setStage]
  | limit ticket => exact b.desk_later_of_other rfl

@[simp] theorem desk_ring : b.ring.desk = b.desk := by
  have each : ∀ (alarms : List Alarm) (b : Broker),
      (alarms.foldl (fun b a => b.call a.sleeper) b).desk = b.desk := by
    intro alarms
    induction alarms with
    | nil => exact fun _ => rfl
    | cons a alarms ih => exact fun b => (ih _).trans (b.desk_call a.sleeper)
  exact each _ _

/-! ## The end -/

variable {b} in
/-- The shutdown marks the broker, closes its queues, resolves what waits for an outcome and closes the
links. What holds all the while holds in the end. -/
theorem shutDown_induction {P : Broker → Prop} (marked : P { b with isShutDown := true })
    (closes : ∀ {b : Broker} (k : Nat), P b → P (b.closeLane k))
    (resolves : ∀ {b : Broker} (id : CorrelationId), P b → P (b.resolve id (some .cancelled)).2)
    (unlinks : ∀ {b : Broker} (c : Nat), P b →
      P (b.modifyClient c fun client => { client with link := client.link.close })) : P b.shutDown := by
  have each : ∀ {α : Type} {step : Broker → α → Broker}, (∀ {b : Broker} a, P b → P (step b a)) →
      ∀ (as : List α) {b : Broker}, P b → P (as.foldl step b) := by
    intro α step keeps as
    induction as with
    | nil => exact id
    | cons a as ih => exact fun holds => ih (keeps a holds)
  unfold shutDown
  exact each (fun session : Peer.Session => unlinks session.client) _ (each resolves _ (each closes _ marked))

end Broker

end MessageBroker
