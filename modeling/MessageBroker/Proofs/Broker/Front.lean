import MessageBroker.Proofs.Broker.Desk

/-!
# The front of a broker

The front is what a broker has shown of itself: the titles of its queues, how many clients it has
had, and the frames that it has tried to write, in order, be it that they were written or not.
Titles are never taken down, even if a queue is deleted, and nothing that was said is taken back.
Most operations add nothing at all; those that do are the ones that answer a peer, greet it or
deliver to it.
-/

namespace MessageBroker

/-- What a queue is known by. -/
structure Title where
  name : String
  pattern : Pattern
deriving DecidableEq

/-- The title of a lane. -/
def Lane.title (lane : Lane) : Title :=
  ⟨lane.queue.name, lane.queue.pattern⟩

/-- The attempt to write that is recorded, with the number of the client. -/
def Record.attempt? : Record → Option (Nat × Wire.Frame)
  | wrote c frame _ | refused c frame => some (c, frame)
  | announced _ => none

/-- What a broker has shown of itself. -/
structure Front where
  settings : Settings.Engine
  titles : List Title
  /-- How many clients there have been. -/
  seats : Nat
  /-- The frames that it has tried to write, with the numbers of the clients, oldest first. -/
  attempts : List (Nat × Wire.Frame)

/-- A frame is tried to be written to a client, if there is such a client. -/
def Front.say (f : Front) (c : Nat) (frame : Wire.Frame) : Front :=
  if c < f.seats then { f with attempts := f.attempts ++ [(c, frame)] } else f

namespace Broker

/-- The front of a broker. -/
def front (b : Broker) : Front where
  settings := b.settings
  titles := b.lanes.map Lane.title
  seats := b.clients.length
  attempts := b.log.reverse.filterMap Record.attempt?

variable (b : Broker)

/-! ## Lanes, tasks and alarms -/

/-- A change of a lane that leaves its title alone. -/
theorem front_modifyLane (k : Nat) {f : Lane → Lane}
    (same : ∀ lane, b.lanes[k]? = some lane → (f lane).title = lane.title) :
    (b.modifyLane k f).front = b.front := by
  have titles : (b.lanes.modify k f).map Lane.title = b.lanes.map Lane.title := by
    apply List.ext_getElem?
    intro j
    rw [List.getElem?_map, List.getElem?_modify, List.getElem?_map]
    by_cases here : k = j
    · subst here
      cases found : b.lanes[k]? with
      | none => rfl
      | some lane => simpa using same lane found
    · simp [here]
  simp only [front, modifyLane, titles]

/-- A change of a queue that leaves its name and its pattern alone. -/
theorem front_modifyQueue (k : Nat) {f : Queue → Queue}
    (same : ∀ queue, (f queue).name = queue.name ∧ (f queue).pattern = queue.pattern) :
    (b.modifyQueue k f).front = b.front := by
  apply b.front_modifyLane k
  intro lane _
  simp only [Lane.title, same lane.queue]

@[simp] theorem front_modifyClient (c : Nat) (f : Peer.Client → Peer.Client) :
    (b.modifyClient c f).front = b.front := by
  simp [front, modifyClient]

@[simp] theorem front_announce (e : Event) : (b.announce e).front = b.front := by
  simp [front, announce, note, Record.attempt?]

@[simp] theorem front_later (t : Task) : (b.later t).front = b.front := rfl

@[simp] theorem front_next (t : Task) : (b.next t).front = b.front := rfl

@[simp] theorem front_setAlarm (due : Nat) (sleeper : Sleeper) :
    (b.setAlarm due sleeper).front = b.front := rfl

@[simp] theorem front_dropAlarm (sleeper : Sleeper) : (b.dropAlarm sleeper).front = b.front := rfl

@[simp] theorem front_rouse (k : Nat) : (b.rouse k).front = b.front := by
  unfold rouse
  split
  · split
    · rw [front_later, front_dropAlarm]
      exact b.front_modifyLane k fun _ _ => rfl
    · rfl
  · rfl

@[simp] theorem front_openGate (k : Nat) : (b.openGate k).front = b.front := by
  rw [openGate, front_rouse]
  exact b.front_modifyQueue k fun _ => ⟨rfl, rfl⟩

/-! ## Messages -/

@[simp] theorem front_release (m : CorrelationId) : (b.release m).front = b.front := by
  unfold release
  dsimp only
  split
  · split
    · exact front_announce _ _
    · rfl
  · rfl

@[simp] theorem front_releaseEach (ids : List CorrelationId) :
    (ids.foldl release b).front = b.front := by
  induction ids generalizing b with
  | nil => rfl
  | cons m ids ih => rw [List.foldl_cons, ih, front_release]

/-- A queue that takes an id, or does not, keeps its title. -/
theorem front_take {k : Nat} {lane : Lane} (found : b.lanes[k]? = some lane) {q : Queue}
    (same : q.name = lane.queue.name ∧ q.pattern = lane.queue.pattern) :
    ((b.modifyQueue k fun _ => q).rouse k).front = b.front := by
  rw [front_rouse]
  apply b.front_modifyLane k
  intro lane' found'
  cases found'.symm.trans found
  simp only [Lane.title, same]

@[simp] theorem front_enqueue (k : Nat) (m : CorrelationId) :
    (b.enqueue k m).2.front = b.front := by
  unfold enqueue
  cases found : b.lanes[k]? with
  | none => rfl
  | some lane =>
      refine b.front_take found ?_
      unfold Queue.enqueue
      split <;> exact ⟨rfl, rfl⟩

@[simp] theorem front_requeue (k : Nat) (m : CorrelationId) : (b.requeue k m).front = b.front := by
  unfold requeue
  cases found : b.lanes[k]? with
  | none => exact b.front_release m
  | some lane =>
      have taken := b.front_take (q := (lane.queue.requeue m).2) found (by
        unfold Queue.requeue
        split <;> exact ⟨rfl, rfl⟩)
      dsimp only
      split
      · exact taken
      · rw [front_release]
        exact taken

@[simp] theorem front_fanOut (m : CorrelationId) (lanes : List Nat) :
    (b.fanOut m lanes).2.front = b.front := by
  have each : ∀ (lanes : List Nat) (count : Nat) (b : Broker),
      (lanes.foldl (fanOutTo m) (count, b)).2.front = b.front := by
    intro lanes
    induction lanes with
    | nil => exact fun _ _ => rfl
    | cons k lanes ih =>
        intro count b
        rw [List.foldl_cons, ih, fanOutTo]
        dsimp only
        split
        · exact b.front_enqueue k m
        · rw [front_release]
          exact b.front_enqueue k m
  exact each lanes 0 _

@[simp] theorem front_bring (m : Store.Message) (lanes : List Nat) :
    (b.bring m lanes).2.front = b.front := by
  unfold bring
  split
  · rfl
  · rename_i depot _
    have spread := front_fanOut { b with depot } m.id lanes
    dsimp only
    split
    · exact spread
    · rw [front_announce]
      exact spread

@[simp] theorem front_publish (m : Store.Message) : (b.publish m).2.front = b.front := by
  unfold publish
  split
  · rfl
  · exact b.front_bring m _

@[simp] theorem front_beginPublish (tag : String) (m : Store.Message) :
    (b.beginPublish tag m).front = b.front := by
  unfold beginPublish
  split
  · rfl
  · split
    · rfl
    · exact b.front_bring m _

@[simp] theorem front_resumePublish (p : Publication) : (b.resumePublish p).front = b.front :=
  b.front_bring p.message p.lanes

@[simp] theorem front_setHoldUp (holdsUp : Bool) : (b.setHoldUp holdsUp).front = b.front := by
  cases holdsUp <;> rfl

@[simp] theorem front_recoverOne (report : Recovery) (m : CorrelationId) :
    (b.recoverOne report m).2.front = b.front := by
  unfold recoverOne
  split
  · rfl
  · split
    · rfl
    · rfl
    · rename_i depot _
      dsimp only
      split
      · rfl
      · split <;> exact front_fanOut { b with depot } m _

@[simp] theorem front_recover : b.recover.2.front = b.front := by
  have each : ∀ (ids : List CorrelationId) (report : Recovery) (b : Broker),
      (b.recoverEach report ids).2.front = b.front := by
    intro ids
    induction ids with
    | nil => exact fun _ _ => rfl
    | cons m ids ih =>
        intro report b
        have one := b.front_recoverOne report m
        rw [recoverEach]
        split <;> rename_i looked <;> rw [looked] at one
        · exact one
        · rw [ih]
          exact one
  unfold recover
  split
  · rfl
  · exact each _ _ _

/-! ## Workers -/

@[simp] theorem front_setStage (k : Nat) (stage : WorkerStage) :
    (b.setStage k stage).front = b.front :=
  b.front_modifyLane k fun _ _ => rfl

@[simp] theorem front_stepAside (k : Nat) : (b.stepAside k).front = b.front := by
  apply b.front_modifyQueue k
  intro queue
  cases queue.gate.waiter <;> exact ⟨rfl, rfl⟩

@[simp] theorem front_await (k : Nat) (until? : Option Nat) :
    (b.await k until?).front = b.front := by
  unfold await
  split
  · rfl
  · rename_i lane _
    have arrived : (b.modifyQueue k fun queue =>
        { queue with gate := (lane.queue.gate.arrive ()).2 }).front = b.front :=
      b.front_modifyQueue k fun _ => ⟨rfl, rfl⟩
    dsimp only
    split
    · rw [front_next, arrived]
    · rw [front_setStage, arrived]
    · split
      · rw [front_setAlarm, front_setStage, arrived]
      · rw [front_setStage, arrived]

@[simp] theorem front_sendOff (k c : Nat) (m : CorrelationId) :
    (b.sendOff k c m).2.front = b.front := by
  unfold sendOff giveSlotBack
  split
  · rfl
  · rw [front_release, front_modifyClient]
    rfl
  · rw [front_requeue, front_modifyClient]
    rfl

@[simp] theorem front_offer (k : Nat) : (b.offer k).2.front = b.front := by
  unfold offer
  split
  · rfl
  · split
    · rfl
    · rename_i lane _ _ m rest _
      have turned : (b.modifyQueue k fun queue =>
          { queue with roster := (lane.queue.roster.select b.hasRoom).2 }).front = b.front :=
        b.front_modifyQueue k fun _ => ⟨rfl, rfl⟩
      dsimp only
      split
      · exact turned
      · rw [front_sendOff, front_modifyQueue, front_modifyClient, turned]
        exact fun _ => ⟨rfl, rfl⟩

@[simp] theorem front_work (k : Nat) : (b.work k).front = b.front := by
  have aside := b.front_stepAside k
  cases found : (b.stepAside k).lanes[k]? with
  | none => exact work_of_none found ▸ aside
  | some lane =>
      cases closed : lane.queue.isClosed with
      | true => rw [work_of_closed found closed, front_setStage, aside]
      | false =>
          have tried : (b.attempt k).2.front = b.front := by
            rw [attempt, front_offer, front_modifyQueue, aside]
            exact fun _ => ⟨rfl, rfl⟩
          rw [work_of_open found closed]
          split <;> rename_i b' went <;> rw [went] at tried
          · rw [front_next, front_modifyLane]
            · exact tried
            · exact fun _ _ => rfl
          · rw [front_await]
            exact tried
          · rw [front_await, front_modifyLane]
            · exact tried
            · exact fun _ _ => rfl

/-! ## Deliveries -/

@[simp] theorem front_arm (ticket : Nat) : (b.arm ticket).front = b.front := by
  unfold arm
  split <;> rfl

@[simp] theorem front_resolve (id : CorrelationId) (outcome : Outcome) :
    (b.resolve id outcome).2.front = b.front := by
  unfold resolve
  split <;> rfl

@[simp] theorem front_resolveEach (ids : List CorrelationId) (outcome : Outcome) :
    (ids.foldl (fun b id => (b.resolve id outcome).2) b).front = b.front := by
  induction ids generalizing b with
  | nil => rfl
  | cons id ids ih => rw [List.foldl_cons, ih, front_resolve]

@[simp] theorem front_expire (ticket : Nat) : (b.expire ticket).front = b.front := by
  unfold expire
  split <;> rfl

/-- Whether it succeeds or not, an attempt to write is one. -/
theorem front_write (c : Nat) (frame : Wire.Frame) :
    (b.write c frame).2.front = b.front.say c frame := by
  unfold write Front.say
  cases found : b.clients[c]? with
  | none =>
      have none' : ¬c < b.front.seats := Nat.not_lt.2 (List.getElem?_eq_none_iff.1 found)
      rw [if_neg none']
  | some client =>
      have here : c < b.front.seats := (List.getElem?_eq_some_iff.1 found).1
      rw [if_pos here]
      dsimp only
      cases (client.sendFrame frame).1 <;> simp [front, note, Record.attempt?]

@[simp] theorem front_follow (d : Delivery) (outcome : Outcome) :
    (b.follow d outcome).front = b.front := by
  unfold follow
  split
  · rw [front_release, front_announce]
  · rw [front_release, front_announce]
  · dsimp only
    split
    · rw [front_announce]
    · rw [front_requeue, front_announce]

@[simp] theorem front_conclude (ticket : Nat) : (b.conclude ticket).front = b.front := by
  unfold conclude
  split
  · rfl
  · split
    · rfl
    · rw [front_follow, front_openGate, front_modifyClient]
      rfl

@[simp] theorem front_launch (d : Delivery) : (b.launch d).2.front = b.front := by
  rw [launch, front_modifyClient, front_later]
  rfl

/-- A delivery is written once. -/
theorem front_send (d : Delivery) : (b.send d).front = b.front.say d.client d.frame := by
  have dispatched : ∀ (b : Broker) (ticket : Nat),
      (b.dispatch d ticket).front = b.front.say d.client d.frame := by
    intro b ticket
    have written := b.front_write d.client d.frame
    unfold dispatch
    split <;> rename_i went <;> rw [went] at written
    · exact written
    · rw [front_conclude]
      exact written
  rw [send_eq, dispatched, front_launch, front_resolve]

/-! ## Connections -/

/-- A greeting is a frame under an id that the broker makes up. -/
theorem front_greet (c : Nat) :
    (b.greet c).front = b.front.say c (.ready (b.mint b.minted)) := by
  unfold greet
  dsimp only
  have resolved : (b.mintId.2.resolve b.mintId.1 (some .cancelled)).2.front = b.front :=
    front_resolve _ _ _
  generalize (b.mintId.2.resolve b.mintId.1 (some .cancelled)).2 = b' at resolved
  generalize (b'.ledger.setUp b.mintId.1 false).1 = ticket
  generalize (b'.ledger.setUp b.mintId.1 false).2 = ledger
  have written := front_write { b' with ledger } c (.ready b.mintId.1)
  rw [show Broker.front { b' with ledger } = b.front from resolved] at written
  split <;> rename_i went <;> rw [went] at written <;> exact written

/-- A connection that begins is greeted, and that is all it is told. -/
theorem front_connect (id : String) (link : Peer.Link) : (b.connect id link).2.front =
    if b.sessions.contains id then b.front
    else { b.front with
      seats := b.front.seats + 1
      attempts := b.front.attempts ++ [(b.front.seats, .ready (b.mint b.minted))] } := by
  unfold connect
  dsimp only
  split
  · rfl
  · rw [front_greet, front_announce, Front.say, if_pos (by simp [front])]
    simp [front, announce, note]

@[simp] theorem front_strike (id name : String) : (b.strike id name).front = b.front := by
  unfold strike
  split
  · rfl
  · exact b.front_modifyQueue _ fun _ => ⟨rfl, rfl⟩

@[simp] theorem front_disconnect (id : String) : (b.disconnect id).front = b.front := by
  have struck : ∀ (names : List String) (b : Broker),
      (names.foldl (fun b name => b.strike id name) b).front = b.front := by
    intro names
    induction names with
    | nil => exact fun _ => rfl
    | cons name names ih => exact fun b => (ih _).trans (b.front_strike id name)
  unfold disconnect
  split
  · rfl
  · rename_i session _
    have left := struck session.subscriptions { b with sessions := b.sessions.erase id }
    rw [front_announce]
    refine (front_resolveEach _ _ _).trans ?_
    rw [front_modifyClient]
    exact left

/-! ## Requests -/

/-- A queue that is declared puts its title up behind the others. -/
theorem front_declare (name route : String) : (b.declare name route).2.front = b.front ∨
    ∃ pattern, (b.declare name route).2.front =
      { b.front with titles := b.front.titles ++ [⟨name, pattern⟩] } := by
  unfold declare
  split
  · exact .inl rfl
  · split
    · exact .inl rfl
    · rename_i pattern _
      split
      · split <;> exact .inl rfl
      · refine .inr ⟨pattern, ?_⟩
        simp [front, later, Lane.title, Queue.new]

@[simp] theorem front_closeLane (k : Nat) : (b.closeLane k).front = b.front := by
  rw [closeLane, front_rouse]
  exact b.front_modifyQueue k fun _ => ⟨rfl, rfl⟩

@[simp] theorem front_delete (name : String) : (b.delete name).2.front = b.front := by
  unfold delete
  split
  · rfl
  · rename_i k lane _
    have cleared : ((b.closeLane k).modifyQueue k fun queue =>
        { queue with roster := queue.roster.clear, pending := [] }).front = b.front := by
      rw [front_modifyQueue, front_closeLane]
      exact fun _ => ⟨rfl, rfl⟩
    rw [front_releaseEach]
    exact cleared

@[simp] theorem front_subscribe (id name : String) (ceiling : Option Nat) :
    (b.subscribe id name ceiling).2.front = b.front := by
  have enlisted : ∀ (b : Broker) (k : Nat) (roster : Queue.Roster)
      (sessions : Table String Peer.Session),
      Broker.front { b.modifyQueue k fun queue => { queue with roster } with sessions } =
        b.front := by
    intro b k roster sessions
    exact b.front_modifyQueue k (f := fun queue => { queue with roster }) fun _ => ⟨rfl, rfl⟩
  unfold subscribe
  split
  · rfl
  · split
    · rfl
    · dsimp only
      split
      · cases ceiling with
        | none => rfl
        | some n => exact b.front_modifyClient _ _
      · rw [front_openGate, enlisted]
        cases ceiling with
        | none => rfl
        | some n => exact b.front_modifyClient _ _

@[simp] theorem front_unsubscribe (id name : String) :
    (b.unsubscribe id name).2.front = b.front := by
  unfold unsubscribe
  split
  · rfl
  · split
    · rfl
    · exact front_strike _ _ _

/-! ## Alarms -/

@[simp] theorem front_call (sleeper : Sleeper) : (b.call sleeper).front = b.front := by
  cases sleeper with
  | worker k => rw [call, front_later, front_setStage]
  | limit ticket => rfl

@[simp] theorem front_ring : b.ring.front = b.front := by
  have each : ∀ (alarms : List Alarm) (b : Broker),
      (alarms.foldl (fun b a => b.call a.sleeper) b).front = b.front := by
    intro alarms
    induction alarms with
    | nil => exact fun _ => rfl
    | cons a alarms ih => exact fun b => (ih _).trans (b.front_call a.sleeper)
  exact each _ _

/-! ## The end -/

@[simp] theorem front_shutDown : b.shutDown.front = b.front :=
  shutDown_induction (P := fun b' => b'.front = b.front) rfl
    (fun {b'} k same => (b'.front_closeLane k).trans same)
    (fun {b'} id same => (b'.front_resolve id (some .cancelled)).trans same)
    (fun {b'} c same => (b'.front_modifyClient c _).trans same)

end Broker

end MessageBroker
