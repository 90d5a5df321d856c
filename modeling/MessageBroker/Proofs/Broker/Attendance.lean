import MessageBroker.Proofs.Broker.Reserve
import MessageBroker.Proofs.Broker.Settlement
import MessageBroker.Proofs.Broker.Traces

/-!
# What each operation does to slots

Every operation keeps the desk in order: the roll, the slots and whose deliveries they are. Calls are
made while no delivery is going to be written. A ceiling that is lowered then takes no slot away from
one that was reserved, and a connection that ends leaves nothing behind that would be written to it.
-/

namespace MessageBroker

open Books Cargo

namespace Ledger

variable {l : Ledger}

theorem mem_of_mem_resolve {id : CorrelationId} {outcome : Outcome} {p : Tracked}
    (waits : p ∈ (l.resolve id outcome).2.pending) : p ∈ l.pending := by
  unfold resolve at waits
  split at waits
  · exact (List.mem_filter.1 waits).1
  · exact waits

theorem mem_of_mem_expire {ticket : Nat} {p : Tracked}
    (waits : p ∈ (l.expire ticket).pending) : p ∈ l.pending := by
  unfold expire at waits
  split at waits
  · exact (List.mem_filter.1 waits).1
  · exact waits

/-- When several sends are resolved, those that still wait are others. -/
theorem mem_resolveEach (sound : l.Sound) (ids : List CorrelationId) (outcome : Outcome)
    {p : Tracked} :
    p ∈ (ids.foldl (fun l id => (l.resolve id outcome).2) l).pending ↔
      p ∈ l.pending ∧ p.id ∉ ids := by
  induction ids generalizing l with
  | nil => simp
  | cons id ids ih =>
      have settles := resolve_settles sound id outcome
      rw [List.foldl_cons, ih (settles.sound sound), settles.mem_pending, List.mem_cons, not_or,
        ite_eq_right_iff, and_assoc]
      simp

end Ledger

namespace Desk

/-- The desk is in order. -/
structure Attended (d : Desk) : Prop where
  roll : d.Roll
  slotted : d.Slotted
  traced : d.Traced

variable {d : Desk}

namespace Attended

/-- A client record may change where neither deliveries nor slots are concerned. Its ceiling may
change while no delivery is going to be written. -/
theorem alter (attended : d.Attended) (c : Nat) {f : Peer.Client → Peer.Client}
    (same : ∀ client, (f client).id = client.id ∧ (f client).inFlight = client.inFlight ∧
      (f client).deliveries = client.deliveries)
    (ceilings : d.sends = [] ∨ ∀ client, (f client).ceiling = client.ceiling) :
    (d.modifyClient c f).Attended :=
  ⟨attended.roll.congr rfl rfl (map_modify_of_same (fun client => (same client).1) _ _),
    attended.slotted.congr rfl rfl (map_modify_of_same (fun client => (same client).2.1) _ _)
      (ceilings.imp_right fun kept => map_modify_of_same kept _ _),
    attended.traced.congr rfl rfl (map_modify_of_same (fun client => (same client).2.2) _ _)
      (fun _ waits => waits) rfl (Nat.le_refl _) fun _ => rfl⟩

/-- A link may change at any time. -/
theorem relink (attended : d.Attended) (c : Nat) (link : Peer.Client → Peer.Link) :
    (d.modifyClient c fun client => { client with link := link client }).Attended :=
  attended.alter c (fun _ => ⟨rfl, rfl, rfl⟩) (.inr fun _ => rfl)

theorem recap (attended : d.Attended) (idle : d.sends = []) (c : Nat) (ceiling : Option Nat) :
    (d.recap c ceiling).Attended := by
  cases ceiling with
  | none => exact attended
  | some n => exact attended.alter c (fun _ => ⟨rfl, rfl, rfl⟩) (.inl idle)

/-- Sends may be settled. -/
theorem settle (attended : d.Attended) {ledger : Ledger}
    (fewer : ∀ p ∈ ledger.pending, p ∈ d.ledger.pending) : Attended { d with ledger } :=
  ⟨attended.roll.congr rfl rfl rfl, attended.slotted.congr rfl rfl rfl (.inr rfl),
    attended.traced.congr rfl rfl rfl fewer rfl (Nat.le_refl _) fun _ => rfl⟩

/-- Publications may be held up. -/
theorem holdUp (attended : d.Attended) (heldUp : List Publication) : Attended { d with heldUp } :=
  ⟨attended.roll.congr rfl rfl rfl, attended.slotted.congr rfl rfl rfl (.inr rfl),
    attended.traced.congr rfl rfl rfl (fun _ waits => waits) rfl (Nat.le_refl _) fun _ => rfl⟩

/-- The notices and the sessions may change as far as the roll allows it. -/
theorem revise (attended : d.Attended) {notices : List Notice}
    {sessions : Table String Peer.Session} (roll : Roll { d with notices, sessions })
    (seats : ∀ id, seat? { d with sessions } id = d.seat? id) :
    Attended { d with notices, sessions } :=
  ⟨roll, attended.slotted.congr rfl rfl rfl (.inr rfl),
    attended.traced.congr rfl rfl rfl (fun _ waits => waits) rfl (Nat.le_refl _) seats⟩

end Attended

end Desk

namespace Broker

open Desk

variable {b b' : Broker} {answered : List Nat} {resumes : List Publication}
  {down : Bool}

/-! ## Deliveries -/

theorem attended_resolve (attended : b.desk.Attended) (id : CorrelationId) (outcome : Outcome) :
    (b.resolve id outcome).2.desk.Attended := by
  rw [desk_resolve]
  exact attended.settle fun _ => Ledger.mem_of_mem_resolve

theorem attended_write (attended : b.desk.Attended) (c : Nat) (frame : Wire.Frame) :
    (b.write c frame).2.desk.Attended := by
  rw [desk_write]
  exact attended.relink c fun client => (client.sendFrame frame).2.link

theorem attended_reply (attended : b.desk.Attended) (c : Nat) (id : CorrelationId)
    (result : Except RequestError Unit) : (b.reply c id result).desk.Attended := by
  cases result <;> exact attended_write attended c _

theorem attended_conclude (attended : b.desk.Attended) (sound : b.ledger.Sound)
    (keys : b.flights.keys.Nodup) (ticket : Nat) : (b.conclude ticket).desk.Attended := by
  rcases b.desk_conclude ticket with same | ⟨d, outcome, flown, collected, concluded⟩
  · rw [same]
    exact attended
  · have ended : b.ledger.isWaiting ticket = false := by
      rw [← Bool.not_eq_true]
      intro waiting
      obtain ⟨p, waits, rfl⟩ := Ledger.isWaiting_iff.1 waiting
      have reading : b.ledger.reading p.ticket = some outcome := collected
      rw [sound.reading_of_mem waits] at reading
      cases reading
    have ids : (b.clients.modify d.client fun client => (client.untrack d.id).2.release).map
        Peer.Client.id = b.clients.map Peer.Client.id := map_modify_of_same (by intro client; rfl) _ _
    rw [concluded]
    exact ⟨attended.roll.congr rfl rfl ids,
      attended.slotted.conclude keys flown (by intro client; exact ⟨rfl, rfl⟩) _,
      attended.traced.conclude keys flown ended (Ledger.collect_snd _ _).1⟩

/-- A delivery that is tracked has had its slot since its worker took it. -/
theorem attended_launch {d : Delivery}
    (attended : Attended { b.desk with sends := d :: b.desk.sends })
    (aloft : b.books.cargo.Aloft [] answered resumes down)
    (unused : ∀ q ∈ b.ledger.pending, q.id ≠ d.id) : (b.launch d).2.desk.Attended := by
  have new : (b.trackedAs d).ticket ∉ b.flights.keys := fun flown =>
    Nat.lt_irrefl _ (aloft.issued _ flown)
  have tracked : (b.clients.modify d.client fun client => client.track d.id).map
      Peer.Client.id = b.clients.map Peer.Client.id := by
    refine map_modify_of_same (fun client => ?_) _ _
    unfold Peer.Client.track
    split <;> rfl
  rw [desk_launch, launch_fst unused]
  refine ⟨attended.roll.congr rfl rfl tracked, attended.slotted.launch new (fun client => ?_) _,
    attended.traced.launch new (fun q waits => Nat.ne_of_lt (aloft.tracked.issued q waits)) rfl
      (congrArg Ledger.pending (ledger_launch unused))⟩
  unfold Peer.Client.track
  split <;> exact ⟨rfl, rfl⟩

/-- A delivery that is going to be written takes the place of one under the same id. -/
theorem attended_replace {d : Delivery}
    (attended : Attended { b.desk with sends := d :: b.desk.sends }) :
    Attended { (b.resolve d.id (some .cancelled)).2.desk with
      sends := d :: (b.resolve d.id (some .cancelled)).2.desk.sends } := by
  rw [b.desk_resolve d.id (some .cancelled)]
  exact attended.settle fun _ => Ledger.mem_of_mem_resolve

/-- A delivery that is written has had its slot since its worker took it. -/
theorem attended_send {d : Delivery}
    (attended : Attended { b.desk with sends := d :: b.desk.sends })
    (aloft : b.books.cargo.Aloft [] answered resumes down) : (b.send d).desk.Attended := by
  have before := attended_replace attended
  have aloft' := resolve_aloft_of_failure aloft d.id
    (show Outcome.isAnswer (some .cancelled) = false from rfl)
  have unused := unused_of_resolve aloft.tracked d.id (some .cancelled)
  rw [send_eq]
  generalize (b.resolve d.id (some .cancelled)).2 = b' at *
  have launched := attended_launch before aloft' unused
  have aloft'' := launch_aloft aloft' unused
  have waits := launched_waits unused
  rw [launch_fst unused, dispatch_eq aloft''.tracked waits rfl rfl]
  generalize (b'.launch d).2 = b'' at launched aloft'' waits ⊢
  have written := attended_write launched d.client d.frame
  have books := b''.books_write d.client d.frame
  split
  · generalize (b''.write d.client d.frame).2 = b₃ at written books ⊢
    rw [← books] at aloft''
    rw [show b''.ledger = b₃.ledger from (congrArg Books.ledger books).symm] at waits ⊢
    have landing := unwritten_aloft aloft'' waits rfl
    exact attended_conclude (b := { b₃ with ledger := (b₃.ledger.unwritten d.id).2 })
      (written.settle fun _ => Ledger.mem_of_mem_resolve) landing.tracked landing.keys _
  · exact written

/-! ## Workers -/

theorem client_of_hasRoom {c : Nat} (room : b.hasRoom c = true) :
    ∃ client, b.clients[c]? = some client ∧ client.inFlight < client.ceiling := by
  unfold hasRoom at room
  cases found : b.clients[c]? with
  | none => simp [found] at room
  | some client => exact ⟨client, rfl, by simpa [found, Peer.Client.hasRoom] using room⟩

/-- A worker takes a slot of a client that is connected and has one free. -/
theorem attended_work (attended : b.desk.Attended) {k : Nat} (fresh : (b.work k).desk.Fresh) :
    (b.work k).desk.Attended := by
  rcases b.desk_work k with same | ⟨n, member, m, stored, posted, opened, mem, room, -, went⟩
  · rw [same]
    exact attended
  · obtain ⟨client, here, free⟩ := client_of_hasRoom room
    have seated := Seated.of_enrolled
      (attended.roll.listed n (List.mem_of_getElem? posted) opened member mem)
    have ids : (b.clients.modify member.client Peer.Client.occupy).map Peer.Client.id =
        b.clients.map Peer.Client.id := map_modify_of_same (by intro client; rfl) _ _
    rw [went] at fresh ⊢
    exact ⟨attended.roll.congr rfl rfl ids,
      attended.slotted.take
        (x := ⟨b.mint b.minted, k, member.client, m, stored.route, stored.payload⟩) here free _,
      attended.traced.take
        (x := ⟨b.mint b.minted, k, member.client, m, stored.route, stored.payload⟩) rfl seated
        (fun _ => rfl) fresh⟩

/-! ## Requests -/

theorem attended_declare (attended : b.desk.Attended) (name route : String) :
    (b.declare name route).2.desk.Attended := by
  rcases b.desk_declare name route with same | ⟨-, missing, same⟩
  · rw [same]
    exact attended
  · rw [same]
    have posted := attended.roll.declare (name_ne_of_missing missing)
    exact attended.revise posted fun _ => rfl

theorem attended_delete (attended : b.desk.Attended) (name : String) :
    (b.delete name).2.desk.Attended := by
  rw [desk_delete]
  cases found : b.lane? name with
  | none => exact attended
  | some entry =>
      dsimp only
      rw [modifyNotice_of_lane? attended.roll.names found]
      exact attended.revise (attended.roll.delete name) fun id => seat?_map (by intro session; rfl) id

theorem attended_subscribe (attended : b.desk.Attended) (idle : b.desk.sends = [])
    (id name : String) (ceiling : Option Nat) : (b.subscribe id name ceiling).2.desk.Attended := by
  rcases b.desk_subscribe id name ceiling with ⟨-, same⟩ |
    ⟨session, k, lane, found, declared, ⟨-, same⟩ | ⟨-, same⟩⟩
  · rw [same]
    exact attended
  · rw [same]
    exact attended.recap idle session.client ceiling
  · have recapped := attended.recap idle session.client ceiling
    have kept : (b.desk.recap session.client ceiling).sessions = b.sessions ∧
        (b.desk.recap session.client ceiling).notices = b.desk.notices := by
      cases ceiling <;> exact ⟨rfl, rfl⟩
    have posted : (b.desk.recap session.client ceiling).modifyNotice k
        (fun n => n.add ⟨session.client, id⟩) =
        (b.desk.recap session.client ceiling).repost [name] fun n => n.add ⟨session.client, id⟩ := by
      have notices := congrArg Desk.notices (modifyNotice_of_lane? attended.roll.names declared
        fun n => n.add ⟨session.client, id⟩)
      rw [modifyNotice, repost, kept.2]
      exact congrArg (fun notices => { b.desk.recap session.client ceiling with notices }) notices
    have found' : (b.desk.recap session.client ceiling).sessions.get? id = some session := by
      rw [kept.1]
      exact found
    have client : (session.subscribe name).2.client = session.client := by
      unfold Peer.Session.subscribe
      split <;> rfl
    rw [same, posted, ← kept.1]
    exact recapped.revise (recapped.roll.subscribe found' name)
      fun id' => seat?_insert found' client id'

theorem attended_unsubscribe (attended : b.desk.Attended) (id name : String) :
    (b.unsubscribe id name).2.desk.Attended := by
  rcases b.desk_unsubscribe id name with ⟨-, same⟩ | ⟨session, found, -, same⟩
  · rw [same]
    exact attended
  · have struck := repost_strike
      (b := { b with sessions := b.sessions.insert id (session.unsubscribe name).2 })
      attended.roll.names id name
    rw [same, struck]
    exact attended.revise (attended.roll.unsubscribe found name)
      fun id' => seat?_insert found (by rfl) id'

/-! ## Connections -/

theorem mem_of_mem_connect (sound : b.ledger.Sound) (id : String) (link : Peer.Link) :
    ∀ p ∈ (b.connect id link).2.ledger.pending, p ∈ b.ledger.pending := by
  have greeted : ∀ (b : Broker) (c : Nat), b.ledger.Sound →
      ∀ p ∈ (b.greet c).ledger.pending, p ∈ b.ledger.pending := by
    intro b c sound p waits
    obtain ⟨ledger, books, pending, -⟩ := books_greet sound c
    have left : (b.greet c).ledger = ledger := congrArg Books.ledger books
    rw [left, pending] at waits
    have resolved := congrArg Desk.ledger (b.mintId.2.desk_resolve b.mintId.1 (some .cancelled))
    rw [show (b.mintId.2.resolve b.mintId.1 (some .cancelled)).2.ledger = _ from resolved] at waits
    exact Ledger.mem_of_mem_resolve (l := b.ledger) waits
  unfold connect
  dsimp only
  split
  · exact fun _ waits => waits
  · exact greeted _ _ sound

theorem attended_connect (attended : b.desk.Attended) (sound : b.ledger.Sound) (id : String)
    (link : Peer.Link) : (b.connect id link).2.desk.Attended := by
  have fewer := mem_of_mem_connect sound id link
  rcases b.desk_connect id link with same | ⟨new, link', same⟩
  · rw [same]
    exact attended
  · have named : (Peer.Client.new id link' b.settings.defaultMaxConcurrency).id = id := rfl
    have own : ∀ assembler, (⟨id, b.clients.length, assembler, []⟩ : Peer.Session).client =
        b.desk.clients.length := fun _ => rfl
    have roll := fun assembler => attended.roll.connect new named (own assembler)
    rw [same]
    exact ⟨(roll _).congr rfl rfl rfl, attended.slotted.connect rfl _ _ _,
      attended.traced.connect attended.slotted.aboard attended.roll new rfl rfl fewer⟩

theorem attended_disconnect (attended : b.desk.Attended) (idle : b.desk.sends = [])
    (sound : b.ledger.Sound) (id : String) : (b.disconnect id).desk.Attended := by
  rcases b.desk_disconnect id with same | ⟨session, found, same⟩
  · rw [same]
    exact attended
  · obtain ⟨client, here, -⟩ := attended.roll.client_of_get? found
    have held := attended.traced.held id session.client client (seat?_of_get? found) here
    change b.clients[session.client]? = some client at here
    have struck := repost_strikeEach (b := { b with sessions := b.sessions.erase id })
      attended.roll.names id session.subscriptions
    have ids : (b.clients.modify session.client fun client => client.takeDeliveries.2).map
        Peer.Client.id = b.clients.map Peer.Client.id := map_modify_of_same (by intro client; rfl) _ _
    have slots : (b.clients.modify session.client fun client => client.takeDeliveries.2).map
        Peer.Client.inFlight = b.clients.map Peer.Client.inFlight :=
      map_modify_of_same (by intro client; rfl) _ _
    have waits : ∀ p, p ∈ (client.deliveries.foldl
        (fun l d => (l.resolve d (some .sendFailed)).2) b.ledger).pending ↔
        p ∈ b.ledger.pending ∧ p.id ∉ client.deliveries :=
      fun _ => Ledger.mem_resolveEach sound _ _
    rw [same, struck, here, Option.map_some, Option.getD_some]
    generalize client.deliveries.foldl _ b.ledger = ledger at waits ⊢
    have settled : ∀ x ∈ b.desk.flownTo session.client, ∀ p ∈ ledger.pending, p.id ≠ x.id := by
      intro x flown p pending clash
      refine ((waits p).1 pending).2 ?_
      rw [clash]
      exact held.mem_iff.2 (List.mem_map_of_mem flown)
    have traced := attended.traced.disconnect attended.roll found idle
      (fun p pending => ((waits p).1 pending).1) settled
    exact ⟨(attended.roll.disconnect found).congr rfl rfl ids,
      attended.slotted.congr rfl rfl slots (.inl idle),
      traced.congr rfl rfl rfl (fun _ waits => waits) rfl (Nat.le_refl _) fun _ => rfl⟩

/-- A frame is taken out of what has arrived on a connection. -/
theorem nextFrame?_eq_some {id : String} {session : Peer.Session} {frame : Wire.Frame}
    (found : b.nextFrame? id = some (session, frame)) :
    ∃ before, b.sessions.get? id = some before ∧ session.client = before.client ∧
      session.subscriptions = before.subscriptions := by
  obtain ⟨before, here, next⟩ := Option.bind_eq_some_iff.1 found
  refine ⟨before, here, ?_⟩
  unfold Peer.Session.next at next
  cases taken : before.assembler.next with
  | error e => simp [taken, Except.map] at next
  | ok entry =>
      cases entry with
      | none => simp [taken, Except.map] at next
      | some entry =>
          simp only [taken, Except.map, Option.map_some, Option.some.injEq, Prod.mk.injEq] at next
          rw [← next.1]
          exact ⟨rfl, rfl⟩

theorem attended_refresh (attended : b.desk.Attended) {id : String} {session session' : Peer.Session}
    (found : b.sessions.get? id = some session) (client : session'.client = session.client)
    (subscriptions : session'.subscriptions = session.subscriptions) :
    (Broker.desk { b with sessions := b.sessions.insert id session' }).Attended :=
  attended.revise (attended.roll.refresh found client subscriptions)
    fun id' => seat?_insert found client id'

theorem attended_request (attended : b.desk.Attended) (idle : b.desk.sends = [])
    (connection : String) (id : CorrelationId) (body : Wire.Body) :
    (b.request connection id body).2.desk.Attended := by
  cases body with
  | message route payload =>
      rw [show (b.request connection id (.message route payload)).2.desk = b.desk from
        b.desk_publish _]
      exact attended
  | subscribe queue ceiling => exact attended_subscribe attended idle _ _ _
  | unsubscribe queue => exact attended_unsubscribe attended _ _
  | declare name route => exact attended_declare attended _ _
  | delete name => exact attended_delete attended _
  | nack reason => exact attended

theorem attended_handle (attended : b.desk.Attended) (idle : b.desk.sends = [])
    (session : Peer.Session) (frame : Wire.Frame) : (b.handle session frame).2.desk.Attended := by
  unfold handle
  split
  · exact attended_resolve attended _ _
  · split
    · exact attended
    · exact attended_resolve attended _ _
  · exact attended_reply attended _ _ _
  · split
    · exact attended
    · exact attended_reply (attended_request attended idle _ _ _) _ _ _

/-! ## Tasks -/

theorem attended_task (attended : b.desk.Attended) (aloft : b.books.cargo.Aloft [] answered resumes down)
    {task : Task} {rest : List Task} (line : b.tasks = task :: rest)
    (fresh : (perform { b with tasks := rest } task).desk.Fresh) :
    (perform { b with tasks := rest } task).desk.Attended := by
  have popped := desk_pop line
  have quiet : task.delivery? = none → (Broker.desk { b with tasks := rest }).Attended := by
    intro other
    rw [other] at popped
    rw [← show b.desk = Broker.desk { b with tasks := rest } from popped]
    exact attended
  cases task with
  | work k => exact attended_work (quiet rfl) fresh
  | send d =>
      have cargo : (Broker.books { b with tasks := rest }).cargo = b.books.cargo :=
        (congrArg Books.cargo (books_pop line)).symm
      have aloft' : (Broker.books { b with tasks := rest }).cargo.Aloft [] answered resumes down :=
        cargo ▸ aloft
      refine attended_send ?_ aloft'
      exact popped ▸ attended
  | arm ticket =>
      rw [show (perform { b with tasks := rest } (.arm ticket)).desk = _ from desk_arm _ ticket]
      exact quiet rfl
  | expire ticket =>
      rw [show (perform { b with tasks := rest } (.expire ticket)).desk = _ from desk_expire _ ticket]
      exact (quiet rfl).settle fun _ => Ledger.mem_of_mem_expire
  | conclude ticket =>
      exact attended_conclude (b := { b with tasks := rest }) (quiet rfl) aloft.tracked aloft.keys
        ticket
  | publish tag m =>
      rcases desk_beginPublish { b with tasks := rest } tag m with same | ⟨-, same⟩
      · rw [show (perform { b with tasks := rest } (.publish tag m)).desk = _ from same]
        exact quiet rfl
      · rw [show (perform { b with tasks := rest } (.publish tag m)).desk = _ from same]
        exact (quiet rfl).holdUp _
  | resume p =>
      rw [show (perform { b with tasks := rest } (.resume p)).desk = _ from desk_resumePublish _ p]
      exact quiet rfl

/-! ## Moves -/

end Broker

/-- Whether a move is a call. The others perform what is due and let time pass. -/
def Move.isCall : Move → Bool
  | .task | .ring | .tick _ => false
  | _ => true

namespace Broker

open Desk

variable {b : Broker} {answered : List Nat} {resumes : List Publication} {down : Bool}

/-- Only a task puts a delivery in the line or takes one out. -/
theorem sends_apply {move : Move} (other : move ≠ .task) :
    (b.apply move).desk.sends = b.desk.sends := by
  rcases b.reserve_apply move with kept | took | ⟨which, -⟩
  · exact congrArg Reserve.sends kept
  · exact congrArg Reserve.sends took
  · exact absurd which other

/-- Calls put no delivery in the line. -/
theorem sends_of_isCall {m : Move} (call : m.isCall = true) :
    (b.apply m).desk.sends = b.desk.sends := by
  refine sends_apply ?_
  rintro rfl
  cases call

/-- Whatever happens, the desk stays in order, if no call is made while a delivery is going to be
written. -/
theorem attended_apply (attended : b.desk.Attended)
    (aloft : b.books.cargo.Aloft [] answered resumes down) {m : Move}
    (idle : m.isCall = true → b.desk.sends = []) (fresh : (b.apply m).desk.Fresh) :
    (b.apply m).desk.Attended := by
  cases m with
  | connect id link => exact attended_connect attended aloft.tracked id link
  | disconnect id => exact attended_disconnect attended (idle rfl) aloft.tracked id
  | feed id data =>
      simp only [apply]
      cases found : b.sessions.get? id with
      | none => exact attended
      | some session => exact attended_refresh attended found (by rfl) (by rfl)
  | frame id =>
      simp only [apply]
      cases found : b.nextFrame? id with
      | none => exact attended
      | some entry =>
          obtain ⟨session, frame⟩ := entry
          obtain ⟨before, here, client, subscriptions⟩ := nextFrame?_eq_some found
          exact attended_handle (attended_refresh attended here client subscriptions) (idle rfl)
            session frame
  | declare name route => exact attended_declare attended name route
  | delete name => exact attended_delete attended name
  | subscribe id name ceiling => exact attended_subscribe attended (idle rfl) id name ceiling
  | unsubscribe id name => exact attended_unsubscribe attended id name
  | publish m =>
      rw [show (b.apply (.publish m)).desk = b.desk from b.desk_publish m]
      exact attended
  | publishLater tag m =>
      rw [show (b.apply (.publishLater tag m)).desk = b.desk from b.desk_later_of_other rfl]
      exact attended
  | recover =>
      rw [show (b.apply .recover).desk = b.desk from b.desk_recover]
      exact attended
  | tamper c link => exact attended.relink c fun _ => link
  | task =>
      cases line : b.tasks with
      | nil =>
          have same : b.apply .task = b := by simp only [apply, line]
          rw [same]
          exact attended
      | cons task rest =>
          have same : b.apply .task = perform { b with tasks := rest } task := by
            simp only [apply, line]
          rw [same] at fresh ⊢
          exact attended_task attended aloft line fresh
  | ring =>
      rw [show (b.apply .ring).desk = b.desk from b.desk_ring]
      exact attended
  | tick now => exact attended

/-- Nobody attends to anything when a broker starts. -/
theorem attended_start {settings : Settings.Engine} {mint : Nat → CorrelationId} {calendar : Nat}
    {depot : Store.Depot} (started : Broker.new? settings mint calendar depot = some b) :
    b.desk.Attended := by
  unfold new? at started
  split at started
  · obtain ⟨buffers, -, rfl⟩ := Option.map_eq_some_iff.1 started
    refine ⟨⟨List.nodup_nil, nofun, .nil, nofun⟩, ⟨nofun, nofun, nofun⟩,
      ⟨List.nodup_nil, nofun, nofun, nofun, nofun, nofun⟩⟩
  · cases started

end Broker

end MessageBroker
