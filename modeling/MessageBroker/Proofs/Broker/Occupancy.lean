import MessageBroker.Proofs.Broker.Attendance
import MessageBroker.Proofs.Broker.Docket

/-!
# The slots in use

Whatever happens to a broker, whichever ids are made up, and whenever it is called: the slots in use
of a client are those of deliveries that are going to be written to it or are on their way, and a
delivery on its way waits for an outcome or is going to be concluded.
-/

namespace MessageBroker

open Desk

namespace Broker

/-- The slots in use of each client. -/
def slots (b : Broker) : List Nat :=
  b.clients.map Peer.Client.inFlight

/-- The slots in use are those of deliveries, some of which are about to be written, and a delivery
on its way waits, or is going to be concluded, or has one of certain tickets. -/
structure Occupied (b : Broker) (boarding : List Delivery) (landing : List Nat) : Prop where
  loaded : Loaded { b.desk with sends := boarding ++ b.desk.sends }
  due : ∀ n ∈ b.flights.keys, b.ledger.isWaiting n = true ∨ n ∈ b.books.concludes ++ landing

variable {b b' : Broker} {boarding : List Delivery} {landing : List Nat}

namespace Occupied

theorem of_docket (occupied : b.Occupied boarding landing) (docket : b'.docket = b.docket)
    (slots : b'.slots = b.slots) (concludes : b'.books.concludes = b.books.concludes) :
    b'.Occupied boarding landing := by
  have flights : b'.flights = b.flights := congrArg Docket.flights docket
  have ledger : b'.ledger = b.ledger := congrArg Docket.ledger docket
  have sends : boarding ++ b'.desk.sends = boarding ++ b.desk.sends :=
    congrArg (boarding ++ ·) (congrArg Docket.sends docket)
  refine ⟨occupied.loaded.congr flights sends slots, ?_⟩
  rw [flights, ledger, concludes]
  exact occupied.due

theorem of_desk (occupied : b.Occupied boarding landing) (desk : b'.desk = b.desk)
    (cargo : b'.books.cargo = b.books.cargo) : b'.Occupied boarding landing :=
  occupied.of_docket (docket_of_desk desk) (congrArg (·.clients.map Peer.Client.inFlight) desk)
    (congrArg Cargo.concludes cargo)

/-- Sends get outcomes, and those of deliveries are going to be concluded. -/
theorem settle (occupied : b.Occupied boarding landing) {ledger : Ledger}
    {verdict : Tracked → Option Outcome} (settles : b.ledger.Settles verdict ledger)
    (desk : b'.desk = { b.desk with ledger }) {settled landing' : List Nat}
    (concludes : b'.books.concludes = b.books.concludes ++ settled)
    (old : ∀ n ∈ landing, n ∈ landing')
    (new : ∀ p ∈ b.ledger.pending, verdict p ≠ none → p.ticket ∈ settled ++ landing') :
    b'.Occupied boarding landing' := by
  have flights : b'.flights = b.flights := congrArg Desk.flights desk
  have kept : b'.ledger = ledger := congrArg Desk.ledger desk
  refine ⟨?_, fun n flown => ?_⟩
  · rw [desk]
    exact occupied.loaded.congr rfl rfl rfl
  · rw [kept, concludes, List.append_assoc]
    rw [flights] at flown
    rcases occupied.due n flown with waits | due
    · obtain ⟨p, pending, rfl⟩ := Ledger.isWaiting_iff.1 waits
      cases spared : verdict p with
      | none =>
          exact .inl (Ledger.isWaiting_iff.2 ⟨p, settles.mem_pending.2 ⟨pending, spared⟩, rfl⟩)
      | some outcome =>
          have decided : verdict p ≠ none := by rw [spared]; exact Option.some_ne_none _
          exact .inr (List.mem_append_right _ (new p pending decided))
    · rcases List.mem_append.1 due with due | lands
      · exact .inr (List.mem_append_left _ due)
      · exact .inr (List.mem_append_right _ (List.mem_append_right _ (old n lands)))

end Occupied

/-! ## Operations that leave the slots as they are -/

theorem slots_modifyClient (b : Broker) (c : Nat) {f : Peer.Client → Peer.Client}
    (same : ∀ client, (f client).inFlight = client.inFlight) :
    (b.modifyClient c f).slots = b.slots :=
  map_modify_of_same same _ _

theorem slots_of_desk {d : Desk} (same : b'.desk = d) :
    b'.slots = d.clients.map Peer.Client.inFlight :=
  congrArg (·.clients.map Peer.Client.inFlight) same

theorem slots_recap (b : Broker) (c : Nat) (ceiling : Option Nat) :
    (b.desk.recap c ceiling).clients.map Peer.Client.inFlight = b.slots := by
  cases ceiling with
  | none => rfl
  | some n => exact map_modify_of_same (by intro client; rfl) _ _

theorem slots_write (b : Broker) (c : Nat) (frame : Wire.Frame) :
    (b.write c frame).2.slots = b.slots :=
  (slots_of_desk (b.desk_write c frame)).trans (b.slots_modifyClient c (by intro client; rfl))

theorem slots_strike (b : Broker) (id name : String) : (b.strike id name).slots = b.slots := by
  refine (slots_of_desk (b.desk_strike id name)).trans ?_
  cases b.lane? name <;> rfl

theorem slots_subscribe (b : Broker) (id name : String) (ceiling : Option Nat) :
    (b.subscribe id name ceiling).2.slots = b.slots := by
  rcases b.desk_subscribe id name ceiling with ⟨-, same⟩ |
    ⟨session, _, _, -, -, ⟨-, same⟩ | ⟨-, same⟩⟩
  · exact slots_of_desk same
  · exact (slots_of_desk same).trans (b.slots_recap _ _)
  · exact (slots_of_desk same).trans (b.slots_recap _ _)

/-- A request leaves the slots in use as they are. -/
theorem slots_request (b : Broker) (connection : String) (id : CorrelationId) (body : Wire.Body) :
    (b.request connection id body).2.slots = b.slots := by
  cases body with
  | message route payload => exact slots_of_desk (b.desk_publish _)
  | subscribe queue ceiling => exact b.slots_subscribe _ _ _
  | unsubscribe queue =>
      rcases b.desk_unsubscribe connection queue with ⟨-, same⟩ | ⟨session, -, -, same⟩
      · exact slots_of_desk same
      · exact (slots_of_desk same).trans (slots_strike { b with
          sessions := b.sessions.insert connection (session.unsubscribe queue).2 } connection queue)
  | declare name route =>
      rcases b.desk_declare name route with same | ⟨-, -, same⟩ <;> exact slots_of_desk same
  | delete name =>
      refine (slots_of_desk (b.desk_delete name)).trans ?_
      cases b.lane? name <;> rfl
  | nack reason => rfl

theorem occupied_write (occupied : b.Occupied boarding landing) (c : Nat) (frame : Wire.Frame) :
    (b.write c frame).2.Occupied boarding landing :=
  occupied.of_docket (b.docket_write c frame) (b.slots_write c frame)
    (congrArg Books.concludes (b.books_write c frame))

theorem occupied_request (occupied : b.Occupied boarding landing) (connection : String)
    (id : CorrelationId) (body : Wire.Body) :
    (b.request connection id body).2.Occupied boarding landing :=
  occupied.of_docket (b.docket_request connection id body) (b.slots_request connection id body)
    (congrArg Cargo.concludes (b.cargo_request connection id body))

theorem occupied_reply (occupied : b.Occupied boarding landing) (c : Nat) (id : CorrelationId)
    (result : Except RequestError Unit) : (b.reply c id result).Occupied boarding landing := by
  cases result <;> exact occupied_write occupied c _

/-! ## Deliveries -/

theorem occupied_resolve (occupied : b.Occupied boarding landing) (sound : b.ledger.Sound)
    (id : CorrelationId) (outcome : Outcome) :
    (b.resolve id outcome).2.Occupied boarding landing := by
  refine occupied.settle (Ledger.resolve_settles sound id outcome) (b.desk_resolve id outcome)
    (congrArg Books.concludes (b.books_resolve id outcome)) (fun _ lands => lands) ?_
  intro p pending decided
  have own : p.id = id := by
    by_contra other
    exact decided (if_neg other)
  refine List.mem_append_left _ ?_
  rw [Ledger.ticketsOf, ← own, sound.find?_eq pending]
  exact List.mem_singleton.2 rfl

theorem occupied_resolveEach (occupied : b.Occupied boarding landing) (sound : b.ledger.Sound)
    (ids : List CorrelationId) (outcome : Outcome) :
    (ids.foldl (fun b id => (b.resolve id outcome).2) b).Occupied boarding landing := by
  induction ids generalizing b with
  | nil => exact occupied
  | cons id ids ih =>
      refine ih (occupied_resolve occupied sound id outcome) ?_
      rw [show (b.resolve id outcome).2.ledger = _ from
        congrArg Books.ledger (b.books_resolve id outcome)]
      exact (Ledger.resolve_settles sound id outcome).sound sound

theorem occupied_expire (occupied : b.Occupied boarding landing) (sound : b.ledger.Sound)
    (ticket : Nat) : (b.expire ticket).Occupied boarding landing := by
  refine occupied.settle (Ledger.expire_settles sound ticket) (b.desk_expire ticket)
    (congrArg Books.concludes (b.books_expire ticket)) (fun _ lands => lands) ?_
  intro p pending decided
  have own : p.ticket = ticket := by
    by_contra other
    exact decided (if_neg other)
  refine List.mem_append_left _ ?_
  rw [if_pos (Ledger.isWaiting_iff.2 ⟨p, pending, own⟩), own]
  exact List.mem_singleton.2 rfl

/-- A delivery that is concluded is over if it has an outcome, and waits if it has none. -/
theorem occupied_conclude {ticket : Nat} (occupied : b.Occupied [] [ticket])
    (sound : b.ledger.Sound) (keys : b.flights.keys.Nodup) :
    (b.conclude ticket).Occupied [] [] := by
  have others : ∀ n ∈ b.flights.keys, n ≠ ticket →
      b.ledger.isWaiting n = true ∨ n ∈ b.books.concludes ++ [] := by
    intro n flown other
    rw [List.append_nil]
    refine (occupied.due n flown).imp_right fun due => ?_
    exact (List.mem_append.1 due).resolve_right fun lands => other (List.mem_singleton.1 lands)
  cases flown : b.flights.get? ticket with
  | none =>
      rw [conclude_of_missing flown]
      refine ⟨occupied.loaded, fun n known => others n known ?_⟩
      rintro rfl
      obtain ⟨d, found⟩ := Table.mem_keys.1 known
      exact Option.some_ne_none d (found.symm.trans flown)
  | some d =>
      cases waiting : b.ledger.isWaiting ticket with
      | true =>
          rw [conclude_of_waiting sound waiting]
          refine ⟨occupied.loaded, fun n known => ?_⟩
          by_cases own : n = ticket
          · exact .inl (own ▸ waiting)
          · exact others n known own
      | false =>
          obtain ⟨outcome, -, concluded⟩ := conclude_eq flown waiting
          have cargo : (b.conclude ticket).books.cargo = { b.books.cargo with
              flights := b.flights.erase ticket
              ledger := (b.ledger.collect ticket).2 } := by
            rw [concluded, cargo_follow, books_ending]
            rfl
          have desk := b.desk_conclude ticket
          have flights : (b.conclude ticket).flights = b.flights.erase ticket :=
            congrArg Cargo.flights cargo
          refine ⟨?_, fun n known => ?_⟩
          · rcases desk with same | ⟨d', -, flown', -, same⟩
            · rw [same]
              exact occupied.loaded
            · obtain rfl := Option.some.inj (flown'.symm.trans flown)
              rw [same]
              exact occupied.loaded.conclude keys flown (by intro client; rfl) _
          · rw [flights, Table.keys_erase, List.mem_filter] at known
            have other : n ≠ ticket := by simpa using known.2
            rw [show (b.conclude ticket).ledger = (b.ledger.collect ticket).2 from
              congrArg Cargo.ledger cargo, show (b.conclude ticket).books.concludes =
              b.books.concludes from congrArg Cargo.concludes cargo, Ledger.isWaiting,
              (Ledger.collect_snd _ _).1]
            exact others n known.1 other

/-- A delivery that is tracked has had its slot since its worker took it. -/
theorem occupied_launch {d : Delivery} (occupied : b.Occupied [d] []) (filed : b.docket.Filed)
    (unused : ∀ q ∈ b.ledger.pending, q.id ≠ d.id) : (b.launch d).2.Occupied [] [] := by
  have new : (b.trackedAs d).ticket ∉ b.flights.keys := fun flown =>
    Nat.lt_irrefl _ (filed.issued _ flown)
  have waits := launched_waits unused
  have books := b.books_launch d
  rw [launch_fst unused] at books
  refine ⟨?_, fun n flown => ?_⟩
  · rw [desk_launch, launch_fst unused]
    refine Loaded.launch (d := b.desk) occupied.loaded new (fun client => ?_) _
    unfold Peer.Client.track
    split <;> rfl
  · rw [show (b.launch d).2.flights = b.flights.insert (b.trackedAs d).ticket d from
      congrArg Books.flights books, Table.keys_insert, List.mem_append, List.mem_filter,
      List.mem_singleton] at flown
    rw [Ledger.isWaiting_iff, congrArg Books.concludes books]
    rcases flown with ⟨before, -⟩ | rfl
    · refine (occupied.due n before).imp_left fun waiting => ?_
      obtain ⟨p, pending, ticket⟩ := Ledger.isWaiting_iff.1 waiting
      rw [ledger_launch unused]
      exact ⟨p, List.mem_append_left _ pending, ticket⟩
    · exact .inl ⟨_, waits, rfl⟩

/-- A delivery that is written has had its slot since its worker took it. -/
theorem occupied_send {d : Delivery} (occupied : b.Occupied [d] []) (filed : b.docket.Filed) :
    (b.send d).Occupied [] [] := by
  have resolved := occupied_resolve occupied filed.sound d.id (some .cancelled)
  have filed' := (leads_resolve filed.sound d.id (some .cancelled)).filed filed
  have unused := unused_of_resolve filed.sound d.id (some .cancelled)
  rw [send_eq]
  generalize (b.resolve d.id (some .cancelled)).2 = b' at *
  have waits := launched_waits unused
  have sound : (b'.launch d).2.ledger.Sound := by
    rw [ledger_launch unused]
    exact filed'.sound.append rfl unused
  have books := b'.books_launch d
  rw [launch_fst unused] at books ⊢
  have flights : (b'.launch d).2.flights = b'.flights.insert (b'.trackedAs d).ticket d :=
    congrArg Books.flights books
  have launched := occupied_launch resolved filed' unused
  have keys : (b'.launch d).2.flights.keys.Nodup := by
    rw [flights]
    exact Table.nodup_keys_insert filed'.keys _ _
  rw [dispatch_eq sound waits rfl rfl]
  generalize (b'.launch d).2 = b'' at launched waits sound keys ⊢
  have written := occupied_write launched d.client d.frame
  have docket := b''.docket_write d.client d.frame
  split
  · generalize (b''.write d.client d.frame).2 = b₃ at written docket ⊢
    have ledger : b₃.ledger = b''.ledger := congrArg Docket.ledger docket
    rw [← ledger] at waits sound ⊢
    rw [← show b₃.flights = b''.flights from congrArg Docket.flights docket] at keys
    have settles := Ledger.resolve_settles sound d.id (some .sendFailed)
    have failed : Occupied { b₃ with ledger := (b₃.ledger.unwritten d.id).2 } []
        [(b'.trackedAs d).ticket] := by
      have concludes : b₃.books.concludes = b₃.books.concludes ++ [] := (List.append_nil _).symm
      refine written.settle settles rfl concludes nofun ?_
      intro p pending decided
      have own : p.id = d.id := by
        by_contra other
        exact decided (if_neg other)
      rw [sound.eq_of_id pending waits own]
      exact List.mem_singleton.2 rfl
    exact occupied_conclude failed (settles.sound sound) keys
  · exact written

/-! ## Workers and connections -/

theorem occupied_work (occupied : b.Occupied [] []) (k : Nat) : (b.work k).Occupied [] [] := by
  have cargo := b.cargo_work k
  have due : ∀ n ∈ (b.work k).flights.keys, (b.work k).ledger.isWaiting n = true ∨
      n ∈ (b.work k).books.concludes ++ [] := by
    rw [show (b.work k).flights = b.flights from congrArg Cargo.flights cargo,
      show (b.work k).ledger = b.ledger from congrArg Cargo.ledger cargo,
      show (b.work k).books.concludes = b.books.concludes from congrArg Cargo.concludes cargo]
    exact occupied.due
  refine ⟨?_, due⟩
  rcases b.desk_work k with same | ⟨_, member, message, stored, -, -, -, room, -, went⟩
  · rw [same]
    exact occupied.loaded
  · obtain ⟨client, here, -⟩ := client_of_hasRoom room
    rw [went]
    exact occupied.loaded.take
      (x := ⟨b.mint b.minted, k, member.client, message, stored.route, stored.payload⟩) here _

theorem occupied_greet (occupied : b.Occupied boarding landing) (sound : b.ledger.Sound) (c : Nat) :
    (b.greet c).Occupied boarding landing := by
  obtain ⟨ledger, books, pending, -⟩ := books_greet sound c
  have named : b.mintId.2.Occupied boarding landing :=
    ⟨occupied.loaded.congr rfl rfl rfl, occupied.due⟩
  have resolved := occupied_resolve named sound b.mintId.1 (some .cancelled)
  have desk := b.desk_greet c
  refine ⟨?_, ?_⟩
  · have sends : (b.greet c).desk.sends = b.desk.sends := by rw [desk, Desk.modifyClient]
    have flights : (b.greet c).flights = b.flights := congrArg Desk.flights desk
    exact occupied.loaded.congr flights
      (congrArg (boarding ++ ·) sends)
      ((slots_of_desk desk).trans (b.slots_modifyClient c (by intro client; rfl)))
  · intro n flown
    rw [show (b.greet c).flights = _ from congrArg Books.flights books] at flown
    have waiting : (b.greet c).ledger.isWaiting n =
        (b.mintId.2.resolve b.mintId.1 (some .cancelled)).2.ledger.isWaiting n := by
      rw [show (b.greet c).ledger = ledger from congrArg Books.ledger books, Ledger.isWaiting,
        pending]
      rfl
    rw [waiting, congrArg Books.concludes books]
    exact resolved.due n flown

theorem occupied_connect (occupied : b.Occupied [] []) (sound : b.ledger.Sound) (id : String)
    (link : Peer.Link) : (b.connect id link).2.Occupied [] [] := by
  unfold connect
  dsimp only
  split
  · exact occupied.of_docket rfl rfl rfl
  · refine occupied_greet (b := Broker.announce { b with
      buffers := (Stream.Assembler.new b.buffers b.settings.initialBufferSize
        b.settings.maxBodySize).2
      clients := b.clients ++ [Peer.Client.new id link b.settings.defaultMaxConcurrency]
      sessions := b.sessions.insert id ⟨id, b.clients.length, (Stream.Assembler.new b.buffers
        b.settings.initialBufferSize b.settings.maxBodySize).1, []⟩ } (.connected id)) ?_ sound _
    have free : (Peer.Client.new id link b.settings.defaultMaxConcurrency).inFlight = 0 := rfl
    exact ⟨occupied.loaded.connect free _ _ _, occupied.due⟩

theorem occupied_disconnect (occupied : b.Occupied boarding landing) (sound : b.ledger.Sound)
    (id : String) : (b.disconnect id).Occupied boarding landing := by
  have struck : ∀ (names : List String) (b : Broker), b.ledger.Sound → b.Occupied boarding landing →
      (names.foldl (fun b name => b.strike id name) b).ledger.Sound ∧
        (names.foldl (fun b name => b.strike id name) b).Occupied boarding landing := by
    intro names
    induction names with
    | nil => exact fun _ sound occupied => ⟨sound, occupied⟩
    | cons name names ih =>
        intro b sound occupied
        have books := b.books_strike id name
        refine ih _ ?_ (occupied.of_docket (b.docket_strike id name) (b.slots_strike id name)
          (congrArg Books.concludes books))
        rw [show (b.strike id name).ledger = b.ledger from congrArg Books.ledger books]
        exact sound
  unfold disconnect
  cases b.sessions.get? id with
  | none => exact occupied
  | some session =>
      obtain ⟨sound', left⟩ := struck session.subscriptions
        { b with sessions := b.sessions.erase id } sound (occupied.of_docket rfl rfl rfl)
      dsimp only
      generalize session.subscriptions.foldl (fun b name => b.strike id name)
        { b with sessions := b.sessions.erase id } = b' at sound' left ⊢
      have forgotten : (b'.modifyClient session.client fun client =>
          client.takeDeliveries.2).Occupied boarding landing :=
        left.of_docket (Desk.docket_modifyClient b'.desk _ _)
          (b'.slots_modifyClient _ (by intro client; rfl)) rfl
      exact (occupied_resolveEach forgotten sound' _ _).of_docket rfl rfl rfl

theorem occupied_handle (occupied : b.Occupied boarding landing) (sound : b.ledger.Sound)
    (session : Peer.Session) (frame : Wire.Frame) :
    (b.handle session frame).2.Occupied boarding landing := by
  rw [handle_eq]
  cases frame.purport with
  | answer outcome => exact occupied_resolve occupied sound frame.id outcome
  | call => exact occupied_reply occupied session.client frame.id (.ok ())
  | request body => exact occupied_reply (occupied_request occupied _ _ _) _ _ _
  | offence e => exact occupied

/-! ## Lives -/

/-- A task comes out of the line with the delivery that it is about. -/
theorem Occupied.pop (occupied : b.Occupied [] []) {task : Task} {rest : List Task}
    (line : b.tasks = task :: rest) :
    Occupied { b with tasks := rest } task.delivery?.toList task.ticket?.toList := by
  have desk := desk_pop line
  refine ⟨?_, ?_⟩
  · have loaded : b.desk.Loaded := occupied.loaded
    rw [desk] at loaded
    exact loaded
  · intro n flown
    have concludes := congrArg Books.concludes (books_pop line)
    refine (occupied.due n flown).imp_right fun due => ?_
    rw [List.append_nil, concludes] at due
    exact List.mem_append.2 (List.mem_append.1 due).symm

theorem filed_pop (filed : b.docket.Filed) {task : Task} {rest : List Task}
    (line : b.tasks = task :: rest) : (Broker.docket { b with tasks := rest }).Filed := by
  refine ⟨filed.sound, filed.keys, filed.issued, filed.flown, fun x listed => filed.aboard x ?_⟩
  rw [show b.docket.sends = task.delivery?.toList ++ (Broker.docket { b with tasks := rest }).sends
    from congrArg Desk.sends (desk_pop line)]
  exact List.mem_append_right _ listed

theorem occupied_task (occupied : b.Occupied [] []) (filed : b.docket.Filed) {task : Task}
    {rest : List Task} (line : b.tasks = task :: rest) :
    (perform { b with tasks := rest } task).Occupied [] [] := by
  have popped := occupied.pop line
  have sound : Ledger.Sound (Broker.ledger { b with tasks := rest }) := filed.sound
  cases task with
  | work k => exact occupied_work popped k
  | send d => exact occupied_send popped (filed_pop filed line)
  | arm ticket =>
      exact popped.of_desk (desk_arm _ ticket) (congrArg Books.cargo (books_arm _ ticket))
  | expire ticket => exact occupied_expire popped sound ticket
  | conclude ticket => exact occupied_conclude popped sound filed.keys
  | publish tag m =>
      have cargo := cargo_beginPublish { b with tasks := rest } tag m
      rcases desk_beginPublish { b with tasks := rest } tag m with same | ⟨-, same⟩
      · exact popped.of_desk same cargo
      · exact popped.of_docket ((congrArg Desk.docket same).trans rfl)
          ((slots_of_desk same).trans rfl) (congrArg Cargo.concludes cargo)
  | resume p =>
      exact popped.of_desk (desk_resumePublish _ p)
        (cargo_bring { b with tasks := rest } p.message p.lanes)

theorem occupied_apply (occupied : b.Occupied [] []) (filed : b.docket.Filed) (m : Move) :
    (b.apply m).Occupied [] [] := by
  cases m with
  | connect id link => exact occupied_connect occupied filed.sound id link
  | disconnect id => exact occupied_disconnect occupied filed.sound id
  | feed id data =>
      simp only [apply]
      split
      · exact occupied
      · exact occupied.of_docket rfl rfl rfl
  | frame id =>
      simp only [apply]
      split
      · exact occupied
      · rename_i session frame _
        exact occupied_handle (b := { b with sessions := b.sessions.insert id session })
          (occupied.of_docket rfl rfl rfl) filed.sound session frame
  | declare name route => exact occupied_request occupied "" default (.declare name route)
  | delete name => exact occupied_request occupied "" default (.delete name)
  | subscribe id name ceiling =>
      exact occupied.of_docket (b.docket_subscribe id name ceiling)
        (b.slots_subscribe id name ceiling)
        (congrArg Books.concludes (b.books_subscribe id name ceiling))
  | unsubscribe id name => exact occupied_request occupied id default (.unsubscribe name)
  | publish m => exact occupied.of_desk (b.desk_publish m) (b.cargo_publish m)
  | publishLater tag m =>
      refine occupied.of_desk (b.desk_later_of_other rfl) (congrArg Books.cargo ?_)
      simp [apply, books_later, Task.delivery?, Task.ticket?, Task.publication?]
  | recover => exact occupied.of_desk b.desk_recover b.cargo_recover
  | tamper c link =>
      exact occupied.of_docket (Desk.docket_modifyClient b.desk c _)
        (b.slots_modifyClient c (by intro client; rfl)) rfl
  | task =>
      cases line : b.tasks with
      | nil =>
          simp only [apply, line]
          exact occupied
      | cons task rest =>
          simp only [apply, line]
          exact occupied_task occupied filed line
  | ring => exact occupied.of_desk b.desk_ring (congrArg Books.cargo b.books_ring)
  | tick now => exact occupied.of_docket rfl rfl rfl

theorem occupied_shutDown (occupied : b.Occupied [] []) (sound : b.ledger.Sound) :
    b.shutDown.Occupied [] [] := by
  have whole : b.shutDown.ledger.Sound ∧ b.shutDown.Occupied [] [] := by
    refine shutDown_induction (P := fun b => b.ledger.Sound ∧ b.Occupied [] [])
      ⟨sound, occupied.of_docket rfl rfl rfl⟩ ?_ ?_ ?_
    · intro b k ⟨sound, occupied⟩
      have desk := b.desk_closeLane k
      rw [show (b.closeLane k).ledger = b.ledger from congrArg Desk.ledger desk]
      have concludes : (b.closeLane k).books.concludes = b.books.concludes := by
        rw [books_closeLane]
      exact ⟨sound, occupied.of_docket ((congrArg Desk.docket desk).trans rfl)
        ((slots_of_desk desk).trans rfl) concludes⟩
    · intro b id ⟨sound, occupied⟩
      rw [show (b.resolve id (some .cancelled)).2.ledger = _ from
        congrArg Docket.ledger (b.docket_resolve id (some .cancelled))]
      exact ⟨(Ledger.resolve_settles sound id _).sound sound, occupied_resolve occupied sound id _⟩
    · intro b c ⟨sound, occupied⟩
      exact ⟨sound, occupied.of_docket (Desk.docket_modifyClient b.desk c _)
        (b.slots_modifyClient c (by intro client; rfl)) rfl⟩
  exact whole.2

theorem occupied_live (occupied : b.Occupied [] []) (filed : b.docket.Filed) (e : Episode) :
    (b.live e).Occupied [] [] := by
  cases e with
  | store depot => exact occupied.of_docket rfl rfl rfl
  | shutDown => exact occupied_shutDown occupied filed.sound
  | stir s =>
      cases s with
      | move m => exact occupied_apply occupied filed m
      | holdUp holdsUp =>
          refine occupied.of_docket ?_ ?_ ?_ <;> cases holdsUp <;>
            simp [live, stir, setHoldUp, docket, Desk.docket, desk, books, Broker.slots,
              Task.delivery?, Task.ticket?]
      | letGo n =>
          simp only [live, stir]
          split
          · exact occupied
          · rename_i p _
            have left : Occupied { b with heldUp := b.heldUp.eraseIdx n } [] [] :=
              occupied.of_docket rfl rfl rfl
            exact left.of_desk (desk_resumePublish _ p)
              (cargo_bring { b with heldUp := b.heldUp.eraseIdx n } p.message p.lanes)

theorem occupied_start {settings : Settings.Engine} {mint : Nat → CorrelationId} {calendar : Nat}
    {depot : Store.Depot} (started : Broker.new? settings mint calendar depot = some b) :
    b.Occupied [] [] := by
  unfold new? at started
  split at started
  · obtain ⟨buffers, -, rfl⟩ := Option.map_eq_some_iff.1 started
    exact ⟨⟨nofun, nofun⟩, nofun⟩
  · cases started

/-- A delivery on its way waits for an outcome or is going to be concluded. -/
theorem Occupied.waits_or_due (occupied : b.Occupied [] []) {n : Nat}
    (flown : n ∈ b.flights.keys) : b.ledger.isWaiting n = true ∨ n ∈ b.books.concludes := by
  have due := occupied.due n flown
  rwa [List.append_nil] at due

/-- When no delivery is going to be written, those that are outstanding are on their way. -/
theorem outstanding_of_unsent (unsent : b.desk.sends = []) :
    b.desk.outstanding = b.flights.values := by
  rw [outstanding, unsent]
  exact List.append_nil _

theorem load_of_unsent (unsent : b.desk.sends = []) (c : Nat) :
    b.desk.load c = b.flights.values.countP fun x => x.client = c := by
  rw [load, outstanding_of_unsent unsent]

/-- The slots in use are those of deliveries on their way then. -/
theorem Occupied.slots_of_unsent (occupied : b.Occupied [] []) (unsent : b.desk.sends = []) {c : Nat}
    {client : Peer.Client} (here : b.clients[c]? = some client) :
    client.inFlight = b.flights.values.countP fun x => x.client = c :=
  (occupied.loaded.slots c client here).trans (load_of_unsent unsent c)

end Broker

end MessageBroker
