import MessageBroker.Proofs.Broker.Front
import MessageBroker.Proofs.Broker.Register
import MessageBroker.Proofs.Broker.Suspension

/-!
# Episodes

The whole life of a broker is a sequence of episodes: the moves, publications that are held up and
go on, a store that begins to fail and works again or is replaced by another, and the shutdown. An
episode is as small as the broker lets it be. At most one frame is tried to be written in it: the
greeting of a new connection, the answer to a frame, or a delivery.

What an episode does is said here for the front and for the register. A frame is taken out of what
has arrived before it is handled, so that the register is compared with what it was after that.
-/

namespace MessageBroker

/-- Something that can happen to a broker in its life. -/
inductive Episode where
  | stir (s : Stir)
  /-- The store becomes another, or its calls begin to fail or to work. -/
  | store (depot : Store.Depot)
  | shutDown

namespace Wire

/-- What a frame of a peer is about. -/
inductive Purport where
  /-- It answers a delivery. -/
  | answer (outcome : Outcome)
  /-- It asks for nothing but an answer. -/
  | call
  | request (body : Body)
  /-- It breaks the protocol. -/
  | offence (e : Error)
deriving DecidableEq, Repr

/-- What a frame is about. -/
def Frame.purport (frame : Frame) : Purport :=
  match frame.kind with
  | .ack => .answer none
  | .nack =>
    match Broker.reasonOf frame with
    | .ok reason => .answer (some (.rejected reason))
    | .error e => .offence e
  | .ready => .call
  | kind =>
    match frame.bodyAs (Shape.ofKind kind) with
    | .ok body => .request body
    | .error e => .offence e

theorem Frame.request?_eq_some {frame : Frame} {body : Body} :
    frame.request? = some body ↔ frame.purport = .request body := by
  rw [request?, purport]
  cases frame.kind with
  | ack => simp
  | ready => simp
  | nack =>
      dsimp only
      cases Broker.reasonOf frame <;> simp
  | _ =>
      dsimp only
      cases frame.bodyAs (.ofKind _) <;> simp [Except.toOption]

end Wire

/-- The next frame of a session is taken out of its assembler, and nothing else of it changes. -/
theorem Peer.Session.next_eq_ok {session session' : Session} {frame : Wire.Frame}
    (next : session.next = .ok (some (frame, session'))) :
    session.assembler.next = .ok (some (frame, session'.assembler)) ∧
      session' = { session with assembler := session'.assembler } := by
  rw [Session.next] at next
  cases read : session.assembler.next with
  | error e => simp [read, Except.map] at next
  | ok entry =>
      cases entry with
      | none => simp [read, Except.map] at next
      | some entry =>
          simp only [read, Except.map, Option.map_some, Except.ok.injEq, Option.some.injEq,
            Prod.mk.injEq] at next
          obtain ⟨rfl, rfl⟩ := next
          exact ⟨rfl, rfl⟩

/-- A frame is handled by what it is about. -/
theorem Broker.handle_eq (b : Broker) (session : Peer.Session) (frame : Wire.Frame) :
    b.handle session frame =
      match frame.purport with
      | .answer outcome => (.ok (), (b.resolve frame.id outcome).2)
      | .call => (.ok (), b.reply session.client frame.id (.ok ()))
      | .request body =>
        (.ok (), (b.request session.id frame.id body).2.reply session.client frame.id
          (b.request session.id frame.id body).1)
      | .offence e => (.error e, b) := by
  rw [handle, Wire.Frame.purport]
  cases frame.kind with
  | ack => rfl
  | ready => rfl
  | nack =>
      dsimp only
      cases reasonOf frame <;> rfl
  | _ =>
      dsimp only
      cases frame.bodyAs (.ofKind _) <;> rfl

namespace Front

/-- Whether something that is said is a greeting. -/
def isGreeting (said : Nat × Wire.Frame) : Bool :=
  said.2.kind = .ready

/-- What a front becomes when more has been said. Every client is greeted, and nobody else. -/
structure Grows (said : List (Nat × Wire.Frame)) (f f' : Front) : Prop where
  settings : f'.settings = f.settings
  titles : f.titles <+: f'.titles
  seats : f'.seats = f.seats + said.countP isGreeting
  attempts : f'.attempts = f.attempts ++ said

namespace Grows

variable {f f' f'' : Front} {said more : List (Nat × Wire.Frame)}

theorem refl (f : Front) : Grows [] f f :=
  ⟨rfl, List.prefix_rfl, rfl, (List.append_nil _).symm⟩

theorem of_eq (same : f' = f) : Grows [] f f' := by
  rw [same]
  exact .refl f

theorem trans (first : Grows said f f') (second : Grows more f' f'') :
    Grows (said ++ more) f f'' where
  settings := second.settings.trans first.settings
  titles := first.titles.trans second.titles
  seats := by rw [second.seats, first.seats, List.countP_append, Nat.add_assoc]
  attempts := by rw [second.attempts, first.attempts, List.append_assoc]

end Grows

theorem grows_say (f : Front) (c : Nat) {frame : Wire.Frame} (other : frame.kind ≠ .ready) :
    Grows (if c < f.seats then [(c, frame)] else []) f (f.say c frame) := by
  rw [say]
  split
  · exact ⟨rfl, List.prefix_rfl, by simp [isGreeting, other], rfl⟩
  · exact .refl f

end Front

namespace Broker

open Wire Front

/-- A broker after an episode. -/
def live (b : Broker) : Episode → Broker
  | .stir s => b.stir s
  | .store depot => { b with depot }
  | .shutDown => b.shutDown

/-- A broker after several episodes. -/
def through (b : Broker) (episodes : List Episode) : Broker :=
  episodes.foldl live b

theorem through_append (b : Broker) (episodes more : List Episode) :
    b.through (episodes ++ more) = (b.through episodes).through more :=
  List.foldl_append

/-- A run of moves and of publications that go on is a part of a life. -/
theorem through_stirs (b : Broker) (stirs : List Stir) :
    b.through (stirs.map .stir) = b.stirred stirs := by
  rw [through, List.foldl_map]
  rfl

theorem through_moves (b : Broker) (moves : List Move) :
    b.through (moves.map fun m => .stir (.move m)) = b.after moves :=
  List.foldl_map

/-- A broker whose session has read what an episode is about: bytes that arrive are buffered, and
the next frame is taken out of the buffer. -/
def reading (b : Broker) : Episode → Broker
  | .stir (.move (.feed id data)) => b.apply (.feed id data)
  | .stir (.move (.frame id)) =>
    match b.nextFrame? id with
    | some (session, _) => { b with sessions := b.sessions.insert id session }
    | none => b
  | _ => b

/-- The next frame of a connection is taken out of its assembler, and nothing else of its session
changes. -/
theorem nextFrame?_spec {b : Broker} {id : String} {session : Peer.Session} {frame : Frame}
    (next : b.nextFrame? id = some (session, frame)) :
    ∃ before, b.sessions.get? id = some before ∧
      before.assembler.next = .ok (some (frame, session.assembler)) ∧
      session = { before with assembler := session.assembler } := by
  obtain ⟨before, found, taken⟩ := Option.bind_eq_some_iff.1 next
  refine ⟨before, found, Peer.Session.next_eq_ok ?_⟩
  cases read : before.next with
  | error e => simp [read] at taken
  | ok entry =>
      cases entry with
      | none => simp [read] at taken
      | some entry =>
          simp only [read, Option.some.injEq, Prod.mk.injEq] at taken
          obtain ⟨rfl, rfl⟩ := taken
          rfl

/-- One session reads, or none does. -/
theorem reading_cases (b : Broker) (e : Episode) : b.reading e = b ∨
    ∃ id session assembler buffers, b.sessions.get? id = some session ∧
      b.reading e = { b with
        buffers
        sessions := b.sessions.insert id { session with assembler } } := by
  unfold reading
  split
  · rename_i id data
    cases found : b.sessions.get? id with
    | none => exact .inl (by simp only [apply, found])
    | some session =>
        refine .inr ⟨id, session, (session.feed b.buffers data).1.assembler,
          (session.feed b.buffers data).2, found, ?_⟩
        simp only [apply, found]
        rfl
  · rename_i id
    split
    · rename_i session frame next
      obtain ⟨before, found, -, same⟩ := nextFrame?_spec next
      exact .inr ⟨id, before, session.assembler, b.buffers, found, by rw [← same]⟩
    · exact .inl rfl
  · exact .inl rfl

/-! ## What is said -/

/-- The frame that answers a request. -/
def verdict (id : CorrelationId) : Except RequestError Unit → Frame
  | .ok () => .ack id
  | .error e => .nack id e.message

/-- The frame that answers a frame of a peer, if it is answered. -/
def answer? (b : Broker) (session : Peer.Session) (frame : Frame) : Option Frame :=
  match frame.purport with
  | .call => some (.ack frame.id)
  | .request body => some (verdict frame.id (b.request session.id frame.id body).1)
  | _ => none

/-- What it is to say something to a client: nothing if there is no such client. -/
def toward (b : Broker) (c : Nat) (frame : Frame) : List (Nat × Frame) :=
  if c < b.clients.length then [(c, frame)] else []

/-- What a broker utters in an episode. -/
def utters (b : Broker) (e : Episode) : List (Nat × Frame) :=
  match e with
  | .stir (.move (.connect id _)) =>
    if b.sessions.contains id then [] else [(b.clients.length, .ready (b.mint b.minted))]
  | .stir (.move (.frame id)) =>
    match b.nextFrame? id with
    | some (session, frame) =>
      ((b.reading e).answer? session frame).elim [] (b.toward session.client)
    | none => []
  | .stir (.move .task) =>
    match b.tasks with
    | .send d :: _ => b.toward d.client d.frame
    | _ => []
  | _ => []

theorem toward_of_length {b b' : Broker} (same : b'.clients.length = b.clients.length) :
    b'.toward = b.toward := by
  funext c frame
  rw [toward, toward, same]

theorem grows_write (b : Broker) (c : Nat) {frame : Frame} (other : frame.kind ≠ .ready) :
    Grows (b.toward c frame) b.front (b.write c frame).2.front := by
  rw [front_write]
  exact b.front.grows_say c other

theorem grows_reply (b : Broker) (c : Nat) (id : CorrelationId)
    (result : Except RequestError Unit) :
    Grows (b.toward c (verdict id result)) b.front (b.reply c id result).front := by
  cases result <;> exact b.grows_write c nofun

theorem grows_request (b : Broker) (connection : String) (id : CorrelationId) (body : Body) :
    Grows [] b.front (b.request connection id body).2.front := by
  cases body with
  | message route payload => exact .of_eq (b.front_publish _)
  | subscribe queue ceiling => exact .of_eq (b.front_subscribe _ _ _)
  | unsubscribe queue => exact .of_eq (b.front_unsubscribe _ _)
  | declare name route =>
      rcases b.front_declare name route with same | ⟨pattern, same⟩
      · exact .of_eq same
      · rw [show (b.request connection id (.declare name route)).2.front = _ from same]
        exact ⟨rfl, List.prefix_append _ _, rfl, (List.append_nil _).symm⟩
  | delete name => exact .of_eq (b.front_delete _)
  | nack reason => exact .refl _

/-- A request leaves the client records where they are. -/
theorem length_clients_request (b : Broker) (connection : String) (id : CorrelationId)
    (body : Body) : (b.request connection id body).2.clients.length = b.clients.length :=
  (b.grows_request connection id body).seats

/-- A frame of a peer that is answered is answered by one frame, and the others by none. -/
theorem grows_handle (b : Broker) (session : Peer.Session) (frame : Frame) :
    Grows ((b.answer? session frame).elim [] (b.toward session.client)) b.front
      (b.handle session frame).2.front := by
  rw [handle_eq, answer?]
  cases frame.purport with
  | answer outcome => exact .of_eq (b.front_resolve _ _)
  | call => exact b.grows_write _ nofun
  | offence e => exact .refl _
  | request body =>
      have asked := b.grows_request session.id frame.id body
      have replied := grows_reply (b.request session.id frame.id body).2 session.client frame.id
        (b.request session.id frame.id body).1
      rw [toward_of_length (b.length_clients_request session.id frame.id body)] at replied
      exact asked.trans replied

/-! ## One episode -/

theorem grows_perform (b : Broker) (task : Task) :
    Grows (match task with
      | .send d => b.toward d.client d.frame
      | _ => []) b.front (b.perform task).front := by
  cases task with
  | work k => exact .of_eq (b.front_work k)
  | send d =>
      rw [show (b.perform (.send d)).front = _ from b.front_send d]
      exact b.front.grows_say d.client nofun
  | arm ticket => exact .of_eq (b.front_arm ticket)
  | expire ticket => exact .of_eq (b.front_expire ticket)
  | conclude ticket => exact .of_eq (b.front_conclude ticket)
  | publish tag m => exact .of_eq (b.front_beginPublish tag m)
  | resume p => exact .of_eq (b.front_resumePublish p)

/-- What an episode adds to the front. -/
theorem grows_live (b : Broker) (e : Episode) : Grows (b.utters e) b.front (b.live e).front := by
  cases e with
  | store depot => exact .refl _
  | shutDown => exact .of_eq b.front_shutDown
  | stir s =>
      cases s with
      | holdUp holdsUp => exact .of_eq (b.front_setHoldUp holdsUp)
      | letGo n =>
          rw [live, stir]
          split
          · exact .refl _
          · exact .of_eq (front_resumePublish _ _)
      | move m =>
          cases m with
          | connect id link =>
              have greeted := b.front_connect id link
              rw [utters, show (b.live (.stir (.move (.connect id link)))).front = _ from greeted]
              split
              · exact .refl _
              · exact ⟨rfl, List.prefix_rfl, rfl, rfl⟩
          | disconnect id => exact .of_eq (b.front_disconnect id)
          | feed id data =>
              rw [live, stir, apply]
              split <;> exact .refl _
          | frame id =>
              cases found : b.nextFrame? id with
              | none =>
                  simp only [utters, live, stir, apply, found]
                  exact .refl _
              | some taken =>
                  simp only [utters, live, stir, apply, reading, found]
                  exact grows_handle _ taken.1 taken.2
          | declare name route =>
              have asked := b.grows_request "" default (.declare name route)
              exact asked
          | delete name => exact .of_eq (b.front_delete name)
          | subscribe id name ceiling => exact .of_eq (b.front_subscribe id name ceiling)
          | unsubscribe id name => exact .of_eq (b.front_unsubscribe id name)
          | publish m => exact .of_eq (b.front_publish m)
          | publishLater tag m => exact .refl _
          | recover => exact .of_eq b.front_recover
          | tamper c link => exact .of_eq (b.front_modifyClient c _)
          | task =>
              cases line : b.tasks with
              | nil =>
                  simp only [utters, live, stir, apply, line]
                  exact .refl _
              | cons task rest =>
                  simp only [utters, live, stir, apply, line]
                  have performed := grows_perform { b with tasks := rest } task
                  cases task <;> exact performed
          | ring => exact .of_eq b.front_ring
          | tick now => exact .refl _

/-- Before the shutdown an episode changes the register in the ways that there are, once a session
has read what the episode is about. -/
theorem changes_live {b : Broker} (names : Desk.Distinct b.desk.notices) {e : Episode}
    (on : e ≠ .shutDown) :
    (b.reading e).desk.Changes b.settings.maxBodySize (b.live e).desk := by
  cases e with
  | store depot => exact .refl
  | shutDown => exact absurd rfl on
  | stir s =>
      cases s with
      | holdUp holdsUp => cases holdsUp <;> exact .aside rfl
      | letGo n =>
          rw [live, stir]
          split
          · exact .refl
          · rename_i p _
            have left := desk_resumePublish { b with heldUp := b.heldUp.eraseIdx n } p
            exact .aside ((register_of_desk left).trans rfl)
      | move m =>
          cases m with
          | connect id link => exact b.changes_connect id link
          | disconnect id => exact changes_disconnect names id
          | feed id data => exact .refl
          | frame id =>
              cases found : b.nextFrame? id with
              | none =>
                  simp only [reading, live, stir, apply, found]
                  exact .refl
              | some taken =>
                  simp only [reading, live, stir, apply, found]
                  exact changes_handle (b := { b with sessions := b.sessions.insert id taken.1 })
                    names taken.1 taken.2
          | declare name route => exact changes_declare name route
          | delete name => exact changes_delete names name
          | subscribe id name ceiling => exact changes_subscribe names id name ceiling
          | unsubscribe id name => exact changes_unsubscribe names id name
          | publish m => exact .aside (register_of_desk (b.desk_publish m))
          | publishLater tag m => exact .aside rfl
          | recover => exact .aside (register_of_desk b.desk_recover)
          | tamper c link => exact .aside (b.desk.register_modifyClient c fun _ => rfl)
          | task =>
              cases line : b.tasks with
              | nil =>
                  simp only [reading, live, stir, apply, line]
                  exact .refl
              | cons task rest =>
                  simp only [reading, live, stir, apply, line]
                  exact .aside (register_perform { b with tasks := rest } task)
          | ring => exact .aside (register_of_desk b.desk_ring)
          | tick now => exact .refl

/-! ## Lives -/

/-- Whatever happens, titles stay where they are and nothing that was said is taken back. -/
theorem grows_through (b : Broker) (episodes : List Episode) :
    ∃ said, Grows said b.front (b.through episodes).front := by
  induction episodes generalizing b with
  | nil => exact ⟨[], .refl _⟩
  | cons e episodes ih =>
      obtain ⟨said, grows⟩ := ih (b.live e)
      exact ⟨b.utters e ++ said, (b.grows_live e).trans grows⟩

/-- A broker begins with an empty register, and has said nothing. -/
theorem start_blank {settings : Settings.Engine} {mint : Nat → CorrelationId} {calendar : Nat}
    {depot : Store.Depot} {start : Broker}
    (started : Broker.new? settings mint calendar depot = some start) :
    start.front = ⟨settings, [], 0, []⟩ ∧ start.desk.register = ⟨[], .empty, []⟩ := by
  unfold new? at started
  split at started
  · obtain ⟨buffers, -, rfl⟩ := Option.map_eq_some_iff.1 started
    exact ⟨rfl, rfl⟩
  · cases started

/-- The settings stay those that a broker began with. -/
theorem settings_through {settings : Settings.Engine} {mint : Nat → CorrelationId} {calendar : Nat}
    {depot : Store.Depot} {start : Broker}
    (started : Broker.new? settings mint calendar depot = some start) (life : List Episode) :
    (start.through life).settings = settings := by
  obtain ⟨said, grows⟩ := start.grows_through life
  have begun : start.front.settings = settings := congrArg Front.settings (start_blank started).1
  exact grows.settings.trans begun

end Broker

end MessageBroker
