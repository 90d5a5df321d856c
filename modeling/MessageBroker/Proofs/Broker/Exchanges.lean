import MessageBroker.Proofs.Broker.Effects
import MessageBroker.Proofs.Broker.Violations

/-!
# Frames in the order of arrival

In the life of a broker frames are taken out of what has arrived on a connection, one in an episode.
Here they are listed, client by client and together with the states that they come to. They are the
frames that the bytes of the connection spell, in the same order, up to what is still unread; and
each call that brings bytes is a row of episodes, after which no complete frame is left unless one
broke the protocol.
-/

namespace MessageBroker

/-- A frame that a broker takes out of what has arrived. -/
structure Intake where
  /-- The broker that the frame comes to. -/
  broker : Broker
  session : Peer.Session
  frame : Wire.Frame

namespace Broker

open Wire

/-- The frame that is taken in an episode. -/
def intake? (b : Broker) (e : Episode) : Option Intake :=
  match e with
  | .stir (.move (.frame id)) =>
    (b.nextFrame? id).map fun entry => ⟨b.reading e, entry.1, entry.2⟩
  | _ => none

/-- The frame of a client that is taken in an episode. -/
def takenFrom (b : Broker) (c : Nat) (e : Episode) : List Intake :=
  (b.intake? e).toList.filter fun i => i.session.client = c

/-- The bytes that arrive from a client in an episode. -/
def arrivedFrom (b : Broker) (c : Nat) (e : Episode) : Bytes :=
  match e with
  | .stir (.move (.feed id data)) => if b.desk.seat? id = some c then data else []
  | _ => []

/-- The episodes of a life, with the states that they begin in. -/
def history (b : Broker) : List Episode → List (Broker × Episode)
  | [] => []
  | e :: episodes => (b, e) :: (b.live e).history episodes

/-- The frames of a client that are taken in a life, in order. -/
def taken (b : Broker) (episodes : List Episode) (c : Nat) : List Intake :=
  (b.history episodes).flatMap fun entry => entry.1.takenFrom c entry.2

/-- The bytes that arrive from a client in a life, in order. -/
def arrived (b : Broker) (episodes : List Episode) (c : Nat) : Bytes :=
  (b.history episodes).flatMap fun entry => entry.1.arrivedFrom c entry.2

/-- The wire form of frames that were taken. -/
def spelled (intakes : List Intake) : Bytes :=
  intakes.flatMap fun i => i.frame.encode

theorem spelled_append (intakes more : List Intake) :
    spelled (intakes ++ more) = spelled intakes ++ spelled more :=
  List.flatMap_append

section

variable (b : Broker) (episodes : List Episode) (e : Episode) (c : Nat)

theorem history_append :
    b.history (episodes ++ [e]) = b.history episodes ++ [(b.through episodes, e)] := by
  induction episodes generalizing b with
  | nil => rfl
  | cons first episodes ih => exact congrArg ((b, first) :: ·) (ih (b.live first))

theorem taken_append :
    b.taken (episodes ++ [e]) c = b.taken episodes c ++ (b.through episodes).takenFrom c e := by
  simp [taken, history_append]

theorem arrived_append :
    b.arrived (episodes ++ [e]) c =
      b.arrived episodes c ++ (b.through episodes).arrivedFrom c e := by
  simp [arrived, history_append]

theorem through_append_singleton : b.through (episodes ++ [e]) = (b.through episodes).live e :=
  b.through_append episodes [e]

end

variable {b : Broker} {id : String} {session : Peer.Session}

/-! ## One episode -/

/-- In an episode a session goes on reading: what it has unread and what arrives are the frame that
is taken and what it has unread then. -/
def GoesOnReading (b : Broker) (e : Episode) (id : String) (session : Peer.Session) : Prop :=
  ∃ session', (b.reading e).sessions.get? id = some session' ∧ session'.client = session.client ∧
    session.assembler.unread ++ b.arrivedFrom session.client e =
      spelled (b.takenFrom session.client e) ++ session'.assembler.unread

theorem goesOnReading_of_idle (found : b.sessions.get? id = some session) {e : Episode}
    (same : (b.reading e).sessions.get? id = b.sessions.get? id)
    (nothing : b.arrivedFrom session.client e = []) (none' : b.takenFrom session.client e = []) :
    b.GoesOnReading e id session := by
  refine ⟨session, same.trans found, rfl, ?_⟩
  rw [nothing, none', List.append_nil]
  rfl

/-- Two connections do not share a client. -/
theorem seat?_ne (regular : b.Regular) (found : b.sessions.get? id = some session) {id' : String}
    (other : id' ≠ id) : b.desk.seat? id' ≠ some session.client :=
  fun here => other (regular.eq_of_seat here (Desk.seat?_of_get? (d := b.desk) found))

theorem goesOnReading_feed (regular : b.Regular) (found : b.sessions.get? id = some session)
    (id' : String) (data : Bytes) :
    b.GoesOnReading (.stir (.move (.feed id' data))) id session := by
  by_cases here : id' = id
  · subst here
    obtain ⟨-, appended⟩ := (regular.proper _ _ found).sound.write b.buffers data
    refine ⟨(session.feed b.buffers data).1, ?_, rfl, ?_⟩
    · simp only [reading, apply, found, Table.get?_insert, if_true]
    · rw [arrivedFrom, if_pos (Desk.seat?_of_get? (d := b.desk) found)]
      exact appended.symm
  · refine goesOnReading_of_idle found ?_ (if_neg (seat?_ne regular found here)) rfl
    simp only [reading, apply]
    split
    · rfl
    · exact (Table.get?_insert _ _ _ _).trans (if_neg (Ne.symm here))

theorem goesOnReading_frame (regular : b.Regular) (found : b.sessions.get? id = some session)
    (id' : String) : b.GoesOnReading (.stir (.move (.frame id'))) id session := by
  cases next : b.nextFrame? id' with
  | none =>
      exact goesOnReading_of_idle found (by simp only [reading, next]) rfl
        (by simp [takenFrom, intake?, next])
  | some entry =>
      obtain ⟨session', frame⟩ := entry
      obtain ⟨before, found', taken, same⟩ := nextFrame?_spec next
      have client : session'.client = before.client := same ▸ rfl
      by_cases here : id' = id
      · subst here
        obtain rfl := Option.some.inj (found.symm.trans found')
        obtain ⟨-, -, read, rest⟩ := (regular.proper _ _ found).sound.taken taken
        obtain ⟨-, -, more, whole⟩ := Frame.encode_of_decode read
        refine ⟨session', ?_, client, ?_⟩
        · simp only [reading, next, Table.get?_insert, if_true]
        · rw [rest, whole, ← frame.length_encode, List.drop_left]
          simp [takenFrom, intake?, next, client, spelled, arrivedFrom]
      · have other : before.client ≠ session.client := fun shared =>
          seat?_ne regular found here (shared ▸ Desk.seat?_of_get? (d := b.desk) found')
        refine goesOnReading_of_idle found ?_ rfl ?_
        · simp only [reading, next]
          exact (Table.get?_insert _ _ _ _).trans (if_neg (Ne.symm here))
        · simp [takenFrom, intake?, next, client, other]

theorem goesOnReading (regular : b.Regular) (found : b.sessions.get? id = some session)
    (e : Episode) : b.GoesOnReading e id session := by
  cases e with
  | store depot => exact goesOnReading_of_idle found rfl rfl rfl
  | shutDown => exact goesOnReading_of_idle found rfl rfl rfl
  | stir s =>
      cases s with
      | holdUp holdsUp => exact goesOnReading_of_idle found rfl rfl rfl
      | letGo n => exact goesOnReading_of_idle found rfl rfl rfl
      | move m =>
          cases m with
          | feed id' data => exact goesOnReading_feed regular found id' data
          | frame id' => exact goesOnReading_frame regular found id'
          | _ => exact goesOnReading_of_idle found rfl rfl rfl

/-- Nothing arrives from a client that nobody is connected with. -/
theorem reading_of_unseated {c : Nat} (nobody : ∀ id, b.desk.seat? id ≠ some c) (e : Episode) :
    b.arrivedFrom c e = [] ∧ b.takenFrom c e = [] := by
  constructor
  · unfold arrivedFrom
    split
    · exact if_neg (nobody _)
    · rfl
  · unfold takenFrom intake?
    split
    · rename_i id
      cases next : b.nextFrame? id with
      | none => rfl
      | some entry =>
          obtain ⟨before, found, -, same⟩ := nextFrame?_spec next
          have client : entry.1.client = before.client := by rw [same]
          have other : entry.1.client ≠ c := fun shared =>
            nobody id (shared ▸ client ▸ Desk.seat?_of_get? (d := b.desk) found)
          simp [other]
    · rfl

/-! ## Lives -/

/-- What has arrived from a client are the frames that were taken and the bytes that were not: those
that are unread while the connection lasts. -/
structure InOrderOfArrival (start : Broker) (episodes : List Episode) (c : Nat) : Prop where
  order : spelled (start.taken episodes c) <+: start.arrived episodes c
  rest : ∀ id session, (start.through episodes).sessions.get? id = some session →
    session.client = c →
    start.arrived episodes c = spelled (start.taken episodes c) ++ session.assembler.unread

theorem lt_of_seat (regular : b.Regular) {c : Nat} (seated : b.desk.seat? id = some c) :
    c < b.clients.length := by
  have named := regular.seats id c seated
  have room := (List.getElem?_eq_some_iff.1 named).1
  rwa [List.length_map] at room

theorem length_clients_le (b : Broker) (e : Episode) :
    b.clients.length ≤ (b.live e).clients.length := by
  have seats : (b.live e).clients.length = _ := (b.grows_live e).seats
  exact Nat.le_trans (Nat.le_add_right _ _) (Nat.le_of_eq seats.symm)

/-- A session that there is after an episode has gone on reading in it, or it is new. -/
theorem live_spec (regular : b.Regular) {e : Episode}
    (found : (b.live e).sessions.get? id = some session) :
    (∃ before, b.sessions.get? id = some before ∧ before.client = session.client ∧
      before.assembler.unread ++ b.arrivedFrom session.client e =
        spelled (b.takenFrom session.client e) ++ session.assembler.unread) ∨
    session.assembler.unread = [] ∧ b.clients.length ≤ session.client := by
  have read := b.reading_cases e
  rcases (regular.descends e).sessions id session found with ⟨session', here, same⟩ | ⟨blank, new⟩
  · left
    cases there : b.sessions.get? id with
    | none =>
        have absent : (b.reading e).sessions.get? id = none := by
          rcases read with same | ⟨id', before, assembler, buffers, found', same⟩
          · rw [same, there]
          · rw [same]
            refine (Table.get?_insert _ _ _ _).trans ?_
            rw [if_neg, there]
            rintro rfl
            exact absurd (there.symm.trans found') nofun
        exact absurd (absent.symm.trans here) nofun
    | some before =>
        obtain ⟨session'', here', client, whole⟩ := goesOnReading regular there e
        obtain rfl := Option.some.inj (here.symm.trans here')
        rw [same.client, same.assembler, client]
        exact ⟨before, rfl, rfl, whole⟩
  · right
    have clients : (b.reading e).desk.clients = b.clients := by
      rcases read with same | ⟨_, _, _, _, -, same⟩ <;> rw [same] <;> rfl
    exact ⟨blank, clients ▸ new⟩

/-- From a client that there is not yet nothing has come. -/
theorem nothing_from_new {start : Broker} (regular : start.Regular) (episodes : List Episode)
    {c : Nat} (new : (start.through episodes).clients.length ≤ c) :
    start.arrived episodes c = [] ∧ start.taken episodes c = [] := by
  induction episodes using List.reverseRecOn with
  | nil => exact ⟨rfl, rfl⟩
  | append_singleton episodes e ih =>
      rw [through_append_singleton] at new
      have new' := (length_clients_le (start.through episodes) e).trans new
      have nobody : ∀ id, (start.through episodes).desk.seat? id ≠ some c := fun id seated =>
        absurd (lt_of_seat (regular.through episodes) seated) (Nat.not_lt.2 new')
      obtain ⟨nothing, none'⟩ := reading_of_unseated nobody e
      rw [arrived_append, taken_append, nothing, none', List.append_nil, List.append_nil]
      exact ih new'

/-- The frames of a client that is connected go on being taken in order. -/
theorem InOrderOfArrival.live_seated {start : Broker} {episodes : List Episode}
    (regular : (start.through episodes).Regular) {c : Nat}
    (arrival : InOrderOfArrival start episodes c)
    (seated : (start.through episodes).desk.seat? id = some c) (e : Episode) :
    InOrderOfArrival start (episodes ++ [e]) c := by
  obtain ⟨session, found, rfl⟩ := Option.map_eq_some_iff.1 seated
  obtain ⟨session', -, -, read⟩ := goesOnReading regular found e
  have whole := arrival.rest id session found rfl
  refine ⟨⟨session'.assembler.unread, ?_⟩, ?_⟩
  · rw [arrived_append, taken_append, spelled_append, whole, List.append_assoc, List.append_assoc,
      read]
  · intro id' session'' found' shared
    rw [arrived_append, taken_append, spelled_append]
    rw [through_append_singleton] at found'
    rcases live_spec regular found' with ⟨before, there, client, read'⟩ | ⟨-, new⟩
    · have seat := Desk.seat?_of_get? (d := (start.through episodes).desk) there
      rw [client, shared] at seat
      obtain rfl := regular.eq_of_seat seat seated
      obtain rfl := Option.some.inj (found.symm.trans there)
      rw [whole, List.append_assoc, List.append_assoc, ← shared, read']
    · exact absurd (lt_of_seat regular seated) (Nat.not_lt.2 (shared ▸ new))

/-- Nothing more comes from a client that is not connected. If it is a new one that begins now,
nothing has come at all. -/
theorem InOrderOfArrival.live_unseated {start : Broker} {episodes : List Episode}
    (regular : start.Regular) {c : Nat} (arrival : InOrderOfArrival start episodes c)
    (nobody : ∀ id, (start.through episodes).desk.seat? id ≠ some c) (e : Episode) :
    InOrderOfArrival start (episodes ++ [e]) c := by
  obtain ⟨nothing, none'⟩ := reading_of_unseated nobody e
  refine ⟨?_, ?_⟩
  · rw [taken_append, arrived_append, nothing, none', List.append_nil, List.append_nil]
    exact arrival.order
  · intro id session found shared
    rw [through_append_singleton] at found
    rw [arrived_append, taken_append, nothing, none', List.append_nil, List.append_nil]
    rcases live_spec (regular.through episodes) found with ⟨before, there, client, -⟩ | ⟨blank, new⟩
    · have seat := Desk.seat?_of_get? (d := (start.through episodes).desk) there
      exact absurd (client.trans shared ▸ seat) (nobody id)
    · obtain ⟨early, early'⟩ := nothing_from_new regular episodes (shared ▸ new)
      rw [early, early', blank]
      rfl

/-- Whatever happens, the frames of a client are taken in the order in which they have arrived. -/
theorem inOrderOfArrival {start : Broker} (regular : start.Regular)
    (nobody : ∀ id, start.sessions.get? id = none) (episodes : List Episode) (c : Nat) :
    InOrderOfArrival start episodes c := by
  induction episodes using List.reverseRecOn with
  | nil =>
      refine ⟨List.prefix_rfl, ?_⟩
      intro id session found
      exact absurd ((nobody id).symm.trans found) nofun
  | append_singleton episodes e arrival =>
      by_cases seated : ∃ id, (start.through episodes).desk.seat? id = some c
      · obtain ⟨id, here⟩ := seated
        exact arrival.live_seated (regular.through episodes) here e
      · exact arrival.live_unseated regular (not_exists.1 seated) e

/-! ## Calls -/

/-- A call that brings bytes is a row of episodes: the bytes arrive, and frames are taken until none
is left that is complete, or one breaks the protocol. -/
theorem receive_through (regular : b.Regular) (id : String) (data : Bytes) :
    ∃ n, b.through (.stir (.move (.feed id data)) :: List.replicate n (.stir (.move (.frame id)))) =
        (b.receive id data).2 ∧
      ((b.receive id data).1 = .ok () → (b.receive id data).2.nextFrame? id = none) := by
  obtain ⟨n, whole⟩ := b.after_feed id data
  rw [← through_moves, List.map_cons, List.map_replicate] at whole
  refine ⟨n, whole, ?_⟩
  cases found : b.sessions.get? id with
  | none =>
      intro granted
      rw [receive, found] at granted
      cases granted
  | some session => exact (receive_spec found (regular.proper id session found) data).2.2

end Broker

end MessageBroker
