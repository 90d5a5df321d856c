import MessageBroker.Proofs.Broker.Detachment
import MessageBroker.Proofs.Broker.Lives
import MessageBroker.Proofs.Stream.Chunking
import MessageBroker.Proofs.Wire.Exactness

/-!
# Violations

A peer that breaks the protocol is told so when the frame at fault comes up: one with a header that
is not accepted, or a body that does not decode. The frames ahead of it have been handled by then,
and it has no effect itself. For everybody else it is as if no more than those frames had arrived.
-/

namespace MessageBroker

namespace Wire.Frame

/-- What is wrong with a frame that could be read, if anything is. -/
def fault? (frame : Frame) : Option Error :=
  match frame.purport with
  | .offence e => some e
  | _ => none

/-- The frames at the front of a byte string, up to the first that breaks the protocol. -/
def flawless (limit : Nat) (data : Bytes) : List Frame :=
  (parse limit data).frames.takeWhile fun frame => frame.fault?.isNone

/-- What breaks the protocol first. -/
def offence? (limit : Nat) (data : Bytes) : Option Error :=
  ((parse limit data).frames.findSome? fault?).or (parse limit data).violation?

variable {limit : Nat} {data : Bytes}

theorem flawless_of_error {e : Error} (stop : decode data limit = .error e) :
    flawless limit data = [] ∧
      offence? limit data = if e.isViolation then some e else none := by
  rw [flawless, offence?, parse_of_error stop]
  exact ⟨rfl, rfl⟩

theorem flawless_of_fault {frame : Frame} (found : decode data limit = .ok frame) {e : Error}
    (fault : frame.fault? = some e) : flawless limit data = [] ∧ offence? limit data = some e := by
  rw [flawless, offence?, parse_of_ok found]
  simp [fault]

theorem flawless_of_ok {frame : Frame} (found : decode data limit = .ok frame)
    (fine : frame.fault? = none) :
    flawless limit data = frame :: flawless limit (data.drop frame.size) ∧
      offence? limit data = offence? limit (data.drop frame.size) := by
  rw [flawless, offence?, parse_of_ok found]
  simp [fine, flawless, offence?]

/-- Bytes begin with something that breaks the protocol: with a header that is not accepted, or with
a frame that something is wrong with. -/
def Breaks (limit : Nat) (data : Bytes) (e : Error) : Prop :=
  decode data limit = .error e ∧ e.isViolation = true ∨
    ∃ frame, decode data limit = .ok frame ∧ frame.fault? = some e

/-- What breaks the protocol comes right behind the frames that do not. -/
theorem breaks_of_offence? {e : Error} (offence : offence? limit data = some e) :
    ∃ rest, data = (flawless limit data).flatMap encode ++ rest ∧ Breaks limit rest e := by
  induction data using parse_induction limit with
  | stop data fault stop =>
      obtain ⟨frames, judged⟩ := flawless_of_error stop
      rw [judged] at offence
      rw [frames]
      refine ⟨data, rfl, ?_⟩
      split at offence
      · rename_i bad
        obtain rfl := Option.some.inj offence
        exact .inl ⟨stop, bad⟩
      · cases offence
  | frame data frame found ih =>
      cases fault : frame.fault? with
      | some e' =>
          obtain ⟨frames, judged⟩ := flawless_of_fault found fault
          rw [judged] at offence
          obtain rfl := Option.some.inj offence
          rw [frames]
          exact ⟨data, rfl, .inr ⟨frame, found, fault⟩⟩
      | none =>
          obtain ⟨frames, judged⟩ := flawless_of_ok found fault
          rw [judged] at offence
          obtain ⟨rest, split, breaks⟩ := ih offence
          obtain ⟨-, -, more, whole⟩ := encode_of_decode found
          have dropped : data.drop frame.size = more := by
            rw [whole, ← frame.length_encode, List.drop_left]
          refine ⟨rest, ?_, breaks⟩
          rw [frames, List.flatMap_cons, List.append_assoc, ← split, dropped, ← whole]

/-- The frames that were read are read again from their own bytes, and nothing is wrong with these.
-/
theorem flawless_again (limit : Nat) (data : Bytes) :
    flawless limit ((flawless limit data).flatMap encode) = flawless limit data ∧
      offence? limit ((flawless limit data).flatMap encode) = none := by
  have short : decode [] limit = .error (.incomplete headerSize) :=
    decode_of_header_error (Header.decode_of_lt (by decide))
  induction data using parse_induction limit with
  | stop data e stop =>
      rw [(flawless_of_error stop).1]
      exact flawless_of_error short
  | frame data frame found ih =>
      cases fault : frame.fault? with
      | some e =>
          rw [(flawless_of_fault found fault).1]
          exact flawless_of_error short
      | none =>
          rw [(flawless_of_ok found fault).1, List.flatMap_cons]
          obtain ⟨fits, allowed, -⟩ := encode_of_decode found
          obtain ⟨frames, offence⟩ := flawless_of_ok (decode_encode fits allowed
            ((flawless limit (data.drop frame.size)).flatMap encode)) fault
          rw [← frame.length_encode, List.drop_left, frame.length_encode] at frames offence
          rw [frames, offence]
          exact ⟨congrArg (frame :: ·) ih.1, ih.2⟩

end Wire.Frame

namespace Broker

open Wire Lease

/-- The frames of a connection are handled one after the other. -/
def handleEach (b : Broker) (session : Peer.Session) (frames : List Frame) : Broker :=
  frames.foldl (fun b frame => (b.handle session frame).2) b

/-! ## Sessions that others are busy with -/

variable {b : Broker} {id : String} {session : Peer.Session}

theorem get?_insert_of_same {t : Table String Peer.Session} {id' : String} {s s' : Peer.Session}
    (found : t.get? id = some session) (found' : t.get? id' = some s) (same : s.SameReading s') :
    ∃ session', (t.insert id' s').get? id = some session' ∧ session.SameReading session' := by
  rw [Table.get?_insert]
  split
  · rename_i here
    rw [here, found'] at found
    obtain rfl := Option.some.inj found
    exact ⟨s', rfl, same⟩
  · exact ⟨session, found, .refl session⟩

/-- A request is not at the cost of what anybody has read. -/
theorem get?_request (found : b.sessions.get? id = some session) (asker : String)
    (m : CorrelationId) (body : Body) :
    ∃ session', (b.request asker m body).2.sessions.get? id = some session' ∧
      session.SameReading session' := by
  have same : ∀ {b' : Broker}, b'.desk.sessions = b.sessions →
      ∃ session', b'.sessions.get? id = some session' ∧ session.SameReading session' := by
    intro b' kept
    exact ⟨session, (congrArg (Table.get? · id) kept).trans found, .refl session⟩
  cases body with
  | message route payload => exact same (congrArg Desk.sessions (b.desk_publish _))
  | nack reason => exact same rfl
  | declare name route =>
      rcases b.desk_declare name route with kept | ⟨-, -, kept⟩ <;>
        exact same (congrArg Desk.sessions kept)
  | subscribe queue ceiling =>
      rcases b.desk_subscribe asker queue (ceiling.map UInt32.toNat) with ⟨-, kept⟩ |
        ⟨s, _, _, found', -, ⟨-, kept⟩ | ⟨-, kept⟩⟩
      · exact same (congrArg Desk.sessions kept)
      · refine same ((congrArg Desk.sessions kept).trans ?_)
        exact congrArg Register.sessions (b.desk.register_recap s.client _)
      · rw [show (b.request asker m (.subscribe queue ceiling)).2.sessions = _ from
          congrArg Desk.sessions kept]
        exact get?_insert_of_same found found' (s.sameReading_subscribe queue)
  | unsubscribe queue =>
      rcases b.desk_unsubscribe asker queue with ⟨-, kept⟩ | ⟨s, found', -, kept⟩
      · exact same (congrArg Desk.sessions kept)
      · rw [show (b.request asker m (.unsubscribe queue)).2.sessions = _ from
          congrArg Desk.sessions kept, desk_strike]
        have left := get?_insert_of_same found found' (s.sameReading_unsubscribe queue)
        split <;> exact left
  | delete name =>
      have kept := congrArg Desk.sessions (b.desk_delete name)
      cases declared : b.lane? name with
      | none =>
          rw [declared] at kept
          exact same kept
      | some entry =>
          rw [declared] at kept
          rw [show (b.request asker m (.delete name)).2.sessions = _ from kept, Table.get?_map,
            found]
          exact ⟨_, rfl, rfl, rfl, rfl⟩

/-- A frame that is handled is not at the cost of what anybody has read. -/
theorem get?_handle (found : b.sessions.get? id = some session) (asker : Peer.Session)
    (frame : Frame) :
    ∃ session', (b.handle asker frame).2.sessions.get? id = some session' ∧
      session.SameReading session' := by
  have replied : ∀ (b : Broker) (c : Nat) (m : CorrelationId) (result : Except RequestError Unit),
      (b.reply c m result).sessions = b.sessions := fun b c m result =>
    congrArg Register.sessions (b.register_reply c m result)
  rw [handle_eq]
  cases frame.purport with
  | answer outcome =>
      have kept : (b.resolve frame.id outcome).2.sessions = b.sessions :=
        congrArg Register.sessions (b.register_resolve frame.id outcome)
      exact ⟨session, kept ▸ found, .refl session⟩
  | call => exact ⟨session, (replied _ _ _ _).symm ▸ found, .refl session⟩
  | offence e => exact ⟨session, found, .refl session⟩
  | request body =>
      dsimp only
      rw [replied]
      exact get?_request found asker.id frame.id body

/-! ## What has arrived is handled -/

theorem Agree.handleEach {p : BufferPool} {b b' : Broker} (agree : Agree id p b b')
    {session session' : Peer.Session} (own : session.id = id) (own' : session'.id = id)
    (client : session'.client = session.client) (frames : List Frame) :
    Agree id p (b.handleEach session frames) (b'.handleEach session' frames) := by
  induction frames generalizing b b' with
  | nil => exact agree
  | cons frame frames ih => exact ih (agree.handle own own' client frame).2

/-- A frame that something is wrong with is refused, and then nothing happens. -/
theorem handle_of_fault (session : Peer.Session) {frame : Frame} {e : Wire.Error}
    (fault : frame.fault? = some e) : b.handle session frame = (.error e, b) := by
  rw [Frame.fault?] at fault
  rw [handle_eq]
  cases purport : frame.purport with
  | offence e' =>
      rw [purport] at fault
      obtain rfl := Option.some.inj fault
      rfl
  | _ =>
      rw [purport] at fault
      cases fault

theorem handle_of_fine (session : Peer.Session) {frame : Frame} (fine : frame.fault? = none) :
    (b.handle session frame).1 = .ok () := by
  rw [Frame.fault?] at fine
  rw [handle_eq]
  cases purport : frame.purport with
  | offence e =>
      rw [purport] at fine
      cases fine
  | _ => rfl

/-- What a session has next is what its unread bytes begin with. -/
theorem next_of_error {limit : Nat} (proper : session.Proper id limit) {e : Wire.Error}
    (stop : Frame.decode session.assembler.unread limit = .error e) :
    session.next = if e.isViolation then .error e else .ok none :=
  (Stream.Reader.session_refines limit).next_error ⟨proper.sound, rfl, proper.bodyLimit⟩ stop

/-- A complete frame is taken out of the session and handled. A session is left that has the other
bytes still to read, and the frame does what it does to a broker that has not read it. -/
theorem handle_next {limit : Nat} (found : b.sessions.get? id = some session)
    (proper : session.Proper id limit) {frame : Frame}
    (read : Frame.decode session.assembler.unread limit = .ok frame) :
    ∃ session' session'', session.next = .ok (some (frame, session')) ∧
      Agree id b.buffers b { b with sessions := b.sessions.insert id session' } ∧
      Agree id b.buffers (b.handle session frame).2
        (handle { b with sessions := b.sessions.insert id session' } session' frame).2 ∧
      (handle { b with sessions := b.sessions.insert id session' } session' frame).2.sessions.get?
        id = some session'' ∧
      session''.Proper id limit ∧ session''.client = session.client ∧
      session''.assembler.unread = session.assembler.unread.drop frame.size := by
  obtain ⟨session', next, sound, rest, bodyLimit⟩ :=
    (Stream.Reader.session_refines limit).next_ok ⟨proper.sound, rfl, proper.bodyLimit⟩ read
  have next : session.next = .ok (some (frame, session')) := next
  obtain ⟨-, same⟩ := Peer.Session.next_eq_ok next
  have own : session'.id = id := same ▸ proper.id
  have client : session'.client = session.client := same ▸ rfl
  have outline : session'.outline = session.outline := by
    rw [same, Peer.Session.outline, Peer.Session.outline, bodyLimit, proper.bodyLimit]
  have alike : Agree id b.buffers b { b with sessions := b.sessions.insert id session' } :=
    ⟨_, rfl, .insert_right _ found outline⟩
  obtain ⟨session'', found'', reading⟩ := get?_handle
    (b := { b with sessions := b.sessions.insert id session' })
    ((Table.get?_insert _ _ _ _).trans (if_pos rfl)) session' frame
  exact ⟨session', session'', next, alike, (alike.handle proper.id own client frame).2, found'',
    reading.proper ⟨own, sound, bodyLimit⟩, reading.client.trans client,
    (congrArg Stream.Assembler.unread reading.assembler).trans rest⟩

/-- The frames that have arrived are handled in order up to the first that breaks the protocol,
which is reported. If nothing is, no complete frame is left. -/
theorem handleUpTo_spec {limit steps : Nat} (found : b.sessions.get? id = some session)
    (proper : session.Proper id limit) (enough : session.assembler.unread.length < steps) :
    (handleUpTo id steps b).1 = (Frame.offence? limit session.assembler.unread).elim (.ok ())
        (fun e => .error (.protocol e)) ∧
      Agree id b.buffers (b.handleEach session (Frame.flawless limit session.assembler.unread))
        (handleUpTo id steps b).2 ∧
      ((handleUpTo id steps b).1 = .ok () → (handleUpTo id steps b).2.nextFrame? id = none) := by
  induction steps generalizing b session with
  | zero => exact absurd enough (Nat.not_lt_zero _)
  | succ steps ih =>
      rw [handleUpTo, found]
      dsimp only
      cases read : Frame.decode session.assembler.unread limit with
      | error e =>
          obtain ⟨frames, offence⟩ := Frame.flawless_of_error read
          have stopped := next_of_error proper read
          rw [stopped, frames, offence]
          cases bad : e.isViolation with
          | true =>
              refine ⟨rfl, .refl id b, fun granted => ?_⟩
              cases granted
          | false =>
              refine ⟨rfl, .refl id b, fun _ => ?_⟩
              change b.nextFrame? id = none
              simp [nextFrame?, found, stopped, bad]
      | ok frame =>
          obtain ⟨session', session'', next, alike, left, found'', proper'', client, unread⟩ :=
            handle_next found proper read
          rw [next]
          dsimp only
          cases fault : frame.fault? with
          | some e =>
              obtain ⟨frames, offence⟩ := Frame.flawless_of_fault read fault
              rw [handle_of_fault session' fault, frames, offence]
              refine ⟨rfl, alike, fun granted => ?_⟩
              cases granted
          | none =>
              obtain ⟨frames, offence⟩ := Frame.flawless_of_ok read fault
              have judged := handle_of_fine (b := { b with
                sessions := b.sessions.insert id session' }) session' fault
              have fewer : session''.assembler.unread.length < steps := by
                have progress := frame.size_pos
                have whole := Frame.size_le_of_decode read
                rw [unread, List.length_drop]
                omega
              cases handled : Broker.handle { b with sessions := b.sessions.insert id session' }
                  session' frame with
              | mk result b' =>
                  rw [handled] at judged left found''
                  obtain rfl : result = .ok () := judged
                  obtain ⟨told, later, done⟩ := ih found'' proper'' fewer
                  rw [unread, left.buffers] at later
                  rw [unread] at told
                  rw [frames, offence]
                  refine ⟨told, ?_, done⟩
                  exact (left.handleEach proper.id proper''.id client _).trans later

/-- Bytes that arrive are handled together with those that were there. -/
theorem receive_spec {limit : Nat} (found : b.sessions.get? id = some session)
    (proper : session.Proper id limit) (data : Bytes) :
    (b.receive id data).1 = (Frame.offence? limit (session.assembler.unread ++ data)).elim (.ok ())
        (fun e => .error (.protocol e)) ∧
      Agree id (session.feed b.buffers data).2
        (b.handleEach session (Frame.flawless limit (session.assembler.unread ++ data)))
        (b.receive id data).2 ∧
      ((b.receive id data).1 = .ok () → (b.receive id data).2.nextFrame? id = none) := by
  obtain ⟨sound, appended⟩ := proper.sound.write b.buffers data
  have bodyLimit := session.assembler.bodyLimit_write b.buffers data
  have fed : (session.feed b.buffers data).1.Proper id limit :=
    ⟨proper.id, sound, bodyLimit.trans proper.bodyLimit⟩
  have outline : (session.feed b.buffers data).1.outline = session.outline := by
    rw [Peer.Session.outline, Peer.Session.outline, fed.bodyLimit, proper.bodyLimit]
    rfl
  have agree : Agree id (session.feed b.buffers data).2 b { b with
      buffers := (session.feed b.buffers data).2
      sessions := b.sessions.insert id (session.feed b.buffers data).1 } :=
    ⟨_, rfl, .insert_right _ found outline⟩
  have enough : (session.feed b.buffers data).1.assembler.unread.length <
      (session.feed b.buffers data).1.buffered + 1 :=
    Nat.lt_succ_of_le (Nat.le_of_eq sound.length_unread)
  obtain ⟨told, left, done⟩ := handleUpTo_spec (b := { b with
      buffers := (session.feed b.buffers data).2
      sessions := b.sessions.insert id (session.feed b.buffers data).1 })
    ((Table.get?_insert _ _ _ _).trans (if_pos rfl)) fed enough
  rw [show (session.feed b.buffers data).1.assembler.unread = _ from appended] at told left
  rw [receive, found]
  exact ⟨told, (agree.handleEach proper.id fed.id rfl _).trans left, done⟩

/-- A peer that breaks the protocol is told what it did, with the frames ahead of that handled and
nothing else done. As far as anybody else can see, no more than the bytes of these frames has
arrived. -/
theorem violation_stays_local {settings : Settings.Engine} {mint : Nat → CorrelationId}
    {calendar : Nat} {depot : Store.Depot} {start : Broker}
    (started : Broker.new? settings mint calendar depot = some start) (episodes : List Episode)
    {id : String} {data : Bytes} {e : Wire.Error} {b' : Broker}
    (broken : (start.through episodes).receive id data = (.error (.protocol e), b')) :
    let b := start.through episodes
    ∃ session, b.sessions.get? id = some session ∧
      let arrived := session.assembler.unread ++ data
      let frames := Frame.flawless settings.maxBodySize arrived
      (∃ rest, arrived = frames.flatMap Frame.encode ++ rest ∧
        Frame.Breaks settings.maxBodySize rest e) ∧
      Agree id (session.feed b.buffers data).2 (b.handleEach session frames) b' ∧
      ∀ (p : BufferPool) (b₀ : Broker) (session₀ : Peer.Session) (data₀ : Bytes), Agree id p b b₀ →
        b₀.sessions.get? id = some session₀ → session₀.assembler.Sound →
        session₀.assembler.unread ++ data₀ = frames.flatMap Frame.encode →
        (b₀.receive id data₀).1 = .ok () ∧
          Agree id (session₀.feed p data₀).2 b' (b₀.receive id data₀).2 := by
  intro b
  have regular : b.Regular := (Regular.start started).through episodes
  have limit : b.settings.maxBodySize = settings.maxBodySize := by
    obtain ⟨said, grows⟩ := start.grows_through episodes
    have begun : start.settings = settings := congrArg Front.settings (start_blank started).1
    rw [← begun]
    exact congrArg Settings.Engine.maxBodySize grows.settings
  cases found : b.sessions.get? id with
  | none =>
      rw [receive, found] at broken
      cases broken
  | some session =>
      have proper : session.Proper id settings.maxBodySize :=
        limit ▸ regular.proper id session found
      obtain ⟨told, left, -⟩ := receive_spec found proper data
      rw [broken] at told left
      refine ⟨session, rfl, ?_, left, ?_⟩
      · cases offence : Frame.offence? settings.maxBodySize (session.assembler.unread ++ data) with
        | none =>
            rw [offence] at told
            cases told
        | some e' =>
            rw [offence] at told
            cases told
            exact Frame.breaks_of_offence? offence
      · intro p b₀ session₀ data₀ agree found₀ sound bytes
        obtain ⟨session', found', same⟩ := agree.sessions.exists_of_get? found
        obtain rfl := Option.some.inj (found'.symm.trans found₀)
        simp only [Peer.Session.outline, Prod.mk.injEq] at same
        obtain ⟨own, client, -, bodyLimit⟩ := same
        have proper' : session'.Proper id settings.maxBodySize :=
          ⟨own.trans proper.id, sound, bodyLimit.trans proper.bodyLimit⟩
        obtain ⟨told', left', -⟩ := receive_spec found₀ proper' data₀
        obtain ⟨frames, fine⟩ := Frame.flawless_again settings.maxBodySize
          (session.assembler.unread ++ data)
        rw [bytes, fine] at told'
        rw [bytes, frames, agree.buffers] at left'
        have handled := agree.handleEach proper.id proper'.id client
          (Frame.flawless settings.maxBodySize (session.assembler.unread ++ data))
        exact ⟨told', (left.symm.trans handled).trans left'⟩

/-- A queue is declared. -/
def declaration : Frame :=
  (Body.declare "jobs" "work").frame (.ofNat 1)

/-- The declaration, and then a header without a length. -/
def garbled : Bytes :=
  declaration.encode ++ List.replicate headerSize 0

/-- The queue is declared although the peer breaks the protocol right after that. -/
theorem violation_stays_local_garbled :
    let b := sample.through [.stir (.move (.connect "c" .reliable))]
    ∃ session, b.sessions.get? "c" = some session ∧
      (b.receive "c" garbled).1 = .error (.protocol (.shortLength 0)) ∧
      Agree "c" (session.feed b.buffers garbled).2 (b.handleEach session [declaration])
        (b.receive "c" garbled).2 := by
  intro b
  have told : (b.receive "c" garbled).1 = .error (.protocol (.shortLength 0)) := rfl
  have broken : b.receive "c" garbled =
      (.error (.protocol (.shortLength 0)), (b.receive "c" garbled).2) := Prod.ext told rfl
  have frames : Frame.flawless defaultBodyLimit garbled = [declaration] := by
    have read : Frame.decode garbled defaultBodyLimit = .ok declaration :=
      Frame.decode_encode (by decide) (by decide) _
    have fine : declaration.fault? = none := by decide
    have stop : Frame.decode (List.replicate headerSize 0) defaultBodyLimit =
        .error (.shortLength 0) := by decide
    rw [(Frame.flawless_of_ok read fine).1, show garbled.drop declaration.size =
      List.replicate headerSize 0 from List.drop_left' declaration.length_encode,
      (Frame.flawless_of_error stop).1]
  have unread : ∀ session, b.sessions.get? "c" = some session → session.assembler.unread = [] := by
    intro session found
    obtain rfl := Option.some.inj found
    rfl
  obtain ⟨session, found, -, left, -⟩ := violation_stays_local new?_sample
    [.stir (.move (.connect "c" .reliable))] broken
  rw [unread session found] at left
  exact ⟨session, found, told, frames ▸ left⟩

end Broker

end MessageBroker
