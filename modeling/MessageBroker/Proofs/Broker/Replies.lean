import MessageBroker.Proofs.Broker.Exchanges
import MessageBroker.Proofs.Broker.Retirement

/-!
# Replies

All that a broker tries to write to a client, deliveries apart, is a greeting and then one frame for
each request of the client, in the order of the requests: an Ack under the id of the request if what
it asks for has come about, and a Nack otherwise. What happens on other connections, the answers of
the client to deliveries and frames that break the protocol add nothing to it.

At most one frame is tried to be written in an episode, and in which episodes that is was said
before. Here the frames to one client are picked out, episode by episode, and put side by side with
its requests. The Ack of a publication is all that is said in its episode, so that it comes ahead of
the deliveries of the message, which is in the store from then on and not before.
-/

namespace MessageBroker

namespace Intake

/-- The broker that a frame leaves. -/
def leaves (i : Intake) : Broker :=
  (i.broker.handle i.session i.frame).2

/-- Whether a frame asks for an answer. -/
def asks (i : Intake) : Bool :=
  match i.frame.purport with
  | .call => true
  | .request _ => true
  | _ => false

/-- What a frame asks for has come about. -/
def Done (i : Intake) : Prop :=
  match i.frame.purport with
  | .call => True
  | .request body => i.broker.Effect i.session.id i.frame.id body i.leaves
  | _ => False

/-- A reply to a frame: it carries the id of the frame, and says whether what the frame asks for has
come about. -/
def AnsweredBy (i : Intake) (reply : Wire.Frame) : Prop :=
  i.Done ∧ reply = .ack i.frame.id ∨
    ¬i.Done ∧ ∃ cause : RequestError, reply = .nack i.frame.id cause.message

end Intake

namespace Broker

open Wire Front

/-- What is said to a client, deliveries apart. -/
def repliesTo (c : Nat) (said : List (Nat × Frame)) : List Frame :=
  (said.filter fun entry => entry.1 = c ∧ entry.2.kind ≠ .message).map Prod.snd

theorem repliesTo_append (c : Nat) (said more : List (Nat × Frame)) :
    repliesTo c (said ++ more) = repliesTo c said ++ repliesTo c more := by
  rw [repliesTo, List.filter_append, List.map_append]
  rfl

variable {b : Broker} {id : String} {session : Peer.Session}

/-! ## What an answer says -/

/-- A reply changes nothing but the link that it is written to. -/
theorem kept_of_reply (b : Broker) (c : Nat) (id : CorrelationId)
    (result : Except RequestError Unit) :
    (b.reply c id result).lanes = b.lanes ∧ (b.reply c id result).sessions = b.sessions ∧
      (b.reply c id result).depot = b.depot := by
  have written : ∀ frame, (b.write c frame).2.lanes = b.lanes ∧
      (b.write c frame).2.sessions = b.sessions ∧ (b.write c frame).2.depot = b.depot := by
    intro frame
    unfold write
    split
    · exact ⟨rfl, rfl, rfl⟩
    · dsimp only
      split <;> exact ⟨rfl, rfl, rfl⟩
  cases result <;> exact written _

/-- A request is granted just if the frame that makes it has done what it asks for. -/
theorem granted_iff_done (regular : b.Regular) (session : Peer.Session) {frame : Frame}
    {body : Body} (asked : frame.purport = .request body) :
    (b.request session.id frame.id body).1 = .ok () ↔ Intake.Done ⟨b, session, frame⟩ := by
  obtain ⟨lanes, sessions, depot⟩ := kept_of_reply (b.request session.id frame.id body).2
    session.client frame.id (b.request session.id frame.id body).1
  have left : Intake.leaves ⟨b, session, frame⟩ =
      (b.request session.id frame.id body).2.reply session.client frame.id
        (b.request session.id frame.id body).1 := by
    simp only [Intake.leaves, handle_eq, asked]
  rw [Intake.Done]
  simp only [asked]
  rw [left, Effect.congr lanes sessions depot]
  exact granted_iff_effect regular frame.id body

/-- A frame that asks for an answer is answered, and rightly; the others are not answered. -/
theorem answer?_spec (regular : b.Regular) (session : Peer.Session) (frame : Frame) :
    (Intake.asks ⟨b, session, frame⟩ = false ∧ b.answer? session frame = none) ∨
      Intake.asks ⟨b, session, frame⟩ = true ∧ ∃ reply, b.answer? session frame = some reply ∧
        Intake.AnsweredBy ⟨b, session, frame⟩ reply := by
  cases purport : frame.purport with
  | answer outcome => exact .inl (by simp only [Intake.asks, answer?, purport, and_self])
  | offence e => exact .inl (by simp only [Intake.asks, answer?, purport, and_self])
  | call =>
      refine .inr ⟨by simp only [Intake.asks, purport], .ack frame.id, ?_, ?_⟩
      · simp only [answer?, purport]
      · exact .inl ⟨by simp only [Intake.Done, purport], rfl⟩
  | request body =>
      refine .inr ⟨by simp only [Intake.asks, purport],
        verdict frame.id (b.request session.id frame.id body).1, ?_, ?_⟩
      · simp only [answer?, purport]
      · have done := granted_iff_done regular session purport
        cases result : (b.request session.id frame.id body).1 with
        | ok granted => exact .inl ⟨done.1 result, rfl⟩
        | error cause =>
            refine .inr ⟨fun did => ?_, cause, rfl⟩
            cases (done.2 did).symm.trans result

theorem kind_of_answeredBy {i : Intake} {reply : Frame} (answered : i.AnsweredBy reply) :
    reply.kind ≠ .message ∧ reply.kind ≠ .ready := by
  rcases answered with ⟨-, rfl⟩ | ⟨-, cause, rfl⟩ <;> exact ⟨nofun, nofun⟩

/-! ## One episode -/

/-- The frame that is taken in an episode comes from a client that there is, and is answered to this
client. -/
theorem utters_of_intake (regular : b.Regular) {e : Episode} {i : Intake}
    (taken : b.intake? e = some i) :
    i.session.client < b.clients.length ∧
      ((i.asks = false ∧ b.utters e = []) ∨ i.asks = true ∧ ∃ reply,
        b.utters e = [(i.session.client, reply)] ∧ i.AnsweredBy reply) := by
  unfold intake? at taken
  split at taken
  · rename_i id
    obtain ⟨⟨session, frame⟩, next, rfl⟩ := Option.map_eq_some_iff.1 taken
    obtain ⟨before, found, -, same⟩ := nextFrame?_spec next
    have known : session.client < b.clients.length := by
      rw [show session.client = before.client from same ▸ rfl]
      exact lt_of_seat regular (Desk.seat?_of_get? (d := b.desk) found)
    refine ⟨known, ?_⟩
    have read := regular.reading (.stir (.move (.frame id)))
    simp only [utters, next]
    rcases answer?_spec read session frame with ⟨silent, nothing⟩ | ⟨asks, reply, said, answered⟩
    · rw [nothing]
      exact .inl ⟨silent, rfl⟩
    · rw [said]
      exact .inr ⟨asks, reply, if_pos known, answered⟩
  · cases taken

/-- An episode in which no frame is taken utters nothing, or a delivery to a client that there is,
or the greeting of a new one. -/
theorem utters_of_no_intake {e : Episode} (none' : b.intake? e = none) :
    b.utters e = [] ∨ (∃ c frame, b.utters e = [(c, frame)] ∧ c < b.clients.length ∧
      frame.kind = .message) ∨ ∃ greeting, b.utters e = [(b.clients.length, .ready greeting)] := by
  unfold utters
  split
  · split
    · exact .inl rfl
    · exact .inr (.inr ⟨_, rfl⟩)
  · rename_i id
    simp only [intake?, Option.map_eq_none_iff] at none'
    rw [none']
    exact .inl rfl
  · split
    · rename_i d rest line
      rw [toward]
      split
      · rename_i known
        exact .inr (.inl ⟨_, _, rfl, known, rfl⟩)
      · exact .inl rfl
    · exact .inl rfl
  · exact .inl rfl

/-- A client that there is gets an answer to its frame if it asks for one, and nothing else. -/
theorem answered_live (regular : b.Regular) (e : Episode) {c : Nat} (known : c < b.clients.length) :
    List.Forall₂ Intake.AnsweredBy ((b.takenFrom c e).filter Intake.asks)
      (repliesTo c (b.utters e)) := by
  rw [takenFrom]
  cases taken : b.intake? e with
  | none =>
      rcases utters_of_no_intake taken with said | ⟨c', frame, said, -, delivery⟩ | ⟨greeting, said⟩
      · rw [said]
        exact .nil
      · rw [said]
        simp [repliesTo, delivery]
      · rw [said]
        simp [repliesTo, Nat.ne_of_gt known]
  | some i =>
      obtain ⟨-, ⟨silent, said⟩ | ⟨asks, reply, said, answered⟩⟩ := utters_of_intake regular taken
      · rw [said]
        by_cases own : i.session.client = c <;> simp [own, silent, repliesTo]
      · rw [said]
        have kind := (kind_of_answeredBy answered).1
        by_cases own : i.session.client = c <;> simp [own, asks, repliesTo, kind, answered]

/-- To a client that there is not yet nothing is said, but for its greeting. -/
theorem greeted_live (regular : b.Regular) (e : Episode) {c : Nat} (new : b.clients.length ≤ c) :
    b.takenFrom c e = [] ∧
      (repliesTo c (b.utters e) = [] ∧ (b.live e).clients.length ≤ c ∨
        ∃ greeting, repliesTo c (b.utters e) = [.ready greeting] ∧
          c < (b.live e).clients.length) := by
  have nobody : ∀ id, b.desk.seat? id ≠ some c := fun id seated =>
    absurd (lt_of_seat regular seated) (Nat.not_lt.2 new)
  have seats : (b.live e).clients.length = b.clients.length + (b.utters e).countP isGreeting :=
    (b.grows_live e).seats
  refine ⟨(reading_of_unseated nobody e).2, ?_⟩
  have other : ∀ {c' : Nat} {frame : Frame}, b.utters e = [(c', frame)] → c' < b.clients.length →
      frame.kind ≠ .ready → repliesTo c (b.utters e) = [] ∧ (b.live e).clients.length ≤ c := by
    intro c' frame said known kind
    rw [seats, said]
    simp [repliesTo, isGreeting, kind, new]
    omega
  cases taken : b.intake? e with
  | none =>
      rcases utters_of_no_intake taken with
        said | ⟨c', frame, said, known, delivery⟩ | ⟨greeting, said⟩
      · rw [seats, said]
        exact .inl ⟨rfl, new⟩
      · exact .inl (other said known (by simp [delivery]))
      · have kind : (Frame.ready greeting).kind = .ready := rfl
        rw [seats, said]
        by_cases own : c = b.clients.length
        · subst own
          exact .inr ⟨greeting, by simp [repliesTo, kind], by simp [isGreeting, kind]⟩
        · refine .inl ⟨by simp [repliesTo, Ne.symm own], ?_⟩
          simp [isGreeting, kind]
          omega
  | some i =>
      obtain ⟨known, ⟨-, said⟩ | ⟨-, reply, said, answered⟩⟩ := utters_of_intake regular taken
      · rw [seats, said]
        exact .inl ⟨rfl, new⟩
      · exact .inl (other said known (kind_of_answeredBy answered).2)

/-! ## Lives -/

/-- Whatever happens, a client that there is has been greeted, and then each of its frames that asks
for an answer was answered; to the others nothing was said. -/
theorem replies_through {start : Broker} (regular : start.Regular) (nobody : start.clients = [])
    (silent : start.front.attempts = []) (episodes : List Episode) (c : Nat) :
    (c < (start.through episodes).clients.length → ∃ greeting replies,
      repliesTo c (start.through episodes).front.attempts = .ready greeting :: replies ∧
        List.Forall₂ Intake.AnsweredBy ((start.taken episodes c).filter Intake.asks) replies) ∧
    ((start.through episodes).clients.length ≤ c →
      repliesTo c (start.through episodes).front.attempts = []) := by
  induction episodes using List.reverseRecOn with
  | nil =>
      rw [show start.through [] = start from rfl, nobody, silent]
      exact ⟨fun known => absurd known (Nat.not_lt_zero c), fun _ => rfl⟩
  | append_singleton episodes e ih =>
      obtain ⟨greeted, fresh⟩ := ih
      have regular' := regular.through episodes
      rw [through_append_singleton, taken_append, ((start.through episodes).grows_live e).attempts,
        repliesTo_append]
      by_cases known : c < (start.through episodes).clients.length
      · obtain ⟨greeting, replies, said, answered⟩ := greeted known
        have grown := length_clients_le (start.through episodes) e
        refine ⟨fun _ => ?_, fun new => absurd known (Nat.not_lt.2 (grown.trans new))⟩
        refine ⟨greeting, replies ++ repliesTo c ((start.through episodes).utters e), ?_, ?_⟩
        · rw [said, List.cons_append]
        · rw [List.filter_append]
          exact List.rel_append answered (answered_live regular' e known)
      · have new := Nat.not_lt.1 known
        obtain ⟨untaken, ⟨unsaid, still⟩ | ⟨greeting, said, known'⟩⟩ := greeted_live regular' e new
        · rw [fresh new, unsaid]
          exact ⟨fun known' => absurd known' (Nat.not_lt.2 still), fun _ => rfl⟩
        · rw [fresh new, said, (nothing_from_new regular episodes new).2, untaken]
          exact ⟨fun _ => ⟨greeting, [], rfl, .nil⟩,
            fun still => absurd known' (Nat.not_lt.2 still)⟩

/-! ## Deliveries -/

/-- In an episode a delivery of a message under an id is tried to be written. -/
def delivers (b : Broker) (e : Episode) (id : CorrelationId) : Prop :=
  ∃ d rest, e = .stir (.move .task) ∧ b.tasks = .send d :: rest ∧ d.message = id

/-- At some time in a life the store has had a message under an id. -/
def hasHeld (start : Broker) (episodes : List Episode) (id : CorrelationId) : Prop :=
  ∃ first, first <+: episodes ∧ ∃ m, (start.through first).depot.messages.get? id = some m

/-- A delivery that is going to be written is of a message that is stored when it is taken up. -/
theorem sends_live (b : Broker) (e : Episode) : ∀ x ∈ (b.live e).desk.sends,
    x ∈ b.desk.sends ∨ ∃ stored, b.depot.messages.get? x.message = some stored := by
  intro x listed
  have same : (b.live e).desk.sends = b.desk.sends → x ∈ b.desk.sends := fun kept => kept ▸ listed
  cases e with
  | store depot => exact .inl listed
  | shutDown => exact .inl (same (congrArg Reserve.sends b.reserve_shutDown))
  | stir s =>
      cases s with
      | holdUp holdsUp =>
          left
          cases holdsUp with
          | true => exact listed
          | false =>
              have others : (b.heldUp.map Task.resume).filterMap Task.delivery? = [] := by
                simp [List.filterMap_map, Task.delivery?]
              simpa [live, stir, setHoldUp, desk, others] using listed
      | letGo n =>
          left
          rw [live, stir] at listed
          split at listed
          · exact listed
          · rw [desk_resumePublish] at listed
            exact listed
      | move m =>
          rcases b.reserve_apply m with kept | took | ⟨-, task, rest, line, performed⟩
          · exact .inl (same (congrArg Reserve.sends kept))
          · exact .inl (same (congrArg Reserve.sends took))
          · have sends := congrArg Desk.sends (desk_pop line)
            have earlier : x ∈ (Broker.desk { b with tasks := rest }).sends → x ∈ b.desk.sends :=
              fun waits => sends ▸ List.mem_append_right _ waits
            have listed : x ∈ (perform { b with tasks := rest } task).reserve.sends :=
              performed ▸ listed
            rcases reserve_perform { b with tasks := rest } task with
              kept | ⟨y, -, stored, took⟩ | ⟨p, -, held⟩
            · rw [kept] at listed
              exact .inl (earlier listed)
            · rw [took] at listed
              rcases List.mem_append.1 listed with before | new
              · exact .inl (earlier before)
              · rw [List.mem_singleton.1 new]
                exact .inr stored
            · rw [held] at listed
              exact .inl (earlier listed)

theorem hasHeld_of_prefix {start : Broker} {episodes more : List Episode} {id : CorrelationId}
    (held : start.hasHeld episodes id) (before : episodes <+: more) : start.hasHeld more id := by
  obtain ⟨first, early, stored⟩ := held
  exact ⟨first, early.trans before, stored⟩

/-- What is delivered has been in the store. -/
theorem hasHeld_of_send {start : Broker} (idle : start.desk.sends = []) (episodes : List Episode)
    {x : Delivery} (listed : x ∈ (start.through episodes).desk.sends) :
    start.hasHeld episodes x.message := by
  induction episodes using List.reverseRecOn with
  | nil => exact absurd listed (idle ▸ List.not_mem_nil)
  | append_singleton episodes e ih =>
      have within : episodes <+: episodes ++ [e] := List.prefix_append _ _
      rw [through_append_singleton] at listed
      rcases (start.through episodes).sends_live e x listed with before | stored
      · exact hasHeld_of_prefix (ih before) within
      · exact ⟨episodes, within, stored⟩

/-- The Ack of a publication is all that is said in its episode. Its message was not stored until
then, and whenever a delivery under its id is tried to be written, the Ack has been said, or the
publication is still to come and the delivery is of another message, which was stored before. -/
structure AckedFirst (start : Broker) (past : List Episode) (e : Episode) (future : List Episode)
    (i : Intake) : Prop where
  said : (start.through (past ++ [e])).front.attempts =
    (start.through past).front.attempts ++ [(i.session.client, .ack i.frame.id)]
  new : (start.through past).depot.messages.get? i.frame.id = none
  first : ∀ soFar e' rest, past ++ e :: future = soFar ++ e' :: rest →
    (start.through soFar).delivers e' i.frame.id →
    (start.through (past ++ [e])).front.attempts <+: (start.through soFar).front.attempts ∨
      soFar <+: past ∧ start.hasHeld soFar i.frame.id

theorem depot_reading (b : Broker) (e : Episode) : (b.reading e).depot = b.depot := by
  rcases b.reading_cases e with same | ⟨_, _, _, _, -, same⟩ <;> rw [same]

theorem broker_of_intake {e : Episode} {i : Intake} (taken : b.intake? e = some i) :
    i.broker = b.reading e ∧ e ≠ .stir (.move .task) := by
  unfold intake? at taken
  split at taken
  · obtain ⟨entry, -, rfl⟩ := Option.map_eq_some_iff.1 taken
    exact ⟨rfl, nofun⟩
  · cases taken

/-- A publication that has done what it asks for is acknowledged before its message is delivered. -/
theorem ackedFirst {start : Broker} (regular : start.Regular) (idle : start.desk.sends = [])
    (past : List Episode) (e : Episode) (future : List Episode) {i : Intake} {route : String}
    {payload : Bytes} (taken : (start.through past).intake? e = some i)
    (publishes : i.frame.purport = .request (.message route payload)) (done : i.Done) :
    AckedFirst start past e future i := by
  obtain ⟨here, other⟩ := broker_of_intake taken
  refine ⟨?_, ?_, ?_⟩
  · obtain ⟨-, ⟨silent, -⟩ | ⟨-, reply, said, answered⟩⟩ :=
      utters_of_intake (regular.through past) taken
    · simp [Intake.asks, publishes] at silent
    · rcases answered with ⟨-, rfl⟩ | ⟨undone, -⟩
      · rw [through_append_singleton, ((start.through past).grows_live e).attempts, said]
      · exact absurd done undone
  · simp only [Intake.Done, publishes, Effect] at done
    rw [← depot_reading _ e, ← here]
    exact done.2.1
  · rintro soFar e' rest whole ⟨d, line, delivery, tasks, about⟩
    rcases List.append_eq_append_iff.1 whole with ⟨since, later, same⟩ | ⟨since, earlier, same⟩
    · cases since with
      | nil => exact absurd ((List.cons.inj same).1.trans delivery) other
      | cons e'' since =>
          obtain ⟨rfl, -⟩ := List.cons.inj same
          obtain ⟨said, grows⟩ := grows_through (start.through (past ++ [e])) since
          rw [← through_append, List.append_assoc, List.singleton_append, ← later] at grows
          exact .inl ⟨said, grows.attempts.symm⟩
    · refine .inr ⟨⟨since, earlier.symm⟩, about ▸ hasHeld_of_send idle soFar ?_⟩
      rw [desk, tasks]
      exact List.mem_cons_self

/-- While the store works, a queue has nothing to settle under an id that is not stored. -/
theorem not_owed_of_missing {settings : Settings.Engine} {mint : Nat → CorrelationId}
    {calendar : Nat} {messages : Store.Messages} {start : Broker}
    (started : Broker.new? settings mint calendar (.holding messages) = some start)
    (stirs : List Stir) {id : CorrelationId}
    (missing : (start.stirred stirs).depot.messages.get? id = none) (k : Nat) :
    ¬(start.stirred stirs).owes k id := by
  intro owed
  have balanced := (steady_stirred started stirs).1.balanced
  have some' : tally id ((start.stirred stirs).books.stakes + 0) ≠ 0 := by
    rw [add_zero]
    exact tally_pos.2 ⟨(k, id), owes_iff.1 owed, rfl⟩
  obtain ⟨m, stored⟩ := balanced.stored id some'
  exact absurd (missing.symm.trans stored) nofun

/-- What a broker and a client have said to each other, deliveries apart: its frames are taken in
the order in which they arrive, it is greeted, and then each frame that asks for an answer has one,
in the same order. -/
structure Conversation (start : Broker) (episodes : List Episode) (c : Nat) : Prop where
  arrival : InOrderOfArrival start episodes c
  replies : ∃ greeting replies,
    repliesTo c (start.through episodes).front.attempts = .ready greeting :: replies ∧
      List.Forall₂ Intake.AnsweredBy ((start.taken episodes c).filter Intake.asks) replies

/-- Whatever happens, a client is greeted and has one reply to each of its requests, in the order of
the requests. A call that brings bytes takes all frames that are complete, unless one breaks the
protocol. And a publication is acknowledged before its message is delivered: when the Ack is said,
no queue has anything to settle under the id, if the store has worked all the time. -/
theorem one_reply_per_request {settings : Settings.Engine} {mint : Nat → CorrelationId}
    {calendar : Nat} {depot : Store.Depot} {start : Broker}
    (started : Broker.new? settings mint calendar depot = some start) (episodes : List Episode) :
    (∀ c < (start.through episodes).clients.length, Conversation start episodes c) ∧
    (∀ id data, ∃ n,
      (start.through episodes).through
          (.stir (.move (.feed id data)) :: List.replicate n (.stir (.move (.frame id)))) =
        ((start.through episodes).receive id data).2 ∧
      (((start.through episodes).receive id data).1 = .ok () →
        ((start.through episodes).receive id data).2.nextFrame? id = none)) ∧
    ∀ past e future i route payload, episodes = past ++ e :: future →
      (start.through past).intake? e = some i →
      i.frame.purport = .request (.message route payload) → i.Done →
      AckedFirst start past e future i ∧
        ∀ messages (stirs : List Stir), depot = .holding messages → past = stirs.map Episode.stir →
          ∀ k, ¬(start.through past).owes k i.frame.id := by
  obtain ⟨front, -⟩ := start_blank started
  have regular := Regular.start started
  have idle : start.desk.sends = [] ∧ start.sessions = .empty := by
    unfold new? at started
    split at started
    · obtain ⟨buffers, -, rfl⟩ := Option.map_eq_some_iff.1 started
      exact ⟨rfl, rfl⟩
    · cases started
  have nobody : start.clients = [] := List.length_eq_zero_iff.1 (congrArg Front.seats front)
  refine ⟨?_, fun id data => receive_through (regular.through episodes) id data, ?_⟩
  · intro c known
    have arrival := inOrderOfArrival regular (fun id => by rw [idle.2]; rfl) episodes c
    have silent : start.front.attempts = [] := congrArg Front.attempts front
    exact ⟨arrival, (replies_through regular nobody silent episodes c).1 known⟩
  · intro past e future i route payload _ taken publishes done
    have first := ackedFirst regular idle.1 past e future taken publishes done
    refine ⟨first, ?_⟩
    rintro messages stirs rfl rfl
    have missing := first.new
    rw [through_stirs] at missing ⊢
    exact not_owed_of_missing started stirs missing

/-- A publication for a queue that its publisher listens to. -/
def ownNews : Frame :=
  (Body.message "work" [7]).frame (.ofNat 1)

/-- The publisher has subscribed, and the publication has arrived. -/
def beforeNews : List Episode :=
  [.stir (.move (.connect "c" .reliable)), .stir (.move (.declare "jobs" "work")),
    .stir (.move (.subscribe "c" "jobs" none)), .stir (.move (.feed "c" ownNews.encode))]

/-- The worker of the queue makes a delivery, and the delivery is written. -/
def afterNews : List Episode :=
  [.stir (.move .task), .stir (.move .task), .stir (.move .task)]

/-- A publisher that gets its own message is told first that it was accepted. -/
theorem one_reply_per_request_own :
    let publishes : Episode := .stir (.move (.frame "c"))
    let episodes := beforeNews ++ publishes :: afterNews
    (sample.through episodes).front.attempts.map (fun said => (said.1, said.2.kind)) =
      [(0, .ready), (0, .ack), (0, .message)] ∧
    Conversation sample episodes 0 ∧
    ∃ i, (sample.through beforeNews).intake? publishes = some i ∧ i.frame = ownNews ∧
      AckedFirst sample beforeNews publishes afterNews i ∧
      ∀ k, ¬(sample.through beforeNews).owes k ownNews.id := by
  intro publishes episodes
  have comes : ((sample.through beforeNews).intake? (.stir (.move (.frame "c")))).map (fun i =>
      (i.frame, (i.broker.request i.session.id i.frame.id (.message "work" [7])).1)) =
        some (ownNews, .ok ()) := by rfl
  obtain ⟨i, taken, same⟩ := Option.map_eq_some_iff.1 comes
  obtain ⟨news, granted⟩ := Prod.mk.inj same
  have asks : i.frame.purport = .request (.message "work" [7]) := by
    rw [news]
    decide
  have regular := (Regular.start new?_sample).through beforeNews
  have done : i.Done :=
    (granted_iff_done ((broker_of_intake taken).1 ▸ regular.reading publishes) i.session asks).1
      granted
  obtain ⟨conversations, -, firsts⟩ := one_reply_per_request new?_sample episodes
  obtain ⟨first, unowed⟩ := firsts beforeNews publishes afterNews i "work" [7] rfl taken asks done
  refine ⟨rfl, conversations 0 (by decide), i, taken, news, first, ?_⟩
  rw [← news]
  exact unowed .empty [.move (.connect "c" .reliable), .move (.declare "jobs" "work"),
    .move (.subscribe "c" "jobs" none), .move (.feed "c" ownNews.encode)] rfl rfl

end Broker

end MessageBroker
