import MessageBroker.Proofs.Broker.Lives
import MessageBroker.Proofs.Broker.Provenance
import MessageBroker.Proofs.Broker.Turnover
import MessageBroker.Proofs.Wire.Sizes

/-!
# The origins of deliveries

Whatever becomes of a broker and of its store, the content of a delivery is that of a message that
was in the store from the beginning, that came with another store, or that has arrived. A message
that arrived with a frame of a connection was read from a body within the limit of bodies. A delivery
is written as a map of named fields, whatever the form in which the message came, so it may be longer
than the body of that frame, and then also longer than the limit; but only a little.
-/

namespace MessageBroker

namespace Broker

open Wire

variable {start : Broker} {life : List Episode} {p : Store.Message} {f : Frame}

/-! ## Where messages come from -/

/-- Where a message comes from that a broker has had in its store. -/
inductive Origin (start : Broker) (life : List Episode) (p : Store.Message) : Prop where
  /-- The broker began with it. -/
  | stored {id : CorrelationId} (held : start.depot.messages.get? id = some p)
  /-- The store became another, which had it. -/
  | replaced {early late : List Episode} {depot : Store.Depot} {id : CorrelationId}
      (divided : life = early ++ .store depot :: late) (held : depot.messages.get? id = some p)
  /-- It arrived. -/
  | arrived {early late : List Episode} {e : Episode} (divided : life = early ++ e :: late)
      (arrives : (start.through early).arrival? e = some p)

theorem Origin.extend (origin : Origin start life p) (more : List Episode) :
    Origin start (life ++ more) p := by
  cases origin with
  | stored held => exact .stored held
  | replaced divided held =>
      exact .replaced (by rw [divided, List.append_assoc, List.cons_append]) held
  | arrived divided arrives =>
      exact .arrived (by rw [divided, List.append_assoc, List.cons_append]) arrives

/-- Whatever is stored has come from somewhere. -/
theorem origin_of_stored {id : CorrelationId}
    (stored : (start.through life).depot.messages.get? id = some p) : Origin start life p := by
  induction life using List.reverseRecOn generalizing id with
  | nil => exact .stored stored
  | append_singleton life e ih =>
      rw [through_concat] at stored
      by_cases other : ∃ depot, e = .store depot
      · obtain ⟨depot, rfl⟩ := other
        exact .replaced rfl stored
      · have turnover := (start.through life).turnover_live fun depot same => other ⟨depot, same⟩
        rcases turnover.traced stored with before | arrives
        · exact (ih before).extend [e]
        · exact .arrived rfl arrives

variable {settings : Settings.Engine} {mint : Nat → CorrelationId} {calendar : Nat}
  {depot : Store.Depot}

/-- A delivery has the content of a message that was stored under the id that it is for. -/
inductive Carries (start : Broker) (life : List Episode) (d : Delivery) (p : Store.Message) :
    Prop where
  | intro {early late : List Episode} (divided : life = early ++ late)
      (fetched : (start.through early).depot.messages.get? d.message = some p)
      (route : d.route = p.route) (payload : d.payload = p.payload)

namespace Carries

variable {d : Delivery}

theorem origin (carries : Carries start life d p) : Origin start life p := by
  obtain ⟨rfl, fetched, -, -⟩ := carries
  exact (origin_of_stored fetched).extend _

theorem frame_eq (carries : Carries start life d p) :
    d.frame = Frame.message d.id p.route p.payload := by
  obtain ⟨-, -, route, payload⟩ := carries
  rw [Delivery.frame, route, payload]

theorem extend (carries : Carries start life d p) (more : List Episode) :
    Carries start (life ++ more) d p := by
  obtain ⟨divided, fetched, route, payload⟩ := carries
  exact .intro (by rw [divided, List.append_assoc]) fetched route payload

end Carries

/-- Whatever is going to be written has the content of a message that was stored. -/
theorem carries_of_sends (started : Broker.new? settings mint calendar depot = some start)
    {d : Delivery} (listed : d ∈ (start.through life).desk.sends) : ∃ p, Carries start life d p := by
  induction life using List.reverseRecOn with
  | nil =>
      unfold new? at started
      split at started
      · obtain ⟨buffers, -, rfl⟩ := Option.map_eq_some_iff.1 started
        cases listed
      · cases started
  | append_singleton life e ih =>
      rw [through_concat] at listed
      rcases sends_of_live listed with queued | ⟨-, -, p, fetched, route, payload⟩
      · obtain ⟨p, carries⟩ := ih queued
        exact ⟨p, carries.extend [e]⟩
      · exact ⟨p, .intro rfl fetched route payload⟩

/-! ## Messages that arrive with frames -/

/-- A frame of a connection is handled, and the message arrives with it. -/
inductive CameWith (start : Broker) (life : List Episode) (f : Frame) (p : Store.Message) :
    Prop where
  | intro {early late : List Episode} {connection : String} {session : Peer.Session}
      (divided : life = early ++ .stir (.move (.frame connection)) :: late)
      (next : (start.through early).nextFrame? connection = some (session, f))
      (arrives : (start.through early).arrival? (.stir (.move (.frame connection))) = some p)

namespace CameWith

/-- The message is what the body of the frame says. -/
theorem decode? (came : CameWith start life f p) :
    Body.decode? .message f.body = some (.message p.route p.payload) := by
  obtain ⟨-, next, arrives⟩ := came
  simp only [arrival?, goesOn?, publication?, next, Option.bind_some] at arrives
  obtain ⟨body, asked, published⟩ := Option.bind_eq_some_iff.1 arrives
  cases body with
  | message route payload =>
      cases published
      rw [Frame.request?] at asked
      split at asked
      · cases asked
      · cases asked
      · cases asked
      · rw [Body.toOption_bodyAs] at asked
        have shape := Body.shape_of_decode? asked
        rwa [← shape] at asked
  | _ => cases published

/-- The body is within the limit. -/
theorem length_le (started : Broker.new? settings mint calendar depot = some start)
    (came : CameWith start life f p) : f.body.length ≤ settings.maxBodySize := by
  obtain @⟨early, late, connection, session, -, next, -⟩ := came
  obtain ⟨before, found, taken, -⟩ := nextFrame?_spec next
  have regular : (start.through early).Regular := (Regular.start started).through early
  have proper := regular.proper connection before found
  obtain ⟨-, -, read, -⟩ := proper.sound.taken taken
  obtain ⟨-, allowed, -⟩ := Frame.encode_of_decode read
  rwa [proper.bodyLimit, settings_through started early] at allowed

end CameWith

/-- A delivery has the content of a message that was stored under the id that it is for, and that has
come from somewhere. If that message, or any other with the same content, came with a frame of a
connection then the delivery has a body that is at most fifteen bytes longer than that of the frame,
which was within the limit; and no longer than it, if the body of the frame spelled the message out.
Written to the wire, the delivery is read under every limit that allows its body. -/
theorem deliveries_little_longer
    (started : Broker.new? settings mint calendar depot = some start) {e : Episode} {c : Nat}
    {frame : Frame} (said : (c, frame) ∈ (start.through life).utters e)
    (kind : frame.kind = .message) :
    ∃ d p, frame = Frame.message d.id p.route p.payload ∧ Carries start life d p ∧
      Origin start life p ∧
      (∀ f q, CameWith start life f q → q.route = p.route → q.payload = p.payload →
        f.body.length ≤ settings.maxBodySize ∧ frame.body.length ≤ f.body.length + 15 ∧
        (Body.SpellsOut f.body → frame.body.length ≤ f.body.length)) ∧
      (countedHeader + frame.body.length < lengthBound →
        ∃ whole, frame.encode? = .ok whole ∧ ∀ rest limit, frame.body.length ≤ limit →
          Frame.decode (whole ++ rest) limit = .ok frame) := by
  obtain ⟨-, d, first, -, rfl⟩ := sends_of_utters said kind
  have queued : d ∈ (start.through life).desk.sends := mem_sends.2 (List.mem_of_mem_head? first)
  obtain ⟨p, carries⟩ := carries_of_sends started queued
  refine ⟨d, p, carries.frame_eq, carries, carries.origin, fun f q came route payload =>
    ⟨came.length_le started, ?_, ?_⟩, fun counted => ?_⟩
  · rw [carries.frame_eq, ← route, ← payload]
    exact Body.length_encode_le came.decode?
  · rw [carries.frame_eq, ← route, ← payload]
    exact Body.length_encode_le_of_spellsOut came.decode?
  · refine ⟨d.frame.encode, Frame.encode?_eq_ok.2 ⟨counted, rfl⟩, fun rest limit allowed => ?_⟩
    exact Frame.decode_encode counted allowed rest

/-- A broker that accepts bodies of at most ten bytes. -/
def tight : Broker :=
  (Broker.new? { maxBodySize := 10 } CorrelationId.fresh 0 (.holding .empty)).get rfl

theorem new?_tight :
    Broker.new? { maxBodySize := 10 } CorrelationId.fresh 0 (.holding .empty) = some tight :=
  rfl

/-- A message in ten bytes: an array of the route and of the payload as a text. -/
def terse : Frame :=
  ⟨.message, .ofNat 1, [0x92, 0xa6, 0x6f, 0x72, 0x64, 0x65, 0x72, 0x73, 0xa1, 0x07]⟩

/-- The message comes from a connection that has subscribed, up to the task that writes its
delivery. -/
def relaying : List Episode :=
  [.stir (.move (.declare "orders" "orders")), .stir (.move (.connect "peer" .reliable)),
    .stir (.move (.subscribe "peer" "orders" none)), .stir (.move (.feed "peer" terse.encode)),
    .stir (.move (.frame "peer")), .stir (.move .task), .stir (.move .task)]

/-- The message that comes with it. -/
def relayed : Store.Message :=
  ⟨.ofNat 1, "orders", [7], some "peer", 0⟩

theorem cameWith_relayed : CameWith tight relaying terse relayed := by
  have next : ((tight.through (relaying.take 4)).nextFrame? "peer").map Prod.snd = some terse := by
    decide
  obtain ⟨⟨session, f⟩, next, rfl⟩ := Option.map_eq_some_iff.1 next
  have divided : relaying =
      relaying.take 4 ++ .stir (.move (.frame "peer")) :: relaying.drop 5 := rfl
  exact .intro divided next (by decide)

/-- It is the only message that there is. -/
theorem eq_relayed {p : Store.Message} (origin : Origin tight relaying p) : p = relayed := by
  cases origin with
  | stored held => cases held
  | replaced divided held =>
      have spares : ∀ e ∈ relaying, e.sparesStore = true := by decide
      have spared := spares _ (divided ▸ List.mem_append_right _ List.mem_cons_self)
      cases spared
  | @arrived early late e divided arrives =>
      have arrivals : ∀ n < relaying.length, (relaying[n]?.bind fun e =>
          (tight.through (relaying.take n)).arrival? e) = if n = 4 then some relayed else none := by
        decide
      have here := arrivals early.length (by rw [divided, List.length_append]; simp)
      rw [divided, List.getElem?_append_right (Nat.le_refl _), Nat.sub_self, List.take_left] at here
      rw [List.getElem?_cons_zero, Option.bind_some, arrives] at here
      split at here
      · exact Option.some.inj here
      · cases here

/-- It is accepted, and its delivery is written with a body of no more than twenty-five bytes. -/
theorem deliveries_little_longer_tight :
    CameWith tight relaying terse relayed ∧ terse.body.length = 10 ∧
      (Frame.message (.fresh 1) "orders" [7]).body.length ≤ 25 := by
  have said : (0, Frame.message (.fresh 1) "orders" [7]) ∈
      (tight.through relaying).utters (.stir (.move .task)) := by decide
  obtain ⟨d, p, -, -, origin, bounds, -⟩ := deliveries_little_longer new?_tight said rfl
  obtain rfl := eq_relayed origin
  exact ⟨cameWith_relayed, rfl, (bounds terse relayed cameWith_relayed rfl rfl).2.1⟩

/-- The delivery is refused by a peer that has the limit of the broker. -/
theorem delivery_outgrows_limit :
    terse.body.length ≤ tight.settings.maxBodySize ∧
      ((tight.through (relaying.take 4)).nextFrame? "peer").map Prod.snd = some terse ∧
      (tight.through (relaying.take 5)).depot.messages.get? (.ofNat 1) = some relayed ∧
      (0, Frame.message (.fresh 1) "orders" [7]) ∈
        (tight.through relaying).utters (.stir (.move .task)) ∧
      Frame.decode (Frame.message (.fresh 1) "orders" [7]).encode tight.settings.maxBodySize =
        .error (.tooLarge 25 10) := by
  decide

end Broker

end MessageBroker
