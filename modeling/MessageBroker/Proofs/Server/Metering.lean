import MessageBroker.Broker.Stats
import MessageBroker.Proofs.Broker.Company
import MessageBroker.Server.Metered

/-!
# What a meter says

A meter counts the calls about connections, and the bytes that pass. Here its values are compared
with what they are about: the calls and their answers, the sessions of the broker, and what the links
of the connections say they sent. Links answer each write as they like. Between the calls anything
may happen to the broker that neither begins nor ends a connection.

The counters are right. The gauge of open connections falls with each call that ends a connection,
also if the connection is not there, and then it differs from the number of sessions for good.
-/

namespace MessageBroker

namespace Server

/-! ## What is measured -/

/-- The values of a meter that are about calls. -/
structure Traffic where
  total : Int
  active : Int
  inbound : Int
  outbound : Int
  violations : Int

/-- What metrics say about calls. -/
def Metrics.traffic (m : Metrics) : Traffic where
  total := m.value .connectionsTotal
  active := m.value .connectionsActive
  inbound := m.value .inboundBytes
  outbound := m.value .outboundBytes
  violations := m.value .protocolErrors

/-- What is added to a series is added to the value that the series is of, if it is one of these. -/
theorem Metrics.traffic_add (m : Metrics) (s : Series) (amount : Int) :
    (m.add s amount).traffic =
      { total := m.traffic.total + if s = .connectionsTotal then amount else 0
        active := m.traffic.active + if s = .connectionsActive then amount else 0
        inbound := m.traffic.inbound + if s = .inboundBytes then amount else 0
        outbound := m.traffic.outbound + if s = .outboundBytes then amount else 0
        violations := m.traffic.violations + if s = .protocolErrors then amount else 0 } := by
  have value : ∀ t, (m.add s amount).value t = m.value t + if s = t then amount else 0 := by
    intro t
    rw [value_add]
    by_cases same : t = s
    · rw [if_pos same, if_pos same.symm, same]
    · rw [if_neg same, if_neg (Ne.symm same), Int.add_zero]
  simp only [traffic, value]

/-- Events are about messages. -/
theorem Metered.traffic_countEvent (metrics : Metrics) (e : Event) :
    (countEvent metrics e).traffic = metrics.traffic := by
  cases e <;>
    simp [countEvent, Metrics.traffic_add, Series.messagesStored, Series.messagesDelivered,
      Series.messagesRetired, Series.deliveryFailures, Series.fanOutSum, Series.fanOutCount,
      Series.connectionsTotal, Series.connectionsActive, Series.inboundBytes, Series.outboundBytes,
      Series.protocolErrors]

namespace Metered

/-! ## Runs -/

/-- Something that happens to a metered broker. -/
inductive Turn where
  | connect (id : String) (link : Peer.Link)
  | disconnect (id : String)
  | receive (id : String) (data : Bytes)
  /-- Something that does not come through the meter. -/
  | aside (e : Episode) (stays : e.isPassage = false)

/-- The answer to a turn, and what it leaves. -/
def serve (m : Metered) : Turn → Except Peer.SessionError Unit × Metered
  | .connect id link => m.connect id link
  | .disconnect id => (.ok (), m.disconnect id)
  | .receive id data => m.receive id data
  | .aside e _ => (.ok (), { m with broker := m.broker.live e })

/-- A metered broker after a turn. What was written is counted at once. -/
def pass (m : Metered) (turn : Turn) : Metered :=
  (m.serve turn).2.observe.2

/-- A metered broker after several turns. -/
def through (m : Metered) (run : List Turn) : Metered :=
  run.foldl pass m

/-- The sum of a quantity over the turns of a run. -/
def tally (f : Metered → Turn → Nat) (m : Metered) : List Turn → Nat
  | [] => 0
  | turn :: run => f m turn + tally f (m.pass turn) run

/-- Whether a turn is a connection that is accepted. -/
def accepted (m : Metered) (turn : Turn) : Nat :=
  match turn, (m.serve turn).1 with
  | .connect .., .ok () => 1
  | _, _ => 0

/-- Whether a turn ends a connection, registered or not. -/
def ended : Turn → Nat
  | .disconnect _ => 1
  | _ => 0

/-- Whether a turn ends a connection that is not registered. -/
def astray (m : Metered) : Turn → Nat
  | .disconnect id => if m.broker.sessions.contains id then 0 else 1
  | _ => 0

/-- How many bytes arrive in a turn. -/
def arriving (_ : Metered) : Turn → Nat
  | .receive _ data => data.length
  | _ => 0

/-- How many bytes a link says it sent, according to a record. -/
def sent : Record → Nat
  | .wrote _ _ bytes => bytes
  | _ => 0

/-- How many bytes links say they sent in a turn. -/
def leaving (m : Metered) (turn : Turn) : Nat :=
  ((m.serve turn).2.observe.1.map sent).sum

/-- Whether a turn brings bytes and is answered with a breach of the protocol. -/
def breached (m : Metered) (turn : Turn) : Nat :=
  match turn, (m.serve turn).1 with
  | .receive .., .error (.protocol _) => 1
  | _, _ => 0

/-! ## One turn -/

theorem traffic_countEvents (events : List Event) (metrics : Metrics) :
    (events.foldl countEvent metrics).traffic = metrics.traffic := by
  induction events generalizing metrics with
  | nil => rfl
  | cons e events ih => exact (ih _).trans (traffic_countEvent metrics e)

theorem traffic_countWrites (records : List Record) (metrics : Metrics) :
    (records.foldl countWrite metrics).traffic =
      { metrics.traffic with outbound := metrics.traffic.outbound + (records.map sent).sum } := by
  induction records generalizing metrics with
  | nil => simp
  | cons r records ih =>
      rw [List.foldl_cons, ih]
      cases r <;> simp +decide [countWrite, sent, Metrics.traffic_add, Int.add_assoc]

/-- To read the log is to count what links say. -/
theorem traffic_observe (m : Metered) :
    m.observe.2.metrics.traffic = { m.metrics.traffic with
      outbound := m.metrics.traffic.outbound + (m.observe.1.map sent).sum } :=
  (traffic_countEvents _ _).trans (traffic_countWrites _ _)

theorem traffic_serve (m : Metered) (turn : Turn) :
    (m.serve turn).2.metrics.traffic =
      { total := m.metrics.traffic.total + m.accepted turn
        active := m.metrics.traffic.active + m.accepted turn - ended turn
        inbound := m.metrics.traffic.inbound + m.arriving turn
        outbound := m.metrics.traffic.outbound
        violations := m.metrics.traffic.violations + m.breached turn } := by
  cases turn with
  | connect id link =>
      cases went : m.broker.connect id link with
      | mk result b =>
          cases result <;>
            simp +decide [serve, connect, went, accepted, ended, arriving, breached,
              Metrics.traffic_add]
  | disconnect id =>
      simp +decide [serve, disconnect, accepted, ended, arriving, breached, Metrics.traffic_add,
        Int.sub_eq_add_neg]
  | receive id data =>
      cases went : m.broker.receive id data with
      | mk result b =>
          obtain (_ | _ | _) | _ := result <;>
            simp +decide [serve, receive, went, accepted, ended, arriving, breached,
              Metrics.traffic_add]
  | aside e stays => simp [serve, accepted, ended, arriving, breached]

/-- What a turn adds to the values about calls. -/
theorem traffic_pass (m : Metered) (turn : Turn) : (m.pass turn).metrics.traffic =
    { total := m.metrics.traffic.total + m.accepted turn
      active := m.metrics.traffic.active + m.accepted turn - ended turn
      inbound := m.metrics.traffic.inbound + m.arriving turn
      outbound := m.metrics.traffic.outbound + m.leaving turn
      violations := m.metrics.traffic.violations + m.breached turn } := by
  rw [pass, traffic_observe, traffic_serve]
  rfl

/-- The meter passes a connection on, and its answer back. -/
theorem connect_passes_on (m : Metered) (id : String) (link : Peer.Link) :
    (m.connect id link).1 = (m.broker.connect id link).1 ∧
      (m.connect id link).2.broker = (m.broker.connect id link).2 := by
  rw [connect]
  split <;> rename_i went <;> rw [went] <;> exact ⟨rfl, rfl⟩

/-- The meter passes bytes on, and the answer back. -/
theorem receive_passes_on (m : Metered) (id : String) (data : Bytes) :
    (m.receive id data).1 = (m.broker.receive id data).1 ∧
      (m.receive id data).2.broker = (m.broker.receive id data).2 := by
  rw [receive]
  split <;> rename_i went <;> rw [went] <;> exact ⟨rfl, rfl⟩

/-- No connection is registered twice. -/
def Distinct (m : Metered) : Prop :=
  m.broker.sessions.keys.Nodup

theorem Distinct.start {settings : Settings.Engine} {mint : Nat → CorrelationId} {calendar : Nat}
    {depot : Store.Depot} {start : Broker}
    (started : Broker.new? settings mint calendar depot = some start) : (new start).Distinct := by
  have sessions : start.sessions = .empty := congrArg Register.sessions (Broker.start_blank started).2
  rw [Distinct, new, sessions]
  exact List.nodup_nil

/-- Whoever is accepted joins the sessions, and whoever ends leaves them, unless it went astray. -/
theorem Distinct.pass {m : Metered} (distinct : m.Distinct) (turn : Turn) :
    (m.pass turn).Distinct ∧ (m.pass turn).broker.sessions.size + ended turn =
      m.broker.sessions.size + m.accepted turn + m.astray turn := by
  have left : (m.pass turn).broker.sessions = (m.serve turn).2.broker.sessions := rfl
  rw [Distinct, left]
  cases turn with
  | connect id link =>
      obtain ⟨answer, broker⟩ := m.connect_passes_on id link
      obtain ⟨once, size⟩ := Broker.size_connect distinct id link
      have granted : m.accepted (.connect id link) =
          if m.broker.sessions.contains id then 0 else 1 := by
        cases known : m.broker.sessions.contains id with
        | true => simp only [accepted, serve, answer, Broker.connect_of_contains known, if_true]
        | false =>
            simp only [accepted, serve, answer, Broker.connect_of_new known, Bool.false_eq_true,
              if_false]
      rw [granted, serve, broker]
      exact ⟨once, size⟩
  | disconnect id =>
      obtain ⟨once, size⟩ := Broker.size_disconnect distinct id
      refine ⟨once, ?_⟩
      simp only [serve, disconnect, ended, accepted, astray]
      cases known : m.broker.sessions.contains id <;> simpa [known] using size.symm
  | receive id data =>
      rw [serve, (m.receive_passes_on id data).2]
      have same := m.broker.sameCompany_receive id data
      exact ⟨same.nodup distinct, same.size distinct⟩
  | aside e stays =>
      have same := m.broker.sameCompany_live stays
      exact ⟨same.nodup distinct, same.size distinct⟩

/-! ## Whole runs -/

theorem through_cons (m : Metered) (turn : Turn) (run : List Turn) :
    m.through (turn :: run) = (m.pass turn).through run := rfl

/-- What grows by a quantity in each turn grows by the sum of it in a run. -/
theorem grows_through (value : Metered → Int) {f : Metered → Turn → Nat}
    (step : ∀ {m : Metered}, m.Distinct → ∀ turn, value (m.pass turn) = value m + f m turn)
    {m : Metered} (distinct : m.Distinct) (run : List Turn) :
    value (m.through run) = value m + m.tally f run := by
  induction run generalizing m with
  | nil => exact (Int.add_zero _).symm
  | cons turn run ih =>
      rw [through_cons, ih (distinct.pass turn).1, step distinct turn, tally, Int.natCast_add,
        Int.add_assoc]

theorem tally_eq_zero_iff {f : Metered → Turn → Nat} {m : Metered} {run : List Turn} :
    m.tally f run = 0 ↔
      ∀ before turn after, run = before ++ turn :: after → f (m.through before) turn = 0 := by
  induction run generalizing m with
  | nil =>
      refine iff_of_true rfl ?_
      simp
  | cons turn run ih =>
      rw [tally, Nat.add_eq_zero_iff, ih]
      constructor
      · rintro ⟨first, others⟩ before later after split
        obtain ⟨rfl, same⟩ | ⟨before', rfl, rfl⟩ := List.cons_eq_append_iff.1 split
        · obtain ⟨rfl, -⟩ := List.cons.inj same
          exact first
        · exact others before' later after rfl
      · intro each
        exact ⟨each [] turn run rfl, fun before later after split =>
          each (turn :: before) later after (by rw [split]; rfl)⟩

/-- The gauge falls behind the sessions with each call that goes astray, and never otherwise. -/
theorem gap_through {m : Metered} (distinct : m.Distinct) (run : List Turn) :
    ((m.through run).broker.sessions.size : Int) - (m.through run).metrics.traffic.active =
      m.broker.sessions.size - m.metrics.traffic.active + m.tally astray run := by
  refine grows_through (fun m => m.broker.sessions.size - m.metrics.traffic.active) ?_ distinct run
  intro m distinct turn
  have size := (distinct.pass turn).2
  have active := congrArg Traffic.active (m.traffic_pass turn)
  dsimp only at active ⊢
  omega

theorem tally_astray_eq_zero_iff {m : Metered} {run : List Turn} :
    m.tally astray run = 0 ↔ ∀ before id after, run = before ++ .disconnect id :: after →
      (m.through before).broker.sessions.contains id = true := by
  rw [tally_eq_zero_iff]
  constructor
  · intro none' before id after split
    have known := none' before (.disconnect id) after split
    by_contra new
    simp [astray, new] at known
  · intro known before turn after split
    cases turn with
    | disconnect id => simp [astray, known before id after split]
    | _ => rfl

/-- The counters of a meter are right, whatever is called in whatever order and however links answer:
connections that were accepted, bytes that arrived, bytes that links say they sent, and calls that
brought bytes and were answered with a breach of the protocol. The gauge of open connections is the
number of sessions less the calls that ended a connection which was not there, so that it is right
just if there was no such call. -/
theorem meter_right_but_for_strays {settings : Settings.Engine} {mint : Nat → CorrelationId}
    {calendar : Nat} {depot : Store.Depot} {start : Broker}
    (started : Broker.new? settings mint calendar depot = some start) (run : List Turn) :
    let begun := new start
    let m := begun.through run
    m.metrics.value .connectionsTotal = begun.tally accepted run ∧
    m.metrics.value .inboundBytes = begun.tally arriving run ∧
    m.metrics.value .outboundBytes = begun.tally leaving run ∧
    m.metrics.value .protocolErrors = begun.tally breached run ∧
    m.metrics.value .connectionsActive + begun.tally astray run = m.broker.stats.sessions ∧
    (m.metrics.value .connectionsActive = m.broker.stats.sessions ↔
      ∀ before id after, run = before ++ .disconnect id :: after →
        (begun.through before).broker.sessions.contains id = true) := by
  intro begun m
  have distinct : begun.Distinct := .start started
  have counted : ∀ (value : Traffic → Int) {f : Metered → Turn → Nat},
      value ⟨0, 0, 0, 0, 0⟩ = 0 →
      (∀ m turn, value (m.pass turn).metrics.traffic = value m.metrics.traffic + f m turn) →
      value m.metrics.traffic = begun.tally f run := by
    intro value f nothing step
    have grown := grows_through (fun m => value m.metrics.traffic) (fun _ => step _) distinct run
    rw [grown, show value begun.metrics.traffic = 0 from nothing, Int.zero_add]
  have gauge : m.metrics.value .connectionsActive + begun.tally astray run =
      m.broker.stats.sessions := by
    have empty : begun.broker.sessions.size = 0 :=
      congrArg (fun r : Register => r.sessions.size) (Broker.start_blank started).2
    have gap : (m.broker.stats.sessions : Int) - m.metrics.value .connectionsActive =
        begun.broker.sessions.size - 0 + begun.tally astray run := gap_through distinct run
    omega
  refine ⟨counted Traffic.total rfl fun m turn => congrArg _ (m.traffic_pass turn),
    counted Traffic.inbound rfl fun m turn => congrArg _ (m.traffic_pass turn),
    counted Traffic.outbound rfl fun m turn => congrArg _ (m.traffic_pass turn),
    counted Traffic.violations rfl fun m turn => congrArg _ (m.traffic_pass turn), gauge, ?_⟩
  rw [← gauge, left_eq_add, Int.natCast_eq_zero, tally_astray_eq_zero_iff]

/-- A connection that has ended ends once more: nobody is connected, and the gauge says less. -/
theorem end_counted_twice :
    let m := (((new Broker.sample).connect "c" .reliable).2.disconnect "c").disconnect "c"
    m.metrics.value .connectionsActive = -1 ∧ m.broker.stats.sessions = 0 := by
  decide

/-- A connection that breaks the protocol, and whose link says that it sent a part of the greeting; it
is begun twice and ended twice. -/
def restless : List Turn :=
  [.connect "c" ⟨false, [.sent 5]⟩, .connect "c" .reliable,
    .receive "c" (List.replicate Wire.headerSize 0), .disconnect "c", .disconnect "c"]

theorem meter_right_but_for_strays_restless :
    let m := (new Broker.sample).through restless
    m.metrics.value .connectionsTotal = 1 ∧ m.metrics.value .inboundBytes = 21 ∧
      m.metrics.value .outboundBytes = 5 ∧ m.metrics.value .protocolErrors = 1 ∧
      m.metrics.value .connectionsActive + 1 = m.broker.stats.sessions := by
  obtain ⟨total, inbound, outbound, violations, gauge, -⟩ :=
    meter_right_but_for_strays Broker.new?_sample restless
  exact ⟨total, inbound, outbound, violations, gauge⟩

end Metered

end Server

end MessageBroker
