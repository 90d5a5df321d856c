import MessageBroker.Proofs.Broker.Episodes

/-!
# What has arrived

Bytes that have arrived on a connection and that no frame has used up concern nobody: two brokers
that differ in nothing else handle a frame in the same way, and differ in nothing else afterwards.
The pool of receive buffers and the sessions, which hold them, are set aside here: most operations
look at neither, and the three requests that look at sessions look at no more than an outline.
-/

namespace MessageBroker

/-- What the operations of a broker see of a session: what has arrived is left out. -/
def Peer.Session.outline (s : Peer.Session) : String × Nat × List String × Nat :=
  (s.id, s.client, s.subscriptions, s.assembler.bodyLimit)

/-- Sessions that differ at most in what has arrived on one connection. -/
structure Alike (id : String) (t t' : Table String Peer.Session) : Prop where
  others : ∀ id', id' ≠ id → t'.get? id' = t.get? id'
  own : (t'.get? id).map Peer.Session.outline = (t.get? id).map Peer.Session.outline

namespace Alike

variable {id : String} {t t' t'' : Table String Peer.Session}

theorem refl (id : String) (t : Table String Peer.Session) : Alike id t t :=
  ⟨fun _ _ => rfl, rfl⟩

theorem symm (alike : Alike id t t') : Alike id t' t :=
  ⟨fun id' other => (alike.others id' other).symm, alike.own.symm⟩

theorem trans (first : Alike id t t') (second : Alike id t' t'') : Alike id t t'' :=
  ⟨fun id' other => (second.others id' other).trans (first.others id' other),
    second.own.trans first.own⟩

theorem exists_of_get? (alike : Alike id t t') {s : Peer.Session} (found : t.get? id = some s) :
    ∃ s', t'.get? id = some s' ∧ s'.outline = s.outline := by
  have own := alike.own
  rw [found, Option.map_some] at own
  exact Option.map_eq_some_iff.1 own

theorem get?_eq_none (alike : Alike id t t') (missing : t.get? id = none) : t'.get? id = none := by
  have own := alike.own
  rwa [missing, Option.map_none, Option.map_eq_none_iff] at own

theorem insert (alike : Alike id t t') {s s' : Peer.Session} (same : s'.outline = s.outline) :
    Alike id (t.insert id s) (t'.insert id s') := by
  constructor
  · intro id' other
    rw [Table.get?_insert, Table.get?_insert, if_neg other, if_neg other, alike.others id' other]
  · rw [Table.get?_insert, Table.get?_insert, if_pos rfl, if_pos rfl, Option.map_some,
      Option.map_some, same]

/-- A session that has read something. -/
theorem insert_right (t : Table String Peer.Session) {s s' : Peer.Session}
    (found : t.get? id = some s)
    (same : s'.outline = s.outline) : Alike id t (t.insert id s') := by
  constructor
  · intro id' other
    rw [Table.get?_insert, if_neg other]
  · rw [Table.get?_insert, if_pos rfl, found, Option.map_some, Option.map_some, same]

theorem map (alike : Alike id t t') {f : Peer.Session → Peer.Session}
    (respects : ∀ s s', s'.outline = s.outline → (f s').outline = (f s).outline) :
    Alike id (t.map f) (t'.map f) := by
  constructor
  · intro id' other
    rw [Table.get?_map, Table.get?_map, alike.others id' other]
  · rw [Table.get?_map, Table.get?_map]
    cases found : t.get? id with
    | none => rw [alike.get?_eq_none found]
    | some s =>
        obtain ⟨s', found', same⟩ := alike.exists_of_get? found
        rw [found', Option.map_some, Option.map_some, Option.map_some, Option.map_some,
          respects s s' same]

end Alike

theorem Peer.Session.outline_subscribe {s s' : Session} (same : s'.outline = s.outline)
    (queue : String) : (s'.subscribe queue).2.outline = (s.subscribe queue).2.outline := by
  simp only [outline, Prod.mk.injEq] at same
  obtain ⟨id, client, subscriptions, limit⟩ := same
  unfold subscribe isSubscribed
  rw [subscriptions]
  split <;> simp only [outline, id, client, subscriptions, limit]

theorem Peer.Session.outline_unsubscribe {s s' : Session} (same : s'.outline = s.outline)
    (queue : String) :
    (s'.unsubscribe queue).1 = (s.unsubscribe queue).1 ∧
      (s'.unsubscribe queue).2.outline = (s.unsubscribe queue).2.outline := by
  simp only [outline, Prod.mk.injEq] at same
  obtain ⟨id, client, subscriptions, limit⟩ := same
  simp only [unsubscribe, isSubscribed, outline, id, client, subscriptions, limit, and_self]

namespace Broker

open Lease (BufferPool)

/-- A broker with other receive buffers and other sessions. -/
def reseat (b : Broker) (buffers : BufferPool) (sessions : Table String Peer.Session) : Broker :=
  { b with buffers, sessions }

/-! ## Operations that do not look at sessions -/

section

variable (b : Broker) (p : BufferPool) (t : Table String Peer.Session)

theorem reseat_rouse (k : Nat) : (b.reseat p t).rouse k = (b.rouse k).reseat p t := by
  unfold rouse
  rw [show (b.reseat p t).lanes = b.lanes from rfl]
  cases b.lanes[k]? with
  | none => rfl
  | some lane =>
      dsimp only
      split <;> rfl

theorem reseat_openGate (k : Nat) : (b.reseat p t).openGate k = (b.openGate k).reseat p t :=
  reseat_rouse (b.modifyQueue k Queue.openGate) p t k

theorem reseat_closeLane (k : Nat) : (b.reseat p t).closeLane k = (b.closeLane k).reseat p t :=
  reseat_rouse (b.modifyQueue k Queue.close) p t k

theorem reseat_release (m : CorrelationId) :
    (b.reseat p t).release m = (b.release m).reseat p t := by
  unfold release
  dsimp only [reseat]
  split
  · cases b.depot.delete m with
    | mk answer depot => cases answer <;> rfl
  · rfl

theorem reseat_releaseEach (ids : List CorrelationId) :
    ids.foldl release (b.reseat p t) = (ids.foldl release b).reseat p t := by
  induction ids generalizing b with
  | nil => rfl
  | cons m ids ih => rw [List.foldl_cons, List.foldl_cons, reseat_release, ih]

theorem reseat_enqueue (k : Nat) (m : CorrelationId) :
    (b.reseat p t).enqueue k m = ((b.enqueue k m).1, (b.enqueue k m).2.reseat p t) := by
  unfold enqueue
  rw [show (b.reseat p t).lanes = b.lanes from rfl]
  cases b.lanes[k]? with
  | none => rfl
  | some lane =>
      dsimp only
      rw [← reseat_rouse]
      rfl

theorem reseat_fanOut (m : CorrelationId) (lanes : List Nat) :
    (b.reseat p t).fanOut m lanes = ((b.fanOut m lanes).1, (b.fanOut m lanes).2.reseat p t) := by
  have each : ∀ (lanes : List Nat) (count : Nat) (b : Broker),
      lanes.foldl (fanOutTo m) (count, b.reseat p t) =
        ((lanes.foldl (fanOutTo m) (count, b)).1,
          (lanes.foldl (fanOutTo m) (count, b)).2.reseat p t) := by
    intro lanes
    induction lanes with
    | nil => exact fun _ _ => rfl
    | cons k lanes ih =>
        intro count b
        have step : fanOutTo m (count, b.reseat p t) k =
            ((fanOutTo m (count, b) k).1, (fanOutTo m (count, b) k).2.reseat p t) := by
          simp only [fanOutTo, reseat_enqueue]
          cases (b.enqueue k m).1 with
          | true => rfl
          | false =>
              simp only [Bool.false_eq_true, if_false, reseat_release]
        rw [List.foldl_cons, List.foldl_cons, step, ih]
  exact each lanes 0 { b with references := b.references.setUp m lanes.length }

theorem reseat_publish (m : Store.Message) :
    (b.reseat p t).publish m = ((b.publish m).1, (b.publish m).2.reseat p t) := by
  have brought : ∀ lanes, (b.reseat p t).bring m lanes =
      ((b.bring m lanes).1, (b.bring m lanes).2.reseat p t) := by
    intro lanes
    unfold bring
    rw [show (b.reseat p t).depot = b.depot from rfl]
    cases b.depot.add m with
    | mk answer depot =>
      cases answer with
      | error e => rfl
      | ok stored =>
          have spread := reseat_fanOut { b with depot } p t m.id lanes
          dsimp only
          rw [show fanOut { b.reseat p t with depot } m.id lanes = _ from spread]
          dsimp only
          split <;> rfl
  unfold publish
  rw [show (b.reseat p t).matching m.route = b.matching m.route from rfl]
  cases b.matching m.route with
  | nil => rfl
  | cons k lanes => exact brought (k :: lanes)

theorem reseat_resolve (id : CorrelationId) (outcome : Outcome) :
    (b.reseat p t).resolve id outcome =
      ((b.resolve id outcome).1, (b.resolve id outcome).2.reseat p t) := by
  unfold resolve
  rw [show (b.reseat p t).ledger = b.ledger from rfl]
  cases b.ledger.find? id <;> rfl

theorem reseat_reply (c : Nat) (id : CorrelationId) (result : Except RequestError Unit) :
    (b.reseat p t).reply c id result = (b.reply c id result).reseat p t := by
  have written : ∀ frame, ((b.reseat p t).write c frame).2 = (b.write c frame).2.reseat p t := by
    intro frame
    unfold write
    rw [show (b.reseat p t).clients = b.clients from rfl]
    cases b.clients[c]? with
    | none => rfl
    | some client =>
        dsimp only
        cases (client.sendFrame frame).1 <;> rfl
  cases result <;> exact written _

theorem reseat_declare (name route : String) :
    (b.reseat p t).declare name route =
      ((b.declare name route).1, (b.declare name route).2.reseat p t) := by
  unfold declare
  cases Queue.nameFault? name with
  | some fault => rfl
  | none =>
      dsimp only
      cases Pattern.ofText? route with
      | none => rfl
      | some pattern =>
          rw [show (b.reseat p t).lane? name = b.lane? name from rfl]
          cases b.lane? name with
          | none => rfl
          | some entry =>
              dsimp only
              split <;> rfl

theorem reseat_strike (id name : String) :
    (b.reseat p t).strike id name = (b.strike id name).reseat p t := by
  unfold strike
  rw [show (b.reseat p t).lane? name = b.lane? name from rfl]
  cases b.lane? name <;> rfl

end

/-! ## Handling -/

/-- The end of a subscription: the connection is listed unless it is already. -/
def enroll (b : Broker) (id : String) (session : Peer.Session) (k : Nat) (lane : Lane)
    (name : String) : Except RequestError Unit × Broker :=
  match lane.queue.roster.add? ⟨session.client, id⟩ with
  | none => (.error (.alreadyRegistered id), b)
  | some roster =>
    let b := b.modifyQueue k fun queue => { queue with roster }
    let b := { b with sessions := b.sessions.insert id (session.subscribe name).2 }
    (.ok (), b.openGate k)

/-- A broker has a certain pool of receive buffers, and is else the same as another but for what has
arrived on one connection. -/
def Agree (id : String) (p : BufferPool) (b b' : Broker) : Prop :=
  ∃ t, b' = b.reseat p t ∧ Alike id b.sessions t

namespace Agree

variable {id : String} {p p' : BufferPool} {b b' b'' : Broker}

theorem refl (id : String) (b : Broker) : Agree id b.buffers b b :=
  ⟨b.sessions, rfl, .refl id _⟩

theorem symm (agree : Agree id p b b') : Agree id b.buffers b' b := by
  obtain ⟨t, rfl, alike⟩ := agree
  exact ⟨b.sessions, rfl, alike.symm⟩

theorem trans (first : Agree id p b b') (second : Agree id p' b' b'') : Agree id p' b b'' := by
  obtain ⟨t, rfl, alike⟩ := first
  obtain ⟨t', rfl, alike'⟩ := second
  exact ⟨t', rfl, alike.trans alike'⟩

theorem sessions (agree : Agree id p b b') : Alike id b.sessions b'.sessions := by
  obtain ⟨t, rfl, alike⟩ := agree
  exact alike

theorem buffers (agree : Agree id p b b') : b'.buffers = p := by
  obtain ⟨t, rfl, -⟩ := agree
  rfl

/-- An operation that does not look at sessions. -/
theorem detached {α : Type} {f : Broker → α × Broker}
    (blind : ∀ b p t, f (b.reseat p t) = ((f b).1, (f b).2.reseat p t)) (agree : Agree id p b b') :
    (f b').1 = (f b).1 ∧ Agree id p (f b).2 (f b').2 := by
  obtain ⟨t, rfl, alike⟩ := agree
  have kept : (f b).2.sessions = b.sessions :=
    congrArg (fun result => result.2.sessions) (blind b b.buffers b.sessions)
  rw [blind]
  exact ⟨rfl, t, rfl, kept ▸ alike⟩

theorem enroll (agree : Agree id p b b') {s s' : Peer.Session} (same : s'.outline = s.outline)
    (k : Nat)
    (lane : Lane) (name : String) :
    (b'.enroll id s' k lane name).1 = (b.enroll id s k lane name).1 ∧
      Agree id p (b.enroll id s k lane name).2 (b'.enroll id s' k lane name).2 := by
  obtain ⟨t, rfl, alike⟩ := agree
  have client : s'.client = s.client := congrArg (fun outline => outline.2.1) same
  unfold Broker.enroll
  rw [client]
  cases lane.queue.roster.add? ⟨s.client, id⟩ with
  | none => exact ⟨rfl, t, rfl, alike⟩
  | some roster =>
      dsimp only
      have opened := reseat_openGate (b.modifyQueue k fun queue => { queue with roster })
      have left := opened p (t.insert id (s'.subscribe name).2) k
      have right := opened b.buffers (b.sessions.insert id (s.subscribe name).2) k
      refine ⟨rfl, t.insert id (s'.subscribe name).2, ?_, ?_⟩
      · exact left.trans (congrArg (Broker.reseat · p _) right).symm
      · have listed : Broker.sessions _ = _ := congrArg Broker.sessions right
        exact listed ▸ alike.insert (Peer.Session.outline_subscribe same name)

theorem subscribe (agree : Agree id p b b') (name : String) (ceiling : Option Nat) :
    (b'.subscribe id name ceiling).1 = (b.subscribe id name ceiling).1 ∧
      Agree id p (b.subscribe id name ceiling).2 (b'.subscribe id name ceiling).2 := by
  have alike := agree.sessions
  have lanes : b'.lane? name = b.lane? name := by
    obtain ⟨t, rfl, -⟩ := agree
    rfl
  unfold Broker.subscribe
  rw [lanes]
  cases found : b.sessions.get? id with
  | none =>
      rw [alike.get?_eq_none found]
      exact ⟨rfl, agree⟩
  | some s =>
      obtain ⟨s', found', same⟩ := alike.exists_of_get? found
      have client : s'.client = s.client := congrArg (fun outline => outline.2.1) same
      rw [found']
      cases b.lane? name with
      | none => exact ⟨rfl, agree⟩
      | some entry =>
          obtain ⟨k, lane⟩ := entry
          cases ceiling with
          | none => exact agree.enroll same k lane name
          | some n =>
              obtain ⟨t, rfl, -⟩ := agree
              have capped : Agree id p
                  (b.modifyClient s.client fun client => client.setCeiling (max n 1))
                  ((b.reseat p t).modifyClient s'.client fun client =>
                    client.setCeiling (max n 1)) :=
                ⟨t, by rw [client]; rfl, alike⟩
              exact capped.enroll same k lane name

theorem unsubscribe (agree : Agree id p b b') (name : String) :
    (b'.unsubscribe id name).1 = (b.unsubscribe id name).1 ∧
      Agree id p (b.unsubscribe id name).2 (b'.unsubscribe id name).2 := by
  obtain ⟨t, rfl, alike⟩ := agree
  unfold Broker.unsubscribe
  rw [show (b.reseat p t).sessions = t from rfl]
  cases found : b.sessions.get? id with
  | none =>
      rw [alike.get?_eq_none found]
      exact ⟨rfl, t, rfl, alike⟩
  | some s =>
      obtain ⟨s', found', same⟩ := alike.exists_of_get? found
      obtain ⟨told, left⟩ := Peer.Session.outline_unsubscribe same name
      rw [found']
      dsimp only
      generalize s.unsubscribe name = gone at told left ⊢
      generalize s'.unsubscribe name = gone' at told left ⊢
      obtain ⟨listed, rest⟩ := gone
      obtain ⟨listed', rest'⟩ := gone'
      obtain rfl : listed' = listed := told
      cases listed' with
      | false => exact ⟨rfl, t, rfl, alike⟩
      | true =>
          dsimp only
          have struck := reseat_strike b p (t.insert id rest') id name
          have struck' := reseat_strike b b.buffers (b.sessions.insert id rest) id name
          refine ⟨rfl, t.insert id rest', ?_, ?_⟩
          · exact struck.trans (congrArg (Broker.reseat · p _) struck').symm
          · rw [show Broker.sessions (Broker.strike { b with sessions := _ } id name) = _ from
              congrArg Broker.sessions struck']
            exact alike.insert left

theorem delete (agree : Agree id p b b') (name : String) :
    (b'.delete name).1 = (b.delete name).1 ∧ Agree id p (b.delete name).2 (b'.delete name).2 := by
  obtain ⟨t, rfl, alike⟩ := agree
  unfold Broker.delete
  rw [show (b.reseat p t).lane? name = b.lane? name from rfl]
  cases b.lane? name with
  | none => exact ⟨rfl, t, rfl, alike⟩
  | some entry =>
      obtain ⟨k, lane⟩ := entry
      dsimp only
      have closed : b.closeLane k = (b.closeLane k).reseat b.buffers b.sessions :=
        reseat_closeLane b b.buffers b.sessions k
      have kept : (b.closeLane k).sessions = b.sessions := by
        rw [closed]
        rfl
      rw [reseat_closeLane]
      generalize b.closeLane k = x at kept ⊢
      have emptied := fun p t => reseat_releaseEach (x.modifyQueue k fun queue =>
        { queue with roster := queue.roster.clear, pending := [] }) p t lane.queue.pending
      have left := emptied p (t.map fun s => (s.unsubscribe name).2)
      have right := emptied x.buffers (x.sessions.map fun s => (s.unsubscribe name).2)
      refine ⟨rfl, t.map fun s => (s.unsubscribe name).2, ?_, ?_⟩
      · exact left.trans (congrArg (Broker.reseat · p _) right).symm
      · have forgotten : Broker.sessions _ = _ := congrArg Broker.sessions right
        have alike' := alike.map fun s s' same => (Peer.Session.outline_unsubscribe same name).2
        rw [← kept] at alike'
        exact forgotten ▸ alike'

/-- A request of the connection itself. -/
theorem request (agree : Agree id p b b') (m : CorrelationId) (body : Wire.Body) :
    (b'.request id m body).1 = (b.request id m body).1 ∧
      Agree id p (b.request id m body).2 (b'.request id m body).2 := by
  cases body with
  | message route payload =>
      have stamp : b'.calendar = b.calendar := by
        obtain ⟨t, rfl, -⟩ := agree
        rfl
      obtain ⟨told, left⟩ := agree.detached (f := fun b =>
        b.publish ⟨m, route, payload, some id, b'.calendar⟩) fun b p t => reseat_publish b p t _
      rw [Broker.request, Broker.request, ← stamp]
      exact ⟨congrArg (Except.map _) told, left⟩
  | subscribe queue ceiling => exact agree.subscribe queue _
  | unsubscribe queue => exact agree.unsubscribe queue
  | declare name route =>
      obtain ⟨told, left⟩ := agree.detached (f := fun b => b.declare name route)
        fun b p t => reseat_declare b p t name route
      exact ⟨congrArg (Except.map _) told, left⟩
  | delete name => exact agree.delete name
  | nack reason => exact ⟨rfl, agree⟩

/-- A frame of the connection itself is judged and handled in the same way. -/
theorem handle (agree : Agree id p b b') {session session' : Peer.Session} (own : session.id = id)
    (own' : session'.id = id) (client : session'.client = session.client) (frame : Wire.Frame) :
    (b'.handle session' frame).1 = (b.handle session frame).1 ∧
      Agree id p (b.handle session frame).2 (b'.handle session' frame).2 := by
  have replied : ∀ {b b' : Broker} (m : CorrelationId) (result : Except RequestError Unit),
      Agree id p b b' →
        Agree id p (b.reply session.client m result) (b'.reply session.client m result) :=
    fun m result agree => (agree.detached (f := fun b => ((), b.reply session.client m result))
      fun b p t => congrArg (Prod.mk ()) (reseat_reply b p t session.client m result)).2
  rw [handle_eq, handle_eq, own, own', client]
  cases frame.purport with
  | answer outcome =>
      have resolved := agree.detached (f := fun b => b.resolve frame.id outcome)
        fun b p t => reseat_resolve b p t frame.id outcome
      exact ⟨rfl, resolved.2⟩
  | call =>
      have called := replied frame.id (.ok ()) agree
      exact ⟨rfl, called⟩
  | offence e => exact ⟨rfl, agree⟩
  | request body =>
      obtain ⟨told, left⟩ := agree.request frame.id body
      dsimp only
      rw [told]
      exact ⟨rfl, replied _ _ left⟩

end Agree

end Broker

end MessageBroker
