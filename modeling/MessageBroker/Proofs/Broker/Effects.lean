import MessageBroker.Proofs.Broker.Lives
import MessageBroker.Proofs.Broker.Refusals

/-!
# Effects

What a request asks for is a fact about two states, the one that the request comes to and the one
that it leaves: a message that was not stored is stored and waits behind the others in every queue
that matches, a queue lists a connection that it did not list, a queue is declared with a pattern,
or there is no queue of a name any more. Here it is shown that this comes about just if the request
is granted.
-/

namespace MessageBroker

namespace Store.Depot

/-- What a depot takes was new, and is there afterwards. -/
theorem get?_of_add {d d' : Depot} {m : Message} (added : d.add m = (.ok (), d')) :
    d.messages.get? m.id = none ∧ d'.messages.get? m.id = some m := by
  rw [add, use] at added
  split at added
  · rw [Messages.add, Table.contains] at added
    cases found : d.messages.byId.get? m.id with
    | some old => simp [found] at added
    | none =>
        simp only [found, Option.isSome_none, Bool.false_eq_true, if_false, Prod.mk.injEq,
          true_and] at added
        subst added
        exact ⟨found, (Table.get?_insert _ _ _ _).trans (if_pos rfl)⟩
  · cases added

theorem Spent.messages {d d' : Depot} (spent : d.Spent d') : d'.messages = d.messages := by
  rcases spent with rfl | ⟨n, -, rfl⟩ <;> rfl

end Store.Depot

namespace Broker

open Wire

/-- Whether a declared queue lists a connection. -/
def lists (b : Broker) (queue connection : String) : Bool :=
  (b.lane? queue).any fun entry => entry.2.queue.roster.contains connection

/-- Whether the session of a connection lists a queue. -/
def knows (b : Broker) (connection queue : String) : Bool :=
  (b.sessions.get? connection).any fun session => session.isSubscribed queue

/-- What the request of a connection under an id asks for comes about between two states. -/
def Effect (b : Broker) (connection : String) (id : CorrelationId) (body : Body) (b' : Broker) :
    Prop :=
  match body with
  | .message route payload =>
    b.matching route ≠ [] ∧ b.depot.messages.get? id = none ∧
      b'.depot.messages.get? id = some ⟨id, route, payload, some connection, b.calendar⟩ ∧
      ∀ k, b'.waitingIn k = b.waitingIn k ++ if k ∈ b.matching route then [id] else []
  | .subscribe queue _ =>
    b.lists queue connection = false ∧ b'.lists queue connection = true ∧
      b'.knows connection queue = true
  | .unsubscribe queue =>
    b.knows connection queue = true ∧ b'.knows connection queue = false ∧
      b'.lists queue connection = false
  | .declare name route =>
    ∃ k lane, b'.lane? name = some (k, lane) ∧ lane.queue.pattern.text = route
  | .delete name => (b.lane? name).isSome = true ∧ b'.lane? name = none
  | .nack _ => True

variable {b b' : Broker} {connection name : String}

theorem lane?_of_lanes (same : b'.lanes = b.lanes) (name : String) :
    b'.lane? name = b.lane? name := by
  rw [lane?, same, lane?]

theorem lane?_eq_none_iff :
    b.lane? name = none ↔ ∀ n ∈ b.desk.notices, n.isClosed = false → n.name ≠ name := by
  refine ⟨name_ne_of_missing, fun others => List.find?_eq_none.2 ?_⟩
  rintro ⟨k, lane⟩ listed found
  obtain ⟨j, place⟩ := List.mem_iff_getElem?.1 listed
  rw [List.getElem?_mapIdx, Option.map_eq_some_iff] at place
  obtain ⟨lane', here, same⟩ := place
  obtain ⟨-, rfl⟩ := Prod.mk.inj same
  rw [Bool.and_eq_true, Bool.not_eq_true', beq_iff_eq] at found
  exact others lane'.notice (List.mem_map_of_mem (List.mem_of_getElem? here)) found.1 found.2

/-- A queue that lists a connection. -/
theorem notice_of_lists {queue : String} (listed : b.lists queue connection = true) :
    ∃ n ∈ b.desk.notices, n.isClosed = false ∧ n.name = queue ∧
      ∃ m ∈ n.members, m.id = connection := by
  rw [lists] at listed
  cases declared : b.lane? queue with
  | none =>
      rw [declared] at listed
      cases listed
  | some entry =>
      obtain ⟨k, lane⟩ := entry
      obtain ⟨place, opened, named⟩ := notice_of_lane? declared
      rw [declared] at listed
      obtain ⟨m, mem, same⟩ := List.any_eq_true.1 listed
      exact ⟨lane.notice, List.mem_of_getElem? place, opened, named, m, mem, beq_iff_eq.1 same⟩

theorem lists_of_notice (names : Desk.Distinct b.desk.notices) {n : Notice}
    (posted : n ∈ b.desk.notices) (opened : n.isClosed = false) {m : Queue.Member}
    (listed : m ∈ n.members) : b.lists n.name m.id = true := by
  rw [lists]
  cases declared : b.lane? n.name with
  | none => exact absurd rfl (name_ne_of_missing declared n posted opened)
  | some entry =>
      obtain ⟨k, lane⟩ := entry
      obtain ⟨place, opened', named⟩ := notice_of_lane? declared
      obtain rfl := names.eq_of_name posted (List.mem_of_getElem? place) opened opened' named.symm
      exact List.any_eq_true.2 ⟨m, listed, beq_iff_eq.2 rfl⟩

theorem lists_of_lanes (same : b'.lanes = b.lanes) : b'.lists = b.lists := by
  funext queue connection
  rw [lists, lane?_of_lanes same, lists]

theorem knows_of_sessions (same : b'.sessions = b.sessions) : b'.knows = b.knows := by
  funext connection queue
  rw [knows, same, knows]

/-- The reply to a request undoes nothing. -/
theorem Effect.congr {id : CorrelationId} {body : Body} {b'' : Broker}
    (lanes : b''.lanes = b'.lanes) (sessions : b''.sessions = b'.sessions)
    (depot : b''.depot = b'.depot) :
    b.Effect connection id body b'' ↔ b.Effect connection id body b' := by
  cases body <;> simp only [Effect, depot, lists_of_lanes lanes, knows_of_sessions sessions,
    lane?_of_lanes lanes, waitingIn, lanes]

/-! ## Requests that are granted -/

theorem depot_fanOut {id : CorrelationId} {lanes : List Nat}
    (declared : ∀ k ∈ lanes, b.isDeclared k = true) : (b.fanOut id lanes).2.depot = b.depot := by
  have each : ∀ (lanes : List Nat) (count : Nat) (b : Broker),
      (∀ k ∈ lanes, b.isDeclared k = true) →
        (lanes.foldl (fanOutTo id) (count, b)).2.depot = b.depot := by
    intro lanes
    induction lanes with
    | nil => exact fun _ _ _ => rfl
    | cons k lanes ih =>
        intro count b declared
        have taken := enqueue_of_declared (declared k List.mem_cons_self) id
        have step : fanOutTo id (count, b) k = (count + 1, (b.enqueue k id).2) := by
          simp only [fanOutTo, taken, if_true]
        have kept : (b.enqueue k id).2.depot = b.depot := by
          have books := congrArg Books.depot (b.books_enqueue k id).2
          refine Eq.trans books ?_
          split <;> rfl
        rw [List.foldl_cons, step, ih, kept]
        intro j later
        rw [← isOpen_books, isOpen_enqueue, isOpen_books]
        exact declared j (List.mem_cons_of_mem k later)
  exact each lanes 0 { b with references := b.references.setUp id lanes.length } declared

/-- A message that is accepted was new, and is stored and put on all queues that match. -/
theorem publish_granted {m : Store.Message} {count : Nat} (granted : (b.publish m).1 = .ok count) :
    b.matching m.route ≠ [] ∧ b.depot.messages.get? m.id = none ∧
      (b.publish m).2.depot.messages.get? m.id = some m ∧
      ∀ k, (b.publish m).2.waitingIn k =
        b.waitingIn k ++ if k ∈ b.matching m.route then [m.id] else [] := by
  rw [publish] at granted ⊢
  cases matched : b.matching m.route with
  | nil =>
      rw [matched] at granted
      cases granted
  | cons k lanes =>
      rw [matched] at granted
      dsimp only at granted ⊢
      rw [bring] at granted ⊢
      cases added : b.depot.add m with
      | mk answer depot =>
        cases answer with
        | error cause =>
            rw [added] at granted
            cases granted
        | ok stored =>
            obtain ⟨new, held⟩ := Store.Depot.get?_of_add added
            have declared : ∀ j ∈ k :: lanes, isDeclared { b with depot } j = true := by
              intro j listed
              rw [← matched] at listed
              exact (isOpen_books _ _).symm.trans (isOpen_of_matching listed)
            have once : (k :: lanes).Nodup := matched ▸ b.nodup_matching m.route
            have some' := Nat.ne_of_gt (fanOut_pos (declared k List.mem_cons_self) m.id lanes)
            have placed := fun j => waitingIn_fanOut { b with depot } j m.id once
            rw [List.filter_eq_self.2 declared] at placed
            simp only [if_neg some']
            refine ⟨List.cons_ne_nil _ _, new, ?_, placed⟩
            exact (congrArg (fun d : Store.Depot => d.messages.get? m.id)
              (depot_fanOut declared)).trans held

theorem subscribe_granted (names : Desk.Distinct b.desk.notices) {ceiling : Option Nat}
    (granted : (b.subscribe connection name ceiling).1 = .ok ()) :
    b.lists name connection = false ∧
      (b.subscribe connection name ceiling).2.lists name connection ∧
      (b.subscribe connection name ceiling).2.knows connection name := by
  rcases b.desk_subscribe connection name ceiling with ⟨refused, -⟩ |
    ⟨session, k, lane, found, declared, ⟨refused, -⟩ | ⟨new, left⟩⟩
  · exact absurd granted refused
  · exact absurd granted refused
  · have place := (notice_of_lane? declared).1
    have opened := (notice_of_lane? declared).2.1
    have named := (notice_of_lane? declared).2.2
    have before : b.lists name connection = false := by
      rw [lists, declared]
      exact new
    have notices : (b.desk.recap session.client ceiling).notices = b.desk.notices :=
      congrArg Register.notices (b.desk.register_recap session.client ceiling)
    have posted : (b.subscribe connection name ceiling).2.desk.notices =
        b.desk.notices.modify k fun n => n.add ⟨session.client, connection⟩ := by
      rw [left, ← notices]
      rfl
    have names' : Desk.Distinct (b.subscribe connection name ceiling).2.desk.notices := by
      rw [posted]
      exact names.modify (f := fun n => n.add ⟨session.client, connection⟩)
        (fun n => ⟨rfl, fun opened => opened⟩) k
    have listed : lane.notice.add ⟨session.client, connection⟩ ∈
        (b.subscribe connection name ceiling).2.desk.notices := by
      rw [posted]
      refine List.mem_of_getElem? (i := k) ?_
      rw [List.getElem?_modify_eq, place]
      rfl
    have after := lists_of_notice (m := ⟨session.client, connection⟩) names' listed opened
      (List.mem_append_right _ List.mem_cons_self)
    refine ⟨before, named ▸ after, ?_⟩
    rw [knows, show (b.subscribe connection name ceiling).2.sessions = _ from
      congrArg Desk.sessions left, Table.get?_insert, if_pos rfl]
    change Peer.Session.isSubscribed _ name = true
    unfold Peer.Session.subscribe
    split
    · assumption
    · simp [Peer.Session.isSubscribed]

theorem unsubscribe_granted (names : Desk.Distinct b.desk.notices)
    (granted : (b.unsubscribe connection name).1 = .ok ()) :
    b.knows connection name = true ∧
      (b.unsubscribe connection name).2.knows connection name = false ∧
      (b.unsubscribe connection name).2.lists name connection = false := by
  rcases b.desk_unsubscribe connection name with ⟨refused, -⟩ | ⟨session, found, knew, left⟩
  · exact absurd granted refused
  · refine ⟨?_, ?_, ?_⟩
    · rw [knows, found]
      exact knew
    · have sessions : (b.unsubscribe connection name).2.sessions =
          b.sessions.insert connection (session.unsubscribe name).2 := by
        refine (congrArg Desk.sessions left).trans ?_
        rw [desk_strike]
        split <;> rfl
      rw [knows, sessions, Table.get?_insert, if_pos rfl]
      simp [Peer.Session.unsubscribe, Peer.Session.isSubscribed]
    · rw [Bool.eq_false_iff]
      intro listed
      obtain ⟨n, posted, opened, named, m, mem, same⟩ := notice_of_lists listed
      rw [left, repost_strike (b := { b with
        sessions := b.sessions.insert connection (session.unsubscribe name).2 }) names] at posted
      obtain ⟨n', -, rfl⟩ := List.mem_map.1 posted
      obtain ⟨opened', -, other⟩ := Desk.of_mem_strike opened mem
      rw [(Desk.among_marks (g := fun n => n.strike connection) (fun _ => rfl) n').1] at named
      exact other (List.mem_singleton.2 named) same

theorem declare_granted {route : String} {pattern : Pattern}
    (granted : (b.declare name route).1 = .ok pattern) :
    ∃ k lane, (b.declare name route).2.lane? name = some (k, lane) ∧
      lane.queue.pattern.text = route := by
  unfold declare at granted ⊢
  cases fault : Queue.nameFault? name with
  | some fault' => simp [fault] at granted
  | none =>
      simp only [fault] at granted ⊢
      cases parsed : Pattern.ofText? route with
      | none => simp [parsed] at granted
      | some pattern' =>
          have text : pattern'.text = route := by
            rw [Pattern.ofText?] at parsed
            split at parsed
            · exact congrArg Pattern.text (Option.some.inj parsed).symm
            · cases parsed
          simp only [parsed] at granted ⊢
          cases found : b.lane? name with
          | some entry =>
              obtain ⟨k, lane⟩ := entry
              simp only [found] at granted ⊢
              split at granted
              · rename_i same
                rw [if_pos same]
                exact ⟨k, lane, found, by rw [same, text]⟩
              · cases granted
          | none =>
              refine ⟨b.lanes.length, ⟨Queue.new name pattern', b.settings.backoff, .due⟩, ?_, text⟩
              rw [lane?] at found
              change List.find? _ ((b.lanes ++ [_]).mapIdx _) = _
              rw [List.mapIdx_append, List.find?_append, found]
              simp [Queue.new]

theorem delete_granted (names : Desk.Distinct b.desk.notices)
    (granted : (b.delete name).1 = .ok ()) :
    (b.lane? name).isSome = true ∧ (b.delete name).2.lane? name = none := by
  have left := b.desk_delete name
  cases found : b.lane? name with
  | none =>
      rw [delete, found] at granted
      cases granted
  | some entry =>
      obtain ⟨k, lane⟩ := entry
      rw [found] at left
      dsimp only at left
      rw [modifyNotice_of_lane? names found] at left
      refine ⟨rfl, lane?_eq_none_iff.2 ?_⟩
      rw [left]
      intro n posted opened named
      obtain ⟨n', -, rfl⟩ := List.mem_map.1 posted
      rw [Desk.among] at opened named
      split at opened
      · exact absurd opened Bool.false_ne_true.symm
      · rename_i other
        rw [if_neg other] at named
        exact other ⟨opened, List.mem_singleton.2 named⟩

/-- A queue that is declared with a pattern may be declared so again. -/
theorem declare_of_declared (legal : Queue.nameFault? name = none) {k : Nat} {lane : Lane}
    (found : b.lane? name = some (k, lane)) :
    (b.declare name lane.queue.pattern.text).1 = .ok lane.queue.pattern := by
  have parsed : Pattern.ofText? lane.queue.pattern.text = some lane.queue.pattern :=
    dif_pos lane.queue.pattern.nonempty
  simp only [declare, legal, parsed, found, if_true]

/-- A request that is refused leaves what effects are about. -/
theorem kept_of_refused {id : CorrelationId} {body : Body} {e : RequestError}
    (refused : (b.request connection id body).1 = .error e) :
    (b.request connection id body).2.lanes = b.lanes ∧
      (b.request connection id body).2.sessions = b.sessions ∧
      (b.request connection id body).2.depot.messages = b.depot.messages := by
  obtain ⟨depot, spent, left⟩ := request_refused refused
  rw [left]
  have kept : (b.recapped connection body).lanes = b.lanes ∧
      (b.recapped connection body).sessions = b.sessions := by
    rw [recapped]
    split <;> exact ⟨rfl, rfl⟩
  exact ⟨kept.1, kept.2, spent.messages⟩

theorem effect_of_granted (regular : b.Regular) {id : CorrelationId} {body : Body}
    (granted : (b.request connection id body).1 = .ok ()) :
    b.Effect connection id body (b.request connection id body).2 := by
  have mapped : ∀ {α : Type} {result : Except RequestError α},
      (result.map fun _ => ()) = .ok () → ∃ a, result = .ok a := by
    intro α result granted
    cases result with
    | error e => cases granted
    | ok a => exact ⟨a, rfl⟩
  cases body with
  | message route payload =>
      obtain ⟨count, granted⟩ := mapped granted
      exact publish_granted granted
  | subscribe queue ceiling => exact subscribe_granted regular.names granted
  | unsubscribe queue => exact unsubscribe_granted regular.names granted
  | declare name route =>
      obtain ⟨pattern, granted⟩ := mapped granted
      exact declare_granted granted
  | delete name => exact delete_granted regular.names granted
  | nack reason => trivial

/-- What is refused would have made a difference, but for the declaration of a queue that there is: and
that is never refused. -/
theorem no_effect_of_refused (regular : b.Regular) {id : CorrelationId} {body : Body}
    {e : RequestError} (refused : (b.request connection id body).1 = .error e) :
    ¬b.Effect connection id body (b.request connection id body).2 := by
  intro effect
  obtain ⟨lanes, sessions, messages⟩ := kept_of_refused refused
  cases body with
  | message route payload =>
      obtain ⟨-, new, stored, -⟩ := effect
      rw [messages, new] at stored
      cases stored
  | subscribe queue ceiling =>
      obtain ⟨before, after, -⟩ := effect
      rw [lists_of_lanes lanes, before] at after
      cases after
  | unsubscribe queue =>
      obtain ⟨before, after, -⟩ := effect
      rw [knows_of_sessions sessions, before] at after
      cases after
  | declare name route =>
      obtain ⟨k, lane, found, rfl⟩ := effect
      rw [lane?_of_lanes lanes] at found
      obtain ⟨place, -, named⟩ := notice_of_lane? found
      have legal := regular.legal lane.notice (List.mem_of_getElem? place)
      rw [named] at legal
      have again : (b.request connection id (.declare name lane.queue.pattern.text)).1 = .ok () :=
        congrArg (Except.map fun _ => ()) (declare_of_declared legal found)
      cases refused.symm.trans again
  | delete name =>
      obtain ⟨before, after⟩ := effect
      rw [lane?_of_lanes lanes] at after
      rw [after] at before
      cases before
  | nack reason => cases refused

/-- A request is granted just if what it asks for comes about. -/
theorem granted_iff_effect (regular : b.Regular) (id : CorrelationId) (body : Body) :
    (b.request connection id body).1 = .ok () ↔
      b.Effect connection id body (b.request connection id body).2 := by
  refine ⟨effect_of_granted regular, fun effect => ?_⟩
  cases result : (b.request connection id body).1 with
  | ok granted => rfl
  | error e => exact absurd effect (no_effect_of_refused regular result)

end Broker

end MessageBroker
