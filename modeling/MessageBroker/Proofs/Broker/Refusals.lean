import MessageBroker.Proofs.Broker.Episodes

/-!
# Refusals

A request that is refused leaves the broker as it was: each request is checked before anything is
changed, and a publication whose message is stored finds a queue that takes it. There is one
exception. A subscription with a ceiling sets the ceiling before it finds out that the connection is
a subscriber already, and the ceiling stays. Which refusals change something is said exactly here. A
store that fails a call has one failure less to come; what is stored stays the same.
-/

namespace MessageBroker

/-- A depot that may have failed an arrival, and is else the same. -/
def Store.Depot.Spent (d d' : Depot) : Prop :=
  d' = d ∨ ∃ n, d.failuresOf .add = n + 1 ∧ d' = d.failNext .add n

theorem Store.Depot.spent_of_add {d d' : Depot} {m : Message} {e : Store.Error}
    (refused : d.add m = (.error e, d')) : d.Spent d' := by
  rw [add, use] at refused
  split at refused <;> rename_i failures
  · left
    cases stored : d.messages.add m <;> simp only [stored] at refused <;> cases refused
    rfl
  · rename_i n
    cases refused
    exact .inr ⟨n, failures, rfl⟩

namespace Broker

open Wire

variable {b : Broker}

/-- The client whose ceiling a body asks for, and that ceiling. -/
def ceilingAsked? (b : Broker) (connection : String) : Body → Option (Nat × Nat)
  | .subscribe queue (some n) =>
    match b.sessions.get? connection, b.lane? queue with
    | some session, some _ => some (session.client, max n.toNat 1)
    | _, _ => none
  | _ => none

/-- A broker with the ceiling that a body asks for. -/
def recapped (b : Broker) (connection : String) (body : Body) : Broker :=
  match b.ceilingAsked? connection body with
  | some (c, n) => b.modifyClient c fun client => client.setCeiling n
  | none => b

theorem depot_recapped (b : Broker) (connection : String) (body : Body) :
    (b.recapped connection body).depot = b.depot := by
  rw [recapped]
  split <;> rfl

/-- The ceiling that is asked for changes nothing just if it is the one that there is. -/
theorem recapped_eq_iff {connection : String} {body : Body} :
    b.recapped connection body = b ↔
      ∀ c n, b.ceilingAsked? connection body = some (c, n) →
        ∀ client, b.clients[c]? = some client → client.ceiling = n := by
  rw [recapped]
  cases asked : b.ceilingAsked? connection body with
  | none => simp
  | some entry =>
      obtain ⟨c, n⟩ := entry
      have capped : b.modifyClient c (fun client => client.setCeiling n) = b ↔
          b.clients.modify c (fun client => client.setCeiling n) = b.clients := by
        constructor
        · intro same
          exact congrArg Broker.clients same
        · intro same
          rw [modifyClient, same]
      dsimp only
      rw [capped]
      constructor
      · intro same c' n' here client found
        obtain ⟨rfl, rfl⟩ := Prod.mk.inj (Option.some.inj here)
        have changed := congrArg (fun clients => clients[c]?) same
        simp only [List.getElem?_modify_eq, found, Option.map_eq_map, Option.map_some,
          Option.some.injEq] at changed
        exact congrArg Peer.Client.ceiling changed.symm
      · intro same
        apply List.ext_getElem?
        intro j
        rw [List.getElem?_modify]
        by_cases here : c = j
        · subst here
          cases found : b.clients[c]? with
          | none => rfl
          | some client =>
              obtain rfl := same c n rfl client found
              simp [Peer.Client.setCeiling]
        · simp [here]

/-! ## Publications -/

theorem le_fanOutEach (id : CorrelationId) (lanes : List Nat) (count : Nat) (b : Broker) :
    count ≤ (lanes.foldl (fanOutTo id) (count, b)).1 := by
  induction lanes generalizing count b with
  | nil => exact Nat.le_refl _
  | cons k lanes ih =>
      rw [List.foldl_cons, fanOutTo]
      dsimp only
      split
      · exact Nat.le_trans (Nat.le_succ _) (ih _ _)
      · exact ih _ _

theorem enqueue_of_declared {k : Nat} (declared : b.isDeclared k = true) (id : CorrelationId) :
    (b.enqueue k id).1 = true := by
  obtain ⟨lane, found, free⟩ : ∃ lane, b.lanes[k]? = some lane ∧ lane.queue.isClosed = false := by
    simpa [isDeclared, Option.any_eq_true] using declared
  simp [enqueue, found, Queue.enqueue, free]

/-- A message that is meant for an open queue before others finds a queue that takes it. -/
theorem fanOut_pos {k : Nat} (declared : b.isDeclared k = true) (id : CorrelationId)
    (lanes : List Nat) : 0 < (b.fanOut id (k :: lanes)).1 := by
  have taken := enqueue_of_declared
    (b := { b with references := b.references.setUp id (k :: lanes).length }) declared id
  rw [fanOut, List.foldl_cons, fanOutTo]
  dsimp only
  rw [taken, if_pos rfl]
  exact le_fanOutEach id lanes 1 _

/-- A publication is refused because no queue matches, or by the store, and leaves everything as it
was. -/
theorem publish_refused {m : Store.Message} {e : RequestError}
    (refused : (b.publish m).1 = .error e) :
    ∃ depot, b.depot.Spent depot ∧ (b.publish m).2 = { b with depot } := by
  rw [publish] at refused ⊢
  cases matched : b.matching m.route with
  | nil => exact ⟨b.depot, .inl rfl, rfl⟩
  | cons k lanes =>
      rw [matched] at refused
      dsimp only at refused ⊢
      rw [bring] at refused ⊢
      cases added : b.depot.add m with
      | mk answer depot =>
        cases answer with
        | error cause => exact ⟨depot, Store.Depot.spent_of_add added, rfl⟩
        | ok stored =>
            have listed : k ∈ b.matching m.route := matched ▸ List.mem_cons_self
            have declared : isDeclared { b with depot } k = true :=
              (isOpen_books _ _).symm.trans (isOpen_of_matching listed)
            have some' := Nat.ne_of_gt (fanOut_pos declared m.id lanes)
            simp only [added, if_neg some'] at refused
            cases refused

/-! ## Requests -/

theorem declare_refused {name route : String} {e : RequestError}
    (refused : (b.declare name route).1 = .error e) : (b.declare name route).2 = b := by
  unfold declare at refused ⊢
  split
  · rfl
  · rename_i named
    split
    · rfl
    · rename_i pattern parsed
      simp only [named, parsed] at refused
      cases found : b.lane? name with
      | none =>
          simp only [found] at refused
          cases refused
      | some entry => dsimp only; split <;> rfl

theorem delete_refused {name : String} {e : RequestError}
    (refused : (b.delete name).1 = .error e) : (b.delete name).2 = b := by
  unfold delete at refused ⊢
  cases found : b.lane? name with
  | none => rfl
  | some entry =>
      simp only [found] at refused
      cases refused

theorem unsubscribe_refused {id name : String} {e : RequestError}
    (refused : (b.unsubscribe id name).1 = .error e) : (b.unsubscribe id name).2 = b := by
  unfold unsubscribe at refused ⊢
  cases found : b.sessions.get? id with
  | none => rfl
  | some session =>
      simp only [found] at refused ⊢
      cases left : session.unsubscribe name with
      | mk listed session' =>
        cases listed with
        | false => rfl
        | true =>
            simp only [left] at refused
            cases refused

/-- A subscription is refused to a connection that is not there, for a queue that is not declared,
and to a subscriber; only the last leaves a trace, the ceiling. -/
theorem subscribe_refused {id name : String} {ceiling : Option UInt32} {e : RequestError}
    (refused : (b.subscribe id name (ceiling.map UInt32.toNat)).1 = .error e) :
    (b.subscribe id name (ceiling.map UInt32.toNat)).2 =
      b.recapped id (.subscribe name ceiling) := by
  unfold subscribe at refused ⊢
  cases found : b.sessions.get? id with
  | none => cases ceiling <;> simp only [recapped, ceilingAsked?, found]
  | some session =>
      simp only [found] at refused ⊢
      cases declared : b.lane? name with
      | none => cases ceiling <;> simp only [recapped, ceilingAsked?, found, declared]
      | some entry =>
          simp only [declared] at refused ⊢
          cases added : entry.2.queue.roster.add? ⟨session.client, id⟩ with
          | none =>
              cases ceiling <;>
                simp only [recapped, ceilingAsked?, found, declared, Option.map_none,
                  Option.map_some]
          | some roster =>
              simp only [added] at refused
              cases refused

/-- A refused request changes nothing but the ceiling that it asks for. -/
theorem request_refused {connection : String} {id : CorrelationId} {body : Body} {e : RequestError}
    (refused : (b.request connection id body).1 = .error e) :
    ∃ depot, b.depot.Spent depot ∧
      (b.request connection id body).2 = { b.recapped connection body with depot } := by
  cases body with
  | message route payload =>
      refine publish_refused (m := ⟨id, route, payload, some connection, b.calendar⟩) (e := e) ?_
      unfold request at refused
      cases result : (b.publish ⟨id, route, payload, some connection, b.calendar⟩).1 with
      | ok count => simp [result, Except.map] at refused
      | error cause => simpa [result, Except.map] using refused
  | subscribe queue ceiling =>
      refine ⟨b.depot, .inl rfl, (subscribe_refused refused).trans ?_⟩
      rw [← b.depot_recapped connection (.subscribe queue ceiling)]
  | unsubscribe queue => exact ⟨b.depot, .inl rfl, unsubscribe_refused refused⟩
  | declare name route =>
      have cause : (b.declare name route).1 = .error e := by
        unfold request at refused
        cases result : (b.declare name route).1 with
        | ok pattern => simp [result, Except.map] at refused
        | error cause => simpa [result, Except.map] using refused
      exact ⟨b.depot, .inl rfl, declare_refused cause⟩
  | delete name => exact ⟨b.depot, .inl rfl, delete_refused refused⟩
  | nack reason => cases refused

/-! ## Frames -/

/-- A frame whose request is refused is answered by a Nack, which gives the cause, and changes
nothing else unless it asks for another ceiling: a connection that is a subscriber already gets it.
-/
theorem refusal_changes_only_ceiling (b : Broker) (session : Peer.Session) (frame : Frame)
    {body : Body} {e : RequestError} (asked : frame.request? = some body)
    (refused : (b.request session.id frame.id body).1 = .error e) :
    (∃ depot, b.depot.Spent depot ∧
      b.handle session frame =
        (.ok (), (write { b.recapped session.id body with depot } session.client
          (.nack frame.id e.message)).2)) ∧
    (b.recapped session.id body = b ↔
      ∀ c n, b.ceilingAsked? session.id body = some (c, n) →
        ∀ client, b.clients[c]? = some client → client.ceiling = n) := by
  refine ⟨?_, recapped_eq_iff⟩
  obtain ⟨depot, spent, left⟩ := request_refused refused
  refine ⟨depot, spent, ?_⟩
  rw [handle_eq, Frame.request?_eq_some.1 asked]
  dsimp only
  rw [refused, left, reply]

/-- A connection that consumes from a queue. -/
def consuming : Broker :=
  sample.through [.stir (.move (.declare "orders" "orders")),
    .stir (.move (.connect "c" .reliable)), .stir (.move (.subscribe "c" "orders" none))]

/-- To subscribe again without a ceiling changes nothing. -/
theorem refusal_changes_only_ceiling_again : ∃ session, consuming.sessions.get? "c" = some session ∧
    consuming.handle session ((Body.subscribe "orders" none).frame (.ofNat 1)) =
      (.ok (), (consuming.write session.client
        (.nack (.ofNat 1) (RequestError.alreadyRegistered "c").message)).2) := by
  obtain ⟨session, found, id⟩ : ∃ session, consuming.sessions.get? "c" = some session ∧
      session.id = "c" := ⟨_, rfl, rfl⟩
  have refused : (consuming.request session.id (.ofNat 1) (.subscribe "orders" none)).1 =
      .error (.alreadyRegistered "c") := by
    rw [id]
    rfl
  have asked : ((Body.subscribe "orders" none).frame (.ofNat 1)).request? =
      some (.subscribe "orders" none) := by decide
  obtain ⟨⟨depot, spent, handled⟩, unchanged⟩ :=
    refusal_changes_only_ceiling consuming session _ asked refused
  have works : depot = consuming.depot := by
    rcases spent with same | ⟨n, fails, -⟩
    · exact same
    · exact absurd fails (Nat.succ_ne_zero n).symm
  have same : consuming.recapped session.id (.subscribe "orders" none) = consuming :=
    unchanged.2 fun c n asked => nomatch asked
  rw [same, works] at handled
  exact ⟨session, found, handled⟩

/-- To subscribe again with a ceiling of one is refused, and the connection is left with one slot of
sixteen. -/
theorem refused_subscription_lowers_ceiling : ∃ session,
    consuming.sessions.get? "c" = some session ∧
    (consuming.request session.id (.ofNat 1) (.subscribe "orders" (some 1))).1 =
      .error (.alreadyRegistered "c") ∧
    consuming.clients.map Peer.Client.ceiling = [16] ∧
    (consuming.handle session ((Body.subscribe "orders" (some 1)).frame (.ofNat 1))).2.clients.map
      Peer.Client.ceiling = [1] :=
  ⟨_, rfl, rfl, rfl, rfl⟩

end Broker

end MessageBroker
