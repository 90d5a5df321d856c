import MessageBroker.Proofs.Broker.Lives

/-!
# Who is connected

A connection is in company from the call that registers it to the call that ends it. Nothing else
lets anybody in or out, the shutdown included: a session that reads, or subscribes, or loses a queue
is replaced by another of the same connection.
-/

namespace MessageBroker

/-- Whether an episode is a call that begins or ends a connection. -/
def Episode.isPassage : Episode → Bool
  | .stir (.move (.connect ..)) | .stir (.move (.disconnect _)) => true
  | _ => false

namespace Broker

variable {b b' b'' : Broker} {id : String} {session : Peer.Session}

/-- The same connections are registered, provided that none was registered twice. -/
def SameCompany (b b' : Broker) : Prop :=
  b.sessions.keys.Nodup → b'.sessions.keys.Perm b.sessions.keys

namespace SameCompany

theorem of_sessions (same : b'.sessions = b.sessions) : SameCompany b b' :=
  fun _ => same ▸ .refl _

theorem of_desk (same : b'.desk = b.desk) : SameCompany b b' :=
  of_sessions (congrArg Desk.sessions same)

theorem refl (b : Broker) : SameCompany b b := of_sessions rfl

theorem trans (first : SameCompany b b') (second : SameCompany b' b'') : SameCompany b b'' :=
  fun once => (second ((first once).nodup_iff.2 once)).trans (first once)

theorem nodup (same : SameCompany b b') (once : b.sessions.keys.Nodup) : b'.sessions.keys.Nodup :=
  (same once).nodup_iff.2 once

theorem size (same : SameCompany b b') (once : b.sessions.keys.Nodup) :
    b'.sessions.size = b.sessions.size := by
  simpa using (same once).length_eq

/-- A session is replaced. -/
theorem replace (found : b.sessions.get? id = some session) {session' : Peer.Session}
    (replaced : b'.sessions = b.sessions.insert id session') : SameCompany b b' :=
  fun once => replaced ▸ Table.keys_perm_insert once (Table.mem_keys.2 ⟨session, found⟩) session'

end SameCompany

/-! ## Frames -/

theorem sameCompany_reply (b : Broker) (c : Nat) (id : CorrelationId)
    (result : Except RequestError Unit) : SameCompany b (b.reply c id result) :=
  .of_sessions (congrArg Register.sessions (b.register_reply c id result))

theorem sameCompany_subscribe (b : Broker) (id name : String) (ceiling : Option Nat) :
    SameCompany b (b.subscribe id name ceiling).2 := by
  obtain ⟨-, same⟩ | ⟨s, _, _, found, -, ⟨-, same⟩ | ⟨-, same⟩⟩ := b.desk_subscribe id name ceiling
  · exact .of_desk same
  · have capped := congrArg Register.sessions (b.desk.register_recap s.client ceiling)
    exact .of_sessions ((congrArg Desk.sessions same).trans capped)
  · exact .replace found (congrArg Desk.sessions same)

theorem sessions_strikeEach (b : Broker) (id : String) (names : List String) :
    (names.foldl (fun b name => b.strike id name) b).sessions = b.sessions := by
  induction names generalizing b with
  | nil => rfl
  | cons name names ih =>
      refine (ih (b.strike id name)).trans ((congrArg Desk.sessions (b.desk_strike id name)).trans ?_)
      split <;> rfl

theorem sameCompany_request (b : Broker) (connection : String) (id : CorrelationId)
    (body : Wire.Body) : SameCompany b (b.request connection id body).2 := by
  cases body with
  | message route payload => exact .of_desk (b.desk_publish _)
  | nack reason => exact .refl b
  | declare name route =>
      obtain same | ⟨-, -, same⟩ := b.desk_declare name route <;>
        exact .of_sessions (congrArg Desk.sessions same)
  | subscribe queue ceiling => exact b.sameCompany_subscribe _ _ _
  | unsubscribe queue =>
      obtain ⟨-, same⟩ | ⟨s, found, -, same⟩ := b.desk_unsubscribe connection queue
      · exact .of_desk same
      · have struck := sessions_strikeEach { b with
          sessions := b.sessions.insert connection (s.unsubscribe queue).2 } connection [queue]
        exact .replace found ((congrArg Desk.sessions same).trans struck)
  | delete name =>
      have same := b.desk_delete name
      cases declared : b.lane? name with
      | none =>
          simp only [declared] at same
          exact .of_desk same
      | some entry =>
          simp only [declared] at same
          replace same := congrArg Desk.sessions same
          exact fun _ => .of_eq ((congrArg Table.keys same).trans (Table.keys_map _ _))

theorem sameCompany_handle (b : Broker) (asker : Peer.Session) (frame : Wire.Frame) :
    SameCompany b (b.handle asker frame).2 := by
  have resolved : ∀ outcome, SameCompany b (b.resolve frame.id outcome).2 := fun outcome =>
    .of_sessions (congrArg Register.sessions (b.register_resolve frame.id outcome))
  rw [handle_eq]
  cases frame.purport with
  | answer outcome => exact resolved outcome
  | call => exact b.sameCompany_reply _ _ _
  | offence e => exact .refl b
  | request body =>
      exact (b.sameCompany_request _ _ _).trans (sameCompany_reply _ _ _ _)

/-! ## Episodes -/

theorem sameCompany_apply (b : Broker) {m : Move}
    (stays : (Episode.stir (.move m)).isPassage = false) : SameCompany b (b.apply m) := by
  cases m with
  | connect id link => cases stays
  | disconnect id => cases stays
  | feed id data =>
      rw [apply]
      split
      · exact .refl b
      · exact .replace ‹_› rfl
  | frame id =>
      cases next : b.nextFrame? id with
      | none => simpa only [apply, next] using SameCompany.refl b
      | some taken =>
          obtain ⟨session, frame⟩ := taken
          obtain ⟨before, found, -, -⟩ := nextFrame?_spec next
          simp only [apply, next]
          have read : SameCompany b { b with sessions := b.sessions.insert id session } :=
            .replace found rfl
          exact read.trans (sameCompany_handle _ session frame)
  | declare name route => exact b.sameCompany_request "" default (.declare name route)
  | delete name => exact b.sameCompany_request "" default (.delete name)
  | subscribe id name ceiling => exact b.sameCompany_subscribe id name ceiling
  | unsubscribe id name => exact b.sameCompany_request id default (.unsubscribe name)
  | publish m => exact .of_desk (b.desk_publish m)
  | publishLater tag m => exact .refl b
  | recover => exact .of_desk b.desk_recover
  | tamper c link => exact .refl b
  | task =>
      cases line : b.tasks with
      | nil => simpa only [apply, line] using SameCompany.refl b
      | cons task rest =>
          simp only [apply, line]
          exact .of_sessions (congrArg Register.sessions
            (register_perform { b with tasks := rest } task))
  | ring => exact .of_desk b.desk_ring
  | tick now => exact .refl b

/-- Bytes that arrive bring nobody in and send nobody away. -/
theorem sameCompany_receive (b : Broker) (id : String) (data : Bytes) :
    SameCompany b (b.receive id data).2 := by
  have framed : ∀ n b, SameCompany b (b.after (List.replicate n (.frame id))) := by
    intro n
    induction n with
    | zero => exact .refl
    | succ n ih => exact fun b => (b.sameCompany_apply rfl).trans (ih _)
  obtain ⟨n, received⟩ := b.after_feed id data
  rw [← received]
  exact (b.sameCompany_apply rfl).trans (framed n _)

/-- Nobody comes or goes in an episode, unless it is the call for that. -/
theorem sameCompany_live (b : Broker) {e : Episode} (stays : e.isPassage = false) :
    SameCompany b (b.live e) := by
  cases e with
  | store depot => exact .refl b
  | shutDown => exact .of_sessions b.sessions_shutDown
  | stir s =>
      cases s with
      | move m => exact b.sameCompany_apply stays
      | holdUp holdsUp => cases holdsUp <;> exact .refl b
      | letGo n =>
          rw [live, stir]
          split
          · exact .refl b
          · rename_i p _
            exact .of_sessions (congrArg Desk.sessions
              (desk_resumePublish { b with heldUp := b.heldUp.eraseIdx n } p))

/-! ## Connections -/

/-- A connection that is registered is not registered again. -/
theorem connect_of_contains (known : b.sessions.contains id = true) (link : Peer.Link) :
    (b.connect id link).1 = .error (.duplicateConnection id) ∧
      (b.connect id link).2.sessions = b.sessions := by
  simp only [connect, known, if_true, and_self]

theorem not_mem_keys_of_new (new : b.sessions.contains id = false) : id ∉ b.sessions.keys := by
  rw [Table.mem_keys]
  rintro ⟨session, found⟩
  simp [Table.contains, found] at new

/-- A connection that is not registered joins the others. -/
theorem connect_of_new (new : b.sessions.contains id = false) (link : Peer.Link) :
    (b.connect id link).1 = .ok () ∧
      (b.connect id link).2.sessions.keys = b.sessions.keys ++ [id] := by
  simp only [connect, new, Bool.false_eq_true, if_false, true_and]
  refine (congrArg (fun d : Desk => d.sessions.keys) (desk_greet _ _)).trans ?_
  refine (Table.keys_insert _ _ _).trans ?_
  rw [← Table.keys_erase, Table.erase_of_not_mem (not_mem_keys_of_new new)]

/-- A connection that is not registered cannot end. -/
theorem disconnect_of_new (new : b.sessions.contains id = false) : b.disconnect id = b := by
  have missing : b.sessions.get? id = none := by
    simpa [Table.contains] using new
  simp only [disconnect, missing]

/-- A connection that ends leaves the others. -/
theorem disconnect_of_contains (known : b.sessions.contains id = true) :
    (b.disconnect id).sessions = b.sessions.erase id := by
  obtain ⟨session, found⟩ := Option.isSome_iff_exists.1 known
  simp only [disconnect, found]
  refine (congrArg Desk.sessions (desk_resolveEach _ _ _)).trans ?_
  exact sessions_strikeEach { b with sessions := b.sessions.erase id } id session.subscriptions

/-! ## How many there are -/

variable (once : b.sessions.keys.Nodup)
include once

/-- One more is registered if the call is granted, and none if it is refused. -/
theorem size_connect (id : String) (link : Peer.Link) :
    (b.connect id link).2.sessions.keys.Nodup ∧ (b.connect id link).2.sessions.size =
      b.sessions.size + if b.sessions.contains id then 0 else 1 := by
  cases known : b.sessions.contains id with
  | true =>
      rw [(connect_of_contains known link).2]
      exact ⟨once, rfl⟩
  | false =>
      have joined := (connect_of_new known link).2
      have new := not_mem_keys_of_new known
      refine ⟨joined ▸ List.concat_eq_append ▸ once.concat new, ?_⟩
      rw [← Table.length_keys, joined, List.length_append, Table.length_keys]
      rfl

/-- One less is registered if the connection was there, and as many as before if it was not. -/
theorem size_disconnect (id : String) :
    (b.disconnect id).sessions.keys.Nodup ∧ b.sessions.size =
      (b.disconnect id).sessions.size + if b.sessions.contains id then 1 else 0 := by
  cases known : b.sessions.contains id with
  | false =>
      rw [disconnect_of_new known]
      exact ⟨once, rfl⟩
  | true =>
      rw [disconnect_of_contains known]
      have listed : id ∈ b.sessions.keys := Table.mem_keys.2 (Option.isSome_iff_exists.1 known)
      refine ⟨Table.nodup_keys_erase once id, ?_⟩
      simpa using (Table.keys_perm_erase once listed).length_eq

end Broker

end MessageBroker
