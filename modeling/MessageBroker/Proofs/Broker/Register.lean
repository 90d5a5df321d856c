import Mathlib.Logic.Relation
import MessageBroker.Proofs.Broker.Slots
import MessageBroker.Proofs.Stream.Unread

/-!
# The register

The register says who is connected and who is listed at which queue. It changes in six ways: a
connection begins or ends, a queue is declared or deleted, a connection subscribes or leaves.
Whatever a broker does amounts to a few of these changes, one after the other, so that a fact about
the register needs a proof for each kind of change and no more. The tasks of the line never change
it.
-/

namespace MessageBroker

/-- An assembler to begin with: nothing has arrived, and bodies have a limit. -/
structure Stream.Assembler.Blank (limit : Nat) (a : Assembler) : Prop where
  sound : a.Sound
  unread : a.unread = []
  bodyLimit : a.bodyLimit = limit

/-- Who is connected and who is listed where. -/
structure Register where
  notices : List Notice
  sessions : Table String Peer.Session
  /-- The connection ids of the client records. -/
  ids : List String

namespace Desk

/-- The register of a desk. -/
def register (d : Desk) : Register :=
  ⟨d.notices, d.sessions, d.clients.map Peer.Client.id⟩

/-- A change of the register, or of something else. The bodies of frames that arrive on a new
connection have a limit. -/
inductive Change (limit : Nat) (d : Desk) : Desk → Prop
  | aside {d' : Desk} (same : d'.register = d.register) : d.Change limit d'
  | connect {id : String} {client : Peer.Client} {assembler : Stream.Assembler}
      (new : d.sessions.get? id = none) (named : client.id = id) (blank : assembler.Blank limit) :
      d.Change limit { d with
        clients := d.clients ++ [client]
        sessions := d.sessions.insert id ⟨id, d.clients.length, assembler, []⟩ }
  | disconnect {id : String} {session : Peer.Session} (found : d.sessions.get? id = some session) :
      d.Change limit { d.repost session.subscriptions fun n => n.strike id with
        sessions := d.sessions.erase id }
  | declare {name : String} (legal : Queue.nameFault? name = none)
      (new : ∀ n ∈ d.notices, n.isClosed = false → n.name ≠ name) :
      d.Change limit { d with notices := d.notices ++ [⟨name, false, []⟩] }
  | delete (name : String) :
      d.Change limit { d.repost [name] Notice.abolish with
        sessions := d.sessions.map fun session => (session.unsubscribe name).2 }
  | subscribe {id name : String} {session : Peer.Session}
      (found : d.sessions.get? id = some session)
      (declared : ∃ n ∈ d.notices, n.isClosed = false ∧ n.name = name)
      (new : ∀ n ∈ d.notices, n.isClosed = false → n.name = name → ∀ m ∈ n.members, m.id ≠ id) :
      d.Change limit { d.repost [name] fun n => n.add ⟨session.client, id⟩ with
        sessions := d.sessions.insert id (session.subscribe name).2 }
  | unsubscribe {id : String} {session : Peer.Session} (found : d.sessions.get? id = some session)
      (name : String) :
      d.Change limit { d.repost [name] fun n => n.strike id with
        sessions := d.sessions.insert id (session.unsubscribe name).2 }

/-- Several changes, one after the other. -/
abbrev Changes (limit : Nat) : Desk → Desk → Prop :=
  Relation.ReflTransGen (Change limit)

variable {d d' : Desk} {limit : Nat}

theorem Changes.aside (same : d'.register = d.register) : d.Changes limit d' :=
  .single (.aside same)

/-- A client record that keeps its connection id may change otherwise. -/
theorem register_modifyClient (d : Desk) (c : Nat) {f : Peer.Client → Peer.Client}
    (same : ∀ client, (f client).id = client.id) : (d.modifyClient c f).register = d.register := by
  rw [register, modifyClient, map_modify_of_same same]
  rfl

theorem register_recap (d : Desk) (c : Nat) (ceiling : Option Nat) :
    (d.recap c ceiling).register = d.register := by
  cases ceiling with
  | none => rfl
  | some n => exact d.register_modifyClient c fun _ => rfl

end Desk

theorem Peer.Client.id_track (client : Client) (delivery : CorrelationId) :
    (client.track delivery).id = client.id := by
  rw [track]
  split <;> rfl

namespace Broker

open Desk

variable (b : Broker)

/-! ## Tasks -/

theorem register_of_desk {b b' : Broker} (same : b'.desk = b.desk) :
    b'.desk.register = b.desk.register :=
  congrArg register same

theorem register_write (c : Nat) (frame : Wire.Frame) :
    (b.write c frame).2.desk.register = b.desk.register := by
  rw [desk_write]
  exact b.desk.register_modifyClient c fun _ => rfl

theorem register_reply (c : Nat) (id : CorrelationId) (result : Except RequestError Unit) :
    (b.reply c id result).desk.register = b.desk.register := by
  cases result <;> exact b.register_write c _

theorem register_resolve (id : CorrelationId) (outcome : Outcome) :
    (b.resolve id outcome).2.desk.register = b.desk.register := by
  rw [desk_resolve]
  rfl

theorem register_conclude (ticket : Nat) :
    (b.conclude ticket).desk.register = b.desk.register := by
  rcases b.desk_conclude ticket with same | ⟨d, _, -, -, same⟩
  · exact register_of_desk same
  · rw [same]
    exact b.desk.register_modifyClient d.client fun _ => rfl

theorem register_send (d : Delivery) : (b.send d).desk.register = b.desk.register := by
  have launched : ∀ b : Broker, (b.launch d).2.desk.register = b.desk.register := by
    intro b
    rw [desk_launch]
    exact b.desk.register_modifyClient d.client fun client => client.id_track d.id
  have dispatched : ∀ (b : Broker) (ticket : Nat),
      (b.dispatch d ticket).desk.register = b.desk.register := by
    intro b ticket
    have written := b.register_write d.client d.frame
    rw [dispatch]
    split <;> rename_i b' went <;> rw [went] at written
    · exact written
    · exact (register_conclude { b' with ledger := (b'.ledger.unwritten d.id).2 } ticket).trans
        written
  rw [send_eq, dispatched, launched, register_resolve]

/-- A task changes neither who is connected nor who is listed where. -/
theorem register_perform (task : Task) : (b.perform task).desk.register = b.desk.register := by
  cases task with
  | work k =>
      rcases b.desk_work k with idle | ⟨_, member, _, _, -, -, -, -, -, went⟩
      · exact register_of_desk idle
      · rw [show (b.perform (.work k)).desk = _ from went]
        exact b.desk.register_modifyClient member.client fun _ => rfl
  | send d => exact b.register_send d
  | arm ticket => exact register_of_desk (b.desk_arm ticket)
  | expire ticket =>
      rw [show (b.perform (.expire ticket)).desk = _ from b.desk_expire ticket]
      rfl
  | conclude ticket => exact b.register_conclude ticket
  | publish tag m =>
      rcases b.desk_beginPublish tag m with idle | ⟨-, held⟩
      · exact register_of_desk idle
      · rw [show (b.perform (.publish tag m)).desk = _ from held]
        rfl
  | resume p => exact register_of_desk (b.desk_resumePublish p)

/-! ## Connections and requests -/

theorem changes_connect (id : String) (link : Peer.Link) :
    b.desk.Changes b.settings.maxBodySize (b.connect id link).2.desk := by
  rcases b.desk_connect id link with same | ⟨new, link', same⟩
  · rw [same]
  · have blank : (Stream.Assembler.new b.buffers b.settings.initialBufferSize
        b.settings.maxBodySize).1.Blank b.settings.maxBodySize :=
      ⟨Stream.Assembler.sound_new _ _ _, Stream.Assembler.unread_new _ _ _, rfl⟩
    have named : (Peer.Client.new id link' b.settings.defaultMaxConcurrency).id = id := rfl
    have begun := Change.connect (d := b.desk) new named blank
    rw [same]
    exact (Relation.ReflTransGen.single begun).tail (.aside rfl)

variable {b} {limit : Nat} (names : Distinct b.desk.notices)
include names

theorem changes_disconnect (id : String) : b.desk.Changes limit (b.disconnect id).desk := by
  rcases b.desk_disconnect id with same | ⟨session, found, same⟩
  · rw [same]
  · have struck := repost_strikeEach (b := { b with sessions := b.sessions.erase id }) names id
      session.subscriptions
    have ended : b.desk.Change limit _ := .disconnect found
    rw [same, struck]
    refine (Relation.ReflTransGen.single ended).tail (.aside ?_)
    exact register_modifyClient { b.desk.repost session.subscriptions fun n => n.strike id with
      sessions := b.sessions.erase id } session.client fun _ => rfl

omit names in
theorem changes_declare (name route : String) :
    b.desk.Changes limit (b.declare name route).2.desk := by
  rcases b.desk_declare name route with same | ⟨legal, missing, same⟩
  · rw [same]
  · rw [same]
    exact .single (.declare legal (name_ne_of_missing missing))

theorem changes_delete (name : String) : b.desk.Changes limit (b.delete name).2.desk := by
  rw [desk_delete]
  cases found : b.lane? name with
  | none => rfl
  | some entry =>
      dsimp only
      rw [modifyNotice_of_lane? names found]
      exact .single (.delete name)

theorem changes_subscribe (id name : String) (ceiling : Option Nat) :
    b.desk.Changes limit (b.subscribe id name ceiling).2.desk := by
  rcases b.desk_subscribe id name ceiling with ⟨-, same⟩ |
    ⟨session, k, lane, found, declared, ⟨-, same⟩ | ⟨new, same⟩⟩
  · rw [same]
  · rw [same]
    exact .aside (b.desk.register_recap session.client ceiling)
  · obtain ⟨place, opened, named⟩ := notice_of_lane? declared
    have capped := b.desk.register_recap session.client ceiling
    have notices : (b.desk.recap session.client ceiling).notices = b.desk.notices :=
      congrArg Register.notices capped
    have sessions : (b.desk.recap session.client ceiling).sessions = b.sessions :=
      congrArg Register.sessions capped
    have posted : (b.desk.recap session.client ceiling).modifyNotice k
        (fun n => n.add ⟨session.client, id⟩) =
        (b.desk.recap session.client ceiling).repost [name] fun n =>
          n.add ⟨session.client, id⟩ := by
      rw [modifyNotice, repost, notices]
      exact congrArg (fun notices => { b.desk.recap session.client ceiling with notices })
        (congrArg Desk.notices (modifyNotice_of_lane? names declared _))
    -- Of the declared queues only that of the lane has the name.
    have unlisted : ∀ n ∈ (b.desk.recap session.client ceiling).notices, n.isClosed = false →
        n.name = name → ∀ m ∈ n.members, m.id ≠ id := by
      intro n posted opened' named' m listed same
      rw [notices] at posted
      obtain rfl := names.eq_of_name posted (List.mem_of_getElem? place) opened' opened
        (named'.trans named.symm)
      rw [Queue.Roster.contains, List.any_eq_false] at new
      exact new m listed (by simpa using same)
    rw [same, posted, ← sessions]
    refine (Relation.ReflTransGen.single (.aside capped)).tail (.subscribe ?_ ?_ unlisted)
    · rw [sessions]
      exact found
    · exact ⟨lane.notice, notices ▸ List.mem_of_getElem? place, opened, named⟩

theorem changes_unsubscribe (id name : String) :
    b.desk.Changes limit (b.unsubscribe id name).2.desk := by
  rcases b.desk_unsubscribe id name with ⟨-, same⟩ | ⟨session, found, -, same⟩
  · rw [same]
  · have struck := repost_strike (b := { b with
      sessions := b.sessions.insert id (session.unsubscribe name).2 }) names id name
    rw [same, struck]
    exact .single (.unsubscribe found name)

theorem changes_request (connection : String) (id : CorrelationId) (body : Wire.Body) :
    b.desk.Changes limit (b.request connection id body).2.desk := by
  cases body with
  | message route payload => exact .aside (register_of_desk (b.desk_publish _))
  | subscribe queue ceiling => exact changes_subscribe names _ _ _
  | unsubscribe queue => exact changes_unsubscribe names _ _
  | declare name route => exact changes_declare _ _
  | delete name => exact changes_delete names _
  | nack reason => exact .refl

theorem changes_handle (session : Peer.Session) (frame : Wire.Frame) :
    b.desk.Changes limit (b.handle session frame).2.desk := by
  rw [handle]
  split
  · exact .aside (b.register_resolve _ _)
  · split
    · exact .refl
    · exact .aside (b.register_resolve _ _)
  · exact .aside (b.register_reply _ _ _)
  · split
    · exact .refl
    · exact (changes_request names _ _ _).tail (.aside (register_reply _ _ _ _))

end Broker

end MessageBroker
