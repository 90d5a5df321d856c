import MessageBroker.Proofs.Broker.Episodes

/-!
# Lives

Some of what the register says holds all through the life of a broker, the shutdown and whatever
comes after it included. Declared queues have legal names, no two of them the same; no two
connections share a client record; and a session is kept under its own connection id, with an
assembler that lost none of its marks and knows the limit of bodies that the settings ask for.
-/

namespace MessageBroker

/-- A frame that is taken out of an assembler is the one at the front of what is unread. -/
theorem Stream.Assembler.Sound.taken {a a' : Assembler} (sound : a.Sound) {frame : Wire.Frame}
    (next : a.next = .ok (some (frame, a'))) :
    a'.Sound ∧ a'.bodyLimit = a.bodyLimit ∧ Wire.Frame.decode a.unread a.bodyLimit = .ok frame ∧
      a'.unread = a.unread.drop frame.size := by
  rw [sound.next_eq] at next
  cases read : Wire.Frame.decode a.unread a.bodyLimit with
  | error e =>
      rw [read] at next
      dsimp only at next
      split at next <;> cases next
  | ok frame' =>
      simp only [read, Except.ok.injEq, Option.some.injEq, Prod.mk.injEq] at next
      obtain ⟨rfl, rfl⟩ := next
      obtain ⟨advanced, rest⟩ := sound.advance (Wire.Frame.size_le_of_decode read)
      exact ⟨advanced, rfl, rfl, rest⟩

/-- A session as it should be that is kept under a connection id. -/
structure Peer.Session.Proper (id : String) (limit : Nat) (s : Session) : Prop where
  id : s.id = id
  sound : s.assembler.Sound
  bodyLimit : s.assembler.bodyLimit = limit

/-- A session belongs to the same client as another, and has read the same. -/
structure Peer.Session.SameReading (s s' : Session) : Prop where
  id : s'.id = s.id
  client : s'.client = s.client
  assembler : s'.assembler = s.assembler

namespace Peer.Session

theorem SameReading.refl (s : Session) : s.SameReading s := ⟨rfl, rfl, rfl⟩

theorem SameReading.trans {s s' s'' : Session} (first : s.SameReading s')
    (second : s'.SameReading s'') : s.SameReading s'' :=
  ⟨second.id.trans first.id, second.client.trans first.client,
    second.assembler.trans first.assembler⟩

theorem sameReading_subscribe (s : Session) (queue : String) :
    s.SameReading (s.subscribe queue).2 := by
  unfold subscribe
  split <;> exact ⟨rfl, rfl, rfl⟩

theorem sameReading_unsubscribe (s : Session) (queue : String) :
    s.SameReading (s.unsubscribe queue).2 := ⟨rfl, rfl, rfl⟩

theorem SameReading.proper {s s' : Session} (same : s.SameReading s') {id : String} {limit : Nat}
    (proper : s.Proper id limit) : s'.Proper id limit :=
  ⟨same.id.trans proper.id, same.assembler ▸ proper.sound, same.assembler ▸ proper.bodyLimit⟩

end Peer.Session

namespace Desk

/-- A change that neither renames queues nor opens them again keeps their names different. -/
theorem Distinct.modify {notices : List Notice} (names : Distinct notices) {f : Notice → Notice}
    (marks : ∀ n, (f n).name = n.name ∧ ((f n).isClosed = false → n.isClosed = false)) (k : Nat) :
    Distinct (notices.modify k f) := by
  have shown : ∀ (j : Nat) (n : Notice), (if k = j then f n else n).name = n.name ∧
      ((if k = j then f n else n).isClosed = false → n.isClosed = false) := by
    intro j n
    split
    · exact marks n
    · exact ⟨rfl, id⟩
  refine List.pairwise_iff_getElem.2 ?_
  intro i j hi hj before opened opened'
  rw [List.length_modify] at hi hj
  rw [List.getElem_modify] at opened opened' ⊢
  rw [List.getElem_modify, (shown i _).1, (shown j _).1]
  exact List.pairwise_iff_getElem.1 names i j hi hj before ((shown i _).2 opened)
    ((shown j _).2 opened')

/-- What holds of the register all through. -/
structure Regular (limit : Nat) (d : Desk) : Prop where
  names : Distinct d.notices
  legal : ∀ n ∈ d.notices, Queue.nameFault? n.name = none
  seats : ∀ id c, d.seat? id = some c → (d.clients.map Peer.Client.id)[c]? = some id
  proper : ∀ id session, d.sessions.get? id = some session → session.Proper id limit

namespace Regular

variable {d d' : Desk} {limit : Nat}

theorem congr (regular : d.Regular limit) (same : d'.register = d.register) : d'.Regular limit := by
  have notices : d'.notices = d.notices := congrArg Register.notices same
  have sessions : d'.sessions = d.sessions := congrArg Register.sessions same
  have ids : d'.clients.map Peer.Client.id = d.clients.map Peer.Client.id :=
    congrArg Register.ids same
  refine ⟨notices ▸ regular.names, notices ▸ regular.legal, ?_, sessions ▸ regular.proper⟩
  intro id c here
  rw [ids]
  rw [seat?, sessions] at here
  exact regular.seats id c here

/-- Notices keep their marks, and every session is one that there was, up to its subscriptions and
what it has read. -/
theorem revise (regular : d.Regular limit) {f : Notice → Notice}
    (marks : ∀ n, (f n).name = n.name ∧ ((f n).isClosed = false → n.isClosed = false))
    {sessions : Table String Peer.Session}
    (kept : ∀ id session', sessions.get? id = some session' → session'.Proper id limit ∧
      ∃ session, d.sessions.get? id = some session ∧ session'.client = session.client) :
    Regular limit { d with notices := d.notices.map f, sessions } where
  names := regular.names.map marks
  legal := by
    intro n' posted
    obtain ⟨n, posted', rfl⟩ := List.mem_map.1 posted
    rw [(marks n).1]
    exact regular.legal n posted'
  seats := by
    intro id c here
    obtain ⟨session', found', rfl⟩ := Option.map_eq_some_iff.1 here
    obtain ⟨-, session, found, same⟩ := kept id session' found'
    rw [same]
    exact regular.seats id _ (seat?_of_get? found)
  proper := fun id session found => (kept id session found).1

/-- A session is replaced by one of the same client. -/
theorem replace (regular : d.Regular limit) {f : Notice → Notice}
    (marks : ∀ n, (f n).name = n.name ∧ ((f n).isClosed = false → n.isClosed = false))
    {id : String} {session session' : Peer.Session} (found : d.sessions.get? id = some session)
    (client : session'.client = session.client) (proper : session'.Proper id limit) :
    Regular limit { d with
      notices := d.notices.map f
      sessions := d.sessions.insert id session' } := by
  refine regular.revise marks ?_
  intro id' session'' found'
  rw [Table.get?_insert] at found'
  split at found'
  · rename_i same
    obtain rfl := Option.some.inj found'
    exact ⟨same ▸ proper, session, same ▸ found, client⟩
  · exact ⟨regular.proper id' session'' found', session'', found', rfl⟩

/-- A session has read something. -/
theorem refresh (regular : d.Regular limit) {id : String} {session session' : Peer.Session}
    (found : d.sessions.get? id = some session) (client : session'.client = session.client)
    (proper : session'.Proper id limit) :
    Regular limit { d with sessions := d.sessions.insert id session' } := by
  have replaced := regular.replace (f := fun n => n) (fun _ => ⟨rfl, fun opened => opened⟩) found
    client proper
  rwa [List.map_id'] at replaced

theorem connect (regular : d.Regular limit) {id : String} {client : Peer.Client}
    {assembler : Stream.Assembler} (named : client.id = id) (blank : assembler.Blank limit) :
    Regular limit { d with
      clients := d.clients ++ [client]
      sessions := d.sessions.insert id ⟨id, d.clients.length, assembler, []⟩ } where
  names := regular.names
  legal := regular.legal
  seats := by
    intro id' c here
    rw [seat?, Table.get?_insert] at here
    split at here
    · rename_i same
      obtain rfl := Option.some.inj here
      simp [same, named]
    · have before := regular.seats id' c here
      rw [List.map_append, List.getElem?_append_left (List.getElem?_eq_some_iff.1 before).1]
      exact before
  proper := by
    intro id' session found
    rw [Table.get?_insert] at found
    split at found
    · rename_i same
      obtain rfl := Option.some.inj found
      exact ⟨same.symm, blank.sound, blank.bodyLimit⟩
    · exact regular.proper id' session found

theorem declare (regular : d.Regular limit) {name : String} (legal : Queue.nameFault? name = none)
    (new : ∀ n ∈ d.notices, n.isClosed = false → n.name ≠ name) :
    Regular limit { d with notices := d.notices ++ [⟨name, false, []⟩] } where
  names := by
    refine List.pairwise_append.2 ⟨regular.names, List.pairwise_singleton _ _, ?_⟩
    intro n posted n' added opened _
    obtain rfl := List.mem_singleton.1 added
    exact new n posted opened
  legal := by
    intro n posted
    rcases List.mem_append.1 posted with before | added
    · exact regular.legal n before
    · obtain rfl := List.mem_singleton.1 added
      exact legal
  seats := regular.seats
  proper := regular.proper

theorem change (regular : d.Regular limit) (changed : d.Change limit d') : d'.Regular limit := by
  cases changed with
  | aside same => exact regular.congr same
  | connect _ named blank => exact regular.connect named blank
  | declare legal new => exact regular.declare legal new
  | disconnect found =>
      refine regular.revise (among_marks (g := fun n => n.strike _) fun _ => rfl) ?_
      intro id' session' found'
      rw [Table.get?_erase] at found'
      split at found'
      · cases found'
      · exact ⟨regular.proper id' session' found', session', found', rfl⟩
  | delete name =>
      refine regular.revise (among_marks (g := Notice.abolish) fun _ => rfl) ?_
      intro id session' found'
      rw [Table.get?_map] at found'
      obtain ⟨session, found, rfl⟩ := Option.map_eq_some_iff.1 found'
      have same := session.sameReading_unsubscribe name
      exact ⟨same.proper (regular.proper id session found), session, found, rfl⟩
  | subscribe found declared new =>
      rename_i id name session
      have same := session.sameReading_subscribe name
      exact regular.replace (among_marks (g := fun n => n.add ⟨session.client, id⟩) fun _ => rfl)
        found same.client (same.proper (regular.proper id session found))
  | unsubscribe found name =>
      rename_i id session
      have same := session.sameReading_unsubscribe name
      exact regular.replace (among_marks (g := fun n => n.strike id) fun _ => rfl) found
        same.client (same.proper (regular.proper id session found))

theorem changes (regular : d.Regular limit) (changed : d.Changes limit d') : d'.Regular limit := by
  induction changed with
  | refl => exact regular
  | tail _ step ih => exact ih.change step

/-- Two connections do not share a client record. -/
theorem eq_of_seat (regular : d.Regular limit) {id id' : String} {c : Nat}
    (here : d.seat? id = some c)
    (here' : d.seat? id' = some c) : id = id' :=
  Option.some.inj ((regular.seats id c here).symm.trans (regular.seats id' c here'))

end Regular

/-- No client record is given up, and every session was there before or is new and has read nothing.
-/
structure Descends (d d' : Desk) : Prop where
  clients : d.clients.length ≤ d'.clients.length
  sessions : ∀ id session', d'.sessions.get? id = some session' →
    (∃ session, d.sessions.get? id = some session ∧ session.SameReading session') ∨
      session'.assembler.unread = [] ∧ d.clients.length ≤ session'.client

namespace Descends

variable {d d' d'' : Desk} {limit : Nat}

/-- The sessions stay as they are. -/
theorem of_sessions (clients : d.clients.length ≤ d'.clients.length)
    (sessions : d'.sessions = d.sessions) : d.Descends d' :=
  ⟨clients, fun _ session' found => .inl ⟨session', sessions ▸ found, .refl session'⟩⟩

theorem refl (d : Desk) : d.Descends d := of_sessions (Nat.le_refl _) rfl

theorem trans (first : d.Descends d') (second : d'.Descends d'') : d.Descends d'' := by
  refine ⟨Nat.le_trans first.clients second.clients, ?_⟩
  intro id session'' found''
  rcases second.sessions id session'' found'' with ⟨session', found', same⟩ | ⟨blank, new⟩
  · rcases first.sessions id session' found' with ⟨session, found, same'⟩ | ⟨blank, new⟩
    · exact .inl ⟨session, found, same'.trans same⟩
    · exact .inr ⟨same.assembler ▸ blank, same.client ▸ new⟩
  · exact .inr ⟨blank, Nat.le_trans first.clients new⟩

/-- A session is replaced by one that has read the same. -/
theorem replace {id : String} {session session' : Peer.Session}
    (found : d.sessions.get? id = some session) (same : session.SameReading session')
    (clients : d.clients.length ≤ d'.clients.length)
    (replaced : d'.sessions = d.sessions.insert id session') : d.Descends d' := by
  refine ⟨clients, ?_⟩
  intro id' session'' found'
  rw [replaced, Table.get?_insert] at found'
  split at found'
  · rename_i here
    obtain rfl := Option.some.inj found'
    exact .inl ⟨session, here ▸ found, same⟩
  · exact .inl ⟨session'', found', .refl session''⟩

theorem change (changed : d.Change limit d') : d.Descends d' := by
  cases changed with
  | aside same =>
      have ids : d'.clients.map Peer.Client.id = d.clients.map Peer.Client.id :=
        congrArg Register.ids same
      have clients := congrArg List.length ids
      rw [List.length_map, List.length_map] at clients
      exact of_sessions (Nat.le_of_eq clients.symm) (congrArg Register.sessions same)
  | declare legal new => exact of_sessions (Nat.le_refl _) rfl
  | connect new named blank =>
      refine ⟨by simp, ?_⟩
      intro id' session' found'
      rw [Table.get?_insert] at found'
      split at found'
      · obtain rfl := Option.some.inj found'
        exact .inr ⟨blank.unread, Nat.le_refl _⟩
      · exact .inl ⟨session', found', .refl session'⟩
  | disconnect found =>
      refine ⟨Nat.le_refl _, ?_⟩
      intro id' session' found'
      rw [Table.get?_erase] at found'
      split at found'
      · cases found'
      · exact .inl ⟨session', found', .refl session'⟩
  | delete name =>
      refine ⟨Nat.le_refl _, ?_⟩
      intro id' session' found'
      rw [Table.get?_map] at found'
      obtain ⟨session, found, rfl⟩ := Option.map_eq_some_iff.1 found'
      exact .inl ⟨session, found, session.sameReading_unsubscribe name⟩
  | subscribe found declared new =>
      exact replace found (Peer.Session.sameReading_subscribe _ _) (Nat.le_refl _) rfl
  | unsubscribe found name =>
      exact replace found (Peer.Session.sameReading_unsubscribe _ name) (Nat.le_refl _) rfl

theorem changes (changed : d.Changes limit d') : d.Descends d' := by
  induction changed with
  | refl => exact .refl d
  | tail _ step ih => exact ih.trans (.change step)

end Descends

end Desk

namespace Broker

/-- The shutdown ends no session. -/
theorem sessions_shutDown (b : Broker) : b.shutDown.sessions = b.sessions :=
  shutDown_induction (P := fun b' => b'.sessions = b.sessions) rfl
    (fun {b'} k same => (congrArg Desk.sessions (b'.desk_closeLane k)).trans same)
    (fun {b'} id same => (congrArg Desk.sessions (b'.desk_resolve id (some .cancelled))).trans same)
    (fun _ same => same)

/-- What holds of a broker all through. -/
def Regular (b : Broker) : Prop :=
  b.desk.Regular b.settings.maxBodySize

namespace Regular

variable {b : Broker}

theorem closeLane (regular : b.Regular) (k : Nat) : (b.closeLane k).Regular := by
  have marks : ∀ n : Notice, ({ n with isClosed := true } : Notice).name = n.name ∧
      (({ n with isClosed := true } : Notice).isClosed = false → n.isClosed = false) :=
    fun n => ⟨rfl, fun opened => absurd opened Bool.false_ne_true.symm⟩
  have settings : (b.closeLane k).settings = b.settings :=
    congrArg Front.settings (b.front_closeLane k)
  rw [Regular, settings, desk_closeLane]
  refine ⟨regular.names.modify marks k, ?_, regular.seats, regular.proper⟩
  intro n posted
  obtain ⟨j, found⟩ := List.mem_iff_getElem?.1 posted
  rw [Desk.modifyNotice, List.getElem?_modify] at found
  obtain ⟨before, found', same⟩ := Option.map_eq_some_iff.1 found
  have named : n.name = before.name := by
    rw [← same]
    split <;> rfl
  rw [named]
  exact regular.legal before (List.mem_of_getElem? found')

/-- The shutdown closes queues and links. -/
theorem shutDown (regular : b.Regular) : b.shutDown.Regular := by
  refine shutDown_induction (P := Regular) regular (fun k kept => kept.closeLane k) ?_ ?_
  · intro b id kept
    have settings : (b.resolve id (some .cancelled)).2.settings = b.settings :=
      congrArg Front.settings (b.front_resolve id (some .cancelled))
    rw [Regular, settings, desk_resolve]
    exact Desk.Regular.congr kept rfl
  · exact fun {b} c kept => Desk.Regular.congr kept (b.desk.register_modifyClient c fun _ => rfl)

/-- Reading keeps a session as it should be. -/
theorem reading (regular : b.Regular) (e : Episode) : (b.reading e).Regular := by
  unfold Broker.reading
  split
  · rename_i id data
    rw [apply]
    split
    · exact regular
    · rename_i session found
      obtain ⟨named, sound, bodyLimit⟩ := regular.proper id session found
      refine Desk.Regular.refresh regular found rfl ⟨named, (sound.write b.buffers data).1, ?_⟩
      exact (session.assembler.bodyLimit_write b.buffers data).trans bodyLimit
  · rename_i id
    split
    · rename_i session frame next
      obtain ⟨before, found, taken, same⟩ := nextFrame?_spec next
      obtain ⟨named, sound, bodyLimit⟩ := regular.proper id before found
      obtain ⟨advanced, sameLimit, -, -⟩ := sound.taken taken
      refine Desk.Regular.refresh regular found (same ▸ rfl) ?_
      rw [same]
      exact ⟨named, advanced, sameLimit.trans bodyLimit⟩
    · exact regular
  · exact regular

/-- Once a session has read what an episode is about, the sessions stay what they are, unless they
end or begin. -/
theorem descends (regular : b.Regular) (e : Episode) :
    (b.reading e).desk.Descends (b.live e).desk := by
  by_cases down : e = .shutDown
  · subst down
    have seats : b.shutDown.clients.length = b.clients.length :=
      congrArg Front.seats b.front_shutDown
    exact .of_sessions (Nat.le_of_eq seats.symm) b.sessions_shutDown
  · exact .changes (changes_live regular.names down)

theorem live (regular : b.Regular) (e : Episode) : (b.live e).Regular := by
  by_cases down : e = .shutDown
  · subst down
    exact regular.shutDown
  · have read := regular.reading e
    have settings : (b.live e).settings = b.settings := (b.grows_live e).settings
    have settings' : (b.reading e).settings = b.settings := by
      rcases b.reading_cases e with same | ⟨_, _, _, _, -, same⟩ <;> rw [same]
    rw [Regular, settings'] at read
    rw [Regular, settings]
    exact read.changes (changes_live regular.names down)

theorem through (regular : b.Regular) (episodes : List Episode) : (b.through episodes).Regular := by
  induction episodes generalizing b with
  | nil => exact regular
  | cons e episodes ih => exact ih (regular.live e)

theorem start {settings : Settings.Engine} {mint : Nat → CorrelationId} {calendar : Nat}
    {depot : Store.Depot} {start : Broker}
    (started : Broker.new? settings mint calendar depot = some start) : start.Regular := by
  have blank := (start_blank started).2
  have notices : start.desk.notices = [] := congrArg Register.notices blank
  have sessions : start.desk.sessions = .empty := congrArg Register.sessions blank
  refine ⟨?_, ?_, ?_, ?_⟩
  · rw [notices]
    exact .nil
  · simp [notices]
  · intro id c here
    rw [Desk.seat?, sessions] at here
    cases here
  · intro id session found
    rw [sessions] at found
    cases found

end Regular

end Broker

end MessageBroker
