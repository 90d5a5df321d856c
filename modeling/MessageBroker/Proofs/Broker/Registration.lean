import MessageBroker.Proofs.Broker.Episodes

/-!
# Registration

Who consumes from which queue is written down twice: each queue lists its subscribers, and each
session lists its queues. Before the shutdown the two never differ. The roll says one half of it,
that whoever is listed is connected and knows of the queue; here is the other half, that whatever a
session knows of is a declared queue that lists it. Both halves are needed together, since a
connection that ends, or leaves, or whose queue is deleted is taken off the one side by what is
written on the other.
-/

namespace MessageBroker

namespace Desk

/-- A declared queue lists a subscriber. -/
def Listed (d : Desk) (name : String) (m : Queue.Member) : Prop :=
  ∃ n ∈ d.notices, n.isClosed = false ∧ n.name = name ∧ m ∈ n.members

/-- Queues and sessions say the same about each other. -/
structure Consistent (d : Desk) : Prop where
  roll : d.Roll
  known : ∀ id session, d.sessions.get? id = some session → ∀ name ∈ session.subscriptions,
    d.Listed name ⟨session.client, id⟩
  apart : ∀ n ∈ d.notices, n.isClosed = false → (n.members.map Queue.Member.id).Nodup

variable {d d' : Desk} {limit : Nat} {name : String} {m : Queue.Member}

/-- A change of certain queues that does not concern a subscriber leaves it listed. -/
theorem Listed.among (listed : d.Listed name m) {names : List String} {g : Notice → Notice}
    (kept : name ∈ names → ∀ n : Notice, n.name = name → m ∈ n.members →
      (g n).isClosed = n.isClosed ∧ (g n).name = name ∧ m ∈ (g n).members)
    (sessions : Table String Peer.Session) :
    Listed { d.repost names g with sessions } name m := by
  obtain ⟨n, posted, opened, named, mem⟩ := listed
  refine ⟨Desk.among names g n, List.mem_map_of_mem posted, ?_⟩
  rw [Desk.among]
  split
  · rename_i concerned
    obtain ⟨same, named', mem'⟩ := kept (named ▸ concerned.2) n named mem
    exact ⟨same.trans opened, named', mem'⟩
  · exact ⟨opened, named, mem⟩

/-- A change of certain queues that lists nobody twice. -/
theorem apart_among (apart : ∀ n ∈ d.notices, n.isClosed = false →
      (n.members.map Queue.Member.id).Nodup) {names : List String} {g : Notice → Notice}
    (kept : ∀ n ∈ d.notices, n.isClosed = false → n.name ∈ names → (g n).isClosed = false →
      ((g n).members.map Queue.Member.id).Nodup) :
    ∀ n ∈ (d.repost names g).notices, n.isClosed = false →
      (n.members.map Queue.Member.id).Nodup := by
  intro n' posted opened
  obtain ⟨n, posted', rfl⟩ := List.mem_map.1 posted
  rw [Desk.among] at opened ⊢
  split at opened
  · rename_i concerned
    rw [if_pos concerned]
    exact kept n posted' concerned.1 concerned.2 opened
  · rename_i other
    rw [if_neg other]
    exact apart n posted' opened

theorem nodup_strike {n : Notice} (once : (n.members.map Queue.Member.id).Nodup) (id : String) :
    ((n.strike id).members.map Queue.Member.id).Nodup :=
  once.sublist (List.filter_sublist.map _)

theorem mem_strike {n : Notice} {id : String} (mem : m ∈ n.members) (other : m.id ≠ id) :
    m ∈ (n.strike id).members :=
  List.mem_filter.2 ⟨mem, by simpa using other⟩

namespace Consistent

theorem congr (consistent : d.Consistent) (same : d'.register = d.register) : d'.Consistent := by
  have notices : d'.notices = d.notices := congrArg Register.notices same
  have sessions : d'.sessions = d.sessions := congrArg Register.sessions same
  refine ⟨consistent.roll.congr notices sessions (congrArg Register.ids same), ?_, ?_⟩
  · intro id session found name knows
    obtain ⟨n, posted, listed⟩ := consistent.known id session (sessions ▸ found) name knows
    exact ⟨n, notices ▸ posted, listed⟩
  · rw [notices]
    exact consistent.apart

/-- A session that has read something says the same as before. -/
theorem refresh (consistent : d.Consistent) {id : String} {session session' : Peer.Session}
    (found : d.sessions.get? id = some session) (client : session'.client = session.client)
    (subscriptions : session'.subscriptions = session.subscriptions) :
    Consistent { d with sessions := d.sessions.insert id session' } := by
  refine ⟨consistent.roll.refresh found client subscriptions, ?_, consistent.apart⟩
  intro id' session'' found' name knows
  rw [Table.get?_insert] at found'
  split at found'
  · rename_i same
    obtain rfl := Option.some.inj found'
    rw [same, client]
    exact consistent.known id session found name (subscriptions ▸ knows)
  · exact consistent.known id' session'' found' name knows

theorem connect (consistent : d.Consistent) {id : String} {client : Peer.Client}
    {assembler : Stream.Assembler} (new : d.sessions.get? id = none) (named : client.id = id) :
    Consistent { d with
      clients := d.clients ++ [client]
      sessions := d.sessions.insert id ⟨id, d.clients.length, assembler, []⟩ } := by
  refine ⟨consistent.roll.connect new named rfl, ?_, consistent.apart⟩
  intro id' session found name knows
  rw [Table.get?_insert] at found
  split at found
  · obtain rfl := Option.some.inj found
    exact absurd knows List.not_mem_nil
  · exact consistent.known id' session found name knows

theorem disconnect (consistent : d.Consistent) {id : String} {session : Peer.Session}
    (found : d.sessions.get? id = some session) :
    Consistent { d.repost session.subscriptions fun n => n.strike id with
      sessions := d.sessions.erase id } := by
  refine ⟨consistent.roll.disconnect found, ?_, ?_⟩
  · intro id' session' found' name knows
    rw [Table.get?_erase] at found'
    split at found'
    · cases found'
    · rename_i other
      refine (consistent.known id' session' found' name knows).among ?_ _
      exact fun _ n named mem => ⟨rfl, named, mem_strike mem other⟩
  · exact apart_among consistent.apart fun n posted opened _ _ =>
      nodup_strike (consistent.apart n posted opened) id

theorem declare (consistent : d.Consistent)
    (new : ∀ n ∈ d.notices, n.isClosed = false → n.name ≠ name) :
    Consistent { d with notices := d.notices ++ [⟨name, false, []⟩] } := by
  refine ⟨consistent.roll.declare new, ?_, ?_⟩
  · intro id session found name' knows
    obtain ⟨n, posted, listed⟩ := consistent.known id session found name' knows
    exact ⟨n, List.mem_append_left _ posted, listed⟩
  · intro n posted opened
    rcases List.mem_append.1 posted with before | added
    · exact consistent.apart n before opened
    · obtain rfl := List.mem_singleton.1 added
      exact List.nodup_nil

theorem delete (consistent : d.Consistent) (name : String) :
    Consistent { d.repost [name] Notice.abolish with
      sessions := d.sessions.map fun session => (session.unsubscribe name).2 } := by
  refine ⟨consistent.roll.delete name, ?_, ?_⟩
  · intro id session found name' knows
    obtain ⟨before, found', rfl⟩ :=
      Option.map_eq_some_iff.1 ((Table.get?_map _ _ _).symm.trans found)
    obtain ⟨knew, other⟩ := List.mem_filter.1 knows
    refine (consistent.known id before found' name' knew).among ?_ _
    intro same
    exact absurd (List.mem_singleton.1 same) (by simpa using other)
  · exact apart_among consistent.apart fun n _ _ _ opened => absurd opened Bool.false_ne_true.symm

theorem subscribe (consistent : d.Consistent) {id : String} {session : Peer.Session}
    (found : d.sessions.get? id = some session)
    (declared : ∃ n ∈ d.notices, n.isClosed = false ∧ n.name = name)
    (new : ∀ n ∈ d.notices, n.isClosed = false → n.name = name → ∀ m ∈ n.members, m.id ≠ id) :
    Consistent { d.repost [name] fun n => n.add ⟨session.client, id⟩ with
      sessions := d.sessions.insert id (session.subscribe name).2 } := by
  have stays : ∀ {name' : String} {m : Queue.Member}, d.Listed name' m →
      Listed { d.repost [name] fun n => n.add ⟨session.client, id⟩ with
        sessions := d.sessions.insert id (session.subscribe name).2 } name' m := by
    intro name' m listed
    refine listed.among ?_ _
    exact fun _ n named mem => ⟨rfl, named, List.mem_append_left _ mem⟩
  refine ⟨consistent.roll.subscribe found name, ?_, ?_⟩
  · intro id' session' found' name' knows
    rw [Table.get?_insert] at found'
    split at found'
    · rename_i same
      subst same
      obtain rfl := Option.some.inj found'
      have grown : (session.subscribe name).2.client = session.client ∧
          (name' ∈ session.subscriptions ∨ name' = name) := by
        unfold Peer.Session.subscribe at knows ⊢
        split at knows <;> rename_i known
        · rw [if_pos known]
          exact ⟨rfl, .inl knows⟩
        · rw [if_neg known]
          exact ⟨rfl, (List.mem_append.1 knows).imp_right List.mem_singleton.1⟩
      rw [grown.1]
      rcases grown.2 with knew | rfl
      · exact stays (consistent.known id' session found name' knew)
      · obtain ⟨n, posted, opened, named⟩ := declared
        have concerned : n.isClosed = false ∧ n.name ∈ [name'] := ⟨opened, by simp [named]⟩
        refine ⟨_, List.mem_map_of_mem posted, ?_⟩
        rw [Desk.among, if_pos concerned]
        exact ⟨opened, named, List.mem_append_right _ List.mem_cons_self⟩
    · exact stays (consistent.known id' session' found' name' knows)
  · refine apart_among consistent.apart ?_
    intro n posted opened named _
    have once := consistent.apart n posted opened
    have absent := new n posted opened (List.mem_singleton.1 named)
    rw [Notice.add, List.map_append, List.nodup_append]
    refine ⟨once, List.nodup_singleton _, ?_⟩
    intro id' listed id'' added
    obtain ⟨m, mem, rfl⟩ := List.mem_map.1 listed
    rw [List.mem_singleton.1 added]
    exact absent m mem

theorem unsubscribe (consistent : d.Consistent) {id : String} {session : Peer.Session}
    (found : d.sessions.get? id = some session) (name : String) :
    Consistent { d.repost [name] fun n => n.strike id with
      sessions := d.sessions.insert id (session.unsubscribe name).2 } := by
  refine ⟨consistent.roll.unsubscribe found name, ?_, ?_⟩
  · intro id' session' found' name' knows
    rw [Table.get?_insert] at found'
    split at found'
    · rename_i same
      subst same
      obtain rfl := Option.some.inj found'
      obtain ⟨knew, other⟩ := List.mem_filter.1 knows
      refine (consistent.known id' session found name' knew).among ?_ _
      intro concerned
      exact absurd (List.mem_singleton.1 concerned) (by simpa using other)
    · rename_i other
      refine (consistent.known id' session' found' name' knows).among ?_ _
      exact fun _ n named mem => ⟨rfl, named, mem_strike mem other⟩
  · exact apart_among consistent.apart fun n posted opened _ _ =>
      nodup_strike (consistent.apart n posted opened) id

/-- No change lets queues and sessions differ. -/
theorem change (consistent : d.Consistent) (changed : d.Change limit d') : d'.Consistent := by
  cases changed with
  | aside same => exact consistent.congr same
  | connect new named _ => exact consistent.connect new named
  | disconnect found => exact consistent.disconnect found
  | declare _ new => exact consistent.declare new
  | delete name => exact consistent.delete name
  | subscribe found declared new => exact consistent.subscribe found declared new
  | unsubscribe found name => exact consistent.unsubscribe found name

theorem changes (consistent : d.Consistent) (changed : d.Changes limit d') : d'.Consistent := by
  induction changed with
  | refl => exact consistent
  | tail _ step ih => exact ih.change step

end Consistent

end Desk

namespace Broker

variable {b : Broker}

/-- What has arrived on a connection does not concern the register. -/
theorem consistent_reading (consistent : b.desk.Consistent) (e : Episode) :
    (b.reading e).desk.Consistent := by
  rcases b.reading_cases e with same | ⟨id, session, assembler, buffers, found, same⟩
  · rw [same]
    exact consistent
  · rw [same]
    refine consistent.refresh found ?_ ?_ <;> rfl

/-- An episode before the shutdown. -/
theorem consistent_live (consistent : b.desk.Consistent) {e : Episode} (on : e ≠ .shutDown) :
    (b.live e).desk.Consistent := by
  have changed := changes_live consistent.roll.names on
  exact (consistent_reading consistent e).changes changed

theorem consistent_through (consistent : b.desk.Consistent) {episodes : List Episode}
    (on : Episode.shutDown ∉ episodes) : (b.through episodes).desk.Consistent := by
  induction episodes generalizing b with
  | nil => exact consistent
  | cons e episodes ih =>
      obtain ⟨first, others⟩ := List.ne_and_not_mem_of_not_mem_cons on
      exact ih (consistent_live consistent first.symm) others

theorem consistent_start {settings : Settings.Engine} {mint : Nat → CorrelationId} {calendar : Nat}
    {depot : Store.Depot} {start : Broker}
    (started : Broker.new? settings mint calendar depot = some start) : start.desk.Consistent := by
  have blank := (start_blank started).2
  have notices : start.desk.notices = [] := congrArg Register.notices blank
  have sessions : start.desk.sessions = .empty := congrArg Register.sessions blank
  refine ⟨⟨?_, ?_, ?_, ?_⟩, ?_, ?_⟩
  · rw [sessions]
    exact List.nodup_nil
  · intro id c here
    rw [Desk.seat?, sessions] at here
    cases here
  · rw [notices]
    exact .nil
  · simp [notices]
  · intro id session found
    rw [sessions] at found
    cases found
  · simp [notices]

/-- What is registered with a broker. -/
structure Registered (b : Broker) : Prop where
  /-- A declared queue lists a connection just if the connection has a session that lists the
  queue. -/
  listed : ∀ (k : Nat) (lane : Lane), b.lanes[k]? = some lane → lane.queue.isClosed = false → ∀ id,
    lane.queue.roster.contains id = true ↔
      ∃ session, b.sessions.get? id = some session ∧ session.isSubscribed lane.queue.name = true
  /-- The client that is listed is that of the session, and it belongs to this connection. -/
  own : ∀ (k : Nat) (lane : Lane), b.lanes[k]? = some lane → lane.queue.isClosed = false →
    ∀ m ∈ lane.queue.roster.members, ∃ session client, b.sessions.get? m.id = some session ∧
      session.client = m.client ∧ b.clients[m.client]? = some client ∧ client.id = m.id
  /-- No connection is listed twice. -/
  once : ∀ (k : Nat) (lane : Lane), b.lanes[k]? = some lane → lane.queue.isClosed = false →
    (lane.queue.roster.members.map Queue.Member.id).Nodup
  /-- The queues that a session lists are declared. -/
  declared : ∀ (id : String) (session : Peer.Session), b.sessions.get? id = some session →
    ∀ name : String,
    session.isSubscribed name = true → (b.lane? name).isSome = true
  /-- Two declared queues of one name are one. -/
  unique : ∀ (k j : Nat) (lane lane' : Lane), b.lanes[k]? = some lane → b.lanes[j]? = some lane' →
    lane.queue.isClosed = false → lane'.queue.isClosed = false →
    lane.queue.name = lane'.queue.name → k = j

theorem registered_of_consistent (consistent : b.desk.Consistent) : b.Registered := by
  have roll := consistent.roll
  have posted : ∀ {k : Nat} {lane : Lane}, b.lanes[k]? = some lane → lane.notice ∈ b.desk.notices :=
    fun found => List.mem_map_of_mem (List.mem_of_getElem? found)
  refine ⟨?_, ?_, ?_, ?_, ?_⟩
  · intro k lane found opened id
    constructor
    · intro listed
      obtain ⟨m, mem, same⟩ := List.any_eq_true.1 listed
      obtain ⟨session, connected, -, knows⟩ := roll.listed lane.notice (posted found) opened m mem
      rw [beq_iff_eq] at same
      exact ⟨session, same ▸ connected, List.contains_iff_mem.2 knows⟩
    · rintro ⟨session, connected, knows⟩
      obtain ⟨n, posted', opened', named, mem⟩ :=
        consistent.known id session connected _ (List.contains_iff_mem.1 knows)
      obtain rfl := roll.names.eq_of_name posted' (posted found) opened' opened named
      exact List.any_eq_true.2 ⟨_, mem, beq_iff_eq.2 rfl⟩
  · intro k lane found opened m mem
    obtain ⟨session, connected, same, -⟩ := roll.listed lane.notice (posted found) opened m mem
    obtain ⟨client, here, named⟩ := roll.client_of_get? connected
    exact ⟨session, client, connected, same, same ▸ here, named⟩
  · intro k lane found opened
    exact consistent.apart lane.notice (posted found) opened
  · intro id session connected name knows
    obtain ⟨n, posted', opened, named, -⟩ :=
      consistent.known id session connected name (List.contains_iff_mem.1 knows)
    rw [Option.isSome_iff_ne_none]
    intro missing
    exact name_ne_of_missing missing n posted' opened named
  · intro k j lane lane' found found' opened opened' same
    have place : ∀ {k : Nat} {lane : Lane}, b.lanes[k]? = some lane →
        b.desk.notices[k]? = some lane.notice := by
      intro k lane found
      rw [desk, List.getElem?_map, found, Option.map_some]
    exact roll.names.eq_of_place (place found) (place found') opened opened' same

/-- Whatever happens before the shutdown, queues and sessions say the same about each other; and
whatever happens then, a queue keeps its name and its pattern. -/
theorem registration_consistent {settings : Settings.Engine} {mint : Nat → CorrelationId}
    {calendar : Nat} {depot : Store.Depot} {start : Broker}
    (started : Broker.new? settings mint calendar depot = some start) (episodes : List Episode)
    (on : Episode.shutDown ∉ episodes) :
    let b := start.through episodes
    b.Registered ∧ ∀ (more : List Episode) (k : Nat) (lane : Lane), b.lanes[k]? = some lane →
      ∃ lane', (b.through more).lanes[k]? = some lane' ∧ lane'.queue.name = lane.queue.name ∧
        lane'.queue.pattern = lane.queue.pattern := by
  intro b
  refine ⟨registered_of_consistent (consistent_through (consistent_start started) on), ?_⟩
  intro more k lane found
  obtain ⟨said, grows⟩ := b.grows_through more
  have shown : b.front.titles[k]? = some lane.title := by
    rw [front, List.getElem?_map, found, Option.map_some]
  have kept : (b.through more).front.titles[k]? = some lane.title := by
    obtain ⟨since, same⟩ := grows.titles
    rw [← same, List.getElem?_append_left (List.getElem?_eq_some_iff.1 shown).1, shown]
  rw [front, List.getElem?_map] at kept
  obtain ⟨lane', found', same⟩ := Option.map_eq_some_iff.1 kept
  exact ⟨lane', found', congrArg Title.name same, congrArg Title.pattern same⟩

/-- A connection ends and begins again under its id, and subscribes both times. -/
def returning : List Episode :=
  [.stir (.move (.declare "jobs" "work")), .stir (.move (.connect "c" .reliable)),
    .stir (.move (.subscribe "c" "jobs" none)), .stir (.move (.disconnect "c")),
    .stir (.move (.connect "c" .reliable)), .stir (.move (.subscribe "c" "jobs" none))]

/-- The queue lists the second client of the connection, and the first no longer. -/
theorem registration_consistent_returning :
    ∃ lane session, (sample.through returning).lanes[0]? = some lane ∧
      lane.queue.roster.contains "c" = true ∧
      (sample.through returning).sessions.get? "c" = some session ∧ session.client = 1 ∧
      ∀ m ∈ lane.queue.roster.members, m.id = "c" → m.client = 1 := by
  have on : Episode.shutDown ∉ returning := by simp [returning]
  obtain ⟨registered, -⟩ := registration_consistent new?_sample returning on
  obtain ⟨lane, place, opened, named⟩ : ∃ lane, (sample.through returning).lanes[0]? = some lane ∧
      lane.queue.isClosed = false ∧ lane.queue.name = "jobs" := ⟨_, rfl, rfl, rfl⟩
  obtain ⟨session, connected, subscribed, client⟩ : ∃ session,
      (sample.through returning).sessions.get? "c" = some session ∧
        session.isSubscribed "jobs" = true ∧ session.client = 1 := ⟨_, rfl, rfl, rfl⟩
  rw [← named] at subscribed
  refine ⟨lane, session, place, ?_, connected, client, ?_⟩
  · exact (registered.listed 0 lane place opened "c").2 ⟨session, connected, subscribed⟩
  · intro m listed same
    obtain ⟨session', _, connected', own, -⟩ := registered.own 0 lane place opened m listed
    rw [same, connected] at connected'
    rw [← own, ← Option.some.inj connected', client]

end Broker

end MessageBroker
