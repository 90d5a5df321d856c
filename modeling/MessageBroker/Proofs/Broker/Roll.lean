import MessageBroker.Proofs.Broker.Desk
import MessageBroker.Proofs.Table

/-!
# The roll of a desk

Whoever is listed at a queue is connected: there is a session under the same connection id, which
has the same client record and knows of the queue. That is how a connection that ends finds every
list it is on. No two connections share a client record, and no two declared queues a name.
-/

namespace MessageBroker

namespace Desk

/-- The number of the client record of a connection. -/
def seat? (d : Desk) (id : String) : Option Nat :=
  (d.sessions.get? id).map Peer.Session.client

/-- Whether a client record belongs to a connection. -/
def Seated (d : Desk) (c : Nat) : Prop :=
  ∃ id, d.seat? id = some c

/-- Whether the session of a subscriber knows of a queue. -/
def Enrolled (d : Desk) (name : String) (m : Queue.Member) : Prop :=
  ∃ session, d.sessions.get? m.id = some session ∧ session.client = m.client ∧
    name ∈ session.subscriptions

/-- The declared queues have different names. -/
def Distinct (notices : List Notice) : Prop :=
  notices.Pairwise fun n n' => n.isClosed = false → n'.isClosed = false → n.name ≠ n'.name

/-- Sessions, client records and lists of subscribers agree. -/
structure Roll (d : Desk) : Prop where
  once : d.sessions.keys.Nodup
  seats : ∀ id c, d.seat? id = some c → (d.clients.map Peer.Client.id)[c]? = some id
  names : Distinct d.notices
  listed : ∀ n ∈ d.notices, n.isClosed = false → ∀ m ∈ n.members, d.Enrolled n.name m

/-- A change of the notice of a declared queue that has one of certain names. -/
def among (names : List String) (g : Notice → Notice) (n : Notice) : Notice :=
  if n.isClosed = false ∧ n.name ∈ names then g n else n

/-- The notices of the declared queues of certain names are changed. -/
def repost (d : Desk) (names : List String) (g : Notice → Notice) : Desk :=
  { d with notices := d.notices.map (among names g) }

variable {d d' : Desk}

theorem seat?_of_get? {id : String} {session : Peer.Session}
    (found : d.sessions.get? id = some session) : d.seat? id = some session.client := by
  rw [seat?, found, Option.map_some]

theorem Seated.of_enrolled {name : String} {m : Queue.Member} (enrolled : d.Enrolled name m) :
    d.Seated m.client := by
  obtain ⟨session, found, client, -⟩ := enrolled
  exact ⟨m.id, client ▸ seat?_of_get? found⟩

/-- A change that neither renames queues nor opens them again keeps their names different. -/
theorem Distinct.map {notices : List Notice} (names : Distinct notices) {f : Notice → Notice}
    (marks : ∀ n, (f n).name = n.name ∧ ((f n).isClosed = false → n.isClosed = false)) :
    Distinct (notices.map f) := by
  refine List.pairwise_map.2 (names.imp ?_)
  intro n n' other opened opened'
  rw [(marks n).1, (marks n').1]
  exact other ((marks n).2 opened) ((marks n').2 opened')

/-- Two declared queues of one name stand in one place. -/
theorem Distinct.eq_of_place {notices : List Notice} (names : Distinct notices) {k j : Nat}
    {n n' : Notice} (found : notices[k]? = some n) (found' : notices[j]? = some n')
    (opened : n.isClosed = false) (opened' : n'.isClosed = false) (same : n.name = n'.name) :
    k = j := by
  obtain ⟨hk, rfl⟩ := List.getElem?_eq_some_iff.1 found
  obtain ⟨hj, rfl⟩ := List.getElem?_eq_some_iff.1 found'
  have apart := List.pairwise_iff_getElem.1 names
  rcases Nat.lt_trichotomy k j with before | here | since
  · exact absurd same (apart k j hk hj before opened opened')
  · exact here
  · exact absurd same.symm (apart j k hj hk since opened' opened)

theorem Distinct.eq_of_name {notices : List Notice} (names : Distinct notices) {n n' : Notice}
    (posted : n ∈ notices) (posted' : n' ∈ notices) (opened : n.isClosed = false)
    (opened' : n'.isClosed = false) (same : n.name = n'.name) : n = n' := by
  obtain ⟨k, found⟩ := List.mem_iff_getElem?.1 posted
  obtain ⟨j, found'⟩ := List.mem_iff_getElem?.1 posted'
  obtain rfl := names.eq_of_place found found' opened opened' same
  exact Option.some.inj (found.symm.trans found')

theorem among_marks {names : List String} {g : Notice → Notice} (named : ∀ n, (g n).name = n.name)
    (n : Notice) :
    (among names g n).name = n.name ∧ ((among names g n).isClosed = false → n.isClosed = false) := by
  unfold among
  split
  · rename_i concerned
    exact ⟨named n, fun _ => concerned.1⟩
  · exact ⟨rfl, fun opened => opened⟩

/-- Whoever is listed after a connection was struck off was listed before, and is not that
connection if the queue was concerned. -/
theorem of_mem_strike {names : List String} {id : String} {n : Notice} {m : Queue.Member}
    (opened : (among names (fun n => n.strike id) n).isClosed = false)
    (mem : m ∈ (among names (fun n => n.strike id) n).members) :
    n.isClosed = false ∧ m ∈ n.members ∧ (n.name ∈ names → m.id ≠ id) := by
  unfold among at opened mem
  split at opened <;> rename_i concerned
  · rw [if_pos concerned] at mem
    obtain ⟨earlier, other⟩ := List.mem_filter.1 mem
    exact ⟨concerned.1, earlier, fun _ => by simpa using other⟩
  · rw [if_neg concerned] at mem
    exact ⟨opened, mem, fun named => absurd ⟨opened, named⟩ concerned⟩

/-- Of several declared queues only one has a certain name. -/
theorem Distinct.modify_eq_map {notices : List Notice} (names : Distinct notices) {k : Nat}
    {n : Notice} (found : notices[k]? = some n) (opened : n.isClosed = false) (g : Notice → Notice) :
    notices.modify k g = notices.map (among [n.name] g) := by
  apply List.ext_getElem?
  intro j
  rw [List.getElem?_modify, List.getElem?_map]
  by_cases here : k = j
  · subst here
    simp [found, opened, among]
  · simp only [if_neg here]
    cases found' : notices[j]? with
    | none => rfl
    | some n' =>
        have other : ¬(n'.isClosed = false ∧ n'.name ∈ [n.name]) := by
          rintro ⟨opened', same⟩
          rw [List.mem_singleton] at same
          exact here (names.eq_of_place found found' opened opened' same.symm)
        simp only [Option.map_eq_map, Option.map_some, among, if_neg other]

/-! ## Sessions that keep their client records -/

theorem seat?_map {f : Peer.Session → Peer.Session} (same : ∀ s, (f s).client = s.client)
    (id : String) : seat? { d with sessions := d.sessions.map f } id = d.seat? id := by
  rw [seat?, Table.get?_map, Option.map_map, seat?]
  congr 1
  funext session
  exact same session

theorem seat?_insert {id : String} {session session' : Peer.Session}
    (found : d.sessions.get? id = some session) (same : session'.client = session.client)
    (id' : String) :
    seat? { d with sessions := d.sessions.insert id session' } id' = d.seat? id' := by
  rw [seat?, Table.get?_insert, seat?]
  split
  · rename_i here
    rw [here, found, Option.map_some, Option.map_some, same]
  · rfl

theorem seat?_erase (id id' : String) :
    seat? { d with sessions := d.sessions.erase id } id' = if id' = id then none else d.seat? id' := by
  rw [seat?, Table.get?_erase, seat?]
  split <;> rfl

/-! ## What changes the roll -/

namespace Roll

/-- Two connections do not share a client record. -/
theorem eq_of_seat (roll : d.Roll) {id id' : String} {c : Nat} (here : d.seat? id = some c)
    (here' : d.seat? id' = some c) : id = id' :=
  Option.some.inj ((roll.seats id c here).symm.trans (roll.seats id' c here'))

/-- The client record of a connection. -/
theorem client_of_get? (roll : d.Roll) {id : String} {session : Peer.Session}
    (found : d.sessions.get? id = some session) :
    ∃ client, d.clients[session.client]? = some client ∧ client.id = id := by
  have shown := roll.seats id _ (seat?_of_get? found)
  rw [List.getElem?_map] at shown
  exact Option.map_eq_some_iff.1 shown

theorem congr (roll : d.Roll) (notices : d'.notices = d.notices) (sessions : d'.sessions = d.sessions)
    (ids : d'.clients.map Peer.Client.id = d.clients.map Peer.Client.id) : d'.Roll where
  once := sessions ▸ roll.once
  seats := by
    intro id c here
    rw [ids]
    rw [seat?, sessions] at here
    exact roll.seats id c here
  names := notices ▸ roll.names
  listed := by
    intro n posted opened m mem
    rw [notices] at posted
    obtain ⟨session, found, same⟩ := roll.listed n posted opened m mem
    exact ⟨session, sessions ▸ found, same⟩

/-- Notices and sessions change together: no connection gets another client record, no queue another
name, and whoever is listed then is enrolled. -/
theorem revise (roll : d.Roll) {f : Notice → Notice} {sessions : Table String Peer.Session}
    (once : sessions.keys.Nodup)
    (seats : ∀ id c, seat? { d with sessions } id = some c → d.seat? id = some c)
    (marks : ∀ n, (f n).name = n.name ∧ ((f n).isClosed = false → n.isClosed = false))
    (listed : ∀ n ∈ d.notices, (f n).isClosed = false → ∀ m ∈ (f n).members,
      Enrolled { d with sessions } n.name m) :
    Roll { d with notices := d.notices.map f, sessions } where
  once := once
  seats := by
    intro id c here
    exact roll.seats id c (seats id c here)
  names := roll.names.map marks
  listed := by
    intro n' posted opened m mem
    obtain ⟨n, posted', rfl⟩ := List.mem_map.1 posted
    rw [(marks n).1]
    exact listed n posted' opened m mem

/-- A session that keeps its client record and its subscriptions may change otherwise. -/
theorem refresh (roll : d.Roll) {id : String} {session session' : Peer.Session}
    (found : d.sessions.get? id = some session) (client : session'.client = session.client)
    (subscriptions : session'.subscriptions = session.subscriptions) :
    Roll { d with sessions := d.sessions.insert id session' } := by
  have kept : Roll { d with
      notices := d.notices.map fun n => n
      sessions := d.sessions.insert id session' } := by
    refine roll.revise (Table.nodup_keys_insert roll.once _ _) ?_
      (fun _ => ⟨rfl, fun opened => opened⟩) ?_
    · intro id' c here
      rwa [seat?_insert found client] at here
    · intro n posted opened m mem
      obtain ⟨session'', found', client', knows⟩ := roll.listed n posted opened m mem
      by_cases same : m.id = id
      · rw [same, found] at found'
        obtain rfl := Option.some.inj found'
        exact ⟨session', (Table.get?_insert _ _ _ _).trans (if_pos same), client.trans client',
          subscriptions ▸ knows⟩
      · exact ⟨session'', ((Table.get?_insert _ _ _ _).trans (if_neg same)).trans found', client',
          knows⟩
  rwa [List.map_id'] at kept

/-- A connection begins, with a client record of its own. -/
theorem connect (roll : d.Roll) {id : String} (new : d.sessions.get? id = none)
    {client : Peer.Client} (named : client.id = id) {session : Peer.Session}
    (own : session.client = d.clients.length) :
    Roll { d with
      clients := d.clients ++ [client]
      sessions := d.sessions.insert id session } where
  once := Table.nodup_keys_insert roll.once _ _
  seats := by
    intro id' c here
    rw [seat?, Table.get?_insert] at here
    rw [List.map_append]
    split at here
    · rename_i same
      have place : c = (d.clients.map Peer.Client.id).length := by
        rw [List.length_map, ← own]
        exact (Option.some.inj here).symm
      rw [place, List.getElem?_append_right (Nat.le_refl _), Nat.sub_self, same, ← named]
      rfl
    · have before := roll.seats id' c here
      rw [List.getElem?_append_left (List.getElem?_eq_some_iff.1 before).1]
      exact before
  names := roll.names
  listed := by
    intro n posted opened m mem
    obtain ⟨session', found, same⟩ := roll.listed n posted opened m mem
    have other : m.id ≠ id := by
      intro same
      rw [same, new] at found
      exact Option.some_ne_none _ found.symm
    exact ⟨session', ((Table.get?_insert _ _ _ _).trans (if_neg other)).trans found, same⟩

/-- A queue is declared under a name that no declared queue has. -/
theorem declare (roll : d.Roll) {name : String}
    (new : ∀ n ∈ d.notices, n.isClosed = false → n.name ≠ name) :
    Roll { d with notices := d.notices ++ [⟨name, false, []⟩] } where
  once := roll.once
  seats := roll.seats
  names := by
    refine List.pairwise_append.2 ⟨roll.names, List.pairwise_singleton _ _, ?_⟩
    intro n posted n' added opened _
    obtain rfl := List.mem_singleton.1 added
    exact new n posted opened
  listed := by
    intro n posted opened m mem
    rcases List.mem_append.1 posted with before | added
    · exact roll.listed n before opened m mem
    · obtain rfl := List.mem_singleton.1 added
      exact absurd mem List.not_mem_nil

/-- A queue is deleted, and all sessions forget it. -/
theorem delete (roll : d.Roll) (name : String) :
    Roll { d.repost [name] Notice.abolish with
      sessions := d.sessions.map fun session => (session.unsubscribe name).2 } := by
  have kept : ∀ session : Peer.Session, (session.unsubscribe name).2.client = session.client :=
    fun _ => rfl
  refine roll.revise (Table.keys_map d.sessions _ ▸ roll.once) ?_ (among_marks fun _ => rfl) ?_
  · intro id c here
    rwa [seat?_map kept] at here
  · intro n posted opened m mem
    have other : n.name ≠ name ∧ n.isClosed = false ∧ m ∈ n.members := by
      unfold among at opened mem
      split at opened <;> rename_i concerned
      · exact absurd opened Bool.false_ne_true.symm
      · rw [if_neg concerned] at mem
        exact ⟨fun same => concerned ⟨opened, List.mem_singleton.2 same⟩, opened, mem⟩
    obtain ⟨session, found, client, knows⟩ := roll.listed n posted other.2.1 m other.2.2
    refine ⟨(session.unsubscribe name).2, ?_, client, ?_⟩
    · exact (Table.get?_map _ _ _).trans (by rw [found, Option.map_some])
    · exact List.mem_filter.2 ⟨knows, by simpa using other.1⟩

/-- A connection subscribes to a queue. -/
theorem subscribe (roll : d.Roll) {id : String} {session : Peer.Session}
    (found : d.sessions.get? id = some session) (name : String) :
    Roll { d.repost [name] fun n => n.add ⟨session.client, id⟩ with
      sessions := d.sessions.insert id (session.subscribe name).2 } := by
  have grown : (session.subscribe name).2.client = session.client ∧
      name ∈ (session.subscribe name).2.subscriptions ∧
      ∀ q ∈ session.subscriptions, q ∈ (session.subscribe name).2.subscriptions := by
    unfold Peer.Session.subscribe
    split
    · rename_i known
      exact ⟨rfl, List.contains_iff_mem.1 known, fun _ listed => listed⟩
    · exact ⟨rfl, List.mem_append_right _ List.mem_cons_self,
        fun _ listed => List.mem_append_left _ listed⟩
  obtain ⟨client, now, before⟩ := grown
  refine roll.revise (Table.nodup_keys_insert roll.once _ _) ?_ (among_marks fun _ => rfl) ?_
  · intro id' c here
    rwa [seat?_insert found client] at here
  · intro n posted opened m mem
    have still : ∀ m' ∈ n.members, n.isClosed = false →
        Enrolled { d with sessions := d.sessions.insert id (session.subscribe name).2 } n.name m' := by
      intro m' mem' opened'
      obtain ⟨session', found', client', knows⟩ := roll.listed n posted opened' m' mem'
      by_cases same : m'.id = id
      · rw [same, found] at found'
        obtain rfl := Option.some.inj found'
        exact ⟨_, (Table.get?_insert _ _ _ _).trans (if_pos same), client.trans client',
          before _ knows⟩
      · exact ⟨session', ((Table.get?_insert _ _ _ _).trans (if_neg same)).trans found', client',
          knows⟩
    unfold among at opened mem
    split at opened <;> rename_i concerned
    · rw [if_pos concerned] at mem
      rcases List.mem_append.1 mem with earlier | added
      · exact still m earlier concerned.1
      · obtain rfl := List.mem_singleton.1 added
        rw [List.mem_singleton.1 concerned.2]
        exact ⟨_, (Table.get?_insert _ _ _ _).trans (if_pos rfl), client, now⟩
    · rw [if_neg concerned] at mem
      exact still m mem opened

/-- A connection leaves a queue. -/
theorem unsubscribe (roll : d.Roll) {id : String} {session : Peer.Session}
    (found : d.sessions.get? id = some session) (name : String) :
    Roll { d.repost [name] fun n => n.strike id with
      sessions := d.sessions.insert id (session.unsubscribe name).2 } := by
  refine roll.revise (Table.nodup_keys_insert roll.once _ _) ?_ (among_marks fun _ => rfl) ?_
  · intro id' c here
    rwa [seat?_insert found (by rfl)] at here
  · intro n posted opened m mem
    obtain ⟨opened', mem', other⟩ := of_mem_strike opened mem
    obtain ⟨session', found', client', knows⟩ := roll.listed n posted opened' m mem'
    by_cases same : m.id = id
    · rw [same, found] at found'
      obtain rfl := Option.some.inj found'
      refine ⟨_, (Table.get?_insert _ _ _ _).trans (if_pos same), client', ?_⟩
      exact List.mem_filter.2 ⟨knows, by simpa using fun h => other (List.mem_singleton.2 h) same⟩
    · exact ⟨session', ((Table.get?_insert _ _ _ _).trans (if_neg same)).trans found', client',
        knows⟩

/-- A connection ends: it is struck off the lists that its session knows of, and those are all. -/
theorem disconnect (roll : d.Roll) {id : String} {session : Peer.Session}
    (found : d.sessions.get? id = some session) :
    Roll { d.repost session.subscriptions fun n => n.strike id with
      sessions := d.sessions.erase id } := by
  refine roll.revise (Table.nodup_keys_erase roll.once _) ?_ (among_marks fun _ => rfl) ?_
  · intro id' c here
    rw [seat?_erase] at here
    split at here
    · cases here
    · exact here
  · intro n posted opened m mem
    obtain ⟨opened', mem', struck⟩ := of_mem_strike opened mem
    obtain ⟨session', found', client', knows⟩ := roll.listed n posted opened' m mem'
    have other : m.id ≠ id := by
      intro same
      rw [same, found] at found'
      obtain rfl := Option.some.inj found'
      exact struck knows same
    exact ⟨session', ((Table.get?_erase _ _ _).trans (if_neg other)).trans found', client', knows⟩

end Roll

end Desk

namespace Broker

variable {b : Broker} {name : String}

/-! ## Declared queues -/

theorem notice_of_lane? {k : Nat} {lane : Lane} (found : b.lane? name = some (k, lane)) :
    b.desk.notices[k]? = some lane.notice ∧ lane.notice.isClosed = false ∧
      lane.notice.name = name := by
  obtain ⟨place, opened, named⟩ := lane?_eq_some found
  refine ⟨?_, opened, named⟩
  simp only [desk, List.getElem?_map, place, Option.map_some]

theorem name_ne_of_missing (missing : b.lane? name = none) :
    ∀ n ∈ b.desk.notices, n.isClosed = false → n.name ≠ name := by
  intro n posted opened named
  obtain ⟨lane, here, rfl⟩ := List.mem_map.1 posted
  obtain ⟨k, place⟩ := List.mem_iff_getElem?.1 here
  have listed : (k, lane) ∈ b.lanes.mapIdx fun k lane => (k, lane) := by
    refine List.mem_iff_getElem?.2 ⟨k, ?_⟩
    rw [List.getElem?_mapIdx, place, Option.map_some]
  have shut := List.find?_eq_none.1 missing _ listed
  have opened' : lane.queue.isClosed = false := opened
  have named' : lane.queue.name = name := named
  simp [opened', named'] at shut

/-- To change the lane of a declared queue is to change the queue of its name. -/
theorem modifyNotice_of_lane? (names : Desk.Distinct b.desk.notices) {k : Nat} {lane : Lane}
    (found : b.lane? name = some (k, lane)) (g : Notice → Notice) :
    b.desk.modifyNotice k g = b.desk.repost [name] g := by
  obtain ⟨place, opened, named⟩ := notice_of_lane? found
  rw [Desk.modifyNotice, names.modify_eq_map place opened, named]
  rfl

theorem repost_of_missing (missing : b.lane? name = none) (g : Notice → Notice) :
    b.desk.repost [name] g = b.desk := by
  have same : b.desk.notices.map (Desk.among [name] g) = b.desk.notices := by
    refine (List.map_congr_left ?_).trans (List.map_id _)
    intro n posted
    have other : ¬(n.isClosed = false ∧ n.name ∈ [name]) := fun concerned =>
      name_ne_of_missing missing n posted concerned.1 (List.mem_singleton.1 concerned.2)
    exact if_neg other
  rw [Desk.repost, same]

theorem repost_strike (names : Desk.Distinct b.desk.notices) (id name : String) :
    (b.strike id name).desk = b.desk.repost [name] fun n => n.strike id := by
  rw [desk_strike]
  cases found : b.lane? name with
  | none => exact (repost_of_missing found _).symm
  | some entry => exact modifyNotice_of_lane? names found _

/-- A connection is struck off the lists of several queues. -/
theorem repost_strikeEach (names : Desk.Distinct b.desk.notices) (id : String)
    (queues : List String) :
    (queues.foldl (fun b name => b.strike id name) b).desk =
      b.desk.repost queues fun n => n.strike id := by
  induction queues generalizing b with
  | nil =>
      have same : b.desk.notices.map (Desk.among [] fun n => n.strike id) = b.desk.notices := by
        refine (List.map_congr_left ?_).trans (List.map_id _)
        intro n _
        exact if_neg fun concerned => List.not_mem_nil concerned.2
      rw [Desk.repost, same]
      rfl
  | cons name queues ih =>
      have struck := b.repost_strike names id name
      have names' : Desk.Distinct (b.strike id name).desk.notices := by
        rw [struck]
        exact names.map (Desk.among_marks fun _ => rfl)
      rw [List.foldl_cons, ih names', struck, Desk.repost, Desk.repost, Desk.repost, List.map_map]
      congr 1
      refine List.map_congr_left ?_
      intro n _
      rw [Function.comp_apply, Desk.among, Desk.among, Desk.among]
      by_cases opened : n.isClosed = false
      · by_cases here : n.name = name <;> by_cases later : n.name ∈ queues <;>
          simp [opened, here, later, Notice.strike]
      · simp [opened]

end Broker

end MessageBroker
