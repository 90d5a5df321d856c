import MessageBroker.Proofs.Lease.Circulation
import MessageBroker.Proofs.Stream.Chunking
import MessageBroker.Proofs.Stream.Guards

/-!
# An assembler is a queue of bytes

To its user an assembler is a queue: a write appends bytes, and bytes leave at the front when they
are consumed or make up a frame. Where the bytes stand in the buffer, and in which buffer, does not
show.

An assembler shares its buffer pool with others, who rent buffers, fill them and give them back
between any two of its calls. The main statement is about an assembler on any pool in circulation,
with any calls, and anything that others do between them. It says that the answers and the unread
bytes are those of the queue, that the marks stay in order and within the buffer, and that with
buffers of less than 2^62 bytes nothing leaves its range.
-/

namespace MessageBroker.Stream

open Lease Wire

/-- A call of an assembler. -/
inductive Call where
  | write (data : Bytes)
  /-- Look at the first bytes. -/
  | read (n : Nat)
  /-- Use up the first bytes. -/
  | consume (n : Nat)
  /-- Take the next frame. Its body may be copied out, or be used where it lies. -/
  | next
  /-- Write, and take all frames that are now complete. -/
  | push (data : Bytes)
  | clear

/-- The answer to a call. -/
inductive Reply where
  | done
  | bytes (result : Except Error Bytes)
  | frame (result : Except Error (Option Frame))
  | frames (result : Except Error (List Frame))

namespace Call

/-- The bytes that a call writes. -/
def written : Call → Bytes
  | write data => data
  | push data => data
  | _ => []

/-- The first bytes of a queue, if there are that many. -/
def front (q : Bytes) (n : Nat) : Except Error Bytes :=
  if n ≤ q.length then .ok (q.take n) else .error (.underrun n q.length)

/-- The frames of a parse, unless a violation ends them. -/
def outcome (p : Parse) : Except Error (List Frame) :=
  match p.violation? with
  | none => .ok p.frames
  | some e => .error e

/-- What a call does to a queue of bytes. -/
def onQueue (limit : Nat) (q : Bytes) : Call → Reply × Bytes
  | write data => (.done, q ++ data)
  | read n => (.bytes (front q n), q)
  | consume n => (.bytes (front q n), if n ≤ q.length then q.drop n else q)
  | next =>
    match Frame.decode q limit with
    | .ok f => (.frame (.ok (some f)), q.drop f.size)
    | .error e => (.frame (if e.isViolation then .error e else .ok none), q)
  | push data =>
    let parse := Frame.parse limit (q ++ data)
    (.frames (outcome parse), parse.rest)
  | clear => (.done, [])

/-- What calls do to a queue of bytes one after the other. -/
def runOnQueue (limit : Nat) : Bytes → List Call → List Reply × Bytes
  | q, [] => ([], q)
  | q, c :: calls =>
    let (reply, q) := c.onQueue limit q
    let (replies, q) := runOnQueue limit q calls
    (reply :: replies, q)

end Call

namespace Assembler

/-- The answer when bytes were to be consumed. -/
def consumed (a : Assembler) (pool : BufferPool) :
    Except Error (Bytes × Assembler) → Reply × Assembler × BufferPool
  | .ok (bytes, a) => (.bytes (.ok bytes), a, pool)
  | .error e => (.bytes (.error e), a, pool)

/-- The answer when a frame was to be taken. -/
def taken (a : Assembler) (pool : BufferPool) :
    Except Error (Option (Frame × Assembler)) → Reply × Assembler × BufferPool
  | .ok (some (f, a)) => (.frame (.ok (some f)), a, pool)
  | .ok none => (.frame (.ok none), a, pool)
  | .error e => (.frame (.error e), a, pool)

/-- Answer a call. -/
def call (a : Assembler) (pool : BufferPool) : Call → Reply × Assembler × BufferPool
  | .write data => (.done, a.write pool data)
  | .read n => (.bytes (a.read n), a, pool)
  | .consume n => a.consumed pool (a.consume n)
  | .next => a.taken pool a.next
  | .push data => (a.push pool data).map .frames id
  | .clear => (.done, a.clear, pool)

/-- Answer a call with everything checked. -/
def call? (a : Assembler) (pool : BufferPool) : Call → Option (Reply × Assembler × BufferPool)
  | .write data => (a.write? pool data).map (.done, ·)
  | .read n => (a.read? n).map fun result => (.bytes result, a, pool)
  | .consume n => (a.consume? n).map (a.consumed pool)
  | .next => a.next?.map (a.taken pool)
  | .push data => (a.push? pool data).map fun result => result.map .frames id
  | .clear => some (.done, a.clear, pool)

/-- An assembler drains as a reader takes frames. -/
theorem drainUpTo_eq (steps : Nat) (a : Assembler) :
    a.drainUpTo steps =
      let out := Reader.assembler.takeUpTo steps a
      (out.1.frames, out.1.fault?, out.2) := by
  induction steps generalizing a with
  | zero => rfl
  | succ steps ih =>
    simp only [drainUpTo, Reader.takeUpTo, show Reader.assembler.next a = a.next from rfl, ih]
    cases a.next with
    | error e => rfl
    | ok found =>
      cases found with
      | none => rfl
      | some found => rfl

/-- A push parses the bytes that wait with those that come. -/
theorem Sound.push {a : Assembler} (sound : a.Sound) (pool : BufferPool) (data : Bytes) :
    let parse := Frame.parse a.bodyLimit (a.unread ++ data)
    (a.push pool data).1 = Call.outcome parse ∧
      (a.push pool data).2.1.unread = parse.rest ∧
      (a.push pool data).2.1.bodyLimit = a.bodyLimit := by
  intro parse
  obtain ⟨written, appended⟩ := sound.write pool data
  obtain ⟨answer, -, left⟩ := (Reader.assembler_refines a.bodyLimit).takeAll
    ⟨written, appended, a.bodyLimit_write pool data⟩
  have drained : (a.write pool data).1.drain =
      (parse.frames, parse.violation?, (Reader.assembler.takeAll (a.write pool data).1).2) := by
    rw [drain, drainUpTo_eq]
    exact congrArg (fun answer : Answer => (answer.frames, answer.fault?, _)) answer
  simp only [Assembler.push, drained, Call.outcome]
  cases parse.violation? with
  | none => exact ⟨rfl, left⟩
  | some e => exact ⟨rfl, left⟩

theorem Sound.read_eq_front {a : Assembler} (sound : a.Sound) (n : Nat) :
    a.read n = Call.front a.unread n := by
  rw [Call.front]
  split
  · rename_i room
    exact sound.read_eq room
  · rename_i short
    rw [read, if_neg (mt (sound.canRead_iff n).1 short), sound.length_unread]

/-- A call does to the unread bytes what it does to a queue. -/
theorem Sound.call {a : Assembler} (sound : a.Sound) (pool : BufferPool) (c : Call) :
    (a.call pool c).1 = (c.onQueue a.bodyLimit a.unread).1 ∧
      (a.call pool c).2.1.unread = (c.onQueue a.bodyLimit a.unread).2 ∧
      (a.call pool c).2.1.bodyLimit = a.bodyLimit := by
  cases c with
  | write data => exact ⟨rfl, (sound.write pool data).2, a.bodyLimit_write pool data⟩
  | read n => exact ⟨congrArg Reply.bytes (sound.read_eq_front n), rfl, rfl⟩
  | consume n =>
    simp only [Assembler.call, consume, sound.read_eq_front, Call.onQueue, Call.front]
    split
    · rename_i room
      exact ⟨rfl, (sound.advance room).2, rfl⟩
    · exact ⟨rfl, rfl, rfl⟩
  | next =>
    simp only [Assembler.call, sound.next_eq, Call.onQueue]
    cases found : Frame.decode a.unread a.bodyLimit with
    | ok f => exact ⟨rfl, (sound.advance (Frame.size_le_of_decode found)).2, rfl⟩
    | error e =>
      simp only
      split <;> exact ⟨rfl, rfl, rfl⟩
  | push data =>
    obtain ⟨answer, left⟩ := sound.push pool data
    exact ⟨congrArg Reply.frames answer, left⟩
  | clear =>
    refine ⟨rfl, ?_, rfl⟩
    change a.clear.unread = []
    rw [(Fitted.clear a).toSound.unread_eq]
    exact List.take_zero

/-- A push leaves the buffer that the write leaves. -/
theorem Fitted.push {a : Assembler} (fitted : a.Fitted) {pool : BufferPool} (order : pool.InOrder)
    (data : Bytes) :
    (a.push pool data).2.1.Fitted ∧ (a.push pool data).2.1.buffer = (a.write pool data).1.buffer ∧
      (a.push pool data).2.2 = (a.write pool data).2 := by
  obtain ⟨fitted', buffer⟩ := (fitted.write order data).drainUpTo ((a.write pool data).1.size + 1)
  simp only [Assembler.push]
  rcases drained : (a.write pool data).1.drain with ⟨frames, fault, a'⟩
  rw [← drain, drained] at fitted' buffer
  cases fault with
  | none => exact ⟨fitted', buffer, rfl⟩
  | some e => exact ⟨fitted', buffer, rfl⟩

/-- Buffer and pool are what writing leaves of them. -/
theorem Fitted.call {a : Assembler} (fitted : a.Fitted) {pool : BufferPool} (order : pool.InOrder)
    (c : Call) :
    (a.call pool c).2.1.Fitted ∧
      (a.call pool c).2.1.buffer = (a.write pool c.written).1.buffer ∧
      (a.call pool c).2.2 = (a.write pool c.written).2 := by
  cases c with
  | write data => exact ⟨fitted.write order data, rfl, rfl⟩
  | read n => exact ⟨fitted, rfl, rfl⟩
  | consume n =>
    simp only [Assembler.call, consume, fitted.toSound.read_eq_front, Call.front]
    split
    · rename_i room
      exact ⟨fitted.advance room, rfl, rfl⟩
    · exact ⟨fitted, rfl, rfl⟩
  | next =>
    simp only [Assembler.call]
    cases result : a.next with
    | error e => exact ⟨fitted, rfl, rfl⟩
    | ok found =>
      cases found with
      | none => exact ⟨fitted, rfl, rfl⟩
      | some found =>
        obtain ⟨fitted', buffer⟩ := fitted.next result
        exact ⟨fitted', buffer, rfl⟩
  | push data => exact fitted.push order data
  | clear => exact ⟨.clear a, rfl, rfl⟩

/-- On marks that fit, in buffers that are not too large, checks find no fault. -/
theorem Fitted.call?_eq {a : Assembler} (fitted : a.Fitted) {pool : BufferPool}
    (order : pool.InOrder) (c : Call) (small : a.capacity < 2 ^ 62)
    (small' : (a.call pool c).2.1.capacity < 2 ^ 62) :
    a.call? pool c = some (a.call pool c) := by
  cases c with
  | write data => exact congrArg (Option.map _) (fitted.write?_eq order small small')
  | read n => exact congrArg (Option.map _) (fitted.read?_eq small n)
  | consume n => exact congrArg (Option.map _) (fitted.consume?_eq small n)
  | next => exact congrArg (Option.map _) (fitted.next?_eq small)
  | push data =>
    have buffer := (fitted.push order data).2.1
    have small'' : (a.write pool data).1.capacity < 2 ^ 62 := by
      rw [capacity, ← buffer]
      exact small'
    exact congrArg (Option.map _) (fitted.push?_eq order small small'')
  | clear => rfl

end Assembler

/-- An assembler at work, with the pools and buffers of others around it. -/
structure Station where
  world : Circulation
  /-- The place of its pool. -/
  home : Nat
  assembler : Assembler

/-- What happens to an assembler and around it. -/
inductive Event where
  | call (c : Call)
  /-- Others do something with pools and buffers. -/
  | elsewhere (move : Circulation.Move)

/-- The calls among events. -/
def Event.call? : Event → Option Call
  | call c => some c
  | elsewhere _ => none

namespace Station

/-- Put the assembler and its pool in the place of what they were. -/
def update (s : Station) (result : Assembler × BufferPool) : Station :=
  { s with assembler := result.1, world := s.world.setPool s.home result.2 }

/-- The answer to a call, if the event is one, and what the event leads to. -/
def step (s : Station) : Event → List Reply × Station
  | .elsewhere move => ([], { s with world := s.world.apply move })
  | .call c =>
    match s.world.pools[s.home]? with
    | none => ([], s)
    | some pool =>
      let (reply, result) := s.assembler.call pool c
      ([reply], s.update result)

/-- The same with everything checked that the assembler does. -/
def step? (s : Station) : Event → Option (List Reply × Station)
  | .elsewhere move => some ([], { s with world := s.world.apply move })
  | .call c =>
    match s.world.pools[s.home]? with
    | none => some ([], s)
    | some pool => (s.assembler.call? pool c).map fun (reply, result) => ([reply], s.update result)

/-- The answers to the calls among events, and what the events lead to. -/
def run : Station → List Event → List Reply × Station
  | s, [] => ([], s)
  | s, event :: events =>
    let (first, s) := s.step event
    let (later, s) := run s events
    (first ++ later, s)

/-- The same with everything checked that the assembler does. -/
def run? : Station → List Event → Option (List Reply × Station)
  | s, [] => some ([], s)
  | s, event :: events => do
    let (first, s) ← s.step? event
    let (later, s) ← run? s events
    some (first ++ later, s)

/-- A new assembler on one of the pools. -/
def opened (world : Circulation) (home : Nat) (pool : BufferPool) (initial limit : Nat) : Station :=
  let (assembler, pool) := Assembler.new pool initial limit
  ⟨world.setPool home pool, home, assembler⟩

/-- All is in order: the pools around, the marks, and the buffer, whose tag leads to the class of
its size. The classes of the assembler's own pool stay the same. -/
structure Settled (s : Station) (classes : List (Nat × Nat)) : Prop where
  world : s.world.Sound
  home : s.world.catalogs[s.home]? = some classes
  fitted : s.assembler.Fitted
  fits : BufferPool.Fits s.world.catalog s.assembler.buffer

theorem sound_release {world : Circulation} (sound : world.Sound) {k : Nat} {p : BufferPool}
    (found : world.pools[k]? = some p) {b : Leased Buffer}
    (fits : BufferPool.Fits world.catalog b) :
    (world.setPool k (Assembler.release p b)).Sound ∧
      (world.setPool k (Assembler.release p b)).catalogs = world.catalogs := by
  unfold Assembler.release
  split
  · rename_i p' accepted
    exact sound.giveBack found fits accepted
  · rw [Circulation.setPool_self found]
    exact ⟨sound, rfl⟩

namespace Settled

variable {s : Station} {classes : List (Nat × Nat)}

theorem pool (settled : s.Settled classes) :
    ∃ p, s.world.pools[s.home]? = some p ∧ p.InOrder ∧ p.catalog = classes := by
  have home := settled.home
  rw [Circulation.catalogs, List.getElem?_map] at home
  obtain ⟨p, found, same⟩ := Option.map_eq_some_iff.1 home
  exact ⟨p, found, settled.world.order p (List.mem_of_getElem? found), same⟩

theorem opened {world : Circulation} (sound : world.Sound) {home : Nat} {p : BufferPool}
    (found : world.pools[home]? = some p) (initial limit : Nat) :
    (Station.opened world home p initial limit).Settled p.catalog := by
  obtain ⟨sound', same, fits⟩ := sound.rent found (max initial headerSize)
  refine ⟨sound', ?_, .new p initial limit, ?_⟩
  · change (world.setPool home (p.rent (max initial headerSize)).2).catalogs[home]? = _
    rw [same, Circulation.catalogs, List.getElem?_map, found, Option.map_some]
  · change BufferPool.Fits (world.setPool home (p.rent (max initial headerSize)).2).catalog _
    rw [Circulation.catalog_congr same]
    exact fits

/-- It goes on with other pools in which the classes there were are kept, and with any buffer that
fits. -/
theorem onward (settled : s.Settled classes) {world : Circulation} (sound : world.Sound)
    (kept : s.world.catalogs <+: world.catalogs) {a : Assembler} (fitted : a.Fitted)
    (fits : BufferPool.Fits s.world.catalog a.buffer) : Settled ⟨world, s.home, a⟩ classes := by
  obtain ⟨more, row⟩ := kept
  refine ⟨sound, ?_, fitted, fun t tag => ?_⟩
  · have short := (List.getElem?_eq_some_iff.1 settled.home).1
    rw [← row, List.getElem?_append_left short, settled.home]
  · rw [Circulation.catalog, ← row, List.flatten_append]
    exact List.mem_append_left _ (fits t tag)

/-- The marks may move, and the content of the buffer may change. -/
theorem stay (settled : s.Settled classes) {p : BufferPool}
    (found : s.world.pools[s.home]? = some p) {a : Assembler} (fitted : a.Fitted)
    (tag : a.buffer.tag = s.assembler.buffer.tag) (capacity : a.capacity = s.assembler.capacity) :
    (s.update (a, p)).Settled classes := by
  rw [update, Circulation.setPool_self found]
  exact settled.onward settled.world List.prefix_rfl fitted (settled.fits.congr tag capacity)

/-- Another buffer may be rented, and the present one goes back. -/
theorem swap (settled : s.Settled classes) {p : BufferPool}
    (found : s.world.pools[s.home]? = some p) {n : Nat} {a : Assembler} (fitted : a.Fitted)
    (tag : a.buffer.tag = (p.rent n).1.tag) (capacity : a.capacity = (p.rent n).1.item.capacity)
    {old : Leased Buffer} (fits : BufferPool.Fits s.world.catalog old) :
    (s.update (a, Assembler.release (p.rent n).2 old)).Settled classes := by
  obtain ⟨rented, same, new⟩ := settled.world.rent found n
  obtain ⟨released, same'⟩ :=
    sound_release rented (Circulation.getElem?_setPool found _)
      (Circulation.catalog_congr same ▸ fits)
  rw [Circulation.setPool_setPool] at released same'
  have kept : s.world.catalogs <+:
      (s.world.setPool s.home (Assembler.release (p.rent n).2 old)).catalogs :=
    ⟨[], by rw [List.append_nil, same', same]⟩
  exact settled.onward released kept fitted (new.congr tag capacity)

theorem call (settled : s.Settled classes) {p : BufferPool}
    (found : s.world.pools[s.home]? = some p) (c : Call) :
    (s.update (s.assembler.call p c).2).Settled classes := by
  have order := settled.world.order p (List.mem_of_getElem? found)
  obtain ⟨fitted, buffer, pool⟩ := settled.fitted.call order c
  have tag := s.assembler.tag_compact
  have room := s.assembler.capacity_compact
  rw [update, pool]
  rcases s.assembler.write_cases p c.written with ⟨-, same⟩ | ⟨-, placed⟩ | ⟨-, grown⟩
  · rw [same] at buffer ⊢
    exact settled.stay found fitted (by rw [buffer]) (by rw [Assembler.capacity, buffer]; rfl)
  · rw [placed] at buffer ⊢
    exact settled.stay found fitted (by rw [buffer]; exact tag)
      (by rw [Assembler.capacity, buffer]; exact room)
  · rw [grown] at buffer ⊢
    exact settled.swap found fitted (by rw [buffer]; rfl) (by rw [Assembler.capacity, buffer]; rfl)
      (settled.fits.congr tag room)

theorem step (settled : s.Settled classes) (event : Event) : (s.step event).2.Settled classes := by
  cases event with
  | elsewhere move =>
    obtain ⟨sound, kept⟩ := settled.world.step move
    exact settled.onward sound kept settled.fitted settled.fits
  | call c =>
    obtain ⟨p, found, -⟩ := settled.pool
    simp only [Station.step, found]
    exact settled.call found c

theorem run (settled : s.Settled classes) (events : List Event) :
    (s.run events).2.Settled classes := by
  induction events generalizing s with
  | nil => exact settled
  | cons event events ih => exact ih (settled.step event)

/-- The answer to a call is that of the queue, and the unread bytes are what the call makes of
them. -/
theorem step_call (settled : s.Settled classes) (c : Call) :
    let queue := c.onQueue s.assembler.bodyLimit s.assembler.unread
    (s.step (.call c)).1 = [queue.1] ∧ (s.step (.call c)).2.assembler.unread = queue.2 ∧
      (s.step (.call c)).2.assembler.bodyLimit = s.assembler.bodyLimit := by
  obtain ⟨p, found, -⟩ := settled.pool
  obtain ⟨answer, unread, limit⟩ := settled.fitted.toSound.call p c
  simp only [Station.step, found]
  exact ⟨congrArg (fun reply => [reply]) answer, unread, limit⟩

theorem run_eq (settled : s.Settled classes) (events : List Event) :
    let queue := Call.runOnQueue s.assembler.bodyLimit s.assembler.unread
      (events.filterMap Event.call?)
    (s.run events).1 = queue.1 ∧ (s.run events).2.assembler.unread = queue.2 := by
  induction events generalizing s with
  | nil => exact ⟨rfl, rfl⟩
  | cons event events ih =>
    obtain ⟨answers, unread⟩ := ih (settled.step event)
    cases event with
    | elsewhere move => exact ⟨answers, unread⟩
    | call c =>
      obtain ⟨answer, unread', limit⟩ := settled.step_call c
      rw [limit, unread'] at answers unread
      refine ⟨?_, unread⟩
      change (s.step (.call c)).1 ++ ((s.step (.call c)).2.run events).1 = _
      rw [answer, answers]
      rfl

theorem step?_eq (settled : s.Settled classes) (event : Event)
    (small : s.assembler.capacity < 2 ^ 62)
    (small' : (s.step event).2.assembler.capacity < 2 ^ 62) :
    s.step? event = some (s.step event) := by
  cases event with
  | elsewhere move => rfl
  | call c =>
    obtain ⟨p, found, order, -⟩ := settled.pool
    simp only [Station.step, step?, found] at small' ⊢
    rw [settled.fitted.call?_eq order c small small', Option.map_some]

theorem run?_eq (settled : s.Settled classes) (events : List Event)
    (small : ∀ n, (s.run (events.take n)).2.assembler.capacity < 2 ^ 62) :
    s.run? events = some (s.run events) := by
  induction events generalizing s with
  | nil => rfl
  | cons event events ih =>
    have first := settled.step?_eq event (small 0) (small 1)
    have later := ih (settled.step event) fun n => small (n + 1)
    simp only [Station.run?, Station.run, first, later, Option.bind_eq_bind, Option.bind_some]

/-- More bytes than are there cannot be read or consumed, and to try changes nothing. -/
theorem underrun (settled : s.Settled classes) {n : Nat} (short : s.assembler.size < n) :
    s.step (.call (.read n)) = ([.bytes (.error (.underrun n s.assembler.size))], s) ∧
      s.step (.call (.consume n)) = ([.bytes (.error (.underrun n s.assembler.size))], s) := by
  obtain ⟨p, found, -⟩ := settled.pool
  have refused : s.assembler.read n = .error (.underrun n s.assembler.size) := by
    rw [Assembler.read, Assembler.canRead, if_neg (by simpa using short)]
  have same : s.update (s.assembler, p) = s := by
    rw [update, Circulation.setPool_self found]
  simp only [Station.step, found, Assembler.call, Assembler.consume, refused, Except.map,
    Assembler.consumed, same, and_self]

end Settled

/-- An assembler is a queue of bytes, on any pool in circulation, whatever its first size, and
whatever others do between its calls: its answers and its unread bytes are those of the queue. A
read beyond the unread bytes fails, says how many there are, and changes nothing. The marks are
always in order and within the buffer. As long as buffers have less than 2^62 bytes, no range of a
buffer and no number leaves its bounds. -/
theorem assembler_is_byte_queue (moves : List Circulation.Move) {home : Nat} {p : BufferPool}
    (found : (Circulation.start.after moves).pools[home]? = some p) (initial limit : Nat)
    (events : List Event) :
    let s := opened (Circulation.start.after moves) home p initial limit
    let queue := Call.runOnQueue limit [] (events.filterMap Event.call?)
    let t := (s.run events).2
    ((s.run events).1 = queue.1 ∧ t.assembler.unread = queue.2 ∧
        t.assembler.size = queue.2.length) ∧
      (∀ n, t.assembler.size < n →
        t.step (.call (.read n)) = ([.bytes (.error (.underrun n t.assembler.size))], t) ∧
          t.step (.call (.consume n)) = ([.bytes (.error (.underrun n t.assembler.size))], t)) ∧
      (t.assembler.readMark ≤ t.assembler.writeMark ∧
        t.assembler.writeMark ≤ t.assembler.capacity) ∧
      ((∀ n, (s.run (events.take n)).2.assembler.capacity < 2 ^ 62) →
        s.run? events = some (s.run events)) := by
  intro s queue t
  have settled : s.Settled p.catalog := .opened (Circulation.sound_after moves) found initial limit
  obtain ⟨answers, unread⟩ := settled.run_eq events
  have settled' := settled.run events
  have nothing : s.assembler.unread = [] := Assembler.unread_new p initial limit
  rw [nothing] at answers unread
  refine ⟨⟨answers, unread, ?_⟩, fun n short => settled'.underrun short, ?_, settled.run?_eq events⟩
  · rw [← settled'.fitted.length_unread]
    exact congrArg List.length unread
  · exact ⟨settled'.fitted.marks, settled'.fitted.within⟩

/-- Three bytes are written. While another user rents a buffer, two are consumed; then only one is
left. -/
def overdrawn : List Event :=
  [.call (.write [1, 2, 3]), .call (.read 2), .elsewhere (.rent 0 64), .call (.consume 2),
    .call (.consume 2)]

theorem assembler_is_byte_queue_overdrawn :
    ∃ p t, (Circulation.start.after [.build 0 64 128 true]).pools[0]? = some p ∧
      (opened (Circulation.start.after [.build 0 64 128 true]) 0 p 64 100).run? overdrawn =
        some ([.done, .bytes (.ok [1, 2]), .bytes (.ok [1, 2]),
          .bytes (.error (.underrun 2 1))], t) ∧
      t.assembler.unread = [3] := by
  have found := List.getElem?_eq_getElem
    (l := (Circulation.start.after [.build 0 64 128 true]).pools) (i := 0) (by decide)
  obtain ⟨⟨answers, unread, -⟩, -, -, checked⟩ :=
    assembler_is_byte_queue [.build 0 64 128 true] found 64 100 overdrawn
  refine ⟨_, _, found, (checked fun n => ?_).trans ?_, unread⟩
  · rcases Nat.lt_or_ge n overdrawn.length with short | whole
    · revert n
      decide
    · rw [List.take_of_length_le whole]
      decide
  · exact congrArg some (Prod.ext answers rfl)

end Station

end MessageBroker.Stream
