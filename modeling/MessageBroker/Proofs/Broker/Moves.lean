import MessageBroker.Broker.Schedule

/-!
# Moves

What can happen to a broker before it is shut down is a sequence of moves. A move is as small as the
broker lets it be: one call, one frame of a connection, one task of the line, one round of alarms.
Everything that takes longer is a sequence of moves: the bytes that arrive are buffered and then
their frames are handled one at a time, and the broker comes to rest, and time passes, task by task.

The store works, as one in memory does. Links may fail at any time and in any way.
-/

namespace MessageBroker

/-- Something that can happen to a broker. -/
inductive Move where
  | connect (id : String) (link : Peer.Link)
  | disconnect (id : String)
  /-- Bytes arrive on a connection and are buffered. -/
  | feed (id : String) (data : Bytes)
  /-- The next complete frame of a connection is handled. -/
  | frame (id : String)
  | declare (name route : String)
  | delete (name : String)
  | subscribe (id name : String) (ceiling : Option Nat)
  | unsubscribe (id name : String)
  | publish (m : Store.Message)
  /-- A message is going to be published, in a task of its own. -/
  | publishLater (tag : String) (m : Store.Message)
  | recover
  /-- The link of a client becomes another, which may be closed or about to refuse writes. -/
  | tamper (client : Nat) (link : Peer.Link)
  /-- The task at the head of the line is performed. -/
  | task
  /-- The alarms that are due go off. -/
  | ring
  /-- The clock moves. -/
  | tick (now : Nat)

namespace Broker

/-- The next complete frame of a connection, with the session after it. -/
def nextFrame? (b : Broker) (id : String) : Option (Peer.Session × Wire.Frame) :=
  (b.sessions.get? id).bind fun session =>
    match session.next with
    | .ok (some (frame, session)) => some (session, frame)
    | _ => none

/-- A broker after a move. -/
def apply (b : Broker) : Move → Broker
  | .connect id link => (b.connect id link).2
  | .disconnect id => b.disconnect id
  | .feed id data =>
    match b.sessions.get? id with
    | none => b
    | some session =>
      let (session, buffers) := session.feed b.buffers data
      { b with buffers, sessions := b.sessions.insert id session }
  | .frame id =>
    match b.nextFrame? id with
    | none => b
    | some (session, frame) =>
      ({ b with sessions := b.sessions.insert id session }.handle session frame).2
  | .declare name route => (b.declare name route).2
  | .delete name => (b.delete name).2
  | .subscribe id name ceiling => (b.subscribe id name ceiling).2
  | .unsubscribe id name => (b.unsubscribe id name).2
  | .publish m => (b.publish m).2
  | .publishLater tag m => b.later (.publish tag m)
  | .recover => b.recover.2
  | .tamper c link => b.modifyClient c fun client => { client with link }
  | .task =>
    match b.tasks with
    | task :: rest => { b with tasks := rest }.perform task
    | [] => b
  | .ring => b.ring
  | .tick now => { b with now }

/-- A broker after several moves. -/
def after (b : Broker) (moves : List Move) : Broker :=
  moves.foldl apply b

theorem after_append (b : Broker) (moves more : List Move) :
    b.after (moves ++ more) = (b.after moves).after more :=
  List.foldl_append

/-- A broker with the default settings and an empty store, to try moves on. -/
def sample : Broker :=
  (Broker.new? {} CorrelationId.fresh 0 (.holding .empty)).get rfl

theorem new?_sample : Broker.new? {} CorrelationId.fresh 0 (.holding .empty) = some sample :=
  rfl

/-- Whether some moves lead from a broker to another. -/
def Reaches (b b' : Broker) : Prop :=
  ∃ moves, b.after moves = b'

namespace Reaches

theorem refl (b : Broker) : Reaches b b := ⟨[], rfl⟩

theorem trans {b b' b'' : Broker} (first : Reaches b b') (second : Reaches b' b'') :
    Reaches b b'' := by
  obtain ⟨moves, rfl⟩ := first
  obtain ⟨more, rfl⟩ := second
  exact ⟨moves ++ more, b.after_append moves more⟩

theorem move (b : Broker) (m : Move) : Reaches b (b.apply m) := ⟨[m], rfl⟩

end Reaches

/-- The frames of a connection are handled by a move each. -/
theorem after_frames (id : String) (limit : Nat) (b : Broker) :
    ∃ n, b.after (List.replicate n (.frame id)) = (handleUpTo id limit b).2 := by
  induction limit generalizing b with
  | zero => exact ⟨0, rfl⟩
  | succ limit ih =>
      have step : ∀ n, b.after (List.replicate (n + 1) (.frame id)) =
          (b.apply (.frame id)).after (List.replicate n (.frame id)) := fun _ => rfl
      simp only [apply, nextFrame?] at step
      unfold handleUpTo
      cases found : b.sessions.get? id with
      | none => exact ⟨0, rfl⟩
      | some session =>
          simp only [found, Option.bind_some] at step
          cases next : session.next with
          | error e =>
              simp only [next]
              exact ⟨0, rfl⟩
          | ok taken =>
              cases taken with
              | none =>
                  simp only [next]
                  exact ⟨0, rfl⟩
              | some taken =>
                  obtain ⟨frame, session⟩ := taken
                  simp only [next] at step ⊢
                  split
                  · rename_i e b' handled
                    rw [handled] at step
                    exact ⟨1, step 0⟩
                  · rename_i b' handled
                    rw [handled] at step
                    obtain ⟨n, rest⟩ := ih b'
                    exact ⟨n + 1, (step n).trans rest⟩

/-- Bytes that arrive on a connection are buffered, and then their frames are handled. -/
theorem after_feed (b : Broker) (id : String) (data : Bytes) :
    ∃ n, b.after (.feed id data :: List.replicate n (.frame id)) = (b.receive id data).2 := by
  have step : ∀ moves, b.after (.feed id data :: moves) = (b.apply (.feed id data)).after moves :=
    fun _ => rfl
  simp only [apply] at step
  unfold receive
  cases found : b.sessions.get? id with
  | none =>
      simp only [found] at step
      exact ⟨0, step []⟩
  | some session =>
      simp only [found] at step
      obtain ⟨n, handled⟩ := after_frames id ((session.feed b.buffers data).1.buffered + 1) { b with
        buffers := (session.feed b.buffers data).2
        sessions := b.sessions.insert id (session.feed b.buffers data).1 }
      exact ⟨n, (step _).trans handled⟩

theorem reaches_receive (b : Broker) (id : String) (data : Bytes) :
    Reaches b (b.receive id data).2 := by
  obtain ⟨n, received⟩ := b.after_feed id data
  exact ⟨_, received⟩

/-- A broker comes to rest task by task. -/
theorem reaches_run (limit : Nat) (b : Broker) : Reaches b (run limit b) := by
  induction limit generalizing b with
  | zero => exact .refl b
  | succ limit ih =>
      unfold run
      cases tasks : b.tasks with
      | cons task rest =>
          have step := Reaches.move b .task
          simp only [apply, tasks] at step
          exact step.trans (ih _)
      | nil =>
          by_cases ringing : b.isRinging = true
          · simp only [if_pos ringing]
            exact (Reaches.move b .ring).trans (ih _)
          · simp only [if_neg ringing]
            exact .refl b

theorem reaches_settle (b : Broker) : Reaches b b.settle :=
  reaches_run b.budget b

theorem reaches_passUpTo (limit stops : Nat) (b : Broker) :
    Reaches b (passUpTo limit stops b) := by
  induction stops generalizing b with
  | zero => exact .move b (.tick limit)
  | succ stops ih =>
      unfold passUpTo
      refine (reaches_settle b).trans ?_
      cases next : b.settle.nextAlarm? with
      | none =>
          simp only [next]
          exact .move b.settle (.tick limit)
      | some due =>
          simp only [next]
          by_cases early : due ≤ limit
          · rw [if_pos early]
            exact (Reaches.move b.settle (.tick (max b.settle.now due))).trans (ih _)
          · rw [if_neg early]
            exact .move b.settle (.tick limit)

/-- Time passes move by move. -/
theorem reaches_advance (b : Broker) (ms : Nat) : Reaches b (b.advance ms) :=
  (reaches_passUpTo _ _ b).trans (reaches_settle _)

end Broker

end MessageBroker
