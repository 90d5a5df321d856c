import MessageBroker.Proofs.Broker.Episodes
import MessageBroker.Proofs.Store.Listing

/-!
# What comes to the store

Messages leave the store of a broker one at a time, and come to it one at a time. The only messages
that come are those that arrive: by a call, with a frame of a connection, or after the store has held
them up. This is what every episode does to the store, unless the store itself becomes another.
-/

namespace MessageBroker

/-- What becomes of a store when messages leave it and others arrive. -/
inductive Store.Messages.Turnover (arrives : Message → Prop) (s : Messages) :
    Messages → Prop where
  | refl : Turnover arrives s s
  | delete {s' : Messages} (before : Turnover arrives s s') (id : CorrelationId) :
      Turnover arrives s (s'.delete id).2
  | add {s' s'' : Messages} {m : Message} (before : Turnover arrives s s') (arrival : arrives m)
      (added : s'.add m = .ok s'') : Turnover arrives s s''

namespace Store.Messages.Turnover

variable {arrives : Message → Prop} {s s' : Messages}

/-- What is stored was stored before, or has arrived. -/
theorem traced (turnover : s.Turnover arrives s') {id : CorrelationId} {m : Message}
    (stored : s'.get? id = some m) : s.get? id = some m ∨ arrives m := by
  induction turnover with
  | refl => exact .inl stored
  | delete before gone ih =>
      rw [Messages.delete, get?, Table.get?_erase] at stored
      split at stored
      · cases stored
      · exact ih stored
  | add before arrival added ih =>
      rw [Messages.add] at added
      split at added
      · cases added
      · cases added
        rw [get?, Table.get?_insert] at stored
        split at stored
        · exact .inr (Option.some.inj stored ▸ arrival)
        · exact ih stored

theorem sound (turnover : s.Turnover arrives s') (sound : s.Sound) : s'.Sound := by
  induction turnover with
  | refl => exact sound
  | delete _ id ih => exact ih.remove id
  | add _ _ added ih => exact ih.add added

end Store.Messages.Turnover

open Books

namespace Broker

/-- The message that arrives with an episode. -/
def arrival? (b : Broker) : Episode → Option Store.Message
  | .stir (.move m) =>
    match b.goesOn? (.move m) with
    | some (p, _) => some p.message
    | none => b.publication? m
  | .stir (.letGo n) => b.heldUp[n]?.map Publication.message
  | _ => none

/-- What a broker has in its store has become of what was in a store before. -/
def Supplied (arrives : Store.Message → Prop) (s : Store.Messages) (b : Broker) : Prop :=
  s.Turnover arrives b.depot.messages

namespace Supplied

variable {arrives : Store.Message → Prop} {s : Store.Messages} {b : Broker}

theorem of_depot {b' : Broker} (supplied : b.Supplied arrives s) (same : b'.depot = b.depot) :
    b'.Supplied arrives s := by
  rw [Supplied, same]
  exact supplied

theorem of_books {b' : Broker} (supplied : b.Supplied arrives s) (same : b'.books = b.books) :
    b'.Supplied arrives s :=
  supplied.of_depot (congrArg Books.depot same)

/-- A call that leaves the messages as they are, or deletes or adds one, leaves them supplied. -/
theorem use {α : Type} (supplied : b.Supplied arrives s) (call : Store.Call)
    {work : Store.Messages → Except Store.Error α × Store.Messages}
    (keeps : s.Turnover arrives (work b.depot.messages).2) :
    s.Turnover arrives (b.depot.use call work).2.messages := by
  rw [Store.Depot.use]
  split
  · exact keeps
  · exact supplied

theorem release (supplied : b.Supplied arrives s) (id : CorrelationId) :
    (b.release id).Supplied arrives s := by
  have deleted : s.Turnover arrives (b.depot.delete id).2.messages :=
    supplied.use _ (Store.Messages.Turnover.delete supplied id)
  unfold Broker.release
  dsimp only
  split
  · split <;> rename_i answer <;> rw [answer] at deleted <;> exact deleted
  · exact supplied

theorem enqueue (supplied : b.Supplied arrives s) (k : Nat) (id : CorrelationId) :
    (b.enqueue k id).2.Supplied arrives s := by
  refine supplied.of_depot ?_
  have books := congrArg Books.depot (b.books_enqueue k id).2
  rw [show (b.enqueue k id).2.depot = _ from books]
  split <;> rfl

theorem requeue (supplied : b.Supplied arrives s) (k : Nat) (id : CorrelationId) :
    (b.requeue k id).Supplied arrives s := by
  obtain ⟨b', books, requeued⟩ := b.requeue_eq k id
  have kept : b'.Supplied arrives s := by
    refine supplied.of_depot ?_
    rw [show b'.depot = _ from congrArg Books.depot books]
    split <;> rfl
  rw [requeued]
  split
  · exact kept
  · exact kept.release id

theorem fanOut (supplied : b.Supplied arrives s) (id : CorrelationId) (lanes : List Nat) :
    (b.fanOut id lanes).2.Supplied arrives s := by
  have each : ∀ (lanes : List Nat) (progress : Nat × Broker), progress.2.Supplied arrives s →
      (lanes.foldl (fanOutTo id) progress).2.Supplied arrives s := by
    intro lanes
    induction lanes with
    | nil => exact fun _ supplied => supplied
    | cons k lanes ih =>
        intro progress supplied
        refine ih _ ?_
        unfold fanOutTo
        dsimp only
        split
        · exact supplied.enqueue k id
        · exact (supplied.enqueue k id).release id
  exact each lanes _ supplied

theorem bring (supplied : b.Supplied arrives s) {m : Store.Message} (arrival : arrives m)
    (lanes : List Nat) : (b.bring m lanes).2.Supplied arrives s := by
  have added : s.Turnover arrives (b.depot.add m).2.messages := by
    refine supplied.use _ ?_
    split
    · rename_i entered
      exact Store.Messages.Turnover.add supplied arrival entered
    · exact supplied
  unfold Broker.bring
  split <;> rename_i depot answer <;> rw [answer] at added
  · exact added
  · have spread := fanOut (b := { b with depot }) added m.id lanes
    dsimp only
    split <;> exact spread

theorem publish (supplied : b.Supplied arrives s) {m : Store.Message} (arrival : arrives m) :
    (b.publish m).2.Supplied arrives s := by
  unfold Broker.publish
  split
  · exact supplied
  · exact supplied.bring arrival _

theorem recoverOne (supplied : b.Supplied arrives s) (report : Recovery) (id : CorrelationId) :
    (b.recoverOne report id).2.Supplied arrives s := by
  have looked : s.Turnover arrives (b.depot.get? id).2.messages := supplied.use _ supplied
  unfold Broker.recoverOne
  split
  · exact supplied
  · split <;> rename_i depot answer <;> rw [answer] at looked
    · exact looked
    · exact looked
    · dsimp only
      split
      · exact looked
      · split <;> exact fanOut (b := { b with depot }) looked id _

theorem recoverEach (supplied : b.Supplied arrives s) (report : Recovery)
    (ids : List CorrelationId) : (b.recoverEach report ids).2.Supplied arrives s := by
  induction ids generalizing b report with
  | nil => exact supplied
  | cons id ids ih =>
      have one := supplied.recoverOne report id
      rw [Broker.recoverEach]
      split <;> rename_i answer <;> rw [answer] at one
      · exact one
      · exact ih one _

theorem recover (supplied : b.Supplied arrives s) : b.recover.2.Supplied arrives s := by
  have listed : s.Turnover arrives (b.depot.oldest b.settings.recoveryBatchLimit).2.messages :=
    supplied.use _ supplied
  unfold Broker.recover
  split <;> rename_i depot answer <;> rw [answer] at listed
  · exact listed
  · exact recoverEach (b := { b with depot }) listed {} _

theorem sendOff (supplied : b.Supplied arrives s) (k c : Nat) (id : CorrelationId) :
    (b.sendOff k c id).2.Supplied arrives s := by
  have fetched : s.Turnover arrives (b.depot.get? id).2.messages := supplied.use _ supplied
  unfold Broker.sendOff
  split <;> rename_i depot answer <;> rw [answer] at fetched
  · exact fetched
  · exact release (b := Broker.giveSlotBack { b with depot } c) fetched id
  · exact requeue (b := Broker.giveSlotBack { b with depot } c) fetched k id

theorem work (supplied : b.Supplied arrives s) (k : Nat) : (b.work k).Supplied arrives s := by
  have offer : ∀ {b : Broker}, b.Supplied arrives s → (b.offer k).2.Supplied arrives s := by
    intro b supplied
    rcases b.offer_cases k with same | ⟨shelf, m, rest, c, b', -, -, popped, same⟩
    · exact supplied.of_books same
    · rw [same]
      exact sendOff (supplied.of_depot (congrArg Books.depot popped)) k c m
  rcases b.work_cases k with same | ⟨b', books, same⟩
  · exact supplied.of_books same
  · exact (offer (supplied.of_books books)).of_books same

theorem resolve (supplied : b.Supplied arrives s) (id : CorrelationId) (outcome : Outcome) :
    (b.resolve id outcome).2.Supplied arrives s := by
  refine supplied.of_depot ?_
  unfold Broker.resolve
  split <;> rfl

theorem expire (supplied : b.Supplied arrives s) (ticket : Nat) :
    (b.expire ticket).Supplied arrives s := by
  refine supplied.of_depot ?_
  unfold Broker.expire
  split <;> rfl

theorem follow (supplied : b.Supplied arrives s) (d : Delivery) (outcome : Outcome) :
    (b.follow d outcome).Supplied arrives s := by
  have requeued : ∀ e : Event, Supplied arrives s (if (b.announce e).isShutDown then b.announce e
      else (b.announce e).requeue d.lane d.message) := by
    intro e
    split
    · exact supplied
    · exact requeue (b := b.announce e) supplied d.lane d.message
  unfold Broker.follow
  split
  · exact release (b := b.announce _) supplied _
  · exact release (b := b.announce _) supplied _
  · exact requeued _

theorem conclude (supplied : b.Supplied arrives s) (ticket : Nat) :
    (b.conclude ticket).Supplied arrives s := by
  unfold Broker.conclude
  split
  · exact supplied
  · split
    · exact supplied
    · refine follow (supplied.of_depot ?_) _ _
      exact (congrArg Books.depot (books_openGate _ _)).trans rfl

theorem send (supplied : b.Supplied arrives s) (d : Delivery) : (b.send d).Supplied arrives s := by
  have resolved := supplied.resolve d.id (some .cancelled)
  rw [send_eq]
  generalize (b.resolve d.id (some .cancelled)).2 = b' at *
  have launched : (b'.launch d).2.Supplied arrives s :=
    resolved.of_depot (congrArg Books.depot (b'.books_launch d))
  have written := launched.of_books ((b'.launch d).2.books_write d.client d.frame)
  unfold dispatch
  split <;> rename_i b'' went <;> rw [went] at written
  · exact written
  · exact conclude (b := { b'' with ledger := (b''.ledger.unwritten d.id).2 }) written _

/-- With a task the message of a publication arrives that goes on, or begins and is not held up. -/
theorem perform (supplied : b.Supplied arrives s) (task : Task)
    (resumes : ∀ p, task = .resume p → arrives p.message)
    (begins : ∀ tag m, task = .publish tag m → b.depot.holdsUp = false → arrives m) :
    (b.perform task).Supplied arrives s := by
  cases task with
  | work k => exact supplied.work k
  | send d => exact supplied.send d
  | arm ticket => exact supplied.of_books (b.books_arm ticket)
  | expire ticket => exact supplied.expire ticket
  | conclude ticket => exact supplied.conclude ticket
  | publish tag m =>
      rw [Broker.perform, beginPublish]
      split
      · exact supplied
      · split
        · exact supplied
        · rename_i holds
          exact supplied.bring (begins tag m rfl (Bool.eq_false_iff.2 holds)) _
  | resume p => exact supplied.bring (resumes p rfl) p.lanes

theorem disconnect (supplied : b.Supplied arrives s) (id : String) :
    (b.disconnect id).Supplied arrives s := by
  have struck : ∀ (names : List String) {b : Broker}, b.Supplied arrives s →
      (names.foldl (fun b name => b.strike id name) b).Supplied arrives s := by
    intro names
    induction names with
    | nil => exact fun supplied => supplied
    | cons name names ih => exact fun supplied => ih (supplied.of_books (books_strike _ id name))
  have resolved : ∀ (ids : List CorrelationId) {b : Broker}, b.Supplied arrives s →
      (ids.foldl (fun b d => (b.resolve d (some .sendFailed)).2) b).Supplied arrives s := by
    intro ids
    induction ids with
    | nil => exact fun supplied => supplied
    | cons d ids ih => exact fun supplied => ih (supplied.resolve d _)
  unfold Broker.disconnect
  split
  · exact supplied
  · rename_i session _
    have left := struck session.subscriptions (b := { b with sessions := b.sessions.erase id })
      supplied
    exact resolved _ left

theorem connect (supplied : b.Supplied arrives s) (id : String) (link : Peer.Link) :
    (b.connect id link).2.Supplied arrives s := by
  have greet : ∀ {b : Broker} (c : Nat), b.Supplied arrives s → (b.greet c).Supplied arrives s := by
    intro b c supplied
    have resolved := resolve (b := b.mintId.2) supplied b.mintId.1 (some .cancelled)
    unfold Broker.greet
    dsimp only
    generalize (b.mintId.2.resolve b.mintId.1 (some .cancelled)).2 = b' at *
    have written := resolved.of_depot (congrArg Books.depot (books_write { b' with
      ledger := (b'.ledger.setUp b.mintId.1 false).2 } c
      (.ready b.mintId.1)))
    split <;> rename_i went <;> rw [went] at written <;> exact written
  unfold Broker.connect
  dsimp only
  split
  · exact supplied
  · exact greet _ supplied

theorem delete (supplied : b.Supplied arrives s) (name : String) :
    (b.delete name).2.Supplied arrives s := by
  have released : ∀ (ids : List CorrelationId) {b : Broker}, b.Supplied arrives s →
      (ids.foldl Broker.release b).Supplied arrives s := by
    intro ids
    induction ids with
    | nil => exact fun supplied => supplied
    | cons id ids ih => exact fun supplied => ih (supplied.release id)
  rcases b.delete_cases name with ⟨-, same⟩ | ⟨k, lane, b', -, -, closed, same⟩
  · rw [same]
    exact supplied
  · rw [same]
    exact released _ (supplied.of_depot (congrArg Books.depot closed))

theorem declare (supplied : b.Supplied arrives s) (name route : String) :
    (b.declare name route).2.Supplied arrives s := by
  unfold Broker.declare
  split
  · exact supplied
  · split
    · exact supplied
    · split
      · split <;> exact supplied
      · exact supplied

theorem request (supplied : b.Supplied arrives s) (connection : String) (id : CorrelationId)
    (body : Wire.Body)
    (arrival : ∀ m, body.publication? id connection b.calendar = some m → arrives m) :
    (b.request connection id body).2.Supplied arrives s := by
  cases body with
  | message route payload => exact supplied.publish (arrival _ rfl)
  | subscribe queue ceiling => exact supplied.of_books (b.books_subscribe _ _ _)
  | unsubscribe queue => exact supplied.of_books (b.books_unsubscribe _ _)
  | declare name route => exact supplied.declare name route
  | delete name => exact supplied.delete name
  | nack reason => exact supplied

theorem handle (supplied : b.Supplied arrives s) (session : Peer.Session) (frame : Wire.Frame)
    (arrival : ∀ body m, frame.request? = some body →
      body.publication? frame.id session.id b.calendar = some m → arrives m) :
    (b.handle session frame).2.Supplied arrives s := by
  rw [handle_eq]
  cases about : frame.purport with
  | answer outcome => exact supplied.resolve _ _
  | call => exact supplied.of_books (b.books_reply _ _ _)
  | request body =>
      have asked := Wire.Frame.request?_eq_some.2 about
      have granted := supplied.request session.id frame.id body fun m => arrival body m asked
      exact granted.of_books (books_reply _ _ _ _)
  | offence e => exact supplied

theorem apply (supplied : b.Supplied arrives s) (m : Move)
    (arrival : ∀ p, b.arrival? (.stir (.move m)) = some p → arrives p) :
    (b.apply m).Supplied arrives s := by
  cases m with
  | connect id link => exact supplied.connect id link
  | disconnect id => exact supplied.disconnect id
  | feed id data =>
      simp only [Broker.apply]
      split <;> exact supplied
  | frame id =>
      simp only [Broker.apply]
      split
      · exact supplied
      · rename_i session frame next
        refine handle (b := { b with sessions := b.sessions.insert id session }) supplied session
          frame fun body p asked published => ?_
        refine arrival p ?_
        simp only [arrival?, goesOn?, publication?, next, Option.bind_some, asked]
        exact published
  | declare name route => exact supplied.declare name route
  | delete name => exact supplied.delete name
  | subscribe id name ceiling => exact supplied.of_books (b.books_subscribe _ _ _)
  | unsubscribe id name => exact supplied.of_books (b.books_unsubscribe _ _)
  | publish m => exact supplied.publish (arrival m rfl)
  | publishLater tag m => exact supplied
  | recover => exact supplied.recover
  | tamper c link => exact supplied
  | task =>
      simp only [Broker.apply]
      split
      · rename_i task rest line
        refine perform (b := { b with tasks := rest }) supplied task ?_ ?_
        · rintro p rfl
          refine arrival _ ?_
          simp only [arrival?, goesOn?, line]
        · rintro tag m rfl free
          refine arrival _ ?_
          simp only [arrival?, goesOn?, publication?, line]
          exact if_neg (Bool.eq_false_iff.1 free)
      · exact supplied
  | ring => exact supplied.of_books b.books_ring
  | tick now => exact supplied

theorem shutDown (supplied : b.Supplied arrives s) : b.shutDown.Supplied arrives s := by
  refine shutDown_induction (P := Supplied arrives s) supplied ?_ ?_ ?_
  · intro b k supplied
    refine supplied.of_depot ?_
    exact congrArg Books.depot (books_rouse _ k)
  · exact fun id supplied => supplied.resolve id _
  · exact fun _ supplied => supplied

end Supplied

/-- Unless its store becomes another, only what arrives with an episode comes to the store of a
broker. -/
theorem turnover_live (b : Broker) {e : Episode} (kept : ∀ depot, e ≠ .store depot) :
    b.depot.messages.Turnover (fun m => b.arrival? e = some m) (b.live e).depot.messages := by
  have begun : b.Supplied (fun m => b.arrival? e = some m) b.depot.messages := .refl
  cases e with
  | store depot => exact absurd rfl (kept depot)
  | shutDown => exact begun.shutDown
  | stir stir =>
      cases stir with
      | move m => exact begun.apply m fun _ arrives => arrives
      | holdUp holdsUp => cases holdsUp <;> exact begun
      | letGo n =>
          rw [live, Broker.stir]
          split
          · exact begun
          · rename_i p held
            refine Supplied.bring (b := { b with heldUp := b.heldUp.eraseIdx n }) begun ?_ p.lanes
            rw [arrival?, held]
            rfl

end Broker

end MessageBroker
