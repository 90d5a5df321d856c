import Mathlib.Data.List.Induction
import MessageBroker.Proofs.Ledger.Tracking

/-!
# What decides the outcome of a send

Calls to a tracker come in any order, the clock moves between them, and now and then timers get a
turn. Each call has a verdict on the sends it concerns, and so has a turn on those whose time is
over by then. The outcome of a send is the first verdict on it after it was set up: this is what its
handle reports, and what the calls answer and the tracker lists follows from it.

A send is looked at here from the outside, as an entry of the history of calls. Nothing about
ledgers or the timers that run is needed to say what its outcome is.

The clock alone decides nothing. If all timers get a turn after every call, however, then the time of
a send begins when it is set up, and it is over as soon as the clock has come so far.
-/

namespace MessageBroker.Tracker

/-- A call to a tracker or to a handle, a lapse of time, or a turn of timers. -/
inductive Op where
  | setUp (id : CorrelationId) (awaitsPeer : Bool) (allowance : Option Nat)
  | confirm (id : CorrelationId)
  | reject (id : CorrelationId) (reason : String)
  | written (id : CorrelationId)
  | unwritten (id : CorrelationId)
  | cancel (id : CorrelationId)
  | cancelAll
  | abandon
  | collect (ticket : Nat)
  | drop (ticket : Nat)
  | elapse (ms : Nat)
  /-- The timer of one send gets a turn. -/
  | run (ticket : Nat)
  /-- All timers get a turn. -/
  | settle
deriving DecidableEq, Repr

/-- The answer to a call. -/
inductive Reply where
  | nothing
  /-- A handle was given for a send. -/
  | handle (ticket : Nat)
  | resolution (r : Resolution)
  | count (n : Nat)
  | outcome (reported : Option Outcome)
deriving DecidableEq, Repr

/-- A tracker that was given up cannot be called. -/
def unlessGone (t : Tracker) (call : Reply × Tracker) : Reply × Tracker :=
  if t.isGone then (.nothing, t) else call

/-- The answer to a call about an id, with the tracker after it. -/
def Reply.of (call : Resolution × Tracker) : Reply × Tracker :=
  (.resolution call.1, call.2)

/-- Perform a call. A handle can be asked until it is dropped, also without its tracker. -/
def perform (t : Tracker) : Op → Reply × Tracker
  | .setUp id awaitsPeer allowance =>
    t.unlessGone (.handle (t.setUp id awaitsPeer allowance).1, (t.setUp id awaitsPeer allowance).2)
  | .confirm id => t.unlessGone (Reply.of (t.confirm id))
  | .reject id reason => t.unlessGone (Reply.of (t.reject id reason))
  | .written id => t.unlessGone (Reply.of (t.written id))
  | .unwritten id => t.unlessGone (Reply.of (t.unwritten id))
  | .cancel id => t.unlessGone (Reply.of (t.cancel id))
  | .cancelAll => t.unlessGone (.count t.cancelAll.1, t.cancelAll.2)
  | .abandon => t.unlessGone (.nothing, t.abandon)
  | .collect ticket =>
    if ticket ∈ t.handles then (.outcome (t.collect ticket).1, (t.collect ticket).2)
    else (.nothing, t)
  | .drop ticket => (.nothing, t.drop ticket)
  | .elapse ms => (.nothing, t.elapse ms)
  | .run ticket => (.nothing, t.run ticket)
  | .settle => (.nothing, t.settle)

/-- A tracker after some calls. -/
def after (t : Tracker) (ops : List Op) : Tracker :=
  ops.foldl (fun t op => (t.perform op).2) t

/-! ## The first verdict -/

/-- How the time of a send stands. -/
structure Moment where
  now : Nat
  /-- The time that the send has. -/
  span : Nat
  /-- When this time is over, if it has begun. -/
  due : Option Nat
deriving DecidableEq, Repr

/-- When the time of a send is over whose timer gets a turn now. -/
def Moment.ending (m : Moment) : Nat :=
  m.due.getD (m.now + m.span)

/-- The time after a call. -/
def Op.clock (now : Nat) : Op → Nat
  | elapse ms => now + ms
  | _ => now

/-- Whether the timer of a send gets a turn in a call. -/
def Op.turns : Op → (ticket : Nat) → Bool
  | run ticket => (· = ticket)
  | settle => fun _ => true
  | _ => fun _ => false

/-- How the time of a send stands after a call. Its time begins when its timer first gets a turn. -/
def Op.passes (ticket : Nat) (m : Moment) (op : Op) : Moment :=
  { m with now := op.clock m.now, due := if op.turns ticket then some m.ending else m.due }

/-- The verdict of a call on a send that has no outcome, by how its time stands when the call is
made. -/
def Op.verdict? (m : Moment) (send : Tracked) : Op → Option Outcome
  | setUp id _ _ => if send.id = id then some (some .cancelled) else none
  | confirm id => if send.id = id then some none else none
  | reject id reason => if send.id = id then some (some (.rejected reason)) else none
  | written id => if send.id = id ∧ send.awaitsPeer = false then some none else none
  | unwritten id => if send.id = id then some (some .sendFailed) else none
  | cancel id => if send.id = id then some (some .cancelled) else none
  | cancelAll | abandon => some (some .cancelled)
  | run ticket => if send.ticket = ticket ∧ m.ending ≤ m.now then some (some .timedOut) else none
  | settle => if m.ending ≤ m.now then some (some .timedOut) else none
  | collect _ | drop _ | elapse _ => none

/-- The first verdict on a send among calls that begin at a given moment. -/
def firstVerdict? (send : Tracked) (m : Moment) : List Op → Option Outcome
  | [] => none
  | op :: ops => (op.verdict? m send).or (firstVerdict? send (op.passes send.ticket m) ops)

/-- A send as it was set up, and the calls since. -/
structure Sent where
  send : Tracked
  /-- The moment at which it was set up. -/
  start : Moment
  later : List Op
deriving DecidableEq, Repr

namespace Sent

/-- The outcome of a send, if it has one. -/
def outcome? (s : Sent) : Option Outcome :=
  firstVerdict? s.send s.start s.later

/-- Whether the handle of a send is still there. -/
def IsHeld (s : Sent) : Prop :=
  Op.drop s.send.ticket ∉ s.later

/-- Whether the handle of a send has reported no outcome yet: each time it was asked there was
none. -/
def IsUnread (s : Sent) : Prop :=
  ∀ before since, s.later = before ++ .collect s.send.ticket :: since →
    firstVerdict? s.send s.start before = none

/-- A send after one more call. -/
def followed (s : Sent) (op : Op) : Sent :=
  { s with later := s.later ++ [op] }

/-- How the time of a send stands after the calls since. -/
def moment (s : Sent) : Moment :=
  s.later.foldl (Op.passes s.send.ticket) s.start

/-- The timer of a send after these calls, if it runs. -/
def timer (s : Sent) : Timer :=
  ⟨s.send.id, s.send.ticket, s.moment.span, s.moment.due⟩

end Sent

/-- The sends that calls set up, in order, each with the calls that follow it. The calls begin at a
given time, with tickets from a given one on, and a send that names no time has the usual one. -/
def sentBy (usual now issued : Nat) : List Op → List Sent
  | [] => []
  | .setUp id awaitsPeer allowance :: ops =>
    ⟨⟨id, issued, awaitsPeer⟩, ⟨now, allowance.getD usual, none⟩, ops⟩ ::
      sentBy usual now (issued + 1) ops
  | .abandon :: _ => []
  | op :: ops => sentBy usual (op.clock now) issued ops

theorem firstVerdict?_append (send : Tracked) (m : Moment) (ops more : List Op) :
    firstVerdict? send m (ops ++ more) = (firstVerdict? send m ops).or
      (firstVerdict? send (ops.foldl (Op.passes send.ticket) m) more) := by
  induction ops generalizing m with
  | nil => rfl
  | cons op ops ih =>
      simp only [List.cons_append, firstVerdict?, List.foldl_cons, ih, Option.or_assoc]

namespace Sent

theorem outcome?_followed (s : Sent) (op : Op) :
    (s.followed op).outcome? = s.outcome?.or (op.verdict? s.moment s.send) := by
  simp only [outcome?, followed, firstVerdict?_append, firstVerdict?, Option.or_none, moment]

theorem moment_followed (s : Sent) (op : Op) :
    (s.followed op).moment = op.passes s.send.ticket s.moment := by
  simp only [moment, followed, List.foldl_append, List.foldl_cons, List.foldl_nil]

theorem IsHeld.of_followed {s : Sent} {op : Op} (held : (s.followed op).IsHeld) :
    s.IsHeld ∧ op ≠ .drop s.send.ticket := by
  simp only [IsHeld, followed, List.mem_append, List.mem_singleton, not_or] at held
  exact ⟨held.1, fun same => held.2 same.symm⟩

theorem IsUnread.of_followed {s : Sent} {op : Op} (unread : (s.followed op).IsUnread) :
    s.IsUnread ∧ (op = .collect s.send.ticket → s.outcome? = none) := by
  constructor
  · intro before since asked
    apply unread before (since ++ [op])
    simp only [followed, asked, List.append_assoc, List.cons_append]
  · intro asks
    exact unread s.later [] (by rw [followed, asks])

end Sent

/-- One more call follows every send before it, and may set up a new one. -/
theorem sentBy_append (usual now issued : Nat) (ops : List Op) (op : Op) :
    sentBy usual now issued (ops ++ [op]) =
      (sentBy usual now issued ops).map (·.followed op) ++
        if .abandon ∈ ops then [] else
          sentBy usual (ops.foldl Op.clock now) (issued + (sentBy usual now issued ops).length)
            [op] := by
  induction ops generalizing now issued with
  | nil => rfl
  | cons first ops ih =>
      cases first with
      | setUp id awaitsPeer allowance =>
          simp [sentBy, ih, Sent.followed, Op.clock, Nat.add_assoc, Nat.add_comm 1]
      | abandon => simp [sentBy]
      | _ => simp [sentBy, ih, Op.clock]

/-- A timer after a call. -/
def Op.timer (op : Op) (now : Nat) (timer : Timer) : Timer :=
  if op.turns timer.ticket then timer.begun now else timer

theorem Sent.timer_followed (s : Sent) (op : Op) :
    (s.followed op).timer = op.timer s.moment.now s.timer := by
  rw [timer, moment_followed, Op.timer, Op.passes]
  change _ = if op.turns s.send.ticket then _ else _
  split <;> rfl

/-! ## Histories and trackers -/

/-- What is true of a tracker with a usual time after a history of sends. -/
structure Tracks (usual : Nat) (t : Tracker) (sends : List Sent) : Prop where
  sound : t.ledger.Sound
  allowance : t.allowance = usual
  clock : ∀ s ∈ sends, s.moment.now = t.now
  tickets : sends.map (fun s => s.send.ticket) = List.range t.ledger.issued
  pending : t.ledger.pending = (sends.filter fun s => s.outcome?.isNone).map Sent.send
  readings : ∀ s ∈ sends, s.IsUnread → t.ledger.reading s.send.ticket = s.outcome?
  handles : ∀ s ∈ sends, s.IsHeld → s.send.ticket ∈ t.handles
  timers : ∀ timer ∈ t.timers, ∃ s ∈ sends, timer = s.timer
  running : ∀ s ∈ sends, s.outcome? = none → s.timer ∈ t.timers
  gone : t.isGone = true → t.ledger.pending = []

namespace Tracks

variable {usual : Nat} {t t' : Tracker} {sends : List Sent} {op : Op}
  {verdict : Tracked → Option Outcome}

theorem new (usual : Nat) : Tracks usual (.new usual) [] where
  sound := Ledger.sound_empty
  allowance := rfl
  clock := by simp
  tickets := rfl
  pending := rfl
  readings := by simp
  handles := by simp
  timers := by simp [Tracker.new]
  running := by simp
  gone := fun _ => rfl

theorem length_eq (tracks : Tracks usual t sends) : sends.length = t.ledger.issued := by
  rw [← List.length_map (fun s : Sent => s.send.ticket), tracks.tickets, List.length_range]

/-- Different sends have different tickets. -/
theorem eq_of_ticket (tracks : Tracks usual t sends) {s s' : Sent} (hs : s ∈ sends)
    (hs' : s' ∈ sends) (same : s.send.ticket = s'.send.ticket) : s = s' := by
  have different : (sends.map fun s => s.send.ticket).Nodup := by
    rw [tracks.tickets]
    exact List.nodup_range
  exact List.inj_on_of_nodup_map different hs hs' same

theorem mem_pending (tracks : Tracks usual t sends) {p : Tracked} :
    p ∈ t.ledger.pending ↔ ∃ s ∈ sends, s.outcome? = none ∧ s.send = p := by
  simp only [tracks.pending, List.mem_map, List.mem_filter, Option.isNone_iff_eq_none, and_assoc]

/-- A send with an outcome waits under no ticket. -/
theorem ticket_ne (tracks : Tracks usual t sends) {s : Sent} (hs : s ∈ sends) {outcome : Outcome}
    (decided : s.outcome? = some outcome) : ∀ p ∈ t.ledger.pending, p.ticket ≠ s.send.ticket := by
  intro p waits same
  obtain ⟨s', hs', undecided, rfl⟩ := tracks.mem_pending.1 waits
  rw [tracks.eq_of_ticket hs' hs same, decided] at undecided
  exact Option.some_ne_none outcome undecided

/-- A call that sets nothing up takes a history one call further if it leaves those sends waiting
that it has no verdict on, and its handles report what they should. -/
theorem follow (tracks : Tracks usual t sends) (verdict : Tracked → Option Outcome)
    (agrees : ∀ s ∈ sends, s.outcome? = none → verdict s.send = op.verdict? s.moment s.send)
    (sound : t'.ledger.Sound) (allowance : t'.allowance = t.allowance)
    (now : t'.now = op.clock t.now) (issued : t'.ledger.issued = t.ledger.issued)
    (pending : t'.ledger.pending = t.ledger.pending.filter fun p => (verdict p).isNone)
    (readings : ∀ s ∈ sends, (s.followed op).IsUnread →
      t'.ledger.reading s.send.ticket = (s.followed op).outcome?)
    (handles : ∀ n ∈ t.handles, op ≠ .drop n → n ∈ t'.handles)
    (timers : ∀ timer' ∈ t'.timers, ∃ timer ∈ t.timers, timer' = op.timer t.now timer)
    (running : ∀ timer ∈ t.timers, t'.ledger.isWaiting timer.ticket = true →
      op.timer t.now timer ∈ t'.timers)
    (gone : t'.isGone = true → t'.ledger.pending = []) :
    Tracks usual t' (sends.map (·.followed op)) where
  sound := sound
  allowance := allowance.trans tracks.allowance
  clock := by
    intro s' listed
    obtain ⟨s, hs, rfl⟩ := List.mem_map.1 listed
    rw [Sent.moment_followed, now, ← tracks.clock s hs]
    rfl
  tickets := by
    rw [issued, ← tracks.tickets, List.map_map]
    rfl
  pending := by
    rw [pending, tracks.pending, List.filter_map, List.filter_filter, List.filter_map, List.map_map]
    congr 1
    apply List.filter_congr
    intro s hs
    simp only [Function.comp, s.outcome?_followed]
    cases decided : s.outcome? with
    | some outcome => simp
    | none => simp [agrees s hs decided]
  readings := by
    intro s' listed unread
    obtain ⟨s, hs, rfl⟩ := List.mem_map.1 listed
    exact readings s hs unread
  handles := by
    intro s' listed held
    obtain ⟨s, hs, rfl⟩ := List.mem_map.1 listed
    obtain ⟨held, kept⟩ := held.of_followed
    exact handles _ (tracks.handles s hs held) kept
  timers := by
    intro timer' runs
    obtain ⟨timer, before, rfl⟩ := timers timer' runs
    obtain ⟨s, hs, rfl⟩ := tracks.timers timer before
    refine ⟨s.followed op, List.mem_map_of_mem hs, ?_⟩
    rw [s.timer_followed, tracks.clock s hs]
  running := by
    intro s' listed undecided
    obtain ⟨s, hs, rfl⟩ := List.mem_map.1 listed
    rw [s.outcome?_followed, Option.or_eq_none_iff] at undecided
    obtain ⟨undecided, spared⟩ := undecided
    have waits : s.send ∈ t'.ledger.pending := by
      rw [pending, List.mem_filter, agrees s hs undecided, spared]
      exact ⟨tracks.mem_pending.2 ⟨s, hs, undecided, rfl⟩, rfl⟩
    rw [s.timer_followed, tracks.clock s hs]
    exact running _ (tracks.running s hs undecided) (Ledger.isWaiting_iff.2 ⟨_, waits, rfl⟩)
  gone := gone

/-- What handles report after a call that settles sends. -/
theorem readings_of_settles (tracks : Tracks usual t sends)
    (settles : Ledger.Settles t.ledger verdict t'.ledger)
    (agrees : ∀ s ∈ sends, s.outcome? = none → verdict s.send = op.verdict? s.moment s.send) :
    ∀ s ∈ sends, (s.followed op).IsUnread →
      t'.ledger.reading s.send.ticket = (s.followed op).outcome? := by
  intro s hs unread
  rw [s.outcome?_followed]
  cases decided : s.outcome? with
  | some outcome =>
      rw [settles.reading_of_not_waiting (tracks.ticket_ne hs decided),
        tracks.readings s hs unread.of_followed.1, decided, Option.some_or]
  | none =>
      have waits : s.send ∈ t.ledger.pending := tracks.mem_pending.2 ⟨s, hs, decided, rfl⟩
      have same := agrees s hs decided
      rw [Option.none_or]
      cases given : op.verdict? s.moment s.send with
      | some outcome => exact settles.settled s.send waits outcome (same.trans given)
      | none =>
          exact (settles.sound tracks.sound).reading_of_mem
            (settles.mem_pending.2 ⟨waits, same.trans given⟩)

/-- A call that settles sends while the clock stands still and no timer gets a turn. -/
theorem settles (tracks : Tracks usual t sends) (settles : Settles t verdict t')
    (agrees : ∀ s ∈ sends, s.outcome? = none → verdict s.send = op.verdict? s.moment s.send)
    (stands : op.clock t.now = t.now) (quiet : ∀ timer, op.timer t.now timer = timer) :
    Tracks usual t' (sends.map (·.followed op)) := by
  refine tracks.follow _ agrees (settles.ledger.sound tracks.sound) settles.allowance
    (settles.now.trans stands.symm) settles.ledger.issued settles.ledger.pending
    (tracks.readings_of_settles settles.ledger agrees) ?_ ?_ ?_ ?_
  · intro n held _
    rw [settles.handles]
    exact held
  · intro timer runs
    exact ⟨timer, settles.timers timer runs, (quiet timer).symm⟩
  · intro timer runs waits
    rw [quiet]
    exact settles.running timer runs waits
  · intro gone
    rw [settles.isGone] at gone
    rw [settles.ledger.pending, tracks.gone gone, List.filter_nil]

/-- A tracker that was given up takes no calls. -/
theorem idle (tracks : Tracks usual t sends) (gone : t.isGone = true)
    (stands : op.clock t.now = t.now) (quiet : ∀ timer, op.timer t.now timer = timer) :
    Tracks usual t (sends.map (·.followed op)) := by
  refine tracks.settles (.refl tracks.sound) ?_ stands quiet
  intro s hs undecided
  have waits : s.send ∈ t.ledger.pending := tracks.mem_pending.2 ⟨s, hs, undecided, rfl⟩
  rw [tracks.gone gone] at waits
  exact absurd waits List.not_mem_nil

/-- A send is set up under an id that is free. -/
theorem begin (tracks : Tracks usual t sends) {p : Tracked} (span : Nat)
    (ticket : p.ticket = t.ledger.issued)
    (free : ∀ q ∈ t.ledger.pending, q.id ≠ p.id) (kept : t.isGone = false) :
    Tracks usual
      { t with
        ledger := { t.ledger with
          pending := t.ledger.pending ++ [p]
          issued := t.ledger.issued + 1 }
        timers := t.timers ++ [⟨p.id, p.ticket, span, none⟩]
        handles := t.handles ++ [p.ticket] }
      (sends ++ [⟨p, ⟨t.now, span, none⟩, []⟩]) where
  sound := tracks.sound.append ticket free
  allowance := tracks.allowance
  clock := by
    intro s listed
    rcases List.mem_append.1 listed with before | new
    · exact tracks.clock s before
    · rw [List.mem_singleton.1 new]
      rfl
  tickets := by
    rw [List.map_append, tracks.tickets, List.range_succ, ← ticket]
    rfl
  pending := by
    rw [List.filter_append, List.map_append, ← tracks.pending]
    rfl
  readings := by
    intro s listed unread
    rcases List.mem_append.1 listed with before | new
    · have older : s.send.ticket < t.ledger.issued := by
        rw [← List.mem_range, ← tracks.tickets]
        exact List.mem_map_of_mem before
      have other : p.ticket ≠ s.send.ticket := by
        rw [ticket]
        exact Nat.ne_of_gt older
      rw [← tracks.readings s before unread, Ledger.reading_eq, Ledger.reading_eq]
      simp [Ledger.isWaiting, other]
    · rw [List.mem_singleton.1 new]
      exact (tracks.sound.append ticket free).reading_of_mem
        (List.mem_append_right _ List.mem_cons_self)
  handles := by
    intro s listed held
    rcases List.mem_append.1 listed with before | new
    · exact List.mem_append_left _ (tracks.handles s before held)
    · rw [List.mem_singleton.1 new]
      exact List.mem_append_right _ List.mem_cons_self
  timers := by
    intro timer runs
    rcases List.mem_append.1 runs with before | new
    · obtain ⟨s, hs, same⟩ := tracks.timers timer before
      exact ⟨s, List.mem_append_left _ hs, same⟩
    · exact ⟨_, List.mem_append_right _ List.mem_cons_self, List.mem_singleton.1 new⟩
  running := by
    intro s listed undecided
    rcases List.mem_append.1 listed with before | new
    · exact List.mem_append_left _ (tracks.running s before undecided)
    · rw [List.mem_singleton.1 new]
      exact List.mem_append_right _ List.mem_cons_self
  gone := by
    intro gone
    rw [kept] at gone
    exact Bool.noConfusion gone

theorem setUp (tracks : Tracks usual t sends) (kept : t.isGone = false) (id : CorrelationId)
    (awaitsPeer : Bool) (allowance : Option Nat) :
    Tracks usual (t.setUp id awaitsPeer allowance).2
      (sends.map (·.followed (.setUp id awaitsPeer allowance)) ++
        [⟨⟨id, t.ledger.issued, awaitsPeer⟩, ⟨t.now, allowance.getD usual, none⟩, []⟩]) := by
  have resolved := Ledger.resolve_settles tracks.sound id (some .cancelled)
  have cancelled : Tracks usual
      { t with
        ledger := (t.ledger.resolve id (some .cancelled)).2
        timers := t.timers.filter fun timer =>
          (t.setUp id awaitsPeer allowance).2.ledger.isWaiting timer.ticket }
      (sends.map (·.followed (.setUp id awaitsPeer allowance))) := by
    refine tracks.follow _ (fun _ _ _ => rfl) (resolved.sound tracks.sound) rfl rfl resolved.issued
      resolved.pending (tracks.readings_of_settles resolved fun _ _ _ => rfl)
      (fun n held _ => held) ?_ ?_ ?_
    · intro timer runs
      exact ⟨timer, (List.mem_filter.1 runs).1, rfl⟩
    · intro timer runs waits
      obtain ⟨p, pending, same⟩ := Ledger.isWaiting_iff.1 waits
      refine List.mem_filter.2 ⟨runs, ?_⟩
      exact Ledger.isWaiting_iff.2 ⟨p, List.mem_append_left _ pending, same⟩
    · intro gone
      exact absurd gone (by simp [kept])
  have free : ∀ q ∈ (t.ledger.resolve id (some .cancelled)).2.pending, q.id ≠ id := by
    intro q waits same
    have spared := (resolved.mem_pending.1 waits).2
    rw [if_pos same] at spared
    exact Option.some_ne_none _ spared
  have begun := cancelled.begin
    (p := ⟨id, t.ledger.issued, awaitsPeer⟩) (allowance.getD usual) resolved.issued.symm free kept
  rw [← tracks.allowance] at begun ⊢
  convert begun using 1
  simp only [Tracker.setUp, Ledger.setUp, keep, resolved.issued]

/-- A turn of timers settles the sends whose time is over. -/
theorem turn (tracks : Tracks usual t sends) (stands : op.clock t.now = t.now)
    (verdict : ∀ m send, op.verdict? m send =
      if op.turns send.ticket = true ∧ m.ending ≤ m.now then some (some .timedOut) else none) :
    Tracks usual (t.turn op.turns) (sends.map (·.followed op)) := by
  obtain ⟨settles, final⟩ := turn_settles tracks.sound op.turns
  have ended : ∀ s ∈ sends, (t.goesOff op.turns s.timer = true ↔
      op.turns s.send.ticket = true ∧ s.moment.ending ≤ s.moment.now) := by
    intro s hs
    rw [goesOff, Bool.and_eq_true, decide_eq_true_eq, ← tracks.clock s hs]
    exact Iff.rfl
  have agrees : ∀ s ∈ sends, s.outcome? = none →
      (if ∃ timer ∈ t.timers, t.goesOff op.turns timer = true ∧ s.send.id = timer.id ∧
        s.send.ticket = timer.ticket then some (some .timedOut) else none) =
        op.verdict? s.moment s.send := by
    intro s hs undecided
    rw [verdict]
    refine if_congr ?_ rfl rfl
    constructor
    · rintro ⟨timer, runs, off, -, ticket⟩
      obtain ⟨s', hs', rfl⟩ := tracks.timers timer runs
      rw [tracks.eq_of_ticket hs hs' ticket]
      exact (ended s' hs').1 off
    · intro due
      exact ⟨s.timer, tracks.running s hs undecided, (ended s hs).2 due, rfl, rfl⟩
  refine tracks.follow _ agrees (settles.sound tracks.sound) ?_ ?_ settles.issued settles.pending
    (tracks.readings_of_settles settles agrees) ?_ ?_ ?_ ?_
  · rw [final]
  · rw [final]
    exact stands.symm
  · intro n held _
    rw [final]
    exact held
  · intro timer' runs
    rw [final] at runs
    obtain ⟨timer, listed, rfl⟩ := List.mem_map.1 runs
    exact ⟨timer, (List.mem_filter.1 listed).1, rfl⟩
  · intro timer runs waits
    rw [final]
    refine List.mem_map.2 ⟨timer, List.mem_filter.2 ⟨runs, ?_⟩, rfl⟩
    rw [Bool.not_eq_true', ← Bool.not_eq_true]
    intro off
    -- The send of a timer that goes off waits no longer.
    obtain ⟨p, pending, ticket⟩ := Ledger.isWaiting_iff.1 waits
    obtain ⟨waited, spared⟩ := settles.mem_pending.1 pending
    obtain ⟨s, hs, undecided, rfl⟩ := tracks.mem_pending.1 waited
    obtain ⟨s', hs', rfl⟩ := tracks.timers timer runs
    cases tracks.eq_of_ticket hs hs' ticket
    rw [agrees s hs undecided, verdict, if_pos ((ended s hs).1 off)] at spared
    exact Option.some_ne_none _ spared
  · intro gone
    rw [final] at gone
    rw [settles.pending, tracks.gone gone, List.filter_nil]

theorem elapse (tracks : Tracks usual t sends) (ms : Nat) :
    Tracks usual (t.elapse ms) (sends.map (·.followed (.elapse ms))) := by
  have settles : Ledger.Settles t.ledger (fun _ => none) (t.elapse ms).ledger := .refl tracks.sound
  exact tracks.follow _ (fun _ _ _ => rfl) tracks.sound rfl rfl rfl settles.pending
    (tracks.readings_of_settles settles fun _ _ _ => rfl) (fun _ held _ => held)
    (fun timer runs => ⟨timer, runs, rfl⟩) (fun _ runs _ => runs) tracks.gone

theorem collect (tracks : Tracks usual t sends) (ticket : Nat) :
    Tracks usual (t.collect ticket).2 (sends.map (·.followed (.collect ticket))) := by
  obtain ⟨pending, issued, -⟩ := Ledger.collect_snd t.ledger ticket
  refine tracks.follow (fun _ => none) (fun _ _ _ => rfl) (tracks.sound.collect ticket)
    rfl rfl issued ?_ ?_ (fun n held _ => held) (fun timer runs => ⟨timer, runs, rfl⟩)
    (fun _ runs _ => runs) ?_
  · exact pending.trans (List.filter_true _).symm
  · intro s hs unread
    obtain ⟨unread, silent⟩ := unread.of_followed
    rw [s.outcome?_followed]
    change _ = s.outcome?.or none
    rw [Option.or_none]
    by_cases asked : ticket = s.send.ticket
    · have undecided := silent (by rw [asked])
      rw [undecided]
      apply (tracks.sound.collect ticket).reading_of_mem
      rw [pending]
      exact tracks.mem_pending.2 ⟨s, hs, undecided, rfl⟩
    · rw [← tracks.readings s hs unread]
      exact Ledger.reading_collect_of_ne t.ledger fun same => asked same.symm
  · intro gone
    exact pending.trans (tracks.gone gone)

theorem drop (tracks : Tracks usual t sends) (ticket : Nat) :
    Tracks usual (t.drop ticket) (sends.map (·.followed (.drop ticket))) := by
  have settles : Ledger.Settles t.ledger (fun _ => none) (t.drop ticket).ledger :=
    .refl tracks.sound
  refine tracks.follow _ (fun _ _ _ => rfl) tracks.sound rfl rfl rfl settles.pending
    (tracks.readings_of_settles settles fun _ _ _ => rfl) ?_ (fun timer runs => ⟨timer, runs, rfl⟩)
    (fun _ runs _ => runs) tracks.gone
  intro n held other
  refine List.mem_filter.2 ⟨held, ?_⟩
  simpa using fun same : n = ticket => other (by rw [same])

theorem abandon (tracks : Tracks usual t sends) :
    Tracks usual t.abandon (sends.map (·.followed .abandon)) := by
  have settles := Ledger.abandon_settles tracks.sound
  exact tracks.follow _ (fun _ _ _ => rfl) (settles.sound tracks.sound) rfl rfl rfl settles.pending
    (tracks.readings_of_settles settles fun _ _ _ => rfl) (fun n held _ => held)
    (fun timer runs => ⟨timer, runs, rfl⟩) (fun _ runs _ => runs) (fun _ => rfl)

/-- A call about an id takes a history one call further. -/
theorem about (tracks : Tracks usual t sends) {call : Resolution × Ledger}
    (settles : Ledger.Settles t.ledger verdict call.2)
    (agrees : ∀ s ∈ sends, s.outcome? = none → verdict s.send = op.verdict? s.moment s.send)
    (stands : op.clock t.now = t.now) (quiet : ∀ timer, op.timer t.now timer = timer) :
    Tracks usual (t.unlessGone (Reply.of (t.follow call))).2 (sends.map (·.followed op)) := by
  unfold unlessGone
  cases gone : t.isGone with
  | true => exact tracks.idle gone stands quiet
  | false => exact tracks.settles (follow_settles settles) agrees stands quiet

/-- Each call takes the history of a tracker one call further. -/
theorem perform (tracks : Tracks usual t sends) (op : Op) :
    Tracks usual (t.perform op).2
      (sends.map (·.followed op) ++
        if t.isGone = true then [] else sentBy usual t.now t.ledger.issued [op]) := by
  have nothing : (if t.isGone = true then [] else ([] : List Sent)) = [] := ite_self _
  cases op with
  | setUp id awaitsPeer allowance =>
      simp only [Tracker.perform, unlessGone]
      cases gone : t.isGone with
      | true => simpa using tracks.idle gone rfl fun _ => rfl
      | false => exact tracks.setUp gone id awaitsPeer allowance
  | confirm id =>
      simp only [sentBy, nothing, List.append_nil]
      exact tracks.about (Ledger.resolve_settles tracks.sound id _) (fun _ _ _ => rfl) rfl fun _ => rfl
  | reject id reason =>
      simp only [sentBy, nothing, List.append_nil]
      exact tracks.about (Ledger.resolve_settles tracks.sound id _) (fun _ _ _ => rfl) rfl fun _ => rfl
  | written id =>
      simp only [sentBy, nothing, List.append_nil]
      exact tracks.about (Ledger.written_settles tracks.sound id) (fun _ _ _ => rfl) rfl fun _ => rfl
  | unwritten id =>
      simp only [sentBy, nothing, List.append_nil]
      exact tracks.about (Ledger.resolve_settles tracks.sound id _) (fun _ _ _ => rfl) rfl fun _ => rfl
  | cancel id =>
      simp only [sentBy, nothing, List.append_nil]
      exact tracks.about (Ledger.resolve_settles tracks.sound id _) (fun _ _ _ => rfl) rfl fun _ => rfl
  | cancelAll =>
      simp only [Tracker.perform, unlessGone, sentBy, nothing, List.append_nil]
      cases gone : t.isGone with
      | true => exact tracks.idle gone rfl fun _ => rfl
      | false =>
          exact tracks.settles (cancelAll_settles tracks.sound).2 (fun _ _ _ => rfl) rfl fun _ => rfl
  | abandon =>
      simp only [Tracker.perform, unlessGone, sentBy, nothing, List.append_nil]
      cases gone : t.isGone with
      | true => exact tracks.idle gone rfl fun _ => rfl
      | false => exact tracks.abandon
  | collect ticket =>
      simp only [Tracker.perform, sentBy, nothing, List.append_nil]
      by_cases held : ticket ∈ t.handles
      · rw [if_pos held]
        exact tracks.collect ticket
      · rw [if_neg held]
        exact tracks.settles (.refl tracks.sound) (fun _ _ _ => rfl) rfl fun _ => rfl
  | drop ticket =>
      simp only [Tracker.perform, sentBy, nothing, List.append_nil]
      exact tracks.drop ticket
  | elapse ms =>
      simp only [Tracker.perform, sentBy, nothing, List.append_nil]
      exact tracks.elapse ms
  | run ticket =>
      simp only [Tracker.perform, sentBy, nothing, List.append_nil]
      change Tracks usual (t.turn (Op.run ticket).turns) _
      exact tracks.turn rfl fun m send => by simp [Op.verdict?, Op.turns]
  | settle =>
      simp only [Tracker.perform, sentBy, nothing, List.append_nil]
      change Tracks usual (t.turn Op.settle.turns) _
      exact tracks.turn rfl fun m send => by simp [Op.verdict?, Op.turns]

/-- A call moves the clock as it says, and only the call that gives a tracker up makes it gone. -/
theorem clock_perform (tracks : Tracks usual t sends) (op : Op) :
    (t.perform op).2.now = op.clock t.now ∧
      ((t.perform op).2.isGone = true ↔ t.isGone = true ∨ op = .abandon) := by
  cases op with
  | cancelAll =>
      obtain ⟨-, settles⟩ := cancelAll_settles tracks.sound
      simp only [Tracker.perform, unlessGone]
      cases gone : t.isGone with
      | true => exact ⟨rfl, by simp [gone]⟩
      | false => exact ⟨settles.now, by simp [settles.isGone, gone]⟩
  | collect ticket =>
      simp only [Tracker.perform]
      split
      · exact ⟨rfl, by simp [Tracker.collect]⟩
      · exact ⟨rfl, by simp⟩
  | drop ticket => exact ⟨rfl, by simp [Tracker.perform, Tracker.drop]⟩
  | elapse ms => exact ⟨rfl, by simp [Tracker.perform, Tracker.elapse]⟩
  | run ticket =>
      obtain ⟨-, final⟩ := turn_settles tracks.sound (· = ticket)
      simp only [Tracker.perform, Tracker.run]
      rw [final]
      exact ⟨rfl, by simp⟩
  | settle =>
      obtain ⟨-, final⟩ := turn_settles tracks.sound fun _ => true
      simp only [Tracker.perform, Tracker.settle]
      rw [final]
      exact ⟨rfl, by simp⟩
  | _ =>
      simp only [Tracker.perform, unlessGone]
      cases gone : t.isGone with
      | true => exact ⟨rfl, by simp [gone]⟩
      | false => exact ⟨rfl, by simp [gone, Reply.of, Tracker.setUp, Tracker.abandon, confirm,
          Tracker.reject, Tracker.written, unwritten, cancel, Tracker.follow, keep]⟩

end Tracks

/-- A tracker keeps to the history of the calls it has taken. -/
theorem tracks_after (usual : Nat) (ops : List Op) :
    Tracks usual ((new usual).after ops) (sentBy usual 0 0 ops) ∧
      ((new usual).after ops).now = ops.foldl Op.clock 0 ∧
      (((new usual).after ops).isGone = true ↔ .abandon ∈ ops) := by
  induction ops using List.reverseRecOn with
  | nil => exact ⟨.new usual, rfl, by simp [after, new]⟩
  | append_singleton ops op ih =>
      obtain ⟨tracks, now, gone⟩ := ih
      have last : (new usual).after (ops ++ [op]) = (((new usual).after ops).perform op).2 := by
        simp only [after, List.foldl_append, List.foldl_cons, List.foldl_nil]
      obtain ⟨now', gone'⟩ := tracks.clock_perform op
      rw [last, sentBy_append, List.foldl_append, ← now, Nat.zero_add, tracks.length_eq]
      refine ⟨?_, now', ?_⟩
      · simpa only [gone] using tracks.perform op
      · rw [gone', gone, List.mem_append, List.mem_singleton, eq_comm (a := op)]

/-! ## What a tracker tells -/

/-- Whether a call is about one id and answers with what it did. -/
def Op.isAboutId : Op → Bool
  | confirm _ | reject _ _ | written _ | unwritten _ | cancel _ => true
  | _ => false

/-- The verdict of such a call is the same at all times. -/
theorem Op.verdict?_of_isAboutId {op : Op} (about : op.isAboutId = true) (m m' : Moment)
    (send : Tracked) : op.verdict? m send = op.verdict? m' send := by
  cases op with
  | confirm | reject | written | unwritten | cancel => rfl
  | _ => exact absurd about Bool.false_ne_true

/-- What handles, calls and the tracker itself tell of a history of sends. -/
structure Tells (t : Tracker) (sends : List Sent) : Prop where
  /-- Tickets count the sends from zero on. -/
  tickets : ∀ k, (h : k < sends.length) → sends[k].send.ticket = k
  /-- To set a send up gives the next ticket. -/
  handle : t.isGone = false → ∀ id awaitsPeer allowance,
    (t.perform (.setUp id awaitsPeer allowance)).1 = .handle sends.length
  /-- The first outcome that a handle reports is that of its send, and until there is one it
  reports nothing. -/
  report : ∀ s ∈ sends, s.IsHeld → s.IsUnread →
    (t.perform (.collect s.send.ticket)).1 = .outcome s.outcome?
  /-- A call about an id completes a send exactly if it decides its outcome, and is deferred exactly
  if it is a write and the send waits for its peer. -/
  resolution : t.isGone = false → ∀ op : Op, op.isAboutId = true →
    (t.perform op).1 = .resolution
      (if ∃ s ∈ sends, s.outcome? = none ∧ op.verdict? s.moment s.send ≠ none then .completed
      else if ∃ s ∈ sends, s.outcome? = none ∧ s.send.awaitsPeer = true ∧
        op = .written s.send.id then .deferred
      else .alreadyCompleted)
  /-- To cancel all sends counts those without an outcome. -/
  cancelAll : t.isGone = false →
    (t.perform .cancelAll).1 = .count (sends.filter fun s => s.outcome?.isNone).length
  /-- Those are the sends that are listed as pending. -/
  pending : t.ledger.pending.length = (sends.filter fun s => s.outcome?.isNone).length
  isPending : ∀ id, t.ledger.isPending id = true ↔
    ∃ s ∈ sends, s.outcome? = none ∧ s.send.id = id

namespace Tracks

variable {usual : Nat} {t : Tracker} {sends : List Sent}

/-- What holds of some send without an outcome holds of one that waits, and conversely. -/
theorem exists_pending (tracks : Tracks usual t sends) (holds : Tracked → Prop) :
    (∃ s ∈ sends, s.outcome? = none ∧ holds s.send) ↔ ∃ p ∈ t.ledger.pending, holds p := by
  constructor
  · rintro ⟨s, hs, undecided, h⟩
    exact ⟨s.send, tracks.mem_pending.2 ⟨s, hs, undecided, rfl⟩, h⟩
  · rintro ⟨p, waits, h⟩
    obtain ⟨s, hs, undecided, rfl⟩ := tracks.mem_pending.1 waits
    exact ⟨s, hs, undecided, h⟩

/-- The answer to a call that decides the outcome of whatever waits under its id. -/
theorem resolution_of_resolve (kept : t.isGone = false) {op : Op} {m : Moment}
    {id : CorrelationId} {outcome : Outcome}
    (performs : t.perform op = t.unlessGone (Reply.of (t.follow (t.ledger.resolve id outcome))))
    (verdict : ∀ p, op.verdict? m p = if p.id = id then some outcome else none)
    (other : ∀ p : Tracked, op ≠ .written p.id) :
    (t.perform op).1 = .resolution
      (if ∃ p ∈ t.ledger.pending, op.verdict? m p ≠ none then .completed
      else if ∃ p ∈ t.ledger.pending, p.awaitsPeer = true ∧ op = .written p.id then .deferred
      else .alreadyCompleted) := by
  have answer : (t.perform op).1 = .resolution (t.ledger.resolve id outcome).1 := by
    rw [performs, unlessGone, if_neg (by simp [kept])]
    rfl
  rw [answer, Ledger.resolve_fst]
  simp [verdict, other]

theorem tells (tracks : Tracks usual t sends) : t.Tells sends where
  tickets := by
    intro k h
    have listed : (sends.map fun s => s.send.ticket)[k]? = (List.range t.ledger.issued)[k]? := by
      rw [tracks.tickets]
    rw [List.getElem?_map, List.getElem?_eq_getElem h,
      List.getElem?_range (tracks.length_eq ▸ h)] at listed
    exact Option.some.inj listed
  handle := by
    intro kept id awaitsPeer allowance
    have issued := (Ledger.resolve_settles tracks.sound id (some .cancelled)).issued
    simp only [Tracker.perform, unlessGone, kept, Tracker.setUp, Ledger.setUp, issued,
      tracks.length_eq]
    rfl
  report := by
    intro s hs held unread
    simp only [Tracker.perform, if_pos (tracks.handles s hs held)]
    exact congrArg Reply.outcome (tracks.readings s hs unread)
  resolution := by
    intro kept op about
    have anytime := fun s : Sent => Op.verdict?_of_isAboutId about s.moment ⟨t.now, 0, none⟩ s.send
    have decided := tracks.exists_pending fun p => op.verdict? ⟨t.now, 0, none⟩ p ≠ none
    have deferred := tracks.exists_pending fun p => p.awaitsPeer = true ∧ op = .written p.id
    simp only [anytime, decided, deferred]
    cases op with
    | written id =>
        have answer : (t.perform (.written id)).1 = .resolution (t.ledger.written id).1 := by
          simp only [Tracker.perform, unlessGone, kept]
          rfl
        have verdict : ∀ p : Tracked, (Op.written id).verdict? ⟨t.now, 0, none⟩ p ≠ none ↔
            p.id = id ∧ p.awaitsPeer = false := by
          intro p
          simp only [Op.verdict?, ne_eq, ite_eq_right_iff, not_forall]
          exact ⟨fun ⟨h, _⟩ => h, fun h => ⟨h, Option.some_ne_none _⟩⟩
        have same : ∀ p : Tracked, (p.awaitsPeer = true ∧ Op.written id = .written p.id) ↔
            p.id = id ∧ p.awaitsPeer = true := by
          intro p
          rw [Op.written.injEq, eq_comm, and_comm, eq_comm]
        rw [answer, Ledger.written_fst tracks.sound]
        simp only [verdict, same]
    | confirm id => exact resolution_of_resolve kept rfl (fun _ => rfl) (fun _ => Op.noConfusion)
    | reject id reason => exact resolution_of_resolve kept rfl (fun _ => rfl) (fun _ => Op.noConfusion)
    | unwritten id => exact resolution_of_resolve kept rfl (fun _ => rfl) (fun _ => Op.noConfusion)
    | cancel id => exact resolution_of_resolve kept rfl (fun _ => rfl) (fun _ => Op.noConfusion)
    | _ => exact absurd about Bool.false_ne_true
  cancelAll := by
    intro kept
    simp only [Tracker.perform, unlessGone, kept, (cancelAll_settles tracks.sound).1]
    rw [tracks.pending, List.length_map]
    rfl
  pending := by
    rw [tracks.pending, List.length_map]
  isPending := by
    intro id
    rw [tracks.exists_pending fun p => p.id = id]
    simp [Ledger.isPending, Ledger.find?]

end Tracks

/-- An outcome that a send has stays, whatever is called later. -/
theorem outcome?_stays {usual now issued : Nat} {ops : List Op} {s : Sent}
    (sent : s ∈ sentBy usual now issued ops) {outcome : Outcome} (decided : s.outcome? = some outcome)
    (more : List Op) :
    ∃ s' ∈ sentBy usual now issued (ops ++ more),
      s'.send = s.send ∧ s'.outcome? = some outcome := by
  induction more using List.reverseRecOn with
  | nil => exact ⟨s, by rwa [List.append_nil], rfl, decided⟩
  | append_singleton more op ih =>
      obtain ⟨s', sent', same, stays⟩ := ih
      refine ⟨s'.followed op, ?_, same, ?_⟩
      · rw [← List.append_assoc, sentBy_append]
        exact List.mem_append_left _ (List.mem_map_of_mem sent')
      · rw [Sent.outcome?_followed, stays, Option.some_or]

/-! ## Timers that get their turns at once -/

/-- Calls after each of which all timers get a turn. -/
def prompt (ops : List Op) : List Op :=
  ops.flatMap fun op => [op, .settle]

/-- The first verdict on a send among calls that begin at a given time, if the send times out as soon
as the clock has come to its deadline. -/
def firstByClock? (send : Tracked) (deadline now : Nat) : List Op → Option Outcome
  | [] => if deadline ≤ now then some (some .timedOut) else none
  | op :: ops =>
    if deadline ≤ now then some (some .timedOut)
    else (op.verdict? ⟨now, 0, some deadline⟩ send).or
      (firstByClock? send deadline (op.clock now) ops)

/-- The outcome of a send, if it times out as soon as the clock has come to the time at which it was
set up and the time that it has. -/
def Sent.outcomeByClock? (s : Sent) : Option Outcome :=
  firstByClock? s.send (s.start.now + s.start.span) s.start.now s.later

/-- A turn of all timers on a send, before anything else. -/
theorem firstVerdict?_settle (send : Tracked) (m : Moment) (ops : List Op) :
    firstVerdict? send m (.settle :: ops) =
      if m.ending ≤ m.now then some (some .timedOut)
      else firstVerdict? send { m with due := some m.ending } ops := by
  rw [firstVerdict?, Op.verdict?]
  split
  · exact Option.some_or
  · exact Option.none_or

theorem firstByClock?_of_le {send : Tracked} {deadline now : Nat} (reached : deadline ≤ now)
    (ops : List Op) : firstByClock? send deadline now ops = some (some .timedOut) := by
  cases ops <;> exact if_pos reached

/-- Timers that get their turns at once are never late. -/
theorem firstVerdict?_prompt (send : Tracked) (span : Nat) {deadline now : Nat}
    (early : now < deadline) (ops : List Op) :
    firstVerdict? send ⟨now, span, some deadline⟩ (prompt ops) =
      firstByClock? send deadline now ops := by
  induction ops generalizing now with
  | nil => exact (if_neg (Nat.not_le.2 early)).symm
  | cons op ops ih =>
      have passes : op.passes send.ticket ⟨now, span, some deadline⟩ =
          ⟨op.clock now, span, some deadline⟩ := by
        rw [Op.passes]
        split <;> rfl
      have same : op.verdict? ⟨now, span, some deadline⟩ send =
          op.verdict? ⟨now, 0, some deadline⟩ send := by
        cases op <;> rfl
      rw [show prompt (op :: ops) = op :: .settle :: prompt ops from rfl, firstVerdict?, passes, same,
        firstVerdict?_settle, firstByClock?, if_neg (Nat.not_le.2 early)]
      congr 1
      by_cases reached : deadline ≤ op.clock now
      · rw [firstByClock?_of_le reached]
        exact if_pos reached
      · rw [← ih (Nat.not_le.1 reached)]
        exact if_neg reached

/-- If all timers get a turn after every call, a send times out as soon as its time is over since it
was set up. -/
theorem outcomes_prompt (usual now issued : Nat) (ops : List Op) :
    (sentBy usual now issued (prompt ops)).map Sent.outcome? =
      (sentBy usual now issued ops).map Sent.outcomeByClock? := by
  induction ops generalizing now issued with
  | nil => rfl
  | cons op ops ih =>
      cases op with
      | setUp id awaitsPeer allowance =>
          have rest := ih now (issued + 1)
          rw [sentBy, List.map_cons, ← rest]
          refine congrArg (· :: _) ?_
          generalize allowance.getD usual = span
          -- The first turn comes before the clock moves.
          change firstVerdict? ⟨id, issued, awaitsPeer⟩ ⟨now, span, none⟩ (.settle :: prompt ops) =
            firstByClock? ⟨id, issued, awaitsPeer⟩ (now + span) now ops
          rw [firstVerdict?_settle]
          by_cases reached : now + span ≤ now
          · rw [firstByClock?_of_le reached]
            exact if_pos reached
          · rw [← firstVerdict?_prompt _ span (Nat.not_le.1 reached)]
            exact if_neg reached
      | abandon => rfl
      | _ => exact ih _ issued

/-- Every tracked send has one outcome, the first verdict on it since it was set up, for any calls
in any order, any lapses of time and any turns of timers between them. Its handle reports this
outcome and nothing before it, no later call changes it, a call answers that it completed a send
exactly if it gave that verdict, and the sends that are listed as pending are those without one. If
all timers get a turn after every call, a send times out as soon as the clock has come to the time
at which it was set up and the time that it has. -/
theorem outcome_is_first_verdict (usual : Nat) (ops : List Op) :
    ((new usual).after ops).Tells (sentBy usual 0 0 ops) ∧
      (∀ s ∈ sentBy usual 0 0 ops, ∀ outcome, s.outcome? = some outcome →
        ∀ more, ∃ s' ∈ sentBy usual 0 0 (ops ++ more),
          s'.send = s.send ∧ s'.outcome? = some outcome) ∧
      (sentBy usual 0 0 (prompt ops)).map Sent.outcome? =
        (sentBy usual 0 0 ops).map Sent.outcomeByClock? := by
  obtain ⟨tracks, -, -⟩ := tracks_after usual ops
  refine ⟨tracks.tells, ?_, outcomes_prompt usual 0 0 ops⟩
  intro s sent outcome decided more
  exact outcome?_stays sent decided more

/-- The clock comes to the deadline of a send whose timer has not had a turn. By the clock the send
has timed out, but its handle reports nothing, it is listed as pending, and its peer can still
confirm it. -/
theorem clock_alone_decides_nothing :
    let ops : List Op := [.setUp (.ofNat 1) true (some 10), .elapse 10]
    let t := (new 60000).after ops
    (sentBy 60000 0 0 ops).map Sent.outcomeByClock? = [some (some .timedOut)] ∧
      (t.perform (.collect 0)).1 = .outcome none ∧ t.ledger.isPending (.ofNat 1) = true ∧
      (t.perform (.confirm (.ofNat 1))).1 = .resolution .completed := by
  decide

end MessageBroker.Tracker
