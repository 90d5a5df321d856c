import MessageBroker.Proofs.Broker.Answers

/-!
# Retirement

A message that has been given to queues is retired with the last of them that settles it: not before,
and once. Until then it is stored, and each queue that has not settled it still has it. Afterwards
nothing is left of it, and nothing more is announced about it until it is stored again.
-/

namespace MessageBroker

open Books

namespace Books

/-- What becomes of a message that no queue gets meanwhile: some queues settle it, and it is retired
if these are the last. -/
structure Course (id : CorrelationId) (s : Books) (settled : List Nat) (s' : Books) : Prop where
  balance : holders id s'.stakes + ↑settled = holders id s.stakes
  told : Told id (tally id s.stakes) (tally id s'.stakes) (s.story id) (s'.story id)
  kept : s'.depot.messages.get? id =
    if tally id s.stakes ≠ 0 ∧ tally id s'.stakes = 0 then none else s.depot.messages.get? id

namespace Course

variable {id : CorrelationId} {s s' s'' : Books} {settled settled' : List Nat}

theorem refl (id : CorrelationId) (s : Books) : Course id s [] s where
  balance := add_zero _
  told := .refl id _ _
  kept := (if_neg fun h => h.1 h.2).symm

theorem tally_eq (course : Course id s settled s') :
    tally id s'.stakes + settled.length = tally id s.stakes := by
  have whole := congrArg Multiset.card course.balance
  simpa only [Multiset.card_add, card_holders, Multiset.coe_card] using whole

theorem trans (first : Course id s settled s') (second : Course id s' settled' s'') :
    Course id s (settled ++ settled') s'' := by
  have one := first.tally_eq
  have two := second.tally_eq
  refine ⟨?_, first.told.trans second.told (by omega) (by omega), ?_⟩
  · rw [← first.balance, ← second.balance, ← Multiset.coe_add, add_right_comm, add_assoc]
  · rw [second.kept, first.kept]
    by_cases ended : tally id s'.stakes = 0
    · have gone : tally id s''.stakes = 0 := by omega
      simp [ended, gone]
    · have some' : tally id s.stakes ≠ 0 := by omega
      simp [ended, some']

theorem ofTurn {gained given : CorrelationId → List Nat} (turn : Turn s gained given s')
    (none' : gained id = []) : Course id s (given id) s' where
  balance := by
    have whole := turn.balance id
    rwa [none', Multiset.coe_nil, add_zero] at whole
  told := turn.told id none'
  kept := turn.kept id none'

variable {queues : List Nat}

/-- The queues that have not settled a message have a stake in it, and no others. -/
theorem holders_iff (course : Course id s settled s') (held : holders id s.stakes = ↑queues)
    (once : queues.Nodup) :
    settled.Nodup ∧ settled ⊆ queues ∧
      ∀ k, k ∈ holders id s'.stakes ↔ k ∈ queues ∧ k ∉ settled := by
  have whole := course.balance
  rw [held] at whole
  have apart := Multiset.coe_nodup.2 once
  rw [← whole, Multiset.nodup_add, Multiset.disjoint_left] at apart
  have mem : ∀ k, k ∈ queues ↔ k ∈ holders id s'.stakes ∨ k ∈ settled := by
    intro k
    rw [← Multiset.mem_coe (l := queues), ← whole, Multiset.mem_add, Multiset.mem_coe]
  refine ⟨Multiset.coe_nodup.1 apart.2.1, fun k settles => (mem k).2 (.inr settles), ?_⟩
  intro k
  rw [mem k]
  constructor
  · intro stake
    exact ⟨.inl stake, apart.2.2 stake⟩
  · rintro ⟨stake | settles, unsettled⟩
    · exact stake
    · exact absurd settles unsettled

/-- Nobody has a stake in a message that all queues have settled. -/
theorem ended_iff (course : Course id s settled s') (held : holders id s.stakes = ↑queues)
    (once : queues.Nodup) : tally id s'.stakes = 0 ↔ ∀ k ∈ queues, k ∈ settled := by
  obtain ⟨-, -, stakes⟩ := course.holders_iff held once
  rw [← card_holders, Multiset.card_eq_zero, Multiset.eq_zero_iff_forall_notMem]
  constructor
  · intro nobody k listed
    by_contra unsettled
    exact nobody k ((stakes k).2 ⟨listed, unsettled⟩)
  · intro ended k stake
    obtain ⟨listed, unsettled⟩ := (stakes k).1 stake
    exact unsettled (ended k listed)

end Course

/-- The announcement that a message is retired occurs in the story of the message. -/
theorem count_story (s : Books) (id : CorrelationId) :
    (s.story id).count (.messageRetired id) = s.events.count (.messageRetired id) :=
  List.count_filter (by simp [Event.message?])

theorem head?_story (s : Books) (id : CorrelationId) :
    (s.story id).head? = s.events.find? fun e => e.message? = some id :=
  List.head?_filter

end Books

namespace Broker

variable {b : Broker} {answered : List Nat} {id : CorrelationId}

/-- A queue has yet to settle a message: the message waits in it, or a delivery that was taken from
it is going to be written or has been written and is not concluded. -/
def owes (b : Broker) (k : Nat) (id : CorrelationId) : Prop :=
  (∃ lane, b.lanes[k]? = some lane ∧ id ∈ lane.queue.pending) ∨
    ∃ d : Delivery, (.send d ∈ b.tasks ∨ d ∈ b.flights.values) ∧ d.lane = k ∧ d.message = id

/-- What was announced, latest first. -/
def announcements (b : Broker) : List Event :=
  Record.events b.log

theorem course_after (order : b.InOrder answered) (moves : List Move)
    (quiet : b.arrivals id moves = []) :
    Course id b.books (b.settlements answered id moves) (b.after moves).books := by
  induction moves generalizing b answered with
  | nil => exact .refl id b.books
  | cons m moves ih =>
      obtain ⟨none', quiet⟩ := List.append_eq_nil_iff.1 quiet
      exact (Course.ofTurn (apply_turn order m).1 none').trans (ih (order.apply m) quiet)

/-- A queue has yet to settle a message if it has a stake in it. -/
theorem owes_iff {k : Nat} : b.owes k id ↔ (k, id) ∈ b.books.stakes := by
  have waits : (k, id) ∈ shelved 0 b.books.shelves ↔
      ∃ lane, b.lanes[k]? = some lane ∧ id ∈ lane.queue.pending := by
    have whole : (0 + k, id) ∈ shelved 0 b.books.shelves ↔
        ∃ shelf, b.books.shelves[k]? = some shelf ∧ id ∈ shelf.pending := mem_shelved
    rw [Nat.zero_add] at whole
    rw [whole]
    simp [books, Lane.shelf]
  have sends : (k, id) ∈ b.books.sends.map Delivery.stake ↔
      ∃ d, .send d ∈ b.tasks ∧ d.lane = k ∧ d.message = id := by
    simp only [books, List.mem_map, List.mem_filterMap, Delivery.stake, Prod.mk.injEq]
    constructor
    · rintro ⟨d, ⟨task, listed, sends⟩, about⟩
      cases task with
      | send d' =>
          obtain rfl : d' = d := Option.some.inj sends
          exact ⟨d', listed, about⟩
      | _ => cases sends
    · rintro ⟨d, listed, about⟩
      exact ⟨d, ⟨.send d, listed, rfl⟩, about⟩
  have flies : (k, id) ∈ b.books.flights.values.map Delivery.stake ↔
      ∃ d ∈ b.flights.values, d.lane = k ∧ d.message = id := by
    simp [books, Delivery.stake]
  rw [owes, stakes, Multiset.mem_add, Multiset.mem_add, Multiset.mem_coe, Multiset.mem_coe, waits,
    sends, flies, or_assoc]
  refine or_congr_right ?_
  constructor
  · rintro ⟨d, written | flown, about⟩
    · exact .inl ⟨d, written, about⟩
    · exact .inr ⟨d, flown, about⟩
  · rintro (⟨d, written, about⟩ | ⟨d, flown, about⟩)
    · exact ⟨d, .inl written, about⟩
    · exact ⟨d, .inr flown, about⟩

/-- What has become of a message that was given to queues, after some of them have settled it and
when it had been retired a number of times before. -/
structure Fate (id : CorrelationId) (queues settled : List Nat) (retirements : Nat) (b : Broker) :
    Prop where
  /-- No queue got the message twice. -/
  apart : queues.Nodup
  /-- No queue settles the message twice, and only those do that got it. -/
  once : settled.Nodup
  among : settled ⊆ queues
  /-- The others have it still, and nobody else. -/
  owed : ∀ k, b.owes k id ↔ k ∈ queues ∧ k ∉ settled
  stored : (b.depot.messages.get? id).isSome ↔ ¬queues ⊆ settled
  retired : b.announcements.count (.messageRetired id) =
    retirements + if queues ⊆ settled then 1 else 0
  /-- After its retirement nothing is announced about it. -/
  silent : queues ⊆ settled →
    (b.announcements.find? fun e => e.message? = some id) = some (.messageRetired id)
  /-- It may be given to queues again when it is retired, and not before. -/
  again : ∀ m, b.fansOut m id ≠ [] → queues ⊆ settled

/-- Queues begin to hold a message all at once, and this does not retire it. -/
theorem begin_of_fansOut (order : b.InOrder answered) {m : Move} (given : b.fansOut m id ≠ []) :
    holders id (b.apply m).books.stakes = ↑(b.fansOut m id) ∧ (b.fansOut m id).Nodup ∧
      (b.apply m).announcements.count (.messageRetired id) =
        b.announcements.count (.messageRetired id) := by
  have turn := (apply_turn order m).1
  obtain ⟨new, nothing, news, story, silent⟩ := turn.begun id given
  have held : holders id (b.apply m).books.stakes = ↑(b.fansOut m id) := by
    have whole := turn.balance id
    have none' : holders id b.books.stakes = 0 := by
      rw [← Multiset.card_eq_zero, card_holders]
      exact new
    rwa [nothing, Multiset.coe_nil, add_zero, none', zero_add] at whole
  refine ⟨held, ?_, ?_⟩
  · have once := turn.balanced.once
    rw [add_zero] at once
    rw [← Multiset.coe_nodup, ← held]
    exact nodup_holders once
  · have early : List.count (.messageRetired id) news = 0 := List.count_eq_zero.2 silent
    change (b.apply m).books.events.count _ = b.books.events.count _
    rw [← count_story, ← count_story, story, List.count_append, early, Nat.zero_add]

/-- The queues that hold a message settle it in the course of time, and the last of them retires
it. -/
theorem fate_of_course {b' : Broker} {queues settled : List Nat}
    (course : Course id b.books settled b'.books) (order : b'.InOrder answered)
    (held : holders id b.books.stakes = ↑queues) (apart : queues.Nodup) (some' : queues ≠ []) :
    Fate id queues settled (b.announcements.count (.messageRetired id)) b' := by
  obtain ⟨once, among, stakes⟩ := course.holders_iff held apart
  have ended : tally id b'.books.stakes = 0 ↔ queues ⊆ settled := course.ended_iff held apart
  have begun : tally id b.books.stakes ≠ 0 := by
    rw [← card_holders, held, Multiset.coe_card]
    exact fun none' => some' (List.length_eq_zero_iff.1 none')
  obtain ⟨fresh, story, silent, -⟩ := course.told
  refine ⟨apart, once, among, ?_, ?_, ?_, ?_, ?_⟩
  · intro k
    rw [owes_iff, ← mem_holders]
    exact stakes k
  · rw [← ended]
    constructor
    · intro stored none'
      have kept := course.kept
      rw [if_pos ⟨begun, none'⟩] at kept
      rw [show b'.depot.messages.get? id = none from kept] at stored
      exact Bool.false_ne_true stored
    · intro left
      obtain ⟨message, stored⟩ := order.balanced.stored id (by rwa [add_zero])
      rw [show b'.depot.messages.get? id = some message from stored]
      rfl
  · have late : List.count (.messageRetired id) fresh = 0 := List.count_eq_zero.2 silent
    change b'.books.events.count _ = b.books.events.count _ + _
    rw [← count_story, ← count_story, story, List.count_append, List.count_append, late,
      Nat.add_zero, Nat.add_comm]
    by_cases all : queues ⊆ settled
    · rw [if_pos all, if_pos ⟨begun, ended.2 all⟩, List.count_singleton_self]
    · rw [if_neg all, if_neg fun h => all (ended.1 h.2), List.count_nil]
  · intro all
    change (b'.books.events.find? fun e => e.message? = some id) = _
    rw [← head?_story, story, if_pos ⟨begun, ended.2 all⟩]
    rfl
  · intro m given
    exact ended.1 ((apply_turn order m).1.begun id given).1

/-- A message that is given to queues is retired with the last of them that settles it. When nothing
is left in the line, every queue has settled it whose delivery of it was answered on the way. -/
theorem retired_with_last_settlement {settings : Settings.Engine} {mint : Nat → CorrelationId}
    {calendar : Nat} {messages : Store.Messages} {start : Broker}
    (started : Broker.new? settings mint calendar (.holding messages) = some start)
    (past : List Move) (m : Move) (future : List Move) (id : CorrelationId)
    (given : (start.after past).fansOut m id ≠ [])
    (quiet : ((start.after past).apply m).arrivals id future = []) :
    let before := start.after past
    let b := (before.apply m).after future
    let settled := (before.apply m).settlements (start.heard past ++ before.answersOf m) id future
    Fate id (before.fansOut m id) settled (before.announcements.count (.messageRetired id)) b ∧
      (b.tasks = [] → ∀ earlier move later k, future = earlier ++ move :: later →
        ((before.apply m).after earlier).isAnswered move k id → k ∈ settled) := by
  intro before b settled
  have order := (InOrder.start started).after past
  rw [List.nil_append] at order
  have order' := order.apply m
  obtain ⟨held, apart, retirements⟩ := begin_of_fansOut order given
  have course : Course id (before.apply m).books settled b.books := course_after order' future quiet
  constructor
  · have fate := fate_of_course course (order'.after future) held apart given
    rwa [retirements] at fate
  · intro rest earlier move later k whole answers
    subst whole
    exact settles_of_isAnswered order' answers rest

/-- Two queues are declared, and there is a reader of one of them. -/
def opening : List Move :=
  [.declare "left" "news", .declare "right" "news", .connect "reader" .reliable,
    .subscribe "reader" "left" none, .task, .task]

/-- Something is published to both queues. -/
def news : Move := .publish ⟨.ofNat 1, "news", [7], none, 0⟩

/-- The reader confirms its delivery, and the other queue is deleted. -/
def closing : List Move :=
  [.task, .task, .task, .task, .task, .feed "reader" (Wire.Frame.ack (.fresh 1)).encode,
    .frame "reader", .task, .task, .delete "right"]

/-- With that it is retired. -/
theorem retired_at_closing :
    (sample.after opening).fansOut news (.ofNat 1) ≠ [] ∧
      ((sample.after opening).apply news).arrivals (.ofNat 1) closing = [] ∧
      (((sample.after opening).apply news).after closing).announcements.count
        (.messageRetired (.ofNat 1)) = 1 := by
  have given : (sample.after opening).fansOut news (.ofNat 1) ≠ [] := List.cons_ne_nil 0 [1]
  have quiet : ((sample.after opening).apply news).arrivals (.ofNat 1) closing = [] := rfl
  obtain ⟨fate, -⟩ :=
    retired_with_last_settlement new?_sample opening news closing (.ofNat 1) given quiet
  exact ⟨given, quiet, fate.retired.trans rfl⟩

end Broker

end MessageBroker
