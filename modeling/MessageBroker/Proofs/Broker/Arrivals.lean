import MessageBroker.Proofs.Broker.Turns

/-!
# Arrivals

A message is published to all declared queues that its route belongs to, and recovered to them as
well. Such queues are open and none is listed twice, so each of them takes the message once.
-/

namespace MessageBroker

open Books

namespace Store.Depot

variable {d : Depot}

/-- The depot with a message that is new. -/
def entering (d : Depot) (p : Message) : Depot :=
  { d with messages := ⟨d.messages.byId.insert p.id p⟩ }

theorem get?_entering (d : Depot) (p : Message) (id : CorrelationId) :
    (d.entering p).messages.get? id = if id = p.id then some p else d.messages.get? id :=
  Table.get?_insert _ _ _ _

theorem add_of_works (works : ∀ call, d.failuresOf call = 0) (p : Message) :
    d.add p = if d.messages.get? p.id = none then (.ok (), d.entering p)
      else (.error (.duplicate p.id), d) := by
  rw [add, use_of_works (works .add), Messages.add, Table.contains, Messages.get?]
  cases d.messages.byId.get? p.id <;> rfl

theorem oldest_of_works (works : ∀ call, d.failuresOf call = 0) (limit : Nat) :
    d.oldest limit = (.ok (d.messages.oldest limit), d) :=
  use_of_works (works _) _

end Store.Depot

namespace Broker

variable {b : Broker}

/-! ## The queues that match -/

theorem mem_matching {route : String} {k : Nat} :
    k ∈ b.matching route ↔ ∃ lane, b.lanes[k]? = some lane ∧ lane.queue.isClosed = false ∧
      lane.queue.pattern.accepts route = true := by
  simp only [matching, List.mem_filterMap, Option.ite_none_right_eq_some, Bool.and_eq_true,
    Bool.not_eq_true', Option.some.injEq]
  constructor
  · rintro ⟨⟨j, lane⟩, listed, holds, rfl⟩
    obtain ⟨i, place⟩ := List.mem_iff_getElem?.1 listed
    rw [List.getElem?_mapIdx, Option.map_eq_some_iff] at place
    obtain ⟨lane', found, same⟩ := place
    obtain ⟨rfl, rfl⟩ := Prod.mk.inj same
    exact ⟨lane', found, holds⟩
  · rintro ⟨lane, found, holds⟩
    refine ⟨(k, lane), List.mem_iff_getElem?.2 ⟨k, ?_⟩, holds, rfl⟩
    rw [List.getElem?_mapIdx, found, Option.map_some]

theorem isOpen_of_matching {route : String} {k : Nat} (listed : k ∈ b.matching route) :
    b.books.isOpen k = true := by
  obtain ⟨lane, found, free, -⟩ := mem_matching.1 listed
  rw [isOpen_of_lane found, free]
  rfl

/-- No queue matches a route twice. -/
theorem nodup_matching (b : Broker) (route : String) : (b.matching route).Nodup := by
  have numbers : ((b.lanes.mapIdx fun k lane => (k, lane)).map Prod.fst).Nodup := by
    have range : (b.lanes.mapIdx fun k lane => (k, lane)).map Prod.fst =
        List.range b.lanes.length := by
      apply List.ext_getElem
      · simp
      · intro j _ _
        simp
    rw [range]
    exact List.nodup_range
  have chosen : b.matching route = ((b.lanes.mapIdx fun k lane => (k, lane)).filter
      fun entry => !entry.2.queue.isClosed && entry.2.queue.pattern.accepts route).map Prod.fst := by
    rw [matching, ← List.filterMap_eq_filter, List.map_filterMap]
    refine List.filterMap_congr ?_
    rintro ⟨k, lane⟩ _
    by_cases holds : (!lane.queue.isClosed && lane.queue.pattern.accepts route) = true <;>
      simp [Option.guard, holds]
  rw [chosen]
  exact numbers.sublist (List.filter_sublist.map _)

/-- What decides which queues match. -/
def signs (b : Broker) : List (Bool × Pattern) :=
  b.lanes.map fun lane => (lane.queue.isClosed, lane.queue.pattern)

theorem matching_of_signs {b b' : Broker} (same : b'.signs = b.signs) (route : String) :
    b'.matching route = b.matching route := by
  have told : ∀ b : Broker, b.matching route = (b.signs.mapIdx fun k sign => (k, sign)).filterMap
      fun (k, sign) => if !sign.1 && sign.2.accepts route then some k else none := by
    intro b
    rw [signs, List.mapIdx_eq_zipIdx_map]
    simp [matching, List.mapIdx_eq_zipIdx_map, List.filterMap_map, List.zipIdx_map]
  rw [told, told, same]

theorem signs_modifyLane (b : Broker) (k : Nat) {f : Lane → Lane}
    (same : ∀ lane, b.lanes[k]? = some lane → (f lane).queue.isClosed = lane.queue.isClosed ∧
      (f lane).queue.pattern = lane.queue.pattern) : (b.modifyLane k f).signs = b.signs := by
  apply List.ext_getElem?
  intro j
  rw [signs, signs, modifyLane, List.getElem?_map, List.getElem?_map, List.getElem?_modify]
  by_cases here : k = j
  · subst here
    cases found : b.lanes[k]? with
    | none => rfl
    | some lane => simp [same lane found]
  · simp [here]

@[simp] theorem signs_rouse (b : Broker) (k : Nat) : (b.rouse k).signs = b.signs := by
  unfold rouse
  split
  · split
    · exact b.signs_modifyLane k fun _ _ => ⟨rfl, rfl⟩
    · rfl
  · rfl

@[simp] theorem signs_enqueue (b : Broker) (k : Nat) (m : CorrelationId) :
    (b.enqueue k m).2.signs = b.signs := by
  unfold enqueue
  cases found : b.lanes[k]? with
  | none => rfl
  | some lane =>
      refine (signs_rouse _ k).trans (b.signs_modifyLane k ?_)
      intro lane' found'
      rw [Option.some.inj (found'.symm.trans found), Queue.enqueue]
      split <;> exact ⟨rfl, rfl⟩

@[simp] theorem signs_release (b : Broker) (m : CorrelationId) : (b.release m).signs = b.signs := by
  unfold release
  dsimp only
  split
  · split <;> rfl
  · rfl

theorem signs_fanOut (b : Broker) (m : CorrelationId) (lanes : List Nat) :
    (b.fanOut m lanes).2.signs = b.signs := by
  have each : ∀ (lanes : List Nat) (count : Nat) (b : Broker),
      (lanes.foldl (fanOutTo m) (count, b)).2.signs = b.signs := by
    intro lanes
    induction lanes with
    | nil => exact fun _ _ => rfl
    | cons k lanes ih =>
        intro count b
        have taken := b.signs_enqueue k m
        rw [List.foldl_cons, ih, fanOutTo]
        dsimp only
        cases (b.enqueue k m).1 with
        | true => exact taken
        | false => exact (signs_release _ m).trans taken
  exact each lanes 0 _

/-- To recover a message leaves all queues as they are, apart from what waits in them. -/
theorem matching_recoverOne (b : Broker) (report : Recovery) (m : CorrelationId) (route : String) :
    (b.recoverOne report m).2.matching route = b.matching route := by
  apply matching_of_signs
  unfold recoverOne
  split
  · rfl
  · split
    · rfl
    · rfl
    · rename_i message depot _
      dsimp only
      split
      · rfl
      · split <;> exact signs_fanOut { b with depot } m _

/-! ## Fan-out -/

end Broker

namespace Books

variable {s s' : Books} {m : CorrelationId} {lanes : List Nat}

theorem tally_of_lanes (id : CorrelationId) :
    tally id (↑(lanes.map fun k => (k, m)) : Multiset Stake) =
      (if m = id then lanes else []).length := by
  rw [← card_holders, holders_of_lanes, Multiset.coe_card]

/-- References are set up for stakes that are going to be given to queues. -/
theorem Balanced.setUp (balanced : s.Balanced 0) (new : tally m s.stakes = 0)
    (stored : ∃ message, s.depot.messages.get? m = some message) (once : lanes.Nodup) :
    Balanced { s with references := s.references.setUp m lanes.length }
      ↑(lanes.map fun k => (k, m)) := by
  have tallies : ∀ id, tally id (s.stakes + ↑(lanes.map fun k => (k, m))) =
      tally id s.stakes + (if m = id then lanes else []).length := by
    intro id
    rw [tally_add, tally_of_lanes]
  have counted : ∀ id, (s.references.setUp m lanes.length).outstanding id =
      if m = id then if lanes.length = 0 then none else some lanes.length
      else s.references.outstanding id := by
    intro id
    rw [References.setUp]
    split
    · refine (Table.get?_erase _ _ _).trans ?_
      simp only [eq_comm (a := id)]
      rfl
    · refine (Table.get?_insert _ _ _ _).trans ?_
      simp only [eq_comm (a := id)]
      rfl
  refine ⟨?_, ?_, ?_, balanced.closed, balanced.works⟩
  · have whole := balanced.once
    rw [add_zero] at whole
    refine Multiset.nodup_add.2 ⟨whole, ?_, ?_⟩
    · exact Multiset.coe_nodup.2 (once.map fun _ _ same => (Prod.mk.inj same).1)
    · rw [Multiset.disjoint_left]
      intro x held listed
      obtain ⟨k, -, rfl⟩ := List.mem_map.1 (Multiset.mem_coe.1 listed)
      exact tally_eq_zero.1 new _ held rfl
  · intro id
    refine (counted id).trans ?_
    change _ = if tally id (s.stakes + ↑(lanes.map fun k => (k, m))) = 0 then none
      else some (tally id (s.stakes + ↑(lanes.map fun k => (k, m))))
    rw [tallies]
    by_cases same : m = id
    · rw [← same, new, if_pos rfl, if_pos rfl, Nat.zero_add]
    · rw [if_neg same, if_neg same, List.length_nil, Nat.add_zero, balanced.counted, add_zero]
  · intro id some'
    by_cases same : m = id
    · rw [← same]
      exact stored
    · apply balanced.stored id
      have kept := tallies id
      rw [if_neg same, List.length_nil, Nat.add_zero] at kept
      rw [add_zero, ← kept]
      exact some'

/-- There is no stake in a message that is not stored. -/
theorem Balanced.new (balanced : s.Balanced 0) (missing : s.depot.messages.get? m = none) :
    tally m s.stakes = 0 := by
  by_contra some'
  obtain ⟨message, found⟩ := balanced.stored m (by rwa [add_zero])
  rw [missing] at found
  exact Option.some_ne_none message found.symm

theorem Balanced.enter (balanced : s.Balanced 0) (p : Store.Message) :
    Balanced { s with depot := s.depot.entering p } 0 := by
  refine ⟨balanced.once, balanced.counted, ?_, balanced.closed, balanced.works⟩
  intro id some'
  change ∃ m, (s.depot.entering p).messages.get? id = some m
  rw [Store.Depot.get?_entering]
  by_cases same : id = p.id
  · exact ⟨p, if_pos same⟩
  · rw [if_neg same]
    exact balanced.stored id some'

/-- A message that is stored goes to queues, and that is announced. -/
theorem Turn.enter {p : Store.Message} (turn : Turn { s with depot := s.depot.entering p }
      (fun id => if p.id = id then lanes else []) (fun _ => []) s')
    (some' : lanes ≠ []) (count : Nat) :
    Turn s (fun id => if p.id = id then lanes else []) (fun _ => [])
      { s' with events := .messageStored p.id count :: s'.events } := by
  have balanced := turn.balanced
  refine ⟨⟨balanced.once, balanced.counted, balanced.stored, balanced.closed, balanced.works⟩,
    turn.balance, ?_, ?_, ?_⟩
  · intro id gains
    have same : p.id = id := by
      by_contra other
      exact gains (if_neg other)
    obtain ⟨none', nothing, news, story, silent⟩ := turn.begun id gains
    refine ⟨none', nothing, .messageStored p.id count :: news, ?_, ?_⟩
    · refine (List.filter_cons_of_pos (by simp [Event.message?, same])).trans ?_
      exact congrArg _ story
    · simpa using silent
  · intro id none'
    have other : p.id ≠ id := by
      rintro rfl
      exact some' (by simpa using none')
    have quiet : story { s' with events := .messageStored p.id count :: s'.events } id =
        s'.story id := List.filter_cons_of_neg (by simp [Event.message?, other])
    rw [quiet]
    exact turn.told id none'
  · intro id none'
    have other : id ≠ p.id := by
      rintro rfl
      exact some' (by simpa using none')
    refine (turn.kept id none').trans ?_
    change (if _ then none else (s.depot.entering p).messages.get? id) = _
    rw [Store.Depot.get?_entering, if_neg other]
    rfl

/-- Stakes that were set up have gone to their queues. -/
theorem Turn.ofSpread (new : tally m s.stakes = 0)
    (passage : Passage { s with references := s.references.setUp m lanes.length }
      ↑(lanes.map fun k => (k, m)) 0 s' 0) :
    Turn s (fun id => if m = id then lanes else []) (fun _ => []) s' := by
  have before : ∀ id, tally id (stakes { s with
      references := s.references.setUp m lanes.length } + ↑(lanes.map fun k => (k, m))) =
      tally id s.stakes + (if m = id then lanes else []).length := by
    intro id
    rw [tally_add, tally_of_lanes]
    rfl
  have since : ∀ id, tally id (s'.stakes + 0) =
      tally id s.stakes + (if m = id then lanes else []).length := by
    intro id
    rw [← before, ← passage.balance, add_zero (s'.stakes + 0)]
  have same : ∀ id, (if m = id then lanes else []) = [] →
      tally id s'.stakes = tally id s.stakes := by
    intro id none'
    have now := since id
    rwa [none', List.length_nil, Nat.add_zero, add_zero] at now
  refine ⟨passage.balanced, ?_, ?_, ?_, ?_⟩
  · intro id
    have whole := congrArg (holders id) passage.balance
    rw [add_zero, add_zero, holders_add, holders_of_lanes] at whole
    rw [Multiset.coe_nil, add_zero]
    exact whole
  · intro id some'
    have same : m = id := by
      by_contra other
      exact some' (if_neg other)
    obtain ⟨news, story, silent, -⟩ := passage.told id
    rw [before, since, if_neg fun h => h.1 h.2] at story
    exact ⟨same ▸ new, rfl, news, story, silent⟩
  · intro id none'
    have told := passage.told id
    rw [before, since, none', List.length_nil, Nat.add_zero] at told
    rw [same id none']
    exact told
  · intro id none'
    have kept := passage.kept id
    rw [before, since, if_neg fun h => h.1 h.2] at kept
    rw [same id none', if_neg fun h => h.1 h.2]
    exact kept

end Books

namespace Broker

variable {b : Broker}

/-- Of the queues that get a message which is stored and in which no queue has a stake, those that
are open count and the others give their stake up. -/
theorem fanOut_passage {m : CorrelationId} {lanes : List Nat} (balanced : b.books.Balanced 0)
    (new : tally m b.books.stakes = 0) (stored : ∃ message, b.depot.messages.get? m = some message)
    (once : lanes.Nodup) :
    (b.fanOut m lanes).1 = (lanes.filter b.books.isOpen).length ∧
      Passage { b.books with references := b.references.setUp m lanes.length }
        ↑(lanes.map fun k => (k, m)) ↑((shutAmong b.books lanes).map fun k => (k, m))
        (b.fanOut m lanes).2.books 0 := by
  have begun := balanced.setUp new stored once
  rw [← add_zero (↑(lanes.map fun k => (k, m)) : Multiset Stake)] at begun
  obtain ⟨count, passage⟩ := fanOutEach_passage
    (b := { b with references := b.references.setUp m lanes.length }) begun 0
  rw [add_zero] at passage
  exact ⟨count.trans (Nat.zero_add _), passage⟩

/-- Open queues get a message that is stored and that no queue has a stake in. -/
theorem fanOut_turn {m : CorrelationId} {lanes : List Nat} (balanced : b.books.Balanced 0)
    (new : tally m b.books.stakes = 0) (stored : ∃ message, b.depot.messages.get? m = some message)
    (once : lanes.Nodup) (opened : ∀ k ∈ lanes, b.books.isOpen k = true) :
    (b.fanOut m lanes).1 = lanes.length ∧
      Turn b.books (fun id => if m = id then lanes else []) (fun _ => [])
        (b.fanOut m lanes).2.books := by
  obtain ⟨count, passage⟩ := fanOut_passage balanced new stored once
  have none' : shutAmong b.books lanes = [] := by
    rw [shutAmong, List.filter_eq_nil_iff]
    intro k listed
    simpa using opened k listed
  rw [none', List.map_nil, Multiset.coe_nil] at passage
  rw [List.filter_eq_self.2 opened] at count
  exact ⟨count, .ofSpread new passage⟩

theorem matching_turn {m : CorrelationId} (balanced : b.books.Balanced 0)
    (new : tally m b.books.stakes = 0) (stored : ∃ message, b.depot.messages.get? m = some message)
    (route : String) :
    (b.fanOut m (b.matching route)).1 = (b.matching route).length ∧
      Turn b.books (fun id => if m = id then b.matching route else []) (fun _ => [])
        (b.fanOut m (b.matching route)).2.books :=
  fanOut_turn balanced new stored (b.nodup_matching route) fun _ listed => isOpen_of_matching listed

/-! ## Publication -/

/-- The queues that get a message when it is published. -/
def takers (b : Broker) (p : Store.Message) : List Nat :=
  if b.depot.messages.get? p.id = none then b.matching p.route else []

theorem bring_turn (balanced : b.books.Balanced 0) {p : Store.Message}
    (some' : b.matching p.route ≠ []) :
    Turn b.books (fun id => if p.id = id then b.takers p else []) (fun _ => [])
      (b.bring p (b.matching p.route)).2.books := by
  unfold bring takers
  have works : ∀ call, b.depot.failuresOf call = 0 := balanced.works
  rw [Store.Depot.add_of_works works]
  by_cases missing : b.depot.messages.get? p.id = none
  · have new := balanced.new missing
    rw [if_pos missing, if_pos missing]
    obtain ⟨count, turn⟩ := matching_turn (b := { b with depot := b.depot.entering p })
      (balanced.enter p) new ⟨p, (Store.Depot.get?_entering _ _ _).trans (if_pos rfl)⟩ p.route
    have taken : (fanOut { b with depot := b.depot.entering p } p.id (b.matching p.route)).1 ≠ 0 := by
      rw [show (fanOut { b with depot := b.depot.entering p } p.id (b.matching p.route)).1 =
        (b.matching p.route).length from count]
      exact fun none' => some' (List.length_eq_zero_iff.1 none')
    simp only [if_neg taken]
    rw [books_announce]
    exact turn.enter some' _
  · rw [if_neg missing, if_neg missing]
    simp only [ite_self]
    exact .refl balanced

theorem publish_turn (balanced : b.books.Balanced 0) (p : Store.Message) :
    Turn b.books (fun id => if p.id = id then b.takers p else []) (fun _ => [])
      (b.publish p).2.books := by
  unfold publish
  split
  · rename_i none'
    simp only [takers, none', ite_self]
    exact .refl balanced
  · rename_i some'
    exact bring_turn balanced some'

/-! ## Recovery -/

/-- The queues that get a message when it is recovered. -/
def heirs (b : Broker) (id : CorrelationId) : List Nat :=
  match b.references.outstanding id, b.depot.messages.get? id with
  | none, some p => b.matching p.route
  | _, _ => []

theorem recoverOne_turn (balanced : b.books.Balanced 0) (report : Recovery) (m : CorrelationId) :
    (∃ report', (b.recoverOne report m).1 = .ok report') ∧
      Turn b.books (fun id => if m = id then b.heirs m else []) (fun _ => [])
        (b.recoverOne report m).2.books := by
  have works : ∀ call, b.depot.failuresOf call = 0 := balanced.works
  have counted : b.references.outstanding m = if tally m (b.books.stakes + 0) = 0 then none
      else some (tally m (b.books.stakes + 0)) := balanced.counted m
  rw [add_zero] at counted
  unfold recoverOne heirs
  rw [Store.Depot.get?_of_works works]
  cases outstanding : b.references.outstanding m with
  | some n =>
      simp only [Option.isSome_some, if_true, ite_self]
      exact ⟨⟨_, rfl⟩, .refl balanced⟩
  | none =>
      have new : tally m b.books.stakes = 0 := by
        by_contra some'
        rw [outstanding, if_neg some'] at counted
        exact Option.some_ne_none _ counted.symm
      simp only [Option.isSome_none, Bool.false_eq_true, if_false]
      cases stored : b.depot.messages.get? m with
      | none =>
          simp only [ite_self]
          exact ⟨⟨_, rfl⟩, .refl balanced⟩
      | some p =>
          dsimp only
          split
          · rename_i none'
            simp only [show b.matching p.route = [] from none', ite_self]
            exact ⟨⟨_, rfl⟩, .refl balanced⟩
          · rename_i some'
            obtain ⟨count, turn⟩ := matching_turn balanced new ⟨p, stored⟩ p.route
            have taken : (b.fanOut m (b.matching p.route)).1 ≠ 0 := by
              rw [count]
              exact fun none' => some' (List.length_eq_zero_iff.1 none')
            rw [if_neg taken]
            exact ⟨⟨_, rfl⟩, turn⟩

/-- After a message that the store has let it look at, a recovery goes on with the others. -/
theorem recoverEach_cons {report report' : Recovery} {m : CorrelationId} {ids : List CorrelationId}
    (looked : (b.recoverOne report m).1 = .ok report') :
    b.recoverEach report (m :: ids) = (b.recoverOne report m).2.recoverEach report' ids := by
  rw [recoverEach]
  split
  · rename_i e b' stopped
    rw [stopped] at looked
    cases looked
  · rename_i report'' b' went
    rw [went] at looked
    rw [went, Except.ok.inj looked]

/-- Messages are recovered one after the other, each at most once. -/
theorem recoverEach_turn (balanced : b.books.Balanced 0) (report : Recovery)
    (ids : List CorrelationId) :
    Turn b.books (fun id => if id ∈ ids then b.heirs id else []) (fun _ => [])
      (b.recoverEach report ids).2.books := by
  induction ids generalizing b report with
  | nil =>
      simp only [List.not_mem_nil, if_false]
      exact .refl balanced
  | cons m ids ih =>
      obtain ⟨⟨report', looked⟩, first⟩ := recoverOne_turn balanced report m
      have matching := b.matching_recoverOne report m
      rw [recoverEach_cons looked]
      generalize (b.recoverOne report m).2 = b' at first matching
      have whole := first.trans (ih first.balanced report')
      have same : (fun id => (if m = id then b.heirs m else []) ++
          if id ∈ ids then b'.heirs id else []) =
          fun id => if id ∈ m :: ids then b.heirs id else [] := by
        funext id
        by_cases early : (if m = id then b.heirs m else []) = []
        · obtain ⟨-, outstanding, stored⟩ := first.untouched balanced early rfl
          have kept : b'.heirs id = b.heirs id := by
            simp only [heirs, matching]
            rw [show b'.references.outstanding id = b.references.outstanding id from outstanding,
              show b'.depot.messages.get? id = b.depot.messages.get? id from stored]
          rw [early, List.nil_append, kept]
          by_cases here : m = id
          · have nothing : b.heirs id = [] := by simpa [here] using early
            simp [nothing]
          · simp [eq_comm (a := id), here]
        · have here : m = id := by
            by_contra other
            exact early (if_neg other)
          subst here
          have held : b'.heirs m = [] := by
            have counted := first.balanced.counted m
            have grown : tally m b'.books.stakes + 0 =
              tally m b.books.stakes + (if m = m then b.heirs m else []).length := first.tally_eq m
            have some' : tally m b'.books.stakes ≠ 0 := by
              have gains := List.length_pos_of_ne_nil early
              omega
            rw [add_zero, if_neg some'] at counted
            rw [heirs, show b'.references.outstanding m = _ from counted]
          simp [held]
      rwa [same] at whole

theorem recover_turn (balanced : b.books.Balanced 0) :
    Turn b.books
      (fun id => if id ∈ b.depot.messages.oldest b.settings.recoveryBatchLimit then b.heirs id
        else [])
      (fun _ => []) b.recover.2.books := by
  have works : ∀ call, b.depot.failuresOf call = 0 := balanced.works
  unfold recover
  rw [Store.Depot.oldest_of_works works]
  exact recoverEach_turn balanced {} _

end Broker

end MessageBroker
