import MessageBroker.Proofs.Broker.Standstill
import MessageBroker.Proofs.Broker.Traffic

/-!
# What happens after the shutdown

A broker at rest may have deliveries that are suspended in their links when it is shut down. It
stands still all the same: none of them is put back when its link answers, provided that no peer has
answered it before the shutdown. Each of them may still be written, once, and no other delivery is.
When no task can be performed any more, all workers have stopped, and the slots in use are those of
deliveries that are suspended still.
-/

namespace MessageBroker

open Books

/-- Whether something that happens leaves the store to itself. -/
def Motion.sparesStore : Motion → Bool
  | live e => e.sparesStore
  | _ => true

/-- The frames of deliveries that are on their way, with the numbers of their clients. -/
def Books.framesOf (s : Books) (tickets : List Nat) : List (Nat × Wire.Frame) :=
  (tickets.filterMap s.flights.get?).map fun d => (d.client, d.frame)

theorem Books.framesOf_append (s : Books) (tickets more : List Nat) :
    s.framesOf (tickets ++ more) = s.framesOf tickets ++ s.framesOf more := by
  rw [framesOf, List.filterMap_append, List.map_append, framesOf, framesOf]

namespace Broker

variable {b : Broker} {s₀ : Books}

/-! ## Answers of links -/

/-- The answer of a link is one attempt to write. -/
theorem front_takeAnswer (b : Broker) (d : Delivery) (ticket : Nat) :
    (b.takeAnswer d ticket).front = b.front.say d.client d.frame := by
  obtain ⟨b', reached, concluded⟩ := b.takeAnswer_cases d ticket
  rw [concluded, front_conclude, ← front_write]
  rcases reached with rfl | ⟨outcome, rfl⟩
  · rfl
  · exact front_resolve _ _ _

theorem frozen_takeAnswer (frozen : s₀.Frozen b.books) (d : Delivery) (ticket : Nat) :
    s₀.Frozen (b.takeAnswer d ticket).books := by
  refine takeAnswer_induction (P := fun b => s₀.Frozen b.books) d ticket ?_ ?_ ?_ frozen
  · intro b frozen
    rw [books_write]
    exact frozen
  · intro b outcome frozen
    rw [resolve_of_frozen frozen]
    exact frozen
  · exact fun b frozen => frozen_conclude frozen ticket

theorem kept_takeAnswer (kept : b.watch.Kept) (d : Delivery) (ticket : Nat) :
    (b.takeAnswer d ticket).watch.Kept := by
  refine takeAnswer_induction (P := fun b => b.watch.Kept) d ticket ?_ ?_ ?_ kept
  · intro b kept
    rw [watch_write]
    exact kept
  · intro b outcome kept
    rw [watch_resolve]
    exact kept
  · exact fun b kept => kept_conclude kept ticket

end Broker

namespace Traffic

open Broker

variable {t : Traffic} {s₀ : Books}

/-! ## Rest -/

/-- If no task can be performed, no worker goes on. -/
theorem count_of_rest (rests : t.runnable = []) (k : Nat) :
    t.broker.tasks.count (.work k) = 0 := by
  refine List.count_eq_zero.2 fun left => ?_
  obtain ⟨ticket, -, same⟩ := held_of_rest rests left
  cases same

/-- A delivery that is going to be concluded is suspended. -/
theorem suspended_of_rest (rests : t.runnable = []) {n : Nat}
    (due : n ∈ t.broker.books.concludes) : n ∈ t.suspended := by
  obtain ⟨task, left, ends⟩ := List.mem_filterMap.1 due
  obtain ⟨ticket, suspended, rfl⟩ := held_of_rest rests left
  obtain rfl := Option.some.inj ends
  exact suspended

/-- A delivery on its way has not been answered if those that are suspended have not. -/
theorem unanswered_of_rest (rests : t.runnable = []) (occupied : t.broker.Occupied [] [])
    (sound : t.broker.ledger.Sound)
    (unanswered : ∀ n ∈ t.suspended, t.broker.ledger.Unanswered n) :
    ∀ n ∈ t.broker.flights.keys, t.broker.ledger.Unanswered n := by
  intro n flown
  rcases occupied.waits_or_due flown with waits | due
  · exact Ledger.unanswered_of_isWaiting sound waits
  · exact unanswered n (suspended_of_rest rests due)

/-! ## One motion -/

theorem frozen_ordered (frozen : s₀.Frozen t.broker.books) : s₀.Frozen t.ordered.books :=
  { frozen with
    sends := (t.filterMap_ordered fun _ => rfl).trans frozen.sends
    resumes := (t.filterMap_ordered fun _ => rfl).trans frozen.resumes }

/-- No delivery is going to be written, so that none is suspended. -/
theorem frozen_motion (frozen : s₀.Frozen t.broker.books) (sound : t.broker.ledger.Sound)
    {m : Motion} (spares : m.sparesStore = true)
    (still : (t.apply m).broker.lanes.length = t.broker.lanes.length) :
    s₀.Frozen (t.apply m).broker.books := by
  have frozen' := frozen_ordered frozen
  rcases t.motion_cases m with same | ⟨e, b, rfl, rfl | rfl, lived⟩ | ⟨d, rest, line, -⟩ |
    ⟨d, ticket, -, -, answered⟩
  · rw [same]
    exact frozen
  · rw [lived] at still ⊢
    exact frozen_live frozen sound spares still
  · rw [lived] at still ⊢
    exact frozen_live frozen' sound spares still
  · obtain ⟨unsent, -⟩ := frozen_pop frozen' line
    cases unsent
  · rw [answered]
    exact frozen_takeAnswer frozen d ticket

/-- A delivery that is suspended, and one whose link answers, leave all workers doing their
duty. -/
theorem kept_motion (kept : t.broker.watch.Kept) {m : Motion}
    (onward : t.broker.now ≤ (t.apply m).broker.now) : (t.apply m).broker.watch.Kept := by
  have kept' : t.ordered.watch.Kept := t.watch_ordered ▸ kept
  rcases t.motion_cases m with same | ⟨e, b, -, rfl | rfl, lived⟩ | ⟨d, rest, line, stalled⟩ |
    ⟨d, ticket, -, -, answered⟩
  · rw [same]
    exact kept
  · rw [lived] at onward ⊢
    exact kept_live kept e onward
  · rw [lived] at onward ⊢
    exact kept_live kept' e onward
  · rw [stalled, watch_launch, watch_resolve, watch_pop line (by simp)]
    exact kept'
  · rw [answered]
    exact kept_takeAnswer kept d ticket

/-- What a motion adds to the front. Of a broker that stands still it is no delivery, unless the link
of one that was suspended has answered. -/
theorem grows_motion (t : Traffic) (m : Motion) : ∃ said,
    Front.Grows said t.broker.front (t.apply m).broker.front ∧
      ∀ s₀ : Books, s₀.Frozen t.broker.books → ∃ returned,
        (returned ++ (t.apply m).suspended).Perm t.suspended ∧
          (said.filter Front.isDelivery).Sublist (s₀.framesOf returned) := by
  rcases t.motion_cases m with same | ⟨e, b, -, rfl | rfl, lived⟩ | ⟨d, rest, line, stalled⟩ |
    ⟨d, ticket, suspended, flown, answered⟩
  · rw [same]
    exact ⟨[], .refl _, fun _ _ => ⟨[], .refl _, .refl _⟩⟩
  · rw [lived]
    refine ⟨_, grows_live _ e, fun s₀ frozen => ⟨[], .refl _, ?_⟩⟩
    rw [utters_of_frozen frozen]
    exact List.nil_sublist _
  · rw [lived]
    refine ⟨_, t.ordered.grows_live e, fun s₀ frozen => ⟨[], .refl _, ?_⟩⟩
    rw [utters_of_frozen (frozen_ordered frozen)]
    exact List.nil_sublist _
  · rw [stalled]
    refine ⟨[], .of_eq ?_, fun s₀ frozen => ?_⟩
    · rw [front_launch, front_resolve]
      rfl
    · obtain ⟨unsent, -⟩ := frozen_pop (frozen_ordered frozen) line
      cases unsent
  · rw [answered]
    refine ⟨t.broker.toward d.client d.frame, ?_, fun s₀ frozen => ⟨[ticket], ?_, ?_⟩⟩
    · rw [front_takeAnswer]
      exact t.broker.front.grows_say d.client nofun
    · exact (List.perm_cons_erase suspended).symm
    · rw [Books.framesOf, List.filterMap_cons, frozen.flown ticket d flown]
      refine (List.filter_sublist).trans ?_
      rw [toward]
      split
      · exact .refl _
      · exact List.nil_sublist _

/-- A task that is performed adds none to those that can be. -/
theorem step_of_frozen (frozen : s₀.Frozen t.broker.books) (kept : t.broker.watch.Kept)
    {task : Task} {rest : List Task} (next : t.runnable = task :: rest) :
    s₀.Frozen (t.apply (.move .task)).broker.books ∧ (t.apply (.move .task)).broker.watch.Kept ∧
      (t.apply (.move .task)).runnable = rest := by
  have line : t.ordered.tasks = task :: (rest ++ t.held) := by
    rw [ordered, next]
    rfl
  have frozen' := frozen_ordered frozen
  have kept' : t.ordered.watch.Kept := t.watch_ordered ▸ kept
  have stepped : t.apply (.move .task) =
      { t with broker := Broker.perform { t.ordered with tasks := rest ++ t.held } task } := by
    simp only [apply, step, next]
    rfl
  have free : rest.filter (fun task => !t.holds task) = rest := by
    refine List.filter_eq_self.2 fun task' listed => ?_
    have runs : task' ∈ t.runnable := next ▸ List.mem_cons_of_mem task listed
    exact (List.mem_filter.1 runs).2
  have stuck : t.held.filter (fun task => !t.holds task) = [] := by
    refine List.filter_eq_nil_iff.2 fun task' listed => ?_
    simpa using (List.mem_filter.1 listed).2
  have left : (rest ++ t.held).filter (fun task => !t.holds task) = rest := by
    rw [List.filter_append, free, stuck, List.append_nil]
  rw [stepped]
  refine ⟨frozen_task frozen' line, kept_task kept' line, ?_⟩
  rw [runnable, tasks_of_frozen frozen' kept' line]
  exact left

/-! ## Runs -/

/-- Nothing that happens turns the clock back. -/
def Advances (t : Traffic) : List Motion → Prop
  | [] => True
  | m :: motions => t.broker.now ≤ (t.apply m).broker.now ∧ Advances (t.apply m) motions

instance decidableAdvances :
    (t : Traffic) → (motions : List Motion) → Decidable (t.Advances motions)
  | _, [] => isTrue trivial
  | t, m :: motions =>
    have := decidableAdvances (t.apply m) motions
    inferInstanceAs (Decidable (t.broker.now ≤ (t.apply m).broker.now ∧
      Advances (t.apply m) motions))

theorem kept_after (kept : t.broker.watch.Kept) {motions : List Motion}
    (advances : t.Advances motions) : (t.after motions).broker.watch.Kept := by
  induction motions generalizing t with
  | nil => exact kept
  | cons m motions ih => exact ih (kept_motion kept advances.1) advances.2

theorem lanes_le_motion (t : Traffic) (m : Motion) :
    t.broker.lanes.length ≤ (t.apply m).broker.lanes.length := by
  obtain ⟨said, grows, -⟩ := t.grows_motion m
  simpa [front] using grows.titles.length_le

theorem lanes_le_after (t : Traffic) (motions : List Motion) :
    t.broker.lanes.length ≤ (t.after motions).broker.lanes.length := by
  induction motions generalizing t with
  | nil => exact Nat.le_refl _
  | cons m motions ih => exact (t.lanes_le_motion m).trans (ih (t.apply m))

/-- As long as no queue is declared the books stay frozen, and the deliveries that are said are some of
those that are not suspended any more, each once. -/
theorem frozen_after (frozen : s₀.Frozen t.broker.books) (filed : t.broker.docket.Filed)
    {motions : List Motion} (spares : ∀ m ∈ motions, m.sparesStore = true)
    (still : (t.after motions).broker.lanes.length = t.broker.lanes.length) :
    s₀.Frozen (t.after motions).broker.books ∧ ∃ said returned,
      (t.after motions).broker.front.attempts = t.broker.front.attempts ++ said ∧
        (returned ++ (t.after motions).suspended).Perm t.suspended ∧
        (said.filter Front.isDelivery).Sublist (s₀.framesOf returned) := by
  induction motions generalizing t with
  | nil => exact ⟨frozen, [], [], (List.append_nil _).symm, .refl _, .refl _⟩
  | cons m motions ih =>
      have first := t.lanes_le_motion m
      have rest := (t.apply m).lanes_le_after motions
      have whole : ((t.apply m).after motions).broker.lanes.length = t.broker.lanes.length := still
      obtain ⟨spared, later⟩ := List.forall_mem_cons.1 spares
      obtain ⟨frozen', more, returned', spoken', perm', sublist'⟩ := ih
        (frozen_motion frozen filed.sound spared (by omega))
        ((leads_motion filed.sound m).filed filed) later (by omega)
      obtain ⟨said, grows, once⟩ := t.grows_motion m
      obtain ⟨returned, perm, sublist⟩ := once s₀ frozen
      refine ⟨frozen', said ++ more, returned ++ returned', ?_, ?_, ?_⟩
      · rw [← List.append_assoc, ← grows.attempts]
        exact spoken'
      · rw [List.append_assoc]
        exact (perm'.append_left returned).trans perm
      · rw [List.filter_append, Books.framesOf_append]
        exact sublist.append sublist'

/-- The tasks that can be performed are all that is left to perform. -/
theorem drained (frozen : s₀.Frozen t.broker.books) (kept : t.broker.watch.Kept) :
    (t.after (List.replicate t.runnable.length (.move .task))).runnable = [] := by
  obtain ⟨n, size⟩ : ∃ n, t.runnable.length = n := ⟨_, rfl⟩
  rw [size]
  induction n generalizing t with
  | zero => exact List.eq_nil_of_length_eq_zero size
  | succ n ih =>
      obtain ⟨task, rest, next⟩ := List.exists_cons_of_length_eq_add_one size
      obtain ⟨frozen', kept', fewer⟩ := step_of_frozen frozen kept next
      rw [next, List.length_cons] at size
      exact ih frozen' kept' (fewer ▸ Nat.succ.inj size)

/-! ## Rest after the shutdown -/

/-- When no task can be performed, all workers have stopped, and the slots in use are those of
deliveries that are suspended. -/
theorem rest_of_frozen (frozen : s₀.Frozen t.broker.books) (kept : t.broker.watch.Kept)
    (occupied : t.broker.Occupied [] []) (rests : t.runnable = []) :
    (∀ lane ∈ t.broker.lanes, lane.stage = .stopped) ∧
      (∀ n ∈ t.broker.flights.keys, n ∈ t.suspended) ∧
      ∀ c client, t.broker.clients[c]? = some client →
        client.inFlight = t.broker.flights.values.countP fun d => d.client = c := by
  refine ⟨fun lane listed => ?_, fun n flown => ?_, fun c client found => ?_⟩
  · obtain ⟨k, found⟩ := List.mem_iff_getElem?.1 listed
    have away := stage_of_closed kept found (frozen.closed _ (shelf_mem found))
    have line := (count_work kept found).1
    rw [count_of_rest rests] at line
    cases stage : lane.stage with
    | due => simp [stage] at line
    | waiting => exact absurd stage away
    | stopped => rfl
  · refine suspended_of_rest rests ((occupied.waits_or_due flown).resolve_left ?_)
    rw [nobody_waits frozen]
    exact Bool.false_ne_true
  · exact occupied.slots_of_unsent frozen.sends found

/-- A broker that is shut down at rest stands still from then on, and its workers and its slots stay
in order. -/
theorem frozen_from_shutDown (filed : t.broker.docket.Filed) (occupied : t.broker.Occupied [] [])
    (kept : t.broker.watch.Kept) (rests : t.runnable = [])
    (unanswered : ∀ n ∈ t.suspended, t.broker.ledger.Unanswered n) {later : List Motion}
    (spares : ∀ m ∈ later, m.sparesStore = true)
    (onward : (t.apply (.live .shutDown)).Advances later)
    (undeclared : ((t.apply (.live .shutDown)).after later).broker.lanes.length =
      t.broker.lanes.length) :
    let t' := (t.apply (.live .shutDown)).after later
    t.broker.books.Frozen t'.broker.books ∧ t'.broker.watch.Kept ∧ t'.broker.Occupied [] [] ∧
      ∃ said returned, t'.broker.front.attempts = t.broker.front.attempts ++ said ∧
        (returned ++ t'.suspended).Perm t.suspended ∧
        (said.filter Front.isDelivery).Sublist (t.broker.books.framesOf returned) := by
  intro t'
  have unsent : t.broker.books.sends = [] := filterMap_of_rest rests fun _ => rfl
  have fresh : t.broker.books.resumes = [] := filterMap_of_rest rests fun _ => rfl
  have down : t.broker.books.Frozen (t.apply (.live .shutDown)).broker.books :=
    frozen_shutDown unsent fresh filed.sound
      (unanswered_of_rest rests occupied filed.sound unanswered)
  have front : (t.apply (.live .shutDown)).broker.front = t.broker.front := t.broker.front_shutDown
  have lanes : (t.apply (.live .shutDown)).broker.lanes.length = t.broker.lanes.length := by
    simpa [Broker.front] using congrArg (fun f => f.titles.length) front
  have filed' := (leads_motion filed.sound (.live .shutDown)).filed filed
  have kept' : (t.apply (.live .shutDown)).broker.watch.Kept := kept_shutDown kept
  obtain ⟨frozen, said⟩ := frozen_after down filed' spares (undeclared.trans lanes.symm)
  rw [front] at said
  exact ⟨frozen, kept_after kept' onward,
    occupied_after (occupied_motion occupied filed (.live .shutDown)) filed' later, said⟩

end Traffic

namespace Broker

/-- Whatever has happened to a broker, however long its links have taken, when no task can be
performed, no delivery that is suspended has been answered by its peer, and it is shut down, and
whatever happens to it afterwards, as long as the store is left to itself and no queue is declared,
so that there are no more lanes in the end: the store holds what it held, the references and what
waits in the queues stay as they are, no publication finds a queue, and no send waits for an outcome.
Deliveries are tried to be written only if they were suspended at the shutdown and their links have
answered since, each once. The tasks that can be performed come to an end, and then all workers have
stopped and the slots in use are those of deliveries that are suspended still. -/
theorem shutdown_freezes_store {settings : Settings.Engine} {mint : Nat → CorrelationId}
    {calendar : Nat} {depot : Store.Depot} {start : Broker} {past later : List Motion} {t : Traffic}
    (started : Broker.new? settings mint calendar depot = some start)
    (reached : (Traffic.of start).after past = t) (advances : (Traffic.of start).Advances past)
    (rests : t.runnable = []) (unanswered : ∀ n ∈ t.suspended, t.broker.ledger.Unanswered n)
    (spares : ∀ m ∈ later, m.sparesStore = true)
    (onward : (t.apply (.live .shutDown)).Advances later)
    (undeclared : ((t.apply (.live .shutDown)).after later).broker.lanes.length =
      t.broker.lanes.length) :
    let t' := (t.apply (.live .shutDown)).after later
    let s := t.broker
    let b := t'.broker
    b.depot.messages = s.depot.messages ∧ b.references = s.references ∧
    (∀ k, b.waitingIn k = s.waitingIn k) ∧
    (∃ said returned, b.front.attempts = s.front.attempts ++ said ∧
      (returned ++ t'.suspended).Perm t.suspended ∧
      (said.filter Front.isDelivery).Sublist (s.books.framesOf returned)) ∧
    (∀ m, b.publish m = (.error (.noMatchingQueue m.route), b)) ∧
    b.ledger.pending = [] ∧
    (t'.after (List.replicate t'.runnable.length (.move .task))).runnable = [] ∧
    (t'.runnable = [] → (∀ lane ∈ b.lanes, lane.stage = .stopped) ∧
      (∀ n ∈ b.flights.keys, n ∈ t'.suspended) ∧
      (∀ c client, b.clients[c]? = some client →
        client.inFlight = b.flights.values.countP fun d => d.client = c) ∧
      (t'.suspended = [] → ∀ client ∈ b.clients, client.inFlight = 0)) := by
  intro t' s b
  have first : (Traffic.of start).broker.docket.Filed := (filed_start started).1
  have filed := (Traffic.leads_after first past).filed first
  have occupied := Traffic.occupied_after (occupied_start started) first past
  have kept := Traffic.kept_after (kept_start started) advances
  rw [reached] at filed occupied kept
  obtain ⟨frozen, kept', occupied', said, returned, spoken, perm, once⟩ :=
    Traffic.frozen_from_shutDown filed occupied kept rests unanswered spares onward undeclared
  refine ⟨frozen.messages, frozen.references, fun k => ?_, ⟨said, returned, spoken, perm, once⟩,
    publish_of_frozen frozen, frozen.settled, Traffic.drained frozen kept', fun done => ?_⟩
  · have shelf := congrArg (fun waiting : List (List CorrelationId) => waiting[k]?) frozen.shelves
    simp only [List.getElem?_map] at shelf
    rw [waitingIn_eq, waitingIn_eq, shelf]
  · obtain ⟨stopped, flown, slots⟩ := Traffic.rest_of_frozen frozen kept' occupied' done
    refine ⟨stopped, flown, slots, fun answered client listed => ?_⟩
    obtain ⟨c, found⟩ := List.mem_iff_getElem?.1 listed
    have landed : b.flights.keys = [] :=
      List.eq_nil_iff_forall_not_mem.2 fun n here => List.not_mem_nil (answered ▸ flown n here)
    have nothing : b.flights.values = [] := List.map_eq_nil_iff.2 (List.map_eq_nil_iff.1 landed)
    rw [slots c client found, nothing]
    rfl

/-- A message is on its way to a subscriber with one slot, whose link takes its time, and another
waits. -/
def underway : List Motion :=
  [.move (.declare "orders" "orders"), .move (.connect "reader" .reliable),
    .move (.subscribe "reader" "orders" (some 1)),
    .move (.publish ⟨.ofNat 1, "orders", [7], none, 0⟩),
    .move (.publish ⟨.ofNat 2, "orders", [8], none, 0⟩), .move .task, .move .task, .stall,
    .move .task]

/-- The subscriber confirms the delivery. -/
def confirming : List Motion :=
  [.move (.feed "reader" (Wire.Frame.ack (.fresh 1)).encode), .move (.frame "reader")]

/-- The subscriber confirms the delivery too late, somebody publishes and subscribes, the time limit
goes off, the subscriber leaves and its link answers. -/
def aftermath : List Motion :=
  confirming ++ [.move (.publish ⟨.ofNat 3, "orders", [9], none, 0⟩),
    .move (.connect "other" .reliable), .move (.subscribe "other" "orders" none),
    .move (.tick 60000), .move .ring, .move (.disconnect "reader"), .answer 1, .move .task,
    .move .task, .move .task]

/-- The message that was on its way stays in the store with its reference, and is not put back. -/
theorem shutdown_freezes_store_underway :
    let t := (Traffic.of sample).after underway
    let t' := (t.apply (.live .shutDown)).after aftermath
    let b := t'.broker
    t.suspended = [1] ∧ t.broker.clients.map Peer.Client.inFlight = [1] ∧
      b.depot.messages = t.broker.depot.messages ∧ b.references.outstanding (.ofNat 1) = some 1 ∧
      b.waitingIn 0 = [.ofNat 2] ∧ (∀ lane ∈ b.lanes, lane.stage = .stopped) ∧
      t'.suspended = [] ∧ ∀ client ∈ b.clients, client.inFlight = 0 := by
  have advances : (Traffic.of sample).Advances underway := by decide
  have rests : ((Traffic.of sample).after underway).runnable = [] := by decide
  have suspended : ((Traffic.of sample).after underway).suspended = [1] := by decide
  have unanswered : ∀ n ∈ ((Traffic.of sample).after underway).suspended,
      ((Traffic.of sample).after underway).broker.ledger.Unanswered n := by
    intro n listed outcome settled
    rw [suspended, List.mem_singleton] at listed
    subst listed
    cases settled
  have spares : ∀ m ∈ aftermath, m.sparesStore = true := by decide
  have onward : (((Traffic.of sample).after underway).apply (.live .shutDown)).Advances
      aftermath := by decide
  have undeclared : ((((Traffic.of sample).after underway).apply (.live .shutDown)).after
      aftermath).broker.lanes.length =
        ((Traffic.of sample).after underway).broker.lanes.length := by decide
  have done : ((((Traffic.of sample).after underway).apply (.live .shutDown)).after
      aftermath).runnable = [] := by decide
  have answered : ((((Traffic.of sample).after underway).apply (.live .shutDown)).after
      aftermath).suspended = [] := by decide
  have known : ((Traffic.of sample).after underway).broker.references.outstanding (.ofNat 1) =
      some 1 := by decide
  have waits : ((Traffic.of sample).after underway).broker.waitingIn 0 = [.ofNat 2] := by decide
  obtain ⟨messages, references, waiting, -, -, -, -, rest⟩ :=
    shutdown_freezes_store new?_sample rfl advances rests unanswered spares onward undeclared
  obtain ⟨stopped, -, -, free⟩ := rest done
  rw [← references] at known
  exact ⟨suspended, by decide, messages, known, (waiting 0).trans waits, stopped, answered,
    free answered⟩

/-- A publication that the store holds up. -/
def inStorage : List Motion :=
  [.move (.declare "orders" "orders"), .live (.stir (.holdUp true)),
    .move (.publishLater "late" ⟨.ofNat 1, "orders", [7], none, 0⟩), .move .task, .move .task]

/-- Neither a link nor the store has to be done when a broker is shut down. A delivery whose link has
not answered keeps its slot. If it was confirmed before, its message leaves the store when the link
answers. A publication that the store lets go later finds all queues closed, and if the store fails
to delete its message again, it holds one that it did not hold before. -/
theorem shutdown_overtaken :
    let stalled := (Traffic.of sample).after underway
    let down := stalled.after [.live .shutDown, .move .task]
    let confirmed := stalled.after confirming
    let settled := confirmed.after [.live .shutDown, .move .task, .answer 1, .move .task]
    let held := (Traffic.of sample).after inStorage
    let gone := held.after [.live (.store (held.broker.depot.failNext .delete 1)), .live .shutDown,
      .live (.stir (.letGo 0)), .move .task]
    (stalled.runnable = [] ∧ down.runnable = [] ∧
      down.broker.clients.map Peer.Client.inFlight = [1]) ∧
    (confirmed.runnable = [] ∧ settled.runnable = [] ∧
      confirmed.broker.depot.messages.size = 2 ∧ settled.broker.depot.messages.size = 1) ∧
    held.runnable = [] ∧ held.suspended = [] ∧ gone.runnable = [] ∧
      held.broker.depot.messages.size = 0 ∧ gone.broker.depot.messages.size = 1 := by
  decide

end Broker

end MessageBroker
