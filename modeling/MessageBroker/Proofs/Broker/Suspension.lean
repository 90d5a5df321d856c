import Mathlib.Data.List.Induction
import MessageBroker.Proofs.Broker.Reserve
import MessageBroker.Proofs.Broker.Settlement

/-!
# Publications that are held up

A publication finds out which queues match before its message is stored, and the store may hold it up
in between for any length of time. When it goes on some of these queues may be gone, and others may
be declared under their names; the ones that are still open get the message, and the others give
their references up at once. So the books stay balanced whenever a publication goes on.
-/

namespace MessageBroker

open Books

/-- Something that can happen to a broker whose store holds publications up. -/
inductive Stir where
  | move (m : Move)
  /-- The store begins to hold publications up, or lets all that it holds up go on in turn. -/
  | holdUp (holdsUp : Bool)
  /-- One of the publications that are held up goes on, whichever it is. -/
  | letGo (n : Nat)

namespace Broker

/-- A broker after such a thing. -/
def stir (b : Broker) : Stir → Broker
  | .move m => b.apply m
  | .holdUp holdsUp => b.setHoldUp holdsUp
  | .letGo n =>
    match b.heldUp[n]? with
    | none => b
    | some p => { b with heldUp := b.heldUp.eraseIdx n }.resumePublish p

/-- A broker after several such things. -/
def stirred (b : Broker) (stirs : List Stir) : Broker :=
  stirs.foldl stir b

/-- The publication that goes on, with the broker that it has left. -/
def goesOn? (b : Broker) : Stir → Option (Publication × Broker)
  | .letGo n => b.heldUp[n]?.map fun p => (p, { b with heldUp := b.heldUp.eraseIdx n })
  | .move .task =>
    match b.tasks with
    | .resume p :: rest => some (p, { b with tasks := rest })
    | _ => none
  | _ => none

/-- The publications that are held up or are about to go on. -/
def inSuspense (b : Broker) : List Publication :=
  b.heldUp ++ b.books.resumes

/-- The ids that wait in a lane, in order. -/
def waitingIn (b : Broker) (k : Nat) : List CorrelationId :=
  (b.lanes[k]?.map fun lane => lane.queue.pending).getD []

/-- The queues that a publication matched when it began and that are still open. -/
def stillOpen (b : Broker) (p : Publication) : List Nat :=
  p.lanes.filter b.isDeclared

variable {b b' : Broker} {answered : List Nat} {p : Publication}

/-! ## Queues that are still open -/

theorem waitingIn_eq (b : Broker) (k : Nat) :
    b.waitingIn k = (b.books.shelves[k]?.map Shelf.pending).getD [] := by
  simp only [waitingIn, books, List.getElem?_map, Option.map_map]
  rfl

theorem waitingIn_of_shelves (same : b'.books.shelves = b.books.shelves) (k : Nat) :
    b'.waitingIn k = b.waitingIn k := by
  rw [waitingIn_eq, waitingIn_eq, same]

theorem isDeclared_of_shelves (same : b'.books.shelves = b.books.shelves) (k : Nat) :
    b'.isDeclared k = b.isDeclared k := by
  rw [← isOpen_books, ← isOpen_books, isOpen, isOpen, same]

theorem waitingIn_enqueue (b : Broker) (j k : Nat) (m : CorrelationId) :
    (b.enqueue k m).2.waitingIn j =
      b.waitingIn j ++ if j = k ∧ b.isDeclared k = true then [m] else [] := by
  rw [waitingIn_eq, waitingIn_eq, (b.books_enqueue k m).2, isOpen_books]
  cases opened : b.isDeclared k with
  | false => simp
  | true =>
      rw [← isOpen_books] at opened
      obtain ⟨found, here, -⟩ := isOpen_iff.1 opened
      by_cases same : k = j
      · subst same
        simp [here, Shelf.append]
      · simp [same, Ne.symm same]

/-- What is meant for certain queues gets to the back of those that are open, and nowhere else. -/
theorem waitingIn_fanOut (b : Broker) (j : Nat) (m : CorrelationId) {lanes : List Nat}
    (once : lanes.Nodup) :
    (b.fanOut m lanes).2.waitingIn j =
      b.waitingIn j ++ if j ∈ lanes.filter b.isDeclared then [m] else [] := by
  have each : ∀ (lanes : List Nat), lanes.Nodup → ∀ (count : Nat) (b : Broker),
      (lanes.foldl (fanOutTo m) (count, b)).2.waitingIn j =
        b.waitingIn j ++ if j ∈ lanes.filter b.isDeclared then [m] else [] := by
    intro lanes
    induction lanes with
    | nil => simp
    | cons k lanes ih =>
        intro once count b
        obtain ⟨new, once⟩ := List.nodup_cons.1 once
        have declared : ∀ i, (b.enqueue k m).2.isDeclared i = b.isDeclared i := by
          intro i
          rw [← isOpen_books, ← isOpen_books, isOpen_enqueue]
        have released := shelves_release (b.enqueue k m).2 m
        have next : ∃ count', fanOutTo m (count, b) k = (count', (fanOutTo m (count, b) k).2) ∧
            (fanOutTo m (count, b) k).2.books.shelves = (b.enqueue k m).2.books.shelves := by
          unfold fanOutTo
          dsimp only
          cases (b.enqueue k m).1 with
          | true => exact ⟨_, rfl, rfl⟩
          | false => exact ⟨_, rfl, released⟩
        obtain ⟨count', step, shelves⟩ := next
        have same : (fanOutTo m (count, b) k).2.isDeclared = b.isDeclared := by
          funext i
          rw [isDeclared_of_shelves shelves, declared]
        rw [List.foldl_cons, step, ih once, same, waitingIn_of_shelves shelves, waitingIn_enqueue]
        by_cases here : j = k
        · subst here
          have late : j ∉ lanes.filter b.isDeclared := fun listed => new (List.mem_filter.1 listed).1
          by_cases opened : b.isDeclared j = true <;> simp [late, opened]
        · by_cases opened : b.isDeclared k = true <;> simp [here, opened]
  exact each lanes once 0 { b with references := b.references.setUp m lanes.length }

/-! ## A publication that goes on -/

/-- The store takes the message of a publication. It waits in the queues that are still open, once in
each and behind what waited there before, and has a reference for each. If there are none it has
left the store again, and whoever publishes is told so. -/
structure Accepted (b : Broker) (p : Publication) (b' : Broker) : Prop where
  result : b'.published.getLast? = some (p.tag,
    if b.stillOpen p = [] then .error (.noMatchingQueue p.message.route)
    else .ok (b.stillOpen p).length)
  places : ∀ k, b'.waitingIn k =
    b.waitingIn k ++ if k ∈ b.stillOpen p then [p.message.id] else []
  once : ∀ k, (b'.waitingIn k).count p.message.id = if k ∈ b.stillOpen p then 1 else 0
  references : b'.references.outstanding p.message.id =
    if b.stillOpen p = [] then none else some (b.stillOpen p).length
  stored : b'.depot.messages.get? p.message.id =
    if b.stillOpen p = [] then none else some p.message

/-- The store refuses the message of a publication. Whoever publishes is told so, and nothing else
happens. -/
structure Refused (b : Broker) (p : Publication) (b' : Broker) : Prop where
  result : b'.published.getLast? = some (p.tag, .error (.store (.duplicate p.message.id)))
  books : b'.books = b.books

theorem tally_of_shut (b : Broker) (m : CorrelationId) (lanes : List Nat) :
    tally m (↑((shutAmong b.books lanes).map fun k => (k, m)) : Multiset Stake) +
      (lanes.filter b.isDeclared).length = lanes.length := by
  have declared : b.books.isOpen = b.isDeclared := funext b.isOpen_books
  rw [tally_of_lanes, if_pos rfl, shutAmong, declared, Nat.add_comm]
  exact (List.length_eq_length_filter_add b.isDeclared).symm

/-- A message that nobody has a stake in waits nowhere. -/
theorem not_waiting {m : CorrelationId} (new : tally m b.books.stakes = 0) (k : Nat) :
    m ∉ b.waitingIn k := by
  intro waits
  rw [waitingIn_eq] at waits
  cases found : b.books.shelves[k]? with
  | none => simp [found] at waits
  | some shelf =>
      have held : (0 + k, m) ∈ shelved 0 b.books.shelves :=
        mem_shelved.2 ⟨shelf, found, by simpa [found] using waits⟩
      refine tally_eq_zero.1 new (0 + k, m) ?_ rfl
      exact Multiset.mem_add.2 (.inl (Multiset.mem_add.2 (.inl held)))

/-- What the fan-out of a message that is new leaves: as many references as queues are still open,
and the message in the store if there are any. -/
theorem fanOut_spec {m : CorrelationId} {lanes : List Nat} (balanced : b.books.Balanced 0)
    (new : tally m b.books.stakes = 0) {message : Store.Message}
    (stored : b.depot.messages.get? m = some message) (once : lanes.Nodup) (some' : lanes ≠ []) :
    let opens := lanes.filter b.isDeclared
    let b' := (b.fanOut m lanes).2
    (b.fanOut m lanes).1 = opens.length ∧ b'.books.Balanced 0 ∧
      b'.references.outstanding m = (if opens = [] then none else some opens.length) ∧
      b'.depot.messages.get? m = if opens = [] then none else some message := by
  intro opens b'
  obtain ⟨count, passage⟩ := fanOut_passage balanced new ⟨message, stored⟩ once
  have declared : b.books.isOpen = b.isDeclared := funext b.isOpen_books
  have begun : tally m (stakes { b.books with
      references := b.references.setUp m lanes.length } + ↑(lanes.map fun k => (k, m))) =
      lanes.length := by
    rw [tally_add, tally_of_lanes, if_pos rfl]
    exact (congrArg (· + lanes.length) new).trans (Nat.zero_add _)
  have left : tally m (b'.books.stakes + 0) = opens.length := by
    have whole := passage.tally_eq m
    have parts := b.tally_of_shut m lanes
    rw [begun] at whole
    change _ = tally m (b'.books.stakes + 0) + _ at whole
    change _ + opens.length = _ at parts
    omega
  have none_iff : tally m (b'.books.stakes + 0) = 0 ↔ opens = [] := by
    rw [left, List.length_eq_zero_iff]
  rw [declared] at count
  refine ⟨count, passage.balanced, ?_, ?_⟩
  · have counted := passage.balanced.counted m
    change b'.references.outstanding m = if tally m (b'.books.stakes + 0) = 0 then none
      else some (tally m (b'.books.stakes + 0)) at counted
    simpa only [left, List.length_eq_zero_iff] using counted
  · have kept := passage.kept m
    change b'.depot.messages.get? m = if _ ∧ tally m (b'.books.stakes + 0) = 0 then none
      else b.depot.messages.get? m at kept
    have pos : lanes.length ≠ 0 := fun nil => some' (List.length_eq_zero_iff.1 nil)
    simpa only [begun, none_iff, ne_eq, pos, not_false_eq_true, true_and, stored] using kept

/-- A message that is new comes to the queues that are still open. -/
theorem resume_of_missing (balanced : b.books.Balanced 0) (once : p.lanes.Nodup)
    (some' : p.lanes ≠ []) (missing : b.depot.messages.get? p.message.id = none) :
    (b.resumePublish p).books.Balanced 0 ∧ b.Accepted p (b.resumePublish p) := by
  have works : ∀ call, b.depot.failuresOf call = 0 := balanced.works
  have new := balanced.new missing
  have stored : (b.depot.entering p.message).messages.get? p.message.id = some p.message :=
    (Store.Depot.get?_entering _ _ _).trans (if_pos rfl)
  obtain ⟨count, balanced', references, stored'⟩ :=
    fanOut_spec (b := { b with depot := b.depot.entering p.message }) (balanced.enter p.message) new
      stored once some'
  have places := fun k => waitingIn_fanOut { b with depot := b.depot.entering p.message } k
    p.message.id once
  have absent := not_waiting new
  have brought : b.bring p.message p.lanes =
      (fun spread : Nat × Broker =>
        if spread.1 = 0 then (.error (.noMatchingQueue p.message.route), spread.2)
        else (.ok spread.1, spread.2.announce (.messageStored p.message.id spread.1)))
      (fanOut { b with depot := b.depot.entering p.message } p.message.id p.lanes) := by
    rw [bring, Store.Depot.add_of_works works, if_pos missing]
  unfold resumePublish
  rw [brought]
  generalize fanOut { b with depot := b.depot.entering p.message } p.message.id p.lanes = spread at *
  obtain ⟨n, b'⟩ := spread
  -- Neither the announcement nor the result shows in what the queues, the references and the store hold.
  have finishes : ∀ (b'' : Broker) (result : Except RequestError Nat), b''.books.Balanced 0 →
      b''.lanes = b'.lanes → b''.references = b'.references → b''.depot = b'.depot →
      result = (if b.stillOpen p = [] then .error (.noMatchingQueue p.message.route)
        else .ok (b.stillOpen p).length) →
      (b''.finish p.tag result).books.Balanced 0 ∧ b.Accepted p (b''.finish p.tag result) := by
    intro b'' result balanced'' lanes refs depot told
    have waits : ∀ k, (b''.finish p.tag result).waitingIn k = b.waitingIn k ++
        if k ∈ b.stillOpen p then [p.message.id] else [] := by
      intro k
      refine Eq.trans ?_ (places k)
      simp only [waitingIn, finish, lanes]
    refine ⟨balanced'', ?_, waits, ?_, ?_, ?_⟩
    · rw [← told]
      exact List.getLast?_concat
    · intro k
      rw [waits, List.count_append, List.count_eq_zero_of_not_mem (absent k), Nat.zero_add]
      split <;> simp
    · exact (congrArg (fun r : References => r.outstanding p.message.id) refs).trans references
    · exact (congrArg (fun d : Store.Depot => d.messages.get? p.message.id) depot).trans stored'
  have counted : n = (b.stillOpen p).length := count
  dsimp only
  by_cases nobody : n = 0
  · rw [if_pos nobody]
    have none' : b.stillOpen p = [] := List.length_eq_zero_iff.1 (counted.symm.trans nobody)
    exact finishes b' _ balanced' rfl rfl rfl (by rw [if_pos none'])
  · rw [if_neg nobody]
    have some'' : b.stillOpen p ≠ [] := fun nil => nobody (counted.trans (List.length_eq_zero_iff.2 nil))
    refine finishes _ _ ?_ rfl rfl rfl (by rw [if_neg some'', counted])
    exact ⟨balanced'.once, balanced'.counted, balanced'.stored, balanced'.closed, balanced'.works⟩

/-- The id of a message that is stored is refused to others. -/
theorem resume_of_stored (balanced : b.books.Balanced 0) {message : Store.Message}
    (stored : b.depot.messages.get? p.message.id = some message) :
    b.Refused p (b.resumePublish p) := by
  have works : ∀ call, b.depot.failuresOf call = 0 := balanced.works
  have brought : b.bring p.message p.lanes = (.error (.store (.duplicate p.message.id)), b) := by
    rw [bring, Store.Depot.add_of_works works, if_neg (by simp [stored])]
  rw [resumePublish, brought]
  exact ⟨List.getLast?_concat, rfl⟩

/-! ## Runs -/

/-- The books are in order while certain publications are about to go on. -/
structure Steady (b : Broker) : Prop where
  balanced : b.books.Balanced 0
  aloft : ∃ answered, b.books.cargo.Aloft [] answered b.books.resumes

/-- What the store holds up and lets go does not concern the other books. -/
theorem Steady.of_books (steady : b.Steady) {resumes : List Publication} {holdsUp : Bool}
    (books : b'.books = { b.books with resumes, depot := { b.books.depot with holdsUp } }) :
    b'.Steady := by
  obtain ⟨balanced, answered, aloft⟩ := steady
  refine ⟨?_, answered, ?_⟩
  · rw [books]
    exact ⟨balanced.once, balanced.counted, balanced.stored, balanced.closed, balanced.works⟩
  · rw [books]
    exact ⟨aloft.tracked, aloft.keys, aloft.issued, aloft.due, aloft.ended, aloft.answers, aloft.known,
      aloft.kept, rfl⟩

/-- A publication that goes on comes to an end of one of two kinds, and the books stay in order. -/
theorem Steady.resume (steady : b.Steady) (once : p.lanes.Nodup) (some' : p.lanes ≠ []) :
    (b.resumePublish p).Steady ∧
      if b.depot.messages.get? p.message.id = none then b.Accepted p (b.resumePublish p)
      else b.Refused p (b.resumePublish p) := by
  have cargo : (b.resumePublish p).books.cargo = b.books.cargo := b.cargo_bring p.message p.lanes
  have aloft : ∃ answered, (b.resumePublish p).books.cargo.Aloft [] answered
      (b.resumePublish p).books.resumes := by
    rw [cargo, show (b.resumePublish p).books.resumes = b.books.resumes from
      congrArg Cargo.resumes cargo]
    exact steady.aloft
  cases stored : b.depot.messages.get? p.message.id with
  | none =>
      obtain ⟨balanced, accepted⟩ := resume_of_missing steady.balanced once some' stored
      exact ⟨⟨balanced, aloft⟩, accepted⟩
  | some message =>
      have refused := resume_of_stored steady.balanced stored
      refine ⟨⟨?_, aloft⟩, ?_⟩
      · rw [refused.books]
        exact steady.balanced
      · rw [if_neg (Option.some_ne_none message)]
        exact refused

/-- A publication that goes on has left the line, or is not held up any more. -/
theorem Steady.goesOn (steady : b.Steady) {s : Stir} (goes : b.goesOn? s = some (p, b')) :
    b'.Steady ∧ b.stir s = b'.resumePublish p ∧ p ∈ b.inSuspense ∧
      (∀ q ∈ b'.inSuspense, q ∈ b.inSuspense) ∧ b'.lanes = b.lanes ∧ b'.depot = b.depot := by
  cases s with
  | holdUp holdsUp => cases goes
  | letGo n =>
      obtain ⟨q, found, same⟩ := Option.map_eq_some_iff.1 goes
      obtain ⟨rfl, rfl⟩ := Prod.mk.inj same
      refine ⟨⟨steady.balanced, steady.aloft⟩, ?_, ?_, ?_, rfl, rfl⟩
      · simp only [stir, found]
      · exact List.mem_append_left _ (List.mem_of_getElem? found)
      · intro q listed
        rcases List.mem_append.1 listed with held | next
        · exact List.mem_append_left _ ((List.eraseIdx_sublist _ _).mem held)
        · exact List.mem_append_right _ next
  | move m =>
      cases m with
      | task =>
          simp only [goesOn?] at goes
          split at goes
          · rename_i q rest line
            obtain ⟨rfl, rfl⟩ := Prod.mk.inj (Option.some.inj goes)
            have popped := books_pop line
            have resumes : b.books.resumes = q :: (Broker.books { b with tasks := rest }).resumes :=
              congrArg Books.resumes popped
            have books : Broker.books { b with tasks := rest } = { b.books with
                resumes := (Broker.books { b with tasks := rest }).resumes
                depot := { b.books.depot with holdsUp := b.depot.holdsUp } } := by
              rw [popped]
              rfl
            refine ⟨steady.of_books books, ?_, ?_, ?_, rfl, rfl⟩
            · simp only [stir, apply, line, perform]
            · exact List.mem_append_right _ (resumes ▸ List.mem_cons_self)
            · intro q' listed
              rcases List.mem_append.1 listed with held | next
              · exact List.mem_append_left _ held
              · exact List.mem_append_right _ (resumes ▸ List.mem_cons_of_mem _ next)
          · cases goes
      | _ => cases goes

/-- Holding publications up and letting them go changes nothing in the books but what is about to go
on. -/
theorem Steady.setHoldUp (steady : b.Steady) (holdsUp : Bool) :
    (b.setHoldUp holdsUp).Steady ∧ ∀ q ∈ (b.setHoldUp holdsUp).inSuspense, q ∈ b.inSuspense := by
  cases holdsUp with
  | true =>
      have books : (b.setHoldUp true).books = { b.books with
          resumes := b.books.resumes
          depot := { b.books.depot with holdsUp := true } } := rfl
      exact ⟨steady.of_books books, fun _ listed => listed⟩
  | false =>
      have books : (b.setHoldUp false).books = { b.books with
          resumes := b.books.resumes ++ b.heldUp
          depot := { b.books.depot with holdsUp := false } } := by
        have sends : (b.heldUp.map Task.resume).filterMap Task.delivery? = [] := by
          simp [List.filterMap_map, Task.delivery?]
        have concludes : (b.heldUp.map Task.resume).filterMap Task.ticket? = [] := by
          simp [List.filterMap_map, Task.ticket?]
        have resumes : (b.heldUp.map Task.resume).filterMap Task.publication? = b.heldUp := by
          simp [List.filterMap_map, Function.comp_def, Task.publication?]
        simp [Broker.setHoldUp, Broker.books, sends, concludes, resumes]
      refine ⟨steady.of_books books, ?_⟩
      intro q listed
      rw [inSuspense, books] at listed
      simpa [inSuspense, Broker.setHoldUp, or_comm] using listed

/-- A move that lets no publication go on. -/
theorem Steady.apply (steady : b.Steady) {m : Move} (other : ¬b.Resumes m) :
    (b.apply m).Steady ∧ ∀ q ∈ (b.apply m).inSuspense,
      q ∈ b.inSuspense ∨ m = .task ∧ ∃ task ∈ b.tasks.head?, b.Begins task q := by
  obtain ⟨balanced, answered, aloft⟩ := steady
  have aloft' := move_aloft aloft m other
  have resumes : (b.apply m).books.resumes = b.books.resumes := aloft'.resumed
  refine ⟨⟨(move_turn balanced aloft m other).balanced, _, resumes ▸ aloft'⟩, ?_⟩
  intro q listed
  rcases List.mem_append.1 listed with held | next
  · exact (b.heldUp_apply m q held).imp_left fun before => List.mem_append_left _ before
  · exact .inl (List.mem_append_right _ (resumes ▸ next))

/-- Whatever happens, the books stay in order, and publications come to be held up with the queues
that match when they begin. -/
theorem Steady.stir (steady : b.Steady)
    (ready : ∀ p ∈ b.inSuspense, p.lanes.Nodup ∧ p.lanes ≠ []) (s : Stir) :
    (b.stir s).Steady ∧ ∀ q ∈ (b.stir s).inSuspense,
      q ∈ b.inSuspense ∨ s = .move .task ∧ ∃ task ∈ b.tasks.head?, b.Begins task q := by
  cases goes : b.goesOn? s with
  | some entry =>
      obtain ⟨p, b'⟩ := entry
      obtain ⟨steady', same, suspended, fewer, -⟩ := steady.goesOn goes
      obtain ⟨once, some'⟩ := ready p suspended
      rw [same]
      refine ⟨(steady'.resume once some').1, ?_⟩
      have heldUp : (b'.resumePublish p).heldUp = b'.heldUp := congrArg Desk.heldUp (b'.desk_resumePublish p)
      have resumes : (b'.resumePublish p).books.resumes = b'.books.resumes :=
        congrArg Cargo.resumes (b'.cargo_bring p.message p.lanes)
      intro q listed
      rw [inSuspense, heldUp, resumes] at listed
      exact .inl (fewer q listed)
  | none =>
      cases s with
      | holdUp holdsUp =>
          obtain ⟨steady', fewer⟩ := steady.setHoldUp holdsUp
          exact ⟨steady', fun q listed => .inl (fewer q listed)⟩
      | letGo n =>
          have nobody : b.heldUp[n]? = none := Option.map_eq_none_iff.1 goes
          have same : b.stir (.letGo n) = b := by simp only [Broker.stir, nobody]
          rw [same]
          exact ⟨steady, fun q listed => .inl listed⟩
      | move m =>
          have other : ¬b.Resumes m := by
            rintro ⟨rfl, p, rest, line⟩
            simp [goesOn?, line] at goes
          obtain ⟨steady', suspended⟩ := steady.apply other
          exact ⟨steady', fun q listed => (suspended q listed).imp_right
            fun ⟨which, begins⟩ => ⟨congrArg Stir.move which, begins⟩⟩

/-- A publication began some time ago, with the queues that matched then. -/
def BeganDuring (start : Broker) (stirs : List Stir) (p : Publication) : Prop :=
  ∃ before, before ++ [.move .task] <+: stirs ∧
    ∃ task ∈ (start.stirred before).tasks.head?, (start.stirred before).Begins task p

theorem steady_stirred {settings : Settings.Engine} {mint : Nat → CorrelationId} {calendar : Nat}
    {messages : Store.Messages} {start : Broker}
    (started : Broker.new? settings mint calendar (.holding messages) = some start)
    (stirs : List Stir) :
    (start.stirred stirs).Steady ∧
      ∀ p ∈ (start.stirred stirs).inSuspense, BeganDuring start stirs p := by
  induction stirs using List.reverseRecOn with
  | nil =>
      have aloft := (InOrder.start started).aloft
      have resumes : start.books.resumes = [] := aloft.resumed
      have heldUp : start.heldUp = [] := by
        unfold new? at started
        split at started
        · obtain ⟨buffers, -, rfl⟩ := Option.map_eq_some_iff.1 started
          rfl
        · cases started
      refine ⟨⟨(InOrder.start started).balanced, [], resumes.symm ▸ aloft⟩, ?_⟩
      simp [stirred, inSuspense, heldUp, resumes]
  | append_singleton stirs s ih =>
      obtain ⟨steady, began⟩ := ih
      have step : start.stirred (stirs ++ [s]) = (start.stirred stirs).stir s := by
        simp [stirred, List.foldl_append]
      have ready : ∀ p ∈ (start.stirred stirs).inSuspense, p.lanes.Nodup ∧ p.lanes ≠ [] := by
        intro p listed
        obtain ⟨_, -, _, -, begins⟩ := began p listed
        exact ⟨begins.lanes ▸ nodup_matching _ _, begins.some⟩
      obtain ⟨steady', suspended⟩ := steady.stir ready s
      rw [step]
      refine ⟨steady', ?_⟩
      intro p listed
      rcases suspended p listed with earlier | ⟨rfl, begins⟩
      · obtain ⟨before, front, begins⟩ := began p earlier
        exact ⟨before, front.trans (List.prefix_append _ _), begins⟩
      · exact ⟨stirs, List.prefix_rfl, begins⟩

/-- What comes of a publication depends on the queues and the store only. -/
theorem Accepted.of_same {b'' : Broker} (accepted : b'.Accepted p b'') (lanes : b'.lanes = b.lanes) :
    b.Accepted p b'' := by
  have shelves : b'.books.shelves = b.books.shelves := congrArg (List.map Lane.shelf) lanes
  have opens : b'.stillOpen p = b.stillOpen p := by
    simp only [stillOpen, show b'.isDeclared = b.isDeclared from
      funext (isDeclared_of_shelves shelves)]
  obtain ⟨result, places, once, references, stored⟩ := accepted
  rw [opens] at result references stored
  simp only [opens, waitingIn_of_shelves shelves] at places once
  exact ⟨result, places, once, references, stored⟩

/-- Whatever happens while publications are held up, a publication that goes on, of a message that is
not stored, comes to just those of the queues it matched when it began that are still open, or to
nothing if none is; one of a stored id is refused and leaves everything where it is. And a closed
queue never holds a message. -/
theorem resumed_publication_orphans_nothing {settings : Settings.Engine}
    {mint : Nat → CorrelationId} {calendar : Nat} {messages : Store.Messages} {start : Broker}
    (started : Broker.new? settings mint calendar (.holding messages) = some start)
    (stirs : List Stir) :
    let b : Broker := start.stirred stirs
    (∀ (k : Nat) (lane : Lane), b.lanes[k]? = some lane → lane.queue.isClosed = true →
      lane.queue.pending = []) ∧
    ∀ (s : Stir) (p : Publication) (b' : Broker), b.goesOn? s = some (p, b') →
      BeganDuring start stirs p ∧
        if b.depot.messages.get? p.message.id = none then b.Accepted p (b.stir s)
        else b'.Refused p (b.stir s) := by
  intro b
  obtain ⟨steady, began⟩ := steady_stirred started stirs
  constructor
  · intro k lane found closed
    exact steady.balanced.closed lane.shelf
      (List.mem_map_of_mem (List.mem_of_getElem? found)) closed
  · intro s p b' goes
    obtain ⟨steady', same, suspended, -, lanes, depot⟩ := steady.goesOn goes
    have during := began p suspended
    obtain ⟨_, -, _, -, begins⟩ := during
    have once : p.lanes.Nodup := begins.lanes ▸ nodup_matching _ _
    have ended := (steady'.resume once begins.some).2
    rw [depot] at ended
    rw [same]
    refine ⟨began p suspended, ?_⟩
    split at ended
    · rename_i missing
      rw [if_pos missing]
      exact ended.of_same lanes
    · rename_i stored
      rw [if_neg stored]
      exact ended

/-- A publication matches two queues and is held up; one of them is deleted, and declared again under
its name. -/
def replaced : List Stir :=
  [.move (.declare "left" "news"), .move (.declare "right" "news"), .move .task, .move .task,
    .holdUp true, .move (.publishLater "late" ⟨.ofNat 1, "news", [7], none, 0⟩), .move .task,
    .move (.delete "left"), .move (.declare "left" "news")]

/-- The publication comes to the queue that stayed, and not to the one that is new. -/
theorem resumed_publication_orphans_nothing_replaced :
    (sample.stirred replaced).depot.messages.get? (.ofNat 1) = none ∧
      ((sample.stirred replaced).stir (.letGo 0)).published.getLast? = some ("late", .ok 1) ∧
      ((sample.stirred replaced).stir (.letGo 0)).references.outstanding (.ofNat 1) = some 1 ∧
      (List.range 3).map ((sample.stirred replaced).stir (.letGo 0)).waitingIn =
        [[], [.ofNat 1], []] := by
  have missing : (sample.stirred replaced).depot.messages.get? (.ofNat 1) = none := rfl
  obtain ⟨-, resumed⟩ := resumed_publication_orphans_nothing new?_sample replaced
  obtain ⟨-, ended⟩ := resumed (.letGo 0) ⟨"late", ⟨.ofNat 1, "news", [7], none, 0⟩, [0, 1]⟩ _ rfl
  rw [if_pos missing] at ended
  refine ⟨missing, ended.result, ended.references, ?_⟩
  simp only [List.range, List.range.loop, List.map, ended.places]
  rfl

end Broker

end MessageBroker
