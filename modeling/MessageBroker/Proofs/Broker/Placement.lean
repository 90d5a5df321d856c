import MessageBroker.Proofs.Broker.Backing

/-!
# Where messages come to queues

A message comes to queues when it is published or recovered, and then to just those that are declared
with a pattern its route belongs to. No queue has a stake in it then, its content is in the store, and
no other message is touched. So an episode adds stakes in this way alone, and whatever stake outlasts
it keeps its message.
-/

namespace MessageBroker

open Books

namespace Books

/-- Some queues get messages: nobody had a stake in these, the store has what is brought under their
ids, and the others are left as they are. -/
structure Gains (s : Books) (gained : CorrelationId → List Nat)
    (brought : CorrelationId → Option Store.Message) (s' : Books) : Prop where
  backed : s'.Backed 0
  grown : ∀ id, holders id s'.stakes = holders id s.stakes + ↑(gained id)
  begun : ∀ id, gained id ≠ [] → tally id s.stakes = 0
  stored : ∀ id, gained id ≠ [] → s'.depot.messages.get? id = brought id
  others : ∀ id, gained id = [] → s'.references.outstanding id = s.references.outstanding id ∧
    s'.depot.messages.get? id = s.depot.messages.get? id

/-- What an episode does to stakes: those that are new were gained by their queues, in messages that
are brought and that nobody had a stake in, and those that were there before have kept their
messages. -/
structure Step (s : Books) (gained : CorrelationId → List Nat)
    (brought : CorrelationId → Option Store.Message) (s' : Books) : Prop where
  backed : s'.Backed 0
  traced : ∀ k id, (k, id) ∈ s'.stakes → (k, id) ∈ s.stakes ∨ k ∈ gained id
  begun : ∀ id, gained id ≠ [] → tally id s.stakes = 0
  stored : ∀ id, gained id ≠ [] → s'.depot.messages.get? id = brought id
  kept : ∀ k id, (k, id) ∈ s'.stakes → (k, id) ∈ s.stakes →
    s'.depot.messages.get? id = s.depot.messages.get? id

variable {s s' s'' : Books} {gained gained' : CorrelationId → List Nat}
  {brought brought' : CorrelationId → Option Store.Message} {m : CorrelationId}

theorem tally_ne_zero_of_mem {k : Nat} {id : CorrelationId} {stakes : Multiset Stake}
    (held : (k, id) ∈ stakes) : tally id stakes ≠ 0 :=
  tally_pos.2 ⟨(k, id), held, rfl⟩

namespace Gains

theorem refl (backed : s.Backed 0) : Gains s (fun _ => []) brought s :=
  ⟨backed, fun _ => (add_zero _).symm, fun _ some' => absurd rfl some', fun _ some' => absurd rfl some',
    fun _ _ => ⟨rfl, rfl⟩⟩

theorem tally_eq (gains : Gains s gained brought s') (id : CorrelationId) :
    tally id s'.stakes = tally id s.stakes + (gained id).length := by
  have whole := congrArg Multiset.card (gains.grown id)
  simpa only [Multiset.card_add, card_holders, Multiset.coe_card] using whole

/-- Whatever was gained is not gained again. -/
theorem apart (first : Gains s gained brought s') (second : Gains s' gained' brought' s'')
    {id : CorrelationId} (early : gained id ≠ []) : gained' id = [] := by
  by_contra late
  have none' := second.begun id late
  rw [first.tally_eq] at none'
  exact early (List.length_eq_zero_iff.1 (Nat.eq_zero_of_add_eq_zero_left none'))

theorem trans (first : Gains s gained brought s') (second : Gains s' gained' brought' s'')
    (same : ∀ id, gained id = [] → brought' id = brought id) :
    Gains s (fun id => gained id ++ gained' id) brought s'' where
  backed := second.backed
  grown := by
    intro id
    rw [second.grown, first.grown, add_assoc, Multiset.coe_add]
  begun := by
    intro id some'
    by_cases early : gained id = []
    · rw [early, List.nil_append] at some'
      have none' := second.begun id some'
      rw [first.tally_eq] at none'
      exact Nat.eq_zero_of_add_eq_zero_right none'
    · exact first.begun id early
  stored := by
    intro id some'
    by_cases early : gained id = []
    · rw [early, List.nil_append] at some'
      rw [second.stored id some', same id early]
    · rw [(second.others id (first.apart second early)).2, first.stored id early]
  others := by
    intro id none'
    obtain ⟨early, late⟩ := List.append_eq_nil_iff.1 none'
    obtain ⟨references, messages⟩ := first.others id early
    obtain ⟨references', messages'⟩ := second.others id late
    exact ⟨references'.trans references, messages'.trans messages⟩

/-- What is announced does not matter. -/
theorem announce (gains : Gains s gained brought s') (e : Event) :
    Gains s gained brought { s' with events := e :: s'.events } := by
  have backed := gains.backed
  exact ⟨⟨backed.counted, backed.stored, backed.works, backed.prompt, backed.resumed⟩, gains.grown,
    gains.begun, gains.stored, gains.others⟩

theorem step (gains : Gains s gained brought s') : Step s gained brought s' where
  backed := gains.backed
  traced := by
    intro k id held
    rw [← mem_holders, gains.grown, Multiset.mem_add, mem_holders] at held
    exact held
  begun := gains.begun
  stored := gains.stored
  kept := by
    intro k id _ before
    refine (gains.others id ?_).2
    by_contra some'
    exact tally_ne_zero_of_mem before (gains.begun id some')

end Gains

theorem Bears.step {given : Multiset Stake} (bears : Bears s 0 given s' 0) :
    Step s (fun _ => []) brought s' where
  backed := bears.backed
  begun := fun _ some' => absurd rfl some'
  stored := fun _ some' => absurd rfl some'
  traced := by
    intro k id held
    have balance := bears.balance
    rw [add_zero, add_zero] at balance
    rw [← balance]
    exact .inl (Multiset.mem_add.2 (.inl held))
  kept := by
    intro k id held _
    refine bears.kept id ?_
    rw [add_zero]
    exact tally_ne_zero_of_mem held

/-- Every shelf among certain ones gets an id at its back. -/
def spread (m : CorrelationId) (lanes : List Nat) (shelves : List Shelf) : List Shelf :=
  lanes.foldl (fun shelves k => shelves.modify k (Shelf.append m)) shelves

theorem shelved_spread {lanes : List Nat} {shelves : List Shelf}
    (there : ∀ k ∈ lanes, k < shelves.length) :
    shelved 0 (spread m lanes shelves) = shelved 0 shelves + ↑(lanes.map fun k => (k, m)) := by
  induction lanes generalizing shelves with
  | nil => exact (add_zero _).symm
  | cons k lanes ih =>
      obtain ⟨rest, before, modified⟩ := shelved_modify
        (List.getElem?_eq_getElem (there k List.mem_cons_self)) 0
      rw [Nat.zero_add] at before modified
      have there' : ∀ j ∈ lanes, j < (shelves.modify k (Shelf.append m)).length := by
        intro j listed
        rw [List.length_modify]
        exact there j (List.mem_cons_of_mem k listed)
      have rest' := ih there'
      have whole : (↑((k :: lanes).map fun k => (k, m)) : Multiset Stake) =
          {(k, m)} + ↑(lanes.map fun k => (k, m)) := by
        rw [List.map_cons, ← Multiset.cons_coe, Multiset.singleton_add]
      rw [spread] at rest' ⊢
      rw [List.foldl_cons, rest', modified, before, whole, Shelf.append, List.map_append,
        ← Multiset.coe_add, List.map_singleton, Multiset.coe_singleton]
      abel

theorem Backed.enter (backed : s.Backed 0) (p : Store.Message) :
    Backed { s with depot := s.depot.entering p } 0 := by
  refine ⟨backed.counted, ?_, backed.works, backed.prompt, backed.resumed⟩
  intro id some'
  change (s.depot.entering p).messages.get? id ≠ none
  rw [Store.Depot.get?_entering]
  split
  · exact Option.some_ne_none p
  · exact backed.stored id some'

end Books

namespace Broker

variable {b : Broker}

/-! ## Fan-out -/

/-- Open queues take a message, each of them. -/
theorem books_fanOut {m : CorrelationId} {lanes : List Nat}
    (opened : ∀ k ∈ lanes, b.books.isOpen k = true) :
    (b.fanOut m lanes).1 = lanes.length ∧ (b.fanOut m lanes).2.books = { b.books with
      references := b.references.setUp m lanes.length
      shelves := spread m lanes b.books.shelves } := by
  have each : ∀ (lanes : List Nat) (count : Nat) (b : Broker),
      (∀ k ∈ lanes, b.books.isOpen k = true) →
        (lanes.foldl (fanOutTo m) (count, b)).1 = count + lanes.length ∧
        (lanes.foldl (fanOutTo m) (count, b)).2.books =
          { b.books with shelves := spread m lanes b.books.shelves } := by
    intro lanes
    induction lanes with
    | nil => exact fun _ _ _ => ⟨rfl, rfl⟩
    | cons k lanes ih =>
        intro count b opened
        have here := opened k List.mem_cons_self
        have taken := (b.books_enqueue k m).1
        have books := (b.books_enqueue k m).2
        rw [if_pos here] at books
        have later : ∀ j ∈ lanes, (b.enqueue k m).2.books.isOpen j = true := by
          intro j listed
          rw [isOpen_enqueue]
          exact opened j (List.mem_cons_of_mem k listed)
        obtain ⟨count', books'⟩ := ih (count + 1) (b.enqueue k m).2 later
        rw [List.foldl_cons, fanOutTo]
        simp only [taken, here, if_true]
        rw [count', books', books, List.length_cons]
        exact ⟨by omega, rfl⟩
  obtain ⟨count, books⟩ := each lanes 0 { b with references := b.references.setUp m lanes.length }
    opened
  exact ⟨count.trans (Nat.zero_add _), books⟩

/-- Queues that match get a message that is stored and that no queue has a stake in. -/
theorem fanOut_gains {m : CorrelationId} (backed : b.books.Backed 0)
    (new : tally m b.books.stakes = 0) (stored : b.depot.messages.get? m ≠ none) {route : String}
    (some' : b.matching route ≠ []) :
    Gains b.books (fun id => if m = id then b.matching route else []) b.depot.messages.get?
      (b.fanOut m (b.matching route)).2.books := by
  have opened : ∀ k ∈ b.matching route, b.books.isOpen k = true :=
    fun _ listed => isOpen_of_matching listed
  have there : ∀ k ∈ b.matching route, k < b.books.shelves.length := by
    intro k listed
    obtain ⟨shelf, found, -⟩ := isOpen_iff.1 (opened k listed)
    exact (List.getElem?_eq_some_iff.1 found).1
  have books := (books_fanOut (m := m) opened).2
  have stakes : (b.fanOut m (b.matching route)).2.books.stakes =
      b.books.stakes + ↑((b.matching route).map fun k => (k, m)) := by
    rw [books, Books.stakes, Books.stakes]
    dsimp only
    rw [shelved_spread there]
    abel
  have outstanding : ∀ id, (b.references.setUp m (b.matching route).length).outstanding id =
      if id = m then some (b.matching route).length else b.references.outstanding id := by
    intro id
    rw [References.setUp, if_neg fun none' => some' (List.length_eq_zero_iff.1 none')]
    exact Table.get?_insert _ _ _ _
  refine ⟨⟨?_, ?_, ?_, ?_, ?_⟩, ?_, ?_, ?_, ?_⟩
  · intro id
    rw [add_zero, stakes, tally_add, tally_of_lanes, books]
    dsimp only
    rw [outstanding]
    by_cases same : id = m
    · rw [if_pos same.symm, if_pos same, same, new, Nat.zero_add, Option.getD_some]
    · have counted := backed.counted id
      rw [if_neg (Ne.symm same), if_neg same, List.length_nil, Nat.add_zero]
      rwa [add_zero] at counted
  · intro id
    rw [books]
    dsimp only
    rw [outstanding]
    split
    · rename_i same
      exact fun _ => same ▸ stored
    · exact backed.stored id
  · rw [books]
    exact backed.works
  · rw [books]
    exact backed.prompt
  · rw [books]
    exact backed.resumed
  · intro id
    rw [stakes, holders_add, holders_of_lanes]
  · intro id gains
    have same : m = id := by
      by_contra other
      exact gains (if_neg other)
    exact same ▸ new
  · intro id _
    rw [books]
    rfl
  · intro id none'
    have other : id ≠ m := by
      rintro rfl
      exact some' (by simpa using none')
    rw [books]
    dsimp only
    rw [outstanding, if_neg other]
    exact ⟨rfl, rfl⟩

/-! ## Publication and recovery -/

theorem bring_gains (backed : b.books.Backed 0) {p : Store.Message}
    (some' : b.matching p.route ≠ []) :
    Gains b.books (fun id => if p.id = id then b.takers p else []) (fun _ => some p)
      (b.bring p (b.matching p.route)).2.books := by
  have works : ∀ call, b.depot.failuresOf call = 0 := backed.works
  unfold bring takers
  rw [Store.Depot.add_of_works works]
  by_cases missing : b.depot.messages.get? p.id = none
  · have new : tally p.id b.books.stakes = 0 := by
      have new := backed.new missing
      rwa [add_zero] at new
    have stored : (b.depot.entering p).messages.get? p.id ≠ none := by
      rw [Store.Depot.get?_entering, if_pos rfl]
      exact Option.some_ne_none p
    have gains := fanOut_gains (b := { b with depot := b.depot.entering p }) (backed.enter p) new
      stored some'
    rw [if_pos missing, if_pos missing]
    -- What is entered is the message that comes to the queues, and the store has all others as before.
    have entered : Gains b.books (fun id => if p.id = id then b.matching p.route else [])
        (fun _ => some p)
        (fanOut { b with depot := b.depot.entering p } p.id (b.matching p.route)).2.books := by
      refine ⟨gains.backed, gains.grown, gains.begun, ?_, ?_⟩
      · intro id some''
        have same : id = p.id := by
          by_contra other
          exact some'' (if_neg (Ne.symm other))
        refine (gains.stored id some'').trans ?_
        exact (Store.Depot.get?_entering _ _ _).trans (if_pos same)
      intro id none'
      have other : id ≠ p.id := by
        rintro rfl
        exact some' (by simpa using none')
      obtain ⟨references, messages⟩ := gains.others id none'
      refine ⟨references, messages.trans ?_⟩
      exact (Store.Depot.get?_entering _ _ _).trans (if_neg other)
    dsimp only
    split
    · exact entered
    · exact entered.announce _
  · rw [if_neg missing, if_neg missing]
    simp only [ite_self]
    exact .refl backed

theorem publish_gains (backed : b.books.Backed 0) (p : Store.Message) :
    Gains b.books (fun id => if p.id = id then b.takers p else []) (fun _ => some p)
      (b.publish p).2.books := by
  unfold publish
  split
  · rename_i none'
    simp only [takers, none', ite_self]
    exact .refl backed
  · rename_i some'
    exact bring_gains backed some'

/-- A message is accepted if some queue takes it, and the answer is how many do. -/
theorem publish_eq_ok (works : ∀ call, b.depot.failuresOf call = 0) {p : Store.Message} {n : Nat} :
    (b.publish p).1 = .ok n ↔ b.takers p ≠ [] ∧ n = (b.takers p).length := by
  have opened : ∀ k ∈ b.matching p.route, b.books.isOpen k = true :=
    fun _ listed => isOpen_of_matching listed
  have count := (books_fanOut (b := { b with depot := b.depot.entering p }) (m := p.id) opened).1
  have refused : (∃ e : RequestError, (b.publish p).1 = .error e) → b.takers p = [] →
      ((b.publish p).1 = .ok n ↔ b.takers p ≠ [] ∧ n = (b.takers p).length) := by
    rintro ⟨e, answer⟩ nobody
    rw [answer, nobody]
    exact ⟨nofun, fun ⟨some', _⟩ => absurd rfl some'⟩
  cases matched : b.matching p.route with
  | nil => exact refused ⟨.noMatchingQueue p.route, by rw [publish, matched]⟩ (by simp [takers, matched])
  | cons k lanes =>
      have brought : b.publish p = b.bring p (b.matching p.route) := by rw [publish, matched]
      rw [bring, Store.Depot.add_of_works works] at brought
      by_cases missing : b.depot.messages.get? p.id = none
      · rw [if_pos missing] at brought
        dsimp only at brought
        rw [if_neg (by rw [count, matched]; exact Nat.succ_ne_zero _)] at brought
        rw [brought, count, takers, if_pos missing, matched]
        simp [eq_comm]
      · rw [if_neg missing] at brought
        exact refused ⟨_, congrArg Prod.fst brought⟩ (if_neg missing)

theorem recoverOne_gains (backed : b.books.Backed 0) (report : Recovery) (m : CorrelationId) :
    (∃ report', (b.recoverOne report m).1 = .ok report') ∧
      Gains b.books (fun id => if m = id then b.heirs m else []) b.depot.messages.get?
        (b.recoverOne report m).2.books := by
  have works : ∀ call, b.depot.failuresOf call = 0 := backed.works
  unfold recoverOne heirs
  rw [Store.Depot.get?_of_works works]
  cases outstanding : b.references.outstanding m with
  | some n =>
      simp only [Option.isSome_some, if_true, ite_self]
      exact ⟨⟨_, rfl⟩, .refl backed⟩
  | none =>
      have new : tally m b.books.stakes = 0 := by
        have new := backed.free outstanding
        rwa [add_zero] at new
      simp only [Option.isSome_none, Bool.false_eq_true, if_false]
      cases stored : b.depot.messages.get? m with
      | none =>
          simp only [ite_self]
          exact ⟨⟨_, rfl⟩, .refl backed⟩
      | some p =>
          dsimp only
          split
          · rename_i none'
            simp only [show b.matching p.route = [] from none', ite_self]
            exact ⟨⟨_, rfl⟩, .refl backed⟩
          · rename_i some'
            have gains := fanOut_gains backed new (by rw [stored]; exact Option.some_ne_none p) some'
            split
            · exact ⟨⟨_, rfl⟩, gains⟩
            · exact ⟨⟨_, rfl⟩, gains⟩

/-- Messages are recovered one after the other, each at most once. -/
theorem recoverEach_gains (backed : b.books.Backed 0) (report : Recovery) (ids : List CorrelationId) :
    Gains b.books (fun id => if id ∈ ids then b.heirs id else []) b.depot.messages.get?
      (b.recoverEach report ids).2.books := by
  induction ids generalizing b report with
  | nil =>
      simp only [List.not_mem_nil, if_false]
      exact .refl backed
  | cons m ids ih =>
      obtain ⟨⟨report', looked⟩, first⟩ := recoverOne_gains backed report m
      have matching := b.matching_recoverOne report m
      rw [recoverEach_cons looked]
      generalize (b.recoverOne report m).2 = b' at first matching
      have whole := first.trans (ih first.backed report') fun id none' => (first.others id none').2
      have same : (fun id => (if m = id then b.heirs m else []) ++
          if id ∈ ids then b'.heirs id else []) =
          fun id => if id ∈ m :: ids then b.heirs id else [] := by
        funext id
        by_cases early : (if m = id then b.heirs m else []) = []
        · obtain ⟨outstanding, stored⟩ := first.others id early
          have kept : b'.heirs id = b.heirs id := by
            simp only [heirs, matching]
            rw [show b'.references.outstanding id = b.references.outstanding id from outstanding,
              show b'.depot.messages.get? id = b.depot.messages.get? id from stored]
          rw [early, List.nil_append, kept]
          by_cases here : m = id
          · have nothing : b.heirs id = [] := by simpa [here] using early
            simp [nothing]
          · simp [eq_comm (a := id), here]
        · have here : m = id := by
            by_contra other
            exact early (if_neg other)
          subst here
          -- It has references now, and is passed over if it is listed again.
          have held : b'.heirs m = [] := by
            have grown := first.tally_eq m
            have counted := first.backed.counted m
            have some' := List.length_pos_of_ne_nil early
            rw [add_zero] at counted
            rw [heirs]
            cases outstanding : b'.references.outstanding m with
            | some n => rfl
            | none =>
                rw [show b'.books.references.outstanding m = none from outstanding,
                  Option.getD_none] at counted
                omega
          simp [held]
      rwa [same] at whole

theorem recover_gains (backed : b.books.Backed 0) :
    Gains b.books
      (fun id => if id ∈ b.depot.messages.oldest b.settings.recoveryBatchLimit then b.heirs id
        else [])
      b.depot.messages.get? b.recover.2.books := by
  have works : ∀ call, b.depot.failuresOf call = 0 := backed.works
  unfold recover
  rw [Store.Depot.oldest_of_works works]
  exact recoverEach_gains backed {} _

/-! ## Moves -/

/-- The message that queues get with a move under an id: the one that is published, or the one that is
stored and recovered. -/
def brings (b : Broker) (m : Move) (id : CorrelationId) : Option Store.Message :=
  match m with
  | .recover => b.depot.messages.get? id
  | m => b.publication? m

theorem request_step (backed : b.books.Backed 0) (connection : String) (id : CorrelationId)
    (body : Wire.Body) :
    Step b.books (b.takersOf (body.publication? id connection b.calendar))
      (fun _ => body.publication? id connection b.calendar) (b.request connection id body).2.books := by
  have quiet : Step b.books (fun _ => []) (fun _ => none) b.books := (Gains.refl backed).step
  cases body with
  | message route payload =>
      exact (publish_gains backed ⟨id, route, payload, some connection, b.calendar⟩).step
  | subscribe queue ceiling =>
      rw [request, books_subscribe]
      exact quiet
  | unsubscribe queue =>
      rw [request, books_unsubscribe]
      exact quiet
  | declare name route => exact (declare_bears backed name route).step
  | delete name =>
      obtain ⟨given, bears⟩ := delete_bears backed name
      exact bears.step
  | nack reason => exact quiet

theorem handle_step (backed : b.books.Backed 0) (session : Peer.Session) (frame : Wire.Frame) :
    Step b.books
      (b.takersOf (frame.request?.bind fun body => body.publication? frame.id session.id b.calendar))
      (fun _ => frame.request?.bind fun body => body.publication? frame.id session.id b.calendar)
      (b.handle session frame).2.books := by
  have quiet : Step b.books (fun _ => []) (fun _ => none) b.books := (Gains.refl backed).step
  rw [handle_eq]
  cases requests : frame.request? with
  | some body =>
      rw [Wire.Frame.request?_eq_some.1 requests, Option.bind_some]
      dsimp only
      rw [books_reply]
      exact request_step backed session.id frame.id body
  | none =>
      rw [Option.bind_none]
      cases purport : frame.purport with
      | request body => rw [Wire.Frame.request?_eq_some.2 purport] at requests; cases requests
      | answer outcome => exact (resolve_bears backed frame.id outcome).step
      | call =>
          dsimp only
          rw [books_reply]
          exact quiet
      | offence e => exact quiet

theorem beginPublish_step (backed : b.books.Backed 0) (tag : String) (p : Store.Message) :
    Step b.books (b.takersOf (some p)) (fun _ => some p) (b.beginPublish tag p).books := by
  have prompt : b.depot.holdsUp = false := backed.prompt
  unfold beginPublish
  split
  · rename_i none'
    have nobody : b.takersOf (some p) = fun _ => [] := by
      funext id
      simp only [takersOf, takers, none', ite_self]
    rw [nobody]
    exact (Gains.refl backed).step
  · rename_i some'
    rw [prompt, if_neg Bool.false_ne_true]
    exact (bring_gains backed some').step

/-- What a task does to stakes when it is performed. -/
theorem task_step (backed : b.books.Backed 0) (filed : b.docket.Filed) {task : Task}
    {rest : List Task} (line : b.tasks = task :: rest) :
    Step b.books (b.fansOut .task) (b.brings .task) (perform { b with tasks := rest } task).books := by
  have popped := books_pop line
  have prompt : b.depot.holdsUp = false := backed.prompt
  have gains : b.fansOut .task = b.takersOf (b.publication? .task) := rfl
  have brings : b.brings .task = fun _ => b.publication? .task := rfl
  have resumes : (Broker.books { b with tasks := rest }).resumes = [] := by
    have none' := backed.resumed
    rw [congrArg Books.resumes popped] at none'
    exact (List.append_eq_nil_iff.1 none').2
  rw [gains, brings, publication?, line]
  cases task with
  | work k =>
      rw [show b.books = Broker.books { b with tasks := rest } from popped] at backed ⊢
      exact (work_bears backed k).step
  | arm ticket =>
      rw [show b.books = Broker.books { b with tasks := rest } from popped] at backed ⊢
      dsimp only [perform]
      rw [books_arm]
      exact (Gains.refl backed).step
  | expire ticket =>
      rw [show b.books = Broker.books { b with tasks := rest } from popped] at backed ⊢
      exact (expire_bears backed ticket).step
  | publish tag p =>
      rw [show b.books = Broker.books { b with tasks := rest } from popped] at backed ⊢
      dsimp only
      rw [prompt, if_neg Bool.false_ne_true]
      exact beginPublish_step backed tag p
  | send d =>
      have sends : b.books.sends = d :: (Broker.books { b with tasks := rest }).sends :=
        congrArg Books.sends popped
      have taken : Bears b.books 0 0 (Broker.books { b with tasks := rest }) (d.stake ::ₘ 0) := by
        have left : Broker.books { b with tasks := rest } = { b.books with
            sends := (Broker.books { b with tasks := rest }).sends
            concludes := (Broker.books { b with tasks := rest }).concludes } :=
          congrArg (fun resumes => { b.books with
            sends := (Broker.books { b with tasks := rest }).sends
            concludes := (Broker.books { b with tasks := rest }).concludes
            resumes }) (resumes.trans backed.resumed.symm)
        rw [left]
        refine .sends backed ?_ _
        rw [sends, List.map_cons, ← Multiset.cons_coe, Multiset.cons_add, Multiset.add_cons]
      have filed' : (Broker.docket { b with tasks := rest }).Filed := by
        refine ⟨filed.sound, filed.keys, filed.issued, filed.flown, fun x listed => ?_⟩
        refine filed.aboard x ?_
        rw [show b.docket.sends = b.books.sends from rfl, sends]
        exact List.mem_cons_of_mem d listed
      obtain ⟨given, sent⟩ := send_bears taken.backed filed'
      exact (taken.onward sent).step
  | conclude ticket =>
      have taken : Bears b.books 0 0 (Broker.books { b with tasks := rest }) 0 :=
        .transfer backed (by rw [popped]; exact add_zero _) rfl rfl
          (resumes.trans backed.resumed.symm)
      obtain ⟨given, concluded⟩ := conclude_bears taken.backed filed.keys ticket
      exact (taken.onward concluded).step
  | resume p =>
      have some' := congrArg Books.resumes popped
      rw [backed.resumed] at some'
      cases some'

/-- What a move does to stakes. -/
theorem move_step (backed : b.books.Backed 0) (filed : b.docket.Filed) (m : Move) :
    Step b.books (b.fansOut m) (b.brings m) (b.apply m).books := by
  have quiet : ∀ brought, Step b.books (fun _ => []) brought b.books :=
    fun _ => (Gains.refl backed).step
  cases m with
  | connect id link => exact (connect_bears backed filed.sound id link).step
  | disconnect id => exact (disconnect_bears backed id).step
  | feed id data =>
      have same : (b.apply (.feed id data)).books = b.books := by
        simp only [apply]
        cases b.sessions.get? id <;> rfl
      rw [same]
      exact quiet _
  | frame id =>
      have gains : b.fansOut (.frame id) = b.takersOf (b.publication? (.frame id)) := rfl
      have brings : b.brings (.frame id) = fun _ => b.publication? (.frame id) := rfl
      simp only [apply]
      rw [gains, brings, publication?]
      cases b.nextFrame? id with
      | none => exact quiet _
      | some entry =>
          obtain ⟨session, frame⟩ := entry
          exact handle_step (b := { b with sessions := b.sessions.insert id session }) backed session
            frame
  | declare name route => exact (declare_bears backed name route).step
  | delete name =>
      obtain ⟨given, bears⟩ := delete_bears backed name
      exact bears.step
  | subscribe id name ceiling =>
      simp only [apply, books_subscribe]
      exact quiet _
  | unsubscribe id name =>
      simp only [apply, books_unsubscribe]
      exact quiet _
  | publish p => exact (publish_gains backed p).step
  | publishLater tag p =>
      have same : (b.apply (.publishLater tag p)).books = b.books := by
        simp only [apply, books_later, Task.delivery?, Task.ticket?, Task.publication?,
          Option.toList_none, List.append_nil]
      rw [same]
      exact quiet _
  | recover => exact (recover_gains backed).step
  | tamper c link => exact quiet _
  | task =>
      cases line : b.tasks with
      | nil =>
          have gains : b.fansOut .task = fun _ => [] := by
            funext id
            simp [fansOut, publication?, line, takersOf]
          rw [gains]
          simp only [apply, line]
          exact quiet _
      | cons task rest =>
          simp only [apply, line]
          exact task_step backed filed line
  | ring =>
      simp only [apply, books_ring]
      exact quiet _
  | tick now => exact quiet _

/-- To close a queue gives up nothing that waits in it. -/
theorem closeLane_bears {loose : Multiset Stake} (backed : b.books.Backed loose) (k : Nat) :
    Bears b.books loose 0 (b.closeLane k).books loose := by
  rw [books_closeLane]
  cases found : b.books.shelves[k]? with
  | some shelf => exact .shelve backed found rfl
  | none =>
      rw [List.modify_eq_self (List.getElem?_eq_none_iff.1 found)]
      exact .refl backed

/-- The shutdown gives up no stake at once. -/
theorem shutDown_bears (backed : b.books.Backed 0) : Bears b.books 0 0 b.shutDown.books 0 := by
  refine shutDown_induction (P := fun b' => Bears b.books 0 0 b'.books 0) ?_ ?_ ?_ ?_
  · exact .transfer backed (add_zero _) rfl rfl rfl
  · exact fun k bears => bears.onward (closeLane_bears bears.backed k)
  · exact fun id bears => bears.onward (resolve_bears bears.backed id _)
  · exact fun _ bears => bears

/-- When a broker starts there are no stakes. -/
theorem backed_start {settings : Settings.Engine} {mint : Nat → CorrelationId} {calendar : Nat}
    {messages : Store.Messages}
    (started : Broker.new? settings mint calendar (.holding messages) = some b) :
    b.books.Backed 0 ∧ b.books.stakes = 0 := by
  unfold new? at started
  split at started
  · obtain ⟨buffers, -, rfl⟩ := Option.map_eq_some_iff.1 started
    exact ⟨⟨fun _ => Nat.le_refl 0, fun _ some' => absurd rfl some', fun _ => rfl, rfl, rfl⟩, rfl⟩
  · cases started

end Broker

end MessageBroker
