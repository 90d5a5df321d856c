import MessageBroker.Proofs.Broker.Succession

/-!
# The order in which a queue is read

A queue that one connection reads with one slot is in service until it is closed: what came to it is in
line. Before it is closed its deliveries are written, and none of it is written afterwards. So through a
whole life a delivery is written only when all messages before its own are settled, and the places of
the messages that are sent never go back.

After the shutdown deliveries that fail are given up, and a message that is not stored any more is
passed over. Then the next message has its turn although nobody has answered.
-/

namespace MessageBroker

open Books Desk

/-- What was sent stood in the line, in places that never go back, and at most in the first one that is
not settled. -/
def Minutes.InTurn (m : Minutes) : Prop :=
  ∃ places : List Nat, places.Pairwise (· ≤ ·) ∧ (∀ n ∈ places, n ≤ m.settled.length) ∧
    m.sent.map some = places.map fun n => m.enqueued[n]?

namespace Broker

variable {b start : Broker} {k : Nat} {reader : String} {m : Minutes} {e : Episode}
  {life : List Episode}

/-! ## One episode -/

/-- Before anything closes the queue its deliveries are written, and none is written afterwards. -/
theorem InService.live (served : b.InService k reader m) (regular : b.Regular)
    (filed : b.docket.Filed) {resumes : List Publication} {down : Bool}
    (aloft : b.books.cargo.Aloft [] m.answered resumes down) (ready : b.IsReadyFor e)
    (alone : b.ReadsAlone k reader) (fresh : (b.live e).desk.Fresh) :
    (b.live e).InService k reader (b.minute k m e) ∨ (b.live e).OutOfService k := by
  have attended := attended_live served.attended aloft ready.1 fresh
  have silent : b.performs? e = none → e.isCall = true → (b.live e).isGone k = true →
      (b.live e).OutOfService k := by
    intro idle call gone
    refine ⟨gone, ?_⟩
    rw [(desk_of_idle idle).2, ready.1 call]
    nofun
  rcases live_cases filed.sound k e with ⟨idle, lengthens⟩ | ⟨task, rest, line, rfl, performed⟩
  · cases here : (b.live e).isGone k with
    | false =>
        exact .inl ⟨attended, here,
          inLine_of_idle served.queued regular served.attended aloft ready idle lengthens here⟩
    | true =>
        refine .inr (silent idle ?_ here)
        by_contra uncalled
        have same := isGone_of_uncalled idle (Bool.not_eq_true _ ▸ uncalled) k
        rw [here, served.here] at same
        cases same
  · have here : (b.live (.stir (.move .task))).isGone k = false := by
      rw [performed, isGone_perform]
      exact served.here
    exact .inl ⟨attended, here,
      inLine_of_task served.queued served.attended aloft served.here alone line⟩

/-- A delivery that is written was going to be. -/
theorem mem_sends_of_writes {d : Delivery} (written : b.writes? e = some d) : d ∈ b.desk.sends := by
  obtain ⟨task, which, same⟩ := Option.bind_eq_some_iff.1 written
  obtain ⟨rest, line, -⟩ := task_of_performs which
  rw [desk_pop line, same]
  exact List.mem_cons_self

/-- Whoever leaves the line without a delivery has waited in it, and is not stored any more. -/
theorem of_mem_misses {id : CorrelationId} (left : id ∈ b.misses k e) :
    id ∈ b.waitingIn k ∧ b.depot.messages.get? id = none := by
  unfold misses at left
  split at left
  · rename_i j which
    split at left
    · rename_i silent
      obtain ⟨rfl, sends⟩ := silent
      refine ⟨List.mem_of_mem_take left, ?_⟩
      obtain ⟨rest, line, rfl⟩ := task_of_performs which
      have performed : b.live (.stir (.move .task)) = work { b with tasks := rest } j :=
        live_of_line line
      have popped : Broker.books { b with tasks := rest } = b.books := by
        rw [books_pop line]
        rfl
      rw [performed] at left sends
      have waiting : waitingIn { b with tasks := rest } j = b.waitingIn j := rfl
      rcases work_misses { b with tasks := rest } (sends.trans (congrArg Books.sends popped.symm)) with
        same | ⟨m, others, before, since, missing⟩
      · rw [waitingIn_of_shelves same, waiting, Nat.sub_self, List.take_zero] at left
        exact absurd left List.not_mem_nil
      · rw [since, ← waiting, before] at left
        obtain rfl : id = m := by simpa using left
        exact missing
    · exact absurd left List.not_mem_nil
  · exact absurd left List.not_mem_nil

/-- As long as stakes are backed nobody leaves a line without a delivery. -/
theorem misses_of_backed (backed : b.books.Backed 0) (k : Nat) (e : Episode) : b.misses k e = [] := by
  refine List.eq_nil_iff_forall_not_mem.2 fun id left => ?_
  obtain ⟨waits, missing⟩ := of_mem_misses left
  have owed : b.owes k id := by
    rw [waitingIn] at waits
    cases found : b.lanes[k]? with
    | none => simp [found] at waits
    | some lane => exact .inl ⟨lane, found, by simpa [found] using waits⟩
  have held := tally_ne_zero_of_mem (owes_iff.1 owed)
  rw [← add_zero b.books.stakes] at held
  exact held (backed.new missing)

/-- A message that is sent has the place behind those that are settled. -/
theorem inTurn_minute (inTurn : m.InTurn)
    (next : ∀ d, b.writes? e = some d → d.lane = k → m.settled ++ [d.message] <+: m.enqueued) :
    (b.minute k m e).InTurn := by
  obtain ⟨places, sorted, settled, sent⟩ := inTurn
  have later : m.settled.length ≤ (b.minute k m e).settled.length := by
    simp only [minute, List.length_append]
    omega
  -- Whoever has a place keeps it when others join the line.
  have kept : ∀ {n : Nat} {id : CorrelationId}, m.enqueued[n]? = some id →
      (b.minute k m e).enqueued[n]? = some id := by
    intro n id stood
    obtain ⟨short, -⟩ := List.getElem?_eq_some_iff.1 stood
    rw [minute, List.getElem?_append_left short, stood]
  have sent' : m.sent.map some = places.map fun n => (b.minute k m e).enqueued[n]? := by
    rw [sent]
    refine List.map_congr_left fun n listed => ?_
    have stood : m.enqueued[n]? ∈ m.sent.map some := sent ▸ List.mem_map_of_mem listed
    obtain ⟨id, -, same⟩ := List.mem_map.1 stood
    rw [← same, kept same.symm]
  cases written : (b.writes? e).filter fun d => d.lane = k with
  | none =>
      refine ⟨places, sorted, fun n listed => Nat.le_trans (settled n listed) later, ?_⟩
      simp only [minute, written, Option.toList_none, List.map_nil, List.append_nil]
      exact sent'
  | some d =>
      obtain ⟨writes, own⟩ := Option.filter_eq_some_iff.1 written
      have stands : m.enqueued[m.settled.length]? = some d.message := by
        obtain ⟨more, line⟩ := next d writes (of_decide_eq_true own)
        rw [← line, List.append_assoc, List.getElem?_append_right (Nat.le_refl _), Nat.sub_self]
        rfl
      refine ⟨places ++ [m.settled.length], ?_, ?_, ?_⟩
      · rw [List.pairwise_append]
        refine ⟨sorted, List.pairwise_singleton _ _, fun n listed n' last => ?_⟩
        rw [List.mem_singleton.1 last]
        exact settled n listed
      · intro n listed
        rcases List.mem_append.1 listed with before | last
        · exact Nat.le_trans (settled n before) later
        · exact List.mem_singleton.1 last ▸ later
      · rw [List.map_append, ← sent']
        simp only [minute, written, List.map_append, Option.toList_some, List.map_singleton]
        rw [← kept stands]
        rfl

/-! ## A whole life -/

/-- A life in which a queue is read alone, by a connection with one slot. Nobody hurries the broker, and
the ids that it makes up differ. -/
structure Solitary (start : Broker) (k : Nat) (reader : String) (life : List Episode) : Prop where
  unhurried : start.Unhurried life
  fresh : (start.through life).desk.Fresh
  alone : ∀ before, before <+: life → (start.through before).ReadsAlone k reader

theorem Solitary.before {more : List Episode} (solitary : start.Solitary k reader (life ++ more))
    (filed : start.docket.Filed) : start.Solitary k reader life where
  unhurried := ((unhurried_append life more).1 solitary.unhurried).1
  fresh := by
    have leads := leads_through ((leads_through filed life).filed filed) more
    rw [← through_append] at leads
    obtain ⟨mint, minted⟩ := leads.mint
    have fresh : (start.through (life ++ more)).docket.Fresh := solitary.fresh
    exact fresh.before mint minted
  alone before front := solitary.alone before (front.trans (List.prefix_append _ _))

theorem minutes_concat (k : Nat) (b : Broker) (m : Minutes) (life : List Episode) (e : Episode) :
    minutes k b m (life ++ [e]) = (b.through life).minute k (minutes k b m life) e := by
  induction life generalizing b m with
  | nil => rfl
  | cons e' life ih => exact ih _ _

/-- The minutes know which deliveries were answered. -/
theorem aloft_through {resumes : List Publication} {down : Bool}
    (aloft : b.books.cargo.Aloft [] m.answered resumes down) (k : Nat) (life : List Episode) :
    ∃ resumes', (b.through life).books.cargo.Aloft [] (minutes k b m life).answered resumes'
      (life.any Episode.shutsDown || down) := by
  induction life generalizing b m resumes down with
  | nil => exact ⟨resumes, aloft⟩
  | cons e life ih =>
      obtain ⟨resumes', aloft'⟩ := aloft_live aloft e
      obtain ⟨resumes'', whole⟩ := ih (m := b.minute k m e) aloft'
      refine ⟨resumes'', ?_⟩
      rw [List.any_cons, Bool.or_assoc, Bool.or_left_comm]
      exact whole

variable {settings : Settings.Engine} {mint : Nat → CorrelationId} {calendar : Nat}
  {depot : Store.Depot}

/-- A queue that nobody has declared is in line. -/
theorem inService_start (started : Broker.new? settings mint calendar depot = some start) (k : Nat)
    (reader : String) : start.InService k reader {} := by
  refine ⟨attended_start started, ?_, ?_⟩
  all_goals
    unfold new? at started
    split at started
    · obtain ⟨buffers, -, rfl⟩ := Option.map_eq_some_iff.1 started
      first
        | rfl
        | exact ⟨rfl, Nat.zero_le _, nofun⟩
    · cases started

/-- Whatever is written from the queue is in the first place that is not settled. -/
theorem next_of_stands (stands : b.InService k reader m ∨ b.OutOfService k) {d : Delivery}
    (written : b.writes? e = some d) (own : d.lane = k) : m.settled ++ [d.message] <+: m.enqueued := by
  have listed := mem_sends_of_writes written
  rcases stands with served | out
  · exact served.queued.next listed own
  · exact absurd own (out.silent d listed)

/-- The queue is in service or out of service through the whole life, and is read in turn. -/
theorem stands_through (started : Broker.new? settings mint calendar depot = some start)
    (solitary : start.Solitary k reader life) :
    ((start.through life).InService k reader (minutes k start {} life) ∨
      (start.through life).OutOfService k) ∧ (minutes k start {} life).InTurn := by
  have ⟨filed, _⟩ := filed_start started
  induction life using List.reverseRecOn with
  | nil => exact ⟨.inl (inService_start started k reader), [], .nil, nofun, rfl⟩
  | append_singleton life e ih =>
      obtain ⟨stands, inTurn⟩ := ih (solitary.before filed)
      have regular := (Regular.start started).through life
      have filed' := (leads_through filed life).filed filed
      have ready := ((unhurried_append life [e]).1 solitary.unhurried).2.1
      have fresh := solitary.fresh
      rw [through_concat] at fresh
      rw [minutes_concat, through_concat]
      refine ⟨?_, inTurn_minute inTurn fun d written own => next_of_stands stands written own⟩
      rcases stands with served | out
      · obtain ⟨resumes, aloft⟩ := aloft_through (m := {}) (start_aloft started) k life
        have alone := solitary.alone life (List.prefix_append _ _)
        exact served.live regular filed' aloft ready alone fresh
      · exact .inr (out.live filed'.sound e)

/-- No message is missing from a store in memory that nobody else tampers with. -/
theorem missing_of_spared {messages : Store.Messages}
    (started : Broker.new? settings mint calendar (.holding messages) = some start)
    (spares : ∀ e ∈ life, e.sparesStore = true) (k : Nat) :
    (minutes k start {} life).missing = [] := by
  induction life using List.reverseRecOn with
  | nil => rfl
  | append_singleton life e ih =>
      have before := (List.forall_mem_append.1 spares).1
      rw [minutes_concat, minute, ih before, misses_of_backed (backed_through started before)]
      rfl

/-- No message is given up before the shutdown. -/
theorem givenUp_of_up (started : Broker.new? settings mint calendar depot = some start)
    (up : ∀ e ∈ life, e.shutsDown = false) (k : Nat) : (minutes k start {} life).givenUp = [] := by
  induction life using List.reverseRecOn with
  | nil => rfl
  | append_singleton life e ih =>
      have before := (List.forall_mem_append.1 up).1
      obtain ⟨resumes, aloft⟩ := aloft_through (m := {}) (start_aloft started) k life
      have kept : (start.through life).isShutDown = false := by
        refine aloft.kept.trans ?_
        rw [Bool.or_false, List.any_eq_false]
        simpa using before
      rw [minutes_concat, minute, ih before, givesUp, kept, if_neg (by simp)]
      rfl

/-- A queue that is read by one connection alone, which has one slot, is read in the order in which its
messages came in: a delivery is written, or cannot be written, only when all messages before its own
are settled, and the places in line of the messages that are sent never go back. A message is settled
when a delivery of it has come to an end that its peer has acknowledged or rejected. It counts as
settled also when it is not stored any more, which does not happen with a store in memory, and when it
is given up, which does not happen before the shutdown. -/
theorem read_in_order (started : Broker.new? settings mint calendar depot = some start)
    (solitary : start.Solitary k reader life) :
    (∀ before e d, before ++ [e] <+: life → (start.through before).writes? e = some d → d.lane = k →
      (minutes k start {} before).settled ++ [d.message] <+: (minutes k start {} before).enqueued) ∧
    (minutes k start {} life).InTurn ∧
    (∀ before e, before ++ [e] <+: life → ∀ id ∈ (start.through before).misses k e,
      (start.through before).depot.messages.get? id = none) ∧
    (∀ messages, depot = .holding messages → (∀ e ∈ life, e.sparesStore = true) →
      (minutes k start {} life).missing = []) ∧
    ((∀ e ∈ life, e.shutsDown = false) → (minutes k start {} life).givenUp = []) := by
  refine ⟨?_, (stands_through started solitary).2, fun _ _ _ _ left => (of_mem_misses left).2, ?_,
    fun up => givenUp_of_up started up k⟩
  · intro before e d front written own
    have before' : start.Solitary k reader before := by
      obtain ⟨more, rfl⟩ := (List.prefix_append before [e]).trans front
      exact solitary.before (filed_start started).1
    exact next_of_stands (stands_through started before').1 written own
  · rintro messages rfl spares
    exact missing_of_spared started spares k

/-- A reader with one slot does not answer its first delivery in time. Then it answers, and the broker is
shut down when the second message has been sent. -/
def dawdling : List (List Episode × List Episode) :=
  [([.stir (.move (.declare "orders" "orders"))], [.stir (.move .task)]),
    ([.stir (.move (.connect "reader" .reliable))], []),
    ([.stir (.move (.subscribe "reader" "orders" (some 1)))], [.stir (.move .task)]),
    ([.stir (.move (.publish ⟨.ofNat 1, "orders", [7], none, 0⟩))],
      List.replicate 4 (.stir (.move .task))),
    ([.stir (.move (.publish ⟨.ofNat 2, "orders", [8], none, 0⟩))], [.stir (.move .task)]),
    ([], .stir (.move (.tick 60000)) :: .stir (.move .ring) :: List.replicate 7 (.stir (.move .task))),
    ([.stir (.move (.feed "reader" (Wire.Frame.ack (.fresh 2)).encode)),
      .stir (.move (.frame "reader"))], List.replicate 5 (.stir (.move .task))),
    ([.shutDown], List.replicate 2 (.stir (.move .task)))]

/-- The first message is sent twice, and then the second. It is given up when the broker is shut
down. -/
theorem read_in_order_dawdling :
    let life := dawdling.flatMap fun turn => turn.1 ++ turn.2
    let m := minutes 0 sample {} life
    sample.Solitary 0 "reader" life ∧ (∀ e ∈ life, e.sparesStore = true) ∧ m.InTurn ∧
      m.enqueued = [.ofNat 1, .ofNat 2] ∧ m.sent = [.ofNat 1, .ofNat 1, .ofNat 2] ∧
      m.settled = [.ofNat 1, .ofNat 2] ∧ m.givenUp = [.ofNat 2] ∧ m.missing = [] := by
  intro life m
  have rests : sample.ComesToRest dawdling := by decide
  have fresh : (sample.through life).desk.Fresh := by
    have apart : ∀ i < 4, ∀ j < 4, CorrelationId.fresh i = CorrelationId.fresh j → i = j := by decide
    exact fun i j hi hj same => apart i hi j hj same
  have alone : ∀ before ∈ life.inits, (sample.through before).ReadsAlone 0 "reader" := by decide
  have solitary : sample.Solitary 0 "reader" life :=
    ⟨unhurried_of_comesToRest rests rfl, fresh, fun before front =>
      alone before ((List.mem_inits _ _).2 front)⟩
  have spares : ∀ e ∈ life, e.sparesStore = true := by decide
  have seen : m.enqueued = [.ofNat 1, .ofNat 2] ∧ m.sent = [.ofNat 1, .ofNat 1, .ofNat 2] ∧
      m.settled = [.ofNat 1, .ofNat 2] ∧ m.givenUp = [.ofNat 2] := by decide
  obtain ⟨enqueued, sent, settled, givenUp⟩ := seen
  obtain ⟨-, inTurn, -, stored, -⟩ := read_in_order new?_sample solitary
  exact ⟨solitary, spares, inTurn, enqueued, sent, settled, givenUp, stored _ rfl spares⟩

/-- A queue is read alone by a connection with one slot, by a broker that comes to rest after each turn,
and its second message is sent although no delivery has been answered. -/
structure Overtaken (turns : List (List Episode × List Episode)) : Prop where
  rests : sample.ComesToRest turns
  fresh : (sample.through (turns.flatMap fun turn => turn.1 ++ turn.2)).desk.Fresh
  alone : ∀ before, before <+: (turns.flatMap fun turn => turn.1 ++ turn.2) →
    (sample.through before).ReadsAlone 0 "reader"
  enqueued : (minutes 0 sample {} (turns.flatMap fun turn => turn.1 ++ turn.2)).enqueued =
    [.ofNat 1, .ofNat 2]
  sent : .ofNat 2 ∈ (minutes 0 sample {} (turns.flatMap fun turn => turn.1 ++ turn.2)).sent
  unanswered : (minutes 0 sample {} (turns.flatMap fun turn => turn.1 ++ turn.2)).answered = []

/-- A queue is declared after the shutdown. Its reader does not answer the first delivery in time. -/
def belated : List (List Episode × List Episode) :=
  [([.shutDown], []),
    ([.stir (.move (.declare "orders" "orders"))], [.stir (.move .task)]),
    ([.stir (.move (.connect "reader" .reliable))], []),
    ([.stir (.move (.subscribe "reader" "orders" (some 1)))], [.stir (.move .task)]),
    ([.stir (.move (.publish ⟨.ofNat 1, "orders", [7], none, 0⟩))],
      List.replicate 4 (.stir (.move .task))),
    ([.stir (.move (.publish ⟨.ofNat 2, "orders", [8], none, 0⟩))], [.stir (.move .task)]),
    ([], .stir (.move (.tick 60000)) :: .stir (.move .ring) :: List.replicate 7 (.stir (.move .task)))]

/-- The first of two messages is removed from the store before anybody reads the queue. -/
def plundered : List (List Episode × List Episode) :=
  [([.stir (.move (.declare "orders" "orders"))], [.stir (.move .task)]),
    ([.stir (.move (.publish ⟨.ofNat 1, "orders", [7], none, 0⟩))],
      [.stir (.move .task), .store (.holding .empty)]),
    ([.stir (.move (.publish ⟨.ofNat 2, "orders", [8], none, 0⟩))], [.stir (.move .task)]),
    ([.stir (.move (.connect "reader" .reliable))], []),
    ([.stir (.move (.subscribe "reader" "orders" (some 1)))], List.replicate 5 (.stir (.move .task)))]

/-- After the shutdown a delivery that fails is given up, and a message that is not stored any more is
passed over. -/
theorem overtaken_unanswered : Overtaken belated ∧ Overtaken plundered := by
  have apart : ∀ i < 3, ∀ j < 3, CorrelationId.fresh i = CorrelationId.fresh j → i = j := by decide
  constructor
  · have alone : ∀ before ∈ (belated.flatMap fun turn => turn.1 ++ turn.2).inits,
        (sample.through before).ReadsAlone 0 "reader" := by decide
    exact ⟨by decide, fun i j first second same => apart i first j second same,
      fun before front => alone before ((List.mem_inits _ _).2 front), by decide, by decide, by decide⟩
  · have alone : ∀ before ∈ (plundered.flatMap fun turn => turn.1 ++ turn.2).inits,
        (sample.through before).ReadsAlone 0 "reader" := by decide
    exact ⟨by decide, fun i j first second same =>
        apart i (Nat.lt_succ_of_lt first) j (Nat.lt_succ_of_lt second) same,
      fun before front => alone before ((List.mem_inits _ _).2 front), by decide, by decide, by decide⟩

end Broker

end MessageBroker
