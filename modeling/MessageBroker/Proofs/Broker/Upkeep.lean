import MessageBroker.Proofs.Broker.Exchange
import MessageBroker.Proofs.Broker.Provenance

/-!
# The upkeep of the stock

Every ticket that a task or an alarm names was given out, and no worker ever waits for less than a
begun millisecond if neither the base of its delays nor their ceiling is zero. This holds in every
state of a life: a good that is made is made of others, or has a ticket of a send that is tracked.
-/

namespace MessageBroker

namespace Time.Backoff

/-- No delay of a loop is zero. -/
structure Lasting (b : Backoff) : Prop where
  current : 0 < b.current.nanos
  base : 0 < b.base.nanos
  ceiling : 0 < b.ceiling.nanos
  factor : 0 < b.factor

namespace Lasting

variable {b : Backoff}

theorem min_pos {a c : Duration} (first : 0 < a.nanos) (second : 0 < c.nanos) :
    0 < (a.min c).nanos := by
  unfold Duration.min
  split <;> assumption

theorem new {base ceiling : Nat} (some' : 1 ≤ base) (more : 1 ≤ ceiling) (factor : Nat) :
    (Backoff.new (.ofMillis base) (.ofMillis ceiling) factor).Lasting := by
  have first : 0 < (Duration.ofMillis base).nanos := Nat.mul_pos some' (by decide)
  have second : 0 < (Duration.ofMillis ceiling).nanos := Nat.mul_pos more (by decide)
  exact ⟨min_pos first second, first, second, Nat.le_max_right _ _⟩

theorem reset (lasting : b.Lasting) : b.reset.Lasting :=
  { lasting with current := min_pos lasting.base lasting.ceiling }

theorem next (lasting : b.Lasting) : b.next.2.Lasting := by
  refine { lasting with current := min_pos ?_ lasting.ceiling }
  unfold Duration.times?
  split
  · exact Nat.mul_pos lasting.current lasting.factor
  · exact lasting.ceiling

theorem ceilMillis_next_pos (lasting : b.Lasting) : 0 < b.next.1.ceilMillis := by
  have current := lasting.current
  simp only [Backoff.next, Duration.ceilMillis]
  omega

end Lasting

end Time.Backoff

/-- A good is in order if it has one of the first `n` tickets, or waits for a time that counts as
`later`. -/
def Good.Sound (n : Nat) (later : Nat → Prop) : Good → Prop
  | .expire ticket | .conclude ticket => ticket < n
  | .alarm due (.limit ticket) => ticket < n ∨ later due
  | .tracked ticket => ticket < n ∨ ∃ due, later due
  | .loop backoff => backoff.Lasting
  | _ => True

theorem Good.Sound.mono {n m : Nat} {later earlier : Nat → Prop} (more : n ≤ m)
    (wider : ∀ due, later due → earlier due) {g : Good} (sound : g.Sound n later) :
    g.Sound m earlier := by
  unfold Good.Sound at sound ⊢
  split at sound
  · exact Nat.lt_of_lt_of_le sound more
  · exact Nat.lt_of_lt_of_le sound more
  · exact sound.imp (fun given => Nat.lt_of_lt_of_le given more) (wider _)
  · exact sound.imp (fun given => Nat.lt_of_lt_of_le given more) (Exists.imp wider)
  · exact sound
  · trivial

namespace Broker

/-- A frame is written whatever the ledger has. -/
theorem write_withLedger (b : Broker) (ledger : Ledger) (c : Nat) (frame : Wire.Frame) :
    write { b with ledger } c frame =
      ((b.write c frame).1, { (b.write c frame).2 with ledger }) := by
  unfold write
  cases b.clients[c]? with
  | none => rfl
  | some client => cases result : (client.sendFrame frame).1 <;> simp only [result] <;> rfl

/-- All goods in stock have a property if those that are made have it. -/
theorem all_of_worth {b b' : Broker} {P : Good → Prop} (all : ∀ g ∈ b.stock, P g)
    (worth : ∀ price, (∀ g, P g → price g = 0) → b'.worth price ≤ b.worth price) :
    ∀ g ∈ b'.stock, P g := by
  classical
  intro g listed
  by_contra bad
  -- At this price what has the property is free.
  obtain ⟨price, free, dear⟩ : ∃ price : Good → Nat, (∀ g, P g → price g = 0) ∧
      ∀ g, ¬P g → price g = 1 :=
    ⟨fun g => if P g then 0 else 1, fun _ holds => if_pos holds, fun _ fails => if_neg fails⟩
  have made := worth price free
  have nothing : cost price b.stock = 0 := cost_eq_zero fun g listed => free g (all g listed)
  have counted : price g ≤ cost price b'.stock := price_le_cost listed
  rw [dear g bad] at counted
  rw [Broker.worth, Broker.worth, nothing] at made
  omega

theorem Trades.all {b b' : Broker} {spent made : List Good} (trades : Trades b b' spent made)
    {P : Good → Prop} (all : ∀ g ∈ b.stock, P g) (fine : ∀ g ∈ made, P g) :
    ∀ g ∈ b'.stock, P g := by
  refine all_of_worth all fun price free => ?_
  have traded := trades price
  rw [cost_eq_zero fun g listed => free g (fine g listed)] at traded
  omega

/-- All goods in stock are in order: there are no tickets but the first `n`. -/
def Stocked (n : Nat) (b : Broker) : Prop :=
  ∀ g ∈ b.stock, g.Sound n fun _ => False

namespace Stocked

variable {b b' : Broker} {n : Nat}

theorem of_worth (stocked : b.Stocked n)
    (worth : ∀ price, (∀ g, g.Sound n (fun _ => False) → price g = 0) →
      b'.worth price ≤ b.worth price) : b'.Stocked n :=
  all_of_worth stocked worth

theorem of_eq (stocked : b.Stocked n) (worth : ∀ price, b'.worth price = b.worth price) :
    b'.Stocked n :=
  stocked.of_worth fun price _ => Nat.le_of_eq (worth price)

theorem mono {m : Nat} (stocked : b.Stocked n) (more : n ≤ m) : b.Stocked m :=
  fun g listed => (stocked g listed).mono more fun _ => id

theorem given (stocked : b.Stocked n) {p : Tracked} (waits : p ∈ b.ledger.pending) : p.ticket < n :=
  (stocked _ (tracked_mem_stock waits)).resolve_right fun ⟨_, never⟩ => never

theorem rouse (stocked : b.Stocked n) (k : Nat) : (b.rouse k).Stocked n :=
  stocked.of_worth fun price free => by
    have called := b.worth_rouse price k
    rwa [free .work trivial] at called

theorem openGate (stocked : b.Stocked n) (k : Nat) : (b.openGate k).Stocked n :=
  stocked.of_worth fun price free => by
    have called := b.worth_openGate price k
    rwa [free .work trivial] at called

theorem fanOut (stocked : b.Stocked n) (m : CorrelationId) (lanes : List Nat) :
    (b.fanOut m lanes).2.Stocked n :=
  stocked.of_worth fun price free => by
    have spread := b.worth_fanOut price m lanes
    rwa [free .waiting trivial, free .work trivial, Nat.mul_zero] at spread

theorem publish (stocked : b.Stocked n) (m : Store.Message) : (b.publish m).2.Stocked n :=
  stocked.of_worth fun price free => by
    have spread := b.worth_publish price m
    rwa [free .waiting trivial, free .work trivial, Nat.mul_zero] at spread

theorem recoverOne (stocked : b.Stocked n) (report : Recovery) (m : CorrelationId) :
    (b.recoverOne report m).2.Stocked n := by
  unfold Broker.recoverOne
  split
  · exact stocked
  · split
    · exact stocked
    · exact stocked
    · rename_i message depot _
      dsimp only
      split
      · exact stocked
      · have spread := fanOut (b := { b with depot }) stocked m
          (Broker.matching { b with depot } message.route)
        split <;> exact spread

theorem recover (stocked : b.Stocked n) : b.recover.2.Stocked n := by
  have each : ∀ (ids : List CorrelationId) (report : Recovery) {b : Broker}, b.Stocked n →
      (b.recoverEach report ids).2.Stocked n := by
    intro ids
    induction ids with
    | nil => exact fun _ _ stocked => stocked
    | cons m ids ih =>
        intro report b stocked
        have first := stocked.recoverOne report m
        unfold recoverEach
        split <;> rename_i b' went <;> rw [went] at first
        · exact first
        · exact ih _ first
  unfold Broker.recover
  split
  · exact stocked
  · rename_i ids depot _
    exact each ids {} (b := { b with depot }) stocked

theorem write (stocked : b.Stocked n) (c : Nat) (frame : Wire.Frame) :
    (b.write c frame).2.Stocked n :=
  stocked.of_worth fun price free => by
    obtain ⟨written, refused⟩ := b.worth_write price c frame
    by_cases went : (b.write c frame).1 = none
    · rw [written went, free .written trivial]
      exact Nat.le_refl _
    · rw [refused went]

theorem reply (stocked : b.Stocked n) (c : Nat) (id : CorrelationId)
    (result : Except RequestError Unit) : (b.reply c id result).Stocked n := by
  cases result <;> exact stocked.write c _

theorem resolve (stocked : b.Stocked n) (id : CorrelationId) (outcome : Outcome) :
    (b.resolve id outcome).2.Stocked n :=
  stocked.of_worth fun price free => by
    have resolved := b.worth_resolve price id outcome
    rw [cost_eq_zero] at resolved
    · exact resolved
    · intro g made
      obtain ⟨ticket, listed, rfl⟩ := List.mem_map.1 made
      obtain ⟨p, found, rfl⟩ := List.mem_map.1 listed
      exact free _ (stocked.given (Ledger.mem_of_find? (Option.mem_toList.1 found)).1)

/-- A queue may be closed and emptied. -/
theorem modifyQueue (stocked : b.Stocked n) (k : Nat) {f : Queue → Queue}
    (less : ∀ q, (f q).pattern = q.pattern ∧ (f q).pending.length ≤ q.pending.length ∧
      (q.isClosed = true → (f q).isClosed = true)) : (b.modifyQueue k f).Stocked n :=
  stocked.of_worth fun price _ => by
    cases found : b.lanes[k]? with
    | none => exact Nat.le_of_eq (b.worth_modifyLane_of_none price found _)
    | some lane =>
        have moved := b.worth_modifyLane price found fun lane => { lane with queue := f lane.queue }
        obtain ⟨pattern, fewer, closed⟩ := less lane.queue
        have cheaper : cost price ({ lane with queue := f lane.queue } : Lane).goods ≤
            cost price lane.goods := by
          have kept := Nat.mul_le_mul_right (price .waiting) fewer
          cases before : lane.queue.isClosed with
          | true => simp [Lane.goods, before, closed before]
          | false =>
              cases after : (f lane.queue).isClosed with
              | true => simp [Lane.goods, before, after]
              | false =>
                  simp only [Lane.goods, before, after, pattern, Bool.false_eq_true, if_false,
                    cost_cons, cost_waiting]
                  omega
        rw [Broker.modifyQueue]
        omega

theorem strike (stocked : b.Stocked n) (id name : String) : (b.strike id name).Stocked n := by
  unfold Broker.strike
  split
  · exact stocked
  · exact stocked.modifyQueue _ fun _ => ⟨rfl, Nat.le_refl _, fun closed => closed⟩

theorem closeLane (stocked : b.Stocked n) (k : Nat) : (b.closeLane k).Stocked n :=
  (stocked.modifyQueue k (f := Queue.close) fun _ => ⟨rfl, Nat.le_refl _, fun _ => rfl⟩).rouse k

theorem delete (stocked : b.Stocked n) (name : String) : (b.delete name).2.Stocked n := by
  unfold Broker.delete
  split
  · exact stocked
  · rename_i k lane _
    have cleared := (stocked.closeLane k).modifyQueue k
      (f := fun queue => { queue with roster := queue.roster.clear, pending := [] })
      fun _ => ⟨rfl, Nat.zero_le _, fun closed => closed⟩
    refine of_eq cleared fun price => ?_
    rw [worth_releaseEach]
    rfl

theorem declare (stocked : b.Stocked n) (lasting : b.settings.backoff.Lasting)
    (name route : String) : (b.declare name route).2.Stocked n := by
  unfold Broker.declare
  split
  · exact stocked
  · split
    · exact stocked
    · rename_i pattern _
      split
      · split <;> exact stocked
      · refine stocked.of_worth fun price free => ?_
        rw [worth_later]
        simp [worth_eq, Lane.goods, Queue.new, Task.good, free .work trivial,
          free (.board pattern) trivial, free (.loop b.settings.backoff) lasting]

theorem subscribe (stocked : b.Stocked n) (id name : String) (ceiling : Option Nat) :
    (b.subscribe id name ceiling).2.Stocked n := by
  unfold Broker.subscribe
  split
  · exact stocked
  · split
    · exact stocked
    · rename_i session _ _ k lane _
      have enlisted : ∀ (b' : Broker) (roster : Queue.Roster)
          (sessions : Table String Peer.Session), b'.Stocked n →
          Stocked n (Broker.openGate { b'.modifyQueue k (fun queue => { queue with roster }) with
            sessions } k) := by
        intro b' roster sessions stocked'
        have listed := stocked'.modifyQueue k (f := fun queue => { queue with roster })
          fun _ => ⟨rfl, Nat.le_refl _, fun closed => closed⟩
        exact openGate (b := { b'.modifyQueue k (fun queue => { queue with roster }) with
          sessions }) listed k
      cases ceiling with
      | none =>
          dsimp only
          split
          · exact stocked
          · exact enlisted b _ _ stocked
      | some c =>
          dsimp only
          split
          · exact stocked
          · exact enlisted (b.modifyClient session.client _) _ _ stocked

theorem unsubscribe (stocked : b.Stocked n) (id name : String) :
    (b.unsubscribe id name).2.Stocked n := by
  unfold Broker.unsubscribe
  split
  · exact stocked
  · split
    · exact stocked
    · rename_i session _
      exact strike (b := { b with sessions := b.sessions.insert id session }) stocked id name

theorem disconnect (stocked : b.Stocked n) (id : String) : (b.disconnect id).Stocked n := by
  have struck : ∀ (names : List String) {b : Broker}, b.Stocked n →
      (names.foldl (fun b name => b.strike id name) b).Stocked n := by
    intro names
    induction names with
    | nil => exact fun stocked => stocked
    | cons name names ih => exact fun stocked => ih (stocked.strike id name)
  have resolved : ∀ (ids : List CorrelationId) {b : Broker}, b.Stocked n →
      (ids.foldl (fun b d => (b.resolve d (some .sendFailed)).2) b).Stocked n := by
    intro ids
    induction ids with
    | nil => exact fun stocked => stocked
    | cons d ids ih => exact fun stocked => ih (stocked.resolve d _)
  unfold Broker.disconnect
  split
  · exact stocked
  · rename_i session _
    have left := struck session.subscriptions
      (b := { b with sessions := b.sessions.erase id }) stocked
    exact resolved _ (b := Broker.modifyClient _ _ _) left

theorem request (stocked : b.Stocked n) (lasting : b.settings.backoff.Lasting) (connection : String)
    (id : CorrelationId) (body : Wire.Body) : (b.request connection id body).2.Stocked n := by
  cases body with
  | message route payload => exact stocked.publish _
  | subscribe queue ceiling => exact stocked.subscribe _ _ _
  | unsubscribe queue => exact stocked.unsubscribe _ _
  | declare name route => exact stocked.declare lasting _ _
  | delete name => exact stocked.delete _
  | nack reason => exact stocked

theorem handle (stocked : b.Stocked n) (lasting : b.settings.backoff.Lasting)
    (session : Peer.Session) (frame : Wire.Frame) : (b.handle session frame).2.Stocked n := by
  unfold Broker.handle
  split
  · exact stocked.resolve _ _
  · split
    · exact stocked
    · exact stocked.resolve _ _
  · exact stocked.reply _ _ _
  · split
    · exact stocked
    · exact (stocked.request lasting _ _ _).reply _ _ _

theorem shutDown (stocked : b.Stocked n) : b.shutDown.Stocked n :=
  shutDown_induction (P := Stocked n) stocked (fun k stocked => stocked.closeLane k)
    (fun id stocked => stocked.resolve id _) fun _ stocked => stocked

theorem ring (stocked : b.Stocked n) : b.ring.Stocked n := by
  refine b.trades_ring.all stocked fun g made => ?_
  obtain ⟨⟨due, sleeper⟩, ringing, rfl⟩ := List.mem_map.1 made
  have sound := stocked _ (alarm_mem_stock (List.mem_filter.1 ringing).1)
  cases sleeper with
  | worker k => trivial
  | limit ticket =>
      have given : ticket < n := sound.resolve_right id
      exact given

theorem withLedger (stocked : b.Stocked n) {ledger : Ledger}
    (fewer : ledger.pending.Sublist b.ledger.pending) : Stocked n { b with ledger } :=
  stocked.of_worth fun price _ => b.worth_withLedger price ledger fewer

theorem greet (stocked : b.Stocked n) (sound : b.ledger.Sound) (c : Nat) :
    (b.greet c).Stocked n := by
  obtain ⟨ledger, books, pending, -⟩ := books_greet sound c
  have resolved := Stocked.resolve (b := b.mintId.2) stocked b.mintId.1 (some .cancelled)
  have left : (b.greet c).ledger = ledger := congrArg Books.ledger books
  have same : b.greet c = { ((b.mintId.2.resolve b.mintId.1 (some .cancelled)).2.write c
      (.ready b.mintId.1)).2 with ledger } := by
    rw [← left]
    unfold Broker.greet
    dsimp only
    rw [write_withLedger]
    cases failure : ((b.mintId.2.resolve b.mintId.1 (some .cancelled)).2.write c
      (.ready b.mintId.1)).1 <;> rfl
  rw [same]
  refine (resolved.write c _).withLedger ?_
  rw [pending, show ((b.mintId.2.resolve b.mintId.1 (some .cancelled)).2.write c
    (.ready b.mintId.1)).2.ledger = (b.mintId.2.resolve b.mintId.1 (some .cancelled)).2.ledger from
      congrArg Docket.ledger (docket_write _ c _)]

theorem connect (stocked : b.Stocked n) (sound : b.ledger.Sound) (id : String) (link : Peer.Link) :
    (b.connect id link).2.Stocked n := by
  unfold Broker.connect
  dsimp only
  split
  · exact stocked
  · exact greet (b := Broker.announce { b with
      buffers := (Stream.Assembler.new b.buffers b.settings.initialBufferSize
        b.settings.maxBodySize).2
      clients := b.clients ++ [Peer.Client.new id link b.settings.defaultMaxConcurrency]
      sessions := b.sessions.insert id ⟨id, b.clients.length, (Stream.Assembler.new b.buffers
        b.settings.initialBufferSize b.settings.maxBodySize).1, []⟩ } (.connected id)) stocked
          sound _

end Stocked

/-! ## Tasks -/

/-- The goods of a broker without the task at the head of its line are goods of the broker. -/
theorem all_of_pop {b : Broker} {task : Task} {rest : List Task} (line : b.tasks = task :: rest)
    {P : Good → Prop} (all : ∀ g ∈ b.stock, P g) : ∀ g ∈ stock { b with tasks := rest }, P g :=
  all_of_worth all fun price _ => by
    rw [b.worth_pop price line]
    exact Nat.le_add_right _ _

/-- What a task makes of goods in order is in order, if a delivery that is tracked gets one of the
tickets or has time left. -/
theorem Exchange.sound {b : Broker} {task : Task} {spent made : List Good}
    (exchange : b.Exchange task spent made) {n : Nat} {later : Nat → Prop}
    (whole : ∀ g ∈ b.stock, g.Sound n later) (self : task.good.Sound n later)
    (given : ∀ d, task = .send d → b.ledger.issued < n ∨ ∃ due, later due)
    (lasts : ∀ due, later due → later (b.now + b.settings.ackTimeoutMs)) :
    ∀ g ∈ made, g.Sound n later := by
  have copied : ∀ k, ∀ g ∈ copies k, g.Sound n later := by
    intro k g listed
    rcases mem_copies listed with rfl | rfl <;> trivial
  cases exchange with
  | quiet => exact nofun
  | retry found =>
      have lasting : Time.Backoff.Lasting _ := whole _ (loop_mem_stock found)
      simpa [Good.Sound] using lasting.next
  | passOver found | deliver found =>
      have lasting : Time.Backoff.Lasting _ := whole _ (loop_mem_stock found)
      simpa [Good.Sound] using lasting.reset
  | write d | refuse d => simpa [Good.Sound] using given d rfl
  | @arm p waits =>
      have tracked : p.good.Sound n later := whole _ (tracked_mem_stock waits)
      rw [List.forall_mem_singleton]
      exact tracked.imp_right fun ⟨due, late⟩ => lasts due late
  | expire ticket => simpa [Good.Sound, Task.good] using self
  | conclude ticket => simp [Good.Sound]
  | publish tag m => exact copied _
  | resume p => exact copied _

variable {b : Broker} {task : Task} {rest : List Task}

/-- With a store that works and ids of their own for deliveries, the task at the head of the line
makes of the stock what it may make. -/
theorem exchange_task (backed : b.books.Backed 0) (filed : b.docket.Filed) (named : b.docket.Named)
    (line : b.tasks = task :: rest) : ∃ spent made,
      Exchange { b with tasks := rest } task spent made ∧
        Trades b (b.apply .task) (task.good :: spent) made := by
  have unused : ∀ d, task = .send d → ∀ q ∈ b.ledger.pending, q.id ≠ d.id := by
    rintro d rfl
    exact named.unused filed (mem_sends.2 (line ▸ List.mem_cons_self))
  obtain ⟨spent, made, exchange, trades⟩ :=
    exchange_perform (b := { b with tasks := rest }) backed.works unused
  refine ⟨spent, made, exchange, fun price => ?_⟩
  have traded := trades price
  simp only [apply, line, cost_cons, b.worth_pop price line]
  omega

/-- Goods in order are in order after a task. -/
theorem sound_task {n : Nat} {later : Nat → Prop} (whole : ∀ g ∈ b.stock, g.Sound n later)
    (line : b.tasks = task :: rest) {spent made : List Good}
    (exchange : Exchange { b with tasks := rest } task spent made)
    (trades : Trades b (b.apply .task) (task.good :: spent) made)
    (given : ∀ d, task = .send d → b.ledger.issued < n ∨ ∃ due, later due)
    (lasts : ∀ due, later due → later (b.now + b.settings.ackTimeoutMs)) :
    ∀ g ∈ (b.apply .task).stock, g.Sound n later :=
  trades.all whole (exchange.sound (all_of_pop line whole) (whole _ (head_mem_stock line)) given lasts)

/-- A delivery that is written gets a ticket. -/
theorem issued_send (sound : b.ledger.Sound) (d : Delivery) :
    b.ledger.issued < (b.send d).ledger.issued := by
  have resolved : (b.resolve d.id (some .cancelled)).2.ledger =
      (b.ledger.resolve d.id (some .cancelled)).2 :=
    congrArg Docket.ledger (b.docket_resolve d.id (some .cancelled))
  have settles := Ledger.resolve_settles sound d.id (some .cancelled)
  have unused := unused_of_resolve sound d.id (some .cancelled)
  rw [← settles.issued, ← resolved, send_eq]
  rw [← resolved] at settles
  generalize (b.resolve d.id (some .cancelled)).2 = b' at *
  have launched := ledger_launch unused
  have sound' : (b'.launch d).2.ledger.Sound := by
    rw [launched]
    exact (settles.sound sound).append rfl unused
  have tracked : (b'.launch d).2.ledger.issued = b'.ledger.issued + 1 :=
    congrArg Ledger.issued launched
  have dispatched := (leads_dispatch sound' d (b'.launch d).1).issued
  exact Nat.lt_of_lt_of_le (tracked ▸ Nat.lt_succ_self _) dispatched

theorem stocked_task (stocked : b.Stocked b.ledger.issued) (backed : b.books.Backed 0)
    (filed : b.docket.Filed) (named : b.docket.Named) (line : b.tasks = task :: rest) :
    (b.apply .task).Stocked (b.apply .task).ledger.issued := by
  obtain ⟨spent, made, exchange, trades⟩ := exchange_task backed filed named line
  have more : b.ledger.issued ≤ (b.apply .task).ledger.issued :=
    (leads_apply filed.sound .task).issued
  refine sound_task (stocked.mono more) line exchange trades ?_ fun _ => False.elim
  rintro d rfl
  left
  simp only [apply, line]
  exact issued_send (b := { b with tasks := rest }) filed.sound d

/-! ## Lives -/

theorem stocked_apply (stocked : b.Stocked b.ledger.issued) (backed : b.books.Backed 0)
    (filed : b.docket.Filed) (named : b.docket.Named) (lasting : b.settings.backoff.Lasting)
    (m : Move) : (b.apply m).Stocked (b.apply m).ledger.issued := by
  have more : b.ledger.issued ≤ (b.apply m).ledger.issued := (leads_apply filed.sound m).issued
  have enough : (b.apply m).Stocked b.ledger.issued →
      (b.apply m).Stocked (b.apply m).ledger.issued := fun stocked => stocked.mono more
  cases m with
  | connect id link => exact enough (stocked.connect filed.sound id link)
  | disconnect id => exact enough (stocked.disconnect id)
  | feed id data =>
      refine enough ?_
      simp only [apply]
      split <;> exact stocked
  | frame id =>
      refine enough ?_
      simp only [apply]
      split
      · exact stocked
      · rename_i session frame _
        exact Stocked.handle (b := { b with sessions := b.sessions.insert id session }) stocked
          lasting session frame
  | declare name route => exact enough (stocked.declare lasting name route)
  | delete name => exact enough (stocked.delete name)
  | subscribe id name ceiling => exact enough (stocked.subscribe id name ceiling)
  | unsubscribe id name => exact enough (stocked.unsubscribe id name)
  | publish m => exact enough (stocked.publish m)
  | publishLater tag m =>
      refine enough (stocked.of_worth fun price free => ?_)
      rw [apply, worth_later, Task.good, free (.publish m.route) trivial]
      exact Nat.le_refl _
  | recover => exact enough stocked.recover
  | tamper c link => exact enough stocked
  | task =>
      cases line : b.tasks with
      | nil =>
          simp only [apply, line]
          exact stocked
      | cons task rest => exact stocked_task stocked backed filed named line
  | ring => exact enough stocked.ring
  | tick now =>
      refine enough (stocked.of_worth fun price free => ?_)
      simp only [apply, worth_eq, free (.hour _) trivial]
      exact Nat.le_refl _

theorem stocked_live (stocked : b.Stocked b.ledger.issued) (backed : b.books.Backed 0)
    (filed : b.docket.Filed) (named : b.docket.Named) (lasting : b.settings.backoff.Lasting)
    {e : Episode} (spares : e.sparesStore = true) :
    (b.live e).Stocked (b.live e).ledger.issued := by
  cases e with
  | store depot => cases spares
  | shutDown => exact stocked.shutDown.mono (leads_shutDown filed.sound).issued
  | stir s =>
      cases s with
      | move m => exact stocked_apply stocked backed filed named lasting m
      | holdUp holdsUp => cases spares
      | letGo n => cases spares

variable {settings : Settings.Engine} {mint : Nat → CorrelationId} {calendar : Nat}
  {messages : Store.Messages} {start : Broker} {life : List Episode}

/-- Through a whole life with a store in memory all goods in stock are in order. -/
theorem stocked_through
    (started : Broker.new? settings mint calendar (.holding messages) = some start)
    (spares : ∀ e ∈ life, e.sparesStore = true) (fresh : (start.through life).docket.Fresh)
    (base : 1 ≤ settings.backoffBaseMs) (ceiling : 1 ≤ settings.backoffMaxMs) :
    (start.through life).Stocked (start.through life).ledger.issued := by
  induction life using List.reverseRecOn with
  | nil =>
      unfold new? at started
      split at started
      · obtain ⟨buffers, -, rfl⟩ := Option.map_eq_some_iff.1 started
        intro g listed
        rw [List.mem_singleton.1 listed]
        trivial
      · cases started
  | append_singleton life e ih =>
      obtain ⟨before, spared⟩ := List.forall_mem_append.1 spares
      rw [List.forall_mem_singleton] at spared
      have filed : (start.through life).docket.Filed := filed_through started life
      have leads := leads_live filed.sound e
      rw [through_concat] at fresh ⊢
      have earlier : (start.through life).docket.Fresh := fresh.before leads.mint.1 leads.mint.2
      refine stocked_live (ih before earlier) (backed_through started before) filed
        (named_through started earlier) ?_ spared
      rw [settings_through started life]
      exact .new base ceiling settings.backoffFactor

end Broker

end MessageBroker
