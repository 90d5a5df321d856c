import MessageBroker.Proofs.Broker.Docket

/-!
# Stakes are backed

After the shutdown the books are not in balance any more: deliveries that fail then are given up
without a word, and what waits in the queues stays there. What remains true through a whole life, as
long as the store works, is that a message has at least as many references as there are stakes in it
and is stored while it has any. So the content of a message does not change as long as a queue has a
stake in it.
-/

namespace MessageBroker

open Books

namespace Books

/-- A message has a reference for every stake in it, and is stored while it has references. The store
works and holds nothing up. -/
structure Backed (s : Books) (loose : Multiset Stake) : Prop where
  counted : ∀ id, tally id (s.stakes + loose) ≤ (s.references.outstanding id).getD 0
  stored : ∀ id, s.references.outstanding id ≠ none → s.depot.messages.get? id ≠ none
  works : ∀ call, s.depot.failuresOf call = 0
  prompt : s.depot.holdsUp = false
  resumed : s.resumes = []

/-- A step on which some stakes are given up and the others are kept, with their messages. -/
structure Bears (s : Books) (loose given : Multiset Stake) (s' : Books) (loose' : Multiset Stake) :
    Prop where
  backed : s'.Backed loose'
  balance : s'.stakes + loose' + given = s.stakes + loose
  kept : ∀ id, tally id (s'.stakes + loose') ≠ 0 →
    s'.depot.messages.get? id = s.depot.messages.get? id

variable {s s' s'' : Books} {loose loose' loose'' given given' : Multiset Stake}

/-- There is a stake in no message without references. -/
theorem Backed.free (backed : s.Backed loose) {id : CorrelationId}
    (none' : s.references.outstanding id = none) : tally id (s.stakes + loose) = 0 := by
  have counted := backed.counted id
  rw [none'] at counted
  exact Nat.le_zero.1 counted

/-- There is a stake in no message that is not stored. -/
theorem Backed.new (backed : s.Backed loose) {id : CorrelationId}
    (missing : s.depot.messages.get? id = none) : tally id (s.stakes + loose) = 0 := by
  refine backed.free ?_
  by_contra some'
  exact backed.stored id some' missing

namespace Bears

theorem refl (backed : s.Backed loose) : Bears s loose 0 s loose :=
  ⟨backed, add_zero _, fun _ _ => rfl⟩

theorem tally_eq (bears : Bears s loose given s' loose') (id : CorrelationId) :
    tally id (s.stakes + loose) = tally id (s'.stakes + loose') + tally id given := by
  rw [← tally_add, bears.balance]

theorem trans (first : Bears s loose given s' loose') (second : Bears s' loose' given' s'' loose'') :
    Bears s loose (given + given') s'' loose'' where
  backed := second.backed
  balance := by
    rw [← first.balance, ← second.balance]
    abel
  kept := by
    intro id left
    have n := second.tally_eq id
    rw [second.kept id left, first.kept id (by omega)]

/-- A step on which nothing is given up, and what follows it. -/
theorem onward (first : Bears s loose 0 s' loose') (second : Bears s' loose' given s'' loose'') :
    Bears s loose given s'' loose'' := by
  have whole := first.trans second
  rwa [zero_add] at whole

/-- Stakes change their places, or are given up without a reference being released. -/
theorem transfer (backed : s.Backed loose) (same : s'.stakes + loose' + given = s.stakes + loose)
    (references : s'.references = s.references) (depot : s'.depot = s.depot)
    (resumes : s'.resumes = s.resumes) : Bears s loose given s' loose' where
  backed := by
    refine ⟨?_, ?_, ?_, ?_, ?_⟩
    · intro id
      have counted := backed.counted id
      rw [← same, tally_add] at counted
      rw [references]
      exact Nat.le_trans (Nat.le_add_right _ _) counted
    · rw [references, depot]
      exact backed.stored
    · rw [depot]
      exact backed.works
    · rw [depot]
      exact backed.prompt
    · rw [resumes]
      exact backed.resumed
  balance := same
  kept := by
    intro id _
    rw [depot]

/-- Stakes are put on a shelf, or taken from it. -/
theorem shelve (backed : s.Backed loose) {k : Nat} {shelf : Shelf}
    (found : s.shelves[k]? = some shelf) {g : Shelf → Shelf}
    (same : (↑((g shelf).pending.map fun id => (k, id)) : Multiset Stake) + loose' =
      ↑(shelf.pending.map fun id => (k, id)) + loose) :
    Bears s loose 0 { s with shelves := s.shelves.modify k g } loose' := by
  obtain ⟨rest, before, modified⟩ := shelved_modify found 0
  rw [Nat.zero_add] at before modified
  refine transfer backed ?_ rfl rfl rfl
  have now : stakes { s with shelves := s.shelves.modify k g } =
      ↑((g shelf).pending.map fun id => (k, id)) + rest + ↑(s.sends.map Delivery.stake) +
        ↑(s.flights.values.map Delivery.stake) := by
    rw [stakes, modified]
  rw [add_zero, now, stakes, before, add_right_comm _ _ loose, add_right_comm _ _ loose,
    add_right_comm _ _ loose, ← same]
  abel

/-- Deliveries that are going to be written come or go, and so do their stakes. -/
theorem sends (backed : s.Backed loose) {sends : List Delivery}
    (same : (↑(sends.map Delivery.stake) : Multiset Stake) + loose' =
      ↑(s.sends.map Delivery.stake) + loose) (concludes : List Nat) :
    Bears s loose 0 { s with sends, concludes } loose' := by
  refine transfer backed ?_ rfl rfl rfl
  have now : stakes { s with sends, concludes } =
      shelved 0 s.shelves + ↑(sends.map Delivery.stake) + ↑(s.flights.values.map Delivery.stake) :=
    rfl
  rw [add_zero, now, stakes, add_right_comm _ _ loose, add_assoc _ _ loose, ← same]
  abel

/-- Deliveries take off or come to an end. -/
theorem flights (backed : s.Backed loose) {flights : Table Nat Delivery}
    (same : (↑(flights.values.map Delivery.stake) : Multiset Stake) + loose' =
      ↑(s.flights.values.map Delivery.stake) + loose) (ledger : Ledger) (concludes : List Nat) :
    Bears s loose 0 { s with flights, ledger, concludes } loose' := by
  refine transfer backed ?_ rfl rfl rfl
  have now : stakes { s with flights, ledger, concludes } =
      shelved 0 s.shelves + ↑(s.sends.map Delivery.stake) + ↑(flights.values.map Delivery.stake) :=
    rfl
  rw [add_zero, now, stakes, add_assoc, same, ← add_assoc]

/-- What is announced does not matter. -/
theorem announce (backed : s.Backed loose) (events : List Event) :
    Bears s loose 0 { s with events } loose :=
  transfer backed (add_zero _) rfl rfl rfl

end Bears

end Books

namespace Broker

variable {b : Broker} {loose : Multiset Stake}

/-! ## Queues -/

/-- A loose stake in a message is given up with its reference. -/
theorem release_bears {k : Nat} {m : CorrelationId} (backed : b.books.Backed ((k, m) ::ₘ loose)) :
    Bears b.books ((k, m) ::ₘ loose) {(k, m)} (b.release m).books loose := by
  have tallies : ∀ id, tally id (b.books.stakes + ((k, m) ::ₘ loose)) =
      tally id (b.books.stakes + loose) + if m = id then 1 else 0 := by
    intro id
    rw [Multiset.add_cons, tally_cons]
  have balance : b.books.stakes + loose + {(k, m)} = b.books.stakes + ((k, m) ::ₘ loose) := by
    rw [Multiset.add_cons, add_comm, Multiset.singleton_add]
  have own := backed.counted m
  rw [tallies, if_pos rfl] at own
  cases count : b.references.counts.get? m with
  | none =>
      rw [show b.books.references.outstanding m = none from count] at own
      exact absurd own (Nat.not_succ_le_zero _)
  | some n =>
    rw [show b.books.references.outstanding m = some n from count, Option.getD_some] at own
    match n with
    | 0 => exact absurd own (Nat.not_succ_le_zero _)
    | 1 =>
        have last : tally m (b.books.stakes + loose) = 0 := by omega
        rw [books_release_last count backed.works]
        refine ⟨⟨?_, ?_, backed.works, backed.prompt, backed.resumed⟩, balance, ?_⟩
        · intro id
          change tally id (b.books.stakes + loose) ≤ ((b.references.counts.erase m).get? id).getD 0
          rw [Table.get?_erase]
          split
          · rename_i same
            rw [same, last]
            exact Nat.zero_le _
          · have counted := backed.counted id
            rw [tallies] at counted
            exact Nat.le_trans (Nat.le_add_right _ _) counted
        · intro id
          change (b.references.counts.erase m).get? id ≠ none →
            (b.depot.messages.byId.erase m).get? id ≠ none
          rw [Table.get?_erase, Table.get?_erase]
          split
          · exact fun none' => absurd rfl none'
          · exact backed.stored id
        · intro id left
          change (b.depot.messages.byId.erase m).get? id = _
          have other : id ≠ m := by
            rintro rfl
            exact left last
          rw [Table.get?_erase, if_neg other]
          rfl
    | n + 2 =>
        rw [books_release_more count]
        refine ⟨⟨?_, ?_, backed.works, backed.prompt, backed.resumed⟩, balance, fun _ _ => rfl⟩
        · intro id
          change tally id (b.books.stakes + loose) ≤
            ((b.references.counts.insert m (n + 1)).get? id).getD 0
          rw [Table.get?_insert]
          split
          · rename_i same
            rw [same]
            exact Nat.le_of_succ_le_succ own
          · have counted := backed.counted id
            rw [tallies] at counted
            exact Nat.le_trans (Nat.le_add_right _ _) counted
        · intro id
          change (b.references.counts.insert m (n + 1)).get? id ≠ none → _
          rw [Table.get?_insert]
          split
          · rename_i same
            rw [same]
            exact fun _ => backed.stored m (by
              rw [show b.books.references.outstanding m = some (n + 2) from count]
              exact Option.some_ne_none _)
          · exact backed.stored id

/-- A loose stake goes to the shelf of its queue, which is open. -/
theorem shelve_bears {s : Books} {k : Nat} {m : CorrelationId}
    (backed : s.Backed ((k, m) ::ₘ loose)) (opened : s.isOpen k = true) {g : Shelf → Shelf}
    (adds : ∀ shelf, ((g shelf).pending : Multiset CorrelationId) = m ::ₘ ↑shelf.pending) :
    Bears s ((k, m) ::ₘ loose) 0 { s with shelves := s.shelves.modify k g } loose := by
  obtain ⟨shelf, found, -⟩ := isOpen_iff.1 opened
  refine .shelve backed found ?_
  rw [← Multiset.map_coe, adds, Multiset.map_cons, Multiset.map_coe, Multiset.cons_add,
    Multiset.add_cons]

/-- An open queue takes a message back; a closed one settles it. -/
theorem requeue_bears {k : Nat} {m : CorrelationId} (backed : b.books.Backed ((k, m) ::ₘ loose)) :
    ∃ given, Bears b.books ((k, m) ::ₘ loose) given (b.requeue k m).books loose := by
  obtain ⟨b', books, requeued⟩ := b.requeue_eq k m
  rw [requeued]
  cases opened : b.books.isOpen k with
  | true =>
      simp only [opened, if_true] at books ⊢
      rw [books]
      exact ⟨0, shelve_bears backed opened fun _ => rfl⟩
  | false =>
      simp only [opened, Bool.false_eq_true, if_false] at books ⊢
      rw [← books] at backed ⊢
      exact ⟨_, release_bears backed⟩

/-- A queue gives up its stakes in several messages, one after the other. -/
theorem releaseEach_bears {k : Nat} {ids : List CorrelationId}
    (backed : b.books.Backed (↑(ids.map fun m => (k, m)) + loose)) :
    Bears b.books (↑(ids.map fun m => (k, m)) + loose) ↑(ids.map fun m => (k, m))
      (ids.foldl release b).books loose := by
  induction ids generalizing b with
  | nil =>
      rw [List.map_nil, Multiset.coe_nil, zero_add] at backed ⊢
      exact .refl backed
  | cons m ids ih =>
      have whole : (↑((m :: ids).map fun m => (k, m)) : Multiset Stake) + loose =
          (k, m) ::ₘ (↑(ids.map fun m => (k, m)) + loose) := by
        rw [List.map_cons, ← Multiset.cons_coe, Multiset.cons_add]
      rw [whole] at backed ⊢
      have first := release_bears backed
      have rest := ih first.backed
      rw [List.map_cons, ← Multiset.cons_coe, ← Multiset.singleton_add]
      exact first.trans rest

/-- A queue that is declared begins without stakes. -/
theorem declare_bears (backed : b.books.Backed loose) (name route : String) :
    Bears b.books loose 0 (b.declare name route).2.books loose := by
  unfold declare
  split
  · exact .refl backed
  · split
    · exact .refl backed
    · rename_i pattern _
      split
      · split <;> exact .refl backed
      · rw [books_later_work]
        refine .transfer backed ?_ rfl rfl rfl
        have same : shelved 0 (b.books.shelves ++ [⟨false, []⟩]) = shelved 0 b.books.shelves := by
          rw [shelved_append, List.map_nil, Multiset.coe_nil, add_zero]
        rw [stakes, add_zero, show (Broker.books { b with
          lanes := b.lanes ++ [⟨Queue.new name pattern, b.settings.backoff, .due⟩] }).shelves =
          b.books.shelves ++ [⟨false, []⟩] from List.map_append, same]
        rfl

/-- A queue that is deleted gives up the stakes that wait in it. -/
theorem delete_bears (backed : b.books.Backed loose) (name : String) :
    ∃ given, Bears b.books loose given (b.delete name).2.books loose := by
  rcases b.delete_cases name with ⟨-, same⟩ | ⟨k, lane, b', -, shelf, closed, same⟩
  · rw [same]
    exact ⟨0, .refl backed⟩
  · have first : Bears b.books loose 0
        { b.books with shelves := b.books.shelves.modify k Shelf.abolish }
        (↑(lane.queue.pending.map fun m => (k, m)) + loose) := by
      refine .shelve backed shelf ?_
      rw [Shelf.abolish, List.map_nil, Multiset.coe_nil, zero_add]
      rfl
    rw [← closed] at first
    rw [same]
    exact ⟨_, first.onward (releaseEach_bears first.backed)⟩

/-! ## Workers -/

/-- What a worker has taken from its queue goes on its way to a subscriber. -/
theorem sendOff_bears {k c : Nat} {m : CorrelationId} (backed : b.books.Backed ((k, m) ::ₘ loose)) :
    Bears b.books ((k, m) ::ₘ loose) 0 (b.sendOff k c m).2.books loose := by
  have held : tally m (b.books.stakes + ((k, m) ::ₘ loose)) ≠ 0 :=
    tally_pos.2 ⟨(k, m), Multiset.mem_add.2 (.inr (Multiset.mem_cons_self _ _)), rfl⟩
  obtain ⟨message, stored⟩ : ∃ message, b.books.depot.messages.get? m = some message :=
    Option.ne_none_iff_exists'.1 fun missing => held (backed.new missing)
  rw [books_sendOff backed.works stored]
  refine .sends backed ?_ _
  rw [List.map_append, ← Multiset.coe_add, Multiset.add_cons]
  change _ + {(k, m)} + loose = _
  rw [add_assoc, Multiset.singleton_add, Multiset.add_cons]

/-- An attempt of a worker moves at most the stake at the head of its queue. -/
theorem offer_bears (backed : b.books.Backed loose) (k : Nat) :
    Bears b.books loose 0 (b.offer k).2.books loose := by
  rcases b.offer_cases k with same | ⟨shelf, m, rest, c, b', found, pending, popped, same⟩
  · rw [same]
    exact .refl backed
  · have taken : Bears b.books loose 0
        { b.books with shelves := b.books.shelves.modify k Shelf.behead } ((k, m) ::ₘ loose) := by
      refine .shelve backed found ?_
      simp only [Shelf.behead, pending, List.tail_cons, List.map_cons]
      rw [← Multiset.cons_coe, Multiset.cons_add, Multiset.add_cons]
    rw [← popped] at taken
    rw [same]
    exact taken.onward (sendOff_bears taken.backed)

theorem work_bears (backed : b.books.Backed loose) (k : Nat) :
    Bears b.books loose 0 (b.work k).books loose := by
  rcases b.work_cases k with same | ⟨b', books, same⟩
  · rw [same]
    exact .refl backed
  · rw [same]
    rw [← books] at backed ⊢
    exact offer_bears backed k

/-! ## Deliveries -/

theorem resolve_bears (backed : b.books.Backed loose) (id : CorrelationId) (outcome : Outcome) :
    Bears b.books loose 0 (b.resolve id outcome).2.books loose := by
  rw [books_resolve]
  exact .flights backed rfl _ _

theorem resolveEach_bears (backed : b.books.Backed loose) (outcome : Outcome)
    (ids : List CorrelationId) :
    Bears b.books loose 0
      (ids.foldl (fun b id => (b.resolve id outcome).2) b).books loose := by
  induction ids generalizing b with
  | nil => exact .refl backed
  | cons id ids ih =>
      have first := resolve_bears backed id outcome
      exact first.onward (ih first.backed)

theorem expire_bears (backed : b.books.Backed loose) (ticket : Nat) :
    Bears b.books loose 0 (b.expire ticket).books loose := by
  rw [books_expire]
  exact .flights backed rfl _ _

/-- A delivery that is over gives its stake up or takes it back to its queue. After the shutdown the
stake of one that failed is given up, and the reference stays. -/
theorem follow_bears {d : Delivery} (backed : b.books.Backed (d.stake ::ₘ loose)) (outcome : Outcome) :
    ∃ given, Bears b.books (d.stake ::ₘ loose) given (b.follow d outcome).books loose := by
  have told : ∀ e : Event,
      Bears b.books (d.stake ::ₘ loose) 0 (b.announce e).books (d.stake ::ₘ loose) := by
    intro e
    rw [books_announce]
    exact .announce backed _
  have settled : ∀ e : Event, ∃ given,
      Bears b.books (d.stake ::ₘ loose) given ((b.announce e).release d.message).books loose := by
    intro e
    have first := told e
    exact ⟨_, first.onward (release_bears first.backed)⟩
  unfold follow
  split
  · exact settled _
  · exact settled _
  · rename_i failure _
    have first := told (.deliveryFailed d.message (b.queueName d.lane) failure.message)
    dsimp only
    split
    · refine ⟨{d.stake}, first.onward (.transfer first.backed ?_ rfl rfl rfl)⟩
      rw [Multiset.add_cons, add_comm, Multiset.singleton_add]
    · obtain ⟨given, rest⟩ := requeue_bears (k := d.lane) (m := d.message) first.backed
      exact ⟨given, first.onward rest⟩

theorem conclude_bears (backed : b.books.Backed loose) (keys : b.flights.keys.Nodup) (ticket : Nat) :
    ∃ given, Bears b.books loose given (b.conclude ticket).books loose := by
  unfold conclude
  cases flown : b.flights.get? ticket with
  | none => exact ⟨0, .refl backed⟩
  | some d =>
      dsimp only
      cases collected : b.ledger.collect ticket with
      | mk outcome? ledger =>
        cases outcome? with
        | none => exact ⟨0, .refl backed⟩
        | some outcome =>
            have erased : Bears b.books loose 0
                { b.books with
                  flights := b.flights.erase ticket
                  ledger := (b.ledger.collect ticket).2
                  concludes := b.books.concludes } (d.stake ::ₘ loose) := by
              refine .flights backed ?_ _ _
              have values : (b.flights.values.map Delivery.stake).Perm
                  (d.stake :: (b.flights.erase ticket).values.map Delivery.stake) :=
                (Table.values_perm_erase keys flown).map _
              change _ = (↑(b.flights.values.map Delivery.stake) : Multiset Stake) + loose
              rw [Multiset.coe_eq_coe.2 values, ← Multiset.cons_coe, Multiset.cons_add,
                Multiset.add_cons]
            have now := b.books_ending d ticket
            rw [collected] at now erased
            rw [← now] at erased
            obtain ⟨given, rest⟩ := follow_bears erased.backed outcome
            exact ⟨given, erased.onward rest⟩

/-- A delivery that is tracked takes its stake with it. -/
theorem launch_bears {d : Delivery} (backed : b.books.Backed (d.stake ::ₘ loose))
    (issued : ∀ n ∈ b.flights.keys, n < b.ledger.issued)
    (unused : ∀ q ∈ b.ledger.pending, q.id ≠ d.id) :
    Bears b.books (d.stake ::ₘ loose) 0 (b.launch d).2.books loose := by
  rw [books_launch, launch_fst unused]
  refine .flights backed ?_ _ _
  have new : (b.trackedAs d).ticket ∉ b.flights.keys := by
    intro flown
    exact Nat.lt_irrefl _ (issued _ flown)
  rw [Table.values_insert new, List.map_append, ← Multiset.coe_add, add_assoc]
  rfl

theorem dispatch_bears (backed : b.books.Backed loose) (keys : b.flights.keys.Nodup) (d : Delivery)
    (ticket : Nat) : ∃ given, Bears b.books loose given (b.dispatch d ticket).books loose := by
  have books := b.books_write d.client d.frame
  unfold dispatch
  split <;> rename_i b' went <;> rw [went] at books <;> rw [← books] at backed ⊢
  · exact ⟨0, .flights backed rfl _ _⟩
  · have failed : Bears b'.books loose 0
        (Broker.books { b' with ledger := (b'.ledger.unwritten d.id).2 }) loose :=
      .flights backed rfl _ _
    rw [show b.flights = b'.flights from (congrArg Books.flights books).symm] at keys
    obtain ⟨given, rest⟩ := conclude_bears failed.backed keys ticket
    exact ⟨given, failed.onward rest⟩

/-- A delivery that is written is tracked first. -/
theorem send_bears {d : Delivery} (backed : b.books.Backed (d.stake ::ₘ loose))
    (filed : b.docket.Filed) : ∃ given, Bears b.books (d.stake ::ₘ loose) given (b.send d).books loose := by
  have replaced := resolve_bears backed d.id (some .cancelled)
  have unused := unused_of_resolve filed.sound d.id (some .cancelled)
  have filed' : (b.resolve d.id (some .cancelled)).2.docket.Filed :=
    (leads_resolve filed.sound d.id (some .cancelled)).filed filed
  rw [send_eq]
  generalize (b.resolve d.id (some .cancelled)).2 = b' at *
  have tracked := launch_bears replaced.backed filed'.issued unused
  have keys : (b'.launch d).2.flights.keys.Nodup := Table.nodup_keys_insert filed'.keys _ _
  obtain ⟨given, rest⟩ := dispatch_bears tracked.backed keys d (b'.launch d).1
  exact ⟨given, (replaced.onward tracked).onward rest⟩

/-! ## Connections -/

theorem greet_bears (backed : b.books.Backed loose) (sound : b.ledger.Sound) (c : Nat) :
    Bears b.books loose 0 (b.greet c).books loose := by
  obtain ⟨ledger, books, -⟩ := books_greet sound c
  have replaced := resolve_bears (b := b.mintId.2) backed b.mintId.1 (some .cancelled)
  rw [books]
  exact replaced.onward (.flights replaced.backed rfl ledger _)

theorem connect_bears (backed : b.books.Backed loose) (sound : b.ledger.Sound) (id : String)
    (link : Peer.Link) : Bears b.books loose 0 (b.connect id link).2.books loose := by
  unfold connect
  dsimp only
  split
  · exact .refl backed
  · have told : Bears b.books loose 0
        { b.books with events := .connected id :: b.books.events } loose := .announce backed _
    exact told.onward (greet_bears (b := Broker.announce { b with
        buffers := (Stream.Assembler.new b.buffers b.settings.initialBufferSize
          b.settings.maxBodySize).2
        clients := b.clients ++ [Peer.Client.new id link b.settings.defaultMaxConcurrency]
        sessions := b.sessions.insert id ⟨id, b.clients.length, (Stream.Assembler.new b.buffers
          b.settings.initialBufferSize b.settings.maxBodySize).1, []⟩ } (.connected id))
      told.backed sound b.clients.length)

theorem disconnect_bears (backed : b.books.Backed loose) (id : String) :
    Bears b.books loose 0 (b.disconnect id).books loose := by
  rcases b.books_disconnect id with same | ⟨b', ids, books, same⟩
  · rw [same]
    exact .refl backed
  · rw [same]
    rw [← books] at backed ⊢
    have first := resolveEach_bears backed (some .sendFailed) ids
    exact first.onward (.announce first.backed _)

end Broker

end MessageBroker
