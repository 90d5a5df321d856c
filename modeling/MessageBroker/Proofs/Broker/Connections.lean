import MessageBroker.Proofs.Broker.Deliveries

/-!
# What connections do to deliveries

To greet a client takes a ticket of which nothing is left afterwards. A connection that ends settles
its deliveries, none of them by the word of its peer.
-/

namespace MessageBroker

open Books Cargo

namespace Ledger

variable {l : Ledger}

/-- Of a send that is tracked, settled and collected nothing is left but its ticket. -/
theorem collect_settle_append (sound : l.Sound) {p : Tracked} (ticket : p.ticket = l.issued)
    (outcome : Outcome) {r : Ledger}
    (collected : r = ((settle { l with
      pending := l.pending ++ [p]
      issued := l.issued + 1 } p outcome).collect p.ticket).2) :
    r.pending = l.pending ∧ r.issued = l.issued + 1 ∧
      ∀ n, r.outcomes.get? n = l.outcomes.get? n := by
  obtain ⟨pending, issued, outcomes⟩ := collect_snd (settle { l with
    pending := l.pending ++ [p]
    issued := l.issued + 1 } p outcome) p.ticket
  rw [collected]
  refine ⟨?_, issued, ?_⟩
  · have others : l.pending.filter (fun q => q.ticket ≠ p.ticket) = l.pending := by
      rw [List.filter_eq_self]
      intro q waits
      rw [ticket]
      simpa using Nat.ne_of_lt (sound.issued q waits)
    rw [pending, settle, List.filter_append, others]
    simp
  · intro n
    rw [outcomes, settle, Table.get?_insert]
    by_cases same : n = p.ticket
    · rw [if_pos same, same, ticket, sound.fresh _ (Nat.le_refl _)]
    · rw [if_neg same, if_neg same]

/-- A send that need not wait for its peer is settled when it is written, or is not written. -/
theorem find?_setUp (sound : l.Sound) {id : CorrelationId} (unused : ∀ q ∈ l.pending, q.id ≠ id)
    (awaitsPeer : Bool) :
    (l.setUp id awaitsPeer).2.find? id = some ⟨id, l.issued, awaitsPeer⟩ := by
  rw [setUp_of_unused unused]
  exact (sound.append (p := ⟨id, l.issued, awaitsPeer⟩) rfl unused).find?_eq
    (List.mem_append_right _ List.mem_cons_self)

end Ledger

namespace Broker

variable {b : Broker} {loose : Multiset Stake} {answered : List Nat} {resumes : List Publication}
  {down : Bool}

/-- Of a greeting nothing is left in the books but that its ticket was used. -/
theorem books_greet (sound : b.ledger.Sound) (c : Nat) :
    let b' := (b.mintId.2.resolve b.mintId.1 (some .cancelled)).2
    ∃ ledger : Ledger, (b.greet c).books = { b'.books with ledger } ∧
      ledger.pending = b'.ledger.pending ∧ ledger.issued = b'.ledger.issued + 1 ∧
      ∀ n, ledger.outcomes.get? n = b'.ledger.outcomes.get? n := by
  have unused := unused_of_resolve (b := b.mintId.2) sound b.mintId.1 (some .cancelled)
  have sound' : (b.mintId.2.resolve b.mintId.1 (some .cancelled)).2.ledger.Sound := by
    rw [show (b.mintId.2.resolve b.mintId.1 (some .cancelled)).2.ledger = _ from
      congrArg Books.ledger (b.mintId.2.books_resolve b.mintId.1 _)]
    exact (Ledger.resolve_settles (l := b.mintId.2.ledger) sound _ _).sound sound
  unfold greet
  dsimp only
  generalize b.mintId.1 = greeting at *
  generalize (b.mintId.2.resolve greeting (some .cancelled)).2 = b' at *
  have tracked := Ledger.setUp_of_unused unused false
  have found := Ledger.find?_setUp sound' unused false
  have books := books_write { b' with ledger := (b'.ledger.setUp greeting false).2 } c
    (.ready greeting)
  have ticket : (b'.ledger.setUp greeting false).1 = b'.ledger.issued :=
    congrArg Prod.fst tracked
  rw [ticket]
  generalize write { b' with ledger := (b'.ledger.setUp greeting false).2 } c
    (.ready greeting) = written at books ⊢
  obtain ⟨failure, b''⟩ := written
  dsimp only at books ⊢
  have ledger : b''.ledger = (b'.ledger.setUp greeting false).2 := congrArg Books.ledger books
  -- Whatever settles the greeting, what is left of it is collected.
  have ended : ∀ outcome,
      let left := ((b''.ledger.settle ⟨greeting, b'.ledger.issued, false⟩ outcome).collect
        b'.ledger.issued).2
      Broker.books { b'' with ledger := left } = { b'.books with ledger := left } ∧
        left.pending = b'.ledger.pending ∧ left.issued = b'.ledger.issued + 1 ∧
        ∀ n, left.outcomes.get? n = b'.ledger.outcomes.get? n := by
    intro outcome left
    refine ⟨?_, ?_⟩
    · change { b''.books with ledger := left } = _
      rw [books]
      rfl
    · refine Ledger.collect_settle_append sound' (p := ⟨greeting, b'.ledger.issued, false⟩) rfl
        outcome ?_
      change ((b''.ledger.settle _ outcome).collect _).2 = _
      rw [ledger, tracked]
  cases failure with
  | none =>
      have settled : (b''.ledger.written greeting).2 =
          b''.ledger.settle ⟨greeting, b'.ledger.issued, false⟩ none := by
        rw [Ledger.written, ledger, found]
        rfl
      dsimp only
      rw [settled]
      exact ⟨_, ended none⟩
  | some e =>
      have settled : (b''.ledger.unwritten greeting).2 =
          b''.ledger.settle ⟨greeting, b'.ledger.issued, false⟩ (some .sendFailed) := by
        rw [Ledger.unwritten, Ledger.resolve, ledger, found]
      dsimp only
      rw [settled]
      exact ⟨_, ended (some .sendFailed)⟩

/-- A client is greeted. -/
theorem greet_aloft (aloft : b.books.cargo.Aloft [] answered resumes down) (c : Nat) :
    (b.greet c).books.cargo.Aloft [] answered resumes down := by
  obtain ⟨ledger, books, pending, issued, outcomes⟩ := books_greet aloft.tracked c
  have aloft' := resolve_aloft_of_failure (b := b.mintId.2) aloft b.mintId.1
    (show Outcome.isAnswer (some .cancelled) = false from rfl)
  rw [books]
  exact aloft'.spend pending issued outcomes

theorem greet_passage (balanced : b.books.Balanced loose) (sound : b.ledger.Sound) (c : Nat) :
    Passage b.books loose 0 (b.greet c).books loose := by
  obtain ⟨ledger, books, -⟩ := books_greet sound c
  have replaced := resolve_passage (b := b.mintId.2) balanced b.mintId.1 (some .cancelled)
  rw [books]
  exact replaced.onward (.flights replaced.balanced rfl ledger _)

/-- A connection is registered, unless its id is taken. -/
theorem connect_aloft (aloft : b.books.cargo.Aloft [] answered resumes down) (id : String)
    (link : Peer.Link) : (b.connect id link).2.books.cargo.Aloft [] answered resumes down := by
  unfold connect
  dsimp only
  split
  · exact aloft
  · exact greet_aloft (b := Broker.announce { b with
      buffers := (Stream.Assembler.new b.buffers b.settings.initialBufferSize
        b.settings.maxBodySize).2
      clients := b.clients ++ [Peer.Client.new id link b.settings.defaultMaxConcurrency]
      sessions := b.sessions.insert id ⟨id, b.clients.length, (Stream.Assembler.new b.buffers
        b.settings.initialBufferSize b.settings.maxBodySize).1, []⟩ } (.connected id)) aloft _

theorem connect_passage (balanced : b.books.Balanced loose) (sound : b.ledger.Sound) (id : String)
    (link : Peer.Link) : Passage b.books loose 0 (b.connect id link).2.books loose := by
  unfold connect
  dsimp only
  split
  · exact .refl balanced
  · have told : Passage b.books loose 0
        { b.books with events := .connected id :: b.books.events } loose :=
      .announce balanced fun _ about => absurd about (Option.some_ne_none _).symm
    have passage := greet_passage (b := Broker.announce { b with
        buffers := (Stream.Assembler.new b.buffers b.settings.initialBufferSize
          b.settings.maxBodySize).2
        clients := b.clients ++ [Peer.Client.new id link b.settings.defaultMaxConcurrency]
        sessions := b.sessions.insert id ⟨id, b.clients.length, (Stream.Assembler.new b.buffers
          b.settings.initialBufferSize b.settings.maxBodySize).1, []⟩ } (.connected id))
      told.balanced sound b.clients.length
    exact told.onward passage

theorem resolveEach_aloft (aloft : b.books.cargo.Aloft [] answered resumes down) {outcome : Outcome}
    (failed : outcome.isAnswer = false) (ids : List CorrelationId) :
    (ids.foldl (fun b id => (b.resolve id outcome).2) b).books.cargo.Aloft [] answered
      resumes down := by
  induction ids generalizing b with
  | nil => exact aloft
  | cons id ids ih => exact ih (resolve_aloft_of_failure aloft id failed)

theorem resolveEach_passage (balanced : b.books.Balanced loose) (outcome : Outcome)
    (ids : List CorrelationId) :
    Passage b.books loose 0
      (ids.foldl (fun b id => (b.resolve id outcome).2) b).books loose := by
  induction ids generalizing b with
  | nil => exact .refl balanced
  | cons id ids ih =>
      have first := resolve_passage balanced id outcome
      exact first.onward (ih first.balanced)

/-- A connection that ends is struck off, and then its deliveries are resolved. -/
theorem books_disconnect (b : Broker) (id : String) : (b.disconnect id).books = b.books ∨
    ∃ (b' : Broker) (ids : List CorrelationId), b'.books = b.books ∧
      (b.disconnect id).books =
        ((ids.foldl (fun b id => (b.resolve id (some .sendFailed)).2) b').announce
          (.disconnected id)).books := by
  unfold disconnect
  cases b.sessions.get? id with
  | none => exact .inl rfl
  | some session =>
      have struck : ∀ (names : List String) (b : Broker),
          (names.foldl (fun b name => b.strike id name) b).books = b.books := by
        intro names
        induction names with
        | nil => exact fun _ => rfl
        | cons name names ih => exact fun b => (ih _).trans (b.books_strike id name)
      refine .inr ⟨modifyClient (session.subscriptions.foldl (fun b name => b.strike id name)
        { b with sessions := b.sessions.erase id }) session.client
          fun client => client.takeDeliveries.2, _, ?_, rfl⟩
      rw [books_modifyClient, struck]
      rfl

/-- A connection that ends gives nothing up: its deliveries count as not sent. -/
theorem disconnect_aloft (aloft : b.books.cargo.Aloft [] answered resumes down) (id : String) :
    (b.disconnect id).books.cargo.Aloft [] answered resumes down := by
  rcases b.books_disconnect id with same | ⟨b', ids, books, same⟩
  · rw [same]
    exact aloft
  · rw [same]
    rw [← books] at aloft
    exact resolveEach_aloft aloft (show Outcome.isAnswer (some .sendFailed) = false from rfl) ids

theorem disconnect_passage (balanced : b.books.Balanced loose) (id : String) :
    Passage b.books loose 0 (b.disconnect id).books loose := by
  rcases b.books_disconnect id with same | ⟨b', ids, books, same⟩
  · rw [same]
    exact .refl balanced
  · rw [same]
    rw [← books] at balanced ⊢
    have passage := resolveEach_passage balanced (some .sendFailed) ids
    have told := Passage.announce (e := .disconnected id) passage.balanced
      fun _ about => absurd about (Option.some_ne_none _).symm
    exact passage.onward told

end Broker

end MessageBroker
