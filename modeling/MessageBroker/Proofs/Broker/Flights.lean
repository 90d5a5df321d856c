import MessageBroker.Proofs.Broker.Books
import MessageBroker.Proofs.Ledger.Settling
import MessageBroker.Proofs.Table

/-!
# Deliveries on their way

A delivery is on its way from the time it is tracked until it is concluded. As long as it waits for
an outcome the ledger has its ticket; as soon as it has one, the line has a task that concludes it.
No delivery gets stuck between the two, and what its peer has answered does not change any more.
-/

namespace MessageBroker

/-- Whether an outcome is the word of the peer. -/
def Outcome.isAnswer : Outcome → Bool
  | none | some (.rejected _) => true
  | some .sendFailed | some .timedOut | some .cancelled => false

/-- What a broker keeps about deliveries on their way. -/
structure Cargo where
  flights : Table Nat Delivery
  ledger : Ledger
  concludes : List Nat
  resumes : List Publication
  isShutDown : Bool

/-- What the books show about deliveries on their way. -/
def Books.cargo (s : Books) : Cargo :=
  ⟨s.flights, s.ledger, s.concludes, s.resumes, s.isShutDown⟩

namespace Cargo

/-- Deliveries are on their way in good order while those with certain tickets are being concluded:
each has a ticket of its own and either waits for its outcome or is going to be concluded. The
tickets that a peer has answered are known, the publications that the store has let go, and whether
the broker is shut down. -/
structure Aloft (c : Cargo) (landing answered : List Nat) (resumes : List Publication := [])
    (down : Bool := false) : Prop where
  tracked : c.ledger.Sound
  keys : c.flights.keys.Nodup
  issued : ∀ n ∈ c.flights.keys, n < c.ledger.issued
  due : ∀ n ∈ c.flights.keys, c.ledger.isWaiting n = false → n ∈ c.concludes ++ landing
  ended : ∀ n ∈ c.concludes ++ landing, n < c.ledger.issued ∧ c.ledger.isWaiting n = false
  answers : ∀ n ∈ c.flights.keys,
    (c.ledger.reading n).any Outcome.isAnswer = true ↔ n ∈ answered
  known : ∀ n ∈ answered, n < c.ledger.issued
  kept : c.isShutDown = down
  resumed : c.resumes = resumes

namespace Aloft

variable {c : Cargo} {landing answered : List Nat} {resumes : List Publication} {down : Bool}

/-- As long as a delivery waits, its peer has not answered. -/
theorem unanswered (aloft : c.Aloft landing answered resumes down) {p : Tracked}
    (waits : p ∈ c.ledger.pending) (flown : p.ticket ∈ c.flights.keys) : p.ticket ∉ answered := by
  rw [← aloft.answers _ flown, aloft.tracked.reading_of_mem waits]
  exact Bool.false_ne_true

/-- Deliveries that are settled are going to be concluded, or are being concluded. -/
theorem settle (aloft : c.Aloft landing answered resumes down) {verdict : Tracked → Option Outcome}
    {ledger : Ledger} (settles : c.ledger.Settles verdict ledger)
    (settled landing' heard : List Nat)
    (old : ∀ n ∈ landing, n ∈ settled ++ landing')
    (new : ∀ n ∈ settled ++ landing',
      n ∈ landing ∨ ∃ p ∈ c.ledger.pending, p.ticket = n ∧ verdict p ≠ none)
    (listed : ∀ p ∈ c.ledger.pending, verdict p ≠ none → p.ticket ∈ settled ++ landing')
    (hears : ∀ p ∈ c.ledger.pending,
      p.ticket ∈ heard ↔ (verdict p).any Outcome.isAnswer = true)
    (waited : ∀ n ∈ heard, c.ledger.isWaiting n = true) :
    Aloft { c with ledger, concludes := c.concludes ++ settled } landing' (answered ++ heard)
      resumes down where
  tracked := settles.sound aloft.tracked
  keys := aloft.keys
  issued := by
    intro n flown
    rw [settles.issued]
    exact aloft.issued n flown
  due := by
    intro n flown ended
    rw [List.append_assoc]
    cases before : c.ledger.isWaiting n with
    | false =>
        rcases List.mem_append.1 (aloft.due n flown before) with due | lands
        · exact List.mem_append_left _ due
        · exact List.mem_append_right _ (old n lands)
    | true =>
        obtain ⟨p, waits, rfl⟩ := Ledger.isWaiting_iff.1 before
        refine List.mem_append_right _ (listed p waits ?_)
        intro spared
        have still := Ledger.isWaiting_iff.2 ⟨p, settles.mem_pending.2 ⟨waits, spared⟩, rfl⟩
        rw [ended] at still
        exact Bool.false_ne_true still
  ended := by
    intro n due
    rw [List.append_assoc, List.mem_append] at due
    have stays : ∀ n, c.ledger.isWaiting n = false → ledger.isWaiting n = false := by
      intro n ended
      rw [← Bool.not_eq_true] at ended ⊢
      intro still
      obtain ⟨p, waits, ticket⟩ := Ledger.isWaiting_iff.1 still
      exact ended (Ledger.isWaiting_iff.2 ⟨p, (settles.mem_pending.1 waits).1, ticket⟩)
    have before : ∀ n ∈ c.concludes ++ landing, n < ledger.issued ∧ ledger.isWaiting n = false := by
      intro n due
      obtain ⟨given, ended⟩ := aloft.ended n due
      rw [settles.issued]
      exact ⟨given, stays n ended⟩
    rcases due with due | due
    · exact before n (List.mem_append_left _ due)
    · rcases new n due with lands | ⟨p, waits, rfl, decided⟩
      · exact before n (List.mem_append_right _ lands)
      · rw [settles.issued]
        refine ⟨aloft.tracked.issued p waits, ?_⟩
        rw [← Bool.not_eq_true]
        intro still
        obtain ⟨q, waits', ticket⟩ := Ledger.isWaiting_iff.1 still
        obtain ⟨waited, spared⟩ := settles.mem_pending.1 waits'
        rw [aloft.tracked.eq_of_ticket waited waits ticket] at spared
        exact decided spared
  answers := by
    intro n flown
    rw [List.mem_append]
    cases before : c.ledger.isWaiting n with
    | false =>
        have unknown : ∀ p ∈ c.ledger.pending, p.ticket ≠ n := by
          simpa [Ledger.isWaiting] using before
        have unheard : n ∉ heard := fun hears => Bool.false_ne_true (before.symm.trans (waited n hears))
        rw [settles.reading_of_not_waiting unknown, or_iff_left unheard]
        exact aloft.answers n flown
    | true =>
        obtain ⟨p, waits, rfl⟩ := Ledger.isWaiting_iff.1 before
        rw [or_iff_right (aloft.unanswered waits flown), hears p waits]
        cases decided : verdict p with
        | some outcome => rw [settles.settled p waits outcome decided]
        | none =>
            have still := settles.mem_pending.2 ⟨waits, decided⟩
            rw [(settles.sound aloft.tracked).reading_of_mem still]
  known := by
    intro n hears
    rw [settles.issued]
    rcases List.mem_append.1 hears with before | now
    · exact aloft.known n before
    · obtain ⟨p, waits, rfl⟩ := Ledger.isWaiting_iff.1 (waited n now)
      exact aloft.tracked.issued p waits
  kept := aloft.kept
  resumed := aloft.resumed

/-- A delivery takes off under a new ticket. -/
theorem takeOff (aloft : c.Aloft landing answered resumes down) {p : Tracked}
    (ticket : p.ticket = c.ledger.issued) (unused : ∀ q ∈ c.ledger.pending, q.id ≠ p.id) (d : Delivery) :
    Aloft
      { c with
        ledger := { c.ledger with
          pending := c.ledger.pending ++ [p]
          issued := c.ledger.issued + 1 }
        flights := c.flights.insert p.ticket d } landing answered resumes down where
  tracked := aloft.tracked.append ticket unused
  keys := Table.nodup_keys_insert aloft.keys _ _
  issued := by
    intro n flown
    rw [Table.keys_insert, List.mem_append, List.mem_filter, List.mem_singleton] at flown
    rcases flown with ⟨before, -⟩ | new
    · exact Nat.lt_succ_of_lt (aloft.issued n before)
    · rw [new, ticket]
      exact Nat.lt_succ_self _
  due := by
    intro n flown ended
    rw [Table.keys_insert, List.mem_append, List.mem_filter, List.mem_singleton] at flown
    rcases flown with ⟨before, -⟩ | new
    · apply aloft.due n before
      simp only [Ledger.isWaiting, List.any_append, Bool.or_eq_false_iff] at ended
      exact ended.1
    · simp [Ledger.isWaiting, new] at ended
  ended := by
    intro n due
    obtain ⟨given, ended⟩ := aloft.ended n due
    refine ⟨Nat.lt_succ_of_lt given, ?_⟩
    have other : p.ticket ≠ n := by
      rw [ticket]
      exact Nat.ne_of_gt given
    simp only [Ledger.isWaiting] at ended
    simp [Ledger.isWaiting, List.any_append, ended, other]
  answers := by
    intro n flown
    rw [Table.keys_insert, List.mem_append, List.mem_filter, List.mem_singleton] at flown
    rcases flown with ⟨before, -⟩ | new
    · have other : p.ticket ≠ n := by
        rw [ticket]
        exact Nat.ne_of_gt (aloft.issued n before)
      have same : Ledger.reading { c.ledger with
          pending := c.ledger.pending ++ [p]
          issued := c.ledger.issued + 1 } n = c.ledger.reading n := by
        simp [Ledger.reading_eq, Ledger.isWaiting, List.any_append, other]
      rw [same]
      exact aloft.answers n before
    · have sound := aloft.tracked.append ticket unused
      rw [new, sound.reading_of_mem (List.mem_append_right _ List.mem_cons_self)]
      have unanswered : p.ticket ∉ answered := by
        intro answered
        have given := aloft.known _ answered
        rw [ticket] at given
        exact Nat.lt_irrefl _ given
      simpa using unanswered
  known := by
    intro n answered
    exact Nat.lt_succ_of_lt (aloft.known n answered)
  kept := aloft.kept
  resumed := aloft.resumed

/-- The delivery that is concluded first comes out of the line. -/
theorem depart (aloft : c.Aloft [] answered resumes down) {ticket : Nat} {rest : List Nat}
    (line : c.concludes = ticket :: rest) :
    Aloft { c with concludes := rest } [ticket] answered resumes down := by
  have same : ∀ n, n ∈ c.concludes ++ [] ↔ n ∈ rest ++ [ticket] := by
    intro n
    rw [line, List.append_nil, List.mem_cons, List.mem_append, List.mem_singleton, or_comm]
  refine ⟨aloft.tracked, aloft.keys, aloft.issued, ?_, ?_, aloft.answers, aloft.known, aloft.kept,
    aloft.resumed⟩
  · intro n flown ended
    exact (same n).1 (aloft.due n flown ended)
  · intro n due
    exact aloft.ended n ((same n).2 due)

/-- A ticket that was used for something else, and of which nothing is left, does not matter. -/
theorem spend (aloft : c.Aloft landing answered resumes down) {ledger : Ledger}
    (pending : ledger.pending = c.ledger.pending) (issued : ledger.issued = c.ledger.issued + 1)
    (outcomes : ∀ n, ledger.outcomes.get? n = c.ledger.outcomes.get? n) :
    Aloft { c with ledger } landing answered resumes down := by
  have waiting : ∀ n, ledger.isWaiting n = c.ledger.isWaiting n := by
    intro n
    rw [Ledger.isWaiting, Ledger.isWaiting, pending]
  have reading : ∀ n, ledger.reading n = c.ledger.reading n := by
    intro n
    rw [Ledger.reading_eq, Ledger.reading_eq, outcomes, waiting]
  have later : ∀ n, n < c.ledger.issued → n < ledger.issued := by
    intro n given
    rw [issued]
    exact Nat.lt_succ_of_lt given
  refine ⟨aloft.tracked.spend pending issued outcomes, aloft.keys, ?_, ?_, ?_, ?_, ?_, aloft.kept,
    aloft.resumed⟩
  · exact fun n flown => later n (aloft.issued n flown)
  · intro n flown ended
    exact aloft.due n flown ((waiting n).symm.trans ended)
  · intro n due
    obtain ⟨given, ended⟩ := aloft.ended n due
    exact ⟨later n given, (waiting n).trans ended⟩
  · intro n flown
    rw [reading]
    exact aloft.answers n flown
  · exact fun n answered => later n (aloft.known n answered)

/-- What is not on its way need not be concluded. -/
theorem clear (aloft : c.Aloft landing answered resumes down) {ticket : Nat}
    (missing : ticket ∉ c.flights.keys) :
    c.Aloft (landing.filter (· ≠ ticket)) answered resumes down where
  tracked := aloft.tracked
  keys := aloft.keys
  issued := aloft.issued
  due := by
    intro n flown ended
    have other : n ≠ ticket := fun same => missing (same ▸ flown)
    rcases List.mem_append.1 (aloft.due n flown ended) with due | lands
    · exact List.mem_append_left _ due
    · exact List.mem_append_right _ (List.mem_filter.2 ⟨lands, by simpa using other⟩)
  ended := by
    intro n due
    apply aloft.ended n
    rcases List.mem_append.1 due with due | lands
    · exact List.mem_append_left _ due
    · exact List.mem_append_right _ (List.mem_filter.1 lands).1
  answers := aloft.answers
  known := aloft.known
  kept := aloft.kept
  resumed := aloft.resumed

/-- A delivery that has an outcome comes to its end. -/
theorem land (aloft : c.Aloft landing answered resumes down) (ticket : Nat) :
    Aloft { c with ledger := (c.ledger.collect ticket).2, flights := c.flights.erase ticket }
      (landing.filter (· ≠ ticket)) answered resumes down where
  tracked := aloft.tracked.collect ticket
  keys := Table.nodup_keys_erase aloft.keys ticket
  issued := by
    intro n flown
    rw [Table.keys_erase, List.mem_filter] at flown
    rw [(Ledger.collect_snd c.ledger ticket).2.1]
    exact aloft.issued n flown.1
  due := by
    intro n flown ended
    rw [Table.keys_erase, List.mem_filter] at flown
    simp only [Ledger.isWaiting, (Ledger.collect_snd c.ledger ticket).1] at ended
    rcases List.mem_append.1 (aloft.due n flown.1 ended) with due | lands
    · exact List.mem_append_left _ due
    · exact List.mem_append_right _ (List.mem_filter.2 ⟨lands, flown.2⟩)
  ended := by
    intro n due
    obtain ⟨pending, issued, -⟩ := Ledger.collect_snd c.ledger ticket
    simp only [Ledger.isWaiting, pending, issued]
    apply aloft.ended n
    rcases List.mem_append.1 due with due | lands
    · exact List.mem_append_left _ due
    · exact List.mem_append_right _ (List.mem_filter.1 lands).1
  answers := by
    intro n flown
    rw [Table.keys_erase, List.mem_filter] at flown
    rw [Ledger.reading_collect_of_ne _ (by simpa using flown.2)]
    exact aloft.answers n flown.1
  known := by
    intro n answered
    rw [(Ledger.collect_snd c.ledger ticket).2.1]
    exact aloft.known n answered
  kept := aloft.kept
  resumed := aloft.resumed

end Aloft

end Cargo

namespace Broker

/-! ## What does not touch deliveries on their way -/

variable (b : Broker)

@[simp] theorem cargo_release (m : CorrelationId) :
    (b.release m).books.cargo = b.books.cargo := by
  unfold release
  obtain ⟨last, references⟩ := b.references.release m
  cases last with
  | false => rfl
  | true =>
      simp only [if_true]
      obtain ⟨answer, depot⟩ := b.depot.delete m
      cases answer <;> rfl

@[simp] theorem cargo_releaseEach (ids : List CorrelationId) :
    (ids.foldl release b).books.cargo = b.books.cargo := by
  induction ids generalizing b with
  | nil => rfl
  | cons m ids ih => rw [List.foldl_cons, ih, cargo_release]

@[simp] theorem cargo_enqueue (k : Nat) (m : CorrelationId) :
    (b.enqueue k m).2.books.cargo = b.books.cargo := by
  rw [(b.books_enqueue k m).2]
  split <;> rfl

@[simp] theorem cargo_requeue (k : Nat) (m : CorrelationId) :
    (b.requeue k m).books.cargo = b.books.cargo := by
  obtain ⟨b', books, requeued⟩ := b.requeue_eq k m
  have same : b'.books.cargo = b.books.cargo := by
    rw [books]
    split <;> rfl
  rw [requeued]
  split
  · exact same
  · rw [cargo_release, same]

@[simp] theorem cargo_fanOut (m : CorrelationId) (lanes : List Nat) :
    (b.fanOut m lanes).2.books.cargo = b.books.cargo := by
  have each : ∀ (lanes : List Nat) (count : Nat) (b : Broker),
      (lanes.foldl (fanOutTo m) (count, b)).2.books.cargo = b.books.cargo := by
    intro lanes
    induction lanes with
    | nil => exact fun _ _ => rfl
    | cons k lanes ih =>
        intro count b
        have taken := b.cargo_enqueue k m
        rw [List.foldl_cons, ih, fanOutTo]
        dsimp only
        cases (b.enqueue k m).1 with
        | true => exact taken
        | false => exact (cargo_release _ m).trans taken
  exact each lanes 0 _

@[simp] theorem cargo_bring (m : Store.Message) (lanes : List Nat) :
    (b.bring m lanes).2.books.cargo = b.books.cargo := by
  unfold bring
  split
  · rfl
  · rename_i depot stored
    have spread := cargo_fanOut { b with depot } m.id lanes
    dsimp only
    split
    · exact spread
    · exact spread

@[simp] theorem cargo_publish (m : Store.Message) :
    (b.publish m).2.books.cargo = b.books.cargo := by
  unfold publish
  split
  · rfl
  · exact b.cargo_bring m _

@[simp] theorem cargo_recoverOne (report : Recovery) (m : CorrelationId) :
    (b.recoverOne report m).2.books.cargo = b.books.cargo := by
  unfold recoverOne
  split
  · rfl
  · split
    · rfl
    · rfl
    · rename_i message depot found
      dsimp only
      split
      · rfl
      · rename_i lanes matched
        have spread := cargo_fanOut { b with depot } m
          (matching { b with depot } message.route)
        split
        · exact spread
        · exact spread

@[simp] theorem cargo_recover : b.recover.2.books.cargo = b.books.cargo := by
  have each : ∀ (ids : List CorrelationId) (report : Recovery) (b : Broker),
      (b.recoverEach report ids).2.books.cargo = b.books.cargo := by
    intro ids
    induction ids with
    | nil => exact fun _ _ => rfl
    | cons m ids ih =>
        intro report b
        have one := b.cargo_recoverOne report m
        rw [recoverEach]
        split
        · rename_i e b' stopped
          rwa [stopped] at one
        · rename_i report' b' looked
          rw [looked] at one
          rw [ih, one]
  unfold recover
  split
  · rfl
  · exact each _ _ _

@[simp] theorem cargo_declare (name route : String) :
    (b.declare name route).2.books.cargo = b.books.cargo := by
  unfold declare
  split
  · rfl
  · split
    · rfl
    · split
      · split <;> rfl
      · rw [books_later_work]
        rfl

@[simp] theorem cargo_delete (name : String) :
    (b.delete name).2.books.cargo = b.books.cargo := by
  unfold delete
  split
  · rfl
  · rename_i k lane found
    rw [cargo_releaseEach, books_withSessions, books_abolish]
    rfl

@[simp] theorem cargo_offer (k : Nat) : (b.offer k).2.books.cargo = b.books.cargo := by
  have sent : ∀ (b : Broker) (c : Nat) (m : CorrelationId),
      (b.sendOff k c m).2.books.cargo = b.books.cargo := by
    intro b c m
    unfold sendOff
    split
    · rw [books_later]
      simp only [Books.cargo, Task.ticket?, Task.publication?, Option.toList_none, List.append_nil]
      rfl
    · rw [cargo_release]
      rfl
    · rw [cargo_requeue]
      rfl
  unfold offer
  split
  · rfl
  · split
    · rfl
    · dsimp only
      split
      · rfl
      · rw [sent]
        rfl

@[simp] theorem cargo_work (k : Nat) : (b.work k).books.cargo = b.books.cargo := by
  unfold work
  have aside := b.books_stepAside k
  dsimp only
  split
  · rw [aside]
  · split
    · rw [books_setStage, aside]
    · have offered := cargo_offer ((b.stepAside k).modifyQueue k fun queue =>
        { queue with gate := queue.gate.block }) k
      split
      all_goals
        rename_i b' tried
        rw [tried] at offered
      · rw [books_next_work]
        exact offered
      · rw [books_await]
        exact offered
      · rw [books_await]
        exact offered

end Broker

end MessageBroker
