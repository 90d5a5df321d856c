import Mathlib.Algebra.Order.Group.Multiset
import Mathlib.Tactic.Abel
import MessageBroker.Proofs.Broker.Books
import MessageBroker.Proofs.Table

/-!
# Stakes

A queue has a stake in a message from the time it gets the message until it has settled it. The stake
is kept in one of three places: the id waits in the queue, a delivery is going to be written, or a
delivery is on its way. Between two places it is loose. References count stakes, the store keeps
what there is a stake in, and a message is retired when the last stake in it is given up.
-/

namespace MessageBroker

/-- A queue, by the number of its lane, and a message that it has yet to settle. -/
abbrev Stake := Nat × CorrelationId

/-- The stake that a delivery keeps. -/
def Delivery.stake (d : Delivery) : Stake := (d.lane, d.message)

/-- The message that an event is about, if it is about one. -/
def Event.message? : Event → Option CorrelationId
  | connected _ | disconnected _ => none
  | messageStored id _ | messageDelivered id _ _ | messageRetired id | deliveryFailed id _ _ =>
    some id

/-- How many stakes there are in a message. -/
def tally (id : CorrelationId) (stakes : Multiset Stake) : Nat :=
  stakes.countP fun x => x.2 = id

theorem tally_add (id : CorrelationId) (x y : Multiset Stake) :
    tally id (x + y) = tally id x + tally id y :=
  Multiset.countP_add _ x y

theorem tally_cons (id : CorrelationId) (k : Nat) (m : CorrelationId) (stakes : Multiset Stake) :
    tally id ((k, m) ::ₘ stakes) = tally id stakes + if m = id then 1 else 0 :=
  Multiset.countP_cons _ _ _

theorem tally_eq_zero {id : CorrelationId} {stakes : Multiset Stake} :
    tally id stakes = 0 ↔ ∀ x ∈ stakes, x.2 ≠ id :=
  Multiset.countP_eq_zero

theorem tally_pos {id : CorrelationId} {stakes : Multiset Stake} :
    tally id stakes ≠ 0 ↔ ∃ x ∈ stakes, x.2 = id := by
  rw [← Nat.pos_iff_ne_zero]
  exact Multiset.countP_pos

namespace Books

/-- The stakes of shelves that are numbered from `k` on. -/
def shelved : (k : Nat) → List Shelf → Multiset Stake
  | _, [] => 0
  | k, shelf :: shelves => ↑(shelf.pending.map fun id => (k, id)) + shelved (k + 1) shelves

/-- All stakes that are kept. -/
def stakes (s : Books) : Multiset Stake :=
  shelved 0 s.shelves + ↑(s.sends.map Delivery.stake) + ↑(s.flights.values.map Delivery.stake)

theorem isOpen_iff {s : Books} {k : Nat} :
    s.isOpen k = true ↔ ∃ shelf, s.shelves[k]? = some shelf ∧ shelf.isClosed = false := by
  simp [isOpen, Option.any_eq_true]

/-- The announcements about a message, latest first. -/
def story (s : Books) (id : CorrelationId) : List Event :=
  s.events.filter fun e => e.message? = some id

/-- One shelf holds its stakes, whatever the others hold. -/
theorem shelved_modify {shelves : List Shelf} {k : Nat} {shelf : Shelf}
    (found : shelves[k]? = some shelf) (j : Nat) :
    ∃ rest, shelved j shelves = ↑(shelf.pending.map fun id => (j + k, id)) + rest ∧
      ∀ g : Shelf → Shelf, shelved j (shelves.modify k g) =
        ↑((g shelf).pending.map fun id => (j + k, id)) + rest := by
  induction shelves generalizing j k with
  | nil => simp at found
  | cons first shelves ih =>
      cases k with
      | zero =>
          obtain rfl : first = shelf := by simpa using found
          exact ⟨shelved (j + 1) shelves, rfl, fun g => rfl⟩
      | succ k =>
          obtain ⟨rest, before, modified⟩ := ih (k := k) (by simpa using found) (j + 1)
          refine ⟨↑(first.pending.map fun id => (j, id)) + rest, ?_, ?_⟩
          · rw [shelved, before, Nat.add_right_comm j 1 k]
            exact add_left_comm _ _ _
          · intro g
            rw [List.modify_succ_cons, shelved, modified, Nat.add_right_comm j 1 k]
            exact add_left_comm _ _ _

theorem shelved_append (j : Nat) (shelves : List Shelf) (shelf : Shelf) :
    shelved j (shelves ++ [shelf]) =
      shelved j shelves + ↑(shelf.pending.map fun id => (j + shelves.length, id)) := by
  induction shelves generalizing j with
  | nil => simp [shelved]
  | cons first shelves ih =>
      have place : j + 1 + shelves.length = j + (shelves.length + 1) := by omega
      rw [List.cons_append, shelved, ih, shelved, List.length_cons, place]
      exact (add_assoc _ _ _).symm

/-- The stakes on a shelf are those in the messages that wait there. -/
theorem mem_shelved {id : CorrelationId} {k j : Nat} {shelves : List Shelf} :
    (j + k, id) ∈ shelved j shelves ↔ ∃ shelf, shelves[k]? = some shelf ∧ id ∈ shelf.pending := by
  have before : ∀ (shelves : List Shelf) (j k : Nat), k < j → (k, id) ∉ shelved j shelves := by
    intro shelves
    induction shelves with
    | nil => exact fun _ _ _ => Multiset.notMem_zero _
    | cons shelf shelves ih =>
        intro j k early
        rw [shelved, Multiset.mem_add, not_or]
        refine ⟨?_, ih (j + 1) k (by omega)⟩
        intro listed
        obtain ⟨m, -, same⟩ := List.mem_map.1 (Multiset.mem_coe.1 listed)
        exact Nat.ne_of_gt early (Prod.mk.inj same).1
  induction shelves generalizing j k with
  | nil => simp [shelved]
  | cons shelf shelves ih =>
      rw [shelved, Multiset.mem_add, Multiset.mem_coe, List.mem_map]
      cases k with
      | zero =>
          have later := before shelves (j + 1) j (Nat.lt_succ_self j)
          simp [later]
      | succ k =>
          have rest := ih (k := k) (j := j + 1)
          rw [Nat.add_right_comm j 1 k] at rest
          rw [List.getElem?_cons_succ]
          refine Iff.trans ?_ rest
          simp [Nat.add_assoc]

/-- The books are in order while some stakes are loose: every queue has at most one stake in a
message, references count the stakes, the store has all messages there is a stake in, closed queues
are empty, and the store works. -/
structure Balanced (s : Books) (loose : Multiset Stake) : Prop where
  once : (s.stakes + loose).Nodup
  counted : ∀ id, s.references.outstanding id =
    if tally id (s.stakes + loose) = 0 then none else some (tally id (s.stakes + loose))
  stored : ∀ id, tally id (s.stakes + loose) ≠ 0 → ∃ m, s.depot.messages.get? id = some m
  closed : ∀ shelf ∈ s.shelves, shelf.isClosed = true → shelf.pending = []
  works : ∀ call, s.depot.failuresOf call = 0

/-- What is announced about a message while the number of stakes in it goes down from `n` to `n'`:
that it is retired, if and when the last stake is given up, and nothing afterwards. -/
def Told (id : CorrelationId) (n n' : Nat) (old new : List Event) : Prop :=
  ∃ fresh, new = (if n ≠ 0 ∧ n' = 0 then [.messageRetired id] else []) ++ fresh ++ old ∧
    .messageRetired id ∉ fresh ∧ (n = 0 → fresh = [])

namespace Told

variable {id : CorrelationId} {n n' n'' : Nat} {old new newer : List Event}

theorem refl (id : CorrelationId) (n : Nat) (old : List Event) : Told id n n old old := by
  refine ⟨[], ?_, List.not_mem_nil, fun _ => rfl⟩
  rw [if_neg fun h => h.1 h.2]
  rfl

theorem trans (first : Told id n n' old new) (second : Told id n' n'' new newer) (le : n' ≤ n)
    (le' : n'' ≤ n') : Told id n n'' old newer := by
  obtain ⟨fresh, rfl, early, silent⟩ := first
  obtain ⟨fresh', rfl, early', silent'⟩ := second
  by_cases ended : n' = 0
  · obtain rfl := silent' ended
    have gone : n'' = 0 := by omega
    refine ⟨fresh, ?_, early, silent⟩
    simp [ended, gone]
  · refine ⟨fresh' ++ fresh, ?_, ?_, ?_⟩
    · have some' : n ≠ 0 := by omega
      simp [ended, some']
    · simpa [List.mem_append, not_or] using ⟨early', early⟩
    · intro none'
      omega

end Told

/-- A passage from one state of the books to another, on which some stakes are given up. No stake
gets lost or is made up on the way. -/
structure Passage (s : Books) (loose given : Multiset Stake) (s' : Books)
    (loose' : Multiset Stake) : Prop where
  balanced : s'.Balanced loose'
  balance : s'.stakes + loose' + given = s.stakes + loose
  told : ∀ id, Told id (tally id (s.stakes + loose)) (tally id (s'.stakes + loose')) (s.story id)
    (s'.story id)
  kept : ∀ id, s'.depot.messages.get? id =
    if tally id (s.stakes + loose) ≠ 0 ∧ tally id (s'.stakes + loose') = 0 then none
    else s.depot.messages.get? id

namespace Passage

variable {s s' s'' : Books} {loose loose' loose'' given given' : Multiset Stake}

theorem refl (balanced : s.Balanced loose) : Passage s loose 0 s loose where
  balanced := balanced
  balance := add_zero _
  told := fun id => .refl id _ _
  kept := by
    intro id
    rw [if_neg fun h => h.1 h.2]

theorem tally_eq (passage : Passage s loose given s' loose') (id : CorrelationId) :
    tally id (s.stakes + loose) = tally id (s'.stakes + loose') + tally id given := by
  rw [← tally_add, passage.balance]

theorem trans (first : Passage s loose given s' loose') (second : Passage s' loose' given' s'' loose'') :
    Passage s loose (given + given') s'' loose'' where
  balanced := second.balanced
  balance := by
    rw [← first.balance, ← second.balance]
    abel
  told := by
    intro id
    have n := first.tally_eq id
    have n' := second.tally_eq id
    exact (first.told id).trans (second.told id) (by omega) (by omega)
  kept := by
    intro id
    have n := first.tally_eq id
    have n' := second.tally_eq id
    rw [second.kept, first.kept]
    by_cases ended : tally id (s'.stakes + loose') = 0
    · have gone : tally id (s''.stakes + loose'') = 0 := by omega
      simp [ended, gone]
    · have some' : tally id (s.stakes + loose) ≠ 0 := by omega
      simp [ended, some']

/-- A passage on which nothing is given up, and what follows it. -/
theorem onward (first : Passage s loose 0 s' loose')
    (second : Passage s' loose' given s'' loose'') : Passage s loose given s'' loose'' := by
  have whole := first.trans second
  rwa [zero_add] at whole

/-- Stakes change their places. -/
theorem transfer (balanced : s.Balanced loose) (same : s'.stakes + loose' = s.stakes + loose)
    (references : s'.references = s.references) (depot : s'.depot = s.depot)
    (events : s'.events = s.events)
    (closed : ∀ shelf ∈ s'.shelves, shelf.isClosed = true → shelf.pending = []) :
    Passage s loose 0 s' loose' where
  balanced := {
    once := by
      rw [same]
      exact balanced.once
    counted := by
      intro id
      rw [same, references]
      exact balanced.counted id
    stored := by
      intro id
      rw [same, depot]
      exact balanced.stored id
    closed := closed
    works := by
      rw [depot]
      exact balanced.works }
  balance := by rw [add_zero, same]
  told := by
    intro id
    rw [same, story, story, events]
    exact .refl id _ _
  kept := by
    intro id
    rw [same, depot, if_neg fun h => h.1 h.2]

/-- Stakes are put on a shelf, or taken from it. -/
theorem shelve (balanced : s.Balanced loose) {k : Nat} {shelf : Shelf}
    (found : s.shelves[k]? = some shelf) {g : Shelf → Shelf}
    (same : (↑((g shelf).pending.map fun id => (k, id)) : Multiset Stake) + loose' =
      ↑(shelf.pending.map fun id => (k, id)) + loose)
    (closed : (g shelf).isClosed = true → (g shelf).pending = []) :
    Passage s loose 0 { s with shelves := s.shelves.modify k g } loose' := by
  obtain ⟨rest, before, modified⟩ := shelved_modify found 0
  rw [Nat.zero_add] at before modified
  refine transfer balanced ?_ rfl rfl rfl ?_
  · have now : stakes { s with shelves := s.shelves.modify k g } =
        ↑((g shelf).pending.map fun id => (k, id)) + rest + ↑(s.sends.map Delivery.stake) +
          ↑(s.flights.values.map Delivery.stake) := by
      rw [stakes, modified]
    rw [now, stakes, before, add_right_comm _ _ loose, add_right_comm _ _ loose,
      add_right_comm _ _ loose, ← same]
    abel
  · intro shelf' listed
    obtain ⟨j, place⟩ := List.mem_iff_getElem?.1 listed
    rw [List.getElem?_modify] at place
    by_cases here : k = j
    · rw [← here, found] at place
      obtain rfl : g shelf = shelf' := by simpa using place
      exact closed
    · simp only [if_neg here, Option.map_eq_map, Option.map_id'] at place
      exact balanced.closed shelf' (List.mem_of_getElem? (by simpa using place))

/-- Deliveries that are going to be written come or go, and so do their stakes. -/
theorem sends (balanced : s.Balanced loose) {sends : List Delivery}
    (same : (↑(sends.map Delivery.stake) : Multiset Stake) + loose' =
      ↑(s.sends.map Delivery.stake) + loose)
    (concludes : List Nat) (resumes : List Publication) :
    Passage s loose 0 { s with sends, concludes, resumes } loose' := by
  refine transfer balanced ?_ rfl rfl rfl balanced.closed
  have now : stakes { s with sends, concludes, resumes } =
      shelved 0 s.shelves + ↑(sends.map Delivery.stake) + ↑(s.flights.values.map Delivery.stake) :=
    rfl
  rw [now, stakes, add_right_comm _ _ loose, add_assoc _ _ loose, ← same]
  abel

/-- Deliveries take off or come to an end. -/
theorem flights (balanced : s.Balanced loose) {flights : Table Nat Delivery}
    (same : (↑(flights.values.map Delivery.stake) : Multiset Stake) + loose' =
      ↑(s.flights.values.map Delivery.stake) + loose) (ledger : Ledger) (concludes : List Nat) :
    Passage s loose 0 { s with flights, ledger, concludes } loose' := by
  refine transfer balanced ?_ rfl rfl rfl balanced.closed
  have now : stakes { s with flights, ledger, concludes } =
      shelved 0 s.shelves + ↑(s.sends.map Delivery.stake) + ↑(flights.values.map Delivery.stake) :=
    rfl
  rw [now, stakes, add_assoc, same, ← add_assoc]

/-- Something is announced about a message in which there is a stake. -/
theorem announce (balanced : s.Balanced loose) {e : Event}
    (held : ∀ id, e.message? = some id → e ≠ .messageRetired id ∧ tally id (s.stakes + loose) ≠ 0) :
    Passage s loose 0 { s with events := e :: s.events } loose where
  balanced := ⟨balanced.once, balanced.counted, balanced.stored, balanced.closed, balanced.works⟩
  balance := add_zero _
  told := by
    intro id
    by_cases about : e.message? = some id
    · obtain ⟨other, some'⟩ := held id about
      refine ⟨[e], ?_, ?_, ?_⟩
      · rw [if_neg fun h => h.1 h.2]
        simp [story, about]
      · simpa using Ne.symm other
      · intro none'
        exact absurd none' some'
    · have same : story { s with events := e :: s.events } id = s.story id := by
        simp [story, about]
      rw [same]
      exact .refl id _ _
  kept := by
    intro id
    exact (if_neg fun h => h.1 h.2).symm

/-- A loose stake in a message is given up. If it was the last one, the message leaves the store and
is retired. -/
theorem giveUp {k : Nat} {m : CorrelationId} (balanced : s.Balanced ((k, m) ::ₘ loose))
    (same : s'.stakes = s.stakes)
    (closed : ∀ shelf ∈ s'.shelves, shelf.isClosed = true → shelf.pending = [])
    (works : ∀ call, s'.depot.failuresOf call = 0)
    (counts : ∀ id, s'.references.outstanding id = if id = m then
        if tally m (s.stakes + loose) = 0 then none else some (tally m (s.stakes + loose))
      else s.references.outstanding id)
    (messages : ∀ id, s'.depot.messages.get? id =
      if id = m ∧ tally m (s.stakes + loose) = 0 then none else s.depot.messages.get? id)
    (events : s'.events =
      (if tally m (s.stakes + loose) = 0 then [.messageRetired m] else []) ++ s.events) :
    Passage s ((k, m) ::ₘ loose) {(k, m)} s' loose := by
  have tallies : ∀ id, tally id (s.stakes + ((k, m) ::ₘ loose)) =
      tally id (s.stakes + loose) + if m = id then 1 else 0 := by
    intro id
    rw [Multiset.add_cons, tally_cons]
  have others : ∀ id, id ≠ m → tally id (s.stakes + ((k, m) ::ₘ loose)) =
      tally id (s.stakes + loose) := by
    intro id other
    rw [tallies, if_neg (Ne.symm other), Nat.add_zero]
  have held : tally m (s.stakes + ((k, m) ::ₘ loose)) ≠ 0 := by
    rw [tallies, if_pos rfl]
    exact Nat.succ_ne_zero _
  refine ⟨⟨?_, ?_, ?_, closed, works⟩, ?_, ?_, ?_⟩
  · have once := balanced.once
    rw [Multiset.add_cons] at once
    rw [same]
    exact (Multiset.nodup_cons.1 once).2
  · intro id
    rw [same, counts]
    by_cases here : id = m
    · rw [if_pos here, here]
    · rw [if_neg here, balanced.counted, others id here]
  · intro id left
    rw [same] at left
    have stored := balanced.stored id (by
      rw [tallies]
      exact fun none' => left (Nat.eq_zero_of_add_eq_zero_right none'))
    have kept : ¬(id = m ∧ tally m (s.stakes + loose) = 0) := fun h => left (h.1 ▸ h.2)
    rwa [messages, if_neg kept]
  · rw [same, Multiset.add_cons, add_comm, Multiset.singleton_add]
  · intro id
    rw [same, story, story, events, List.filter_append]
    by_cases here : id = m
    · refine ⟨[], ?_, List.not_mem_nil, fun _ => rfl⟩
      rw [here, List.append_nil]
      by_cases last : tally m (s.stakes + loose) = 0
      · rw [if_pos last, if_pos ⟨held, last⟩]
        simp [Event.message?]
      · rw [if_neg last, if_neg fun h => last h.2]
        rfl
    · have quiet : ((if tally m (s.stakes + loose) = 0 then [.messageRetired m] else []).filter
          fun e : Event => e.message? = some id) = [] := by
        split <;> simp [Event.message?, Ne.symm here]
      rw [others id here, quiet]
      exact .refl id _ _
  · intro id
    rw [same, messages]
    by_cases here : id = m
    · rw [here]
      simp only [true_and, held, ne_eq, not_false_eq_true]
    · rw [if_neg fun h => here h.1, others id here, if_neg fun h => h.1 h.2]

end Passage

end Books

end MessageBroker
