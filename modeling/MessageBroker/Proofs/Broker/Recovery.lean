import MessageBroker.Proofs.Broker.Storage

/-!
# Recovery passes

A recovery pass looks at the oldest stored messages, one after the other. What has references is
passed over, what belongs to no declared queue stays where it is, and everything else goes to the back
of every queue that its route belongs to and has a reference for each. So a second pass finds nothing
left to do.

A pass looks at as many messages as the settings say, whatever there is to do about them. So it may
recover nothing and leave a younger message that could be recovered, but only if there are that many
older messages and nothing can be done about any of them.
-/

namespace MessageBroker

open Books

namespace Broker

/-- Two reports in one. -/
def Recovery.add (r s : Recovery) : Recovery :=
  ⟨r.recovered + s.recovered, r.unroutable + s.unroutable, r.skipped + s.skipped⟩

/-- What there is to report on messages before a pass looks at them. -/
def survey (b : Broker) (ids : List CorrelationId) : Recovery where
  recovered := ids.countP fun id => b.heirs id ≠ []
  unroutable := ids.countP fun id => b.references.outstanding id = none ∧ b.heirs id = []
  skipped := ids.countP fun id => (b.references.outstanding id).isSome

/-- What becomes of a broker when messages are recovered: each goes to the back of its queues, in the
order of the messages, and gets a reference for each of them. Nothing else changes. -/
structure Restores (b : Broker) (ids : List CorrelationId) (b' : Broker) : Prop where
  waiting : ∀ k, b'.waitingIn k = b.waitingIn k ++ ids.filter fun id => k ∈ b.heirs id
  references : ∀ id, b'.references.outstanding id =
    if id ∈ ids ∧ b.heirs id ≠ [] then some (b.heirs id).length else b.references.outstanding id
  others : b'.books = { b.books with
    shelves := b'.books.shelves
    references := b'.references }
  signs : b'.signs = b.signs
  desk : b'.desk = b.desk

variable {b b' b'' start : Broker} {ids : List CorrelationId} {m : CorrelationId}

/-! ## Heirs -/

/-- A queue gets a message when it is recovered if the message has no references and the queue is
declared and accepts its route. -/
theorem mem_heirs {k : Nat} : k ∈ b.heirs m ↔ b.references.outstanding m = none ∧
    ∃ p, b.depot.messages.get? m = some p ∧ b.Accepts k p.route := by
  unfold heirs
  cases outstanding : b.references.outstanding m with
  | some n => simp
  | none =>
      cases b.depot.messages.get? m with
      | none => simp
      | some p =>
          simp only [Option.some.injEq, true_and, exists_eq_left']
          exact mem_matching

theorem nodup_heirs (b : Broker) (m : CorrelationId) : (b.heirs m).Nodup := by
  unfold heirs
  split
  · exact b.nodup_matching _
  · exact List.nodup_nil

theorem heirs_of_references {n : Nat} (outstanding : b.references.outstanding m = some n) :
    b.heirs m = [] := by
  simp only [heirs, outstanding]

theorem heirs_congr (references : b'.references.outstanding m = b.references.outstanding m)
    (depot : b'.depot = b.depot) (signs : b'.signs = b.signs) : b'.heirs m = b.heirs m := by
  unfold heirs
  rw [references, depot]
  simp only [matching_of_signs signs]

/-! ## One pass -/

theorem survey_cons (b : Broker) (m : CorrelationId) (ids : List CorrelationId) :
    b.survey (m :: ids) = (b.survey [m]).add (b.survey ids) := by
  simp [survey, Recovery.add, List.countP_cons, Nat.add_comm]

theorem Recovery.add_assoc (q r s : Recovery) : (q.add r).add s = q.add (r.add s) := by
  simp [Recovery.add, Nat.add_assoc]

/-- Every message is counted once. -/
theorem survey_total (b : Broker) (ids : List CorrelationId) :
    (b.survey ids).recovered + (b.survey ids).unroutable + (b.survey ids).skipped = ids.length := by
  induction ids with
  | nil => rfl
  | cons m ids ih =>
      have one : (b.survey [m]).recovered + (b.survey [m]).unroutable + (b.survey [m]).skipped = 1 := by
        cases outstanding : b.references.outstanding m with
        | some n => simp [survey, outstanding, heirs_of_references outstanding]
        | none => by_cases none' : b.heirs m = [] <;> simp [survey, outstanding, none']
      rw [survey_cons, List.length_cons, ← ih]
      simp only [Recovery.add]
      omega

namespace Restores

theorem depot (restores : Restores b ids b') : b'.depot = b.depot :=
  congrArg Books.depot restores.others

/-- What concerns other messages is left as it is. -/
theorem heirs_of_not_mem (restores : Restores b ids b') (other : m ∉ ids) :
    b'.heirs m = b.heirs m := by
  refine heirs_congr ?_ restores.depot restores.signs
  rw [restores.references, if_neg fun listed => other listed.1]

/-- What was looked at is not recovered again. -/
theorem heirs_of_mem (restores : Restores b ids b') (listed : m ∈ ids) : b'.heirs m = [] := by
  by_cases none' : b.heirs m = []
  · have same : b'.heirs m = b.heirs m := by
      refine heirs_congr ?_ restores.depot restores.signs
      rw [restores.references, if_neg fun some' => some'.2 none']
    rw [same, none']
  · refine heirs_of_references (n := (b.heirs m).length) ?_
    rw [restores.references, if_pos ⟨listed, none'⟩]

theorem survey_of_not_mem {others : List CorrelationId} (restores : Restores b ids b')
    (apart : ∀ id ∈ others, id ∉ ids) : b'.survey others = b.survey others := by
  have same : ∀ id ∈ others, b'.heirs id = b.heirs id ∧
      b'.references.outstanding id = b.references.outstanding id := by
    intro id listed
    refine ⟨restores.heirs_of_not_mem (apart id listed), ?_⟩
    rw [restores.references, if_neg fun early => apart id listed early.1]
  simp only [survey, Recovery.mk.injEq]
  refine ⟨List.countP_congr ?_, List.countP_congr ?_, List.countP_congr ?_⟩ <;>
    · intro id listed
      simp only [same id listed]

/-- Some messages are recovered, and then others. -/
theorem trans {others : List CorrelationId} (first : Restores b ids b')
    (second : Restores b' others b'') (apart : ∀ id ∈ others, id ∉ ids) :
    Restores b (ids ++ others) b'' where
  waiting := by
    intro k
    have same : (others.filter fun id => k ∈ b'.heirs id) = others.filter fun id => k ∈ b.heirs id := by
      refine List.filter_congr fun id listed => ?_
      rw [first.heirs_of_not_mem (apart id listed)]
    rw [second.waiting, first.waiting, same, List.filter_append, List.append_assoc]
  references := by
    intro id
    rw [second.references, first.references]
    by_cases late : id ∈ others
    · have new := apart id late
      simp only [late, new, first.heirs_of_not_mem new, List.mem_append, or_true, true_and,
        false_and, if_false]
    · simp only [late, List.mem_append, or_false, false_and, if_false]
  others := by
    rw [second.others, first.others]
  signs := second.signs.trans first.signs
  desk := second.desk.trans first.desk

/-- When messages have been recovered, those that had no references and went to no queue are the same
as before, and the others have references. -/
theorem survey_again (restores : Restores b ids b') :
    b'.survey ids = ⟨0, (b.survey ids).unroutable,
      (b.survey ids).recovered + (b.survey ids).skipped⟩ := by
  have recovered : (b'.survey ids).recovered = 0 := by
    refine List.countP_eq_zero.2 fun id listed => ?_
    simp [restores.heirs_of_mem listed]
  have unroutable : (b'.survey ids).unroutable = (b.survey ids).unroutable := by
    refine List.countP_congr fun id listed => ?_
    rw [restores.references, restores.heirs_of_mem listed]
    by_cases none' : b.heirs id = [] <;> simp [listed, none']
  have before := b.survey_total ids
  have since := b'.survey_total ids
  rw [← recovered, ← unroutable]
  have skipped : (b'.survey ids).skipped = (b.survey ids).recovered + (b.survey ids).skipped := by
    omega
  rw [← skipped]

end Restores

/-- A message that goes to no queue is passed over. -/
theorem recoverOne_of_no_heirs (works : ∀ call, b.depot.failuresOf call = 0)
    (stored : b.depot.messages.get? m ≠ none) (nobody : b.heirs m = []) (report : Recovery) :
    b.recoverOne report m = (.ok (report.add (b.survey [m])), b) := by
  obtain ⟨p, found⟩ := Option.ne_none_iff_exists'.1 stored
  cases outstanding : b.references.outstanding m with
  | some n => simp [recoverOne, survey, Recovery.add, outstanding, nobody]
  | none =>
      have unmatched : b.matching p.route = [] := by simpa [heirs, outstanding, found] using nobody
      simp [recoverOne, survey, Recovery.add, outstanding, nobody, Store.Depot.get?_of_works works,
        found, unmatched]

/-- A message is looked at, and recovered if it goes to queues. -/
theorem recoverOne_restores (works : ∀ call, b.depot.failuresOf call = 0)
    (stored : b.depot.messages.get? m ≠ none) (report : Recovery) :
    (b.recoverOne report m).1 = .ok (report.add (b.survey [m])) ∧
      Restores b [m] (b.recoverOne report m).2 := by
  by_cases nobody : b.heirs m = []
  · rw [recoverOne_of_no_heirs works stored nobody]
    exact ⟨rfl, by simp [nobody], by simp [nobody], rfl, rfl, rfl⟩
  · obtain ⟨p, found⟩ := Option.ne_none_iff_exists'.1 stored
    have outstanding : b.references.outstanding m = none := by
      cases outstanding : b.references.outstanding m with
      | none => rfl
      | some n => exact absurd (heirs_of_references outstanding) nobody
    have heirs : b.heirs m = b.matching p.route := by simp only [Broker.heirs, outstanding, found]
    have opened : ∀ k ∈ b.heirs m, b.books.isOpen k = true := by
      intro k listed
      rw [heirs] at listed
      exact isOpen_of_matching listed
    obtain ⟨count, books⟩ := books_fanOut (m := m) opened
    have taken : (b.fanOut m (b.heirs m)).1 ≠ 0 := by
      rw [count]
      exact fun none' => nobody (List.length_eq_zero_iff.1 none')
    have went : b.recoverOne report m =
        (.ok (report.add ⟨1, 0, 0⟩), (b.fanOut m (b.heirs m)).2) := by
      rw [heirs] at nobody taken ⊢
      unfold recoverOne
      simp only [outstanding, Option.isSome_none, Bool.false_eq_true, if_false,
        Store.Depot.get?_of_works works, found]
      split
      · exact absurd ‹_› taken
      · rfl
    have counted : b.survey [m] = ⟨1, 0, 0⟩ := by simp [survey, outstanding, nobody]
    have references : (b.fanOut m (b.heirs m)).2.references =
        b.references.setUp m (b.heirs m).length := congrArg Books.references books
    rw [went, counted]
    refine ⟨rfl, ?_, ?_, ?_, b.signs_fanOut m _, b.desk_fanOut m _⟩
    · intro k
      have declared : (b.heirs m).filter b.isDeclared = b.heirs m := by
        refine List.filter_eq_self.2 fun j listed => ?_
        rw [← isOpen_books]
        exact opened j listed
      rw [waitingIn_fanOut b k m (b.nodup_heirs m), declared]
      by_cases listed : k ∈ b.heirs m <;> simp [listed]
    · intro id
      rw [references, References.setUp, if_neg fun none' => nobody (List.length_eq_zero_iff.1 none')]
      refine (Table.get?_insert _ _ _ _).trans ?_
      by_cases same : id = m
      · subst same
        simp [nobody]
      · simp only [List.mem_singleton, same, false_and, if_false]
        rfl
    · rw [references, books]

/-- Messages are looked at one after the other. -/
theorem recoverEach_restores (works : ∀ call, b.depot.failuresOf call = 0)
    (stored : ∀ id ∈ ids, b.depot.messages.get? id ≠ none) (once : ids.Nodup) (report : Recovery) :
    (b.recoverEach report ids).1 = .ok (report.add (b.survey ids)) ∧
      Restores b ids (b.recoverEach report ids).2 := by
  induction ids generalizing b report with
  | nil => exact ⟨rfl, fun _ => (List.append_nil _).symm, fun _ => rfl, rfl, rfl, rfl⟩
  | cons m ids ih =>
      obtain ⟨new, once⟩ := List.nodup_cons.1 once
      obtain ⟨looked, first⟩ := recoverOne_restores works (stored m List.mem_cons_self) report
      have apart : ∀ id ∈ ids, id ∉ [m] := by
        rintro id listed same
        exact new (List.mem_singleton.1 same ▸ listed)
      rw [recoverEach_cons looked]
      obtain ⟨looked', rest⟩ := ih (first.depot ▸ works)
        (fun id listed => first.depot ▸ stored id (List.mem_cons_of_mem m listed)) once
        (report.add (b.survey [m]))
      rw [looked', first.survey_of_not_mem apart, Recovery.add_assoc, ← survey_cons]
      exact ⟨rfl, first.trans rest apart⟩

/-- Messages that go to no queues are passed over. -/
theorem recoverEach_of_no_heirs (works : ∀ call, b.depot.failuresOf call = 0)
    (stored : ∀ id ∈ ids, b.depot.messages.get? id ≠ none) (nobody : ∀ id ∈ ids, b.heirs id = [])
    (report : Recovery) : b.recoverEach report ids = (.ok (report.add (b.survey ids)), b) := by
  induction ids generalizing report with
  | nil => rfl
  | cons m ids ih =>
      have one := recoverOne_of_no_heirs works (stored m List.mem_cons_self)
        (nobody m List.mem_cons_self) report
      rw [recoverEach_cons (congrArg Prod.fst one), one, ih
        (fun id listed => stored id (List.mem_cons_of_mem m listed))
        (fun id listed => nobody id (List.mem_cons_of_mem m listed)), Recovery.add_assoc,
        ← survey_cons]

/-- The oldest messages are recovered. -/
theorem recover_restores (backed : b.books.Backed 0) (sound : b.WellStored)
    (listed : b.depot.messages.oldest b.settings.recoveryBatchLimit = ids) :
    b.recover.1 = .ok (b.survey ids) ∧ Restores b ids b.recover.2 := by
  have works : ∀ call, b.depot.failuresOf call = 0 := backed.works
  have heads := Store.Messages.oldest_heads sound b.settings.recoveryBatchLimit
  rw [listed] at heads
  have passed : b.recover = b.recoverEach {} ids := by
    rw [recover, Store.Depot.oldest_of_works works, listed]
  rw [passed]
  obtain ⟨looked, restores⟩ := recoverEach_restores works heads.stored heads.nodup {}
  refine ⟨looked.trans ?_, restores⟩
  simp [Recovery.add]

/-- A pass has nothing to do where the oldest messages go to no queues. -/
theorem recover_of_no_heirs (backed : b.books.Backed 0) (sound : b.WellStored)
    (listed : b.depot.messages.oldest b.settings.recoveryBatchLimit = ids)
    (nobody : ∀ id ∈ ids, b.heirs id = []) : b.recover = (.ok (b.survey ids), b) := by
  have works : ∀ call, b.depot.failuresOf call = 0 := backed.works
  have heads := Store.Messages.oldest_heads sound b.settings.recoveryBatchLimit
  rw [listed] at heads
  rw [recover, Store.Depot.oldest_of_works works, listed]
  refine (recoverEach_of_no_heirs works heads.stored nobody {}).trans ?_
  simp [Recovery.add]

variable {settings : Settings.Engine} {mint : Nat → CorrelationId} {calendar : Nat}
  {messages : Store.Messages} {life : List Episode}

/-- Whatever a broker whose store is in memory has lived through, a recovery pass looks at the oldest
messages, as many as the settings say and there are, each once. It puts those that have no references
and belong to declared queues at the back of these, in their order and once, and gives them as many
references as there are such queues. It counts them, and those that belong to no queue, and those that
have references, and leaves everything else as it is. A second pass right after it does nothing, and
skips what the first one recovered or skipped. -/
theorem recovered_once (started : Broker.new? settings mint calendar (.holding messages) = some start)
    (sound : messages.Sound) (spares : ∀ e ∈ life, e.sparesStore = true)
    (lived : start.through life = b)
    (listed : b.depot.messages.oldest settings.recoveryBatchLimit = ids) :
    ids.length = min settings.recoveryBatchLimit b.depot.messages.size ∧
    b.depot.messages.Heads ids ∧
    ∃ b', b.recover = (.ok (b.survey ids), b') ∧ Restores b ids b' ∧
      (b.survey ids).recovered + (b.survey ids).unroutable + (b.survey ids).skipped = ids.length ∧
      b'.recover = (.ok ⟨0, (b.survey ids).unroutable,
        (b.survey ids).recovered + (b.survey ids).skipped⟩, b') := by
  have backed := backed_through started spares
  have stored := wellStored_through sound started spares
  have kept := settings_through started life
  rw [lived] at backed stored kept
  rw [← kept] at listed ⊢
  obtain ⟨looked, restores⟩ := recover_restores backed stored listed
  refine ⟨?_, ?_, b.recover.2, Prod.ext looked rfl, restores, b.survey_total ids, ?_⟩
  · rw [← listed]
    exact Store.Messages.length_oldest _ _
  · rw [← listed]
    exact Store.Messages.oldest_heads stored _
  · have kept' : b.recover.2.settings = b.settings := congrArg Front.settings b.front_recover
    have listed' : b.recover.2.depot.messages.oldest b.recover.2.settings.recoveryBatchLimit = ids := by
      rw [restores.depot, kept', listed]
    have again := recover_of_no_heirs (recover_gains backed).backed stored.recover listed'
      fun _ => restores.heirs_of_mem
    rwa [restores.survey_again] at again

/-- Three messages. The oldest is not about orders. -/
def triple : Store.Messages :=
  ⟨⟨[(.ofNat 1, ⟨.ofNat 1, "orders", [1], none, 5⟩), (.ofNat 2, ⟨.ofNat 2, "mail", [2], none, 3⟩),
    (.ofNat 3, ⟨.ofNat 3, "orders", [3], none, 3⟩)]⟩⟩

theorem sound_triple : triple.Sound :=
  ((Store.Messages.sound_empty.enter ⟨.ofNat 1, "orders", [1], none, 5⟩).enter
    ⟨.ofNat 2, "mail", [2], none, 3⟩).enter ⟨.ofNat 3, "orders", [3], none, 3⟩

/-- A broker that looks at three messages in a recovery, over a store of three. -/
def stocked : Broker :=
  (Broker.new? { recoveryBatchLimit := 3 } CorrelationId.fresh 0 (.holding triple)).get rfl

/-- One more message comes to a queue and is sent off. -/
def stocking : List Episode :=
  [.stir (.move (.declare "orders" "orders")), .stir (.move (.connect "reader" .reliable)),
    .stir (.move (.subscribe "reader" "orders" none)),
    .stir (.move (.publish ⟨.ofNat 4, "orders", [4], none, 4⟩)), .stir (.move .task),
    .stir (.move .task), .stir (.move .task)]

theorem new?_stocked :
    Broker.new? { recoveryBatchLimit := 3 } CorrelationId.fresh 0 (.holding triple) = some stocked :=
  rfl

/-- Of the three oldest messages one belongs to no queue, one is recovered and one is on its way. The
youngest is not looked at. -/
theorem recovered_once_of_three :
    ∃ b', (stocked.through stocking).recover = (.ok ⟨1, 1, 1⟩, b') ∧
      b'.waitingIn 0 = [.ofNat 3] ∧ b'.references.outstanding (.ofNat 3) = some 1 ∧
      b'.recover = (.ok ⟨0, 1, 2⟩, b') := by
  have listed : (stocked.through stocking).depot.messages.oldest 3 =
      [.ofNat 2, .ofNat 3, .ofNat 4] := by
    have stored : (stocked.through stocking).depot.messages.byId.values =
        triple.byId.values ++ [⟨.ofNat 4, "orders", [4], none, 4⟩] := by decide
    rw [Store.Messages.oldest, stored]
    simp [triple, Table.values, Store.Messages.older, List.mergeSort,
      List.MergeSort.Internal.splitInTwo, List.merge]
    decide
  obtain ⟨-, -, b', went, restores, -, again⟩ := recovered_once new?_stocked sound_triple
    (by decide : ∀ e ∈ stocking, e.sparesStore = true) rfl listed
  refine ⟨b', went, restores.waiting 0, ?_, again⟩
  rw [restores.references]
  decide

/-! ## What a pass leaves -/

/-- Nothing is left to recover: every stored message has references or belongs to no declared
queue. -/
def Exhausted (b : Broker) : Prop :=
  ∀ id p, b.depot.messages.get? id = some p →
    b.references.outstanding id ≠ none ∨ ∀ k, ¬b.Accepts k p.route

theorem exhausted_iff : b.Exhausted ↔ ∀ id, b.heirs id = [] := by
  simp only [List.eq_nil_iff_forall_not_mem, mem_heirs, not_and, not_exists]
  constructor
  · intro exhausted id k outstanding p stored accepts
    exact (exhausted id p stored).elim (absurd outstanding) fun nobody => nobody k accepts
  · intro nobody id p stored
    by_cases outstanding : b.references.outstanding id = none
    · exact .inr fun k => nobody id k outstanding p stored
    · exact .inl outstanding

theorem stored_of_heirs (some' : b.heirs m ≠ []) : b.depot.messages.get? m ≠ none := by
  obtain ⟨k, listed⟩ := List.exists_mem_of_ne_nil _ some'
  obtain ⟨-, p, stored, -⟩ := mem_heirs.1 listed
  rw [stored]
  exact Option.some_ne_none p

/-- If a pass recovers nothing, what could be recovered is younger than all that the pass looked at,
and there was nothing to do about any of that. -/
theorem behind_of_recovered_none (sound : b.WellStored)
    (listed : b.depot.messages.oldest b.settings.recoveryBatchLimit = ids)
    (none' : (b.survey ids).recovered = 0) (some' : b.heirs m ≠ []) :
    ids.length = b.settings.recoveryBatchLimit ∧
      ∀ id ∈ ids, b.depot.messages.Precedes id m ∧ b.heirs id = [] := by
  have heads := Store.Messages.oldest_heads sound b.settings.recoveryBatchLimit
  rw [listed] at heads
  have nobody : ∀ id ∈ ids, b.heirs id = [] := by
    simpa [survey, List.countP_eq_zero] using none'
  have beyond : m ∉ ids := fun early => some' (nobody m early)
  have stored := stored_of_heirs some'
  refine ⟨?_, fun id early => ⟨heads.first id early m stored beyond, nobody id early⟩⟩
  have counted := b.depot.messages.length_oldest b.settings.recoveryBatchLimit
  rw [listed] at counted
  by_contra short
  refine beyond ?_
  rw [← listed, Store.Messages.mem_oldest_of_le sound (by omega)]
  exact stored

/-- Whatever a broker whose store is in memory has lived through, a recovery pass that recovers nothing
leaves a message that could be recovered only if as many messages are older as a pass looks at, all of
them with references or without a declared queue. So it leaves nothing to recover if there are fewer
such messages than that. One pass leaves nothing to recover if no more messages are stored than it
looks at. -/
theorem stalls_only_behind_others
    (started : Broker.new? settings mint calendar (.holding messages) = some start)
    (sound : messages.Sound) (spares : ∀ e ∈ life, e.sparesStore = true)
    (lived : start.through life = b)
    (listed : b.depot.messages.oldest settings.recoveryBatchLimit = ids) :
    (∀ report, b.recover.1 = .ok report → report.recovered = 0 →
      (∀ id, b.heirs id ≠ [] → ids.length = settings.recoveryBatchLimit ∧
        ∀ early ∈ ids, b.depot.messages.Precedes early id ∧ b.heirs early = []) ∧
      (b.depot.messages.byId.keys.countP (fun id => b.heirs id = []) < settings.recoveryBatchLimit →
        b.Exhausted)) ∧
    (b.depot.messages.size ≤ settings.recoveryBatchLimit → b.recover.2.Exhausted) := by
  have backed := backed_through started spares
  have stored := wellStored_through sound started spares
  have kept := settings_through started life
  rw [lived] at backed stored kept
  rw [← kept] at listed ⊢
  obtain ⟨looked, restores⟩ := recover_restores backed stored listed
  have heads := Store.Messages.oldest_heads stored b.settings.recoveryBatchLimit
  rw [listed] at heads
  refine ⟨fun report went none' => ?_, fun enough => exhausted_iff.2 fun id => ?_⟩
  · rw [Except.ok.inj (went.symm.trans looked)] at none'
    have behind : ∀ id, b.heirs id ≠ [] → _ := fun id =>
      behind_of_recovered_none (m := id) stored listed none'
    refine ⟨behind, fun few => exhausted_iff.2 fun id => ?_⟩
    by_contra some'
    obtain ⟨full, early⟩ := behind id some'
    have among : ids ⊆ b.depot.messages.byId.keys.filter fun id => b.heirs id = [] := by
      intro other listed'
      rw [List.mem_filter, Table.mem_keys]
      refine ⟨Option.ne_none_iff_exists'.1 (heads.stored other listed'), ?_⟩
      simpa using (early other listed').2
    have counted := (List.subperm_of_subset heads.nodup among).length_le
    rw [← List.countP_eq_length_filter] at counted
    omega
  · by_cases early : id ∈ ids
    · exact restores.heirs_of_mem early
    · rw [restores.heirs_of_not_mem early]
      by_contra some'
      refine early ?_
      rw [← listed, Store.Messages.mem_oldest_of_le stored enough]
      exact stored_of_heirs some'

/-- Two messages. The younger one is about orders. -/
def pair : Store.Messages :=
  ⟨⟨[(.ofNat 1, ⟨.ofNat 1, "mail", [1], none, 1⟩), (.ofNat 2, ⟨.ofNat 2, "orders", [2], none, 2⟩)]⟩⟩

theorem sound_pair : pair.Sound :=
  (Store.Messages.sound_empty.enter ⟨.ofNat 1, "mail", [1], none, 1⟩).enter
    ⟨.ofNat 2, "orders", [2], none, 2⟩

/-- A broker that looks at one message in a recovery, of two that are stored. -/
def crowded : Broker :=
  (Broker.new? { recoveryBatchLimit := 1 } CorrelationId.fresh 0 (.holding pair)).get rfl

/-- There is a queue for orders. -/
def crowding : List Episode := [.stir (.move (.declare "orders" "orders"))]

theorem new?_crowded :
    Broker.new? { recoveryBatchLimit := 1 } CorrelationId.fresh 0 (.holding pair) = some crowded :=
  rfl

theorem oldest_crowded : (crowded.through crowding).depot.messages.oldest 1 = [.ofNat 1] := by
  have stored : (crowded.through crowding).depot.messages = pair := by decide
  rw [stored]
  simp [pair, Store.Messages.oldest, Table.values, Store.Messages.older, List.mergeSort,
    List.MergeSort.Internal.splitInTwo]

theorem recover_crowded : (crowded.through crowding).recover.1 = .ok ⟨0, 1, 0⟩ :=
  (recover_restores (backed_through new?_crowded (by decide))
    (wellStored_through sound_pair new?_crowded (by decide)) oldest_crowded).1

/-- The older message belongs to no queue, and nothing but it is looked at. -/
theorem stalls_only_behind_others_once :
    (crowded.through crowding).depot.messages.Precedes (.ofNat 1) (.ofNat 2) ∧
      (crowded.through crowding).heirs (.ofNat 1) = [] := by
  obtain ⟨stalled, -⟩ := stalls_only_behind_others new?_crowded sound_pair
    (by decide : ∀ e ∈ crowding, e.sparesStore = true) rfl oldest_crowded
  obtain ⟨behind, -⟩ := stalled ⟨0, 1, 0⟩ recover_crowded rfl
  exact (behind (.ofNat 2) (by decide)).2 _ (List.mem_singleton.2 rfl)

/-- A pass may recover nothing and leave a message that could be recovered. -/
theorem recovers_none_and_leaves_one :
    Broker.new? { recoveryBatchLimit := 1 } CorrelationId.fresh 0 (.holding pair) = some crowded ∧
      (∀ e ∈ crowding, e.sparesStore = true) ∧
      (crowded.through crowding).recover.1 = .ok ⟨0, 1, 0⟩ ∧
      ¬(crowded.through crowding).Exhausted := by
  refine ⟨rfl, by decide, recover_crowded, fun exhausted => ?_⟩
  have nobody := exhausted_iff.1 exhausted (.ofNat 2)
  revert nobody
  decide

end Broker

end MessageBroker
