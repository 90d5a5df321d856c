import MessageBroker.Proofs.Broker.Passages

/-!
# Turns

When a broker takes a turn, some queues get a stake in a message and others give theirs up. Queues
get a stake only in a message that nobody has a stake in, and all of them at once: a message that is
published under a stored id goes nowhere, and to recover messages passes those over that have
references.
-/

namespace MessageBroker

open Books

/-- The queues that have a stake in a message, by the numbers of their lanes. -/
def holders (id : CorrelationId) (stakes : Multiset Stake) : Multiset Nat :=
  (stakes.filter fun x => x.2 = id).map Prod.fst

section

variable {id m : CorrelationId} {k : Nat} {stakes : Multiset Stake}

theorem card_holders (id : CorrelationId) (stakes : Multiset Stake) :
    (holders id stakes).card = tally id stakes := by
  rw [holders, Multiset.card_map, tally, Multiset.countP_eq_card_filter]

theorem holders_add (id : CorrelationId) (x y : Multiset Stake) :
    holders id (x + y) = holders id x + holders id y := by
  rw [holders, Multiset.filter_add, Multiset.map_add]
  rfl

theorem mem_holders : k ∈ holders id stakes ↔ (k, id) ∈ stakes := by
  rw [holders, Multiset.mem_map]
  constructor
  · rintro ⟨⟨j, m⟩, listed, rfl⟩
    obtain ⟨listed, same⟩ := Multiset.mem_filter.1 listed
    rwa [← same]
  · intro listed
    exact ⟨(k, id), Multiset.mem_filter.2 ⟨listed, rfl⟩, rfl⟩

theorem nodup_holders (once : stakes.Nodup) : (holders id stakes).Nodup := by
  refine (once.filter _).map_on ?_
  intro x listed y listed' same
  exact Prod.ext same ((Multiset.mem_filter.1 listed).2.trans (Multiset.mem_filter.1 listed').2.symm)

theorem holders_singleton : holders id {(k, m)} = if m = id then {k} else 0 := by
  rw [holders, Multiset.filter_singleton]
  by_cases same : m = id <;> simp [same]

theorem holders_of_lanes (lanes : List Nat) :
    holders id ↑(lanes.map fun k => (k, m)) = ↑(if m = id then lanes else []) := by
  rw [holders, Multiset.filter_coe, List.filter_map, Multiset.map_coe, List.map_map]
  by_cases same : m = id
  · simp [same, Function.comp_def]
  · simp [same, Function.comp_def]

theorem holders_of_ids (ids : List CorrelationId) :
    holders id ↑(ids.map fun m => (k, m)) = Multiset.replicate (ids.count id) k := by
  rw [holders, Multiset.filter_coe, List.filter_map, Multiset.map_coe, List.map_map,
    ← Multiset.coe_replicate, List.count_eq_countP, List.countP_eq_length_filter]
  refine congrArg _ (List.eq_replicate_iff.2 ⟨?_, ?_⟩)
  · simp only [List.length_map, Function.comp_def, beq_eq_decide]
  · simp

end

namespace Books

/-- A turn of a broker, told by its books: for each message, the queues that get a stake in it and
those that give theirs up. -/
structure Turn (s : Books) (gained given : CorrelationId → List Nat) (s' : Books) : Prop where
  balanced : s'.Balanced 0
  balance : ∀ id, holders id s'.stakes + ↑(given id) = holders id s.stakes + ↑(gained id)
  begun : ∀ id, gained id ≠ [] → tally id s.stakes = 0 ∧ given id = [] ∧
    ∃ news, s'.story id = news ++ s.story id ∧ .messageRetired id ∉ news
  told : ∀ id, gained id = [] →
    Told id (tally id s.stakes) (tally id s'.stakes) (s.story id) (s'.story id)
  kept : ∀ id, gained id = [] → s'.depot.messages.get? id =
    if tally id s.stakes ≠ 0 ∧ tally id s'.stakes = 0 then none else s.depot.messages.get? id

namespace Turn

variable {s s' s'' : Books} {gained gained' given : CorrelationId → List Nat}

theorem tally_eq (turn : Turn s gained given s') (id : CorrelationId) :
    tally id s'.stakes + (given id).length = tally id s.stakes + (gained id).length := by
  have whole := congrArg Multiset.card (turn.balance id)
  simpa only [Multiset.card_add, card_holders, Multiset.coe_card] using whole

/-- A message that no queue gets or gives up is where it was. -/
theorem untouched (balanced : s.Balanced 0) (turn : Turn s gained given s') {id : CorrelationId}
    (none' : gained id = []) (nothing : given id = []) :
    tally id s'.stakes = tally id s.stakes ∧
      s'.references.outstanding id = s.references.outstanding id ∧
      s'.depot.messages.get? id = s.depot.messages.get? id := by
  have same : tally id s'.stakes = tally id s.stakes := by
    simpa [none', nothing] using turn.tally_eq id
  refine ⟨same, ?_, ?_⟩
  · rw [turn.balanced.counted, balanced.counted, add_zero, add_zero, same]
  · rw [turn.kept id none', same, if_neg fun h => h.1 h.2]

/-- A passage is a turn on which queues get nothing. -/
theorem ofPassage {loss : Multiset Stake} (passage : Passage s 0 loss s' 0)
    (lost : ∀ id, holders id loss = ↑(given id)) : Turn s (fun _ => []) given s' where
  balanced := passage.balanced
  balance := by
    intro id
    have whole := congrArg (holders id) passage.balance
    simpa only [add_zero, holders_add, lost, Multiset.coe_nil] using whole
  begun := by
    intro id some'
    exact absurd rfl some'
  told := by
    intro id _
    simpa only [add_zero] using passage.told id
  kept := by
    intro id _
    simpa only [add_zero] using passage.kept id

theorem refl (balanced : s.Balanced 0) : Turn s (fun _ => []) (fun _ => []) s :=
  ofPassage (.refl balanced) fun _ => rfl

/-- Queues get one message after another. -/
theorem trans (first : Turn s gained (fun _ => []) s') (second : Turn s' gained' (fun _ => []) s'') :
    Turn s (fun id => gained id ++ gained' id) (fun _ => []) s'' where
  balanced := second.balanced
  balance := by
    intro id
    have one := first.balance id
    have two := second.balance id
    rw [Multiset.coe_nil, add_zero] at one two ⊢
    rw [two, one, add_assoc, Multiset.coe_add]
  begun := by
    intro id some'
    have one := first.tally_eq id
    by_cases early : gained id = []
    · rw [early, List.nil_append] at some'
      obtain ⟨none', -, news, story, silent⟩ := second.begun id some'
      rw [none', early] at one
      have none : tally id s.stakes = 0 := by simpa using one.symm
      obtain ⟨fresh, story', -, quiet⟩ := first.told id early
      rw [quiet none, none', none] at story'
      refine ⟨none, rfl, news, ?_, silent⟩
      rw [story, story']
      rfl
    · obtain ⟨none, -, news, story, silent⟩ := first.begun id early
      refine ⟨none, rfl, ?_⟩
      have some'' : tally id s'.stakes ≠ 0 := by
        have grown := List.length_pos_of_ne_nil early
        simp only [List.length_nil] at one
        omega
      have late : gained' id = [] := by
        by_contra again
        exact some'' (second.begun id again).1
      have two := second.tally_eq id
      simp only [late, List.length_nil, add_zero] at two
      obtain ⟨fresh, story', quiet, -⟩ := second.told id late
      rw [two, if_neg fun h => h.1 h.2, List.nil_append] at story'
      refine ⟨fresh ++ news, ?_, ?_⟩
      · rw [story', story, List.append_assoc]
      · rw [List.mem_append, not_or]
        exact ⟨quiet, silent⟩
  told := by
    intro id none'
    obtain ⟨early, late⟩ := List.append_eq_nil_iff.1 none'
    have one := first.tally_eq id
    have two := second.tally_eq id
    simp only [early, late, List.length_nil, add_zero] at one two
    exact (first.told id early).trans (second.told id late) (by omega) (by omega)
  kept := by
    intro id none'
    obtain ⟨early, late⟩ := List.append_eq_nil_iff.1 none'
    have one := first.tally_eq id
    have two := second.tally_eq id
    simp only [early, late, List.length_nil, add_zero] at one two
    rw [second.kept id late, first.kept id early, two, one, if_neg fun h => h.1 h.2]

end Turn

end Books

end MessageBroker
