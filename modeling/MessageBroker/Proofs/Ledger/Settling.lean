import Mathlib.Data.List.Nodup
import MessageBroker.Ledger

/-!
# Settling tracked sends

A call about tracked sends settles some of those that wait and leaves the others alone. What it does
to a ledger is said once, by the verdict that each waiting send gets, if any: the sends with a
verdict wait no longer, their tickets read as the verdict says, and every other ticket reads as
before. Calls that follow one another settle a send by the first verdict it gets.
-/

namespace MessageBroker.Ledger

/-- What a ticket reads as: nothing while its send waits. -/
def reading (l : Ledger) (ticket : Nat) : Option Outcome :=
  (l.collect ticket).1

/-- The sends that wait have ids and tickets of their own, the tickets have been given, and neither
they nor tickets that are still to be given have an outcome. -/
structure Sound (l : Ledger) : Prop where
  ids : (l.pending.map Tracked.id).Nodup
  tickets : (l.pending.map Tracked.ticket).Nodup
  issued : ∀ p ∈ l.pending, p.ticket < l.issued
  unread : ∀ p ∈ l.pending, l.outcomes.get? p.ticket = none
  fresh : ∀ n, l.issued ≤ n → l.outcomes.get? n = none

theorem sound_empty : Sound empty where
  ids := List.nodup_nil
  tickets := List.nodup_nil
  issued := by intro p waits; exact absurd waits List.not_mem_nil
  unread := by intro p waits; exact absurd waits List.not_mem_nil
  fresh := by intro n _; rfl

theorem isWaiting_iff {l : Ledger} {ticket : Nat} :
    l.isWaiting ticket = true ↔ ∃ p ∈ l.pending, p.ticket = ticket := by
  simp [isWaiting]

theorem reading_eq (l : Ledger) (ticket : Nat) :
    l.reading ticket = match l.outcomes.get? ticket with
      | some outcome => some outcome
      | none => if l.isWaiting ticket then none else some (some .cancelled) := by
  unfold reading collect
  cases l.outcomes.get? ticket <;> rfl

/-- What is collected is there no longer. -/
theorem collect_snd (l : Ledger) (ticket : Nat) :
    (l.collect ticket).2.pending = l.pending ∧ (l.collect ticket).2.issued = l.issued ∧
      ∀ n, (l.collect ticket).2.outcomes.get? n =
        if n = ticket then none else l.outcomes.get? n := by
  unfold collect
  cases found : l.outcomes.get? ticket with
  | some outcome => exact ⟨rfl, rfl, fun n => Table.get?_erase _ _ _⟩
  | none =>
      refine ⟨rfl, rfl, ?_⟩
      intro n
      by_cases same : n = ticket
      · rw [if_pos same, same, found]
      · rw [if_neg same]

/-- A ledger from which an outcome was collected is as sound as before. -/
theorem Sound.collect {l : Ledger} (sound : l.Sound) (ticket : Nat) :
    (l.collect ticket).2.Sound := by
  obtain ⟨pending, issued, outcomes⟩ := collect_snd l ticket
  refine ⟨?_, ?_, ?_, ?_, ?_⟩
  · rw [pending]
    exact sound.ids
  · rw [pending]
    exact sound.tickets
  · rw [pending, issued]
    exact sound.issued
  · intro p waits
    rw [pending] at waits
    rw [outcomes, sound.unread p waits, ite_self]
  · intro n unissued
    rw [issued] at unissued
    rw [outcomes, sound.fresh n unissued, ite_self]

/-- A ticket that was used, and of which nothing is left, does not matter. -/
theorem Sound.spend {l l' : Ledger} (sound : l.Sound) (pending : l'.pending = l.pending)
    (issued : l'.issued = l.issued + 1)
    (outcomes : ∀ n, l'.outcomes.get? n = l.outcomes.get? n) : l'.Sound where
  ids := by
    rw [pending]
    exact sound.ids
  tickets := by
    rw [pending]
    exact sound.tickets
  issued := by
    rw [pending, issued]
    exact fun p waits => Nat.lt_succ_of_lt (sound.issued p waits)
  unread := by
    intro p waits
    rw [pending] at waits
    rw [outcomes, sound.unread p waits]
  fresh := by
    intro n unissued
    rw [issued] at unissued
    rw [outcomes, sound.fresh n (Nat.le_of_succ_le unissued)]

/-- A send that waits under a free id is tracked under a new ticket. -/
theorem Sound.append {l : Ledger} (sound : l.Sound) {p : Tracked} (ticket : p.ticket = l.issued)
    (free : ∀ q ∈ l.pending, q.id ≠ p.id) :
    Sound { l with pending := l.pending ++ [p], issued := l.issued + 1 } where
  ids := by
    rw [List.map_append, List.map_singleton, List.nodup_append]
    refine ⟨sound.ids, List.nodup_singleton _, ?_⟩
    intro id used other same
    obtain ⟨q, waits, rfl⟩ := List.mem_map.1 used
    rw [List.mem_singleton.1 same]
    exact free q waits
  tickets := by
    rw [List.map_append, List.map_singleton, List.nodup_append]
    refine ⟨sound.tickets, List.nodup_singleton _, ?_⟩
    intro n used other same
    obtain ⟨q, waits, rfl⟩ := List.mem_map.1 used
    rw [List.mem_singleton.1 same, ticket]
    exact Nat.ne_of_lt (sound.issued q waits)
  issued := by
    intro q waits
    rcases List.mem_append.1 waits with before | new
    · exact Nat.lt_succ_of_lt (sound.issued q before)
    · rw [List.mem_singleton.1 new, ticket]
      exact Nat.lt_succ_self _
  unread := by
    intro q waits
    rcases List.mem_append.1 waits with before | new
    · exact sound.unread q before
    · rw [List.mem_singleton.1 new, ticket]
      exact sound.fresh _ (Nat.le_refl _)
  fresh := by
    intro n unissued
    exact sound.fresh n (Nat.le_of_succ_le unissued)

/-- To collect an outcome leaves the other tickets as they are. -/
theorem reading_collect_of_ne (l : Ledger) {n ticket : Nat} (other : n ≠ ticket) :
    (l.collect ticket).2.reading n = l.reading n := by
  obtain ⟨pending, -, outcomes⟩ := collect_snd l ticket
  have waiting : (l.collect ticket).2.isWaiting n = l.isWaiting n := by
    rw [isWaiting, pending, isWaiting]
  rw [reading_eq, reading_eq, outcomes, if_neg other, waiting]

/-- Two waiting sends with one ticket are the same. -/
theorem Sound.eq_of_ticket {l : Ledger} (sound : l.Sound) {p q : Tracked} (hp : p ∈ l.pending)
    (hq : q ∈ l.pending) (same : p.ticket = q.ticket) : p = q :=
  List.inj_on_of_nodup_map sound.tickets hp hq same

/-- Two waiting sends with one id are the same. -/
theorem Sound.eq_of_id {l : Ledger} (sound : l.Sound) {p q : Tracked} (hp : p ∈ l.pending)
    (hq : q ∈ l.pending) (same : p.id = q.id) : p = q :=
  List.inj_on_of_nodup_map sound.ids hp hq same

theorem mem_of_find? {l : Ledger} {id : CorrelationId} {p : Tracked} (found : l.find? id = some p) :
    p ∈ l.pending ∧ p.id = id :=
  ⟨List.mem_of_find?_eq_some found, by simpa using List.find?_some found⟩

theorem ne_of_find?_none {l : Ledger} {id : CorrelationId} (missing : l.find? id = none) :
    ∀ p ∈ l.pending, p.id ≠ id := by
  simpa [find?] using missing

theorem Sound.find?_eq {l : Ledger} (sound : l.Sound) {p : Tracked} (waits : p ∈ l.pending) :
    l.find? p.id = some p := by
  cases found : l.find? p.id with
  | none => exact absurd rfl (ne_of_find?_none found p waits)
  | some q =>
      obtain ⟨hq, same⟩ := mem_of_find? found
      rw [sound.eq_of_id hq waits same]

/-- A sound ledger has nothing to read while a send waits. -/
theorem Sound.reading_of_mem {l : Ledger} (sound : l.Sound) {p : Tracked} (waits : p ∈ l.pending) :
    l.reading p.ticket = none := by
  have waiting : l.isWaiting p.ticket = true := isWaiting_iff.2 ⟨p, waits, rfl⟩
  simp [reading_eq, sound.unread p waits, waiting]

/-- What a call does to a ledger, by the verdicts it gives to waiting sends. -/
structure Settles (l : Ledger) (verdict : Tracked → Option Outcome) (l' : Ledger) : Prop where
  issued : l'.issued = l.issued
  pending : l'.pending = l.pending.filter fun p => (verdict p).isNone
  kept : ∀ p ∈ l.pending, verdict p = none → l'.outcomes.get? p.ticket = none
  settled : ∀ p ∈ l.pending, ∀ outcome, verdict p = some outcome →
    l'.reading p.ticket = some outcome
  others : ∀ n, (∀ p ∈ l.pending, p.ticket ≠ n) → l'.outcomes.get? n = l.outcomes.get? n

namespace Settles

variable {l l' l'' : Ledger} {verdict verdict' : Tracked → Option Outcome}

theorem refl (sound : l.Sound) : Settles l (fun _ => none) l where
  issued := rfl
  pending := (List.filter_true _).symm
  kept := by
    intro p waits _
    exact sound.unread p waits
  settled := by simp
  others := by
    intro n _
    rfl

/-- Only the verdicts on sends that wait matter. -/
theorem congr (settles : Settles l verdict l')
    (same : ∀ p ∈ l.pending, verdict p = verdict' p) : Settles l verdict' l' where
  issued := settles.issued
  pending := by
    rw [settles.pending]
    exact List.filter_congr fun p waits => by rw [same p waits]
  kept := by
    intro p waits none'
    exact settles.kept p waits (by rw [same p waits, none'])
  settled := by
    intro p waits outcome some'
    exact settles.settled p waits outcome (by rw [same p waits, some'])
  others := settles.others

theorem mem_pending (settles : Settles l verdict l') {p : Tracked} :
    p ∈ l'.pending ↔ p ∈ l.pending ∧ verdict p = none := by
  rw [settles.pending, List.mem_filter, Option.isNone_iff_eq_none]

theorem sound (settles : Settles l verdict l') (sound : l.Sound) : l'.Sound where
  ids := by
    rw [settles.pending]
    exact sound.ids.sublist (List.filter_sublist.map _)
  tickets := by
    rw [settles.pending]
    exact sound.tickets.sublist (List.filter_sublist.map _)
  issued := by
    intro p waits
    rw [settles.issued]
    exact sound.issued p (settles.mem_pending.1 waits).1
  unread := by
    intro p waits
    obtain ⟨waited, spared⟩ := settles.mem_pending.1 waits
    exact settles.kept p waited spared
  fresh := by
    intro n unissued
    rw [settles.issued] at unissued
    have unknown : ∀ p ∈ l.pending, p.ticket ≠ n := by
      intro p waits
      exact Nat.ne_of_lt (Nat.lt_of_lt_of_le (sound.issued p waits) unissued)
    rw [settles.others n unknown]
    exact sound.fresh n unissued

/-- A ticket that nothing waits under reads as before. -/
theorem reading_of_not_waiting (settles : Settles l verdict l') {n : Nat}
    (unknown : ∀ p ∈ l.pending, p.ticket ≠ n) : l'.reading n = l.reading n := by
  have before : l.isWaiting n = false := by simpa [isWaiting] using unknown
  have after : l'.isWaiting n = false := by
    simp only [isWaiting, List.any_eq_false, decide_eq_true_eq]
    intro p waits
    exact unknown p (settles.mem_pending.1 waits).1
  rw [reading_eq, reading_eq, settles.others n unknown, before, after]

/-- What follows a call can only settle what the call has left waiting. -/
theorem trans (first : Settles l verdict l') (second : Settles l' verdict' l'') (sound : l.Sound) :
    Settles l (fun p => (verdict p).or (verdict' p)) l'' where
  issued := second.issued.trans first.issued
  pending := by
    rw [second.pending, first.pending, List.filter_filter]
    apply List.filter_congr
    intro p _
    cases verdict p <;> simp
  kept := by
    intro p waits spared
    obtain ⟨spared, spared'⟩ := Option.or_eq_none_iff.1 spared
    exact second.kept p (first.mem_pending.2 ⟨waits, spared⟩) spared'
  settled := by
    intro p waits outcome decided
    cases early : verdict p with
    | none =>
        rw [early, Option.none_or] at decided
        exact second.settled p (first.mem_pending.2 ⟨waits, early⟩) outcome decided
    | some o =>
        rw [early, Option.some_or] at decided
        have gone : ∀ q ∈ l'.pending, q.ticket ≠ p.ticket := by
          intro q waits' same
          obtain ⟨waited, spared⟩ := first.mem_pending.1 waits'
          rw [sound.eq_of_ticket waited waits same, early] at spared
          exact Option.some_ne_none o spared
        rw [second.reading_of_not_waiting gone, ← decided]
        exact first.settled p waits o early
  others := by
    intro n unknown
    have unknown' : ∀ p ∈ l'.pending, p.ticket ≠ n := by
      intro p waits
      exact unknown p (first.mem_pending.1 waits).1
    rw [second.others n unknown', first.others n unknown]

end Settles

/-- To settle one send is to give a verdict to this one alone. -/
theorem settle_settles {l : Ledger} (sound : l.Sound) {p : Tracked} (waits : p ∈ l.pending)
    (outcome : Outcome) :
    Settles l (fun q => if q = p then some outcome else none) (l.settle p outcome) where
  issued := rfl
  pending := by
    apply List.filter_congr
    intro q waits'
    by_cases same : q = p
    · simp [same]
    · have other : q.ticket ≠ p.ticket := fun h => same (sound.eq_of_ticket waits' waits h)
      simp [same, other]
  kept := by
    intro q waits' spared
    have other : q ≠ p := by
      intro same
      simp [same] at spared
    rw [settle, Table.get?_insert,
      if_neg fun h => other (sound.eq_of_ticket waits' waits h)]
    exact sound.unread q waits'
  settled := by
    intro q _ o decided
    by_cases same : q = p
    · rw [if_pos same] at decided
      rw [reading_eq, same]
      simp only [settle, Table.get?_insert, if_pos]
      exact decided
    · rw [if_neg same] at decided
      exact absurd decided (Option.some_ne_none o).symm
  others := by
    intro n unknown
    rw [settle, Table.get?_insert, if_neg fun h => unknown p waits h.symm]

/-- A call about an id gives its verdict to the send that waits under the id. -/
theorem resolve_settles {l : Ledger} (sound : l.Sound) (id : CorrelationId) (outcome : Outcome) :
    Settles l (fun p => if p.id = id then some outcome else none) (l.resolve id outcome).2 := by
  unfold resolve
  cases found : l.find? id with
  | none =>
      refine (Settles.refl sound).congr ?_
      intro p waits
      rw [if_neg (ne_of_find?_none found p waits)]
  | some q =>
      obtain ⟨hq, rfl⟩ := mem_of_find? found
      refine (settle_settles sound hq outcome).congr ?_
      intro p waits
      by_cases same : p = q
      · simp [same]
      · rw [if_neg same, if_neg fun h => same (sound.eq_of_id waits hq h)]

/-- A call about an id decides something exactly if a send waits under the id. -/
theorem resolve_fst (l : Ledger) (id : CorrelationId) (outcome : Outcome) :
    (l.resolve id outcome).1 =
      if ∃ p ∈ l.pending, p.id = id then .completed else .alreadyCompleted := by
  unfold resolve
  cases found : l.find? id with
  | none => simpa using ne_of_find?_none found
  | some q =>
      obtain ⟨hq, same⟩ := mem_of_find? found
      rw [if_pos ⟨q, hq, same⟩]

/-- A write gives its verdict only to a send that does not wait for its peer. -/
theorem written_settles {l : Ledger} (sound : l.Sound) (id : CorrelationId) :
    Settles l (fun p => if p.id = id ∧ p.awaitsPeer = false then some none else none)
      (l.written id).2 := by
  have resolved := resolve_settles sound id none
  unfold resolve at resolved
  unfold written
  cases found : l.find? id with
  | none =>
      refine (Settles.refl sound).congr ?_
      intro p waits
      rw [if_neg fun h => ne_of_find?_none found p waits h.1]
  | some q =>
      obtain ⟨hq, same⟩ := mem_of_find? found
      have unique : ∀ p ∈ l.pending, p.id = id → p = q := by
        intro p waits h
        exact sound.eq_of_id waits hq (h.trans same.symm)
      simp only [found] at resolved ⊢
      cases awaits : q.awaitsPeer with
      | true =>
          refine (Settles.refl sound).congr ?_
          intro p waits
          rw [if_neg]
          rintro ⟨h, free⟩
          rw [unique p waits h, awaits] at free
          exact Bool.noConfusion free
      | false =>
          refine resolved.congr ?_
          intro p waits
          by_cases h : p.id = id
          · rw [if_pos h, if_pos ⟨h, by rw [unique p waits h, awaits]⟩]
          · rw [if_neg h, if_neg fun both => h both.1]

theorem written_fst {l : Ledger} (sound : l.Sound) (id : CorrelationId) :
    (l.written id).1 =
      if ∃ p ∈ l.pending, p.id = id ∧ p.awaitsPeer = false then .completed
      else if ∃ p ∈ l.pending, p.id = id ∧ p.awaitsPeer = true then .deferred
      else .alreadyCompleted := by
  unfold written
  cases found : l.find? id with
  | none =>
      have missing := ne_of_find?_none found
      rw [if_neg fun ⟨p, waits, same, _⟩ => missing p waits same,
        if_neg fun ⟨p, waits, same, _⟩ => missing p waits same]
  | some q =>
      obtain ⟨hq, same⟩ := mem_of_find? found
      cases awaits : q.awaitsPeer with
      | true =>
          rw [if_neg, if_pos ⟨q, hq, same, awaits⟩]
          · simp [awaits]
          · rintro ⟨p, waits, h, free⟩
            rw [sound.eq_of_id waits hq (h.trans same.symm), awaits] at free
            exact Bool.noConfusion free
      | false =>
          rw [if_pos ⟨q, hq, same, awaits⟩]
          simp [awaits]

/-- To give a ledger up cancels all that waits. -/
theorem abandon_settles {l : Ledger} (sound : l.Sound) :
    Settles l (fun _ => some (some .cancelled)) l.abandon where
  issued := rfl
  pending := by simp [abandon]
  kept := by simp
  settled := by
    intro p waits outcome decided
    have unread : l.abandon.outcomes.get? p.ticket = none := sound.unread p waits
    rw [reading_eq, unread, ← decided]
    rfl
  others := by
    intro n _
    rfl

end MessageBroker.Ledger
