import MessageBroker.Ledger.Tracker
import MessageBroker.Proofs.Ledger.Settling

/-!
# What calls do to a tracker

A tracker settles sends as its ledger does, and takes back the timers of the sends it has settled.
To cancel all sends, and to let the timers go off whose time is over, is to do so for one send after
the other.
-/

namespace MessageBroker.Tracker

/-- What a call does to a tracker whose time stands still, by its verdicts: the ledger follows them,
and the timers of the sends that still wait go on. -/
structure Settles (t : Tracker) (verdict : Tracked → Option Outcome) (t' : Tracker) : Prop where
  ledger : Ledger.Settles t.ledger verdict t'.ledger
  allowance : t'.allowance = t.allowance
  now : t'.now = t.now
  handles : t'.handles = t.handles
  isGone : t'.isGone = t.isGone
  timers : ∀ timer ∈ t'.timers, timer ∈ t.timers
  running : ∀ timer ∈ t.timers, t'.ledger.isWaiting timer.ticket = true → timer ∈ t'.timers

namespace Settles

variable {t t' t'' : Tracker} {verdict verdict' : Tracked → Option Outcome}

theorem refl (sound : t.ledger.Sound) : Settles t (fun _ => none) t where
  ledger := .refl sound
  allowance := rfl
  now := rfl
  handles := rfl
  isGone := rfl
  timers := fun _ runs => runs
  running := fun _ runs _ => runs

theorem congr (settles : Settles t verdict t')
    (same : ∀ p ∈ t.ledger.pending, verdict p = verdict' p) : Settles t verdict' t' :=
  { settles with ledger := settles.ledger.congr same }

theorem trans (first : Settles t verdict t') (second : Settles t' verdict' t'')
    (sound : t.ledger.Sound) : Settles t (fun p => (verdict p).or (verdict' p)) t'' where
  ledger := first.ledger.trans second.ledger sound
  allowance := second.allowance.trans first.allowance
  now := second.now.trans first.now
  handles := second.handles.trans first.handles
  isGone := second.isGone.trans first.isGone
  timers := fun timer runs => first.timers timer (second.timers timer runs)
  running := by
    intro timer runs waits
    obtain ⟨p, pending, ticket⟩ := Ledger.isWaiting_iff.1 waits
    refine second.running timer (first.running timer runs ?_) waits
    exact Ledger.isWaiting_iff.2 ⟨p, (second.ledger.mem_pending.1 pending).1, ticket⟩

end Settles

theorem follow_settles {t : Tracker} {verdict : Tracked → Option Outcome}
    {call : Resolution × Ledger} (settles : Ledger.Settles t.ledger verdict call.2) :
    Settles t verdict (t.follow call).2 where
  ledger := settles
  allowance := rfl
  now := rfl
  handles := rfl
  isGone := rfl
  timers := fun _ runs => (List.mem_filter.1 runs).1
  running := fun _ runs waits => List.mem_filter.2 ⟨runs, waits⟩

theorem cancel_settles {t : Tracker} (sound : t.ledger.Sound) (id : CorrelationId) :
    Settles t (fun p => if p.id = id then some (some .cancelled) else none) (t.cancel id).2 :=
  follow_settles (Ledger.resolve_settles sound id _)

/-- Sends that wait under different ids are all cancelled one after the other. -/
theorem cancelEach_settles {t : Tracker} (sound : t.ledger.Sound) {ids : List CorrelationId}
    (different : ids.Nodup) (waiting : ∀ id ∈ ids, ∃ p ∈ t.ledger.pending, p.id = id) (count : Nat) :
    (ids.foldl cancelNext (count, t)).1 = count + ids.length ∧
      Settles t (fun p => if p.id ∈ ids then some (some .cancelled) else none)
        (ids.foldl cancelNext (count, t)).2 := by
  induction ids generalizing t count with
  | nil => exact ⟨rfl, (Settles.refl sound).congr fun p _ => by simp⟩
  | cons id ids ih =>
      obtain ⟨new, different⟩ := List.nodup_cons.1 different
      have first := cancel_settles sound id
      have decided : (t.cancel id).1 = .completed := by
        have answer := Ledger.resolve_fst t.ledger id (some .cancelled)
        rwa [if_pos (waiting id List.mem_cons_self)] at answer
      have step : cancelNext (count, t) id = (count + 1, (t.cancel id).2) := by
        unfold cancelNext
        rw [show t.cancel id = (.completed, (t.cancel id).2) from Prod.ext decided rfl]
      have waiting' : ∀ other ∈ ids, ∃ p ∈ (t.cancel id).2.ledger.pending, p.id = other := by
        intro other later
        obtain ⟨p, waits, rfl⟩ := waiting other (List.mem_cons_of_mem _ later)
        refine ⟨p, first.ledger.mem_pending.2 ⟨waits, if_neg ?_⟩, rfl⟩
        intro same
        exact new (same ▸ later)
      obtain ⟨counted, rest⟩ := ih (first.ledger.sound sound) different waiting' (count + 1)
      rw [List.foldl_cons, step]
      refine ⟨by rw [counted, List.length_cons, Nat.add_assoc, Nat.add_comm 1], ?_⟩
      refine (first.trans rest sound).congr ?_
      intro p _
      by_cases same : p.id = id
      · simp [same]
      · simp [same]

theorem cancelAll_settles {t : Tracker} (sound : t.ledger.Sound) :
    t.cancelAll.1 = t.ledger.pending.length ∧
      Settles t (fun _ => some (some .cancelled)) t.cancelAll.2 := by
  have waiting : ∀ id ∈ t.ledger.pending.map Tracked.id, ∃ p ∈ t.ledger.pending, p.id = id :=
    fun id listed => List.mem_map.1 listed
  obtain ⟨counted, settles⟩ := cancelEach_settles sound sound.ids waiting 0
  refine ⟨by rw [cancelAll, counted, List.length_map, Nat.zero_add], settles.congr ?_⟩
  intro p waits
  rw [if_pos (List.mem_map.2 ⟨p, waits, rfl⟩)]

/-- A timer settles the send it was started for, if that still waits, and no other. -/
theorem fire_settles {t : Tracker} (sound : t.ledger.Sound) (timer : Timer) :
    Ledger.Settles t.ledger
      (fun p => if p.id = timer.id ∧ p.ticket = timer.ticket then some (some .timedOut) else none)
      (t.fire timer).ledger := by
  unfold fire
  cases found : t.ledger.find? timer.id with
  | none =>
      refine (Ledger.Settles.refl sound).congr ?_
      intro p waits
      rw [if_neg fun h => Ledger.ne_of_find?_none found p waits h.1]
  | some q =>
      obtain ⟨hq, id⟩ := Ledger.mem_of_find? found
      by_cases ticket : q.ticket = timer.ticket
      · simp only [if_pos ticket]
        refine (Ledger.settle_settles sound hq _).congr ?_
        intro p waits
        by_cases same : p = q
        · rw [if_pos same, if_pos ⟨same ▸ id, same ▸ ticket⟩]
        · rw [if_neg same, if_neg fun h => same (sound.eq_of_id waits hq (h.1.trans id.symm))]
      · simp only [if_neg ticket]
        refine (Ledger.Settles.refl sound).congr ?_
        intro p waits
        rw [if_neg]
        rintro ⟨h, h'⟩
        rw [sound.eq_of_id waits hq (h.trans id.symm)] at h'
        exact ticket h'

theorem fire_eq (t : Tracker) (timer : Timer) :
    t.fire timer = { t with ledger := (t.fire timer).ledger } := by
  unfold fire
  split
  · split <;> rfl
  · rfl

/-- Timers that go off one after the other settle the sends they were started for. -/
theorem fireEach_settles {t : Tracker} (sound : t.ledger.Sound) (due : List Timer) :
    Ledger.Settles t.ledger
        (fun p => if ∃ timer ∈ due, p.id = timer.id ∧ p.ticket = timer.ticket then
          some (some .timedOut) else none)
        (due.foldl fire t).ledger ∧
      due.foldl fire t = { t with ledger := (due.foldl fire t).ledger } := by
  induction due generalizing t with
  | nil => exact ⟨(Ledger.Settles.refl sound).congr fun p _ => by simp, rfl⟩
  | cons timer due ih =>
      have first := fire_settles sound timer
      obtain ⟨rest, same⟩ := ih (first.sound sound)
      rw [List.foldl_cons]
      refine ⟨(first.trans rest sound).congr ?_, ?_⟩
      · intro p _
        by_cases now : p.id = timer.id ∧ p.ticket = timer.ticket
        · simp [now]
        · simp [now]
      · rw [fire_eq t timer] at same
        rw [fire_eq t timer]
        exact same

/-- A turn of timers settles the sends whose timers go off, and takes these timers away. -/
theorem turn_settles {t : Tracker} (sound : t.ledger.Sound) (which : Nat → Bool) :
    Ledger.Settles t.ledger
        (fun p => if ∃ timer ∈ t.timers, t.goesOff which timer = true ∧
            p.id = timer.id ∧ p.ticket = timer.ticket then
          some (some .timedOut) else none)
        (t.turn which).ledger ∧
      t.turn which =
        { t with
          ledger := (t.turn which).ledger
          timers := (t.timers.filter fun timer => !t.goesOff which timer).map fun timer =>
            if which timer.ticket then timer.begun t.now else timer } := by
  obtain ⟨settles, rest⟩ := fireEach_settles
    (t := { t with
      timers := (t.timers.filter fun timer => !t.goesOff which timer).map fun timer =>
        if which timer.ticket then timer.begun t.now else timer }) sound
    (t.timers.filter (t.goesOff which))
  refine ⟨settles.congr ?_, rest⟩
  intro p _
  simp only [List.mem_filter, and_assoc]

end MessageBroker.Tracker
