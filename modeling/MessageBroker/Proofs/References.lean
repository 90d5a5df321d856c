import Mathlib.Data.List.Induction
import Mathlib.Data.Set.Card
import MessageBroker.Proofs.Table
import MessageBroker.References

/-!
# Counted releases

What is kept about a message is a count, and the calls about other messages come in between. Here
the count is read off the calls: it is the number that the message was last given, less the releases
of it since, as long as something is left. The release that takes away the last reference is thus the
one whose number is that of the references, counted from the last time that they were set up.
-/

namespace MessageBroker.References

/-- Something that is asked of the references. -/
inductive Call where
  | setUp (id : CorrelationId) (n : Nat)
  | release (id : CorrelationId)
deriving DecidableEq, Repr

/-- The message that a call is about. -/
def Call.id : Call → CorrelationId
  | setUp id _ | release id => id

/-- The answer to a call, if it has one, and the references after it. -/
def answer (r : References) : Call → Option Bool × References
  | .setUp id n => (none, r.setUp id n)
  | .release id => (some (r.release id).1, (r.release id).2)

/-- The references after several calls. -/
def after (r : References) (calls : List Call) : References :=
  calls.foldl (fun r call => (r.answer call).2) r

/-- What is left of `n` references when some have been released. -/
def remaining (n released : Nat) : Option Nat :=
  if released < n then some (n - released) else none

/-- The calls end with these, and before them the message was given `n` references for the last
time. -/
structure LastSetUp (id : CorrelationId) (n : Nat) (since calls : List Call) : Prop where
  ends : ∃ earlier, calls = earlier ++ .setUp id n :: since
  last : ∀ m, .setUp id m ∉ since

variable (r : References) (id j : CorrelationId) (n k : Nat) (calls : List Call) (call : Call)

/-! ## One call -/

theorem remaining_of_le {n k : Nat} (nothing : n ≤ k) : remaining n k = none :=
  if_neg (Nat.not_lt.2 nothing)

theorem remaining_of_lt {n k : Nat} (left : k < n) : remaining n k = some (n - k) :=
  if_pos left

theorem remaining_succ : (remaining n k).bind (remaining · 1) = remaining n (k + 1) := by
  by_cases left : k < n
  · rw [remaining_of_lt left, Option.bind_some, remaining, remaining, Nat.sub_sub]
    exact if_congr (by omega) rfl rfl
  · rw [remaining_of_le (by omega), remaining_of_le (by omega), Option.bind_none]

theorem remaining_eq_one : remaining n k = some 1 ↔ k + 1 = n := by
  unfold remaining
  split
  · rw [Option.some.injEq]
    omega
  · exact iff_of_false nofun (by omega)

theorem remaining_ne_zero : remaining n k ≠ some 0 := by
  unfold remaining
  split
  · rw [Ne, Option.some.injEq]
    omega
  · nofun

theorem outstanding_setUp :
    (r.setUp id n).outstanding j = if j = id then remaining n 0 else r.outstanding j := by
  unfold setUp outstanding
  by_cases none' : n = 0
  · rw [if_pos none', Table.get?_erase, remaining_of_le (by omega)]
  · rw [if_neg none', Table.get?_insert, remaining_of_lt (by omega), Nat.sub_zero]

theorem outstanding_release : (r.release id).2.outstanding j =
    if j = id then (r.outstanding id).bind (remaining · 1) else r.outstanding j := by
  unfold release outstanding
  cases found : r.counts.get? id with
  | none =>
      dsimp only
      by_cases same : j = id
      · rw [if_pos same, same]
        exact found
      · exact (if_neg same).symm
  | some n =>
      dsimp only
      rw [Option.bind_some]
      by_cases last : n ≤ 1
      · rw [if_pos last, remaining_of_le last]
        exact Table.get?_erase _ _ _
      · rw [if_neg last, remaining_of_lt (by omega)]
        exact Table.get?_insert _ _ _ _

theorem outstanding_answer_of_ne {call : Call} {j : CorrelationId} (other : j ≠ call.id) :
    (r.answer call).2.outstanding j = r.outstanding j := by
  cases call with
  | setUp id n => exact (r.outstanding_setUp id j n).trans (if_neg other)
  | release id => exact (r.outstanding_release id j).trans (if_neg other)

/-- Only positive counts are kept, one for each message. -/
structure Sound (r : References) : Prop where
  once : r.counts.keys.Nodup
  positive : ∀ id, r.outstanding id ≠ some 0

variable {r} {id} {n} {calls}

theorem Sound.answer (sound : r.Sound) : (r.answer call).2.Sound := by
  cases call with
  | setUp id n =>
      refine ⟨?_, fun j => ?_⟩
      · rw [References.answer, setUp]
        split
        · exact Table.nodup_keys_erase sound.once id
        · exact Table.nodup_keys_insert sound.once id n
      · rw [References.answer, outstanding_setUp]
        split
        · exact remaining_ne_zero n 0
        · exact sound.positive j
  | release id =>
      refine ⟨?_, fun j => ?_⟩
      · rw [References.answer, release]
        split
        · exact sound.once
        · split
          · exact Table.nodup_keys_erase sound.once id
          · exact Table.nodup_keys_insert sound.once id _
      · rw [References.answer, outstanding_release]
        split
        · intro zero
          obtain ⟨n, -, left⟩ := Option.bind_eq_some_iff.1 zero
          exact remaining_ne_zero n 1 left
        · exact sound.positive j

/-- A release reports the last reference just if one reference is left. -/
theorem Sound.release_eq_true (sound : r.Sound) (id : CorrelationId) :
    (r.release id).1 = true ↔ r.outstanding id = some 1 := by
  have positive := sound.positive id
  unfold outstanding release at *
  cases found : r.counts.get? id with
  | none => exact iff_of_false nofun nofun
  | some n =>
      rw [found, Ne, Option.some.injEq] at positive
      dsimp only
      rw [Option.some.injEq]
      by_cases last : n ≤ 1
      · rw [if_pos last]
        exact iff_of_true rfl (by omega)
      · rw [if_neg last]
        exact iff_of_false nofun (by omega)

/-! ## Histories -/

theorem after_concat (r : References) (calls : List Call) (call : Call) :
    r.after (calls ++ [call]) = ((r.after calls).answer call).2 := by
  rw [after, List.foldl_append]
  rfl

theorem Sound.after (sound : r.Sound) (calls : List Call) : (r.after calls).Sound := by
  induction calls generalizing r with
  | nil => exact sound
  | cons call calls ih => exact ih (sound.answer call)

theorem sound_empty : empty.Sound :=
  ⟨List.nodup_nil, nofun⟩

/-- As long as a message is not set up again, each release of it takes one away from what is left,
and nothing else does. -/
theorem outstanding_after {since : List Call} (last : ∀ m, .setUp id m ∉ since)
    (here : r.outstanding id = remaining n 0) :
    (r.after since).outstanding id = remaining n (since.count (.release id)) := by
  induction since using List.reverseRecOn with
  | nil => exact here
  | append_singleton since call ih =>
      have before := ih fun m listed => last m (List.mem_append_left _ listed)
      rw [after_concat, List.count_append]
      by_cases other : id ≠ call.id
      · have unlike : call ≠ .release id := fun same => other (same ▸ rfl)
        rw [outstanding_answer_of_ne _ other, before, List.count_singleton, if_neg (by simpa using unlike),
          Nat.add_zero]
      · obtain rfl := not_not.1 other
        cases call with
        | setUp id m => exact absurd (List.mem_append_right _ (List.mem_singleton_self _)) (last m)
        | release id =>
            refine (outstanding_release _ id id).trans ?_
            rw [if_pos rfl, show (r.after since).outstanding id = _ from before, remaining_succ]
            exact congrArg _ (congrArg _ List.count_singleton_self.symm)

theorem outstanding_of_lastSetUp {since : List Call} (given : LastSetUp id n since calls) :
    (empty.after calls).outstanding id = remaining n (since.count (.release id)) := by
  obtain ⟨earlier, rfl⟩ := given.ends
  have split : empty.after (earlier ++ .setUp id n :: since) =
      ((empty.after earlier).setUp id n).after since := List.foldl_append
  rw [split]
  exact outstanding_after given.last ((outstanding_setUp _ id id n).trans (if_pos rfl))

theorem outstanding_of_never (never : ∀ m, .setUp id m ∉ calls) :
    (empty.after calls).outstanding id = none :=
  (outstanding_after (n := 0) never rfl).trans (remaining_of_le (Nat.zero_le _))

/-- A message was never given references, or there was a last time. -/
theorem never_or_lastSetUp (id : CorrelationId) (calls : List Call) :
    (∀ m, .setUp id m ∉ calls) ∨ ∃ n since, LastSetUp id n since calls := by
  induction calls using List.reverseRecOn with
  | nil => exact .inl fun _ => List.not_mem_nil
  | append_singleton calls call ih =>
      by_cases new : ∃ m, call = .setUp id m
      · obtain ⟨m, rfl⟩ := new
        exact .inr ⟨m, [], ⟨calls, rfl⟩, fun _ => List.not_mem_nil⟩
      · have unlike : ∀ m, .setUp id m ∉ [call] := fun m listed =>
          new ⟨m, (List.mem_singleton.1 listed).symm⟩
        rcases ih with never | ⟨n, since, ⟨earlier, rfl⟩, last⟩
        · exact .inl fun m listed => (List.mem_append.1 listed).elim (never m) (unlike m)
        · refine .inr ⟨n, since ++ [call], ⟨earlier, by simp⟩, fun m listed => ?_⟩
          exact (List.mem_append.1 listed).elim (last m) (unlike m)

/-- What is left of a message is left by the calls about it. -/
theorem outstanding_filter (id : CorrelationId) (calls : List Call) :
    (empty.after calls).outstanding id =
      (empty.after (calls.filter fun call => call.id = id)).outstanding id := by
  induction calls using List.reverseRecOn with
  | nil => rfl
  | append_singleton calls call ih =>
      rw [after_concat, List.filter_append]
      by_cases other : id ≠ call.id
      · have dropped : [call].filter (fun call => call.id = id) = [] := by simp [other.symm]
        rw [outstanding_answer_of_ne _ other, ih, dropped, List.append_nil]
      · have own : call.id = id := (not_not.1 other).symm
        have kept : [call].filter (fun call => call.id = id) = [call] := by simp [own]
        rw [kept, after_concat]
        cases call with
        | setUp _ n => rw [answer, answer, outstanding_setUp, outstanding_setUp, ih]
        | release id' =>
            obtain rfl : id' = id := own
            rw [answer, answer, outstanding_release, outstanding_release, ih]

/-- The messages that are counted are those with something left. -/
theorem Sound.size_eq (sound : r.Sound) :
    {id | ∃ n, 0 < n ∧ r.outstanding id = some n}.encard = r.size := by
  have counted : {id | ∃ n, 0 < n ∧ r.outstanding id = some n} = r.counts.keys.toFinset := by
    ext id
    rw [List.coe_toFinset]
    refine Iff.trans ?_ Table.mem_keys.symm
    constructor
    · rintro ⟨n, -, found⟩
      exact ⟨n, found⟩
    · rintro ⟨n, found⟩
      refine ⟨n, Nat.pos_of_ne_zero fun zero => sound.positive id ?_, found⟩
      exact zero ▸ found
  rw [counted, Set.encard_coe_eq_coe_finsetCard, List.toFinset_card_of_nodup sound.once, size,
    Table.size, Table.keys, List.length_map]

/-- However the calls about messages are mixed, what is left of a message is the number that it was
last given, less the releases of it since, and nothing if that is not positive or it was never given
any. A release reports the last reference just if it is the `n`-th since the message was given `n`.
Both hang on the calls about the message alone, and as many messages are counted as have something
left. -/
theorem releases_counted_since_set_up (calls : List Call) :
    let r := empty.after calls
    (∀ id n since, LastSetUp id n since calls →
      r.outstanding id = remaining n (since.count (.release id))) ∧
    (∀ id, (∀ n, .setUp id n ∉ calls) → r.outstanding id = none) ∧
    (∀ id, (r.release id).1 = true ↔
      ∃ n since, LastSetUp id n since calls ∧ since.count (.release id) + 1 = n) ∧
    (∀ id, let own := empty.after (calls.filter fun call => call.id = id)
      r.outstanding id = own.outstanding id ∧ (r.release id).1 = (own.release id).1) ∧
    {id | ∃ n, 0 < n ∧ r.outstanding id = some n}.encard = r.size := by
  intro r
  have sound : r.Sound := sound_empty.after calls
  refine ⟨fun id n since => outstanding_of_lastSetUp, fun id => outstanding_of_never, fun id => ?_,
    fun id => ?_, sound.size_eq⟩
  · rw [sound.release_eq_true]
    constructor
    · intro one
      rcases never_or_lastSetUp id calls with never | ⟨n, since, given⟩
      · exact nomatch one.symm.trans (outstanding_of_never never)
      · exact ⟨n, since, given,
          (remaining_eq_one n _).1 ((outstanding_of_lastSetUp given).symm.trans one)⟩
    · rintro ⟨n, since, given, last⟩
      exact (outstanding_of_lastSetUp given).trans ((remaining_eq_one n _).2 last)
  · intro own
    have same : r.outstanding id = own.outstanding id := outstanding_filter id calls
    refine ⟨same, Bool.eq_iff_iff.2 ?_⟩
    rw [sound.release_eq_true, (sound_empty.after _).release_eq_true, same]

/-- Two messages by turns, one of which is set up anew while references to it are left. -/
def interleaved : List Call :=
  [.setUp (.ofNat 1) 5, .release (.ofNat 1), .setUp (.ofNat 2) 1, .setUp (.ofNat 1) 2,
    .release (.ofNat 2), .release (.ofNat 1)]

/-- Of the first message one reference is left, and its release is the last; the second has none left,
and of a third nothing was ever known. -/
theorem releases_counted_since_set_up_interleaved :
    let r := empty.after interleaved
    LastSetUp (.ofNat 1) 2 [.release (.ofNat 2), .release (.ofNat 1)] interleaved ∧
      r.outstanding (.ofNat 1) = some 1 ∧ (r.release (.ofNat 1)).1 = true ∧
      LastSetUp (.ofNat 2) 1 [.setUp (.ofNat 1) 2, .release (.ofNat 2), .release (.ofNat 1)]
        interleaved ∧ r.outstanding (.ofNat 2) = none ∧
      (∀ n, .setUp (.ofNat 3) n ∉ interleaved) ∧ r.outstanding (.ofNat 3) = none := by
  intro r
  have given : LastSetUp (.ofNat 1) 2 [.release (.ofNat 2), .release (.ofNat 1)] interleaved :=
    ⟨⟨interleaved.take 3, rfl⟩, by simp⟩
  have given' : LastSetUp (.ofNat 2) 1 [.setUp (.ofNat 1) 2, .release (.ofNat 2),
      .release (.ofNat 1)] interleaved :=
    ⟨⟨interleaved.take 2, rfl⟩, by simp [CorrelationId.ofNat]⟩
  have never : ∀ n, .setUp (.ofNat 3) n ∉ interleaved := by simp [interleaved, CorrelationId.ofNat]
  obtain ⟨left, nothing, last, -, -⟩ := releases_counted_since_set_up interleaved
  exact ⟨given, (left _ _ _ given).trans (by decide),
    (last _).2 ⟨2, _, given, by decide⟩, given', (left _ _ _ given').trans (by decide), never,
    nothing _ never⟩

end MessageBroker.References
