import MessageBroker.Broker.Basic
import MessageBroker.Proofs.Lease.Classes

/-!
# Building a buffer pool

The sizes of the classes are doubled until one is large enough. Words end at 2^64, so the largest
power of two among them is 2^63, and what is asked for beyond it cannot be had: the first size or one
of the doublings leaves the word range, and nothing is built. Up to 2^63 every pool is built. The
doubling ends of itself; the bound on the number of doublings is never what ends it.

The receive buffers of a broker are asked for with its limit on bodies, to which the length of a
header is added as far as words go. So a broker without a limit, whose settings name the largest
word, gets no pool.
-/

namespace MessageBroker.Lease

namespace BufferPool

theorem two_pow_lt_wordBound {e : Nat} : 2 ^ e < wordBound ↔ e < 64 :=
  Nat.pow_lt_pow_iff_right (a := 2) (m := 64) (by decide)

theorem clog_lt_word {n : Nat} : Nat.clog 2 n < 64 ↔ n ≤ 2 ^ 63 := by
  rw [Nat.lt_succ_iff, Nat.clog_le_iff_le_pow (by decide)]

/-- From a power of two on, the sizes are the powers of two up to the first that is large enough. With
as many doublings as there are larger powers among the words, all that can fail is a doubling. -/
theorem sizes?_two_pow {most steps e : Nat} (word : e < 64) (enough : 64 ≤ steps + e) :
    sizes? most steps (2 ^ e) =
      if most ≤ 2 ^ 63 then
        some ((List.range (Nat.clog 2 most - e + 1)).map fun i => 2 ^ (e + i))
      else none := by
  induction steps generalizing e with
  | zero => omega
  | succ steps ih =>
    rw [sizes?]
    by_cases last : most ≤ 2 ^ e
    · have reached : Nat.clog 2 most ≤ e := (Nat.clog_le_iff_le_pow (by decide)).2 last
      have small : most ≤ 2 ^ 63 :=
        Nat.le_trans last (Nat.pow_le_pow_right (by decide) (by omega))
      rw [if_pos last, if_pos small, Nat.sub_eq_zero_of_le reached]
      rfl
    · have ahead : e < Nat.clog 2 most := (Nat.lt_clog_iff_pow_lt (by decide)).2 (Nat.not_le.1 last)
      rw [if_neg last, ← Nat.pow_succ]
      by_cases next : e + 1 < 64
      · rw [if_pos (two_pow_lt_wordBound.2 next), ih next (by omega)]
        have row : Nat.clog 2 most - e + 1 = Nat.clog 2 most - (e + 1) + 1 + 1 := by omega
        split
        · simp [row, List.range_succ_eq_map (n := Nat.clog 2 most - (e + 1) + 1), Nat.add_assoc,
            Nat.add_comm 1]
        · rfl
      · have large : ¬ most ≤ 2 ^ 63 := by
          rw [← clog_lt_word]
          omega
        rw [if_neg (mt two_pow_lt_wordBound.1 next), if_neg large]

theorem clog_max_lt_word {least : Nat} : Nat.clog 2 (max least 64) < 64 ↔ least ≤ 2 ^ 63 := by
  rw [clog_lt_word, Nat.max_le]
  exact and_iff_left (by decide)

/-- The sizes of a pool that is built, if it is. -/
theorem map_sizes_new? (firstId least most : Nat) (checks : Bool) :
    (new? firstId least most checks).map sizes =
      if least ≤ 2 ^ 63 ∧ most ≤ 2 ^ 63 then
        some ((List.range (Nat.clog 2 most - Nat.clog 2 (max least 64) + 1)).map fun i =>
          2 ^ (Nat.clog 2 (max least 64) + i))
      else none := by
  have listed : ∀ row : List Nat,
      (row.mapIdx fun i size =>
        (⟨size, Pool.new (firstId + i) ⟨classMaxIdle, checks⟩⟩ : SizeClass)).map SizeClass.size =
        row := by
    intro row
    apply List.ext_getElem <;> simp
  rw [new?, powerAtLeast?_eq]
  by_cases first : Nat.clog 2 (max least 64) < 64
  · rw [if_pos (two_pow_lt_wordBound.2 first), Option.bind_some,
      sizes?_two_pow first (Nat.le_add_right _ _)]
    by_cases small : most ≤ 2 ^ 63
    · rw [if_pos small, if_pos ⟨clog_max_lt_word.1 first, small⟩, Option.map_some, Option.map_some,
        sizes, listed]
    · rw [if_neg small, if_neg fun both => small both.2, Option.map_none, Option.map_none]
  · rw [if_neg (mt two_pow_lt_wordBound.1 first), Option.bind_none, Option.map_none,
      if_neg fun both => first (clog_max_lt_word.2 both.1)]

theorem isSome_new? (firstId least most : Nat) (checks : Bool) :
    (new? firstId least most checks).isSome ↔ least ≤ 2 ^ 63 ∧ most ≤ 2 ^ 63 := by
  rw [← Option.isSome_map (f := sizes), map_sizes_new?]
  split <;> rename_i small
  · exact iff_of_true rfl small
  · exact iff_of_false Bool.false_ne_true small

/-- The logarithm, rounded up, gives the least power of two that is large enough. -/
theorem isLeast_two_pow_clog (n : Nat) : IsLeast {s | (∃ a, s = 2 ^ a) ∧ n ≤ s} (2 ^ Nat.clog 2 n) := by
  refine ⟨⟨⟨_, rfl⟩, Nat.le_pow_clog (by decide) n⟩, ?_⟩
  rintro s ⟨⟨a, rfl⟩, large⟩
  exact Nat.pow_le_pow_right (by decide) ((Nat.clog_le_iff_le_pow (by decide)).2 large)

/-- A buffer pool is built exactly if both sizes that are asked for are at most 2^63, whatever bound is
put on the number of doublings. Its classes have the powers of two for their sizes, from the least
that is at least 64 and `least` up to the first that is at least `most`. So a broker has its receive
buffers exactly if its first buffers, and its largest frames, are no larger. -/
theorem built_up_to_largest_power (firstId least most : Nat) (checks : Bool) :
    ((new? firstId least most checks).isSome ↔ least ≤ 2 ^ 63 ∧ most ≤ 2 ^ 63) ∧
    (∀ p, new? firstId least most checks = some p → ∃ e k,
      p.sizes = (List.range (k + 1)).map (fun i => 2 ^ (e + i)) ∧
      IsLeast {s | (∃ a, s = 2 ^ a) ∧ max least 64 ≤ s} (2 ^ e) ∧
      (∀ i < k, 2 ^ (e + i) < most) ∧ most ≤ 2 ^ (e + k)) ∧
    (∀ start steps, powerAtLeast? (max least 64) = some start → 64 ≤ steps →
      sizes? most steps start = sizes? most 64 start) ∧
    ∀ settings : Settings.Engine, (Broker.buffersFor? settings).isSome ↔
      settings.initialBufferSize ≤ 2 ^ 63 ∧ settings.maxBodySize + Wire.headerSize ≤ 2 ^ 63 := by
  refine ⟨isSome_new? firstId least most checks, fun p built => ?_, fun start steps first long => ?_,
    fun settings => ?_⟩
  · have row := map_sizes_new? firstId least most checks
    rw [built, Option.map_some] at row
    split at row
    · have first := isLeast_two_pow_clog (max least 64)
      refine ⟨_, _, Option.some.inj row, first, fun i before => ?_, ?_⟩
      · exact (Nat.lt_clog_iff_pow_lt (by decide)).1 (by omega)
      · exact (Nat.clog_le_iff_le_pow (by decide)).1 (by omega)
    · cases row
  · rw [powerAtLeast?_eq] at first
    split at first
    · rename_i word
      cases first
      have small := two_pow_lt_wordBound.1 word
      rw [sizes?_two_pow small (by omega), sizes?_two_pow small (by omega)]
    · cases first
  · rw [Broker.buffersFor?, isSome_new?]
    refine and_congr_right fun _ => ?_
    have beyond : ¬ wordBound - 1 ≤ 2 ^ 63 := by decide
    omega

/-- A broker whose bodies may be as large as a word can say gets no receive buffers. -/
theorem no_buffers_without_limit :
    Broker.buffersFor? { maxBodySize := wordBound - 1 } = none ∧
      new? 0 4096 (wordBound - 1) true = none := by
  decide

end BufferPool

end MessageBroker.Lease
