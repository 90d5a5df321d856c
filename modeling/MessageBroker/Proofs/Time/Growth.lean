import Mathlib.Algebra.Group.Nat.Defs
import Mathlib.Data.List.Induction
import MessageBroker.Time.Backoff

/-!
# How delays grow

A loop computes each delay from the one before: it multiplies, and stops at the ceiling, also where
the product is too long to be computed. The outcome has a closed form in which nothing overflows. The
delay after `k` uses is the base times the `k`-th power of the factor, or the ceiling if that is less.
-/

namespace MessageBroker.Time

namespace Backoff

@[simp] theorem nanos_min (a c : Duration) : (a.min c).nanos = min a.nanos c.nanos := by
  unfold Duration.min
  split
  · exact (Nat.min_eq_left ‹_›).symm
  · exact (Nat.min_eq_right (by omega)).symm

/-- A product that is too long is longer than the ceiling, so the ceiling may stand for it. -/
theorem nanos_capped {ceiling : Duration} (known : ceiling.nanos < Duration.bound) (d : Duration)
    (n : Nat) :
    (((d.times? n).getD ceiling).min ceiling).nanos = min (d.nanos * n) ceiling.nanos := by
  rw [nanos_min, Duration.times?]
  split
  · rfl
  · rename_i long
    rw [Option.getD_none, Nat.min_self]
    exact (Nat.min_eq_right (by omega)).symm

/-- Something that is asked of a loop. -/
inductive Call where
  /-- The delay is handed out. -/
  | next
  /-- The delay is slept through. -/
  | wait
  | reset
deriving DecidableEq, Repr

/-- The delay that a call uses, if it uses one, and the loop after the call. -/
def answer (b : Backoff) : Call → Option Duration × Backoff
  | .next | .wait => (some b.next.1, b.next.2)
  | .reset => (none, b.reset)

/-- A loop after several calls. -/
def after (b : Backoff) (calls : List Call) : Backoff :=
  calls.foldl (fun b call => (b.answer call).2) b

/-- How many delays calls have used since the last reset among them. -/
def uses (calls : List Call) : Nat :=
  calls.foldl (fun k call => if call = .reset then 0 else k + 1) 0

/-- The delay after `k` uses. -/
def closedForm (base ceiling : Duration) (factor k : Nat) : Duration :=
  ⟨min (base.nanos * max factor 1 ^ k) ceiling.nanos⟩

variable {base ceiling : Duration} {factor : Nat}

theorem after_append (b : Backoff) (calls more : List Call) :
    b.after (calls ++ more) = (b.after calls).after more :=
  List.foldl_append

theorem uses_concat (calls : List Call) (call : Call) :
    uses (calls ++ [call]) = if call = .reset then 0 else uses calls + 1 := by
  rw [uses, List.foldl_append]
  rfl

theorem uses_append_of_not_mem {more : List Call} (goesOn : Call.reset ∉ more) (calls : List Call) :
    uses (calls ++ more) = uses calls + more.length := by
  induction more using List.reverseRecOn with
  | nil => rw [List.append_nil, List.length_nil, Nat.add_zero]
  | append_singleton more call ih =>
      obtain ⟨before, last⟩ := not_or.1 (mt List.mem_append.2 goesOn)
      have use : call ≠ .reset := fun same => last (same ▸ List.mem_singleton_self _)
      rw [← List.append_assoc, uses_concat, if_neg use, ih before, List.length_append,
        List.length_singleton, Nat.add_assoc]

/-- Multiplying what the ceiling has cut off once more changes nothing, since the factor is not zero:
the next delay is cut off as well. -/
theorem min_mul_pow (a c k : Nat) {f : Nat} (some' : 1 ≤ f) :
    min (min (a * f ^ k) c * f) c = min (a * f ^ (k + 1)) c := by
  have grown : c ≤ c * f := Nat.le_mul_of_pos_right c some'
  rw [Nat.pow_succ, ← Nat.mul_assoc]
  by_cases below : a * f ^ k ≤ c
  · rw [show min (a * f ^ k) c = a * f ^ k from Nat.min_eq_left below]
  · have above : c * f ≤ a * f ^ k * f := Nat.mul_le_mul_right f (by omega)
    rw [show min (a * f ^ k) c = c from Nat.min_eq_right (by omega),
      show min (c * f) c = c from Nat.min_eq_right grown]
    exact (Nat.min_eq_right (Nat.le_trans grown above)).symm

theorem closedForm_zero : closedForm base ceiling factor 0 = base.min ceiling := by
  rw [closedForm, Nat.pow_zero, Nat.mul_one, ← nanos_min]

/-- One more use takes the closed form one power further. -/
theorem closedForm_succ (known : ceiling.nanos < Duration.bound) (k : Nat) :
    ((((closedForm base ceiling factor k).times? (max factor 1)).getD ceiling).min ceiling) =
      closedForm base ceiling factor (k + 1) := by
  have capped := nanos_capped known (closedForm base ceiling factor k) (max factor 1)
  rw [closedForm, min_mul_pow _ _ _ (Nat.le_max_right _ _)] at capped
  rw [closedForm, closedForm, ← capped]

/-- What calls leave in a loop: its bounds stay as they were, and the delay has the closed form. -/
theorem after_new (known : ceiling.nanos < Duration.bound) (calls : List Call) :
    (new base ceiling factor).after calls =
      ⟨base, ceiling, max factor 1, closedForm base ceiling factor (uses calls)⟩ := by
  induction calls using List.reverseRecOn with
  | nil => rw [show uses [] = 0 from rfl, closedForm_zero]; rfl
  | append_singleton calls call ih =>
      have used : ((new base ceiling factor).after calls).next.2 =
          ⟨base, ceiling, max factor 1, closedForm base ceiling factor (uses calls + 1)⟩ := by
        rw [ih, ← closedForm_succ known]
        rfl
      rw [after_append, uses_concat]
      cases call with
      | next | wait => exact used
      | reset =>
          rw [if_pos rfl, closedForm_zero, ih]
          rfl

theorem closedForm_mono {j k : Nat} (later : j ≤ k) :
    (closedForm base ceiling factor j).nanos ≤ (closedForm base ceiling factor k).nanos := by
  have grown : base.nanos * max factor 1 ^ j ≤ base.nanos * max factor 1 ^ k :=
    Nat.mul_le_mul_left _ (Nat.pow_le_pow_right (Nat.le_max_right _ _) later)
  exact Nat.le_min.2 ⟨Nat.le_trans (Nat.min_le_left _ _) grown, Nat.min_le_right _ _⟩

/-- Whatever has been asked of a loop, the next delay is the base times the power of the factor that
counts the delays since the last reset, or the ceiling if that is less. The factor counts as at least
one, and nothing is said about the product, which may be as long as it likes. The loop shows this
delay before it is used, and delays do not get shorter until the next reset. -/
theorem delays_have_closed_form (known : ceiling.nanos < Duration.bound) (calls : List Call) :
    let b := (new base ceiling factor).after calls
    let delay := closedForm base ceiling factor (uses calls)
    b.current = delay ∧
    (∀ call, (b.answer call).1 = if call = .reset then none else some delay) ∧
    delay.nanos ≤ ceiling.nanos ∧
    ∀ more, .reset ∉ more → delay.nanos ≤ (b.after more).current.nanos := by
  dsimp only
  have here : (new base ceiling factor).after calls = _ := after_new known calls
  refine ⟨by rw [here], fun call => ?_, Nat.min_le_right _ _, fun more goesOn => ?_⟩
  · rw [here]
    cases call <;> rfl
  · have there : (new base ceiling factor).after (calls ++ more) = _ := after_new known _
    rw [after_append] at there
    rw [there, uses_append_of_not_mem goesOn]
    exact closedForm_mono (Nat.le_add_right _ _)

/-- Half of the longest time, tripled: the product is too long to be computed, and from then on the
loop waits for the ceiling, until it starts again. -/
theorem delays_have_closed_form_overflowing :
    let base := Duration.ofParts (2 ^ 63) 5
    let ceiling := Duration.ofParts (2 ^ 64 - 1) 999999999
    base.times? 3 = none ∧
      ((new base ceiling 3).after [.next, .wait]).current = ceiling ∧
      ((new base ceiling 3).after [.next, .wait, .reset]).current = base := by
  have known : (Duration.ofParts (2 ^ 64 - 1) 999999999).nanos < Duration.bound := by decide
  refine ⟨by decide, ?_, ?_⟩
  · exact (delays_have_closed_form known [.next, .wait]).1.trans (by decide)
  · exact (delays_have_closed_form known [.next, .wait, .reset]).1.trans (by decide)

end Backoff

end MessageBroker.Time
