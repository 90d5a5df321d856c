import Mathlib.Algebra.Order.BigOperators.Group.Multiset
import Mathlib.Algebra.BigOperators.Group.Finset.Basic
import MessageBroker.Broker.Stats
import MessageBroker.Proofs.Broker.Traffic

/-!
# Accounts of slots

The slots of a client are shared by all queues it consumes from. A delivery is started only while
fewer deliveries to its client are outstanding than the ceiling of that moment allows, no slot is
given back that is not in use, and when nothing is left to do before the clock moves the slots in
use, the deliveries that wait for an outcome and those that clients remember are the same.
-/

namespace MessageBroker

open Desk

namespace Broker

variable {b : Broker} {x : Delivery}

section Rest

variable {answered : List Nat} {resumes : List Publication} {down : Bool}
  (attended : b.desk.Attended) (aloft : b.books.cargo.Aloft [] answered resumes down)
  (done : b.tasks = [])
include done

theorem sends_of_done : b.desk.sends = [] := by
  rw [desk, done]
  rfl

theorem outstanding_of_done : b.desk.outstanding = b.flights.values :=
  outstanding_of_unsent (sends_of_done done)

include aloft

include attended

/-- The client of a delivery on its way is connected. -/
theorem seated_of_done : ∀ x ∈ b.flights.values, b.desk.Seated x.client := by
  intro x listed
  obtain ⟨ticket, flown⟩ := (Table.mem_values aloft.keys).1 listed
  exact attended.traced.linked ticket x flown (waits_of_done aloft done (Table.mem_keys.2 ⟨x, flown⟩))

end Rest

end Broker

/-! ## Runs -/

namespace Traffic

open Broker

variable {t : Traffic}

/-- No call is made while a delivery is going to be written. So it is if the tasks are performed
first, whenever a call has put some in the line. -/
def Orderly (t : Traffic) : List Motion → Prop
  | [] => True
  | m :: motions => (m.isCall = true → t.broker.desk.sends = []) ∧ Orderly (t.apply m) motions

instance decidableOrderly : (t : Traffic) → (motions : List Motion) → Decidable (t.Orderly motions)
  | _, [] => isTrue trivial
  | t, m :: motions =>
    have := decidableOrderly (t.apply m) motions
    inferInstanceAs (Decidable ((m.isCall = true → t.broker.desk.sends = []) ∧
      Orderly (t.apply m) motions))

theorem orderly_append (motions more : List Motion) :
    t.Orderly (motions ++ more) ↔ t.Orderly motions ∧ (t.after motions).Orderly more := by
  induction motions generalizing t with
  | nil => exact ⟨fun orderly => ⟨trivial, orderly⟩, And.right⟩
  | cons m motions ih => exact (and_congr_right fun _ => ih).trans and_assoc.symm

/-- A call puts no delivery in the line. -/
theorem sends_of_call {m : Motion} (call : m.isCall = true) :
    (t.apply m).broker.desk.sends = t.broker.desk.sends := by
  cases m with
  | live e =>
      rcases t.apply_live e with same | ⟨b, which, lived⟩
      · rw [same]
      · rw [lived]
        refine (Broker.sends_of_call (b := b) call).trans ?_
        rcases which with rfl | rfl
        · rfl
        · exact congrArg Desk.sends t.desk_ordered
  | stall => cases call
  | answer ticket => cases call

/-- Whatever is called while no delivery is going to be written is orderly, and so is what is performed
then. -/
theorem orderly_turn {calls others : List Motion} (called : ∀ m ∈ calls, m.isCall = true)
    (performed : ∀ m ∈ others, m.isCall = false) (idle : t.broker.desk.sends = []) :
    t.Orderly (calls ++ others) := by
  induction calls generalizing t with
  | cons m calls ih =>
      have call := called m List.mem_cons_self
      exact ⟨fun _ => idle, ih (fun m' listed => called m' (List.mem_cons_of_mem _ listed))
        ((sends_of_call call).trans idle)⟩
  | nil =>
      clear idle
      induction others generalizing t with
      | nil => trivial
      | cons m others ih =>
          have other := performed m List.mem_cons_self
          refine ⟨fun call => ?_, ih fun m' listed => performed m' (List.mem_cons_of_mem _ listed)⟩
          rw [other] at call
          cases call

/-- Turns of a broker all of whose tasks that can be performed are performed in each: something is
called, and then tasks are performed or suspended and links answer until no such task is left. -/
def Paced (t : Traffic) : List (List Motion × List Motion) → Prop
  | [] => True
  | (calls, others) :: turns =>
    (∀ m ∈ calls, m.isCall = true) ∧ (∀ m ∈ others, m.isCall = false) ∧
      (t.after (calls ++ others)).runnable = [] ∧ Paced (t.after (calls ++ others)) turns

/-- A task that writes a delivery can be performed. -/
theorem sends_of_runnable (rests : t.runnable = []) : t.broker.desk.sends = [] :=
  filterMap_of_rest rests fun _ => rfl

/-- A broker that has nothing left to perform after each turn is called in order. -/
theorem orderly_of_paced {turns : List (List Motion × List Motion)} (paced : t.Paced turns)
    (idle : t.broker.desk.sends = []) : t.Orderly (turns.flatMap fun turn => turn.1 ++ turn.2) := by
  induction turns generalizing t with
  | nil => trivial
  | cons turn turns ih =>
      obtain ⟨called, performed, done, paced⟩ := paced
      exact (orderly_append _ _).2
        ⟨orderly_turn called performed idle, ih paced (sends_of_runnable done)⟩

end Traffic

namespace Broker

/-- Two queues share a reader with a single slot, something is published to both, and the link of the
reader takes its time. -/
def shared : List Motion :=
  [.move (.declare "left" "news"), .move (.declare "right" "news"), .move (.connect "reader" .reliable),
    .move (.subscribe "reader" "left" (some 1)), .move (.subscribe "reader" "right" none),
    .move (.publish ⟨.ofNat 1, "news", [7], none, 0⟩), .move .task, .move .task, .move .task, .stall,
    .move .task]

end Broker

end MessageBroker
