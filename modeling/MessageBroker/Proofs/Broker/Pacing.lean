import MessageBroker.Proofs.Broker.Occupancy

/-!
# A broker that is called when it is at rest

Whoever calls a broker lets it finish first. It need not have come to rest altogether: it is enough
that no delivery is going to be written, and for a connection that no task is left. The desk of a broker
that is called in this way is in order, whatever becomes of its store, and also after the shutdown.
-/

namespace MessageBroker

open Desk

namespace Episode

/-- Whether an episode is a call. The others perform what is due, let time pass, or are up to the
store. -/
def isCall : Episode → Bool
  | .stir (.move m) => m.isCall
  | .shutDown => true
  | _ => false

/-- Whether a connection is made. -/
def connects : Episode → Bool
  | .stir (.move (.connect ..)) => true
  | _ => false

/-- Whether the broker is shut down. -/
def shutsDown : Episode → Bool
  | .shutDown => true
  | _ => false

end Episode

namespace Broker

variable {b : Broker} {answered : List Nat} {resumes : List Publication} {down : Bool}

/-- What a broker is expected to have done before an episode. -/
def IsReadyFor (b : Broker) (e : Episode) : Prop :=
  (e.isCall = true → b.desk.sends = []) ∧ (e.connects = true → b.tasks = [])

instance (b : Broker) (e : Episode) : Decidable (b.IsReadyFor e) :=
  inferInstanceAs (Decidable (_ ∧ _))

/-- Nobody hurries the broker. -/
def Unhurried (b : Broker) : List Episode → Prop
  | [] => True
  | e :: life => b.IsReadyFor e ∧ Unhurried (b.live e) life

instance decidableUnhurried : (b : Broker) → (life : List Episode) → Decidable (b.Unhurried life)
  | _, [] => isTrue trivial
  | b, e :: life =>
    have := decidableUnhurried (b.live e) life
    inferInstanceAs (Decidable (b.IsReadyFor e ∧ Unhurried (b.live e) life))

theorem unhurried_append (life more : List Episode) :
    b.Unhurried (life ++ more) ↔ b.Unhurried life ∧ (b.through life).Unhurried more := by
  induction life generalizing b with
  | nil => exact ⟨fun unhurried => ⟨trivial, unhurried⟩, And.right⟩
  | cons e life ih => exact (and_congr_right fun _ => ih).trans and_assoc.symm

/-- A call puts no delivery in the line. -/
theorem sends_of_call {e : Episode} (call : e.isCall = true) :
    (b.live e).desk.sends = b.desk.sends := by
  cases e with
  | store depot => cases call
  | shutDown => exact congrArg Reserve.sends b.reserve_shutDown
  | stir s =>
      cases s with
      | move m => exact sends_of_isCall call
      | holdUp holdsUp => cases call
      | letGo n => cases call

/-- Calls that are made one after the other, the first of which may be a connection, and what is
performed then. -/
theorem unhurried_turn {calls others : List Episode} (called : ∀ e ∈ calls, e.isCall = true)
    (first : ∀ e ∈ calls.tail, e.connects = false) (performed : ∀ e ∈ others, e.isCall = false)
    (idle : b.tasks = []) : b.Unhurried (calls ++ others) := by
  have later : ∀ (others : List Episode) (b : Broker), (∀ e ∈ others, e.isCall = false) →
      b.Unhurried others := by
    intro others
    induction others with
    | nil => exact fun _ _ => trivial
    | cons e others ih =>
        intro b performed
        have other := performed e List.mem_cons_self
        refine ⟨⟨fun call => absurd (call.symm.trans other) Bool.false_ne_true.symm, ?_⟩,
          ih _ fun e' listed => performed e' (List.mem_cons_of_mem e listed)⟩
        intro connects
        unfold Episode.connects at connects
        split at connects <;> cases connects
        cases other
  have quiet : ∀ (calls : List Episode) (b : Broker), (∀ e ∈ calls, e.isCall = true) →
      (∀ e ∈ calls, e.connects = false) → b.desk.sends = [] → b.Unhurried (calls ++ others) := by
    intro calls
    induction calls with
    | nil => exact fun b _ _ _ => later others b performed
    | cons e calls ih =>
        intro b called plain idle
        have other := plain e List.mem_cons_self
        refine ⟨⟨fun _ => idle, fun connects => ?_⟩, ih _
          (fun e' listed => called e' (List.mem_cons_of_mem e listed))
          (fun e' listed => plain e' (List.mem_cons_of_mem e listed))
          ((sends_of_call (called e List.mem_cons_self)).trans idle)⟩
        rw [other] at connects
        cases connects
  have sends : b.desk.sends = [] := by simp [desk, idle]
  cases calls with
  | nil => exact later others b performed
  | cons e calls =>
      refine ⟨⟨fun _ => sends, fun _ => idle⟩, quiet calls _
        (fun e' listed => called e' (List.mem_cons_of_mem e listed)) first
        ((sends_of_call (called e List.mem_cons_self)).trans sends)⟩

/-- Turns of a broker that comes to rest after each: something is called, which is a connection at most
in the first place, and then tasks are performed until none is left. -/
def ComesToRest (b : Broker) : List (List Episode × List Episode) → Prop
  | [] => True
  | (calls, others) :: turns =>
    (∀ e ∈ calls, e.isCall = true) ∧ (∀ e ∈ calls.tail, e.connects = false) ∧
      (∀ e ∈ others, e.isCall = false) ∧
      (b.through (calls ++ others)).tasks = [] ∧ ComesToRest (b.through (calls ++ others)) turns

instance decidableComesToRest :
    (b : Broker) → (turns : List (List Episode × List Episode)) → Decidable (b.ComesToRest turns)
  | _, [] => isTrue trivial
  | b, (calls, others) :: turns =>
    have := decidableComesToRest (b.through (calls ++ others)) turns
    inferInstanceAs (Decidable ((∀ e ∈ calls, e.isCall = true) ∧ (∀ e ∈ calls.tail, _) ∧
      (∀ e ∈ others, _) ∧ (b.through (calls ++ others)).tasks = [] ∧ ComesToRest _ turns))

/-- A broker that comes to rest after each turn is not hurried. -/
theorem unhurried_of_comesToRest {turns : List (List Episode × List Episode)}
    (rests : b.ComesToRest turns) (idle : b.tasks = []) :
    b.Unhurried (turns.flatMap fun turn => turn.1 ++ turn.2) := by
  induction turns generalizing b with
  | nil => trivial
  | cons turn turns ih =>
      obtain ⟨called, first, performed, done, rests⟩ := rests
      exact (unhurried_append _ _).2 ⟨unhurried_turn called first performed idle, ih rests done⟩

/-! ## The shutdown -/

/-- A shutdown settles deliveries, but answers none. -/
theorem aloft_shutDown (aloft : b.books.cargo.Aloft [] answered resumes down) :
    b.shutDown.books.cargo.Aloft [] answered resumes true :=
  shutDown_induction (P := fun b => b.books.cargo.Aloft [] answered resumes true)
    { aloft with kept := rfl }
    (fun {b'} j before => by
      have cargo : (b'.closeLane j).books.cargo = b'.books.cargo := by
        rw [books_closeLane]
        rfl
      exact cargo ▸ before)
    (fun id before => resolve_aloft_of_failure before id rfl)
    (fun _ before => before)

theorem attended_closeLane (attended : b.desk.Attended) (j : Nat) :
    (b.closeLane j).desk.Attended := by
  rw [desk_closeLane]
  cases found : b.desk.notices[j]? with
  | none =>
      rw [modifyNotice, List.modify_eq_self (List.getElem?_eq_none_iff.1 found)]
      exact attended
  | some n =>
      cases opened : n.isClosed with
      | true =>
          have same : b.desk.notices.modify j (fun n => { n with isClosed := true }) =
              b.desk.notices := by
            refine List.ext_getElem? fun i => ?_
            rw [List.getElem?_modify]
            by_cases here : j = i
            · subst here
              simp [found, ← opened]
            · simp [here]
          rw [modifyNotice, same]
          exact attended
      | false =>
          rw [modifyNotice, attended.roll.names.modify_eq_map found opened]
          refine attended.revise (attended.roll.revise attended.roll.once (fun _ _ here => here)
            (among_marks fun _ => rfl) fun n' posted opened' m mem => ?_) fun _ => rfl
          unfold among at opened' mem
          split at opened' <;> rename_i concerned
          · cases opened'
          · rw [if_neg concerned] at mem
            exact attended.roll.listed n' posted opened' m mem

theorem attended_shutDown (attended : b.desk.Attended) : b.shutDown.desk.Attended :=
  shutDown_induction (P := fun b => b.desk.Attended) attended
    (fun j before => attended_closeLane before j)
    (fun id before => attended_resolve before id (some .cancelled))
    (fun c before => before.relink c fun client => client.link.close)

/-! ## One episode -/

/-- The tickets of the deliveries that a peer answers in an episode. -/
def answersIn (b : Broker) : Episode → List Nat
  | .stir (.move m) => b.answersOf m
  | _ => []

/-- Deliveries on their way stay in good order, whichever publications go on. -/
theorem aloft_live (aloft : b.books.cargo.Aloft [] answered resumes down) (e : Episode) :
    ∃ resumes', (b.live e).books.cargo.Aloft [] (answered ++ b.answersIn e) resumes'
      (e.shutsDown || down) := by
  have quiet : b.books.cargo.Aloft [] (answered ++ []) resumes down := by
    rw [List.append_nil]
    exact aloft
  -- What is about to go on does not concern the deliveries.
  have regardless : ∀ b' : Broker,
      b'.books.cargo = { b.books.cargo with resumes := b'.books.resumes } →
      b'.books.cargo.Aloft [] (answered ++ []) b'.books.resumes down := by
    intro b' cargo
    rw [cargo]
    exact { quiet with resumed := rfl }
  cases e with
  | store depot => exact ⟨resumes, quiet⟩
  | shutDown => exact ⟨resumes, aloft_shutDown quiet⟩
  | stir s =>
      cases s with
      | holdUp holdsUp =>
          refine ⟨_, regardless _ ?_⟩
          cases holdsUp <;>
            simp [live, stir, setHoldUp, books, Books.cargo, Task.delivery?, Task.ticket?]
      | letGo n =>
          refine ⟨resumes, ?_⟩
          simp only [live, stir]
          split
          · exact quiet
          · rename_i p _
            have cargo := cargo_bring { b with heldUp := b.heldUp.eraseIdx n } p.message p.lanes
            exact (show (resumePublish { b with heldUp := b.heldUp.eraseIdx n } p).books.cargo =
              b.books.cargo from cargo) ▸ quiet
      | move m =>
          by_cases goesOn : b.Resumes m
          · obtain ⟨rfl, p, rest, line⟩ := goesOn
            have went : b.apply .task = resumePublish { b with tasks := rest } p := by
              simp only [apply, line, perform]
            have cargo := cargo_bring { b with tasks := rest } p.message p.lanes
            refine ⟨_, regardless (b.apply .task) ?_⟩
            rw [went, show (resumePublish { b with tasks := rest } p).books.cargo = _ from cargo,
              show (resumePublish { b with tasks := rest } p).books.resumes = _ from
                congrArg Cargo.resumes cargo, books_pop line]
            rfl
          · exact ⟨resumes, move_aloft aloft m goesOn⟩

/-- The desk stays in order if no call is made while a delivery is going to be written. -/
theorem attended_live (attended : b.desk.Attended)
    (aloft : b.books.cargo.Aloft [] answered resumes down) {e : Episode}
    (idle : e.isCall = true → b.desk.sends = []) (fresh : (b.live e).desk.Fresh) :
    (b.live e).desk.Attended := by
  cases e with
  | store depot => exact attended
  | shutDown => exact attended_shutDown attended
  | stir s =>
      cases s with
      | move m => exact attended_apply attended aloft idle fresh
      | holdUp holdsUp =>
          cases holdsUp with
          | true => exact attended
          | false =>
              have desk : (b.live (.stir (.holdUp false))).desk = { b.desk with heldUp := [] } := by
                simp [live, stir, setHoldUp, desk, List.filterMap_append, Task.delivery?]
              rw [desk]
              exact attended.holdUp []
      | letGo n =>
          simp only [live, stir]
          split
          · exact attended
          · rename_i p _
            rw [desk_resumePublish]
            exact attended.holdUp _

end Broker

end MessageBroker
