import MessageBroker.Broker.Traffic
import MessageBroker.Proofs.Broker.Duties
import MessageBroker.Proofs.Broker.Pacing

/-!
# A broker whose links take their time

Everything that can happen to a broker can also happen while deliveries are suspended in their links.
Two things come to it: a delivery is suspended in place of the task that writes it, and a link
answers. Both are made of what happens without them, a delivery that is tracked, a frame that is
written, a send that gets an outcome, and a delivery that is concluded, so that what holds of the desk
and of the slots goes on holding. The order of the tasks in the line does not matter for it, as long
as those that write deliveries keep theirs.
-/

namespace MessageBroker

open Desk

/-- Something that can happen while links take their time. -/
inductive Motion where
  /-- An episode. A task that is performed in it is the next one that can be performed. -/
  | live (e : Episode)
  /-- The next task, which writes a delivery, is suspended. -/
  | stall
  /-- The link of a suspended delivery answers. -/
  | answer (ticket : Nat)

namespace Motion

/-- A move. -/
abbrev move (m : Move) : Motion := .live (.stir (.move m))

/-- Whether something that happens is a call. -/
def isCall : Motion → Bool
  | live e => e.isCall
  | _ => false

end Motion

namespace Broker

variable {b : Broker} {d : Delivery}

/-! ## Answers of links -/

/-- When a link answers, its frame is written, perhaps a send gets an outcome, and the delivery is
concluded. -/
theorem takeAnswer_cases (b : Broker) (d : Delivery) (ticket : Nat) : ∃ b' : Broker,
    (b' = (b.write d.client d.frame).2 ∨
      ∃ outcome, b' = ((b.write d.client d.frame).2.resolve d.id outcome).2) ∧
    b.takeAnswer d ticket = b'.conclude ticket := by
  unfold takeAnswer
  split <;> rename_i written
  · rw [written, noteWritten]
    split
    · exact ⟨_, .inr ⟨none, rfl⟩, rfl⟩
    · exact ⟨_, .inl rfl, rfl⟩
  · rw [written]
    exact ⟨_, .inr ⟨_, rfl⟩, rfl⟩

/-- What a frame that is written, a send that gets an outcome and a delivery that is concluded leave as
it is, an answer leaves as it is. -/
theorem takeAnswer_induction {P : Broker → Prop} (d : Delivery) (ticket : Nat)
    (write : ∀ b, P b → P (b.write d.client d.frame).2)
    (resolve : ∀ b outcome, P b → P (b.resolve d.id outcome).2)
    (conclude : ∀ b, P b → P (b.conclude ticket)) (before : P b) : P (b.takeAnswer d ticket) := by
  obtain ⟨b', reached, concluded⟩ := b.takeAnswer_cases d ticket
  rw [concluded]
  refine conclude b' ?_
  rcases reached with rfl | ⟨outcome, rfl⟩
  · exact write b before
  · exact resolve _ outcome (write b before)

/-! ## The desk and the deliveries on their way -/

/-- The desk is in order, and so are the deliveries on their way, whatever has become of them. -/
structure Tended (b : Broker) : Prop where
  attended : b.desk.Attended
  aloft : ∃ answered resumes down, b.books.cargo.Aloft [] answered resumes down

/-- A delivery that is concluded at any time is over if it has an outcome, and stays if it has none. -/
theorem aloft_conclude {answered : List Nat} {resumes : List Publication} {down : Bool}
    (aloft : b.books.cargo.Aloft [] answered resumes down) (ticket : Nat) :
    (b.conclude ticket).books.cargo.Aloft [] answered resumes down := by
  cases waiting : b.ledger.isWaiting ticket with
  | true =>
      rw [conclude_of_waiting aloft.tracked waiting]
      exact aloft
  | false =>
      by_cases flown : ticket ∈ b.flights.keys
      · exact conclude_aloft aloft (aloft.due ticket flown waiting)
      · cases found : b.flights.get? ticket with
        | none =>
            rw [conclude_of_missing found]
            exact aloft
        | some d => exact absurd (Table.mem_keys.2 ⟨d, found⟩) flown

namespace Tended

theorem resolve (tended : b.Tended) (id : CorrelationId) (outcome : Outcome) :
    (b.resolve id outcome).2.Tended := by
  obtain ⟨attended, answered, resumes, down, aloft⟩ := tended
  exact ⟨attended_resolve attended id outcome, _, _, _, resolve_aloft aloft id outcome⟩

/-- A link answers. -/
theorem takeAnswer (tended : b.Tended) (d : Delivery) (ticket : Nat) :
    (b.takeAnswer d ticket).Tended := by
  refine takeAnswer_induction d ticket ?_ (fun b outcome before => before.resolve d.id outcome) ?_
    tended
  · rintro b ⟨attended, answered, resumes, down, aloft⟩
    refine ⟨attended_write attended d.client d.frame, answered, resumes, down, ?_⟩
    rw [books_write]
    exact aloft
  · rintro b ⟨attended, answered, resumes, down, aloft⟩
    exact ⟨attended_conclude attended aloft.tracked aloft.keys ticket, answered, resumes, down,
      aloft_conclude aloft ticket⟩

/-- A delivery at the head of the line is tracked, in the place of one under the same id. -/
theorem launch (tended : b.Tended) {rest : List Task} (line : b.tasks = .send d :: rest) :
    ((Broker.resolve { b with tasks := rest } d.id (some .cancelled)).2.launch d).2.Tended := by
  obtain ⟨attended, answered, resumes, down, aloft⟩ := tended
  have popped : Attended { Broker.desk { b with tasks := rest } with
      sends := d :: (Broker.desk { b with tasks := rest }).sends } := desk_pop line ▸ attended
  have aloft' : (Broker.books { b with tasks := rest }).cargo.Aloft [] answered resumes down :=
    (congrArg Books.cargo (books_pop line)) ▸ aloft
  have unused := unused_of_resolve (b := { b with tasks := rest }) aloft'.tracked d.id
    (some .cancelled)
  have resolved := resolve_aloft_of_failure aloft' d.id
    (show Outcome.isAnswer (some .cancelled) = false from rfl)
  exact ⟨attended_launch (attended_replace popped) resolved unused, answered, resumes, down,
    launch_aloft resolved unused⟩

theorem live (tended : b.Tended) {e : Episode} (idle : e.isCall = true → b.desk.sends = [])
    (fresh : (b.live e).desk.Fresh) : (b.live e).Tended := by
  obtain ⟨attended, answered, resumes, down, aloft⟩ := tended
  obtain ⟨resumes', aloft'⟩ := aloft_live aloft e
  exact ⟨attended_live attended aloft idle fresh, _, resumes', _, aloft'⟩

end Tended

/-! ## The docket and the slots -/

theorem leads_takeAnswer (sound : b.ledger.Sound) (d : Delivery) (ticket : Nat) :
    Docket.Leads b.docket (b.takeAnswer d ticket).docket := by
  have written := b.docket_write d.client d.frame
  have sound' : (b.write d.client d.frame).2.ledger.Sound := by
    rw [show (b.write d.client d.frame).2.ledger = b.ledger from congrArg Docket.ledger written]
    exact sound
  obtain ⟨b', reached, concluded⟩ := b.takeAnswer_cases d ticket
  rw [concluded, ← written]
  rcases reached with rfl | ⟨outcome, rfl⟩
  · exact leads_conclude sound' ticket
  · refine (leads_resolve sound' d.id outcome).trans (leads_conclude ?_ ticket)
    rw [show ((b.write d.client d.frame).2.resolve d.id outcome).2.ledger = _ from
      congrArg Docket.ledger (docket_resolve _ d.id outcome)]
    exact (Ledger.resolve_settles sound' d.id outcome).sound sound'

theorem occupied_takeAnswer (occupied : b.Occupied [] []) (filed : b.docket.Filed) (d : Delivery)
    (ticket : Nat) : (b.takeAnswer d ticket).docket.Filed ∧ (b.takeAnswer d ticket).Occupied [] [] := by
  refine takeAnswer_induction (P := fun b => b.docket.Filed ∧ b.Occupied [] []) d ticket ?_ ?_ ?_
    ⟨filed, occupied⟩
  · rintro b ⟨filed, occupied⟩
    rw [docket_write]
    exact ⟨filed, occupied_write occupied d.client d.frame⟩
  · rintro b outcome ⟨filed, occupied⟩
    exact ⟨(leads_resolve filed.sound d.id outcome).filed filed,
      occupied_resolve occupied filed.sound d.id outcome⟩
  · rintro b ⟨filed, occupied⟩
    have landing : b.Occupied [] [ticket] :=
      ⟨occupied.loaded, fun n flown => (occupied.due n flown).imp_right fun due =>
        List.mem_append_left _ (List.append_nil b.books.concludes ▸ due)⟩
    exact ⟨(leads_conclude filed.sound ticket).filed filed,
      occupied_conclude landing filed.sound filed.keys⟩

end Broker

namespace Traffic

open Broker

/-- A broker and its suspended deliveries after something has happened. -/
def apply (t : Traffic) : Motion → Traffic
  | .live (.stir (.move .task)) => t.step
  | .live e => { t with broker := t.broker.live e }
  | .stall => t.stall
  | .answer ticket => t.answer ticket

/-- A broker and its suspended deliveries after several such things. -/
def after (t : Traffic) (motions : List Motion) : Traffic :=
  motions.foldl apply t

variable (t : Traffic)

/-! ## The order of the line -/

/-- The tasks that have to wait are those that conclude suspended deliveries. -/
theorem holds_eq_true {task : Task} (holds : t.holds task = true) :
    ∃ ticket ∈ t.suspended, task = .conclude ticket := by
  cases task with
  | conclude ticket => exact ⟨ticket, List.contains_iff_mem.1 holds, rfl⟩
  | _ => cases holds

/-- If no task can be performed, all that is left is to conclude suspended deliveries. -/
theorem held_of_rest {t : Traffic} (rests : t.runnable = []) {task : Task}
    (left : task ∈ t.broker.tasks) : ∃ ticket ∈ t.suspended, task = .conclude ticket := by
  apply t.holds_eq_true
  simpa using List.filter_eq_nil_iff.1 rests task left

theorem filterMap_of_rest {t : Traffic} (rests : t.runnable = []) {α : Type} {f : Task → Option α}
    (other : ∀ ticket, f (.conclude ticket) = none) : t.broker.tasks.filterMap f = [] := by
  refine List.filterMap_eq_nil_iff.2 fun task left => ?_
  obtain ⟨ticket, -, rfl⟩ := held_of_rest rests left
  exact other ticket

theorem perm_ordered : t.ordered.tasks.Perm t.broker.tasks := by
  have whole := List.filter_append_perm (fun task => !t.holds task) t.broker.tasks
  simp only [Bool.not_not] at whole
  exact whole

/-- What is not about a conclusion keeps its order. -/
theorem filterMap_ordered {α : Type} {f : Task → Option α}
    (other : ∀ ticket, f (.conclude ticket) = none) :
    t.ordered.tasks.filterMap f = t.broker.tasks.filterMap f := by
  have waits : ∀ task, t.holds task = true → f task = none := by
    intro task holds
    obtain ⟨ticket, -, rfl⟩ := t.holds_eq_true holds
    exact other ticket
  have nothing : t.held.filterMap f = [] :=
    List.filterMap_eq_nil_iff.2 fun task listed => waits task (List.mem_filter.1 listed).2
  rw [ordered, List.filterMap_append, nothing, List.append_nil, runnable, List.filterMap_filter]
  refine List.filterMap_congr fun task _ => ?_
  cases holds : t.holds task with
  | true => exact (waits task holds).symm
  | false => rfl

theorem desk_ordered : t.ordered.desk = t.broker.desk := by
  have sends : t.ordered.desk.sends = t.broker.desk.sends := t.filterMap_ordered fun _ => rfl
  rw [show t.ordered.desk = { t.broker.desk with sends := t.ordered.desk.sends } from rfl, sends]

theorem docket_ordered : t.ordered.docket = t.broker.docket :=
  docket_of_desk t.desk_ordered

theorem mem_concludes_ordered {n : Nat} :
    n ∈ t.ordered.books.concludes ↔ n ∈ t.broker.books.concludes :=
  (t.perm_ordered.filterMap Task.ticket?).mem_iff

theorem watch_ordered : t.ordered.watch = t.broker.watch := by
  refine watch_eq (fun k => ?_) rfl rfl
  have tasks := t.perm_ordered.count_eq (.work k)
  simp only [duty, tasks]
  rfl

theorem occupied_ordered (occupied : t.broker.Occupied [] []) : t.ordered.Occupied [] [] := by
  refine ⟨?_, fun n flown => (occupied.due n flown).imp_right fun due => ?_⟩
  · rw [desk_ordered]
    exact occupied.loaded
  · rw [List.append_nil] at due ⊢
    exact t.mem_concludes_ordered.2 due

/-! ## What each motion comes to -/

/-- The next task is performed, unless all tasks have to wait. -/
theorem step_cases : t.runnable = [] ∧ t.step = t ∨
    t.step = { t with broker := t.ordered.live (.stir (.move .task)) } := by
  unfold step ordered
  split <;> rename_i next
  · exact .inl ⟨next, rfl⟩
  · rw [next]
    exact .inr rfl

/-- An episode happens to the broker, in whose line the tasks that can be performed come first if one
of them is performed. -/
theorem apply_live (e : Episode) : t.apply (.live e) = t ∨
    ∃ b, (b = t.broker ∨ b = t.ordered) ∧ t.apply (.live e) = { t with broker := b.live e } := by
  cases e with
  | stir s =>
      cases s with
      | move m =>
          cases m with
          | task =>
              rcases t.step_cases with ⟨-, same⟩ | performed
              · exact .inl same
              · exact .inr ⟨_, .inr rfl, performed⟩
          | _ => exact .inr ⟨_, .inl rfl, rfl⟩
      | _ => exact .inr ⟨_, .inl rfl, rfl⟩
  | _ => exact .inr ⟨_, .inl rfl, rfl⟩

/-- A delivery is suspended when it has been tracked. -/
theorem stall_cases : t.stall = t ∨ ∃ d rest, t.ordered.tasks = .send d :: rest ∧
    let launched :=
      (Broker.resolve { t.ordered with tasks := rest } d.id (some .cancelled)).2.launch d
    t.stall = ⟨launched.2, launched.1 :: t.suspended⟩ := by
  unfold stall
  split
  · rename_i d rest next
    split
    · exact .inl rfl
    · refine .inr ⟨d, rest ++ t.held, ?_, rfl⟩
      rw [ordered, next]
      rfl
  · exact .inl rfl

theorem answer_cases (ticket : Nat) : t.answer ticket = t ∨
    ∃ d, ticket ∈ t.suspended ∧ t.broker.flights.get? ticket = some d ∧
      t.answer ticket = ⟨t.broker.takeAnswer d ticket, t.suspended.erase ticket⟩ := by
  unfold answer
  split
  · exact .inl rfl
  · rename_i d flown
    split
    · rename_i listed
      exact .inr ⟨d, List.contains_iff_mem.1 listed, flown, rfl⟩
    · exact .inl rfl

/-- All that a motion can come to: nothing, an episode, a delivery that is tracked and suspended, or an
answer. -/
theorem motion_cases (m : Motion) : t.apply m = t ∨
    (∃ e b, m = .live e ∧ (b = t.broker ∨ b = t.ordered) ∧
      t.apply m = { t with broker := b.live e }) ∨
    (∃ d rest, t.ordered.tasks = .send d :: rest ∧
      let launched :=
        (Broker.resolve { t.ordered with tasks := rest } d.id (some .cancelled)).2.launch d
      t.apply m = ⟨launched.2, launched.1 :: t.suspended⟩) ∨
    ∃ d ticket, ticket ∈ t.suspended ∧ t.broker.flights.get? ticket = some d ∧
      t.apply m = ⟨t.broker.takeAnswer d ticket, t.suspended.erase ticket⟩ := by
  cases m with
  | live e =>
      rcases t.apply_live e with same | ⟨b, which, lived⟩
      · exact .inl same
      · exact .inr (.inl ⟨e, b, rfl, which, lived⟩)
  | stall =>
      rcases t.stall_cases with same | stalled
      · exact .inl same
      · exact .inr (.inr (.inl stalled))
  | answer ticket =>
      rcases t.answer_cases ticket with same | ⟨d, answered⟩
      · exact .inl same
      · exact .inr (.inr (.inr ⟨d, ticket, answered⟩))

/-! ## What each motion keeps -/

variable {t}

/-- Motions change the docket as episodes do. -/
theorem leads_motion (sound : t.broker.ledger.Sound) (m : Motion) :
    Docket.Leads t.broker.docket (t.apply m).broker.docket := by
  rcases t.motion_cases m with same | ⟨e, b, -, which, lived⟩ | ⟨d, rest, line, stalled⟩ |
    ⟨d, ticket, -, -, answered⟩
  · rw [same]
  · have docket : b.docket = t.broker.docket := by
      rcases which with rfl | rfl
      · rfl
      · exact t.docket_ordered
    have ledger : b.ledger = t.broker.ledger := congrArg Docket.ledger docket
    rw [lived, ← docket]
    exact leads_live (ledger ▸ sound) e
  · have sound' : Ledger.Sound (Broker.ledger { t.ordered with tasks := rest }) := sound
    have popped : t.broker.docket = (Broker.docket { t.ordered with tasks := rest }).withNext d :=
      t.docket_ordered.symm.trans (congrArg Desk.docket (desk_pop line))
    rw [stalled, popped]
    exact (leads_replace sound' d).trans
      (leads_launch (unused_of_resolve sound' d.id (some .cancelled)))
  · rw [answered]
    exact leads_takeAnswer sound d ticket

/-- The slots in use stay those of deliveries. -/
theorem occupied_motion (occupied : t.broker.Occupied [] []) (filed : t.broker.docket.Filed)
    (m : Motion) : (t.apply m).broker.Occupied [] [] := by
  have occupied' := t.occupied_ordered occupied
  have filed' : t.ordered.docket.Filed := t.docket_ordered ▸ filed
  rcases t.motion_cases m with same | ⟨e, b, -, rfl | rfl, lived⟩ | ⟨d, rest, line, stalled⟩ |
    ⟨d, ticket, -, -, answered⟩
  · rw [same]
    exact occupied
  · rw [lived]
    exact occupied_live occupied filed e
  · rw [lived]
    exact occupied_live occupied' filed' e
  · rw [stalled]
    have popped : Occupied { t.ordered with tasks := rest } [d] [] := occupied'.pop line
    have left := filed_pop filed' line
    generalize { t.ordered with tasks := rest } = b at popped left ⊢
    exact occupied_launch (occupied_resolve popped left.sound d.id (some .cancelled))
      ((leads_resolve left.sound d.id (some .cancelled)).filed left)
      (unused_of_resolve left.sound d.id (some .cancelled))
  · rw [answered]
    exact (occupied_takeAnswer occupied filed d ticket).2

theorem leads_after (filed : t.broker.docket.Filed) (motions : List Motion) :
    Docket.Leads t.broker.docket (t.after motions).broker.docket := by
  induction motions generalizing t with
  | nil => exact .refl
  | cons m motions ih =>
      have first := leads_motion filed.sound m
      exact first.trans (ih (first.filed filed))

theorem occupied_after (occupied : t.broker.Occupied [] []) (filed : t.broker.docket.Filed)
    (motions : List Motion) : (t.after motions).broker.Occupied [] [] := by
  induction motions generalizing t with
  | nil => exact occupied
  | cons m motions ih =>
      exact ih (occupied_motion occupied filed m) ((leads_motion filed.sound m).filed filed)

end Traffic

end MessageBroker
