import MessageBroker.Proofs.Broker.Duties
import MessageBroker.Proofs.Broker.Moves

/-!
# No wakeup is lost

A worker that is at work has no task in the line and no alarm. It closes its gate before it tries to
deliver. Whatever opens the gate during the attempt finds nobody before it, so the worker passes
when it comes there; if the gate is still closed nothing has been missed and the worker stands
before it. In every state that a broker gets to, as long as the clock goes on, each worker does its
duty, and at rest this says what it waits for.
-/

namespace MessageBroker

/-- One worker is at work, at a post, and the others do their duty. -/
structure Watch.Busy (w : Watch) (k : Nat) (post : Post) : Prop where
  own : w.duty k = ⟨some post, 0, []⟩
  stage : post.stage = .due
  patient : post.backoff.Within w.settings.backoffMaxMs
  others : ∀ j, j ≠ k → (w.duty j).Kept w.now w.settings.backoffMaxMs

namespace Watch.Busy

variable {w : Watch} {k : Nat} {post : Post}

/-- The worker changes its post. -/
theorem update (busy : w.Busy k post) {f : Duty → Duty} {post' : Post}
    (own : f ⟨some post, 0, []⟩ = ⟨some post', 0, []⟩) (stage : post'.stage = .due)
    (patient : post'.backoff.Within w.settings.backoffMaxMs) : (w.update k f).Busy k post' := by
  refine ⟨?_, stage, patient, ?_⟩
  · rw [update_duty, busy.own, own]
  · intro j other
    simpa [Watch.update, other] using busy.others j other

/-- The worker has finished its work. -/
theorem finish (busy : w.Busy k post) {f : Duty → Duty}
    (own : (f ⟨some post, 0, []⟩).Kept w.now w.settings.backoffMaxMs) : (w.update k f).Kept := by
  intro j
  by_cases here : j = k
  · rw [here, update_duty, busy.own]
    exact own
  · simpa [Watch.update, here] using busy.others j here

end Watch.Busy

namespace Broker

variable {b : Broker} {k : Nat} {post : Post}

/-! ## A worker at work -/

/-- How a worker comes through its gate after an attempt to deliver. -/
def meets? (b : Broker) (k : Nat) : Option Queue.Passage :=
  (b.attempt k).2.lanes[k]?.map fun lane => (lane.queue.gate.arrive ()).1

/-- A worker at work has a lane. -/
theorem lane_of_busy (busy : b.watch.Busy k post) :
    ∃ lane, b.lanes[k]? = some lane ∧ lane.post = post := by
  have found : b.lanes[k]?.map Lane.post = some post := congrArg Duty.post? busy.own
  exact Option.map_eq_some_iff.1 found

/-- A lane is changed while its worker is at work. -/
theorem busy_modifyLane (busy : b.watch.Busy k post) {f : Lane → Lane} {post' : Post}
    (does : ∀ lane, b.lanes[k]? = some lane → lane.post = post → (f lane).post = post')
    (stage : post'.stage = .due) (patient : post'.backoff.Within b.settings.backoffMaxMs) :
    (b.modifyLane k f).watch.Busy k post' := by
  obtain ⟨lane, found, rfl⟩ := lane_of_busy busy
  have does' : ∀ lane', b.lanes[k]? = some lane' → (f lane').post = (fun _ => post') lane'.post := by
    intro lane' found'
    cases found.symm.trans found'
    exact does lane found rfl
  rw [b.watch_modifyLane k (g := fun _ => post') does']
  exact busy.update rfl stage patient

/-- A worker at work is not called. -/
theorem busy_rouse (busy : b.watch.Busy k post) : (b.rouse k).watch.Busy k post := by
  rw [watch_rouse]
  exact busy.update (by simp [Duty.rouse, busy.stage]) busy.stage busy.patient

/-- A worker at work does not stand before its gate. -/
theorem busy_stepAside (busy : b.watch.Busy k post) :
    ∃ gate : Queue.Gate Unit, gate.waiter = none ∧
      (b.stepAside k).watch.Busy k { post with gate } := by
  have leaves : ∀ gate : Queue.Gate Unit, ∃ gate' : Queue.Gate Unit, gate'.waiter = none ∧
      gate' = if gate.waiter = none then gate
        else if gate.isOpen then (gate.look ()).2 else gate.leave := by
    rintro ⟨isOpen, permit, waiter⟩
    cases waiter <;> cases isOpen <;> exact ⟨_, rfl, rfl⟩
  obtain ⟨gate, empty, after⟩ := leaves post.gate
  refine ⟨gate, empty, busy_modifyLane busy ?_ busy.stage busy.patient⟩
  rintro lane - rfl
  rw [after]
  cases place : lane.queue.gate.waiter with
  | none => simp [Lane.post, place]
  | some waiter => cases held : lane.queue.gate.isOpen <;> simp [Lane.post, place, held]

/-- A queue that is open takes back the message that could not be sent off. -/
theorem busy_requeue (busy : b.watch.Busy k post) (opened : post.isClosed = false)
    (m : CorrelationId) :
    (b.requeue k m).watch.Busy k
      { post with pending := m :: post.pending, gate := post.gate.unblock } := by
  obtain ⟨lane, found, rfl⟩ := lane_of_busy busy
  have takes : lane.queue.requeue m =
      (true, { lane.queue with pending := m :: lane.queue.pending }.openGate) := by
    rw [Queue.requeue, if_neg (by simpa [Lane.post] using opened)]
  simp only [requeue, found, takes, if_true]
  refine busy_rouse (busy_modifyLane busy ?_ busy.stage busy.patient)
  intro lane' found' _
  cases found.symm.trans found'
  rfl

/-- What an attempt of a worker leaves behind. -/
structure Tried (b : Broker) (k : Nat) (before : Post) (progress : Progress) (after : Post) : Prop where
  busy : b.watch.Busy k after
  isOpen : after.isClosed = false
  backoff : after.backoff = before.backoff
  place : after.gate.waiter = none
  idle : progress = .idle → after.pending = []
  saturated : progress = .saturated → after.pending ≠ []

theorem tried_sendOff {c : Nat} {m : CorrelationId} (busy : b.watch.Busy k post)
    (opened : post.isClosed = false) (place : post.gate.waiter = none) :
    ∃ post', Tried (b.sendOff k c m).2 k post (b.sendOff k c m).1 post' := by
  unfold sendOff
  split <;> rename_i depot _
  · refine ⟨post, ?_, opened, rfl, place, nofun, nofun⟩
    rw [watch_later _ (by simp)]
    exact busy
  · refine ⟨post, ?_, opened, rfl, place, nofun, nofun⟩
    rw [watch_release]
    exact busy
  · refine ⟨_, busy_requeue (b := Broker.giveSlotBack { b with depot } c) busy opened m, opened, rfl, ?_,
      nofun, fun _ => by simp⟩
    simp [Queue.Gate.unblock, place]

/-- An attempt finds nothing to deliver only if nothing waits, and nobody to deliver to only if
something does. -/
theorem tried_offer (busy : b.watch.Busy k post) (opened : post.isClosed = false)
    (place : post.gate.waiter = none) :
    ∃ post', Tried (b.offer k).2 k post (b.offer k).1 post' := by
  obtain ⟨lane, found, rfl⟩ := lane_of_busy busy
  unfold offer
  rw [found]
  dsimp only
  cases waiting : lane.queue.pending with
  | nil => exact ⟨lane.post, busy, opened, rfl, place, fun _ => waiting, nofun⟩
  | cons m rest =>
      have chosen : ∀ roster : Queue.Roster,
          (b.modifyQueue k fun queue => { queue with roster }).watch.Busy k lane.post := by
        intro roster
        exact busy_modifyLane busy (fun _ _ same => same) busy.stage busy.patient
      dsimp only
      split
      · refine ⟨lane.post, chosen _, opened, rfl, place, nofun, ?_⟩
        simp [Lane.post, waiting]
      · rename_i member _
        have taken : ∀ roster : Queue.Roster,
            (((b.modifyQueue k fun queue => { queue with roster }).modifyClient member.client
              Peer.Client.occupy).modifyQueue k fun queue => { queue with pending := rest }).watch.Busy
              k { lane.post with pending := rest } := by
          intro roster
          refine busy_modifyLane (chosen roster) ?_ busy.stage busy.patient
          rintro lane' - same
          rw [← same]
          rfl
        obtain ⟨post', tried⟩ := tried_sendOff (c := member.client) (m := m) (taken _) opened place
        exact ⟨post', tried.busy, tried.isOpen, tried.backoff, tried.place, tried.idle, tried.saturated⟩

/-- Whatever the attempt of a worker changes, its place before the gate stays free. -/
theorem tried_attempt (busy : b.watch.Busy k post) (opened : post.isClosed = false) :
    ∃ post', Tried (b.attempt k).2 k post (b.attempt k).1 post' := by
  obtain ⟨gate, empty, aside⟩ := busy_stepAside busy
  have blocked : ((b.stepAside k).modifyQueue k fun queue =>
      { queue with gate := queue.gate.block }).watch.Busy k { post with gate := gate.block } := by
    refine busy_modifyLane aside ?_ busy.stage busy.patient
    rintro lane - same
    simp only [Lane.post, Post.mk.injEq] at same
    simp [Lane.post, same]
  obtain ⟨post', tried⟩ := tried_offer blocked opened empty
  exact ⟨post', tried.busy, tried.isOpen, tried.backoff, tried.place, tried.idle, tried.saturated⟩

/-! ## A worker at its gate -/

/-- A worker that comes to a place that is free passes or waits. -/
theorem kept_await (busy : b.watch.Busy k post) (opened : post.isClosed = false)
    (place : post.gate.waiter = none) {until? : Option Nat}
    (idle : until? = none → post.pending = [])
    (retrying : ∀ due, until? = some due →
      post.pending ≠ [] ∧ due ≤ b.now + b.settings.backoffMaxMs) :
    (b.await k until?).watch.Kept := by
  obtain ⟨lane, found, rfl⟩ := lane_of_busy busy
  have place' : lane.queue.gate.waiter = none := place
  unfold await
  rw [found]
  cases up : lane.queue.gate.isOpen with
  | true =>
      have stays : (b.modifyQueue k fun queue =>
          { queue with gate := lane.queue.gate }).watch.Busy k lane.post := by
        refine busy_modifyLane busy ?_ busy.stage busy.patient
        intro lane' found' _
        cases found.symm.trans found'
        rfl
      simp only [Queue.Gate.arrive, up, if_true]
      rw [watch_next_work]
      exact stays.finish ⟨.due busy.stage, fun _ same => by cases same; exact busy.patient⟩
  | false =>
      have stands : ∀ gate : Queue.Gate Unit, ((b.modifyQueue k fun queue =>
          { queue with gate }).setStage k .waiting).watch =
          b.watch.update k (Duty.modify fun post => { post with gate, stage := .waiting }) := by
        intro gate
        rw [setStage, watch_modifyLane _ _ (g := fun post => { post with stage := .waiting })
          fun _ _ => rfl, modifyQueue, watch_modifyLane _ _ (g := fun post => { post with gate })
          fun _ _ => rfl, Watch.update_update]
        exact Watch.update_congr (by simp [Duty.modify, Function.comp_def])
      simp only [Queue.Gate.arrive, up, place', Option.isSome_none, Bool.false_eq_true, if_false]
      cases until? with
      | none =>
          dsimp only
          rw [stands]
          refine busy.finish ⟨.idle rfl opened rfl rfl (idle rfl), ?_⟩
          rintro post ⟨⟩
          exact busy.patient
      | some due =>
          obtain ⟨waits, soon⟩ := retrying due rfl
          dsimp only
          rw [watch_setAlarm_worker, stands, Watch.update_update]
          refine busy.finish ⟨.retrying rfl opened rfl rfl waits soon, ?_⟩
          rintro post ⟨⟩
          exact busy.patient

/-- A worker that has done its work does its duty: it is in the line again, or it stands before its
gate, or it has stopped. -/
theorem kept_work (busy : b.watch.Busy k post) : (b.work k).watch.Kept := by
  obtain ⟨gate, empty, aside⟩ := busy_stepAside busy
  obtain ⟨lane, found, same⟩ := lane_of_busy aside
  cases closed : lane.queue.isClosed with
  | true =>
      rw [work_of_closed found closed, setStage,
        watch_modifyLane _ _ (g := fun post => { post with stage := .stopped }) fun _ _ => rfl]
      refine aside.finish ⟨.stopped rfl ?_, ?_⟩
      · rw [← same]
        exact closed
      · rintro post ⟨⟩
        exact busy.patient
  | false =>
      have opened : post.isClosed = false := by
        have kept := congrArg Post.isClosed same
        exact kept.symm.trans closed
      have backoff : lane.backoff = post.backoff := congrArg Post.backoff same
      obtain ⟨post', tried⟩ := tried_attempt busy opened
      have patient := tried.busy.patient
      rw [work_of_open found closed]
      cases went : b.attempt k with
      | mk progress b' =>
        rw [went] at tried patient
        have busy' : b'.watch.Busy k post' := tried.busy
        cases progress with
        | delivered =>
            dsimp only
            rw [watch_next_work, watch_modifyLane _ _
              (g := fun post => { post with backoff := post.backoff.reset }) fun _ _ => rfl,
              Watch.update_update]
            refine busy'.finish ⟨.due busy'.stage, ?_⟩
            rintro post ⟨⟩
            exact patient.reset
        | idle => exact kept_await busy' tried.isOpen tried.place (fun _ => tried.idle rfl) nofun
        | saturated =>
            have within : lane.backoff.Within b'.settings.backoffMaxMs := by
              rw [backoff, ← tried.backoff]
              exact patient
            have longer : (b'.modifyLane k fun l =>
                { l with backoff := lane.backoff.next.2 }).watch.Busy k
                { post' with backoff := lane.backoff.next.2 } := by
              refine busy_modifyLane busy' ?_ busy'.stage within.next
              rintro lane' - rfl
              rfl
            refine kept_await longer tried.isOpen tried.place nofun ?_
            rintro _ ⟨⟩
            exact ⟨tried.saturated rfl, Nat.add_le_add_left within.ceilMillis_next_le _⟩

/-! ## Deliveries -/

theorem kept_follow (kept : b.watch.Kept) (d : Delivery) (outcome : Outcome) :
    (b.follow d outcome).watch.Kept := by
  unfold follow
  split
  · rw [watch_release]
    exact kept
  · rw [watch_release]
    exact kept
  · dsimp only
    split
    · exact kept
    · exact kept_requeue (b := b.announce _) kept _ _

/-- A delivery that is over opens the gate of its queue, and a failed one goes back into it. -/
theorem kept_conclude (kept : b.watch.Kept) (ticket : Nat) : (b.conclude ticket).watch.Kept := by
  unfold conclude
  split
  · exact kept
  · rename_i d _
    split
    · exact kept
    · rename_i ledger _
      exact kept_follow (kept_openGate
        (b := Broker.modifyClient { b with ledger, flights := b.flights.erase ticket } d.client
          fun client => (client.untrack d.id).2.release) kept d.lane) d _

theorem watch_launch (b : Broker) (d : Delivery) : (b.launch d).2.watch = b.watch := by
  rw [launch, watch_modifyClient, watch_later _ (by simp)]
  rfl

theorem kept_dispatch (kept : b.watch.Kept) (d : Delivery) (ticket : Nat) :
    (b.dispatch d ticket).watch.Kept := by
  unfold dispatch
  split <;> rename_i b' written
  all_goals
    have same : b'.watch = b.watch := by rw [← watch_write b d.client d.frame, written]
    rw [← same] at kept
  · exact kept
  · exact kept_conclude (b := { b' with ledger := (b'.ledger.unwritten d.id).2 }) kept ticket

theorem kept_send (kept : b.watch.Kept) (d : Delivery) : (b.send d).watch.Kept := by
  rw [send_eq]
  apply kept_dispatch
  rw [watch_launch, watch_resolve]
  exact kept

/-! ## Alarms -/

/-- The earliest alarm of a worker calls it. -/
def awaken (d : Duty) : Duty :=
  ⟨d.post?.map fun post => { post with stage := .due }, d.tasks + 1, d.alarms.tail⟩

/-- A worker that does its duty has one alarm at most, and may be called by it. -/
theorem kept_awaken {now limit : Nat} {d : Duty} (kept : d.Kept now limit) (rings : d.alarms ≠ []) :
    (awaken d).Kept now limit := by
  obtain ⟨stands, patient⟩ := kept
  cases stands with
  | @retrying post due stage isOpen shut place waits soon =>
      refine ⟨.due rfl, ?_⟩
      rintro _ ⟨⟩
      exact patient post rfl
  | _ => exact absurd rfl rings

theorem watch_call_worker (b : Broker) (k due : Nat) (alarms : List Alarm) :
    Broker.watch { b.call (.worker k) with alarms } =
      (Broker.watch { b with alarms := ⟨due, .worker k⟩ :: alarms }).update k awaken := by
  refine watch_eq_update ?_ ?_ rfl rfl
  · simp only [awaken, duty, call, setStage, modifyLane, later, List.getElem?_modify_eq]
    cases b.lanes[k]? <;> simp [Lane.post]
  · intro j other
    simp [duty, call, setStage, modifyLane, later, Ne.symm other]

theorem watch_call_limit (b : Broker) (ticket due : Nat) (alarms : List Alarm) :
    Broker.watch { b.call (.limit ticket) with alarms } =
      Broker.watch { b with alarms := ⟨due, .limit ticket⟩ :: alarms } := by
  refine watch_eq (fun k => ?_) rfl rfl
  simp [duty, call, later]

/-- Alarms go off one after the other. -/
theorem kept_calls (ringing alarms : List Alarm)
    (kept : (Broker.watch { b with alarms := ringing ++ alarms }).Kept) (left : b.alarms = alarms) :
    (ringing.foldl (fun b a => b.call a.sleeper) b).watch.Kept := by
  induction ringing generalizing b with
  | nil =>
      subst left
      exact kept
  | cons a ringing ih =>
      obtain ⟨due, sleeper⟩ := a
      rw [List.foldl_cons]
      cases sleeper with
      | worker k =>
          refine ih ?_ left
          rw [watch_call_worker b k due]
          refine kept.update (kept_awaken (kept k) ?_)
          simp [watch, duty]
      | limit ticket =>
          refine ih ?_ left
          rw [watch_call_limit b ticket due]
          exact kept

/-- No worker has two alarms, so it does not matter in which order alarms are kept. -/
theorem watch_of_perm {alarms : List Alarm} (kept : b.watch.Kept) (same : alarms.Perm b.alarms) :
    Broker.watch { b with alarms } = b.watch := by
  refine watch_eq (fun k => ?_) rfl rfl
  have alike := ((same.filter fun a => a.sleeper = .worker k).map Alarm.due)
  have stands := (kept k).stands
  have here : (b.watch.duty k).alarms = (b.alarms.filter fun a => a.sleeper = .worker k).map Alarm.due :=
    rfl
  rw [← here] at alike
  have listed : (alarms.filter fun a => a.sleeper = .worker k).map Alarm.due =
      (b.watch.duty k).alarms := by
    generalize b.watch.duty k = d at stands alike
    cases stands with
    | retrying => exact List.perm_singleton.1 alike
    | _ => exact List.perm_nil.1 alike
  simp only [duty]
  rw [listed, here]

theorem kept_ring (kept : b.watch.Kept) : b.ring.watch.Kept := by
  unfold ring
  rw [List.partition_eq_filter_filter]
  refine kept_calls _ _ ?_ rfl
  have whole := List.filter_append_perm (fun a : Alarm => decide (a.due ≤ b.now)) b.alarms
  have same := watch_of_perm kept whole
  rw [← same] at kept
  exact kept

/-! ## All moves -/

/-- The task at the head of the line is taken out. -/
theorem watch_pop {t : Task} {rest : List Task} (line : b.tasks = t :: rest)
    (other : ∀ k, t ≠ .work k) : Broker.watch { b with tasks := rest } = b.watch := by
  refine watch_eq (fun k => ?_) rfl rfl
  simp [duty, line, other]

/-- The worker whose task is taken out of the line is at work. -/
theorem busy_pop {rest : List Task} (kept : b.watch.Kept) (line : b.tasks = .work k :: rest) :
    ∃ post, (Broker.watch { b with tasks := rest }).Busy k post := by
  have popped : Broker.watch { b with tasks := rest } =
      b.watch.update k fun d => { d with tasks := d.tasks - 1 } := by
    refine watch_eq_update ?_ ?_ rfl rfl
    · simp [duty, line]
    · intro j other
      simp [duty, line, Ne.symm other]
  have listed : (b.watch.duty k).tasks ≠ 0 := by simp [watch, duty, line]
  obtain ⟨stands, patient⟩ := kept k
  have own : ∃ post, b.watch.duty k = ⟨some post, 1, []⟩ ∧ post.stage = .due := by
    generalize b.watch.duty k = d at stands listed
    cases stands with
    | due stage => exact ⟨_, rfl, stage⟩
    | _ => exact absurd rfl listed
  obtain ⟨post, own, stage⟩ := own
  refine ⟨post, ?_, stage, patient post (by rw [own]), ?_⟩
  · rw [popped, Watch.update_duty]
    simp only [own]
  · intro j other
    rw [popped]
    simpa [Watch.update, other] using kept j

/-- Every task leaves all workers doing their duty. -/
theorem kept_task {t : Task} {rest : List Task} (kept : b.watch.Kept) (line : b.tasks = t :: rest) :
    (Broker.perform { b with tasks := rest } t).watch.Kept := by
  cases t with
  | work k =>
      obtain ⟨post, busy⟩ := busy_pop kept line
      exact kept_work busy
  | _ =>
      have popped := watch_pop line (by simp)
      rw [← popped] at kept
      generalize { b with tasks := rest } = b at kept
      first
        | exact kept_send kept _
        | exact kept_conclude kept _
        | exact kept_beginPublish kept _ _
        | exact kept_bring kept _ _
        | simpa [perform] using kept

/-- Every move leaves all workers doing their duty, unless it turns the clock back. -/
theorem kept_apply (kept : b.watch.Kept) (m : Move) (onward : b.now ≤ (b.apply m).now) :
    (b.apply m).watch.Kept := by
  cases m with
  | connect id link =>
      rw [apply, watch_connect]
      exact kept
  | disconnect id =>
      rw [apply, watch_disconnect]
      exact kept
  | feed id data =>
      simp only [apply]
      split <;> exact kept
  | frame id =>
      simp only [apply]
      split
      · exact kept
      · rename_i session frame _
        exact kept_handle (b := { b with sessions := b.sessions.insert id session }) kept session frame
  | declare name route => exact kept_declare kept name route
  | delete name => exact kept_delete kept name
  | subscribe id name ceiling => exact kept_subscribe kept id name ceiling
  | unsubscribe id name =>
      rw [apply, watch_unsubscribe]
      exact kept
  | publish m => exact kept_publish kept m
  | publishLater tag m =>
      rw [apply, watch_later _ (by simp)]
      exact kept
  | recover => exact kept_recover kept
  | tamper c link => exact kept
  | task =>
      simp only [apply]
      split
      · rename_i line
        exact kept_task kept line
      · exact kept
  | ring => exact kept_ring kept
  | tick now => exact fun k => (kept k).later onward

/-- No move of a sequence turns the clock back. -/
def Onward (b : Broker) : List Move → Prop
  | [] => True
  | m :: moves => b.now ≤ (b.apply m).now ∧ Onward (b.apply m) moves

instance decidableOnward : (b : Broker) → (moves : List Move) → Decidable (b.Onward moves)
  | _, [] => isTrue trivial
  | b, m :: moves =>
    have := decidableOnward (b.apply m) moves
    inferInstanceAs (Decidable (b.now ≤ (b.apply m).now ∧ Onward (b.apply m) moves))

theorem kept_after (kept : b.watch.Kept) {moves : List Move} (onward : b.Onward moves) :
    (b.after moves).watch.Kept := by
  induction moves generalizing b with
  | nil => exact kept
  | cons m moves ih => exact ih (kept_apply kept m onward.1) onward.2

/-- A broker begins without workers. -/
theorem kept_start {settings : Settings.Engine} {mint : Nat → CorrelationId} {calendar : Nat}
    {depot : Store.Depot} (started : Broker.new? settings mint calendar depot = some b) :
    b.watch.Kept := by
  unfold new? at started
  split at started
  · obtain ⟨buffers, -, rfl⟩ := Option.map_eq_some_iff.1 started
    exact fun k => ⟨.nobody, nofun⟩
  · cases started

/-! ## Where workers are -/

/-- The times at which the worker of a lane is going to be called. -/
def alarmsOf (b : Broker) (k : Nat) : List Nat :=
  (b.alarms.filter fun a => a.sleeper = .worker k).map Alarm.due

/-- The worker of a lane stands before its gate, which is closed. It has an alarm if and only if
something waits in its queue. -/
structure Parked (b : Broker) (k : Nat) (lane : Lane) : Prop where
  stage : lane.stage = .waiting
  shut : lane.queue.gate.isOpen = false
  place : lane.queue.gate.waiter = some ⟨(), false⟩
  untimed : b.alarmsOf k = [] ↔ lane.queue.pending = []
  timed : (∃ due, b.alarmsOf k = [due] ∧ b.now < due ∧ due ≤ b.now + b.settings.backoffMaxMs) ↔
    lane.queue.pending ≠ []

/-- A worker that comes to its gate finds its place free. -/
theorem meets?_of_kept (kept : b.watch.Kept) {rest : List Task} {lane : Lane}
    (line : b.tasks = .work k :: rest) (found : b.lanes[k]? = some lane)
    (opened : lane.queue.isClosed = false) : meets? { b with tasks := rest } k ≠ some .refused := by
  obtain ⟨post, busy⟩ := busy_pop kept line
  obtain ⟨lane', found', same⟩ := lane_of_busy busy
  obtain rfl : lane' = lane := Option.some.inj (found'.symm.trans found)
  have isOpen : post.isClosed = false := same ▸ opened
  obtain ⟨post', tried⟩ := tried_attempt busy isOpen
  obtain ⟨lane'', found'', rfl⟩ := lane_of_busy tried.busy
  have place : lane''.queue.gate.waiter = none := tried.place
  rw [meets?, found'', Option.map_some, Queue.Gate.arrive, place]
  split <;> simp

/-- The worker of a lane is in the line once, or it is not due. -/
theorem count_work (kept : b.watch.Kept) {lane : Lane} (found : b.lanes[k]? = some lane) :
    b.tasks.count (.work k) = (if lane.stage = .due then 1 else 0) ∧
      (lane.stage = .stopped → lane.queue.isClosed = true) := by
  have stands := (kept k).stands
  have own : b.watch.duty k = ⟨some lane.post, b.tasks.count (.work k), b.alarmsOf k⟩ := by
    simp [watch, duty, found, alarmsOf]
  rw [own] at stands
  generalize b.tasks.count (.work k) = tasks, b.alarmsOf k = alarms at stands
  cases stands with
  | due stage => simp_all [Lane.post]
  | idle stage => simp_all [Lane.post]
  | retrying stage => simp_all [Lane.post]
  | stopped stage closed => simp_all [Lane.post]

/-- At rest a worker has stopped or stands before its gate. -/
theorem parked_of_rest (kept : b.watch.Kept) (rest : b.isAtRest = true) {lane : Lane}
    (found : b.lanes[k]? = some lane) :
    if lane.queue.isClosed then lane.stage = .stopped ∧ b.alarmsOf k = [] else b.Parked k lane := by
  simp only [isAtRest, Bool.and_eq_true, List.isEmpty_iff, Bool.not_eq_true'] at rest
  obtain ⟨line, quiet⟩ := rest
  have future : ∀ due ∈ b.alarmsOf k, b.now < due := by
    simp only [isRinging, List.any_eq_false, decide_eq_true_eq, Nat.not_le] at quiet
    intro due called
    obtain ⟨a, listed, rfl⟩ := List.mem_map.1 called
    exact quiet a (List.mem_filter.1 listed).1
  have stands := (kept k).stands
  have own : b.watch.duty k = ⟨some lane.post, 0, b.alarmsOf k⟩ := by
    simp [watch, duty, found, alarmsOf, line]
  rw [own] at stands
  generalize times : b.alarmsOf k = alarms at stands future
  cases stands with
  | idle stage isOpen shut place empty =>
      have isOpen' : lane.queue.isClosed = false := isOpen
      rw [if_neg (by simp [isOpen'])]
      refine ⟨stage, shut, place, ?_, ?_⟩
      · exact iff_of_true times empty
      · refine iff_of_false ?_ (not_not_intro empty)
        rw [times]
        rintro ⟨due, absent, -⟩
        cases absent
  | @retrying _ due stage isOpen shut place waits soon =>
      have isOpen' : lane.queue.isClosed = false := isOpen
      rw [if_neg (by simp [isOpen'])]
      refine ⟨stage, shut, place, ?_, ?_⟩
      · exact iff_of_false (by simp [times]) waits
      · exact iff_of_true ⟨due, times, future due List.mem_cons_self, soon⟩ waits
  | stopped stage closed =>
      have closed' : lane.queue.isClosed = true := closed
      rw [if_pos closed']
      exact ⟨stage, rfl⟩

/-- In every state that a broker gets to, no worker finds its place before the gate taken, and each
queue has one worker, which stops with its queue. At rest the worker of every queue that is declared
stands before its closed gate, with an alarm if and only if something waits, and the worker of every
queue that was deleted has stopped. -/
theorem no_wakeup_lost {settings : Settings.Engine} {mint : Nat → CorrelationId} {calendar : Nat}
    {depot : Store.Depot} {start : Broker} {moves : List Move}
    (started : Broker.new? settings mint calendar depot = some start)
    (onward : start.Onward moves) :
    let b := start.after moves
    (∀ k rest (lane : Lane), b.tasks = .work k :: rest → b.lanes[k]? = some lane →
      lane.queue.isClosed = false → meets? { b with tasks := rest } k ≠ some .refused) ∧
    (∀ k (lane : Lane), b.lanes[k]? = some lane →
      b.tasks.count (.work k) = (if lane.stage = .due then 1 else 0) ∧
        (lane.stage = .stopped → lane.queue.isClosed = true)) ∧
    (b.isAtRest = true → ∀ k (lane : Lane), b.lanes[k]? = some lane →
      if lane.queue.isClosed then lane.stage = .stopped ∧ b.alarmsOf k = []
      else b.Parked k lane) := by
  intro b
  have kept : b.watch.Kept := kept_after (kept_start started) onward
  exact ⟨fun _ _ _ => meets?_of_kept kept, fun _ _ => count_work kept,
    fun rest _ _ => parked_of_rest kept rest⟩

/-- A message waits for a subscriber in one of two queues, and the other is deleted. -/
def stalled : List Move :=
  [.declare "left" "news", .declare "right" "sport", .publish ⟨.ofNat 1, "news", [7], none, 0⟩,
    .delete "right", .task, .task, .tick 1, .ring, .task, .tick 2]

/-- The worker of one queue waits for its alarm, that of the other has stopped. -/
theorem no_wakeup_lost_stalled :
    (sample.after stalled).isAtRest = true ∧
      (∃ lane, (sample.after stalled).lanes[0]? = some lane ∧ lane.queue.pending = [.ofNat 1] ∧
        (sample.after stalled).Parked 0 lane) ∧
      ∃ lane : Lane, (sample.after stalled).lanes[1]? = some lane ∧ lane.queue.isClosed = true ∧
        lane.stage = .stopped := by
  have onward : sample.Onward stalled := by decide
  have rest : (sample.after stalled).isAtRest = true := rfl
  obtain ⟨-, -, parked⟩ := no_wakeup_lost new?_sample onward
  exact ⟨rest, ⟨_, rfl, rfl, parked rest 0 _ rfl⟩, ⟨_, rfl, rfl, (parked rest 1 _ rfl).1⟩⟩

end Broker

end MessageBroker
