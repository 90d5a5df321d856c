import MessageBroker.Proofs.Broker.Books

/-!
# The duties of workers

A worker has one task in the line, or it stands before the gate of its queue, or it has stopped for
good. It stands there only while the gate is closed, so that nothing that opens the gate escapes it,
and it has an alarm exactly if something waits in its queue. All this can be read off what is kept
about one lane: the lane without its roster, the tasks of its worker, and the alarms of its worker.
Most of what a broker does leaves the duties of its workers as they are. What adds a message to a
queue, or makes a slot free, or closes a queue, opens a gate.
-/

namespace MessageBroker

namespace Time

/-- No delay of a loop is longer than a given number of milliseconds. -/
structure Backoff.Within (b : Backoff) (ms : Nat) : Prop where
  current : b.current.nanos ≤ (Duration.ofMillis ms).nanos
  ceiling : b.ceiling.nanos ≤ (Duration.ofMillis ms).nanos

namespace Backoff.Within

variable {b : Backoff} {ms : Nat}

theorem min_le (a c : Duration) : (a.min c).nanos ≤ c.nanos := by
  unfold Duration.min
  split
  · assumption
  · exact Nat.le_refl _

theorem new (base : Duration) (ms factor : Nat) :
    (Backoff.new base (.ofMillis ms) factor).Within ms :=
  ⟨min_le _ _, Nat.le_refl _⟩

theorem reset (within : b.Within ms) : b.reset.Within ms :=
  ⟨Nat.le_trans (min_le _ _) within.ceiling, within.ceiling⟩

theorem next (within : b.Within ms) : b.next.2.Within ms :=
  ⟨Nat.le_trans (min_le _ _) within.ceiling, within.ceiling⟩

theorem ceilMillis_next_le (within : b.Within ms) : b.next.1.ceilMillis ≤ ms := by
  have current := within.current
  simp only [Duration.ofMillis] at current
  simp only [Backoff.next, Duration.ceilMillis]
  omega

end Backoff.Within

end Time

/-- What a lane keeps for its worker. -/
structure Post where
  isClosed : Bool
  pending : List CorrelationId
  gate : Queue.Gate Unit
  backoff : Time.Backoff
  stage : WorkerStage

/-- The post of a lane. -/
def Lane.post (lane : Lane) : Post :=
  ⟨lane.queue.isClosed, lane.queue.pending, lane.queue.gate, lane.backoff, lane.stage⟩

/-- What is kept about the worker of one lane: its post, how many tasks it has in the line, and the
times of its alarms. -/
structure Duty where
  post? : Option Post
  tasks : Nat
  alarms : List Nat

namespace Duty

/-- A change of the post. -/
def modify (g : Post → Post) (d : Duty) : Duty :=
  { d with post? := d.post?.map g }

/-- The worker is called if an opening of its gate calls it. -/
def rouse (d : Duty) : Duty :=
  match d.post? with
  | some post =>
    if post.stage = .waiting ∧ post.gate.calling then
      ⟨some { post with stage := .due }, d.tasks + 1, []⟩
    else d
  | none => d

@[simp] theorem modify_id (d : Duty) : d.modify id = d := by
  simp [modify]

theorem rouse_of_none {d : Duty} (nobody : d.post? = none) : d.rouse = d := by
  rw [rouse, nobody]

theorem rouse_of_post {d : Duty} {post : Post} (found : d.post? = some post) :
    d.rouse = if post.stage = .waiting ∧ post.gate.calling then
      ⟨some { post with stage := .due }, d.tasks + 1, []⟩ else d := by
  rw [rouse, found]

/-- To call a worker closes or opens no queue. -/
theorem isClosed_rouse (d : Duty) :
    d.rouse.post?.map Post.isClosed = d.post?.map Post.isClosed := by
  cases found : d.post? with
  | none => rw [rouse_of_none found, found]
  | some post =>
      rw [rouse_of_post found]
      split
      · rfl
      · rw [found]

/-- A worker is where it should be at a time, with no delay above a limit. -/
inductive Stands (now limit : Nat) : Duty → Prop where
  /-- There is no such lane. -/
  | nobody : Stands now limit ⟨none, 0, []⟩
  /-- It has a task in the line. -/
  | due {post : Post} (stage : post.stage = .due) : Stands now limit ⟨some post, 1, []⟩
  /-- It stands before the gate of an empty queue. -/
  | idle {post : Post} (stage : post.stage = .waiting) (isOpen : post.isClosed = false)
      (shut : post.gate.isOpen = false) (place : post.gate.waiter = some ⟨(), false⟩)
      (empty : post.pending = []) : Stands now limit ⟨some post, 0, []⟩
  /-- It stands before the gate of a queue in which something waits, until its alarm goes off. -/
  | retrying {post : Post} {due : Nat} (stage : post.stage = .waiting) (isOpen : post.isClosed = false)
      (shut : post.gate.isOpen = false) (place : post.gate.waiter = some ⟨(), false⟩)
      (waits : post.pending ≠ []) (soon : due ≤ now + limit) : Stands now limit ⟨some post, 0, [due]⟩
  /-- Its queue is closed and it has learned of it. -/
  | stopped {post : Post} (stage : post.stage = .stopped) (closed : post.isClosed = true) :
      Stands now limit ⟨some post, 0, []⟩

/-- A worker does its duty. -/
structure Kept (now limit : Nat) (d : Duty) : Prop where
  stands : d.Stands now limit
  patient : ∀ post, d.post? = some post → post.backoff.Within limit

end Duty

/-- A post after its gate was opened, for whatever reason. -/
structure Post.Opens (p p' : Post) : Prop where
  gate : p'.gate = p.gate.unblock
  stage : p'.stage = p.stage
  backoff : p'.backoff = p.backoff
  closed : p.isClosed = true → p'.isClosed = true

namespace Duty

variable {now limit : Nat} {d : Duty}

/-- A worker before a gate that opens is called, whatever opens it; others need not be. -/
theorem Kept.opened {p p' : Post} (kept : d.Kept now limit) (found : d.post? = some p)
    (opens : p.Opens p') : ({ d with post? := some p' } : Duty).rouse.Kept now limit := by
  obtain ⟨stands, patient⟩ := kept
  have within : p'.backoff.Within limit := by
    rw [opens.backoff]
    exact patient p found
  have called : p.gate.waiter = some ⟨(), false⟩ → p.stage = .waiting →
      ∀ alarms, (⟨some p', 0, alarms⟩ : Duty).rouse = ⟨some { p' with stage := .due }, 1, []⟩ := by
    intro place stage alarms
    have calling : p'.gate.calling = true := by
      simp only [opens.gate, Queue.Gate.unblock, place, Queue.Gate.calling]
    simp only [rouse, opens.stage, stage, calling, and_self, if_true]
  have stays : p.stage ≠ .waiting → ∀ tasks alarms,
      (⟨some p', tasks, alarms⟩ : Duty).rouse = ⟨some p', tasks, alarms⟩ := by
    intro stage tasks alarms
    simp only [rouse, opens.stage, stage, false_and, if_false]
  cases stands with
  | nobody => cases found
  | due stage =>
      cases found
      rw [stays (by simp [stage])]
      exact ⟨.due (opens.stage.trans stage), fun _ same => by cases same; exact within⟩
  | idle stage isOpen shut place empty =>
      cases found
      rw [called place stage]
      exact ⟨.due rfl, fun _ same => by cases same; exact within⟩
  | retrying stage isOpen shut place waits soon =>
      cases found
      rw [called place stage]
      exact ⟨.due rfl, fun _ same => by cases same; exact within⟩
  | stopped stage closed =>
      cases found
      rw [stays (by simp [stage])]
      exact ⟨.stopped (opens.stage.trans stage) (opens.closed closed),
        fun _ same => by cases same; exact within⟩

/-- What waits in a closed queue does not matter to its worker. -/
theorem Kept.emptied (kept : d.Kept now limit) (closed : d.post?.map Post.isClosed = some true) :
    (d.modify fun post => { post with pending := [] }).Kept now limit := by
  obtain ⟨stands, patient⟩ := kept
  have patient' : ∀ post, (d.modify fun post => { post with pending := [] }).post? = some post →
      post.backoff.Within limit := by
    intro post found
    obtain ⟨before, found', rfl⟩ := Option.map_eq_some_iff.1 found
    exact patient before found'
  refine ⟨?_, patient'⟩
  cases stands with
  | nobody => cases closed
  | due stage => exact .due stage
  | idle stage isOpen shut place empty => simp [isOpen] at closed
  | retrying stage isOpen shut place waits soon => simp [isOpen] at closed
  | stopped stage shut => exact .stopped stage shut

/-- A worker that does its duty need not be called. -/
theorem Kept.rouse_eq (kept : d.Kept now limit) : d.rouse = d := by
  cases kept.stands with
  | nobody => rfl
  | due stage => simp [rouse, stage]
  | idle stage isOpen shut place empty => simp [rouse, place, Queue.Gate.calling]
  | retrying stage isOpen shut place waits soon => simp [rouse, place, Queue.Gate.calling]
  | stopped stage closed => simp [rouse, stage]

/-- Time that passes brings every alarm nearer. -/
theorem Kept.later {now' : Nat} (kept : d.Kept now limit) (le : now ≤ now') : d.Kept now' limit := by
  obtain ⟨stands, patient⟩ := kept
  refine ⟨?_, patient⟩
  cases stands with
  | nobody => exact .nobody
  | due stage => exact .due stage
  | idle stage isOpen shut place empty => exact .idle stage isOpen shut place empty
  | retrying stage isOpen shut place waits soon =>
      exact .retrying stage isOpen shut place waits (Nat.le_trans soon (Nat.add_le_add_right le _))
  | stopped stage closed => exact .stopped stage closed

end Duty

/-- The duties of all workers, with the time and the settings. -/
structure Watch where
  duty : Nat → Duty
  now : Nat
  settings : Settings.Engine

namespace Watch

/-- A change of one duty. -/
def update (w : Watch) (k : Nat) (f : Duty → Duty) : Watch :=
  { w with duty := fun j => if j = k then f (w.duty k) else w.duty j }

/-- All workers do their duty. -/
def Kept (w : Watch) : Prop :=
  ∀ k, (w.duty k).Kept w.now w.settings.backoffMaxMs

variable {w : Watch} {k : Nat}

theorem update_duty (w : Watch) (k : Nat) (f : Duty → Duty) :
    (w.update k f).duty k = f (w.duty k) := if_pos rfl

theorem update_update (w : Watch) (k : Nat) (f g : Duty → Duty) :
    (w.update k f).update k g = w.update k fun d => g (f d) := by
  unfold update
  congr 1
  funext j
  by_cases here : j = k <;> simp [here]

theorem update_congr {f g : Duty → Duty} (same : f (w.duty k) = g (w.duty k)) :
    w.update k f = w.update k g := by
  unfold update
  rw [same]

theorem update_of_same {f : Duty → Duty} (same : f (w.duty k) = w.duty k) : w.update k f = w := by
  unfold update
  rw [same]
  congr 1
  funext j
  by_cases here : j = k <;> simp [here]

/-- If one duty is changed it is enough to look at that one. -/
theorem Kept.update (kept : w.Kept) {f : Duty → Duty}
    (here : (f (w.duty k)).Kept w.now w.settings.backoffMaxMs) : (w.update k f).Kept := by
  intro j
  by_cases same : j = k
  · simpa [Watch.update, same] using here
  · simpa [Watch.update, same] using kept j

end Watch

namespace Broker

/-- The duty of the worker of a lane. -/
def duty (b : Broker) (k : Nat) : Duty where
  post? := b.lanes[k]?.map Lane.post
  tasks := b.tasks.count (.work k)
  alarms := (b.alarms.filter fun a => a.sleeper = .worker k).map Alarm.due

/-- The duties of all workers of a broker. -/
def watch (b : Broker) : Watch := ⟨b.duty, b.now, b.settings⟩

/-! ## What changes one duty -/

variable (b : Broker) (k : Nat)

theorem watch_eq_update {b b' : Broker} {k : Nat} {f : Duty → Duty}
    (here : b'.duty k = f (b.duty k)) (others : ∀ j, j ≠ k → b'.duty j = b.duty j)
    (now : b'.now = b.now) (settings : b'.settings = b.settings) :
    b'.watch = b.watch.update k f := by
  unfold watch Watch.update
  rw [now, settings]
  congr 1
  funext j
  by_cases same : j = k
  · rw [if_pos same, same, here]
  · rw [if_neg same, others j same]

theorem watch_eq {b b' : Broker} (same : ∀ k, b'.duty k = b.duty k) (now : b'.now = b.now)
    (settings : b'.settings = b.settings) : b'.watch = b.watch := by
  unfold watch
  rw [now, settings, funext same]

theorem watch_modifyLane {f : Lane → Lane} {g : Post → Post}
    (does : ∀ lane, b.lanes[k]? = some lane → (f lane).post = g lane.post) :
    (b.modifyLane k f).watch = b.watch.update k (Duty.modify g) := by
  refine watch_eq_update ?_ ?_ rfl rfl
  · cases found : b.lanes[k]? with
    | none => simp [duty, modifyLane, Duty.modify, found]
    | some lane => simp [duty, modifyLane, Duty.modify, found, does lane found]
  · intro j other
    simp [duty, modifyLane, Ne.symm other]

/-- A change of what does not concern the worker. -/
theorem watch_modifyLane_of_post {f : Lane → Lane} (same : ∀ lane, (f lane).post = lane.post) :
    (b.modifyLane k f).watch = b.watch := by
  rw [b.watch_modifyLane k (g := id) fun lane _ => same lane]
  exact Watch.update_of_same (Duty.modify_id _)

theorem watch_later_work :
    (b.later (.work k)).watch = b.watch.update k fun d => { d with tasks := d.tasks + 1 } := by
  refine watch_eq_update ?_ ?_ rfl rfl
  · simp [duty, later]
  · intro j other
    simp [duty, later, Ne.symm other]

theorem watch_next_work :
    (b.next (.work k)).watch = b.watch.update k fun d => { d with tasks := d.tasks + 1 } := by
  refine watch_eq_update ?_ ?_ rfl rfl
  · simp [duty, next]
  · intro j other
    simp [duty, next, Ne.symm other]

theorem watch_dropAlarm_worker :
    (b.dropAlarm (.worker k)).watch = b.watch.update k fun d => { d with alarms := [] } := by
  refine watch_eq_update ?_ ?_ rfl rfl
  · simp [duty, dropAlarm]
  · intro j other
    simp only [duty, dropAlarm, List.filter_filter]
    congr 2
    refine List.filter_congr fun a _ => ?_
    by_cases ours : a.sleeper = .worker j <;> simp [ours, other]

theorem watch_setAlarm_worker (due : Nat) :
    (b.setAlarm due (.worker k)).watch =
      b.watch.update k fun d => { d with alarms := d.alarms ++ [due] } := by
  refine watch_eq_update ?_ ?_ rfl rfl
  · simp [duty, setAlarm]
  · intro j other
    simp [duty, setAlarm, Ne.symm other]

theorem watch_rouse : (b.rouse k).watch = b.watch.update k Duty.rouse := by
  unfold rouse
  cases found : b.lanes[k]? with
  | none =>
      refine (Watch.update_of_same ?_).symm
      simp [watch, duty, found, Duty.rouse]
  | some lane =>
      have post : (b.watch.duty k).post? = some lane.post := by simp [watch, duty, found]
      by_cases called : lane.post.stage = .waiting ∧ lane.post.gate.calling
      · have stirred := b.watch_modifyLane k (f := fun lane => { lane with stage := .due })
          (g := fun post => { post with stage := .due }) fun _ _ => rfl
        dsimp only
        rw [if_pos (show lane.stage = .waiting ∧ lane.queue.gate.calling = true from called)]
        simp only [watch_later_work, watch_dropAlarm_worker, stirred, Watch.update_update]
        refine Watch.update_congr ?_
        rw [Duty.rouse_of_post post, if_pos called, Duty.modify, post, Option.map_some]
      · dsimp only
        rw [if_neg (show ¬(lane.stage = .waiting ∧ lane.queue.gate.calling = true) from called)]
        refine (Watch.update_of_same ?_).symm
        rw [Duty.rouse_of_post post, if_neg called]

/-- A lane is added behind the others. -/
theorem watch_addLane (lane : Lane) :
    Broker.watch { b with lanes := b.lanes ++ [lane] } =
      b.watch.update b.lanes.length fun d => { d with post? := some lane.post } := by
  refine watch_eq_update ?_ ?_ rfl rfl
  · simp [duty]
  · intro j other
    have place : (b.lanes ++ [lane])[j]? = b.lanes[j]? := by
      rcases Nat.lt_or_gt_of_ne other with early | late
      · exact List.getElem?_append_left early
      · rw [List.getElem?_eq_none (by simpa using Nat.succ_le_of_lt late),
          List.getElem?_eq_none (Nat.le_of_lt late)]
    simp only [duty, place]

/-! ## What leaves all duties as they are -/

theorem watch_later {t : Task} (other : ∀ k, t ≠ .work k) : (b.later t).watch = b.watch := by
  refine watch_eq (fun j => ?_) rfl rfl
  simp [duty, later, other]

theorem watch_setAlarm_limit (due ticket : Nat) :
    (b.setAlarm due (.limit ticket)).watch = b.watch := by
  refine watch_eq (fun j => ?_) rfl rfl
  simp [duty, setAlarm]

theorem watch_dropAlarm_limit (ticket : Nat) :
    (b.dropAlarm (.limit ticket)).watch = b.watch := by
  refine watch_eq (fun j => ?_) rfl rfl
  simp only [duty, dropAlarm, List.filter_filter]
  congr 2
  refine List.filter_congr fun a _ => ?_
  by_cases ours : a.sleeper = .worker j <;> simp [ours]

@[simp] theorem watch_announce (e : Event) : (b.announce e).watch = b.watch := rfl

@[simp] theorem watch_modifyClient (c : Nat) (f : Peer.Client → Peer.Client) :
    (b.modifyClient c f).watch = b.watch := rfl

@[simp] theorem watch_withSessions (sessions : Table String Peer.Session) :
    Broker.watch { b with sessions } = b.watch := rfl

@[simp] theorem watch_release (m : CorrelationId) : (b.release m).watch = b.watch := by
  unfold release
  dsimp only
  split
  · split <;> rfl
  · rfl

theorem watch_releaseEach (ids : List CorrelationId) :
    (ids.foldl release b).watch = b.watch := by
  induction ids generalizing b with
  | nil => rfl
  | cons m ids ih => rw [List.foldl_cons, ih, watch_release]

@[simp] theorem watch_resolve (id : CorrelationId) (outcome : Outcome) :
    (b.resolve id outcome).2.watch = b.watch := by
  unfold resolve
  split
  · rfl
  · dsimp only
    rw [watch_later _ (by simp), watch_dropAlarm_limit]
    rfl

@[simp] theorem watch_write (c : Nat) (frame : Wire.Frame) : (b.write c frame).2.watch = b.watch := by
  unfold write
  split
  · rfl
  · dsimp only
    split <;> rfl

@[simp] theorem watch_reply (c : Nat) (id : CorrelationId) (result : Except RequestError Unit) :
    (b.reply c id result).watch = b.watch := by
  cases result <;> exact watch_write ..

@[simp] theorem watch_arm (ticket : Nat) : (b.arm ticket).watch = b.watch := by
  unfold arm
  split
  · exact b.watch_setAlarm_limit _ _
  · rfl

@[simp] theorem watch_expire (ticket : Nat) : (b.expire ticket).watch = b.watch := by
  unfold expire
  split
  · exact watch_later _ (by simp)
  · rfl

@[simp] theorem watch_greet (c : Nat) : (b.greet c).watch = b.watch := by
  unfold greet
  dsimp only
  split <;> rename_i written
  all_goals
    have kept := congrArg (fun r => r.2.watch) written
    simp only [watch_write] at kept
    exact kept.symm.trans (watch_resolve b.mintId.2 _ _)

@[simp] theorem watch_strike (id name : String) : (b.strike id name).watch = b.watch := by
  unfold strike
  split
  · rfl
  · exact b.watch_modifyLane_of_post _ fun _ => rfl

/-! ## What opens a gate -/

variable {b k}

/-- Something is done to a queue that opens its gate, and then its worker is called. -/
theorem kept_opened (kept : b.watch.Kept) {f : Lane → Lane}
    (opens : ∀ lane, b.lanes[k]? = some lane → lane.post.Opens (f lane).post) :
    ((b.modifyLane k f).rouse k).watch.Kept := by
  rw [watch_rouse]
  cases found : b.lanes[k]? with
  | none =>
      have post : (b.watch.duty k).post? = none := by simp [watch, duty, found]
      rw [b.watch_modifyLane k (f := f) (g := id) (by simp [found]), Watch.update_update,
        Watch.update_of_same]
      · exact kept
      · rw [Duty.modify_id, Duty.rouse_of_none post]
  | some lane =>
      have post : (b.watch.duty k).post? = some lane.post := by simp [watch, duty, found]
      rw [b.watch_modifyLane k (f := f) (g := fun _ => (f lane).post) (by simp [found]),
        Watch.update_update]
      refine kept.update ?_
      have opened := (kept k).opened post (opens lane found)
      rwa [Duty.modify, post, Option.map_some]

theorem kept_openGate (kept : b.watch.Kept) (k : Nat) : (b.openGate k).watch.Kept :=
  kept_opened kept fun _ _ => ⟨rfl, rfl, rfl, id⟩

theorem kept_closeLane (kept : b.watch.Kept) (k : Nat) : (b.closeLane k).watch.Kept :=
  kept_opened kept fun _ _ => ⟨rfl, rfl, rfl, fun _ => rfl⟩

/-- A queue that was asked to take an id: either it is closed and nothing happens, or its gate
opens. -/
theorem kept_take (kept : b.watch.Kept) {lane : Lane} (found : b.lanes[k]? = some lane)
    {a : Bool × Queue} (refuses : lane.queue.isClosed = true → a.2 = lane.queue)
    (takes : lane.queue.isClosed = false →
      a.2.gate = lane.queue.gate.unblock ∧ a.2.isClosed = false) :
    ((b.modifyQueue k fun _ => a.2).rouse k).watch.Kept := by
  cases closed : lane.queue.isClosed with
  | true =>
      have same : (b.modifyQueue k fun _ => a.2).watch = b.watch := by
        rw [modifyQueue, b.watch_modifyLane k (g := id), Watch.update_of_same (Duty.modify_id _)]
        intro lane' found'
        rw [Option.some.inj (found'.symm.trans found), refuses closed]
        rfl
      rw [watch_rouse, same, Watch.update_of_same (kept k).rouse_eq]
      exact kept
  | false =>
      refine kept_opened kept ?_
      intro lane' found'
      obtain rfl : lane' = lane := Option.some.inj (found'.symm.trans found)
      obtain ⟨gate, open'⟩ := takes closed
      exact ⟨gate, rfl, rfl, fun shut => absurd (shut.symm.trans closed) Bool.false_ne_true.symm⟩

theorem kept_enqueue (kept : b.watch.Kept) (k : Nat) (m : CorrelationId) :
    (b.enqueue k m).2.watch.Kept := by
  unfold enqueue
  cases found : b.lanes[k]? with
  | none => exact kept
  | some lane =>
      apply kept_take kept found
      · intro closed
        rw [Queue.enqueue, if_pos closed]
      · intro opened
        rw [Queue.enqueue, if_neg (by simp [opened])]
        exact ⟨rfl, opened⟩

theorem kept_requeue (kept : b.watch.Kept) (k : Nat) (m : CorrelationId) :
    (b.requeue k m).watch.Kept := by
  unfold requeue
  cases found : b.lanes[k]? with
  | none =>
      dsimp only
      rw [watch_release]
      exact kept
  | some lane =>
      have taken := kept_take kept found (a := lane.queue.requeue m)
        (fun closed => by rw [Queue.requeue, if_pos closed])
        (fun opened => by
          rw [Queue.requeue, if_neg (by simp [opened])]
          exact ⟨rfl, opened⟩)
      dsimp only
      split
      · exact taken
      · rw [watch_release]
        exact taken

theorem kept_fanOut (kept : b.watch.Kept) (m : CorrelationId) (lanes : List Nat) :
    (b.fanOut m lanes).2.watch.Kept := by
  have each : ∀ (lanes : List Nat) (count : Nat) (b : Broker), b.watch.Kept →
      (lanes.foldl (fanOutTo m) (count, b)).2.watch.Kept := by
    intro lanes
    induction lanes with
    | nil => exact fun _ _ kept => kept
    | cons k lanes ih =>
        intro count b kept
        have taken := kept_enqueue kept k m
        rw [List.foldl_cons, fanOutTo]
        dsimp only
        split
        · exact ih _ _ taken
        · refine ih _ _ ?_
          rw [watch_release]
          exact taken
  exact each lanes 0 _ kept

theorem kept_bring (kept : b.watch.Kept) (m : Store.Message) (lanes : List Nat) :
    (b.bring m lanes).2.watch.Kept := by
  unfold bring
  split
  · exact kept
  · rename_i depot stored
    have spread := kept_fanOut (b := { b with depot }) kept m.id lanes
    dsimp only
    split <;> exact spread

theorem kept_publish (kept : b.watch.Kept) (m : Store.Message) : (b.publish m).2.watch.Kept := by
  unfold publish
  split
  · exact kept
  · exact kept_bring kept m _

theorem kept_beginPublish (kept : b.watch.Kept) (tag : String) (m : Store.Message) :
    (b.beginPublish tag m).watch.Kept := by
  unfold beginPublish
  split
  · exact kept
  · dsimp only
    split
    · exact kept
    · exact kept_bring kept m _

theorem kept_recoverOne (kept : b.watch.Kept) (report : Recovery) (m : CorrelationId) :
    (b.recoverOne report m).2.watch.Kept := by
  unfold recoverOne
  split
  · exact kept
  · split
    · exact kept
    · exact kept
    · rename_i message depot _
      dsimp only
      split
      · exact kept
      · split <;> exact kept_fanOut (b := { b with depot }) kept m _

theorem kept_recover (kept : b.watch.Kept) : b.recover.2.watch.Kept := by
  have each : ∀ (ids : List CorrelationId) (report : Recovery) (b : Broker), b.watch.Kept →
      (b.recoverEach report ids).2.watch.Kept := by
    intro ids
    induction ids with
    | nil => exact fun _ _ kept => kept
    | cons m ids ih =>
        intro report b kept
        have one := kept_recoverOne kept report m
        rw [recoverEach]
        split <;> rename_i looked <;> rw [looked] at one
        · exact one
        · exact ih _ _ one
  unfold recover
  split
  · exact kept
  · exact each _ _ _ kept

/-! ## Requests and connections -/

/-- A queue that is declared gets a worker with a task in the line. -/
theorem kept_declare (kept : b.watch.Kept) (name route : String) :
    (b.declare name route).2.watch.Kept := by
  unfold declare
  split
  · exact kept
  · split
    · exact kept
    · rename_i pattern _
      split
      · split <;> exact kept
      · have nobody : b.watch.duty b.lanes.length = ⟨none, 0, []⟩ := by
          have stands := (kept b.lanes.length).stands
          have missing : (b.watch.duty b.lanes.length).post? = none := by simp [watch, duty]
          generalize b.watch.duty b.lanes.length = d at stands missing
          cases stands with
          | nobody => rfl
          | _ => cases missing
        have added := watch_addLane b ⟨Queue.new name pattern, b.settings.backoff, .due⟩
        dsimp only
        rw [watch_later_work, added, Watch.update_update]
        refine kept.update ?_
        rw [nobody]
        refine ⟨.due rfl, ?_⟩
        intro post same
        cases same
        exact .new _ _ _

/-- What waits in a closed queue does not matter to its worker. -/
theorem kept_delete (kept : b.watch.Kept) (name : String) : (b.delete name).2.watch.Kept := by
  unfold delete
  split
  · exact kept
  · rename_i k lane found
    have shut : ((b.closeLane k).watch.duty k).post?.map Post.isClosed = some true := by
      have place := (lane?_eq_some found).1
      rw [closeLane, watch_rouse, Watch.update_duty, Duty.isClosed_rouse, modifyQueue,
        b.watch_modifyLane k (g := fun post => { post with
          isClosed := true, gate := post.gate.unblock }) fun _ _ => rfl, Watch.update_duty]
      simp [Duty.modify, watch, duty, place]
    have closed := kept_closeLane kept k
    have emptied := watch_modifyLane (b.closeLane k) k
      (f := fun lane => { lane with queue := { lane.queue with
        roster := lane.queue.roster.clear, pending := [] } })
      (g := fun post => { post with pending := [] }) fun _ _ => rfl
    have gone := closed.update ((closed k).emptied shut)
    rw [← emptied] at gone
    dsimp only
    rw [watch_releaseEach]
    exact gone

theorem kept_subscribe (kept : b.watch.Kept) (id name : String) (ceiling : Option Nat) :
    (b.subscribe id name ceiling).2.watch.Kept := by
  unfold subscribe
  split
  · exact kept
  · rename_i session _
    split
    · exact kept
    · rename_i k lane _
      have listed : ∀ (b' : Broker) (roster : Queue.Roster) (sessions : Table String Peer.Session),
          b'.watch = b.watch →
          Broker.watch { b'.modifyQueue k fun queue => { queue with roster } with sessions } =
            b.watch := by
        intro b' roster sessions same
        rw [watch_withSessions, ← same]
        exact b'.watch_modifyLane_of_post k fun _ => rfl
      dsimp only
      split
      · cases ceiling <;> exact kept
      · rename_i roster _
        refine kept_openGate ?_ k
        rw [listed _ roster _ (by cases ceiling <;> rfl)]
        exact kept

theorem watch_unsubscribe (b : Broker) (id name : String) :
    (b.unsubscribe id name).2.watch = b.watch := by
  unfold unsubscribe
  split
  · rfl
  · split
    · rfl
    · dsimp only
      rw [watch_strike]
      rfl

theorem watch_connect (b : Broker) (id : String) (link : Peer.Link) :
    (b.connect id link).2.watch = b.watch := by
  unfold connect
  dsimp only
  split
  · rfl
  · dsimp only
    rw [watch_greet]
    rfl

theorem watch_disconnect (b : Broker) (id : String) : (b.disconnect id).watch = b.watch := by
  have struck : ∀ (names : List String) (b : Broker),
      (names.foldl (fun b name => b.strike id name) b).watch = b.watch := by
    intro names
    induction names with
    | nil => exact fun _ => rfl
    | cons name names ih => exact fun b => (ih _).trans (b.watch_strike id name)
  have resolved : ∀ (ids : List CorrelationId) (b : Broker),
      (ids.foldl (fun b d => (b.resolve d (some .sendFailed)).2) b).watch = b.watch := by
    intro ids
    induction ids with
    | nil => exact fun _ => rfl
    | cons d ids ih => exact fun b => (ih _).trans (b.watch_resolve d _)
  unfold disconnect
  split
  · rfl
  · dsimp only
    rw [watch_announce]
    refine (resolved _ _).trans ?_
    rw [watch_modifyClient, struck]
    rfl

theorem kept_request (kept : b.watch.Kept) (connection : String) (id : CorrelationId)
    (body : Wire.Body) : (b.request connection id body).2.watch.Kept := by
  cases body with
  | message route payload => exact kept_publish kept _
  | subscribe queue ceiling => exact kept_subscribe kept _ _ _
  | unsubscribe queue =>
      rw [request, watch_unsubscribe]
      exact kept
  | declare name route => exact kept_declare kept _ _
  | delete name => exact kept_delete kept _
  | nack reason => exact kept

theorem kept_handle (kept : b.watch.Kept) (session : Peer.Session) (frame : Wire.Frame) :
    (b.handle session frame).2.watch.Kept := by
  unfold handle
  split
  · simpa using kept
  · split
    · exact kept
    · simpa using kept
  · simpa using kept
  · split
    · exact kept
    · dsimp only
      rw [watch_reply]
      exact kept_request kept _ _ _

end Broker

end MessageBroker
