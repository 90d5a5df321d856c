import MessageBroker.Queue.Crowd

/-!
# Standing before a gate

Whoever is suspended stands before the gate and holds the waiter's place, and nobody else does. An
opening calls the one who stands there, so as long as it has not been called the gate is closed. Both
can be read off the crowd together with the turns that are still due, and every turn keeps it so.

From this order it follows what turns come to. The gate lets nobody through while it is closed, it
refuses exactly those who come while somebody else stands there, and whoever leaves makes room for the
next.
-/

namespace MessageBroker.Queue

/-- An opening calls the waiter, whether it has been called before or not. -/
theorem Gate.waiter_unblock {ω : Type} (g : Gate ω) :
    g.unblock.waiter = g.waiter.map fun w => ⟨w.who, true⟩ := by
  unfold Gate.unblock
  split
  · rename_i place
    rw [place]
    rfl
  · rename_i other
    cases place : g.waiter with
    | none => rfl
    | some w =>
      cases called : w.called with
      | true => rw [← called]; rfl
      | false => exact absurd (place.trans (by rw [← called])) (other w.who)

namespace Crowd

/-! ## One turn -/

/-- How far a visitor has got. -/
def stage? (c : Crowd) (n : Nat) : Option Stage :=
  c.visits[n]?.map Visit.stage

/-- A visitor stands before the gate. -/
def Stands (c : Crowd) (n : Nat) : Prop :=
  ∃ until?, c.stage? n = some (.standing until?)

/-- A time to wait for has come. -/
def isOver (c : Crowd) (until? : Option Nat) : Bool :=
  until?.any (· ≤ c.now)

/-- What a turn makes of a visit: who holds the waiter's place after it, and how far the visitor has
got. -/
inductive Taken (c : Crowd) (n : Nat) (v : Visit) : Option (Waiter Nat) → Stage → Prop where
  | settled {how : Ending} (stage : v.stage = .over how) : Taken c n v c.gate.waiter (.over how)
  /-- It was sent away before it came. -/
  | absent (stage : v.stage = .coming) (away : v.isSentAway = true) :
      Taken c n v c.gate.waiter (.over .sentAway)
  | passes (stage : v.stage = .coming) (here : v.isSentAway = false)
      (isOpen : c.gate.isOpen = true) : Taken c n v c.gate.waiter (.over .passed)
  | refused {w : Waiter Nat} (stage : v.stage = .coming) (here : v.isSentAway = false)
      (shut : c.gate.isOpen = false) (place : c.gate.waiter = some w) :
      Taken c n v c.gate.waiter (.over .refused)
  | stands (stage : v.stage = .coming) (here : v.isSentAway = false)
      (shut : c.gate.isOpen = false) (free : c.gate.waiter = none)
      (early : c.isOver (v.patience.map (c.now + ·)) = false) :
      Taken c n v (some ⟨n, false⟩) (.standing (v.patience.map (c.now + ·)))
  | impatient (stage : v.stage = .coming) (here : v.isSentAway = false)
      (shut : c.gate.isOpen = false) (free : c.gate.waiter = none)
      (late : c.isOver (v.patience.map (c.now + ·)) = true) :
      Taken c n v none (.over .timedOut)
  | leaves {until? : Option Nat} (stage : v.stage = .standing until?) (away : v.isSentAway = true) :
      Taken c n v none (.over .sentAway)
  /-- It was called and finds the gate open. -/
  | called {until? : Option Nat} (stage : v.stage = .standing until?) (here : v.isSentAway = false)
      (calling : c.gate.calling = true) (isOpen : c.gate.isOpen = true) :
      Taken c n v none (.over .passed)
  /-- It was called, but the gate is closed again. -/
  | again {until? : Option Nat} (stage : v.stage = .standing until?) (here : v.isSentAway = false)
      (calling : c.gate.calling = true) (shut : c.gate.isOpen = false)
      (early : c.isOver until? = false) : Taken c n v (some ⟨n, false⟩) (.standing until?)
  | givesUp {until? : Option Nat} (stage : v.stage = .standing until?) (here : v.isSentAway = false)
      (shut : c.gate.calling = true → c.gate.isOpen = false) (late : c.isOver until? = true) :
      Taken c n v none (.over .timedOut)
  | stays {until? : Option Nat} (stage : v.stage = .standing until?) (here : v.isSentAway = false)
      (uncalled : c.gate.calling = false) (early : c.isOver until? = false) :
      Taken c n v c.gate.waiter (.standing until?)

/-- A crowd after a turn: one visitor may have got further, and the waiter's place may have changed
hands. -/
structure Follows (c : Crowd) (n : Nat) (place : Option (Waiter Nat)) (stage : Stage)
    (c' : Crowd) : Prop where
  visits : c'.visits = c.visits.modify n fun v => { v with stage }
  place : c'.gate.waiter = place
  isOpen : c'.gate.isOpen = c.gate.isOpen
  now : c'.now = c.now
  turns : c'.turns = c.turns

variable {c c' : Crowd} {n m : Nat} {v : Visit} {place : Option (Waiter Nat)} {stage : Stage}

/-- Whoever comes while the gate is open is let through. -/
theorem Taken.of_open (taken : c.Taken n v place stage) (came : v.stage = .coming)
    (here : v.isSentAway = false) (isOpen : c.gate.isOpen = true) : stage = .over .passed := by
  cases taken with
  | passes => rfl
  | _ => simp_all

/-- Whoever comes while the gate is closed and the place is taken is refused. -/
theorem Taken.of_held {w : Waiter Nat} (taken : c.Taken n v place stage) (came : v.stage = .coming)
    (here : v.isSentAway = false) (shut : c.gate.isOpen = false) (held : c.gate.waiter = some w) :
    stage = .over .refused := by
  cases taken with
  | refused => rfl
  | _ => simp_all

/-- Whoever comes while the gate is closed and the place is free stands there, as long as there is any
time. -/
theorem Taken.of_free (taken : c.Taken n v place stage) (came : v.stage = .coming)
    (here : v.isSentAway = false) (shut : c.gate.isOpen = false) (free : c.gate.waiter = none) :
    (∃ until?, stage = .standing until?) ∨
      stage = .over .timedOut ∧ c.isOver (v.patience.map (c.now + ·)) = true := by
  cases taken with
  | stands => exact .inl ⟨_, rfl⟩
  | impatient _ _ _ _ late => exact .inr ⟨rfl, late⟩
  | _ => simp_all

/-- A visit that is over stays as it is. -/
theorem Taken.of_over {how : Ending} (taken : c.Taken n v place stage) (ended : v.stage = .over how) :
    stage = .over how := by
  cases taken with
  | settled stage => exact stage.symm.trans ended
  | _ => simp_all

/-- A visitor whose time to wait is over gives up its place or is let through. -/
theorem Taken.of_late {until? : Option Nat} (taken : c.Taken n v place stage)
    (standing : v.stage = .standing until?) (late : c.isOver until? = true) : place = none := by
  cases taken with
  | leaves | called | givesUp => rfl
  | _ => simp_all

theorem turn_of_none (nobody : c.visits[n]? = none) : c.turn n = c := by
  rw [turn, nobody]

theorem follows_self (found : c.visits[n]? = some v) : c.Follows n c.gate.waiter v.stage c := by
  refine ⟨?_, rfl, rfl, rfl, rfl⟩
  apply List.ext_getElem?
  intro m
  rw [List.getElem?_modify]
  split
  · rename_i same
    rw [← same, found]
    rfl
  · exact Option.map_id'.symm

theorem follows_setStage (n : Nat) (stage : Stage) {g : Gate Nat}
    (same : g.isOpen = c.gate.isOpen) :
    c.Follows n g.waiter stage ({ c with gate := g }.setStage n stage) :=
  ⟨rfl, rfl, same, rfl, rfl⟩

/-- A visitor who has to wait stands before the gate from then on, if it has any patience left. -/
theorem follow_suspended (n : Nat) (until? : Option Nat) {g : Gate Nat}
    (same : g.isOpen = c.gate.isOpen) :
    if c.isOver until? then
      c.Follows n none (.over .timedOut) (c.follow n until? (.suspended, g))
    else c.Follows n g.waiter (.standing until?) (c.follow n until? (.suspended, g)) := by
  split <;> rename_i time
  · rw [isOver] at time
    simp only [follow, time, if_true]
    exact follows_setStage n (.over .timedOut) (g := g.leave) same
  · rw [isOver] at time
    simp only [follow, time]
    exact follows_setStage n (.standing until?) same

/-- A visitor who exists takes its turn in one of these ways. -/
theorem turn_spec (found : c.visits[n]? = some v) :
    ∃ place stage, c.Taken n v place stage ∧ c.Follows n place stage (c.turn n) := by
  rw [turn, found]
  simp only
  have self := follows_self found
  cases stage : v.stage with
  | coming =>
    cases away : v.isSentAway with
    | true => exact ⟨_, _, .absent stage away, follows_setStage n _ rfl⟩
    | false =>
      simp only [Bool.false_eq_true, if_false]
      cases shut : c.gate.isOpen with
      | true =>
        rw [Gate.arrive, if_pos shut]
        exact ⟨_, _, .passes stage away shut, follows_setStage n _ rfl⟩
      | false =>
        cases taken : c.gate.waiter with
        | some w =>
          rw [Gate.arrive, if_neg (by rw [shut]; decide), if_pos (by rw [taken]; rfl)]
          exact ⟨_, _, .refused stage away shut taken, follows_setStage n _ rfl⟩
        | none =>
          rw [Gate.arrive, if_neg (by rw [shut]; decide), if_neg (by rw [taken]; decide)]
          have waits := follow_suspended (c := c) n (v.patience.map (c.now + ·))
            (g := { c.gate with permit := false, waiter := some ⟨n, false⟩ }) rfl
          cases late : c.isOver (v.patience.map (c.now + ·)) with
          | true => exact ⟨_, _, .impatient stage away shut taken late, by rwa [late] at waits⟩
          | false => exact ⟨_, _, .stands stage away shut taken late, by rwa [late] at waits⟩
  | standing until? =>
    cases away : v.isSentAway with
    | true => exact ⟨_, _, .leaves stage away, follows_setStage n _ (g := c.gate.leave) rfl⟩
    | false =>
      simp only [Bool.false_eq_true, if_false]
      cases calling : c.gate.calling with
      | true =>
        cases shut : c.gate.isOpen with
        | true =>
          rw [if_pos rfl, Gate.look, if_pos shut]
          exact ⟨_, _, .called stage away calling shut,
            follows_setStage n _ (g := { c.gate with permit := false, waiter := none }) rfl⟩
        | false =>
          rw [if_pos rfl, Gate.look, if_neg (by rw [shut]; decide)]
          have waits := follow_suspended (c := c) n until?
            (g := { c.gate with permit := false, waiter := some ⟨n, false⟩ }) rfl
          cases late : c.isOver until? with
          | true => exact ⟨_, _, .givesUp stage away (fun _ => shut) late, by rwa [late] at waits⟩
          | false => exact ⟨_, _, .again stage away calling shut late, by rwa [late] at waits⟩
      | false =>
        rw [if_neg Bool.false_ne_true, ← isOver]
        cases late : c.isOver until? with
        | true =>
          rw [if_pos rfl]
          refine ⟨_, _, .givesUp stage away (fun yes => ?_) late,
            follows_setStage n _ (g := c.gate.leave) rfl⟩
          exact absurd (calling.symm.trans yes) Bool.false_ne_true
        | false =>
          rw [if_neg Bool.false_ne_true]
          exact ⟨_, _, .stays stage away calling late, by rwa [stage] at self⟩
  | _ => exact ⟨_, _, .settled stage, by rwa [stage] at self⟩

/-- A visitor has been sent away. -/
def isAway (c : Crowd) (n : Nat) : Bool :=
  c.visits[n]?.any Visit.isSentAway

theorem stage?_of_found (found : c.visits[n]? = some v) : c.stage? n = some v.stage := by
  rw [stage?, found]
  rfl

theorem stands_of_found {until? : Option Nat} (found : c.visits[n]? = some v)
    (standing : v.stage = .standing until?) : c.Stands n :=
  ⟨until?, standing ▸ stage?_of_found found⟩

theorem not_stands_of_found (found : c.visits[n]? = some v) (reached : v.stage = stage)
    (other : ∀ until?, stage ≠ .standing until?) : ¬ c.Stands n := by
  rintro ⟨until?, standing⟩
  rw [stage?_of_found found, reached] at standing
  exact other until? (Option.some.inj standing)

namespace Follows

variable (follows : c.Follows n place stage c')
include follows

/-- A turn takes nobody else further. -/
theorem stage?_of_ne (other : m ≠ n) : c'.stage? m = c.stage? m := by
  simp [stage?, follows.visits, Ne.symm other]

theorem stage?_self (found : c.visits[n]? = some v) : c'.stage? n = some stage := by
  simp [stage?, follows.visits, found]

theorem stands_of_ne (other : m ≠ n) : c'.Stands m ↔ c.Stands m := by
  rw [Stands, Stands, follows.stage?_of_ne other]

theorem isAway_eq (m : Nat) : c'.isAway m = c.isAway m := by
  rw [isAway, isAway, follows.visits, List.getElem?_modify]
  cases c.visits[m]? with
  | none => rfl
  | some v =>
    simp only [Option.map_eq_map, Option.map_some, Option.any_some]
    split <;> rfl

end Follows

/-! ## Order before the gate -/

/-- A crowd is in order, with turns that are due: a visitor has a turn due unless it stands before the
gate and waits for nothing that has happened already. The waiter's place is held by whoever stands
there, and the gate is closed to a waiter who has not been called. -/
structure Orderly (c : Crowd) (due : List Nat) : Prop where
  coming : ∀ n, c.stage? n = some .coming → n ∈ due
  waiter : ∀ n, c.Stands n ↔ ∃ called, c.gate.waiter = some ⟨n, called⟩
  called : ∀ n, c.gate.waiter = some ⟨n, true⟩ → n ∈ due
  shut : ∀ n, c.gate.waiter = some ⟨n, false⟩ → c.gate.isOpen = false
  away : ∀ n, c.Stands n → c.isAway n = true → n ∈ due
  patient : ∀ n t, c.stage? n = some (.standing (some t)) → t ≤ c.now → n ∈ due

namespace Orderly

variable {due : List Nat}

theorem new (isOpen : Bool) : (Crowd.new isOpen).Orderly [] where
  coming := nofun
  waiter _ := iff_of_false nofun nofun
  called := nofun
  shut := nofun
  away _ stands := nomatch stands
  patient := nofun

/-- More turns may be due. -/
theorem mono {due' : List Nat} (orderly : c.Orderly due) (more : due ⊆ due') : c.Orderly due' where
  coming n stage := more (orderly.coming n stage)
  waiter := orderly.waiter
  called n place := more (orderly.called n place)
  shut := orderly.shut
  away n stands sent := more (orderly.away n stands sent)
  patient n t stage late := more (orderly.patient n t stage late)

/-- The order does not depend on the turns that a crowd says are due. -/
theorem congr (orderly : c.Orderly due) (gate : c'.gate = c.gate) (visits : c'.visits = c.visits)
    (now : c'.now = c.now) : c'.Orderly due := by
  have stage : c'.stage? = c.stage? := by
    funext n
    rw [stage?, stage?, visits]
  have stands : c'.Stands = c.Stands := by
    funext n
    rw [Stands, Stands, stage]
  have away : c'.isAway = c.isAway := by
    funext n
    rw [isAway, isAway, visits]
  constructor
  · exact stage ▸ orderly.coming
  · exact stands ▸ gate ▸ orderly.waiter
  · exact gate ▸ orderly.called
  · exact gate ▸ orderly.shut
  · exact stands ▸ away ▸ orderly.away
  · exact stage ▸ now ▸ orderly.patient

/-- No two visitors stand before the gate. -/
theorem alone (orderly : c.Orderly due) (one : c.Stands n) (other : c.Stands m) : n = m := by
  obtain ⟨_, place⟩ := (orderly.waiter n).1 one
  obtain ⟨_, place'⟩ := (orderly.waiter m).1 other
  exact congrArg Waiter.who (Option.some.inj (place.symm.trans place'))

theorem stands_of_waiter (orderly : c.Orderly due) {w : Waiter Nat} (place : c.gate.waiter = some w) :
    c.Stands w.who :=
  (orderly.waiter w.who).2 ⟨w.called, place⟩

/-- A turn keeps the order if the visitor is through after it or waits for what has not happened yet,
and holds the place exactly if it waits, while others hold it as before. -/
theorem turned (orderly : c.Orderly (n :: due)) (found : c.visits[n]? = some v)
    (follows : c.Follows n place stage c') (came : stage ≠ .coming)
    (waits : ∀ until?, stage = .standing until? →
      c.gate.isOpen = false ∧ v.isSentAway = false ∧ c.isOver until? = false)
    (own : ∀ called, place = some ⟨n, called⟩ ↔
      called = false ∧ ∃ until?, stage = .standing until?)
    (others : ∀ m called, m ≠ n → (place = some ⟨m, called⟩ ↔ c.gate.waiter = some ⟨m, called⟩)) :
    c'.Orderly due := by
  have self := follows.stage?_self found
  have rest : ∀ {m}, m ≠ n → m ∈ n :: due → m ∈ due := fun other listed =>
    (List.mem_cons.1 listed).resolve_left other
  have stands : c'.Stands n ↔ ∃ until?, stage = .standing until? := by
    simp only [Stands, self, Option.some.injEq]
  constructor
  case coming =>
    intro m stage'
    have other : m ≠ n := by
      rintro rfl
      exact came (Option.some.inj (self.symm.trans stage'))
    exact rest other (orderly.coming m (follows.stage?_of_ne other ▸ stage'))
  case waiter =>
    intro m
    rw [follows.place]
    by_cases same : m = n
    · subst same
      rw [stands]
      exact ⟨fun waiting => ⟨false, (own false).2 ⟨rfl, waiting⟩⟩,
        fun ⟨called, held⟩ => ((own called).1 held).2⟩
    · rw [follows.stands_of_ne same, orderly.waiter m]
      exact exists_congr fun called => (others m called same).symm
  case called =>
    intro m held
    rw [follows.place] at held
    by_cases same : m = n
    · subst same
      exact absurd ((own true).1 held).1 (by decide)
    · exact rest same (orderly.called m ((others m true same).1 held))
  case shut =>
    intro m held
    rw [follows.place] at held
    rw [follows.isOpen]
    by_cases same : m = n
    · subst same
      obtain ⟨-, until?, waiting⟩ := (own false).1 held
      exact (waits until? waiting).1
    · exact orderly.shut m ((others m false same).1 held)
  case away =>
    intro m stands' sent
    rw [follows.isAway_eq] at sent
    by_cases same : m = n
    · subst same
      obtain ⟨until?, waiting⟩ := stands.1 stands'
      rw [isAway, found, Option.any_some, (waits until? waiting).2.1] at sent
      cases sent
    · exact rest same (orderly.away m ((follows.stands_of_ne same).1 stands') sent)
  case patient =>
    intro m t stage' late
    rw [follows.now] at late
    by_cases same : m = n
    · subst same
      have early := (waits _ (Option.some.inj (self.symm.trans stage'))).2.2
      simp [isOver, late] at early
    · exact rest same (orderly.patient m t (follows.stage?_of_ne same ▸ stage') late)

/-- The turn of somebody who does not exist is for nothing. -/
theorem skip (orderly : c.Orderly (n :: due)) (unknown : c.stage? n = none) : c.Orderly due := by
  have rest : ∀ {m stage}, c.stage? m = some stage → m ∈ n :: due → m ∈ due := by
    intro m stage known listed
    rcases List.mem_cons.1 listed with rfl | listed
    · cases unknown.symm.trans known
    · exact listed
  constructor
  · exact fun m stage => rest stage (orderly.coming m stage)
  · exact orderly.waiter
  · intro m held
    obtain ⟨_, stands⟩ := orderly.stands_of_waiter held
    exact rest stands (orderly.called m held)
  · exact orderly.shut
  · exact fun m ⟨_, stands⟩ sent => rest stands (orderly.away m ⟨_, stands⟩ sent)
  · exact fun m t stage late => rest stage (orderly.patient m t stage late)

section

variable {how : Ending} {until? : Option Nat} (orderly : c.Orderly (n :: due))
  (found : c.visits[n]? = some v)
include orderly found

/-- The visit of somebody who does not stand before the gate ends. -/
theorem outside (follows : c.Follows n c.gate.waiter (.over how) c') (out : ¬ c.Stands n) :
    c'.Orderly due := by
  refine orderly.turned found follows nofun nofun (fun called => ?_) fun _ _ _ => Iff.rfl
  refine iff_of_false (fun held => out (orderly.stands_of_waiter held)) ?_
  rintro ⟨-, _, standing⟩
  cases standing

/-- The visit of the only one who may stand before the gate ends, and the place is free. -/
theorem vacates (follows : c.Follows n none (.over how) c') (alone : ∀ m, c.Stands m → m = n) :
    c'.Orderly due := by
  refine orderly.turned found follows nofun nofun (fun called => ?_) fun m called other => ?_
  · refine iff_of_false nofun ?_
    rintro ⟨-, _, standing⟩
    cases standing
  · exact iff_of_false nofun fun held => other (alone m (orderly.stands_of_waiter held))

/-- The only one who may stand before the gate stands there. -/
theorem waits (follows : c.Follows n (some ⟨n, false⟩) (.standing until?) c')
    (alone : ∀ m, c.Stands m → m = n) (shut : c.gate.isOpen = false) (here : v.isSentAway = false)
    (early : c.isOver until? = false) : c'.Orderly due := by
  refine orderly.turned found follows nofun ?_ (fun called => ?_) fun m called other => ?_
  · rintro _ ⟨⟩
    exact ⟨shut, here, early⟩
  · rw [Option.some.injEq, Waiter.mk.injEq, and_iff_right rfl, and_iff_left ⟨until?, rfl⟩, eq_comm]
  · refine iff_of_false (fun held => other ?_) fun held =>
      other (alone m (orderly.stands_of_waiter held))
    exact (congrArg Waiter.who (Option.some.inj held)).symm

end

/-- Every turn keeps the order. -/
theorem turn (orderly : c.Orderly (n :: due)) : (c.turn n).Orderly due := by
  cases found : c.visits[n]? with
  | none =>
    rw [turn_of_none found]
    exact orderly.skip (by rw [stage?, found]; rfl)
  | some v =>
    obtain ⟨place, stage, taken, follows⟩ := turn_spec found
    have alone : ∀ {until?}, v.stage = .standing until? → ∀ m, c.Stands m → m = n :=
      fun standing m other => orderly.alone other (stands_of_found found standing)
    have nobody : c.gate.waiter = none → ∀ m, c.Stands m → m = n := by
      intro free m stands
      obtain ⟨_, held⟩ := (orderly.waiter m).1 stands
      cases free.symm.trans held
    cases taken with
    | settled standing => exact orderly.outside found follows (not_stands_of_found found standing nofun)
    | absent standing => exact orderly.outside found follows (not_stands_of_found found standing nofun)
    | passes standing => exact orderly.outside found follows (not_stands_of_found found standing nofun)
    | refused standing => exact orderly.outside found follows (not_stands_of_found found standing nofun)
    | stands _ here shut free early => exact orderly.waits found follows (nobody free) shut here early
    | impatient _ _ _ free => exact orderly.vacates found follows (nobody free)
    | leaves standing => exact orderly.vacates found follows (alone standing)
    | called standing => exact orderly.vacates found follows (alone standing)
    | again standing here _ shut early =>
      exact orderly.waits found follows (alone standing) shut here early
    | givesUp standing => exact orderly.vacates found follows (alone standing)
    | stays standing here uncalled early =>
      obtain ⟨called, held⟩ := (orderly.waiter n).1 (stands_of_found found standing)
      obtain rfl : called = false := by rwa [Gate.calling, held] at uncalled
      exact orderly.waits found (held ▸ follows) (alone standing) (orderly.shut n held) here early

end Orderly

/-! ## What turns come to -/

/-- A turn: the crowd before it, and whose it is. -/
structure Turn where
  crowd : Crowd
  who : Nat

namespace Turn

/-- The crowd after a turn. -/
def after (t : Turn) : Crowd :=
  t.crowd.turn t.who

/-- A visit ends with a turn. -/
def Ends (t : Turn) (how : Ending) : Prop :=
  (∀ how', t.crowd.stage? t.who ≠ some (.over how')) ∧ t.after.stage? t.who = some (.over how)

/-- A visitor who has not been sent away comes to the gate. -/
def Comes (t : Turn) (v : Visit) : Prop :=
  t.crowd.visits[t.who]? = some v ∧ v.stage = .coming ∧ v.isSentAway = false

/-- A turn goes as the gate says. The waiter's place is held by whoever stands before the gate. The gate
lets nobody through while it is closed. Whoever comes is let through if it is open, refused exactly if it
is closed and somebody else holds the place, and stands there if the place is free, as long as there is
any patience. A visit that ends leaves the place to others. -/
structure Fair (t : Turn) : Prop where
  place : ∀ n, t.crowd.Stands n ↔ ∃ called, t.crowd.gate.waiter = some ⟨n, called⟩
  passed : t.Ends .passed → t.crowd.gate.isOpen = true
  opened : ∀ v, t.Comes v → t.crowd.gate.isOpen = true → t.Ends .passed
  refused : t.Ends .refused ↔ (∃ v, t.Comes v) ∧ t.crowd.gate.isOpen = false ∧
    ∃ w, t.crowd.gate.waiter = some w ∧ w.who ≠ t.who
  suspended : ∀ v, t.Comes v → t.crowd.gate.isOpen = false → t.crowd.gate.waiter = none →
    t.after.Stands t.who ∨ t.Ends .timedOut ∧ v.patience = some 0
  freed : ∀ how, t.Ends how →
    t.after.gate.waiter = t.crowd.gate.waiter.filter fun w => w.who ≠ t.who

end Turn

namespace Orderly

variable {due : List Nat}

/-- The place is nobody else's if somebody stands there. -/
theorem place_of_stands (orderly : c.Orderly due) (stands : c.Stands n) :
    (c.gate.waiter.filter fun w => w.who ≠ n) = none := by
  obtain ⟨called, held⟩ := (orderly.waiter n).1 stands
  simp [held]

/-- The place is somebody else's unless one stands there oneself. -/
theorem place_of_out (orderly : c.Orderly due) (out : ¬ c.Stands n) :
    (c.gate.waiter.filter fun w => w.who ≠ n) = c.gate.waiter := by
  cases held : c.gate.waiter with
  | none => rfl
  | some w =>
    have other : w.who ≠ n := fun own => out (own ▸ orderly.stands_of_waiter held)
    simp [other]

/-- The turn of somebody who does not exist ends nothing. -/
theorem fair_of_none (orderly : c.Orderly due) (unknown : c.visits[n]? = none) :
    (Turn.mk c n).Fair := by
  have endless : ∀ how, ¬ (Turn.mk c n).Ends how := by
    rintro how ⟨-, ended⟩
    rw [Turn.after, turn_of_none unknown, stage?, unknown] at ended
    cases ended
  have nobody : ∀ v, ¬ (Turn.mk c n).Comes v := fun v ⟨came, _⟩ => nomatch unknown.symm.trans came
  constructor
  case place => exact orderly.waiter
  case passed => exact fun ended => absurd ended (endless _)
  case opened => exact fun v came => absurd came (nobody v)
  case refused => exact iff_of_false (endless _) fun ⟨⟨v, came⟩, _⟩ => nobody v came
  case suspended => exact fun v came => absurd came (nobody v)
  case freed => exact fun how ended => absurd ended (endless how)

/-- In a crowd that is in order every turn goes as the gate says. -/
theorem fair (orderly : c.Orderly due) : (Turn.mk c n).Fair := by
  cases found : c.visits[n]? with
  | none => exact orderly.fair_of_none found
  | some v =>
    obtain ⟨place, stage, taken, follows⟩ := turn_spec found
    have before := stage?_of_found found
    have self := follows.stage?_self found
    have ends : ∀ {how}, (Turn.mk c n).Ends how ↔
        (∀ how', v.stage ≠ .over how') ∧ stage = .over how := by
      intro how
      simp only [Turn.Ends, Turn.after, before, self, ne_eq, Option.some.injEq]
    have comes : ∀ {v'}, (Turn.mk c n).Comes v' → v' = v ∧ v.stage = .coming ∧
        v.isSentAway = false := by
      rintro v' ⟨known, came, here⟩
      cases found.symm.trans known
      exact ⟨rfl, came, here⟩
    constructor
    case place => exact orderly.waiter
    case passed =>
      intro passed
      obtain ⟨fresh, rfl⟩ := ends.1 passed
      cases taken with
      | settled standing => exact absurd standing (fresh _)
      | passes _ _ isOpen => exact isOpen
      | called _ _ _ isOpen => exact isOpen
    case opened =>
      intro v' came' isOpen
      obtain ⟨rfl, came, here⟩ := comes came'
      exact ends.2 ⟨by rw [came]; nofun, taken.of_open came here isOpen⟩
    case refused =>
      constructor
      · intro refused
        obtain ⟨fresh, rfl⟩ := ends.1 refused
        cases taken with
        | settled standing => exact absurd standing (fresh _)
        | refused came here shut held =>
          refine ⟨⟨v, found, came, here⟩, shut, _, held, ?_⟩
          rintro rfl
          exact not_stands_of_found found came nofun (orderly.stands_of_waiter held)
      · rintro ⟨⟨v', came'⟩, shut, w, held, -⟩
        obtain ⟨rfl, came, here⟩ := comes came'
        exact ends.2 ⟨by rw [came]; nofun, taken.of_held came here shut held⟩
    case suspended =>
      intro v' came' shut free
      obtain ⟨rfl, came, here⟩ := comes came'
      rcases taken.of_free came here shut free with ⟨until?, standing⟩ | ⟨ended, late⟩
      · exact .inl ⟨until?, standing ▸ self⟩
      · refine .inr ⟨ends.2 ⟨by rw [came]; nofun, ended⟩, ?_⟩
        obtain ⟨_, known, soon⟩ := (Option.any_eq_true _ _).1 late
        obtain ⟨p, patience, rfl⟩ := Option.map_eq_some_iff.1 known
        have soon : c.now + p ≤ c.now := of_decide_eq_true soon
        rw [patience, show p = 0 by omega]
    case freed =>
      intro how ended
      obtain ⟨fresh, rfl⟩ := ends.1 ended
      refine follows.place.trans ?_
      cases taken with
      | settled standing => exact absurd standing (fresh _)
      | absent came => exact (orderly.place_of_out (not_stands_of_found found came nofun)).symm
      | passes came => exact (orderly.place_of_out (not_stands_of_found found came nofun)).symm
      | refused came => exact (orderly.place_of_out (not_stands_of_found found came nofun)).symm
      | impatient _ _ _ free => simp [free]
      | leaves standing => exact (orderly.place_of_stands (stands_of_found found standing)).symm
      | called standing => exact (orderly.place_of_stands (stands_of_found found standing)).symm
      | givesUp standing => exact (orderly.place_of_stands (stands_of_found found standing)).symm

end Orderly

/-- A visit is over after a turn if it was over before, in the same way, or ends with that turn. -/
theorem over_turn_iff {how : Ending} :
    (c.turn n).stage? m = some (.over how) ↔
      c.stage? m = some (.over how) ∨ n = m ∧ (Turn.mk c n).Ends how := by
  cases found : c.visits[n]? with
  | none =>
    rw [turn_of_none found]
    refine ⟨.inl, fun ended => ended.resolve_right ?_⟩
    rintro ⟨rfl, -, ended⟩
    rw [Turn.after, turn_of_none found, stage?, found] at ended
    cases ended
  | some v =>
    obtain ⟨place, stage, taken, follows⟩ := turn_spec found
    by_cases same : m = n
    · subst same
      have before := stage?_of_found found
      have self := follows.stage?_self found
      constructor
      · intro ended
        by_cases already : v.stage = .over how
        · exact .inl (already ▸ before)
        · refine .inr ⟨rfl, fun how' before' => already ?_, ended⟩
          have standing := Option.some.inj (before.symm.trans before')
          obtain rfl := Option.some.inj (self.symm.trans ended)
          exact standing.trans (taken.of_over standing).symm
      · rintro (ended | ⟨-, -, ended⟩)
        · rw [self, taken.of_over (Option.some.inj (before.symm.trans ended))]
        · exact ended
    · rw [follows.stage?_of_ne same]
      exact ⟨.inl, fun ended => ended.resolve_right fun own => same own.1.symm⟩

end Crowd

end MessageBroker.Queue
