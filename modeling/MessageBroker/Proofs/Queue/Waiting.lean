import MessageBroker.Proofs.Queue.Standing

/-!
# Waiting before a gate

A gate is opened and closed, visitors set out for it and are sent away, time passes, and the turns that
fall due are taken one by one or in batches. All that happens keeps the crowd before the gate in order,
so every turn goes as the gate says, and once all turns have been taken at most one visitor still waits,
and only for the gate to open. No opening is lost, whatever else happens before the one who waits has
looked.
-/

namespace MessageBroker.Queue

namespace Crowd

variable {c : Crowd} {n m : Nat} {v : Visit}

/-! ## Runs -/

/-- The turns that are taken one after another. -/
def inTurn : Crowd → List Nat → List Turn
  | _, [] => []
  | c, n :: rest => ⟨c, n⟩ :: inTurn (c.turn n) rest

/-- The first turns that are due are taken, no more than a given number. -/
def serve (c : Crowd) (count : Nat) : Crowd :=
  (c.turns.take count).foldl turn { c with turns := c.turns.drop count }

/-- Time passes, and whose time to wait is over is called, but no turn is taken. -/
def lapse (c : Crowd) (ms : Nat) : Crowd :=
  let limit := c.now + ms
  match c.runningOut? limit with
  | some (n, _) => { c with now := limit }.call n
  | none => { c with now := limit }

/-- Something that happens to a gate. -/
inductive Move where
  | block
  | unblock
  /-- Somebody sets out for the gate, with so much patience. -/
  | come (tag : String) (patience : Option Nat)
  /-- Somebody is sent away. -/
  | sendAway (tag : String)
  /-- Some of the turns that are due are taken. -/
  | serve (count : Nat)
  /-- Time passes without a turn. -/
  | lapse (ms : Nat)
  /-- Time passes, and all turns are taken that are due on the way. -/
  | advance (ms : Nat)

/-- What something leads to. -/
def apply (c : Crowd) : Move → Crowd
  | .block => c.block
  | .unblock => c.unblock
  | .come tag patience => c.come tag patience
  | .sendAway tag => c.sendAway tag
  | .serve count => c.serve count
  | .lapse ms => c.lapse ms
  | .advance ms => c.advance ms

/-- What all that happens leads to. -/
def after (c : Crowd) (moves : List Move) : Crowd :=
  moves.foldl apply c

/-- All turns that are due, in a crowd that takes them. -/
def dueTurns (c : Crowd) : List Turn :=
  inTurn { c with turns := [] } c.turns

/-- The turns that are taken when something happens. -/
def turnsOf (c : Crowd) : Move → List Turn
  | .serve count => inTurn { c with turns := c.turns.drop count } (c.turns.take count)
  | .advance ms =>
    c.dueTurns ++ match c.settle.runningOut? (c.settle.now + ms) with
      | some (n, due) => ({ c.settle with now := due }.call n).dueTurns
      | none => []
  | _ => []

/-- The turns that are taken in the course of all that happens. -/
def turnsIn : Crowd → List Move → List Turn
  | _, [] => []
  | c, move :: rest => c.turnsOf move ++ turnsIn (c.apply move) rest

/-! ## Turns in a row -/

theorem turns_turn (c : Crowd) (n : Nat) : (c.turn n).turns = c.turns := by
  cases found : c.visits[n]? with
  | none => rw [turn_of_none found]
  | some v =>
    obtain ⟨_, _, -, follows⟩ := turn_spec found
    exact follows.turns

theorem turns_foldl_turn (c : Crowd) (due : List Nat) : (due.foldl turn c).turns = c.turns := by
  induction due generalizing c with
  | nil => rfl
  | cons n due ih => exact (ih (c.turn n)).trans (c.turns_turn n)

/-- Turns in a row go as the gate says, and after them the others are due that were. -/
theorem Orderly.inTurn {due rest : List Nat} (orderly : c.Orderly (due ++ rest)) :
    (∀ t ∈ inTurn c due, t.Fair) ∧ (due.foldl Crowd.turn c).Orderly rest := by
  induction due generalizing c with
  | nil => exact ⟨nofun, orderly⟩
  | cons n due ih =>
    obtain ⟨later, rested⟩ := ih orderly.turn
    refine ⟨fun t listed => ?_, rested⟩
    rcases List.mem_cons.1 listed with rfl | listed
    · exact orderly.fair
    · exact later t listed

/-- A visit is over after turns in a row if it was over before or ends with one of them. -/
theorem over_inTurn_iff {due : List Nat} {how : Ending} :
    (due.foldl turn c).stage? m = some (.over how) ↔
      c.stage? m = some (.over how) ∨ ∃ t ∈ inTurn c due, t.who = m ∧ t.Ends how := by
  induction due generalizing c with
  | nil => simp [Crowd.inTurn]
  | cons n due ih =>
    simp only [List.foldl_cons, ih, over_turn_iff, Crowd.inTurn, List.mem_cons, exists_eq_or_imp,
      or_assoc]

/-! ## Things that happen -/

theorem runningOut?_eq_some {limit due : Nat} (found : c.runningOut? limit = some (n, due)) :
    c.stage? n = some (.standing (some due)) ∧ due ≤ limit := by
  obtain ⟨⟨n', v⟩, listed, known⟩ := List.exists_of_findSome?_eq_some found
  obtain ⟨i, short, entry⟩ := List.mem_mapIdx.1 listed
  obtain ⟨rfl, rfl⟩ := Prod.mk.inj entry
  simp only at known
  split at known
  · rename_i due' standing
    split at known
    · rename_i soon
      cases known
      exact ⟨standing ▸ stage?_of_found (List.getElem?_eq_getElem short), soon⟩
    · cases known
  · cases known

theorem runningOut?_eq_none {limit t : Nat} (nobody : c.runningOut? limit = none)
    (standing : c.stage? n = some (.standing (some t))) : limit < t := by
  obtain ⟨v, found, stage⟩ := Option.map_eq_some_iff.1 standing
  obtain ⟨short, rfl⟩ := List.getElem?_eq_some_iff.1 found
  have patient := List.findSome?_eq_none_iff.1 nobody (n, c.visits[n])
    (List.mem_mapIdx.2 ⟨n, short, rfl⟩)
  simp only [stage] at patient
  split at patient
  · cases patient
  · omega

namespace Orderly

variable {due : List Nat}

/-- A call makes a turn due. -/
theorem call (orderly : c.Orderly (n :: c.turns)) : (c.call n).Orderly (c.call n).turns := by
  unfold Crowd.call
  split
  · rename_i listed
    exact orderly.mono (List.cons_subset.2 ⟨listed, List.Subset.refl _⟩)
  · refine (orderly.mono ?_).congr rfl rfl rfl
    exact List.cons_subset.2 ⟨by simp, List.subset_append_left _ _⟩

/-- The clock may show another time if whose time to wait is over then has a turn due. -/
theorem pass {due' : List Nat} (orderly : c.Orderly due) (now : Nat) (more : due ⊆ due')
    (late : ∀ n t, c.stage? n = some (.standing (some t)) → t ≤ now → n ∈ due') :
    ({ c with now } : Crowd).Orderly due' where
  coming n stage := more (orderly.coming n stage)
  waiter := orderly.waiter
  called n held := more (orderly.called n held)
  shut := orderly.shut
  away n stands sent := more (orderly.away n stands sent)
  patient := late

/-- A visitor whose time is over does not stand before the gate after its turn, and nobody else does. -/
theorem nobody_of_late {until? : Option Nat} (orderly : c.Orderly (n :: due))
    (standing : c.stage? n = some (.standing until?)) (late : c.isOver until? = true) (m : Nat) :
    ¬ (c.turn n).Stands m := by
  obtain ⟨v, found, stage⟩ := Option.map_eq_some_iff.1 standing
  obtain ⟨place, stage', taken, follows⟩ := turn_spec found
  intro stands
  obtain ⟨_, held⟩ := (orderly.turn.waiter m).1 stands
  rw [follows.place, taken.of_late stage late] at held
  cases held

theorem serve (orderly : c.Orderly c.turns) (count : Nat) :
    (∀ t ∈ c.turnsOf (.serve count), t.Fair) ∧ (c.serve count).Orderly (c.serve count).turns := by
  have before : ({ c with turns := c.turns.drop count } : Crowd).Orderly
      (c.turns.take count ++ c.turns.drop count) := by
    rw [List.take_append_drop]
    exact orderly.congr rfl rfl rfl
  rw [Crowd.serve, turns_foldl_turn]
  exact before.inTurn

theorem settle (orderly : c.Orderly c.turns) :
    (∀ t ∈ c.dueTurns, t.Fair) ∧ c.settle.Orderly [] := by
  have before : ({ c with turns := [] } : Crowd).Orderly (c.turns ++ []) := by
    rw [List.append_nil]
    exact orderly.congr rfl rfl rfl
  exact before.inTurn

/-- The clock may show any time if the one whose time to wait is over has a turn due then. -/
theorem pass_of_some {limit time : Nat} (orderly : c.Orderly due) (now : Nat)
    (found : c.runningOut? limit = some (n, time)) :
    ({ c with now } : Crowd).Orderly (n :: due) := by
  refine orderly.pass now (List.subset_cons_self _ _) fun m t standing _ => ?_
  rw [orderly.alone ⟨_, standing⟩ ⟨_, (runningOut?_eq_some found).1⟩]
  exact List.mem_cons_self

theorem pass_of_none {limit : Nat} (orderly : c.Orderly due)
    (nobody : c.runningOut? limit = none) : ({ c with now := limit } : Crowd).Orderly due :=
  orderly.pass limit (List.Subset.refl _) fun _ _ standing late =>
    absurd (runningOut?_eq_none nobody standing) (Nat.not_lt.2 late)

theorem block (orderly : c.Orderly due) : c.block.Orderly due :=
  ⟨orderly.coming, orderly.waiter, orderly.called, fun _ _ => rfl, orderly.away, orderly.patient⟩

/-- An opening calls whoever stands before the gate. -/
theorem opened {due' : List Nat} (orderly : c.Orderly due) (more : due ⊆ due')
    (calls : ∀ n, c.Stands n → n ∈ due') :
    ({ c with gate := c.gate.unblock } : Crowd).Orderly due' := by
  have held : ∀ {n called}, c.gate.unblock.waiter = some ⟨n, called⟩ ↔
      called = true ∧ c.Stands n := by
    intro n called
    rw [Gate.waiter_unblock, Option.map_eq_some_iff, orderly.waiter n]
    constructor
    · rintro ⟨w, place, same⟩
      cases same
      exact ⟨rfl, w.called, place⟩
    · rintro ⟨rfl, called, place⟩
      exact ⟨_, place, rfl⟩
  constructor
  · exact fun n stage => more (orderly.coming n stage)
  · exact fun n => ⟨fun stands => ⟨true, held.2 ⟨rfl, stands⟩⟩, fun ⟨_, place⟩ => (held.1 place).2⟩
  · exact fun n place => calls n (held.1 place).2
  · exact fun n place => absurd (held.1 place).1 (by decide)
  · exact fun n stands sent => more (orderly.away n stands sent)
  · exact fun n t stage late => more (orderly.patient n t stage late)

theorem unblock (orderly : c.Orderly c.turns) : c.unblock.Orderly c.unblock.turns := by
  unfold Crowd.unblock
  simp only [Gate.waiter_unblock]
  cases place : c.gate.waiter with
  | none =>
    refine orderly.opened (List.Subset.refl _) fun n stands => ?_
    obtain ⟨_, held⟩ := (orderly.waiter n).1 stands
    cases place.symm.trans held
  | some w =>
    have called : ({ c with gate := c.gate.unblock } : Crowd).Orderly (w.who :: c.turns) := by
      refine orderly.opened (List.subset_cons_self _ _) fun n stands => ?_
      rw [orderly.alone stands (orderly.stands_of_waiter place)]
      exact List.mem_cons_self
    exact called.call

/-- The visit of one visitor may begin or change, as long as it stands before the gate as it did, if it
has a turn due. -/
theorem joined {visits : List Visit} (orderly : c.Orderly due)
    (others : ∀ m, m ≠ n → visits[m]? = c.visits[m]?)
    (same : ({ c with visits } : Crowd).Stands n ↔ c.Stands n) :
    ({ c with visits } : Crowd).Orderly (n :: due) := by
  have stage : ∀ m, m ≠ n → ({ c with visits } : Crowd).stage? m = c.stage? m := by
    intro m other
    rw [stage?, stage?, others m other]
  have old : ∀ {m}, (m ≠ n → m ∈ due) → m ∈ n :: due := by
    intro m listed
    by_cases own : m = n
    · exact own ▸ List.mem_cons_self
    · exact List.mem_cons_of_mem _ (listed own)
  have stands : ∀ m, ({ c with visits } : Crowd).Stands m ↔ c.Stands m := by
    intro m
    by_cases own : m = n
    · exact own ▸ same
    · rw [Stands, Stands, stage m own]
  constructor
  · exact fun m coming => old fun other => orderly.coming m (stage m other ▸ coming)
  · exact fun m => (stands m).trans (orderly.waiter m)
  · exact fun m held => List.mem_cons_of_mem _ (orderly.called m held)
  · exact orderly.shut
  · intro m stands' sent
    refine old fun other => orderly.away m ((stands m).1 stands') ?_
    rwa [isAway, others m other] at sent
  · exact fun m t standing late =>
      old fun other => orderly.patient m t (stage m other ▸ standing) late

theorem come (orderly : c.Orderly c.turns) (tag : String) (patience : Option Nat) :
    (c.come tag patience).Orderly (c.come tag patience).turns := by
  refine call (orderly.joined (fun m other => ?_) ?_)
  · rw [List.getElem?_append]
    split
    · rfl
    · rw [List.getElem?_eq_none (by simp; omega), List.getElem?_eq_none (by omega)]
  · constructor
    · rintro ⟨_, standing⟩
      simp [stage?] at standing
    · rintro ⟨_, standing⟩
      simp [stage?] at standing

theorem sendAway (orderly : c.Orderly c.turns) (tag : String) :
    (c.sendAway tag).Orderly (c.sendAway tag).turns := by
  unfold Crowd.sendAway
  split
  · exact orderly
  · dsimp only
    split
    · exact orderly
    · refine call (orderly.joined (fun m other => ?_) ?_)
      · exact List.getElem?_modify_ne _ _ (Ne.symm other)
      · simp [Stands, stage?, Function.comp_def]

theorem lapse (orderly : c.Orderly c.turns) (ms : Nat) : (c.lapse ms).Orderly (c.lapse ms).turns := by
  unfold Crowd.lapse
  dsimp only
  split
  · rename_i found
    exact (orderly.pass_of_some (c.now + ms) found).call
  · rename_i nobody
    exact orderly.pass_of_none nobody

/-- Whose time to wait is over takes the only turn that is due, and then nobody stands before the
gate. -/
theorem nobody_of_settle {until? : Option Nat} (orderly : c.Orderly [n]) (idle : c.turns = [])
    (standing : c.stage? n = some (.standing until?)) (late : c.isOver until? = true) (m : Nat) :
    ¬ (c.call n).settle.Stands m := by
  have last : (c.call n).settle = c.turn n := by
    rw [Crowd.call, idle, if_neg List.not_mem_nil, Crowd.settle, List.nil_append, List.foldl_cons,
      List.foldl_nil, ← idle]
  rw [last]
  exact orderly.nobody_of_late standing late m

theorem advance (orderly : c.Orderly c.turns) (ms : Nat) :
    (∀ t ∈ c.turnsOf (.advance ms), t.Fair) ∧ (c.advance ms).Orderly [] := by
  obtain ⟨fair, settled⟩ := orderly.settle
  have idle : c.settle.turns = [] := turns_foldl_turn _ _
  unfold Crowd.advance
  simp only [turnsOf]
  cases found : c.settle.runningOut? (c.settle.now + ms) with
  | none => exact ⟨by simpa using fair, settled.pass_of_none found⟩
  | some known =>
    obtain ⟨n, time⟩ := known
    have late := settled.pass_of_some time found
    obtain ⟨fair', settled'⟩ := (late.mono (List.cons_subset_cons n (List.nil_subset _))).call.settle
    refine ⟨fun t listed => (List.mem_append.1 listed).elim (fair t) (fair' t), ?_⟩
    -- Nobody is left whom the rest of the time could make late.
    refine settled'.pass _ (List.Subset.refl _) fun m t standing _ => ?_
    refine absurd ⟨_, standing⟩ (nobody_of_settle late idle (runningOut?_eq_some found).1 ?_ m)
    simp [isOver]

/-- Whatever happens, all turns go as the gate says, and the crowd stays in order. -/
theorem apply (orderly : c.Orderly c.turns) (move : Move) :
    (∀ t ∈ c.turnsOf move, t.Fair) ∧ (c.apply move).Orderly (c.apply move).turns := by
  cases move with
  | block => exact ⟨nofun, orderly.block⟩
  | unblock => exact ⟨nofun, orderly.unblock⟩
  | come tag patience => exact ⟨nofun, orderly.come tag patience⟩
  | sendAway tag => exact ⟨nofun, orderly.sendAway tag⟩
  | serve count => exact orderly.serve count
  | lapse ms => exact ⟨nofun, orderly.lapse ms⟩
  | advance ms =>
    obtain ⟨fair, settled⟩ := orderly.advance ms
    exact ⟨fair, settled.mono (List.nil_subset _)⟩

theorem after (orderly : c.Orderly c.turns) (moves : List Move) :
    (∀ t ∈ turnsIn c moves, t.Fair) ∧ (c.after moves).Orderly (c.after moves).turns := by
  induction moves generalizing c with
  | nil => exact ⟨nofun, orderly⟩
  | cons move rest ih =>
    obtain ⟨now, next⟩ := orderly.apply move
    obtain ⟨later, rested⟩ := ih next
    exact ⟨fun t listed => (List.mem_append.1 listed).elim (now t) (later t), rested⟩

end Orderly

/-! ## How visits end -/

theorem stage?_call (c : Crowd) (n : Nat) : (c.call n).stage? = c.stage? := by
  unfold call
  split <;> rfl

theorem stage?_unblock (c : Crowd) : c.unblock.stage? = c.stage? := by
  unfold unblock
  dsimp only
  split
  · rw [stage?_call]
    rfl
  · rfl

theorem stage?_sendAway (c : Crowd) (tag : String) : (c.sendAway tag).stage? = c.stage? := by
  unfold sendAway
  split
  · rfl
  · dsimp only
    split
    · rfl
    · funext n
      rw [stage?_call, stage?, stage?, List.getElem?_modify]
      cases c.visits[n]? with
      | none => rfl
      | some v =>
        simp only [Option.map_eq_map, Option.map_some]
        split <;> rfl

theorem stage?_lapse (c : Crowd) (ms : Nat) : (c.lapse ms).stage? = c.stage? := by
  unfold lapse
  dsimp only
  split
  · rw [stage?_call]
    rfl
  · rfl

/-- Whoever sets out has not got anywhere yet. -/
theorem over_come_iff {how : Ending} (c : Crowd) (tag : String) (patience : Option Nat) :
    (c.come tag patience).stage? m = some (.over how) ↔ c.stage? m = some (.over how) := by
  rw [come, stage?_call, stage?, stage?, List.getElem?_append]
  split
  · rfl
  · rename_i beyond
    rw [List.getElem?_eq_none (Nat.le_of_not_lt beyond)]
    refine iff_of_false (fun ended => ?_) fun ended => ?_
    · obtain ⟨v, found, ended⟩ := Option.map_eq_some_iff.1 ended
      obtain rfl := List.mem_singleton.1 (List.mem_of_getElem? found)
      cases ended
    · cases ended

theorem over_settle_iff {how : Ending} (c : Crowd) :
    c.settle.stage? m = some (.over how) ↔
      c.stage? m = some (.over how) ∨ ∃ t ∈ c.dueTurns, t.who = m ∧ t.Ends how :=
  over_inTurn_iff

theorem over_advance_iff {how : Ending} (c : Crowd) (ms : Nat) :
    (c.advance ms).stage? m = some (.over how) ↔
      c.stage? m = some (.over how) ∨ ∃ t ∈ c.turnsOf (.advance ms), t.who = m ∧ t.Ends how := by
  unfold advance
  simp only [turnsOf]
  cases found : c.settle.runningOut? (c.settle.now + ms) with
  | none =>
    rw [List.append_nil]
    exact c.over_settle_iff
  | some known =>
    obtain ⟨n, time⟩ := known
    simp only [List.mem_append, or_and_right, exists_or, ← or_assoc]
    rw [← over_settle_iff]
    have called : ({ c.settle with now := time }.call n).stage? = c.settle.stage? := stage?_call _ n
    rw [← called]
    exact over_settle_iff _

/-- A visit is over after something has happened if it was over before or ends with a turn that is
taken meanwhile. -/
theorem over_apply_iff {how : Ending} (c : Crowd) (move : Move) :
    (c.apply move).stage? m = some (.over how) ↔
      c.stage? m = some (.over how) ∨ ∃ t ∈ c.turnsOf move, t.who = m ∧ t.Ends how := by
  have idle : ∀ {c' : Crowd}, (c'.stage? m = some (.over how) ↔ c.stage? m = some (.over how)) →
      (c'.stage? m = some (.over how) ↔
        c.stage? m = some (.over how) ∨ ∃ t ∈ ([] : List Turn), t.who = m ∧ t.Ends how) :=
    fun same => same.trans ⟨.inl, fun ended => ended.resolve_right nofun⟩
  cases move with
  | block => exact idle Iff.rfl
  | unblock => exact idle (by rw [← c.stage?_unblock]; rfl)
  | come tag patience => exact idle (c.over_come_iff tag patience)
  | sendAway tag => exact idle (by rw [← c.stage?_sendAway tag]; rfl)
  | serve count => exact over_inTurn_iff
  | lapse ms => exact idle (by rw [← c.stage?_lapse ms]; rfl)
  | advance ms => exact c.over_advance_iff ms

/-- A visit is over after all that has happened if it was over before or ends with a turn that was
taken meanwhile. -/
theorem over_after_iff {how : Ending} (c : Crowd) (moves : List Move) :
    (c.after moves).stage? m = some (.over how) ↔
      c.stage? m = some (.over how) ∨ ∃ t ∈ turnsIn c moves, t.who = m ∧ t.Ends how := by
  induction moves generalizing c with
  | nil => simp [after, turnsIn]
  | cons move rest ih =>
    rw [show c.after (move :: rest) = (c.apply move).after rest from rfl, ih, over_apply_iff]
    simp only [turnsIn, List.mem_append, or_and_right, exists_or, or_assoc]

/-! ## One place, and no opening lost -/

/-- In a crowd in order with no turn due, whoever is not through stands before the gate, it is closed,
and nobody has sent them away, nor is their time over. -/
theorem Orderly.idle (orderly : c.Orderly []) (found : c.visits[n]? = some v)
    (waits : v.ending? = none) :
    c.Stands n ∧ c.gate.isOpen = false ∧ v.isSentAway = false ∧
      ∀ t, v.stage = .standing (some t) → c.now < t := by
  have stage := stage?_of_found found
  have stands : c.Stands n := by
    cases came : v.stage with
    | coming => exact absurd (orderly.coming n (came ▸ stage)) List.not_mem_nil
    | standing until? => exact stands_of_found found came
    | _ =>
      rw [Visit.ending?, came] at waits
      cases waits
  refine ⟨stands, ?_, ?_, fun t standing => ?_⟩
  · obtain ⟨called, held⟩ := (orderly.waiter n).1 stands
    cases called with
    | false => exact orderly.shut n held
    | true => exact absurd (orderly.called n held) List.not_mem_nil
  · cases away : v.isSentAway with
    | false => rfl
    | true =>
      refine absurd (orderly.away n stands ?_) List.not_mem_nil
      rw [isAway, found, Option.any_some, away]
  · refine Nat.lt_of_not_le fun late => ?_
    exact absurd (orderly.patient n t (standing ▸ stage) late) List.not_mem_nil

/-- Whatever happens to a gate and in whatever batches turns are taken, every turn goes as the gate
says, and visits end by such turns only. Whoever stands before the gate holds the waiter's place, so
there is never more than one. Once no turn is due, whoever is not through stands before a closed gate,
whatever permits have been left behind, and neither has its time run out nor has it been sent away. -/
theorem one_waits_and_only_while_shut (isOpen : Bool) (moves : List Move) :
    let turns := turnsIn (new isOpen) moves
    let c := (new isOpen).after moves
    (∀ t ∈ turns, t.Fair) ∧
    (∀ n how, c.stage? n = some (.over how) ↔ ∃ t ∈ turns, t.who = n ∧ t.Ends how) ∧
    (∀ n, c.Stands n ↔ ∃ called, c.gate.waiter = some ⟨n, called⟩) ∧
    (∀ n m, c.Stands n → c.Stands m → n = m) ∧
    (c.turns = [] → ∀ n v, c.visits[n]? = some v → v.ending? = none →
      c.Stands n ∧ c.gate.isOpen = false ∧ v.isSentAway = false ∧
        ∀ t, v.stage = .standing (some t) → c.now < t) := by
  intro turns c
  obtain ⟨fair, orderly⟩ := (Orderly.new isOpen).after moves
  refine ⟨fair, fun n how => ?_, orderly.waiter, fun _ _ => orderly.alone, fun rested _ _ => ?_⟩
  · exact ((new isOpen).over_after_iff moves).trans ⟨fun ended => ended.resolve_left nofun, .inr⟩
  · exact Orderly.idle (rested ▸ orderly)

/-- An opening that is taken back before the one who waits has looked lets nobody through, and the call
that had been left behind before does not either. -/
example :
    ((new true).after [.unblock, .block, .come "a" none, .serve 1, .unblock, .block,
      .serve 1]).stage? 0 = some (.standing none) := by
  decide

end Crowd

end MessageBroker.Queue
