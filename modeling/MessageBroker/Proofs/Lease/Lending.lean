import Mathlib.Data.List.Basic
import Mathlib.Data.List.Induction
import MessageBroker.Lease.Pool
import MessageBroker.Proofs.Table

/-!
# Lending

Pools lend items out and take them back. What their users do with an item in between is their own
affair: they change it, copy it together with its tag, drop it, bring it to a pool that it did not
come from, or bring it and then its copies.

The log of a lending holds what counts between the pools and their users: the leases that were
given, and the returns that were accepted. A lease is open if it was given and no return under it
was accepted. The main statement says that pools which check their returns go by the open leases,
whatever their users do, and that no item a pool has made is lost from its books.
-/

namespace MessageBroker.Lease

/-- What users do with the items they hold, no pool being asked. -/
inductive Handling (α : Type) where
  /-- An item turns up that never was in a pool. -/
  | create (x : α)
  /-- An item is copied, with the tag it carries. -/
  | copy (i : Nat)
  | discard (i : Nat)

/-- The items in the hands of users after they have handled them. -/
def Handling.apply {α : Type} (held : List (Leased α)) : Handling α → List (Leased α)
  | create x => held ++ [⟨x, none⟩]
  | copy i => held ++ held[i]?.toList
  | discard i => held.eraseIdx i

/-- What counts between a pool and its users. -/
inductive Deal (α : Type) where
  /-- The pool has lent an item, which it has made for the purpose or not. -/
  | lent (pool : Nat) (leased : Leased α) (made : Bool)
  /-- The pool has accepted a return, and the item is kept for reuse or let go. -/
  | accepted (pool : Nat) (leased : Leased α) (kept : Bool)

namespace Deal

variable {α : Type}

/-- The number of the pool. -/
def pool : Deal α → Nat
  | lent k _ _ | accepted k _ _ => k

/-- The item as it went from hand to hand. -/
def leased : Deal α → Leased α
  | lent _ leased _ | accepted _ leased _ => leased

/-- The lease that is given, if one is. -/
def given? : Deal α → Option Tag
  | lent _ leased _ => leased.tag
  | accepted .. => none

/-- The lease that is returned, if one is. -/
def returned? : Deal α → Option Tag
  | lent .. => none
  | accepted _ leased _ => leased.tag

/-- Whether a pool lets a returned item go. -/
def isLoss (k : Nat) : Deal α → Bool
  | lent .. => false
  | accepted j _ kept => j = k && !kept

end Deal

/-- The leases that were given. -/
def given {α : Type} (log : List (Deal α)) : List Tag :=
  log.filterMap Deal.given?

/-- The leases under which returns were accepted. -/
def returned {α : Type} (log : List (Deal α)) : List Tag :=
  log.filterMap Deal.returned?

/-- The leases of a pool that were given and not returned. -/
def openLeases {α : Type} (k : Nat) (log : List (Deal α)) : List Tag :=
  (given log).filter fun t => t.pool = k ∧ t ∉ returned log

/-- How many returned items a pool has let go. -/
def losses {α : Type} (k : Nat) (log : List (Deal α)) : Nat :=
  log.countP (Deal.isLoss k)

section Log

variable {α : Type} {log : List (Deal α)}

theorem mem_openLeases {k : Nat} {t : Tag} :
    t ∈ openLeases k log ↔ t ∈ given log ∧ t.pool = k ∧ t ∉ returned log := by
  simp [openLeases]

theorem given_append (log : List (Deal α)) (d : Deal α) :
    given (log ++ [d]) = given log ++ d.given?.toList := by
  cases h : d.given? <;> simp [given, h]

theorem returned_append (log : List (Deal α)) (d : Deal α) :
    returned (log ++ [d]) = returned log ++ d.returned?.toList := by
  cases h : d.returned? <;> simp [returned, h]

theorem losses_append (k : Nat) (log : List (Deal α)) (d : Deal α) :
    losses k (log ++ [d]) = losses k log + if d.isLoss k then 1 else 0 := by
  simp [losses, List.countP_append, List.countP_singleton]

theorem openLeases_lent {leased : Leased α} {t : Tag} (tag : leased.tag = some t)
    (new : t ∉ returned log) (k j : Nat) (made : Bool) :
    openLeases k (log ++ [.lent j leased made]) =
      openLeases k log ++ if t.pool = k then [t] else [] := by
  by_cases own : t.pool = k <;>
    simp [openLeases, given_append, returned_append, Deal.given?, Deal.returned?, tag, own, new]

theorem openLeases_accepted {leased : Leased α} {t : Tag} (tag : leased.tag = some t)
    (once : (given log).Nodup) (k j : Nat) (kept : Bool) :
    openLeases k (log ++ [.accepted j leased kept]) = (openLeases k log).erase t := by
  have open_ : (openLeases k log).Nodup := once.filter _
  rw [open_.erase_eq_filter]
  simp only [openLeases, given_append, returned_append, Deal.given?, Deal.returned?, tag,
    Option.toList, List.append_nil, List.filter_filter]
  refine List.filter_congr fun t' _ => ?_
  by_cases same : t' = t <;> simp [same]

/-- A deal of one pool does not change what is open at another. -/
theorem openLeases_bystand {d : Deal α} {t : Tag} (tag : d.leased.tag = some t) {k : Nat}
    (other : t.pool ≠ k) : openLeases k (log ++ [d]) = openLeases k log := by
  cases d with
  | lent j leased made =>
    have given : (Deal.lent j leased made).given? = some t := tag
    simp [openLeases, given_append, returned_append, given, other, Deal.returned?]
  | accepted j leased kept =>
    have returned : (Deal.accepted j leased kept).returned? = some t := tag
    simp only [openLeases, given_append, returned_append, Deal.given?, returned, Option.toList,
      List.append_nil, List.mem_append, List.mem_singleton]
    refine List.filter_congr fun t' _ => ?_
    by_cases own : t'.pool = k
    · have apart : t' ≠ t := fun same => other (same ▸ own)
      simp [own, apart]
    · simp [own]

end Log

namespace Pool

variable {α : Type} {reset : α → α} {p p' : Pool α} {leased : Leased α} {log : List (Deal α)}

/-- The tag of the next lease. -/
def nextTag (p : Pool α) : Tag := ⟨p.id, p.leases + 1⟩

/-- All that lending does: the item that waits longest goes out, or else a new one, and a new lease
with it. -/
theorem rent_cases (p : Pool α) (made : α) :
    ∃ x idle created,
      p.rent made = (⟨x, some p.nextTag⟩,
        { p with idle, created, leases := p.leases + 1,
                 out := if p.options.checks then p.out ++ [p.leases + 1] else p.out }) ∧
      (p.idle = [] ∧ idle = [] ∧ x = made ∧ created = p.created + 1 ∨
        ∃ waiting, p.idle = waiting :: idle ∧ x = waiting.item ∧ created = p.created) := by
  cases idle : p.idle with
  | nil =>
    refine ⟨made, [], p.created + 1, ?_, .inl ⟨rfl, rfl, rfl, rfl⟩⟩
    simp [rent, stamp, idle, nextTag]
  | cons waiting rest =>
    refine ⟨waiting.item, rest, p.created, ?_, .inr ⟨waiting, rfl, rfl, rfl⟩⟩
    simp [rent, stamp, idle, nextTag]

theorem tag_rent (p : Pool α) (made : α) : (p.rent made).1.tag = some p.nextTag := by
  unfold rent
  split <;> rfl

/-- What is handed out where making may fail is what is handed out where it cannot. -/
theorem eq_rent_of_rent? {make? : Option α} {made : α} (possible : ∀ x, make? = some x → x = made)
    (handed : (p.rent? make?).1 = some leased) : leased = (p.rent made).1 := by
  unfold rent? at handed
  unfold rent
  cases idle : p.idle with
  | nil =>
    cases make? with
    | none => simp [idle] at handed
    | some x =>
      obtain rfl := possible x rfl
      simpa [idle, eq_comm] using handed
  | cons waiting rest => simpa [idle, eq_comm] using handed

theorem id_rent? (p : Pool α) (make? : Option α) : (p.rent? make?).2.id = p.id := by
  unfold rent?
  split <;> rfl

theorem mem_idle_rent? (p : Pool α) (make? : Option α) {waiting : Leased α}
    (listed : waiting ∈ (p.rent? make?).2.idle) : waiting ∈ p.idle := by
  unfold rent? at listed
  split at listed <;> rename_i idle _ <;> simp_all [stamp]

theorem id_shelve (p : Pool α) (leased : Leased α) : (p.shelve leased).id = p.id := by
  unfold shelve
  split <;> rfl

theorem mem_idle_shelve (p : Pool α) {waiting : Leased α}
    (listed : waiting ∈ (p.shelve leased).idle) : waiting ∈ p.idle ∨ waiting = leased := by
  unfold shelve at listed
  split at listed
  · simpa using listed
  · exact .inl listed

/-- A pool that checks accepts what carries a lease that is out. -/
theorem giveBack_eq_ok (checks : p.options.checks = true) :
    p.giveBack reset leased = .ok p' ↔
      ∃ lease ∈ p.out, leased.tag = some ⟨p.id, lease⟩ ∧
        p' = { p with out := p.out.erase lease }.shelve ⟨reset leased.item, leased.tag⟩ := by
  obtain ⟨x, tag⟩ := leased
  cases tag with
  | none => simp [giveBack, accept, checks, Except.map]
  | some t =>
    obtain ⟨k, lease⟩ := t
    by_cases own : k = p.id
    · by_cases out : lease ∈ p.out <;>
        simp [giveBack, accept, checks, Except.map, own, out, eq_comm]
    · simp [giveBack, accept, checks, Except.map, own]

theorem giveBack_of_not_out (checks : p.options.checks = true) {lease : Nat}
    (tag : leased.tag = some ⟨p.id, lease⟩) (out : lease ∉ p.out) :
    p.giveBack reset leased = .error .returnedTwice := by
  simp [giveBack, accept, checks, tag, out, Except.map]

/-- The books of a pool agree with a log. -/
structure Follows (reset : α → α) (p : Pool α) (log : List (Deal α)) : Prop where
  checks : p.options.checks = true
  room : p.idle.length ≤ p.options.maxIdle
  out : p.out.map (Tag.mk p.id) = openLeases p.id log
  leases : ∀ t ∈ given log, t.pool = p.id → t.lease ≤ p.leases
  balance : p.created = p.idle.length + p.out.length + losses p.id log
  wiped : ∀ waiting ∈ p.idle, ∃ returned, .accepted p.id returned true ∈ log ∧
    waiting.item = reset returned.item

namespace Follows

theorem mem_out (follows : p.Follows reset log) {lease : Nat} :
    lease ∈ p.out ↔ ⟨p.id, lease⟩ ∈ openLeases p.id log := by
  rw [← follows.out]
  simp

theorem nextTag_not_mem (follows : p.Follows reset log) : p.nextTag ∉ given log := fun listed =>
  Nat.not_succ_le_self p.leases (follows.leases p.nextTag listed rfl)

/-- A return that was accepted before the last deal stays so. -/
theorem wiped_append (follows : p.Follows reset log) (d : Deal α) :
    ∀ waiting ∈ p.idle, ∃ returned, .accepted p.id returned true ∈ log ++ [d] ∧
      waiting.item = reset returned.item := by
  intro waiting listed
  obtain ⟨returned, accepted, same⟩ := follows.wiped waiting listed
  exact ⟨returned, List.mem_append_left _ accepted, same⟩

/-- An item that is lent comes from the factory or was wiped when it was returned. -/
theorem origin (follows : p.Follows reset log) (made : α) :
    p.available = 0 ∧ (p.rent made).1.item = made ∧ (p.rent made).2.created = p.created + 1 ∨
      (p.rent made).2.created = p.created ∧
        ∃ returned, .accepted p.id returned true ∈ log ∧
          (p.rent made).1.item = reset returned.item := by
  obtain ⟨x, idle, created, lent, new | ⟨waiting, first, rfl, rfl⟩⟩ :=
    p.rent_cases made
  · obtain ⟨none', -, rfl, rfl⟩ := new
    rw [lent]
    exact .inl ⟨congrArg List.length none', rfl, rfl⟩
  · rw [lent]
    exact .inr ⟨rfl, follows.wiped waiting (first ▸ List.mem_cons_self)⟩

theorem lend (follows : p.Follows reset log) (known : ∀ t ∈ returned log, t ∈ given log)
    (made : α) :
    (p.rent made).2.Follows reset (log ++ [.lent p.id (p.rent made).1 p.idle.isEmpty]) := by
  have new : p.nextTag ∉ returned log := fun listed => follows.nextTag_not_mem (known _ listed)
  obtain ⟨x, idle, created, lent, source⟩ := p.rent_cases made
  have left : ∀ waiting ∈ idle, waiting ∈ p.idle := by
    rcases source with ⟨-, rfl, -⟩ | ⟨first, split, -⟩
    · nofun
    · exact fun waiting listed => split ▸ List.mem_cons_of_mem _ listed
  have moved : created + p.idle.length = p.created + idle.length + 1 ∧
      idle.length ≤ p.idle.length := by
    rcases source with ⟨none', rfl, -, rfl⟩ | ⟨first, split, -, rfl⟩
    · simp [none']
    · simp [split, Nat.add_assoc]
  have balance := follows.balance
  have room := follows.room
  rw [lent, if_pos follows.checks]
  constructor
  case checks => exact follows.checks
  case room => exact Nat.le_trans moved.2 room
  case out =>
    rw [openLeases_lent rfl new, List.map_append, follows.out]
    simp [nextTag]
  case leases =>
    intro t listed own
    rw [given_append, List.mem_append] at listed
    rcases listed with before | now
    · exact Nat.le_succ_of_le (follows.leases t before own)
    · obtain rfl : t = p.nextTag := by simpa [Deal.given?] using now
      exact Nat.le_refl _
  case balance =>
    simp only [losses_append, Deal.isLoss, List.length_append, List.length_singleton,
      Bool.false_eq_true, if_false]
    omega
  case wiped => exact fun waiting listed => follows.wiped_append _ waiting (left waiting listed)

theorem accept (follows : p.Follows reset log) (once : (given log).Nodup)
    (accepted : p.giveBack reset leased = .ok p') :
    p'.Follows reset
      (log ++ [.accepted p.id leased (p.available < p.options.maxIdle)]) := by
  obtain ⟨lease, out, tag, rfl⟩ := (giveBack_eq_ok follows.checks).1 accepted
  have out' : (p.out.erase lease).map (Tag.mk p.id) =
      openLeases p.id (log ++ [.accepted p.id leased (p.available < p.options.maxIdle)]) := by
    rw [openLeases_accepted tag once, ← follows.out, List.map_erase]
    intro a b same
    exact congrArg Tag.lease same
  have leases : ∀ t ∈ given (log ++ [.accepted p.id leased (p.available < p.options.maxIdle)]),
      t.pool = p.id → t.lease ≤ p.leases := by
    simpa [given_append, Deal.given?] using follows.leases
  have length := List.length_erase_of_mem out
  have positive := List.length_pos_of_mem out
  have balance := follows.balance
  by_cases free : p.idle.length < p.options.maxIdle
  · have kept : decide (p.available < p.options.maxIdle) = true := decide_eq_true free
    rw [shelve, if_pos free]
    refine ⟨follows.checks, ?_, out', leases, ?_, ?_⟩
    · rwa [List.length_append]
    · simp only [losses_append, Deal.isLoss, kept, List.length_append, List.length_singleton]
      simp
      omega
    · intro waiting listed
      rcases List.mem_append.1 listed with before | now
      · exact follows.wiped_append _ waiting before
      · rw [List.mem_singleton.1 now, kept]
        exact ⟨leased, List.mem_append_right _ List.mem_cons_self, rfl⟩
  · have lost : decide (p.available < p.options.maxIdle) = false := decide_eq_false free
    rw [shelve, if_neg free]
    refine ⟨follows.checks, follows.room, out', leases, ?_, follows.wiped_append _⟩
    simp only [losses_append, Deal.isLoss, lost]
    simp
    omega

/-- The books of a pool take no notice of what others deal. -/
theorem bystand (follows : p.Follows reset log) {d : Deal α} {lease : Nat}
    (tag : d.leased.tag = some ⟨d.pool, lease⟩) (other : d.pool ≠ p.id) :
    p.Follows reset (log ++ [d]) where
  checks := follows.checks
  room := follows.room
  out := (openLeases_bystand tag other).symm ▸ follows.out
  leases := by
    intro t' listed own
    rw [given_append, List.mem_append] at listed
    rcases listed with before | now
    · exact follows.leases t' before own
    · have same : d.leased.tag = some t' := by
        cases d with
        | lent j leased made => simpa [Deal.given?, Deal.leased] using now
        | accepted j leased kept => simp [Deal.given?] at now
      rw [tag, Option.some.injEq] at same
      exact absurd ((congrArg Tag.pool same).trans own) other
  balance := by
    have elsewhere : d.isLoss p.id = false := by
      cases d with
      | lent => rfl
      | accepted j leased kept =>
        have apart : j ≠ p.id := other
        simp [Deal.isLoss, apart]
    rw [losses_append, elsewhere]
    exact follows.balance
  wiped := follows.wiped_append d

/-- A new pool follows the deals of others. -/
theorem start (reset : α → α) (k maxIdle : Nat)
    (others : ∀ d ∈ log, d.pool ≠ k ∧ ∃ lease, d.leased.tag = some ⟨d.pool, lease⟩) :
    (Pool.new k ⟨maxIdle, true⟩ : Pool α).Follows reset log := by
  induction log using List.reverseRecOn with
  | nil => exact ⟨rfl, Nat.zero_le _, rfl, nofun, rfl, nofun⟩
  | append_singleton log d ih =>
    have before := ih fun e dealt => others e (List.mem_append_left _ dealt)
    obtain ⟨other, lease, tag⟩ := others d (List.mem_append_right _ List.mem_cons_self)
    exact before.bystand tag other

end Follows

end Pool

/-- Pools by their numbers, the items in the hands of their users, and all deals so far. -/
structure Lending (α : Type) where
  pools : Table Nat (Pool α)
  nextId : Nat
  held : List (Leased α)
  log : List (Deal α)

namespace Lending

variable {α : Type} {reset : α → α} {s : Lending α}

/-- Something that happens to pools and items. -/
inductive Act (α : Type) where
  /-- A pool that checks its returns is set up. Some numbers may be in use elsewhere. -/
  | build (skipped maxIdle : Nat)
  /-- An item is rented; if none is idle, the factory of the pool makes `made`. -/
  | rent (pool : Nat) (made : α)
  /-- A held item is given to a pool. -/
  | giveBack (pool i : Nat)
  /-- A held item is changed. -/
  | alter (i : Nat) (x : α)
  | handle (h : Handling α)

/-- What an act leads to. A pool that does not exist and an item that nobody holds change
nothing. -/
def step (reset : α → α) (s : Lending α) : Act α → Lending α
  | .build skipped maxIdle =>
    let id := s.nextId + skipped
    { s with pools := s.pools.insert id (.new id ⟨maxIdle, true⟩), nextId := id + 1 }
  | .rent k made =>
    match s.pools.get? k with
    | none => s
    | some p =>
      let (leased, p') := p.rent made
      { s with pools := s.pools.insert k p', held := s.held ++ [leased],
               log := s.log ++ [.lent k leased p.idle.isEmpty] }
  | .giveBack k i =>
    match s.pools.get? k, s.held[i]? with
    | some p, some leased =>
      match p.giveBack reset leased with
      | .ok p' =>
        { s with pools := s.pools.insert k p', held := s.held.eraseIdx i,
                 log := s.log ++ [.accepted k leased (p.available < p.options.maxIdle)] }
      | .error _ => { s with held := s.held.eraseIdx i }
    | _, _ => s
  | .alter i x => { s with held := s.held.modify i fun leased => { leased with item := x } }
  | .handle h => { s with held := h.apply s.held }

/-- What acts lead to, from no pool and no item. -/
def run (reset : α → α) (acts : List (Act α)) : Lending α :=
  acts.foldl (step reset) ⟨.empty, 0, [], []⟩

/-- Every pool follows the log, and no lease is given or returned twice. -/
structure Sound (reset : α → α) (s : Lending α) : Prop where
  numbered : ∀ k p, s.pools.get? k = some p → p.id = k ∧ k < s.nextId
  follows : ∀ k p, s.pools.get? k = some p → p.Follows reset s.log
  tagged : ∀ d ∈ s.log, d.pool < s.nextId ∧ ∃ lease, d.leased.tag = some ⟨d.pool, lease⟩
  given : (given s.log).Nodup
  returned : (returned s.log).Nodup
  known : ∀ t ∈ Lease.returned s.log, t ∈ Lease.given s.log

namespace Sound

theorem start : Sound reset (⟨.empty, 0, [], []⟩ : Lending α) :=
  ⟨nofun, nofun, nofun, List.nodup_nil, List.nodup_nil, nofun⟩

/-- What happens in the hands of users is of no consequence to the pools. -/
theorem hold (sound : s.Sound reset) (held : List (Leased α)) : Sound reset { s with held } :=
  ⟨sound.numbered, sound.follows, sound.tagged, sound.given, sound.returned, sound.known⟩

theorem build (sound : s.Sound reset) (skipped maxIdle : Nat) :
    (s.step reset (.build skipped maxIdle)).Sound reset := by
  constructor
  case numbered =>
    intro k p found
    simp only [step, Table.get?_insert] at found ⊢
    split at found
    · rename_i same
      obtain rfl := Option.some.inj found
      exact ⟨same.symm, by omega⟩
    · obtain ⟨own, known⟩ := sound.numbered k p found
      exact ⟨own, by omega⟩
  case follows =>
    intro k p found
    simp only [step, Table.get?_insert] at found ⊢
    split at found
    · obtain rfl := Option.some.inj found
      refine .start reset _ maxIdle fun d dealt => ?_
      obtain ⟨known, own⟩ := sound.tagged d dealt
      exact ⟨by omega, own⟩
    · exact sound.follows k p found
  case tagged =>
    intro d dealt
    obtain ⟨known, own⟩ := sound.tagged d dealt
    simp only [step]
    exact ⟨by omega, own⟩
  case given => exact sound.given
  case returned => exact sound.returned
  case known => exact sound.known

/-- A deal concerns its own pool. -/
theorem deal (sound : s.Sound reset) {k lease : Nat} {p p' : Pool α} {d : Deal α}
    (found : s.pools.get? k = some p) (id : p'.id = k) (pool : d.pool = k)
    (tag : d.leased.tag = some ⟨k, lease⟩) (follows : p'.Follows reset (s.log ++ [d]))
    (given : (Lease.given (s.log ++ [d])).Nodup) (returned : (Lease.returned (s.log ++ [d])).Nodup)
    (known : ∀ t ∈ Lease.returned (s.log ++ [d]), t ∈ Lease.given (s.log ++ [d]))
    (held : List (Leased α)) :
    Sound reset { s with pools := s.pools.insert k p', held, log := s.log ++ [d] } := by
  have own : d.leased.tag = some ⟨d.pool, lease⟩ := pool ▸ tag
  refine ⟨fun j q found' => ?_, fun j q found' => ?_, fun e dealt => ?_, given, returned, known⟩
  · rw [Table.get?_insert] at found'
    split at found'
    · rename_i same
      obtain rfl := Option.some.inj found'
      exact ⟨id.trans same.symm, same ▸ (sound.numbered k p found).2⟩
    · exact sound.numbered j q found'
  · rw [Table.get?_insert] at found'
    split at found'
    · obtain rfl := Option.some.inj found'
      exact follows
    · rename_i apart
      refine (sound.follows j q found').bystand own ?_
      rw [pool, (sound.numbered j q found').1]
      exact Ne.symm apart
  · rcases List.mem_append.1 dealt with before | now
    · exact sound.tagged e before
    · rw [List.mem_singleton.1 now, pool]
      exact ⟨(sound.numbered k p found).2, lease, tag⟩

theorem rent (sound : s.Sound reset) (k : Nat) (made : α) :
    (s.step reset (.rent k made)).Sound reset := by
  cases found : s.pools.get? k with
  | none => simpa only [step, found] using sound
  | some p =>
    obtain ⟨rfl, -⟩ := sound.numbered k p found
    have follows := sound.follows p.id p found
    have tag := p.tag_rent made
    simp only [step, found]
    refine sound.deal (d := .lent ..) found ?_ rfl tag (follows.lend sound.known made) ?_ ?_ ?_ _
    · obtain ⟨x, idle, created, lent, -⟩ := p.rent_cases made
      rw [lent]
    · rw [given_append, Deal.given?, tag, Option.toList, ← List.concat_eq_append]
      exact sound.given.concat follows.nextTag_not_mem
    · simpa [returned_append, Deal.returned?] using sound.returned
    · intro t listed
      rw [given_append]
      refine List.mem_append_left _ (sound.known t ?_)
      simpa [returned_append, Deal.returned?] using listed

theorem giveBack (sound : s.Sound reset) (k i : Nat) :
    (s.step reset (.giveBack k i)).Sound reset := by
  cases found : s.pools.get? k with
  | none => simpa only [step, found] using sound
  | some p =>
    cases item : s.held[i]? with
    | none => simpa only [step, found, item] using sound
    | some leased =>
      cases result : p.giveBack reset leased with
      | error v => simpa only [step, found, item, result] using sound.hold _
      | ok p' =>
        obtain ⟨rfl, -⟩ := sound.numbered k p found
        have follows := sound.follows p.id p found
        obtain ⟨lease, out, tag, rfl⟩ := (Pool.giveBack_eq_ok follows.checks).1 result
        obtain ⟨lent, -, unreturned⟩ := mem_openLeases.1 (follows.mem_out.1 out)
        simp only [step, found, item, result]
        refine sound.deal (d := .accepted ..) found ?_ rfl tag
          (follows.accept sound.given result) ?_ ?_ ?_ _
        · exact Pool.id_shelve _ _
        · simpa [given_append, Deal.given?] using sound.given
        · rw [returned_append, Deal.returned?, tag, Option.toList, ← List.concat_eq_append]
          exact sound.returned.concat unreturned
        · intro t listed
          rw [returned_append, Deal.returned?, tag] at listed
          rw [given_append, Deal.given?, Option.toList, List.append_nil]
          rcases List.mem_append.1 listed with before | now
          · exact sound.known t before
          · rw [List.mem_singleton.1 now]
            exact lent

theorem step (sound : s.Sound reset) (act : Act α) : (s.step reset act).Sound reset := by
  cases act with
  | build skipped maxIdle => exact sound.build skipped maxIdle
  | rent k made => exact sound.rent k made
  | giveBack k i => exact sound.giveBack k i
  | alter i x => exact sound.hold _
  | handle h => exact sound.hold _

end Sound

theorem sound_run (reset : α → α) (acts : List (Act α)) : (run reset acts).Sound reset := by
  induction acts using List.reverseRecOn with
  | nil => exact .start
  | append_singleton acts act ih =>
    rw [run, List.foldl_append]
    exact ih.step act

/-- An item that is refused leaves the hands of its holder, and nothing else changes. -/
theorem step_refused {k i : Nat} {p : Pool α} {leased : Leased α}
    (found : s.pools.get? k = some p) (item : s.held[i]? = some leased)
    (refused : ∀ p', p.giveBack reset leased ≠ .ok p') :
    s.step reset (.giveBack k i) = { s with held := s.held.eraseIdx i } := by
  cases result : p.giveBack reset leased with
  | ok p' => exact absurd result (refused p')
  | error v => simp only [step, found, item, result]

/-- Pools that check their returns go by the open leases, whatever their users do. A return is
accepted exactly if it carries an open lease of the pool it is brought to, so a lease is accepted
once, from whichever copy comes first; a return that is refused leaves all pools as they are. No
lease is given twice, no item is lent that was not wiped since its last use, no pool keeps more
items than it should, and every item made is idle, out on an open lease, or let go for want of
room. -/
theorem leases_exclusive_and_conserved (reset : α → α) (acts : List (Act α)) {k : Nat} {p : Pool α}
    (found : (run reset acts).pools.get? k = some p) :
    let s := run reset acts
    (∀ leased : Leased α, (∃ p', p.giveBack reset leased = .ok p') ↔
      ∃ t ∈ openLeases k s.log, leased.tag = some t) ∧
    (returned s.log).Nodup ∧
    (∀ t ∈ returned s.log, t.pool = k → ∀ leased : Leased α, leased.tag = some t →
      p.giveBack reset leased = .error .returnedTwice) ∧
    (∀ i leased, s.held[i]? = some leased → (∀ p', p.giveBack reset leased ≠ .ok p') →
      (s.step reset (.giveBack k i)).pools = s.pools ∧
        (s.step reset (.giveBack k i)).log = s.log) ∧
    (given s.log).Nodup ∧
    (∀ d ∈ s.log, ∃ lease, d.leased.tag = some ⟨d.pool, lease⟩) ∧
    (∀ made : α,
      p.available = 0 ∧ (p.rent made).1.item = made ∧ (p.rent made).2.created = p.created + 1 ∨
        (p.rent made).2.created = p.created ∧
          ∃ earlier, .accepted k earlier true ∈ s.log ∧
            (p.rent made).1.item = reset earlier.item) ∧
    p.available ≤ p.options.maxIdle ∧
    p.outstanding = some (openLeases k s.log).length ∧
    p.created = p.available + (openLeases k s.log).length + losses k s.log := by
  intro s
  have sound : s.Sound reset := sound_run reset acts
  obtain ⟨rfl, -⟩ := sound.numbered k p found
  have follows := sound.follows p.id p found
  have length : (openLeases p.id s.log).length = p.out.length := by
    rw [← follows.out, List.length_map]
  refine ⟨fun leased => ⟨?_, ?_⟩, sound.returned, ?_, ?_, sound.given,
    fun d dealt => (sound.tagged d dealt).2, follows.origin, follows.room, ?_, ?_⟩
  · rintro ⟨p', accepted⟩
    obtain ⟨lease, out, tag, -⟩ := (Pool.giveBack_eq_ok follows.checks).1 accepted
    exact ⟨_, follows.mem_out.1 out, tag⟩
  · rintro ⟨⟨j, lease⟩, listed, tag⟩
    obtain ⟨-, rfl, -⟩ := mem_openLeases.1 listed
    exact ⟨_, (Pool.giveBack_eq_ok follows.checks).2 ⟨_, follows.mem_out.2 listed, tag, rfl⟩⟩
  · rintro ⟨j, lease⟩ listed rfl leased tag
    refine Pool.giveBack_of_not_out follows.checks tag fun out => ?_
    exact (mem_openLeases.1 (follows.mem_out.1 out)).2.2 listed
  · intro i leased item refused
    rw [step_refused found item refused]
    exact ⟨rfl, rfl⟩
  · rw [Pool.outstanding, if_pos follows.checks, length]
  · rw [length]
    exact follows.balance

/-- Of two pools the first lends an item, has it back under its lease and lends it again, while a
user keeps a copy of it. -/
def copying : List (Act Nat) :=
  [.build 0 1, .build 2 1, .rent 0 5, .alter 0 7, .handle (.copy 0), .giveBack 0 0, .rent 0 9]

/-- The copy is refused by the pool it was made from. The item went out wiped, under a new lease. -/
theorem leases_exclusive_and_conserved_copy :
    let s := run (fun _ => 0) copying
    s.held = [⟨7, some ⟨0, 1⟩⟩, ⟨0, some ⟨0, 2⟩⟩] ∧
      ∃ p, s.pools.get? 0 = some p ∧
        p.giveBack (fun _ => 0) ⟨7, some ⟨0, 1⟩⟩ = .error .returnedTwice ∧
        (∃ p', p.giveBack (fun _ => 0) ⟨0, some ⟨0, 2⟩⟩ = .ok p') ∧
        p.outstanding = some 1 ∧ p.created = 1 := by
  intro s
  obtain ⟨p, found⟩ : ∃ p, s.pools.get? 0 = some p := ⟨_, rfl⟩
  obtain ⟨accepts, -, refuses, -, -, -, -, -, out, made⟩ :=
    leases_exclusive_and_conserved _ copying found
  have kept : p.available = 0 := by
    obtain rfl : _ = p := Option.some.inj (rfl.symm.trans found)
    rfl
  refine ⟨rfl, p, found, ?_, ?_, out, ?_⟩
  · exact refuses ⟨0, 1⟩ (by decide) rfl _ rfl
  · exact (accepts _).2 ⟨⟨0, 2⟩, by decide, rfl⟩
  · rw [made, kept]
    rfl

end Lending

end MessageBroker.Lease
