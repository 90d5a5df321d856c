import MessageBroker.Proofs.Broker.Attendance
import MessageBroker.Proofs.Broker.Episodes

/-!
# The docket of deliveries

The docket of a broker is what it keeps about deliveries: those that are going to be written, those
that are on their way, the sends that the ledger tracks, and the ids that were made up for them.
Through a whole life, with a store that fails and after the shutdown as well, it changes in five ways
only. What each of these preserves is preserved for ever.
-/

namespace MessageBroker

/-- What a broker keeps about deliveries. -/
structure Docket where
  ledger : Ledger
  flights : Table Nat Delivery
  sends : List Delivery
  mint : Nat → CorrelationId
  minted : Nat
  /-- How many client records there are. -/
  seats : Nat

/-- What a desk shows about deliveries. -/
def Desk.docket (d : Desk) : Docket :=
  ⟨d.ledger, d.flights, d.sends, d.mint, d.minted, d.clients.length⟩

namespace Docket

/-- A docket with one more delivery that is going to be written, before all others. -/
def withNext (d : Docket) (x : Delivery) : Docket :=
  { d with sends := x :: d.sends }

/-- One change of a docket. -/
inductive Entry : Docket → Docket → Prop
  /-- Ids are made up and clients are registered. -/
  | pass (d : Docket) {minted seats : Nat} (ids : d.minted ≤ minted) (clients : d.seats ≤ seats) :
      Entry d { d with minted, seats }
  /-- Sends get outcomes. -/
  | settle (d : Docket) {ledger : Ledger} (sound : ledger.Sound)
      (fewer : ∀ p ∈ ledger.pending, p ∈ d.ledger.pending) (issued : d.ledger.issued ≤ ledger.issued) :
      Entry d { d with ledger }
  /-- A delivery with a new id is going to be written. -/
  | take (d : Docket) {x : Delivery} (id : x.id = d.mint d.minted) (aboard : x.client < d.seats) :
      Entry d { d with sends := d.sends ++ [x], minted := d.minted + 1 }
  /-- The first delivery that is going to be written is tracked, under an id that nothing waits
  under. -/
  | launch (d : Docket) {x : Delivery} {rest : List Delivery} {p : Tracked}
      (next : d.sends = x :: rest) (id : p.id = x.id) (ticket : p.ticket = d.ledger.issued)
      (unused : ∀ q ∈ d.ledger.pending, q.id ≠ p.id) :
      Entry d { d with
        sends := rest
        flights := d.flights.insert p.ticket x
        ledger := { d.ledger with
          pending := d.ledger.pending ++ [p]
          issued := d.ledger.issued + 1 } }
  /-- A delivery that has an outcome is over. -/
  | land (d : Docket) {n : Nat} (ended : d.ledger.isWaiting n = false) :
      Entry d { d with flights := d.flights.erase n, ledger := (d.ledger.collect n).2 }

/-- Some changes lead from a docket to another. -/
abbrev Leads : Docket → Docket → Prop :=
  Relation.ReflTransGen Entry

/-- Every send that waits for an outcome is that of a delivery on its way, under the same id, and
tickets are given once. -/
structure Filed (d : Docket) : Prop where
  sound : d.ledger.Sound
  keys : d.flights.keys.Nodup
  issued : ∀ n ∈ d.flights.keys, n < d.ledger.issued
  flown : ∀ p ∈ d.ledger.pending, ∃ x, d.flights.get? p.ticket = some x ∧ x.id = p.id
  aboard : ∀ x ∈ d.sends, x.client < d.seats

variable {d d' : Docket}

theorem Entry.filed (entry : Entry d d') (filed : d.Filed) : d'.Filed := by
  cases entry with
  | pass ids clients =>
      exact { filed with aboard := fun x listed => Nat.lt_of_lt_of_le (filed.aboard x listed) clients }
  | settle sound fewer issued =>
      exact { filed with
        sound
        issued := fun n flown => Nat.lt_of_lt_of_le (filed.issued n flown) issued
        flown := fun p waits => filed.flown p (fewer p waits) }
  | @take x id aboard =>
      refine { filed with aboard := fun y listed => ?_ }
      rcases List.mem_append.1 listed with before | new
      · exact filed.aboard y before
      · rw [List.mem_singleton.1 new]
        exact aboard
  | @launch x rest p next id ticket unused =>
      have new : p.ticket ∉ d.flights.keys := fun flown => by
        have given := filed.issued _ flown
        rw [ticket] at given
        exact Nat.lt_irrefl _ given
      refine ⟨filed.sound.append ticket unused, Table.nodup_keys_insert filed.keys _ _, ?_, ?_, ?_⟩
      · intro n flown
        rw [Table.keys_insert, List.mem_append, List.mem_filter, List.mem_singleton] at flown
        rcases flown with ⟨before, -⟩ | same
        · exact Nat.lt_succ_of_lt (filed.issued n before)
        · rw [same, ticket]
          exact Nat.lt_succ_self _
      · intro q waits
        rw [Table.get?_insert]
        rcases List.mem_append.1 waits with before | same
        · have other : q.ticket ≠ p.ticket := by
            rw [ticket]
            exact Nat.ne_of_lt (filed.sound.issued q before)
          rw [if_neg other]
          exact filed.flown q before
        · obtain rfl := List.mem_singleton.1 same
          exact ⟨x, if_pos rfl, id.symm⟩
      · intro y listed
        exact filed.aboard y (next ▸ List.mem_cons_of_mem x listed)
  | @land n ended =>
      obtain ⟨pending, issued, -⟩ := Ledger.collect_snd d.ledger n
      refine ⟨filed.sound.collect n, Table.nodup_keys_erase filed.keys n, ?_, ?_, filed.aboard⟩
      · intro k flown
        rw [Table.keys_erase, List.mem_filter] at flown
        rw [issued]
        exact filed.issued k flown.1
      · intro p waits
        rw [pending] at waits
        have other : p.ticket ≠ n := fun same => by
          rw [Ledger.isWaiting_iff.2 ⟨p, waits, same⟩] at ended
          cases ended
        rw [Table.get?_erase, if_neg other]
        exact filed.flown p waits

theorem Leads.filed (leads : Leads d d') (filed : d.Filed) : d'.Filed := by
  induction leads with
  | refl => exact filed
  | tail _ entry ih => exact entry.filed ih

/-- The deliveries that are going to be written or are on their way. -/
def outstanding (d : Docket) : List Delivery :=
  d.flights.values ++ d.sends

/-- The ids that were made up so far differ from each other. -/
def Fresh (d : Docket) : Prop :=
  ∀ i j, i < d.minted → j < d.minted → d.mint i = d.mint j → i = j

/-- Every delivery has an id of its own, which was made up for it. -/
structure Named (d : Docket) : Prop where
  once : (d.outstanding.map Delivery.id).Nodup
  made : ∀ x ∈ d.outstanding, ∃ i, i < d.minted ∧ d.mint i = x.id

theorem Entry.mint (entry : Entry d d') : d'.mint = d.mint ∧ d.minted ≤ d'.minted := by
  cases entry with
  | pass ids => exact ⟨rfl, ids⟩
  | take => exact ⟨rfl, Nat.le_succ _⟩
  | settle | launch | land => exact ⟨rfl, Nat.le_refl _⟩

theorem Fresh.before (fresh : d'.Fresh) (mint : d'.mint = d.mint) (minted : d.minted ≤ d'.minted) :
    d.Fresh := by
  intro i j first second same
  rw [← mint] at same
  exact fresh i j (Nat.lt_of_lt_of_le first minted) (Nat.lt_of_lt_of_le second minted) same

theorem Entry.named (entry : Entry d d') (filed : d.Filed) (named : d.Named) (fresh : d'.Fresh) :
    d'.Named := by
  cases entry with
  | pass ids clients =>
      refine ⟨named.once, fun x listed => ?_⟩
      obtain ⟨i, used, made⟩ := named.made x listed
      exact ⟨i, Nat.lt_of_lt_of_le used ids, made⟩
  | settle => exact ⟨named.once, named.made⟩
  | @take x id aboard =>
      have outstanding : Docket.outstanding { d with
          sends := d.sends ++ [x], minted := d.minted + 1 } = d.outstanding ++ [x] :=
        (List.append_assoc _ _ _).symm
      refine ⟨?_, fun y listed => ?_⟩
      · rw [outstanding, List.map_append, List.nodup_append]
        refine ⟨named.once, List.nodup_singleton _, ?_⟩
        intro used before new added clash
        obtain ⟨y, listed, rfl⟩ := List.mem_map.1 before
        obtain ⟨i, earlier, made⟩ := named.made y listed
        rw [List.map_singleton, List.mem_singleton] at added
        rw [added, id, ← made] at clash
        have again : i = d.minted :=
          fresh i d.minted (Nat.lt_succ_of_lt earlier) (Nat.lt_succ_self _) clash
        exact Nat.ne_of_lt earlier again
      · rw [outstanding, List.mem_append, List.mem_singleton] at listed
        rcases listed with before | rfl
        · obtain ⟨i, earlier, made⟩ := named.made y before
          exact ⟨i, Nat.lt_succ_of_lt earlier, made⟩
        · exact ⟨d.minted, Nat.lt_succ_self _, id.symm⟩
  | @launch x rest p next id ticket unused =>
      have new : p.ticket ∉ d.flights.keys := fun flown => by
        have given := filed.issued _ flown
        rw [ticket] at given
        exact Nat.lt_irrefl _ given
      have perm : d.outstanding.Perm ((d.flights.insert p.ticket x).values ++ rest) := by
        rw [outstanding, next, Table.values_insert new, List.append_assoc, List.singleton_append]
      exact ⟨(perm.map Delivery.id).nodup_iff.1 named.once,
        fun y listed => named.made y (perm.mem_iff.2 listed)⟩
  | @land n ended =>
      cases flown : d.flights.get? n with
      | none =>
          have missing : n ∉ d.flights.keys := fun listed => by
            obtain ⟨x, found⟩ := Table.mem_keys.1 listed
            rw [flown] at found
            cases found
          rw [Table.erase_of_not_mem missing]
          exact ⟨named.once, named.made⟩
      | some x =>
          have perm : d.outstanding.Perm (x :: ((d.flights.erase n).values ++ d.sends)) :=
            (Table.values_perm_erase filed.keys flown).append_right d.sends
          exact ⟨(List.nodup_cons.1 ((perm.map Delivery.id).nodup_iff.1 named.once)).2,
            fun y listed => named.made y (perm.mem_iff.2 (List.mem_cons_of_mem x listed))⟩

theorem Leads.mint (leads : Leads d d') : d'.mint = d.mint ∧ d.minted ≤ d'.minted := by
  induction leads with
  | refl => exact ⟨rfl, Nat.le_refl _⟩
  | tail _ entry ih => exact ⟨entry.mint.1.trans ih.1, Nat.le_trans ih.2 entry.mint.2⟩

theorem Entry.issued (entry : Entry d d') : d.ledger.issued ≤ d'.ledger.issued := by
  cases entry with
  | pass | take => exact Nat.le_refl _
  | settle sound fewer issued => exact issued
  | launch => exact Nat.le_succ _
  | @land n ended => exact Nat.le_of_eq (Ledger.collect_snd d.ledger n).2.1.symm

/-- Tickets are not taken back. -/
theorem Leads.issued (leads : Leads d d') : d.ledger.issued ≤ d'.ledger.issued := by
  induction leads with
  | refl => exact Nat.le_refl _
  | tail _ entry ih => exact Nat.le_trans ih entry.issued

theorem Leads.named (leads : Leads d d') (filed : d.Filed) (named : d.Named) (fresh : d'.Fresh) :
    d'.Named := by
  induction leads with
  | refl => exact named
  | tail leads entry ih =>
      exact entry.named (Leads.filed leads filed) (ih (fresh.before entry.mint.1 entry.mint.2)) fresh

/-- A delivery that is going to be written goes under an id that nothing waits under. -/
theorem Named.unused (named : d.Named) (filed : d.Filed) {x : Delivery} (next : x ∈ d.sends) :
    ∀ p ∈ d.ledger.pending, p.id ≠ x.id := by
  intro p waits clash
  obtain ⟨y, flown, id⟩ := filed.flown p waits
  have once := named.once
  rw [outstanding, List.map_append, List.nodup_append] at once
  exact once.2.2 y.id (List.mem_map_of_mem (Table.mem_values_of_get? flown)) x.id
    (List.mem_map_of_mem next) (id.trans clash)

end Docket

namespace Broker

open Docket

/-- What a broker keeps about deliveries. -/
def docket (b : Broker) : Docket :=
  b.desk.docket

variable {b b' : Broker}

/-! ## Operations that leave the docket as it is -/

theorem docket_of_desk (same : b'.desk = b.desk) : b'.docket = b.docket :=
  congrArg Desk.docket same

@[simp] theorem Desk.docket_modifyClient (d : Desk) (c : Nat) (f : Peer.Client → Peer.Client) :
    (d.modifyClient c f).docket = d.docket := by
  simp only [Desk.docket, Desk.modifyClient, List.length_modify]

@[simp] theorem Desk.docket_recap (d : Desk) (c : Nat) (ceiling : Option Nat) :
    (d.recap c ceiling).docket = d.docket := by
  cases ceiling with
  | none => rfl
  | some n => exact Desk.docket_modifyClient d c _

theorem docket_write (b : Broker) (c : Nat) (frame : Wire.Frame) :
    (b.write c frame).2.docket = b.docket :=
  (congrArg Desk.docket (b.desk_write c frame)).trans (Desk.docket_modifyClient _ _ _)

theorem docket_reply (b : Broker) (c : Nat) (id : CorrelationId)
    (result : Except RequestError Unit) : (b.reply c id result).docket = b.docket := by
  cases result <;> exact b.docket_write c _

theorem docket_strike (b : Broker) (id name : String) : (b.strike id name).docket = b.docket := by
  refine (congrArg Desk.docket (b.desk_strike id name)).trans ?_
  cases b.lane? name <;> rfl

theorem docket_subscribe (b : Broker) (id name : String) (ceiling : Option Nat) :
    (b.subscribe id name ceiling).2.docket = b.docket := by
  rcases b.desk_subscribe id name ceiling with ⟨-, same⟩ |
    ⟨session, _, _, -, -, ⟨-, same⟩ | ⟨-, same⟩⟩
  · exact docket_of_desk same
  · exact (congrArg Desk.docket same).trans (Desk.docket_recap _ _ _)
  · exact (congrArg Desk.docket same).trans (Desk.docket_recap b.desk _ _)

theorem docket_request (b : Broker) (connection : String) (id : CorrelationId) (body : Wire.Body) :
    (b.request connection id body).2.docket = b.docket := by
  cases body with
  | message route payload => exact docket_of_desk (b.desk_publish _)
  | subscribe queue ceiling => exact b.docket_subscribe _ _ _
  | unsubscribe queue =>
      rcases b.desk_unsubscribe connection queue with ⟨-, same⟩ | ⟨session, -, -, same⟩
      · exact docket_of_desk same
      · exact (congrArg Desk.docket same).trans (docket_strike { b with
          sessions := b.sessions.insert connection (session.unsubscribe queue).2 } connection queue)
  | declare name route =>
      rcases b.desk_declare name route with same | ⟨-, -, same⟩ <;>
        exact (congrArg Desk.docket same).trans rfl
  | delete name =>
      refine (congrArg Desk.docket (b.desk_delete name)).trans ?_
      cases b.lane? name <;> rfl
  | nack reason => rfl

/-! ## Operations that lead from a docket to another -/

theorem leads_of_docket (same : b'.docket = b.docket) : Leads b.docket b'.docket :=
  same ▸ .refl

/-- What a call settles leads on, whatever is going to be written. -/
theorem leads_of_settles {d : Docket} {ledger : Ledger} {verdict : Tracked → Option Outcome}
    (settles : d.ledger.Settles verdict ledger) (sound : d.ledger.Sound) :
    Leads d { d with ledger } :=
  .single (.settle d (settles.sound sound) (fun _ waits => (settles.mem_pending.1 waits).1)
    (Nat.le_of_eq settles.issued.symm))

theorem docket_resolve (b : Broker) (id : CorrelationId) (outcome : Outcome) :
    (b.resolve id outcome).2.docket =
      { b.docket with ledger := (b.ledger.resolve id outcome).2 } :=
  congrArg Desk.docket (b.desk_resolve id outcome)

theorem leads_resolve (sound : b.ledger.Sound) (id : CorrelationId) (outcome : Outcome) :
    Leads b.docket (b.resolve id outcome).2.docket := by
  rw [docket_resolve]
  exact leads_of_settles (d := b.docket) (Ledger.resolve_settles sound id outcome) sound

theorem leads_expire (sound : b.ledger.Sound) (ticket : Nat) :
    Leads b.docket (b.expire ticket).docket := by
  rw [show (b.expire ticket).docket = { b.docket with ledger := b.ledger.expire ticket } from
    congrArg Desk.docket (b.desk_expire ticket)]
  exact leads_of_settles (d := b.docket) (Ledger.expire_settles sound ticket) sound

theorem leads_conclude (sound : b.ledger.Sound) (ticket : Nat) :
    Leads b.docket (b.conclude ticket).docket := by
  rcases b.desk_conclude ticket with same | ⟨d, outcome, -, collected, concluded⟩
  · exact leads_of_docket (docket_of_desk same)
  · have ended : b.ledger.isWaiting ticket = false := by
      rw [← Bool.not_eq_true]
      intro waiting
      obtain ⟨p, waits, rfl⟩ := Ledger.isWaiting_iff.1 waiting
      have reading : b.ledger.reading p.ticket = some outcome := collected
      rw [sound.reading_of_mem waits] at reading
      cases reading
    have same : (b.conclude ticket).docket = { b.docket with
        flights := b.flights.erase ticket
        ledger := (b.ledger.collect ticket).2 } := by
      refine (congrArg Desk.docket concluded).trans ?_
      simp only [docket, Desk.docket, Desk.modifyClient, List.length_modify]
    rw [same]
    exact .single (.land b.docket ended)

theorem docket_launch {d : Delivery} (unused : ∀ q ∈ b.ledger.pending, q.id ≠ d.id) :
    (b.launch d).2.docket = { b.docket with
      flights := b.flights.insert (b.trackedAs d).ticket d
      ledger := { b.ledger with
        pending := b.ledger.pending ++ [b.trackedAs d]
        issued := b.ledger.issued + 1 } } := by
  have ledger : (b.ledger.setUp d.id true).2 = _ :=
    ledger_launch unused
  refine (congrArg Desk.docket (b.desk_launch d)).trans ?_
  rw [launch_fst unused, ledger]
  simp only [docket, Desk.docket, Desk.modifyClient, List.length_modify]

theorem leads_dispatch (sound : b.ledger.Sound) (d : Delivery) (ticket : Nat) :
    Leads b.docket (b.dispatch d ticket).docket := by
  have written := b.docket_write d.client d.frame
  have sound' : (b.write d.client d.frame).2.ledger.Sound := by
    rw [show (b.write d.client d.frame).2.ledger = b.ledger from congrArg Docket.ledger written]
    exact sound
  unfold dispatch
  split <;> rename_i b' went <;> rw [went] at written sound' <;> rw [← written]
  · exact leads_of_settles (d := b'.docket) (Ledger.written_settles sound' d.id) sound'
  · have settles := Ledger.resolve_settles sound' d.id (some .sendFailed)
    exact (leads_of_settles (d := b'.docket) settles sound').trans
      (leads_conclude (b := { b' with ledger := (b'.ledger.unwritten d.id).2 })
        (settles.sound sound') ticket)

/-- A delivery that is tracked comes out of the line. -/
theorem leads_launch {d : Delivery} (unused : ∀ q ∈ b.ledger.pending, q.id ≠ d.id) :
    Leads (b.docket.withNext d) (b.launch d).2.docket := by
  rw [docket_launch unused]
  exact .single (.launch (b.docket.withNext d) (p := b.trackedAs d) rfl rfl rfl unused)

/-- A delivery that is going to be written takes the place of one under the same id. -/
theorem leads_replace (sound : b.ledger.Sound) (d : Delivery) :
    Leads (b.docket.withNext d) ((b.resolve d.id (some .cancelled)).2.docket.withNext d) := by
  rw [b.docket_resolve d.id (some .cancelled)]
  exact leads_of_settles (d := b.docket.withNext d)
    (Ledger.resolve_settles sound d.id (some .cancelled)) sound

/-- A delivery that is written comes out of the line and is tracked first. -/
theorem leads_send (sound : b.ledger.Sound) (d : Delivery) :
    Leads (b.docket.withNext d) (b.send d).docket := by
  have settles := Ledger.resolve_settles sound d.id (some .cancelled)
  have resolved := b.docket_resolve d.id (some .cancelled)
  have unused := unused_of_resolve sound d.id (some .cancelled)
  have sound' : (b.resolve d.id (some .cancelled)).2.ledger.Sound := by
    rw [show (b.resolve d.id (some .cancelled)).2.ledger = _ from congrArg Docket.ledger resolved]
    exact settles.sound sound
  refine (leads_replace sound d).trans ?_
  rw [send_eq]
  generalize (b.resolve d.id (some .cancelled)).2 = b' at *
  have sound'' : (b'.launch d).2.ledger.Sound := by
    rw [ledger_launch unused]
    exact sound'.append rfl unused
  exact (leads_launch unused).trans (leads_dispatch sound'' d _)

/-- A worker takes one delivery at most. -/
theorem leads_work (b : Broker) (k : Nat) : Leads b.docket (b.work k).docket := by
  rcases b.desk_work k with same | ⟨_, member, message, stored, -, -, -, room, -, went⟩
  · exact leads_of_docket (docket_of_desk same)
  · obtain ⟨client, here, -⟩ := client_of_hasRoom room
    have same : (b.work k).docket = { b.docket with
        sends := b.docket.sends ++ [⟨b.mint b.minted, k, member.client, message, stored.route,
          stored.payload⟩]
        minted := b.docket.minted + 1 } := by
      refine (congrArg Desk.docket went).trans ?_
      simp only [docket, Desk.docket, Desk.modifyClient, List.length_modify]
      rfl
    rw [same]
    exact .single (.take b.docket rfl (List.getElem?_eq_some_iff.1 here).1)

theorem leads_task (sound : b.ledger.Sound) {task : Task} {rest : List Task}
    (line : b.tasks = task :: rest) :
    Leads b.docket (perform { b with tasks := rest } task).docket := by
  have popped := congrArg Desk.docket (desk_pop line)
  have quiet : task.delivery? = none → b.docket = Broker.docket { b with tasks := rest } := by
    intro other
    rw [other] at popped
    exact popped
  cases task with
  | send d =>
      rw [show b.docket = (Broker.docket { b with tasks := rest }).withNext d from popped]
      exact leads_send (b := { b with tasks := rest }) sound d
  | work k =>
      rw [quiet rfl]
      exact leads_work _ k
  | arm ticket =>
      rw [quiet rfl]
      exact leads_of_docket (docket_of_desk (desk_arm _ ticket))
  | expire ticket =>
      rw [quiet rfl]
      exact leads_expire (b := { b with tasks := rest }) sound ticket
  | conclude ticket =>
      rw [quiet rfl]
      exact leads_conclude (b := { b with tasks := rest }) sound ticket
  | publish tag m =>
      rw [quiet rfl]
      refine leads_of_docket ?_
      rcases desk_beginPublish { b with tasks := rest } tag m with same | ⟨-, same⟩ <;>
        exact (congrArg Desk.docket same).trans rfl
  | resume p =>
      rw [quiet rfl]
      exact leads_of_docket (docket_of_desk (desk_resumePublish _ p))

/-- A greeting is tracked and settled at once. -/
theorem leads_greet (sound : b.ledger.Sound) (c : Nat) : Leads b.docket (b.greet c).docket := by
  obtain ⟨ledger, books, pending, issued, outcomes⟩ := books_greet sound c
  have resolved := congrArg Docket.ledger (b.mintId.2.docket_resolve b.mintId.1 (some .cancelled))
  have settles := Ledger.resolve_settles sound b.mintId.1 (some .cancelled)
  have left : (b.greet c).ledger = ledger := congrArg Books.ledger books
  have same : (b.greet c).docket = { b.docket with ledger, minted := b.docket.minted + 1 } := by
    rw [← left]
    refine (congrArg Desk.docket (b.desk_greet c)).trans ?_
    simp only [docket, Desk.docket, Desk.modifyClient, List.length_modify]
    rfl
  rw [show (b.mintId.2.resolve b.mintId.1 (some .cancelled)).2.ledger =
    (b.ledger.resolve b.mintId.1 (some .cancelled)).2 from resolved] at pending issued outcomes
  rw [same]
  refine .head (.settle b.docket ((settles.sound sound).spend pending issued outcomes) ?_ ?_)
    (.single (.pass _ (Nat.le_succ _) (Nat.le_refl _)))
  · intro p waits
    rw [pending] at waits
    exact (settles.mem_pending.1 waits).1
  · rw [issued, settles.issued]
    exact Nat.le_succ _

theorem leads_connect (sound : b.ledger.Sound) (id : String) (link : Peer.Link) :
    Leads b.docket (b.connect id link).2.docket := by
  unfold connect
  dsimp only
  split
  · exact .refl
  · refine .head (.pass b.docket (Nat.le_refl _) (Nat.le_succ _)) ?_
    rw [show { b.docket with minted := b.docket.minted, seats := b.docket.seats.succ } =
      Broker.docket { b with clients := b.clients ++ [Peer.Client.new id link
        b.settings.defaultMaxConcurrency] } by simp [docket, Desk.docket, desk]]
    exact leads_greet (b := Broker.announce { b with
      buffers := (Stream.Assembler.new b.buffers b.settings.initialBufferSize
        b.settings.maxBodySize).2
      clients := b.clients ++ [Peer.Client.new id link b.settings.defaultMaxConcurrency]
      sessions := b.sessions.insert id ⟨id, b.clients.length, (Stream.Assembler.new b.buffers
        b.settings.initialBufferSize b.settings.maxBodySize).1, []⟩ } (.connected id)) sound _

theorem leads_disconnect (sound : b.ledger.Sound) (id : String) :
    Leads b.docket (b.disconnect id).docket := by
  have struck : ∀ (names : List String) (b : Broker),
      (names.foldl (fun b name => b.strike id name) b).docket = b.docket := by
    intro names
    induction names with
    | nil => exact fun _ => rfl
    | cons name names ih => exact fun b => (ih _).trans (b.docket_strike id name)
  have resolved : ∀ (ids : List CorrelationId) (d : Docket), d.ledger.Sound →
      Leads d { d with
        ledger := ids.foldl (fun l id => (l.resolve id (some .sendFailed)).2) d.ledger } := by
    intro ids
    induction ids with
    | nil => exact fun _ _ => .refl
    | cons id ids ih =>
        intro d sound
        have settles := Ledger.resolve_settles sound id (some .sendFailed)
        exact (leads_of_settles settles sound).trans (ih _ (settles.sound sound))
  rcases b.desk_disconnect id with same | ⟨session, -, same⟩
  · exact leads_of_docket (docket_of_desk same)
  · have left : (b.disconnect id).docket = { b.docket with
        ledger := ((b.clients[session.client]?.map Peer.Client.deliveries).getD []).foldl
          (fun l d => (l.resolve d (some .sendFailed)).2) b.ledger } := by
      have kept := struck session.subscriptions { b with sessions := b.sessions.erase id }
      rw [show Broker.docket { b with sessions := b.sessions.erase id } = b.docket from rfl] at kept
      rw [← kept]
      refine (congrArg Desk.docket same).trans ?_
      simp only [docket, Desk.docket, Desk.modifyClient, List.length_modify]
    rw [left]
    exact resolved _ b.docket sound

theorem leads_handle (sound : b.ledger.Sound) (session : Peer.Session) (frame : Wire.Frame) :
    Leads b.docket (b.handle session frame).2.docket := by
  rw [handle_eq]
  cases frame.purport with
  | answer outcome => exact leads_resolve sound frame.id outcome
  | call => exact leads_of_docket (b.docket_reply _ _ _)
  | request body => exact leads_of_docket ((docket_reply _ _ _ _).trans (b.docket_request _ _ _))
  | offence e => exact .refl

/-! ## Lives -/

theorem leads_apply (sound : b.ledger.Sound) (m : Move) : Leads b.docket (b.apply m).docket := by
  cases m with
  | connect id link => exact leads_connect sound id link
  | disconnect id => exact leads_disconnect sound id
  | feed id data =>
      simp only [apply]
      split <;> exact .refl
  | frame id =>
      simp only [apply]
      split
      · exact .refl
      · rename_i session frame _
        exact leads_handle (b := { b with sessions := b.sessions.insert id session }) sound session
          frame
  | declare name route => exact leads_of_docket (b.docket_request "" default (.declare name route))
  | delete name => exact leads_of_docket (b.docket_request "" default (.delete name))
  | subscribe id name ceiling => exact leads_of_docket (b.docket_subscribe id name ceiling)
  | unsubscribe id name => exact leads_of_docket (b.docket_request id default (.unsubscribe name))
  | publish m => exact leads_of_docket (docket_of_desk (b.desk_publish m))
  | publishLater tag m => exact leads_of_docket (docket_of_desk (b.desk_later_of_other rfl))
  | recover => exact leads_of_docket (docket_of_desk b.desk_recover)
  | tamper c link => exact leads_of_docket (Desk.docket_modifyClient b.desk c _)
  | task =>
      cases line : b.tasks with
      | nil =>
          simp only [apply, line]
          exact .refl
      | cons task rest =>
          simp only [apply, line]
          exact leads_task sound line
  | ring => exact leads_of_docket (docket_of_desk b.desk_ring)
  | tick now => exact .refl

theorem leads_shutDown (sound : b.ledger.Sound) : Leads b.docket b.shutDown.docket := by
  have whole : b.shutDown.ledger.Sound ∧ Leads b.docket b.shutDown.docket := by
    refine shutDown_induction (P := fun b' => b'.ledger.Sound ∧ Leads b.docket b'.docket)
      ⟨sound, .refl⟩ ?_ ?_ ?_
    · intro b' k ⟨sound, leads⟩
      have same : (b'.closeLane k).docket = b'.docket :=
        (congrArg Desk.docket (b'.desk_closeLane k)).trans rfl
      rw [show (b'.closeLane k).ledger = b'.ledger from congrArg Docket.ledger same, same]
      exact ⟨sound, leads⟩
    · intro b' id ⟨sound, leads⟩
      have settles := Ledger.resolve_settles sound id (some .cancelled)
      rw [show (b'.resolve id (some .cancelled)).2.ledger = _ from
        congrArg Docket.ledger (b'.docket_resolve id (some .cancelled))]
      exact ⟨settles.sound sound, leads.trans (leads_resolve sound id _)⟩
    · intro b' c ⟨sound, leads⟩
      have same : (b'.modifyClient c fun client => { client with link := client.link.close }).docket =
        b'.docket := Desk.docket_modifyClient b'.desk c _
      exact ⟨sound, same ▸ leads⟩
  exact whole.2

theorem leads_live (sound : b.ledger.Sound) (e : Episode) : Leads b.docket (b.live e).docket := by
  cases e with
  | store depot => exact .refl
  | shutDown => exact leads_shutDown sound
  | stir s =>
      cases s with
      | move m => exact leads_apply sound m
      | holdUp holdsUp =>
          refine leads_of_docket ?_
          cases holdsUp <;> simp [live, stir, setHoldUp, docket, Desk.docket, desk, Task.delivery?]
      | letGo n =>
          simp only [live, stir]
          split
          · exact .refl
          · rename_i p _
            exact leads_of_docket ((docket_of_desk
              (desk_resumePublish { b with heldUp := b.heldUp.eraseIdx n } p)).trans rfl)

theorem leads_through (filed : b.docket.Filed) (episodes : List Episode) :
    Leads b.docket (b.through episodes).docket := by
  induction episodes generalizing b with
  | nil => exact .refl
  | cons e episodes ih =>
      have first := leads_live filed.sound e
      exact first.trans (ih (first.filed filed))

/-- The docket of a new broker is in order. -/
theorem filed_start {settings : Settings.Engine} {mint : Nat → CorrelationId} {calendar : Nat}
    {depot : Store.Depot} (started : Broker.new? settings mint calendar depot = some b) :
    b.docket.Filed ∧ b.docket.Named := by
  unfold new? at started
  split at started
  · obtain ⟨buffers, -, rfl⟩ := Option.map_eq_some_iff.1 started
    exact ⟨⟨Ledger.sound_empty, List.nodup_nil, nofun, nofun, nofun⟩, List.nodup_nil, nofun⟩
  · cases started

/-- Through a whole life every send that waits for an outcome is that of a delivery on its way. -/
theorem filed_through {settings : Settings.Engine} {mint : Nat → CorrelationId} {calendar : Nat}
    {depot : Store.Depot} {start : Broker}
    (started : Broker.new? settings mint calendar depot = some start) (life : List Episode) :
    (start.through life).docket.Filed :=
  Leads.filed (leads_through (filed_start started).1 life) (filed_start started).1

/-- Through a whole life every delivery has an id of its own, if the ids that were made up differ. -/
theorem named_through {settings : Settings.Engine} {mint : Nat → CorrelationId} {calendar : Nat}
    {depot : Store.Depot} {start : Broker}
    (started : Broker.new? settings mint calendar depot = some start) {life : List Episode}
    (fresh : (start.through life).docket.Fresh) : (start.through life).docket.Named :=
  have ⟨filed, named⟩ := filed_start started
  (leads_through filed life).named filed named fresh

end Broker

end MessageBroker
