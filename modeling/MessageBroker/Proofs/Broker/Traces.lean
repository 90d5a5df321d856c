import MessageBroker.Proofs.Broker.Slots

/-!
# Whose delivery it is

The record of a client remembers its deliveries by their ids. While every id is made up once, what is
remembered is what is on its way: each send that waits for an outcome is that of one delivery, and
as long as a delivery waits its client is connected.
-/

namespace MessageBroker

namespace Ledger

theorem isWaiting_mono {l l' : Ledger} (fewer : ∀ p ∈ l'.pending, p ∈ l.pending) {n : Nat}
    (waits : l'.isWaiting n = true) : l.isWaiting n = true := by
  obtain ⟨p, listed, ticket⟩ := isWaiting_iff.1 waits
  exact isWaiting_iff.2 ⟨p, fewer p listed, ticket⟩

end Ledger

namespace Desk

/-- The deliveries on their way to a client. -/
def flownTo (d : Desk) (c : Nat) : List Delivery :=
  d.flights.values.filter fun x => x.client = c

/-- The ids that were used so far differ from each other. -/
def Fresh (d : Desk) : Prop :=
  ∀ i j, i < d.minted → j < d.minted → d.mint i = d.mint j → i = j

/-- Every delivery has an id of its own, which its client remembers, every send that waits is that of
a delivery, and the clients of deliveries that are to be written or wait are connected. -/
structure Traced (d : Desk) : Prop where
  once : (d.outstanding.map Delivery.id).Nodup
  made : ∀ x ∈ d.outstanding, ∃ i, i < d.minted ∧ d.mint i = x.id
  tracked : ∀ p ∈ d.ledger.pending, ∃ x, d.flights.get? p.ticket = some x ∧ x.id = p.id
  held : ∀ id c client, d.seat? id = some c → d.clients[c]? = some client →
    client.deliveries.Perm ((d.flownTo c).map Delivery.id)
  queued : ∀ x ∈ d.sends, d.Seated x.client
  linked : ∀ n x, d.flights.get? n = some x → d.ledger.isWaiting n = true → d.Seated x.client

variable {d d' : Desk} {x : Delivery}

theorem Seated.of_seats (seats : ∀ id, d'.seat? id = d.seat? id) {c : Nat} (seated : d.Seated c) :
    d'.Seated c := by
  obtain ⟨id, here⟩ := seated
  exact ⟨id, (seats id).trans here⟩

theorem ids_flownTo_sublist (d : Desk) (c : Nat) :
    ((d.flownTo c).map Delivery.id).Sublist (d.outstanding.map Delivery.id) :=
  (List.filter_sublist.trans (List.sublist_append_left _ _)).map _

namespace Traced

theorem congr (traced : d.Traced) (flights : d'.flights = d.flights) (sends : d'.sends = d.sends)
    (deliveries : d'.clients.map Peer.Client.deliveries = d.clients.map Peer.Client.deliveries)
    (fewer : ∀ p ∈ d'.ledger.pending, p ∈ d.ledger.pending) (mint : d'.mint = d.mint)
    (minted : d.minted ≤ d'.minted) (seats : ∀ id, d'.seat? id = d.seat? id) : d'.Traced := by
  have outstanding : d'.outstanding = d.outstanding := by
    rw [Desk.outstanding, flights, sends, Desk.outstanding]
  refine ⟨outstanding ▸ traced.once, ?_, ?_, ?_, ?_, ?_⟩
  · intro x listed
    obtain ⟨i, used, same⟩ := traced.made x (outstanding ▸ listed)
    exact ⟨i, Nat.lt_of_lt_of_le used minted, mint ▸ same⟩
  · intro p waits
    rw [flights]
    exact traced.tracked p (fewer p waits)
  · intro id c client here found
    obtain ⟨client', found', same⟩ := getElem?_of_map_eq deliveries found
    rw [← same, flownTo, flights]
    exact traced.held id c client' (seats id ▸ here) found'
  · intro x listed
    exact (traced.queued x (sends ▸ listed)).of_seats seats
  · intro n x found waits
    exact (traced.linked n x (flights ▸ found) (Ledger.isWaiting_mono fewer waits)).of_seats seats

/-- A delivery under a new id is going to be written. -/
theorem take (traced : d.Traced) (id : x.id = d.mint d.minted) (seated : d.Seated x.client)
    {f : Peer.Client → Peer.Client} (same : ∀ client, (f client).deliveries = client.deliveries)
    (fresh : Fresh { d with minted := d.minted + 1 }) :
    Traced { d.modifyClient x.client f with
      sends := d.sends ++ [x]
      minted := d.minted + 1 } := by
  have outstanding : Desk.outstanding { d.modifyClient x.client f with
      sends := d.sends ++ [x]
      minted := d.minted + 1 } = d.outstanding ++ [x] := (List.append_assoc _ _ _).symm
  have deliveries : (d.clients.modify x.client f).map Peer.Client.deliveries =
      d.clients.map Peer.Client.deliveries := map_modify_of_same same _ _
  refine ⟨?_, ?_, traced.tracked, ?_, ?_, traced.linked⟩
  · rw [outstanding, List.map_append, List.nodup_append]
    refine ⟨traced.once, List.nodup_singleton _, ?_⟩
    intro used before new added clash
    obtain ⟨y, listed, rfl⟩ := List.mem_map.1 before
    obtain ⟨i, earlier, made⟩ := traced.made y listed
    rw [List.map_singleton, List.mem_singleton] at added
    rw [added, id, ← made] at clash
    have again : i = d.minted :=
      fresh i d.minted (Nat.lt_succ_of_lt earlier) (Nat.lt_succ_self _) clash
    exact Nat.ne_of_lt earlier again
  · intro y listed
    rw [outstanding, List.mem_append, List.mem_singleton] at listed
    rcases listed with before | rfl
    · obtain ⟨i, earlier, made⟩ := traced.made y before
      exact ⟨i, Nat.lt_succ_of_lt earlier, made⟩
    · exact ⟨d.minted, Nat.lt_succ_self _, id.symm⟩
  · intro id' c client here found
    obtain ⟨client', found', same'⟩ := getElem?_of_map_eq deliveries found
    rw [← same']
    exact traced.held id' c client' here found'
  · intro y listed
    rcases List.mem_append.1 listed with before | new
    · exact traced.queued y before
    · rw [List.mem_singleton.1 new]
      exact seated

/-- A delivery takes off under a ticket of its own, and its client remembers it. -/
theorem launch (traced : Traced { d with sends := x :: d.sends }) {p : Tracked}
    (new : p.ticket ∉ d.flights.keys) (unused : ∀ q ∈ d.ledger.pending, q.ticket ≠ p.ticket)
    (id : p.id = x.id) {ledger : Ledger} (pending : ledger.pending = d.ledger.pending ++ [p]) :
    Traced { d.modifyClient x.client fun client => client.track x.id with
      ledger
      flights := d.flights.insert p.ticket x } := by
  have perm := outstanding_perm_insert (x := x) new
  have missing : x.id ∉ d.flights.values.map Delivery.id := by
    intro listed
    have once : (d.flights.values.map Delivery.id ++ (x :: d.sends).map Delivery.id).Nodup := by
      rw [← List.map_append]
      exact traced.once
    exact (List.nodup_append.1 once).2.2 x.id listed x.id List.mem_cons_self rfl
  refine ⟨?_, ?_, ?_, ?_, ?_, ?_⟩
  · exact (perm.map Delivery.id).nodup_iff.1 traced.once
  · intro y listed
    exact traced.made y (perm.mem_iff.2 listed)
  · intro q waits
    rw [pending, List.mem_append, List.mem_singleton] at waits
    rw [Table.get?_insert]
    rcases waits with before | rfl
    · rw [if_neg (unused q before)]
      exact traced.tracked q before
    · exact ⟨x, if_pos rfl, id.symm⟩
  · intro id' c client here found
    have flown : flownTo { d.modifyClient x.client fun client => client.track x.id with
        ledger
        flights := d.flights.insert p.ticket x } c =
        d.flownTo c ++ if x.client = c then [x] else [] := by
      rw [flownTo, Table.values_insert new, List.filter_append, flownTo]
      by_cases own : x.client = c <;> simp [own]
    rw [flown, List.map_append]
    obtain ⟨client', found', same⟩ := getElem?_of_modify found
    have before := traced.held id' c client' here found'
    by_cases own : x.client = c
    · rw [if_pos own] at same
      have unknown : x.id ∉ client'.deliveries := fun listed =>
        missing ((List.filter_sublist.map _).mem (before.mem_iff.1 listed))
      rw [if_pos own, same, Peer.Client.track, if_neg unknown]
      exact before.append_right _
    · rw [if_neg own] at same
      rw [if_neg own, same, List.map_nil, List.append_nil]
      exact before
  · intro y listed
    exact traced.queued y (List.mem_cons_of_mem _ listed)
  · intro n y found waits
    rw [Table.get?_insert] at found
    split at found
    · obtain rfl := Option.some.inj found
      exact traced.queued x List.mem_cons_self
    · rename_i other
      refine traced.linked n y found ?_
      obtain ⟨q, listed, ticket⟩ := Ledger.isWaiting_iff.1 waits
      rw [pending, List.mem_append, List.mem_singleton] at listed
      rcases listed with before | rfl
      · exact Ledger.isWaiting_iff.2 ⟨q, before, ticket⟩
      · exact absurd ticket.symm other

/-- A delivery is over that does not wait any more, and its client forgets it. -/
theorem conclude (traced : d.Traced) (keys : d.flights.keys.Nodup) {n : Nat}
    (found : d.flights.get? n = some x) (ended : d.ledger.isWaiting n = false) {ledger : Ledger}
    (pending : ledger.pending = d.ledger.pending) :
    Traced { d.modifyClient x.client fun client => (client.untrack x.id).2.release with
      ledger
      flights := d.flights.erase n } := by
  have perm := outstanding_perm_erase keys found
  have values := Table.values_perm_erase keys found
  have once : (x.id :: (outstanding { d with flights := d.flights.erase n }).map
      Delivery.id).Nodup := (perm.map Delivery.id).nodup_iff.1 traced.once
  obtain ⟨missing, once⟩ := List.nodup_cons.1 once
  have waiting : ∀ k, ledger.isWaiting k = d.ledger.isWaiting k := by
    intro k
    rw [Ledger.isWaiting, pending, Ledger.isWaiting]
  refine ⟨once, ?_, ?_, ?_, traced.queued, ?_⟩
  · intro y listed
    exact traced.made y (perm.mem_iff.2 (List.mem_cons_of_mem _ listed))
  · intro p waits
    rw [pending] at waits
    have other : p.ticket ≠ n := by
      intro same
      have still := Ledger.isWaiting_iff.2 ⟨p, waits, same⟩
      rw [ended] at still
      exact Bool.false_ne_true still
    obtain ⟨y, flown, id⟩ := traced.tracked p waits
    exact ⟨y, ((Table.get?_erase _ _ _).trans (if_neg other)).trans flown, id⟩
  · intro id c client here found'
    have before : ((d.flownTo c).map Delivery.id).Perm ((if x.client = c then [x.id] else []) ++
        (flownTo { d with flights := d.flights.erase n } c).map Delivery.id) := by
      refine ((values.filter _).map _).trans ?_
      by_cases own : x.client = c <;> simp [own, flownTo]
    obtain ⟨client', found', same⟩ := getElem?_of_modify found'
    have held := (traced.held id c client' here found').trans before
    change client.deliveries.Perm ((flownTo { d with flights := d.flights.erase n } c).map _)
    by_cases own : x.client = c
    · rw [if_pos own] at same held
      have others : ((flownTo { d with flights := d.flights.erase n } c).map Delivery.id).filter
          (· ≠ x.id) = (flownTo { d with flights := d.flights.erase n } c).map Delivery.id := by
        refine List.filter_eq_self.2 ?_
        intro used listed
        have other : used ≠ x.id := by
          rintro rfl
          exact missing ((ids_flownTo_sublist _ c).mem listed)
        simpa using other
      rw [same, Peer.Client.release, Peer.Client.untrack]
      refine (held.filter (· ≠ x.id)).trans ?_
      rw [List.singleton_append, List.filter_cons_of_neg (by simp), others]
    · rw [if_neg own] at same held
      rw [same]
      exact held
  · intro k y flown waits
    rw [Table.get?_erase] at flown
    split at flown
    · cases flown
    · exact traced.linked k y flown (waiting k ▸ waits)

/-- A connection begins without deliveries. -/
theorem connect (traced : d.Traced) (aboard : ∀ x ∈ d.outstanding, x.client < d.clients.length)
    (roll : d.Roll) {id : String} (new : d.sessions.get? id = none) {client : Peer.Client}
    (idle : client.deliveries = []) {session : Peer.Session}
    (own : session.client = d.clients.length) {ledger : Ledger}
    (fewer : ∀ p ∈ ledger.pending, p ∈ d.ledger.pending) :
    Traced { d with
      clients := d.clients ++ [client]
      sessions := d.sessions.insert id session
      ledger
      minted := d.minted + 1 } := by
  have seats : ∀ id' c, d.seat? id' = some c →
      seat? { d with sessions := d.sessions.insert id session } id' = some c := by
    intro id' c here
    have other : id' ≠ id := by
      rintro rfl
      rw [seat?, new] at here
      cases here
    rw [seat?, Table.get?_insert, if_neg other]
    exact here
  refine ⟨traced.once, ?_, ?_, ?_, ?_, ?_⟩
  · intro x listed
    obtain ⟨i, used, made⟩ := traced.made x listed
    exact ⟨i, Nat.lt_succ_of_lt used, made⟩
  · exact fun p waits => traced.tracked p (fewer p waits)
  · intro id' c client' here found
    rw [seat?, Table.get?_insert] at here
    split at here
    · have place : c = d.clients.length := by
        rw [← own]
        exact (Option.some.inj here).symm
      subst place
      rw [List.getElem?_append_right (Nat.le_refl _), Nat.sub_self] at found
      obtain rfl := Option.some.inj found
      have nobody : d.flownTo d.clients.length = [] := by
        refine List.filter_eq_nil_iff.2 ?_
        intro x listed
        simpa using Nat.ne_of_lt (aboard x (List.mem_append_left _ listed))
      change client.deliveries.Perm ((d.flownTo d.clients.length).map Delivery.id)
      rw [nobody, idle]
      exact .nil
    · have known := roll.seats id' c here
      have place : c < d.clients.length := by
        have bound := (List.getElem?_eq_some_iff.1 known).1
        rwa [List.length_map] at bound
      rw [List.getElem?_append_left place] at found
      exact traced.held id' c client' here found
  · intro x listed
    obtain ⟨id', here⟩ := traced.queued x listed
    exact ⟨id', seats id' _ here⟩
  · intro n x found waits
    obtain ⟨id', here⟩ := traced.linked n x found (Ledger.isWaiting_mono fewer waits)
    exact ⟨id', seats id' _ here⟩

/-- A connection ends whose deliveries do not wait any more. -/
theorem disconnect (traced : d.Traced) (roll : d.Roll) {id : String} {session : Peer.Session}
    (found : d.sessions.get? id = some session) (idle : d.sends = []) {ledger : Ledger}
    (fewer : ∀ p ∈ ledger.pending, p ∈ d.ledger.pending)
    (settled : ∀ x ∈ d.flownTo session.client, ∀ p ∈ ledger.pending, p.id ≠ x.id) :
    Traced { d.modifyClient session.client fun client => client.takeDeliveries.2 with
      sessions := d.sessions.erase id
      ledger } := by
  have mine := seat?_of_get? found
  refine ⟨traced.once, traced.made, fun p waits => traced.tracked p (fewer p waits), ?_, ?_, ?_⟩
  · intro id' c client here found'
    have here := (seat?_erase (d := d) id id').symm.trans here
    split at here
    · cases here
    · rename_i other
      have apart : session.client ≠ c := by
        rintro rfl
        exact other (roll.eq_of_seat here mine)
      obtain ⟨client', found', same⟩ := getElem?_of_modify found'
      rw [if_neg apart] at same
      exact traced.held id' c client here (same ▸ found')
  · intro x listed
    change x ∈ d.sends at listed
    rw [idle] at listed
    exact absurd listed List.not_mem_nil
  · intro n x flown waits
    change d.flights.get? n = some x at flown
    obtain ⟨p, listed, ticket⟩ := Ledger.isWaiting_iff.1 waits
    obtain ⟨id', here⟩ := traced.linked n x flown (Ledger.isWaiting_mono fewer waits)
    refine ⟨id', (seat?_erase (d := d) id id').trans ?_⟩
    rw [if_neg ?_]
    · exact here
    · rintro rfl
      obtain ⟨y, flown', same⟩ := traced.tracked p (fewer p listed)
      rw [ticket, flown] at flown'
      obtain rfl := Option.some.inj flown'
      have own : session.client = x.client := Option.some.inj (mine.symm.trans here)
      have mem : x ∈ d.flownTo session.client :=
        List.mem_filter.2 ⟨Table.mem_values_of_get? flown, by simp [own]⟩
      exact settled x mem p listed same.symm

end Traced

end Desk

end MessageBroker
