import MessageBroker.Proofs.Broker.Flights
import MessageBroker.Proofs.Broker.Roll

/-!
# Slots

A slot of a client is in use for each delivery that is going to be written to it or is on its way,
from whichever queue, and for nothing else. So to give a slot back never finds the count at zero,
and the ceiling holds for all queues together: a worker takes a slot only if one is free, and until
its delivery is written nobody lowers the ceiling.
-/

namespace MessageBroker

/-- What changes the values of a list in ways that do not show leaves what shows as it is. -/
theorem map_modify_of_same {α β : Type} {g : α → β} {f : α → α} (same : ∀ x, g (f x) = g x)
    (xs : List α) (k : Nat) : (xs.modify k f).map g = xs.map g := by
  apply List.ext_getElem?
  intro j
  rw [List.getElem?_map, List.getElem?_modify, List.getElem?_map]
  cases xs[j]? with
  | none => rfl
  | some x => by_cases here : k = j <;> simp [here, same]

theorem getElem?_of_modify {α : Type} {f : α → α} {xs : List α} {k j : Nat} {y : α}
    (found : (xs.modify k f)[j]? = some y) :
    ∃ x, xs[j]? = some x ∧ y = if k = j then f x else x := by
  rw [List.getElem?_modify] at found
  obtain ⟨x, here, same⟩ := Option.map_eq_some_iff.1 found
  refine ⟨x, here, ?_⟩
  split at same <;> rename_i own
  · rw [if_pos own, same]
  · rw [if_neg own]
    exact same.symm

theorem getElem?_of_map_eq {α β : Type} {g : α → β} {xs ys : List α} (same : xs.map g = ys.map g)
    {k : Nat} {x : α} (found : xs[k]? = some x) : ∃ y, ys[k]? = some y ∧ g y = g x := by
  have shown : (ys.map g)[k]? = some (g x) := by
    rw [← same, List.getElem?_map, found, Option.map_some]
  rw [List.getElem?_map] at shown
  exact Option.map_eq_some_iff.1 shown

theorem getElem?_append_singleton {α : Type} {xs : List α} {x y : α} {k : Nat}
    (found : (xs ++ [x])[k]? = some y) : xs[k]? = some y ∨ k = xs.length ∧ y = x := by
  rw [List.getElem?_append] at found
  split at found
  · exact .inl found
  · obtain ⟨first, same⟩ := List.getElem?_eq_some_iff.1 found
    rw [List.length_singleton, Nat.lt_one_iff] at first
    exact .inr ⟨by omega, by simpa [first] using same.symm⟩

namespace Desk

/-- The deliveries that are on their way or are going to be written. -/
def outstanding (d : Desk) : List Delivery :=
  d.flights.values ++ d.sends

/-- The number of those to a client. -/
def load (d : Desk) (c : Nat) : Nat :=
  d.outstanding.countP fun x => x.client = c

/-- The slots in use are those of deliveries, whose clients are known. -/
structure Loaded (d : Desk) : Prop where
  slots : ∀ c client, d.clients[c]? = some client → client.inFlight = d.load c
  aboard : ∀ x ∈ d.outstanding, x.client < d.clients.length

/-- The slots in use are those of deliveries, and a delivery that is going to be written has one below
the ceiling. -/
structure Slotted (d : Desk) : Prop where
  slots : ∀ c client, d.clients[c]? = some client → client.inFlight = d.load c
  aboard : ∀ x ∈ d.outstanding, x.client < d.clients.length
  room : ∀ x ∈ d.sends, ∀ client, d.clients[x.client]? = some client →
    client.inFlight ≤ client.ceiling

variable {d d' : Desk} {x : Delivery}

theorem outstanding_perm_erase (keys : d.flights.keys.Nodup) {n : Nat}
    (found : d.flights.get? n = some x) :
    d.outstanding.Perm (x :: outstanding { d with flights := d.flights.erase n }) :=
  (Table.values_perm_erase keys found).append_right d.sends

theorem outstanding_perm_insert {n : Nat} (new : n ∉ d.flights.keys) :
    (outstanding { d with sends := x :: d.sends }).Perm
      (outstanding { d with flights := d.flights.insert n x }) := by
  simp only [outstanding, Table.values_insert new, List.append_assoc, List.singleton_append]
  exact .refl _

theorem load_of_perm (same : d.outstanding.Perm d'.outstanding) (c : Nat) : d.load c = d'.load c :=
  same.countP_eq _

/-- A delivery that is outstanding is counted. -/
theorem load_pos (listed : x ∈ d.outstanding) : 0 < d.load x.client :=
  List.countP_pos_iff.2 ⟨x, listed, decide_eq_true rfl⟩

namespace Loaded

theorem congr (loaded : d.Loaded) (flights : d'.flights = d.flights) (sends : d'.sends = d.sends)
    (slots : d'.clients.map Peer.Client.inFlight = d.clients.map Peer.Client.inFlight) :
    d'.Loaded := by
  have outstanding : d'.outstanding = d.outstanding := by
    rw [Desk.outstanding, flights, sends, Desk.outstanding]
  refine ⟨?_, ?_⟩
  · intro c client found
    obtain ⟨client', found', same⟩ := getElem?_of_map_eq slots found
    rw [← same, loaded.slots c client' found', load, load, outstanding]
  · intro x listed
    have length := congrArg List.length slots
    rw [List.length_map, List.length_map] at length
    rw [length]
    exact loaded.aboard x (outstanding ▸ listed)

/-- A slot is taken for a delivery that is going to be written. -/
theorem take (loaded : d.Loaded) {client : Peer.Client} (here : d.clients[x.client]? = some client)
    (minted : Nat) :
    Loaded { d.modifyClient x.client Peer.Client.occupy with sends := d.sends ++ [x], minted } := by
  have outstanding : Desk.outstanding { d.modifyClient x.client Peer.Client.occupy with
      sends := d.sends ++ [x]
      minted } = d.outstanding ++ [x] := (List.append_assoc _ _ _).symm
  refine ⟨?_, ?_⟩
  · intro c client' found
    obtain ⟨before, found, same⟩ := getElem?_of_modify found
    rw [load, outstanding, List.countP_append, List.countP_singleton, same]
    have slots := loaded.slots c before found
    rw [load] at slots
    by_cases own : x.client = c
    · simp [own, Peer.Client.occupy, slots]
    · simp [own, slots]
  · intro y listed
    rw [outstanding, List.mem_append, List.mem_singleton] at listed
    change y.client < (d.clients.modify x.client Peer.Client.occupy).length
    rw [List.length_modify]
    rcases listed with before | rfl
    · exact loaded.aboard y before
    · exact (List.getElem?_eq_some_iff.1 here).1

/-- A delivery keeps its slot when it takes off. -/
theorem launch (loaded : Loaded { d with sends := x :: d.sends }) {n : Nat}
    (new : n ∉ d.flights.keys) {f : Peer.Client → Peer.Client}
    (same : ∀ client, (f client).inFlight = client.inFlight) (ledger : Ledger) :
    Loaded { d.modifyClient x.client f with ledger, flights := d.flights.insert n x } := by
  have perm := outstanding_perm_insert (x := x) new
  have slots : (d.clients.modify x.client f).map Peer.Client.inFlight =
      d.clients.map Peer.Client.inFlight := map_modify_of_same same _ _
  have kept : Loaded { d with flights := d.flights.insert n x } := by
    refine ⟨?_, ?_⟩
    · intro c client found
      rw [← load_of_perm perm]
      exact loaded.slots c client found
    · intro y listed
      exact loaded.aboard y (perm.mem_iff.2 listed)
  exact kept.congr rfl rfl slots

/-- A delivery that is concluded gives its slot back, and the slot was in use. -/
theorem conclude (loaded : d.Loaded) (keys : d.flights.keys.Nodup) {n : Nat}
    (found : d.flights.get? n = some x) {f : Peer.Client → Peer.Client}
    (gives : ∀ client, (f client).inFlight = client.inFlight - 1) (ledger : Ledger) :
    Loaded { d.modifyClient x.client f with ledger, flights := d.flights.erase n } := by
  have perm := outstanding_perm_erase keys found
  have before : ∀ c, d.load c =
      load { d with flights := d.flights.erase n } c + if x.client = c then 1 else 0 := by
    intro c
    rw [load, perm.countP_eq, List.countP_cons, load]
    simp
  refine ⟨?_, ?_⟩
  · intro c client' found'
    obtain ⟨client, here, same⟩ := getElem?_of_modify found'
    have slots := loaded.slots c client here
    rw [before c] at slots
    change client'.inFlight = load { d with flights := d.flights.erase n } c
    rw [same]
    by_cases own : x.client = c
    · rw [if_pos own] at slots ⊢
      rw [gives, slots, Nat.add_sub_cancel]
    · rw [if_neg own] at slots ⊢
      rw [slots, Nat.add_zero]
  · intro y listed
    change y.client < (d.clients.modify x.client f).length
    rw [List.length_modify]
    exact loaded.aboard y (perm.mem_iff.2 (List.mem_cons_of_mem _ listed))

/-- A client that is new uses no slot. -/
theorem connect (loaded : d.Loaded) {client : Peer.Client} (free : client.inFlight = 0)
    (sessions : Table String Peer.Session) (ledger : Ledger) (minted : Nat) :
    Loaded { d with clients := d.clients ++ [client], sessions, ledger, minted } := by
  refine ⟨?_, ?_⟩
  · intro c client' found
    rcases getElem?_append_singleton found with before | ⟨rfl, rfl⟩
    · exact loaded.slots c client' before
    · rw [free]
      symm
      refine List.countP_eq_zero.2 ?_
      intro x listed
      have known := loaded.aboard x listed
      simpa using Nat.ne_of_lt known
  · intro x listed
    change x.client < (d.clients ++ [client]).length
    rw [List.length_append]
    exact Nat.lt_add_right _ (loaded.aboard x listed)

end Loaded

namespace Slotted

theorem loaded (slotted : d.Slotted) : d.Loaded := ⟨slotted.slots, slotted.aboard⟩

theorem of_loaded (loaded : d.Loaded) (room : ∀ x ∈ d.sends, ∀ client,
    d.clients[x.client]? = some client → client.inFlight ≤ client.ceiling) : d.Slotted :=
  ⟨loaded.slots, loaded.aboard, room⟩

theorem congr (slotted : d.Slotted) (flights : d'.flights = d.flights) (sends : d'.sends = d.sends)
    (slots : d'.clients.map Peer.Client.inFlight = d.clients.map Peer.Client.inFlight)
    (ceilings : d.sends = [] ∨
      d'.clients.map Peer.Client.ceiling = d.clients.map Peer.Client.ceiling) :
    d'.Slotted := by
  refine .of_loaded (slotted.loaded.congr flights sends slots) ?_
  intro x listed client found
  rw [sends] at listed
  rcases ceilings with nobody | ceilings
  · rw [nobody] at listed
    exact absurd listed List.not_mem_nil
  · obtain ⟨client', found', same⟩ := getElem?_of_map_eq slots found
    obtain ⟨client'', found'', same'⟩ := getElem?_of_map_eq ceilings found
    obtain rfl := Option.some.inj (found'.symm.trans found'')
    rw [← same, ← same']
    exact slotted.room x listed client' found'

/-- A free slot is taken for a delivery that is going to be written. -/
theorem take (slotted : d.Slotted) {client : Peer.Client} (here : d.clients[x.client]? = some client)
    (room : client.inFlight < client.ceiling) (minted : Nat) :
    Slotted { d.modifyClient x.client Peer.Client.occupy with sends := d.sends ++ [x], minted } := by
  refine .of_loaded (slotted.loaded.take here minted) ?_
  intro y listed client' found
  obtain ⟨before, found, same⟩ := getElem?_of_modify found
  rw [same]
  by_cases own : x.client = y.client
  · rw [← own] at found
    obtain rfl := Option.some.inj (here.symm.trans found)
    rw [if_pos own]
    exact room
  · rw [if_neg own]
    rcases List.mem_append.1 listed with earlier | new
    · exact slotted.room y earlier before found
    · exact absurd (List.mem_singleton.1 new ▸ rfl) own

/-- A delivery keeps its slot when it takes off. -/
theorem launch (slotted : Slotted { d with sends := x :: d.sends }) {n : Nat}
    (new : n ∉ d.flights.keys) {f : Peer.Client → Peer.Client}
    (same : ∀ client, (f client).inFlight = client.inFlight ∧ (f client).ceiling = client.ceiling)
    (ledger : Ledger) :
    Slotted { d.modifyClient x.client f with ledger, flights := d.flights.insert n x } := by
  refine .of_loaded (slotted.loaded.launch new (fun client => (same client).1) ledger) ?_
  intro y listed client' found
  obtain ⟨client, here, changed⟩ := getElem?_of_modify found
  have room := slotted.room y (List.mem_cons_of_mem _ listed) client here
  rw [changed]
  split
  · rw [(same client).1, (same client).2]
    exact room
  · exact room

/-- A delivery that is concluded gives its slot back, and the slot was in use. -/
theorem conclude (slotted : d.Slotted) (keys : d.flights.keys.Nodup) {n : Nat}
    (found : d.flights.get? n = some x) {f : Peer.Client → Peer.Client}
    (gives : ∀ client, (f client).inFlight = client.inFlight - 1 ∧
      (f client).ceiling = client.ceiling) (ledger : Ledger) :
    Slotted { d.modifyClient x.client f with ledger, flights := d.flights.erase n } := by
  refine .of_loaded (slotted.loaded.conclude keys found (fun client => (gives client).1) ledger) ?_
  intro y listed client' found'
  obtain ⟨client, here, changed⟩ := getElem?_of_modify found'
  have room := slotted.room y listed client here
  rw [changed]
  split
  · rw [(gives client).1, (gives client).2]
    exact Nat.le_trans (Nat.sub_le _ _) room
  · exact room

/-- A client that is new uses no slot. -/
theorem connect (slotted : d.Slotted) {client : Peer.Client} (free : client.inFlight = 0)
    (sessions : Table String Peer.Session) (ledger : Ledger) (minted : Nat) :
    Slotted { d with clients := d.clients ++ [client], sessions, ledger, minted } := by
  refine .of_loaded (slotted.loaded.connect free sessions ledger minted) ?_
  intro x listed client' found
  rcases getElem?_append_singleton found with before | ⟨late, -⟩
  · exact slotted.room x listed client' before
  · have known := slotted.aboard x (List.mem_append_right _ listed)
    exact absurd late (Nat.ne_of_lt known)

end Slotted

end Desk

end MessageBroker
