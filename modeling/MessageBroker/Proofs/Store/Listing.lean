import MessageBroker.Proofs.Table
import MessageBroker.Store.Depot

/-!
# What a store lists

In a store every message is entered once and under its own id. So the oldest messages are listed
without repetition, in the order of their times and, at one time, of their ids; and what the list
leaves out is younger than all that is on it.
-/

namespace MessageBroker.Store

namespace Messages

/-- Every message is entered once, under its own id. -/
structure Sound (s : Messages) : Prop where
  once : s.byId.keys.Nodup
  named : ∀ id m, s.get? id = some m → m.id = id

theorem sound_empty : Sound .empty :=
  ⟨List.nodup_nil, nofun⟩

namespace Sound

variable {s : Messages}

theorem enter (sound : s.Sound) (m : Message) : Sound ⟨s.byId.insert m.id m⟩ := by
  refine ⟨Table.nodup_keys_insert sound.once m.id m, fun id p found => ?_⟩
  rw [get?, Table.get?_insert] at found
  split at found
  · rename_i same
    rw [same, ← Option.some.inj found]
  · exact sound.named id p found

theorem remove (sound : s.Sound) (id : CorrelationId) : Sound ⟨s.byId.erase id⟩ := by
  refine ⟨Table.nodup_keys_erase sound.once id, fun j p found => ?_⟩
  rw [get?, Table.get?_erase] at found
  split at found
  · cases found
  · exact sound.named j p found

theorem add (sound : s.Sound) {m : Message} {s' : Messages} (added : s.add m = .ok s') :
    s'.Sound := by
  rw [Messages.add] at added
  split at added
  · cases added
  · cases added
    exact sound.enter m

/-- The ids of the messages are the keys of the table. -/
theorem ids (sound : s.Sound) : s.byId.values.map Message.id = s.byId.keys := by
  rw [Table.values, Table.keys, List.map_map]
  refine List.map_congr_left fun entry listed => ?_
  exact sound.named entry.1 entry.2 ((Table.mem_entries sound.once).1 listed)

end Sound

/-- The message under one id is older than that under another. -/
def Precedes (s : Messages) (a b : CorrelationId) : Prop :=
  ∃ p q, s.get? a = some p ∧ s.get? b = some q ∧
    (p.timestamp < q.timestamp ∨ p.timestamp = q.timestamp ∧ a.toNat < b.toNat)

/-- Some ids are those of the oldest messages, in their order. -/
structure Heads (s : Messages) (ids : List CorrelationId) : Prop where
  stored : ∀ id ∈ ids, s.get? id ≠ none
  sorted : ids.Pairwise s.Precedes
  first : ∀ id ∈ ids, ∀ other, s.get? other ≠ none → other ∉ ids → s.Precedes id other

variable {s : Messages}

theorem Precedes.ne {a b : CorrelationId} (before : s.Precedes a b) : a ≠ b := by
  rintro rfl
  obtain ⟨p, q, found, found', earlier⟩ := before
  obtain rfl := Option.some.inj (found.symm.trans found')
  omega

theorem Heads.nodup {ids : List CorrelationId} (heads : s.Heads ids) : ids.Nodup :=
  heads.sorted.imp Precedes.ne

theorem older_trans (a b c : Message) (first : older a b = true) (second : older b c = true) :
    older a c = true := by
  simp only [older, CorrelationId.le, Bool.or_eq_true, Bool.and_eq_true, decide_eq_true_eq,
    beq_iff_eq] at *
  omega

theorem older_total (a b : Message) : (older a b || older b a) = true := by
  simp only [older, CorrelationId.le, Bool.or_eq_true, Bool.and_eq_true, decide_eq_true_eq,
    beq_iff_eq]
  omega

/-- All ids, the oldest first. -/
def listing (s : Messages) : List CorrelationId :=
  (s.byId.values.mergeSort older).map Message.id

theorem oldest_eq (s : Messages) (limit : Nat) : s.oldest limit = s.listing.take limit := rfl

theorem perm_listing (sound : s.Sound) : s.listing.Perm s.byId.keys := by
  rw [← sound.ids]
  exact (List.mergeSort_perm _ _).map _

theorem mem_listing (sound : s.Sound) {id : CorrelationId} :
    id ∈ s.listing ↔ s.get? id ≠ none := by
  rw [(perm_listing sound).mem_iff, Table.mem_keys, Option.ne_none_iff_exists']
  rfl

theorem length_listing (s : Messages) : s.listing.length = s.size := by
  simp [listing, Table.values, size, Table.size]

/-- The listing of a store is in order. -/
theorem listing_sorted (sound : s.Sound) : s.listing.Pairwise s.Precedes := by
  have order := List.pairwise_mergeSort older_trans older_total s.byId.values
  have once : ((s.byId.values.mergeSort older).map Message.id).Nodup :=
    (perm_listing sound).nodup_iff.2 sound.once
  rw [listing, List.pairwise_map]
  refine (order.and (List.pairwise_map.1 once)).imp_of_mem ?_
  intro p q listed listed' ⟨before, apart⟩
  have found : ∀ m ∈ s.byId.values.mergeSort older, s.get? m.id = some m := by
    intro m listed
    obtain ⟨id, found⟩ := (Table.mem_values sound.once).1 (List.mem_mergeSort.1 listed)
    rw [sound.named id m found]
    exact found
  refine ⟨p, q, found p listed, found q listed', ?_⟩
  have distinct : p.id.toNat ≠ q.id.toNat := fun same => apart (CorrelationId.toNat_inj.1 same)
  simp only [older, CorrelationId.le, Bool.or_eq_true, Bool.and_eq_true, decide_eq_true_eq,
    beq_iff_eq] at before
  omega

theorem length_oldest (s : Messages) (limit : Nat) :
    (s.oldest limit).length = min limit s.size := by
  rw [oldest_eq, List.length_take, length_listing]

/-- The oldest messages are listed, in their order. -/
theorem oldest_heads (sound : s.Sound) (limit : Nat) : s.Heads (s.oldest limit) := by
  have sorted := listing_sorted sound
  have whole : s.oldest limit ++ s.listing.drop limit = s.listing := List.take_append_drop _ _
  rw [← whole, List.pairwise_append] at sorted
  obtain ⟨sorted, -, across⟩ := sorted
  refine ⟨fun id listed => ?_, sorted, fun id listed other stored unlisted => ?_⟩
  · rw [← mem_listing sound, ← whole]
    exact List.mem_append_left _ listed
  · rw [← mem_listing sound, ← whole, List.mem_append] at stored
    exact across id listed other (stored.resolve_left unlisted)

/-- A list that is long enough has all messages on it. -/
theorem mem_oldest_of_le (sound : s.Sound) {limit : Nat} (enough : s.size ≤ limit)
    {id : CorrelationId} : id ∈ s.oldest limit ↔ s.get? id ≠ none := by
  rw [oldest_eq, List.take_of_length_le (s.length_listing ▸ enough), mem_listing sound]

end Messages

end MessageBroker.Store
