import MessageBroker.Proofs.Broker.Provenance
import MessageBroker.Proofs.Broker.Turnover

/-!
# What is stored stays sound

Whatever happens to a broker, messages come to its store one at a time and under their own ids, and
leave it one at a time. So a store that has every message once and under its own id when the broker
begins has them so through its whole life.
-/

namespace MessageBroker

namespace Broker

variable {b start : Broker} {life : List Episode}

/-- The store of a broker has every message once, under its own id. -/
def WellStored (b : Broker) : Prop :=
  b.depot.messages.Sound

/-- An episode leaves a sound store sound, unless it makes it another. -/
theorem WellStored.live (sound : b.WellStored) {e : Episode} (kept : ∀ depot, e ≠ .store depot) :
    (b.live e).WellStored :=
  (b.turnover_live kept).sound sound

theorem WellStored.recover (sound : b.WellStored) : b.recover.2.WellStored :=
  sound.live (e := .stir (.move .recover)) nofun

/-- A store in memory that was sound when a broker began with it is sound through its life. -/
theorem wellStored_through {settings : Settings.Engine} {mint : Nat → CorrelationId} {calendar : Nat}
    {messages : Store.Messages} (sound : messages.Sound)
    (started : Broker.new? settings mint calendar (.holding messages) = some start)
    (spares : ∀ e ∈ life, e.sparesStore = true) : (start.through life).WellStored := by
  induction life using List.reverseRecOn with
  | nil =>
      unfold new? at started
      split at started
      · obtain ⟨buffers, -, rfl⟩ := Option.map_eq_some_iff.1 started
        exact sound
      · cases started
  | append_singleton life e ih =>
      obtain ⟨before, spared⟩ := List.forall_mem_append.1 spares
      rw [List.forall_mem_singleton] at spared
      rw [through_concat]
      refine (ih before).live ?_
      rintro depot rfl
      cases spared

end Broker

end MessageBroker
