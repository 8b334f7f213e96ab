import CredentialSync.Proofs.Mirror.Overheard

/-!
# Bridges that are replaced

A device is `Linked` if it is in order and the relay of its bridge is registered just once. It stays so
when it is told of a batch (`Linked.told`), and when the bridge is replaced: the new relay has an
identity that no observer had before, and the old one is released (`Connectable.connect`).

A new bridge tells the processor of the metadata, or why it cannot be read, and of no change
(`connect_eq`).
-/

namespace CredentialSync

open Attempt

/-! ## 1. Observers -/

namespace Notifier

variable {n : Notifier}

/-- A new observer is registered, and another one may be released. -/
def replace (n : Notifier) (old : Option ObserverId) : Notifier :=
  match old with
  | none => n.observer.2.register n.observer.1
  | some o => (n.observer.2.register n.observer.1).release o

theorem registered_replace (n : Notifier) (old : Option ObserverId) :
    (n.replace old).registered = n.registered ++ [n.nextId] ∧
      (n.replace old).nextId = n.nextId + 1 := by
  cases old <;> exact ⟨rfl, rfl⟩

theorem Known.replace (h : n.Known) (old : Option ObserverId) : (n.replace old).Known := by
  obtain ⟨hregistered, hnext⟩ := n.registered_replace old
  intro o ho
  rw [hregistered, List.mem_append, List.mem_singleton] at ho
  rw [hnext]
  rcases ho with ho | rfl
  · exact Nat.lt_succ_of_lt (h o ho)
  · exact Nat.lt_succ_self _

/-- **The new observer is registered once.** -/
theorem Known.count_replace (h : n.Known) {old : Option ObserverId}
    (hold : ∀ o, old = some o → o < n.nextId) : (n.replace old).live.count n.nextId = 1 := by
  have halive : n.nextId ∈ (n.replace old).alive := by
    have hmem : n.nextId ∈ n.alive ++ [n.nextId] :=
      List.mem_append_right _ (List.mem_singleton.2 rfl)
    cases old with
    | none => exact hmem
    | some o => exact List.mem_filter.2 ⟨hmem, bne_iff_ne.2 (Nat.ne_of_gt (hold o rfl))⟩
  have hfresh : n.nextId ∉ n.registered := fun hmem => Nat.lt_irrefl _ (h _ hmem)
  rw [live, List.count_filter (List.contains_iff_mem.2 halive), (n.registered_replace old).1, List.count_append,
    List.count_eq_zero_of_not_mem hfresh, List.count_singleton_self]

end Notifier

/-- The call is what a processor is told when a bridge is made: the metadata, or why it cannot be read. -/
def ProcessorCall.Greets : ProcessorCall → Prop
  | .ready _ => True
  | .report _ => True
  | _ => False

variable {π : Type} [Processor π]

namespace Device

/-! ## 2. Making a bridge -/

/-- The processor is greeted, and nothing else happens. -/
theorem start_eq (d : Device π) :
    ∃ c : ProcessorCall, c.Greets ∧ d.start = { d with processor := (c.deliver d.processor).2 } := by
  unfold start
  rw [onStore_perform, Store.reads_readMetadata d.store]
  rcases (Store.readMetadata.perform d.store).1 with e | metadata
  · exact ⟨.report e, trivial, rfl⟩
  · exact ⟨.ready metadata, trivial, rfl⟩

/-- **What making a bridge does.** The processor is greeted, and the relay of the bridge is a new
    observer in place of the former one. -/
theorem connect_eq (placeholder : String) (d : Device π) :
    ∃ c : ProcessorCall, c.Greets ∧ d.connect placeholder =
      { d with processor := (c.deliver d.processor).2
               notifier := d.notifier.replace (d.bridge.map (·.relay))
               bridge := some { relay := d.notifier.nextId, placeholder } } := by
  obtain ⟨c, hc, hstart⟩ :=
    start_eq { d with notifier := d.notifier.observer.2.register d.notifier.observer.1 }
  refine ⟨c, hc, ?_⟩
  unfold connect
  simp only
  rw [hstart]
  unfold disconnect
  cases hb : d.bridge <;> rfl

/-- A bridge can be made: the device is in order and its processor tracks. -/
structure Connectable (replacing : Bool) (d : Device π) : Prop where
  quiet : d.store.Quiet
  replaces : d.store.replaces = replacing
  sound : d.store.Sound
  closed : d.store.saved = none
  pending : d.pending = {}
  tracking : Processor.isTracking d.processor = true
  known : d.notifier.Known
  former : ∀ b, d.bridge = some b → b.relay < d.notifier.nextId

/-- The device is in order, and the relay of its bridge is registered once. -/
structure Linked (hattentive : Processor.Attentive π) (replacing : Bool) (d : Device π) : Prop where
  known : d.notifier.Known
  relay : ∃ relay, d.Ready (hattentive.setting relay replacing) ∧ d.notifier.live.count relay = 1

variable {hattentive : Processor.Attentive π} {replacing : Bool} {d : Device π}

/-- The bridge of a linked device can be replaced. -/
theorem Linked.connectable (h : d.Linked hattentive replacing) : d.Connectable replacing := by
  obtain ⟨relay, hready, -⟩ := h.relay
  refine ⟨hready.quiet, hready.replaces, hready.sound, hready.closed, hready.pending,
    hready.processor, h.known, fun b hb => ?_⟩
  have hrelay := hready.relay
  rw [hb, Option.any_some, beq_iff_eq] at hrelay
  rw [hrelay]
  exact h.known _ (List.mem_filter.1 hready.live).1

/-- **A new bridge links the device.** -/
theorem Connectable.connect (hattentive : Processor.Attentive π) (h : d.Connectable replacing)
    (placeholder : String) : (d.connect placeholder).Linked hattentive replacing := by
  obtain ⟨c, -, hconnect⟩ := connect_eq placeholder d
  have hformer : ∀ o, d.bridge.map (·.relay) = some o → o < d.notifier.nextId := by
    intro o ho
    obtain ⟨b, hb, rfl⟩ := Option.map_eq_some_iff.1 ho
    exact h.former b hb
  have honce := h.known.count_replace hformer
  have hmem : d.notifier.nextId ∈ (d.notifier.replace (d.bridge.map (·.relay))).live :=
    List.count_pos_iff.1 (honce ▸ Nat.one_pos)
  rw [hconnect]
  refine ⟨h.known.replace _, d.notifier.nextId, ⟨?_, h.closed⟩, honce⟩
  exact ⟨h.quiet, h.replaces, h.sound, h.pending, hattentive c _ h.tracking, beq_self_eq_true _, hmem⟩

/-- A bridge can be made when the former one is gone, also for another processor. -/
theorem Connectable.disconnect (h : d.Connectable replacing) {p : π}
    (hp : Processor.isTracking p = true) :
    Connectable replacing { d.disconnect with processor := p } := by
  unfold Device.disconnect
  cases hb : d.bridge with
  | none =>
    exact ⟨h.quiet, h.replaces, h.sound, h.closed, h.pending, hp, h.known,
      fun b hb' => h.former b hb'⟩
  | some b => exact ⟨h.quiet, h.replaces, h.sound, h.closed, h.pending, hp, h.known, nofun⟩

/-- **A linked device that is told of a batch of its own stays linked.** -/
theorem Linked.told (h : d.Linked hattentive replacing) (cs : List LocalChange) :
    (d.told .device cs).Linked hattentive replacing := by
  obtain ⟨relay, hready, honce⟩ := h.relay
  have hready' := hready.told .device cs
  unfold Device.told at hready' ⊢
  split
  · exact h
  · next hsome =>
    rw [if_neg hsome] at hready'
    have hnotifier := (notify_spec ⟨.device, cs⟩ d).2
    refine ⟨?_, relay, hready', ?_⟩
    · rw [hnotifier]
      exact h.known.prune
    · rw [hnotifier]
      exact (congrArg (List.count relay) (Notifier.live_prune d.notifier)).trans honce

end Device

end CredentialSync
