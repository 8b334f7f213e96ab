import CredentialSync.Proofs.Bridge.Events
import CredentialSync.Proofs.Tracking.Tracks

/-!
# What a recorder asks for

A recorder that is not quiet answers each call with the same changes to the metadata whatever it was
told before (`ProcessorCall.answer`), so what some events ask for is known (`Work.Event.asks`).

`Follows` says that the metadata keeps tracking the records over some events.
-/

namespace CredentialSync

/-- The answer to a call of a recorder that is not quiet. -/
def ProcessorCall.answer : ProcessorCall → List MetadataWrite
  | .put key e => [.set key { tagHash := e.tagHash, sequenceNumber := 1 }]
  | .delete key => [.clear key]
  | .assignKey key e => [.set key (.ofRemote e)]
  | .ready _ => []
  | .report _ => []

namespace Recorder

/-- The recorder is interested in local changes and answers what it is told. -/
structure Loud (r : Recorder) : Prop where
  tracking : r.tracking = true
  answers : r.quiet = false

variable {r : Recorder}

theorem Loud.deliver (h : r.Loud) (c : ProcessorCall) :
    (c.deliver r).1 = c.answer ∧ (c.deliver r).2.Loud := by
  obtain ⟨tracking, quiet, calls⟩ := r
  obtain ⟨rfl, rfl⟩ := h
  cases c <;> exact ⟨rfl, rfl, rfl⟩

end Recorder

namespace Work.Event

/-- What an event asks for, if the processor is a recorder that is not quiet. -/
def asks : Event → List MetadataWrite
  | .write ws => ws
  | .call c => c.answer

/-- **A recorder that is not quiet asks for the answers to what it is told.** -/
theorem hear_of_loud {r : Recorder} (h : r.Loud) (es : List Event) (ws : List MetadataWrite) :
    (es.foldl hear (r, ws)).1.Loud ∧ (es.foldl hear (r, ws)).2 = ws ++ es.flatMap asks := by
  induction es generalizing r ws with
  | nil => exact ⟨h, (List.append_nil ws).symm⟩
  | cons e es ih =>
    rw [List.foldl_cons, List.flatMap_cons, ← List.append_assoc]
    cases e with
    | write vs => exact ih h (ws ++ vs)
    | call c =>
      obtain ⟨hanswer, hloud⟩ := h.deliver c
      have hhear : hear (r, ws) (.call c) = ((c.deliver r).2, ws ++ c.answer) := by
        rw [hear, hanswer]
      rw [hhear]
      exact ih hloud (ws ++ c.answer)

end Work.Event

/-- Over some events, metadata that tracks the records goes on tracking them. -/
def Follows (v : Vault) (es : List Work.Event) (v' : Vault) : Prop :=
  ∀ m : StoredMetadata, m.Complete → Tracks m v →
    Tracks ((es.flatMap Work.Event.asks).foldl StoredMetadata.apply m) v'

namespace Follows

variable {v v' v'' : Vault} {es fs : List Work.Event}

theorem refl (v : Vault) : Follows v [] v := fun _ _ h => h

theorem trans (h : Follows v es v') (h' : Follows v' fs v'') : Follows v (es ++ fs) v'' :=
  fun m hm ht => by
    rw [List.flatMap_append, List.foldl_append]
    exact h' _ (StoredMetadata.complete_foldl hm _) (h m hm ht)

/-- Events that mirror reported changes. -/
theorem of_steps {cs : List LocalChange} (hs : Vault.Steps v cs v')
    (hes : List.Forall₂ Mirrors cs (es.flatMap Work.Event.asks)) : Follows v es v' :=
  fun _ hm ht => (ht.lags cs).steps hs hes hm

/-- A record that is overwritten in place. -/
theorem put {key : PrimaryKey} {old r : Record} (hold : v.records.get? key = some old)
    (hn : old.naturalKey = r.naturalKey) : Follows v [] (v.put key r) :=
  fun _ _ ht => ht.put hold hn

end Follows

end CredentialSync
