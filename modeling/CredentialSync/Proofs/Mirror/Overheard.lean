import CredentialSync.Proofs.Bridge.Commit
import CredentialSync.Proofs.Bridge.Runs

/-!
# What processors are told

A bridge can be replaced, and with it the processor. `Overheard` is a processor together with a list of
everything that it and its predecessors were told, so that a whole run can be looked at.

On a ready device a processor that goes on tracking is told of every change of a committed batch, in
order, as often as the relay of the bridge is registered (`Ready.told_heard`).
-/

namespace CredentialSync

open Attempt

/-- The processor keeps tracking, whatever it is told. -/
def Processor.Attentive (π : Type) [Processor π] : Prop :=
  ∀ (c : ProcessorCall) (p : π), isTracking p = true → isTracking (c.deliver p).2 = true

theorem Recorder.attentive : Processor.Attentive Recorder := fun c _ h => by
  cases c <;> exact h

/-- A processor, and everything that it and its predecessors were told. -/
structure Overheard (π : Type) where
  processor : π
  heard : List ProcessorCall := []

variable {π : Type} [Processor π]

namespace Overheard

/-- The processor answers, and what it was told is noted. -/
def note (o : Overheard π) (c : ProcessorCall) : List MetadataWrite × Overheard π :=
  ((c.deliver o.processor).1, ⟨(c.deliver o.processor).2, o.heard ++ [c]⟩)

instance : Processor (Overheard π) where
  isTracking o := Processor.isTracking o.processor
  put key e o := o.note (.put key e)
  delete key o := o.note (.delete key)
  assignKey e key o := o.note (.assignKey key e)
  ready b o := (o.note (.ready b)).2
  report e o := (o.note (.report e)).2

/-- What is delivered is answered by the processor and noted. -/
theorem deliver_eq (c : ProcessorCall) (o : Overheard π) : c.deliver o = o.note c := by
  cases c <;> rfl

/-- The processor notices nothing. -/
theorem hearAll_processor (cs : List ProcessorCall) (o : Overheard π) :
    (ProcessorCall.hearAll cs o).processor = ProcessorCall.hearAll cs o.processor := by
  induction cs generalizing o with
  | nil => rfl
  | cons c cs ih =>
    rw [ProcessorCall.hearAll, List.foldl_cons, deliver_eq]
    exact ih (o.note c).2

/-- Everything is noted, in order. -/
theorem hearAll_heard (cs : List ProcessorCall) (o : Overheard π) :
    (ProcessorCall.hearAll cs o).heard = o.heard ++ cs := by
  induction cs generalizing o with
  | nil => exact (List.append_nil _).symm
  | cons c cs ih =>
    have hrest : (ProcessorCall.hearAll cs (o.note c).2).heard = (o.heard ++ [c]) ++ cs :=
      ih (o.note c).2
    rw [ProcessorCall.hearAll, List.foldl_cons, deliver_eq, ← ProcessorCall.hearAll, hrest,
      List.append_assoc]
    rfl

theorem attentive (h : Processor.Attentive π) : Processor.Attentive (Overheard π) := by
  intro c o ho
  rw [deliver_eq]
  exact h c o.processor ho

end Overheard

/-- What stays the same of a device whose processor keeps tracking. -/
def Processor.Attentive.setting (h : Processor.Attentive π) (relay : ObserverId) (replacing : Bool) :
    Setting π where
  Holds p := Processor.isTracking p = true
  keeps := h
  relay := relay
  replacing := replacing

namespace Device

section Ready

variable {f : Setting π} {d : Device π}

/-- An observer is the relay of the bridge, or it is not. -/
theorem Fit.isRelay (h : d.Fit f) (o : ObserverId) :
    d.bridge.any (·.relay == o) = (f.relay == o) := by
  have hrelay := h.relay
  cases hb : d.bridge with
  | none =>
    rw [hb] at hrelay
    cases hrelay
  | some b =>
    rw [hb] at hrelay
    rw [Option.any_some, show b.relay = f.relay from eq_of_beq hrelay]

/-- The relay tells a processor that tracks of all changes of a batch. -/
theorem Ready.relay_tells (h : d.Ready f) {batch : ChangeBatch} (hlocal : batch.isLocal = true)
    (htracking : Processor.isTracking d.processor = true) :
    (d.relay batch).processor =
      ProcessorCall.hearAll (batch.changes.map LocalChange.call) d.processor := by
  obtain ⟨d', hforward, -, -, -, asked, hheard, -⟩ := forward_ok h batch
  have hprocessor := congrArg Prod.fst hheard
  rw [Work.Event.processor_hear, announcements, List.filterMap_map] at hprocessor
  rw [relay_of_local hlocal htracking hforward, ← List.filterMap_eq_map']
  exact hprocessor

end Ready

section Told

variable {hattentive : Processor.Attentive (Overheard π)} {relay : ObserverId} {replacing : Bool}
  {d : Device (Overheard π)}

/-- Of the observers that are called, each registration of the relay hears all changes. -/
theorem Ready.foldl_heard (h : d.Ready (hattentive.setting relay replacing))
    {batch : ChangeBatch} (hlocal : batch.isLocal = true) (os : List ObserverId) :
    (os.foldl (Device.callObserver batch) d).processor.heard = d.processor.heard ++
      (List.replicate (os.count relay) (batch.changes.map LocalChange.call)).flatten := by
  induction os generalizing d with
  | nil => exact (List.append_nil _).symm
  | cons o os ih =>
    have hrelay : d.bridge.any (·.relay == o) = (relay == o) := h.isRelay o
    rw [List.foldl_cons, ih (h.callObserver batch o), List.count_cons, Device.callObserver, hrelay]
    by_cases ho : relay = o
    · subst ho
      rw [beq_self_eq_true, if_pos rfl, if_pos rfl, h.relay_tells hlocal h.processor,
        Overheard.hearAll_heard, List.replicate_succ, List.flatten_cons, List.append_assoc]
    · rw [beq_eq_false_iff_ne.2 ho, beq_eq_false_iff_ne.2 (Ne.symm ho), if_neg Bool.false_ne_true,
        if_neg Bool.false_ne_true]
      rfl

/-- **Everyone is told of a batch of this device.** The processor hears all its changes in order, once
    for each live registration of the relay. -/
theorem Ready.told_heard (h : d.Ready (hattentive.setting relay replacing))
    (cs : List LocalChange) :
    (d.told .device cs).processor.heard = d.processor.heard ++
      (List.replicate (d.notifier.live.count relay) (cs.map LocalChange.call)).flatten := by
  unfold Device.told
  split
  · next hempty =>
    rw [List.isEmpty_iff.1 hempty, List.map_nil]
    simp
  · rw [notify_eq]
    have hpruned : Ready (hattentive.setting relay replacing)
        { d with notifier := d.notifier.prune } := h.setNotifier (Notifier.live_prune _)
    exact hpruned.foldl_heard rfl d.notifier.live

end Told

end Device

end CredentialSync
