import CredentialSync.Proofs.Bridge.Commit
import CredentialSync.Proofs.Store.Throughout

/-!
# What a device keeps

A device `Device.Holds` a property of its store and one of its processor. If all operations of a store keep
the first, and the second does not depend on what the relay says, then the device goes on holding them:
whether a batch is relayed or skipped, committed or given up, and whatever a write does, writes within writes
and transactions that it ends itself included (`Holds.write`).

Work within a transaction keeps the property of the store as well (`Made.stable`). What it tells the processor
is another matter.
-/

namespace CredentialSync

open Attempt

/-- Changes of this device assign no keys. -/
theorem LocalChange.assigned?_call (c : LocalChange) : c.call.assigned? = none := by
  unfold call
  cases c.kind <;> rfl

variable {π : Type} [Processor π] {α β : Type} {Q : Store → Prop} {R : π → Prop}

/-! ## 1. Work -/

namespace Work

omit [Processor π] in
theorem stable_writes (hQ : Store.Stable Q) (ws : List MetadataWrite) {s : Scope π} (h : Q s.store) :
    Q (ws.foldl writeOne s).store :=
  keeps_writes (fun _ _ hs => hQ.writeMetadata hs rfl) ws h

/-- **Work made of the steps of a batch keeps what all operations of a store keep.** -/
theorem Made.stable {w : Work π α} (hw : Made w) (hQ : Store.Stable Q) {s : Scope π} (h : Q s.store) :
    Q (w.perform s).2.store := by
  induction hw generalizing s with
  | reads hreads => exact (hreads s).symm ▸ h
  | change e =>
    rw [perform_change]
    exact hQ.edit h rfl
  | write ws => exact stable_writes hQ ws h
  | writePending => exact stable_writes hQ s.pending.writes (s := { s with pending := {} }) h
  | tell c =>
    exact stable_writes hQ _ (s := { s with processor := (c.deliver s.processor).2 }) h
  | @bind _ _ w _ _ _ ihw ihf =>
    have hfirst := ihw h
    rw [perform_bind]
    rcases hres : w.perform s with ⟨_ | a, t⟩ <;> rw [hres] at hfirst
    · exact hfirst
    · exact ihf a hfirst

end Work

/-! ## 2. Devices -/

/-- What a processor goes on being, unless a remote entity receives a storage key. -/
def Processor.Unmoved (R : π → Prop) : Prop :=
  ∀ (c : ProcessorCall) (p : π), c.assigned? = none → R p → R (c.deliver p).2

theorem Processor.Unmoved.hearAll (hR : Processor.Unmoved R) {cs : List ProcessorCall}
    (hcs : ∀ c ∈ cs, c.assigned? = none) {p : π} (h : R p) : R (ProcessorCall.hearAll cs p) := by
  induction cs generalizing p with
  | nil => exact h
  | cons c cs ih =>
    exact ih (fun c' hc' => hcs c' (List.mem_cons_of_mem _ hc')) (hR c p (hcs c List.mem_cons_self) h)

namespace Device

variable {d : Device π}

/-- The property of the store and that of the processor. -/
structure Holds (Q : Store → Prop) (R : π → Prop) (d : Device π) : Prop where
  store : Q d.store
  processor : R d.processor

/-- Forwarding keeps what all operations of a store keep, however it ends. -/
theorem Forwarded.stable {batch : ChangeBatch} {d' : Device π} {res : Except SyncError Unit}
    (h : Forwarded batch d res d') (hQ : Store.Stable Q) (hd : Q d.store) : Q d'.store := by
  have hannounced {s : Store} (hbegin : Store.begin.perform d.store = (.ok (), s)) :
      Q ((d.withStore s).announced batch).store :=
    (made_announce batch.changes).stable hQ (s := (d.withStore s).scope) (hQ.begin hd hbegin)
  cases h with
  | refused => exact hd
  | undone hbegin => exact hQ.rollback (hannounced hbegin) rfl
  | stranded hbegin => exact hannounced hbegin
  | done hbegin _ hcommit hstore => exact hstore ▸ hQ.commit (hannounced hbegin) hcommit

namespace Holds

omit [Processor π] in
theorem abandon (hQ : Store.Stable Q) (h : d.Holds Q R) (batcher : Batcher) :
    (d.abandon batcher).Holds Q R := by
  have hback : Q (Store.rollback.perform d.store).2 := hQ.rollback h.store rfl
  cases batcher <;> exact ⟨hback, h.processor⟩

variable (hQ : Store.Stable Q) (hR : Processor.Unmoved R)
include hQ hR

theorem relay (h : d.Holds Q R) (batch : ChangeBatch) : (d.relay batch).Holds Q R := by
  constructor
  · by_cases hforwarded : batch.isLocal = true ∧ Processor.isTracking d.processor = true
    · rw [(relay_forwarded hforwarded).1]
      exact (forwarded batch d).stable hQ h.store
    · rw [(relay_skipped hforwarded).1]
      exact h.store
  · obtain ⟨cs, hcs, hprocessor⟩ := relay_tells batch d
    rw [hprocessor]
    refine hR.hearAll (fun c hc => ?_) h.processor
    rcases List.mem_append.1 hc with hc | hc
    · rcases hcs with rfl | rfl
      · cases hc
      · obtain ⟨change, -, rfl⟩ := List.mem_map.1 hc
        exact change.assigned?_call
    · obtain ⟨e, -, rfl⟩ := Option.map_eq_some_iff.1 (Option.mem_toList.1 hc)
      rfl

theorem told (h : d.Holds Q R) (side : Side) (cs : List LocalChange) : (d.told side cs).Holds Q R := by
  unfold Device.told
  split
  · exact h
  · exact notify_keeps (fun _ _ hd => ⟨hd.store, hd.processor⟩) (fun _ hd => hd.relay hQ hR _) h

/-- **A batch keeps what its body keeps.** -/
theorem batch (h : d.Holds Q R) (batcher : Batcher) (side : Side)
    {body : Device π → Draft β × Device π} (hbody : ∀ d, d.Holds Q R → (body d).2.Holds Q R) :
    (d.batch batcher side body).2.Holds Q R := by
  have hbegun {s : Store} (hbegin : Store.begin.perform d.store = (.ok (), s)) :
      (body (d.withStore s)).2.Holds Q R := hbody _ ⟨hQ.begin h.store hbegin, h.processor⟩
  have hbatched := batched batcher side body d
  generalize hx : d.batch batcher side body = x at hbatched ⊢
  obtain ⟨outcome, d'⟩ := x
  cases hbatched with
  | refused => exact h
  | abandoned hbegin => exact abandon hQ (hbegun hbegin) batcher
  | @committed s t hbegin _ hcommit =>
    refine told hQ hR ?_ side _
    have hkept := hbegun hbegin
    have hcommitted := hQ.commit hkept.store hcommit
    cases batcher <;> exact ⟨hcommitted, hkept.processor⟩

/-- **Whatever a write does, the device holds what it did.** -/
theorem write {w : Write β} (h : d.Holds Q R) (cs : List LocalChange) : (w.run cs d).2.Holds Q R := by
  induction w generalizing cs d with
  | done value failure => exact h
  | edit e next ih =>
    have hstore : Q (e.attempt.perform d.store).2 := hQ.edit h.store rfl
    exact ih _ (d := d.withStore _) ⟨hstore, h.processor⟩ _
  | record? key next ih =>
    rw [Write.run, Write.onStore_of_reads (Store.reads_record? key)]
    exact ih _ h cs
  | find? key next ih =>
    rw [Write.run, Write.onStore_of_reads (Store.reads_find? key)]
    exact ih _ h cs
  | readAll next ih =>
    rw [Write.run, Write.onStore_of_reads Store.reads_readAll]
    exact ih _ h cs
  | changes next ih => exact ih cs h cs
  | writeMetadata m next ih =>
    have hstore : Q ((Store.writeMetadata m).perform d.store).2 := hQ.writeMetadata h.store rfl
    exact ih _ (d := d.withStore _) ⟨hstore, h.processor⟩ cs
  | rollback next ih =>
    have hstore : Q (Store.rollback.perform d.store).2 := hQ.rollback h.store rfl
    exact ih _ (d := d.withStore _) ⟨hstore, h.processor⟩ cs
  | commit next ih =>
    have hstore : Q (Store.commit.perform d.store).2 := hQ.commit h.store rfl
    exact ih _ (d := d.withStore _) ⟨hstore, h.processor⟩ cs
  | nested inner next ihInner ihNext =>
    exact ihNext _ (h.batch hQ hR .bridge .device fun _ hd => ihInner hd []) cs

end Holds

end Device

end CredentialSync
