import CredentialSync.Proofs.Bridge.Batch

/-!
# Calls

A `Call` is what a user of the bridge asks for within one transaction: to merge, to apply, to forget
the metadata, or to write. A call is meant to be all or nothing.

* `fails_restored_iff`: a failed call leaves no trace exactly if it is contained. Remote calls always
  are. A write is not if it goes on after a failed edit has ended its transaction, and then changes
  records.
* `succeeds_metadata`: a remote call that succeeds has written all metadata that it asked for.
-/

namespace CredentialSync

open Attempt Device

/-- What is asked for within one transaction. -/
inductive Call (β : Type) where
  | merge (changes : List RemoteChange)
  | apply (changes : List RemoteChange)
  /-- Ends synchronisation and forgets the metadata. -/
  | forget
  | write (w : Write β)

variable {π : Type} [Processor π] {α β : Type}

/-- Whether a batch was committed, or why not. -/
def Device.BatchOutcome.ending : BatchOutcome β → Except SyncError Unit
  | .refused e => .error e
  | .abandoned _ e => .error e
  | .committed _ _ => .ok ()

namespace Call

/-- Carries a call out. -/
def run : Call β → Device π → Except SyncError Unit × Device π
  | .merge changes, d => ((fun _ => ()) <$> Device.merge changes).perform d
  | .apply changes, d => ((fun _ => ()) <$> Device.apply changes).perform d
  | .forget, d => (Device.stopSync true).perform d
  | .write w, d => ((d.write w).1.ending, (d.write w).2)

/-- Writes of the call, if it is one, only change and look at records. -/
def Plain : Call β → Prop
  | .write w => w.Plain
  | _ => True

/-- A write that goes on until its transaction has ended changes nothing behind the end. -/
def Contained (d : Device π) : Call β → Prop
  | .write w => Device.Contained (w.run []) d
  | _ => True

/-- The changes to the metadata that a call asks for within its transaction. -/
def asked (d : Device π) : Call β → List MetadataWrite
  | .merge changes => ((Merge.work changes).perform d.begun.scope).2.asked
  | .apply changes => ((Apply.work changes).perform d.begun.scope).2.asked
  | .forget => (Device.forgetMetadata.perform d.begun.scope).2.asked
  | .write _ => []

end Call

/-! ## 1. How the calls end -/

namespace Device

theorem merge_perform (changes : List RemoteChange) (d : Device π) :
    (merge changes).perform d =
      match (d.batch .bridge .remote (body (Merge.work changes))).1.result with
      | .error e => (.error e,
          (d.batch .bridge .remote (body (Merge.work changes))).2.measure .mergeDuration 0)
      | .ok s => (.ok s,
          (d.batch .bridge .remote (body (Merge.work changes))).2.measure .mergeDuration 0
            |>.measure .mergeMatched s.matched
            |>.measure .mergeRemoteOnly s.remoteOnly
            |>.measure .mergeLocalOnly s.localOnly) := by
  unfold merge
  simp only [perform_bind, perform_get]
  cases (d.batch .bridge .remote (body (Merge.work changes))).1.result <;> rfl

theorem apply_perform (changes : List RemoteChange) (d : Device π) :
    (apply changes).perform d =
      match (d.batch .bridge .remote (body (Apply.work changes))).1.result with
      | .error e => (.error e,
          (d.batch .bridge .remote (body (Apply.work changes))).2.measure .applyDuration 0
            |>.measure .applyFailed 1)
      | .ok s => (.ok s,
          (d.batch .bridge .remote (body (Apply.work changes))).2.measure .applyDuration 0
            |>.measure .applyChanges s.total
            |>.tally (Stats.addApplied (UInt64.ofNat s.total))) := by
  unfold apply
  simp only [perform_bind, perform_get]
  cases (d.batch .bridge .remote (body (Apply.work changes))).1.result <;> rfl

/-- A merge and an application end as their batches do. -/
theorem merge_result (changes : List RemoteChange) (d : Device π) :
    ((merge changes).perform d).1 = (d.batch .bridge .remote (body (Merge.work changes))).1.result := by
  rw [merge_perform]
  split <;> next h => exact h.symm

theorem apply_result (changes : List RemoteChange) (d : Device π) :
    ((apply changes).perform d).1 = (d.batch .bridge .remote (body (Apply.work changes))).1.result := by
  rw [apply_perform]
  split <;> next h => exact h.symm

/-- What is measured of a merge or an application is of no account. -/
theorem sameWork_merge (changes : List RemoteChange) (d : Device π) :
    SameWork (d.batch .bridge .remote (body (Merge.work changes))).2 ((merge changes).perform d).2 := by
  have hbatch := SameWork.refl (d.batch .bridge .remote (body (Merge.work changes))).2
  rw [merge_perform]
  split
  · exact hbatch.measure _ _
  · exact (((hbatch.measure _ _).measure _ _).measure _ _).measure _ _

theorem sameWork_apply (changes : List RemoteChange) (d : Device π) :
    SameWork (d.batch .bridge .remote (body (Apply.work changes))).2 ((apply changes).perform d).2 := by
  have hbatch := SameWork.refl (d.batch .bridge .remote (body (Apply.work changes))).2
  rw [apply_perform]
  split
  · exact (hbatch.measure _ _).measure _ _
  · exact ((hbatch.measure _ _).measure _ _).tally _

theorem stopSync_perform (d : Device π) :
    (stopSync true).perform d =
      ((d.batch .bridge .remote (body forgetMetadata)).1.result,
        (d.batch .bridge .remote (body forgetMetadata)).2) := by
  unfold stopSync
  simp [perform_bind]

/-- A batch of work that is not committed fails; one that is committed has succeeded. -/
theorem Batched.result_cases {batcher : Batcher} {side : Side} {w : Work π α} {d d' : Device π}
    {o : BatchOutcome (Except SyncError α)} (h : Batched batcher side (body w) d o d') :
    (∃ e, o.result = .error e ∧ ∀ v cs, o ≠ .committed v cs) ∨
      ∃ a cs, o.result = .ok a ∧ o = .committed (.ok a) cs := by
  cases h with
  | refused => exact .inl ⟨_, rfl, nofun⟩
  | abandoned => exact .inl ⟨_, rfl, nofun⟩
  | committed hbegin hbody hcommit =>
    rw [body_draft] at hbody ⊢
    rcases hres : w.perform _ with ⟨e | a, s⟩ <;> rw [hres] at hbody
    · cases hbody
    · exact .inr ⟨a, s.changes, rfl, rfl⟩

omit [Processor π] in
/-- Measuring leaves what is to be restored alone. -/
theorem restored_measure {d d' : Device π} {m : Metric} {n : Nat} :
    Restored d (d'.measure m n) ↔ Restored d d' :=
  ⟨fun h => ⟨h.content, h.isOpen, h.notifier, h.relayed⟩,
    fun h => ⟨h.content, h.isOpen, h.notifier, h.relayed⟩⟩

/-- A failed batch of orderly work leaves no trace. -/
theorem restored_of_orderly {w : Work π α} (hw : w.Orderly) {d : Device π}
    (hroll : d.store.CanRollBack) {e : SyncError}
    (hfail : (d.batch .bridge .remote (body w)).1.result = .error e) :
    Restored d (d.batch .bridge .remote (body w)).2 := by
  have hbatched := batched .bridge .remote (body w) d
  rcases hbatched.result_cases with ⟨_, -, hnot⟩ | ⟨a, cs, hok, -⟩
  · exact (hbatched.restored_iff hnot (tame_body hw) hroll).2 (contained_body hw d)
  · rw [hfail] at hok
    cases hok

/-- A batch of orderly work that succeeds has written what it asked for. -/
theorem metadata_of_orderly {w : Work π α} (hw : w.Orderly) (hsettles : w.Settles) {d : Device π}
    {a : α} (hok : (d.batch .bridge .remote (body w)).1.result = .ok a) :
    (d.batch .bridge .remote (body w)).2.store.metadata =
      (w.perform d.begun.scope).2.asked.foldl StoredMetadata.apply d.store.metadata := by
  have hbatched := batched .bridge .remote (body w) d
  rcases hbatched.result_cases with ⟨e, herror, -⟩ | ⟨b, cs, -, hcommitted⟩
  · rw [hok] at herror
    cases herror
  · rw [hcommitted] at hbatched
    exact hbatched.metadata hw hsettles

theorem BatchOutcome.not_committed {o : BatchOutcome β} {e : SyncError} (h : o.ending = .error e)
    (v : β) (cs : List LocalChange) : o ≠ .committed v cs := by
  rintro rfl
  cases h

end Device

/-! ## 2. All or nothing -/

namespace Call

/-- **A failed call leaves no trace exactly if it is contained.** -/
theorem fails_restored_iff {c : Call β} {d : Device π} (hplain : c.Plain)
    (hroll : d.store.CanRollBack) {e : SyncError} (hfail : (c.run d).1 = .error e) :
    Restored d (c.run d).2 ↔ c.Contained d := by
  cases c with
  | merge changes =>
    rw [run, perform_map, merge_perform] at hfail ⊢
    cases hres : (d.batch .bridge .remote (body (Merge.work changes))).1.result with
    | error e =>
      exact iff_of_true (restored_measure.2
        (restored_of_orderly (Work.made_merge changes).orderly hroll hres)) trivial
    | ok s =>
      rw [hres] at hfail
      cases hfail
  | apply changes =>
    rw [run, perform_map, apply_perform] at hfail ⊢
    cases hres : (d.batch .bridge .remote (body (Apply.work changes))).1.result with
    | error e =>
      exact iff_of_true (restored_measure.2 (restored_measure.2
        (restored_of_orderly (Work.made_apply changes).orderly hroll hres))) trivial
    | ok s =>
      rw [hres] at hfail
      cases hfail
  | forget =>
    rw [run, stopSync_perform] at hfail ⊢
    exact iff_of_true (restored_of_orderly Work.made_forget.orderly hroll hfail) trivial
  | write w =>
    exact (batched .bridge .device (w.run []) d).restored_iff
      (BatchOutcome.not_committed hfail) (tame_write hplain) hroll

/-- A contained call that fails leaves the records as they are. -/
theorem Contained.vault {c : Call β} {d : Device π} (h : c.Contained d) (hplain : c.Plain)
    (hroll : d.store.CanRollBack) {e : SyncError} (hfail : (c.run d).1 = .error e) :
    (c.run d).2.store.vault = d.store.vault :=
  Store.vault_congr ((fails_restored_iff hplain hroll hfail).2 h).content

/-- **A remote call that succeeds has written all metadata that it asked for.** -/
theorem succeeds_metadata {c : Call β} {d : Device π} (hremote : ∀ w, c ≠ .write w)
    (hok : (c.run d).1 = .ok ()) :
    (c.run d).2.store.metadata = (c.asked d).foldl StoredMetadata.apply d.store.metadata := by
  cases c with
  | merge changes =>
    rw [run, perform_map, merge_perform] at hok ⊢
    cases hres : (d.batch .bridge .remote (body (Merge.work changes))).1.result with
    | error e =>
      rw [hres] at hok
      cases hok
    | ok s =>
      have h := metadata_of_orderly (Work.made_merge changes).orderly (Work.settles_merge changes) hres
      exact h
  | apply changes =>
    rw [run, perform_map, apply_perform] at hok ⊢
    cases hres : (d.batch .bridge .remote (body (Apply.work changes))).1.result with
    | error e =>
      rw [hres] at hok
      cases hok
    | ok s =>
      have h := metadata_of_orderly (Work.made_apply changes).orderly (Work.settles_apply changes) hres
      exact h
  | forget =>
    rw [run, stopSync_perform] at hok ⊢
    exact metadata_of_orderly Work.made_forget.orderly Work.settles_forget hok
  | write w => exact absurd rfl (hremote w)

/-- A table never ends a transaction of its own accord. -/
theorem contained_of_not_replaces {c : Call β} {d : Device π} (hplain : c.Plain)
    (htable : d.store.replaces = false) : c.Contained d := by
  cases c with
  | write w =>
    intro s hbegin
    obtain ⟨-, hsaved, hcontent, hsteady⟩ := Store.begin_ok hbegin
    have hopen : s.saved = some s.content := by rw [hsaved, hcontent]
    obtain ⟨t, ht, -, hworked⟩ := hplain.worked (d := d.withStore s) (.refl s)
      (.kept hopen rfl (.nil _) fun _ => rfl)
    rw [ht]
    cases hworked with
    | kept ht => exact .inl (by rw [Store.isOpen_eq, ht]; rfl)
    | lost _ _ _ hreplaces =>
      rw [hsteady.replaces, htable] at hreplaces
      cases hreplaces
  | merge | apply | forget => trivial

/-- A write that gives up at the first failed edit changes nothing behind the end of its
    transaction. -/
theorem contained_of_givesUp {c : Call β} {d : Device π} (h : ∀ w, c = .write w → w.GivesUp) :
    c.Contained d := by
  cases c with
  | write w =>
    intro s hbegin
    obtain ⟨-, hsaved, -, -⟩ := Store.begin_ok hbegin
    have hcontained := @Write.GivesUp.contained _ _ _ w (h w rfl) _ [] (d.withStore s) hsaved
    rcases hcontained with ht | ht
    · exact .inl (by rw [Store.isOpen_eq, ht]; rfl)
    · exact .inr ht
  | merge | apply | forget => trivial

/-- **Calls are all or nothing, up to writes that go on behind the end of their transaction.** A
    failed call leaves no trace exactly if it is contained, and a remote call that succeeds has
    written all its metadata. Not contained are only writes to a database that go on after a failed
    edit. -/
theorem all_or_nothing (c : Call β) (d : Device π) (hplain : c.Plain)
    (hroll : d.store.CanRollBack) :
    (∀ e, (c.run d).1 = .error e → (Restored d (c.run d).2 ↔ c.Contained d)) ∧
      ((c.run d).1 = .ok () → (∀ w, c ≠ .write w) →
        (c.run d).2.store.metadata = (c.asked d).foldl StoredMetadata.apply d.store.metadata) ∧
      (d.store.replaces = false → c.Contained d) ∧
      ((∀ w, c = .write w → w.GivesUp) → c.Contained d) :=
  ⟨fun _ hfail => fails_restored_iff hplain hroll hfail,
    fun hok hremote => succeeds_metadata hremote hok, contained_of_not_replaces hplain,
    contained_of_givesUp⟩

end Call

/-- A database that has given out the greatest primary key. -/
def Database.exhausted : Database := Database.fresh.insertRaw .greatest (.sample "top") 0 0

/-- A device with such a database. -/
def Device.exhausted : Device Recorder :=
  { store := .database .exhausted, processor := {}, notifier := .ofCapacity 1 }

/-- A write that goes on after a failed addition. -/
def Write.stubborn : Write Unit :=
  .edit (.add (.sample "x")) fun _ => .edit (.remove .greatest) fun _ => .done () none

theorem Write.plain_stubborn : stubborn.Plain := fun _ _ => trivial

namespace Call

theorem all_or_nothing_stubborn :
    Write.stubborn.Plain ∧ Device.exhausted.store.CanRollBack ∧
      (Restored Device.exhausted ((Call.write .stubborn).run .exhausted).2 ↔
        (Call.write Write.stubborn).Contained Device.exhausted) :=
  ⟨Write.plain_stubborn, trivial,
    (all_or_nothing (.write .stubborn) .exhausted Write.plain_stubborn trivial).1 _ rfl⟩

/-- The write fails, and the record that it removed is gone. -/
theorem stubborn_not_restored :
    ((Call.write .stubborn).run Device.exhausted).1 = .error DatabaseFault.noTransaction.store ∧
      ¬ Restored Device.exhausted ((Call.write .stubborn).run .exhausted).2 := by
  refine ⟨rfl, fun h => ?_⟩
  have hvault : ((Call.write .stubborn).run Device.exhausted).2.store.vault.records.get? .greatest =
      Device.exhausted.store.vault.records.get? .greatest :=
    congrArg (fun c : Content => c.vault.records.get? .greatest) h.content
  have hbefore : Device.exhausted.store.vault.records.get? .greatest = some (.sample "top") := rfl
  have hafter : ((Call.write .stubborn).run Device.exhausted).2.store.vault.records.get? .greatest =
      none := rfl
  rw [hbefore, hafter] at hvault
  cases hvault

end Call

end CredentialSync
