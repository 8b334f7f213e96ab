import CredentialSync.Proofs.Bridge.Relay
import CredentialSync.Proofs.Bridge.Transfer

/-!
# The transaction of the relay

The relay forwards a batch in a transaction of its own. `Device.Forwarded` lists the four ways out:
refused at the beginning, undone because an answer could not be written, stranded because the commit
failed, or done. On the third way the transaction is neither committed nor rolled back.

`Device.Strands` says when that happens, in terms of the device before the call, and
`relay_closes_iff` that nothing else can go wrong: otherwise no transaction is left open, and after a
failure records and metadata are as they were.
-/

namespace CredentialSync

open Attempt

variable {π : Type}

/-! ## 1. What is asked of a store -/

/-- Transactions begin and all metadata asked for is written, but what was changed cannot be committed. -/
structure Store.CannotCommit (asked : List MetadataWrite) (s : Store) : Prop where
  begins : s.switches.beginsFail = false
  commits : s.switches.commitsFail = true
  written : ∀ w ∈ asked, s.Takes w

/-- **Announcing changes comes to some writes.** -/
theorem Work.wrote_announce [Processor π] (cs : List LocalChange) (s : Scope π) :
    ∃ ws, Wrote s ws ((Device.announce cs).perform s).2 := by
  induction cs generalizing s with
  | nil => exact ⟨[], .refl s⟩
  | cons c cs ih =>
    obtain ⟨t, htell⟩ : ∃ t, (tell c.call.deliver).perform s = (.ok (), t) := ⟨_, rfl⟩
    obtain ⟨answers, ht⟩ : ∃ answers, Wrote s answers t := by
      have hwrote := wrote (c.call.deliver s.processor).1
        { s with processor := (c.call.deliver s.processor).2 }
      rw [perform_tell] at htell
      cases htell
      exact ⟨_, hwrote.switches, hwrote.saved, hwrote.metadata, hwrote.fault, hwrote.asked⟩
    obtain ⟨n, s', hannounce, -⟩ := Device.announce_ok cs t
    obtain ⟨ws, hend⟩ := ih t
    rw [hannounce] at hend
    rw [Device.announce_cons, bind_of_ok htell, bind_of_ok hannounce]
    exact ⟨_, ht.trans hend⟩

variable [Processor π]

namespace Device

/-! ## 2. The ways out -/

/-- The scope in which a batch has been announced. -/
def announced (batch : ChangeBatch) (d : Device π) : Scope π :=
  ((announce batch.changes).perform d.scope).2

/-- The metadata that the processor asks for when a batch is announced. -/
def answers (batch : ChangeBatch) (d : Device π) : List MetadataWrite :=
  ((announcements batch.changes).foldl Work.Event.hear (d.processor, [])).2

/-- How forwarding a batch ends, and with which device. -/
inductive Forwarded (batch : ChangeBatch) (d : Device π) :
    Except SyncError Unit → Device π → Prop where
  | refused {e : SyncError} (hbegin : Store.begin.perform d.store = (.error e, d.store)) :
      Forwarded batch d (.error e) d
  | undone {s : Store} {e : SyncError} (hbegin : Store.begin.perform d.store = (.ok (), s))
      (hfault : ((d.withStore s).announced batch).writeFault = some e) :
      Forwarded batch d (.error e)
        ((d.putScope ((d.withStore s).announced batch)).withStore
          (Store.rollback.perform ((d.withStore s).announced batch).store).2)
  | stranded {s : Store} {e : SyncError} (hbegin : Store.begin.perform d.store = (.ok (), s))
      (hwritten : ((d.withStore s).announced batch).writeFault = none)
      (hcommit : Store.commit.perform ((d.withStore s).announced batch).store =
        (.error e, ((d.withStore s).announced batch).store)) :
      Forwarded batch d (.error e) (d.putScope ((d.withStore s).announced batch))
  | done {s t : Store} {d' : Device π} (hbegin : Store.begin.perform d.store = (.ok (), s))
      (hwritten : ((d.withStore s).announced batch).writeFault = none)
      (hcommit : Store.commit.perform ((d.withStore s).announced batch).store = (.ok (), t))
      (hstore : d'.store = t) (hprocessor : d'.processor = ((d.withStore s).announced batch).processor) :
      Forwarded batch d (.ok ()) d'

omit [Processor π] in
theorem perform_onStore {α : Type} {a : Attempt Store α} {d : Device π} {res : Except SyncError α}
    {s : Store} (h : a.perform d.store = (res, s)) :
    (onStore a).perform d = (res, d.withStore s) := by
  rw [onStore_perform, h]

omit [Processor π] in
/-- Rolling back without looking whether it worked. -/
theorem rollback_anyhow (d : Device π) :
    (tryCatch (onStore Store.rollback) fun _ => pure ()).perform d =
      (.ok (), d.withStore (Store.rollback.perform d.store).2) := by
  rw [perform_tryCatch, onStore_perform]
  rcases (Store.rollback.perform d.store).1 with e | _ <;> rfl

theorem forwarded (batch : ChangeBatch) (d : Device π) :
    Forwarded batch d ((forward batch).perform d).1 ((forward batch).perform d).2 := by
  unfold forward
  rcases hbegin : Store.begin.perform d.store with ⟨e | _, s⟩
  · obtain rfl := Store.begin_error hbegin
    rw [perform_bind, perform_onStore hbegin]
    exact .refused hbegin
  · obtain ⟨n, s', hannounce, -⟩ := announce_ok batch.changes (d.withStore s).scope
    have hannounced : (d.withStore s).announced batch = s' := by rw [announced, hannounce]
    rw [bind_of_ok (perform_onStore hbegin)]
    simp only [perform_bind, perform_get, hannounce, perform_modify, perform_ofExcept]
    cases hfault : s'.writeFault with
    | some e =>
      have hend : Forwarded batch d _ _ := .undone hbegin (hannounced.symm ▸ hfault)
      rw [hannounced] at hend
      rw [bind_of_ok (rollback_anyhow _)]
      exact hend
    | none =>
      have hwritten : ((d.withStore s).announced batch).writeFault = none := hannounced.symm ▸ hfault
      rcases hcommit : Store.commit.perform s'.store with ⟨e | _, t⟩
      · obtain rfl := Store.commit_error hcommit
        have hend := Forwarded.stranded hbegin hwritten (hannounced.symm ▸ hcommit)
        rw [hannounced] at hend
        rw [perform_bind, perform_onStore (d := (d.withStore s).putScope s') hcommit]
        exact hend
      · rw [perform_bind, perform_onStore (d := (d.withStore s).putScope s') hcommit]
        exact .done hbegin hwritten (hannounced.symm ▸ hcommit) rfl (hannounced.symm ▸ rfl)

/-! ## 3. When the transaction is left open -/

/-- The relay leaves its transaction open. -/
structure Strands (batch : ChangeBatch) (d : Device π) : Prop where
  isLocal : batch.isLocal = true
  tracking : Processor.isTracking d.processor = true
  store : d.store.CannotCommit (d.answers batch)

/-- What the relay reports to the processor, if it forwards the batch and fails. -/
def reported? (batch : ChangeBatch) (d : Device π) : Option SyncError :=
  if batch.isLocal && Processor.isTracking d.processor then
    match ((forward batch).perform d).1 with
    | .ok _ => none
    | .error e => some e
  else none

/-- The transaction of the relay with everything announced in it. -/
structure Announced (batch : ChangeBatch) (d : Device π) (s : Scope π) : Prop where
  saved : s.store.saved = some d.store.content
  switches : s.store.switches = d.store.switches
  steady : d.store.Steady s.store
  written : s.writeFault = none ↔ ∀ w ∈ d.answers batch, d.store.Takes w
  metadata : s.writeFault = none →
    s.store.metadata = (d.answers batch).foldl StoredMetadata.apply d.store.metadata

theorem announced_spec {d : Device π} {s : Store} (hbegin : Store.begin.perform d.store = (.ok (), s))
    (batch : ChangeBatch) : Announced batch d ((d.withStore s).announced batch) := by
  obtain ⟨-, hsaved, hcontent, hsteady⟩ := Store.begin_ok hbegin
  have hmetadata := Store.metadata_congr hcontent
  have hswitches := Store.switches_begin hbegin
  obtain ⟨n, s', hannounce, hdid, -⟩ := announce_ok batch.changes (d.withStore s).scope
  have hleft := (made_announce batch.changes).orderly (d.withStore s).scope
  obtain ⟨ws, hwrote⟩ := Work.wrote_announce batch.changes (d.withStore s).scope
  rw [hannounce] at hleft hwrote
  -- what was written is what the processor has asked for
  obtain rfl : d.answers batch = ws := (congrArg Prod.snd hdid.heard).symm.trans hwrote.asked
  rw [announced, hannounce]
  refine ⟨hwrote.saved.trans hsaved, hwrote.switches.trans hswitches, hsteady.trans hleft.steady, ?_,
    fun hnone => (hwrote.metadata hnone).trans
      (congrArg ((d.answers batch).foldl StoredMetadata.apply) hmetadata)⟩
  refine hwrote.fault.trans ((and_iff_right rfl).trans (forall₂_congr fun w _ => ?_))
  exact Store.takes_congr [] hswitches hmetadata rfl

/-- How the relay leaves the store: in order, or with its transaction open. -/
inductive Leaves (batch : ChangeBatch) (d : Device π) (res : Except SyncError Unit) (s : Store) :
    Prop where
  | inOrder (hcan : ¬ d.store.CannotCommit (d.answers batch)) (hsaved : s.saved = none)
      (hswitches : s.switches = d.store.switches)
      (hcontent : ∀ e, res = .error e → s.content = d.store.content)
  | openEnded {e : SyncError} (hcannot : d.store.CannotCommit (d.answers batch))
      (hsaved : s.saved = some d.store.content) (hres : res = .error e)
      (hmetadata : s.metadata = (d.answers batch).foldl StoredMetadata.apply d.store.metadata)

theorem Forwarded.leaves {batch : ChangeBatch} {d d' : Device π} {res : Except SyncError Unit}
    (h : Forwarded batch d res d') (hclosed : d.store.saved = none) (hroll : d.store.CanRollBack) :
    Leaves batch d res d'.store := by
  cases h with
  | @refused e hbegin =>
    refine .inOrder (fun hcannot => ?_) hclosed rfl fun _ _ => rfl
    have htold := (Store.begin_fails_iff hclosed).1 ⟨e, hbegin⟩
    rw [hcannot.begins] at htold
    cases htold
  | @undone s e hbegin hfault =>
    have hspec := announced_spec hbegin batch
    obtain ⟨t, hrollback, hcontent, hsaved, -⟩ :=
      Store.rollback_perform (hspec.steady.canRollBack hroll)
    refine .inOrder (fun hcannot => ?_) ?_ ?_ fun _ _ => ?_
    · have hwritten := hspec.written.2 hcannot.written
      rw [hfault] at hwritten
      cases hwritten
    · rw [hrollback]
      exact hsaved
    · exact (Store.switches_rollback _).trans hspec.switches
    · rw [hspec.saved] at hcontent
      rw [hrollback]
      exact hcontent
  | @stranded s e hbegin hwritten hcommit =>
    have hspec := announced_spec hbegin batch
    have hbegins : d.store.switches.beginsFail = false := by
      refine Bool.eq_false_iff.2 fun hbegins => ?_
      obtain ⟨e', hrefused⟩ := (Store.begin_fails_iff hclosed).2 hbegins
      rw [hbegin] at hrefused
      cases hrefused
    have hcommits := (Store.commit_fails_iff hspec.saved).1 ⟨e, hcommit⟩
    rw [hspec.switches] at hcommits
    exact .openEnded ⟨hbegins, hcommits, hspec.written.1 hwritten⟩ hspec.saved rfl
      (hspec.metadata hwritten)
  | @done s t _ hbegin hwritten hcommit hstore _ =>
    have hspec := announced_spec hbegin batch
    obtain ⟨-, hsaved, -⟩ := Store.commit_ok hcommit
    rw [hstore]
    refine .inOrder (fun hcannot => ?_) hsaved ((Store.switches_commit hcommit).trans hspec.switches)
      nofun
    obtain ⟨e, hfails⟩ := (Store.commit_fails_iff hspec.saved).2
      (hspec.switches ▸ hcannot.commits)
    rw [hcommit] at hfails
    cases hfails

/-! ## 4. What the relay leaves behind -/

variable {batch : ChangeBatch} {d : Device π}

/-- A batch that is not forwarded does not touch the store. -/
theorem relay_skipped (hskipped : ¬ (batch.isLocal = true ∧ Processor.isTracking d.processor = true)) :
    (d.relay batch).store = d.store ∧ d.reported? batch = none ∧ ¬ d.Strands batch := by
  have hcond : ¬ (batch.isLocal && Processor.isTracking d.processor) = true := by simpa using hskipped
  refine ⟨?_, ?_, fun h => hskipped ⟨h.isLocal, h.tracking⟩⟩
  · rw [relay, if_neg hcond]
    rfl
  · rw [reported?, if_neg hcond]

/-- A batch that is forwarded. -/
theorem relay_forwarded (hforwarded : batch.isLocal = true ∧ Processor.isTracking d.processor = true) :
    (d.relay batch).store = ((forward batch).perform d).2.store ∧
      (∀ e, d.reported? batch = some e ↔ ((forward batch).perform d).1 = .error e) ∧
      (d.Strands batch ↔ d.store.CannotCommit (d.answers batch)) := by
  have hcond : (batch.isLocal && Processor.isTracking d.processor) = true := by simpa using hforwarded
  refine ⟨?_, ?_, fun h => h.store, fun h => ⟨hforwarded.1, hforwarded.2, h⟩⟩
  · rw [relay, if_pos hcond]
    rcases (forward batch).perform d with ⟨_ | _, _⟩ <;> rfl
  · intro e
    rw [reported?, if_pos hcond]
    rcases ((forward batch).perform d).1 with e' | _ <;> simp

/-- The processor at the end of forwarding: it was told of no change, or of all changes. -/
theorem Forwarded.processor {res : Except SyncError Unit} {d' : Device π}
    (h : Forwarded batch d res d') :
    ∃ cs, (cs = [] ∨ cs = batch.changes.map LocalChange.call) ∧
      d'.processor = ProcessorCall.hearAll cs d.processor := by
  have hannounced (s : Store) : ((d.withStore s).announced batch).processor =
      ProcessorCall.hearAll (batch.changes.map LocalChange.call) d.processor := by
    obtain ⟨n, s', hannounce, hdid, -⟩ := announce_ok batch.changes (d.withStore s).scope
    have hprocessor := congrArg Prod.fst hdid.heard
    rw [Work.Event.processor_hear, announcements, List.filterMap_map] at hprocessor
    rw [announced, hannounce, ← List.filterMap_eq_map']
    exact hprocessor
  cases h with
  | refused => exact ⟨[], .inl rfl, rfl⟩
  | @undone s | @stranded s => exact ⟨_, .inr rfl, hannounced s⟩
  | @done s _ _ _ _ _ _ hprocessor => exact ⟨_, .inr rfl, hprocessor.trans (hannounced s)⟩

/-- **The processor is told of an error exactly if one is reported.** Apart from it, it is told of the
    changes of the batch, or of nothing. -/
theorem relay_tells (batch : ChangeBatch) (d : Device π) :
    ∃ cs, (cs = [] ∨ cs = batch.changes.map LocalChange.call) ∧
      (d.relay batch).processor =
        ProcessorCall.hearAll (cs ++ ((d.reported? batch).map .report).toList) d.processor := by
  by_cases hcond : (batch.isLocal && Processor.isTracking d.processor) = true
  · obtain ⟨cs, hcs, hprocessor⟩ := (forwarded batch d).processor
    refine ⟨cs, hcs, ?_⟩
    rw [relay, reported?, if_pos hcond, if_pos hcond, ProcessorCall.hearAll, List.foldl_append]
    show _ = List.foldl _ (ProcessorCall.hearAll cs d.processor) _
    rw [← hprocessor]
    rcases (forward batch).perform d with ⟨_ | _, _⟩ <;> rfl
  · refine ⟨[], .inl rfl, ?_⟩
    rw [relay, reported?, if_neg hcond, if_neg hcond]
    rfl

/-- **The relay closes the transaction that it opens, unless the commit fails.** If the commit can
    succeed, or does not come about, no transaction is open afterwards, the next one begins or is
    refused as it would have been before, and a reported failure has left records and metadata as they
    were. Otherwise the failure is reported while the transaction stays open with the metadata written
    in it, and the next transaction is refused. -/
theorem relay_closes_iff (batch : ChangeBatch) (d : Device π) (hclosed : d.store.isOpen = false)
    (hroll : d.store.CanRollBack) :
    ((d.relay batch).store.isOpen = false ↔ ¬ d.Strands batch) ∧
      (¬ d.Strands batch →
        (Store.begin.perform (d.relay batch).store).1 = (Store.begin.perform d.store).1 ∧
          ∀ e, d.reported? batch = some e → (d.relay batch).store.content = d.store.content) ∧
      (d.Strands batch →
        (∃ e, d.reported? batch = some e) ∧
          (∃ e, (Store.begin.perform (d.relay batch).store).1 = .error e) ∧
          (d.relay batch).store.metadata =
            (d.answers batch).foldl StoredMetadata.apply d.store.metadata) := by
  have hsaved : d.store.saved = none := by
    rw [Store.isOpen_eq] at hclosed
    exact Option.isNone_iff_eq_none.1 (by simpa using hclosed)
  by_cases hforwarded : batch.isLocal = true ∧ Processor.isTracking d.processor = true
  · obtain ⟨hstore, hreported, hstrands⟩ := relay_forwarded hforwarded
    rw [hstore, hstrands]
    cases (forwarded batch d).leaves hsaved hroll with
    | inOrder hcan hended hswitches hcontent =>
      refine ⟨?_, fun _ => ⟨?_, fun e he => ?_⟩, fun h => absurd h hcan⟩
      · simp [Store.isOpen_eq, hended, hcan]
      · exact Store.begin_congr hswitches hsaved hended
      · exact hcontent e ((hreported e).1 he)
    | openEnded hcannot hended hres hmetadata =>
      refine ⟨?_, fun h => absurd hcannot h, fun _ => ⟨⟨_, (hreported _).2 hres⟩, ?_, hmetadata⟩⟩
      · simp [Store.isOpen_eq, hended, hcannot]
      · obtain ⟨e, hrefused⟩ := Store.begin_refused hended
        exact ⟨e, by rw [hrefused]⟩
  · obtain ⟨hstore, hreported, hstrands⟩ := relay_skipped hforwarded
    rw [hstore]
    refine ⟨by simp [hclosed, hstrands], fun _ => ⟨rfl, fun _ _ => rfl⟩, fun h => absurd h hstrands⟩

/-- A device whose table cannot commit. -/
def uncommittable : Device Recorder :=
  { store := .table { faults := { commits := true } }, processor := {}, notifier := .ofCapacity 1 }

/-- A device whose database another connection reads, without a write-ahead log. -/
def crowded : Device Recorder :=
  { store := .database { Database.fresh with busy := true }, processor := {}, notifier := .ofCapacity 1 }

/-- A batch of this device with one added record. -/
def addition : ChangeBatch := ⟨.device, [⟨.add, 1, .sample "abc"⟩]⟩

theorem relay_closes_uncommittable :
    uncommittable.store.isOpen = false ∧ uncommittable.store.CanRollBack ∧
      ((uncommittable.relay addition).store.isOpen = false ↔ ¬ uncommittable.Strands addition) ∧
      crowded.store.isOpen = false ∧ crowded.store.CanRollBack ∧
      ((crowded.relay addition).store.isOpen = false ↔ ¬ crowded.Strands addition) :=
  ⟨rfl, rfl, (relay_closes_iff addition uncommittable rfl rfl).1, rfl, trivial,
    (relay_closes_iff addition crowded rfl trivial).1⟩

/-- The failed commit is reported, the transaction stays open with the metadata written in it, and the
    next one is refused, although it would have begun before. So it is on a database as well. -/
theorem uncommittable_stays_open :
    uncommittable.store.isOpen = false ∧
      (Store.begin.perform uncommittable.store).1 = .ok () ∧
      uncommittable.reported? addition = some (.storeFailure "injected commit failure") ∧
      (uncommittable.relay addition).store.isOpen = true ∧
      (uncommittable.relay addition).store.metadata ≠ uncommittable.store.metadata ∧
      (Store.begin.perform (uncommittable.relay addition).store).1 =
        .error (.storeFailure "transaction already open") ∧
      crowded.store.isOpen = false ∧ (Store.begin.perform crowded.store).1 = .ok () ∧
      crowded.reported? addition = some DatabaseFault.locked.store ∧
      (crowded.relay addition).store.isOpen = true ∧
      (Store.begin.perform (crowded.relay addition).store).1 =
        .error DatabaseFault.nestedTransaction.store := by
  refine ⟨rfl, rfl, rfl, rfl, fun h => ?_, rfl, rfl, rfl, rfl, rfl, rfl⟩
  have hbatch := StoredMetadata.values.inj h
  have hsize : 1 = 0 := congrArg (·.entities.size) hbatch
  cases hsize

end Device

end CredentialSync
