import CredentialSync.Proofs.Bridge.Forwarding
import CredentialSync.Proofs.Store.Replay

/-!
# What a commit reports

The list of changes that a committed batch reports is exactly the difference that it made
(`Device.committed_replays`): replayed on the records before the batch, it gives the records behind it.
When the transaction is closed, everyone is told of this list once, unless it is empty.

This holds of every body that changes records through its scope only (`Device.Gathers`), where the
reports of the edits are gathered one after another (`Store.Gathered`). Merging, applying and scoped
writes are such bodies. Telling everyone leaves the records alone, whatever becomes of the metadata that
the relay writes (`vault_told`).
-/

namespace CredentialSync

open Attempt

variable {π : Type} {α β : Type}

/-! ## 1. Gathered reports -/

namespace Store

/-- The stores behind some edits and writes to the metadata, with the reports of the edits one after
    another. An edit that fails reports nothing. -/
inductive Gathered (s₀ : Store) : List LocalChange → Store → Prop where
  | refl : Gathered s₀ [] s₀
  | edit {cs : List LocalChange} {s s' : Store} {e : Edit}
      {res : Except SyncError (List LocalChange)} (h : Gathered s₀ cs s)
      (hs : e.attempt.perform s = (res, s')) : Gathered s₀ (cs ++ reported res) s'
  | writeMetadata {cs : List LocalChange} {s s' : Store} {w : MetadataWrite}
      {res : Except SyncError Unit} (h : Gathered s₀ cs s)
      (hs : (Store.writeMetadata w).perform s = (res, s')) : Gathered s₀ cs s'

variable {s₀ s s' : Store} {cs ds : List LocalChange}

theorem Gathered.trans (h : Gathered s₀ cs s) (h' : Gathered s ds s') :
    Gathered s₀ (cs ++ ds) s' := by
  induction h' with
  | refl =>
    rw [List.append_nil]
    exact h
  | edit _ hs ih =>
    rw [← List.append_assoc]
    exact ih.edit hs
  | writeMetadata _ hs ih => exact ih.writeMetadata hs

theorem vault_writeMetadata {w : MetadataWrite} {res : Except SyncError Unit}
    (hs : (writeMetadata w).perform s = (res, s')) : s'.vault = s.vault := by
  cases (written hs).1 with
  | done _ hvault => exact hvault
  | failed hcontent => exact vault_congr hcontent

/-- How the records of a candid store stand to those at the beginning of a transaction. -/
structure Reporting (s₀ : Store) (c : Content) (cs : List LocalChange) (s : Store) : Prop where
  candid : s.Candid
  replaces : s.replaces = s₀.replaces
  /-- The reports lead from the beginning to the records now, or the transaction has ended. -/
  steps : (s.saved = some c ∧ Vault.Steps s₀.vault cs s.vault) ∨
    (s.saved = none ∧ s₀.replaces = true)

/-- What happens within a transaction, or behind its end, is reported in addition. -/
theorem Reporting.append {c : Content} (h : Reporting s₀ c cs s) (hcandid : s'.Candid)
    (hreplaces : s'.replaces = s.replaces) (hsaved : s'.saved = s.saved)
    (hsteps : Vault.Steps s.vault ds s'.vault) : Reporting s₀ c (cs ++ ds) s' := by
  refine ⟨hcandid, hreplaces.trans h.replaces, ?_⟩
  rcases h.steps with ⟨hopen, hbefore⟩ | ⟨hlost, hdatabase⟩
  · exact .inl ⟨hsaved.trans hopen, hbefore.append hsteps⟩
  · exact .inr ⟨hsaved.trans hlost, hdatabase⟩

/-- **Within a transaction, gathered reports lead from its beginning to the records now.** -/
theorem Gathered.reporting (h : Gathered s₀ cs s) (hcandid : s₀.Candid) {c : Content}
    (hopen : s₀.saved = some c) : Reporting s₀ c cs s := by
  induction h with
  | refl => exact ⟨hcandid, rfl, .inl ⟨hopen, .nil _⟩⟩
  | edit _ hs ih =>
    obtain ⟨htold, hcandid', hreplaces⟩ := told_of_candid ih.candid hs
    cases htold with
    | done hedit hsaved =>
      exact ih.append hcandid' hreplaces hsaved (Vault.steps_of_edit hedit)
    | failed hvault hsaved =>
      refine ih.append hcandid' hreplaces hsaved ?_
      rw [hvault]
      exact .nil _
    | lost hsaved hr =>
      exact ⟨hcandid', hreplaces.trans ih.replaces, .inr ⟨hsaved, ih.replaces ▸ hr⟩⟩
  | @writeMetadata cs s s' w res _ hs ih =>
    obtain ⟨-, hsaved, hsteady⟩ := written hs
    have hcandid' := ih.candid.of_switches (switches_writeMetadata hs)
    have hnone : Vault.Steps s.vault [] s'.vault := by
      rw [vault_writeMetadata hs]
      exact .nil _
    rw [← List.append_nil cs]
    exact ih.append hcandid' hsteady.replaces hsaved hnone

end Store

/-! ## 2. Bodies that gather what they do -/

namespace Device

/-- The body changes records through its scope only: from the store that it is given it comes to the one
    that it leaves by edits, whose reports it hands back, and writes to the metadata. It tells nobody. -/
def Gathers (body : Device π → Draft β × Device π) : Prop :=
  ∀ d, Store.Gathered d.store (body d).1.changes (body d).2.store ∧
    (body d).2.notifier = d.notifier

end Device

namespace Work

/-- The work gathers the reports of its edits. -/
def Gathers (w : Work π α) : Prop :=
  ∀ s, ∃ ds, (w.perform s).2.changes = s.changes ++ ds ∧
    Store.Gathered s.store ds (w.perform s).2.store

theorem gathered_writeOne (s : Scope π) (w : MetadataWrite) :
    (writeOne s w).changes = s.changes ∧ Store.Gathered s.store [] (writeOne s w).store := by
  rcases writeOne_cases s w with ⟨e, -, heq⟩ | ⟨-, t, hw, heq⟩ | ⟨e, t, hw, heq⟩ <;> rw [heq]
  · exact ⟨rfl, .refl⟩
  · exact ⟨rfl, Store.Gathered.refl.writeMetadata hw⟩
  · exact ⟨rfl, Store.Gathered.refl.writeMetadata hw⟩

theorem gathered_writes (ws : List MetadataWrite) (s : Scope π) :
    (ws.foldl writeOne s).changes = s.changes ∧
      Store.Gathered s.store [] (ws.foldl writeOne s).store := by
  induction ws generalizing s with
  | nil => exact ⟨rfl, .refl⟩
  | cons w ws ih =>
    obtain ⟨hchanges, hgathered⟩ := gathered_writeOne s w
    obtain ⟨hchanges', hgathered'⟩ := ih (writeOne s w)
    exact ⟨hchanges'.trans hchanges, hgathered.trans hgathered'⟩

variable [Processor π]

/-- **Work made of the steps of a batch gathers the reports of its edits.** -/
theorem Made.gathers {w : Work π α} (hw : Made w) : w.Gathers := by
  have hwrites (ws : List MetadataWrite) (s : Scope π) :
      ∃ ds, (ws.foldl writeOne s).changes = s.changes ++ ds ∧
        Store.Gathered s.store ds (ws.foldl writeOne s).store := by
    obtain ⟨hchanges, hgathered⟩ := gathered_writes ws s
    exact ⟨[], by rw [hchanges, List.append_nil], hgathered⟩
  induction hw with
  | reads hreads =>
    intro s
    rw [hreads s]
    exact ⟨[], (List.append_nil _).symm, .refl⟩
  | change e =>
    intro s
    rcases hres : e.attempt.perform s.store with ⟨res, t⟩
    rw [perform_change, hres]
    refine ⟨Store.reported res, rfl, ?_⟩
    exact Store.Gathered.refl.edit hres
  | write ws => exact hwrites ws
  | writePending =>
    intro s
    rw [perform_writePending]
    exact hwrites _ { s with pending := {} }
  | tell c =>
    intro s
    rw [perform_tell]
    exact hwrites _ { s with processor := (c.deliver s.processor).2 }
  | @bind _ _ w _ _ _ ihw ihf =>
    intro s
    obtain ⟨ds, hchanges, hgathered⟩ := ihw s
    rw [perform_bind]
    rcases hres : w.perform s with ⟨_ | a, t⟩ <;> rw [hres] at hchanges hgathered
    · exact ⟨ds, hchanges, hgathered⟩
    · obtain ⟨ds', hchanges', hgathered'⟩ := ihf a t
      refine ⟨ds ++ ds', ?_, hgathered.trans hgathered'⟩
      rw [hchanges', hchanges, List.append_assoc]

/-- Such work is a body that gathers what it does. -/
theorem Made.body {w : Work π α} (hw : Made w) : Device.Gathers (Device.body w) := by
  intro d
  obtain ⟨ds, hchanges, hgathered⟩ := hw.gathers d.scope
  rw [Device.body_draft, Device.body_device]
  have hds : (w.perform d.scope).2.changes = ds := hchanges
  refine ⟨?_, rfl⟩
  rw [hds]
  exact hgathered

end Work

namespace Write

variable [Processor π]

/-- The write works through its scope: it leaves the transaction alone. -/
def Scoped : Write β → Prop
  | .done _ _ => True
  | .edit _ next => ∀ r, (next r).Scoped
  | .record? _ next => ∀ r, (next r).Scoped
  | .find? _ next => ∀ r, (next r).Scoped
  | .readAll next => ∀ r, (next r).Scoped
  | .changes next => ∀ cs, (next cs).Scoped
  | .writeMetadata _ next => ∀ r, (next r).Scoped
  | .rollback _ => False
  | .commit _ => False
  | .nested _ _ => False

theorem Scoped.gathered {w : Write β} (hw : w.Scoped) (cs : List LocalChange) (d : Device π) :
    ∃ ds, (w.run cs d).1.changes = cs ++ ds ∧ Store.Gathered d.store ds (w.run cs d).2.store ∧
      (w.run cs d).2.notifier = d.notifier := by
  induction w generalizing cs d with
  | done value failure => exact ⟨[], (List.append_nil _).symm, .refl, rfl⟩
  | edit e next ih =>
    rw [run_edit]
    rcases hres : e.attempt.perform d.store with ⟨res, s⟩
    obtain ⟨ds, hchanges, hgathered, hnotifier⟩ :=
      ih res (hw res) (cs ++ Store.reported res) { d with store := s }
    refine ⟨Store.reported res ++ ds, ?_, ?_, hnotifier⟩
    · rw [hchanges, List.append_assoc]
    · exact (Store.Gathered.refl.edit hres).trans hgathered
  | record? key next ih =>
    rw [run, onStore_of_reads (Store.reads_record? key)]
    exact ih _ (hw _) cs d
  | find? key next ih =>
    rw [run, onStore_of_reads (Store.reads_find? key)]
    exact ih _ (hw _) cs d
  | readAll next ih =>
    rw [run, onStore_of_reads Store.reads_readAll]
    exact ih _ (hw _) cs d
  | changes next ih => exact ih cs (hw cs) cs d
  | writeMetadata w next ih =>
    rw [run, Device.onStore_perform]
    rcases hres : (Store.writeMetadata w).perform d.store with ⟨res, s⟩
    obtain ⟨ds, hchanges, hgathered, hnotifier⟩ := ih res (hw res) cs (d.withStore s)
    exact ⟨ds, hchanges, (Store.Gathered.refl.writeMetadata hres).trans hgathered, hnotifier⟩
  | rollback | commit | nested => exact hw.elim

/-- A scoped write is a body that gathers what it does. -/
theorem Scoped.body {w : Write β} (hw : w.Scoped) :
    Device.Gathers (w.run [] : Device π → Device.Draft β × Device π) := by
  intro d
  obtain ⟨ds, hchanges, hgathered, hnotifier⟩ := hw.gathered [] d
  rw [List.nil_append] at hchanges
  rw [hchanges]
  exact ⟨hgathered, hnotifier⟩

end Write

/-! ## 3. Telling everyone -/

namespace Store

/-- A rollback goes back to the saved records, or does nothing. -/
theorem vault_rollback (s : Store) :
    (rollback.perform s).2.vault = s.vault ∨
      (rollback.perform s).2.vault = (s.saved.getD s.content).vault := by
  by_cases hroll : s.CanRollBack
  · obtain ⟨t, hperform, hcontent, -, -⟩ := rollback_perform hroll
    rw [hperform]
    exact .inr (congrArg Content.vault hcontent)
  · cases s with
    | table t =>
      have hf : t.faults.rollbacks = true := by simpa [CanRollBack] using hroll
      exact .inl (by simp [rollback, either, Table.rollback, perform_bind, hf])
    | database d => exact absurd trivial hroll

end Store

namespace Device

variable [Processor π]

theorem vault_announced {s : Store} {d : Device π} (hbegin : Store.begin.perform d.store = (.ok (), s))
    (batch : ChangeBatch) : ((d.withStore s).announced batch).store.vault = d.store.vault := by
  obtain ⟨-, -, hcontent, -⟩ := Store.begin_ok hbegin
  obtain ⟨n, s', hannounce, -, hvault⟩ := announce_ok batch.changes (d.withStore s).scope
  rw [announced, hannounce]
  exact hvault.trans (Store.vault_congr hcontent)

/-- Forwarding leaves the records alone, however it ends. -/
theorem Forwarded.vault {batch : ChangeBatch} {d d' : Device π} {res : Except SyncError Unit}
    (h : Forwarded batch d res d') : d'.store.vault = d.store.vault := by
  cases h with
  | refused => rfl
  | @undone s _ hbegin _ =>
    have hannounced := vault_announced hbegin batch
    have hsaved := (announced_spec hbegin batch).saved
    have hback := Store.vault_rollback ((d.withStore s).announced batch).store
    rw [hsaved] at hback
    exact hback.elim (fun h => h.trans hannounced) id
  | stranded hbegin _ _ => exact vault_announced hbegin batch
  | done hbegin _ hcommit hstore _ =>
    rw [hstore]
    exact (Store.vault_congr (Store.commit_ok hcommit).1).trans (vault_announced hbegin batch)

theorem vault_relay (batch : ChangeBatch) (d : Device π) :
    (d.relay batch).store.vault = d.store.vault := by
  by_cases hforwarded : batch.isLocal = true ∧ Processor.isTracking d.processor = true
  · rw [(relay_forwarded hforwarded).1]
    exact (forwarded batch d).vault
  · rw [(relay_skipped hforwarded).1]

/-- Forwarding leaves those who are told of batches alone. -/
theorem notifier_forward (batch : ChangeBatch) (d : Device π) :
    ((forward batch).perform d).2.notifier = d.notifier := by
  unfold forward
  rcases hbegin : Store.begin.perform d.store with ⟨e | _, s⟩
  · rw [perform_bind, perform_onStore hbegin]
    rfl
  · obtain ⟨n, s', hannounce, -⟩ := announce_ok batch.changes (d.withStore s).scope
    rw [bind_of_ok (perform_onStore hbegin)]
    simp only [perform_bind, perform_get, hannounce, perform_modify, perform_ofExcept]
    cases hfault : s'.writeFault with
    | some e =>
      rw [bind_of_ok (rollback_anyhow _)]
      rfl
    | none =>
      rw [perform_bind, onStore_perform]
      rcases (Store.commit.perform ((d.withStore s).putScope s').store).1 with e | _ <;> rfl

theorem notifier_relay (batch : ChangeBatch) (d : Device π) :
    (d.relay batch).notifier = d.notifier := by
  have hforward := notifier_forward batch d
  unfold relay
  split
  · rcases hres : (forward batch).perform d with ⟨e | _, d'⟩ <;> rw [hres] at hforward <;>
      exact hforward
  · rfl

theorem callObserver_keeps (batch : ChangeBatch) (os : List ObserverId) (d : Device π) :
    (os.foldl (callObserver batch) d).store.vault = d.store.vault ∧
      (os.foldl (callObserver batch) d).notifier = d.notifier := by
  induction os generalizing d with
  | nil => exact ⟨rfl, rfl⟩
  | cons o os ih =>
    have hone : (d.callObserver batch o).store.vault = d.store.vault ∧
        (d.callObserver batch o).notifier = d.notifier := by
      unfold callObserver
      split
      · exact ⟨vault_relay batch d, notifier_relay batch d⟩
      · exact ⟨rfl, rfl⟩
    obtain ⟨hvault, hnotifier⟩ := ih (d.callObserver batch o)
    exact ⟨hvault.trans hone.1, hnotifier.trans hone.2⟩

/-- **Telling everyone of a batch leaves the records alone, and sends the batch once.** -/
theorem notify_spec (batch : ChangeBatch) (d : Device π) :
    (d.notify batch).store.vault = d.store.vault ∧
      (d.notify batch).notifier =
        { d.notifier.prune with channel := d.notifier.channel.send batch } := by
  rw [notify_eq]
  obtain ⟨hvault, hnotifier⟩ :=
    callObserver_keeps batch d.notifier.live { d with notifier := d.notifier.prune }
  refine ⟨hvault, ?_⟩
  simp only [hnotifier]
  rfl

/-! ## 4. Committed batches -/

/-- A device right after a commit: the body has run in a transaction that began on `d`, the commit has
    succeeded and was counted, and nobody has been told of it. -/
inductive JustCommitted (batcher : Batcher) (body : Device π → Draft β × Device π) (d : Device π) :
    Device π → Prop where
  | intro {s t : Store} (hbegin : Store.begin.perform d.store = (.ok (), s))
      (hcommit : Store.commit.perform (body (d.withStore s)).2.store = (.ok (), t)) :
      JustCommitted batcher body d
        (((body (d.withStore s)).2.withStore t).settled batcher (body (d.withStore s)).1.changes)

/-- A batch of changes was notified, unless it is empty: the device `d'` is what telling everyone of it
    once made of the device right after the commit, whose transaction is closed, and whose observers and
    receivers were told nothing yet. -/
def NotifiedOnce (batcher : Batcher) (body : Device π → Draft β × Device π) (batch : ChangeBatch)
    (d d' : Device π) : Prop :=
  ∃ c : Device π, JustCommitted batcher body d c ∧ c.store.isOpen = false ∧ c.notifier = d.notifier ∧
    d' = (if batch.changes = [] then c else c.notify batch) ∧
    d'.notifier.channel = (if batch.changes = [] then d.notifier.channel
      else d.notifier.channel.send batch)

omit [Processor π] in
theorem settled_keeps (batcher : Batcher) (cs : List LocalChange) (d : Device π) :
    (d.settled batcher cs).store = d.store ∧ (d.settled batcher cs).notifier = d.notifier := by
  cases batcher <;> exact ⟨rfl, rfl⟩

theorem vault_told (side : Side) (cs : List LocalChange) (d : Device π) :
    (d.told side cs).store.vault = d.store.vault := by
  unfold told
  split
  · rfl
  · exact (notify_spec _ d).1

theorem notifiedOnce_told {batcher : Batcher} {side : Side} {body : Device π → Draft β × Device π}
    {cs : List LocalChange} {c d : Device π} (hcommitted : JustCommitted batcher body d c)
    (hclosed : c.store.isOpen = false) (hnotifier : c.notifier = d.notifier) :
    NotifiedOnce batcher body ⟨side, cs⟩ d (c.told side cs) := by
  refine ⟨c, hcommitted, hclosed, hnotifier, ?_, ?_⟩
  · cases cs <;> rfl
  · cases cs with
    | nil => exact congrArg Notifier.channel hnotifier
    | cons c' cs =>
      have htold := (notify_spec ⟨side, c' :: cs⟩ c).2
      rw [hnotifier] at htold
      exact congrArg Notifier.channel htold

theorem Batched.replays {batcher : Batcher} {side : Side} {body : Device π → Draft β × Device π}
    (hbody : Gathers body) {d d' : Device π} {v : β} {cs : List LocalChange}
    (hsound : d.store.vault.Sound) (hcandid : d.store.Candid)
    (h : Batched batcher side body d (.committed v cs) d') :
    LocalChange.replayAll cs d.store.vault.records = some d'.store.vault.records ∧
      NotifiedOnce batcher body ⟨side, cs⟩ d d' := by
  generalize ho : BatchOutcome.committed v cs = o at h
  cases h with
  | refused | abandoned => cases ho
  | @committed s t hbegin hdone hcommit =>
    obtain ⟨-, rfl⟩ := BatchOutcome.committed.inj ho
    obtain ⟨-, hsaved, hcontent, hsteady⟩ := Store.begin_ok hbegin
    obtain ⟨hcommitted, hclosed, -⟩ := Store.commit_ok hcommit
    obtain ⟨hgathered, hnotifier⟩ := hbody (d.withStore s)
    have hreporting := hgathered.reporting
      (hcandid.of_switches (Store.switches_begin hbegin)) hsaved
    -- A database whose transaction has ended cannot commit, so the reports lead all the way.
    have hsteps : Vault.Steps d.store.vault (body (d.withStore s)).1.changes t.vault := by
      rw [Store.vault_congr hcommitted, ← Store.vault_congr hcontent]
      rcases hreporting.steps with ⟨-, hsteps⟩ | ⟨hlost, hreplaces⟩
      · exact hsteps
      · exact absurd hlost (Store.saved_of_commit (hreporting.replaces.trans hreplaces) hcommit)
    obtain ⟨hstore, hsame⟩ := settled_keeps batcher (body (d.withStore s)).1.changes
      ((body (d.withStore s)).2.withStore t)
    refine ⟨?_, notifiedOnce_told (.intro hbegin hcommit) ?_ (hsame.trans hnotifier)⟩
    · rw [vault_told, hstore]
      exact hsteps.replayAll hsound
    · rw [hstore, Store.isOpen_eq]
      exact congrArg Option.isSome hclosed

/-- **A committed batch reports exactly the difference that it made.** Its list of changes, replayed on
    the records before it, fits all the way and gives the records behind it. If the list is not empty,
    everyone is told of it once, with the side of the batch, right after the transaction is closed; else
    nobody is told of anything. So it is with every body that changes records through its scope only,
    which merging, applying and all scoped writes do. -/
theorem committed_replays :
    (∀ (batcher : Batcher) (side : Side) (body : Device π → Draft β × Device π) (d d' : Device π)
        (v : β) (cs : List LocalChange),
      Gathers body → d.store.vault.Sound → d.store.Candid →
      d.batch batcher side body = (.committed v cs, d') →
      LocalChange.replayAll cs d.store.vault.records = some d'.store.vault.records ∧
        NotifiedOnce batcher body ⟨side, cs⟩ d d') ∧
      (∀ changes, Gathers (body (Merge.work changes) :
        Device π → Draft (Except SyncError MergeSummary) × Device π)) ∧
      (∀ changes, Gathers (body (Apply.work changes) :
        Device π → Draft (Except SyncError ApplySummary) × Device π)) ∧
      ∀ w : Write β, w.Scoped → Gathers (w.run [] : Device π → Draft β × Device π) := by
  refine ⟨fun batcher side body d d' v cs hbody hsound hcandid h => ?_,
    fun changes => (Work.made_merge changes).body, fun changes => (Work.made_apply changes).body,
    fun w hw => hw.body⟩
  have hbatched := batched batcher side body d
  rw [h] at hbatched
  exact hbatched.replays hbody hsound hcandid

/-- A device with an empty database and without a bridge. -/
def unwritten : Device Recorder :=
  { store := .database .fresh, processor := {}, notifier := .ofCapacity 1 }

/-- A write that adds a record, and then another one with the same natural key. -/
def renewal : Write Unit :=
  .edit (.add (.sample "a")) fun _ => .edit (.add (.sample "a")) fun _ => .done () none

/-- What the write reports. -/
def renewed : List LocalChange :=
  [⟨.add, 1, .sample "a"⟩, ⟨.remove, 1, .sample "a"⟩, ⟨.add, 2, .sample "a"⟩]

theorem committed_replays_renewal :
    renewal.Scoped ∧ unwritten.store.vault.Sound ∧ unwritten.store.Candid ∧
      (unwritten.write renewal).1 = .committed () renewed ∧
      LocalChange.replayAll renewed unwritten.store.vault.records =
        some (unwritten.write renewal).2.store.vault.records ∧
      NotifiedOnce .bridge (renewal.run []) ⟨.device, renewed⟩ unwritten
        (unwritten.write renewal).2 := by
  have hscoped : renewal.Scoped := fun _ _ => trivial
  have hsound : unwritten.store.vault.Sound := Store.Sound.fresh.vault
  have hcandid : unwritten.store.Candid := .of_quiet ⟨rfl, rfl⟩
  have hwrite : unwritten.write renewal = (.committed () renewed, (unwritten.write renewal).2) := rfl
  exact ⟨hscoped, hsound, hcandid, rfl,
    committed_replays.1 _ _ _ _ _ () renewed hscoped.body hsound hcandid hwrite⟩

end Device

end CredentialSync
