import CredentialSync.Bridge.Basic
import CredentialSync.Proofs.Store.Transactions

/-!
# Work within a transaction

Work is `Work.Orderly` if

* the open transaction stays open, unless the work fails and the transaction has been undone;
* as long as no write to the metadata has failed, the metadata is what was asked for
  (`Scope.Faithful`).

`Work.Made` is work that only edits records, looks at the store, writes metadata and tells the
processor. It is orderly (`Made.orderly`), and merging, applying and forgetting are made of these
steps (`made_merge`, `made_apply`, `made_forget`). Work that is `Work.Direct` also leaves the
collected metadata alone (`Direct.pending`).
-/

namespace CredentialSync

open Attempt

/-- Tells a processor something; gives its answer. -/
def ProcessorCall.deliver {π : Type} [Processor π] : ProcessorCall → π → List MetadataWrite × π
  | .put key e, p => Processor.put key e p
  | .delete key, p => Processor.delete key p
  | .assignKey key e, p => Processor.assignKey e key p
  | .ready b, p => ([], Processor.ready b p)
  | .report e, p => ([], Processor.report e p)

variable {π : Type} {α β : Type}

/-- Unless a write has failed, all metadata asked for has been written onto `m`. -/
def Scope.Faithful (m : StoredMetadata) (s : Scope π) : Prop :=
  s.writeFault = none → s.store.metadata = s.asked.foldl StoredMetadata.apply m

namespace Work

/-! ## 1. Orderly work -/

/-- What orderly work makes of a scope. -/
structure Left (s : Scope π) (res : Except SyncError α) (s' : Scope π) : Prop where
  steady : s.store.Steady s'.store
  transaction : ∀ c, s.store.saved = some c → s'.store.saved = some c ∨
    ((∃ e, res = .error e) ∧ s'.store.saved = none ∧ s'.store.content = c)
  faithful : ∀ a, res = .ok a → ∀ m, s.Faithful m → s'.Faithful m

/-- Work that keeps the transaction and writes what it asks for. -/
def Orderly (w : Work π α) : Prop := ∀ s, Left s (w.perform s).1 (w.perform s).2

theorem Left.refl (s : Scope π) (res : Except SyncError α) : Left s res s :=
  ⟨.refl _, fun _ h => .inl h, fun _ _ _ h => h⟩

/-- Only store, faults and what was asked for count. -/
theorem Left.congr {s s' t' : Scope π} {res : Except SyncError α} (h : Left s res s')
    (hstore : t'.store = s'.store) (hasked : t'.asked = s'.asked)
    (hfault : t'.writeFault = s'.writeFault) : Left s res t' := by
  refine ⟨hstore ▸ h.steady, hstore ▸ h.transaction, fun a ha m hm hf => ?_⟩
  rw [hstore, hasked]
  exact h.faithful a ha m hm (hfault ▸ hf)

theorem Left.trans {s t u : Scope π} {a : α} {res : Except SyncError β} (h : Left s (.ok a) t)
    (h' : Left t res u) : Left s res u := by
  refine ⟨h.steady.trans h'.steady, fun c hc => ?_, fun b hb m hm => ?_⟩
  · rcases h.transaction c hc with ht | ⟨⟨_, he⟩, _⟩
    · exact h'.transaction c ht
    · cases he
  · exact h'.faithful b hb m (h.faithful a rfl m hm)

theorem Left.error {s t : Scope π} {e : SyncError} (h : Left s (.error e : Except SyncError α) t) :
    Left s (.error e : Except SyncError β) t :=
  ⟨h.steady, fun c hc => (h.transaction c hc).imp_right fun ⟨_, hs⟩ => ⟨⟨e, rfl⟩, hs⟩, nofun⟩

namespace Orderly

theorem left {w : Work π α} (hw : Orderly w) {s t : Scope π} {res : Except SyncError α}
    (h : w.perform s = (res, t)) : Left s res t := by
  have hs := hw s
  rwa [h] at hs

theorem of_reads {w : Work π α} (h : w.Reads) : Orderly w := fun s => by
  rw [h s]
  exact .refl s _

theorem pure (a : α) : Orderly (pure a : Work π α) := of_reads (.pure a)

theorem throw (e : SyncError) : Orderly (throw e : Work π α) := of_reads (.throw e)

theorem get : Orderly (get : Work π (Scope π)) := of_reads .get

theorem bind {w : Work π α} {f : α → Work π β} (hw : Orderly w) (hf : ∀ a, Orderly (f a)) :
    Orderly (w >>= f) := fun s => by
  have h := hw s
  rw [perform_bind]
  rcases hres : w.perform s with ⟨e | a, t⟩ <;> rw [hres] at h
  · exact h.error
  · exact h.trans (hf a t)

/-- Steps that store, faults and what was asked for do not depend on. -/
theorem modify {f : Scope π → Scope π} (hstore : ∀ s, (f s).store = s.store)
    (hasked : ∀ s, (f s).asked = s.asked) (hfault : ∀ s, (f s).writeFault = s.writeFault) :
    Orderly (modify f : Work π PUnit) := fun s =>
  (Left.refl s _).congr (hstore s) (hasked s) (hfault s)

end Orderly

/-! ## 2. The steps of a batch -/

theorem reads_onStore {a : Attempt Store α} (h : a.Reads) :
    (onStore a : Work π α).Reads := fun s => by
  rw [onStore, perform_within, h s.store]

/-- One change to the metadata is skipped, written, or fails. -/
theorem writeOne_cases (s : Scope π) (w : MetadataWrite) :
    (∃ e, s.writeFault = some e ∧ writeOne s w = { s with asked := s.asked ++ [w] }) ∨
      (s.writeFault = none ∧ ∃ t, (Store.writeMetadata w).perform s.store = (.ok (), t) ∧
        writeOne s w = { s with store := t, asked := s.asked ++ [w] }) ∨
      ∃ e t, (Store.writeMetadata w).perform s.store = (.error e, t) ∧
        writeOne s w = { s with
          store := t, asked := s.asked ++ [w], writeFault := some (asMetadataFailure e) } := by
  unfold writeOne
  rcases s with ⟨store, p, pending, changes, asked, _ | e⟩
  · rcases hw : (Store.writeMetadata w).perform store with ⟨e | _, t⟩
    · exact .inr (.inr ⟨e, t, rfl, by simp only [hw]⟩)
    · exact .inr (.inl ⟨rfl, t, rfl, by simp only [hw]⟩)
  · exact .inl ⟨e, rfl, rfl⟩

/-- What every change to the metadata keeps of a store, changes one after another keep. -/
theorem keeps_writes {Q : Store → Prop} (hQ : ∀ w, (Store.writeMetadata w).Keeps Q)
    (ws : List MetadataWrite) {s : Scope π} (h : Q s.store) : Q (ws.foldl writeOne s).store := by
  induction ws generalizing s with
  | nil => exact h
  | cons w ws ih =>
    refine ih ?_
    rcases writeOne_cases s w with ⟨e, -, heq⟩ | ⟨-, t, hw, heq⟩ | ⟨e, t, hw, heq⟩ <;> rw [heq]
    · exact h
    · exact (hQ w).state h hw
    · exact (hQ w).state h hw

theorem left_writeOne (s : Scope π) (w : MetadataWrite) :
    Left s (.ok () : Except SyncError Unit) (writeOne s w) := by
  rcases writeOne_cases s w with ⟨e, hfault, heq⟩ | ⟨hfault, t, hw, heq⟩ | ⟨e, t, hw, heq⟩ <;>
    rw [heq]
  · refine ⟨.refl _, fun _ h => .inl h, fun _ _ m _ hf => ?_⟩
    rw [show s.writeFault = none from hf] at hfault
    cases hfault
  · obtain ⟨hwritten, hsaved, hsteady⟩ := Store.written hw
    refine ⟨hsteady, fun c hc => .inl (hsaved.trans hc), fun _ _ m hm _ => ?_⟩
    cases hwritten with
    | done hmetadata _ =>
      show t.metadata = (s.asked ++ [w]).foldl StoredMetadata.apply m
      rw [List.foldl_append, ← hm hfault, hmetadata]
      rfl
  · obtain ⟨-, hsaved, hsteady⟩ := Store.written hw
    exact ⟨hsteady, fun c hc => .inl (hsaved.trans hc), fun _ _ m _ hf => by cases hf⟩

theorem left_writes (ws : List MetadataWrite) (s : Scope π) :
    Left s (.ok () : Except SyncError Unit) (ws.foldl writeOne s) := by
  induction ws generalizing s with
  | nil => exact .refl s _
  | cons w ws ih => exact (left_writeOne s w).trans (ih _)

theorem orderly_write (ws : List MetadataWrite) : Orderly (write ws : Work π Unit) := left_writes ws

theorem perform_writePending (s : Scope π) :
    writePending.perform s = (.ok (), s.pending.writes.foldl writeOne { s with pending := {} }) := rfl

theorem orderly_writePending : Orderly (writePending : Work π Unit) := fun s => by
  rw [perform_writePending]
  refine Left.trans (a := ()) ?_ (left_writes _ _)
  exact (Left.refl s _).congr rfl rfl rfl

/-- Editing a record keeps the transaction, or fails and has undone it. -/
theorem orderly_change (e : Edit) : Orderly (change e.attempt : Work π (List LocalChange)) := by
  refine Orderly.bind (fun s => ?_) fun cs =>
    (Orderly.modify (f := fun s => { s with changes := s.changes ++ cs }) (fun _ => rfl)
      (fun _ => rfl) fun _ => rfl).bind fun _ => .pure _
  rw [onStore, perform_within]
  rcases hres : e.attempt.perform s.store with ⟨res, t⟩
  obtain ⟨hedited, hsteady⟩ := Store.edited hres
  cases hedited with
  | done hedit hreport hsaved hmetadata =>
    refine ⟨hsteady, fun c hc => .inl (hsaved.trans hc), fun _ _ m hm hf => ?_⟩
    exact hmetadata.trans (hm hf)
  | failed hcontent hsaved => exact ⟨hsteady, fun c hc => .inl (hsaved.trans hc), nofun⟩
  | lost hsteps hmetadata hcontent hsaved =>
    refine ⟨hsteady, fun c hc => .inr ⟨⟨_, rfl⟩, hsaved, ?_⟩, nofun⟩
    rw [hcontent, hc]
    rfl

section Processor

variable [Processor π]

omit [Processor π] in
theorem perform_tell (f : π → List MetadataWrite × π) (s : Scope π) :
    (tell f).perform s =
      (.ok (), (f s.processor).1.foldl writeOne { s with processor := (f s.processor).2 }) := rfl

omit [Processor π] in
theorem orderly_tell (f : π → List MetadataWrite × π) : Orderly (tell f) := fun s => by
  rw [perform_tell]
  refine Left.trans (a := ()) ?_ (left_writes _ _)
  exact (Left.refl s _).congr rfl rfl rfl

/-! ## 3. Work made of these steps -/

/-- The work consists of steps that a batch may take. -/
inductive Made : {α : Type} → Work π α → Prop where
  | reads {α : Type} {w : Work π α} (h : w.Reads) : Made w
  | change (e : Edit) : Made (change e.attempt)
  | write (ws : List MetadataWrite) : Made (write ws)
  | writePending : Made writePending
  | tell (c : ProcessorCall) : Made (tell c.deliver)
  | bind {α β : Type} {w : Work π α} {f : α → Work π β} (hw : Made w) (hf : ∀ a, Made (f a)) :
    Made (w >>= f)

/-- The work consists of such steps, and leaves the collected metadata alone. -/
inductive Direct : {α : Type} → Work π α → Prop where
  | reads {α : Type} {w : Work π α} (h : w.Reads) : Direct w
  | change (e : Edit) : Direct (change e.attempt)
  | write (ws : List MetadataWrite) : Direct (write ws)
  | tell (c : ProcessorCall) : Direct (tell c.deliver)
  | bind {α β : Type} {w : Work π α} {f : α → Work π β} (hw : Direct w) (hf : ∀ a, Direct (f a)) :
    Direct (w >>= f)

omit [Processor π] in
theorem reads_settle : (settle : Work π Unit).Reads := by
  refine Reads.get.bind fun s => ?_
  split
  · exact .pure _
  · exact .throw _

theorem Direct.pure (a : α) : Direct (pure a : Work π α) := .reads (.pure a)

theorem Direct.throw (e : SyncError) : Direct (throw e : Work π α) := .reads (.throw e)

theorem Direct.settle : Direct (settle : Work π Unit) := .reads reads_settle

theorem Direct.made {w : Work π α} (h : Direct w) : Made w := by
  induction h with
  | reads h => exact .reads h
  | change e => exact .change e
  | write ws => exact .write ws
  | tell c => exact .tell c
  | bind _ _ hw hf => exact hw.bind hf

/-- **Work made of the steps of a batch is orderly.** -/
theorem Made.orderly {w : Work π α} (h : Made w) : Orderly w := by
  induction h with
  | reads h => exact .of_reads h
  | change e => exact orderly_change e
  | write ws => exact orderly_write ws
  | writePending => exact orderly_writePending
  | tell c => exact orderly_tell c.deliver
  | bind _ _ hw hf => exact hw.bind hf

/-! ## 4. Merging, applying, forgetting -/

theorem direct_overwriteFirst (r : Record) (keys : List PrimaryKey) :
    Direct (Merge.overwriteFirst r keys : Work π (Option PrimaryKey)) := by
  induction keys with
  | nil => exact .pure _
  | cons key keys ih =>
    refine (Direct.change (.updateAt key r)).bind fun cs => ?_
    split
    · exact ih
    · exact .pure _

theorem direct_clearRemoved (cs : List LocalChange) :
    Direct (Merge.clearRemoved cs : Work π (Option PrimaryKey × List PrimaryKey)) := by
  induction cs with
  | nil => exact .pure _
  | cons c cs ih =>
    unfold Merge.clearRemoved
    split
    · exact ih.bind fun _ => .pure _
    · exact (Direct.write _).bind fun _ => ih.bind fun _ => .pure _

theorem direct_materialize (e : Entity) :
    Direct (Merge.materialize e : Work π (PrimaryKey × List PrimaryKey)) := by
  refine (Direct.change (.add e.record)).bind fun cs =>
    (direct_clearRemoved cs).bind fun (key?, removed) => ?_
  cases key? with
  | none => exact .throw _
  | some key =>
    exact (Direct.write _).bind fun _ =>
      (Direct.tell (.assignKey key.storageKey e)).bind fun _ => .pure _

theorem direct_mergeEntity (m : Merging) (e : Entity) :
    Direct (Merge.mergeEntity m e : Work π Merging) := by
  refine (direct_overwriteFirst _ _).bind fun key? => ?_
  split
  · exact (Direct.write _).bind fun _ => .pure _
  · split
    · exact (Direct.change (.remove _)).bind fun _ => (Direct.write _).bind fun _ =>
        (direct_materialize e).bind fun _ => .pure _
    · exact (direct_materialize e).bind fun _ => .pure _

theorem direct_mergeEntities (m : Merging) (cs : List RemoteChange) :
    Direct (Merge.mergeEntities m cs : Work π Merging) := by
  induction cs generalizing m with
  | nil => exact .pure _
  | cons c cs ih =>
    unfold Merge.mergeEntities
    split
    · exact .throw _
    · exact (direct_mergeEntity m _).bind ih

theorem direct_announceUnmet (m : Merging) (rs : List (PrimaryKey × Record)) :
    Direct (Merge.announce m rs : Work π Nat) := by
  induction rs with
  | nil => exact .pure _
  | cons r rs ih =>
    unfold Merge.announce
    split
    · exact ih
    · exact (Direct.tell (.put r.1.storageKey (Entity.ofRecord r.2))).bind fun _ =>
        ih.bind fun _ => .pure _

theorem made_merge (changes : List RemoteChange) : Made (Merge.work changes : Work π MergeSummary) :=
  (Made.reads (reads_onStore Store.reads_readAll)).bind fun _ =>
    (direct_mergeEntities _ _).made.bind fun _ => (direct_announceUnmet _ _).made.bind fun _ =>
    (Made.reads .get).bind fun _ => Made.writePending.bind fun _ => (Made.write _).bind fun _ =>
    Direct.settle.made.bind fun _ => .reads (.pure _)

theorem direct_addEntity (e : Entity) : Direct (Apply.addEntity e : Work π PrimaryKey) := by
  refine (Direct.change (.add e.record)).bind fun cs =>
    (direct_clearRemoved cs).bind fun (key?, _) => ?_
  cases key? with
  | none => exact .throw _
  | some key => exact (Direct.tell (.assignKey key.storageKey e)).bind fun _ => .pure _

theorem direct_residentKey (key : StorageKey) : Direct (Apply.residentKey key : Work π PrimaryKey) := by
  refine (Direct.reads (.ofExcept _)).bind fun k =>
    (Direct.reads (reads_onStore (Store.reads_record? k))).bind fun r => ?_
  cases r with
  | none => exact .throw _
  | some r => exact .pure _

theorem direct_requireData (c : RemoteChange) : Direct (Apply.requireData c : Work π Entity) := by
  unfold Apply.requireData
  split
  · exact .pure _
  · exact .throw _

theorem direct_updateEntity (key : PrimaryKey) (e : Entity) :
    Direct (Apply.updateEntity key e : Work π Unit) := by
  refine (Direct.change (.updateAt key e.record)).bind fun cs => ?_
  cases cs.isEmpty with
  | true =>
    exact (Direct.change (.remove key)).bind fun _ => (Direct.write _).bind fun _ =>
      (direct_addEntity e).bind fun _ => .pure _
  | false => exact .pure _

theorem direct_applyChange (c : RemoteChange) : Direct (Apply.applyChange c : Work π Unit) := by
  unfold Apply.applyChange
  cases c.kind with
  | add => exact (direct_requireData c).bind fun e => (direct_addEntity e).bind fun _ => .pure _
  | update =>
    exact (direct_residentKey _).bind fun key => (direct_requireData c).bind fun e =>
      direct_updateEntity key e
  | delete =>
    exact (direct_residentKey _).bind fun key => (Direct.change (.remove key)).bind fun _ =>
      .write _

theorem direct_applyChanges (s : ApplySummary) (cs : List RemoteChange) :
    Direct (Apply.applyChanges s cs : Work π ApplySummary) := by
  induction cs generalizing s with
  | nil => exact .pure _
  | cons c cs ih => exact (direct_applyChange c).bind fun _ => ih _

theorem made_apply (changes : List RemoteChange) : Made (Apply.work changes : Work π ApplySummary) :=
  (direct_applyChanges _ _).made.bind fun _ => Made.writePending.bind fun _ =>
    Direct.settle.made.bind fun _ => .reads (.pure _)

theorem made_forget : Made (Device.forgetMetadata : Work π Unit) :=
  (Made.reads (reads_onStore Store.reads_readMetadata)).bind fun _ =>
    (Made.write _).bind fun _ => Direct.settle.made

/-! ## 5. Work that settles its writes -/

/-- Work that succeeds only if no write to the metadata has failed. -/
def Settles (w : Work π α) : Prop :=
  ∀ s a s', w.perform s = (.ok a, s') → s'.writeFault = none

omit [Processor π] in
theorem Settles.behind {w : Work π α} {f : α → Work π β} (hf : ∀ a, Settles (f a)) :
    Settles (w >>= f) := fun _ _ _ h => by
  obtain ⟨a, t, -, hrest⟩ := ok_of_bind h
  exact hf a _ _ _ hrest

omit [Processor π] in
theorem ok_of_settle {s s' : Scope π} (h : settle.perform s = (.ok (), s')) :
    s' = s ∧ s.writeFault = none := by
  unfold settle at h
  rw [perform_bind, perform_get] at h
  cases hf : s.writeFault with
  | none =>
    simp only [hf, perform_pure, Prod.mk.injEq, true_and] at h
    exact ⟨h.symm, rfl⟩
  | some e => simp [hf] at h

omit [Processor π] in
theorem settles_settle : Settles (settle : Work π Unit) := fun s a s' h => by
  obtain ⟨rfl, hf⟩ := ok_of_settle h
  exact hf

omit [Processor π] in
theorem Settles.map {w : Work π α} (hw : Settles w) (b : α → β) :
    Settles (w >>= fun a => (Pure.pure (b a) : Work π β)) := fun _ _ _ h => by
  obtain ⟨a, t, ha, hrest⟩ := ok_of_bind h
  cases hrest
  exact hw _ _ _ ha

theorem settles_merge (changes : List RemoteChange) :
    Settles (Merge.work changes : Work π MergeSummary) :=
  .behind fun _ => .behind fun _ => .behind fun _ => .behind fun _ => .behind fun _ =>
    .behind fun _ => settles_settle.map _

theorem settles_apply (changes : List RemoteChange) :
    Settles (Apply.work changes : Work π ApplySummary) :=
  .behind fun _ => .behind fun _ => settles_settle.map _

omit [Processor π] in
theorem settles_forget : Settles (Device.forgetMetadata : Work π Unit) :=
  .behind fun _ => .behind fun _ => settles_settle

end Processor

end Work

end CredentialSync
