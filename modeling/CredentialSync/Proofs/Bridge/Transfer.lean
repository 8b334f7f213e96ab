import CredentialSync.Proofs.Bridge.Collected
import CredentialSync.Proofs.Store.Cells

/-!
# Collected metadata and metadata written at once

A caller may collect changes to the metadata and have them written later, or write them at once. Both
come to the same (`collected_writes_agree`): in a scope, in another collection, and around an
application of remote changes, which writes what its caller has collected at its end.

* `Work.Wrote` says what a list of writes leaves of a scope.
* Work is `Work.Blind` if the collected metadata plays no part in it. Carrying out remote changes is
  (`Blind.applyChanges`), so that it does the same whatever was collected.
* `Device.carried_of_apply`, `Device.Carried.succeeds`: an application is the carrying out of the changes,
  then the writing of what was collected, then a commit on which the writes have no effect.
-/

namespace CredentialSync

open Attempt PendingMetadata

variable {π : Type} {α β : Type}

namespace Work

/-! ## 1. Writes -/

/-- What a list of writes leaves of a scope. No write fails exactly if none had before and the store
carries out all of them. -/
structure Wrote (s : Scope π) (ws : List MetadataWrite) (s' : Scope π) : Prop where
  switches : s'.store.switches = s.store.switches
  saved : s'.store.saved = s.store.saved
  metadata : s'.writeFault = none →
    s'.store.metadata = ws.foldl StoredMetadata.apply s.store.metadata
  fault : s'.writeFault = none ↔ s.writeFault = none ∧ ∀ w ∈ ws, s.store.Takes w
  asked : s'.asked = s.asked ++ ws

theorem Wrote.refl (s : Scope π) : Wrote s [] s where
  switches := rfl
  saved := rfl
  metadata _ := rfl
  fault := (and_iff_left fun _ hw => absurd hw List.not_mem_nil).symm
  asked := (List.append_nil _).symm

theorem Wrote.trans {s t u : Scope π} {ws ws' : List MetadataWrite} (h : Wrote s ws t)
    (h' : Wrote t ws' u) : Wrote s (ws ++ ws') u where
  switches := h'.switches.trans h.switches
  saved := h'.saved.trans h.saved
  metadata hu := by
    rw [List.foldl_append, h'.metadata hu, h.metadata (h'.fault.1 hu).1]
  fault := by
    have htakes (ht : t.writeFault = none) : (∀ w ∈ ws', t.store.Takes w) ↔
        ∀ w ∈ ws', s.store.Takes w :=
      forall₂_congr fun w _ => Store.takes_congr ws h.switches (h.metadata ht) rfl
    rw [h'.fault, and_congr_right htakes, h.fault, and_assoc, List.forall_mem_append]
  asked := by rw [h'.asked, h.asked, List.append_assoc]

theorem wrote_one (s : Scope π) (w : MetadataWrite) : Wrote s [w] (writeOne s w) := by
  -- a write has failed before, the write is carried out, or it fails
  rcases writeOne_cases s w with ⟨e, hfault, heq⟩ | ⟨hfault, t, hw, heq⟩ | ⟨e, t, hw, heq⟩ <;>
    rw [heq]
  · refine ⟨rfl, rfl, fun hnone => ?_, iff_of_false ?_ fun ⟨hnone, _⟩ => ?_, rfl⟩
    · rw [hfault] at hnone
      cases hnone
    · rw [hfault]
      nofun
    · rw [hfault] at hnone
      cases hnone
  · obtain ⟨hwritten, hsaved, -⟩ := Store.written hw
    cases hwritten with
    | done hmetadata _ =>
      have htakes : s.store.Takes w := congrArg Prod.fst hw
      exact ⟨Store.switches_writeMetadata hw, hsaved, fun _ => hmetadata,
        iff_of_true hfault ⟨hfault, List.forall_mem_singleton.2 htakes⟩, rfl⟩
  · obtain ⟨-, hsaved, -⟩ := Store.written hw
    refine ⟨Store.switches_writeMetadata hw, hsaved, nofun, iff_of_false nofun fun ⟨_, hall⟩ => ?_, rfl⟩
    have htakes : ((Store.writeMetadata w).perform s.store).1 = .ok () :=
      hall w (List.mem_singleton_self w)
    rw [hw] at htakes
    cases htakes

theorem Wrote.setPending {s s' : Scope π} {ws : List MetadataWrite} {p : PendingMetadata}
    (h : Wrote { s with pending := p } ws s') : Wrote s ws s' :=
  ⟨h.switches, h.saved, h.metadata, h.fault, h.asked⟩

/-- **Writes, one after another.** -/
theorem wrote (ws : List MetadataWrite) (s : Scope π) : Wrote s ws (ws.foldl writeOne s) := by
  induction ws generalizing s with
  | nil => exact .refl s
  | cons w ws ih => exact (wrote_one s w).trans (ih _)

/-- **Writes that are collected alike fail alike, and leave the same metadata.** -/
theorem wrote_congr {ws ws' : List MetadataWrite} (h : collect ws = collect ws') {s t t' : Scope π}
    (hs : Wrote s ws t) (hs' : Wrote s ws' t') :
    (t.writeFault = none ↔ t'.writeFault = none) ∧
      (t'.writeFault = none → t.store.SameMetadata t'.store) := by
  have hfault : t.writeFault = none ↔ t'.writeFault = none := by
    rw [hs.fault, hs'.fault, Store.forall_takes_congr h]
  refine ⟨hfault, fun hnone => .of_cells ?_ (hs'.switches.trans hs.switches.symm)⟩
  rw [hs.metadata (hfault.2 hnone), hs'.metadata hnone]
  exact StoredMetadata.same_foldl h _

/-! ## 2. Work that the collected metadata plays no part in -/

/-- The work does the same whatever was collected, and leaves that alone. -/
def Blind (w : Work π α) : Prop := ∀ s p,
  w.perform { s with pending := p } = ((w.perform s).1, { (w.perform s).2 with pending := p })

namespace Blind

theorem pure (a : α) : Blind (pure a : Work π α) := fun _ _ => rfl

theorem throw (e : SyncError) : Blind (throw e : Work π α) := fun _ _ => rfl

theorem ofExcept (r : Except SyncError α) : Blind (Attempt.ofExcept r : Work π α) := fun _ _ => by
  rw [perform_ofExcept, perform_ofExcept]

theorem onStore (a : Attempt Store α) : Blind (Work.onStore a : Work π α) := fun _ _ => rfl

theorem bind {w : Work π α} {f : α → Work π β} (hw : Blind w) (hf : ∀ a, Blind (f a)) :
    Blind (w >>= f) := fun s p => by
  rw [perform_bind, perform_bind, hw s p]
  rcases w.perform s with ⟨e | a, t⟩
  · rfl
  · exact hf a t p

theorem change (a : Attempt Store (List LocalChange)) : Blind (Work.change a : Work π _) :=
  (onStore a).bind fun _ => bind (fun _ _ => rfl) fun _ => .pure _

theorem foldl_writeOne (ws : List MetadataWrite) (s : Scope π) (p : PendingMetadata) :
    ws.foldl writeOne { s with pending := p } = { ws.foldl writeOne s with pending := p } := by
  induction ws generalizing s with
  | nil => rfl
  | cons w ws ih =>
    have hone : writeOne { s with pending := p } w = { writeOne s w with pending := p } := by
      obtain ⟨store, processor, pending, changes, asked, _ | e⟩ := s
      · rcases hres : (Store.writeMetadata w).perform store with ⟨e | _, t⟩ <;>
          simp only [writeOne, hres]
      · rfl
    rw [List.foldl_cons, List.foldl_cons, hone, ih]

theorem write (ws : List MetadataWrite) : Blind (Work.write ws : Work π Unit) := fun s p =>
  congrArg (Prod.mk _) (foldl_writeOne ws s p)

theorem tell [Processor π] (f : π → List MetadataWrite × π) : Blind (Work.tell f) := fun s p => by
  rw [perform_tell, perform_tell]
  exact congrArg (Prod.mk _) (foldl_writeOne _ { s with processor := (f s.processor).2 } p)

theorem clearRemoved (cs : List LocalChange) :
    Blind (Merge.clearRemoved cs : Work π (Option PrimaryKey × List PrimaryKey)) := by
  induction cs with
  | nil => exact .pure _
  | cons c cs ih =>
    unfold Merge.clearRemoved
    split
    · exact ih.bind fun _ => .pure _
    · exact (write _).bind fun _ => ih.bind fun _ => .pure _

theorem residentKey (key : StorageKey) : Blind (Apply.residentKey key : Work π PrimaryKey) := by
  refine (ofExcept _).bind fun k => (onStore _).bind fun r => ?_
  cases r with
  | none => exact .throw _
  | some r => exact .pure _

theorem requireData (c : RemoteChange) : Blind (Apply.requireData c : Work π Entity) := by
  unfold Apply.requireData
  split
  · exact .pure _
  · exact .throw _

variable [Processor π]

theorem addEntity (e : Entity) : Blind (Apply.addEntity e : Work π PrimaryKey) := by
  refine (change _).bind fun cs => (clearRemoved cs).bind fun (key?, _) => ?_
  cases key? with
  | none => exact .throw _
  | some key => exact (tell _).bind fun _ => .pure _

theorem updateEntity (key : PrimaryKey) (e : Entity) :
    Blind (Apply.updateEntity key e : Work π Unit) := by
  refine (change _).bind fun cs => ?_
  cases cs.isEmpty with
  | true => exact (change _).bind fun _ => (write _).bind fun _ => (addEntity e).bind fun _ => .pure _
  | false => exact .pure _

theorem applyChange (c : RemoteChange) : Blind (Apply.applyChange c : Work π Unit) := by
  unfold Apply.applyChange
  cases c.kind with
  | add => exact (requireData c).bind fun e => (addEntity e).bind fun _ => .pure _
  | update =>
    exact (residentKey _).bind fun key => (requireData c).bind fun e => updateEntity key e
  | delete => exact (residentKey _).bind fun key => (change _).bind fun _ => write _

/-- **Carrying out remote changes is blind.** -/
theorem applyChanges (summary : ApplySummary) (cs : List RemoteChange) :
    Blind (Apply.applyChanges summary cs : Work π ApplySummary) := by
  induction cs generalizing summary with
  | nil => exact .pure _
  | cons c cs ih => exact (applyChange c).bind fun _ => ih _

end Blind

end Work

/-! ## 3. Applying with collected metadata -/

namespace Apply

variable {changes : List RemoteChange} {summary summary' : ApplySummary} {s u : Scope π}
  {p : PendingMetadata}

/-- The end of an application writes what was collected, and succeeds if no write has failed. -/
theorem conclude_ok_iff :
    (conclude summary).perform s = (.ok summary', u) ↔ summary' = summary ∧
      u = s.pending.writes.foldl Work.writeOne { s with pending := {} } ∧ u.writeFault = none := by
  have hend : ∀ t : Scope π, ((Work.settle >>= fun _ => pure summary : Work π _).perform t =
      (.ok summary', u)) ↔ summary' = summary ∧ u = t ∧ u.writeFault = none := by
    intro t
    rw [Work.settle, bind_assoc, bind_of_ok (perform_get t)]
    cases hfault : t.writeFault with
    | none =>
      simp only [pure_bind, perform_pure, Prod.mk.injEq, Except.ok.injEq]
      refine ⟨fun ⟨hsummary, ht⟩ => ⟨hsummary.symm, ht.symm, ht ▸ hfault⟩,
        fun ⟨hsummary, ht, _⟩ => ⟨hsummary.symm, ht.symm⟩⟩
    | some e =>
      refine iff_of_false nofun ?_
      rintro ⟨-, rfl, hnone⟩
      rw [hfault] at hnone
      cases hnone
  rw [conclude, bind_of_ok (Work.perform_writePending s)]
  exact hend _

/-- An application, whatever was collected before it. -/
theorem work_ok_iff [Processor π] :
    (work changes).perform { s with pending := p } = (.ok summary, u) ↔
      ∃ v, (applyChanges {} changes).perform s = (.ok summary, v) ∧
        u = p.writes.foldl Work.writeOne { v with pending := {} } ∧ u.writeFault = none := by
  rw [work_eq, perform_bind, Work.Blind.applyChanges {} changes s p]
  rcases (applyChanges {} changes).perform s with ⟨e | summary', v⟩
  · exact iff_of_false nofun fun ⟨_, h, _⟩ => by cases h
  · refine conclude_ok_iff.trans ⟨fun ⟨hsummary, hu⟩ => ⟨v, by rw [hsummary], hu⟩, ?_⟩
    rintro ⟨_, h, hu⟩
    cases h
    exact ⟨rfl, hu⟩

end Apply

namespace Device

variable [Processor π]

/-- A batch of the remote side that succeeds has begun, done its work and been committed. -/
theorem ok_of_batch {w : Work π α} {d : Device π} {a : α}
    (h : (d.batch .bridge .remote (body w)).1.result = .ok a) :
    ∃ s u t, Store.begin.perform d.store = (.ok (), s) ∧
      w.perform (d.withStore s).scope = (.ok a, u) ∧ Store.commit.perform u.store = (.ok (), t) := by
  have hbatched := batched .bridge .remote (body w) d
  generalize d.batch .bridge .remote (body w) = res at hbatched h
  obtain ⟨o, d'⟩ := res
  cases hbatched with
  | refused | abandoned => cases h
  | @committed s t hbegin hbody hcommit =>
    rw [body_draft] at hbody h
    rw [body_device] at hcommit
    rcases hw : w.perform (d.withStore s).scope with ⟨e | b, u⟩ <;> rw [hw] at hbody hcommit h
    · cases hbody
    · cases h
      exact ⟨s, u, t, hbegin, hw, hcommit⟩

/-- A batch of the remote side that begins, does its work and is committed succeeds. -/
theorem batch_of_ok {w : Work π α} {d : Device π} {s t : Store} {a : α} {u : Scope π}
    (hbegin : Store.begin.perform d.store = (.ok (), s))
    (hw : w.perform (d.withStore s).scope = (.ok a, u))
    (hcommit : Store.commit.perform u.store = (.ok (), t)) :
    (d.batch .bridge .remote (body w)).1.result = .ok a ∧
      (d.batch .bridge .remote (body w)).2.store = t ∧
      (d.batch .bridge .remote (body w)).2.pending = u.pending := by
  have hbatched := batched .bridge .remote (body w) d
  generalize d.batch .bridge .remote (body w) = res at hbatched ⊢
  obtain ⟨o, d'⟩ := res
  cases hbatched with
  | refused hrefused =>
    rw [hbegin] at hrefused
    cases hrefused
  | @abandoned s' e hbegin' hfail =>
    rw [hbegin] at hbegin'
    cases hbegin'
    rw [body_draft, body_device, hw] at hfail
    rcases hfail with hfail | ⟨-, hfail⟩
    · cases hfail
    · rw [putScope, hcommit] at hfail
      cases hfail
  | @committed s' t' hbegin' hbody hcommit' =>
    rw [hbegin] at hbegin'
    cases hbegin'
    rw [body_device, hw, putScope, hcommit] at hcommit'
    cases hcommit'
    rw [body_draft, body_device, hw]
    obtain ⟨hstore, -, hpending⟩ := told_remote u.changes
      ((((d.withStore s).putScope u).withStore t).settled .bridge u.changes)
    exact ⟨rfl, hstore, hpending⟩

/-- The remote changes are carried out, all metadata of their own is written, and what they leave can be
committed. -/
structure Carried (changes : List RemoteChange) (d : Device π) (summary : ApplySummary)
    (v : Scope π) : Prop where
  carried : ∃ s, Store.begin.perform d.store = (.ok (), s) ∧
    (Apply.applyChanges {} changes).perform (d.withStore s).scope = (.ok summary, v)
  written : v.writeFault = none
  commits : (Store.commit.perform v.store).1 = .ok ()

variable {changes : List RemoteChange} {d : Device π} {summary : ApplySummary} {v : Scope π}

/-- An application that succeeds has carried the remote changes out, and all that was collected can be
written. -/
theorem carried_of_apply {p : PendingMetadata}
    (h : ((apply changes).perform { d with pending := p }).1 = .ok summary) :
    ∃ v, Carried changes d summary v ∧ ∀ w ∈ p.writes, v.store.Takes w := by
  rw [apply_result] at h
  obtain ⟨s, u, t, hbegin, hwork, hcommit⟩ := ok_of_batch h
  obtain ⟨v, hchanges, rfl, hfault⟩ := Apply.work_ok_iff (s := (d.withStore s).scope).1 hwork
  have hwrote := Work.wrote p.writes { v with pending := {} }
  obtain ⟨hnone, htakes⟩ := hwrote.fault.1 hfault
  have hcommits := Store.commit_congr hwrote.switches hwrote.saved
  refine ⟨v, ⟨⟨s, hbegin, hchanges⟩, hnone, hcommits.symm.trans ?_⟩, htakes⟩
  exact congrArg Prod.fst hcommit

/-- **An application of changes that can be carried out succeeds if all that was collected can be
written.** It leaves what the changes leave, with what was collected written onto it. -/
theorem Carried.succeeds (h : Carried changes d summary v) {p : PendingMetadata}
    (hp : ∀ w ∈ p.writes, v.store.Takes w) :
    ((apply changes).perform { d with pending := p }).1 = .ok summary ∧
      ((apply changes).perform { d with pending := p }).2.store.metadata =
        p.writes.foldl StoredMetadata.apply v.store.metadata ∧
      ((apply changes).perform { d with pending := p }).2.store.switches = v.store.switches ∧
      ((apply changes).perform { d with pending := p }).2.pending = {} := by
  obtain ⟨⟨s, hbegin, hchanges⟩, hnone, hcommits⟩ := h
  have hwrote := Work.wrote p.writes { v with pending := {} }
  have hfault := hwrote.fault.2 ⟨hnone, hp⟩
  have hwork : (Apply.work changes).perform { (d.withStore s).scope with pending := p } = _ :=
    Apply.work_ok_iff.2 ⟨v, hchanges, rfl, hfault⟩
  have hcommit : (Store.commit.perform _).1 = .ok () :=
    (Store.commit_congr hwrote.switches hwrote.saved).trans hcommits
  rcases hend : Store.commit.perform (p.writes.foldl Work.writeOne { v with pending := {} }).store
    with ⟨res, t⟩
  rw [hend] at hcommit
  obtain rfl : res = .ok () := hcommit
  obtain ⟨hresult, hstore, hpending⟩ :=
    batch_of_ok (d := { d with pending := p }) hbegin hwork hend
  have hleft := sameWork_apply changes { d with pending := p }
  rw [apply_result, hleft.store, hleft.pending, hresult, hstore, hpending]
  refine ⟨rfl, ?_, (Store.switches_commit hend).trans hwrote.switches,
    (Work.writes_keep _ _).2.2.2.1⟩
  rw [Store.metadata_congr (Store.commit_ok hend).1]
  exact hwrote.metadata hfault

/-- An application without collected metadata, and some writes behind it. -/
theorem Carried.then_write (h : Carried changes d summary v) (ops : List MetadataWrite) :
    let plain := (apply changes).perform { d with pending := {} }
    let direct := ((Work.write ops).perform plain.2.scope).2
    plain.1 = .ok summary ∧ (direct.writeFault = none ↔ ∀ w ∈ ops, v.store.Takes w) ∧
      direct.store.switches = v.store.switches ∧
      (direct.writeFault = none →
        direct.store.metadata = ops.foldl StoredMetadata.apply v.store.metadata) := by
  intro plain direct
  obtain ⟨hresult, hmetadata, hswitches, -⟩ :=
    h.succeeds (p := {}) fun _ hw => absurd hw List.not_mem_nil
  have hwrote : Work.Wrote plain.2.scope ops direct := Work.wrote ops plain.2.scope
  refine ⟨hresult, ?_, hwrote.switches.trans hswitches, fun hnone => ?_⟩
  · refine hwrote.fault.trans ((and_iff_right rfl).trans (forall₂_congr fun w _ => ?_))
    exact Store.takes_congr [] hswitches hmetadata rfl
  · exact (hwrote.metadata hnone).trans (congrArg (ops.foldl StoredMetadata.apply) hmetadata)

end Device

/-! ## 4. Collected or at once -/

/-- **Collecting changes to the metadata and writing them later is the same as writing them at once.**

* In a scope: the collection is emptied; one of its writes fails exactly if one of the changes, written
  one by one, does; and if none does, both leave the same metadata.
* In another collection the changes end up as if they had been made on it, after its own.
* An application of remote changes that is given the collection succeeds exactly if it does without it
  and the changes can then be written, and both leave the same metadata. -/
theorem collected_writes_agree [Processor π] (ops : List MetadataWrite) :
    (∀ s : Scope π,
      let moved := (Work.writePending.perform { s with pending := collect ops }).2
      let direct := ((Work.write ops).perform s).2
      moved.pending = {} ∧ (moved.writeFault = none ↔ direct.writeFault = none) ∧
        (direct.writeFault = none → moved.store.SameMetadata direct.store)) ∧
    (∀ target : PendingMetadata, (collect ops).transfer target = ({}, ops.foldl push target)) ∧
    ∀ (d : Device π) (changes : List RemoteChange) (summary : ApplySummary),
      let moved := (Device.apply changes).perform { d with pending := collect ops }
      let plain := (Device.apply changes).perform { d with pending := {} }
      let direct := ((Work.write ops).perform plain.2.scope).2
      (moved.1 = .ok summary ↔ plain.1 = .ok summary ∧ direct.writeFault = none) ∧
        (moved.1 = .ok summary →
          moved.2.pending = {} ∧ moved.2.store.SameMetadata direct.store) := by
  -- what the collection writes out and the changes themselves are collected alike
  have hcollect : collect (collect ops).writes = collect ops := collect_writes _
  refine ⟨fun s => ?_, transfer_collect ops, fun d changes summary => ⟨⟨fun h => ?_, ?_⟩, fun h => ?_⟩⟩
  · have hmoved := Work.wrote (collect ops).writes { s with pending := {} }
    exact ⟨(Work.writes_keep _ _).2.2.2.1, Work.wrote_congr hcollect hmoved.setPending (Work.wrote ops s)⟩
  · obtain ⟨v, hv, htakes⟩ := Device.carried_of_apply h
    obtain ⟨hplain, hfault, -⟩ := hv.then_write ops
    exact ⟨hplain, hfault.2 ((Store.forall_takes_congr hcollect).1 htakes)⟩
  · rintro ⟨hplain, hnone⟩
    obtain ⟨v, hv, -⟩ := Device.carried_of_apply hplain
    obtain ⟨-, hfault, -⟩ := hv.then_write ops
    exact (hv.succeeds ((Store.forall_takes_congr hcollect).2 (hfault.1 hnone))).1
  · obtain ⟨v, hv, htakes⟩ := Device.carried_of_apply h
    obtain ⟨-, hfault, hswitches, hdirect⟩ := hv.then_write ops
    obtain ⟨-, hmetadata, hswitches', hpending⟩ := hv.succeeds htakes
    have hnone := hfault.2 ((Store.forall_takes_congr hcollect).1 htakes)
    refine ⟨hpending, .of_cells ?_ (hswitches.trans hswitches'.symm)⟩
    rw [hmetadata, hdirect hnone]
    exact StoredMetadata.same_foldl hcollect _

/-- Changes to two storage keys and to the model state, not in order and some of them repeated. -/
def repeatedWrites : List MetadataWrite :=
  [.set "7" { serverId := "a" }, .setState { progressToken := [1] }, .set "3" { serverId := "b" },
    .clear "7", .clearState, .set "7" { serverId := "c" }]

/-- A device with a database without records. -/
def Device.freshDatabase : Device Recorder :=
  { store := .database .fresh, processor := {}, notifier := .ofCapacity 1 }

theorem collected_writes_agree_repeated :
    let moved := (Device.apply []).perform { Device.freshDatabase with pending := collect repeatedWrites }
    let plain := (Device.apply []).perform { Device.freshDatabase with pending := {} }
    let direct := ((Work.write repeatedWrites).perform plain.2.scope).2
    moved.1 = .ok {} ∧ plain.1 = .ok {} ∧ direct.writeFault = none ∧ moved.2.pending = {} ∧
      moved.2.store.SameMetadata direct.store := by
  have hmoved : ((Device.apply []).perform
      { Device.freshDatabase with pending := collect repeatedWrites }).1 = .ok {} := rfl
  obtain ⟨hiff, hsame⟩ := (collected_writes_agree (π := Recorder) repeatedWrites).2.2 .freshDatabase [] {}
  obtain ⟨hplain, hnone⟩ := hiff.1 hmoved
  exact ⟨hmoved, hplain, hnone, hsame hmoved⟩

end CredentialSync
