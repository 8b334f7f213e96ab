import CredentialSync.Proofs.Bridge.Assigned

/-!
# What a merge announces

Besides the keys of the records that it adds, a merge tells the processor of the records only that no remote
entity has met. A record is `Merge.LocalOnly` if it was resident at the start and the merge has neither
overwritten nor removed it; the bookkeeping of the merge `Covers` all others (`covers_mergeEntities`), so
that these are the only ones left to be announced (`tells_merge`). So it is in merges that fail, too.
-/

namespace CredentialSync

open Attempt

variable {π : Type}

/-- All records are settled that some changes name, other than as additions. -/
def Merging.Covers (m : Merging) (cs : List LocalChange) : Prop :=
  ∀ c ∈ cs, c.kind ≠ .add → m.isSettled c.key = true

/-- What is settled stays so, and what happens in addition is settled too. -/
theorem Merging.Covers.append {m m' : Merging} {cs ds : List LocalChange} (h : m.Covers cs)
    (hkeep : ∀ key, m.isSettled key = true → m'.isSettled key = true) (hds : m'.Covers ds) :
    m'.Covers (cs ++ ds) := by
  intro c hc hadd
  rcases List.mem_append.1 hc with hc | hc
  · exact hkeep _ (h c hc hadd)
  · exact hds c hc hadd

namespace Vault

/-- What is reported of an edit of one record names its key. -/
theorem key_of_updateAt {v : Vault} {key : PrimaryKey} {r : Record} {c : LocalChange}
    (h : c ∈ (v.updateAt key r).1) : c.key = key := by
  unfold updateAt at h
  split at h
  · cases h
  · split at h
    · rw [List.mem_singleton.1 h]
    · cases h

theorem key_of_remove {v : Vault} {key : PrimaryKey} {c : LocalChange} (h : c ∈ (v.remove key).1) :
    c.key = key := by
  unfold remove at h
  split at h
  · cases h
  · rw [List.mem_singleton.1 h]

end Vault

namespace Work

variable {s t : Scope π}

/-- The changes of an edit that succeeds are those of the vault, or it reports none. -/
theorem changes_of_change {e : Edit} {cs : List LocalChange}
    (h : (change e.attempt).perform s = (.ok cs, t)) :
    t.changes = s.changes ++ cs ∧
      ∃ ds v, s.store.vault.edit s.store.replaces e = some (ds, v) ∧ ∀ c ∈ cs, c ∈ ds := by
  rcases hres : e.attempt.perform s.store with ⟨res, u⟩
  rw [change_of_attempt hres] at h
  cases h
  cases (Store.edited hres).1 with
  | @done _ ds _ hedit hreport =>
    refine ⟨rfl, ds, _, hedit, ?_⟩
    split at hreport <;> subst hreport
    · exact List.forall_mem_nil _
    · exact fun _ hc => hc

theorem changes_updateAt {key : PrimaryKey} {r : Record} {cs : List LocalChange}
    (h : (updateAt key r).perform s = (.ok cs, t)) :
    t.changes = s.changes ++ cs ∧ ∀ c ∈ cs, c.key = key := by
  obtain ⟨hchanges, ds, v, hedit, hmem⟩ := changes_of_change (e := .updateAt key r) h
  refine ⟨hchanges, fun c hc => Vault.key_of_updateAt (v := s.store.vault) (r := r) ?_⟩
  rw [show s.store.vault.updateAt key r = (ds, v) from Option.some.inj hedit]
  exact hmem c hc

theorem changes_remove {key : PrimaryKey} {cs : List LocalChange}
    (h : (remove key).perform s = (.ok cs, t)) :
    t.changes = s.changes ++ cs ∧ ∀ c ∈ cs, c.key = key := by
  obtain ⟨hchanges, ds, v, hedit, hmem⟩ := changes_of_change (e := .remove key) h
  refine ⟨hchanges, fun c hc => Vault.key_of_remove (v := s.store.vault) ?_⟩
  rw [show s.store.vault.remove key = (ds, v) from Option.some.inj hedit]
  exact hmem c hc

/-- Writing metadata and telling the processor changes no record. -/
theorem changes_write {ws : List MetadataWrite} {res : Except SyncError Unit}
    (h : (write ws).perform s = (res, t)) : t.changes = s.changes := by
  cases h
  exact (writes_keep ws s).2.2.2.2.1

theorem changes_tell {f : π → List MetadataWrite × π} {res : Except SyncError Unit}
    (h : (tell f).perform s = (res, t)) : t.changes = s.changes := by
  cases h
  exact (writes_keep (f s.processor).1 { s with processor := (f s.processor).2 }).2.2.2.2.1

end Work

namespace Merge

open Work

variable {s t : Scope π}

/-! ## 1. The bookkeeping -/

theorem changes_overwriteFirst {r : Record} {keys : List PrimaryKey} {key? : Option PrimaryKey}
    (h : (overwriteFirst r keys).perform s = (.ok key?, t)) :
    ∃ cs, t.changes = s.changes ++ cs ∧ ∀ c ∈ cs, key? = some c.key := by
  induction keys generalizing s with
  | nil =>
    cases h
    exact ⟨[], (List.append_nil _).symm, List.forall_mem_nil _⟩
  | cons key keys ih =>
    obtain ⟨cs, u, hupdate, hrest⟩ := ok_of_bind h
    obtain ⟨hchanges, hkeys⟩ := changes_updateAt hupdate
    cases cs with
    | nil =>
      obtain ⟨ds, hds, hkey⟩ := ih hrest
      exact ⟨ds, by rw [hds, hchanges, List.append_nil], hkey⟩
    | cons c cs =>
      cases hrest
      exact ⟨c :: cs, hchanges, fun c' hc' => congrArg some (hkeys c' hc').symm⟩

/-- All records that an addition has removed are handed back. -/
theorem removed_of_clearRemoved {cs : List LocalChange} {key? : Option PrimaryKey}
    {removed : List PrimaryKey} (h : (clearRemoved cs).perform s = (.ok (key?, removed), t)) :
    ∀ c ∈ cs, c.kind ≠ .add → c.key ∈ removed := by
  induction cs generalizing s key? removed with
  | nil => exact List.forall_mem_nil _
  | cons c cs ih =>
    unfold clearRemoved at h
    intro c' hc' hadd
    split at h
    · next hkind =>
      obtain ⟨⟨k, rem⟩, u, hclear, hrest⟩ := ok_of_bind h
      cases hrest
      rcases List.mem_cons.1 hc' with rfl | hc'
      · exact absurd hkind hadd
      · exact ih hclear c' hc' hadd
    · obtain ⟨_, u, -, hrest⟩ := ok_of_bind h
      obtain ⟨⟨k, rem⟩, w, hclear, hrest⟩ := ok_of_bind hrest
      cases hrest
      rcases List.mem_cons.1 hc' with rfl | hc'
      · exact List.mem_cons_self
      · exact List.mem_cons_of_mem _ (ih hclear c' hc' hadd)

variable [Processor π]

theorem changes_materialize {e : Entity} {key : PrimaryKey} {removed : List PrimaryKey}
    (h : (materialize e).perform s = (.ok (key, removed), t)) :
    ∃ cs, t.changes = s.changes ++ cs ∧ ∀ c ∈ cs, c.kind ≠ .add → c.key ∈ removed := by
  obtain ⟨cs, u, hadd, hrest⟩ := ok_of_bind h
  obtain ⟨⟨key?, rem⟩, w, hclear, hrest⟩ := ok_of_bind hrest
  have hchanges := (changes_of_change (e := .add e.record) hadd).1
  have hkept := (clearRemoved_keeps cs u).2.2
  rw [hclear] at hkept
  cases key? with
  | none => cases hrest
  | some k =>
    obtain ⟨_, x, hwrite, hrest⟩ := ok_of_bind hrest
    obtain ⟨_, y, hassign, hrest⟩ := ok_of_bind hrest
    cases hrest
    refine ⟨cs, ?_, removed_of_clearRemoved hclear⟩
    rw [changes_tell hassign, changes_write hwrite, hkept, hchanges]

/-- **A merged entity settles all records that it overwrites or removes.** -/
theorem covers_mergeEntity {m m' : Merging} {e : Entity} (hm : m.Covers s.changes)
    (h : (mergeEntity m e).perform s = (.ok m', t)) : m'.Covers t.changes := by
  obtain ⟨key?, u, hover, hrest⟩ := ok_of_bind h
  obtain ⟨cs, hcs, hkeys⟩ := changes_overwriteFirst hover
  cases key? with
  | some key =>
    obtain ⟨_, w, hwrite, hrest⟩ := ok_of_bind hrest
    cases hrest
    rw [changes_write hwrite, hcs]
    refine hm.append (fun k hk => ?_) fun c hc _ => ?_
    · exact isSettled_iff.2 ((isSettled_iff.1 hk).imp_left (List.mem_cons_of_mem _))
    · obtain rfl := Option.some.inj (hkeys c hc)
      exact isSettled_iff.2 (.inl List.mem_cons_self)
  | none =>
    have hnone : u.changes = s.changes := by
      cases cs with
      | nil => rw [hcs, List.append_nil]
      | cons c cs => exact nomatch hkeys c List.mem_cons_self
    simp only at hrest
    split at hrest
    · next old _ =>
      obtain ⟨ds, w, hremove, hrest⟩ := ok_of_bind hrest
      obtain ⟨_, x, hwrite, hrest⟩ := ok_of_bind hrest
      obtain ⟨⟨key, removed⟩, y, hnew, hrest⟩ := ok_of_bind hrest
      cases hrest
      obtain ⟨hds, hold⟩ := changes_remove hremove
      obtain ⟨es, hes, hremoved⟩ := changes_materialize hnew
      rw [hes, changes_write hwrite, hds, hnone, List.append_assoc]
      refine hm.append (fun k hk => ?_) fun c hc hadd => ?_
      · refine isSettled_iff.2 ((isSettled_iff.1 hk).imp_right fun hk => ?_)
        exact List.mem_append_right _ (List.mem_cons_of_mem _ hk)
      · refine isSettled_iff.2 (.inr ?_)
        rcases List.mem_append.1 hc with hc | hc
        · rw [hold c hc]
          exact List.mem_append_right _ List.mem_cons_self
        · exact List.mem_append_left _ (hremoved c hc hadd)
    · obtain ⟨⟨key, removed⟩, y, hnew, hrest⟩ := ok_of_bind hrest
      cases hrest
      obtain ⟨es, hes, hremoved⟩ := changes_materialize hnew
      rw [hes, hnone]
      refine hm.append (fun k hk => ?_) fun c hc hadd => ?_
      · exact isSettled_iff.2 ((isSettled_iff.1 hk).imp_right (List.mem_append_right _))
      · exact isSettled_iff.2 (.inr (List.mem_append_left _ (hremoved c hc hadd)))

theorem covers_mergeEntities {m m' : Merging} {remote : List RemoteChange} (hm : m.Covers s.changes)
    (h : (mergeEntities m remote).perform s = (.ok m', t)) : m'.Covers t.changes := by
  induction remote generalizing m s with
  | nil =>
    cases h
    exact hm
  | cons c cs ih =>
    unfold mergeEntities at h
    split at h
    · cases h
    · obtain ⟨m₁, u, hentity, hrest⟩ := ok_of_bind h
      exact ih (covers_mergeEntity hm hentity) hrest

/-! ## 2. What is announced -/

omit [Processor π] in
/-- The end of a merge changes no record. -/
theorem changes_conclude (summary : MergeSummary) (s : Scope π) :
    ((conclude summary).perform s).2.changes = s.changes := by
  have hsettle : (settle >>= fun _ => pure summary : Work π MergeSummary).Reads :=
    reads_settle.bind fun _ => .pure _
  rw [conclude, bind_of_ok (perform_get s), bind_of_ok (perform_writePending s),
    bind_of_ok (a := write _) rfl, hsettle]
  exact (writes_keep _ _).2.2.2.2.1.trans (writes_keep _ { s with pending := {} }).2.2.2.2.1

/-- All changes of a merge that has got through its entities are the ones made there. -/
theorem changes_work {remote : List RemoteChange} {m : Merging}
    (hread : (onStore Store.readAll).perform s = (.ok s.store.vault.records, s))
    (hmerge : (mergeEntities (.ofRecords s.store.vault.records) remote).perform s = (.ok m, t)) :
    ((work remote).perform s).2.changes = t.changes := by
  obtain ⟨n, u, hannounce⟩ := announce_succeeds m s.store.vault.records.toList t
  have hkept : u.changes = t.changes ++ [] := (announce_ok hannounce).1.changes
  have hreconcile : (reconcile remote).perform s = (.ok { m.summary with localOnly := n }, u) := by
    rw [reconcile, bind_of_ok hread, bind_of_ok hmerge, bind_of_ok hannounce]
    rfl
  rw [work_eq, bind_of_ok hreconcile, changes_conclude, hkept, List.append_nil]

/-- The record was resident when the merge began, and the merge neither overwrites nor removes it. -/
structure LocalOnly (remote : List RemoteChange) (s : Scope π) (key : PrimaryKey) (r : Record) : Prop where
  resident : s.store.vault.records.get? key = some r
  spared : ∀ c ∈ ((work remote).perform s).2.changes, c.key = key → c.kind = .add

/-- **A merge tells of keys, and of the records that no remote entity has met.** -/
theorem tells_merge {s : Scope (Overheard π)} (hs : s.changes = []) (remote : List RemoteChange) :
    Tells (fun c => ∃ key r, LocalOnly remote s key r ∧ c = putOf (key, r)) (work remote) s := by
  refine (Tells.reads (reads_onStore Store.reads_readAll)).bind fun records t hread => ?_
  obtain ⟨rfl, hrecords⟩ := did_read Store.reads_readAll hread
  obtain ⟨-, rfl⟩ := Store.ok_of_readAll hrecords
  refine (tells_mergeEntities _ _).bind fun m u hmerge => ?_
  have hcovers : m.Covers u.changes := by
    refine covers_mergeEntities (s := t) ?_ hmerge
    rw [hs]
    exact List.forall_mem_nil _
  refine (tells_announce fun x hx => ?_).bind fun _ _ _ => (Tells.reads .get).bind fun _ _ _ =>
    Tells.writePending.bind fun _ _ _ => (Tells.writes _).bind fun _ _ _ =>
    Tells.settle.bind fun _ _ _ => .pure _
  obtain ⟨hmem, hunmet⟩ := List.mem_filter.1 hx
  refine ⟨x.1, x.2, ⟨SortedMap.mem_toList_iff.1 hmem, fun c hc hkey => ?_⟩, rfl⟩
  rw [changes_work hread hmerge] at hc
  refine Decidable.byContradiction fun hadd => ?_
  rw [← hkey, hcovers c hc hadd] at hunmet
  cases hunmet

end Merge

end CredentialSync
