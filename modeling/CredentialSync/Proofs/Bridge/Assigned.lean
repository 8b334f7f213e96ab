import CredentialSync.Proofs.Bridge.Collected
import CredentialSync.Proofs.Merge.Success
import CredentialSync.Proofs.Mirror.Overheard

/-!
# What work tells the processor

`Work.Tells` says what a processor hears of some work, whether the work succeeds or fails: the storage keys
of the records that it adds for remote entities, one behind the other (`PrimaryKey.Consecutive`), and besides
only calls that are permitted.

An application tells of keys only (`tells_apply`), and forgetting the metadata of nothing (`tells_forget`).
What a merge tells of besides is a matter of its bookkeeping, of which nothing is said here.
-/

namespace CredentialSync

open Attempt

/-! ## 1. Keys in a row -/

/-- The keys were given out one behind the other, from the one behind `last` to `last'`. -/
inductive PrimaryKey.Consecutive : PrimaryKey → List PrimaryKey → PrimaryKey → Prop where
  | nil (last : PrimaryKey) : Consecutive last [] last
  | cons {last key last' : PrimaryKey} {keys : List PrimaryKey} (hkey : next? last = some key)
      (hkeys : Consecutive key keys last') : Consecutive last (key :: keys) last'

namespace PrimaryKey.Consecutive

variable {last last' last'' key : PrimaryKey} {keys keys' : List PrimaryKey}

theorem append (h : Consecutive last keys last') (h' : Consecutive last' keys' last'') :
    Consecutive last (keys ++ keys') last'' := by
  induction h with
  | nil => exact h'
  | cons hkey _ ih => exact .cons hkey (ih h')

theorem le (h : Consecutive last keys last') : last ≤ last' := by
  induction h with
  | nil => exact Int64.le_refl _
  | cons hkey _ ih => exact Int64.le_trans (Int64.le_of_lt (lt_of_next? hkey)) ih

/-- **They are all keys in between.** -/
theorem mem_iff (h : Consecutive last keys last') : key ∈ keys ↔ last < key ∧ key ≤ last' := by
  induction h with
  | nil =>
    simp only [List.not_mem_nil, false_iff, not_and]
    exact fun hlt hle => Int64.lt_irrefl (Int64.lt_of_lt_of_le hlt hle)
  | @cons last next last' keys hkey hkeys ih =>
    have hle := hkeys.le
    have hnext := toInt_of_next? hkey
    rw [List.mem_cons, ih, ← Int64.toInt_inj]
    simp only [Int64.lt_iff_toInt_lt, Int64.le_iff_toInt_le] at hle ⊢
    omega

theorem nodup (h : Consecutive last keys last') : keys.Nodup := by
  induction h with
  | nil => exact List.nodup_nil
  | cons _ hkeys ih =>
    exact List.nodup_cons.2 ⟨fun hmem => Int64.lt_irrefl (hkeys.mem_iff.1 hmem).1, ih⟩

end PrimaryKey.Consecutive

/-! ## 2. Telling -/

variable {π α β : Type} {P : ProcessorCall → Prop} {s t u : Scope (Overheard π)}

/-- The calls name keys in a row, from the one behind `last` to `last'`, and all others are permitted. -/
structure ProcessorCall.Assign (P : ProcessorCall → Prop) (last : PrimaryKey)
    (calls : List ProcessorCall) (last' : PrimaryKey) : Prop where
  keys : ∃ keys : List PrimaryKey, calls.filterMap (·.assigned?) = keys.map PrimaryKey.storageKey ∧
    PrimaryKey.Consecutive last keys last'
  others : ∀ c ∈ calls, c.assigned? = none → P c

namespace ProcessorCall.Assign

variable {last last' last'' : PrimaryKey} {calls calls' : List ProcessorCall}

theorem nil (last : PrimaryKey) : Assign P last [] last := ⟨⟨[], rfl, .nil _⟩, nofun⟩

theorem append (h : Assign P last calls last') (h' : Assign P last' calls' last'') :
    Assign P last (calls ++ calls') last'' := by
  obtain ⟨keys, hassigned, hkeys⟩ := h.keys
  obtain ⟨keys', hassigned', hkeys'⟩ := h'.keys
  refine ⟨⟨keys ++ keys', ?_, hkeys.append hkeys'⟩, fun c hc => ?_⟩
  · rw [List.filterMap_append, List.map_append, hassigned, hassigned']
  · exact (List.mem_append.1 hc).elim (h.others c) (h'.others c)

/-- Telling of the next key. -/
theorem key {key : PrimaryKey} (h : PrimaryKey.next? last = some key) (e : Entity) :
    Assign P last [.assignKey key.storageKey e] key := by
  refine ⟨⟨[key], rfl, .cons h (.nil _)⟩, fun c hc hnone => ?_⟩
  rw [List.mem_singleton.1 hc] at hnone
  cases hnone

/-- Another call that is permitted. -/
theorem other {c : ProcessorCall} (hc : c.assigned? = none) (hP : P c) : Assign P last [c] last := by
  refine ⟨⟨[], ?_, .nil _⟩, fun c' hc' _ => List.mem_singleton.1 hc' ▸ hP⟩
  rw [List.filterMap_cons, hc]
  rfl

end ProcessorCall.Assign

namespace Work

/-- What the processor hears of the work: keys in a row, from the one behind the greatest one given out, and
    permitted calls. If the work succeeds, no key is left out: the last one told is the greatest one given
    out. -/
def Tells (P : ProcessorCall → Prop) (w : Work (Overheard π) α) (s : Scope (Overheard π)) : Prop :=
  ∃ calls last, (w.perform s).2.processor.heard = s.processor.heard ++ calls ∧
    ProcessorCall.Assign P s.store.vault.lastKey calls last ∧
    ∀ a, (w.perform s).1 = .ok a → (w.perform s).2.store.vault.lastKey = last

namespace Tells

/-- Work of which the processor hears nothing. -/
theorem silent {w : Work (Overheard π) α} (hheard : (w.perform s).2.processor.heard = s.processor.heard)
    (hlast : ∀ a, (w.perform s).1 = .ok a → (w.perform s).2.store.vault.lastKey = s.store.vault.lastKey) :
    Tells P w s :=
  ⟨[], _, by rw [hheard, List.append_nil], .nil _, hlast⟩

theorem reads {w : Work (Overheard π) α} (h : w.Reads) : Tells P w s :=
  silent (by rw [h s]) fun _ _ => by rw [h s]

theorem pure (a : α) : Tells P (Pure.pure a : Work (Overheard π) α) s := reads (.pure a)

theorem throw (e : SyncError) : Tells P (MonadExcept.throw e : Work (Overheard π) α) s :=
  reads (.throw e)

theorem bind {w : Work (Overheard π) α} {f : α → Work (Overheard π) β} (hw : Tells P w s)
    (hf : ∀ a t, w.perform s = (.ok a, t) → Tells P (f a) t) : Tells P (w >>= f) s := by
  obtain ⟨calls, last, hheard, hassign, hlast⟩ := hw
  unfold Tells
  rw [perform_bind]
  rcases hres : w.perform s with ⟨e | a, t⟩ <;> rw [hres] at hheard hlast
  · exact ⟨calls, last, hheard, hassign, nofun⟩
  · obtain ⟨calls', last', hheard', hassign', hlast'⟩ := hf a t hres
    refine ⟨calls ++ calls', last', ?_, hassign.append (hlast a rfl ▸ hassign'), hlast'⟩
    rw [hheard', hheard, List.append_assoc]

theorem writes (ws : List MetadataWrite) : Tells P (write ws) s := by
  obtain ⟨-, hvault, hprocessor, -⟩ := writes_keep ws s
  exact silent (congrArg Overheard.heard hprocessor) fun _ _ => congrArg Vault.lastKey hvault

theorem writePending : Tells P Work.writePending s := by
  obtain ⟨-, hvault, hprocessor, -⟩ := writes_keep s.pending.writes { s with pending := {} }
  exact silent (congrArg Overheard.heard hprocessor) fun _ _ => congrArg Vault.lastKey hvault

/-- An edit that adds nothing gives out no key. -/
theorem change {e : Edit} (he : ∀ r, e ≠ .add r) : Tells P (Work.change e.attempt) s := by
  rcases hres : e.attempt.perform s.store with ⟨res, t⟩
  refine silent (by rw [change_of_attempt hres]) fun cs hok => ?_
  rw [change_of_attempt hres] at hok ⊢
  cases hok
  cases (Store.edited hres).1 with
  | done hdone => exact Vault.lastKey_of_edit hdone he

theorem settle : Tells P Work.settle s := reads reads_settle

end Tells

/-! ## 3. Steps that are silent -/

/-- Clearing metadata is nothing that the processor hears of. -/
theorem clearRemoved_keeps (cs : List LocalChange) (s : Scope π) :
    ((Merge.clearRemoved cs).perform s).2.processor = s.processor ∧
      ((Merge.clearRemoved cs).perform s).2.store.vault = s.store.vault ∧
      ((Merge.clearRemoved cs).perform s).2.changes = s.changes := by
  induction cs generalizing s with
  | nil => exact ⟨rfl, rfl, rfl⟩
  | cons c cs ih =>
    have hrest {β : Type} (f : Option PrimaryKey × List PrimaryKey → β) (s : Scope π) :
        ((Merge.clearRemoved cs >>= fun x => (pure (f x) : Work π β)).perform s).2 =
          ((Merge.clearRemoved cs).perform s).2 := by
      obtain ⟨x, u, hclear⟩ := Merge.clearRemoved_succeeds cs s
      rw [bind_of_ok hclear, hclear]
      rfl
    unfold Merge.clearRemoved
    split
    · exact (hrest _ s).symm ▸ ih s
    · obtain ⟨-, hvault, hprocessor, -, hchanges, -⟩ := writes_keep [.clear c.storageKey] s
      obtain ⟨hprocessor', hvault', hchanges'⟩ := ih ([.clear c.storageKey].foldl writeOne s)
      rw [bind_of_ok (a := write _) rfl, hrest]
      exact ⟨hprocessor'.trans hprocessor, hvault'.trans hvault, hchanges'.trans hchanges⟩

theorem tells_overwriteFirst (r : Record) (keys : List PrimaryKey) :
    Tells P (Merge.overwriteFirst r keys) s := by
  induction keys generalizing s with
  | nil => exact .pure _
  | cons key keys ih =>
    refine (Tells.change (e := .updateAt key r) nofun).bind fun cs t _ => ?_
    split
    · exact ih
    · exact .pure _

theorem tells_residentKey (key : StorageKey) : Tells P (Apply.residentKey key) s := by
  refine (Tells.reads (.ofExcept _)).bind fun k _ _ =>
    (Tells.reads (reads_onStore (Store.reads_record? k))).bind fun r _ _ => ?_
  cases r with
  | none => exact .throw _
  | some r => exact .pure _

theorem tells_requireData (c : RemoteChange) : Tells P (Apply.requireData c) s := by
  unfold Apply.requireData
  split
  · exact .pure _
  · exact .throw _

/-- The work tells the processor of the key, and gives out none. -/
structure Names (key : PrimaryKey) (w : Work (Overheard π) α) (s : Scope (Overheard π)) : Prop where
  heard : ∃ e, (w.perform s).2.processor.heard =
    s.processor.heard ++ [.assignKey key.storageKey e]
  lastKey : (w.perform s).2.store.vault.lastKey = s.store.vault.lastKey

/-- Metadata that is written before is of no account. -/
theorem Names.behind_write {ws : List MetadataWrite} {key : PrimaryKey} {w : Work (Overheard π) α}
    (h : ∀ t, Names key w t) : Names key (write ws >>= fun _ => w) s := by
  obtain ⟨-, hvault, hprocessor, -⟩ := writes_keep ws s
  obtain ⟨⟨e, hheard⟩, hkept⟩ := h (ws.foldl writeOne s)
  refine ⟨⟨e, ?_⟩, ?_⟩ <;> rw [bind_of_ok (a := write ws) rfl]
  · rw [hheard, hprocessor]
  · rw [hkept, hvault]

variable [Processor π]

/-- The processor hears what it is told. -/
theorem heard_tell (c : ProcessorCall) (s : Scope (Overheard π)) :
    ((tell c.deliver).perform s).2.processor.heard = s.processor.heard ++ [c] ∧
      ((tell c.deliver).perform s).2.store.vault = s.store.vault := by
  obtain ⟨hdid, hvault⟩ := did_tell (c := c) (s := s) rfl
  have hprocessor : ((tell c.deliver).perform s).2.processor = (c.deliver s.processor).2 :=
    congrArg Prod.fst hdid.heard
  rw [hprocessor, Overheard.deliver_eq]
  exact ⟨rfl, hvault⟩

theorem Tells.call {c : ProcessorCall} (hc : c.assigned? = none) (hP : P c) :
    Tells P (tell c.deliver) s := by
  obtain ⟨hheard, hvault⟩ := heard_tell c s
  exact ⟨[c], _, hheard, .other hc hP, fun _ _ => congrArg Vault.lastKey hvault⟩

/-! ## 4. Additions -/

/-- **A new record.** The processor is told of its key, or of nothing if the addition fails or reports no new
    record. -/
theorem Tells.addition {r : Record} {f : Option PrimaryKey × List PrimaryKey → Work (Overheard π) α}
    (hnone : ∀ removed t, ∃ e, (f (none, removed)).perform t = (.error e, t))
    (hsome : ∀ key removed t, Names key (f (some key, removed)) t) :
    Tells P (Work.add r >>= fun cs => Merge.clearRemoved cs >>= f) s := by
  rcases hadd : (Edit.add r).attempt.perform s.store with ⟨e | cs, t⟩
  all_goals have hchange : (Work.add r).perform s = _ := change_of_attempt hadd
  · unfold Tells
    rw [perform_bind, hchange]
    exact ⟨[], _, (List.append_nil _).symm, .nil _, nofun⟩
  obtain ⟨hprocessor, hvault, -⟩ :=
    clearRemoved_keeps cs { s with store := t, changes := s.changes ++ cs }
  obtain ⟨⟨key?, removed⟩, u, hclear⟩ :=
    Merge.clearRemoved_succeeds cs { s with store := t, changes := s.changes ++ cs }
  have hall : (Work.add r >>= fun cs => Merge.clearRemoved cs >>= f).perform s =
      (f (key?, removed)).perform u := by
    rw [bind_of_ok hchange]
    exact bind_of_ok hclear
  rw [hclear] at hprocessor hvault
  unfold Tells
  rw [hall]
  cases (Store.edited hadd).1 with
  | @done _ ds _ hedit hreport =>
    obtain ⟨made, key, rfl, hmade, hnext, hlast⟩ := Vault.added_of_edit hedit
    split at hreport <;> subst hreport
    · cases hclear
      obtain ⟨e, herror⟩ := hnone [] { s with store := t, changes := s.changes ++ [] }
      rw [herror]
      exact ⟨[], _, (List.append_nil _).symm, .nil _, nofun⟩
    · obtain ⟨-, -, rfl, -⟩ := Apply.clearRemoved_ok (c := ⟨.add, key, r⟩) hmade rfl hclear
      obtain ⟨⟨e, hheard⟩, hkept⟩ := hsome key removed u
      refine ⟨[.assignKey key.storageKey e], key, ?_, .key hnext e, fun _ _ => ?_⟩
      · rw [hheard, hprocessor]
      · rw [hkept, hvault]
        exact hlast

/-! ## 5. Merging, applying, forgetting -/

theorem Names.tell {e : Entity} {key : PrimaryKey} (a : α) :
    Names key (assignKey e key.storageKey >>= fun _ => (Pure.pure a : Work (Overheard π) α)) s := by
  obtain ⟨hheard, hvault⟩ := heard_tell (.assignKey key.storageKey e) s
  exact ⟨⟨e, hheard⟩, congrArg Vault.lastKey hvault⟩

theorem tells_materialize (e : Entity) : Tells P (Merge.materialize e) s := by
  refine Tells.addition (fun _ _ => ⟨_, rfl⟩) fun key removed t => ?_
  exact Names.behind_write fun _ => Names.tell _

theorem tells_mergeEntity (m : Merging) (e : Entity) : Tells P (Merge.mergeEntity m e) s := by
  refine (tells_overwriteFirst _ _).bind fun key? t _ => ?_
  split
  · exact (Tells.writes _).bind fun _ _ _ => .pure _
  · split
    · exact (Tells.change (e := .remove _) nofun).bind fun _ _ _ => (Tells.writes _).bind fun _ _ _ =>
        (tells_materialize e).bind fun _ _ _ => .pure _
    · exact (tells_materialize e).bind fun _ _ _ => .pure _

theorem tells_mergeEntities (m : Merging) (cs : List RemoteChange) :
    Tells P (Merge.mergeEntities m cs) s := by
  induction cs generalizing m s with
  | nil => exact .pure _
  | cons c cs ih =>
    unfold Merge.mergeEntities
    split
    · exact .throw _
    · exact (tells_mergeEntity m _).bind fun m' _ _ => ih m'

/-- Of the records that no entity has met, the processor is told. -/
theorem tells_announce {m : Merging} {rs : List (PrimaryKey × Record)}
    (h : ∀ x ∈ Merge.unmet m rs, P (Merge.putOf x)) : Tells P (Merge.announce m rs) s := by
  induction rs generalizing s with
  | nil => exact .pure _
  | cons x rs ih =>
    unfold Merge.announce
    rw [Merge.unmet, List.filter_cons] at h
    cases hsettled : m.isSettled x.1 with
    | true =>
      simp only [hsettled, Bool.not_true, Bool.false_eq_true, if_false] at h
      exact ih h
    | false =>
      simp only [hsettled, Bool.not_false, if_true] at h
      exact (Tells.call (c := Merge.putOf x) rfl (h x List.mem_cons_self)).bind fun _ _ _ =>
        (ih fun y hy => h y (List.mem_cons_of_mem _ hy)).bind fun _ _ _ => .pure _

theorem tells_addEntity (e : Entity) : Tells P (Apply.addEntity e) s :=
  Tells.addition (fun _ _ => ⟨_, rfl⟩) fun _ _ _ => Names.tell _

theorem tells_updateEntity (key : PrimaryKey) (e : Entity) : Tells P (Apply.updateEntity key e) s := by
  refine (Tells.change (e := .updateAt key e.record) nofun).bind fun cs t _ => ?_
  cases cs.isEmpty with
  | true =>
    exact (Tells.change (e := .remove key) nofun).bind fun _ _ _ => (Tells.writes _).bind fun _ _ _ =>
      (tells_addEntity e).bind fun _ _ _ => .pure _
  | false => exact .pure _

theorem tells_applyChange (c : RemoteChange) : Tells P (Apply.applyChange c) s := by
  unfold Apply.applyChange
  cases c.kind with
  | add =>
    exact (tells_requireData c).bind fun e _ _ => (tells_addEntity e).bind fun _ _ _ => .pure _
  | update =>
    exact (tells_residentKey _).bind fun key _ _ => (tells_requireData c).bind fun e _ _ =>
      tells_updateEntity key e
  | delete =>
    exact (tells_residentKey _).bind fun key _ _ =>
      (Tells.change (e := .remove key) nofun).bind fun _ _ _ => .writes _

theorem tells_applyChanges (summary : ApplySummary) (cs : List RemoteChange) :
    Tells P (Apply.applyChanges summary cs) s := by
  induction cs generalizing summary s with
  | nil => exact .pure _
  | cons c cs ih => exact (tells_applyChange c).bind fun _ _ _ => ih _

/-- **An application tells of keys only.** -/
theorem tells_apply (changes : List RemoteChange) :
    Tells (fun _ => False) (Apply.work changes : Work (Overheard π) ApplySummary) s :=
  (tells_applyChanges _ _).bind fun _ _ _ => Tells.writePending.bind fun _ _ _ =>
    Tells.settle.bind fun _ _ _ => .pure _

omit [Processor π] in
/-- **Forgetting the metadata tells of nothing.** -/
theorem tells_forget : Tells (fun _ => False) (Device.forgetMetadata : Work (Overheard π) Unit) s :=
  (Tells.reads (reads_onStore Store.reads_readMetadata)).bind fun _ _ _ =>
    (Tells.writes _).bind fun _ _ _ => .settle

end Work

/-! ## 6. Batches -/

namespace Device

/-- What the processor hears of a batch. -/
structure Hears (P : ProcessorCall → Prop) (d : Device (Overheard π)) (calls : List ProcessorCall)
    (last : PrimaryKey) (d' : Device (Overheard π)) : Prop where
  heard : d'.processor.heard = d.processor.heard ++ calls
  assign : ProcessorCall.Assign P d.store.vault.lastKey calls last

variable [Processor π]

/-- **A batch of the remote side.** The processor hears of it what it hears of the work, whether or not the
    batch is committed in the end. -/
theorem Batched.hears {batcher : Batcher} {w : Work (Overheard π) α} {d d' : Device (Overheard π)}
    {o : BatchOutcome (Except SyncError α)} (h : Batched batcher .remote (body w) d o d')
    (hw : Work.Tells P w d.begun.scope) :
    ∃ calls last, Hears P d calls last d' ∧
      ∀ v cs, o = .committed v cs → d'.store.vault.lastKey = last := by
  obtain ⟨calls, last, hheard, hassign, hlast⟩ := hw
  by_cases hcommitted : ∃ v cs, o = .committed v cs
  · obtain ⟨v, cs, rfl⟩ := hcommitted
    obtain ⟨a, s, -, hres, -, hbegun, -, hcontent, -, -, hprocessor, -⟩ := h.committed_work
    rw [hres] at hheard hlast
    have hvault : d.begun.scope.store.vault = d.store.vault := Store.vault_congr hbegun
    rw [hvault] at hassign
    exact ⟨calls, last, ⟨hprocessor ▸ hheard, hassign⟩, fun _ _ _ =>
      (congrArg Vault.lastKey (Store.vault_congr hcontent)).trans (hlast a rfl)⟩
  · cases h with
    | refused => exact ⟨[], _, ⟨(List.append_nil _).symm, .nil _⟩, nofun⟩
    | committed => exact absurd ⟨_, _, rfl⟩ hcommitted
    | @abandoned s e hbegin _ =>
      rw [begun_of_ok hbegin] at hheard hassign
      have hvault : (d.withStore s).scope.store.vault = d.store.vault :=
        Store.vault_congr (Store.begin_ok hbegin).2.2.1
      rw [hvault] at hassign
      refine ⟨calls, last, ⟨?_, hassign⟩, nofun⟩
      cases batcher <;> exact hheard

end Device

end CredentialSync
