import CredentialSync.Proofs.Merge.Kept
import CredentialSync.Proofs.Merge.Natural
import Mathlib.Data.List.Nodup

/-!
# What a merge uploads

`Recorder.uploads` are the records that a recorder was told to put, as additions on another device. A
merge uploads the records that no remote entity has met (`Device.Merged.uploads`).

Let the remote entities have different client tags, and let natural keys be unique. Then no uploaded
record has the natural key of a remote entity (`Device.Merged.unmet_absent`), and the records behind the
merge are those of the remote entities and the uploaded ones (`Device.Merged.has_iff`).
-/

namespace CredentialSync

/-! ## 1. Recorders -/

/-- The entity that a processor is told to put, with its key. -/
def ProcessorCall.entry? : ProcessorCall → Option (StorageKey × Entity)
  | .put key e => some (key, e)
  | _ => none

namespace Recorder

theorem puts_eq (r : Recorder) : r.puts = r.calls.filterMap ProcessorCall.entry? :=
  congrArg (List.filterMap · r.calls) (funext fun c => by cases c <;> rfl)

/-- A recorder notes what it is told. -/
theorem calls_hearAll (cs : List ProcessorCall) (r : Recorder) :
    (ProcessorCall.hearAll cs r).calls = r.calls ++ cs := by
  induction cs generalizing r with
  | nil => exact (List.append_nil _).symm
  | cons c cs ih =>
    have hnote : (c.deliver r).2.calls = r.calls ++ [c] := by cases c <;> rfl
    rw [ProcessorCall.hearAll, List.foldl_cons, ← ProcessorCall.hearAll, ih, hnote,
      List.append_assoc]
    rfl

/-- What a recorder was told to put since another moment, as additions on another device. -/
def uploads (before after : Recorder) : List RemoteChange :=
  (after.puts.drop before.puts.length).map fun x => .add x.2

theorem uploads_hearAll (cs : List ProcessorCall) (r : Recorder) :
    r.uploads (ProcessorCall.hearAll cs r) =
      (cs.filterMap ProcessorCall.entry?).map fun x => .add x.2 := by
  rw [uploads, puts_eq, puts_eq, calls_hearAll, List.filterMap_append, List.drop_left]

end Recorder

/-! ## 2. Records as entities -/

@[simp] theorem Scheme.ofCode_code (s : Scheme) : ofCode s.code = s := by cases s <;> rfl

/-- A record comes back from its entity as it was. -/
@[simp] theorem Entity.record_ofRecord (r : Record) : (ofRecord r).record = r := by
  cases r
  simp [ofRecord, ofSpecifics, record, Specifics.record, Record.specifics]

/-! ## 3. Different keys -/

/-- The values of different keys differ in something, in a list and under keys. -/
theorem SortedMap.nodup_map_iff {κ α β : Type} [Ord κ] [Std.LawfulEqOrd κ] {m : SortedMap κ α}
    {f : α → β} : (m.toList.map fun x => f x.2).Nodup ↔
      ∀ k k' a a', m.get? k = some a → m.get? k' = some a' → f a = f a' → k = k' := by
  rw [List.nodup_map_iff_inj_on m.nodup_toList]
  constructor
  · intro h k k' a a' ha ha' hf
    exact congrArg Prod.fst (h (k, a) (mem_toList_iff.2 ha) (k', a') (mem_toList_iff.2 ha') hf)
  · rintro h ⟨k, a⟩ ha ⟨k', a'⟩ ha' hf
    have hk := h k k' a a' (mem_toList_iff.1 ha) (mem_toList_iff.1 ha') hf
    subst hk
    rw [mem_toList_iff] at ha ha'
    rw [ha] at ha'
    rw [Option.some.inj ha']

/-! ## 4. Vaults as entities -/

namespace Vault

variable {v : Vault}

/-- The records as entities, in key order. -/
def entities (v : Vault) : List Entity := v.records.toList.map fun x => Entity.ofRecord x.2

/-- The records that a merge has left unmet, as entities. -/
def unmet (v : Vault) (m : Merging) : List Entity :=
  (Merge.unmet m v.records.toList).map fun x => Entity.ofRecord x.2

theorem unmet_sublist (v : Vault) (m : Merging) : (v.unmet m).Sublist v.entities :=
  List.filter_sublist.map _

theorem mem_entities {e : Entity} :
    e ∈ v.entities ↔ ∃ key r, v.records.get? key = some r ∧ Entity.ofRecord r = e := by
  rw [entities, List.mem_map]
  constructor
  · rintro ⟨⟨key, r⟩, hmem, rfl⟩
    exact ⟨key, r, SortedMap.mem_toList_iff.1 hmem, rfl⟩
  · rintro ⟨key, r, hr, rfl⟩
    exact ⟨(key, r), SortedMap.mem_toList_iff.2 hr, rfl⟩

theorem mem_unmet {m : Merging} {e : Entity} :
    e ∈ v.unmet m ↔
      ∃ key r, v.records.get? key = some r ∧ m.isSettled key = false ∧ Entity.ofRecord r = e := by
  rw [unmet, List.mem_map]
  constructor
  · rintro ⟨⟨key, r⟩, hmem, rfl⟩
    obtain ⟨hmem, hunmet⟩ := List.mem_filter.1 hmem
    exact ⟨key, r, SortedMap.mem_toList_iff.1 hmem, by simpa using hunmet, rfl⟩
  · rintro ⟨key, r, hr, hunmet, rfl⟩
    exact ⟨(key, r), List.mem_filter.2 ⟨SortedMap.mem_toList_iff.2 hr, by simp [hunmet]⟩, rfl⟩

theorem has_iff_mem {r : Record} : v.Has r ↔ r ∈ v.entities.map (·.record) := by
  rw [List.mem_map]
  constructor
  · rintro ⟨key, hr⟩
    exact ⟨_, mem_entities.2 ⟨key, r, hr, rfl⟩, Entity.record_ofRecord r⟩
  · rintro ⟨e, he, rfl⟩
    obtain ⟨key, r, hr, rfl⟩ := mem_entities.1 he
    exact ⟨key, by rw [hr, Entity.record_ofRecord]⟩

theorem Apart.nodup_tags (h : v.Apart) : (v.entities.map (·.specifics.tag)).Nodup := by
  rw [entities, List.map_map]
  exact SortedMap.nodup_map_iff.2 h

theorem Unique.nodup_naturalKeys (h : v.Unique) :
    (v.entities.map (·.record.naturalKey)).Nodup := by
  rw [entities, List.map_map]
  simp only [Function.comp_def, Entity.record_ofRecord]
  exact SortedMap.nodup_map_iff.2 h

end Vault

/-! ## 5. Records that no entity has met -/

/-- **An entity with the natural key of a record meets it**, unless the record is removed before. -/
theorem Fates.met {m m' : Merging} {v v' : Vault} {fs : List (Entity × Fate)} {e : Entity}
    {key : PrimaryKey} {r : Record} (h : Fates m v fs v' m') (hi : Indexed m v) (hv : v.Unique)
    (hr : v.records.get? key = some r) (he : e ∈ fs.map (·.1))
    (hn : e.record.naturalKey = r.naturalKey) : applied fs key ≠ [] ∨ key ∈ removed fs := by
  by_contra hnot
  obtain ⟨happlied, hremoved⟩ := not_or.1 hnot
  obtain ⟨⟨e', f⟩, hmem, rfl⟩ := List.mem_map.1 he
  obtain ⟨pre, post, rfl⟩ := List.append_of_mem hmem
  obtain ⟨m₁, v₁, hpre, hrest⟩ := split h
  simp only [applied, List.filter_append, List.map_append, List.append_eq_nil_iff, not_not] at happlied
  simp only [removed, List.filterMap_append, List.mem_append, not_or] at hremoved
  -- Up to the entity nothing happens to the record, so the entity finds it.
  have hget := (hpre.untouched (hi.sound key r hr) happlied.1 hremoved.1).2.trans hr
  have hi₁ := hpre.indexed hi
  have hcandidate : key ∈ m₁.candidates e'.specifics.tag :=
    (hi₁.candidates _ key).2 ⟨r, hget, (Record.tag_eq hn.symm).trans e'.tag_record⟩
  cases hrest with
  | cons hf _ =>
    cases hf with
    | @overwrote k hmeet =>
      obtain ⟨-, old, hold, holdn⟩ := Merging.meet_mem hmeet
      have hk : k = key := hpre.unique hi hv k key old r hold hget (holdn.trans hn)
      simp [Fate.overwrittenKey?, hk] at happlied
    | replaced hmeet | added hmeet => exact Merging.meet_none hmeet hcandidate hget hn.symm

namespace Device

section Merge

variable {π : Type} [Processor π] {d d' : Device π} {remote : List RemoteChange}
  {summary : MergeSummary} {fs : List (Entity × Fate)} {m : Merging}

/-- **No record that is uploaded has the natural key of a remote entity.** -/
theorem Merged.unmet_absent (h : Merged d remote summary fs m d') (hsound : d.store.vault.Sound)
    (hunique : d.store.vault.Unique) {e e' : Entity} (he : e ∈ d.store.vault.unmet m)
    (he' : e' ∈ remote.filterMap (·.data)) : e'.record.naturalKey ≠ e.record.naturalKey := by
  obtain ⟨key, r, hr, hunmet, rfl⟩ := Vault.mem_unmet.1 he
  obtain ⟨happlied, hremoved⟩ := h.not_met hunmet
  rw [Entity.record_ofRecord]
  intro hn
  rcases h.fates.met (.ofRecords hsound) hunique hr (h.data ▸ he') hn with ha | ha
  · exact ha happlied
  · exact hremoved ha

/-- A record behind a merge is that of a remote entity, or no entity has met it. -/
theorem Merged.of_has (h : Merged d remote summary fs m d') (hsound : d.store.vault.Sound)
    {r : Record} (hr : d'.store.vault.Has r) :
    r ∈ (remote.filterMap (·.data)).map (·.record) ∨
      r ∈ (d.store.vault.unmet m).map (·.record) := by
  obtain ⟨key, hr⟩ := hr
  rcases h.fates.origin_of_resident hr with ⟨e, he, rfl⟩ | hbefore
  · exact .inl (List.mem_map.2 ⟨e, h.data ▸ he, rfl⟩)
  have hle := hsound key r hbefore
  have hremoved : key ∉ Fates.removed fs := fun hmem => by
    rw [(h.fates.removed_once hle hbefore hmem).2] at hr
    cases hr
  by_cases happlied : Fates.applied fs key = []
  · have hunsettled : m.isSettled key = false :=
      Bool.eq_false_iff.2 fun hs => (h.isSettled.1 hs).elim (fun ha => ha happlied) hremoved
    exact .inr (List.mem_map.2
      ⟨_, Vault.mem_unmet.2 ⟨key, r, hbefore, hunsettled, rfl⟩, Entity.record_ofRecord r⟩)
  · -- The record is that of the last entity applied to it.
    obtain ⟨e, he⟩ := Option.ne_none_iff_exists'.1 fun hnone =>
      happlied (List.getLast?_eq_none_iff.1 hnone)
    rw [(h.fates.overwritten hle hbefore hremoved).1, he] at hr
    obtain ⟨x, hx, hxe⟩ := List.mem_map.1 (List.mem_of_getLast? he)
    refine .inl (List.mem_map.2 ⟨e, ?_, Option.some.inj hr⟩)
    rw [← h.data, ← hxe]
    exact List.mem_map_of_mem (List.mem_filter.1 hx).1

/-- Of remote entities with different client tags, each has its record behind the merge. -/
theorem Merged.has_record (h : Merged d remote summary fs m d') (hsound : d.store.vault.Sound)
    (htags : ((remote.filterMap (·.data)).map (·.specifics.tag)).Nodup) {e : Entity}
    (he : e ∈ remote.filterMap (·.data)) : d'.store.vault.Has e.record := by
  have hinj : ∀ e₁ ∈ remote.filterMap (·.data), ∀ e₂ ∈ remote.filterMap (·.data),
      e₁.specifics.tag = e₂.specifics.tag → e₁ = e₂ := fun e₁ h₁ e₂ h₂ ht =>
    List.inj_on_of_nodup_map htags h₁ h₂ ht
  have hstands : Merge.Stands d.store.vault.records (remote.filterMap (·.data)) e :=
    Merge.stands_of_apart (fun e₁ h₁ e₂ h₂ ht => by rw [hinj e₁ h₁ e₂ h₂ ht]) he
  obtain ⟨e', key, hlast, hget⟩ := (h.kept_iff hsound he).2 hstands
  obtain ⟨hn, pre, post, hsplit, -⟩ := Merge.split_of_lastWith hlast
  have he' : e' ∈ remote.filterMap (·.data) := by rw [hsplit]; simp
  have htag : e'.specifics.tag = e.specifics.tag :=
    e'.tag_record.symm.trans ((Record.tag_eq hn).trans e.tag_record)
  obtain rfl := hinj e' he' e he htag
  exact ⟨key, hget⟩

/-- **The records behind a merge** are those of the remote entities and those that none has met. -/
theorem Merged.has_iff (h : Merged d remote summary fs m d') (hsound : d.store.vault.Sound)
    (htags : ((remote.filterMap (·.data)).map (·.specifics.tag)).Nodup) {r : Record} :
    d'.store.vault.Has r ↔ r ∈ (remote.filterMap (·.data)).map (·.record) ∨
      r ∈ (d.store.vault.unmet m).map (·.record) := by
  refine ⟨h.of_has hsound, ?_⟩
  rintro (hmem | hmem)
  · obtain ⟨e, he, rfl⟩ := List.mem_map.1 hmem
    exact h.has_record hsound htags he
  · obtain ⟨e, he, rfl⟩ := List.mem_map.1 hmem
    obtain ⟨key, r, hr, hunmet, rfl⟩ := Vault.mem_unmet.1 he
    exact ⟨key, by rw [h.get?_of_unmet hsound hr hunmet, Entity.record_ofRecord]⟩

end Merge

/-- **A merge uploads the records that no entity has met.** -/
theorem Merged.uploads {d d' : Device Recorder} {remote : List RemoteChange}
    {summary : MergeSummary} {fs : List (Entity × Fate)} {m : Merging}
    (h : Merged d remote summary fs m d') : d.processor.uploads d'.processor =
      (d.store.vault.unmet m).map RemoteChange.add := by
  have hfates : (Merge.callsOf fs).filterMap ProcessorCall.entry? = [] :=
    List.filterMap_eq_nil_iff.2 fun c hc => by
      obtain ⟨k, e, -, rfl⟩ := Fates.added_of_call hc
      rfl
  rw [h.processor, Recorder.uploads_hearAll, Merged.calls, List.filterMap_append, hfates,
    List.nil_append, List.filterMap_map, Vault.unmet, List.map_map]
  induction Merge.unmet m d.store.vault.records.toList with
  | nil => rfl
  | cons x rs ih => exact congrArg _ ih

end Device

end CredentialSync
