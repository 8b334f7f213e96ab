import CredentialSync.Proofs.Apply.Additions
import CredentialSync.Proofs.Exchange.Uploads

/-!
# Two devices converge

In an exchange the first device merges with nothing and uploads its records; the second device merges
these, and uploads those of its own records that none of them has met; the first device then applies
what the second one has uploaded, as additions.

If no two records of the first device share a client tag, the devices hold the same records behind
the exchange (`Device.InStep`), and the last call has only added to the first one
(`Device.OnlyAdds`). Nothing can fail except for want of primary keys, and `exchange_converges` says when
that is.
-/

namespace CredentialSync

open Attempt

namespace Vault

/-- How many records of the second vault have natural keys that the first one lacks. -/
def missing (v w : Vault) : Nat := w.records.toList.countP fun x => v.lacks x.2.naturalKey

variable {v w : Vault}

theorem countP_entities (v w : Vault) :
    w.entities.countP (fun e => v.lacks e.record.naturalKey) = v.missing w := by
  simp [entities, missing, List.countP_map, Function.comp_def]

end Vault

/-- The entities of additions. -/
theorem RemoteChange.map_data_add (es : List Entity) :
    (es.map RemoteChange.add).map (·.data) = es.map some := by
  simp [RemoteChange.add, Function.comp_def]

theorem RemoteChange.filterMap_data_add (es : List Entity) :
    (es.map RemoteChange.add).filterMap (·.data) = es := by
  simp [RemoteChange.add, List.filterMap_map, Function.comp_def]

namespace Device

/-- Two devices hold the same records: natural keys are unique on both, and under each natural key
    both have the same record, or both have none. -/
structure InStep (d d' : Device Recorder) : Prop where
  left : d.store.vault.Unique
  right : d'.store.vault.Unique
  under : ∀ n, d.store.vault.under? n = d'.store.vault.under? n

/-- An application has only added records: those that were there are under their keys as before, every
    committed change is an addition, and the processor was told storage keys only. -/
structure OnlyAdds (d : Device Recorder) (remote : List RemoteChange) (d' : Device Recorder) :
    Prop where
  kept : ∀ key r, d.store.vault.records.get? key = some r →
    d'.store.vault.records.get? key = some r
  changes : ∃ summary cs, (d.batch .bridge .remote (body (Apply.work remote))).1 =
    .committed (.ok summary) cs ∧ ∀ c ∈ cs, c.kind = .add
  calls : ∃ told, d'.processor.calls = d.processor.calls ++ told ∧
    ∀ c ∈ told, ∃ key e, c = .assignKey key e

variable {d d' d₁ d₂ d₁' d₂' : Device Recorder}

/-! ## 1. Merging with nothing -/

/-- **A merge with nothing succeeds, leaves the records alone, and uploads all of them.** -/
theorem Able.merge_nil (h : d.Able) : ∃ summary d', (Device.merge []).perform d = (.ok summary, d') ∧
    d'.Able ∧ d'.store.vault = d.store.vault ∧
    d.processor.uploads d'.processor = d.store.vault.entities.map RemoteChange.add := by
  have hnothing : ([] : List RemoteChange).map (·.data) = ([] : List Entity).map some := rfl
  obtain ⟨summary, d', hmerge⟩ :=
    (h.merge_succeeds_iff hnothing List.nodup_nil).2 (Nat.zero_le _)
  obtain ⟨fs, m, hmerged⟩ := merge_ok h.store.quiet h.store.sound.vault hmerge
  obtain rfl : fs = [] := List.map_eq_nil_iff.1 hmerged.entities.symm
  have hvault := hmerged.fates.of_nil
  -- All records are left unmet, since there is nothing to meet them.
  have hunmet : Merge.unmet m d.store.vault.records.toList = d.store.vault.records.toList :=
    List.filter_eq_self.2 fun x _ => by
      rw [Bool.not_eq_true', Bool.eq_false_iff, Ne, hmerged.isSettled]
      simp [Fates.applied, Fates.removed]
  refine ⟨summary, d', hmerge, h.merge hmerge, hvault, ?_⟩
  rw [hmerged.uploads, Vault.unmet, hunmet, Vault.entities]

/-- A merge uploads no more records than there are. -/
theorem Able.uploads_le (h : d.Able) {remote : List RemoteChange} {summary : MergeSummary}
    (hmerge : (Device.merge remote).perform d = (.ok summary, d')) :
    (d.processor.uploads d'.processor).length ≤ d.store.vault.entities.length := by
  obtain ⟨fs, m, hmerged⟩ := merge_ok h.store.quiet h.store.sound.vault hmerge
  rw [hmerged.uploads, List.length_map]
  exact (d.store.vault.unmet_sublist m).length_le

/-! ## 2. The three calls -/

/-- **Behind the merge of the second device and the application of the first one, both are in step.** -/
theorem inStep_of_merged {summary : MergeSummary} {fs : List (Entity × Fate)} {m : Merging}
    {applied : ApplySummary} (hapart : d₁.store.vault.Apart) (h₁ : d₁.Able) (h₂ : d₂.Able)
    (hunique : d₂.store.vault.Unique)
    (hmerged : Merged d₂ (d₁.store.vault.entities.map RemoteChange.add) summary fs m d₂')
    (happly : (apply (d₂.processor.uploads d₂'.processor)).perform d₁ = (.ok applied, d₁')) :
    InStep d₁' d₂' ∧ OnlyAdds d₁ (d₂.processor.uploads d₂'.processor) d₁' := by
  have hsound := h₂.store.sound.vault
  have hunique₂ := hmerged.fates.unique (.ofRecords hsound) hunique
  have hdata := RemoteChange.filterMap_data_add d₁.store.vault.entities
  have hhas (r : Record) := hmerged.has_iff hsound (hdata.symm ▸ hapart.nodup_tags) (r := r)
  rw [hmerged.uploads] at happly ⊢
  obtain ⟨cs, es, htaken⟩ := apply_ok h₁.store.quiet happly
  -- The first device has no record with the natural key of an uploaded one.
  have hlacks : ∀ e ∈ d₂.store.vault.unmet m,
      d₁.store.vault.lacks e.record.naturalKey = true := by
    intro e he
    refine Vault.lacks_iff.2 fun r hr hn => ?_
    obtain ⟨e', he', rfl⟩ := List.mem_map.1 (Vault.has_iff_mem.1 hr)
    exact hmerged.unmet_absent hsound hunique he (hdata.symm ▸ he') hn
  have hdistinct : ((d₂.store.vault.unmet m).map (·.record.naturalKey)).Nodup :=
    hunique.nodup_naturalKeys.sublist ((d₂.store.vault.unmet_sublist m).map _)
  obtain ⟨hgrown, hunique₁, hadds, hcalls⟩ := htaken.applied.additions h₁.store.sound.vault
    hapart.unique hlacks hdistinct
  have hsame (r : Record) : d₁'.store.vault.Has r ↔ d₂'.store.vault.Has r := by
    rw [hgrown.has_iff, hhas, hdata, Vault.has_iff_mem]
  have hcalled : d₁'.processor.calls = d₁.processor.calls ++ es.filterMap Work.Event.call? := by
    obtain ⟨asked, hheard, -⟩ := htaken.heard
    have hprocessor := congrArg Prod.fst hheard
    rw [Work.Event.processor_hear, List.filterMap_append] at hprocessor
    rw [show d₁'.processor = _ from hprocessor, Recorder.calls_hearAll]
    simp [Work.Event.call?]
  exact ⟨⟨hunique₁, hunique₂, Vault.under?_congr hunique₁ hunique₂ hsame⟩,
    hgrown.kept, ⟨applied, cs, htaken.batch, hadds⟩, _, hcalled, hcalls⟩

/-- **Two devices converge.** The first call succeeds. The second one succeeds exactly if the second
    device has a key for each record whose natural key it lacks, and the third one exactly if the
    first device has a key for each record that is uploaded to it. Then both devices hold the
    same records, and the third call has only added to the first device. -/
theorem exchange_converges (h₁ : d₁.Able) (h₂ : d₂.Able) (hapart : d₁.store.vault.Apart)
    (hunique : d₂.store.vault.Unique) :
    ∃ s₁ d₁', (merge []).perform d₁ = (.ok s₁, d₁') ∧ d₁'.store.vault = d₁.store.vault ∧
      ((merge (d₁.processor.uploads d₁'.processor)).Succeeds d₂ ↔
        d₂.store.vault.missing d₁.store.vault ≤ d₂.store.vault.lastKey.keysLeft) ∧
      ∀ s₂ d₂', (merge (d₁.processor.uploads d₁'.processor)).perform d₂ = (.ok s₂, d₂') →
        ((apply (d₂.processor.uploads d₂'.processor)).Succeeds d₁' ↔
          (d₂.processor.uploads d₂'.processor).length ≤ d₁.store.vault.lastKey.keysLeft) ∧
        ∀ s₃ d₁'', (apply (d₂.processor.uploads d₂'.processor)).perform d₁' = (.ok s₃, d₁'') →
          InStep d₁'' d₂' ∧ OnlyAdds d₁' (d₂.processor.uploads d₂'.processor) d₁'' := by
  obtain ⟨s₁, d₁', hfirst, hable, hvault, huploads⟩ := h₁.merge_nil
  refine ⟨s₁, d₁', hfirst, hvault, ?_, fun s₂ d₂' hsecond => ⟨?_, fun s₃ d₁'' hthird => ?_⟩⟩
  · rw [huploads, h₂.merge_succeeds_iff (RemoteChange.map_data_add _) hapart.nodup_tags,
      Vault.countP_entities]
  · rw [huploads] at hsecond
    obtain ⟨fs, m, hmerged⟩ := merge_ok h₂.store.quiet h₂.store.sound.vault hsecond
    rw [hmerged.uploads, hable.apply_succeeds_iff, hvault, List.length_map RemoteChange.add]
  · rw [huploads] at hsecond
    obtain ⟨fs, m, hmerged⟩ := merge_ok h₂.store.quiet h₂.store.sound.vault hsecond
    rw [← hvault] at hmerged hapart
    exact inStep_of_merged hapart hable h₂ hunique hmerged hthird

end Device

/-! ## 3. Devices with given records -/

/-- A database that holds records under given keys. -/
def Database.holding (rs : List (PrimaryKey × Record)) : Database :=
  rs.foldl (fun d x => d.insertRaw x.1 x.2 0 0) .fresh

/-- A device with such a database. -/
def Device.holding (rs : List (PrimaryKey × Record)) : Device Recorder :=
  { store := .database (.holding rs), processor := {}, notifier := .ofCapacity 1 }

/-- Inserting a row with a scheme that can be read. -/
theorem Database.Able.insertRaw {d : Database} (h : d.Able) (key : PrimaryKey) (r : Record) :
    (d.insertRaw key r 0 0).Able := by
  obtain ⟨t, ht, hlegible⟩ := h.legible
  unfold Database.insertRaw
  rw [ht]
  exact h.putRecords (hlegible.insert_row key _ rfl)

theorem Database.kept_insertRaw (d : Database) (key : PrimaryKey) (r : Record)
    (scheme preferred : Int64) : Kept d (d.insertRaw key r scheme preferred) := by
  unfold Database.insertRaw
  split
  · exact .refl d
  · exact kept_putRecords _ d

/-- A device that holds given records is able. -/
theorem Device.able_holding (rs : List (PrimaryKey × Record)) : (holding rs).Able := by
  have hall : ∀ (rs : List (PrimaryKey × Record)) (d : Database),
      d.Able → Store.Reached (.database d) →
      (rs.foldl (fun d x => d.insertRaw x.1 x.2 0 0) d).Able ∧
        Store.Reached (.database (rs.foldl (fun d x => d.insertRaw x.1 x.2 0 0) d)) ∧
        Database.Kept d (rs.foldl (fun d x => d.insertRaw x.1 x.2 0 0) d) := by
    intro rs
    induction rs with
    | nil => exact fun d hd hreached => ⟨hd, hreached, .refl d⟩
    | cons x rs ih =>
      intro d hd hreached
      obtain ⟨hable, hreached', hkept⟩ :=
        ih _ (hd.insertRaw x.1 x.2) (.insertRaw x.1 x.2 0 0 hreached)
      exact ⟨hable, hreached', (Database.kept_insertRaw d x.1 x.2 0 0).trans hkept⟩
  have hfresh : Database.fresh.Able := ⟨rfl, {}, rfl, fun key row hrow => nomatch hrow⟩
  obtain ⟨hd, hreached, hkept⟩ := hall rs .fresh hfresh .database
  refine ⟨⟨⟨hd.quiet, hkept.busy⟩, hreached.sound.content, hd.legible⟩, ?_⟩
  show (Database.holding rs).saved.map Content.database = none
  rw [show (Database.holding rs).saved = none from hkept.saved]
  rfl

namespace Device

/-- A record of the first device, one with the same natural key on the second device, and a record
    that only the second device has. -/
def pair : Device Recorder × Device Recorder :=
  (holding [(1, .sample "a"), (2, .sample "b")],
    holding [(7, (Record.sample "b").withPassword "old"), (9, .sample "c")])

theorem exchange_converges_pair :
    pair.1.Able ∧ pair.2.Able ∧ pair.1.store.vault.Apart ∧ pair.2.store.vault.Unique ∧
      ∃ s₁ d₁' s₂ d₂' s₃ d₁'', (merge []).perform pair.1 = (.ok s₁, d₁') ∧
        (merge (pair.1.processor.uploads d₁'.processor)).perform pair.2 = (.ok s₂, d₂') ∧
        (apply (pair.2.processor.uploads d₂'.processor)).perform d₁' = (.ok s₃, d₁'') ∧
        InStep d₁'' d₂' ∧ OnlyAdds d₁' (pair.2.processor.uploads d₂'.processor) d₁'' := by
  have hleft : pair.1.Able := able_holding _
  have hright : pair.2.Able := able_holding _
  have hapart : pair.1.store.vault.Apart := SortedMap.nodup_map_iff.1 (by decide +kernel)
  have hunique : pair.2.store.vault.Unique := SortedMap.nodup_map_iff.1 (by decide +kernel)
  obtain ⟨s₁, d₁', hfirst, -, hsecond, hrest⟩ :=
    exchange_converges hleft hright hapart hunique
  obtain ⟨s₂, d₂', hmerge⟩ := hsecond.2 (by decide +kernel)
  obtain ⟨hthird, hend⟩ := hrest s₂ d₂' hmerge
  have hfew : pair.2.store.vault.entities.length ≤ pair.1.store.vault.lastKey.keysLeft := by
    decide +kernel
  obtain ⟨s₃, d₁'', happly⟩ := hthird.2 (Nat.le_trans (hright.uploads_le hmerge) hfew)
  obtain ⟨hinStep, hadds⟩ := hend s₃ d₁'' happly
  exact ⟨hleft, hright, hapart, hunique, s₁, d₁', s₂, d₂', s₃, d₁'', hfirst, hmerge, happly, hinStep,
    hadds⟩

/-- A device with a record, and one that has given out the greatest primary key. -/
def full : Device Recorder × Device Recorder :=
  (holding [(1, .sample "a")], holding [(.greatest, .sample "top")])

/-- The second device cannot take in the record of the first one. -/
theorem full_does_not_converge :
    full.1.Able ∧ full.2.Able ∧ full.1.store.vault.Apart ∧ full.2.store.vault.Unique ∧
      ∃ s₁ d₁', (merge []).perform full.1 = (.ok s₁, d₁') ∧
        ((merge (full.1.processor.uploads d₁'.processor)).perform full.2).1 =
          .error DatabaseFault.full.store := by
  refine ⟨able_holding _, able_holding _, SortedMap.nodup_map_iff.1 (by decide +kernel),
    SortedMap.nodup_map_iff.1 (by decide +kernel), { localOnly := 1 },
    ((merge []).perform full.1).2, ok_of_toOption (by decide +kernel), ?_⟩
  decide +kernel

end Device

end CredentialSync
