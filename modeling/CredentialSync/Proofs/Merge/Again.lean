import CredentialSync.Proofs.Merge.Landing
import CredentialSync.Proofs.Merge.Success
import CredentialSync.Proofs.Mirror.Overheard

/-!
# Merging again

Behind a merge every entity is found where the merge has left its data, if no two natural keys of the
entities share a client tag. A second merge of the same entities overwrites what it finds
(`Fates.overwrote_all`), and puts back what is there: the records stay as they are
(`Fates.records_again`). It meets exactly the records that the first merge has left data in, so it
announces the same records as the first one did (`Device.unmet_again`).

`Device.merge_again` collects this for merges of a device.
-/

namespace CredentialSync

open Attempt Work

namespace Fates

variable {m m' : Merging} {v v' : Vault} {fs : List (Entity × Fate)} {key : PrimaryKey}

/-! ## 1. Entities that are all found -/

/-- **Entities whose natural keys are found overwrite the records there.** -/
theorem overwrote_all (h : Fates m v fs v' m') (hi : Indexed m v) (ha : m.Ascending)
    (hfound : ∀ x ∈ fs, v.lacks x.1.record.naturalKey = false) :
    (∀ x ∈ fs, ∃ key, v.find? x.1.record.naturalKey = some key ∧ x.2 = .overwrote key) ∧
      (∀ n, v'.find? n = v.find? n) ∧
      m'.summary = { m.summary with matched := m.summary.matched + fs.length } := by
  induction h with
  | nil => exact ⟨List.forall_mem_nil _, fun _ => rfl, rfl⟩
  | @cons m m₁ _ v v₁ _ e f fs hf _ ih =>
    have hfirst : v.lacks e.record.naturalKey = false := hfound (e, f) List.mem_cons_self
    obtain ⟨key, hfind⟩ := Vault.find?_of_lacks hfirst
    obtain ⟨hf', hsummary, hsame⟩ := hf.overwrote_of_found hi ha hfind
    have hfound' : ∀ x ∈ fs, v₁.lacks x.1.record.naturalKey = false := by
      intro x hx
      rw [Vault.lacks, hsame]
      exact hfound x (List.mem_cons_of_mem _ hx)
    obtain ⟨hall, hsame', hsummary'⟩ := ih (hf.indexed hi) (hf.ascending hi ha) hfound'
    refine ⟨List.forall_mem_cons.2 ⟨⟨key, hfind, hf'⟩, fun x hx => ?_⟩, fun n => ?_, ?_⟩
    · obtain ⟨k, hk, hx'⟩ := hall x hx
      exact ⟨k, hsame _ ▸ hk, hx'⟩
    · rw [hsame', hsame]
    · rw [hsummary', hsummary, List.length_cons, Nat.add_comm fs.length]
      simp only [Merging.countMatched, Nat.add_assoc]

/-- The records that some fates have overwritten. -/
theorem applied_ne_nil : applied fs key ≠ [] ↔ ∃ x ∈ fs, x.2 = .overwrote key := by
  have hkey : ∀ f : Fate, f.overwrittenKey? = some key ↔ f = .overwrote key := by
    intro f
    cases f <;> simp [Fate.overwrittenKey?]
  simp [applied, hkey]

/-- Fates that only overwrite remove and add nothing, and tell the processor nothing. -/
theorem silent (h : ∀ x ∈ fs, ∃ key, x.2 = .overwrote key) :
    removed fs = [] ∧ added fs = [] ∧ Merge.callsOf fs = [] ∧
      ∀ c ∈ Merge.changesOf fs, c.kind = .update := by
  induction fs with
  | nil => exact ⟨rfl, rfl, rfl, List.forall_mem_nil _⟩
  | cons x fs ih =>
    obtain ⟨e, f⟩ := x
    obtain ⟨key, rfl⟩ : ∃ key, f = .overwrote key := h (e, f) List.mem_cons_self
    obtain ⟨hremoved, hadded, hcalls, hchanges⟩ := ih fun y hy => h y (List.mem_cons_of_mem _ hy)
    exact ⟨hremoved, hadded, hcalls, List.forall_mem_cons.2 ⟨rfl, hchanges⟩⟩

/-- **Entities that are found where the last of them has left its data change nothing.** -/
theorem records_again (h : Fates m v fs v' m') (hi : Indexed m v) (ha : m.Ascending)
    (hapart : Merge.Apart (fs.map (·.1)))
    (hfound : ∀ x ∈ fs, v.lacks x.1.record.naturalKey = false)
    (hunder : ∀ e ∈ fs.map (·.1), v.under? e.record.naturalKey =
      (Merge.lastWith? (fs.map (·.1)) e.record.naturalKey).map Entity.record) :
    v'.records = v.records := by
  obtain ⟨hall, hsame, -⟩ := h.overwrote_all hi ha hfound
  obtain ⟨hremoved, hadded, -⟩ := silent fun x hx => (hall x hx).imp fun _ hk => hk.2
  refine SortedMap.ext_get? fun k => ?_
  cases hr : v.records.get? k with
  | none =>
    cases hr' : v'.records.get? k with
    | none => rfl
    | some r =>
      rcases h.resident_or_added hr' with ⟨r', hr''⟩ | hmem
      · rw [hr] at hr''
        cases hr''
      · rw [hadded] at hmem
        cases hmem
  | some r =>
    by_cases happlied : applied fs k = []
    · rw [(h.untouched (hi.sound k r hr) happlied (by rw [hremoved]; exact List.not_mem_nil)).2, hr]
    · obtain ⟨x, hx, hk⟩ := applied_ne_nil.1 happlied
      obtain ⟨key, hfind, hkey⟩ := hall x hx
      obtain rfl : key = k := by
        rw [hk] at hkey
        exact (Fate.overwrote.inj hkey).symm
      have hmem : x.1 ∈ fs.map (·.1) := List.mem_map_of_mem hx
      have hafter := (h.under?_eq hi ha hapart hmem).trans (hunder x.1 hmem).symm
      rw [Vault.under?, Vault.under?, hsame, hfind, Option.bind_some, Option.bind_some, hr] at hafter
      exact hafter

end Fates

namespace Merge

variable {π : Type} [Processor π] {s : Scope π}

/-- **Entities whose natural keys are all found are merged.** -/
theorem mergeEntities_succeeds_of_found {m : Merging} {cs : List RemoteChange} {es : List Entity}
    (h : s.Able) (hi : Indexed m s.store.vault) (ha : m.Ascending)
    (hdata : cs.map (·.data) = es.map some)
    (hfound : ∀ e ∈ es, s.store.vault.lacks e.record.naturalKey = false) :
    (mergeEntities m cs).Succeeds s := by
  induction cs generalizing m es s with
  | nil => exact succeeds_pure _ _
  | cons c cs ih =>
    obtain ⟨e, es, rfl, hc, hcs⟩ := List.map_eq_cons_iff.1 hdata.symm
    have hc : c.data = some e := hc.symm
    obtain ⟨hfirst, hrest⟩ := List.forall_mem_cons.1 hfound
    obtain ⟨m', t, hentity⟩ := (mergeEntity_succeeds_iff (e := e) h hi).2 fun hlacks => by
      rw [hfirst] at hlacks
      cases hlacks
    obtain ⟨f, hfated, -⟩ := mergeEntity_ok h.store.quiet hi hentity
    obtain ⟨key, hfind⟩ := Vault.find?_of_lacks hfirst
    have hsame := (hfated.overwrote_of_found hi ha hfind).2.2
    unfold mergeEntities
    simp only [hc]
    rw [succeeds_bind_of_ok hentity]
    refine ih ((direct_mergeEntity m e).able h hentity) (hfated.indexed hi) (hfated.ascending hi ha)
      hcs.symm fun e' he' => ?_
    rw [Vault.lacks, hsame]
    exact hrest e' he'

end Merge

namespace Device

section Twice

variable {π : Type} [Processor π] {d d₁ d₂ : Device π} {remote : List RemoteChange}
  {summary summary' : MergeSummary} {fs gs : List (Entity × Fate)} {m m' : Merging}
  {p : PendingMetadata}

/-! ## 2. Two merges of a device -/

/-- Behind a merge each entity is found under the key where its data was left. -/
theorem Merged.landed (h : Merged d remote summary fs m d₁) (hsound : d.store.vault.Sound)
    (hapart : Merge.Apart (remote.filterMap (·.data))) :
    ∀ x ∈ fs, d₁.store.vault.find? x.1.record.naturalKey = some x.2.key :=
  h.fates.landed (.ofRecords hsound) (Merging.ascending_ofRecords _) (h.data.symm ▸ hapart)

/-- Behind a merge no entity is lacking. -/
theorem Merged.found (h : Merged d remote summary fs m d₁) (hsound : d.store.vault.Sound)
    (hapart : Merge.Apart (remote.filterMap (·.data))) :
    ∀ e ∈ remote.filterMap (·.data), d₁.store.vault.lacks e.record.naturalKey = false := by
  intro e he
  rw [← h.data] at he
  obtain ⟨x, hx, rfl⟩ := List.mem_map.1 he
  rw [Vault.lacks, h.landed hsound hapart x hx]
  rfl

/-- A key where data was left has been overwritten, or added. -/
theorem Merged.overwrote_or_added {x : Entity × Fate} (hx : x ∈ fs) :
    Fates.applied fs x.2.key ≠ [] ∨ x.2.key ∈ Fates.added fs := by
  obtain ⟨e, f⟩ := x
  cases f with
  | overwrote key => exact .inl (Fates.applied_ne_nil.2 ⟨_, hx, rfl⟩)
  | added key old? => exact .inr (List.mem_filterMap.2 ⟨_, hx, rfl⟩)

/-- What the second merge does with the entities. -/
theorem Merged.overwrote_again (h : Merged d remote summary fs m d₁)
    (h' : Merged { d₁ with pending := p } remote summary' gs m' d₂)
    (hsound : d.store.vault.Sound) (hapart : Merge.Apart (remote.filterMap (·.data))) :
    (∀ x ∈ gs, ∃ key, d₁.store.vault.find? x.1.record.naturalKey = some key ∧
        x.2 = .overwrote key) ∧
      m'.summary = { matched := gs.length } ∧ d₂.store.vault.records = d₁.store.vault.records := by
  have hi := h.fates.indexed (.ofRecords hsound)
  have hi' : Indexed (.ofRecords d₁.store.vault.records) d₁.store.vault := .ofRecords hi.sound
  have ha' := Merging.ascending_ofRecords d₁.store.vault
  have hfound : ∀ x ∈ gs, d₁.store.vault.lacks x.1.record.naturalKey = false := fun x hx =>
    h.found hsound hapart x.1 (h'.data ▸ List.mem_map_of_mem hx)
  have hfates : Fates (.ofRecords d₁.store.vault.records) d₁.store.vault gs d₂.store.vault m' :=
    h'.fates
  obtain ⟨hall, -, hsummary⟩ := hfates.overwrote_all hi' ha' hfound
  rw [(Merging.ofRecords_start _).2.2, Nat.zero_add] at hsummary
  refine ⟨hall, hsummary, hfates.records_again hi' ha' (h'.data.symm ▸ hapart) hfound ?_⟩
  intro e he
  rw [h'.data, ← h.data] at he ⊢
  exact h.fates.under?_eq (.ofRecords hsound) (Merging.ascending_ofRecords _)
    (h.data.symm ▸ hapart) he

/-- The second merge meets the keys where the first one has left its data. -/
theorem settled_again (h : Merged d remote summary fs m d₁)
    (h' : Merged { d₁ with pending := p } remote summary' gs m' d₂)
    (hsound : d.store.vault.Sound) (hapart : Merge.Apart (remote.filterMap (·.data)))
    {key : PrimaryKey} : m'.isSettled key = true ↔ ∃ x ∈ fs, x.2.key = key := by
  have hlanded := h.landed hsound hapart
  obtain ⟨hall, -⟩ := h.overwrote_again h' hsound hapart
  obtain ⟨hremoved, -⟩ := Fates.silent fun x hx => (hall x hx).imp fun _ hk => hk.2
  have hsame : gs.map (·.1) = fs.map (·.1) := h'.data.trans h.data.symm
  rw [h'.isSettled, hremoved, Fates.applied_ne_nil]
  constructor
  · rintro (⟨y, hy, hkey⟩ | hmem)
    · obtain ⟨k, hfind, hk⟩ := hall y hy
      obtain rfl : k = key := Fate.overwrote.inj (hk.symm.trans hkey)
      obtain ⟨x, hx, hxy⟩ := List.mem_map.1 (hsame ▸ List.mem_map_of_mem hy : y.1 ∈ fs.map (·.1))
      refine ⟨x, hx, Option.some.inj ?_⟩
      rw [← hlanded x hx, hxy, hfind]
    · cases hmem
  · rintro ⟨x, hx, rfl⟩
    obtain ⟨y, hy, hyx⟩ := List.mem_map.1 (hsame ▸ List.mem_map_of_mem hx : x.1 ∈ gs.map (·.1))
    obtain ⟨k, hfind, hk⟩ := hall y hy
    rw [hyx, hlanded x hx] at hfind
    exact .inl ⟨y, hy, by rw [hk, ← Option.some.inj hfind]⟩

/-- **Both merges announce the same records.** -/
theorem unmet_again (h : Merged d remote summary fs m d₁)
    (h' : Merged { d₁ with pending := p } remote summary' gs m' d₂)
    (hsound : d.store.vault.Sound) (hapart : Merge.Apart (remote.filterMap (·.data))) :
    Merge.unmet m' d₁.store.vault.records.toList = Merge.unmet m d.store.vault.records.toList := by
  refine SortedMap.filter_toList_eq fun k r => ?_
  simp only [Bool.not_eq_true']
  constructor
  · rintro ⟨hr, hunsettled⟩
    -- no data was left under the key, so it was resident, and neither overwritten nor removed
    have hnone : ∀ x ∈ fs, x.2.key ≠ k := by
      intro x hx hk
      rw [(settled_again h h' hsound hapart).2 ⟨x, hx, hk⟩] at hunsettled
      cases hunsettled
    have hresident : ∃ r, d.store.vault.records.get? k = some r := by
      refine (h.fates.resident_or_added hr).resolve_right fun hmem => ?_
      obtain ⟨⟨e, f⟩, hx, hadded⟩ := List.mem_filterMap.1 hmem
      cases f with
      | overwrote => cases hadded
      | added key old? => exact hnone _ hx (Option.some.inj hadded)
    obtain ⟨r', hr'⟩ := hresident
    have hunmet : m.isSettled k = false := by
      refine Bool.eq_false_iff.2 fun hsettled => ?_
      rcases h.isSettled.1 hsettled with happlied | hremoved
      · obtain ⟨x, hx, hk⟩ := Fates.applied_ne_nil.1 happlied
        exact hnone x hx (by rw [hk]; rfl)
      · rw [(h.fates.removed_once (hsound k r' hr') hr' hremoved).2] at hr
        cases hr
    have hkept := h.get?_of_unmet hsound hr' hunmet
    rw [hr] at hkept
    exact ⟨hr'.trans hkept.symm, hunmet⟩
  · rintro ⟨hr, hunmet⟩
    refine ⟨h.get?_of_unmet hsound hr hunmet, Bool.eq_false_iff.2 fun hsettled => ?_⟩
    obtain ⟨x, hx, rfl⟩ := (settled_again h h' hsound hapart).1 hsettled
    rcases Merged.overwrote_or_added hx with happlied | hadded
    · exact happlied (h.not_met hunmet).1
    · have hlt := h.fates.lt_of_added hadded
      exact Int64.lt_irrefl (Int64.lt_of_lt_of_le hlt (hsound _ r hr))

end Twice

/-- A merge of entities that are all found succeeds. -/
theorem Able.merge_of_found {π : Type} [Processor π] {d : Device π} (h : d.Able)
    {remote : List RemoteChange} {es : List Entity} (hdata : remote.map (·.data) = es.map some)
    (hfound : ∀ e ∈ es, d.store.vault.lacks e.record.naturalKey = false) :
    (Device.merge remote).Succeeds d := by
  obtain ⟨hable, -, -, hvault, -⟩ := h.begun
  have hvault : d.begun.scope.store.vault = d.store.vault := hvault
  rw [h.merge_iff, Merge.work_succeeds_iff hable]
  exact Merge.mergeEntities_succeeds_of_found hable (.ofRecords hable.store.sound.vault)
    (Merging.ascending_ofRecords _) hdata (hvault ▸ hfound)

/-- **Merging the same entities again changes nothing.** The second merge succeeds, overwrites for each
    entity the record where its data was left, and leaves all records as they are; the processor is told
    what the first merge has announced, and no key. -/
theorem merge_again {π : Type} [Processor π] {d d₁ : Device (Overheard π)}
    {remote : List RemoteChange} {summary : MergeSummary} (hquiet : d.store.Quiet)
    (hsound : d.store.content.Sound) (hapart : Merge.Apart (remote.filterMap (·.data)))
    (h : (merge remote).perform d = (.ok summary, d₁)) (p : PendingMetadata) :
    ∃ calls changes summary' d₂,
      d₁.processor.heard = d.processor.heard ++ calls ∧
      (merge remote).perform { d₁ with pending := p } = (.ok summary', d₂) ∧
      summary' = { matched := remote.length, remoteOnly := 0, localOnly := summary.localOnly } ∧
      (({ d₁ with pending := p } : Device (Overheard π)).batch .bridge .remote
        (body (Merge.work remote))).1 = .committed (.ok summary') changes ∧
      (∀ c ∈ changes, c.kind = .update) ∧
      d₂.store.vault.records = d₁.store.vault.records ∧
      d₂.processor.heard = d₁.processor.heard ++ calls.filter (·.put?.isSome) := by
  obtain ⟨fs, m, hfirst⟩ := merge_ok hquiet hsound.vault h
  have hable₁ : d₁.Able := (able_of_merge hquiet hsound h).merge h
  have hable : ({ d₁ with pending := p } : Device (Overheard π)).Able :=
    ⟨hable₁.store, hable₁.closed⟩
  have hfound : ∀ e ∈ fs.map (·.1), d₁.store.vault.lacks e.record.naturalKey = false :=
    hfirst.data.symm ▸ hfirst.found hsound.vault hapart
  have hdata : remote.map (·.data) = (fs.map (·.1)).map some :=
    hfirst.entities.trans (List.map_map).symm
  obtain ⟨summary', d₂, hagain⟩ := hable.merge_of_found hdata hfound
  obtain ⟨gs, m', hsecond⟩ := merge_ok hable.store.quiet hable.store.sound.vault hagain
  obtain ⟨hall, hsummary, hrecords⟩ := hfirst.overwrote_again hsecond hsound.vault hapart
  obtain ⟨-, -, hcalls, hchanges⟩ := Fates.silent fun x hx => (hall x hx).imp fun _ hk => hk.2
  have hunmet := unmet_again hfirst hsecond hsound.vault hapart
  have hlength : gs.length = remote.length := by
    simpa using (congrArg List.length hsecond.entities).symm
  refine ⟨Merged.calls d fs m, Merge.changesOf gs, summary', d₂, ?_, hagain, ?_, hsecond.batch,
    hchanges, hrecords, ?_⟩
  · rw [hfirst.processor]
    exact Overheard.hearAll_heard _ _
  · rw [hsecond.summary, hfirst.summary, hsummary, hlength]
    exact congrArg (fun rs => ({ matched := remote.length, localOnly := rs.length } : MergeSummary))
      hunmet
  · rw [hsecond.processor, Overheard.hearAll_heard, Merged.calls, Merged.calls, Merge.filter_puts,
      hcalls]
    exact congrArg (fun rs => d₁.processor.heard ++ rs.map Merge.putOf) hunmet

/-- A device with two records, whose processor is overheard. -/
def attended : Device (Overheard Recorder) where
  store := .table ((({} : Table).seed 1 (.sample "a")).seed 2 (.sample "b"))
  processor := { processor := {} }
  notifier := .ofCapacity 1

/-- One entity for a record of the device, and one new entity that comes twice. -/
def repeating : List RemoteChange := [.sample "a", .sample "c", .sample "c"]

theorem merge_again_attended :
    Merge.Apart (repeating.filterMap (·.data)) ∧
      ∃ d₁ d₂,
        (merge repeating).perform attended =
          (.ok { matched := 2, remoteOnly := 1, localOnly := 1 }, d₁) ∧
        (merge repeating).perform { d₁ with pending := {} } =
          (.ok { matched := 3, remoteOnly := 0, localOnly := 1 }, d₂) ∧
        d₂.store.vault.records = d₁.store.vault.records ∧
        d₂.processor.heard =
          d₁.processor.heard ++ d₁.processor.heard.filter (·.put?.isSome) := by
  have hapart : Merge.Apart (repeating.filterMap (·.data)) := by decide +kernel
  have hquiet : attended.store.Quiet := rfl
  have hsound : attended.store.content.Sound :=
    (Store.Reached.seed 2 (.sample "b") (.seed 1 (.sample "a") .table)).sound.content
  have hmerge : ((merge repeating).perform attended).1.toOption =
      some { matched := 2, remoteOnly := 1, localOnly := 1 } := by decide +kernel
  obtain ⟨d₁, h⟩ : ∃ d₁, (merge repeating).perform attended =
      (.ok { matched := 2, remoteOnly := 1, localOnly := 1 }, d₁) := ⟨_, ok_of_toOption hmerge⟩
  obtain ⟨calls, -, _, d₂, hcalls, hagain, rfl, -, -, hrecords, hheard⟩ :=
    merge_again hquiet hsound hapart h {}
  have hcalls : d₁.processor.heard = calls := hcalls
  exact ⟨hapart, d₁, d₂, h, hagain, hrecords, hcalls.symm ▸ hheard⟩

end Device

end CredentialSync
