import CredentialSync.Proofs.Merge.Account
import CredentialSync.Proofs.Tracking.Answers

/-!
# Merges make the metadata track the records

Before a merge, some storage keys of resident records may have entries, right or wrong ones
(`Within`). The merge brings every key it meets in order: each fate leaves writes that suit the
records behind it (`Fated.suits`), and the announcements deal with the records that no entity has met.
So the metadata tracks the records afterwards (`Merged.tracks`), if the remote entities carry the
hashes of their own client tags (`Entity.Honest`).
-/

namespace CredentialSync

/-! ## 1. Honest entities -/

/-- The entity carries the hash of its own client tag. -/
def Entity.Honest (e : Entity) : Prop := e.tagHash = e.specifics.tagHash

/-- All entities of a list of remote changes are honest. -/
def RemoteChange.AllHonest (remote : List RemoteChange) : Prop :=
  ∀ c ∈ remote, ∀ e, c.data = some e → e.Honest

theorem honest_sample (realms : List String) :
    RemoteChange.AllHonest (realms.map RemoteChange.sample) := by
  intro c hc e hdata
  obtain ⟨realm, -, rfl⟩ := List.mem_map.1 hc
  cases hdata
  rfl

theorem Entity.Honest.ofRemote {e : Entity} (h : e.Honest) :
    (EntityMetadata.ofRemote e).tagHash = e.record.specifics.tagHash := by
  rw [Specifics.tagHash, Entity.tag_record]
  exact h

/-- Every text with an entry is the storage key of a resident record. -/
def Within (m : StoredMetadata) (v : Vault) : Prop :=
  ∀ text, m.under text ≠ [] → ∃ key r, v.records.get? key = some r ∧ key.storageKey = text

/-- Without entries there is none that could be wrong. -/
theorem within_of_empty {m : StoredMetadata} {v : Vault} (h : ∀ text, m.under text = []) :
    Within m v := fun text hne => absurd (h text) hne

theorem Within.under_of_none {m : StoredMetadata} {v : Vault} (h : Within m v) {key : PrimaryKey}
    (hkey : v.records.get? key = none) : m.under key.storageKey = [] := by
  by_contra hne
  obtain ⟨k, r, hr, he⟩ := h _ hne
  rw [PrimaryKey.storageKey_injective he, hkey] at hr
  cases hr

theorem Tracks.within {m : StoredMetadata} {v : Vault} (h : Tracks m v) : Within m v := by
  intro text hne
  by_contra hnone
  have hforeign : ∃ key : PrimaryKey, key.storageKey = text := by
    by_contra hno
    exact hne (h.foreign text fun key he => hno ⟨key, he⟩)
  obtain ⟨key, rfl⟩ := hforeign
  cases hr : v.records.get? key with
  | none =>
    have hkey := h.agrees key
    unfold Agrees at hkey
    rw [hr] at hkey
    exact hne hkey
  | some r => exact hnone ⟨key, r, hr, rfl⟩

/-! ## 2. Fates -/

/-- What a fate asks for. -/
def Fate.asks (e : Entity) (f : Fate) : List MetadataWrite := (f.events e).flatMap Work.Event.asks

section Fates

variable {m m' : Merging} {v v' : Vault} {e : Entity} {f : Fate} {fs : List (Entity × Fate)}
  {stored : StoredMetadata}

/-- **One fate.** What it asks for suits the records behind it; keys it asks nothing for are as they
    were. -/
theorem Fated.suits (h : Fated m v e f v' m') (hv : v.Sound) (he : e.Honest) :
    (∀ w ∈ f.asks e, ∃ key, Suits v' key w) ∧
      ∀ key, (∃ w ∈ f.asks e, Suits v' key w) ∨
        (v'.records.get? key = v.records.get? key ∧ m'.isSettled key = m.isSettled key) := by
  cases h with
  | @overwrote k hmeet =>
    have hset : Suits (v.put k e.record) k (.set k.storageKey (.ofRemote e)) :=
      .set (r := e.record) (by simp) he.ofRemote
    refine ⟨fun w hw => ?_, fun key => ?_⟩
    · rw [List.mem_singleton.1 hw]
      exact ⟨k, hset⟩
    · by_cases hk : k = key
      · subst hk
        exact .inl ⟨_, List.mem_singleton_self _, hset⟩
      · refine .inr ⟨by simp [hk], ?_⟩
        simp [Merging.isSettled, Merging.countMatched, Ne.symm hk]
  | @replaced old k r hmeet hvictim hold hnext =>
    have hlt : old < k := Int64.lt_of_le_of_lt (hv old r hold) (PrimaryKey.lt_of_next? hnext)
    have hne : k ≠ old := fun h => Int64.lt_irrefl (h ▸ hlt)
    have hset : Suits ((v.drop old).insertNew k e.record) k (.set k.storageKey (.ofRemote e)) :=
      .set (r := e.record) (by simp) he.ofRemote
    have hclear : Suits ((v.drop old).insertNew k e.record) old (.clear old.storageKey) :=
      .clear (by simp [hne])
    have hasks : (Fate.added k (some (old, r))).asks e = [.clear old.storageKey,
      .set k.storageKey (.ofRemote e), .set k.storageKey (.ofRemote e)] := rfl
    rw [hasks]
    refine ⟨fun w hw => ?_, fun key => ?_⟩
    · rcases List.mem_cons.1 hw with rfl | hw
      · exact ⟨old, hclear⟩
      · refine ⟨k, ?_⟩
        have hw' : w = .set k.storageKey (.ofRemote e) := by simpa using hw
        rw [hw']
        exact hset
    · by_cases hold' : old = key
      · subst hold'
        exact .inl ⟨_, List.mem_cons_self, hclear⟩
      by_cases hk : k = key
      · subst hk
        exact .inl ⟨_, List.mem_cons_of_mem _ List.mem_cons_self, hset⟩
      · refine .inr ⟨by simp [hk, hold'], ?_⟩
        simp [Merging.isSettled, Merging.countMatched, Merging.note, Ne.symm hold']
  | @added k hmeet hvictim hnext =>
    have hset : Suits (v.insertNew k e.record) k (.set k.storageKey (.ofRemote e)) :=
      .set (r := e.record) (by simp) he.ofRemote
    have hasks : (Fate.added k none).asks e = [.set k.storageKey (.ofRemote e),
      .set k.storageKey (.ofRemote e)] := rfl
    rw [hasks]
    refine ⟨fun w hw => ⟨k, ?_⟩, fun key => ?_⟩
    · have hw' : w = .set k.storageKey (.ofRemote e) := by simpa using hw
      rw [hw']
      exact hset
    · by_cases hk : k = key
      · subst hk
        exact .inl ⟨_, List.mem_cons_self, hset⟩
      · exact .inr ⟨by simp [hk], rfl⟩

/-- The entries agree under the keys that a merge has met and those without a record at its start. -/
structure Meets (start : Vault) (m : Merging) (stored : StoredMetadata) (v : Vault) : Prop where
  agrees : ∀ key, start.records.get? key = none ∨ m.isSettled key = true → Agrees stored v key
  foreign : ∀ text, (∀ key : PrimaryKey, key.storageKey ≠ text) → stored.under text = []

theorem Fated.meets {start : Vault} (h : Fated m v e f v' m') (hv : v.Sound) (he : e.Honest)
    (hstored : stored.Complete) (hm : Meets start m stored v) :
    Meets start m' ((f.asks e).foldl StoredMetadata.apply stored) v' := by
  obtain ⟨hsuits, hkeys⟩ := h.suits hv he
  refine ⟨fun key hkey => agrees_of_suits hsuits hstored ?_, fun text htext => ?_⟩
  · rcases hkeys key with hasked | ⟨hget, hsettled⟩
    · exact .inr hasked
    · rw [hsettled] at hkey
      exact .inl ((hm.agrees key hkey).congr hget)
  · rw [under_of_suits (fun w hw => ⟨v', hsuits w hw⟩) htext]
    exact hm.foreign text htext

/-- **All fates.** -/
theorem Fates.meets {start : Vault} (h : Fates m v fs v' m') (hi : Indexed m v)
    (hhonest : ∀ x ∈ fs, x.1.Honest) (hstored : stored.Complete) (hm : Meets start m stored v) :
    Meets start m' (((Merge.eventsOf fs).flatMap Work.Event.asks).foldl StoredMetadata.apply stored)
      v' := by
  induction h generalizing stored with
  | nil => exact hm
  | @cons _ _ _ _ _ _ e f fs hf _ ih =>
    have hasks : (Merge.eventsOf ((e, f) :: fs)).flatMap Work.Event.asks =
        f.asks e ++ (Merge.eventsOf fs).flatMap Work.Event.asks := by
      rw [Merge.eventsOf, List.flatMap_cons, List.flatMap_append]
      rfl
    rw [hasks, List.foldl_append]
    have hmet := hf.meets hi.sound (hhonest _ List.mem_cons_self) hstored hm
    exact ih (hf.indexed hi) (fun x hx => hhonest x (List.mem_cons_of_mem _ hx))
      (StoredMetadata.complete_foldl hstored _) hmet

end Fates

/-! ## 3. Merges -/

theorem Tracks.setState {m : StoredMetadata} {v : Vault} (h : Tracks m v) (state : ModelState) :
    Tracks (m.apply (.setState state)) v where
  agrees key := by
    unfold Agrees
    rw [StoredMetadata.under_setState]
    exact h.agrees key
  foreign text htext := by
    rw [StoredMetadata.under_setState]
    exact h.foreign text htext

/-- At the start of a merge. -/
theorem Within.meets {stored : StoredMetadata} {v : Vault} (h : Within stored v) :
    Meets v (.ofRecords v.records) stored v where
  agrees key hkey := by
    obtain ⟨hmatched, hreplaced, -⟩ := Merging.ofRecords_start v.records
    have hunsettled : ¬ (Merging.ofRecords v.records).isSettled key = true := by
      rw [Merge.isSettled_iff, hmatched, hreplaced]
      simp
    have hnone := hkey.resolve_right hunsettled
    unfold Agrees
    rw [h.under_of_none hnone, hnone]
    rfl
  foreign text htext := by
    by_contra hne
    obtain ⟨key, -, -, he⟩ := h text hne
    exact htext key he

namespace Device

variable {d d' : Device Recorder} {remote : List RemoteChange} {summary : MergeSummary}
  {fs : List (Entity × Fate)} {m : Merging}

theorem Merged.honest (h : Merged d remote summary fs m d') (hhonest : RemoteChange.AllHonest remote) :
    ∀ x ∈ fs, x.1.Honest := by
  intro x hx
  have hmem : x.1 ∈ fs.map (·.1) := List.mem_map_of_mem hx
  rw [h.data] at hmem
  obtain ⟨c, hc, hdata⟩ := List.mem_filterMap.1 hmem
  exact hhonest c hc _ hdata

/-- The entries that the announcements of a merge ask for. -/
def putWrites (rs : List (PrimaryKey × Record)) : List MetadataWrite :=
  rs.map fun x => .set x.1.storageKey
    { tagHash := (Entity.ofRecord x.2).tagHash, sequenceNumber := 1 }

/-- What a merge has written. -/
theorem Merged.metadata (h : Merged d remote summary fs m d') (hloud : d.processor.Loud)
    (hpending : d.pending = {}) :
    d'.store.metadata = ((Merge.eventsOf fs).flatMap Work.Event.asks ++
      putWrites (Merge.unmet m d.store.vault.records.toList) ++
      [MetadataWrite.setState ({} : PendingMetadata).stateAfterMerge]).foldl StoredMetadata.apply
        d.store.metadata := by
  obtain ⟨asked, hheard, hmetadata⟩ := h.heard
  have hasked := congrArg Prod.snd hheard
  rw [(Work.Event.hear_of_loud hloud _ []).2, hpending, List.nil_append, List.flatMap_append,
    List.flatMap_append] at hasked
  have hputs : ((Merge.unmet m d.store.vault.records.toList).map
      fun x => Work.Event.call (Merge.putOf x)).flatMap Work.Event.asks =
        putWrites (Merge.unmet m d.store.vault.records.toList) := by
    rw [List.flatMap_map, putWrites, List.map_eq_flatMap]
    rfl
  rw [hputs] at hasked
  rw [hmetadata]
  exact congrArg (List.foldl StoredMetadata.apply d.store.metadata) hasked

/-- **After a merge the metadata tracks the records.** -/
theorem Merged.tracks (h : Merged d remote summary fs m d') (hloud : d.processor.Loud)
    (hsound : d.store.Sound) (hpending : d.pending = {})
    (hwithin : Within d.store.metadata d.store.vault) (hhonest : RemoteChange.AllHonest remote) :
    Tracks d'.store.metadata d'.store.vault := by
  have hmeets := h.fates.meets (.ofRecords hsound.vault) (h.honest hhonest)
    hsound.content.complete hwithin.meets
  have hsuits : ∀ w ∈ putWrites (Merge.unmet m d.store.vault.records.toList),
      ∃ key, Suits d'.store.vault key w := by
    intro w hw
    obtain ⟨⟨key, r⟩, hx, rfl⟩ := List.mem_map.1 hw
    obtain ⟨hmem, hunmet⟩ := List.mem_filter.1 hx
    exact ⟨key, .set (h.get?_of_unmet hsound.vault (SortedMap.mem_toList_iff.1 hmem)
      (by simpa using hunmet)) rfl⟩
  rw [h.metadata hloud hpending, List.foldl_append, List.foldl_append]
  refine Tracks.setState (Tracks.mk (fun key => ?_) fun text htext => ?_) _
  · refine agrees_of_suits hsuits (StoredMetadata.complete_foldl hsound.content.complete _) ?_
    cases hr : d.store.vault.records.get? key with
    | none => exact .inl (hmeets.agrees key (.inl hr))
    | some r =>
      cases hunmet : m.isSettled key with
      | true => exact .inl (hmeets.agrees key (.inr hunmet))
      | false =>
        have hx : (key, r) ∈ Merge.unmet m d.store.vault.records.toList :=
          List.mem_filter.2 ⟨SortedMap.mem_toList_iff.2 hr, by simp [hunmet]⟩
        exact .inr ⟨_, List.mem_map_of_mem hx, .set (h.get?_of_unmet hsound.vault hr hunmet) rfl⟩
  · rw [under_of_suits (fun w hw => ⟨_, hsuits w hw⟩) htext]
    exact hmeets.foreign text htext

end Device

end CredentialSync
