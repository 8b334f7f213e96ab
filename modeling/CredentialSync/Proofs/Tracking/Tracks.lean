import CredentialSync.Proofs.Key
import CredentialSync.Proofs.Merge.Fate
import CredentialSync.Proofs.Tracking.Hash
import Mathlib.Data.List.Forall2

/-!
# Metadata that tracks the records

The metadata of a store tracks its records (`Tracks`) if each storage key of a resident record has
one entry, with the tag hash of the record, and no other storage key has one.

* A write to the metadata suits the records (`Suits`) if it makes an entry what the record under its
  key asks for.
* A write mirrors a reported change (`Mirrors`) if it sets the entry of a record that was added or
  overwritten, and clears that of one that was removed.

Metadata that tracks the records before some changes tracks those behind them once it was told all
changes in order; so does metadata that tracks those behind them already (`Lags.steps`).
-/

namespace CredentialSync

/-! ## 1. Entries -/

namespace StoredMetadata

/-- The tag hashes of the entries under a storage key. -/
def under : StoredMetadata → StorageKey → List (Option String)
  | .values b, key => ((b.entities.get? key).map fun m => some m.tagHash).toList
  | .bytes entries _, key =>
    ((entries.getD []).filter (·.1 == key)).map fun x => EntityMetadata.hash? x.2

variable {m : StoredMetadata} {key key' : StorageKey} {md : EntityMetadata}

/-- Dropping the entries of one key keeps those of another. -/
theorem filter_other (h : key ≠ key') (es : List (StorageKey × List UInt8)) :
    (es.filter (·.1 != key)).filter (·.1 == key') = es.filter (·.1 == key') := by
  rw [List.filter_filter]
  refine List.filter_congr fun x _ => ?_
  by_cases hx : x.1 = key' <;> simp [hx, Ne.symm h]

/-- Setting the metadata of a record leaves one entry, with its tag hash. -/
theorem under_set {tag : String} (hm : m.Complete) (htag : md.tagHash = tagHash tag) :
    (m.apply (.set key md)).under key = [some md.tagHash] := by
  cases m with
  | values b => simp [under, apply, MetadataBatch.apply]
  | bytes entries state =>
    obtain ⟨es, rfl⟩ := Option.isSome_iff_exists.1 hm.1
    simp [under, apply, Database.setEntry, EntityMetadata.hash?_blob htag]

theorem under_set_ne (h : key ≠ key') : (m.apply (.set key md)).under key' = m.under key' := by
  cases m with
  | values b => simp [under, apply, MetadataBatch.apply, h]
  | bytes entries state =>
    cases entries with
    | none => rfl
    | some es => simp [under, apply, Database.setEntry, List.filter_append, filter_other h, h]

theorem under_clear : (m.apply (.clear key)).under key = [] := by
  cases m with
  | values b => simp [under, apply, MetadataBatch.apply]
  | bytes entries state => cases entries <;> simp [under, apply]

theorem under_clear_ne (h : key ≠ key') : (m.apply (.clear key)).under key' = m.under key' := by
  cases m with
  | values b => simp [under, apply, MetadataBatch.apply, h]
  | bytes entries state =>
    cases entries with
    | none => rfl
    | some es => simp [under, apply, filter_other h]

@[simp] theorem under_setState (s : ModelState) : (m.apply (.setState s)).under key = m.under key := by
  cases m <;> rfl

theorem complete_foldl (hm : m.Complete) (ws : List MetadataWrite) :
    (ws.foldl apply m).Complete := by
  induction ws generalizing m with
  | nil => exact hm
  | cons w ws ih => exact ih (hm.apply w)

end StoredMetadata

/-! ## 2. Tracking -/

/-- The entries under a key are those that the record under it asks for. -/
def Agrees (m : StoredMetadata) (v : Vault) (key : PrimaryKey) : Prop :=
  m.under key.storageKey = ((v.records.get? key).map fun r => some r.specifics.tagHash).toList

/-- The metadata tracks the records. -/
structure Tracks (m : StoredMetadata) (v : Vault) : Prop where
  agrees : ∀ key, Agrees m v key
  /-- Texts that are no storage keys have no entry. -/
  foreign : ∀ text, (∀ key : PrimaryKey, key.storageKey ≠ text) → m.under text = []

theorem Agrees.congr {m : StoredMetadata} {v v' : Vault} {key : PrimaryKey} (h : Agrees m v key)
    (hget : v'.records.get? key = v.records.get? key) : Agrees m v' key := by
  unfold Agrees at h ⊢
  rw [h, hget]

/-! ## 3. Writes that suit the records -/

/-- The write brings the entry under a key to what the record under it asks for. -/
inductive Suits (v : Vault) : PrimaryKey → MetadataWrite → Prop where
  | set {key : PrimaryKey} {r : Record} {md : EntityMetadata} (hr : v.records.get? key = some r)
      (hmd : md.tagHash = r.specifics.tagHash) : Suits v key (.set key.storageKey md)
  | clear {key : PrimaryKey} (hr : v.records.get? key = none) : Suits v key (.clear key.storageKey)

section Suits

variable {m : StoredMetadata} {v : Vault} {key k : PrimaryKey} {w : MetadataWrite}
  {ws : List MetadataWrite}

/-- **One write that suits.** Behind it the entries under a key agree if they did before, or if the
    write is about the key. -/
theorem Suits.agrees (h : Suits v key w) (hm : m.Complete) (hkey : Agrees m v k ∨ key = k) :
    Agrees (m.apply w) v k := by
  unfold Agrees
  by_cases hk : key = k
  · subst hk
    cases h with
    | set hr hmd =>
      rw [StoredMetadata.under_set hm hmd, hr, hmd]
      rfl
    | clear hr =>
      rw [StoredMetadata.under_clear, hr]
      rfl
  · have hne : key.storageKey ≠ k.storageKey := fun he => hk (PrimaryKey.storageKey_injective he)
    cases h with
    | set =>
      rw [StoredMetadata.under_set_ne hne]
      exact hkey.resolve_right hk
    | clear =>
      rw [StoredMetadata.under_clear_ne hne]
      exact hkey.resolve_right hk

/-- Texts that are no storage keys are left alone. -/
theorem Suits.under {text : StorageKey} (h : Suits v key w)
    (htext : ∀ key : PrimaryKey, key.storageKey ≠ text) : (m.apply w).under text = m.under text := by
  cases h with
  | set => exact StoredMetadata.under_set_ne (htext key)
  | clear => exact StoredMetadata.under_clear_ne (htext key)

/-- **Writes that suit, one after another.** -/
theorem agrees_of_suits (hws : ∀ w ∈ ws, ∃ key, Suits v key w) (hm : m.Complete)
    (hkey : Agrees m v k ∨ ∃ w ∈ ws, Suits v k w) :
    Agrees (ws.foldl StoredMetadata.apply m) v k := by
  induction ws generalizing m with
  | nil => exact hkey.resolve_right fun ⟨_, hw, _⟩ => List.not_mem_nil hw
  | cons w ws ih =>
    rw [List.foldl_cons]
    obtain ⟨key, hw⟩ := hws w List.mem_cons_self
    refine ih (fun w' hw' => hws w' (List.mem_cons_of_mem _ hw')) (hm.apply w) ?_
    rcases hkey with hkey | ⟨w', hw', hsuits⟩
    · exact .inl (hw.agrees hm (.inl hkey))
    · rcases List.mem_cons.1 hw' with rfl | hw'
      · exact .inl (hsuits.agrees hm (.inr rfl))
      · exact .inr ⟨w', hw', hsuits⟩

theorem under_of_suits {text : StorageKey} (hws : ∀ w ∈ ws, ∃ v key, Suits v key w)
    (htext : ∀ key : PrimaryKey, key.storageKey ≠ text) :
    (ws.foldl StoredMetadata.apply m).under text = m.under text := by
  induction ws generalizing m with
  | nil => rfl
  | cons w ws ih =>
    obtain ⟨v, key, hw⟩ := hws w List.mem_cons_self
    rw [List.foldl_cons, ih fun w' hw' => hws w' (List.mem_cons_of_mem _ hw'), hw.under htext]

end Suits

/-! ## 4. Being told of changes -/

/-- The write tells the metadata of the change. -/
inductive Mirrors : LocalChange → MetadataWrite → Prop where
  | set {c : LocalChange} {md : EntityMetadata} (hkind : c.kind ≠ .remove)
      (hmd : md.tagHash = c.record.specifics.tagHash) : Mirrors c (.set c.storageKey md)
  | clear {c : LocalChange} (hkind : c.kind = .remove) : Mirrors c (.clear c.storageKey)

section Mirrors

variable {m : StoredMetadata} {v v' : Vault} {c : LocalChange} {w : MetadataWrite} {key : PrimaryKey}
  {cs : List LocalChange} {ws : List MetadataWrite}

theorem Vault.Step.get?_of_ne (h : Vault.Step v c v') (hne : c.key ≠ key) :
    v'.records.get? key = v.records.get? key := by
  cases h with
  | add | update | remove =>
    dsimp only at hne
    simp [hne]

/-- A write that tells of a change suits the records behind it. -/
theorem Mirrors.suits (hw : Mirrors c w) (h : Vault.Step v c v') : Suits v' c.key w := by
  cases h with
  | add k r | update k old r =>
    cases hw with
    | set _ hmd => exact .set (r := r) (by simp) hmd
    | clear hkind => cases hkind
  | remove k old hold =>
    cases hw with
    | set hkind => exact absurd rfl hkind
    | clear => exact .clear (by simp)

/-- **All changes, one after another.** Behind them the entries under a key agree if they did before,
    or if one of the changes is about the key. -/
theorem Vault.Steps.agrees (h : Vault.Steps v cs v') (hws : List.Forall₂ Mirrors cs ws)
    (hm : m.Complete) (hkey : Agrees m v key ∨ ∃ c ∈ cs, c.key = key) :
    Agrees (ws.foldl StoredMetadata.apply m) v' key := by
  induction h generalizing m ws with
  | nil =>
    cases hws
    exact hkey.resolve_right fun ⟨_, hc, _⟩ => List.not_mem_nil hc
  | @cons v v₁ _ c cs hc _ ih =>
    cases hws with
    | @cons _ w _ _ hw hws =>
      rw [List.foldl_cons]
      refine ih hws (hm.apply _) ?_
      by_cases hck : c.key = key
      · exact .inl ((hw.suits hc).agrees hm (.inr hck))
      rcases hkey with hkey | ⟨c', hc', rfl⟩
      · exact .inl ((hw.suits hc).agrees hm (.inl (hkey.congr (hc.get?_of_ne hck))))
      · rcases List.mem_cons.1 hc' with rfl | hc'
        · exact absurd rfl hck
        · exact .inr ⟨c', hc', rfl⟩

/-- Every write that tells of a change suits some records. -/
theorem Vault.Steps.suits (h : Vault.Steps v cs v') (hws : List.Forall₂ Mirrors cs ws) :
    ∀ w ∈ ws, ∃ v key, Suits v key w := by
  induction h generalizing ws with
  | nil =>
    cases hws
    exact fun _ hw => absurd hw List.not_mem_nil
  | cons hc _ ih =>
    cases hws with
    | cons hw hws =>
      intro w hmem
      rcases List.mem_cons.1 hmem with rfl | hmem
      · exact ⟨_, _, hw.suits hc⟩
      · exact ih hws w hmem

theorem Vault.Steps.get?_of_ne (h : Vault.Steps v cs v') (hne : ∀ c ∈ cs, c.key ≠ key) :
    v'.records.get? key = v.records.get? key := by
  induction h with
  | nil => rfl
  | @cons _ _ _ c cs hc _ ih =>
    rw [ih fun c' hc' => hne c' (List.mem_cons_of_mem _ hc')]
    exact hc.get?_of_ne (hne c List.mem_cons_self)

/-- Up to the keys of some changes, the metadata tracks the records. -/
structure Lags (m : StoredMetadata) (v : Vault) (cs : List LocalChange) : Prop where
  agrees : ∀ key, Agrees m v key ∨ ∃ c ∈ cs, c.key = key
  foreign : ∀ text, (∀ key : PrimaryKey, key.storageKey ≠ text) → m.under text = []

theorem Tracks.lags (h : Tracks m v) (cs : List LocalChange) : Lags m v cs :=
  ⟨fun key => .inl (h.agrees key), h.foreign⟩

/-- Metadata that tracks the records behind some changes can be told of them again. -/
theorem Tracks.lags_of_steps (h : Tracks m v') (hs : Vault.Steps v cs v') : Lags m v cs where
  agrees key := by
    by_cases hkey : ∃ c ∈ cs, c.key = key
    · exact .inr hkey
    · have hget := hs.get?_of_ne fun c hc he => hkey ⟨c, hc, he⟩
      exact .inl ((h.agrees key).congr hget.symm)
  foreign := h.foreign

/-- **Metadata that is told all changes catches up.** -/
theorem Lags.steps (h : Lags m v cs) (hs : Vault.Steps v cs v') (hws : List.Forall₂ Mirrors cs ws)
    (hm : m.Complete) : Tracks (ws.foldl StoredMetadata.apply m) v' where
  agrees key := hs.agrees hws hm (h.agrees key)
  foreign text htext := by
    rw [under_of_suits (hs.suits hws) htext]
    exact h.foreign text htext

/-- Overwriting a record in place changes nothing that is tracked. -/
theorem Tracks.put {old r : Record} (h : Tracks m v) (hold : v.records.get? key = some old)
    (hn : old.naturalKey = r.naturalKey) : Tracks m (v.put key r) where
  agrees k := by
    unfold Agrees
    rw [h.agrees k, Vault.records_put, SortedMap.get?_insert]
    by_cases hk : key = k
    · subst hk
      have htag : old.specifics.tagHash = r.specifics.tagHash := by
        rw [Specifics.tagHash, Specifics.tagHash, Record.tag_eq hn]
      rw [if_pos rfl, hold, Option.map_some, Option.map_some, htag]
    · rw [if_neg hk]
  foreign := h.foreign

end Mirrors

/-! ## 5. Changes that the metadata is not told of -/

section Untold

variable {m : StoredMetadata} {v v' : Vault} {cs : List LocalChange} {key : PrimaryKey} {r r' : Record}

/-- A key that was given out and has no record never gets one again. -/
theorem Vault.Steps.gone (h : Vault.Steps v cs v') (hle : key ≤ v.lastKey)
    (hnone : v.records.get? key = none) : v'.records.get? key = none := by
  induction h with
  | nil => exact hnone
  | @cons v v₁ _ c cs hc _ ih =>
    refine ih (Int64.le_trans hle hc.lastKey_le) ?_
    by_cases hck : c.key = key
    · subst hck
      cases hc with
      | add k r hlt => exact absurd (Int64.lt_of_lt_of_le hlt hle) Int64.lt_irrefl
      | update k old r hold | remove k old hold =>
        rw [hold] at hnone
        cases hnone
    · rw [hc.get?_of_ne hck]
      exact hnone

/-- A record that stays keeps its client tag. -/
theorem Vault.Steps.tag_of_resident (h : Vault.Steps v cs v') (hle : key ≤ v.lastKey)
    (hr : v.records.get? key = some r) (hr' : v'.records.get? key = some r') :
    r'.specifics.tag = r.specifics.tag := by
  induction h generalizing r with
  | nil =>
    rw [hr] at hr'
    cases hr'
    rfl
  | @cons v v₁ _ c cs hc hs ih =>
    have hle' := Int64.le_trans hle hc.lastKey_le
    by_cases hck : c.key = key
    · subst hck
      cases hc with
      | add k r hlt => exact absurd (Int64.lt_of_lt_of_le hlt hle) Int64.lt_irrefl
      | update k old new hold hn =>
        rw [hold] at hr
        cases hr
        rw [ih hle' (r := new) (by simp) hr']
        exact (Record.tag_eq hn).symm
      | remove k old hold =>
        rw [hs.gone hle' (by simp)] at hr'
        cases hr'
    · exact ih hle' ((hc.get?_of_ne hck).trans hr) hr'

/-- **Metadata that is not told of changes goes on tracking exactly if the resident keys stay.** -/
theorem Tracks.untold_iff (h : Tracks m v) (hs : Vault.Steps v cs v') (hv : v.Sound) :
    Tracks m v' ↔ ∀ key, (v'.records.get? key).isSome = (v.records.get? key).isSome := by
  refine ⟨fun h' key => ?_, fun hkeys => ⟨fun key => ?_, h.foreign⟩⟩
  · have hagree := (h'.agrees key).symm.trans (h.agrees key)
    cases hr : v.records.get? key <;> cases hr' : v'.records.get? key <;> simp [hr, hr'] at hagree ⊢
  · unfold Agrees
    rw [h.agrees key]
    have hkey := hkeys key
    cases hr : v.records.get? key with
    | none =>
      rw [hr] at hkey
      rw [Option.isSome_eq_false_iff.1 hkey |> Option.isNone_iff_eq_none.1]
    | some r =>
      rw [hr] at hkey
      obtain ⟨r', hr'⟩ := Option.isSome_iff_exists.1 hkey
      rw [hr', Option.map_some, Option.map_some, Specifics.tagHash, Specifics.tagHash,
        hs.tag_of_resident (hv key r hr) hr hr']

end Untold

end CredentialSync
