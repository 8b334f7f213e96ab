import CredentialSync.Proofs.Metadata.Layout
import CredentialSync.Proofs.Store.Able

/-!
# Ledgers

A `Ledger` is what both record stores have in common when nothing fails: a page with the records, the
keys given out and the metadata as a value, and the page at the beginning of the open transaction. Its
`Ledger.answer` says what each operation of a store returns and leaves.

* `Store.Shows` ties a store to the ledger that it stands for. A table holds metadata as a value, a
  database as bytes that are read as it (`StoredMetadata.Shows`).
* `Store.Shows.answer`: whatever a ledger grants, a store that shows it answers as the ledger does, and
  shows the ledger that is left.
-/

namespace CredentialSync

open Attempt

/-! ## 1. Requests and answers -/

/-- What can be asked of a store. -/
inductive Request where
  | edit (e : Edit)
  | record? (key : PrimaryKey)
  | find? (key : NaturalKey)
  | readAll
  | readMetadata
  | writeMetadata (w : MetadataWrite)
  | begin
  | commit
  | rollback

/-- What a store returns. -/
inductive Reply where
  | changes (cs : List LocalChange)
  | record (r : Option Record)
  | key (key : Option PrimaryKey)
  | records (rs : SortedMap PrimaryKey Record)
  | metadata (b : MetadataBatch)
  | done
  deriving DecidableEq

/-- The operation of a store that answers a request. -/
def Request.attempt : Request → Attempt Store Reply
  | .edit e => .changes <$> e.attempt
  | .record? key => .record <$> Store.record? key
  | .find? key => .key <$> Store.find? key
  | .readAll => .records <$> Store.readAll
  | .readMetadata => .metadata <$> Store.readMetadata
  | .writeMetadata w => (fun _ => .done) <$> Store.writeMetadata w
  | .begin => (fun _ => .done) <$> Store.begin
  | .commit => (fun _ => .done) <$> Store.commit
  | .rollback => (fun _ => .done) <$> Store.rollback

/-- What a transaction covers. -/
structure Page where
  vault : Vault := {}
  metadata : MetadataBatch := {}

/-- The records and the metadata of a store, now and at the beginning of the open transaction. -/
structure Ledger where
  page : Page := {}
  saved : Option Page := none

namespace Ledger

/-- What a request returns and leaves; `replacing` says whether an addition replaces the record with
    the same natural key. -/
def answer (replacing : Bool) (l : Ledger) : Request → Reply × Ledger
  | .edit e =>
    match l.page.vault.edit replacing e with
    | none => (.changes [], l)
    | some (cs, v) => (.changes cs, { l with page := { l.page with vault := v } })
  | .record? key => (.record (l.page.vault.records.get? key), l)
  | .find? key => (.key (l.page.vault.find? key), l)
  | .readAll => (.records l.page.vault.records, l)
  | .readMetadata => (.metadata l.page.metadata, l)
  | .writeMetadata w =>
    (.done, { l with page := { l.page with metadata := l.page.metadata.apply w } })
  | .begin => (.done, { l with saved := some l.page })
  | .commit => (.done, { l with saved := none })
  | .rollback => (.done, { page := l.saved.getD l.page, saved := none })

/-- The request makes sense: an addition finds a key, what is to be written can be written, a
    transaction begins where none is open, and an open one is committed. -/
def Grants (l : Ledger) : Request → Prop
  | .edit e => ∀ r, e = .add r → 0 < l.page.vault.lastKey.keysLeft
  | .writeMetadata w => w.Fits
  | .begin => l.saved = none
  | .commit => l.saved ≠ none
  | _ => True

end Ledger

/-! ## 2. Metadata that bytes show -/

/-- The model state that is stored; the first one where there is none. -/
def ModelState.ofStored : Option (List UInt8) → Except Blob.Fault ModelState
  | none => .ok {}
  | some bytes => ofBlob bytes

/-- The metadata is, or is read as, this batch. -/
def StoredMetadata.Shows : StoredMetadata → MetadataBatch → Prop
  | .values b', b => b' = b
  | .bytes entries state, b => ∃ es st, entries = some es ∧ state = some st ∧
      Database.readEntries {} es = .ok b.entities ∧ ModelState.ofStored st = .ok b.modelState

namespace Database

variable {m n : SortedMap StorageKey EntityMetadata} {es : List (StorageKey × List UInt8)}

theorem readEntries_append (h : readEntries m es = .ok n) (ds : List (StorageKey × List UInt8)) :
    readEntries m (es ++ ds) = readEntries n ds := by
  induction es generalizing m with
  | nil =>
    cases h
    rfl
  | cons e es ih =>
    obtain ⟨key, bytes⟩ := e
    simp only [readEntries, List.cons_append] at h ⊢
    cases hb : EntityMetadata.ofBlob bytes with
    | error fault =>
      rw [hb] at h
      cases h
    | ok metadata =>
      rw [hb] at h
      exact ih h

/-- Without the entries of a key, the map is read without the key. -/
theorem readEntries_filter (h : readEntries m es = .ok n) (key : StorageKey) :
    readEntries (m.erase key) (es.filter (·.1 != key)) = .ok (n.erase key) := by
  induction es generalizing m with
  | nil =>
    cases h
    rfl
  | cons e es ih =>
    obtain ⟨key', bytes⟩ := e
    rw [readEntries] at h
    cases hb : EntityMetadata.ofBlob bytes with
    | error fault =>
      rw [hb] at h
      cases h
    | ok metadata =>
      rw [hb] at h
      have hrest := ih h
      by_cases hk : key' = key
      · have hskip : (key' != key) = false := by simpa using hk
        have hsame : (m.insert key' metadata).erase key = m.erase key := by
          refine SortedMap.ext_get? fun k => ?_
          simp only [SortedMap.get?_erase, SortedMap.get?_insert, hk]
          split <;> rfl
        rw [List.filter_cons_of_neg (by simp [hskip]), ← hsame]
        exact hrest
      · have hkeep : (key' != key) = true := by simpa using hk
        have hsame : (m.insert key' metadata).erase key = (m.erase key).insert key' metadata := by
          refine SortedMap.ext_get? fun k => ?_
          simp only [SortedMap.get?_erase, SortedMap.get?_insert]
          by_cases hk' : key' = k
          · have hne : key ≠ k := fun he => hk (hk'.trans he.symm)
            simp [hk', hne]
          · simp [hk']
        rw [List.filter_cons_of_pos (by simp [hkeep]), readEntries, hb]
        show readEntries ((m.erase key).insert key' metadata) _ = _
        rw [← hsame]
        exact hrest

end Database

/-- **What is written is shown.** -/
theorem StoredMetadata.Shows.apply {m : StoredMetadata} {b : MetadataBatch} (h : m.Shows b)
    {w : MetadataWrite} (hw : w.Fits) : (m.apply w).Shows (b.apply w) := by
  cases m with
  | values b' =>
    have hb : b' = b := h
    exact congrArg (MetadataBatch.apply · w) hb
  | bytes entries state =>
    obtain ⟨es, st, rfl, rfl, hes, hst⟩ := h
    cases w with
    | setState s => exact ⟨es, some s.blob, rfl, rfl, hes, ModelState.ofBlob_blob hw⟩
    | clearState => exact ⟨es, none, rfl, rfl, hes, rfl⟩
    | set key metadata =>
      have hrest : Database.readEntries {} (es.filter (·.1 != key)) = .ok (b.entities.erase key) :=
        Database.readEntries_filter hes key
      refine ⟨Database.setEntry key metadata.blob es, st, rfl, rfl, ?_, hst⟩
      have hread : Database.readEntries (b.entities.erase key) [(key, metadata.blob)] =
          .ok ((b.entities.erase key).insert key metadata) := by
        rw [Database.readEntries, EntityMetadata.ofBlob_blob hw]
        rfl
      have hsame : (b.entities.erase key).insert key metadata = b.entities.insert key metadata := by
        refine SortedMap.ext_get? fun k => ?_
        simp only [SortedMap.get?_erase, SortedMap.get?_insert]
        split <;> rfl
      rw [Database.setEntry, Database.readEntries_append hrest, hread, hsame]
      rfl
    | clear key =>
      exact ⟨es.filter (·.1 != key), st, rfl, rfl, Database.readEntries_filter hes key, hst⟩

theorem StoredMetadata.Shows.complete {m : StoredMetadata} {b : MetadataBatch} (h : m.Shows b) :
    m.Complete := by
  cases m with
  | values b' => trivial
  | bytes entries state =>
    obtain ⟨es, st, rfl, rfl, -, -⟩ := h
    exact ⟨rfl, rfl⟩

namespace Database

/-- A blob that can be read. -/
theorem ok_of_unreadable {α : Type} {r : Except Blob.Fault α} {d d' : Database} {a : α}
    (h : (unreadable r).perform d = (.ok a, d')) : r = .ok a := by
  cases r with
  | error fault => cases h
  | ok _ =>
    cases h
    rfl

/-- Metadata that can be read is what the two tables show. -/
theorem shows_of_readMetadata {d d' : Database} {b : MetadataBatch}
    (h : readMetadata.perform d = (.ok b, d')) : (Store.database d).metadata.Shows b := by
  unfold readMetadata at h
  rw [bind_of_ok (perform_get d)] at h
  cases hstate : d.tables.modelState with
  | none =>
    simp only [hstate] at h
    cases h
  | some stored =>
    cases hentities : d.tables.entityMetadata with
    | none =>
      simp only [hstate, hentities] at h
      cases stored <;>
        · obtain ⟨_, _, -, hrest⟩ := ok_of_bind h
          cases hrest
    | some es =>
      simp only [hstate, hentities] at h
      have hread : ∃ state d₁, (unreadable (ModelState.ofStored stored)).perform d = (.ok state, d₁) ∧
          (unreadable (readEntries {} es) >>= fun entities =>
            (pure { modelState := state, entities } : Attempt Database MetadataBatch)).perform d₁ =
              (.ok b, d') := by
        cases stored <;> exact ok_of_bind h
      obtain ⟨state, d₁, hstored, hrest⟩ := hread
      obtain ⟨entities, d₂, hes, hdone⟩ := ok_of_bind hrest
      cases hdone
      exact ⟨es, stored, hentities, hstate, ok_of_unreadable hes, ok_of_unreadable hstored⟩

/-- What the two tables show can be read. -/
theorem readMetadata_of_shows {d : Database} {b : MetadataBatch}
    (h : (Store.database d).metadata.Shows b) : readMetadata.perform d = (.ok b, d) := by
  obtain ⟨es, st, hes, hst, hentries, hstate⟩ := h
  have hes : d.tables.entityMetadata = some es := hes
  have hst : d.tables.modelState = some st := hst
  unfold readMetadata
  rw [bind_of_ok (perform_get d)]
  simp only [hst, hes]
  cases st with
  | none =>
    have hinitial : b.modelState = {} := (Except.ok.inj hstate).symm
    simp [hentries, unreadable, ← hinitial]
  | some bytes =>
    have hstate : ModelState.ofBlob bytes = .ok b.modelState := hstate
    simp [hentries, hstate, unreadable]

end Database

/-- **Metadata that can be read is what the store shows.** -/
theorem Store.shows_of_readMetadata {s s' : Store} {b : MetadataBatch}
    (h : Store.readMetadata.perform s = (.ok b, s')) : s.metadata.Shows b := by
  rcases Store.either_cases h with ⟨t, t', rfl, -, ht⟩ | ⟨d, d', rfl, -, hd⟩
  · unfold Table.readMetadata at ht
    rw [perform_bind, perform_get] at ht
    cases hf : t.faults.metadataReads <;> simp [hf] at ht
    exact ht.1
  · exact Database.shows_of_readMetadata hd

/-! ## 3. Stores that show a ledger -/

/-- The contents stand for the page, and all records can be read. -/
structure Content.Shows (c : Content) (p : Page) : Prop where
  vault : c.vault = p.vault
  metadata : c.metadata.Shows p.metadata
  sound : c.vault.Sound
  legible : c.Legible

namespace Store

/-- The store stands for the ledger, and is not told to fail. -/
structure Shows (s : Store) (l : Ledger) : Prop where
  quiet : s.Quiet
  page : s.content.Shows l.page
  saved : Option.Rel Content.Shows s.saved l.saved

namespace Shows

variable {s : Store} {l : Ledger}

theorem able (h : s.Shows l) : s.Able :=
  ⟨h.quiet, ⟨h.page.sound, h.page.metadata.complete⟩, h.page.legible⟩

theorem vault_eq (h : s.Shows l) : s.vault = l.page.vault := h.page.vault

theorem saved_eq_none (h : s.Shows l) : s.saved = none ↔ l.saved = none := by
  have hrel := h.saved
  cases hs : s.saved <;> cases hl : l.saved <;> rw [hs, hl] at hrel <;> simp
  all_goals cases hrel

/-! ### One lemma per request -/

theorem readMetadata (h : s.Shows l) :
    Store.readMetadata.perform s = (.ok l.page.metadata, s) := by
  have hmetadata := h.page.metadata
  cases s with
  | table t =>
    have hf : t.faults = {} := h.quiet
    have hb : t.content.metadata = l.page.metadata := hmetadata
    simp [Store.readMetadata, either, Table.readMetadata, perform_bind, hf, hb]
  | database d => simp [Store.readMetadata, either, Database.readMetadata_of_shows hmetadata]

/-- An edit reports and leaves what the edit of the vault does. -/
theorem edit (h : s.Shows l) {e : Edit} {cs : List LocalChange} {v : Vault}
    (hedit : l.page.vault.edit s.replaces e = some (cs, v)) :
    ∃ s', e.attempt.perform s = (.ok cs, s') ∧ s'.replaces = s.replaces ∧
      s'.Shows { l with page := { l.page with vault := v } } := by
  rw [← h.vault_eq] at hedit
  obtain ⟨cs', s', hs, hlegible⟩ := h.able.edited (Option.isSome_iff_exists.2 ⟨_, hedit⟩)
  obtain ⟨hedited, hsteady⟩ := Store.edited hs
  cases hedited with
  | done hedit' hreport hsaved hmetadata =>
    rw [hedit] at hedit'
    obtain ⟨rfl, hv⟩ := Prod.mk.inj (Option.some.inj hedit')
    obtain rfl : cs' = cs := by simpa [h.quiet.reports] using hreport
    refine ⟨s', hs, hsteady.replaces, hsteady.quiet h.quiet, ⟨hv.symm, ?_, ?_, hlegible⟩, ?_⟩
    · show s'.metadata.Shows l.page.metadata
      rw [hmetadata]
      exact h.page.metadata
    · show s'.vault.Sound
      rw [← hv]
      exact (Vault.steps_of_edit hedit).sound h.able.sound.vault
    · rw [hsaved]
      exact h.saved

theorem writeMetadata (h : s.Shows l) {w : MetadataWrite} (hw : w.Fits) :
    ∃ s', (Store.writeMetadata w).perform s = (.ok (), s') ∧ s'.replaces = s.replaces ∧
      s'.Shows { l with page := { l.page with metadata := l.page.metadata.apply w } } := by
  obtain ⟨s', hs, hable⟩ := h.able.writeMetadata w
  obtain ⟨hwritten, hsaved, hsteady⟩ := written hs
  cases hwritten with
  | done hmetadata hvault =>
    refine ⟨s', hs, hsteady.replaces, hable.quiet, ⟨?_, ?_, hable.sound.vault, hable.legible⟩, ?_⟩
    · exact (show s'.content.vault = s.vault from hvault).trans h.vault_eq
    · show s'.metadata.Shows _
      rw [hmetadata]
      exact h.page.metadata.apply hw
    · rw [hsaved]
      exact h.saved

theorem begin (h : s.Shows l) (hclosed : l.saved = none) :
    ∃ s', Store.begin.perform s = (.ok (), s') ∧ s'.replaces = s.replaces ∧
      s'.Shows { l with saved := some l.page } := by
  obtain ⟨s', hs⟩ := begin_of_quiet h.quiet (h.saved_eq_none.2 hclosed)
  obtain ⟨-, hsaved, hcontent, hsteady⟩ := begin_ok hs
  refine ⟨s', hs, hsteady.replaces, hsteady.quiet h.quiet, hcontent ▸ h.page, ?_⟩
  rw [hsaved]
  exact .some h.page

theorem commit (h : s.Shows l) (hopen : l.saved ≠ none) :
    ∃ s', Store.commit.perform s = (.ok (), s') ∧ s'.replaces = s.replaces ∧
      s'.Shows { l with saved := none } := by
  obtain ⟨c, hc⟩ := Option.ne_none_iff_exists'.1 fun hnone => hopen (h.saved_eq_none.1 hnone)
  obtain ⟨s', hs⟩ := commit_of_quiet h.quiet hc
  obtain ⟨hcontent, hsaved, hsteady⟩ := commit_ok hs
  refine ⟨s', hs, hsteady.replaces, hsteady.quiet h.quiet, hcontent ▸ h.page, ?_⟩
  rw [hsaved]
  exact .none

theorem rollback (h : s.Shows l) :
    ∃ s', Store.rollback.perform s = (.ok (), s') ∧ s'.replaces = s.replaces ∧
      s'.Shows { page := l.saved.getD l.page, saved := none } := by
  obtain ⟨s', hs, hcontent, hsaved, hsteady⟩ := rollback_perform h.quiet.canRollBack
  refine ⟨s', hs, hsteady.replaces, hsteady.quiet h.quiet, ?_, ?_⟩
  · have hrel := h.saved
    rw [hcontent]
    cases hs : s.saved <;> cases hl : l.saved <;> rw [hs, hl] at hrel <;> cases hrel
    · exact h.page
    · next hsame => exact hsame
  · rw [hsaved]
    exact .none

/-- An edit that fails is undone with everything since the transaction began, whether or not it has ended
    the transaction. -/
theorem rollback_edit {p : Page} (h : s.Shows l) (hopen : l.saved = some p) {e : Edit} {s' : Store}
    {cause : SyncError} (hs : e.attempt.perform s = (.error cause, s')) :
    ∃ t, Store.rollback.perform s' = (.ok (), t) ∧ t.Shows { page := p } := by
  obtain ⟨c, hc, hshows⟩ : ∃ c, s.saved = some c ∧ c.Shows p := by
    have hrel := h.saved
    rw [hopen] at hrel
    cases hsaved : s.saved <;> rw [hsaved] at hrel <;> cases hrel
    next hshows => exact ⟨_, rfl, hshows⟩
  obtain ⟨hedited, hsteady⟩ := Store.edited hs
  have hback : s'.saved.getD s'.content = c := by
    cases hedited with
    | failed _ hsaved => rw [hsaved, hc]; rfl
    | lost _ _ hcontent hsaved => rw [hsaved, Option.getD_none, hcontent, hc]; rfl
  have hquiet := hsteady.quiet h.quiet
  obtain ⟨t, ht, hcontent, hsaved, hsteady'⟩ := rollback_perform hquiet.canRollBack
  refine ⟨t, ht, hsteady'.quiet hquiet, ?_, ?_⟩
  · rw [hcontent, hback]
    exact hshows
  · rw [hsaved]
    exact .none

/-- **A store answers what its ledger grants as the ledger does.** -/
theorem answer (h : s.Shows l) {q : Request} (hq : l.Grants q) :
    ∃ s', q.attempt.perform s = (.ok (l.answer s.replaces q).1, s') ∧ s'.replaces = s.replaces ∧
      s'.Shows (l.answer s.replaces q).2 := by
  cases q with
  | edit e =>
    have hgranted : (l.page.vault.edit s.replaces e).isSome = true := Vault.edit_isSome.2 hq
    obtain ⟨⟨cs, v⟩, hedit⟩ := Option.isSome_iff_exists.1 hgranted
    obtain ⟨s', hs, hreplaces, hshows⟩ := h.edit hedit
    refine ⟨s', ?_, hreplaces, ?_⟩
    · simp [Request.attempt, hs, Ledger.answer, hedit, Except.map]
    · simpa [Ledger.answer, hedit] using hshows
  | record? key =>
    have hread := h.able.record? key
    rw [h.vault_eq] at hread
    exact ⟨s, by simp [Request.attempt, hread, Ledger.answer, Except.map], rfl, h⟩
  | find? key =>
    have hread := h.able.find? key
    rw [h.vault_eq] at hread
    exact ⟨s, by simp [Request.attempt, hread, Ledger.answer, Except.map], rfl, h⟩
  | readAll =>
    have hread := h.able.readAll
    rw [h.vault_eq] at hread
    exact ⟨s, by simp [Request.attempt, hread, Ledger.answer, Except.map], rfl, h⟩
  | readMetadata =>
    exact ⟨s, by simp [Request.attempt, h.readMetadata, Ledger.answer, Except.map], rfl, h⟩
  | writeMetadata w =>
    obtain ⟨s', hs, hreplaces, hshows⟩ := h.writeMetadata hq
    exact ⟨s', by simp [Request.attempt, hs, Ledger.answer, Except.map], hreplaces, hshows⟩
  | begin =>
    obtain ⟨s', hs, hreplaces, hshows⟩ := h.begin hq
    exact ⟨s', by simp [Request.attempt, hs, Ledger.answer, Except.map], hreplaces, hshows⟩
  | commit =>
    obtain ⟨s', hs, hreplaces, hshows⟩ := h.commit hq
    exact ⟨s', by simp [Request.attempt, hs, Ledger.answer, Except.map], hreplaces, hshows⟩
  | rollback =>
    obtain ⟨s', hs, hreplaces, hshows⟩ := h.rollback
    exact ⟨s', by simp [Request.attempt, hs, Ledger.answer, Except.map], hreplaces, hshows⟩

end Shows

end Store

end CredentialSync
