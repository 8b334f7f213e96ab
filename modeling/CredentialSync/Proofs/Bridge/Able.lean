import CredentialSync.Proofs.Bridge.Calls
import CredentialSync.Proofs.Store.Able

/-!
# Calls that fail for want of keys only

On an able store (`Store.Able`) the steps of a batch keep the scope able (`Work.Made.able`), and only
an edit can fail. A device is `Device.Able` if its store is, and no transaction is open; then a batch
is committed exactly if its work succeeds in the transaction that has begun
(`Device.Able.batch_succeeds_iff`), and so are a merge and an application.
-/

namespace CredentialSync

open Attempt

variable {π : Type} {α : Type}

/-! ## 1. Scopes -/

/-- The store is able, and no write to the metadata has failed. -/
structure Scope.Able (s : Scope π) : Prop where
  store : s.store.Able
  written : s.writeFault = none

namespace Work

variable {s t : Scope π}

/-- An able store writes all metadata. -/
theorem able_writeOne (h : s.Able) (w : MetadataWrite) : (writeOne s w).Able := by
  obtain ⟨t', hok, hable⟩ := h.store.writeMetadata w
  rcases writeOne_cases s w with ⟨e, hfault, -⟩ | ⟨hfault, t, hw, heq⟩ | ⟨e, t, hw, -⟩
  · rw [h.written] at hfault
    cases hfault
  · rw [heq]
    obtain rfl : t' = t := (Prod.mk.inj (hok.symm.trans hw)).2
    exact ⟨hable, hfault⟩
  · rw [hok] at hw
    cases hw

theorem able_writes (h : s.Able) (ws : List MetadataWrite) : (ws.foldl writeOne s).Able := by
  induction ws generalizing s with
  | nil => exact h
  | cons w ws ih => exact ih (able_writeOne h w)

/-- An edit succeeds exactly if the edit of the vault has a result. -/
theorem succeeds_change (h : s.Able) {e : Edit} :
    (change e.attempt).Succeeds s ↔ (s.store.vault.edit s.store.replaces e).isSome = true := by
  rw [← h.store.edit_iff]
  constructor
  · intro hchange
    obtain ⟨cs, t, hon, -⟩ := succeeds_bind.1 hchange
    rw [onStore, perform_within] at hon
    exact ⟨cs, _, Prod.ext (Prod.mk.inj hon).1 rfl⟩
  · rintro ⟨cs, u, hu⟩
    refine succeeds_bind.2 ⟨cs, { s with store := u }, ?_, _, _, rfl⟩
    rw [onStore, perform_within, hu]

/-- Nothing is left to be settled. -/
theorem perform_settle (h : s.Able) : settle.perform s = (.ok (), s) := by
  unfold settle
  rw [bind_of_ok (perform_get s), h.written]
  rfl

variable [Processor π]

/-- **Work that succeeds leaves the scope able.** -/
theorem Made.able {w : Work π α} (hw : Made w) (h : s.Able) {a : α}
    (hok : w.perform s = (.ok a, t)) : t.Able := by
  induction hw generalizing s t with
  | reads hreads =>
    obtain rfl := hreads.state hok
    exact h
  | change e =>
    unfold Work.change at hok
    obtain ⟨cs, u, hon, hrest⟩ := ok_of_bind hok
    cases hrest
    rw [onStore, perform_within] at hon
    rcases hres : e.attempt.perform s.store with ⟨res, u'⟩
    rw [hres] at hon
    cases hon
    exact ⟨h.store.edit hres, h.written⟩
  | write ws =>
    cases hok
    exact able_writes h ws
  | writePending =>
    rw [perform_writePending] at hok
    cases hok
    exact able_writes (s := { s with pending := {} }) ⟨h.store, h.written⟩ _
  | tell c =>
    rw [perform_tell] at hok
    cases hok
    exact able_writes (s := { s with processor := (c.deliver s.processor).2 })
      ⟨h.store, h.written⟩ _
  | bind _ _ ihw ihf =>
    obtain ⟨x, u, hfirst, hrest⟩ := ok_of_bind hok
    exact ihf x (ihw h hfirst) hrest

/-- Work behind work that succeeds. -/
theorem Direct.able {w : Work π α} (hw : Direct w) (h : s.Able) {a : α}
    (hok : w.perform s = (.ok a, t)) : t.Able :=
  hw.made.able h hok

end Work

/-! ## 2. Devices -/

namespace Device

variable {d d' : Device π}

/-- The store is able, and no transaction is open. -/
structure Able (d : Device π) : Prop where
  store : d.store.Able
  closed : d.store.saved = none

/-- The transaction has begun, and nothing else has happened. -/
theorem Able.begun (h : d.Able) :
    d.begun.scope.Able ∧ Store.begin.perform d.store = (.ok (), d.begun.store) ∧
      d.begun.store.saved = some d.store.content ∧ d.begun.store.vault = d.store.vault ∧
      d.begun.store.replaces = d.store.replaces := by
  obtain ⟨s, hs, hable⟩ := h.store.begin h.closed
  obtain ⟨-, hsaved, hcontent, hsteady⟩ := Store.begin_ok hs
  rw [begun_of_ok hs]
  exact ⟨⟨hable, rfl⟩, hs, hsaved, Store.vault_congr hcontent, hsteady.replaces⟩

variable [Processor π]

/-- **A batch of work of the remote side is committed exactly if the work succeeds.** -/
theorem Able.batch_succeeds_iff (h : d.Able) {w : Work π α} (hw : w.Made) :
    (∃ a, (d.batch .bridge .remote (body w)).1.result = .ok a) ↔ w.Succeeds d.begun.scope := by
  obtain ⟨hable, hbegin, hsaved, -⟩ := h.begun
  have hbatched := batched .bridge .remote (body w) d
  constructor
  · rintro ⟨a, ha⟩
    rcases hbatched.result_cases with ⟨e, he, -⟩ | ⟨b, cs, -, hcommitted⟩
    · rw [ha] at he
      cases he
    · rw [hcommitted] at hbatched
      obtain ⟨b, s, -, hres, -⟩ := hbatched.committed_work
      exact ⟨b, s, hres⟩
  · rintro ⟨a, s, hres⟩
    have hopen : s.store.saved = some d.store.content := by
      have hleft := hw.orderly d.begun.scope
      rw [hres] at hleft
      rcases hleft.transaction _ hsaved with ht | ⟨⟨e, he⟩, -⟩
      · exact ht
      · cases he
    obtain ⟨t, hcommit⟩ := Store.commit_of_quiet (hw.able hable hres).store.quiet hopen
    have hbody : body w d.begun = (⟨.ok a, s.changes, none⟩, d.begun.putScope s) := by
      rw [body, hres]
    refine ⟨a, ?_⟩
    generalize (d.batch .bridge .remote (body w)).1 = o at hbatched
    generalize (d.batch .bridge .remote (body w)).2 = d' at hbatched
    cases hbatched with
    | refused hrefused =>
      rw [hbegin] at hrefused
      cases hrefused
    | abandoned hbegin' hfail =>
      rw [← begun_of_ok hbegin', hbody] at hfail
      rcases hfail with hnone | ⟨-, hcommit'⟩
      · cases hnone
      · rw [show Store.commit.perform (d.begun.putScope s).store = _ from hcommit] at hcommit'
        cases hcommit'
    | committed hbegin' =>
      rw [← begun_of_ok hbegin', hbody]
      rfl

/-- A committed batch leaves the device able. -/
theorem Able.committed (h : d.Able) {w : Work π α} (hw : w.Made) {v : Except SyncError α}
    {cs : List LocalChange}
    (hbatched : Batched .bridge .remote (body w) d (.committed v cs) d') : d'.Able := by
  obtain ⟨a, s, -, hres, -, -, -, hcontent, hsaved, hsteady, -⟩ := hbatched.committed_work
  exact ⟨(hw.able h.begun.1 hres).store.of_content hsteady hcontent, hsaved⟩

/-! ## 3. Calls -/

variable {remote : List RemoteChange}

/-- A call succeeds with the result of its batch. -/
theorem Able.merge_iff (h : d.Able) :
    (merge remote).Succeeds d ↔ (Merge.work remote).Succeeds d.begun.scope := by
  rw [← h.batch_succeeds_iff (Work.made_merge remote), Succeeds, merge_perform]
  cases (d.batch .bridge .remote (body (Merge.work remote))).1.result <;> simp

theorem Able.apply_iff (h : d.Able) :
    (apply remote).Succeeds d ↔ (Apply.work remote).Succeeds d.begun.scope := by
  rw [← h.batch_succeeds_iff (Work.made_apply remote), Succeeds, apply_perform]
  cases (d.batch .bridge .remote (body (Apply.work remote))).1.result <;> simp

/-- **A merge that succeeds leaves the device able.** -/
theorem Able.merge (h : d.Able) {summary : MergeSummary}
    (hok : (Device.merge remote).perform d = (.ok summary, d')) : d'.Able := by
  have hresult := merge_result remote d
  have hsame := sameWork_merge remote d
  rw [hok] at hresult hsame
  have hbatched := batched .bridge .remote (body (Merge.work remote)) d
  rcases hbatched.result_cases with ⟨e, he, -⟩ | ⟨a, cs, -, hcommitted⟩
  · rw [he] at hresult
    cases hresult
  · rw [hcommitted] at hbatched
    have hable := h.committed (Work.made_merge remote) hbatched
    have hstore : d'.store = _ := hsame.store
    refine ⟨?_, ?_⟩ <;> rw [hstore]
    · exact hable.store
    · exact hable.closed

end Device

end CredentialSync
