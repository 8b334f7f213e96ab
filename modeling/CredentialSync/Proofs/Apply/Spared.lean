import CredentialSync.Proofs.Apply.Revisions
import CredentialSync.Proofs.Exchange.Convergence

/-!
# When updates of different records succeed

Revisions that fit together are carried out by an able database exactly if all named keys are positive,
there is a key for each record that has to move, and no revision takes the natural key of a record that
a later one still names (`Device.Able.revisions_succeed_iff`). So it depends on the order whether they
are carried out; what comes of them does not (`Device.Able.apply_revisions`).
-/

namespace CredentialSync

open Attempt Work

namespace Apply

variable {π : Type} [Processor π] {s : Scope π} {u : Revision} {us : List Revision} {old : Record}

omit [Processor π] in
/-- A positive key with a record is found under its storage key. -/
theorem perform_residentKey (h : s.Able) (hpos : 0 < u.key)
    (hold : s.store.vault.records.get? u.key = some old) :
    (residentKey u.change.storageKey).perform s = (.ok u.key, s) := by
  have hkey : StorageKey.primaryKey u.change.storageKey = .ok u.key := by
    unfold StorageKey.primaryKey
    rw [show StorageKey.primaryKey? u.change.storageKey = some u.key from
      PrimaryKey.primaryKey?_storageKey.2 hpos]
  have hread : (onStore (Store.record? u.key) : Work π _).perform s = (.ok (some old), s) := by
    rw [onStore, perform_within, h.store.record?, hold]
  unfold residentKey
  rw [bind_of_ok ((perform_ofExcept _ s).trans (by rw [hkey])), bind_of_ok hread]
  rfl

/-- **A record is overwritten, or moved if a key is left.** -/
theorem updateEntity_succeeds (h : s.Able) (hold : s.store.vault.records.get? u.key = some old)
    (hkeys : s.store.vault.moves u = true → 0 < s.store.vault.lastKey.keysLeft) :
    (updateEntity u.key u.entity).Succeeds s := by
  obtain ⟨cs, t, hupdate⟩ := (succeeds_change h (e := .updateAt u.key u.record)).2 rfl
  have hable := (Made.change (.updateAt u.key u.record)).able h hupdate
  unfold updateEntity
  rw [succeeds_bind_of_ok (a := Work.updateAt u.key u.entity.record) hupdate]
  obtain ⟨-, ⟨-, rfl, -⟩ | ⟨hholds, rfl, hvault⟩⟩ := Merge.updateAt_ok hupdate
  · exact succeeds_pure _ _
  · -- The natural key has changed: nothing was updated, so the record is removed and added anew.
    obtain ⟨ds, x, hremove⟩ := (succeeds_change hable (e := .remove u.key)).2 rfl
    have hx := (Made.change (.remove u.key)).able hable hremove
    obtain ⟨-, hdrop⟩ := Merge.remove_ok (hvault ▸ hold) hremove
    obtain ⟨-, hsame⟩ := did_writes [.clear u.key.storageKey] x
    have hlast : ([MetadataWrite.clear u.key.storageKey].foldl writeOne x).store.vault.lastKey =
        s.store.vault.lastKey := by
      rw [hsame, hdrop, hvault]
      rfl
    have hmoves : s.store.vault.moves u = true := by
      rw [Vault.moves, hholds]
      rfl
    have hadd : (addEntity u.entity).Succeeds
        ([MetadataWrite.clear u.key.storageKey].foldl writeOne x) := by
      rw [addEntity_succeeds_iff (able_writes hx _), hlast]
      exact hkeys hmoves
    simp only [List.isEmpty_nil, if_true]
    rw [succeeds_bind_of_ok (a := Work.remove u.key) hremove,
      succeeds_bind_of_ok (a := Work.write _) rfl]
    exact (succeeds_bind_of_forall fun _ _ => succeeds_pure _ _).2 hadd

/-- **A revision of a resident record with a positive key is carried out**, if a key is left for a
    record that has to move. -/
theorem applyChange_succeeds (h : s.Able) (hpos : 0 < u.key)
    (hold : s.store.vault.records.get? u.key = some old)
    (hkeys : s.store.vault.moves u = true → 0 < s.store.vault.lastKey.keysLeft) :
    (applyChange u.change).Succeeds s := by
  have hdata : (requireData u.change : Work π Entity).perform s = (.ok u.entity, s) := rfl
  unfold applyChange
  show (residentKey u.change.storageKey >>= fun key =>
    requireData u.change >>= fun e => updateEntity key e).Succeeds s
  rw [succeeds_bind_of_ok (perform_residentKey h hpos hold), succeeds_bind_of_ok hdata]
  exact updateEntity_succeeds h hold hkeys

/-- **Revisions that fit together and are spared are carried out**, if a key is left for each record
    that has to move. -/
theorem applyChanges_succeeds (h : s.Able) (hunique : s.store.vault.Unique)
    (hfit : s.store.vault.FitTogether us) (hpos : ∀ u ∈ us, 0 < u.key)
    (hspares : s.store.vault.Spares us)
    (hkeys : us.countP s.store.vault.moves ≤ s.store.vault.lastKey.keysLeft)
    (summary : ApplySummary) : (applyChanges summary (us.map Revision.change)).Succeeds s := by
  induction us generalizing s summary with
  | nil => exact succeeds_pure _ _
  | cons u us ih =>
    obtain ⟨hlater, hspares⟩ := List.pairwise_cons.1 hspares
    obtain ⟨old, hold⟩ := hfit.resident u List.mem_cons_self
    obtain ⟨_, t, hchange⟩ := applyChange_succeeds h (hpos u List.mem_cons_self) hold
      fun hmoves => by
        rw [List.countP_cons, hmoves, if_pos rfl] at hkeys
        exact Nat.lt_of_lt_of_le (Nat.succ_pos _) hkeys
    obtain ⟨cs, es, happlied, -⟩ := applyChange_ok h.store.quiet hchange
    have hsound := h.store.sound.vault
    obtain ⟨hfirst, hunique', hleft⟩ :=
      happlied.revised hsound hunique fun key r hr hkey => hfit.spared hlater hr hkey
    rw [List.map_cons, applyChanges, succeeds_bind_of_ok hchange]
    refine ih ((direct_applyChange _).able h hchange) hunique' (hfit.tail hfirst)
      (fun w hw => hpos w (List.mem_cons_of_mem _ hw)) ((hfit.spares_tail hfirst).2 hspares) ?_ _
    rw [hfit.countP_tail hfirst]
    rw [List.countP_cons, hleft] at hkeys
    exact Nat.le_of_add_le_add_right hkeys

end Apply

namespace Device

variable {π : Type} [Processor π] {d : Device π} {us ws : List Revision}

/-- **Revisions that fit together succeed** exactly if the named keys are positive, the order spares the
    named records, and there is a key for each record that has to move. -/
theorem Able.revisions_succeed_iff (h : d.Able) (hdatabase : d.store.replaces = true)
    (hunique : d.store.vault.Unique) (hfit : d.store.vault.FitTogether us) :
    (apply (us.map Revision.change)).Succeeds d ↔
      (∀ u ∈ us, 0 < u.key) ∧ d.store.vault.Spares us ∧
        us.countP d.store.vault.moves ≤ d.store.vault.lastKey.keysLeft := by
  obtain ⟨hable, -, -, hvault, hreplaces⟩ := h.begun
  have hvault : d.begun.scope.store.vault = d.store.vault := hvault
  have hreplaces : d.begun.scope.store.replaces = true := hreplaces.trans hdatabase
  rw [h.apply_iff_changes]
  constructor
  · rintro ⟨summary, s, hall⟩
    obtain ⟨cs, es, happlied, -, -⟩ := Apply.applyChanges_ok hable.store.quiet hall
    rw [hvault, hreplaces] at happlied
    obtain ⟨hpos, hspares, hkeys, -⟩ := happlied.revised h.store.sound.vault hunique hfit
    exact ⟨hpos, hspares, hkeys⟩
  · rintro ⟨hpos, hspares, hkeys⟩
    rw [← hvault] at hunique hfit hspares hkeys
    exact Apply.applyChanges_succeeds hable hunique hfit hpos hspares hkeys _

/-- Revisions that fit together and succeed replace the named records and nothing else. -/
theorem Able.revised (h : d.Able) (hdatabase : d.store.replaces = true)
    (hunique : d.store.vault.Unique) (hfit : d.store.vault.FitTogether us) {summary : ApplySummary}
    {d' : Device π} (hok : (apply (us.map Revision.change)).perform d = (.ok summary, d')) :
    d.store.vault.Revised us d'.store.vault := by
  obtain ⟨cs, es, htaken⟩ := apply_ok h.store.quiet hok
  have happlied := htaken.applied
  rw [hdatabase] at happlied
  exact (happlied.revised h.store.sound.vault hunique hfit).2.2.2

/-- **Revisions that fit together, in any order.** An order succeeds exactly if the named keys are
    positive, there is a key for each record that has to move, and the order spares the named records.
    Every order that succeeds replaces the named records and nothing else. -/
theorem Able.apply_revisions (h : d.Able) (hdatabase : d.store.replaces = true)
    (hunique : d.store.vault.Unique) (hfit : d.store.vault.FitTogether us) (horder : ws.Perm us) :
    ((apply (ws.map Revision.change)).Succeeds d ↔
      (∀ u ∈ us, 0 < u.key) ∧ us.countP d.store.vault.moves ≤ d.store.vault.lastKey.keysLeft ∧
        d.store.vault.Spares ws) ∧
    ∀ summary d', (apply (ws.map Revision.change)).perform d = (.ok summary, d') →
      d.store.vault.Revised us d'.store.vault := by
  have hfit' := hfit.perm horder
  refine ⟨?_, fun summary d' hok => (h.revised hdatabase hunique hfit' hok).perm horder⟩
  rw [h.revisions_succeed_iff hdatabase hunique hfit', horder.countP_eq]
  constructor
  · rintro ⟨hpos, hspares, hkeys⟩
    exact ⟨fun u hu => hpos u (horder.mem_iff.2 hu), hkeys, hspares⟩
  · rintro ⟨hpos, hkeys, hspares⟩
    exact ⟨fun u hu => hpos u (horder.mem_iff.1 hu), hspares, hkeys⟩

/-! ## Two orders -/

/-- Three records. The first one is to take the natural key of the second one, and that one a natural
    key that no record has. -/
def handover : Device Recorder × List Revision :=
  (holding [(1, .sample "a"), (2, .sample "b"), (3, .sample "c")],
    [⟨1, .ofRecord (.sample "b")⟩, ⟨2, .ofRecord (.sample "d")⟩])

theorem handover_unique : handover.1.store.vault.Unique :=
  SortedMap.nodup_map_iff.1 (by decide +kernel)

/-- The revisions of the handover fit together. -/
theorem handover_fits : handover.1.store.vault.FitTogether handover.2 where
  resident := by
    have hall : ∀ u ∈ handover.2, (handover.1.store.vault.records.get? u.key).isSome = true := by
      decide +kernel
    exact fun u hu => Option.isSome_iff_exists.1 (hall u hu)
  keys := by decide +kernel
  names := by decide +kernel
  apart := by
    have hall : ∀ x ∈ handover.1.store.vault.records.toList, x.1 ∉ handover.2.map Revision.key →
        ∀ u ∈ handover.2, x.2.naturalKey ≠ u.name := by decide +kernel
    exact fun key r hr => hall (key, r) (SortedMap.mem_toList_iff.2 hr)

/-- The second record first: both are carried out. -/
theorem apply_revisions_handover :
    handover.1.Able ∧ handover.1.store.replaces = true ∧ handover.1.store.vault.Unique ∧
      handover.1.store.vault.FitTogether handover.2 ∧ handover.2.reverse.Perm handover.2 ∧
      ∃ summary d', (apply (handover.2.reverse.map Revision.change)).perform handover.1 =
          (.ok summary, d') ∧ handover.1.store.vault.Revised handover.2 d'.store.vault := by
  have hable : handover.1.Able := able_holding _
  have horder : handover.2.reverse.Perm handover.2 := List.reverse_perm _
  obtain ⟨hsucceeds, hrevised⟩ :=
    hable.apply_revisions rfl handover_unique handover_fits horder
  have hspares : handover.1.store.vault.Spares handover.2.reverse := by
    refine List.pairwise_pair.2 fun r hr => ?_
    cases hr
    decide
  obtain ⟨summary, d', hok⟩ := hsucceeds.2 ⟨by decide +kernel, by decide +kernel, hspares⟩
  exact ⟨hable, rfl, handover_unique, handover_fits, horder, summary, d', hok,
    hrevised summary d' hok⟩

/-- The first record first: it removes the second one, which then cannot be found. -/
theorem handover_out_of_order :
    handover.1.Able ∧ handover.1.store.replaces = true ∧ handover.1.store.vault.Unique ∧
      handover.1.store.vault.FitTogether handover.2 ∧
      ((apply (handover.2.map Revision.change)).perform handover.1).1 = .error (.notFound "2") :=
  ⟨able_holding _, rfl, handover_unique, handover_fits, by decide +kernel⟩

end Device

end CredentialSync
