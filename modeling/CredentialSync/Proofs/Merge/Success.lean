import CredentialSync.Proofs.Bridge.Able
import CredentialSync.Proofs.Bridge.Collected
import CredentialSync.Proofs.Merge.Merged
import CredentialSync.Proofs.Merge.Natural
import CredentialSync.Proofs.Store.Rows

/-!
# When a merge succeeds

On an able device a merge fails for want of keys only. An entity needs a key exactly if no record has
its natural key (`mergeEntity_succeeds_iff`), and what an entity does to the records with its client tag
does not matter to an entity with another one. So, if all client tags differ, the entities without a
record at the start must not be more than the keys that are left (`mergeEntities_succeeds_iff`,
`Device.Able.merge_succeeds_iff`).
-/

namespace CredentialSync

open Attempt Work

namespace Merge

variable {π : Type} {α : Type} {s : Scope π}

/-! ## 1. Additions -/

/-- The metadata of removed records can always be cleared. -/
theorem clearRemoved_succeeds (cs : List LocalChange) (s : Scope π) :
    (clearRemoved cs).Succeeds s := by
  induction cs generalizing s with
  | nil => exact succeeds_pure _ _
  | cons c cs ih =>
    unfold clearRemoved
    split
    · exact (succeeds_bind_of_forall fun _ _ => succeeds_pure _ _).2 (ih s)
    · rw [succeeds_bind_of_ok (a := Work.write _) rfl]
      exact (succeeds_bind_of_forall fun _ _ => succeeds_pure _ _).2 (ih _)

variable [Processor π]

/-- An addition, with what comes behind it, succeeds exactly if a key is left. -/
theorem add_succeeds_iff (h : s.Able) {r : Record}
    {f : Option PrimaryKey × List PrimaryKey → Work π α}
    (hf : ∀ key removed t, (f (some key, removed)).Succeeds t) :
    (Work.add r >>= fun cs => clearRemoved cs >>= f).Succeeds s ↔
      0 < s.store.vault.lastKey.keysLeft := by
  have hadd : (Work.add r).Succeeds s ↔ 0 < s.store.vault.lastKey.keysLeft := by
    refine (succeeds_change h (e := .add r)).trans (Vault.edit_isSome.trans ?_)
    exact ⟨fun hkeys => hkeys r rfl, fun hkeys _ _ => hkeys⟩
  rw [← hadd]
  constructor
  · intro hall
    obtain ⟨cs, t, hcs, -⟩ := succeeds_bind.1 hall
    exact ⟨cs, t, hcs⟩
  · rintro ⟨cs, t, hcs⟩
    obtain ⟨key, -, rfl, -⟩ := Vault.edit_add (did_change (e := .add r) h.store.quiet hcs).2
    obtain ⟨⟨key?, removed⟩, u, hclear⟩ := clearRemoved_succeeds _ t
    obtain ⟨-, -, rfl, -⟩ :=
      Apply.clearRemoved_ok (c := ⟨.add, key, r⟩) Vault.kind_of_makeRoom rfl hclear
    rw [succeeds_bind_of_ok hcs, succeeds_bind_of_ok hclear]
    exact hf _ _ u

/-- **An entity becomes a new record exactly if a key is left.** -/
theorem materialize_succeeds_iff (h : s.Able) (e : Entity) :
    (materialize e).Succeeds s ↔ 0 < s.store.vault.lastKey.keysLeft :=
  add_succeeds_iff h fun key removed _ => ⟨(key, removed), _, rfl⟩

/-! ## 2. One entity -/

/-- Looking for a record to overwrite always succeeds. -/
theorem overwriteFirst_succeeds (h : s.Able) (r : Record) (keys : List PrimaryKey) :
    (overwriteFirst r keys).Succeeds s := by
  induction keys generalizing s with
  | nil => exact succeeds_pure _ _
  | cons key keys ih =>
    unfold overwriteFirst
    obtain ⟨cs, t, hupdate⟩ := (succeeds_change h (e := .updateAt key r)).2 rfl
    rw [succeeds_bind_of_ok (a := Work.updateAt key r) hupdate]
    split
    · exact ih ((Made.change (.updateAt key r)).able h hupdate)
    · exact succeeds_pure _ _

/-- **An entity is merged, unless no record has its natural key and no key is left.** -/
theorem mergeEntity_succeeds_iff {m : Merging} {e : Entity} (h : s.Able)
    (hi : Indexed m s.store.vault) :
    (mergeEntity m e).Succeeds s ↔
      (s.store.vault.lacks e.record.naturalKey = true → 0 < s.store.vault.lastKey.keysLeft) := by
  obtain ⟨key?, t, hover⟩ := overwriteFirst_succeeds h e.record (m.candidates e.specifics.tag)
  have hable := (direct_overwriteFirst _ _).able h hover
  unfold mergeEntity
  rw [succeeds_bind_of_ok hover]
  obtain ⟨hfind, ⟨key, rfl, -, -⟩ | ⟨rfl, hdid, hvault⟩⟩ := overwriteFirst_ok hover
  · obtain ⟨-, old, hold, hn⟩ := Merging.meet_mem hfind.symm
    rw [Vault.lacks_eq_false_iff.2 ⟨old, ⟨key, hold⟩, hn⟩]
    exact iff_of_true ⟨_, _, rfl⟩ nofun
  · have hlacks : s.store.vault.lacks e.record.naturalKey = true :=
      hi.lacks_of_meet_none hfind.symm
    rw [hlacks, forall_prop_of_true rfl]
    simp only
    cases hvictim : m.unmatched? (m.candidates e.specifics.tag) with
    | none =>
      rw [← hvault, ← materialize_succeeds_iff hable e]
      exact succeeds_bind_of_forall fun _ _ => succeeds_pure _ _
    | some old =>
      obtain ⟨r, hr, -⟩ := (hi.candidates _ _).1 (Merging.victim_mem hvictim).1
      obtain ⟨cs, u, hremove⟩ := (succeeds_change hable (e := .remove old)).2 rfl
      have hu := (Made.change (.remove old)).able hable hremove
      obtain ⟨-, hdrop⟩ := remove_ok (hvault ▸ hr) hremove
      obtain ⟨-, hsame⟩ := did_writes [.clear old.storageKey] u
      have hlast : ([MetadataWrite.clear old.storageKey].foldl writeOne u).store.vault.lastKey =
          s.store.vault.lastKey := by
        rw [hsame, hdrop, hvault]
        rfl
      simp only
      rw [succeeds_bind_of_ok (a := Work.remove old) hremove,
        succeeds_bind_of_ok (a := Work.write _) rfl, ← hlast,
        ← materialize_succeeds_iff (able_writes hu _) e]
      exact succeeds_bind_of_forall fun _ _ => succeeds_pure _ _

/-! ## 3. All entities -/

/-- **Entities with different client tags are merged exactly if there is a key for each of them whose
    natural key no record has.** -/
theorem mergeEntities_succeeds_iff {m : Merging} {cs : List RemoteChange} {es : List Entity}
    (h : s.Able) (hi : Indexed m s.store.vault) (hdata : cs.map (·.data) = es.map some)
    (htags : (es.map (·.specifics.tag)).Nodup) :
    (mergeEntities m cs).Succeeds s ↔
      es.countP (fun e => s.store.vault.lacks e.record.naturalKey) ≤
        s.store.vault.lastKey.keysLeft := by
  induction cs generalizing m es s with
  | nil =>
    obtain rfl : es = [] := List.map_eq_nil_iff.1 hdata.symm
    exact iff_of_true (succeeds_pure _ _) (Nat.zero_le _)
  | cons c cs ih =>
    obtain ⟨e, es, rfl, hc, hcs⟩ := List.map_eq_cons_iff.1 hdata.symm
    obtain ⟨hfirst, hrest⟩ := List.nodup_cons.1 htags
    -- What the first entity does leaves the others as they are, and takes at most one key.
    have hstep : ∀ m' t, (mergeEntity m e).perform s = (.ok m', t) →
        ((mergeEntities m' cs).Succeeds t ↔
          (e :: es).countP (fun e => s.store.vault.lacks e.record.naturalKey) ≤
            s.store.vault.lastKey.keysLeft) := by
      intro m' t hentity
      obtain ⟨f, hfated, -⟩ := mergeEntity_ok h.store.quiet hi hentity
      have hothers : es.countP (fun e => t.store.vault.lacks e.record.naturalKey) =
          es.countP fun e => s.store.vault.lacks e.record.naturalKey :=
        List.countP_congr fun e' he' => by
          rw [hfated.lacks hi fun he => hfirst (List.mem_map.2 ⟨e', he', he⟩)]
      rw [ih ((direct_mergeEntity m e).able h hentity) (hfated.indexed hi) hcs.symm hrest,
        hothers, List.countP_cons, hfated.keysLeft hi]
      omega
    have hc : c.data = some e := hc.symm
    unfold mergeEntities
    simp only [hc]
    rw [succeeds_bind]
    constructor
    · rintro ⟨m', t, hentity, hall⟩
      exact (hstep m' t hentity).1 hall
    · intro hle
      obtain ⟨m', t, hentity⟩ := (mergeEntity_succeeds_iff (e := e) h hi).2 fun hlacks => by
        rw [List.countP_cons, hlacks] at hle
        simp only [if_true] at hle
        omega
      exact ⟨m', t, hentity, (hstep m' t hentity).2 hle⟩

/-! ## 4. The whole merge -/

theorem announce_succeeds (m : Merging) (rs : List (PrimaryKey × Record)) (s : Scope π) :
    (announce m rs).Succeeds s := by
  induction rs generalizing s with
  | nil => exact succeeds_pure _ _
  | cons x rs ih =>
    unfold announce
    split
    · exact ih s
    · rw [succeeds_bind_of_ok (a := Work.put _ _) rfl]
      exact (succeeds_bind_of_forall fun _ _ => succeeds_pure _ _).2 (ih _)

/-- The end of a merge always succeeds. -/
theorem conclude_succeeds (h : s.Able) (summary : MergeSummary) : (conclude summary).Succeeds s := by
  have hpending := Made.writePending.able h (perform_writePending s)
  have hstate := able_writes hpending [.setState s.pending.stateAfterMerge]
  unfold conclude
  rw [succeeds_bind_of_ok (perform_get s), succeeds_bind_of_ok (perform_writePending s),
    succeeds_bind_of_ok (a := Work.write _) rfl, succeeds_bind_of_ok (perform_settle hstate)]
  exact succeeds_pure _ _

/-- **A merge succeeds exactly if all its entities are merged.** -/
theorem work_succeeds_iff {remote : List RemoteChange} (h : s.Able) :
    (work remote).Succeeds s ↔
      (mergeEntities (.ofRecords s.store.vault.records) remote).Succeeds s := by
  have hread : (onStore Store.readAll : Work π _).perform s = (.ok s.store.vault.records, s) := by
    rw [onStore, perform_within, h.store.readAll]
  have hreconcile : (reconcile remote).Succeeds s ↔
      (mergeEntities (.ofRecords s.store.vault.records) remote).Succeeds s := by
    unfold reconcile
    rw [succeeds_bind_of_ok hread]
    exact succeeds_bind_of_forall fun m t =>
      (succeeds_bind_of_forall fun _ _ => succeeds_pure _ _).2 (announce_succeeds m _ t)
  rw [work_eq, ← hreconcile, succeeds_bind]
  constructor
  · rintro ⟨summary, t, hfirst, -⟩
    exact ⟨summary, t, hfirst⟩
  · rintro ⟨summary, t, hfirst⟩
    exact ⟨summary, t, hfirst, conclude_succeeds ((direct_reconcile remote).able h hfirst) _⟩

end Merge

namespace Device

variable {π : Type} [Processor π] {d : Device π}

/-- **A merge of entities with different client tags succeeds exactly if there is a key for each of
    them whose natural key no record has.** -/
theorem Able.merge_succeeds_iff (h : d.Able) {remote : List RemoteChange} {es : List Entity}
    (hdata : remote.map (·.data) = es.map some) (htags : (es.map (·.specifics.tag)).Nodup) :
    (Device.merge remote).Succeeds d ↔
      es.countP (fun e => d.store.vault.lacks e.record.naturalKey) ≤
        d.store.vault.lastKey.keysLeft := by
  obtain ⟨hable, -, -, hvault, -⟩ := h.begun
  have hvault : d.begun.scope.store.vault = d.store.vault := hvault
  have hindexed : Indexed (.ofRecords d.begun.scope.store.vault.records) d.begun.scope.store.vault :=
    .ofRecords hable.store.sound.vault
  rw [h.merge_iff, Merge.work_succeeds_iff hable,
    Merge.mergeEntities_succeeds_iff hable hindexed hdata htags, hvault]

/-- A batch is committed only if no transaction was open before. -/
theorem Batched.closed {α : Type} {batcher : Batcher} {side : Side}
    {b : Device π → Draft α × Device π} {v : α} {cs : List LocalChange} {d' : Device π}
    (h : Batched batcher side b d (.committed v cs) d') : d.store.saved = none := by
  cases h with
  | committed hbegin => exact (Store.begin_ok hbegin).1

/-- **A device on which a merge succeeds is able**, if its store is not told to fail and sound: it has no
    open transaction, and no record that cannot be read. -/
theorem able_of_merge {d' : Device π} {remote : List RemoteChange} {summary : MergeSummary}
    (hquiet : d.store.Quiet) (hsound : d.store.content.Sound)
    (h : (Device.merge remote).perform d = (.ok summary, d')) : d.Able := by
  rw [merge_perform] at h
  have hbatched := batched .bridge .remote (body (Merge.work remote)) d
  rcases hbatched.result_cases with ⟨e, herror, -⟩ | ⟨a, cs, -, hcommitted⟩
  · rw [herror] at h
    cases h
  · rw [hcommitted] at hbatched
    obtain ⟨_, s, -, hres, -, hbegun, -⟩ := hbatched.committed_work
    obtain ⟨records, t, hread, -⟩ := ok_of_bind hres
    rw [Work.onStore, perform_within] at hread
    have hlegible : d.begun.store.content.Legible :=
      Store.legible_of_readAll (Prod.ext (Prod.mk.inj hread).1 rfl)
    rw [hbegun] at hlegible
    exact ⟨⟨hquiet, hsound, hlegible⟩, hbatched.closed⟩

end Device

end CredentialSync
