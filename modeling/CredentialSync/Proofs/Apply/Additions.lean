import CredentialSync.Proofs.Apply.Taken
import CredentialSync.Proofs.Merge.Success

/-!
# Applying additions

An application of additions needs a key for each of them, and on an able device it fails for nothing else
(`Device.Able.apply_succeeds_iff`).

Additions of natural keys that no record has, all different, remove nothing and only add: the records
from before stay under their keys (`Vault.Grown`), all changes are additions, and the processor is told
storage keys only (`AppliedAll.additions`).
-/

namespace CredentialSync

open Attempt Work

/-! ## 1. When additions succeed -/

/-- A placed entity takes one key. -/
theorem Placed.keysLeft {replacing : Bool} {v v' : Vault} {e : Entity} {key : PrimaryKey}
    {cs : List LocalChange} {es : List Work.Event} (h : Placed replacing v e key cs es v') :
    v.lastKey.keysLeft = v'.lastKey.keysLeft + 1 := by
  cases h with
  | mk hkey =>
    rw [Vault.lastKey_makeRoom] at hkey
    exact PrimaryKey.keysLeft_of_next? hkey

/-- An addition that is carried out places its entity. -/
theorem Applied.placed {replacing : Bool} {v v' : Vault} {e : Entity} {cs : List LocalChange}
    {es : List Work.Event} (h : Applied replacing v (.add e) cs es v') :
    ∃ key, Placed replacing v e key cs es v' := by
  generalize hc : RemoteChange.add e = c at h
  cases h with
  | added _ hdata hplaced =>
    cases hc
    cases hdata
    exact ⟨_, hplaced⟩
  | overwrote hkind | moved hkind | deleted hkind =>
    cases hc
    cases hkind

namespace Apply

variable {π : Type} [Processor π] {s : Scope π}

theorem addEntity_succeeds_iff (h : s.Able) (e : Entity) :
    (addEntity e).Succeeds s ↔ 0 < s.store.vault.lastKey.keysLeft :=
  Merge.add_succeeds_iff h fun key _ _ => ⟨key, _, rfl⟩

theorem applyChange_add (e : Entity) :
    (applyChange (.add e) : Work π Unit) = (addEntity e >>= fun _ => pure ()) := rfl

/-- **Additions succeed exactly if there is a key for each of them.** -/
theorem applyChanges_succeeds_iff {es : List Entity} (h : s.Able) (summary : ApplySummary) :
    (applyChanges summary (es.map RemoteChange.add)).Succeeds s ↔
      es.length ≤ s.store.vault.lastKey.keysLeft := by
  induction es generalizing s summary with
  | nil => exact iff_of_true (succeeds_pure _ _) (Nat.zero_le _)
  | cons e es ih =>
    have hstep : ∀ t, (applyChange (.add e)).perform s = (.ok (), t) →
        ∀ summary, (applyChanges summary (es.map RemoteChange.add)).Succeeds t ↔
          (e :: es).length ≤ s.store.vault.lastKey.keysLeft := by
      intro t hchange summary
      obtain ⟨cs, fs, happlied, -⟩ := applyChange_ok h.store.quiet hchange
      obtain ⟨key, hplaced⟩ := happlied.placed
      rw [ih ((direct_applyChange _).able h hchange), List.length_cons, hplaced.keysLeft]
      omega
    rw [List.map_cons, applyChanges, succeeds_bind]
    constructor
    · rintro ⟨_, t, hchange, hrest⟩
      exact (hstep t hchange _).1 hrest
    · intro hle
      have hfirst : (applyChange (.add e)).Succeeds s := by
        rw [applyChange_add, succeeds_bind_of_forall fun _ _ => succeeds_pure _ _,
          addEntity_succeeds_iff h]
        exact Nat.lt_of_lt_of_le (Nat.succ_pos _) hle
      obtain ⟨_, t, hchange⟩ := hfirst
      exact ⟨_, t, hchange, (hstep t hchange _).2 hle⟩

/-- The end of an application always succeeds. -/
theorem conclude_succeeds (h : s.Able) (summary : ApplySummary) : (conclude summary).Succeeds s := by
  have hpending := Made.writePending.able h (perform_writePending s)
  unfold conclude
  rw [succeeds_bind_of_ok (perform_writePending s), succeeds_bind_of_ok (perform_settle hpending)]
  exact succeeds_pure _ _

/-- **An application succeeds exactly if all its changes are carried out.** -/
theorem work_succeeds_iff {remote : List RemoteChange} (h : s.Able) :
    (work remote).Succeeds s ↔ (applyChanges {} remote).Succeeds s := by
  rw [work_eq, succeeds_bind]
  constructor
  · rintro ⟨summary, t, hall, -⟩
    exact ⟨summary, t, hall⟩
  · rintro ⟨summary, t, hall⟩
    exact ⟨summary, t, hall,
      conclude_succeeds ((direct_applyChanges _ _).able h hall) summary⟩

end Apply

/-- An application succeeds exactly if its changes are carried out in the transaction that has begun. -/
theorem Device.Able.apply_iff_changes {π : Type} [Processor π] {d : Device π} (h : d.Able)
    {remote : List RemoteChange} :
    (Device.apply remote).Succeeds d ↔ (Apply.applyChanges {} remote).Succeeds d.begun.scope :=
  h.apply_iff.trans (Apply.work_succeeds_iff h.begun.1)

/-- **An application of additions succeeds exactly if there is a key for each of them.** -/
theorem Device.Able.apply_succeeds_iff {π : Type} [Processor π] {d : Device π} (h : d.Able)
    {es : List Entity} :
    (Device.apply (es.map RemoteChange.add)).Succeeds d ↔
      es.length ≤ d.store.vault.lastKey.keysLeft := by
  obtain ⟨hable, -, -, hvault, -⟩ := h.begun
  have hvault : d.begun.scope.store.vault = d.store.vault := hvault
  rw [h.apply_iff_changes, Apply.applyChanges_succeeds_iff hable, hvault]

/-! ## 2. What additions do -/

namespace Vault

/-- The second vault has the records of the first one under their keys, and some more. -/
structure Grown (v : Vault) (rs : List Record) (v' : Vault) : Prop where
  kept : ∀ key r, v.records.get? key = some r → v'.records.get? key = some r
  has_iff : ∀ r, v'.Has r ↔ v.Has r ∨ r ∈ rs

variable {v v' v'' : Vault} {rs ss : List Record} {key : PrimaryKey} {r : Record}

theorem Grown.refl (v : Vault) : Grown v [] v := ⟨fun _ _ h => h, fun _ => by simp⟩

theorem Grown.trans (h : Grown v rs v') (h' : Grown v' ss v'') : Grown v (rs ++ ss) v'' :=
  ⟨fun key r hr => h'.kept key r (h.kept key r hr), fun r => by
    rw [h'.has_iff, h.has_iff, List.mem_append, or_assoc]⟩

/-- A record under a fresh key. -/
theorem grown_insertNew (hfresh : v.records.get? key = none) (r : Record) :
    Grown v [r] (v.insertNew key r) := by
  have hkept : ∀ k s, v.records.get? k = some s → (v.insertNew key r).records.get? k = some s := by
    intro k s hs
    have hne : key ≠ k := fun hk => by
      rw [← hk, hfresh] at hs
      cases hs
    simp [hne, hs]
  refine ⟨hkept, fun s => ⟨?_, fun hs => ?_⟩⟩
  · rintro ⟨k, hs⟩
    rw [records_insertNew, SortedMap.get?_insert] at hs
    split at hs
    · cases hs
      exact .inr List.mem_cons_self
    · exact .inl ⟨k, hs⟩
  · rcases hs with ⟨k, hs⟩ | hs
    · exact ⟨k, hkept k s hs⟩
    · rw [List.mem_singleton.1 hs]
      exact ⟨key, by simp⟩

end Vault

/-- Adding an entity whose natural key no record has. -/
theorem Placed.of_lacks {replacing : Bool} {v v' : Vault} {e : Entity} {key : PrimaryKey}
    {cs : List LocalChange} {es : List Work.Event} (h : Placed replacing v e key cs es v')
    (hlacks : v.lacks e.record.naturalKey = true) :
    v.lastKey < key ∧ cs = [⟨.add, key, e.record⟩] ∧ es = [.call (.assignKey key.storageKey e)] ∧
      v' = v.insertNew key e.record := by
  cases h with
  | mk hkey =>
    rw [Vault.makeRoom_of_find? (Vault.lacks_iff_find?.1 hlacks)] at hkey ⊢
    exact ⟨PrimaryKey.lt_of_next? hkey, rfl, rfl, rfl⟩

/-- **Additions of natural keys that no record has.** -/
theorem AppliedAll.additions {replacing : Bool} {v v' : Vault} {es : List Entity}
    {cs : List LocalChange} {fs : List Work.Event}
    (h : AppliedAll replacing v (es.map RemoteChange.add) cs fs v') (hsound : v.Sound)
    (hunique : v.Unique) (hlacks : ∀ e ∈ es, v.lacks e.record.naturalKey = true)
    (hdistinct : (es.map (·.record.naturalKey)).Nodup) :
    v.Grown (es.map (·.record)) v' ∧ v'.Unique ∧ (∀ c ∈ cs, c.kind = .add) ∧
      ∀ c ∈ fs.filterMap Work.Event.call?, ∃ key e, c = .assignKey key e := by
  induction es generalizing v cs fs with
  | nil =>
    cases h
    exact ⟨.refl _, hunique, List.forall_mem_nil _, List.forall_mem_nil _⟩
  | cons e es ih =>
    obtain ⟨hfirst, hdistinct⟩ := List.nodup_cons.1 hdistinct
    generalize hremote : (e :: es).map RemoteChange.add = remote at h
    cases h with
    | nil => cases hremote
    | cons hc hs =>
      cases hremote
      obtain ⟨key, hplaced⟩ := hc.placed
      have he := hlacks e List.mem_cons_self
      obtain ⟨hlt, rfl, rfl, rfl⟩ := hplaced.of_lacks he
      have hgrown := Vault.grown_insertNew (hsound.fresh hlt) e.record
      have hstill : ∀ e' ∈ es, (v.insertNew key e.record).lacks e'.record.naturalKey = true := by
        intro e' he'
        refine Vault.lacks_iff.2 fun r hr hn => ?_
        rcases (hgrown.has_iff r).1 hr with hr | hr
        · exact Vault.lacks_iff.1 (hlacks e' (List.mem_cons_of_mem _ he')) r hr hn
        · rw [List.mem_singleton.1 hr] at hn
          exact hfirst (List.mem_map.2 ⟨e', he', hn.symm⟩)
      obtain ⟨hrest, hunique', hadds, hcalls⟩ :=
        ih hs ((Vault.Step.add v key e.record hlt).sound hsound) (hunique.insertNew he key) hstill
          hdistinct
      refine ⟨hgrown.trans hrest, hunique', fun c hc => ?_, fun c hc => ?_⟩
      · rcases List.mem_cons.1 hc with rfl | hc
        · rfl
        · exact hadds c hc
      · rcases List.mem_cons.1 hc with rfl | hc
        · exact ⟨_, _, rfl⟩
        · exact hcalls c hc

end CredentialSync
