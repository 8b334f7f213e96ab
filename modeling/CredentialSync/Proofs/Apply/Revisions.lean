import CredentialSync.Proofs.Apply.Additions
import CredentialSync.Proofs.Tracking.Tracks

/-!
# What updates of different records do

A `Revision` is an update of the remote side: the key of a record and the entity to store. Revisions
`FitTogether` if they name different records, and their natural keys are different from each other and
from those of the records that are not named. `Vault.Revised` is what should come of them, in whatever
order they are carried out: every named record is replaced by its new version, and all others stay.

A database does so only if the order `Spares` the named records. A record whose natural key changes is
removed and added anew, and the addition removes any other record that has the new natural key at that
moment (`Applied.displaced`). If a later revision names that record, it cannot be carried out any more
(`AppliedAll.resident`). So revisions that are all carried out have been spared, and then nothing else
has been lost (`AppliedAll.revised`).
-/

namespace CredentialSync

/-- An update of the remote side: the key of the record that it names, and the entity to store. -/
structure Revision where
  key : PrimaryKey
  entity : Entity

namespace Revision

/-- The new version of the record. -/
def record (u : Revision) : Record := u.entity.record

/-- The natural key of the new version. -/
def name (u : Revision) : NaturalKey := u.record.naturalKey

/-- The update as it reaches this device. -/
def change (u : Revision) : RemoteChange :=
  { kind := .update, storageKey := u.key.storageKey, data := some u.entity }

end Revision

/-! ## 1. Revisions of a vault -/

namespace Vault

variable {v v' v'' : Vault} {u : Revision} {us ws : List Revision} {key : PrimaryKey} {r : Record}

/-- The record has to move, since its natural key changes. -/
def moves (v : Vault) (u : Revision) : Bool := !v.holds u.record u.key

/-- Revisions of different records whose natural keys get into no conflict, neither with each other nor
    with the records that are not named. -/
structure FitTogether (v : Vault) (us : List Revision) : Prop where
  resident : ∀ u ∈ us, ∃ r, v.records.get? u.key = some r
  keys : (us.map Revision.key).Nodup
  names : (us.map Revision.name).Nodup
  apart : ∀ key r, v.records.get? key = some r → key ∉ us.map Revision.key →
    ∀ u ∈ us, r.naturalKey ≠ u.name

/-- No revision takes the natural key of a record that a later one names. -/
def Spares (v : Vault) (us : List Revision) : Prop :=
  us.Pairwise fun u w => ∀ r, v.records.get? w.key = some r → r.naturalKey ≠ u.name

/-- The named records are replaced by their new versions, and nothing else happens to the records. -/
structure Revised (v : Vault) (us : List Revision) (v' : Vault) : Prop where
  kept : ∀ key r, v.records.get? key = some r → key ∉ us.map Revision.key →
    v'.records.get? key = some r
  origin : ∀ key r, v'.records.get? key = some r →
    (v.records.get? key = some r ∧ key ∉ us.map Revision.key) ∨ r ∈ us.map Revision.record
  stored : ∀ u ∈ us, ∃ key, v'.records.get? key = some u.record ∧ (key = u.key ∨ v.lastKey < key)

/-- Fitting together has nothing to do with the order. -/
theorem FitTogether.perm (h : v.FitTogether us) (horder : ws.Perm us) : v.FitTogether ws where
  resident u hu := h.resident u (horder.mem_iff.1 hu)
  keys := (horder.map _).nodup_iff.2 h.keys
  names := (horder.map _).nodup_iff.2 h.names
  apart key r hr hkey u hu :=
    h.apart key r hr (fun hmem => hkey ((horder.map _).mem_iff.2 hmem)) u (horder.mem_iff.1 hu)

/-- What should come of revisions has nothing to do with their order. -/
theorem Revised.perm (h : v.Revised ws v') (horder : ws.Perm us) : v.Revised us v' where
  kept key r hr hkey := h.kept key r hr fun hmem => hkey ((horder.map _).mem_iff.1 hmem)
  origin key r hr := (h.origin key r hr).imp
    (And.imp_right fun hkey hmem => hkey ((horder.map _).mem_iff.2 hmem))
    (horder.map _).mem_iff.1
  stored u hu := h.stored u (horder.mem_iff.2 hu)

/-! ### The first revision, and then the others -/

theorem Revised.kept_one (h : v.Revised [u] v') (hr : v.records.get? key = some r)
    (hkey : key ≠ u.key) : v'.records.get? key = some r := by
  refine h.kept key r hr ?_
  rw [List.map_singleton, List.mem_singleton]
  exact hkey

theorem Revised.origin_one (h : v.Revised [u] v') (hr : v'.records.get? key = some r) :
    (v.records.get? key = some r ∧ key ≠ u.key) ∨ r = u.record := by
  have horigin := h.origin key r hr
  simp only [List.map_singleton, List.mem_singleton] at horigin
  exact horigin

/-- One revision replaces one record. -/
theorem revised_one
    (hkept : ∀ k s, v.records.get? k = some s → k ≠ u.key → v'.records.get? k = some s)
    (horigin : ∀ k s, v'.records.get? k = some s →
      (v.records.get? k = some s ∧ k ≠ u.key) ∨ s = u.record)
    (hstored : v'.records.get? key = some u.record) (hkey : key = u.key ∨ v.lastKey < key) :
    v.Revised [u] v' := by
  refine ⟨fun k s hs hk => ?_, fun k s hs => ?_, fun w hw => ?_⟩
  · rw [List.map_singleton, List.mem_singleton] at hk
    exact hkept k s hs hk
  · rw [List.map_singleton, List.mem_singleton, List.map_singleton, List.mem_singleton]
    exact horigin k s hs
  · rw [List.mem_singleton.1 hw]
    exact ⟨key, hstored, hkey⟩

/-- A key is named by no revision if neither the first one nor the later ones name it. -/
theorem notMem_keys_cons :
    key ∉ (u :: us).map Revision.key ↔ key ≠ u.key ∧ key ∉ us.map Revision.key := by
  rw [List.map_cons, List.mem_cons, not_or]

/-- If the later revisions do not name a record with the new natural key, no other record has it. -/
theorem FitTogether.spared (h : v.FitTogether (u :: us))
    (hlater : ∀ w ∈ us, ∀ r, v.records.get? w.key = some r → r.naturalKey ≠ u.name)
    (hr : v.records.get? key = some r) (hkey : key ≠ u.key) : r.naturalKey ≠ u.name := by
  by_cases hmem : key ∈ us.map Revision.key
  · obtain ⟨w, hw, rfl⟩ := List.mem_map.1 hmem
    exact hlater w hw r hr
  · exact h.apart key r hr (notMem_keys_cons.2 ⟨hkey, hmem⟩) u List.mem_cons_self

section Tail

variable (hfit : v.FitTogether (u :: us)) (hfirst : v.Revised [u] v')

include hfit

/-- The later revisions name other records. -/
theorem FitTogether.key_ne {w : Revision} (hw : w ∈ us) : w.key ≠ u.key := fun he =>
  (List.nodup_cons.1 hfit.keys).1 (List.mem_map.2 ⟨w, hw, he⟩)

include hfirst

/-- The first revision leaves the records of the later ones alone. -/
theorem FitTogether.get?_tail {w : Revision} (hw : w ∈ us) :
    v'.records.get? w.key = v.records.get? w.key := by
  obtain ⟨r, hr⟩ := hfit.resident w (List.mem_cons_of_mem _ hw)
  rw [hr]
  exact hfirst.kept_one hr (hfit.key_ne hw)

/-- The later revisions fit together behind the first one. -/
theorem FitTogether.tail : v'.FitTogether us where
  resident w hw := by
    rw [hfit.get?_tail hfirst hw]
    exact hfit.resident w (List.mem_cons_of_mem _ hw)
  keys := (List.nodup_cons.1 hfit.keys).2
  names := (List.nodup_cons.1 hfit.names).2
  apart key r hr hkey w hw := by
    rcases hfirst.origin_one hr with ⟨hbefore, hother⟩ | hnew
    · have hnot := notMem_keys_cons.2 ⟨hother, hkey⟩
      exact hfit.apart key r hbefore hnot w (List.mem_cons_of_mem _ hw)
    · intro hn
      refine (List.nodup_cons.1 hfit.names).1 (List.mem_map.2 ⟨w, hw, ?_⟩)
      rw [← hn, hnew]
      rfl

theorem FitTogether.spares_tail : v'.Spares us ↔ v.Spares us := by
  refine ⟨fun h => ?_, fun h => ?_⟩ <;>
    refine h.imp_of_mem fun _ hw hspared r hr => hspared r ?_
  · rw [hfit.get?_tail hfirst hw]
    exact hr
  · rw [← hfit.get?_tail hfirst hw]
    exact hr

theorem FitTogether.countP_tail : us.countP v'.moves = us.countP v.moves :=
  List.countP_congr fun w hw => by
    unfold moves holds
    rw [hfit.get?_tail hfirst hw]

/-- One revision, and then the others. -/
theorem Revised.cons (hsound : v.Sound) (hlast : v.lastKey ≤ v'.lastKey)
    (hrest : v'.Revised us v'') : v.Revised (u :: us) v'' := by
  refine ⟨fun key r hr hkey => ?_, fun key r hr => ?_, fun w hw => ?_⟩
  · obtain ⟨hother, hkey⟩ := notMem_keys_cons.1 hkey
    exact hrest.kept key r (hfirst.kept_one hr hother) hkey
  · rcases hrest.origin key r hr with ⟨hmiddle, hkey⟩ | hnew
    · rcases hfirst.origin_one hmiddle with ⟨hbefore, hother⟩ | hnew
      · exact .inl ⟨hbefore, notMem_keys_cons.2 ⟨hother, hkey⟩⟩
      · exact .inr (hnew ▸ List.mem_cons_self)
    · exact .inr (List.mem_cons_of_mem _ hnew)
  · rcases List.mem_cons.1 hw with rfl | hw
    · obtain ⟨key, hget, hkey⟩ := hfirst.stored w List.mem_cons_self
      -- The later revisions name records from before, so the new version is not one of them.
      have hnot : key ∉ us.map Revision.key := by
        intro hmem
        obtain ⟨x, hx, rfl⟩ := List.mem_map.1 hmem
        rcases hkey with he | hlt
        · exact hfit.key_ne hx he
        · obtain ⟨r, hr⟩ := hfit.resident x (List.mem_cons_of_mem _ hx)
          exact Int64.lt_irrefl (Int64.lt_of_lt_of_le hlt (hsound _ r hr))
      exact ⟨key, hrest.kept key _ hget hnot, hkey⟩
    · obtain ⟨key, hget, hkey⟩ := hrest.stored w hw
      exact ⟨key, hget, hkey.imp_right (Int64.lt_of_le_of_lt hlast)⟩

end Tail

/-- With unique natural keys, the record with a natural key is found. -/
theorem Unique.find?_of_get? (h : v.Unique) (hr : v.records.get? key = some r) :
    v.find? r.naturalKey = some key := by
  cases hfind : v.find? r.naturalKey with
  | none => exact absurd rfl (find?_eq_none.1 hfind key r hr)
  | some k =>
    obtain ⟨s, hs, hn⟩ := find?_eq_some hfind
    rw [h k key s r hs hr hn]

/-- A record overwritten under its key. -/
theorem revised_put (v : Vault) (u : Revision) : v.Revised [u] (v.put u.key u.record) := by
  have hget (k : PrimaryKey) : (v.put u.key u.record).records.get? k =
      if u.key = k then some u.record else v.records.get? k := by
    rw [records_put, SortedMap.get?_insert]
  refine revised_one (fun k s hs hk => ?_) (fun k s hs => ?_) ?_ (.inl rfl)
  · rw [hget, if_neg (Ne.symm hk)]
    exact hs
  · rw [hget] at hs
    split at hs
    · exact .inr (Option.some.inj hs).symm
    · next hne => exact .inl ⟨hs, Ne.symm hne⟩
  · rw [hget, if_pos rfl]

/-- A record removed and added under a fresh key. -/
theorem revised_move (hsound : v.Sound) (hlt : v.lastKey < key) :
    v.Revised [u] ((v.drop u.key).insertNew key u.record) := by
  have hget (k : PrimaryKey) : ((v.drop u.key).insertNew key u.record).records.get? k =
      if key = k then some u.record else if u.key = k then none else v.records.get? k := by
    rw [records_insertNew, SortedMap.get?_insert, records_drop, SortedMap.get?_erase]
  refine revised_one (fun k s hs hk => ?_) (fun k s hs => ?_) ?_ (.inr hlt)
  · have hfresh : key ≠ k := fun he => by
      rw [← he, hsound.fresh hlt] at hs
      cases hs
    rw [hget, if_neg hfresh, if_neg (Ne.symm hk)]
    exact hs
  · rw [hget] at hs
    split at hs
    · exact .inr (Option.some.inj hs).symm
    · split at hs
      · cases hs
      · next hne => exact .inl ⟨hs, Ne.symm hne⟩
  · rw [hget, if_pos rfl]

end Vault

/-! ## 2. One revision -/

section One

variable {replacing : Bool} {v v' : Vault} {u : Revision} {cs : List LocalChange}
  {es : List Work.Event} {key : PrimaryKey} {r : Record}

/-- **A revision that is carried out** overwrites the record that it names, or moves it. -/
theorem Applied.of_revision (h : Applied replacing v u.change cs es v') :
    0 < u.key ∧ ∃ old, v.records.get? u.key = some old ∧
      ((old.naturalKey = u.name ∧ v' = v.put u.key u.record) ∨
        (old.naturalKey ≠ u.name ∧
          ∃ key ds fs, Placed replacing (v.drop u.key) u.entity key ds fs v')) := by
  generalize hc : u.change = c at h
  cases h with
  | added hkind | deleted hkind =>
    cases hc
    cases hkind
  | overwrote _ hkey hdata hold hsame =>
    cases hc
    cases hdata
    obtain ⟨hpos, htext⟩ := StorageKey.of_primaryKey? hkey
    obtain rfl := PrimaryKey.storageKey_injective htext
    exact ⟨hpos, _, hold, .inl ⟨hsame, rfl⟩⟩
  | moved _ hkey hdata hold hother hplaced =>
    cases hc
    cases hdata
    obtain ⟨hpos, htext⟩ := StorageKey.of_primaryKey? hkey
    obtain rfl := PrimaryKey.storageKey_injective htext
    exact ⟨hpos, _, hold, .inr ⟨hother, _, _, _, hplaced⟩⟩

/-- **A revision whose natural key no other record has** replaces its record and nothing else. It takes
    a key if the record has to move. -/
theorem Applied.revised (h : Applied replacing v u.change cs es v') (hsound : v.Sound)
    (hunique : v.Unique)
    (hspared : ∀ key r, v.records.get? key = some r → key ≠ u.key → r.naturalKey ≠ u.name) :
    v.Revised [u] v' ∧ v'.Unique ∧
      v.lastKey.keysLeft = v'.lastKey.keysLeft + if v.moves u then 1 else 0 := by
  obtain ⟨-, old, hold, ⟨hsame, rfl⟩ | ⟨hother, key, ds, fs, hplaced⟩⟩ := h.of_revision
  · have hstays : v.moves u = false := by
      rw [Vault.moves, Vault.holds_iff.2 ⟨old, hold, hsame⟩]
      rfl
    rw [hstays]
    exact ⟨Vault.revised_put v u, hunique.put hold hsame, rfl⟩
  · have hmoves : v.moves u = true := by
      rw [Vault.moves, Bool.not_eq_true', Bool.eq_false_iff]
      intro hholds
      obtain ⟨old', hold', hsame⟩ := Vault.holds_iff.1 hholds
      rw [hold] at hold'
      cases hold'
      exact hother hsame
    have hlacks : (v.drop u.key).lacks u.name = true := by
      refine Vault.lacks_iff.2 fun r hr => ?_
      obtain ⟨k, hr⟩ := hr
      rw [Vault.records_drop, SortedMap.get?_erase] at hr
      split at hr
      · cases hr
      · next hne => exact hspared k r hr (Ne.symm hne)
    have hkeys := hplaced.keysLeft
    obtain ⟨hlt, -, -, rfl⟩ := hplaced.of_lacks hlacks
    rw [hmoves]
    exact ⟨Vault.revised_move hsound hlt, (hunique.drop u.key).insertNew hlacks key, hkeys⟩

/-- **A revision removes any other record that has its natural key.** -/
theorem Applied.displaced (h : Applied true v u.change cs es v') (hsound : v.Sound)
    (hunique : v.Unique) (hr : v.records.get? key = some r) (hkey : key ≠ u.key)
    (hname : r.naturalKey = u.name) : v'.records.get? key = none := by
  obtain ⟨-, old, hold, ⟨hsame, -⟩ | ⟨-, fresh, ds, fs, hplaced⟩⟩ := h.of_revision
  · exact absurd (hunique key u.key r old hr hold (hname.trans hsame.symm)) hkey
  · have hstill : (v.drop u.key).records.get? key = some r := by
      rw [Vault.records_drop, SortedMap.get?_erase, if_neg (Ne.symm hkey)]
      exact hr
    have hfind : (v.drop u.key).find? u.entity.record.naturalKey = some key := by
      rw [← (hunique.drop u.key).find?_of_get? hstill, hname]
      rfl
    have hroom : ((v.drop u.key).makeRoom true u.entity.record).2 = (v.drop u.key).drop key := by
      simp only [Vault.makeRoom, if_pos, Vault.clear, hfind, Vault.remove, hstill]
    cases hplaced with
    | mk hnext =>
      have hlt := PrimaryKey.lt_of_next? hnext
      rw [hroom] at hlt ⊢
      have hne : fresh ≠ key := fun he => by
        rw [he] at hlt
        exact Int64.lt_irrefl (Int64.lt_of_lt_of_le hlt (hsound key r hr))
      rw [Vault.records_insertNew, SortedMap.get?_insert, if_neg hne, Vault.records_drop,
        SortedMap.get?_erase, if_pos rfl]

end One

/-! ## 3. All revisions -/

section All

variable {replacing : Bool} {v v' : Vault} {us : List Revision} {cs : List LocalChange}
  {es : List Work.Event}

/-- A revision that is carried out names a record that was there from the beginning, unless its key is
    given out in between. -/
theorem AppliedAll.resident (h : AppliedAll replacing v (us.map Revision.change) cs es v') {u : Revision}
    (hu : u ∈ us) (hle : u.key ≤ v.lastKey) : v.records.get? u.key ≠ none := by
  induction us generalizing v cs es with
  | nil => cases hu
  | cons w us ih =>
    generalize hremote : (w :: us).map Revision.change = remote at h
    cases h with
    | nil => cases hremote
    | cons hc hs =>
      cases hremote
      rcases List.mem_cons.1 hu with rfl | hu
      · obtain ⟨-, old, hold, -⟩ := hc.of_revision
        rw [hold]
        nofun
      · -- A key that is not above the last one is not given out again.
        intro hnone
        exact ih hs hu (Int64.le_trans hle hc.steps.lastKey_le) (hc.steps.gone hle hnone)

/-- **Revisions that are carried out by a database** have been spared, and nothing else has happened to
    the records. -/
theorem AppliedAll.revised (h : AppliedAll true v (us.map Revision.change) cs es v') (hsound : v.Sound)
    (hunique : v.Unique) (hfit : v.FitTogether us) :
    (∀ u ∈ us, 0 < u.key) ∧ v.Spares us ∧ us.countP v.moves ≤ v.lastKey.keysLeft ∧
      v.Revised us v' := by
  induction us generalizing v cs es with
  | nil =>
    cases h
    exact ⟨nofun, .nil, Nat.zero_le _, fun _ _ hr _ => hr, fun _ _ hr => .inl ⟨hr, nofun⟩, nofun⟩
  | cons u us ih =>
    generalize hremote : (u :: us).map Revision.change = remote at h
    cases h with
    | nil => cases hremote
    | cons hc hs =>
      cases hremote
      -- A record that the first revision removes is missing when its own revision comes.
      have hlater : ∀ w ∈ us, ∀ r, v.records.get? w.key = some r → r.naturalKey ≠ u.name := by
        intro w hw r hr hname
        have hgone := hc.displaced hsound hunique hr (hfit.key_ne hw) hname
        have hle := Int64.le_trans (hsound w.key r hr) hc.steps.lastKey_le
        exact hs.resident hw hle hgone
      obtain ⟨hfirst, hunique', hkeys⟩ :=
        hc.revised hsound hunique fun key r hr hkey => hfit.spared hlater hr hkey
      obtain ⟨hpos, hspares, hmoves, hrest⟩ :=
        ih hs (hc.steps.sound hsound) hunique' (hfit.tail hfirst)
      refine ⟨fun w hw => ?_, ?_, ?_, .cons hfit hfirst hsound hc.steps.lastKey_le hrest⟩
      · rcases List.mem_cons.1 hw with rfl | hw
        · exact hc.of_revision.1
        · exact hpos w hw
      · exact List.pairwise_cons.2 ⟨hlater, (hfit.spares_tail hfirst).1 hspares⟩
      · rw [hfit.countP_tail hfirst] at hmoves
        rw [List.countP_cons, hkeys]
        exact Nat.add_le_add_right hmoves _

end All

end CredentialSync
