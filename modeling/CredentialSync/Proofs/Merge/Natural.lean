import CredentialSync.Proofs.Apply.Applied
import CredentialSync.Proofs.Merge.Account
import CredentialSync.Proofs.Store.Able

/-!
# Natural keys

What the natural keys of the records are, and what becomes of them in a merge.

* `Vault.Unique`: no two records have one natural key. Every edit of a database keeps it
  (`Unique.edit`), and every merge does (`Fates.unique`).
* `Vault.Apart`: no two records have one client tag. That is more, since natural keys determine client
  tags.
* `Vault.under?` is the record with a natural key. Vaults with unique natural keys and the same
  records have the same record under each (`under?_congr`).
* An entity takes a key exactly if no record has its natural key (`Fated.keysLeft`), and it changes
  nothing about the natural keys under other client tags (`Fated.lacks`).
-/

namespace CredentialSync

namespace Vault

variable {v w : Vault} {key : PrimaryKey} {r : Record} {n : NaturalKey}

/-! ## 1. Natural keys of a vault -/

/-- A record is resident. -/
def Has (v : Vault) (r : Record) : Prop := ∃ key, v.records.get? key = some r

/-- No record has the natural key. -/
def lacks (v : Vault) (n : NaturalKey) : Bool := (v.find? n).isNone

/-- No two records have one natural key. -/
def Unique (v : Vault) : Prop :=
  ∀ k k' r r', v.records.get? k = some r → v.records.get? k' = some r' →
    r.naturalKey = r'.naturalKey → k = k'

/-- No two records have one client tag. -/
def Apart (v : Vault) : Prop :=
  ∀ k k' r r', v.records.get? k = some r → v.records.get? k' = some r' →
    r.specifics.tag = r'.specifics.tag → k = k'

/-- The record with a natural key. -/
def under? (v : Vault) (n : NaturalKey) : Option Record := (v.find? n).bind v.records.get?

theorem lacks_iff_find? : v.lacks n = true ↔ v.find? n = none := Option.isNone_iff_eq_none

theorem lacks_iff : v.lacks n = true ↔ ∀ r, v.Has r → r.naturalKey ≠ n := by
  rw [lacks_iff_find?, find?_eq_none]
  constructor
  · rintro h r ⟨key, hr⟩
    exact h key r hr
  · exact fun h key r hr => h r ⟨key, hr⟩

theorem lacks_eq_false_iff : v.lacks n = false ↔ ∃ r, v.Has r ∧ r.naturalKey = n := by
  rw [← Bool.not_eq_true, lacks_iff]
  simp

/-- Vaults with the same natural keys lack the same. -/
theorem lacks_congr (h : (∃ r, v.Has r ∧ r.naturalKey = n) ↔ ∃ r, w.Has r ∧ r.naturalKey = n) :
    v.lacks n = w.lacks n := by
  have hiff : v.lacks n = false ↔ w.lacks n = false := by
    rw [lacks_eq_false_iff, lacks_eq_false_iff, h]
  revert hiff
  cases v.lacks n <;> cases w.lacks n <;> simp

theorem Apart.unique (h : v.Apart) : v.Unique := fun k k' r r' hr hr' hn =>
  h k k' r r' hr hr' (Record.tag_eq hn)

namespace Unique

/-- The record with a natural key is the one that has it. -/
theorem under?_eq_some (h : v.Unique) : v.under? n = some r ↔ v.Has r ∧ r.naturalKey = n := by
  unfold under?
  cases hfind : v.find? n with
  | none =>
    constructor
    · intro hr
      cases hr
    · rintro ⟨⟨key, hr⟩, hn⟩
      exact absurd hn (find?_eq_none.1 hfind key r hr)
  | some key =>
    obtain ⟨s, hs, hsn⟩ := find?_eq_some hfind
    rw [Option.bind_some]
    constructor
    · intro hr
      rw [hs] at hr
      cases hr
      exact ⟨⟨key, hs⟩, hsn⟩
    · rintro ⟨⟨k, hr⟩, hn⟩
      rw [h key k s r hs hr (hsn.trans hn.symm)]
      exact hr

/-- A record under a key whose record had the same natural key. -/
theorem put (h : v.Unique) {old : Record} (hold : v.records.get? key = some old)
    (hn : old.naturalKey = r.naturalKey) : (v.put key r).Unique := by
  -- Every record has the natural key of the one that was under its key.
  have hbefore : ∀ k s, (v.put key r).records.get? k = some s →
      ∃ s', v.records.get? k = some s' ∧ s'.naturalKey = s.naturalKey := by
    intro k s hs
    rw [records_put, SortedMap.get?_insert] at hs
    split at hs
    · next hk =>
      cases hs
      exact ⟨old, hk ▸ hold, hn⟩
    · exact ⟨s, hs, rfl⟩
  intro k k' s s' hs hs' hsn
  obtain ⟨t, ht, htn⟩ := hbefore k s hs
  obtain ⟨t', ht', htn'⟩ := hbefore k' s' hs'
  exact h k k' t t' ht ht' (htn.trans (hsn.trans htn'.symm))

theorem drop (h : v.Unique) (key : PrimaryKey) : (v.drop key).Unique := by
  have hbefore : ∀ k s, (v.drop key).records.get? k = some s → v.records.get? k = some s := by
    intro k s hs
    rw [records_drop, SortedMap.get?_erase] at hs
    split at hs
    · cases hs
    · exact hs
  exact fun k k' s s' hs hs' => h k k' s s' (hbefore k s hs) (hbefore k' s' hs')

theorem insertNew (h : v.Unique) (hlacks : v.lacks r.naturalKey = true) (key : PrimaryKey) :
    (v.insertNew key r).Unique := by
  rw [lacks_iff] at hlacks
  intro k k' s s' hs hs' hsn
  rw [records_insertNew, SortedMap.get?_insert] at hs hs'
  split at hs <;> split at hs'
  · next hk hk' => exact hk.symm.trans hk'
  · cases hs
    exact absurd hsn.symm (hlacks s' ⟨k', hs'⟩)
  · cases hs'
    exact absurd hsn (hlacks s ⟨k, hs⟩)
  · exact h k k' s s' hs hs' hsn

/-- **Edits of a database keep natural keys unique.** -/
theorem edit (h : v.Unique) {e : Edit} {cs : List LocalChange}
    (he : v.edit true e = some (cs, w)) : w.Unique := by
  have hremove (key : PrimaryKey) : (v.remove key).2.Unique := by
    unfold Vault.remove
    split
    · exact h
    · exact h.drop key
  cases e with
  | add r =>
    obtain ⟨key, -, -, rfl⟩ := edit_add he
    have hroom : (v.makeRoom true r).2.Unique ∧ (v.makeRoom true r).2.lacks r.naturalKey = true := by
      rw [makeRoom, if_pos rfl, clear]
      cases hfind : v.find? r.naturalKey with
      | none => exact ⟨h, lacks_iff_find?.2 hfind⟩
      | some old =>
        refine ⟨hremove old, lacks_iff.2 ?_⟩
        rintro s ⟨k, hs⟩ hsn
        obtain ⟨t, ht, htn⟩ := find?_eq_some hfind
        simp only [Vault.remove, ht, records_drop, SortedMap.get?_erase] at hs
        split at hs
        · cases hs
        · next hne => exact hne (h old k t s ht hs (htn.trans hsn.symm))
    exact hroom.1.insertNew hroom.2 key
  | update r =>
    simp only [Vault.edit] at he
    split at he <;> cases he
    · exact h
    · next hfind =>
      obtain ⟨old, hold, hn⟩ := find?_eq_some hfind
      exact h.put hold hn
  | updateAt key r =>
    rw [Vault.edit, updateAt_eq] at he
    split at he <;> cases he
    · next hholds =>
      obtain ⟨old, hold, hn⟩ := holds_iff.1 hholds
      exact h.put hold hn
    · exact h
  | remove key =>
    have hw : (v.remove key).2 = w := congrArg Prod.snd (Option.some.inj he)
    exact hw ▸ hremove key

end Unique

/-- Vaults with unique natural keys and the same records have the same record under each key. -/
theorem under?_congr (hv : v.Unique) (hw : w.Unique) (h : ∀ r, v.Has r ↔ w.Has r) (n : NaturalKey) :
    v.under? n = w.under? n :=
  Option.ext fun r => by rw [hv.under?_eq_some, hw.under?_eq_some, h r]

end Vault

/-! ## 2. Natural keys in a merge -/

section Merging

variable {m m' : Merging} {v v' : Vault} {e e' : Entity} {f : Fate} {fs : List (Entity × Fate)}

theorem Indexed.lacks_of_meet_none (hi : Indexed m v) (hmeet : m.meet? v e = none) :
    v.lacks e.record.naturalKey = true :=
  Vault.lacks_iff_find?.2 (Merge.find?_of_meet_none hi hmeet)

/-- **An entity takes a key exactly if no record has its natural key.** -/
theorem Fated.keysLeft (h : Fated m v e f v' m') (hi : Indexed m v) :
    v.lastKey.keysLeft = v'.lastKey.keysLeft + if v.lacks e.record.naturalKey then 1 else 0 := by
  cases h with
  | overwrote hmeet =>
    obtain ⟨-, old, hold, hn⟩ := Merging.meet_mem hmeet
    rw [Vault.lacks_eq_false_iff.2 ⟨old, ⟨_, hold⟩, hn⟩]
    rfl
  | replaced hmeet _ _ hkey | added hmeet _ hkey =>
    rw [hi.lacks_of_meet_none hmeet]
    exact PrimaryKey.keysLeft_of_next? hkey

/-- An entity leaves the records with other client tags alone. -/
theorem Fated.get?_iff (h : Fated m v e f v' m') (hi : Indexed m v) {r : Record}
    (htag : r.specifics.tag ≠ e.specifics.tag) (k : PrimaryKey) :
    v'.records.get? k = some r ↔ v.records.get? k = some r := by
  have hne : e.record ≠ r := fun he => htag (he ▸ e.tag_record)
  cases h with
  | overwrote hmeet =>
    obtain ⟨-, old, hold, hn⟩ := Merging.meet_mem hmeet
    refine SortedMap.get?_insert_iff hne fun hr => htag ?_
    rw [hold] at hr
    cases hr
    exact (Record.tag_eq hn).trans e.tag_record
  | replaced _ hvictim hold hkey =>
    have hfresh := (hi.not_mem_of_next hkey).1
    obtain ⟨s, hs, hstag⟩ := (hi.candidates _ _).1 (Merging.victim_mem hvictim).1
    rw [Vault.records_insertNew, Vault.records_drop, SortedMap.get?_insert_iff hne,
      SortedMap.get?_erase_iff]
    · rintro hr
      rw [hs] at hr
      cases hr
      exact htag hstag
    · simp [hfresh]
  | added _ _ hkey =>
    refine SortedMap.get?_insert_iff hne ?_
    rw [(hi.not_mem_of_next hkey).1]
    nofun

/-- **An entity changes nothing about the natural keys under other client tags.** -/
theorem Fated.lacks (h : Fated m v e f v' m') (hi : Indexed m v)
    (htag : e'.specifics.tag ≠ e.specifics.tag) :
    v'.lacks e'.record.naturalKey = v.lacks e'.record.naturalKey := by
  refine Vault.lacks_congr (exists_congr fun r => and_congr_left fun hn => ?_)
  have hr : r.specifics.tag = e'.specifics.tag := (Record.tag_eq hn).trans e'.tag_record
  exact exists_congr (h.get?_iff hi fun he => htag (hr.symm.trans he))

/-- An entity keeps natural keys unique. -/
theorem Fated.unique (h : Fated m v e f v' m') (hi : Indexed m v) (hv : v.Unique) : v'.Unique := by
  cases h with
  | overwrote hmeet =>
    obtain ⟨-, old, hold, hn⟩ := Merging.meet_mem hmeet
    exact hv.put hold hn
  | @replaced old key r hmeet _ _ hkey =>
    have hlacks : (v.drop old).lacks e.record.naturalKey = true :=
      Vault.lacks_iff_find?.2 (Vault.find?_drop (Merge.find?_of_meet_none hi hmeet) old)
    exact (hv.drop old).insertNew hlacks key
  | @added key hmeet _ hkey => exact hv.insertNew (hi.lacks_of_meet_none hmeet) key

/-- **A merge keeps natural keys unique.** -/
theorem Fates.unique (h : Fates m v fs v' m') (hi : Indexed m v) (hv : v.Unique) : v'.Unique := by
  induction h with
  | nil => exact hv
  | cons hf _ ih => exact ih (hf.indexed hi) (hf.unique hi hv)

end Merging

end CredentialSync
