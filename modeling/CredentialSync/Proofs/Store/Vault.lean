import CredentialSync.Bridge.Write
import CredentialSync.Proofs.SortedMap

/-!
# Vaults

A `Vault` is what the edits of a record store work on: the records under their primary keys, and the
greatest key given out so far. `Vault.edit` says what each edit does; the two stores differ only in
whether an addition replaces a record with the same natural key.

* `Vault.Step` reads one reported change as a step from vault to vault: an addition takes a key
  above all keys given out, an update and a removal name a resident record. `Vault.Steps` is a list
  of them.
* `steps_of_edit`: what an edit reports leads from the vault before it to the vault behind it.
* `Vault.Sound` says that no resident key lies above the greatest key given out. Every step keeps
  it (`Vault.Steps.sound`).
-/

namespace CredentialSync

/-- The records of a store and the greatest key it has given out. -/
structure Vault where
  records : SortedMap PrimaryKey Record := {}
  lastKey : PrimaryKey := 0

namespace PrimaryKey

theorem toInt_succ {last : PrimaryKey} (h : last < greatest) : (last + 1).toInt = last.toInt + 1 := by
  have hmax : greatest.toInt = 2 ^ 63 - 1 := by decide
  have hlow := Int64.le_toInt last
  rw [Int64.lt_iff_toInt_lt] at h
  rw [Int64.toInt_add, Int.bmod_eq_of_le (by simp; omega) (by simp; omega)]
  rfl

theorem next?_eq_some {last key : PrimaryKey} :
    next? last = some key ↔ last < greatest ∧ last + 1 = key := by
  unfold next?
  split
  · next h => simp [h]
  · next h => simp [h]

/-- The next key is greater by one. -/
theorem toInt_of_next? {last key : PrimaryKey} (h : next? last = some key) :
    key.toInt = last.toInt + 1 := by
  obtain ⟨hlt, rfl⟩ := next?_eq_some.1 h
  exact toInt_succ hlt

theorem lt_of_next? {last key : PrimaryKey} (h : next? last = some key) : last < key := by
  rw [Int64.lt_iff_toInt_lt, toInt_of_next? h]
  exact Int.lt_add_one_of_le (Int.le_refl _)

end PrimaryKey

namespace Vault

/-! ## 1. Edits -/

/-- The least key of a record with a natural key. -/
def find? (v : Vault) (key : NaturalKey) : Option PrimaryKey :=
  v.records.findKey? fun r => r.naturalKey == key

/-- The vault with a record set under a key. -/
def put (v : Vault) (key : PrimaryKey) (r : Record) : Vault :=
  { v with records := v.records.insert key r }

/-- The vault without a key. -/
def drop (v : Vault) (key : PrimaryKey) : Vault := { v with records := v.records.erase key }

/-- Removes the record under a key, and reports it. -/
def remove (v : Vault) (key : PrimaryKey) : List LocalChange × Vault :=
  match v.records.get? key with
  | none => ([], v)
  | some old => ([⟨.remove, key, old⟩], v.drop key)

/-- Removes the record with a natural key, and reports it. -/
def clear (v : Vault) (key : NaturalKey) : List LocalChange × Vault :=
  match v.find? key with
  | none => ([], v)
  | some old => v.remove old

/-- Adds a record under a fresh key, unless all keys have been given out. -/
def add (v : Vault) (r : Record) : Option (List LocalChange × Vault) :=
  (PrimaryKey.next? v.lastKey).map fun key =>
    ([⟨.add, key, r⟩], { records := v.records.insert key r, lastKey := key })

/-- Overwrites the record under a key if it has the same natural key. -/
def updateAt (v : Vault) (key : PrimaryKey) (r : Record) : List LocalChange × Vault :=
  match v.records.get? key with
  | none => ([], v)
  | some old => if old.sameNaturalKey r then ([⟨.update, key, r⟩], v.put key r) else ([], v)

/-- Makes room for a record: with `replacing`, the record with the same natural key is removed. -/
def makeRoom (replacing : Bool) (v : Vault) (r : Record) : List LocalChange × Vault :=
  if replacing then v.clear r.naturalKey else ([], v)

/-- What an edit reports and leaves. -/
def edit (replacing : Bool) (v : Vault) : Edit → Option (List LocalChange × Vault)
  | .add r =>
    ((v.makeRoom replacing r).2.add r).map fun (added, v') =>
      ((v.makeRoom replacing r).1 ++ added, v')
  | .update r =>
    match v.find? r.naturalKey with
    | none => some ([], v)
    | some key => some ([⟨.update, key, r⟩], v.put key r)
  | .updateAt key r => some (v.updateAt key r)
  | .remove key => some (v.remove key)

@[simp] theorem records_put (v : Vault) (key : PrimaryKey) (r : Record) :
    (v.put key r).records = v.records.insert key r := rfl

@[simp] theorem lastKey_put (v : Vault) (key : PrimaryKey) (r : Record) :
    (v.put key r).lastKey = v.lastKey := rfl

@[simp] theorem records_drop (v : Vault) (key : PrimaryKey) :
    (v.drop key).records = v.records.erase key := rfl

@[simp] theorem lastKey_drop (v : Vault) (key : PrimaryKey) : (v.drop key).lastKey = v.lastKey := rfl

theorem find?_eq_some {v : Vault} {nk : NaturalKey} {key : PrimaryKey} (h : v.find? nk = some key) :
    ∃ r, v.records.get? key = some r ∧ r.naturalKey = nk := by
  obtain ⟨r, hr, hnk⟩ := SortedMap.findKey?_eq_some h
  exact ⟨r, hr, by simpa using hnk⟩

theorem find?_eq_none {v : Vault} {nk : NaturalKey} :
    v.find? nk = none ↔ ∀ key r, v.records.get? key = some r → r.naturalKey ≠ nk := by
  simp [find?, SortedMap.findKey?_eq_none]

/-- What makes room is removed. -/
theorem kind_of_makeRoom {replacing : Bool} {v : Vault} {r : Record} :
    ∀ c ∈ (v.makeRoom replacing r).1, c.kind = .remove := by
  unfold makeRoom clear remove
  intro c hc
  split at hc
  · split at hc
    · cases hc
    · split at hc
      · cases hc
      · rw [List.mem_singleton.1 hc]
  · cases hc

/-! ## 2. Reported changes as steps -/

/-- One reported change, from the vault before it to the vault behind it. -/
inductive Step : Vault → LocalChange → Vault → Prop where
  | add (v : Vault) (key : PrimaryKey) (r : Record) (h : v.lastKey < key) :
      Step v ⟨.add, key, r⟩ { records := v.records.insert key r, lastKey := key }
  | update (v : Vault) (key : PrimaryKey) (old r : Record) (h : v.records.get? key = some old)
      (hn : old.naturalKey = r.naturalKey) : Step v ⟨.update, key, r⟩ (v.put key r)
  | remove (v : Vault) (key : PrimaryKey) (old : Record) (h : v.records.get? key = some old) :
      Step v ⟨.remove, key, old⟩ (v.drop key)

/-- Reported changes in order. -/
inductive Steps : Vault → List LocalChange → Vault → Prop where
  | nil (v : Vault) : Steps v [] v
  | cons {v v' v'' : Vault} {c : LocalChange} {cs : List LocalChange} (h : Step v c v')
      (hs : Steps v' cs v'') : Steps v (c :: cs) v''

theorem Steps.single {v v' : Vault} {c : LocalChange} (h : Step v c v') : Steps v [c] v' :=
  .cons h (.nil v')

theorem Steps.append {v v' v'' : Vault} {cs ds : List LocalChange} (h : Steps v cs v')
    (h' : Steps v' ds v'') : Steps v (cs ++ ds) v'' := by
  induction h with
  | nil => exact h'
  | cons hc _ ih => exact .cons hc (ih h')

theorem steps_remove (v : Vault) (key : PrimaryKey) : Steps v (v.remove key).1 (v.remove key).2 := by
  unfold remove
  split
  · exact .nil v
  · next old h => exact .single (.remove v key old h)

theorem steps_clear (v : Vault) (nk : NaturalKey) : Steps v (v.clear nk).1 (v.clear nk).2 := by
  unfold clear
  split
  · exact .nil v
  · exact steps_remove v _

theorem steps_makeRoom (replacing : Bool) (v : Vault) (r : Record) :
    Steps v (v.makeRoom replacing r).1 (v.makeRoom replacing r).2 := by
  unfold makeRoom
  split
  · exact steps_clear v _
  · exact .nil v

theorem steps_updateAt (v : Vault) (key : PrimaryKey) (r : Record) :
    Steps v (v.updateAt key r).1 (v.updateAt key r).2 := by
  unfold updateAt
  split
  · exact .nil v
  · next old h =>
    split
    · next hn => exact .single (.update v key old r h (by simpa [Record.sameNaturalKey] using hn))
    · exact .nil v

theorem steps_add {v v' : Vault} {r : Record} {cs : List LocalChange} (h : v.add r = some (cs, v')) :
    Steps v cs v' := by
  obtain ⟨key, hkey, he⟩ := Option.map_eq_some_iff.1 h
  cases he
  exact .single (.add v key r (PrimaryKey.lt_of_next? hkey))

/-- **What an edit reports leads from the vault before it to the vault behind it.** -/
theorem steps_of_edit {replacing : Bool} {v v' : Vault} {e : Edit} {cs : List LocalChange}
    (h : v.edit replacing e = some (cs, v')) : Steps v cs v' := by
  cases e with
  | add r =>
    obtain ⟨⟨added, w⟩, hadd, he⟩ := Option.map_eq_some_iff.1 h
    cases he
    exact (steps_makeRoom replacing v r).append (steps_add hadd)
  | update r =>
    simp only [edit] at h
    split at h
    · cases h
      exact .nil v
    · next key hfind =>
      cases h
      obtain ⟨old, hold, hn⟩ := find?_eq_some hfind
      exact .single (.update v key old r hold hn)
  | updateAt key r =>
    have hs := steps_updateAt v key r
    rw [Option.some.inj h] at hs
    exact hs
  | remove key =>
    have hs := steps_remove v key
    rw [Option.some.inj h] at hs
    exact hs

/-! ## 3. Soundness -/

/-- No resident key lies above the greatest key given out. -/
def Sound (v : Vault) : Prop := ∀ key r, v.records.get? key = some r → key ≤ v.lastKey

theorem sound_empty : Sound {} := fun key r h => by simp at h

/-- A key above all keys given out is fresh. -/
theorem Sound.fresh {v : Vault} (hv : v.Sound) {key : PrimaryKey} (h : v.lastKey < key) :
    v.records.get? key = none := by
  cases hr : v.records.get? key with
  | none => rfl
  | some r => exact absurd (Int64.lt_of_lt_of_le h (hv key r hr)) (Int64.lt_irrefl)

theorem Step.sound {v v' : Vault} {c : LocalChange} (h : Step v c v') (hv : v.Sound) : v'.Sound := by
  intro k r hr
  cases h with
  | add key _ hlt =>
    simp only [SortedMap.get?_insert] at hr
    split at hr
    · next e => exact e ▸ Int64.le_refl _
    · exact Int64.le_of_lt (Int64.lt_of_le_of_lt (hv k r hr) hlt)
  | update key old _ hold _ =>
    simp only [records_put, SortedMap.get?_insert] at hr
    split at hr
    · next e => exact hv k old (e ▸ hold)
    · exact hv k r hr
  | remove key old hold =>
    simp only [records_drop, SortedMap.get?_erase] at hr
    split at hr
    · cases hr
    · exact hv k r hr

theorem Steps.sound {v v' : Vault} {cs : List LocalChange} (h : Steps v cs v') (hv : v.Sound) :
    v'.Sound := by
  induction h with
  | nil => exact hv
  | cons hc _ ih => exact ih (hc.sound hv)

theorem Step.lastKey_le {v v' : Vault} {c : LocalChange} (h : Step v c v') :
    v.lastKey ≤ v'.lastKey := by
  cases h with
  | add key r hlt => exact Int64.le_of_lt hlt
  | update => exact Int64.le_refl _
  | remove => exact Int64.le_refl _

theorem Steps.lastKey_le {v v' : Vault} {cs : List LocalChange} (h : Steps v cs v') :
    v.lastKey ≤ v'.lastKey := by
  induction h with
  | nil => exact Int64.le_refl _
  | cons hc _ ih => exact Int64.le_trans hc.lastKey_le ih

end Vault

end CredentialSync
