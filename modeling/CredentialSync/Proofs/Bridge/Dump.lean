import CredentialSync.Bridge.Basic
import CredentialSync.Proofs.Bridge.Batch
import CredentialSync.Proofs.Key
import CredentialSync.Proofs.Store.Rows

/-!
# What a dump shows

A dump goes over all records at once, while the entities under storage keys are read one by one.
Both go over the rows that the store shows (`Store.rows`), and `dump_eq` and `data_of_rows` give what they
make of them.

The tag, the name and the times of an entity are taken from other fields than the password
(`Entity.ofRecord_withPassword`). So a dump says the same about all stores that differ in passwords
only, and is what the bridge hands out with the placeholder in place of each secret (`dump_veils`).
-/

namespace CredentialSync

open Attempt

/-! ## 1. Passwords -/

/-- The row with another password. -/
def Row.withPassword (row : Row) (password : String) : Row :=
  { row with passwordValue := password }

/-- The entity with another password; nothing else changes. -/
def Entity.withPassword (e : Entity) (password : String) : Entity :=
  { e with specifics := { e.specifics with passwordValue := password } }

/-- **Nothing but the password of an entity is taken from the password of its record.** -/
theorem Entity.ofRecord_withPassword (r : Record) (password : String) :
    Entity.ofRecord (r.withPassword password) = (Entity.ofRecord r).withPassword password := rfl

/-- Whether a row can be read does not depend on its password. -/
theorem Row.read_withPassword (row : Row) (password : String) :
    (row.withPassword password).read = row.read.map (·.withPassword password) := by
  have hwide : (row.withPassword password).wideScheme = row.wideScheme := rfl
  unfold Row.read
  rw [hwide]
  cases row.wideScheme <;> rfl

/-- Passwords that are replaced after reading may as well be replaced before. -/
theorem Row.readAll_withPassword (password : String) (rows : List (PrimaryKey × Row)) :
    readAll (rows.map fun x => (x.1, x.2.withPassword password)) =
      (readAll rows).map (List.map fun x => (x.1, x.2.withPassword password)) := by
  induction rows with
  | nil => rfl
  | cons x rows ih =>
    obtain ⟨key, row⟩ := x
    rw [List.map_cons, readAll, ih, read_withPassword, readAll]
    cases row.read with
    | error e => rfl
    | ok r => cases readAll rows <;> rfl

/-- Both stores show the same rows under the same keys, but for the passwords, or both show none, for
the same reason. -/
def Store.AlikeButPasswords (s s' : Store) : Prop :=
  s.rows.map (·.mapValues (·.withPassword "")) = s'.rows.map (·.mapValues (·.withPassword ""))

namespace Device

variable {π π' : Type}

/-! ## 2. Dumps -/

/-- What stands for a secret in a dump. -/
def placeholder (d : Device π) : String := (d.bridge.map (·.placeholder)).getD ""

/-- What a dump makes of the records. -/
def dumped (placeholder : String) (rs : List (PrimaryKey × Record)) : List (StorageKey × Entity) :=
  rs.map fun x => (x.1.storageKey, Entity.ofRecord (x.2.withPassword placeholder))

/-- A dump has the entities of the records, with the placeholder as their passwords. -/
theorem dumped_eq (placeholder : String) (rs : List (PrimaryKey × Record)) :
    dumped placeholder rs = (rs.map fun x => (x.1.storageKey, Entity.ofRecord x.2)).map
      fun x => (x.1, x.2.withPassword placeholder) := by
  unfold dumped
  rw [List.map_map]
  exact List.map_congr_left fun x _ => by rw [Entity.ofRecord_withPassword]; rfl

/-- A password that is replaced in a dump may as well be replaced before. -/
theorem dumped_withPassword (placeholder password : String) (rs : List (PrimaryKey × Record)) :
    dumped placeholder (rs.map fun x => (x.1, x.2.withPassword password)) = dumped placeholder rs := by
  unfold dumped
  rw [List.map_map]
  rfl

theorem dump_eq (d : Device π) :
    (dump.perform d).1 =
      (d.store.rows.bind fun rows => Row.readAll rows.toList).map (dumped d.placeholder) := by
  rw [← Store.readAll_rows, dump, bind_of_ok (perform_get d), perform_bind, onStore_perform]
  cases (Store.readAll.perform d.store).1 <;> rfl

/-- A dump depends on the rows but for their passwords. -/
theorem dump_of_veiled (d : Device π) :
    (dump.perform d).1 =
      ((d.store.rows.map (·.mapValues (·.withPassword ""))).bind fun rows =>
        Row.readAll rows.toList).map (dumped d.placeholder) := by
  rw [dump_eq]
  cases d.store.rows with
  | error e => rfl
  | ok rows =>
    have hveiled : Row.readAll (rows.mapValues (·.withPassword "")).toList =
        (Row.readAll rows.toList).map (List.map fun x => (x.1, x.2.withPassword "")) :=
      Row.readAll_withPassword "" rows.toList
    simp only [Except.map, Except.bind, hveiled]
    cases Row.readAll rows.toList with
    | error e => rfl
    | ok rs => simp only [dumped_withPassword]

/-- The entities under the storage keys of rows that the store shows. -/
theorem data_of_rows (d : Device π) {m : SortedMap PrimaryKey Row} (hm : d.store.rows = .ok m)
    {rows : List (PrimaryKey × Row)} (hrows : ∀ x ∈ rows, x ∈ m.toList ∧ 0 < x.1) :
    (data (rows.map (·.1.storageKey))).perform d =
      ((Row.readAll rows).map (List.map fun x => (x.1.storageKey, Entity.ofRecord x.2)), d) := by
  induction rows with
  | nil => rfl
  | cons x rows ih =>
    obtain ⟨key, row⟩ := x
    obtain ⟨hmem, hpos⟩ := hrows (key, row) List.mem_cons_self
    have hkey : StorageKey.primaryKey key.storageKey = .ok key := by
      rw [StorageKey.primaryKey, PrimaryKey.primaryKey?_storageKey.2 hpos]
    have hrest := ih fun y hy => hrows y (List.mem_cons_of_mem _ hy)
    rw [List.map_cons, data, hkey, bind_of_ok (perform_ofExcept _ d), perform_bind, onStore_perform,
      Store.record?_rows hm (SortedMap.mem_toList_iff.1 hmem), Row.readAll]
    cases row.read with
    | error e => rfl
    | ok r =>
      have hd : d.withStore d.store = d := rfl
      simp only [Except.map, hd, perform_bind, hrest]
      cases Row.readAll rows <;> rfl

/-- **The debug dump shows no password, and else what the bridge hands out.** -/
theorem dump_veils (d : Device π) :
    (∀ d' : Device π', d'.placeholder = d.placeholder → d.store.AlikeButPasswords d'.store →
      (dump.perform d').1 = (dump.perform d).1) ∧
    ∀ rows, d.store.rows = .ok rows → (∀ key ∈ rows.keys, 0 < key) →
      (dump.perform d).1 =
        ((data (rows.keys.map PrimaryKey.storageKey)).perform d).1.map
          (List.map fun x => (x.1, x.2.withPassword d.placeholder)) := by
  refine ⟨fun d' hplaceholder halike => ?_, fun rows hrows hpos => ?_⟩
  · rw [dump_of_veiled, dump_of_veiled, hplaceholder, show _ = _ from halike]
  · have hall : ∀ x ∈ rows.toList, x ∈ rows.toList ∧ 0 < x.1 := fun x hx =>
      ⟨hx, hpos x.1 (List.mem_map_of_mem hx)⟩
    have hkeys : rows.keys.map PrimaryKey.storageKey = rows.toList.map (·.1.storageKey) :=
      List.map_map
    rw [dump_eq, hrows, hkeys, data_of_rows d hrows hall]
    simp only [Except.bind]
    cases Row.readAll rows.toList with
    | error e => rfl
    | ok rs => simp only [Except.map, dumped_eq]

/-- A device with one record, whose password is not to be seen. -/
def guarding (password : String) : Device Recorder where
  store := .table (Table.seed 7 ((Record.sample "abc").withPassword password) {})
  processor := {}
  notifier := .ofCapacity 1
  bridge := some { relay := 0, placeholder := "hidden" }

theorem dump_veils_guarding :
    ∃ rows, (guarding "one").store.AlikeButPasswords (guarding "other").store ∧
      (guarding "one").store.rows = .ok rows ∧ rows.keys = [7] ∧
      (dump.perform (guarding "other")).1 = (dump.perform (guarding "one")).1 ∧
      (dump.perform (guarding "one")).1 =
        ((data (rows.keys.map PrimaryKey.storageKey)).perform (guarding "one")).1.map
          (List.map fun x => (x.1, x.2.withPassword "hidden")) := by
  have halike : (guarding "one").store.AlikeButPasswords (guarding "other").store := rfl
  obtain ⟨hveils, hagrees⟩ := @dump_veils Recorder Recorder (guarding "one")
  refine ⟨_, halike, rfl, rfl, hveils (guarding "other") rfl halike, hagrees _ rfl ?_⟩
  intro key hkey
  obtain rfl : key = 7 := List.mem_singleton.1 hkey
  decide

end Device

end CredentialSync
