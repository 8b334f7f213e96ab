import CredentialSync.Proofs.CommandLine.Writes
import CredentialSync.Proofs.Store.Identity

/-!
# Commands as steps of a credential map

What the commands are meant to do to the records is said by `Command.outcome`, without batches, relays
and transactions: an addition puts a record under the next key in place of the one with its natural key,
an update overwrites the password of a record, a removal erases a record; the last two fail if there is
no such record.

A process does just that (`Device.Engaged.perform_spec`). If the store of its device carries some
records and the memos of them, it carries the records that the command makes of them, and the memos of
those; the command has lines to print exactly if it has an outcome, and otherwise leaves the records as
they were.
-/

namespace CredentialSync

open Attempt CommandLine

/-! ## 1. The credential map -/

/-- The vault without the record that has a natural key. -/
def Vault.forget (v : Vault) (n : NaturalKey) : Vault :=
  match v.find? n with
  | none => v
  | some old => v.drop old

namespace CommandLine

/-- The record that an addition makes. -/
def CredentialArguments.record (c : CredentialArguments) (password : String) : Record :=
  (Record.ofNaturalKey c.naturalKey).withPassword password

/-- Whether the command changes records. -/
def Command.isChange : Command → Bool
  | .add _ _ | .update _ _ | .remove _ => true
  | .list _ | .tag _ | .dump | .status => false

/-- What a command makes of the records, if it succeeds. -/
def Command.outcome (v : Vault) : Command → Option Vault
  | .add c password =>
    (PrimaryKey.next? v.lastKey).map fun key =>
      { records := (v.forget c.naturalKey).records.insert key (c.record password), lastKey := key }
  | .update c password =>
    (v.find? c.naturalKey).bind fun key =>
      (v.records.get? key).map fun r => v.put key (r.withPassword password)
  | .remove key => (v.records.get? key).map fun _ => v.drop key
  | .list _ | .tag _ | .dump | .status => some v

/-- The records behind a command: a command without an outcome changes nothing. -/
def Command.step (v : Vault) (c : Command) : Vault := (c.outcome v).getD v

/-- The records behind some commands, beginning with none. -/
def Command.fold (cs : List Command) : Vault := cs.foldl Command.step {}

end CommandLine

namespace Vault

variable {v : Vault}

@[simp] theorem lastKey_forget (n : NaturalKey) : (v.forget n).lastKey = v.lastKey := by
  unfold forget
  split <;> rfl

theorem clear_eq_forget (n : NaturalKey) : (v.clear n).2 = v.forget n := by
  unfold clear forget
  cases hfind : v.find? n with
  | none => rfl
  | some key =>
    obtain ⟨r, hr, -⟩ := find?_eq_some hfind
    simp only [remove, hr]

/-- An addition does to the vault what the command is meant to do. -/
theorem edit_addition (c : CredentialArguments) (password : String) :
    (v.edit true (.add (c.record password))).map Prod.snd =
      (Command.add c password).outcome v := by
  have hroom : (v.makeRoom true (c.record password)).2 = v.forget c.naturalKey :=
    clear_eq_forget c.naturalKey
  simp only [edit, add, hroom, lastKey_forget, Option.map_map, Command.outcome]
  rfl

theorem find?_forget (h : v.Identified) (n : NaturalKey) : (v.forget n).find? n = none := by
  unfold forget
  cases hfind : v.find? n with
  | none => exact hfind
  | some old => exact h.find?_drop hfind

theorem Identified.forget (h : v.Identified) (n : NaturalKey) : (v.forget n).Identified := by
  unfold Vault.forget
  split
  · exact h
  · exact h.drop _

end Vault

namespace CommandLine.Command

variable {v : Vault}

/-- Commands leave both kinds of keys naming one record. -/
theorem identified_step (h : v.Identified) (c : Command) : (c.step v).Identified := by
  unfold step
  cases hstep : c.outcome v with
  | none => exact h
  | some w =>
    show w.Identified
    cases c with
    | add c password =>
      obtain ⟨key, hnext, hw⟩ := Option.map_eq_some_iff.1 hstep
      have hadd : (v.forget c.naturalKey).add (c.record password) =
          some ([⟨.add, key, c.record password⟩], w) := by
        rw [Vault.add, Vault.lastKey_forget, hnext, ← hw]
        rfl
      exact (h.forget c.naturalKey).add (r := c.record password)
        (Vault.find?_forget h c.naturalKey) hadd
    | update c password =>
      obtain ⟨key, -, hput⟩ := Option.bind_eq_some_iff.1 hstep
      obtain ⟨r, hr, rfl⟩ := Option.map_eq_some_iff.1 hput
      exact h.put hr rfl
    | remove key =>
      obtain ⟨-, -, rfl⟩ := Option.map_eq_some_iff.1 hstep
      exact h.drop key
    | list | tag | dump | status => exact Option.some.inj hstep ▸ h

theorem identified_foldl (h : v.Identified) (cs : List Command) :
    (cs.foldl step v).Identified := by
  induction cs generalizing v with
  | nil => exact h
  | cons c cs ih => exact ih (identified_step h c)

/-- A command gives out one key at most. -/
theorem lastKey_step (v : Vault) (c : Command) : (c.step v).lastKey.toInt ≤ v.lastKey.toInt + 1 := by
  unfold step
  cases hstep : c.outcome v with
  | none => exact Int.le_add_one (Int.le_refl _)
  | some w =>
    show w.lastKey.toInt ≤ _
    cases c with
    | add c password =>
      obtain ⟨key, hnext, rfl⟩ := Option.map_eq_some_iff.1 hstep
      exact Int.le_of_eq (PrimaryKey.toInt_of_next? hnext)
    | update c password =>
      obtain ⟨key, -, hput⟩ := Option.bind_eq_some_iff.1 hstep
      obtain ⟨r, -, rfl⟩ := Option.map_eq_some_iff.1 hput
      exact Int.le_add_one (Int.le_refl _)
    | remove key =>
      obtain ⟨-, -, rfl⟩ := Option.map_eq_some_iff.1 hstep
      exact Int.le_add_one (Int.le_refl _)
    | list | tag | dump | status =>
      obtain rfl := Option.some.inj hstep
      exact Int.le_add_one (Int.le_refl _)

theorem lastKey_foldl (v : Vault) (cs : List Command) :
    (cs.foldl step v).lastKey.toInt ≤ v.lastKey.toInt + cs.length := by
  induction cs generalizing v with
  | nil => simp
  | cons c cs ih =>
    have hstep := lastKey_step v c
    have hrest := ih (c.step v)
    rw [List.foldl_cons, List.length_cons]
    omega

/-- **An addition succeeds until all keys have been given out.** -/
theorem add_isSome (c : CredentialArguments) (password : String)
    (h : v.lastKey.toInt < PrimaryKey.greatest.toInt) :
    ((Command.add c password).outcome v).isSome = true := by
  have hnext := PrimaryKey.next?_eq_some.2 ⟨Int64.lt_iff_toInt_lt.2 h, rfl⟩
  rw [outcome, hnext]
  rfl

end CommandLine.Command

/-! ## 2. Stores that carry records and memos -/

/-- The store is a database of the current schema with these records, and with this metadata, which
    consists of the memos of the records. -/
structure Store.Carries (v : Vault) (b : MetadataBatch) (s : Store) : Prop where
  shows : s.Shows { page := ⟨v, b⟩ }
  current : s.Notes (some Migration.versions)
  memos : b.MemosOf v

namespace Store.Carries

variable {v : Vault} {b : MetadataBatch} {s : Store}

theorem replaces (h : s.Carries v b) : s.replaces = true := by
  cases s with
  | table t => exact h.current.elim
  | database d => rfl

theorem readAll (h : s.Carries v b) : Store.readAll.perform s = (.ok v.records, s) := by
  rw [h.shows.able.readAll, h.shows.vault_eq]

theorem record? (h : s.Carries v b) (key : PrimaryKey) :
    (Store.record? key).perform s = (.ok (v.records.get? key), s) := by
  rw [h.shows.able.record?, h.shows.vault_eq]

theorem find? (h : s.Carries v b) (n : NaturalKey) :
    (Store.find? n).perform s = (.ok (v.find? n), s) := by
  rw [h.shows.able.find?, h.shows.vault_eq]

theorem readMetadata (h : s.Carries v b) : Store.readMetadata.perform s = (.ok b, s) :=
  h.shows.readMetadata

theorem count (h : s.Carries v b) : Store.count.perform s = (.ok v.records.size, s) := by
  cases s with
  | table t => exact h.current.elim
  | database d =>
    obtain ⟨t, ht, -⟩ := h.shows.able.legible
    have hcount : Database.count.perform d = (.ok t.rows.size, d) := by
      rw [Database.count, bind_of_ok (Database.perform_recordTable ht)]
      rfl
    have hvault : d.vault = v := h.shows.vault_eq
    have hsize : v.records.size = t.rows.size := by
      rw [← hvault, Database.vault_of_records ht]
      exact List.length_map _
    simp [Store.count, either, hcount, hsize]

end Store.Carries

/-! ## 3. Commands on a device -/

namespace Device.Engaged

variable {d : Device Forwarder} {v v' : Vault} {b : MetadataBatch}

/-- **A change with a result** is committed. -/
theorem single_carries (h : d.Engaged) (hs : d.store.Carries v b) {e : Edit}
    {cs : List LocalChange} (hedit : v.edit true e = some (cs, v')) :
    ∃ d' b', d.write (single e) = (.committed () cs, d') ∧ d'.store.Carries v' b' := by
  rw [← hs.replaces] at hedit
  obtain ⟨d', hwrite, hshows⟩ := h.single_shows hs.shows hedit
  have hcurrent := notes_write hs.current (single e)
  rw [hwrite] at hcurrent
  exact ⟨d', _, hwrite, hshows, hcurrent, hs.memos.steps (Vault.steps_of_edit hedit)⟩

/-- **A change without a result** is undone. -/
theorem single_undone (hs : d.store.Carries v b) {e : Edit} (hedit : v.edit true e = none) :
    ∃ cause d', d.write (single e) = (.abandoned () cause, d') ∧ d'.store.Carries v b := by
  rw [← hs.replaces] at hedit
  obtain ⟨cause, d', hwrite, hshows⟩ := single_fails hs.shows hedit
  have hcurrent := notes_write hs.current (single e)
  rw [hwrite] at hcurrent
  exact ⟨cause, d', hwrite, hshows, hcurrent, hs.memos⟩

end Device.Engaged

/-- The command came to this end: it has lines to print if it has an outcome, and leaves the records
    that it is meant to leave. -/
structure CommandLine.Ending.Carries (v : Vault) (c : Command) (x : Ending) : Prop where
  result : x.result.toOption.isSome = (c.outcome v).isSome
  store : ∃ b, x.device.store.Carries (c.step v) b

namespace Device.Engaged

variable {d : Device Forwarder} {v v' : Vault} {b : MetadataBatch}

/-- **A change does what a command is meant to do** if the edit of the vault does it, and if there are
    lines to print about the edit just when the command has an outcome. -/
theorem change_carries (h : d.Engaged) (hs : d.store.Carries v b) {e : Edit} {c : Command}
    {lines : List LocalChange → Except Failure (List String)}
    (hnone : v.edit true e = none → c.outcome v = none)
    (hsome : ∀ cs v', v.edit true e = some (cs, v') →
      (lines cs).toOption.isSome = (c.outcome v).isSome ∧ c.step v = v') :
    (change e lines d).Carries v c := by
  unfold change
  cases hedit : v.edit true e with
  | none =>
    obtain ⟨cause, d', hwrite, hcarries⟩ := single_undone hs hedit
    rw [hwrite]
    exact ⟨by rw [hnone hedit]; rfl, b, by rw [Command.step, hnone hedit]; exact hcarries⟩
  | some x =>
    obtain ⟨d', b', hwrite, hcarries⟩ := h.single_carries hs hedit
    obtain ⟨hlines, hstep⟩ := hsome _ _ hedit
    rw [hwrite]
    exact ⟨hlines, b', hstep ▸ hcarries⟩

theorem perform_add (h : d.Engaged) (hs : d.store.Carries v b) (c : CredentialArguments)
    (password : String) :
    (perform (.add c password) d).Carries v (.add c password) := by
  have houtcome := Vault.edit_addition (v := v) c password
  refine h.change_carries (e := .add (c.record password)) hs (fun hedit => ?_) fun cs v' hedit => ?_
  · rw [← houtcome, hedit]
    rfl
  · rw [hedit] at houtcome
    rw [Command.step, ← houtcome]
    exact ⟨rfl, rfl⟩

theorem perform_update (h : d.Engaged) (hs : d.store.Carries v b) (c : CredentialArguments)
    (password : String) :
    (perform (.update c password) d).Carries v (.update c password) := by
  have hlocated : (onStore (located c.naturalKey)).perform d =
      (.ok ((v.find? c.naturalKey).map fun key => (key, v.records.get? key)), d) := by
    refine perform_onStore (s := d.store) ?_
    unfold located
    rw [bind_of_ok (hs.find? c.naturalKey)]
    cases v.find? c.naturalKey with
    | none => rfl
    | some key => exact bind_of_ok (hs.record? key)
  unfold CommandLine.perform
  simp only [hlocated]
  cases hfind : v.find? c.naturalKey with
  | none =>
    have houtcome : (Command.update c password).outcome v = none := by
      rw [Command.outcome, hfind]; rfl
    exact ⟨by rw [houtcome]; rfl, b, by rw [Command.step, houtcome]; exact hs⟩
  | some key =>
    obtain ⟨r, hr, hn⟩ := Vault.find?_eq_some hfind
    have houtcome : (Command.update c password).outcome v =
        some (v.put key (r.withPassword password)) := by
      rw [Command.outcome, hfind, Option.bind_some, hr]; rfl
    have hupdate : v.edit true (.update (r.withPassword password)) =
        some ([⟨.update, key, r.withPassword password⟩], v.put key (r.withPassword password)) := by
      have hsame : (r.withPassword password).naturalKey = c.naturalKey := hn
      simp only [Vault.edit, hsame, hfind]
    simp only [hr, Option.map_some]
    refine h.change_carries hs (fun hedit => ?_) fun cs v' hedit => ?_ <;> rw [hupdate] at hedit <;>
      cases hedit
    rw [Command.step, houtcome]
    exact ⟨rfl, rfl⟩

theorem perform_remove (h : d.Engaged) (hs : d.store.Carries v b) (key : PrimaryKey) :
    (perform (.remove key) d).Carries v (.remove key) := by
  have hremove : v.edit true (.remove key) = some (v.remove key) := rfl
  refine h.change_carries (e := .remove key) hs (fun hedit => ?_) fun cs v' hedit => ?_
  · rw [hremove] at hedit
    cases hedit
  · rw [hremove, Vault.remove] at hedit
    rw [Command.step, Command.outcome]
    cases hr : v.records.get? key <;> rw [hr] at hedit <;> cases hedit <;> exact ⟨rfl, rfl⟩

/-- **A command that changes records does what it is meant to do.** -/
theorem perform_spec (h : d.Engaged) (hs : d.store.Carries v b) {c : Command}
    (hc : c.isChange = true) : (perform c d).Carries v c := by
  cases c with
  | add c password => exact h.perform_add hs c password
  | update c password => exact h.perform_update hs c password
  | remove key => exact h.perform_remove hs key
  | list | tag | dump | status => cases hc

end Device.Engaged

/-- **The state of synchronisation** is printed from the records, from the metadata, and from what the
    processor was handed. -/
theorem Store.Carries.perform_status {d : Device Forwarder} {v : Vault} {b : MetadataBatch}
    (h : d.store.Carries v b) :
    (perform .status d).result =
      .ok (statusLines v.records.size b (d.processor.loaded.getD {})) := by
  have hmetadata : (Device.onStore Store.readMetadata).perform d = (.ok b, d) :=
    Device.perform_onStore h.readMetadata
  have hcount : (Device.onStore Store.count).perform d = (.ok v.records.size, d) :=
    Device.perform_onStore h.count
  unfold CommandLine.perform ask
  rw [bind_of_ok hmetadata, bind_of_ok hcount]
  rfl

end CredentialSync
