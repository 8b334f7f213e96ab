import CredentialSync.Proofs.Apply.Additions
import CredentialSync.Proofs.Bridge.Ready
import CredentialSync.Proofs.Exchange.Convergence

/-!
# Applications against a reference

What an application of remote changes is to do can be said without stores and transactions: `Reference`
takes a list of changes through the records under their keys and the greatest key given out, and notes
which entities become new records. The first change that cannot be carried out ends it.

On an able device an application gives what the reference gives (`Device.Able.apply_eq_reference`): its
counts and records if it comes through, and its error, with nothing changed, if not. In both cases the
processor is told the storage key of each new record, in order, and nothing else.
-/

namespace CredentialSync

open Attempt Work

/-! ## 1. The reference -/

/-- Why there is no key for a new record: a database is full, the counter of a table has run over. -/
def noKeyLeft (replacing : Bool) : SyncError :=
  if replacing then DatabaseFault.full.store else .overflow

namespace Reference

/-- What becomes of the records, and which entities become new records under which keys; or why not. -/
abbrev Outcome := Except SyncError (List (PrimaryKey × Entity) × Vault)

/-- An entity becomes a new record under the next key; with `replacing`, the record with its natural key
    makes room before. -/
def place (replacing : Bool) (v : Vault) (e : Entity) : Outcome :=
  match PrimaryKey.next? v.lastKey with
  | none => .error (noKeyLeft replacing)
  | some key => .ok ([(key, e)], (v.makeRoom replacing e.record).2.insertNew key e.record)

/-- The data of a change that needs some. -/
def data (c : RemoteChange) : Except SyncError Entity :=
  match c.data with
  | some e => .ok e
  | none => .error (.invalidEntity
      (c.kind.name ++ " change for " ++ Text.Quoted.quote c.storageKey ++ " has no data"))

/-- The record under a storage key. -/
def resident (v : Vault) (text : StorageKey) : Except SyncError (PrimaryKey × Record) :=
  match StorageKey.primaryKey? text with
  | none => .error (.malformedKey text)
  | some key =>
    match v.records.get? key with
    | none => .error (.notFound text)
    | some r => .ok (key, r)

/-- What one change does. -/
def step (replacing : Bool) (v : Vault) (c : RemoteChange) : Outcome :=
  match c.kind with
  | .add => do place replacing v (← data c)
  | .update => do
    let (key, old) ← resident v c.storageKey
    let e ← data c
    if old.naturalKey = e.record.naturalKey then return ([], v.put key e.record)
    else place replacing (v.drop key) e
  | .delete => do
    let (key, _) ← resident v c.storageKey
    return ([], v.drop key)

/-- A change to a database fails for other reasons than a counter. -/
theorem step_ne_overflow (v : Vault) (c : RemoteChange) : step true v c ≠ .error .overflow := by
  have hplace (v : Vault) (e : Entity) : place true v e ≠ .error .overflow := by
    unfold place
    split <;> exact nofun
  have hdata : data c ≠ .error .overflow := by
    unfold data
    split <;> exact nofun
  have hresident : resident v c.storageKey ≠ .error .overflow := by
    unfold resident
    split
    · exact nofun
    · split <;> exact nofun
  have hbind {α β : Type} {x : Except SyncError α} {f : α → Except SyncError β}
      (hx : x ≠ .error .overflow) (hf : ∀ a, f a ≠ .error .overflow) : x >>= f ≠ .error .overflow := by
    cases x with
    | error e => exact fun h => hx (congrArg Except.error (Except.error.inj h))
    | ok a => exact hf a
  unfold step
  cases c.kind with
  | add => exact hbind hdata (hplace v)
  | update =>
    refine hbind hresident fun x => hbind hdata fun e => ?_
    split
    · exact nofun
    · exact hplace _ e
  | delete => exact hbind hresident fun x => nofun

/-- What changes make of the records, one after another, up to the first one that cannot be carried out;
    gives the entities that became new records as well. -/
def run (replacing : Bool) : Vault → List RemoteChange →
    List (PrimaryKey × Entity) × Except SyncError Vault
  | v, [] => ([], .ok v)
  | v, c :: cs =>
    match step replacing v c with
    | .error e => ([], .error e)
    | .ok (assigned, v) => (assigned ++ (run replacing v cs).1, (run replacing v cs).2)

/-- **The reference to a database has no counter that runs over.** -/
theorem run_ne_overflow (v : Vault) (cs : List RemoteChange) : (run true v cs).2 ≠ .error .overflow := by
  induction cs generalizing v with
  | nil => exact nofun
  | cons c cs ih =>
    rw [run]
    split
    · next e hstep =>
      rintro ⟨⟩
      exact step_ne_overflow v c hstep
    · exact ih _

/-- What the processor is told of new records. -/
def calls (assigned : List (PrimaryKey × Entity)) : List ProcessorCall :=
  assigned.map fun (key, e) => .assignKey key.storageKey e

theorem get?_of_resident {v : Vault} {text : StorageKey} {key : PrimaryKey} {r : Record}
    (h : resident v text = .ok (key, r)) : v.records.get? key = some r := by
  rw [resident] at h
  split at h
  · cases h
  · split at h
    · cases h
    · next hr =>
      cases h
      exact hr

/-- How many changes of each kind there are. -/
def summary (cs : List RemoteChange) : ApplySummary where
  added := cs.countP (·.kind = .add)
  updated := cs.countP (·.kind = .update)
  deleted := cs.countP (·.kind = .delete)

end Reference

/-! ## 2. Work that follows a reference -/

namespace Work

variable {π : Type} [Processor π] {α β : Type} {s : Scope π}

/-- The work tells the processor some things, and gives a result with some records, or an error. -/
structure Meets (w : Work π α) (s : Scope π) (calls : List ProcessorCall)
    (outcome : Except SyncError (α × Vault)) : Prop where
  result : (w.perform s).1 = outcome.map Prod.fst
  processor : (w.perform s).2.processor = ProcessorCall.hearAll calls s.processor
  reached : ∀ a v, outcome = .ok (a, v) → (w.perform s).2.Able ∧
    (w.perform s).2.store.vault = v ∧ (w.perform s).2.store.replaces = s.store.replaces

namespace Meets

theorem pure (h : s.Able) (a : α) : Meets (Pure.pure a) s [] (.ok (a, s.store.vault)) :=
  ⟨rfl, rfl, fun _ _ heq => by cases heq; exact ⟨h, rfl, rfl⟩⟩

/-- Work behind work that succeeds. -/
theorem bind {w : Work π α} {f : α → Work π β} {calls calls' : List ProcessorCall} {a : α} {v : Vault}
    {outcome : Except SyncError (β × Vault)} (hw : Meets w s calls (.ok (a, v)))
    (hf : ∀ t : Scope π, t.Able → t.store.vault = v → t.store.replaces = s.store.replaces →
      Meets (f a) t calls' outcome) : Meets (w >>= f) s (calls ++ calls') outcome := by
  obtain ⟨hable, hvault, hreplaces⟩ := hw.reached a v rfl
  have hthen := hf _ hable hvault hreplaces
  have hbind : (w >>= f).perform s = (f a).perform (w.perform s).2 :=
    bind_of_ok (Prod.ext hw.result rfl)
  refine ⟨?_, ?_, fun b v' heq => ?_⟩ <;> rw [hbind]
  · exact hthen.result
  · rw [hthen.processor, hw.processor, ProcessorCall.hearAll, ProcessorCall.hearAll,
      ProcessorCall.hearAll, List.foldl_append]
  · obtain ⟨hable', hvault', hreplaces'⟩ := hthen.reached b v' heq
    exact ⟨hable', hvault', hreplaces'.trans hreplaces⟩

theorem map {w : Work π α} {calls : List ProcessorCall} {a : α} {v : Vault}
    (hw : Meets w s calls (.ok (a, v))) (f : α → β) :
    Meets (w >>= fun a => Pure.pure (f a)) s calls (.ok (f a, v)) := by
  have hall := hw.bind (f := fun a => Pure.pure (f a)) fun t ht hvault _ => hvault ▸ Meets.pure ht (f a)
  rwa [List.append_nil] at hall

/-- Nothing comes behind work that fails. -/
theorem bind_error {w : Work π α} {f : α → Work π β} {calls : List ProcessorCall} {e : SyncError}
    (hw : Meets w s calls (.error e)) : Meets (w >>= f) s calls (.error e) := by
  have hbind : (w >>= f).perform s = (.error e, (w.perform s).2) := by
    rw [perform_bind, show w.perform s = (.error e, (w.perform s).2) from Prod.ext hw.result rfl]
  refine ⟨?_, ?_, nofun⟩ <;> rw [hbind]
  · rfl
  · exact hw.processor

theorem write (h : s.Able) (ws : List MetadataWrite) :
    Meets (Work.write ws) s [] (.ok ((), s.store.vault)) := by
  obtain ⟨hsteady, hvault, hprocessor, -⟩ := writes_keep ws s
  refine ⟨rfl, hprocessor, fun _ _ heq => ?_⟩
  cases heq
  exact ⟨able_writes h ws, hvault, hsteady.replaces⟩

theorem tell (h : s.Able) (c : ProcessorCall) :
    Meets (Work.tell c.deliver) s [c] (.ok ((), s.store.vault)) := by
  obtain ⟨hsteady, hvault, hprocessor, -⟩ :=
    writes_keep (c.deliver s.processor).1 { s with processor := (c.deliver s.processor).2 }
  refine ⟨rfl, hprocessor, fun _ _ heq => ?_⟩
  cases heq
  exact ⟨(Made.tell c).able h (perform_tell _ s), hvault, hsteady.replaces⟩

/-- An edit that the records admit. -/
theorem change (h : s.Able) {e : Edit} {cs : List LocalChange} {v : Vault}
    (hedit : s.store.vault.edit s.store.replaces e = some (cs, v)) :
    Meets (Work.change e.attempt) s [] (.ok (cs, v)) := by
  obtain ⟨ds, t, hok⟩ := (succeeds_change h).2 (Option.isSome_iff_exists.2 ⟨_, hedit⟩)
  obtain ⟨hdid, hedit'⟩ := did_change h.store.quiet hok
  rw [hedit] at hedit'
  cases hedit'
  refine ⟨by rw [hok]; rfl, by rw [hok]; exact congrArg Prod.fst hdid.heard, fun _ _ heq => ?_⟩
  cases heq
  rw [hok]
  exact ⟨(Made.change e).able h hok, rfl, hdid.steady.replaces⟩

/-- An edit that fails. -/
theorem change_error {e : Edit} {cause : SyncError} {t : Store}
    (herror : e.attempt.perform s.store = (.error cause, t)) :
    Meets (Work.change e.attempt) s [] (.error cause) := by
  refine ⟨?_, ?_, nofun⟩ <;> rw [change_of_attempt herror] <;> rfl

end Meets

/-- The work does what a reference says. -/
def Follows (w : Work π Unit) (s : Scope π) : Reference.Outcome → Prop
  | .error e => Meets w s [] (.error e)
  | .ok (assigned, v) => Meets w s (Reference.calls assigned) (.ok ((), v))

/-- Work of which the processor hears nothing may come before. -/
theorem Follows.behind {w : Work π α} {f : α → Work π Unit} {a : α} {v : Vault}
    {outcome : Reference.Outcome} (hw : Meets w s [] (.ok (a, v)))
    (hf : ∀ t : Scope π, t.Able → t.store.vault = v → t.store.replaces = s.store.replaces →
      Follows (f a) t outcome) : Follows (w >>= f) s outcome := by
  rcases outcome with e | ⟨assigned, v'⟩
  · exact hw.bind hf
  · exact hw.bind hf

/-- Looking around comes before. -/
theorem Follows.of_ok {w : Work π α} {f : α → Work π Unit} {a : α} {outcome : Reference.Outcome}
    (hw : w.perform s = (.ok a, s)) (hf : Follows (f a) s outcome) : Follows (w >>= f) s outcome := by
  have hbind := bind_of_ok (f := f) hw
  rcases outcome with e | ⟨assigned, v⟩ <;> obtain ⟨hresult, hprocessor, hreached⟩ := hf
  all_goals
    rw [← hbind] at hresult hprocessor hreached
    exact ⟨hresult, hprocessor, hreached⟩

theorem Follows.of_error {w : Work π α} {f : α → Work π Unit} {e : SyncError}
    (hw : w.perform s = (.error e, s)) : Follows (w >>= f) s (.error e) := by
  have hmeets : Meets w s [] (.error e) := by
    refine ⟨?_, ?_, nofun⟩ <;> rw [hw] <;> rfl
  exact hmeets.bind_error

end Work

/-! ## 3. Additions without a key -/

theorem Table.add_of_none {t : Table} (hq : t.faults = {}) (hkey : PrimaryKey.next? t.vault.lastKey = none)
    (r : Record) : ∃ t', (Table.add r).perform t = (.error (noKeyLeft false), t') := by
  have hguard : guardMutation.perform t = (.ok ⟨⟩, t.counted) := by
    rw [guardMutation_perform]
    simp [counted, hq]
  have hnone : PrimaryKey.next? t.counted.content.lastKey = none := hkey
  refine ⟨t.counted, ?_⟩
  unfold Table.add
  rw [bind_of_ok hguard, bind_of_ok (perform_get _)]
  simp only [hnone]
  rfl

theorem Database.insertRow_of_none {d : Database} (h : d.Able)
    (hkey : PrimaryKey.next? d.vault.lastKey = none) (r : Record) :
    ∃ d', (Database.insertRow r).perform d = (.error (noKeyLeft true), d') := by
  obtain ⟨t, ht, -⟩ := h.legible
  rw [vault_of_records ht] at hkey
  have hlt : ¬ t.lastKey < PrimaryKey.greatest := fun hlt => by
    rw [PrimaryKey.next?, if_pos hlt] at hkey
    cases hkey
  refine ⟨{ d with tables := d.saved.getD d.tables, saved := none }, (h.write ht).trans ?_⟩
  rw [if_neg hlt]
  rfl

theorem Database.add_of_none {d : Database} (h : d.Able)
    (hkey : PrimaryKey.next? d.vault.lastKey = none) (r : Record) :
    ∃ d', (Database.add r).perform d = (.error (noKeyLeft true), d') := by
  have hinsert (removed : List LocalChange) {d : Database} (h : d.Able)
      (hkey : PrimaryKey.next? d.vault.lastKey = none) :
      ∃ d', (Database.insertRow r >>= fun key => pure (removed ++ [⟨.add, key, r⟩]) :
        Attempt Database (List LocalChange)).perform d = (.error (noKeyLeft true), d') := by
    obtain ⟨d', hinsert⟩ := Database.insertRow_of_none h hkey r
    exact ⟨d', by rw [perform_bind, hinsert]⟩
  unfold Database.add
  rw [bind_of_ok (h.find? r.naturalKey)]
  cases hfind : d.vault.find? r.naturalKey with
  | none => exact hinsert [] h hkey
  | some old =>
    obtain ⟨record, hrecord, -⟩ := Vault.find?_eq_some hfind
    obtain ⟨w, hdelete, hw, hvault⟩ := h.deleteRow old
    simp only
    rw [bind_of_ok (h.record? old), hrecord]
    simp only
    rw [bind_of_ok hdelete]
    exact hinsert _ hw (by rw [hvault]; exact hkey)

theorem Store.Able.add_of_none {s : Store} (h : s.Able) (hkey : PrimaryKey.next? s.vault.lastKey = none)
    (r : Record) : ∃ t, (Edit.add r).attempt.perform s = (.error (noKeyLeft s.replaces), t) := by
  rw [Edit.attempt_eq]
  cases s with
  | table t =>
    obtain ⟨t', ht⟩ := Table.add_of_none h.quiet hkey r
    exact ⟨.table t', by simp [either, Edit.onTable, ht, replaces]⟩
  | database d =>
    obtain ⟨d', hd⟩ := Database.add_of_none h.database hkey r
    exact ⟨.database d', by simp [either, Edit.onDatabase, hd, replaces]⟩

/-! ## 4. Single changes -/

namespace Apply

open Reference

variable {π : Type} [Processor π] {s : Scope π}

/-- The metadata of removed records is cleared, and the new record is found. -/
theorem meets_clearRemoved (h : s.Able) {cs : List LocalChange} {c : LocalChange}
    (hcs : ∀ c ∈ cs, c.kind = .remove) (hc : c.kind = .add) :
    Meets (Merge.clearRemoved (cs ++ [c])) s []
      (.ok ((some c.key, cs.map (·.key)), s.store.vault)) := by
  induction cs generalizing s with
  | nil =>
    unfold Merge.clearRemoved
    simp only [List.nil_append, hc]
    exact .pure h _
  | cons c' cs ih =>
    unfold Merge.clearRemoved
    simp only [List.cons_append, hcs c' List.mem_cons_self]
    refine (Meets.write h _).bind fun t ht hvault _ => ?_
    rw [← hvault]
    exact (ih ht fun c hc => hcs c (List.mem_cons_of_mem _ hc)).map fun x => (x.1, c'.key :: x.2)

/-- **An entity becomes a new record if a key is left.** -/
theorem follows_addEntity (h : s.Able) (e : Entity) :
    Follows (addEntity e >>= fun _ => pure ()) s (place s.store.replaces s.store.vault e) := by
  rw [place]
  split
  · next hkey =>
    obtain ⟨t, ht⟩ := h.store.add_of_none hkey e.record
    exact (Meets.change_error ht).bind_error.bind_error
  · next key hkey =>
    have hedit : s.store.vault.edit s.store.replaces (.add e.record) =
        some ((s.store.vault.makeRoom s.store.replaces e.record).1 ++ [⟨.add, key, e.record⟩],
          (s.store.vault.makeRoom s.store.replaces e.record).2.insertNew key e.record) := by
      rw [Vault.edit, Vault.add, Vault.lastKey_makeRoom, hkey]
      rfl
    refine Meets.map (a := key) ?_ fun _ => ()
    unfold addEntity
    refine (Meets.change h hedit).bind fun t ht hvault _ => ?_
    refine (meets_clearRemoved ht Vault.kind_of_makeRoom rfl).bind fun u hu hvault' _ => ?_
    rw [hvault] at hvault'
    rw [← hvault']
    exact (Meets.tell hu (.assignKey key.storageKey e)).map fun _ => key

omit [Processor π] in
theorem requireData_eq (c : RemoteChange) (s : Scope π) : (requireData c).perform s = (data c, s) := by
  unfold requireData data
  cases c.data <;> rfl

omit [Processor π] in
theorem residentKey_eq (h : s.Able) (text : StorageKey) :
    (residentKey text).perform s = ((resident s.store.vault text).map Prod.fst, s) := by
  have hread (key : PrimaryKey) : (onStore (Store.record? key) : Work π _).perform s =
      (.ok (s.store.vault.records.get? key), s) := by
    rw [onStore, perform_within, h.store.record?]
  unfold resident residentKey StorageKey.primaryKey
  cases StorageKey.primaryKey? text with
  | none => rfl
  | some key =>
    rw [bind_of_ok (perform_ofExcept (.ok key) s), bind_of_ok (hread key)]
    cases hr : s.store.vault.records.get? key <;> simp only [hr] <;> rfl

/-- **A record is overwritten, or moved if its natural key changes.** -/
theorem follows_updateEntity (h : s.Able) (e : Entity) {key : PrimaryKey} {old : Record}
    (hold : s.store.vault.records.get? key = some old) :
    Follows (updateEntity key e) s
      (if old.naturalKey = e.record.naturalKey then .ok ([], s.store.vault.put key e.record)
        else place s.store.replaces (s.store.vault.drop key) e) := by
  have hupdate : s.store.vault.edit s.store.replaces (.updateAt key e.record) =
      some (s.store.vault.updateAt key e.record) := rfl
  have hremove : s.store.vault.edit s.store.replaces (.remove key) =
      some ([⟨.remove, key, old⟩], s.store.vault.drop key) := by
    rw [Vault.edit, Vault.remove, hold]
  rw [Vault.updateAt, hold] at hupdate
  simp only [Record.sameNaturalKey, beq_iff_eq] at hupdate
  unfold updateEntity
  split
  · next hsame =>
    rw [if_pos hsame] at hupdate
    refine Follows.behind (Meets.change h hupdate) fun t ht hvault _ => ?_
    rw [← hvault]
    exact .pure ht ()
  · next hother =>
    rw [if_neg hother] at hupdate
    refine Follows.behind (Meets.change h hupdate) fun t ht hvault hreplaces => ?_
    rw [← hvault, ← hreplaces] at hremove ⊢
    refine Follows.behind (Meets.change ht hremove) fun u hu hvault' hreplaces' => ?_
    rw [← hvault', ← hreplaces']
    refine Follows.behind (Meets.write hu _) fun x hx hvault'' hreplaces'' => ?_
    rw [← hvault'', ← hreplaces'']
    exact follows_addEntity hx e

/-- **A change does what the reference says.** -/
theorem follows_applyChange (h : s.Able) (c : RemoteChange) :
    Follows (applyChange c) s (step s.store.replaces s.store.vault c) := by
  have hresident := residentKey_eq h c.storageKey
  have hdata := requireData_eq c s
  unfold applyChange step
  cases c.kind with
  | add =>
    cases hd : data c with
    | error cause => exact .of_error (hd ▸ hdata)
    | ok e => exact .of_ok (hd ▸ hdata) (follows_addEntity h e)
  | update =>
    cases hr : resident s.store.vault c.storageKey with
    | error cause =>
      rw [hr] at hresident
      exact .of_error hresident
    | ok x =>
      obtain ⟨key, old⟩ := x
      rw [hr] at hresident
      refine .of_ok hresident ?_
      cases hd : data c with
      | error cause => exact .of_error (hd ▸ hdata)
      | ok e => exact .of_ok (hd ▸ hdata) (follows_updateEntity h e (get?_of_resident hr))
  | delete =>
    cases hr : resident s.store.vault c.storageKey with
    | error cause =>
      rw [hr] at hresident
      exact .of_error hresident
    | ok x =>
      obtain ⟨key, old⟩ := x
      rw [hr] at hresident
      have hremove : s.store.vault.edit s.store.replaces (.remove key) =
          some ([⟨.remove, key, old⟩], s.store.vault.drop key) := by
        rw [Vault.edit, Vault.remove, get?_of_resident hr]
      refine .of_ok hresident (.behind (Meets.change h hremove) fun t ht hvault _ => ?_)
      show Meets _ t [] (.ok ((), s.store.vault.drop key))
      rw [← hvault]
      exact .write ht _

/-! ## 5. All changes -/

/-- **Changes do what the reference says.** -/
theorem follows_applyChanges (h : s.Able) (cs : List RemoteChange) (summary : ApplySummary) :
    Meets (applyChanges summary cs) s (calls (run s.store.replaces s.store.vault cs).1)
      ((run s.store.replaces s.store.vault cs).2.map
        (cs.foldl (fun a c => a.count c.kind) summary, ·)) := by
  induction cs generalizing s summary with
  | nil => exact .pure h summary
  | cons c cs ih =>
    have hstep := follows_applyChange h c
    rw [applyChanges, run]
    cases hs : step s.store.replaces s.store.vault c with
    | error e =>
      rw [hs] at hstep
      exact hstep.bind_error
    | ok x =>
      obtain ⟨assigned, v⟩ := x
      rw [hs] at hstep
      simp only [calls, List.map_append]
      refine hstep.bind fun t ht hvault hreplaces => ?_
      rw [← hvault, ← hreplaces]
      exact ih ht _

/-- What the caller has collected is written at the end. -/
theorem meets_conclude (h : s.Able) (summary : ApplySummary) :
    Meets (conclude summary) s [] (.ok (summary, s.store.vault)) := by
  have hpending := Made.writePending.able h (perform_writePending s)
  obtain ⟨hsteady, hvault, hprocessor, -⟩ := writes_keep s.pending.writes { s with pending := {} }
  have hall : (conclude summary).perform s =
      (.ok summary, s.pending.writes.foldl writeOne { s with pending := {} }) := by
    unfold conclude
    rw [bind_of_ok (perform_writePending s), bind_of_ok (perform_settle hpending)]
    rfl
  refine ⟨?_, ?_, fun _ _ heq => ?_⟩ <;> rw [hall]
  · rfl
  · exact hprocessor
  · cases heq
    exact ⟨hpending, hvault, hsteady.replaces⟩

/-- The counts of an application are the numbers of its changes. -/
theorem foldl_count (cs : List RemoteChange) (a : ApplySummary) :
    cs.foldl (fun a c => a.count c.kind) a =
      ⟨a.added + (summary cs).added, a.updated + (summary cs).updated,
        a.deleted + (summary cs).deleted⟩ := by
  induction cs generalizing a with
  | nil => rfl
  | cons c cs ih =>
    rw [List.foldl_cons, ih]
    cases hkind : c.kind <;> simp [ApplySummary.count, summary, hkind] <;> omega

/-- **An application does what the reference says.** -/
theorem meets_work (h : s.Able) (cs : List RemoteChange) :
    Meets (work cs) s (calls (run s.store.replaces s.store.vault cs).1)
      ((run s.store.replaces s.store.vault cs).2.map (summary cs, ·)) := by
  have hchanges := follows_applyChanges h cs {}
  rw [foldl_count] at hchanges
  simp only [Nat.zero_add] at hchanges
  rw [work_eq]
  cases hrun : (run s.store.replaces s.store.vault cs).2 with
  | error e =>
    rw [hrun] at hchanges
    exact hchanges.bind_error
  | ok v =>
    rw [hrun] at hchanges
    have hall := Meets.bind (f := conclude) hchanges fun t ht hvault _ => hvault ▸ meets_conclude ht _
    rwa [List.append_nil] at hall

end Apply

/-! ## 6. Devices -/

namespace Device

variable {π : Type} [Processor π] {α : Type} {d : Device π}

/-- A batch whose work fails is rolled back. -/
theorem Able.batch_error (h : d.Able) {w : Work π α} {e : SyncError} {s : Scope π}
    (hw : w.perform d.begun.scope = (.error e, s)) :
    d.batch .bridge .remote (body w) =
      (.abandoned (.error e) e, (d.begun.putScope s).abandon .bridge) := by
  have hbody : body w d.begun = (⟨.error e, s.changes, some e⟩, d.begun.putScope s) := by
    rw [body, hw]
  have hbegin : (onStore Store.begin).perform d = (.ok (), d.begun) := by
    rw [onStore_perform, Device.begun, h.begun.2.1]
  rw [batch, hbegin]
  simp only [hbody]

/-- An application that the reference does not come through. -/
theorem Able.apply_of_error (h : d.Able) {cs : List RemoteChange} {e : SyncError}
    (hrun : (Reference.run d.store.replaces d.store.vault cs).2 = .error e) :
    ((apply cs).perform d).1 = .error e ∧ Restored d ((apply cs).perform d).2 ∧
      ((apply cs).perform d).2.pending = d.pending ∧
      ((apply cs).perform d).2.processor = ProcessorCall.hearAll
        (Reference.calls (Reference.run d.store.replaces d.store.vault cs).1) d.processor := by
  obtain ⟨hable, -, -, hvault, hreplaces⟩ := h.begun
  have hchanges := Apply.follows_applyChanges hable cs {}
  rw [show d.begun.scope.store.vault = d.store.vault from hvault,
    show d.begun.scope.store.replaces = d.store.replaces from hreplaces, hrun] at hchanges
  have hpending := (direct_applyChanges {} cs).pending d.begun.scope
  have hfail : (Apply.applyChanges {} cs).perform d.begun.scope =
      (.error e, ((Apply.applyChanges {} cs).perform d.begun.scope).2) := Prod.ext hchanges.result rfl
  have hwork : (Apply.work cs).perform d.begun.scope =
      (.error e, ((Apply.applyChanges {} cs).perform d.begun.scope).2) := by
    rw [Apply.work_eq, perform_bind, hfail]
  have hbatch := h.batch_error hwork
  have hresult : (d.batch .bridge .remote (body (Apply.work cs))).1.result = .error e := by
    rw [hbatch]
    rfl
  have hrestored := restored_of_orderly (made_apply cs).orderly h.store.quiet.canRollBack hresult
  rw [apply_perform, hresult]
  refine ⟨rfl, restored_measure.2 (restored_measure.2 hrestored), ?_, ?_⟩
  · show (d.batch .bridge .remote (body (Apply.work cs))).2.pending = _
    rw [hbatch]
    exact hpending
  · show (d.batch .bridge .remote (body (Apply.work cs))).2.processor = _
    rw [hbatch]
    exact hchanges.processor

/-- An application that the reference comes through. -/
theorem Able.apply_of_ok (h : d.Able) {cs : List RemoteChange} {v : Vault}
    (hrun : (Reference.run d.store.replaces d.store.vault cs).2 = .ok v) :
    ((apply cs).perform d).1 = .ok (Reference.summary cs) ∧
      ((apply cs).perform d).2.store.vault = v ∧
      ((apply cs).perform d).2.processor = ProcessorCall.hearAll
        (Reference.calls (Reference.run d.store.replaces d.store.vault cs).1) d.processor := by
  obtain ⟨hable, -, -, hvault, hreplaces⟩ := h.begun
  have hwork := Apply.meets_work hable cs
  rw [show d.begun.scope.store.vault = d.store.vault from hvault,
    show d.begun.scope.store.replaces = d.store.replaces from hreplaces, hrun] at hwork
  obtain ⟨-, hreached, -⟩ := hwork.reached _ _ rfl
  obtain ⟨a, hok⟩ := (h.batch_succeeds_iff (made_apply cs)).2 ⟨_, _, Prod.ext hwork.result rfl⟩
  have hbatched := batched .bridge .remote (body (Apply.work cs)) d
  have hsame := sameWork_apply cs d
  rcases hbatched.result_cases with ⟨e, herror, -⟩ | ⟨b, changes, hresult, hcommitted⟩
  · rw [hok] at herror
    cases herror
  rw [hcommitted] at hbatched
  obtain ⟨b', s, hb, hperform, -, -, -, hcontent, -, -, hprocessor, -⟩ := hbatched.committed_work
  cases hb
  have hheard := hwork.processor
  have hsummary := hwork.result
  rw [hperform] at hreached hheard hsummary
  cases hsummary
  rw [apply_result, hsame.processor, hsame.store, hresult]
  exact ⟨rfl, (Store.vault_congr hcontent).trans hreached, hprocessor.trans hheard⟩

/-- **An application gives what the reference gives.** If the reference comes through, the application
    succeeds with the counts of the changes and leaves the records of the reference; if not, it fails with
    the error of the reference and leaves everything as it was. Either way the processor is told the
    storage keys of the new records, in order, and nothing else. Of a table whose counter of keys runs
    over, nothing is said. -/
theorem Able.apply_eq_reference (h : d.Able) (cs : List RemoteChange) :
    (∀ v, (Reference.run d.store.replaces d.store.vault cs).2 = .ok v →
        ((apply cs).perform d).1 = .ok (Reference.summary cs) ∧
          ((apply cs).perform d).2.store.vault = v) ∧
      (∀ e, (Reference.run d.store.replaces d.store.vault cs).2 = .error e → e ≠ .overflow →
        ((apply cs).perform d).1 = .error e ∧ Restored d ((apply cs).perform d).2 ∧
          ((apply cs).perform d).2.pending = d.pending) ∧
      ((Reference.run d.store.replaces d.store.vault cs).2 ≠ .error .overflow →
        ((apply cs).perform d).2.processor = ProcessorCall.hearAll
          (Reference.calls (Reference.run d.store.replaces d.store.vault cs).1) d.processor) := by
  refine ⟨fun v hrun => ?_, fun e hrun _ => ?_, fun _ => ?_⟩
  · obtain ⟨hresult, hvault, -⟩ := h.apply_of_ok hrun
    exact ⟨hresult, hvault⟩
  · obtain ⟨hresult, hrestored, hpending, -⟩ := h.apply_of_error hrun
    exact ⟨hresult, hrestored, hpending⟩
  · cases hrun : (Reference.run d.store.replaces d.store.vault cs).2 with
    | ok v => exact (h.apply_of_ok hrun).2.2
    | error e => exact (h.apply_of_error hrun).2.2.2

/-- The first record takes the natural key of the second one, and then the second one cannot be found. -/
theorem apply_eq_reference_moved :
    (holding [(1, .sample "a"), (2, .sample "b")]).Able ∧
      let d := holding [(1, .sample "a"), (2, .sample "b")]
      let cs : List RemoteChange :=
        [{ kind := .update, storageKey := "1", data := some (.ofRecord (.sample "b")) },
          { kind := .delete, storageKey := "2" }]
      (Reference.run true d.store.vault cs).2 = .error (.notFound "2") ∧
        ((apply cs).perform d).1 = .error (.notFound "2") ∧ Restored d ((apply cs).perform d).2 ∧
        ((apply cs).perform d).2.processor =
          (Processor.assignKey (.ofRecord (.sample "b")) "3" d.processor).2 := by
  have hable : (holding [(1, .sample "a"), (2, .sample "b")]).Able := able_holding _
  refine ⟨hable, ?_⟩
  intro d cs
  obtain ⟨hok, herror, hprocessor⟩ := hable.apply_eq_reference cs
  have hnotFound : ((apply cs).perform d).1 = .error (.notFound "2") := by decide +kernel
  have hassigned : (Reference.run true d.store.vault cs).1 = [(3, .ofRecord (.sample "b"))] := by
    decide +kernel
  have hrun : (Reference.run true d.store.vault cs).2 = .error (.notFound "2") := by
    cases hrun : (Reference.run true d.store.vault cs).2 with
    | ok v =>
      have hresult := (hok v hrun).1
      rw [hnotFound] at hresult
      cases hresult
    | error e =>
      have hresult := (herror e hrun fun he => Reference.run_ne_overflow _ _ (he ▸ hrun)).1
      rw [hnotFound] at hresult
      rw [← Except.error.inj hresult]
  obtain ⟨hresult, hrestored, -⟩ := herror _ hrun nofun
  refine ⟨hrun, hresult, hrestored, (hprocessor (Reference.run_ne_overflow _ _)).trans ?_⟩
  show ProcessorCall.hearAll (Reference.calls (Reference.run true d.store.vault cs).1) d.processor = _
  rw [hassigned]
  rfl

/-- A database that has given out the greatest key has none for an addition. -/
theorem apply_without_key :
    (holding [(.greatest, .sample "top")]).Able ∧
      ((apply [.add (.ofRecord (.sample "x"))]).perform (holding [(.greatest, .sample "top")])).1 =
        .error (.storeFailure "database or disk is full") :=
  ⟨able_holding _, by decide +kernel⟩

end Device

end CredentialSync
