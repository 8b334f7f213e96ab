import CredentialSync.Proofs.Merge.LocalOnly
import CredentialSync.Proofs.Session.Turn

/-!
# Storage keys of remote entities

A processor is told the storage key of each remote entity that becomes a new record, while the transaction is
still open. If the transaction is not committed, the key goes back to the store, but the processor has heard
of it. `assigned_nodup_iff` says exactly when a key is told a second time: when keys are told while one that
was told before has been given back. Turns that succeed give none of their keys back, so that two of them
never tell the same one.

In the course of one turn the keys follow one another (`Turn.Names`), and all keys above the greatest one
given out, up to one that was told, have been told as well (`Gapless`).
-/

namespace CredentialSync

open Attempt Device

variable {π : Type} {α β : Type}

namespace Device

/-- The storage keys of remote entities that the processor was told, in order. -/
def assigned (d : Device (Overheard π)) : List StorageKey :=
  d.processor.heard.filterMap (·.assigned?)

/-- No key was left out above the greatest one given out. -/
def Gapless (d : Device (Overheard π)) : Prop :=
  ∀ key key' : PrimaryKey, key.storageKey ∈ d.assigned → d.store.vault.lastKey < key' → key' ≤ key →
    key'.storageKey ∈ d.assigned

theorem Hears.names {P : ProcessorCall → Prop} {d d' : Device (Overheard π)} {calls : List ProcessorCall}
    {last : PrimaryKey} (h : Hears P d calls last d') :
    ∃ keys : List PrimaryKey, d'.assigned = d.assigned ++ keys.map PrimaryKey.storageKey ∧
      PrimaryKey.Consecutive d.store.vault.lastKey keys last := by
  obtain ⟨keys, hassigned, hkeys⟩ := h.assign.keys
  refine ⟨keys, ?_, hkeys⟩
  rw [assigned, h.heard, List.filterMap_append, hassigned]
  rfl

end Device

variable [Processor π]

namespace Turn

/-! ## 1. One turn -/

/-- The storage keys that the processor is told in the course of a turn. -/
def named (t : Turn β) (d : Device (Overheard π)) : List StorageKey :=
  (t.run d).2.assigned.drop d.assigned.length

/-- The turn tells the processor of keys in a row. If it succeeds, none of them is given back. -/
structure Names (t : Turn β) (d : Device (Overheard π)) (keys : List PrimaryKey) (last : PrimaryKey) :
    Prop where
  assigned : (t.run d).2.assigned = d.assigned ++ keys.map PrimaryKey.storageKey
  keys : PrimaryKey.Consecutive d.store.vault.lastKey keys last
  kept : (t.run d).1 = .ok () → last ≤ (t.run d).2.store.vault.lastKey

theorem Names.named {t : Turn β} {d : Device (Overheard π)} {keys : List PrimaryKey} {last : PrimaryKey}
    (h : t.Names d keys last) : t.named d = keys.map PrimaryKey.storageKey := by
  rw [Turn.named, h.assigned, List.drop_left]

omit [Processor π] in
theorem ok_of_map {res : Except SyncError α} (h : res.map (fun _ => ()) = .ok ()) : ∃ a, res = .ok a := by
  cases res with
  | error e => cases h
  | ok a => exact ⟨a, rfl⟩

/-- A batch of the remote side. -/
theorem names_remote {P : ProcessorCall → Prop} {w : Work (Overheard π) α} {d : Device (Overheard π)}
    {t : Turn β} (hw : Work.Tells P w d.begun.scope)
    (hsame : SameWork (d.batch .bridge .remote (body w)).2 (t.run d).2)
    (hok : (t.run d).1 = .ok () → ∃ a, (d.batch .bridge .remote (body w)).1.result = .ok a) :
    ∃ keys last, t.Names d keys last := by
  have hbatched := batched .bridge .remote (body w) d
  obtain ⟨calls, last, hhears, hlast⟩ := hbatched.hears hw
  obtain ⟨keys, hassigned, hkeys⟩ := hhears.names
  refine ⟨keys, last, ?_, hkeys, fun h => ?_⟩
  · rw [Device.assigned, hsame.processor]
    exact hassigned
  · rw [hsame.store]
    obtain ⟨a, ha⟩ := hok h
    rcases hbatched.result_cases with ⟨e, herror, -⟩ | ⟨b, cs, -, hcommitted⟩
    · rw [ha] at herror
      cases herror
    · exact Int64.le_of_eq (hlast _ _ hcommitted).symm

/-- A turn in which no remote entity receives a key. -/
theorem names_none {d : Device (Overheard π)} {t : Turn β} (h : (t.run d).2.assigned = d.assigned) :
    ∃ keys last, t.Names d keys last :=
  ⟨[], _, by rw [h, List.map_nil, List.append_nil], .nil _, fun _ => t.lastKey_le d⟩

/-- Whatever a write does, it assigns no keys. -/
theorem assigned_write (batcher : Batcher) (side : Side) (w : Write β) (d : Device (Overheard π)) :
    (d.batch batcher side (w.run [])).2.assigned = d.assigned := by
  have hQ : Store.Stable fun _ => True :=
    ⟨fun _ _ => trivial, fun _ _ => trivial, fun _ _ => trivial, fun _ _ => trivial, fun _ _ => trivial⟩
  have hR : Processor.Unmoved fun o : Overheard π => o.heard.filterMap (·.assigned?) = d.assigned := by
    intro c o hc ho
    rw [Overheard.deliver_eq]
    show (o.heard ++ [c]).filterMap _ = _
    rw [List.filterMap_append, ho, List.filterMap_cons, hc]
    exact List.append_nil _
  have hstart : d.Holds (fun _ => True) fun o => o.heard.filterMap (·.assigned?) = d.assigned :=
    ⟨trivial, rfl⟩
  exact (hstart.batch hQ hR batcher side fun d hd => hd.write hQ hR []).processor

/-- **What a turn tells the processor of keys.** -/
theorem names (t : Turn β) (d : Device (Overheard π)) : ∃ keys last, t.Names d keys last := by
  cases t with
  | call c =>
    cases c with
    | merge changes =>
      refine names_remote (Merge.tells_merge (s := d.begun.scope) rfl changes)
        (sameWork_merge changes d) fun h => ?_
      rw [run, Call.run, perform_map, merge_result] at h
      exact ok_of_map h
    | apply changes =>
      refine names_remote (Work.tells_apply (s := d.begun.scope) changes)
        (sameWork_apply changes d) fun h => ?_
      rw [run, Call.run, perform_map, apply_result] at h
      exact ok_of_map h
    | forget =>
      refine names_remote (Work.tells_forget (s := d.begun.scope)) ?_ fun h => ?_
      · rw [run, Call.run, stopSync_perform]
        exact ⟨rfl, rfl, rfl⟩
      · rw [run, Call.run, stopSync_perform] at h
        exact ⟨(), h⟩
    | write w => exact names_none (assigned_write .bridge .device w d)
  | batch batcher side w => exact names_none (assigned_write batcher side w d)
  | stop | collect | tell => exact names_none rfl

/-! ## 2. Sessions -/

/-- Keys that were told are never forgotten. -/
theorem assigned_runAll (ts : List (Turn β)) (d : Device (Overheard π)) :
    d.assigned <+: (runAll ts d).assigned := by
  induction ts generalizing d with
  | nil => exact List.prefix_refl _
  | cons t ts ih =>
    obtain ⟨keys, last, hnames⟩ := t.names d
    refine List.IsPrefix.trans ?_ (ih (t.run d).2)
    rw [hnames.assigned]
    exact List.prefix_append _ _

theorem lastKey_le_runAll (ts : List (Turn β)) (d : Device (Overheard π)) :
    d.store.vault.lastKey ≤ (runAll ts d).store.vault.lastKey := by
  induction ts generalizing d with
  | nil => exact Int64.le_refl _
  | cons t ts ih => exact Int64.le_trans (t.lastKey_le d) (ih (t.run d).2)

variable {t : Turn β} {d : Device (Overheard π)} {keys : List PrimaryKey} {last : PrimaryKey}

/-- **One turn leaves no gap.** -/
theorem Names.gapless (h : t.Names d keys last) (hd : d.Gapless) : (t.run d).2.Gapless := by
  intro key key' hkey hlt hle
  have hlt' := Int64.lt_of_le_of_lt (t.lastKey_le d) hlt
  rw [h.assigned, List.mem_append] at hkey ⊢
  rcases hkey with hkey | hkey
  · exact .inl (hd key key' hkey hlt' hle)
  · obtain ⟨k, hk, hsame⟩ := List.mem_map.1 hkey
    obtain rfl := PrimaryKey.storageKey_injective hsame
    refine .inr (List.mem_map_of_mem ?_)
    exact h.keys.mem_iff.2 ⟨hlt', Int64.le_trans hle (h.keys.mem_iff.1 hk).2⟩

/-- The turn tells no keys, or no key that was told before it has been given back. -/
def Clear (d : Device (Overheard π)) (t : Turn β) : Prop :=
  t.named d ≠ [] → ∀ key : PrimaryKey, key.storageKey ∈ d.assigned → key ≤ d.store.vault.lastKey

/-- **One turn tells no key a second time exactly if it is clear.** -/
theorem Names.nodup_iff (h : t.Names d keys last) (hgapless : d.Gapless) (hd : d.assigned.Nodup) :
    (t.run d).2.assigned.Nodup ↔ Clear d t := by
  have hkeys : (keys.map PrimaryKey.storageKey).Nodup :=
    List.Pairwise.map _ (fun _ _ hne hsame => hne (PrimaryKey.storageKey_injective hsame)) h.keys.nodup
  rw [Clear, h.named, h.assigned, List.nodup_append]
  constructor
  · rintro ⟨-, -, hdisjoint⟩ hsome key hkey
    refine Int64.not_lt.1 fun hlt => ?_
    cases h.keys with
    | nil => exact hsome rfl
    | @cons _ first _ rest hfirst _ =>
      -- The first key that the turn tells is not above the one that has been given back.
      have hle : first ≤ key := by
        have hnext := PrimaryKey.toInt_of_next? hfirst
        rw [Int64.lt_iff_toInt_lt] at hlt
        rw [Int64.le_iff_toInt_le]
        omega
      have hagain := hgapless key first hkey (PrimaryKey.lt_of_next? hfirst) hle
      exact hdisjoint _ hagain _ (List.mem_map_of_mem List.mem_cons_self) rfl
  · intro hclear
    refine ⟨hd, hkeys, fun text htext text' htext' hsame => ?_⟩
    obtain ⟨key, hkey, rfl⟩ := List.mem_map.1 htext'
    have hle := hclear (List.ne_nil_of_mem htext') key (hsame ▸ htext)
    exact Int64.lt_irrefl (Int64.lt_of_lt_of_le (h.keys.mem_iff.1 hkey).1 hle)

/-- **A session tells no key a second time exactly if all its turns are clear.** -/
theorem nodup_runAll_iff (ts : List (Turn β)) (hgapless : d.Gapless) (hd : d.assigned.Nodup) :
    (runAll ts d).assigned.Nodup ↔ Each Clear ts d := by
  induction ts generalizing d with
  | nil => exact iff_of_true hd trivial
  | cons t ts ih =>
    obtain ⟨keys, last, hnames⟩ := t.names d
    rw [Each, ← hnames.nodup_iff hgapless hd]
    constructor
    · intro hnodup
      have hnext := (assigned_runAll ts (t.run d).2).sublist.nodup hnodup
      exact ⟨hnext, (ih (hnames.gapless hgapless) hnext).1 hnodup⟩
    · rintro ⟨hnext, hrest⟩
      exact (ih (hnames.gapless hgapless) hnext).2 hrest

/-- **A key that a turn has told and not given back is not told again.** -/
theorem Names.not_again (h : t.Names d keys last) (hok : (t.run d).1 = .ok ()) {text : StorageKey}
    (htext : text ∈ t.named d) (mid : List (Turn β)) (t' : Turn β) :
    text ∉ t'.named (runAll mid (t.run d).2) := by
  obtain ⟨keys', last', hnames'⟩ := t'.names (runAll mid (t.run d).2)
  rw [h.named] at htext
  rw [hnames'.named]
  intro htext'
  obtain ⟨key, hkey, rfl⟩ := List.mem_map.1 htext
  obtain ⟨key', hkey', hsame⟩ := List.mem_map.1 htext'
  obtain rfl := PrimaryKey.storageKey_injective hsame
  have hle : key' ≤ (runAll mid (t.run d).2).store.vault.lastKey :=
    Int64.le_trans (h.keys.mem_iff.1 hkey).2 (Int64.le_trans (h.kept hok) (lastKey_le_runAll mid _))
  exact Int64.lt_irrefl (Int64.lt_of_lt_of_le (hnames'.keys.mem_iff.1 hkey').1 hle)

/-- **When a storage key is told for two entities.** In a session that begins before any key is told, no key
    is told twice exactly if no turn tells keys while one that was told before has been given back. A key
    that was told in a turn that succeeded is never told again. -/
theorem told_once_iff (ts : List (Turn β)) (d : Device (Overheard π)) (hd : d.assigned = []) :
    ((runAll ts d).assigned.Nodup ↔ Each Clear ts d) ∧
      ∀ (pre mid : List (Turn β)) (t t' : Turn β), (t.run (runAll pre d)).1 = .ok () →
        ∀ text ∈ t.named (runAll pre d), text ∉ t'.named (runAll (pre ++ t :: mid) d) := by
  refine ⟨nodup_runAll_iff ts ?_ (hd ▸ List.nodup_nil), fun pre mid t t' hok text htext => ?_⟩
  · intro key key' hkey
    rw [hd] at hkey
    cases hkey
  · obtain ⟨keys, last, hnames⟩ := t.names (runAll pre d)
    rw [runAll_append]
    exact hnames.not_again hok htext mid t'

/-- The second change names a record that is not there. -/
def stumble : Turn Unit :=
  .call (.apply [.add (arrival "a"), { kind := .update, storageKey := "99", data := arrival "b" }])

/-- Another entity is added. -/
def retry : Turn Unit := .call (.apply [.add (arrival "b")])

theorem told_once_stumble :
    listening.assigned = [] ∧
      ((runAll [stumble, retry] listening).assigned.Nodup ↔ Each Clear [stumble, retry] listening) :=
  ⟨rfl, (told_once_iff [stumble, retry] listening rfl).1⟩

/-- The key and the realm that a processor is told for an entity. -/
def realm? : ProcessorCall → Option (StorageKey × String)
  | .assignKey key e => some (key, e.specifics.signonRealm)
  | _ => none

/-- The first application fails and tells the key of an entity; the second one tells the same key for another
    entity. -/
theorem stumble_tells_twice :
    listening.bridge.isSome = true ∧
      (stumble.run listening).1 = .error (.notFound "99") ∧
      (retry.run (stumble.run listening).2).1.toOption = some () ∧
      (runAll [stumble, retry] listening).processor.heard.filterMap realm? = [("1", "a"), ("1", "b")] :=
  ⟨rfl, rfl, by decide +kernel, by decide +kernel⟩

end Turn

end CredentialSync
