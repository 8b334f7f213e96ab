import CredentialSync.Bridge.Merge
import CredentialSync.Proofs.Bridge.Events

/-!
# The fates of remote entities

What a merge does with one remote entity is its `Fate`: it overwrites a record, or it is added, with
or without a record removed for it. `Fated` says which fate an entity meets, given the bookkeeping of
the merge and the records.

* `Indexed` is the invariant of the bookkeeping: the candidates of a client tag are the resident
  keys with this tag, matched keys are resident, and replaced ones are gone for good.
* `Indexed.ofRecords`, `Fated.indexed`: it holds at the start, and every fate keeps it.
* `Fates` is the run over all entities.
-/

namespace CredentialSync

/-- What a merge does with a remote entity. -/
inductive Fate where
  /-- The record under the key takes over the remote data. -/
  | overwrote (key : PrimaryKey)
  /-- The entity becomes a new record, perhaps in place of a removed one. -/
  | added (key : PrimaryKey) (removed : Option (PrimaryKey × Record))
  deriving DecidableEq

namespace Fate

/-- The changes that a fate makes to the records. -/
def changes (e : Entity) : Fate → List LocalChange
  | .overwrote key => [⟨.update, key, e.record⟩]
  | .added key none => [⟨.add, key, e.record⟩]
  | .added key (some (old, r)) => [⟨.remove, old, r⟩, ⟨.add, key, e.record⟩]

/-- What the processor is told. -/
def calls (e : Entity) : Fate → List ProcessorCall
  | .overwrote _ => []
  | .added key _ => [.assignKey key.storageKey e]

/-- What else a fate does. -/
def events (e : Entity) : Fate → List Work.Event
  | .overwrote key => [.write [.set key.storageKey (.ofRemote e)]]
  | .added key none =>
    [.write [.set key.storageKey (.ofRemote e)], .call (.assignKey key.storageKey e)]
  | .added key (some (old, _)) =>
    [.write [.clear old.storageKey], .write [.set key.storageKey (.ofRemote e)],
      .call (.assignKey key.storageKey e)]

theorem filterMap_events (e : Entity) (f : Fate) :
    (f.events e).filterMap Work.Event.call? = f.calls e := by
  cases f with
  | overwrote key => rfl
  | added key removed => cases removed <;> rfl

end Fate

namespace Vault

/-- Whether a record with the natural key of `r` lives under the key. -/
def holds (v : Vault) (r : Record) (key : PrimaryKey) : Bool :=
  (v.records.get? key).any (·.sameNaturalKey r)

theorem holds_iff {v : Vault} {r : Record} {key : PrimaryKey} :
    v.holds r key = true ↔ ∃ old, v.records.get? key = some old ∧ old.naturalKey = r.naturalKey := by
  cases h : v.records.get? key <;> simp [holds, h, Record.sameNaturalKey]

/-- The vault with a record added under its next key. -/
def insertNew (v : Vault) (key : PrimaryKey) (r : Record) : Vault :=
  { records := v.records.insert key r, lastKey := key }

@[simp] theorem records_insertNew (v : Vault) (key : PrimaryKey) (r : Record) :
    (v.insertNew key r).records = v.records.insert key r := rfl

@[simp] theorem lastKey_insertNew (v : Vault) (key : PrimaryKey) (r : Record) :
    (v.insertNew key r).lastKey = key := rfl

end Vault

namespace Merging

/-! ## 1. Which fate an entity meets -/

/-- The key whose record has the natural key of an entity. -/
def meet? (m : Merging) (v : Vault) (e : Entity) : Option PrimaryKey :=
  (m.candidates e.specifics.tag).find? (v.holds e.record)

/-- The key whose record makes way for an entity. -/
def victim? (m : Merging) (e : Entity) : Option PrimaryKey :=
  m.unmatched? (m.candidates e.specifics.tag)

/-- One more entity met a local record. -/
def countMatched (m : Merging) : Merging :=
  { m with summary := { m.summary with matched := m.summary.matched + 1 } }

/-- One more entity became a new record. -/
def countRemoteOnly (m : Merging) : Merging :=
  { m with summary := { m.summary with remoteOnly := m.summary.remoteOnly + 1 } }

end Merging

/-- The fate of an entity, with the records and the bookkeeping behind it. -/
inductive Fated (m : Merging) (v : Vault) (e : Entity) : Fate → Vault → Merging → Prop where
  | overwrote {key : PrimaryKey} (hmeet : m.meet? v e = some key) :
      Fated m v e (.overwrote key) (v.put key e.record)
        { m.countMatched with matched := key :: m.matched }
  | replaced {old key : PrimaryKey} {r : Record} (hmeet : m.meet? v e = none)
      (hvictim : m.victim? e = some old) (hold : v.records.get? old = some r)
      (hkey : PrimaryKey.next? v.lastKey = some key) :
      Fated m v e (.added key (some (old, r))) ((v.drop old).insertNew key e.record)
        ({ m.countMatched with replaced := old :: m.replaced }.note e.specifics.tag key)
  | added {key : PrimaryKey} (hmeet : m.meet? v e = none) (hvictim : m.victim? e = none)
      (hkey : PrimaryKey.next? v.lastKey = some key) :
      Fated m v e (.added key none) (v.insertNew key e.record)
        (m.countRemoteOnly.note e.specifics.tag key)

/-- The fates of entities, one after another. -/
inductive Fates : Merging → Vault → List (Entity × Fate) → Vault → Merging → Prop where
  | nil (m : Merging) (v : Vault) : Fates m v [] v m
  | cons {m m' m'' : Merging} {v v' v'' : Vault} {e : Entity} {f : Fate} {fs : List (Entity × Fate)}
      (h : Fated m v e f v' m') (hs : Fates m' v' fs v'' m'') : Fates m v ((e, f) :: fs) v'' m''

theorem Fates.of_nil {m m' : Merging} {v v' : Vault} (h : Fates m v [] v' m') : v' = v := by
  cases h
  rfl

/-! ## 2. The bookkeeping -/

/-- The bookkeeping agrees with the records. -/
structure Indexed (m : Merging) (v : Vault) : Prop where
  sound : v.Sound
  candidates : ∀ tag key, key ∈ m.candidates tag ↔
    ∃ r, v.records.get? key = some r ∧ r.specifics.tag = tag
  nodup : ∀ tag, (m.candidates tag).Nodup
  matched : ∀ key ∈ m.matched, ∃ r, v.records.get? key = some r
  replaced : ∀ key ∈ m.replaced, v.records.get? key = none ∧ key ≤ v.lastKey

/-! ## 3. Client tags -/

/-- A record and its specifics have one client tag, and natural keys determine it. -/
theorem Record.tag_eq {r s : Record} (h : r.naturalKey = s.naturalKey) :
    r.specifics.tag = s.specifics.tag := by
  have horigin : r.origin = s.origin := congrArg NaturalKey.origin h
  have huser : r.usernameElement = s.usernameElement := congrArg NaturalKey.usernameElement h
  have hname : r.usernameValue = s.usernameValue := congrArg NaturalKey.usernameValue h
  have hpassword : r.passwordElement = s.passwordElement := congrArg NaturalKey.passwordElement h
  have hrealm : r.signonRealm = s.signonRealm := congrArg NaturalKey.signonRealm h
  simp only [Specifics.tag, Record.specifics, horigin, huser, hname, hpassword, hrealm]

@[simp] theorem Entity.tag_record (e : Entity) : e.record.specifics.tag = e.specifics.tag := rfl

namespace Merging

variable {m : Merging} {v : Vault} {tag : String} {key : PrimaryKey}

/-! ## 4. Candidates -/

/-- All keys noted for a client tag, replaced ones included. -/
def noted (m : Merging) (tag : String) : List PrimaryKey := (m.index.get? tag).getD []

theorem candidates_eq (m : Merging) (tag : String) :
    m.candidates tag = (m.noted tag).filter fun key => !m.replaced.contains key := rfl

theorem noted_note (m : Merging) (tag tag' : String) (key : PrimaryKey) :
    (m.note tag key).noted tag' = if tag = tag' then m.noted tag' ++ [key] else m.noted tag' := by
  unfold noted note
  rw [SortedMap.get?_insert]
  by_cases h : tag = tag'
  · rw [if_pos h, if_pos h, h]
    rfl
  · rw [if_neg h, if_neg h]

/-- A key that has not been replaced becomes the last candidate of its tag. -/
theorem candidates_note (hkey : key ∉ m.replaced) (tag' : String) :
    (m.note tag key).candidates tag' =
      if tag = tag' then m.candidates tag' ++ [key] else m.candidates tag' := by
  rw [candidates_eq, noted_note, show (m.note tag key).replaced = m.replaced from rfl]
  by_cases h : tag = tag'
  · rw [if_pos h, if_pos h, List.filter_append, candidates_eq]
    simp [hkey]
  · rw [if_neg h, if_neg h, candidates_eq]

theorem candidates_replace (m : Merging) (old : PrimaryKey) (tag : String) :
    ({ m with replaced := old :: m.replaced } : Merging).candidates tag =
      (m.candidates tag).filter (· != old) := by
  rw [candidates_eq, candidates_eq, List.filter_filter]
  refine List.filter_congr fun key _ => ?_
  simp only [List.contains_cons, Bool.not_or]
  rfl

/-- The merge begins with a note of every record. -/
theorem ofRecords_eq (records : SortedMap PrimaryKey Record) :
    ofRecords records = records.toList.foldl (fun m x => m.note x.2.specifics.tag x.1) {} := rfl

/-- At the start the candidates of a tag are its records in key order. -/
theorem candidates_ofRecords (records : SortedMap PrimaryKey Record) (tag : String) :
    (ofRecords records).candidates tag =
      (records.toList.filter fun x => x.2.specifics.tag == tag).map (·.1) := by
  have hfold : ∀ (rs : List (PrimaryKey × Record)) (m : Merging), m.replaced = [] →
      (rs.foldl (fun m x => m.note x.2.specifics.tag x.1) m).candidates tag =
        m.candidates tag ++ (rs.filter fun x => x.2.specifics.tag == tag).map (·.1) := by
    intro rs
    induction rs with
    | nil => intro m _; simp
    | cons x rs ih =>
      intro m hm
      obtain ⟨key, r⟩ := x
      rw [List.foldl_cons, ih (m.note _ key) hm, candidates_note (by rw [hm]; exact List.not_mem_nil),
        List.filter_cons]
      by_cases h : r.specifics.tag = tag <;> simp [h]
  rw [ofRecords_eq, hfold _ _ rfl]
  rfl

/-- At the start nothing is matched, replaced or counted. -/
theorem ofRecords_start (records : SortedMap PrimaryKey Record) :
    (ofRecords records).matched = [] ∧ (ofRecords records).replaced = [] ∧
      (ofRecords records).summary = {} := by
  have hfold : ∀ (rs : List (PrimaryKey × Record)) (m : Merging),
      (rs.foldl (fun m x => m.note x.2.specifics.tag x.1) m).matched = m.matched ∧
        (rs.foldl (fun m x => m.note x.2.specifics.tag x.1) m).replaced = m.replaced ∧
        (rs.foldl (fun m x => m.note x.2.specifics.tag x.1) m).summary = m.summary := by
    intro rs
    induction rs with
    | nil => exact fun m => ⟨rfl, rfl, rfl⟩
    | cons x rs ih => exact fun m => ih (m.note x.2.specifics.tag x.1)
  rw [ofRecords_eq]
  exact hfold _ _

theorem victim_mem {e : Entity} {old : PrimaryKey} (h : m.victim? e = some old) :
    old ∈ m.candidates e.specifics.tag ∧ old ∉ m.matched := by
  refine ⟨List.mem_of_find?_eq_some h, ?_⟩
  have := List.find?_some h
  simpa using this

theorem meet_mem {e : Entity} (h : m.meet? v e = some key) :
    key ∈ m.candidates e.specifics.tag ∧
      ∃ r, v.records.get? key = some r ∧ r.naturalKey = e.record.naturalKey :=
  ⟨List.mem_of_find?_eq_some h, Vault.holds_iff.1 (List.find?_some h)⟩

/-- No candidate has the natural key of an entity that meets none. -/
theorem meet_none {e : Entity} (h : m.meet? v e = none) {r : Record}
    (hkey : key ∈ m.candidates e.specifics.tag) (hr : v.records.get? key = some r) :
    r.naturalKey ≠ e.record.naturalKey := fun hn =>
  absurd (Vault.holds_iff.2 ⟨r, hr, hn⟩) (by simpa using List.find?_eq_none.1 h key hkey)

end Merging

/-! ## 5. The invariant -/

/-- **The bookkeeping agrees with the records at the start.** -/
theorem Indexed.ofRecords {v : Vault} (hv : v.Sound) : Indexed (.ofRecords v.records) v where
  sound := hv
  candidates tag key := by
    rw [Merging.candidates_ofRecords, List.mem_map]
    constructor
    · rintro ⟨⟨k, r⟩, hmem, rfl⟩
      obtain ⟨hmem, htag⟩ := List.mem_filter.1 hmem
      exact ⟨r, SortedMap.mem_toList_iff.1 hmem, by simpa using htag⟩
    · rintro ⟨r, hr, htag⟩
      exact ⟨(key, r), List.mem_filter.2 ⟨SortedMap.mem_toList_iff.2 hr, by simpa using htag⟩, rfl⟩
  nodup tag := by
    rw [Merging.candidates_ofRecords]
    exact (SortedMap.nodup_keys v.records).sublist (List.Sublist.map _ List.filter_sublist)
  matched := by
    rw [(Merging.ofRecords_start _).1]
    exact fun _ h => nomatch h
  replaced := by
    rw [(Merging.ofRecords_start _).2.1]
    exact fun _ h => nomatch h

namespace Indexed

variable {m m' : Merging} {v v' : Vault} {e : Entity} {f : Fate}

/-- The counts do not matter. -/
theorem count (h : Indexed m v) (s : MergeSummary) : Indexed { m with summary := s } v :=
  ⟨h.sound, h.candidates, h.nodup, h.matched, h.replaced⟩

/-- A new key is above all keys of the bookkeeping. -/
theorem not_mem_of_next (h : Indexed m v) {key : PrimaryKey}
    (hkey : PrimaryKey.next? v.lastKey = some key) :
    v.records.get? key = none ∧ key ∉ m.replaced ∧ ∀ tag, key ∉ m.candidates tag := by
  have hlt := PrimaryKey.lt_of_next? hkey
  have hnone := h.sound.fresh hlt
  refine ⟨hnone, fun hmem => ?_, fun tag hmem => ?_⟩
  · exact Int64.lt_irrefl (Int64.lt_of_lt_of_le hlt (h.replaced key hmem).2)
  · obtain ⟨r, hr, -⟩ := (h.candidates tag key).1 hmem
    rw [hnone] at hr
    cases hr

/-- Putting a record with the same natural key under a resident key. -/
theorem put (h : Indexed m v) {key : PrimaryKey} {old r : Record}
    (hold : v.records.get? key = some old) (hn : old.naturalKey = r.naturalKey) :
    Indexed m (v.put key r) where
  sound := (Vault.Step.update v key old r hold hn).sound h.sound
  candidates tag k := by
    rw [h.candidates tag k, Vault.records_put, SortedMap.get?_insert]
    by_cases hk : key = k
    · subst hk
      rw [if_pos rfl, hold]
      simp [Record.tag_eq hn]
    · rw [if_neg hk]
  nodup := h.nodup
  matched k hk := by
    rw [Vault.records_put, SortedMap.get?_insert]
    split
    · exact ⟨r, rfl⟩
    · exact h.matched k hk
  replaced k hk := by
    have hnone := h.replaced k hk
    rw [Vault.records_put, SortedMap.get?_insert, if_neg]
    · exact hnone
    · rintro rfl
      rw [hold] at hnone
      cases hnone.1

/-- Removing the record under a candidate that has not matched. -/
theorem drop (h : Indexed m v) {old : PrimaryKey} {r : Record} (hold : v.records.get? old = some r)
    (hmatched : old ∉ m.matched) :
    Indexed { m with replaced := old :: m.replaced } (v.drop old) where
  sound := (Vault.Step.remove v old r hold).sound h.sound
  candidates tag k := by
    rw [Merging.candidates_replace, List.mem_filter, h.candidates tag k, Vault.records_drop,
      SortedMap.get?_erase]
    by_cases hk : old = k
    · simp [hk]
    · simp [hk, Ne.symm hk]
  nodup tag := by
    rw [Merging.candidates_replace]
    exact (h.nodup tag).filter _
  matched k hk := by
    rw [Vault.records_drop, SortedMap.get?_erase, if_neg]
    · exact h.matched k hk
    · rintro rfl
      exact hmatched hk
  replaced k hk := by
    rw [Vault.records_drop, SortedMap.get?_erase, Vault.lastKey_drop]
    rcases List.mem_cons.1 hk with rfl | hk
    · exact ⟨if_pos rfl, h.sound _ r hold⟩
    · obtain ⟨hnone, hle⟩ := h.replaced k hk
      exact ⟨by rw [hnone, ite_self], hle⟩

/-- Adding an entity under a new key. -/
theorem insertNew (h : Indexed m v) {key : PrimaryKey} (e : Entity)
    (hkey : PrimaryKey.next? v.lastKey = some key) :
    Indexed (m.note e.specifics.tag key) (v.insertNew key e.record) := by
  obtain ⟨hnone, hreplaced, hcandidates⟩ := h.not_mem_of_next hkey
  have hlt := PrimaryKey.lt_of_next? hkey
  refine ⟨(Vault.Step.add v key e.record hlt).sound h.sound, fun tag k => ?_, fun tag => ?_,
    fun k hk => ?_, fun k hk => ?_⟩
  · rw [Merging.candidates_note hreplaced, Vault.records_insertNew, SortedMap.get?_insert]
    by_cases hk : key = k
    · subst hk
      have := hcandidates tag
      by_cases htag : e.specifics.tag = tag <;> simp [htag, this]
    · rw [if_neg hk, ← h.candidates tag k]
      by_cases htag : e.specifics.tag = tag <;> simp [htag, Ne.symm hk]
  · rw [Merging.candidates_note hreplaced]
    by_cases htag : e.specifics.tag = tag
    · rw [if_pos htag]
      refine List.nodup_append.2 ⟨h.nodup tag, List.pairwise_singleton _ _, fun a ha b hb hab => ?_⟩
      rw [List.mem_singleton.1 hb] at hab
      exact hcandidates tag (hab ▸ ha)
    · rw [if_neg htag]
      exact h.nodup tag
  · rw [Vault.records_insertNew, SortedMap.get?_insert]
    split
    · exact ⟨e.record, rfl⟩
    · exact h.matched k hk
  · obtain ⟨hgone, hle⟩ := h.replaced k hk
    rw [Vault.records_insertNew, SortedMap.get?_insert, if_neg]
    · exact ⟨hgone, Int64.le_of_lt (Int64.lt_of_le_of_lt hle hlt)⟩
    · rintro rfl
      exact hreplaced hk

end Indexed

/-- **Every fate keeps the agreement.** -/
theorem Fated.indexed {m m' : Merging} {v v' : Vault} {e : Entity} {f : Fate}
    (h : Fated m v e f v' m') (hi : Indexed m v) : Indexed m' v' := by
  cases h with
  | @overwrote key hmeet =>
    obtain ⟨-, old, hold, hn⟩ := Merging.meet_mem hmeet
    have hput := (hi.count m.countMatched.summary).put hold hn
    refine ⟨hput.sound, hput.candidates, hput.nodup, fun k hk => ?_, hput.replaced⟩
    rcases List.mem_cons.1 hk with rfl | hk
    · exact ⟨e.record, by simp⟩
    · exact hput.matched k hk
  | replaced hmeet hvictim hold hkey =>
    exact ((hi.count m.countMatched.summary).drop hold
      (Merging.victim_mem hvictim).2).insertNew e hkey
  | added hmeet hvictim hkey => exact (hi.count m.countRemoteOnly.summary).insertNew e hkey

/-- The agreement holds behind all fates. -/
theorem Fates.indexed {m m' : Merging} {v v' : Vault} {fs : List (Entity × Fate)}
    (h : Fates m v fs v' m') (hi : Indexed m v) : Indexed m' v' := by
  induction h with
  | nil => exact hi
  | cons hf _ ih => exact ih (hf.indexed hi)

end CredentialSync
