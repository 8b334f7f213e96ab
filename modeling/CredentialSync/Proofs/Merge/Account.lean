import CredentialSync.Proofs.Key
import CredentialSync.Proofs.Merge.Merged
import CredentialSync.Proofs.Store.Reached

/-!
# The account of a merge

After a merge that succeeds, every record and every remote entity is accounted for.

* A record that was resident at the start has taken over remote data, or was removed, or was
  announced, and never two of them (`Ending`).
* A remote entity has overwritten a resident record without a word to the processor, or has become
  a record under a fresh key, of which the processor was told once.

`Accounts` collects this, and `merge_accounts` says that a merge that succeeds has such an account.
-/

namespace CredentialSync

open Attempt

namespace Fate

/-- The key under which a fate has added a record. -/
def addedKey? : Fate → Option PrimaryKey
  | .overwrote _ => none
  | .added key _ => some key

/-- The key whose record a fate has removed. -/
def removedKey? : Fate → Option PrimaryKey
  | .added _ (some (old, _)) => some old
  | _ => none

/-- The key whose record a fate has overwritten. -/
def overwrittenKey? : Fate → Option PrimaryKey
  | .overwrote key => some key
  | .added _ _ => none

end Fate

namespace Fates

/-! ## 1. The keys of a run -/

/-- The keys under which some fates have added records. -/
def added (fs : List (Entity × Fate)) : List PrimaryKey := fs.filterMap (·.2.addedKey?)

/-- The keys whose records some fates have removed. -/
def removed (fs : List (Entity × Fate)) : List PrimaryKey := fs.filterMap (·.2.removedKey?)

/-- The entities that have overwritten the record under a key, in order. -/
def applied (fs : List (Entity × Fate)) (key : PrimaryKey) : List Entity :=
  (fs.filter fun x => x.2.overwrittenKey? == some key).map (·.1)

variable {m m' : Merging} {v v' : Vault} {fs : List (Entity × Fate)} {key : PrimaryKey}

theorem lastKey_le (h : Fates m v fs v' m') : v.lastKey ≤ v'.lastKey := by
  induction h with
  | nil => exact Int64.le_refl _
  | cons hf _ ih =>
    refine Int64.le_trans ?_ ih
    cases hf with
    | overwrote => exact Int64.le_refl _
    | replaced _ _ _ hkey | added _ _ hkey => exact Int64.le_of_lt (PrimaryKey.lt_of_next? hkey)

/-- Every added key lies above all keys given out before. -/
theorem lt_of_added (h : Fates m v fs v' m') (hkey : key ∈ added fs) : v.lastKey < key := by
  induction h with
  | nil => cases hkey
  | cons hf _ ih =>
    cases hf with
    | overwrote => exact ih hkey
    | replaced _ _ _ hnext | added _ _ hnext =>
      have hlt := PrimaryKey.lt_of_next? hnext
      rcases List.mem_cons.1 hkey with rfl | hkey
      · exact hlt
      · exact Int64.lt_trans hlt (ih hkey)

/-- What was matched has been matched before or overwritten in between. -/
theorem matched_iff (h : Fates m v fs v' m') :
    key ∈ m'.matched ↔ key ∈ m.matched ∨ applied fs key ≠ [] := by
  induction h with
  | nil => simp [applied]
  | @cons _ _ _ _ _ _ e f fs hf _ ih =>
    rw [ih]
    cases hf with
    | @overwrote k =>
      by_cases hk : k = key
      · simp [applied, Fate.overwrittenKey?, hk]
      · simp [applied, Fate.overwrittenKey?, hk, Ne.symm hk]
    | replaced | added => exact Iff.rfl

/-- What was replaced has been replaced before or removed in between. -/
theorem replaced_iff (h : Fates m v fs v' m') :
    key ∈ m'.replaced ↔ key ∈ m.replaced ∨ key ∈ removed fs := by
  induction h with
  | nil => simp [removed]
  | cons hf _ ih =>
    rw [ih]
    cases hf with
    | overwrote | added => exact Iff.rfl
    | replaced =>
      simp only [removed, List.filterMap_cons, Fate.removedKey?, Merging.note, List.mem_cons]
      rw [or_assoc, or_left_comm]

/-- A matched key stays. -/
theorem not_removed_of_matched (h : Fates m v fs v' m') (hkey : key ∈ m.matched) :
    key ∉ removed fs := by
  induction h with
  | nil => exact List.not_mem_nil
  | cons hf _ ih =>
    cases hf with
    | overwrote => exact ih (List.mem_cons_of_mem _ hkey)
    | added => exact ih hkey
    | replaced _ hvictim =>
      intro hmem
      rcases List.mem_cons.1 hmem with rfl | hmem
      · exact (Merging.victim_mem hvictim).2 hkey
      · exact ih hkey hmem

/-! ## 2. What becomes of a resident record -/

theorem changesOf_cons (e : Entity) (f : Fate) (fs : List (Entity × Fate)) :
    Merge.changesOf ((e, f) :: fs) = f.changes e ++ Merge.changesOf fs := rfl

theorem applied_cons (e : Entity) (f : Fate) (fs : List (Entity × Fate)) (key : PrimaryKey) :
    applied ((e, f) :: fs) key =
      if f.overwrittenKey? = some key then e :: applied fs key else applied fs key := by
  unfold applied
  rw [List.filter_cons]
  by_cases h : f.overwrittenKey? = some key <;> simp [h]

/-- A key without a record that has been given out is never used again. -/
theorem unused (h : Fates m v fs v' m') (hle : key ≤ v.lastKey) (hnone : v.records.get? key = none) :
    applied fs key = [] ∧ key ∉ removed fs := by
  induction h with
  | nil => exact ⟨rfl, List.not_mem_nil⟩
  | cons hf _ ih =>
    rw [applied_cons]
    cases hf with
    | @overwrote k hmeet =>
      obtain ⟨-, old, hold, -⟩ := Merging.meet_mem hmeet
      have hne : k ≠ key := fun he => by rw [he, hnone] at hold; cases hold
      rw [Fate.overwrittenKey?, if_neg fun he => hne (Option.some.inj he)]
      exact ih hle (by simp [hne, hnone])
    | @replaced old k r hmeet hvictim hold hkey =>
      have hlt := PrimaryKey.lt_of_next? hkey
      have hne : k ≠ key := fun he => Int64.lt_irrefl (Int64.lt_of_le_of_lt hle (he ▸ hlt))
      obtain ⟨happlied, hremoved⟩ :=
        ih (Int64.le_trans hle (Int64.le_of_lt hlt)) (by simp [hne, hnone])
      refine ⟨happlied, fun hmem => ?_⟩
      rcases List.mem_cons.1 hmem with rfl | hmem
      · rw [hnone] at hold
        cases hold
      · exact hremoved hmem
    | @added k hmeet hvictim hkey =>
      have hlt := PrimaryKey.lt_of_next? hkey
      have hne : k ≠ key := fun he => Int64.lt_irrefl (Int64.lt_of_le_of_lt hle (he ▸ hlt))
      exact ih (Int64.le_trans hle (Int64.le_of_lt hlt)) (by simp [hne, hnone])

/-- A record that nothing was applied to and that was not removed stays as it is. -/
theorem untouched (h : Fates m v fs v' m') (hle : key ≤ v.lastKey) (happlied : applied fs key = [])
    (hremoved : key ∉ removed fs) :
    (∀ c ∈ Merge.changesOf fs, c.key ≠ key) ∧ v'.records.get? key = v.records.get? key := by
  induction h with
  | nil => exact ⟨fun _ hc => absurd hc List.not_mem_nil, rfl⟩
  | cons hf _ ih =>
    rw [applied_cons] at happlied
    cases hf with
    | @overwrote k hmeet =>
      have hne : k ≠ key := fun he => by simp [Fate.overwrittenKey?, he] at happlied
      rw [Fate.overwrittenKey?, if_neg fun he => hne (Option.some.inj he)] at happlied
      obtain ⟨hchanges, hget⟩ := ih hle happlied hremoved
      refine ⟨fun c hc => ?_, by rw [hget]; simp [hne]⟩
      rcases List.mem_cons.1 hc with rfl | hc
      · exact hne
      · exact hchanges c hc
    | @replaced old k r hmeet hvictim hold hkey =>
      have hlt := PrimaryKey.lt_of_next? hkey
      have hne : k ≠ key := fun he => Int64.lt_irrefl (Int64.lt_of_le_of_lt hle (he ▸ hlt))
      have hold' : old ≠ key := fun he => hremoved (he ▸ List.mem_cons_self)
      obtain ⟨hchanges, hget⟩ := ih (Int64.le_trans hle (Int64.le_of_lt hlt)) happlied
        fun hmem => hremoved (List.mem_cons_of_mem _ hmem)
      refine ⟨fun c hc => ?_, by rw [hget]; simp [hne, hold']⟩
      rcases List.mem_cons.1 hc with rfl | hc
      · exact hold'
      rcases List.mem_cons.1 hc with rfl | hc
      · exact hne
      · exact hchanges c hc
    | @added k hmeet hvictim hkey =>
      have hlt := PrimaryKey.lt_of_next? hkey
      have hne : k ≠ key := fun he => Int64.lt_irrefl (Int64.lt_of_le_of_lt hle (he ▸ hlt))
      obtain ⟨hchanges, hget⟩ := ih (Int64.le_trans hle (Int64.le_of_lt hlt)) happlied hremoved
      refine ⟨fun c hc => ?_, by rw [hget]; simp [hne]⟩
      rcases List.mem_cons.1 hc with rfl | hc
      · exact hne
      · exact hchanges c hc

/-- A removed record is removed once, as it was, and nothing else happens to it. -/
theorem removed_once (h : Fates m v fs v' m') (hle : key ≤ v.lastKey) {r : Record}
    (hr : v.records.get? key = some r) (hremoved : key ∈ removed fs) :
    (Merge.changesOf fs).filter (·.key == key) = [⟨.remove, key, r⟩] ∧
      v'.records.get? key = none := by
  induction h with
  | nil => cases hremoved
  | @cons m m' m'' v v' v'' e f fs hf hs ih =>
    rw [changesOf_cons, List.filter_append]
    cases hf with
    | @overwrote k hmeet =>
      have hne : k ≠ key := fun he =>
        hs.not_removed_of_matched (he ▸ List.mem_cons_self) hremoved
      obtain ⟨hchanges, hget⟩ := ih hle (by simp [hne, hr]) hremoved
      rw [hchanges]
      exact ⟨by simp [Fate.changes, hne], hget⟩
    | @replaced old k r' hmeet hvictim hold hkey =>
      have hlt := PrimaryKey.lt_of_next? hkey
      have hne : k ≠ key := fun he => Int64.lt_irrefl (Int64.lt_of_le_of_lt hle (he ▸ hlt))
      have hle' := Int64.le_trans hle (Int64.le_of_lt hlt)
      by_cases hold' : old = key
      · subst hold'
        obtain rfl : r' = r := by
          rw [hr] at hold
          exact (Option.some.inj hold).symm
        have hgone : ((v.drop old).insertNew k e.record).records.get? old = none := by simp [hne]
        obtain ⟨happlied, hremoved'⟩ := hs.unused hle' hgone
        obtain ⟨hchanges, hget⟩ := hs.untouched hle' happlied hremoved'
        have hnone : (Merge.changesOf fs).filter (·.key == old) = [] :=
          List.filter_eq_nil_iff.2 fun c hc => by simpa using hchanges c hc
        rw [hnone]
        exact ⟨by simp [Fate.changes, hne], hget.trans hgone⟩
      · have hmem : key ∈ removed fs :=
          (List.mem_cons.1 hremoved).resolve_left (Ne.symm hold')
        obtain ⟨hchanges, hget⟩ := ih hle' (by simp [hne, hold', hr]) hmem
        rw [hchanges]
        exact ⟨by simp [Fate.changes, hne, hold'], hget⟩
    | @added k hmeet hvictim hkey =>
      have hlt := PrimaryKey.lt_of_next? hkey
      have hne : k ≠ key := fun he => Int64.lt_irrefl (Int64.lt_of_le_of_lt hle (he ▸ hlt))
      obtain ⟨hchanges, hget⟩ :=
        ih (Int64.le_trans hle (Int64.le_of_lt hlt)) (by simp [hne, hr]) hremoved
      rw [hchanges]
      exact ⟨by simp [Fate.changes, hne], hget⟩

/-- A record that is not removed ends as the last entity applied to it, and keeps its natural key. -/
theorem overwritten (h : Fates m v fs v' m') (hle : key ≤ v.lastKey) {r : Record}
    (hr : v.records.get? key = some r) (hremoved : key ∉ removed fs) :
    v'.records.get? key = some (((applied fs key).getLast?.map Entity.record).getD r) ∧
      ∀ e ∈ applied fs key, e.record.naturalKey = r.naturalKey := by
  induction h generalizing r with
  | nil => exact ⟨hr, fun _ he => absurd he List.not_mem_nil⟩
  | @cons m m' m'' v v' v'' e f fs hf _ ih =>
    rw [applied_cons]
    cases hf with
    | @overwrote k hmeet =>
      by_cases hk : k = key
      · subst hk
        obtain ⟨-, old, hold, hn⟩ := Merging.meet_mem hmeet
        obtain rfl : old = r := by
          rw [hr] at hold
          exact (Option.some.inj hold).symm
        obtain ⟨hget, hall⟩ := ih (r := e.record) hle (by simp) hremoved
        rw [Fate.overwrittenKey?, if_pos rfl, hget]
        refine ⟨?_, fun e' he' => ?_⟩
        · rw [List.getLast?_cons]
          cases (applied fs k).getLast? <;> rfl
        · rcases List.mem_cons.1 he' with rfl | he'
          · exact hn.symm
          · exact (hall e' he').trans hn.symm
      · rw [Fate.overwrittenKey?, if_neg fun he => hk (Option.some.inj he)]
        exact ih hle (by simp [hk, hr]) hremoved
    | @replaced old k r' hmeet hvictim hold hkey =>
      have hlt := PrimaryKey.lt_of_next? hkey
      have hne : k ≠ key := fun he => Int64.lt_irrefl (Int64.lt_of_le_of_lt hle (he ▸ hlt))
      have hold' : old ≠ key := fun he => hremoved (he ▸ List.mem_cons_self)
      exact ih (Int64.le_trans hle (Int64.le_of_lt hlt)) (by simp [hne, hold', hr])
        fun hmem => hremoved (List.mem_cons_of_mem _ hmem)
    | @added k hmeet hvictim hkey =>
      have hlt := PrimaryKey.lt_of_next? hkey
      have hne : k ≠ key := fun he => Int64.lt_irrefl (Int64.lt_of_le_of_lt hle (he ▸ hlt))
      exact ih (Int64.le_trans hle (Int64.le_of_lt hlt)) (by simp [hne, hr]) hremoved

/-! ## 3. What becomes of an entity -/

/-- A run up to some point, and from there on. -/
theorem split {gs : List (Entity × Fate)} (h : Fates m v (fs ++ gs) v' m') :
    ∃ m₁ v₁, Fates m v fs v₁ m₁ ∧ Fates m₁ v₁ gs v' m' := by
  induction fs generalizing m v with
  | nil => exact ⟨m, v, .nil m v, h⟩
  | cons x fs ih =>
    cases h with
    | cons hf hs =>
      obtain ⟨m₁, v₁, hfs, hgs⟩ := ih hs
      exact ⟨m₁, v₁, .cons hf hfs, hgs⟩

/-- Every added key has been given out. -/
theorem le_of_added (h : Fates m v fs v' m') (hkey : key ∈ added fs) : key ≤ v'.lastKey := by
  induction h with
  | nil => cases hkey
  | cons hf hs ih =>
    cases hf with
    | overwrote => exact ih hkey
    | replaced | added =>
      rcases List.mem_cons.1 hkey with rfl | hkey
      · exact hs.lastKey_le
      · exact ih hkey

/-- A resident key was resident at the start or has been added. -/
theorem resident_or_added (h : Fates m v fs v' m') {r : Record}
    (hr : v'.records.get? key = some r) :
    (∃ r, v.records.get? key = some r) ∨ key ∈ added fs := by
  induction h with
  | nil => exact .inl ⟨r, hr⟩
  | cons hf _ ih =>
    rcases ih hr with ⟨r₁, hr₁⟩ | hmem
    · cases hf with
      | @overwrote k hmeet =>
        obtain ⟨-, old, hold, -⟩ := Merging.meet_mem hmeet
        left
        by_cases hk : k = key
        · exact ⟨old, hk ▸ hold⟩
        · exact ⟨r₁, by simpa [hk] using hr₁⟩
      | @replaced old k r' hmeet hvictim hold hkey =>
        by_cases hk : k = key
        · exact .inr (hk ▸ List.mem_cons_self)
        · by_cases ho : old = key
          · exact .inl ⟨r', ho ▸ hold⟩
          · exact .inl ⟨r₁, by simpa [hk, ho] using hr₁⟩
      | @added k hmeet hvictim hkey =>
        by_cases hk : k = key
        · exact .inr (hk ▸ List.mem_cons_self)
        · exact .inl ⟨r₁, by simpa [hk] using hr₁⟩
    · right
      cases hf with
      | overwrote => exact hmem
      | replaced | added => exact List.mem_cons_of_mem _ hmem

/-- An addition among the changes is that of an added key. -/
theorem added_of_change {fs : List (Entity × Fate)} {c : LocalChange}
    (hc : c ∈ Merge.changesOf fs) (hkind : c.kind = .add) : c.key ∈ added fs := by
  obtain ⟨⟨e, f⟩, hmem, hc⟩ := List.mem_flatMap.1 hc
  refine List.mem_filterMap.2 ⟨(e, f), hmem, ?_⟩
  cases f with
  | overwrote k =>
    rw [List.mem_singleton.1 hc] at hkind
    cases hkind
  | added k old? =>
    cases old? with
    | none => rw [List.mem_singleton.1 hc]; rfl
    | some old =>
      rcases List.mem_cons.1 hc with rfl | hc
      · cases hkind
      · rw [List.mem_singleton.1 hc]; rfl

/-- The processor is told the storage keys of added keys only. -/
theorem added_of_call {fs : List (Entity × Fate)} {c : ProcessorCall} (hc : c ∈ Merge.callsOf fs) :
    ∃ k e, k ∈ added fs ∧ c = .assignKey k.storageKey e := by
  obtain ⟨⟨e, f⟩, hmem, hc⟩ := List.mem_flatMap.1 hc
  cases f with
  | overwrote k => cases hc
  | added k old? =>
    exact ⟨k, e, List.mem_filterMap.2 ⟨_, hmem, rfl⟩, List.mem_singleton.1 hc⟩

end Fates

/-- The storage key of a record that a processor is told of. -/
def ProcessorCall.put? : ProcessorCall → Option StorageKey
  | .put key _ => some key
  | _ => none

namespace Fates

variable {m m' : Merging} {v v' : Vault} {pre post : List (Entity × Fate)} {e : Entity}
  {key : PrimaryKey}

/-- An overwritten record was resident then. -/
theorem resident_of_overwrote (h : Fates m v (pre ++ (e, .overwrote key) :: post) v' m')
    (hi : Indexed m v) :
    ((∃ r, v.records.get? key = some r) ∨ key ∈ added pre) ∧ key ∉ removed pre := by
  obtain ⟨m₁, v₁, hpre, hpost⟩ := split h
  cases hpost with
  | cons hf _ =>
    cases hf with
    | overwrote hmeet =>
      obtain ⟨-, old, hold, -⟩ := Merging.meet_mem hmeet
      refine ⟨hpre.resident_or_added hold, fun hmem => ?_⟩
      have hgone := ((hpre.indexed hi).replaced key (hpre.replaced_iff.2 (.inr hmem))).1
      rw [hold] at hgone
      cases hgone

/-- An added key is fresh, it is added once, and the processor is told once. -/
theorem fresh_of_added {old? : Option (PrimaryKey × Record)}
    (h : Fates m v (pre ++ (e, .added key old?) :: post) v' m') (hv : v.Sound) :
    v.records.get? key = none ∧ key ∉ added pre ∧
      (Merge.changesOf (pre ++ (e, .added key old?) :: post)).filter
        (fun c => c.kind == .add && c.key == key) = [⟨.add, key, e.record⟩] ∧
      (Merge.callsOf (pre ++ (e, .added key old?) :: post)).filter
        (·.assigned? == some key.storageKey) = [.assignKey key.storageKey e] := by
  obtain ⟨m₁, v₁, hpre, hpost⟩ := split h
  cases hpost with
  | @cons _ m₂ _ _ v₂ _ _ _ _ hf hs =>
    have hlt : v₁.lastKey < key ∧ v₂.lastKey = key := by
      cases hf with
      | replaced _ _ _ hkey | added _ _ hkey => exact ⟨PrimaryKey.lt_of_next? hkey, rfl⟩
    have hpre' : key ∉ added pre := fun hmem =>
      Int64.lt_irrefl (Int64.lt_of_lt_of_le hlt.1 (hpre.le_of_added hmem))
    have hpost' : key ∉ added post := fun hmem => by
      have := hs.lt_of_added hmem
      rw [hlt.2] at this
      exact Int64.lt_irrefl this
    refine ⟨hv.fresh (Int64.lt_of_le_of_lt hpre.lastKey_le hlt.1), hpre', ?_, ?_⟩
    · have hnone : ∀ gs, key ∉ added gs →
          (Merge.changesOf gs).filter (fun c => c.kind == .add && c.key == key) = [] := by
        intro gs hgs
        refine List.filter_eq_nil_iff.2 fun c hc hkey => hgs ?_
        simp only [Bool.and_eq_true, beq_iff_eq] at hkey
        exact hkey.2 ▸ added_of_change hc hkey.1
      have hself : (Fate.changes e (.added key old?)).filter
          (fun c => c.kind == .add && c.key == key) = [⟨.add, key, e.record⟩] := by
        cases old? <;> simp [Fate.changes]
      rw [Merge.changesOf, List.flatMap_append, List.flatMap_cons, List.filter_append,
        List.filter_append, hself]
      exact (congrArg (· ++ _) (hnone pre hpre')).trans (congrArg (_ :: ·) (hnone post hpost'))
    · have hnone : ∀ gs, key ∉ added gs →
          (Merge.callsOf gs).filter (·.assigned? == some key.storageKey) = [] := by
        intro gs hgs
        refine List.filter_eq_nil_iff.2 fun c hc hkey => hgs ?_
        obtain ⟨k, e', hk, rfl⟩ := added_of_call hc
        simp only [ProcessorCall.assigned?, beq_iff_eq, Option.some.injEq,
          PrimaryKey.storageKey_inj] at hkey
        exact hkey ▸ hk
      have hself : (Fate.calls e (.added key old?)).filter
          (·.assigned? == some key.storageKey) = [.assignKey key.storageKey e] := by
        simp [Fate.calls, ProcessorCall.assigned?]
      rw [Merge.callsOf, List.flatMap_append, List.flatMap_cons, List.filter_append,
        List.filter_append, hself]
      exact (congrArg (· ++ _) (hnone pre hpre')).trans (congrArg (_ :: ·) (hnone post hpost'))

/-- Every entity has been counted. -/
theorem counted {fs : List (Entity × Fate)} (h : Fates m v fs v' m') :
    m'.summary.matched + m'.summary.remoteOnly =
      m.summary.matched + m.summary.remoteOnly + fs.length := by
  induction h with
  | nil => rfl
  | cons hf _ ih =>
    rw [ih, List.length_cons]
    cases hf <;> simp [Merging.countMatched, Merging.countRemoteOnly, Merging.note] <;> omega

end Fates

/-! ## 4. The account -/

/-- What becomes of a record that was resident at the start. -/
inductive Ending where
  | overwritten
  | removed
  | announced
  deriving DecidableEq

/-- What each ending of a record means for the changes, the calls of the processor, and the records
    afterwards. -/
def Ending.Holds (fs : List (Entity × Fate)) (changes : List LocalChange)
    (calls : List ProcessorCall) (after : SortedMap PrimaryKey Record) (key : PrimaryKey)
    (r : Record) : Ending → Prop
  /- It is under its key with the data of the last entity applied to it, and is not announced. -/
  | .overwritten => (∃ e, (Fates.applied fs key).getLast? = some e ∧
      e.record.naturalKey = r.naturalKey ∧ after.get? key = some e.record) ∧
      calls.filter (·.put? == some key.storageKey) = []
  /- It is gone, with one removal among the changes, and is not announced. -/
  | .removed => after.get? key = none ∧
      changes.filter (fun c => c.kind == .remove && c.key == key) = [⟨.remove, key, r⟩] ∧
      calls.filter (·.put? == some key.storageKey) = []
  /- It is as it was, no change names it, and it is announced once. -/
  | .announced => after.get? key = some r ∧ (∀ c ∈ changes, c.key ≠ key) ∧
      calls.filter (·.put? == some key.storageKey) = [.put key.storageKey (Entity.ofRecord r)]

/-- What a merge owes to its caller: the fate of every record and of every entity. -/
structure Accounts (before : SortedMap PrimaryKey Record) (entities : List Entity)
    (summary : MergeSummary) (fs : List (Entity × Fate)) (changes : List LocalChange)
    (calls : List ProcessorCall) (after : SortedMap PrimaryKey Record) : Prop where
  /-- Every entity has one fate. -/
  entities_eq : fs.map (·.1) = entities
  /-- The changes are those of the fates, one fate after another. -/
  changes_eq : changes = Merge.changesOf fs
  /-- The calls are those of the fates, and then records are announced. -/
  calls_eq : ∃ puts, calls = Merge.callsOf fs ++ puts ∧ (∀ c ∈ puts, ∃ key e, c = .put key e) ∧
    summary.localOnly = puts.length
  /-- Every record has one ending. -/
  records : ∀ key r, before.get? key = some r →
    ∃ ending : Ending, ending.Holds fs changes calls after key r ∧
      ∀ other : Ending, other.Holds fs changes calls after key r → other = ending
  /-- What an entity overwrites is resident then. -/
  resident : ∀ pre e key post, fs = pre ++ (e, .overwrote key) :: post →
    ((∃ r, before.get? key = some r) ∨ key ∈ Fates.added pre) ∧ key ∉ Fates.removed pre
  /-- What an entity becomes is under a fresh key: one addition, and one call with its key. -/
  fresh : ∀ pre e key old? post, fs = pre ++ (e, .added key old?) :: post →
    before.get? key = none ∧ key ∉ Fates.added pre ∧
      changes.filter (fun c => c.kind == .add && c.key == key) = [⟨.add, key, e.record⟩] ∧
      calls.filter (·.assigned? == some key.storageKey) = [.assignKey key.storageKey e]
  /-- All entities are counted. -/
  counted : summary.matched + summary.remoteOnly = entities.length

namespace Merge

/-- Records that were matched or replaced are not announced. -/
theorem isSettled_iff {m : Merging} {key : PrimaryKey} :
    m.isSettled key = true ↔ key ∈ m.matched ∨ key ∈ m.replaced := by
  simp [Merging.isSettled]

/-- The calls for entities announce nothing. -/
theorem filter_put_callsOf (fs : List (Entity × Fate)) (key : StorageKey) :
    (callsOf fs).filter (·.put? == some key) = [] := by
  refine List.filter_eq_nil_iff.2 fun c hc => ?_
  obtain ⟨k, e, -, rfl⟩ := Fates.added_of_call hc
  simp [ProcessorCall.put?]

/-- The announcements assign no keys. -/
theorem filter_assigned_puts (rs : List (PrimaryKey × Record)) (key : StorageKey) :
    (rs.map putOf).filter (·.assigned? == some key) = [] := by
  refine List.filter_eq_nil_iff.2 fun c hc => ?_
  obtain ⟨x, -, rfl⟩ := List.mem_map.1 hc
  simp [putOf, ProcessorCall.assigned?]

/-- Announcements of a key are those of its records. -/
theorem filter_put_puts (rs : List (PrimaryKey × Record)) (key : PrimaryKey) :
    (rs.map putOf).filter (·.put? == some key.storageKey) = (rs.filter (·.1 == key)).map putOf := by
  rw [List.filter_map]
  congr 1
  refine List.filter_congr fun x _ => ?_
  rw [Bool.eq_iff_iff]
  simp [putOf, ProcessorCall.put?]

/-- The announcements among the calls of a merge. -/
theorem filter_puts (fs : List (Entity × Fate)) (rs : List (PrimaryKey × Record)) :
    (callsOf fs ++ rs.map putOf).filter (·.put?.isSome) = rs.map putOf := by
  have hnone : (callsOf fs).filter (·.put?.isSome) = [] := by
    refine List.filter_eq_nil_iff.2 fun c hc => ?_
    obtain ⟨k, e, -, rfl⟩ := Fates.added_of_call hc
    simp [ProcessorCall.put?]
  have hall : (rs.map putOf).filter (·.put?.isSome) = rs.map putOf := by
    refine List.filter_eq_self.2 fun c hc => ?_
    obtain ⟨x, -, rfl⟩ := List.mem_map.1 hc
    rfl
  rw [List.filter_append, hnone, hall, List.nil_append]

/-- A resident record is announced once if no entity has met it, and else not at all. -/
theorem filter_put_unmet {m : Merging} {records : SortedMap PrimaryKey Record} {key : PrimaryKey}
    {r : Record} (h : records.get? key = some r) :
    ((unmet m records.toList).map putOf).filter (·.put? == some key.storageKey) =
      if m.isSettled key then [] else [.put key.storageKey (Entity.ofRecord r)] := by
  rw [filter_put_puts, unmet, List.filter_filter]
  have hcomm : (fun x : PrimaryKey × Record => x.1 == key && !m.isSettled x.1) =
      fun x => !m.isSettled x.1 && x.1 == key := funext fun x => Bool.and_comm _ _
  rw [hcomm, ← List.filter_filter, SortedMap.filter_toList_of_get? h, List.filter_cons]
  cases m.isSettled key <;> rfl

end Merge

namespace Device

variable {π : Type} [Processor π] {d d' : Device π} {remote : List RemoteChange}
  {summary : MergeSummary} {fs : List (Entity × Fate)} {m : Merging}

/-- What the processor was told by a merge. -/
def Merged.calls (d : Device π) (fs : List (Entity × Fate)) (m : Merging) : List ProcessorCall :=
  Merge.callsOf fs ++ (Merge.unmet m d.store.vault.records.toList).map Merge.putOf

/-- The processor is told this and nothing else. -/
theorem Merged.processor (h : Merged d remote summary fs m d') :
    d'.processor = ProcessorCall.hearAll (calls d fs m) d.processor := by
  obtain ⟨asked, hheard, -⟩ := h.heard
  have hfirst := congrArg Prod.fst hheard
  rw [Work.Event.processor_hear, List.filterMap_append, List.filterMap_append,
    Merge.filterMap_eventsOf] at hfirst
  have hputs : ∀ rs : List (PrimaryKey × Record),
      (rs.map fun x => Work.Event.call (Merge.putOf x)).filterMap Work.Event.call? =
        rs.map Merge.putOf := by
    intro rs
    simp [List.filterMap_map, Function.comp_def, Work.Event.call?]
  have hclosing : (Merge.closing d.pending).filterMap Work.Event.call? = [] := rfl
  rw [hputs, hclosing, List.append_nil] at hfirst
  exact hfirst

/-- Which records a merge has met. -/
theorem Merged.isSettled (h : Merged d remote summary fs m d') {key : PrimaryKey} :
    m.isSettled key = true ↔ Fates.applied fs key ≠ [] ∨ key ∈ Fates.removed fs := by
  obtain ⟨hmatched, hreplaced, -⟩ := Merging.ofRecords_start d.store.vault.records
  rw [Merge.isSettled_iff, h.fates.matched_iff, h.fates.replaced_iff, hmatched, hreplaced]
  simp

theorem Merged.not_met (h : Merged d remote summary fs m d') {key : PrimaryKey}
    (hunmet : m.isSettled key = false) :
    Fates.applied fs key = [] ∧ key ∉ Fates.removed fs := by
  have hnot : ¬ (Fates.applied fs key ≠ [] ∨ key ∈ Fates.removed fs) := by
    rw [← h.isSettled, hunmet]
    exact Bool.false_ne_true
  exact (not_or.1 hnot).imp_left Classical.not_not.1

/-- A record that no entity has met is still there. -/
theorem Merged.get?_of_unmet (h : Merged d remote summary fs m d') (hsound : d.store.vault.Sound)
    {key : PrimaryKey} {r : Record} (hr : d.store.vault.records.get? key = some r)
    (hunmet : m.isSettled key = false) : d'.store.vault.records.get? key = some r := by
  obtain ⟨happlied, hremoved⟩ := h.not_met hunmet
  rw [(h.fates.untouched (hsound key r hr) happlied hremoved).2]
  exact hr

/-- Endings exclude one another: a removed record is not there any more, and only an announced one is put
    to the processor. -/
theorem Ending.Holds.unique {fs : List (Entity × Fate)} {changes : List LocalChange}
    {calls : List ProcessorCall} {after : SortedMap PrimaryKey Record} {key : PrimaryKey} {r : Record}
    {x y : Ending} (hx : x.Holds fs changes calls after key r) (hy : y.Holds fs changes calls after key r) :
    x = y := by
  have hgone : Ending.removed.Holds fs changes calls after key r → after.get? key = none := And.left
  have hquiet : Ending.overwritten.Holds fs changes calls after key r →
      calls.filter (·.put? == some key.storageKey) = [] ∧ after.get? key ≠ none := fun h => by
    obtain ⟨⟨e, -, -, hafter⟩, hputs⟩ := h
    exact ⟨hputs, by simp [hafter]⟩
  have hloud : Ending.announced.Holds fs changes calls after key r →
      calls.filter (·.put? == some key.storageKey) ≠ [] ∧ after.get? key ≠ none := fun h => by
    obtain ⟨hafter, -, hputs⟩ := h
    exact ⟨by simp [hputs], by simp [hafter]⟩
  cases x <;> cases y
  case overwritten.overwritten | removed.removed | announced.announced => rfl
  case overwritten.removed => exact absurd (hgone hy) (hquiet hx).2
  case removed.overwritten => exact absurd (hgone hx) (hquiet hy).2
  case announced.removed => exact absurd (hgone hy) (hloud hx).2
  case removed.announced => exact absurd (hgone hx) (hloud hy).2
  case overwritten.announced => exact absurd (hquiet hx).1 (hloud hy).1
  case announced.overwritten => exact absurd (hquiet hy).1 (hloud hx).1

/-- Every record has an ending. -/
theorem Merged.some_ending (h : Merged d remote summary fs m d') (hsound : d.store.vault.Sound)
    {key : PrimaryKey} {r : Record} (hr : d.store.vault.records.get? key = some r) :
    ∃ ending : Ending,
      ending.Holds fs (Merge.changesOf fs) (calls d fs m) d'.store.vault.records key r := by
  have hle := hsound key r hr
  have hputs : (calls d fs m).filter (·.put? == some key.storageKey) =
      if m.isSettled key then [] else [.put key.storageKey (Entity.ofRecord r)] := by
    rw [calls, List.filter_append, Merge.filter_put_callsOf, Merge.filter_put_unmet hr]
    rfl
  by_cases hremoved : key ∈ Fates.removed fs
  · obtain ⟨hchanges, hget⟩ := h.fates.removed_once hle hr hremoved
    rw [if_pos (h.isSettled.2 (.inr hremoved))] at hputs
    refine ⟨.removed, hget, ?_, hputs⟩
    rw [← List.filter_filter, hchanges]
    rfl
  obtain ⟨hget, hnatural⟩ := h.fates.overwritten hle hr hremoved
  by_cases happlied : Fates.applied fs key = []
  · obtain ⟨hchanges, -⟩ := h.fates.untouched hle happlied hremoved
    have hunsettled : ¬ m.isSettled key = true := fun hs =>
      (h.isSettled.1 hs).elim (fun ha => ha happlied) hremoved
    rw [if_neg hunsettled] at hputs
    rw [happlied] at hget
    exact ⟨.announced, hget, hchanges, hputs⟩
  · obtain ⟨e, he⟩ := Option.ne_none_iff_exists'.1 fun hnone =>
      happlied (List.getLast?_eq_none_iff.1 hnone)
    rw [if_pos (h.isSettled.2 (.inl happlied))] at hputs
    rw [he] at hget
    exact ⟨.overwritten, ⟨e, he, hnatural e (List.mem_of_getLast? he), hget⟩, hputs⟩

/-- **Every record has one ending.** -/
theorem Merged.ending (h : Merged d remote summary fs m d') (hsound : d.store.vault.Sound)
    {key : PrimaryKey} {r : Record} (hr : d.store.vault.records.get? key = some r) :
    ∃ ending : Ending,
      ending.Holds fs (Merge.changesOf fs) (calls d fs m) d'.store.vault.records key r ∧
      ∀ other : Ending,
        other.Holds fs (Merge.changesOf fs) (calls d fs m) d'.store.vault.records key r →
        other = ending := by
  obtain ⟨ending, hholds⟩ := h.some_ending hsound hr
  exact ⟨ending, hholds, fun _ hother => Ending.Holds.unique hother hholds⟩

/-- Every entity of the list has a fate. -/
theorem Merged.data (h : Merged d remote summary fs m d') :
    fs.map (·.1) = remote.filterMap (·.data) := by
  have hdata := congrArg (List.filterMap id) h.entities
  rw [List.filterMap_map, List.filterMap_map] at hdata
  refine Eq.trans ?_ hdata.symm
  simp

/-- A merge that succeeds has an account. -/
theorem Merged.accounts (h : Merged d remote summary fs m d') (hsound : d.store.vault.Sound) :
    Accounts d.store.vault.records (remote.filterMap (·.data)) summary fs (Merge.changesOf fs)
      (calls d fs m) d'.store.vault.records where
  entities_eq := h.data
  changes_eq := rfl
  calls_eq := by
    refine ⟨_, rfl, fun c hc => ?_, ?_⟩
    · obtain ⟨x, -, rfl⟩ := List.mem_map.1 hc
      exact ⟨_, _, rfl⟩
    · rw [h.summary, List.length_map]
  records _ _ hr := h.ending hsound hr
  resident pre e key post heq :=
    (heq ▸ h.fates).resident_of_overwrote (.ofRecords hsound)
  fresh pre e key old? post heq := by
    obtain ⟨hnone, hpre, hadds, hcalls⟩ := (heq ▸ h.fates).fresh_of_added hsound
    refine ⟨hnone, hpre, heq ▸ hadds, ?_⟩
    rw [calls, List.filter_append, Merge.filter_assigned_puts, List.append_nil]
    exact heq ▸ hcalls
  counted := by
    have hcount := h.fates.counted
    rw [(Merging.ofRecords_start _).2.2] at hcount
    rw [h.summary]
    refine hcount.trans ?_
    rw [← h.data]
    simp

/-- **A merge accounts for every record and every entity.** -/
theorem merge_accounts (hquiet : d.store.Quiet) (hsound : d.store.vault.Sound)
    (h : (merge remote).perform d = (.ok summary, d')) :
    ∃ fs changes calls,
      (d.batch .bridge .remote (body (Merge.work remote))).1 = .committed (.ok summary) changes ∧
      d'.processor = ProcessorCall.hearAll calls d.processor ∧
      Accounts d.store.vault.records (remote.filterMap (·.data)) summary fs changes calls
        d'.store.vault.records := by
  obtain ⟨fs, m, hmerged⟩ := merge_ok hquiet hsound h
  exact ⟨fs, _, _, hmerged.batch, hmerged.processor, hmerged.accounts hsound⟩

/-- A device with two records. -/
def stocked : Device Recorder where
  store := .table ((({} : Table).seed 1 (.sample "a")).seed 2 (.sample "b"))
  processor := {}
  notifier := .ofCapacity 1

theorem quiet_stocked : stocked.store.Quiet := rfl

theorem sound_stocked : stocked.store.vault.Sound :=
  (Store.Reached.seed 2 (.sample "b") (.seed 1 (.sample "a") .table)).sound.vault

/-- One record is overwritten and one announced, and one entity becomes a record. -/
theorem merge_accounts_stocked :
    ∃ d', (merge [.sample "a", .sample "c"]).perform stocked =
        (.ok { matched := 1, remoteOnly := 1, localOnly := 1 }, d') ∧
      ∃ fs changes calls,
        (stocked.batch .bridge .remote (body (Merge.work [.sample "a", .sample "c"]))).1 =
          .committed (.ok { matched := 1, remoteOnly := 1, localOnly := 1 }) changes ∧
        d'.processor = ProcessorCall.hearAll calls stocked.processor ∧
        Accounts stocked.store.vault.records
          (([.sample "a", .sample "c"] : List RemoteChange).filterMap (·.data))
          { matched := 1, remoteOnly := 1, localOnly := 1 } fs changes calls
          d'.store.vault.records := by
  have hmerge : ((merge [.sample "a", .sample "c"]).perform stocked).1.toOption =
      some { matched := 1, remoteOnly := 1, localOnly := 1 } := by decide +kernel
  have h := ok_of_toOption hmerge
  exact ⟨_, h, merge_accounts quiet_stocked sound_stocked h⟩

end Device

end CredentialSync
