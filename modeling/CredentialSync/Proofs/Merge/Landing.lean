import CredentialSync.Proofs.Merge.Kept
import CredentialSync.Proofs.Merge.Natural
import Mathlib.Data.List.Find

/-!
# Where remote entities land

`Fate.key` is the key under which a merge leaves the data of an entity. The candidates of a client tag
are always in key order (`Merging.Ascending`), so that an entity meets the record that a search for its
natural key finds (`Merging.meet?_eq`), and is itself found under its key right after (`Fated.found`).

If no two natural keys of the entities share a client tag (`Merge.Apart`), nothing that comes later
changes this: behind all entities each is found under its key (`Fates.landed`), and the record there is
that of the last entity with its natural key (`Fates.under?_eq`).
-/

namespace CredentialSync

/-! ## 1. Searches for natural keys -/

/-- In ascending keys a search finds the least key with the property. -/
theorem PrimaryKey.find?_eq_some_iff {keys : List PrimaryKey} (h : keys.Pairwise (· < ·))
    {p : PrimaryKey → Bool} {key : PrimaryKey} :
    keys.find? p = some key ↔
      key ∈ keys ∧ p key = true ∧ ∀ k ∈ keys, p k = true → key ≤ k := by
  induction keys with
  | nil => simp
  | cons k keys ih =>
    obtain ⟨hk, hkeys⟩ := List.pairwise_cons.1 h
    by_cases hp : p k = true
    · rw [List.find?_cons_of_pos hp, Option.some.injEq]
      constructor
      · rintro rfl
        refine ⟨List.mem_cons_self, hp, fun k' hk' _ => ?_⟩
        rcases List.mem_cons.1 hk' with rfl | hk'
        · exact Int64.le_refl _
        · exact Int64.le_of_lt (hk k' hk')
      · rintro ⟨hmem, -, hleast⟩
        rcases List.mem_cons.1 hmem with rfl | hmem
        · rfl
        · have hle : key ≤ k := hleast k List.mem_cons_self hp
          exact absurd (Int64.lt_of_lt_of_le (hk key hmem) hle) Int64.lt_irrefl
    · rw [List.find?_cons_of_neg hp, ih hkeys]
      constructor
      · rintro ⟨hmem, hkey, hleast⟩
        refine ⟨List.mem_cons_of_mem _ hmem, hkey, fun k' hk' hpk' => ?_⟩
        rcases List.mem_cons.1 hk' with rfl | hk'
        · exact absurd hpk' hp
        · exact hleast k' hk' hpk'
      · rintro ⟨hmem, hkey, hleast⟩
        rcases List.mem_cons.1 hmem with rfl | hmem
        · exact absurd hkey hp
        · exact ⟨hmem, hkey, fun k' hk' => hleast k' (List.mem_cons_of_mem _ hk')⟩

namespace Vault

variable {v w : Vault} {key : PrimaryKey} {r old : Record} {n : NaturalKey}

theorem pairwise_keys (v : Vault) : v.records.keys.Pairwise (· < ·) :=
  List.pairwise_map.2 (v.records.ascending.imp fun h => Std.compare_eq_lt.1 h)

/-- A natural key is searched for among the keys in order. -/
theorem find?_eq (v : Vault) (n : NaturalKey) :
    v.find? n = v.records.keys.find? fun k => (v.records.get? k).any (·.naturalKey == n) := by
  unfold find? SortedMap.findKey? SortedMap.keys
  rw [List.find?_map]
  refine congrArg (Option.map Prod.fst) (List.find?_congr fun x hx => ?_)
  have hget : v.records.get? x.1 = some x.2 := SortedMap.mem_toList_iff.1 hx
  simp [hget]

/-- **A search finds the least key of a record with the natural key.** -/
theorem find?_eq_some_iff : v.find? n = some key ↔
    (∃ r, v.records.get? key = some r ∧ r.naturalKey = n) ∧
      ∀ k r, v.records.get? k = some r → r.naturalKey = n → key ≤ k := by
  have hkeys : ∀ k r, v.records.get? k = some r → k ∈ v.records.keys := fun k r hr =>
    List.mem_map.2 ⟨(k, r), SortedMap.mem_toList_iff.2 hr, rfl⟩
  have hany : ∀ k, ((v.records.get? k).any (·.naturalKey == n)) = true ↔
      ∃ r, v.records.get? k = some r ∧ r.naturalKey = n := by
    intro k
    cases v.records.get? k <;> simp
  rw [find?_eq, PrimaryKey.find?_eq_some_iff v.pairwise_keys, hany]
  constructor
  · rintro ⟨-, hkey, hleast⟩
    exact ⟨hkey, fun k r hr hn => hleast k (hkeys k r hr) ((hany k).2 ⟨r, hr, hn⟩)⟩
  · rintro ⟨⟨r, hr, hn⟩, hleast⟩
    refine ⟨hkeys key r hr, ⟨r, hr, hn⟩, fun k _ hk => ?_⟩
    obtain ⟨r', hr', hn'⟩ := (hany k).1 hk
    exact hleast k r' hr' hn'

theorem find?_of_lacks (h : v.lacks n = false) : ∃ key, v.find? n = some key := by
  refine Option.ne_none_iff_exists'.1 fun hnone => ?_
  rw [lacks_iff_find?.2 hnone] at h
  cases h

/-- Searches depend on the keys of the records with the natural key only. -/
theorem find?_congr (h : ∀ k, (∃ r, v.records.get? k = some r ∧ r.naturalKey = n) ↔
    ∃ r, w.records.get? k = some r ∧ r.naturalKey = n) : v.find? n = w.find? n := by
  have hleast : ∀ key, (∀ k r, v.records.get? k = some r → r.naturalKey = n → key ≤ k) ↔
      ∀ k r, w.records.get? k = some r → r.naturalKey = n → key ≤ k := by
    intro key
    constructor
    · intro hall k r hr hn
      obtain ⟨r', hr', hn'⟩ := (h k).2 ⟨r, hr, hn⟩
      exact hall k r' hr' hn'
    · intro hall k r hr hn
      obtain ⟨r', hr', hn'⟩ := (h k).1 ⟨r, hr, hn⟩
      exact hall k r' hr' hn'
  refine Option.ext fun key => ?_
  rw [find?_eq_some_iff, find?_eq_some_iff, h key, hleast key]

/-- A record that takes the place of one with its natural key changes no search. -/
theorem find?_put (hold : v.records.get? key = some old) (hn : old.naturalKey = r.naturalKey)
    (n : NaturalKey) : (v.put key r).find? n = v.find? n := by
  refine find?_congr fun k => ?_
  rw [records_put, SortedMap.get?_insert]
  by_cases hk : key = k
  · subst hk
    simp [hold, hn]
  · rw [if_neg hk]

/-- A new record is found if no other has its natural key. -/
theorem find?_insertNew (h : v.find? r.naturalKey = none) (key : PrimaryKey) :
    (v.insertNew key r).find? r.naturalKey = some key := by
  refine find?_eq_some_iff.2 ⟨⟨r, by simp, rfl⟩, fun k s hs hsn => ?_⟩
  rw [records_insertNew, SortedMap.get?_insert] at hs
  split at hs
  · next hk => exact hk ▸ Int64.le_refl _
  · exact absurd hsn (find?_eq_none.1 h k s hs)

end Vault

/-! ## 2. Candidates in order -/

/-- The candidates of every client tag are in key order. -/
def Merging.Ascending (m : Merging) : Prop := ∀ tag, (m.candidates tag).Pairwise (· < ·)

/-- The records at the start are noted in key order. -/
theorem Merging.ascending_ofRecords (v : Vault) : (Merging.ofRecords v.records).Ascending := by
  intro tag
  rw [candidates_ofRecords]
  exact v.pairwise_keys.sublist (List.Sublist.map _ List.filter_sublist)

/-- The key under which a fate leaves the data of its entity. -/
def Fate.key : Fate → PrimaryKey
  | .overwrote key => key
  | .added key _ => key

section Step

variable {m m' : Merging} {v v' : Vault} {e e' : Entity} {f : Fate} {key : PrimaryKey}

/-- A new key is greater than all candidates. -/
theorem Indexed.candidate_lt (hi : Indexed m v) {tag : String}
    (hkey : PrimaryKey.next? v.lastKey = some key) : ∀ k ∈ m.candidates tag, k < key := by
  intro k hk
  obtain ⟨r, hr, -⟩ := (hi.candidates tag k).1 hk
  exact Int64.lt_of_le_of_lt (hi.sound k r hr) (PrimaryKey.lt_of_next? hkey)

/-- A new key behind candidates in order. -/
theorem PrimaryKey.pairwise_concat {keys : List PrimaryKey} (h : keys.Pairwise (· < ·))
    (hkey : ∀ k ∈ keys, k < key) : (keys ++ [key]).Pairwise (· < ·) := by
  refine List.pairwise_append.2 ⟨h, List.pairwise_singleton _ _, fun k hk k' hk' => ?_⟩
  rw [List.mem_singleton.1 hk']
  exact hkey k hk

/-- **An entity keeps the candidates in order.** -/
theorem Fated.ascending (h : Fated m v e f v' m') (hi : Indexed m v) (ha : m.Ascending) :
    m'.Ascending := by
  intro tag
  cases h with
  | overwrote => exact ha tag
  | @replaced old key r hmeet hvictim hold hkey =>
    have hfilter : ((m.candidates tag).filter (· != old)).Pairwise (· < ·) := (ha tag).filter _
    rw [hi.candidates_replaced hold hkey]
    split
    · exact PrimaryKey.pairwise_concat hfilter fun k hk =>
        hi.candidate_lt hkey k (List.mem_filter.1 hk).1
    · exact hfilter
  | added hmeet hvictim hkey =>
    rw [hi.candidates_added hkey]
    split
    · exact PrimaryKey.pairwise_concat (ha tag) (hi.candidate_lt hkey)
    · exact ha tag

/-- **An entity meets the record that a search for its natural key finds.** -/
theorem Merging.meet?_eq (hi : Indexed m v) (ha : m.Ascending) (e : Entity) :
    m.meet? v e = v.find? e.record.naturalKey := by
  refine Option.ext fun key => ?_
  rw [meet?, PrimaryKey.find?_eq_some_iff (ha _), Vault.find?_eq_some_iff, Vault.holds_iff]
  have hcandidate : ∀ k r, v.records.get? k = some r → r.naturalKey = e.record.naturalKey →
      k ∈ m.candidates e.specifics.tag := fun k r hr hn =>
    (hi.candidates _ k).2 ⟨r, hr, (Record.tag_eq hn).trans e.tag_record⟩
  constructor
  · rintro ⟨-, hkey, hleast⟩
    refine ⟨hkey, fun k r hr hn => hleast k (hcandidate k r hr hn) (Vault.holds_iff.2 ⟨r, hr, hn⟩)⟩
  · rintro ⟨⟨r, hr, hn⟩, hleast⟩
    refine ⟨hcandidate key r hr hn, ⟨r, hr, hn⟩, fun k _ hk => ?_⟩
    obtain ⟨r', hr', hn'⟩ := Vault.holds_iff.1 hk
    exact hleast k r' hr' hn'

/-! ## 3. One entity -/

/-- An entity is found under its key, with its data. -/
theorem Fated.found (h : Fated m v e f v' m') (hi : Indexed m v) (ha : m.Ascending) :
    v'.find? e.record.naturalKey = some f.key ∧ v'.records.get? f.key = some e.record := by
  cases h with
  | @overwrote key hmeet =>
    obtain ⟨-, old, hold, hn⟩ := Merging.meet_mem hmeet
    refine ⟨?_, by simp [Fate.key]⟩
    rw [Vault.find?_put hold hn, ← Merging.meet?_eq hi ha, hmeet]
    rfl
  | @replaced old key r hmeet hvictim hold hkey =>
    have hnone : (v.drop old).find? e.record.naturalKey = none :=
      Vault.find?_drop (Merge.find?_of_meet_none hi hmeet) old
    exact ⟨Vault.find?_insertNew hnone key, by simp [Fate.key]⟩
  | @added key hmeet hvictim hkey =>
    exact ⟨Vault.find?_insertNew (Merge.find?_of_meet_none hi hmeet) key, by simp [Fate.key]⟩

/-- An entity whose natural key is found overwrites the record there, and changes no search. -/
theorem Fated.overwrote_of_found (h : Fated m v e f v' m') (hi : Indexed m v) (ha : m.Ascending)
    (hfind : v.find? e.record.naturalKey = some key) :
    f = .overwrote key ∧ m'.summary = m.countMatched.summary ∧ ∀ n, v'.find? n = v.find? n := by
  rw [← Merging.meet?_eq hi ha] at hfind
  cases h with
  | overwrote hmeet =>
    obtain rfl := Option.some.inj (hmeet.symm.trans hfind)
    obtain ⟨-, old, hold, hn⟩ := Merging.meet_mem hmeet
    exact ⟨rfl, rfl, Vault.find?_put hold hn⟩
  | replaced hmeet | added hmeet =>
    rw [hmeet] at hfind
    cases hfind

/-- An entity changes no search under other client tags. -/
theorem Fated.find?_eq (h : Fated m v e f v' m') (hi : Indexed m v)
    (htag : e'.specifics.tag ≠ e.specifics.tag) :
    v'.find? e'.record.naturalKey = v.find? e'.record.naturalKey := by
  refine Vault.find?_congr fun k => exists_congr fun r => and_congr_left fun hn => ?_
  have hr : r.specifics.tag = e'.specifics.tag := (Record.tag_eq hn).trans e'.tag_record
  exact h.get?_iff hi (fun he => htag (hr.symm.trans he)) k

end Step

/-! ## 4. All entities -/

namespace Merge

/-- No two natural keys of the entities share a client tag. -/
def Apart (es : List Entity) : Prop :=
  ∀ e ∈ es, ∀ e' ∈ es, e.specifics.tag = e'.specifics.tag →
    e.record.naturalKey = e'.record.naturalKey

instance (es : List Entity) : Decidable (Apart es) :=
  inferInstanceAs (Decidable (∀ e ∈ es, ∀ e' ∈ es, e.specifics.tag = e'.specifics.tag →
    e.record.naturalKey = e'.record.naturalKey))

theorem Apart.tail {e : Entity} {es : List Entity} (h : Apart (e :: es)) : Apart es :=
  fun e₁ he₁ e₂ he₂ => h e₁ (List.mem_cons_of_mem _ he₁) e₂ (List.mem_cons_of_mem _ he₂)

end Merge

namespace Fates

variable {m m' : Merging} {v v' : Vault} {fs pre post : List (Entity × Fate)} {e : Entity} {f : Fate}
  {key : PrimaryKey}

/-- **The candidates are in order behind all entities.** -/
theorem ascending (h : Fates m v fs v' m') (hi : Indexed m v) (ha : m.Ascending) :
    m'.Ascending := by
  induction h with
  | nil => exact ha
  | cons hf _ ih => exact ih (hf.indexed hi) (hf.ascending hi ha)

/-- Entities leave the records with other client tags alone. -/
theorem get?_iff (h : Fates m v fs v' m') (hi : Indexed m v) {r : Record}
    (htag : ∀ x ∈ fs, r.specifics.tag ≠ x.1.specifics.tag) (k : PrimaryKey) :
    v'.records.get? k = some r ↔ v.records.get? k = some r := by
  induction h with
  | nil => exact Iff.rfl
  | @cons _ _ _ _ _ _ e₁ f₁ fs hf _ ih =>
    have hfirst : r.specifics.tag ≠ e₁.specifics.tag := htag (e₁, f₁) List.mem_cons_self
    have hrest := ih (hf.indexed hi) fun x hx => htag x (List.mem_cons_of_mem _ hx)
    exact hrest.trans (hf.get?_iff hi hfirst k)

/-- What is found stays where it is, if entities with its client tag have its natural key. -/
theorem keeps (h : Fates m v fs v' m') (hi : Indexed m v) (ha : m.Ascending)
    (hapart : ∀ x ∈ fs, x.1.specifics.tag = e.specifics.tag →
      x.1.record.naturalKey = e.record.naturalKey)
    (hfind : v.find? e.record.naturalKey = some key) :
    v'.find? e.record.naturalKey = some key := by
  induction h with
  | nil => exact hfind
  | @cons _ _ _ v v₁ _ e₁ f₁ fs hf _ ih =>
    refine ih (hf.indexed hi) (hf.ascending hi ha)
      (fun x hx => hapart x (List.mem_cons_of_mem _ hx)) ?_
    by_cases htag : e₁.specifics.tag = e.specifics.tag
    · have hn : e₁.record.naturalKey = e.record.naturalKey :=
        hapart (e₁, f₁) List.mem_cons_self htag
      rw [(hf.overwrote_of_found hi ha (hn ▸ hfind)).2.2]
      exact hfind
    · rw [hf.find?_eq hi (Ne.symm htag)]
      exact hfind

/-- **Behind all entities each is found under the key where its data was left.** -/
theorem landed (h : Fates m v fs v' m') (hi : Indexed m v) (ha : m.Ascending)
    (hapart : Merge.Apart (fs.map (·.1))) :
    ∀ x ∈ fs, v'.find? x.1.record.naturalKey = some x.2.key := by
  induction h with
  | nil => exact List.forall_mem_nil _
  | @cons _ _ _ v v₁ _ e₁ f₁ fs hf hs ih =>
    have hi₁ := hf.indexed hi
    have ha₁ := hf.ascending hi ha
    refine List.forall_mem_cons.2 ⟨?_, ih hi₁ ha₁ hapart.tail⟩
    refine hs.keeps hi₁ ha₁ (fun x hx htag => ?_) (hf.found hi ha).1
    exact hapart x.1 (List.mem_cons_of_mem _ (List.mem_map_of_mem hx)) e₁ List.mem_cons_self htag

/-- The last entity with a natural key has its data under its key. -/
theorem last_landed (h : Fates m v (pre ++ (e, f) :: post) v' m') (hi : Indexed m v)
    (ha : m.Ascending) (hapart : Merge.Apart ((pre ++ (e, f) :: post).map (·.1)))
    (hpost : ∀ e' ∈ post.map (·.1), e'.record.naturalKey ≠ e.record.naturalKey) :
    v'.records.get? f.key = some e.record := by
  obtain ⟨m₁, v₁, hpre, hrest⟩ := split h
  have hi₁ := hpre.indexed hi
  cases hrest with
  | cons hf hs =>
    refine (hs.get?_iff (hf.indexed hi₁) (fun x hx htag => ?_) f.key).2
      (hf.found hi₁ (hpre.ascending hi ha)).2
    rw [e.tag_record] at htag
    have he : e ∈ (pre ++ (e, f) :: post).map (·.1) :=
      List.mem_map_of_mem (List.mem_append_right pre List.mem_cons_self)
    have hx' : x.1 ∈ (pre ++ (e, f) :: post).map (·.1) :=
      List.mem_map_of_mem (List.mem_append_right pre (List.mem_cons_of_mem _ hx))
    exact hpost x.1 (List.mem_map_of_mem hx) (hapart x.1 hx' e he htag.symm)

/-- **Behind all entities a natural key is that of the last entity with it.** -/
theorem under?_eq (h : Fates m v fs v' m') (hi : Indexed m v) (ha : m.Ascending)
    (hapart : Merge.Apart (fs.map (·.1))) (he : e ∈ fs.map (·.1)) :
    v'.under? e.record.naturalKey =
      (Merge.lastWith? (fs.map (·.1)) e.record.naturalKey).map Entity.record := by
  obtain ⟨e₁, hlast⟩ := Merge.lastWith_of_mem he
  obtain ⟨hn, pre, post, hsplit, hpost⟩ := Merge.split_of_lastWith hlast
  obtain ⟨fs₁, fs₂, rfl, -, hfs₂⟩ := List.map_eq_append_iff.1 hsplit
  obtain ⟨⟨e₂, f₂⟩, fs₃, rfl, rfl, rfl⟩ := List.map_eq_cons_iff.1 hfs₂
  have hfind : v'.find? e₂.record.naturalKey = some f₂.key :=
    h.landed hi ha hapart (e₂, f₂) (List.mem_append_right _ List.mem_cons_self)
  have hget : v'.records.get? f₂.key = some e₂.record :=
    h.last_landed hi ha hapart (hn.symm ▸ hpost)
  rw [hlast, ← hn, Vault.under?, hfind]
  exact hget

end Fates

end CredentialSync
